import GrammarAudit.Toml.Reader

/-!
# TOML documents

The lines of a document build one table.  Entries before the first header belong
to the document itself, the others to the table under the header above them.  A
line that would define something a second time makes the text no document.

* `parse?` is the table of a text, if the text is a document.
-/

namespace GrammarAudit.Toml

/-- The part of a document under one header: what the header starts, its key,
and the entries. -/
structure Section where
  span : Span
  isElement : Bool
  keys : List Key
  entries : List (List Key × Value)

/-- The entries before the first header, and the parts under headers. -/
def sections : List Line → List (List Key × Value) × List Section
  | [] => ([], [])
  | .entry keys v :: rest =>
    let (entries, parts) := sections rest
    ((keys, v) :: entries, parts)
  | .table span keys :: rest =>
    let (entries, parts) := sections rest
    ([], ⟨span, false, keys, entries⟩ :: parts)
  | .element span keys :: rest =>
    let (entries, parts) := sections rest
    ([], ⟨span, true, keys, entries⟩ :: parts)

/-- Adds entries to a table. -/
def Table.putAll (t : Table) (entries : List (List Key × Value)) : Option Table :=
  entries.foldlM (fun t (keys, v) => t.put .dotted true keys v) t

/-- Changes what a key of several parts leads to; the tables on the way are made
where they are missing, but nothing between brackets or braces is entered.  Of
an array of tables the last one is meant. -/
def Table.update (f : Option Value → Option Value) : Table → List Key → Option Table
  | _, [] => none
  | t, [key] => (f (t.get? key.name)).map (t.set key.name)
  | t, key :: keys =>
    match t.get? key.name with
    | none => (Table.update f [] keys).map fun below =>
        t.set key.name (.table key.span .passed below)
    | some (.table span form below) =>
      if form = .inline then none
      else (Table.update f below keys).map fun below => t.set key.name (.table span form below)
    | some (.array span .headers items) =>
      match items.getLast? with
      | some (.table inner form below) =>
        (Table.update f below keys).map fun below =>
          t.set key.name (.array span .headers (items.dropLast ++ [.table inner form below]))
      | _ => none
    | some _ => none

/-- What stands under the key of a header once its entries are added to what
stood there.  A table may have been passed before but not written; an array has
to consist of tables under headers. -/
def Section.value (s : Section) (old : Option Value) : Option Value :=
  if s.isElement then
    (Table.putAll [] s.entries).bind fun entries =>
      let element := Value.table s.span .header entries
      match old with
      | none => some (.array s.span .headers [element])
      | some (.array span .headers items) => some (.array span .headers (items ++ [element]))
      | some _ => none
  else
    match old with
    | none => (Table.putAll [] s.entries).map (.table s.span .header)
    | some (.table _ .passed below) => (Table.putAll below s.entries).map (.table s.span .header)
    | some _ => none

/-- The table that lines build. -/
def ofLines (lines : List Line) : Option Table :=
  let (entries, parts) := sections lines
  (Table.putAll [] entries).bind fun t =>
    parts.foldlM (fun t s => Table.update s.value t s.keys) t

/-- The characters of a text without the mark of the byte order at its start. -/
def dropMark : List Char → List Char
  | c :: r => if c.toNat = 0xFEFF then r else c :: r
  | [] => []

/-- The table of a text, if the text is a document. -/
def parse? (text : String) : Option Table :=
  let cs := dropMark text.toList
  (readLines (cs.length + 1) cs).bind ofLines

end GrammarAudit.Toml
