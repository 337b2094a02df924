import GrammarAudit.Config.Entry
import GrammarAudit.Toml.Diagnostic
import GrammarAudit.Toml.Document
import GrammarAudit.Toml.Shape

/-!
# Reading a config

A config is a TOML document with an array `grammar`; each of its items describes
a grammar, as a table or, field by field, as an array.  Keys that are not known
are passed over.

* `ofTable` reads the entries from the table of a document, or finds the first
  fault.
* `parse` reads the entries from a text.
-/

namespace GrammarAudit.Config

open Toml

/-- The source that a value stands for: the text `builtin`, or a table with a
path. -/
def source? : Value → Option EntrySource
  | .scalar _ (.text s) => if s = "builtin" then some .builtin else none
  | .table _ _ entries =>
    ((Table.get? entries "path").bind Value.text?).map fun p => .library ⟨p⟩
  | _ => none

/-- What is wrong with a value that should be a source; `place` is blamed where
it is none. -/
def sourceFault? (place : Span) (v : Value) : Option Fault :=
  match anyFault? true v with
  | some fault => some fault
  | none => if (source? v).isSome then none else some ⟨place, .noVariant "SourceConfig"⟩

/-- What is wrong with the value of a field; keys that are not known may have
any value. -/
def fieldFault? (place : Span) (key : String) (v : Value) : Option Fault :=
  if key = "name" ∨ key = "display" then v.textFault? .text
  else if key = "source" then sourceFault? place v
  else if key = "required-kinds" then v.textsFault? .text
  else if key = "samples" then v.textsFault? .path
  else anyFault? false v

/-- The entry that the fields of a table, all of the right shape, describe;
without a name or a source there is none. -/
def entryOf? (t : Table) : Option Entry := do
  let name ← (t.get? "name").bind Value.text?
  let source ← (t.get? "source").bind source?
  return {
    name := name
    display := (t.get? "display").bind Value.text?
    source := source
    requiredKinds := (t.get? "required-kinds").bind Value.texts?
    samples := (((t.get? "samples").bind Value.texts?).getD []).map Path.mk }

/-- The fields of an entry in the order in which an array gives them. -/
def fieldNames : List String := ["name", "display", "source", "required-kinds", "samples"]

/-- The entry that a value describes, or the first fault: fields of a wrong
shape come before fields that are missing. -/
def readEntry : Value → Except Fault Entry
  | .table span _ entries =>
    match entries.findSome? fun (key, v) => fieldFault? v.span key v with
    | some fault => .error fault
    | none =>
      match entryOf? entries with
      | some entry => .ok entry
      | none =>
        .error ⟨span, .missingField (if (Table.get? entries "name").isSome then "source" else "name")⟩
  | .array span _ items =>
    let fields := fieldNames.zip items
    match fields.findSome? fun (key, v) =>
        fieldFault? (if key = "source" then span else v.span) key v with
    | some fault => .error fault
    | none =>
      match entryOf? fields with
      | some entry => .ok entry
      | none =>
        .error ⟨span, .invalidLength (if items.isEmpty then 0 else 2) "GrammarConfig" 5⟩
  | .scalar span .moment => .error ⟨span, .missingField "name"⟩
  | v => .error (v.mismatch (.record "GrammarConfig"))

/-- The entries of the array `grammar`. -/
def readEntries : Value → Except Fault (List Entry)
  | .array _ _ items => items.mapM readEntry
  | v => .error (v.mismatch .sequence)

/-- The entries that the table of a document lists, or the first fault in the
order of the keys. -/
def ofTable (t : Table) : Except Fault (List Entry) :=
  let fault? := fun ((key, v) : String × Value) =>
    if key = "grammar" then
      match readEntries v with
      | .error fault => some fault
      | .ok _ => none
    else anyFault? false v
  match t.findSome? fault?, t.get? "grammar" with
  | some fault, _ => .error fault
  | none, some v => readEntries v
  | none, none => .ok []

/-- The entries that a text lists. -/
def parse (text : String) : Except ConfigError (List Entry) :=
  match parse? text with
  | none => .error .notToml
  | some t => (ofTable t).mapError fun fault =>
      .shape (diagnostic text fault.span fault.cause.message)

end GrammarAudit.Config
