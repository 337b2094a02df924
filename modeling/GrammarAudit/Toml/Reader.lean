import GrammarAudit.Toml.Moment
import GrammarAudit.Toml.Number
import GrammarAudit.Toml.Quotation

/-!
# Reading TOML

A document is read line by line: each line adds an entry under a key, which may
have several parts, or starts a table or an element of an array of tables.  A
text that is no document gives nothing.

* `readLines` reads the lines of a document.
* `readValue` reads a value.
-/

namespace GrammarAudit.Toml

/-- A blank. -/
def isBlank (c : Char) : Bool := c == ' ' || c == '\t'

/-- What follows the blanks at the start of a text. -/
def skipBlanks (cs : List Char) : List Char := cs.dropWhile isBlank

/-- What follows blanks, ends of lines and comments at the start of a text; the
flag says that it starts inside a comment.  Nothing if a comment holds a control
character. -/
def skipGaps : Bool → List Char → Option (List Char)
  | _, [] => some []
  | _, '\n' :: r | _, '\r' :: '\n' :: r => skipGaps false r
  | true, c :: r => if Quotation.isPlain c then skipGaps true r else none
  | false, ' ' :: r | false, '\t' :: r => skipGaps false r
  | false, '#' :: r => skipGaps true r
  | false, c :: r => some (c :: r)

/-- What follows the rest of a line: blanks, a comment, if there is one, and the
end of the line or of the text. -/
def endLine : Bool → List Char → Option (List Char)
  | _, [] => some []
  | _, '\n' :: r | _, '\r' :: '\n' :: r => some r
  | true, c :: r => if Quotation.isPlain c then endLine true r else none
  | false, ' ' :: r | false, '\t' :: r => endLine false r
  | false, '#' :: r => endLine true r
  | false, _ => none

/-- A character of a key without quotes. -/
def isKeyChar (c : Char) : Bool := c.isAlphanum || c == '_' || c == '-'

/-- Reads a part of a key. -/
def readKeyPart (cs : List Char) : Option (Key × List Char) :=
  match Quotation.singleLine? cs with
  | some read =>
    read.map fun (name, rest) => (⟨⟨cs.length, rest.length⟩, String.ofList name⟩, rest)
  | none =>
    let (name, rest) := cs.span isKeyChar
    if name = [] then none else some (⟨⟨cs.length, rest.length⟩, String.ofList name⟩, rest)

/-- The most parts of a key, and the most values that one value can be nested
in. -/
def nestingLimit : Nat := 80

/-- Reads a key with at most as many parts as the fuel says. -/
def readKey : Nat → List Char → Option (List Key × List Char)
  | 0, _ => none
  | fuel + 1, cs =>
    (readKeyPart cs).bind fun (key, rest) =>
      match skipBlanks rest with
      | '.' :: more => (readKey fuel (skipBlanks more)).map fun (keys, rest) => (key :: keys, rest)
      | _ => some ([key], rest)

/-- A character that ends a value without quotes or brackets. -/
def endsScalar (c : Char) : Bool :=
  c == ' ' || c == '\t' || c == '\n' || c == '\r' || c == ',' || c == ']' || c == '\x7d' || c == '#'

/-- The value that a text without quotes and brackets stands for. -/
def classify (cs : List Char) : Option Scalar :=
  if cs = ['t', 'r', 'u', 'e'] then some (.boolean true)
  else if cs = ['f', 'a', 'l', 's', 'e'] then some (.boolean false)
  else
    match Number.integer? cs with
    | some n => some (.integer n)
    | none =>
      match Number.real? cs with
      | some x => some (.real x)
      | none => if Moment.isMoment cs then some .moment else none

/-- The text of a value without quotes and brackets, and the rest.  One blank
may part a date and a time. -/
def spanScalar (cs : List Char) : List Char × List Char :=
  let (text, rest) := cs.span fun c => !endsScalar c
  match Moment.date? text, rest with
  | some [], ' ' :: c :: r =>
    if c.isDigit then
      let (time, rest) := (c :: r).span fun c => !endsScalar c
      (text ++ ' ' :: time, rest)
    else (text, rest)
  | _, _ => (text, rest)

/-- Reads a value that is neither an array nor a table. -/
def readScalar (cs : List Char) : Option (Value × List Char) :=
  match Quotation.string? cs with
  | some read =>
    read.map fun (text, rest) =>
      (.scalar ⟨cs.length, rest.length⟩ (.text (String.ofList text)), rest)
  | none =>
    let (text, rest) := spanScalar cs
    (classify text).map fun s => (.scalar ⟨cs.length, rest.length⟩ s, rest)

/-- Puts a value under a dotted key into a table, which makes the tables on the
way.  Those have to be made by dotted keys only, so nothing that was written
otherwise is added to; the last part must be new.  `here` says whether the table
itself was made on the way. -/
def Table.put (form : TableForm) : Bool → Table → List Key → Value → Option Table
  | _, _, [], _ => none
  | here, t, [key], v =>
    if here then
      match t.get? key.name with
      | some _ => none
      | none => some (t.set key.name v)
    else none
  | _, t, key :: keys, v =>
    match t.get? key.name with
    | none => (Table.put form true [] keys v).map fun below =>
        t.set key.name (.table key.span form below)
    | some (.table span .dotted below) =>
      (Table.put form true below keys v).map fun below =>
        t.set key.name (.table span .dotted below)
    | some (.table span .dottedInline below) =>
      (Table.put form true below keys v).map fun below =>
        t.set key.name (.table span .dottedInline below)
    | some (.table span .passed below) =>
      (Table.put form false below keys v).map fun below =>
        t.set key.name (.table span .passed below)
    | some (.array span .headers items) =>
      match items.getLast? with
      | some (.table inner .header below) =>
        (Table.put form false below keys v).map fun below =>
          t.set key.name (.array span .headers (items.dropLast ++ [.table inner .header below]))
      | _ => none
    | some _ => none

mutual

/-- Reads a value that is nested in fewer values than the limit; `fuel` bounds
the number of values in one array or table. -/
def readValue (fuel : Nat) : Nat → List Char → Option (Value × List Char)
  | 0, cs =>
    match cs with
    | '[' :: _ | '\x7b' :: _ => none
    | cs => readScalar cs
  | depth + 1, cs =>
    match cs with
    | '[' :: r =>
      (skipGaps false r).bind fun r =>
        (readItems fuel depth fuel r).map fun (items, rest) =>
          (.array ⟨cs.length, rest.length⟩ .brackets items, rest)
    | '\x7b' :: r =>
      (skipGaps false r).bind fun r =>
        (readEntries fuel depth fuel [] r).map fun (entries, rest) =>
          (.table ⟨cs.length, rest.length⟩ .inline entries, rest)
    | cs => readScalar cs
termination_by depth _ => (depth, 0)

/-- Reads the values of an array up to its closing bracket. -/
def readItems (fuel depth : Nat) : Nat → List Char → Option (List Value × List Char)
  | 0, _ => none
  | _, ']' :: rest => some ([], rest)
  | count + 1, cs =>
    (readValue fuel depth cs).bind fun (v, r) =>
      (skipGaps false r).bind fun r =>
        match r with
        | ',' :: r =>
          (skipGaps false r).bind fun r =>
            (readItems fuel depth count r).map fun (vs, rest) => (v :: vs, rest)
        | ']' :: rest => some ([v], rest)
        | _ => none
termination_by count _ => (depth, count + 1)

/-- Reads the entries of a table up to its closing brace and adds them to those
read before. -/
def readEntries (fuel depth : Nat) : Nat → Table → List Char → Option (Table × List Char)
  | 0, _, _ => none
  | _, entries, '\x7d' :: rest => some (entries, rest)
  | count + 1, entries, cs =>
    (readKey nestingLimit cs).bind fun (keys, r) =>
      match skipBlanks r with
      | '=' :: r =>
        (readValue fuel depth (skipBlanks r)).bind fun (v, r) =>
          (entries.put .dottedInline true keys v).bind fun entries =>
            (skipGaps false r).bind fun r =>
              match r with
              | ',' :: r =>
                (skipGaps false r).bind fun r => readEntries fuel depth count entries r
              | '\x7d' :: rest => some (entries, rest)
              | _ => none
      | _ => none
termination_by count _ _ => (depth, count + 1)

end

/-- What a line of a document does. -/
inductive Line
  /-- Adds a value under a key. -/
  | entry (keys : List Key) (value : Value)
  /-- Starts a table. -/
  | table (span : Span) (keys : List Key)
  /-- Starts an element of an array of tables. -/
  | element (span : Span) (keys : List Key)
deriving Repr

/-- Reads a header with its closing brackets. -/
def readHeader (start : Nat) (isElement : Bool) (cs : List Char) : Option (Line × List Char) :=
  (readKey nestingLimit (skipBlanks cs)).bind fun (keys, r) =>
    match isElement, skipBlanks r with
    | true, ']' :: ']' :: rest => some (.element ⟨start, rest.length⟩ keys, rest)
    | false, ']' :: rest => some (.table ⟨start, rest.length⟩ keys, rest)
    | _, _ => none

/-- Reads what a line does, up to its end. -/
def readLine (cs : List Char) : Option (Line × List Char) :=
  match cs with
  | '[' :: '[' :: r => readHeader cs.length true r
  | '[' :: r => readHeader cs.length false r
  | cs =>
    (readKey nestingLimit cs).bind fun (keys, r) =>
      match skipBlanks r with
      | '=' :: r =>
        (readValue r.length nestingLimit (skipBlanks r)).map fun (v, rest) => (.entry keys v, rest)
      | _ => none

/-- Reads the lines of a document; the fuel bounds their number. -/
def readLines : Nat → List Char → Option (List Line)
  | 0, _ => none
  | fuel + 1, cs =>
    (skipGaps false cs).bind fun cs =>
      match cs with
      | [] => some []
      | cs =>
        (readLine cs).bind fun (line, rest) =>
          (endLine false rest).bind fun rest => (readLines fuel rest).map (line :: ·)

end GrammarAudit.Toml
