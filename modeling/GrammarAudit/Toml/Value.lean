import GrammarAudit.Decimal.Shortest

/-!
# TOML values

A TOML document is a table of values.  Every value keeps its place in the text,
for messages about it, and tables and arrays keep how they were written, because
that decides what later lines may add to them.
-/

namespace GrammarAudit.Toml

/-- A stretch of a text, by how many characters of the text are left at its
start and at its end. -/
structure Span where
  before : Nat
  after : Nat
deriving DecidableEq, Repr, Inhabited

/-- A floating-point number. -/
inductive Real
  | finite (negative : Bool) (magnitude : Decimal.Double)
  | infinite (negative : Bool)
  | notANumber
  /-- A decimal that no finite number is near to. -/
  | outOfRange
deriving DecidableEq, Repr, Inhabited

/-- A value that is neither an array nor a table.  Of dates and times only their
form counts. -/
inductive Scalar
  | text (s : String)
  | integer (n : Int)
  | real (x : Real)
  | boolean (b : Bool)
  | moment
deriving DecidableEq, Repr, Inhabited

/-- How a table was written. -/
inductive TableForm
  /-- Named on the way in a header of another table. -/
  | passed
  /-- Named on the way in a dotted key. -/
  | dotted
  /-- Under a header of its own. -/
  | header
  /-- Between braces. -/
  | inline
  /-- Named on the way in a dotted key between braces. -/
  | dottedInline
deriving DecidableEq, Repr, Inhabited

/-- How an array was written: between brackets, or as tables under headers of
their own. -/
inductive ArrayForm
  | brackets
  | headers
deriving DecidableEq, Repr, Inhabited

/-- A value. -/
inductive Value
  | scalar (span : Span) (s : Scalar)
  | array (span : Span) (form : ArrayForm) (items : List Value)
  | table (span : Span) (form : TableForm) (entries : List (String × Value))
deriving Repr, Inhabited

/-- The entries of a table, in ascending order of their keys. -/
abbrev Table := List (String × Value)

namespace Value

/-- The place of a value. -/
def span : Value → Span
  | scalar s _ | array s _ _ | table s _ _ => s

end Value

namespace Table

/-- The value of a key. -/
def get? (t : Table) (key : String) : Option Value := t.lookup key

/-- The table with a key set. -/
def set : Table → String → Value → Table
  | [], key, v => [(key, v)]
  | (k, w) :: rest, key, v =>
    if key < k then (key, v) :: (k, w) :: rest
    else if key = k then (key, v) :: rest
    else (k, w) :: set rest key v

end Table

/-- A part of a dotted key, with its place. -/
structure Key where
  span : Span
  name : String
deriving DecidableEq, Repr, Inhabited

end GrammarAudit.Toml
