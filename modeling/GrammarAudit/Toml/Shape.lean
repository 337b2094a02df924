import GrammarAudit.Text.Quoted
import GrammarAudit.Toml.Value

/-!
# The shape of values

What is wrong with a value that was expected to be something else, and how that
is worded.
-/

namespace GrammarAudit.Toml

/-- What a value was expected to be. -/
inductive Expected
  | text
  | path
  | sequence
  /-- A record with a name. -/
  | record (name : String)
  /-- Any value of the usual kinds. -/
  | anyValue
deriving DecidableEq, Repr

/-- How an expectation is worded. -/
def Expected.words : Expected → String
  | text => "a string"
  | path => "path string"
  | sequence => "a sequence"
  | record name => "struct " ++ name
  | anyValue => "any value"

/-- What is wrong with a value. -/
inductive Cause
  /-- It is of another kind; how that is worded, and what was expected. -/
  | invalidType (found : String) (expected : Expected)
  /-- A table lacks a key. -/
  | missingField (name : String)
  /-- An array is too short to stand for a record with some number of fields. -/
  | invalidLength (length : Nat) (record : String) (fields : Nat)
  /-- It is none of the variants of a choice. -/
  | noVariant (choice : String)
  | integerTooLarge
  | realTooLarge
deriving DecidableEq, Repr

/-- How a cause is worded. -/
def Cause.message : Cause → String
  | invalidType found expected => "invalid type: " ++ found ++ ", expected " ++ expected.words
  | missingField name => "missing field `" ++ name ++ "`"
  | invalidLength length record fields =>
    "invalid length " ++ toString length ++ ", expected struct " ++ record ++ " with "
      ++ toString fields ++ " elements"
  | noVariant choice => "data did not match any variant of untagged enum " ++ choice
  | integerTooLarge => "integer number overflowed"
  | realTooLarge => "floating-point number overflowed"

/-- What is wrong, and with which value. -/
structure Fault where
  span : Span
  cause : Cause
deriving DecidableEq, Repr

/-- The range that an integer belongs to, by the width of the words that hold
it. -/
inductive IntegerRange
  | word
  | signedDouble
  | unsignedDouble
  | beyond
deriving DecidableEq, Repr

/-- The range of an integer: words have 64 bits, signed or not, and double words
128. -/
def IntegerRange.of (n : Int) : IntegerRange :=
  let bound (bits : Nat) : Int := ((1 <<< bits : Nat) : Int)
  if -bound 63 ≤ n ∧ n < bound 64 then .word
  else if -bound 127 ≤ n ∧ n < bound 127 then .signedDouble
  else if 0 ≤ n ∧ n < bound 128 then .unsignedDouble
  else .beyond

/-- How a floating-point number is shown. -/
def Real.text : Real → String
  | finite negative x => (if negative then "-" else "") ++ x.text
  | infinite negative => if negative then "-inf" else "inf"
  | notANumber => "NaN"
  | outOfRange => ""

/-- How an integer is worded as something found. -/
def integerWords (n : Int) : String :=
  "integer `" ++ toString n ++ "`"
    ++ match IntegerRange.of n with
      | .signedDouble => " as i128"
      | .unsignedDouble => " as u128"
      | _ => ""

/-- What is wrong with a value of which another kind was expected. -/
def mismatch (expected : Expected) : Value → Cause
  | .scalar _ (.text s) => .invalidType ("string " ++ Text.quoted s) expected
  | .scalar _ (.integer n) =>
    if IntegerRange.of n = .beyond then .integerTooLarge
    else .invalidType (integerWords n) expected
  | .scalar _ (.real x) =>
    if x = .outOfRange then .realTooLarge
    else .invalidType ("floating point `" ++ x.text ++ "`") expected
  | .scalar _ (.boolean b) =>
    .invalidType ("boolean `" ++ (if b then "true" else "false") ++ "`") expected
  | .scalar _ .moment => .invalidType "map" expected
  | .array _ _ _ => .invalidType "sequence" expected
  | .table _ _ _ => .invalidType "map" expected

/-- The fault of a value of which another kind was expected. -/
def Value.mismatch (v : Value) (expected : Expected) : Fault := ⟨v.span, Toml.mismatch expected v⟩

/-- What is wrong with a scalar even where any will do; where values are kept
for later, integers have to fit into a word. -/
def scalarFault? (kept : Bool) (v : Scalar) : Option Cause :=
  match v with
  | .integer n =>
    match IntegerRange.of n with
    | .word => none
    | .beyond => some .integerTooLarge
    | _ => if kept then some (.invalidType (integerWords n) .anyValue) else none
  | .real .outOfRange => some .realTooLarge
  | _ => none

mutual

/-- The first fault in a value that may be anything. -/
def anyFault? (kept : Bool) : Value → Option Fault
  | .scalar span s => (scalarFault? kept s).map (⟨span, ·⟩)
  | .array _ _ items => anyFaultOfItems? kept items
  | .table _ _ entries => anyFaultOfEntries? kept entries

/-- The first fault in some values that may be anything. -/
def anyFaultOfItems? (kept : Bool) : List Value → Option Fault
  | [] => none
  | v :: vs => (anyFault? kept v).or (anyFaultOfItems? kept vs)

/-- The first fault in the entries of a table that may be anything. -/
def anyFaultOfEntries? (kept : Bool) : List (String × Value) → Option Fault
  | [] => none
  | (_, v) :: rest => (anyFault? kept v).or (anyFaultOfEntries? kept rest)

end

namespace Value

/-- The text that a value is. -/
def text? : Value → Option String
  | .scalar _ (.text s) => some s
  | _ => none

/-- The texts that the items of an array are. -/
def texts? : Value → Option (List String)
  | .array _ _ items => items.mapM text?
  | _ => none

/-- What is wrong with a value that should be a text. -/
def textFault? (expected : Expected) (v : Value) : Option Fault :=
  if v.text?.isSome then none else some (v.mismatch expected)

/-- What is wrong with a value that should be an array of texts. -/
def textsFault? (expected : Expected) : Value → Option Fault
  | .array _ _ items => items.findSome? (textFault? expected)
  | v => some (v.mismatch .sequence)

end Value

end GrammarAudit.Toml
