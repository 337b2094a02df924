import GrammarAudit.Toml.Value

/-!
# TOML numbers

Integers are written in decimal with a sign, or in another base with its mark;
floating-point numbers have a fraction, an exponent or both.  Underscores may
part digits.
-/

namespace GrammarAudit.Toml.Number

/-- The digits without the underscores between them; an underscore needs a digit
on both sides. -/
def plainDigits? (isDigit : Char → Bool) : List Char → Option (List Char)
  | [] => none
  | [c] => if isDigit c then some [c] else none
  | c :: d :: rest =>
    if isDigit c then
      if d = '_' then
        match rest with
        | e :: _ => if isDigit e then (plainDigits? isDigit rest).map (c :: ·) else none
        | [] => none
      else (plainDigits? isDigit (d :: rest)).map (c :: ·)
    else none

/-- The value of a digit; letters go on where the decimal digits end. -/
def digitValue (c : Char) : Nat :=
  if c.isDigit then c.toNat - '0'.toNat
  else if 'a' ≤ c then c.toNat - 'a'.toNat + 10
  else c.toNat - 'A'.toNat + 10

/-- The number that some digits stand for in a base. -/
def value (base : Nat) (digits : List Char) : Nat :=
  digits.foldl (fun n c => n * base + digitValue c) 0

/-- A digit of base 16. -/
def isHexDigit (c : Char) : Bool :=
  c.isDigit || ('a' ≤ c && c ≤ 'f') || ('A' ≤ c && c ≤ 'F')

/-- A digit of base 8. -/
def isOctalDigit (c : Char) : Bool := '0' ≤ c && c ≤ '7'

/-- A digit of base 2. -/
def isBinaryDigit (c : Char) : Bool := c == '0' || c == '1'

/-- The number that some text without a sign stands for in a base. -/
def inBase? (base : Nat) (isDigit : Char → Bool) (cs : List Char) : Option Int :=
  (plainDigits? isDigit cs).map fun ds => (value base ds : Int)

/-- A text without its sign, and whether that is a minus. -/
def splitSign : List Char → Bool × List Char
  | '+' :: r => (false, r)
  | '-' :: r => (true, r)
  | r => (false, r)

/-- Decimal digits, which start with a zero only if that is the only one. -/
def wholeDigits? (cs : List Char) : Option (List Char) :=
  match plainDigits? Char.isDigit cs with
  | some ('0' :: _ :: _) => none
  | ds => ds

/-- The integer that a text stands for. -/
def integer? : List Char → Option Int
  | '0' :: 'x' :: r => inBase? 16 isHexDigit r
  | '0' :: 'o' :: r => inBase? 8 isOctalDigit r
  | '0' :: 'b' :: r => inBase? 2 isBinaryDigit r
  | cs =>
    let (negative, cs) := splitSign cs
    (wholeDigits? cs).map fun ds =>
      if negative then -(value 10 ds : Int) else (value 10 ds : Int)

/-- The digits and underscores at the start of a text, and the rest. -/
def spanDigits (cs : List Char) : List Char × List Char :=
  cs.span fun c => c.isDigit || c == '_'

/-- The exponent at the start of a text, which has to be all of it; zero for the
empty text. -/
def exponent? : List Char → Option Int
  | [] => some 0
  | c :: r =>
    if c = 'e' ∨ c = 'E' then
      let (negative, r) := splitSign r
      (plainDigits? Char.isDigit r).map fun ds =>
        if negative then -(value 10 ds : Int) else (value 10 ds : Int)
    else none

/-- The floating-point number nearest to `digits · 10 ^ exponent`. -/
def real (negative : Bool) (digits : List Char) (exponent : Int) : Real :=
  let significant := digits.dropWhile (· == '0')
  match Decimal.Double.ofScientific (value 10 digits) significant.length exponent with
  | some x => .finite negative x
  | none => .outOfRange

/-- The floating-point number that a text stands for. -/
def real? (cs : List Char) : Option Real :=
  let (negative, cs) := splitSign cs
  if cs = ['i', 'n', 'f'] then some (.infinite negative)
  else if cs = ['n', 'a', 'n'] then some .notANumber
  else
    let (whole, rest) := spanDigits cs
    (wholeDigits? whole).bind fun ds =>
      match rest with
      | '.' :: r =>
        let (fraction, r) := spanDigits r
        (plainDigits? Char.isDigit fraction).bind fun fs =>
          (exponent? r).map fun e => real negative (ds ++ fs) (e - fs.length)
      | [] => none
      | r => (exponent? r).map (real negative ds)

end GrammarAudit.Toml.Number
