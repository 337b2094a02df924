/-!
# TOML dates and times

A date, a time, or both with or without an offset.  Seconds may be left out.
-/

namespace GrammarAudit.Toml.Moment

/-- Some digits at the start of a text as a number, and the rest. -/
def digits? : Nat → Nat → List Char → Option (Nat × List Char)
  | 0, n, cs => some (n, cs)
  | count + 1, n, c :: cs =>
    if c.isDigit then digits? count (10 * n + (c.toNat - '0'.toNat)) cs else none
  | _, _, [] => none

/-- A number of some digits within bounds at the start of a text, and the
rest. -/
def field? (count least most : Nat) (cs : List Char) : Option (Nat × List Char) :=
  (digits? count 0 cs).filter fun (n, _) => least ≤ n && n ≤ most

/-- A character at the start of a text, and the rest. -/
def mark? (c : Char) : List Char → Option (List Char)
  | d :: r => if c = d then some r else none
  | [] => none

/-- A year with a day more. -/
def isLeap (year : Nat) : Bool := year % 4 == 0 && (year % 100 != 0 || year % 400 == 0)

/-- The number of days of a month. -/
def daysIn (year month : Nat) : Nat :=
  if month = 2 then if isLeap year then 29 else 28
  else if month = 4 ∨ month = 6 ∨ month = 9 ∨ month = 11 then 30
  else 31

/-- What follows a date at the start of a text. -/
def date? (cs : List Char) : Option (List Char) := do
  let (year, cs) ← field? 4 0 9999 cs
  let (month, cs) ← field? 2 1 12 (← mark? '-' cs)
  let (_, cs) ← field? 2 1 (daysIn year month) (← mark? '-' cs)
  return cs

/-- What follows the fraction of a second, if there is one, at the start of a
text. -/
def fraction? : List Char → Option (List Char)
  | '.' :: c :: r => if c.isDigit then some (r.dropWhile Char.isDigit) else none
  | '.' :: [] => none
  | r => some r

/-- What follows a time at the start of a text. -/
def time? (cs : List Char) : Option (List Char) := do
  let (_, cs) ← field? 2 0 23 cs
  let (_, cs) ← field? 2 0 59 (← mark? ':' cs)
  match cs with
  | ':' :: r => fraction? (← field? 2 0 60 r).2
  | r => return r

/-- What follows an offset, if there is one, at the start of a text. -/
def offset? : List Char → Option (List Char)
  | [] => some []
  | c :: r =>
    if c = 'Z' ∨ c = 'z' then some r
    else if c = '+' ∨ c = '-' then do
      let (_, r) ← field? 2 0 23 r
      let (_, r) ← field? 2 0 59 (← mark? ':' r)
      return r
    else none

/-- A text is a date, a time or both. -/
def isMoment (cs : List Char) : Bool :=
  match date? cs with
  | some [] => true
  | some (c :: r) =>
    (c == 'T' || c == 't' || c == ' ') && ((time? r).bind offset?) == some []
  | none => time? cs == some []

end GrammarAudit.Toml.Moment
