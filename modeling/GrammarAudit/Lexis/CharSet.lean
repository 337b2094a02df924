/-!
# Sets of characters

A set of characters is a list of ranges of character numbers, ascending and
apart: between two ranges there is always a number that belongs to neither.  The
operations keep that form.
-/

namespace GrammarAudit.Lexis

/-- A set of character numbers, as ascending ranges that lie apart. -/
structure CharSet where
  ranges : List (Nat × Nat)
deriving DecidableEq, Repr, Inhabited, Hashable

namespace CharSet

/-- The largest character number. -/
def largest : Nat := 0x10FFFF

/-- The set without characters. -/
def empty : CharSet := ⟨[]⟩

/-- Nothing belongs to the set. -/
def isEmpty (s : CharSet) : Bool := s.ranges.isEmpty

/-- A character number belongs to the set. -/
def contains (s : CharSet) (code : Nat) : Bool :=
  s.ranges.any fun (low, high) => low ≤ code && code ≤ high

/-- Ascending ranges with one more put among them; ranges that touch it are
joined. -/
def insertRange (low high : Nat) : List (Nat × Nat) → List (Nat × Nat)
  | [] => [(low, high)]
  | (a, b) :: rest =>
    if high + 1 < a then (low, high) :: (a, b) :: rest
    else if b + 1 < low then (a, b) :: insertRange low high rest
    else insertRange (min low a) (max high b) rest

/-- The characters of some ranges. -/
def ofRanges (ranges : List (Nat × Nat)) : CharSet :=
  ⟨ranges.foldr (fun (low, high) => insertRange low high) []⟩

/-- The characters from one to another. -/
def range (first last : Char) : CharSet := ⟨[(first.toNat, last.toNat)]⟩

/-- One character. -/
def single (c : Char) : CharSet := range c c

/-- The characters of a text. -/
def ofText (text : String) : CharSet := ofRanges (text.toList.map fun c => (c.toNat, c.toNat))

/-- The characters of one set or the other. -/
def union (s t : CharSet) : CharSet :=
  ⟨s.ranges.foldr (fun (low, high) => insertRange low high) t.ranges⟩

/-- The numbers from `next` on that are in none of the ranges. -/
def gapsFrom (next : Nat) : List (Nat × Nat) → List (Nat × Nat)
  | [] => if next ≤ largest then [(next, largest)] else []
  | (a, b) :: rest =>
    if next < a then (next, a - 1) :: gapsFrom (b + 1) rest else gapsFrom (b + 1) rest

/-- The characters that are not in the set. -/
def complement (s : CharSet) : CharSet := ⟨gapsFrom 0 s.ranges⟩

/-- The part of a range that lies in another, if they meet. -/
def meetRanges (p q : Nat × Nat) : Option (Nat × Nat) :=
  let low := max p.1 q.1
  let high := min p.2 q.2
  if low ≤ high then some (low, high) else none

/-- The characters of both sets. -/
def inter (s t : CharSet) : CharSet :=
  ⟨s.ranges.flatMap fun p => t.ranges.filterMap (meetRanges p)⟩

/-- The characters of the first set that are not in the second. -/
def diff (s t : CharSet) : CharSet := s.inter t.complement

/-- Some character belongs to both sets. -/
def meets (s t : CharSet) : Bool := !(s.inter t).isEmpty

instance : Union CharSet := ⟨union⟩

/-- The decimal digits. -/
def digits : CharSet := range '0' '9'

/-- The letters of ASCII. -/
def letters : CharSet := range 'A' 'Z' ∪ range 'a' 'z'

/-- The spaces of ASCII: tab, line feed, vertical tab, form feed, carriage
return and space. -/
def spaces : CharSet := ofRanges [(9, 13), (32, 32)]

/-- All characters but the end of a line. -/
def withinLine : CharSet := (single '\n').complement

end CharSet

end GrammarAudit.Lexis
