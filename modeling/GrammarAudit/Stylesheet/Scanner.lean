import GrammarAudit.Parsing.Lexing

/-!
# The scanner of stylesheets

Three tokens of the stylesheet language depend on what follows them: the space
between two selectors, the colon before a pseudo class, and the seam between the
parts of a joined name.  The scanner finds them; the first and the last have no
text of their own.
-/

namespace GrammarAudit.Stylesheet

open Parsing

/-- The place, among the scanner's tokens, of the space between two
selectors. -/
def descendantOperator : Nat := 0

/-- The place of the colon before a pseudo class. -/
def pseudoClassColon : Nat := 1

/-- The place of the token that is expected only where the parser is lost. -/
def errorRecovery : Nat := 2

/-- The place of the seam between two parts of a joined name. -/
def seam : Nat := 3

/-- A space. -/
def isSpace (c : Char) : Bool := (9 ≤ c.toNat && c.toNat ≤ 13) || c == ' '

/-- A character that ends what may be a selector. -/
def endsSelector (c : Char) : Bool := c == ';' || c == '\x7d' || c == '\x7b'

/-- The next character satisfies a condition. -/
def nextIs (p : Char → Bool) (r : Reader) : Bool := (r.next?.map p).getD false

/-- A block opens before the statement ends. -/
def blockOpens (r : Reader) : Bool :=
  nextIs (· == '\x7b') (r.advanceWhile (fun c => !endsSelector c) false r.remaining)

/-- The seam between two parts of a joined name: a letter, digit, hyphen or
interpolation follows.  There is an answer, though it may be no, if one of these
characters follows. -/
def scanSeam (r : Reader) : Option (Option (Nat × Reader)) :=
  if nextIs (· == '#') r then
    let r := r.markEnd
    some (if nextIs (· == '\x7b') (r.advance false) then some (seam, r) else none)
  else if nextIs (fun c => c.isAlphanum || c == '-') r then some (some (seam, r))
  else none

/-- The space between two selectors: spaces, before something that starts a
selector.  Where that is a colon a block has to follow. -/
def scanDescendant (r : Reader) : Option (Nat × Reader) :=
  let startsSelector (c : Char) : Bool := c.isAlphanum || "#.[-*".contains c
  if nextIs startsSelector r then some (descendantOperator, r)
  else if nextIs (· == ':') r then
    let after := r.advance false
    if !nextIs isSpace after && blockOpens after then some (descendantOperator, r) else none
  else none

/-- The colon before a pseudo class: not followed by another one, and a block
opens later. -/
def scanColon (r : Reader) : Option (Nat × Reader) :=
  let r := r.advanceWhile isSpace true r.remaining
  if nextIs (· == ':') r then
    let r := r.advance false
    if nextIs (fun c => c == ':' || c == ';' || c == '\x7d') r || !blockOpens (r.advance false) then
      none
    else some (pseudoClassColon, r.markEnd)
  else none

/-- The scanner of stylesheets; where the parser is lost it finds nothing. -/
def scan : Scanner := fun expected r =>
  if expected errorRecovery then none
  else
    match if expected seam then scanSeam r else none with
    | some answer => answer
    | none =>
      if expected descendantOperator && nextIs isSpace r then
        scanDescendant (r.advanceWhile isSpace true r.remaining).markEnd
      else if expected pseudoClassColon then scanColon r
      else none

end GrammarAudit.Stylesheet
