/-!
# TOML strings

The four forms of strings: basic ones with escapes and literal ones without,
each on one line or over several.  A reader takes the characters after the
opening quotes and gives the text and what follows the closing quotes.
-/

namespace GrammarAudit.Toml.Quotation

/-- What a reader gives: a text and the characters after it; nothing if the
string is malformed. -/
abbrev Read := Option (List Char × List Char)

/-- A character that needs no escape: a tab, or no control character. -/
def isPlain (c : Char) : Bool := c == '\t' || (0x20 ≤ c.toNat && c.toNat != 0x7F)

/-- The text with one character more at its front. -/
def withChar (c : Char) (r : Read) : Read := r.map fun (text, rest) => (c :: text, rest)

/-- The value of a hexadecimal digit. -/
def hexDigit? (c : Char) : Option Nat :=
  if c.isDigit then some (c.toNat - '0'.toNat)
  else if 'a' ≤ c ∧ c ≤ 'f' then some (c.toNat - 'a'.toNat + 10)
  else if 'A' ≤ c ∧ c ≤ 'F' then some (c.toNat - 'A'.toNat + 10)
  else none

/-- The number that some hexadecimal digits stand for. -/
def hexNumber? (digits : List Char) : Option Nat :=
  digits.foldl (fun n c => n.bind fun n => (hexDigit? c).map (16 * n + ·)) (some 0)

/-- The character that some hexadecimal digits stand for. -/
def hexChar? (digits : List Char) : Option Char :=
  (hexNumber? digits).bind fun n => if n.isValidChar then some (Char.ofNat n) else none

/-- The character that a letter stands for after a backslash. -/
def escaped? : Char → Option Char
  | 'b' => some '\x08'
  | 't' => some '\t'
  | 'n' => some '\n'
  | 'f' => some '\x0c'
  | 'r' => some '\r'
  | 'e' => some '\x1b'
  | '"' => some '"'
  | '\\' => some '\\'
  | _ => none

/-- Reads the inside of a basic string. -/
def basic : List Char → Read
  | [] => none
  | '"' :: r => some ([], r)
  | '\\' :: 'x' :: a :: b :: r => (hexChar? [a, b]).bind fun x => withChar x (basic r)
  | '\\' :: 'u' :: a :: b :: c :: d :: r =>
    (hexChar? [a, b, c, d]).bind fun x => withChar x (basic r)
  | '\\' :: 'U' :: a :: b :: c :: d :: e :: f :: g :: h :: r =>
    (hexChar? [a, b, c, d, e, f, g, h]).bind fun x => withChar x (basic r)
  | '\\' :: c :: r => (escaped? c).bind fun x => withChar x (basic r)
  | c :: r => if isPlain c ∧ c ≠ '\\' then withChar c (basic r) else none

/-- Reads the inside of a literal string. -/
def literal : List Char → Read
  | [] => none
  | '\'' :: r => some ([], r)
  | c :: r => if isPlain c then withChar c (literal r) else none

/-- Only blanks stand before the end of the line. -/
def endsLine (cs : List Char) : Bool :=
  match cs.dropWhile fun c => c == ' ' || c == '\t' with
  | '\n' :: _ | '\r' :: '\n' :: _ => true
  | _ => false

/-- What follows three closing quotes: up to two more quotes belong to the
text. -/
def closing (quote : Char) : List Char → List Char × List Char
  | c :: d :: r =>
    if c = quote then if d = quote then ([quote, quote], r) else ([quote], d :: r)
    else ([], c :: d :: r)
  | [c] => if c = quote then ([quote], []) else ([], [c])
  | [] => ([], [])

/-- Reads the inside of a basic string over several lines.  After a backslash at
the end of a line, blanks and ends of lines are left out up to the next
character; the flag says whether they are. -/
def multilineBasic : Bool → List Char → Read
  | _, [] => none
  | _, '"' :: '"' :: '"' :: r => some (closing '"' r)
  | true, ' ' :: r | true, '\t' :: r | true, '\n' :: r | true, '\r' :: '\n' :: r =>
    multilineBasic true r
  | _, '\\' :: 'x' :: a :: b :: r =>
    (hexChar? [a, b]).bind fun x => withChar x (multilineBasic false r)
  | _, '\\' :: 'u' :: a :: b :: c :: d :: r =>
    (hexChar? [a, b, c, d]).bind fun x => withChar x (multilineBasic false r)
  | _, '\\' :: 'U' :: a :: b :: c :: d :: e :: f :: g :: h :: r =>
    (hexChar? [a, b, c, d, e, f, g, h]).bind fun x => withChar x (multilineBasic false r)
  | _, '\\' :: c :: r =>
    if endsLine (c :: r) then multilineBasic true (c :: r)
    else (escaped? c).bind fun x => withChar x (multilineBasic false r)
  | _, '\n' :: r => withChar '\n' (multilineBasic false r)
  | _, '\r' :: '\n' :: r => withChar '\r' (withChar '\n' (multilineBasic false r))
  | _, c :: r => if isPlain c ∧ c ≠ '\\' then withChar c (multilineBasic false r) else none

/-- Reads the inside of a literal string over several lines. -/
def multilineLiteral : List Char → Read
  | [] => none
  | '\'' :: '\'' :: '\'' :: r => some (closing '\'' r)
  | '\n' :: r => withChar '\n' (multilineLiteral r)
  | '\r' :: '\n' :: r => withChar '\r' (withChar '\n' (multilineLiteral r))
  | c :: r => if isPlain c then withChar c (multilineLiteral r) else none

/-- The inside of a string over several lines without an end of line right at
its start. -/
def dropFirstLineEnd : List Char → List Char
  | '\n' :: r | '\r' :: '\n' :: r => r
  | r => r

/-- Reads a string on one line, if one starts here. -/
def singleLine? : List Char → Option Read
  | '"' :: r => some (basic r)
  | '\'' :: r => some (literal r)
  | _ => none

/-- Reads a string of any form, if one starts here. -/
def string? : List Char → Option Read
  | '"' :: '"' :: '"' :: r => some (multilineBasic false (dropFirstLineEnd r))
  | '\'' :: '\'' :: '\'' :: r => some (multilineLiteral (dropFirstLineEnd r))
  | cs => singleLine? cs

end GrammarAudit.Toml.Quotation
