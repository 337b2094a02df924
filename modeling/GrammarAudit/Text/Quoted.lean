import GrammarAudit.Text.Printable

/-!
# Quoted texts

A text is quoted for a log line or a diagnostic: it stands between double
quotes, a double quote and a backslash are escaped, the common control
characters have letters, and every other character that is not shown as it is
stands as its number in braces.
-/

namespace GrammarAudit.Text

/-- The digits of a number in lower-case hexadecimal, without leading zeros. -/
def hexDigits (n : Nat) : List Char := Nat.toDigits 16 n

/-- How a quotation writes one character. -/
def quotedChar (c : Char) : List Char :=
  match c with
  | '"' => ['\\', '"']
  | '\\' => ['\\', '\\']
  | '\t' => ['\\', 't']
  | '\r' => ['\\', 'r']
  | '\n' => ['\\', 'n']
  | '\x00' => ['\\', '0']
  | c => if isPrintable c then [c] else ['\\', 'u', '\x7b'] ++ hexDigits c.toNat ++ ['\x7d']

/-- A text between double quotes. -/
def quoted (s : String) : String :=
  String.ofList ('"' :: s.toList.flatMap quotedChar ++ ['"'])

/-- A list of texts, quoted, between brackets. -/
def quotedList (texts : List String) : String :=
  "[" ++ ", ".intercalate (texts.map quoted) ++ "]"

/-- A set of texts, quoted, between braces. -/
def quotedSet (texts : List String) : String :=
  "\x7b" ++ ", ".intercalate (texts.map quoted) ++ "\x7d"

end GrammarAudit.Text
