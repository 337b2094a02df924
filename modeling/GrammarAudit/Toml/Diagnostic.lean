import GrammarAudit.Toml.Value

/-!
# Pointing at a place

A message about a value shows the line that it starts in, with marks under the
value.
-/

namespace GrammarAudit.Toml

/-- A text of one character over and over. -/
def repeated (count : Nat) (c : Char) : String := String.ofList (List.replicate count c)

/-- The size of a text in bytes. -/
def byteSize (cs : List Char) : Nat := (String.ofList cs).utf8ByteSize

/-- A message about the value at a place in a text: the place, counted from one,
the line, and marks under the value as far as the line goes, at least one. -/
def diagnostic (text : String) (span : Span) (message : String) : String :=
  let cs := text.toList
  let before := cs.take (cs.length - span.before)
  let row := before.count '\n'
  let column := (before.reverse.takeWhile (· ≠ '\n')).length
  let line := (cs.drop (before.length - column)).takeWhile (· ≠ '\n')
  let value := (cs.drop before.length).take (span.before - span.after)
  let marks := max 1 (min (byteSize value) (byteSize line - column))
  let number := toString (row + 1)
  let gutter := repeated (number.length + 1) ' ' ++ "|"
  "TOML parse error at line " ++ number ++ ", column " ++ toString (column + 1) ++ "\n"
    ++ gutter ++ "\n"
    ++ number ++ " | " ++ String.ofList line ++ "\n"
    ++ gutter ++ repeated (column + 1) ' ' ++ repeated marks '^' ++ "\n"
    ++ message ++ "\n"

end GrammarAudit.Toml
