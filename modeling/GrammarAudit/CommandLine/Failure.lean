/-!
# How a failure is told

A failure has a message and may have causes, each the cause of the one before.
They are told one below the other, indented, and numbered if there are several.
-/

namespace GrammarAudit.CommandLine

/-- A message with its causes. -/
structure Failure where
  message : String
  causes : List String
deriving DecidableEq, Repr

namespace Failure

/-- A text whose lines after the first are indented. -/
def indentLines (indent : String) (text : String) : String :=
  ("\n" ++ indent).intercalate ((text.toList.splitOn '\n').map String.ofList)

/-- A number, right-aligned in five columns. -/
def numbered (n : Nat) : String :=
  let digits := toString n
  String.ofList (List.replicate (5 - digits.length) ' ') ++ digits ++ ": "

/-- The lines of some causes, the first of which has a number. -/
def numberedCauses : Nat → List String → String
  | _, [] => ""
  | n, cause :: rest =>
    "\n" ++ numbered n ++ indentLines "       " cause ++ numberedCauses (n + 1) rest

/-- The failure as it is told. -/
def text (f : Failure) : String :=
  "Error: " ++ f.message
    ++ match f.causes with
      | [] => ""
      | [cause] => "\n\nCaused by:\n    " ++ indentLines "    " cause
      | causes => "\n\nCaused by:" ++ numberedCauses 0 causes

end Failure

end GrammarAudit.CommandLine
