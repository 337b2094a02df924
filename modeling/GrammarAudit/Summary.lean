import GrammarAudit.Handle
import GrammarAudit.Vocabulary

/-!
# Parsing samples

A sample parses cleanly when its tree is a stylesheet without an error; what is
reported of it is a summary of the top of the tree.

* `Tree.summarize` makes the summary, or says what is wrong: another root, or
  the place of the first error.
* `Handle.parseSample` parses a text with a loaded language and summarizes its
  tree.
-/

namespace GrammarAudit

/-- What is reported of a text that parsed cleanly. -/
structure Summary where
  /-- The kind of the root. -/
  rootKind : String
  /-- The number of named nodes right below the root. -/
  namedChildren : Nat
  /-- The statement kinds among them, in ascending order and each once. -/
  statementKinds : List String
deriving DecidableEq, Repr, Inhabited

/-- How a summary is shown in a trace. -/
def Summary.trace (s : Summary) : String :=
  "ParseSummary \x7b root_kind: " ++ Text.quoted s.rootKind ++ ", named_children: "
    ++ toString s.namedChildren ++ ", statement_kinds: " ++ Text.quotedSet s.statementKinds
    ++ " \x7d"

/-- Why a text did not parse cleanly. -/
inductive ParseFault
  /-- The parser made no tree. -/
  | noTree
  /-- The tree is of another kind. -/
  | wrongRoot (kind : String)
  /-- The tree holds an error, at a place if a visible node shows it. -/
  | syntaxError (place : Option Point)
deriving DecidableEq, Repr

/-- The wording of a fault; rows and columns are counted from one. -/
def ParseFault.message : ParseFault → String
  | noTree => "parser returned no tree"
  | wrongRoot kind => "root node is '" ++ kind ++ "', expected '" ++ rootKind ++ "'"
  | syntaxError none => "syntax error"
  | syntaxError (some place) =>
    "syntax error at " ++ toString (place.row + 1) ++ ":" ++ toString (place.column + 1)

/-- A kind of statements. -/
def isStatementKind (kind : String) : Bool := "_statement".toList.isSuffixOf kind.toList

/-- Puts a text into an ascending list, unless it is there. -/
def insertAscending (text : String) : List String → List String
  | [] => [text]
  | head :: rest =>
    if text < head then text :: head :: rest
    else if text = head then head :: rest
    else head :: insertAscending text rest

/-- The different texts of a list, in ascending order. -/
def ascending (texts : List String) : List String := texts.foldr insertAscending []

/-- The summary of a tree that is a stylesheet without an error. -/
def Tree.summarize (t : Tree) : Except ParseFault Summary :=
  if t.kind ≠ rootKind then .error (.wrongRoot t.kind)
  else if t.label.hasError then .error (.syntaxError t.firstFault?)
  else
    let named := t.namedChildren
    .ok ⟨t.kind, named.length, ascending ((named.map Tree.kind).filter isStatementKind)⟩

/-- Parses a text and summarizes its tree. -/
def Parser.summarize (p : Parser) (text : String) : Except ParseFault Summary :=
  match p.parse text with
  | none => .error .noTree
  | some tree => tree.summarize

/-- The event of a sample that parsed cleanly. -/
def parsedEvent (name : String) (summary : Summary) : Event where
  level := .debug
  target := "scss_probe_language::sample"
  message := "Parsed sample"
  fields := [("grammar", Text.quoted name), ("summary", summary.trace)]

/-- Parses a text with a loaded language; it has to be a clean stylesheet. -/
def Handle.parseSample (h : Handle) (text : String) : Logged GrammarError Summary := do
  let parser ← Logged.ofExcept h.parser
  let summary ← Logged.ofExcept
    ((parser.summarize text).mapError fun fault => .parse h.name fault.message)
  Logged.emit (parsedEvent h.name summary)
  pure summary

/-- A small document with variables, mixins, nesting and control flow. -/
def builtinSample : String :=
"@use \"sass:math\";

$primary: #336699;
$radius: 4px;

@mixin rounded($size: $radius) \x7b
  border-radius: $size;
\x7d

%message \x7b
  padding: 8px;
\x7d

.button \x7b
  color: $primary;
  @include rounded(8px);

  &:hover \x7b
    color: darken($primary, 10%);
  \x7d
\x7d

.notice \x7b
  @extend .button;
\x7d

@if $radius \x7b
  .card \x7b
    margin: 0;
  \x7d
\x7d @else \x7b
  .card \x7b
    margin: 4px;
  \x7d
\x7d
"

end GrammarAudit
