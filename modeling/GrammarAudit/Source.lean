import GrammarAudit.Path
import GrammarAudit.Text.Quoted

/-!
# Where a grammar comes from

A grammar is either linked in, under a name, or comes from a library file.
-/

namespace GrammarAudit

/-- Where a grammar comes from. -/
inductive Source
  | builtin (name : String)
  | library (path : Path)
deriving DecidableEq, Repr, Inhabited

namespace Source

/-- How a source is shown to the user. -/
def text : Source → String
  | builtin name => "builtin:" ++ name
  | library path => path.text

/-- How a source is shown in a trace: its form, and its name or path quoted. -/
def trace : Source → String
  | builtin name => "Builtin(" ++ Text.quoted name ++ ")"
  | library path => "Library(" ++ Text.quoted path.text ++ ")"

/-- Two sources are the same if both are builtin with one name, or both are
libraries with equivalent paths. -/
def same : Source → Source → Bool
  | builtin a, builtin b => a == b
  | library p, library q => p.equivalent q
  | _, _ => false

end Source

end GrammarAudit
