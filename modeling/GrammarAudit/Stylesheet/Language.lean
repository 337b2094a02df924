import GrammarAudit.Parsing.Run
import GrammarAudit.Stylesheet.Grammar
import GrammarAudit.Stylesheet.Scanner

/-!
# The builtin language

The language of stylesheets that is linked in.
-/

namespace GrammarAudit.Stylesheet

/-- The parse table of stylesheets. -/
def table : Automaton.ParseTable := .ofGrammar grammar

/-- Parses a stylesheet. -/
def parse (text : String) : Option Tree :=
  Parsing.Input.parse ⟨table, scan, text.toList.toArray⟩

/-- The language of stylesheets. -/
def language : Language where
  abiVersion := 14
  kinds := table.kinds.toList
  parse := parse

end GrammarAudit.Stylesheet
