import GrammarAudit.Environment
import GrammarAudit.FileSystem

/-!
# The surroundings of a run

Everything outside the checks that an answer can depend on: the files, the
environment, and the language that is linked in.
-/

namespace GrammarAudit

/-- The files and the environment that a run finds, and the language of
stylesheets that the program brings along. -/
structure World where
  files : FileSystem
  environment : Environment
  linked : Language

end GrammarAudit
