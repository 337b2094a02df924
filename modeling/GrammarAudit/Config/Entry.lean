import GrammarAudit.GrammarError
import GrammarAudit.Path

/-!
# Configured grammars

A config lists the grammars to check: each has a name, a source, and what is
asked of it beyond loading.
-/

namespace GrammarAudit.Config

/-- Where a configured grammar comes from: it is linked in, or it is a library
at a path, or in the directory at a path. -/
inductive EntrySource
  | builtin
  | library (path : Path)
deriving DecidableEq, Repr, Inhabited

/-- A configured grammar. -/
structure Entry where
  name : String
  /-- How the grammar is called in messages, if that is configured. -/
  display : Option String
  source : EntrySource
  /-- The node kinds that the grammar has to declare, if they are configured. -/
  requiredKinds : Option (List String)
  samples : List Path
deriving DecidableEq, Repr, Inhabited

/-- Why a config, or a configured grammar, is refused. -/
inductive ConfigError
  /-- A file could not be read. -/
  | io (path : Path) (fault : IoFault)
  /-- The text of the config is no TOML document. -/
  | notToml
  /-- The document has not the shape of a config; what is wrong, and where. -/
  | shape (diagnostic : String)
  /-- No grammar of that name is linked in. -/
  | unknownGrammar (name : String)
  | grammar (error : GrammarError)
deriving DecidableEq, Repr

/-- The wording of a refusal.  What is wrong with a text that is no TOML
document is not told. -/
def ConfigError.message : ConfigError → String
  | io path fault => "I/O error reading " ++ path.text ++ ": " ++ fault.message
  | notToml => "failed to parse grammars.toml: "
  | shape diagnostic => "failed to parse grammars.toml: " ++ diagnostic
  | unknownGrammar name => "no builtin grammar named '" ++ name ++ "'"
  | grammar error => error.message

end GrammarAudit.Config
