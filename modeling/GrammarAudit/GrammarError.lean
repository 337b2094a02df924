import GrammarAudit.Fault

/-!
# Why a grammar is refused

The causes for which finding, opening, loading or checking a grammar fails, and
their wording.
-/

namespace GrammarAudit

/-- Why a grammar could not be used. -/
inductive GrammarError
  /-- No library of that grammar on the way searched. -/
  | notFound (name : String)
  /-- The library could not be opened. -/
  | loadError (reason : String)
  /-- The library does not export the grammar's symbol. -/
  | missingSymbol (reason : String)
  /-- The provider handed out a null language. -/
  | absent (display : String)
  /-- The language was generated for a version that cannot be read. -/
  | incompatibleVersion (grammar : String) (version least most : Nat)
  /-- A parser refused the language. -/
  | rejected (grammar reason : String)
  /-- The language lacks node kinds. -/
  | missingKinds (grammar : String) (kinds : List String)
  /-- A sample did not parse cleanly. -/
  | parse (grammar reason : String)
  /-- Reading a file failed. -/
  | io (fault : IoFault)
deriving DecidableEq, Repr, Inhabited

/-- The wording of a refusal. -/
def GrammarError.message : GrammarError → String
  | notFound name => "grammar not found: " ++ name
  | loadError reason => "failed to load grammar library: " ++ reason
  | missingSymbol reason => "grammar library missing language function: " ++ reason
  | absent display => "Error loading " ++ display ++ " grammar"
  | incompatibleVersion grammar version least most =>
    "grammar '" ++ grammar ++ "' has ABI version " ++ toString version
      ++ ", supported range is " ++ toString least ++ "..=" ++ toString most
  | rejected grammar reason => "parser rejected grammar '" ++ grammar ++ "': " ++ reason
  | missingKinds grammar kinds =>
    "grammar '" ++ grammar ++ "' is missing node kinds: " ++ ", ".intercalate kinds
  | parse grammar reason =>
    "failed to parse sample with grammar '" ++ grammar ++ "': " ++ reason
  | io fault => "IO error: " ++ fault.message

end GrammarAudit
