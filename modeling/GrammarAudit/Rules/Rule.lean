import GrammarAudit.Lexis.Pattern

/-!
# Grammar rules

A grammar gives each kind of node a rule, written with sequences, choices and
repetitions over tokens and references to other rules.  Precedences and
associativities settle which of two readings of one text is meant; an alias lets
a node appear under another kind.
-/

namespace GrammarAudit.Rules

open Lexis

/-- Which side of an operator without brackets belongs together. -/
inductive Associativity
  | left
  | right
deriving DecidableEq, Repr, Hashable

/-- Another kind that a node appears under. -/
structure Alias where
  kind : String
  named : Bool
deriving DecidableEq, Repr, Inhabited, Hashable

/-- A grammar rule. -/
inductive Rule
  /-- Nothing. -/
  | blank
  /-- A token. -/
  | token (lexeme : Lexeme)
  /-- Another rule, or a token of the scanner, by its name. -/
  | ref (name : String)
  | seq (first second : Rule)
  | choice (first second : Rule)
  /-- The body once or more often. -/
  | many (body : Rule)
  /-- The precedence of what the body spells out. -/
  | prec (level : Int) (body : Rule)
  /-- The associativity of what the body spells out. -/
  | assoc (side : Associativity) (body : Rule)
  /-- The preference for the body where two readings of a whole stretch of text
  remain. -/
  | preferred (score : Int) (body : Rule)
  | aliased (a : Alias) (body : Rule)
  /-- The role of the body in its node. -/
  | field (role : String) (body : Rule)
deriving DecidableEq, Repr, Inhabited

namespace Rule

/-- A token spelled out. -/
def literal (text : String) : Rule := token ⟨.text text, some text, false⟩

/-- A token spelled out that follows immediately. -/
def immediateLiteral (text : String) : Rule := token ⟨.text text, some text, true⟩

/-- A token described by a pattern. -/
def lexeme (p : Pattern) : Rule := token ⟨p, none, false⟩

/-- A token described by a pattern that follows immediately. -/
def immediateLexeme (p : Pattern) : Rule := token ⟨p, none, true⟩

instance : Coe String Rule := ⟨literal⟩

/-- Some rules one after the other. -/
def all : List Rule → Rule
  | [] => blank
  | [r] => r
  | r :: rest => seq r (all rest)

/-- One of some rules. -/
def any : List Rule → Rule
  | [] => blank
  | [r] => r
  | r :: rest => choice r (any rest)

/-- The body or nothing. -/
def opt (r : Rule) : Rule := choice r blank

/-- The body any number of times. -/
def star (r : Rule) : Rule := choice (many r) blank

/-- The body once or more often, with a separator between. -/
def sepBy1 (separator body : Rule) : Rule := seq body (star (seq separator body))

/-- The body any number of times, with a separator between. -/
def sepBy (separator body : Rule) : Rule := opt (sepBy1 separator body)

/-- The body, belonging together from the left. -/
def leftAssoc (r : Rule) : Rule := assoc .left (prec 0 r)

/-- The body as a node of another kind. -/
def asKind (kind : String) (r : Rule) : Rule := aliased ⟨kind, true⟩ r

/-- The body as a token that is spelled out. -/
def asLiteral (text : String) (r : Rule) : Rule := aliased ⟨text, false⟩ r

end Rule

/-- A grammar: its rules by name, the start rule first; the tokens of its
scanner; what may stand between tokens, as a pattern of separators and the names
of rules; and the names of rules that make no node of their own but stand for
their alternatives wherever they are used. -/
structure Grammar where
  rules : List (String × Rule)
  scannerTokens : List String
  separators : Lexis.Pattern
  extras : List String
  inlined : List String

end GrammarAudit.Rules
