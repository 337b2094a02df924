import GrammarAudit.Tree

/-!
# Languages

A language is what a compiled grammar provides: the version it was generated
for, the table of its node kinds and a parser for its texts.  The library
accepts versions from `oldestVersion` to `newestVersion`.

* `Language.idOfNamed` looks a named node kind up by its name; zero means that
  there is none.
* `Language.missingKinds` lists the names that stand for no named node kind.
-/

namespace GrammarAudit

/-- The oldest language version that can be read. -/
def oldestVersion : Nat := 13

/-- The newest language version that can be read. -/
def newestVersion : Nat := 15

/-- An entry of a language's table of node kinds. -/
structure NodeKind where
  name : String
  /-- Visible nodes appear in the trees that users see. -/
  visible : Bool
  /-- Named kinds stand for rules, the others for tokens a grammar spells
  out. -/
  named : Bool
  /-- A supertype is a hidden rule that names a choice of other kinds. -/
  supertype : Bool
deriving DecidableEq, Repr, Inhabited

/-- A kind that users can ask for by name: named, and visible or a supertype. -/
def NodeKind.isAskable (k : NodeKind) : Bool := k.named && (k.visible || k.supertype)

/-- A language: its version, its node kinds in the order of their numbers, and
its parser, which may fail to make a tree. -/
structure Language where
  abiVersion : Nat
  kinds : List NodeKind
  parse : String → Option Tree

namespace Language

/-- The number of the kind of error nodes, which every language has. -/
def errorId : Nat := 65535

/-- The number of a named node kind; zero if there is none of that name.  The
kind of error nodes is compared over the length of the name only, so every
beginning of `ERROR` finds it. -/
def idOfNamed (l : Language) (name : String) : Nat :=
  if name.toList.isPrefixOf "ERROR".toList then errorId
  else (l.kinds.findIdx? fun k => k.isAskable && k.name == name).getD 0

/-- The names that stand for no named node kind, in the order given and with
repeats. -/
def missingKinds (l : Language) (names : List String) : List String :=
  names.filter fun name => l.idOfNamed name == 0

/-- The version can be read. -/
def isReadable (l : Language) : Bool :=
  oldestVersion ≤ l.abiVersion && l.abiVersion ≤ newestVersion

/-- Why a parser refuses a language. -/
def refusal (l : Language) : String :=
  "Incompatible language version " ++ toString l.abiVersion ++ ". Expected minimum "
    ++ toString oldestVersion ++ ", maximum " ++ toString newestVersion

end Language

/-- A parser that has been set to a language. -/
structure Parser where
  language : Language

/-- A parser for a language; languages of a version it cannot read are
refused. -/
def Language.parser (l : Language) : Except String Parser :=
  if l.isReadable then .ok ⟨l⟩ else .error l.refusal

/-- Parses a text. -/
def Parser.parse (p : Parser) (text : String) : Option Tree := p.language.parse text

end GrammarAudit
