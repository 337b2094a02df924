import GrammarAudit.Rules.Normal

/-!
# Items

An item is a production with a dot: what stands before the dot has been read.
Symbols are numbered through: the scanner's tokens, the end of the text, the
grammar's tokens, then the rules.  Items that differ only in symbols already
read, with the same aliases and roles, behave alike and share a number.

* `ItemTable.ofNormal` numbers productions and items.
* `ItemTable.firstSets` and `lastSets` are the tokens that a symbol can start
  and end with.
-/

namespace GrammarAudit.Automaton

open Rules

/-- How many symbols of each sort a grammar has; numbers of symbols follow from
it. -/
structure Numbering where
  scannerTokens : Nat
  tokens : Nat
  rules : Nat
deriving Repr, Inhabited

namespace Numbering

/-- The number of the end of the text. -/
def endOfText (n : Numbering) : Nat := n.scannerTokens

/-- The number of a token. -/
def token (n : Numbering) (i : Nat) : Nat := n.scannerTokens + 1 + i

/-- The count of symbols that are not rules. -/
def terminals (n : Numbering) : Nat := n.scannerTokens + 1 + n.tokens

/-- The number of a rule. -/
def rule (n : Numbering) (i : Nat) : Nat := n.terminals + i

/-- The count of all symbols. -/
def symbols (n : Numbering) : Nat := n.terminals + n.rules

/-- The number of a symbol. -/
def ofSymbol (n : Numbering) : Symbol → Nat
  | .scanner i => i
  | .token i => n.token i
  | .rule i => n.rule i

/-- The number belongs to a rule. -/
def isRule (n : Numbering) (code : Nat) : Bool := n.terminals ≤ code

/-- The number belongs to a token of the grammar. -/
def isToken (n : Numbering) (code : Nat) : Bool := n.scannerTokens < code && code < n.terminals

/-- The place of a token among the grammar's tokens. -/
def tokenIndex (n : Numbering) (code : Nat) : Nat := code - (n.scannerTokens + 1)

/-- The place of a rule among the rules. -/
def ruleIndex (n : Numbering) (code : Nat) : Nat := code - n.terminals

end Numbering

/-- A set of symbols, as the number whose bits are set at their numbers. -/
abbrev SymbolSet := Nat

/-- The set with one symbol. -/
def SymbolSet.single (code : Nat) : SymbolSet := 1 <<< code

/-- How the children of a node show: the alias of each, without those after the
last one that has one, and the roles with their places. -/
structure Shape where
  aliases : List (Option Alias)
  roles : List (Nat × String)
deriving BEq, Hashable, Repr, Inhabited

/-- The shape without aliases and roles. -/
def Shape.plain : Shape := ⟨[], []⟩

/-- A list without the empty options at its end. -/
def dropTrailingNone {α : Type} : List (Option α) → List (Option α)
  | [] => []
  | x :: rest =>
    match x, dropTrailingNone rest with
    | none, [] => []
    | x, rest => x :: rest

/-- The shape of a production. -/
def Shape.ofProduction (p : Production) : Shape where
  aliases := dropTrailingNone (p.steps.map ProductionStep.shownAs)
  roles := p.steps.zipIdx.filterMap fun (s, i) => s.role.map (i, ·)

/-- A production with its rule; the start production has none. -/
structure RuleProduction where
  head : Option Nat
  score : Int
  steps : Array ProductionStep
  shape : Nat
deriving Inhabited

/-- What the behaviour of an item depends on. -/
structure ItemShape where
  head : Option Nat
  score : Int
  length : Nat
  dot : Nat
  lastPrec : Option Int
  lastAssoc : Option Associativity
  past : List (Option Alias × Option String)
  rest : List ProductionStep
deriving BEq, Hashable, Inhabited

/-- The item of a production with a dot. -/
def ItemShape.of (p : RuleProduction) (dot : Nat) : ItemShape :=
  let steps := p.steps.toList
  let last := if dot = 0 then none else steps[dot - 1]?
  { head := p.head, score := p.score, length := steps.length, dot := dot
    lastPrec := last.bind ProductionStep.prec, lastAssoc := last.bind ProductionStep.assoc
    past := (steps.take dot).map fun s => (s.shownAs, s.role), rest := steps.drop dot }

/-- An item with the numbers that a construction of states needs. -/
structure Item where
  head : Option Nat
  dot : Nat
  score : Int
  shape : Nat
  lastPrec : Option Int
  lastAssoc : Option Associativity
  /-- The symbol after the dot. -/
  next : Option Nat
  /-- The item with the dot moved over that symbol. -/
  successor : Nat
deriving Inhabited

/-- The item of a production with a dot. -/
def Item.of (n : Numbering) (p : RuleProduction) (dot successor : Nat) : Item :=
  let last := if dot = 0 then none else p.steps[dot - 1]?
  { head := p.head, dot := dot, score := p.score, shape := p.shape
    lastPrec := last.bind ProductionStep.prec, lastAssoc := last.bind ProductionStep.assoc
    next := p.steps[dot]?.map fun s => n.ofSymbol s.symbol, successor := successor }

/-- The numbered productions and items of a grammar. -/
structure ItemTable where
  numbering : Numbering
  shapes : Array Shape
  productions : Array RuleProduction
  items : Array Item
  /-- The first item of each production of each rule. -/
  starts : Array (Array Nat)
  /-- The first item of the start production. -/
  start : Nat
  auxiliary : Array Bool

namespace ItemTable

/-- The productions of all rules, then the start production, with their shapes
numbered; the plain shape has the number zero. -/
def numberProductions (g : NormalGrammar) : Array RuleProduction × Array Shape :=
  let add := fun ((done, shapes) : Array RuleProduction × Array Shape)
      ((head, p) : Nat × Production) =>
    let shape := Shape.ofProduction p
    match shapes.findIdx? (· == shape) with
    | some i => (done.push ⟨some head, p.score, p.steps.toArray, i⟩, shapes)
    | none => (done.push ⟨some head, p.score, p.steps.toArray, shapes.size⟩, shapes.push shape)
  let all := g.rules.zipIdx.flatMap fun (r, i) => r.productions.map (i, ·)
  let (done, shapes) := all.foldl add (#[], #[Shape.plain])
  (done.push ⟨none, 0, #[⟨.rule 0, none, none, none, none⟩], 0⟩, shapes)

/-- Numbers the productions and items of a grammar. -/
def ofNormal (g : NormalGrammar) : ItemTable := Id.run do
  let numbering : Numbering := ⟨g.scannerTokens.length, g.tokens.length, g.rules.length⟩
  let (productions, shapes) := numberProductions g
  let mut numbers : Std.HashMap ItemShape Nat := ∅
  let mut kept : Array (Nat × Nat) := #[]
  let mut table : Array (Array Nat) := #[]
  for h : p in [0:productions.size] do
    let production := productions[p]
    let mut row : Array Nat := #[]
    for dot in [0:production.steps.size + 1] do
      let shape := ItemShape.of production dot
      match numbers[shape]? with
      | some n => row := row.push n
      | none =>
        row := row.push kept.size
        numbers := numbers.insert shape kept.size
        kept := kept.push (p, dot)
    table := table.push row
  let numberOf (p dot : Nat) : Nat := (table.getD p #[]).getD dot 0
  let items := kept.map fun (p, dot) =>
    Item.of numbering (productions.getD p default) dot (numberOf p (dot + 1))
  let starts := (Array.range numbering.rules).map fun r =>
    (Array.range productions.size).filterMap fun p =>
      if (productions.getD p default).head == some r then some (numberOf p 0) else none
  return {
    numbering := numbering
    shapes := shapes
    productions := productions
    items := items
    starts := starts
    start := numberOf (productions.size - 1) 0
    auxiliary := (g.rules.map fun r => r.visibility == .auxiliary).toArray }

/-- The symbols of each production of a rule. -/
def spelled (t : ItemTable) : Array (Nat × Array Nat) :=
  t.productions.filterMap fun p =>
    p.head.map fun r => (r, p.steps.map fun s => t.numbering.ofSymbol s.symbol)

/-- For each symbol the tokens that it can have at the end that `pick` chooses.
As many rounds as there are rules reach every chain of rules. -/
def endSets (t : ItemTable) (pick : Array Nat → Option Nat) : Array SymbolSet := Id.run do
  let n := t.numbering
  let spelled := t.spelled
  let mut sets := (Array.range n.symbols).map fun c =>
    if n.isRule c then 0 else SymbolSet.single c
  for _ in [0:n.rules] do
    for (r, codes) in spelled do
      match pick codes with
      | some c =>
        let more := sets.getD c 0
        sets := sets.modify (n.rule r) (· ||| more)
      | none => pure ()
  return sets

/-- The tokens that each symbol can start with. -/
def firstSets (t : ItemTable) : Array SymbolSet := t.endSets fun codes => codes[0]?

/-- The tokens that each symbol can end with. -/
def lastSets (t : ItemTable) : Array SymbolSet := t.endSets Array.back?

end ItemTable

end GrammarAudit.Automaton
