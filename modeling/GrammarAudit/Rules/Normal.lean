import GrammarAudit.Rules.Rule
import Std.Data.HashMap

/-!
# Normal form of a grammar

The rules of a grammar are taken apart into tokens and productions.  Tokens are
collected as they are met; a rule that is nothing but a token used nowhere else
becomes that token.  A repetition becomes an auxiliary rule that splits in two,
a choice becomes one production for each alternative, and rules that make no
node of their own are replaced by their alternatives.

* `Grammar.normalize` takes a grammar apart.
-/

namespace GrammarAudit.Rules

open Lexis

/-- How a symbol shows in trees: hidden symbols do not, named ones stand for
rules, anonymous ones for tokens that are spelled out, and auxiliary ones are
made on the way and hidden. -/
inductive Visibility
  | hidden
  | named
  | anonymous
  | auxiliary
deriving DecidableEq, Repr, Inhabited

/-- A name that starts with an underscore is hidden. -/
def Visibility.ofName (name : String) : Visibility :=
  if name.toList.head? == some '_' then .hidden else .named

/-- A symbol of a production: a token of the scanner, a token of the grammar or
a rule, each by its place among its kind. -/
inductive Symbol
  | scanner (index : Nat)
  | token (index : Nat)
  | rule (index : Nat)
deriving DecidableEq, Repr, Inhabited, Hashable

/-- A symbol in a production, with what the rule says about it there. -/
structure ProductionStep where
  symbol : Symbol
  prec : Option Int
  assoc : Option Associativity
  shownAs : Option Alias
  role : Option String
deriving DecidableEq, Repr, Inhabited, Hashable

/-- One way to spell a rule out. -/
structure Production where
  score : Int
  steps : List ProductionStep
deriving DecidableEq, Repr, Inhabited, Hashable

/-- A token of a grammar. -/
structure TokenInfo where
  lexeme : Lexeme
  name : String
  visibility : Visibility
deriving Repr, Inhabited

/-- A rule of the normal form. -/
structure RuleInfo where
  name : String
  visibility : Visibility
  productions : List Production
deriving Repr, Inhabited

/-- A grammar taken apart.  A symbol that appears under one alias wherever it is
used has it as its own kind. -/
structure NormalGrammar where
  scannerTokens : List String
  tokens : List TokenInfo
  rules : List RuleInfo
  extras : List Symbol
  separators : Pattern
  ownAliases : List (Symbol × Alias)

/-- A token that has been met, with the number of its uses. -/
structure CollectedToken where
  info : TokenInfo
  uses : Nat
deriving Inhabited

/-- The tokens met so far. -/
abbrev TokenTable := Array CollectedToken

/-- Notes one more use of a token; the token's place, the table, and how many
tokens without a text of their own the rule `owner` has had so far. -/
def TokenTable.note (table : TokenTable) (owner : String) (unnamed : Nat) (l : Lexeme) :
    Nat × TokenTable × Nat :=
  match table.findIdx? (·.info.lexeme == l) with
  | some i => (i, table.modify i fun t => { t with uses := t.uses + 1 }, unnamed)
  | none =>
    match l.literal with
    | some text => (table.size, table.push ⟨⟨l, text, .anonymous⟩, 1⟩, unnamed)
    | none =>
      let name := owner ++ "_token" ++ toString (unnamed + 1)
      (table.size, table.push ⟨⟨l, name, .auxiliary⟩, 1⟩, unnamed + 1)

/-- A rule over symbols, with repetitions still in it. -/
inductive SymbolRule
  | blank
  | symbol (s : Symbol)
  | seq (first second : SymbolRule)
  | choice (first second : SymbolRule)
  | many (body : SymbolRule)
  | prec (level : Int) (body : SymbolRule)
  | assoc (side : Associativity) (body : SymbolRule)
  | preferred (score : Int) (body : SymbolRule)
  | aliased (a : Alias) (body : SymbolRule)
  | field (role : String) (body : SymbolRule)
deriving DecidableEq, Repr, Inhabited

/-- Replaces the tokens of a rule by their symbols, and names by what they stand
for. -/
def Rule.toSymbols (resolve : String → Symbol) (owner : String) :
    Rule → TokenTable × Nat → SymbolRule × TokenTable × Nat
  | .blank, s => (.blank, s)
  | .token l, (table, unnamed) =>
    let (i, s) := table.note owner unnamed l
    (.symbol (.token i), s)
  | .ref name, s => (.symbol (resolve name), s)
  | .seq a b, s =>
    let (a, s) := a.toSymbols resolve owner s
    let (b, s) := b.toSymbols resolve owner s
    (.seq a b, s)
  | .choice a b, s =>
    let (a, s) := a.toSymbols resolve owner s
    let (b, s) := b.toSymbols resolve owner s
    (.choice a b, s)
  | .many a, s =>
    let (a, s) := a.toSymbols resolve owner s
    (.many a, s)
  | .prec level a, s =>
    let (a, s) := a.toSymbols resolve owner s
    (.prec level a, s)
  | .assoc side a, s =>
    let (a, s) := a.toSymbols resolve owner s
    (.assoc side a, s)
  | .preferred score a, s =>
    let (a, s) := a.toSymbols resolve owner s
    (.preferred score a, s)
  | .aliased x a, s =>
    let (a, s) := a.toSymbols resolve owner s
    (.aliased x a, s)
  | .field role a, s =>
    let (a, s) := a.toSymbols resolve owner s
    (.field role a, s)

namespace SymbolRule

/-- The rule with its symbols replaced. -/
def mapSymbols (f : Symbol → Symbol) : SymbolRule → SymbolRule
  | .blank => .blank
  | .symbol s => .symbol (f s)
  | .seq a b => .seq (a.mapSymbols f) (b.mapSymbols f)
  | .choice a b => .choice (a.mapSymbols f) (b.mapSymbols f)
  | .many a => .many (a.mapSymbols f)
  | .prec level a => .prec level (a.mapSymbols f)
  | .assoc side a => .assoc side (a.mapSymbols f)
  | .preferred score a => .preferred score (a.mapSymbols f)
  | .aliased x a => .aliased x (a.mapSymbols f)
  | .field role a => .field role (a.mapSymbols f)

/-- The auxiliary rules made so far, with their bodies; the first has the number
`base`. -/
structure Repetitions where
  base : Nat
  made : Array (String × SymbolRule)

/-- Replaces every repetition of a rule by an auxiliary rule; repetitions with
one body share it.  Counts how many the rule `owner` has made. -/
def expandMany (owner : String) :
    SymbolRule → Repetitions × Nat → SymbolRule × Repetitions × Nat
  | .blank, s => (.blank, s)
  | .symbol x, s => (.symbol x, s)
  | .seq a b, s =>
    let (a, s) := a.expandMany owner s
    let (b, s) := b.expandMany owner s
    (.seq a b, s)
  | .choice a b, s =>
    let (a, s) := a.expandMany owner s
    let (b, s) := b.expandMany owner s
    (.choice a b, s)
  | .many a, s =>
    let (body, reps, count) := a.expandMany owner s
    match reps.made.findIdx? (·.2 == body) with
    | some i => (.symbol (.rule (reps.base + i)), reps, count)
    | none =>
      let name := owner ++ "_repeat" ++ toString (count + 1)
      let i := reps.made.size
      (.symbol (.rule (reps.base + i)), { reps with made := reps.made.push (name, body) },
        count + 1)
  | .prec level a, s =>
    let (a, s) := a.expandMany owner s
    (.prec level a, s)
  | .assoc side a, s =>
    let (a, s) := a.expandMany owner s
    (.assoc side a, s)
  | .preferred score a, s =>
    let (a, s) := a.expandMany owner s
    (.preferred score a, s)
  | .aliased x a, s =>
    let (a, s) := a.expandMany owner s
    (.aliased x a, s)
  | .field role a, s =>
    let (a, s) := a.expandMany owner s
    (.field role a, s)

/-- The alternatives of a rule, each free of choices, in the order they are
written. -/
def alternatives : SymbolRule → List SymbolRule
  | .seq a b => a.alternatives.flatMap fun x => b.alternatives.map (.seq x)
  | .choice a b => a.alternatives ++ b.alternatives
  | .prec level a => a.alternatives.map (.prec level)
  | .assoc side a => a.alternatives.map (.assoc side)
  | .preferred score a => a.alternatives.map (.preferred score)
  | .aliased x a => a.alternatives.map (.aliased x)
  | .field role a => a.alternatives.map (.field role)
  | r => [r]

/-- What holds for the symbols of the part of a rule that is being spelled
out. -/
structure Scope where
  prec : Option Int
  assoc : Option Associativity
  shownAs : Option Alias
  role : Option String

/-- Changes the last step. -/
def changeLast (f : ProductionStep → ProductionStep) : List ProductionStep → List ProductionStep
  | [] => []
  | [s] => [f s]
  | s :: t :: rest => s :: changeLast f (t :: rest)

/-- Spells out a rule without choices.  The precedence and associativity of a
part end with its last symbol, except at the end of the rule, where they settle
how the whole rule ends. -/
def spell (scope : Scope) (atEnd : Bool) : SymbolRule → List ProductionStep
  | .blank => []
  | .symbol s => [⟨s, scope.prec, scope.assoc, scope.shownAs, scope.role⟩]
  | .seq a b => a.spell scope false ++ b.spell scope atEnd
  | .choice a _ => a.spell scope atEnd
  | .many a => a.spell scope atEnd
  | .prec level a =>
    let steps := a.spell { scope with prec := some level } atEnd
    if atEnd then steps else changeLast (fun s => { s with prec := scope.prec }) steps
  | .assoc side a =>
    let steps := a.spell { scope with assoc := some side } atEnd
    if atEnd then steps else changeLast (fun s => { s with assoc := scope.assoc }) steps
  | .preferred _ a => a.spell scope atEnd
  | .aliased x a => a.spell { scope with shownAs := some x } atEnd
  | .field role a => a.spell { scope with role := some role } atEnd

/-- Of two scores the one that weighs more; the first if they weigh the same. -/
def stronger (a b : Int) : Int := if a.natAbs < b.natAbs then b else a

/-- The score of a rule without choices: the one that weighs most. -/
def score : SymbolRule → Int
  | .seq a b => stronger a.score b.score
  | .prec _ a | .assoc _ a | .aliased _ a | .field _ a => a.score
  | .preferred n a => stronger n a.score
  | _ => 0

/-- The productions of a rule, each once. -/
def productions (r : SymbolRule) : List Production :=
  (r.alternatives.map fun a => ⟨a.score, a.spell ⟨none, none, none, none⟩ true⟩).eraseDups

end SymbolRule

/-- Replaces the steps of a production from a position on that are inlined rules
by the steps of their productions.  The alias and role of the step hold for all
of those, its precedence and associativity for the last where it has none. -/
def inlineFrom (alternatives : Symbol → Option (List Production)) (score : Int)
    (done : List ProductionStep) : List ProductionStep → List Production
  | [] => [⟨score, done⟩]
  | step :: rest =>
    match alternatives step.symbol with
    | none => inlineFrom alternatives score (done ++ [step]) rest
    | some ps =>
      ps.flatMap fun p =>
        let steps := p.steps.map fun s =>
          { s with shownAs := step.shownAs.or s.shownAs, role := step.role.or s.role }
        let steps := SymbolRule.changeLast
          (fun s => { s with prec := s.prec.or step.prec, assoc := s.assoc.or step.assoc }) steps
        inlineFrom alternatives (SymbolRule.stronger score p.score) (done ++ steps) rest

/-- How a symbol is used: under which aliases and how often each, and whether
ever without one. -/
structure SymbolUses where
  aliases : List (Alias × Nat)
  plain : Bool
deriving Inhabited

/-- Notes one more use. -/
def SymbolUses.note (u : SymbolUses) : Option Alias → SymbolUses
  | none => { u with plain := true }
  | some a =>
    if u.aliases.any (·.1 == a) then
      { u with aliases := u.aliases.map fun (b, n) => if b == a then (b, n + 1) else (b, n) }
    else { u with aliases := u.aliases ++ [(a, 1)] }

/-- The alias that a symbol always has, the most frequent and first if it has
several, unless it is ever used without one. -/
def SymbolUses.own? (u : SymbolUses) : Option Alias :=
  if u.plain then none
  else (u.aliases.foldl
    (fun (best : Option (Alias × Nat)) next =>
      match best with
      | none => some next
      | some b => if b.2 < next.2 then some next else some b)
    none).map (·.1)

/-- The uses of all symbols in some rules and extras. -/
def usesOf (inlined : Symbol → Bool) (rules : List RuleInfo) (extras : List Symbol) :
    Std.HashMap Symbol SymbolUses :=
  let noteStep (uses : Std.HashMap Symbol SymbolUses) (s : ProductionStep) :=
    if inlined s.symbol then uses
    else uses.insert s.symbol ((uses.getD s.symbol ⟨[], false⟩).note s.shownAs)
  let inRules := rules.foldl
    (fun uses r => r.productions.foldl (fun uses p => p.steps.foldl noteStep uses) uses) ∅
  extras.foldl (fun uses s => uses.insert s ((uses.getD s ⟨[], false⟩).note none)) inRules

/-- A production without the aliases that symbols have anyway.  An alias is kept
where another production of the rule has it at the same place for a symbol that
does not have it anyway. -/
def dropOwnAliases (own : Symbol → Option Alias) (others : List Production) (p : Production) :
    Production :=
  { p with steps := p.steps.zipIdx.map fun (s, j) =>
      match s.shownAs with
      | none => s
      | some a =>
        let needed := others.any fun q =>
          match q.steps[j]? with
          | some t => t.shownAs == some a && own t.symbol != some a
          | none => false
        if own s.symbol == some a && !needed then { s with shownAs := none } else s }

/-- Drops the aliases that symbols have anyway from all productions of a
rule. -/
def RuleInfo.dropOwnAliases (own : Symbol → Option Alias) (r : RuleInfo) : RuleInfo :=
  { r with productions := r.productions.zipIdx.map fun (p, i) =>
      Rules.dropOwnAliases own (r.productions.eraseIdx i) p }

namespace Grammar

/-- The symbol that a name stands for in the rules as written. -/
def resolve (g : Grammar) (name : String) : Symbol :=
  match g.rules.findIdx? (·.1 == name) with
  | some i => .rule i
  | none => .scanner ((g.scannerTokens.findIdx? (· == name)).getD g.scannerTokens.length)

/-- The rules over symbols, and the tokens met. -/
def collectTokens (g : Grammar) : List (String × SymbolRule) × TokenTable :=
  let step := fun ((rules, table) : List (String × SymbolRule) × TokenTable)
      ((name, rule) : String × Rule) =>
    let (rule, table, _) := rule.toSymbols g.resolve name (table, 0)
    (rules ++ [(name, rule)], table)
  g.rules.foldl step ([], #[])

/-- The token that stands for a whole rule: the rule is that token, not the
start rule, and the token is used nowhere else. -/
def wholeToken? (table : TokenTable) (index : Nat) (rule : SymbolRule) : Option Nat :=
  match rule with
  | .symbol (.token t) =>
    if index ≠ 0 ∧ (table.getD t default).uses = 1 then some t else none
  | _ => none

/-- Takes a grammar apart into tokens and productions. -/
def normalize (g : Grammar) : NormalGrammar :=
  let (rules, table) := g.collectTokens
  let whole := rules.zipIdx.map fun ((_, rule), i) => wholeToken? table i rule
  let kept := (rules.zip whole).filterMap fun (r, t) => if t.isSome then none else some r
  let tokens := table.toList.zipIdx.map fun (t, i) =>
    match (rules.zip whole).find? (·.2 == some i) with
    | some ((name, _), _) => { t.info with name, visibility := .ofName name }
    | none => t.info
  let renumber (s : Symbol) : Symbol :=
    match s with
    | .rule i =>
      match whole.getD i none with
      | some t => .token t
      | none => .rule ((whole.take i).countP Option.isNone)
    | s => s
  let inlinedNames := g.inlined
  let isInlined (s : Symbol) : Bool :=
    match s with
    | .rule i => ((kept[i]?).map fun r => inlinedNames.contains r.1).getD false
    | _ => false
  let expandOne := fun ((done, reps) : List (String × SymbolRule) × SymbolRule.Repetitions)
      ((name, rule) : String × SymbolRule) =>
    let (rule, reps, _) := (rule.mapSymbols renumber).expandMany name (reps, 0)
    (done ++ [(name, rule)], reps)
  let (written, reps) := kept.foldl expandOne ([], ⟨kept.length, #[]⟩)
  let own := written.map fun (name, rule) =>
    { name, visibility := .ofName name, productions := rule.productions : RuleInfo }
  let auxiliary := reps.made.toList.zipIdx.map fun ((name, body), i) =>
    let self := SymbolRule.symbol (.rule (kept.length + i))
    { name, visibility := .auxiliary,
      productions := (SymbolRule.choice (.seq self self) body).productions : RuleInfo }
  let rules := own ++ auxiliary
  let extras := g.extras.map fun name => renumber (g.resolve name)
  let uses := usesOf isInlined rules extras
  let ownAlias (s : Symbol) : Option Alias := (uses.getD s ⟨[], true⟩).own?
  let rules := rules.map (·.dropOwnAliases ownAlias)
  let alternatives (s : Symbol) : Option (List Production) :=
    if isInlined s then
      match s with
      | .rule i => (rules[i]?).map RuleInfo.productions
      | _ => none
    else none
  let rules := rules.zipIdx.map fun (r, i) =>
    if isInlined (.rule i) then { r with productions := [] }
    else { r with productions :=
      (r.productions.flatMap fun p => inlineFrom alternatives p.score [] p.steps).eraseDups }
  let symbols := (List.range g.scannerTokens.length).map Symbol.scanner
    ++ (List.range tokens.length).map Symbol.token ++ (List.range rules.length).map Symbol.rule
  { scannerTokens := g.scannerTokens, tokens, rules, extras, separators := g.separators,
    ownAliases := symbols.filterMap fun s => (ownAlias s).map (s, ·) }

end Grammar

end GrammarAudit.Rules
