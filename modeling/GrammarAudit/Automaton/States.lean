import GrammarAudit.Automaton.Items

/-!
# States of the parser

A state is a set of items, each with the tokens that may follow it.  The states
that can be reached from the start are built one after the other; in each, a
token leads to the actions that the items call for.  Where several are called
for, precedence and associativity choose; what they leave open stays open, and
the parser tries all of it.  State 0 is for text that fits nowhere, state 1 the
start.

* `StateTable.ofItems` builds the states.
-/

namespace GrammarAudit.Automaton

open Rules

/-- What to do with a token. -/
inductive Action
  /-- Take it and go on in a state; a repetition is taken only when it has been
  put together. -/
  | shift (state : Nat) (repetition : Bool)
  /-- Take it as an extra and stay. -/
  | shiftExtra
  /-- Make a node of a rule from the symbols last taken. -/
  | reduce (symbol count : Nat) (score : Int) (shape : Nat)
  /-- The text is complete. -/
  | accept
  /-- Look for a state in which the token fits. -/
  | recover
deriving DecidableEq, Repr, Inhabited

/-- The actions for a token, and whether a token read elsewhere can be used
again here. -/
structure Entry where
  actions : List Action
  reusable : Bool
deriving Repr, Inhabited

/-- A state: the number of its set of items without what follows, the entry of
each token, and the state that each rule leads to. -/
structure LrState where
  core : Nat
  kernel : Array (Nat × SymbolSet)
  entries : Array (Option Entry)
  gotos : Array (Option Nat)
deriving Inhabited

/-- The states built so far, found again by their items. -/
structure StateTable where
  states : Array LrState
  numbers : Std.HashMap (Array (Nat × SymbolSet)) Nat
  cores : Std.HashMap (Array Nat) Nat

/-- What closing a state adds for a rule after the dot: items, the tokens that
follow them in any case, and whether what follows the rule follows them too. -/
abbrev Additions := Array (Nat × SymbolSet × Bool)

/-- The rules that spelling out a rule can begin with, with the tokens that
follow them in any case and whether what follows the whole follows them too. -/
def leadingRules (t : ItemTable) (first : Array SymbolSet) (rule : Nat) :
    Array (Option (SymbolSet × Bool)) := Id.run do
  let n := t.numbering
  let mut found : Array (Option (SymbolSet × Bool)) := Array.replicate n.rules none
  found := found.setIfInBounds rule (some (0, true))
  for _ in [0:n.rules + 1] do
    let mut changed := false
    for r in [0:n.rules] do
      match found.getD r none with
      | none => pure ()
      | some (follow, passes) =>
        for item in t.starts.getD r #[] do
          let here := t.items.getD item default
          match here.next with
          | some c =>
            if n.isRule c then
              let y := n.ruleIndex c
              let (more, through) :=
                match (t.items.getD here.successor default).next with
                | some d => (first.getD d 0, false)
                | none => (follow, passes)
              let old := found.getD y none
              let (f, p) := old.getD (0, false)
              let new := (f ||| more, p || through)
              if old != some new then
                changed := true
                found := found.setIfInBounds y (some new)
          | none => pure ()
    if !changed then break
  return found

/-- The additions for each rule. -/
def additionsOf (t : ItemTable) (first : Array SymbolSet) : Array Additions :=
  (Array.range t.numbering.rules).map fun rule =>
    let found := leadingRules t first rule
    (Array.range t.numbering.rules).flatMap fun r =>
      match found.getD r none with
      | none => #[]
      | some (follow, passes) => (t.starts.getD r #[]).map fun item => (item, follow, passes)

/-- All items of a state: for each item the tokens that follow it, none if it is
not in the state. -/
def closeKernel (t : ItemTable) (first : Array SymbolSet) (additions : Array Additions)
    (kernel : Array (Nat × SymbolSet)) : Array SymbolSet := Id.run do
  let n := t.numbering
  let mut sets : Array SymbolSet := Array.replicate t.items.size 0
  for (item, follow) in kernel do
    let here := t.items.getD item default
    match here.next with
    | some c =>
      if n.isRule c then
        let after :=
          match (t.items.getD here.successor default).next with
          | some d => first.getD d 0
          | none => follow
        for (added, always, passes) in additions.getD (n.ruleIndex c) #[] do
          sets := sets.modify added (· ||| if passes then always ||| after else always)
    | none => pure ()
    sets := sets.modify item (· ||| follow)
  return sets

/-- The number of the state with a kernel, which is made if it is new. -/
def StateTable.find (s : StateTable) (n : Numbering) (kernel : Array (Nat × SymbolSet)) :
    Nat × StateTable :=
  match s.numbers[kernel]? with
  | some i => (i, s)
  | none =>
    let items := kernel.map Prod.fst
    let core := s.cores.getD items s.cores.size
    (s.states.size,
      { states := s.states.push
          ⟨core, kernel, Array.replicate n.terminals none, Array.replicate n.rules none⟩
        numbers := s.numbers.insert kernel s.states.size
        cores := s.cores.insert items core })

/-- Precedences as they compare: none counts as zero. -/
def level (p : Option Int) : Int := p.getD 0

/-- The reductions called for by a token: their precedence, and which
associativities they name. -/
structure ReductionInfo where
  prec : Option Int
  left : Bool
  right : Bool
  neither : Bool
deriving Inhabited

/-- Notes one more reduction. -/
def ReductionInfo.note (r : ReductionInfo) (i : Item) : ReductionInfo :=
  match i.lastAssoc with
  | some .left => { r with prec := i.lastPrec, left := true }
  | some .right => { r with prec := i.lastPrec, right := true }
  | none => { r with prec := i.lastPrec, neither := true }

/-- Adds the action of a complete item for a token to those of others: a higher
precedence replaces them, a lower one is dropped, an equal one stays beside
them. -/
def addReduction (i : Item) (action : Action) :
    List Action × ReductionInfo → List Action × ReductionInfo
  | ([], info) => ([action], info.note i)
  | (actions, info) =>
    if level info.prec < level i.lastPrec then
      ([action], (⟨none, false, false, false⟩ : ReductionInfo).note i)
    else if level i.lastPrec = level info.prec then (actions ++ [action], info.note i)
    else (actions, info)

/-- The action that a complete item calls for. -/
def completionOf (n : Numbering) (i : Item) : Action :=
  match i.head with
  | none => .accept
  | some r => .reduce (n.rule r) i.dot i.score i.shape

/-- Chooses between the reductions and the shift that a token calls for.
`shifts` are the precedences of the items that would take the token, `heads` the
rules of all items involved; where they all belong to one auxiliary rule the
shift continues a repetition. -/
def settle (reductions : List Action) (info : ReductionInfo) (target : Nat)
    (shifts : List (Option Int)) (repeats : Bool) : List Action :=
  if repeats then reductions ++ [.shift target true]
  else
    let more := shifts.any fun p => level info.prec < level p
    let less := shifts.any fun p => level p < level info.prec
    if more && !less then [.shift target false]
    else if less && !more then reductions
    else if !less && !more && info.left && !info.right && !info.neither then reductions
    else if !less && !more && info.right && !info.left && !info.neither then
      [.shift target false]
    else reductions ++ [.shift target false]

/-- The most states that are built. -/
def stateLimit : Nat := 20000

/-- Builds the states of a grammar. -/
def StateTable.ofItems (t : ItemTable) (extras : List Nat) : StateTable := Id.run do
  let n := t.numbering
  let first := t.firstSets
  let additions := additionsOf t first
  let mut table : StateTable := ⟨#[], ∅, ∅⟩
  table := (table.find n #[]).2
  table := (table.find n #[(t.start, SymbolSet.single n.endOfText)]).2
  for number in [0:stateLimit] do
    if number ≥ table.states.size then break
    let state := table.states.getD number default
    let sets := closeKernel t first additions state.kernel
    let mut entries : Array (List Action × ReductionInfo) := Array.replicate n.terminals ([], default)
    let mut successors : Array (Array (Nat × SymbolSet)) := Array.replicate n.symbols #[]
    for h : i in [0:sets.size] do
      let follow := sets[i]
      if follow ≠ 0 then
        let item := t.items.getD i default
        match item.next with
        | some c =>
          successors := successors.modify c fun kernel =>
            match kernel.findIdx? (·.1 == item.successor) with
            | some at_ => kernel.modify at_ fun (j, f) => (j, f ||| follow)
            | none => kernel.push (item.successor, follow)
        | none =>
          let action := completionOf n item
          for c in [0:n.terminals] do
            if follow.testBit c then
              entries := entries.modify c (addReduction item action)
    let mut result : Array (Option Entry) := entries.map fun (actions, _) =>
      if actions.isEmpty then none else some ⟨actions, true⟩
    let mut gotos := state.gotos
    for c in [0:n.symbols] do
      let kernel := (successors.getD c #[]).qsort fun a b => a.1 < b.1
      if !kernel.isEmpty then
        let (target, next) := table.find n kernel
        table := next
        if n.isRule c then
          gotos := gotos.setIfInBounds (n.ruleIndex c) (some target)
        else
          let (reductions, info) := entries.getD c ([], default)
          if reductions.isEmpty then
            result := result.setIfInBounds c (some ⟨[.shift target false], true⟩)
          else
            let mut shifts : List (Option Int) := []
            let mut heads : List Nat := []
            for h : i in [0:sets.size] do
              if sets[i] ≠ 0 then
                let item := t.items.getD i default
                let takes :=
                  match item.next with
                  | some d => 0 < item.dot && (first.getD d 0).testBit c
                  | none => false
                if takes then shifts := item.lastPrec :: shifts
                if takes || (item.next.isNone && sets[i].testBit c) then
                  heads := item.head.toList ++ heads
            let repeats :=
              match heads with
              | [] => false
              | r :: rest => t.auxiliary.getD r false && rest.all (· == r)
            result := result.setIfInBounds c
              (some ⟨settle reductions info target shifts repeats, true⟩)
    for c in extras do
      if (result.getD c none).isNone then
        result := result.setIfInBounds c (some ⟨[.shiftExtra], true⟩)
    let entriesDone := result
    let gotosDone := gotos
    table := { table with states := table.states.modify number fun s =>
      { s with entries := entriesDone, gotos := gotosDone } }
  return table

end GrammarAudit.Automaton
