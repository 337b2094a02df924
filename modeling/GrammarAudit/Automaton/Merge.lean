import GrammarAudit.Automaton.Tokens

/-!
# Merging states

States with the same items differ only in the tokens that follow.  They are kept
apart where merging them would change what the parser does: where they treat a
token differently, where a token expected in one could take text away from one
expected in the other, or where they lead to states that are kept apart.

* `mergeStates` merges what can be merged.
* `bypassUnits` lets the parser skip states that only replace a hidden node by
  another.
* `dropUnreached` drops the states that nothing leads to.
-/

namespace GrammarAudit.Automaton

open Rules

/-- A division of the states into groups, with the group of each. -/
structure Division where
  groups : Array (Array Nat)
  groupOf : Array Nat

namespace Division

/-- The states with the same core form a group. -/
def byCore (states : Array LrState) : Division :=
  let groupOf := states.map LrState.core
  let count := groupOf.foldl (fun m c => max m (c + 1)) 0
  let groups := (Array.range states.size).foldl
    (fun (groups : Array (Array Nat)) i => groups.modify (groupOf.getD i 0) (·.push i))
    (Array.replicate count #[])
  ⟨groups, groupOf⟩

/-- Two states lie in one group. -/
def same (d : Division) (i j : Nat) : Bool := d.groupOf.getD i 0 == d.groupOf.getD j 0

/-- Divides the members of a group: those that stay, and those that differ from
one that stays or from an earlier one that moves. -/
def divide (differ : Nat → Nat → Bool) : List Nat → List Nat × List Nat
  | [] => ([], [])
  | i :: rest =>
    let (stay, moved) := divide differ (rest.filter fun j => !differ i j)
    (i :: stay, rest.filter (differ i) ++ moved)
termination_by ids => ids.length
decreasing_by
  simp only [List.length_cons, List.unattach_filter, List.unattach_attach]
  exact Nat.lt_succ_of_le (List.length_filter_le _ _)

/-- Splits every group, new ones included, until its members do not differ; the
result tells whether any group was split. -/
def split (differ : Division → Nat → Nat → Bool) (limit : Nat) (d : Division) :
    Division × Bool := Id.run do
  let mut d := d
  let mut changed := false
  for g in [0:limit] do
    if g ≥ d.groups.size then break
    let ids := (d.groups.getD g #[]).toList
    let (stay, moved) := divide (differ d) ids
    if !moved.isEmpty then
      let number := d.groups.size
      changed := true
      d := ⟨(d.groups.setIfInBounds g stay.toArray).push moved.toArray,
        moved.foldl (fun of i => of.setIfInBounds i number) d.groupOf⟩
  return (d, changed)

/-- Splits again and again while something changes. -/
def splitAll (differ : Division → Nat → Nat → Bool) (limit : Nat) : Nat → Division → Division
  | 0, d => d
  | fuel + 1, d =>
    match d.split differ limit with
    | (d, true) => splitAll differ limit fuel d
    | (d, false) => d

end Division

/-- Two actions do the same, shifts to states of one group included. -/
def sameAction (d : Division) : Action → Action → Bool
  | .shift i r, .shift j s => d.same i j && r == s
  | a, b => a == b

/-- Two lists of actions do the same. -/
def sameActions (d : Division) : List Action → List Action → Bool
  | [], [] => true
  | a :: as, b :: bs => sameAction d a b && sameActions d as bs
  | _, _ => false

/-- A symbol that only one of two states expects can be confused with one that
the other expects. -/
def confusable (n : Numbering) (conflicting : Array SymbolSet) (others : SymbolSet) (c : Nat) :
    Bool :=
  c < n.scannerTokens
    || (n.isToken c && conflicting.getD (n.tokenIndex c) 0 &&& n.tokensOf others != 0)

/-- Two states treat some symbol differently, or expect symbols that can be
confused. -/
def entriesDiffer (n : Numbering) (conflicting : Array SymbolSet) (states : Array LrState)
    (expected : Array SymbolSet) (d : Division) (i j : Nat) : Bool :=
  let a := states.getD i default
  let b := states.getD j default
  (List.range n.terminals).any fun c =>
    match a.entries.getD c none, b.entries.getD c none with
    | some e, some f => !sameActions d e.actions f.actions
    | some _, none => confusable n conflicting (expected.getD j 0) c
    | none, some _ => confusable n conflicting (expected.getD i 0) c
    | none, none => false

/-- The state that the last of some actions shifts to. -/
def shiftTarget (e : Option Entry) : Option Nat :=
  match e.bind fun e => e.actions.getLast? with
  | some (.shift s _) => some s
  | _ => none

/-- Two targets that are both there lie in different groups. -/
def targetsDiffer (d : Division) : Option Nat → Option Nat → Bool
  | some i, some j => !d.same i j
  | _, _ => false

/-- Two states lead to states of different groups. -/
def targetsOfStatesDiffer (n : Numbering) (states : Array LrState) (d : Division) (i j : Nat) :
    Bool :=
  let a := states.getD i default
  let b := states.getD j default
  ((List.range n.terminals).any fun c =>
      targetsDiffer d (shiftTarget (a.entries.getD c none)) (shiftTarget (b.entries.getD c none)))
    || (List.range n.rules).any fun r =>
      targetsDiffer d (a.gotos.getD r none) (b.gotos.getD r none)

/-- An action with the state it shifts to renumbered. -/
def Action.mapTarget (f : Nat → Nat) : Action → Action
  | .shift s r => .shift (f s) r
  | a => a

/-- A state with the states it leads to renumbered. -/
def LrState.mapTargets (f : Nat → Nat) (s : LrState) : LrState :=
  { s with
    entries := s.entries.map fun e =>
      e.map fun e => { e with actions := e.actions.map (·.mapTarget f) }
    gotos := s.gotos.map fun g => g.map f }

/-- The later of two options that is there. -/
def later {α : Type} (a b : Option α) : Option α := b.or a

/-- One state for a group. -/
def joinGroup (states : Array LrState) (ids : Array Nat) : LrState :=
  match ids.toList.map fun i => states.getD i default with
  | [] => default
  | s :: rest =>
    rest.foldl (fun joined t =>
      { joined with
        entries := joined.entries.zipWith later t.entries
        gotos := joined.gotos.zipWith later t.gotos }) s

/-- Merges the states that can be merged. -/
def mergeStates (n : Numbering) (conflicting : Array SymbolSet) (states : Array LrState) :
    Array LrState :=
  let expected := states.map LrState.expected
  let limit := 2 * states.size + 2
  let d := (Division.byCore states).split (entriesDiffer n conflicting states expected) limit
  let d := d.1.splitAll (targetsOfStatesDiffer n states) limit limit
  d.groups.map fun ids =>
    (joinGroup states ids).mapTargets fun s => d.groupOf.getD s 0

/-- The symbol that a state always makes of the single symbol last taken:
hidden, under no alias and with nothing to record. -/
def unitSymbol? (n : Numbering) (hidden : Nat → Bool) (s : LrState) : Option Nat :=
  let actions : List Action := s.entries.toList.flatMap fun e =>
    ((e.map Entry.actions).getD []).filter (· != .shiftExtra)
  match actions with
  | .reduce symbol 1 0 0 :: rest =>
    if n.isRule symbol && hidden (n.ruleIndex symbol)
        && rest.all (· == .reduce symbol 1 0 0) then some symbol
    else none
  | _ => none

/-- The state reached at the end of a chain of states that only replace a hidden
node by another. -/
def chase (n : Numbering) (units : Array (Option Nat)) (gotos : Array (Option Nat)) :
    Nat → Nat → Nat
  | 0, s => s
  | fuel + 1, s =>
    match units.getD s none with
    | none => s
    | some symbol =>
      match gotos.getD (n.ruleIndex symbol) none with
      | none => s
      | some next => chase n units gotos fuel next

/-- Lets every state lead past the states that only replace a hidden node by
another. -/
def bypassUnits (n : Numbering) (hidden : Nat → Bool) (states : Array LrState) :
    Array LrState :=
  let units := states.map (unitSymbol? n hidden)
  states.map fun s => s.mapTargets (chase n units s.gotos states.size)

/-- The states that a state leads to. -/
def LrState.targets (s : LrState) : List Nat :=
  (s.entries.toList.flatMap fun e => ((e.map Entry.actions).getD []).filterMap fun a =>
    match a with
    | .shift t _ => some t
    | _ => none) ++ s.gotos.toList.filterMap id

/-- The states that can be reached, marked; the fuel bounds the steps. -/
def reachable (states : Array LrState) : Nat → List Nat → Array Bool → Array Bool
  | 0, _, marks => marks
  | _, [], marks => marks
  | fuel + 1, s :: pending, marks =>
    let new := ((states.getD s default).targets.filter fun t => !marks.getD t true).eraseDups
    reachable states fuel (new ++ pending)
      (new.foldl (fun marks t => marks.setIfInBounds t true) marks)

/-- The count of entries and targets of a state. -/
def LrState.size (s : LrState) : Nat :=
  s.entries.toList.countP Option.isSome + s.gotos.toList.countP Option.isSome

/-- Drops the states that cannot be reached.  The first two keep their places;
the others follow, the largest first. -/
def dropUnreached (states : Array LrState) : Array LrState :=
  let marks := reachable states (states.size + 2) [0, 1]
    ((Array.range states.size).map fun i => i < 2)
  let kept := (List.range states.size).filter fun i => 2 ≤ i && marks.getD i false
  let sizes := states.map LrState.size
  let order := 0 :: 1 :: kept.mergeSort fun i j => sizes.getD j 0 ≤ sizes.getD i 0
  let places := order.zipIdx.foldl (fun places (old, new) => places.setIfInBounds old new)
    (Array.replicate states.size 0)
  (order.map fun i => (states.getD i default).mapTargets fun s => places.getD s 0).toArray

end GrammarAudit.Automaton
