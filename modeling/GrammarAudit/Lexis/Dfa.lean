import GrammarAudit.Lexis.Overlap
import Std.Data.HashMap

/-!
# Automata without choice

The automaton that a lexer runs: from each state a character leads to one other
state at most.  A start state stands for a set of tokens that are expected
together.

* `Dfa.ofStarts` makes the automaton of some sets of tokens.
* `Dfa.next` is one step of a run.
-/

namespace GrammarAudit.Lexis

/-- What is complete in a state. -/
inductive Completed
  | token (place : Nat)
  | endOfText
deriving DecidableEq, Repr, Inhabited

/-- Characters with the state they lead to; skipped characters stand before the
token. -/
structure DfaTransition where
  chars : CharSet
  target : Nat
  skip : Bool
deriving DecidableEq, Repr, Inhabited

/-- A state: what is complete in it, the state that the end of the text leads
to, and the transitions. -/
structure DfaState where
  completed : Option Completed
  atEnd : Option Nat
  transitions : List DfaTransition
deriving Repr, Inhabited

/-- An automaton without choice. -/
structure Dfa where
  states : Array DfaState
deriving Inhabited

namespace Dfa

/-- The transition that a character takes.  The character zero takes none. -/
def next (a : Dfa) (state code : Nat) : Option DfaTransition :=
  if code = 0 then none
  else (a.states.getD state default).transitions.find? (·.chars.contains code)

/-- Joins transitions to one state. -/
def joinTransition (t : DfaTransition) : List DfaTransition → List DfaTransition
  | [] => [t]
  | u :: rest =>
    if u.target = t.target && u.skip == t.skip then { u with chars := u.chars ∪ t.chars } :: rest
    else u :: joinTransition t rest

/-- The states found so far, as sets of nodes and whether the text may end
there. -/
structure Found where
  numbers : Std.HashMap (List Nat × Bool) Nat
  sets : Array (List Nat × Bool)

/-- The number of the state of some nodes. -/
def Found.add (f : Found) (a : Nfa) (nodes : List Nat) (mayEnd : Bool) : Nat × Found :=
  let key := (a.closure nodes, mayEnd)
  match f.numbers[key]? with
  | some i => (i, f)
  | none => (f.sets.size, ⟨f.numbers.insert key f.sets.size, f.sets.push key⟩)

/-- The token that is preferred among those completed at some nodes. -/
def preferred? (x : Lexicon) : List Nat → Option Nat
  | [] => none
  | i :: rest =>
    match preferred? x rest with
    | none => some i
    | some j => some (if i = j || x.prefers i j then i else j)

/-- The state of some nodes, with the states that it leads to added. -/
def build (x : Lexicon) (f : Found) (nodes : List Nat) (mayEnd : Bool) : DfaState × Found :=
  let token? := preferred? x (x.nfa.completed nodes)
  let within := x.nfa.readsSeparator nodes
  let completed :=
    match token? with
    | some i => some (.token i)
    | none => if nodes.isEmpty then some .endOfText else none
  let (atEnd, f) :=
    if mayEnd then
      let (i, f) := f.add x.nfa [] false
      (some i, f)
    else (none, f)
  let taken := (x.nfa.transitions nodes).filter fun t =>
    match token? with
    | some i => x.prefersReading t i within
    | none => true
  let (transitions, f) := taken.foldl
    (fun ((done, f) : List DfaTransition × Found) t =>
      let (i, f) := f.add x.nfa t.targets (mayEnd && t.separator)
      (joinTransition ⟨t.chars, i, t.separator⟩ done, f))
    ([], f)
  (⟨completed, atEnd, transitions⟩, f)

/-- The most states that are built. -/
def stateLimit : Nat := 20000

/-- The automaton of some sets of tokens, each with whether the text may end
instead, and the start state of each set. -/
def ofStarts (x : Lexicon) (starts : List (List Nat × Bool)) : Dfa × Array Nat := Id.run do
  let mut found : Found := ⟨∅, #[]⟩
  let mut firsts : Array Nat := #[]
  for (tokens, mayEnd) in starts do
    let (i, more) := found.add x.nfa (tokens.map x.nfa.start) mayEnd
    found := more
    firsts := firsts.push i
  let mut states : Array DfaState := #[]
  for number in [0:stateLimit] do
    if number ≥ found.sets.size then break
    let (nodes, mayEnd) := found.sets.getD number default
    let (state, more) := build x found nodes mayEnd
    found := more
    states := states.push state
  return (⟨states⟩, firsts)

end Dfa

end GrammarAudit.Lexis
