import GrammarAudit.Lexis.Pattern

/-!
# Automata that read tokens

The patterns of all tokens are compiled into one nondeterministic automaton with
a start for each token.  A token that need not follow immediately may have
separators before it, and the steps that read them are marked.

* `Nfa.ofLexemes` compiles the tokens.
* `Nfa.closure` is what can be reached without reading; `Nfa.transitions` what
  can be read next and where it leads, as disjoint sets of characters.
-/

namespace GrammarAudit.Lexis

/-- What a node of the automaton does. -/
inductive Step
  /-- Reads a character of the set, as part of a separator or of the token, and
  goes on. -/
  | read (set : CharSet) (next : Nat) (separator : Bool)
  /-- Goes on to two nodes. -/
  | split (left right : Nat)
  /-- The token is complete. -/
  | accept
deriving Repr, Inhabited

/-- A node, with the token it belongs to. -/
structure NfaNode where
  token : Nat
  step : Step
deriving Repr, Inhabited

/-- The nodes, the start of each token, and for each node the nodes other than
splits that it leads to without reading, in ascending order. -/
structure Nfa where
  nodes : Array NfaNode
  starts : Array Nat
  reach : Array (List Nat)

/-- A transition of a set of nodes: the characters, the nodes they lead to, and
whether what is read belongs to a separator for all of them. -/
structure Transition where
  chars : CharSet
  targets : List Nat
  separator : Bool
deriving Repr, Inhabited

/-- Compiles a pattern so that a match goes on to `next`; the start of the
pattern and the nodes. -/
def Pattern.compile (token : Nat) (separator : Bool) :
    Pattern → Nat → Array NfaNode → Nat × Array NfaNode
  | .empty, next, nodes => (next, nodes)
  | .chars set, next, nodes => (nodes.size, nodes.push ⟨token, .read set next separator⟩)
  | .seq p q, next, nodes =>
    let (middle, nodes) := q.compile token separator next nodes
    p.compile token separator middle nodes
  | .alt p q, next, nodes =>
    let (left, nodes) := p.compile token separator next nodes
    let (right, nodes) := q.compile token separator next nodes
    (nodes.size, nodes.push ⟨token, .split left right⟩)
  | .plus p, next, nodes =>
    let again := nodes.size
    let (start, nodes) := p.compile token separator again (nodes.push ⟨token, .split next next⟩)
    (start, nodes.setIfInBounds again ⟨token, .split start next⟩)

/-- Compiles a token; separators may stand before one that need not follow
immediately. -/
def Lexeme.compile (separators : Pattern) (token : Nat) (l : Lexeme) (nodes : Array NfaNode) :
    Nat × Array NfaNode :=
  let (start, nodes) := l.pattern.compile token false nodes.size (nodes.push ⟨token, .accept⟩)
  if l.immediate then (start, nodes) else separators.star.compile token true start nodes

/-- A list of numbers in ascending order, each once. -/
def ascendingOnce (ns : List Nat) : List Nat :=
  (ns.mergeSort (· ≤ ·)).foldr
    (fun n rest => if rest.head? == some n then rest else n :: rest) []

/-- Puts a number into an ascending list, unless it is there. -/
def insertNumber (n : Nat) : List Nat → List Nat
  | [] => [n]
  | head :: rest =>
    if n < head then n :: head :: rest
    else if n = head then head :: rest
    else head :: insertNumber n rest

/-- The nodes that `pending` leads to without reading, splits among them, added
to those in `seen`; the fuel bounds the number of nodes looked at. -/
def reachFrom (nodes : Array NfaNode) : Nat → List Nat → List Nat → List Nat
  | 0, _, seen => seen
  | _, [], seen => seen
  | fuel + 1, n :: pending, seen =>
    if n ∈ seen then reachFrom nodes fuel pending seen
    else
      match (nodes[n]?.map NfaNode.step).getD .accept with
      | .split left right => reachFrom nodes fuel (left :: right :: pending) (n :: seen)
      | _ => reachFrom nodes fuel pending (n :: seen)

namespace Nfa

/-- The node of a number. -/
def node (a : Nfa) (n : Nat) : NfaNode := a.nodes.getD n default

/-- The node is a split. -/
def isSplit (nodes : Array NfaNode) (n : Nat) : Bool :=
  match (nodes.getD n default).step with
  | .split _ _ => true
  | _ => false

/-- The automaton of some tokens. -/
def ofLexemes (separators : Pattern) (lexemes : List Lexeme) : Nfa :=
  let compileOne := fun ((nodes, starts) : Array NfaNode × Array Nat) ((lexeme, token) : Lexeme × Nat) =>
    let (start, nodes) := lexeme.compile separators token nodes
    (nodes, starts.push start)
  let (nodes, starts) := lexemes.zipIdx.foldl compileOne (#[], #[])
  let reach := (Array.range nodes.size).map fun n =>
    ascendingOnce ((reachFrom nodes (3 * nodes.size + 1) [n] []).filter
      fun m => !isSplit nodes m)
  { nodes, starts, reach }

/-- The start of a token. -/
def start (a : Nfa) (token : Nat) : Nat := a.starts.getD token 0

/-- What some nodes lead to without reading: nodes other than splits,
ascending. -/
def closure (a : Nfa) (ns : List Nat) : List Nat :=
  ascendingOnce (ns.flatMap fun n => a.reach.getD n [])

/-- The tokens that some nodes belong to, in order. -/
def tokensOf (a : Nfa) (ns : List Nat) : List Nat :=
  ascendingOnce (ns.map fun n => (a.node n).token)

/-- The tokens that are complete at some nodes, in order. -/
def completed (a : Nfa) (ns : List Nat) : List Nat :=
  ns.filterMap fun n =>
    match (a.node n).step with
    | .accept => some (a.node n).token
    | _ => none

/-- Some of the nodes reads a separator. -/
def readsSeparator (a : Nfa) (ns : List Nat) : Bool :=
  ns.any fun n =>
    match (a.node n).step with
    | .read _ _ separator => separator
    | _ => false

/-- Adds a step to disjoint transitions: characters that are there already lead
to its target too. -/
def addStep (target : Nat) (separator : Bool) : List Transition → CharSet → List Transition
  | [], chars => if chars.isEmpty then [] else [⟨chars, [target], separator⟩]
  | t :: rest, chars =>
    let both := t.chars.inter chars
    if both.isEmpty then t :: addStep target separator rest chars
    else
      let joined : Transition := ⟨both, insertNumber target t.targets, t.separator && separator⟩
      let left := t.chars.diff chars
      let others := addStep target separator rest (chars.diff both)
      if left.isEmpty then joined :: others else joined :: { t with chars := left } :: others

/-- What some nodes can read next, as transitions with disjoint characters. -/
def transitions (a : Nfa) (ns : List Nat) : List Transition :=
  let extend := fun (ts : List Transition) (n : Nat) =>
    match (a.node n).step with
    | .read set next separator => addStep next separator ts set
    | _ => ts
  ns.foldl extend []

/-- The characters that a token, or a separator before it, can start with. -/
def firstChars (a : Nfa) (token : Nat) : CharSet :=
  let extend := fun (set : CharSet) (n : Nat) =>
    match (a.node n).step with
    | .read chars _ _ => set ∪ chars
    | _ => set
  (a.closure [a.start token]).foldl extend .empty

end Nfa

end GrammarAudit.Lexis
