import GrammarAudit.Parsing.Subtree

/-!
# Stacks with several heads

The parser follows several readings of a text at once.  Their stacks share what
they have in common: a node of the stack has a link to each node that lies below
it in some reading, with the tree between the two.  Each reading is a head.

* `Stack.push` puts a tree on a head.
* `Stack.pop` takes trees off a head, which may leave several heads.
* `Stack.merge` joins two heads that agree on state and place.
-/

namespace GrammarAudit.Parsing

/-- A link to the node below, with the tree that was read between; none where
the parser gave up on the text. -/
structure Link where
  below : Nat
  tree : Option Subtree
deriving Inhabited

/-- A node of a stack: the state of the parser, the nodes below, and what the
trees below it cost and count. -/
structure StackNode where
  state : Nat
  links : List Link
  cost : Nat
  count : Nat
  score : Int
  place : Extent
deriving Inhabited

/-- A state that the parser can go back to, and how many trees above it are
given up then. -/
structure Landing where
  place : Extent
  depth : Nat
  state : Nat

/-- What a head is doing: reading on, waiting with a token that fits nowhere, or
nothing any more. -/
inductive Status
  | active
  | paused (lookahead : Subtree)
  | halted

instance : Inhabited Status := ⟨.active⟩

/-- A head: its top node, what it is doing, how many nodes there were at the
last error, and the states it can go back to. -/
structure Head where
  top : Nat
  status : Status
  countAtError : Nat
  landings : List Landing
deriving Inhabited

/-- The nodes and heads of a stack. -/
structure Stack where
  nodes : Array StackNode
  heads : Array Head
deriving Inhabited

/-- What heads are compared by. -/
structure Standing where
  cost : Nat
  countSinceError : Nat
  score : Int
  faulty : Bool
deriving Inhabited

/-- Which of two heads to go on with. -/
inductive Preference
  | takeFirst
  | preferFirst
  | neither
  | preferSecond
  | takeSecond
deriving DecidableEq, Repr

/-- The difference in cost, for each node read since the last error, from which
on a head is dropped. -/
def costLimit : Nat := 1800

/-- A head without errors goes before one with errors; otherwise the cheaper
one, and it alone if it has read enough since its last error; otherwise the one
with the higher score. -/
def Standing.compare (a b : Standing) : Preference :=
  if !a.faulty && b.faulty then
    if a.cost < b.cost then .takeFirst else .preferFirst
  else if a.faulty && !b.faulty then
    if b.cost < a.cost then .takeSecond else .preferSecond
  else if a.cost < b.cost then
    if costLimit < (b.cost - a.cost) * (1 + a.countSinceError) then .takeFirst else .preferFirst
  else if b.cost < a.cost then
    if costLimit < (a.cost - b.cost) * (1 + b.countSinceError) then .takeSecond else .preferSecond
  else if b.score < a.score then .preferFirst
  else if a.score < b.score then .preferSecond
  else .neither

/-- The state for text that fits nowhere. -/
def lostState : Nat := 0

/-- The state at the start of a text. -/
def startState : Nat := 1

namespace Status

/-- The head reads on. -/
def isActive : Status → Bool
  | .active => true
  | _ => false

/-- The head waits. -/
def isPaused : Status → Bool
  | .paused _ => true
  | _ => false

/-- The head does nothing any more. -/
def isHalted : Status → Bool
  | .halted => true
  | _ => false

end Status

namespace Stack

/-- A stack with one head, at the start of a text. -/
def initial : Stack :=
  ⟨#[⟨startState, [], 0, 0, 0, .zero⟩], #[⟨0, .active, 0, []⟩]⟩

/-- A node. -/
def node (s : Stack) (i : Nat) : StackNode := s.nodes.getD i default

/-- A head. -/
def head (s : Stack) (v : Nat) : Head := s.heads.getD v default

/-- The top node of a head. -/
def top (s : Stack) (v : Nat) : StackNode := s.node (s.head v).top

/-- The state of a head. -/
def state (s : Stack) (v : Nat) : Nat := (s.top v).state

/-- The place that a head has reached. -/
def place (s : Stack) (v : Nat) : Extent := (s.top v).place

/-- Changes a head. -/
def modifyHead (s : Stack) (v : Nat) (f : Head → Head) : Stack :=
  { s with heads := s.heads.modify v f }

/-- Changes what a head is doing. -/
def setStatus (s : Stack) (v : Nat) (status : Status) : Stack :=
  s.modifyHead v fun h => { h with status }

/-- Removes a head. -/
def remove (s : Stack) (v : Nat) : Stack := { s with heads := s.heads.eraseIdxIfInBounds v }

/-- Puts one head into the place of another, with that one's landings if it has
none. -/
def replace (s : Stack) (v old : Nat) : Stack :=
  if v = old then s
  else
    let h := s.head v
    let landings := if h.landings.isEmpty then (s.head old).landings else h.landings
    { s with heads := (s.heads.setIfInBounds old { h with landings }).eraseIdxIfInBounds v }

/-- Puts a tree on a head, or gives up on what comes next, and goes to a state.
The stack is taken apart before it is changed, so that its arrays can be changed
in place. -/
def push (s : Stack) (v : Nat) (tree : Option Subtree) (state : Nat) : Stack :=
  let h := s.head v
  let top := s.nodes.size
  let below := s.node h.top
  let bare : StackNode := { below with state := state, links := [⟨h.top, tree⟩] }
  let (new, countAtError) :=
    match tree with
    | none => (bare, below.count)
    | some t =>
      ({ bare with
          cost := below.cost + t.cost
          count := below.count + t.nodeCount
          score := below.score + t.data.score
          place := below.place + t.total }, h.countAtError)
  let ⟨nodes, heads⟩ := s
  ⟨nodes.push new, heads.setIfInBounds v { h with top, countAtError }⟩

/-- The trees of two links need not be told apart. -/
def alikeLinks (a b : Link) : Bool :=
  match a.tree, b.tree with
  | none, none => true
  | some t, some u => t.alike u
  | _, _ => false

/-- The score that a link adds up to. -/
def linkScore (nodes : Array StackNode) (l : Link) : Int :=
  (nodes.getD l.below default).score + ((l.tree.map fun t => t.data.score).getD 0)

/-- The most links of a node. -/
def linkLimit : Nat := 8

/-- Two nodes agree on state, place and cost. -/
def joinable (a b : StackNode) : Bool :=
  a.state == b.state && a.place.bytes == b.place.bytes && a.cost == b.cost

/-- Adds a link to a node.  A link like one that is there is joined with it: if
both lead to one node the tree with the higher score stays, and if they lead to
nodes that agree the links of the one are added to the other.  The fuel bounds
how deep joining goes. -/
def addLink : Nat → Array StackNode → Nat → Link → Array StackNode
  | 0, nodes, _, _ => nodes
  | fuel + 1, nodes, self, link =>
    if link.below = self then nodes
    else
      let here := nodes.getD self default
      let target := nodes.getD link.below default
      let same? := here.links.findIdx? fun l =>
        alikeLinks l link
          && (l.below == link.below || joinable (nodes.getD l.below default) target)
      match same? with
      | some i =>
        let old := here.links.getD i default
        if old.below = link.below then
          match old.tree, link.tree with
          | some t, some u =>
            if t.data.score < u.data.score then
              nodes.setIfInBounds self
                { here with links := here.links.set i link, score := linkScore nodes link }
            else nodes
          | _, _ => nodes
        else
          let nodes := target.links.foldl (fun nodes l => addLink fuel nodes old.below l) nodes
          let score := linkScore nodes link
          nodes.modify self fun n => { n with score := max n.score score }
      | none =>
        if here.links.length = linkLimit then nodes
        else
          let count := target.count + ((link.tree.map Subtree.nodeCount).getD 0)
          nodes.setIfInBounds self
            { here with
              links := here.links ++ [link]
              count := max here.count count
              score := max here.score (linkScore nodes link) }

/-- Two heads that read on agree on state, place and cost. -/
def canMerge (s : Stack) (v w : Nat) : Bool :=
  (s.head v).status.isActive && (s.head w).status.isActive && joinable (s.top v) (s.top w)

/-- Joins the second head to the first, if they agree. -/
def merge? (s : Stack) (v w : Nat) : Option Stack :=
  if s.canMerge v w then
    let self := (s.head v).top
    let nodes := (s.top w).links.foldl
      (fun nodes l => addLink nodes.size nodes self l) s.nodes
    let s : Stack := { s with nodes }
    let s := if s.state v = lostState then
        let count := (s.top v).count
        s.modifyHead v fun h => { h with countAtError := count }
      else s
    some (s.remove w)
  else none

/-- What the errors of a head cost; waiting and being lost count as an error. -/
def cost (s : Stack) (v : Nat) : Nat :=
  let top := s.top v
  let lost := top.state == lostState
    && match top.links with
      | l :: _ => l.tree.isNone
      | [] => false
  if (s.head v).status.isPaused || lost then top.cost + errorCost else top.cost

/-- Takes back the count of nodes at the last error where there are fewer nodes
now. -/
def settleCount (s : Stack) (v : Nat) : Stack :=
  let count := (s.top v).count
  s.modifyHead v fun h => { h with countAtError := min h.countAtError count }

/-- How many nodes a head has read since the last error. -/
def countSinceError (s : Stack) (v : Nat) : Nat := (s.top v).count - (s.head v).countAtError

/-- What a head is compared by. -/
def standing (s : Stack) (v : Nat) : Standing :=
  let paused := (s.head v).status.isPaused
  { cost := s.cost v + if paused then skippedTreeCost else 0
    countSinceError := s.countSinceError v
    score := (s.top v).score
    faulty := paused || s.state v == lostState }

/-- A head has read some text since the last error, or has no error.  The fuel
bounds how many nodes are looked at. -/
def movedOnFrom (s : Stack) (countAtError : Nat) : Nat → StackNode → Bool
  | 0, _ => false
  | fuel + 1, n =>
    match n.links with
    | ⟨below, some t⟩ :: _ =>
      if 0 < t.total.bytes then true
      else if countAtError < n.count && t.cost = 0 then
        movedOnFrom s countAtError fuel (s.node below)
      else false
    | _ => false

/-- A head has read some text since the last error, or has no error. -/
def movedOn (s : Stack) (v : Nat) : Bool :=
  let n := s.top v
  n.cost == 0 || s.movedOnFrom (s.head v).countAtError s.nodes.size n

/-- A way down from a head: the node reached, the trees above it, and how many
of them are no extras. -/
structure Descent where
  node : Nat
  trees : List Subtree
  count : Nat

/-- The way one link further down. -/
def Descent.follow (d : Descent) (l : Link) : Descent :=
  match l.tree with
  | some t => ⟨l.below, t :: d.trees, if t.data.extra then d.count else d.count + 1⟩
  | none => ⟨l.below, d.trees, d.count + 1⟩

/-- The most ways down that are followed at once. -/
def descentLimit : Nat := 64

/-- Follows some ways down by one link each; where a node has several links the
way splits, as long as there are not too many.  `visit` looks at each way and
says whether it ends there.  Of the results, the first are the ways that went
on, the second those that were split off. -/
def descendOnce {σ : Type} (s : Stack) (visit : σ → Descent → σ × Bool) :
    List Descent → List Descent → List Descent → σ → σ × List Descent × List Descent
  | [], kept, added, a => (a, kept, added)
  | d :: rest, kept, added, a =>
    let (a, ends) := visit a d
    match ends, (s.node d.node).links with
    | false, l :: others =>
      let room := descentLimit - (kept.length + added.length + rest.length + 1)
      descendOnce s visit rest (kept ++ [d.follow l])
        (added ++ (others.take room).map d.follow) a
    | _, _ => descendOnce s visit rest kept added a

/-- Follows ways down until all have ended; the fuel bounds how deep they go. -/
def descend {σ : Type} (s : Stack) (visit : σ → Descent → σ × Bool) :
    Nat → List Descent → σ → σ
  | 0, _, a => a
  | _, [], a => a
  | fuel + 1, ds, a =>
    let (a, kept, added) := s.descendOnce visit ds [] [] a
    descend s visit fuel (kept ++ added) a

/-- Follows all ways down from a head. -/
def descendFrom {σ : Type} (s : Stack) (v : Nat) (visit : σ → Descent → σ × Bool) (a : σ) : σ :=
  s.descend visit (s.nodes.size + 1) [⟨(s.head v).top, [], 0⟩] a

/-- What popping leaves: a head, the trees taken off it, and what else may be
taken off to get there. -/
structure Popped where
  head : Nat
  trees : List Subtree
  others : List (List Subtree)

/-- Adds a way down to what popping leaves; ways to one node share a head. -/
def addPopped (v : Nat) (state : Stack × List Popped) (d : Descent) : Stack × List Popped :=
  let (s, ps) := state
  match ps.findIdx? fun p => (s.head p.head).top == d.node with
  | some i => (s, ps.modify i fun p => { p with others := p.others ++ [d.trees] })
  | none =>
    let h : Head := ⟨d.node, .active, (s.head v).countAtError, []⟩
    ({ s with heads := s.heads.push h }, ps ++ [⟨s.heads.size, d.trees, []⟩])

/-- Takes trees off a head; new heads stand for where that leads. -/
def popWhere (s : Stack) (v : Nat) (visit : Array Descent → Descent → Array Descent × Bool) :
    Stack × List Popped :=
  (s.descendFrom v visit #[]).foldl (addPopped v) (s, [])

/-- Takes a number of trees off a head, extras not counted. -/
def pop (s : Stack) (v count : Nat) : Stack × List Popped :=
  s.popWhere v fun found d => if d.count = count then (found.push d, true) else (found, false)

/-- Takes all trees off a head. -/
def popAll (s : Stack) (v : Nat) : Stack × List Popped :=
  s.popWhere v fun found d =>
    if (s.node d.node).links.isEmpty then (found.push d, true) else (found, false)

/-- Takes a tree of text that fits nowhere off a head, if there is one on
top. -/
def popError (s : Stack) (v : Nat) : Stack × Option Subtree :=
  let found := s.descendFrom v
    (fun (found : Option (Nat × Subtree)) d =>
      match d.trees with
      | [] => (found, false)
      | t :: _ =>
        (if found.isNone && t.symbol == .error then some (d.node, t) else found, true)) none
  match found with
  | some (node, t) =>
    let h : Head := ⟨node, .active, (s.head v).countAtError, []⟩
    let s : Stack := { s with heads := s.heads.push h }
    (s.replace (s.heads.size - 1) v, some t)
  | none => (s, none)

/-- How far down states to go back to are looked for. -/
def landingDepth : Nat := 16

/-- Finds the states that a head can go back to, each once for a depth. -/
def findLandings (s : Stack) (v : Nat) : List Landing :=
  let visit := fun (found : List Landing) (d : Descent) =>
    if landingDepth < d.count then (found, true)
    else
      let n := s.node d.node
      let known := (found.takeWhile fun l => d.count ≤ l.depth).any fun l =>
        l.depth == d.count && l.state == n.state
      (if known then found else ⟨n.place, d.count, n.state⟩ :: found, false)
  (s.descendFrom v visit []).reverse

end Stack

end GrammarAudit.Parsing
