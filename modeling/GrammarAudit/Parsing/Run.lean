import GrammarAudit.Parsing.Lexing
import GrammarAudit.Parsing.Stack

/-!
# Runs of the parser

A run takes one step after the other on each of its heads: it reads a token,
reduces where the table says so, and goes on in the state that the token leads
to.  Where the table has nothing for a token the head waits; when all heads
wait, the best of them recovers, by going back to a state in which the token
fits or by skipping it.

* `Input.parse` parses a text.
-/

namespace GrammarAudit.Parsing

open Automaton

/-- A run: the stack, the best tree of the whole text so far, how many trees
were complete, and the token read last with the place where it was read. -/
structure Run where
  stack : Stack
  finished : Option Subtree
  accepted : Nat
  cached : Option (Nat × Subtree)

/-- The most heads that are kept from one step to the next. -/
def headLimit : Nat := 6

/-- How many heads beyond the limit a reduction may leave. -/
def headOverflow : Nat := 4

namespace Input

/-- The node that a reduction makes, with the extras after it: of several
choices of trees the one that is preferred. -/
def reduced (x : Input) (symbol shape : Nat) (p : Stack.Popped) : Subtree × List Subtree :=
  let (trees, extras) := Subtree.splitTrailing p.trees
  p.others.foldl
    (fun (best, extras) trees =>
      let (trees, others) := Subtree.splitTrailing trees
      if Subtree.prefers best (.make x.table (.kind symbol) trees 0) then
        (.make x.table (.kind symbol) trees shape, others)
      else (best, extras))
    (.make x.table (.kind symbol) trees shape, extras)

/-- Joins a head to an earlier one that agrees with it, one head apart. -/
def mergeBefore? (s : Stack) (except v : Nat) (candidates : List Nat) : Option Stack :=
  candidates.findSome? fun w => if w = except then none else s.merge? w v

/-- Reduces on one of the heads that popping left.  `removed` counts the heads
that have been removed meanwhile. -/
def reduceOn (x : Input) (v symbol : Nat) (score : Int) (shape halted : Nat)
    (state : Stack × Nat) (p : Stack.Popped) : Stack × Nat :=
  let (s, removed) := state
  let w := p.head - removed
  if headLimit + headOverflow + halted < w then (s.remove w, removed + 1)
  else
    let (tree, extras) := x.reduced symbol shape p
    let next := x.target (s.state w) (.kind symbol)
    let s := s.push w (some (tree.addScore score)) next
    let s := extras.foldl (fun s t => s.push w (some t) next) s
    match mergeBefore? s v w (List.range w) with
    | some s => (s, removed + 1)
    | none => (s, removed)

/-- Reduces on a head.  The results are new heads; the number of the first one,
if there is any. -/
def reduce (x : Input) (s : Stack) (v symbol count : Nat) (score : Int) (shape : Nat) :
    Stack × Option Nat :=
  let first := s.heads.size
  let (s, ps) := s.pop v count
  let halted := s.heads.countP fun h => h.status.isHalted
  let (s, _) := ps.foldl (x.reduceOn v symbol score shape halted) (s, 0)
  (s, if first < s.heads.size then some first else none)

/-- The tree of a whole text: the last tree that is no extra takes those around
it in. -/
def rootOf? (x : Input) (trees : List Subtree) : Option Subtree :=
  let after := (trees.reverse.takeWhile fun t => t.data.extra).reverse
  match trees.reverse.dropWhile fun t => t.data.extra with
  | [] => none
  | t :: before =>
    some (.make x.table t.symbol (before.reverse ++ t.children ++ after) t.data.shape)

/-- Notes a tree of the whole text. -/
def finish (r : Run) (root : Option Subtree) : Run :=
  let finished :=
    match r.finished, root with
    | some best, some t => if Subtree.prefers best t then some t else some best
    | some best, none => some best
    | none, root => root
  { r with finished := finished, accepted := r.accepted + 1 }

/-- Completes the text on a head, which does nothing any more afterwards. -/
def accept (x : Input) (r : Run) (v : Nat) (lookahead : Subtree) : Run :=
  let (s, ps) := (r.stack.push v (some lookahead) startState).popAll v
  let r := (ps.flatMap fun p => p.trees :: p.others).foldl (fun r ts => finish r (x.rootOf? ts)) r
  let s :=
    match ps with
    | p :: _ => s.remove p.head
    | [] => s
  { r with stack := s.setStatus v .halted }

/-- The reductions called for in a state by a token, or by any token if that is
zero, each once; and whether some token is taken. -/
def reductionsIn (x : Input) (state lookahead : Nat) : List (Nat × Nat × Int × Nat) × Bool :=
  let tokens :=
    if lookahead = 0 then List.range' 1 (x.table.tokenCount - 1) else [lookahead]
  let actions := tokens.flatMap fun t => x.actions state (.kind t)
  let add := fun (found : List (Nat × Nat × Int × Nat)) (a : Action) =>
    match a with
    | .reduce symbol count score shape =>
      if count = 0 || found.any fun f => f.1 == symbol && f.2.1 == count then found
      else found ++ [(symbol, count, score, shape)]
    | _ => found
  (actions.foldl add [], actions.any fun a =>
    match a with
    | .shift _ repetition => !repetition
    | .recover => true
    | _ => false)

/-- Does all reductions that a token calls for, or any token if that is zero, on
a head and on the heads this makes; tells whether some head takes the token, and
drops those that do not if it is a certain token.  The fuel bounds the steps. -/
def reduceAll (x : Input) (start lookahead first : Nat) :
    Nat → Nat → Nat → Bool → Stack → Stack × Bool
  | 0, _, _, takes, s => (s, takes)
  | fuel + 1, round, v, takes, s =>
    let heads := s.heads.size
    if heads ≤ v then (s, takes)
    else
      match mergeBefore? s v v (List.range' first (v - first)) with
      | some s => reduceAll x start lookahead first fuel (round + 1) v takes s
      | none =>
        let (reductions, shifts) := x.reductionsIn (s.state v) lookahead
        let (s, new?) := reductions.foldl
          (fun ((s, _) : Stack × Option Nat) (symbol, count, score, shape) =>
            x.reduce s v symbol count score shape)
          (s, none)
        let next := if v = start then heads else v + 1
        match shifts, new? with
        | true, _ => reduceAll x start lookahead first fuel (round + 1) next true s
        | false, some w =>
          if round < headLimit then
            reduceAll x start lookahead first fuel (round + 1) v takes (s.replace w v)
          else
            let s := if lookahead = 0 then s else s.remove v
            reduceAll x start lookahead first fuel (round + 1) next takes s
        | false, none =>
          let s := if lookahead = 0 then s else s.remove v
          reduceAll x start lookahead first fuel (round + 1) next takes s

/-- The most steps of doing all reductions. -/
def reduceFuel : Nat := 100000

/-- Does all reductions on a head. -/
def reduceAllFrom (x : Input) (s : Stack) (v lookahead : Nat) : Stack × Bool :=
  x.reduceAll v lookahead s.heads.size reduceFuel 0 v false s

/-- A head other than the given one, among some, is better than the given one
would be at a cost. -/
def betterAmong (v : Nat) (own : Standing) : List Nat → Stack → Stack × Bool
  | [], s => (s, false)
  | w :: rest, s =>
    if w = v || !(s.head w).status.isActive || (s.place w).bytes < (s.place v).bytes then
      betterAmong v own rest s
    else
      let s := s.settleCount w
      match own.compare (s.standing w) with
      | .takeSecond => (s, true)
      | .preferSecond => if s.canMerge w v then (s, true) else betterAmong v own rest s
      | _ => betterAmong v own rest s

/-- Something better than a head at a cost is there already. -/
def betterExists (r : Run) (v cost : Nat) : Run × Bool :=
  if (r.finished.map fun t => decide (t.cost ≤ cost)).getD false then (r, true)
  else
    let s := r.stack.settleCount v
    let own : Standing := ⟨cost, s.countSinceError v, (s.top v).score, false⟩
    let (s, found) := betterAmong v own (List.range s.heads.size) s
    ({ r with stack := s }, found)

/-- Goes back to a state on one of the heads that popping left; fails if popping
did not lead to that state. -/
def recoverOn (x : Input) (goal : Nat) (state : Stack × Bool) (p : Stack.Popped) : Stack × Bool :=
  let (s, done) := state
  if s.state p.head ≠ goal then (s.setStatus p.head .halted, done)
  else
    let (s, error?) := s.popError p.head
    let earlier := (error?.map Subtree.children).getD []
    let (trees, extras) := Subtree.splitTrailing (earlier ++ p.trees)
    let s :=
      if trees.isEmpty then s
      else s.push p.head (some ((Subtree.make x.table .error trees 0).withExtra true)) goal
    (extras.foldl (fun s t => s.push p.head (some t) goal) s, true)

/-- Goes back to a state some trees down; what is given up becomes text that
fits nowhere. -/
def recoverTo (x : Input) (s : Stack) (v depth goal : Nat) : Stack × Bool :=
  let (s, ps) := s.pop v depth
  ps.foldl (x.recoverOn goal) (s, false)

/-- Goes back to the first state in which a token fits, unless something better
is there already. -/
def recoverBack (x : Input) (v heads : Nat) (place : Extent) (since cost : Nat)
    (lookahead : Subtree) : List Landing → Run → Run × Bool
  | [], r => (r, false)
  | l :: rest, r =>
    let known := (List.range heads).any fun w =>
      r.stack.state w == l.state && (r.stack.place w).bytes == place.bytes
    if l.state = lostState || l.place.bytes = place.bytes || known then
      recoverBack x v heads place since cost lookahead rest r
    else
      let price := cost + l.depth * skippedTreeCost + (place.bytes - l.place.bytes)
        + (place.rows - l.place.rows) * skippedRowCost
      match betterExists r v price with
      | (r, true) => (r, false)
      | (r, false) =>
        if x.expects l.state lookahead.symbol then
          let (s, done) :=
            x.recoverTo r.stack v (if 0 < since then l.depth + 1 else l.depth) l.state
          let r := { r with stack := s }
          if done then (r, true)
          else recoverBack x v heads place since cost lookahead rest r
        else recoverBack x v heads place since cost lookahead rest r

/-- Skips a token that fits nowhere: it is put together with what was skipped
before it. -/
def skipToken (x : Input) (s : Stack) (v since : Nat) (lookahead : Subtree) : Stack :=
  let isExtra := (x.actions startState lookahead.symbol).getLast? == some .shiftExtra
  let lookahead := if isExtra then lookahead.withExtra true else lookahead
  let skipped := Subtree.make x.table .errors [lookahead] 0
  if since = 0 then s.push v (some skipped) lostState
  else
    let (s, ps) := s.pop v 1
    match ps with
    | [] => s.push v (some skipped) lostState
    | p :: _ =>
      let s : Stack := { s with heads := s.heads.extract 0 (p.head + 1) }
      (s.replace p.head v).push v
        (some (.make x.table .errors (p.trees ++ [skipped]) 0)) lostState

/-- Recovers on a lost head: goes back to a state in which the token fits, and
skips the token beside that. -/
def recover (x : Input) (r : Run) (v : Nat) (lookahead : Subtree) : Run :=
  let heads := r.stack.heads.size
  let place := r.stack.place v
  let landings := (r.stack.head v).landings
  let s := r.stack.settleCount v
  let since := s.countSinceError v
  let cost := s.cost v
  let r := { r with stack := s }
  let (r, back) :=
    if lookahead.symbol == .error then (r, false)
    else x.recoverBack v heads place since cost lookahead landings r
  let kept := r.stack.heads.extract 0 heads
    ++ (r.stack.heads.extract heads r.stack.heads.size).filter fun h => h.status.isActive
  let r := { r with stack := { r.stack with heads := kept } }
  if lookahead.symbol == .endOfText then
    let s := r.stack.push v (some (.make x.table .error [] 0)) startState
    x.accept { r with stack := s } v lookahead
  else if back && headLimit < r.stack.heads.size then
    { r with stack := r.stack.setStatus v .halted }
  else
    let total := lookahead.total
    match betterExists r v (cost + skippedTreeCost + total.bytes + total.rows * skippedRowCost) with
    | (r, true) => { r with stack := r.stack.setStatus v .halted }
    | (r, false) => { r with stack := x.skipToken r.stack v since lookahead }

/-- Tries to go on after a head as if some token, of those given, stood before
the next one. -/
def insertMissing (x : Input) (v state lookahead : Nat) : List Nat → Stack → Stack × Bool
  | [], s => (s, false)
  | t :: rest, s =>
    let next := x.target state (.kind t)
    if next = 0 || next = state || !x.reducesFirst next (.kind lookahead) then
      insertMissing x v state lookahead rest s
    else
      let h := s.head v
      let w := s.heads.size
      let s : Stack := { s with heads := s.heads.push { h with landings := [] } }
      match x.reduceAllFrom (s.push w (some (.missingLeaf x.table t)) next) w lookahead with
      | (s, true) => (s, true)
      | (s, false) => insertMissing x v state lookahead rest s

/-- Handles a token that fits nowhere on a head: all reductions are done, one of
the heads this makes may go on as if a token stood before, and all of them are
lost and become one, which recovers. -/
def handleError (x : Input) (r : Run) (v : Nat) (lookahead : Subtree) : Run :=
  let heads := r.stack.heads.size
  let (s, _) := x.reduceAllFrom r.stack v 0
  let more := s.heads.size
  let loseHead := fun ((s, done) : Stack × Bool) (w : Nat) =>
    let (s, done) :=
      match done, lookahead.data.first with
      | false, .kind n =>
        x.insertMissing w (s.state w) n (List.range' 1 (x.table.tokenCount - 1)) s
      | done, _ => (s, done)
    (s.push w none lostState, done)
  let (s, _) := (v :: List.range' heads (more - heads)).foldl loseHead (s, false)
  let s := (List.range (more - heads)).foldl (fun s _ => (s.merge? v heads).getD s) s
  let landings := s.findLandings v
  x.recover { r with stack := s.modifyHead v fun h => { h with landings } } v lookahead

/-- A token that was read in another state can be used in a state. -/
def canReuse (x : Input) (state : Nat) (t : Subtree) : Bool :=
  match x.entry? state t.symbol with
  | none => false
  | some e =>
    let here := x.state state
    let there := x.state t.data.state
    let isEnd := t.symbol == .endOfText
    (here.lexer == there.lexer && here.scannerTokens == there.scannerTokens
        && (!isEnd || t.data.state == state))
      || ((isEnd || t.data.size.bytes != 0) && here.scannerTokens == 0 && e.reusable)

/-- The next token on a head, the one read last if that can be used. -/
def nextToken (x : Input) (r : Run) (v : Nat) : Subtree × Run :=
  let state := r.stack.state v
  let place := r.stack.place v
  let known := r.cached.filter fun (bytes, t) => bytes == place.bytes && x.canReuse state t
  match known with
  | some (_, t) => (t, r)
  | none =>
    let t := x.readToken state (r.stack.movedOn v) place
    (t, { r with cached := some (place.bytes, t) })

/-- What a list of actions comes to on a head: the run after it, or, if there
were only reductions, the first head of the last one that left any.  The run is
taken apart before its stack is changed, so that the stack can be changed in
place. -/
def act (x : Input) (v : Nat) (lookahead : Subtree) :
    List Action → Option Nat → Bool → Run → Run ⊕ (Run × Option Nat × Bool)
  | [], new?, reduced, r => .inr (r, new?, reduced)
  | a :: rest, new?, reduced, r =>
    match a with
    | .shift _ true => act x v lookahead rest new? reduced r
    | .shift next false =>
      let ⟨stack, finished, accepted, cached⟩ := r
      .inl ⟨stack.push v (some (lookahead.withExtra false)) next, finished, accepted, cached⟩
    | .shiftExtra =>
      let state := r.stack.state v
      let ⟨stack, finished, accepted, cached⟩ := r
      .inl ⟨stack.push v (some (lookahead.withExtra true)) state, finished, accepted, cached⟩
    | .reduce symbol count score shape =>
      let ⟨stack, finished, accepted, cached⟩ := r
      let (stack, w?) := x.reduce stack v symbol count score shape
      act x v lookahead rest (w?.or new?) true ⟨stack, finished, accepted, cached⟩
    | .accept => .inl (x.accept r v lookahead)
    | .recover => .inl (x.recover r v lookahead)

/-- Does what the table says for a token on a head, until the token is taken or
fits nowhere; the fuel bounds the reductions. -/
def advanceWith (x : Input) (v : Nat) (lookahead : Subtree) : Nat → Symbol → Run → Run
  | 0, _, r => { r with stack := r.stack.setStatus v .halted }
  | fuel + 1, symbol, r =>
    let state := r.stack.state v
    match x.act v lookahead (x.actions state symbol) none false r with
    | .inl r => r
    | .inr (r, some w, _) =>
      let ⟨stack, finished, accepted, cached⟩ := r
      advanceWith x v lookahead fuel lookahead.data.first
        ⟨stack.replace w v, finished, accepted, cached⟩
    | .inr (r, none, true) => { r with stack := r.stack.setStatus v .halted }
    | .inr (r, none, false) =>
      if state = lostState && lookahead.symbol != .error then x.recover r v lookahead
      else
        let count := (r.stack.top v).count
        { r with stack := r.stack.modifyHead v fun h =>
            { h with status := .paused lookahead, countAtError := count } }

/-- The most reductions between two tokens. -/
def advanceFuel : Nat := 1000000

/-- One step on a head. -/
def advance (x : Input) (r : Run) (v : Nat) : Run :=
  let (lookahead, r) := x.nextToken r v
  x.advanceWith v lookahead advanceFuel lookahead.symbol r

/-- Compares a head with those before it, and drops or joins what is worse.
Gives the number of the head to look at next.  The fuel bounds the
comparisons. -/
def compareHead (own : Standing) : Nat → Nat → Nat → Stack → Stack × Nat
  | 0, v, _, s => (s, v + 1)
  | fuel + 1, v, w, s =>
    if v ≤ w then (s, v + 1)
    else
      let s := s.settleCount w
      let join (otherwise : Stack) : Stack × Nat :=
        match s.merge? w v with
        | some s => (s, v)
        | none => compareHead own fuel v (w + 1) otherwise
      match (s.standing w).compare own with
      | .takeFirst => (s.remove v, v)
      | .preferFirst | .neither => join s
      | .preferSecond =>
        join { s with heads := s.heads.swapIfInBounds v w }
      | .takeSecond => compareHead own fuel (v - 1) w (s.remove w)

/-- Goes through the heads, drops those that do nothing any more or are worse
than others, and finds the least cost of one without error.  The fuel bounds the
steps. -/
def condenseHeads : Nat → Nat → Option Nat → Stack → Stack × Option Nat
  | 0, _, least, s => (s, least)
  | fuel + 1, v, least, s =>
    if s.heads.size ≤ v then (s, least)
    else if (s.head v).status.isHalted then condenseHeads fuel v least (s.remove v)
    else
      let s := s.settleCount v
      let own := s.standing v
      let least :=
        if own.faulty then least
        else some (match least with
          | none => own.cost
          | some c => min c own.cost)
      let (s, next) := compareHead own (s.heads.size + 1) v 0 s
      condenseHeads fuel next least s

/-- Lets the first waiting head recover if no head before it reads on, and drops
the other waiting ones.  Gives the cost of the head that recovered. -/
def resume (x : Input) : Nat → Nat → Nat → Bool → Option Nat → Run → Run × Option Nat
  | 0, _, _, _, least, r => (r, least)
  | fuel + 1, v, heads, active, least, r =>
    if heads ≤ v then (r, least)
    else
      match (r.stack.head v).status with
      | .paused lookahead =>
        if !active && r.accepted < headLimit then
          let least := some (r.stack.cost v)
          let r := x.handleError { r with stack := r.stack.setStatus v .active } v lookahead
          resume x fuel (v + 1) heads true least r
        else
          resume x fuel v (heads - 1) active least { r with stack := r.stack.remove v }
      | _ => resume x fuel (v + 1) heads true least r

/-- Cuts the heads down to the best ones and lets one recover if all wait.  The
least cost of a head. -/
def condense (x : Input) (r : Run) : Run × Option Nat :=
  let heads := r.stack.heads.size
  let (s, least) := condenseHeads (2 * heads + 2) 0 none r.stack
  let s : Stack := { s with heads := s.heads.extract 0 headLimit }
  x.resume (s.heads.size + 1) 0 s.heads.size false least { r with stack := s }

/-- Goes on with a head while it reads, until it is further than the others
were.  The fuel bounds the steps; what is left of it, and the furthest place. -/
def drive (x : Input) (v : Nat) : Nat → Nat → Run → Nat × Nat × Run
  | 0, furthest, r => (0, furthest, r)
  | fuel + 1, furthest, r =>
    if (r.stack.head v).status.isActive then
      let r := x.advance r v
      let bytes := (r.stack.place v).bytes
      if furthest < bytes || (0 < v && bytes = furthest) then (fuel, bytes, r)
      else drive x v fuel furthest r
    else (fuel + 1, furthest, r)

/-- Goes on with each head in turn; the fuel bounds the steps, and the heads
too. -/
def driveAll (x : Input) : Nat → Nat → Nat → Nat → Run → Nat × Nat × Run
  | 0, _, fuel, furthest, r => (fuel, furthest, r)
  | rounds + 1, v, fuel, furthest, r =>
    if r.stack.heads.size ≤ v then (fuel, furthest, r)
    else
      let (fuel, furthest, r) := x.drive v fuel furthest r
      driveAll x rounds (v + 1) fuel furthest r

/-- Goes on until no head is left, or none that can become better than the best
tree.  The fuel bounds the rounds, `steps` the steps. -/
def rounds (x : Input) : Nat → Nat → Nat → Run → Option Subtree
  | 0, _, _, _ => none
  | fuel + 1, steps, furthest, r =>
    let (steps, furthest, r) := x.driveAll (steps + 1) 0 steps furthest r
    let heads := r.stack.heads.size
    let (r, least) := x.condense r
    let done :=
      match r.finished, least with
      | some t, some c => decide (t.cost < c)
      | some _, none => true
      | none, _ => false
    if done || heads = 0 then r.finished
    else if steps = 0 then none
    else rounds x fuel steps furthest r

/-- Enough steps for a text of some length. -/
def stepFuel (length : Nat) : Nat := 100000 * (length + 10)

/-- Parses a text into a tree under construction. -/
def build (x : Input) : Option Subtree :=
  x.rounds (stepFuel x.text.size) (stepFuel x.text.size) 0 ⟨.initial, none, 0, none⟩

/-- Parses a text into the tree that users see. -/
def parse (x : Input) : Option Tree := x.build.bind (Subtree.view x.table)

end Input

end GrammarAudit.Parsing
