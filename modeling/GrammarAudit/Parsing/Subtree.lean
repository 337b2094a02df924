import GrammarAudit.Automaton.Table
import GrammarAudit.Parsing.Extent

/-!
# Trees under construction

The trees that the parser builds hold every node, hidden ones too.  Each node
carries what the parser compares trees by: what the errors in it cost, the score
of its productions, and how many visible nodes it has.

* `Subtree.make` makes a node from its children.
* `Subtree.prefers` chooses between two trees for one stretch of text.
* `Subtree.view` is the tree that users see.
-/

namespace GrammarAudit.Parsing

open Automaton

/-- What a node stands for: a symbol of the table, text that fits nowhere, or
some such texts put together. -/
inductive Symbol
  | kind (number : Nat)
  | error
  | errors
deriving DecidableEq, Repr, Inhabited

namespace Symbol

/-- The end of the text. -/
def endOfText : Symbol := .kind 0

/-- The node holds text that fits nowhere. -/
def isFault : Symbol → Bool
  | .kind _ => false
  | _ => true

/-- The number that symbols are ordered by; errors come after all kinds. -/
def order : Symbol → Nat
  | .kind n => n
  | .errors => 65534
  | .error => 65535

/-- How a symbol shows. -/
def info (table : ParseTable) : Symbol → NodeKind
  | .kind n => table.kinds.getD n ⟨"", false, false, false⟩
  | .error => ⟨"ERROR", true, true, false⟩
  | .errors => ⟨"_ERROR", false, false, false⟩

end Symbol

/-- What is known about a node. -/
structure SubtreeData where
  symbol : Symbol
  /-- The number of the shape of its production. -/
  shape : Nat
  /-- What stands before it, and what it takes. -/
  padding : Extent
  size : Extent
  /-- It may stand anywhere. -/
  extra : Bool
  /-- It stands for a token that is not there. -/
  missing : Bool
  visible : Bool
  named : Bool
  /-- What the errors in it cost. -/
  cost : Nat
  /-- The score of its productions. -/
  score : Int
  /-- How many visible nodes are below it, and how many of them right below
  it. -/
  visibleBelow : Nat
  visibleChildren : Nat
  /-- The symbol of its first leaf. -/
  first : Symbol
  /-- The state in which it was read. -/
  state : Nat
deriving Inhabited

/-- A tree under construction. -/
inductive Subtree
  | node (data : SubtreeData) (children : List Subtree)

instance : Inhabited Subtree := ⟨.node default []⟩

/-- What is paid for an error. -/
def errorCost : Nat := 500

/-- What is paid, beside that, for a token that is not there. -/
def missingCost : Nat := 110

/-- What is paid for a visible tree that is skipped. -/
def skippedTreeCost : Nat := 100

/-- What is paid for a row that is skipped; a byte costs one. -/
def skippedRowCost : Nat := 30

namespace Subtree

/-- What is known about the root. -/
def data : Subtree → SubtreeData
  | node d _ => d

/-- The trees right below the root. -/
def children : Subtree → List Subtree
  | node _ ts => ts

/-- The symbol of the root. -/
def symbol (t : Subtree) : Symbol := t.data.symbol

/-- The root has nothing below it. -/
def isLeaf (t : Subtree) : Bool := t.children.isEmpty

/-- What the errors cost. -/
def cost (t : Subtree) : Nat := if t.data.missing then missingCost + errorCost else t.data.cost

/-- The extent with what stands before. -/
def total (t : Subtree) : Extent := t.data.padding + t.data.size

/-- The tree as one that may stand anywhere, or not. -/
def withExtra (extra : Bool) : Subtree → Subtree
  | node d ts => node { d with extra } ts

/-- The tree with a higher score. -/
def addScore (score : Int) : Subtree → Subtree
  | node d ts => node { d with score := d.score + score } ts

/-- A token. -/
def leaf (table : ParseTable) (symbol : Symbol) (padding size : Extent) (state : Nat) : Subtree :=
  let info := symbol.info table
  node
    { symbol := symbol, shape := 0, padding := padding, size := size
      extra := symbol == .endOfText, missing := false
      visible := info.visible, named := info.named, cost := 0, score := 0
      visibleBelow := 0, visibleChildren := 0, first := symbol, state := state } []

/-- A token that is not there. -/
def missingLeaf (table : ParseTable) (number : Nat) : Subtree :=
  match leaf table (.kind number) .zero .zero 0 with
  | node d ts => node { d with missing := true } ts

/-- What a skipped tree costs, its own errors apart. -/
def skipCost (t : Subtree) : Nat :=
  let d := t.data
  if d.extra || (d.symbol == .error && t.isLeaf) then 0
  else if d.visible then skippedTreeCost
  else if t.isLeaf then 0
  else skippedTreeCost * d.visibleChildren

/-- Adds a child to what is known about a node; `index` counts the children that
are no extras. -/
def addChild (aliases : Array (Option Nat)) (index : Nat) (d : SubtreeData) (t : Subtree) :
    SubtreeData :=
  let c := t.data
  let cost := d.cost + (if c.symbol == .errors then 0 else t.cost)
    + (if d.symbol.isFault then t.skipCost else 0)
  let below := d.visibleBelow + (if t.isLeaf then 0 else c.visibleBelow)
  let shown := c.visible
    || (!c.extra && c.symbol != .endOfText && (aliases.getD index none).isSome)
  { d with
    cost := cost
    score := d.score + c.score
    visibleBelow := if shown then below + 1 else below
    visibleChildren :=
      if shown then d.visibleChildren + 1
      else if t.isLeaf then d.visibleChildren
      else d.visibleChildren + c.visibleChildren }

/-- Adds children to what is known about a node. -/
def addChildren (aliases : Array (Option Nat)) : Nat → SubtreeData → List Subtree → SubtreeData
  | _, d, [] => d
  | index, d, t :: ts =>
    addChildren aliases (if t.data.extra then index else index + 1) (addChild aliases index d t) ts

/-- A node with its children. -/
def make (table : ParseTable) (symbol : Symbol) (children : List Subtree) (shape : Nat) : Subtree :=
  let info := symbol.info table
  let start : SubtreeData :=
    { symbol := symbol, shape := shape, padding := .zero, size := .zero
      extra := false, missing := false, visible := info.visible, named := info.named
      cost := 0, score := 0, visibleBelow := 0, visibleChildren := 0, first := symbol, state := 0 }
  let d := addChildren (table.aliases.getD shape #[]) 0 start children
  let d :=
    match children with
    | [] => d
    | t :: rest =>
      { d with
        padding := t.data.padding
        size := rest.foldl (fun (size : Extent) (u : Subtree) => size + u.total) t.data.size
        first := t.data.first }
  let cost :=
    if symbol.isFault then d.cost + errorCost + d.size.bytes + skippedRowCost * d.size.rows
    else d.cost
  node { d with cost } children

/-- How many visible nodes the tree has; texts put together that fit nowhere
count too. -/
def nodeCount (t : Subtree) : Nat :=
  let d := t.data
  (if t.isLeaf then 0 else d.visibleBelow) + (if d.visible then 1 else 0)
    + (if d.symbol == .errors then 1 else 0)

/-- Two trees that the parser need not tell apart. -/
def alike (a b : Subtree) : Bool :=
  a.symbol == b.symbol
    && ((0 < a.cost && 0 < b.cost)
      || (a.data.padding.bytes == b.data.padding.bytes && a.data.size.bytes == b.data.size.bytes
        && a.children.length == b.children.length && a.data.extra == b.data.extra))

mutual

/-- Compares two trees by their symbols and counts of children, a node before
what is below it. -/
def compareShape : Subtree → Subtree → Ordering
  | node d ts, node e us =>
    (compare d.symbol.order e.symbol.order).then
      ((compare ts.length us.length).then (compareShapes ts us))

/-- Compares trees one after the other. -/
def compareShapes : List Subtree → List Subtree → Ordering
  | t :: ts, u :: us => (compareShape t u).then (compareShapes ts us)
  | _, _ => .eq

end

/-- The second of two trees is better: it has cheaper errors, or else a higher
score, or else, where both have errors, comes later; or is the smaller one in
order. -/
def prefers (current other : Subtree) : Bool :=
  if other.cost < current.cost then true
  else if current.cost < other.cost then false
  else if current.data.score < other.data.score then true
  else if other.data.score < current.data.score then false
  else if 0 < current.cost then true
  else compareShape current other == .gt

/-- The extras at the end of some trees, taken off. -/
def splitTrailing (ts : List Subtree) : List Subtree × List Subtree :=
  let extras := (ts.reverse.takeWhile fun t => t.data.extra).reverse
  (ts.take (ts.length - extras.length), extras)

mutual

/-- The trees that users see of a tree that starts at a place: itself, if it is
visible or appears under an alias, or else what is below it. -/
def viewAt (table : ParseTable) (shownAs : Option Nat) (start : Extent) : Subtree → List Tree
  | node d ts =>
    let info := (shownAs.bind fun a => table.kinds[a]?).getD (d.symbol.info table)
    let below := viewChildren table (table.aliases.getD d.shape #[]) 0 true start ts
    if shownAs.isSome || d.visible then
      let cost := if d.missing then missingCost + errorCost else d.cost
      [.node
        { kind := info.name, named := info.named, isError := d.symbol == .error
          isMissing := d.missing, hasError := 0 < cost
          start := start.point, stop := (start + d.size).point } below]
    else below

/-- The trees that users see of some trees, the first of which starts at
`place`, and each other one after what stands before it. -/
def viewChildren (table : ParseTable) (aliases : Array (Option Nat)) (index : Nat) (first : Bool)
    (place : Extent) : List Subtree → List Tree
  | [] => []
  | node d ts :: rest =>
    let start := if first then place else place + d.padding
    let shownAs := if d.extra || d.symbol == .endOfText then none else aliases.getD index none
    viewAt table shownAs start (node d ts)
      ++ viewChildren table aliases (if d.extra then index else index + 1) false (start + d.size)
        rest

end

/-- The tree that users see of a whole text. -/
def view (table : ParseTable) (t : Subtree) : Option Tree :=
  (viewAt table none t.data.padding t).head?

end Subtree

end GrammarAudit.Parsing
