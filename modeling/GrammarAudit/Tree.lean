/-!
# Syntax trees

The tree a parser makes of a text, in the view that users see: hidden nodes are
left out and their visible children stand in their place.

* `Tree.labels` lists the nodes in depth-first preorder.
* `Tree.firstFault?` finds the first error or missing node and looks only below
  nodes that say they hold an error.
-/

namespace GrammarAudit

/-- A place in a text: the row and the column in bytes, both counted from
zero. -/
structure Point where
  row : Nat
  column : Nat
deriving DecidableEq, Repr, Inhabited

/-- What a node of a tree says about itself. -/
structure Label where
  /-- The kind of the node. -/
  kind : String
  /-- Named nodes stand for rules, the others for the tokens a grammar spells
  out. -/
  named : Bool
  /-- The node holds text that fits no rule. -/
  isError : Bool
  /-- The node stands for a token that is not there. -/
  isMissing : Bool
  /-- The node is, or holds, something wrong. -/
  hasError : Bool
  start : Point
  stop : Point
deriving DecidableEq, Repr, Inhabited

/-- A syntax tree. -/
inductive Tree
  | node (label : Label) (children : List Tree)

namespace Tree

/-- What the root says about itself. -/
def label : Tree → Label
  | node l _ => l

/-- The trees right below the root. -/
def children : Tree → List Tree
  | node _ ts => ts

/-- The kind of the root. -/
def kind (t : Tree) : String := t.label.kind

/-- The named trees right below the root. -/
def namedChildren (t : Tree) : List Tree := t.children.filter (·.label.named)

mutual

/-- The labels of all nodes, a node before what is below it and the children in
order. -/
def labels : Tree → List Label
  | node l ts => l :: labelsOfAll ts

/-- The labels of the nodes of several trees, one tree after the other. -/
def labelsOfAll : List Tree → List Label
  | [] => []
  | t :: ts => labels t ++ labelsOfAll ts

end

mutual

/-- The place of the first error or missing node.  A child that says it holds no
error is passed over; one that holds an error only in hidden nodes yields
nothing, and its later siblings are searched on. -/
def firstFault? : Tree → Option Point
  | node l ts => if l.isError || l.isMissing then some l.start else firstFaultOfAll? ts

/-- The place of the first error or missing node in several trees, of those that
hold an error. -/
def firstFaultOfAll? : List Tree → Option Point
  | [] => none
  | t :: ts =>
    match if t.label.hasError then firstFault? t else none with
    | some place => some place
    | none => firstFaultOfAll? ts

end

end Tree

instance : Inhabited Tree := ⟨.node default []⟩

end GrammarAudit
