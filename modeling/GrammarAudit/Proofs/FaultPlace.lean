import Mathlib.Data.List.Chain
import GrammarAudit.Proofs.Loading

/-!
# The place of a syntax error

A search for the first thing wrong in a tree looks only below nodes that say
they hold an error, and it stops at the first error node it meets.  Where the
nodes tell the truth, nothing is lost by that: a node that is passed over has
nothing wrong below it, and what lies below an error node comes after it.  So the
search agrees with one through all nodes in preorder.  Where the spans of the
nodes are nested, preorder is also the order of the places in the text.

* `Tree.Truthful`, `Tree.Nested`: what is asked of the nodes and of their spans.
* `Tree.firstFault?_eq_find`: the search is one through all nodes.
* `Tree.Nested.pairwise_start`: in preorder the places only move on.
* `Handle.parseSample_tells_first_fault`: the place that is told of a text.
-/

namespace GrammarAudit

/-- Places in the order of the text: rows first, then columns. -/
instance : LE Point := ⟨fun p q => p.row < q.row ∨ p.row = q.row ∧ p.column ≤ q.column⟩

namespace Point

theorem le_iff (p q : Point) : p ≤ q ↔ p.row < q.row ∨ p.row = q.row ∧ p.column ≤ q.column :=
  Iff.rfl

instance (p q : Point) : Decidable (p ≤ q) := inferInstanceAs (Decidable (_ ∨ _))

theorem le_refl (p : Point) : p ≤ p := by
  rw [le_iff]
  omega

theorem le_trans {p q r : Point} (hpq : p ≤ q) (hqr : q ≤ r) : p ≤ r := by
  rw [le_iff] at hpq hqr ⊢
  omega

end Point

/-- The node shows that something is wrong: it holds text that fits no rule, or
it stands for a token that is not there. -/
def Label.isFault (l : Label) : Bool := l.isError || l.isMissing

namespace Tree

/-- The nodes tell the truth: one that shows that something is wrong, or has such
a node below it, says that it holds an error, unless it lies below an error
node. -/
inductive Truthful : Tree → Prop
  | node {l : Label} {ts : List Tree}
      (own : (∃ m ∈ (Tree.node l ts).labels, m.isFault = true) → l.hasError = true)
      (below : l.isError = false → ∀ t ∈ ts, Truthful t) : Truthful (.node l ts)

/-- The spans are nested: that of a child lies within that of its parent and ends
before the next child starts, or just there. -/
inductive Nested : Tree → Prop
  | node {l : Label} {ts : List Tree}
      (forward : ∀ t ∈ ts, t.label.start ≤ t.label.stop)
      (within : ∀ t ∈ ts, l.start ≤ t.label.start ∧ t.label.stop ≤ l.stop)
      (inOrder : ts.IsChain fun s t => s.label.stop ≤ t.label.start)
      (below : ∀ t ∈ ts, Nested t) : Nested (.node l ts)

@[simp] theorem labels_node (l : Label) (ts : List Tree) :
    (node l ts).labels = l :: labelsOfAll ts := rfl

@[simp] theorem labelsOfAll_nil : labelsOfAll [] = [] := rfl

@[simp] theorem labelsOfAll_cons (t : Tree) (ts : List Tree) :
    labelsOfAll (t :: ts) = t.labels ++ labelsOfAll ts := rfl

theorem labelsOfAll_eq_flatMap (ts : List Tree) : labelsOfAll ts = ts.flatMap labels := by
  induction ts with
  | nil => rfl
  | cons t rest ih => rw [labelsOfAll_cons, ih, List.flatMap_cons]

/-- The nodes of several trees are those of each of them. -/
theorem mem_labelsOfAll {ts : List Tree} {m : Label} :
    m ∈ labelsOfAll ts ↔ ∃ t ∈ ts, m ∈ t.labels := by
  rw [labelsOfAll_eq_flatMap, List.mem_flatMap]

/-- The root is one of the nodes. -/
theorem label_mem_labels (t : Tree) : t.label ∈ t.labels := by
  cases t with
  | node l ts => exact List.mem_cons_self

/-- What a truthful root says of the whole tree. -/
theorem Truthful.hasError {t : Tree} (h : t.Truthful) {m : Label} (hm : m ∈ t.labels)
    (hfault : m.isFault = true) : t.label.hasError = true := by
  cases h with
  | node own _ => exact own ⟨m, hm, hfault⟩

section Search

/-- The place of the first node in a list that shows that something is wrong. -/
def firstPlace? (ms : List Label) : Option Point := (ms.find? Label.isFault).map Label.start

theorem firstPlace?_append (ms ns : List Label) :
    firstPlace? (ms ++ ns) = (firstPlace? ms).or (firstPlace? ns) := by
  unfold firstPlace?
  rw [List.find?_append]
  cases ms.find? Label.isFault with
  | none => rfl
  | some m => rfl

theorem firstPlace?_eq_none {ms : List Label} (h : ∀ m ∈ ms, m.isFault = false) :
    firstPlace? ms = none := by
  have hnone : ms.find? Label.isFault = none := by
    rw [List.find?_eq_none]
    intro m hm
    simp [h m hm]
  rw [firstPlace?, hnone]
  rfl

/-- A search through several trees is one through the first of them, if that says
it holds an error, and then through the others. -/
theorem firstFaultOfAll?_cons (t : Tree) (ts : List Tree) :
    firstFaultOfAll? (t :: ts)
      = (if t.label.hasError then t.firstFault? else none).or (firstFaultOfAll? ts) := by
  rw [firstFaultOfAll?]
  cases (if t.label.hasError then t.firstFault? else none) with
  | none => rfl
  | some place => rfl

/-- A search through several truthful trees that is right on each of them is right
on all.  A tree that is passed over has nothing wrong in it. -/
theorem firstFaultOfAll?_eq_find {ts : List Tree} (htruthful : ∀ t ∈ ts, t.Truthful)
    (hsearch : ∀ t ∈ ts, t.firstFault? = firstPlace? t.labels) :
    firstFaultOfAll? ts = firstPlace? (labelsOfAll ts) := by
  induction ts with
  | nil => rfl
  | cons t rest ih =>
      rw [List.forall_mem_cons] at htruthful hsearch
      have hrest := ih htruthful.2 hsearch.2
      rw [firstFaultOfAll?_cons, hrest, labelsOfAll_cons, firstPlace?_append]
      cases herror : t.label.hasError with
      | true => rw [if_pos rfl, hsearch.1]
      | false =>
          have hclean : ∀ m ∈ t.labels, m.isFault = false := by
            intro m hm
            by_contra hfault
            have := htruthful.1.hasError hm (by simpa using hfault)
            simp [herror] at this
          rw [firstPlace?_eq_none hclean]
          rfl

/-- **The search is one through all nodes.**  In a truthful tree it finds the
first node in preorder that shows that something is wrong.  The induction is on
the tree; below an error node nothing is searched, and nothing is asked. -/
theorem firstFault?_eq_find {t : Tree} (h : t.Truthful) :
    t.firstFault? = firstPlace? t.labels := by
  induction h with
  | @node l ts own below ih =>
      rw [firstFault?, labels_node]
      cases hfault : l.isFault with
      | true =>
          have hroot : (l.isError || l.isMissing) = true := hfault
          rw [if_pos hroot, firstPlace?, List.find?_cons_of_pos hfault]
          rfl
      | false =>
          have hroot : (l.isError || l.isMissing) = false := hfault
          have herror : l.isError = false := (Bool.or_eq_false_iff.mp hroot).1
          have hbelow := firstFaultOfAll?_eq_find (below herror) (ih herror)
          rw [if_neg (by simp [hroot]), hbelow, firstPlace?, firstPlace?,
            List.find?_cons_of_neg (by simp [hfault])]

mutual

/-- Where no node shows that something is wrong nothing is found, whatever the
nodes say of themselves. -/
theorem firstFault?_eq_none (t : Tree) (h : ∀ m ∈ t.labels, m.isFault = false) :
    t.firstFault? = none := by
  cases t with
  | node l ts =>
      rw [labels_node, List.forall_mem_cons] at h
      have hroot : (l.isError || l.isMissing) = false := h.1
      rw [firstFault?, if_neg (by simp [hroot])]
      exact firstFaultOfAll?_eq_none ts h.2

/-- Nor is anything found in several such trees. -/
theorem firstFaultOfAll?_eq_none (ts : List Tree)
    (h : ∀ m ∈ labelsOfAll ts, m.isFault = false) : firstFaultOfAll? ts = none := by
  cases ts with
  | nil => rfl
  | cons t rest =>
      rw [labelsOfAll_cons, List.forall_mem_append] at h
      rw [firstFaultOfAll?_cons, firstFault?_eq_none t h.1, firstFaultOfAll?_eq_none rest h.2]
      simp

end

/-- **Searching on.**  A tree in which no visible node shows what is wrong makes
no difference, even if it says that it holds an error: its later siblings are
searched as if it were not there. -/
theorem firstFaultOfAll?_skip {child : Tree} (h : ∀ m ∈ child.labels, m.isFault = false)
    (before after : List Tree) :
    firstFaultOfAll? (before ++ child :: after) = firstFaultOfAll? (before ++ after) := by
  induction before with
  | nil =>
      rw [List.nil_append, List.nil_append, firstFaultOfAll?_cons, firstFault?_eq_none child h]
      simp
  | cons t rest ih =>
      rw [List.cons_append, List.cons_append, firstFaultOfAll?_cons, firstFaultOfAll?_cons, ih]

end Search

section Spans

/-- Every node of a tree with nested spans starts within the span of the root. -/
theorem Nested.within_root {t : Tree} (h : t.Nested) (hforward : t.label.start ≤ t.label.stop) :
    ∀ m ∈ t.labels, t.label.start ≤ m.start ∧ m.start ≤ t.label.stop := by
  induction h with
  | @node l ts forward within _ _ ih =>
      intro m hm
      rcases List.mem_cons.mp hm with rfl | hm
      · exact ⟨Point.le_refl _, hforward⟩
      · obtain ⟨t, ht, hm⟩ := mem_labelsOfAll.mp hm
        obtain ⟨hstart, hstop⟩ := ih t ht (forward t ht) m hm
        obtain ⟨hleft, hright⟩ := within t ht
        exact ⟨Point.le_trans hleft hstart, Point.le_trans hstop hright⟩

/-- Trees each of which ends before the next one starts also end before all later
ones do. -/
theorem pairwise_of_inOrder {ts : List Tree} (hforward : ∀ t ∈ ts, t.label.start ≤ t.label.stop)
    (hinOrder : ts.IsChain fun s t => s.label.stop ≤ t.label.start) :
    ts.Pairwise fun s t => s.label.stop ≤ t.label.start := by
  induction ts with
  | nil => exact .nil
  | cons s rest ih =>
      rw [List.forall_mem_cons] at hforward
      have hrest := ih hforward.2 hinOrder.tail
      refine List.pairwise_cons.mpr ⟨?_, hrest⟩
      intro t ht
      cases rest with
      | nil => simp at ht
      | cons next later =>
          have hnext : s.label.stop ≤ next.label.start := hinOrder.rel
          rcases List.mem_cons.mp ht with rfl | hlater
          · exact hnext
          · have hspan := (List.forall_mem_cons.mp hforward.2).1
            have hover := (List.pairwise_cons.mp hrest).1 t hlater
            exact Point.le_trans hnext (Point.le_trans hspan hover)

/-- **Preorder is the order of the text.**  In a tree with nested spans no node
starts before one that precedes it.  The induction is on the tree: the root starts
first, and what lies in one child starts no later than the next child does. -/
theorem Nested.pairwise_start {t : Tree} (h : t.Nested) :
    t.labels.Pairwise fun m n => m.start ≤ n.start := by
  induction h with
  | @node l ts forward within inOrder below ih =>
      rw [labels_node, List.pairwise_cons]
      constructor
      · intro m hm
        obtain ⟨t, ht, hm⟩ := mem_labelsOfAll.mp hm
        have hstart := ((below t ht).within_root (forward t ht) m hm).1
        exact Point.le_trans (within t ht).1 hstart
      · rw [labelsOfAll_eq_flatMap, List.pairwise_flatMap]
        refine ⟨ih, ?_⟩
        have hpairwise := pairwise_of_inOrder forward inOrder
        refine hpairwise.imp_of_mem ?_
        intro s t hs ht hover m hm n hn
        have hleft := ((below s hs).within_root (forward s hs) m hm).2
        have hright := ((below t ht).within_root (forward t ht) n hn).1
        exact Point.le_trans hleft (Point.le_trans hover hright)

end Spans

end Tree

/-- The first of some nodes that shows that something is wrong, with what comes
before it. -/
theorem exists_first_fault {ms : List Label} (h : ∃ m ∈ ms, m.isFault = true) :
    ∃ before first after, ms = before ++ first :: after ∧ (∀ m ∈ before, m.isFault = false) ∧
      first.isFault = true ∧ Tree.firstPlace? ms = some first.start := by
  have hsome : (ms.find? Label.isFault).isSome = true := by
    rw [List.find?_isSome]
    obtain ⟨m, hm, hfault⟩ := h
    exact ⟨m, hm, hfault⟩
  obtain ⟨first, hfirst⟩ := Option.isSome_iff_exists.mp hsome
  obtain ⟨hfault, before, after, hsplit, hbefore⟩ := List.find?_eq_some_iff_append.mp hfirst
  refine ⟨before, first, after, hsplit, ?_, hfault, ?_⟩
  · intro m hm
    simpa using hbefore m hm
  · rw [Tree.firstPlace?, hfirst]
    rfl

section Parse

variable {h : Handle} {text : String} {tree : Tree} (hread : h.language.isReadable = true)
  (hparse : h.language.parse text = some tree) (hkind : tree.kind = "stylesheet")
  (herror : tree.label.hasError = true)

include hread hparse hkind herror

/-- A text whose tree is a stylesheet with an error fails, and told is the place
that the search of the tree finds. -/
theorem Handle.parseSample_of_hasError :
    (h.parseSample text).result
      = .error (.parse h.name (ParseFault.syntaxError tree.firstFault?).message) :=
  (h.parseSample_eq_parse_iff hread text _).mpr ⟨_, .syntaxError hparse hkind herror, rfl⟩

/-- **The place of a syntax error.**  Of a stylesheet with an error, whose nodes
tell the truth and have nested spans, the place told is where the first node in
preorder starts that shows that something is wrong, and no such node starts
before it; if there is none, no place is told.  The search agrees with one
through all nodes, and a child in which only hidden nodes are wrong does not keep
it from the later ones. -/
theorem Handle.parseSample_tells_first_fault (htruthful : tree.Truthful) (hnested : tree.Nested) :
    ((∃ m ∈ tree.labels, m.isFault = true) →
      ∃ before first after, tree.labels = before ++ first :: after ∧
        (∀ m ∈ before, m.isFault = false) ∧ first.isFault = true ∧
        (∀ m ∈ tree.labels, m.isFault = true → first.start ≤ m.start) ∧
        (h.parseSample text).result = .error (.parse h.name
          ("syntax error at " ++ toString (first.start.row + 1) ++ ":"
            ++ toString (first.start.column + 1)))) ∧
    ((∀ m ∈ tree.labels, m.isFault = false) →
      (h.parseSample text).result = .error (.parse h.name "syntax error")) ∧
    tree.firstFault? = (tree.labels.find? Label.isFault).map Label.start ∧
    ∀ child : Tree, (∀ m ∈ child.labels, m.isFault = false) → ∀ before after,
      Tree.firstFaultOfAll? (before ++ child :: after)
        = Tree.firstFaultOfAll? (before ++ after) := by
  have hsearch := Tree.firstFault?_eq_find htruthful
  have hresult := Handle.parseSample_of_hasError hread hparse hkind herror
  refine ⟨?_, ?_, hsearch, fun child => Tree.firstFaultOfAll?_skip⟩
  · intro hsome
    obtain ⟨before, first, after, hsplit, hbefore, hfault, hplace⟩ := exists_first_fault hsome
    refine ⟨before, first, after, hsplit, hbefore, hfault, ?_, ?_⟩
    · intro m hm hwrong
      have hordered := hnested.pairwise_start
      rw [hsplit] at hordered hm
      rcases List.mem_append.mp hm with hm | hm
      · simp [hbefore m hm] at hwrong
      · rcases List.mem_cons.mp hm with rfl | hm
        · exact Point.le_refl _
        · have hlater := (List.pairwise_append.mp hordered).2.1
          exact (List.pairwise_cons.mp hlater).1 m hm
    · rw [hresult, hsearch, hplace]
      rfl
  · intro hnone
    rw [hresult, Tree.firstFault?_eq_none tree hnone]
    rfl

end Parse

/-- A tree whose first child is wrong in hidden nodes only and whose second is an
error node around another one that does not say that it holds an error; at the
end a token is missing.  The place told is that of the second child. -/
theorem Handle.place_after_hidden_error :
    let label (kind : String) (isError isMissing hasError : Bool) (start stop : Point) : Label :=
      ⟨kind, true, isError, isMissing, hasError, start, stop⟩
    let rule : Tree := .node (label "rule_set" false false true ⟨0, 0⟩ ⟨0, 5⟩)
      [.node (label "block" false false false ⟨0, 2⟩ ⟨0, 5⟩) []]
    let wrong : Tree := .node (label "ERROR" true false true ⟨1, 3⟩ ⟨1, 8⟩)
      [.node (label "ERROR" true false false ⟨1, 4⟩ ⟨1, 6⟩) []]
    let missing : Tree := .node (label ";" false true true ⟨2, 0⟩ ⟨2, 0⟩) []
    let tree : Tree := .node (label "stylesheet" false false true ⟨0, 0⟩ ⟨2, 0⟩)
      [rule, wrong, missing]
    let h : Handle := ⟨⟨14, [], fun _ => some tree⟩, "scss", "SCSS", .builtin "scss"⟩
    tree.Truthful ∧ tree.Nested ∧
      (h.parseSample "").result = .error (.parse "scss" "syntax error at 2:4") := by
  intro label rule wrong missing tree h
  have hrule : rule.Truthful := .node (fun _ => rfl) fun _ => by
    simp only [List.forall_mem_singleton]
    exact .node (by simp [label, Label.isFault]) (by simp)
  have hwrong : wrong.Truthful := .node (fun _ => rfl) (by simp [label])
  have hmissing : missing.Truthful := .node (fun _ => rfl) (by simp)
  have htruthful : tree.Truthful := .node (fun _ => rfl) fun _ => by
    simp only [List.forall_mem_cons]
    exact ⟨hrule, hwrong, hmissing, by simp⟩
  have hlone : ∀ l : Label, (Tree.node l []).Nested := fun l =>
    .node (by simp) (by simp) .nil (by simp)
  have hnested : tree.Nested := by
    refine .node ?_ ?_ ?_ ?_
    · simp only [List.forall_mem_cons]
      exact ⟨by decide, by decide, by decide, by simp⟩
    · simp only [List.forall_mem_cons]
      exact ⟨by decide, by decide, by decide, by simp⟩
    · simp only [List.isChain_cons_cons]
      exact ⟨by decide, by decide, .singleton _⟩
    · simp only [List.forall_mem_cons]
      refine ⟨?_, ?_, hlone _, by simp⟩
      · exact .node (by simp only [List.forall_mem_singleton]; decide)
          (by simp only [List.forall_mem_singleton]; decide) (.singleton _) (by simp [hlone])
      · exact .node (by simp only [List.forall_mem_singleton]; decide)
          (by simp only [List.forall_mem_singleton]; decide) (.singleton _) (by simp [hlone])
  refine ⟨htruthful, hnested, ?_⟩
  have hparse : h.language.parse "" = some tree := rfl
  obtain ⟨hplace, -⟩ := parseSample_tells_first_fault rfl hparse rfl rfl htruthful hnested
  obtain ⟨before, first, after, hsplit, hbefore, hfault, -, hresult⟩ :=
    hplace ⟨wrong.label, by simp [tree, Tree.label_mem_labels], rfl⟩
  have hfirst : tree.labels.find? Label.isFault = some first :=
    List.find?_eq_some_iff_append.mpr ⟨hfault, before, after, hsplit, by simpa using hbefore⟩
  obtain rfl : wrong.label = first := Option.some.inj hfirst
  have hwords : "syntax error at " ++ toString (1 + 1) ++ ":" ++ toString (3 + 1)
      = "syntax error at 2:4" := by decide
  rw [← hwords]
  exact hresult

end GrammarAudit
