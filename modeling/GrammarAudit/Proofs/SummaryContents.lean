import Mathlib.Data.List.Sort
import Mathlib.Data.String.Basic
import GrammarAudit.Proofs.Loading

/-!
# What a summary says of a tree

A summary is made of the root of a tree and of the named nodes right below it: their number,
and which kinds of statements are among them.  What is deeper, and what is not named, has no
part in it.  The kinds are put into an ascending list one by one, which loses none, adds none
and keeps none twice; so only which kinds there are matters, not their order or how often.

* `pairwise_ascending`, `mem_ascending`, `length_ascending_le`: the list of the different
  texts of a list.
* `ascending_congr`: it depends on which texts there are.
* `Tree.summarize_eq_ok_iff`: the summary of a tree.
* `Tree.mem_statementKinds_iff`: the kinds in it.
* `Handle.summary_faithful`: all of this for a text that is parsed, and how the summaries of
  several texts compare.
-/

namespace GrammarAudit

/-! ## The different texts of a list, in ascending order -/

section Ascending

variable {text : String} {texts : List String}

theorem mem_insertAscending {other : String} :
    other ∈ insertAscending text texts ↔ other = text ∨ other ∈ texts := by
  induction texts with
  | nil => simp [insertAscending]
  | cons head rest ih =>
      unfold insertAscending
      by_cases hlt : text < head
      · simp [hlt]
      · by_cases heq : text = head
        · simp [heq]
        · rw [if_neg hlt, if_neg heq, List.mem_cons, List.mem_cons, ih]
          exact or_left_comm

/-- Putting a text into an ascending list keeps it ascending.  The induction is on the
list, up to the place of the text. -/
theorem pairwise_insertAscending (h : texts.Pairwise (· < ·)) :
    (insertAscending text texts).Pairwise (· < ·) := by
  induction texts with
  | nil => exact List.pairwise_singleton _ _
  | cons head rest ih =>
      obtain ⟨hhead, hrest⟩ := List.pairwise_cons.mp h
      unfold insertAscending
      by_cases hlt : text < head
      · rw [if_pos hlt]
        refine List.pairwise_cons.mpr ⟨?_, h⟩
        intro other hother
        rcases List.mem_cons.mp hother with rfl | hother
        · exact hlt
        · exact hlt.trans (hhead other hother)
      · rw [if_neg hlt]
        by_cases heq : text = head
        · rw [if_pos heq]
          exact h
        · rw [if_neg heq]
          have hgt : head < text := lt_of_le_of_ne (not_lt.mp hlt) (Ne.symm heq)
          refine List.pairwise_cons.mpr ⟨?_, ih hrest⟩
          intro other hother
          rcases mem_insertAscending.mp hother with rfl | hother
          · exact hgt
          · exact hhead other hother

theorem length_insertAscending_le :
    (insertAscending text texts).length ≤ texts.length + 1 := by
  induction texts with
  | nil => simp [insertAscending]
  | cons head rest ih =>
      unfold insertAscending
      by_cases hlt : text < head
      · simp [hlt]
      · by_cases heq : text = head
        · simp [heq]
        · simp only [if_neg hlt, if_neg heq, List.length_cons]
          omega

theorem mem_ascending : text ∈ ascending texts ↔ text ∈ texts := by
  unfold ascending
  induction texts with
  | nil => simp
  | cons head rest ih => rw [List.foldr_cons, mem_insertAscending, ih, List.mem_cons]

theorem pairwise_ascending (texts : List String) : (ascending texts).Pairwise (· < ·) := by
  unfold ascending
  induction texts with
  | nil => exact List.Pairwise.nil
  | cons head rest ih => exact pairwise_insertAscending ih

theorem length_ascending_le (texts : List String) : (ascending texts).length ≤ texts.length := by
  unfold ascending
  induction texts with
  | nil => exact Nat.le_refl 0
  | cons head rest ih =>
      rw [List.foldr_cons, List.length_cons]
      have hinsert : (insertAscending head (rest.foldr insertAscending [])).length
          ≤ (rest.foldr insertAscending []).length + 1 := length_insertAscending_le
      omega

/-- Two lists have the same different texts if each has those of the other. -/
theorem ascending_congr {others : List String} (h : ∀ text, text ∈ texts ↔ text ∈ others) :
    ascending texts = ascending others := by
  refine (pairwise_ascending texts).eq_of_mem_iff (pairwise_ascending others) ?_
  intro text
  rw [mem_ascending, mem_ascending]
  exact h text

end Ascending

/-! ## The summary of a tree -/

/-- A kind of statements has a name that ends so. -/
theorem isStatementKind_iff (kind : String) :
    isStatementKind kind = true ↔ ∃ stem, kind = stem ++ "_statement" := by
  rw [isStatementKind, List.isSuffixOf_iff_suffix]
  constructor
  · intro h
    obtain ⟨stem, hstem⟩ := h
    refine ⟨String.ofList stem, ?_⟩
    rw [← String.toList_inj, String.toList_append, String.toList_ofList]
    exact hstem.symm
  · intro h
    obtain ⟨stem, rfl⟩ := h
    rw [String.toList_append]
    exact List.suffix_append _ _

namespace Tree

/-- The kinds of the statements among the named nodes right below the root, in ascending
order and each once. -/
def statementKinds (t : Tree) : List String :=
  ascending ((t.namedChildren.map kind).filter isStatementKind)

/-- **The summary of a tree.**  Only a stylesheet without an error has one. -/
theorem summarize_eq_ok_iff (t : Tree) (s : Summary) :
    t.summarize = .ok s ↔ t.kind = "stylesheet" ∧ t.label.hasError = false ∧
      s = ⟨"stylesheet", t.children.countP (·.label.named), t.statementKinds⟩ := by
  unfold summarize rootKind statementKinds
  rw [List.countP_eq_length_filter]
  by_cases hkind : t.kind = "stylesheet"
  · cases herror : t.label.hasError with
    | true => simp [hkind]
    | false => simp [hkind, namedChildren, eq_comm]
  · simp [hkind]

/-- **The kinds in a summary.**  They are the kinds of statements that a named node right
below the root has. -/
theorem mem_statementKinds_iff (t : Tree) (kind : String) :
    kind ∈ t.statementKinds ↔ (∃ stem, kind = stem ++ "_statement") ∧
      ∃ child ∈ t.children, child.label.named = true ∧ child.kind = kind := by
  unfold statementKinds namedChildren
  rw [mem_ascending, List.mem_filter, isStatementKind_iff, List.mem_map, and_comm]
  simp [and_assoc]

/-- There are no more kinds in a summary than named nodes right below the root. -/
theorem length_statementKinds_le (t : Tree) :
    t.statementKinds.length ≤ t.children.countP (·.label.named) := by
  have hfilter := List.length_filter_le isStatementKind (t.namedChildren.map Tree.kind)
  have hascending := length_ascending_le ((t.namedChildren.map Tree.kind).filter isStatementKind)
  have hcount : (t.namedChildren.map Tree.kind).length = t.children.countP (·.label.named) := by
    rw [List.length_map, namedChildren, List.countP_eq_length_filter]
  rw [statementKinds]
  omega

/-- Two trees with the same nodes right below their roots have the same kinds in their
summaries, whatever the order of these nodes is and how often they stand there. -/
theorem statementKinds_congr {t u : Tree} (h : ∀ child, child ∈ t.children ↔ child ∈ u.children) :
    t.statementKinds = u.statementKinds := by
  refine ascending_congr fun kind => ?_
  simp only [List.mem_filter, List.mem_map, namedChildren, h]

end Tree

/-! ## The summary of a text -/

/-- The handle's language can be read, and it parses the text into the tree. -/
structure Handle.Parses (h : Handle) (text : String) (tree : Tree) : Prop where
  readable : h.language.isReadable = true
  parse : h.language.parse text = some tree

/-- A text has the summary of its tree. -/
theorem Handle.Parses.parseSample_eq_ok_iff {h : Handle} {text : String} {tree : Tree}
    (hparses : h.Parses text tree) (s : Summary) :
    (h.parseSample text).result = .ok s ↔ tree.summarize = .ok s := by
  rw [h.parseSample_eq_ok_iff hparses.readable, Language.Summarizes]
  constructor
  · intro hsummary
    obtain ⟨other, hother, hsummary⟩ := hsummary
    obtain rfl := Option.some.inj (hparses.parse.symm.trans hother)
    exact hsummary
  · intro hsummary
    exact ⟨tree, hparses.parse, hsummary⟩

/-- The words for another root. -/
theorem ParseFault.message_wrongRoot (kind : String) :
    (ParseFault.wrongRoot kind).message
      = "root node is '" ++ kind ++ "', expected 'stylesheet'" := by
  have hwords : "', expected '" ++ (rootKind ++ "'") = "', expected 'stylesheet'" := by
    decide +kernel
  show "root node is '" ++ kind ++ "', expected '" ++ rootKind ++ "'" = _
  rw [String.append_assoc, String.append_assoc, String.append_assoc, hwords, String.append_assoc]

/-- **A summary is faithful.**  A text parses cleanly exactly if the root of its tree is a
stylesheet and has no error; another root is told, whether or not the tree has errors.  The
summary counts the named nodes right below the root, and lists in ascending order which kinds
of statements are among them, so there are no more kinds than nodes.  Of two texts whose trees
have the same nodes right below the root, in any order and repeated or not, the kinds are the
same; where these nodes are those of one tree and then those of another, the numbers add up. -/
theorem Handle.summary_faithful {h : Handle} {text : String} {tree : Tree}
    (hparses : h.Parses text tree) :
    ((∃ s, (h.parseSample text).result = .ok s) ↔
      tree.kind = "stylesheet" ∧ tree.label.hasError = false) ∧
    (tree.kind ≠ "stylesheet" → (h.parseSample text).result = .error (.parse h.name
      ("root node is '" ++ tree.kind ++ "', expected 'stylesheet'"))) ∧
    ∀ s, (h.parseSample text).result = .ok s →
      s.rootKind = "stylesheet" ∧
      s.namedChildren = tree.children.countP (·.label.named) ∧
      s.statementKinds.Pairwise (· < ·) ∧
      (∀ kind, kind ∈ s.statementKinds ↔ (∃ stem, kind = stem ++ "_statement") ∧
        ∃ child ∈ tree.children, child.label.named = true ∧ child.kind = kind) ∧
      s.statementKinds.length ≤ s.namedChildren ∧
      ∀ (h' : Handle) text' tree' s', h'.Parses text' tree' →
        (h'.parseSample text').result = .ok s' →
        ((∀ child, child ∈ tree'.children ↔ child ∈ tree.children) →
          s'.statementKinds = s.statementKinds) ∧
        ∀ (both : Handle) text'' tree'' s'', both.Parses text'' tree'' →
          (both.parseSample text'').result = .ok s'' →
          tree''.children = tree.children ++ tree'.children →
          s''.namedChildren = s.namedChildren + s'.namedChildren := by
  have hsummary : ∀ {h : Handle} {text : String} {tree : Tree} {s : Summary},
      h.Parses text tree → (h.parseSample text).result = .ok s →
      s = ⟨"stylesheet", tree.children.countP (·.label.named), tree.statementKinds⟩ := by
    intro h text tree s hparses hs
    obtain ⟨-, -, heq⟩ := (tree.summarize_eq_ok_iff s).mp ((hparses.parseSample_eq_ok_iff s).mp hs)
    exact heq
  refine ⟨?_, fun hkind => ?_, fun s hs => ?_⟩
  · rw [← tree.exists_summarize_iff]
    exact exists_congr hparses.parseSample_eq_ok_iff
  · exact (h.parseSample_eq_parse_iff hparses.readable text _).mpr
      ⟨_, .wrongRoot hparses.parse hkind, by rw [ParseFault.message_wrongRoot]⟩
  · obtain rfl := hsummary hparses hs
    refine ⟨rfl, rfl, pairwise_ascending _, tree.mem_statementKinds_iff,
      tree.length_statementKinds_le, ?_⟩
    intro h' text' tree' s' hparses' hs'
    obtain rfl := hsummary hparses' hs'
    refine ⟨Tree.statementKinds_congr, ?_⟩
    intro both text'' tree'' s'' hparses'' hs'' hchildren
    obtain rfl := hsummary hparses'' hs''
    show tree''.children.countP _ = _
    rw [hchildren, List.countP_append]

/-- A stylesheet with a token and a comment among its statements, one of them twice; another
kind of statement stands only deeper. -/
theorem Handle.summary_passes_over_deeper :
    let label (kind : String) (named : Bool) : Label :=
      ⟨kind, named, false, false, false, ⟨0, 0⟩, ⟨0, 0⟩⟩
    let rule : Tree := .node (label "rule_set" true) [.node (label "if_statement" true) []]
    let use : Tree := .node (label "use_statement" true) []
    let tree : Tree := .node (label "stylesheet" true)
      [use, .node (label ";" false) [], .node (label "comment" true) [], rule, use]
    let h : Handle := ⟨⟨14, [], fun _ => some tree⟩, "scss", "SCSS", .builtin "scss"⟩
    h.Parses "" tree ∧ ∃ s, (h.parseSample "").result = .ok s ∧ s.namedChildren = 4 ∧
      "use_statement" ∈ s.statementKinds ∧ "if_statement" ∉ s.statementKinds := by
  intro label rule use tree h
  have hparses : h.Parses "" tree := ⟨rfl, rfl⟩
  obtain ⟨hclean, -, hcontent⟩ := summary_faithful hparses
  obtain ⟨s, hs⟩ := hclean.mpr ⟨rfl, rfl⟩
  obtain ⟨-, hcount, -, hkinds, -⟩ := hcontent s hs
  refine ⟨hparses, s, hs, hcount.trans rfl, ?_, ?_⟩
  · have huse : use ∈ tree.children := by simp [tree, Tree.children]
    exact (hkinds "use_statement").mpr ⟨⟨"use", by decide⟩, use, huse, rfl, rfl⟩
  · intro hmem
    obtain ⟨-, child, hchild, -, hkind⟩ := (hkinds "if_statement").mp hmem
    have hother : ∀ child ∈ tree.children, child.kind ≠ "if_statement" := by
      simp only [tree, Tree.children, List.forall_mem_cons]
      decide
    exact hother child hchild hkind

end GrammarAudit
