import GrammarAudit.Path

/-!
# The parent of a path

Joining and taking the parent work on the text of a path, following works on its
pieces between separators.  This file relates the two: how the pieces of a
joined path come from those of its parts, and what the text of a parent keeps of
the text before the last separator.  A parent drops doubled separators and `.`
pieces at its end, and nothing else.

* `join_toList`, `join_cases`: the text of a joined path.
* `exists_parentText`: a path that ends in a name has a parent, and `ParentText`
  says which.
* `ParentText.ne_nil`, `ParentText.head?_eq_sep_iff`, `ParentText.mem_of_mem`:
  what the parent shares with the path.
-/

namespace GrammarAudit

namespace Path

/-- The piece stays where it is: it is empty or `.`. -/
def Stays (piece : List Char) : Prop := piece = [] ∨ piece = ['.']

/-- A text without its trailing separators and trailing `.` pieces. -/
def trimmed (cs : List Char) : List Char := (trimReversed cs.reverse).reverse

/-- The pieces of two texts with a separator between them. -/
theorem pieces_append_sep (a b : List Char) : pieces (a ++ '/' :: b) = pieces a ++ pieces b :=
  List.splitOn_append_cons_self a b

/-- A text without a separator is one piece. -/
theorem pieces_of_not_mem {a : List Char} (h : '/' ∉ a) : pieces a = [a] :=
  List.splitOn_eq_singleton h

/-- There is always a piece. -/
theorem pieces_ne_nil (a : List Char) : pieces a ≠ [] := List.splitOn_ne_nil '/' a

/-- A text that starts with a separator starts with an empty piece. -/
theorem pieces_sep_cons (a : List Char) : pieces ('/' :: a) = [] :: pieces a :=
  pieces_append_sep [] a

/-- A text that ends in a separator ends in an empty piece. -/
theorem pieces_reverse_sep (r : List Char) :
    pieces ('/' :: r).reverse = pieces r.reverse ++ [[]] := by
  rw [List.reverse_cons]
  exact pieces_append_sep r.reverse []

/-- A text that ends in a separator and a `.` ends in that piece. -/
theorem pieces_reverse_dot (r : List Char) :
    pieces ('.' :: '/' :: r).reverse = pieces r.reverse ++ [['.']] := by
  have hdot : pieces ['.'] = [['.']] := pieces_of_not_mem (by decide)
  rw [List.reverse_cons, List.reverse_cons, List.append_assoc, List.singleton_append,
    pieces_append_sep, hdot]

/-- A text is one piece, or has a last separator with the last piece after
it. -/
theorem eq_piece_or_last_sep (cs : List Char) :
    '/' ∉ cs ∨ ∃ front last, cs = front ++ '/' :: last ∧ '/' ∉ last := by
  by_cases h : '/' ∈ cs
  · right
    obtain ⟨last, front, hreverse, hlast⟩ :=
      List.eq_append_cons_of_mem (List.mem_reverse.mpr h)
    refine ⟨front.reverse, last.reverse, ?_, by simpa using hlast⟩
    have hcs : cs = (last ++ '/' :: front).reverse := by rw [← hreverse, List.reverse_reverse]
    simpa using hcs
  · exact Or.inl h

/-- An absolute path has a separator. -/
theorem mem_of_isAbsolute {p : Path} (hp : p.isAbsolute = true) : '/' ∈ p.text.toList := by
  rw [isAbsolute, beq_iff_eq] at hp
  exact List.mem_of_head? hp

/-- What is put between a text and what is joined to it: a separator, unless the
text is empty or ends in one. -/
def gap (cs : List Char) : List Char :=
  if cs = [] ∨ cs.getLast? = some '/' then [] else ['/']

/-- The text of a joined path is made of both texts and what is put between
them. -/
theorem join_toList (base : Path) {sub : Path} (hsub : sub.isRelative = true) :
    (base.join sub).text.toList
      = base.text.toList ++ gap base.text.toList ++ sub.text.toList := by
  have habsolute : sub.isAbsolute = false := by simpa [isRelative] using hsub
  unfold join gap
  rw [if_neg (by simp [habsolute])]
  split
  · next h => simp [List.getLast?_eq_none_iff.mp h]
  · next h => simp [h]
  · next c hnot h =>
      have hne : base.text.toList ≠ [] := by
        intro hnil
        simp [hnil] at h
      have hc : c ≠ '/' := by
        intro hc
        exact hnot hc
      simp [h, hne, hc]

/-- The text of a joined path: that of the second part alone, where the first is
empty; both texts, where the first ends in a separator; and otherwise both with
a separator between them. -/
theorem join_cases (base : Path) {sub : Path} (hsub : sub.isRelative = true) :
    (base.text.toList = [] ∧ (base.join sub).text.toList = sub.text.toList) ∨
    (∃ front, base.text.toList = front ++ ['/'] ∧
      (base.join sub).text.toList = front ++ '/' :: sub.text.toList) ∨
    (base.text.toList ≠ [] ∧
      (base.join sub).text.toList = base.text.toList ++ '/' :: sub.text.toList) := by
  have htext := join_toList base hsub
  by_cases hnil : base.text.toList = []
  · left
    exact ⟨hnil, by simp [htext, hnil, gap]⟩
  · right
    by_cases hlast : base.text.toList.getLast? = some '/'
    · left
      obtain ⟨front, hfront⟩ := List.getLast?_eq_some_iff.mp hlast
      exact ⟨front, hfront, by simp [htext, hfront, gap]⟩
    · right
      exact ⟨hnil, by simp [htext, hnil, hlast, gap]⟩

/-- A relative path joined to another is absolute if that is. -/
theorem isAbsolute_join (base : Path) {sub : Path} (hsub : sub.isRelative = true) :
    (base.join sub).isAbsolute = base.isAbsolute := by
  have habsolute : sub.isAbsolute = false := by simpa [isRelative] using hsub
  unfold isAbsolute at habsolute ⊢
  rcases join_cases base hsub with ⟨hbase, hjoin⟩ | ⟨front, hbase, hjoin⟩ | ⟨hbase, hjoin⟩
  · rw [hjoin, hbase, habsolute]
    rfl
  · rw [hjoin, hbase]
    cases front with
    | nil => rfl
    | cons c rest => rfl
  · obtain ⟨c, rest, hcons⟩ := List.exists_cons_of_ne_nil hbase
    rw [hjoin, hcons]
    rfl

/-- What is left after trimming is the end of a reversed text. -/
theorem trimReversed_suffix (r : List Char) : trimReversed r <:+ r := by
  fun_induction trimReversed r with
  | case1 r ih => exact ih.trans (List.suffix_cons _ _)
  | case2 => exact List.nil_suffix
  | case3 r ih => exact (ih.trans (List.suffix_cons _ _)).trans (List.suffix_cons _ _)
  | case4 r => exact List.suffix_rfl

/-- A trimmed text is a beginning of the text. -/
theorem trimmed_begins (cs : List Char) : trimmed cs <+: cs := by
  have h := trimReversed_suffix cs.reverse
  rwa [← List.reverse_prefix, List.reverse_reverse] at h

/-- Where trimming leaves nothing, every piece stays where it is. -/
theorem stays_of_trimReversed_eq_nil (r : List Char) (h : trimReversed r = []) :
    ∀ piece ∈ pieces r.reverse, Stays piece := by
  fun_induction trimReversed r with
  | case1 r ih =>
      rw [pieces_reverse_sep]
      intro piece hpiece
      rcases List.mem_append.mp hpiece with hrest | hempty
      · exact ih h piece hrest
      · exact Or.inl (List.mem_singleton.mp hempty)
  | case2 =>
      intro piece hpiece
      rw [List.reverse_singleton, pieces_of_not_mem (by decide)] at hpiece
      exact Or.inr (List.mem_singleton.mp hpiece)
  | case3 r ih =>
      rw [pieces_reverse_dot]
      intro piece hpiece
      rcases List.mem_append.mp hpiece with hrest | hdot
      · exact ih h piece hrest
      · exact Or.inr (List.mem_singleton.mp hdot)
  | case4 r =>
      subst h
      intro piece hpiece
      exact Or.inl (List.mem_singleton.mp hpiece)

/-- A text that ends in a name is not trimmed. -/
theorem trimReversed_of_name {last : List Char} (hsep : '/' ∉ last) (hname : ¬ Stays last)
    (more : List Char) : trimReversed (last.reverse ++ more) = last.reverse ++ more := by
  have hreverse : '/' ∉ last.reverse := by simpa using hsep
  have hshape : last.reverse ≠ [] ∧ last.reverse ≠ ['.'] := by
    constructor
    · intro h
      exact hname (Or.inl (by simpa using h))
    · intro h
      exact hname (Or.inr (List.reverse_eq_iff.mp h))
  cases hr : last.reverse with
  | nil => exact absurd hr hshape.1
  | cons c rest =>
      rw [hr] at hreverse hshape
      cases rest with
      | nil =>
          have hc : c ≠ '/' ∧ c ≠ '.' := by
            constructor
            · intro hc
              subst hc
              exact hreverse (by simp)
            · intro hc
              subst hc
              exact hshape.2 rfl
          simp [trimReversed, hc]
      | cons d rest =>
          have hcd : c ≠ '/' ∧ d ≠ '/' := by
            constructor
            · intro hc
              subst hc
              exact hreverse (by simp)
            · intro hc
              subst hc
              exact hreverse (by simp)
          simp [trimReversed, hcd]

/-- The parent of a path that ends in a name: what starts the path, and then the
trimmed text up to the name. -/
theorem parent?_of_name {p : Path} (middle : List Char) {last : List Char} (hsep : '/' ∉ last)
    (hname : ¬ Stays last) (hmiddle : middle = [] ∨ ∃ front, middle = front ++ ['/'])
    (hbody : p.text.toList.drop (leader p.text.toList).length = middle ++ last) :
    p.parent? = some ⟨String.ofList (leader p.text.toList ++ trimmed middle)⟩ := by
  have htrim : trimReversed (middle ++ last).reverse = last.reverse ++ middle.reverse := by
    rw [List.reverse_append, trimReversed_of_name hsep hname]
  have hrest : (last.reverse ++ middle.reverse).dropWhile (· ≠ '/') = middle.reverse := by
    have hpass : ∀ c ∈ last.reverse, decide (c ≠ '/') = true := by
      intro c hc
      rw [decide_eq_true_iff]
      intro hsame
      subst hsame
      exact hsep (List.mem_reverse.mp hc)
    rw [List.dropWhile_append_of_pos hpass]
    rcases hmiddle with rfl | ⟨front, rfl⟩
    · rfl
    · rw [List.reverse_append]
      rfl
  have hne : last.reverse ++ middle.reverse ≠ [] := by
    intro h
    exact hname (Or.inl (by simpa using (List.append_eq_nil_iff.mp h).1))
  simp only [parent?, hbody, htrim]
  rw [hrest]
  rfl

/-- A last separator is trimmed. -/
theorem trimmed_append_sep (cs : List Char) : trimmed (cs ++ ['/']) = trimmed cs := by
  rw [trimmed, List.reverse_append]
  rfl

/-- What is trimmed is empty or starts with a separator if the text does. -/
theorem trimmed_eq_nil_or_sep {cs : List Char} (hcs : cs = [] ∨ ∃ rest, cs = '/' :: rest) :
    trimmed cs = [] ∨ ∃ more, trimmed cs = '/' :: more := by
  obtain ⟨cut, hcut⟩ := trimmed_begins cs
  cases htext : trimmed cs with
  | nil => exact Or.inl rfl
  | cons c more =>
      rcases hcs with rfl | ⟨rest, rfl⟩
      · simp [htext] at hcut
      · rw [htext, List.cons_append] at hcut
        exact Or.inr ⟨more, by rw [(List.cons.inj hcut).1]⟩

/-- How the text of a parent comes from the text before the last separator of a
path: it is trimmed, but for a separator or a `.` piece that it starts with. -/
inductive ParentText : List Char → List Char → Prop
  | root : ParentText [] ['/']
  | absolute (front : List Char) : ParentText ('/' :: front) ('/' :: trimmed front)
  | dot {front : List Char} (h : front = [] ∨ ∃ rest, front = '/' :: rest) :
      ParentText ('.' :: front) ('.' :: trimmed front)
  | relative {front : List Char} (hhead : front.head? ≠ some '/')
      (hname : ∃ piece ∈ pieces front, ¬ Stays piece) : ParentText front (trimmed front)

/-- A text that starts neither with a separator nor with a `.` piece starts with
a name. -/
theorem exists_name_of_leader_eq_nil {c : Char} {rest : List Char} (hc : c ≠ '/')
    (hdot : c = '.' → ¬ (rest = [] ∨ ∃ more, rest = '/' :: more)) :
    ∃ piece ∈ pieces (c :: rest), ¬ Stays piece := by
  by_cases hsep : '/' ∈ c :: rest
  · obtain ⟨first, more, hfirst, hnotin⟩ := List.eq_append_cons_of_mem hsep
    refine ⟨first, ?_, ?_⟩
    · rw [hfirst, pieces_append_sep, pieces_of_not_mem hnotin]
      exact List.mem_cons_self
    · intro h
      rcases h with rfl | rfl
      · exact hc (List.cons.inj hfirst).1
      · obtain ⟨hhead, htail⟩ := List.cons.inj hfirst
        exact hdot hhead (Or.inr ⟨more, htail⟩)
  · refine ⟨c :: rest, by rw [pieces_of_not_mem hsep]; exact List.mem_cons_self, ?_⟩
    intro h
    rcases h with h | h
    · cases h
    · obtain ⟨hhead, htail⟩ := List.cons.inj h
      exact hdot hhead (Or.inl htail)

/-- A path without a separator that is a name has the empty path as its
parent. -/
theorem parent?_of_bare {p : Path} (hsep : '/' ∉ p.text.toList) (hname : ¬ Stays p.text.toList) :
    p.parent? = some ⟨""⟩ := by
  have hleader : leader p.text.toList = [] := by
    cases htext : p.text.toList with
    | nil => rfl
    | cons c rest =>
        rw [htext] at hsep hname
        have hc : c ≠ '/' := fun h => hsep (by simp [h])
        cases rest with
        | nil =>
            have hdot : c ≠ '.' := fun h => hname (Or.inr (by rw [h]))
            simp [leader, hc, hdot]
        | cons d rest =>
            have hd : d ≠ '/' := fun h => hsep (by simp [h])
            simp [leader, hc, hd]
  have hparent := parent?_of_name (p := p) [] hsep hname (Or.inl rfl)
    (by rw [hleader]; rfl)
  rw [hparent, hleader]
  rfl

/-- **The parent of a path.**  A path whose last piece is a name has a
parent. -/
theorem exists_parentText {p : Path} {front last : List Char}
    (hp : p.text.toList = front ++ '/' :: last) (hsep : '/' ∉ last) (hname : ¬ Stays last) :
    ∃ base, p.parent? = some base ∧ ParentText front base.text.toList := by
  have hmiddle : ∀ cs : List Char, cs ++ '/' :: last = (cs ++ ['/']) ++ last := by simp
  cases front with
  | nil =>
      have hparent := parent?_of_name (p := p) [] hsep hname (Or.inl rfl)
        (by rw [hp]; rfl)
      refine ⟨_, hparent, ?_⟩
      rw [hp, String.toList_ofList]
      exact .root
  | cons c rest =>
      by_cases hc : c = '/'
      · subst hc
        have hparent := parent?_of_name (p := p) (rest ++ ['/']) hsep hname
          (Or.inr ⟨rest, rfl⟩) (by rw [hp, ← hmiddle]; rfl)
        refine ⟨_, hparent, ?_⟩
        rw [hp, trimmed_append_sep, String.toList_ofList]
        exact .absolute rest
      · by_cases hdot : c = '.' ∧ (rest = [] ∨ ∃ more, rest = '/' :: more)
        · obtain ⟨rfl, hrest⟩ := hdot
          have hleader : leader (('.' :: rest) ++ '/' :: last) = ['.'] := by
            rcases hrest with rfl | ⟨more, rfl⟩
            · rfl
            · rfl
          have hparent := parent?_of_name (p := p) (rest ++ ['/']) hsep hname
            (Or.inr ⟨rest, rfl⟩) (by rw [hp, hleader, ← hmiddle]; rfl)
          refine ⟨_, hparent, ?_⟩
          rw [hp, hleader, trimmed_append_sep, String.toList_ofList]
          exact .dot hrest
        · have hleader : leader ((c :: rest) ++ '/' :: last) = [] := by
            cases rest with
            | nil =>
                have hcdot : c ≠ '.' := fun h => hdot ⟨h, Or.inl rfl⟩
                simp [leader, hc, hcdot]
            | cons d more =>
                by_cases hcdot : c = '.'
                · have hd : d ≠ '/' := fun h => hdot ⟨hcdot, Or.inr ⟨more, by rw [h]⟩⟩
                  simp [leader, hc, hd]
                · simp [leader, hc, hcdot]
          have hparent := parent?_of_name (p := p) ((c :: rest) ++ ['/']) hsep hname
            (Or.inr ⟨c :: rest, rfl⟩) (by rw [hp, hleader, ← hmiddle]; rfl)
          refine ⟨_, hparent, ?_⟩
          rw [hp, hleader, trimmed_append_sep, String.toList_ofList]
          exact .relative (by simpa using hc)
            (exists_name_of_leader_eq_nil hc fun h hrest => hdot ⟨h, hrest⟩)

namespace ParentText

variable {front base : List Char}

/-- A parent that stands before a separator is not empty. -/
theorem ne_nil (h : ParentText front base) : base ≠ [] := by
  cases h with
  | root => simp
  | absolute rest => simp
  | dot hrest => simp
  | relative hhead hname =>
      intro hnil
      obtain ⟨piece, hpiece, hstays⟩ := hname
      have hall := stays_of_trimReversed_eq_nil front.reverse (List.reverse_eq_nil_iff.mp hnil)
      rw [List.reverse_reverse] at hall
      exact hstays (hall piece hpiece)

/-- A parent is absolute if the path is. -/
theorem head?_eq_sep_iff (h : ParentText front base) (last : List Char) :
    base.head? = some '/' ↔ (front ++ '/' :: last).head? = some '/' := by
  cases h with
  | root => simp
  | absolute rest => simp
  | dot hrest => simp
  | relative hhead hname =>
      obtain ⟨more, hmore⟩ := trimmed_begins front
      have hne := (ParentText.relative hhead hname).ne_nil
      obtain ⟨c, rest, hcons⟩ := List.exists_cons_of_ne_nil hne
      have hfront : front = c :: (rest ++ more) := by rw [← hmore, hcons, List.cons_append]
      rw [hcons, hfront]
      simp

/-- A parent has no other characters than the path. -/
theorem mem_of_mem (h : ParentText front base) (last : List Char) {c : Char} (hc : c ∈ base) :
    c ∈ front ++ '/' :: last := by
  have hsub : ∀ {cs : List Char}, c ∈ trimmed cs → c ∈ cs := fun {cs} hmem =>
    (trimmed_begins cs).subset hmem
  cases h with
  | root =>
      obtain rfl : c = '/' := by simpa using hc
      simp
  | absolute rest =>
      rcases List.mem_cons.mp hc with rfl | hmem
      · simp
      · simp [hsub hmem]
  | dot hrest =>
      rcases List.mem_cons.mp hc with rfl | hmem
      · simp
      · simp [hsub hmem]
  | relative hhead hname => exact List.mem_append_left _ (hsub hc)

end ParentText

end Path

end GrammarAudit
