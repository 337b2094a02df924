import GrammarAudit.Proofs.ParentPath

/-!
# The steps of a path

Two paths are the same when they have the same components.  Those of an absolute
path are the root and the steps of its text: one for each piece that does not
stay where it is.  Joining two paths puts their steps one after the other, and
taking the parent drops the last step; the separators and `.` pieces that either
of them adds or drops are no steps.

* `components_of_isAbsolute`: an absolute path is known by its steps.
* `steps_join`: the steps of a joined path.
* `ParentText.steps_eq`, `exists_parent_of_name`: the steps of a parent.
* `components_eq`: the components of any path.
* `components_join`, `exists_parent_join`: the components of a joined path, and those of
  its parent.
-/

namespace GrammarAudit.Path

/-- The steps of a text: a component for each piece that does not stay where it
is. -/
def steps (cs : List Char) : List Component := (pieces cs).filterMap Component.ofPiece?

/-- A piece is no step exactly when it stays where it is. -/
theorem ofPiece?_eq_none_iff (piece : List Char) :
    Component.ofPiece? piece = none ↔ Stays piece := by
  unfold Component.ofPiece? Stays
  by_cases hstays : piece = [] ∨ piece = ['.']
  · simp [hstays]
  · by_cases hup : piece = ['.', '.']
    · simp [hup]
    · simp [hstays, hup]

/-- The steps of one piece. -/
theorem steps_of_not_mem {cs : List Char} (h : '/' ∉ cs) :
    steps cs = (Component.ofPiece? cs).toList := by
  rw [steps, pieces_of_not_mem h]
  cases hpiece : Component.ofPiece? cs with
  | none => simp [hpiece]
  | some step => simp [hpiece]

/-- A piece that stays where it is has no steps. -/
theorem steps_of_stays {piece : List Char} (h : Stays piece) : steps piece = [] := by
  have hsep : '/' ∉ piece := by
    rcases h with rfl | rfl
    · simp
    · simp
  rw [steps_of_not_mem hsep, (ofPiece?_eq_none_iff piece).mpr h]
  rfl

@[simp] theorem steps_nil : steps [] = [] := steps_of_stays (Or.inl rfl)

@[simp] theorem steps_dot : steps ['.'] = [] := steps_of_stays (Or.inr rfl)

/-- The steps of two texts with a separator between them. -/
theorem steps_append_sep (a b : List Char) : steps (a ++ '/' :: b) = steps a ++ steps b := by
  rw [steps, pieces_append_sep, List.filterMap_append]
  rfl

/-- A separator at the start of a text is no step. -/
theorem steps_sep_cons (a : List Char) : steps ('/' :: a) = steps a := by
  have hparts : steps ([] ++ '/' :: a) = steps [] ++ steps a := steps_append_sep [] a
  simpa using hparts

/-- A `.` piece at the start of a text is no step. -/
theorem steps_dot_cons {cs : List Char} (hcs : cs = [] ∨ ∃ rest, cs = '/' :: rest) :
    steps ('.' :: cs) = steps cs := by
  rcases hcs with rfl | ⟨rest, rfl⟩
  · rw [steps_dot, steps_nil]
  · have hparts : steps (['.'] ++ '/' :: rest) = steps ['.'] ++ steps rest :=
      steps_append_sep ['.'] rest
    rw [steps_sep_cons]
    simpa using hparts

/-- **The components of an absolute path.**  They are the root and the steps of
its text. -/
theorem components_of_isAbsolute {p : Path} (h : p.isAbsolute = true) :
    p.components = .root :: steps p.text.toList := by
  have hhead : p.text.toList.head? = some '/' := by simpa [isAbsolute] using h
  obtain ⟨rest, htext⟩ := List.head?_eq_some_iff.mp hhead
  rw [htext, steps_sep_cons, components, htext, pieces_sep_cons]
  simp [h, steps]

/-- **The steps of a joined path.**  They are those of its parts, whether or not
a separator had to be put between them. -/
theorem steps_join (base : Path) {sub : Path} (hsub : sub.isRelative = true) :
    steps (base.join sub).text.toList = steps base.text.toList ++ steps sub.text.toList := by
  rcases join_cases base hsub with ⟨hbase, hjoin⟩ | ⟨front, hbase, hjoin⟩ | ⟨-, hjoin⟩
  · rw [hjoin, hbase, steps_nil, List.nil_append]
  · rw [hjoin, hbase, steps_append_sep, steps_append_sep, steps_nil, List.append_nil]
  · rw [hjoin, steps_append_sep]

/-- Trailing separators and trailing `.` pieces are no steps.  The induction is
on what is dropped, from the end of the text. -/
theorem steps_trimReversed (r : List Char) : steps (trimReversed r).reverse = steps r.reverse := by
  fun_induction trimReversed r with
  | case1 r ih =>
      rw [ih, List.reverse_cons, steps_append_sep, steps_nil, List.append_nil]
  | case2 => exact steps_nil.trans steps_dot.symm
  | case3 r ih =>
      rw [ih, List.reverse_cons, List.reverse_cons, List.append_assoc, List.singleton_append,
        steps_append_sep, steps_dot, List.append_nil]
  | case4 r => rfl

/-- Trimming a text drops no step. -/
theorem steps_trimmed (cs : List Char) : steps (trimmed cs) = steps cs := by
  rw [trimmed, steps_trimReversed, List.reverse_reverse]

/-- **The steps of a parent.**  They are those of the text before the last
separator. -/
theorem ParentText.steps_eq {front base : List Char} (h : ParentText front base) :
    steps base = steps front := by
  cases h with
  | root => exact steps_sep_cons []
  | absolute rest => rw [steps_sep_cons, steps_sep_cons, steps_trimmed]
  | dot hrest =>
      rw [steps_dot_cons (trimmed_eq_nil_or_sep hrest), steps_dot_cons hrest, steps_trimmed]
  | relative hhead hname => exact steps_trimmed _

/-- **A path that ends in a name.**  It has a parent, which is absolute if the
path is and has all of its steps but the last. -/
theorem exists_parent_of_name {p : Path} {front : List (List Char)} {last : List Char}
    (hpieces : pieces p.text.toList = front ++ [last]) (hname : ¬ Stays last) :
    ∃ base step, p.parent? = some base ∧ base.isAbsolute = p.isAbsolute ∧
      steps p.text.toList = steps base.text.toList ++ [step] := by
  obtain ⟨step, hstep⟩ :=
    Option.ne_none_iff_exists'.mp (mt (ofPiece?_eq_none_iff last).mp hname)
  rcases eq_piece_or_last_sep p.text.toList with hbare | ⟨before, piece, htext, hpiece⟩
  · obtain rfl : p.text.toList = last := by
      have h : [] ++ [p.text.toList] = front ++ [last] :=
        (pieces_of_not_mem hbare).symm.trans hpieces
      exact List.singleton_inj.mp (List.append_inj' h rfl).2
    refine ⟨⟨""⟩, step, parent?_of_bare hbare hname, ?_, ?_⟩
    · have hrelative : p.isAbsolute = false := by
        rw [Bool.eq_false_iff]
        exact mt mem_of_isAbsolute hbare
      rw [hrelative]
      rfl
    · rw [steps_of_not_mem hbare, hstep]
      rfl
  · obtain rfl : piece = last := by
      have h : pieces before ++ [piece] = front ++ [last] := by
        rw [← hpieces, htext, pieces_append_sep, pieces_of_not_mem hpiece]
      exact List.singleton_inj.mp (List.append_inj' h rfl).2
    obtain ⟨base, hparent, hbase⟩ := exists_parentText htext hpiece hname
    refine ⟨base, step, hparent, ?_, ?_⟩
    · rw [Bool.eq_iff_iff, isAbsolute, isAbsolute, beq_iff_eq, beq_iff_eq, htext]
      exact hbase.head?_eq_sep_iff piece
    · rw [htext, steps_append_sep, hbase.steps_eq, steps_of_not_mem hpiece, hstep]
      rfl

/-- The component of a text that starts with a `.` piece. -/
def lead (cs : List Char) : List Component := if (pieces cs).head? = some ['.'] then [.here] else []

/-- What follows a separator has no part in how a text starts. -/
theorem lead_append_sep (a b : List Char) : lead (a ++ '/' :: b) = lead a := by
  obtain ⟨first, rest, hpieces⟩ := List.exists_cons_of_ne_nil (pieces_ne_nil a)
  rw [lead, lead, pieces_append_sep, hpieces]
  rfl

/-- A separator at the start of a text is no `.` piece. -/
theorem lead_sep_cons (a : List Char) : lead ('/' :: a) = [] := lead_append_sep [] a

/-- **The components of a path.**  They are the root or the `.` that it starts with, if it
does, and the steps of its text. -/
theorem components_eq (p : Path) :
    p.components
      = (if p.isAbsolute then [.root] else lead p.text.toList) ++ steps p.text.toList := by
  cases habsolute : p.isAbsolute with
  | true => exact components_of_isAbsolute habsolute
  | false =>
      obtain ⟨first, rest, hpieces⟩ := List.exists_cons_of_ne_nil (pieces_ne_nil p.text.toList)
      rw [components, lead, steps, hpieces]
      by_cases hempty : first = []
      · simp [hempty, habsolute, Component.ofPiece?]
      · by_cases hdot : first = ['.']
        · simp [hdot, Component.ofPiece?]
        · cases hstep : Component.ofPiece? first with
          | none => simp [hempty, hdot, hstep]
          | some step => simp [hempty, hdot, hstep]

/-- Trimming changes the start of a text only where it leaves nothing.  The induction is on
what is dropped, from the end of the text. -/
theorem lead_trimReversed (r : List Char) (h : trimReversed r ≠ []) :
    lead (trimReversed r).reverse = lead r.reverse := by
  fun_induction trimReversed r with
  | case1 r ih => rw [ih h, List.reverse_cons, lead_append_sep]
  | case2 => exact absurd rfl h
  | case3 r ih =>
      rw [ih h, List.reverse_cons, List.reverse_cons, List.append_assoc, List.singleton_append,
        lead_append_sep]
  | case4 r => rfl

/-- A text that starts with a `.` piece. -/
theorem lead_dot_cons {cs : List Char} (hcs : cs = [] ∨ ∃ rest, cs = '/' :: rest) :
    lead ('.' :: cs) = [.here] := by
  rcases hcs with rfl | ⟨rest, rfl⟩
  · rfl
  · exact lead_append_sep ['.'] rest

/-- A parent starts with a `.` piece if the path does. -/
theorem ParentText.lead_eq {front base : List Char} (h : ParentText front base) :
    lead base = lead front := by
  have hne := h.ne_nil
  cases h with
  | root => exact lead_sep_cons []
  | absolute rest => rw [lead_sep_cons, lead_sep_cons]
  | dot hrest => rw [lead_dot_cons (trimmed_eq_nil_or_sep hrest), lead_dot_cons hrest]
  | relative hhead hname =>
      have htrim : trimReversed front.reverse ≠ [] := fun hnil => hne (by rw [trimmed, hnil]; rfl)
      rw [trimmed, lead_trimReversed _ htrim, List.reverse_reverse]

/-- A text that does not start with a dot starts with no `.` piece. -/
theorem lead_of_head {cs : List Char} (h : cs.head? ≠ some '.') : lead cs = [] := by
  refine if_neg fun hdot => h ?_
  obtain ⟨rest, hpieces⟩ := List.head?_eq_some_iff.mp hdot
  have hjoined : ['/'].intercalate (pieces cs) = cs := List.intercalate_splitOn '/'
  rw [← hjoined, hpieces]
  cases rest with
  | nil => rfl
  | cons piece more => rfl

/-- How a joined path starts. -/
theorem lead_join (base : Path) {sub : Path} (hsub : sub.isRelative = true)
    (hlead : lead sub.text.toList = []) :
    lead (base.join sub).text.toList = lead base.text.toList := by
  rcases join_cases base hsub with ⟨hbase, hjoin⟩ | ⟨front, hbase, hjoin⟩ | ⟨-, hjoin⟩
  · rw [hjoin, hbase, hlead]
    rfl
  · rw [hjoin, hbase, lead_append_sep, lead_append_sep]
  · rw [hjoin, lead_append_sep]

/-- **The components of a joined path.**  They are those of its parts, unless the second of
them starts with the root or a `.` piece. -/
theorem components_join (base : Path) {sub : Path} (hsub : sub.isRelative = true)
    (hlead : lead sub.text.toList = []) :
    (base.join sub).components = base.components ++ sub.components := by
  have habsolute : sub.isAbsolute = false := by simpa [isRelative] using hsub
  rw [components_eq, components_eq, components_eq, isAbsolute_join base hsub,
    lead_join base hsub hlead, steps_join base hsub, habsolute, hlead, List.append_assoc]
  rfl

/-- **The parent of a joined path.**  If the second part is a name, it is the first part,
component by component. -/
theorem exists_parent_join (base : Path) {sub : Path} (hsep : '/' ∉ sub.text.toList)
    (hname : ¬ Stays sub.text.toList) :
    ∃ parent, (base.join sub).parent? = some parent ∧ parent.components = base.components := by
  have hsub : sub.isRelative = true := by
    simpa [isRelative] using mt mem_of_isAbsolute hsep
  have hsame : ∀ {front : List Char} {parent : Path}, ParentText front parent.text.toList →
      (base.text.toList.head? = some '/' ↔ (front ++ '/' :: sub.text.toList).head? = some '/') →
      lead base.text.toList = lead front → steps base.text.toList = steps front →
      parent.components = base.components := by
    intro front parent hparent hhead hlead hsteps
    have habsolute : parent.isAbsolute = base.isAbsolute := by
      rw [Bool.eq_iff_iff, isAbsolute, isAbsolute, beq_iff_eq, beq_iff_eq, hhead]
      exact hparent.head?_eq_sep_iff _
    rw [components_eq, components_eq, habsolute, hparent.lead_eq, hparent.steps_eq, hlead, hsteps]
  rcases join_cases base hsub with ⟨hbase, hjoin⟩ | ⟨front, hbase, hjoin⟩ | ⟨hne, hjoin⟩
  · refine ⟨⟨""⟩, parent?_of_bare (by rwa [hjoin]) (by rwa [hjoin]), ?_⟩
    have hempty : base = ⟨""⟩ := by
      obtain ⟨text⟩ := base
      simpa using hbase
    rw [hempty]
  · obtain ⟨parent, hparent, htext⟩ := exists_parentText hjoin hsep hname
    refine ⟨parent, hparent, hsame htext ?_ ?_ ?_⟩
    · rw [hbase]
      cases front with
      | nil => simp
      | cons c rest => simp
    · rw [hbase, lead_append_sep]
    · rw [hbase, steps_append_sep, steps_nil, List.append_nil]
  · obtain ⟨parent, hparent, htext⟩ := exists_parentText hjoin hsep hname
    refine ⟨parent, hparent, hsame htext ?_ rfl rfl⟩
    obtain ⟨c, rest, hcons⟩ := List.exists_cons_of_ne_nil hne
    rw [hcons]
    simp

end GrammarAudit.Path
