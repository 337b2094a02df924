import Mathlib.Data.List.Induction
import GrammarAudit.Proofs.NamesInParts
import GrammarAudit.Proofs.RunOutcome

/-!
# Options given in any order

An argument that has an option with its value, or the flag, is read by itself: it changes
the options read so far in its own place and refuses to be given twice where the option
stands for one thing.  So only the values that each option is given, in their order, decide
what the arguments come to, and not how the arguments of different options are mixed.

* `Item`, `Item.argument`: an option that is given, and how it is written.
* `parse_items`: arguments are read one by one.
* `Options.give_eq_ok_iff`: what taking in one of them can do.
* `Options.SaidBy.takes`, `Options.saidBy_of_foldlM_give`: what is read is what they say.
* `Options.exists_foldlM_give`: they are accepted if they repeat nothing and have no empty
  path.
* `parse_any_order`: options that are written out, in any order, are read back, and what
  contradicts itself is refused.
-/

namespace GrammarAudit.CommandLine

/-- An option that is given in one argument. -/
inductive Item
  | value (s : Setting) (text : String)
  | verbose
  | verboseShort
deriving DecidableEq, Repr

/-- How an option is written. -/
def Item.argument : Item → String
  | .value s text => "--" ++ s.longName ++ "=" ++ text
  | .verbose => "--verbose"
  | .verboseShort => "-v"

/-- The values that an option is given, in order. -/
def valuesOf (s : Setting) (items : List Item) : List String :=
  items.filterMap fun
    | .value s' text => if s' = s then some text else none
    | .verbose => none
    | .verboseShort => none

/-- How often the flag is given. -/
def timesVerbose (items : List Item) : Nat :=
  items.countP fun
    | .value _ _ => false
    | .verbose => true
    | .verboseShort => true

section Values

variable (s : Setting) (items : List Item)

@[simp]
theorem valuesOf_append_value (s' : Setting) (text : String) :
    valuesOf s (items ++ [.value s' text])
      = valuesOf s items ++ if s' = s then [text] else [] := by
  by_cases h : s' = s
  · simp [valuesOf, h]
  · simp [valuesOf, h]

@[simp]
theorem valuesOf_append_verbose : valuesOf s (items ++ [.verbose]) = valuesOf s items := by
  simp [valuesOf]

@[simp]
theorem valuesOf_append_verboseShort :
    valuesOf s (items ++ [.verboseShort]) = valuesOf s items := by
  simp [valuesOf]

@[simp]
theorem timesVerbose_append_value (text : String) :
    timesVerbose (items ++ [.value s text]) = timesVerbose items := by
  simp [timesVerbose]

@[simp]
theorem timesVerbose_append_verbose :
    timesVerbose (items ++ [.verbose]) = timesVerbose items + 1 := by
  simp [timesVerbose]

@[simp]
theorem timesVerbose_append_verboseShort :
    timesVerbose (items ++ [.verboseShort]) = timesVerbose items + 1 := by
  simp [timesVerbose]

end Values

namespace Options

/-- Takes in the flag, which is given once. -/
def setVerbose (o : Options) : Except Refusal Options :=
  if o.verbose then .error .argumentConflict else .ok { o with verbose := true }

/-- Takes in an option that is given. -/
def give (o : Options) : Item → Except Refusal Options
  | .value s text => o.set s text
  | .verbose => o.setVerbose
  | .verboseShort => o.setVerbose

/-- The options and the items agree about everything but the names. -/
structure AgreesWith (o : Options) (items : List Item) : Prop where
  config : valuesOf .config items = (o.config.map Path.text).toList
  library : valuesOf .library items = (o.library.map Path.text).toList
  samples : valuesOf .sample items = o.samples.map Path.text
  verbose : timesVerbose items = o.verbose.toNat

/-- What agrees with options repeats nothing. -/
theorem AgreesWith.length_le_one {o : Options} {items : List Item} (h : o.AgreesWith items) :
    (valuesOf .config items).length ≤ 1 ∧ (valuesOf .library items).length ≤ 1 ∧
      timesVerbose items ≤ 1 := by
  have hone : ∀ path : Option Path, (path.map Path.text).toList.length ≤ 1 := by
    intro path
    cases path with
    | none => exact Nat.zero_le 1
    | some path => exact Nat.le_refl 1
  rw [h.config, h.library, h.verbose]
  exact ⟨hone o.config, hone o.library, o.verbose.toNat_le⟩

/-- The items say the options: the names are what stands between commas in all the values
for them, and there are none given if there is no such value. -/
structure SaidBy (o : Options) (items : List Item) : Prop extends o.AgreesWith items where
  only : o.only = if valuesOf .only items = [] then none
    else some ((valuesOf .only items).flatMap splitCommas)

/-- The options can be written: a config and a library are not both set, no path is empty, and
if names are given there is at least one, and none of them has a comma. -/
structure Writable (o : Options) : Prop where
  exclusive : o.config = none ∨ o.library = none
  config : ∀ path ∈ o.config, path.text ≠ ""
  library : ∀ path ∈ o.library, path.text ≠ ""
  samples : ∀ path ∈ o.samples, path.text ≠ ""
  only : ∀ names ∈ o.only, names ≠ [] ∧ ∀ name ∈ names, ',' ∉ name.toList

/-- The items are a way to write the options: the names are cut into groups, each of which
is joined by commas.  Items for different options may be mixed in any way. -/
structure WrittenAs (o : Options) (items : List Item) : Prop extends o.AgreesWith items where
  only : ∃ groups : List (List String), (∀ group ∈ groups, group ≠ []) ∧
    groups.flatten = o.only.getD [] ∧
    valuesOf .only items = groups.map fun group => ",".intercalate group

/-- What taking in an item can do. -/
inductive Takes (o : Options) : Item → Options → Prop
  | config {text : String} (hfirst : o.config = none) (htext : text ≠ "") :
      Takes o (.value .config text) { o with config := some ⟨text⟩ }
  | library {text : String} (hfirst : o.library = none) (htext : text ≠ "") :
      Takes o (.value .library text) { o with library := some ⟨text⟩ }
  | only {text : String} :
      Takes o (.value .only text) { o with only := some (o.only.getD [] ++ splitCommas text) }
  | sample {text : String} (htext : text ≠ "") :
      Takes o (.value .sample text) { o with samples := o.samples ++ [⟨text⟩] }
  | verbose (hfirst : o.verbose = false) : Takes o .verbose { o with verbose := true }
  | verboseShort (hfirst : o.verbose = false) : Takes o .verboseShort { o with verbose := true }

/-- A path is read from any text but the empty one. -/
theorem map_pathValue_eq_ok_iff {α : Type} (f : Path → α) (text : String) (a : α) :
    (pathValue text).map f = .ok a ↔ text ≠ "" ∧ f ⟨text⟩ = a := by
  unfold pathValue
  by_cases htext : text = ""
  · simp [htext, Except.map]
  · simp [htext, Except.map]

theorem map_pathValue_refusal {α : Type} {f : Path → α} {text : String} {e : Refusal}
    (h : (pathValue text).map f = .error e) : e = .invalidValue := by
  unfold pathValue at h
  by_cases htext : text = ""
  · rw [htext] at h
    exact (Except.error.inj h).symm
  · simp [htext, Except.map] at h

theorem setVerbose_eq_ok_iff (o o' : Options) :
    o.setVerbose = .ok o' ↔ o.verbose = false ∧ { o with verbose := true } = o' := by
  unfold setVerbose
  cases o.verbose with
  | true => simp
  | false => simp

theorem setVerbose_refusal {o : Options} {e : Refusal} (h : o.setVerbose = .error e) :
    e = .argumentConflict := by
  unfold setVerbose at h
  by_cases hverbose : o.verbose = true
  · rw [if_pos hverbose] at h
    exact (Except.error.inj h).symm
  · simp [hverbose] at h

/-- What taking in an item does, and nothing else. -/
theorem give_eq_ok_iff (o o' : Options) (item : Item) :
    o.give item = .ok o' ↔ o.Takes item o' := by
  constructor
  · intro h
    cases item with
    | value s text =>
        cases s with
        | config =>
            rw [give, set] at h
            cases hfirst : o.config with
            | some path => simp [hfirst] at h
            | none =>
                rw [hfirst] at h
                obtain ⟨htext, rfl⟩ := (map_pathValue_eq_ok_iff _ _ _).mp h
                exact .config hfirst htext
        | library =>
            rw [give, set] at h
            cases hfirst : o.library with
            | some path => simp [hfirst] at h
            | none =>
                rw [hfirst] at h
                obtain ⟨htext, rfl⟩ := (map_pathValue_eq_ok_iff _ _ _).mp h
                exact .library hfirst htext
        | only =>
            obtain rfl := Except.ok.inj h
            exact .only
        | sample =>
            obtain ⟨htext, rfl⟩ := (map_pathValue_eq_ok_iff _ _ _).mp h
            exact .sample htext
    | verbose =>
        obtain ⟨hfirst, rfl⟩ := (o.setVerbose_eq_ok_iff o').mp h
        exact .verbose hfirst
    | verboseShort =>
        obtain ⟨hfirst, rfl⟩ := (o.setVerbose_eq_ok_iff o').mp h
        exact .verboseShort hfirst
  · intro h
    cases h with
    | config hfirst htext => simp [give, set, pathValue, hfirst, htext, Except.map]
    | library hfirst htext => simp [give, set, pathValue, hfirst, htext, Except.map]
    | only => rfl
    | sample htext => simp [give, set, pathValue, htext, Except.map]
    | verbose hfirst => simp [give, setVerbose, hfirst]
    | verboseShort hfirst => simp [give, setVerbose, hfirst]

/-- **Taking in one item.**  What the items before it say and the item itself make what they
all say together. -/
theorem SaidBy.takes {o o' : Options} {items : List Item} {item : Item} (h : o.SaidBy items)
    (htakes : o.Takes item o') : o'.SaidBy (items ++ [item]) := by
  obtain ⟨⟨hconfig, hlibrary, hsamples, hverbose⟩, honly⟩ := h
  cases htakes with
  | config hfirst =>
      refine ⟨⟨?_, ?_, ?_, ?_⟩, ?_⟩
      · simp [hconfig, hfirst]
      all_goals simpa
  | library hfirst =>
      refine ⟨⟨?_, ?_, ?_, ?_⟩, ?_⟩
      · simpa
      · simp [hlibrary, hfirst]
      all_goals simpa
  | @only text =>
      refine ⟨⟨by simpa, by simpa, by simpa, by simpa⟩, ?_⟩
      rw [honly]
      by_cases hnone : valuesOf .only items = []
      · simp [hnone]
      · simp [hnone]
  | sample => exact ⟨⟨by simpa, by simpa, by simp [hsamples], by simpa⟩, by simpa⟩
  | verbose hfirst => exact ⟨⟨by simpa, by simpa, by simpa, by simp [hverbose, hfirst]⟩, by simpa⟩
  | verboseShort hfirst =>
      exact ⟨⟨by simpa, by simpa, by simpa, by simp [hverbose, hfirst]⟩, by simpa⟩

theorem foldlM_give_append (o : Options) (items : List Item) (item : Item) :
    (items ++ [item]).foldlM give o = (items.foldlM give o).bind fun o' => o'.give item := by
  rw [List.foldlM_append]
  cases items.foldlM give o with
  | error e => rfl
  | ok o' =>
      show (o'.give item).bind .ok = o'.give item
      cases o'.give item with
      | error e => rfl
      | ok o'' => rfl

/-- What is read from items, one after the other, is what they say.  The induction is on the
items, the last of which is taken in last. -/
theorem saidBy_of_foldlM_give {o : Options} {items : List Item}
    (h : items.foldlM give unset = .ok o) : o.SaidBy items := by
  induction items using List.reverseRecOn generalizing o with
  | nil =>
      obtain rfl := Except.ok.inj h
      exact ⟨⟨rfl, rfl, rfl, rfl⟩, rfl⟩
  | append_singleton items item ih =>
      rw [foldlM_give_append] at h
      cases hitems : items.foldlM give unset with
      | error e => simp [hitems, Except.bind] at h
      | ok before =>
          have hgive : before.give item = .ok o := by simpa [hitems, Except.bind] using h
          exact (ih hitems).takes ((before.give_eq_ok_iff o item).mp hgive)

/-- Items that repeat nothing and have no empty path. -/
structure Acceptable (items : List Item) : Prop where
  config : (valuesOf .config items).length ≤ 1
  library : (valuesOf .library items).length ≤ 1
  verbose : timesVerbose items ≤ 1
  paths : ∀ s, s ≠ .only → "" ∉ valuesOf s items

/-- Items that are acceptable with one more item are so without it. -/
theorem Acceptable.of_append {items : List Item} {item : Item}
    (h : Acceptable (items ++ [item])) : Acceptable items := by
  have hvalues : ∀ s, valuesOf s items <+: valuesOf s (items ++ [item]) := by
    intro s
    rw [valuesOf, valuesOf, List.filterMap_append]
    exact List.prefix_append _ _
  have htimes : timesVerbose items ≤ timesVerbose (items ++ [item]) :=
    (List.sublist_append_left items [item]).countP_le
  refine ⟨Nat.le_trans (hvalues _).length_le h.config,
    Nat.le_trans (hvalues _).length_le h.library, Nat.le_trans htimes h.verbose, ?_⟩
  intro s hs hmem
  exact h.paths s hs ((hvalues s).subset hmem)

/-- An item is taken in after others, if together they are acceptable. -/
theorem SaidBy.exists_takes {o : Options} {items : List Item} {item : Item} (h : o.SaidBy items)
    (hitems : Acceptable (items ++ [item])) : ∃ o', o.Takes item o' := by
  have hfirst : timesVerbose (items ++ [item]) = timesVerbose items + 1 → o.verbose = false := by
    intro htimes
    have hone := hitems.verbose
    rw [htimes, h.verbose] at hone
    cases hverbose : o.verbose with
    | true => simp [hverbose] at hone
    | false => rfl
  cases item with
  | value s text =>
      have htext : s ≠ .only → text ≠ "" := by
        rintro hs rfl
        exact hitems.paths s hs (by simp)
      have hnone : ∀ path : Option Path,
          ((path.map Path.text).toList ++ [text]).length ≤ 1 → path = none := by
        intro path hone
        cases path with
        | none => rfl
        | some path => simp at hone
      cases s with
      | config =>
          have hone := hitems.config
          rw [valuesOf_append_value, if_pos rfl, h.config] at hone
          exact ⟨_, .config (hnone o.config hone) (htext (by simp))⟩
      | library =>
          have hone := hitems.library
          rw [valuesOf_append_value, if_pos rfl, h.library] at hone
          exact ⟨_, .library (hnone o.library hone) (htext (by simp))⟩
      | only => exact ⟨_, .only⟩
      | sample => exact ⟨_, .sample (htext (by simp))⟩
  | verbose => exact ⟨_, .verbose (hfirst (by simp))⟩
  | verboseShort => exact ⟨_, .verboseShort (hfirst (by simp))⟩

/-- Acceptable items are read.  The induction is on the items, the last of which is taken in
last. -/
theorem exists_foldlM_give {items : List Item} (h : Acceptable items) :
    ∃ o, items.foldlM give unset = .ok o := by
  induction items using List.reverseRecOn with
  | nil => exact ⟨unset, rfl⟩
  | append_singleton items item ih =>
      obtain ⟨before, hbefore⟩ := ih h.of_append
      obtain ⟨o, htakes⟩ := (saidBy_of_foldlM_give hbefore).exists_takes h
      refine ⟨o, ?_⟩
      rw [foldlM_give_append, hbefore]
      exact (before.give_eq_ok_iff o item).mpr htakes

/-- The items decide the options that they say. -/
theorem SaidBy.unique {o o' : Options} {items : List Item} (h : o.SaidBy items)
    (h' : o'.SaidBy items) : o = o' := by
  have htext : ∀ path path' : Path, path.text = path'.text → path = path' := by
    rintro ⟨text⟩ ⟨text'⟩ rfl
    rfl
  have hpath : ∀ path path' : Option Path,
      (path.map Path.text).toList = (path'.map Path.text).toList → path = path' := by
    rintro (_ | path) (_ | path') hpath
    · rfl
    · simp at hpath
    · simp at hpath
    · rw [htext path path' (by simpa using hpath)]
  have hconfig : o.config = o'.config := hpath _ _ (h.config.symm.trans h'.config)
  have hlibrary : o.library = o'.library := hpath _ _ (h.library.symm.trans h'.library)
  have honly : o.only = o'.only := h.only.trans h'.only.symm
  have hsamples : o.samples = o'.samples :=
    (List.map_inj_right htext).mp (h.samples.symm.trans h'.samples)
  have hverbose : o.verbose = o'.verbose := by
    have htimes := h.verbose.symm.trans h'.verbose
    generalize o.verbose = b, o'.verbose = b' at htimes ⊢
    revert htimes
    cases b <;> cases b' <;> decide
  cases o
  cases o'
  simp_all

section WrittenAs

variable {o : Options} {items : List Item}

/-- Options that are written say themselves: each group of names is what stands between the
commas that are put into it. -/
theorem WrittenAs.saidBy (h : o.WrittenAs items) (ho : o.Writable) : o.SaidBy items := by
  refine ⟨h.toAgreesWith, ?_⟩
  obtain ⟨groups, hgroups, hflatten, hvalues⟩ := h.only
  rw [hvalues]
  cases hgiven : o.only with
  | none =>
      have hempty : groups = [] := by
        rw [hgiven, Option.getD_none, List.flatten_eq_nil_iff] at hflatten
        exact List.eq_nil_iff_forall_not_mem.mpr fun group hgroup =>
          hgroups group hgroup (hflatten group hgroup)
      simp [hempty]
  | some names =>
      obtain ⟨hnames, hcomma⟩ := ho.only names hgiven
      rw [hgiven, Option.getD_some] at hflatten
      have hsome : groups ≠ [] := by
        rintro rfl
        exact hnames hflatten.symm
      have hsplit : ∀ group ∈ groups, splitCommas (",".intercalate group) = group := by
        intro group hgroup
        refine splitCommas_intercalate (hgroups group hgroup) fun name hname => ?_
        exact hcomma name (hflatten ▸ List.mem_flatten_of_mem hgroup hname)
      rw [if_neg (by simpa using hsome), List.flatMap_map, ← hflatten]
      rw [Option.some_inj, List.flatMap_def, List.map_congr_left hsplit, List.map_id']

/-- Options that are written repeat nothing and have no empty path. -/
theorem WrittenAs.acceptable (h : o.WrittenAs items) (ho : o.Writable) : Acceptable items := by
  obtain ⟨hconfig, hlibrary, hverbose⟩ := h.length_le_one
  refine ⟨hconfig, hlibrary, hverbose, ?_⟩
  have hgiven : ∀ path : Option Path, (∀ p ∈ path, p.text ≠ "") →
      "" ∉ (path.map Path.text).toList := by
    rintro (_ | path) hpath
    · simp
    · simpa using Ne.symm (hpath path rfl)
  intro s hs
  cases s with
  | config => exact h.config ▸ hgiven _ ho.config
  | library => exact h.library ▸ hgiven _ ho.library
  | sample =>
      rw [h.samples, List.mem_map]
      rintro ⟨path, hpath, htext⟩
      exact ho.samples path hpath htext
  | only => exact absurd rfl hs

end WrittenAs

/-- An item is refused for its value or because it repeats another. -/
theorem give_refusal {o : Options} {item : Item} {e : Refusal} (h : o.give item = .error e) :
    e = .argumentConflict ∨ e = .invalidValue := by
  cases item with
  | value s text =>
      cases s with
      | config =>
          rw [give, set] at h
          split at h
          · exact .inl (Except.error.inj h).symm
          · exact .inr (map_pathValue_refusal h)
      | library =>
          rw [give, set] at h
          split at h
          · exact .inl (Except.error.inj h).symm
          · exact .inr (map_pathValue_refusal h)
      | only => cases h
      | sample => exact .inr (map_pathValue_refusal h)
  | verbose => exact .inl (setVerbose_refusal h)
  | verboseShort => exact .inl (setVerbose_refusal h)

/-- Items are refused if one of them is.  The induction is on the items, from any options. -/
theorem foldlM_give_refusal {o : Options} {items : List Item} {e : Refusal}
    (h : items.foldlM give o = .error e) : e = .argumentConflict ∨ e = .invalidValue := by
  induction items generalizing o with
  | nil => cases h
  | cons item rest ih =>
      rw [List.foldlM_cons] at h
      cases hgive : o.give item with
      | error e' =>
          rw [hgive] at h
          cases h
          exact give_refusal hgive
      | ok o' =>
          rw [hgive] at h
          exact ih h

end Options

namespace Progress

/-- What an item's argument comes to. -/
theorem readAll_argument (o : Options) (item : Item) (rest : List String) :
    readAll ⟨o, none⟩ (item.argument :: rest)
      = (o.give item).bind fun o' => readAll ⟨o', none⟩ rest := by
  have hflag : ((flag ⟨o, none⟩ .verbose).bind fun p => readAll p rest)
      = o.setVerbose.bind fun o' => readAll ⟨o', none⟩ rest := by
    show (Except.bind (if o.verbose then _ else _) _) = _
    unfold Options.setVerbose
    cases o.verbose with
    | true => rfl
    | false => rfl
  cases item with
  | value s text =>
      rw [Item.argument, readAll_joined, take]
      show ((o.set s text).map _).bind _ = (o.set s text).bind _
      cases o.set s text with
      | error e => rfl
      | ok o' => rfl
  | verbose => exact hflag
  | verboseShort =>
      refine Eq.trans ?_ hflag
      show ((flag ⟨o, none⟩ .verbose).bind .ok).bind _ = _
      cases flag ⟨o, none⟩ .verbose with
      | error e => rfl
      | ok p => rfl

/-- The arguments of items are read one by one.  The induction is on the items, from any
options. -/
theorem readAll_items (o : Options) (items : List Item) :
    readAll ⟨o, none⟩ (items.map Item.argument)
      = (items.foldlM Options.give o).map fun o' => ⟨o', none⟩ := by
  induction items generalizing o with
  | nil => rfl
  | cons item rest ih =>
      rw [List.map_cons, readAll_argument, List.foldlM_cons]
      cases o.give item with
      | error e => rfl
      | ok o' => exact ih o'

end Progress

/-- **Reading arguments one by one.**  What the arguments come to is what taking in their items
does; only at the end is it seen whether there are both a config and a library. -/
theorem parse_items (items : List Item) :
    parse (items.map Item.argument)
      = (items.foldlM Options.give .unset).bind Options.checkConflict := by
  rw [parse_eq, Progress.optionsOf, Progress.readAll_items]
  cases items.foldlM Options.give .unset with
  | error e => rfl
  | ok o => rfl

theorem Options.checkConflict_eq_ok_iff (o o' : Options) :
    o.checkConflict = .ok o' ↔ (o.config = none ∨ o.library = none) ∧ o = o' := by
  unfold checkConflict
  cases o.config <;> cases o.library <;> simp

theorem Options.checkConflict_refusal {o : Options} {e : Refusal}
    (h : o.checkConflict = .error e) : e = .argumentConflict := by
  unfold checkConflict at h
  split at h
  · exact (Except.error.inj h).symm
  · cases h

/-- Items are refused for no other reason than that they are wrong. -/
theorem usageError_items {items : List Item}
    (h : ∀ o, parse (items.map Item.argument) ≠ .ok o) : UsageError (items.map Item.argument) := by
  cases hparse : parse (items.map Item.argument) with
  | ok o => exact absurd hparse (h o)
  | error e =>
      have he : e = .argumentConflict ∨ e = .invalidValue := by
        rw [parse_items] at hparse
        cases hitems : items.foldlM Options.give .unset with
        | error e' =>
            rw [hitems] at hparse
            cases hparse
            exact Options.foldlM_give_refusal hitems
        | ok o =>
            have hconflict : o.checkConflict = .error e := by
              simpa [hitems, Except.bind] using hparse
            exact .inl (Options.checkConflict_refusal hconflict)
      refine ⟨e, hparse, ?_, ?_⟩
      · rcases he with rfl | rfl <;> simp
      · rcases he with rfl | rfl <;> simp

/-- **Options in any order.**  Options that are written, in whatever order their arguments are
mixed and however the names are cut into groups, are read back exactly.  Where both a config and
a library are given, or one of them or the flag twice, anywhere among the arguments, these are
refused as wrong. -/
theorem parse_any_order :
    (∀ (o : Options) (items : List Item), o.Writable → o.WrittenAs items →
      parse (items.map Item.argument) = .ok o) ∧
    ∀ items : List Item, (valuesOf .config items ≠ [] ∧ valuesOf .library items ≠ []) ∨
        2 ≤ (valuesOf .config items).length ∨ 2 ≤ (valuesOf .library items).length ∨
        2 ≤ timesVerbose items →
      UsageError (items.map Item.argument) := by
  constructor
  · intro o items ho hwritten
    obtain ⟨read, hread⟩ := Options.exists_foldlM_give (hwritten.acceptable ho)
    obtain rfl := (Options.saidBy_of_foldlM_give hread).unique (hwritten.saidBy ho)
    rw [parse_items, hread]
    exact (Options.checkConflict_eq_ok_iff _ _).mpr ⟨ho.exclusive, rfl⟩
  · intro items hbad
    refine usageError_items fun o hparse => ?_
    rw [parse_items] at hparse
    cases hitems : items.foldlM Options.give .unset with
    | error e => simp [hitems, Except.bind] at hparse
    | ok read =>
        have hsaid := Options.saidBy_of_foldlM_give hitems
        have hconflict : read.checkConflict = .ok o := by simpa [hitems, Except.bind] using hparse
        obtain ⟨hexclusive, -⟩ := (Options.checkConflict_eq_ok_iff _ _).mp hconflict
        obtain ⟨hconfigs, hlibraries, htimes⟩ := hsaid.length_le_one
        rcases hbad with ⟨hconfig, hlibrary⟩ | htwo | htwo | htwo
        · rcases hexclusive with hnone | hnone
          · exact hconfig (by rw [hsaid.config, hnone]; rfl)
          · exact hlibrary (by rw [hsaid.library, hnone]; rfl)
        · omega
        · omega
        · omega

/-- Values that are empty, have an equals sign or a comma, or start with a hyphen, among one
another; and a library, the flag and a config whose path is empty. -/
theorem parse_odd_values :
    let o : Options :=
      ⟨some ⟨"c=d,e"⟩, none, some ["", "a=b", "-c"], [⟨"-x="⟩, ⟨"y"⟩], true⟩
    let items : List Item := [.value .only ",a=b", .verboseShort, .value .sample "-x=",
      .value .only "-c", .value .config "c=d,e", .value .sample "y"]
    let contrary : List Item := [.value .library "l", .verbose, .value .config ""]
    o.Writable ∧ o.WrittenAs items ∧ parse (items.map Item.argument) = .ok o ∧
      UsageError (contrary.map Item.argument) := by
  intro o items contrary
  have ho : o.Writable :=
    ⟨.inr rfl, by simp [o], by simp [o], by simp [o], by simp [o]⟩
  have hwritten : o.WrittenAs items :=
    ⟨⟨rfl, rfl, rfl, rfl⟩, [["", "a=b"], ["-c"]], by simp, rfl, by decide⟩
  exact ⟨ho, hwritten, parse_any_order.1 o items ho hwritten,
    parse_any_order.2 contrary (.inl ⟨by decide, by decide⟩)⟩

end GrammarAudit.CommandLine
