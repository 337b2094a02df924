import Mathlib
import GrammarAudit.Proofs.ConfigShape

/-!
# Keys that a config does not know

Other keys may be added to a config, removed and changed: at its top, in its
entries, and in the sources of those.  What it lists stays the same.

* `Value.bare`: a value apart from where and how it is written.
* `DocumentAlike`: documents that differ in other keys only.
* `Lists.of_alike`: they list the same entries.
* `parse_accepts_shape`: which texts are accepted, with what entries; one item of
  another shape is enough for a refusal; other keys change nothing.
-/

namespace GrammarAudit

/-! ## Values apart from their places -/

namespace Toml

mutual

/-- A value apart from where and how it is written. -/
def Value.bare : Value → Value
  | .scalar _ s => .scalar ⟨0, 0⟩ s
  | .array _ _ items => .array ⟨0, 0⟩ .brackets (Value.bareItems items)
  | .table _ _ entries => .table ⟨0, 0⟩ .inline (Table.bare entries)

/-- Some values apart from where and how they are written. -/
def Value.bareItems : List Value → List Value
  | [] => []
  | v :: vs => v.bare :: Value.bareItems vs

/-- A table apart from where and how its values are written. -/
def Table.bare : Table → Table
  | [] => []
  | (key, v) :: rest => (key, v.bare) :: Table.bare rest

end

/-- The same value stands under a key, or none does. -/
def Table.SameAt (key : String) (t t' : Table) : Prop :=
  (t.get? key).map Value.bare = (t'.get? key).map Value.bare

section

variable {v v' : Value} {items items' : List Value} {t t' : Table} {key : String}

theorem Table.get?_bare (t : Table) (key : String) :
    Table.get? t.bare key = (t.get? key).map Value.bare := by
  induction t with
  | nil => rfl
  | cons entry rest ih =>
      obtain ⟨k, v⟩ := entry
      unfold Table.bare Table.get?
      rw [List.lookup_cons, List.lookup_cons]
      split
      · rfl
      · exact ih

theorem Table.SameAt.of_bare (h : t.bare = t'.bare) : SameAt key t t' := by
  unfold SameAt
  rw [← get?_bare, ← get?_bare, h]

theorem Table.SameAt.none (h : t.SameAt key t') (hkey : t.get? key = none) :
    t'.get? key = none := by
  unfold SameAt at h
  rw [hkey] at h
  exact Option.map_eq_none_iff.mp h.symm

theorem Table.SameAt.some (h : t.SameAt key t') (hkey : t.get? key = some v) :
    ∃ v', t'.get? key = some v' ∧ v.bare = v'.bare := by
  unfold SameAt at h
  rw [hkey] at h
  obtain ⟨v', hv', hsame⟩ := Option.map_eq_some_iff.mp h.symm
  exact ⟨v', hv', hsame.symm⟩

theorem forall₂_of_bareItems (h : Value.bareItems items = Value.bareItems items') :
    List.Forall₂ (fun v v' => v.bare = v'.bare) items items' := by
  induction items generalizing items' with
  | nil =>
      cases items' with
      | nil => exact .nil
      | cons => cases h
  | cons v rest ih =>
      cases items' with
      | nil => cases h
      | cons v' rest' =>
          obtain ⟨hv, hrest⟩ := List.cons.inj h
          exact .cons hv (ih hrest)

theorem Value.IsText.of_bare {s : String} (h : v.IsText s) (hsame : v.bare = v'.bare) :
    v'.IsText s := by
  obtain ⟨span, rfl⟩ := h
  cases v' with
  | scalar span' s' =>
      cases hsame
      exact ⟨_, rfl⟩
  | array => cases hsame
  | table => cases hsame

theorem Value.IsTexts.of_bare {texts : List String} (h : v.IsTexts texts)
    (hsame : v.bare = v'.bare) : v'.IsTexts texts := by
  obtain ⟨span, form, items, rfl, htexts⟩ := h
  cases v' with
  | scalar => cases hsame
  | table => cases hsame
  | array span' form' items' =>
      have hitems := forall₂_of_bareItems (Value.array.inj hsame).2.2
      refine ⟨_, _, _, rfl, ?_⟩
      clear hsame
      induction hitems generalizing texts with
      | nil => exact htexts
      | cons hv _ ih =>
          cases htexts with
          | cons htext hrest => exact .cons (htext.of_bare hv) (ih hrest)

end

end Toml

/-! ## Documents that differ in other keys -/

namespace Config

open Toml

/-- Sources that are the same but for other keys than the path. -/
inductive SourceAlike : Value → Value → Prop
  | same {v v' : Value} (h : v.bare = v'.bare) : SourceAlike v v'
  | tables {span span' : Span} {form form' : TableForm} {t t' : Table}
      (hpath : t.SameAt "path" t') : SourceAlike (.table span form t) (.table span' form' t')

/-- Fields that are the same but for other keys than those of an entry. -/
structure FieldsAlike (t t' : Table) : Prop where
  known : ∀ key ∈ fieldNames, key ≠ "source" → Table.SameAt key t t'
  source : Option.Rel SourceAlike (t.get? "source") (t'.get? "source")

/-- Values whose fields are alike. -/
def EntryAlike (v v' : Value) : Prop := Option.Rel FieldsAlike (fieldsOf? v) (fieldsOf? v')

/-- Documents that are the same but for keys that a config does not know: at
their top, in their entries, and in the sources of those. -/
inductive DocumentAlike (t t' : Table) : Prop
  | same (h : Table.SameAt "grammar" t t')
  | items {span span' : Span} {form form' : ArrayForm} {items items' : List Value}
      (h : t.get? "grammar" = some (.array span form items))
      (h' : t'.get? "grammar" = some (.array span' form' items'))
      (hitems : List.Forall₂ EntryAlike items items')

section

variable {v v' : Value} {t t' : Table} {e : Entry} {entries : List Entry} {key : String}

/-- What is alike to something that is there is there. -/
theorem exists_of_rel {α : Type} {R : α → α → Prop} {x y : Option α} {a : α}
    (h : Option.Rel R x y) (hx : x = some a) : ∃ b, y = some b ∧ R a b := by
  subst hx
  cases h with
  | some hab => exact ⟨_, rfl, hab⟩

theorem rel_symm {α : Type} {R : α → α → Prop} (hsymm : ∀ a b, R a b → R b a)
    {x y : Option α} (h : Option.Rel R x y) : Option.Rel R y x := by
  cases h with
  | none => exact .none
  | some hab => exact .some (hsymm _ _ hab)

theorem SourceAlike.symm (h : SourceAlike v v') : SourceAlike v' v := by
  cases h with
  | same h => exact .same h.symm
  | tables hpath => exact .tables hpath.symm

theorem FieldsAlike.symm (h : FieldsAlike t t') : FieldsAlike t' t where
  known key hkey hsource := (h.known key hkey hsource).symm
  source := rel_symm (fun _ _ => .symm) h.source

theorem EntryAlike.symm (h : EntryAlike v v') : EntryAlike v' v :=
  rel_symm (fun _ _ => .symm) h

theorem DocumentAlike.symm (h : DocumentAlike t t') : DocumentAlike t' t := by
  cases h with
  | same h => exact .same h.symm
  | items h h' hitems =>
      exact .items h' h (hitems.flip.imp fun _ _ => .symm)

/-- Fields that are written differently only are alike. -/
theorem FieldsAlike.of_bare (h : t.bare = t'.bare) : FieldsAlike t t' where
  known _ _ _ := .of_bare h
  source := by
    have hsource : Table.SameAt "source" t t' := .of_bare h
    unfold Table.SameAt at hsource
    cases hold : t.get? "source" with
    | none =>
        rw [Table.SameAt.none hsource hold]
        exact .none
    | some v =>
        obtain ⟨v', hnew, hsame⟩ := Table.SameAt.some hsource hold
        rw [hnew]
        exact .some (.same hsame)

theorem bare_zip (names : List String) (items : List Value) :
    Table.bare (names.zip items) = names.zip (Value.bareItems items) := by
  induction names generalizing items with
  | nil => rfl
  | cons name rest ih =>
      cases items with
      | nil => rfl
      | cons v vs => exact congrArg ((name, v.bare) :: ·) (ih vs)

/-- Values that are written differently only are alike. -/
theorem EntryAlike.of_bare (h : v.bare = v'.bare) : EntryAlike v v' := by
  cases v with
  | scalar =>
      cases v' with
      | scalar => exact .none
      | array => cases h
      | table => cases h
  | array span form items =>
      cases v' with
      | scalar => cases h
      | array span' form' items' =>
          have hitems := (Value.array.inj h).2.2
          have hzip : Table.bare (fieldNames.zip items) = Table.bare (fieldNames.zip items') := by
            rw [bare_zip, bare_zip, hitems]
          exact .some (.of_bare hzip)
      | table => cases h
  | table =>
      cases v' with
      | scalar => cases h
      | array => cases h
      | table => exact .some (.of_bare (Value.table.inj h).2.2)

theorem SourceAlike.of_table {span : Span} {form : TableForm}
    (h : SourceAlike (.table span form t) v') :
    ∃ span' form' t', v' = .table span' form' t' ∧ t.SameAt "path" t' := by
  cases h with
  | tables hpath => exact ⟨_, _, _, rfl, hpath⟩
  | same hsame =>
      cases v' with
      | scalar => cases hsame
      | array => cases hsame
      | table => exact ⟨_, _, _, rfl, .of_bare (Value.table.inj hsame).2.2⟩

theorem SourceAlike.of_scalar {span : Span} {s : Scalar}
    (h : SourceAlike (.scalar span s) v') : ∃ span', v' = .scalar span' s := by
  cases h with
  | same hsame =>
      cases v' with
      | scalar =>
          cases hsame
          exact ⟨_, rfl⟩
      | array => cases hsame
      | table => cases hsame

theorem IsSource.of_alike {s : EntrySource} (h : IsSource v s) (halike : SourceAlike v v') :
    IsSource v' s := by
  cases h with
  | builtin =>
      obtain ⟨span', rfl⟩ := halike.of_scalar
      exact .builtin
  | library hpath htext =>
      obtain ⟨span', form', t', rfl, hsame⟩ := halike.of_table
      obtain ⟨w, hw, hbare⟩ := hsame.some hpath
      exact .library hw (htext.of_bare hbare)

theorem Optionally.of_same {α : Type} {stands : Value → α → Prop} {found : Option α}
    (h : Optionally t key stands found) (hsame : t.SameAt key t')
    (hstands : ∀ v v' a, stands v a → v.bare = v'.bare → stands v' a) :
    Optionally t' key stands found := by
  cases h with
  | absent hkey => exact .absent (hsame.none hkey)
  | present hkey ha =>
      obtain ⟨v', hkey', hv'⟩ := hsame.some hkey
      exact .present hkey' (hstands _ v' _ ha hv')

theorem Fields.of_alike (h : Fields t e) (halike : FieldsAlike t t') : Fields t' e where
  name := by
    obtain ⟨v, hv, htext⟩ := h.name
    obtain ⟨v', hv', hsame⟩ := (halike.known "name" (by decide) (by decide)).some hv
    exact ⟨v', hv', htext.of_bare hsame⟩
  display :=
    h.display.of_same (halike.known _ (by decide) (by decide)) fun _ _ _ => Value.IsText.of_bare
  source := by
    obtain ⟨v, hv, hsource⟩ := h.source
    obtain ⟨v', hv', hsame⟩ := exists_of_rel halike.source hv
    exact ⟨v', hv', hsource.of_alike hsame⟩
  requiredKinds :=
    h.requiredKinds.of_same (halike.known _ (by decide) (by decide)) fun _ _ _ =>
      Value.IsTexts.of_bare
  samples := by
    obtain ⟨paths, hpaths, hsamples⟩ := h.samples
    refine ⟨paths, hpaths.of_same (halike.known _ (by decide) (by decide)) ?_, hsamples⟩
    exact fun _ _ _ => Value.IsTexts.of_bare

theorem Describes.of_alike (h : Describes v e) (halike : EntryAlike v v') : Describes v' e := by
  obtain ⟨t, ht, hfields⟩ := h
  obtain ⟨t', ht', hsame⟩ := exists_of_rel halike ht
  exact ⟨t', ht', hfields.of_alike hsame⟩

theorem forall₂_describes_of_alike {items items' : List Value}
    (h : List.Forall₂ Describes items entries) (halike : List.Forall₂ EntryAlike items items') :
    List.Forall₂ Describes items' entries := by
  induction halike generalizing entries with
  | nil => exact h
  | cons hv _ ih =>
      cases h with
      | cons he hrest => exact .cons (he.of_alike hv) (ih hrest)

/-- **Other keys are ignored.**  Documents that differ in other keys only list
the same entries. -/
theorem Lists.of_alike (h : Lists t entries) (halike : DocumentAlike t t') : Lists t' entries := by
  cases halike with
  | same hsame =>
      cases h with
      | absent hkey => exact .absent (hsame.none hkey)
      | items hkey hitems =>
          obtain ⟨v', hkey', hv'⟩ := hsame.some hkey
          cases v' with
          | scalar => cases hv'
          | table => cases hv'
          | array span' form' items' =>
              have hbare := forall₂_of_bareItems (Value.array.inj hv').2.2
              refine .items hkey' (forall₂_describes_of_alike hitems ?_)
              exact hbare.imp fun _ _ => .of_bare
  | items hkey hkey' halike =>
      cases h with
      | absent hnone => cases hnone.symm.trans hkey
      | items hkey₂ hitems =>
          cases hkey₂.symm.trans hkey
          exact .items hkey' (forall₂_describes_of_alike hitems halike)

end

/-- **The shape of a config.**  A text is accepted exactly when it is a document
that lists entries, and numbers that are not asked for can be read; those are
then the entries.  One item that describes nothing makes the document fail,
whatever the others are.  Keys that a config does not know change nothing. -/
theorem parse_accepts_shape (text : String) :
    (∀ entries, parse text = .ok entries ↔
      ∃ t, parse? text = some t ∧ Lists t entries ∧ OthersReadable t) ∧
    (∀ t span form items, parse? text = some t →
      t.get? "grammar" = some (.array span form items) → (∃ v ∈ items, ∀ e, ¬ Describes v e) →
        ∃ diagnostic, parse text = .error (.shape diagnostic)) ∧
    ∀ text' t t', parse? text = some t → parse? text' = some t' → DocumentAlike t t' →
      OthersReadable t → OthersReadable t' →
        ∀ entries, parse text = .ok entries ↔ parse text' = .ok entries := by
  refine ⟨fun entries => parse_eq_ok_iff, ?_, ?_⟩
  · rintro t span form items hdocument hkey ⟨v, hv, hnone⟩
    refine parse_eq_shape hdocument fun entries hlists => ?_
    obtain ⟨e, he⟩ := hlists.describes hkey v hv
    exact hnone e he
  · intro text' t t' hdocument hdocument' halike hreadable hreadable' entries
    rw [parse_eq_ok_iff, parse_eq_ok_iff]
    constructor
    · rintro ⟨u, hu, hlists, -⟩
      cases hdocument.symm.trans hu
      exact ⟨t', hdocument', hlists.of_alike halike, hreadable'⟩
    · rintro ⟨u, hu, hlists, -⟩
      cases hdocument'.symm.trans hu
      exact ⟨t, hdocument, hlists.of_alike halike.symm, hreadable⟩

/-- Other keys at the top, in an entry and in its source change nothing. -/
theorem other_keys_change_nothing :
    parse "n=1\n[[grammar]]\nname=\"m\"\nsource=\x7bpath=\"p\",n=2\x7d\nn=3" =
      .ok [⟨"m", none, .library ⟨"p"⟩, none, []⟩] := by
  have hplain : parse? "[[grammar]]\nname=\"m\"\nsource=\x7bpath=\"p\"\x7d" =
      some [("grammar", .array ⟨38, 27⟩ .headers [.table ⟨38, 27⟩ .header
        [("name", .scalar ⟨21, 18⟩ (.text "m")), ("source", .table ⟨10, 0⟩ .inline
          [("path", .scalar ⟨4, 1⟩ (.text "p"))])]])] := by cbv
  have hother : parse? "n=1\n[[grammar]]\nname=\"m\"\nsource=\x7bpath=\"p\",n=2\x7d\nn=3" =
      some [("grammar", .array ⟨46, 35⟩ .headers [.table ⟨46, 35⟩ .header
        [("n", .scalar ⟨1, 0⟩ (.integer 3)), ("name", .scalar ⟨29, 26⟩ (.text "m")),
          ("source", .table ⟨18, 4⟩ .inline [("n", .scalar ⟨6, 5⟩ (.integer 2)),
            ("path", .scalar ⟨12, 9⟩ (.text "p"))])]]),
        ("n", .scalar ⟨48, 47⟩ (.integer 1))] := by cbv
  have hreadable : ∀ {kept v}, anyFault? kept v = none → v.Readable kept :=
    fun h => (anyFault?_eq_none_iff _ _).mp h
  refine ((parse_accepts_shape _).2.2 _ _ _ hother hplain ?_ ?_ ?_ _).mpr (by cbv)
  · refine .items rfl rfl (.cons (.some ⟨?_, .some (.tables rfl)⟩) .nil)
    intro key hkey hsource
    fin_cases hkey
    · rfl
    · rfl
    · exact absurd rfl hsource
    · rfl
    · rfl
  · refine ⟨fun key v hv hkey => ?_, fun _ _ _ hkey v hv fields hfields => ?_⟩
    · rcases List.mem_cons.mp hv with heq | hv
      · cases heq
        exact absurd rfl hkey
      · cases List.mem_singleton.mp hv
        exact hreadable (by decide)
    · cases hkey
      cases List.mem_singleton.mp hv
      cases hfields
      refine ⟨fun key v hv hkey => ?_, fun v hv => ?_⟩
      · rcases List.mem_cons.mp hv with heq | hv
        · cases heq
          exact hreadable (by decide)
        · have hkeys : key = "name" ∨ key = "source" := by
            simpa using List.mem_map_of_mem (f := Prod.fst) hv
          rcases hkeys with rfl | rfl <;> exact absurd (by decide) hkey
      · cases hv
        exact hreadable (by decide)
  · obtain ⟨t, ht, -, hothers⟩ := parse_eq_ok_iff.mp (show parse
      "[[grammar]]\nname=\"m\"\nsource=\x7bpath=\"p\"\x7d" =
        .ok [⟨"m", none, .library ⟨"p"⟩, none, []⟩] by cbv)
    cases hplain.symm.trans ht
    exact hothers

/-- An array stands for an entry, and documents of the right shape are refused
for a number under a key that a config does not know. -/
theorem array_stands_for_entry :
    (∃ t span form inner items,
      parse? "grammar=[[\"m\",\"M\",\"builtin\"]]" = some t ∧
      t.get? "grammar" = some (.array span form [.array inner .brackets items]) ∧
      parse "grammar=[[\"m\",\"M\",\"builtin\"]]" = .ok [⟨"m", some "M", .builtin, none, []⟩]) ∧
    (∃ t diagnostic, parse? "n=1e999" = some t ∧ Lists t [] ∧
      parse "n=1e999" = .error (.shape diagnostic)) ∧
    ∃ t diagnostic,
      parse? "grammar=[\x7bname=\"m\",source=\x7bpath=\"p\",n=99999999999999999999\x7d\x7d]" =
        some t ∧
      Lists t [⟨"m", none, .library ⟨"p"⟩, none, []⟩] ∧
      parse "grammar=[\x7bname=\"m\",source=\x7bpath=\"p\",n=99999999999999999999\x7d\x7d]" =
        .error (.shape diagnostic) := by
  have harray : parse? "grammar=[[\"m\",\"M\",\"builtin\"]]" =
      some [("grammar", .array ⟨21, 0⟩ .brackets [.array ⟨20, 1⟩ .brackets
        [.scalar ⟨19, 16⟩ (.text "m"), .scalar ⟨15, 12⟩ (.text "M"),
          .scalar ⟨11, 2⟩ (.text "builtin")]])] := by cbv
  have hreal : parse? "n=1e999" = some [("n", .scalar ⟨5, 0⟩ (.real .outOfRange))] := by cbv
  have hsource :
      parse? "grammar=[\x7bname=\"m\",source=\x7bpath=\"p\",n=99999999999999999999\x7d\x7d]" =
      some [("grammar", .array ⟨53, 0⟩ .brackets [.table ⟨52, 1⟩ .inline
        [("name", .scalar ⟨46, 43⟩ (.text "m")), ("source", .table ⟨35, 2⟩ .inline
          [("n", .scalar ⟨23, 3⟩ (.integer 99999999999999999999)),
            ("path", .scalar ⟨29, 26⟩ (.text "p"))])]])] := by cbv
  obtain ⟨tooLarge, htooLarge⟩ : ∃ diagnostic, parse "n=1e999" = .error (.shape diagnostic) := by
    simp only [parse, hreal]
    exact ⟨_, rfl⟩
  obtain ⟨tooWide, htooWide⟩ : ∃ diagnostic,
      parse "grammar=[\x7bname=\"m\",source=\x7bpath=\"p\",n=99999999999999999999\x7d\x7d]" =
        .error (.shape diagnostic) := by
    simp only [parse, hsource]
    exact ⟨_, rfl⟩
  have hlibrary : IsSource (.table ⟨35, 2⟩ .inline
      [("n", .scalar ⟨23, 3⟩ (.integer 99999999999999999999)),
        ("path", .scalar ⟨29, 26⟩ (.text "p"))]) (.library ⟨"p"⟩) := .library rfl ⟨_, rfl⟩
  refine ⟨⟨_, _, _, _, _, harray, rfl, by cbv⟩, ⟨_, _, hreal, .absent rfl, htooLarge⟩,
    _, _, hsource, .items rfl (.cons ⟨_, rfl, ?_⟩ .nil), htooWide⟩
  exact ⟨⟨_, rfl, _, rfl⟩, .absent rfl, ⟨_, rfl, hlibrary⟩, .absent rfl, none, .absent rfl, rfl⟩

end Config

end GrammarAudit
