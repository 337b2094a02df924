import Mathlib
import GrammarAudit.Config.Reader
import GrammarAudit.Log
import GrammarAudit.Proofs.DocumentKeys
import GrammarAudit.Proofs.ItemByItem

/-!
# The shape of a config

A document lists entries when its key `grammar` is absent, or is an array of
values that describe them.  A value describes an entry by its fields: a table
gives them under their names, an array in a fixed order.  All other keys are
passed over, so long as the numbers in them can be read at all.

* `Describes`, `Lists`: the shape, read off the values.
* `OthersReadable`: the numbers that a config does not ask for.
* `readEntry_eq_ok_iff`, `ofTable_eq_ok_iff`, `parse_eq_ok_iff`: the reader accepts
  exactly that.
-/

namespace GrammarAudit

namespace Toml

/-! ## Texts -/

/-- A value is a text. -/
def Value.IsText (v : Value) (s : String) : Prop := ∃ span, v = .scalar span (.text s)

/-- A value is an array of texts. -/
def Value.IsTexts (v : Value) (texts : List String) : Prop :=
  ∃ span form items, v = .array span form items ∧ List.Forall₂ Value.IsText items texts

namespace Value

variable {v : Value} {s : String} {texts : List String} {expected : Expected}

theorem text?_eq_some_iff : v.text? = some s ↔ v.IsText s := by
  constructor
  · intro h
    unfold text? at h
    split at h
    · cases h
      exact ⟨_, rfl⟩
    · cases h
  · rintro ⟨span, rfl⟩
    rfl

theorem texts?_eq_some_iff : v.texts? = some texts ↔ v.IsTexts texts := by
  constructor
  · intro h
    unfold texts? at h
    split at h
    · refine ⟨_, _, _, rfl, (mapM_eq_some_iff.mp h).imp fun item s hitem => ?_⟩
      exact text?_eq_some_iff.mp hitem
    · cases h
  · rintro ⟨span, form, items, rfl, hitems⟩
    exact mapM_eq_some_iff.mpr (hitems.imp fun item s hitem => text?_eq_some_iff.mpr hitem)

theorem textFault?_eq_none_iff : v.textFault? expected = none ↔ ∃ s, v.IsText s := by
  simp [textFault?, ← text?_eq_some_iff, Option.isSome_iff_exists]

theorem textsFault?_eq_none_iff : v.textsFault? expected = none ↔ ∃ texts, v.IsTexts texts := by
  unfold textsFault?
  split
  · rename_i span form items
    rw [List.findSome?_eq_none_iff]
    simp only [textFault?_eq_none_iff, ← exists_forall₂_iff]
    constructor
    · rintro ⟨texts, htexts⟩
      exact ⟨texts, span, form, items, rfl, htexts⟩
    · rintro ⟨texts, _, _, _, heq, htexts⟩
      cases heq
      exact ⟨texts, htexts⟩
  · rename_i hform
    simp only [reduceCtorEq, false_iff, not_exists]
    rintro texts ⟨span, form, items, rfl, -⟩
    exact hform span form items rfl

end Value

/-! ## Numbers -/

/-- A scalar can be read at all: an integer fits into 128 bits, or into 64 where
values are kept for later, and a decimal is near to a floating-point number. -/
def Scalar.Readable (kept : Bool) : Scalar → Prop
  | .integer n => if kept then -2 ^ 63 ≤ n ∧ n < 2 ^ 64 else -2 ^ 127 ≤ n ∧ n < 2 ^ 128
  | .real x => x ≠ .outOfRange
  | _ => True

/-- Every number within a value can be read. -/
inductive Value.Readable (kept : Bool) : Value → Prop
  | scalar {span : Span} {s : Scalar} (h : s.Readable kept) : Readable kept (.scalar span s)
  | array {span : Span} {form : ArrayForm} {items : List Value}
      (h : ∀ v ∈ items, v.Readable kept) : Readable kept (.array span form items)
  | table {span : Span} {form : TableForm} {entries : List (String × Value)}
      (h : ∀ key v, (key, v) ∈ entries → v.Readable kept) :
      Readable kept (.table span form entries)

theorem scalarFault?_eq_none_iff {kept : Bool} {s : Scalar} :
    scalarFault? kept s = none ↔ s.Readable kept := by
  cases s with
  | integer n =>
      simp only [scalarFault?, Scalar.Readable, IntegerRange.of, Nat.shiftLeft_eq]
      norm_num
      cases kept <;> grind
  | real x => cases x <;> simp [scalarFault?, Scalar.Readable]
  | _ => simp [scalarFault?, Scalar.Readable]

mutual

theorem anyFault?_eq_none_iff (kept : Bool) : ∀ v : Value,
    anyFault? kept v = none ↔ v.Readable kept
  | .scalar span s => by
      rw [anyFault?, Option.map_eq_none_iff, scalarFault?_eq_none_iff]
      exact ⟨.scalar, fun h => by cases h; assumption⟩
  | .array span form items => by
      rw [anyFault?, anyFaultOfItems?_eq_none_iff kept items]
      exact ⟨.array, fun h => by cases h; assumption⟩
  | .table span form entries => by
      rw [anyFault?, anyFaultOfEntries?_eq_none_iff kept entries]
      exact ⟨.table, fun h => by cases h; assumption⟩

theorem anyFaultOfItems?_eq_none_iff (kept : Bool) : ∀ items : List Value,
    anyFaultOfItems? kept items = none ↔ ∀ v ∈ items, v.Readable kept
  | [] => by simp [anyFaultOfItems?]
  | v :: vs => by
      rw [anyFaultOfItems?, Option.or_eq_none_iff, anyFault?_eq_none_iff kept v,
        anyFaultOfItems?_eq_none_iff kept vs, List.forall_mem_cons]

theorem anyFaultOfEntries?_eq_none_iff (kept : Bool) : ∀ entries : List (String × Value),
    anyFaultOfEntries? kept entries = none ↔ ∀ key v, (key, v) ∈ entries → v.Readable kept
  | [] => by simp [anyFaultOfEntries?]
  | (key, v) :: rest => by
      rw [anyFaultOfEntries?, Option.or_eq_none_iff, anyFault?_eq_none_iff kept v,
        anyFaultOfEntries?_eq_none_iff kept rest]
      constructor
      · rintro ⟨hv, hrest⟩ k w hmem
        rcases List.mem_cons.mp hmem with heq | hmem
        · cases heq
          exact hv
        · exact hrest k w hmem
      · intro h
        exact ⟨h key v List.mem_cons_self, fun k w hmem => h k w (List.mem_cons_of_mem _ hmem)⟩

end

end Toml

namespace Config

open Toml

/-! ## The shape -/

/-- A value names a source: it is the text `builtin`, or a table whose `path` is
a text. -/
inductive IsSource : Value → EntrySource → Prop
  | builtin {span : Span} : IsSource (.scalar span (.text "builtin")) .builtin
  | library {span : Span} {form : TableForm} {t : Table} {v : Value} {path : String}
      (hpath : t.get? "path" = some v) (htext : v.IsText path) :
      IsSource (.table span form t) (.library ⟨path⟩)

/-- What a key that may be left out stands for. -/
inductive Optionally {α : Type} (t : Table) (key : String) (stands : Value → α → Prop) :
    Option α → Prop
  | absent (h : t.get? key = none) : Optionally t key stands none
  | present {v : Value} {a : α} (h : t.get? key = some v) (ha : stands v a) :
      Optionally t key stands (some a)

/-- The fields of an entry. -/
structure Fields (t : Table) (e : Entry) : Prop where
  name : ∃ v, t.get? "name" = some v ∧ v.IsText e.name
  display : Optionally t "display" Value.IsText e.display
  source : ∃ v, t.get? "source" = some v ∧ IsSource v e.source
  requiredKinds : Optionally t "required-kinds" Value.IsTexts e.requiredKinds
  samples : ∃ paths, Optionally t "samples" Value.IsTexts paths ∧
    e.samples = (paths.getD []).map Path.mk

/-- The fields that a value gives: those of a table, or the items of an array in
the order of the fields. -/
def fieldsOf? : Value → Option Table
  | .table _ _ entries => some entries
  | .array _ _ items => some (fieldNames.zip items)
  | .scalar _ _ => none

/-- A value describes an entry. -/
def Describes (v : Value) (e : Entry) : Prop := ∃ t, fieldsOf? v = some t ∧ Fields t e

/-- A document lists entries: its key `grammar` is absent, or is an array whose
items describe them. -/
inductive Lists (t : Table) : List Entry → Prop
  | absent (h : t.get? "grammar" = none) : Lists t []
  | items {span : Span} {form : ArrayForm} {items : List Value} {entries : List Entry}
      (h : t.get? "grammar" = some (.array span form items))
      (hitems : List.Forall₂ Describes items entries) : Lists t entries

/-- The numbers that an entry does not ask for can be read: those under other
keys, and those in its source. -/
structure FieldsReadable (t : Table) : Prop where
  other : ∀ key v, (key, v) ∈ t → key ∉ fieldNames → v.Readable false
  source : ∀ v, t.get? "source" = some v → v.Readable true

/-- The numbers that a config does not ask for can be read. -/
structure OthersReadable (t : Table) : Prop where
  other : ∀ key v, (key, v) ∈ t → key ≠ "grammar" → v.Readable false
  items : ∀ span form items, t.get? "grammar" = some (.array span form items) →
    ∀ v ∈ items, ∀ fields, fieldsOf? v = some fields → FieldsReadable fields

/-! ## Reading an entry -/

section

variable {v : Value} {t : Table} {e : Entry} {place : Span} {key : String}

theorem source?_eq_some_iff {s : EntrySource} : source? v = some s ↔ IsSource v s := by
  constructor
  · intro h
    unfold source? at h
    split at h
    · split at h
      · rename_i heq
        cases heq
        cases h
        exact .builtin
      · cases h
    · obtain ⟨path, hpath, rfl⟩ := Option.map_eq_some_iff.mp h
      obtain ⟨w, hw, htext⟩ := Option.bind_eq_some_iff.mp hpath
      exact .library hw (Value.text?_eq_some_iff.mp htext)
    · cases h
  · intro h
    cases h with
    | builtin => simp [source?]
    | library hpath htext => simp [source?, hpath, Value.text?_eq_some_iff.mpr htext]

/-- A value may stand under a key of an entry. -/
@[mk_iff]
structure FieldFits (key : String) (v : Value) : Prop where
  text : key = "name" ∨ key = "display" → ∃ s, v.IsText s
  source : key = "source" → v.Readable true ∧ ∃ s, IsSource v s
  texts : key = "required-kinds" ∨ key = "samples" → ∃ texts, v.IsTexts texts
  other : key ∉ fieldNames → v.Readable false

theorem sourceFault?_eq_none_iff :
    sourceFault? place v = none ↔ v.Readable true ∧ ∃ s, IsSource v s := by
  rw [← anyFault?_eq_none_iff]
  unfold sourceFault?
  split
  · rename_i hfault
    simp [hfault]
  · rename_i hfault
    simp [hfault, ← source?_eq_some_iff, Option.isSome_iff_exists]

/-- Nothing is wrong with the values that may stand under a key, and with no
others. -/
theorem fieldFault?_eq_none_iff : fieldFault? place key v = none ↔ FieldFits key v := by
  rw [fieldFits_iff]
  unfold fieldFault?
  split_ifs with htext hsource hkinds hsamples
  · rw [Value.textFault?_eq_none_iff]
    rcases htext with rfl | rfl <;> simp [fieldNames]
  · subst hsource
    simp [sourceFault?_eq_none_iff, fieldNames]
  · subst hkinds
    simp [Value.textsFault?_eq_none_iff, fieldNames]
  · subst hsamples
    simp [Value.textsFault?_eq_none_iff, fieldNames]
  · rw [anyFault?_eq_none_iff]
    simp_all [fieldNames]

/-- A key that may be left out, as the reader looks it up. -/
theorem optionally_iff {α : Type} {read : Value → Option α} {stands : Value → α → Prop}
    (hread : ∀ v a, read v = some a ↔ stands v a)
    (hshape : ∀ v, t.get? key = some v → ∃ a, stands v a) {found : Option α} :
    (t.get? key).bind read = found ↔ Optionally t key stands found := by
  constructor
  · rintro rfl
    cases hkey : t.get? key with
    | none => exact .absent hkey
    | some v =>
        obtain ⟨a, ha⟩ := hshape v hkey
        rw [Option.bind_some, (hread v a).mpr ha]
        exact .present hkey ha
  · intro h
    cases h with
    | absent hkey => simp [hkey]
    | present hkey ha => simp [hkey, (hread _ _).mpr ha]

/-- The entry of fields that fit. -/
theorem entryOf?_eq_some_iff (hfits : ∀ key v, t.get? key = some v → FieldFits key v) :
    entryOf? t = some e ↔ Fields t e := by
  have hdisplay : (t.get? "display").bind Value.text? = e.display ↔
      Optionally t "display" Value.IsText e.display :=
    optionally_iff (fun _ _ => Value.text?_eq_some_iff) fun v hv => (hfits _ v hv).text (.inr rfl)
  have hkinds : (t.get? "required-kinds").bind Value.texts? = e.requiredKinds ↔
      Optionally t "required-kinds" Value.IsTexts e.requiredKinds :=
    optionally_iff (fun _ _ => Value.texts?_eq_some_iff) fun v hv =>
      (hfits _ v hv).texts (.inl rfl)
  have hsamples {paths : Option (List String)} :
      (t.get? "samples").bind Value.texts? = paths ↔
      Optionally t "samples" Value.IsTexts paths :=
    optionally_iff (fun _ _ => Value.texts?_eq_some_iff) fun v hv =>
      (hfits _ v hv).texts (.inr rfl)
  simp only [entryOf?, Option.bind_eq_bind, Option.bind_eq_some_iff, Option.pure_def,
    Option.some.injEq, Value.text?_eq_some_iff, source?_eq_some_iff]
  constructor
  · rintro ⟨name, hname, source, hsource, rfl⟩
    exact ⟨hname, hdisplay.mp rfl, hsource, hkinds.mp rfl, _, hsamples.mp rfl, rfl⟩
  · rintro ⟨hname, hd, hsource, hk, paths, hs, hpaths⟩
    refine ⟨_, hname, _, hsource, ?_⟩
    rw [hdisplay.mpr hd, hkinds.mpr hk, hsamples.mpr hs, ← hpaths]

theorem Optionally.stands {α : Type} {stands : Value → α → Prop} {found : Option α}
    (h : Optionally t key stands found) (hv : t.get? key = some v) : ∃ a, stands v a := by
  cases h with
  | absent hkey => cases hkey.symm.trans hv
  | present hkey ha =>
      cases hkey.symm.trans hv
      exact ⟨_, ha⟩

/-- Fields that describe an entry, and in which all numbers can be read, fit. -/
theorem Fields.fits (h : Fields t e) (hreadable : FieldsReadable t)
    (hv : t.get? key = some v) : FieldFits key v where
  text := by
    rintro (rfl | rfl)
    · obtain ⟨w, hw, htext⟩ := h.name
      cases hw.symm.trans hv
      exact ⟨_, htext⟩
    · exact h.display.stands hv
  source := by
    rintro rfl
    obtain ⟨w, hw, hsource⟩ := h.source
    cases hw.symm.trans hv
    exact ⟨hreadable.source _ hv, _, hsource⟩
  texts := by
    rintro (rfl | rfl)
    · exact h.requiredKinds.stands hv
    · obtain ⟨paths, hpaths, -⟩ := h.samples
      exact hpaths.stands hv
  other := hreadable.other key v (Table.mem_of_get?_eq_some hv)

/-- Nothing is wrong with the fields of a table, and they give an entry, exactly
when they are those of the entry and the other numbers can be read. -/
theorem fields_iff (hkeys : (t.map Prod.fst).Nodup) (place : String × Value → Span) :
    (t.findSome? fun field => fieldFault? (place field) field.1 field.2) = none ∧
        entryOf? t = some e ↔ Fields t e ∧ FieldsReadable t := by
  rw [List.findSome?_eq_none_iff]
  simp only [fieldFault?_eq_none_iff]
  constructor
  · rintro ⟨hfits, hentry⟩
    have hfits' : ∀ key v, t.get? key = some v → FieldFits key v :=
      fun key v hv => hfits (key, v) (Table.mem_of_get?_eq_some hv)
    exact ⟨(entryOf?_eq_some_iff hfits').mp hentry,
      fun key v hmem => (hfits (key, v) hmem).other, fun v hv => ((hfits' _ v hv).source rfl).1⟩
  · rintro ⟨hfields, hreadable⟩
    have hfits : ∀ key v, t.get? key = some v → FieldFits key v :=
      fun key v hv => hfields.fits hreadable hv
    refine ⟨fun field hmem => ?_, (entryOf?_eq_some_iff hfits).mpr hfields⟩
    exact hfits field.1 field.2 ((Table.get?_eq_some_iff hkeys).mpr hmem)

/-- The fields of a value have no name twice. -/
theorem nodup_fields (hv : v.Ordered) (ht : fieldsOf? v = some t) :
    (t.map Prod.fst).Nodup := by
  cases v with
  | scalar => cases ht
  | array span form items =>
      cases ht
      exact (map_fst_zip_sublist fieldNames items).nodup (by decide)
  | table span form entries =>
      cases ht
      exact hv.entries.nodup_keys

/-- **Reading an entry.**  A value is read as an entry exactly when it describes
it and the other numbers in it can be read. -/
theorem readEntry_eq_ok_iff (hv : v.Ordered) :
    readEntry v = .ok e ↔ Describes v e ∧ ∀ t, fieldsOf? v = some t → FieldsReadable t := by
  cases v with
  | scalar span s =>
      have hfails : readEntry (.scalar span s) ≠ .ok e := by cases s <;> simp [readEntry]
      simp [hfails, Describes, fieldsOf?]
  | array span form items =>
      have hiff := fields_iff (e := e) (nodup_fields hv rfl) fun field =>
        if field.1 = "source" then span else field.2.span
      simp only [Describes, fieldsOf?, Option.some.injEq, exists_eq_left', forall_eq', ← hiff]
      unfold readEntry
      dsimp only
      cases List.findSome? _ (fieldNames.zip items) with
      | some fault => simp
      | none => cases entryOf? (fieldNames.zip items) <;> simp
  | table span form entries =>
      have hiff := fields_iff (e := e) (nodup_fields hv rfl) fun field => field.2.span
      simp only [Describes, fieldsOf?, Option.some.injEq, exists_eq_left', forall_eq', ← hiff]
      unfold readEntry
      dsimp only
      cases List.findSome? _ entries with
      | some fault => simp
      | none => cases entryOf? entries <;> simp

/-! ## Reading a document -/

variable {entries : List Entry}

/-- The items of an array are read as entries exactly when they describe them
and the other numbers in them can be read. -/
theorem forall₂_readEntry_iff {items : List Value} (hitems : ∀ v ∈ items, v.Ordered) :
    List.Forall₂ (fun v e => readEntry v = .ok e) items entries ↔
      List.Forall₂ Describes items entries ∧
        ∀ v ∈ items, ∀ fields, fieldsOf? v = some fields → FieldsReadable fields := by
  induction items generalizing entries with
  | nil => simp
  | cons v rest ih =>
      obtain ⟨hv, hrest⟩ := List.forall_mem_cons.mp hitems
      cases entries with
      | nil => simp
      | cons e entries =>
          rw [List.forall₂_cons, List.forall₂_cons, List.forall_mem_cons, ih hrest,
            readEntry_eq_ok_iff hv]
          exact and_and_and_comm

theorem readEntries_eq_ok_iff (hv : v.Ordered) :
    readEntries v = .ok entries ↔
      ∃ span form items, v = .array span form items ∧ List.Forall₂ Describes items entries ∧
        ∀ v ∈ items, ∀ fields, fieldsOf? v = some fields → FieldsReadable fields := by
  cases v with
  | scalar => simp [readEntries]
  | table => simp [readEntries]
  | array span form items =>
      rw [readEntries, mapM_eq_ok_iff, forall₂_readEntry_iff hv.items]
      simp

/-- What is wrong with the value of a key of a document. -/
def documentFault? (key : String) (v : Value) : Option Fault :=
  if key = "grammar" then
    match readEntries v with
    | .error fault => some fault
    | .ok _ => none
  else anyFault? false v

theorem documentFault?_eq_none_iff : documentFault? key v = none ↔
    (key = "grammar" → ∃ entries, readEntries v = .ok entries) ∧
      (key ≠ "grammar" → v.Readable false) := by
  unfold documentFault?
  split_ifs with hkey
  · cases readEntries v <;> simp [hkey]
  · simp [hkey, anyFault?_eq_none_iff]

theorem findSome?_documentFault?_eq_none_iff (ht : t.Ordered) :
    (t.findSome? fun entry => documentFault? entry.1 entry.2) = none ↔
      (∀ v, t.get? "grammar" = some v → ∃ entries, readEntries v = .ok entries) ∧
        ∀ key v, (key, v) ∈ t → key ≠ "grammar" → v.Readable false := by
  rw [List.findSome?_eq_none_iff]
  simp only [documentFault?_eq_none_iff]
  constructor
  · intro h
    exact ⟨fun v hv => (h _ (Table.mem_of_get?_eq_some hv)).1 rfl,
      fun key v hmem => (h (key, v) hmem).2⟩
  · rintro ⟨hgrammar, hother⟩ ⟨key, v⟩ hmem
    refine ⟨?_, hother key v hmem⟩
    rintro rfl
    exact hgrammar v ((Table.get?_eq_some_iff ht.nodup_keys).mpr hmem)

theorem Lists.readEntries_eq_ok (ht : t.Ordered) (h : Lists t entries)
    (hothers : OthersReadable t) (hv : t.get? "grammar" = some v) :
    readEntries v = .ok entries := by
  cases h with
  | absent hkey => cases hkey.symm.trans hv
  | items hkey hitems =>
      cases hkey.symm.trans hv
      exact (readEntries_eq_ok_iff (ht.of_get? hv)).mpr
        ⟨_, _, _, rfl, hitems, hothers.items _ _ _ hv⟩

/-- **Reading a document.**  The entries of a document are those that it lists,
if the other numbers in it can be read. -/
theorem ofTable_eq_ok_iff (ht : t.Ordered) :
    ofTable t = .ok entries ↔ Lists t entries ∧ OthersReadable t := by
  have hfault := findSome?_documentFault?_eq_none_iff ht
  -- The fault of a key is written out in the reader; `documentFault?` is its name here.
  unfold ofTable
  dsimp only
  constructor
  · intro h
    split at h
    · cases h
    · rename_i v hfound hkey
      obtain ⟨-, hother⟩ := hfault.mp hfound
      obtain ⟨span, form, items, rfl, hitems, hreadable⟩ :=
        (readEntries_eq_ok_iff (ht.of_get? hkey)).mp h
      refine ⟨.items hkey hitems, hother, fun _ _ _ hkey' => ?_⟩
      cases hkey.symm.trans hkey'
      exact hreadable
    · rename_i hfound hkey
      obtain ⟨-, hother⟩ := hfault.mp hfound
      cases h
      refine ⟨.absent hkey, hother, fun _ _ _ hkey' => ?_⟩
      cases hkey.symm.trans hkey'
  · rintro ⟨hlists, hothers⟩
    have hread := fun v => hlists.readEntries_eq_ok (v := v) ht hothers
    have hfound := hfault.mpr ⟨fun v hv => ⟨_, hread v hv⟩, hothers.other⟩
    split
    · rename_i hfault'
      cases hfound.symm.trans hfault'
    · rename_i v _ hkey
      exact hread v hkey
    · rename_i _ hkey
      cases hlists with
      | absent => rfl
      | items hkey' => cases hkey.symm.trans hkey'

end

/-! ## Reading a text -/

/-- The entries of a text are those that its document lists, if the other
numbers in it can be read. -/
theorem parse_eq_ok_iff {text : String} {entries : List Entry} :
    parse text = .ok entries ↔
      ∃ t, parse? text = some t ∧ Lists t entries ∧ OthersReadable t := by
  unfold parse
  cases hdocument : parse? text with
  | none => simp
  | some t =>
      simp only [Option.some.injEq, exists_eq_left', mapError_eq_ok]
      exact ofTable_eq_ok_iff (ordered_of_parse hdocument)

/-- A document that lists no entries is refused for its shape. -/
theorem parse_eq_shape {text : String} {t : Table} (hdocument : parse? text = some t)
    (h : ∀ entries, ¬ Lists t entries) : ∃ diagnostic, parse text = .error (.shape diagnostic) := by
  unfold parse
  rw [hdocument]
  dsimp only
  cases hentries : ofTable t with
  | error fault => exact ⟨_, rfl⟩
  | ok entries =>
      exact absurd ((ofTable_eq_ok_iff (ordered_of_parse hdocument)).mp hentries).1 (h entries)

/-- Each item of the array of a document that lists entries describes one. -/
theorem Lists.describes {t : Table} {entries : List Entry} (h : Lists t entries)
    {span : Span} {form : ArrayForm} {items : List Value}
    (hkey : t.get? "grammar" = some (.array span form items)) :
    ∀ v ∈ items, ∃ e, Describes v e := by
  cases h with
  | absent hnone => cases hnone.symm.trans hkey
  | items hkey' hitems =>
      cases hkey'.symm.trans hkey
      exact (exists_forall₂_iff _ _).mp ⟨_, hitems⟩

end Config

end GrammarAudit
