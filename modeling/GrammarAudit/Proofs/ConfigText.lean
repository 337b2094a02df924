import Mathlib
import GrammarAudit.Proofs.ValueText

/-!
# Writing a config

Every list of entries can be written as a config: each entry under a header of
its own, with a line for each field that it has.  Reading that text gives the
entries back.

* `render`: the text of some entries.
* `putAll_entries`, `PartOf.fields`: the fields of an entry in a table.
* `parse_render`: a written config is read as what was written.
-/

namespace GrammarAudit

/-! ## Tables of fields -/

namespace Toml

/-- Fields that are put into a table can be looked up there; nothing else
changes. -/
theorem putAll_entries {fields : List (String × Datum)} {entries : List (List Key × Value)}
    {t : Table} (hentries : List.Forall₂ EntryOf entries fields)
    (hnodup : (fields.map Prod.fst).Nodup) (hnew : ∀ field ∈ fields, t.get? field.1 = none) :
    ∃ t', t.putAll entries = some t' ∧
      (∀ field ∈ fields, ∃ v, t'.get? field.1 = some v ∧ field.2.Stands v) ∧
      (∀ key, key ∉ fields.map Prod.fst → t'.get? key = t.get? key) ∧
      ∀ key v, (key, v) ∈ t' → (key, v) ∈ t ∨ key ∈ fields.map Prod.fst := by
  induction hentries generalizing t with
  | nil => exact ⟨t, rfl, by simp, by simp, fun _ _ => .inl⟩
  | @cons entry field entries fields hentry hentries ih =>
      obtain ⟨keys, v⟩ := entry
      obtain ⟨⟨span, rfl⟩, hstands⟩ := hentry
      obtain ⟨hapart, hnodup'⟩ := List.nodup_cons.mp hnodup
      obtain ⟨hfirst, hrest⟩ := List.forall_mem_cons.mp hnew
      have hnew' : ∀ other ∈ fields, (t.set field.1 v).get? other.1 = none := by
        intro other hother
        have hne : other.1 ≠ field.1 := fun heq =>
          hapart (heq ▸ List.mem_map_of_mem hother)
        rw [Table.get?_set, if_neg hne]
        exact hrest other hother
      obtain ⟨t', hput, hfound, hother, hmem⟩ := ih hnodup' hnew'
      have hputFirst : t.put .dotted true [⟨span, field.1⟩] v = some (t.set field.1 v) := by
        simp [Table.put, hfirst]
      refine ⟨t', ?_, ?_, ?_, ?_⟩
      · simp only [Table.putAll, List.foldlM_cons, hputFirst, Option.bind_eq_bind,
          Option.bind_some]
        exact hput
      · refine List.forall_mem_cons.mpr ⟨⟨v, ?_, hstands⟩, hfound⟩
        rw [hother _ hapart, Table.get?_set, if_pos rfl]
      · intro key hkey
        rw [List.map_cons, List.mem_cons, not_or] at hkey
        rw [hother key hkey.2, Table.get?_set, if_neg hkey.1]
      · intro key w hw
        rcases hmem key w hw with hset | hkey
        · rcases Table.mem_set hset with heq | hold
          · cases heq
            exact .inr List.mem_cons_self
          · exact .inl hold
        · exact .inr (List.mem_cons_of_mem _ hkey)

end Toml

namespace Config

open Toml

/-! ## The text of a config -/

/-- What is written for a source. -/
def EntrySource.datum : EntrySource → Datum
  | builtin => .text "builtin"
  | library path => .path path.text

/-- What is written for an entry, under its keys. -/
def Entry.data (e : Entry) : List (String × Datum) :=
  [("name", .text e.name)] ++
    (e.display.toList.map fun display => ("display", .text display)) ++
    [("source", e.source.datum)] ++
    (e.requiredKinds.toList.map fun kinds => ("required-kinds", .texts kinds)) ++
    [("samples", .texts (e.samples.map Path.text))]

/-- The lines of an entry. -/
def entryLines (esc : Escaping) (e : Entry) : List Char :=
  '[' :: '[' :: ("grammar".toList ++ ']' :: ']' :: '\n' :: esc.lines e.data)

/-- The text of a config that lists some entries. -/
def render (esc : Escaping) (entries : List Entry) : String :=
  String.ofList (entries.flatMap (entryLines esc))

section

variable {e : Entry} {entries : List Entry}

theorem sublist_data : (e.data.map Prod.fst).Sublist fieldNames := by
  obtain ⟨name, display, source, requiredKinds, samples⟩ := e
  cases display <;> cases requiredKinds <;> simp [Entry.data, fieldNames]

theorem isBareKey_of_mem_data : ∀ field ∈ e.data, IsBareKey field.1 := by
  intro field hfield
  have hmem := sublist_data.subset (List.mem_map_of_mem hfield)
  have hbare : ∀ key ∈ fieldNames, IsBareKey key := by
    simp [fieldNames, IsBareKey, isKeyChar]
  exact hbare _ hmem

/-- A value that stands for a source is one, and has no numbers in it. -/
theorem EntrySource.stands {source : EntrySource} {v : Value} (h : source.datum.Stands v) :
    IsSource v source ∧ v.Readable true := by
  cases source with
  | builtin =>
      obtain ⟨span, rfl⟩ := h
      exact ⟨.builtin, .scalar trivial⟩
  | library path =>
      obtain ⟨span, form, w, rfl, inner, rfl⟩ := h
      refine ⟨.library rfl ⟨inner, rfl⟩, .table fun key v hmem => ?_⟩
      cases List.mem_singleton.mp hmem
      exact .scalar trivial

/-- A part of a document was read from the lines of an entry. -/
structure PartOf (s : Section) (e : Entry) : Prop where
  isElement : s.isElement = true
  keys : ∃ span, s.keys = [⟨span, "grammar"⟩]
  entries : List.Forall₂ EntryOf s.entries e.data

theorem optionally_of {α : Type} {t : Table} {key : String} {stands : Value → α → Prop}
    {found : Option α} (hnone : found = none → t.get? key = none)
    (hsome : ∀ a, found = some a → ∃ v, t.get? key = some v ∧ stands v a) :
    Optionally t key stands found := by
  cases found with
  | none => exact .absent (hnone rfl)
  | some a =>
      obtain ⟨v, hv, ha⟩ := hsome a rfl
      exact .present hv ha

/-- **The fields of an entry.**  What was read from the lines of an entry makes a
table that describes it. -/
theorem PartOf.fields {s : Section} (h : PartOf s e) :
    ∃ t, Table.putAll [] s.entries = some t ∧ Fields t e ∧ FieldsReadable t := by
  obtain ⟨t, hput, hfound, hother, hmem⟩ :=
    putAll_entries (t := []) h.entries (sublist_data.nodup (by decide)) (fun _ _ => rfl)
  refine ⟨t, hput, ?_, ?_⟩
  · constructor
    · exact hfound ("name", .text e.name) (by simp [Entry.data])
    · refine optionally_of (fun hnone => hother _ ?_) fun display hdisplay => ?_
      · simp [Entry.data, hnone]
      · exact hfound ("display", .text display) (by simp [Entry.data, hdisplay])
    · obtain ⟨v, hv, hstands⟩ := hfound ("source", e.source.datum) (by simp [Entry.data])
      exact ⟨v, hv, (EntrySource.stands hstands).1⟩
    · refine optionally_of (fun hnone => hother _ ?_) fun kinds hkinds => ?_
      · simp [Entry.data, hnone]
      · exact hfound ("required-kinds", .texts kinds) (by simp [Entry.data, hkinds])
    · obtain ⟨v, hv, hstands⟩ :=
        hfound ("samples", .texts (e.samples.map Path.text)) (by simp [Entry.data])
      refine ⟨some (e.samples.map Path.text), .present hv hstands, ?_⟩
      rw [Option.getD_some, List.map_map]
      exact (List.map_id _).symm
  · constructor
    · intro key v hv hkey
      rcases hmem key v hv with hv | hkey'
      · cases hv
      · exact absurd (sublist_data.subset hkey') hkey
    · intro v hv
      obtain ⟨w, hw, hstands⟩ := hfound ("source", e.source.datum) (by simp [Entry.data])
      cases hw.symm.trans hv
      exact (EntrySource.stands hstands).2

/-! ## Reading the text -/

variable (esc : Escaping)

theorem length_le_lines (fields : List (String × Datum)) :
    fields.length ≤ (esc.lines fields).length := by
  induction fields with
  | nil => simp
  | cons field rest ih =>
      simp only [Escaping.lines, List.flatMap_cons, List.length_cons, List.length_append,
        keyed] at ih ⊢
      omega

/-- Entries before a header, or before the end, belong together. -/
theorem sections_entries (entries : List (List Key × Value)) (lines : List Line) :
    sections (entries.map (fun entry => Line.entry entry.1 entry.2) ++ lines) =
      (entries ++ (sections lines).1, (sections lines).2) := by
  induction entries with
  | nil => rfl
  | cons entry rest ih => simp only [List.map_cons, List.cons_append, sections, ih]

/-- **The lines of a config.**  They are read as parts of a document, one for
each entry. -/
theorem readLines_entryLines (entries : List Entry) {fuel : Nat}
    (hfuel : (entries.flatMap (entryLines esc)).length < fuel) :
    ∃ lines parts, readLines fuel (entries.flatMap (entryLines esc)) = some lines ∧
      sections lines = ([], parts) ∧ List.Forall₂ PartOf parts entries := by
  -- The fuel counts lines.  It exceeds the characters, and every line has some, so
  -- what is left after the lines of one entry still exceeds those of the others.
  induction entries generalizing fuel with
  | nil =>
      obtain ⟨fuel, rfl⟩ : ∃ n, fuel = n + 1 := ⟨fuel - 1, by simp at hfuel; omega⟩
      exact ⟨[], [], rfl, rfl, .nil⟩
  | cons e rest ih =>
      have hdata := length_le_lines esc e.data
      have hchars : (e :: rest).flatMap (entryLines esc) =
          '[' :: '[' :: ("grammar".toList ++ ']' :: ']' :: '\n' ::
            (esc.lines e.data ++ rest.flatMap (entryLines esc))) := by
        simp [entryLines]
      rw [hchars] at hfuel ⊢
      simp only [List.length_cons, List.length_append] at hfuel
      obtain ⟨fuel, rfl⟩ : ∃ n, fuel = n + e.data.length + 1 :=
        ⟨fuel - e.data.length - 1, by omega⟩
      obtain ⟨lines, parts, hlines, hsections, hparts⟩ := @ih fuel (by omega)
      have hbare : IsBareKey "grammar" := by simp [IsBareKey, isKeyChar]
      obtain ⟨span, kspan, hheader⟩ :=
        readLine_header hbare ('\n' :: (esc.lines e.data ++ rest.flatMap (entryLines esc)))
      obtain ⟨entries, hentries, hread⟩ :=
        readLines_lines esc isBareKey_of_mem_data fuel (rest.flatMap (entryLines esc))
      refine ⟨.element span [⟨kspan, "grammar"⟩] ::
        (entries.map (fun entry => Line.entry entry.1 entry.2) ++ lines),
        ⟨span, true, [⟨kspan, "grammar"⟩], entries⟩ :: parts, ?_, ?_, .cons ?_ hparts⟩
      · rw [readLines_of_readLine rfl hheader, hread, hlines]
        rfl
      · simp only [sections, sections_entries, hsections, List.append_nil]
      · exact ⟨rfl, ⟨kspan, rfl⟩, hentries⟩

/-- An element that was read from the lines of an entry. -/
def ElementOf (v : Value) (e : Entry) : Prop :=
  ∃ span t, v = .table span .header t ∧ Fields t e ∧ FieldsReadable t

/-- The table of a document that lists some elements. -/
def elementsTable (span : Span) (items : List Value) : Table :=
  [("grammar", .array span .headers items)]

theorem PartOf.update_nil {s : Section} (h : PartOf s e) :
    ∃ span v, ElementOf v e ∧ Table.update s.value [] s.keys = some (elementsTable span [v]) := by
  obtain ⟨t, hput, hfields, hreadable⟩ := h.fields
  obtain ⟨kspan, hkeys⟩ := h.keys
  refine ⟨s.span, .table s.span .header t, ⟨s.span, t, rfl, hfields, hreadable⟩, ?_⟩
  rw [hkeys]
  simp only [Table.update, Section.value, h.isElement, hput]
  rfl

/-- A part adds its element to those of the parts before it. -/
theorem PartOf.update {s : Section} (h : PartOf s e) (span : Span) (items : List Value) :
    ∃ v, ElementOf v e ∧ Table.update s.value (elementsTable span items) s.keys =
      some (elementsTable span (items ++ [v])) := by
  obtain ⟨t, hput, hfields, hreadable⟩ := h.fields
  obtain ⟨kspan, hkeys⟩ := h.keys
  refine ⟨.table s.span .header t, ⟨s.span, t, rfl, hfields, hreadable⟩, ?_⟩
  rw [hkeys]
  simp only [Table.update, Section.value, h.isElement, hput]
  rfl

theorem foldlM_update {parts : List Section} (hparts : List.Forall₂ PartOf parts entries)
    (span : Span) (before : List Value) :
    ∃ items, List.Forall₂ ElementOf items entries ∧
      parts.foldlM (fun t s => Table.update s.value t s.keys) (elementsTable span before) =
        some (elementsTable span (before ++ items)) := by
  induction hparts generalizing before with
  | nil => exact ⟨[], .nil, by simp⟩
  | cons hpart _ ih =>
      obtain ⟨v, hv, hupdate⟩ := hpart.update span before
      obtain ⟨items, hitems, hrest⟩ := ih (before ++ [v])
      refine ⟨v :: items, .cons hv hitems, ?_⟩
      rw [List.foldlM_cons, hupdate, Option.bind_eq_bind, Option.bind_some, hrest,
        List.append_assoc, List.singleton_append]

/-- A document with the elements of some entries lists those entries. -/
theorem lists_elementsTable {span : Span} {items : List Value}
    (h : List.Forall₂ ElementOf items entries) :
    Lists (elementsTable span items) entries ∧ OthersReadable (elementsTable span items) := by
  have hdescribes : List.Forall₂ Describes items entries := by
    refine h.imp fun v e hv => ?_
    obtain ⟨_, t, rfl, hfields, -⟩ := hv
    exact ⟨t, rfl, hfields⟩
  have hreadable : ∀ v ∈ items, ∀ fields, fieldsOf? v = some fields → FieldsReadable fields := by
    intro v hv fields hfields
    obtain ⟨e, _, t, rfl, -, hreadable⟩ := (exists_forall₂_iff _ _).mp ⟨entries, h⟩ v hv
    cases hfields
    exact hreadable
  refine ⟨.items rfl hdescribes, ?_, ?_⟩
  · intro key v hv hkey
    cases List.mem_singleton.mp hv
    exact absurd rfl hkey
  · intro _ _ _ hkey
    cases hkey
    exact hreadable

/-- **A config reads as it was written.**  Reading the text of some entries gives
those entries, whatever texts are in them and however their characters are
escaped. -/
theorem parse_render (esc : Escaping) (entries : List Entry) :
    parse (render esc entries) = .ok entries := by
  obtain ⟨lines, parts, hlines, hsections, hparts⟩ :=
    readLines_entryLines esc entries (Nat.lt_succ_self _)
  have hdocument : parse? (render esc entries) =
      parts.foldlM (fun t s => Table.update s.value t s.keys) [] := by
    have hmark : dropMark (render esc entries).toList = entries.flatMap (entryLines esc) := by
      rw [render, String.toList_ofList]
      cases entries with
      | nil => rfl
      | cons e rest => rfl
    simp only [parse?, hmark, hlines, Option.bind_some, ofLines, hsections]
    rfl
  rw [parse_eq_ok_iff, hdocument]
  -- The first part makes the array, each of the others adds to it.
  cases hparts with
  | nil =>
      refine ⟨[], rfl, .absent rfl, fun key v hv => ?_, fun _ _ _ hkey => ?_⟩
      · cases hv
      · cases hkey
  | cons hpart hrest =>
      obtain ⟨span, v, hv, hfirst⟩ := hpart.update_nil
      obtain ⟨items, hitems, hupdates⟩ := foldlM_update hrest span [v]
      refine ⟨elementsTable span (v :: items), ?_, lists_elementsTable (.cons hv hitems)⟩
      rw [List.foldlM_cons, hfirst]
      exact hupdates

example : render .byNumber [⟨"a", some "\"A\"\n", .builtin, some [], []⟩,
    ⟨"b", none, .library ⟨"lib"⟩, none, [⟨"s"⟩, ⟨"t"⟩]⟩] =
      "[[grammar]]\nname = \"a\"\ndisplay = \"\\u0022A\\u0022\\u000a\"\nsource = \"builtin\"\n" ++
      "required-kinds = []\nsamples = []\n" ++
      "[[grammar]]\nname = \"b\"\nsource = \x7b path = \"lib\" \x7d\n" ++
      "samples = [\"s\", \"t\"]\n" := by
  cbv

end

end Config

end GrammarAudit
