import Mathlib
import GrammarAudit.Toml.Document

/-!
# The keys of a document

Whatever a text says twice makes it no document, so a key leads to one value.
In the table of a document, and in every table within it, the keys ascend
strictly; an entry of a table is then what looking up its key gives.

* `Value.Ordered`: every table within a value has strictly ascending keys.
* `ordered_readValue`: a value that is read is ordered.
* `ordered_put`, `ordered_update`: what lines add keeps a table ordered.
* `ordered_of_parse`: the table of a document is ordered.
* `Table.Ordered.get?_eq_some_iff`: looking up a key finds its only entry.
-/

namespace GrammarAudit.Toml

/-- Every table within a value has strictly ascending keys. -/
inductive Value.Ordered : Value → Prop
  | scalar (span : Span) (s : Scalar) : Ordered (.scalar span s)
  | array {span : Span} {form : ArrayForm} {items : List Value}
      (hitems : ∀ v ∈ items, v.Ordered) : Ordered (.array span form items)
  | table {span : Span} {form : TableForm} {entries : List (String × Value)}
      (hkeys : (entries.map Prod.fst).Pairwise (· < ·))
      (hvalues : ∀ key v, (key, v) ∈ entries → v.Ordered) : Ordered (.table span form entries)

/-- A table, and every table within it, has strictly ascending keys. -/
structure Table.Ordered (t : Table) : Prop where
  keys : (t.map Prod.fst).Pairwise (· < ·)
  values : ∀ key v, (key, v) ∈ t → v.Ordered

namespace Value.Ordered

variable {span : Span}

theorem items {form : ArrayForm} {items : List Value} (h : Ordered (.array span form items)) :
    ∀ v ∈ items, v.Ordered := by
  cases h with
  | array hitems => exact hitems

theorem entries {form : TableForm} {t : Table} (h : Ordered (.table span form t)) :
    t.Ordered := by
  cases h with
  | table hkeys hvalues => exact ⟨hkeys, hvalues⟩

end Value.Ordered

namespace Table

variable {t t' : Table} {key k : String} {v w : Value}

theorem Ordered.table (h : t.Ordered) (span : Span) (form : TableForm) :
    Value.Ordered (.table span form t) := .table h.keys h.values

theorem ordered_nil : Ordered [] := ⟨List.Pairwise.nil, by simp⟩

/-- A lookup finds an entry. -/
theorem mem_of_get?_eq_some (h : t.get? key = some v) : (key, v) ∈ t := by
  obtain ⟨before, after, rfl, -⟩ := List.lookup_eq_some_iff.mp h
  simp

theorem Ordered.of_get? (h : t.Ordered) (hv : t.get? key = some v) : v.Ordered :=
  h.values key v (mem_of_get?_eq_some hv)

/-- Setting a key adds an entry at most. -/
theorem mem_set (h : (k, w) ∈ t.set key v) : (k, w) = (key, v) ∨ (k, w) ∈ t := by
  induction t with
  | nil => simpa [set] using h
  | cons entry rest ih =>
      obtain ⟨k', w'⟩ := entry
      unfold set at h
      split at h
      · simpa using h
      · split at h
        · rcases List.mem_cons.mp h with h | h
          · exact .inl h
          · exact .inr (List.mem_cons_of_mem _ h)
        · rcases List.mem_cons.mp h with h | h
          · exact .inr (h ▸ List.mem_cons_self)
          · exact (ih h).imp id (List.mem_cons_of_mem _)

theorem mem_keys_set (h : k ∈ (t.set key v).map Prod.fst) : k = key ∨ k ∈ t.map Prod.fst := by
  obtain ⟨⟨k, w⟩, hmem, rfl⟩ := List.mem_map.mp h
  exact (mem_set hmem).imp (congrArg Prod.fst) fun hold => List.mem_map_of_mem hold

/-- Setting a key keeps the order of the keys. -/
theorem keys_set (h : (t.map Prod.fst).Pairwise (· < ·)) :
    ((t.set key v).map Prod.fst).Pairwise (· < ·) := by
  induction t with
  | nil => simp [set]
  | cons entry rest ih =>
      obtain ⟨k, w⟩ := entry
      obtain ⟨hfirst, hrest⟩ := List.pairwise_cons.mp h
      unfold set
      split
      · rename_i hbefore
        refine List.pairwise_cons.mpr ⟨fun other hother => ?_, h⟩
        rcases List.mem_cons.mp hother with rfl | hother
        · exact hbefore
        · exact String.lt_trans hbefore (hfirst other hother)
      · rename_i hbefore
        split
        · rename_i hsame
          subst hsame
          exact h
        · rename_i hdifferent
          have hafter : k < key := by grind
          refine List.pairwise_cons.mpr ⟨fun other hother => ?_, ih hrest⟩
          rcases mem_keys_set hother with rfl | hother
          · exact hafter
          · exact hfirst other hother

theorem Ordered.set (h : t.Ordered) (hv : v.Ordered) : (t.set key v).Ordered where
  keys := keys_set h.keys
  values k w hmem := by
    rcases mem_set hmem with hnew | hold
    · cases hnew
      exact hv
    · exact h.values k w hold

/-- **One entry for a key.**  In a table without a key twice, an entry is what
looking up its key gives. -/
theorem get?_eq_some_iff (h : (t.map Prod.fst).Nodup) : t.get? key = some v ↔ (key, v) ∈ t := by
  refine ⟨mem_of_get?_eq_some, fun hmem => ?_⟩
  obtain ⟨before, after, rfl⟩ := List.append_of_mem hmem
  refine List.lookup_eq_some_iff.mpr ⟨before, after, rfl, fun entry hentry => ?_⟩
  have hapart : entry.1 ≠ key := by
    rw [List.map_append] at h
    have hdisjoint := (List.nodup_append.mp h).2.2
    exact hdisjoint _ (List.mem_map_of_mem hentry) key (by simp)
  simpa using hapart.symm

theorem Ordered.nodup_keys (h : t.Ordered) : (t.map Prod.fst).Nodup := by
  refine h.keys.imp ?_
  rintro a b hlt rfl
  exact String.lt_irrefl a hlt

theorem get?_cons {t : Table} {key k : String} {v : Value} :
    Table.get? ((k, v) :: t) key = if key = k then some v else t.get? key := by
  unfold Table.get?
  rw [List.lookup_cons]
  split <;> simp_all

theorem get?_set (t : Table) (key k : String) (v : Value) :
    (t.set k v).get? key = if key = k then some v else t.get? key := by
  induction t with
  | nil => exact get?_cons
  | cons entry rest ih =>
      obtain ⟨k', v'⟩ := entry
      unfold Table.set
      split
      · exact get?_cons
      · split
        · rename_i hsame
          subst hsame
          rw [get?_cons, get?_cons]
          split <;> rfl
        · rename_i hdifferent
          rw [get?_cons, get?_cons, ih]
          grind

end Table

/-! ## Adding to tables -/

/-- The items of an array with the last one replaced stay ordered. -/
theorem ordered_replaceLast {items : List Value} {last : Value}
    (h : ∀ v ∈ items, v.Ordered) (hlast : last.Ordered) :
    ∀ v ∈ items.dropLast ++ [last], v.Ordered := by
  intro v hv
  rcases List.mem_append.mp hv with hv | hv
  · exact h v (List.mem_of_mem_dropLast hv)
  · exact List.mem_singleton.mp hv ▸ hlast

/-- A table below a key is changed. -/
theorem Table.Ordered.set_below {t below below' : Table} {key : String} {span : Span}
    {form : TableForm} (ht : t.Ordered) (hold : t.get? key = some (.table span form below))
    (hstep : below.Ordered → below'.Ordered) : (t.set key (.table span form below')).Ordered :=
  ht.set ((hstep (ht.of_get? hold).entries).table _ _)

/-- The last table of the array below a key is changed. -/
theorem Table.Ordered.set_last {t below below' : Table} {key : String} {span inner : Span}
    {form : ArrayForm} {tableForm : TableForm} {items : List Value} (ht : t.Ordered)
    (hold : t.get? key = some (.array span form items))
    (hlast : items.getLast? = some (.table inner tableForm below))
    (hstep : below.Ordered → below'.Ordered) :
    (t.set key (.array span form (items.dropLast ++ [.table inner tableForm below']))).Ordered := by
  have hitems := (ht.of_get? hold).items
  have hbelow := (hitems _ (List.mem_of_getLast? hlast)).entries
  exact ht.set (.array (ordered_replaceLast hitems ((hstep hbelow).table _ _)))

/-- What is put into a table keeps it ordered. -/
theorem Table.ordered_put {form : TableForm} {here : Bool} {t t' : Table} {keys : List Key}
    {v : Value} (ht : t.Ordered) (hv : v.Ordered) (h : t.put form here keys v = some t') :
    t'.Ordered := by
  -- Along the key: what is put lower down leaves an ordered table, which is then set.
  induction keys generalizing here t t' with
  | nil => simp [Table.put] at h
  | cons key keys ih =>
      cases keys with
      | nil =>
          unfold Table.put at h
          split at h
          · split at h
            · cases h
            · cases h
              exact ht.set hv
          · cases h
      | cons next keys =>
          unfold Table.put at h
          split at h
          · obtain ⟨below, hput, rfl⟩ := Option.map_eq_some_iff.mp h
            exact ht.set ((ih Table.ordered_nil hput).table _ _)
          all_goals try rename_i hold
          · obtain ⟨below, hput, rfl⟩ := Option.map_eq_some_iff.mp h
            exact ht.set_below hold fun hbelow => ih hbelow hput
          · obtain ⟨below, hput, rfl⟩ := Option.map_eq_some_iff.mp h
            exact ht.set_below hold fun hbelow => ih hbelow hput
          · obtain ⟨below, hput, rfl⟩ := Option.map_eq_some_iff.mp h
            exact ht.set_below hold fun hbelow => ih hbelow hput
          · split at h
            · rename_i hlast
              obtain ⟨below, hput, rfl⟩ := Option.map_eq_some_iff.mp h
              exact ht.set_last hold hlast fun hbelow => ih hbelow hput
            · cases h
          · cases h

/-- Entries that are put into a table keep it ordered. -/
theorem Table.ordered_putAll {t t' : Table} {entries : List (List Key × Value)}
    (ht : t.Ordered) (hentries : ∀ keys v, (keys, v) ∈ entries → v.Ordered)
    (h : t.putAll entries = some t') : t'.Ordered := by
  induction entries generalizing t with
  | nil =>
      cases h
      exact ht
  | cons entry rest ih =>
      obtain ⟨keys, v⟩ := entry
      simp only [Table.putAll, List.foldlM_cons, Option.bind_eq_bind,
        Option.bind_eq_some_iff] at h
      obtain ⟨next, hput, hrest⟩ := h
      have hnext := ordered_put ht (hentries keys v List.mem_cons_self) hput
      exact ih hnext (fun keys v hmem => hentries keys v (List.mem_cons_of_mem _ hmem)) hrest

/-- What a header changes keeps a table ordered, if what stands under the header
is ordered then. -/
theorem Table.ordered_update {f : Option Value → Option Value}
    (hf : ∀ old v, (∀ w, old = some w → w.Ordered) → f old = some v → v.Ordered)
    {t t' : Table} {keys : List Key} (ht : t.Ordered) (h : t.update f keys = some t') :
    t'.Ordered := by
  induction keys generalizing t t' with
  | nil => simp [Table.update] at h
  | cons key keys ih =>
      cases keys with
      | nil =>
          obtain ⟨v, hv, rfl⟩ := Option.map_eq_some_iff.mp h
          exact ht.set (hf _ v (fun w hw => ht.of_get? hw) hv)
      | cons next keys =>
          unfold Table.update at h
          split at h
          · obtain ⟨below, hupdate, rfl⟩ := Option.map_eq_some_iff.mp h
            exact ht.set ((ih Table.ordered_nil hupdate).table _ _)
          · rename_i hold
            split at h
            · cases h
            · obtain ⟨below, hupdate, rfl⟩ := Option.map_eq_some_iff.mp h
              exact ht.set_below hold fun hbelow => ih hbelow hupdate
          · rename_i hold
            split at h
            · rename_i hlast
              obtain ⟨below, hupdate, rfl⟩ := Option.map_eq_some_iff.mp h
              exact ht.set_last hold hlast fun hbelow => ih hbelow hupdate
            · cases h
          · cases h

/-! ## Reading values -/

/-- A scalar that is read is ordered, having no tables in it. -/
theorem ordered_readScalar {cs rest : List Char} {v : Value}
    (h : readScalar cs = some (v, rest)) : v.Ordered := by
  unfold readScalar at h
  split at h <;>
  · obtain ⟨read, -, heq⟩ := Option.map_eq_some_iff.mp h
    cases heq
    exact .scalar _ _

section

variable {fuel depth : Nat}

/-- The values of an array are ordered, if every value below it is. -/
theorem ordered_readItems
    (hvalue : ∀ cs v rest, readValue fuel depth cs = some (v, rest) → v.Ordered)
    {count : Nat} {cs rest : List Char} {items : List Value}
    (h : readItems fuel depth count cs = some (items, rest)) : ∀ v ∈ items, v.Ordered := by
  induction count generalizing cs items with
  | zero => simp [readItems] at h
  | succ count ih =>
      unfold readItems at h
      split at h
      · cases h
      · cases h
        simp
      · rename_i hcount _
        cases hcount
        obtain ⟨⟨v, r⟩, hv, h⟩ := Option.bind_eq_some_iff.mp h
        obtain ⟨r', -, h⟩ := Option.bind_eq_some_iff.mp h
        have hordered := hvalue _ v r hv
        split at h
        · obtain ⟨_, -, h⟩ := Option.bind_eq_some_iff.mp h
          obtain ⟨⟨vs, rest'⟩, hvs, heq⟩ := Option.map_eq_some_iff.mp h
          cases heq
          exact List.forall_mem_cons.mpr ⟨hordered, ih hvs⟩
        · cases h
          simpa using hordered
        · cases h

/-- The entries of a table between braces are ordered, if every value below it
is. -/
theorem ordered_readEntries
    (hvalue : ∀ cs v rest, readValue fuel depth cs = some (v, rest) → v.Ordered)
    {count : Nat} {cs rest : List Char} {t t' : Table} (ht : t.Ordered)
    (h : readEntries fuel depth count t cs = some (t', rest)) : t'.Ordered := by
  induction count generalizing cs t with
  | zero => simp [readEntries] at h
  | succ count ih =>
      unfold readEntries at h
      split at h
      · cases h
      · cases h
        exact ht
      · rename_i hcount _
        cases hcount
        obtain ⟨⟨keys, r⟩, -, h⟩ := Option.bind_eq_some_iff.mp h
        dsimp only at h
        split at h
        · obtain ⟨⟨v, r'⟩, hv, h⟩ := Option.bind_eq_some_iff.mp h
          obtain ⟨added, hput, h⟩ := Option.bind_eq_some_iff.mp h
          obtain ⟨_, -, h⟩ := Option.bind_eq_some_iff.mp h
          have hadded := Table.ordered_put ht (hvalue _ v r' hv) hput
          split at h
          · obtain ⟨_, -, h⟩ := Option.bind_eq_some_iff.mp h
            exact ih hadded h
          · cases h
            exact hadded
          · cases h
        · cases h

/-- **Values are ordered.**  Every table within a value that is read has
strictly ascending keys. -/
theorem ordered_readValue {cs rest : List Char} {v : Value}
    (h : readValue fuel depth cs = some (v, rest)) : v.Ordered := by
  -- The items of an array and the entries of a table are read one level deeper,
  -- and their own loops run on a count of their own.
  induction depth generalizing cs v rest with
  | zero =>
      unfold readValue at h
      split at h
      · cases h
      · cases h
      · exact ordered_readScalar h
  | succ depth ih =>
      have hvalue : ∀ cs v rest, readValue fuel depth cs = some (v, rest) → v.Ordered :=
        fun _ _ _ => ih
      unfold readValue at h
      split at h
      · obtain ⟨r, -, h⟩ := Option.bind_eq_some_iff.mp h
        obtain ⟨⟨items, rest'⟩, hitems, heq⟩ := Option.map_eq_some_iff.mp h
        cases heq
        exact .array (ordered_readItems hvalue hitems)
      · obtain ⟨r, -, h⟩ := Option.bind_eq_some_iff.mp h
        obtain ⟨⟨entries, rest'⟩, hentries, heq⟩ := Option.map_eq_some_iff.mp h
        cases heq
        exact (ordered_readEntries hvalue Table.ordered_nil hentries).table _ _
      · exact ordered_readScalar h

end

/-! ## Reading documents -/

/-- The value that a line adds, if it adds one, is ordered. -/
def Line.Ordered : Line → Prop
  | .entry _ v => v.Ordered
  | .table _ _ | .element _ _ => True

theorem ordered_readHeader {start : Nat} {isElement : Bool} {cs rest : List Char} {line : Line}
    (h : readHeader start isElement cs = some (line, rest)) : line.Ordered := by
  obtain ⟨⟨keys, r⟩, -, h⟩ := Option.bind_eq_some_iff.mp h
  dsimp only at h
  split at h
  · cases h
    trivial
  · cases h
    trivial
  · cases h

theorem ordered_readLine {cs rest : List Char} {line : Line}
    (h : readLine cs = some (line, rest)) : line.Ordered := by
  unfold readLine at h
  split at h
  · exact ordered_readHeader h
  · exact ordered_readHeader h
  · obtain ⟨⟨keys, r⟩, -, h⟩ := Option.bind_eq_some_iff.mp h
    dsimp only at h
    split at h
    · obtain ⟨⟨v, rest'⟩, hv, heq⟩ := Option.map_eq_some_iff.mp h
      cases heq
      exact ordered_readValue hv
    · cases h

theorem ordered_readLines {fuel : Nat} {cs : List Char} {lines : List Line}
    (h : readLines fuel cs = some lines) : ∀ line ∈ lines, line.Ordered := by
  induction fuel generalizing cs lines with
  | zero => simp [readLines] at h
  | succ fuel ih =>
      obtain ⟨r, -, h⟩ := Option.bind_eq_some_iff.mp h
      dsimp only at h
      split at h
      · cases h
        simp
      · obtain ⟨⟨line, r'⟩, hline, h⟩ := Option.bind_eq_some_iff.mp h
        obtain ⟨_, -, h⟩ := Option.bind_eq_some_iff.mp h
        obtain ⟨rest, hrest, rfl⟩ := Option.map_eq_some_iff.mp h
        exact List.forall_mem_cons.mpr ⟨ordered_readLine hline, ih hrest⟩

/-- The values of the entries of a document, and of its parts, come from its
lines. -/
theorem ordered_sections {lines : List Line} (h : ∀ line ∈ lines, line.Ordered) :
    (∀ keys v, (keys, v) ∈ (sections lines).1 → v.Ordered) ∧
      ∀ s ∈ (sections lines).2, ∀ keys v, (keys, v) ∈ s.entries → v.Ordered := by
  induction lines with
  | nil => simp [sections]
  | cons line rest ih =>
      obtain ⟨hline, hrest⟩ := List.forall_mem_cons.mp h
      obtain ⟨hentries, hparts⟩ := ih hrest
      cases line with
      | entry keys v =>
          refine ⟨fun keys' v' hmem => ?_, hparts⟩
          rcases List.mem_cons.mp hmem with heq | hmem
          · cases heq
            exact hline
          · exact hentries keys' v' hmem
      | table span keys =>
          refine ⟨by simp [sections], fun s hs => ?_⟩
          rcases List.mem_cons.mp hs with rfl | hs
          · exact hentries
          · exact hparts s hs
      | element span keys =>
          refine ⟨by simp [sections], fun s hs => ?_⟩
          rcases List.mem_cons.mp hs with rfl | hs
          · exact hentries
          · exact hparts s hs

/-- What stands under a header is ordered, if what stood there before was. -/
theorem Section.ordered_value {s : Section} {old : Option Value} {v : Value}
    (hs : ∀ keys v, (keys, v) ∈ s.entries → v.Ordered) (hold : ∀ w, old = some w → w.Ordered)
    (h : s.value old = some v) : v.Ordered := by
  unfold Section.value at h
  split at h
  · obtain ⟨entries, hput, h⟩ := Option.bind_eq_some_iff.mp h
    have helement := (Table.ordered_putAll Table.ordered_nil hs hput).table s.span .header
    dsimp only at h
    split at h
    · cases h
      exact .array (by simpa using helement)
    · cases h
      refine .array fun w hw => ?_
      rcases List.mem_append.mp hw with hw | hw
      · exact (hold _ rfl).items w hw
      · exact List.mem_singleton.mp hw ▸ helement
    · cases h
  · split at h
    · obtain ⟨entries, hput, rfl⟩ := Option.map_eq_some_iff.mp h
      exact (Table.ordered_putAll Table.ordered_nil hs hput).table _ _
    · obtain ⟨entries, hput, rfl⟩ := Option.map_eq_some_iff.mp h
      exact (Table.ordered_putAll (hold _ rfl).entries hs hput).table _ _
    · cases h

/-- The parts of a document keep its table ordered. -/
theorem ordered_foldlM_update {parts : List Section} {t t' : Table}
    (hparts : ∀ s ∈ parts, ∀ keys v, (keys, v) ∈ s.entries → v.Ordered) (ht : t.Ordered)
    (h : parts.foldlM (fun t s => Table.update s.value t s.keys) t = some t') : t'.Ordered := by
  induction parts generalizing t with
  | nil =>
      cases h
      exact ht
  | cons s rest ih =>
      obtain ⟨hs, hrest⟩ := List.forall_mem_cons.mp hparts
      simp only [List.foldlM_cons, Option.bind_eq_bind, Option.bind_eq_some_iff] at h
      obtain ⟨next, hupdate, h⟩ := h
      have hnext := Table.ordered_update (fun _ _ => s.ordered_value hs) ht hupdate
      exact ih hrest hnext h

/-- **The keys of a document ascend.**  No table of a document has a key
twice. -/
theorem ordered_of_parse {text : String} {t : Table} (h : parse? text = some t) : t.Ordered := by
  obtain ⟨lines, hlines, h⟩ := Option.bind_eq_some_iff.mp h
  obtain ⟨hentries, hparts⟩ := ordered_sections (ordered_readLines hlines)
  obtain ⟨start, hput, h⟩ := Option.bind_eq_some_iff.mp h
  exact ordered_foldlM_update hparts (Table.ordered_putAll Table.ordered_nil hentries hput) h

end GrammarAudit.Toml
