import GrammarAudit.Proofs.MoreSamples

/-!
# How a grammar is called

An entry has a name and can have a display name; its provider has both, and so has
the handle that is made from the provider.  The name is the same throughout.  The
display name goes along for a library; the grammar that is linked in has one of its
own, whatever is configured.

* `provider_display`: how the provider of an entry is called.
* `names_of_entry_reach_handle`: all of this, and when the display name of an entry
  is the one that is shown.
* `linked_grammar_drops_display`: an entry of which it is not.
-/

namespace GrammarAudit.Config.Entry

/-- How the provider of an entry is called in messages: a library as the entry is,
the grammar that is linked in by its own display name. -/
theorem provider_display {w : World} {e : Entry} {p : Provider}
    (hp : (e.provider w).result = .ok p) :
    (∀ path, e.source = .library path → p.display = e.displayName) ∧
      (e.source = .builtin → p.display = "SCSS") := by
  rcases (provider_eq_ok_iff w e p).mp hp with
    ⟨hsource, -, rfl⟩ | ⟨path, file, object, hsource, -, -, rfl⟩
  · exact ⟨fun path hpath => by simp [hsource] at hpath, fun _ => rfl⟩
  · exact ⟨fun _ _ => rfl, fun hbuiltin => by simp [hsource] at hbuiltin⟩

/-- The grammar that is linked in is called as an entry says that gives it no other
display name. -/
theorem displayName_eq_linked_iff {e : Entry} (hname : e.name = "scss") :
    "SCSS" = e.displayName ↔ e.display = none ∨ e.display = some "SCSS" := by
  have hcapitals : Text.uppercase "scss" = "SCSS" := by decide +kernel
  rw [displayName, hname]
  cases e.display with
  | none => simp [hcapitals]
  | some display => simp [eq_comm]

/-- **Names reach the handle.**  Where an entry has a provider, this and every
handle made from it have the entry's name, and the handle is called in messages as
the provider is.  That is the display name of the entry for a library; for the
grammar that is linked in it is so exactly if the entry configures no other. -/
theorem names_of_entry_reach_handle {w : World} {e : Entry} {p : Provider}
    (hp : (e.provider w).result = .ok p) :
    p.name = e.name ∧
    (∀ path, e.source = .library path → p.display = e.displayName) ∧
    (e.source = .builtin → p.display = "SCSS" ∧
      (p.display = e.displayName ↔ e.display = none ∨ e.display = some "SCSS")) ∧
    ∀ h, (load p).result = .ok h → h.name = e.name ∧ h.display = p.display := by
  have hname := provider_name hp
  obtain ⟨hlibrary, hlinked⟩ := provider_display hp
  refine ⟨hname, hlibrary, fun hbuiltin => ⟨hlinked hbuiltin, ?_⟩, fun h hload => ?_⟩
  · rcases (provider_eq_ok_iff w e p).mp hp with ⟨-, hscss, -⟩ | ⟨path, _, _, hsource, -⟩
    · rw [hlinked hbuiltin, displayName_eq_linked_iff hscss]
    · simp [hbuiltin] at hsource
  · obtain ⟨hhandle, hdisplay⟩ := load_name_and_display hload
    exact ⟨hhandle.trans hname, hdisplay⟩

/-- The handle of a library is called as its entry says. -/
theorem library_takes_over_display :
    let language : Language := ⟨14, [], fun _ => none⟩
    let object : SharedObject := ⟨[("tree_sitter_m", some language)]⟩
    let e : Entry := ⟨"m", some "M (next)", .library ⟨"/m"⟩, none, []⟩
    let w : World := ⟨⟨.directory [("m", .file (.library object))], [], []⟩, ⟨[]⟩, language⟩
    ∃ p h, (e.provider w).result = .ok p ∧ (load p).result = .ok h ∧ h.name = "m" ∧
      h.display = "M (next)" := by
  intro language object e w
  let p : Provider := (SharedLibrary.mk "m" "M (next)" ⟨"/m"⟩ ⟨"/m"⟩ object).provider
  have hp : (e.provider w).result = .ok p := by rfl
  have hsymbol : object.symbol? (symbolName "m") = some (some language) := by
    have hname : symbolName "m" = "tree_sitter_m" := by decide
    simp [SharedObject.symbol?, object, hname]
  have hload : (load p).result = .ok ⟨language, "m", "M (next)", .library ⟨"/m"⟩⟩ :=
    (load_eq_ok_iff p _).mpr
      ⟨language, true, (descriptor_eq_ok_iff _ _).mpr ⟨_, hsymbol, rfl⟩, rfl, rfl⟩
  obtain ⟨-, hlibrary, -, hhandle⟩ := names_of_entry_reach_handle hp
  obtain ⟨hname, hdisplay⟩ := hhandle _ hload
  exact ⟨p, _, hp, hload, hname, hdisplay.trans (hlibrary ⟨"/m"⟩ rfl)⟩

/-- An entry calls the grammar that is linked in by a display name of its own;
neither the provider nor the handle takes it over. -/
theorem linked_grammar_drops_display :
    let e : Entry := ⟨"scss", some "Sass", .builtin, none, []⟩
    let w : World := ⟨.empty [], ⟨[]⟩, ⟨14, [], fun _ => none⟩⟩
    ∃ p h, (e.provider w).result = .ok p ∧ (load p).result = .ok h ∧ e.displayName = "Sass" ∧
      p.display ≠ e.displayName ∧ h.display ≠ e.displayName := by
  intro e w
  refine ⟨w.linkedProvider, ⟨w.linked, "scss", "SCSS", .builtin "scss"⟩, rfl, rfl, rfl, ?_, ?_⟩
  · decide
  · decide

end GrammarAudit.Config.Entry
