import Mathlib
import GrammarAudit.Proofs.ConfigPaths
import GrammarAudit.Proofs.PathSteps

/-!
# One config under a relative and an absolute path

A config can be loaded under a path from the current directory, or under the
absolute path that this stands for.  The directory part of the path is all that
a load puts into the entries, and the two directory parts have the same steps
below the current directory.  So the entries differ in the texts of their paths
only, and a path of the one list is, from the current directory, the path of the
other.

* `parent?_of_readText`: a path under which a file is read has a parent.
* `Entry.Corresponds`: two entries are the same but for their paths.
* `components_resolvePath_join`: the paths of the two lists are the same.
* `loads_of_config_agree`: the entries of the two loads.
-/

namespace GrammarAudit.Config

open FileSystem GrammarAudit.Path

/-- Two sources are both linked in, or libraries at paths in some relation. -/
inductive EntrySource.Corresponds (R : Path → Path → Prop) : EntrySource → EntrySource → Prop
  | builtin : Corresponds R .builtin .builtin
  | library {p q : Path} (h : R p q) : Corresponds R (.library p) (.library q)

/-- Two entries are the same but for their paths, which are in some relation one
by one. -/
structure Entry.Corresponds (R : Path → Path → Prop) (e f : Entry) : Prop where
  name : e.name = f.name
  display : e.display = f.display
  source : e.source.Corresponds R f.source
  requiredKinds : e.requiredKinds = f.requiredKinds
  samples : List.Forall₂ R e.samples f.samples

/-- An absolute path is not resolved any further. -/
theorem resolvePath_of_isAbsolute (base : Path) {p : Path} (hp : p.isAbsolute = true) :
    resolvePath base p = p := by
  simp [resolvePath, isRelative, hp]

/-- From an absolute directory a path is resolved to an absolute one. -/
theorem isAbsolute_resolvePath {base : Path} (hbase : base.isAbsolute = true) (p : Path) :
    (resolvePath base p).isAbsolute = true := by
  rcases resolvePath_cases base p with ⟨habsolute, hresolve⟩ | ⟨hrelative, hresolve⟩
  · rw [hresolve, habsolute]
  · rw [hresolve, isAbsolute_join base hrelative, hbase]

/-- From the empty path a path is resolved to itself. -/
theorem resolvePath_empty (p : Path) : resolvePath ⟨""⟩ p = p := by
  rcases resolvePath_cases ⟨""⟩ p with ⟨-, hresolve⟩ | ⟨hrelative, hresolve⟩
  · exact hresolve
  · have htext : ((Path.mk "").join p).text = p.text := by
      rw [← String.toList_inj, join_toList _ hrelative]
      simp [gap]
    rw [hresolve]
    exact congrArg Path.mk htext

namespace Entry

/-- From the empty path an entry is resolved to itself. -/
theorem resolve_empty (e : Entry) : e.resolve ⟨""⟩ = e := by
  obtain ⟨name, display, source, requiredKinds, samples⟩ := e
  have hsamples : samples.map (resolvePath ⟨""⟩) = samples :=
    (List.map_congr_left fun p _ => resolvePath_empty p).trans (List.map_id' samples)
  cases source with
  | builtin => simp [resolve, EntrySource.resolve, hsamples]
  | library path => simp [resolve, EntrySource.resolve, resolvePath_empty, hsamples]

/-- An entry that was resolved from an absolute directory is not resolved any
further. -/
theorem resolve_resolve {base : Path} (hbase : base.isAbsolute = true) (other : Path) (e : Entry) :
    (e.resolve base).resolve other = e.resolve base := by
  have hpath : ∀ p, resolvePath other (resolvePath base p) = resolvePath base p := fun p =>
    resolvePath_of_isAbsolute other (isAbsolute_resolvePath hbase p)
  obtain ⟨name, display, source, requiredKinds, samples⟩ := e
  cases source with
  | builtin => simp [resolve, EntrySource.resolve, hpath]
  | library path => simp [resolve, EntrySource.resolve, hpath]

/-- **Resolving touches only paths.**  What is true of each path that is
resolved from two directories is true of the paths of an entry that is. -/
theorem corresponds_resolve {R : Path → Path → Prop} {base base' : Path}
    (hR : ∀ p, R (resolvePath base p) (resolvePath base' p)) (e : Entry) :
    (e.resolve base).Corresponds R (e.resolve base') := by
  refine ⟨rfl, rfl, ?_, rfl, ?_⟩
  · obtain ⟨name, display, source, requiredKinds, samples⟩ := e
    cases source with
    | builtin => exact .builtin
    | library path => exact .library (hR path)
  · show List.Forall₂ R (e.samples.map (resolvePath base)) (e.samples.map (resolvePath base'))
    rw [List.forall₂_map_left_iff, List.forall₂_map_right_iff, List.forall₂_same]
    intro p _
    exact hR p

end Entry

/-- The same of all entries of a config. -/
theorem forall₂_corresponds_resolve {R : Path → Path → Prop} {base base' : Path}
    (hR : ∀ p, R (resolvePath base p) (resolvePath base' p)) (entries : List Entry) :
    List.Forall₂ (Entry.Corresponds R) (entries.map (Entry.resolve base))
      (entries.map (Entry.resolve base')) := by
  rw [List.forall₂_map_left_iff, List.forall₂_map_right_iff, List.forall₂_same]
  intro e _
  exact e.corresponds_resolve hR

/-- What is true of each path and what it is resolved to is true of the paths of
a config and of its resolved entries. -/
theorem forall₂_corresponds_resolve_right {R : Path → Path → Prop} {base : Path}
    (hR : ∀ p, R p (resolvePath base p)) (entries : List Entry) :
    List.Forall₂ (Entry.Corresponds R) entries (entries.map (Entry.resolve base)) := by
  have hsame : entries.map (Entry.resolve ⟨""⟩) = entries :=
    (List.map_congr_left fun e _ => e.resolve_empty).trans (List.map_id' entries)
  have hpath : ∀ p, R (resolvePath ⟨""⟩ p) (resolvePath base p) := by
    intro p
    rw [resolvePath_empty]
    exact hR p
  have hresolved := forall₂_corresponds_resolve hpath entries
  rwa [hsame] at hresolved

variable {fs : FileSystem}

/-- **The parent of a file.**  A path under which a text is read has a parent,
which is absolute if the path is and has all of its steps but the last. -/
theorem parent?_of_readText {file : Path} {text : String} (hread : fs.readText file = .ok text) :
    ∃ base step, file.parent? = some base ∧ base.isAbsolute = file.isAbsolute ∧
      steps file.text.toList = steps base.text.toList ++ [step] := by
  obtain ⟨place, hlocate, hfile⟩ :=
    (node_eq_ok_iff fs file _).mp ((readText_eq_ok_iff fs file text).mp hread)
  obtain ⟨front, last, hpieces⟩ : ∃ front last, pieces file.text.toList = front ++ [last] := by
    rcases List.eq_nil_or_concat (pieces file.text.toList) with hnil | ⟨front, last, hlast⟩
    · exact absurd hnil (pieces_ne_nil _)
    · exact ⟨front, last, by rw [hlast, List.concat_eq_append]⟩
  exact exists_parent_of_name hpieces (exists_place_of_file hlocate hfile hpieces).1

section Spellings

variable {directory path : Path} (hdirectory : directory.isAbsolute = true)
  (hpath : path.isRelative = true) {text : String} (hread : fs.readText path = .ok text)
  (hread' : fs.readText (directory.join path) = .ok text)

include hdirectory hpath hread hread'

/-- The directory part of the absolute path is absolute, that of the relative
one is not, and from the current directory they have the same steps. -/
theorem baseOf_join :
    (baseOf path).isRelative = true ∧ (baseOf (directory.join path)).isAbsolute = true ∧
      steps (baseOf (directory.join path)).text.toList
        = steps directory.text.toList ++ steps (baseOf path).text.toList := by
  obtain ⟨base, step, hparent, habsolute, hsteps⟩ := parent?_of_readText hread
  obtain ⟨base', step', hparent', habsolute', hsteps'⟩ := parent?_of_readText hread'
  have hbase : baseOf path = base := by rw [baseOf, hparent, Option.getD_some]
  have hbase' : baseOf (directory.join path) = base' := by rw [baseOf, hparent', Option.getD_some]
  rw [hbase, hbase']
  refine ⟨?_, ?_, ?_⟩
  · rw [isRelative, habsolute]
    exact hpath
  · rw [habsolute', isAbsolute_join directory hpath, hdirectory]
  · rw [steps_join directory hpath, hsteps, ← List.append_assoc] at hsteps'
    exact (List.append_inj_left' hsteps' rfl).symm

/-- **The same path twice.**  A path in the config is resolved, under the
relative path of the config, to one that is the absolute one from the current
directory. -/
theorem components_resolvePath_join (p : Path) :
    (directory.join (resolvePath (baseOf path) p)).components
      = (resolvePath (baseOf (directory.join path)) p).components := by
  obtain ⟨hrelative, habsolute, hsteps⟩ := baseOf_join hdirectory hpath hread hread'
  rcases resolvePath_cases (baseOf path) p with ⟨hp, hresolve⟩ | ⟨hp, hresolve⟩
  · rw [hresolve, resolvePath_of_isAbsolute _ hp, join, if_pos hp]
  · have hresolve' : resolvePath (baseOf (directory.join path)) p
        = (baseOf (directory.join path)).join p := by rw [resolvePath, if_pos hp]
    have hjoined : ((baseOf path).join p).isRelative = true := isRelative_join hrelative hp
    have hleft : (directory.join ((baseOf path).join p)).isAbsolute = true := by
      rw [isAbsolute_join directory hjoined, hdirectory]
    have hright : ((baseOf (directory.join path)).join p).isAbsolute = true := by
      rw [isAbsolute_join _ hp, habsolute]
    rw [hresolve, hresolve', components_of_isAbsolute hleft, components_of_isAbsolute hright,
      steps_join directory hjoined, steps_join _ hp, steps_join _ hp, hsteps, List.append_assoc]

end Spellings

/-- **Loads of one config agree.**  A load that succeeds finds the directory of
its file in the path of the file.  When a config is loaded under a relative path
and under the absolute one, with the same text, both lists have the entries of
the text but for their paths; each path of the one is, from the current
directory, that of the other; absolute paths of the text stay as they are; and
the paths of the second list are absolute, so that they are not resolved any
further. -/
theorem loads_of_config_agree (fs : FileSystem) :
    (∀ file loaded, (loadFile fs file).result = .ok loaded → file.parent? ≠ none) ∧
    ∀ directory path : Path, directory.isAbsolute = true → path.isRelative = true →
      ∀ text loaded loaded', fs.readText path = .ok text →
        fs.readText (directory.join path) = .ok text →
        (loadFile fs path).result = .ok loaded →
        (loadFile fs (directory.join path)).result = .ok loaded' →
        ∃ entries, parse text = .ok entries ∧
          List.Forall₂ (Entry.Corresponds fun p q => p.isAbsolute = true → q = p) entries loaded ∧
          List.Forall₂ (Entry.Corresponds fun p q =>
            q.isAbsolute = true ∧ (p.isAbsolute = true → q = p)) entries loaded' ∧
          List.Forall₂ (Entry.Corresponds fun q q' =>
            (directory.join q).components = q'.components) loaded loaded' ∧
          ∀ base, loaded'.map (Entry.resolve base) = loaded' := by
  constructor
  · intro file loaded hload
    obtain ⟨text, -, hread, -⟩ := loadFile_eq_ok_iff.mp hload
    obtain ⟨base, -, hparent, -⟩ := parent?_of_readText hread
    simp [hparent]
  · intro directory path hdirectory hpath text loaded loaded' hread hread' hload hload'
    obtain ⟨text₁, entries, htext₁, hparse, rfl⟩ := loadFile_eq_ok_iff.mp hload
    obtain rfl := Except.ok.inj (hread.symm.trans htext₁)
    obtain ⟨text₂, entries₂, htext₂, hparse₂, rfl⟩ := loadFile_eq_ok_iff.mp hload'
    obtain rfl := Except.ok.inj (hread'.symm.trans htext₂)
    obtain rfl := Except.ok.inj (hparse.symm.trans hparse₂)
    obtain ⟨-, habsolute, -⟩ := baseOf_join hdirectory hpath hread hread'
    refine ⟨entries, hparse, ?_, ?_, ?_, fun base => ?_⟩
    · exact forall₂_corresponds_resolve_right (fun p => resolvePath_of_isAbsolute _) entries
    · exact forall₂_corresponds_resolve_right
        (fun p => ⟨isAbsolute_resolvePath habsolute p, resolvePath_of_isAbsolute _⟩) entries
    · exact forall₂_corresponds_resolve
        (components_resolvePath_join hdirectory hpath hread hread') entries
    · rw [List.map_map]
      exact List.map_congr_left fun e _ => e.resolve_resolve habsolute base

/-- Under `./c` and under `/d/./c` a config lists the same library, at `./m` and
at `/d/m`: from `/d` these are one path, but not one text. -/
theorem spellings_of_listed_library :
    let text := "grammar=[[\"m\",\"M\",\x7bpath=\"m\"\x7d]]"
    let fs : FileSystem := ⟨.directory [("d", .directory [("c", .file (.text text))])], ["d"], []⟩
    let listed (path : Path) : Entry := ⟨"m", some "M", .library path, none, []⟩
    (loadFile fs ⟨"./c"⟩).result = .ok [listed ⟨"./m"⟩] ∧
      (loadFile fs ⟨"/d/./c"⟩).result = .ok [listed ⟨"/d/m"⟩] ∧
      (Path.join ⟨"/d"⟩ ⟨"./m"⟩).components = (Path.mk "/d/m").components ∧
      Path.join ⟨"/d"⟩ ⟨"./m"⟩ ≠ ⟨"/d/m"⟩ := by
  intro text fs listed
  have hparse : parse "grammar=[[\"m\",\"M\",\x7bpath=\"m\"\x7d]]"
      = .ok [⟨"m", some "M", .library ⟨"m"⟩, none, []⟩] := by cbv
  have hread : fs.readText ⟨"./c"⟩ = .ok text := by rfl
  have hread' : fs.readText (Path.join ⟨"/d"⟩ ⟨"./c"⟩) = .ok text := by rfl
  have hload : (loadFile fs ⟨"./c"⟩).result = .ok [listed ⟨"./m"⟩] :=
    loadFile_eq_ok_iff.mpr ⟨text, [listed ⟨"m"⟩], hread, hparse, by rfl⟩
  have hload' : (loadFile fs (Path.join ⟨"/d"⟩ ⟨"./c"⟩)).result = .ok [listed ⟨"/d/m"⟩] :=
    loadFile_eq_ok_iff.mpr ⟨text, [listed ⟨"m"⟩], hread', hparse, by rfl⟩
  obtain ⟨-, -, -, -, hagree, -⟩ := (loads_of_config_agree fs).2 ⟨"/d"⟩ ⟨"./c"⟩ rfl rfl text _ _
    hread hread' hload hload'
  have hpath : (Path.join ⟨"/d"⟩ ⟨"./m"⟩).components = (Path.mk "/d/m").components := by
    obtain ⟨hfirst, -⟩ := List.forall₂_cons.mp hagree
    cases hfirst.source with
    | library h => exact h
  exact ⟨hload, hload', hpath, by decide⟩

end GrammarAudit.Config
