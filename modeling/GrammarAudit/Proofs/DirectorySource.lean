import GrammarAudit.Proofs.FoundLibraries

/-!
# A directory and the library in it

The source of an entry can be a library or the directory that the library is in.
The file name is made of the entry's name, and so is the symbol.  From the point where
the file is known nothing tells the two entries apart: everything else that the check
looks at is the same in both, and so are all of its events.

* `Entry.withLibrary`: the entry with another library.
* `openLibrary_of_isDirectory`, `openLibrary_of_isDirectory_eq_ok_iff`: what an entry
  opens whose source is a directory, and when it can.
* `parseSamples_withLibrary`, `verify_withLibrary`: samples and checks do not depend on
  the source but through the provider.
* `directory_or_library_in_it`: what the two entries have in common, and what comes of
  the one if there is no library.
-/

namespace GrammarAudit.Config.Entry

/-- The entry with the library at another path. -/
def withLibrary (e : Entry) (path : Path) : Entry := { e with source := .library path }

section WithLibrary

variable (w : World) (e : Entry) (path : Path)

/-- An entry with another library parses the same of a list of samples.  The induction
is on the list. -/
theorem parseSamples_withLibrary (h : Handle) (samples : List Path) :
    (e.withLibrary path).parseSamples w h samples = e.parseSamples w h samples := by
  induction samples with
  | nil => rfl
  | cons sample rest ih =>
      rw [parseSamples, parseSamples, ih]
      rfl

/-- An entry is checked like one with another library if both have the same
provider. -/
theorem verify_withLibrary (hprovider : (e.withLibrary path).provider w = e.provider w) :
    (e.withLibrary path).verify w = e.verify w := by
  simp only [verify, verifyProvider, hprovider, parseSamples_withLibrary]
  rfl

end WithLibrary

variable {w : World} {e : Entry} {directory : Path}

/-- **What is opened.**  Of a directory that has an entry of the library's name, this
entry. -/
theorem openLibrary_of_isDirectory (hdirectory : w.files.isDirectory directory = true)
    (hexists : w.files.exists (libraryPath e.name directory) = true) :
    e.openLibrary w directory
      = (SharedLibrary.open w.files e.name e.displayName
          (libraryPath e.name directory)).mapError .grammar := by
  have hfile : libraryFile w.files e.name directory = .ok (libraryPath e.name directory) :=
    (libraryFile_eq_ok_iff _ _ _ _).mpr (.inside hdirectory hexists)
  rw [openLibrary, hfile, mapError_ok, Logged.ofExcept_ok_bind]

/-- What is opened of a path that is no directory is the file there. -/
theorem openLibrary_of_not_isDirectory {file : Path}
    (hfile : w.files.isDirectory file = false) :
    e.openLibrary w file
      = (SharedLibrary.open w.files e.name e.displayName file).mapError .grammar := by
  have hitself : libraryFile w.files e.name file = .ok file :=
    (libraryFile_eq_ok_iff _ _ _ _).mpr (.itself hfile)
  rw [openLibrary, hitself, mapError_ok, Logged.ofExcept_ok_bind]

/-- **The provider.**  An entry whose source is a directory has the provider that it has
with the library in this directory as its source. -/
theorem provider_withLibrary (hsource : e.source = .library directory)
    (hdirectory : w.files.isDirectory directory = true)
    (hexists : w.files.exists (libraryPath e.name directory) = true)
    (hfile : w.files.isDirectory (libraryPath e.name directory) = false) :
    (e.withLibrary (libraryPath e.name directory)).provider w = e.provider w := by
  have hopened : (e.withLibrary (libraryPath e.name directory)).openLibrary w
      (libraryPath e.name directory) = e.openLibrary w directory :=
    (openLibrary_of_not_isDirectory hfile).trans (openLibrary_of_isDirectory hdirectory hexists).symm
  unfold provider
  rw [hsource]
  show (_ >>= _) = _
  rw [hopened]

/-- The library of a directory is looked for in this. -/
theorem LibraryFile.eq_of_isDirectory {name : String} {file : Path}
    (h : LibraryFile w.files name directory file)
    (hdirectory : w.files.isDirectory directory = true) : file = libraryPath name directory := by
  cases h with
  | itself hnot => simp [hdirectory] at hnot
  | inside _ _ => rfl

/-- What an entry supplies whose source is a directory is told to come from the library
in it. -/
theorem Supplies.source_of_isDirectory {pointer : Option Language} {source : Source}
    (h : e.Supplies w pointer source) (hsource : e.source = .library directory)
    (hdirectory : w.files.isDirectory directory = true) :
    source = .library (libraryPath e.name directory) := by
  cases h with
  | linked hbuiltin _ => simp [hsource] at hbuiltin
  | exported hother hfile _ _ =>
      obtain rfl := EntrySource.library.inj (hsource.symm.trans hother)
      rw [hfile.eq_of_isDirectory hdirectory]

/-- The provider of an entry whose source is a directory is the library in it, under the
names of the entry. -/
theorem provider_of_isDirectory {p : Provider} (hsource : e.source = .library directory)
    (hdirectory : w.files.isDirectory directory = true) (hp : (e.provider w).result = .ok p) :
    p.name = e.name ∧ p.display = e.displayName ∧
      p.source = .library (libraryPath e.name directory) := by
  rcases (provider_eq_ok_iff w e p).mp hp with
    ⟨hbuiltin, -, -⟩ | ⟨path, file, object, hother, hfile, -, rfl⟩
  · simp [hsource] at hbuiltin
  · obtain rfl := EntrySource.library.inj (hsource.symm.trans hother)
    obtain rfl := hfile.eq_of_isDirectory hdirectory
    exact ⟨rfl, rfl, rfl⟩

/-- **What is opened of a directory.**  The library in it, if it is one: its path has a
separator, so it is not looked for among the system's libraries. -/
theorem openLibrary_of_isDirectory_eq_ok_iff (hdirectory : w.files.isDirectory directory = true)
    (l : SharedLibrary) :
    (e.openLibrary w directory).result = .ok l ↔
      w.files.node (libraryPath e.name directory) = .ok (.file (.library l.object)) ∧
        l = ⟨e.name, e.displayName, libraryPath e.name directory, libraryPath e.name directory,
          l.object⟩ := by
  have hsep := w.files.sep_mem_libraryPath e.name hdirectory
  have hne : (libraryPath e.name directory).text.toList ≠ [] := List.ne_nil_of_mem hsep
  rw [openLibrary_eq_ok_iff]
  constructor
  · intro h
    obtain ⟨file, object, hfile, hopen, rfl⟩ := h
    obtain rfl := hfile.eq_of_isDirectory hdirectory
    rcases (w.files.openLibrary_eq_ok_iff _ _).mp hopen with
      ⟨hempty, -⟩ | ⟨-, hnode⟩ | ⟨place, hsystem, -⟩
    · exact absurd hempty hne
    · rw [w.files.openedPath_of_sep hsep]
      exact ⟨hnode, rfl⟩
    · rw [w.files.systemLibrary?_of_sep hsep] at hsystem
      cases hsystem
  · intro h
    obtain ⟨hnode, hl⟩ := h
    have hexists : w.files.exists (libraryPath e.name directory) = true :=
      (w.files.exists_eq_true_iff _).mpr ⟨_, hnode⟩
    exact ⟨_, l.object, .inside hdirectory hexists,
      (w.files.openLibrary_eq_ok_iff _ _).mpr (Or.inr (Or.inl ⟨hsep, hnode⟩)),
      by rw [w.files.openedPath_of_sep hsep, hl]⟩

/-- **A directory and the library in it.**  Let the source of an entry be a directory,
and take for another entry the library of the entry's name in it.  If this is there and
no directory, both entries have the same provider, or lack one for the same reason, and
their checks come out the same, with the same events; the source that is reported is the
library.  If it is not there, the grammar is not found, whatever node kinds and samples
the entry asks for.  What is opened has a separator in its path, so it is opened exactly
if that leads to a library. -/
theorem directory_or_library_in_it (hsource : e.source = .library directory)
    (hdirectory : w.files.isDirectory directory = true) :
    (w.files.exists (libraryPath e.name directory) = true →
      w.files.isDirectory (libraryPath e.name directory) = false →
      (e.withLibrary (libraryPath e.name directory)).provider w = e.provider w ∧
      (∀ p, (e.provider w).result = .ok p → p.name = e.name ∧ p.display = e.displayName ∧
        p.source = .library (libraryPath e.name directory)) ∧
      (e.withLibrary (libraryPath e.name directory)).verify w = e.verify w ∧
      ∀ r, (e.verify w).result = .ok r →
        r.source = .library (libraryPath e.name directory)) ∧
    (w.files.exists (libraryPath e.name directory) = false → ∀ requiredKinds samples,
      (Entry.verify w { e with requiredKinds, samples }).result
        = .error (.grammar (.notFound e.name))) ∧
    '/' ∈ (libraryPath e.name directory).text.toList ∧
    ∀ l, (e.openLibrary w directory).result = .ok l ↔
      w.files.node (libraryPath e.name directory) = .ok (.file (.library l.object)) ∧
        l = ⟨e.name, e.displayName, libraryPath e.name directory, libraryPath e.name directory,
          l.object⟩ := by
  refine ⟨fun hexists hfile => ?_, fun hmissing requiredKinds samples => ?_,
    w.files.sep_mem_libraryPath e.name hdirectory, openLibrary_of_isDirectory_eq_ok_iff hdirectory⟩
  · have hprovider := provider_withLibrary hsource hdirectory hexists hfile
    refine ⟨hprovider, fun p => provider_of_isDirectory hsource hdirectory,
      verify_withLibrary w e _ hprovider, fun r hr => ?_⟩
    obtain ⟨language, source, hsupplied, -, -, hreports⟩ := (verify_eq_ok_iff w e r).mp hr
    exact hreports.source.trans (hsupplied.source_of_isDirectory hsource hdirectory)
  · let other : Entry := { e with requiredKinds, samples }
    have hother : other.source = .library directory := hsource
    exact (verify_eq_notFound_iff hother hdirectory).mpr hmissing

/-- An entry names a directory, another one the library in it; a dash of their name is an
underscore in the file name and in the symbol. -/
theorem directory_of_dashed_name :
    let language : Language := ⟨14, [], fun _ => none⟩
    let library : Node := .file (.library ⟨[("tree_sitter_m_x", some language)]⟩)
    let w : World := {
      files := ⟨.directory [("d", .directory [("libm_x.so", library)])], [], []⟩
      environment := ⟨[]⟩
      linked := language }
    let e : Entry := .ofLibrary "m-x" ⟨"/d"⟩
    (e.withLibrary ⟨"/d/libm_x.so"⟩).provider w = e.provider w ∧
      (e.withLibrary ⟨"/d/libm_x.so"⟩).verify w = e.verify w ∧
      (e.verify w).result = .ok ⟨"m-x", .library ⟨"/d/libm_x.so"⟩, 14, 0, []⟩ := by
  intro language library w e
  have hinside : libraryPath "m-x" ⟨"/d"⟩ = ⟨"/d/libm_x.so"⟩ := by decide
  have hdirectory : w.files.isDirectory ⟨"/d"⟩ = true := by rfl
  have hexists : w.files.exists ⟨"/d/libm_x.so"⟩ = true := by rfl
  have hfile : w.files.isDirectory ⟨"/d/libm_x.so"⟩ = false := by rfl
  have hsource : e.source = .library ⟨"/d"⟩ := by rfl
  obtain ⟨hagree, -⟩ := directory_or_library_in_it hsource hdirectory
  have hname : libraryPath e.name ⟨"/d"⟩ = ⟨"/d/libm_x.so"⟩ := hinside
  rw [hname] at hagree
  obtain ⟨hprovider, -, hverify, -⟩ := hagree hexists hfile
  refine ⟨hprovider, hverify, ?_⟩
  decide +kernel

end GrammarAudit.Config.Entry
