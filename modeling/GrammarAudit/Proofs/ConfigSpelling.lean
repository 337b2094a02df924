import GrammarAudit.CommandLine.Selection
import GrammarAudit.Proofs.ConfigPaths
import GrammarAudit.Proofs.OpenedLibraries

/-!
# The spelling of a config's path

One config file has many paths, and its entries ought not to depend on which of
them it is named by.  They nearly do not: the entries agree under two paths, but
for a library that is named without a separator in a config that is itself named
without one.  Then the resolved path has no separator either, and the library is
looked for among the system's, not beside the config.  The same is true of a
library that is named on the command line.

* `Entry.NamesLibrary`: the entries that can depend on the path of their config.
* `opensFileAt_resolve_iff`: which libraries the entries of a config open.
* `sameOutcome_resolve_iff`: when the check of an entry has the same outcome
  under two paths of its config.
* `libraries_beside_config`: both, for all entries of a config, and for the
  command line.
-/

namespace GrammarAudit.Config

open FileSystem

namespace Entry

variable {w : World} {e : Entry}

/-- The library of an entry is named by a path without a separator, and that is
not the path of a directory beside the config. -/
structure NamesLibrary (fs : FileSystem) (directory : List String) (e : Entry) (path : Path) :
    Prop where
  source : e.source = .library path
  bare : '/' ∉ path.text.toList
  noDirectory : (fs.seenFrom directory).isDirectory path = false

/-- Every path that the check of an entry looks at is short enough to be
followed. -/
def IsShort (e : Entry) : Prop := ∀ path ∈ e.paths, path.text.utf8ByteSize ≤ longestPath

/-- The path of a library is resolved with its entry. -/
theorem resolve_source {path : Path} (base : Path) (hsource : e.source = .library path) :
    (e.resolve base).source = .library (resolvePath base path) := by
  simp [resolve, hsource, EntrySource.resolve]

/-- The path of a library, and that of the library in a directory, are looked
at. -/
theorem mem_paths {path : Path} (hsource : e.source = .library path) :
    path ∈ e.paths ∧ libraryPath e.name path ∈ e.paths := by
  simp [paths, hsource]

section Resolved

variable {file : Path} {place : List String} {content : Content}
  (hlocate : w.files.locate file = .ok place)
  (hfile : w.files.root.descend place = some (.file content))

include hlocate hfile

/-- **A library beside a config.**  An entry whose path is meant to lead to a
library file opens that file if its path or that of the config has a separator
and the two together are not too long.  If neither has one, it opens what the
system finds under that name.  It fails to open anything exactly when it opens
no file. -/
theorem opensFileAt_resolve_iff {path : Path} (hsource : e.source = .library path)
    {target : List String} {object : SharedObject}
    (htarget : (w.files.seenFrom place.dropLast).locate path = .ok target)
    (hlibrary : w.files.root.descend target = some (.file (.library object))) :
    ('/' ∈ file.text.toList ∨ '/' ∈ path.text.toList → ∀ t,
      (e.resolve (baseOf file)).OpensFileAt w t ↔
        t = target ∧ (resolvePath (baseOf file) path).text.utf8ByteSize ≤ longestPath) ∧
    ('/' ∉ file.text.toList → '/' ∉ path.text.toList → ∀ t,
      (e.resolve (baseOf file)).OpensFileAt w t ↔ w.files.HasSystemLibrary path t) ∧
    ((e.resolve (baseOf file)).FailsToOpen w ↔
      ∀ t, ¬ (e.resolve (baseOf file)).OpensFileAt w t) := by
  have hresolved := resolve_source (baseOf file) hsource
  obtain ⟨-, hpath, hlength, -⟩ := (locate_eq_ok_iff _ _ _).mp htarget
  have hsep := sep_mem_resolvePath_iff hlocate hfile path
  by_cases hshort : (resolvePath (baseOf file) path).text.utf8ByteSize ≤ longestPath
  · have hlocated : w.files.locate (resolvePath (baseOf file) path) = .ok target :=
      (locate_resolvePath_iff hlocate hfile (by simpa using hpath) hshort target).mpr htarget
    obtain ⟨hopens, hsystem, hfails⟩ := opensFileAt_iff hresolved hlocated hlibrary
    refine ⟨fun h t => ?_, fun hbare hbare' => ?_, hfails⟩
    · rw [hopens (hsep.mpr h) t]
      simp [hshort]
    · have hself := resolvePath_of_bare hlocate hfile hbare path
      rw [hself] at hsystem
      exact hsystem hbare'
  · have hlong : '/' ∈ file.text.toList := by
      by_contra hbare
      rw [resolvePath_of_bare hlocate hfile hbare] at hshort
      exact hshort hlength
    obtain ⟨hfails, hopens⟩ := opensFileAt_of_tooLong (w := w) hresolved (hsep.mpr (Or.inl hlong))
      (Nat.lt_of_not_le hshort)
    refine ⟨fun _ t => ?_, fun hbare => absurd hlong hbare, iff_of_true hfails hopens⟩
    exact iff_of_false (hopens t) fun h => hshort h.2

variable {file' : Path} (hlocate' : w.files.locate file' = .ok place)

include hlocate'

/-- Under two paths of a config the same libraries can be opened under a path in
it, if that or both of them have a separator, or none of the three has. -/
theorem openLibrary_resolve_iff {path : Path} (hpath : path.text ≠ "")
    (hshort : (resolvePath (baseOf file) path).text.utf8ByteSize ≤ longestPath)
    (hshort' : (resolvePath (baseOf file') path).text.utf8ByteSize ≤ longestPath)
    (hsep : '/' ∉ path.text.toList → ('/' ∈ file.text.toList ↔ '/' ∈ file'.text.toList))
    (object : SharedObject) :
    w.files.openLibrary (resolvePath (baseOf file) path) = .ok object ↔
      w.files.openLibrary (resolvePath (baseOf file') path) = .ok object := by
  by_cases hsub : '/' ∈ path.text.toList
  · rw [openLibrary_resolvePath_iff hlocate hfile hpath hshort (.inr hsub),
      openLibrary_resolvePath_iff hlocate' hfile hpath hshort' (.inr hsub)]
  · have hboth := hsep hsub
    by_cases hbare : '/' ∈ file.text.toList
    · rw [openLibrary_resolvePath_iff hlocate hfile hpath hshort (.inl hbare),
        openLibrary_resolvePath_iff hlocate' hfile hpath hshort' (.inl (hboth.mp hbare))]
    · rw [resolvePath_of_bare hlocate hfile hbare,
        resolvePath_of_bare hlocate' hfile (mt hboth.mpr hbare)]

/-- Under two paths of a config, the library files that a path in it is looked
for in are both missing, or the same libraries can be opened under their
paths. -/
theorem libraryFile_agree {path : Path} (hsource : e.source = .library path)
    (hpath : path.text ≠ "") (hshort : (e.resolve (baseOf file)).IsShort)
    (hshort' : (e.resolve (baseOf file')).IsShort)
    (hsep : e.NamesLibrary w.files place.dropLast path →
      ('/' ∈ file.text.toList ↔ '/' ∈ file'.text.toList)) :
    Agree GrammarError.SameCause
      (fun a b => ∀ object, w.files.openLibrary a = .ok object ↔ w.files.openLibrary b = .ok object)
      (libraryFile w.files e.name (resolvePath (baseOf file) path))
      (libraryFile w.files e.name (resolvePath (baseOf file') path)) := by
  obtain ⟨hlibrary, hlibrarySep⟩ := libraryPath_text e.name path
  obtain ⟨hitself, hinside⟩ := (mem_paths (resolve_source (baseOf file) hsource)).imp
    (hshort _) (hshort _)
  obtain ⟨hitself', hinside'⟩ := (mem_paths (resolve_source (baseOf file') hsource)).imp
    (hshort' _) (hshort' _)
  rw [libraryPath_resolvePath] at hinside hinside'
  unfold libraryFile
  rw [isDirectory_resolvePath hlocate hfile hpath hitself,
    isDirectory_resolvePath hlocate' hfile hpath hitself']
  cases hdirectory : (w.files.seenFrom place.dropLast).isDirectory path with
  | false =>
      exact .ok (openLibrary_resolve_iff hlocate hfile hlocate' hpath hitself hitself'
        fun hbare => hsep ⟨hsource, hbare, hdirectory⟩)
  | true =>
      simp only [if_true, FileSystem.findLibraryIn, List.map_cons, List.map_nil,
        libraryPath_resolvePath, List.find?_cons, List.find?_nil]
      rw [exists_resolvePath hlocate hfile hlibrary hinside,
        exists_resolvePath hlocate' hfile hlibrary hinside']
      cases (w.files.seenFrom place.dropLast).exists (libraryPath e.name path) with
      | false => exact .error (.notFound _ _)
      | true =>
          exact .ok (openLibrary_resolve_iff hlocate hfile hlocate' hlibrary hinside hinside'
            fun hbare => absurd (hlibrarySep hpath) hbare)

/-- Under two paths of a config an entry asks for the same. -/
theorem asksAlike_resolve (hshort : (e.resolve (baseOf file)).IsShort)
    (hshort' : (e.resolve (baseOf file')).IsShort) :
    (e.resolve (baseOf file)).AsksAlike w (e.resolve (baseOf file')) where
  name := rfl
  requiredKinds := rfl
  samples := by
    have hsamples : ∀ base, ∀ path ∈ e.samples, resolvePath base path ∈ (e.resolve base).paths := by
      intro base path hpath
      have hmem : resolvePath base path ∈ (e.resolve base).samples := List.mem_map_of_mem hpath
      unfold paths
      cases (e.resolve base).source with
      | builtin => exact hmem
      | library p => exact List.mem_cons_of_mem _ (List.mem_cons_of_mem _ hmem)
    show List.Forall₂ _ (e.samples.map (resolvePath (baseOf file)))
      (e.samples.map (resolvePath (baseOf file')))
    rw [List.forall₂_map_left_iff, List.forall₂_map_right_iff, List.forall₂_same]
    intro path hpath text
    rw [readText_resolvePath_iff hlocate hfile (hshort _ (hsamples _ path hpath)),
      readText_resolvePath_iff hlocate' hfile (hshort' _ (hsamples _ path hpath))]

/-- **Two paths of a config.**  An entry agrees under both, unless one of them
has a separator, the other has none and the library of the entry is named
without a separator. -/
theorem alike_resolve (hsource : e.source ≠ .library ⟨""⟩)
    (hshort : (e.resolve (baseOf file)).IsShort) (hshort' : (e.resolve (baseOf file')).IsShort)
    (hsep : ∀ path, e.NamesLibrary w.files place.dropLast path →
      ('/' ∈ file.text.toList ↔ '/' ∈ file'.text.toList)) :
    (e.resolve (baseOf file)).Alike w (e.resolve (baseOf file')) where
  toAsksAlike := asksAlike_resolve hlocate hfile hlocate' hshort hshort'
  provider := by
    cases hlibrary : e.source with
    | builtin =>
        have hprovider : ∀ base, ((e.resolve base).provider w).result = (e.provider w).result := by
          intro base
          simp [provider, resolve, hlibrary, EntrySource.resolve]
        rw [hprovider, hprovider]
        exact .refl .refl .refl _
    | library path =>
        have hpath : path.text ≠ "" := by
          intro hempty
          exact hsource (by rw [hlibrary, ← hempty])
        have hfiles := libraryFile_agree hlocate hfile hlocate' hlibrary hpath hshort hshort'
          (hsep path)
        exact provider_agree (resolve_source _ hlibrary) (resolve_source _ hlibrary) rfl hfiles

/-- Under a path of a config with a separator and one without, the check of an
entry whose library is named without a separator has the same outcome exactly if
what is opened beside the config and what the system has under that name
agree. -/
theorem sameOutcome_of_namesLibrary {path : Path}
    (hnames : e.NamesLibrary w.files place.dropLast path) (hpath : path.text ≠ "")
    (hshort : (e.resolve (baseOf file)).IsShort) (hshort' : (e.resolve (baseOf file')).IsShort)
    (hsep : ¬ ('/' ∈ file.text.toList ↔ '/' ∈ file'.text.toList)) :
    SameOutcome ((e.resolve (baseOf file)).verify w).result
        ((e.resolve (baseOf file')).verify w).result ↔
      (e.resolve (baseOf file)).OpenAlike w
        ((w.files.seenFrom place.dropLast).openFile path) (w.files.openLibrary path) := by
  have hresolved := fun base => resolve_source base hnames.source
  have hitself := hshort _ (mem_paths (hresolved _)).1
  have hitself' := hshort' _ (mem_paths (hresolved _)).1
  have hdirectory : w.files.isDirectory (resolvePath (baseOf file) path) = false :=
    (isDirectory_resolvePath hlocate hfile hpath hitself).trans hnames.noDirectory
  have hdirectory' : w.files.isDirectory (resolvePath (baseOf file') path) = false :=
    (isDirectory_resolvePath hlocate' hfile hpath hitself').trans hnames.noDirectory
  rw [sameOutcome_iff_openAlike (asksAlike_resolve hlocate hfile hlocate' hshort hshort')
    (hresolved _) (hresolved _) hdirectory hdirectory']
  by_cases hfirst : '/' ∈ file.text.toList
  · have hbare : '/' ∉ file'.text.toList := fun h => hsep (iff_of_true hfirst h)
    have hbeside := openLibrary_resolvePath_iff hlocate hfile hpath hitself (Or.inl hfirst)
    rw [resolvePath_of_bare hlocate' hfile hbare]
    exact ⟨fun h => h.of_opens hbeside, fun h => h.of_opens fun o => (hbeside o).symm⟩
  · have hsecond : '/' ∈ file'.text.toList := by
      by_contra h
      exact hsep (iff_of_false hfirst h)
    have hbeside := openLibrary_resolvePath_iff hlocate' hfile hpath hitself' (Or.inl hsecond)
    rw [resolvePath_of_bare hlocate hfile hfirst]
    exact ⟨fun h => h.symm.of_opens hbeside, fun h => (h.of_opens fun o => (hbeside o).symm).symm⟩

/-- **The outcome under two paths of a config.**  The check of an entry has the
same outcome under both, unless exactly one of them has a separator, the
library of the entry is named without one, and what lies beside the config and
what the system has under that name do not agree. -/
theorem sameOutcome_resolve_iff (hsource : e.source ≠ .library ⟨""⟩)
    (hshort : (e.resolve (baseOf file)).IsShort) (hshort' : (e.resolve (baseOf file')).IsShort) :
    SameOutcome ((e.resolve (baseOf file)).verify w).result
        ((e.resolve (baseOf file')).verify w).result ↔
      ∀ path, e.NamesLibrary w.files place.dropLast path →
        ('/' ∈ file.text.toList ↔ '/' ∈ file'.text.toList) ∨
        (e.resolve (baseOf file)).OpenAlike w
          ((w.files.seenFrom place.dropLast).openFile path) (w.files.openLibrary path) := by
  have hnonempty : ∀ {path}, e.NamesLibrary w.files place.dropLast path → path.text ≠ "" := by
    intro path hnames hempty
    exact hsource (by rw [hnames.source, ← hempty])
  constructor
  · intro hsame path hnames
    by_cases hsep : '/' ∈ file.text.toList ↔ '/' ∈ file'.text.toList
    · exact Or.inl hsep
    · exact Or.inr ((sameOutcome_of_namesLibrary hlocate hfile hlocate' hnames (hnonempty hnames)
        hshort hshort' hsep).mp hsame)
  · intro hagree
    by_cases hsep : ∀ path, e.NamesLibrary w.files place.dropLast path →
        ('/' ∈ file.text.toList ↔ '/' ∈ file'.text.toList)
    · exact verify_agree (alike_resolve hlocate hfile hlocate' hsource hshort hshort' hsep)
    · obtain ⟨path, hcounter⟩ := not_forall.mp hsep
      obtain ⟨hnames, hone⟩ := Classical.not_imp.mp hcounter
      exact (sameOutcome_of_namesLibrary hlocate hfile hlocate' hnames (hnonempty hnames)
        hshort hshort' hone).mpr ((hagree path hnames).resolve_left hone)

end Resolved

end Entry

/-- The file at a place is a config that lists these entries. -/
def IsConfig (fs : FileSystem) (place : List String) (entries : List Entry) : Prop :=
  ∃ text, fs.root.descend place = some (.file (.text text)) ∧ parse text = .ok entries

/-- A config is loaded under every path that leads to it. -/
theorem loadFile_eq_ok {fs : FileSystem} {place : List String} {entries : List Entry}
    (hconfig : IsConfig fs place entries) {file : Path} (hlocate : fs.locate file = .ok place) :
    (loadFile fs file).result = .ok (entries.map (Entry.resolve (baseOf file))) := by
  obtain ⟨text, hfile, hparse⟩ := hconfig
  have htext : fs.readText file = .ok text :=
    (readText_eq_ok_iff _ _ _).mpr ((node_eq_ok_iff _ _ _).mpr ⟨place, hlocate, hfile⟩)
  exact loadFile_eq_ok_iff.mpr ⟨text, entries, htext, hparse, rfl⟩

/-- A library on the command line is the source of every entry that is selected,
and without a choice of names there is one. -/
theorem select_library {w : World} {o : CommandLine.Options} {path : Path}
    (ho : o.library = some path) :
    ∃ entries, (CommandLine.select w o).result = .ok entries ∧ (o.only = none → entries ≠ []) ∧
      ∀ e ∈ entries, e.source = .library path := by
  refine ⟨(CommandLine.keepOnly o.only [.ofLibrary linkedName path]).map
    (CommandLine.addSamples o.samples), ?_, ?_, ?_⟩
  · simp [CommandLine.select, CommandLine.baseEntries, ho, Except.bind]
  · intro honly
    simp [CommandLine.keepOnly, honly]
  · intro e he
    obtain ⟨e', he', rfl⟩ := List.mem_map.mp he
    have hmem : e' ∈ [Entry.ofLibrary linkedName path] := by
      unfold CommandLine.keepOnly at he'
      cases honly : o.only with
      | none => simpa [honly] using he'
      | some names =>
          rw [honly] at he'
          exact List.mem_of_mem_filter he'
    obtain rfl := List.mem_singleton.mp hmem
    rfl

/-- **Libraries beside a config.**  A config loads under every path that leads
to it, and an entry whose path is meant to lead to a library file opens that
file, unless the two paths together are too long or neither has a separator.  In
the last case it opens what the system finds under that name.  So the checks of
an entry under two paths of a config have the same outcome, but for a library
named without a separator under a path with one and a path without: then they
have exactly if neither beside the config nor in the system a library can be
opened, or the rest of the check comes to the same with the two.  A library that
is named on the command line is opened if its path has a separator; otherwise
what the system finds under that name is. -/
theorem libraries_beside_config (w : World) :
    (∀ place entries, IsConfig w.files place entries →
      (∀ file, w.files.locate file = .ok place →
        (loadFile w.files file).result = .ok (entries.map (Entry.resolve (baseOf file))) ∧
        ∀ e ∈ entries, ∀ path target object, e.source = .library path →
          (w.files.seenFrom place.dropLast).locate path = .ok target →
          w.files.root.descend target = some (.file (.library object)) →
          ('/' ∈ file.text.toList ∨ '/' ∈ path.text.toList → ∀ t,
            (e.resolve (baseOf file)).OpensFileAt w t ↔
              t = target ∧ (resolvePath (baseOf file) path).text.utf8ByteSize ≤ longestPath) ∧
          ('/' ∉ file.text.toList → '/' ∉ path.text.toList → ∀ t,
            (e.resolve (baseOf file)).OpensFileAt w t ↔ w.files.HasSystemLibrary path t) ∧
          ((e.resolve (baseOf file)).FailsToOpen w ↔
            ∀ t, ¬ (e.resolve (baseOf file)).OpensFileAt w t)) ∧
      ∀ file file', w.files.locate file = .ok place → w.files.locate file' = .ok place →
        ∀ e ∈ entries, e.source ≠ .library ⟨""⟩ →
          (e.resolve (baseOf file)).IsShort → (e.resolve (baseOf file')).IsShort →
          (Entry.SameOutcome ((e.resolve (baseOf file)).verify w).result
              ((e.resolve (baseOf file')).verify w).result ↔
            ∀ path, e.NamesLibrary w.files place.dropLast path →
              ('/' ∈ file.text.toList ↔ '/' ∈ file'.text.toList) ∨
              (e.resolve (baseOf file)).OpenAlike w
                ((w.files.seenFrom place.dropLast).openFile path) (w.files.openLibrary path))) ∧
    ∀ o path, CommandLine.Options.library o = some path →
      ∃ entries, (CommandLine.select w o).result = .ok entries ∧ (o.only = none → entries ≠ []) ∧
        ∀ e ∈ entries, ∀ target object, w.files.locate path = .ok target →
          w.files.root.descend target = some (.file (.library object)) →
          ('/' ∈ path.text.toList → ∀ t, e.OpensFileAt w t ↔ t = target) ∧
          ('/' ∉ path.text.toList → ∀ t, e.OpensFileAt w t ↔ w.files.HasSystemLibrary path t) ∧
          (e.FailsToOpen w ↔ ∀ t, ¬ e.OpensFileAt w t) := by
  refine ⟨fun place entries hconfig => ⟨fun file hlocate => ⟨?_, ?_⟩, ?_⟩, fun o path ho => ?_⟩
  · exact loadFile_eq_ok hconfig hlocate
  · intro e _ path target object hsource htarget hlibrary
    obtain ⟨text, hfile, -⟩ := hconfig
    exact Entry.opensFileAt_resolve_iff hlocate hfile hsource htarget hlibrary
  · intro file file' hlocate hlocate' e _ hsource hshort hshort'
    obtain ⟨text, hfile, -⟩ := hconfig
    exact Entry.sameOutcome_resolve_iff hlocate hfile hlocate' hsource hshort hshort'
  · obtain ⟨entries, hselect, hone, hsources⟩ := select_library (w := w) ho
    refine ⟨entries, hselect, hone, fun e he target object hlocate hlibrary => ?_⟩
    exact Entry.opensFileAt_iff (hsources e he) hlocate hlibrary

/-- A library beside a config is not opened where both are named without a
separator; with a `./` before the name of the config it passes its check. -/
theorem bare_library_of_bare_config :
    let text := "[[grammar]]\nname = \"mini\"\nsource = \x7b path = \"libmini.so\" \x7d\n"
    let language : Language := ⟨14, [], fun _ => none⟩
    let w : World := {
      files := ⟨.directory [("d", .directory [("grammars.toml", .file (.text text)),
        ("libmini.so", .file (.library ⟨[("tree_sitter_mini", some language)]⟩))])], ["d"], []⟩
      environment := ⟨[]⟩
      linked := language }
    ∃ e e', (loadFile w.files ⟨"grammars.toml"⟩).result = .ok [e] ∧
      (loadFile w.files ⟨"./grammars.toml"⟩).result = .ok [e'] ∧
      e.FailsToOpen w ∧ ∃ report, (e'.verify w).result = .ok report := by
  intro text language w
  have hparse : parse "[[grammar]]\nname = \"mini\"\nsource = \x7b path = \"libmini.so\" \x7d\n"
      = .ok [⟨"mini", none, .library ⟨"libmini.so"⟩, none, []⟩] := by cbv
  have hconfig : IsConfig w.files ["d", "grammars.toml"]
      [⟨"mini", none, .library ⟨"libmini.so"⟩, none, []⟩] := ⟨_, rfl, hparse⟩
  refine ⟨⟨"mini", none, .library ⟨"libmini.so"⟩, none, []⟩,
    ⟨"mini", none, .library ⟨"./libmini.so"⟩, none, []⟩, ?_, ?_, ?_, ?_⟩
  · exact loadFile_eq_ok hconfig rfl
  · exact loadFile_eq_ok hconfig rfl
  · exact ⟨_, rfl⟩
  · refine ⟨⟨"mini", .library ⟨"./libmini.so"⟩, 14, 0, []⟩,
      (Entry.verify_eq_ok_iff w _ _).mpr ⟨language, .library ⟨"./libmini.so"⟩, ?_, rfl, ?_, ?_⟩⟩
    · exact .exported rfl (.itself rfl) rfl rfl
    · simp [Entry.Requires]
    · exact ⟨rfl, rfl, rfl, rfl, [], [], rfl, by simp, by simp, .nil⟩

end GrammarAudit.Config
