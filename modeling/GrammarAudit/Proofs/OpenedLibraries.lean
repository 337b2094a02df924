import Mathlib
import GrammarAudit.Proofs.Agreement
import GrammarAudit.Proofs.PathFollowing
import GrammarAudit.Proofs.Verdict

/-!
# The library that an entry opens

A path with a separator is followed to a file; a name without one is looked up
among the system's libraries, although a file of that name may lie in the
current directory.  This file says which library file the provider of an entry
is made of, when there is none, and that the outcome of a check depends on the
path of the library by what is opened there and by nothing else.

* `FileSystem.HasSystemLibrary`: the system finds the library file at a place
  under a name.
* `Entry.OpensFileAt`: the provider of an entry is made of the library file at a
  place.
* `failsToOpen_iff`: a check fails to open a library exactly when the provider
  does; no later stage fails for that.
* `opensFileAt_iff`: a path to a library opens it when it has a separator, and
  otherwise what the system has under that name.
* `sameOutcome_iff_openAlike`: the outcomes of two checks agree exactly when what
  they open does.
-/

namespace GrammarAudit

namespace FileSystem

/-- Under a name the system finds the library file at a place. -/
def HasSystemLibrary (fs : FileSystem) (p : Path) (target : List String) : Prop :=
  ∃ place object, fs.systemLibrary? p = some place ∧ fs.locate place = .ok target ∧
    fs.root.descend target = some (.file (.library object))

/-- What is opened under a path that is not empty is the library in the file that
is opened. -/
theorem node_openedPath (fs : FileSystem) {p : Path} (hp : p.text ≠ "") {object : SharedObject}
    (hopen : fs.openLibrary p = .ok object) :
    fs.node (fs.openedPath p) = .ok (.file (.library object)) := by
  rcases (fs.openLibrary_eq_ok_iff p object).mp hopen with
    ⟨hnil, -⟩ | ⟨hsep, hnode⟩ | ⟨place, hsystem, hnode⟩
  · simp only [String.toList_eq_nil_iff] at hnil
    exact absurd hnil hp
  · rwa [fs.openedPath_of_sep hsep]
  · rwa [openedPath, hsystem]

end FileSystem

namespace Config

open FileSystem

namespace Entry

variable {w : World} {e : Entry}

/-- The library file at a place is what the provider of the entry is made of. -/
def OpensFileAt (w : World) (e : Entry) (target : List String) : Prop :=
  ∃ path library, e.source = .library path ∧ (e.openLibrary w path).result = .ok library ∧
    (e.provider w).result = .ok library.provider ∧ w.files.locate library.place = .ok target ∧
    w.files.root.descend target = some (.file (.library library.object))

/-- The library of an entry cannot be opened, and the check of the entry fails
for that. -/
def FailsToOpen (w : World) (e : Entry) : Prop :=
  ∃ reason, (e.verify w).result = .error (.grammar (.loadError reason))

/-- What a load fails for is not that a library cannot be opened, unless the
provider says so. -/
theorem load_ne_loadError {p : Provider} (hp : ∀ reason, p.descriptor ≠ .error (.loadError reason))
    (reason : String) : (load p).result ≠ .error (.loadError reason) := by
  intro h
  rcases (load_eq_error_iff p _).mp h with h | ⟨_, -, h⟩ | ⟨_, _, -, -, h⟩
  · exact hp reason h
  · cases h
  · cases h

/-- What a sample fails for is not that a library cannot be opened. -/
theorem parseSample_ne_loadError (h : Handle) (text reason : String) :
    (h.parseSample text).result ≠ .error (.loadError reason) := by
  intro hsample
  rcases (h.parseSample_eq_error_iff text _).mp hsample with hparser | ⟨_, _, -, -, herror⟩
  · obtain ⟨reason', -, hrejected⟩ := mapError_eq_error.mp hparser
    cases hrejected
  · cases herror

/-- What the samples of an entry fail for is not that a library cannot be
opened. -/
theorem parseSamples_ne_loadError (h : Handle) (paths : List Path) (reason : String) :
    (e.parseSamples w h paths).result ≠ .error (.grammar (.loadError reason)) := by
  induction paths with
  | nil => simp [parseSamples]
  | cons path rest ih =>
      intro hsamples
      simp only [parseSamples, parseSample, Logged.result_bind_eq_error,
        Logged.result_ofExcept, Logged.result_emit, Logged.result_pure,
        Logged.result_mapError, mapError_eq_error] at hsamples
      simp [parseSample_ne_loadError, ih] at hsamples

/-- What the program's own sample fails for is not that a library cannot be
opened. -/
theorem parseBuiltinSample_ne_loadError (h : Handle) (reason : String) :
    (e.parseBuiltinSample h).result ≠ .error (.grammar (.loadError reason)) := by
  intro hsample
  unfold parseBuiltinSample at hsample
  by_cases hname : e.name = linkedName
  · simp only [if_pos hname, Logged.result_bind_eq_error, Logged.result_mapError,
      Logged.result_pure, mapError_eq_error] at hsample
    simp [parseSample_ne_loadError] at hsample
  · simp [hname] at hsample

/-- The provider of an entry has opened its library. -/
theorem descriptor_ne_loadError {p : Provider} (hp : (e.provider w).result = .ok p)
    (reason : String) : p.descriptor ≠ .error (.loadError reason) := by
  rcases (provider_eq_ok_iff w e p).mp hp with ⟨-, -, rfl⟩ | ⟨path, file, object, -, -, -, rfl⟩
  · simp [World.linkedProvider]
  · unfold SharedLibrary.provider SharedLibrary.descriptor
    cases object.symbol? (symbolName e.name) with
    | none => simp
    | some pointer => simp

/-- **Failing to open a library.**  A check fails to open a library exactly when
the provider does; no later stage gives that reason. -/
theorem failsToOpen_iff :
    e.FailsToOpen w ↔ ∃ reason, (e.provider w).result = .error (.grammar (.loadError reason)) := by
  refine exists_congr fun reason => ?_
  rw [verify_eq_error_iff]
  constructor
  · intro h
    cases h with
    | provider hprovider => exact hprovider
    | load hp hload => exact absurd hload (load_ne_loadError (descriptor_ne_loadError hp) reason)
    | @kinds p handle error hp hload hkinds =>
        obtain ⟨-, hmissing⟩ := (handle.checkKinds_eq_error_iff _ _).mp hkinds
        cases hmissing
    | @builtinSample p handle error hp hload hkinds hsample =>
        exact absurd hsample (parseBuiltinSample_ne_loadError handle reason)
    | @samples p handle builtin error hp hload hkinds hbuiltin hsamples =>
        exact absurd hsamples (parseSamples_ne_loadError handle e.samples reason)
  · exact .provider

section Library

variable {path : Path} (hsource : e.source = .library path)
  (hdirectory : w.files.isDirectory path = false)

include hsource hdirectory

/-- An entry with a library at a path that is no directory fails to open it if
nothing is opened under that path. -/
theorem failsToOpen_iff_of_library :
    e.FailsToOpen w ↔ ∀ object, w.files.openLibrary path ≠ .ok object := by
  rw [failsToOpen_iff, provider, hsource]
  have hfile : libraryFile w.files e.name path = .ok path := by simp [libraryFile, hdirectory]
  cases hopen : w.files.openLibrary path with
  | error fault =>
      simp [openLibrary, hfile, SharedLibrary.open, hopen, Except.bind]
  | ok object =>
      simp [openLibrary, hfile, SharedLibrary.open, hopen, Except.bind]

/-- An entry with a library at a path that is no directory is made of what is
opened under that path. -/
theorem opensFileAt_iff_openLibrary (target : List String) :
    e.OpensFileAt w target ↔ ∃ object, w.files.openLibrary path = .ok object ∧
      w.files.locate (w.files.openedPath path) = .ok target ∧
      w.files.root.descend target = some (.file (.library object)) := by
  constructor
  · intro h
    obtain ⟨path', library, hsource', hlibrary, -, hlocate, hnode⟩ := h
    obtain rfl : path = path' := EntrySource.library.inj (hsource ▸ hsource')
    obtain ⟨file, object, hfile, hopen, rfl⟩ := (openLibrary_eq_ok_iff w e path library).mp hlibrary
    cases hfile with
    | itself _ => exact ⟨object, hopen, hlocate, hnode⟩
    | inside hinside _ =>
        rw [hdirectory] at hinside
        cases hinside
  · intro h
    obtain ⟨object, hopen, hlocate, hnode⟩ := h
    exact ⟨path, ⟨e.name, e.displayName, path, w.files.openedPath path, object⟩, hsource,
      (openLibrary_eq_ok_iff w e path _).mpr ⟨path, object, .itself hdirectory, hopen, rfl⟩,
      (provider_eq_ok_iff w e _).mpr
        (Or.inr ⟨path, path, object, hsource, .itself hdirectory, hopen, rfl⟩),
      hlocate, hnode⟩

/-- When a library has been opened for an entry, the check goes on with that. -/
theorem verify_of_openLibrary {object : SharedObject}
    (hopen : w.files.openLibrary path = .ok object) :
    (e.verify w).result = (e.verifyProvider w (SharedLibrary.mk e.name e.displayName path
      (w.files.openedPath path) object).provider).result := by
  have hprovider := (provider_eq_ok_iff w e _).mpr
    (Or.inr ⟨path, path, object, hsource, .itself hdirectory, hopen, rfl⟩)
  simp only [verify, Logged.result_bind, hprovider, Except.bind]

/-- An entry with a library at a path that is no directory and not empty fails to
open it if it opens no file. -/
theorem failsToOpen_iff_opensFileAt (hpath : path.text ≠ "") :
    e.FailsToOpen w ↔ ∀ target, ¬ e.OpensFileAt w target := by
  rw [failsToOpen_iff_of_library hsource hdirectory]
  constructor
  · intro h target hopens
    obtain ⟨object, hopen, -⟩ := (opensFileAt_iff_openLibrary hsource hdirectory target).mp hopens
    exact h object hopen
  · intro h object hopen
    obtain ⟨target, hlocate, hnode⟩ :=
      (node_eq_ok_iff _ _ _).mp (w.files.node_openedPath hpath hopen)
    exact h target
      ((opensFileAt_iff_openLibrary hsource hdirectory target).mpr ⟨object, hopen, hlocate, hnode⟩)

/-- Under a path with a separator an entry opens the library file that the path
leads to. -/
theorem opensFileAt_iff_of_sep (hsep : '/' ∈ path.text.toList) (target : List String) :
    e.OpensFileAt w target ↔ w.files.locate path = .ok target ∧
      ∃ object, w.files.root.descend target = some (.file (.library object)) := by
  rw [opensFileAt_iff_openLibrary hsource hdirectory, w.files.openedPath_of_sep hsep]
  constructor
  · intro h
    obtain ⟨object, -, hlocate, hnode⟩ := h
    exact ⟨hlocate, object, hnode⟩
  · intro h
    obtain ⟨hlocate, object, hnode⟩ := h
    have hopened : w.files.node path = .ok (.file (.library object)) :=
      (node_eq_ok_iff _ _ _).mpr ⟨target, hlocate, hnode⟩
    exact ⟨object, (w.files.openLibrary_eq_ok_iff _ _).mpr (Or.inr (Or.inl ⟨hsep, hopened⟩)),
      hlocate, hnode⟩

/-- Under a name without a separator an entry opens what the system finds. -/
theorem opensFileAt_iff_of_bare (hpath : path.text ≠ "") (hbare : '/' ∉ path.text.toList)
    (target : List String) : e.OpensFileAt w target ↔ w.files.HasSystemLibrary path target := by
  rw [opensFileAt_iff_openLibrary hsource hdirectory]
  constructor
  · intro h
    obtain ⟨object, hopen, hlocate, hnode⟩ := h
    rcases (w.files.openLibrary_eq_ok_iff _ _).mp hopen with
      ⟨hnil, -⟩ | ⟨hsep, -⟩ | ⟨place, hsystem, -⟩
    · exact absurd (by simpa using hnil) hpath
    · exact absurd hsep hbare
    · rw [openedPath, hsystem, Option.getD_some] at hlocate
      exact ⟨place, object, hsystem, hlocate, hnode⟩
  · intro h
    obtain ⟨place, object, hsystem, hlocate, hnode⟩ := h
    have hopened : w.files.node place = .ok (.file (.library object)) :=
      (node_eq_ok_iff _ _ _).mpr ⟨target, hlocate, hnode⟩
    refine ⟨object, ?_, ?_, hnode⟩
    · exact (w.files.openLibrary_eq_ok_iff _ _).mpr (Or.inr (Or.inr ⟨place, hsystem, hopened⟩))
    · rw [openedPath, hsystem, Option.getD_some, hlocate]

end Library

/-- **Opening the library at a path.**  An entry whose path leads to a library
file opens that file if the path has a separator, and otherwise what the system
finds under that name.  It fails to open anything exactly when it opens no
file. -/
theorem opensFileAt_iff {path : Path} {target : List String} {object : SharedObject}
    (hsource : e.source = .library path) (hlocate : w.files.locate path = .ok target)
    (hfile : w.files.root.descend target = some (.file (.library object))) :
    ('/' ∈ path.text.toList → ∀ t, e.OpensFileAt w t ↔ t = target) ∧
      ('/' ∉ path.text.toList → ∀ t, e.OpensFileAt w t ↔ w.files.HasSystemLibrary path t) ∧
      (e.FailsToOpen w ↔ ∀ t, ¬ e.OpensFileAt w t) := by
  have hnode : w.files.node path = .ok (.file (.library object)) :=
    (node_eq_ok_iff _ _ _).mpr ⟨target, hlocate, hfile⟩
  have hdirectory : w.files.isDirectory path = false := by
    simp [isDirectory, hnode]
  obtain ⟨-, hne, -, -⟩ := (locate_eq_ok_iff _ _ _).mp hlocate
  have hpath : path.text ≠ "" := by simpa using hne
  refine ⟨fun hsep t => ?_, fun hbare t => ?_, ?_⟩
  · rw [opensFileAt_iff_of_sep hsource hdirectory hsep, hlocate, Except.ok.injEq, eq_comm]
    refine and_iff_left_of_imp fun h => ?_
    rw [h]
    exact ⟨object, hfile⟩
  · exact opensFileAt_iff_of_bare hsource hdirectory hpath hbare t
  · exact failsToOpen_iff_opensFileAt hsource hdirectory hpath

/-- A library of the system is opened under its name alone; of a symbol that it
lacks both the name and the place are told. -/
example :
    let libc : SystemLibrary := ⟨"libc.so.6", ⟨"/lib/libc.so.6"⟩, by decide, by decide, by decide,
      by decide⟩
    let root : Node := .directory [("lib", .directory [("libc.so.6", .file (.library ⟨[]⟩))])]
    let w : World := ⟨⟨root, [], [libc]⟩, ⟨[]⟩, ⟨14, [], fun _ => none⟩⟩
    ((ofLibrary "m" ⟨"libc.so.6"⟩).verify w).result
      = .error (.grammar (.missingSymbol
          "tree_sitter_m in libc.so.6: /lib/libc.so.6: undefined symbol: tree_sitter_m")) := by
  rfl

/-- A path with a separator that is too long opens nothing. -/
theorem opensFileAt_of_tooLong {path : Path} (hsource : e.source = .library path)
    (hsep : '/' ∈ path.text.toList) (hlong : longestPath < path.text.utf8ByteSize) :
    e.FailsToOpen w ∧ ∀ target, ¬ e.OpensFileAt w target := by
  have hlocate : ∀ target, w.files.locate path ≠ .ok target := by
    intro target htarget
    obtain ⟨-, -, hshort, -⟩ := (locate_eq_ok_iff _ _ _).mp htarget
    omega
  have hdirectory : w.files.isDirectory path = false := by
    rw [Bool.eq_false_iff, Ne, isDirectory_eq_true_iff]
    simp [node_eq_ok_iff, hlocate]
  have hpath : path.text ≠ "" := by
    intro hempty
    simp [hempty] at hsep
  have hopens : ∀ target, ¬ e.OpensFileAt w target := by
    intro target h
    exact hlocate target ((opensFileAt_iff_of_sep hsource hdirectory hsep target).mp h).1
  exact ⟨(failsToOpen_iff_opensFileAt hsource hdirectory hpath).mpr hopens, hopens⟩

/-- Checks with the same outcome both fail to open a library, or neither
does. -/
theorem SameOutcome.failsToOpen_iff {f : Entry}
    (h : SameOutcome (e.verify w).result (f.verify w).result) :
    e.FailsToOpen w ↔ f.FailsToOpen w := by
  unfold FailsToOpen
  generalize (e.verify w).result = x at h
  generalize (f.verify w).result = y at h
  cases h with
  | ok _ => simp
  | error hcause =>
      cases hcause with
      | grammar hgrammar => cases hgrammar <;> simp
      | _ => simp

/-- What comes of two attempts to open the library of an entry agrees: neither
opens one, or the rest of the check comes to the same with what they open. -/
def OpenAlike (w : World) (e : Entry) :
    Except OpenFault SharedObject → Except OpenFault SharedObject → Prop :=
  Agree (fun _ _ => True) (e.SameWith w)

/-- Attempts agree in either order. -/
theorem OpenAlike.symm {x y : Except OpenFault SharedObject} (h : e.OpenAlike w x y) :
    e.OpenAlike w y x := by
  refine Agree.symm h (fun _ _ => id) ?_
  intro o o' hsame l l' hl hl' ho ho'
  exact (hsame l' l hl' hl ho' ho).symm

/-- For the agreement of attempts only the library counts that is opened. -/
theorem OpenAlike.of_opens {x x' y : Except OpenFault SharedObject} (h : e.OpenAlike w x y)
    (hx : ∀ object, x = .ok object ↔ x' = .ok object) : e.OpenAlike w x' y := by
  cases h with
  | ok hsame =>
      rw [(hx _).mp rfl]
      exact .ok hsame
  | error _ =>
      cases x' with
      | ok object => cases (hx object).mpr rfl
      | error fault => exact .error trivial

/-- **What the outcome depends on.**  Two entries ask for the same, and the paths
of their libraries are no directories.  Then the outcomes of their checks agree
exactly when what is opened under the two paths does. -/
theorem sameOutcome_iff_openAlike {f : Entry} (h : e.AsksAlike w f) {p q : Path}
    (he : e.source = .library p) (hf : f.source = .library q)
    (hp : w.files.isDirectory p = false) (hq : w.files.isDirectory q = false) :
    SameOutcome (e.verify w).result (f.verify w).result ↔
      e.OpenAlike w (w.files.openLibrary p) (w.files.openLibrary q) := by
  have hfirst := failsToOpen_iff_of_library he hp
  have hsecond := failsToOpen_iff_of_library hf hq
  cases hopen : w.files.openLibrary p with
  | error fault =>
      obtain ⟨reason, hreason⟩ : e.FailsToOpen w := hfirst.mpr (by simp [hopen])
      cases hopen' : w.files.openLibrary q with
      | error fault' =>
          obtain ⟨reason', hreason'⟩ : f.FailsToOpen w := hsecond.mpr (by simp [hopen'])
          rw [hreason, hreason']
          exact iff_of_true (.error (.grammar (.loadError _ _))) (.error trivial)
      | ok object' =>
          refine iff_of_false (fun hsame => ?_) (fun hopened => nomatch hopened)
          exact hsecond.mp (hsame.failsToOpen_iff.mp ⟨reason, hreason⟩) object' hopen'
  | ok object =>
      cases hopen' : w.files.openLibrary q with
      | error fault' =>
          have hfailed : f.FailsToOpen w := hsecond.mpr (by simp [hopen'])
          refine iff_of_false (fun hsame => ?_) (fun hopened => nomatch hopened)
          exact hfirst.mp (hsame.failsToOpen_iff.mpr hfailed) object hopen
      | ok object' =>
          rw [verify_of_openLibrary he hp hopen, verify_of_openLibrary hf hq hopen',
            ← sameWith_iff h rfl rfl]
          constructor
          · exact .ok
          · intro hopened
            cases hopened with
            | ok hsame => exact hsame

end Entry

end Config

end GrammarAudit
