import GrammarAudit.Proofs.CheckStages
import GrammarAudit.Proofs.ConfigPaths

/-!
# Libraries and directories of their name

A search asks for each place whether anything is there, and takes the first where
something is: a file, or a directory that has the name of a library.  It finds what
a search for files would find exactly if that is no directory.  Who opens what was
found looks no further, so a directory ends in an error of opening, although there
may be a library behind it.

* `FileSystem.findFileIn`: the search for a file.
* `FileSystem.findLibraryIn_eq_findFileIn_iff`: when the two find the same.
* `FileSystem.openLibrary_of_isDirectory`: no directory is opened.
* `World.found_may_be_directory`: what is found, opened and told, for a search, for
  a discovery and for an entry with a directory as its source.
* `World.directory_hides_library`: a directory that hides a library.
-/

namespace GrammarAudit

namespace FileSystem

variable (fs : FileSystem) (name : String)

/-- The path leads to a file. -/
def isFile (p : Path) : Bool :=
  match fs.node p with
  | .ok (.file _) => true
  | _ => false

/-- What is there is a file or a directory. -/
theorem exists_eq_isFile_or_isDirectory (p : Path) :
    fs.exists p = (fs.isFile p || fs.isDirectory p) := by
  unfold «exists» isFile isDirectory
  cases fs.node p with
  | error fault => rfl
  | ok n =>
      cases n with
      | file content => rfl
      | directory entries => rfl

/-- A directory is no file. -/
theorem isFile_of_isDirectory {p : Path} (hdirectory : fs.isDirectory p = true) :
    fs.isFile p = false := by
  obtain ⟨entries, hnode⟩ := (fs.isDirectory_eq_true_iff p).mp hdirectory
  rw [isFile, hnode]

/-- A path to a directory is not empty and holds no NUL. -/
theorem text_of_isDirectory {p : Path} (hdirectory : fs.isDirectory p = true) :
    '\x00' ∉ p.text.toList ∧ p.text ≠ "" := by
  obtain ⟨entries, hnode⟩ := (fs.isDirectory_eq_true_iff p).mp hdirectory
  obtain ⟨place, hplace, -⟩ := (fs.node_eq_ok_iff p _).mp hnode
  obtain ⟨hnul, hne, -, -⟩ := (fs.locate_eq_ok_iff p place).mp hplace
  exact ⟨hnul, by simpa using hne⟩

/-- The place of a library in a directory that is there is a path with a
separator. -/
theorem sep_mem_libraryPath {directory : Path} (hdirectory : fs.isDirectory directory = true) :
    '/' ∈ (libraryPath name directory).text.toList :=
  (libraryPath_text name directory).2 (fs.text_of_isDirectory hdirectory).2

/-- A directory is not opened as a library. -/
theorem openLibrary_of_isDirectory {p : Path} (hsep : '/' ∈ p.text.toList)
    (hdirectory : fs.isDirectory p = true) : fs.openLibrary p = .error .directory := by
  obtain ⟨hnul, hne⟩ := fs.text_of_isDirectory hdirectory
  obtain ⟨entries, hnode⟩ := (fs.isDirectory_eq_true_iff p).mp hdirectory
  have hfull : ¬ p.text.isEmpty = true := by simpa using hne
  rw [openLibrary, if_neg hnul, if_neg hfull, if_pos hsep, openFile, hnode]

/-- The library of a grammar in the first of some directories that has a file of
its file name. -/
def findFileIn (directories : List Path) : Except GrammarError Path :=
  match (directories.map (libraryPath name)).find? fs.isFile with
  | some path => .ok path
  | none => .error (.notFound name)

/-- One step of a search. -/
theorem findLibraryIn_cons (directory : Path) (rest : List Path) :
    fs.findLibraryIn name (directory :: rest)
      = if fs.exists (libraryPath name directory) then .ok (libraryPath name directory)
        else fs.findLibraryIn name rest := by
  unfold findLibraryIn
  rw [List.map_cons, List.find?_cons]
  cases fs.exists (libraryPath name directory) with
  | true => rfl
  | false => rfl

/-- One step of a search for a file. -/
theorem findFileIn_cons (directory : Path) (rest : List Path) :
    fs.findFileIn name (directory :: rest)
      = if fs.isFile (libraryPath name directory) then .ok (libraryPath name directory)
        else fs.findFileIn name rest := by
  unfold findFileIn
  rw [List.map_cons, List.find?_cons]
  cases fs.isFile (libraryPath name directory) with
  | true => rfl
  | false => rfl

variable {fs name}

/-- What a search for a file finds is a file. -/
theorem isFile_of_findFileIn {directories : List Path} {file : Path}
    (hfound : fs.findFileIn name directories = .ok file) : fs.isFile file = true := by
  induction directories with
  | nil => cases hfound
  | cons directory rest ih =>
      rw [findFileIn_cons] at hfound
      cases hfile : fs.isFile (libraryPath name directory) with
      | false => exact ih (by simpa [hfile] using hfound)
      | true =>
          obtain rfl : libraryPath name directory = file := by simpa [hfile] using hfound
          exact hfile

/-- **When a search is one for files.**  It finds the same exactly if what it finds is
no directory.  The induction is on the list of directories. -/
theorem findLibraryIn_eq_findFileIn_iff (directories : List Path) :
    fs.findLibraryIn name directories = fs.findFileIn name directories ↔
      ∀ file, fs.findLibraryIn name directories = .ok file → fs.isDirectory file = false := by
  induction directories with
  | nil => simp [findLibraryIn, findFileIn]
  | cons directory rest ih =>
      rw [findLibraryIn_cons, findFileIn_cons, exists_eq_isFile_or_isDirectory]
      cases hdirectory : fs.isDirectory (libraryPath name directory) with
      | false =>
          cases hfile : fs.isFile (libraryPath name directory) with
          | false => simpa using ih
          | true => simp [hdirectory]
      | true =>
          have hfile := fs.isFile_of_isDirectory hdirectory
          -- the search stops at the directory, and the one for a file never finds it
          have hother : Except.ok (libraryPath name directory) ≠ fs.findFileIn name rest := by
            intro hsame
            simp [isFile_of_findFileIn hsame.symm] at hfile
          simp [hfile, hother, hdirectory]

end FileSystem

namespace Config.Entry

variable {w : World} {e : Entry} {directory : Path}

/-- **A directory without the library.**  The check of an entry tells that the grammar
is not found exactly if its directory has no entry of the library's name. -/
theorem verify_eq_notFound_iff (hsource : e.source = .library directory)
    (hdirectory : w.files.isDirectory directory = true) :
    (e.verify w).result = .error (.grammar (.notFound e.name)) ↔
      w.files.exists (libraryPath e.name directory) = false := by
  constructor
  · intro hfailed
    obtain ⟨stage, hfails, -⟩ := exists_stopsAt_of_error hfailed
    cases hfails with
    | notFound hother _ hmissing =>
        obtain rfl := EntrySource.library.inj (hsource.symm.trans hother)
        exact hmissing
  · intro hmissing
    have hfails : e.Fails w .search (.grammar (.notFound e.name)) :=
      .notFound hsource hdirectory hmissing
    exact verify_of_provider_error ((provider_eq_error_iff w e _).mpr (Or.inl hfails))

/-- **A directory in a directory.**  If the entry of the library's name is a directory,
it is opened, which fails. -/
theorem verify_of_isDirectory (hsource : e.source = .library directory)
    (hdirectory : w.files.isDirectory directory = true)
    (hinside : w.files.isDirectory (libraryPath e.name directory) = true) :
    (e.verify w).result = .error (.grammar (.loadError
      ((libraryPath e.name directory).text ++ ": "
        ++ OpenFault.directory.message (libraryPath e.name directory)))) := by
  have hopen := w.files.openLibrary_of_isDirectory (w.files.sep_mem_libraryPath e.name hdirectory)
    hinside
  have hexists : w.files.exists (libraryPath e.name directory) = true := by
    obtain ⟨entries, hnode⟩ := (w.files.isDirectory_eq_true_iff _).mp hinside
    exact (w.files.exists_eq_true_iff _).mpr ⟨_, hnode⟩
  exact verify_of_provider_error ((provider_eq_error_iff w e _).mpr
    (Or.inr (.notOpened hsource (.inside hdirectory hexists) hopen)))

end Config.Entry

namespace World

variable (w : World)

/-- Every directory that is searched is one of grammars below another one. -/
theorem exists_eq_grammarsBelow {directory : Path} (hmem : directory ∈ w.searchPaths) :
    ∃ base, directory = grammarsBelow base := by
  rw [searchPaths, List.mem_append] at hmem
  rcases hmem with hown | hhelix
  · simp only [Environment.ownSearchPaths, List.mem_append, Option.mem_toList,
      Option.map_eq_some_iff] at hown
    rcases hown with (⟨base, -, hbase⟩ | ⟨base, -, hbase⟩) | ⟨base, -, hbase⟩
    · exact ⟨_, hbase.symm⟩
    · exact ⟨_, hbase.symm⟩
    · exact ⟨_, hbase.symm⟩
  · obtain ⟨base, -, hbase⟩ := List.mem_map.mp hhelix
    exact ⟨base, hbase.symm⟩

/-- What is found on the search paths has a separator in its path. -/
theorem sep_mem_of_findLibrary {name : String} {file : Path}
    (hfound : w.findLibrary name = .ok file) : '/' ∈ file.text.toList := by
  obtain ⟨before, directory, after, hpaths, rfl, -, -⟩ :=
    (w.files.findLibraryIn_eq_ok_iff name w.searchPaths file).mp hfound
  have hmem : directory ∈ w.searchPaths := by simp [hpaths]
  obtain ⟨base, rfl⟩ := w.exists_eq_grammarsBelow hmem
  have hrelative : (Path.mk "grammars").isRelative = true := by decide
  have hne : (grammarsBelow base).text.toList ≠ [] := by
    rw [grammarsBelow, Ne, Path.join_eq_nil_iff base hrelative]
    simp
  exact (libraryPath_text name _).2 (by simpa using hne)

/-- A discovery opens what is found on the search paths. -/
theorem discover_of_findLibrary_ok {name : String} {file : Path}
    (hfound : w.findLibrary name = .ok file) (display : String) :
    SharedLibrary.discover w name display = SharedLibrary.open w.files name display file := by
  rw [SharedLibrary.discover, hfound, Logged.ofExcept_ok_bind]

/-- A discovery fails where nothing is found. -/
theorem discover_of_findLibrary_error {name : String} {error : GrammarError}
    (hmissing : w.findLibrary name = .error error) (display : String) :
    SharedLibrary.discover w name display = ⟨[], .error error⟩ := by
  unfold SharedLibrary.discover
  rw [hmissing]
  rfl

/-- **What is found under the name of a library.**  A search finds the first place
where there is a file or a directory.  It is the search for a file exactly if what it
finds is no directory.  What a search of the search paths finds is opened, and opening
a directory fails.  An entry whose source is a directory is told not to be found exactly
if this has neither a file nor a directory of the library's name, and with a directory
of that name it fails to be opened. -/
theorem found_may_be_directory (name : String) :
    (∀ directories,
      (∀ file, w.files.findLibraryIn name directories = .ok file ↔
        ∃ before directory after, directories = before ++ directory :: after ∧
          file = libraryPath name directory ∧
          (w.files.isFile file = true ∨ w.files.isDirectory file = true) ∧
          ∀ earlier ∈ before, w.files.isFile (libraryPath name earlier) = false ∧
            w.files.isDirectory (libraryPath name earlier) = false) ∧
      (∀ error, w.files.findLibraryIn name directories = .error error ↔
        error = .notFound name ∧ ∀ directory ∈ directories,
          w.files.isFile (libraryPath name directory) = false ∧
            w.files.isDirectory (libraryPath name directory) = false) ∧
      (w.files.findLibraryIn name directories = w.files.findFileIn name directories ↔
        ∀ file, w.files.findLibraryIn name directories = .ok file →
          w.files.isDirectory file = false)) ∧
    (∀ display,
      (∀ error, w.findLibrary name = .error error →
        (SharedLibrary.discover w name display).result = .error error) ∧
      ∀ file, w.findLibrary name = .ok file →
        SharedLibrary.discover w name display = SharedLibrary.open w.files name display file ∧
        (w.files.isDirectory file = true →
          (SharedLibrary.discover w name display).result
            = .error (.loadError (file.text ++ ": " ++ OpenFault.directory.message file)))) ∧
    ∀ (e : Config.Entry) (directory : Path), e.name = name → e.source = .library directory →
      w.files.isDirectory directory = true →
      ((e.verify w).result = .error (.grammar (.notFound name)) ↔
        w.files.isFile (libraryPath name directory) = false ∧
          w.files.isDirectory (libraryPath name directory) = false) ∧
      (w.files.isDirectory (libraryPath name directory) = true →
        (e.verify w).result = .error (.grammar (.loadError ((libraryPath name directory).text
          ++ ": " ++ OpenFault.directory.message (libraryPath name directory))))) := by
  have hnothing : ∀ p, w.files.exists p = false ↔
      w.files.isFile p = false ∧ w.files.isDirectory p = false := by
    intro p
    rw [FileSystem.exists_eq_isFile_or_isDirectory, Bool.or_eq_false_iff]
  refine ⟨fun directories => ⟨fun file => ?_, fun error => ?_, ?_⟩, fun display => ⟨?_, ?_⟩, ?_⟩
  · rw [FileSystem.findLibraryIn_eq_ok_iff]
    simp only [FileSystem.exists_eq_isFile_or_isDirectory, Bool.or_eq_true, Bool.or_eq_false_iff]
  · rw [FileSystem.findLibraryIn_eq_error_iff]
    simp only [hnothing]
  · exact FileSystem.findLibraryIn_eq_findFileIn_iff directories
  · intro error hmissing
    rw [w.discover_of_findLibrary_error hmissing]
  · intro file hfound
    have hopened := w.discover_of_findLibrary_ok hfound display
    refine ⟨hopened, fun hdirectory => ?_⟩
    have hfault := w.files.openLibrary_of_isDirectory (w.sep_mem_of_findLibrary hfound) hdirectory
    rw [hopened, SharedLibrary.open, hfault]
  · intro e directory hname hsource hdirectory
    subst hname
    rw [Config.Entry.verify_eq_notFound_iff hsource hdirectory, hnothing]
    exact ⟨Iff.rfl, Config.Entry.verify_of_isDirectory hsource hdirectory⟩

/-- A directory with the name of a library is found, although a library is there in the
next directory, and an entry that takes it for its library cannot open it. -/
theorem directory_hides_library :
    let language : Language := ⟨14, [], fun _ => none⟩
    let library : Node := .file (.library ⟨[("tree_sitter_m", some language)]⟩)
    let w : World := {
      files := ⟨.directory [("a", .directory [("libm.so", .directory [])]),
        ("b", .directory [("libm.so", library)])], [], []⟩
      environment := ⟨[]⟩
      linked := language }
    w.files.findFileIn "m" [⟨"/a"⟩, ⟨"/b"⟩] = .ok ⟨"/b/libm.so"⟩ ∧
      w.files.findLibraryIn "m" [⟨"/a"⟩, ⟨"/b"⟩] = .ok ⟨"/a/libm.so"⟩ ∧
      w.files.isFile ⟨"/a/libm.so"⟩ = false ∧
      ((Config.Entry.ofLibrary "m" ⟨"/a"⟩).verify w).result
        = .error (.grammar (.loadError
          "/a/libm.so: /a/libm.so: cannot read file data: Is a directory")) := by
  intro language library w
  refine ⟨?_, ?_, ?_, ?_⟩
  · rfl
  · rfl
  · rfl
  · rfl

end World

end GrammarAudit
