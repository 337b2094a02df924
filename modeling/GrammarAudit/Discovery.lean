import GrammarAudit.GrammarError
import GrammarAudit.Naming
import GrammarAudit.World

/-!
# Searching for grammar libraries

Libraries are searched in the program's own directories first and then in those
of the Helix editor.

* `runtimeDirectory` is where the program keeps its files, `searchPaths` where
  libraries are looked for, in order.
* `findLibraryIn` takes the first directory with an entry of the library's file
  name; `findLibraryIn_eq_ok_iff`, `findLibraryIn_eq_error_iff` and
  `findLibraryIn_append` say what it finds.
-/

namespace GrammarAudit

/-- The variable that names the program's runtime directory. -/
def runtimeVariable : String := "SCSS_PROBE_RUNTIME"

/-- The program's directory below a base directory. -/
def programDirectory (base : Path) : Path := base.join ⟨"scss-probe"⟩

/-- The directory of grammars below a runtime directory. -/
def grammarsBelow (directory : Path) : Path := directory.join ⟨"grammars"⟩

/-- The runtime directory that the environment sets, if it does. -/
def Environment.runtimeOverride? (env : Environment) : Option Path :=
  (env.get? runtimeVariable).map Path.mk

/-- The program's runtime directory: the one set, else the one below the user's
data directory. -/
def Environment.runtimeDirectory (env : Environment) : Path :=
  match env.runtimeOverride? with
  | some directory => directory
  | none => (env.dataDirectory?.map programDirectory).getD ⟨"."⟩

/-- The runtime directory of the Helix editor below the user's settings. -/
def Environment.userHelixDirectory? (env : Environment) : Option Path :=
  env.configDirectory?.map fun config => (config.join ⟨"helix"⟩).join ⟨"runtime"⟩

/-- The directories of the Helix editor: the one its variable names, and the
user's if it is there. -/
def World.helixDirectories (w : World) : List Path :=
  ((w.environment.get? "HELIX_RUNTIME").map Path.mk).toList
    ++ w.environment.userHelixDirectory?.toList.filter w.files.exists

/-- The program's own directories of grammars: below the runtime directory that
is set, in the cache and in the user's data. -/
def Environment.ownSearchPaths (env : Environment) : List Path :=
  (env.runtimeOverride?.map grammarsBelow).toList
    ++ (env.cacheDirectory?.map fun base => grammarsBelow (programDirectory base)).toList
    ++ (env.dataDirectory?.map fun base => grammarsBelow (programDirectory base)).toList

/-- The directories that are searched for grammar libraries, in order. -/
def World.searchPaths (w : World) : List Path :=
  w.environment.ownSearchPaths ++ w.helixDirectories.map grammarsBelow

/-- The library of a grammar in the first of some directories that has an entry
of its file name. -/
def FileSystem.findLibraryIn (fs : FileSystem) (name : String) (directories : List Path) :
    Except GrammarError Path :=
  match (directories.map (libraryPath name)).find? fs.exists with
  | some path => .ok path
  | none => .error (.notFound name)

section FindLibraryIn

variable (fs : FileSystem) (name : String)

/-- What a search finds is the first of the places that it looks at to have an
entry. -/
theorem FileSystem.findLibraryIn_eq_ok_iff_find? (directories : List Path) (file : Path) :
    fs.findLibraryIn name directories = .ok file ↔
      (directories.map (libraryPath name)).find? fs.exists = some file := by
  unfold findLibraryIn
  cases (directories.map (libraryPath name)).find? fs.exists with
  | none => simp
  | some path => simp

/-- A search finds the library of a directory if that has an entry of the file
name and no directory before it has one. -/
theorem FileSystem.findLibraryIn_eq_ok_iff (directories : List Path) (file : Path) :
    fs.findLibraryIn name directories = .ok file ↔
      ∃ before directory after, directories = before ++ directory :: after ∧
        file = libraryPath name directory ∧ fs.exists file = true ∧
        ∀ earlier ∈ before, fs.exists (libraryPath name earlier) = false := by
  rw [findLibraryIn_eq_ok_iff_find?, List.find?_eq_some_iff_append]
  constructor
  · intro h
    obtain ⟨hexists, places, others, hsplit, hearlier⟩ := h
    obtain ⟨before, rest, rfl, hplaces, hrest⟩ := List.map_eq_append_iff.mp hsplit
    obtain ⟨directory, after, rfl, hfile, -⟩ := List.map_eq_cons_iff.mp hrest
    refine ⟨before, directory, after, rfl, hfile.symm, hexists, fun earlier hmem => ?_⟩
    have hplace : libraryPath name earlier ∈ places := hplaces ▸ List.mem_map_of_mem hmem
    simpa using hearlier _ hplace
  · intro h
    obtain ⟨before, directory, after, rfl, rfl, hexists, hearlier⟩ := h
    refine ⟨hexists, before.map (libraryPath name), after.map (libraryPath name), by simp, ?_⟩
    intro place hplace
    obtain ⟨earlier, hmem, rfl⟩ := List.mem_map.mp hplace
    simp [hearlier earlier hmem]

/-- A search fails if no directory has an entry of the file name, and tells the
name of the grammar. -/
theorem FileSystem.findLibraryIn_eq_error_iff (directories : List Path) (error : GrammarError) :
    fs.findLibraryIn name directories = .error error ↔
      error = .notFound name ∧
        ∀ directory ∈ directories, fs.exists (libraryPath name directory) = false := by
  have hnone : (directories.map (libraryPath name)).find? fs.exists = none ↔
      ∀ directory ∈ directories, fs.exists (libraryPath name directory) = false := by
    simp
  rw [← hnone]
  unfold findLibraryIn
  cases (directories.map (libraryPath name)).find? fs.exists with
  | none => simp [eq_comm]
  | some path => simp

/-- Two lists of directories are searched one after the other. -/
theorem FileSystem.findLibraryIn_append (first second : List Path) :
    fs.findLibraryIn name (first ++ second)
      = (fs.findLibraryIn name first).tryCatch fun _ => fs.findLibraryIn name second := by
  unfold findLibraryIn
  rw [List.map_append, List.find?_append]
  cases (first.map (libraryPath name)).find? fs.exists with
  | none => rfl
  | some path => rfl

end FindLibraryIn

/-- The library of a grammar on the search paths. -/
def World.findLibrary (w : World) (name : String) : Except GrammarError Path :=
  w.files.findLibraryIn name w.searchPaths

end GrammarAudit
