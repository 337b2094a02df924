import GrammarAudit.Discovery

/-!
# The order of a search

The search paths are the program's own directories and after them those of the
Helix editor.  Two functions know where the program keeps its files, the runtime
directory and the list of search paths; this file shows that they agree, and what
one more setting changes in the list: the runtime variable puts a directory in
front, the Helix variable and the user's Helix directory add one behind the
program's own.  A search of two lists is a search of the first and then of the
second, so each time it follows what is found.

* `Environment.exists_runtime_entry`: the directory of grammars below the runtime
  directory is one of the program's own.
* `World.searchPaths_eq_parts`: the list is made of four parts, of which each
  depends on little.
* `World.searchPaths_set_runtime`, `World.searchPaths_set_helix`,
  `World.searchPaths_withFiles`: what one more setting changes.
* `World.findLibrary_set_runtime`, `World.findLibrary_set_helix`: what is found then.
* `World.search_order`: all of this.
-/

namespace GrammarAudit

/-- What has failed once need not be tried again. -/
theorem tryCatch_again {ε α : Type} (x y z : Except ε α) :
    (x.tryCatch fun _ => y.tryCatch fun _ => x.tryCatch fun _ => z)
      = x.tryCatch fun _ => y.tryCatch fun _ => z := by
  cases x with
  | ok a => rfl
  | error e => rfl

/-- The variable that names the runtime directory of the Helix editor. -/
def helixVariable : String := "HELIX_RUNTIME"

namespace Environment

variable {env env' : Environment}

/-- The variables that the base directories follow from. -/
def baseVariables : List String := ["HOME", "XDG_CACHE_HOME", "XDG_CONFIG_HOME", "XDG_DATA_HOME"]

/-- Two environments have the same base directories. -/
def SameBases (env env' : Environment) : Prop :=
  ∀ name ∈ baseVariables, env.get? name = env'.get? name

/-- Setting another variable leaves the base directories as they are. -/
theorem sameBases_set {name : String} (hname : name ∉ baseVariables) (env : Environment)
    (value : String) : (env.set name value).SameBases env := by
  intro base hbase
  have hne : base ≠ name := fun h => hname (h ▸ hbase)
  rw [get?_set, if_neg hne]

/-- Taking away another variable leaves the base directories as they are. -/
theorem sameBases_unset {name : String} (hname : name ∉ baseVariables) (env : Environment) :
    (env.unset name).SameBases env := by
  intro base hbase
  have hne : base ≠ name := fun h => hname (h ▸ hbase)
  rw [get?_unset, if_neg hne]

/-- A base directory follows from its own variable and that of the home
directory. -/
theorem SameBases.baseDirectory? (h : env.SameBases env') {name : String}
    (hname : name ∈ baseVariables) (below : String) :
    env.baseDirectory? name below = env'.baseDirectory? name below := by
  unfold Environment.baseDirectory? home?
  rw [h "HOME" (by decide), h name hname]

/-- Every base directory is known where the home directory is. -/
theorem exists_baseDirectory {home : String} (hhome : env.get? "HOME" = some home)
    (hne : home ≠ "") (name below : String) : ∃ base, env.baseDirectory? name below = some base := by
  have hknown : env.home? = some ⟨home⟩ := by
    simp [home?, hhome, hne]
  unfold Environment.baseDirectory?
  rw [hknown]
  cases env.get? name with
  | none => exact ⟨_, rfl⟩
  | some value =>
      by_cases habsolute : (Path.mk value).isAbsolute = true
      · exact ⟨_, if_pos habsolute⟩
      · exact ⟨_, if_neg habsolute⟩

/-- **The runtime directory is searched.**  Where the home directory is known, the
directory of grammars below the runtime directory is one of the program's own. -/
theorem exists_runtime_entry {home : String} (hhome : env.get? "HOME" = some home)
    (hne : home ≠ "") : ∃ before after,
      env.ownSearchPaths = before ++ grammarsBelow env.runtimeDirectory :: after := by
  unfold ownSearchPaths runtimeDirectory
  cases env.runtimeOverride? with
  | some directory => exact ⟨[], _, rfl⟩
  | none =>
      have hknown : ∃ data, env.dataDirectory? = some data :=
        exists_baseDirectory hhome hne "XDG_DATA_HOME" ".local/share"
      obtain ⟨data, hdata⟩ := hknown
      rw [hdata]
      exact ⟨_, [], rfl⟩

/-- The place for grammars below the directory that a variable names, if it is
set. -/
def entryOf (env : Environment) (name : String) : List Path :=
  ((env.get? name).map fun directory => grammarsBelow ⟨directory⟩).toList

/-- The places for grammars below the user's directories of the program. -/
def userEntries (env : Environment) : List Path :=
  (env.cacheDirectory?.map fun base => grammarsBelow (programDirectory base)).toList
    ++ (env.dataDirectory?.map fun base => grammarsBelow (programDirectory base)).toList

@[simp] theorem entryOf_set (env : Environment) (name value other : String) :
    (env.set name value).entryOf other
      = if other = name then [grammarsBelow ⟨value⟩] else env.entryOf other := by
  unfold entryOf
  rw [get?_set]
  by_cases h : other = name
  · rw [if_pos h, if_pos h]
    rfl
  · rw [if_neg h, if_neg h]

@[simp] theorem entryOf_unset (env : Environment) (name other : String) :
    (env.unset name).entryOf other = if other = name then [] else env.entryOf other := by
  unfold entryOf
  rw [get?_unset]
  by_cases h : other = name
  · rw [if_pos h, if_pos h]
    rfl
  · rw [if_neg h, if_neg h]

/-- The program's own directories: the one that the runtime variable names, and
the user's. -/
theorem ownSearchPaths_eq (env : Environment) :
    env.ownSearchPaths = env.entryOf runtimeVariable ++ env.userEntries := by
  unfold ownSearchPaths runtimeOverride? entryOf userEntries
  rw [Option.map_map, List.append_assoc]
  rfl

theorem SameBases.userEntries (h : env.SameBases env') : env.userEntries = env'.userEntries := by
  have hcache : env.cacheDirectory? = env'.cacheDirectory? := h.baseDirectory? (by decide) _
  have hdata : env.dataDirectory? = env'.dataDirectory? := h.baseDirectory? (by decide) _
  unfold Environment.userEntries
  rw [hcache, hdata]

theorem SameBases.userHelixDirectory? (h : env.SameBases env') :
    env.userHelixDirectory? = env'.userHelixDirectory? := by
  have hconfig : env.configDirectory? = env'.configDirectory? := h.baseDirectory? (by decide) _
  unfold Environment.userHelixDirectory?
  rw [hconfig]

end Environment

namespace World

open Environment

variable (w : World)

/-- The surroundings in another environment. -/
def inEnvironment (environment : Environment) : World := { w with environment }

/-- The surroundings with a variable set. -/
def setVariable (name value : String) : World :=
  w.inEnvironment (w.environment.set name value)

/-- The surroundings without a variable. -/
def unsetVariable (name : String) : World := w.inEnvironment (w.environment.unset name)

theorem files_setVariable (name value : String) : (w.setVariable name value).files = w.files := by
  unfold setVariable inEnvironment
  rfl

theorem files_unsetVariable (name : String) : (w.unsetVariable name).files = w.files := by
  unfold unsetVariable inEnvironment
  rfl

/-- The surroundings with other files. -/
def withFiles (files : FileSystem) : World := { w with files }

/-- The place for grammars below the user's Helix directory, if that is there. -/
def userHelixEntry : List Path :=
  (w.environment.userHelixDirectory?.toList.filter w.files.exists).map grammarsBelow

/-- The places for grammars of the Helix editor: below the directory that its
variable names, and the user's. -/
theorem helixDirectories_map :
    w.helixDirectories.map grammarsBelow
      = w.environment.entryOf helixVariable ++ w.userHelixEntry := by
  unfold helixDirectories entryOf userHelixEntry helixVariable
  rw [List.map_append]
  cases w.environment.get? "HELIX_RUNTIME" with
  | none => rfl
  | some directory => rfl

/-- **The parts of the search paths.** -/
theorem searchPaths_eq_parts :
    w.searchPaths = w.environment.entryOf runtimeVariable ++ w.environment.userEntries
      ++ (w.environment.entryOf helixVariable ++ w.userHelixEntry) := by
  rw [searchPaths, ownSearchPaths_eq, helixDirectories_map]

/-- In an environment with the same base directories only those places are other
ones that variables name. -/
theorem searchPaths_inEnvironment {env : Environment} (h : env.SameBases w.environment) :
    (w.inEnvironment env).searchPaths = env.entryOf runtimeVariable ++ w.environment.userEntries
      ++ (env.entryOf helixVariable ++ w.userHelixEntry) := by
  have huser : (w.inEnvironment env).userHelixEntry = w.userHelixEntry := by
    show (env.userHelixDirectory?.toList.filter w.files.exists).map grammarsBelow = _
    rw [h.userHelixDirectory?]
    rfl
  rw [searchPaths_eq_parts, huser]
  show env.entryOf runtimeVariable ++ env.userEntries ++ _ = _
  rw [h.userEntries]
  rfl

/-- Without a variable that is not set the surroundings are the same. -/
theorem unsetVariable_of_none {name : String} (h : w.environment.get? name = none) :
    w.unsetVariable name = w := by
  unfold unsetVariable inEnvironment
  rw [unset_of_get?_eq_none h]

/-- **The runtime variable.**  Setting it puts one directory in front. -/
theorem searchPaths_set_runtime (directory : String) :
    (w.setVariable runtimeVariable directory).searchPaths
      = grammarsBelow ⟨directory⟩ :: (w.unsetVariable runtimeVariable).searchPaths := by
  unfold setVariable unsetVariable
  rw [searchPaths_inEnvironment w (sameBases_set (by decide) _ _),
    searchPaths_inEnvironment w (sameBases_unset (by decide) _)]
  have hother : helixVariable ≠ runtimeVariable := by decide
  simp [hother]

/-- A directory that the runtime variable names already is the one in front, and
behind it is what is searched without the variable. -/
theorem searchPaths_eq_runtime :
    w.searchPaths = w.environment.entryOf runtimeVariable
      ++ (w.unsetVariable runtimeVariable).searchPaths := by
  unfold unsetVariable
  rw [searchPaths_eq_parts, searchPaths_inEnvironment w (sameBases_unset (by decide) _)]
  have hother : helixVariable ≠ runtimeVariable := by decide
  simp [hother]

/-- With the runtime variable set its directory is searched, and then what is searched
without it. -/
theorem findLibrary_set_runtime (name directory : String) :
    (w.setVariable runtimeVariable directory).findLibrary name
      = (w.files.findLibraryIn name [grammarsBelow ⟨directory⟩]).tryCatch fun _ =>
        (w.unsetVariable runtimeVariable).findLibrary name := by
  have hfront : (w.setVariable runtimeVariable directory).searchPaths
      = [grammarsBelow ⟨directory⟩] ++ (w.unsetVariable runtimeVariable).searchPaths :=
    w.searchPaths_set_runtime directory
  rw [findLibrary, hfront, files_setVariable, findLibrary, files_unsetVariable]
  exact w.files.findLibraryIn_append name _ _

/-- **The Helix variable.**  Setting it adds one directory behind the program's
own. -/
theorem searchPaths_set_helix (directory : String) :
    ∃ rest, (w.unsetVariable helixVariable).searchPaths = w.environment.ownSearchPaths ++ rest ∧
      (w.setVariable helixVariable directory).searchPaths
        = w.environment.ownSearchPaths ++ grammarsBelow ⟨directory⟩ :: rest := by
  unfold setVariable unsetVariable
  rw [searchPaths_inEnvironment w (sameBases_set (by decide) _ _),
    searchPaths_inEnvironment w (sameBases_unset (by decide) _), ownSearchPaths_eq]
  have hother : runtimeVariable ≠ helixVariable := by decide
  exact ⟨w.userHelixEntry, by simp [hother], by simp [hother]⟩

/-- With the Helix variable set its directory is searched after all of the
program's own, and then what is searched without it. -/
theorem findLibrary_set_helix (name directory : String) :
    (w.setVariable helixVariable directory).findLibrary name
      = (w.files.findLibraryIn name w.environment.ownSearchPaths).tryCatch fun _ =>
        (w.files.findLibraryIn name [grammarsBelow ⟨directory⟩]).tryCatch fun _ =>
        (w.unsetVariable helixVariable).findLibrary name := by
  obtain ⟨rest, hunset, hset⟩ := w.searchPaths_set_helix directory
  have hbehind : w.files.findLibraryIn name (grammarsBelow ⟨directory⟩ :: rest)
      = (w.files.findLibraryIn name [grammarsBelow ⟨directory⟩]).tryCatch fun _ =>
        w.files.findLibraryIn name rest :=
    w.files.findLibraryIn_append name [grammarsBelow ⟨directory⟩] rest
  have hwith : (w.setVariable helixVariable directory).findLibrary name
      = w.files.findLibraryIn name
        (w.environment.ownSearchPaths ++ grammarsBelow ⟨directory⟩ :: rest) := by
    rw [findLibrary, hset, files_setVariable]
  have hwithout : (w.unsetVariable helixVariable).findLibrary name
      = w.files.findLibraryIn name (w.environment.ownSearchPaths ++ rest) := by
    rw [findLibrary, hunset, files_unsetVariable]
  rw [hwith, hwithout, FileSystem.findLibraryIn_append, FileSystem.findLibraryIn_append, hbehind]
  exact (tryCatch_again _ _ _).symm

/-- **The user's Helix directory.**  Once it is there, one directory is added at
the end. -/
theorem searchPaths_withFiles {files : FileSystem} {directory : Path}
    (huser : w.environment.userHelixDirectory? = some directory)
    (habsent : w.files.exists directory = false) (hthere : files.exists directory = true) :
    (w.withFiles files).searchPaths = w.searchPaths ++ [grammarsBelow directory] := by
  have hbefore : w.userHelixEntry = [] := by
    simp [userHelixEntry, huser, habsent]
  have hafter : (w.withFiles files).userHelixEntry = [grammarsBelow directory] := by
    simp [userHelixEntry, withFiles, huser, hthere]
  rw [searchPaths_eq_parts, searchPaths_eq_parts, hbefore, hafter, List.append_nil,
    List.append_assoc, List.append_assoc, List.append_assoc]
  rfl

/-- **The order of a search, and what overrides it.**  A search finds the library
of the first directory that has an entry of its file name, and a search of two
lists is one of the first and, where that fails, of the second.  Where the home
directory is known, the directory of grammars below the runtime directory is
searched, and before all of the Helix editor.  The runtime variable puts one
directory in front; its library is found if it has one, and otherwise what is
found without the variable.  The Helix variable and the user's Helix directory
add one directory behind the program's own, and what the editor has counts only
where these have no such library. -/
theorem search_order (w : World) (name : String) :
    (∀ first second, w.files.findLibraryIn name (first ++ second)
      = (w.files.findLibraryIn name first).tryCatch fun _ => w.files.findLibraryIn name second) ∧
    (∀ directories file, w.files.findLibraryIn name directories = .ok file ↔
      ∃ before directory after, directories = before ++ directory :: after ∧
        file = libraryPath name directory ∧ w.files.exists file = true ∧
        ∀ earlier ∈ before, w.files.exists (libraryPath name earlier) = false) ∧
    (∀ directories error, w.files.findLibraryIn name directories = .error error ↔
      error = .notFound name ∧
        ∀ directory ∈ directories, w.files.exists (libraryPath name directory) = false) ∧
    (∀ home, w.environment.get? "HOME" = some home → home ≠ "" → ∃ before after,
      w.searchPaths = before ++ grammarsBelow w.environment.runtimeDirectory :: after
        ++ w.helixDirectories.map grammarsBelow) ∧
    ((w.environment.get? runtimeVariable = none → w.unsetVariable runtimeVariable = w) ∧
      w.searchPaths = w.environment.entryOf runtimeVariable
        ++ (w.unsetVariable runtimeVariable).searchPaths ∧
      ∀ directory, (w.setVariable runtimeVariable directory).searchPaths
          = grammarsBelow ⟨directory⟩ :: (w.unsetVariable runtimeVariable).searchPaths ∧
        (w.setVariable runtimeVariable directory).findLibrary name
          = (w.files.findLibraryIn name [grammarsBelow ⟨directory⟩]).tryCatch fun _ =>
            (w.unsetVariable runtimeVariable).findLibrary name) ∧
    (∀ directory, ∃ rest,
      (w.unsetVariable helixVariable).searchPaths = w.environment.ownSearchPaths ++ rest ∧
      (w.setVariable helixVariable directory).searchPaths
        = w.environment.ownSearchPaths ++ grammarsBelow ⟨directory⟩ :: rest ∧
      (w.setVariable helixVariable directory).findLibrary name
        = (w.files.findLibraryIn name w.environment.ownSearchPaths).tryCatch fun _ =>
          (w.files.findLibraryIn name [grammarsBelow ⟨directory⟩]).tryCatch fun _ =>
          (w.unsetVariable helixVariable).findLibrary name) ∧
    (∀ files directory, w.environment.userHelixDirectory? = some directory →
      w.files.exists directory = false → files.exists directory = true →
      (w.withFiles files).searchPaths = w.searchPaths ++ [grammarsBelow directory]) ∧
    w.findLibrary name
      = (w.files.findLibraryIn name w.environment.ownSearchPaths).tryCatch fun _ =>
        w.files.findLibraryIn name (w.helixDirectories.map grammarsBelow) := by
  refine ⟨w.files.findLibraryIn_append name, w.files.findLibraryIn_eq_ok_iff name,
    w.files.findLibraryIn_eq_error_iff name, ?_, ⟨w.unsetVariable_of_none,
      w.searchPaths_eq_runtime, fun directory => ?_⟩, fun directory => ?_,
    fun _ _ => w.searchPaths_withFiles, ?_⟩
  · intro home hhome hne
    obtain ⟨before, after, hown⟩ := exists_runtime_entry hhome hne
    refine ⟨before, after, ?_⟩
    rw [searchPaths, hown]
  · exact ⟨w.searchPaths_set_runtime directory, w.findLibrary_set_runtime name directory⟩
  · obtain ⟨rest, hunset, hset⟩ := w.searchPaths_set_helix directory
    exact ⟨rest, hunset, hset, w.findLibrary_set_helix name directory⟩
  · rw [findLibrary, searchPaths]
    exact w.files.findLibraryIn_append name _ _

/-- With both variables set the runtime directory is searched before all of the
Helix editor, and the user's Helix directory comes last once it is made. -/
theorem search_paths_after_making_helix_directory :
    let w : World := {
      files := ⟨.directory [], [], []⟩
      environment := ⟨[("HOME", "/h"), ("SCSS_PROBE_RUNTIME", "/r"), ("HELIX_RUNTIME", "/x")]⟩
      linked := ⟨14, [], fun _ => none⟩ }
    let files := w.files.makeDirectory ⟨"/h/.config/helix/runtime"⟩
    (∃ before after, w.searchPaths
      = before ++ ⟨"/r/grammars"⟩ :: after ++ w.helixDirectories.map grammarsBelow) ∧
    (w.withFiles files).searchPaths
      = w.searchPaths ++ [⟨"/h/.config/helix/runtime/grammars"⟩] := by
  intro w files
  obtain ⟨-, -, -, hruntime, -, -, huser, -⟩ := search_order w "m"
  have hdirectory : w.environment.userHelixDirectory? = some ⟨"/h/.config/helix/runtime"⟩ := by
    rfl
  have hentry : grammarsBelow w.environment.runtimeDirectory = ⟨"/r/grammars"⟩ := by
    decide
  refine ⟨hentry ▸ hruntime "/h" rfl (by decide), ?_⟩
  exact huser files _ hdirectory (by rfl) (by rfl)

end World

end GrammarAudit
