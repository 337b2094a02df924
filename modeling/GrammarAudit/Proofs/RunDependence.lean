import GrammarAudit.Proofs.FoundLibraries
import GrammarAudit.Proofs.NamedEntries

/-!
# What the outcome of a run depends on

A run reads its surroundings in few places: the config file or, without one, the
runtime directory that the environment names; for an entry with a library the
path of that, or the library's file in the directory under that path, or the
system's libraries of that name; and the samples.  Two surroundings that agree
there agree in every stage of the run, so they give the same output and the same
ending.  What is logged may differ, and it may depend on more.

* `FileSystem.systemLibrary?_congr`, `FileSystem.openLibrary_congr`,
  `libraryFile_congr`: the questions that are asked about a library.
* `verify_congr`: the check of an entry.
* `select_congr_of_environment`, `select_congr_of_config`, `select_of_library`:
  the selection.
* `runWith_congr`: the run.
* `outcome_depends_on_looked_at`: all of this, for every command line that is
  read.
-/

namespace GrammarAudit

/-- What is under a path, without the entries of a directory. -/
inductive PathState
  | directory
  | file (content : Content)

/-- A node without the entries of a directory. -/
def Node.state : Node → PathState
  | .directory _ => .directory
  | .file content => .file content

namespace FileSystem

/-- The state of a path: what is under it, or why nothing is. -/
def state (fs : FileSystem) (p : Path) : Except IoFault PathState := (fs.node p).map Node.state

variable {fs fs' : FileSystem} {p : Path}

/-- A path exists in file systems that agree on its state, or it does not. -/
theorem exists_congr (h : fs.state p = fs'.state p) : fs.exists p = fs'.exists p := by
  unfold state at h
  unfold «exists»
  cases hnode : fs.node p with
  | error fault =>
      cases hnode' : fs'.node p with
      | error fault' => rfl
      | ok n => simp [hnode, hnode', Except.map] at h
  | ok n =>
      cases hnode' : fs'.node p with
      | error fault' => simp [hnode, hnode', Except.map] at h
      | ok n' => rfl

/-- A file is opened as a library in the same way where the state of its path is
the same. -/
theorem openFile_congr (h : fs.state p = fs'.state p) : fs.openFile p = fs'.openFile p := by
  unfold state at h
  unfold openFile
  cases hnode : fs.node p with
  | error fault =>
      cases hnode' : fs'.node p with
      | error fault' =>
          obtain rfl : fault = fault' := by simpa [hnode, hnode', Except.map] using h
          rfl
      | ok n => simp [hnode, hnode', Except.map] at h
  | ok n =>
      cases hnode' : fs'.node p with
      | error fault' => simp [hnode, hnode', Except.map] at h
      | ok n' =>
          have hstate : n.state = n'.state := by simpa [hnode, hnode', Except.map] using h
          cases n with
          | directory entries =>
              cases n' with
              | directory entries' => rfl
              | file content => simp [Node.state] at hstate
          | file content =>
              cases n' with
              | directory entries' => simp [Node.state] at hstate
              | file content' =>
                  obtain rfl : content = content' := by simpa [Node.state] using hstate
                  rfl

/-- Two file systems agree on the system's libraries of a name: on which there
are, and on the states of those. -/
structure AgreeOnSystem (fs fs' : FileSystem) (p : Path) : Prop where
  table : fs.systemLibraries = fs'.systemLibraries
  state : ∀ library ∈ fs.systemLibraries, library.name = p.text →
    fs.state library.place = fs'.state library.place

/-- The system finds the same library of a name where it has the same ones. -/
theorem systemLibrary?_congr (h : fs.AgreeOnSystem fs' p) :
    fs.systemLibrary? p = fs'.systemLibrary? p := by
  unfold systemLibrary?
  rw [← h.table]
  refine congrArg _ (List.find?_congr fun library hlibrary => ?_)
  rw [decide_eq_decide]
  refine and_congr_right fun hname => ?_
  rw [exists_congr (h.state library hlibrary hname)]

/-- A library is opened in the same way, at the same place, where the state of
its path is the same, and for a name the system's libraries are. -/
theorem openLibrary_congr (h : fs.state p = fs'.state p)
    (hsystem : '/' ∉ p.text.toList → fs.AgreeOnSystem fs' p) :
    fs.openLibrary p = fs'.openLibrary p ∧ fs.openedPath p = fs'.openedPath p := by
  by_cases hsep : '/' ∈ p.text.toList
  · rw [fs.openedPath_of_sep hsep, fs'.openedPath_of_sep hsep]
    simp only [openLibrary, hsep, if_true, openFile_congr h, and_self]
  · have hagree := hsystem hsep
    have hfound := systemLibrary?_congr hagree
    have hopened : ∀ place, fs.systemLibrary? p = some place →
        fs.openFile place = fs'.openFile place := by
      intro place hplace
      obtain ⟨library, hlibrary, hname, rfl⟩ := exists_of_systemLibrary?_eq_some hplace
      exact openFile_congr (hagree.state library hlibrary hname)
    refine ⟨?_, by rw [openedPath, openedPath, hfound]⟩
    unfold openLibrary
    rw [openFile_congr h, ← hfound]
    cases hplace : fs.systemLibrary? p with
    | none => rfl
    | some place => simp only [hopened place hplace]

/-- Two file systems agree on the library of a grammar: on whether its path is a
directory, and then on the library's file there, otherwise on the path itself;
and if that is a name without a separator, on the system's libraries. -/
structure AgreeOnLibrary (fs fs' : FileSystem) (name : String) (p : Path) : Prop where
  isDirectory : fs.isDirectory p = fs'.isDirectory p
  inside : fs.isDirectory p = true →
    fs.state (libraryPath name p) = fs'.state (libraryPath name p)
  itself : fs.isDirectory p = false → fs.state p = fs'.state p
  system : fs.isDirectory p = false → '/' ∉ p.text.toList → fs.AgreeOnSystem fs' p

end FileSystem

namespace Config.Entry

/-- Two file systems agree on all that the check of an entry looks at. -/
structure AgreeOn (fs fs' : FileSystem) (e : Entry) : Prop where
  library : ∀ p, e.source = .library p → fs.AgreeOnLibrary fs' e.name p
  samples : ∀ p ∈ e.samples, fs.readText p = fs'.readText p

/-- The library file of a path is the same, and so is what opening it gives. -/
theorem libraryFile_congr {fs fs' : FileSystem} {name : String} {p : Path}
    (h : fs.AgreeOnLibrary fs' name p) :
    libraryFile fs name p = libraryFile fs' name p ∧
      ∀ file, libraryFile fs name p = .ok file →
        fs.openLibrary file = fs'.openLibrary file ∧
        fs.openedPath file = fs'.openedPath file := by
  unfold libraryFile
  rw [← h.isDirectory]
  cases hdirectory : fs.isDirectory p with
  | false =>
      simp only [Bool.false_eq_true, if_false]
      refine ⟨trivial, fun file hfile => ?_⟩
      obtain rfl : p = file := by simpa using hfile
      exact FileSystem.openLibrary_congr (h.itself hdirectory) (h.system hdirectory)
  | true =>
      have hstate := h.inside hdirectory
      have hexists := FileSystem.exists_congr hstate
      simp only [if_true, FileSystem.findLibraryIn, List.map_cons, List.map_nil,
        List.find?_cons, List.find?_nil, ← hexists]
      cases fs.exists (libraryPath name p) with
      | false => simp
      | true =>
          simp only
          refine ⟨trivial, fun file hfile => ?_⟩
          obtain rfl : libraryPath name p = file := by simpa using hfile
          exact FileSystem.openLibrary_congr hstate
            fun hsep => absurd (fs.sep_mem_libraryPath name hdirectory) hsep

section Check

variable {w w' : World} {e : Entry}

/-- The same provider is made for an entry. -/
theorem provider_congr (hlinked : w.linked = w'.linked) (h : e.AgreeOn w.files w'.files) :
    (e.provider w).result = (e.provider w').result := by
  unfold provider
  cases hsource : e.source with
  | builtin =>
      have hprovider : w.linkedProvider = w'.linkedProvider := by
        rw [World.linkedProvider, World.linkedProvider, hlinked]
      rw [hprovider]
  | library p =>
      obtain ⟨hfile, hopen⟩ := libraryFile_congr (h.library p hsource)
      simp only [Logged.result_bind, Logged.result_pure, openLibrary, Logged.result_ofExcept,
        Logged.result_mapError, SharedLibrary.open]
      rw [← hfile]
      cases hfound : libraryFile w.files e.name p with
      | error error => rfl
      | ok file =>
          obtain ⟨hopened, hplace⟩ := hopen file hfound
          simp only [mapError_ok, Except.bind]
          rw [hopened, hplace]

/-- The same comes of each sample.  The induction is on the list of samples. -/
theorem parseSamples_congr (h : Handle) {paths : List Path}
    (hread : ∀ p ∈ paths, w.files.readText p = w'.files.readText p) :
    (e.parseSamples w h paths).result = (e.parseSamples w' h paths).result := by
  induction paths with
  | nil => rfl
  | cons p rest ih =>
      obtain ⟨hfirst, hrest⟩ := List.forall_mem_cons.mp hread
      simp only [parseSamples, parseSample, Logged.result_bind, Logged.result_ofExcept,
        Logged.result_emit, Logged.result_mapError, Logged.result_pure, hfirst, ih hrest]

/-- **The check of an entry.**  It comes out the same in surroundings that agree
on what it looks at. -/
theorem verify_congr (hlinked : w.linked = w'.linked) (h : e.AgreeOn w.files w'.files) :
    (e.verify w).result = (e.verify w').result := by
  simp only [verify, verifyProvider, Logged.result_bind, Logged.result_mapError, Logged.result_emit,
    Logged.result_pure, provider_congr hlinked h, fun handle =>
      parseSamples_congr (e := e) handle h.samples]

end Check

end Config.Entry

/-- Two environments agree but for some variables. -/
def Environment.AgreeExcept (names : List String) (env env' : Environment) : Prop :=
  ∀ name, name ∉ names → env.get? name = env'.get? name

/-- The runtime directory is found by three variables. -/
theorem Environment.runtimeDirectory_congr {env env' : Environment}
    (hruntime : env.get? runtimeVariable = env'.get? runtimeVariable)
    (hdata : env.get? "XDG_DATA_HOME" = env'.get? "XDG_DATA_HOME")
    (hhome : env.get? "HOME" = env'.get? "HOME") :
    env.runtimeDirectory = env'.runtimeDirectory := by
  simp only [runtimeDirectory, runtimeOverride?, dataDirectory?, baseDirectory?, home?, hruntime,
    hdata, hhome]

namespace CommandLine

open Config (Entry ConfigError Report)

section Select

variable {w w' : World} {o : Options}

/-- The selection depends on the environment by the runtime directory only. -/
theorem select_congr_of_environment (hfiles : w.files = w'.files)
    (hruntime : w.environment.runtimeDirectory = w'.environment.runtimeDirectory) :
    (select w o).result = (select w' o).result := by
  have hbase : (baseEntries w o).result = (baseEntries w' o).result := by
    unfold baseEntries standardEntries runtimeConfig
    rw [hfiles, hruntime]
  rw [select_result, select_result, hbase]

/-- With a config file the selection depends on its text. -/
theorem select_congr_of_config {file : Path} (hlibrary : o.library = none)
    (hconfig : o.config = some file) (hread : w.files.readText file = w'.files.readText file) :
    (select w o).result = (select w' o).result := by
  have hbase : (baseEntries w o).result = (baseEntries w' o).result := by
    simp only [baseEntries, hlibrary, hconfig, Config.loadFile, Config.readFile,
      Logged.result_mapError, Logged.result_bind, Logged.result_ofExcept, Logged.result_emit,
      Logged.result_pure, hread]
  rw [select_result, select_result, hbase]

/-- With a library the selection depends on nothing. -/
theorem select_of_library {path : Path} (hlibrary : o.library = some path) (w w' : World) :
    select w o = select w' o := by
  have hbase : baseEntries w o = baseEntries w' o := by simp only [baseEntries, hlibrary]
  rw [select, select, hbase]

end Select

/-- Two runs print the same and end in the same way, so with the same code. -/
structure Outcome.Alike (r r' : Outcome) : Prop where
  output : r.output = r'.output
  ending : r.ending = r'.ending

/-- **The run.**  If the selections are the same and so is what comes of the
check of each selected entry, the runs are alike. -/
theorem runWith_congr {w w' : World} {o : Options}
    (hselect : (select w o).result = (select w' o).result)
    (hverify : ∀ entries, (select w o).result = .ok entries → ∀ e ∈ entries,
      (e.verify w).result = (e.verify w').result) :
    (runWith w o).Alike (runWith w' o) := by
  cases hselected : (select w o).result with
  | error e =>
      have hselected' : (select w' o).result = .error e := by rw [← hselect, hselected]
      exact ⟨by simp [runWith, hselected, hselected'], by simp [runWith, hselected, hselected']⟩
  | ok entries =>
      have hselected' : (select w' o).result = .ok entries := by rw [← hselect, hselected]
      obtain ⟨houtput, hending⟩ := runWith_of_select_ok w hselected
      obtain ⟨houtput', hending'⟩ := runWith_of_select_ok w' hselected'
      have hsame := hverify entries hselected
      refine ⟨?_, ?_⟩
      · rw [houtput, houtput', checkAll_output, checkAll_output]
        exact congrArg String.join (List.map_congr_left fun e he => by rw [hsame e he])
      · rw [hending, hending']
        by_cases hnil : entries = []
        · rw [hnil]
          rfl
        · have hfailures : failures w entries = failures w' entries :=
            List.countP_congr fun e he => by rw [hsame e he]
          rw [checkAll_ending w hnil, checkAll_ending w' hnil, hfailures]

/-- Verbose or not, a run is the same but for what is logged. -/
theorem runWith_verbose (w : World) (o : Options) (verbose : Bool) :
    runWith w { o with verbose } = runWith w o := rfl

/-- The variables that have no part in what a run prints and how it ends. -/
def unusedVariables : List String :=
  ["HELIX_RUNTIME", "XDG_CACHE_HOME", "XDG_CONFIG_HOME", "RUST_LOG"]

/-- **What a run depends on.**  Take two command lines that ask for the same,
verbosely or not.  Their runs are alike in environments that agree but for four
variables.  If a config or a library is given they are alike in any
environments, and in any file systems that agree on the text of the config and,
for every selected entry, on its library and on the text of each sample.  If a
library is given the selection is the same in all surroundings. -/
theorem outcome_depends_on_looked_at {args args' : List String} {o : Options} {verbose : Bool}
    (hparse : parse args = .ok o) (hparse' : parse args' = .ok { o with verbose }) :
    (∀ w w' : World, w.files = w'.files → w.linked = w'.linked →
      w.environment.AgreeExcept unusedVariables w'.environment →
      (run w args).Alike (run w' args')) ∧
    (o.config ≠ none ∨ o.library ≠ none → ∀ w w' : World, w.linked = w'.linked →
      (∀ file, o.config = some file → w.files.readText file = w'.files.readText file) →
      (∀ entries, (select w o).result = .ok entries → ∀ e ∈ entries, e.AgreeOn w.files w'.files) →
      (run w args).Alike (run w' args')) ∧
    (o.library ≠ none → ∀ w w' : World, select w o = select w' o) := by
  have hrun : ∀ w w', (runWith w o).Alike (runWith w' o) → (run w args).Alike (run w' args') := by
    intro w w' halike
    obtain ⟨houtput, hending⟩ := run_of_parse w hparse
    obtain ⟨houtput', hending'⟩ := run_of_parse w' hparse'
    rw [runWith_verbose] at houtput' hending'
    exact ⟨by rw [houtput, houtput', halike.output], by rw [hending, hending', halike.ending]⟩
  refine ⟨fun w w' hfiles hlinked hagree => ?_, fun hgiven w w' hlinked hconfig hentries => ?_,
    fun hgiven w w' => ?_⟩
  · have hused : ∀ name, name ∉ unusedVariables →
        w.environment.get? name = w'.environment.get? name := hagree
    have hruntime := Environment.runtimeDirectory_congr (hused runtimeVariable (by decide))
      (hused "XDG_DATA_HOME" (by decide)) (hused "HOME" (by decide))
    refine hrun w w' (runWith_congr (select_congr_of_environment hfiles hruntime) ?_)
    intro entries _ e _
    refine Entry.verify_congr hlinked ⟨fun p _ => ?_, fun p _ => by rw [hfiles]⟩
    exact ⟨by rw [hfiles], fun _ => by rw [hfiles], fun _ => by rw [hfiles],
      fun _ _ => ⟨by rw [hfiles], fun _ _ _ => by rw [hfiles]⟩⟩
  · have hselect : (select w o).result = (select w' o).result := by
      cases hlibrary : o.library with
      | some path => rw [select_of_library hlibrary w w']
      | none =>
          cases hfile : o.config with
          | none => simp [hlibrary, hfile] at hgiven
          | some file => exact select_congr_of_config hlibrary hfile (hconfig file hfile)
    refine hrun w w' (runWith_congr hselect ?_)
    intro entries hselected e he
    exact Entry.verify_congr hlinked (hentries entries hselected e he)
  · obtain ⟨path, hlibrary⟩ := Option.ne_none_iff_exists'.mp hgiven
    exact select_of_library hlibrary w w'

/-- A config names the directory of a library.  Checked from two directories,
verbosely and not, with other files around and another runtime directory set, it
gives the same outcome. -/
theorem same_outcome_from_two_directories :
    let text := "grammar=[[\"m\",\"M\",\x7bpath=\"/d\"\x7d]]"
    let language : Language := ⟨14, [], fun _ => none⟩
    let library : Node := .file (.library ⟨[("tree_sitter_m", some language)]⟩)
    let w : World := {
      files := ⟨.directory
        [("c", .file (.text text)), ("d", .directory [("libm.so", library)])], [], []⟩
      environment := ⟨[]⟩
      linked := language }
    let w' : World := {
      files := ⟨.directory [("d", .directory [("x", .directory []), ("libm.so", library)]),
        ("c", .file (.text text))], ["d"], []⟩
      environment := ⟨[("SCSS_PROBE_RUNTIME", "/d"), ("RUST_LOG", "off")]⟩
      linked := language }
    (run w ["--config=/c"]).Alike (run w' ["-v", "--config=/c"]) := by
  intro text language library w w'
  let o : Options := { Options.unset with config := some ⟨"/c"⟩ }
  let m : Entry := ⟨"m", some "M", .library ⟨"/d"⟩, none, []⟩
  have hparse : parse ["--config=/c"] = .ok o := by rfl
  have hparse' : parse ["-v", "--config=/c"] = .ok { o with verbose := true } := by rfl
  have hread : ∀ file, o.config = some file → w.files.readText file = w'.files.readText file := by
    intro file hfile
    obtain rfl : Path.mk "/c" = file := Option.some.inj hfile
    rfl
  have hentries : Config.parse "grammar=[[\"m\",\"M\",\x7bpath=\"/d\"\x7d]]"
      = .ok [⟨"m", some "M", .library ⟨"/d"⟩, none, []⟩] := by cbv
  have hselect : (select w o).result = .ok [m] := by
    have hload : (Config.loadFile w.files ⟨"/c"⟩).result = .ok [m] :=
      Config.loadFile_eq_ok_iff.mpr ⟨text, [m], by rfl, hentries, by rfl⟩
    have hbase : (baseEntries w o).result = .ok [m] := mapError_eq_ok.mpr hload
    rw [select_result, hbase]
    rfl
  refine (outcome_depends_on_looked_at hparse hparse').2.1 (Or.inl (by simp [o])) w w' rfl hread ?_
  intro entries hselected e he
  obtain rfl : [m] = entries := Except.ok.inj (hselect.symm.trans hselected)
  obtain rfl : e = m := List.mem_singleton.mp he
  refine ⟨fun p hp => ?_, by simp [m]⟩
  obtain rfl : Path.mk "/d" = p := Config.EntrySource.library.inj hp
  have hdirectory : w.files.isDirectory ⟨"/d"⟩ = true := by rfl
  have hdirectory' : w'.files.isDirectory ⟨"/d"⟩ = true := by rfl
  have hinside : libraryPath "m" ⟨"/d"⟩ = ⟨"/d/libm.so"⟩ := by decide
  have hstate : w.files.state ⟨"/d/libm.so"⟩ = w'.files.state ⟨"/d/libm.so"⟩ := by rfl
  exact ⟨hdirectory.trans hdirectory'.symm, fun _ => hinside ▸ hstate,
    fun hnot => by simp [hdirectory] at hnot, fun hnot => by simp [hdirectory] at hnot⟩

end CommandLine

end GrammarAudit
