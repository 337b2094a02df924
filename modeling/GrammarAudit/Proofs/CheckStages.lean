import GrammarAudit.Proofs.MoreSamples

/-!
# The stages of a check

The check of an entry is a sequence of stages: a library is looked for, opened,
and asked for its symbol; what that hands out must be a language, of a version
that can be read, with the node kinds that are asked for; then it parses the
program's own sample, and reads and parses each configured one.  Here every stage
has its own description, made of what the entry and its surroundings are and not
of how the check goes: `Entry.Succeeds` says when a stage succeeds and
`Entry.Fails` when it fails, and with what.

* `StopsAt`, `StopsAt.unique`: a stage fails, and all stages before it succeed;
  there is one such stage at most.
* `provider_eq_error_iff`, `load_provider_eq_error_iff`: which stages the lack of
  a provider and of a handle stand for.
* `exists_stopsAt_of_error`, `verify_of_stopsAt`: a check fails with an error
  exactly when it stops at some stage with it.
-/

namespace GrammarAudit

namespace Config.Entry

/-- A stage of the check of an entry; of the configured samples each has a stage
of being read and one of being parsed. -/
inductive Stage
  /-- The library is looked for; of a linked grammar the name is compared. -/
  | search
  | opening
  | symbol
  /-- What the library hands out is no null pointer. -/
  | pointer
  | version
  | kinds
  | builtinSample
  | reading (i : Nat)
  | parsing (i : Nat)
deriving DecidableEq, Repr

/-- The number of stages that come before a stage. -/
def Stage.rank : Stage → Nat
  | search => 0
  | opening => 1
  | symbol => 2
  | pointer => 3
  | version => 4
  | kinds => 5
  | builtinSample => 6
  | reading i => 7 + 2 * i
  | parsing i => 8 + 2 * i

/-- No two stages have the same place in the order. -/
theorem Stage.rank_injective {s t : Stage} (h : s.rank = t.rank) : s = t := by
  cases s <;> cases t <;> grind [rank]

/-- A stage before another one is the one just before that, or comes before it. -/
theorem Stage.eq_or_rank_lt {s t u : Stage} (hnext : u.rank = t.rank + 1) (h : s.rank < u.rank) :
    s = t ∨ s.rank < t.rank := by
  rcases Nat.lt_or_eq_of_le (Nat.le_of_lt_succ (hnext ▸ h)) with hlt | heq
  · exact Or.inr hlt
  · exact Or.inl (rank_injective heq)

/-- What it is for a stage of the check of an entry to succeed. -/
def Succeeds (w : World) (e : Entry) : Stage → Prop
  | .search => (e.source = .builtin ∧ e.name = "scss") ∨
      ∃ path file, e.source = .library path ∧ LibraryFile w.files e.name path file
  | .opening => e.source = .builtin ∨
      ∃ path file object, e.source = .library path ∧ LibraryFile w.files e.name path file ∧
        w.files.openLibrary file = .ok object
  | .symbol => ∃ pointer source, e.Supplies w pointer source
  | .pointer => ∃ language source, e.Supplies w (some language) source
  | .version => ∃ language source, e.Supplies w (some language) source ∧
      13 ≤ language.abiVersion ∧ language.abiVersion ≤ 15
  | .kinds => ∃ language source, e.Supplies w (some language) source ∧
      ∀ kind, e.Requires kind → language.Finds kind
  | .builtinSample => e.name = "scss" →
      ∃ language source, e.Supplies w (some language) source ∧ language.ParsesCleanly builtinSample
  | .reading i => ∃ path text, e.samples[i]? = some path ∧ w.files.readText path = .ok text
  | .parsing i => ∃ language source path text, e.Supplies w (some language) source ∧
      e.samples[i]? = some path ∧ w.files.readText path = .ok text ∧ language.ParsesCleanly text

/-- What it is for a stage of the check of an entry to fail, and what is told
then. -/
inductive Fails (w : World) (e : Entry) : Stage → ConfigError → Prop
  | unknownName (hsource : e.source = .builtin) (hname : e.name ≠ "scss") :
      Fails w e .search (.unknownGrammar e.name)
  | notFound {path : Path} (hsource : e.source = .library path)
      (hdirectory : w.files.isDirectory path = true)
      (hmissing : w.files.exists (libraryPath e.name path) = false) :
      Fails w e .search (.grammar (.notFound e.name))
  | notOpened {path file : Path} {fault : OpenFault} (hsource : e.source = .library path)
      (hfile : LibraryFile w.files e.name path file)
      (hopen : w.files.openLibrary file = .error fault) :
      Fails w e .opening (.grammar (.loadError (file.text ++ ": " ++ fault.message file)))
  | noSymbol {path file : Path} {object : SharedObject} (hsource : e.source = .library path)
      (hfile : LibraryFile w.files e.name path file)
      (hopen : w.files.openLibrary file = .ok object)
      (hsymbol : object.symbol? (symbolName e.name) = none) :
      Fails w e .symbol
        (.grammar (.missingSymbol
          (SharedLibrary.symbolFault file (w.files.openedPath file) (symbolName e.name))))
  | null {source : Source} (hsupplied : e.Supplies w none source) :
      Fails w e .pointer (.grammar (.absent e.displayName))
  | unreadableVersion {language : Language} {source : Source}
      (hsupplied : e.Supplies w (some language) source)
      (hversion : ¬ (13 ≤ language.abiVersion ∧ language.abiVersion ≤ 15)) :
      Fails w e .version (.grammar (.incompatibleVersion e.name language.abiVersion 13 15))
  | missingKinds {language : Language} {source : Source}
      (hsupplied : e.Supplies w (some language) source)
      (hmissing : ∃ kind, e.Requires kind ∧ ¬ language.Finds kind) :
      Fails w e .kinds (.grammar (.missingKinds e.name
        (e.effectiveKinds.filter fun kind => ¬ language.Finds kind)))
  | uncleanBuiltin {language : Language} {source : Source} {fault : ParseFault}
      (hname : e.name = "scss") (hsupplied : e.Supplies w (some language) source)
      (hfails : language.ParseFails GrammarAudit.builtinSample fault) :
      Fails w e .builtinSample (.grammar (.parse e.name fault.message))
  | unreadable {i : Nat} {path : Path} {fault : IoFault} (hsample : e.samples[i]? = some path)
      (hread : w.files.readText path = .error fault) : Fails w e (.reading i) (.io path fault)
  | unclean {i : Nat} {path : Path} {text : String} {language : Language} {source : Source}
      {fault : ParseFault} (hsupplied : e.Supplies w (some language) source)
      (hsample : e.samples[i]? = some path) (hread : w.files.readText path = .ok text)
      (hfails : language.ParseFails text fault) :
      Fails w e (.parsing i) (.grammar (.parse e.name fault.message))

/-- The check of an entry stops at a stage: this fails, and all before it
succeed. -/
structure StopsAt (w : World) (e : Entry) (stage : Stage) (error : ConfigError) : Prop where
  fails : e.Fails w stage error
  before : ∀ earlier : Stage, earlier.rank < stage.rank → e.Succeeds w earlier

section Stages

variable {w : World} {e : Entry}

/-- An entry's source supplies one language. -/
theorem Supplies.language_unique {l l' : Language} {source source' : Source}
    (h : e.Supplies w (some l) source) (h' : e.Supplies w (some l') source') : l = l' :=
  Option.some.inj (h.unique h').1

/-- No stage both fails and succeeds. -/
theorem Fails.not_succeeds {stage : Stage} {error : ConfigError} (h : e.Fails w stage error) :
    ¬ e.Succeeds w stage := by
  intro hsucceeds
  cases h with
  | unknownName hsource hname =>
      rcases hsucceeds with ⟨-, hscss⟩ | ⟨path, file, hpath, -⟩
      · exact hname hscss
      · simp [hsource] at hpath
  | notFound hsource hdirectory hmissing =>
      rcases hsucceeds with ⟨hbuiltin, -⟩ | ⟨path, file, hpath, hfile⟩
      · simp [hsource] at hbuiltin
      · obtain rfl := EntrySource.library.inj (hsource.symm.trans hpath)
        cases hfile with
        | itself hnot => simp [hdirectory] at hnot
        | inside _ hexists => simp [hmissing] at hexists
  | notOpened hsource hfile hopen =>
      rcases hsucceeds with hbuiltin | ⟨path, file, object, hpath, hfile', hopen'⟩
      · simp [hsource] at hbuiltin
      · obtain rfl := EntrySource.library.inj (hsource.symm.trans hpath)
        obtain rfl := hfile.unique hfile'
        simp [hopen] at hopen'
  | noSymbol hsource hfile hopen hsymbol =>
      obtain ⟨pointer, source, hsupplied⟩ := hsucceeds
      cases hsupplied with
      | linked hbuiltin _ => simp [hsource] at hbuiltin
      | exported hpath hfile' hopen' hsymbol' =>
          obtain rfl := EntrySource.library.inj (hsource.symm.trans hpath)
          obtain rfl := hfile.unique hfile'
          obtain rfl := Except.ok.inj (hopen.symm.trans hopen')
          simp [hsymbol] at hsymbol'
  | null hsupplied =>
      obtain ⟨language, source, hlanguage⟩ := hsucceeds
      simpa using (hsupplied.unique hlanguage).1
  | unreadableVersion hsupplied hversion =>
      obtain ⟨language, source, hlanguage, hread⟩ := hsucceeds
      obtain rfl := hsupplied.language_unique hlanguage
      exact hversion hread
  | missingKinds hsupplied hmissing =>
      obtain ⟨language, source, hlanguage, hfound⟩ := hsucceeds
      obtain rfl := hsupplied.language_unique hlanguage
      obtain ⟨kind, hrequired, hnot⟩ := hmissing
      exact hnot (hfound kind hrequired)
  | uncleanBuiltin hname hsupplied hfails =>
      obtain ⟨language, source, hlanguage, hclean⟩ := hsucceeds hname
      obtain rfl := hsupplied.language_unique hlanguage
      exact (Language.exists_parseFails_iff _ _).mp ⟨_, hfails⟩ hclean
  | unreadable hsample hread =>
      obtain ⟨path, text, hpath, htext⟩ := hsucceeds
      obtain rfl := Option.some.inj (hsample.symm.trans hpath)
      simp [hread] at htext
  | unclean hsupplied hsample hread hfails =>
      obtain ⟨language, source, path, text, hlanguage, hpath, htext, hclean⟩ := hsucceeds
      obtain rfl := hsupplied.language_unique hlanguage
      obtain rfl := Option.some.inj (hsample.symm.trans hpath)
      obtain rfl := Except.ok.inj (hread.symm.trans htext)
      exact (Language.exists_parseFails_iff _ _).mp ⟨_, hfails⟩ hclean

/-- A check stops at one stage at most. -/
theorem StopsAt.unique {stage stage' : Stage} {error error' : ConfigError}
    (h : e.StopsAt w stage error) (h' : e.StopsAt w stage' error') : stage = stage' := by
  apply Stage.rank_injective
  rcases Nat.lt_trichotomy stage.rank stage'.rank with hlt | heq | hgt
  · exact absurd (h'.before stage hlt) h.fails.not_succeeds
  · exact heq
  · exact absurd (h.before stage' hgt) h'.fails.not_succeeds

/-- What an entry's source supplies is there only after a library has been found,
opened and asked for its symbol. -/
theorem Supplies.succeeds {pointer : Option Language} {source : Source}
    (h : e.Supplies w pointer source) :
    ∀ stage : Stage, stage.rank < Stage.pointer.rank → e.Succeeds w stage := by
  intro stage hrank
  cases stage with
  | search =>
      cases h with
      | linked hsource hname => exact Or.inl ⟨hsource, hname⟩
      | exported hsource hfile _ _ => exact Or.inr ⟨_, _, hsource, hfile⟩
  | opening =>
      cases h with
      | linked hsource _ => exact Or.inl hsource
      | exported hsource hfile hopen _ => exact Or.inr ⟨_, _, _, hsource, hfile, hopen⟩
  | symbol => exact ⟨pointer, source, h⟩
  | _ => simp only [Stage.rank] at hrank; omega

/-- A language that can be read is there only after all stages up to that of its
version. -/
theorem Supplies.succeeds_of_isReadable {language : Language} {source : Source}
    (h : e.Supplies w (some language) source) (hread : language.isReadable = true) :
    ∀ stage : Stage, stage.rank < Stage.kinds.rank → e.Succeeds w stage := by
  intro stage hrank
  cases stage with
  | pointer => exact ⟨language, source, h⟩
  | version => exact ⟨language, source, h, language.isReadable_iff.mp hread⟩
  | search => exact h.succeeds _ (by decide)
  | opening => exact h.succeeds _ (by decide)
  | symbol => exact h.succeeds _ (by decide)
  | _ => simp only [Stage.rank] at hrank; omega

/-- A search for a library fails where a directory has no file with the grammar's
library name. -/
theorem libraryFile_eq_error_iff (fs : FileSystem) (name : String) (path : Path)
    (error : GrammarError) :
    libraryFile fs name path = .error error ↔
      fs.isDirectory path = true ∧ fs.exists (libraryPath name path) = false ∧
        error = .notFound name := by
  unfold libraryFile
  cases hdirectory : fs.isDirectory path with
  | false => simp
  | true =>
      cases hexists : fs.exists (libraryPath name path) with
      | true => simp [FileSystem.findLibraryIn, hexists]
      | false => simp [FileSystem.findLibraryIn, hexists, eq_comm]

/-- Opening a library fails where the file cannot be opened. -/
theorem sharedLibrary_open_eq_error_iff (fs : FileSystem) (name display : String) (file : Path)
    (error : GrammarError) :
    (SharedLibrary.open fs name display file).result = .error error ↔
      ∃ fault, fs.openLibrary file = .error fault ∧
        error = .loadError (file.text ++ ": " ++ fault.message file) := by
  unfold SharedLibrary.open
  cases fs.openLibrary file with
  | ok object => simp
  | error fault => simp [eq_comm]

/-- A library has no descriptor where it does not export the grammar's symbol. -/
theorem descriptor_eq_error_iff (l : SharedLibrary) (error : GrammarError) :
    l.descriptor = .error error ↔
      l.object.symbol? (symbolName l.name) = none ∧
        error = .missingSymbol (SharedLibrary.symbolFault l.path l.place (symbolName l.name)) := by
  unfold SharedLibrary.descriptor
  cases l.object.symbol? (symbolName l.name) with
  | none => simp [eq_comm]
  | some pointer => simp

/-- **No provider.**  An entry has none exactly when the search for its library
fails or the library cannot be opened. -/
theorem provider_eq_error_iff (w : World) (e : Entry) (error : ConfigError) :
    (e.provider w).result = .error error ↔
      e.Fails w .search error ∨ e.Fails w .opening error := by
  constructor
  · intro hfailed
    unfold provider at hfailed
    cases hsource : e.source with
    | builtin =>
        by_cases hname : e.name = "scss"
        · simp [hsource, hname, linkedName] at hfailed
        · obtain rfl : ConfigError.unknownGrammar e.name = error := by
            simpa [hsource, hname, linkedName] using hfailed
          exact Or.inl (.unknownName hsource hname)
    | library path =>
        simp only [hsource, Logged.result_bind_eq_error, Logged.result_pure, openLibrary,
          Logged.result_ofExcept, Logged.result_mapError, mapError_eq_error, mapError_eq_ok]
          at hfailed
        rcases hfailed with (⟨g, hfile, rfl⟩ | ⟨file, hfile, g, hopen, rfl⟩) | ⟨_, _, hpure⟩
        · obtain ⟨hdirectory, hmissing, rfl⟩ := (libraryFile_eq_error_iff _ _ _ _).mp hfile
          exact Or.inl (.notFound hsource hdirectory hmissing)
        · obtain ⟨fault, hfault, rfl⟩ := (sharedLibrary_open_eq_error_iff _ _ _ _ _).mp hopen
          exact Or.inr (.notOpened hsource ((libraryFile_eq_ok_iff _ _ _ _).mp hfile) hfault)
        · cases hpure
  · intro hfails
    unfold provider
    rcases hfails with hfails | hfails
    · cases hfails with
      | unknownName hsource hname => simp [hsource, hname, linkedName]
      | notFound hsource hdirectory hmissing =>
          have hfile := (libraryFile_eq_error_iff _ _ _ _).mpr ⟨hdirectory, hmissing, rfl⟩
          simp [hsource, openLibrary, hfile, Except.bind]
    · cases hfails with
      | notOpened hsource hfile hopen =>
          have hfile := (libraryFile_eq_ok_iff _ _ _ _).mpr hfile
          have hopen := (sharedLibrary_open_eq_error_iff _ e.name e.displayName _ _).mpr
            ⟨_, hopen, rfl⟩
          simp [hsource, openLibrary, hfile, hopen, Except.bind]

/-- **No handle.**  The load of an entry's provider fails exactly when the
symbol is not exported, the pointer is null, or the version cannot be read. -/
theorem load_provider_eq_error_iff (w : World) (e : Entry) (error : GrammarError) :
    (∃ p, (e.provider w).result = .ok p ∧ (load p).result = .error error) ↔
      e.Fails w .symbol (.grammar error) ∨ e.Fails w .pointer (.grammar error) ∨
        e.Fails w .version (.grammar error) := by
  have hversion : ∀ language : Language, language.isReadable = false ↔
      ¬ (13 ≤ language.abiVersion ∧ language.abiVersion ≤ 15) := by
    intro language
    rw [← language.isReadable_iff]
    simp
  constructor
  · intro hfailed
    obtain ⟨p, hp, hload⟩ := hfailed
    rw [load_eq_error_iff] at hload
    rcases (provider_eq_ok_iff w e p).mp hp with
      ⟨hsource, hname, rfl⟩ | ⟨path, file, object, hsource, hfile, hopen, rfl⟩
    · have hsupplied : e.Supplies w (some w.linked) (.builtin "scss") := .linked hsource hname
      rcases hload with hnone | ⟨dynamic, hnull, -⟩ | ⟨language, dynamic, hsome, hread, rfl⟩
      · simp [World.linkedProvider] at hnone
      · simp [World.linkedProvider] at hnull
      · obtain rfl : w.linked = language := by
          simpa [World.linkedProvider] using congrArg Descriptor.language (Except.ok.inj hsome)
        have hfails := Fails.unreadableVersion hsupplied ((hversion _).mp hread)
        rw [hname] at hfails
        exact Or.inr (Or.inr hfails)
    · rcases hload with hnone | ⟨dynamic, hnull, rfl⟩ | ⟨language, dynamic, hsome, hread, rfl⟩
      · obtain ⟨hsymbol, rfl⟩ := (descriptor_eq_error_iff _ _).mp hnone
        exact Or.inl (.noSymbol hsource hfile hopen hsymbol)
      · obtain ⟨pointer, hsymbol, hpointer⟩ := (descriptor_eq_ok_iff _ _).mp hnull
        obtain rfl : none = pointer := congrArg Descriptor.language hpointer
        exact Or.inr (Or.inl (.null (.exported hsource hfile hopen hsymbol)))
      · obtain ⟨pointer, hsymbol, hpointer⟩ := (descriptor_eq_ok_iff _ _).mp hsome
        obtain rfl : some language = pointer := congrArg Descriptor.language hpointer
        exact Or.inr (Or.inr (.unreadableVersion (.exported hsource hfile hopen hsymbol)
          ((hversion _).mp hread)))
  · intro hfails
    rcases hfails with hfails | hfails | hfails
    · cases hfails with
      | noSymbol hsource hfile hopen hsymbol =>
          refine ⟨_, (provider_eq_ok_iff w e _).mpr
            (Or.inr ⟨_, _, _, hsource, hfile, hopen, rfl⟩), ?_⟩
          exact (load_eq_error_iff _ _).mpr
            (Or.inl ((descriptor_eq_error_iff _ _).mpr ⟨hsymbol, rfl⟩))
    · cases hfails with
      | null hsupplied =>
          cases hsupplied with
          | exported hsource hfile hopen hsymbol =>
              refine ⟨_, (provider_eq_ok_iff w e _).mpr
                (Or.inr ⟨_, _, _, hsource, hfile, hopen, rfl⟩), ?_⟩
              exact (load_eq_error_iff _ _).mpr (Or.inr (Or.inl
                ⟨true, (descriptor_eq_ok_iff _ _).mpr ⟨none, hsymbol, rfl⟩, rfl⟩))
    · cases hfails with
      | @unreadableVersion language _ hsupplied hunread =>
          have hread := (hversion _).mpr hunread
          cases hsupplied with
          | linked hsource hname =>
              refine ⟨_, (provider_eq_ok_iff w e _).mpr (Or.inl ⟨hsource, hname, rfl⟩), ?_⟩
              rw [hname]
              exact (load_eq_error_iff _ _).mpr (Or.inr (Or.inr ⟨_, false, rfl, hread, rfl⟩))
          | exported hsource hfile hopen hsymbol =>
              refine ⟨_, (provider_eq_ok_iff w e _).mpr
                (Or.inr ⟨_, _, _, hsource, hfile, hopen, rfl⟩), ?_⟩
              exact (load_eq_error_iff _ _).mpr (Or.inr (Or.inr
                ⟨_, true, (descriptor_eq_ok_iff _ _).mpr ⟨_, hsymbol, rfl⟩, hread, rfl⟩))

/-- The program's own sample is refused where the entry has the name of the
stylesheet language, for the reason for which it does not parse cleanly. -/
theorem parseBuiltinSample_eq_error_iff {h : Handle} (hread : h.language.isReadable = true)
    (error : ConfigError) :
    (e.parseBuiltinSample h).result = .error error ↔
      e.name = "scss" ∧ ∃ fault, h.language.ParseFails GrammarAudit.builtinSample fault ∧
        error = .grammar (.parse h.name fault.message) := by
  unfold parseBuiltinSample linkedName
  by_cases hname : e.name = "scss"
  · simp only [hname, if_true, Logged.result_bind_eq_error, Logged.result_mapError,
      mapError_eq_error, h.parseSample_eq_parse_iff hread, Logged.result_pure]
    constructor
    · intro hfailed
      rcases hfailed with ⟨_, ⟨fault, hfault, rfl⟩, rfl⟩ | ⟨_, _, hpure⟩
      · exact ⟨trivial, fault, hfault, rfl⟩
      · cases hpure
    · intro hfails
      obtain ⟨-, fault, hfault, rfl⟩ := hfails
      exact Or.inl ⟨_, ⟨fault, hfault, rfl⟩, rfl⟩
  · simp [hname]

/-- The program's own sample is no obstacle where the entry has another name, or
its language parses the sample cleanly. -/
theorem exists_parseBuiltinSample_iff {h : Handle} (hread : h.language.isReadable = true) :
    (∃ builtin, (e.parseBuiltinSample h).result = .ok builtin) ↔
      (e.name = "scss" → h.language.ParsesCleanly GrammarAudit.builtinSample) := by
  constructor
  · intro hparsed hscss
    obtain ⟨builtin, hparsed⟩ := hparsed
    obtain ⟨summary, -, hsummary⟩ :=
      ((parseBuiltinSample_eq_ok_iff e h hread builtin).mp hparsed).1 hscss
    exact (h.language.exists_summarizes_iff _).mp ⟨summary, hsummary⟩
  · intro hclean
    cases hresult : (e.parseBuiltinSample h).result with
    | ok builtin => exact ⟨builtin, rfl⟩
    | error error =>
        obtain ⟨hscss, fault, hfault, -⟩ := (parseBuiltinSample_eq_error_iff hread _).mp hresult
        exact absurd (hclean hscss) ((h.language.exists_parseFails_iff _).mp ⟨fault, hfault⟩)

end Stages

section Samples

variable {w : World} {language : Language} {name : String}

/-- The first of some samples that fails has a place, and the samples at all
places before it are clean. -/
theorem firstFails_iff_getElem? {paths : List Path} {error : ConfigError} :
    FirstFails w language name paths error ↔
      ∃ (i : Nat) (path : Path), paths[i]? = some path ∧ SampleFails w language name path error ∧
        ∀ j < i, ∃ earlier, paths[j]? = some earlier ∧ CleanSample w language earlier := by
  constructor
  · intro hfails
    obtain ⟨before, path, after, rfl, hbefore, hfails⟩ := hfails
    refine ⟨before.length, path, by simp, hfails, ?_⟩
    intro j hj
    refine ⟨before[j], ?_, hbefore _ (List.getElem_mem hj)⟩
    rw [List.getElem?_append_left hj, List.getElem?_eq_getElem hj]
  · intro hfails
    obtain ⟨i, path, hpath, hfails, hbefore⟩ := hfails
    obtain ⟨hi, rfl⟩ := List.getElem?_eq_some_iff.mp hpath
    refine ⟨paths.take i, paths[i], paths.drop (i + 1), ?_, ?_, hfails⟩
    · rw [List.getElem_cons_drop, List.take_append_drop]
    · intro earlier hearlier
      obtain ⟨j, hj, rfl⟩ := List.mem_take_iff_getElem.mp hearlier
      obtain ⟨earlier, hget, hclean⟩ := hbefore j (by omega)
      rw [List.getElem?_eq_getElem (by omega)] at hget
      exact Option.some.inj hget ▸ hclean

end Samples

section Check

variable {w : World} {e : Entry} {language : Language} {source : Source}

/-- The stages of a language that has been loaded and has the node kinds come
before that of the program's own sample. -/
theorem Supplies.succeeds_of_kinds (h : e.Supplies w (some language) source)
    (hread : language.isReadable = true) (hkinds : ∀ kind, e.Requires kind → language.Finds kind) :
    ∀ stage : Stage, stage.rank < Stage.builtinSample.rank → e.Succeeds w stage := by
  intro stage hrank
  rcases Stage.eq_or_rank_lt (t := .kinds) rfl hrank with rfl | hearlier
  · exact ⟨language, source, h, hkinds⟩
  · exact h.succeeds_of_isReadable hread stage hearlier

/-- The stages of a language that has come as far as the configured samples, and
has parsed some of them, come before those of the next one. -/
theorem Supplies.succeeds_of_samples (h : e.Supplies w (some language) source)
    (hread : language.isReadable = true) (hkinds : ∀ kind, e.Requires kind → language.Finds kind)
    (hbuiltin : e.name = "scss" → language.ParsesCleanly GrammarAudit.builtinSample) {i : Nat}
    (hsamples : ∀ j < i, ∃ path, e.samples[j]? = some path ∧ CleanSample w language path) :
    ∀ stage : Stage, stage.rank < (Stage.reading i).rank → e.Succeeds w stage := by
  intro stage hrank
  cases stage with
  | reading j =>
      obtain ⟨path, hpath, text, htext, -⟩ := hsamples j (by simp only [Stage.rank] at hrank; omega)
      exact ⟨path, text, hpath, htext⟩
  | parsing j =>
      obtain ⟨path, hpath, text, htext, hclean⟩ :=
        hsamples j (by simp only [Stage.rank] at hrank; omega)
      exact ⟨language, source, path, text, h, hpath, htext, hclean⟩
  | builtinSample => exact fun hname => ⟨language, source, h, hbuiltin hname⟩
  | _ => exact h.succeeds_of_kinds hread hkinds _ (by decide)

/-- Without a provider the check fails with what the provider fails with. -/
theorem verify_of_provider_error {error : ConfigError}
    (hp : (e.provider w).result = .error error) : (e.verify w).result = .error error :=
  (verify_eq_error_iff w e error).mpr (.provider hp)

/-- Without a handle the check fails with what the load fails with. -/
theorem verify_of_load_error {error : GrammarError}
    (h : ∃ p, (e.provider w).result = .ok p ∧ (load p).result = .error error) :
    (e.verify w).result = .error (.grammar error) := by
  obtain ⟨p, hp, hload⟩ := h
  exact (verify_eq_error_iff w e _).mpr (.load hp hload)

/-- A check stops where a stage up to that of the version fails: what fails there
is made of what the stages before it have found. -/
theorem Fails.stopsAt {stage : Stage} {error : ConfigError} (h : e.Fails w stage error)
    (hstage : stage.rank < Stage.kinds.rank) : e.StopsAt w stage error := by
  refine ⟨h, fun earlier hrank => ?_⟩
  cases h with
  | unknownName | notFound => exact absurd hrank (Nat.not_lt_zero _)
  | notOpened hsource hfile _ =>
      rcases Stage.eq_or_rank_lt (t := .search) rfl hrank with rfl | hlt
      · exact Or.inr ⟨_, _, hsource, hfile⟩
      · exact absurd hlt (Nat.not_lt_zero _)
  | noSymbol hsource hfile hopen _ =>
      cases earlier with
      | search => exact Or.inr ⟨_, _, hsource, hfile⟩
      | opening => exact Or.inr ⟨_, _, _, hsource, hfile, hopen⟩
      | _ => simp only [Stage.rank] at hrank; omega
  | null hsupplied => exact hsupplied.succeeds earlier hrank
  | unreadableVersion hsupplied _ =>
      rcases Stage.eq_or_rank_lt (t := .pointer) rfl hrank with rfl | hlt
      · exact ⟨_, _, hsupplied⟩
      · exact hsupplied.succeeds earlier hlt
  | _ => simp only [Stage.rank] at hstage; omega

/-- **A failed check stops at a stage.**  There is one that fails with the error
that is told, and all stages before it succeed. -/
theorem exists_stopsAt_of_error {error : ConfigError}
    (hfailed : (e.verify w).result = .error error) : ∃ stage, e.StopsAt w stage error := by
  rw [verify_eq_error_iff] at hfailed
  cases hfailed with
  | provider hp =>
      rcases (provider_eq_error_iff w e _).mp hp with hfails | hfails
      · exact ⟨.search, hfails.stopsAt (by decide)⟩
      · exact ⟨.opening, hfails.stopsAt (by decide)⟩
  | load hp hload =>
      rcases (load_provider_eq_error_iff w e _).mp ⟨_, hp, hload⟩ with hfails | hfails | hfails
      · exact ⟨.symbol, hfails.stopsAt (by decide)⟩
      · exact ⟨.pointer, hfails.stopsAt (by decide)⟩
      · exact ⟨.version, hfails.stopsAt (by decide)⟩
  | @kinds p h error hp hload hkinds =>
      obtain ⟨hsupplied, hread, hname⟩ := supplies_of_load hp hload
      obtain ⟨hmissing, rfl⟩ := (h.checkKinds_eq_error_iff _ _).mp hkinds
      rw [Ne, Language.missingKinds_eq_nil_iff] at hmissing
      push Not at hmissing
      simp only [mem_effectiveKinds_iff] at hmissing
      rw [Language.missingKinds_eq_filter, hname]
      exact ⟨.kinds, .missingKinds hsupplied hmissing, hsupplied.succeeds_of_isReadable hread⟩
  | @builtinSample p h error hp hload hkinds hsample =>
      obtain ⟨hsupplied, hread, hname⟩ := supplies_of_load hp hload
      obtain ⟨hscss, fault, hfault, rfl⟩ := (parseBuiltinSample_eq_error_iff hread _).mp hsample
      have hfound := (checkKinds_effectiveKinds_iff e h).mp hkinds
      rw [hname]
      exact ⟨.builtinSample, .uncleanBuiltin hscss hsupplied hfault,
        hsupplied.succeeds_of_kinds hread hfound⟩
  | @samples p h builtin error hp hload hkinds hbuiltin hsamples =>
      obtain ⟨hsupplied, hread, hname⟩ := supplies_of_load hp hload
      have hfound := (checkKinds_effectiveKinds_iff e h).mp hkinds
      have hclean := (exists_parseBuiltinSample_iff hread).mp ⟨builtin, hbuiltin⟩
      rw [parseSamples_eq_error_iff w e hread, firstFails_iff_getElem?, hname] at hsamples
      obtain ⟨i, path, hpath, hfails, hbefore⟩ := hsamples
      have hearlier := hsupplied.succeeds_of_samples hread hfound hclean hbefore
      cases hfails with
      | unreadable hunread => exact ⟨.reading i, .unreadable hpath hunread, hearlier⟩
      | unclean htext hfault =>
          refine ⟨.parsing i, .unclean hsupplied hpath htext hfault, ?_⟩
          intro earlier hrank
          have hnext : (Stage.parsing i).rank = (Stage.reading i).rank + 1 := by
            simp only [Stage.rank]
            omega
          rcases Stage.eq_or_rank_lt hnext hrank with rfl | hlt
          · exact ⟨path, _, hpath, htext⟩
          · exact hearlier earlier hlt

/-- What has been seen of an entry's language before the program's own sample is
parsed. -/
theorem StopsAt.supplies {stage : Stage} {error : ConfigError} (h : e.StopsAt w stage error)
    (hrank : Stage.kinds.rank < stage.rank) :
    ∃ language source, e.Supplies w (some language) source ∧ language.isReadable = true ∧
      ∀ kind, e.Requires kind → language.Finds kind := by
  obtain ⟨language, source, hsupplied, hread⟩ :=
    h.before .version (Nat.lt_trans (by decide) hrank)
  obtain ⟨language', source', hsupplied', hfound⟩ := h.before .kinds hrank
  obtain rfl := hsupplied.language_unique hsupplied'
  exact ⟨language, source, hsupplied, language.isReadable_iff.mpr hread, hfound⟩

/-- A check that comes to the configured samples and stops at one of them fails
with what is said of that one. -/
theorem StopsAt.verify_of_sample {stage : Stage} {error : ConfigError} (h : e.StopsAt w stage error)
    {i : Nat} (hstage : stage = .reading i ∨ stage = .parsing i) {path : Path}
    (hpath : e.samples[i]? = some path)
    (hfails : ∀ language source, e.Supplies w (some language) source →
      SampleFails w language e.name path error) :
    (e.verify w).result = .error error := by
  have hrank : (Stage.reading i).rank ≤ stage.rank := by
    rcases hstage with rfl | rfl
    · exact Nat.le_refl _
    · simp only [Stage.rank]
      omega
  have hbefore : ∀ earlier : Stage, earlier.rank < (Stage.reading i).rank → e.Succeeds w earlier :=
    fun earlier hlt => h.before earlier (Nat.lt_of_lt_of_le hlt hrank)
  obtain ⟨language, source, hsupplied, hread, hfound⟩ :=
    h.supplies (Nat.lt_of_lt_of_le (by simp only [Stage.rank]; omega) hrank)
  obtain ⟨p, handle, hp, hload, rfl, -, hname⟩ := hsupplied.exists_handle hread
  have hbuiltin : e.name = "scss" → handle.language.ParsesCleanly GrammarAudit.builtinSample := by
    intro hscss
    obtain ⟨language', source', hsupplied', hclean⟩ :=
      hbefore .builtinSample (by simp only [Stage.rank]; omega) hscss
    exact hsupplied.language_unique hsupplied' ▸ hclean
  have hclean : ∀ j < i, ∃ earlier, e.samples[j]? = some earlier ∧
      CleanSample w handle.language earlier := by
    intro j hj
    obtain ⟨language', source', earlier, text, hsupplied', hearlier, htext, hclean⟩ :=
      hbefore (.parsing j) (by simp only [Stage.rank]; omega)
    obtain rfl := hsupplied.language_unique hsupplied'
    exact ⟨earlier, hearlier, text, htext, hclean⟩
  obtain ⟨builtin, hreport⟩ := (exists_parseBuiltinSample_iff hread).mpr hbuiltin
  rw [verify_eq_error_iff]
  refine .samples hp hload ((checkKinds_effectiveKinds_iff e handle).mpr hfound) hreport ?_
  rw [parseSamples_eq_error_iff w e hread, firstFails_iff_getElem?, hname]
  exact ⟨i, path, hpath, hfails _ _ hsupplied, hclean⟩

/-- **A check that stops at a stage fails.**  It fails with the error that this
stage fails with. -/
theorem verify_of_stopsAt {stage : Stage} {error : ConfigError} (h : e.StopsAt w stage error) :
    (e.verify w).result = .error error := by
  cases hfails : h.fails with
  | unknownName =>
      exact verify_of_provider_error ((provider_eq_error_iff w e _).mpr (Or.inl h.fails))
  | notFound =>
      exact verify_of_provider_error ((provider_eq_error_iff w e _).mpr (Or.inl h.fails))
  | notOpened =>
      exact verify_of_provider_error ((provider_eq_error_iff w e _).mpr (Or.inr h.fails))
  | noSymbol =>
      exact verify_of_load_error ((load_provider_eq_error_iff w e _).mpr (Or.inl h.fails))
  | null =>
      exact verify_of_load_error ((load_provider_eq_error_iff w e _).mpr (Or.inr (Or.inl h.fails)))
  | unreadableVersion =>
      exact verify_of_load_error ((load_provider_eq_error_iff w e _).mpr (Or.inr (Or.inr h.fails)))
  | @missingKinds language source hsupplied hmissing =>
      obtain ⟨language', source', hsupplied', hversion⟩ := h.before .version (by decide)
      obtain rfl := hsupplied.language_unique hsupplied'
      obtain ⟨p, handle, hp, hload, rfl, -, hname⟩ :=
        hsupplied.exists_handle (language.isReadable_iff.mpr hversion)
      rw [verify_eq_error_iff, ← hname, ← Language.missingKinds_eq_filter]
      refine .kinds hp hload ((handle.checkKinds_eq_error_iff _ _).mpr ⟨?_, rfl⟩)
      rw [Ne, Language.missingKinds_eq_nil_iff]
      push Not
      simpa only [mem_effectiveKinds_iff] using hmissing
  | @uncleanBuiltin _ _ fault hname hsupplied hfault =>
      obtain ⟨language, source, hsupplied', hread, hfound⟩ := h.supplies (by decide)
      obtain rfl := hsupplied.language_unique hsupplied'
      obtain ⟨p, handle, hp, hload, rfl, -, hhandle⟩ := hsupplied.exists_handle hread
      rw [verify_eq_error_iff, ← hhandle]
      refine .builtinSample hp hload ((checkKinds_effectiveKinds_iff e handle).mpr hfound) ?_
      exact (parseBuiltinSample_eq_error_iff hread _).mpr ⟨hname, fault, hfault, rfl⟩
  | unreadable hpath hread =>
      exact h.verify_of_sample (Or.inl rfl) hpath fun _ _ _ => .unreadable hread
  | unclean hsupplied hpath hread hfault =>
      refine h.verify_of_sample (Or.inr rfl) hpath fun language source hsupplied' => ?_
      obtain rfl := hsupplied.language_unique hsupplied'
      exact .unclean hread hfault

end Check

end Config.Entry

end GrammarAudit
