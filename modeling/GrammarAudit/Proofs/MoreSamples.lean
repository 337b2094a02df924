import GrammarAudit.Proofs.NamedEntries

/-!
# Checking with more samples

The additional samples of a run are parsed after all else that the check of an
entry does.  So they can only turn a success into a failure: a check that fails
without them fails in the same way with them, and one that succeeds goes on to
them, in order, up to the first that fails.

* `parseSamples_eq_error_iff`: several samples fail with the first of them that
  does.
* `verify_addSamples_of_error`, `verify_addSamples_of_ok`: what more samples
  make of the check of an entry.
* `more_samples_extend_run`: what they make of a run.
-/

namespace GrammarAudit

namespace Config.Entry

section Samples

variable (w : World) (language : Language) (name : String)

/-- A sample can be read and parses cleanly. -/
def CleanSample (path : Path) : Prop :=
  ∃ text, w.files.readText path = .ok text ∧ language.ParsesCleanly text

/-- What is said of a sample that cannot be read or does not parse cleanly with
the language of some grammar. -/
inductive SampleFails (path : Path) : ConfigError → Prop
  | unreadable {fault : IoFault} (hread : w.files.readText path = .error fault) :
      SampleFails path (.io path fault)
  | unclean {text : String} {fault : ParseFault} (hread : w.files.readText path = .ok text)
      (hfault : language.ParseFails text fault) :
      SampleFails path (.grammar (.parse name fault.message))

/-- What is said of the first of some samples that is not clean. -/
def FirstFails (paths : List Path) (error : ConfigError) : Prop :=
  ∃ before path after, paths = before ++ path :: after ∧
    (∀ earlier ∈ before, CleanSample w language earlier) ∧ SampleFails w language name path error

variable {w language name}

/-- A sample that is not clean fails with something, and only such a sample
does. -/
theorem exists_sampleFails_iff {path : Path} :
    (∃ error, SampleFails w language name path error) ↔ ¬ CleanSample w language path := by
  constructor
  · intro hfails hclean
    obtain ⟨error, hfails⟩ := hfails
    obtain ⟨text, htext, hclean⟩ := hclean
    cases hfails with
    | unreadable hread => simp [htext] at hread
    | unclean hread hfault =>
        obtain rfl := Except.ok.inj (htext.symm.trans hread)
        exact (language.exists_parseFails_iff text).mp ⟨_, hfault⟩ hclean
  · intro hunclean
    cases hread : w.files.readText path with
    | error fault => exact ⟨_, .unreadable hread⟩
    | ok text =>
        have htext : ¬ language.ParsesCleanly text := fun hclean => hunclean ⟨text, hread, hclean⟩
        obtain ⟨fault, hfault⟩ := (language.exists_parseFails_iff text).mpr htext
        exact ⟨_, .unclean hread hfault⟩

/-- Of no samples there is no first that fails. -/
theorem not_firstFails_nil {error : ConfigError} : ¬ FirstFails w language name [] error := by
  intro h
  obtain ⟨before, path, after, hsplit, -⟩ := h
  simp at hsplit

/-- The first sample to fail is the first of all, or that one is clean and the
first to fail is among the others. -/
theorem firstFails_cons_iff {path : Path} {rest : List Path} {error : ConfigError} :
    FirstFails w language name (path :: rest) error ↔
      SampleFails w language name path error ∨
        CleanSample w language path ∧ FirstFails w language name rest error := by
  constructor
  · intro h
    obtain ⟨before, failed, after, hsplit, hbefore, hfails⟩ := h
    cases before with
    | nil =>
        obtain ⟨rfl, -⟩ := List.cons.inj hsplit
        exact Or.inl hfails
    | cons first before =>
        obtain ⟨rfl, hrest⟩ := List.cons.inj hsplit
        obtain ⟨hfirst, hbefore⟩ := List.forall_mem_cons.mp hbefore
        exact Or.inr ⟨hfirst, before, failed, after, hrest, hbefore, hfails⟩
  · intro h
    rcases h with hfails | ⟨hclean, before, failed, after, rfl, hbefore, hfails⟩
    · exact ⟨[], path, rest, rfl, by simp, hfails⟩
    · exact ⟨path :: before, failed, after, rfl, List.forall_mem_cons.mpr ⟨hclean, hbefore⟩, hfails⟩

variable (name) in
/-- Some sample is the first to fail exactly when not all of them are clean.
The induction is on the list of samples. -/
theorem exists_firstFails_iff {paths : List Path} :
    (∃ error, FirstFails w language name paths error) ↔
      ∃ path ∈ paths, ¬ CleanSample w language path := by
  induction paths with
  | nil => simp [not_firstFails_nil]
  | cons path rest ih =>
      simp only [firstFails_cons_iff, exists_or, exists_sampleFails_iff, exists_and_left, ih,
        List.exists_mem_cons_iff]
      by_cases hclean : CleanSample w language path
      · simp [hclean]
      · simp [hclean]

/-- Samples after the first to fail change nothing. -/
theorem FirstFails.append {paths : List Path} {error : ConfigError}
    (h : FirstFails w language name paths error) (more : List Path) :
    FirstFails w language name (paths ++ more) error := by
  obtain ⟨before, path, after, rfl, hbefore, hfails⟩ := h
  exact ⟨before, path, after ++ more, by simp, hbefore, hfails⟩

/-- Clean samples before the first to fail change nothing. -/
theorem FirstFails.append_left {paths clean : List Path} {error : ConfigError}
    (h : FirstFails w language name paths error)
    (hclean : ∀ path ∈ clean, CleanSample w language path) :
    FirstFails w language name (clean ++ paths) error := by
  obtain ⟨before, path, after, rfl, hbefore, hfails⟩ := h
  exact ⟨clean ++ before, path, after, by simp, List.forall_mem_append.mpr ⟨hclean, hbefore⟩,
    hfails⟩

end Samples

section Handle

variable (w : World) (e : Entry) {h : Handle} (hread : h.language.isReadable = true)

include hread

/-- What a sample fails with: its file cannot be read, or its text does not
parse cleanly. -/
theorem parseSample_eq_error_iff (path : Path) (error : ConfigError) :
    (e.parseSample w h path).result = .error error ↔
      SampleFails w h.language h.name path error := by
  simp only [parseSample, Logged.result_bind_eq_error, Logged.result_ofExcept, Logged.result_emit,
    Logged.result_mapError, Logged.result_pure, mapError_eq_error, mapError_eq_ok,
    h.parseSample_eq_parse_iff hread]
  constructor
  · intro hfails
    rcases hfails with ⟨fault, hunread, rfl⟩ | ⟨text, htext, hparse⟩
    · exact .unreadable hunread
    · obtain ⟨fault, hfault, rfl⟩ : ∃ fault, h.language.ParseFails text fault ∧
          ConfigError.grammar (.parse h.name fault.message) = error := by simpa using hparse
      exact .unclean htext hfault
  · intro hfails
    cases hfails with
    | unreadable hunread => exact Or.inl ⟨_, hunread, rfl⟩
    | unclean htext hfault => exact Or.inr ⟨_, htext, by simpa using ⟨_, hfault, rfl⟩⟩

/-- **Several samples.**  They fail with what the first of them fails with that
does, all samples before it being clean.  The induction is on the list of
samples. -/
theorem parseSamples_eq_error_iff (paths : List Path) (error : ConfigError) :
    (e.parseSamples w h paths).result = .error error ↔
      FirstFails w h.language h.name paths error := by
  induction paths with
  | nil => simp [parseSamples, not_firstFails_nil]
  | cons path rest ih =>
      have hclean : (∃ sample, (e.parseSample w h path).result = .ok sample) ↔
          CleanSample w h.language path := by
        simp only [parseSample_eq_ok_iff w e h hread]
        exact exists_sampleReport_iff w h.language path
      rw [firstFails_cons_iff, ← parseSample_eq_error_iff w e hread, ← hclean, ← ih]
      simp [parseSamples, Logged.result_bind_eq_error, -Logged.result_bind]

end Handle

/-- The provider of an entry has the entry's name. -/
theorem provider_name {w : World} {e : Entry} {p : Provider} (hp : (e.provider w).result = .ok p) :
    p.name = e.name := by
  rcases (provider_eq_ok_iff w e p).mp hp with
    ⟨-, hname, rfl⟩ | ⟨path, file, object, -, -, -, rfl⟩
  · exact hname.symm
  · rfl

/-- What is supplied for an entry depends on its name and its source. -/
theorem Supplies.congr {w : World} {e e' : Entry} {pointer : Option Language} {source : Source}
    (h : e.Supplies w pointer source) (hname : e'.name = e.name) (hsource : e'.source = e.source) :
    e'.Supplies w pointer source := by
  cases h with
  | linked hbuiltin hlinked => exact .linked (hsource ▸ hbuiltin) (hname ▸ hlinked)
  | exported hlibrary hfile hopen hsymbol =>
      exact .exported (hsource ▸ hlibrary) (hname ▸ hfile) hopen (hname ▸ hsymbol)

/-- A library is looked for in one file. -/
theorem LibraryFile.unique {fs : FileSystem} {name : String} {path file file' : Path}
    (h : LibraryFile fs name path file) (h' : LibraryFile fs name path file') : file = file' := by
  rw [← libraryFile_eq_ok_iff] at h h'
  exact Except.ok.inj (h.symm.trans h')

/-- An entry's source supplies one language, under one source. -/
theorem Supplies.unique {w : World} {e : Entry} {pointer pointer' : Option Language}
    {source source' : Source} (h : e.Supplies w pointer source)
    (h' : e.Supplies w pointer' source') : pointer = pointer' ∧ source = source' := by
  cases h with
  | linked hsource _ =>
      cases h' with
      | linked _ _ => exact ⟨rfl, rfl⟩
      | exported hsource' _ _ _ => simp [hsource] at hsource'
  | exported hsource hfile hopen hsymbol =>
      cases h' with
      | linked hsource' _ => simp [hsource] at hsource'
      | exported hsource' hfile' hopen' hsymbol' =>
          obtain rfl := EntrySource.library.inj (hsource.symm.trans hsource')
          obtain rfl := hfile.unique hfile'
          obtain rfl := Except.ok.inj (hopen.symm.trans hopen')
          exact ⟨Option.some.inj (hsymbol.symm.trans hsymbol'), rfl⟩

/-- The handle that a check works with has the entry's name and the language that
its source supplies. -/
theorem supplies_of_load {w : World} {e : Entry} {p : Provider} {h : Handle}
    (hp : (e.provider w).result = .ok p) (hload : (load p).result = .ok h) :
    e.Supplies w (some h.language) h.source ∧ h.language.isReadable = true ∧ h.name = e.name := by
  obtain ⟨hsupplied, hread⟩ :=
    (load_provider_eq_ok_iff w e h.language h.source).mp ⟨p, h, hp, hload, rfl, rfl⟩
  exact ⟨hsupplied, hread, (load_name_and_display hload).1.trans (provider_name hp)⟩

/-- A language that can be read has such a handle. -/
theorem Supplies.exists_handle {w : World} {e : Entry} {language : Language} {source : Source}
    (hsupplied : e.Supplies w (some language) source) (hread : language.isReadable = true) :
    ∃ p h, (e.provider w).result = .ok p ∧ (load p).result = .ok h ∧ h.language = language ∧
      h.source = source ∧ h.name = e.name := by
  obtain ⟨p, h, hp, hload, hlanguage, hsource⟩ :=
    (load_provider_eq_ok_iff w e language source).mpr ⟨hsupplied, hread⟩
  exact ⟨p, h, hp, hload, hlanguage, hsource, (supplies_of_load hp hload).2.2⟩

end Config.Entry

namespace CommandLine

open Config (Entry ConfigError Report)
open Config.Entry (CleanSample SampleFails FirstFails SampleReport)

/-- The same options with more samples after those they have. -/
def Options.withSamples (o : Options) (more : List Path) : Options :=
  { o with samples := o.samples ++ more }

/-- The samples of the options are added to each entry that they select, those
that come last after the others. -/
theorem select_withSamples (w : World) (o : Options) (more : List Path) :
    (select w (o.withSamples more)).result
      = (select w o).result.map (List.map (addSamples more)) := by
  have hbase : (baseEntries w (o.withSamples more)).result = (baseEntries w o).result := rfl
  rw [select_result, select_result, hbase]
  cases (baseEntries w o).result with
  | error e => rfl
  | ok entries => simp [Except.map, Options.withSamples, addSamples]

section Check

variable {w : World} {e : Entry}

/-- **A failed check with more samples.**  It fails in the same way: what it
stops with comes before all of them. -/
theorem verify_addSamples_of_error {error : ConfigError}
    (hfailed : (e.verify w).result = .error error) (more : List Path) :
    ((addSamples more e).verify w).result = .error error := by
  rw [Entry.verify_eq_error_iff] at hfailed ⊢
  cases hfailed with
  | provider hp => exact .provider hp
  | load hp hload => exact .load hp hload
  | kinds hp hload hkinds => exact .kinds hp hload hkinds
  | builtinSample hp hload hkinds hsample => exact .builtinSample hp hload hkinds hsample
  | samples hp hload hkinds hbuiltin hsamples =>
      obtain ⟨language, dynamic, -, hread, rfl⟩ := (load_eq_ok_iff _ _).mp hload
      rw [Entry.parseSamples_eq_error_iff w e hread] at hsamples
      exact .samples hp hload hkinds hbuiltin
        ((Entry.parseSamples_eq_error_iff w _ hread _ _).mpr (hsamples.append more))

/-- **A successful check with more samples.**  The language of the entry has to
parse them too: their lines are reported after the others, or the first of them
that fails is what the check fails with. -/
theorem verify_addSamples_of_ok {r : Report} (hpassed : (e.verify w).result = .ok r) :
    ∃ language source, e.Supplies w (some language) source ∧ ∀ more,
      (∀ samples, List.Forall₂ (SampleReport w language) more samples →
        ((addSamples more e).verify w).result = .ok { r with samples := r.samples ++ samples }) ∧
      ∀ error, FirstFails w language e.name more error →
        ((addSamples more e).verify w).result = .error error := by
  obtain ⟨language, source, hsupplied, hread, hkinds, hreports⟩ :=
    (Entry.verify_eq_ok_iff w e r).mp hpassed
  obtain ⟨builtin, configured, hsamples, hscss, hother, hconfigured⟩ := hreports.samples
  refine ⟨language, source, hsupplied, fun more => ⟨?_, ?_⟩⟩
  · intro samples hmore
    refine (Entry.verify_eq_ok_iff w (addSamples more e) _).mpr
      ⟨language, source, hsupplied.congr rfl rfl, hread, hkinds, ?_⟩
    exact ⟨hreports.name, hreports.source, hreports.abiVersion, hreports.nodeKinds, builtin,
      configured ++ samples, by simp [hsamples], hscss, hother,
      List.rel_append hconfigured hmore⟩
  · intro error hfails
    obtain ⟨p, h, hp, hload, rfl, rfl, hname⟩ := hsupplied.exists_handle hread
    have hclean : ∀ path ∈ e.samples, CleanSample w h.language path :=
      ((Entry.exists_reports_iff w e h.language h.source).mp ⟨r, hreports⟩).2
    rw [← hname] at hfails
    exact (Entry.verify_eq_error_iff w _ _).mpr
      (.samples hp hload ((Entry.checkKinds_effectiveKinds_iff e h).mpr hkinds)
        ((Entry.parseBuiltinSample_eq_ok_iff e h hread builtin).mpr ⟨hscss, hother⟩)
        ((Entry.parseSamples_eq_error_iff w _ hread _ _).mpr (hfails.append_left hclean)))

/-- What becomes of the block of an entry that passed when its language has to
parse more samples: a failure exactly when one of them is not clean, and then
with the first such sample; otherwise a line for each of them follows. -/
structure ExtendedBlock (w : World) (e : Entry) (language : Language) (more : List Path) :
    Prop where
  isFailBlock_iff : IsFailBlock (entryBlock w (addSamples more e)) ↔
    ∃ path ∈ more, ¬ CleanSample w language path
  failed : IsFailBlock (entryBlock w (addSamples more e)) →
    ∃ error, FirstFails w language e.name more error ∧
      entryBlock w (addSamples more e) = "FAIL " ++ e.name ++ ": " ++ error.message ++ "\n"
  passed : ¬ IsFailBlock (entryBlock w (addSamples more e)) →
    ∃ samples, List.Forall₂ (SampleReport w language) more samples ∧
      entryBlock w (addSamples more e)
        = entryBlock w e ++ String.join (samples.map sampleLine)

/-- The language that an entry's source supplies parses all of some samples. -/
def ParsesAll (w : World) (e : Entry) (samples : List Path) : Prop :=
  ∃ language source, e.Supplies w (some language) source ∧
    ∀ path ∈ samples, CleanSample w language path

/-- The block of a failed check stays as it is. -/
theorem entryBlock_addSamples_of_fail (hfailed : IsFailBlock (entryBlock w e)) (more : List Path) :
    entryBlock w (addSamples more e) = entryBlock w e := by
  obtain ⟨error, herror⟩ := (isFailBlock_block_iff _ _).mp hfailed
  rw [entryBlock, entryBlock, herror, verify_addSamples_of_error herror more]
  rfl

/-- The lines of more samples follow the block of a successful check. -/
theorem block_append_samples (name : String) (r : Report) (samples : List (String × Summary)) :
    block name (.ok { r with samples := r.samples ++ samples })
      = block name (.ok r) ++ String.join (samples.map sampleLine) := by
  show passedBlock _ = passedBlock r ++ _
  simp [passedBlock, String.append_assoc]

/-- The block of a successful check is extended. -/
theorem entryBlock_addSamples_of_ok (hpassed : IsOkBlock (entryBlock w e)) :
    ∃ language source, e.Supplies w (some language) source ∧
      ∀ more, ExtendedBlock w e language more := by
  obtain ⟨r, hr⟩ := (isOkBlock_block_iff _ _).mp hpassed
  obtain ⟨language, source, hsupplied, hmore⟩ := verify_addSamples_of_ok hr
  refine ⟨language, source, hsupplied, fun more => ?_⟩
  obtain ⟨hok, herror⟩ := hmore more
  by_cases hclean : ∃ path ∈ more, ¬ CleanSample w language path
  · obtain ⟨error, hfails⟩ := (Config.Entry.exists_firstFails_iff e.name).mpr hclean
    have hblock : entryBlock w (addSamples more e) = block e.name (.error error) := by
      rw [entryBlock, herror error hfails]
      rfl
    have hfailed : IsFailBlock (entryBlock w (addSamples more e)) := by
      rw [hblock]
      exact (isFailBlock_block_iff _ _).mpr ⟨error, rfl⟩
    exact ⟨iff_of_true hfailed hclean, fun _ => ⟨error, hfails, hblock⟩, fun h => absurd hfailed h⟩
  · have hreported : ∀ path ∈ more, ∃ sample, SampleReport w language path sample := by
      intro path hpath
      refine (Config.Entry.exists_sampleReport_iff w language path).mpr ?_
      exact not_not.mp fun hunclean => hclean ⟨path, hpath, hunclean⟩
    obtain ⟨samples, hsamples⟩ := (exists_forall₂_iff _ more).mpr hreported
    have hblock : entryBlock w (addSamples more e)
        = entryBlock w e ++ String.join (samples.map sampleLine) := by
      rw [entryBlock, entryBlock, hok samples hsamples, hr]
      exact block_append_samples e.name r samples
    have hpassed : ¬ IsFailBlock (entryBlock w (addSamples more e)) := by
      rw [entryBlock, not_isFailBlock_block_iff, isOkBlock_block_iff]
      exact ⟨_, hok samples hsamples⟩
    exact ⟨iff_of_false hpassed hclean, fun h => absurd h hpassed,
      fun _ => ⟨samples, hsamples, hblock⟩⟩

/-- A check with more samples succeeds exactly when the check without them does
and the entry's language parses them all. -/
theorem isOkBlock_addSamples_iff (more : List Path) :
    IsOkBlock (entryBlock w (addSamples more e)) ↔
      IsOkBlock (entryBlock w e) ∧ ParsesAll w e more := by
  by_cases hpassed : IsOkBlock (entryBlock w e)
  · obtain ⟨language, source, hsupplied, hextended⟩ := entryBlock_addSamples_of_ok hpassed
    have hclean : ParsesAll w e more ↔ ∀ path ∈ more, CleanSample w language path := by
      constructor
      · intro h
        obtain ⟨language', source', hsupplied', hclean⟩ := h
        obtain rfl := Option.some.inj (hsupplied.unique hsupplied').1
        exact hclean
      · intro h
        exact ⟨language, source, hsupplied, h⟩
    rw [entryBlock, ← not_isFailBlock_block_iff, ← entryBlock, (hextended more).isFailBlock_iff,
      hclean]
    simp [hpassed]
  · have hfailed : IsFailBlock (entryBlock w e) := by
      by_contra h
      exact hpassed ((not_isFailBlock_block_iff _ _).mp h)
    simp [entryBlock_addSamples_of_fail hfailed more, hpassed]

end Check

section Run

variable {w : World} {o : Options} {entries : List Entry}
  (hselect : (select w o).result = .ok entries)

include hselect

/-- More samples select the same entries, each with more samples. -/
theorem select_withSamples_of_ok (more : List Path) :
    (select w (o.withSamples more)).result = .ok (entries.map (addSamples more)) := by
  rw [select_withSamples, hselect]
  rfl

/-- A run with more samples prints the blocks of these entries. -/
theorem runWith_withSamples_output (more : List Path) :
    (runWith w (o.withSamples more)).output
      = String.join (entries.map fun e => entryBlock w (addSamples more e)) := by
  rw [(runWith_of_entries (select_withSamples_of_ok hselect more)).1, List.map_map]
  rfl

/-- A run with more samples ends with code 0 exactly when the run without them
does and the language of each entry parses them all; otherwise it ends with code
1. -/
theorem runWith_withSamples_exitCode (more : List Path) :
    ((runWith w (o.withSamples more)).ending.exitCode = 0 ↔
      (runWith w o).ending.exitCode = 0 ∧ ∀ e ∈ entries, ParsesAll w e more) ∧
    ((runWith w (o.withSamples more)).ending.exitCode ≠ 0 →
      (runWith w (o.withSamples more)).ending.exitCode = 1) := by
  obtain ⟨-, hcode, hother⟩ := runWith_of_entries (select_withSamples_of_ok hselect more)
  refine ⟨?_, hother⟩
  rw [hcode, (runWith_of_entries hselect).2.1]
  simp only [List.forall_mem_map, isOkBlock_addSamples_iff, ne_eq, List.map_eq_nil_iff]
  constructor
  · intro h
    exact ⟨⟨h.1, fun e he => (h.2 e he).1⟩, fun e he => (h.2 e he).2⟩
  · intro h
    exact ⟨h.1.1, fun e he => ⟨h.1.2 e he, h.2 e he⟩⟩

/-- For the code of a run neither the order nor the repetition of more samples
matters. -/
theorem runWith_withSamples_exitCode_congr {more others : List Path}
    (hsame : ∀ path, path ∈ others ↔ path ∈ more) :
    (runWith w (o.withSamples others)).ending.exitCode
      = (runWith w (o.withSamples more)).ending.exitCode := by
  obtain ⟨hmore, hmoreOther⟩ := runWith_withSamples_exitCode hselect more
  obtain ⟨hothers, hothersOther⟩ := runWith_withSamples_exitCode hselect others
  have hzero : (runWith w (o.withSamples others)).ending.exitCode = 0 ↔
      (runWith w (o.withSamples more)).ending.exitCode = 0 := by
    rw [hothers, hmore]
    simp only [ParsesAll, hsame]
  by_cases hwell : (runWith w (o.withSamples more)).ending.exitCode = 0
  · rw [hwell, hzero.mpr hwell]
  · rw [hmoreOther hwell, hothersOther (mt hzero.mp hwell)]

end Run

/-- **More samples only extend the check.**  An entry that fails prints the same
block with them.  An entry that passes prints its block with one more line for
each of them, unless one cannot be read or does not parse cleanly: then the
first such sample is told.  So the longer run ends well exactly when the other
does and each entry's language parses them all, and neither their order nor
their repetition matters for that. -/
theorem more_samples_extend_run (w : World) (o : Options) (more : List Path) :
    let run := runWith w o
    let longer := runWith w (o.withSamples more)
    (∀ error, (select w o).result = .error error →
      longer.output = run.output ∧ longer.ending = run.ending) ∧
    ∀ entries, (select w o).result = .ok entries →
      run.output = String.join (entries.map (entryBlock w)) ∧
      longer.output = String.join (entries.map fun e => entryBlock w (addSamples more e)) ∧
      (∀ e ∈ entries,
        (IsFailBlock (entryBlock w e) → entryBlock w (addSamples more e) = entryBlock w e) ∧
        (IsOkBlock (entryBlock w e) → ∃ language source, e.Supplies w (some language) source ∧
          ExtendedBlock w e language more)) ∧
      (longer.ending.exitCode = 0 ↔
        run.ending.exitCode = 0 ∧ ∀ e ∈ entries, ParsesAll w e more) ∧
      (run.ending.exitCode = 0 → ∀ others, (∀ path, path ∈ others ↔ path ∈ more) →
        (runWith w (o.withSamples others)).ending.exitCode = longer.ending.exitCode) := by
  refine ⟨fun error hselect => ?_, fun entries hselect => ?_⟩
  · have hlonger : (select w (o.withSamples more)).result = .error error := by
      rw [select_withSamples, hselect]
      rfl
    simp [runWith, hselect, hlonger]
  · refine ⟨(runWith_of_entries hselect).1, runWith_withSamples_output hselect more,
      fun e _ => ⟨fun hfailed => ?_, fun hpassed => ?_⟩,
      (runWith_withSamples_exitCode hselect more).1,
      fun _ others hsame => runWith_withSamples_exitCode_congr hselect hsame⟩
    · exact entryBlock_addSamples_of_fail hfailed more
    · obtain ⟨language, source, hsupplied, hextended⟩ := entryBlock_addSamples_of_ok hpassed
      exact ⟨language, source, hsupplied, hextended more⟩

end CommandLine

end GrammarAudit
