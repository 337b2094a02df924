import GrammarAudit.Proofs.CheckStages

/-!
# The first stage that fails

A check that stops at a stage has looked at what this stage and those before it
look at, and at nothing else: whatever else is changed, it stops at the same stage
with the same error.

* `SeesSame`: what a stage looks at, as what has to agree of two entries, each in
  its own surroundings, for the stage to see the same.
* `Succeeds.of_same`, `Fails.of_same`, `StopsAt.of_same`: a stage that sees the
  same comes to the same.
* `verify_first_failing_stage`: the check of an entry fails with the error of the
  first stage that fails, and nothing after that stage matters.
-/

namespace GrammarAudit

/-- The fault that something ends with, if it does not succeed. -/
def faultOf? {ε α : Type} : Except ε α → Option ε
  | .ok _ => none
  | .error fault => some fault

section Fault

variable {ε α : Type} {r r' : Except ε α}

/-- Two attempts of which one succeeds both do if their faults are the same. -/
theorem exists_ok_of_faultOf?_eq (h : faultOf? r = faultOf? r') {a : α} (hr : r = .ok a) :
    ∃ a', r' = .ok a' := by
  cases r' with
  | ok a' => exact ⟨a', rfl⟩
  | error fault => simp [hr, faultOf?] at h

/-- Two attempts of which one fails fail alike if their faults are the same. -/
theorem error_of_faultOf?_eq (h : faultOf? r = faultOf? r') {fault : ε} (hr : r = .error fault) :
    r' = .error fault := by
  cases r' with
  | ok a' => simp [hr, faultOf?] at h
  | error fault' =>
      obtain rfl : fault = fault' := by simpa [hr, faultOf?] using h
      rfl

end Fault

section Parse

variable {l l' : Language} {text text' : String} (h : l.parse text = l'.parse text')

include h

/-- A text is parsed cleanly wherever its tree is made. -/
theorem Language.ParsesCleanly.of_parse_eq (hclean : l.ParsesCleanly text) :
    l'.ParsesCleanly text' := by
  obtain ⟨tree, hparse, hkind, herror⟩ := hclean
  exact ⟨tree, h ▸ hparse, hkind, herror⟩

/-- A text is refused for the same reason wherever its tree is made. -/
theorem Language.ParseFails.of_parse_eq {fault : ParseFault} (hfails : l.ParseFails text fault) :
    l'.ParseFails text' fault := by
  cases hfails with
  | noTree hparse => exact .noTree (h ▸ hparse)
  | wrongRoot hparse hkind => exact .wrongRoot (h ▸ hparse) hkind
  | syntaxError hparse hkind herror => exact .syntaxError (h ▸ hparse) hkind herror

end Parse

namespace Config.Entry

/-- A stage sees the same of two entries, each in its own surroundings: all that
it looks at agrees.  What one stage looks at can depend on what those before it
have found. -/
def SeesSame (w w' : World) (e e' : Entry) : Stage → Prop
  | .search => e.name = e'.name ∧ e.source = e'.source ∧ ∀ path, e.source = .library path →
      w.files.isDirectory path = w'.files.isDirectory path ∧
      (w.files.isDirectory path = true →
        w.files.exists (libraryPath e.name path) = w'.files.exists (libraryPath e.name path))
  | .opening => ∀ path file, e.source = .library path → LibraryFile w.files e.name path file →
      faultOf? (w.files.openLibrary file) = faultOf? (w'.files.openLibrary file)
  | .symbol => ∀ path file object object', e.source = .library path →
      LibraryFile w.files e.name path file → w.files.openLibrary file = .ok object →
      w'.files.openLibrary file = .ok object' →
      (object.symbol? (symbolName e.name)).isSome
        = (object'.symbol? (symbolName e.name)).isSome ∧
      (object.symbol? (symbolName e.name) = none →
        w.files.openedPath file = w'.files.openedPath file)
  | .pointer => ∀ pointer source pointer' source', e.Supplies w pointer source →
      e'.Supplies w' pointer' source' →
      pointer.isSome = pointer'.isSome ∧ (pointer = none → e.displayName = e'.displayName)
  | .version => ∀ language source language' source', e.Supplies w (some language) source →
      e'.Supplies w' (some language') source' → language.abiVersion = language'.abiVersion
  | .kinds => e.effectiveKinds = e'.effectiveKinds ∧
      ∀ language source language' source', e.Supplies w (some language) source →
        e'.Supplies w' (some language') source' →
        ∀ kind ∈ e.effectiveKinds, (language.Finds kind ↔ language'.Finds kind)
  | .builtinSample => e.name = "scss" → ∀ language source language' source',
      e.Supplies w (some language) source → e'.Supplies w' (some language') source' →
      language.parse GrammarAudit.builtinSample = language'.parse GrammarAudit.builtinSample
  | .reading i => e.samples[i]? = e'.samples[i]? ∧ ∀ path, e.samples[i]? = some path →
      faultOf? (w.files.readText path) = faultOf? (w'.files.readText path)
  | .parsing i => ∀ language source language' source' path text text',
      e.Supplies w (some language) source → e'.Supplies w' (some language') source' →
      e.samples[i]? = some path → w.files.readText path = .ok text →
      w'.files.readText path = .ok text' → language.parse text = language'.parse text'

/-- All stages up to one see the same of two entries. -/
def SeesSameUpTo (w w' : World) (e e' : Entry) (stage : Stage) : Prop :=
  ∀ s : Stage, s.rank ≤ stage.rank → SeesSame w w' e e' s

section Same

variable {w w' : World} {e e' : Entry} {stage : Stage}

/-- An earlier stage follows fewer stages. -/
theorem SeesSameUpTo.mono (h : SeesSameUpTo w w' e e' stage) (earlier : Stage)
    (hrank : earlier.rank ≤ stage.rank) : SeesSameUpTo w w' e e' earlier :=
  fun s hs => h s (Nat.le_trans hs hrank)

/-- A library is looked for in the same file. -/
theorem SeesSameUpTo.libraryFile (h : SeesSameUpTo w w' e e' .search) {path file : Path}
    (hsource : e.source = .library path) (hfile : LibraryFile w.files e.name path file) :
    e'.source = .library path ∧ LibraryFile w'.files e'.name path file := by
  obtain ⟨hname, hsame, hpath⟩ := h .search (Nat.le_refl _)
  obtain ⟨hdirectory, hexists⟩ := hpath path hsource
  refine ⟨hsame ▸ hsource, ?_⟩
  rw [← hname]
  cases hfile with
  | itself hnot => exact .itself (hdirectory ▸ hnot)
  | inside his hthere => exact .inside (hdirectory ▸ his) (hexists his ▸ hthere)

/-- Two sources of which one supplies something both do. -/
theorem SeesSameUpTo.supplies (h : SeesSameUpTo w w' e e' .symbol) {pointer : Option Language}
    {source : Source} (hsupplied : e.Supplies w pointer source) :
    ∃ pointer', e'.Supplies w' pointer' source := by
  have hsearch : SeesSameUpTo w w' e e' .search := h.mono .search (by decide)
  obtain ⟨hname, hsame, -⟩ := hsearch .search (Nat.le_refl _)
  cases hsupplied with
  | linked hsource hlinked => exact ⟨_, .linked (hsame ▸ hsource) (hname ▸ hlinked)⟩
  | @exported path file object _ hsource hfile hopen hsymbol =>
      obtain ⟨hsource', hfile'⟩ := hsearch.libraryFile hsource hfile
      obtain ⟨object', hopen'⟩ :=
        exists_ok_of_faultOf?_eq (h .opening (by decide) path file hsource hfile) hopen
      have hsome := (h .symbol (by decide) path file object object' hsource hfile hopen hopen').1
      rw [hsymbol, Option.isSome_some, hname] at hsome
      obtain ⟨pointer', hsymbol'⟩ := Option.isSome_iff_exists.mp hsome.symm
      exact ⟨pointer', .exported hsource' hfile' hopen' hsymbol'⟩

/-- Two sources of which one supplies a language both do. -/
theorem SeesSameUpTo.language (h : SeesSameUpTo w w' e e' stage)
    (hrank : Stage.pointer.rank ≤ stage.rank) {language : Language} {source : Source}
    (hsupplied : e.Supplies w (some language) source) :
    ∃ language', e'.Supplies w' (some language') source := by
  obtain ⟨pointer', hsupplied'⟩ :=
    (h.mono .symbol (Nat.le_trans (by decide) hrank)).supplies hsupplied
  have hsome := (h .pointer hrank _ _ _ _ hsupplied hsupplied').1
  obtain ⟨language', rfl⟩ := Option.isSome_iff_exists.mp hsome.symm
  exact ⟨language', hsupplied'⟩

/-- A stage that succeeds does so wherever it, and those before it, see the
same. -/
theorem Succeeds.of_same (hsucceeds : e.Succeeds w stage)
    (h : SeesSameUpTo w w' e e' stage) : e'.Succeeds w' stage := by
  have hhere : SeesSame w w' e e' stage := h stage (Nat.le_refl _)
  have hsearch : SeesSameUpTo w w' e e' .search := h.mono .search (Nat.zero_le _)
  obtain ⟨hname, hsource, -⟩ := hsearch .search (Nat.le_refl _)
  cases stage with
  | search =>
      rcases hsucceeds with ⟨hbuiltin, hscss⟩ | ⟨path, file, hpath, hfile⟩
      · exact Or.inl ⟨hsource ▸ hbuiltin, hname ▸ hscss⟩
      · exact Or.inr ⟨path, file, hsearch.libraryFile hpath hfile⟩
  | opening =>
      rcases hsucceeds with hbuiltin | ⟨path, file, object, hpath, hfile, hopen⟩
      · exact Or.inl (hsource ▸ hbuiltin)
      · obtain ⟨hpath', hfile'⟩ := hsearch.libraryFile hpath hfile
        obtain ⟨object', hopen'⟩ := exists_ok_of_faultOf?_eq (hhere path file hpath hfile) hopen
        exact Or.inr ⟨path, file, object', hpath', hfile', hopen'⟩
  | symbol =>
      obtain ⟨pointer, source, hsupplied⟩ := hsucceeds
      obtain ⟨pointer', hsupplied'⟩ := h.supplies hsupplied
      exact ⟨pointer', source, hsupplied'⟩
  | pointer =>
      obtain ⟨language, source, hsupplied⟩ := hsucceeds
      obtain ⟨language', hsupplied'⟩ := h.language (by decide) hsupplied
      exact ⟨language', source, hsupplied'⟩
  | version =>
      obtain ⟨language, source, hsupplied, hversion⟩ := hsucceeds
      obtain ⟨language', hsupplied'⟩ := h.language (by decide) hsupplied
      exact ⟨language', source, hsupplied', hhere _ _ _ _ hsupplied hsupplied' ▸ hversion⟩
  | kinds =>
      obtain ⟨language, source, hsupplied, hfound⟩ := hsucceeds
      obtain ⟨language', hsupplied'⟩ := h.language (by decide) hsupplied
      refine ⟨language', source, hsupplied', fun kind hrequired => ?_⟩
      rw [← mem_effectiveKinds_iff, ← hhere.1] at hrequired
      exact (hhere.2 _ _ _ _ hsupplied hsupplied' kind hrequired).mp
        (hfound kind ((mem_effectiveKinds_iff _ _).mp hrequired))
  | builtinSample =>
      intro hscss
      rw [← hname] at hscss
      obtain ⟨language, source, hsupplied, hclean⟩ := hsucceeds hscss
      obtain ⟨language', hsupplied'⟩ := h.language (by decide) hsupplied
      exact ⟨language', source, hsupplied',
        hclean.of_parse_eq (hhere hscss _ _ _ _ hsupplied hsupplied')⟩
  | reading i =>
      obtain ⟨path, text, hpath, htext⟩ := hsucceeds
      obtain ⟨text', htext'⟩ := exists_ok_of_faultOf?_eq (hhere.2 path hpath) htext
      exact ⟨path, text', hhere.1 ▸ hpath, htext'⟩
  | parsing i =>
      obtain ⟨language, source, path, text, hsupplied, hpath, htext, hclean⟩ := hsucceeds
      obtain ⟨language', hsupplied'⟩ := h.language (by simp only [Stage.rank]; omega) hsupplied
      have hreading := h (.reading i) (by simp only [Stage.rank]; omega)
      obtain ⟨text', htext'⟩ := exists_ok_of_faultOf?_eq (hreading.2 path hpath) htext
      exact ⟨language', source, path, text', hsupplied', hreading.1 ▸ hpath, htext',
        hclean.of_parse_eq (hhere _ _ _ _ path text text' hsupplied hsupplied' hpath htext htext')⟩

/-- A stage that fails does so with the same error wherever it, and those before
it, see the same. -/
theorem Fails.of_same {error : ConfigError} (hfails : e.Fails w stage error)
    (h : SeesSameUpTo w w' e e' stage) : e'.Fails w' stage error := by
  have hhere : SeesSame w w' e e' stage := h stage (Nat.le_refl _)
  have hsearch : SeesSameUpTo w w' e e' .search := h.mono .search (Nat.zero_le _)
  obtain ⟨hname, hsource, hlooked⟩ := hsearch .search (Nat.le_refl _)
  cases hfails with
  | unknownName hbuiltin hother =>
      rw [hname]
      exact .unknownName (hsource ▸ hbuiltin) (hname ▸ hother)
  | notFound hpath hdirectory hmissing =>
      obtain ⟨hdirectory', hmissing'⟩ := hlooked _ hpath
      rw [hmissing' hdirectory, hname] at hmissing
      rw [hname]
      exact .notFound (hsource ▸ hpath) (hdirectory' ▸ hdirectory) hmissing
  | notOpened hpath hfile hopen =>
      obtain ⟨hpath', hfile'⟩ := hsearch.libraryFile hpath hfile
      exact .notOpened hpath' hfile' (error_of_faultOf?_eq (hhere _ _ hpath hfile) hopen)
  | @noSymbol path file object hpath hfile hopen hsymbol =>
      obtain ⟨hpath', hfile'⟩ := hsearch.libraryFile hpath hfile
      obtain ⟨object', hopen'⟩ :=
        exists_ok_of_faultOf?_eq (h .opening (by decide) path file hpath hfile) hopen
      obtain ⟨hnone, hplace⟩ := hhere path file object object' hpath hfile hopen hopen'
      rw [hsymbol, Option.isSome_none, hname, eq_comm, Option.isSome_eq_false_iff,
        Option.isNone_iff_eq_none] at hnone
      rw [hplace hsymbol, hname]
      exact .noSymbol hpath' hfile' hopen' hnone
  | null hsupplied =>
      obtain ⟨pointer', hsupplied'⟩ := (h.mono .symbol (by decide)).supplies hsupplied
      obtain ⟨hsome, hdisplay⟩ := hhere _ _ _ _ hsupplied hsupplied'
      obtain rfl : pointer' = none := by
        rwa [Option.isSome_none, eq_comm, Option.isSome_eq_false_iff,
          Option.isNone_iff_eq_none] at hsome
      rw [hdisplay rfl]
      exact .null hsupplied'
  | unreadableVersion hsupplied hversion =>
      obtain ⟨language', hsupplied'⟩ := h.language (by decide) hsupplied
      have hsame := hhere _ _ _ _ hsupplied hsupplied'
      rw [hsame] at hversion ⊢
      rw [hname]
      exact .unreadableVersion hsupplied' hversion
  | @missingKinds language source hsupplied hmissing =>
      obtain ⟨language', hsupplied'⟩ := h.language (by decide) hsupplied
      have hfinds := hhere.2 _ _ _ _ hsupplied hsupplied'
      have hfilter : (e.effectiveKinds.filter fun kind => ¬ language.Finds kind)
          = e'.effectiveKinds.filter fun kind => ¬ language'.Finds kind := by
        rw [← hhere.1]
        refine List.filter_congr fun kind hkind => ?_
        rw [decide_eq_decide, hfinds kind hkind]
      rw [hfilter, hname]
      obtain ⟨kind, hrequired, hnot⟩ := hmissing
      rw [← mem_effectiveKinds_iff] at hrequired
      refine .missingKinds hsupplied' ⟨kind, ?_, (hfinds kind hrequired).not.mp hnot⟩
      rwa [← mem_effectiveKinds_iff, ← hhere.1]
  | uncleanBuiltin hscss hsupplied hfault =>
      obtain ⟨language', hsupplied'⟩ := h.language (by decide) hsupplied
      rw [hname]
      exact .uncleanBuiltin (hname ▸ hscss) hsupplied'
        (hfault.of_parse_eq (hhere hscss _ _ _ _ hsupplied hsupplied'))
  | unreadable hpath hread =>
      exact .unreadable (hhere.1 ▸ hpath) (error_of_faultOf?_eq (hhere.2 _ hpath) hread)
  | @unclean i path text language source fault hsupplied hpath htext hfault =>
      obtain ⟨language', hsupplied'⟩ := h.language (by simp only [Stage.rank]; omega) hsupplied
      have hreading := h (.reading i) (by simp only [Stage.rank]; omega)
      obtain ⟨text', htext'⟩ := exists_ok_of_faultOf?_eq (hreading.2 path hpath) htext
      rw [hname]
      exact .unclean hsupplied' (hreading.1 ▸ hpath) htext'
        (hfault.of_parse_eq (hhere _ _ _ _ path text text' hsupplied hsupplied' hpath htext htext'))

/-- **Nothing later matters.**  A check that stops at a stage stops there, with
the same error, wherever that stage and those before it see the same. -/
theorem StopsAt.of_same {error : ConfigError} (hstops : e.StopsAt w stage error)
    (h : SeesSameUpTo w w' e e' stage) : e'.StopsAt w' stage error where
  fails := hstops.fails.of_same h
  before earlier hrank :=
    (hstops.before earlier hrank).of_same (h.mono earlier (Nat.le_of_lt hrank))

end Same

section Changes

variable {w : World} {e : Entry} {stage : Stage}

/-- Where the name, the source and the display name stay, the stages up to that
of the version see the same. -/
theorem seesSame_of_source {e' : Entry} (hname : e'.name = e.name) (hsource : e'.source = e.source)
    (hdisplay : e'.display = e.display) (hrank : stage.rank < Stage.kinds.rank) :
    SeesSame w w e e' stage := by
  cases stage with
  | search => exact ⟨hname.symm, hsource.symm, fun _ _ => ⟨rfl, fun _ => rfl⟩⟩
  | opening => exact fun _ _ _ _ => rfl
  | symbol =>
      intro path file object object' _ _ hopen hopen'
      rw [Except.ok.inj (hopen.symm.trans hopen')]
      exact ⟨rfl, fun _ => rfl⟩
  | pointer =>
      intro pointer source pointer' source' h h'
      obtain ⟨rfl, -⟩ := (h.congr hname hsource).unique h'
      exact ⟨rfl, fun _ => by rw [displayName, displayName, hname, hdisplay]⟩
  | version =>
      intro language source language' source' h h'
      rw [(h.congr hname hsource).language_unique h']
  | _ => simp only [Stage.rank] at hrank; omega

/-- Other samples from some place on are not seen before the sample at this place
is read. -/
theorem seesSame_of_samples {e' : Entry} (hname : e'.name = e.name) (hsource : e'.source = e.source)
    (hdisplay : e'.display = e.display) (hkinds : e'.requiredKinds = e.requiredKinds) {i : Nat}
    (hsamples : e'.samples.take i = e.samples.take i)
    (hrank : stage.rank < (Stage.reading i).rank) :
    SeesSame w w e e' stage := by
  have hget : ∀ j < i, e.samples[j]? = e'.samples[j]? := by
    intro j hj
    rw [← List.getElem?_take_of_lt hj, ← hsamples, List.getElem?_take_of_lt hj]
  have hunique : ∀ {language language' : Language} {source source' : Source},
      e.Supplies w (some language) source → e'.Supplies w (some language') source' →
        language = language' :=
    fun h h' => (h.congr hname hsource).language_unique h'
  cases stage with
  | kinds =>
      refine ⟨?_, fun _ _ _ _ h h' _ _ => by rw [hunique h h']⟩
      rw [effectiveKinds, effectiveKinds, hname, hkinds]
  | builtinSample => exact fun _ _ _ _ _ h h' => by rw [hunique h h']
  | reading j => exact ⟨hget j (by simp only [Stage.rank] at hrank; omega), fun _ _ => rfl⟩
  | parsing j =>
      intro _ _ _ _ path text text' h h' _ htext htext'
      rw [hunique h h', Except.ok.inj (htext.symm.trans htext')]
  | _ => exact seesSame_of_source hname hsource hdisplay (by decide)

end Changes

/-- **The first stage that fails.**  The check of an entry fails with an error
exactly when it stops at a stage with it: the stage fails with this error, and all
stages before it succeed.  There is only one such stage, and only what it and the
stages before it look at matters: whatever else is changed, in the entry or around
it, the check fails with the same error.  So the node kinds and the samples do not
matter before the node kinds are asked for, nor do the samples that are not yet
reached. -/
theorem verify_first_failing_stage (w : World) (e : Entry) (error : ConfigError) :
    ((e.verify w).result = .error error ↔ ∃ stage, e.StopsAt w stage error) ∧
    ∀ stage, e.StopsAt w stage error →
      (∀ stage' error', e.StopsAt w stage' error' → stage' = stage ∧ error' = error) ∧
      (∀ w' e', SeesSameUpTo w w' e e' stage → (e'.verify w').result = .error error) ∧
      (stage.rank < Stage.kinds.rank → ∀ kinds samples,
        (verify w { e with requiredKinds := kinds, samples := samples }).result = .error error) ∧
      ∀ i samples, stage.rank < (Stage.reading i).rank → samples.take i = e.samples.take i →
        (verify w { e with samples := samples }).result = .error error := by
  refine ⟨⟨exists_stopsAt_of_error, ?_⟩, fun stage hstops => ?_⟩
  · intro hstops
    obtain ⟨stage, hstops⟩ := hstops
    exact verify_of_stopsAt hstops
  · have hsame : ∀ w' e', SeesSameUpTo w w' e e' stage → (e'.verify w').result = .error error :=
      fun w' e' h => verify_of_stopsAt (hstops.of_same h)
    refine ⟨?_, hsame, ?_, ?_⟩
    · intro stage' error' hstops'
      have herror : Except.error error' = .error error :=
        (verify_of_stopsAt hstops').symm.trans (verify_of_stopsAt hstops)
      exact ⟨hstops'.unique hstops, Except.error.inj herror⟩
    · intro hrank kinds samples
      exact hsame _ _ fun s hs =>
        seesSame_of_source rfl rfl rfl (Nat.lt_of_le_of_lt hs hrank)
    · intro i samples hrank htake
      exact hsame _ _ fun s hs =>
        seesSame_of_samples rfl rfl rfl rfl htake (Nat.lt_of_le_of_lt hs hrank)

/-- A library that is not there is told of, whatever node kinds and samples are
configured. -/
theorem verify_absent_library : ∀ linked environment kinds samples,
    (verify ⟨.empty [], environment, linked⟩
      ⟨"mini", none, .library ⟨"/mini.so"⟩, kinds, samples⟩).result
      = .error (.grammar (.loadError
          "/mini.so: /mini.so: cannot open shared object file: No such file or directory")) := by
  intro linked environment kinds samples
  have hfile : LibraryFile (.empty []) "mini" ⟨"/mini.so"⟩ ⟨"/mini.so"⟩ := .itself (by decide)
  have hopen : (FileSystem.empty []).openLibrary ⟨"/mini.so"⟩
      = .error (.cannotOpen "No such file or directory") := by rfl
  have hfails : Fails ⟨.empty [], environment, linked⟩
      ⟨"mini", none, .library ⟨"/mini.so"⟩, none, []⟩ .opening _ := .notOpened rfl hfile hopen
  have hstops := hfails.stopsAt (by decide)
  exact ((verify_first_failing_stage _ _ _).2 _ hstops).2.2.1 (by decide) kinds samples

end Config.Entry

end GrammarAudit
