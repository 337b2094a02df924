import Mathlib.Data.List.Forall2
import GrammarAudit.Config.Check
import GrammarAudit.Proofs.ItemByItem
import GrammarAudit.Proofs.Loading
import GrammarAudit.Proofs.NodeKinds

/-!
# The verdict on a configured grammar

A check goes through finding a library, opening it, taking the language from it,
reading its version, asking for node kinds and parsing samples, and stops at the
first of these that fails.  This file says what has to hold of an entry and its
surroundings for the check to succeed, without mention of an order:
`Entry.Passes` lists the conditions, and `Entry.Reports` what is then reported.

* `provider_eq_ok_iff`: when an entry has a provider, and which one.
* `parseSamples_eq_ok_iff`: when all configured samples parse.
* `verify_eq_ok_iff`: the reports of a check are those of an entry that passes.
* `verify_eq_error_iff`: otherwise it fails with what the first of its stages
  fails with.
* `verify_succeeds_iff_passes`: the check succeeds exactly when the entry
  passes.
-/

namespace GrammarAudit.Config.Entry

/-- The file in which the library of a grammar is looked for: the path of its
source, or, if that is a directory, the entry in it with the grammar's library
name, which has to be there. -/
inductive LibraryFile (fs : FileSystem) (name : String) (path : Path) : Path → Prop
  | itself (h : fs.isDirectory path = false) : LibraryFile fs name path path
  | inside (h : fs.isDirectory path = true) (hfile : fs.exists (libraryPath name path) = true) :
      LibraryFile fs name path (libraryPath name path)

/-- What the source of an entry hands out, a language or a null pointer, and
under which source. -/
inductive Supplies (w : World) (e : Entry) : Option Language → Source → Prop
  /-- The grammar of the name `scss` is linked in. -/
  | linked (hsource : e.source = .builtin) (hname : e.name = "scss") :
      Supplies w e (some w.linked) (.builtin "scss")
  /-- A library opens and exports the symbol of the grammar. -/
  | exported {path file : Path} {object : SharedObject} {pointer : Option Language}
      (hsource : e.source = .library path) (hfile : LibraryFile w.files e.name path file)
      (hopen : w.files.openLibrary file = .ok object)
      (hsymbol : object.symbol? (symbolName e.name) = some pointer) :
      Supplies w e pointer (.library file)

/-- The entry asks for the node kind: it is among those configured, or nothing
is configured and it is one of the stylesheet language, whose name the entry
has. -/
def Requires (e : Entry) (kind : String) : Prop :=
  (∃ kinds, e.requiredKinds = some kinds ∧ kind ∈ kinds) ∨
    (e.requiredKinds = none ∧ e.name = "scss" ∧ kind ∈ stylesheetKinds)

/-- What has to hold for a check of an entry to succeed, with the language that
its source supplies. -/
structure Passes (w : World) (e : Entry) (language : Language) (source : Source) : Prop where
  supplied : e.Supplies w (some language) source
  version : 13 ≤ language.abiVersion ∧ language.abiVersion ≤ 15
  kinds : ∀ kind, e.Requires kind → language.Finds kind
  builtinSample : e.name = "scss" → language.ParsesCleanly builtinSample
  samples : ∀ path ∈ e.samples, ∃ text, w.files.readText path = .ok text ∧
    language.ParsesCleanly text

/-- The label and summary of a configured sample. -/
def SampleReport (w : World) (language : Language) (path : Path)
    (sample : String × Summary) : Prop :=
  sample.1 = path.text ∧
    ∃ text, w.files.readText path = .ok text ∧ language.Summarizes text sample.2

/-- What is reported of an entry that passes: its name, its language as it was
supplied, and one summary for each sample, that of the program's own sample
first where it has to parse. -/
structure Reports (w : World) (e : Entry) (language : Language) (source : Source) (r : Report) :
    Prop where
  name : r.name = e.name
  source : r.source = source
  abiVersion : r.abiVersion = language.abiVersion
  nodeKinds : r.nodeKinds = language.kinds.length
  samples : ∃ builtin configured, r.samples = builtin ++ configured ∧
    (e.name = "scss" → ∃ summary, builtin = [("<builtin sample>", summary)] ∧
      language.Summarizes builtinSample summary) ∧
    (e.name ≠ "scss" → builtin = []) ∧
    List.Forall₂ (SampleReport w language) e.samples configured

/-- The list of node kinds that a check goes through holds the kinds that the
entry asks for. -/
theorem mem_effectiveKinds_iff (e : Entry) (kind : String) :
    kind ∈ e.effectiveKinds ↔ e.Requires kind := by
  unfold effectiveKinds Requires linkedName
  cases e.requiredKinds with
  | some kinds => simp
  | none =>
      by_cases hname : e.name = "scss"
      · simp [hname]
      · simp [hname]

/-- The search in one directory finds the entry with the grammar's library name,
if it is there. -/
theorem libraryFile_eq_ok_iff (fs : FileSystem) (name : String) (path file : Path) :
    libraryFile fs name path = .ok file ↔ LibraryFile fs name path file := by
  unfold libraryFile
  cases hdir : fs.isDirectory path with
  | false =>
      constructor
      · intro h
        obtain rfl : path = file := by simpa using h
        exact .itself hdir
      · intro h
        cases h with
        | itself _ => simp
        | inside h _ => simp [hdir] at h
  | true =>
      cases hfile : fs.exists (libraryPath name path) with
      | false =>
          constructor
          · intro h
            simp [FileSystem.findLibraryIn, hfile] at h
          · intro h
            cases h with
            | itself h => simp [hdir] at h
            | inside _ h => simp [hfile] at h
      | true =>
          have hfound : fs.findLibraryIn name [path] = .ok (libraryPath name path) := by
            simp [FileSystem.findLibraryIn, hfile]
          simp only [if_true, hfound, Except.ok.injEq]
          constructor
          · intro h
            subst h
            exact .inside hdir hfile
          · intro h
            cases h with
            | itself h => simp [hdir] at h
            | inside _ _ => rfl

/-- **Opening an entry's library.**  It succeeds with what the file holds in
which the library is looked for. -/
theorem openLibrary_eq_ok_iff (w : World) (e : Entry) (path : Path) (l : SharedLibrary) :
    (e.openLibrary w path).result = .ok l ↔
      ∃ file object, LibraryFile w.files e.name path file ∧
        w.files.openLibrary file = .ok object ∧
        l = ⟨e.name, e.displayName, file, w.files.openedPath file, object⟩ := by
  simp only [openLibrary, Logged.result_bind_eq_ok, Logged.result_ofExcept,
    Logged.result_mapError, mapError_eq_ok, libraryFile_eq_ok_iff]
  refine exists_congr fun file => ?_
  unfold SharedLibrary.open
  cases w.files.openLibrary file with
  | error fault => simp
  | ok object => simp [eq_comm]

/-- The provider of an entry is the one of the grammar that is linked in, if the
entry has its name, or that of the library that was opened for it. -/
theorem provider_eq_ok_iff (w : World) (e : Entry) (p : Provider) :
    (e.provider w).result = .ok p ↔
      (e.source = .builtin ∧ e.name = "scss" ∧ p = w.linkedProvider) ∨
        ∃ path file object, e.source = .library path ∧ LibraryFile w.files e.name path file ∧
          w.files.openLibrary file = .ok object ∧
          p = (SharedLibrary.mk e.name e.displayName file (w.files.openedPath file)
            object).provider := by
  unfold provider linkedName
  cases hsource : e.source with
  | builtin =>
      by_cases hname : e.name = "scss"
      · simp [hname, eq_comm]
      · simp [hname]
  | library path =>
      simp only [Logged.result_bind_eq_ok, openLibrary_eq_ok_iff, Logged.result_pure]
      constructor
      · intro h
        obtain ⟨-, ⟨file, object, hfile, hopen, rfl⟩, hp⟩ := h
        exact Or.inr ⟨path, file, object, rfl, hfile, hopen, (Except.ok.inj hp).symm⟩
      · intro h
        rcases h with ⟨h, -⟩ | ⟨path', file, object, h, hfile, hopen, rfl⟩
        · cases h
        · obtain rfl : path = path' := EntrySource.library.inj h
          exact ⟨_, ⟨file, object, hfile, hopen, rfl⟩, rfl⟩

/-- A library hands out what it exports under the grammar's symbol. -/
theorem descriptor_eq_ok_iff (l : SharedLibrary) (d : Descriptor) :
    l.descriptor = .ok d ↔
      ∃ pointer, l.object.symbol? (symbolName l.name) = some pointer ∧ d = ⟨pointer, true⟩ := by
  unfold SharedLibrary.descriptor
  cases l.object.symbol? (symbolName l.name) with
  | none => simp
  | some pointer => simp [eq_comm]

/-- **Loading an entry's language.**  An entry has a handle exactly when its
source supplies a language of a version that can be read. -/
theorem load_provider_eq_ok_iff (w : World) (e : Entry) (language : Language) (source : Source) :
    (∃ p h, (e.provider w).result = .ok p ∧ (load p).result = .ok h ∧ h.language = language ∧
        h.source = source) ↔
      e.Supplies w (some language) source ∧ language.isReadable = true := by
  constructor
  · intro hloaded
    obtain ⟨p, h, hp, hload, rfl, rfl⟩ := hloaded
    obtain ⟨language, dynamic, hdescriptor, hread, rfl⟩ := (load_eq_ok_iff p h).mp hload
    refine ⟨?_, hread⟩
    rcases (provider_eq_ok_iff w e p).mp hp with
      ⟨hsource, hname, rfl⟩ | ⟨path, file, object, hsource, hfile, hopen, rfl⟩
    · obtain rfl : w.linked = language := by
        simpa [World.linkedProvider] using congrArg Descriptor.language (Except.ok.inj hdescriptor)
      exact .linked hsource hname
    · obtain ⟨pointer, hsymbol, hpointer⟩ := (descriptor_eq_ok_iff _ _).mp hdescriptor
      obtain rfl : some language = pointer := congrArg Descriptor.language hpointer
      exact .exported hsource hfile hopen hsymbol
  · intro h
    obtain ⟨hsupplied, hread⟩ := h
    cases hsupplied with
    | linked hsource hname =>
        exact ⟨_, _, (provider_eq_ok_iff w e _).mpr (Or.inl ⟨hsource, hname, rfl⟩),
          (load_eq_ok_iff _ _).mpr ⟨w.linked, false, rfl, hread, rfl⟩, rfl, rfl⟩
    | exported hsource hfile hopen hsymbol =>
        exact ⟨_, _,
          (provider_eq_ok_iff w e _).mpr (Or.inr ⟨_, _, _, hsource, hfile, hopen, rfl⟩),
          (load_eq_ok_iff _ _).mpr
            ⟨language, true, (descriptor_eq_ok_iff _ _).mpr ⟨_, hsymbol, rfl⟩, hread, rfl⟩,
          rfl, rfl⟩

/-- A configured sample parses when its file can be read and its text has a
summary. -/
theorem parseSample_eq_ok_iff (w : World) (e : Entry) (h : Handle)
    (hread : h.language.isReadable = true) (path : Path) (sample : String × Summary) :
    (e.parseSample w h path).result = .ok sample ↔ SampleReport w h.language path sample := by
  simp only [parseSample, Logged.result_bind_eq_ok, Logged.result_ofExcept, Logged.result_emit,
    Logged.result_mapError, Logged.result_pure, mapError_eq_ok, h.parseSample_eq_ok_iff hread]
  constructor
  · intro hsample
    obtain ⟨text, htext, -, -, summary, hsummary, hsample⟩ := hsample
    obtain rfl := Except.ok.inj hsample
    exact ⟨rfl, text, htext, hsummary⟩
  · intro hreport
    obtain ⟨hlabel, text, htext, hsummary⟩ := hreport
    exact ⟨text, htext, (), trivial, sample.2, hsummary, by rw [← hlabel]⟩

/-- **All configured samples.**  They parse exactly when each of them does, and
they are reported in order.  The induction is on the list of samples. -/
theorem parseSamples_eq_ok_iff (w : World) (e : Entry) (h : Handle)
    (hread : h.language.isReadable = true) (paths : List Path) (samples : List (String × Summary)) :
    (e.parseSamples w h paths).result = .ok samples ↔
      List.Forall₂ (SampleReport w h.language) paths samples := by
  induction paths generalizing samples with
  | nil => simp [parseSamples, eq_comm]
  | cons path rest ih =>
      simp only [parseSamples, Logged.result_bind_eq_ok, Logged.result_pure, ih,
        parseSample_eq_ok_iff w e h hread, List.forall₂_cons_left_iff]
      constructor
      · intro hsamples
        obtain ⟨first, hfirst, others, hothers, hsamples⟩ := hsamples
        exact ⟨first, others, hfirst, hothers, (Except.ok.inj hsamples).symm⟩
      · intro hreports
        obtain ⟨first, others, hfirst, hothers, rfl⟩ := hreports
        exact ⟨first, hfirst, others, hothers, rfl⟩

/-- The program's own sample has to parse where the entry has the name of the
stylesheet language. -/
theorem parseBuiltinSample_eq_ok_iff (e : Entry) (h : Handle)
    (hread : h.language.isReadable = true) (samples : List (String × Summary)) :
    (e.parseBuiltinSample h).result = .ok samples ↔
      (e.name = "scss" → ∃ summary, samples = [("<builtin sample>", summary)] ∧
        h.language.Summarizes builtinSample summary) ∧ (e.name ≠ "scss" → samples = []) := by
  unfold parseBuiltinSample linkedName builtinSampleLabel
  by_cases hname : e.name = "scss"
  · simp only [hname, if_true, Logged.result_bind_eq_ok, Logged.result_mapError, mapError_eq_ok,
      h.parseSample_eq_ok_iff hread, Logged.result_pure]
    constructor
    · intro hsample
      obtain ⟨summary, hsummary, hsamples⟩ := hsample
      exact ⟨fun _ => ⟨summary, (Except.ok.inj hsamples).symm, hsummary⟩, fun h => absurd rfl h⟩
    · intro hreport
      obtain ⟨hbuiltin, -⟩ := hreport
      obtain ⟨summary, rfl, hsummary⟩ := hbuiltin trivial
      exact ⟨summary, hsummary, rfl⟩
  · simp [hname, eq_comm]

/-- A configured sample can be reported when its file can be read and its text
parses cleanly. -/
theorem exists_sampleReport_iff (w : World) (language : Language) (path : Path) :
    (∃ sample, SampleReport w language path sample) ↔
      ∃ text, w.files.readText path = .ok text ∧ language.ParsesCleanly text := by
  constructor
  · intro h
    obtain ⟨sample, -, text, htext, hsummary⟩ := h
    exact ⟨text, htext, (language.exists_summarizes_iff text).mp ⟨_, hsummary⟩⟩
  · intro h
    obtain ⟨text, htext, hclean⟩ := h
    obtain ⟨summary, hsummary⟩ := (language.exists_summarizes_iff text).mpr hclean
    exact ⟨(path.text, summary), rfl, text, htext, hsummary⟩

/-- The node kinds of an entry are there when each kind that it asks for is
found. -/
theorem checkKinds_effectiveKinds_iff (e : Entry) (h : Handle) :
    (h.checkKinds e.effectiveKinds).result = .ok () ↔
      ∀ kind, e.Requires kind → h.language.Finds kind := by
  rw [Handle.checkKinds_eq_ok_iff, Language.missingKinds_eq_nil_iff]
  simp only [mem_effectiveKinds_iff]

/-- **The stages of a check.**  It succeeds with a report when the entry's
source supplies a language that can be read, its node kinds are found, and its
samples are those reported. -/
theorem verify_eq_ok_iff (w : World) (e : Entry) (r : Report) :
    (e.verify w).result = .ok r ↔
      ∃ language source, e.Supplies w (some language) source ∧ language.isReadable = true ∧
        (∀ kind, e.Requires kind → language.Finds kind) ∧ e.Reports w language source r := by
  simp only [verify, verifyProvider, Logged.result_bind_eq_ok, Logged.result_mapError,
    mapError_eq_ok, Logged.result_emit, Logged.result_pure]
  constructor
  · intro hchecked
    obtain ⟨p, hp, h, hload, _, hkinds, builtin, hbuiltin, configured, hconfigured,
      -, -, hr⟩ := hchecked
    obtain ⟨hsupplied, hread⟩ :=
      (load_provider_eq_ok_iff w e h.language h.source).mp ⟨p, h, hp, hload, rfl, rfl⟩
    obtain ⟨hscss, hother⟩ := (parseBuiltinSample_eq_ok_iff e h hread builtin).mp hbuiltin
    have hsamples := (parseSamples_eq_ok_iff w e h hread e.samples configured).mp hconfigured
    obtain rfl := Except.ok.inj hr
    exact ⟨h.language, h.source, hsupplied, hread, (checkKinds_effectiveKinds_iff e h).mp hkinds,
      ⟨rfl, rfl, rfl, rfl, builtin, configured, rfl, hscss, hother, hsamples⟩⟩
  · intro hpasses
    obtain ⟨language, source, hsupplied, hread, hkinds, hreports⟩ := hpasses
    obtain ⟨p, h, hp, hload, rfl, rfl⟩ :=
      (load_provider_eq_ok_iff w e language source).mpr ⟨hsupplied, hread⟩
    obtain ⟨builtin, configured, hsamples, hscss, hother, hconfigured⟩ := hreports.samples
    refine ⟨p, hp, h, hload, (), (checkKinds_effectiveKinds_iff e h).mpr hkinds, builtin,
      (parseBuiltinSample_eq_ok_iff e h hread builtin).mpr ⟨hscss, hother⟩, configured,
      (parseSamples_eq_ok_iff w e h hread e.samples configured).mpr hconfigured, (), trivial, ?_⟩
    obtain ⟨name, source, abiVersion, nodeKinds, samples⟩ := r
    obtain rfl : name = e.name := hreports.name
    obtain rfl : source = h.source := hreports.source
    obtain rfl : abiVersion = h.abiVersion := hreports.abiVersion
    obtain rfl : nodeKinds = h.nodeKinds := hreports.nodeKinds
    obtain rfl : samples = builtin ++ configured := hsamples
    rfl

/-- What a check stops with: the first of its stages that fails, all stages
before it having succeeded. -/
inductive StopsWith (w : World) (e : Entry) : ConfigError → Prop
  | provider {error : ConfigError} (h : (e.provider w).result = .error error) : StopsWith w e error
  | load {p : Provider} {error : GrammarError} (hp : (e.provider w).result = .ok p)
      (h : (GrammarAudit.load p).result = .error error) : StopsWith w e (.grammar error)
  | kinds {p : Provider} {h : Handle} {error : GrammarError} (hp : (e.provider w).result = .ok p)
      (hload : (GrammarAudit.load p).result = .ok h)
      (hkinds : (h.checkKinds e.effectiveKinds).result = .error error) :
      StopsWith w e (.grammar error)
  | builtinSample {p : Provider} {h : Handle} {error : ConfigError}
      (hp : (e.provider w).result = .ok p) (hload : (GrammarAudit.load p).result = .ok h)
      (hkinds : (h.checkKinds e.effectiveKinds).result = .ok ())
      (hsample : (e.parseBuiltinSample h).result = .error error) : StopsWith w e error
  | samples {p : Provider} {h : Handle} {builtin : List (String × Summary)} {error : ConfigError}
      (hp : (e.provider w).result = .ok p) (hload : (GrammarAudit.load p).result = .ok h)
      (hkinds : (h.checkKinds e.effectiveKinds).result = .ok ())
      (hbuiltin : (e.parseBuiltinSample h).result = .ok builtin)
      (hsamples : (e.parseSamples w h e.samples).result = .error error) : StopsWith w e error

/-- **The stage that fails.**  A check fails with what the first of its stages
fails with that does. -/
theorem verify_eq_error_iff (w : World) (e : Entry) (error : ConfigError) :
    (e.verify w).result = .error error ↔ e.StopsWith w error := by
  simp only [verify, verifyProvider, Logged.result_bind_eq_error, Logged.result_mapError,
    mapError_eq_error, mapError_eq_ok, Logged.result_emit, Logged.result_pure]
  constructor
  · intro h
    rcases h with hprovider | ⟨p, hp, ⟨g, hload, rfl⟩ | ⟨handle, hload, h⟩⟩
    · exact .provider hprovider
    · exact .load hp hload
    rcases h with ⟨g, hkinds, rfl⟩ | ⟨_, hkinds, hsample | ⟨builtin, hbuiltin, h⟩⟩
    · exact .kinds hp hload hkinds
    · exact .builtinSample hp hload hkinds hsample
    rcases h with hsamples | ⟨configured, -, h⟩
    · exact .samples hp hload hkinds hbuiltin hsamples
    · simp at h
  · intro h
    cases h with
    | provider hprovider => exact Or.inl hprovider
    | load hp hload => exact Or.inr ⟨_, hp, Or.inl ⟨_, hload, rfl⟩⟩
    | kinds hp hload hkinds => exact Or.inr ⟨_, hp, Or.inr ⟨_, hload, Or.inl ⟨_, hkinds, rfl⟩⟩⟩
    | builtinSample hp hload hkinds hsample =>
        exact Or.inr ⟨_, hp, Or.inr ⟨_, hload, Or.inr ⟨_, hkinds, Or.inl hsample⟩⟩⟩
    | samples hp hload hkinds hbuiltin hsamples =>
        exact Or.inr ⟨_, hp, Or.inr ⟨_, hload, Or.inr ⟨_, hkinds,
          Or.inr ⟨_, hbuiltin, Or.inl hsamples⟩⟩⟩⟩

/-- An entry whose samples parse cleanly has a report, and only such an
entry. -/
theorem exists_reports_iff (w : World) (e : Entry) (language : Language) (source : Source) :
    (∃ r, e.Reports w language source r) ↔
      (e.name = "scss" → language.ParsesCleanly builtinSample) ∧
        ∀ path ∈ e.samples, ∃ text, w.files.readText path = .ok text ∧
          language.ParsesCleanly text := by
  have hsamples : (∀ path ∈ e.samples, ∃ text, w.files.readText path = .ok text ∧
      language.ParsesCleanly text) ↔
        ∃ configured, List.Forall₂ (SampleReport w language) e.samples configured := by
    rw [exists_forall₂_iff]
    simp only [exists_sampleReport_iff]
  rw [hsamples, ← language.exists_summarizes_iff]
  constructor
  · intro h
    obtain ⟨r, hr⟩ := h
    obtain ⟨builtin, configured, -, hscss, -, hconfigured⟩ := hr.samples
    refine ⟨fun hname => ?_, configured, hconfigured⟩
    obtain ⟨summary, -, hsummary⟩ := hscss hname
    exact ⟨summary, hsummary⟩
  · intro h
    obtain ⟨hscss, configured, hconfigured⟩ := h
    by_cases hname : e.name = "scss"
    · obtain ⟨summary, hsummary⟩ := hscss hname
      exact ⟨⟨e.name, source, language.abiVersion, language.kinds.length,
          [("<builtin sample>", summary)] ++ configured⟩,
        rfl, rfl, rfl, rfl, _, configured, rfl, fun _ => ⟨summary, rfl, hsummary⟩,
        fun h => absurd hname h, hconfigured⟩
    · exact ⟨⟨e.name, source, language.abiVersion, language.kinds.length, [] ++ configured⟩,
        rfl, rfl, rfl, rfl, [], configured, rfl, fun h => absurd h hname, fun _ => rfl, hconfigured⟩

/-- **The verdict is sound and complete.**  The check of an entry succeeds
exactly when the entry passes: when its source supplies a language of a version
from 13 to 15 that knows every node kind asked for and parses every sample
cleanly.  Its report then tells of that language and of these samples. -/
theorem verify_succeeds_iff_passes (w : World) (e : Entry) :
    ((∃ r, (e.verify w).result = .ok r) ↔ ∃ language source, e.Passes w language source) ∧
    ∀ r, (e.verify w).result = .ok r →
      ∃ language source, e.Passes w language source ∧ e.Reports w language source r := by
  have hreport : ∀ r, (e.verify w).result = .ok r →
      ∃ language source, e.Passes w language source ∧ e.Reports w language source r := by
    intro r hr
    obtain ⟨language, source, hsupplied, hread, hkinds, hreports⟩ := (verify_eq_ok_iff w e r).mp hr
    obtain ⟨hbuiltin, hsamples⟩ := (exists_reports_iff w e language source).mp ⟨r, hreports⟩
    exact ⟨language, source,
      ⟨hsupplied, (language.isReadable_iff).mp hread, hkinds, hbuiltin, hsamples⟩, hreports⟩
  refine ⟨⟨?_, ?_⟩, hreport⟩
  · intro h
    obtain ⟨r, hr⟩ := h
    obtain ⟨language, source, hpasses, -⟩ := hreport r hr
    exact ⟨language, source, hpasses⟩
  · intro h
    obtain ⟨language, source, hpasses⟩ := h
    obtain ⟨r, hreports⟩ := (exists_reports_iff w e language source).mpr
      ⟨hpasses.builtinSample, hpasses.samples⟩
    exact ⟨r, (verify_eq_ok_iff w e r).mpr
      ⟨language, source, hpasses.supplied, (language.isReadable_iff).mpr hpasses.version,
        hpasses.kinds, hreports⟩⟩

end GrammarAudit.Config.Entry
