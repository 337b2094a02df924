import GrammarAudit.Proofs.Loading
import GrammarAudit.Proofs.RunOutcome

/-!
# The trace of a load

A load reports that it starts and then, if its provider has a descriptor, how it
ends: that the language is loaded or, in a warning, why it is refused.  The events
of a run are those of its selection and of all its checks, and what the filter
leaves of these is logged.  Without a setting it leaves every warning of a load,
and nothing of a load that fails for want of a descriptor.

* `Load.Ends`, `load_ends`: the four ways a load can go, each with its events.
* `Config.Entry.verify_events`: the events of a load stand in those of the check.
* `CommandLine.run_events`: what is logged of a run.
* `load_leaves_trace`: which loads leave a warning, and in which logs.
* `missing_symbol_leaves_no_warning`: a load that fails without one.
-/

namespace GrammarAudit

namespace Load

/-- The ways a load goes, with what it reports and what comes of it. -/
inductive Ends (p : Provider) : Logged GrammarError Handle → Prop
  | noDescriptor {error : GrammarError} (hdescriptor : p.descriptor = .error error) :
      Ends p ⟨[startEvent p], .error error⟩
  | null {dynamic : Bool} (hdescriptor : p.descriptor = .ok ⟨none, dynamic⟩) :
      Ends p ⟨[startEvent p, nullEvent p], .error (.absent p.display)⟩
  | unreadable {language : Language} {dynamic : Bool}
      (hdescriptor : p.descriptor = .ok ⟨some language, dynamic⟩)
      (hread : language.isReadable = false) :
      Ends p ⟨[startEvent p, versionEvent p language.abiVersion],
        .error (.incompatibleVersion p.name language.abiVersion oldestVersion newestVersion)⟩
  | loaded {language : Language} {dynamic : Bool}
      (hdescriptor : p.descriptor = .ok ⟨some language, dynamic⟩)
      (hread : language.isReadable = true) :
      Ends p ⟨[startEvent p, doneEvent ⟨language, p.name, p.display, p.source⟩],
        .ok ⟨language, p.name, p.display, p.source⟩⟩

section Ends

variable {p : Provider} {x : Logged GrammarError Handle}

/-- A load that succeeds reports so. -/
theorem Ends.done_of_ok (h : Ends p x) {handle : Handle} (hok : x.result = .ok handle) :
    ∃ last, x.events = [startEvent p, last] ∧ last.level = .info := by
  cases h with
  | loaded _ _ => exact ⟨_, rfl, rfl⟩
  | _ => cases hok

/-- A load that fails although there is a descriptor warns of it. -/
theorem Ends.warning_of_error (h : Ends p x) {descriptor : Descriptor}
    (hdescriptor : p.descriptor = .ok descriptor) {error : GrammarError}
    (herror : x.result = .error error) :
    ∃ last, x.events = [startEvent p, last] ∧ last.level = .warn := by
  cases h with
  | noDescriptor hnone => simp [hdescriptor] at hnone
  | null _ => exact ⟨_, rfl, rfl⟩
  | unreadable _ _ => exact ⟨_, rfl, rfl⟩
  | loaded _ _ => cases herror

/-- All events of a load have the same reporter. -/
theorem Ends.target_of_mem (h : Ends p x) :
    ∀ event ∈ x.events, event.target = "scss_probe_language::loader" := by
  intro event hevent
  cases h with
  | noDescriptor _ =>
      obtain rfl := List.mem_singleton.mp hevent
      rfl
  | _ =>
      rcases List.mem_cons.mp hevent with rfl | hlast
      · rfl
      · obtain rfl := List.mem_singleton.mp hlast
        rfl

end Ends

end Load

section Load

variable {p : Provider} {language : Language} {dynamic : Bool}

/-- A load ends at once if its provider has no descriptor. -/
theorem load_of_descriptor_error {error : GrammarError}
    (hdescriptor : p.descriptor = .error error) :
    load p = ⟨[Load.startEvent p], .error error⟩ := by
  unfold load
  rw [hdescriptor]
  rfl

/-- A null pointer is refused with a warning. -/
theorem load_of_null (hdescriptor : p.descriptor = .ok ⟨none, dynamic⟩) :
    load p = ⟨[Load.startEvent p, Load.nullEvent p], .error (.absent p.display)⟩ := by
  unfold load
  rw [hdescriptor]
  rfl

/-- A version that cannot be read is refused with a warning. -/
theorem load_of_unreadable (hdescriptor : p.descriptor = .ok ⟨some language, dynamic⟩)
    (hread : language.isReadable = false) :
    load p = ⟨[Load.startEvent p, Load.versionEvent p language.abiVersion],
      .error (.incompatibleVersion p.name language.abiVersion oldestVersion newestVersion)⟩ := by
  simp only [load, hdescriptor, bind, Logged.andThen, Logged.emit, Logged.ofExcept, hread]
  rfl

/-- A language of a version that can be read is loaded; the parser does not refuse
it. -/
theorem load_of_readable (hdescriptor : p.descriptor = .ok ⟨some language, dynamic⟩)
    (hread : language.isReadable = true) :
    load p = ⟨[Load.startEvent p, Load.doneEvent ⟨language, p.name, p.display, p.source⟩],
      .ok ⟨language, p.name, p.display, p.source⟩⟩ := by
  have hparser := Handle.parser_eq_ok ⟨language, p.name, p.display, p.source⟩ hread
  simp only [load, hdescriptor, bind, Logged.andThen, Logged.emit, Logged.ofExcept, hread, hparser]
  rfl

/-- **One load.**  It goes one of four ways. -/
theorem load_ends (p : Provider) : Load.Ends p (load p) := by
  cases hdescriptor : p.descriptor with
  | error error => exact load_of_descriptor_error hdescriptor ▸ .noDescriptor hdescriptor
  | ok descriptor =>
      obtain ⟨pointer, dynamic⟩ := descriptor
      cases pointer with
      | none => exact load_of_null hdescriptor ▸ .null hdescriptor
      | some language =>
          cases hread : language.isReadable with
          | false => exact load_of_unreadable hdescriptor hread ▸ .unreadable hdescriptor hread
          | true => exact load_of_readable hdescriptor hread ▸ .loaded hdescriptor hread

end Load

namespace Filter

/-- Without a setting that can be read the filter is the standard one. -/
theorem ofSetting_of_bind_eq_none {setting : Option String} (h : setting.bind parse? = none)
    (verbose : Bool) : ofSetting setting verbose = standard verbose := by
  rw [ofSetting, h, Option.getD_none]

/-- Unless more is asked for, warnings are shown and what is more important. -/
theorem shows_standard_quiet (event : Event) :
    (standard false).shows event = decide (event.level.rank ≤ 2) := by
  rfl

/-- A directive for a part of the program is for the events of that part. -/
theorem caresAbout_of_isPrefixOf {target : String} {rank : Nat} {event : Event}
    (h : target.toList.isPrefixOf event.target.toList = true) :
    (Directive.mk (some target) none [] rank).caresAbout event = true := by
  simp [Directive.caresAbout, h]

/-- A warning of a load is shown, whether more is asked for or not. -/
theorem shows_standard_of_warn {event : Event} (hlevel : event.level = .warn)
    (htarget : event.target = "scss_probe_language::loader") (verbose : Bool) :
    (standard verbose).shows event = true := by
  cases verbose with
  | false =>
      rw [shows_standard_quiet, hlevel]
      rfl
  | true =>
      -- the event is in the part of the program that both directives are for, so
      -- which of them decides follows from the directives alone
      have hkept : (standard true).directives.filter (·.caresAbout event)
          = (standard true).directives := by
        rw [List.filter_eq_self]
        intro directive hdirective
        have hcares : directive = ⟨some "scss_probe", none, [], 4⟩ ∨
            directive = ⟨some "scss_probe_language", none, [], 4⟩ := by
          simpa [standard] using hdirective
        rcases hcares with rfl | rfl
        · exact caresAbout_of_isPrefixOf (by rw [htarget]; decide)
        · exact caresAbout_of_isPrefixOf (by rw [htarget]; decide)
      rw [shows, decisive?, hkept, hlevel]
      rfl

end Filter

namespace Config.Entry

variable {w : World} {e : Entry}

/-- Opening a library is reported for debugging only. -/
theorem level_of_mem_openLibrary {path : Path} :
    ∀ event ∈ (e.openLibrary w path).events, event.level = .debug := by
  intro event hevent
  unfold openLibrary at hevent
  cases hfile : libraryFile w.files e.name path with
  | error error =>
      rw [hfile, Logged.events_bind_of_error rfl] at hevent
      cases hevent
  | ok file =>
      rw [hfile, Logged.events_bind_of_ok rfl] at hevent
      obtain rfl := List.mem_singleton.mp hevent
      rfl

/-- What is reported before a load is so for debugging only. -/
theorem level_of_mem_provider : ∀ event ∈ (e.provider w).events, event.level = .debug := by
  intro event hevent
  unfold provider at hevent
  cases hsource : e.source with
  | builtin =>
      by_cases hname : e.name = linkedName
      · simp [hsource, hname] at hevent
      · simp [hsource, hname, Logged.fail] at hevent
  | library path =>
      simp only [hsource] at hevent
      have hopening : event ∈ (e.openLibrary w path).events → event.level = .debug :=
        level_of_mem_openLibrary event
      apply hopening
      cases hopen : (e.openLibrary w path).result with
      | error error => rwa [Logged.events_bind_of_error hopen] at hevent
      | ok library => simpa [Logged.events_bind_of_ok hopen] using hevent

/-- **The events of a check.**  Those of the load come after those of its provider,
and they are the last ones if the load fails. -/
theorem verify_events {p : Provider} (hp : (e.provider w).result = .ok p) :
    ∃ rest, (e.verify w).events = (e.provider w).events ++ (load p).events ++ rest ∧
      ∀ error, (load p).result = .error error → rest = [] := by
  cases hload : (load p).result with
  | error error =>
      have hmapped : ((load p).mapError ConfigError.grammar).result
          = .error (.grammar error) := by
        rw [Logged.result_mapError, hload, mapError_error]
      refine ⟨[], ?_, fun _ _ => rfl⟩
      rw [verify, Logged.events_bind_of_ok hp, verifyProvider, Logged.events_bind_of_error hmapped,
        Logged.events_mapError, List.append_nil]
  | ok h =>
      have hmapped : ((load p).mapError ConfigError.grammar).result = .ok h := by
        rw [Logged.result_mapError, hload, mapError_ok]
      rw [verify, Logged.events_bind_of_ok hp, verifyProvider, Logged.events_bind_of_ok hmapped,
        Logged.events_mapError, ← List.append_assoc]
      exact ⟨_, rfl, fun error herror => by cases herror⟩

end Config.Entry

namespace CommandLine

open Config (Entry)

variable (w : World)

/-- **The events of a tally.**  The events of all checks are reported in order.  The
induction is on the list, for any tally to start with. -/
theorem Tally.foldl_check_events (t : Tally) (entries : List Entry) :
    (entries.foldl (check w) t).events = t.events ++ entries.flatMap fun e => (e.verify w).events := by
  induction entries generalizing t with
  | nil => simp
  | cons e rest ih =>
      have hstep : (t.check w e).events = t.events ++ (e.verify w).events := by
        cases hcheck : (e.verify w).result with
        | ok report => simp only [check, hcheck]
        | error error => simp only [check, hcheck]
      rw [List.foldl_cons, ih, hstep, List.flatMap_cons, List.append_assoc]

/-- The events of checking some entries are those of their checks. -/
theorem checkAll_events (entries : List Entry) :
    (checkAll w entries).events = entries.flatMap fun e => (e.verify w).events := by
  unfold checkAll
  cases entries with
  | nil => rfl
  | cons e rest => exact Tally.foldl_check_events w .start (e :: rest)

/-- **What a run logs.**  Of the events of the selection and of all checks, in
order, those that the filter shows. -/
theorem run_events {args : List String} {o : Options} {entries : List Entry}
    (hparse : parse args = .ok o) (hselect : (select w o).result = .ok entries) :
    (run w args).events = logged w o
      ((select w o).events ++ entries.flatMap fun e => (e.verify w).events) := by
  simp only [run, hparse, runWith, hselect, checkAll_events]

/-- A run checks an entry: its arguments are read, and the entry is selected. -/
def Checks (args : List String) (o : Options) (e : Entry) : Prop :=
  parse args = .ok o ∧ ∃ entries, (select w o).result = .ok entries ∧ e ∈ entries

/-- No setting of the log that can be read is in the environment. -/
def LogsByDefault : Prop := (w.environment.get? "RUST_LOG").bind Filter.parse? = none

variable {w} {args : List String} {o : Options} {e : Entry} {p : Provider}

/-- Every warning of a load is logged by the run that checks the entry. -/
theorem Checks.mem_events_of_warn (hchecks : Checks w args o e) (hdefault : LogsByDefault w)
    (hp : (e.provider w).result = .ok p) {event : Event} (hevent : event ∈ (load p).events)
    (hlevel : event.level = .warn) (htarget : event.target = "scss_probe_language::loader") :
    event ∈ (run w args).events := by
  obtain ⟨hparse, entries, hselect, hmem⟩ := hchecks
  obtain ⟨rest, hverify, -⟩ := Entry.verify_events hp
  have hcheck : event ∈ (e.verify w).events := by
    rw [hverify]
    grind
  have hshown : (Filter.ofSetting (w.environment.get? "RUST_LOG") o.verbose).shows event = true := by
    rw [Filter.ofSetting_of_bind_eq_none hdefault]
    exact Filter.shows_standard_of_warn hlevel htarget _
  rw [run_events w hparse hselect, logged, List.mem_filter]
  exact ⟨List.mem_append_right _ (List.mem_flatMap_of_mem hmem hcheck), hshown⟩

/-- Nothing is logged of a check whose load fails for want of a descriptor. -/
theorem logged_of_descriptor_error (hdefault : LogsByDefault w) (hquiet : o.verbose = false)
    (hp : (e.provider w).result = .ok p) {error : GrammarError}
    (hdescriptor : p.descriptor = .error error) : logged w o (e.verify w).events = [] := by
  obtain ⟨rest, hverify, hlast⟩ := Entry.verify_events hp
  have hload : load p = ⟨[Load.startEvent p], .error error⟩ := load_of_descriptor_error hdescriptor
  have hrest : rest = [] := hlast error (by rw [hload])
  rw [logged, List.filter_eq_nil_iff]
  intro event hevent
  have hlevel : event.level = .debug := by
    rw [hverify, hload, hrest, List.append_nil, List.mem_append, List.mem_singleton] at hevent
    rcases hevent with hprovider | rfl
    · exact Entry.level_of_mem_provider event hprovider
    · rfl
  rw [Filter.ofSetting_of_bind_eq_none hdefault, hquiet, Filter.shows_standard_quiet, hlevel]
  decide

end CommandLine

open CommandLine (Checks LogsByDefault run logged)

/-- **The trace of a load.**  A load first reports the name and the source of its
provider.  Then it reports, if it succeeds, that the language is loaded, and, if it
fails although the provider has a descriptor, a warning; a load that fails for want
of a descriptor reports nothing more.  Without a setting of the log every warning of
a load is logged by the run that checks the entry, while of a check whose load fails
for want of a descriptor nothing is logged unless more is asked for. -/
theorem load_leaves_trace (p : Provider) :
    ((Load.startEvent p).level = .debug ∧
      (Load.startEvent p).fields = [("grammar", Text.quoted p.name), ("source", p.source.text)]) ∧
    (∀ h, (load p).result = .ok h →
      ∃ last, (load p).events = [Load.startEvent p, last] ∧ last.level = .info) ∧
    (∀ descriptor error, p.descriptor = .ok descriptor → (load p).result = .error error →
      ∃ last, (load p).events = [Load.startEvent p, last] ∧ last.level = .warn) ∧
    (∀ error, p.descriptor = .error error → load p = ⟨[Load.startEvent p], .error error⟩) ∧
    ∀ w args o e, Checks w args o e → LogsByDefault w → (e.provider w).result = .ok p →
      (∀ event ∈ (load p).events, event.level = .warn → event ∈ (run w args).events) ∧
      ∀ error, p.descriptor = .error error → o.verbose = false →
        logged w o (e.verify w).events = [] := by
  have hends := load_ends p
  refine ⟨⟨rfl, rfl⟩, fun h => hends.done_of_ok, fun descriptor error hdescriptor => ?_,
    fun error => load_of_descriptor_error, fun w args o e hchecks hdefault hp => ⟨?_, ?_⟩⟩
  · exact hends.warning_of_error hdescriptor
  · intro event hevent hlevel
    exact hchecks.mem_events_of_warn hdefault hp hevent hlevel (hends.target_of_mem event hevent)
  · intro error hdescriptor hquiet
    exact CommandLine.logged_of_descriptor_error hdefault hquiet hp hdescriptor

/-- A library that hands out a null pointer is refused with a warning, which the run
logs. -/
theorem null_library_leaves_warning :
    let language : Language := ⟨14, [], fun _ => none⟩
    let object : SharedObject := ⟨[("tree_sitter_scss", none)]⟩
    let w : World := ⟨⟨.directory [("l", .file (.library object))], [], []⟩, ⟨[]⟩, language⟩
    let p : Provider := (SharedLibrary.mk "scss" "SCSS" ⟨"/l"⟩ ⟨"/l"⟩ object).provider
    ∃ event ∈ (load p).events, event.level = .warn ∧ event ∈ (run w ["--library=/l"]).events := by
  intro language object w p
  let e : Config.Entry := .ofLibrary "scss" ⟨"/l"⟩
  let o : CommandLine.Options := { CommandLine.Options.unset with library := some ⟨"/l"⟩ }
  have hchecks : Checks w ["--library=/l"] o e := ⟨by rfl, [e], by rfl, by simp⟩
  have hp : (e.provider w).result = .ok p := by
    have hdisplay : e.displayName = "SCSS" := by decide +kernel
    show Except.ok (SharedLibrary.mk "scss" e.displayName ⟨"/l"⟩ ⟨"/l"⟩ object).provider = _
    rw [hdisplay]
  have hdescriptor : p.descriptor = .ok ⟨none, true⟩ := by
    have hname : symbolName "scss" = "tree_sitter_scss" := by decide
    simp [p, SharedLibrary.provider, SharedLibrary.descriptor, SharedObject.symbol?, object, hname]
  obtain ⟨-, -, hfailed, -, hruns⟩ := load_leaves_trace p
  have hload : (load p).result = .error (.absent "SCSS") :=
    (load_eq_error_iff p _).mpr (Or.inr (Or.inl ⟨true, hdescriptor, rfl⟩))
  obtain ⟨last, hevents, hlevel⟩ := hfailed _ _ hdescriptor hload
  have hmem : last ∈ (load p).events := by simp [hevents]
  exact ⟨last, hmem, hlevel, (hruns w _ o e hchecks rfl hp).1 last hmem hlevel⟩

/-- A library without the grammar's symbol makes a load and a run fail, and nothing
is logged. -/
theorem missing_symbol_leaves_no_warning :
    let language : Language := ⟨14, [], fun _ => none⟩
    let object : SharedObject := ⟨[]⟩
    let w : World := ⟨⟨.directory [("l", .file (.library object))], [], []⟩, ⟨[]⟩, language⟩
    let p : Provider := (SharedLibrary.mk "scss" "SCSS" ⟨"/l"⟩ ⟨"/l"⟩ object).provider
    (∃ error, (load p).result = .error error) ∧
      (∀ event ∈ (load p).events, event.level ≠ .warn) ∧
      (run w ["--library=/l"]).ending.exitCode = 1 ∧ (run w ["--library=/l"]).events = [] := by
  intro language object w p
  refine ⟨⟨_, rfl⟩, ?_, ?_, ?_⟩
  · decide
  · rfl
  · rfl

end GrammarAudit
