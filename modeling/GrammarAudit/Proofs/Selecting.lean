import GrammarAudit.Proofs.NamedEntries
import GrammarAudit.Proofs.NamesInParts
import GrammarAudit.Proofs.StandardConfig

/-!
# Which entries are selected

A selection starts from a library, a config file, the config in the runtime
directory or the standard config; which of them it is does not depend on whether
that can be read.  Of these entries those with one of the given names are kept, in
order, and the samples of the command line are added to each of them.  How the
names are given does not matter.

* `StartsFrom`, `startsFrom_iff`: what a selection starts from.
* `select_of_base_ok`, `select_of_base_error`: what is made of that, and which
  warnings there are.
* `select_congr_of_names`, `named_select`: what depends on the names.
* `selection_law`: all of this, for every choice of options.
-/

namespace GrammarAudit.CommandLine

open Config (Entry ConfigError)

/-- What a selection starts from: some entries, or why there are none. -/
inductive StartsFrom (w : World) (o : Options) : Except ConfigError (List Entry) → Prop
  /-- A library that is given is the only entry. -/
  | library {path : Path} (hlibrary : o.library = some path) :
      StartsFrom w o (.ok [⟨"scss", none, .library path, none, []⟩])
  /-- A config that is given is loaded. -/
  | config {file : Path} (hlibrary : o.library = none) (hconfig : o.config = some file) :
      StartsFrom w o (Config.loadFile w.files file).result
  /-- The config in the runtime directory is loaded if it is there. -/
  | runtime (hlibrary : o.library = none) (hconfig : o.config = none)
      (hexists : w.files.exists (runtimeConfig w.environment) = true) :
      StartsFrom w o (Config.loadFile w.files (runtimeConfig w.environment)).result
  /-- Otherwise there is the config that the program brings along. -/
  | standard (hlibrary : o.library = none) (hconfig : o.config = none)
      (hmissing : w.files.exists (runtimeConfig w.environment) = false) :
      StartsFrom w o (Config.parse Config.standardConfig)

/-- The warnings among the events of a computation. -/
def warnings {ε α : Type} (x : Logged ε α) : List Event := x.events.filter fun e => e.level = .warn

section Base

variable {w : World} {o : Options}

/-- A selection starts from one thing only. -/
theorem StartsFrom.unique {r r' : Except ConfigError (List Entry)} (h : StartsFrom w o r)
    (h' : StartsFrom w o r') : r = r' := by
  cases h with
  | library hlibrary =>
      cases h' with
      | library hlibrary' =>
          obtain rfl := Option.some.inj (hlibrary.symm.trans hlibrary')
          rfl
      | _ => simp_all
  | config hlibrary hconfig =>
      cases h' with
      | config _ hconfig' =>
          obtain rfl := Option.some.inj (hconfig.symm.trans hconfig')
          rfl
      | _ => simp_all
  | runtime hlibrary hconfig hexists =>
      cases h' with
      | runtime => rfl
      | _ => simp_all
  | standard hlibrary hconfig hmissing =>
      cases h' with
      | standard => rfl
      | _ => simp_all

variable (w o)

/-- A failure keeps its cause when it is told what was being done. -/
theorem mapError_cause (context : Option String) (r : Except ConfigError (List Entry)) :
    (r.mapError fun cause => (⟨context, cause⟩ : SelectionError)).mapError SelectionError.cause
      = r := by
  cases r with
  | error e => rfl
  | ok entries => rfl

/-- A selection starts from the entries before any is left out. -/
theorem startsFrom_baseEntries :
    StartsFrom w o ((baseEntries w o).result.mapError SelectionError.cause) := by
  unfold baseEntries
  cases hlibrary : o.library with
  | some path => exact .library hlibrary
  | none =>
      cases hconfig : o.config with
      | some file =>
          rw [Logged.result_mapError, mapError_cause]
          exact .config hlibrary hconfig
      | none =>
          rw [Logged.result_mapError, mapError_cause]
          simp only [standardEntries]
          cases hexists : w.files.exists (runtimeConfig w.environment) with
          | true => exact .runtime hlibrary hconfig hexists
          | false =>
              have hstandard := StartsFrom.standard hlibrary hconfig hexists
              rwa [Config.parse_standardConfig] at hstandard

/-- **Where a selection starts.**  There is one thing that it starts from. -/
theorem startsFrom_iff (r : Except ConfigError (List Entry)) :
    StartsFrom w o r ↔ r = (baseEntries w o).result.mapError SelectionError.cause := by
  constructor
  · intro h
    exact h.unique (startsFrom_baseEntries w o)
  · intro h
    rw [h]
    exact startsFrom_baseEntries w o

/-- Loading a config warns of nothing: what it reports is for debugging. -/
theorem level_of_mem_loadFile (fs : FileSystem) (file : Path) :
    ∀ event ∈ (Config.loadFile fs file).events, event.level = .debug := by
  intro event hevent
  unfold Config.loadFile at hevent
  cases hread : Config.readFile fs file with
  | error e =>
      rw [Logged.events_bind_of_error (by exact hread)] at hevent
      simp at hevent
  | ok entries =>
      rw [Logged.events_bind_of_ok (by exact hread), Logged.events_bind_of_ok rfl] at hevent
      obtain rfl : event = Config.loadedEvent file entries.length := by simpa using hevent
      rfl

/-- There is no warning before names are compared. -/
theorem warnings_baseEntries : warnings (baseEntries w o) = [] := by
  rw [warnings, List.filter_eq_nil_iff]
  intro event hevent
  have hload := level_of_mem_loadFile w.files
  unfold baseEntries at hevent
  cases hlibrary : o.library with
  | some path => simp [hlibrary] at hevent
  | none =>
      cases hconfig : o.config with
      | some file => simp [hload file event (by simpa [hlibrary, hconfig] using hevent)]
      | none =>
          simp only [hlibrary, hconfig, standardEntries, Logged.events_mapError] at hevent
          cases hexists : w.files.exists (runtimeConfig w.environment) with
          | true =>
              rw [if_pos hexists, Logged.events_bind_of_ok rfl] at hevent
              rcases List.mem_append.mp hevent with hinfo | hevent
              · obtain rfl : event = runtimeConfigEvent _ := by simpa using hinfo
                simp [runtimeConfigEvent]
              · simp [hload _ event hevent]
          | false => simp [hexists] at hevent

end Base

section Select

variable {w : World} {o : Options} {entries : List Entry}

/-- **A selection that succeeds.**  The entries with one of the given names are
kept, in order, with the additional samples after their own; and there is a
warning for each given name that no entry has. -/
theorem select_of_base_ok (hbase : (baseEntries w o).result = .ok entries) :
    (select w o).result = .ok ((entries.filter fun e => ∀ names ∈ o.only, e.name ∈ names).map
        fun e => { e with samples := e.samples ++ o.samples }) ∧
    warnings (select w o)
      = ((o.only.getD []).filter fun name => ∀ e ∈ entries, e.name ≠ name).map
          unknownNameEvent := by
  constructor
  · rw [select_result, hbase]
    cases honly : o.only with
    | none => simp [keepOnly, Except.map, addSamples]
    | some names => simp [keepOnly, Except.map, addSamples]
  · have hbefore : (baseEntries w o).events.filter (fun e => e.level = .warn) = [] :=
      warnings_baseEntries w o
    have hnames : ∀ event ∈ unknownNames entries (o.only.getD []), event.level = .warn := by
      intro event hevent
      obtain ⟨name, -, rfl⟩ := List.mem_map.mp hevent
      rfl
    unfold select
    rw [warnings, Logged.events_bind_of_ok hbase, Logged.events_bind_of_ok rfl,
      List.filter_append, hbefore, Logged.events_emitAll, Logged.events_pure, List.append_nil,
      List.nil_append, List.filter_eq_self.mpr (by simpa using hnames), unknownNames]
    congr 2
    funext name
    rw [Bool.eq_iff_iff]
    simp

/-- **A selection that fails.**  It does so where there is nothing to start from,
without a warning. -/
theorem select_of_base_error {error : SelectionError}
    (hbase : (baseEntries w o).result = .error error) :
    (select w o).result = .error error ∧ warnings (select w o) = [] := by
  constructor
  · rw [select_result, hbase]
    rfl
  · unfold select
    rw [warnings, Logged.events_bind_of_error hbase]
    exact warnings_baseEntries w o

/-- A selection fails for the cause for which there is nothing to start from. -/
theorem exists_select_eq_error_iff {cause : ConfigError} :
    (∃ context, (select w o).result = .error ⟨context, cause⟩) ↔
      (baseEntries w o).result.mapError SelectionError.cause = .error cause := by
  rw [select_result, mapError_eq_error]
  constructor
  · intro h
    obtain ⟨context, hselect⟩ := h
    exact ⟨_, map_eq_error.mp hselect, rfl⟩
  · intro h
    obtain ⟨⟨context, cause⟩, hbase, rfl⟩ := h
    exact ⟨context, map_eq_error.mpr hbase⟩

variable (w o)

/-- Of the names only those count that are among them, not their order or their
repetition. -/
theorem select_congr_of_names {names names' : List String}
    (hsame : ∀ name, name ∈ names ↔ name ∈ names') :
    (select w { o with only := some names }).result
      = (select w { o with only := some names' }).result := by
  have hbase : baseEntries w { o with only := some names }
      = baseEntries w { o with only := some names' } := rfl
  have hkeep : keepOnly (some names) = keepOnly (some names') := by
    funext entries
    simp only [keepOnly, List.contains_eq_mem, hsame]
  rw [select_result, select_result, hbase, hkeep]

/-- A selection of which the entries with some names are kept is the selection by
the names that are among both. -/
theorem named_select (names chosen : List String) :
    (select w { o with only := some names }).result.map (named chosen)
      = (select w { o with only := some (names.filter (· ∈ chosen)) }).result := by
  have hbase : baseEntries w { o with only := some (names.filter (· ∈ chosen)) }
      = baseEntries w { o with only := some names } := rfl
  rw [select_result, select_result, hbase]
  cases (baseEntries w { o with only := some names }).result with
  | error e => rfl
  | ok entries =>
      simp only [Except.map, named_map_addSamples]
      congr 2
      rw [named, keepOnly, List.filter_filter]
      refine List.filter_congr fun e _ => ?_
      rw [Bool.eq_iff_iff]
      simp [and_comm]

end Select

/-- **Names given in any way.**  Two command lines that give the same names, in
any order, with repetitions and in any parts, are refused alike or select the same
entries.  If the names are the same in order, they ask for the same. -/
theorem select_givesNames (w : World) {names names' args args' : List String}
    (h : GivesNames names args) (h' : GivesNames names' args')
    (hsame : ∀ name, name ∈ names ↔ name ∈ names') (before after : List String) :
    (∀ refusal, parse (before ++ args ++ after) = .error refusal ↔
      parse (before ++ args' ++ after) = .error refusal) ∧
    ∀ o o', parse (before ++ args ++ after) = .ok o → parse (before ++ args' ++ after) = .ok o' →
      (select w o).result = (select w o').result ∧ (names = names' → o = o') := by
  obtain ⟨r, hr⟩ := parse_givesNames before after
  rw [hr names args h, hr names' args' h']
  constructor
  · intro refusal
    rw [map_eq_error, map_eq_error]
  · intro o o' ho ho'
    obtain ⟨⟨earlier, rest⟩, rfl, rfl⟩ := map_eq_ok.mp ho
    obtain rfl := Except.ok.inj ho'
    refine ⟨?_, fun heq => by rw [heq]⟩
    refine select_congr_of_names w rest fun name => ?_
    simp [hsame name]

/-- **The selection.**  It starts from one thing, and it fails exactly if that
fails, for the same cause; so a config that is there but cannot be read is never
replaced by another.  Otherwise the entries with one of the given names are kept,
in order, and the additional samples are put after their own; there is one warning
for each given name that no entry has, in order.  For the entries neither the order
of the names, nor their repetition, nor the arguments in which they are given
matter, and what two choices of names leave in turn is what the names in both leave
at once. -/
theorem selection_law (w : World) (o : Options) :
    (∃ base, (∀ r, StartsFrom w o r ↔ r = base) ∧
      (∀ cause, base = .error cause ↔ ∃ context, (select w o).result = .error ⟨context, cause⟩) ∧
      (∀ cause, base = .error cause → warnings (select w o) = []) ∧
      ∀ entries, base = .ok entries →
        (select w o).result = .ok ((entries.filter fun e => ∀ names ∈ o.only, e.name ∈ names).map
          fun e => { e with samples := e.samples ++ o.samples }) ∧
        warnings (select w o)
          = ((o.only.getD []).filter fun name => ∀ e ∈ entries, e.name ≠ name).map
              unknownNameEvent) ∧
    (∀ names names', (∀ name, name ∈ names ↔ name ∈ names') →
      (select w { o with only := some names }).result
        = (select w { o with only := some names' }).result) ∧
    (∀ names names' args args', GivesNames names args → GivesNames names' args' →
      (∀ name, name ∈ names ↔ name ∈ names') → ∀ before after,
        (∀ refusal, parse (before ++ args ++ after) = .error refusal ↔
          parse (before ++ args' ++ after) = .error refusal) ∧
        ∀ v v', parse (before ++ args ++ after) = .ok v →
          parse (before ++ args' ++ after) = .ok v' →
          (select w v).result = (select w v').result ∧ (names = names' → v = v')) ∧
    (∀ names chosen, (select w { o with only := some names }).result.map (named chosen)
      = (select w { o with only := some (names.filter (· ∈ chosen)) }).result) ∧
    (o.library = none → o.config = none →
      w.files.exists (runtimeConfig w.environment) = true →
      ∀ cause, (Config.loadFile w.files (runtimeConfig w.environment)).result = .error cause →
        ∃ context, (select w o).result = .error ⟨context, cause⟩) := by
  refine ⟨⟨_, startsFrom_iff w o, fun _ => exists_select_eq_error_iff.symm, ?_, ?_⟩, ?_, ?_,
    named_select w o, ?_⟩
  · intro cause hcause
    obtain ⟨error, hbase, -⟩ := mapError_eq_error.mp hcause
    exact (select_of_base_error hbase).2
  · intro entries hentries
    exact select_of_base_ok (mapError_eq_ok.mp hentries)
  · intro names names' hsame
    exact select_congr_of_names w o hsame
  · intro names names' args args' h h' hsame before after
    exact select_givesNames w h h' hsame before after
  · intro hlibrary hconfig hexists cause hload
    have hstart := StartsFrom.runtime hlibrary hconfig hexists
    rw [startsFrom_iff, hload] at hstart
    exact exists_select_eq_error_iff.mpr hstart.symm

end GrammarAudit.CommandLine
