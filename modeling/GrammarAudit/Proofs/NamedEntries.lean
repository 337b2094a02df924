import Mathlib
import GrammarAudit.Proofs.RunOutcome
import GrammarAudit.Proofs.Verdict

/-!
# Checking the named entries only

Entries are checked one by one, and what is printed for one of them depends on
nothing but its own check.  So a choice of names leaves out the blocks of the
other entries and changes nothing in the blocks that remain, and the outcome of
a run can be put together from runs over parts of its entries.

* `entryBlock`, `isOkBlock_block_iff`, `isFailBlock_block_iff`: the block of an
  entry, and what its first word tells.
* `runWith_of_entries`: the output and the exit code of a run by the blocks of
  its entries.
* `select_only`: a choice of names filters the selection.
* `only_projects_run`: it projects the run.
-/

namespace GrammarAudit.CommandLine

open Config (Entry ConfigError Report)

/-- What a run prints for an entry. -/
def entryBlock (w : World) (e : Entry) : String := block e.name (e.verify w).result

/-- The block tells that a grammar has passed. -/
def IsOkBlock (text : String) : Prop := "ok ".toList <+: text.toList

/-- The block tells that a grammar has failed. -/
def IsFailBlock (text : String) : Prop := "FAIL ".toList <+: text.toList

/-- The first word of a block tells of a success exactly when the check
succeeded. -/
theorem isOkBlock_block_iff (name : String) (outcome : Except ConfigError Report) :
    IsOkBlock (block name outcome) ↔ ∃ r, outcome = .ok r := by
  cases outcome with
  | ok r => simp [IsOkBlock, block]
  | error e => simp [IsOkBlock, block]

/-- The first word of a block tells of a failure exactly when the check
failed. -/
theorem isFailBlock_block_iff (name : String) (outcome : Except ConfigError Report) :
    IsFailBlock (block name outcome) ↔ ∃ e, outcome = .error e := by
  cases outcome with
  | ok r => simp [IsFailBlock, block]
  | error e => simp [IsFailBlock, block]

/-- A block tells of a failure if it does not tell of a success. -/
theorem not_isFailBlock_block_iff (name : String) (outcome : Except ConfigError Report) :
    ¬ IsFailBlock (block name outcome) ↔ IsOkBlock (block name outcome) := by
  rw [isFailBlock_block_iff, isOkBlock_block_iff]
  cases outcome with
  | ok r => simp
  | error e => simp

/-- The entries with one of some names, in order. -/
def named (names : List String) (entries : List Entry) : List Entry :=
  entries.filter fun e => names.contains e.name

theorem mem_named {names : List String} {entries : List Entry} {e : Entry} :
    e ∈ named names entries ↔ e ∈ entries ∧ e.name ∈ names := by
  simp [named]

/-- Additional samples change no name. -/
theorem named_map_addSamples (names : List String) (samples : List Path) (entries : List Entry) :
    named names (entries.map (addSamples samples))
      = (named names entries).map (addSamples samples) :=
  List.filter_map

/-- The selection is made of the entries before any is left out. -/
theorem select_result (w : World) (o : Options) :
    (select w o).result = (baseEntries w o).result.map fun entries =>
      (keepOnly o.only entries).map (addSamples o.samples) := by
  simp only [select, Logged.result_bind, Logged.result_emitAll, Logged.result_pure]
  cases (baseEntries w o).result with
  | error e => rfl
  | ok entries => rfl

/-- **A run by its blocks.**  The blocks of the selected entries are printed in
order; the exit code is 0 if there is an entry and all blocks tell of a success,
and otherwise 1. -/
theorem runWith_of_entries {w : World} {o : Options} {entries : List Entry}
    (hselect : (select w o).result = .ok entries) :
    (runWith w o).output = String.join (entries.map (entryBlock w)) ∧
    ((runWith w o).ending.exitCode = 0 ↔
      entries ≠ [] ∧ ∀ e ∈ entries, IsOkBlock (entryBlock w e)) ∧
    ((runWith w o).ending.exitCode ≠ 0 → (runWith w o).ending.exitCode = 1) := by
  obtain ⟨houtput, hending⟩ := runWith_of_select_ok w hselect
  rw [houtput, hending]
  refine ⟨checkAll_output w entries, ?_⟩
  by_cases hne : entries = []
  · simp [hne, checkAll, Ending.exitCode]
  · refine ⟨?_, fun hcode => (checkAll_exitCode_ne_zero w hne hcode).1⟩
    rw [checkAll_exitCode_eq_zero_iff w hne]
    simp only [entryBlock, isOkBlock_block_iff]
    simp [hne]

section Only

variable {w : World} {o : Options} {entries : List Entry}
  (honly : o.only = none) (hselect : (select w o).result = .ok entries)

include honly hselect

/-- A choice of names keeps the selected entries with these names, in order. -/
theorem select_only (names : List String) :
    (select w { o with only := some names }).result
      = .ok (named names entries) := by
  rw [select_result, map_eq_ok] at hselect
  obtain ⟨base, hbase, hentries⟩ := hselect
  have hsame : (baseEntries w { o with only := some names }).result = .ok base := hbase
  rw [honly] at hentries
  rw [select_result, hsame, ← hentries]
  exact congrArg Except.ok (named_map_addSamples names o.samples base).symm

/-- **A choice of names projects the run.**  It prints the blocks of the entries
with these names, in order and unchanged, and it ends with code 0 exactly when
there is such an entry and all of these blocks tell of a success.  If two
choices cover the names of all entries, the whole run ends with code 0 exactly
when it has an entry and neither choice prints a block that tells of a
failure. -/
theorem only_projects_run :
    (runWith w o).output = String.join (entries.map (entryBlock w)) ∧
    (∀ names,
      let chosen := named names entries
      let run := runWith w { o with only := some names }
      run.output = String.join (chosen.map (entryBlock w)) ∧
      (run.ending.exitCode = 0 ↔ chosen ≠ [] ∧ ∀ e ∈ chosen, IsOkBlock (entryBlock w e)) ∧
      (run.ending.exitCode ≠ 0 → run.ending.exitCode = 1) ∧
      (chosen = [] → run.output = "" ∧ run.ending.exitCode = 1)) ∧
    ∀ names names', (∀ e ∈ entries, e.name ∈ names ∨ e.name ∈ names') →
      ((runWith w o).ending.exitCode = 0 ↔
        entries ≠ [] ∧
        (∀ e ∈ named names entries, ¬ IsFailBlock (entryBlock w e)) ∧
        ∀ e ∈ named names' entries, ¬ IsFailBlock (entryBlock w e)) := by
  refine ⟨(runWith_of_entries hselect).1, fun names => ?_, fun names names' hcover => ?_⟩
  · obtain ⟨houtput, hcode, hother⟩ := runWith_of_entries (select_only honly hselect names)
    refine ⟨houtput, hcode, hother, fun hnone => ?_⟩
    rw [hnone] at houtput hcode
    exact ⟨houtput, hother (by simp [hcode])⟩
  · rw [(runWith_of_entries hselect).2.1]
    refine and_congr_right fun _ => ?_
    simp only [mem_named, entryBlock, not_isFailBlock_block_iff]
    constructor
    · intro hall
      exact ⟨fun e he => hall e he.1, fun e he => hall e he.1⟩
    · intro hparts e he
      rcases hcover e he with hname | hname
      · exact hparts.1 e ⟨he, hname⟩
      · exact hparts.2 e ⟨he, hname⟩

end Only

/-- One of three grammars fails in a run that prints all three blocks; a choice
of another name keeps the two blocks of that name and ends well. -/
theorem only_keeps_passed_blocks :
    let text :=
      "grammar=[[\"m\",\"M\",\x7bpath=\"/m\"\x7d],[\"b\",\"B\",\"builtin\"],[\"m\",\"M\",\x7bpath=\"/m\"\x7d]]"
    let language : Language := ⟨14, [], fun _ => none⟩
    let w : World := {
      files := ⟨.directory [("c", .file (.text text)),
        ("m", .file (.library ⟨[("tree_sitter_m", some language)]⟩))], [], []⟩
      environment := ⟨[]⟩
      linked := language }
    let o : Options := { Options.unset with config := some ⟨"/c"⟩ }
    (runWith w o).ending.exitCode ≠ 0 ∧
      (runWith w { o with only := some ["m"] }).output
        = "ok m (/m, ABI 14, 0 node kinds)\nok m (/m, ABI 14, 0 node kinds)\n" ∧
      (runWith w { o with only := some ["m"] }).ending.exitCode = 0 := by
  intro text language w o
  let m : Entry := ⟨"m", some "M", .library ⟨"/m"⟩, none, []⟩
  let b : Entry := ⟨"b", some "B", .builtin, none, []⟩
  have hparse : Config.parse
      "grammar=[[\"m\",\"M\",\x7bpath=\"/m\"\x7d],[\"b\",\"B\",\"builtin\"],[\"m\",\"M\",\x7bpath=\"/m\"\x7d]]"
      = .ok [⟨"m", some "M", .library ⟨"/m"⟩, none, []⟩, ⟨"b", some "B", .builtin, none, []⟩,
        ⟨"m", some "M", .library ⟨"/m"⟩, none, []⟩] := by cbv
  have hselect : (select w o).result = .ok [m, b, m] := by
    have hload : (Config.loadFile w.files ⟨"/c"⟩).result = .ok [m, b, m] :=
      Config.loadFile_eq_ok_iff.mpr ⟨text, [m, b, m], by rfl, hparse, by rfl⟩
    have hbase : (baseEntries w o).result = .ok [m, b, m] := mapError_eq_ok.mpr hload
    rw [select_result, hbase]
    rfl
  have hm : (m.verify w).result = .ok ⟨"m", .library ⟨"/m"⟩, 14, 0, []⟩ := by
    have hname : symbolName "m" = "tree_sitter_m" := by decide
    have hsymbol : SharedObject.symbol? ⟨[("tree_sitter_m", some language)]⟩ (symbolName m.name)
        = some (some language) := by
      simp [SharedObject.symbol?, m, hname]
    refine (Entry.verify_eq_ok_iff w m _).mpr
      ⟨language, .library ⟨"/m"⟩, .exported rfl (.itself rfl) rfl hsymbol, rfl, ?_, ?_⟩
    · simp [Entry.Requires, m]
    · exact ⟨rfl, rfl, rfl, rfl, [], [], rfl, by simp [m], by simp [m], .nil⟩
  have hb : (b.verify w).result = .error (.unknownGrammar "b") := rfl
  have hchosen : named ["m"] [m, b, m] = [m, m] := rfl
  obtain ⟨-, hruns, hcover⟩ := only_projects_run rfl hselect
  obtain ⟨houtput, hcode, -, -⟩ := hruns ["m"]
  refine ⟨?_, ?_, ?_⟩
  · rw [Ne, hcover ["m"] ["b"] (by simp [m, b])]
    intro h
    have hmem : b ∈ named ["b"] [m, b, m] := mem_named.mpr (by simp [b])
    exact h.2.2 b hmem ((isFailBlock_block_iff _ _).mpr ⟨_, hb⟩)
  · rw [houtput, hchosen]
    simp only [List.map_cons, List.map_nil, entryBlock, hm]
    rfl
  · rw [hcode, hchosen]
    simp [entryBlock, isOkBlock_block_iff, hm]

end GrammarAudit.CommandLine
