import GrammarAudit.CommandLine.Run

/-!
# The outcome of a run

A run ends before any check when its arguments are not read as options or when
nothing is selected.  Otherwise it goes through the selected entries with a
tally.  One step of the tally appends the block of one entry and counts a
failure; by induction the tally of a list has the blocks of all its entries in
order, and as many failures as checks that failed.

* `Tally.check_output`, `Tally.check_failed`: one step of the tally.
* `Tally.foldl_check`: the tally of a list of entries.
* `run_outcome`: what a run prints and how it ends, for every command line.
-/

namespace GrammarAudit.CommandLine

open Config (Entry ConfigError Report)

/-- The check failed. -/
def isFailure {ε α : Type} : Except ε α → Bool
  | .ok _ => false
  | .error _ => true

/-- What is printed for an entry of some name with some outcome of its check. -/
def block (name : String) : Except ConfigError Report → String
  | .ok r =>
    "ok " ++ r.name ++ " (" ++ r.source.text ++ ", ABI " ++ toString r.abiVersion ++ ", "
      ++ toString r.nodeKinds ++ " node kinds)\n"
      ++ String.join (r.samples.map fun (label, summary) =>
        "  parsed " ++ label ++ ": " ++ toString summary.namedChildren ++ " top-level nodes\n")
  | .error e => "FAIL " ++ name ++ ": " ++ e.message ++ "\n"

/-- The arguments are wrong: they are refused, and not because help or the
version is asked for. -/
def UsageError (args : List String) : Prop :=
  ∃ refusal, parse args = .error refusal ∧ refusal ≠ .help ∧ refusal ≠ .version

variable (w : World)

/-- The number of entries whose check fails. -/
def failures (entries : List Entry) : Nat :=
  entries.countP fun e => isFailure (e.verify w).result

namespace Tally

/-- One step prints the block of the entry that is checked. -/
theorem check_output (t : Tally) (e : Entry) :
    (t.check w e).output = t.output ++ block e.name (e.verify w).result := by
  cases hcheck : (e.verify w).result with
  | ok report =>
      simp only [check, hcheck]
      rfl
  | error error =>
      simp only [check, hcheck]
      rfl

/-- One step counts the entry that is checked if it fails. -/
theorem check_failed (t : Tally) (e : Entry) :
    (t.check w e).failed = t.failed + if isFailure (e.verify w).result then 1 else 0 := by
  cases hcheck : (e.verify w).result with
  | ok report =>
      simp only [check, hcheck]
      rfl
  | error error =>
      simp only [check, hcheck]
      rfl

/-- **The tally of a list.**  The blocks of all entries are printed in order,
whichever of them fail, and all failures are counted.  The induction is on the
list, for any tally to start with. -/
theorem foldl_check (t : Tally) (entries : List Entry) :
    (entries.foldl (check w) t).output
        = t.output ++ String.join (entries.map fun e => block e.name (e.verify w).result) ∧
      (entries.foldl (check w) t).failed = t.failed + failures w entries := by
  induction entries generalizing t with
  | nil => simp [failures]
  | cons e rest ih =>
      obtain ⟨houtput, hfailed⟩ := ih (t.check w e)
      constructor
      · rw [List.foldl_cons, houtput, check_output, List.map_cons, String.join_cons,
          String.append_assoc]
      · rw [List.foldl_cons, hfailed, check_failed, failures, failures, List.countP_cons]
        omega

end Tally

/-- No check fails exactly when every check succeeds. -/
theorem failures_eq_zero_iff (entries : List Entry) :
    failures w entries = 0 ↔ ∀ e ∈ entries, ∃ r, (e.verify w).result = .ok r := by
  rw [failures, List.countP_eq_zero]
  refine forall₂_congr fun e _ => ?_
  cases (e.verify w).result with
  | ok report => simp [isFailure]
  | error error => simp [isFailure]

/-- The output of checking some entries is the sequence of their blocks. -/
theorem checkAll_output (entries : List Entry) :
    (checkAll w entries).output
      = String.join (entries.map fun e => block e.name (e.verify w).result) := by
  unfold checkAll
  cases entries with
  | nil => simp
  | cons e rest =>
      have h := (Tally.foldl_check w .start (e :: rest)).1
      simpa [Tally.start] using h

/-- Checking some entries, of which there is one, ends well if none fails, and
otherwise tells how many of them failed. -/
theorem checkAll_ending {entries : List Entry} (hne : entries ≠ []) :
    (checkAll w entries).ending =
      if failures w entries = 0 then .success
      else .failure ⟨toString (failures w entries) ++ " of " ++ toString entries.length
        ++ " grammars failed", []⟩ := by
  have hfailed : (entries.foldl (Tally.check w) .start).failed = failures w entries := by
    simpa [Tally.start] using (Tally.foldl_check w .start entries).2
  have hempty : entries.isEmpty = false := by simpa using hne
  by_cases hzero : failures w entries = 0
  · simp [checkAll, hempty, hfailed, hzero]
  · simp [checkAll, hempty, hfailed, hzero, Tally.failure, Nat.pos_of_ne_zero hzero]

/-- Checking some entries, of which there is one, ends with code 0 exactly when
every check succeeds. -/
theorem checkAll_exitCode_eq_zero_iff {entries : List Entry} (hne : entries ≠ []) :
    (checkAll w entries).ending.exitCode = 0 ↔ ∀ e ∈ entries, ∃ r, (e.verify w).result = .ok r := by
  rw [checkAll_ending w hne, ← failures_eq_zero_iff]
  by_cases hzero : failures w entries = 0
  · simp [hzero, Ending.exitCode]
  · simp [hzero, Ending.exitCode]

/-- Checking some entries, of which there is one, ends with code 1 if it does
not end well, and the failures are counted. -/
theorem checkAll_exitCode_ne_zero {entries : List Entry} (hne : entries ≠ [])
    (hcode : (checkAll w entries).ending.exitCode ≠ 0) :
    (checkAll w entries).ending.exitCode = 1 ∧
      (checkAll w entries).ending = .failure ⟨toString (failures w entries) ++ " of "
        ++ toString entries.length ++ " grammars failed", []⟩ := by
  rw [checkAll_ending w hne] at hcode ⊢
  by_cases hzero : failures w entries = 0
  · simp [hzero, Ending.exitCode] at hcode
  · simp [hzero, Ending.exitCode]

/-- A run whose arguments are read prints and ends as its selection and the
checks of the selected entries do. -/
theorem run_of_parse {args : List String} {o : Options} (hparse : parse args = .ok o) :
    (run w args).output = (runWith w o).output ∧ (run w args).ending = (runWith w o).ending := by
  simp [run, hparse]

/-- A failed selection ends a run before anything is printed. -/
theorem runWith_of_select_error {o : Options} {e : SelectionError}
    (hselect : (select w o).result = .error e) :
    (runWith w o).output = "" ∧ (runWith w o).ending.exitCode = 1 := by
  simp [runWith, hselect, Ending.exitCode]

/-- After a selection the selected entries are checked. -/
theorem runWith_of_select_ok {o : Options} {entries : List Entry}
    (hselect : (select w o).result = .ok entries) :
    (runWith w o).output = (checkAll w entries).output ∧
      (runWith w o).ending = (checkAll w entries).ending := by
  simp [runWith, hselect]

/-- A run with options never ends with the code of wrong arguments. -/
theorem runWith_exitCode_ne_two (o : Options) : (runWith w o).ending.exitCode ≠ 2 := by
  cases hselect : (select w o).result with
  | error e => simp [(runWith_of_select_error w hselect).2]
  | ok entries =>
      rw [(runWith_of_select_ok w hselect).2]
      by_cases hne : entries = []
      · simp [hne, checkAll, Ending.exitCode]
      · intro htwo
        have hone := (checkAll_exitCode_ne_zero w hne (by omega)).1
        omega

/-- A run ends with code 2 exactly when its arguments are wrong. -/
theorem run_exitCode_eq_two_iff (args : List String) :
    (run w args).ending.exitCode = 2 ↔ UsageError args := by
  unfold UsageError
  cases hparse : parse args with
  | ok o => simp [(run_of_parse w hparse).2, runWith_exitCode_ne_two]
  | error refusal => cases refusal <;> simp [run, hparse, Ending.exitCode]

/-- **The outcome of a run.**  Wrong arguments end a run with code 2, and only
they do; a request for help or the version is answered whatever the surroundings
are.  Without a selection nothing is printed and the code is 1.  Otherwise the
blocks of the selected entries are printed in order, each made of the entry's
name and the outcome of its own check; the code is 0 if every check succeeds and
otherwise 1, and then the failures are counted out of the number of entries. -/
theorem run_outcome (args : List String) :
    ((run w args).ending.exitCode = 2 ↔ UsageError args) ∧
    (parse args = .error .help ∨ parse args = .error .version →
      (run w args).ending.exitCode = 0 ∧ ∀ w', run w' args = run w args) ∧
    ∀ o, parse args = .ok o →
      (∀ e, (select w o).result = .error e →
        (run w args).output = "" ∧ (run w args).ending.exitCode = 1) ∧
      ((select w o).result = .ok [] →
        (run w args).output = "" ∧ (run w args).ending.exitCode = 1) ∧
      ∀ entries, (select w o).result = .ok entries → entries ≠ [] →
        (run w args).output
            = String.join (entries.map fun e => block e.name (e.verify w).result) ∧
        ((run w args).ending.exitCode = 0 ↔
          ∀ e ∈ entries, ∃ r, (e.verify w).result = .ok r) ∧
        ((run w args).ending.exitCode ≠ 0 →
          (run w args).ending.exitCode = 1 ∧
            (run w args).ending = .failure ⟨toString (failures w entries) ++ " of "
              ++ toString entries.length ++ " grammars failed", []⟩) := by
  refine ⟨run_exitCode_eq_two_iff w args, ?_, ?_⟩
  · intro h
    rcases h with hparse | hparse
    · simp [run, hparse, Ending.exitCode]
    · simp [run, hparse, Ending.exitCode]
  · intro o hparse
    obtain ⟨houtput, hending⟩ := run_of_parse w hparse
    rw [houtput, hending]
    refine ⟨fun e => runWith_of_select_error w, fun hselect => ?_, fun entries hselect hne => ?_⟩
    · obtain ⟨houtput, hending⟩ := runWith_of_select_ok w hselect
      rw [houtput, hending]
      exact ⟨rfl, rfl⟩
    · obtain ⟨houtput, hending⟩ := runWith_of_select_ok w hselect
      rw [houtput, hending]
      exact ⟨checkAll_output w entries, checkAll_exitCode_eq_zero_iff w hne,
        checkAll_exitCode_ne_zero w hne⟩

end GrammarAudit.CommandLine
