import GrammarAudit.CommandLine.Failure
import GrammarAudit.CommandLine.Selection
import GrammarAudit.Log.Filter

/-!
# A run of the program

The selected entries are checked one after the other.  Each makes a block of
output that depends on nothing but its own check; a failing one neither stops
nor changes the others.

* `checkAll` checks entries and keeps a `Tally` of what is printed and of the
  failures.
* `run` is a run with some arguments: what is printed, what is logged and how it
  ends.
-/

namespace GrammarAudit.CommandLine

open Config (Entry ConfigError Report)

/-- How a run ends. -/
inductive Ending
  | success
  /-- The arguments are wrong. -/
  | usage
  | failure (f : Failure)
deriving DecidableEq, Repr

/-- The code that a run ends with. -/
def Ending.exitCode : Ending → Nat
  | success => 0
  | usage => 2
  | failure _ => 1

/-- What a run prints, reports and ends with. -/
structure Outcome where
  output : String
  events : List Event
  ending : Ending

/-- The text that explains the options. -/
def helpText : String :=
"Checks that SCSS tree-sitter grammars load and parse

Usage: scss-probe [OPTIONS]

Options:
  -c, --config <PATH>   Grammar configuration file (defaults to <runtime>/grammars.toml, then the builtin grammar)
  -l, --library <PATH>  Check a compiled SCSS grammar library instead of the configured grammars
      --only <ONLY>     Only check specific grammars (comma-separated)
  -s, --sample <FILE>   Extra SCSS files every checked grammar must parse (SCSS grammars also parse the builtin sample)
  -v, --verbose         Verbose logging
  -h, --help            Print help
  -V, --version         Print version
"

/-- The text that tells the version. -/
def versionText : String := "scss-probe 0.1.0\n"

/-- The line for a sample that parsed cleanly. -/
def sampleLine (sample : String × Summary) : String :=
  "  parsed " ++ sample.1 ++ ": " ++ toString sample.2.namedChildren ++ " top-level nodes\n"

/-- The lines for a grammar that passed its check. -/
def passedBlock (r : Report) : String :=
  "ok " ++ r.name ++ " (" ++ r.source.text ++ ", ABI " ++ toString r.abiVersion ++ ", "
    ++ toString r.nodeKinds ++ " node kinds)\n" ++ String.join (r.samples.map sampleLine)

/-- The line for a grammar that failed its check. -/
def failedBlock (name : String) (e : ConfigError) : String :=
  "FAIL " ++ name ++ ": " ++ e.message ++ "\n"

/-- What has been printed and reported so far, and how many checks have
failed. -/
structure Tally where
  output : String
  events : List Event
  failed : Nat

namespace Tally

/-- Nothing has been checked yet. -/
def start : Tally := ⟨"", [], 0⟩

/-- Checks one more entry: its block is printed, and a failure is counted. -/
def check (w : World) (t : Tally) (e : Entry) : Tally :=
  let checked := e.verify w
  match checked.result with
  | .ok report => ⟨t.output ++ passedBlock report, t.events ++ checked.events, t.failed⟩
  | .error error =>
    ⟨t.output ++ failedBlock e.name error, t.events ++ checked.events, t.failed + 1⟩

/-- The failure of a run in which some of so many entries failed. -/
def failure (t : Tally) (entries : Nat) : Failure :=
  ⟨toString t.failed ++ " of " ++ toString entries ++ " grammars failed", []⟩

end Tally

/-- Checks some entries, of which there has to be one. -/
def checkAll (w : World) (entries : List Entry) : Outcome :=
  if entries.isEmpty then ⟨"", [], .failure ⟨"no grammars selected", []⟩⟩
  else
    let t := entries.foldl (Tally.check w) .start
    ⟨t.output, t.events, if 0 < t.failed then .failure (t.failure entries.length) else .success⟩

/-- The causes of a refused config. -/
def causesOf : ConfigError → List String
  | .notToml => [""]
  | .shape diagnostic => [diagnostic]
  | _ => []

/-- A failed selection as a failure of the run. -/
def SelectionError.failure (e : SelectionError) : Failure :=
  match e.context with
  | some context => ⟨context, e.cause.message :: causesOf e.cause⟩
  | none => ⟨e.cause.message, causesOf e.cause⟩

/-- A run with options. -/
def runWith (w : World) (o : Options) : Outcome :=
  let selection := select w o
  match selection.result with
  | .error e => ⟨"", selection.events, .failure e.failure⟩
  | .ok entries =>
    let checks := checkAll w entries
    { checks with events := selection.events ++ checks.events }

/-- The log of a run: the events that the environment's filter shows. -/
def logged (w : World) (o : Options) (events : List Event) : List Event :=
  events.filter (Filter.ofSetting (w.environment.get? "RUST_LOG") o.verbose).shows

/-- A run with some arguments. -/
def run (w : World) (args : List String) : Outcome :=
  match parse args with
  | .error .help => ⟨helpText, [], .success⟩
  | .error .version => ⟨versionText, [], .success⟩
  | .error _ => ⟨"", [], .usage⟩
  | .ok o =>
    let outcome := runWith w o
    { outcome with events := logged w o outcome.events }

end GrammarAudit.CommandLine
