import GrammarAudit.CommandLine.Options
import GrammarAudit.Config.Check
import GrammarAudit.Config.File

/-!
# Selecting grammars

The options say which entries are checked: the one library, those of a config
file, or, where neither is given, those of the config in the runtime directory
or the default ones.  Of these the named ones are kept, and every one is given
the additional samples.

* `select` is the list of entries.
-/

namespace GrammarAudit.CommandLine

open Config (Entry ConfigError)

/-- Why no entries could be selected, and what was being done. -/
structure SelectionError where
  context : Option String
  cause : ConfigError
deriving DecidableEq, Repr

/-- The config file in the runtime directory. -/
def runtimeConfig (env : Environment) : Path := env.runtimeDirectory.join ⟨"grammars.toml"⟩

/-- The event of using the config in the runtime directory. -/
def runtimeConfigEvent (path : Path) : Event where
  level := .info
  target := "scss_probe"
  message := "Using runtime grammar config"
  fields := [("path", path.text)]

/-- The event of a name that no entry has. -/
def unknownNameEvent (name : String) : Event where
  level := .warn
  target := "scss_probe"
  message := "No such grammar configured"
  fields := [("grammar", name)]

/-- The entries of the runtime config, or the default ones if there is none. -/
def standardEntries (w : World) : Logged ConfigError (List Entry) :=
  let path := runtimeConfig w.environment
  if w.files.exists path then do
    Logged.emit (runtimeConfigEvent path)
    Config.loadFile w.files path
  else pure Config.defaultEntries

/-- The entries before any is left out. -/
def baseEntries (w : World) (o : Options) : Logged SelectionError (List Entry) :=
  match o.library, o.config with
  | some path, _ => pure [.ofLibrary linkedName path]
  | none, some path => (Config.loadFile w.files path).mapError (⟨some ("loading " ++ path.text), ·⟩)
  | none, none => (standardEntries w).mapError (⟨none, ·⟩)

/-- The events of the names that no entry has. -/
def unknownNames (entries : List Entry) (names : List String) : List Event :=
  (names.filter fun name => entries.all fun e => e.name != name).map unknownNameEvent

/-- The entries with one of some names, if names are given. -/
def keepOnly (only : Option (List String)) (entries : List Entry) : List Entry :=
  match only with
  | some names => entries.filter fun e => names.contains e.name
  | none => entries

/-- An entry with more samples. -/
def addSamples (samples : List Path) (e : Entry) : Entry :=
  { e with samples := e.samples ++ samples }

/-- The entries that the options ask for. -/
def select (w : World) (o : Options) : Logged SelectionError (List Entry) := do
  let entries ← baseEntries w o
  Logged.emitAll (unknownNames entries (o.only.getD []))
  pure ((keepOnly o.only entries).map (addSamples o.samples))

end GrammarAudit.CommandLine
