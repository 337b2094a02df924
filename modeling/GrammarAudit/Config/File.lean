import GrammarAudit.Config.Reader
import GrammarAudit.Log
import GrammarAudit.FileSystem

/-!
# Config files

Relative paths in a config file are meant from the directory of that file.

* `loadFile` reads a config file and resolves its paths; `loadFile_eq_ok_iff` says
  when that succeeds.
* `defaultEntries` is the config that is used where there is none.
-/

namespace GrammarAudit.Config

/-- A path, from a directory if it is relative. -/
def resolvePath (base path : Path) : Path := if path.isRelative then base.join path else path

/-- A source with its path resolved. -/
def EntrySource.resolve (base : Path) : EntrySource → EntrySource
  | builtin => builtin
  | library path => library (resolvePath base path)

/-- An entry with its paths resolved. -/
def Entry.resolve (base : Path) (e : Entry) : Entry :=
  { e with source := e.source.resolve base, samples := e.samples.map (resolvePath base) }

/-- The directory that the paths in a file are meant from. -/
def baseOf (file : Path) : Path := file.parent?.getD ⟨"."⟩

/-- The event of reading a config file. -/
def loadedEvent (file : Path) (entries : Nat) : Event where
  level := .debug
  target := "scss_probe_language::config"
  message := "Loaded grammar config"
  fields := [("path", file.text), ("grammars", toString entries)]

/-- The entries of a file before their paths are resolved. -/
def readFile (fs : FileSystem) (file : Path) : Except ConfigError (List Entry) :=
  match fs.readText file with
  | .error fault => .error (.io file fault)
  | .ok text => parse text

/-- The entries of a file. -/
def loadFile (fs : FileSystem) (file : Path) : Logged ConfigError (List Entry) := do
  let entries ← Logged.ofExcept (readFile fs file)
  Logged.emit (loadedEvent file entries.length)
  pure (entries.map (Entry.resolve (baseOf file)))

/-- A load succeeds when the text of the file lists entries, and gives them with
their paths resolved. -/
theorem loadFile_eq_ok_iff {fs : FileSystem} {file : Path} {loaded : List Entry} :
    (loadFile fs file).result = .ok loaded ↔
      ∃ text entries, fs.readText file = .ok text ∧ parse text = .ok entries ∧
        loaded = entries.map (Entry.resolve (baseOf file)) := by
  simp only [loadFile, Logged.result_bind_eq_ok, Logged.result_ofExcept, Logged.result_emit,
    Logged.result_pure, readFile]
  cases fs.readText file with
  | error fault => simp
  | ok text => simp [eq_comm]

/-- The entries where there is no config: the grammar that is linked in. -/
def defaultEntries : List Entry :=
  [{ name := "scss", display := some "SCSS", source := .builtin, requiredKinds := none
     samples := [] }]

end GrammarAudit.Config
