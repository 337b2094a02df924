import GrammarAudit.Config.Reader
import GrammarAudit.Vocabulary
import GrammarAudit.Summary
import GrammarAudit.Text.Uppercase

/-!
# Checking a configured grammar

A configured grammar is checked by loading it, asking for its node kinds and
parsing its samples; the first of these that fails is the answer.

* `Entry.provider` makes the provider that an entry describes.
* `Entry.verifyProvider` checks what a provider hands out, and `Entry.verify`
  does the whole check; both report what they found.
-/

namespace GrammarAudit

/-- The name of the grammar that is linked in. -/
def linkedName : String := "scss"

/-- How the grammar that is linked in is called in messages. -/
def linkedDisplay : String := "SCSS"

/-- The provider of the grammar that is linked in. -/
def World.linkedProvider (w : World) : Provider where
  name := linkedName
  display := linkedDisplay
  source := .builtin linkedName
  descriptor := .ok ⟨some w.linked, false⟩

namespace Config

/-- What a check found: the grammar as it was loaded, and the summary of each
sample. -/
structure Report where
  name : String
  source : Source
  abiVersion : Nat
  nodeKinds : Nat
  samples : List (String × Summary)
deriving DecidableEq, Repr

namespace Entry

/-- An entry for a library at a path. -/
def ofLibrary (name : String) (path : Path) : Entry where
  name := name
  display := none
  source := .library path
  requiredKinds := none
  samples := []

/-- How the grammar is called in messages: as configured, or by its name in
capitals. -/
def displayName (e : Entry) : String := e.display.getD (Text.uppercase e.name)

/-- The node kinds that the grammar has to declare: those configured, or else
all of the stylesheet language if it has the name of that. -/
def effectiveKinds (e : Entry) : List String :=
  match e.requiredKinds with
  | some kinds => kinds
  | none => if e.name = linkedName then stylesheetKinds else []

/-- The paths that the check of an entry looks at. -/
def paths (e : Entry) : List Path :=
  match e.source with
  | .library path => path :: libraryPath e.name path :: e.samples
  | .builtin => e.samples

/-- The library file that a path means for a grammar: the file itself, or, of a
directory, the one with the grammar's library name. -/
def libraryFile (fs : FileSystem) (name : String) (path : Path) : Except GrammarError Path :=
  if fs.isDirectory path then fs.findLibraryIn name [path] else .ok path

/-- Opens the library of an entry. -/
def openLibrary (w : World) (e : Entry) (path : Path) : Logged ConfigError SharedLibrary := do
  let file ← Logged.ofExcept ((libraryFile w.files e.name path).mapError .grammar)
  (SharedLibrary.open w.files e.name e.displayName file).mapError .grammar

/-- The provider that an entry describes. -/
def provider (w : World) (e : Entry) : Logged ConfigError Provider :=
  match e.source with
  | .builtin =>
    if e.name = linkedName then pure w.linkedProvider else Logged.fail (.unknownGrammar e.name)
  | .library path => do
    let library ← e.openLibrary w path
    pure library.provider

/-- How the sample that the program brings along is called. -/
def builtinSampleLabel : String := "<builtin sample>"

/-- The event of starting on a sample. -/
def sampleEvent (e : Entry) (path : Path) : Event where
  level := .debug
  target := "scss_probe_language::config"
  message := "Parsing sample"
  fields := [("grammar", e.name), ("sample", path.text)]

/-- The event of a check that succeeded. -/
def verifiedEvent (e : Entry) (samples : Nat) : Event where
  level := .info
  target := "scss_probe_language::config"
  message := "Grammar verified"
  fields := [("grammar", e.name), ("samples", toString samples)]

/-- Parses a configured sample. -/
def parseSample (w : World) (e : Entry) (h : Handle) (path : Path) :
    Logged ConfigError (String × Summary) := do
  let text ← Logged.ofExcept ((w.files.readText path).mapError (.io path))
  Logged.emit (e.sampleEvent path)
  let summary ← (h.parseSample text).mapError .grammar
  pure (path.text, summary)

/-- Parses configured samples, one after the other. -/
def parseSamples (w : World) (e : Entry) (h : Handle) :
    List Path → Logged ConfigError (List (String × Summary))
  | [] => pure []
  | path :: rest => do
    let first ← e.parseSample w h path
    let others ← parseSamples w e h rest
    pure (first :: others)

/-- Parses the sample that the program brings along, if the grammar has the name
of the stylesheet language. -/
def parseBuiltinSample (e : Entry) (h : Handle) : Logged ConfigError (List (String × Summary)) :=
  if e.name = linkedName then do
    let summary ← (h.parseSample builtinSample).mapError .grammar
    pure [(builtinSampleLabel, summary)]
  else pure []

/-- Checks the grammar of a provider as it is configured. -/
def verifyProvider (w : World) (e : Entry) (p : Provider) : Logged ConfigError Report := do
  let handle ← (load p).mapError .grammar
  (handle.checkKinds e.effectiveKinds).mapError .grammar
  let builtin ← e.parseBuiltinSample handle
  let configured ← e.parseSamples w handle e.samples
  let samples := builtin ++ configured
  Logged.emit (e.verifiedEvent samples.length)
  pure ⟨e.name, handle.source, handle.abiVersion, handle.nodeKinds, samples⟩

/-- Checks a configured grammar. -/
def verify (w : World) (e : Entry) : Logged ConfigError Report := do
  let provider ← e.provider w
  e.verifyProvider w provider

end Entry

end Config

end GrammarAudit
