import GrammarAudit.CommandLine.Run
import GrammarAudit.Stylesheet.Language

/-!
# The program

Runs the checks on the files of the disk.  What the checks may look at is read
first; they then run on what was read, and what they print and log is written
out at the end.  A file on the disk is never an opened library here, and the
system is taken to have no libraries: the only language in this program is the
one that is linked in.
-/

namespace GrammarAudit.Program

/-- The variables that a run looks at. -/
def watchedVariables : List String :=
  ["HOME", "XDG_DATA_HOME", "XDG_CACHE_HOME", "XDG_CONFIG_HOME", runtimeVariable, "HELIX_RUNTIME",
    "RUST_LOG"]

/-- The environment, as far as a run looks at it. -/
def readEnvironment : IO Environment := do
  let found ← watchedVariables.filterMapM fun name => do
    return (← IO.getEnv name).map fun value => (name, value)
  return ⟨found⟩

/-- The file system with what the disk has under a path. -/
def readPath (fs : FileSystem) (path : Path) : IO FileSystem := do
  try
    let bytes ← IO.FS.readBinFile path.text
    return fs.writeFile path (.ofBytes bytes)
  catch e =>
    match e with
    | .inappropriateType none _ _ => return fs.makeDirectory path
    | _ => return fs

/-- The paths that lead to a path, and the path itself. -/
def pathsOnTheWay (path : Path) : List Path :=
  let pieces := Path.pieces path.text.toList
  (List.range (pieces.length + 1)).filterMap fun n =>
    let text := String.ofList (['/'].intercalate (pieces.take n))
    if text.isEmpty then none else some ⟨text⟩

/-- The file system with what the disk has under some paths and on the way to
them. -/
def readPaths (fs : FileSystem) (paths : List Path) : IO FileSystem :=
  (paths.flatMap pathsOnTheWay).foldlM readPath fs

/-- The surroundings of a run with some options: its config, and what the
entries of that mention. -/
def readWorld (options : CommandLine.Options) : IO World := do
  let environment ← readEnvironment
  let here := (← IO.currentDir).toString
  let names := (Path.pieces here.toList).filter (!·.isEmpty)
  let bare := FileSystem.empty (names.map String.ofList)
  let config := options.config.getD (CommandLine.runtimeConfig environment)
  let world : World :=
    { files := ← readPaths bare [config], environment, linked := Stylesheet.language }
  let entries := (CommandLine.select world options).result.toOption.getD []
  return { world with files := ← readPaths world.files (entries.flatMap Config.Entry.paths) }

/-- The options of a run, or none if it needs none. -/
def optionsOf (args : List String) : CommandLine.Options :=
  (CommandLine.parse args).toOption.getD .unset

end GrammarAudit.Program

/-- Runs the checks, writes out what they print and log, and ends with their
exit code. -/
def main (args : List String) : IO UInt32 := do
  let world ← GrammarAudit.Program.readWorld (GrammarAudit.Program.optionsOf args)
  let outcome := GrammarAudit.CommandLine.run world args
  for event in outcome.events do
    IO.eprintln event.text
  IO.print outcome.output
  match outcome.ending with
  | .success => pure ()
  | .usage => IO.eprintln "error: the arguments are wrong; try --help"
  | .failure failure => IO.eprintln failure.text
  return outcome.ending.exitCode.toUInt32
