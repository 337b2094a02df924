import GrammarAudit.Discovery
import GrammarAudit.Log
import GrammarAudit.Source

/-!
# Providers

A provider knows a grammar's name, how to call it in messages and where it comes
from, and hands out its descriptor: the language, or a null pointer, or the
reason why it has none.

* `SharedLibrary` is a grammar library that has been opened; its descriptor is
  what the library exports under the grammar's symbol.
* `SharedLibrary.open` and `SharedLibrary.discover` open one.
-/

namespace GrammarAudit

/-- What a provider hands out: a language, or none for a null pointer, and
whether it belongs to an opened library. -/
structure Descriptor where
  language : Option Language
  dynamic : Bool

namespace Descriptor

/-- The descriptor holds a language. -/
def isPresent (d : Descriptor) : Bool := d.language.isSome

/-- How a descriptor is shown in a trace. -/
def trace (d : Descriptor) : String :=
  "GrammarDescriptor \x7b dynamic: " ++ (if d.dynamic then "true" else "false") ++ " \x7d"

end Descriptor

/-- A supplier of one grammar. -/
structure Provider where
  name : String
  display : String
  source : Source
  descriptor : Except GrammarError Descriptor

/-- A grammar library that has been opened for one grammar: the path it was
asked for under, the path of the file, and what that holds. -/
structure SharedLibrary where
  name : String
  display : String
  path : Path
  place : Path
  object : SharedObject

namespace SharedLibrary

/-- How an opened library is shown in a trace. -/
def trace (l : SharedLibrary) : String :=
  "SharedLibrary \x7b name: " ++ Text.quoted l.name ++ ", path: " ++ Text.quoted l.path.text
    ++ ", .. \x7d"

/-- The event of opening a library. -/
def openingEvent (name : String) (path : Path) : Event where
  level := .debug
  target := "scss_probe_language::provider"
  message := "Opening grammar library"
  fields := [("grammar", name), ("path", path.text)]

/-- Opens the library under a path for a grammar. -/
def «open» (fs : FileSystem) (name display : String) (path : Path) :
    Logged GrammarError SharedLibrary :=
  ⟨[openingEvent name path],
    match fs.openLibrary path with
    | .ok object => .ok ⟨name, display, path, fs.openedPath path, object⟩
    | .error fault => .error (.loadError (path.text ++ ": " ++ fault.message path))⟩

/-- Opens the first library of a grammar on the search paths. -/
def discover (w : World) (name display : String) : Logged GrammarError SharedLibrary := do
  let path ← Logged.ofExcept (w.findLibrary name)
  SharedLibrary.open w.files name display path

/-- Why a symbol could not be taken from the library under a path, whose file is
at a place. -/
def symbolFault (path place : Path) (symbol : String) : String :=
  symbol ++ " in " ++ path.text ++ ": "
    ++ if '\x00' ∈ symbol.toList then "could not create a C string from bytes"
      else place.text ++ ": undefined symbol: " ++ symbol

/-- What the library exports under the grammar's symbol. -/
def descriptor (l : SharedLibrary) : Except GrammarError Descriptor :=
  match l.object.symbol? (symbolName l.name) with
  | some language => .ok ⟨language, true⟩
  | none => .error (.missingSymbol (symbolFault l.path l.place (symbolName l.name)))

/-- The library as a provider. -/
def provider (l : SharedLibrary) : Provider where
  name := l.name
  display := l.display
  source := .library l.path
  descriptor := l.descriptor

end SharedLibrary

end GrammarAudit
