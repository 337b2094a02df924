import GrammarAudit.Language
import GrammarAudit.Path

/-!
# Shared libraries

What the files that grammars are opened from contain, and why opening one fails.
A library exports symbols; each of them hands out a language or a null pointer.
-/

namespace GrammarAudit

/-- A shared library: its exported symbols, each with the language it hands out,
if any. -/
structure SharedObject where
  exports : List (String × Option Language)

namespace SharedObject

/-- What the symbol hands out, if the library exports it. -/
def symbol? (o : SharedObject) (symbol : String) : Option (Option Language) :=
  o.exports.lookup symbol

end SharedObject

/-- Why a library could not be opened. -/
inductive OpenFault
  /-- No file could be opened under the path, for a reason in the system's
  words. -/
  | cannotOpen (words : String)
  /-- The path is a directory. -/
  | directory
  /-- The file is shorter than the header of a library. -/
  | tooShort
  /-- The file has no library header. -/
  | invalidHeader
  /-- The path holds a NUL character. -/
  | nulInPath
  /-- The system has a library of that name at a place, and it cannot be
  opened. -/
  | inSystem (place : Path) (fault : OpenFault)
deriving DecidableEq, Repr

/-- The wording of a fault for a path. -/
def OpenFault.message (path : Path) : OpenFault → String
  | cannotOpen words => path.text ++ ": cannot open shared object file: " ++ words
  | directory => path.text ++ ": cannot read file data: Is a directory"
  | tooShort => path.text ++ ": file too short"
  | invalidHeader => path.text ++ ": invalid ELF header"
  | nulInPath => "could not create a C string from bytes"
  | inSystem place fault => fault.message place

/-- The size of a library's header in bytes; a shorter file cannot hold one. -/
def libraryHeaderSize : Nat := 64

end GrammarAudit
