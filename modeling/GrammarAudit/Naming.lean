import GrammarAudit.Path

/-!
# Names derived from a grammar's name

A grammar `scss-next` is exported by its library under the symbol
`tree_sitter_scss_next` and looked for in a file `libscss_next.so`: both are the
name with every dash turned into an underscore, put into a fixed frame.
-/

namespace GrammarAudit

/-- One character of a grammar's name as symbols and file names spell it. -/
def underscored (c : Char) : Char := if c = '-' then '_' else c

/-- A grammar's name as symbols and file names spell it: every dash is an
underscore. -/
def mangle (name : String) : String := String.ofList (name.toList.map underscored)

/-- The symbol under which a library exports the language of a grammar. -/
def symbolName (name : String) : String := "tree_sitter_" ++ mangle name

/-- The file name of a grammar's library. -/
def libraryName (name : String) : String := "lib" ++ mangle name ++ ".so"

/-- The place of a grammar's library in a directory. -/
def libraryPath (name : String) (directory : Path) : Path := directory.join ⟨libraryName name⟩

end GrammarAudit
