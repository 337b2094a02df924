import GrammarAudit.Tree

/-!
# Extents of text

How much text a stretch takes: its characters, its bytes, and how far it moves
the place in rows and columns.  A stretch that ends on a later row fixes the
column anew.
-/

namespace GrammarAudit.Parsing

/-- The extent of a stretch of text. -/
structure Extent where
  chars : Nat
  bytes : Nat
  rows : Nat
  columns : Nat
deriving DecidableEq, Repr, Inhabited

namespace Extent

/-- No text. -/
def zero : Extent := ⟨0, 0, 0, 0⟩

/-- One stretch after another. -/
def add (a b : Extent) : Extent :=
  ⟨a.chars + b.chars, a.bytes + b.bytes, a.rows + b.rows,
    if 0 < b.rows then b.columns else a.columns + b.columns⟩

instance : Add Extent := ⟨add⟩

/-- What is left of a stretch after the part of it that comes first. -/
def drop (a first : Extent) : Extent :=
  ⟨a.chars - first.chars, a.bytes - first.bytes, a.rows - first.rows,
    if first.rows < a.rows then a.columns else a.columns - first.columns⟩

/-- The extent of one character: a line feed ends its row, and columns count
bytes. -/
def ofChar (c : Char) : Extent :=
  if c = '\n' then ⟨1, 1, 1, 0⟩ else ⟨1, c.utf8Size, 0, c.utf8Size⟩

/-- The place at the end of a stretch that starts where the text does. -/
def point (e : Extent) : Point := ⟨e.rows, e.columns⟩

end Extent

end GrammarAudit.Parsing
