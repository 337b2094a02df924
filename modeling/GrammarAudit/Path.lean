/-!
# Paths

A path is the text it was written with.  Joining and taking the parent work on
that text and normalise nothing, so a path is shown exactly as it was built; two
paths name the same place syntactically when their components agree.

* `Path.join` puts a path below a directory; an absolute path replaces it.
* `Path.parent?` is the directory part of a path; the root and the empty path
  have none.
* `Path.components` is the view in which doubled separators, `.` components
  after the first and a trailing separator do not count.
-/

namespace GrammarAudit

/-- A path, as written. -/
structure Path where
  text : String
deriving DecidableEq, Repr, Inhabited

/-- One step of a path: the root directory, the current directory as the start
of a relative path, the directory above, or a name. -/
inductive Path.Component
  | root
  | here
  | above
  | name (name : String)
deriving DecidableEq, Repr

namespace Path

/-- An absolute path starts with a separator. -/
def isAbsolute (p : Path) : Bool := p.text.toList.head? == some '/'

/-- A relative path is one that is not absolute. -/
def isRelative (p : Path) : Bool := !p.isAbsolute

/-- `sub` below `base`.  An absolute `sub` stands for itself; otherwise one
separator parts the two, unless `base` is empty or ends with one already. -/
def join (base sub : Path) : Path :=
  if sub.isAbsolute then sub
  else
    match base.text.toList.getLast? with
    | none | some '/' => ⟨base.text ++ sub.text⟩
    | some _ => ⟨base.text ++ "/" ++ sub.text⟩

/-- The pieces of a text between separators; there is one more piece than
separators. -/
def pieces (cs : List Char) : List (List Char) := cs.splitOn '/'

/-- The component a piece stands for, if it is not the first: empty pieces and
`.` do not count. -/
def Component.ofPiece? (piece : List Char) : Option Component :=
  if piece = [] ∨ piece = ['.'] then none
  else if piece = ['.', '.'] then some .above
  else some (.name (String.ofList piece))

/-- The components of a path. -/
def components (p : Path) : List Component :=
  match pieces p.text.toList with
  | [] => []
  | first :: rest =>
    let start :=
      if first = [] then (if p.isAbsolute then [Component.root] else [])
      else if first = ['.'] then [.here]
      else (Component.ofPiece? first).toList
    start ++ rest.filterMap Component.ofPiece?

/-- Two paths are equivalent when they have the same components. -/
def equivalent (p q : Path) : Bool := p.components == q.components

/-- Drops trailing separators and trailing `.` components from the reverse of a
path's body. -/
def trimReversed : List Char → List Char
  | '/' :: r => trimReversed r
  | ['.'] => []
  | '.' :: '/' :: r => trimReversed r
  | r => r

/-- The start of a path that is not part of its body: a leading separator, or a
leading `.` component. -/
def leader : List Char → List Char
  | '/' :: _ => ['/']
  | ['.'] => ['.']
  | '.' :: '/' :: _ => ['.']
  | _ => []

/-- The path without its last component, if it has one that is not the root. -/
def parent? (p : Path) : Option Path :=
  let cs := p.text.toList
  let start := leader cs
  match trimReversed (cs.drop start.length).reverse with
  | [] => if start = ['.'] then some ⟨""⟩ else none
  | body =>
    let rest := trimReversed (body.dropWhile (· ≠ '/'))
    some ⟨String.ofList (start ++ rest.reverse)⟩

end Path

instance : ToString Path := ⟨Path.text⟩

end GrammarAudit
