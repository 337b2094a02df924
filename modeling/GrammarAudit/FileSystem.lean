import GrammarAudit.Fault
import GrammarAudit.Library

/-!
# File systems

A file system is a tree of directories and files with a current directory.
Paths are followed piece by piece: `..` goes up from where it stands, and every
piece, an empty one too, needs a directory to stand in, so a path that ends in a
separator names a directory.  Beside the tree there is a table of the system's
libraries, in which a library that is named without a separator is looked up.

* `FileSystem.locate` follows a path and says where it leads or why it leads
  nowhere.
* `exists`, `isDirectory`, `readText` and `openLibrary` are the questions the
  checker asks.
* `writeFile`, `makeDirectory` and `remove` change the tree.

Each question has a lemma that says what the path leads to when the answer is
good.
-/

namespace GrammarAudit

/-- What a file holds: a text, bytes that are not UTF-8 (of which only their
number matters), or a shared library. -/
inductive Content
  | text (text : String)
  | undecodable (size : Nat)
  | library (object : SharedObject)

/-- The contents of a file with these bytes. -/
def Content.ofBytes (bytes : ByteArray) : Content :=
  match String.fromUTF8? bytes with
  | some s => .text s
  | none => .undecodable bytes.size

/-- A file or a directory. -/
inductive Node
  | file (content : Content)
  | directory (entries : List (String × Node))

namespace Node

/-- The node that a list of names leads to from here. -/
def descend : Node → List String → Option Node
  | node, [] => some node
  | directory entries, name :: rest => (entries.lookup name).bind (descend · rest)
  | file _, _ :: _ => none

/-- The entries with one of them set. -/
def setEntry (entries : List (String × Node)) (name : String) (node : Node) :
    List (String × Node) :=
  (name, node) :: entries.filter (·.1 != name)

/-- The tree with a node put where a list of names leads; missing directories
are made. -/
def put : Node → List String → Node → Node
  | _, [], new => new
  | directory entries, name :: rest, new =>
    directory (setEntry entries name (put ((entries.lookup name).getD (directory [])) rest new))
  | file _, name :: rest, new => directory [(name, put (directory []) rest new)]

/-- The tree without the node that a list of names leads to. -/
def erase : Node → List String → Node
  | directory entries, [name] => directory (entries.filter (·.1 != name))
  | directory entries, name :: rest =>
    match entries.lookup name with
    | some node => directory (setEntry entries name (erase node rest))
    | none => directory entries
  | node, _ => node

end Node

/-- A library that the system finds by its name alone: the name, which is that
of an entry of a directory, and the place where the library is. -/
structure SystemLibrary where
  name : String
  place : Path
  name_ne_empty : name ≠ ""
  sep_notMem_name : '/' ∉ name.toList
  nul_notMem_name : '\x00' ∉ name.toList
  place_isAbsolute : place.isAbsolute = true

/-- A tree of files with a current directory, and the table of the system's
libraries; of two libraries of one name the first that is there counts. -/
structure FileSystem where
  root : Node
  currentDirectory : List String
  systemLibraries : List SystemLibrary

namespace FileSystem

/-- The longest name a directory entry can have, in bytes. -/
def longestName : Nat := 255

/-- The longest path the system follows, in bytes. -/
def longestPath : Nat := 4095

/-- The fault of a name or path that is too long. -/
def tooLong : IoFault := .system 36

/-- Follows the pieces of a path from the directory named `here`. -/
def follow (root : Node) (here : List String) : List (List Char) → Except IoFault (List String)
  | [] => .ok here
  | piece :: rest =>
    match root.descend here with
    | none => .error .notFound
    | some (.file _) => .error .notADirectory
    | some (.directory entries) =>
      if piece = [] ∨ piece = ['.'] then follow root here rest
      else if piece = ['.', '.'] then follow root here.dropLast rest
      else
        let name := String.ofList piece
        if name.utf8ByteSize > longestName then .error tooLong
        else if (entries.lookup name).isSome then follow root (here ++ [name]) rest
        else .error .notFound

/-- Where the pieces of a path start. -/
def start (fs : FileSystem) (p : Path) : List String :=
  if p.isAbsolute then [] else fs.currentDirectory

/-- Where a path leads, as the names from the root. -/
def locate (fs : FileSystem) (p : Path) : Except IoFault (List String) :=
  if '\x00' ∈ p.text.toList then .error .nulInPath
  else if p.text.isEmpty then .error .notFound
  else if p.text.utf8ByteSize > longestPath then .error tooLong
  else follow fs.root (fs.start p) (Path.pieces p.text.toList)

/-- What a path leads to. -/
def node (fs : FileSystem) (p : Path) : Except IoFault Node := do
  match fs.root.descend (← fs.locate p) with
  | some node => .ok node
  | none => .error .notFound

/-- A path leads to a node when it leads to a place and the node is there. -/
theorem node_eq_ok_iff (fs : FileSystem) (p : Path) (n : Node) :
    fs.node p = .ok n ↔ ∃ place, fs.locate p = .ok place ∧ fs.root.descend place = some n := by
  unfold node
  cases hlocate : fs.locate p with
  | error fault => simp [bind, Except.bind]
  | ok place =>
      cases hnode : fs.root.descend place with
      | none => simp [bind, Except.bind, hnode]
      | some there => simp [bind, Except.bind, hnode]

/-- The path leads to a file or a directory. -/
def «exists» (fs : FileSystem) (p : Path) : Bool :=
  match fs.node p with
  | .ok _ => true
  | .error _ => false

theorem exists_eq_true_iff (fs : FileSystem) (p : Path) :
    fs.exists p = true ↔ ∃ n, fs.node p = .ok n := by
  unfold «exists»
  cases fs.node p with
  | error fault => simp
  | ok n => simp

/-- The path leads to a directory. -/
def isDirectory (fs : FileSystem) (p : Path) : Bool :=
  match fs.node p with
  | .ok (.directory _) => true
  | _ => false

theorem isDirectory_eq_true_iff (fs : FileSystem) (p : Path) :
    fs.isDirectory p = true ↔ ∃ entries, fs.node p = .ok (.directory entries) := by
  unfold isDirectory
  cases fs.node p with
  | error fault => simp
  | ok n =>
      cases n with
      | file content => simp
      | directory entries => simp

/-- The text of a file. -/
def readText (fs : FileSystem) (p : Path) : Except IoFault String :=
  match fs.node p with
  | .error fault => .error fault
  | .ok (.directory _) => .error .isADirectory
  | .ok (.file (.text s)) => .ok s
  | .ok (.file (.undecodable _)) => .error .notUtf8
  | .ok (.file (.library _)) => .error .notUtf8

/-- A text is read where the path leads to a file that holds it. -/
theorem readText_eq_ok_iff (fs : FileSystem) (p : Path) (s : String) :
    fs.readText p = .ok s ↔ fs.node p = .ok (.file (.text s)) := by
  unfold readText
  cases fs.node p with
  | error fault => simp
  | ok n =>
      cases n with
      | directory entries => simp
      | file content => cases content <;> simp

/-- The reason for which a library cannot be opened where the path cannot be
followed. -/
def openFaultOf : IoFault → OpenFault
  | .system number => .cannotOpen (IoFault.systemWords number)
  | fault => if fault = .nulInPath then .nulInPath else .cannotOpen fault.message

/-- Opens the file that a path leads to as a shared library. -/
def openFile (fs : FileSystem) (p : Path) : Except OpenFault SharedObject :=
  match fs.node p with
  | .error fault => .error (openFaultOf fault)
  | .ok (.directory _) => .error .directory
  | .ok (.file (.library object)) => .ok object
  | .ok (.file (.text s)) =>
    .error (if s.utf8ByteSize < libraryHeaderSize then .tooShort else .invalidHeader)
  | .ok (.file (.undecodable size)) =>
    .error (if size < libraryHeaderSize then .tooShort else .invalidHeader)

/-- A file is opened where the path leads to a library. -/
theorem openFile_eq_ok_iff (fs : FileSystem) (p : Path) (o : SharedObject) :
    fs.openFile p = .ok o ↔ fs.node p = .ok (.file (.library o)) := by
  unfold openFile
  cases fs.node p with
  | error fault => simp
  | ok n =>
      cases n with
      | directory entries => simp
      | file content => cases content <;> simp

/-- The place where the system finds the library of a name: the first in its
table where anything is. -/
def systemLibrary? (fs : FileSystem) (p : Path) : Option Path :=
  (fs.systemLibraries.find? fun library => library.name = p.text ∧ fs.exists library.place).map
    (·.place)

section SystemLibrary

variable {fs : FileSystem} {p place : Path}

/-- What the system finds is in its table under that name. -/
theorem exists_of_systemLibrary?_eq_some (h : fs.systemLibrary? p = some place) :
    ∃ library ∈ fs.systemLibraries, library.name = p.text ∧ library.place = place := by
  obtain ⟨library, hfound, hplace⟩ := Option.map_eq_some_iff.mp h
  have hname : library.name = p.text ∧ fs.exists library.place = true := by
    simpa using List.find?_some hfound
  exact ⟨library, List.mem_of_find?_eq_some hfound, hname.1, hplace⟩

/-- What the system finds has a name without a separator or a NUL. -/
theorem name_of_systemLibrary?_eq_some (h : fs.systemLibrary? p = some place) :
    p.text ≠ "" ∧ '/' ∉ p.text.toList ∧ '\x00' ∉ p.text.toList := by
  obtain ⟨library, -, hname, -⟩ := exists_of_systemLibrary?_eq_some h
  rw [← hname]
  exact ⟨library.name_ne_empty, library.sep_notMem_name, library.nul_notMem_name⟩

/-- A path with a separator is no name of a library of the system. -/
theorem systemLibrary?_of_sep (fs : FileSystem) (hsep : '/' ∈ p.text.toList) :
    fs.systemLibrary? p = none :=
  Option.eq_none_iff_forall_ne_some.mpr fun _ h => (name_of_systemLibrary?_eq_some h).2.1 hsep

end SystemLibrary

/-- Opens the shared library under a path.  A path without a separator is not
looked up in the current directory but among the system's libraries; the empty
path stands for the running program, which exports no grammar. -/
def openLibrary (fs : FileSystem) (p : Path) : Except OpenFault SharedObject :=
  if '\x00' ∈ p.text.toList then .error .nulInPath
  else if p.text.isEmpty then .ok ⟨[]⟩
  else if '/' ∈ p.text.toList then fs.openFile p
  else
    match fs.systemLibrary? p with
    | some place => (fs.openFile place).mapError (.inSystem place)
    | none => .error (.cannotOpen (IoFault.systemWords 2))

/-- The path of the file that is opened as the library under a path. -/
def openedPath (fs : FileSystem) (p : Path) : Path := (fs.systemLibrary? p).getD p

/-- Under a path with a separator that path itself is opened. -/
theorem openedPath_of_sep (fs : FileSystem) {p : Path} (hsep : '/' ∈ p.text.toList) :
    fs.openedPath p = p := by
  rw [openedPath, fs.systemLibrary?_of_sep hsep, Option.getD_none]

/-- A library is opened under a path with a separator that leads to it, and
under a name by which the system finds it; under the empty path the running
program is. -/
theorem openLibrary_eq_ok_iff (fs : FileSystem) (p : Path) (o : SharedObject) :
    fs.openLibrary p = .ok o ↔
      (p.text.toList = [] ∧ o = ⟨[]⟩) ∨
        ('/' ∈ p.text.toList ∧ fs.node p = .ok (.file (.library o))) ∨
        ∃ place, fs.systemLibrary? p = some place ∧ fs.node place = .ok (.file (.library o)) := by
  have hempty : p.text.isEmpty = true ↔ p.text.toList = [] := by simp
  unfold openLibrary
  cases hsystem : fs.systemLibrary? p with
  | some place =>
      obtain ⟨hne, hsep, hnul⟩ := name_of_systemLibrary?_eq_some hsystem
      have hnil : p.text.toList ≠ [] := by simpa using hne
      have hopened : (fs.openFile place).mapError (OpenFault.inSystem place) = .ok o ↔
          fs.openFile place = .ok o := by
        cases fs.openFile place with
        | error fault => exact ⟨nofun, nofun⟩
        | ok object => exact Iff.rfl
      rw [if_neg hnul, if_neg (mt hempty.mp hnil), if_neg hsep]
      simp [hopened, openFile_eq_ok_iff, hnil, hsep]
  | none =>
      by_cases hnul : '\x00' ∈ p.text.toList
      · have hne : p.text.toList ≠ [] := List.ne_nil_of_mem hnul
        simp [hnul, hne, node, locate, bind, Except.bind]
      · rw [if_neg hnul]
        by_cases hnil : p.text.toList = []
        · rw [if_pos (hempty.mpr hnil)]
          simp [hnil, eq_comm]
        · rw [if_neg (mt hempty.mp hnil)]
          by_cases hsep : '/' ∈ p.text.toList
          · rw [if_pos hsep, openFile_eq_ok_iff]
            simp [hnil, hsep]
          · simp [hsep, hnil]

/-- Makes the directory `here` if it is missing. -/
def ensureDirectory (fs : FileSystem) (here : List String) : FileSystem :=
  match fs.root.descend here with
  | some _ => fs
  | none => { fs with root := fs.root.put here (.directory []) }

/-- Makes every missing directory on the way of some pieces, and says where they
lead. -/
def makeWay (fs : FileSystem) (here : List String) :
    List (List Char) → FileSystem × List String
  | [] => (fs, here)
  | piece :: rest =>
    if piece = [] ∨ piece = ['.'] then makeWay fs here rest
    else if piece = ['.', '.'] then makeWay fs here.dropLast rest
    else
      let next := here ++ [String.ofList piece]
      makeWay (fs.ensureDirectory next) next rest

/-- Makes a directory, with the missing directories above it. -/
def makeDirectory (fs : FileSystem) (p : Path) : FileSystem :=
  (fs.makeWay (fs.start p) (Path.pieces p.text.toList)).1

/-- Writes a file, with the missing directories above it. -/
def writeFile (fs : FileSystem) (p : Path) (content : Content) : FileSystem :=
  let pieces := Path.pieces p.text.toList
  let (made, place) := fs.makeWay (fs.start p) pieces.dropLast
  match pieces.getLast? with
  | some piece =>
    { made with root := made.root.put (place ++ [String.ofList piece]) (.file content) }
  | none => made

/-- Removes what a path leads to, a directory with its contents; nothing if it
leads nowhere. -/
def remove (fs : FileSystem) (p : Path) : FileSystem :=
  match fs.locate p with
  | .ok place => { fs with root := fs.root.erase place }
  | .error _ => fs

/-- A tree that holds nothing but the current directory, in a system without
libraries. -/
def empty (currentDirectory : List String) : FileSystem where
  root := Node.put (.directory []) currentDirectory (.directory [])
  currentDirectory := currentDirectory
  systemLibraries := []

end FileSystem

end GrammarAudit
