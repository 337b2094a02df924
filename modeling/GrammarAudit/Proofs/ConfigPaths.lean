import GrammarAudit.Config.File
import GrammarAudit.Naming
import GrammarAudit.Proofs.PathFollowing

/-!
# Where the paths in a config file lead

The paths in a config file are meant from its directory, however the file itself
was named.  Resolving them comes to that, but not as texts: a config file named
without a separator has the empty path as its parent, and what is joined to that
has no separator either.  For files and directories this makes no difference; a
library without a separator in its path is looked for in the system instead.

* `FileSystem.seenFrom` is what a path in a config file is meant in.
* `openLibrary_seenFrom_of_bare`: what is opened under a name does not depend on
  the directory.
* `baseOf_of_file`: what the directory part of a path to a file keeps of it.
* `locate_resolvePath_iff`, `readText_resolvePath_iff`: resolved paths lead
  where they are meant to.
* `openLibrary_resolvePath_iff`: when the library that a path is meant to lead
  to is opened.
* `resolvePath_of_bare`: the paths of a config that was named without a
  separator.
-/

namespace GrammarAudit

namespace Path

/-- A character of a joined path comes from one of its parts, or it is the
separator between them. -/
theorem mem_join_iff (base : Path) {sub : Path} (hsub : sub.isRelative = true) (c : Char) :
    c ∈ (base.join sub).text.toList ↔
      c ∈ base.text.toList ∨ c ∈ sub.text.toList ∨ (c = '/' ∧ base.text.toList ≠ []) := by
  rcases join_cases base hsub with ⟨hbase, hjoin⟩ | ⟨front, hbase, hjoin⟩ | ⟨hbase, hjoin⟩
  · simp [hjoin, hbase]
  · simp only [hjoin, hbase, List.mem_append, List.mem_cons]
    grind
  · simp only [hjoin, List.mem_append, List.mem_cons]
    grind

/-- A joined path is empty when both of its parts are. -/
theorem join_eq_nil_iff (base : Path) {sub : Path} (hsub : sub.isRelative = true) :
    (base.join sub).text.toList = [] ↔ base.text.toList = [] ∧ sub.text.toList = [] := by
  rcases join_cases base hsub with ⟨hbase, hjoin⟩ | ⟨front, hbase, hjoin⟩ | ⟨hbase, hjoin⟩
  · simp [hjoin, hbase]
  · simp [hjoin, hbase]
  · simp [hjoin, hbase]

/-- A joined path is at least as long as its second part. -/
theorem utf8ByteSize_le_join (base sub : Path) :
    sub.text.utf8ByteSize ≤ (base.join sub).text.utf8ByteSize := by
  unfold join
  by_cases habsolute : sub.isAbsolute = true
  · simp [habsolute]
  · rw [if_neg habsolute]
    split
    · rw [String.utf8ByteSize_append]
      omega
    · rw [String.utf8ByteSize_append]
      omega
    · rw [String.utf8ByteSize_append]
      omega

/-- A relative path stays relative when another is joined to it. -/
theorem isRelative_join {base sub : Path} (hbase : base.isRelative = true)
    (hsub : sub.isRelative = true) : (base.join sub).isRelative = true := by
  rw [isRelative, isAbsolute_join base hsub]
  exact hbase

/-- Three paths can be joined from the front or from the end. -/
theorem join_assoc (base : Path) {sub more : Path} (hsub : sub.isRelative = true)
    (hmore : more.isRelative = true) : (base.join sub).join more = base.join (sub.join more) := by
  have hgap : gap (base.text.toList ++ gap base.text.toList ++ sub.text.toList)
      = gap sub.text.toList := by
    unfold gap
    by_cases hnil : sub.text.toList = []
    · by_cases hbase : base.text.toList = []
      · simp [hnil, hbase]
      · by_cases hlast : base.text.toList.getLast? = some '/'
        · simp [hnil, hlast]
        · simp [hnil, hlast, hbase]
    · simp [hnil]
  have htext : ((base.join sub).join more).text = (base.join (sub.join more)).text := by
    rw [← String.toList_inj, join_toList _ hmore, join_toList _ hsub,
      join_toList _ (isRelative_join hsub hmore), join_toList _ hmore, hgap]
    simp only [List.append_assoc]
  exact congrArg Path.mk htext

end Path

/-- The file name of a library is a relative path. -/
theorem isRelative_libraryName (name : String) : (Path.mk (libraryName name)).isRelative = true := by
  simp [Path.isRelative, Path.isAbsolute, libraryName]

/-- The path of a library in a directory is not empty, and has a separator
unless that of the directory is empty. -/
theorem libraryPath_text (name : String) (directory : Path) :
    (libraryPath name directory).text ≠ "" ∧
      (directory.text ≠ "" → '/' ∈ (libraryPath name directory).text.toList) := by
  have hname := isRelative_libraryName name
  constructor
  · intro h
    have hnil : (libraryPath name directory).text.toList = [] := by simp [h]
    have hempty := ((Path.join_eq_nil_iff directory hname).mp hnil).2
    simp [libraryName] at hempty
  · intro hne
    exact (Path.mem_join_iff directory hname '/').mpr (Or.inr (Or.inr ⟨rfl, by simpa using hne⟩))

namespace FileSystem

/-- The same files with another current directory. -/
def seenFrom (fs : FileSystem) (directory : List String) : FileSystem :=
  { fs with currentDirectory := directory }

@[simp] theorem seenFrom_root (fs : FileSystem) (directory : List String) :
    (fs.seenFrom directory).root = fs.root := rfl

/-- An absolute path leads to the same place wherever it is seen from. -/
theorem locate_seenFrom_of_isAbsolute (fs : FileSystem) (directory : List String) {p : Path}
    (hp : p.isAbsolute = true) : (fs.seenFrom directory).locate p = fs.locate p := by
  simp [locate, start, hp]

/-- What an absolute path leads to is the same wherever it is seen from. -/
theorem node_seenFrom_of_isAbsolute (fs : FileSystem) (directory : List String) {p : Path}
    (hp : p.isAbsolute = true) : (fs.seenFrom directory).node p = fs.node p := by
  rw [node, node, locate_seenFrom_of_isAbsolute fs directory hp, seenFrom_root]

/-- The system finds the same library of a name wherever it is asked from. -/
theorem systemLibrary?_seenFrom (fs : FileSystem) (directory : List String) (p : Path) :
    (fs.seenFrom directory).systemLibrary? p = fs.systemLibrary? p := by
  have hexists : ∀ library : SystemLibrary,
      (fs.seenFrom directory).exists library.place = fs.exists library.place := by
    intro library
    rw [«exists», «exists», node_seenFrom_of_isAbsolute fs directory library.place_isAbsolute]
  simp only [systemLibrary?, hexists]
  rfl

/-- **Names of libraries.**  Under a path without a separator the same is opened
from every directory. -/
theorem openLibrary_seenFrom_of_bare (fs : FileSystem) (directory : List String) {p : Path}
    (hbare : '/' ∉ p.text.toList) :
    (fs.seenFrom directory).openLibrary p = fs.openLibrary p := by
  have hfile : ∀ place, fs.systemLibrary? p = some place →
      (fs.seenFrom directory).openFile place = fs.openFile place := by
    intro place hplace
    obtain ⟨library, -, -, rfl⟩ := exists_of_systemLibrary?_eq_some hplace
    rw [openFile, openFile, node_seenFrom_of_isAbsolute fs directory library.place_isAbsolute]
  simp only [openLibrary, hbare, if_false, systemLibrary?_seenFrom]
  cases hplace : fs.systemLibrary? p with
  | none => rfl
  | some place => simp only [hfile place hplace]

/-- An empty piece only leads to directories. -/
theorem exists_directory_of_follow_empty {root : Node} {here target : List String}
    (h : follow root here [[]] = .ok target) :
    ∃ entries, root.descend target = some (.directory entries) := by
  unfold follow at h
  cases hnode : root.descend here with
  | none => simp [hnode] at h
  | some node =>
      cases node with
      | file content => simp [hnode] at h
      | directory entries =>
          obtain rfl : here = target := by simpa [hnode, follow] using h
          exact ⟨entries, hnode⟩

/-- A relative path is followed from the directory that it is seen from. -/
theorem followPath_seenFrom (fs : FileSystem) (directory : List String) {p : Path}
    (hp : p.isRelative = true) :
    (fs.seenFrom directory).followPath p = follow fs.root directory (Path.pieces p.text.toList) := by
  have habsolute : p.isAbsolute = false := by simpa [Path.isRelative] using hp
  simp [followPath, start, habsolute, seenFrom]

end FileSystem

namespace Config

open FileSystem Path

/-- What is resolved in a config is the path itself, if it is absolute, or else
what it is joined to. -/
theorem resolvePath_cases (base sub : Path) :
    (sub.isAbsolute = true ∧ resolvePath base sub = sub) ∨
      (sub.isRelative = true ∧ resolvePath base sub = base.join sub) := by
  unfold resolvePath
  cases hrelative : sub.isRelative with
  | true => exact Or.inr ⟨rfl, rfl⟩
  | false => exact Or.inl ⟨by simpa [isRelative] using hrelative, rfl⟩

/-- The library of a grammar in a directory is resolved with the directory. -/
theorem libraryPath_resolvePath (name : String) (base p : Path) :
    libraryPath name (resolvePath base p) = resolvePath base (libraryPath name p) := by
  have hname := isRelative_libraryName name
  rcases resolvePath_cases base p with ⟨habsolute, hresolve⟩ | ⟨hrelative, hresolve⟩
  · have hlibrary : (libraryPath name p).isRelative = false := by
      rw [libraryPath, isRelative, isAbsolute_join p hname, habsolute]
      rfl
    rw [hresolve, resolvePath, hlibrary]
    rfl
  · have hlibrary : (libraryPath name p).isRelative = true := isRelative_join hrelative hname
    rw [hresolve, resolvePath, hlibrary, if_pos rfl]
    exact join_assoc base hrelative hname

variable {fs : FileSystem} {file : Path} {place : List String} {content : Content}
  (hlocate : fs.locate file = .ok place) (hfile : fs.root.descend place = some (.file content))

include hlocate hfile

/-- **The directory part of a path to a file.**  It is empty if the path has no
separator, it holds no NUL, and what is joined to it is followed from the
directory of the file. -/
theorem baseOf_of_file :
    ((baseOf file).text.toList = [] ↔ '/' ∉ file.text.toList) ∧
    '\x00' ∉ (baseOf file).text.toList ∧
    ∀ ys, ys ≠ [] → follow fs.root (fs.start (baseOf file)) (pieces (baseOf file).text.toList ++ ys)
      = follow fs.root place.dropLast ys := by
  obtain ⟨hnul, -, -, -⟩ := (locate_eq_ok_iff fs file place).mp hlocate
  rcases eq_piece_or_last_sep file.text.toList with hbare | ⟨front, last, htext, hlast⟩
  · have hpieces : pieces file.text.toList = [] ++ [file.text.toList] := pieces_of_not_mem hbare
    obtain ⟨hname, hfollow⟩ := exists_place_of_file hlocate hfile hpieces
    have hbase : baseOf file = ⟨""⟩ := by rw [baseOf, parent?_of_bare hbare hname, Option.getD_some]
    have hrelative : file.isAbsolute = false := by
      rw [Bool.eq_false_iff]
      exact mt mem_of_isAbsolute hbare
    have hempty : (Path.mk "").isAbsolute = false := rfl
    have hstart : fs.start file = fs.start ⟨""⟩ := by rw [start, start, hrelative, hempty]
    have hplace : fs.start ⟨""⟩ = place.dropLast := hstart ▸ Except.ok.inj hfollow
    rw [hbase, hplace]
    refine ⟨by simp [hbare], by simp, fun ys hys => ?_⟩
    exact follow_cons_of_stays fs.root (Or.inl rfl) place.dropLast hys
  · have hpieces : pieces file.text.toList = pieces front ++ [last] := by
      rw [htext, pieces_append_sep, pieces_of_not_mem hlast]
    obtain ⟨hname, hfollow⟩ := exists_place_of_file hlocate hfile hpieces
    obtain ⟨base, hparent, hbase⟩ := exists_parentText htext hlast hname
    have hbaseOf : baseOf file = base := by rw [baseOf, hparent, Option.getD_some]
    have hstart : fs.start base = fs.start file := by
      have habsolute : base.isAbsolute = file.isAbsolute := by
        rw [Bool.eq_iff_iff, isAbsolute, isAbsolute, beq_iff_eq, beq_iff_eq, htext]
        exact hbase.head?_eq_sep_iff last
      simp [start, habsolute]
    rw [hbaseOf, hstart]
    refine ⟨by simp [hbase.ne_nil, htext], ?_, fun ys hys => ?_⟩
    · intro h
      exact hnul (htext ▸ hbase.mem_of_mem last h)
    · rw [follow_parentText fs.root hbase _ hys, follow_append, hfollow]
      rfl

/-- **Where a resolved path leads.**  Unless the path is empty or becomes too
long, it is where it is meant to lead, seen from the directory of the config. -/
theorem locate_resolvePath_iff {sub : Path} (hsub : sub.text ≠ "")
    (hshort : (resolvePath (baseOf file) sub).text.utf8ByteSize ≤ longestPath)
    (target : List String) :
    fs.locate (resolvePath (baseOf file) sub) = .ok target ↔
      (fs.seenFrom place.dropLast).locate sub = .ok target := by
  obtain ⟨-, hnul, hfollow⟩ := baseOf_of_file hlocate hfile
  rcases resolvePath_cases (baseOf file) sub with ⟨habsolute, hresolve⟩ | ⟨hrelative, hresolve⟩
  · rw [hresolve, locate_seenFrom_of_isAbsolute fs _ habsolute]
  · have hne : sub.text.toList ≠ [] := by simpa using hsub
    have hnul' : '\x00' ∉ (Path.join (baseOf file) sub).text.toList ↔ '\x00' ∉ sub.text.toList := by
      simp [mem_join_iff _ hrelative, hnul]
    have hpath : fs.followPath ((baseOf file).join sub)
        = (fs.seenFrom place.dropLast).followPath sub := by
      rw [follow_join fs hrelative, followPath_seenFrom fs _ hrelative,
        hfollow _ (pieces_ne_nil _)]
    have hlength : sub.text.utf8ByteSize ≤ longestPath := by
      rw [hresolve] at hshort
      exact Nat.le_trans (utf8ByteSize_le_join _ _) hshort
    rw [hresolve] at hshort ⊢
    rw [locate_eq_ok_iff, locate_eq_ok_iff, hnul', hpath]
    simp [hne, hshort, hlength, join_eq_nil_iff _ hrelative]

/-- A resolved path leads to what it is meant to lead to. -/
theorem node_resolvePath_iff {sub : Path} (hsub : sub.text ≠ "")
    (hshort : (resolvePath (baseOf file) sub).text.utf8ByteSize ≤ longestPath) (n : Node) :
    fs.node (resolvePath (baseOf file) sub) = .ok n ↔
      (fs.seenFrom place.dropLast).node sub = .ok n := by
  simp only [node_eq_ok_iff, locate_resolvePath_iff hlocate hfile hsub hshort, seenFrom_root]

/-- A resolved path leads to a directory when it is meant to. -/
theorem isDirectory_resolvePath {sub : Path} (hsub : sub.text ≠ "")
    (hshort : (resolvePath (baseOf file) sub).text.utf8ByteSize ≤ longestPath) :
    fs.isDirectory (resolvePath (baseOf file) sub)
      = (fs.seenFrom place.dropLast).isDirectory sub := by
  rw [Bool.eq_iff_iff, isDirectory_eq_true_iff, isDirectory_eq_true_iff]
  simp only [node_resolvePath_iff hlocate hfile hsub hshort]

/-- A resolved path leads anywhere when it is meant to. -/
theorem exists_resolvePath {sub : Path} (hsub : sub.text ≠ "")
    (hshort : (resolvePath (baseOf file) sub).text.utf8ByteSize ≤ longestPath) :
    fs.exists (resolvePath (baseOf file) sub) = (fs.seenFrom place.dropLast).exists sub := by
  rw [Bool.eq_iff_iff, exists_eq_true_iff, exists_eq_true_iff]
  simp only [node_resolvePath_iff hlocate hfile hsub hshort]

/-- The text of a file that a path is meant to lead to is read under the
resolved path.  An empty path leads to no file, whatever it is joined to. -/
theorem readText_resolvePath_iff {sub : Path}
    (hshort : (resolvePath (baseOf file) sub).text.utf8ByteSize ≤ longestPath) (s : String) :
    fs.readText (resolvePath (baseOf file) sub) = .ok s ↔
      (fs.seenFrom place.dropLast).readText sub = .ok s := by
  rw [readText_eq_ok_iff, readText_eq_ok_iff]
  by_cases hsub : sub.text = ""
  · obtain ⟨-, -, hfollow⟩ := baseOf_of_file hlocate hfile
    have hrelative : sub.isRelative = true := by simp [isRelative, isAbsolute, hsub]
    have hpieces : pieces sub.text.toList = [[]] := by rw [hsub]; rfl
    have hresolve : resolvePath (baseOf file) sub = (baseOf file).join sub := by
      rw [resolvePath, if_pos hrelative]
    rw [node_eq_ok_iff, node_eq_ok_iff]
    constructor
    · intro h
      obtain ⟨target, htarget, hnode⟩ := h
      obtain ⟨-, -, -, hpath⟩ := (locate_eq_ok_iff fs _ target).mp htarget
      rw [hresolve, follow_join fs hrelative, hpieces, hfollow _ (by simp)] at hpath
      obtain ⟨entries, hdirectory⟩ := exists_directory_of_follow_empty hpath
      rw [hdirectory] at hnode
      cases hnode
    · intro h
      obtain ⟨target, htarget, -⟩ := h
      obtain ⟨-, hne, -, -⟩ := (locate_eq_ok_iff _ sub target).mp htarget
      simp [hsub] at hne
  · exact node_resolvePath_iff hlocate hfile hsub hshort _

/-- The path of a resolved library has a separator when the config file was
named with one, or the path in the config has one. -/
theorem sep_mem_resolvePath_iff (sub : Path) :
    '/' ∈ (resolvePath (baseOf file) sub).text.toList ↔
      '/' ∈ file.text.toList ∨ '/' ∈ sub.text.toList := by
  obtain ⟨hempty, -, -⟩ := baseOf_of_file hlocate hfile
  rcases resolvePath_cases (baseOf file) sub with ⟨habsolute, hresolve⟩ | ⟨hrelative, hresolve⟩
  · simp [hresolve, mem_of_isAbsolute habsolute]
  · rw [hresolve, mem_join_iff _ hrelative]
    by_cases hbare : '/' ∈ file.text.toList
    · simp [hbare, hempty]
    · simp [hbare, hempty.mpr hbare]

/-- A config that was named without a separator leaves its paths as they are. -/
theorem resolvePath_of_bare (hbare : '/' ∉ file.text.toList) (sub : Path) :
    resolvePath (baseOf file) sub = sub := by
  obtain ⟨hempty, -, -⟩ := baseOf_of_file hlocate hfile
  rcases resolvePath_cases (baseOf file) sub with ⟨-, hresolve⟩ | ⟨hrelative, hresolve⟩
  · exact hresolve
  · have hjoin : ((baseOf file).join sub).text = sub.text := by
      rw [← String.toList_inj, join_toList _ hrelative, hempty.mpr hbare]
      rfl
    rw [hresolve]
    exact congrArg Path.mk hjoin

/-- **Opening a resolved library.**  If a path in a config has a separator, or
the config file was named with one, the library that the path is meant to lead
to is opened. -/
theorem openLibrary_resolvePath_iff {sub : Path} (hsub : sub.text ≠ "")
    (hshort : (resolvePath (baseOf file) sub).text.utf8ByteSize ≤ longestPath)
    (hsep : '/' ∈ file.text.toList ∨ '/' ∈ sub.text.toList) (o : SharedObject) :
    fs.openLibrary (resolvePath (baseOf file) sub) = .ok o ↔
      (fs.seenFrom place.dropLast).openFile sub = .ok o := by
  have hresolved := (sep_mem_resolvePath_iff hlocate hfile sub).mpr hsep
  have hne : (resolvePath (baseOf file) sub).text.toList ≠ [] := List.ne_nil_of_mem hresolved
  rw [openLibrary_eq_ok_iff, openFile_eq_ok_iff, node_resolvePath_iff hlocate hfile hsub hshort,
    systemLibrary?_of_sep fs hresolved]
  simp [hne, hresolved]

end Config

end GrammarAudit
