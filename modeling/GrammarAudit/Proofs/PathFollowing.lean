import GrammarAudit.FileSystem
import GrammarAudit.Proofs.ParentPath

/-!
# Following a joined path

A path is followed piece by piece, so following a path that was joined from two
is following the first and then the second.  An empty piece and a `.` stay where
they are, and before another piece they cannot even be told from nothing; this
is why the text of a parent, which drops such pieces at its end, leads to the
same place as the text that it was taken from.

* `follow_join`: a joined path leads where its second part leads from its first.
* `follow_parentText`: what is joined to a parent is followed from where the
  path leads before its last piece.
* `exists_place_of_file`: a path to a file ends in a name, and before that leads
  to the directory of the file.
-/

namespace GrammarAudit

namespace FileSystem

open Path

variable (root : Node)

/-- Pieces are followed one after the other. -/
theorem follow_append (here : List String) (xs ys : List (List Char)) :
    follow root here (xs ++ ys) =
      (follow root here xs).bind fun there => follow root there ys := by
  induction xs generalizing here with
  | nil => rfl
  | cons piece rest ih =>
      simp only [List.cons_append, follow]
      cases root.descend here with
      | none => rfl
      | some node =>
          cases node with
          | file content => rfl
          | directory entries =>
              simp only [ih]
              by_cases hstays : piece = [] ∨ piece = ['.']
              · simp [hstays]
              · by_cases hup : piece = ['.', '.']
                · simp [hup]
                · by_cases hlong : (String.ofList piece).utf8ByteSize > longestName
                  · simp [hstays, hup, hlong, Except.bind]
                  · cases (entries.lookup (String.ofList piece)).isSome with
                    | false => simp [hstays, hup, hlong, Except.bind]
                    | true => simp [hstays, hup, hlong]

/-- Before another piece, one that stays where it is can be left out. -/
theorem follow_cons_of_stays {piece : List Char} (hstays : Stays piece) (here : List String)
    {ys : List (List Char)} (hys : ys ≠ []) :
    follow root here (piece :: ys) = follow root here ys := by
  obtain ⟨next, rest, rfl⟩ := List.exists_cons_of_ne_nil hys
  have hcondition : piece = [] ∨ piece = ['.'] := hstays
  rw [follow]
  cases hnode : root.descend here with
  | none => simp [follow, hnode]
  | some node =>
      cases node with
      | file content => simp [follow, hnode]
      | directory entries => simp [hcondition]

/-- Among other pieces, one that stays where it is can be left out if it is not
the last. -/
theorem follow_append_cons_of_stays {piece : List Char} (hstays : Stays piece) (here : List String)
    (xs : List (List Char)) {ys : List (List Char)} (hys : ys ≠ []) :
    follow root here (xs ++ piece :: ys) = follow root here (xs ++ ys) := by
  rw [follow_append, follow_append]
  congr 1
  funext there
  exact follow_cons_of_stays root hstays there hys

/-- Where a path leads, without regard to what the system refuses to follow at
all. -/
def followPath (fs : FileSystem) (p : Path) : Except IoFault (List String) :=
  follow fs.root (fs.start p) (pieces p.text.toList)

/-- **Following a joined path.**  It leads where the pieces of its second part
lead after those of its first, whether or not a separator had to be put between
them. -/
theorem follow_join (fs : FileSystem) {base sub : Path} (hsub : sub.isRelative = true) :
    fs.followPath (base.join sub) =
      follow fs.root (fs.start base) (pieces base.text.toList ++ pieces sub.text.toList) := by
  have hstart : fs.start (base.join sub) = fs.start base := by
    rw [start, start, isAbsolute_join base hsub]
  have hempty : Stays [] := Or.inl rfl
  rw [followPath, hstart]
  rcases join_cases base hsub with ⟨hbase, hjoin⟩ | ⟨front, hbase, hjoin⟩ | ⟨-, hjoin⟩
  · rw [hjoin, hbase]
    exact (follow_cons_of_stays fs.root hempty _ (pieces_ne_nil _)).symm
  · have hfront : pieces (front ++ ['/']) = pieces front ++ [[]] := pieces_append_sep front []
    rw [hjoin, hbase, pieces_append_sep, hfront, List.append_assoc]
    exact (follow_append_cons_of_stays fs.root hempty _ _ (pieces_ne_nil _)).symm
  · rw [hjoin, pieces_append_sep]

/-- Dropping trailing separators and trailing `.` pieces of a text does not
change what is followed from there.  The induction is on what is dropped, from
the end of the text. -/
theorem follow_trimReversed (here : List String) (r : List Char) {ys : List (List Char)}
    (hys : ys ≠ []) :
    follow root here (pieces (trimReversed r).reverse ++ ys)
      = follow root here (pieces r.reverse ++ ys) := by
  fun_induction trimReversed r with
  | case1 r ih =>
      rw [ih, pieces_reverse_sep, List.append_assoc]
      exact (follow_append_cons_of_stays root (Or.inl rfl) here _ hys).symm
  | case2 =>
      have hdot : pieces ['.'] = [['.']] := pieces_of_not_mem (by decide)
      rw [List.reverse_singleton, hdot]
      exact (follow_cons_of_stays root (Or.inl rfl) here hys).trans
        (follow_cons_of_stays root (Or.inr rfl) here hys).symm
  | case3 r ih =>
      rw [ih, pieces_reverse_dot, List.append_assoc]
      exact (follow_append_cons_of_stays root (Or.inr rfl) here _ hys).symm
  | case4 r => rfl

/-- Trimming a text does not change what is followed from there. -/
theorem follow_trimmed (here : List String) (cs : List Char) {ys : List (List Char)}
    (hys : ys ≠ []) :
    follow root here (pieces (trimmed cs) ++ ys) = follow root here (pieces cs ++ ys) := by
  rw [trimmed, follow_trimReversed root here cs.reverse hys, List.reverse_reverse]

/-- A `.` before a separator, or at the end, does not change what is followed
from there. -/
theorem follow_dot (here : List String) {cs : List Char} (hcs : cs = [] ∨ ∃ rest, cs = '/' :: rest)
    {ys : List (List Char)} (hys : ys ≠ []) :
    follow root here (pieces ('.' :: cs) ++ ys) = follow root here (pieces cs ++ ys) := by
  have hdot : pieces ['.'] = [['.']] := pieces_of_not_mem (by decide)
  rcases hcs with rfl | ⟨rest, rfl⟩
  · rw [hdot]
    exact (follow_cons_of_stays root (Or.inr rfl) here hys).trans
      (follow_cons_of_stays root (Or.inl rfl) here hys).symm
  · have hpieces : pieces ('.' :: '/' :: rest) = ['.'] :: pieces rest := by
      rw [← List.singleton_append, pieces_append_sep, hdot]
      rfl
    have hne : pieces rest ++ ys ≠ [] := by simp [hys]
    rw [hpieces, pieces_sep_cons, List.cons_append, List.cons_append,
      follow_cons_of_stays root (Or.inr rfl) here hne,
      follow_cons_of_stays root (Or.inl rfl) here hne]

/-- **Following a parent.**  What is joined to the parent of a path is followed
from where the path leads before its last piece. -/
theorem follow_parentText {front base : List Char} (h : ParentText front base) (here : List String)
    {ys : List (List Char)} (hys : ys ≠ []) :
    follow root here (pieces base ++ ys) = follow root here (pieces front ++ ys) := by
  cases h with
  | root =>
      rw [pieces_sep_cons]
      exact follow_cons_of_stays root (Or.inl rfl) here (by simp [hys])
  | absolute rest =>
      rw [pieces_sep_cons, pieces_sep_cons, List.cons_append, List.cons_append,
        follow_cons_of_stays root (Or.inl rfl) here (by simp [hys]),
        follow_cons_of_stays root (Or.inl rfl) here (by simp [hys]), follow_trimmed root here _ hys]
  | dot hrest =>
      rw [follow_dot root here (trimmed_eq_nil_or_sep hrest) hys, follow_dot root here hrest hys,
        follow_trimmed root here _ hys]
  | relative hhead hname => exact follow_trimmed root here _ hys

end FileSystem

namespace Node

/-- Going down two lists of names is going down the one and then the other. -/
theorem descend_append (node : Node) (xs ys : List String) :
    node.descend (xs ++ ys) = (node.descend xs).bind (descend · ys) := by
  induction xs generalizing node with
  | nil => simp [descend]
  | cons name rest ih =>
      cases node with
      | file content => simp [descend]
      | directory entries =>
          cases hentry : entries.lookup name with
          | none => simp [descend, hentry]
          | some next => simp [descend, hentry, ih]

/-- Above a node there is a directory; above the root it is the root. -/
theorem exists_directory_above {root : Node} {here : List String} {entries : List (String × Node)}
    (h : root.descend here = some (.directory entries)) :
    ∃ above, root.descend here.dropLast = some (.directory above) := by
  rcases List.eq_nil_or_concat here with rfl | ⟨front, name, rfl⟩
  · exact ⟨entries, h⟩
  · rw [List.concat_eq_append, descend_append] at h
    rw [List.concat_eq_append, List.dropLast_concat]
    obtain ⟨node, hnode, hentry⟩ := Option.bind_eq_some_iff.mp h
    cases node with
    | file content => simp [descend] at hentry
    | directory above => exact ⟨above, hnode⟩

end Node

namespace FileSystem

open Path

/-- A path leads somewhere when it is not empty, holds no NUL, is short enough
and its pieces can be followed. -/
theorem locate_eq_ok_iff (fs : FileSystem) (p : Path) (place : List String) :
    fs.locate p = .ok place ↔
      '\x00' ∉ p.text.toList ∧ p.text.toList ≠ [] ∧ p.text.utf8ByteSize ≤ longestPath ∧
        fs.followPath p = .ok place := by
  have hempty : p.text.isEmpty = true ↔ p.text.toList = [] := by simp
  unfold locate
  by_cases hnul : '\x00' ∈ p.text.toList
  · simp [hnul]
  · rw [if_neg hnul]
    by_cases hnil : p.text.toList = []
    · rw [if_pos (hempty.mpr hnil)]
      simp [hnil]
    · rw [if_neg (mt hempty.mp hnil)]
      by_cases hlong : p.text.utf8ByteSize > longestPath
      · rw [if_pos hlong]
        simp [Nat.not_le.mpr hlong]
      · rw [if_neg hlong]
        exact ⟨fun h => ⟨hnul, hnil, Nat.not_lt.mp hlong, h⟩, fun h => h.2.2.2⟩

/-- **A path to a file.**  Its last piece is the name of the file, and the
pieces before it lead to the directory of the file. -/
theorem exists_place_of_file {fs : FileSystem} {p : Path} {place : List String} {content : Content}
    (hlocate : fs.locate p = .ok place) (hfile : fs.root.descend place = some (.file content))
    {front : List (List Char)} {last : List Char}
    (hpieces : pieces p.text.toList = front ++ [last]) :
    ¬ Stays last ∧ follow fs.root (fs.start p) front = .ok place.dropLast := by
  obtain ⟨-, -, -, hfollow⟩ := (locate_eq_ok_iff fs p place).mp hlocate
  rw [followPath, hpieces, follow_append] at hfollow
  cases hfront : follow fs.root (fs.start p) front with
  | error fault => simp [hfront, Except.bind] at hfollow
  | ok here =>
      simp only [hfront, Except.bind, follow] at hfollow
      cases hnode : fs.root.descend here with
      | none => simp [hnode] at hfollow
      | some node =>
          cases node with
          | file content => simp [hnode] at hfollow
          | directory entries =>
              simp only [hnode] at hfollow
              by_cases hstays : last = [] ∨ last = ['.']
              · obtain rfl : here = place := by simpa [hstays] using hfollow
                simp [hnode] at hfile
              · by_cases hup : last = ['.', '.']
                · obtain rfl : here.dropLast = place := by simpa [hstays, hup] using hfollow
                  obtain ⟨above, habove⟩ := Node.exists_directory_above hnode
                  simp [habove] at hfile
                · by_cases hlong : (String.ofList last).utf8ByteSize > longestName
                  · simp [hstays, hup, hlong] at hfollow
                  · cases hentry : entries.lookup (String.ofList last) with
                    | none => simp [hstays, hup, hlong, hentry] at hfollow
                    | some next =>
                        obtain rfl : here ++ [String.ofList last] = place := by
                          simpa [hstays, hup, hlong, hentry] using hfollow
                        exact ⟨hstays, by rw [List.dropLast_concat]⟩

end FileSystem

end GrammarAudit
