import Mathlib
import GrammarAudit.Config.File

/-!
# The config that the program brings along

The default entries are those of a config whose text is part of the program: some
comments and one entry.  Comments in front of a document change nothing about what
it says, so the entry is all that counts.

* `skipGaps_commentLines`: comments are skipped.
* `parse_standardConfig`: what the text of this config lists.
-/

namespace GrammarAudit

namespace Toml

/-- Comments, each on a line of its own. -/
def commentLines (comments : List String) : List Char :=
  comments.flatMap fun comment => '#' :: (comment.toList ++ ['\n'])

/-- A comment is skipped up to the end of its line.  The induction is on the
comment. -/
theorem skipGaps_comment {comment : List Char} (hplain : ∀ c ∈ comment, Quotation.isPlain c = true)
    (r : List Char) : skipGaps true (comment ++ '\n' :: r) = skipGaps false r := by
  induction comment with
  | nil => simp [skipGaps]
  | cons c rest ih =>
      obtain ⟨hc, hrest⟩ := List.forall_mem_cons.mp hplain
      have hnewline : c ≠ '\n' := by
        rintro rfl
        exact absurd hc (by decide)
      have hreturn : c ≠ '\r' := by
        rintro rfl
        exact absurd hc (by decide)
      rw [List.cons_append, skipGaps, if_pos hc, ih hrest]
      · simpa using hnewline
      · simp [hreturn]

/-- Comments are skipped.  The induction is on their lines. -/
theorem skipGaps_commentLines {comments : List String}
    (hplain : ∀ comment ∈ comments, ∀ c ∈ comment.toList, Quotation.isPlain c = true)
    (r : List Char) : skipGaps false (commentLines comments ++ r) = skipGaps false r := by
  induction comments with
  | nil => rfl
  | cons comment rest ih =>
      obtain ⟨hcomment, hrest⟩ := List.forall_mem_cons.mp hplain
      have hline : commentLines (comment :: rest) ++ r
          = '#' :: (comment.toList ++ '\n' :: (commentLines rest ++ r)) := by
        simp [commentLines]
      have hstart : ∀ more, skipGaps false ('#' :: more) = skipGaps true more := fun _ => rfl
      rw [hline, hstart, skipGaps_comment hcomment, ih hrest]

/-- The lines of two texts are the same if they are after what can be skipped. -/
theorem readLines_congr {cs cs' : List Char} (h : skipGaps false cs = skipGaps false cs')
    (fuel : Nat) : readLines fuel cs = readLines fuel cs' := by
  cases fuel with
  | zero => rfl
  | succ fuel => rw [readLines, readLines, h]

end Toml

namespace Config

open Toml

/-- The comments of the config that the program brings along. -/
def standardComments : List String :=
  [" Grammars checked by default.", "",
    " source = \"builtin\" uses the grammar linked into the binary.",
    " source = \x7b path = \"...\" \x7d opens a compiled shared library, or searches a",
    " directory for lib<name>.so / lib<name>.dylib / <name>.dll."]

/-- The entry of the config that the program brings along. -/
def standardTable : String :=
  "\n[[grammar]]\nname = \"scss\"\ndisplay = \"SCSS\"\nsource = \"builtin\"\n"

/-- The text of the config that the program brings along. -/
def standardConfig : String :=
  String.ofList (commentLines standardComments ++ standardTable.toList)

/-- The entry is read in the same way with more fuel than it takes. -/
theorem readLines_standardTable (fuel : Nat) :
    (readLines (fuel + 5) standardTable.toList).bind ofLines = parse? standardTable := by cbv

theorem parse_standardTable : parse standardTable = .ok defaultEntries := by cbv

/-- **The standard config.**  Its text lists the default entries. -/
theorem parse_standardConfig : parse standardConfig = .ok defaultEntries := by
  have hplain : ∀ comment ∈ standardComments, ∀ c ∈ comment.toList, Quotation.isPlain c = true := by
    simp [standardComments, Quotation.isPlain]
  have hskip := skipGaps_commentLines hplain standardTable.toList
  have hdocument : parse? standardConfig = parse? standardTable := by
    have hmark : dropMark standardConfig.toList
        = commentLines standardComments ++ standardTable.toList := by
      rw [standardConfig, String.toList_ofList]
      rfl
    obtain ⟨fuel, hfuel⟩ : ∃ fuel,
        (commentLines standardComments ++ standardTable.toList).length + 1 = fuel + 5 := by
      have hlength : 4 ≤ standardTable.toList.length := by decide
      rw [List.length_append]
      exact ⟨_, (Nat.sub_add_cancel (by omega)).symm⟩
    rw [parse?, hmark, hfuel, readLines_congr hskip, readLines_standardTable]
  have htable := parse_standardTable
  rw [parse] at htable ⊢
  rw [hdocument]
  cases ht : parse? standardTable with
  | none => simp [ht] at htable
  | some t =>
      simp only [ht, mapError_eq_ok] at htable ⊢
      exact htable

end Config

end GrammarAudit
