import GrammarAudit.Handle

/-!
# Asking a language for its node kinds

A check of node kinds rests on one number: the lookup of a name answers zero
when no named node has it.  Every language has a kind for errors, which the
lookup compares over the length of the name only, and zero is also the number of
the first kind of the table.  The check is therefore exact but for two kinds of
names, and this file says which.

* `idOfNamed_eq_zero_iff`: the number is zero exactly for the names that are not
  found.
* `missingKinds_eq_filter`: the missing names are those not found, in order and
  with repeats.
* `checkKinds_exact_iff`: they are the undeclared names exactly when no name on
  the list is an undeclared beginning of `ERROR` or the name of the first kind.
-/

namespace GrammarAudit

/-- Users can ask for the kind under the name: it is named, and visible or a
supertype. -/
def NodeKind.AnswersTo (k : NodeKind) (name : String) : Prop :=
  k.named = true ∧ (k.visible = true ∨ k.supertype = true) ∧ k.name = name

instance (k : NodeKind) (name : String) : Decidable (k.AnswersTo name) :=
  inferInstanceAs (Decidable (_ ∧ _ ∧ _))

/-- The condition that the lookup computes is that users can ask for the
kind. -/
theorem NodeKind.isAskable_and_name_iff (k : NodeKind) (name : String) :
    (k.isAskable && k.name == name) = true ↔ k.AnswersTo name := by
  simp only [isAskable, AnswersTo, Bool.and_eq_true, Bool.or_eq_true, beq_iff_eq, and_assoc]

namespace Language

/-- The language has a named node of that name. -/
def Declares (l : Language) (name : String) : Prop := ∃ k ∈ l.kinds, k.AnswersTo name

/-- The kind with the number zero has that name. -/
def DeclaresFirst (l : Language) (name : String) : Prop := ∃ k ∈ l.kinds.take 1, k.AnswersTo name

/-- The name is a beginning of `ERROR`, the kind of error nodes. -/
def BeginsError (name : String) : Prop := name.toList <+: "ERROR".toList

/-- The lookup finds a node of that name: the one for errors, or one of the
language with a number other than zero. -/
def Finds (l : Language) (name : String) : Prop :=
  BeginsError name ∨ (l.Declares name ∧ ¬ l.DeclaresFirst name)

instance (l : Language) (name : String) : Decidable (l.Declares name) :=
  inferInstanceAs (Decidable (∃ k ∈ l.kinds, _))

instance (l : Language) (name : String) : Decidable (l.DeclaresFirst name) :=
  inferInstanceAs (Decidable (∃ k ∈ l.kinds.take 1, _))

instance (name : String) : Decidable (BeginsError name) :=
  inferInstanceAs (Decidable (_ <+: _))

instance (l : Language) (name : String) : Decidable (l.Finds name) :=
  inferInstanceAs (Decidable (_ ∨ _))

/-- A name of the first kind is declared. -/
theorem DeclaresFirst.declares {l : Language} {name : String} (h : l.DeclaresFirst name) :
    l.Declares name := by
  obtain ⟨k, hk, hname⟩ := h
  exact ⟨k, List.mem_of_mem_take hk, hname⟩

/-- A search that starts to count at zero answers zero if nothing is found, and
also if the first item is what was searched for. -/
theorem findIdx_getD_eq_zero_iff {α : Type} (p : α → Bool) (xs : List α) :
    (xs.findIdx? p).getD 0 = 0 ↔ (∃ x ∈ xs.take 1, p x) ∨ ∀ x ∈ xs, ¬ p x := by
  cases xs with
  | nil => simp
  | cons x rest =>
      by_cases hx : p x = true
      · simp [List.findIdx?_cons, hx]
      · have hshift : ((x :: rest).findIdx? p).getD 0 = 0 ↔ rest.findIdx? p = none := by
          cases hrest : rest.findIdx? p with
          | none => simp [List.findIdx?_cons, hx, hrest]
          | some i => simp [List.findIdx?_cons, hx, hrest]
        rw [hshift, List.findIdx?_eq_none_iff]
        simp [hx]

/-- **The number zero.**  The lookup of a name answers zero exactly when the
name is not found. -/
theorem idOfNamed_eq_zero_iff (l : Language) (name : String) :
    l.idOfNamed name = 0 ↔ ¬ l.Finds name := by
  by_cases herror : BeginsError name
  · have hnumber : l.idOfNamed name = errorId := by
      rw [idOfNamed, if_pos (List.isPrefixOf_iff_prefix.mpr herror)]
    have hfound : l.Finds name := Or.inl herror
    simp [hnumber, hfound, errorId]
  · have hnumber : l.idOfNamed name
        = (l.kinds.findIdx? fun k => k.isAskable && k.name == name).getD 0 := by
      rw [idOfNamed, if_neg (fun h => herror (List.isPrefixOf_iff_prefix.mp h))]
    rw [hnumber, findIdx_getD_eq_zero_iff]
    simp only [NodeKind.isAskable_and_name_iff, Finds, herror, false_or, Declares, DeclaresFirst]
    grind

/-- The missing names are the names that are not found, in the order given and
with repeats. -/
theorem missingKinds_eq_filter (l : Language) (names : List String) :
    l.missingKinds names = names.filter fun name => ¬ l.Finds name := by
  unfold missingKinds
  congr 1
  funext name
  rw [Bool.eq_iff_iff, beq_iff_eq, decide_eq_true_iff]
  exact idOfNamed_eq_zero_iff l name

/-- Nothing is missing exactly when every name is found. -/
theorem missingKinds_eq_nil_iff (l : Language) (names : List String) :
    l.missingKinds names = [] ↔ ∀ name ∈ names, l.Finds name := by
  simp [missingKinds_eq_filter, List.filter_eq_nil_iff]

end Language

/-- Two filters of a list agree exactly when their conditions agree on its
items. -/
theorem filter_eq_filter_iff {α : Type} (p q : α → Bool) (xs : List α) :
    xs.filter p = xs.filter q ↔ ∀ x ∈ xs, p x = q x := by
  constructor
  · intro h x hx
    have hp : x ∈ xs.filter p ↔ p x = true := by simp [hx]
    have hq : x ∈ xs.filter q ↔ q x = true := by simp [hx]
    rw [Bool.eq_iff_iff, ← hp, ← hq, h]
  · exact List.filter_congr

namespace Handle

open Language

/-- A check of node kinds succeeds when nothing is missing. -/
theorem checkKinds_eq_ok_iff (h : Handle) (names : List String) :
    (h.checkKinds names).result = .ok () ↔ h.language.missingKinds names = [] := by
  unfold checkKinds
  cases h.language.missingKinds names with
  | nil => simp
  | cons name rest => simp

/-- A check of node kinds fails with all that is missing. -/
theorem checkKinds_eq_error_iff (h : Handle) (names : List String) (e : GrammarError) :
    (h.checkKinds names).result = .error e ↔
      h.language.missingKinds names ≠ [] ∧
        e = .missingKinds h.name (h.language.missingKinds names) := by
  unfold checkKinds
  cases h.language.missingKinds names with
  | nil => simp
  | cons name rest => simp [eq_comm]

/-- **The check of node kinds.**  It succeeds when every name on the list is
found and otherwise fails with those that are not, in the order given and with
repeats.  These are the names that are neither `ERROR` nor declared by the
language exactly when no other beginning of `ERROR` stands on the list
undeclared, and no name of the kind with the number zero. -/
theorem checkKinds_exact_iff (h : Handle) (names : List String) :
    h.language.missingKinds names = names.filter (fun name => ¬ h.language.Finds name) ∧
    ((h.checkKinds names).result = .ok () ↔ h.language.missingKinds names = []) ∧
    (∀ e, (h.checkKinds names).result = .error e ↔
      h.language.missingKinds names ≠ [] ∧
        e = .missingKinds h.name (h.language.missingKinds names)) ∧
    (h.language.missingKinds names
        = names.filter (fun name => name ≠ "ERROR" ∧ ¬ h.language.Declares name) ↔
      ∀ name ∈ names, (BeginsError name → name = "ERROR" ∨ h.language.Declares name) ∧
        (h.language.DeclaresFirst name → BeginsError name)) := by
  refine ⟨missingKinds_eq_filter _ _, checkKinds_eq_ok_iff _ _, checkKinds_eq_error_iff _ _, ?_⟩
  have hself : BeginsError "ERROR" := List.prefix_rfl
  rw [missingKinds_eq_filter, filter_eq_filter_iff]
  refine forall₂_congr fun name _ => ?_
  rw [decide_eq_decide]
  have hfirst : h.language.DeclaresFirst name → h.language.Declares name :=
    DeclaresFirst.declares
  simp only [Finds]
  grind

/-- A language of one named node passes a check for `ERR`, a node that it does
not declare. -/
theorem checkKinds_accepts_beginning_of_error :
    let h : Handle := {
      language := ⟨14,
        [⟨"end", false, true, false⟩, ⟨"stylesheet", true, true, false⟩], fun _ => none⟩
      name := "scss", display := "SCSS", source := .builtin "scss" }
    h.language.missingKinds ["stylesheet", "ERR", "bogus"] = ["bogus"] ∧
      (h.checkKinds ["stylesheet", "ERR"]).result = .ok () ∧ ¬ h.language.Declares "ERR" := by
  intro h
  exact ⟨by decide, rfl, by decide⟩

end Handle

end GrammarAudit
