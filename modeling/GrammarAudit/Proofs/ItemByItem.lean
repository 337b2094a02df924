import Mathlib.Data.List.Forall2

/-!
# Lists item by item

A list is read, or answered, item by item: another list matches it.

* `exists_forall₂_iff`: when some list matches a given one.
* `mapM_eq_some_iff`, `mapM_eq_ok_iff`: reading the items one after the other
  succeeds with the list that matches.
-/

namespace GrammarAudit

variable {α β ε : Type}

/-- Some list matches a given one item by item exactly when something matches
each of its items. -/
theorem exists_forall₂_iff (R : α → β → Prop) (xs : List α) :
    (∃ ys, List.Forall₂ R xs ys) ↔ ∀ x ∈ xs, ∃ y, R x y := by
  induction xs with
  | nil => simp
  | cons x rest ih =>
      simp only [List.forall₂_cons_left_iff, List.forall_mem_cons, ← ih]
      constructor
      · intro h
        obtain ⟨_, y, ys, hy, hys, rfl⟩ := h
        exact ⟨⟨y, hy⟩, ys, hys⟩
      · intro h
        obtain ⟨⟨y, hy⟩, ys, hys⟩ := h
        exact ⟨y :: ys, y, ys, hy, hys, rfl⟩

/-- Pairing a list with another leaves it as it is, as far as the other goes. -/
theorem map_fst_zip_sublist (xs : List α) (ys : List β) :
    ((xs.zip ys).map Prod.fst).Sublist xs := by
  induction xs generalizing ys with
  | nil => simp
  | cons x xs ih =>
      cases ys with
      | nil => simp
      | cons y ys => simpa using ih ys

theorem mapM_eq_some_iff {f : α → Option β} {xs : List α} {ys : List β} :
    xs.mapM f = some ys ↔ List.Forall₂ (fun x y => f x = some y) xs ys := by
  induction xs generalizing ys with
  | nil => simp [eq_comm]
  | cons x xs ih =>
      simp only [List.mapM_cons, Option.bind_eq_bind, Option.bind_eq_some_iff,
        Option.pure_def, Option.some.injEq, ih, List.forall₂_cons_left_iff]
      constructor
      · rintro ⟨y, hy, ys, hys, rfl⟩
        exact ⟨y, ys, hy, hys, rfl⟩
      · rintro ⟨y, ys, hy, hys, rfl⟩
        exact ⟨y, hy, ys, hys, rfl⟩

theorem mapM_eq_ok_iff {f : α → Except ε β} {xs : List α} {ys : List β} :
    xs.mapM f = .ok ys ↔ List.Forall₂ (fun x y => f x = .ok y) xs ys := by
  induction xs generalizing ys with
  | nil => simp [pure, Except.pure, eq_comm]
  | cons x xs ih =>
      rw [List.mapM_cons, List.forall₂_cons_left_iff]
      cases hx : f x with
      | error e => simp [bind, Except.bind]
      | ok y =>
          cases hxs : xs.mapM f with
          | error e => simp [bind, Except.bind, ← ih, hxs]
          | ok ys' => simp [bind, Except.bind, pure, Except.pure, ← ih, hxs, eq_comm]

end GrammarAudit
