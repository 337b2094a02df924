/-!
# Opened libraries and who holds them

A library stays open as long as somebody holds it.  Every opening is counted for
itself, also when the same file is opened again, and starts with one holder.

* `Pool.isOpen` tells whether a library is open: it has a holder.
* `Shelf` keeps values under labels, each with the library that it came from.
-/

namespace GrammarAudit

/-- The number of an opened library, counted from the first opening. -/
abbrev LibraryId := Nat

/-- For every library that was opened, in order, the number of its holders. -/
structure Pool where
  holders : List Nat
deriving DecidableEq, Repr, Inhabited

namespace Pool

/-- Nothing has been opened. -/
def empty : Pool := ⟨[]⟩

/-- The number of holders of a library. -/
def holdersOf (p : Pool) (id : LibraryId) : Nat := p.holders[id]?.getD 0

/-- The library is open. -/
def isOpen (p : Pool) (id : LibraryId) : Bool := 0 < p.holdersOf id

/-- The number that the next library to be opened gets. -/
def next (p : Pool) : LibraryId := p.holders.length

/-- One more library, with one holder. -/
def add (p : Pool) : Pool := ⟨p.holders ++ [1]⟩

/-- One more holder of a library; what belongs to no library holds none. -/
def retain (p : Pool) : Option LibraryId → Pool
  | some id => ⟨p.holders.modify id (· + 1)⟩
  | none => p

/-- One holder of a library less. -/
def release (p : Pool) : Option LibraryId → Pool
  | some id => ⟨p.holders.modify id (· - 1)⟩
  | none => p

/-- The part that what was made from `library` has in the holders of the library
`id`: one, or nothing. -/
def share (library : Option LibraryId) (id : LibraryId) : Nat := if library = some id then 1 else 0

@[simp] theorem share_none (id : LibraryId) : share none id = 0 := rfl

@[simp] theorem share_some_self (id : LibraryId) : share (some id) id = 1 := if_pos rfl

theorem share_of_ne {library : Option LibraryId} {id : LibraryId} (h : library ≠ some id) :
    share library id = 0 := if_neg h

@[simp] theorem next_add (p : Pool) : p.add.next = p.next + 1 := List.length_append

@[simp] theorem next_release (p : Pool) (library : Option LibraryId) :
    (p.release library).next = p.next := by
  cases library with
  | none => rfl
  | some id => exact List.length_modify _ _ _

@[simp] theorem next_retain (p : Pool) (library : Option LibraryId) :
    (p.retain library).next = p.next := by
  cases library with
  | none => rfl
  | some id => exact List.length_modify _ _ _

/-- Nobody holds a library that is yet to be opened. -/
theorem holdersOf_eq_zero {p : Pool} {id : LibraryId} (h : p.next ≤ id) : p.holdersOf id = 0 := by
  have hnone : p.holders[id]? = none := List.getElem?_eq_none_iff.mpr h
  rw [holdersOf, hnone, Option.getD_none]

theorem lt_next_of_held {p : Pool} {id : LibraryId} (h : 0 < p.holdersOf id) : id < p.next := by
  apply Nat.lt_of_not_le
  intro hle
  rw [holdersOf_eq_zero hle] at h
  exact Nat.lt_irrefl 0 h

theorem holdersOf_add (p : Pool) (id : LibraryId) :
    p.add.holdersOf id = p.holdersOf id + share (some p.next) id := by
  have hne : id ≠ p.next → share (some p.next) id = 0 := fun h =>
    share_of_ne fun heq => h (Option.some.inj heq).symm
  rcases Nat.lt_trichotomy id p.next with h | h | h
  · have hsame : p.add.holders[id]? = p.holders[id]? := List.getElem?_append_left h
    rw [holdersOf, hsame, hne (Nat.ne_of_lt h)]
    rfl
  · have hlast : p.add.holders[id]? = some 1 := by
      rw [h]
      exact List.getElem?_concat_length
    rw [holdersOf, hlast, holdersOf_eq_zero (Nat.le_of_eq h.symm), h, share_some_self]
    rfl
  · have hbeyond : p.add.next ≤ id := by
      show (p.holders ++ [1]).length ≤ id
      rw [List.length_append]
      exact h
    rw [holdersOf_eq_zero hbeyond, holdersOf_eq_zero (Nat.le_of_lt h), hne (Nat.ne_of_gt h)]

/-- One more holder of a library that is held already. -/
theorem holdersOf_retain (p : Pool) {library : Option LibraryId}
    (hheld : ∀ id, library = some id → 0 < p.holdersOf id) (id : LibraryId) :
    (p.retain library).holdersOf id = p.holdersOf id + share library id := by
  cases library with
  | none => simp [retain]
  | some held =>
      unfold retain holdersOf
      rw [List.getElem?_modify]
      by_cases hid : held = id
      · subst hid
        have hlt : held < p.holders.length := lt_next_of_held (hheld held rfl)
        simp [List.getElem?_eq_getElem hlt]
      · simp [hid, share]

theorem holdersOf_release (p : Pool) (library : Option LibraryId) (id : LibraryId) :
    (p.release library).holdersOf id = p.holdersOf id - share library id := by
  cases library with
  | none => simp [release]
  | some gone =>
      unfold release holdersOf
      rw [List.getElem?_modify]
      by_cases hid : gone = id
      · cases p.holders[id]? with
        | none => simp
        | some count => simp [hid]
      · simp [hid, share]

end Pool

/-- A value with the library that it was made from, if it was. -/
structure Sourced (α : Type) where
  value : α
  library : Option LibraryId

/-- Values under labels, one under each. -/
structure Shelf (α : Type) where
  items : List (String × Sourced α)

namespace Shelf

variable {α : Type}

/-- Nothing is kept. -/
def empty : Shelf α := ⟨[]⟩

/-- What is kept under a label. -/
def get? (shelf : Shelf α) (label : String) : Option (Sourced α) := shelf.items.lookup label

/-- The library of what is kept under a label. -/
def libraryOf (shelf : Shelf α) (label : String) : Option LibraryId :=
  (shelf.get? label).bind Sourced.library

/-- The shelf without what is kept under a label. -/
def drop (shelf : Shelf α) (label : String) : Shelf α :=
  ⟨shelf.items.filter (·.1 != label)⟩

/-- The shelf with a value under a label, in place of what was kept there. -/
def put (shelf : Shelf α) (label : String) (item : Sourced α) : Shelf α :=
  ⟨(label, item) :: (shelf.drop label).items⟩

@[simp] theorem get?_empty (label : String) : (empty : Shelf α).get? label = none := rfl

/-- A look-up in a list of labelled values, with its question asked of the first
label. -/
theorem lookup_cons_eq_ite (label other : String) (item : Sourced α)
    (rest : List (String × Sourced α)) :
    ((label, item) :: rest).lookup other
      = if other = label then some item else rest.lookup other := by
  by_cases h : other = label
  · simp [h]
  · have hne : (other == label) = false := beq_false_of_ne h
    simp [List.lookup_cons, hne, h]

/-- After a drop nothing is kept under the label, and everything else is as it
was. -/
@[simp] theorem get?_drop (shelf : Shelf α) (label other : String) :
    (shelf.drop label).get? other = if other = label then none else shelf.get? other := by
  unfold get? drop
  induction shelf.items with
  | nil => simp
  | cons entry rest ih =>
      obtain ⟨key, item⟩ := entry
      by_cases hkey : key = label
      · have hskip : ((key, item) :: rest).filter (·.1 != label) = rest.filter (·.1 != label) := by
          simp [hkey]
        rw [hskip, ih, lookup_cons_eq_ite, hkey]
        by_cases hother : other = label
        · simp [hother]
        · simp [hother]
      · have hkeep : ((key, item) :: rest).filter (·.1 != label)
            = (key, item) :: rest.filter (·.1 != label) := by
          simp [hkey]
        rw [hkeep, lookup_cons_eq_ite, lookup_cons_eq_ite, ih]
        by_cases hother : other = label
        · have hne : label ≠ key := fun h => hkey h.symm
          simp [hother, hne]
        · simp [hother]

/-- After a put the value is kept under the label, and everything else is as it
was. -/
@[simp] theorem get?_put (shelf : Shelf α) (label : String) (item : Sourced α) (other : String) :
    (shelf.put label item).get? other
      = if other = label then some item else shelf.get? other := by
  have hput : (shelf.put label item).get? other
      = if other = label then some item else (shelf.drop label).get? other :=
    lookup_cons_eq_ite label other item (shelf.drop label).items
  rw [hput, get?_drop]
  by_cases hother : other = label
  · simp [hother]
  · simp [hother]

end Shelf

end GrammarAudit
