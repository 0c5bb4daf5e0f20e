/-!
# Tables

A table holds values that others refer to by their position. Rows are appended and changed
in place, never removed, so a position stays good.
-/

namespace LedgerClient

/-- Values by position. -/
structure Table (α : Type) where
  rows : List α := []
  deriving Repr, Inhabited

namespace Table

variable {α : Type}

/-- The row at a position. -/
def get? (t : Table α) (i : Nat) : Option α := t.rows[i]?

/-- The position of the next row. -/
def size (t : Table α) : Nat := t.rows.length

/-- Appends a row at position `t.size`. -/
def push (t : Table α) (a : α) : Table α := ⟨t.rows ++ [a]⟩

/-- Changes the row at a position, if there is one. -/
def modify (t : Table α) (i : Nat) (f : α → α) : Table α := ⟨t.rows.modify i f⟩

/-- Replaces the row at a position, if there is one. -/
def set (t : Table α) (i : Nat) (a : α) : Table α := ⟨t.rows.set i a⟩

@[simp] theorem get?_push_size (t : Table α) (a : α) : (t.push a).get? t.size = some a := by
  simp [get?, push, size]

theorem get?_push_of_lt (t : Table α) (a : α) {i : Nat} (h : i < t.size) :
    (t.push a).get? i = t.get? i := by
  simp only [get?, push]
  exact List.getElem?_append_left h

theorem get?_modify_self (t : Table α) (f : α → α) (i : Nat) :
    (t.modify i f).get? i = (t.get? i).map f := by
  simp [get?, modify]

theorem get?_modify_ne (t : Table α) (f : α → α) {i j : Nat} (h : i ≠ j) :
    (t.modify i f).get? j = t.get? j := by
  simp [get?, modify, h]

theorem get?_set_self (t : Table α) (a : α) (i : Nat) :
    (t.set i a).get? i = (t.get? i).map fun _ => a := by
  simp only [get?, set, List.getElem?_set_self']
  rfl

theorem get?_set_ne (t : Table α) (a : α) {i j : Nat} (h : i ≠ j) :
    (t.set i a).get? j = t.get? j := by
  simp [get?, set, h]

theorem set_set (t : Table α) (i : Nat) (a b : α) : (t.set i a).set i b = t.set i b := by
  simp only [set, List.set_set]

end Table

end LedgerClient
