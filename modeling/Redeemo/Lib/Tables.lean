import Mathlib.Logic.Function.Basic
import Mathlib.Tactic.Common

/-! Tables that only grow.

    What is made gets the next number and keeps it; a row may change, and is never taken away. -/

structure Table (α : Type*) where
  next : ℕ
  row : ℕ → Option α
  none_iff : ∀ n, row n = none ↔ next ≤ n

namespace Table

variable {α : Type*} {t : Table α} {n m : ℕ} {a b : α} {f : α → α}

def empty : Table α := ⟨0, fun _ => none, fun n => iff_of_true rfl (Nat.zero_le n)⟩

/-- The new row has the number `t.next`. -/
def make (t : Table α) (a : α) : Table α where
  next := t.next + 1
  row := Function.update t.row t.next (some a)
  none_iff n := by
    have hn := t.none_iff n
    rw [Function.update_apply]
    split_ifs <;> grind

/-- A row that is not there stays away. -/
def modify (t : Table α) (n : ℕ) (f : α → α) : Table α where
  next := t.next
  row := Function.update t.row n ((t.row n).map f)
  none_iff m := by
    rw [Function.update_apply]
    split_ifs with h
    · rw [Option.map_eq_none_iff, h, t.none_iff]
    · exact t.none_iff m

@[simp, grind =] theorem next_make : (t.make a).next = t.next + 1 := rfl

@[simp, grind =] theorem next_modify : (t.modify n f).next = t.next := rfl

theorem exists_row (h : n < t.next) : ∃ a, t.row n = some a := by
  refine Option.ne_none_iff_exists'.mp fun hnone => ?_
  have := (t.none_iff n).mp hnone
  omega

/-- The new row, and the old ones. -/
@[grind =] theorem row_make : (t.make a).row n = if n = t.next then some a else t.row n := Function.update_apply ..

/-- The row that has changed, and the others. -/
@[grind =] theorem row_modify : (t.modify n f).row m = if m = n then (t.row m).map f else t.row m := by
  rw [modify]
  dsimp only
  rw [Function.update_apply]
  split_ifs with h
  · rw [h]
  · rfl

end Table
