import Mathlib.Algebra.Order.Group.Int
import Mathlib.Data.List.Sort
import Mathlib.Order.Lattice

/-! Half-open intervals, and the sort-and-compare-neighbours test for overlap.

    Among non-empty intervals sorted by their start, if no two neighbours overlap then no two
    intervals overlap at all (`pairwise_of_isChain`): each one ends before its neighbour starts, and
    the starts only grow. With the sort on top this says that the neighbour test decides pairwise
    disjointness of an arbitrary list (`firstAdjacent_sort_eq_none_iff`).

    On a circle of `n` points an arc runs forward from its start and may pass the origin
    (`Arc.has_iff` cuts it there). -/

namespace Intervals

/-- The half-open interval `[lo, hi)`. -/
structure Stretch (α : Type*) where
  lo : α
  hi : α
  deriving DecidableEq, Repr

variable {α β : Type*} [LinearOrder α]

namespace Stretch

/-- `t` lies in the interval. -/
def Has (a : Stretch α) (t : α) : Prop := a.lo ≤ t ∧ t < a.hi

def Overlaps (a b : Stretch α) : Prop := a.lo < b.hi ∧ b.lo < a.hi

instance (a b : Stretch α) : Decidable (a.Overlaps b) := inferInstanceAs (Decidable (_ ∧ _))

theorem overlaps_comm (a b : Stretch α) : a.Overlaps b ↔ b.Overlaps a := and_comm

/-- Non-empty intervals overlap exactly when they share a point. -/
theorem overlaps_iff {a b : Stretch α} (ha : a.lo < a.hi) (hb : b.lo < b.hi) :
    a.Overlaps b ↔ ∃ t, a.Has t ∧ b.Has t := by
  constructor
  · rintro ⟨h1, h2⟩
    exact ⟨max a.lo b.lo, ⟨le_max_left _ _, max_lt ha h2⟩, ⟨le_max_right _ _, max_lt h1 hb⟩⟩
  · rintro ⟨t, ⟨h1, h2⟩, ⟨h3, h4⟩⟩
    exact ⟨lt_of_le_of_lt h1 h4, lt_of_le_of_lt h3 h2⟩

end Stretch

/-- The first two neighbours of a list that satisfy `p`. -/
def firstAdjacent (p : β → β → Prop) [∀ a b, Decidable (p a b)] : List β → Option (β × β)
  | a :: b :: l => if p a b then some (a, b) else firstAdjacent p (b :: l)
  | _ => none

theorem firstAdjacent_eq_none_iff (p : β → β → Prop) [∀ a b, Decidable (p a b)] :
    ∀ l : List β, firstAdjacent p l = none ↔ l.IsChain fun a b => ¬ p a b
  | [] => by simp [firstAdjacent]
  | [_] => by simp [firstAdjacent]
  | a :: b :: l => by
    have ih := firstAdjacent_eq_none_iff p (b :: l)
    rw [firstAdjacent, List.isChain_cons_cons, ← ih]
    split_ifs with h
    · simp [h]
    · simp [h]

/-- Sorted, non-empty and no two neighbours overlapping: no two overlapping at all. -/
theorem pairwise_of_isChain {f : β → Stretch α} :
    ∀ {l : List β}, (∀ x ∈ l, (f x).lo < (f x).hi) →
      l.Pairwise (fun a b => (f a).lo ≤ (f b).lo) →
      l.IsChain (fun a b => ¬ (f a).Overlaps (f b)) →
      l.Pairwise fun a b => ¬ (f a).Overlaps (f b)
  | [], _, _, _ => List.Pairwise.nil
  | [a], _, _, _ => List.pairwise_singleton _ a
  | a :: b :: l, hne, hs, hc => by
    rw [List.isChain_cons_cons] at hc
    rw [List.pairwise_cons] at hs ⊢
    have ih := pairwise_of_isChain (fun x hx => hne x (List.mem_cons_of_mem _ hx)) hs.2 hc.2
    refine ⟨fun c hcm => ?_, ih⟩
    -- `a` ends before `b` starts, and no later interval starts before `b`.
    have hab : (f a).hi ≤ (f b).lo := by
      by_contra hlt
      rw [not_le] at hlt
      have hb := hne b (by simp)
      exact hc.1 ⟨lt_of_le_of_lt (hs.1 b (by simp)) hb, hlt⟩
    have hbc : (f b).lo ≤ (f c).lo := by
      rcases List.mem_cons.mp hcm with rfl | hcl
      · exact le_rfl
      · exact (List.pairwise_cons.mp hs.2).1 c hcl
    exact fun ho => absurd ho.2 (not_lt.mpr (le_trans hab hbc))

/-- Sorting by start and comparing neighbours decides whether any two intervals overlap. -/
theorem firstAdjacent_sort_eq_none_iff {f : β → Stretch α} {l : List β}
    (hne : ∀ x ∈ l, (f x).lo < (f x).hi) :
    firstAdjacent (fun a b => (f a).Overlaps (f b))
        (l.insertionSort fun a b => (f a).lo ≤ (f b).lo) = none ↔
      l.Pairwise fun a b => ¬ (f a).Overlaps (f b) := by
  have hperm := List.perm_insertionSort (fun a b => (f a).lo ≤ (f b).lo) l
  have hsymm : ∀ {a b : β}, ¬ (f a).Overlaps (f b) → ¬ (f b).Overlaps (f a) := fun h =>
    mt (Stretch.overlaps_comm _ _).mp h
  rw [firstAdjacent_eq_none_iff, ← hperm.pairwise_iff hsymm]
  constructor
  · refine pairwise_of_isChain (fun x hx => hne x (hperm.mem_iff.mp hx)) ?_
    have htot : Std.Total fun a b : β => (f a).lo ≤ (f b).lo := ⟨fun a b => le_total _ _⟩
    have htrans : IsTrans β fun a b => (f a).lo ≤ (f b).lo := ⟨fun _ _ _ => le_trans⟩
    exact List.pairwise_insertionSort _ l
  · exact List.Pairwise.isChain

/-! ### Arcs on a circle -/

/-- An arc of a circle: `len` points from `start` on. -/
structure Arc where
  start : ℤ
  len : ℤ
  deriving DecidableEq, Repr

namespace Arc

/-- The points `0, …, n - 1` of the arc on a circle of `n` points. -/
def points (n : ℤ) (a : Arc) : Set ℤ := {t | 0 ≤ t ∧ t < n ∧ (t - a.start) % n < a.len}

/-- An arc that starts on the circle and is no longer than it: the points up to its end, and those
    it reaches past the origin. -/
theorem mem_points_iff {n : ℤ} {a : Arc} (h0 : 0 ≤ a.start) (h1 : a.start < n) (hlen : a.len ≤ n)
    {t : ℤ} (ht0 : 0 ≤ t) (ht1 : t < n) :
    t ∈ a.points n ↔ (a.start ≤ t ∧ t < a.start + a.len) ∨ t + n < a.start + a.len := by
  have hmod : (t - a.start) % n = if a.start ≤ t then t - a.start else t - a.start + n := by
    split_ifs with h
    · exact Int.emod_eq_of_lt (by omega) (by omega)
    · rw [← Int.add_emod_right]
      exact Int.emod_eq_of_lt (by omega) (by omega)
  simp only [points, Set.mem_ofPred_eq, hmod]
  split_ifs with h <;> omega

end Arc

end Intervals
