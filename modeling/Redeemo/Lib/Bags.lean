import Mathlib.Algebra.BigOperators.Group.Finset.Basic
import Mathlib.Data.Multiset.Sort
import Mathlib.Data.Prod.Lex
import Mathlib.Algebra.Ring.Nat

/-! Bags of rows and the queries that group them.

    `keys` are the distinct values of a column, `members` the rows of one of them. What is counted group by group adds
    up to what is counted over all rows (`sum_countP`). `ascending` and `ranking` are two orders for the groups: by key,
    and by size, the largest first. -/

namespace Bags

variable {α κ : Type*} (key : α → κ) (s : Multiset α)

section
variable [DecidableEq κ]

/-- `SELECT DISTINCT`. -/
def keys : Multiset κ := (s.map key).dedup

/-- One group of `GROUP BY`. -/
def members (k : κ) : Multiset α := s.filter fun a => key a = k

theorem mem_keys {k : κ} : k ∈ keys key s ↔ ∃ a ∈ s, key a = k := by
  rw [keys, Multiset.mem_dedup, Multiset.mem_map]

theorem nodup_keys : (keys key s).Nodup := Multiset.nodup_dedup _

/-- Every row is in one group. -/
theorem sum_countP (p : α → Prop) [DecidablePred p] :
    ((keys key s).map fun k => (members key s k).countP p).sum = s.countP p := by
  have hcount (k : κ) : (members key s k).countP p = ((s.filter p).map key).count k := by
    rw [members, Multiset.countP_filter, Multiset.count_map, Multiset.filter_filter, Multiset.countP_eq_card_filter]
    congr 1
    refine Multiset.filter_congr fun a _ => ?_
    rw [and_comm, eq_comm]
  have hsub : ∀ k ∈ (s.filter p).map key, k ∈ (s.map key).toFinset := by
    intro k hk
    obtain ⟨a, ha, rfl⟩ := Multiset.mem_map.mp hk
    rw [Multiset.mem_toFinset]
    exact Multiset.mem_map_of_mem key (Multiset.mem_of_mem_filter ha)
  calc
    ((keys key s).map fun k => (members key s k).countP p).sum
        = ((keys key s).map fun k => ((s.filter p).map key).count k).sum :=
          congrArg Multiset.sum (Multiset.map_congr rfl fun k _ => hcount k)
    _ = ∑ k ∈ (s.map key).toFinset, ((s.filter p).map key).count k := rfl
    _ = Multiset.card ((s.filter p).map key) := Multiset.sum_count_eq_card hsub
    _ = s.countP p := by rw [Multiset.card_map, Multiset.countP_eq_card_filter]

theorem sum_card : ((keys key s).map fun k => Multiset.card (members key s k)).sum = Multiset.card s := by
  have h := sum_countP key s fun _ => True
  simp only [Multiset.countP_True] at h
  exact h

end

section
variable [LinearOrder κ]

/-- `ORDER BY` the key. -/
def ascending : List κ := (keys key s).sort

/-- `ORDER BY COUNT(*) DESC`, and by the key where the counts are equal. -/
def ranking : List κ :=
  ((keys key s).map fun k => toLex (OrderDual.toDual (Multiset.card (members key s k)), k)).sort.map
    fun x => (ofLex x).2

theorem coe_ascending : (ascending key s : Multiset κ) = keys key s := Multiset.sort_eq _ _

theorem coe_ranking : (ranking key s : Multiset κ) = keys key s := by
  rw [ranking, ← Multiset.map_coe, Multiset.sort_eq, Multiset.map_map]
  exact Multiset.map_id _

end

theorem sort_pair (r : κ → κ → Prop) [DecidableRel r] [IsTrans κ r] [Std.Antisymm r] [Std.Total r] {a b : κ}
    (h : r a b) : Multiset.sort {a, b} r = [a, b] := by
  have hsort := Multiset.sort_cons (r := r) a {b} (by simpa using h)
  rw [Multiset.sort_singleton] at hsort
  exact hsort

/-- Rows may be dropped before a query if it drops what becomes of them. -/
theorem filter_filterMap_of_imp {β : Type*} {f : α → Option β} {p : β → Prop} {q : α → Prop} [DecidablePred p]
    [DecidablePred q] (h : ∀ a, ∀ b ∈ f a, p b → q a) (s : Multiset α) :
    ((s.filter q).filterMap f).filter p = (s.filterMap f).filter p := by
  rw [Multiset.filterMap_filter, Multiset.filter_filterMap, Multiset.filter_filterMap]
  congr 1
  funext a
  by_cases hq : q a
  · rw [if_pos hq]
  · rw [if_neg hq]
    cases hf : f a with
    | none => rfl
    | some b =>
      have hp : ¬ p b := fun hp => hq (h a b hf hp)
      exact (Option.filter_some_neg (p := fun b => decide (p b)) (decide_eq_false hp)).symm

/-- An order in which a bag is listed. -/
structure Order where
  list {κ : Type} [LinearOrder κ] : Multiset κ → List κ
  coe_list {κ : Type} [LinearOrder κ] (s : Multiset κ) : (list s : Multiset κ) = s

def Order.ascending : Order := ⟨fun s => s.sort, fun s => Multiset.sort_eq s _⟩

def Order.descending : Order := ⟨fun s => s.sort fun a b => b ≤ a, fun s => Multiset.sort_eq s _⟩

section
variable [DecidableEq κ] {l : List κ} {key s}

/-- A list of all the groups counts every row once. -/
theorem sum_countP_of_coe (h : (l : Multiset κ) = keys key s) (p : α → Prop) [DecidablePred p] :
    (l.map fun k => (members key s k).countP p).sum = s.countP p := by
  rw [← sum_countP key s p, ← h, Multiset.map_coe, Multiset.sum_coe]

theorem sum_card_of_coe (h : (l : Multiset κ) = keys key s) :
    (l.map fun k => Multiset.card (members key s k)).sum = Multiset.card s := by
  rw [← sum_card key s, ← h, Multiset.map_coe, Multiset.sum_coe]

theorem nodup_of_coe (h : (l : Multiset κ) = keys key s) : l.Nodup := by
  rw [← Multiset.coe_nodup, h]
  exact nodup_keys key s

theorem mem_of_coe (h : (l : Multiset κ) = keys key s) {k : κ} : k ∈ l ↔ ∃ a ∈ s, key a = k := by
  rw [← Multiset.mem_coe, h, mem_keys]

end

end Bags
