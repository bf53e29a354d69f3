import Mathlib.Algebra.Group.Basic
import Mathlib.Algebra.Ring.Nat
import Mathlib.Data.List.Nodup

/-! Maps that remember the order in which their keys were first inserted.

    Overwriting a key keeps its place. An entry of the map is what looking its key up gives
    (`mem_entries_iff`), and a map of lists filled by `push` holds, under each key, what was pushed
    there (`getD_push`). What a tally holds under a key, and over all of them, is what the rows add up to
    (`get_foldl_tally`, `sum_foldl_tally`). -/

/-- Key and value pairs, each key once, oldest first. -/
structure InsertionMap (κ β : Type*) where
  entries : List (κ × β)
  nodup : (entries.map Prod.fst).Nodup
  deriving DecidableEq

namespace InsertionMap

variable {κ β : Type*}

def empty : InsertionMap κ β := ⟨[], List.nodup_nil⟩

variable [DecidableEq κ]

def lookup (k : κ) : List (κ × β) → Option β
  | [] => none
  | e :: es => if e.1 = k then some e.2 else lookup k es

def insertEntry (k : κ) (v : β) : List (κ × β) → List (κ × β)
  | [] => [(k, v)]
  | e :: es => if e.1 = k then (k, v) :: es else e :: insertEntry k v es

theorem mem_keys_insertEntry (k k' : κ) (v : β) : ∀ es : List (κ × β),
    k' ∈ (insertEntry k v es).map Prod.fst ↔ k' = k ∨ k' ∈ es.map Prod.fst
  | [] => by simp [insertEntry]
  | e :: es => by
    have ih := mem_keys_insertEntry k k' v es
    rw [insertEntry]
    split_ifs with h
    · simp [h]
    · rw [List.map_cons, List.mem_cons, ih, List.map_cons, List.mem_cons]
      tauto

theorem nodup_insertEntry (k : κ) (v : β) : ∀ es : List (κ × β),
    (es.map Prod.fst).Nodup → ((insertEntry k v es).map Prod.fst).Nodup
  | [], _ => by simp [insertEntry]
  | e :: es, hn => by
    rw [List.map_cons, List.nodup_cons] at hn
    rw [insertEntry]
    split_ifs with h
    · rw [List.map_cons, List.nodup_cons]
      exact ⟨h ▸ hn.1, hn.2⟩
    · rw [List.map_cons, List.nodup_cons, mem_keys_insertEntry]
      refine ⟨?_, nodup_insertEntry k v es hn.2⟩
      rintro (h' | h')
      · exact h h'
      · exact hn.1 h'

def get? (m : InsertionMap κ β) (k : κ) : Option β := lookup k m.entries

def set (m : InsertionMap κ β) (k : κ) (v : β) : InsertionMap κ β :=
  ⟨insertEntry k v m.entries, nodup_insertEntry k v _ m.nodup⟩

/-- Append to the list stored under a key, starting it if there is none. -/
def push {α : Type*} (m : InsertionMap κ (List α)) (k : κ) (a : α) : InsertionMap κ (List α) :=
  m.set k ((m.get? k).getD [] ++ [a])

@[simp] theorem get?_empty (k : κ) : (empty : InsertionMap κ β).get? k = none := rfl

theorem lookup_insertEntry (k k' : κ) (v : β) : ∀ es : List (κ × β),
    lookup k' (insertEntry k v es) = if k' = k then some v else lookup k' es
  | [] => by
    simp only [insertEntry, lookup, eq_comm]
  | e :: es => by
    have ih := lookup_insertEntry k k' v es
    rw [insertEntry]
    by_cases h : e.1 = k
    · rw [if_pos h]
      by_cases h' : k' = k
      · simp [lookup, h']
      · simp [lookup, h, h', Ne.symm h']
    · rw [if_neg h, lookup, ih]
      by_cases h' : k' = k
      · rw [if_pos h', if_neg (h' ▸ h), if_pos h']
      · simp [lookup, h']

@[simp] theorem get?_set (m : InsertionMap κ β) (k k' : κ) (v : β) :
    (m.set k v).get? k' = if k' = k then some v else m.get? k' := lookup_insertEntry k k' v m.entries

theorem getD_push {α : Type*} (m : InsertionMap κ (List α)) (k k' : κ) (a : α) :
    ((m.push k a).get? k').getD [] =
      (m.get? k').getD [] ++ (if k' = k then [a] else []) := by
  rw [push, get?_set]
  split_ifs with h
  · simp [h]
  · simp

theorem lookup_eq_some_iff {k : κ} {v : β} : ∀ {es : List (κ × β)}, (es.map Prod.fst).Nodup →
    (lookup k es = some v ↔ (k, v) ∈ es)
  | [], _ => by simp [lookup]
  | e :: es, hn => by
    rw [List.map_cons, List.nodup_cons] at hn
    have ih := lookup_eq_some_iff (k := k) (v := v) hn.2
    rw [lookup, List.mem_cons]
    split_ifs with h
    · subst h
      constructor
      · intro hv
        exact .inl (Prod.ext rfl (Option.some.inj hv).symm)
      · rintro (he | hm)
        · rw [← he]
        · exact absurd (List.mem_map_of_mem hm) hn.1
    · rw [ih]
      refine ⟨.inr, ?_⟩
      rintro (rfl | hm)
      · exact absurd rfl h
      · exact hm

theorem mem_entries_iff (m : InsertionMap κ β) {k : κ} {v : β} :
    (k, v) ∈ m.entries ↔ m.get? k = some v := (lookup_eq_some_iff m.nodup).symm

/-- The key and its value are taken away; the others stay where they are. -/
def erase (m : InsertionMap κ β) (k : κ) : InsertionMap κ β :=
  ⟨m.entries.filter fun e => e.1 ≠ k, (List.filter_sublist.map Prod.fst).nodup m.nodup⟩

theorem get?_erase_eq_some {m : InsertionMap κ β} {k k' : κ} {v : β} :
    (m.erase k).get? k' = some v ↔ k' ≠ k ∧ m.get? k' = some v := by
  rw [← mem_entries_iff, ← mem_entries_iff, erase]
  simp [and_comm]

/-- Maps that look the same up hold the same entries, if in another order. -/
theorem perm_entries {m m' : InsertionMap κ β} (h : ∀ k, m.get? k = m'.get? k) : m.entries.Perm m'.entries := by
  rw [List.perm_ext_iff_of_nodup m.nodup.of_map m'.nodup.of_map]
  rintro ⟨k, v⟩
  rw [mem_entries_iff, mem_entries_iff, h]

/-- A sum over the values, when one of them is replaced. -/
theorem sum_insertEntry {M : Type*} [AddCommMonoid M] (f : β → M) (k : κ) (v : β) : ∀ es : List (κ × β),
    ((insertEntry k v es).map fun e => f e.2).sum + (lookup k es).elim 0 f = (es.map fun e => f e.2).sum + f v
  | [] => by simp [insertEntry, lookup]
  | e :: es => by
    have ih := sum_insertEntry f k v es
    rw [insertEntry, lookup]
    split_ifs
    · simp only [List.map_cons, List.sum_cons, Option.elim_some]
      rw [add_comm (f v), add_right_comm, add_comm (f e.2)]
    · simp only [List.map_cons, List.sum_cons, add_assoc, ih]

/-! ### Tallies

    Rows counted under a key, each key from the row that first names it. -/

section Tally
variable {ρ : Type*} (key : ρ → κ) (start : ρ → β) (add : β → ρ → β)

def tally (m : InsertionMap κ β) (r : ρ) : InsertionMap κ β :=
  m.set (key r) (add ((m.get? (key r)).getD (start r)) r)

variable {M : Type*} [AddCancelCommMonoid M] {f : β → M} {w : ρ → M}

omit [DecidableEq κ] in
theorem elim_getD_start (h0 : ∀ r, f (start r) = 0) (r : ρ) (v : Option β) : f (v.getD (start r)) = v.elim 0 f := by
  cases v with
  | none => exact h0 r
  | some v => rfl

theorem sum_tally (h0 : ∀ r, f (start r) = 0) (hadd : ∀ v r, f (add v r) = f v + w r) (m : InsertionMap κ β) (r : ρ) :
    ((m.tally key start add r).entries.map fun e => f e.2).sum = (m.entries.map fun e => f e.2).sum + w r := by
  have hsum := sum_insertEntry f (key r) (add ((m.get? (key r)).getD (start r)) r) m.entries
  rw [hadd, elim_getD_start start h0, ← add_assoc, add_right_comm] at hsum
  exact add_right_cancel hsum

/-- What the values add up to is what the rows do. -/
theorem sum_foldl_tally (h0 : ∀ r, f (start r) = 0) (hadd : ∀ v r, f (add v r) = f v + w r) (rows : List ρ)
    (m : InsertionMap κ β) : ((rows.foldl (tally key start add) m).entries.map fun e => f e.2).sum =
      (m.entries.map fun e => f e.2).sum + (rows.map w).sum := by
  induction rows generalizing m with
  | nil => simp
  | cons r rows ih => rw [List.foldl_cons, ih, sum_tally key start add h0 hadd, List.map_cons, List.sum_cons, add_assoc]

/-- The value under a key is what the rows of that key add up to. -/
theorem get_foldl_tally (h0 : ∀ r, f (start r) = 0) (hadd : ∀ v r, f (add v r) = f v + w r) (rows : List ρ)
    (m : InsertionMap κ β) (k : κ) : ((rows.foldl (tally key start add) m).get? k).elim 0 f =
      (m.get? k).elim 0 f + ((rows.filter fun r => key r = k).map w).sum := by
  induction rows generalizing m with
  | nil => simp
  | cons r rows ih =>
    rw [List.foldl_cons, ih, tally, get?_set]
    by_cases hk : k = key r
    · subst hk
      rw [if_pos rfl, Option.elim_some, hadd, elim_getD_start start h0, List.filter_cons_of_pos (by simp), List.map_cons,
        List.sum_cons, add_assoc]
    · rw [if_neg hk, List.filter_cons_of_neg (by simpa using Ne.symm hk)]

theorem mem_keys_foldl_tally (rows : List ρ) (m : InsertionMap κ β) (k : κ) :
    k ∈ (rows.foldl (tally key start add) m).entries.map Prod.fst ↔
      k ∈ m.entries.map Prod.fst ∨ ∃ r ∈ rows, key r = k := by
  induction rows generalizing m with
  | nil => simp
  | cons r rows ih =>
    rw [List.foldl_cons, ih]
    simp only [tally, set, mem_keys_insertEntry, List.mem_cons, exists_eq_or_imp]
    rw [or_comm (a := k = key r), or_assoc, eq_comm (a := k)]

/-- What every value has from the start, and keeps, it has in the end. -/
theorem entries_foldl_tally {P : κ → β → Prop} (hstart : ∀ r, P (key r) (start r))
    (hadd : ∀ k v r, P k v → P k (add v r)) (rows : List ρ) (m : InsertionMap κ β)
    (hm : ∀ k v, m.get? k = some v → P k v) (k : κ) (v : β)
    (h : (rows.foldl (tally key start add) m).get? k = some v) : P k v := by
  induction rows generalizing m with
  | nil => exact hm k v h
  | cons r rows ih =>
    rw [List.foldl_cons] at h
    refine ih (m.tally key start add r) (fun k' v' h' => ?_) h
    rw [tally, get?_set] at h'
    split_ifs at h' with hk
    · subst hk
      cases h'
      refine hadd _ _ r ?_
      cases hget : m.get? (key r) with
      | none => exact hstart r
      | some v => exact hm _ v hget
    · exact hm k' v' h'

end Tally

end InsertionMap
