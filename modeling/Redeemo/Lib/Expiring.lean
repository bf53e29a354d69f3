import Mathlib.Data.Nat.Cast.WithTop
import Mathlib.Logic.Function.Basic

/-! Key-value stores whose entries expire.

    The store has a clock, and an entry is there as long as the clock has not passed its expiry. A key that
    outlives another is there whenever the other one is (`Outlives.get`); it does so once it is written with at
    least the time that the other has left (`outlives_setEx`). -/

structure ExpiringEntry (β : Type*) where
  value : β
  /-- `⊤` for an entry that stays. -/
  expiresAt : WithTop ℕ

structure Expiring (κ β : Type*) where
  entries : κ → Option (ExpiringEntry β)
  now : ℕ

namespace Expiring

variable {κ β : Type*}

/-- `GET`. -/
def get (s : Expiring κ β) (k : κ) : Option β :=
  match s.entries k with
  | none => none
  | some e => if s.now ≤ e.expiresAt then some e.value else none

/-- Time passes. -/
def advance (s : Expiring κ β) (d : ℕ) : Expiring κ β := { s with now := s.now + d }

section Writes

variable [DecidableEq κ]

/-- `SET … EX`. -/
def setEx (s : Expiring κ β) (k : κ) (v : β) (ttl : ℕ) : Expiring κ β :=
  { s with entries := Function.update s.entries k (some ⟨v, (s.now + ttl : ℕ)⟩) }

/-- When the key expires, `⊤` if it is not there. -/
def expiry (s : Expiring κ β) (k : κ) : WithTop ℕ :=
  match s.entries k with
  | none => ⊤
  | some e => if s.now ≤ e.expiresAt then e.expiresAt else ⊤

/-- `SET … KEEPTTL`: a key that is not there is written to stay. -/
def setKeepTtl (s : Expiring κ β) (k : κ) (v : β) : Expiring κ β :=
  { s with entries := Function.update s.entries k (some ⟨v, s.expiry k⟩) }

/-- `DEL`. -/
def del (s : Expiring κ β) (k : κ) : Expiring κ β := { s with entries := Function.update s.entries k none }

end Writes

/-- `KEYS`, of those that match. -/
def keys (s : Expiring κ β) (pattern : κ → Bool) (k : κ) : Bool := pattern k && (s.get k).isSome

/-- `DEL`, of many keys. -/
def delAll (s : Expiring κ β) (found : κ → Bool) : Expiring κ β :=
  { s with entries := fun k => if found k = true then none else s.entries k }

/-- The entry of the key has at most this long left. -/
def Within (ttl : ℕ) (s : Expiring κ β) (k : κ) : Prop :=
  ∀ e, s.entries k = some e → e.expiresAt ≤ (s.now + ttl : ℕ)

/-- `k'` stays at least as long as `k`. -/
def Outlives (s : Expiring κ β) (k' k : κ) : Prop :=
  ∀ e, s.entries k = some e → ∃ e', s.entries k' = some e' ∧ e.expiresAt ≤ e'.expiresAt

variable {s : Expiring κ β} {k k' l : κ} {v : β} {ttl d : ℕ}

theorem get_eq_some : s.get k = some v ↔ ∃ e, s.entries k = some e ∧ e.value = v ∧ s.now ≤ e.expiresAt := by
  rw [get]
  cases s.entries k with
  | none =>
    constructor
    · intro h
      cases h
    · rintro ⟨e, he, -⟩
      cases he
  | some e =>
    constructor
    · intro h
      by_cases hle : s.now ≤ e.expiresAt
      · exact ⟨e, rfl, Option.some.inj ((if_pos hle).symm.trans h), hle⟩
      · cases (if_neg hle).symm.trans h
    · rintro ⟨e', he, rfl, hle⟩
      cases he
      exact if_pos hle

theorem get_eq_none (h : s.entries k = none) : s.get k = none := by rw [get, h]

theorem get_of_advance (h : (s.advance d).get k = some v) : s.get k = some v := by
  obtain ⟨e, he, hev, hle⟩ := get_eq_some.mp h
  have hnow : (s.now : WithTop ℕ) ≤ (s.now + d : ℕ) := WithTop.coe_le_coe.mpr (Nat.le_add_right s.now d)
  exact get_eq_some.mpr ⟨e, he, hev, hnow.trans hle⟩

theorem get_advance (h : s.get k = none) : (s.advance d).get k = none := by
  rw [Option.eq_none_iff_forall_ne_some] at h ⊢
  exact fun v hv => h v (get_of_advance hv)

theorem entries_delAll {found : κ → Bool} (h : found k = false) : (s.delAll found).entries k = s.entries k :=
  if_neg (Bool.eq_false_iff.mp h)

theorem get_delAll_of_found {found : κ → Bool} (h : found k = true) : (s.delAll found).get k = none :=
  get_eq_none (if_pos h)

theorem get_of_delAll {found : κ → Bool} (h : (s.delAll found).get k = some v) : s.get k = some v := by
  cases hfound : found k with
  | true => cases (get_delAll_of_found hfound).symm.trans h
  | false =>
    rw [get, entries_delAll hfound] at h
    exact h

theorem get_delAll {found : κ → Bool} (h : s.get k = none) : (s.delAll found).get k = none := by
  rw [Option.eq_none_iff_forall_ne_some] at h ⊢
  exact fun v hv => h v (get_of_delAll hv)

/-- A key that is not found is not there. -/
theorem get_of_keys {pattern : κ → Bool} (h : s.keys pattern k = false) (hk : pattern k = true) : s.get k = none := by
  rw [keys, hk, Bool.true_and, Option.isSome_eq_false_iff, Option.isNone_iff_eq_none] at h
  exact h

theorem Outlives.get (h : s.Outlives k' k) (hv : s.get k = some v) : ∃ v', s.get k' = some v' := by
  obtain ⟨e, he, -, hle⟩ := get_eq_some.mp hv
  obtain ⟨e', he', hee⟩ := h e he
  exact ⟨e'.value, get_eq_some.mpr ⟨e', he', rfl, hle.trans hee⟩⟩

theorem outlives_of_none (h : s.entries k = none) : s.Outlives k' k := by
  intro e he
  rw [h] at he
  cases he

theorem Outlives.advance (h : s.Outlives k' k) : (s.advance d).Outlives k' k := h

theorem Within.advance (h : s.Within ttl k) : (s.advance d).Within ttl k := by
  intro e he
  exact (h e he).trans (WithTop.coe_le_coe.mpr (Nat.add_le_add_right (Nat.le_add_right s.now d) ttl))

variable [DecidableEq κ]

@[simp] theorem entries_setEx_self : (s.setEx k v ttl).entries k = some ⟨v, (s.now + ttl : ℕ)⟩ :=
  Function.update_self ..

theorem entries_setEx_of_ne (h : l ≠ k) : (s.setEx k v ttl).entries l = s.entries l := Function.update_of_ne h ..

@[simp] theorem entries_setKeepTtl_self : (s.setKeepTtl k v).entries k = some ⟨v, s.expiry k⟩ :=
  Function.update_self ..

@[simp] theorem entries_del_self : (s.del k).entries k = none := Function.update_self ..

theorem entries_del_of_ne (h : l ≠ k) : (s.del k).entries l = s.entries l := Function.update_of_ne h ..

theorem entries_del_eq_some {e : ExpiringEntry β} (h : (s.del k).entries l = some e) : s.entries l = some e := by
  rcases eq_or_ne l k with rfl | hlk
  · rw [entries_del_self] at h
    cases h
  · rwa [entries_del_of_ne hlk] at h

theorem entries_del_eq_none (h : s.entries l = none) : (s.del k).entries l = none := by
  by_contra hsome
  obtain ⟨e, he⟩ := Option.ne_none_iff_exists'.mp hsome
  cases h.symm.trans (entries_del_eq_some he)

@[simp] theorem get_setEx_self : (s.setEx k v ttl).get k = some v :=
  get_eq_some.mpr ⟨_, entries_setEx_self, rfl, WithTop.coe_le_coe.mpr (Nat.le_add_right s.now ttl)⟩

@[simp] theorem get_del_self : (s.del k).get k = none := get_eq_none entries_del_self

theorem get_setEx_of_ne (h : l ≠ k) : (s.setEx k v ttl).get l = s.get l := by
  rw [get, get, entries_setEx_of_ne h]
  rfl

theorem get_del_of_ne (h : l ≠ k) : (s.del k).get l = s.get l := by
  rw [get, get, entries_del_of_ne h]
  rfl

theorem get_of_del (h : (s.del k).get l = some v) : s.get l = some v := by
  obtain ⟨e, he, hev, hle⟩ := get_eq_some.mp h
  exact get_eq_some.mpr ⟨e, entries_del_eq_some he, hev, hle⟩

theorem get_del (h : s.get l = none) : (s.del k).get l = none := by
  rw [Option.eq_none_iff_forall_ne_some] at h ⊢
  exact fun v hv => h v (get_of_del hv)

theorem Within.del (h : s.Within ttl l) : (s.del k).Within ttl l := fun e he => h e (entries_del_eq_some he)

theorem Within.setEx (h : s.Within ttl l) : (s.setEx k v ttl).Within ttl l := by
  intro e he
  rcases eq_or_ne l k with rfl | hlk
  · rw [entries_setEx_self] at he
    cases he
    exact le_rfl
  · rw [entries_setEx_of_ne hlk] at he
    exact h e he

/-- Deleting any key but the one that stays. -/
theorem Outlives.del (h : s.Outlives k' k) (hl : k' ≠ l) : (s.del l).Outlives k' k := by
  intro e he
  obtain ⟨e', he', hee⟩ := h e (entries_del_eq_some he)
  exact ⟨e', by rw [entries_del_of_ne hl, he'], hee⟩

/-- Writing any other key. -/
theorem Outlives.setEx (h : s.Outlives k' k) (hl : k' ≠ l) (hkl : k ≠ l) : (s.setEx l v ttl).Outlives k' k := by
  intro e he
  rw [entries_setEx_of_ne hkl] at he
  obtain ⟨e', he', hee⟩ := h e he
  exact ⟨e', by rw [entries_setEx_of_ne hl, he'], hee⟩

theorem outlives_setEx (h : s.Within ttl k) (hk : k ≠ k') : (s.setEx k' v ttl).Outlives k' k := by
  intro e he
  rw [entries_setEx_of_ne hk] at he
  exact ⟨_, entries_setEx_self, h e he⟩

end Expiring
