import Mathlib.Algebra.Order.Group.Abs
import Mathlib.Data.List.Pairwise
import Redeemo.Lib.Runs
import Redeemo.Redemption.Tables

/-! Concurrent claims of a REUSABLE voucher.

    A call takes its clock reading before the PIN and its advisory lock long after, so calls may
    commit in another order than their readings. Under the lock the call compares its reading with
    the latest redemption there is, and inserts only a reading at least a cooldown later: the
    committed readings grow, each by a cooldown or more. -/

namespace Redeemo.ReusableClaim
open Runs Redemption

/-- The calls of one user for one voucher, with the voucher's cooldown. -/
structure Setup where
  cooldownSeconds : Option ℤ
  pair : Pair
  calls : ℕ → Call

def Setup.effectiveCooldownMs (e : Setup) : ℤ := effectiveCooldownSeconds e.cooldownSeconds * 1000

inductive Phase
  | start
  /-- Past the checks before the PIN, and the PIN itself. -/
  | guarded
  | locked
  /-- Past the check under the lock. -/
  | checked
  | inserted
  | committed
  | failed
  deriving DecidableEq

inductive Act
  | guard | lock | check | insert | commit | abandon
  deriving DecidableEq

/-- The database, and the transaction that holds the advisory lock. -/
structure Store where
  tables : Tables
  holder : Option ℕ

def Setup.row (e : Setup) (i : ℕ) : VoucherRedemption := redemptionData e.pair none (e.calls i)

/-- The cooldown check of call `i` on the tables as they are. -/
def cooldownCheck (e : Setup) (i : ℕ) (t : Tables) : Except AppError Unit :=
  cooldownGuard (t.latestRedeemedAt e.pair) (e.calls i).now e.effectiveCooldownMs

def next (e : Setup) (i : ℕ) (s : Store) (ph : Phase) (a : Act) : Option (Store × Phase) :=
  match ph, a with
  | .start, .guard =>
    match cooldownCheck e i s.tables with
    | .ok () => some (s, .guarded)
    | .error _ => some (s, .failed)
  | .guarded, .lock => if s.holder = none then some ({ s with holder := some i }, .locked) else none
  | .locked, .check =>
    match cooldownCheck e i s.tables with
    | .ok () => some (s, .checked)
    | .error _ => some ({ s with holder := none }, .failed)
  | .checked, .insert =>
    match s.tables.createRedemption (e.row i) with
    | .ok _ => some (s, .inserted)
    | .error _ => some ({ s with holder := none }, .failed)
  | .inserted, .commit =>
    some (⟨{ s.tables with redemptions := e.row i :: s.tables.redemptions }, none⟩, .committed)
  | .committed, _ => none
  | .failed, _ => none
  | _, .abandon => some ({ s with holder := if s.holder = some i then none else s.holder }, .failed)
  | _, _ => none

/-- No call has begun. -/
def initial (t : Tables) : Pool ℕ Store Phase := ⟨⟨t, none⟩, fun _ => .start⟩

/-! ### What a step does -/

/-- The call holds the lock. -/
def Phase.Locked (ph : Phase) : Prop := ph = .locked ∨ ph = .checked ∨ ph = .inserted

/-- The call has passed the check under the lock. -/
def Phase.Checked (ph : Phase) : Prop := ph = .checked ∨ ph = .inserted

/-- A reading at least a cooldown after every redemption of the voucher. -/
def Cooled (e : Setup) (i : ℕ) (t : Tables) : Prop :=
  ∀ r ∈ t.redemptionsOf e.pair, r.redeemedAt + e.effectiveCooldownMs ≤ (e.calls i).now

variable {e : Setup} {i : ℕ} {s s' : Store} {ph ph' : Phase} {a : Act}

theorem cooldownCheck_ok_iff {t : Tables} : cooldownCheck e i t = .ok () ↔ Cooled e i t :=
  Tables.cooldownGuard_ok_iff

/-- A step leaves the tables and goes on without the lock; or takes the free lock; or passes a check
    under it; or commits. -/
theorem next_cases (h : next e i s ph a = some (s', ph')) :
    (s'.tables = s.tables ∧ (s'.holder = s.holder ∨
      ((s.holder = some i ∨ ph.Locked) ∧ s'.holder = none)) ∧ ¬ ph'.Locked) ∨
    (s.holder = none ∧ s' = { s with holder := some i } ∧ ph' = .locked) ∨
    (ph.Locked ∧ s' = s ∧ (ph.Checked ∨ Cooled e i s.tables) ∧ ph'.Locked) ∨
    (ph = .inserted ∧ s' = ⟨{ s.tables with redemptions := e.row i :: s.tables.redemptions }, none⟩ ∧
      ph' = .committed) := by
  have habandon : some ({ s with holder := if s.holder = some i then none else s.holder },
      Phase.failed) = some (s', ph') → s'.tables = s.tables ∧ (s'.holder = s.holder ∨
      ((s.holder = some i ∨ ph.Locked) ∧ s'.holder = none)) ∧ ¬ ph'.Locked := by
    intro h
    cases h
    exact ⟨rfl, (letGo_cases i s.holder).imp_right (.imp_left .inl), by simp [Phase.Locked]⟩
  cases ph with
  | start =>
    cases a with
    | guard =>
      simp only [next] at h
      split at h
      · cases h
        exact .inl ⟨rfl, .inl rfl, by simp [Phase.Locked]⟩
      · cases h
        exact .inl ⟨rfl, .inl rfl, by simp [Phase.Locked]⟩
    | abandon => exact .inl (habandon h)
    | _ => cases h
  | guarded =>
    cases a with
    | lock =>
      simp only [next] at h
      split_ifs at h with hf
      cases h
      exact .inr (.inl ⟨hf, rfl, rfl⟩)
    | abandon => exact .inl (habandon h)
    | _ => cases h
  | locked =>
    cases a with
    | check =>
      simp only [next] at h
      split at h
      · next hok =>
        cases h
        exact .inr (.inr (.inl ⟨.inl rfl, rfl, .inr (cooldownCheck_ok_iff.mp hok), .inr (.inl rfl)⟩))
      · cases h
        exact .inl ⟨rfl, .inr ⟨.inr (.inl rfl), rfl⟩, by simp [Phase.Locked]⟩
    | abandon => exact .inl (habandon h)
    | _ => cases h
  | checked =>
    cases a with
    | insert =>
      simp only [next] at h
      split at h
      · cases h
        exact .inr (.inr (.inl ⟨.inr (.inl rfl), rfl, .inl (.inl rfl), .inr (.inr rfl)⟩))
      · cases h
        exact .inl ⟨rfl, .inr ⟨.inr (.inr (.inl rfl)), rfl⟩, by simp [Phase.Locked]⟩
    | abandon => exact .inl (habandon h)
    | _ => cases h
  | inserted =>
    cases a with
    | commit =>
      cases h
      exact .inr (.inr (.inr ⟨rfl, rfl, rfl⟩))
    | abandon => exact .inl (habandon h)
    | _ => cases h
  | committed => cases h
  | failed => cases h

/-! ### The invariant -/

/-- Redemptions of the voucher a cooldown apart. -/
def Spaced (e : Setup) (t : Tables) : Prop :=
  (t.redemptionsOf e.pair).Pairwise fun r s =>
    e.effectiveCooldownMs ≤ |r.redeemedAt - s.redeemedAt|

/-- A call under the lock holds it; past the check its reading is a cooldown after all others. -/
structure CallInv (e : Setup) (i : ℕ) (s : Store) (ph : Phase) : Prop where
  holds : ph.Locked → s.holder = some i
  cooled : ph.Checked → Cooled e i s.tables

theorem checked_locked (h : ph.Checked) : ph.Locked := .inr h

/-- A reading a cooldown after every redemption keeps them apart. -/
theorem spaced_cons {t : Tables} (hs : Spaced e t) (hc : Cooled e i t) :
    Spaced e { t with redemptions := e.row i :: t.redemptions } := by
  rw [Spaced, Setup.row, Tables.redemptionsOf_redemptionData, List.pairwise_cons]
  refine ⟨fun r hr => ?_, hs⟩
  have hle := hc r hr
  have hrow : (redemptionData e.pair none (e.calls i)).redeemedAt = (e.calls i).now := rfl
  rw [hrow]
  exact le_trans (by omega) (le_abs_self _)

theorem own_step (hj : Spaced e s.tables) (hk : CallInv e i s ph)
    (h : next e i s ph a = some (s', ph')) : Spaced e s'.tables ∧ CallInv e i s' ph' := by
  rcases next_cases h with ⟨ht, -, hnl⟩ | ⟨-, rfl, rfl⟩ | ⟨hl, rfl, hc, -⟩ | ⟨rfl, rfl, rfl⟩
  · rw [ht]
    exact ⟨hj, fun hl => absurd hl hnl, fun hc => absurd (checked_locked hc) hnl⟩
  · exact ⟨hj, fun _ => rfl, by simp [Phase.Checked]⟩
  · exact ⟨hj, fun _ => hk.holds hl, fun _ => hc.elim hk.cooled id⟩
  · exact ⟨spaced_cons hj (hk.cooled (.inr rfl)), by simp [Phase.Locked], by simp [Phase.Checked]⟩

theorem frame_step {j : ℕ} {m : Phase} (hne : i ≠ j) (hk : CallInv e i s ph) (hm : CallInv e j s m)
    (h : next e i s ph a = some (s', ph')) : CallInv e j s' m := by
  rcases next_cases h with ⟨ht, hho, -⟩ | ⟨hfree, rfl, -⟩ | ⟨-, rfl, -, -⟩ | ⟨rfl, rfl, -⟩
  · refine ⟨fun hl => ?_, by rw [Cooled, ht]; exact hm.cooled⟩
    have hj := hm.holds hl
    rcases hho with hho | ⟨hi | hi, -⟩
    · rw [hho, hj]
    · rw [hj] at hi
      exact absurd (Option.some.inj hi).symm hne
    · rw [hk.holds hi] at hj
      exact absurd (Option.some.inj hj) hne
  · refine ⟨fun hl => ?_, hm.cooled⟩
    rw [hm.holds hl] at hfree
    cases hfree
  · exact hm
  · -- The committing call holds the lock, so `j` does not.
    have hnl : ¬ m.Locked := by
      intro hl
      have hj := hm.holds hl
      rw [hk.holds (.inr (.inr rfl))] at hj
      exact hne (Option.some.inj hj)
    exact ⟨fun hl => absurd hl hnl, fun hc => absurd (checked_locked hc) hnl⟩

/-- CORRECT: after every interleaving, two redemptions of the voucher by the user are an effective
    cooldown apart, whatever order their calls read their clocks and committed in. -/
theorem reusable_claim_correct (e : Setup) (t₀ : Tables) (as : List (ℕ × Act))
    (s : Pool ℕ Store Phase) (h0 : Spaced e t₀)
    (hrun : run (poolStep (next e)) (initial t₀) as = some s) :
    (s.store.tables.redemptionsOf e.pair).Pairwise fun r₁ r₂ =>
      effectiveCooldownSeconds e.cooldownSeconds * 1000 ≤ |r₁.redeemedAt - r₂.redeemedAt| := by
  have hinit : PoolInv (fun x : Store => Spaced e x.tables) (CallInv e) (initial t₀) :=
    ⟨h0, fun i => ⟨by simp [initial, Phase.Locked], by simp [initial, Phase.Checked]⟩⟩
  exact (pool_invariant (J := fun x : Store => Spaced e x.tables) (K := CallInv e)
    (fun _ _ _ _ _ _ hj hk h => own_step hj hk h)
    (fun _ _ _ _ _ _ _ _ hne _ hk hm h => frame_step hne hk hm h) hinit hrun).1

/-- Three calls at 0, 2 000 and 7 000 seconds, on a voucher whose cooldown is below the floor. -/
def threeCalls : Setup :=
  { cooldownSeconds := some 60
    pair := ("user", "voucher")
    calls := fun i => if i = 0 then ⟨0, "branch", "AAAA", 5⟩
      else if i = 1 then ⟨2000000, "branch", "BBBB", 5⟩ else ⟨7000000, "branch", "CCCC", 5⟩ }

/-- The second reading comes to its claim after the third has committed, and loses. -/
def lateClaim : List (ℕ × Act) :=
  [(0, .guard), (0, .lock), (0, .check), (0, .insert), (0, .commit), (1, .guard), (2, .guard),
    (2, .lock), (2, .check), (2, .insert), (2, .commit), (1, .lock), (1, .check)]

theorem reusable_claim_correct_late : ∃ s,
    run (poolStep (next threeCalls)) (initial ⟨[], fun _ => none⟩) lateClaim = some s ∧
      s.proc 1 = .failed ∧ s.proc 2 = .committed ∧
      (s.store.tables.redemptionsOf threeCalls.pair).Pairwise fun r₁ r₂ =>
        effectiveCooldownSeconds threeCalls.cooldownSeconds * 1000
          ≤ |r₁.redeemedAt - r₂.redeemedAt| := by
  obtain ⟨s, hs, h1, h2⟩ : ∃ s,
      run (poolStep (next threeCalls)) (initial ⟨[], fun _ => none⟩) lateClaim = some s ∧
        s.proc 1 = .failed ∧ s.proc 2 = .committed := ⟨_, rfl, rfl, rfl⟩
  exact ⟨s, hs, h1, h2, reusable_claim_correct threeCalls ⟨[], fun _ => none⟩ lateClaim s List.Pairwise.nil hs⟩

end Redeemo.ReusableClaim
