import Mathlib.Logic.Relation
import Redeemo.Redemption.Suspension
import Redeemo.Subscription.Renewal

/-! The histories of redemptions that the screens may come upon.

    A flag that is set was set by a redemption, which lies between the start of its cycle and now (`Backed`). Claims,
    resets and refunds keep this, in whatever order their transactions are committed. -/

namespace Redeemo.VoucherScreens
open CycleWindows Fallible Redemption

/-! ### Histories -/

/-- What a transaction, a renewal or a suspension does to the tables by the time `now`. The gates of a call have read
    some tables `t₀`, not necessarily those that its claim finds. -/
inductive Step (now : ℤ) : Tables → Tables → Prop
  | claim {cat : Catalog} {t₀ t t' : Tables} {userId voucherId branchId : String} {el : Eligible} {c : Call} :
      eligibility cat t₀ userId voucherId branchId c.now = .ok el → c.now ≤ now →
        claim el t (userId, voucherId) c = .ok t' → Step now t t'
  /-- The second transaction for a cycle voucher. -/
  | again {cat : Catalog} {t₀ t t' : Tables} {userId voucherId branchId : String} {el : Eligible} {c : Call} :
      eligibility cat t₀ userId voucherId branchId c.now = .ok el → c.now ≤ now →
        claimAgain t (userId, voucherId) el.cycleStart c = .ok t' → Step now t t'
  | reset (t : Tables) (userId : String) (at' : ℤ) : at' ≤ now → Step now t (Renewal.resetVoucherCycleForUser userId at' t)
  | refund (t : Tables) (r : VoucherRedemption) : Step now t (Suspension.refundCycle t r)

/-- The histories from the empty tables on. -/
def Reachable (now : ℤ) (t : Tables) : Prop := Relation.ReflTransGen (Step now) ⟨[], fun _ => none⟩ t

/-- Nothing was redeemed after `now`, and each flag was set by a redemption of its cycle. -/
structure Backed (now : ℤ) (t : Tables) : Prop where
  past : ∀ r ∈ t.redemptions, r.redeemedAt ≤ now
  flagged : ∀ pair, ∀ state ∈ t.cycleStates pair, state.isRedeemedInCurrentCycle = true →
    ∃ r ∈ t.redemptionsOf pair, state.cycleStartDate ≤ r.redeemedAt

section
variable {now : ℤ} {t t' : Tables} {pair : Pair} {c : Call} {el : Eligible} {key : Option ℤ} {cycleStart : ℤ}

/-! ### What is kept -/

theorem Backed.of_redemption (h : Backed now t) (hc : c.now ≤ now) :
    Backed now { t with redemptions := redemptionData pair key c :: t.redemptions } where
  past r hr := by
    rcases List.mem_cons.mp hr with rfl | hr
    · exact hc
    · exact h.past r hr
  flagged q state hs hf := by
    obtain ⟨r, hr, hle⟩ := h.flagged q state hs hf
    obtain ⟨hmem, hpair⟩ := List.mem_filter.mp hr
    exact ⟨r, List.mem_filter.mpr ⟨List.mem_cons_of_mem _ hmem, hpair⟩, hle⟩

/-- A claim of a cycle voucher sets the flag of its own pair, with its redemption. -/
theorem Backed.of_cycle (h : Backed now t) (hc : c.now ≤ now) (hstart : cycleStart ≤ c.now) :
    Backed now ⟨redemptionData pair none c :: t.redemptions,
      Function.update t.cycleStates pair (some (claimData cycleStart c.now))⟩ := by
  have hstored : Backed now { t with redemptions := redemptionData pair none c :: t.redemptions } := h.of_redemption hc
  refine ⟨hstored.past, fun q state hs hf => ?_⟩
  by_cases hq : q = pair
  · subst hq
    simp only [Function.update_self, Option.mem_def, Option.some.injEq] at hs
    subst hs
    refine ⟨redemptionData q none c, ?_, hstart⟩
    rw [Tables.redemptionsOf_redemptionData]
    exact List.mem_cons_self
  · have hother : t.cycleStates q = some state := (Function.update_of_ne hq ..).symm.trans hs
    exact hstored.flagged q state hother hf

/-- A flag that is cleared, or a row that stays as it is, needs nothing new. -/
theorem Backed.of_states (h : Backed now t) {states : Pair → Option CycleState}
    (hs : ∀ pair, ∀ state ∈ states pair, state.isRedeemedInCurrentCycle = true → state ∈ t.cycleStates pair) :
    Backed now { t with cycleStates := states } where
  past := h.past
  flagged q state hstate hf := h.flagged q state (hs q state hstate hf) hf

theorem createRedemption_stored {data : VoucherRedemption} (h : t.createRedemption data = .ok t') :
    t' = { t with redemptions := data :: t.redemptions } := (Tables.createRedemption_eq_ok h).1

theorem claimCycleState_cases (t : Tables) (pair : Pair) (cycleStart now : ℤ) :
    t.claimCycleState pair cycleStart now = (1, t.setCycleState pair (claimData cycleStart now)) ∨
      t.claimCycleState pair cycleStart now = (0, t) := by
  rw [Tables.claimCycleState]
  split
  · exact .inr rfl
  · split_ifs
    · exact .inl rfl
    · exact .inr rfl

theorem createCycleState_stored {state : CycleState} (h : t.createCycleState pair state = .ok t') :
    t' = t.setCycleState pair state := by
  rw [Tables.createCycleState.eq_def] at h
  split at h
  · cases h
  · cases h
    rfl

theorem updateOrCreate_stored {now : ℤ} (h : updateOrCreate t pair cycleStart now = .ok t') :
    t' = t.setCycleState pair (claimData cycleStart now) := by
  rcases claimCycleState_cases t pair cycleStart now with hc | hc
  · simp only [updateOrCreate, hc] at h
    cases h
    rfl
  · simp only [updateOrCreate, hc] at h
    exact createCycleState_stored h

theorem claimOrCreate_stored (h : claimOrCreate t pair cycleStart c = .ok t') :
    t' = ⟨redemptionData pair none c :: t.redemptions,
      Function.update t.cycleStates pair (some (claimData cycleStart c.now))⟩ := by
  obtain ⟨t₁, hclaimed, hstored⟩ := bind_ok_iff.mp h
  rw [createRedemption_stored hstored, updateOrCreate_stored hclaimed]
  rfl

theorem claimAgain_stored (h : claimAgain t pair cycleStart c = .ok t') :
    t' = ⟨redemptionData pair none c :: t.redemptions,
      Function.update t.cycleStates pair (some (claimData cycleStart c.now))⟩ := by
  rcases claimCycleState_cases t pair cycleStart c.now with hc | hc
  · simp only [claimAgain, hc] at h
    split at h
    · cases h
    · split at h
      · next t₁ hstored =>
        cases h
        rw [createRedemption_stored hstored]
        rfl
      · cases h
  · simp only [claimAgain, hc] at h
    cases h

/-- What a claim stores: its redemption, and for a cycle voucher the flag with the start of the cycle. -/
theorem claim_stored (h : claim el t pair c = .ok t') :
    (∃ key, t' = { t with redemptions := redemptionData pair key c :: t.redemptions }) ∨
      t' = ⟨redemptionData pair none c :: t.redemptions,
        Function.update t.cycleStates pair (some (claimData el.cycleStart c.now))⟩ := by
  rw [claim] at h
  split at h
  · obtain ⟨_, -, h⟩ := bind_ok_iff.mp h
    split at h
    · next t₁ hstored =>
      cases h
      exact .inl ⟨none, createRedemption_stored hstored⟩
    · cases h
  · rw [claimWindow] at h
    split at h
    · next t₁ hstored =>
      cases h
      exact .inl ⟨_, createRedemption_stored hstored⟩
    · split_ifs at h
      exact absurd h throwWithNext_ne_ok
  · rw [claimCycle] at h
    split at h
    · next t₁ hstored =>
      cases h
      exact .inr (claimOrCreate_stored hstored)
    · exact .inr (claimAgain_stored h)

theorem cycleStart_le {cat : Catalog} {t₀ : Tables} {userId voucherId branchId : String}
    (h : eligibility cat t₀ userId voucherId branchId c.now = .ok el) : el.cycleStart ≤ c.now := by
  obtain ⟨sub, -, hstart⟩ := (eligibility_ok h).cycle
  rw [hstart]
  exact (cycleWindow_contains _ (Int.natCast_nonneg _)).1

theorem mem_refundCycle {r : VoucherRedemption} {state : CycleState} {q : Pair}
    (h : state ∈ (Suspension.refundCycle t r).cycleStates q) (hf : state.isRedeemedInCurrentCycle = true) :
    state ∈ t.cycleStates q := by
  rw [Suspension.refundCycle] at h
  split_ifs at h with hlatest
  · by_cases hq : q = Suspension.pairOf r
    · subst hq
      simp only [Function.update_self, Option.mem_def] at h
      obtain ⟨before, hbefore, rfl⟩ := Option.map_eq_some_iff.mp h
      rw [Suspension.clearFlag] at hf ⊢
      split_ifs at hf ⊢ with hset
      exact hbefore
    · exact (Function.update_of_ne hq ..).symm.trans h
  · exact h

theorem mem_reset {userId : String} {at' : ℤ} {state : CycleState} {q : Pair}
    (h : state ∈ (Renewal.resetVoucherCycleForUser userId at' t).cycleStates q)
    (hf : state.isRedeemedInCurrentCycle = true) : state ∈ t.cycleStates q := by
  obtain ⟨before, hbefore, rfl⟩ := Option.map_eq_some_iff.mp h
  split_ifs at hf ⊢ with hset
  exact hbefore

theorem backed_step (h : Backed now t) (hs : Step now t t') : Backed now t' := by
  cases hs with
  | claim hel hc hclaim =>
    rcases claim_stored hclaim with ⟨key, rfl⟩ | rfl
    · exact h.of_redemption hc
    · exact h.of_cycle hc (cycleStart_le hel)
  | again hel hc hclaim =>
    rw [claimAgain_stored hclaim]
    exact h.of_cycle hc (cycleStart_le hel)
  | reset _ userId at' _ => exact h.of_states fun q state hstate hf => mem_reset hstate hf
  | refund _ r =>
    have hkept : (Suspension.refundCycle t r).redemptions = t.redemptions := by
      rw [Suspension.refundCycle]
      split_ifs <;> rfl
    have hstates : Backed now { t with cycleStates := (Suspension.refundCycle t r).cycleStates } :=
      h.of_states fun q state hstate hf => mem_refundCycle hstate hf
    rwa [← hkept] at hstates

theorem Reachable.backed (h : Reachable now t) : Backed now t := by
  induction h with
  | refl =>
    constructor
    · intro r hr
      exact absurd hr List.not_mem_nil
    · intro pair state hstate
      exact absurd hstate (Option.not_mem_none state)
  | tail _ hs ih => exact backed_step ih hs

/-- A call alone is such a step, if it stores anything. -/
theorem createRedemption_steps (cat : Catalog) (decrypt : String → Except DecryptFault String)
    (redemptionCode userId : String) (data : Request) {at' : ℕ} (hat : (at' : ℤ) ≤ now) (w : World) :
    Relation.ReflTransGen (Step now) w.tables
      (createRedemption cat decrypt redemptionCode userId data at' w).2.tables := by
  rcases createRedemption_tables cat decrypt redemptionCode userId data at' w with
    hsame | ⟨el, c, t', hel, hc, hclaim, he⟩
  · rw [hsame]
  · have hnow : c.now = at' := by rw [hc]
    rw [← hnow] at hel hat
    rw [he]
    exact .single (.claim hel hat hclaim)

/-- A sweep is one such step for each row. -/
theorem refundInflightCycles_steps (cat : Catalog) (t : Tables) (merchantId : String) (reached : ℕ) :
    Relation.ReflTransGen (Step now) t (Suspension.refundInflightCycles cat t merchantId reached) := by
  rw [Suspension.refundInflightCycles]
  generalize (Suspension.inflight cat t merchantId).take reached = rows
  induction rows generalizing t with
  | nil => exact .refl
  | cons r rows ih => exact .head (.refund t r) (ih _)

end

end Redeemo.VoucherScreens
