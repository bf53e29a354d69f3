import Redeemo.Lib.Runs
import Redeemo.Redemption.Claims

/-! Renewals and redemptions of cycle vouchers.

    `resetVoucherCycleForUser` clears the redeemed flag of a user's cycle states when Stripe reports a
    renewal payment, at whatever time it does; `createRedemption` reads the flag against the start of
    the anchor's monthly window. A reset that finds the flag of an older window changes nothing that a
    redemption would see. One that finds the flag of the current window gives that window away a
    second time. -/

namespace Redeemo.Renewal
open Runs CycleWindows Redemption

/-- The user's flagged rows lose their flag and are dated now. -/
def resetVoucherCycleForUser (userId : String) (now : ℤ) (t : Tables) : Tables :=
  { t with cycleStates := fun pair => (t.cycleStates pair).map fun c =>
      if pair.1 = userId ∧ c.isRedeemedInCurrentCycle = true then
        { c with isRedeemedInCurrentCycle := false, cycleStartDate := now }
      else c }

structure State where
  world : World
  /-- `StripeWebhookEvent`: the ids of the events that have been taken on. -/
  stripeEvents : List String
  /-- The latest clock reading. -/
  clock : ℕ

/-- `invoice.payment_succeeded`, for the invoice of a subscription of that user, if there is one. -/
def paymentSucceeded (eventId billingReason : String) (subUser : Option String) (now : ℕ) (s : State) :
    State :=
  if eventId ∈ s.stripeEvents then s
  else
    let s := { s with stripeEvents := eventId :: s.stripeEvents }
    if billingReason ≠ "subscription_cycle" then s
    else match subUser with
      | none => s
      | some userId =>
        { s with world := { s.world with
            tables := resetVoucherCycleForUser userId now s.world.tables } }

inductive Event
  | redeem (cat : Catalog) (decrypt : String → Except DecryptFault String)
    (redemptionCode userId : String) (data : Request)
  | invoicePaid (eventId billingReason : String) (subUser : Option String)

/-- One event, no earlier than the one before. -/
def step (s : State) (a : ℕ × Event) : Option State :=
  if a.1 < s.clock then none
  else some (match a.2 with
    | .redeem cat decrypt redemptionCode userId data =>
      { s with
        world := (createRedemption cat decrypt redemptionCode userId data a.1 s.world).2
        clock := a.1 }
    | .invoicePaid eventId billingReason subUser =>
      { paymentSucceeded eventId billingReason subUser a.1 s with clock := a.1 })

section
variable (anchorDate : ℤ) (pair : Pair)

/-- The voucher is a cycle voucher and the user's subscription has the anchor date. -/
def Event.Fits : Event → Prop
  | .redeem cat _ _ userId data => (userId, data.voucherId) = pair →
    (∀ voucher ∈ cat.voucher pair.2, IsCycleType voucher.type) ∧
    ∀ sub ∈ cat.subscription pair.1, sub.cycleAnchorDate = anchorDate
  | .invoicePaid _ _ _ => True

/-- A renewal of the user that is not a repetition finds no flag of the current window. -/
def Timely (s : State) (a : ℕ × Event) : Prop :=
  match a.2 with
  | .redeem _ _ _ _ _ => True
  | .invoicePaid eventId billingReason subUser =>
    eventId ∉ s.stripeEvents → billingReason = "subscription_cycle" → subUser = some pair.1 →
      ∀ c ∈ s.world.tables.cycleStates pair, c.isRedeemedInCurrentCycle = true →
        c.cycleStartDate < (getCurrentCycleWindow anchorDate a.1).cycleStart

/-- No cycle window holds two redemptions. -/
def OncePerCycle (t : Tables) : Prop :=
  (t.redemptionsOf pair).Pairwise fun r₁ r₂ => ∀ now : ℕ,
    ¬ ((getCurrentCycleWindow anchorDate now).Contains r₁.redeemedAt ∧
      (getCurrentCycleWindow anchorDate now).Contains r₂.redeemedAt)

def cycleStartAt (t : ℤ) : ℤ := (getCurrentCycleWindow anchorDate t).cycleStart

/-- Redemptions lie in windows that only grow, none later than the cycle state says: a flagged row is
    of the latest window or a later one, and over an unflagged row the latest window is past. -/
structure Valid (s : State) : Prop where
  past : ∀ r ∈ s.world.tables.redemptionsOf pair, 0 ≤ r.redeemedAt ∧ r.redeemedAt ≤ s.clock
  growing : (s.world.tables.redemptionsOf pair).Pairwise fun r₁ r₂ =>
    cycleStartAt anchorDate r₂.redeemedAt < cycleStartAt anchorDate r₁.redeemedAt
  noState : s.world.tables.cycleStates pair = none → s.world.tables.redemptionsOf pair = []
  flagged : ∀ c ∈ s.world.tables.cycleStates pair, c.isRedeemedInCurrentCycle = true →
    ∀ r ∈ s.world.tables.redemptionsOf pair, cycleStartAt anchorDate r.redeemedAt ≤ c.cycleStartDate
  cleared : ∀ c ∈ s.world.tables.cycleStates pair, c.isRedeemedInCurrentCycle = false →
    ∀ r ∈ s.world.tables.redemptionsOf pair,
      cycleStartAt anchorDate r.redeemedAt < cycleStartAt anchorDate s.clock

end

variable {anchorDate : ℤ} {pair : Pair}

variable {s s' : State}

/-! ### Steps that leave the pair's rows alone -/

theorem cycleStartAt_mono {t u : ℤ} (ht : 0 ≤ t) (h : t ≤ u) :
    cycleStartAt anchorDate t ≤ cycleStartAt anchorDate u := cycleStart_mono anchorDate ht h

theorem valid_of_sameAt (hv : Valid anchorDate pair s)
    (hs : SameAt pair s.world.tables s'.world.tables) (hc : s.clock ≤ s'.clock) :
    Valid anchorDate pair s' := by
  obtain ⟨hr, hst⟩ := hs
  refine ⟨?_, ?_, ?_, ?_, ?_⟩
  · rw [hr]
    intro r hrm
    obtain ⟨h0, h1⟩ := hv.past r hrm
    exact ⟨h0, by omega⟩
  · rw [hr]
    exact hv.growing
  · rw [hr, hst]
    exact hv.noState
  · rw [hr, hst]
    exact hv.flagged
  · rw [hr, hst]
    intro c hcm hf r hrm
    exact lt_of_lt_of_le (hv.cleared c hcm hf r hrm)
      (cycleStartAt_mono (Int.natCast_nonneg _) (Int.ofNat_le.mpr hc))

/-! ### A redemption -/

/-- A row that may be claimed now is past every redemption's window. -/
theorem before_of_claimable (hv : Valid anchorDate pair s) {now : ℕ} (hc : s.clock ≤ now)
    (h : ∀ c ∈ s.world.tables.cycleStates pair, claimWhere (cycleStartAt anchorDate now) c) :
    ∀ r ∈ s.world.tables.redemptionsOf pair,
      cycleStartAt anchorDate r.redeemedAt < cycleStartAt anchorDate now := by
  intro r hr
  cases hst : s.world.tables.cycleStates pair with
  | none =>
    rw [hv.noState hst] at hr
    cases hr
  | some c =>
    cases hf : c.isRedeemedInCurrentCycle with
    | true =>
      rcases h c hst with hlt | hff
      · exact lt_of_le_of_lt (hv.flagged c hst hf r hr) hlt
      · rw [hf] at hff
        cases hff
    | false =>
      exact lt_of_lt_of_le (hv.cleared c hst hf r hr)
        (cycleStartAt_mono (Int.natCast_nonneg _) (Int.ofNat_le.mpr hc))

/-- The claim of the pair puts a redemption of a new window on top. -/
theorem valid_claim (hv : Valid anchorDate pair s) {c : Call} (hc : s.clock ≤ c.now)
    (h : ∀ state ∈ s.world.tables.cycleStates pair, claimWhere (cycleStartAt anchorDate c.now) state)
    (hr : s'.world.tables.redemptionsOf pair
      = redemptionData pair none c :: s.world.tables.redemptionsOf pair)
    (hst : s'.world.tables.cycleStates pair
      = some (claimData (cycleStartAt anchorDate c.now) c.now))
    (hclock : s'.clock = c.now) : Valid anchorDate pair s' := by
  have hbefore := before_of_claimable hv hc h
  refine ⟨?_, ?_, ?_, ?_, ?_⟩
  · rw [hr, List.forall_mem_cons, hclock]
    refine ⟨⟨Int.natCast_nonneg _, le_rfl⟩, fun r hrm => ?_⟩
    obtain ⟨h0, h1⟩ := hv.past r hrm
    exact ⟨h0, by omega⟩
  · rw [hr, List.pairwise_cons]
    exact ⟨hbefore, hv.growing⟩
  · rw [hst]
    simp
  · rw [hr, hst]
    intro state hstate _
    cases hstate
    rw [List.forall_mem_cons]
    exact ⟨le_rfl, fun r hrm => (hbefore r hrm).le⟩
  · rw [hst]
    intro state hstate hf
    cases hstate
    cases hf

/-- A call for a cycle voucher of the pair, if it writes anything, claims the pair. -/
theorem redeem_cases {cat : Catalog} {decrypt : String → Except DecryptFault String}
    {redemptionCode userId : String} {data : Request} (now : ℕ) (w : World)
    (hfit : (Event.redeem cat decrypt redemptionCode userId data).Fits anchorDate pair) :
    SameAt pair w.tables (createRedemption cat decrypt redemptionCode userId data now w).2.tables ∨
    ∃ c : Call, c.now = now ∧
      (∀ state ∈ w.tables.cycleStates pair, claimWhere (cycleStartAt anchorDate now) state) ∧
      (createRedemption cat decrypt redemptionCode userId data now w).2.tables
        = ⟨redemptionData pair none c :: w.tables.redemptions,
          Function.update w.tables.cycleStates pair
            (some (claimData (cycleStartAt anchorDate now) now))⟩ := by
  rcases createRedemption_tables cat decrypt redemptionCode userId data now w with
    h | ⟨el, c, t, hel, hc, hclaim, ht⟩
  · exact .inl (h ▸ ⟨rfl, rfl⟩)
  · rw [ht]
    by_cases hp : pair = (userId, data.voucherId)
    · obtain ⟨htype, hanchor⟩ := hfit hp.symm
      obtain ⟨hvoucher, ⟨sub, hsub, hstart⟩, -, hguard⟩ := eligibility_ok hel
      rw [hp] at htype hanchor
      have hcy := htype el.voucher hvoucher
      rw [hanchor sub hsub] at hstart
      obtain ⟨-, hst⟩ := (typeGuard_cycle hcy).mp hguard
      rw [← hp, hstart] at hst
      rw [← hp] at hclaim hguard
      subst hc
      refine .inr ⟨⟨now, data.branchId, redemptionCode, el.voucher.estimatedSaving⟩, rfl, hst, ?_⟩
      have hfree : ¬ CodeTaken w.tables redemptionCode := by
        intro htaken
        obtain ⟨e, he, -⟩ := claim_rejected (c := ⟨now, data.branchId, redemptionCode,
          el.voucher.estimatedSaving⟩) hguard (.inl htaken)
        rw [he] at hclaim
        cases hclaim
      rw [← hstart] at hst
      rw [claim_cycle hcy, claimCycle_ok hst hfree, hstart] at hclaim
      exact (Except.ok.inj hclaim).symm
    · exact .inl (sameAt_claim hp hclaim)

theorem valid_redeem (hv : Valid anchorDate pair s) {now : ℕ} {cat : Catalog}
    {decrypt : String → Except DecryptFault String} {redemptionCode userId : String} {data : Request}
    (hfit : (Event.redeem cat decrypt redemptionCode userId data).Fits anchorDate pair)
    (h : step s (now, .redeem cat decrypt redemptionCode userId data) = some s') :
    Valid anchorDate pair s' := by
  rw [step] at h
  split_ifs at h with hlt
  cases h
  rcases redeem_cases now s.world hfit with hsame | ⟨c, rfl, hst, ht⟩
  · exact valid_of_sameAt hv hsame (not_lt.mp hlt)
  · refine valid_claim hv (not_lt.mp hlt) hst ?_ ?_ rfl
    · dsimp only
      rw [ht, Tables.redemptionsOf_redemptionData]
    · dsimp only
      rw [ht]
      exact Function.update_self ..

/-! ### A renewal -/

theorem reset_other {userId : String} {now : ℤ} {t : Tables} (h : pair.1 ≠ userId) :
    SameAt pair t (resetVoucherCycleForUser userId now t) := by
  refine ⟨rfl, ?_⟩
  simp [resetVoucherCycleForUser, h]

theorem reset_own {now : ℤ} {t : Tables} :
    (resetVoucherCycleForUser pair.1 now t).cycleStates pair = (t.cycleStates pair).map fun c =>
      if c.isRedeemedInCurrentCycle = true then
        { c with isRedeemedInCurrentCycle := false, cycleStartDate := now }
      else c := by
  simp [resetVoucherCycleForUser]

/-- A reset that finds no flag of the current window. -/
theorem valid_reset (hv : Valid anchorDate pair s) {now : ℕ} (hc : s.clock ≤ now)
    (htimely : ∀ c ∈ s.world.tables.cycleStates pair, c.isRedeemedInCurrentCycle = true →
      c.cycleStartDate < cycleStartAt anchorDate now)
    (hr : s'.world.tables.redemptionsOf pair = s.world.tables.redemptionsOf pair)
    (hst : s'.world.tables.cycleStates pair = (s.world.tables.cycleStates pair).map fun c =>
      if c.isRedeemedInCurrentCycle = true then
        { c with isRedeemedInCurrentCycle := false, cycleStartDate := now }
      else c) (hclock : s'.clock = now) : Valid anchorDate pair s' := by
  have hclaimable : ∀ c ∈ s.world.tables.cycleStates pair,
      claimWhere (cycleStartAt anchorDate now) c := by
    intro c hcm
    cases hf : c.isRedeemedInCurrentCycle with
    | true => exact .inl (htimely c hcm hf)
    | false => exact .inr hf
  have hbefore := before_of_claimable hv hc hclaimable
  refine ⟨?_, ?_, ?_, ?_, ?_⟩
  · rw [hr, hclock]
    intro r hrm
    obtain ⟨h0, h1⟩ := hv.past r hrm
    exact ⟨h0, by omega⟩
  · rw [hr]
    exact hv.growing
  · rw [hr, hst, Option.map_eq_none_iff]
    exact hv.noState
  · -- No row is flagged after a reset.
    rw [hst]
    intro c hcm hf
    obtain ⟨c', -, rfl⟩ := Option.mem_map.mp hcm
    split_ifs at hf with hf'
    exact absurd hf hf'
  · rw [hr, hclock]
    exact fun _ _ _ => hbefore

theorem valid_invoicePaid (hv : Valid anchorDate pair s) {now : ℕ} {eventId billingReason : String}
    {subUser : Option String} (ht : Timely anchorDate pair s (now, .invoicePaid eventId billingReason subUser))
    (h : step s (now, .invoicePaid eventId billingReason subUser) = some s') :
    Valid anchorDate pair s' := by
  rw [step] at h
  split_ifs at h with hlt
  cases h
  rw [not_lt] at hlt
  dsimp only at hlt ⊢
  rw [paymentSucceeded]
  split_ifs with hnew hreason
  · exact valid_of_sameAt hv ⟨rfl, rfl⟩ hlt
  · exact valid_of_sameAt hv ⟨rfl, rfl⟩ hlt
  · cases subUser with
    | none => exact valid_of_sameAt hv ⟨rfl, rfl⟩ hlt
    | some userId =>
      by_cases hu : pair.1 = userId
      · subst hu
        exact valid_reset hv hlt (ht hnew (not_not.mp hreason) rfl) rfl reset_own rfl
      · exact valid_of_sameAt hv (reset_other hu) hlt

/-! ### Runs -/

theorem valid_step (a : ℕ × Event) (hfit : a.2.Fits anchorDate pair)
    (ht : Timely anchorDate pair s a) (hv : Valid anchorDate pair s) (h : step s a = some s') :
    Valid anchorDate pair s' := by
  obtain ⟨now, ev⟩ := a
  cases ev with
  | redeem cat decrypt redemptionCode userId data => exact valid_redeem hv hfit h
  | invoicePaid eventId billingReason subUser => exact valid_invoicePaid hv ht h

theorem oncePerCycle_of_valid (hv : Valid anchorDate pair s) :
    OncePerCycle anchorDate pair s.world.tables := by
  refine hv.growing.imp_of_mem fun {r₁ r₂} h₁ h₂ hlt now ⟨hw₁, hw₂⟩ => ?_
  have he₁ := cycleWindow_of_contains anchorDate (Int.natCast_nonneg now) hw₁
  have he₂ := cycleWindow_of_contains anchorDate (Int.natCast_nonneg now) hw₂
  rw [cycleStartAt, cycleStartAt, he₁, he₂] at hlt
  exact lt_irrefl _ hlt

/-- CORRECT while renewals are timely: in every run from tables without a row of the pair, of calls
    and renewals in any order, in which no renewal finds the flag of the window it comes in, no cycle
    window ever holds two redemptions of the voucher by the user. -/
theorem once_per_cycle (anchorDate : ℤ) (pair : Pair) (s₀ s : State) (events : List (ℕ × Event))
    (hrow : s₀.world.tables.redemptionsOf pair = []) (hstate : s₀.world.tables.cycleStates pair = none)
    (hfit : ∀ a ∈ events, a.2.Fits anchorDate pair)
    (htimely : Along step (Timely anchorDate pair) s₀ events)
    (hrun : run step s₀ events = some s) : OncePerCycle anchorDate pair s.world.tables := by
  have hv₀ : Valid anchorDate pair s₀ := by
    refine ⟨?_, ?_, ?_, ?_, ?_⟩ <;> simp [hrow, hstate]
  exact oncePerCycle_of_valid (run_invariant_along _
    (fun s a s' hv hp h => valid_step a hp.1 hp.2 hv h) (htimely.and_forall hfit) hv₀ hrun)

/-! ### A renewal in time, and one that comes late -/

/-- A free coffee, for a subscriber since 5 January 2026. -/
def coffee : Catalog :=
  { voucher := fun _ => some
      { status := .ACTIVE, approvalStatus := .APPROVED, type := .FREEBIE, expiryDate := none,
        estimatedSaving := 3, cooldownSeconds := none, merchantId := "merchant",
        merchantStatus := .ACTIVE, availabilityWindows := [] }
    branch := fun _ => some ⟨"merchant", true, .LIVE, some "ciphertext"⟩
    subscription := fun _ => some ⟨.ACTIVE, 1767607200000⟩
    phoneVerified := fun _ => some true }

def redeemCoffee (redemptionCode : String) : Event :=
  .redeem coffee (fun _ => .ok "1234") redemptionCode "user" ⟨"coffee", "branch", "1234"⟩

def noRows : State := ⟨⟨⟨[], fun _ => none⟩, fun _ => none⟩, [], 0⟩

/-- The windows begin at midnight of the 5th; on 5 February the user redeems at nine, Stripe reports
    the renewal at eleven, and the user redeems again at noon. -/
def lateRenewal : List (ℕ × Event) :=
  [(1770282000000, redeemCoffee "AAAA"),
    (1770289200000, .invoicePaid "evt" "subscription_cycle" (some "user")),
    (1770292800000, redeemCoffee "BBBB")]

/-- The first coffee in January, long before the same renewal. -/
def timelyRenewal : List (ℕ × Event) :=
  [(1768000000000, redeemCoffee "AAAA"),
    (1770289200000, .invoicePaid "evt" "subscription_cycle" (some "user")),
    (1770292800000, redeemCoffee "BBBB")]

/-- Two redemptions, in two windows. -/
theorem once_per_cycle_timelyRenewal : ∃ s, run step noRows timelyRenewal = some s ∧
    (s.world.tables.redemptionsOf ("user", "coffee")).map (·.redeemedAt)
      = [1770292800000, 1768000000000] ∧
    OncePerCycle 1767607200000 ("user", "coffee") s.world.tables := by
  obtain ⟨s, hs, hrows⟩ : ∃ s, run step noRows timelyRenewal = some s ∧
      (s.world.tables.redemptionsOf ("user", "coffee")).map (·.redeemedAt)
        = [1770292800000, 1768000000000] := ⟨_, rfl, rfl⟩
  refine ⟨s, hs, hrows, once_per_cycle _ _ noRows s timelyRenewal rfl rfl ?_ ?_ hs⟩
  · simp [timelyRenewal, redeemCoffee, Event.Fits, coffee, IsCycleType]
  · refine ⟨trivial, fun s₁ h₁ => ⟨?_, fun s₂ _ => ⟨trivial, fun s₃ _ => trivial⟩⟩⟩
    have hrow : s₁.world.tables.cycleStates ("user", "coffee")
        = some (claimData 1767571200000 1768000000000) := by
      cases h₁
      rfl
    intro _ _ _ c hc _
    rw [hrow] at hc
    cases hc
    decide

/-- Both redemptions stand, in one window. -/
theorem not_once_per_cycle_lateRenewal : ∃ s, run step noRows lateRenewal = some s ∧
    (s.world.tables.redemptionsOf ("user", "coffee")).map (·.redeemedAt)
      = [1770292800000, 1770282000000] ∧
    (∀ a ∈ lateRenewal, a.2.Fits 1767607200000 ("user", "coffee")) ∧
    ¬ OncePerCycle 1767607200000 ("user", "coffee") s.world.tables := by
  obtain ⟨s, hs, hrows⟩ : ∃ s, run step noRows lateRenewal = some s ∧
      s.world.tables.redemptionsOf ("user", "coffee")
        = [redemptionData ("user", "coffee") none ⟨1770292800000, "branch", "BBBB", 3⟩,
          redemptionData ("user", "coffee") none ⟨1770282000000, "branch", "AAAA", 3⟩] :=
    ⟨_, rfl, rfl⟩
  refine ⟨s, hs, by rw [hrows]; rfl, ?_, fun honce => ?_⟩
  · simp [lateRenewal, redeemCoffee, Event.Fits, coffee, IsCycleType]
  · rw [OncePerCycle, hrows, List.pairwise_cons] at honce
    exact honce.1 _ (List.mem_singleton.mpr rfl) 1770282000000
      (by unfold CycleWindow.Contains; decide)

end Redeemo.Renewal
