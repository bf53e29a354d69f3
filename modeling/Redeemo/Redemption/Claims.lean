import Redeemo.Lib.Fallible
import Redeemo.Redemption.Service
import Redeemo.Shared.LimiterScript

/-! What the stages of `createRedemption` do: which calls are eligible (`eligibility_ok`), which the
    limiter admits (`consume_pinLimit`), and which claims succeed once the gates have passed
    (`claim_ok`, `claim_rejected`). -/

namespace Redeemo.Redemption
open CycleWindows VoucherAvailability Limiter Fallible

/-! ### Rows that stand in the way -/

/-- Another redemption has the code. -/
def CodeTaken (t : Tables) (redemptionCode : String) : Prop :=
  ∃ r ∈ t.redemptions, r.redemptionCode = redemptionCode

/-- The user has redeemed the voucher under that window start. -/
def KeyTaken (t : Tables) (pair : Pair) (windowStartsAt : Option ℤ) : Prop :=
  windowStartsAt.isSome = true ∧ ∃ r ∈ t.redemptionsOf pair, r.windowStartsAt = windowStartsAt

variable {t : Tables} {pair : Pair} {c : Call} {key : Option ℤ}

theorem createRedemption_ok (hc : ¬ CodeTaken t c.redemptionCode) (hk : ¬ KeyTaken t pair key) :
    t.createRedemption (redemptionData pair key c)
      = .ok { t with redemptions := redemptionData pair key c :: t.redemptions } := by
  exact (if_neg hc).trans (if_neg hk)

theorem createRedemption_codeTaken (h : CodeTaken t c.redemptionCode) :
    t.createRedemption (redemptionData pair key c) = .error ⟨["redemptionCode"]⟩ := by
  exact if_pos h

theorem createRedemption_keyTaken (hc : ¬ CodeTaken t c.redemptionCode) (hk : KeyTaken t pair key) :
    t.createRedemption (redemptionData pair key c)
      = .error ⟨["userId", "voucherId", "windowStartsAt"]⟩ := by
  exact (if_neg hc).trans (if_pos hk)

theorem not_keyTaken_none : ¬ KeyTaken t pair none := by
  rintro ⟨h, -⟩
  cases h

/-! ### The limiter -/

/-- One abuser key: the attempt is counted, and blocked above the limit. -/
theorem consume_pinLimit (s : Store) (failKey : String) :
    (consume s (pinLimit failKey)).2 = (incrWithWindow s failKey PIN_FAIL_WINDOW).2 ∧
      ((consume s (pinLimit failKey)).1 = some .ok ↔ (s.get failKey).getD 0 < PIN_FAIL_LIMIT) ∧
      (consume s (pinLimit failKey)).1 ≠ none := by
  have hfst : (incrWithWindow s failKey PIN_FAIL_WINDOW).1 = (s.get failKey).getD 0 + 1 := rfl
  simp only [consume, consumeLua_packed, consumeSpecs, pinLimit, atLimit, countAbusers, takeCooldown,
    countAll, List.find?_nil, Option.map_none, List.foldl_nil, hfst]
  by_cases h : (s.get failKey).getD 0 + 1 > (PIN_FAIL_LIMIT : ℤ)
  · simp only [if_pos h]
    refine ⟨trivial, ?_, by simp⟩
    simp only [reduceCtorEq, Option.some.injEq, false_iff]
    omega
  · simp only [if_neg h]
    refine ⟨trivial, ?_, by simp⟩
    simp only [true_iff]
    omega

/-! ### Eligible calls -/

theorem orElse_ok {α : Type} {e : AppError} {x : Option α} {a : α} :
    orElse e x = .ok a ↔ x = some a := by
  cases x <;> simp [orElse]

theorem orApp_ok {x : Except AppError Unit} {u : Unit} : orApp x = .ok u ↔ x = .ok () := by
  cases x <;> simp [orApp]

theorem throwWithNext_ne_ok {α : Type} {windows : List AvailabilityWindow} {now : ℤ}
    {error : Option ℤ → AppError} {a : α} : throwWithNext windows now error ≠ .ok a := by
  intro h
  obtain ⟨next, -, h⟩ := bind_ok_iff.mp h
  cases h

theorem currentWindow_ok {windows : List AvailabilityWindow} {now : ℤ} {occ : WindowOccurrence}
    (h : currentWindow windows now = .ok occ) :
    getCurrentWindowOccurrence windows now = .ok (some occ) := by
  obtain ⟨found, hf, h⟩ := bind_ok_iff.mp h
  cases hg : getCurrentWindowOccurrence windows now with
  | error m =>
    rw [hg] at hf
    cases hf
  | ok o =>
    rw [hg] at hf
    cases hf
    cases found with
    | none => exact absurd h throwWithNext_ne_ok
    | some o =>
      cases h
      rfl

theorem windowGuard_ok {windows : List AvailabilityWindow} {occ : WindowOccurrence}
    {rs : List VoucherRedemption} {now : ℤ} {u : Unit} (h : windowGuard windows occ rs now = .ok u) :
    ∀ r ∈ rs, ¬ (occ.startsAt ≤ r.redeemedAt ∧ r.redeemedAt < occ.endsAt) := by
  intro r hr hin
  rw [windowGuard, if_pos ⟨r, hr, hin⟩] at h
  exact absurd h throwWithNext_ne_ok

/-- What Guard 7 has found out about the user and the voucher. -/
def TypeGuard (el : Eligible) (t : Tables) (pair : Pair) (now : ℤ) : Prop :=
  match el.voucher.type with
  | .TIME_LIMITED => ∃ occ,
    getCurrentWindowOccurrence el.voucher.availabilityWindows now = .ok (some occ) ∧
      el.timeLimitedWindowStartsAt = some occ.startsAt ∧
      ∀ r ∈ t.redemptionsOf pair, ¬ (occ.startsAt ≤ r.redeemedAt ∧ r.redeemedAt < occ.endsAt)
  | .REUSABLE => el.timeLimitedWindowStartsAt = none ∧
    cooldownGuard (t.latestRedeemedAt pair) now el.effectiveCooldownMs = .ok ()
  | _ => el.timeLimitedWindowStartsAt = none ∧
    ∀ state ∈ t.cycleStates pair, claimWhere el.cycleStart state

theorem typeGuard_ok {voucher : Voucher} {cycleStart ms now : ℤ} {occ : Option WindowOccurrence}
    {windowStartsAt : Option ℤ} {pin : String}
    (hocc : ∀ o ∈ occ, getCurrentWindowOccurrence voucher.availabilityWindows now = .ok (some o))
    (hsome : voucher.type = .TIME_LIMITED → occ.isSome = true)
    (h : typeGuard voucher pair cycleStart ms now occ t = .ok windowStartsAt) :
    TypeGuard ⟨voucher, cycleStart, windowStartsAt, ms, pin⟩ t pair now := by
  have hcycle : (orApp (cycleGuard cycleStart (t.cycleStates pair)) >>= fun _ => pure none)
      = Except.ok windowStartsAt →
      windowStartsAt = none ∧ ∀ state ∈ t.cycleStates pair, claimWhere cycleStart state := by
    intro h
    obtain ⟨u, hg, hn⟩ := bind_ok_iff.mp h
    cases hn
    exact ⟨rfl, cycleGuard_ok_iff.mp (orApp_ok.mp hg)⟩
  cases ht : voucher.type with
  | TIME_LIMITED =>
    obtain ⟨o, ho⟩ := Option.isSome_iff_exists.mp (hsome ht)
    simp only [typeGuard, ht, ho] at h
    obtain ⟨u, hg, hn⟩ := bind_ok_iff.mp h
    cases hn
    simp only [TypeGuard, ht]
    exact ⟨o, hocc o ho, rfl, windowGuard_ok hg⟩
  | REUSABLE =>
    simp only [typeGuard, ht] at h
    obtain ⟨u, hg, hn⟩ := bind_ok_iff.mp h
    cases hn
    simp only [TypeGuard, ht]
    exact ⟨trivial, orApp_ok.mp hg⟩
  | _ =>
    simp only [typeGuard, ht] at h
    simp only [TypeGuard, ht]
    exact hcycle h

/-- What the gates have established of an eligible call. -/
structure EligibleFor (cat : Catalog) (t : Tables) (userId voucherId : String) (now : ℤ)
    (el : Eligible) : Prop where
  voucher : cat.voucher voucherId = some el.voucher
  cycle : ∃ sub, cat.subscription userId = some sub ∧
    el.cycleStart = (getCurrentCycleWindow sub.cycleAnchorDate now).cycleStart
  cooldown : el.effectiveCooldownMs = effectiveCooldownSeconds el.voucher.cooldownSeconds * 1000
  guard : TypeGuard el t (userId, voucherId) now

theorem openWindow_ok {voucher : Voucher} {now : ℤ} {occ : Option WindowOccurrence}
    (h : openWindow voucher now = .ok occ) :
    (∀ o ∈ occ, getCurrentWindowOccurrence voucher.availabilityWindows now = .ok (some o)) ∧
      (voucher.type = .TIME_LIMITED → occ.isSome = true) := by
  rw [openWindow] at h
  split_ifs at h with htl
  · cases hc : currentWindow voucher.availabilityWindows now with
    | error e =>
      rw [hc] at h
      cases h
    | ok o =>
      rw [hc] at h
      cases h
      refine ⟨fun o' ho' => ?_, fun _ => rfl⟩
      cases ho'
      exact currentWindow_ok hc
  · cases h
    exact ⟨by simp, fun htl' => absurd htl' htl⟩

theorem eligibility_ok {cat : Catalog} {userId voucherId branchId : String} {now : ℤ} {el : Eligible}
    (h : eligibility cat t userId voucherId branchId now = .ok el) :
    EligibleFor cat t userId voucherId now el := by
  simp only [eligibility, bind_ok_iff, orElse_ok] at h
  obtain ⟨voucher, hv, -, -, -, -, occ, hocc, branch, -, -, -, -, -, sub, hsub, -, -, -, -, ws, hws,
    pin, -, -, -, hel⟩ := h
  cases hel
  obtain ⟨hcur, hsome⟩ := openWindow_ok hocc
  exact ⟨hv, ⟨sub, hsub, rfl⟩, rfl, typeGuard_ok hcur hsome hws⟩

/-! ### Claims of eligible calls -/

/-- On a claimable row the first transaction comes to its insert, with the row claimed. -/
theorem claimOrCreate_eq {cycleStart : ℤ}
    (hg : ∀ state ∈ t.cycleStates pair, claimWhere cycleStart state) :
    claimOrCreate t pair cycleStart c = (t.setCycleState pair
      (claimData cycleStart c.now)).createRedemption (redemptionData pair none c) := by
  cases hs : t.cycleStates pair with
  | none =>
    simp only [claimOrCreate, updateOrCreate, Tables.claimCycleState, Tables.createCycleState, hs]
    rfl
  | some state =>
    simp only [claimOrCreate, updateOrCreate, Tables.claimCycleState, hs, if_pos (hg state hs)]
    rfl

theorem claimCycle_ok {cycleStart : ℤ} (hg : ∀ state ∈ t.cycleStates pair, claimWhere cycleStart state)
    (hc : ¬ CodeTaken t c.redemptionCode) : claimCycle t pair cycleStart c
      = .ok ⟨redemptionData pair none c :: t.redemptions,
          Function.update t.cycleStates pair (some (claimData cycleStart c.now))⟩ := by
  have hfree : ¬ CodeTaken (t.setCycleState pair (claimData cycleStart c.now)) c.redemptionCode := hc
  have hins : (t.setCycleState pair (claimData cycleStart c.now)).createRedemption
      (redemptionData pair none c) = _ := createRedemption_ok hfree not_keyTaken_none
  rw [claimCycle, claimOrCreate_eq hg, hins]
  rfl

/-- The vouchers claimed through the cycle state. -/
def IsCycleType (type : VoucherType) : Prop := type ≠ .TIME_LIMITED ∧ type ≠ .REUSABLE

section
variable {el : Eligible}

theorem claim_cycle (h : IsCycleType el.voucher.type) :
    claim el t pair c = claimCycle t pair el.cycleStart c := by
  simp only [claim]
  split
  · next ht => exact absurd ht h.2
  · next ht => exact absurd ht h.1
  · rfl

theorem typeGuard_cycle {now : ℤ} (h : IsCycleType el.voucher.type) : TypeGuard el t pair now ↔
    el.timeLimitedWindowStartsAt = none ∧ ∀ state ∈ t.cycleStates pair, claimWhere el.cycleStart state := by
  simp only [TypeGuard]
  split
  · next ht => exact absurd ht h.1
  · next ht => exact absurd ht h.2
  · rfl

theorem claimWindow_ok {windows : List VoucherAvailability.AvailabilityWindow}
    (hc : ¬ CodeTaken t c.redemptionCode) (hk : ¬ KeyTaken t pair key) :
    claimWindow t pair windows key c
      = .ok { t with redemptions := redemptionData pair key c :: t.redemptions } := by
  rw [claimWindow, createRedemption_ok hc hk]

theorem claimReusable_ok {ms : ℤ} (hg : cooldownGuard (t.latestRedeemedAt pair) c.now ms = .ok ())
    (hc : ¬ CodeTaken t c.redemptionCode) : claimReusable t pair ms c
      = .ok { t with redemptions := redemptionData pair none c :: t.redemptions } := by
  simp only [claimReusable, hg, createRedemption_ok hc not_keyTaken_none]
  rfl

/-- Past the gates, a claim stores its redemption unless another has its code or its key. -/
theorem claim_ok (hg : TypeGuard el t pair c.now) (hc : ¬ CodeTaken t c.redemptionCode)
    (hk : ¬ KeyTaken t pair el.timeLimitedWindowStartsAt) :
    ∃ t', claim el t pair c = .ok t' ∧
      t'.redemptions = redemptionData pair el.timeLimitedWindowStartsAt c :: t.redemptions := by
  by_cases hcy : IsCycleType el.voucher.type
  · obtain ⟨hn, hst⟩ := (typeGuard_cycle hcy).mp hg
    rw [claim_cycle hcy, claimCycle_ok hst hc, hn]
    exact ⟨_, rfl, rfl⟩
  · cases ht : el.voucher.type with
    | TIME_LIMITED =>
      simp only [claim, ht, claimWindow_ok hc hk]
      exact ⟨_, rfl, rfl⟩
    | REUSABLE =>
      simp only [TypeGuard, ht] at hg
      simp only [claim, ht, claimReusable_ok hg.2 hc, hg.1]
      exact ⟨_, rfl, rfl⟩
    | _ => exact absurd (by simp [IsCycleType, ht]) hcy

/-- How a claim past the gates may fail. -/
def ClaimFailure : Failure → Prop
  | .app .ALREADY_REDEEMED => True
  | .app (.ALREADY_REDEEMED_THIS_WINDOW _) => True
  | .p2002 _ => True
  | .thrown _ => True
  | _ => False

theorem throwWithNext_fails {α : Type} (windows : List VoucherAvailability.AvailabilityWindow) (now : ℤ) :
    ∃ e, throwWithNext windows now .ALREADY_REDEEMED_THIS_WINDOW = (.error e : Except Failure α) ∧
      ClaimFailure e := by
  rw [throwWithNext]
  cases getNextWindowOccurrence windows now with
  | error m => exact ⟨_, rfl, trivial⟩
  | ok next => exact ⟨_, rfl, trivial⟩

/-- The insert of the first transaction fails, and so does the second transaction. -/
theorem claimCycle_codeTaken {cycleStart : ℤ}
    (hg : ∀ state ∈ t.cycleStates pair, claimWhere cycleStart state)
    (hc : CodeTaken t c.redemptionCode) :
    ∃ e, claimCycle t pair cycleStart c = .error e ∧ ClaimFailure e := by
  have hins : (t.setCycleState pair (claimData cycleStart c.now)).createRedemption
      (redemptionData pair none c) = .error ⟨["redemptionCode"]⟩ := createRedemption_codeTaken hc
  rw [claimCycle, claimOrCreate_eq hg, hins]
  cases hs : t.cycleStates pair with
  | none =>
    refine ⟨.app .ALREADY_REDEEMED, ?_, trivial⟩
    simp only [claimAgain, Tables.claimCycleState, hs]
    rfl
  | some state =>
    refine ⟨.p2002 ⟨["redemptionCode"]⟩, ?_, trivial⟩
    simp only [claimAgain, Tables.claimCycleState, hs, if_pos (hg state hs), hins]
    rfl

theorem claimWindow_taken {windows : List VoucherAvailability.AvailabilityWindow}
    (h : CodeTaken t c.redemptionCode ∨ KeyTaken t pair key) :
    ∃ e, claimWindow t pair windows key c = .error e ∧ ClaimFailure e := by
  rw [claimWindow]
  by_cases hc : CodeTaken t c.redemptionCode
  · rw [createRedemption_codeTaken hc]
    exact ⟨.p2002 ⟨["redemptionCode"]⟩, by simp, trivial⟩
  · rw [createRedemption_keyTaken hc (h.resolve_left hc)]
    simp only [List.mem_cons, List.not_mem_nil, or_false, String.reduceEq, or_true, if_true]
    exact throwWithNext_fails _ _

theorem claimReusable_codeTaken {ms : ℤ} (hg : cooldownGuard (t.latestRedeemedAt pair) c.now ms = .ok ())
    (hc : CodeTaken t c.redemptionCode) :
    claimReusable t pair ms c = .error (.p2002 ⟨["redemptionCode"]⟩) := by
  simp only [claimReusable, hg, createRedemption_codeTaken hc]
  rfl

theorem claim_rejected (hg : TypeGuard el t pair c.now)
    (h : CodeTaken t c.redemptionCode ∨ KeyTaken t pair el.timeLimitedWindowStartsAt) :
    ∃ e, claim el t pair c = .error e ∧ ClaimFailure e := by
  -- Only a TIME_LIMITED voucher has a key to be taken.
  have hcode : el.timeLimitedWindowStartsAt = none → CodeTaken t c.redemptionCode := by
    intro hn
    rw [hn] at h
    exact h.resolve_right not_keyTaken_none
  by_cases hcy : IsCycleType el.voucher.type
  · obtain ⟨hn, hst⟩ := (typeGuard_cycle hcy).mp hg
    rw [claim_cycle hcy]
    exact claimCycle_codeTaken hst (hcode hn)
  · cases ht : el.voucher.type with
    | TIME_LIMITED =>
      simp only [claim, ht]
      exact claimWindow_taken h
    | REUSABLE =>
      simp only [TypeGuard, ht] at hg
      simp only [claim, ht]
      exact ⟨_, claimReusable_codeTaken hg.2 (hcode hg.1), trivial⟩
    | _ => exact absurd (by simp [IsCycleType, ht]) hcy

end

/-! ### Whole calls -/

/-- What a call leaves in the tables: nothing, or what the claim of an eligible call has
    written. -/
theorem createRedemption_tables (cat : Catalog) (decrypt : String → Except DecryptFault String)
    (redemptionCode userId : String) (data : Request) (now : ℕ) (w : World) :
    (createRedemption cat decrypt redemptionCode userId data now w).2.tables = w.tables ∨
    ∃ el c t, eligibility cat w.tables userId data.voucherId data.branchId now = .ok el ∧
      c = ⟨now, data.branchId, redemptionCode, el.voucher.estimatedSaving⟩ ∧
      claim el w.tables (userId, data.voucherId) c = .ok t ∧
      (createRedemption cat decrypt redemptionCode userId data now w).2.tables = t := by
  rw [createRedemption]
  cases hel : eligibility cat w.tables userId data.voucherId data.branchId now with
  | error e => exact .inl rfl
  | ok el =>
    dsimp only
    rw [redeemWithPin]
    split
    · exact .inl rfl
    · exact .inl rfl
    · rw [redeemAdmitted]
      dsimp only
      split
      · exact .inl rfl
      · exact .inl rfl
      · split
        · exact .inl rfl
        · next t ht => exact .inr ⟨el, _, t, rfl, rfl, ht, rfl⟩

/-- A claim past the gates that succeeds has stored its redemption. -/
theorem claim_redemptions {el : Eligible} {t t' : Tables} {pair : Pair} {c : Call} (hg : TypeGuard el t pair c.now)
    (h : claim el t pair c = .ok t') :
    t'.redemptions = redemptionData pair el.timeLimitedWindowStartsAt c :: t.redemptions := by
  by_cases htaken : CodeTaken t c.redemptionCode ∨ KeyTaken t pair el.timeLimitedWindowStartsAt
  · obtain ⟨e, he, -⟩ := claim_rejected hg htaken
    cases h.symm.trans he
  · rw [not_or] at htaken
    obtain ⟨t₂, ht₂, hrows⟩ := claim_ok hg htaken.1 htaken.2
    cases h.symm.trans ht₂
    exact hrows

/-- The redemptions after a call: the new one in front, if it has returned one. -/
theorem createRedemption_redemptions (cat : Catalog) (decrypt : String → Except DecryptFault String)
    (redemptionCode userId : String) (data : Request) (now : ℕ) (w : World) :
    (createRedemption cat decrypt redemptionCode userId data now w).2.tables.redemptions =
      match (createRedemption cat decrypt redemptionCode userId data now w).1 with
      | .ok row => row :: w.tables.redemptions
      | .error _ => w.tables.redemptions := by
  rw [createRedemption]
  cases hel : eligibility cat w.tables userId data.voucherId data.branchId now with
  | error e => rfl
  | ok el =>
    dsimp only
    rw [redeemWithPin]
    split
    · rfl
    · rfl
    · rw [redeemAdmitted]
      dsimp only
      split
      · rfl
      · rfl
      · split
        · rfl
        · next t ht => exact claim_redemptions (eligibility_ok hel).guard ht

/-- The rows of a user and a voucher are the same in both. -/
def SameAt (q : Pair) (t t' : Tables) : Prop :=
  t'.redemptionsOf q = t.redemptionsOf q ∧ t'.cycleStates q = t.cycleStates q

variable {t t' : Tables} {pair q : Pair} {c : Call}

theorem sameAt_createRedemption {key : Option ℤ} (hq : q ≠ pair)
    (h : t.createRedemption (redemptionData pair key c) = .ok t') : SameAt q t t' := by
  obtain ⟨rfl, -⟩ := Tables.createRedemption_eq_ok h
  refine ⟨?_, rfl⟩
  rw [Tables.redemptionsOf_cons, if_neg (fun he => hq he.symm), List.nil_append]

theorem sameAt_setCycleState {state : CycleState} (hq : q ≠ pair) :
    SameAt q t (t.setCycleState pair state) := by
  refine ⟨rfl, ?_⟩
  rw [Tables.setCycleState]
  exact Function.update_of_ne hq _ _

theorem SameAt.trans {t₁ t₂ t₃ : Tables} (h₁ : SameAt q t₁ t₂) (h₂ : SameAt q t₂ t₃) : SameAt q t₁ t₃ :=
  ⟨h₂.1.trans h₁.1, h₂.2.trans h₁.2⟩

theorem sameAt_claimCycleState {cycleStart now : ℤ} (hq : q ≠ pair) :
    SameAt q t (t.claimCycleState pair cycleStart now).2 := by
  rw [Tables.claimCycleState]
  split
  · exact ⟨rfl, rfl⟩
  · split_ifs
    · exact sameAt_setCycleState hq
    · exact ⟨rfl, rfl⟩

theorem sameAt_createCycleState {state : CycleState} (hq : q ≠ pair)
    (h : t.createCycleState pair state = .ok t') : SameAt q t t' := by
  rw [Tables.createCycleState] at h
  split at h
  · cases h
  · cases h
    exact sameAt_setCycleState hq

theorem sameAt_claimCycle {cycleStart : ℤ} (hq : q ≠ pair)
    (h : claimCycle t pair cycleStart c = .ok t') : SameAt q t t' := by
  have hupd : SameAt q t (t.claimCycleState pair cycleStart c.now).2 := sameAt_claimCycleState hq
  rw [claimCycle] at h
  split at h
  · next t₁ hf =>
    cases h
    obtain ⟨t₂, hc, hins⟩ := Fallible.bind_ok_iff.mp hf
    refine (hupd.trans ?_).trans (sameAt_createRedemption hq hins)
    simp only [updateOrCreate] at hc
    split_ifs at hc
    · exact sameAt_createCycleState hq hc
    · cases hc
      exact ⟨rfl, rfl⟩
  · simp only [claimAgain] at h
    split_ifs at h
    split at h
    · next hins =>
      cases h
      exact hupd.trans (sameAt_createRedemption hq hins)
    · cases h

/-- A claim touches no other user's rows and no other voucher's. -/
theorem sameAt_claim {el : Eligible} (hq : q ≠ pair) (h : claim el t pair c = .ok t') :
    SameAt q t t' := by
  rw [claim] at h
  split at h
  · obtain ⟨u, -, hins⟩ := Fallible.bind_ok_iff.mp h
    split at hins
    · next hok =>
      cases hins
      exact sameAt_createRedemption hq hok
    · cases hins
  · rw [claimWindow] at h
    split at h
    · next hok =>
      cases h
      exact sameAt_createRedemption hq hok
    · split_ifs at h
      exact absurd h throwWithNext_ne_ok
  · exact sameAt_claimCycle hq h

end Redeemo.Redemption
