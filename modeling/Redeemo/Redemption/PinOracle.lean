import Redeemo.Redemption.Claims

/-! The PIN oracle: what two runs of `createRedemption` that differ only in the submitted PIN tell an
    attacker apart.

    The gates and the limiter never read the PIN, so up to the compare the runs agree. After it the
    right PIN goes on to the claim and a wrong one stops: they can be told apart by their errors
    exactly when the claim rejects what the gates have accepted. -/

namespace Redeemo.PinOracle
open Redemption VoucherAvailability Limiter

/-- A wrong PIN, or a fault on the way to comparing it. -/
def IsPinFailure : Failure → Prop
  | .app (.INVALID_PIN _) => True
  | .app .KEY_NOT_AVAILABLE => True
  | .app .REDEMPTION_PIN_UNREADABLE => True
  | _ => False

/-- Everything a call is run on, but for the PIN. -/
structure Scene where
  cat : Catalog
  decrypt : String → Except DecryptFault String
  redemptionCode : String
  userId : String
  voucherId : String
  branchId : String
  now : ℕ
  world : World

namespace Scene
variable (s : Scene)

/-- One call, with the PIN `p`. -/
def submit (p : String) : Except Failure VoucherRedemption × World :=
  createRedemption s.cat s.decrypt s.redemptionCode s.userId ⟨s.voucherId, s.branchId, p⟩ s.now s.world

/-- A call that fails otherwise than on its PIN fails the same way with any PIN, and neither writes a
    redemption. -/
def NoOracle : Prop :=
  ∀ p₁ p₂ e, (s.submit p₁).1 = .error e → ¬ IsPinFailure e →
    (s.submit p₂).1 = .error e ∧ (s.submit p₁).2.tables.redemptions = s.world.tables.redemptions ∧
      (s.submit p₂).2.tables.redemptions = s.world.tables.redemptions

def eligible : Except Failure Eligible :=
  eligibility s.cat s.world.tables s.userId s.voucherId s.branchId s.now

/-- The voucher is TIME_LIMITED, and the user has a redemption of it under the start that is computed
    for the current occurrence. (Past the gates it lies outside the occurrence's computed ends.) -/
def KeyOutsideWindow : Prop :=
  ∃ voucher occ, s.cat.voucher s.voucherId = some voucher ∧ voucher.type = .TIME_LIMITED ∧
    getCurrentWindowOccurrence voucher.availabilityWindows s.now = .ok (some occ) ∧
    ∃ r ∈ s.world.tables.redemptionsOf (s.userId, s.voucherId), r.windowStartsAt = some occ.startsAt

/-- The call is eligible, its attempt is admitted, the stored PIN decrypts, and the claim runs into
    another redemption: one with its code, or one under its window start. -/
structure Exposed : Prop where
  eligible : ∃ el, s.eligible = .ok el ∧ ∃ pin, s.decrypt el.redemptionPin = .ok pin
  admitted : (s.world.redis.get (pinFailCount s.userId s.branchId)).getD 0 < PIN_FAIL_LIMIT
  taken : CodeTaken s.world.tables s.redemptionCode ∨ s.KeyOutsideWindow

end Scene

variable {s : Scene} {p : String}

theorem submit_ineligible {e : Failure} (h : s.eligible = .error e) :
    s.submit p = (.error e, s.world) := by
  simp only [Scene.eligible] at h
  rw [Scene.submit, createRedemption, h]

theorem submit_eligible {el : Eligible} (h : s.eligible = .ok el) :
    s.submit p = redeemWithPin el s.decrypt s.userId ⟨s.voucherId, s.branchId, p⟩
      ⟨s.now, s.branchId, s.redemptionCode, el.voucher.estimatedSaving⟩ s.world := by
  simp only [Scene.eligible] at h
  rw [Scene.submit, createRedemption, h]

/-! ### The compare -/

theorem pinMatches_right {decrypt : String → Except DecryptFault String} {stored pin : String}
    (h : decrypt stored = .ok pin) : pinMatches decrypt stored pin = .ok true := by
  simp [pinMatches, h, bind, Except.bind, pure, Except.pure]

theorem utf16Length_push (s : String) : utf16Length (s ++ "0") = utf16Length s + 1 := by
  simp [utf16Length, String.toList_append]

/-- A PIN with one more digit is wrong. -/
theorem pinMatches_longer {decrypt : String → Except DecryptFault String} {stored pin : String}
    (h : decrypt stored = .ok pin) : pinMatches decrypt stored (pin ++ "0") = .ok false := by
  simp [pinMatches, h, bind, Except.bind, pure, Except.pure, utf16Length_push]

/-! ### Runs that differ in the PIN -/

/-- A call the limiter does not admit ends the same way with any PIN. -/
theorem submit_blocked {el : Eligible} (h : s.eligible = .ok el)
    (hb : ¬ (s.world.redis.get (pinFailCount s.userId s.branchId)).getD 0 < PIN_FAIL_LIMIT) :
    ∃ e redis, ∀ p, s.submit p = (.error e, { s.world with redis := redis }) := by
  obtain ⟨-, hok, -⟩ := consume_pinLimit s.world.redis (pinFailCount s.userId s.branchId)
  cases hc : consume s.world.redis (pinLimit (pinFailCount s.userId s.branchId)) with
  | mk result redis =>
    rw [hc] at hok
    cases result with
    | none =>
      refine ⟨.redis, redis, fun p => ?_⟩
      rw [submit_eligible h, redeemWithPin, hc]
    | some r =>
      cases r with
      | ok => exact absurd (hok.mp rfl) hb
      | blocked scope key retryAfter =>
        refine ⟨.app (.PIN_RATE_LIMIT_EXCEEDED retryAfter), redis, fun p => ?_⟩
        rw [submit_eligible h, redeemWithPin, hc]

/-- A call the limiter admits comes to the compare, on the tables as they were. -/
theorem submit_admitted {el : Eligible} (h : s.eligible = .ok el)
    (ha : (s.world.redis.get (pinFailCount s.userId s.branchId)).getD 0 < PIN_FAIL_LIMIT) :
    ∃ redis, ∀ p, s.submit p = redeemAdmitted el s.decrypt s.userId ⟨s.voucherId, s.branchId, p⟩
      ⟨s.now, s.branchId, s.redemptionCode, el.voucher.estimatedSaving⟩
      { s.world with redis := redis } := by
  obtain ⟨-, hok, -⟩ := consume_pinLimit s.world.redis (pinFailCount s.userId s.branchId)
  cases hc : consume s.world.redis (pinLimit (pinFailCount s.userId s.branchId)) with
  | mk result redis =>
    rw [hc] at hok
    obtain rfl : result = some .ok := hok.mpr ha
    refine ⟨redis, fun p => ?_⟩
    rw [submit_eligible h, redeemWithPin, hc]

/-- Past the gates the claim's window start is the one of the current occurrence. -/
theorem keyTaken_iff {el : Eligible} (h : s.eligible = .ok el) :
    KeyTaken s.world.tables (s.userId, s.voucherId) el.timeLimitedWindowStartsAt ↔
      s.KeyOutsideWindow := by
  have hel := eligibility_ok h
  have hg := hel.guard
  constructor
  · rintro ⟨hsome, r, hr, hkey⟩
    cases ht : el.voucher.type with
    | TIME_LIMITED =>
      simp only [TypeGuard, ht] at hg
      obtain ⟨occ, hocc, hws, -⟩ := hg
      exact ⟨el.voucher, occ, hel.voucher, ht, hocc, r, hr, hkey.trans hws⟩
    | _ =>
      simp only [TypeGuard, ht] at hg
      rw [hg.1] at hsome
      cases hsome
  · rintro ⟨voucher, occ, hv, ht, hocc, r, hr, hkey⟩
    obtain rfl := Option.some.inj (hel.voucher.symm.trans hv)
    simp only [TypeGuard, ht] at hg
    obtain ⟨occ', hocc', hws, -⟩ := hg
    rw [hocc, Except.ok.injEq, Option.some.injEq] at hocc'
    subst hocc'
    exact ⟨by rw [hws]; rfl, r, hr, hkey.trans hws.symm⟩

theorem not_pinFailure_of_claim {e : Failure} (h : ClaimFailure e) : ¬ IsPinFailure e := by
  simp only [ClaimFailure] at h
  split at h <;> simp_all [IsPinFailure]

/-- The right PIN gives the exposed call away. -/
theorem not_noOracle_of_exposed (h : s.Exposed) : ¬ s.NoOracle := by
  obtain ⟨⟨el, hel, pin, hpin⟩, ha, ht⟩ := h
  obtain ⟨redis, hsub⟩ := submit_admitted hel ha
  rw [← keyTaken_iff hel] at ht
  obtain ⟨e, hclaim, hfail⟩ := claim_rejected (c := ⟨s.now, s.branchId, s.redemptionCode,
    el.voucher.estimatedSaving⟩) (eligibility_ok hel).guard ht
  intro hno
  have hright : (s.submit pin).1 = .error e := by
    rw [hsub, redeemAdmitted, pinMatches_right hpin]
    simp only [hclaim]
  have hwrong := (hno pin (pin ++ "0") e hright (not_pinFailure_of_claim hfail)).1
  rw [hsub, redeemAdmitted, pinMatches_longer hpin] at hwrong
  cases hwrong
  exact not_pinFailure_of_claim hfail trivial

theorem pinFailure_classify (fault : DecryptFault) :
    IsPinFailure (.app (classifyPinDecryptError fault)) := by
  cases fault <;> exact trivial

theorem noOracle_of_not_exposed (h : ¬ s.Exposed) : s.NoOracle := by
  intro p₁ p₂ e he hne
  cases hel : s.eligible with
  | error e' =>
    rw [submit_ineligible hel] at he ⊢
    rw [submit_ineligible hel]
    exact ⟨he, rfl, rfl⟩
  | ok el =>
    by_cases ha : (s.world.redis.get (pinFailCount s.userId s.branchId)).getD 0 < PIN_FAIL_LIMIT
    · exfalso
      obtain ⟨redis, hsub⟩ := submit_admitted hel ha
      rw [hsub, redeemAdmitted] at he
      dsimp only at he
      cases hm : pinMatches s.decrypt el.redemptionPin p₁ with
      | error fault =>
        rw [hm] at he
        cases he
        exact hne (pinFailure_classify fault)
      | ok b =>
        cases b with
        | false =>
          rw [hm] at he
          cases he
          exact hne trivial
        | true =>
          rw [hm] at he
          -- The PIN has matched, so it was decrypted; and the claim has failed.
          obtain ⟨pin, hpin, -⟩ := Fallible.bind_ok_iff.mp hm
          refine h ⟨⟨el, hel, pin, hpin⟩, ha, ?_⟩
          rw [← keyTaken_iff hel]
          by_contra hn
          rw [not_or] at hn
          obtain ⟨t', hok, -⟩ := claim_ok (c := ⟨s.now, s.branchId, s.redemptionCode,
            el.voucher.estimatedSaving⟩) (eligibility_ok hel).guard hn.1 hn.2
          simp only [hok] at he
          cases he
    · obtain ⟨e', redis, hsub⟩ := submit_blocked hel ha
      rw [hsub] at he ⊢
      rw [hsub]
      exact ⟨he, rfl, rfl⟩

/-- Sunday 29 March 2026, 12:40 in London; the user has redeemed the lunch voucher at 12:30. -/
def clockChangeLunch : Scene :=
  { cat :=
      { voucher := fun _ => some
          { status := .ACTIVE, approvalStatus := .APPROVED, type := .TIME_LIMITED, expiryDate := none,
            estimatedSaving := 5, cooldownSeconds := none, merchantId := "merchant",
            merchantStatus := .ACTIVE, availabilityWindows := [⟨0, "12:00", "14:00"⟩] }
        branch := fun _ => some ⟨"merchant", true, .LIVE, some "ciphertext"⟩
        subscription := fun _ => some ⟨.ACTIVE, 0⟩
        phoneVerified := fun _ => some true }
    decrypt := fun _ => .ok "1234"
    redemptionCode := "BBBB"
    userId := "user"
    voucherId := "voucher"
    branchId := "branch"
    now := 1774784400000
    world :=
      { tables := ⟨[redemptionData ("user", "voucher") (some 1774785600000)
          ⟨1774783800000, "branch", "AAAA", 5⟩],
          fun _ => none⟩
        redis := fun _ => none } }

end Redeemo.PinOracle
