import Redeemo.Redemption.Claims
import Redeemo.Redemption.CycleClaim
import Redeemo.Redemption.ReusableClaim
import Redeemo.Redemption.WindowClaim

/-! One call alone, in the interleaved models and in `createRedemption`.

    The interleaved models take the claims apart into their statements. Run one after the other, with
    no other call in between, the statements of one call do what the claim of `createRedemption` does:
    they commit the same tables, or the call fails and leaves the tables as they were. -/

namespace Redeemo.Alone
open Runs Redemption VoucherAvailability Fallible

/-- How a call that ran alone on `t` ends: as the claim does. -/
def EndsAs (result : Except Failure Tables) (t t' : Tables) (committed failed : Prop) : Prop :=
  (committed ∧ result = .ok t') ∨ (failed ∧ (∃ e, result = .error e) ∧ t' = t)

/-! ### Cycle vouchers -/

section
variable {e : CycleClaim.Setup} {i : ℕ} {s : CycleClaim.Store}

/-- A row that may be claimed is claimed; if there is none, it is created. -/
theorem cycle_claims (hfree : s.holder = none)
    (hg : ∀ c ∈ s.tables.cycleStates e.pair, claimWhere (e.cycleStart i) c) :
    ∃ as, run (soloStep (CycleClaim.next e) i) (s, .start) as
      = some ({ s with holder := some i }, .claimed false) := by
  have hguard := cycleGuard_ok_iff.mpr hg
  cases hc : s.tables.cycleStates e.pair with
  | none =>
    rw [hc] at hguard
    refine ⟨[.guard, .update, .create], ?_⟩
    simp [run, soloStep, CycleClaim.next, CycleClaim.acquire, hc, hguard, hfree]
  | some c =>
    rw [hc] at hguard
    refine ⟨[.guard, .update], ?_⟩
    simp [run, soloStep, CycleClaim.next, CycleClaim.acquire, hc, hguard, hfree, hg c hc]

/-- A taken code fails the first transaction, and then the second one. -/
theorem cycle_codeTaken
    (hg : ∀ c ∈ s.tables.cycleStates e.pair, claimWhere (e.cycleStart i) c)
    (hcode : CodeTaken s.tables (e.calls i).redemptionCode) :
    ∃ as, run (soloStep (CycleClaim.next e) i) ({ s with holder := some i }, .claimed false) as
      = some ({ s with holder := none }, .failed) := by
  have hins : s.tables.createRedemption (redemptionData e.pair none (e.calls i))
      = .error ⟨["redemptionCode"]⟩ := createRedemption_codeTaken hcode
  cases hc : s.tables.cycleStates e.pair with
  | none =>
    refine ⟨[.insert, .update], ?_⟩
    simp [run, soloStep, CycleClaim.next, hc, hins]
  | some c =>
    refine ⟨[.insert, .update, .insert], ?_⟩
    simp [run, soloStep, CycleClaim.next, CycleClaim.acquire, hc, hins, hg c hc]

/-- CORRECT: past its guard, the statements of a cycle claim do what `claimCycle` does. -/
theorem cycle_alone (hfree : s.holder = none)
    (hg : ∀ c ∈ s.tables.cycleStates e.pair, claimWhere (e.cycleStart i) c) :
    ∃ as s' ph, run (soloStep (CycleClaim.next e) i) (s, .start) as = some (s', ph) ∧
      EndsAs (claimCycle s.tables e.pair (e.cycleStart i) (e.calls i)) s.tables s'.tables
        (ph = .committed) (ph = .failed) := by
  obtain ⟨as, hclaimed⟩ := cycle_claims hfree hg
  by_cases hcode : CodeTaken s.tables (e.calls i).redemptionCode
  · obtain ⟨bs, hfailed⟩ := cycle_codeTaken hg hcode
    obtain ⟨err, herr, -⟩ := claimCycle_codeTaken hg hcode
    exact ⟨as ++ bs, _, .failed, run_append_eq_some.mpr ⟨_, hclaimed, hfailed⟩,
      .inr ⟨rfl, ⟨err, herr⟩, rfl⟩⟩
  · have hins := createRedemption_ok hcode (not_keyTaken_none : ¬ KeyTaken s.tables e.pair none)
    refine ⟨as ++ [.insert, .commit], ⟨e.applyCall i s.tables, none, i :: s.commits⟩, .committed,
      run_append_eq_some.mpr ⟨_, hclaimed, ?_⟩, .inl ⟨rfl, claimCycle_ok hg hcode⟩⟩
    simp [run, soloStep, CycleClaim.next, hins]

theorem cycle_alone_twoCalls : ∃ as s' ph,
    run (soloStep (CycleClaim.next CycleClaim.twoCalls) 0) (⟨⟨[], fun _ => none⟩, none, []⟩, .start) as = some (s', ph) ∧
      EndsAs (claimCycle ⟨[], fun _ => none⟩ CycleClaim.twoCalls.pair (CycleClaim.twoCalls.cycleStart 0)
        (CycleClaim.twoCalls.calls 0)) ⟨[], fun _ => none⟩ s'.tables (ph = .committed) (ph = .failed) :=
  cycle_alone (s := ⟨⟨[], fun _ => none⟩, none, []⟩) rfl (by simp)

end

/-! ### REUSABLE vouchers -/

section
variable {e : ReusableClaim.Setup} {i : ℕ} {s : ReusableClaim.Store}

/-- CORRECT: past its guard, the statements of a claim under the lock do what `claimReusable` does. -/
theorem reusable_alone (hfree : s.holder = none)
    (hg : ReusableClaim.cooldownCheck e i s.tables = .ok ()) :
    ∃ as s' ph, run (soloStep (ReusableClaim.next e) i) (s, .start) as = some (s', ph) ∧
      EndsAs (claimReusable s.tables e.pair e.effectiveCooldownMs (e.calls i)) s.tables s'.tables
        (ph = .committed) (ph = .failed) := by
  by_cases hcode : CodeTaken s.tables (e.calls i).redemptionCode
  · have hins : s.tables.createRedemption (e.row i) = .error ⟨["redemptionCode"]⟩ :=
      createRedemption_codeTaken hcode
    refine ⟨[.guard, .lock, .check, .insert], ⟨s.tables, none⟩, .failed, ?_,
      .inr ⟨rfl, ⟨_, claimReusable_codeTaken hg hcode⟩, rfl⟩⟩
    simp [run, soloStep, ReusableClaim.next, hg, hfree, hins]
  · have hins := createRedemption_ok hcode (not_keyTaken_none : ¬ KeyTaken s.tables e.pair none)
    refine ⟨[.guard, .lock, .check, .insert, .commit],
      ⟨{ s.tables with redemptions := e.row i :: s.tables.redemptions }, none⟩, .committed, ?_,
      .inl ⟨rfl, claimReusable_ok hg hcode⟩⟩
    simp [run, soloStep, ReusableClaim.next, ReusableClaim.Setup.row, hg, hfree, hins]

theorem reusable_alone_threeCalls : ∃ as s' ph,
    run (soloStep (ReusableClaim.next ReusableClaim.threeCalls) 0) (⟨⟨[], fun _ => none⟩, none⟩, .start) as =
        some (s', ph) ∧
      EndsAs (claimReusable ⟨[], fun _ => none⟩ ReusableClaim.threeCalls.pair
        ReusableClaim.threeCalls.effectiveCooldownMs (ReusableClaim.threeCalls.calls 0)) ⟨[], fun _ => none⟩ s'.tables
        (ph = .committed) (ph = .failed) :=
  reusable_alone (s := ⟨⟨[], fun _ => none⟩, none⟩) rfl rfl

end

/-! ### TIME_LIMITED vouchers -/

section
variable {e : WindowClaim.Setup} {i : ℕ} {t : Tables}

/-- The guard of the interleaved model is Guard 3 and Guard 7 of `createRedemption`. -/
theorem windowGuard_iff {windows : List AvailabilityWindow} {rs : List VoucherRedemption} {now key : ℤ} :
    WindowClaim.windowGuard windows rs now = some key ↔ ∃ occ, currentWindow windows now = .ok occ ∧
      windowGuard windows occ rs now = .ok () ∧ occ.startsAt = key := by
  rw [WindowClaim.windowGuard]
  constructor
  · intro h
    split at h
    · next occ hocc =>
      split_ifs at h with hr
      cases h
      refine ⟨occ, ?_, if_neg hr, rfl⟩
      simp only [currentWindow, hocc]
      rfl
    · cases h
  · rintro ⟨occ, hocc, hguard, rfl⟩
    rw [currentWindow_ok hocc]
    refine if_neg ?_
    rintro ⟨r, hr, hin⟩
    exact windowGuard_ok hguard r hr hin

/-- CORRECT: past its guard, the insert does what `claimWindow` does. -/
theorem window_alone {key : ℤ}
    (hg : WindowClaim.windowGuard e.windows (t.redemptionsOf e.pair) (e.calls i).now = some key) :
    ∃ as t' ph, run (soloStep (WindowClaim.next e) i) (t, .start) as = some (t', ph) ∧
      EndsAs (claimWindow t e.pair e.windows (some key) (e.calls i)) t t' (ph = .committed)
        (ph = .failed) := by
  by_cases htaken : CodeTaken t (e.calls i).redemptionCode ∨ KeyTaken t e.pair (some key)
  · obtain ⟨err, hins⟩ : ∃ err, t.createRedemption (redemptionData e.pair (some key) (e.calls i))
        = .error err := by
      by_cases hcode : CodeTaken t (e.calls i).redemptionCode
      · exact ⟨_, createRedemption_codeTaken hcode⟩
      · exact ⟨_, createRedemption_keyTaken hcode (htaken.resolve_left hcode)⟩
    obtain ⟨failure, hfailure, -⟩ := claimWindow_taken htaken
    refine ⟨[.guard, .insert], t, .failed, ?_, .inr ⟨rfl, ⟨failure, hfailure⟩, rfl⟩⟩
    simp [run, soloStep, WindowClaim.next, hg, hins]
  · rw [not_or] at htaken
    have hins := createRedemption_ok htaken.1 htaken.2
    refine ⟨[.guard, .insert], _, .committed, ?_, .inl ⟨rfl, claimWindow_ok htaken.1 htaken.2⟩⟩
    simp [run, soloStep, WindowClaim.next, hg, hins]

theorem window_alone_lateShow : ∃ key as t' ph,
    run (soloStep (WindowClaim.next ⟨WindowClaim.lateShow, ("user", "voucher"), WindowClaim.skewedCalls 1410⟩) 0)
        (⟨[], fun _ => none⟩, .start) as = some (t', ph) ∧
      EndsAs (claimWindow ⟨[], fun _ => none⟩ ("user", "voucher") WindowClaim.lateShow (some key)
        (WindowClaim.skewedCalls 1410 0)) ⟨[], fun _ => none⟩ t' (ph = .committed) (ph = .failed) :=
  ⟨_, window_alone (e := ⟨WindowClaim.lateShow, ("user", "voucher"), WindowClaim.skewedCalls 1410⟩) rfl⟩

end

end Redeemo.Alone
