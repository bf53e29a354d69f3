import Redeemo.Favourites.Promises

/-! Why a redemption is refused.

    For a live voucher, a subscriber and a branch that is open, the gates before the PIN refuse for one of four reasons
    (`Reason`), each of which tells what the tables and the clock look like. -/

namespace Redeemo.VoucherScreens
open CycleWindows Fallible Favourites Redemption VoucherAvailability

/-- ACTIVE or TRIALLING, with a verified phone. -/
structure Subscribed (cat : Catalog) (userId : String) (sub : Subscription) : Prop where
  subscription : cat.subscription userId = some sub
  status : sub.status = .ACTIVE ∨ sub.status = .TRIALLING
  phone : cat.phoneVerified userId = some true

/-- The branch is open for redemptions of the voucher. -/
structure Serves (cat : Catalog) (branchId : String) (v : Voucher) (b : Branch) : Prop where
  branch : cat.branch branchId = some b
  opened : b.isActive = true ∧ b.lifecycleStatus ≠ .PENDING_CREATE
  merchant : b.merchantId = v.merchantId

/-- The gates before the PIN end in the error. -/
def Refuses (cat : Catalog) (t : Tables) (userId voucherId branchId : String) (now : ℤ) (e : AppError) : Prop :=
  eligibility cat t userId voucherId branchId now = .error (.app e)

section
variable {cat : Catalog} {t : Tables} {userId voucherId branchId : String} {now : ℤ} {v : Voucher} {sub : Subscription}
  {b : Branch} {e : AppError} {windows : List AvailabilityWindow} {pair : Pair}

theorem orElse_some {α : Type} {a : α} : orElse e (some a) = .ok a := rfl

theorem require_pos {p : Prop} [Decidable p] (h : p) : require p e = .ok () := if_pos h

theorem require_eq_error {p : Prop} [Decidable p] {e' : Failure} (h : require p e = .error e') : e' = .app e := by
  rw [require] at h
  split_ifs at h
  cases h
  rfl

/-- The last gate refuses for want of a PIN only. -/
theorem pin_refuses {pin : Option String} {f : String → Eligible} {e : Failure} (h : (do
    let pin ← orElse .PIN_NOT_CONFIGURED pin
    require (pin ≠ "") .PIN_NOT_CONFIGURED
    return f pin) = Except.error e) : e = .app .PIN_NOT_CONFIGURED := by
  rcases bind_error_iff.mp h with hnone | ⟨p, -, h⟩
  · cases pin with
    | none =>
      cases hnone
      rfl
    | some p => cases hnone
  · rcases bind_error_iff.mp h with hempty | ⟨u, -, hdone⟩
    · exact require_eq_error hempty
    · cases hdone

/-- With user and branch in order, it is the voucher's own guards that refuse. -/
theorem refuses_iff (hv : cat.voucher voucherId = some v) (hl : Live v now) (hs : Subscribed cat userId sub)
    (hb : Serves cat branchId v b) (he : e ≠ .PIN_NOT_CONFIGURED) :
    Refuses cat t userId voucherId branchId now e ↔ openWindow v now = .error (.app e) ∨
      ∃ occ, openWindow v now = .ok occ ∧ typeGuard v (userId, voucherId)
        (getCurrentCycleWindow sub.cycleAnchorDate now).cycleStart (effectiveCooldownSeconds v.cooldownSeconds * 1000) now
        occ t = .error (.app e) := by
  simp only [Refuses, eligibility, hv, hb.branch, hs.subscription, orElse_some, ok_bind, require_pos hl.active,
    require_pos hl.unexpired, require_pos hb.opened, require_pos hb.merchant, require_pos hs.status, require_pos hs.phone]
  rw [bind_error_iff]
  refine or_congr_right (exists_congr fun occ => and_congr_right fun _ => ?_)
  rw [bind_error_iff]
  refine or_iff_left ?_
  rintro ⟨ws, -, h⟩
  cases pin_refuses h
  exact he rfl

theorem orApp_eq_error {α : Type} {x : Except AppError α} : orApp x = .error (.app e) ↔ x = .error e := by
  cases x <;> simp [orApp]

variable (now) in
theorem throwWithNext_eq (hr : ∀ w ∈ windows, w.Readable) (α : Type) (error : Option ℤ → AppError) :
    ∃ next, (throwWithNext windows now error : Except Failure α) = .error (.app (error next)) := by
  obtain ⟨next, hnext⟩ := getNextWindowOccurrence_ok hr now
  rw [throwWithNext, hnext]
  exact ⟨_, rfl⟩

variable (now) in
/-- Guard 3. -/
theorem openWindow_timeLimited_eq (htl : v.type = .TIME_LIMITED) (hr : ∀ w ∈ v.availabilityWindows, w.Readable) :
    (∃ occ, getCurrentWindowOccurrence v.availabilityWindows now = .ok (some occ) ∧ openWindow v now = .ok (some occ)) ∨
      getCurrentWindowOccurrence v.availabilityWindows now = .ok none ∧
        ∃ next, openWindow v now = .error (.app (.VOUCHER_OUTSIDE_AVAILABILITY_WINDOW next)) := by
  obtain ⟨current, hcurrent⟩ := getCurrentWindowOccurrence_ok hr now
  have hopen : openWindow v now = (currentWindow v.availabilityWindows now).map some := if_pos htl
  cases current with
  | some occ => exact .inl ⟨occ, hcurrent, by rw [hopen, currentWindow, hcurrent]; rfl⟩
  | none =>
    obtain ⟨next, hnext⟩ := throwWithNext_eq now hr WindowOccurrence .VOUCHER_OUTSIDE_AVAILABILITY_WINDOW
    refine .inr ⟨hcurrent, next, ?_⟩
    rw [hopen, currentWindow, hcurrent]
    exact congrArg (Except.map some) hnext

theorem typeGuard_timeLimited_error (htl : v.type = .TIME_LIMITED) {cycleStart ms : ℤ} {occ : WindowOccurrence}
    {e : Failure} : typeGuard v pair cycleStart ms now (some occ) t = .error e ↔
      windowGuard v.availabilityWindows occ (t.redemptionsOf pair) now = .error e := by
  simp only [typeGuard, htl, bind_error_iff]
  simp [pure, Except.pure]

theorem refuses_timeLimited_iff (hv : cat.voucher voucherId = some v) (hl : Live v now) (hs : Subscribed cat userId sub)
    (hb : Serves cat branchId v b) (he : e ≠ .PIN_NOT_CONFIGURED) (htl : v.type = .TIME_LIMITED)
    (hr : ∀ w ∈ v.availabilityWindows, w.Readable) : Refuses cat t userId voucherId branchId now e ↔
      (getCurrentWindowOccurrence v.availabilityWindows now = .ok none ∧ openWindow v now = .error (.app e)) ∨
      ∃ occ, getCurrentWindowOccurrence v.availabilityWindows now = .ok (some occ) ∧
        windowGuard v.availabilityWindows occ (t.redemptionsOf (userId, voucherId)) now = .error (.app e) := by
  rw [refuses_iff hv hl hs hb he]
  rcases openWindow_timeLimited_eq now htl hr with ⟨occ, hcurrent, hopen⟩ | ⟨hcurrent, next, hopen⟩
  · simp [hcurrent, hopen, typeGuard_timeLimited_error htl]
  · simp [hcurrent, hopen]

theorem refuses_reusable_iff (hv : cat.voucher voucherId = some v) (hl : Live v now) (hs : Subscribed cat userId sub)
    (hb : Serves cat branchId v b) (he : e ≠ .PIN_NOT_CONFIGURED) (hty : v.type = .REUSABLE) :
    Refuses cat t userId voucherId branchId now e ↔ cooldownGuard (t.latestRedeemedAt (userId, voucherId)) now
      (effectiveCooldownSeconds v.cooldownSeconds * 1000) = .error e := by
  have hopen : openWindow v now = .ok none := if_neg (by rw [hty]; decide)
  rw [refuses_iff hv hl hs hb he, hopen]
  simp only [typeGuard, hty, bind_error_iff, orApp_eq_error]
  simp [pure, Except.pure]

theorem refuses_cycle_iff (hv : cat.voucher voucherId = some v) (hl : Live v now) (hs : Subscribed cat userId sub)
    (hb : Serves cat branchId v b) (he : e ≠ .PIN_NOT_CONFIGURED) (hty : IsCycleType v.type) :
    Refuses cat t userId voucherId branchId now e ↔ cycleGuard (getCurrentCycleWindow sub.cycleAnchorDate now).cycleStart
      (t.cycleStates (userId, voucherId)) = .error e := by
  have hopen : openWindow v now = .ok none := if_neg hty.1
  have hguard : typeGuard v (userId, voucherId) (getCurrentCycleWindow sub.cycleAnchorDate now).cycleStart
      (effectiveCooldownSeconds v.cooldownSeconds * 1000) now none t = .error (.app e) ↔
        cycleGuard (getCurrentCycleWindow sub.cycleAnchorDate now).cycleStart (t.cycleStates (userId, voucherId)) =
          .error e := by
    cases hcase : v.type with
    | TIME_LIMITED => exact absurd hcase hty.1
    | REUSABLE => exact absurd hcase hty.2
    | _ =>
      simp only [typeGuard, hcase, bind_error_iff, orApp_eq_error]
      simp [pure, Except.pure]
  rw [refuses_iff hv hl hs hb he, hopen, ← hguard]
  simp

theorem cycleGuard_error_iff {cycleStart : ℤ} {cycleState : Option CycleState} : cycleGuard cycleStart cycleState = .error e ↔
    e = .ALREADY_REDEEMED ∧
      ∃ state ∈ cycleState, cycleStart ≤ state.cycleStartDate ∧ state.isRedeemedInCurrentCycle = true := by
  cases cycleState with
  | none => simp [cycleGuard]
  | some state =>
    rw [cycleGuard]
    split_ifs with h
    · rw [Except.error.injEq]
      exact ⟨fun he => ⟨he.symm, state, rfl, h⟩, fun he => he.1.symm⟩
    · simp [h]

theorem cooldownGuard_error_iff {latest : Option ℤ} {ms : ℤ} : cooldownGuard latest now ms = .error e ↔
    ∃ redeemedAt ∈ latest, now < redeemedAt + ms ∧ e = .REUSABLE_COOLDOWN_ACTIVE (redeemedAt + ms) := by
  cases latest with
  | none => simp [cooldownGuard]
  | some redeemedAt =>
    rw [cooldownGuard]
    split_ifs with h
    · rw [Except.error.injEq]
      constructor
      · intro he
        exact ⟨redeemedAt, rfl, h, he.symm⟩
      · rintro ⟨latest, hlatest, -, he⟩
        cases hlatest
        exact he.symm
    · simp [h]

variable (t pair now) in
theorem windowGuard_cases (occ : WindowOccurrence) (hr : ∀ w ∈ windows, w.Readable) :
    (Unused t pair occ ∧ windowGuard windows occ (t.redemptionsOf pair) now = .ok ()) ∨
      ¬ Unused t pair occ ∧ ∃ next, windowGuard windows occ (t.redemptionsOf pair) now =
        .error (.app (.ALREADY_REDEEMED_THIS_WINDOW next)) := by
  by_cases hunused : Unused t pair occ
  · exact .inl ⟨hunused, windowGuard_eq_ok.mpr hunused⟩
  · obtain ⟨next, hnext⟩ := throwWithNext_eq now hr Unit .ALREADY_REDEEMED_THIS_WINDOW
    refine .inr ⟨hunused, next, ?_⟩
    rw [windowGuard, if_pos]
    · exact hnext
    · by_contra hno
      exact hunused fun r hr hin => hno ⟨r, hr, hin⟩

/-- Why the guards of a voucher refuse it. -/
inductive Reason (v : Voucher) (t : Tables) (pair : Pair) (cycleStart now : ℤ) : AppError → Prop
  | outside {next : Option ℤ} : v.type = .TIME_LIMITED →
      getCurrentWindowOccurrence v.availabilityWindows now = .ok none →
        openWindow v now = .error (.app (.VOUCHER_OUTSIDE_AVAILABILITY_WINDOW next)) →
          Reason v t pair cycleStart now (.VOUCHER_OUTSIDE_AVAILABILITY_WINDOW next)
  | used {occ : WindowOccurrence} {next : Option ℤ} : v.type = .TIME_LIMITED →
      getCurrentWindowOccurrence v.availabilityWindows now = .ok (some occ) → ¬ Unused t pair occ →
        windowGuard v.availabilityWindows occ (t.redemptionsOf pair) now =
          .error (.app (.ALREADY_REDEEMED_THIS_WINDOW next)) →
            Reason v t pair cycleStart now (.ALREADY_REDEEMED_THIS_WINDOW next)
  | cooldown {redeemedAt : ℤ} : v.type = .REUSABLE → redeemedAt ∈ t.latestRedeemedAt pair →
      now < redeemedAt + effectiveCooldownSeconds v.cooldownSeconds * 1000 → Reason v t pair cycleStart now
        (.REUSABLE_COOLDOWN_ACTIVE (redeemedAt + effectiveCooldownSeconds v.cooldownSeconds * 1000))
  | redeemed {state : CycleState} : IsCycleType v.type → state ∈ t.cycleStates pair →
      cycleStart ≤ state.cycleStartDate ∧ state.isRedeemedInCurrentCycle = true →
        Reason v t pair cycleStart now .ALREADY_REDEEMED

/-- The gates refuse a voucher for one of these reasons. -/
theorem refuses_iff_reason (hv : cat.voucher voucherId = some v) (hl : Live v now) (hs : Subscribed cat userId sub)
    (hb : Serves cat branchId v b) (hr : ∀ w ∈ v.availabilityWindows, w.Readable) (he : e ≠ .PIN_NOT_CONFIGURED) :
    Refuses cat t userId voucherId branchId now e ↔
      Reason v t (userId, voucherId) (getCurrentCycleWindow sub.cycleAnchorDate now).cycleStart now e := by
  by_cases htl : v.type = .TIME_LIMITED
  · rw [refuses_timeLimited_iff hv hl hs hb he htl hr]
    constructor
    · rintro (⟨hnone, hopen⟩ | ⟨occ, hocc, hguard⟩)
      · rcases openWindow_timeLimited_eq now htl hr with ⟨occ, hocc, -⟩ | ⟨-, next, hnext⟩
        · cases hnone.symm.trans hocc
        · cases hopen.symm.trans hnext
          exact .outside htl hnone hopen
      · rcases windowGuard_cases t now (userId, voucherId) occ hr with ⟨-, hok⟩ | ⟨hused, next, hnext⟩
        · cases hok.symm.trans hguard
        · cases hguard.symm.trans hnext
          exact .used htl hocc hused hguard
    · intro h
      cases h with
      | outside _ hnone hopen => exact .inl ⟨hnone, hopen⟩
      | used _ hocc _ hguard => exact .inr ⟨_, hocc, hguard⟩
      | cooldown hty => cases htl.symm.trans hty
      | redeemed hty => exact absurd htl hty.1
  · by_cases hty : v.type = .REUSABLE
    · rw [refuses_reusable_iff hv hl hs hb he hty, cooldownGuard_error_iff]
      constructor
      · rintro ⟨redeemedAt, hlatest, hlt, rfl⟩
        exact .cooldown hty hlatest hlt
      · intro h
        cases h with
        | outside h => exact absurd h htl
        | used h => exact absurd h htl
        | cooldown _ hlatest hlt => exact ⟨_, hlatest, hlt, rfl⟩
        | redeemed h => exact absurd hty h.2
    · rw [refuses_cycle_iff hv hl hs hb he ⟨htl, hty⟩, cycleGuard_error_iff]
      constructor
      · rintro ⟨rfl, state, hstate, hflag⟩
        exact .redeemed ⟨htl, hty⟩ hstate hflag
      · intro h
        cases h with
        | outside h => exact absurd h htl
        | used h => exact absurd h htl
        | cooldown h => exact absurd h hty
        | redeemed _ hstate hflag => exact ⟨rfl, _, hstate, hflag⟩

end

end Redeemo.VoucherScreens
