import Redeemo.Lib.Runs
import Redeemo.Merchant.AvailabilityWindows
import Redeemo.Redemption.Tables

/-! Concurrent claims of a TIME_LIMITED voucher.

    A call computes the start of its occurrence before the PIN, and inserts its redemption under the
    unique key (user, voucher, start). Within an occurrence the start is one and the same, so the key
    admits one redemption. Across occurrences the starts differ, but for one pair: the start is
    computed with the offset of midnight, which on the last Sunday of March is an hour behind the
    evening, and a Sunday window that opens at 23:mm is taken for the Monday window that opens at
    00:mm (`startsAt_inj`). -/

namespace Redeemo.WindowClaim
open Runs Redemption VoucherAvailability London Dates Calendar

/-! ### The key of an occurrence -/

/-- A Sunday window that opens 23 hours of the clock after the minute a Monday window opens. -/
def SkewedPair (windows : List AvailabilityWindow) : Prop :=
  ∃ v ∈ windows, ∃ w ∈ windows, v.dayOfWeek = 0 ∧ w.dayOfWeek = 1 ∧ v.openMin = w.openMin + 1380

variable {windows : List AvailabilityWindow} {o p : Occurrence}

theorem dayOfWeek_of_holds {now : ℕ} (h : o.Holds windows now) :
    o.window.dayOfWeek = weekday o.date := by
  have := h.opened.1
  rwa [getLondonClock_eq (Int.natCast_nonneg now), h.date] at this

theorem openMin_lt_closeMin {now : ℕ} (h : o.Holds windows now) :
    o.window.openMin < o.window.closeMin := lt_of_le_of_lt h.opened.2.1 h.opened.2.2

/-- Occurrences of one date that start together are the same. -/
theorem eq_of_date (hs : Separate windows) {s t : ℕ} (ho : o.Holds windows s) (hp : p.Holds windows t)
    (hd : o.date = p.date) (he : o.startsAt = p.startsAt) : o = p := by
  have hopen : o.window.openMin = p.window.openMin := by
    simp only [Occurrence.startsAt] at he
    rw [hd] at he
    simp only [msPerMinute] at he
    omega
  have hday : o.window.dayOfWeek = p.window.dayOfWeek := by
    rw [dayOfWeek_of_holds ho, dayOfWeek_of_holds hp, hd]
  have hw := hs _ ho.mem _ hp.mem p.window.dayOfWeek p.window.openMin
    ⟨hday, hopen.le, hopen ▸ openMin_lt_closeMin ho⟩ ⟨rfl, le_rfl, openMin_lt_closeMin hp⟩
  cases o
  cases p
  cases hd
  cases hw
  rfl

/-- Occurrences of different dates that start together: the night the clocks go forward. -/
theorem skewed_of_date_lt (hr : ∀ w ∈ windows, w.Readable) {s t : ℕ} (ho : o.Holds windows s)
    (hp : p.Holds windows t) (hd : o.date < p.date) (he : o.startsAt = p.startsAt) :
    SkewedPair windows := by
  obtain ⟨-, ho0, ho1, -⟩ := (hr _ ho.mem).minutes
  obtain ⟨-, hp0, hp1, -⟩ := (hr _ hp.mem).minutes
  have hsum : (p.date - o.date) * 1440 - (midnightOffset p.date - midnightOffset o.date)
      + (p.window.openMin - o.window.openMin) = 0 := by
    simp only [Occurrence.startsAt, msPerDay, msPerMinute] at he
    omega
  have hnext : p.date = o.date + 1 ∧ midnightOffset o.date = 0 ∧ midnightOffset p.date = 60 ∧
      o.window.openMin = p.window.openMin + 1380 := by
    rcases midnightOffset_cases o.date with h0 | h0 <;>
      rcases midnightOffset_cases p.date with h1 | h1 <;> rw [h0, h1] at hsum <;> omega
  obtain ⟨hnd, h0, h1, hopen⟩ := hnext
  rw [hnd] at h1
  obtain ⟨year, hsun⟩ := clocks_forward h0 h1
  have hzero : weekday o.date = 0 := hsun ▸ (lastSunday_spec _).1
  refine ⟨o.window, ho.mem, p.window, hp.mem, ?_, ?_, hopen⟩
  · rw [dayOfWeek_of_holds ho, hzero]
  · rw [dayOfWeek_of_holds hp, hnd]
    simp only [weekday] at hzero ⊢
    omega

/-- Without such a pair the computed start names the occurrence. -/
theorem startsAt_inj (hr : ∀ w ∈ windows, w.Readable) (hs : Separate windows)
    (hskew : ¬ SkewedPair windows) {s t : ℕ} (ho : o.Holds windows s) (hp : p.Holds windows t)
    (he : o.startsAt = p.startsAt) : o = p := by
  rcases lt_trichotomy o.date p.date with hlt | heq | hgt
  · exact absurd (skewed_of_date_lt hr ho hp hlt he) hskew
  · exact eq_of_date hs ho hp heq he
  · exact absurd (skewed_of_date_lt hr hp ho hgt he.symm) hskew

/-! ### The calls -/

/-- The calls of one user for one voucher with these windows. -/
structure Setup where
  windows : List AvailabilityWindow
  pair : Pair
  calls : ℕ → Call

inductive Phase
  | start
  /-- Past the checks before the PIN, and the PIN itself. -/
  | guarded (windowStartsAt : ℤ)
  | committed
  | failed
  deriving DecidableEq

inductive Act
  | guard | insert | abandon
  deriving DecidableEq

/-- The check before the PIN on a TIME_LIMITED voucher: the start of the current occurrence, unless
    the user has redeemed between its two ends. -/
def windowGuard (windows : List AvailabilityWindow) (redemptions : List VoucherRedemption) (now : ℤ) :
    Option ℤ :=
  match getCurrentWindowOccurrence windows now with
  | .ok (some occ) =>
    if ∃ r ∈ redemptions, occ.startsAt ≤ r.redeemedAt ∧ r.redeemedAt < occ.endsAt then none
    else some occ.startsAt
  | _ => none

/-- The claim is one statement in a transaction of its own. -/
def next (e : Setup) (i : ℕ) (t : Tables) (ph : Phase) (a : Act) : Option (Tables × Phase) :=
  match ph, a with
  | .start, .guard =>
    match windowGuard e.windows (t.redemptionsOf e.pair) (e.calls i).now with
    | some windowStartsAt => some (t, .guarded windowStartsAt)
    | none => some (t, .failed)
  | .guarded windowStartsAt, .insert =>
    match t.createRedemption (redemptionData e.pair (some windowStartsAt) (e.calls i)) with
    | .ok t' => some (t', .committed)
    | .error _ => some (t, .failed)
  | .committed, _ => none
  | .failed, _ => none
  | _, .abandon => some (t, .failed)
  | _, _ => none

/-- No call has begun. -/
def initial (t : Tables) : Pool ℕ Tables Phase := ⟨t, fun _ => .start⟩

/-- No two redemptions of the voucher lie in one occurrence. -/
def OncePerOccurrence (e : Setup) (s : Pool ℕ Tables Phase) : Prop :=
  (s.store.redemptionsOf e.pair).Pairwise fun r₁ r₂ =>
    ∀ o : Occurrence, ¬ (o.Holds e.windows r₁.redeemedAt ∧ o.Holds e.windows r₂.redeemedAt)

/-- A redemption that stands in the way of a call's insert is one in the call's own occurrence. -/
def NoFalseBlock (e : Setup) (s : Pool ℕ Tables Phase) : Prop :=
  ∀ i windowStartsAt, s.proc i = .guarded windowStartsAt →
    ∀ r ∈ s.store.redemptionsOf e.pair, r.windowStartsAt = some windowStartsAt →
      ∃ o : Occurrence, o.Holds e.windows r.redeemedAt ∧ o.Holds e.windows (e.calls i).now

/-- In every run that starts without a redemption of the voucher. -/
def ClaimsCorrect (windows : List AvailabilityWindow) : Prop :=
  ∀ (pair : Pair) (calls : ℕ → Call) (t₀ : Tables) (as : List (ℕ × Act)) (s : Pool ℕ Tables Phase),
    t₀.redemptionsOf pair = [] →
    run (poolStep (next ⟨windows, pair, calls⟩)) (initial t₀) as = some s →
    OncePerOccurrence ⟨windows, pair, calls⟩ s ∧ NoFalseBlock ⟨windows, pair, calls⟩ s

/-! ### The invariant -/

/-- The start under which a reading's redemption is stored. -/
def Keyed (windows : List AvailabilityWindow) (now : ℕ) (windowStartsAt : ℤ) : Prop :=
  ∃ o : Occurrence, o.Holds windows now ∧ windowStartsAt = o.startsAt

/-- Every redemption of the voucher is stored under the start of its occurrence, no two under the
    same. -/
structure TablesInv (e : Setup) (t : Tables) : Prop where
  keyed : ∀ r ∈ t.redemptionsOf e.pair, ∃ now : ℕ, r.redeemedAt = now ∧
    ∃ key, r.windowStartsAt = some key ∧ Keyed e.windows now key
  distinct : (t.redemptionsOf e.pair).Pairwise fun r₁ r₂ => r₁.windowStartsAt ≠ r₂.windowStartsAt

def CallInv (e : Setup) (i : ℕ) (ph : Phase) : Prop :=
  ∀ key, ph = .guarded key → Keyed e.windows (e.calls i).now key

section
variable {e : Setup} {i : ℕ} {t t' : Tables} {ph ph' : Phase} {a : Act}

theorem keyed_of_windowGuard (hr : ∀ w ∈ windows, w.Readable) {rs : List VoucherRedemption} {now : ℕ}
    {key : ℤ} (h : windowGuard windows rs now = some key) : Keyed windows now key := by
  rw [windowGuard] at h
  rcases getCurrentWindowOccurrence_eq hr now with ⟨hocc, -⟩ | ⟨o, ho, hocc⟩
  · rw [hocc] at h
    cases h
  · rw [hocc] at h
    dsimp only at h
    split_ifs at h
    cases h
    exact ⟨o, ho, rfl⟩

/-- A step writes nothing and may leave the call with the key of its reading; or it inserts. -/
theorem next_cases (hr : ∀ w ∈ e.windows, w.Readable) (h : next e i t ph a = some (t', ph')) :
    (t' = t ∧ CallInv e i ph') ∨
    ∃ key, ph = .guarded key ∧ ph' = .committed ∧
      t.createRedemption (redemptionData e.pair (some key) (e.calls i)) = .ok t' := by
  cases ph with
  | start =>
    cases a with
    | guard =>
      simp only [next] at h
      split at h
      · next key hkey =>
        cases h
        refine .inl ⟨rfl, fun k hk => ?_⟩
        cases hk
        exact keyed_of_windowGuard hr hkey
      · cases h
        exact .inl ⟨rfl, by simp [CallInv]⟩
    | abandon =>
      cases h
      exact .inl ⟨rfl, by simp [CallInv]⟩
    | insert => cases h
  | guarded key =>
    cases a with
    | insert =>
      simp only [next] at h
      split at h
      · next hok =>
        cases h
        exact .inr ⟨key, rfl, rfl, hok⟩
      · cases h
        exact .inl ⟨rfl, by simp [CallInv]⟩
    | abandon =>
      cases h
      exact .inl ⟨rfl, by simp [CallInv]⟩
    | guard => cases h
  | committed => cases h
  | failed => cases h

theorem own_step (hr : ∀ w ∈ e.windows, w.Readable) (hj : TablesInv e t) (hk : CallInv e i ph)
    (h : next e i t ph a = some (t', ph')) : TablesInv e t' ∧ CallInv e i ph' := by
  rcases next_cases hr h with ⟨rfl, hk'⟩ | ⟨key, rfl, rfl, hins⟩
  · exact ⟨hj, hk'⟩
  · obtain ⟨rfl, -, hkey⟩ := Tables.createRedemption_eq_ok hins
    refine ⟨⟨?_, ?_⟩, by simp [CallInv]⟩
    · rw [Tables.redemptionsOf_redemptionData, List.forall_mem_cons]
      exact ⟨⟨_, rfl, key, rfl, hk key rfl⟩, hj.keyed⟩
    · rw [Tables.redemptionsOf_redemptionData, List.pairwise_cons]
      exact ⟨fun r hrm => (hkey rfl r hrm).symm, hj.distinct⟩

end

/-- Every run keeps the invariant. -/
theorem run_inv (hr : ∀ w ∈ windows, w.Readable) {pair : Pair} {calls : ℕ → Call} {t₀ : Tables}
    {as : List (ℕ × Act)} {s : Pool ℕ Tables Phase} (h0 : t₀.redemptionsOf pair = [])
    (hrun : run (poolStep (next ⟨windows, pair, calls⟩)) (initial t₀) as = some s) :
    TablesInv ⟨windows, pair, calls⟩ s.store ∧
      ∀ i, CallInv ⟨windows, pair, calls⟩ i (s.proc i) := by
  have hinit : PoolInv (TablesInv ⟨windows, pair, calls⟩)
      (fun i _ ph => CallInv ⟨windows, pair, calls⟩ i ph) (initial t₀) := by
    refine ⟨⟨?_, ?_⟩, by simp [initial, CallInv]⟩
    · simp [initial, h0]
    · simp [initial, h0]
  exact pool_invariant (J := TablesInv ⟨windows, pair, calls⟩)
    (K := fun i _ ph => CallInv ⟨windows, pair, calls⟩ i ph)
    (fun _ _ _ _ _ _ hj hk h => own_step hr hj hk h)
    (fun _ _ _ _ _ _ _ _ _ _ _ hm _ => hm) hinit hrun

/-- Every occurrence is redeemed once at most, whatever the windows. -/
theorem once_per_occurrence (hs : Separate windows) {pair : Pair} {calls : ℕ → Call}
    {s : Pool ℕ Tables Phase} (hj : TablesInv ⟨windows, pair, calls⟩ s.store) :
    OncePerOccurrence ⟨windows, pair, calls⟩ s := by
  refine hj.distinct.imp_of_mem fun {r₁ r₂} h₁ h₂ hne o ⟨ho₁, ho₂⟩ => hne ?_
  obtain ⟨n₁, he₁, k₁, hk₁, p₁, hp₁, rfl⟩ := hj.keyed r₁ h₁
  obtain ⟨n₂, he₂, k₂, hk₂, p₂, hp₂, rfl⟩ := hj.keyed r₂ h₂
  rw [he₁] at ho₁
  rw [he₂] at ho₂
  rw [hk₁, hk₂, hp₁.unique hs ho₁, hp₂.unique hs ho₂]

theorem no_false_block (hr : ∀ w ∈ windows, w.Readable) (hs : Separate windows)
    (hskew : ¬ SkewedPair windows) {pair : Pair} {calls : ℕ → Call} {s : Pool ℕ Tables Phase}
    (hj : TablesInv ⟨windows, pair, calls⟩ s.store)
    (hk : ∀ i, CallInv ⟨windows, pair, calls⟩ i (s.proc i)) :
    NoFalseBlock ⟨windows, pair, calls⟩ s := by
  intro i key hi r hrm hkey
  obtain ⟨o, ho, rfl⟩ := hk i key hi
  obtain ⟨n, he, k, hk', p, hp, rfl⟩ := hj.keyed r hrm
  rw [hk', Option.some.injEq] at hkey
  obtain rfl := startsAt_inj hr hs hskew hp ho hkey
  exact ⟨p, he ▸ hp, ho⟩

/-! ### The night of 29 March 2026 -/

/-- 29 March 2026, the last Sunday of the month. -/
def springSunday : ℤ := 20541

/-- The instant at which the London clock shows minute `m` of that evening. -/
def eveningInstant (m : ℤ) : ℤ := springSunday * msPerDay + (m - 60) * msPerMinute

theorem londonOffset_evening {t : ℤ} (h0 : springSunday * msPerDay + msPerHour ≤ t)
    (h1 : t < (springSunday + 1) * msPerDay) : londonOffset t = 60 := by
  have hday : day t = springSunday := by
    simp only [day, msPerDay, msPerHour, springSunday] at *
    omega
  have hyear : getUTCFullYear t = 2026 := by
    rw [getUTCFullYear, hday]
    decide
  have hstart : bstStart 2026 = springSunday * msPerDay + msPerHour := by decide
  have hend : (springSunday + 1) * msPerDay ≤ bstEnd 2026 := by decide
  rw [londonOffset, hyear, if_pos ⟨by omega, by omega⟩]

/-- From the evening on, the London clock is an hour ahead: minute 1440 is Monday's midnight. -/
theorem londonWall_evening {m : ℤ} (h0 : 120 ≤ m) (h1 : m < 1500) :
    londonWall (eveningInstant m) = springSunday * msPerDay + m * msPerMinute := by
  rw [londonWall, londonOffset_evening]
  · simp only [eveningInstant, msPerMinute]
    omega
  · simp only [eveningInstant, msPerDay, msPerHour, msPerMinute]
    omega
  · simp only [eveningInstant, msPerDay, msPerMinute]
    omega

/-- A window that opens at minute `m` of that evening, `m` counted on past midnight into Monday. -/
theorem holds_evening {w : AvailabilityWindow} (hw : w ∈ windows) (hlt : w.openMin < w.closeMin)
    {m : ℤ} (h0 : 120 ≤ m) (h1 : m < 1500) {n : ℕ} (hn : (n : ℤ) = eveningInstant m)
    (hday : w.dayOfWeek = m / 1440) (hopen : w.openMin = m % 1440) :
    (Occurrence.mk (springSunday + m / 1440) w).Holds windows n := by
  have hwall := londonWall_evening h0 h1
  have hdate : londonDay (eveningInstant m) = springSunday + m / 1440 := by
    rw [londonDay, hwall]
    simp only [day, msPerDay, msPerMinute]
    omega
  refine ⟨hw, by rw [hn]; exact hdate, ?_⟩
  rw [getLondonClock_eq (Int.natCast_nonneg n), hn, hdate, hwall]
  refine ⟨?_, ?_, ?_⟩
  · have hsun : springSunday = 20541 := rfl
    dsimp only
    rw [hday, hsun]
    simp only [weekday]
    omega
  · dsimp only
    simp only [msPerDay, msPerMinute]
    omega
  · dsimp only
    simp only [msPerDay, msPerMinute]
    omega

/-- The Sunday call at the opening of its window, then the Monday call at the opening of its own. -/
def skewedCalls (m : ℤ) (i : ℕ) : Call :=
  if i = 0 then ⟨(eveningInstant m).toNat, "branch", "AAAA", 5⟩
  else ⟨(eveningInstant (m + 60)).toNat, "branch", "BBBB", 5⟩

theorem windowGuard_of_holds (hr : ∀ w ∈ windows, w.Readable) (hs : Separate windows)
    {rs : List VoucherRedemption} {now : ℕ} (ho : o.Holds windows now)
    (hrs : ∀ r ∈ rs, ¬ (o.startsAt ≤ r.redeemedAt ∧ r.redeemedAt < o.endsAt)) :
    windowGuard windows rs now = some o.startsAt := by
  rcases getCurrentWindowOccurrence_eq hr now with ⟨-, hnone⟩ | ⟨p, hp, hocc⟩
  · exact absurd ho (hnone o)
  · obtain rfl := hp.unique hs ho
    rw [windowGuard, hocc]
    dsimp only
    rw [if_neg]
    rintro ⟨r, hrm, hin⟩
    exact hrs r hrm hin

/-- The Sunday occurrence is stored an hour late. -/
theorem startsAt_sunday (w : AvailabilityWindow) :
    (Occurrence.mk springSunday w).startsAt = eveningInstant (w.openMin + 60) := by
  have hoff : midnightOffset springSunday = 0 := by decide
  unfold Occurrence.startsAt eveningInstant msPerDay msPerMinute
  dsimp only
  rw [hoff]
  omega

/-- The Monday occurrence is stored under its true start. -/
theorem startsAt_monday (w : AvailabilityWindow) :
    (Occurrence.mk (springSunday + 1) w).startsAt = eveningInstant (w.openMin + 1440) := by
  have hoff : midnightOffset (springSunday + 1) = 60 := by decide
  unfold Occurrence.startsAt eveningInstant msPerDay msPerMinute
  dsimp only
  rw [hoff]
  omega

/-- A first call that redeems under a key which the second call's guard gives out as well. -/
theorem run_same_key {pair : Pair} {c : ℕ → Call} {key : ℤ}
    (h0 : windowGuard windows [] (c 0).now = some key)
    (h1 : windowGuard windows [redemptionData pair (some key) (c 0)] (c 1).now = some key) :
    ∃ s, run (poolStep (next ⟨windows, pair, c⟩)) (initial ⟨[], fun _ => none⟩)
        [(0, .guard), (0, .insert), (1, .guard)] = some s ∧
      s.store.redemptionsOf pair = [redemptionData pair (some key) (c 0)] ∧
      s.proc 1 = .guarded key := by
  have hempty : ({ redemptions := [], cycleStates := fun _ => none } : Tables).redemptionsOf pair = [] :=
    rfl
  have hof : ({ redemptions := [redemptionData pair (some key) (c 0)], cycleStates := fun _ => none } :
      Tables).redemptionsOf pair = [redemptionData pair (some key) (c 0)] := by
    exact Tables.redemptionsOf_redemptionData (t := ⟨[], fun _ => none⟩)
  have hguard0 : next ⟨windows, pair, c⟩ 0 ⟨[], fun _ => none⟩ .start .guard
      = some (⟨[], fun _ => none⟩, .guarded key) := by
    simp only [next, hempty, h0]
  have hinsert : next ⟨windows, pair, c⟩ 0 ⟨[], fun _ => none⟩ (.guarded key) .insert
      = some (⟨[redemptionData pair (some key) (c 0)], fun _ => none⟩, .committed) := by
    simp [next, Tables.createRedemption, redemptionData, Tables.redemptionsOf]
  have hguard1 : next ⟨windows, pair, c⟩ 1 ⟨[redemptionData pair (some key) (c 0)], fun _ => none⟩
      .start .guard = some (⟨[redemptionData pair (some key) (c 0)], fun _ => none⟩, .guarded key) := by
    simp only [next, hof, h1]
  refine ⟨⟨⟨[redemptionData pair (some key) (c 0)], fun _ => none⟩, Function.update (Function.update
    (Function.update (fun _ => .start) 0 (.guarded key)) 0 .committed) 1 (.guarded key)⟩, ?_, hof, ?_⟩
  · simp [run, poolStep, initial, hguard0, hinsert, hguard1]
  · simp

/-- The Sunday redemption is stored under the start of the Monday occurrence, and the Monday call
    runs into it. -/
theorem skewed_blocks (hr : ∀ w ∈ windows, w.Readable ∧ w.openMin < w.closeMin)
    (hs : Separate windows) (hskew : SkewedPair windows) : ¬ ClaimsCorrect windows := by
  obtain ⟨v, hv, w, hw, hvd, hwd, hopen⟩ := hskew
  have hread : ∀ w ∈ windows, w.Readable := fun w hw => (hr w hw).1
  obtain ⟨-, hv0, hv1, -⟩ := (hread v hv).minutes
  obtain ⟨-, hw0, -⟩ := (hread w hw).minutes
  obtain ⟨c, hc⟩ : ∃ c, c = skewedCalls v.openMin := ⟨_, rfl⟩
  have hnow0 : ((c 0).now : ℤ) = eveningInstant v.openMin := by
    rw [hc]
    exact Int.toNat_of_nonneg (by unfold eveningInstant springSunday msPerDay msPerMinute; omega)
  have hnow1 : ((c 1).now : ℤ) = eveningInstant (v.openMin + 60) := by
    rw [hc]
    exact Int.toNat_of_nonneg (by unfold eveningInstant springSunday msPerDay msPerMinute; omega)
  have hsunday : v.openMin / 1440 = 0 := by omega
  have hmonday : (v.openMin + 60) / 1440 = 1 := by omega
  have ho := holds_evening hv (hr v hv).2 (by omega) (by omega) hnow0 (by omega) (by omega)
  have hp := holds_evening hw (hr w hw).2 (by omega) (by omega) hnow1 (by omega) (by omega)
  rw [hsunday, add_zero] at ho
  rw [hmonday] at hp
  have hkey0 := startsAt_sunday v
  have hkey1 := startsAt_monday w
  rw [show w.openMin + 1440 = v.openMin + 60 by omega] at hkey1
  have hguard0 : windowGuard windows [] (c 0).now = some (eveningInstant (v.openMin + 60)) := by
    rw [← hkey0]
    exact windowGuard_of_holds hread hs ho (by simp)
  obtain ⟨row, hrow⟩ : ∃ row, row = redemptionData ("user", "voucher")
    (some (eveningInstant (v.openMin + 60))) (c 0) := ⟨_, rfl⟩
  have hat : row.redeemedAt = (c 0).now := by rw [hrow]; rfl
  have hguard1 : windowGuard windows [row] (c 1).now = some (eveningInstant (v.openMin + 60)) := by
    rw [← hkey1]
    refine windowGuard_of_holds hread hs hp ?_
    simp only [List.mem_singleton, forall_eq, hkey1, hat, hnow0]
    simp only [eveningInstant, msPerMinute]
    omega
  rw [hrow] at hguard1
  obtain ⟨s, hrun, hrows, hproc⟩ := run_same_key hguard0 hguard1
  intro hcorrect
  obtain ⟨q, hq0, hq1⟩ := (hcorrect _ _ _ _ _ rfl hrun).2 1 _ hproc row
    (by rw [hrows, hrow]; simp) (by rw [hrow]; rfl)
  -- The two readings fall on two dates.
  rw [hat] at hq0
  have hd := hq0.date.symm.trans ho.date
  have hd' := hq1.date.symm.trans hp.date
  dsimp only at hd hd'
  omega

/-- CORRECT up to the night the clocks go forward: for windows that were accepted, every occurrence
    is redeemed once at most and no two occurrences share a key, in every run, if and only if no
    Sunday window opens 23 hours of the clock after a Monday window does. -/
theorem window_claims_correct_iff (windows : List AvailabilityWindow)
    (h : AvailabilityWindows.validateAvailabilityWindows .TIME_LIMITED (some windows) = .ok ()) :
    ClaimsCorrect windows ↔ ¬ SkewedPair windows := by
  obtain ⟨hr, hs⟩ := AvailabilityWindows.separate_of_ok h
  have hread : ∀ w ∈ windows, w.Readable := fun w hw => (hr w hw).1
  constructor
  · intro hcorrect hskew
    exact skewed_blocks hr hs hskew hcorrect
  · intro hskew pair calls t₀ as s h0 hrun
    obtain ⟨hj, hk⟩ := run_inv hread h0 hrun
    exact ⟨once_per_occurrence hs hj, no_false_block hread hs hskew hj hk⟩

/-- Sunday from 23:30 to midnight and Monday from 00:30 to 01:30. -/
def lateShow : List AvailabilityWindow := [⟨0, "23:30", "24:00"⟩, ⟨1, "00:30", "01:30"⟩]

theorem window_claims_correct_iff_lunch : ClaimsCorrect [⟨0, "12:00", "14:00"⟩, ⟨1, "12:00", "14:00"⟩] :=
  (window_claims_correct_iff _ (by decide)).mpr (by unfold SkewedPair; decide)

/-- Redeemed at 23:30 on the Sunday, refused at 00:30 on the Monday, which nobody has redeemed in. -/
theorem not_claims_correct_lateShow :
    AvailabilityWindows.validateAvailabilityWindows .TIME_LIMITED (some lateShow) = .ok () ∧
      (∃ s, run (poolStep (next ⟨lateShow, ("user", "voucher"), skewedCalls 1410⟩))
        (initial ⟨[], fun _ => none⟩)
        [(0, .guard), (0, .insert), (1, .guard), (1, .insert)] = some s ∧
        s.proc 0 = .committed ∧ s.proc 1 = .failed ∧
        (Occurrence.mk 20541 ⟨0, "23:30", "24:00"⟩).Holds lateShow (skewedCalls 1410 0).now ∧
        (Occurrence.mk 20542 ⟨1, "00:30", "01:30"⟩).Holds lateShow (skewedCalls 1410 1).now) ∧
      ¬ ClaimsCorrect lateShow := by
  have hok : AvailabilityWindows.validateAvailabilityWindows .TIME_LIMITED (some lateShow) = .ok () := by
    decide
  obtain ⟨hr, hs⟩ := AvailabilityWindows.separate_of_ok hok
  refine ⟨hok, ⟨_, rfl, rfl, rfl, ⟨by simp [lateShow], by decide, by decide⟩,
    ⟨by simp [lateShow], by decide, by decide⟩⟩, ?_⟩
  exact skewed_blocks hr hs ⟨⟨0, "23:30", "24:00"⟩, by simp [lateShow], ⟨1, "00:30", "01:30"⟩,
    by simp [lateShow], rfl, rfl, by decide⟩

end Redeemo.WindowClaim
