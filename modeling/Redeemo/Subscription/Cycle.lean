import Redeemo.Shared.Dates

/-! The monthly voucher cycle: `getCurrentCycleWindow`.

    A cycle starts at midnight UTC on the anchor day of every month, clamped to the month's last
    day. Seen as a function of the month, those starts are strictly increasing (`anchorStart`), and
    the window of `now` is the one between two neighbours: the windows tile time, and an instant
    inside a window computes that same window. -/

namespace Redeemo.CycleWindows
open Calendar Dates

def clampedDate (year month day : ℤ) : ℤ :=
  let lastDay := getUTCDate (dateUTC year (month + 1) 0)
  dateUTC year month (min day lastDay)

structure CycleWindow where
  cycleStart : ℤ
  cycleEnd : ℤ
  deriving DecidableEq, Repr

def getCurrentCycleWindow (anchorDate now : ℤ) : CycleWindow :=
  let anchorDay := getUTCDate anchorDate
  let thisMonth := clampedDate (getUTCFullYear now) (getUTCMonth now) anchorDay
  let cycleStart :=
    if now < thisMonth then
      let prev := dateUTC (getUTCFullYear now) (getUTCMonth now - 1) 1
      clampedDate (getUTCFullYear prev) (getUTCMonth prev) anchorDay
    else thisMonth
  let next := dateUTC (getUTCFullYear cycleStart) (getUTCMonth cycleStart + 1) 1
  ⟨cycleStart, clampedDate (getUTCFullYear next) (getUTCMonth next) anchorDay⟩

def toMidnightUTC (date : ℤ) : ℤ :=
  dateUTC (getUTCFullYear date) (getUTCMonth date) (getUTCDate date)

/-- The window holds the instant `t`. -/
def CycleWindow.Contains (w : CycleWindow) (t : ℤ) : Prop := w.cycleStart ≤ t ∧ t < w.cycleEnd

/-- Midnight of the anchor day in month `k`, or of the month's last day if it has no such day. -/
def anchorStart (anchorDay k : ℤ) : ℤ :=
  (monthStart k + (min anchorDay (monthLen k) - 1)) * msPerDay

/-! ### Cycle starts by month -/

theorem day_anchorStart {a : ℤ} (ha : 1 ≤ a) (k : ℤ) : monthOf (day (anchorStart a k)) = k := by
  have := (monthLen_bounds k).1
  rw [anchorStart, day_mul]
  exact monthOf_day (by omega) (by omega)

theorem anchorStart_lt_succ {a : ℤ} (ha : 1 ≤ a) (k : ℤ) :
    anchorStart a k < anchorStart a (k + 1) := by
  have h0 := (monthLen_bounds k).1
  have h1 := (monthLen_bounds (k + 1)).1
  have h2 := monthStart_succ k
  simp only [anchorStart, msPerDay]
  omega

theorem anchorStart_lt_iff {a k l : ℤ} (ha : 1 ≤ a) : anchorStart a k < anchorStart a l ↔ k < l :=
  (strictMono_int_of_lt_succ (anchorStart_lt_succ ha)).lt_iff_lt

theorem anchorStart_mono {a k l : ℤ} (ha : 1 ≤ a) (h : k ≤ l) : anchorStart a k ≤ anchorStart a l :=
  (strictMono_int_of_lt_succ (anchorStart_lt_succ ha)).monotone h

theorem getUTCDate_bounds (t : ℤ) : 1 ≤ getUTCDate t := (dayOf_bounds (day t)).1

/-- `clampedDate` on the year and month of a time value is the cycle start of that month. -/
theorem clampedDate_eq {t : ℤ} (h : -31 * msPerDay ≤ t) (a : ℤ) :
    clampedDate (getUTCFullYear t) (getUTCMonth t) a = anchorStart a (monthOf (day t)) := by
  have hk := year_month t
  have hlen := (monthLen_bounds (monthOf (day t))).1
  have hs := monthStart_succ (monthOf (day t))
  -- Day 0 of the next month is the last day of this one.
  have hlast : getUTCDate (dateUTC (getUTCFullYear t) (getUTCMonth t + 1) 0)
      = monthLen (monthOf (day t)) := by
    rw [dateUTC_year h, ← add_assoc, hk, getUTCDate, day_mul]
    have he : monthStart (monthOf (day t) + 1) + (0 - 1)
        = monthStart (monthOf (day t)) + (monthLen (monthOf (day t)) - 1) := by
      rw [hs]
      ring
    rw [he]
    exact dayOf_day (by omega) le_rfl
  rw [clampedDate, hlast, dateUTC_year h, hk, anchorStart]

/-- `Date.UTC(year, month + j, 1)` falls in the `j`-th month after. -/
theorem monthOf_dateUTC_first {t : ℤ} (h : -31 * msPerDay ≤ t) (j : ℤ) :
    monthOf (day (dateUTC (getUTCFullYear t) (getUTCMonth t + j) 1)) = monthOf (day t) + j := by
  rw [dateUTC_year h, ← add_assoc, year_month, day_mul]
  have := (monthLen_bounds (monthOf (day t) + j)).1
  exact monthOf_day le_rfl (by omega)

/-- The cycle start of the `j`-th month after that of `t`, computed over its first day. -/
theorem clampedDate_month {t a : ℤ} (h : -31 * msPerDay ≤ t) (j : ℤ)
    (hj : 23639 ≤ monthOf (day t) + j) :
    clampedDate (getUTCFullYear (dateUTC (getUTCFullYear t) (getUTCMonth t + j) 1))
      (getUTCMonth (dateUTC (getUTCFullYear t) (getUTCMonth t + j) 1)) a
        = anchorStart a (monthOf (day t) + j) := by
  -- Month 23639 is December 1969.
  have hlow : monthStart 23639 ≤ monthStart (monthOf (day t) + j) := monthStart_mono hj
  have hdec : monthStart 23639 = -31 := by decide
  have hfirst : -31 * msPerDay ≤ dateUTC (getUTCFullYear t) (getUTCMonth t + j) 1 := by
    rw [dateUTC_year h, ← add_assoc, year_month]
    simp only [msPerDay]
    omega
  rw [clampedDate_eq hfirst, monthOf_dateUTC_first h]

/-- A clock reading lies between the cycle starts of the months around its own. -/
theorem anchorStart_around {a : ℤ} (ha : 1 ≤ a) (t : ℤ) :
    anchorStart a (monthOf (day t) - 1) ≤ t ∧ t < anchorStart a (monthOf (day t) + 1) := by
  obtain ⟨m, hm⟩ : ∃ m, m = monthOf (day t) := ⟨_, rfl⟩
  have hmid := monthStart_monthOf (day t)
  have hday := day_bounds t
  have hs := monthStart_succ (m - 1)
  have h0 := (monthLen_bounds (m - 1)).1
  have h1 := (monthLen_bounds (m + 1)).1
  rw [sub_add_cancel] at hs
  rw [← hm] at hmid ⊢
  simp only [anchorStart, msPerDay] at *
  constructor <;> omega

/-! ### Windows -/

/-- The month in which the cycle of `now` starts. -/
def cycleMonth (anchorDate now : ℤ) : ℤ :=
  if now < anchorStart (getUTCDate anchorDate) (monthOf (day now)) then monthOf (day now) - 1
  else monthOf (day now)

theorem monthOf_clock {now : ℤ} (h : 0 ≤ now) : 23640 ≤ monthOf (day now) := by
  have h1 := monthOf_mono (show 0 ≤ day now by unfold day msPerDay; omega)
  have h2 : monthOf 0 = 23640 := by decide
  omega

/-- While no year before 1969 comes up: the window is the one from its month's start to the next. -/
theorem getCurrentCycleWindow_of_le (anchorDate : ℤ) {now : ℤ} (h : -31 * msPerDay ≤ now)
    (hm : 23639 ≤ cycleMonth anchorDate now) :
    getCurrentCycleWindow anchorDate now
      = ⟨anchorStart (getUTCDate anchorDate) (cycleMonth anchorDate now),
        anchorStart (getUTCDate anchorDate) (cycleMonth anchorDate now + 1)⟩ := by
  have ha := getUTCDate_bounds anchorDate
  have hprev := clampedDate_month (a := getUTCDate anchorDate) h (-1)
  rw [← sub_eq_add_neg, ← sub_eq_add_neg] at hprev
  -- The end of a cycle that starts in month `k`.
  have hend : ∀ k, 23639 ≤ k → clampedDate
      (getUTCFullYear (dateUTC (getUTCFullYear (anchorStart (getUTCDate anchorDate) k))
        (getUTCMonth (anchorStart (getUTCDate anchorDate) k) + 1) 1))
      (getUTCMonth (dateUTC (getUTCFullYear (anchorStart (getUTCDate anchorDate) k))
        (getUTCMonth (anchorStart (getUTCDate anchorDate) k) + 1) 1)) (getUTCDate anchorDate)
      = anchorStart (getUTCDate anchorDate) (k + 1) := by
    intro k hk
    have hk0 : monthStart 23639 ≤ monthStart k := monthStart_mono hk
    have hdec : monthStart 23639 = -31 := by decide
    have hlen := (monthLen_bounds k).1
    have hlow : -31 * msPerDay ≤ anchorStart (getUTCDate anchorDate) k := by
      simp only [anchorStart, msPerDay]
      omega
    have hnext := clampedDate_month (a := getUTCDate anchorDate) hlow 1
    rw [day_anchorStart ha] at hnext
    exact hnext (by omega)
  simp only [cycleMonth] at hm ⊢
  simp only [getCurrentCycleWindow, clampedDate_eq h]
  split_ifs at hm ⊢ with hlt
  · rw [hprev hm, hend _ hm]
  · rw [hend _ hm]

theorem cycleMonth_clock (anchorDate : ℤ) {now : ℤ} (h : 0 ≤ now) : 23639 ≤ cycleMonth anchorDate now := by
  have hm := monthOf_clock h
  rw [cycleMonth]
  split_ifs <;> omega

theorem getCurrentCycleWindow_eq (anchorDate : ℤ) {now : ℤ} (h : 0 ≤ now) :
    getCurrentCycleWindow anchorDate now
      = ⟨anchorStart (getUTCDate anchorDate) (cycleMonth anchorDate now),
        anchorStart (getUTCDate anchorDate) (cycleMonth anchorDate now + 1)⟩ :=
  getCurrentCycleWindow_of_le anchorDate (by unfold msPerDay; omega) (cycleMonth_clock anchorDate h)

/-- The month of a cycle is the one between whose start and the next the instant lies. -/
theorem cycleMonth_spec (anchorDate t : ℤ) :
    anchorStart (getUTCDate anchorDate) (cycleMonth anchorDate t) ≤ t ∧
      t < anchorStart (getUTCDate anchorDate) (cycleMonth anchorDate t + 1) := by
  obtain ⟨hlo, hhi⟩ := anchorStart_around (getUTCDate_bounds anchorDate) t
  rw [cycleMonth]
  split_ifs with hlt
  · rw [sub_add_cancel]
    exact ⟨hlo, hlt⟩
  · exact ⟨not_lt.mp hlt, hhi⟩

theorem cycleMonth_eq {anchorDate t k : ℤ} (hlo : anchorStart (getUTCDate anchorDate) k ≤ t)
    (hhi : t < anchorStart (getUTCDate anchorDate) (k + 1)) : cycleMonth anchorDate t = k := by
  have ha := getUTCDate_bounds anchorDate
  obtain ⟨hlo', hhi'⟩ := cycleMonth_spec anchorDate t
  have h1 := (anchorStart_lt_iff ha).mp (lt_of_le_of_lt hlo hhi')
  have h2 := (anchorStart_lt_iff ha).mp (lt_of_le_of_lt hlo' hhi)
  omega

theorem cycleWindow_contains (anchorDate : ℤ) {now : ℤ} (h : 0 ≤ now) :
    (getCurrentCycleWindow anchorDate now).Contains now := by
  rw [getCurrentCycleWindow_eq anchorDate h]
  exact cycleMonth_spec anchorDate now

/-- An instant inside a window computes that window. -/
theorem cycleWindow_of_contains (anchorDate : ℤ) {s t : ℤ} (hs : 0 ≤ s)
    (h : (getCurrentCycleWindow anchorDate s).Contains t) :
    getCurrentCycleWindow anchorDate t = getCurrentCycleWindow anchorDate s := by
  have hm := cycleMonth_clock anchorDate hs
  rw [getCurrentCycleWindow_eq anchorDate hs] at h ⊢
  have hmonth := cycleMonth_eq h.1 h.2
  -- The cycle of `s` begins in December 1969 at the earliest.
  have hlow : monthStart 23639 ≤ monthStart (cycleMonth anchorDate s) := monthStart_mono hm
  have hdec : monthStart 23639 = -31 := by decide
  have hlen := (monthLen_bounds (cycleMonth anchorDate s)).1
  have ha := getUTCDate_bounds anchorDate
  have ht : -31 * msPerDay ≤ t := by
    have hstart := h.1
    simp only [anchorStart, msPerDay] at hstart ⊢
    omega
  rw [getCurrentCycleWindow_of_le anchorDate ht (by omega), hmonth]

/-- The window after a window starts where it ends. -/
theorem cycleStart_cycleEnd (anchorDate : ℤ) {now : ℤ} (h : 0 ≤ now) :
    (getCurrentCycleWindow anchorDate (getCurrentCycleWindow anchorDate now).cycleEnd).cycleStart =
      (getCurrentCycleWindow anchorDate now).cycleEnd := by
  have hend := le_trans h (cycleWindow_contains anchorDate h).2.le
  have hnext : ∀ k, cycleMonth anchorDate (anchorStart (getUTCDate anchorDate) k) = k := fun k =>
    cycleMonth_eq le_rfl (anchorStart_lt_succ (getUTCDate_bounds anchorDate) k)
  rw [getCurrentCycleWindow_eq anchorDate hend]
  rw [getCurrentCycleWindow_eq anchorDate h]
  dsimp only
  rw [hnext]

/-- The windows of an anchor date tile time. -/
structure Tiles (anchorDate now : ℤ) : Prop where
  contains : (getCurrentCycleWindow anchorDate now).Contains now
  same : ∀ t, (getCurrentCycleWindow anchorDate now).Contains t →
    getCurrentCycleWindow anchorDate t = getCurrentCycleWindow anchorDate now
  abut : (getCurrentCycleWindow anchorDate (getCurrentCycleWindow anchorDate now).cycleEnd).cycleStart =
    (getCurrentCycleWindow anchorDate now).cycleEnd

theorem cycle_windows_tile (anchorDate : ℤ) (now : ℕ) : Tiles anchorDate now where
  contains := cycleWindow_contains anchorDate (Int.natCast_nonneg now)
  same _ h := cycleWindow_of_contains anchorDate (Int.natCast_nonneg now) h
  abut := cycleStart_cycleEnd anchorDate (Int.natCast_nonneg now)

/-- Windows never run backwards. -/
theorem cycleStart_mono (anchorDate : ℤ) {s t : ℤ} (hs : 0 ≤ s) (h : s ≤ t) :
    (getCurrentCycleWindow anchorDate s).cycleStart
      ≤ (getCurrentCycleWindow anchorDate t).cycleStart := by
  have ha := getUTCDate_bounds anchorDate
  have hcs := cycleWindow_contains anchorDate hs
  have hct := cycleWindow_contains anchorDate (le_trans hs h)
  rw [getCurrentCycleWindow_eq anchorDate hs] at hcs ⊢
  rw [getCurrentCycleWindow_eq anchorDate (le_trans hs h)] at hct ⊢
  have hlt := (anchorStart_lt_iff ha).mp (lt_of_le_of_lt (le_trans hcs.1 h) hct.2)
  exact anchorStart_mono ha (by omega)

/-- Anchor day 31: on 15 February 2026 the cycle runs from 31 January to 28 February. -/
example : getCurrentCycleWindow (dateUTC 2026 0 31) (dateUTC 2026 1 15)
    = ⟨dateUTC 2026 0 31, dateUTC 2026 1 28⟩ := by decide

end Redeemo.CycleWindows
