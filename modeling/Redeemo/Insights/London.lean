import Redeemo.Lib.Fallible
import Redeemo.Shared.LondonClock
import Redeemo.Shared.WallTime

/-! The periods of the insights: half-open windows from one London month edge to another.

    The edges are computed in two passes over the London offset. At the start of a month the passes agree, and the
    instant they yield is the first whose London date is in the month (`monthStartUtc_le_iff`). -/

namespace Redeemo.Insights
open Calendar Dates Fallible London WallTime

structure LondonWall where
  year : ℤ
  /-- From 1. -/
  month : ℤ
  day : ℤ
  hour : ℤ
  minute : ℤ

/-- `Math.round(ms / 60000)`. -/
def roundMinutes (ms : ℤ) : ℤ := (2 * ms + msPerMinute) / (2 * msPerMinute)

/-- The wall clock, read part by part down to the second and taken for UTC, less the instant. -/
def londonOffsetMinutesAt (utc : ℤ) : ℤ :=
  let parts := formatToParts utc
  let second := londonWall utc % msPerMinute / 1000
  let wall := dateUTC parts.year (parts.month - 1) parts.day +
    ((if parts.hour = 24 then 0 else parts.hour) * msPerHour + parts.minute * msPerMinute + second * 1000)
  roundMinutes (wall - utc)

def londonRangeUtc (wall : LondonWall) : ℤ :=
  let naiveUtcMs := dateUTC wall.year (wall.month - 1) wall.day + (wall.hour * msPerHour + wall.minute * msPerMinute)
  let guess1 := naiveUtcMs - londonOffsetMinutesAt naiveUtcMs * msPerMinute
  naiveUtcMs - londonOffsetMinutesAt guess1 * msPerMinute

/-- A London month, from its first instant to that of the next. -/
def londonMonthWindow (year month : ℤ) : ℤ × ℤ :=
  let nextYear := if month = 12 then year + 1 else year
  let nextMonth := if month = 12 then 1 else month + 1
  (londonRangeUtc ⟨year, month, 1, 0, 0⟩, londonRangeUtc ⟨nextYear, nextMonth, 1, 0, 0⟩)

structure YearMonth where
  year : ℤ
  /-- From 1. -/
  month : ℤ
  deriving DecidableEq, Repr

def londonYearMonth (utc : ℤ) : YearMonth := ⟨(formatToParts utc).year, (formatToParts utc).month⟩

/-- JavaScript's `%` has the sign of the dividend. -/
def addMonths (year month delta : ℤ) : YearMonth :=
  let zeroBased := year * 12 + (month - 1) + delta
  ⟨zeroBased / 12, zeroBased.tmod 12 + 1⟩

def invalidYearMonth (s : String) : String := "Invalid YYYY-MM value: " ++ s
def invalidMonth (s : String) : String := "Invalid month in YYYY-MM value: " ++ s

/-- `/^(\d{4})-(\d{2})$/`, and the two numbers. -/
def parseYearMonth (s : String) : Except String YearMonth :=
  match s.toList with
  | [y1, y2, y3, y4, dash, m1, m2] =>
    if y1.isDigit ∧ y2.isDigit ∧ y3.isDigit ∧ y4.isDigit ∧ dash = '-' ∧ m1.isDigit ∧ m2.isDigit then
      let month := digitsValue [m1, m2]
      if month < 1 ∨ 12 < month then .error (invalidMonth s) else .ok ⟨digitsValue [y1, y2, y3, y4], month⟩
    else .error (invalidYearMonth s)
  | _ => .error (invalidYearMonth s)

inductive PeriodPreset
  | this_month | last_month | last_3m | last_6m | all | custom
  deriving DecidableEq, Repr

structure CustomRange where
  «from» : String
  «to» : String
  deriving DecidableEq, Repr

def noCustomRange : String := "custom period requires a { from, to } range"

def requireCustom (custom : Option CustomRange) : Except String CustomRange :=
  match custom with
  | none => .error noCustomRange
  | some range => .ok range

/-- Months in a row, counted from year 0. -/
def YearMonth.abs (ym : YearMonth) : ℤ := ym.year * 12 + (ym.month - 1)

def isPeriodComplete (period : PeriodPreset) (now : ℤ) (custom : Option CustomRange) : Except String Bool :=
  match period with
  | .all | .this_month => .ok false
  | .last_month | .last_3m | .last_6m => .ok true
  | .custom => do
    let range ← requireCustom custom
    let «to» ← parseYearMonth range.«to»
    return «to».abs < (londonYearMonth now).abs

/-- The months of the two spans. -/
def span (period : PeriodPreset) : ℤ := if period = .last_3m then 3 else 6

/-- The window of the same length just before, of a period that is over. -/
def resolveComparisonWindow (period : PeriodPreset) (now : ℤ) (custom : Option CustomRange) :
    Except String (Option (ℤ × ℤ)) := do
  let cur := londonYearMonth now
  match period with
  | .all | .this_month => return none
  | .last_month =>
    let prev := addMonths cur.year cur.month (-1)
    let cmp := addMonths prev.year prev.month (-1)
    return some (londonMonthWindow cmp.year cmp.month)
  | .last_3m | .last_6m =>
    let cmpStart := addMonths cur.year cur.month (-2 * span period)
    let cmpEnd := addMonths cur.year cur.month (-span period)
    return some ((londonMonthWindow cmpStart.year cmpStart.month).1, (londonMonthWindow cmpEnd.year cmpEnd.month).1)
  | .custom =>
    if ← isPeriodComplete period now custom then
      let range ← requireCustom custom
      let «from» ← parseYearMonth range.«from»
      let «to» ← parseYearMonth range.«to»
      let cmpStart := addMonths «from».year «from».month (-(«to».abs - «from».abs + 1))
      return some ((londonMonthWindow cmpStart.year cmpStart.month).1, (londonMonthWindow «from».year «from».month).1)
    else return none

structure PeriodWindow where
  /-- `none` is open-ended. -/
  startUtc : Option ℤ
  endUtc : ℤ
  comparison : Option (ℤ × ℤ)
  label : PeriodPreset
  deriving DecidableEq, Repr

def periodWindow (period : PeriodPreset) (now : ℤ) (custom : Option CustomRange) : Except String PeriodWindow := do
  let cur := londonYearMonth now
  match period with
  | .this_month => return ⟨some (londonMonthWindow cur.year cur.month).1, now, none, period⟩
  | .last_month =>
    let prev := addMonths cur.year cur.month (-1)
    let w := londonMonthWindow prev.year prev.month
    return ⟨some w.1, w.2, ← resolveComparisonWindow period now none, period⟩
  | .last_3m | .last_6m =>
    let first := addMonths cur.year cur.month (-span period)
    return ⟨some (londonMonthWindow first.year first.month).1, (londonMonthWindow cur.year cur.month).1,
      ← resolveComparisonWindow period now none, period⟩
  | .all => return ⟨none, now, none, period⟩
  | .custom =>
    let range ← requireCustom custom
    let «from» ← parseYearMonth range.«from»
    let «to» ← parseYearMonth range.«to»
    let afterTo := addMonths «to».year «to».month 1
    return ⟨some (londonMonthWindow «from».year «from».month).1, (londonMonthWindow afterTo.year afterTo.month).1,
      ← resolveComparisonWindow period now custom, period⟩

/-! ### Parts of a day -/

structure Daypart where
  label : String
  startHour : ℤ
  endHour : ℤ
  deriving DecidableEq, Repr

def DAYPARTS : List Daypart :=
  [⟨"Overnight", 0, 7⟩, ⟨"Morning", 7, 12⟩, ⟨"Lunch", 12, 15⟩, ⟨"Afternoon", 15, 18⟩, ⟨"Evening", 18, 22⟩,
    ⟨"Late", 22, 24⟩]

/-! ### The first instant of a month -/

/-- The London month of an instant, `12 * year + (month - 1)`. -/
def londonMonth (t : ℤ) : ℤ := monthOf (londonDay t)

def monthStartUtc (k : ℤ) : ℤ := monthStart k * msPerDay - midnightOffset (monthStart k) * msPerMinute

theorem le_monthOf_iff {k n : ℤ} : k ≤ monthOf n ↔ monthStart k ≤ n := by
  constructor
  · intro h
    exact (monthStart_mono h).trans (monthStart_monthOf_le n)
  · intro h
    have := lt_of_le_of_lt h (lt_monthStart_monthOf_succ n)
    have := monthStart_lt_iff.mp this
    omega

/-- No clock change in the last hour of a month. -/
theorem londonOffset_lastHour {k t : ℤ} (hlo : monthStart k * msPerDay - msPerHour ≤ t)
    (hhi : t < monthStart k * msPerDay) : londonOffset t = midnightOffset (monthStart k) := by
  have hday : day t = monthStart k - 1 := by
    simp only [day, msPerDay, msPerHour] at *
    omega
  have hmonth : monthOf (monthStart k - 1) = k - 1 := by
    rw [monthOf_eq_iff, sub_add_cancel]
    have := monthStart_lt_succ (k - 1)
    rw [sub_add_cancel] at this
    omega
  have hstart : monthOf (monthStart k) = k := by
    rw [monthOf_eq_iff]
    exact ⟨le_refl _, monthStart_lt_succ k⟩
  rw [londonOffset, getUTCFullYear, hday, hmonth, midnightOffset_eq, hstart]
  simp only [bstStart, bstEnd]
  congr 1
  rw [eq_iff_iff]
  by_cases hyear : (k - 1) / 12 = k / 12
  · rw [hyear]
    simp only [msPerDay, msPerHour] at *
    constructor
    · rintro ⟨h1, h2⟩
      constructor <;> omega
    · rintro ⟨h1, h2⟩
      constructor <;> omega
  · -- The year ends: both sides are in winter.
    have hk : (k - 1) / 12 = k / 12 - 1 ∧ 12 * (k / 12) = k := by omega
    obtain ⟨-, -, hoct⟩ := lastSunday_spec (12 * ((k - 1) / 12) + 9)
    obtain ⟨-, hmar, -⟩ := lastSunday_spec (12 * (k / 12) + 2)
    have hmono1 := monthStart_mono (show 12 * ((k - 1) / 12) + 9 + 1 ≤ k by omega)
    have hmono2 := monthStart_mono (show k + 1 ≤ 12 * (k / 12) + 2 + 1 by omega)
    have hlen := (monthLen_bounds k).1
    have hsucc := monthStart_succ k
    simp only [msPerDay, msPerHour] at *
    refine iff_of_false ?_ ?_
    · rintro ⟨-, h2⟩
      omega
    · rintro ⟨h1, -⟩
      omega

/-- From the first instant of a month on, the London date is in the month or a later one. -/
theorem monthStartUtc_le_iff {k t : ℤ} : monthStartUtc k ≤ t ↔ k ≤ londonMonth t := by
  rw [londonMonth, le_monthOf_iff, londonDay, day, Int.le_ediv_iff_mul_le (by decide), londonWall, monthStartUtc]
  have hoff := londonOffset_cases t
  have hmid := midnightOffset_cases (monthStart k)
  by_cases hlast : monthStart k * msPerDay - msPerHour ≤ t ∧ t < monthStart k * msPerDay
  · rw [londonOffset_lastHour hlast.1 hlast.2]
    constructor <;> intro h <;> linarith
  · simp only [msPerDay, msPerHour, msPerMinute] at *
    constructor <;> intro h <;> omega

theorem monthStartUtc_mono {k l : ℤ} (h : k ≤ l) : monthStartUtc k ≤ monthStartUtc l :=
  monthStartUtc_le_iff.mpr (h.trans (monthStartUtc_le_iff.mp (le_refl _)))

theorem lt_monthStartUtc_iff {k t : ℤ} : t < monthStartUtc k ↔ londonMonth t < k := by
  rw [← not_le, ← not_le, monthStartUtc_le_iff]

/-! ### The edges -/

theorem monthOf_monthStart (k : ℤ) : monthOf (monthStart k) = k := by
  rw [monthOf_eq_iff]
  exact ⟨le_refl _, monthStart_lt_succ k⟩

/-- The parts carry the offset, to the minute. -/
theorem londonOffsetMinutesAt_eq {t : ℤ} (h : 100 ≤ getUTCFullYear (londonWall t)) :
    londonOffsetMinutesAt t = londonOffset t := by
  have hdate : dateUTC (formatToParts t).year ((formatToParts t).month - 1) (formatToParts t).day =
      londonDay t * msPerDay := by
    have hm := year_month (londonWall t)
    have hd := monthStart_add_dayOf (day (londonWall t))
    simp only [formatToParts]
    rw [yearOfEra_of_pos (by omega), dateUTC, fullYear_of_le h, add_sub_cancel_right, hm, getUTCDate, hd, londonDay]
  have hhour : (formatToParts t).hour ≠ 24 := by
    simp only [formatToParts]
    simp only [msPerDay, msPerHour]
    omega
  have hround (x : ℤ) (h0 : 0 ≤ x) (h1 : x < 1000) :
      roundMinutes (londonOffset t * msPerMinute - x) = londonOffset t := by
    simp only [roundMinutes, msPerMinute]
    omega
  rw [londonOffsetMinutesAt]
  simp only [hdate, if_neg hhour]
  -- Of the wall clock the milliseconds are lost.
  rw [← hround (londonWall t % 1000) (by omega) (by omega)]
  congr 1
  have hwall : londonWall t = t + londonOffset t * msPerMinute := rfl
  simp only [formatToParts, londonDay, day]
  simp only [msPerDay, msPerHour, msPerMinute] at *
  omega

/-- At the start of a month both passes read the offset of its midnight. -/
theorem londonRangeUtc_month {year month : ℤ} (hy : 0 ≤ year) (hm : 1 ≤ month ∧ month ≤ 12) :
    londonRangeUtc ⟨year, month, 1, 0, 0⟩ = monthStartUtc (12 * fullYear year + (month - 1)) := by
  obtain ⟨k, hk⟩ : ∃ k, k = 12 * fullYear year + (month - 1) := ⟨_, rfl⟩
  have hk100 : 1200 ≤ k := by
    have : 100 ≤ fullYear year := by
      rw [fullYear]
      split_ifs <;> omega
    omega
  have hnaive : dateUTC year (month - 1) 1 + (0 * msPerHour + 0 * msPerMinute) = monthStart k * msPerDay := by
    rw [dateUTC, hk]
    ring
  have hstart : monthStartUtc k ≤ monthStart k * msPerDay := by
    rw [monthStartUtc]
    have := midnightOffset_cases (monthStart k)
    simp only [msPerMinute]
    omega
  have hyear {t : ℤ} (ht : monthStartUtc k ≤ t) : 100 ≤ getUTCFullYear (londonWall t) := by
    have hmonth : k ≤ londonMonth t := monthStartUtc_le_iff.mp ht
    rw [londonMonth, londonDay] at hmonth
    rw [getUTCFullYear]
    omega
  have hoff1 : londonOffsetMinutesAt (monthStart k * msPerDay) = midnightOffset (monthStart k) :=
    londonOffsetMinutesAt_eq (hyear hstart)
  have hoff2 : londonOffsetMinutesAt (monthStartUtc k) = midnightOffset (monthStart k) := by
    rw [londonOffsetMinutesAt_eq (hyear (le_refl _)), monthStartUtc]
    rcases midnightOffset_cases (monthStart k) with h0 | h60
    · rw [h0, zero_mul, sub_zero]
      exact h0
    · rw [h60, ← h60]
      refine londonOffset_lastHour ?_ ?_ <;> rw [h60] <;> simp only [msPerDay, msPerHour, msPerMinute] <;> omega
  rw [londonRangeUtc]
  simp only [hnaive, hoff1]
  rw [← monthStartUtc, hoff2, ← monthStartUtc, hk]

/-- Both edges of a month's window are first instants of months. -/
theorem londonMonthWindow_edges {year month : ℤ} (hy : 0 ≤ year) (hm : 1 ≤ month ∧ month ≤ 12) :
    (∃ k, (londonMonthWindow year month).1 = monthStartUtc k) ∧
      ∃ k, (londonMonthWindow year month).2 = monthStartUtc k := by
  refine ⟨⟨_, londonRangeUtc_month hy hm⟩, _, londonRangeUtc_month ?_ ?_⟩
  · split_ifs <;> omega
  · split_ifs <;> omega

theorem addMonths_bounds {year month delta : ℤ} (h : 0 ≤ year * 12 + (month - 1) + delta) :
    0 ≤ (addMonths year month delta).year ∧
      1 ≤ (addMonths year month delta).month ∧ (addMonths year month delta).month ≤ 12 := by
  simp only [addMonths, Int.tmod_eq_emod_of_nonneg h]
  omega

theorem parseYearMonth_bounds {s : String} {ym : YearMonth} (h : parseYearMonth s = .ok ym) :
    0 ≤ ym.year ∧ 1 ≤ ym.month ∧ ym.month ≤ 12 := by
  unfold parseYearMonth at h
  split at h
  · next y1 y2 y3 y4 dash m1 m2 _ =>
    dsimp only at h
    split_ifs at h with hd hm
    cases h
    simp only [isDigit_iff] at hd
    rw [not_or, not_lt, not_lt] at hm
    refine ⟨?_, hm⟩
    simp only [digitsValue, List.foldl_cons, List.foldl_nil]
    omega
  · cases h

/-- The month of a clock reading. -/
theorem londonYearMonth_bounds {now : ℤ} (h : 0 ≤ now) :
    1970 ≤ (londonYearMonth now).year ∧ 1 ≤ (londonYearMonth now).month ∧ (londonYearMonth now).month ≤ 12 := by
  have hw := londonWall_le h
  have hmonth : 12 * 1970 ≤ monthOf (day (londonWall now)) := by
    rw [le_monthOf_iff, day, Int.le_ediv_iff_mul_le (by decide)]
    exact hw
  simp only [londonYearMonth, formatToParts, getUTCFullYear, getUTCMonth]
  rw [yearOfEra_of_pos (by omega)]
  omega

/-- A period opens at the start of a month, if it opens. It closes at the start of one, or now. -/
theorem periodWindow_edges {period : PeriodPreset} {now : ℤ} {custom : Option CustomRange} {w : PeriodWindow}
    (h0 : 0 ≤ now) (h : periodWindow period now custom = .ok w) :
    (∀ start ∈ w.startUtc, ∃ k, start = monthStartUtc k) ∧
      (w.endUtc = now ∧ (period = .this_month ∨ period = .all) ∨ ∃ l, w.endUtc = monthStartUtc l) := by
  obtain ⟨hy, hm⟩ := londonYearMonth_bounds h0
  have hcur := londonMonthWindow_edges (show 0 ≤ (londonYearMonth now).year by omega) hm
  have hback {n : ℤ} (hn : -6 ≤ n) := londonMonthWindow_edges
    (addMonths_bounds (show 0 ≤ (londonYearMonth now).year * 12 + ((londonYearMonth now).month - 1) + n by omega)).1
    (addMonths_bounds (show 0 ≤ (londonYearMonth now).year * 12 + ((londonYearMonth now).month - 1) + n by omega)).2
  cases period with
  | this_month =>
    cases h
    exact ⟨by rintro _ ⟨⟩; exact hcur.1, .inl ⟨rfl, .inl rfl⟩⟩
  | last_month =>
    cases h
    exact ⟨by rintro _ ⟨⟩; exact (hback (by decide)).1, .inr (hback (by decide)).2⟩
  | last_3m =>
    cases h
    exact ⟨by rintro _ ⟨⟩; exact (hback (by decide)).1, .inr hcur.1⟩
  | last_6m =>
    cases h
    exact ⟨by rintro _ ⟨⟩; exact (hback (by decide)).1, .inr hcur.1⟩
  | all =>
    cases h
    exact ⟨nofun, .inl ⟨rfl, .inr rfl⟩⟩
  | custom =>
    obtain ⟨range, -, h⟩ := bind_ok_iff.mp h
    obtain ⟨from', hfrom, h⟩ := bind_ok_iff.mp h
    obtain ⟨to', hto, h⟩ := bind_ok_iff.mp h
    obtain ⟨_, -, h⟩ := bind_ok_iff.mp h
    cases h
    obtain ⟨hfy, hfm⟩ := parseYearMonth_bounds hfrom
    obtain ⟨hty, htm⟩ := parseYearMonth_bounds hto
    obtain ⟨hay, ham⟩ := addMonths_bounds (show 0 ≤ to'.year * 12 + (to'.month - 1) + 1 by omega)
    refine ⟨?_, .inr (londonMonthWindow_edges hay ham).1⟩
    rintro _ ⟨⟩
    exact (londonMonthWindow_edges hfy hfm).1

/-- A month lies in a window: its first instant does, and of a window that closes with a month its last. -/
structure Inside (w : PeriodWindow) (k : ℤ) : Prop where
  opens : ∀ start ∈ w.startUtc, start ≤ monthStartUtc k
  starts : monthStartUtc k < w.endUtc
  closes : w.label = .this_month ∨ w.label = .all ∨ monthStartUtc (k + 1) ≤ w.endUtc

theorem periodWindow_label {period : PeriodPreset} {now : ℤ} {custom : Option CustomRange} {w : PeriodWindow}
    (h : periodWindow period now custom = .ok w) : w.label = period := by
  cases period with
  | custom =>
    obtain ⟨_, -, h⟩ := bind_ok_iff.mp h
    obtain ⟨_, -, h⟩ := bind_ok_iff.mp h
    obtain ⟨_, -, h⟩ := bind_ok_iff.mp h
    obtain ⟨_, -, h⟩ := bind_ok_iff.mp h
    cases h
    rfl
  | _ =>
    cases h
    rfl

/-- The month of an instant in a period lies in the period. -/
theorem inside_of_mem {period : PeriodPreset} {now : ℤ} {custom : Option CustomRange} {w : PeriodWindow} (h0 : 0 ≤ now)
    (h : periodWindow period now custom = .ok w) {t : ℤ} (hstart : ∀ start ∈ w.startUtc, start ≤ t)
    (hend : t < w.endUtc) : Inside w (londonMonth t) := by
  obtain ⟨hopens, hcloses⟩ := periodWindow_edges h0 h
  have hfirst : monthStartUtc (londonMonth t) ≤ t := monthStartUtc_le_iff.mpr (le_refl _)
  refine ⟨fun start hs => ?_, lt_of_le_of_lt hfirst hend, ?_⟩
  · obtain ⟨k, rfl⟩ := hopens start hs
    exact monthStartUtc_mono (monthStartUtc_le_iff.mp (hstart _ hs))
  · rw [periodWindow_label h]
    rcases hcloses with ⟨-, rfl | rfl⟩ | ⟨l, hl⟩
    · exact .inl rfl
    · exact .inr (.inl rfl)
    · rw [hl] at hend ⊢
      exact .inr (.inr (monthStartUtc_mono (lt_monthStartUtc_iff.mp hend)))

end Redeemo.Insights
