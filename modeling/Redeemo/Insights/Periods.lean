import Redeemo.Insights.London

/-! The reporting periods tile time.

    The start of a month reads back (`londonWall_eq_iff`), and a month's window is that of one London month
    (`londonMonthWindow_eq`). A comparison window is counted back from the main one: it precedes it as long as its first
    month is not before the year 100, where `Date.UTC` and the era of `Intl` lose the year (`comparisonStart_ne`). -/

namespace Redeemo.Insights
open Calendar Dates Fallible London WallTime

variable {year month : ℤ} {k z t : ℤ}

/-! ### The start of a month -/

theorem londonOffset_monthStartUtc (k : ℤ) : londonOffset (monthStartUtc k) = midnightOffset (monthStart k) := by
  rw [monthStartUtc]
  rcases midnightOffset_cases (monthStart k) with h0 | h60
  · rw [h0, zero_mul, sub_zero]
    exact h0
  · rw [h60, ← h60]
    refine londonOffset_lastHour ?_ ?_ <;> rw [h60] <;> simp only [msPerDay, msPerHour, msPerMinute] <;> omega

/-- A month's midnight is on the London wall once. -/
theorem londonWall_eq_iff : londonWall t = monthStart k * msPerDay ↔ t = monthStartUtc k := by
  constructor
  · intro h
    have hmid : midnightOffset (monthStart k) = londonOffset (monthStart k * msPerDay) := rfl
    rw [londonWall] at h
    rw [monthStartUtc]
    rcases londonOffset_cases t with h0 | h60
    · rw [h0, zero_mul, add_zero] at h
      rw [hmid, ← h, h0, zero_mul, sub_zero]
    · rw [← londonOffset_lastHour (k := k) (t := t) ?_ ?_, h60]
      · rw [h60] at h
        omega
      all_goals
        rw [h60] at h
        simp only [msPerMinute, msPerHour] at *
        omega
  · rintro rfl
    rw [londonWall, londonOffset_monthStartUtc, monthStartUtc]
    ring

theorem londonMonth_monthStartUtc (k : ℤ) : londonMonth (monthStartUtc k) = k := by
  rw [londonMonth, londonDay, londonWall_eq_iff.mpr rfl, day_mul, monthOf_monthStart]

theorem monthStartUtc_injective : Function.Injective monthStartUtc := fun k l h => by
  rw [← londonMonth_monthStartUtc k, h, londonMonth_monthStartUtc]

theorem formatToParts_monthStartUtc (hy : 0 < year) (hm : 1 ≤ month ∧ month ≤ 12) :
    formatToParts (monthStartUtc (12 * year + (month - 1))) = ⟨year, month, 1, 0, 0⟩ := by
  have hday : day (monthStart (12 * year + (month - 1)) * msPerDay) = monthStart (12 * year + (month - 1)) := day_mul _
  simp only [formatToParts, londonWall_eq_iff.mpr rfl, getUTCFullYear, getUTCMonth, getUTCDate, hday, monthOf_monthStart,
    dayOf, LondonParts.mk.injEq]
  refine ⟨?_, by omega, by omega, ?_, ?_⟩
  · rw [yearOfEra_of_pos (by omega)]
    omega
  · simp [Int.mul_emod_left]
  · simp only [msPerDay, msPerHour, msPerMinute]
    omega

/-! ### Windows of months -/

theorem londonRangeUtc_eq (hy : 100 ≤ year) (hm : 1 ≤ month ∧ month ≤ 12) :
    londonRangeUtc ⟨year, month, 1, 0, 0⟩ = monthStartUtc (12 * year + (month - 1)) := by
  rw [londonRangeUtc_month (by omega) hm, fullYear_of_le hy]

theorem londonMonthWindow_eq (ym : YearMonth) (h : 1200 ≤ ym.abs) (hm : 1 ≤ ym.month ∧ ym.month ≤ 12) :
    londonMonthWindow ym.year ym.month = (monthStartUtc ym.abs, monthStartUtc (ym.abs + 1)) := by
  have habs : 12 * ym.year + (ym.month - 1) = ym.abs := by rw [YearMonth.abs, mul_comm]
  have hy : 100 ≤ ym.year := by omega
  rw [londonMonthWindow, londonRangeUtc_eq hy hm, habs]
  by_cases hdec : ym.month = 12
  · simp only [hdec, if_true]
    rw [londonRangeUtc_eq (by omega) (by omega)]
    congr 2
    omega
  · simp only [if_neg hdec]
    rw [londonRangeUtc_eq hy (by omega)]
    congr 2
    omega

theorem addMonths_month (ym : YearMonth) {delta : ℤ} (h : 0 ≤ ym.abs + delta) :
    (addMonths ym.year ym.month delta).abs = ym.abs + delta ∧ 1 ≤ (addMonths ym.year ym.month delta).month ∧
      (addMonths ym.year ym.month delta).month ≤ 12 := by
  simp only [YearMonth.abs, addMonths] at *
  rw [Int.tmod_eq_emod_of_nonneg h]
  omega

theorem londonMonthWindow_addMonths (ym : YearMonth) {delta : ℤ} (h : 1200 ≤ ym.abs + delta) :
    londonMonthWindow (addMonths ym.year ym.month delta).year (addMonths ym.year ym.month delta).month =
      (monthStartUtc (ym.abs + delta), monthStartUtc (ym.abs + delta + 1)) := by
  obtain ⟨habs, hm⟩ := addMonths_month ym (show 0 ≤ ym.abs + delta by omega)
  rw [londonMonthWindow_eq _ (habs ▸ h) hm, habs]

/-! ### Before the year 100 -/

/-- Of a year BC the number is kept and the era lost, so the wall clock is taken for one of a later year. -/
theorem lt_londonOffsetMinutesAt (h : getUTCFullYear (londonWall t) ≤ 0) : 60 < londonOffsetMinutesAt t := by
  obtain ⟨y, hy⟩ : ∃ y, y = getUTCFullYear (londonWall t) := ⟨_, rfl⟩
  have hfull : 100 ≤ fullYear (yearOfEra y) := by
    rw [yearOfEra, if_pos (by omega), fullYear]
    split_ifs <;> omega
  have hmonth : 0 ≤ getUTCMonth (londonWall t) := by
    rw [getUTCMonth]
    omega
  have hdate : monthStart 1200 * msPerDay ≤ dateUTC (formatToParts t).year ((formatToParts t).month - 1)
      (formatToParts t).day := by
    have hd := (dayOf_bounds (day (londonWall t))).1
    have hle := monthStart_mono (show 1200 ≤ 12 * fullYear (yearOfEra y) + (getUTCMonth (londonWall t) + 1 - 1) by omega)
    simp only [formatToParts, dateUTC, ← hy, getUTCDate]
    exact Int.mul_le_mul_of_nonneg_right (by omega) (by decide)
  have hwall : londonWall t < monthStart 12 * msPerDay := by
    have hlt : monthOf (day (londonWall t)) < 12 := by
      rw [getUTCFullYear] at h
      omega
    have hday := (monthStart_lt_iff (k := monthOf (day (londonWall t)) + 1) (l := 12 + 1)).mpr (by omega)
    have hle := monthStart_mono (show monthOf (day (londonWall t)) + 1 ≤ 12 by omega)
    have hn := lt_monthStart_monthOf_succ (day (londonWall t))
    have hb := (day_bounds (londonWall t)).2
    refine lt_of_lt_of_le hb ?_
    exact Int.mul_le_mul_of_nonneg_right (by omega) (by decide)
  have ht : t ≤ londonWall t := by
    rw [londonWall]
    rcases londonOffset_cases t with h0 | h0 <;> rw [h0] <;> simp only [msPerMinute] <;> omega
  have hgap : (monthStart 1200 - monthStart 12) * msPerDay = 3124137600000 := by decide
  have hround (x : ℤ) (hx : 3124137600000 ≤ x) : 60 < roundMinutes x := by
    simp only [roundMinutes, msPerMinute]
    omega
  rw [londonOffsetMinutesAt]
  refine hround _ ?_
  have hhour : 0 ≤ (if (formatToParts t).hour = 24 then 0 else (formatToParts t).hour) * msPerHour := by
    refine mul_nonneg ?_ (by decide)
    split_ifs
    · exact le_refl 0
    · simp only [formatToParts, msPerDay, msPerHour]
      omega
  have hminute : 0 ≤ (formatToParts t).minute * msPerMinute := by
    refine mul_nonneg ?_ (by decide)
    simp only [formatToParts, msPerHour, msPerMinute]
    omega
  have hsecond : 0 ≤ londonWall t % msPerMinute / 1000 * 1000 := by
    simp only [msPerMinute]
    omega
  linarith

/-- In a year BC the start of a month is taken for an instant far before it. -/
theorem londonRangeUtc_lt (hy : year < 0) (hk : 12 * year + (month - 1) < 0) :
    londonRangeUtc ⟨year, month, 1, 0, 0⟩ < monthStartUtc (12 * year + (month - 1)) := by
  obtain ⟨k, hkdef⟩ : ∃ k, k = 12 * year + (month - 1) := ⟨_, rfl⟩
  have hnaive : dateUTC year (month - 1) 1 + (0 * msPerHour + 0 * msPerMinute) = monthStart k * msPerDay := by
    rw [dateUTC, fullYear, if_neg (by omega), hkdef]
    ring
  -- Every instant up to the month's midnight is BC.
  have hoff : ∀ t, t ≤ monthStart k * msPerDay → 60 < londonOffsetMinutesAt t := by
    intro t ht
    refine lt_londonOffsetMinutesAt ?_
    have hlt : t < monthStartUtc (k + 1) := by
      have hlen := (monthLen_bounds k).1
      have hsucc := monthStart_succ k
      have hmid := midnightOffset_cases (monthStart (k + 1))
      simp only [monthStartUtc, msPerDay, msPerMinute] at *
      omega
    have hmonth := lt_monthStartUtc_iff.mp hlt
    rw [londonMonth, londonDay] at hmonth
    rw [getUTCFullYear]
    omega
  have h1 := hoff _ (le_refl _)
  have h2 := hoff (monthStart k * msPerDay - londonOffsetMinutesAt (monthStart k * msPerDay) * msPerMinute) (by
    simp only [msPerMinute]
    omega)
  rw [londonRangeUtc]
  simp only [hnaive]
  rw [← hkdef, monthStartUtc]
  have hmid := midnightOffset_cases (monthStart k)
  generalize londonOffsetMinutesAt (monthStart k * msPerDay -
    londonOffsetMinutesAt (monthStart k * msPerDay) * msPerMinute) = n at h2 ⊢
  simp only [msPerMinute]
  omega

/-- Counted back to before the year 100, the first month is another one. -/
theorem comparisonStart_ne (ym : YearMonth) {delta : ℤ} (h : ym.abs + delta < 1200) :
    (londonMonthWindow (addMonths ym.year ym.month delta).year (addMonths ym.year ym.month delta).month).1 ≠
      monthStartUtc (ym.abs + delta) := by
  have haddMonths : addMonths ym.year ym.month delta = ⟨(ym.abs + delta) / 12, (ym.abs + delta).tmod 12 + 1⟩ := rfl
  rw [haddMonths, londonMonthWindow]
  dsimp only
  generalize ym.abs + delta = z at h ⊢
  rcases le_or_gt 0 z with h0 | h0
  · rw [Int.tmod_eq_emod_of_nonneg h0, londonRangeUtc_month (by omega) (by omega), fullYear, if_pos (by omega)]
    refine fun he => absurd (monthStartUtc_injective he) ?_
    omega
  · -- The remainder has the sign of `z`: it leads to `z` or to a month before it.
    have hmod : z.tmod 12 ≤ z % 12 := by
      rw [Int.tmod_eq_emod]
      split_ifs <;> omega
    have hle : 12 * (z / 12) + (z.tmod 12 + 1 - 1) ≤ z := by omega
    exact ne_of_lt (lt_of_lt_of_le (londonRangeUtc_lt (by omega) (by omega)) (monthStartUtc_mono hle))

/-! ### Periods -/

theorem londonYearMonth_abs {now : ℤ} (h : 0 ≤ now) : (londonYearMonth now).abs = londonMonth now := by
  have hy := getUTCFullYear_le (t := londonWall now) (by
    have := londonWall_le h
    simp only [msPerDay]
    omega)
  have hm := year_month (londonWall now)
  simp only [YearMonth.abs, londonYearMonth, formatToParts, londonMonth, londonDay]
  rw [yearOfEra_of_pos (by omega)]
  omega

/-- The window is of whole months, from one to another. -/
structure Spans (w : PeriodWindow) (first next : ℤ) : Prop where
  start_eq : w.startUtc = some (monthStartUtc first)
  end_eq : w.endUtc = monthStartUtc next

/-- The window ends where the main one starts, and is of as many months. -/
def Precedes (c : ℤ × ℤ) (w : PeriodWindow) : Prop :=
  ∃ i j k, c = (monthStartUtc i, monthStartUtc j) ∧ Spans w j k ∧ j - i = k - j

theorem Spans.eq {w : PeriodWindow} {i j k l : ℤ} (h : Spans w i j) (h' : Spans w k l) : i = k ∧ j = l :=
  ⟨monthStartUtc_injective (Option.some.inj (h.start_eq.symm.trans h'.start_eq)),
    monthStartUtc_injective (h.end_eq.symm.trans h'.end_eq)⟩

variable {now : ℕ} {custom : Option CustomRange} {range : CustomRange} {f l : YearMonth}

theorem londonYearMonth_now (now : ℕ) :
    1212 ≤ (londonYearMonth now).abs ∧ 1 ≤ (londonYearMonth now).month ∧ (londonYearMonth now).month ≤ 12 := by
  obtain ⟨hy, hm⟩ := londonYearMonth_bounds (show (0 : ℤ) ≤ now by omega)
  rw [YearMonth.abs]
  omega

/-- The months of a period that ends with the last month. -/
def monthsOf (period : PeriodPreset) : ℤ := if period = .last_month then 1 else span period

theorem monthsOf_bounds (period : PeriodPreset) : 1 ≤ monthsOf period ∧ monthsOf period ≤ 6 := by
  cases period <;> decide

theorem londonMonthWindow_back (now : ℕ) {n : ℤ} (hn : n ≤ 12) :
    londonMonthWindow (addMonths (londonYearMonth now).year (londonYearMonth now).month (-n)).year
      (addMonths (londonYearMonth now).year (londonYearMonth now).month (-n)).month =
      (monthStartUtc ((londonYearMonth now).abs - n), monthStartUtc ((londonYearMonth now).abs - n + 1)) :=
  londonMonthWindow_addMonths _ (by have := (londonYearMonth_now now).1; omega)

section
variable {period : PeriodPreset} (h : period = .last_month ∨ period = .last_3m ∨ period = .last_6m)
include h

theorem resolveComparisonWindow_preset (now : ℕ) (custom : Option CustomRange) :
    resolveComparisonWindow period now custom = .ok (some
      (monthStartUtc ((londonYearMonth now).abs - 2 * monthsOf period),
        monthStartUtc ((londonYearMonth now).abs - monthsOf period))) := by
  have hnow := (londonYearMonth_now now).1
  rcases h with rfl | rfl | rfl
  · obtain ⟨habs, -⟩ := addMonths_month (londonYearMonth now) (show 0 ≤ (londonYearMonth now).abs + -1 by omega)
    have hcmp := londonMonthWindow_addMonths
      (addMonths (londonYearMonth now).year (londonYearMonth now).month (-1)) (show 1200 ≤ _ + -1 by omega)
    have hstart : (londonYearMonth now).abs + -1 + -1 = (londonYearMonth now).abs - 2 * 1 := by ring
    have hend : (londonYearMonth now).abs - 2 * 1 + 1 = (londonYearMonth now).abs - 1 := by ring
    rw [habs, hstart, hend] at hcmp
    exact congrArg (fun w => Except.ok (some w)) hcmp
  · have hstart := londonMonthWindow_back now (show (2 * 3 : ℤ) ≤ 12 by decide)
    have hend := londonMonthWindow_back now (show (3 : ℤ) ≤ 12 by decide)
    exact congrArg₂ (fun a b => Except.ok (some (a, b))) (congrArg Prod.fst hstart) (congrArg Prod.fst hend)
  · have hstart := londonMonthWindow_back now (show (2 * 6 : ℤ) ≤ 12 by decide)
    have hend := londonMonthWindow_back now (show (6 : ℤ) ≤ 12 by decide)
    exact congrArg₂ (fun a b => Except.ok (some (a, b))) (congrArg Prod.fst hstart) (congrArg Prod.fst hend)

theorem periodWindow_preset (now : ℕ) (custom : Option CustomRange) : ∃ w, periodWindow period now custom = .ok w ∧
    Spans w ((londonYearMonth now).abs - monthsOf period) (londonYearMonth now).abs := by
  obtain ⟨hnow, hm⟩ := londonYearMonth_now now
  have hcur := londonMonthWindow_eq (londonYearMonth now) (by omega) hm
  have hcmp := resolveComparisonWindow_preset h now none
  have hfirst := londonMonthWindow_back now (n := monthsOf period) (by have := monthsOf_bounds period; omega)
  have hnext : (londonYearMonth now).abs - monthsOf .last_month + 1 = (londonYearMonth now).abs := sub_add_cancel _ 1
  rcases h with rfl | rfl | rfl
  · simp only [periodWindow, hcmp]
    refine ⟨_, rfl, congrArg (fun w => some w.1) hfirst, ?_⟩
    rw [← hnext]
    exact congrArg Prod.snd hfirst
  · simp only [periodWindow, hcmp]
    exact ⟨_, rfl, congrArg (fun w => some w.1) hfirst, congrArg Prod.fst hcur⟩
  · simp only [periodWindow, hcmp]
    exact ⟨_, rfl, congrArg (fun w => some w.1) hfirst, congrArg Prod.fst hcur⟩

end

/-! ### Custom ranges -/

theorem isPeriodComplete_custom (hl : parseYearMonth range.«to» = .ok l) (now : ℕ) :
    isPeriodComplete .custom now (some range) = .ok (decide (l.abs < (londonYearMonth now).abs)) := by
  simp only [isPeriodComplete, requireCustom, bind, Except.bind, hl]
  rfl

theorem resolveComparisonWindow_custom (hf : parseYearMonth range.«from» = .ok f) (hl : parseYearMonth range.«to» = .ok l)
    (now : ℕ) : resolveComparisonWindow .custom now (some range) =
      .ok (if l.abs < (londonYearMonth now).abs then some
        ((londonMonthWindow (addMonths f.year f.month (-(l.abs - f.abs + 1))).year
          (addMonths f.year f.month (-(l.abs - f.abs + 1))).month).1, (londonMonthWindow f.year f.month).1) else none) := by
  simp only [resolveComparisonWindow, isPeriodComplete_custom hl, requireCustom, bind, Except.bind, hf, hl]
  by_cases h : l.abs < (londonYearMonth now).abs
  · rw [if_pos h, if_pos (decide_eq_true h)]
    rfl
  · rw [if_neg h, if_neg (by simpa using h)]
    rfl

theorem periodWindow_custom (hf : parseYearMonth range.«from» = .ok f) (hl : parseYearMonth range.«to» = .ok l)
    (h : 1200 ≤ f.abs) (hfl : f.abs ≤ l.abs) (now : ℕ) :
    ∃ w, periodWindow .custom now (some range) = .ok w ∧ Spans w f.abs (l.abs + 1) := by
  have hfirst := londonMonthWindow_eq f h (parseYearMonth_bounds hf).2
  have hnext := londonMonthWindow_addMonths l (show 1200 ≤ l.abs + 1 by omega)
  simp only [periodWindow, resolveComparisonWindow_custom hf hl, requireCustom, bind, Except.bind, hf, hl]
  exact ⟨_, rfl, congrArg (fun w => some w.1) hfirst, congrArg Prod.fst hnext⟩

/-- The comparison window precedes the main one exactly if its first month is not before the year 100. -/
theorem precedes_custom_iff {w : PeriodWindow} (hw : Spans w f.abs (l.abs + 1)) (h : 1200 ≤ f.abs)
    (hm : 1 ≤ f.month ∧ f.month ≤ 12) : Precedes
      ((londonMonthWindow (addMonths f.year f.month (-(l.abs - f.abs + 1))).year
        (addMonths f.year f.month (-(l.abs - f.abs + 1))).month).1, (londonMonthWindow f.year f.month).1) w ↔
      l.abs - f.abs + 1 ≤ f.abs - 1200 := by
  have hfirst := congrArg Prod.fst (londonMonthWindow_eq f h hm)
  constructor
  · rintro ⟨i, j, k, hc, hspans, hlen⟩
    obtain ⟨hj, hk⟩ := hw.eq hspans
    by_contra hlong
    refine comparisonStart_ne f (show f.abs + -(l.abs - f.abs + 1) < 1200 by omega) ((Prod.mk.inj hc).1.trans ?_)
    congr 1
    omega
  · intro hshort
    have hstart := congrArg Prod.fst (londonMonthWindow_addMonths f (show 1200 ≤ f.abs + -(l.abs - f.abs + 1) by omega))
    refine ⟨f.abs + -(l.abs - f.abs + 1), f.abs, l.abs + 1, Prod.ext hstart hfirst, hw, ?_⟩
    ring

/-! ### All periods -/

/-- What the periods owe the calendar. -/
structure PeriodsTile (now : ℕ) (period : PeriodPreset) (custom : Option CustomRange) : Prop where
  /-- A month's midnight is read back, and from no other instant. -/
  reads_back : ∀ year month, 2000 ≤ year → 1 ≤ month ∧ month ≤ 12 →
    formatToParts (londonRangeUtc ⟨year, month, 1, 0, 0⟩) = ⟨year, month, 1, 0, 0⟩ ∧
      ∀ t, londonWall t = dateUTC year (month - 1) 1 ↔ t = londonRangeUtc ⟨year, month, 1, 0, 0⟩
  adjacent : ∀ year month, 2000 ≤ year → 1 ≤ month ∧ month ≤ 12 → (londonMonthWindow year month).2 =
    (londonMonthWindow (addMonths year month 1).year (addMonths year month 1).month).1
  complete : isPeriodComplete period now custom = .ok true → ∀ w, periodWindow period now custom = .ok w →
    ∀ t, (∀ start ∈ w.startUtc, start ≤ t) → t < w.endUtc → londonMonth t ≠ londonMonth now
  comparison : ∀ c, resolveComparisonWindow period now custom = .ok (some c) →
    ∃ w, periodWindow period now custom = .ok w ∧ Precedes c w

/-- A custom range in order, from 2000 on, if there is one that can be read. -/
def InEra (custom : Option CustomRange) : Prop := ∀ range f l, custom = some range →
  parseYearMonth range.«from» = .ok f → parseYearMonth range.«to» = .ok l → 12 * 2000 ≤ f.abs ∧ f.abs ≤ l.abs

/-- A custom range that is over is of no more months than there are from January 100 to its first. -/
def WithinReach (now : ℕ) (period : PeriodPreset) (custom : Option CustomRange) : Prop :=
  ∀ range f l, period = .custom → custom = some range → parseYearMonth range.«from» = .ok f →
    parseYearMonth range.«to» = .ok l → l.abs < (londonYearMonth now).abs → l.abs - f.abs + 1 ≤ f.abs - 12 * 100

theorem reads_back (hy : 100 ≤ year) (hm : 1 ≤ month ∧ month ≤ 12) :
    formatToParts (londonRangeUtc ⟨year, month, 1, 0, 0⟩) = ⟨year, month, 1, 0, 0⟩ ∧
      ∀ t, londonWall t = dateUTC year (month - 1) 1 ↔ t = londonRangeUtc ⟨year, month, 1, 0, 0⟩ := by
  have hdate : dateUTC year (month - 1) 1 = monthStart (12 * year + (month - 1)) * msPerDay := by
    rw [dateUTC, fullYear_of_le hy, sub_self, add_zero]
  rw [londonRangeUtc_eq hy hm, hdate]
  exact ⟨formatToParts_monthStartUtc (by omega) hm, fun t => londonWall_eq_iff⟩

theorem adjacent (hy : 100 ≤ year) (hm : 1 ≤ month ∧ month ≤ 12) : (londonMonthWindow year month).2 =
    (londonMonthWindow (addMonths year month 1).year (addMonths year month 1).month).1 := by
  have habs : 1200 ≤ (YearMonth.mk year month).abs := by
    simp only [YearMonth.abs]
    omega
  rw [londonMonthWindow_eq ⟨year, month⟩ habs hm, londonMonthWindow_addMonths ⟨year, month⟩ (by omega)]

/-- A window that ends with an earlier month contains nothing of now's. -/
theorem ne_of_mem_window {w : PeriodWindow} {next : ℤ} (hend : w.endUtc = monthStartUtc next)
    (hnext : next ≤ (londonYearMonth now).abs) (ht : t < w.endUtc) : londonMonth t ≠ londonMonth now := by
  rw [hend, lt_monthStartUtc_iff] at ht
  rw [londonYearMonth_abs (by omega)] at hnext
  omega

theorem complete_of_preset {period : PeriodPreset} (h : period = .last_month ∨ period = .last_3m ∨ period = .last_6m)
    {w : PeriodWindow} (hw : periodWindow period now custom = .ok w) (ht : t < w.endUtc) :
    londonMonth t ≠ londonMonth now := by
  obtain ⟨w', hw', hspans⟩ := periodWindow_preset h now custom
  cases hw.symm.trans hw'
  exact ne_of_mem_window hspans.end_eq (le_refl _) ht

theorem comparison_of_preset {period : PeriodPreset} (h : period = .last_month ∨ period = .last_3m ∨ period = .last_6m)
    {c : ℤ × ℤ} (hc : resolveComparisonWindow period now custom = .ok (some c)) :
    ∃ w, periodWindow period now custom = .ok w ∧ Precedes c w := by
  obtain ⟨w, hw, hspans⟩ := periodWindow_preset h now custom
  cases hc.symm.trans (resolveComparisonWindow_preset h now custom)
  exact ⟨w, hw, _, _, _, rfl, hspans, by ring⟩

/-- The months of a custom range that is read. -/
theorem resolveComparisonWindow_ok {c : ℤ × ℤ} (h : resolveComparisonWindow .custom now custom = .ok (some c)) :
    ∃ range f l, custom = some range ∧ parseYearMonth range.«from» = .ok f ∧ parseYearMonth range.«to» = .ok l := by
  obtain ⟨complete, -, h⟩ := bind_ok_iff.mp h
  cases complete with
  | false => cases h
  | true =>
    obtain ⟨range, hrange, h⟩ := bind_ok_iff.mp h
    obtain ⟨f, hf, h⟩ := bind_ok_iff.mp h
    obtain ⟨l, hl, -⟩ := bind_ok_iff.mp h
    cases custom with
    | none => cases hrange
    | some range' =>
      cases hrange
      exact ⟨range, f, l, rfl, hf, hl⟩

theorem periodWindow_ok {w : PeriodWindow} (h : periodWindow .custom now custom = .ok w) :
    ∃ range f l, custom = some range ∧ parseYearMonth range.«from» = .ok f ∧ parseYearMonth range.«to» = .ok l := by
  obtain ⟨range, hrange, h⟩ := bind_ok_iff.mp h
  obtain ⟨f, hf, h⟩ := bind_ok_iff.mp h
  obtain ⟨l, hl, -⟩ := bind_ok_iff.mp h
  cases custom with
  | none => cases hrange
  | some range' =>
    cases hrange
    exact ⟨range, f, l, rfl, hf, hl⟩

theorem comparison_custom_iff (hf : parseYearMonth range.«from» = .ok f) (hl : parseYearMonth range.«to» = .ok l)
    (h : 1200 ≤ f.abs) (hfl : f.abs ≤ l.abs) (hover : l.abs < (londonYearMonth now).abs) :
    (∀ c, resolveComparisonWindow .custom now (some range) = .ok (some c) →
      ∃ w, periodWindow .custom now (some range) = .ok w ∧ Precedes c w) ↔ l.abs - f.abs + 1 ≤ f.abs - 1200 := by
  obtain ⟨w, hw, hspans⟩ := periodWindow_custom hf hl h hfl now
  have hc := resolveComparisonWindow_custom hf hl now
  rw [if_pos hover] at hc
  rw [← precedes_custom_iff hspans h (parseYearMonth_bounds hf).2]
  constructor
  · intro hall
    obtain ⟨w', hw', hprecedes⟩ := hall _ hc
    cases hw.symm.trans hw'
    exact hprecedes
  · intro hprecedes c hc'
    cases hc.symm.trans hc'
    exact ⟨w, hw, hprecedes⟩

/-- The periods tile time exactly if no custom range reaches too far back. -/
theorem periodsTile_iff (now : ℕ) (period : PeriodPreset) (custom : Option CustomRange) (hera : InEra custom) :
    PeriodsTile now period custom ↔ WithinReach now period custom := by
  constructor
  · rintro h range f l rfl rfl hf hl hover
    obtain ⟨hfrom, hfl⟩ := hera range f l rfl hf hl
    exact (comparison_custom_iff hf hl (by omega) hfl hover).mp h.comparison
  · intro hreach
    refine ⟨fun year month hy hm => reads_back (by omega) hm, fun year month hy hm => adjacent (by omega) hm, ?_, ?_⟩
    · intro hcomplete w hw t _ ht
      cases period with
      | this_month => cases hcomplete
      | all => cases hcomplete
      | last_month => exact complete_of_preset (.inl rfl) hw ht
      | last_3m => exact complete_of_preset (.inr (.inl rfl)) hw ht
      | last_6m => exact complete_of_preset (.inr (.inr rfl)) hw ht
      | custom =>
        obtain ⟨range, f, l, rfl, hf, hl⟩ := periodWindow_ok hw
        obtain ⟨hfrom, hfl⟩ := hera range f l rfl hf hl
        obtain ⟨w', hw', hspans⟩ := periodWindow_custom hf hl (by omega) hfl now
        cases hw.symm.trans hw'
        rw [isPeriodComplete_custom hl] at hcomplete
        exact ne_of_mem_window hspans.end_eq (of_decide_eq_true (Except.ok.inj hcomplete)) ht
    · intro c hc
      cases period with
      | this_month => cases hc
      | all => cases hc
      | last_month => exact comparison_of_preset (.inl rfl) hc
      | last_3m => exact comparison_of_preset (.inr (.inl rfl)) hc
      | last_6m => exact comparison_of_preset (.inr (.inr rfl)) hc
      | custom =>
        obtain ⟨range, f, l, rfl, hf, hl⟩ := resolveComparisonWindow_ok hc
        obtain ⟨hfrom, hfl⟩ := hera range f l rfl hf hl
        have hover : l.abs < (londonYearMonth now).abs := by
          by_contra hnot
          rw [resolveComparisonWindow_custom hf hl, if_neg hnot] at hc
          cases hc
        exact (comparison_custom_iff hf hl (by omega) hfl hover).mpr (hreach range f l rfl rfl hf hl hover) c hc

theorem inEra_of_parse {first last : String} (hf : parseYearMonth first = .ok f) (hl : parseYearMonth last = .ok l)
    (h : 12 * 2000 ≤ f.abs ∧ f.abs ≤ l.abs) : InEra (some ⟨first, last⟩) := by
  rintro _ f' l' ⟨⟩ hf' hl'
  cases hf.symm.trans hf'
  cases hl.symm.trans hl'
  exact h

theorem periodsTile_iff_spring : InEra (some ⟨"2026-03", "2026-05"⟩) ∧
    (PeriodsTile 1780000000000 .custom (some ⟨"2026-03", "2026-05"⟩) ↔
      WithinReach 1780000000000 .custom (some ⟨"2026-03", "2026-05"⟩)) := by
  have hera : InEra (some ⟨"2026-03", "2026-05"⟩) := inEra_of_parse (f := ⟨2026, 3⟩) (l := ⟨2026, 5⟩) rfl rfl (by decide)
  exact ⟨hera, periodsTile_iff _ _ _ hera⟩

/-- In 3901, of the 1901 years since 2000: the comparison would begin in the year 99, and does in 1999. -/
theorem not_periodsTile_millennia : ¬ PeriodsTile 60949497600000 .custom (some ⟨"2000-01", "3900-12"⟩) := by
  intro h
  have hover : (YearMonth.mk 3900 12).abs < (londonYearMonth (60949497600000 : ℕ)).abs := by decide +kernel
  have hf : parseYearMonth (CustomRange.mk "2000-01" "3900-12").«from» = .ok ⟨2000, 1⟩ := rfl
  have hl : parseYearMonth (CustomRange.mk "2000-01" "3900-12").«to» = .ok ⟨3900, 12⟩ := rfl
  have hshort := (comparison_custom_iff hf hl (by decide) (by decide) hover).mp h.comparison
  exact absurd hshort (by decide)

end Redeemo.Insights
