import Mathlib.Order.Monotone.Basic
import Mathlib.Algebra.Order.Group.Int
import Mathlib.Tactic.SplitIfs
import Mathlib.Tactic.Linarith
import Mathlib.Tactic.Ring

/-! The proleptic Gregorian calendar, counted in days from 1 January 1970.

    A month is one integer, `12 * year + (month - 1)`, so that "the next month" is `k + 1` and a
    year end needs no case of its own. `monthStart` is a closed formula over years that begin in
    March (the leap day is then the last day of its year); `monthOf` and `dayOf` invert it. The one
    fact everything rests on is that `monthStart` is strictly increasing and that the month of a day
    is the one whose days contain it (`monthOf_eq_iff`). -/

namespace Calendar

/-- Days before 1 March of year `y`, counted from 1 March of year 0. -/
def yearStart (y : ℤ) : ℤ := 365 * y + y / 4 - y / 100 + y / 400

/-- The March-based year of a day counted from 1 March of year 0: the mean year length gives it up
    to one. -/
def yearOf (z : ℤ) : ℤ :=
  let y := 400 * z / 146097
  if z < yearStart y then y - 1 else if yearStart (y + 1) ≤ z then y + 1 else y

/-- Days from 1 January 1970 to the first day of month `k`. -/
def monthStart (k : ℤ) : ℤ :=
  yearStart ((k - 2) / 12) + (153 * ((k - 2) % 12) + 2) / 5 - 719468

/-- The number of days of month `k`. -/
def monthLen (k : ℤ) : ℤ := monthStart (k + 1) - monthStart k

/-- The month of day `n`. -/
def monthOf (n : ℤ) : ℤ :=
  let y := yearOf (n + 719468)
  12 * y + (5 * (n + 719468 - yearStart y) + 2) / 153 + 2

/-- The day of the month of day `n`, from 1. -/
def dayOf (n : ℤ) : ℤ := n - monthStart (monthOf n) + 1

/-- The day of the week of day `n`, Sunday being 0. -/
def weekday (n : ℤ) : ℤ := (n + 4) % 7

/-- The last Sunday of month `k`. -/
def lastSunday (k : ℤ) : ℤ := monthStart (k + 1) - 1 - weekday (monthStart (k + 1) - 1)

/-! ### Years -/

theorem yearStart_yearOf_le (z : ℤ) : yearStart (yearOf z) ≤ z := by
  unfold yearOf
  dsimp only
  unfold yearStart
  split_ifs <;> omega

theorem lt_yearStart_yearOf_succ (z : ℤ) : z < yearStart (yearOf z + 1) := by
  unfold yearOf
  dsimp only
  unfold yearStart
  split_ifs <;> omega

theorem yearStart_succ_bounds (y : ℤ) :
    yearStart y + 365 ≤ yearStart (y + 1) ∧ yearStart (y + 1) ≤ yearStart y + 366 := by
  simp only [yearStart]
  constructor <;> omega

/-! ### Months -/

/-- Month `m` of the March-based year `y`. -/
theorem monthStart_march (y : ℤ) {m : ℤ} (h0 : 0 ≤ m) (h1 : m < 12) :
    monthStart (12 * y + m + 2) = yearStart y + (153 * m + 2) / 5 - 719468 := by
  have hy : (12 * y + m + 2 - 2) / 12 = y := by omega
  have hm : (12 * y + m + 2 - 2) % 12 = m := by omega
  rw [monthStart, hy, hm]

/-- February closes the March-based year: the month after it opens the next one. -/
theorem monthStart_march_end (y : ℤ) :
    monthStart (12 * y + 11 + 2 + 1) = yearStart (y + 1) - 719468 := by
  have h := monthStart_march (y + 1) (le_refl 0) (by decide)
  have he : 12 * (y + 1) + 0 + 2 = 12 * y + 11 + 2 + 1 := by ring
  rw [he] at h
  omega

theorem monthLen_bounds (k : ℤ) : 28 ≤ monthLen k ∧ monthLen k ≤ 31 := by
  obtain ⟨y, m, h0, h1, rfl⟩ : ∃ y m : ℤ, 0 ≤ m ∧ m < 12 ∧ k = 12 * y + m + 2 :=
    ⟨(k - 2) / 12, (k - 2) % 12, by omega, by omega, by omega⟩
  rw [monthLen, monthStart_march y h0 h1]
  rcases eq_or_ne m 11 with rfl | hm
  · have := yearStart_succ_bounds y
    rw [monthStart_march_end]
    omega
  · have he : 12 * y + m + 2 + 1 = 12 * y + (m + 1) + 2 := by ring
    rw [he, monthStart_march y (by omega) (by omega)]
    omega

theorem monthStart_succ (k : ℤ) : monthStart (k + 1) = monthStart k + monthLen k := by
  simp only [monthLen]
  ring

theorem monthStart_lt_succ (k : ℤ) : monthStart k < monthStart (k + 1) := by
  have := (monthLen_bounds k).1
  rw [monthStart_succ]
  omega

theorem monthStart_lt_iff {k l : ℤ} : monthStart k < monthStart l ↔ k < l :=
  (strictMono_int_of_lt_succ monthStart_lt_succ).lt_iff_lt

theorem monthStart_mono {k l : ℤ} (h : k ≤ l) : monthStart k ≤ monthStart l :=
  (strictMono_int_of_lt_succ monthStart_lt_succ).monotone h

theorem monthStart_monthOf (n : ℤ) :
    monthStart (monthOf n) ≤ n ∧ n < monthStart (monthOf n + 1) := by
  have hlo := yearStart_yearOf_le (n + 719468)
  have hhi := lt_yearStart_yearOf_succ (n + 719468)
  have hlen := (yearStart_succ_bounds (yearOf (n + 719468))).2
  rw [monthOf]
  generalize yearOf (n + 719468) = y at hlo hhi hlen ⊢
  -- `m` is the month of the March-based year `y`, read off the day of that year.
  obtain ⟨m, hm⟩ : ∃ m, m = (5 * (n + 719468 - yearStart y) + 2) / 153 := ⟨_, rfl⟩
  rw [← hm]
  rw [monthStart_march y (by omega) (by omega)]
  refine ⟨by omega, ?_⟩
  rcases eq_or_ne m 11 with h | h
  · rw [h, monthStart_march_end]
    omega
  · have he : 12 * y + m + 2 + 1 = 12 * y + (m + 1) + 2 := by ring
    rw [he, monthStart_march y (by omega) (by omega)]
    omega

theorem monthStart_monthOf_le (n : ℤ) : monthStart (monthOf n) ≤ n := (monthStart_monthOf n).1

theorem lt_monthStart_monthOf_succ (n : ℤ) : n < monthStart (monthOf n + 1) :=
  (monthStart_monthOf n).2

/-- The month of a day is the month whose days contain it. -/
theorem monthOf_eq_iff (n k : ℤ) : monthOf n = k ↔ monthStart k ≤ n ∧ n < monthStart (k + 1) := by
  constructor
  · rintro rfl
    exact ⟨monthStart_monthOf_le n, lt_monthStart_monthOf_succ n⟩
  · rintro ⟨hlo, hhi⟩
    have h1 : monthOf n < k + 1 :=
      monthStart_lt_iff.mp (lt_of_le_of_lt (monthStart_monthOf_le n) hhi)
    have h2 : k < monthOf n + 1 :=
      monthStart_lt_iff.mp (lt_of_le_of_lt hlo (lt_monthStart_monthOf_succ n))
    omega

/-- Day `d` of month `k`, for a `d` the month has, is in month `k`. -/
theorem monthOf_day {k d : ℤ} (h1 : 1 ≤ d) (h2 : d ≤ monthLen k) :
    monthOf (monthStart k + (d - 1)) = k := by
  rw [monthOf_eq_iff, monthStart_succ]
  omega

theorem dayOf_day {k d : ℤ} (h1 : 1 ≤ d) (h2 : d ≤ monthLen k) :
    dayOf (monthStart k + (d - 1)) = d := by
  rw [dayOf, monthOf_day h1 h2]
  ring

theorem dayOf_bounds (n : ℤ) : 1 ≤ dayOf n ∧ dayOf n ≤ monthLen (monthOf n) := by
  have hlo := monthStart_monthOf_le n
  have hhi := lt_monthStart_monthOf_succ n
  rw [monthStart_succ] at hhi
  simp only [dayOf]
  omega

/-- A day is its month's first day plus its day of the month. -/
theorem monthStart_add_dayOf (n : ℤ) : monthStart (monthOf n) + (dayOf n - 1) = n := by
  simp only [dayOf]
  ring

theorem monthOf_mono {m n : ℤ} (h : m ≤ n) : monthOf m ≤ monthOf n := by
  have : monthStart (monthOf m) < monthStart (monthOf n + 1) :=
    lt_of_le_of_lt (monthStart_monthOf_le m) (lt_of_le_of_lt h (lt_monthStart_monthOf_succ n))
  have := monthStart_lt_iff.mp this
  omega

/-! ### Weeks -/

theorem weekday_bounds (n : ℤ) : 0 ≤ weekday n ∧ weekday n < 7 := by
  simp only [weekday]
  omega

/-- The last Sunday of a month is a Sunday among the month's last seven days. -/
theorem lastSunday_spec (k : ℤ) :
    weekday (lastSunday k) = 0 ∧ monthStart (k + 1) - 7 ≤ lastSunday k ∧
      lastSunday k < monthStart (k + 1) := by
  simp only [lastSunday, weekday]
  omega

theorem monthOf_lastSunday (k : ℤ) : monthOf (lastSunday k) = k := by
  obtain ⟨-, hlo, hhi⟩ := lastSunday_spec k
  have := (monthLen_bounds k).1
  have hs := monthStart_succ k
  rw [monthOf_eq_iff]
  omega

example : monthOf 0 = 12 * 1970 ∧ dayOf 0 = 1 := by decide

/-- 29 February 2028. -/
example : monthStart (12 * 2028 + 1) + 28 = 21243 ∧ dayOf 21243 = 29 := by decide

end Calendar
