import Redeemo.Shared.Dates

/-! The Europe/London wall clock.

    London is at UTC+0 in winter and UTC+1 in summer; the clocks change at 01:00 UTC on the last
    Sundays of March and October (the rule of the time zone database since 1996, applied here to
    every instant). `formatToParts` reads the wall clock as the source's `Intl` formatter does, and
    `londonDateAtMinute` goes back from a wall-clock minute to an instant with the offset it reads at
    UTC midnight of that date. -/

namespace Redeemo.London
open Calendar Dates

def bstStart (year : ℤ) : ℤ := lastSunday (12 * year + 2) * msPerDay + msPerHour
def bstEnd (year : ℤ) : ℤ := lastSunday (12 * year + 9) * msPerDay + msPerHour

/-- Minutes that London is ahead of UTC at an instant. -/
def londonOffset (t : ℤ) : ℤ :=
  if bstStart (getUTCFullYear t) ≤ t ∧ t < bstEnd (getUTCFullYear t) then 60 else 0

/-- The wall clock at an instant, written as the time value that shows it in UTC. -/
def londonWall (t : ℤ) : ℤ := t + londonOffset t * msPerMinute

/-- The London calendar date at an instant, as a day number. -/
def londonDay (t : ℤ) : ℤ := day (londonWall t)

structure LondonParts where
  year : ℤ
  /-- From 1. -/
  month : ℤ
  day : ℤ
  hour : ℤ
  minute : ℤ
  deriving DecidableEq, Repr

/-- `Intl` prints the year of the era: the year before 1 is 1 BC. -/
def yearOfEra (year : ℤ) : ℤ := if year ≤ 0 then 1 - year else year

theorem yearOfEra_of_pos {year : ℤ} (h : 0 < year) : yearOfEra year = year := if_neg (not_le.mpr h)

def formatToParts (t : ℤ) : LondonParts :=
  { year := yearOfEra (getUTCFullYear (londonWall t))
    month := getUTCMonth (londonWall t) + 1
    day := getUTCDate (londonWall t)
    hour := londonWall t % msPerDay / msPerHour
    minute := londonWall t % msPerHour / msPerMinute }

structure LondonClock where
  /-- Sunday is 0. -/
  dayOfWeek : ℤ
  /-- Minutes since midnight, London time. -/
  minutes : ℤ
  deriving DecidableEq, Repr

def getLondonClock (now : ℤ) : LondonClock :=
  let parts := formatToParts now
  -- Some engines print midnight as hour 24.
  let hour := if parts.hour = 24 then 0 else parts.hour
  ⟨getUTCDay (dateUTC parts.year (parts.month - 1) parts.day), hour * 60 + parts.minute⟩

def londonDateAtMinute (now dayOffset minute : ℤ) : ℤ :=
  let parts := formatToParts now
  let utcMidnight := dateUTC parts.year (parts.month - 1) (parts.day + dayOffset)
  utcMidnight - londonOffset utcMidnight * msPerMinute + minute * msPerMinute

/-! ### The clock from the wall -/

theorem londonOffset_cases (t : ℤ) : londonOffset t = 0 ∨ londonOffset t = 60 := by
  simp only [londonOffset]
  split_ifs
  · exact .inr rfl
  · exact .inl rfl

theorem londonWall_le {t : ℤ} (h : 0 ≤ t) : 0 ≤ londonWall t := by
  simp only [londonWall, msPerMinute]
  rcases londonOffset_cases t with h0 | h0 <;> rw [h0] <;> omega

/-- The date parts name the London date: carried by `d` days, they name the day `d` later. -/
theorem dateUTC_parts {t : ℤ} (h : 0 ≤ t) (d : ℤ) :
    dateUTC (formatToParts t).year ((formatToParts t).month - 1) ((formatToParts t).day + d)
      = (londonDay t + d) * msPerDay := by
  have hw := londonWall_le h
  have hm := year_month (londonWall t)
  have hd := monthStart_add_dayOf (day (londonWall t))
  have hy := getUTCFullYear_le (t := londonWall t) (by unfold msPerDay; omega)
  simp only [formatToParts]
  rw [yearOfEra_of_pos (by omega), dateUTC_year (by unfold msPerDay; omega), add_sub_cancel_right, hm, londonDay]
  congr 1
  simp only [getUTCDate]
  linarith

theorem getLondonClock_eq {t : ℤ} (h : 0 ≤ t) :
    getLondonClock t
      = ⟨weekday (londonDay t), londonWall t % msPerDay / msPerMinute⟩ := by
  have hd := dateUTC_parts h 0
  rw [add_zero, add_zero] at hd
  have hhour : (formatToParts t).hour ≠ 24 := by
    simp only [formatToParts]
    simp only [msPerDay, msPerHour]
    omega
  rw [getLondonClock]
  simp only [if_neg hhour, hd, getUTCDay, day_mul]
  congr 1
  simp only [formatToParts]
  simp only [msPerDay, msPerHour, msPerMinute]
  omega

theorem minutes_bounds {t : ℤ} (h : 0 ≤ t) :
    0 ≤ (getLondonClock t).minutes ∧ (getLondonClock t).minutes < 1440 := by
  rw [getLondonClock_eq h]
  dsimp only
  simp only [msPerDay, msPerMinute]
  omega

theorem dayOfWeek_bounds {t : ℤ} (h : 0 ≤ t) :
    0 ≤ (getLondonClock t).dayOfWeek ∧ (getLondonClock t).dayOfWeek < 7 := by
  rw [getLondonClock_eq h]
  exact weekday_bounds _

/-! ### Going back to an instant -/

/-- The offset read at UTC midnight of a day. -/
def midnightOffset (d : ℤ) : ℤ := londonOffset (d * msPerDay)

theorem londonDateAtMinute_eq {now : ℤ} (h : 0 ≤ now) (dayOffset minute : ℤ) :
    londonDateAtMinute now dayOffset minute = (londonDay now + dayOffset) * msPerDay
      - midnightOffset (londonDay now + dayOffset) * msPerMinute + minute * msPerMinute := by
  simp only [londonDateAtMinute, dateUTC_parts h, midnightOffset]

/-- A day's midnight is in summer time from the day after the last Sunday of March to the last Sunday
    of October. -/
theorem midnightOffset_eq (d : ℤ) :
    midnightOffset d = if lastSunday (12 * (monthOf d / 12) + 2) < d ∧
      d ≤ lastSunday (12 * (monthOf d / 12) + 9) then 60 else 0 := by
  have hy : getUTCFullYear (d * msPerDay) = monthOf d / 12 := by
    rw [getUTCFullYear, day_mul]
  rw [midnightOffset, londonOffset, hy]
  congr 1
  simp only [bstStart, bstEnd, msPerDay, msPerHour]
  rw [eq_iff_iff]
  constructor
  · rintro ⟨h1, h2⟩
    constructor <;> omega
  · rintro ⟨h1, h2⟩
    constructor <;> omega

theorem midnightOffset_cases (d : ℤ) : midnightOffset d = 0 ∨ midnightOffset d = 60 :=
  londonOffset_cases _

/-- Between two midnights the clocks go forward only on the last Sunday of March. -/
theorem clocks_forward {d : ℤ} (h0 : midnightOffset d = 0) (h1 : midnightOffset (d + 1) = 60) :
    ∃ year, d = lastSunday (12 * year + 2) := by
  rw [midnightOffset_eq] at h0 h1
  obtain ⟨y, hy⟩ : ∃ y, y = monthOf (d + 1) / 12 := ⟨_, rfl⟩
  rw [← hy] at h1
  have hin : lastSunday (12 * y + 2) < d + 1 ∧ d + 1 ≤ lastSunday (12 * y + 9) := by
    by_contra hn
    rw [if_neg hn] at h1
    cases h1
  -- The day is in the same year as the next: it lies between that March and that October.
  have hmonth : monthOf d / 12 = y := by
    have hlo := monthOf_mono (show lastSunday (12 * y + 2) ≤ d by omega)
    have hhi := monthOf_mono (show d ≤ lastSunday (12 * y + 9) by omega)
    rw [monthOf_lastSunday] at hlo hhi
    omega
  rw [hmonth] at h0
  refine ⟨y, ?_⟩
  by_contra hne
  rw [if_pos ⟨by omega, by omega⟩] at h0
  cases h0

/-- 29 March 2026: 00:59 UTC is 00:59 in London, 01:00 UTC is 02:00. -/
example : (getLondonClock (dateUTC 2026 2 29 + 59 * msPerMinute)).minutes = 59 ∧
    (getLondonClock (dateUTC 2026 2 29 + 60 * msPerMinute)).minutes = 120 := by decide

end Redeemo.London
