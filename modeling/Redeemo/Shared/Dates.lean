import Redeemo.Lib.Calendar

/-! The part of JavaScript's `Date` the program uses, on time values: milliseconds since
    1 January 1970 UTC.

    `dateUTC` is `Date.UTC` with its two quirks: a month or day outside its range carries over
    (`MakeDay`), and a year from 0 to 99 means 1900 to 1999 (`MakeFullYear`). A clock reading,
    `new Date()`, is a natural number: no clock of the program reads a time before 1970. -/

namespace Redeemo.Dates
open Calendar

def msPerDay : ℤ := 86400000
def msPerHour : ℤ := 3600000
def msPerMinute : ℤ := 60000

/-- The day of a time value. -/
def day (t : ℤ) : ℤ := t / msPerDay

def getUTCFullYear (t : ℤ) : ℤ := monthOf (day t) / 12
/-- From 0, as in the source. -/
def getUTCMonth (t : ℤ) : ℤ := monthOf (day t) % 12
def getUTCDate (t : ℤ) : ℤ := dayOf (day t)
/-- Sunday is 0. -/
def getUTCDay (t : ℤ) : ℤ := weekday (day t)

/-- The year `Date.UTC` reads from its first argument. -/
def fullYear (year : ℤ) : ℤ := if 0 ≤ year ∧ year ≤ 99 then 1900 + year else year

/-- `Date.UTC(year, month, day)`, the month from 0. -/
def dateUTC (year month day : ℤ) : ℤ :=
  (monthStart (12 * fullYear year + month) + (day - 1)) * msPerDay

theorem day_mul (n : ℤ) : day (n * msPerDay) = n := by
  simp only [day, msPerDay]
  omega

theorem day_bounds (t : ℤ) : day t * msPerDay ≤ t ∧ t < (day t + 1) * msPerDay := by
  simp only [day, msPerDay]
  omega

/-- Year and month of a time value give its month back. -/
theorem year_month (t : ℤ) : 12 * getUTCFullYear t + getUTCMonth t = monthOf (day t) := by
  simp only [getUTCFullYear, getUTCMonth]
  omega

theorem fullYear_of_le {year : ℤ} (h : 100 ≤ year) : fullYear year = year := by
  rw [fullYear, if_neg]
  omega

/-- A year read off a time value at or after December 1969 is not one of the aliased years. -/
theorem getUTCFullYear_le {t : ℤ} (h : -31 * msPerDay ≤ t) : 100 ≤ getUTCFullYear t := by
  have h1 : -31 ≤ day t := by
    simp only [day, msPerDay] at *
    omega
  have h2 := monthOf_mono h1
  have h3 : monthOf (-31) = 23639 := by decide
  simp only [getUTCFullYear]
  omega

/-- `Date.UTC` on the year of `t`, with the month carried by `m`. -/
theorem dateUTC_year {t : ℤ} (h : -31 * msPerDay ≤ t) (m d : ℤ) :
    dateUTC (getUTCFullYear t) m d =
      (monthStart (12 * getUTCFullYear t + m) + (d - 1)) * msPerDay := by
  rw [dateUTC, fullYear_of_le (getUTCFullYear_le h)]

end Redeemo.Dates
