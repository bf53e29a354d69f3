import Redeemo.Branch.OpenStatus

/-! The portal's `openNow`: the server's open status, by a clock of its own.

    The server works the day of the week out from the date; the portal reads the name of the day. -/

namespace Redeemo.MerchantWeb.OpenNow
open Calendar Dates London OpeningHours OpenStatus

def WEEKDAY_MAP : List (String × ℤ) :=
  [("Sun", 0), ("Mon", 1), ("Tue", 2), ("Wed", 3), ("Thu", 4), ("Fri", 5), ("Sat", 6)]

/-- The weekday part of the `en-GB` formatter. -/
def weekdayShort (now : ℤ) : String :=
  (["Sun", "Mon", "Tue", "Wed", "Thu", "Fri", "Sat"][(getUTCDay (londonWall now)).toNat]?).getD ""

/-- The rows are read as the server reads them. -/
def openNow (openingHours : List OpeningHoursInput) (now : ℤ) : Bool :=
  match WEEKDAY_MAP.lookup (weekdayShort now) with
  -- No row is of a day without a number.
  | none => false
  | some todayDow =>
    let parts := formatToParts now
    let hour := if parts.hour = 24 then 0 else parts.hour
    let yesterdayDow := (todayDow + 6) % 7
    let nowMins := hour * 60 + parts.minute
    openingHours.any (fun h => h.dayOfWeek = todayDow ∧ ¬ h.isClosed ∧ openToday nowMins h) ||
    openingHours.any (fun h => h.dayOfWeek = yesterdayDow ∧ ¬ h.isClosed ∧ openFromYesterday nowMins h)

theorem lookup_weekdayShort (now : ℤ) :
    WEEKDAY_MAP.lookup (weekdayShort now) = some (weekday (londonDay now)) := by
  obtain ⟨h0, h1⟩ := weekday_bounds (londonDay now)
  have hday : getUTCDay (londonWall now) = weekday (londonDay now) := rfl
  rw [weekdayShort, hday]
  generalize weekday (londonDay now) = d at h0 h1
  have hd : d = 0 ∨ d = 1 ∨ d = 2 ∨ d = 3 ∨ d = 4 ∨ d = 5 ∨ d = 6 := by omega
  rcases hd with rfl | rfl | rfl | rfl | rfl | rfl | rfl <;> rfl

/-- The portal and the server agree on any rows at all. -/
theorem openNow_eq (hours : List OpeningHoursInput) {now : ℤ} (h : 0 ≤ now) :
    openNow hours now = isOpenNow hours now := by
  have hdow : (getLondonClock now).dayOfWeek = weekday (londonDay now) := by rw [getLondonClock_eq h]
  rw [openNow, lookup_weekdayShort, isOpenNow, hdow]
  rfl

end Redeemo.MerchantWeb.OpenNow
