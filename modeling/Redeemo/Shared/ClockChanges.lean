import Redeemo.Shared.LondonClock

/-! The days on which the London clocks change.

    `londonDateAtMinute` adds the minutes of the wall clock to midnight as if they were minutes that have passed. Between the
    midnight of a day and an instant of that day the clocks may have been changed (`clockShift`), and on those two days in
    the year an instant computed for a minute after the change is an hour away from it (`minutes_londonDateAtMinute_iff`). -/

namespace Redeemo.London
open Calendar Dates

variable {t now d dayOffset minute : ℤ}

/-! ### Summer time -/

theorem londonOffset_eq_iff : londonOffset t = 60 ↔ ∃ year, bstStart year ≤ t ∧ t < bstEnd year := by
  constructor
  · intro h
    refine ⟨getUTCFullYear t, ?_⟩
    by_contra hno
    rw [londonOffset, if_neg hno] at h
    cases h
  · rintro ⟨year, hlo, hhi⟩
    have hyear : getUTCFullYear t = year := by
      simp only [bstStart, bstEnd, msPerDay, msPerHour] at hlo hhi
      have hday := day_bounds t
      simp only [msPerDay] at hday
      have hmar := monthOf_mono (show lastSunday (12 * year + 2) ≤ day t by omega)
      have hoct := monthOf_mono (show day t ≤ lastSunday (12 * year + 9) by omega)
      rw [monthOf_lastSunday] at hmar hoct
      rw [getUTCFullYear]
      omega
    rw [londonOffset, hyear, if_pos ⟨hlo, hhi⟩]

theorem midnightOffset_eq_iff : midnightOffset d = 60 ↔
    ∃ year, lastSunday (12 * year + 2) < d ∧ d ≤ lastSunday (12 * year + 9) := by
  rw [midnightOffset, londonOffset_eq_iff]
  simp only [bstStart, bstEnd, msPerDay, msPerHour]
  constructor
  · rintro ⟨year, hlo, hhi⟩
    exact ⟨year, by omega, by omega⟩
  · rintro ⟨year, hlo, hhi⟩
    exact ⟨year, by omega, by omega⟩

/-- The clocks go forward in March and back in October. -/
theorem lastSunday_lt (year : ℤ) : lastSunday (12 * year + 2) < lastSunday (12 * year + 9) := by
  have hmono := monthOf_mono (m := lastSunday (12 * year + 9)) (n := lastSunday (12 * year + 2))
  rw [monthOf_lastSunday, monthOf_lastSunday] at hmono
  by_contra hno
  have := hmono (by omega)
  omega

/-! ### The change of a day -/

def ForwardDay (d : ℤ) : Prop := ∃ year, d = lastSunday (12 * year + 2)

def BackDay (d : ℤ) : Prop := ∃ year, d = lastSunday (12 * year + 9)

/-- The clocks change on the day. -/
def ChangeDay (d : ℤ) : Prop := ForwardDay d ∨ BackDay d

/-- 01:00 UTC. -/
def changeInstant (d : ℤ) : ℤ := d * msPerDay + msPerHour

/-- From the hour before a day to its end, the offset is that of one of two midnights. -/
theorem londonOffset_near (h0 : d * msPerDay - msPerHour ≤ t) (h1 : t < (d + 1) * msPerDay) :
    londonOffset t = if changeInstant d ≤ t then midnightOffset (d + 1) else midnightOffset d := by
  have hsame : londonOffset t = 60 ↔ (if changeInstant d ≤ t then midnightOffset (d + 1) else midnightOffset d) = 60 := by
    rw [londonOffset_eq_iff]
    split_ifs with hchange
    · rw [midnightOffset_eq_iff]
      refine exists_congr fun year => ?_
      simp only [changeInstant, bstStart, bstEnd, msPerDay, msPerHour] at *
      constructor
      · rintro ⟨hlo, hhi⟩
        constructor <;> omega
      · rintro ⟨hlo, hhi⟩
        constructor <;> omega
    · rw [midnightOffset_eq_iff]
      refine exists_congr fun year => ?_
      simp only [changeInstant, bstStart, bstEnd, msPerDay, msPerHour] at *
      constructor
      · rintro ⟨hlo, hhi⟩
        constructor <;> omega
      · rintro ⟨hlo, hhi⟩
        constructor <;> omega
  have hcases := londonOffset_cases t
  have hmid : (if changeInstant d ≤ t then midnightOffset (d + 1) else midnightOffset d) = 0 ∨
      (if changeInstant d ≤ t then midnightOffset (d + 1) else midnightOffset d) = 60 := by
    split_ifs
    · exact midnightOffset_cases _
    · exact midnightOffset_cases _
  omega

theorem midnightOffset_forwardDay (h : ForwardDay d) : midnightOffset d = 0 ∧ midnightOffset (d + 1) = 60 := by
  obtain ⟨year, rfl⟩ := h
  refine ⟨(midnightOffset_cases _).resolve_right fun h60 => ?_, midnightOffset_eq_iff.mpr ⟨year, by omega, lastSunday_lt year⟩⟩
  obtain ⟨year', hlo, hhi⟩ := midnightOffset_eq_iff.mp h60
  have hmar := monthOf_mono hlo.le
  have hoct := monthOf_mono hhi
  rw [monthOf_lastSunday, monthOf_lastSunday] at hmar hoct
  obtain rfl : year' = year := by omega
  exact lt_irrefl _ hlo

theorem midnightOffset_backDay (h : BackDay d) : midnightOffset d = 60 ∧ midnightOffset (d + 1) = 0 := by
  obtain ⟨year, rfl⟩ := h
  refine ⟨midnightOffset_eq_iff.mpr ⟨year, lastSunday_lt year, le_rfl⟩, (midnightOffset_cases _).resolve_right fun h60 => ?_⟩
  obtain ⟨year', hlo, hhi⟩ := midnightOffset_eq_iff.mp h60
  have hmar := monthOf_mono (show lastSunday (12 * year' + 2) ≤ lastSunday (12 * year + 9) by omega)
  have hoct := monthOf_mono (show lastSunday (12 * year + 9) ≤ lastSunday (12 * year' + 9) by omega)
  rw [monthOf_lastSunday, monthOf_lastSunday] at hmar hoct
  obtain rfl : year' = year := by omega
  omega

/-- On all other days the two midnights have the same offset. -/
theorem changeDay_iff : ChangeDay d ↔ midnightOffset (d + 1) ≠ midnightOffset d := by
  constructor
  · rintro (h | h)
    · obtain ⟨h0, h1⟩ := midnightOffset_forwardDay h
      rw [h0, h1]
      decide
    · obtain ⟨h0, h1⟩ := midnightOffset_backDay h
      rw [h0, h1]
      decide
  · intro hne
    rcases midnightOffset_cases d with h0 | h0
    · exact .inl (clocks_forward h0 ((midnightOffset_cases _).resolve_left fun h1 => hne (h1.trans h0.symm)))
    · obtain ⟨year, hlo, hhi⟩ := midnightOffset_eq_iff.mp h0
      refine .inr ⟨year, ?_⟩
      by_contra hno
      exact hne ((midnightOffset_eq_iff.mpr ⟨year, by omega, by omega⟩).trans h0.symm)

/-! ### The shift of an instant -/

/-- By how many minutes the clocks have been changed since the UTC midnight of the London date. -/
def clockShift (t : ℤ) : ℤ := londonOffset t - midnightOffset (londonDay t)

theorem londonDay_bounds (t : ℤ) : londonDay t * msPerDay - msPerHour ≤ t ∧ t < (londonDay t + 1) * msPerDay := by
  have h := day_bounds (londonWall t)
  rw [londonDay]
  simp only [londonWall, msPerDay, msPerHour, msPerMinute] at h ⊢
  rcases londonOffset_cases t with h0 | h0
  · rw [h0] at h ⊢
    omega
  · rw [h0] at h ⊢
    omega

theorem clockShift_eq_zero_iff : clockShift t = 0 ↔ ¬ (ChangeDay (londonDay t) ∧ changeInstant (londonDay t) ≤ t) := by
  obtain ⟨hlo, hhi⟩ := londonDay_bounds t
  rw [clockShift, londonOffset_near hlo hhi, changeDay_iff]
  split_ifs with hchange
  · simp [hchange, sub_eq_zero]
  · simp [hchange]

/-- The clocks may be put back, the date is not. -/
theorem londonDay_mono (h : t ≤ now) : londonDay t ≤ londonDay now := by
  by_contra hlt
  obtain ⟨hlo, -⟩ := londonDay_bounds t
  obtain ⟨-, hhi⟩ := londonDay_bounds now
  have hday := day_bounds (londonWall t)
  have hday' := day_bounds (londonWall now)
  rw [← londonDay] at hday hday'
  -- Both are in the last hour of the day before, and the clocks do not change there.
  generalize londonDay t = d at *
  generalize londonDay now = e at *
  simp only [msPerDay, msPerHour] at hlo hhi
  have hoff := londonOffset_near (t := t) (d := d - 1) (by simp only [msPerDay, msPerHour]; omega)
    (by simp only [msPerDay]; omega)
  have hoff' := londonOffset_near (t := now) (d := d - 1) (by simp only [msPerDay, msPerHour]; omega)
    (by simp only [msPerDay]; omega)
  rw [if_pos (by simp only [changeInstant, msPerDay, msPerHour]; omega)] at hoff hoff'
  simp only [londonWall, hoff, hoff', msPerDay, msPerMinute] at hday hday'
  omega

/-- Between a change of the clocks and the end of its day. -/
def AfterChange (t : ℤ) : Prop := ∃ d, ChangeDay d ∧ changeInstant d ≤ t ∧ t < (d + 1) * msPerDay

theorem afterChange_iff : AfterChange t ↔ ChangeDay (day t) ∧ changeInstant (day t) ≤ t := by
  have hbounds := day_bounds t
  constructor
  · rintro ⟨d, hd, hlo, hhi⟩
    obtain rfl : d = day t := by
      simp only [changeInstant, msPerDay, msPerHour] at *
      omega
    exact ⟨hd, hlo⟩
  · rintro ⟨hd, hlo⟩
    exact ⟨day t, hd, hlo, hbounds.2⟩

instance decidableAfterChange (t : ℤ) : Decidable (AfterChange t) :=
  decidable_of_iff (midnightOffset (day t + 1) ≠ midnightOffset (day t) ∧ changeInstant (day t) ≤ t)
    ((and_congr_left fun _ => changeDay_iff.symm).trans afterChange_iff.symm)

theorem clockShift_of_not_afterChange (h : ¬ AfterChange t) : clockShift t = 0 :=
  clockShift_eq_zero_iff.mpr fun hchange => h ⟨_, hchange.1, hchange.2, (londonDay_bounds t).2⟩

/-- The instant that is computed for a minute of a date. -/
def dateMinute (d minute : ℤ) : ℤ := d * msPerDay - midnightOffset d * msPerMinute + minute * msPerMinute

theorem dateMinute_mono {m n : ℤ} (h : m ≤ n) : dateMinute d m ≤ dateMinute d n := by
  simp only [dateMinute, msPerMinute]
  omega

/-- Before the instant computed for its last midnight a date is not over, unless the clocks were changed on it. -/
theorem londonDay_le_of_lt (h : ¬ AfterChange t) (hlt : t < dateMinute d 1440) : londonDay t ≤ d := by
  by_contra hlate
  obtain ⟨hlo, -⟩ := londonDay_bounds t
  simp only [dateMinute, msPerDay, msPerHour, msPerMinute] at hlo hlt
  rcases midnightOffset_cases d with h0 | h0
  · rw [h0] at hlt
    have hoff := londonOffset_near (t := t) (d := d) (by simp only [msPerDay, msPerHour]; omega)
      (by simp only [msPerDay]; omega)
    have hafter : changeInstant d ≤ t := by
      simp only [changeInstant, msPerDay, msPerHour]
      omega
    rw [if_pos hafter] at hoff
    have hd : ¬ ChangeDay d := fun hd => h ⟨d, hd, hafter, by simp only [msPerDay]; omega⟩
    rw [changeDay_iff, not_not] at hd
    rw [hd, h0] at hoff
    have hday := day_bounds (londonWall t)
    rw [← londonDay] at hday
    simp only [londonWall, hoff, msPerDay, msPerMinute] at hday
    omega
  · rw [h0] at hlt
    omega

/-- The minute of the clock, counted from the date's midnight. -/
theorem minutes_eq (t : ℤ) : (getLondonClock t).minutes = londonWall t % msPerDay / msPerMinute := by
  rw [getLondonClock]
  simp only [formatToParts, msPerDay, msPerHour, msPerMinute]
  omega

/-- An instant against the instants computed for the minutes of its date. -/
theorem minute_instant_le_iff : dateMinute (londonDay t) minute ≤ t ↔
    minute + clockShift t ≤ (getLondonClock t).minutes := by
  have h := day_bounds (londonWall t)
  rw [dateMinute, minutes_eq, clockShift]
  rw [← londonDay] at h
  simp only [londonWall, msPerDay, msPerMinute] at h ⊢
  omega

/-! ### Reading a computed instant -/

/-- The minute is on the clock at some instant of the date. -/
def MinuteExists (d minute : ℤ) : Prop := ∃ t, londonDay t = d ∧ (getLondonClock t).minutes = minute

theorem minute_bounds (h : MinuteExists d minute) : 0 ≤ minute ∧ minute < 1440 := by
  obtain ⟨t, -, rfl⟩ := h
  rw [minutes_eq]
  simp only [msPerDay, msPerMinute]
  omega

/-- When the clocks go forward they skip the hour from 01:00. -/
theorem not_skipped (hd : ForwardDay d) (h : MinuteExists d minute) : minute < 60 ∨ 120 ≤ minute := by
  obtain ⟨t, rfl, rfl⟩ := h
  obtain ⟨hlo, hhi⟩ := londonDay_bounds t
  obtain ⟨hmid, hnext⟩ := midnightOffset_forwardDay hd
  have hoff := londonOffset_near hlo hhi
  have hday := day_bounds (londonWall t)
  rw [← londonDay] at hday
  rw [hmid, hnext] at hoff
  rw [minutes_eq]
  simp only [changeInstant, londonWall, msPerDay, msPerHour, msPerMinute] at *
  split_ifs at hoff with hchange
  · right
    omega
  · left
    omega

/-- A computed instant shows its own minute unless the clocks have been changed since midnight. -/
theorem minutes_londonDateAtMinute_iff (h : 0 ≤ now) (hm : MinuteExists (londonDay now + dayOffset) minute) :
    (getLondonClock (londonDateAtMinute now dayOffset minute)).minutes = minute ↔
      ¬ (ChangeDay (londonDay now + dayOffset) ∧ 120 ≤ minute) := by
  obtain ⟨h0, h1⟩ := minute_bounds hm
  rw [londonDateAtMinute_eq h]
  generalize londonDay now + dayOffset = d at *
  have hmid := midnightOffset_cases d
  have hlo : d * msPerDay - msPerHour ≤ d * msPerDay - midnightOffset d * msPerMinute + minute * msPerMinute := by
    simp only [msPerHour, msPerMinute]
    omega
  have hhi : d * msPerDay - midnightOffset d * msPerMinute + minute * msPerMinute < (d + 1) * msPerDay := by
    simp only [msPerDay, msPerMinute]
    omega
  have hoff := londonOffset_near hlo hhi
  have hchange : changeInstant d ≤ d * msPerDay - midnightOffset d * msPerMinute + minute * msPerMinute ↔
      60 + midnightOffset d ≤ minute := by
    simp only [changeInstant, msPerHour, msPerMinute]
    omega
  simp only [hchange] at hoff
  -- The wall clock is off by the change since midnight, which is less than a day.
  have hread : (getLondonClock (d * msPerDay - midnightOffset d * msPerMinute + minute * msPerMinute)).minutes = minute ↔
      londonOffset (d * msPerDay - midnightOffset d * msPerMinute + minute * msPerMinute) = midnightOffset d := by
    have hcases := londonOffset_cases (d * msPerDay - midnightOffset d * msPerMinute + minute * msPerMinute)
    rw [minutes_eq, londonWall]
    generalize londonOffset (d * msPerDay - midnightOffset d * msPerMinute + minute * msPerMinute) = offset at *
    simp only [msPerDay, msPerMinute]
    omega
  rw [hread, hoff]
  by_cases hd : ChangeDay d
  · have hne := changeDay_iff.mp hd
    rcases hd with hd | hd
    · have hskip := not_skipped hd hm
      obtain ⟨hmid, -⟩ := midnightOffset_forwardDay hd
      simp only [hd, ChangeDay, true_or, true_and]
      split_ifs with hafter
      · simp only [hne, false_iff, not_not]
        omega
      · simp only [true_iff]
        omega
    · obtain ⟨hmid, -⟩ := midnightOffset_backDay hd
      simp only [hd, ChangeDay, or_true, true_and]
      split_ifs with hafter
      · simp only [hne, false_iff, not_not]
        omega
      · simp only [true_iff]
        omega
  · have hsame := not_not.mp (mt changeDay_iff.mpr hd)
    rw [hsame, ite_self]
    exact ⟨fun _ h => hd h.1, fun _ => rfl⟩

end Redeemo.London
