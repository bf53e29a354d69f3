import Mathlib.Data.Set.Lattice
import Mathlib.Order.CompletePartialOrder
import Redeemo.Branch.OpeningHours
import Redeemo.Shared.LondonClock

/-! `isOpenNow`, and what the opening hours mean.

    A window is an arc of the circular week: from its opening minute forward to its closing minute,
    across midnight and from Saturday into Sunday where it closes the next morning
    (`OpeningHoursInput.arc`). Validator and reader cut that arc in different places; both are
    compared with it here. -/

namespace Redeemo.OpenStatus
open Intervals WallTime London OpeningHours

/-- `none` where the text is absent or malformed. -/
def toMinutes : Option String → Option ℤ
  | none => none
  | some hhmm => if hhmm = "24:00" then some MINUTES_PER_DAY else WallTime.hhmm number hhmm

/-- Today's part of a row's window. -/
def openToday (nowMins : ℤ) (h : OpeningHoursInput) : Bool :=
  match toMinutes h.openTime, toMinutes h.closeTime with
  | some openMins, some closeMins =>
    if openMins < closeMins then openMins ≤ nowMins ∧ nowMins < closeMins
    else if closeMins < openMins then openMins ≤ nowMins
    else false
  | _, _ => false

/-- What yesterday's row leaves for today. -/
def openFromYesterday (nowMins : ℤ) (h : OpeningHoursInput) : Bool :=
  match toMinutes h.openTime, toMinutes h.closeTime with
  | some openMins, some closeMins => closeMins < openMins ∧ nowMins < closeMins
  | _, _ => false

def isOpenNow (hours : List OpeningHoursInput) (now : ℤ) : Bool :=
  let clock := getLondonClock now
  let yesterdayDow := (clock.dayOfWeek + 6) % 7
  hours.any (fun h => h.dayOfWeek = clock.dayOfWeek ∧ ¬ h.isClosed ∧ openToday clock.minutes h) ||
  hours.any (fun h => h.dayOfWeek = yesterdayDow ∧ ¬ h.isClosed ∧ openFromYesterday clock.minutes h)

/-! ### The circular week -/

def minutesPerWeek : ℤ := 10080

/-- Minutes since the last Sunday midnight, London time. -/
def minuteOfWeek (now : ℤ) : ℤ :=
  1440 * (getLondonClock now).dayOfWeek + (getLondonClock now).minutes

/-- The arc a window takes up on the circular week. -/
def arc (r : OpeningHoursInput) : Arc :=
  ⟨1440 * r.dayOfWeek + r.openMins,
    if r.openMins < r.closeMins then r.closeMins - r.openMins
    else r.closeMins + 1440 - r.openMins⟩

/-- The minutes of the week a window covers. -/
def minutesOf (r : OpeningHoursInput) : Set ℤ := (arc r).points minutesPerWeek

/-- The open rows. -/
def windows (hours : List OpeningHoursInput) : List OpeningHoursInput :=
  hours.filter fun r => r.isClosed = false

theorem mem_windows {hours : List OpeningHoursInput} {r : OpeningHoursInput} :
    r ∈ windows hours ↔ r ∈ hours ∧ r.isClosed = false := by
  simp [windows]

/-- A minute of a day lies in a window's arc when the window holds it on that day, or spills onto it
    from the day before. -/
theorem mem_minutesOf_iff {r : OpeningHoursInput} (hw : r.WellFormed) (ho : r.isClosed = false)
    {dow m : ℤ} (hd0 : 0 ≤ dow) (hd1 : dow < 7) (hm0 : 0 ≤ m) (hm1 : m < 1440) :
    1440 * dow + m ∈ minutesOf r ↔ (r.dayOfWeek = dow ∧ r.sameDay.Has m) ∨
      ((r.dayOfWeek + 1) % 7 = dow ∧ r.Overnight ∧ m < r.closeMins) := by
  obtain ⟨h0, h1, h2, h3, hne⟩ := hw.minutes ho
  have hday := hw.day
  have hlen : (arc r).len ≤ minutesPerWeek := by
    unfold arc minutesPerWeek
    dsimp only
    split_ifs <;> omega
  rw [minutesOf, Arc.mem_points_iff (by unfold arc; dsimp only; omega)
    (by unfold arc minutesPerWeek; dsimp only; omega) hlen (by omega)
    (by unfold minutesPerWeek; omega)]
  simp only [arc, OpeningHoursInput.sameDay, Stretch.Has, OpeningHoursInput.Overnight,
    MINUTES_PER_DAY, minutesPerWeek]
  split_ifs with hlt
  · omega
  · omega

theorem minuteOfWeek_mem_iff {r : OpeningHoursInput} (hw : r.WellFormed) (ho : r.isClosed = false)
    (now : ℕ) : minuteOfWeek now ∈ minutesOf r ↔
      (r.dayOfWeek = (getLondonClock now).dayOfWeek ∧ r.sameDay.Has (getLondonClock now).minutes) ∨
      ((r.dayOfWeek + 1) % 7 = (getLondonClock now).dayOfWeek ∧ r.Overnight ∧
        (getLondonClock now).minutes < r.closeMins) := by
  have hd := dayOfWeek_bounds (Int.natCast_nonneg now)
  have hm := minutes_bounds (Int.natCast_nonneg now)
  exact mem_minutesOf_iff hw ho hd.1 hd.2 hm.1 hm.2

/-! ### Disjoint arcs -/

/-- Two windows that neither overlap within a day nor spill onto each other. -/
def Apart (a b : OpeningHoursInput) : Prop :=
  (a.dayOfWeek = b.dayOfWeek → ¬ a.sameDay.Overlaps b.sameDay) ∧
  (a.Overnight → b.dayOfWeek = (a.dayOfWeek + 1) % 7 →
    ¬ (Stretch.mk 0 a.closeMins).Overlaps b.sameDay) ∧
  (b.Overnight → a.dayOfWeek = (b.dayOfWeek + 1) % 7 →
    ¬ (Stretch.mk 0 b.closeMins).Overlaps a.sameDay)

theorem sameDay_bounds {r : OpeningHoursInput} (hw : r.WellFormed) (ho : r.isClosed = false) :
    0 ≤ r.sameDay.lo ∧ r.sameDay.lo < r.sameDay.hi ∧ r.sameDay.hi ≤ 1440 := by
  obtain ⟨h0, h1, h2, h3, -⟩ := hw.minutes ho
  refine ⟨h0, hw.sameDay_lt ho, ?_⟩
  unfold OpeningHoursInput.sameDay MINUTES_PER_DAY
  dsimp only
  split_ifs <;> omega

/-- An overnight window holds its day up to midnight. -/
theorem sameDay_hi_of_overnight {r : OpeningHoursInput} (h : r.Overnight) : r.sameDay.hi = 1440 := by
  have hlt : ¬ r.openMins < r.closeMins := not_lt.mpr (le_of_lt h)
  simp only [OpeningHoursInput.sameDay, if_neg hlt, MINUTES_PER_DAY]

theorem mem_of_sameDay {r : OpeningHoursInput} (hw : r.WellFormed) (ho : r.isClosed = false) {m : ℤ}
    (h : r.sameDay.Has m) : 1440 * r.dayOfWeek + m ∈ minutesOf r := by
  obtain ⟨h0, h1, h2⟩ := sameDay_bounds hw ho
  obtain ⟨hlo, hhi⟩ := h
  have hd := hw.day
  exact (mem_minutesOf_iff hw ho hd.1 (by omega) (by omega) (by omega)).mpr (.inl ⟨rfl, hlo, hhi⟩)

theorem mem_of_spill {r : OpeningHoursInput} (hw : r.WellFormed) (ho : r.isClosed = false) {m : ℤ}
    (hn : r.Overnight) (h0 : 0 ≤ m) (h1 : m < r.closeMins) :
    1440 * ((r.dayOfWeek + 1) % 7) + m ∈ minutesOf r := by
  have hc := (hw.minutes ho).2.2.2.1
  exact (mem_minutesOf_iff hw ho (by omega) (by omega) h0 (by omega)).mpr (.inr ⟨rfl, hn, h1⟩)

/-- Windows with no common minute: neither spills onto the other. -/
theorem not_spill_of_disjoint {a b : OpeningHoursInput} (hwa : a.WellFormed)
    (hoa : a.isClosed = false) (hwb : b.WellFormed) (hob : b.isClosed = false)
    (h : Disjoint (minutesOf a) (minutesOf b)) (hn : a.Overnight)
    (hd : b.dayOfWeek = (a.dayOfWeek + 1) % 7) :
    ¬ (Stretch.mk 0 a.closeMins).Overlaps b.sameDay := by
  intro hov
  obtain ⟨hb0, hb1, -⟩ := sameDay_bounds hwb hob
  have hin := mem_of_sameDay hwb hob (m := b.sameDay.lo) ⟨le_rfl, hb1⟩
  rw [hd] at hin
  exact Set.disjoint_left.mp h (mem_of_spill hwa hoa hn hb0 hov.2) hin

/-- A spill and the next day's window that share a minute overlap. -/
theorem spill_overlaps {a b : OpeningHoursInput} {m : ℤ} (h0 : 0 ≤ m) (ha : m < a.closeMins)
    (hb : b.sameDay.Has m) : (Stretch.mk 0 a.closeMins).Overlaps b.sameDay :=
  ⟨lt_of_le_of_lt h0 hb.2, lt_of_le_of_lt hb.1 ha⟩

theorem disjoint_iff_apart {a b : OpeningHoursInput} (hwa : a.WellFormed) (hoa : a.isClosed = false)
    (hwb : b.WellFormed) (hob : b.isClosed = false) :
    Disjoint (minutesOf a) (minutesOf b) ↔ Apart a b := by
  obtain ⟨ha0, ha1, ha2⟩ := sameDay_bounds hwa hoa
  obtain ⟨hb0, hb1, hb2⟩ := sameDay_bounds hwb hob
  have hda := hwa.day
  have hdb := hwb.day
  constructor
  · intro h
    refine ⟨fun hd hov => ?_, fun hn hd => ?_, fun hn hd => ?_⟩
    · obtain ⟨m, hma, hmb⟩ := (Stretch.overlaps_iff ha1 hb1).mp hov
      have hin := mem_of_sameDay hwb hob hmb
      rw [← hd] at hin
      exact Set.disjoint_left.mp h (mem_of_sameDay hwa hoa hma) hin
    · exact not_spill_of_disjoint hwa hoa hwb hob h hn hd
    · exact not_spill_of_disjoint hwb hob hwa hoa h.symm hn hd
  · rintro ⟨hsame, hab, hba⟩
    rw [Set.disjoint_left]
    intro t hta htb
    -- The common minute of the week, as a minute of a day.
    have ht0 : 0 ≤ t := hta.1
    have ht1 : t < 10080 := hta.2.1
    obtain ⟨dow, m, rfl, hd0, hd1, hm0, hm1⟩ : ∃ dow m, t = 1440 * dow + m ∧ 0 ≤ dow ∧ dow < 7 ∧
        0 ≤ m ∧ m < 1440 := ⟨t / 1440, t % 1440, by omega, by omega, by omega, by omega, by omega⟩
    rw [mem_minutesOf_iff hwa hoa hd0 hd1 hm0 hm1] at hta
    rw [mem_minutesOf_iff hwb hob hd0 hd1 hm0 hm1] at htb
    rcases hta with ⟨had, hma⟩ | ⟨had, hna, hma⟩ <;> rcases htb with ⟨hbd, hmb⟩ | ⟨hbd, hnb, hmb⟩
    · exact hsame (had.trans hbd.symm) ((Stretch.overlaps_iff ha1 hb1).mpr ⟨m, hma, hmb⟩)
    · exact hba hnb (had.trans hbd.symm) (spill_overlaps hm0 hmb hma)
    · exact hab hna (hbd.trans had.symm) (spill_overlaps hm0 hma hmb)
    · -- Both spill onto the day: both run up to midnight before it.
      have hae := sameDay_hi_of_overnight hna
      have hbe := sameDay_hi_of_overnight hnb
      refine hsame (by omega) ⟨?_, ?_⟩ <;> omega

/-- The checks by day say that no two windows share a minute of the week. -/
theorem disjoint_windows_iff {hours : List OpeningHoursInput} (hw : ∀ r ∈ hours, r.WellFormed) :
    (windows hours).Pairwise (fun a b => Disjoint (minutesOf a) (minutesOf b)) ↔
      (∀ d, (windowsOf hours d).Pairwise fun a b => ¬ a.sameDay.Overlaps b.sameDay) ∧
      ∀ d, ∀ a ∈ windowsOf hours d, a.Overnight → ∀ w ∈ windowsOf hours ((d + 1) % 7),
        ¬ (Stretch.mk 0 a.closeMins).Overlaps w.sameDay := by
  have hfilter : ∀ d, windowsOf hours d = (windows hours).filter fun r => r.dayOfWeek = d := by
    intro d
    rw [windows, List.filter_filter]
    simp only [windowsOf]
    congr 1
    funext r
    simp [Bool.and_comm]
  have happ : ∀ {a b}, a ∈ windows hours → b ∈ windows hours →
      (Disjoint (minutesOf a) (minutesOf b) ↔ Apart a b) := by
    intro a b ha hb
    rw [mem_windows] at ha hb
    exact disjoint_iff_apart (hw a ha.1) ha.2 (hw b hb.1) hb.2
  constructor
  · intro h
    constructor
    · intro d
      rw [hfilter, List.pairwise_filter]
      refine h.imp_of_mem fun {a b} ha hb hab had hbd => ((happ ha hb).mp hab).1 ?_
      rw [of_decide_eq_true had, of_decide_eq_true hbd]
    · intro d a ha hn w hwm
      obtain ⟨ham, hao, had⟩ := mem_windowsOf.mp ha
      obtain ⟨hwm', hwo, hwd⟩ := mem_windowsOf.mp hwm
      have ha' := mem_windows.mpr ⟨ham, hao⟩
      have hw' := mem_windows.mpr ⟨hwm', hwo⟩
      have hne : a ≠ w := by
        rintro rfl
        omega
      have hsymm : Std.Symm fun a b => Disjoint (minutesOf a) (minutesOf b) := ⟨fun _ _ h => h.symm⟩
      have := h.forall ha' hw' hne
      exact ((happ ha' hw').mp this).2.1 hn (by rw [hwd, had])
  · rintro ⟨hsame, hspill⟩
    have hall : (windows hours).Pairwise fun a b => ∀ d, a.dayOfWeek = d → b.dayOfWeek = d →
        ¬ a.sameDay.Overlaps b.sameDay := by
      rw [List.pairwise_iff_getElem]
      intro i j hi hj hij d
      have := hsame d
      rw [hfilter, List.pairwise_filter, List.pairwise_iff_getElem] at this
      simpa using this i j hi hj hij
    refine hall.imp_of_mem fun {a b} ha hb hab => (happ ha hb).mpr ⟨fun hd => hab _ hd rfl, ?_, ?_⟩
    · intro hn hd
      rw [mem_windows] at ha hb
      exact hspill _ a (mem_windowsOf.mpr ⟨ha.1, ha.2, rfl⟩) hn b (mem_windowsOf.mpr ⟨hb.1, hb.2, hd⟩)
    · intro hn hd
      rw [mem_windows] at ha hb
      exact hspill _ b (mem_windowsOf.mpr ⟨hb.1, hb.2, rfl⟩) hn a (mem_windowsOf.mpr ⟨ha.1, ha.2, hd⟩)

/-! ### The reader -/

theorem toMinutes_wellFormed {r : OpeningHoursInput} (hw : r.WellFormed) (ho : r.isClosed = false) :
    toMinutes r.openTime = some r.openMins ∧ toMinutes r.closeTime = some r.closeMins := by
  obtain ⟨o, c, hoo, hcc, hro, hrc, -⟩ := hw.opened ho
  have hreg : ∀ s : String, HHMM_REGEX s = true →
      toMinutes (some s) = some (OpeningHours.toMinutes s) := by
    intro s hs
    rw [toMinutes, if_neg (regex_ne_endOfDay hs)]
    exact (toMinutes_regex hs).2.2
  simp only [OpeningHoursInput.openMins, OpeningHoursInput.closeMins, hoo, hcc, Option.map_some,
    Option.getD_some]
  refine ⟨hreg o hro, ?_⟩
  rcases hrc with rfl | hrc
  · rfl
  · exact hreg c hrc

theorem openToday_iff {r : OpeningHoursInput} (hw : r.WellFormed) (ho : r.isClosed = false) {m : ℤ}
    (hm : m < 1440) : openToday m r = true ↔ r.sameDay.Has m := by
  obtain ⟨h1, h2⟩ := toMinutes_wellFormed hw ho
  have hne := (hw.minutes ho).2.2.2.2
  simp only [openToday, h1, h2, OpeningHoursInput.sameDay, Stretch.Has, MINUTES_PER_DAY]
  split_ifs with hlt hgt
  · simp
  · simp [hm]
  · omega

theorem openFromYesterday_iff {r : OpeningHoursInput} (hw : r.WellFormed) (ho : r.isClosed = false)
    {m : ℤ} : openFromYesterday m r = true ↔ r.Overnight ∧ m < r.closeMins := by
  obtain ⟨h1, h2⟩ := toMinutes_wellFormed hw ho
  simp only [openFromYesterday, h1, h2, OpeningHoursInput.Overnight, decide_eq_true_eq]

/-- On well-formed rows the venue is open exactly in the windows' minutes of the week. -/
theorem isOpenNow_iff {hours : List OpeningHoursInput} (hw : ∀ r ∈ hours, r.WellFormed) (now : ℕ) :
    isOpenNow hours now = true ↔ ∃ r ∈ windows hours, minuteOfWeek now ∈ minutesOf r := by
  have hdow := dayOfWeek_bounds (Int.natCast_nonneg now)
  have hmin := minutes_bounds (Int.natCast_nonneg now)
  simp only [isOpenNow, Bool.or_eq_true, List.any_eq_true, decide_eq_true_eq, Bool.not_eq_true]
  constructor
  · rintro (⟨r, hr, hd, ho, hopen⟩ | ⟨r, hr, hd, ho, hopen⟩)
    · refine ⟨r, mem_windows.mpr ⟨hr, ho⟩, (minuteOfWeek_mem_iff (hw r hr) ho now).mpr (.inl ⟨hd, ?_⟩)⟩
      exact (openToday_iff (hw r hr) ho hmin.2).mp hopen
    · refine ⟨r, mem_windows.mpr ⟨hr, ho⟩, (minuteOfWeek_mem_iff (hw r hr) ho now).mpr (.inr ⟨?_, ?_⟩)⟩
      · omega
      · exact (openFromYesterday_iff (hw r hr) ho).mp hopen
  · rintro ⟨r, hr, hmem⟩
    obtain ⟨hr, ho⟩ := mem_windows.mp hr
    have hday := (hw r hr).day
    rcases (minuteOfWeek_mem_iff (hw r hr) ho now).mp hmem with ⟨hd, hhas⟩ | ⟨hd, hspill⟩
    · exact .inl ⟨r, hr, hd, ho, (openToday_iff (hw r hr) ho hmin.2).mpr hhas⟩
    · exact .inr ⟨r, hr, by omega, ho, (openFromYesterday_iff (hw r hr) ho).mpr hspill⟩

/-- CORRECT: the validator accepts exactly the lists of well-formed rows, no day both closed and open
    or closed twice, whose windows are disjoint arcs of the circular week; and an accepted branch is
    open at an instant exactly when that minute of the week lies in one of the arcs, and then in
    only one. -/
theorem opening_hours_correct (hours : List OpeningHoursInput) :
    (validateOpeningHours hours = .ok () ↔
      (∀ r ∈ hours, r.WellFormed) ∧
      (∀ a ∈ hours, ∀ b ∈ hours, a.isClosed = true → b.isClosed = false →
        a.dayOfWeek ≠ b.dayOfWeek) ∧
      (hours.Pairwise fun a b => a.isClosed = true → b.isClosed = true →
        a.dayOfWeek ≠ b.dayOfWeek) ∧
      (windows hours).Pairwise fun a b => Disjoint (minutesOf a) (minutesOf b)) ∧
    (validateOpeningHours hours = .ok () → ∀ now : ℕ,
      (isOpenNow hours now = true ↔ ∃ r ∈ windows hours, minuteOfWeek now ∈ minutesOf r) ∧
      ∀ (i j : Fin (windows hours).length), minuteOfWeek now ∈ minutesOf ((windows hours).get i) →
        minuteOfWeek now ∈ minutesOf ((windows hours).get j) → i = j) := by
  have hiff : validateOpeningHours hours = .ok () ↔ (∀ r ∈ hours, r.WellFormed) ∧
      (∀ a ∈ hours, ∀ b ∈ hours, a.isClosed = true → b.isClosed = false →
        a.dayOfWeek ≠ b.dayOfWeek) ∧
      (hours.Pairwise fun a b => a.isClosed = true → b.isClosed = true →
        a.dayOfWeek ≠ b.dayOfWeek) ∧
      (windows hours).Pairwise fun a b => Disjoint (minutesOf a) (minutesOf b) := by
    rw [validateOpeningHours_ok_iff]
    constructor
    · intro h
      exact ⟨h.rows, h.notMixed, h.oneClosed,
        (disjoint_windows_iff h.rows).mpr ⟨h.withinDay, h.acrossDays⟩⟩
    · rintro ⟨hw, hm, hone, hdis⟩
      obtain ⟨hin, hcross⟩ := (disjoint_windows_iff hw).mp hdis
      exact ⟨hw, hone, hm, hin, hcross⟩
  refine ⟨hiff, fun hok now => ?_⟩
  obtain ⟨hw, -, -, hdis⟩ := hiff.mp hok
  refine ⟨isOpenNow_iff hw now, fun i j hi hj => ?_⟩
  rw [List.pairwise_iff_get] at hdis
  rcases lt_trichotomy i j with hlt | heq | hgt
  · exact absurd hj (Set.disjoint_left.mp (hdis i j hlt) hi)
  · exact heq
  · exact absurd hi (Set.disjoint_left.mp (hdis j i hgt) hj)

/-- Friday 18:00 to 02:00, Saturday 02:00 to midnight, closed on Sunday. -/
def weekendHours : List OpeningHoursInput :=
  [⟨5, some "18:00", some "02:00", false⟩, ⟨6, some "02:00", some "24:00", false⟩,
    ⟨0, none, none, true⟩]

theorem opening_hours_correct_weekend : validateOpeningHours weekendHours = .ok () ∧
    (isOpenNow weekendHours (1775260800000 : ℕ) = true ↔
      ∃ r ∈ windows weekendHours, minuteOfWeek (1775260800000 : ℕ) ∈ minutesOf r) :=
  ⟨by decide, ((opening_hours_correct weekendHours).2 (by decide) 1775260800000).1⟩

end Redeemo.OpenStatus
