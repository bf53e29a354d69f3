import Redeemo.Lib.Listing
import Redeemo.Lib.Sorting
import Redeemo.MerchantWeb.OpenNow

/-! The customer app's text for a branch that is open, closes soon, or is closed.

    The server says whether the branch is open. The app looks for the window that is on, among today's windows and
    those that yesterday has left, and counts down to its close; or for the next window to open, among later today
    and the six days that follow. -/

namespace Redeemo.CustomerApp.SmartStatus
open WallTime London OpeningHours OpenStatus

structure LondonClock where
  /-- Sunday is 0. -/
  dow : ℤ
  minutes : ℤ
  deriving DecidableEq, Repr

/-- The app's own clock, of `londonNow.ts`. -/
def getLondonClock (now : ℤ) : LondonClock :=
  let parts := formatToParts now
  let hour := if parts.hour = 24 then 0 else parts.hour
  ⟨Dates.getUTCDay (Dates.dateUTC parts.year (parts.month - 1) parts.day), hour * 60 + parts.minute⟩

theorem getLondonClock_eq (now : ℤ) :
    getLondonClock now = ⟨(London.getLondonClock now).dayOfWeek, (London.getLondonClock now).minutes⟩ := rfl

def formatAmPm (time : String) : String :=
  if time = "24:00" then "midnight"
  else
    let parts := splitColon time.toList
    let h := (parseInt (parts.headD ['0'])).getD 0
    let m := String.ofList (parts[1]?.getD ['0', '0'])
    let period := if 12 ≤ h then "pm" else "am"
    let h := if h = 0 then 12 else if 12 < h then h - 12 else h
    s!"{h}:{m}{period}"

/-- As the validator reads a time. -/
def parseHM (time : String) : ℤ := OpeningHours.toMinutes time

structure WindowRow where
  openTime : String
  closeTime : String
  deriving DecidableEq, Repr

/-- What a row has for a day. -/
def windowRow (dow : ℤ) (h : OpeningHoursInput) : Option WindowRow :=
  if h.dayOfWeek ≠ dow ∨ h.isClosed = true then none
  else match h.openTime, h.closeTime with
    | some openTime, some closeTime =>
      if parseHM openTime = parseHM closeTime then none else some ⟨openTime, closeTime⟩
    | _, _ => none

def byOpen (a b : WindowRow) : Ordering := compare (parseHM a.openTime) (parseHM b.openTime)

def dayWindows (hours : List OpeningHoursInput) (dow : ℤ) : List WindowRow :=
  (hours.filterMap (windowRow dow)).mergeSort fun a b => byOpen a b ≠ .gt

structure ActiveClose where
  closeTime : String
  minsUntilClose : ℤ
  deriving DecidableEq, Repr

/-- The close of one of today's windows, while it is on. -/
def closeOfToday (nowMinutes : ℤ) (w : WindowRow) : Option ActiveClose :=
  let opens := parseHM w.openTime
  let closes := parseHM w.closeTime
  if opens < closes then
    if opens ≤ nowMinutes ∧ nowMinutes < closes then some ⟨w.closeTime, closes - nowMinutes⟩ else none
  else if closes < opens then
    if opens ≤ nowMinutes then some ⟨w.closeTime, MINUTES_PER_DAY - nowMinutes + closes⟩ else none
  else none

/-- The close of one of yesterday's windows that has run past midnight. -/
def closeOfYesterday (nowMinutes : ℤ) (w : WindowRow) : Option ActiveClose :=
  let opens := parseHM w.openTime
  let closes := parseHM w.closeTime
  if closes < opens ∧ nowMinutes < closes then some ⟨w.closeTime, closes - nowMinutes⟩ else none

def activeWindowClose (hours : List OpeningHoursInput) (today nowMinutes : ℤ) : Option ActiveClose :=
  let yesterday := (today + 6) % 7
  ((dayWindows hours today).findSome? (closeOfToday nowMinutes)).or
    ((dayWindows hours yesterday).findSome? (closeOfYesterday nowMinutes))

structure NextOpen where
  dayOffset : ℕ
  openTime : String
  deriving DecidableEq, Repr

/-- The first window to open on the day `offset` days on. -/
def openOfDay (hours : List OpeningHoursInput) (today nowMinutes : ℤ) (offset : ℕ) : Option NextOpen :=
  let windows := dayWindows hours ((today + offset) % 7)
  if offset = 0 then (windows.find? fun w => nowMinutes < parseHM w.openTime).map fun w => ⟨0, w.openTime⟩
  else windows.head?.map fun w => ⟨offset, w.openTime⟩

def findNextOpen (hours : List OpeningHoursInput) (today nowMinutes : ℤ) : Option NextOpen :=
  (List.range 7).findSome? (openOfDay hours today nowMinutes)

inductive PillState
  | opened | closingSoon | closed
  deriving DecidableEq, Repr

inductive PillLabel
  | Open | ClosingSoon | Closed
  deriving DecidableEq, Repr

structure Status where
  pillState : PillState
  pillLabel : PillLabel
  statusText : String
  deriving DecidableEq, Repr

def smartStatus (isOpenNow : Bool) (hours : List OpeningHoursInput) (now : ℤ) : Status :=
  let clock := getLondonClock now
  if isOpenNow = true then
    match activeWindowClose hours clock.dow clock.minutes with
    | none => ⟨.opened, .Open, "Hours unavailable"⟩
    | some active =>
      if active.minsUntilClose ≤ 60 ∧ 0 < active.minsUntilClose then
        ⟨.closingSoon, .ClosingSoon, s!"Closes in {active.minsUntilClose} min"⟩
      else ⟨.opened, .Open, s!"Closes at {formatAmPm active.closeTime}"⟩
  else
    match findNextOpen hours clock.dow clock.minutes with
    | none => ⟨.closed, .Closed, "Hours unavailable"⟩
    | some next =>
      if next.dayOffset = 0 then ⟨.closed, .Closed, s!"Opens at {formatAmPm next.openTime}"⟩
      else if next.dayOffset = 1 then ⟨.closed, .Closed, s!"Opens tomorrow at {formatAmPm next.openTime}"⟩
      else ⟨.closed, .Closed, s!"Opens at {formatAmPm next.openTime}"⟩

/-! ### The windows of a day -/

/-- The row's window as the app holds it. -/
def Shows (r : OpeningHoursInput) (w : WindowRow) : Prop :=
  r.openTime = some w.openTime ∧ r.closeTime = some w.closeTime

section
variable {r : OpeningHoursInput} {w : WindowRow} {hours : List OpeningHoursInput} {dow m : ℤ}

theorem Shows.openMins (h : Shows r w) : parseHM w.openTime = r.openMins := by
  rw [OpeningHoursInput.openMins, h.1]
  rfl

theorem Shows.closeMins (h : Shows r w) : parseHM w.closeTime = r.closeMins := by
  rw [OpeningHoursInput.closeMins, h.2]
  rfl

theorem windowRow_eq_some (hw : r.WellFormed) :
    windowRow dow r = some w ↔ r.dayOfWeek = dow ∧ r.isClosed = false ∧ Shows r w := by
  constructor
  · intro h
    unfold windowRow at h
    split at h
    · cases h
    · rename_i hday
      obtain ⟨hd, hc⟩ := not_or.mp hday
      split at h
      · rename_i o c ho hcl
        split at h
        · cases h
        · cases h
          exact ⟨not_not.mp hd, Bool.eq_false_of_not_eq_true hc, ho, hcl⟩
      · cases h
  · rintro ⟨hd, hc, hshows⟩
    have hne := (hw.minutes hc).2.2.2.2
    rw [← hshows.openMins, ← hshows.closeMins] at hne
    rw [windowRow, if_neg (by simp [hd, hc]), hshows.1, hshows.2]
    exact if_neg hne

theorem mem_dayWindows (hw : ∀ r ∈ hours, r.WellFormed) :
    w ∈ dayWindows hours dow ↔ ∃ r ∈ windows hours, r.dayOfWeek = dow ∧ Shows r w := by
  rw [dayWindows, List.mem_mergeSort, List.mem_filterMap]
  constructor
  · rintro ⟨r, hr, h⟩
    obtain ⟨hd, hc, hshows⟩ := (windowRow_eq_some (hw r hr)).mp h
    exact ⟨r, mem_windows.mpr ⟨hr, hc⟩, hd, hshows⟩
  · rintro ⟨r, hr, hd, hshows⟩
    obtain ⟨hr, hc⟩ := mem_windows.mp hr
    exact ⟨r, hr, (windowRow_eq_some (hw r hr)).mpr ⟨hd, hc, hshows⟩⟩

theorem exists_shows (hw : r.WellFormed) (ho : r.isClosed = false) : ∃ w, Shows r w := by
  obtain ⟨o, c, hoo, hcc, -⟩ := hw.opened ho
  exact ⟨⟨o, c⟩, hoo, hcc⟩

instance transCmp_byOpen : Std.TransCmp byOpen :=
  Sorting.transCmp_on (fun a b : ℤ => compare a b) fun w : WindowRow => parseHM w.openTime

theorem sorted_dayWindows (hours : List OpeningHoursInput) (dow : ℤ) :
    (dayWindows hours dow).Pairwise fun a b => parseHM a.openTime ≤ parseHM b.openTime :=
  (Sorting.pairwise_mergeSort byOpen _).imp fun h => compare_le_iff_le.mp h

end

/-! ### The window that is on -/

/-- A row's window is on at `t`, and ends `k` minutes later on the clock. -/
structure EndsAfter (r : OpeningHoursInput) (t k : ℤ) : Prop where
  pos : 0 < k
  on : ∀ j, 0 ≤ j → j < k → (t + j) % minutesPerWeek ∈ minutesOf r
  ends : (t + k) % minutesPerWeek = ((arc r).start + (arc r).len) % minutesPerWeek

section
variable {r : OpeningHoursInput} {w : WindowRow} {hours : List OpeningHoursInput} {dow m : ℤ} {a : ActiveClose}

theorem closeOfToday_eq_some (hs : Shows r w) (hm : m < 1440) (hne : r.openMins ≠ r.closeMins) :
    closeOfToday m w = some a ↔ r.sameDay.Has m ∧ a = ⟨w.closeTime,
      if r.openMins < r.closeMins then r.closeMins - m else 1440 - m + r.closeMins⟩ := by
  simp only [closeOfToday, hs.openMins, hs.closeMins, OpeningHoursInput.sameDay, Intervals.Stretch.Has, MINUTES_PER_DAY]
  split_ifs with hlt hin hgt hin
  · simp [hin, eq_comm]
  · simp [hin]
  · simp [hin, hm, eq_comm]
  · simp [hin]
  · omega

theorem closeOfYesterday_eq_some (hs : Shows r w) : closeOfYesterday m w = some a ↔
    (r.Overnight ∧ m < r.closeMins) ∧ a = ⟨w.closeTime, r.closeMins - m⟩ := by
  simp only [closeOfYesterday, hs.openMins, hs.closeMins, OpeningHoursInput.Overnight]
  split_ifs with h
  · simp [h, eq_comm]
  · simp [h]

/-- A window that holds the minute on its own day. -/
theorem endsAfter_today (hw : r.WellFormed) (ho : r.isClosed = false) (h : r.sameDay.Has m) :
    EndsAfter r (1440 * r.dayOfWeek + m)
      (if r.openMins < r.closeMins then r.closeMins - m else 1440 - m + r.closeMins) := by
  obtain ⟨h0, h1, h2, h3, hne⟩ := hw.minutes ho
  obtain ⟨hlo, hhi⟩ := h
  simp only [OpeningHoursInput.sameDay, MINUTES_PER_DAY] at hlo hhi
  constructor
  · split_ifs at hhi ⊢ <;> omega
  · intro j hj0 hj1
    simp only [minutesOf, Intervals.Arc.points, Set.mem_ofPred_eq, arc, minutesPerWeek]
    refine ⟨by omega, by omega, ?_⟩
    split_ifs at hhi hj1 ⊢ <;> omega
  · simp only [arc, minutesPerWeek]
    split_ifs at hhi ⊢ <;> omega

/-- A window that has run past midnight. -/
theorem endsAfter_yesterday (hw : r.WellFormed) (ho : r.isClosed = false) (hn : r.Overnight) (hm : 0 ≤ m)
    (h : m < r.closeMins) : EndsAfter r (1440 * ((r.dayOfWeek + 1) % 7) + m) (r.closeMins - m) := by
  obtain ⟨h0, h1, h2, h3, hne⟩ := hw.minutes ho
  have hd := hw.day
  have hlt : ¬ r.openMins < r.closeMins := not_lt.mpr hn.le
  constructor
  · omega
  · intro j hj0 hj1
    simp only [minutesOf, Intervals.Arc.points, Set.mem_ofPred_eq, arc, minutesPerWeek, if_neg hlt]
    omega
  · simp only [arc, minutesPerWeek, if_neg hlt]
    omega

/-- What the app finds is a window that is on, and how long it stays so. -/
theorem activeWindowClose_some (hw : ∀ r ∈ hours, r.WellFormed) (hd : 0 ≤ dow ∧ dow < 7) (hm : 0 ≤ m ∧ m < 1440)
    (h : activeWindowClose hours dow m = some a) :
    ∃ r ∈ windows hours, r.closeTime = some a.closeTime ∧ EndsAfter r (1440 * dow + m) a.minsUntilClose := by
  rcases Option.or_eq_some_iff.mp h with h | ⟨-, h⟩
  · obtain ⟨w, hmem, hclose⟩ := List.exists_of_findSome?_eq_some h
    obtain ⟨r, hr, rfl, hs⟩ := (mem_dayWindows hw).mp hmem
    obtain ⟨hrm, ho⟩ := mem_windows.mp hr
    obtain ⟨hhas, rfl⟩ := (closeOfToday_eq_some hs hm.2 ((hw r hrm).minutes ho).2.2.2.2).mp hclose
    exact ⟨r, hr, hs.2, endsAfter_today (hw r hrm) ho hhas⟩
  · obtain ⟨w, hmem, hclose⟩ := List.exists_of_findSome?_eq_some h
    obtain ⟨r, hr, hday, hs⟩ := (mem_dayWindows hw).mp hmem
    obtain ⟨hrm, ho⟩ := mem_windows.mp hr
    obtain ⟨⟨hn, hlt⟩, rfl⟩ := (closeOfYesterday_eq_some hs).mp hclose
    have hend := endsAfter_yesterday (hw r hrm) ho hn hm.1 hlt
    rw [show (r.dayOfWeek + 1) % 7 = dow by omega] at hend
    exact ⟨r, hr, hs.2, hend⟩

theorem activeWindowClose_none_iff (hw : ∀ r ∈ hours, r.WellFormed) (hd : 0 ≤ dow ∧ dow < 7) (hm : 0 ≤ m ∧ m < 1440) :
    activeWindowClose hours dow m = none ↔ ∀ r ∈ windows hours, 1440 * dow + m ∉ minutesOf r := by
  constructor
  · intro h r hr hin
    obtain ⟨htoday, hyesterday⟩ := Option.or_eq_none_iff.mp h
    obtain ⟨hrm, ho⟩ := mem_windows.mp hr
    obtain ⟨w, hs⟩ := exists_shows (hw r hrm) ho
    have hday := (hw r hrm).day
    rcases (mem_minutesOf_iff (hw r hrm) ho hd.1 hd.2 hm.1 hm.2).mp hin with ⟨rfl, hhas⟩ | ⟨hnext, hspill⟩
    · have hnone := List.findSome?_eq_none_iff.mp htoday w ((mem_dayWindows hw).mpr ⟨r, hr, rfl, hs⟩)
      rw [(closeOfToday_eq_some hs hm.2 ((hw r hrm).minutes ho).2.2.2.2).mpr ⟨hhas, rfl⟩] at hnone
      cases hnone
    · have hnone := List.findSome?_eq_none_iff.mp hyesterday w ((mem_dayWindows hw).mpr ⟨r, hr, by omega, hs⟩)
      rw [(closeOfYesterday_eq_some hs).mpr ⟨hspill, rfl⟩] at hnone
      cases hnone
  · intro h
    by_contra hsome
    obtain ⟨a, ha⟩ := Option.ne_none_iff_exists'.mp hsome
    obtain ⟨r, hr, -, hend⟩ := activeWindowClose_some hw hd hm ha
    refine h r hr ?_
    have hon := hend.on 0 le_rfl hend.pos
    rwa [add_zero, Int.emod_eq_of_lt (by omega) (by unfold minutesPerWeek; omega)] at hon

end

/-! ### The window to open next -/

/-- Minutes from a minute of the week to the row's next opening after it. -/
def minsUntilOpen (r : OpeningHoursInput) (t : ℤ) : ℤ := ((arc r).start - t - 1) % minutesPerWeek + 1

/-- The first opening after a minute of the week, so many days and then so many minutes on. -/
def FirstOpening (hours : List OpeningHoursInput) (dow m : ℤ) (next : NextOpen) : Prop :=
  ∃ r ∈ windows hours, r.openTime = some next.openTime ∧
    minsUntilOpen r (1440 * dow + m) = 1440 * next.dayOffset + r.openMins - m ∧
    ∀ w ∈ windows hours, minsUntilOpen r (1440 * dow + m) ≤ minsUntilOpen w (1440 * dow + m)

/-- The row has an opening on the day `k` days on, after the minute. -/
def OpensOn (dow m : ℤ) (k : ℕ) (r : OpeningHoursInput) : Prop :=
  r.dayOfWeek = (dow + k) % 7 ∧ (k ≠ 0 ∨ m < r.openMins)

section
variable {r : OpeningHoursInput} {hours : List OpeningHoursInput} {dow m : ℤ} {k : ℕ} {next : NextOpen}

theorem minsUntilOpen_of_opensOn (hw : r.WellFormed) (ho : r.isClosed = false) (hm : 0 ≤ m ∧ m < 1440)
    (hk : k < 7) (h : OpensOn dow m k r) : minsUntilOpen r (1440 * dow + m) = 1440 * k + r.openMins - m := by
  obtain ⟨h0, h1, -⟩ := hw.minutes ho
  obtain ⟨hday, hlate⟩ := h
  simp only [minsUntilOpen, arc, minutesPerWeek]
  omega

/-- A row that has opened today opens again in a week. -/
theorem minsUntilOpen_of_begun (hw : r.WellFormed) (ho : r.isClosed = false) (hm : 0 ≤ m ∧ m < 1440)
    (hday : r.dayOfWeek = dow) (h : r.openMins ≤ m) :
    minsUntilOpen r (1440 * dow + m) = 10080 + r.openMins - m := by
  obtain ⟨h0, h1, -⟩ := hw.minutes ho
  simp only [minsUntilOpen, arc, minutesPerWeek]
  omega

theorem opensOn_or_begun (hw : r.WellFormed) (hd : 0 ≤ dow ∧ dow < 7) :
    (∃ k < 7, OpensOn dow m k r) ∨ r.dayOfWeek = dow ∧ r.openMins ≤ m := by
  have hday := hw.day
  by_cases h : r.dayOfWeek = dow ∧ r.openMins ≤ m
  · exact .inr h
  · exact .inl ⟨((r.dayOfWeek - dow) % 7).toNat, by omega, by omega, by omega⟩

theorem openOfDay_eq : openOfDay hours dow m k = ((dayWindows hours ((dow + k) % 7)).filter
    fun w => k ≠ 0 ∨ m < parseHM w.openTime).head?.map fun w => ⟨k, w.openTime⟩ := by
  unfold openOfDay
  split_ifs with h
  · subst h
    simp [List.head?_filter]
  · simp [h]

theorem openOfDay_none (hw : ∀ r ∈ hours, r.WellFormed) (h : openOfDay hours dow m k = none) :
    ∀ r ∈ windows hours, ¬ OpensOn dow m k r := by
  rw [openOfDay_eq, Option.map_eq_none_iff, List.head?_eq_none_iff, List.filter_eq_nil_iff] at h
  intro r hr ⟨hday, hlate⟩
  obtain ⟨hrm, ho⟩ := mem_windows.mp hr
  obtain ⟨w, hs⟩ := exists_shows (hw r hrm) ho
  refine h w ((mem_dayWindows hw).mpr ⟨r, hr, hday, hs⟩) (decide_eq_true ?_)
  rwa [hs.openMins]

theorem openOfDay_some (hw : ∀ r ∈ hours, r.WellFormed) (h : openOfDay hours dow m k = some next) :
    next.dayOffset = k ∧ ∃ r ∈ windows hours, OpensOn dow m k r ∧ r.openTime = some next.openTime ∧
      ∀ r' ∈ windows hours, OpensOn dow m k r' → r.openMins ≤ r'.openMins := by
  rw [openOfDay_eq, Option.map_eq_some_iff] at h
  obtain ⟨w, hhead, rfl⟩ := h
  obtain ⟨rest, heq⟩ := List.head?_eq_some_iff.mp hhead
  have hin : w ∈ (dayWindows hours ((dow + k) % 7)).filter fun w => k ≠ 0 ∨ m < parseHM w.openTime := by
    rw [heq]
    exact List.mem_cons_self
  obtain ⟨hmem, hlate⟩ := List.mem_filter.mp hin
  obtain ⟨r, hr, hday, hs⟩ := (mem_dayWindows hw).mp hmem
  have hlate := of_decide_eq_true hlate
  rw [hs.openMins] at hlate
  refine ⟨rfl, r, hr, ⟨hday, hlate⟩, hs.1, fun r' hr' ⟨hday', hlate'⟩ => ?_⟩
  obtain ⟨hrm', ho'⟩ := mem_windows.mp hr'
  obtain ⟨w', hs'⟩ := exists_shows (hw r' hrm') ho'
  have hin' : w' ∈ (dayWindows hours ((dow + k) % 7)).filter fun w => k ≠ 0 ∨ m < parseHM w.openTime := by
    refine List.mem_filter.mpr ⟨(mem_dayWindows hw).mpr ⟨r', hr', hday', hs'⟩, decide_eq_true ?_⟩
    rwa [hs'.openMins]
  have hsorted := (sorted_dayWindows hours ((dow + k) % 7)).filter fun w => decide (k ≠ 0 ∨ m < parseHM w.openTime)
  rw [heq] at hin' hsorted
  rw [← hs.openMins, ← hs'.openMins]
  rcases List.mem_cons.mp hin' with rfl | hin'
  · exact le_rfl
  · exact (List.pairwise_cons.mp hsorted).1 w' hin'

theorem findNextOpen_none_iff (hw : ∀ r ∈ hours, r.WellFormed) (hd : 0 ≤ dow ∧ dow < 7) :
    findNextOpen hours dow m = none ↔ ∀ r ∈ windows hours, r.dayOfWeek = dow ∧ r.openMins ≤ m := by
  rw [findNextOpen, List.findSome?_eq_none_iff]
  constructor
  · intro h r hr
    rcases opensOn_or_begun (m := m) (hw r (mem_windows.mp hr).1) hd with ⟨k, hk, hopens⟩ | hbegun
    · exact absurd hopens (openOfDay_none hw (h k (List.mem_range.mpr hk)) r hr)
    · exact hbegun
  · intro h k hk
    by_contra hsome
    obtain ⟨next, hnext⟩ := Option.ne_none_iff_exists'.mp hsome
    obtain ⟨-, r, hr, ⟨hday, hlate⟩, -⟩ := openOfDay_some hw hnext
    have hk := List.mem_range.mp hk
    have := h r hr
    omega

/-- What the app finds is the first opening after the minute. -/
theorem findNextOpen_some (hw : ∀ r ∈ hours, r.WellFormed) (hd : 0 ≤ dow ∧ dow < 7) (hm : 0 ≤ m ∧ m < 1440)
    (h : findNextOpen hours dow m = some next) : FirstOpening hours dow m next := by
  obtain ⟨k, hk, hfound, hnone⟩ := Listing.exists_of_findSome?_range h
  obtain ⟨rfl, r, hr, hopens, htext, hfirst⟩ := openOfDay_some hw hfound
  obtain ⟨hrm, ho⟩ := mem_windows.mp hr
  have hmins := minsUntilOpen_of_opensOn (hw r hrm) ho hm hk hopens
  refine ⟨r, hr, htext, hmins, fun w hwin => ?_⟩
  obtain ⟨hwm, hwo⟩ := mem_windows.mp hwin
  obtain ⟨-, hr1, -⟩ := (hw r hrm).minutes ho
  obtain ⟨hw0, -⟩ := (hw w hwm).minutes hwo
  rcases opensOn_or_begun (m := m) (hw w hwm) hd with ⟨j, hj, hlater⟩ | ⟨hday, hbegun⟩
  · rw [hmins, minsUntilOpen_of_opensOn (hw w hwm) hwo hm hj hlater]
    rcases lt_trichotomy j next.dayOffset with hlt | heq | hgt
    · exact absurd hlater (openOfDay_none hw (hnone j hlt) w hwin)
    · have := hfirst w hwin (heq ▸ hlater)
      omega
    · omega
  · rw [hmins, minsUntilOpen_of_begun (hw w hwm) hwo hm hday hbegun]
    omega

end

/-! ### The texts -/

/-- What portal, server and app say of a branch at an instant agrees with its hours. -/
structure TellsTruth (hours : List OpeningHoursInput) (now : ℤ) : Prop where
  portal : MerchantWeb.OpenNow.openNow hours now = isOpenNow hours now
  active : activeWindowClose hours (getLondonClock now).dow (getLondonClock now).minutes ≠ none ↔
    isOpenNow hours now = true
  closes : ∀ a, activeWindowClose hours (getLondonClock now).dow (getLondonClock now).minutes = some a →
    ∃ r ∈ windows hours, r.closeTime = some a.closeTime ∧ EndsAfter r (minuteOfWeek now) a.minsUntilClose
  opens : isOpenNow hours now = false → windows hours ≠ [] →
    ∃ next, findNextOpen hours (getLondonClock now).dow (getLondonClock now).minutes = some next ∧
      FirstOpening hours (getLondonClock now).dow (getLondonClock now).minutes next

section
variable {hours : List OpeningHoursInput} {now : ℕ}

theorem clock_bounds (now : ℕ) : (0 ≤ (getLondonClock now).dow ∧ (getLondonClock now).dow < 7) ∧
    0 ≤ (getLondonClock now).minutes ∧ (getLondonClock now).minutes < 1440 :=
  ⟨dayOfWeek_bounds (Int.natCast_nonneg now), minutes_bounds (Int.natCast_nonneg now)⟩

theorem isOpenNow_false_iff (hw : ∀ r ∈ hours, r.WellFormed) :
    isOpenNow hours now = false ↔ ∀ r ∈ windows hours, minuteOfWeek now ∉ minutesOf r := by
  rw [← Bool.not_eq_true, isOpenNow_iff hw]
  push Not
  rfl

/-- The app misses the next opening when the windows are today's and all have begun: the next is a week on. -/
theorem tellsTruth_iff (hours : List OpeningHoursInput) (now : ℕ) (hok : validateOpeningHours hours = .ok ()) :
    TellsTruth hours now ↔ windows hours = [] ∨ (∃ r ∈ windows hours, minuteOfWeek now ∈ minutesOf r) ∨
      ∃ r ∈ windows hours, r.dayOfWeek ≠ (getLondonClock now).dow ∨ (getLondonClock now).minutes < r.openMins := by
  have hw := ((validateOpeningHours_ok_iff hours).mp hok).rows
  obtain ⟨hd, hm⟩ := clock_bounds now
  constructor
  · intro h
    by_cases hopen : isOpenNow hours now = true
    · exact .inr (.inl ((isOpenNow_iff hw now).mp hopen))
    · by_cases hempty : windows hours = []
      · exact .inl hempty
      · obtain ⟨next, hnext, -⟩ := h.opens (Bool.eq_false_of_not_eq_true hopen) hempty
        refine .inr (.inr ?_)
        by_contra! hbegun
        rw [(findNextOpen_none_iff hw hd).mpr hbegun] at hnext
        cases hnext
  · intro h
    refine ⟨MerchantWeb.OpenNow.openNow_eq hours (Int.natCast_nonneg now), ?_, fun a ha => ?_, fun hclosed hsome => ?_⟩
    · rw [Ne, activeWindowClose_none_iff hw hd hm, isOpenNow_iff hw]
      push Not
      rfl
    · exact activeWindowClose_some hw hd hm ha
    · obtain ⟨next, hnext⟩ : ∃ next, findNextOpen hours (getLondonClock now).dow (getLondonClock now).minutes =
          some next := by
        refine Option.ne_none_iff_exists'.mp fun hnone => ?_
        have hbegun := (findNextOpen_none_iff hw hd).mp hnone
        rcases h with hempty | ⟨r, hr, hin⟩ | ⟨r, hr, hlate⟩
        · exact hsome hempty
        · exact (isOpenNow_false_iff hw).mp hclosed r hr hin
        · have := hbegun r hr
          omega
      exact ⟨next, hnext, findNextOpen_some hw hd hm hnext⟩

theorem EndsAfter.mem {r : OpeningHoursInput} {t k : ℤ} (h : EndsAfter r t k) (h0 : 0 ≤ t) (h1 : t < minutesPerWeek) :
    t ∈ minutesOf r := by
  have hon := h.on 0 le_rfl h.pos
  rwa [add_zero, Int.emod_eq_of_lt h0 h1] at hon

/-- A window has one end. -/
theorem EndsAfter.not_lt {r : OpeningHoursInput} {t k k' : ℤ} (hw : r.WellFormed) (ho : r.isClosed = false)
    (h : EndsAfter r t k) (h' : EndsAfter r t k') : ¬ k < k' := by
  intro hlt
  obtain ⟨h0, h1, h2, h3, hne⟩ := hw.minutes ho
  have hin := h'.on k h.pos.le hlt
  rw [h.ends] at hin
  obtain ⟨-, -, hin⟩ := hin
  simp only [arc, minutesPerWeek] at hin
  split_ifs at hin <;> omega

theorem window_unique (h : ValidHours hours) {r r' : OpeningHoursInput} {t : ℤ} (hr : r ∈ windows hours)
    (hr' : r' ∈ windows hours) (ht : t ∈ minutesOf r) (ht' : t ∈ minutesOf r') : r = r' := by
  by_contra hne
  have hdis := (disjoint_windows_iff h.rows).mpr ⟨h.withinDay, h.acrossDays⟩
  have hsymm : Std.Symm fun a b => Disjoint (minutesOf a) (minutesOf b) := ⟨fun _ _ h => h.symm⟩
  exact Set.disjoint_left.mp (hdis.forall hr hr' hne) ht ht'

end

/-! ### Open on Mondays only -/

def mondays : List OpeningHoursInput := [⟨1, some "09:00", some "17:00", false⟩]

/-- On a Monday at 18:00. -/
theorem monday_evening : ¬ ∀ (hours : List OpeningHoursInput) (now : ℕ), validateOpeningHours hours = .ok () →
    TellsTruth hours now := by
  intro h
  obtain ⟨next, hnext, -⟩ := (h mondays 1767636000000 (by decide)).opens (by decide +kernel) (by decide)
  have hnone : findNextOpen mondays (getLondonClock (1767636000000 : ℕ)).dow
    (getLondonClock (1767636000000 : ℕ)).minutes = none := by decide +kernel
  rw [hnone] at hnext
  cases hnext

/-- On a Monday at noon. -/
theorem tellsTruth_iff_monday : validateOpeningHours mondays = .ok () ∧ (TellsTruth mondays (1767614400000 : ℕ) ↔
    windows mondays = [] ∨ (∃ r ∈ windows mondays, minuteOfWeek (1767614400000 : ℕ) ∈ minutesOf r) ∨
      ∃ r ∈ windows mondays, r.dayOfWeek ≠ (getLondonClock (1767614400000 : ℕ)).dow ∨
        (getLondonClock (1767614400000 : ℕ)).minutes < r.openMins) :=
  ⟨by decide, tellsTruth_iff mondays 1767614400000 (by decide)⟩

end Redeemo.CustomerApp.SmartStatus
