import Mathlib.Data.List.Sort
import Redeemo.Lib.Fallible
import Redeemo.Shared.LondonClock
import Redeemo.Shared.WallTime

/-! Availability windows of TIME_LIMITED vouchers, and the occurrence open at an instant.

    An occurrence is a window on a London calendar date. Its two ends are computed by
    `londonDateAtMinute` with the offset of that date's midnight, so on a day the clocks change they
    can be an hour away from the occurrence itself; what names the occurrence is the date and the
    window (`Occurrence.Holds`). -/

namespace Redeemo.VoucherAvailability
open Fallible WallTime London

structure AvailabilityWindow where
  /-- Sunday is 0. -/
  dayOfWeek : ℤ
  openTime : String
  closeTime : String
  deriving DecidableEq, Repr

structure WindowOccurrence where
  startsAt : ℤ
  endsAt : ℤ
  deriving DecidableEq, Repr

/-- Throws a plain `Error` with its message. -/
def parseTimeString (s : String) : Except String ℤ :=
  if s = "24:00" then .ok 1440
  else if ¬ HHMM_REGEX s then .error s!"parseTimeString: invalid time format \"{s}\""
  else .ok ((hhmm parseInt s).getD 0)

/-- Opening and closing minute of a window. -/
def windowMinutes (w : AvailabilityWindow) : Except String (ℤ × ℤ) := do
  let openMin ← parseTimeString w.openTime
  let closeMin ← parseTimeString w.closeTime
  return (openMin, closeMin)

/-- The first of the day's windows that holds the minute. -/
def firstOpen (dayOfWeek minutes : ℤ) : List AvailabilityWindow → Except String (Option (ℤ × ℤ))
  | [] => .ok none
  | w :: windows =>
    if w.dayOfWeek ≠ dayOfWeek then firstOpen dayOfWeek minutes windows
    else windowMinutes w >>= fun m =>
      if m.1 ≤ minutes ∧ minutes < m.2 then .ok (some m) else firstOpen dayOfWeek minutes windows

def getCurrentWindowOccurrence (windows : List AvailabilityWindow) (now : ℤ) :
    Except String (Option WindowOccurrence) := do
  let clock := getLondonClock now
  let found ← firstOpen clock.dayOfWeek clock.minutes windows
  return found.map fun m => ⟨londonDateAtMinute now 0 m.1, londonDateAtMinute now 0 m.2⟩

structure Candidate where
  dayOffset : ℤ
  openMin : ℤ
  closeMin : ℤ
  deriving DecidableEq, Repr

/-- The windows that open on the day `offset` days ahead; today only those still to open. -/
def candidatesOn (nowDay nowMin offset : ℤ) : List AvailabilityWindow → Except String (List Candidate)
  | [] => .ok []
  | w :: windows =>
    if w.dayOfWeek ≠ (nowDay + offset) % 7 then candidatesOn nowDay nowMin offset windows
    else do
      let m ← windowMinutes w
      let rest ← candidatesOn nowDay nowMin offset windows
      return if offset = 0 ∧ m.1 ≤ nowMin then rest else ⟨offset, m.1, m.2⟩ :: rest

def candidates (nowDay nowMin : ℤ) (windows : List AvailabilityWindow) :
    List ℤ → Except String (List Candidate)
  | [] => .ok []
  | offset :: offsets => do
    let here ← candidatesOn nowDay nowMin offset windows
    let rest ← candidates nowDay nowMin windows offsets
    return here ++ rest

def getNextWindowOccurrence (windows : List AvailabilityWindow) (now : ℤ) :
    Except String (Option WindowOccurrence) := do
  let clock := getLondonClock now
  let found ← candidates clock.dayOfWeek clock.minutes windows [0, 1, 2, 3, 4, 5, 6, 7]
  let sorted := found.insertionSort fun a b =>
    a.dayOffset < b.dayOffset ∨ (a.dayOffset = b.dayOffset ∧ a.openMin ≤ b.openMin)
  return sorted.head?.map fun c =>
    ⟨londonDateAtMinute now c.dayOffset c.openMin, londonDateAtMinute now c.dayOffset c.closeMin⟩

/-- The windows that closed on the day `offset` days ago; today only those closed by now. -/
def closedOn (nowDay nowMin offset : ℤ) : List AvailabilityWindow → Except String (List Candidate)
  | [] => .ok []
  | w :: windows =>
    if w.dayOfWeek ≠ (nowDay - offset + 7) % 7 then closedOn nowDay nowMin offset windows
    else do
      let m ← windowMinutes w
      let rest ← closedOn nowDay nowMin offset windows
      return if offset = 0 ∧ nowMin < m.2 then rest else ⟨offset, m.1, m.2⟩ :: rest

def closed (nowDay nowMin : ℤ) (windows : List AvailabilityWindow) : List ℤ → Except String (List Candidate)
  | [] => .ok []
  | offset :: offsets => do
    let here ← closedOn nowDay nowMin offset windows
    let rest ← closed nowDay nowMin windows offsets
    return here ++ rest

def getMostRecentlyClosedWindowOccurrence (windows : List AvailabilityWindow) (now : ℤ) :
    Except String (Option WindowOccurrence) := do
  let clock := getLondonClock now
  let found ← closed clock.dayOfWeek clock.minutes windows [0, 1, 2, 3, 4, 5, 6, 7]
  let sorted := found.insertionSort fun a b =>
    a.dayOffset < b.dayOffset ∨ (a.dayOffset = b.dayOffset ∧ b.closeMin ≤ a.closeMin)
  return sorted.head?.map fun c =>
    ⟨londonDateAtMinute now (-c.dayOffset) c.openMin, londonDateAtMinute now (-c.dayOffset) c.closeMin⟩

/-! ### Windows with readable times -/

/-- Both times parse. -/
structure AvailabilityWindow.Readable (w : AvailabilityWindow) : Prop where
  opened : HHMM_REGEX w.openTime = true
  closed : HHMM_REGEX w.closeTime = true ∨ w.closeTime = "24:00"

namespace AvailabilityWindow

def openMin (w : AvailabilityWindow) : ℤ := (parseTimeString w.openTime).toOption.getD 0
def closeMin (w : AvailabilityWindow) : ℤ := (parseTimeString w.closeTime).toOption.getD 0

/-- The window is open on that day of the week at that minute. -/
def OpenAt (w : AvailabilityWindow) (dayOfWeek minutes : ℤ) : Prop :=
  w.dayOfWeek = dayOfWeek ∧ w.openMin ≤ minutes ∧ minutes < w.closeMin

instance (w : AvailabilityWindow) (dayOfWeek minutes : ℤ) : Decidable (w.OpenAt dayOfWeek minutes) :=
  inferInstanceAs (Decidable (_ ∧ _))

end AvailabilityWindow

theorem parseTimeString_regex {s : String} (h : HHMM_REGEX s = true) :
    ∃ n, parseTimeString s = .ok n ∧ 0 ≤ n ∧ n < 1440 := by
  obtain ⟨n, h0, h1, hn, -⟩ := minutes_of_regex h
  refine ⟨n, ?_, h0, h1⟩
  rw [parseTimeString, if_neg (regex_ne_endOfDay h), if_neg (not_not.mpr h), hn]
  rfl

theorem AvailabilityWindow.Readable.minutes {w : AvailabilityWindow} (h : w.Readable) :
    windowMinutes w = .ok (w.openMin, w.closeMin) ∧ 0 ≤ w.openMin ∧ w.openMin < 1440 ∧
      0 ≤ w.closeMin ∧ w.closeMin ≤ 1440 := by
  obtain ⟨o, ho, h0, h1⟩ := parseTimeString_regex h.opened
  have hclose : ∃ c, parseTimeString w.closeTime = .ok c ∧ 0 ≤ c ∧ c ≤ 1440 := by
    rcases h.closed with hc | hc
    · obtain ⟨c, hc, h2, h3⟩ := parseTimeString_regex hc
      exact ⟨c, hc, h2, h3.le⟩
    · exact ⟨1440, by rw [hc]; rfl, by omega, le_rfl⟩
  obtain ⟨c, hc, h2, h3⟩ := hclose
  simp only [windowMinutes, openMin, closeMin, ho, hc, Except.toOption, Option.getD_some]
  exact ⟨rfl, h0, h1, h2, h3⟩

/-- On readable windows the scan finds the first window open at the minute. -/
theorem firstOpen_eq (dayOfWeek minutes : ℤ) : ∀ {windows : List AvailabilityWindow},
    (∀ w ∈ windows, w.Readable) → firstOpen dayOfWeek minutes windows
      = .ok ((windows.find? fun w => w.OpenAt dayOfWeek minutes).map
          fun w => (w.openMin, w.closeMin))
  | [], _ => rfl
  | w :: windows, h => by
    have ih := firstOpen_eq dayOfWeek minutes fun v hv => h v (List.mem_cons_of_mem _ hv)
    have hm := (h w (by simp)).minutes.1
    rw [firstOpen, ih, List.find?_cons]
    by_cases hd : w.dayOfWeek = dayOfWeek
    · rw [if_neg (not_not.mpr hd), hm]
      by_cases ho : w.openMin ≤ minutes ∧ minutes < w.closeMin
      · have hopen : w.OpenAt dayOfWeek minutes := ⟨hd, ho⟩
        simp [bind, Except.bind, hopen, ho]
      · have hopen : ¬ w.OpenAt dayOfWeek minutes := fun h => ho h.2
        simp only [bind, Except.bind, if_neg ho, decide_eq_false hopen]
    · have hopen : ¬ w.OpenAt dayOfWeek minutes := fun h => hd h.1
      simp only [decide_eq_false hopen, ne_eq, not_false_eq_true, if_true, hd]

/-- On readable windows the scans to both sides come to their end. -/
theorem candidatesOn_ok (nowDay nowMin offset : ℤ) {windows : List AvailabilityWindow} (h : ∀ w ∈ windows, w.Readable) :
    (∃ cs, candidatesOn nowDay nowMin offset windows = .ok cs) ∧ ∃ cs, closedOn nowDay nowMin offset windows = .ok cs := by
  induction windows with
  | nil => exact ⟨⟨[], rfl⟩, [], rfl⟩
  | cons w windows ih =>
    rw [List.forall_mem_cons] at h
    obtain ⟨⟨ahead, hahead⟩, behind, hbehind⟩ := ih h.2
    have hm := h.1.minutes.1
    rw [candidatesOn, closedOn, hm, hahead, hbehind]
    constructor
    · split_ifs
      · exact ⟨_, rfl⟩
      · exact ⟨_, rfl⟩
    · split_ifs
      · exact ⟨_, rfl⟩
      · exact ⟨_, rfl⟩

theorem candidates_ok (nowDay nowMin : ℤ) {windows : List AvailabilityWindow} (h : ∀ w ∈ windows, w.Readable)
    (offsets : List ℤ) :
    (∃ cs, candidates nowDay nowMin windows offsets = .ok cs) ∧ ∃ cs, closed nowDay nowMin windows offsets = .ok cs := by
  induction offsets with
  | nil => exact ⟨⟨[], rfl⟩, [], rfl⟩
  | cons offset offsets ih =>
    obtain ⟨⟨ahead, hahead⟩, behind, hbehind⟩ := ih
    obtain ⟨⟨here, hhere⟩, there, hthere⟩ := candidatesOn_ok nowDay nowMin offset h
    rw [candidates, closed, hahead, hbehind, hhere, hthere]
    exact ⟨⟨_, rfl⟩, _, rfl⟩

theorem getNextWindowOccurrence_ok {windows : List AvailabilityWindow} (h : ∀ w ∈ windows, w.Readable) (now : ℤ) :
    ∃ next, getNextWindowOccurrence windows now = .ok next := by
  obtain ⟨cs, hcs⟩ :=
    (candidates_ok (getLondonClock now).dayOfWeek (getLondonClock now).minutes h [0, 1, 2, 3, 4, 5, 6, 7]).1
  simp only [getNextWindowOccurrence, hcs]
  exact ⟨_, rfl⟩

theorem getMostRecentlyClosedWindowOccurrence_ok {windows : List AvailabilityWindow} (h : ∀ w ∈ windows, w.Readable)
    (now : ℤ) : ∃ previous, getMostRecentlyClosedWindowOccurrence windows now = .ok previous := by
  obtain ⟨cs, hcs⟩ :=
    (candidates_ok (getLondonClock now).dayOfWeek (getLondonClock now).minutes h [0, 1, 2, 3, 4, 5, 6, 7]).2
  simp only [getMostRecentlyClosedWindowOccurrence, hcs]
  exact ⟨_, rfl⟩

theorem getCurrentWindowOccurrence_ok {windows : List AvailabilityWindow} (h : ∀ w ∈ windows, w.Readable) (now : ℤ) :
    ∃ current, getCurrentWindowOccurrence windows now = .ok current := by
  simp only [getCurrentWindowOccurrence, firstOpen_eq _ _ h]
  exact ⟨_, rfl⟩

/-! ### Occurrences -/

/-- A window on a London calendar date. -/
structure Occurrence where
  date : ℤ
  window : AvailabilityWindow
  deriving DecidableEq

/-- The occurrence, of one of the windows, holds the instant on the London wall clock. -/
structure Occurrence.Holds (windows : List AvailabilityWindow) (o : Occurrence) (now : ℤ) : Prop where
  mem : o.window ∈ windows
  date : londonDay now = o.date
  opened : o.window.OpenAt (getLondonClock now).dayOfWeek (getLondonClock now).minutes

/-- The instants the program computes for an occurrence. -/
def Occurrence.startsAt (o : Occurrence) : ℤ :=
  o.date * Dates.msPerDay - midnightOffset o.date * Dates.msPerMinute
    + o.window.openMin * Dates.msPerMinute
def Occurrence.endsAt (o : Occurrence) : ℤ :=
  o.date * Dates.msPerDay - midnightOffset o.date * Dates.msPerMinute
    + o.window.closeMin * Dates.msPerMinute

/-- The program finds an occurrence that holds `now` if there is one, and computes its two ends. -/
theorem getCurrentWindowOccurrence_eq {windows : List AvailabilityWindow}
    (h : ∀ w ∈ windows, w.Readable) (now : ℕ) :
    (getCurrentWindowOccurrence windows now = .ok none ∧
      ∀ o : Occurrence, ¬ o.Holds windows now) ∨
    ∃ o : Occurrence, o.Holds windows now ∧
      getCurrentWindowOccurrence windows now = .ok (some ⟨o.startsAt, o.endsAt⟩) := by
  have hfind := firstOpen_eq (getLondonClock now).dayOfWeek (getLondonClock now).minutes h
  simp only [getCurrentWindowOccurrence, hfind]
  cases hf : windows.find? fun w =>
      w.OpenAt (getLondonClock now).dayOfWeek (getLondonClock now).minutes with
  | none =>
    refine .inl ⟨rfl, fun o ho => ?_⟩
    rw [List.find?_eq_none] at hf
    exact hf o.window ho.mem (decide_eq_true ho.opened)
  | some w =>
    have hopen := List.find?_some hf
    refine .inr ⟨⟨londonDay now, w⟩, ⟨List.mem_of_find?_eq_some hf, rfl, ?_⟩, ?_⟩
    · exact of_decide_eq_true hopen
    · simp only [Option.map_some, bind, Except.bind, pure, Except.pure, Occurrence.startsAt,
        Occurrence.endsAt, londonDateAtMinute_eq (Int.natCast_nonneg now), add_zero]

/-- No two windows of a day share a minute. -/
def Separate (windows : List AvailabilityWindow) : Prop :=
  ∀ v ∈ windows, ∀ w ∈ windows, ∀ d m, v.OpenAt d m → w.OpenAt d m → v = w

/-- Of windows that share no minute, it does not matter in which order they are scanned. -/
theorem getCurrentWindowOccurrence_perm {windows windows' : List AvailabilityWindow} (hr : ∀ w ∈ windows, w.Readable)
    (hs : Separate windows) (hp : windows'.Perm windows) (now : ℤ) :
    getCurrentWindowOccurrence windows' now = getCurrentWindowOccurrence windows now := by
  have hfind : ∀ d m, windows'.find? (fun w => w.OpenAt d m) = windows.find? fun w => w.OpenAt d m := by
    intro d m
    cases hf : windows.find? fun w => w.OpenAt d m with
    | none =>
      rw [List.find?_eq_none] at hf ⊢
      exact fun w hw => hf w (hp.subset hw)
    | some w =>
      cases hf' : windows'.find? fun w => w.OpenAt d m with
      | none =>
        rw [List.find?_eq_none] at hf'
        exact absurd (List.find?_some hf) (hf' w (hp.symm.subset (List.mem_of_find?_eq_some hf)))
      | some w' =>
        have hopen := List.find?_some hf
        have hopen' := List.find?_some hf'
        rw [decide_eq_true_iff] at hopen hopen'
        rw [hs w' (hp.subset (List.mem_of_find?_eq_some hf')) w (List.mem_of_find?_eq_some hf) d m hopen' hopen]
  simp only [getCurrentWindowOccurrence, firstOpen_eq _ _ hr, firstOpen_eq _ _ fun w hw => hr w (hp.subset hw), hfind]

/-- An instant lies in one occurrence at most. -/
theorem Occurrence.Holds.unique {windows : List AvailabilityWindow} (hs : Separate windows)
    {o p : Occurrence} {now : ℤ} (ho : o.Holds windows now) (hp : p.Holds windows now) : o = p := by
  obtain ⟨d, v⟩ := o
  obtain ⟨e, w⟩ := p
  rw [Occurrence.mk.injEq]
  exact ⟨ho.date.symm.trans hp.date, hs v ho.mem w hp.mem _ _ ho.opened hp.opened⟩

/-- 29 March 2026, a window from 23:30: its computed start is an hour after 23:30 London time. -/
example : getCurrentWindowOccurrence [⟨0, "23:30", "24:00"⟩] (Dates.dateUTC 2026 2 29 + 81000000)
    = .ok (some ⟨Dates.dateUTC 2026 2 29 + 84600000, Dates.dateUTC 2026 2 29 + 86400000⟩) := by
  decide

end Redeemo.VoucherAvailability
