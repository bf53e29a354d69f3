import Redeemo.Merchant.AvailabilityWindows
import Redeemo.Shared.ClockChanges

/-! The searches for a window, on the wall clock and as instants.

    The wall clock is a line of minutes, counted from midnight of the current date. On it the three searches are exact
    (`searches_exact`). As instants their results are exact but for the two days on which the clocks change, and there only
    after the change (`window_instants_exact_iff`). -/

namespace Redeemo.VoucherAvailability
open WallTime London Dates AvailabilityWindows

variable {windows : List AvailabilityWindow} {w : AvailabilityWindow} {c : Candidate}
  {nowDay nowMin offset : ℤ} {offsets : List ℤ} {now : ℕ}

/-! ### The candidates -/

theorem candidatesOn_eq (h : ∀ w ∈ windows, w.Readable) : candidatesOn nowDay nowMin offset windows =
    .ok ((windows.filter fun w => w.dayOfWeek = (nowDay + offset) % 7 ∧ ¬ (offset = 0 ∧ w.openMin ≤ nowMin)).map
      fun w => ⟨offset, w.openMin, w.closeMin⟩) := by
  induction windows with
  | nil => rfl
  | cons w windows ih =>
    obtain ⟨hw, hrest⟩ := List.forall_mem_cons.mp h
    rw [candidatesOn, hw.minutes.1, ih hrest]
    by_cases hday : w.dayOfWeek = (nowDay + offset) % 7
    · by_cases hpast : offset = 0 ∧ w.openMin ≤ nowMin
      · rw [if_neg (not_not.mpr hday), List.filter_cons_of_neg (by simp [hpast])]
        simp only [bind, Except.bind, pure, Except.pure, if_pos hpast]
      · rw [if_neg (not_not.mpr hday), List.filter_cons_of_pos (by exact decide_eq_true ⟨hday, hpast⟩)]
        simp only [bind, Except.bind, pure, Except.pure, if_neg hpast, List.map_cons]
    · rw [if_pos hday, List.filter_cons_of_neg (by simp [hday])]

theorem closedOn_eq (h : ∀ w ∈ windows, w.Readable) : closedOn nowDay nowMin offset windows =
    .ok ((windows.filter fun w => w.dayOfWeek = (nowDay - offset + 7) % 7 ∧ ¬ (offset = 0 ∧ nowMin < w.closeMin)).map
      fun w => ⟨offset, w.openMin, w.closeMin⟩) := by
  induction windows with
  | nil => rfl
  | cons w windows ih =>
    obtain ⟨hw, hrest⟩ := List.forall_mem_cons.mp h
    rw [closedOn, hw.minutes.1, ih hrest]
    by_cases hday : w.dayOfWeek = (nowDay - offset + 7) % 7
    · by_cases hopen : offset = 0 ∧ nowMin < w.closeMin
      · rw [if_neg (not_not.mpr hday), List.filter_cons_of_neg (by simp [hopen])]
        simp only [bind, Except.bind, pure, Except.pure, if_pos hopen]
      · rw [if_neg (not_not.mpr hday), List.filter_cons_of_pos (by exact decide_eq_true ⟨hday, hopen⟩)]
        simp only [bind, Except.bind, pure, Except.pure, if_neg hopen, List.map_cons]
    · rw [if_pos hday, List.filter_cons_of_neg (fun h => hday (of_decide_eq_true h).1)]

variable (nowDay nowMin) in
theorem mem_candidates (h : ∀ w ∈ windows, w.Readable) (offsets : List ℤ) : ∃ cs,
    candidates nowDay nowMin windows offsets = .ok cs ∧ ∀ c, c ∈ cs ↔ c.dayOffset ∈ offsets ∧ ∃ w ∈ windows,
      (w.dayOfWeek = (nowDay + c.dayOffset) % 7 ∧ ¬ (c.dayOffset = 0 ∧ w.openMin ≤ nowMin)) ∧
        c = ⟨c.dayOffset, w.openMin, w.closeMin⟩ := by
  induction offsets with
  | nil => exact ⟨[], rfl, by simp⟩
  | cons offset offsets ih =>
    obtain ⟨rest, hrest, hmem⟩ := ih
    refine ⟨_, by rw [candidates, candidatesOn_eq h, hrest]; rfl, fun c => ?_⟩
    rw [List.mem_append, hmem, List.mem_cons, or_and_right]
    refine or_congr ?_ Iff.rfl
    simp only [List.mem_map, List.mem_filter, decide_eq_true_eq]
    constructor
    · rintro ⟨w, ⟨hw, hcond⟩, rfl⟩
      exact ⟨rfl, w, hw, hcond, rfl⟩
    · rintro ⟨rfl, w, hw, hcond, hc⟩
      exact ⟨w, ⟨hw, hcond⟩, hc.symm⟩

variable (nowDay nowMin) in
theorem mem_closed (h : ∀ w ∈ windows, w.Readable) (offsets : List ℤ) : ∃ cs,
    closed nowDay nowMin windows offsets = .ok cs ∧ ∀ c, c ∈ cs ↔ c.dayOffset ∈ offsets ∧ ∃ w ∈ windows,
      (w.dayOfWeek = (nowDay - c.dayOffset + 7) % 7 ∧ ¬ (c.dayOffset = 0 ∧ nowMin < w.closeMin)) ∧
        c = ⟨c.dayOffset, w.openMin, w.closeMin⟩ := by
  induction offsets with
  | nil => exact ⟨[], rfl, by simp⟩
  | cons offset offsets ih =>
    obtain ⟨rest, hrest, hmem⟩ := ih
    refine ⟨_, by rw [closed, closedOn_eq h, hrest]; rfl, fun c => ?_⟩
    rw [List.mem_append, hmem, List.mem_cons, or_and_right]
    refine or_congr ?_ Iff.rfl
    simp only [List.mem_map, List.mem_filter, decide_eq_true_eq]
    constructor
    · rintro ⟨w, ⟨hw, hcond⟩, rfl⟩
      exact ⟨rfl, w, hw, hcond, rfl⟩
    · rintro ⟨rfl, w, hw, hcond, hc⟩
      exact ⟨w, ⟨hw, hcond⟩, hc.symm⟩

/-- What a scan sorts to the front comes before all that it sorts. -/
theorem head?_insertionSort {α : Type*} {r : α → α → Prop} [DecidableRel r] (htotal : ∀ a b, r a b ∨ r b a)
    (htrans : ∀ a b c, r a b → r b c → r a c) (l : List α) :
    l = [] ∧ (l.insertionSort r).head? = none ∨ ∃ a ∈ l, (l.insertionSort r).head? = some a ∧ ∀ b ∈ l, r a b := by
  have : Std.Total r := ⟨htotal⟩
  have : IsTrans α r := ⟨htrans⟩
  have hsorted := List.pairwise_insertionSort r l
  have hperm := List.perm_insertionSort r l
  cases hs : l.insertionSort r with
  | nil =>
    rw [hs] at hperm
    exact .inl ⟨hperm.symm.eq_nil, rfl⟩
  | cons a rest =>
    rw [hs] at hsorted hperm
    refine .inr ⟨a, hperm.subset List.mem_cons_self, rfl, fun b hb => ?_⟩
    rcases List.mem_cons.mp (hperm.symm.subset hb) with rfl | hb
    · exact (htotal b b).elim id id
    · exact List.rel_of_pairwise_cons hsorted hb

/-! ### The line of minutes -/

/-- The candidate's opening, in minutes from midnight of the current date. -/
def Candidate.opening (c : Candidate) : ℤ := c.dayOffset * 1440 + c.openMin

/-- The closing of a candidate that lies `dayOffset` days back. -/
def Candidate.closing (c : Candidate) : ℤ := c.closeMin - c.dayOffset * 1440

/-- A window is open at that minute. -/
def OpenAtMinute (windows : List AvailabilityWindow) (nowDay minute : ℤ) : Prop :=
  ∃ w ∈ windows, w.OpenAt ((nowDay + minute / 1440) % 7) (minute % 1440)

/-- The candidate is a window's occurrence of the next seven days, the first that opens after now. -/
structure IsNext (windows : List AvailabilityWindow) (nowDay nowMin : ℤ) (c : Candidate) : Prop where
  window : ∃ w ∈ windows, w.dayOfWeek = (nowDay + c.dayOffset) % 7 ∧ w.openMin = c.openMin ∧ w.closeMin = c.closeMin
  ahead : 0 ≤ c.dayOffset ∧ nowMin < c.opening ∧ c.opening ≤ nowMin + 7 * 1440
  first : ∀ w ∈ windows, ∀ dayOffset, 0 ≤ dayOffset → w.dayOfWeek = (nowDay + dayOffset) % 7 →
    nowMin < dayOffset * 1440 + w.openMin →
      c.dayOffset < dayOffset ∨ c.dayOffset = dayOffset ∧ c.openMin ≤ w.openMin

/-- The candidate is a window's occurrence of the last seven days, the last that closed by now. -/
structure IsPrevious (windows : List AvailabilityWindow) (nowDay nowMin : ℤ) (c : Candidate) : Prop where
  window : ∃ w ∈ windows, w.dayOfWeek = (nowDay - c.dayOffset) % 7 ∧ w.openMin = c.openMin ∧ w.closeMin = c.closeMin
  behind : 0 ≤ c.dayOffset ∧ c.closing ≤ nowMin ∧ nowMin ≤ c.closing + 7 * 1440
  last : ∀ w ∈ windows, ∀ dayOffset, 0 ≤ dayOffset → w.dayOfWeek = (nowDay - dayOffset) % 7 →
    w.closeMin - dayOffset * 1440 ≤ nowMin → w.closeMin - dayOffset * 1440 ≤ c.closing

/-- What the merchant's checks let through: readable times, the closing after the opening, and a day of the week. -/
def Regular (windows : List AvailabilityWindow) : Prop :=
  ∀ w ∈ windows, w.Readable ∧ w.openMin < w.closeMin ∧ 0 ≤ w.dayOfWeek ∧ w.dayOfWeek < 7

theorem mem_week_iff : offset ∈ ([0, 1, 2, 3, 4, 5, 6, 7] : List ℤ) ↔ 0 ≤ offset ∧ offset ≤ 7 := by
  simp only [List.mem_cons, List.not_mem_nil, or_false]
  omega

theorem isNext_of_candidates (hr : ∀ w ∈ windows, w.Readable) (hmin : 0 ≤ nowMin ∧ nowMin < 1440) {cs : List Candidate}
    (hcs : ∀ c, c ∈ cs ↔ c.dayOffset ∈ ([0, 1, 2, 3, 4, 5, 6, 7] : List ℤ) ∧ ∃ w ∈ windows,
      (w.dayOfWeek = (nowDay + c.dayOffset) % 7 ∧ ¬ (c.dayOffset = 0 ∧ w.openMin ≤ nowMin)) ∧
        c = ⟨c.dayOffset, w.openMin, w.closeMin⟩)
    (hc : c ∈ cs) (hfirst : ∀ c' ∈ cs, c.dayOffset < c'.dayOffset ∨ c.dayOffset = c'.dayOffset ∧ c.openMin ≤ c'.openMin) :
    IsNext windows nowDay nowMin c := by
  have hin : ∀ w ∈ windows, ∀ dayOffset, 0 ≤ dayOffset → dayOffset ≤ 7 → w.dayOfWeek = (nowDay + dayOffset) % 7 →
      nowMin < dayOffset * 1440 + w.openMin → (⟨dayOffset, w.openMin, w.closeMin⟩ : Candidate) ∈ cs := by
    intro w hw dayOffset h0 h7 hday hahead
    exact (hcs _).mpr ⟨mem_week_iff.mpr ⟨h0, h7⟩, w, hw, ⟨hday, fun h => by
      rw [show dayOffset = 0 from h.1] at hahead
      exact absurd h.2 (by omega)⟩, rfl⟩
  obtain ⟨hweek, w, hw, ⟨hday, hpast⟩, heq⟩ := (hcs c).mp hc
  rw [mem_week_iff] at hweek
  obtain ⟨-, h0, h1, -⟩ := (hr w hw).minutes
  have hopen : w.openMin = c.openMin := (congrArg Candidate.openMin heq).symm
  refine ⟨⟨w, hw, hday, hopen, (congrArg Candidate.closeMin heq).symm⟩, ⟨hweek.1, ?_, ?_⟩, ?_⟩
  · rw [Candidate.opening, ← hopen]
    omega
  · rw [Candidate.opening, ← hopen]
    -- A week from now it would be a candidate of today, too.
    by_contra hlate
    have htoday := hin w hw 0 le_rfl (by omega) (by omega) (by omega)
    have := hfirst _ htoday
    dsimp only at this
    omega
  · intro v hv dayOffset hd hvday hahead
    by_cases h7 : dayOffset ≤ 7
    · exact hfirst _ (hin v hv dayOffset hd h7 hvday hahead)
    · exact .inl (by omega)

theorem isPrevious_of_closed (hr : Regular windows) (hmin : 0 ≤ nowMin ∧ nowMin < 1440) {cs : List Candidate}
    (hcs : ∀ c, c ∈ cs ↔ c.dayOffset ∈ ([0, 1, 2, 3, 4, 5, 6, 7] : List ℤ) ∧ ∃ w ∈ windows,
      (w.dayOfWeek = (nowDay - c.dayOffset + 7) % 7 ∧ ¬ (c.dayOffset = 0 ∧ nowMin < w.closeMin)) ∧
        c = ⟨c.dayOffset, w.openMin, w.closeMin⟩)
    (hc : c ∈ cs)
    (hfirst : ∀ c' ∈ cs, c.dayOffset < c'.dayOffset ∨ c.dayOffset = c'.dayOffset ∧ c'.closeMin ≤ c.closeMin) :
    IsPrevious windows nowDay nowMin c := by
  have hin : ∀ w ∈ windows, ∀ dayOffset, 0 ≤ dayOffset → dayOffset ≤ 7 → w.dayOfWeek = (nowDay - dayOffset) % 7 →
      w.closeMin - dayOffset * 1440 ≤ nowMin → (⟨dayOffset, w.openMin, w.closeMin⟩ : Candidate) ∈ cs := by
    intro w hw dayOffset h0 h7 hday hbehind
    exact (hcs _).mpr ⟨mem_week_iff.mpr ⟨h0, h7⟩, w, hw, ⟨by rw [hday, Int.add_emod_right], fun h => by
      rw [show dayOffset = 0 from h.1] at hbehind
      exact absurd h.2 (by omega)⟩, rfl⟩
  obtain ⟨hweek, w, hw, ⟨hday, hopen⟩, heq⟩ := (hcs c).mp hc
  rw [mem_week_iff] at hweek
  obtain ⟨-, h0, -, -, h1⟩ := (hr w hw).1.minutes
  have hlt := (hr w hw).2.1
  have hclose : w.closeMin = c.closeMin := (congrArg Candidate.closeMin heq).symm
  have hbehind : nowMin ≤ c.closing + 7 * 1440 := by
    rw [Candidate.closing, ← hclose]
    by_contra hlate
    have htoday := hin w hw 0 le_rfl (by omega) (by omega) (by omega)
    have := hfirst _ htoday
    dsimp only at this
    omega
  refine ⟨⟨w, hw, by omega, (congrArg Candidate.openMin heq).symm, hclose⟩, ⟨hweek.1, ?_, hbehind⟩, ?_⟩
  · rw [Candidate.closing, ← hclose]
    omega
  · intro v hv dayOffset hd hvday hclosed
    obtain ⟨-, -, -, -, hv1⟩ := (hr v hv).1.minutes
    by_cases h7 : dayOffset ≤ 7
    · have := hfirst _ (hin v hv dayOffset hd h7 hvday hclosed)
      rw [Candidate.closing]
      dsimp only at this
      omega
    · omega

/-- Between the last closing and the next opening no window is open. -/
theorem quiet_between (hr : Regular windows) (hmin : 0 ≤ nowMin ∧ nowMin < 1440) (hday : 0 ≤ nowDay ∧ nowDay < 7)
    (hnow : ∀ w ∈ windows, ¬ w.OpenAt nowDay nowMin) {p n : Candidate} (hp : IsPrevious windows nowDay nowMin p)
    (hn : IsNext windows nowDay nowMin n) {minute : ℤ} (h0 : p.closing ≤ minute) (h1 : minute < n.opening) :
    ¬ OpenAtMinute windows nowDay minute := by
  rintro ⟨w, hw, hwday, hlo, hhi⟩
  obtain ⟨-, ho0, -, -, hc1⟩ := (hr w hw).1.minutes
  rcases lt_or_ge nowMin (minute / 1440 * 1440 + w.openMin) with hahead | hopened
  · -- It opens after now, so the next opening is not later.
    have hfirst := hn.first w hw (minute / 1440) (by omega) hwday hahead
    have hn0 : n.openMin < 1440 := by
      obtain ⟨v, hv, -, hopen, -⟩ := hn.window
      exact hopen ▸ (hr v hv).1.minutes.2.2.1
    rw [Candidate.opening] at h1
    omega
  · rcases lt_or_ge nowMin (minute / 1440 * 1440 + w.closeMin) with hopen | hclosed
    · have htoday : minute / 1440 = 0 := by omega
      refine hnow w hw ⟨by rw [hwday, htoday]; omega, by omega, by omega⟩
    · -- It closed by now, so the last closing is not earlier.
      have hlast := hp.last w hw (-(minute / 1440)) (by omega) (by rw [hwday]; congr 1; omega) (by omega)
      omega

/-! ### The searches on the line -/

/-- The instants computed for a candidate. -/
def occurrenceOf (now dayOffset : ℤ) (c : Candidate) : WindowOccurrence :=
  ⟨londonDateAtMinute now dayOffset c.openMin, londonDateAtMinute now dayOffset c.closeMin⟩

variable (windows now) in
/-- What is said of the searches, at a reading of the clock. -/
structure SearchesExact : Prop where
  unordered : ∀ windows', windows'.Perm windows →
    getCurrentWindowOccurrence windows' now = getCurrentWindowOccurrence windows now
  next : windows = [] ∧ getNextWindowOccurrence windows now = .ok none ∨ windows ≠ [] ∧ ∃ c,
    IsNext windows (getLondonClock now).dayOfWeek (getLondonClock now).minutes c ∧
      getNextWindowOccurrence windows now = .ok (some (occurrenceOf now c.dayOffset c))
  previous : windows = [] ∧ getMostRecentlyClosedWindowOccurrence windows now = .ok none ∨ windows ≠ [] ∧ ∃ c,
    IsPrevious windows (getLondonClock now).dayOfWeek (getLondonClock now).minutes c ∧
      getMostRecentlyClosedWindowOccurrence windows now = .ok (some (occurrenceOf now (-c.dayOffset) c))
  quiet : getCurrentWindowOccurrence windows now = .ok none → ∀ p n,
    IsPrevious windows (getLondonClock now).dayOfWeek (getLondonClock now).minutes p →
      IsNext windows (getLondonClock now).dayOfWeek (getLondonClock now).minutes n →
        ∀ minute, p.closing ≤ minute → minute < n.opening → ¬ OpenAtMinute windows (getLondonClock now).dayOfWeek minute

/-- Every window opens again within the week. -/
theorem exists_ahead (hw : 0 ≤ w.dayOfWeek ∧ w.dayOfWeek < 7) (nowDay : ℤ) :
    ∃ dayOffset, 1 ≤ dayOffset ∧ dayOffset ≤ 7 ∧ w.dayOfWeek = (nowDay + dayOffset) % 7 := by
  obtain ⟨h0, h1⟩ := hw
  exact ⟨(w.dayOfWeek - nowDay - 1) % 7 + 1, by omega, by omega, by omega⟩

theorem exists_behind (hr : Regular windows) (nowDay : ℤ) (hw : w ∈ windows) :
    ∃ dayOffset, 1 ≤ dayOffset ∧ dayOffset ≤ 7 ∧ w.dayOfWeek = (nowDay - dayOffset + 7) % 7 := by
  obtain ⟨-, -, h0, h1⟩ := hr w hw
  exact ⟨(nowDay - w.dayOfWeek - 1) % 7 + 1, by omega, by omega, by omega⟩

/-- The next opening, unless no window is of a day of the week. -/
theorem getNextWindowOccurrence_found (hr : ∀ w ∈ windows, w.Readable) (now : ℕ) :
    (∀ w ∈ windows, ¬ (0 ≤ w.dayOfWeek ∧ w.dayOfWeek < 7)) ∧ getNextWindowOccurrence windows now = .ok none ∨ ∃ c,
      IsNext windows (getLondonClock now).dayOfWeek (getLondonClock now).minutes c ∧
        getNextWindowOccurrence windows now = .ok (some (occurrenceOf now c.dayOffset c)) := by
  have hmin := minutes_bounds (Int.natCast_nonneg now)
  obtain ⟨cs, hok, hcs⟩ := mem_candidates (getLondonClock now).dayOfWeek (getLondonClock now).minutes hr
    [0, 1, 2, 3, 4, 5, 6, 7]
  simp only [getNextWindowOccurrence, hok]
  rcases head?_insertionSort (r := fun a b : Candidate =>
    a.dayOffset < b.dayOffset ∨ (a.dayOffset = b.dayOffset ∧ a.openMin ≤ b.openMin)) (by omega) (by omega) cs with
    ⟨hnil, hnone⟩ | ⟨c, hc, hsome, hfirst⟩
  · refine .inl ⟨fun w hw hweek => ?_, by simp only [bind, Except.bind, pure, Except.pure, hnone, Option.map_none]⟩
    obtain ⟨dayOffset, h1, h7, hday⟩ := exists_ahead hweek (getLondonClock now).dayOfWeek
    have hin := (hcs ⟨dayOffset, w.openMin, w.closeMin⟩).mpr
      ⟨mem_week_iff.mpr ⟨by dsimp only; omega, h7⟩, w, hw, ⟨hday, fun h => by have := h.1; dsimp only at this; omega⟩, rfl⟩
    rw [hnil] at hin
    cases hin
  · refine .inr ⟨c, isNext_of_candidates hr hmin hcs hc hfirst, ?_⟩
    simp only [bind, Except.bind, pure, Except.pure, hsome, Option.map_some]
    rfl

theorem getNextWindowOccurrence_cases (hr : Regular windows) (now : ℕ) :
    windows = [] ∧ getNextWindowOccurrence windows now = .ok none ∨ windows ≠ [] ∧ ∃ c,
      IsNext windows (getLondonClock now).dayOfWeek (getLondonClock now).minutes c ∧
        getNextWindowOccurrence windows now = .ok (some (occurrenceOf now c.dayOffset c)) := by
  rcases getNextWindowOccurrence_found (fun w hw => (hr w hw).1) now with ⟨hweek, hnone⟩ | ⟨c, hc, hsome⟩
  · exact .inl ⟨List.eq_nil_iff_forall_not_mem.mpr fun w hw => hweek w hw (hr w hw).2.2, hnone⟩
  · refine .inr ⟨?_, c, hc, hsome⟩
    rintro rfl
    obtain ⟨w, hw, -⟩ := hc.window
    cases hw

theorem getMostRecentlyClosedWindowOccurrence_cases (hr : Regular windows) (now : ℕ) :
    windows = [] ∧ getMostRecentlyClosedWindowOccurrence windows now = .ok none ∨ windows ≠ [] ∧ ∃ c,
      IsPrevious windows (getLondonClock now).dayOfWeek (getLondonClock now).minutes c ∧
        getMostRecentlyClosedWindowOccurrence windows now = .ok (some (occurrenceOf now (-c.dayOffset) c)) := by
  have hmin := minutes_bounds (Int.natCast_nonneg now)
  obtain ⟨cs, hok, hcs⟩ := mem_closed (getLondonClock now).dayOfWeek
    (getLondonClock now).minutes (fun w hw => (hr w hw).1) [0, 1, 2, 3, 4, 5, 6, 7]
  simp only [getMostRecentlyClosedWindowOccurrence, hok]
  rcases head?_insertionSort (r := fun a b : Candidate =>
    a.dayOffset < b.dayOffset ∨ (a.dayOffset = b.dayOffset ∧ b.closeMin ≤ a.closeMin)) (by omega) (by omega) cs with
    ⟨hnil, hnone⟩ | ⟨c, hc, hsome, hfirst⟩
  · refine .inl ⟨?_, by simp only [bind, Except.bind, pure, Except.pure, hnone, Option.map_none]⟩
    refine List.eq_nil_iff_forall_not_mem.mpr fun w hw => ?_
    obtain ⟨dayOffset, h1, h7, hday⟩ := exists_behind hr (getLondonClock now).dayOfWeek hw
    have hin := (hcs ⟨dayOffset, w.openMin, w.closeMin⟩).mpr
      ⟨mem_week_iff.mpr ⟨by dsimp only; omega, h7⟩, w, hw, ⟨hday, fun h => by have := h.1; dsimp only at this; omega⟩, rfl⟩
    rw [hnil] at hin
    cases hin
  · refine .inr ⟨?_, c, isPrevious_of_closed hr hmin hcs hc hfirst, ?_⟩
    · rintro rfl
      obtain ⟨-, w, hw, -⟩ := (hcs c).mp hc
      cases hw
    · simp only [bind, Except.bind, pure, Except.pure, hsome, Option.map_some]
      rfl

theorem not_open_of_none (hr : ∀ w ∈ windows, w.Readable) (h : getCurrentWindowOccurrence windows now = .ok none) :
    ∀ w ∈ windows, ¬ w.OpenAt (getLondonClock now).dayOfWeek (getLondonClock now).minutes := by
  intro w hw hopen
  rcases getCurrentWindowOccurrence_eq hr now with ⟨-, hno⟩ | ⟨o, -, hsome⟩
  · exact hno ⟨londonDay now, w⟩ ⟨hw, rfl, hopen⟩
  · rw [hsome] at h
    cases h

/-- On the wall clock the searches are exact. -/
theorem searches_exact (hok : validateAvailabilityWindows .TIME_LIMITED (some windows) = .ok ())
    (hweek : ∀ w ∈ windows, 0 ≤ w.dayOfWeek ∧ w.dayOfWeek < 7) (now : ℕ) : SearchesExact windows now := by
  obtain ⟨hread, hs⟩ := separate_of_ok hok
  have hr : Regular windows := fun w hw => ⟨(hread w hw).1, (hread w hw).2, hweek w hw⟩
  have hday := dayOfWeek_bounds (Int.natCast_nonneg now)
  have hmin := minutes_bounds (Int.natCast_nonneg now)
  constructor
  · intro windows' hp
    exact getCurrentWindowOccurrence_perm (fun w hw => (hread w hw).1) hs hp now
  · exact getNextWindowOccurrence_cases hr now
  · exact getMostRecentlyClosedWindowOccurrence_cases hr now
  · intro hnone p n hp hn minute h0 h1
    exact quiet_between hr hmin hday (not_open_of_none (fun w hw => (hread w hw).1) hnone) hp hn h0 h1

theorem searches_exact_lunch :
    SearchesExact [⟨0, "12:00", "14:00"⟩, ⟨1, "12:00", "24:00"⟩] (1780000000000 : ℕ) :=
  searches_exact (by decide) (by decide) 1780000000000

/-! ### As instants -/

variable (windows) in
/-- The occurrence found holds the instant. -/
def FoundHolds (now : ℤ) : Prop :=
  ∀ occ, getCurrentWindowOccurrence windows now = .ok (some occ) → occ.startsAt ≤ now ∧ now < occ.endsAt

variable (windows) in
/-- The window found is open on a clock, too, that is not changed on the day. -/
def OpenUnchanged (now : ℤ) : Prop :=
  ∀ w, (windows.find? fun w => w.OpenAt (getLondonClock now).dayOfWeek (getLondonClock now).minutes) = some w →
    w.OpenAt (getLondonClock now).dayOfWeek ((getLondonClock now).minutes - clockShift now)

/-- The instant computed for a minute shows that minute. -/
def ReadsBack (now dayOffset minute : ℤ) : Prop :=
  (getLondonClock (londonDateAtMinute now dayOffset minute)).minutes = minute

theorem foundHolds_iff (hr : ∀ w ∈ windows, w.Readable) (now : ℕ) : FoundHolds windows now ↔ OpenUnchanged windows now := by
  have hstart : ∀ minute, londonDateAtMinute now 0 minute ≤ now ↔ minute + clockShift now ≤ (getLondonClock now).minutes := by
    intro minute
    rw [londonDateAtMinute_eq (Int.natCast_nonneg now), add_zero]
    exact minute_instant_le_iff
  simp only [FoundHolds, OpenUnchanged, getCurrentWindowOccurrence, firstOpen_eq _ _ hr]
  cases hf : windows.find? fun w => w.OpenAt (getLondonClock now).dayOfWeek (getLondonClock now).minutes with
  | none => simp [bind, Except.bind, pure, Except.pure]
  | some w =>
    have hopen := List.find?_some hf
    have hday := (of_decide_eq_true hopen).1
    have hopens := hstart w.openMin
    have hcloses := not_congr (hstart w.closeMin)
    rw [not_le] at hcloses
    simp only [Option.map_some, bind, Except.bind, pure, Except.pure, Except.ok.injEq, Option.some.injEq, forall_eq',
      hopens, hcloses, AvailabilityWindow.OpenAt, hday, true_and]
    omega

/-- The instants are exact unless the clocks have been changed since midnight. The window that is found must have been
    open for the hour that was skipped, or stay open for the hour that is repeated. -/
theorem window_instants_exact_iff (hr : ∀ w ∈ windows, w.Readable) (now : ℕ) {dayOffset minute : ℤ}
    (hm : MinuteExists (londonDay now + dayOffset) minute) :
    (FoundHolds windows now ↔ OpenUnchanged windows now) ∧
      (ReadsBack now dayOffset minute ↔ ¬ (ChangeDay (londonDay now + dayOffset) ∧ 120 ≤ minute)) :=
  ⟨foundHolds_iff hr now, minutes_londonDateAtMinute_iff (Int.natCast_nonneg now) hm⟩

/-- 29 March 2026, 01:30 UTC. -/
def springMorning : ℕ := 1774747800000

theorem window_instants_exact_iff_springMorning :
    (FoundHolds [⟨0, "02:15", "04:00"⟩] springMorning ↔ OpenUnchanged [⟨0, "02:15", "04:00"⟩] springMorning) ∧
      (ReadsBack springMorning 0 150 ↔ ¬ (ChangeDay (londonDay springMorning + 0) ∧ 120 ≤ (150 : ℤ))) :=
  window_instants_exact_iff (List.forall_mem_singleton.mpr ⟨by decide, .inl (by decide)⟩) springMorning ⟨springMorning, by decide, by decide⟩

/-- The clock shows 02:30. A window from 02:15 is taken to start at 03:15, and 02:30 to be an hour later. -/
theorem spring_instants_inexact :
    ¬ FoundHolds [⟨0, "02:15", "04:00"⟩] springMorning ∧ ¬ ReadsBack springMorning 0 150 := by
  constructor
  · intro h
    have hfound := h ⟨1774750500000, 1774756800000⟩ (by decide)
    exact absurd hfound.1 (by decide)
  · rw [ReadsBack]
    decide

end Redeemo.VoucherAvailability
