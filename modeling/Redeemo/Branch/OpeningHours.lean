import Redeemo.Lib.Fallible
import Redeemo.Lib.InsertionMap
import Redeemo.Lib.Intervals
import Redeemo.Shared.Errors
import Redeemo.Shared.WallTime

/-! `validateOpeningHours`: the check on a branch's weekly opening hours.

    One pass over the rows checks each of them and files it by day; three more passes compare the
    days. The filing is described once, for all the rows seen so far (`Grouped.Describes`), and the
    passes are then read off the rows themselves: `validateOpeningHours_ok_iff` says what an accepted
    list looks like, day by day. A missing time and a `null` one are the same `none` here: no check
    tells them apart. -/

namespace Redeemo.OpeningHours
open Intervals Fallible WallTime

structure OpeningHoursInput where
  /-- Sunday is 0. -/
  dayOfWeek : ℤ
  openTime : Option String
  closeTime : Option String
  isClosed : Bool
  deriving DecidableEq, Repr

def MINUTES_PER_DAY : ℤ := 1440

def reject {α : Type} (reason : String) : Except AppError α := .error (.OPENING_HOURS_INVALID reason)

/-- Minutes of a checked time; never NaN on one. -/
def toMinutes (time : String) : ℤ :=
  if time = "24:00" then MINUTES_PER_DAY else (hhmm number time).getD 0

structure Grouped where
  closedDays : List ℤ
  openWindowDays : List ℤ
  /-- By day, `[open, sameDayEnd)` of its windows. -/
  sameDayWindows : InsertionMap ℤ (List (Stretch ℤ))
  /-- By day, the latest close after midnight of its overnight windows. -/
  overnightSpills : InsertionMap ℤ ℤ

def noRows : Grouped := ⟨[], [], .empty, .empty⟩

def addToSet (days : List ℤ) (d : ℤ) : List ℤ := if d ∈ days then days else days ++ [d]

def addWindow (g : Grouped) (dayOfWeek openMins closeMins : ℤ) : Grouped :=
  let sameDayEnd := if openMins < closeMins then closeMins else MINUTES_PER_DAY
  { g with
    openWindowDays := addToSet g.openWindowDays dayOfWeek
    sameDayWindows := g.sameDayWindows.push dayOfWeek ⟨openMins, sameDayEnd⟩
    overnightSpills :=
      if closeMins < openMins then
        g.overnightSpills.set dayOfWeek (match g.overnightSpills.get? dayOfWeek with
          | none => closeMins
          | some prev => max prev closeMins)
      else g.overnightSpills }

def checkRow (g : Grouped) (row : OpeningHoursInput) : Except AppError Grouped :=
  if row.dayOfWeek < 0 ∨ 6 < row.dayOfWeek then
    reject s!"dayOfWeek must be an integer in [0, 6] (got {row.dayOfWeek})"
  else if row.isClosed then
    if row.openTime.isSome ∨ row.closeTime.isSome then
      reject s!"dayOfWeek {row.dayOfWeek} is closed but still has openTime/closeTime"
    else if row.dayOfWeek ∈ g.closedDays then
      reject s!"dayOfWeek {row.dayOfWeek} has more than one closed row (a closed day is exactly one isClosed row)"
    else .ok { g with closedDays := addToSet g.closedDays row.dayOfWeek }
  else match row.openTime, row.closeTime with
    | some openTime, some closeTime =>
      if ¬ HHMM_REGEX openTime then
        reject s!"dayOfWeek {row.dayOfWeek} openTime must be HH:MM in [00:00, 23:59] (got \"{openTime}\")"
      else if closeTime ≠ "24:00" ∧ ¬ HHMM_REGEX closeTime then
        reject s!"dayOfWeek {row.dayOfWeek} closeTime must be HH:MM in [00:00, 23:59] or \"24:00\" (got \"{closeTime}\")"
      else if openTime = closeTime then
        reject s!"dayOfWeek {row.dayOfWeek} openTime and closeTime are identical (zero-length window)"
      else .ok (addWindow g row.dayOfWeek (toMinutes openTime) (toMinutes closeTime))
    | _, _ => reject s!"dayOfWeek {row.dayOfWeek} is open but is missing openTime or closeTime"

def checkMixed (g : Grouped) (day : ℤ) : Except AppError Unit :=
  if day ∈ g.openWindowDays then
    reject s!"dayOfWeek {day} mixes a closed (isClosed:true) row with open windows"
  else .ok ()

def checkDay (entry : ℤ × List (Stretch ℤ)) : Except AppError Unit :=
  match firstAdjacent (fun a b => a.Overlaps b) (entry.2.insertionSort fun a b => a.lo ≤ b.lo) with
  | some _ => reject s!"dayOfWeek {entry.1} has overlapping windows"
  | none => .ok ()

def checkSpill (g : Grouped) (entry : ℤ × ℤ) : Except AppError Unit :=
  let nextDay := (entry.1 + 1) % 7
  let spill : Stretch ℤ := ⟨0, entry.2⟩
  checkAll (fun w =>
    if spill.Overlaps w then
      reject s!"dayOfWeek {nextDay} has a window overlapping the overnight spill from dayOfWeek {entry.1} ([00:00, {entry.2} min))"
    else .ok ()) ((g.sameDayWindows.get? nextDay).getD [])

def validateOpeningHours (hours : List OpeningHoursInput) : Except AppError Unit := do
  let g ← foldSteps checkRow noRows hours
  checkAll (checkMixed g) g.closedDays
  checkAll checkDay g.sameDayWindows.entries
  checkAll (checkSpill g) g.overnightSpills.entries

/-! ### Rows -/

namespace OpeningHoursInput

/-- A closed row carries no times; an open row carries an opening time and a different closing
    time, which may be "24:00". -/
structure WellFormed (row : OpeningHoursInput) : Prop where
  day : 0 ≤ row.dayOfWeek ∧ row.dayOfWeek ≤ 6
  closed : row.isClosed = true → row.openTime = none ∧ row.closeTime = none
  opened : row.isClosed = false → ∃ o c, row.openTime = some o ∧ row.closeTime = some c ∧
    HHMM_REGEX o = true ∧ (c = "24:00" ∨ HHMM_REGEX c = true) ∧ o ≠ c

def openMins (row : OpeningHoursInput) : ℤ := (row.openTime.map toMinutes).getD 0
def closeMins (row : OpeningHoursInput) : ℤ := (row.closeTime.map toMinutes).getD 0
def Overnight (row : OpeningHoursInput) : Prop := row.closeMins < row.openMins

/-- The part of the row's window before midnight. -/
def sameDay (row : OpeningHoursInput) : Stretch ℤ :=
  ⟨row.openMins, if row.openMins < row.closeMins then row.closeMins else MINUTES_PER_DAY⟩

instance (row : OpeningHoursInput) : Decidable row.Overnight := inferInstanceAs (Decidable (_ < _))

end OpeningHoursInput

/-- The rows of a day's open windows. -/
def windowsOf (hours : List OpeningHoursInput) (day : ℤ) : List OpeningHoursInput :=
  hours.filter fun r => r.isClosed = false ∧ r.dayOfWeek = day

/-- The latest close of the overnight windows among the rows. -/
def latestSpill (rows : List OpeningHoursInput) : Option ℤ :=
  ((rows.filter fun r => r.Overnight).map (·.closeMins)).max?

theorem toMinutes_regex {s : String} (h : HHMM_REGEX s = true) :
    0 ≤ toMinutes s ∧ toMinutes s < 1440 ∧ hhmm number s = some (toMinutes s) := by
  obtain ⟨n, h0, h1, -, hn⟩ := minutes_of_regex h
  rw [toMinutes, if_neg (regex_ne_endOfDay h), hn]
  exact ⟨h0, h1, rfl⟩

/-- An open row that passes the checks: where its times lie. -/
theorem OpeningHoursInput.WellFormed.minutes {r : OpeningHoursInput} (h : r.WellFormed)
    (hopen : r.isClosed = false) :
    0 ≤ r.openMins ∧ r.openMins < 1440 ∧ 0 ≤ r.closeMins ∧ r.closeMins ≤ 1440 ∧
      r.openMins ≠ r.closeMins := by
  obtain ⟨o, c, ho, hc, hro, hrc, hne⟩ := h.opened hopen
  obtain ⟨h0, h1, hon⟩ := toMinutes_regex hro
  simp only [OpeningHoursInput.openMins, OpeningHoursInput.closeMins, ho, hc, Option.map_some,
    Option.getD_some]
  rcases hrc with rfl | hrc
  · have h24 : toMinutes "24:00" = 1440 := rfl
    rw [h24]
    exact ⟨h0, h1, by omega, le_rfl, by omega⟩
  · obtain ⟨h2, h3, hcn⟩ := toMinutes_regex hrc
    refine ⟨h0, h1, h2, by omega, fun he => hne ?_⟩
    exact regex_injective hro hrc (by rw [hon, hcn, he])

theorem OpeningHoursInput.WellFormed.sameDay_lt {r : OpeningHoursInput} (h : r.WellFormed)
    (hopen : r.isClosed = false) : r.sameDay.lo < r.sameDay.hi := by
  obtain ⟨-, h1, -⟩ := h.minutes hopen
  unfold OpeningHoursInput.sameDay MINUTES_PER_DAY
  dsimp only
  split_ifs with hlt
  · exact hlt
  · exact h1

/-! ### Filing the rows by day -/

/-- What the filing holds once `seen` have been read. -/
structure Grouped.Describes (seen : List OpeningHoursInput) (g : Grouped) : Prop where
  closedDays : ∀ d, d ∈ g.closedDays ↔ ∃ r ∈ seen, r.isClosed = true ∧ r.dayOfWeek = d
  openWindowDays : ∀ d, d ∈ g.openWindowDays ↔ ∃ r ∈ seen, r.isClosed = false ∧ r.dayOfWeek = d
  sameDayWindows : ∀ d, (g.sameDayWindows.get? d).getD [] = (windowsOf seen d).map (·.sameDay)
  overnightSpills : ∀ d, g.overnightSpills.get? d = latestSpill (windowsOf seen d)

theorem noRows_describes : Grouped.Describes [] noRows := by
  refine ⟨?_, ?_, ?_, ?_⟩ <;> simp [noRows, windowsOf, latestSpill]

theorem mem_addToSet {days : List ℤ} {d e : ℤ} : e ∈ addToSet days d ↔ e ∈ days ∨ e = d := by
  rw [addToSet]
  split_ifs with h
  · constructor
    · exact .inl
    · rintro (h' | rfl)
      · exact h'
      · exact h
  · rw [List.mem_append, List.mem_singleton]

/-- What a row that passes its checks does to the filing. -/
def fileRow (g : Grouped) (row : OpeningHoursInput) : Grouped :=
  if row.isClosed then { g with closedDays := addToSet g.closedDays row.dayOfWeek }
  else addWindow g row.dayOfWeek row.openMins row.closeMins

theorem ite_reject_eq_ok {α : Type} {p : Prop} [Decidable p] {reason : String}
    {x : Except AppError α} {b : α} : (if p then reject reason else x) = .ok b ↔ ¬ p ∧ x = .ok b :=
  ite_error_eq_ok

theorem reject_ne_ok {α : Type} {reason : String} {b : α} : reject reason ≠ .ok b := by
  intro h
  cases h

theorem checkRow_ok_iff {g g' : Grouped} {row : OpeningHoursInput} :
    checkRow g row = .ok g' ↔
      row.WellFormed ∧ (row.isClosed = true → row.dayOfWeek ∉ g.closedDays) ∧ g' = fileRow g row := by
  rw [checkRow, ite_reject_eq_ok, not_or, not_lt, not_lt]
  cases hc : row.isClosed with
  | true =>
    simp only [if_true, ite_reject_eq_ok, Except.ok.injEq, not_or, Bool.not_eq_true,
      Option.isSome_eq_false_iff, Option.isNone_iff_eq_none, fileRow, hc]
    constructor
    · rintro ⟨hd, ht, hn, rfl⟩
      exact ⟨⟨hd, fun _ => ht, fun h => by rw [hc] at h; cases h⟩, fun _ => hn, rfl⟩
    · rintro ⟨hw, hn, rfl⟩
      exact ⟨hw.day, hw.closed hc, hn trivial, rfl⟩
  | false =>
    cases ho : row.openTime with
    | none =>
      simp only [reject_ne_ok, Bool.false_eq_true, if_false, and_false, false_iff]
      rintro ⟨hw, -⟩
      obtain ⟨o, c, ho', -⟩ := hw.opened hc
      rw [ho] at ho'
      cases ho'
    | some openTime =>
      cases hcl : row.closeTime with
      | none =>
        simp only [reject_ne_ok, Bool.false_eq_true, if_false, and_false, false_iff]
        rintro ⟨hw, -⟩
        obtain ⟨o, c, -, hc', -⟩ := hw.opened hc
        rw [hcl] at hc'
        cases hc'
      | some closeTime =>
        simp only [Bool.false_eq_true, if_false, ite_reject_eq_ok, Except.ok.injEq, not_not, not_and,
          fileRow, hc, OpeningHoursInput.openMins, OpeningHoursInput.closeMins, ho, hcl,
          Option.map_some, Option.getD_some]
        constructor
        · rintro ⟨hd, hro, hrc, hne, rfl⟩
          refine ⟨⟨hd, fun h => ?_, fun _ => ?_⟩, fun h => ?_, rfl⟩
          · rw [hc] at h
            cases h
          · exact ⟨openTime, closeTime, ho, hcl, hro, by tauto, hne⟩
          · cases h
        · rintro ⟨hw, -, rfl⟩
          obtain ⟨o, c, ho', hc', hro, hrc, hne⟩ := hw.opened hc
          rw [ho] at ho'
          rw [hcl] at hc'
          cases ho'
          cases hc'
          exact ⟨hw.day, hro, by tauto, hne, rfl⟩

theorem exists_mem_concat {α : Type*} {l : List α} {a : α} {P : α → Prop} :
    (∃ r ∈ l ++ [a], P r) ↔ (∃ r ∈ l, P r) ∨ P a := by
  simp only [List.mem_append, List.mem_singleton, or_and_right, exists_or, exists_eq_left]

theorem windowsOf_concat (seen : List OpeningHoursInput) (row : OpeningHoursInput) (d : ℤ) :
    windowsOf (seen ++ [row]) d = windowsOf seen d ++
      if row.isClosed = false ∧ row.dayOfWeek = d then [row] else [] := by
  rw [windowsOf, List.filter_append, ← windowsOf]
  congr 1
  simp only [List.filter_cons, List.filter_nil, decide_eq_true_eq]

theorem latestSpill_concat (rows : List OpeningHoursInput) (row : OpeningHoursInput) :
    latestSpill (rows ++ [row]) = (latestSpill rows).merge max (latestSpill [row]) := by
  simp only [latestSpill, List.filter_append, List.map_append]
  by_cases ho : row.Overnight
  · simp only [List.filter_cons, ho, decide_true, if_true, List.filter_nil, List.map_cons,
      List.map_nil]
    cases (rows.filter fun r => r.Overnight).map (·.closeMins) with
    | nil => rfl
    | cons c cs =>
      rw [List.cons_append, List.max?_cons', List.foldl_append]
      rfl
  · simp [ho]

theorem addWindow_sameDayWindows (g : Grouped) (row : OpeningHoursInput) :
    (addWindow g row.dayOfWeek row.openMins row.closeMins).sameDayWindows
      = g.sameDayWindows.push row.dayOfWeek row.sameDay := rfl

theorem addWindow_closedDays (g : Grouped) (dayOfWeek openMins closeMins : ℤ) :
    (addWindow g dayOfWeek openMins closeMins).closedDays = g.closedDays := rfl

theorem addWindow_openWindowDays (g : Grouped) (dayOfWeek openMins closeMins : ℤ) :
    (addWindow g dayOfWeek openMins closeMins).openWindowDays
      = addToSet g.openWindowDays dayOfWeek := rfl

theorem addWindow_overnightSpills (g : Grouped) (row : OpeningHoursInput) (d : ℤ) :
    (addWindow g row.dayOfWeek row.openMins row.closeMins).overnightSpills.get? d
      = (g.overnightSpills.get? d).merge max
          (if d = row.dayOfWeek then latestSpill [row] else none) := by
  by_cases ho : row.Overnight
  · have hl : latestSpill [row] = some row.closeMins := by simp [latestSpill, ho]
    have hlt : row.closeMins < row.openMins := ho
    simp only [addWindow, if_pos hlt, InsertionMap.get?_set, hl]
    split_ifs with hd
    · rw [hd]
      cases g.overnightSpills.get? row.dayOfWeek <;> rfl
    · simp
  · have hl : latestSpill [row] = none := by simp [latestSpill, ho]
    have hlt : ¬ row.closeMins < row.openMins := ho
    simp only [addWindow, if_neg hlt, hl, ite_self, Option.merge_none_right]

/-- Filing one more row keeps the description. -/
theorem fileRow_describes {seen : List OpeningHoursInput} {g : Grouped} {row : OpeningHoursInput}
    (h : g.Describes seen) : (fileRow g row).Describes (seen ++ [row]) := by
  cases hc : row.isClosed with
  | true =>
    have hsame : ∀ d, windowsOf (seen ++ [row]) d = windowsOf seen d := by
      intro d
      rw [windowsOf_concat, hc]
      simp
    simp only [fileRow, hc, if_true]
    refine ⟨fun d => ?_, fun d => ?_, fun d => ?_, fun d => ?_⟩
    · rw [mem_addToSet, h.closedDays, exists_mem_concat, hc, eq_comm (a := d)]
      simp
    · rw [h.openWindowDays, exists_mem_concat, hc]
      simp
    · rw [hsame]
      exact h.sameDayWindows d
    · rw [hsame]
      exact h.overnightSpills d
  | false =>
    have hday : ∀ d, windowsOf (seen ++ [row]) d = windowsOf seen d ++
        if d = row.dayOfWeek then [row] else [] := by
      intro d
      rw [windowsOf_concat, hc]
      simp only [true_and, eq_comm]
    rw [fileRow, if_neg (by simp [hc])]
    refine ⟨fun d => ?_, fun d => ?_, fun d => ?_, fun d => ?_⟩
    · rw [addWindow_closedDays, h.closedDays, exists_mem_concat, hc]
      simp
    · rw [addWindow_openWindowDays, mem_addToSet, h.openWindowDays, exists_mem_concat, hc,
        eq_comm (a := d)]
      simp
    · rw [addWindow_sameDayWindows, InsertionMap.getD_push, h.sameDayWindows, hday, List.map_append]
      split_ifs
      · rfl
      · rfl
    · rw [addWindow_overnightSpills, h.overnightSpills, hday]
      split_ifs
      · rw [latestSpill_concat]
      · rw [Option.merge_none_right, List.append_nil]

theorem checkRow_describes (seen : List OpeningHoursInput) (g : Grouped) (row : OpeningHoursInput)
    (g' : Grouped) (hd : g.Describes seen) (h : checkRow g row = .ok g') :
    g'.Describes (seen ++ [row]) := by
  obtain ⟨-, -, rfl⟩ := checkRow_ok_iff.mp h
  exact fileRow_describes hd

theorem filing_describes {hours : List OpeningHoursInput} {g : Grouped}
    (h : foldSteps checkRow noRows hours = .ok g) : g.Describes hours :=
  foldSteps_describes checkRow_describes noRows_describes h

/-- When the rows let the filing finish. -/
theorem filing_ok_iff (hours : List OpeningHoursInput) :
    (∃ g, foldSteps checkRow noRows hours = .ok g) ↔ (∀ r ∈ hours, r.WellFormed) ∧
      hours.Pairwise fun a b => b.isClosed = true → a.isClosed = true → a.dayOfWeek ≠ b.dayOfWeek := by
  rw [foldSteps_ok_iff (P := OpeningHoursInput.WellFormed) (D := Grouped.Describes)
    (R := fun a b => b.isClosed = true → a.isClosed = true → a.dayOfWeek ≠ b.dayOfWeek)
    ?_ checkRow_describes noRows_describes]
  · simp
  · intro seen g row hd
    simp only [checkRow_ok_iff, hd.closedDays]
    constructor
    · rintro ⟨g', hw, hn, -⟩
      exact ⟨hw, fun b hb hr hbc he => hn hr ⟨b, hb, hbc, he⟩⟩
    · rintro ⟨hw, hn⟩
      exact ⟨_, hw, fun hr ⟨b, hb, hbc, he⟩ => hn b hb hr hbc he, rfl⟩

/-! ### The checks by day -/

section
variable {hours : List OpeningHoursInput} {g : Grouped}

theorem mem_windowsOf {d : ℤ} {r : OpeningHoursInput} :
    r ∈ windowsOf hours d ↔ r ∈ hours ∧ r.isClosed = false ∧ r.dayOfWeek = d := by
  simp [windowsOf]

theorem mixed_ok_iff (hd : g.Describes hours) : checkAll (checkMixed g) g.closedDays = .ok () ↔
    ∀ a ∈ hours, ∀ b ∈ hours, a.isClosed = true → b.isClosed = false →
      a.dayOfWeek ≠ b.dayOfWeek := by
  simp only [checkAll_eq_ok, checkMixed, ite_reject_eq_ok, and_true, hd.closedDays,
    hd.openWindowDays]
  constructor
  · intro h a ha b hb hac hbc he
    exact h _ ⟨a, ha, hac, rfl⟩ ⟨b, hb, hbc, he.symm⟩
  · rintro h d ⟨a, ha, hac, rfl⟩ ⟨b, hb, hbc, he⟩
    exact h a ha b hb hac hbc he.symm

theorem checkDay_ok_iff {d : ℤ} {rows : List OpeningHoursInput}
    (hlt : ∀ r ∈ rows, r.sameDay.lo < r.sameDay.hi) :
    checkDay (d, rows.map (·.sameDay)) = .ok () ↔
      rows.Pairwise fun a b => ¬ a.sameDay.Overlaps b.sameDay := by
  have hne : ∀ i ∈ rows.map (·.sameDay), (id i).lo < (id i).hi := by
    intro i hi
    obtain ⟨r, hr, rfl⟩ := List.mem_map.mp hi
    exact hlt r hr
  have hsort := firstAdjacent_sort_eq_none_iff hne
  rw [List.pairwise_map] at hsort
  simp only [id] at hsort
  rw [← hsort, checkDay]
  cases firstAdjacent (fun a b : Stretch ℤ => a.Overlaps b)
      ((rows.map (·.sameDay)).insertionSort fun a b => a.lo ≤ b.lo) with
  | none => simp
  | some p => simp [reject_ne_ok]

theorem days_ok_iff (hd : g.Describes hours) (hw : ∀ r ∈ hours, r.WellFormed) :
    checkAll checkDay g.sameDayWindows.entries = .ok () ↔
      ∀ d, (windowsOf hours d).Pairwise fun a b => ¬ a.sameDay.Overlaps b.sameDay := by
  have hlt : ∀ d, ∀ r ∈ windowsOf hours d, r.sameDay.lo < r.sameDay.hi := by
    intro d r hr
    obtain ⟨hm, ho, -⟩ := mem_windowsOf.mp hr
    exact (hw r hm).sameDay_lt ho
  rw [checkAll_eq_ok]
  constructor
  · intro h d
    have hg := hd.sameDayWindows d
    cases he : g.sameDayWindows.get? d with
    | none =>
      -- Nothing is filed under a day without windows.
      rw [he, Option.getD_none, eq_comm, List.map_eq_nil_iff] at hg
      rw [hg]
      exact List.Pairwise.nil
    | some ws =>
      rw [he, Option.getD_some] at hg
      have := h (d, ws) (g.sameDayWindows.mem_entries_iff.mpr he)
      rwa [hg, checkDay_ok_iff (hlt d)] at this
  · rintro h ⟨d, ws⟩ hm
    have hg := hd.sameDayWindows d
    rw [g.sameDayWindows.mem_entries_iff.mp hm, Option.getD_some] at hg
    rw [hg, checkDay_ok_iff (hlt d)]
    exact h d

theorem latestSpill_eq_some_iff {rows : List OpeningHoursInput} {c : ℤ} :
    latestSpill rows = some c ↔ (∃ r ∈ rows, r.Overnight ∧ r.closeMins = c) ∧
      ∀ r ∈ rows, r.Overnight → r.closeMins ≤ c := by
  rw [latestSpill, List.max?_eq_some_iff, List.forall_mem_map]
  simp [and_assoc]

theorem exists_latestSpill {rows : List OpeningHoursInput} {r : OpeningHoursInput} (hr : r ∈ rows)
    (ho : r.Overnight) : ∃ c, latestSpill rows = some c ∧ r.closeMins ≤ c := by
  cases hc : latestSpill rows with
  | none =>
    rw [latestSpill, List.max?_eq_none_iff, List.map_eq_nil_iff, List.filter_eq_nil_iff] at hc
    exact absurd (decide_eq_true ho) (hc r hr)
  | some c => exact ⟨c, rfl, (latestSpill_eq_some_iff.mp hc).2 r hr ho⟩

theorem spills_ok_iff (hd : g.Describes hours) :
    checkAll (checkSpill g) g.overnightSpills.entries = .ok () ↔
      ∀ d, ∀ a ∈ windowsOf hours d, a.Overnight → ∀ w ∈ windowsOf hours ((d + 1) % 7),
        ¬ (Stretch.mk 0 a.closeMins).Overlaps w.sameDay := by
  simp only [checkAll_eq_ok, checkSpill, ite_reject_eq_ok, and_true, hd.sameDayWindows,
    List.forall_mem_map]
  constructor
  · intro h d a ha ho w hw hov
    obtain ⟨c, hc, hle⟩ := exists_latestSpill ha ho
    refine h (d, c) (g.overnightSpills.mem_entries_iff.mpr ((hd.overnightSpills d).trans hc)) w hw ?_
    exact ⟨hov.1, lt_of_lt_of_le hov.2 hle⟩
  · rintro h ⟨d, c⟩ hm w hw hov
    have hc := (hd.overnightSpills d).symm.trans (g.overnightSpills.mem_entries_iff.mp hm)
    obtain ⟨⟨a, ha, ho, rfl⟩, -⟩ := latestSpill_eq_some_iff.mp hc
    exact h d a ha ho w hw hov

end

/-- What an accepted list looks like, day by day. -/
structure ValidHours (hours : List OpeningHoursInput) : Prop where
  rows : ∀ r ∈ hours, r.WellFormed
  oneClosed : hours.Pairwise fun a b => a.isClosed = true → b.isClosed = true →
    a.dayOfWeek ≠ b.dayOfWeek
  notMixed : ∀ a ∈ hours, ∀ b ∈ hours, a.isClosed = true → b.isClosed = false →
    a.dayOfWeek ≠ b.dayOfWeek
  withinDay : ∀ d, (windowsOf hours d).Pairwise fun a b => ¬ a.sameDay.Overlaps b.sameDay
  acrossDays : ∀ d, ∀ a ∈ windowsOf hours d, a.Overnight → ∀ w ∈ windowsOf hours ((d + 1) % 7),
    ¬ (Stretch.mk 0 a.closeMins).Overlaps w.sameDay

theorem validateOpeningHours_ok_iff (hours : List OpeningHoursInput) :
    validateOpeningHours hours = .ok () ↔ ValidHours hours := by
  have hswap : (hours.Pairwise fun a b => b.isClosed = true → a.isClosed = true →
      a.dayOfWeek ≠ b.dayOfWeek) ↔ hours.Pairwise fun a b => a.isClosed = true →
      b.isClosed = true → a.dayOfWeek ≠ b.dayOfWeek :=
    ⟨List.Pairwise.imp fun h ha hb => h hb ha, List.Pairwise.imp fun h hb ha => h ha hb⟩
  have hfile := filing_ok_iff hours
  rw [hswap] at hfile
  simp only [validateOpeningHours, bind_ok_iff]
  constructor
  · rintro ⟨g, hg, ⟨⟩, hm, ⟨⟩, hdays, hsp⟩
    obtain ⟨hw, hone⟩ := hfile.mp ⟨g, hg⟩
    have hd := filing_describes hg
    exact ⟨hw, hone, (mixed_ok_iff hd).mp hm, (days_ok_iff hd hw).mp hdays, (spills_ok_iff hd).mp hsp⟩
  · rintro ⟨hw, hone, hm, hdays, hsp⟩
    obtain ⟨g, hg⟩ := hfile.mpr ⟨hw, hone⟩
    have hd := filing_describes hg
    exact ⟨g, hg, (), (mixed_ok_iff hd).mpr hm, (), (days_ok_iff hd hw).mpr hdays,
      (spills_ok_iff hd).mpr hsp⟩

end Redeemo.OpeningHours
