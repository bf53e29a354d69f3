import Redeemo.Lib.InsertionMap
import Redeemo.Lib.Intervals
import Redeemo.Shared.Errors
import Redeemo.Shared.Schema
import Redeemo.Shared.VoucherAvailability

/-! `validateAvailabilityWindows`: what a merchant may save on a TIME_LIMITED voucher.

    An accepted list has readable, non-empty windows, no two of which share a minute of a day
    (`separate_of_ok`). -/

namespace Redeemo.AvailabilityWindows
open Fallible Intervals WallTime VoucherAvailability

def OPEN_TIME_REGEX (s : String) : Bool := HHMM_REGEX s
def CLOSE_TIME_REGEX (s : String) : Bool := HHMM_REGEX s || s = "24:00"

/-- Minutes of a checked time; never NaN on one. -/
def parseTimeStringToMinutes (s : String) : ℤ :=
  if s = "24:00" then 1440 else (hhmm parseInt s).getD 0

def reject {α : Type} (reason : String) : Except AppError α :=
  .error (.INVALID_AVAILABILITY_WINDOWS reason)

def checkWindow (w : AvailabilityWindow × ℕ) : Except AppError Unit :=
  if ¬ OPEN_TIME_REGEX w.1.openTime then
    reject s!"windows[{w.2}].openTime must be HH:mm in [00:00, 23:59] (got \"{w.1.openTime}\")"
  else if ¬ CLOSE_TIME_REGEX w.1.closeTime then
    reject s!"windows[{w.2}].closeTime must be HH:mm in [00:01, 23:59] OR \"24:00\" (got \"{w.1.closeTime}\")"
  else if w.1.openTime = "24:00" then
    reject s!"windows[{w.2}].openTime cannot be \"24:00\""
  else if parseTimeStringToMinutes w.1.closeTime ≤ parseTimeStringToMinutes w.1.openTime then
    reject s!"windows[{w.2}].closeTime must be after openTime"
  else .ok ()

structure DayRow where
  opens : ℤ
  closes : ℤ
  idx : ℕ

def dayRow (w : AvailabilityWindow × ℕ) : DayRow :=
  ⟨parseTimeStringToMinutes w.1.openTime, parseTimeStringToMinutes w.1.closeTime, w.2⟩

def byDay (windows : List (AvailabilityWindow × ℕ)) : InsertionMap ℤ (List DayRow) :=
  windows.foldl (fun m w => m.push w.1.dayOfWeek (dayRow w)) .empty

def checkDay (entry : ℤ × List DayRow) : Except AppError Unit :=
  match firstAdjacent (fun a b => b.opens < a.closes)
      (entry.2.insertionSort fun a b => a.opens ≤ b.opens) with
  | some (a, b) =>
    reject s!"windows[{b.idx}] overlaps with windows[{a.idx}] on dayOfWeek={entry.1}"
  | none => .ok ()

def validateAvailabilityWindows (type : VoucherType) (windows : Option (List AvailabilityWindow)) :
    Except AppError Unit :=
  match windows.getD [] with
  | [] => .ok ()
  | w :: ws =>
    if type ≠ .TIME_LIMITED then
      reject "availabilityWindows are only valid on TIME_LIMITED vouchers"
    else do
      checkAll checkWindow (w :: ws).zipIdx
      checkAll checkDay (byDay (w :: ws).zipIdx).entries

/-! ### Accepted windows -/

theorem ite_reject_eq_ok {α : Type} {p : Prop} [Decidable p] {reason : String}
    {x : Except AppError α} {b : α} : (if p then reject reason else x) = .ok b ↔ ¬ p ∧ x = .ok b :=
  ite_error_eq_ok

/-- On a readable time the validator and the reader agree on the minutes. -/
theorem parse_eq {w : AvailabilityWindow} (h : w.Readable) :
    parseTimeStringToMinutes w.openTime = w.openMin ∧
      parseTimeStringToMinutes w.closeTime = w.closeMin := by
  have hreg : ∀ s : String, HHMM_REGEX s = true →
      parseTimeStringToMinutes s = (parseTimeString s).toOption.getD 0 := by
    intro s hs
    rw [parseTimeStringToMinutes, parseTimeString, if_neg (regex_ne_endOfDay hs),
      if_neg (regex_ne_endOfDay hs), if_neg (not_not.mpr hs)]
    rfl
  refine ⟨hreg _ h.opened, ?_⟩
  rcases h.closed with hc | hc
  · exact hreg _ hc
  · rw [AvailabilityWindow.closeMin, hc]
    rfl

theorem checkWindow_ok_iff {w : AvailabilityWindow} {i : ℕ} :
    checkWindow (w, i) = .ok () ↔ w.Readable ∧ w.openMin < w.closeMin := by
  simp only [checkWindow, ite_reject_eq_ok, not_not, not_le, and_true, OPEN_TIME_REGEX,
    CLOSE_TIME_REGEX, Bool.or_eq_true, decide_eq_true_eq]
  constructor
  · rintro ⟨ho, hc, -, hlt⟩
    have hr : w.Readable := ⟨ho, hc⟩
    rw [(parse_eq hr).1, (parse_eq hr).2] at hlt
    exact ⟨hr, hlt⟩
  · rintro ⟨hr, hlt⟩
    rw [(parse_eq hr).1, (parse_eq hr).2]
    exact ⟨hr.opened, hr.closed, regex_ne_endOfDay hr.opened, hlt⟩

theorem byDay_append (ws : List (AvailabilityWindow × ℕ)) (m : InsertionMap ℤ (List DayRow)) (d : ℤ) :
    ((ws.foldl (fun m w => m.push w.1.dayOfWeek (dayRow w)) m).get? d).getD []
      = (m.get? d).getD [] ++ (ws.filter fun w => w.1.dayOfWeek = d).map dayRow := by
  induction ws generalizing m with
  | nil => simp
  | cons w ws ih =>
    rw [List.foldl_cons, ih, InsertionMap.getD_push, List.append_assoc]
    congr 1
    by_cases hd : w.1.dayOfWeek = d
    · simp [hd]
    · simp [hd, Ne.symm hd]

/-- The minutes of the day a row takes up. -/
def DayRow.interval (r : DayRow) : Stretch ℤ := ⟨r.opens, r.closes⟩

/-- A day passes when no two of its rows share a minute. -/
theorem pairwise_of_checkDay {d : ℤ} {rows : List DayRow} (hlt : ∀ r ∈ rows, r.opens < r.closes)
    (h : checkDay (d, rows) = .ok ()) :
    rows.Pairwise fun a b => ¬ a.interval.Overlaps b.interval := by
  have hperm := List.perm_insertionSort (fun a b : DayRow => a.opens ≤ b.opens) rows
  have hnone : firstAdjacent (fun a b : DayRow => b.opens < a.closes)
      (rows.insertionSort fun a b => a.opens ≤ b.opens) = none := by
    rw [checkDay] at h
    cases hf : firstAdjacent (fun a b : DayRow => b.opens < a.closes)
        (rows.insertionSort fun a b => a.opens ≤ b.opens) with
    | none => rfl
    | some p =>
      simp only [hf] at h
      cases h
  rw [firstAdjacent_eq_none_iff] at hnone
  have hsymm : ∀ {a b : DayRow}, ¬ a.interval.Overlaps b.interval → ¬ b.interval.Overlaps a.interval :=
    fun h => mt (Stretch.overlaps_comm _ _).mp h
  rw [← hperm.pairwise_iff hsymm]
  refine pairwise_of_isChain (fun r hr => hlt r (hperm.mem_iff.mp hr)) ?_
    (hnone.imp fun a b hab hov => hab hov.2)
  have htot : Std.Total fun a b : DayRow => a.opens ≤ b.opens := ⟨fun a b => le_total _ _⟩
  have htrans : IsTrans DayRow fun a b => a.opens ≤ b.opens := ⟨fun _ _ _ => le_trans⟩
  exact List.pairwise_insertionSort _ rows

theorem exists_mem_zipIdx {α : Type*} {l : List α} {a : α} (h : a ∈ l) : ∃ i, (a, i) ∈ l.zipIdx := by
  obtain ⟨i, hi⟩ := List.mem_iff_getElem?.mp h
  exact ⟨i, List.mk_mem_zipIdx_iff_getElem?.mpr hi⟩

/-- The rows filed under a day, as the day's check sees them. -/
theorem mem_byDay {windows : List (AvailabilityWindow × ℕ)} {w : AvailabilityWindow × ℕ}
    (h : w ∈ windows) : ∃ rows, (w.1.dayOfWeek, rows) ∈ (byDay windows).entries ∧
      rows = (windows.filter fun v => v.1.dayOfWeek = w.1.dayOfWeek).map dayRow := by
  have hget := byDay_append windows .empty w.1.dayOfWeek
  rw [InsertionMap.get?_empty, Option.getD_none, List.nil_append] at hget
  have hin : dayRow w ∈ (windows.filter fun v => v.1.dayOfWeek = w.1.dayOfWeek).map dayRow :=
    List.mem_map_of_mem (List.mem_filter.mpr ⟨h, by simp⟩)
  cases hs : (byDay windows).get? w.1.dayOfWeek with
  | none =>
    rw [← byDay, hs, Option.getD_none] at hget
    rw [← hget] at hin
    cases hin
  | some rows =>
    rw [← byDay, hs, Option.getD_some] at hget
    exact ⟨rows, (InsertionMap.mem_entries_iff _).mpr hs, hget⟩

/-- The windows of an accepted list are readable and not empty, and no two share a minute of a day. -/
theorem separate_of_ok {windows : List AvailabilityWindow}
    (h : validateAvailabilityWindows .TIME_LIMITED (some windows) = .ok ()) :
    (∀ w ∈ windows, w.Readable ∧ w.openMin < w.closeMin) ∧ Separate windows := by
  cases hw : windows with
  | nil => simp [Separate]
  | cons w0 ws0 =>
    rw [← hw]
    have hchecks : checkAll checkWindow windows.zipIdx = .ok () ∧
        checkAll checkDay (byDay windows.zipIdx).entries = .ok () := by
      rw [hw, validateAvailabilityWindows, Option.getD_some, ite_reject_eq_ok] at h
      obtain ⟨⟨⟩, h1, h2⟩ := bind_ok_iff.mp h.2
      rw [hw]
      exact ⟨h1, h2⟩
    rw [checkAll_eq_ok, checkAll_eq_ok] at hchecks
    obtain ⟨hrows, hdays⟩ := hchecks
    have hread : ∀ w ∈ windows, w.Readable ∧ w.openMin < w.closeMin := by
      intro w hwm
      obtain ⟨i, hi⟩ := exists_mem_zipIdx hwm
      exact checkWindow_ok_iff.mp (hrows _ hi)
    refine ⟨hread, fun v hv w hwm d m hov how => ?_⟩
    obtain ⟨i, hi⟩ := exists_mem_zipIdx hv
    obtain ⟨j, hj⟩ := exists_mem_zipIdx hwm
    by_contra hne
    obtain ⟨rows, hent, hrw⟩ := mem_byDay hi
    have hlt : ∀ r ∈ rows, r.opens < r.closes := by
      intro r hr
      rw [hrw] at hr
      obtain ⟨⟨u, k⟩, hu, rfl⟩ := List.mem_map.mp hr
      have hum := List.fst_mem_of_mem_zipIdx (List.mem_filter.mp hu).1
      obtain ⟨hru, hlu⟩ := hread u hum
      rw [dayRow, (parse_eq hru).1, (parse_eq hru).2]
      exact hlu
    have hpair := pairwise_of_checkDay hlt (hdays _ hent)
    have hsymm : Std.Symm fun a b : DayRow => ¬ a.interval.Overlaps b.interval :=
      ⟨fun a b h => mt (Stretch.overlaps_comm _ _).mp h⟩
    -- Both windows are filed under the same day, at different places of the list.
    have hmem : ∀ u k, (u, k) ∈ windows.zipIdx → u.dayOfWeek = v.dayOfWeek → dayRow (u, k) ∈ rows := by
      intro u k hu hd
      rw [hrw]
      exact List.mem_map_of_mem (List.mem_filter.mpr ⟨hu, by simp [hd]⟩)
    have hdiff : dayRow (v, i) ≠ dayRow (w, j) := by
      intro he
      have hij : i = j := congrArg DayRow.idx he
      rw [List.mk_mem_zipIdx_iff_getElem?] at hi hj
      rw [hij, hj] at hi
      exact hne (Option.some.inj hi).symm
    refine hpair.forall (hmem v i hi rfl) (hmem w j hj (how.1.trans hov.1.symm)) hdiff ?_
    obtain ⟨hrv, -⟩ := hread v hv
    obtain ⟨hrwm, -⟩ := hread w hwm
    simp only [DayRow.interval, dayRow, (parse_eq hrv).1, (parse_eq hrv).2, (parse_eq hrwm).1,
      (parse_eq hrwm).2]
    exact ⟨lt_of_le_of_lt hov.2.1 how.2.2, lt_of_le_of_lt how.2.1 hov.2.2⟩

/-- A Sunday that ends at midnight and a Monday that starts there are accepted. -/
example : validateAvailabilityWindows .TIME_LIMITED
    (some [⟨0, "23:30", "24:00"⟩, ⟨1, "00:00", "01:00"⟩]) = .ok () := by decide

end Redeemo.AvailabilityWindows
