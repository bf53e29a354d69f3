import Redeemo.Admin.Leads
import Redeemo.Shared.Dates

/-! How long the contact details of a lead are kept.

    The sweep takes the leads whose last activity lies before `leadStaleCutoff`: the same day six months earlier. The
    month six months earlier need not have that day, and the date then carries over into the month after it. -/

namespace Redeemo.Leads
open Calendar Dates

/-- `date.setMonth(month)`, of a clock in UTC: a day that the month lacks carries over. -/
def setMonth (t month : ℤ) : ℤ :=
  (monthStart (12 * getUTCFullYear t + month) + (getUTCDate t - 1)) * msPerDay + t % msPerDay

def LEAD_ANONYMISE_STALE_MONTHS : ℤ := 6

def LEAD_ANONYMISE_BATCH : ℕ := 200

def leadStaleCutoff (dbNow : ℤ) : ℤ := setMonth dbNow (getUTCMonth dbNow - LEAD_ANONYMISE_STALE_MONTHS)

structure LeadRecord where
  id : String
  lead : Lead

def LeadRecord.row (r : LeadRecord) : AnonymiseLeadRow := ⟨r.lead.stage, r.lead.lastActivityAt⟩

structure LeadAnonymiseScan where
  full : Bool
  rows : List LeadRecord
  dbNow : ℤ

def leadAnonymiseDbPhase (leads : List LeadRecord) (dbNow : ℤ) : LeadAnonymiseScan :=
  let eligible := leads.filter fun r => r.lead.anonymisedAt = none ∧ r.lead.convertedMerchantId = none ∧
    r.lead.lastActivityAt < leadStaleCutoff dbNow
  let ordered := eligible.mergeSort fun a b => a.lead.lastActivityAt < b.lead.lastActivityAt ∨
    a.lead.lastActivityAt = b.lead.lastActivityAt ∧ a.id ≤ b.id
  let rows := ordered.take LEAD_ANONYMISE_BATCH
  ⟨LEAD_ANONYMISE_BATCH ≤ rows.length, rows, dbNow⟩

/-! ### Six months -/

/-- The same clock time on the same day `n` months earlier, or on the last day of that month. -/
def monthsBefore (n t : ℤ) : ℤ :=
  (monthStart (monthOf (day t) - n) + (min (dayOf (day t)) (monthLen (monthOf (day t) - n)) - 1)) * msPerDay +
    t % msPerDay

theorem leadStaleCutoff_eq (dbNow : ℤ) : leadStaleCutoff dbNow =
    (monthStart (monthOf (day dbNow) - 6) + (dayOf (day dbNow) - 1)) * msPerDay + dbNow % msPerDay := by
  have hmonth := year_month dbNow
  rw [leadStaleCutoff, setMonth, LEAD_ANONYMISE_STALE_MONTHS, getUTCDate, ← hmonth, add_sub_assoc]

/-- The month six months earlier has the day. -/
def DayExists (dbNow : ℤ) : Prop := dayOf (day dbNow) ≤ monthLen (monthOf (day dbNow) - 6)

/-- The cutoff is as early as it should be where the month has the day, and nowhere else. -/
theorem cutoff_le_iff (dbNow : ℤ) : leadStaleCutoff dbNow ≤ monthsBefore 6 dbNow ↔ DayExists dbNow := by
  rw [leadStaleCutoff_eq, monthsBefore, DayExists]
  simp only [msPerDay]
  omega

theorem dayOf_le_of_sameMonth {m n : ℤ} (h : m ≤ n) (hmonth : monthOf m = monthOf n) : dayOf m ≤ dayOf n := by
  have hm := monthStart_add_dayOf m
  have hn := monthStart_add_dayOf n
  rw [hmonth] at hm
  omega

theorem cutoff_lt_month (t : ℤ) (h : DayExists t) : leadStaleCutoff t < monthStart (monthOf (day t) - 6 + 1) * msPerDay := by
  have hsucc := monthStart_succ (monthOf (day t) - 6)
  rw [DayExists] at h
  rw [leadStaleCutoff_eq, hsucc]
  simp only [msPerDay]
  omega

theorem month_le_cutoff (t : ℤ) : monthStart (monthOf (day t) - 6) * msPerDay ≤ leadStaleCutoff t := by
  have hday := (dayOf_bounds (day t)).1
  rw [leadStaleCutoff_eq]
  simp only [msPerDay]
  omega

/-- Within a month the cutoff moves along; and a month that has the day is over before the next begins. -/
theorem cutoff_mono {s t : ℤ} (hday : DayExists s) (h : s ≤ t) : leadStaleCutoff s ≤ leadStaleCutoff t := by
  have hle : day s ≤ day t := Int.ediv_le_ediv (by decide) h
  rcases (monthOf_mono hle).lt_or_eq with hlt | hsame
  · have hnext : monthStart (monthOf (day s) - 6 + 1) ≤ monthStart (monthOf (day t) - 6) := monthStart_mono (by omega)
    calc leadStaleCutoff s
        ≤ monthStart (monthOf (day s) - 6 + 1) * msPerDay := (cutoff_lt_month s hday).le
      _ ≤ monthStart (monthOf (day t) - 6) * msPerDay := by
        simp only [msPerDay]
        omega
      _ ≤ leadStaleCutoff t := month_le_cutoff t
  · have hdate := dayOf_le_of_sameMonth hle hsame
    have hs := monthStart_add_dayOf (day s)
    have ht := monthStart_add_dayOf (day t)
    rw [← hsame] at ht
    rw [leadStaleCutoff_eq, leadStaleCutoff_eq, ← hsame]
    simp only [day, msPerDay] at *
    omega

/-! ### The sweep -/

theorem mem_scan {leads : List LeadRecord} {dbNow : ℤ} {r : LeadRecord}
    (h : r ∈ (leadAnonymiseDbPhase leads dbNow).rows) : r.lead.lastActivityAt < leadStaleCutoff dbNow := by
  have hmem := List.mem_of_mem_take h
  rw [List.mem_mergeSort, List.mem_filter, decide_eq_true_iff] at hmem
  exact hmem.2.2.2

/-- At this clock the cutoff is behind no later one and at most six months back, and a lead that is anonymised on a
    row of the scan has been at rest for more than six full months. -/
structure Retains (dbNow : ℤ) : Prop where
  mono : ∀ later, dbNow ≤ later → leadStaleCutoff dbNow ≤ leadStaleCutoff later
  sixMonths : leadStaleCutoff dbNow ≤ monthsBefore 6 dbNow
  kept : ∀ leads, ∀ r ∈ (leadAnonymiseDbPhase leads dbNow).rows, ∀ l, r.row.Matches l →
    l.lastActivityAt < monthsBefore 6 dbNow

theorem retains_iff (dbNow : ℤ) : Retains dbNow ↔ DayExists dbNow := by
  constructor
  · intro h
    exact (cutoff_le_iff dbNow).mp h.sixMonths
  · intro hday
    have hle := (cutoff_le_iff dbNow).mpr hday
    refine ⟨fun later => cutoff_mono hday, hle, fun leads r hr l hmatches => ?_⟩
    calc l.lastActivityAt = r.lead.lastActivityAt := hmatches.2.2.1
      _ < leadStaleCutoff dbNow := mem_scan hr
      _ ≤ monthsBefore 6 dbNow := hle

/-- 31 August 2026 at noon: the cutoff is noon on 3 March, and not on 28 February. -/
theorem august_not_retains : leadStaleCutoff 1788177600000 = 1772539200000 ∧
    monthsBefore 6 1788177600000 = 1772280000000 ∧ ¬ Retains 1788177600000 := by
  refine ⟨by decide, by decide, fun h => ?_⟩
  exact absurd ((retains_iff 1788177600000).mp h) (by unfold DayExists; decide)

end Redeemo.Leads
