import Redeemo.Insights.Gated

/-! The query string of an insights route. What passes the schema names a window. -/

namespace Redeemo.Insights
open Fallible WallTime

structure Query where
  period : PeriodPreset
  «from» : Option String
  «to» : Option String
  branchId : Option String
  voucherType : Option MerchantVoucherType
  deriving DecidableEq

/-- `/^\d{4}-(0[1-9]|1[0-2])$/`. -/
def YEAR_MONTH_RE (s : String) : Prop :=
  match s.toList with
  | [y1, y2, y3, y4, dash, m1, m2] => y1.isDigit ∧ y2.isDigit ∧ y3.isDigit ∧ y4.isDigit ∧ dash = '-' ∧
      (m1 = '0' ∧ '1' ≤ m2 ∧ m2 ≤ '9' ∨ m1 = '1' ∧ '0' ≤ m2 ∧ m2 ≤ '2')
  | _ => False

instance : DecidablePred YEAR_MONTH_RE := fun s => by
  unfold YEAR_MONTH_RE
  split <;> infer_instance

inductive FilterIssue
  | notYearMonth (path : String)
  | refinement (message : String)
  deriving DecidableEq, Repr

def customIncomplete : FilterIssue := .refinement "A custom period requires both a from and a to month (YYYY-MM)."

def customReversed : FilterIssue :=
  .refinement "A custom period requires the from month to be on or before the to month."

def filterSchema (q : Query) : Except FilterIssue Query := do
  rejectIf (∃ s ∈ q.from, ¬ YEAR_MONTH_RE s) (.notYearMonth "from")
  rejectIf (∃ s ∈ q.to, ¬ YEAR_MONTH_RE s) (.notYearMonth "to")
  rejectIf (q.period = .custom ∧ (q.from = none ∨ q.to = none)) customIncomplete
  rejectIf (q.period = .custom ∧ ∃ a ∈ q.from, ∃ b ∈ q.to, b < a) customReversed
  return q

/-- The range of a custom period. -/
def customRange (q : Query) : Option CustomRange :=
  if q.period = .custom then do return ⟨← q.from, ← q.to⟩ else none

def toFilters (q : Query) (now : ℤ) : InsightsFilters :=
  ⟨q.period, customRange q, q.branchId, q.voucherType, now⟩

/-! ### What passes -/

theorem parseYearMonth_ok {s : String} (h : YEAR_MONTH_RE s) : ∃ ym, parseYearMonth s = .ok ym := by
  unfold YEAR_MONTH_RE at h
  split at h
  · next y1 y2 y3 y4 dash m1 m2 hs =>
    obtain ⟨h1, h2, h3, h4, h5, hm⟩ := h
    have hdigits : m1.isDigit = true ∧ m2.isDigit = true ∧
        ¬ (digitsValue [m1, m2] < 1 ∨ 12 < digitsValue [m1, m2]) := by
      have h0 : '0'.toNat = 48 := rfl
      have h1 : '1'.toNat = 49 := rfl
      have h2 : '2'.toNat = 50 := rfl
      have h9 : '9'.toNat = 57 := rfl
      simp only [isDigit_iff, digitsValue, List.foldl_cons, List.foldl_nil, char_le_iff] at hm ⊢
      rcases hm with ⟨rfl, hm⟩ | ⟨rfl, hm⟩ <;> omega
    obtain ⟨hm1, hm2, hrange⟩ := hdigits
    unfold parseYearMonth
    rw [hs]
    dsimp only
    rw [if_pos ⟨h1, h2, h3, h4, h5, hm1, hm2⟩, if_neg hrange]
    exact ⟨_, rfl⟩
  · exact h.elim

theorem periodWindow_admitted {q p : Query} (h : filterSchema q = .ok p) (now : ℤ) :
    ∃ w, periodWindow p.period now (customRange p) = .ok w ∧
      ∃ c, resolveComparisonWindow p.period now (customRange p) = .ok c := by
  obtain ⟨_, hfrom, h⟩ := bind_ok_iff.mp h
  obtain ⟨_, hto, h⟩ := bind_ok_iff.mp h
  obtain ⟨_, hboth, h⟩ := bind_ok_iff.mp h
  obtain ⟨_, -, h⟩ := bind_ok_iff.mp h
  cases h
  rw [rejectIf_eq_ok] at hfrom hto hboth
  cases hp : q.period with
  | custom =>
    rw [not_and, not_or] at hboth
    obtain ⟨hf, ht⟩ := hboth hp
    obtain ⟨a, ha⟩ := Option.ne_none_iff_exists'.mp hf
    obtain ⟨b, hb⟩ := Option.ne_none_iff_exists'.mp ht
    obtain ⟨ya, hya⟩ := parseYearMonth_ok (not_not.mp fun hn => hfrom ⟨a, ha, hn⟩)
    obtain ⟨yb, hyb⟩ := parseYearMonth_ok (not_not.mp fun hn => hto ⟨b, hb, hn⟩)
    have hrange : customRange q = some ⟨a, b⟩ := by
      rw [customRange, if_pos hp, ha, hb]
      rfl
    have hcomplete : isPeriodComplete .custom now (some ⟨a, b⟩) =
        .ok (decide (yb.abs < (londonYearMonth now).abs)) := by
      simp only [isPeriodComplete, requireCustom, ok_bind, hyb]
      rfl
    obtain ⟨c, hc⟩ : ∃ c, resolveComparisonWindow .custom now (some ⟨a, b⟩) = .ok c := by
      simp only [resolveComparisonWindow, hcomplete, requireCustom, ok_bind, hya, hyb]
      split_ifs
      · exact ⟨_, rfl⟩
      · exact ⟨_, rfl⟩
    rw [hrange]
    refine ⟨?_, ?_, c, hc⟩
    rotate_left
    · simp only [periodWindow, requireCustom, ok_bind, hya, hyb, hc]
      rfl
  | _ => exact ⟨_, rfl, _, rfl⟩

end Redeemo.Insights
