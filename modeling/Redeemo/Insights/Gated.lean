import Mathlib.Order.WithBot
import Redeemo.Insights.Service

/-! The paths behind the gate: the export of single redemptions, new and returning customers, the repeat rate. With the
    gate closed they are not available and nothing is read. -/

namespace Redeemo.Insights
open Bags Dates London

/-- `none` is `{ available: false }`. -/
abbrev Available (α : Type) := Option α

/-! ### Export -/

def INSIGHTS_EXPORT_CAP : ℕ := 50000

inductive ExportStatus
  | Confirmed | Awaiting
  deriving DecidableEq, Repr

structure InsightsExportRow where
  /-- A day number, shown as a date. -/
  redeemedDate : ℤ
  /-- Seconds since midnight, shown as a time. -/
  redeemedTime : ℤ
  voucherTitle : String
  branchName : String
  type7 : MerchantVoucherType
  estimatedSaving : ℚ
  status : ExportStatus
  validationMethod : Option ValidationMethod
  deriving DecidableEq

structure InsightsExport where
  rows : List InsightsExportRow
  truncated : Bool
  deriving DecidableEq

/-- The latest first, then by id: the primary key, so the other columns never decide. -/
abbrev ExportColumns :=
  ℤᵒᵈ ×ₗ String ×ₗ String ×ₗ String ×ₗ VoucherType ×ₗ ℚ ×ₗ Bool ×ₗ WithBot ValidationMethod

def exportColumns (row : VoucherRow) : ExportColumns :=
  toLex (OrderDual.toDual row.r.redeemedAt, toLex (row.r.id, toLex (row.v.title, toLex (row.b.name,
    toLex (row.v.type, toLex (row.r.estimatedSaving, toLex (row.r.isValidated, row.r.validationMethod)))))))

def exportRow (columns : ExportColumns) : InsightsExportRow :=
  let (redeemedAt, rest) := ofLex columns
  let (_, rest) := ofLex rest
  let (title, rest) := ofLex rest
  let (name, rest) := ofLex rest
  let (type, rest) := ofLex rest
  let (est, rest) := ofLex rest
  let (isValidated, method) := ofLex rest
  { redeemedDate := londonDay (OrderDual.ofDual redeemedAt)
    redeemedTime := londonWall (OrderDual.ofDual redeemedAt) % msPerDay / 1000
    voucherTitle := title
    branchName := name
    type7 := dbTypeToType7 type
    estimatedSaving := est
    status := if isValidated then .Confirmed else .Awaiting
    -- Only a confirmed row shows its method.
    validationMethod := if isValidated then method else none }

section
variable (env : Env) (db : Database) (ctx : MerchantContext) (filters : InsightsFilters)

/-- One row more than the cap is fetched, to see that there are more. -/
def getInsightsExport (cap : ℕ) : Except String (Available InsightsExport) := do
  if ¬ behaviouralGateOpen env then return none
  let win ← periodWindow filters.period filters.now filters.custom
  let rows := ((windowRows env db ctx filters win.startUtc win.endUtc).map exportColumns).sort.take (cap + 1)
  return some {
    rows := (if cap < rows.length then rows.take cap else rows).map exportRow
    truncated := cap < rows.length }

/-! ### New and returning -/

def distinctCohortCount (startUtc : Option ℤ) (endUtc : ℤ) : ℕ :=
  Multiset.card (keys Redemption.userId (redemptionsOf (windowRows env db ctx filters startUtc endUtc)))

/-- Customers of the window who redeemed before it too, in the same scope, a voucher of any type. -/
def returningCohortCount (startUtc : Option ℤ) (endUtc : ℤ) : ℕ :=
  match startUtc with
  | none => 0
  | some start =>
    let cohort := keys Redemption.userId (redemptionsOf (windowRows env db ctx filters (some start) endUtc))
    let prior := keys Redemption.userId (redemptionsOf (eligibleFrom db ctx.merchantId
      (effectiveScope ctx filters.branchId) none start none (demoIncludeMerchantId env ctx.merchantId)))
    Multiset.card (cohort.filter fun uid => uid ∈ prior)

structure NewVsReturning where
  newCount : ℕ
  returningCount : ℕ
  total : ℕ
  deriving DecidableEq

/-- `Math.max(0, total - returningCount)` is the difference of naturals. -/
def getNewVsReturning : Except String (Available NewVsReturning) := do
  if ¬ behaviouralGateOpen env then return none
  let win ← periodWindow filters.period filters.now filters.custom
  let total := distinctCohortCount env db ctx filters win.startUtc win.endUtc
  let returningCount := returningCohortCount env db ctx filters win.startUtc win.endUtc
  return some ⟨total - returningCount, returningCount, total⟩

structure RepeatRate where
  value : Option ℚ
  insufficient : Bool
  comparison : Option Comparison
  deriving DecidableEq

def insufficientCohort : RepeatRate := ⟨none, true, none⟩

/-- The share of returning customers in per cent, to one decimal. -/
def ratePct (returningCount total : ℕ) : ℚ := mathRound (returningCount / total * 1000) / 10

def getRepeatRate : Except String (Available RepeatRate) := do
  if ¬ behaviouralGateOpen env then return none
  let win ← periodWindow filters.period filters.now filters.custom
  let total := distinctCohortCount env db ctx filters win.startUtc win.endUtc
  match repeatRateMinCohort env with
  | none => return some insufficientCohort
  | some minCohort =>
    if total < minCohort then return some insufficientCohort
    let value := ratePct (returningCohortCount env db ctx filters win.startUtc win.endUtc) total
    let cmpWin ← resolveComparisonWindow filters.period filters.now filters.custom
    let comparison := cmpWin.bind fun w =>
      let cmpTotal := distinctCohortCount env db ctx filters (some w.1) w.2
      -- Too few to compare with is not a rate of zero.
      if minCohort ≤ cmpTotal then
        let cmpReturning := returningCohortCount env db ctx filters (some w.1) w.2
        some (buildComparison value (ratePct cmpReturning cmpTotal) filters.period)
      else none
    return some ⟨some value, false, comparison⟩

end

end Redeemo.Insights
