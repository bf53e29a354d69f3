import Mathlib.Data.Rat.Floor
import Mathlib.Data.List.Sort
import Mathlib.Data.String.Basic
import Redeemo.Insights.Eligibility
import Redeemo.Lib.InsertionMap

/-! The insights figures. Each path has queries of its own, on the eligible rows of one window. -/

namespace Redeemo.Insights
open Bags Calendar Dates London

inductive MerchantVoucherType
  | BOGO | SPEND_AND_SAVE | DISCOUNT | FREEBIE | PACKAGE_DEAL | TIME_LIMITED | REUSABLE
  deriving DecidableEq, Repr

def TYPE7_TO_DB : MerchantVoucherType → List VoucherType
  | .BOGO => [.BOGO]
  | .SPEND_AND_SAVE => [.SPEND_AND_SAVE]
  | .DISCOUNT => [.DISCOUNT_FIXED, .DISCOUNT_PERCENT]
  | .FREEBIE => [.FREEBIE]
  | .PACKAGE_DEAL => [.PACKAGE_DEAL]
  | .TIME_LIMITED => [.TIME_LIMITED]
  | .REUSABLE => [.REUSABLE]

def dbTypeToType7 : VoucherType → MerchantVoucherType
  | .BOGO => .BOGO
  | .SPEND_AND_SAVE => .SPEND_AND_SAVE
  | .DISCOUNT_FIXED | .DISCOUNT_PERCENT => .DISCOUNT
  | .FREEBIE => .FREEBIE
  | .PACKAGE_DEAL => .PACKAGE_DEAL
  | .TIME_LIMITED => .TIME_LIMITED
  | .REUSABLE => .REUSABLE

structure InsightsFilters where
  period : PeriodPreset
  custom : Option CustomRange
  branchId : Option String
  voucherType : Option MerchantVoucherType
  now : ℤ

/-! ### The eligible rows of a window -/

def windowSql (startUtc : Option ℤ) (endUtc redeemedAt : ℤ) : Prop :=
  (∀ start ∈ startUtc, start ≤ redeemedAt) ∧ redeemedAt < endUtc

instance (startUtc : Option ℤ) (endUtc redeemedAt : ℤ) : Decidable (windowSql startUtc endUtc redeemedAt) :=
  inferInstanceAs (Decidable ((∀ start ∈ startUtc, start ≤ redeemedAt) ∧ redeemedAt < endUtc))

def voucherTypeSql (voucherType : Option MerchantVoucherType) (dbType : VoucherType) : Prop :=
  ∀ type7 ∈ voucherType, dbType ∈ TYPE7_TO_DB type7

instance (voucherType : Option MerchantVoucherType) (dbType : VoucherType) :
    Decidable (voucherTypeSql voucherType dbType) :=
  inferInstanceAs (Decidable (∀ type7 ∈ voucherType, dbType ∈ TYPE7_TO_DB type7))

/-- The rows in scope, at any time. -/
def eligibleEver (db : Database) (merchantId : String) (scope : InsightsBranchScope)
    (voucherType : Option MerchantVoucherType) (includeTest : Option String) : Multiset VoucherRow :=
  db.voucherRows.filter fun row =>
    EligibilityWhere merchantId scope includeTest row.toRow ∧ voucherTypeSql voucherType row.v.type

def eligibleFrom (db : Database) (merchantId : String) (scope : InsightsBranchScope) (startUtc : Option ℤ) (endUtc : ℤ)
    (voucherType : Option MerchantVoucherType) (includeTest : Option String) : Multiset VoucherRow :=
  db.voucherRows.filter fun row => EligibilityWhere merchantId scope includeTest row.toRow ∧
    windowSql startUtc endUtc row.r.redeemedAt ∧ voucherTypeSql voucherType row.v.type

/-- A month, shown as its first day. -/
structure MonthLabel where
  year : ℤ
  /-- From 1. -/
  month : ℤ
  deriving DecidableEq, Repr

/-- `DATE_TRUNC('month', ..)` of the London wall clock. -/
def monthBucket (redeemedAt : ℤ) : ℤ := monthStart (monthOf (day (londonWall redeemedAt))) * msPerDay

def monthLabel (bucket : ℤ) : MonthLabel := ⟨getUTCFullYear bucket, getUTCMonth bucket + 1⟩

/-! ### Comparison -/

/-- `Math.round`: a half goes up. -/
def mathRound (x : ℚ) : ℤ := ⌊x + 1 / 2⌋

structure Comparison where
  cur : ℚ
  prev : ℚ
  /-- To one decimal. -/
  pct : Option ℚ
  label : PeriodPreset
  deriving DecidableEq

def buildComparison (cur prev : ℚ) (label : PeriodPreset) : Comparison :=
  ⟨cur, prev, if prev = 0 then none else some (mathRound ((cur - prev) / prev * 1000) / 10), label⟩

/-- A share of a total in per cent, to one decimal. -/
def sharePct (n total : ℕ) : ℚ := if total = 0 then 0 else mathRound (n / total * 1000) / 10

/-! ### Overview -/

structure Totals where
  logged : ℕ
  confirmed : ℕ
  distinct : ℕ
  est_logged : ℚ
  est_confirmed : ℚ
  deriving DecidableEq

def totals (s : Multiset Redemption) : Totals where
  logged := Multiset.card s
  confirmed := s.countP fun r => r.isValidated = true
  distinct := Multiset.card (keys Redemption.userId s)
  est_logged := (s.map Redemption.estimatedSaving).sum
  est_confirmed := ((s.filter fun r => r.isValidated = true).map Redemption.estimatedSaving).sum

/-- The redemptions of a query's rows. -/
def redemptionsOf (rows : Multiset VoucherRow) : Multiset Redemption := rows.map fun row => row.r

structure RedemptionActivity where
  logged : ℕ
  confirmed : ℕ
  awaiting : ℤ
  comparison : Option Comparison
  deriving DecidableEq

structure DistinctCustomers where
  logged : ℕ
  comparison : Option Comparison
  deriving DecidableEq

structure Savings where
  estimatedLogged : ℚ
  estimatedConfirmed : ℚ
  awaiting : ℚ
  comparison : Option Comparison
  deriving DecidableEq

structure FiltersEcho where
  period : PeriodPreset
  branchId : Option String
  voucherType : Option MerchantVoucherType
  «from» : Option String
  «to» : Option String
  deriving DecidableEq

structure OverviewResult where
  redemptionActivity : RedemptionActivity
  distinctCustomers : DistinctCustomers
  savings : Savings
  scopeLabel : String
  earliestDate : Option ℤ
  filtersEcho : FiltersEcho
  deriving DecidableEq

def scopeLabel (ctx : MerchantContext) (branchId : Option String) : String :=
  if ∃ id ∈ branchId, id ≠ "" then "Viewing: selected branch"
  else if ∃ ids ∈ insightsScope ctx, ids.length = 1 then "Viewing: selected branch"
  else if ctx.role = .OWNER then "All branches" else "All my branches"

section
variable (env : Env) (db : Database) (ctx : MerchantContext) (filters : InsightsFilters)

/-- The query of a path on one window: the same scope, type and carve-out in all of them. -/
def windowRows (startUtc : Option ℤ) (endUtc : ℤ) : Multiset VoucherRow :=
  eligibleFrom db ctx.merchantId (effectiveScope ctx filters.branchId) startUtc endUtc filters.voucherType
    (demoIncludeMerchantId env ctx.merchantId)

def getOverview : Except String OverviewResult := do
  let win ← periodWindow filters.period filters.now filters.custom
  let main := totals (redemptionsOf (windowRows env db ctx filters win.startUtc win.endUtc))
  let cmpWin ← resolveComparisonWindow filters.period filters.now filters.custom
  let prev := cmpWin.map fun w => totals (redemptionsOf (windowRows env db ctx filters (some w.1) w.2))
  let ever := eligibleEver db ctx.merchantId (effectiveScope ctx filters.branchId) filters.voucherType
    (demoIncludeMerchantId env ctx.merchantId)
  return {
    redemptionActivity := {
      logged := main.logged
      confirmed := main.confirmed
      awaiting := main.logged - main.confirmed
      comparison := prev.map fun p => buildComparison main.logged p.logged filters.period }
    distinctCustomers := {
      logged := main.distinct
      comparison := prev.map fun p => buildComparison main.distinct p.distinct filters.period }
    savings := {
      estimatedLogged := main.est_logged
      estimatedConfirmed := main.est_confirmed
      awaiting := mathRound ((main.est_logged - main.est_confirmed) * 100) / 100
      comparison := prev.map fun p => buildComparison main.est_logged p.est_logged filters.period }
    scopeLabel := scopeLabel ctx filters.branchId
    earliestDate := (ascending Redemption.redeemedAt (redemptionsOf ever)).head?
    filtersEcho := {
      period := filters.period
      branchId := filters.branchId
      voucherType := filters.voucherType
      «from» := filters.custom.map CustomRange.from
      «to» := filters.custom.map CustomRange.to } }

/-! ### Trend -/

structure TrendMonth where
  monthStartLondon : MonthLabel
  logged : ℕ
  confirmed : ℕ
  deriving DecidableEq

/-- One row for each month with a redemption. -/
def trendMonths (s : Multiset Redemption) : List TrendMonth :=
  let key := fun r : Redemption => monthBucket r.redeemedAt
  (ascending key s).map fun bucket => {
    monthStartLondon := monthLabel bucket
    logged := Multiset.card (members key s bucket)
    confirmed := (members key s bucket).countP fun r => r.isValidated = true }

def getTrend : Except String (List TrendMonth) := do
  let win ← periodWindow filters.period filters.now filters.custom
  return trendMonths (redemptionsOf (windowRows env db ctx filters win.startUtc win.endUtc))

/-! ### Vouchers -/

structure TopVoucher where
  voucherId : String
  title : String
  type7 : MerchantVoucherType
  logged : ℕ
  confirmed : ℕ
  estimatedLogged : ℚ
  estimatedConfirmed : ℚ
  deriving DecidableEq

structure TypeShare where
  type7 : MerchantVoucherType
  logged : ℕ
  sharePct : ℚ
  deriving DecidableEq

structure VouchersResult where
  top : List TopVoucher
  byType : List TypeShare
  deriving DecidableEq

def VOUCHERS_TOP_TAKE : ℕ := 20

/-- The id first: it is the primary key, the others never decide. -/
def voucherKey (row : VoucherRow) : String ×ₗ String ×ₗ VoucherType :=
  toLex (row.r.voucherId, toLex (row.v.title, row.v.type))

def topVoucher (rows : Multiset VoucherRow) (key : String ×ₗ String ×ₗ VoucherType) : TopVoucher :=
  let t := totals (redemptionsOf (members voucherKey rows key))
  { voucherId := (ofLex key).1
    title := (ofLex (ofLex key).2).1
    type7 := dbTypeToType7 (ofLex (ofLex key).2).2
    logged := t.logged
    confirmed := t.confirmed
    estimatedLogged := t.est_logged
    estimatedConfirmed := t.est_confirmed }

/-- `byTypeMap.set(t7, (byTypeMap.get(t7) ?? 0) + n)`. -/
def addCount (map : InsertionMap MerchantVoucherType ℕ) (row : VoucherType × ℕ) :
    InsertionMap MerchantVoucherType ℕ :=
  map.set (dbTypeToType7 row.1) ((map.get? (dbTypeToType7 row.1)).getD 0 + row.2)

def typeLabel : MerchantVoucherType → String
  | .BOGO => "BOGO"
  | .SPEND_AND_SAVE => "SPEND_AND_SAVE"
  | .DISCOUNT => "DISCOUNT"
  | .FREEBIE => "FREEBIE"
  | .PACKAGE_DEAL => "PACKAGE_DEAL"
  | .TIME_LIMITED => "TIME_LIMITED"
  | .REUSABLE => "REUSABLE"

/-- The most first, then by label. -/
def typeShareKey (share : TypeShare) : ℕᵒᵈ ×ₗ String := toLex (OrderDual.toDual share.logged, typeLabel share.type7)

def byTypeOrder (a b : TypeShare) : Prop := typeShareKey a ≤ typeShareKey b

instance : DecidableRel byTypeOrder := fun a b => inferInstanceAs (Decidable (typeShareKey a ≤ typeShareKey b))

def byType (typeRows : List (VoucherType × ℕ)) : List TypeShare :=
  let byTypeMap := typeRows.foldl addCount .empty
  let totalLogged := (typeRows.map Prod.snd).sum
  (byTypeMap.entries.map fun e => ⟨e.1, e.2, sharePct e.2 totalLogged⟩).insertionSort byTypeOrder

/-- The groups of a query without `ORDER BY`, with their counts. -/
def countedGroups {α κ : Type} [LinearOrder κ] (key : α → κ) (s : Multiset α) : List (κ × ℕ) :=
  (db.order.list (keys key s)).map fun k => (k, Multiset.card (members key s k))

def getVouchers : Except String VouchersResult := do
  let win ← periodWindow filters.period filters.now filters.custom
  let rows := windowRows env db ctx filters win.startUtc win.endUtc
  return {
    top := ((ranking voucherKey rows).take VOUCHERS_TOP_TAKE).map (topVoucher rows)
    byType := byType (countedGroups db (fun row => row.v.type) rows) }

/-! ### Branches -/

structure BranchRow where
  branchId : String
  name : String
  logged : ℕ
  confirmed : ℕ
  estimatedLogged : ℚ
  estimatedConfirmed : ℚ
  deriving DecidableEq

/-- The id first: it is the primary key, the name never decides. -/
def branchKey (row : Row) : String ×ₗ String := toLex (row.r.branchId, row.b.name)

def branchRow (rows : Multiset Row) (key : String ×ₗ String) : BranchRow :=
  let t := totals ((members branchKey rows key).map Row.r)
  { branchId := (ofLex key).1
    name := (ofLex key).2
    logged := t.logged
    confirmed := t.confirmed
    estimatedLogged := t.est_logged
    estimatedConfirmed := t.est_confirmed }

def branchRows (rows : Multiset Row) : List BranchRow := (ranking branchKey rows).map (branchRow rows)

def getBranches : Except String (List BranchRow) := do
  let win ← periodWindow filters.period filters.now filters.custom
  return branchRows ((windowRows env db ctx filters win.startUtc win.endUtc).map VoucherRow.toRow)

/-! ### Busy times -/

/-- Monday is 0. -/
def londonDow (redeemedAt : ℤ) : ℤ := (weekday (day (londonWall redeemedAt)) + 6) % 7

def londonHour (redeemedAt : ℤ) : ℤ := londonWall redeemedAt % msPerDay / msPerHour

/-- The last part of the day is the `ELSE`. -/
def daypartCaseSql (hour : ℤ) : ℤ := DAYPARTS.dropLast.findIdx fun d => hour < d.endHour

def DOW_COUNT : ℕ := 7
def DAYPART_COUNT : ℕ := DAYPARTS.length

/-- A third of the peak, two thirds, or more. -/
def intensityBand (count peak : ℕ) : ℕ :=
  if count = 0 ∨ peak = 0 then 0
  else if (2 / 3 : ℚ) < count / peak then 3
  else if (1 / 3 : ℚ) < count / peak then 2
  else 1

structure Cells where
  counts : ℤ → ℤ → ℕ
  peakCount : ℕ
  peakCell : Option (ℤ × ℤ)

def countCell (g : Cells) (row : (ℤ ×ₗ ℤ) × ℕ) : Cells :=
  let (d, p) := ofLex row.1
  if d < 0 ∨ DOW_COUNT ≤ d ∨ p < 0 ∨ DAYPART_COUNT ≤ p then g
  else
    { counts := fun d' p' => if d' = d ∧ p' = p then row.2 else g.counts d' p'
      peakCount := max g.peakCount row.2
      peakCell := if g.peakCount < row.2 then some (d, p) else g.peakCell }

structure BusyCell where
  day : ℕ
  daypart : ℕ
  intensity : ℕ
  deriving DecidableEq

structure BusyTimesResult where
  grid : List BusyCell
  busiest : Option (ℤ × ℤ)
  deriving DecidableEq

def cellKey (r : Redemption) : ℤ ×ₗ ℤ := toLex (londonDow r.redeemedAt, daypartCaseSql (londonHour r.redeemedAt))

/-- Without a configured threshold no peak is named. -/
def busyTimes (minPeak : Option ℕ) (rows : List ((ℤ ×ₗ ℤ) × ℕ)) : BusyTimesResult :=
  let g := rows.foldl countCell ⟨fun _ _ => 0, 0, none⟩
  { grid := (List.range DOW_COUNT).flatMap fun d => (List.range DAYPART_COUNT).map fun p =>
      ⟨d, p, intensityBand (g.counts d p) g.peakCount⟩
    busiest := if ∃ n ∈ minPeak, n ≤ g.peakCount then g.peakCell else none }

def getBusyTimes : Except String BusyTimesResult := do
  let win ← periodWindow filters.period filters.now filters.custom
  let rows := redemptionsOf (windowRows env db ctx filters win.startUtc win.endUtc)
  return busyTimes (busyPeakMinCount env) (countedGroups db cellKey rows)

/-! ### Validation -/

structure ValidationResult where
  logged : ℕ
  confirmed : ℕ
  awaiting : ℤ
  /-- A fraction. -/
  completionRate : ℚ
  methods : List (ValidationMethod × ℕ)
  deriving DecidableEq

def validationMethods (s : Multiset Redemption) : List (ValidationMethod × ℕ) :=
  let methods := (s.filter fun r => r.isValidated = true).filterMap Redemption.validationMethod
  (ranking id methods).map fun m => (m, Multiset.card (members id methods m))

def getValidation : Except String ValidationResult := do
  let win ← periodWindow filters.period filters.now filters.custom
  let t := totals (redemptionsOf (windowRows env db ctx filters win.startUtc win.endUtc))
  let methods := validationMethods (redemptionsOf (windowRows env db ctx filters win.startUtc win.endUtc))
  return {
    logged := t.logged
    confirmed := t.confirmed
    awaiting := t.logged - t.confirmed
    completionRate := if t.logged = 0 then 0 else mathRound (t.confirmed / t.logged * 1000) / 10 / 100
    -- One method alone says nothing.
    methods := if (methods.filter fun m => 0 < m.2).length ≤ 1 then [] else methods }

end

end Redeemo.Insights
