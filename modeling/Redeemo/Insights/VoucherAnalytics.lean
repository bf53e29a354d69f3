import Redeemo.Insights.Service
import Redeemo.Shared.Errors

/-! The figures of one voucher, over all time. -/

namespace Redeemo.Insights
open Bags Dates London

/-- Without the join to the voucher: the id is a column of the redemption. -/
def eligibleVoucherFrom (db : Database) (merchantId : String) (scope : InsightsBranchScope) (voucherId : String)
    (includeTest : Option String) : Multiset Row :=
  db.rows.filter fun row => EligibilityWhere merchantId scope includeTest row ∧ row.r.voucherId = voucherId

/-! ### When and where -/

structure VoucherWhenSlot where
  index : ℕ
  intensity : ℕ
  deriving DecidableEq

/-- The largest count and where it stands first. -/
def peakOf : List ℕ → ℕ → ℕ × Option ℕ → ℕ × Option ℕ
  | [], _, peak => peak
  | c :: cs, i, peak => peakOf cs (i + 1) (if peak.1 < c then (c, some i) else peak)

def bandSlots (minPeak : Option ℕ) (counts : List ℕ) : List VoucherWhenSlot × Option ℕ :=
  let peak := peakOf counts 0 (0, none)
  (counts.mapIdx fun index c => ⟨index, intensityBand c peak.1⟩,
    if ∃ n ∈ minPeak, n ≤ peak.1 then peak.2 else none)

/-- `counts[slot] = n` for each row with a slot in range. -/
def fillSlots (rows : List (ℤ × ℕ)) (counts : List ℕ) : List ℕ :=
  rows.foldl (fun counts row =>
    if 0 ≤ row.1 ∧ row.1 < (counts.length : ℤ) then counts.set row.1.toNat row.2 else counts) counts

structure WhereUsed where
  branchId : String
  name : String
  logged : ℕ
  sharePct : ℚ
  deriving DecidableEq

def whereUsed (rows : Multiset Row) : List WhereUsed :=
  let branchRows := (ranking branchKey rows).map fun key => (ofLex key, Multiset.card (members branchKey rows key))
  let totalBranchLogged := (branchRows.map Prod.snd).sum
  branchRows.map fun row => ⟨row.1.1, row.1.2, row.2, sharePct row.2 totalBranchLogged⟩

/-! ### Life -/

inductive LiveSinceSource
  | approvedAt | publishedAt
  deriving DecidableEq, Repr

def resolveLiveSince (voucher : Voucher) : Option ℤ × Option LiveSinceSource :=
  match voucher.approvedAt, voucher.publishedAt with
  | some t, _ => (some t, some .approvedAt)
  | none, some t => (some t, some .publishedAt)
  | none, none => (none, none)

def computeDaysLive (liveSince : Option ℤ) (now : ℤ) : Option ℤ := liveSince.map fun t => max 0 ((now - t) / msPerDay)

structure Lifecycle where
  liveSince : Option ℤ
  liveSinceSource : Option LiveSinceSource
  daysLive : Option ℤ
  deriving DecidableEq

/-! ### The analytics -/

structure VoucherTotals where
  logged : ℕ
  confirmed : ℕ
  confirmedInPersonPct : ℚ
  distinctCustomers : ℕ
  estimatedSavingLogged : ℚ
  estimatedSavingConfirmed : ℚ
  deriving DecidableEq

structure WhenUsed where
  days : List VoucherWhenSlot
  dayparts : List VoucherWhenSlot
  busiestDay : Option ℕ
  busiestDaypart : Option ℕ
  deriving DecidableEq

structure VoucherAnalyticsResult where
  voucherId : String
  totals : VoucherTotals
  lifecycle : Lifecycle
  trend : List TrendMonth
  whenUsed : WhenUsed
  whereUsed : List WhereUsed
  deriving DecidableEq

def assertMerchantActive (db : Database) (merchantId : String) : Except AppError Unit :=
  if (db.merchant merchantId).map Merchant.status = some .ACTIVE then .ok () else .error .MERCHANT_NOT_ACTIVE

def assertInsightsAccess (ctx : MerchantContext) : Except AppError Unit :=
  if ctx.role = .STAFF then .error .INSUFFICIENT_PERMISSIONS else .ok ()

/-- A voucher of another merchant is not found. -/
def findVoucher (db : Database) (merchantId voucherId : String) : Except AppError Voucher :=
  match db.voucher voucherId with
  | none => .error .VOUCHER_NOT_FOUND
  | some voucher => if voucher.merchantId = merchantId then .ok voucher else .error .VOUCHER_NOT_FOUND

def voucherTotals (s : Multiset Redemption) : VoucherTotals :=
  let t := totals s
  { logged := t.logged
    confirmed := t.confirmed
    confirmedInPersonPct := sharePct t.confirmed t.logged
    distinctCustomers := t.distinct
    estimatedSavingLogged := t.est_logged
    estimatedSavingConfirmed := t.est_confirmed }

def whenUsed (minPeak : Option ℕ) (dayRows daypartRows : List (ℤ × ℕ)) : WhenUsed :=
  let days := bandSlots minPeak (fillSlots dayRows (List.replicate DOW_COUNT 0))
  let dayparts := bandSlots minPeak (fillSlots daypartRows (List.replicate DAYPART_COUNT 0))
  ⟨days.1, dayparts.1, days.2, dayparts.2⟩

def dowKey (r : Redemption) : ℤ := londonDow r.redeemedAt

def daypartKey (r : Redemption) : ℤ := daypartCaseSql (londonHour r.redeemedAt)

/-- For the context that the session resolves to. -/
def getVoucherAnalytics (env : Env) (db : Database) (ctx : MerchantContext) (voucherId : String) (now : ℤ) :
    Except AppError VoucherAnalyticsResult := do
  assertMerchantActive db ctx.merchantId
  assertInsightsAccess ctx
  let voucher ← findVoucher db ctx.merchantId voucherId
  let rows := eligibleVoucherFrom db ctx.merchantId (insightsScope ctx) voucherId
    (demoIncludeMerchantId env ctx.merchantId)
  let redemptions := rows.map Row.r
  let (liveSince, source) := resolveLiveSince voucher
  return {
    voucherId := voucherId
    totals := voucherTotals redemptions
    lifecycle := ⟨liveSince, source, computeDaysLive liveSince now⟩
    trend := trendMonths redemptions
    whenUsed := whenUsed (busyPeakMinCount env) (countedGroups db dowKey redemptions)
      (countedGroups db daypartKey redemptions)
    whereUsed := whereUsed rows }

end Redeemo.Insights
