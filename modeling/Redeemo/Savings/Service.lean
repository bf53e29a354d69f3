import Mathlib.Algebra.Order.Ring.Rat
import Redeemo.Lib.InsertionMap
import Redeemo.Lib.Records
import Redeemo.Shared.Dates
import Redeemo.Shared.Schema
import Redeemo.Shared.WallTime

/-! What a customer has saved: the summary, one month in detail, and the redemptions page by page.

    A row is a redemption as it is read, with its branch and its voucher. A saving is the exact decimal that the
    column holds. -/

namespace Redeemo.Savings
open Dates WallTime
open Records (trim)

structure Category where
  id : String
  name : String
  deriving DecidableEq

structure Merchant where
  id : String
  businessName : String
  tradingName : Option String
  logoUrl : Option String
  primaryCategory : Option Category
  deriving DecidableEq

structure Voucher where
  id : String
  title : String
  type : VoucherType
  merchant : Merchant
  deriving DecidableEq

structure Branch where
  id : String
  name : String
  deriving DecidableEq

structure VoucherRedemption where
  id : String
  userId : String
  redeemedAt : ℤ
  estimatedSaving : ℚ
  isValidated : Bool
  validatedAt : Option ℤ
  voucher : Voucher
  branch : Branch
  deriving DecidableEq

def resolveMerchantName (businessName : String) (tradingName : Option String) : String :=
  match tradingName.map trim with
  | some t => if t = "" then businessName else t
  | none => businessName

/-! ### Months -/

structure MonthWindow where
  label : String
  start : ℤ
  «end» : ℤ

/-- `padStart(2, '0')`. -/
def padStart (s : String) : String := String.ofList (List.replicate (2 - s.length) '0') ++ s

def monthWindow (now monthOffset : ℤ) : MonthWindow :=
  let d := dateUTC (getUTCFullYear now) (getUTCMonth now + monthOffset) 1
  { label := toString (getUTCFullYear d) ++ "-" ++ padStart (toString (getUTCMonth d + 1))
    start := dateUTC (getUTCFullYear d) (getUTCMonth d) 1
    «end» := dateUTC (getUTCFullYear d) (getUTCMonth d + 1) 1 }

/-- The bounds of a month given as `YYYY-MM`; `none` where a part is no number. -/
def monthBounds (month : String) : Option (ℤ × ℤ) := do
  let parts := month.toList.splitOn '-'
  let year ← parseInt (← parts[0]?)
  let mon ← parseInt (← parts[1]?)
  return (dateUTC year (mon - 1) 1, dateUTC year mon 1)

/-! ### Totals -/

/-- `where: { userId, redeemedAt: { gte: start, lt: end } }`. -/
def inRange (redemptions : List VoucherRedemption) (userId : String) (start «end» : ℤ) : List VoucherRedemption :=
  redemptions.filter fun r => r.userId = userId ∧ start ≤ r.redeemedAt ∧ r.redeemedAt < «end»

def sumSaving (rows : List VoucherRedemption) : ℚ := (rows.map VoucherRedemption.estimatedSaving).sum

structure BranchSaving where
  branchId : String
  branchName : String
  merchantId : String
  merchantName : String
  merchantLogoUrl : Option String
  saving : ℚ
  count : ℕ
  deriving DecidableEq

/-- The entry of a branch at its first redemption. -/
def startBranch (r : VoucherRedemption) : BranchSaving where
  branchId := r.branch.id
  branchName := r.branch.name
  merchantId := r.voucher.merchant.id
  merchantName := resolveMerchantName r.voucher.merchant.businessName r.voucher.merchant.tradingName
  merchantLogoUrl := r.voucher.merchant.logoUrl
  saving := 0
  count := 0

def addBranch (b : BranchSaving) (r : VoucherRedemption) : BranchSaving :=
  { b with saving := b.saving + r.estimatedSaving, count := b.count + 1 }

def byBranchMap (rows : List VoucherRedemption) : InsertionMap String BranchSaving :=
  rows.foldl (InsertionMap.tally (fun r => r.branch.id) startBranch addBranch) .empty

def byBranch (rows : List VoucherRedemption) : List BranchSaving :=
  ((byBranchMap rows).entries.map Prod.snd).mergeSort fun a b => b.saving ≤ a.saving

structure CategorySaving where
  categoryId : String
  name : String
  saving : ℚ
  deriving DecidableEq

/-- The redemptions whose merchant has a category, with it. -/
def categorised (rows : List VoucherRedemption) : List (Category × VoucherRedemption) :=
  rows.filterMap fun r => r.voucher.merchant.primaryCategory.map fun cat => (cat, r)

def startCategory (r : Category × VoucherRedemption) : CategorySaving := ⟨r.1.id, r.1.name, 0⟩

def addCategory (c : CategorySaving) (r : Category × VoucherRedemption) : CategorySaving :=
  { c with saving := c.saving + r.2.estimatedSaving }

def byCategoryMap (rows : List VoucherRedemption) : InsertionMap String CategorySaving :=
  (categorised rows).foldl (InsertionMap.tally (fun r => r.1.id) startCategory addCategory) .empty

def byCategory (rows : List VoucherRedemption) : List CategorySaving :=
  ((byCategoryMap rows).entries.map Prod.snd).mergeSort fun a b => b.saving ≤ a.saving

/-! ### The views -/

variable (redemptions : List VoucherRedemption) (userId : String)

structure MonthSaving where
  month : String
  saving : ℚ
  count : ℕ
  deriving DecidableEq

structure SavingsSummary where
  lifetimeSaving : ℚ
  thisMonthSaving : ℚ
  thisMonthRedemptionCount : ℕ
  monthlyBreakdown : List MonthSaving
  byBranch : List BranchSaving
  byCategory : List CategorySaving

/-- This month and the eleven before it. -/
def windows (now : ℤ) : List MonthWindow := (List.range 12).map fun i : ℕ => monthWindow now (-(i : ℤ))

def monthSaving (w : MonthWindow) : MonthSaving where
  month := w.label
  saving := sumSaving (inRange redemptions userId w.start w.end)
  count := (inRange redemptions userId w.start w.end).length

def getSavingsSummary (now : ℤ) : SavingsSummary :=
  let thisMonth := monthWindow now 0
  let thisMonthRows := inRange redemptions userId thisMonth.start thisMonth.end
  { lifetimeSaving := sumSaving (redemptions.filter fun r => r.userId = userId)
    thisMonthSaving := sumSaving thisMonthRows
    thisMonthRedemptionCount := thisMonthRows.length
    monthlyBreakdown := (windows now).map (monthSaving redemptions userId)
    byBranch := byBranch thisMonthRows
    byCategory := byCategory thisMonthRows }

structure MonthlyDetail where
  totalSaving : ℚ
  redemptionCount : ℕ
  byBranch : List BranchSaving
  byCategory : List CategorySaving

/-- `none` where the query refuses an invalid date. -/
def getMonthlyDetail (month : String) : Option MonthlyDetail :=
  (monthBounds month).map fun bounds =>
    let rows := inRange redemptions userId bounds.1 bounds.2
    { totalSaving := sumSaving rows
      redemptionCount := rows.length
      byBranch := byBranch rows
      byCategory := byCategory rows }

/-! ### The redemptions -/

structure RedemptionItem where
  id : String
  redeemedAt : ℤ
  estimatedSaving : ℚ
  isValidated : Bool
  validatedAt : Option ℤ
  merchantId : String
  businessName : String
  logoUrl : Option String
  voucherId : String
  title : String
  voucherType : VoucherType
  branchId : String
  branchName : String
  deriving DecidableEq

def redemptionItem (r : VoucherRedemption) : RedemptionItem where
  id := r.id
  redeemedAt := r.redeemedAt
  estimatedSaving := r.estimatedSaving
  isValidated := r.isValidated
  validatedAt := r.validatedAt
  merchantId := r.voucher.merchant.id
  businessName := resolveMerchantName r.voucher.merchant.businessName r.voucher.merchant.tradingName
  logoUrl := r.voucher.merchant.logoUrl
  voucherId := r.voucher.id
  title := r.voucher.title
  voucherType := r.voucher.type
  branchId := r.branch.id
  branchName := r.branch.name

structure RedemptionPage where
  redemptions : List RedemptionItem
  total : ℕ

/-- An empty month is no filter. -/
def redemptionsWhere (month : Option String) : Option (VoucherRedemption → Bool) :=
  match month.filter (· ≠ "") with
  | none => some fun r => r.userId = userId
  | some m => (monthBounds m).map fun bounds r => r.userId = userId ∧ bounds.1 ≤ r.redeemedAt ∧ r.redeemedAt < bounds.2

/-- `orderBy: { redeemedAt: 'desc' }`. -/
def latestFirst (a b : VoucherRedemption) : Ordering := compare b.redeemedAt a.redeemedAt

/-- The rows in the order they are stored in. -/
def getSavingsRedemptions (limit offset : ℕ) (month : Option String) : Option RedemptionPage :=
  (redemptionsWhere userId month).map fun p =>
    let rows := (((redemptions.filter p).mergeSort fun a b => latestFirst a b ≠ .gt).drop offset).take limit
    ⟨rows.map redemptionItem, (redemptions.filter p).length⟩

end Redeemo.Savings
