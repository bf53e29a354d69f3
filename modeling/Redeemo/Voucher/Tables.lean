import Mathlib.Data.Rat.Floor
import Redeemo.Lib.Fallible
import Redeemo.Shared.Approvals
import Redeemo.Shared.Errors
import Redeemo.Shared.Schema
import Redeemo.Shared.VoucherAvailability

/-! Vouchers: what a customer sees of one, and what goes with it.

    `merchantFields` is a bag of JSON that the merchant's builder fills in and the server marks; the
    operations on it, and the check that reads it, come in as a `MerchantFields`. -/

namespace Redeemo.Vouchers
open Fallible VoucherAvailability

/-- What is reviewed of a voucher, and what a customer sees of it. -/
structure Content where
  type : VoucherType
  title : String
  description : Option String
  terms : Option String
  estimatedSaving : ℚ
  expiryDate : Option ℤ
  availabilityWindows : List AvailabilityWindow
  deriving DecidableEq

structure Voucher (Bag : Type) extends Content where
  id : ℕ
  merchantId : ℕ
  isRmv : Bool
  isMandatory : Bool
  rmvTemplateId : Option ℕ
  imageUrl : Option String
  cooldownSeconds : Option ℕ
  status : VoucherStatus
  approvalStatus : ApprovalStatus
  approvedBy : Option ℕ
  approvedAt : Option ℤ
  publishedAt : Option ℤ
  merchantFields : Option Bag

/-- The arguments of `assertVoucherSubmittable`. -/
structure EffectiveVoucher (Bag : Type) where
  type : VoucherType
  title : String
  estimatedSaving : ℚ
  merchantFields : Option Bag
  windowCount : ℕ
  cooldownSeconds : Option ℕ

/-- The functions on the bag. -/
structure MerchantFields (Bag : Type) where
  empty : Bag
  /-- `{ ...bag, ...patch }`. -/
  spread : Bag → Bag → Bag
  stripCallerOwnedKeys : Bag → Bag
  stripAdminOwnedKeys : Bag → Bag
  stampStrictSubmitContract : Bag → Bag
  withinLimit : Bag → Bool
  /-- The bag after a request for changes, with the admin's valid proposals and the note. -/
  withConcierge : Bag → Option Bag → String → Bag
  assertVoucherSubmittable : EffectiveVoucher Bag → Except AppError Unit

def SAVING_COLUMN_MAX : ℚ := 100000000

/-- `Math.round(v * 100) / 100`, and what the column `Decimal(10,2)` makes of a positive number. -/
def toScale2 (v : ℚ) : ℚ := ⌊v * 100 + 1 / 2⌋ / 100

def assertSavingSane (value : ℚ) : Except AppError Unit := rejectIf (value ≤ 0) .SAVING_INVALID

def assertSavingFitsColumn (value : ℚ) : Except AppError Unit :=
  rejectIf (SAVING_COLUMN_MAX ≤ toScale2 value) .SAVING_INVALID

def assertMerchantFieldsWithinLimit {Bag : Type} (fields : MerchantFields Bag) (bag : Bag) :
    Except AppError Unit :=
  rejectIf (fields.withinLimit bag = false) .MERCHANT_FIELDS_TOO_LARGE

/-! ### Submission of a custom voucher -/

/-- What goes with the first submission. -/
def newApproval (id voucherId : ℕ) : AdminApproval where
  id := id
  type := .VOUCHER
  referenceId := voucherId
  referenceType := "voucher"
  status := .PENDING
  comment := some "Merchant submitted voucher for approval"
  adminUserId := none
  actionedAt := none
  claimedById := none
  claimedAt := none

/-- And with every later one. -/
def reopenApproval (approval : AdminApproval) : AdminApproval :=
  { approval with
    status := .PENDING
    claimedById := none
    claimedAt := none
    actionedAt := none
    comment := some "Merchant resubmitted voucher for approval" }

def Voucher.submit {Bag : Type} (v : Voucher Bag) (bag : Bag) (now : ℤ) : Voucher Bag :=
  { v with
    status := .PENDING_APPROVAL
    approvalStatus := .PENDING
    publishedAt := some now
    merchantFields := some bag }

/-! ### Decisions on a custom voucher -/

/-- What every decision checks of the approval. -/
def checkApproval (approval : Option AdminApproval) : Except AppError AdminApproval := do
  let approval ← orReject approval .APPROVAL_NOT_FOUND
  rejectIf (approval.type ≠ .VOUCHER) .APPROVAL_NOT_ACTIONABLE
  rejectIf (approval.status ∉ ACTIONABLE_STATUSES) .APPROVAL_NOT_ACTIONABLE
  return approval

namespace Voucher

variable {Bag : Type}

/-- And of the voucher. -/
def check (v : Voucher Bag) : Except AppError Unit :=
  rejectIf (v.status ≠ .PENDING_APPROVAL) .VOUCHER_NOT_ACTIONABLE

/-- `approveVoucher`: the voucher goes live, or waits for its merchant. -/
def approve (v : Voucher Bag) (adminId : ℕ) (now : ℤ) (goLive : Bool) : Voucher Bag :=
  { v with
    approvalStatus := .APPROVED
    approvedBy := some adminId
    approvedAt := some now
    status := if goLive = true then .ACTIVE else v.status }

end Voucher

end Redeemo.Vouchers
