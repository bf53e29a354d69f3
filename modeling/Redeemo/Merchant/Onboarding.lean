import Redeemo.Branch.Tables
import Redeemo.Voucher.Tables

/-! Going live: what `approveApproval` checks before a merchant's onboarding is approved, and what it
    writes then.

    The gates count the merchant's submitted flagship vouchers (RMVs), of which there must be two. The
    approval of a custom voucher asks instead whether any flagship is not ACTIVE. -/

namespace Redeemo.Onboarding
open Fallible Vouchers BranchLifecycle

structure OnboardingMerchant extends Merchant where
  verificationStatus : VerificationStatus
  contractStatus : ContractStatus
  isTestData : Bool
  primaryCategoryId : Option ℕ
  deriving DecidableEq, Repr

/-! ### The gates -/

def checkOnboardingApproval (approval : Option AdminApproval) : Except AppError AdminApproval := do
  let approval ← orReject approval .APPROVAL_NOT_FOUND
  rejectIf (approval.type ≠ .MERCHANT_ONBOARDING) .APPROVAL_NOT_ACTIONABLE
  return approval

/-- After the merchant has been found not to be ACTIVE. -/
def checkApplicant (approval : AdminApproval) (merchant : OnboardingMerchant) : Except AppError Unit := do
  rejectIf (merchant.isTestData = true) .APPROVAL_NOT_ACTIONABLE
  rejectIf (approval.status ∉ ACTIONABLE_STATUSES) .APPROVAL_NOT_ACTIONABLE

def checklistOf (merchant : OnboardingMerchant) (branchCount rmvCount : ℕ) : OnboardingChecklist where
  branch_created := 1 ≤ branchCount
  contract_signed := merchant.contractStatus = .SIGNED
  rmv_configured := 2 ≤ rmvCount

def checkGates (merchant : OnboardingMerchant) (branchCount rmvCount : ℕ) : Except AppError Unit :=
  let checklist := checklistOf merchant branchCount rmvCount
  rejectIf (¬ (checklist.branch_created = true ∧ checklist.contract_signed = true ∧
    checklist.rmv_configured = true)) (.ONBOARDING_GATES_INCOMPLETE checklist)

def checkMainBranch (checklist : OnboardingChecklist) (mainBranch : Option Branch) :
    Except AppError Unit := do
  let mainBranch ← orReject mainBranch
    (.ONBOARDING_GATES_INCOMPLETE { checklist with branch_created := false })
  rejectIf (¬ isBranchLocationConfirmed mainBranch) .MAIN_BRANCH_LOCATION_UNCONFIRMED

/-! ### The vouchers of a merchant -/

variable {Bag : Type}

/-- A flagship that the gates count, and that goes live with the merchant. -/
def Submitted (v : Voucher Bag) : Prop := v.status = .PENDING_APPROVAL ∨ v.status = .ACTIVE

instance : DecidablePred (@Submitted Bag) :=
  fun v => inferInstanceAs (Decidable (v.status = .PENDING_APPROVAL ∨ v.status = .ACTIVE))

/-- A custom voucher that has been approved and waits for its merchant to go live. -/
def ApprovedWaiting (v : Voucher Bag) : Prop := v.approvalStatus = .APPROVED ∧ v.status = .PENDING_APPROVAL

instance : DecidablePred (@ApprovedWaiting Bag) :=
  fun v => inferInstanceAs (Decidable (v.approvalStatus = .APPROVED ∧ v.status = .PENDING_APPROVAL))

/-! ### The writes -/

/-- `merchant.updateMany`, of a merchant that is not ACTIVE. -/
def OnboardingMerchant.goLive (merchant : OnboardingMerchant) : OnboardingMerchant :=
  { merchant with status := .ACTIVE, onboardingStep := .LIVE, verificationStatus := .VERIFIED }

def activateFlagship (adminId : ℕ) (now : ℤ) (v : Voucher Bag) : Voucher Bag :=
  { v with status := .ACTIVE, approvalStatus := .APPROVED, approvedBy := some adminId, approvedAt := some now }

def activateWaiting (v : Voucher Bag) : Voucher Bag := { v with status := .ACTIVE }

end Redeemo.Onboarding
