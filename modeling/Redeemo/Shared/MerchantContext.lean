import Mathlib.Data.List.Basic
import Redeemo.Lib.Fallible
import Redeemo.Shared.Errors
import Redeemo.Shared.Schema

/-! The caller of a merchant route: memberships, the resolvers and the guards.

    `resolveAdminMerchant` lets owners through and nobody else; `resolveMerchantContext` any active
    member, whose role the guards then look at. -/

namespace Redeemo
open Fallible

structure Merchant where
  id : ℕ
  status : MerchantStatus
  onboardingStep : OnboardingStep
  deriving DecidableEq, Repr

/-- A row of `MerchantMembership`, with the branches of its `MerchantMembershipBranch` rows. -/
structure Membership where
  merchantId : ℕ
  merchantAdminId : ℕ
  role : MerchantRole
  allBranches : Bool
  canManageVouchers : Bool
  status : UserStatus
  branches : List ℕ
  deriving DecidableEq, Repr

structure Accounts where
  merchants : List Merchant
  memberships : List Membership
  deriving DecidableEq, Repr

structure MerchantContext where
  adminId : ℕ
  merchantId : ℕ
  role : MerchantRole
  allBranches : Bool
  allowedBranchIds : List ℕ
  canManageVouchers : Bool
  deriving DecidableEq, Repr

/-- Sensitive fields are written directly while the application is being set up, or when an admin has
    asked for changes. -/
def isDraftWindow (m : Merchant) : Prop := m.status = .REGISTERED ∨ m.onboardingStep = .NEEDS_CHANGES

instance : DecidablePred isDraftWindow :=
  fun m => inferInstanceAs (Decidable (m.status = .REGISTERED ∨ m.onboardingStep = .NEEDS_CHANGES))

namespace Accounts

/-- `merchant.findUnique`. -/
def findMerchant (t : Accounts) (merchantId : ℕ) : Option Merchant :=
  t.merchants.find? fun m => m.id = merchantId

/-- The joined status of a membership's merchant. -/
def HasStatus (t : Accounts) (merchantId : ℕ) (status : MerchantStatus) : Prop :=
  (t.findMerchant merchantId).map Merchant.status = some status

instance (t : Accounts) (merchantId : ℕ) (status : MerchantStatus) :
    Decidable (t.HasStatus merchantId status) :=
  inferInstanceAs (Decidable ((t.findMerchant merchantId).map Merchant.status = some status))

end Accounts

def getOwnerMembership (t : Accounts) (adminId : ℕ) : Option Membership :=
  t.memberships.find? fun m => m.merchantAdminId = adminId ∧ m.role = .OWNER ∧ m.status = .ACTIVE

/-- A person with two active memberships is refused. -/
def getActiveMembership (t : Accounts) (adminId : ℕ) : Except AppError (Option Membership) :=
  match t.memberships.filter fun m => m.merchantAdminId = adminId ∧ m.status = .ACTIVE with
  | [] => .ok none
  | [m] => .ok (some m)
  | _ => .error .MULTI_MEMBERSHIP_UNSUPPORTED

def resolveAdminMerchant (t : Accounts) (adminId : ℕ) : Except AppError ℕ :=
  match getOwnerMembership t adminId with
  | none => do
    let active ← getActiveMembership t adminId
    rejectIf (active.isSome = true) .INSUFFICIENT_PERMISSIONS
    .error .INVALID_CREDENTIALS
  | some membership => do
    rejectIf (t.HasStatus membership.merchantId .SUSPENDED) .MERCHANT_SUSPENDED
    return membership.merchantId

def resolveMerchantContext (t : Accounts) (adminId : ℕ) : Except AppError MerchantContext := do
  let m ← orReject (← getActiveMembership t adminId) .INVALID_CREDENTIALS
  rejectIf (t.HasStatus m.merchantId .SUSPENDED) .MERCHANT_SUSPENDED
  return {
    adminId := adminId
    merchantId := m.merchantId
    role := m.role
    allBranches := m.allBranches
    allowedBranchIds := m.branches
    canManageVouchers := m.role = .OWNER || m.canManageVouchers }

def assertOwner (ctx : MerchantContext) : Except AppError Unit :=
  rejectIf (ctx.role ≠ .OWNER) .INSUFFICIENT_PERMISSIONS

def assertCanManageVouchers (ctx : MerchantContext) : Except AppError Unit :=
  rejectIf (¬ (ctx.role = .OWNER ∨ ctx.canManageVouchers = true)) .INSUFFICIENT_PERMISSIONS

/-- An owner manages any branch, a branch manager the assigned ones. -/
def canManageBranchPredicate (ctx : MerchantContext) (branchId : ℕ) : Prop :=
  ctx.role = .OWNER ∨
    ctx.role = .BRANCH_MANAGER ∧ (ctx.allBranches = true ∨ branchId ∈ ctx.allowedBranchIds)

instance (ctx : MerchantContext) (branchId : ℕ) : Decidable (canManageBranchPredicate ctx branchId) :=
  inferInstanceAs (Decidable (ctx.role = .OWNER ∨
    ctx.role = .BRANCH_MANAGER ∧ (ctx.allBranches = true ∨ branchId ∈ ctx.allowedBranchIds)))

def assertCanManageBranch (ctx : MerchantContext) (branchId : ℕ) : Except AppError Unit :=
  rejectIf (¬ canManageBranchPredicate ctx branchId) .INSUFFICIENT_PERMISSIONS

theorem assertOwner_eq_ok {ctx : MerchantContext} {u : Unit} :
    assertOwner ctx = .ok u ↔ ctx.role = .OWNER := by
  rw [assertOwner, rejectIf_eq_ok, not_not]

theorem assertCanManageBranch_eq_ok {ctx : MerchantContext} {branchId : ℕ} {u : Unit} :
    assertCanManageBranch ctx branchId = .ok u ↔ canManageBranchPredicate ctx branchId := by
  rw [assertCanManageBranch, rejectIf_eq_ok, not_not]

end Redeemo
