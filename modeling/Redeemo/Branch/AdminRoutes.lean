import Redeemo.Branch.Lifecycle

/-! The admin's own branch routes, and runs that mix them with the merchant's requests.

    An admin creates, edits and deletes branches on a merchant's behalf: the same cores run, behind other
    guards. A branch that the admin creates is live at once, and a field rep acts for a merchant only
    before it is live. -/

namespace Redeemo.BranchLifecycle
open Fallible Rows Runs

inductive AdminRole
  | SUPER_ADMIN | OPERATIONS | FINANCE | CONTENT | SUPPORT | FIELD
  deriving DecidableEq, Repr

def PRE_LIVE_STATUSES : List MerchantStatus := [.REGISTERED, .PENDING_APPROVAL]

def resolveTargetMerchantForAdmin (t : Accounts) (merchantId : ℕ) : Except AppError Merchant :=
  orReject (t.findMerchant merchantId) .MERCHANT_NOT_FOUND

def assertFieldPreLiveScope (t : Accounts) (adminRole : AdminRole) (merchantId : ℕ) :
    Except AppError Unit :=
  if adminRole ≠ .FIELD then .ok ()
  else do
    let merchant ← orReject (t.findMerchant merchantId) .MERCHANT_NOT_FOUND
    rejectIf (merchant.status ∉ PRE_LIVE_STATUSES) .MERCHANT_NOT_PRE_LIVE_FOR_FIELD

/-- `where: { id, deletedAt: null }`. -/
def findUndeleted (db : Db) (branchId : ℕ) : Option Branch :=
  db.branches.find? fun b => b.id = branchId ∧ b.deletedAt = none

/-- The merchant of a branch that an admin acts on. -/
def resolveTargetBranch (db : Db) (adminRole : AdminRole) (branchId : ℕ) : Except Failure ℕ := do
  let b ← orReject (findUndeleted db branchId) (.app .BRANCH_NOT_FOUND)
  let _ ← appResult (resolveTargetMerchantForAdmin db.accounts b.merchantId)
  appResult (assertFieldPreLiveScope db.accounts adminRole b.merchantId)
  return b.merchantId

/-- `POST /merchants/:id/branches`. -/
def adminCreateBranch (out : Outside) (db : Db) (adminRole : AdminRole) (merchantId : ℕ) (data : Patch) :
    Except Failure Db := do
  let _ ← appResult (resolveTargetMerchantForAdmin db.accounts merchantId)
  appResult (assertFieldPreLiveScope db.accounts adminRole merchantId)
  createBranchCore out db merchantId data false none

/-- `PATCH /branches/:branchId`. -/
def adminUpdateBranch (out : Outside) (db : Db) (adminRole : AdminRole) (branchId : ℕ) (data : PatchBody) :
    Except Failure Db := do
  let merchantId ← resolveTargetBranch db adminRole branchId
  updateBranchDirectCore out db merchantId branchId data

/-- `POST /branches/:branchId/delete`. -/
def adminDeleteBranch (out : Outside) (db : Db) (adminRole : AdminRole) (branchId : ℕ) :
    Except Failure Db := do
  let merchantId ← resolveTargetBranch db adminRole branchId
  softDeleteBranchCore out db merchantId branchId

/-! ### Runs -/

inductive Operation
  | request (r : Request)
  | adminCreateBranch (adminRole : AdminRole) (merchantId : ℕ) (data : Patch)
  | adminUpdateBranch (adminRole : AdminRole) (branchId : ℕ) (data : PatchBody)
  | adminDeleteBranch (adminRole : AdminRole) (branchId : ℕ)

def perform (out : Outside) (db : Db) : Operation → Except Failure Db
  | .request r => exec out db r
  | .adminCreateBranch adminRole merchantId data => adminCreateBranch out db adminRole merchantId data
  | .adminUpdateBranch adminRole branchId data => adminUpdateBranch out db adminRole branchId data
  | .adminDeleteBranch adminRole branchId => adminDeleteBranch out db adminRole branchId

/-- An operation that throws leaves the tables as they were. -/
def operate (db : Db) (a : Outside × Operation) : Option Db :=
  match perform a.1 db a.2 with
  | .ok db' => some db'
  | .error _ => some db

section
variable {out : Outside} {db db' : Db}

theorem operate_eq_some {a : Outside × Operation} (h : operate db a = some db') :
    perform a.1 db a.2 = .ok db' ∨ (∃ e, perform a.1 db a.2 = .error e) ∧ db' = db := by
  rw [operate] at h
  cases hr : perform a.1 db a.2 with
  | ok t =>
    rw [hr] at h
    cases h
    exact .inl rfl
  | error e =>
    rw [hr] at h
    exact .inr ⟨⟨e, rfl⟩, (Option.some.inj h).symm⟩

theorem operate_total (db : Db) (a : Outside × Operation) : ∃ db', operate db a = some db' := by
  rw [operate]
  split
  · exact ⟨_, rfl⟩
  · exact ⟨_, rfl⟩

/-! ### What each route does -/

theorem adminCreateBranch_ok {adminRole : AdminRole} {merchantId : ℕ} {data : Patch}
    (h : adminCreateBranch out db adminRole merchantId data = .ok db') :
    ∃ created, db' = db.insertBranch
      (createdBranch merchantId (db.existingCount merchantId == 0) false created) := by
  simp only [adminCreateBranch, bind_ok_iff] at h
  obtain ⟨-, -, -, -, h⟩ := h
  obtain ⟨created, comment, rfl⟩ := createBranchCore_ok h
  exact ⟨created, rfl⟩

theorem updateBranchDirectCore_ok {merchantId branchId : ℕ} {data : PatchBody}
    (h : updateBranchDirectCore out db merchantId branchId data = .ok db') :
    ∃ branch, db.findOwned branchId merchantId = some branch ∧
      (db' = db ∨ db' = db.updateBranchRow branchId data.direct.apply) := by
  simp only [updateBranchDirectCore, bind_ok_iff, resolveBranch, orReject_eq_ok] at h
  obtain ⟨branch, hb, h⟩ := h
  refine ⟨branch, hb, ?_⟩
  split_ifs at h with hkeys
  · exact .inr (writeBranch_ok_iff.mp h).2
  · exact .inl (pure_eq_ok.mp h).symm

theorem adminUpdateBranch_ok {adminRole : AdminRole} {branchId : ℕ} {data : PatchBody}
    (h : adminUpdateBranch out db adminRole branchId data = .ok db') :
    ∃ merchantId branch, db.findOwned branchId merchantId = some branch ∧
      (db' = db ∨ db' = db.updateBranchRow branchId data.direct.apply) := by
  simp only [adminUpdateBranch, bind_ok_iff] at h
  obtain ⟨merchantId, -, h⟩ := h
  exact ⟨merchantId, updateBranchDirectCore_ok h⟩

/-- What lets a deletion through: the branch is not the main one, nor the last one of a live merchant. -/
structure Deletable (db : Db) (merchantId branchId : ℕ) (branch : Branch) : Prop where
  found : db.findOwned branchId merchantId = some branch
  notMain : branch.isMainBranch = false
  notLast : db.accounts.HasStatus merchantId .ACTIVE → 1 < db.activeBranchCount merchantId

def softDeleted (now : ℤ) (db : Db) (branchId : ℕ) : Db :=
  (db.deactivateBranchUsers branchId).updateBranchRow branchId (Branch.softDelete now)

theorem softDeleteBranchCore_ok_iff {merchantId branchId : ℕ} :
    softDeleteBranchCore out db merchantId branchId = .ok db' ↔
      ∃ branch, Deletable db merchantId branchId branch ∧ db' = softDeleted out.now db branchId := by
  simp only [softDeleteBranchCore, bind_ok_iff, orReject_eq_ok, rejectIf_eq_ok, pure_eq_ok,
    assertNotLastActive_eq_ok, Bool.not_eq_true]
  constructor
  · rintro ⟨branch, hb, -, hmain, -, hlast, rfl⟩
    exact ⟨branch, ⟨hb, hmain, hlast⟩, rfl⟩
  · rintro ⟨branch, ⟨hb, hmain, hlast⟩, rfl⟩
    exact ⟨branch, hb, (), hmain, (), hlast, rfl⟩

theorem softDeleteBranch_ok_iff {adminId branchId : ℕ} :
    softDeleteBranch out db adminId branchId = .ok db' ↔ ∃ merchantId branch,
      resolveAdminMerchant db.accounts adminId = .ok merchantId ∧ Deletable db merchantId branchId branch ∧
        db' = softDeleted out.now db branchId := by
  simp only [softDeleteBranch, bind_ok_iff, appResult_eq_ok, softDeleteBranchCore_ok_iff,
    exists_and_left]

theorem adminDeleteBranch_ok_iff {adminRole : AdminRole} {branchId : ℕ} :
    adminDeleteBranch out db adminRole branchId = .ok db' ↔ ∃ merchantId branch,
      resolveTargetBranch db adminRole branchId = .ok merchantId ∧ Deletable db merchantId branchId branch ∧
        db' = softDeleted out.now db branchId := by
  simp only [adminDeleteBranch, bind_ok_iff, softDeleteBranchCore_ok_iff, exists_and_left]

theorem perform_keyed {operation : Operation} (hk : db.Keyed) (h : perform out db operation = .ok db') :
    db'.Keyed := by
  cases operation with
  | request r => exact exec_keyed hk h
  | adminCreateBranch adminRole merchantId data =>
    obtain ⟨created, rfl⟩ := adminCreateBranch_ok h
    exact hk.insertBranch rfl
  | adminUpdateBranch adminRole branchId data =>
    obtain ⟨merchantId, branch, -, rfl | rfl⟩ := adminUpdateBranch_ok h
    · exact hk
    · exact hk.updateBranchRow fun _ => rfl
  | adminDeleteBranch adminRole branchId =>
    obtain ⟨merchantId, branch, -, -, rfl⟩ := adminDeleteBranch_ok_iff.mp h
    exact hk.deactivateBranchUsers.updateBranchRow fun _ => rfl

theorem operate_keyed {a : Outside × Operation} (hk : db.Keyed) (h : operate db a = some db') :
    db'.Keyed := by
  rcases operate_eq_some h with h | ⟨-, rfl⟩
  · exact perform_keyed hk h
  · exact hk

end

end Redeemo.BranchLifecycle
