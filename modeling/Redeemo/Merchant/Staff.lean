import Redeemo.Lib.Rows
import Redeemo.Lib.Runs
import Redeemo.Shared.MerchantContext

/-! The team of a merchant: an owner invites members, changes their access, and deactivates, reactivates and
    removes them.

    A removed member stays in the table, and an invitation to the same address brings the membership back.
    `reactivateMember` is for INACTIVE members alone, but `deactivateMember` makes a removed one INACTIVE. -/

namespace Redeemo.Staff
open Fallible Rows Runs

structure Member extends Membership where
  id : ℕ
  invitedById : Option ℕ
  deriving DecidableEq

structure MerchantAdmin where
  id : ℕ
  email : String
  firstName : String
  lastName : String
  jobTitle : Option String
  passwordHash : Option String
  status : UserStatus
  emailVerified : Bool

/-- Whose a branch is. -/
structure OwnedBranch where
  id : ℕ
  merchantId : ℕ

structure Db where
  merchants : List Merchant
  branches : List OwnedBranch
  admins : List MerchantAdmin
  members : List Member
  nextId : ℕ

/-! ### Bodies -/

structure Access where
  role : MerchantRole
  allBranches : Bool
  branchIds : Option (List ℕ)
  canManageVouchers : Option Bool

structure Invite extends Access where
  email : String
  firstName : String
  lastName : String
  jobTitle : Option String

/-- A member of specific branches has one at least. -/
def updateBodySchema (body : Access) : Option Access :=
  if body.allBranches = false ∧ body.branchIds.getD [] = [] then none else some body

/-- `strings` is what zod makes of the email and the names. -/
def inviteBodySchema (strings : Invite → Option Invite) (body : Invite) : Option Invite :=
  (strings body).bind fun parsed => (updateBodySchema parsed.toAccess).map fun _ => parsed

/-- Without repetitions. -/
def Access.wantBranchIds (parsed : Access) : List ℕ :=
  if parsed.allBranches = true then [] else (parsed.branchIds.getD []).eraseDups

def Access.grantCanManageVouchers (parsed : Access) : Bool :=
  parsed.role = .BRANCH_MANAGER ∧ parsed.canManageVouchers = some true

/-! ### Checks -/

def accountsOf (merchants : List Merchant) (members : List Member) : Accounts :=
  ⟨merchants, members.map Member.toMembership⟩

/-- What every route resolves first. -/
def ownerCtx (accounts : Accounts) (adminId : ℕ) : Except AppError MerchantContext := do
  let ctx ← resolveMerchantContext accounts adminId
  assertOwner ctx
  return ctx

def assertRoleElevationAllowed (ctx : MerchantContext) (target : Access) : Except AppError Unit := do
  rejectIf ((target.role = .OWNER ∨ target.canManageVouchers = some true) ∧ ctx.role ≠ .OWNER)
    .INSUFFICIENT_PERMISSIONS
  rejectIf (target.role = .STAFF ∧ target.canManageVouchers = some true) .INSUFFICIENT_PERMISSIONS

/-- Every branch that is asked for is the merchant's. -/
def assertBranchesOwned (branches : List OwnedBranch) (merchantId : ℕ) (wantBranchIds : List ℕ) :
    Except AppError Unit :=
  rejectIf (0 < wantBranchIds.length ∧
    (branches.countP fun b => b.id ∈ wantBranchIds ∧ b.merchantId = merchantId) ≠ wantBranchIds.length)
    .BRANCH_NOT_OWNED

/-- A member of another merchant is not found. -/
def loadTarget (members : List Member) (merchantId memberId : ℕ) : Except AppError Member := do
  let m ← orReject (members.find? fun m => m.id = memberId) .MEMBER_NOT_FOUND
  rejectIf (m.merchantId ≠ merchantId) .MEMBER_NOT_FOUND
  return m

def ActiveOwner (merchantId : ℕ) (m : Member) : Prop :=
  m.merchantId = merchantId ∧ m.role = .OWNER ∧ m.status = .ACTIVE

instance (merchantId : ℕ) : DecidablePred (ActiveOwner merchantId) :=
  fun m => inferInstanceAs (Decidable (m.merchantId = merchantId ∧ m.role = .OWNER ∧ m.status = .ACTIVE))

def assertNotLastOwner (members : List Member) (merchantId membershipId : ℕ) : Except AppError Unit :=
  rejectIf ((members.countP fun m => ActiveOwner merchantId m ∧ m.id ≠ membershipId) = 0) .LAST_OWNER_PROTECTED

/-- An owner is not made anything else while the merchant has no other. -/
def checkDemotion (members : List Member) (merchantId : ℕ) (target : Member) (parsed : Access) : Except AppError Unit :=
  if target.role = .OWNER ∧ parsed.role ≠ .OWNER then assertNotLastOwner members merchantId target.id else .ok ()

/-- Nor deactivated or removed. -/
def checkDeparture (members : List Member) (merchantId : ℕ) (target : Member) : Except AppError Unit :=
  if target.role = .OWNER then assertNotLastOwner members merchantId target.id else .ok ()

/-! ### Writes -/

namespace Member

def withAccess (parsed : Access) (m : Member) : Member :=
  { m with
    role := parsed.role
    allBranches := parsed.allBranches
    canManageVouchers := parsed.grantCanManageVouchers
    branches := parsed.wantBranchIds }

def readmit (parsed : Access) (adminId : ℕ) (m : Member) : Member :=
  { m.withAccess parsed with status := .ACTIVE, invitedById := some adminId }

def deactivate (m : Member) : Member := { m with status := .INACTIVE }

def reactivate (m : Member) : Member := { m with status := .ACTIVE }

def remove (m : Member) : Member := { m with status := .DELETED, branches := [] }

end Member

namespace Db

def accounts (db : Db) : Accounts := accountsOf db.merchants db.members

def updateMember (db : Db) (id : ℕ) (f : Member → Member) : Db :=
  { db with members := updateMany (fun m => m.id = id) f db.members }

/-- A new admin and a new membership. -/
def createMember (db : Db) (merchantId adminId : ℕ) (parsed : Invite) : Db :=
  { db with
    admins := db.admins ++ [{
      id := db.nextId
      email := parsed.email
      firstName := parsed.firstName
      lastName := parsed.lastName
      jobTitle := parsed.jobTitle
      passwordHash := none
      status := .ACTIVE
      emailVerified := false }]
    members := db.members ++ [{
      id := db.nextId + 1
      merchantId := merchantId
      merchantAdminId := db.nextId
      role := parsed.role
      allBranches := parsed.allBranches
      canManageVouchers := parsed.grantCanManageVouchers
      status := .ACTIVE
      branches := parsed.wantBranchIds
      invitedById := some adminId }]
    nextId := db.nextId + 2 }

end Db

/-! ### The operations -/

/-- With the membership that is ACTIVE then. -/
def inviteMember (db : Db) (adminId : ℕ) (parsed : Invite) : Except AppError (Db × ℕ) := do
  let ctx ← ownerCtx db.accounts adminId
  let merchantId ← resolveAdminMerchant db.accounts adminId
  assertRoleElevationAllowed ctx parsed.toAccess
  assertBranchesOwned db.branches merchantId parsed.wantBranchIds
  match db.admins.find? fun admin => admin.email = parsed.email with
  | some existing => do
    let member ← orReject (db.members.find? fun m => m.merchantAdminId = existing.id ∧ m.merchantId = merchantId)
      .EMAIL_ALREADY_EXISTS
    rejectIf (member.status ≠ .DELETED) .EMAIL_ALREADY_EXISTS
    return (db.updateMember member.id (Member.readmit parsed.toAccess adminId), member.id)
  | none => return (db.createMember merchantId adminId parsed, db.nextId + 1)

def updateMemberAccess (db : Db) (adminId memberId : ℕ) (parsed : Access) : Except AppError Db := do
  let ctx ← ownerCtx db.accounts adminId
  let merchantId ← resolveAdminMerchant db.accounts adminId
  assertRoleElevationAllowed ctx parsed
  let target ← loadTarget db.members merchantId memberId
  checkDemotion db.members merchantId target parsed
  assertBranchesOwned db.branches merchantId parsed.wantBranchIds
  return db.updateMember target.id (Member.withAccess parsed)

def deactivateMember (db : Db) (adminId memberId : ℕ) : Except AppError Db := do
  let _ ← ownerCtx db.accounts adminId
  let merchantId ← resolveAdminMerchant db.accounts adminId
  let target ← loadTarget db.members merchantId memberId
  checkDeparture db.members merchantId target
  return db.updateMember target.id Member.deactivate

def reactivateMember (db : Db) (adminId memberId : ℕ) : Except AppError Db := do
  let _ ← ownerCtx db.accounts adminId
  let merchantId ← resolveAdminMerchant db.accounts adminId
  let target ← loadTarget db.members merchantId memberId
  rejectIf (target.status ≠ .INACTIVE) .MEMBER_NOT_FOUND
  return db.updateMember target.id Member.reactivate

def removeMember (db : Db) (adminId memberId : ℕ) : Except AppError Db := do
  let _ ← ownerCtx db.accounts adminId
  let merchantId ← resolveAdminMerchant db.accounts adminId
  let target ← loadTarget db.members merchantId memberId
  checkDeparture db.members merchantId target
  return db.updateMember target.id Member.remove

/-! ### Runs -/

inductive Action
  | inviteMember (adminId : ℕ) (body : Invite)
  | updateMemberAccess (adminId memberId : ℕ) (body : Access)
  | deactivateMember (adminId memberId : ℕ)
  | reactivateMember (adminId memberId : ℕ)
  | removeMember (adminId memberId : ℕ)

def exec (strings : Invite → Option Invite) (db : Db) : Action → Option Db
  | .inviteMember adminId body => (inviteBodySchema strings body).bind fun parsed =>
    (inviteMember db adminId parsed).toOption.map Prod.fst
  | .updateMemberAccess adminId memberId body => (updateBodySchema body).bind fun parsed =>
    (updateMemberAccess db adminId memberId parsed).toOption
  | .deactivateMember adminId memberId => (deactivateMember db adminId memberId).toOption
  | .reactivateMember adminId memberId => (reactivateMember db adminId memberId).toOption
  | .removeMember adminId memberId => (removeMember db adminId memberId).toOption

/-- A call that throws leaves the tables as they were. -/
def step (strings : Invite → Option Invite) (db : Db) (a : Action) : Option Db := some ((exec strings db a).getD db)

def statusOf (db : Db) (memberId : ℕ) : Option UserStatus :=
  (db.members.find? fun m => m.id = memberId).map fun m => m.status

/-- The member is invited again, and the invitation let through. -/
def Readmits (strings : Invite → Option Invite) (memberId : ℕ) (db : Db) : Action → Prop
  | .inviteMember adminId body => ∃ parsed db', inviteBodySchema strings body = some parsed ∧
    inviteMember db adminId parsed = .ok (db', memberId)
  | _ => False

/-- A deactivation of a removed member is let through. -/
def DeactivatesRemoved (db : Db) : Action → Prop
  | .deactivateMember adminId memberId =>
    statusOf db memberId = some .DELETED ∧ ∃ db', deactivateMember db adminId memberId = .ok db'
  | _ => False

/-! ### What each operation does -/

section
variable {strings : Invite → Option Invite} {db db' : Db} {adminId memberId k : ℕ} {target : Member}

theorem loadTarget_ok {members : List Member} {merchantId : ℕ}
    (h : loadTarget members merchantId memberId = .ok target) :
    members.find? (fun m => m.id = memberId) = some target ∧ target.id = memberId ∧ target.merchantId = merchantId := by
  simp only [loadTarget, bind_ok_iff, orReject_eq_ok, rejectIf_eq_ok, pure_eq_ok, ne_eq, not_not] at h
  obtain ⟨m, hfound, -, hmerchant, rfl⟩ := h
  exact ⟨hfound, (find_some hfound).2, hmerchant⟩

theorem inviteMember_ok {parsed : Invite} {id : ℕ} (h : inviteMember db adminId parsed = .ok (db', id)) :
    db' = db.updateMember id (Member.readmit parsed.toAccess adminId) ∨
      ∃ merchantId, db' = db.createMember merchantId adminId parsed := by
  simp only [inviteMember, bind_ok_iff] at h
  obtain ⟨-, -, merchantId, -, -, -, -, -, h⟩ := h
  split at h
  · simp only [bind_ok_iff, orReject_eq_ok, rejectIf_eq_ok, pure_eq_ok, Prod.mk.injEq] at h
    obtain ⟨member, -, -, -, rfl, rfl⟩ := h
    exact .inl rfl
  · simp only [pure_eq_ok, Prod.mk.injEq] at h
    exact .inr ⟨merchantId, h.1.symm⟩

theorem updateMemberAccess_ok {parsed : Access} (h : updateMemberAccess db adminId memberId parsed = .ok db') :
    db' = db.updateMember memberId (Member.withAccess parsed) := by
  simp only [updateMemberAccess, bind_ok_iff, pure_eq_ok] at h
  obtain ⟨-, -, merchantId, -, -, -, target, htarget, -, -, -, -, rfl⟩ := h
  rw [(loadTarget_ok htarget).2.1]

theorem deactivateMember_ok (h : deactivateMember db adminId memberId = .ok db') :
    db' = db.updateMember memberId Member.deactivate := by
  simp only [deactivateMember, bind_ok_iff, pure_eq_ok] at h
  obtain ⟨-, -, merchantId, -, target, htarget, -, -, rfl⟩ := h
  rw [(loadTarget_ok htarget).2.1]

theorem reactivateMember_ok (h : reactivateMember db adminId memberId = .ok db') :
    statusOf db memberId = some .INACTIVE ∧ db' = db.updateMember memberId Member.reactivate := by
  simp only [reactivateMember, bind_ok_iff, rejectIf_eq_ok, pure_eq_ok, ne_eq, not_not] at h
  obtain ⟨-, -, merchantId, -, target, htarget, -, hstatus, rfl⟩ := h
  obtain ⟨hfound, hid, -⟩ := loadTarget_ok htarget
  rw [statusOf, hfound, hid, Option.map_some, hstatus]
  exact ⟨rfl, rfl⟩

theorem removeMember_ok (h : removeMember db adminId memberId = .ok db') :
    db' = db.updateMember memberId Member.remove := by
  simp only [removeMember, bind_ok_iff, pure_eq_ok] at h
  obtain ⟨-, -, merchantId, -, target, htarget, -, -, rfl⟩ := h
  rw [(loadTarget_ok htarget).2.1]

/-! ### The status of one member -/

/-- An update changes the status of its own member only. -/
theorem statusOf_updateMember {f : Member → Member} (hid : ∀ m, (f m).id = m.id) {status : UserStatus}
    (h : statusOf db k = some status) (hf : ∀ m, m.id = k → m.status = status → k = memberId → (f m).status = status) :
    statusOf (db.updateMember memberId f) k = some status := by
  obtain ⟨m, hm, hstatus⟩ := Option.map_eq_some_iff.mp h
  rw [statusOf, Db.updateMember, find_updateMany hid, hm, Option.map_some, Option.map_some, Option.some_inj]
  split_ifs with hp
  · exact hf m (find_some hm).2 hstatus ((find_some hm).2.symm.trans hp)
  · exact hstatus

theorem statusOf_createMember {merchantId : ℕ} {parsed : Invite} {status : UserStatus}
    (h : statusOf db k = some status) : statusOf (db.createMember merchantId adminId parsed) k = some status := by
  obtain ⟨m, hm, hstatus⟩ := Option.map_eq_some_iff.mp h
  rw [statusOf, Db.createMember, List.find?_append, hm, Option.some_or, Option.map_some, hstatus]

/-- A removed member stays removed, unless the call invites it again or deactivates it. -/
theorem removed_step {a : Action} (h : statusOf db k = some .DELETED) (ha : ¬ DeactivatesRemoved db a)
    (hs : step strings db a = some db') : statusOf db' k = some .DELETED ∨ Readmits strings k db a := by
  cases Option.some.inj hs
  cases hexec : exec strings db a with
  | none => exact .inl h
  | some db' =>
    rw [Option.getD_some]
    cases a with
    | inviteMember adminId body =>
      obtain ⟨parsed, hparsed, hmap⟩ := Option.bind_eq_some_iff.mp hexec
      obtain ⟨⟨_, id⟩, hok, rfl⟩ := Option.map_eq_some_iff.mp hmap
      rw [toOption_eq_some] at hok
      rcases eq_or_ne k id with rfl | hne
      · exact .inr ⟨parsed, _, hparsed, hok⟩
      · rcases inviteMember_ok hok with rfl | ⟨merchantId, rfl⟩
        · exact .inl (statusOf_updateMember (f := Member.readmit _ _) (fun _ => rfl) h fun _ _ _ hid => absurd hid hne)
        · exact .inl (statusOf_createMember h)
    | updateMemberAccess adminId memberId body =>
      obtain ⟨parsed, -, hok⟩ := Option.bind_eq_some_iff.mp hexec
      rw [updateMemberAccess_ok (toOption_eq_some.mp hok)]
      exact .inl (statusOf_updateMember (f := Member.withAccess parsed) (fun _ => rfl) h fun _ _ hm _ => hm)
    | deactivateMember adminId memberId =>
      have hok := toOption_eq_some.mp hexec
      rw [deactivateMember_ok hok]
      refine .inl (statusOf_updateMember (f := Member.deactivate) (fun _ => rfl) h fun _ _ _ hid => ?_)
      exact absurd ⟨hid ▸ h, _, hok⟩ ha
    | reactivateMember adminId memberId =>
      obtain ⟨hinactive, rfl⟩ := reactivateMember_ok (toOption_eq_some.mp hexec)
      refine .inl (statusOf_updateMember (f := Member.reactivate) (fun _ => rfl) h fun _ _ _ hid => ?_)
      cases hinactive.symm.trans (hid ▸ h)
    | removeMember adminId memberId =>
      rw [removeMember_ok (toOption_eq_some.mp hexec)]
      exact .inl (statusOf_updateMember (f := Member.remove) (fun _ => rfl) h fun _ _ _ _ => rfl)

theorem removed_run {actions : List Action}
    (hal : Along (step strings) (fun db a => ¬ DeactivatesRemoved db a) db actions)
    (hrun : run (step strings) db actions = some db') (h : statusOf db k = some .DELETED) :
    statusOf db' k = some .DELETED ∨ Somewhere (step strings) (Readmits strings k) db actions := by
  induction actions generalizing db with
  | nil =>
    cases hrun
    exact .inl h
  | cons a actions ih =>
    obtain ⟨t, ht, hr⟩ := run_cons_eq_some.mp hrun
    rw [somewhere_cons ht]
    rcases removed_step h hal.1 ht with hstays | hreadmits
    · exact (ih (hal.2 t ht) hr hstays).imp_right .inr
    · exact .inr (.inl hreadmits)

/-- CORRECT: over any sequence of calls none of which deactivates a removed member, a member that is removed is
    ACTIVE again only after an invitation. -/
theorem removed_until_invited {actions : List Action}
    (hal : Along (step strings) (fun db a => ¬ DeactivatesRemoved db a) db actions)
    (hrun : run (step strings) db actions = some db') (hremoved : statusOf db k = some .DELETED)
    (hactive : statusOf db' k = some .ACTIVE) : Somewhere (step strings) (Readmits strings k) db actions := by
  refine (removed_run hal hrun hremoved).resolve_left fun hdeleted => ?_
  cases hdeleted.symm.trans hactive

end

/-! ### A removed member who comes back -/

def member (id merchantAdminId : ℕ) (role : MerchantRole) : Member where
  merchantId := 0
  merchantAdminId := merchantAdminId
  role := role
  allBranches := true
  canManageVouchers := false
  status := .ACTIVE
  branches := []
  id := id
  invitedById := none

def barista : Invite where
  role := .STAFF
  allBranches := true
  branchIds := none
  canManageVouchers := none
  email := "barista@example.com"
  firstName := "B"
  lastName := "A"
  jobTitle := none

/-- An owner and a member. -/
def cafe : Db where
  merchants := [⟨0, .ACTIVE, .LIVE⟩]
  branches := []
  admins := [⟨0, "owner@example.com", "O", "W", none, some "hash", .ACTIVE, true⟩,
    ⟨1, "barista@example.com", "B", "A", none, some "hash", .ACTIVE, true⟩]
  members := [member 2 0 .OWNER, member 3 1 .STAFF]
  nextId := 4

/-- The member is removed, deactivated and reactivated. -/
theorem removed_member_restored : ∃ removed restored, run (step some) cafe [.removeMember 0 3] = some removed ∧
    statusOf removed 3 = some .DELETED ∧
    run (step some) removed [.deactivateMember 0 3, .reactivateMember 0 3] = some restored ∧
    statusOf restored 3 = some .ACTIVE ∧
    ¬ Somewhere (step some) (Readmits some 3) removed [.deactivateMember 0 3, .reactivateMember 0 3] := by
  refine ⟨_, _, rfl, by decide, rfl, by decide, ?_⟩
  rintro (hinvites | ⟨_, _, hinvites | ⟨_, _, hinvites⟩⟩)
  · exact hinvites
  · exact hinvites
  · exact hinvites

theorem removed_until_invited_barista :
    Somewhere (step some) (Readmits some 3) ((step some cafe (.removeMember 0 3)).getD cafe)
      [.inviteMember 0 barista] :=
  removed_until_invited ⟨id, fun _ _ => trivial⟩ rfl (by decide) (by decide)

end Redeemo.Staff
