import Redeemo.Lib.Rows
import Redeemo.Lib.Runs
import Redeemo.Voucher.Activation

/-! The review of a merchant's application, one operation at a time.

    The application is one approval row, which a resubmission opens again, and beside it the merchant's
    `status` and `onboardingStep`; every operation of the review writes both records. Suspension overwrites
    the status whatever it was, and reactivation makes any suspended merchant ACTIVE: that is the one way
    to go live that does not pass the gates. -/

namespace Redeemo.OnboardingReview
open Fallible Rows Runs Vouchers Onboarding
open Activation (Db Failure)
open BranchLifecycle (Branch)

variable {Bag : Type}

/-! ### Submission -/

inductive AdminRole
  | SUPER_ADMIN | OPERATIONS | FINANCE | CONTENT | SUPPORT | FIELD
  deriving DecidableEq, Repr

/-- The first submission, or one after changes were requested. -/
def CanSubmit (merchant : OnboardingMerchant) : Prop :=
  merchant.status = .REGISTERED ∨ merchant.status = .PENDING_APPROVAL ∧ merchant.onboardingStep = .NEEDS_CHANGES

instance : DecidablePred CanSubmit := fun m => inferInstanceAs
  (Decidable (m.status = .REGISTERED ∨ m.status = .PENDING_APPROVAL ∧ m.onboardingStep = .NEEDS_CHANGES))

/-- Branches that are deleted do not count. -/
def computeOnboardingChecklist (db : Db Bag) (merchant : OnboardingMerchant) : OnboardingChecklist :=
  checklistOf merchant (db.branches.countP fun b => b.merchantId = merchant.id ∧ b.deletedAt = none)
    (db.rmvCount merchant.id)

def AllComplete (checklist : OnboardingChecklist) : Prop :=
  checklist.branch_created = true ∧ checklist.contract_signed = true ∧ checklist.rmv_configured = true

instance : DecidablePred AllComplete := fun c => inferInstanceAs
  (Decidable (c.branch_created = true ∧ c.contract_signed = true ∧ c.rmv_configured = true))

def submitted (merchant : OnboardingMerchant) : OnboardingMerchant :=
  { merchant with status := .PENDING_APPROVAL, onboardingStep := .SUBMITTED, verificationStatus := .PENDING }

def newOnboarding (id merchantId : ℕ) : AdminApproval where
  id := id
  type := .MERCHANT_ONBOARDING
  referenceId := merchantId
  referenceType := "merchant"
  status := .PENDING
  comment := some "Merchant submitted for onboarding approval"
  adminUserId := none
  actionedAt := none
  claimedById := none
  claimedAt := none

/-- The admin who asked for the changes stays on the row, and is the one who is told. -/
def reopenOnboarding (approval : AdminApproval) : AdminApproval :=
  { approval with
    status := .PENDING
    claimedById := none
    claimedAt := none
    actionedAt := none
    comment := some "Merchant resubmitted for onboarding approval" }

/-- The approval rows of a merchant's application. -/
def OnboardingOf (merchantId : ℕ) (r : AdminApproval) : Prop :=
  r.type = .MERCHANT_ONBOARDING ∧ r.referenceId = merchantId

instance (merchantId : ℕ) : DecidablePred (OnboardingOf merchantId) :=
  fun r => inferInstanceAs (Decidable (r.type = .MERCHANT_ONBOARDING ∧ r.referenceId = merchantId))

/-- The approval is opened again, or created. -/
def submitOnboarding (db : Db Bag) (merchantId : ℕ) : Db Bag :=
  match db.approvals.find? fun r => OnboardingOf merchantId r with
  | some existing => db.updateApproval existing.id reopenOnboarding
  | none =>
    { db with approvals := db.approvals ++ [newOnboarding db.nextId merchantId], nextId := db.nextId + 1 }

def submitForApprovalCore (db : Db Bag) (merchantId : ℕ) : Except Failure (Db Bag) := do
  let merchant ← orReject (db.findMerchant merchantId) (.app .MERCHANT_NOT_FOUND)
  rejectIf (¬ CanSubmit merchant) (.app .ALREADY_SUBMITTED)
  rejectIf (¬ AllComplete (computeOnboardingChecklist db merchant)) (.app .ONBOARDING_GATES_INCOMPLETE_BARE)
  return submitOnboarding (db.updateMerchants (fun m => m.id = merchantId) submitted) merchantId

/-! ### The claim -/

def atStep (step : OnboardingStep) (merchant : OnboardingMerchant) : OnboardingMerchant :=
  { merchant with onboardingStep := step }

/-- `merchant.update`, of the merchant that an onboarding approval is about; other types have no such
    side-effect. -/
def updateReferenced (db : Db Bag) (approval : AdminApproval) (f : OnboardingMerchant → OnboardingMerchant) :
    Except Failure (Db Bag) :=
  if approval.type = .MERCHANT_ONBOARDING then do
    let _ ← orReject (db.findMerchant approval.referenceId) .P2025
    return db.updateMerchants (fun m => m.id = approval.referenceId) f
  else return db

def Claimable (id : ℕ) (r : AdminApproval) : Prop := r.id = id ∧ r.claimedById = none ∧ r.status = .PENDING

instance (id : ℕ) : DecidablePred (Claimable id) :=
  fun r => inferInstanceAs (Decidable (r.id = id ∧ r.claimedById = none ∧ r.status = .PENDING))

def claim (adminId : ℕ) (now : ℤ) (r : AdminApproval) : AdminApproval :=
  { r with claimedById := some adminId, claimedAt := some now }

def release (r : AdminApproval) : AdminApproval := { r with claimedById := none, claimedAt := none }

def claimApproval (db : Db Bag) (id adminId : ℕ) (now : ℤ) : Except Failure (Db Bag) := do
  let approval ← orReject (db.findApproval id) (.app .APPROVAL_NOT_FOUND)
  rejectIf (∀ r ∈ db.approvals, ¬ Claimable id r) (.app .APPROVAL_ALREADY_CLAIMED)
  updateReferenced { db with approvals := updateMany (Claimable id) (claim adminId now) db.approvals } approval
    (atStep .UNDER_REVIEW)

def releaseApproval (db : Db Bag) (id adminId : ℕ) (adminRole : AdminRole) : Except Failure (Db Bag) := do
  let approval ← orReject (db.findApproval id) (.app .APPROVAL_NOT_FOUND)
  let claimedById ← orReject approval.claimedById (.app .APPROVAL_NOT_ACTIONABLE)
  rejectIf (claimedById ≠ adminId ∧ adminRole ≠ .SUPER_ADMIN) (.app .APPROVAL_NOT_CLAIMER)
  updateReferenced (db.updateApproval id release) approval (atStep .SUBMITTED)

/-! ### The decisions -/

/-- What `requestChanges` and `rejectApproval` check. -/
def checkUndecided (db : Db Bag) (id : ℕ) : Except Failure AdminApproval := do
  let approval ← orReject (db.findApproval id) (.app .APPROVAL_NOT_FOUND)
  rejectIf (approval.type ≠ .MERCHANT_ONBOARDING ∨ approval.status ∉ ACTIONABLE_STATUSES)
    (.app .APPROVAL_NOT_ACTIONABLE)
  let merchant ← orReject (db.findMerchant approval.referenceId) (.app .APPROVAL_NOT_ACTIONABLE)
  rejectIf (merchant.status = .ACTIVE) (.app .APPROVAL_NOT_ACTIONABLE)
  return approval

def rejected (merchant : OnboardingMerchant) : OnboardingMerchant :=
  { merchant with status := .INACTIVE, onboardingStep := .REJECTED, verificationStatus := .REJECTED }

def requestChanges (db : Db Bag) (id adminId : ℕ) (reason : String) (now : ℤ) : Except Failure (Db Bag) := do
  let approval ← checkUndecided db id
  return (db.updateApproval id (AdminApproval.decide .CHANGES_REQUESTED (some reason) adminId now)).updateMerchants
    (fun m => m.id = approval.referenceId) (atStep .NEEDS_CHANGES)

def rejectApproval (db : Db Bag) (id adminId : ℕ) (reason : String) (now : ℤ) : Except Failure (Db Bag) := do
  let approval ← checkUndecided db id
  return (db.updateApproval id (AdminApproval.decide .REJECTED (some reason) adminId now)).updateMerchants
    (fun m => m.id = approval.referenceId) rejected

/-! ### Suspension -/

def suspended (merchant : OnboardingMerchant) : OnboardingMerchant :=
  { merchant with status := .SUSPENDED, onboardingStep := .SUSPENDED }

def reactivated (merchant : OnboardingMerchant) : OnboardingMerchant :=
  { merchant with status := .ACTIVE, onboardingStep := .LIVE }

/-- With whether the merchant was suspended before. -/
def suspendMerchant (db : Db Bag) (merchantId : ℕ) : Except Failure (Db Bag × Bool) := do
  let merchant ← orReject (db.findMerchant merchantId) (.app .MERCHANT_NOT_FOUND)
  if merchant.status = .SUSPENDED then return (db, true)
  else return (db.updateMerchants (fun m => m.id = merchantId) suspended, false)

/-- With whether the merchant was ACTIVE before. -/
def reactivateMerchant (db : Db Bag) (merchantId : ℕ) : Except Failure (Db Bag × Bool) := do
  let merchant ← orReject (db.findMerchant merchantId) (.app .MERCHANT_NOT_FOUND)
  if merchant.status = .ACTIVE then return (db, true)
  else
    rejectIf (merchant.status ≠ .SUSPENDED) (.app .MERCHANT_NOT_SUSPENDED)
    return (db.updateMerchants (fun m => m.id = merchantId) reactivated, false)

/-! ### Runs -/

/-- What other operations make of the merchants' branches, vouchers and contracts meanwhile. -/
structure SetUp (Bag : Type) where
  branches : List Branch
  vouchers : List (Voucher Bag)
  contractStatus : ℕ → ContractStatus

def SetUp.apply (setUp : SetUp Bag) (db : Db Bag) : Db Bag :=
  { db with
    branches := setUp.branches
    vouchers := setUp.vouchers
    merchants := db.merchants.map fun m => { m with contractStatus := setUp.contractStatus m.id } }

inductive Action (Bag : Type)
  | submitForApprovalCore (merchantId : ℕ)
  | claimApproval (id adminId : ℕ) (now : ℤ)
  | releaseApproval (id adminId : ℕ) (adminRole : AdminRole)
  | requestChanges (id adminId : ℕ) (reason : String) (now : ℤ)
  | rejectApproval (id adminId : ℕ) (reason : String) (now : ℤ)
  | approveApproval (id adminId : ℕ) (now : ℤ)
  | suspendMerchant (merchantId : ℕ)
  | reactivateMerchant (merchantId : ℕ)
  | setUp (setUp : SetUp Bag)

def exec (db : Db Bag) : Action Bag → Option (Db Bag)
  | .submitForApprovalCore merchantId => (submitForApprovalCore db merchantId).toOption
  | .claimApproval id adminId now => (claimApproval db id adminId now).toOption
  | .releaseApproval id adminId adminRole => (releaseApproval db id adminId adminRole).toOption
  | .requestChanges id adminId reason now => (requestChanges db id adminId reason now).toOption
  | .rejectApproval id adminId reason now => (rejectApproval db id adminId reason now).toOption
  | .approveApproval id adminId now => (Activation.approveApproval db id adminId now).toOption.map Prod.fst
  | .suspendMerchant merchantId => (suspendMerchant db merchantId).toOption.map Prod.fst
  | .reactivateMerchant merchantId => (reactivateMerchant db merchantId).toOption.map Prod.fst
  | .setUp setUp => some (setUp.apply db)

/-- An operation that throws leaves the tables as they were. -/
def step (db : Db Bag) (a : Action Bag) : Option (Db Bag) := some ((exec db a).getD db)

/-! ### What each operation does -/

section
variable {db db' : Db Bag} {id adminId merchantId : ℕ} {now : ℤ} {reason : String} {approval : AdminApproval}

theorem submitForApprovalCore_ok (h : submitForApprovalCore db merchantId = .ok db') :
    ∃ merchant, db.findMerchant merchantId = some merchant ∧ CanSubmit merchant ∧
      db' = submitOnboarding (db.updateMerchants (fun m => m.id = merchantId) submitted) merchantId := by
  simp only [submitForApprovalCore, bind_ok_iff, orReject_eq_ok, rejectIf_eq_ok, pure_eq_ok, not_not] at h
  obtain ⟨merchant, hfound, -, hcan, -, -, rfl⟩ := h
  exact ⟨merchant, hfound, hcan, rfl⟩

theorem updateReferenced_ok {f : OnboardingMerchant → OnboardingMerchant}
    (h : updateReferenced db approval f = .ok db') :
    (approval.type = .MERCHANT_ONBOARDING ∧ db' = db.updateMerchants (fun m => m.id = approval.referenceId) f) ∨
      (approval.type ≠ .MERCHANT_ONBOARDING ∧ db' = db) := by
  rw [updateReferenced] at h
  split_ifs at h with htype
  · simp only [bind_ok_iff, pure_eq_ok] at h
    obtain ⟨-, -, rfl⟩ := h
    exact .inl ⟨htype, rfl⟩
  · rw [pure_eq_ok] at h
    exact .inr ⟨htype, h.symm⟩

theorem claimApproval_ok (h : claimApproval db id adminId now = .ok db') :
    ∃ approval, db.findApproval id = some approval ∧ (∃ r ∈ db.approvals, Claimable id r) ∧
      updateReferenced { db with approvals := updateMany (Claimable id) (claim adminId now) db.approvals }
        approval (atStep .UNDER_REVIEW) = .ok db' := by
  simp only [claimApproval, bind_ok_iff, orReject_eq_ok, rejectIf_eq_ok] at h
  obtain ⟨approval, hfound, -, hclaimable, h⟩ := h
  refine ⟨approval, hfound, ?_, h⟩
  by_contra hno
  exact hclaimable fun r hr hc => hno ⟨r, hr, hc⟩

theorem releaseApproval_ok {adminRole : AdminRole} (h : releaseApproval db id adminId adminRole = .ok db') :
    ∃ approval, db.findApproval id = some approval ∧ approval.claimedById ≠ none ∧
      updateReferenced (db.updateApproval id release) approval (atStep .SUBMITTED) = .ok db' := by
  simp only [releaseApproval, bind_ok_iff, orReject_eq_ok] at h
  obtain ⟨approval, hfound, claimedById, hclaimed, -, -, h⟩ := h
  refine ⟨approval, hfound, ?_, h⟩
  rw [hclaimed]
  exact Option.some_ne_none _

theorem checkUndecided_ok (h : checkUndecided db id = .ok approval) :
    db.findApproval id = some approval ∧ approval.type = .MERCHANT_ONBOARDING ∧
      approval.status ∈ ACTIONABLE_STATUSES ∧
      ∃ merchant, db.findMerchant approval.referenceId = some merchant ∧ merchant.status ≠ .ACTIVE := by
  simp only [checkUndecided, bind_ok_iff, orReject_eq_ok, rejectIf_eq_ok, pure_eq_ok, not_or, not_not] at h
  obtain ⟨_, hfound, -, ⟨htype, hstatus⟩, merchant, hmerchant, -, hlive, rfl⟩ := h
  exact ⟨hfound, htype, hstatus, merchant, hmerchant, hlive⟩

theorem requestChanges_ok (h : requestChanges db id adminId reason now = .ok db') :
    ∃ approval, checkUndecided db id = .ok approval ∧
      db' = (db.updateApproval id (AdminApproval.decide .CHANGES_REQUESTED (some reason) adminId now)).updateMerchants
        (fun m => m.id = approval.referenceId) (atStep .NEEDS_CHANGES) := by
  simp only [requestChanges, bind_ok_iff, pure_eq_ok] at h
  obtain ⟨approval, hcheck, rfl⟩ := h
  exact ⟨approval, hcheck, rfl⟩

theorem rejectApproval_ok (h : rejectApproval db id adminId reason now = .ok db') :
    ∃ approval, checkUndecided db id = .ok approval ∧
      db' = (db.updateApproval id (AdminApproval.decide .REJECTED (some reason) adminId now)).updateMerchants
        (fun m => m.id = approval.referenceId) rejected := by
  simp only [rejectApproval, bind_ok_iff, pure_eq_ok] at h
  obtain ⟨approval, hcheck, rfl⟩ := h
  exact ⟨approval, hcheck, rfl⟩

theorem suspendMerchant_ok {already : Bool} (h : suspendMerchant db merchantId = .ok (db', already)) :
    db' = db ∨ db' = db.updateMerchants (fun m => m.id = merchantId) suspended := by
  simp only [suspendMerchant, bind_ok_iff, ite_eq_iff, pure_eq_ok, Prod.mk.injEq] at h
  obtain ⟨-, -, ⟨-, rfl, -⟩ | ⟨-, rfl, -⟩⟩ := h
  · exact .inl rfl
  · exact .inr rfl

theorem reactivateMerchant_ok {already : Bool} (h : reactivateMerchant db merchantId = .ok (db', already)) :
    db' = db ∨ (∃ merchant, db.findMerchant merchantId = some merchant ∧ merchant.status = .SUSPENDED) ∧
      db' = db.updateMerchants (fun m => m.id = merchantId) reactivated := by
  simp only [reactivateMerchant, bind_ok_iff, orReject_eq_ok, ite_eq_iff, rejectIf_eq_ok, pure_eq_ok,
    Prod.mk.injEq, ne_eq, not_not] at h
  obtain ⟨merchant, hfound, ⟨-, rfl, -⟩ | ⟨-, -, hs, rfl, -⟩⟩ := h
  · exact .inl rfl
  · exact .inr ⟨⟨merchant, hfound, hs⟩, rfl⟩

/-- The gates of `approveApproval`, for a merchant. -/
structure PassesGates (db : Db Bag) (id merchantId : ℕ) (approval : AdminApproval)
    (merchant : OnboardingMerchant) : Prop where
  onboarding : checkOnboardingApproval (db.findApproval id) = .ok approval
  reference : approval.referenceId = merchantId
  found : db.findMerchant merchantId = some merchant
  notLive : merchant.status ≠ .ACTIVE
  applicant : checkApplicant approval merchant = .ok ()
  /-- A branch, a signed contract and two submitted flagships. -/
  checklist : checkGates merchant (db.branches.countP fun b => b.merchantId = merchantId)
    (db.rmvCount merchantId) = .ok ()
  mainBranchLocation : checkMainBranch (checklistOf merchant
    (db.branches.countP fun b => b.merchantId = merchantId) (db.rmvCount merchantId))
    (db.branches.find? fun b => b.merchantId = merchantId ∧ b.isMainBranch = true ∧ b.isActive = true) = .ok ()

/-- `approveApproval` finds the merchant live, or takes it there through the gates. -/
theorem approveApproval_ok {alreadyLive : Bool}
    (h : Activation.approveApproval db id adminId now = .ok (db', alreadyLive)) :
    db' = db ∨ ∃ merchantId approval merchant, PassesGates db id merchantId approval merchant ∧
      db'.merchants = (db.updateMerchants (fun m => m.id = merchantId ∧ m.status ≠ .ACTIVE)
        OnboardingMerchant.goLive).merchants ∧
      db'.approvals = (db.updateApproval id (AdminApproval.decide .APPROVED none adminId now)).approvals ∧
      db'.nextId = db.nextId := by
  simp only [Activation.approveApproval, bind_ok_iff, orReject_eq_ok, ite_eq_iff, pure_eq_ok, Prod.mk.injEq] at h
  obtain ⟨approval, ha, merchant, hm, ⟨-, rfl, -⟩ | ⟨hs, ⟨⟩, happlicant, ⟨⟩, hgates, ⟨⟩, hmain, rfl, -⟩⟩ := h
  · exact .inl rfl
  · have hid : merchant.id = approval.referenceId := (find_some hm).2
    rw [← hid] at hm
    exact .inr ⟨merchant.id, approval, merchant, ⟨ha, hid.symm, hm, hs, happlicant, hgates, hmain⟩, rfl, rfl, rfl⟩

/-! ### The gates of going live -/

/-- A merchant goes live through the gates. -/
def Approves (merchantId : ℕ) (db : Db Bag) : Action Bag → Prop
  | .approveApproval id _ _ => ∃ approval merchant, PassesGates db id merchantId approval merchant
  | _ => False

/-- A merchant goes live from suspension. -/
def Reactivates (merchantId : ℕ) (db : Db Bag) : Action Bag → Prop
  | .reactivateMerchant id => id = merchantId ∧
      ∃ merchant, db.findMerchant merchantId = some merchant ∧ merchant.status = .SUSPENDED
  | _ => False

theorem isLive_congr (h : db'.merchants = db.merchants) : db'.IsLive merchantId ↔ db.IsLive merchantId := by
  rw [Activation.Db.IsLive, Activation.Db.IsLive, Activation.Db.findMerchant, Activation.Db.findMerchant, h]

theorem isLive_of_updateMerchants {p : OnboardingMerchant → Prop} [DecidablePred p]
    {f : OnboardingMerchant → OnboardingMerchant} (hid : ∀ m, (f m).id = m.id)
    (hf : ∀ m, (f m).status = .ACTIVE → m.status = .ACTIVE)
    (h : (db.updateMerchants p f).IsLive merchantId) : db.IsLive merchantId := by
  obtain ⟨m, hm, hs⟩ := (Activation.isLive_updateMerchants hid).mp h
  refine Activation.isLive_iff.mpr ⟨m, hm, ?_⟩
  split_ifs at hs
  · exact hf m hs
  · exact hs

/-- An update of other merchants. -/
theorem isLive_updateMerchants_other {p : OnboardingMerchant → Prop} [DecidablePred p]
    {f : OnboardingMerchant → OnboardingMerchant} (hid : ∀ m, (f m).id = m.id)
    (hp : ∀ m : OnboardingMerchant, m.id = merchantId → ¬ p m)
    (h : (db.updateMerchants p f).IsLive merchantId) : db.IsLive merchantId := by
  obtain ⟨m, hm, hs⟩ := (Activation.isLive_updateMerchants hid).mp h
  rw [if_neg (hp m (find_some hm).2)] at hs
  exact Activation.isLive_iff.mpr ⟨m, hm, hs⟩

theorem merchants_submitOnboarding (db : Db Bag) (merchantId : ℕ) :
    (submitOnboarding db merchantId).merchants = db.merchants := by
  rw [submitOnboarding]
  split
  · rfl
  · rfl

theorem isLive_of_updateReferenced {f : OnboardingMerchant → OnboardingMerchant} (hid : ∀ m, (f m).id = m.id)
    (hf : ∀ m, (f m).status = m.status) (h : updateReferenced db approval f = .ok db')
    (hlive : db'.IsLive merchantId) : db.IsLive merchantId := by
  rcases updateReferenced_ok h with ⟨-, rfl⟩ | ⟨-, rfl⟩
  · exact isLive_of_updateMerchants hid (fun m hs => (hf m).symm.trans hs) hlive
  · exact hlive

theorem isLive_setUp {setUp : SetUp Bag} : (setUp.apply db).IsLive merchantId ↔ db.IsLive merchantId := by
  rw [Activation.Db.IsLive, Activation.Db.IsLive, Activation.Db.findMerchant, Activation.Db.findMerchant,
    SetUp.apply, List.find?_map, Option.map_map]
  exact Iff.rfl

/-- Only an approval or a reactivation makes a merchant live. -/
theorem isLive_exec {a : Action Bag} (h : exec db a = some db') (hlive : db'.IsLive merchantId) :
    db.IsLive merchantId ∨ Approves merchantId db a ∨ Reactivates merchantId db a := by
  cases a with
  | submitForApprovalCore other =>
    obtain ⟨merchant, -, -, rfl⟩ := submitForApprovalCore_ok (toOption_eq_some.mp h)
    rw [isLive_congr (merchants_submitOnboarding _ _)] at hlive
    exact .inl (isLive_of_updateMerchants (f := submitted) (fun _ => rfl) (fun _ hs => by cases hs) hlive)
  | claimApproval id adminId now =>
    obtain ⟨approval, -, -, h⟩ := claimApproval_ok (toOption_eq_some.mp h)
    have hbefore := isLive_of_updateReferenced (f := atStep .UNDER_REVIEW) (fun _ => rfl) (fun _ => rfl) h hlive
    exact .inl ((isLive_congr rfl).mp hbefore)
  | releaseApproval id adminId adminRole =>
    obtain ⟨approval, -, -, h⟩ := releaseApproval_ok (toOption_eq_some.mp h)
    have hbefore := isLive_of_updateReferenced (f := atStep .SUBMITTED) (fun _ => rfl) (fun _ => rfl) h hlive
    exact .inl ((isLive_congr rfl).mp hbefore)
  | requestChanges id adminId reason now =>
    obtain ⟨approval, -, rfl⟩ := requestChanges_ok (toOption_eq_some.mp h)
    have hbefore := isLive_of_updateMerchants (f := atStep .NEEDS_CHANGES) (fun _ => rfl) (fun _ hs => hs) hlive
    exact .inl ((isLive_congr rfl).mp hbefore)
  | rejectApproval id adminId reason now =>
    obtain ⟨approval, -, rfl⟩ := rejectApproval_ok (toOption_eq_some.mp h)
    have hbefore := isLive_of_updateMerchants (f := rejected) (fun _ => rfl) (fun _ hs => by cases hs) hlive
    exact .inl ((isLive_congr rfl).mp hbefore)
  | approveApproval id adminId now =>
    obtain ⟨⟨_, alreadyLive⟩, hok, rfl⟩ := Option.map_eq_some_iff.mp h
    rcases approveApproval_ok (toOption_eq_some.mp hok) with rfl | ⟨other, approval, merchant, hgates, hm, -, -⟩
    · exact .inl hlive
    · by_cases hne : other = merchantId
      · subst hne
        exact .inr (.inl ⟨approval, merchant, hgates⟩)
      · refine .inl (isLive_updateMerchants_other (f := OnboardingMerchant.goLive) (fun _ => rfl) ?_
          ((isLive_congr hm).mp hlive))
        exact fun m hid hp => hne (hp.1.symm.trans hid)
  | suspendMerchant other =>
    obtain ⟨⟨_, already⟩, hok, rfl⟩ := Option.map_eq_some_iff.mp h
    rcases suspendMerchant_ok (toOption_eq_some.mp hok) with rfl | rfl
    · exact .inl hlive
    · exact .inl (isLive_of_updateMerchants (f := suspended) (fun _ => rfl) (fun _ hs => by cases hs) hlive)
  | reactivateMerchant other =>
    obtain ⟨⟨_, already⟩, hok, rfl⟩ := Option.map_eq_some_iff.mp h
    rcases reactivateMerchant_ok (toOption_eq_some.mp hok) with rfl | ⟨hsuspended, rfl⟩
    · exact .inl hlive
    · by_cases hne : other = merchantId
      · subst hne
        exact .inr (.inr ⟨rfl, hsuspended⟩)
      · refine .inl (isLive_updateMerchants_other (f := reactivated) (fun _ => rfl) ?_ hlive)
        exact fun m hid hp => hne (hp.symm.trans hid)
  | setUp setUp =>
    cases h
    exact .inl (isLive_setUp.mp hlive)

theorem isLive_step {a : Action Bag} (h : step db a = some db') (hlive : db'.IsLive merchantId) :
    db.IsLive merchantId ∨ Approves merchantId db a ∨ Reactivates merchantId db a := by
  cases Option.some.inj h
  cases hexec : exec db a with
  | none =>
    rw [hexec] at hlive
    exact .inl hlive
  | some db' =>
    rw [hexec] at hlive
    exact isLive_exec hexec hlive

theorem isLive_of_reactivates {a : Action Bag} (h : Reactivates merchantId db a) :
    ¬ Approves merchantId db a ∧ ∃ db', step db a = some db' ∧ db'.IsLive merchantId := by
  cases a with
  | reactivateMerchant other =>
    obtain ⟨rfl, merchant, hfound, hs⟩ := h
    refine ⟨id, _, rfl, ?_⟩
    have hok : reactivateMerchant db other =
        .ok (db.updateMerchants (fun m => m.id = other) reactivated, false) := by
      simp only [reactivateMerchant, bind_ok_iff, orReject_eq_ok, ite_eq_iff, rejectIf_eq_ok]
      exact ⟨merchant, hfound, .inr ⟨ne_of_eq_of_ne hs (by decide), (), not_not.mpr hs, rfl⟩⟩
    rw [exec, hok]
    refine (Activation.isLive_updateMerchants (f := reactivated) fun _ => rfl).mpr ⟨merchant, hfound, ?_⟩
    rw [if_pos (find_some hfound).2]
    rfl
  | submitForApprovalCore | claimApproval | releaseApproval | requestChanges | rejectApproval | approveApproval
  | suspendMerchant | setUp => exact h.elim

/-- In every state of the run in which the merchant is ACTIVE, an approval has passed its gates before. -/
def GoLiveGated (merchantId : ℕ) (db : Db Bag) (as : List (Action Bag)) : Prop :=
  ∀ xs ys db', as = xs ++ ys → run step db xs = some db' → db'.IsLive merchantId →
    Somewhere step (Approves merchantId) db xs

/-- Whenever the merchant is reactivated from suspension, an approval has passed its gates before. -/
def ReactivatedOnlyApproved (merchantId : ℕ) (db : Db Bag) (as : List (Action Bag)) : Prop :=
  ∀ xs a ys db', as = xs ++ a :: ys → run step db xs = some db' → Reactivates merchantId db' a →
    Somewhere step (Approves merchantId) db xs

/-- CORRECT: a merchant that starts out REGISTERED is ACTIVE only after an approval that has passed the
    gates for it, if and only if it is never reactivated from a suspension that came before every such
    approval. -/
theorem go_live_gated_iff {as : List (Action Bag)}
    (hnew : ∃ merchant, db.findMerchant merchantId = some merchant ∧ merchant.status = .REGISTERED) :
    GoLiveGated merchantId db as ↔ ReactivatedOnlyApproved merchantId db as := by
  refine caused_iff (fun hlive => ?_) (fun _ _ _ => isLive_step) fun _ _ => isLive_of_reactivates
  obtain ⟨merchant, hfound, hs⟩ := hnew
  obtain ⟨m, hm, hactive⟩ := Activation.isLive_iff.mp hlive
  cases hfound.symm.trans hm
  cases hs.symm.trans hactive

end

/-! ### A suspension before the first submission -/

/-- A merchant that has just registered. -/
def registered (id : ℕ) : OnboardingMerchant where
  id := id
  status := .REGISTERED
  onboardingStep := .REGISTERED
  verificationStatus := .NOT_SUBMITTED
  contractStatus := .NOT_SIGNED
  isTestData := false
  primaryCategoryId := none

def registeredDb : Db Unit where
  memberships := []
  merchants := [registered 1]
  branches := []
  categories := []
  rmvTemplates := []
  vouchers := []
  approvals := []
  nextId := 2

/-- Suspended and reactivated, a merchant is live that has never applied. -/
theorem unapproved_live : ¬ GoLiveGated 1 registeredDb [.suspendMerchant 1, .reactivateMerchant 1] := by
  intro h
  have hlive := h [.suspendMerchant 1, .reactivateMerchant 1] [] _ rfl rfl (by decide)
  rcases hlive with hno | ⟨db, -, hno | ⟨db', -, hno⟩⟩
  · exact hno
  · exact hno
  · exact hno

/-- A merchant that is only suspended does not go live. -/
theorem suspended_gated : GoLiveGated 1 registeredDb [.suspendMerchant 1] := by
  refine (go_live_gated_iff ⟨_, rfl, rfl⟩).mpr fun xs a ys db' he hr hre => ?_
  cases xs with
  | nil =>
    cases he
    exact hre.elim
  | cons x xs =>
    have hlength := congrArg List.length he
    simp at hlength

end Redeemo.OnboardingReview
