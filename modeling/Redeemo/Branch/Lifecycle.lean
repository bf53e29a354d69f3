import Redeemo.Branch.Tables
import Redeemo.Lib.Runs

/-! The operations of the branch lifecycle.

    A merchant's first branch is live at once; every later one waits, as PENDING_CREATE, for its
    BRANCH_CREATE approval. A close is requested, and waits as PENDING_CLOSE for its BRANCH_CLOSE
    approval. A request runs to its end before the next; one that throws leaves the tables alone.

    What an operation can do is said once for each, with the checks that let it through
    (`createBranch_ok`, `updateBranch_ok_iff`, ...); the invariants are read off from these. -/

namespace Redeemo.BranchLifecycle
open Fallible Rows Runs

/-! ### What a request is given -/

/-- What a request learns from outside the tables: the clock, postcodes.io with the locality table, the
    cross-check of a suggestion against the entered postcode and its centroid, and whether the database
    takes the values of an update. -/
structure Outside where
  now : ℤ
  resolvePostcode : String → Except AppError Patch
  crossCheckGoogleLocation : BranchLocationSuggestion → String → Patch → Bool
  accepts : BranchData → Bool

inductive Failure
  | app (e : AppError)
  /-- A value that the database does not take. -/
  | invalidValue
  /-- A foreign key. -/
  | P2003
  deriving DecidableEq, Repr

/-- `updateBranchBody`: any other name passes through, and the service looks at the columns' only. -/
structure PatchBody where
  columns : Patch
  isActive : Option Bool
  isMainBranch : Option Bool

structure PatchRequest where
  adminId : ℕ
  branchId : ℕ
  data : PatchBody
  suggestion : Option BranchLocationSuggestion

def appResult {α : Type} : Except AppError α → Except Failure α
  | .ok a => .ok a
  | .error e => .error (.app e)

theorem appResult_eq_ok {α : Type} {x : Except AppError α} {a : α} :
    appResult x = .ok a ↔ x = .ok a := by
  cases x with
  | ok b => simp [appResult]
  | error e => simp [appResult]

def CREATE_FIELDS : List Column :=
  [.name, .addressLine1, .addressLine2, .city, .postcode, .country, .phone, .email, .websiteUrl,
    .logoUrl, .bannerUrl, .about]

def SENSITIVE_FIELDS : List Column :=
  [.name, .about, .addressLine1, .addressLine2, .city, .postcode, .latitude, .longitude, .logoUrl,
    .bannerUrl]

/-- DIRECT_FIELDS, less `isActive`. -/
def DIRECT_FIELDS : List Column := [.phone, .email, .websiteUrl]

def LOCATION_FIELDS : List Column :=
  [.latitude, .longitude, .localityId, .localityName, .postTown, .ladDistrict, .adminCounty, .region,
    .locationCountry, .locationResolvedAt]

/-! ### Location -/

/-- White space, as `trim` takes it. -/
def isSpace (c : Char) : Bool :=
  (9 ≤ c.toNat && c.toNat ≤ 13) || (0x2000 ≤ c.toNat && c.toNat ≤ 0x200A) ||
    [32, 0xA0, 0x1680, 0x2028, 0x2029, 0x202F, 0x205F, 0x3000, 0xFEFF].contains c.toNat

/-- `typeof v === 'string' && v.trim().length > 0`. -/
def nonBlank : Option Value → Option String
  | some (.string s) => if s.toList.all isSpace then none else some s
  | _ => none

def isNumber : Option Value → Bool
  | some (.number _) => true
  | _ => false

namespace BranchData

/-- `Object.assign`. -/
def assign (target source : BranchData) : BranchData :=
  { columns := target.columns.assign source.columns
    isActive := source.isActive.or target.isActive
    locationConfidence := source.locationConfidence.or target.locationConfidence }

/-- Some key is set. -/
def HasKeys (columns : List Column) (data : BranchData) : Prop :=
  data.columns.Has columns ∨ data.isActive.isSome = true

instance (columns : List Column) (data : BranchData) : Decidable (data.HasKeys columns) :=
  inferInstanceAs (Decidable (data.columns.Has columns ∨ data.isActive.isSome = true))

end BranchData

def resolveBranchLocationFields (out : Outside) (postcode : String) : Except Failure BranchData := do
  let resolved ← appResult (out.resolvePostcode postcode)
  return {
    columns := resolved.pick LOCATION_FIELDS
    isActive := none
    locationConfidence := some .POSTCODE_CENTROID }

/-- A suggestion that passes the cross-check gives the pin, one that fails it goes to review. -/
def applySuggestion (out : Outside) (suggestion : BranchLocationSuggestion) (postcode : String)
    (data : BranchData) : BranchData :=
  if out.crossCheckGoogleLocation suggestion postcode data.columns = true then
    { data with
      columns := ((data.columns.set .latitude suggestion.latitude).set .longitude
        suggestion.longitude).set .googlePlaceId (.string suggestion.placeId)
      locationConfidence := some .ADDRESS_GEOCODED }
  else { data with locationConfidence := some .NEEDS_REVIEW }

/-! ### Create and cancel -/

def createdBranch (merchantId : ℕ) (isMainBranch stageForApproval : Bool) (data : BranchData) (id : ℕ) :
    Branch :=
  { id := id
    merchantId := merchantId
    isMainBranch := isMainBranch
    isActive := !stageForApproval
    deletedAt := none
    lifecycleStatus := if stageForApproval = true then .PENDING_CREATE else .LIVE
    closeReason := none
    locationConfidence := data.locationConfidence.getD .POSTCODE_CENTROID
    columns := fun c => (data.columns c).getD (if c = .country then .string "GB" else .null) }

/-- `if (!postcode) throw`. -/
def requiredPostcode : Option Value → Except Failure String
  | some (.string s) => if s = "" then .error (.app .POSTCODE_REQUIRED) else .ok s
  | _ => .error (.app .POSTCODE_REQUIRED)

def createBranchCore (out : Outside) (db : Db) (merchantId : ℕ) (data : Patch)
    (stageForApproval : Bool) (suggestion : Option BranchLocationSuggestion) : Except Failure Db := do
  let isMainBranch := !stageForApproval && db.existingCount merchantId == 0
  let postcode ← requiredPostcode (data .postcode)
  let locationFields ← resolveBranchLocationFields out postcode
  let located := match suggestion with
    | none => locationFields
    | some s => applySuggestion out s postcode locationFields
  let created := BranchData.assign ⟨data.pick CREATE_FIELDS, none, none⟩ located
  rejectIf (out.accepts created = false) .invalidValue
  let branchId := db.nextId
  let inserted := db.insertBranch (createdBranch merchantId isMainBranch stageForApproval created)
  return if stageForApproval = true then
    inserted.insertApproval .BRANCH_CREATE branchId "branch"
      s!"Branch {branchId} created and awaiting approval"
  else inserted

def createBranch (out : Outside) (db : Db) (adminId : ℕ) (data : Patch)
    (suggestion : Option BranchLocationSuggestion) : Except Failure Db := do
  let merchantId ← appResult (resolveAdminMerchant db.accounts adminId)
  let stageForApproval := decide (1 ≤ db.existingCount merchantId)
  createBranchCore out db merchantId data stageForApproval suggestion

/-- Only the PENDING approval goes with the branch, and the branch only if no pending edit or login
    refers to it. -/
def cancelPendingCreate (db : Db) (adminId branchId : ℕ) : Except Failure Db := do
  let merchantId ← appResult (resolveAdminMerchant db.accounts adminId)
  let branch ← orReject (db.findOwned branchId merchantId) (.app .BRANCH_NOT_FOUND)
  rejectIf (branch.lifecycleStatus ≠ .PENDING_CREATE) (.app .BRANCH_NOT_PENDING_CREATE)
  rejectIf ((∃ e ∈ db.pendingEdits, e.branchId = branchId) ∨ ∃ u ∈ db.branchUsers, u.branchId = branchId)
    .P2003
  return (db.deleteApprovals fun r =>
    r.type = .BRANCH_CREATE ∧ r.referenceId = branchId ∧ r.status = .PENDING).deleteBranch branchId

/-! ### Update -/

def resolveBranch (db : Db) (branchId merchantId : ℕ) : Except Failure Branch :=
  orReject (db.findOwned branchId merchantId) (.app .BRANCH_NOT_FOUND)

/-- What of the body goes straight to the row. -/
def PatchBody.direct (data : PatchBody) : BranchData :=
  ⟨data.columns.pick DIRECT_FIELDS, data.isActive, none⟩

/-- What the draft window lets through: the sensitive fields too. -/
def PatchBody.draft (data : PatchBody) : BranchData :=
  ⟨data.columns.pick (SENSITIVE_FIELDS ++ DIRECT_FIELDS), data.isActive, none⟩

/-- What the draft window writes: a changed postcode is resolved again. -/
def draftData (out : Outside) (safe : BranchData) (suggestion : Option BranchLocationSuggestion) :
    Except Failure BranchData :=
  match nonBlank (safe.columns .postcode) with
  | none => .ok safe
  | some postcode => do
    let locationFields ← resolveBranchLocationFields out postcode
    let located := safe.assign locationFields
    match suggestion with
    | none => return located
    | some s =>
      if isNumber (located.columns .latitude) = true ∧ isNumber (located.columns .longitude) = true then
        return applySuggestion out s postcode located
      else return located

/-- `branch.update` with the values of a request. -/
def writeBranch (out : Outside) (db : Db) (branchId : ℕ) (data : BranchData) : Except Failure Db := do
  rejectIf (out.accepts data = false) .invalidValue
  return db.updateBranchRow branchId data.apply

def updateBranchDirectCore (out : Outside) (db : Db) (merchantId branchId : ℕ) (data : PatchBody) :
    Except Failure Db := do
  let safe := data.direct
  let _ ← resolveBranch db branchId merchantId
  if ¬ safe.HasKeys DIRECT_FIELDS then return db
  else writeBranch out db branchId safe

def updateBranchSensitiveDirectCore (out : Outside) (db : Db) (merchantId branchId : ℕ)
    (data : PatchBody) (suggestion : Option BranchLocationSuggestion) : Except Failure Db := do
  let _ ← resolveBranch db branchId merchantId
  if ¬ data.draft.HasKeys (SENSITIVE_FIELDS ++ DIRECT_FIELDS) then return db
  else do
    let safe ← draftData out data.draft suggestion
    writeBranch out db branchId safe

/-- The demotion of the merchant's main branches, then the promotion. -/
def promoteMain (db : Db) (merchantId branchId : ℕ) (safe : BranchData) : Db :=
  ({ db with
    branches := updateMany (fun b => b.merchantId = merchantId ∧ b.isMainBranch = true)
      (fun b => { b with isMainBranch := false }) db.branches }).updateBranchRow branchId
    fun b => { safe.apply b with isMainBranch := true }

/-- A proposed postcode is resolved when the change is staged. -/
def stagedData (out : Outside) (filtered : BranchData) : Except Failure BranchData :=
  match nonBlank (filtered.columns .postcode) with
  | none => .ok filtered
  | some postcode => (resolveBranchLocationFields out postcode).map filtered.assign

def createBranchEditRequest (out : Outside) (db : Db) (adminId branchId : ℕ) (proposedChanges : Patch)
    (includesPhotos : Bool) (suggestion : Option BranchLocationSuggestion) : Except Failure Db := do
  let ctx ← appResult (resolveMerchantContext db.accounts adminId)
  appResult (assertCanManageBranch ctx branchId)
  let _ ← resolveBranch db branchId ctx.merchantId
  let filtered : BranchData := ⟨proposedChanges.pick SENSITIVE_FIELDS, none, none⟩
  rejectIf (¬ filtered.columns.Has SENSITIVE_FIELDS ∧ includesPhotos = false) (.app .NO_SENSITIVE_FIELDS)
  let located ← stagedData out filtered
  rejectIf (∃ e ∈ db.pendingEdits, e.branchId = branchId ∧ e.status = .PENDING)
    (.app .PENDING_EDIT_EXISTS)
  let pendingEditId := db.nextId
  let staged := db.insertPendingEdit fun id => {
    id := id
    branchId := branchId
    merchantId := ctx.merchantId
    proposedChanges := located
    locationSuggestion := suggestion
    includesPhotos := includesPhotos
    status := .PENDING }
  return staged.insertApproval .BRANCH_IDENTITY_EDIT pendingEditId "branch_pending_edit"
    s!"Branch {branchId} requested identity field changes"

def updateBranch (out : Outside) (db : Db) (r : PatchRequest) : Except Failure Db := do
  let ctx ← appResult (resolveMerchantContext db.accounts r.adminId)
  appResult (assertCanManageBranch ctx r.branchId)
  appResult (if r.data.isActive.isSome = true then assertOwner ctx else .ok ())
  let _ ← resolveBranch db r.branchId ctx.merchantId
  if r.data.isMainBranch = some true then do
    appResult (assertOwner ctx)
    rejectIf (out.accepts r.data.direct = false) .invalidValue
    return promoteMain db ctx.merchantId r.branchId r.data.direct
  else if r.data.columns.Has SENSITIVE_FIELDS then do
    let lifecycle ← orReject (db.accounts.findMerchant ctx.merchantId) (.app .MERCHANT_NOT_FOUND)
    if isDraftWindow lifecycle then do
      appResult (assertOwner ctx)
      updateBranchSensitiveDirectCore out db ctx.merchantId r.branchId r.data r.suggestion
    else createBranchEditRequest out db r.adminId r.branchId r.data.columns false r.suggestion
  else updateBranchDirectCore out db ctx.merchantId r.branchId r.data

/-! ### Close and delete -/

namespace Branch

def softDelete (now : ℤ) (b : Branch) : Branch := { b with deletedAt := some now, isActive := false }

def askClose (reason : String) (b : Branch) : Branch :=
  { b with lifecycleStatus := .PENDING_CLOSE, closeReason := some reason }

def backLive (b : Branch) : Branch := { b with lifecycleStatus := .LIVE, closeReason := none }

def goLive (b : Branch) : Branch := { b with lifecycleStatus := .LIVE, isActive := true }

def close (now : ℤ) (b : Branch) : Branch :=
  { b with lifecycleStatus := .CLOSED, deletedAt := some now, isActive := false }

end Branch

/-- A live merchant keeps a branch. -/
def assertNotLastActive (db : Db) (merchantId : ℕ) : Except Failure Unit :=
  rejectIf (db.accounts.HasStatus merchantId .ACTIVE ∧ db.activeBranchCount merchantId ≤ 1)
    (.app .BRANCH_LAST_ACTIVE)

def softDeleteBranchCore (out : Outside) (db : Db) (merchantId branchId : ℕ) : Except Failure Db := do
  let branch ← orReject (db.findOwned branchId merchantId) (.app .BRANCH_NOT_FOUND)
  rejectIf (branch.isMainBranch = true) (.app .BRANCH_IS_MAIN)
  assertNotLastActive db merchantId
  return (db.deactivateBranchUsers branchId).updateBranchRow branchId (Branch.softDelete out.now)

def softDeleteBranch (out : Outside) (db : Db) (adminId branchId : ℕ) : Except Failure Db := do
  let merchantId ← appResult (resolveAdminMerchant db.accounts adminId)
  softDeleteBranchCore out db merchantId branchId

def requestBranchClose (db : Db) (adminId branchId : ℕ) (reason : String) : Except Failure Db := do
  let merchantId ← appResult (resolveAdminMerchant db.accounts adminId)
  let branch ← orReject (db.findOwned branchId merchantId) (.app .BRANCH_NOT_FOUND)
  rejectIf (branch.lifecycleStatus = .PENDING_CREATE) (.app .BRANCH_NOT_FOUND)
  rejectIf (branch.lifecycleStatus = .PENDING_CLOSE) (.app .BRANCH_CLOSE_REQUEST_EXISTS)
  rejectIf (branch.isMainBranch = true) (.app .BRANCH_IS_MAIN)
  assertNotLastActive db merchantId
  let closing := db.updateBranchRow branchId (Branch.askClose reason)
  return closing.insertApproval .BRANCH_CLOSE branchId "branch"
    s!"Branch {branchId} close requested: {reason}"

def withdrawBranchClose (db : Db) (adminId branchId : ℕ) : Except Failure Db := do
  let merchantId ← appResult (resolveAdminMerchant db.accounts adminId)
  let branch ← orReject (db.findOwned branchId merchantId) (.app .BRANCH_NOT_FOUND)
  rejectIf (branch.lifecycleStatus ≠ .PENDING_CLOSE) (.app .BRANCH_CLOSE_REQUEST_NOT_FOUND)
  let live := db.updateBranchRow branchId Branch.backLive
  return live.deleteApprovals fun r =>
    r.type = .BRANCH_CLOSE ∧ r.referenceId = branchId ∧ r.status = .PENDING

/-! ### The admin's decisions -/

inductive LifecycleKind
  | create | close
  deriving DecidableEq, Repr

def branchLifecycleKindOf : ApprovalType → Option LifecycleKind
  | .BRANCH_CREATE => some .create
  | .BRANCH_CLOSE => some .close
  | _ => none

theorem branchLifecycleKindOf_create {type : ApprovalType} :
    branchLifecycleKindOf type = some .create ↔ type = .BRANCH_CREATE := by
  cases type <;> simp [branchLifecycleKindOf]

theorem branchLifecycleKindOf_close {type : ApprovalType} :
    branchLifecycleKindOf type = some .close ↔ type = .BRANCH_CLOSE := by
  cases type <;> simp [branchLifecycleKindOf]

def approveCreate (out : Outside) (db : Db) (approval : AdminApproval) (adminId : ℕ) :
    Except Failure (Db × Bool) := do
  let branch ← orReject (db.findBranch approval.referenceId) (.app .BRANCH_NOT_FOUND)
  rejectIf (¬ isBranchLocationConfirmed branch) (.app .MAIN_BRANCH_LOCATION_UNCONFIRMED)
  if branch.lifecycleStatus ≠ .PENDING_CREATE then return (db, true)
  else
    let live := db.updateBranchRow branch.id Branch.goLive
    return (live.updateApproval approval.id (AdminApproval.decide .APPROVED none adminId out.now), false)

def approveClose (out : Outside) (db : Db) (approval : AdminApproval) (adminId : ℕ) :
    Except Failure (Db × Bool) := do
  let branch ← orReject (db.findBranch approval.referenceId) (.app .BRANCH_NOT_FOUND)
  if branch.lifecycleStatus ≠ .PENDING_CLOSE then return (db, true)
  else do
    rejectIf (branch.isMainBranch = true) (.app .BRANCH_IS_MAIN)
    assertNotLastActive db branch.merchantId
    let closed := (db.deactivateBranchUsers branch.id).updateBranchRow branch.id (Branch.close out.now)
    return (closed.updateApproval approval.id (AdminApproval.decide .APPROVED none adminId out.now), false)

/-- `{ approved: true, alreadyDone }`, where it does not throw. -/
def approveBranchLifecycle (out : Outside) (db : Db) (approvalId adminId : ℕ) :
    Except Failure (Db × Bool) := do
  let approval ← orReject (db.findApproval approvalId) (.app .APPROVAL_NOT_FOUND)
  let kind ← orReject (branchLifecycleKindOf approval.type) (.app .APPROVAL_NOT_ACTIONABLE)
  if approval.status ≠ .PENDING then return (db, true)
  else match kind with
    | .create => approveCreate out db approval adminId
    | .close => approveClose out db approval adminId

def rejectBranchLifecycle (out : Outside) (db : Db) (approvalId adminId : ℕ) (reason : String) :
    Except Failure Db := do
  let approval ← orReject (db.findApproval approvalId) (.app .APPROVAL_NOT_FOUND)
  let kind ← orReject (branchLifecycleKindOf approval.type) (.app .APPROVAL_NOT_ACTIONABLE)
  rejectIf (approval.status ≠ .PENDING) (.app .APPROVAL_NOT_ACTIONABLE)
  let branch ← orReject (db.findBranch approval.referenceId) (.app .BRANCH_NOT_FOUND)
  match kind with
  | .create =>
    return db.updateApproval approval.id
      (AdminApproval.decide .CHANGES_REQUESTED (some reason) adminId out.now)
  | .close =>
    let live := db.updateBranchRow branch.id Branch.backLive
    return live.updateApproval approval.id
      (AdminApproval.decide .REJECTED (some reason) adminId out.now)

/-- The admin's pin: the location counts as confirmed from then on. -/
def confirmBranchLocation (db : Db) (branchId : ℕ) (latitude longitude : Value) : Except Failure Db := do
  let _ ← orReject (db.findBranch branchId) (.app .BRANCH_NOT_FOUND)
  return db.updateBranchRow branchId (BranchData.apply {
    columns := (Patch.empty.set .latitude latitude).set .longitude longitude
    isActive := none
    locationConfidence := some .MANUALLY_CONFIRMED })

/-! ### What each operation does -/

section
variable {out : Outside} {db db' : Db} {adminId branchId : ℕ}

theorem createBranchCore_ok {merchantId : ℕ} {data : Patch} {stageForApproval : Bool}
    {suggestion : Option BranchLocationSuggestion}
    (h : createBranchCore out db merchantId data stageForApproval suggestion = .ok db') :
    ∃ created comment, db' = if stageForApproval = true then
      (db.insertBranch (createdBranch merchantId false true created)).insertApproval .BRANCH_CREATE
        db.nextId "branch" comment
    else db.insertBranch
      (createdBranch merchantId (db.existingCount merchantId == 0) false created) := by
  simp only [createBranchCore, bind_ok_iff, rejectIf_eq_ok, pure_eq_ok] at h
  obtain ⟨postcode, -, locationFields, -, -, -, rfl⟩ := h
  cases stageForApproval with
  | false => exact ⟨_, "", rfl⟩
  | true => exact ⟨_, _, rfl⟩

theorem createBranch_ok {data : Patch} {suggestion : Option BranchLocationSuggestion}
    (h : createBranch out db adminId data suggestion = .ok db') :
    ∃ merchantId created, resolveAdminMerchant db.accounts adminId = .ok merchantId ∧
      (db.existingCount merchantId = 0 ∧
          db' = db.insertBranch (createdBranch merchantId true false created) ∨
        1 ≤ db.existingCount merchantId ∧ ∃ comment,
          db' = (db.insertBranch (createdBranch merchantId false true created)).insertApproval
            .BRANCH_CREATE db.nextId "branch" comment) := by
  simp only [createBranch, bind_ok_iff, appResult_eq_ok] at h
  obtain ⟨merchantId, hm, h⟩ := h
  obtain ⟨created, comment, rfl⟩ := createBranchCore_ok h
  refine ⟨merchantId, created, hm, ?_⟩
  rcases Nat.eq_zero_or_pos (db.existingCount merchantId) with h0 | h1
  · refine .inl ⟨h0, ?_⟩
    rw [h0]
    rfl
  · exact .inr ⟨h1, comment, if_pos (decide_eq_true h1)⟩

/-- What lets a cancellation through: the branch awaits its approval, and nothing refers to it. -/
structure Cancellable (db : Db) (adminId branchId merchantId : ℕ) (branch : Branch) : Prop where
  owner : resolveAdminMerchant db.accounts adminId = .ok merchantId
  found : db.findOwned branchId merchantId = some branch
  pendingCreate : branch.lifecycleStatus = .PENDING_CREATE
  unreferenced : ¬ ((∃ e ∈ db.pendingEdits, e.branchId = branchId) ∨
    ∃ u ∈ db.branchUsers, u.branchId = branchId)

def cancelled (db : Db) (branchId : ℕ) : Db :=
  (db.deleteApprovals fun r => r.type = .BRANCH_CREATE ∧ r.referenceId = branchId ∧
    r.status = .PENDING).deleteBranch branchId

theorem cancelPendingCreate_ok_iff : cancelPendingCreate db adminId branchId = .ok db' ↔
    ∃ merchantId branch, Cancellable db adminId branchId merchantId branch ∧
      db' = cancelled db branchId := by
  simp only [cancelPendingCreate, bind_ok_iff, appResult_eq_ok, orReject_eq_ok, rejectIf_eq_ok,
    pure_eq_ok, ne_eq, not_not]
  constructor
  · rintro ⟨merchantId, hm, branch, hb, -, hs, -, href, rfl⟩
    exact ⟨merchantId, branch, ⟨hm, hb, hs, href⟩, rfl⟩
  · rintro ⟨merchantId, branch, ⟨hm, hb, hs, href⟩, rfl⟩
    exact ⟨merchantId, hm, branch, hb, (), hs, (), href, rfl⟩

theorem assertNotLastActive_eq_ok {merchantId : ℕ} {u : Unit} :
    assertNotLastActive db merchantId = .ok u ↔
      (db.accounts.HasStatus merchantId .ACTIVE → 1 < db.activeBranchCount merchantId) := by
  rw [assertNotLastActive, rejectIf_eq_ok, not_and, not_le]

theorem softDeleteBranch_ok (h : softDeleteBranch out db adminId branchId = .ok db') :
    ∃ merchantId branch, db.findOwned branchId merchantId = some branch ∧
      branch.isMainBranch = false ∧
      (db.accounts.HasStatus merchantId .ACTIVE → 1 < db.activeBranchCount merchantId) ∧
      db' = (db.deactivateBranchUsers branchId).updateBranchRow branchId (Branch.softDelete out.now) := by
  simp only [softDeleteBranch, softDeleteBranchCore, bind_ok_iff, appResult_eq_ok, orReject_eq_ok,
    rejectIf_eq_ok, assertNotLastActive_eq_ok, pure_eq_ok, Bool.not_eq_true] at h
  obtain ⟨merchantId, -, branch, hb, -, hmain, -, hlast, rfl⟩ := h
  exact ⟨merchantId, branch, hb, hmain, hlast, rfl⟩

theorem requestBranchClose_ok {reason : String}
    (h : requestBranchClose db adminId branchId reason = .ok db') :
    ∃ merchantId branch comment, db.findOwned branchId merchantId = some branch ∧
      branch.lifecycleStatus ≠ .PENDING_CREATE ∧ branch.lifecycleStatus ≠ .PENDING_CLOSE ∧
      db' = (db.updateBranchRow branchId (Branch.askClose reason)).insertApproval
          .BRANCH_CLOSE branchId "branch" comment := by
  simp only [requestBranchClose, bind_ok_iff, appResult_eq_ok, orReject_eq_ok, rejectIf_eq_ok,
    pure_eq_ok] at h
  obtain ⟨merchantId, -, branch, hb, -, hcreate, -, hclose, -, -, -, -, rfl⟩ := h
  exact ⟨merchantId, branch, _, hb, hcreate, hclose, rfl⟩

theorem withdrawBranchClose_ok (h : withdrawBranchClose db adminId branchId = .ok db') :
    ∃ merchantId branch, db.findOwned branchId merchantId = some branch ∧
      branch.lifecycleStatus = .PENDING_CLOSE ∧
      db' = (db.updateBranchRow branchId Branch.backLive).deleteApprovals fun r =>
          r.type = .BRANCH_CLOSE ∧ r.referenceId = branchId ∧ r.status = .PENDING := by
  simp only [withdrawBranchClose, bind_ok_iff, appResult_eq_ok, orReject_eq_ok, rejectIf_eq_ok,
    pure_eq_ok, ne_eq, not_not] at h
  obtain ⟨merchantId, -, branch, hb, -, hs, rfl⟩ := h
  exact ⟨merchantId, branch, hb, hs, rfl⟩

/-- What approving a pending BRANCH_CREATE does. -/
structure CreateApproved (out : Outside) (db : Db) (approval : AdminApproval) (branch : Branch)
    (adminId : ℕ) (db' : Db) : Prop where
  found : db.findBranch approval.referenceId = some branch
  pendingCreate : branch.lifecycleStatus = .PENDING_CREATE
  written : db' = (db.updateBranchRow branch.id Branch.goLive).updateApproval approval.id
      (AdminApproval.decide .APPROVED none adminId out.now)

/-- What approving a pending BRANCH_CLOSE does. -/
structure CloseApproved (out : Outside) (db : Db) (approval : AdminApproval) (branch : Branch)
    (adminId : ℕ) (db' : Db) : Prop where
  found : db.findBranch approval.referenceId = some branch
  pendingClose : branch.lifecycleStatus = .PENDING_CLOSE
  notMain : branch.isMainBranch = false
  notLast : db.accounts.HasStatus branch.merchantId .ACTIVE →
    1 < db.activeBranchCount branch.merchantId
  written : db' = ((db.deactivateBranchUsers branch.id).updateBranchRow branch.id
    (Branch.close out.now)).updateApproval approval.id
      (AdminApproval.decide .APPROVED none adminId out.now)

theorem approveCreate_ok {approval : AdminApproval} {done : Bool}
    (h : approveCreate out db approval adminId = .ok (db', done)) :
    ∃ branch, db.findBranch approval.referenceId = some branch ∧
      (branch.lifecycleStatus ≠ .PENDING_CREATE ∧ db' = db ∨
        CreateApproved out db approval branch adminId db' ∧ done = false) := by
  simp only [approveCreate, bind_ok_iff, orReject_eq_ok, rejectIf_eq_ok, ite_eq_iff, pure_eq_ok,
    Prod.mk.injEq] at h
  obtain ⟨branch, hb, -, -, ⟨hs, rfl, -⟩ | ⟨hs, rfl, rfl⟩⟩ := h
  · exact ⟨branch, hb, .inl ⟨hs, rfl⟩⟩
  · exact ⟨branch, hb, .inr ⟨⟨hb, not_not.mp hs, rfl⟩, rfl⟩⟩

theorem approveClose_ok {approval : AdminApproval} {done : Bool}
    (h : approveClose out db approval adminId = .ok (db', done)) :
    ∃ branch, db.findBranch approval.referenceId = some branch ∧
      (branch.lifecycleStatus ≠ .PENDING_CLOSE ∧ db' = db ∨
        CloseApproved out db approval branch adminId db' ∧ done = false) := by
  simp only [approveClose, bind_ok_iff, orReject_eq_ok, rejectIf_eq_ok, ite_eq_iff, pure_eq_ok,
    assertNotLastActive_eq_ok, Prod.mk.injEq, Bool.not_eq_true] at h
  obtain ⟨branch, hb, ⟨hs, rfl, -⟩ | ⟨hs, -, hmain, -, hlast, rfl, rfl⟩⟩ := h
  · exact ⟨branch, hb, .inl ⟨hs, rfl⟩⟩
  · exact ⟨branch, hb, .inr ⟨⟨hb, not_not.mp hs, hmain, hlast, rfl⟩, rfl⟩⟩

/-- An approval is made once, of a pending approval; for any other nothing changes. -/
theorem approveBranchLifecycle_ok {approvalId : ℕ} {done : Bool}
    (h : approveBranchLifecycle out db approvalId adminId = .ok (db', done)) :
    ∃ approval, db.findApproval approvalId = some approval ∧
      (approval.status ≠ .PENDING ∧ db' = db ∧ done = true ∨ approval.status = .PENDING ∧
        ((approval.type = .BRANCH_CREATE ∧ approveCreate out db approval adminId = .ok (db', done)) ∨
          approval.type = .BRANCH_CLOSE ∧
            approveClose out db approval adminId = .ok (db', done))) := by
  simp only [approveBranchLifecycle, bind_ok_iff, orReject_eq_ok, ite_eq_iff, pure_eq_ok,
    Prod.mk.injEq] at h
  obtain ⟨approval, ha, kind, hk, ⟨hs, rfl, rfl⟩ | ⟨hs, h⟩⟩ := h
  · exact ⟨approval, ha, .inl ⟨hs, rfl, rfl⟩⟩
  · refine ⟨approval, ha, .inr ⟨not_not.mp hs, ?_⟩⟩
    cases kind with
    | create => exact .inl ⟨branchLifecycleKindOf_create.mp hk, h⟩
    | close => exact .inr ⟨branchLifecycleKindOf_close.mp hk, h⟩

theorem rejectBranchLifecycle_ok {approvalId : ℕ} {reason : String}
    (h : rejectBranchLifecycle out db approvalId adminId reason = .ok db') :
    ∃ approval branch, db.findApproval approvalId = some approval ∧ approval.status = .PENDING ∧
      db.findBranch approval.referenceId = some branch ∧
      (approval.type = .BRANCH_CREATE ∧ db' = db.updateApproval approval.id
          (AdminApproval.decide .CHANGES_REQUESTED (some reason) adminId out.now) ∨
        approval.type = .BRANCH_CLOSE ∧
          db' = (db.updateBranchRow branch.id Branch.backLive).updateApproval approval.id
            (AdminApproval.decide .REJECTED (some reason) adminId out.now)) := by
  simp only [rejectBranchLifecycle, bind_ok_iff, orReject_eq_ok, rejectIf_eq_ok, ne_eq, not_not] at h
  obtain ⟨approval, ha, kind, hk, -, hs, branch, hb, h⟩ := h
  refine ⟨approval, branch, ha, hs, hb, ?_⟩
  cases kind with
  | create => exact .inl ⟨branchLifecycleKindOf_create.mp hk, (pure_eq_ok.mp h).symm⟩
  | close => exact .inr ⟨branchLifecycleKindOf_close.mp hk, (pure_eq_ok.mp h).symm⟩

theorem confirmBranchLocation_ok {latitude longitude : Value}
    (h : confirmBranchLocation db branchId latitude longitude = .ok db') :
    ∃ data : BranchData, data.isActive = none ∧ db' = db.updateBranchRow branchId data.apply := by
  simp only [confirmBranchLocation, bind_ok_iff, pure_eq_ok] at h
  obtain ⟨-, -, rfl⟩ := h
  exact ⟨_, rfl, rfl⟩

end

/-! ### What a PATCH does -/

/-- The caller may manage the branch, owns the merchant if the body switches the branch on or off, and
    the branch is there. -/
structure Admitted (db : Db) (r : PatchRequest) (ctx : MerchantContext) (branch : Branch) : Prop where
  context : resolveMerchantContext db.accounts r.adminId = .ok ctx
  manages : canManageBranchPredicate ctx r.branchId
  ownerOnly : r.data.isActive.isSome = true → ctx.role = .OWNER
  found : db.findOwned r.branchId ctx.merchantId = some branch

/-- The three ways in which a body is written to the row at once, with what is written: making the
    branch the main one, the direct fields alone, and the draft window. -/
inductive Lane (out : Outside) (db : Db) (r : PatchRequest) (ctx : MerchantContext) :
    Bool → BranchData → Prop
  | main (hmain : r.data.isMainBranch = some true) (howner : ctx.role = .OWNER)
      (hvalues : out.accepts r.data.direct = true) : Lane out db r ctx true r.data.direct
  | direct (hmain : r.data.isMainBranch ≠ some true) (hplain : ¬ r.data.columns.Has SENSITIVE_FIELDS)
      (hkeys : r.data.direct.HasKeys DIRECT_FIELDS) (hvalues : out.accepts r.data.direct = true) :
      Lane out db r ctx false r.data.direct
  | draft {lifecycle : Merchant} {safe : BranchData} (hmain : r.data.isMainBranch ≠ some true)
      (hsensitive : r.data.columns.Has SENSITIVE_FIELDS) (howner : ctx.role = .OWNER)
      (hmerchant : db.accounts.findMerchant ctx.merchantId = some lifecycle)
      (hdraft : isDraftWindow lifecycle)
      (hsafe : draftData out r.data.draft r.suggestion = .ok safe) (hvalues : out.accepts safe = true) :
      Lane out db r ctx false safe

def patched (db : Db) (r : PatchRequest) (ctx : MerchantContext) (main : Bool) (safe : BranchData) : Db :=
  if main = true then promoteMain db ctx.merchantId r.branchId safe
  else db.updateBranchRow r.branchId safe.apply

/-- The live merchant's sensitive fields are staged for review instead. -/
structure Staged (out : Outside) (db : Db) (r : PatchRequest) (ctx : MerchantContext) (db' : Db) :
    Prop where
  notMain : r.data.isMainBranch ≠ some true
  sensitive : r.data.columns.Has SENSITIVE_FIELDS
  governed : ∃ lifecycle, db.accounts.findMerchant ctx.merchantId = some lifecycle ∧
    ¬ isDraftWindow lifecycle
  staged : createBranchEditRequest out db r.adminId r.branchId r.data.columns false r.suggestion = .ok db'

section
variable {out : Outside} {db db' : Db} {r : PatchRequest} {ctx : MerchantContext} {branch : Branch}

theorem draftData_isActive {safe safe' : BranchData} {suggestion : Option BranchLocationSuggestion}
    (h : draftData out safe suggestion = .ok safe') : safe'.isActive = safe.isActive := by
  rw [draftData] at h
  split at h
  · cases h
    rfl
  · simp only [resolveBranchLocationFields, bind_ok_iff, pure_eq_ok] at h
    obtain ⟨-, ⟨resolved, -, rfl⟩, h⟩ := h
    cases suggestion with
    | none =>
      cases h
      rfl
    | some s =>
      simp only [applySuggestion] at h
      split_ifs at h <;> cases h <;> rfl

/-- Whatever the lane, `isActive` is written as the body has it. -/
theorem Lane.isActive {main : Bool} {safe : BranchData} (h : Lane out db r ctx main safe) :
    safe.isActive = r.data.isActive := by
  cases h with
  | main => rfl
  | direct => rfl
  | draft _ _ _ _ _ hsafe => exact draftData_isActive hsafe

theorem Patch.Has.pick {columns columns' : List Column} {data : Patch} (h : data.Has columns)
    (hsub : columns ⊆ columns') : (data.pick columns').Has columns' := by
  obtain ⟨c, hc, hs⟩ := h
  refine ⟨c, hsub hc, ?_⟩
  rw [Patch.pick, if_pos (hsub hc)]
  exact hs

theorem draft_hasKeys {data : PatchBody} (h : data.columns.Has SENSITIVE_FIELDS) :
    data.draft.HasKeys (SENSITIVE_FIELDS ++ DIRECT_FIELDS) :=
  .inl (h.pick (List.subset_append_left _ _))

theorem writeBranch_ok_iff {branchId : ℕ} {safe : BranchData} :
    writeBranch out db branchId safe = .ok db' ↔
      out.accepts safe = true ∧ db' = db.updateBranchRow branchId safe.apply := by
  simp only [writeBranch, bind_ok_iff, rejectIf_eq_ok, pure_eq_ok, Bool.not_eq_false, exists_const]
  exact and_congr_right fun _ => eq_comm

/-- A request that is let through writes the row at once, stages an edit, or finds nothing to do. -/
theorem updateBranch_ok (h : updateBranch out db r = .ok db') : ∃ ctx branch, Admitted db r ctx branch ∧
    ((∃ main safe, Lane out db r ctx main safe ∧ db' = patched db r ctx main safe) ∨
      Staged out db r ctx db' ∨ db' = db) := by
  simp only [updateBranch, bind_ok_iff, appResult_eq_ok, assertCanManageBranch_eq_ok, resolveBranch,
    orReject_eq_ok] at h
  obtain ⟨ctx, hctx, -, hmanages, _, hactive, branch, hfound, h⟩ := h
  have hadmitted : Admitted db r ctx branch := by
    refine ⟨hctx, hmanages, fun hsome => ?_, hfound⟩
    rw [if_pos hsome] at hactive
    exact assertOwner_eq_ok.mp hactive
  refine ⟨ctx, branch, hadmitted, ?_⟩
  split_ifs at h with hmain hsensitive
  · simp only [bind_ok_iff, appResult_eq_ok, assertOwner_eq_ok, rejectIf_eq_ok, pure_eq_ok,
      Bool.not_eq_false] at h
    obtain ⟨-, howner, -, hvalues, rfl⟩ := h
    exact .inl ⟨true, _, .main hmain howner hvalues, rfl⟩
  · simp only [bind_ok_iff, orReject_eq_ok] at h
    obtain ⟨lifecycle, hmerchant, h⟩ := h
    split_ifs at h with hdraft
    · simp only [bind_ok_iff, appResult_eq_ok, assertOwner_eq_ok, updateBranchSensitiveDirectCore] at h
      obtain ⟨-, howner, -, -, h⟩ := h
      rw [if_neg (not_not.mpr (draft_hasKeys hsensitive)), bind_ok_iff] at h
      obtain ⟨safe, hsafe, h⟩ := h
      obtain ⟨hvalues, rfl⟩ := writeBranch_ok_iff.mp h
      exact .inl ⟨false, safe, .draft hmain hsensitive howner hmerchant hdraft hsafe hvalues, rfl⟩
    · exact .inr (.inl ⟨hmain, hsensitive, ⟨lifecycle, hmerchant, hdraft⟩, h⟩)
  · simp only [updateBranchDirectCore, bind_ok_iff] at h
    obtain ⟨-, -, h⟩ := h
    split_ifs at h with hkeys
    · obtain ⟨hvalues, rfl⟩ := writeBranch_ok_iff.mp h
      exact .inl ⟨false, _, .direct hmain hsensitive hkeys hvalues, rfl⟩
    · exact .inr (.inr (pure_eq_ok.mp h).symm)

/-- A body that takes one of the three lanes is written. -/
theorem updateBranch_of_lane {main : Bool} {safe : BranchData} (hadmitted : Admitted db r ctx branch)
    (hlane : Lane out db r ctx main safe) : updateBranch out db r = .ok (patched db r ctx main safe) := by
  obtain ⟨hctx, hmanages, howns, hfound⟩ := hadmitted
  simp only [updateBranch, bind_ok_iff, appResult_eq_ok, assertCanManageBranch_eq_ok, resolveBranch,
    orReject_eq_ok]
  refine ⟨ctx, hctx, (), hmanages, (), ?_, branch, hfound, ?_⟩
  · split_ifs with hsome
    · exact assertOwner_eq_ok.mpr (howns hsome)
    · rfl
  cases hlane with
  | main hmain howner hvalues =>
    simp only [if_pos hmain, bind_ok_iff, appResult_eq_ok, assertOwner_eq_ok, rejectIf_eq_ok, hvalues]
    exact ⟨(), howner, (), by simp, rfl⟩
  | direct hmain hplain hkeys hvalues =>
    simp only [if_neg hmain, if_neg hplain, updateBranchDirectCore, bind_ok_iff, resolveBranch,
      orReject_eq_ok, if_neg (not_not.mpr hkeys)]
    exact ⟨branch, hfound, writeBranch_ok_iff.mpr ⟨hvalues, rfl⟩⟩
  | draft hmain hsensitive howner hmerchant hdraft hsafe hvalues =>
    simp only [if_neg hmain, if_pos hsensitive, bind_ok_iff, orReject_eq_ok,
      updateBranchSensitiveDirectCore, resolveBranch]
    refine ⟨_, hmerchant, ?_⟩
    simp only [if_pos hdraft, if_neg (not_not.mpr (draft_hasKeys hsensitive)), bind_ok_iff,
      appResult_eq_ok, assertOwner_eq_ok, orReject_eq_ok]
    exact ⟨(), howner, branch, hfound, safe, hsafe, writeBranch_ok_iff.mpr ⟨hvalues, rfl⟩⟩

/-- What a PATCH leaves alone in a row. -/
structure SameLifecycle (b b' : Branch) : Prop where
  id : b'.id = b.id
  merchantId : b'.merchantId = b.merchantId
  deletedAt : b'.deletedAt = b.deletedAt
  lifecycleStatus : b'.lifecycleStatus = b.lifecycleStatus

/-- What a row has become: the one that is patched, and the others, one of which may have been the
    main branch. -/
structure PatchedRow (r : PatchRequest) (main : Bool) (safe : BranchData) (b b' : Branch) : Prop where
  same : SameLifecycle b b'
  hit : b.id = r.branchId →
    b'.isActive = safe.isActive.getD b.isActive ∧ b'.isMainBranch = (main || b.isMainBranch)
  other : b.id ≠ r.branchId → b'.isActive = b.isActive ∧ (b'.isMainBranch = true → b.isMainBranch = true)

def patchRow (r : PatchRequest) (ctx : MerchantContext) (main : Bool) (safe : BranchData) (b : Branch) :
    Branch :=
  let demoted := if main = true ∧ b.merchantId = ctx.merchantId ∧ b.isMainBranch = true then
    { b with isMainBranch := false } else b
  if demoted.id = r.branchId then
    { safe.apply demoted with isMainBranch := main || demoted.isMainBranch }
  else demoted

theorem patched_branches (db : Db) (r : PatchRequest) (ctx : MerchantContext) (main : Bool)
    (safe : BranchData) :
    (patched db r ctx main safe).branches = db.branches.map (patchRow r ctx main safe) := by
  cases main with
  | false =>
    refine List.map_congr_left fun b _ => ?_
    simp only [patchRow, Bool.false_eq_true, false_and, if_false, Bool.false_or]
    rfl
  | true =>
    simp only [patched, promoteMain, Db.updateBranchRow, updateMany, if_true, List.map_map]
    refine List.map_congr_left fun b _ => ?_
    simp only [patchRow, true_and, Bool.true_or]
    rfl

theorem patchRow_spec (r : PatchRequest) (ctx : MerchantContext) (main : Bool) (safe : BranchData)
    (b : Branch) : PatchedRow r main safe b (patchRow r ctx main safe b) := by
  have hdemoted : ∀ d : Branch, SameLifecycle b d → d.isActive = b.isActive →
      (d.isMainBranch = true → b.isMainBranch = true) → (main = false → d = b) →
      PatchedRow r main safe b (if d.id = r.branchId then
        { safe.apply d with isMainBranch := main || d.isMainBranch } else d) := by
    intro d hsame hactive hmain hd
    by_cases hid : d.id = r.branchId
    · rw [if_pos hid]
      refine ⟨⟨hsame.id, hsame.merchantId, hsame.deletedAt, hsame.lifecycleStatus⟩, fun _ => ⟨?_, ?_⟩,
        fun hne => absurd (hsame.id.symm.trans hid) hne⟩
      · exact congrArg safe.isActive.getD hactive
      · cases main with
        | false => rw [hd rfl]
        | true => rfl
    · rw [if_neg hid]
      exact ⟨hsame, fun he => absurd (hsame.id.trans he) hid, fun _ => ⟨hactive, hmain⟩⟩
  rw [patchRow]
  refine hdemoted _ ?_ ?_ ?_ ?_ <;> split_ifs with h
  · exact ⟨rfl, rfl, rfl, rfl⟩
  · exact ⟨rfl, rfl, rfl, rfl⟩
  · rfl
  · rfl
  · exact fun _ => h.2.2
  · exact id
  · exact fun hfalse => absurd h.1 (by simp [hfalse])
  · exact fun _ => rfl

/-- A staged edit leaves the branch alone. -/
theorem Staged.rows (h : Staged out db r ctx db') : ∃ row comment,
    db' = (db.insertPendingEdit row).insertApproval .BRANCH_IDENTITY_EDIT db.nextId
      "branch_pending_edit" comment := by
  have hstaged := h.staged
  simp only [createBranchEditRequest, bind_ok_iff, pure_eq_ok] at hstaged
  obtain ⟨-, -, -, -, -, -, -, -, -, -, -, -, rfl⟩ := hstaged
  exact ⟨_, _, rfl⟩

end

/-! ### Runs -/

inductive Request
  | createBranch (adminId : ℕ) (data : Patch) (suggestion : Option BranchLocationSuggestion)
  | updateBranch (r : PatchRequest)
  | cancelPendingCreate (adminId branchId : ℕ)
  | requestBranchClose (adminId branchId : ℕ) (reason : String)
  | withdrawBranchClose (adminId branchId : ℕ)
  | softDeleteBranch (adminId branchId : ℕ)
  | approveBranchLifecycle (approvalId adminId : ℕ)
  | rejectBranchLifecycle (approvalId adminId : ℕ) (reason : String)
  | confirmBranchLocation (branchId : ℕ) (latitude longitude : Value)

def exec (out : Outside) (db : Db) : Request → Except Failure Db
  | .createBranch adminId data suggestion => createBranch out db adminId data suggestion
  | .updateBranch r => updateBranch out db r
  | .cancelPendingCreate adminId branchId => cancelPendingCreate db adminId branchId
  | .requestBranchClose adminId branchId reason => requestBranchClose db adminId branchId reason
  | .withdrawBranchClose adminId branchId => withdrawBranchClose db adminId branchId
  | .softDeleteBranch adminId branchId => softDeleteBranch out db adminId branchId
  | .approveBranchLifecycle approvalId adminId =>
    (approveBranchLifecycle out db approvalId adminId).map Prod.fst
  | .rejectBranchLifecycle approvalId adminId reason =>
    rejectBranchLifecycle out db approvalId adminId reason
  | .confirmBranchLocation branchId latitude longitude =>
    confirmBranchLocation db branchId latitude longitude

/-- A request that throws leaves the tables as they were. -/
def step (db : Db) (a : Outside × Request) : Option Db :=
  match exec a.1 db a.2 with
  | .ok db' => some db'
  | .error _ => some db

section
variable {out : Outside} {db db' : Db}

theorem step_eq_some {a : Outside × Request} (h : step db a = some db') :
    exec a.1 db a.2 = .ok db' ∨ db' = db := by
  rw [step] at h
  cases hr : exec a.1 db a.2 with
  | ok t =>
    rw [hr] at h
    cases h
    exact .inl rfl
  | error e =>
    rw [hr] at h
    exact .inr (Option.some.inj h).symm

theorem step_of_ok {a : Outside × Request} (h : exec a.1 db a.2 = .ok db') : step db a = some db' := by
  rw [step, h]

theorem step_total (db : Db) (a : Outside × Request) : ∃ db', step db a = some db' := by
  rw [step]
  split
  · exact ⟨_, rfl⟩
  · exact ⟨_, rfl⟩

theorem exec_approve_ok {approvalId adminId : ℕ}
    (h : exec out db (.approveBranchLifecycle approvalId adminId) = .ok db') :
    ∃ done, approveBranchLifecycle out db approvalId adminId = .ok (db', done) := by
  rw [exec] at h
  cases hr : approveBranchLifecycle out db approvalId adminId with
  | error e =>
    rw [hr] at h
    cases h
  | ok r =>
    rw [hr] at h
    cases h
    exact ⟨r.2, rfl⟩

theorem patched_keyed {r : PatchRequest} {ctx : MerchantContext} {main : Bool} {safe : BranchData}
    (hk : db.Keyed) : (patched db r ctx main safe).Keyed := by
  cases main with
  | false => exact hk.updateBranchRow fun _ => rfl
  | true =>
    refine Db.Keyed.updateBranchRow (Db.Keyed.updateBranches hk ?_) ?_
    · exact fun _ => rfl
    · exact fun _ => rfl

theorem exec_keyed {request : Request} (hk : db.Keyed) (h : exec out db request = .ok db') :
    db'.Keyed := by
  cases request with
  | createBranch adminId data suggestion =>
    obtain ⟨merchantId, created, -, ⟨-, rfl⟩ | ⟨-, comment, rfl⟩⟩ := createBranch_ok h
    · exact hk.insertBranch rfl
    · exact (hk.insertBranch rfl).insertApproval (Nat.lt_succ_self _)
  | updateBranch r =>
    obtain ⟨ctx, branch, -, ⟨main, safe, -, rfl⟩ | hstaged | rfl⟩ := updateBranch_ok h
    · exact patched_keyed hk
    · obtain ⟨row, comment, rfl⟩ := hstaged.rows
      exact (hk.insertPendingEdit row).insertApproval (Nat.lt_succ_self _)
    · exact hk
  | cancelPendingCreate adminId branchId =>
    obtain ⟨merchantId, branch, -, rfl⟩ := cancelPendingCreate_ok_iff.mp h
    exact hk.deleteApprovals.deleteBranch
  | requestBranchClose adminId branchId reason =>
    obtain ⟨merchantId, branch, comment, hb, -, -, rfl⟩ := requestBranchClose_ok h
    obtain ⟨hb, hid, -⟩ := hk.findOwned_iff.mp hb
    refine Db.Keyed.insertApproval (hk.updateBranchRow ?_) (hid ▸ hk.branchFresh branch hb)
    exact fun _ => rfl
  | withdrawBranchClose adminId branchId =>
    obtain ⟨merchantId, branch, -, -, rfl⟩ := withdrawBranchClose_ok h
    refine Db.Keyed.deleteApprovals (hk.updateBranchRow ?_)
    exact fun _ => rfl
  | softDeleteBranch adminId branchId =>
    obtain ⟨merchantId, branch, -, -, -, rfl⟩ := softDeleteBranch_ok h
    exact hk.deactivateBranchUsers.updateBranchRow fun _ => rfl
  | approveBranchLifecycle approvalId adminId =>
    obtain ⟨done, h⟩ := exec_approve_ok h
    obtain ⟨approval, -, ⟨-, rfl, -⟩ | ⟨-, ⟨-, h⟩ | ⟨-, h⟩⟩⟩ := approveBranchLifecycle_ok h
    · exact hk
    · obtain ⟨branch, -, ⟨-, rfl⟩ | ⟨happroved, -⟩⟩ := approveCreate_ok h
      · exact hk
      · rw [happroved.written]
        refine Db.Keyed.updateApproval (hk.updateBranchRow ?_) (fun _ => rfl) fun _ => rfl
        exact fun _ => rfl
    · obtain ⟨branch, -, ⟨-, rfl⟩ | ⟨happroved, -⟩⟩ := approveClose_ok h
      · exact hk
      · rw [happroved.written]
        refine Db.Keyed.updateApproval (hk.deactivateBranchUsers.updateBranchRow ?_) (fun _ => rfl)
          fun _ => rfl
        exact fun _ => rfl
  | rejectBranchLifecycle approvalId adminId reason =>
    obtain ⟨approval, branch, -, -, -, ⟨-, rfl⟩ | ⟨-, rfl⟩⟩ := rejectBranchLifecycle_ok h
    · exact hk.updateApproval (fun _ => rfl) fun _ => rfl
    · refine Db.Keyed.updateApproval (hk.updateBranchRow ?_) (fun _ => rfl) fun _ => rfl
      exact fun _ => rfl
  | confirmBranchLocation branchId latitude longitude =>
    obtain ⟨data, -, rfl⟩ := confirmBranchLocation_ok h
    exact hk.updateBranchRow fun _ => rfl

/-- No branch operation touches the merchants. -/
theorem exec_merchants {request : Request} (h : exec out db request = .ok db') :
    db'.accounts.merchants = db.accounts.merchants := by
  cases request with
  | createBranch adminId data suggestion =>
    obtain ⟨merchantId, created, -, ⟨-, rfl⟩ | ⟨-, comment, rfl⟩⟩ := createBranch_ok h
    · rfl
    · rfl
  | updateBranch r =>
    obtain ⟨ctx, branch, -, ⟨main, safe, -, rfl⟩ | hstaged | rfl⟩ := updateBranch_ok h
    · cases main with
      | false => rfl
      | true => rfl
    · obtain ⟨row, comment, rfl⟩ := hstaged.rows
      rfl
    · rfl
  | cancelPendingCreate adminId branchId =>
    obtain ⟨merchantId, branch, -, rfl⟩ := cancelPendingCreate_ok_iff.mp h
    rfl
  | requestBranchClose adminId branchId reason =>
    obtain ⟨merchantId, branch, comment, -, -, -, rfl⟩ := requestBranchClose_ok h
    rfl
  | withdrawBranchClose adminId branchId =>
    obtain ⟨merchantId, branch, -, -, rfl⟩ := withdrawBranchClose_ok h
    rfl
  | softDeleteBranch adminId branchId =>
    obtain ⟨merchantId, branch, -, -, -, rfl⟩ := softDeleteBranch_ok h
    rfl
  | approveBranchLifecycle approvalId adminId =>
    obtain ⟨done, h⟩ := exec_approve_ok h
    obtain ⟨approval, -, ⟨-, rfl, -⟩ | ⟨-, ⟨-, h⟩ | ⟨-, h⟩⟩⟩ := approveBranchLifecycle_ok h
    · rfl
    · obtain ⟨branch, -, ⟨-, rfl⟩ | ⟨happroved, -⟩⟩ := approveCreate_ok h
      · rfl
      · rw [happroved.written]
        rfl
    · obtain ⟨branch, -, ⟨-, rfl⟩ | ⟨happroved, -⟩⟩ := approveClose_ok h
      · rfl
      · rw [happroved.written]
        rfl
  | rejectBranchLifecycle approvalId adminId reason =>
    obtain ⟨approval, branch, -, -, -, ⟨-, rfl⟩ | ⟨-, rfl⟩⟩ := rejectBranchLifecycle_ok h
    · rfl
    · rfl
  | confirmBranchLocation branchId latitude longitude =>
    obtain ⟨data, -, rfl⟩ := confirmBranchLocation_ok h
    rfl

theorem step_hasStatus {a : Outside × Request} {merchantId : ℕ} {status : MerchantStatus}
    (hs : db.accounts.HasStatus merchantId status) (h : step db a = some db') :
    db'.accounts.HasStatus merchantId status := by
  rcases step_eq_some h with h | rfl
  · rw [Accounts.HasStatus, Accounts.findMerchant, exec_merchants h]
    exact hs
  · exact hs

theorem step_keyed {a : Outside × Request} (hk : db.Keyed) (h : step db a = some db') : db'.Keyed := by
  rcases step_eq_some h with h | rfl
  · exact exec_keyed hk h
  · exact hk

end

/-! ### A merchant with one owner -/

/-- Postcodes resolve, suggestions fail the cross-check, and values are taken. -/
def anywhere : Outside :=
  { now := 0
    resolvePostcode := fun _ => .ok ((Patch.empty.set .latitude (.number "51.5")).set .longitude
      (.number "-0.1"))
    crossCheckGoogleLocation := fun _ _ _ => false
    accepts := fun _ => true }

def highStreet : Patch :=
  (Patch.empty.set .name (.string "High Street")).set .postcode (.string "SW1A 1AA")

def oneOwner (status : MerchantStatus) (onboardingStep : OnboardingStep) : Db :=
  { accounts := {
      merchants := [⟨1, status, onboardingStep⟩]
      memberships := [⟨1, 1, .OWNER, true, false, .ACTIVE, []⟩] }
    branches := []
    approvals := []
    pendingEdits := []
    branchUsers := []
    nextId := 10 }

theorem oneOwner_keyed (status : MerchantStatus) (onboardingStep : OnboardingStep) :
    (oneOwner status onboardingStep).Keyed where
  branchKeys := List.nodup_nil
  approvalKeys := List.nodup_nil
  branchFresh _ hb := absurd hb List.not_mem_nil
  approvalFresh _ hr := absurd hr List.not_mem_nil
  referenceFresh _ hr := absurd hr List.not_mem_nil

end Redeemo.BranchLifecycle
