import Redeemo.Lib.Rows
import Redeemo.Shared.Approvals
import Redeemo.Shared.MerchantContext

/-! The tables of the branch lifecycle, and the statements its operations run on them.

    `lifecycleStatus`, `isActive` and `deletedAt` are three separate columns of a branch. A row's id is
    drawn from one counter and never used again. -/

namespace Redeemo.BranchLifecycle
open Rows

/-! ### Rows -/

/-- A value of a request body, or of a column. -/
inductive Value
  | null
  | bool (b : Bool)
  | number (text : String)
  | string (s : String)
  | json (text : String)
  deriving DecidableEq, Repr

/-- The columns that a request body or the gazetteer fills in. -/
inductive Column
  | name | about | addressLine1 | addressLine2 | city | postcode | latitude | longitude | logoUrl
  | bannerUrl | phone | email | websiteUrl | country | localityId | localityName | postTown
  | ladDistrict | adminCounty | region | locationCountry | locationResolvedAt | googlePlaceId
  deriving DecidableEq, Repr

/-- Values under some of the columns' names. -/
def Patch := Column → Option Value

namespace Patch

def empty : Patch := fun _ => none

def pick (columns : List Column) (data : Patch) : Patch :=
  fun c => if c ∈ columns then data c else none

/-- `Object.assign`. -/
def assign (target source : Patch) : Patch := fun c => (source c).or (target c)

def set (c : Column) (v : Value) (target : Patch) : Patch := Function.update target c (some v)

theorem set_self (c : Column) (v : Value) (target : Patch) : target.set c v c = some v := Function.update_self ..

theorem set_of_ne {c d : Column} (h : d ≠ c) (v : Value) (target : Patch) : target.set c v d = target d :=
  Function.update_of_ne h ..

/-- One of the names is there. -/
def Has (columns : List Column) (data : Patch) : Prop := ∃ c ∈ columns, (data c).isSome = true

instance (columns : List Column) (data : Patch) : Decidable (data.Has columns) :=
  inferInstanceAs (Decidable (∃ c ∈ columns, (data c).isSome = true))

end Patch

structure Branch where
  id : ℕ
  merchantId : ℕ
  isMainBranch : Bool
  isActive : Bool
  deletedAt : Option ℤ
  lifecycleStatus : BranchLifecycleStatus
  closeReason : Option String
  locationConfidence : LocationConfidence
  columns : Column → Value

/-- A Google place, resolved on the server from the token the client picked. -/
structure BranchLocationSuggestion where
  placeId : String
  latitude : Value
  longitude : Value
  postcode : Option String
  deriving DecidableEq, Repr

/-- What an update of a branch sets. -/
structure BranchData where
  columns : Patch
  isActive : Option Bool
  locationConfidence : Option LocationConfidence

def BranchData.apply (data : BranchData) (b : Branch) : Branch :=
  { b with
    isActive := data.isActive.getD b.isActive
    locationConfidence := data.locationConfidence.getD b.locationConfidence
    columns := fun c => (data.columns c).getD (b.columns c) }

structure BranchPendingEdit where
  id : ℕ
  branchId : ℕ
  merchantId : ℕ
  proposedChanges : BranchData
  locationSuggestion : Option BranchLocationSuggestion
  includesPhotos : Bool
  status : PendingEditStatus

structure BranchUser where
  id : ℕ
  branchId : ℕ
  status : UserStatus
  deriving DecidableEq, Repr

structure Db where
  accounts : Accounts
  branches : List Branch
  approvals : List AdminApproval
  pendingEdits : List BranchPendingEdit
  branchUsers : List BranchUser
  nextId : ℕ

/-! ### Reads -/

/-- Not soft-deleted, and switched on. -/
def Branch.Open (merchantId : ℕ) (b : Branch) : Prop :=
  b.merchantId = merchantId ∧ b.isActive = true ∧ b.deletedAt = none

instance (merchantId : ℕ) : DecidablePred (Branch.Open merchantId) :=
  fun b => inferInstanceAs
    (Decidable (b.merchantId = merchantId ∧ b.isActive = true ∧ b.deletedAt = none))

/-- Counts towards the merchant's first branch: neither deleted nor awaiting approval. -/
def Branch.Established (merchantId : ℕ) (b : Branch) : Prop :=
  b.merchantId = merchantId ∧ b.deletedAt = none ∧ b.lifecycleStatus ≠ .PENDING_CREATE

instance (merchantId : ℕ) : DecidablePred (Branch.Established merchantId) :=
  fun b => inferInstanceAs (Decidable
    (b.merchantId = merchantId ∧ b.deletedAt = none ∧ b.lifecycleStatus ≠ .PENDING_CREATE))

/-- `where: { id, merchantId, deletedAt: null }`. -/
def Branch.OwnedBy (id merchantId : ℕ) (b : Branch) : Prop :=
  b.id = id ∧ b.merchantId = merchantId ∧ b.deletedAt = none

instance (id merchantId : ℕ) : DecidablePred (Branch.OwnedBy id merchantId) :=
  fun b => inferInstanceAs (Decidable (b.id = id ∧ b.merchantId = merchantId ∧ b.deletedAt = none))

def CONFIRMED_LOCATION_SET : List LocationConfidence :=
  [.MANUALLY_CONFIRMED, .ADDRESS_GEOCODED, .MERCHANT_CONFIRMED]

def isBranchLocationConfirmed (b : Branch) : Prop := b.locationConfidence ∈ CONFIRMED_LOCATION_SET

instance : DecidablePred isBranchLocationConfirmed :=
  fun b => inferInstanceAs (Decidable (b.locationConfidence ∈ CONFIRMED_LOCATION_SET))

namespace Db

def activeBranchCount (db : Db) (merchantId : ℕ) : ℕ := db.branches.countP fun b => b.Open merchantId

def existingCount (db : Db) (merchantId : ℕ) : ℕ :=
  db.branches.countP fun b => b.Established merchantId

def findOwned (db : Db) (id merchantId : ℕ) : Option Branch :=
  db.branches.find? fun b => b.OwnedBy id merchantId

def findBranch (db : Db) (id : ℕ) : Option Branch := db.branches.find? fun b => b.id = id

def findApproval (db : Db) (id : ℕ) : Option AdminApproval := db.approvals.find? fun r => r.id = id

/-! ### Writes -/

/-- `branch.update`, by id. -/
def updateBranchRow (db : Db) (id : ℕ) (f : Branch → Branch) : Db :=
  { db with branches := updateMany (fun b => b.id = id) f db.branches }

def updateApproval (db : Db) (id : ℕ) (f : AdminApproval → AdminApproval) : Db :=
  { db with approvals := updateMany (fun r => r.id = id) f db.approvals }

def insertBranch (db : Db) (row : ℕ → Branch) : Db :=
  { db with branches := db.branches ++ [row db.nextId], nextId := db.nextId + 1 }

/-- `adminApproval.create`. -/
def insertApproval (db : Db) (type : ApprovalType) (referenceId : ℕ) (referenceType comment : String) :
    Db :=
  { db with
    approvals := db.approvals ++ [{
      id := db.nextId
      type := type
      referenceId := referenceId
      referenceType := referenceType
      status := .PENDING
      comment := some comment
      adminUserId := none
      actionedAt := none
      claimedById := none
      claimedAt := none }]
    nextId := db.nextId + 1 }

/-- `adminApproval.deleteMany`. -/
def deleteApprovals (db : Db) (p : AdminApproval → Prop) [DecidablePred p] : Db :=
  { db with approvals := db.approvals.filter fun r => ¬ p r }

def insertPendingEdit (db : Db) (row : ℕ → BranchPendingEdit) : Db :=
  { db with pendingEdits := db.pendingEdits ++ [row db.nextId], nextId := db.nextId + 1 }

/-- `branch.delete`, with the rows that go with it. -/
def deleteBranch (db : Db) (id : ℕ) : Db :=
  { db with
    branches := db.branches.filter fun b => b.id ≠ id
    accounts := { db.accounts with
      memberships := db.accounts.memberships.map fun m =>
        { m with branches := m.branches.filter fun b => b ≠ id } } }

def deactivateBranchUsers (db : Db) (id : ℕ) : Db :=
  { db with
    branchUsers :=
      updateMany (fun u => u.branchId = id) (fun u => { u with status := .INACTIVE }) db.branchUsers }

/-- What the schema and the ids promise. -/
structure Keyed (db : Db) : Prop where
  branchKeys : Rows.Keyed Branch.id db.branches
  approvalKeys : Rows.Keyed AdminApproval.id db.approvals
  branchFresh : ∀ b ∈ db.branches, b.id < db.nextId
  approvalFresh : ∀ r ∈ db.approvals, r.id < db.nextId
  /-- An approval refers to an id drawn before its own. -/
  referenceFresh : ∀ r ∈ db.approvals, r.referenceId < db.nextId

namespace Keyed
variable {db : Db}

theorem findOwned_iff (h : db.Keyed) {id merchantId : ℕ} {b : Branch} :
    db.findOwned id merchantId = some b ↔ b ∈ db.branches ∧ b.OwnedBy id merchantId :=
  h.branchKeys.find_iff fun _ hb => hb.1

theorem findBranch_iff (h : db.Keyed) {id : ℕ} {b : Branch} :
    db.findBranch id = some b ↔ b ∈ db.branches ∧ b.id = id :=
  h.branchKeys.find_iff fun _ hb => hb

theorem findApproval_iff (h : db.Keyed) {id : ℕ} {r : AdminApproval} :
    db.findApproval id = some r ↔ r ∈ db.approvals ∧ r.id = id :=
  h.approvalKeys.find_iff fun _ hr => hr

theorem insertBranch (h : db.Keyed) {row : ℕ → Branch} (hrow : (row db.nextId).id = db.nextId) :
    (db.insertBranch row).Keyed where
  branchKeys := h.branchKeys.concat fun b hb => by
    rw [hrow]
    exact (h.branchFresh b hb).ne
  approvalKeys := h.approvalKeys
  branchFresh b hb := by
    rcases List.mem_append.mp hb with hb | hb
    · exact Nat.lt_succ_of_lt (h.branchFresh b hb)
    · rw [List.mem_singleton.mp hb, hrow]
      exact Nat.lt_succ_self _
  approvalFresh r hr := Nat.lt_succ_of_lt (h.approvalFresh r hr)
  referenceFresh r hr := Nat.lt_succ_of_lt (h.referenceFresh r hr)

theorem insertApproval (h : db.Keyed) {type : ApprovalType} {referenceId : ℕ}
    {referenceType comment : String} (href : referenceId < db.nextId) :
    (db.insertApproval type referenceId referenceType comment).Keyed where
  branchKeys := h.branchKeys
  approvalKeys := h.approvalKeys.concat fun r hr => (h.approvalFresh r hr).ne
  branchFresh b hb := Nat.lt_succ_of_lt (h.branchFresh b hb)
  approvalFresh r hr := by
    rcases List.mem_append.mp hr with hr | hr
    · exact Nat.lt_succ_of_lt (h.approvalFresh r hr)
    · rw [List.mem_singleton.mp hr]
      exact Nat.lt_succ_self _
  referenceFresh r hr := by
    rcases List.mem_append.mp hr with hr | hr
    · exact Nat.lt_succ_of_lt (h.referenceFresh r hr)
    · rw [List.mem_singleton.mp hr]
      exact Nat.lt_succ_of_lt href

theorem insertPendingEdit (h : db.Keyed) (row : ℕ → BranchPendingEdit) :
    (db.insertPendingEdit row).Keyed where
  branchKeys := h.branchKeys
  approvalKeys := h.approvalKeys
  branchFresh b hb := Nat.lt_succ_of_lt (h.branchFresh b hb)
  approvalFresh r hr := Nat.lt_succ_of_lt (h.approvalFresh r hr)
  referenceFresh r hr := Nat.lt_succ_of_lt (h.referenceFresh r hr)

theorem updateBranches (h : db.Keyed) {p : Branch → Prop} [DecidablePred p] {f : Branch → Branch}
    (hf : ∀ b, (f b).id = b.id) : Keyed { db with branches := updateMany p f db.branches } where
  branchKeys := h.branchKeys.updateMany hf
  approvalKeys := h.approvalKeys
  branchFresh := forall_updateMany.mpr fun b hb =>
    ⟨fun _ => (hf b).symm ▸ h.branchFresh b hb, fun _ => h.branchFresh b hb⟩
  approvalFresh := h.approvalFresh
  referenceFresh := h.referenceFresh

theorem updateBranchRow (h : db.Keyed) {id : ℕ} {f : Branch → Branch} (hf : ∀ b, (f b).id = b.id) :
    (db.updateBranchRow id f).Keyed :=
  h.updateBranches hf

theorem updateApproval (h : db.Keyed) {id : ℕ} {f : AdminApproval → AdminApproval}
    (hf : ∀ r, (f r).id = r.id) (href : ∀ r, (f r).referenceId = r.referenceId) :
    (db.updateApproval id f).Keyed where
  branchKeys := h.branchKeys
  approvalKeys := h.approvalKeys.updateMany hf
  branchFresh := h.branchFresh
  approvalFresh := forall_updateMany.mpr fun r hr =>
    ⟨fun _ => (hf r).symm ▸ h.approvalFresh r hr, fun _ => h.approvalFresh r hr⟩
  referenceFresh := forall_updateMany.mpr fun r hr =>
    ⟨fun _ => (href r).symm ▸ h.referenceFresh r hr, fun _ => h.referenceFresh r hr⟩

theorem deleteApprovals (h : db.Keyed) {p : AdminApproval → Prop} [DecidablePred p] :
    (db.deleteApprovals p).Keyed where
  branchKeys := h.branchKeys
  approvalKeys := h.approvalKeys.filter
  branchFresh := h.branchFresh
  approvalFresh r hr := h.approvalFresh r (List.mem_of_mem_filter hr)
  referenceFresh r hr := h.referenceFresh r (List.mem_of_mem_filter hr)

theorem deleteBranch (h : db.Keyed) {id : ℕ} : (db.deleteBranch id).Keyed where
  branchKeys := h.branchKeys.filter
  approvalKeys := h.approvalKeys
  branchFresh b hb := h.branchFresh b (List.mem_of_mem_filter hb)
  approvalFresh := h.approvalFresh
  referenceFresh := h.referenceFresh

theorem deactivateBranchUsers (h : db.Keyed) {id : ℕ} : (db.deactivateBranchUsers id).Keyed :=
  ⟨h.branchKeys, h.approvalKeys, h.branchFresh, h.approvalFresh, h.referenceFresh⟩

end Keyed

end Db

end Redeemo.BranchLifecycle
