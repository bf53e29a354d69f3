import Redeemo.Lib.ReadCommitted
import Redeemo.Branch.Lifecycle

/-! The main branch of one merchant, with any number of requests at a time.

    The first branch is made the main one where a count has found no other; `updateBranch` clears the flag
    of the main branches it sees and then sets its own; a deletion checks beforehand that its branch is not
    the main one, and a cancellation does not check. Whoever may call is settled before the first statement,
    and the approvals and the branch logins, which no request here reads, are left out. -/

namespace Redeemo.MainBranch
open Fallible ReadCommitted Runs BranchLifecycle

structure Store (ι : Type*) where
  /-- The merchant's branches. -/
  branches : Table ι ℕ Branch
  nextId : ℕ
  /-- The branches of the committed BRANCH_CREATED rows of the audit log. -/
  created : List ℕ

inductive Request
  | createBranch (merchantId : ℕ) (data : BranchData)
  /-- With `isMainBranch: true`. -/
  | updateBranch (branchId : ℕ) (data : PatchBody)
  | updateBranchDirect (branchId : ℕ) (data : PatchBody)
  | cancelPendingCreate (branchId : ℕ)
  | softDeleteBranch (branchId : ℕ) (now : ℤ)

inductive Failure
  | app (e : AppError)
  /-- The row of an update or a delete is not there. -/
  | P2025
  /-- A crash, a deadlock, or a failed statement. -/
  | aborted
  deriving DecidableEq, Repr

/-- How far a request has come, and what it has read. -/
inductive Phase
  | start
  /-- `createBranch`: after its own count; after that of the core; with its row. -/
  | counted (stageForApproval : Bool)
  | decided (stageForApproval isMainBranch : Bool)
  | inserted (id : ℕ) (stageForApproval isMainBranch : Bool)
  /-- The branch is there, and as the request wants it. -/
  | resolved
  /-- `updateBranch`: the main branches the clearing update has found, and those it has cleared. -/
  | clearing (targets cleared : List ℕ)
  | promoted (cleared : List ℕ)
  /-- `softDeleteBranch`: the merchant is live; the branch may go. -/
  | merchantActive
  | guarded
  | written
  | returned
  | failed (e : Failure)
  deriving DecidableEq, Repr

def Phase.over : Phase → Bool
  | .returned => true
  | .failed _ => true
  | _ => false

/-- A statement, or the read of the merchant's status, or an end before the last statement. -/
inductive Act
  | statement
  | findMerchant (active : Bool)
  | abandon
  deriving DecidableEq, Repr

def demote (b : Branch) : Branch := { b with isMainBranch := false }

def promote (safe : BranchData) (b : Branch) : Branch := { safe.apply b with isMainBranch := true }

/-! ### The statements -/

variable {ι : Type*}

def after {σ : Type} (x : Except AppError σ) (phase : σ → Phase) : Phase :=
  match x with
  | .ok a => phase a
  | .error e => .failed (.app e)

section
variable [DecidableEq ι]

namespace Store

def rollback (s : Store ι) (i : ι) : Store ι := { s with branches := s.branches.rollback i }

def commit (s : Store ι) (i : ι) : Store ι := { s with branches := s.branches.commit i }

def countWhere (s : Store ι) (i : ι) (p : Branch → Prop) [DecidablePred p] : ℕ :=
  (List.range s.nextId).countP fun k => ∃ b ∈ s.branches.read i k, p b

/-- Neither deleted nor awaiting approval. -/
def existingCount (s : Store ι) (i : ι) : ℕ :=
  s.countWhere i fun b => b.deletedAt = none ∧ b.lifecycleStatus ≠ .PENDING_CREATE

def activeBranchCount (s : Store ι) (i : ι) : ℕ := s.countWhere i fun b => b.isActive = true ∧ b.deletedAt = none

/-- `where: { merchantId, isMainBranch: true }`. -/
def mainBranches (s : Store ι) (i : ι) : List ℕ :=
  (List.range s.nextId).filter fun k => ∃ b ∈ s.branches.read i k, b.isMainBranch = true

/-- `where: { id, merchantId, deletedAt: null }`. -/
def findOwned (s : Store ι) (i : ι) (branchId : ℕ) : Option Branch :=
  (s.branches.read i branchId).filter fun b => b.deletedAt = none

/-- `branch.update` or `branch.delete`, by id. -/
def writeRow (s : Store ι) (i : ι) (branchId : ℕ) (f : Option Branch → Option Branch) (phase : Phase) :
    Option (Store ι × Phase) :=
  if s.branches.read i branchId = none then some (s.rollback i, .failed .P2025)
  else (s.branches.write i branchId f).map fun branches => ({ s with branches := branches }, phase)

end Store

def createBranch (merchantId : ℕ) (data : BranchData) (i : ι) (s : Store ι) : Phase → Option (Store ι × Phase)
  | .start => some (s, .counted (decide (1 ≤ s.existingCount i)))
  | .counted stageForApproval =>
    some (s, .decided stageForApproval (!stageForApproval && s.existingCount i == 0))
  | .decided stageForApproval isMainBranch =>
    (s.branches.write i s.nextId fun _ =>
      some (createdBranch merchantId isMainBranch stageForApproval data s.nextId)).map fun branches =>
        ({ s with branches := branches, nextId := s.nextId + 1 },
          .inserted s.nextId stageForApproval isMainBranch)
  | .inserted id _ _ => some ({ s.commit i with created := id :: s.created }, .returned)
  | _ => none

def updateBranch (branchId : ℕ) (data : PatchBody) (i : ι) (s : Store ι) : Phase → Option (Store ι × Phase)
  | .start => some (s, after (orReject (s.findOwned i branchId) .BRANCH_NOT_FOUND) fun _ => .resolved)
  | .resolved => some (s, .clearing (s.mainBranches i) [])
  | .clearing (k :: targets) cleared =>
    (s.branches.write i k (Option.map demote)).map fun branches =>
      ({ s with branches := branches }, .clearing targets (k :: cleared))
  | .clearing [] cleared => s.writeRow i branchId (Option.map (promote data.direct)) (.promoted cleared)
  | .promoted _ => some (s.commit i, .returned)
  | _ => none

def updateBranchDirect (branchId : ℕ) (data : PatchBody) (i : ι) (s : Store ι) :
    Phase → Option (Store ι × Phase)
  | .start => some (s, after (orReject (s.findOwned i branchId) .BRANCH_NOT_FOUND) fun _ =>
      if data.direct.HasKeys DIRECT_FIELDS then .resolved else .returned)
  | .resolved => s.writeRow i branchId (Option.map data.direct.apply) .written
  | .written => some (s.commit i, .returned)
  | _ => none

def cancelPendingCreate (branchId : ℕ) (i : ι) (s : Store ι) : Phase → Option (Store ι × Phase)
  | .start => some (s, after (do
      let branch ← orReject (s.findOwned i branchId) .BRANCH_NOT_FOUND
      rejectIf (branch.lifecycleStatus ≠ .PENDING_CREATE) .BRANCH_NOT_PENDING_CREATE) fun _ => .resolved)
  | .resolved => s.writeRow i branchId (fun _ => none) .written
  | .written => some (s.commit i, .returned)
  | _ => none

def softDeleteBranch (branchId : ℕ) (now : ℤ) (i : ι) (s : Store ι) : Phase → Option (Store ι × Phase)
  | .start => some (s, after (do
      let branch ← orReject (s.findOwned i branchId) .BRANCH_NOT_FOUND
      rejectIf (branch.isMainBranch = true) .BRANCH_IS_MAIN) fun _ => .resolved)
  | .merchantActive =>
    some (s, after (rejectIf (s.activeBranchCount i ≤ 1) .BRANCH_LAST_ACTIVE) fun _ => .guarded)
  | .guarded => s.writeRow i branchId (Option.map (Branch.softDelete now)) .written
  | .written => some (s.commit i, .returned)
  | _ => none

def statement (request : Request) (i : ι) (s : Store ι) (phase : Phase) : Option (Store ι × Phase) :=
  match request with
  | .createBranch merchantId data => createBranch merchantId data i s phase
  | .updateBranch branchId data => updateBranch branchId data i s phase
  | .updateBranchDirect branchId data => updateBranchDirect branchId data i s phase
  | .cancelPendingCreate branchId => cancelPendingCreate branchId i s phase
  | .softDeleteBranch branchId now => softDeleteBranch branchId now i s phase

/-- The read of the merchant's status. -/
def findMerchant : Request → Phase → Bool → Option Phase
  | .softDeleteBranch _ _, .resolved, active => some (if active = true then .merchantActive else .guarded)
  | _, _, _ => none

def next (requests : ι → Request) (i : ι) (s : Store ι) (phase : Phase) : Act → Option (Store ι × Phase)
  | .statement => statement (requests i) i s phase
  | .findMerchant active => (findMerchant (requests i) phase active).map fun phase => (s, phase)
  | .abandon => if phase.over then none else some (s.rollback i, .failed .aborted)

end

/-! ### One main branch -/

namespace Store

/-- The committed rows. -/
def rows (s : Store ι) (k : ℕ) : Option Branch := s.branches.rows k

/-- The main branch, and not deleted. -/
def Main (s : Store ι) (k : ℕ) : Prop := ∃ b, s.rows k = some b ∧ b.deletedAt = none ∧ b.isMainBranch = true

end Store

/-- One branch at most is the main one, and one is from the first branch on. -/
structure OneMain (s : Store ι) : Prop where
  unique : ∀ k l, s.Main k → s.Main l → k = l
  found : s.created ≠ [] → ∃ k, s.Main k

/-- A request commits on a state that it has not reckoned with: a first branch where there is a main branch;
    a main branch where another has become it since the others were cleared; a deleted one where the main
    branch has been cleared; the cancellation or the deletion of the main branch. -/
def Breaks (request : Request) (s : Store ι) (phase : Phase) (a : Act) : Prop :=
  a = .statement ∧ match request, phase with
    | .createBranch _ _, .inserted _ _ isMainBranch => isMainBranch = true ∧ ∃ k, s.Main k
    | .updateBranch branchId _, .promoted cleared => ∃ b, s.rows branchId = some b ∧
        ((b.deletedAt = none ∧ ∃ k, s.Main k ∧ k ≠ branchId ∧ k ∉ cleared) ∨
          b.deletedAt ≠ none ∧ ∃ k, s.Main k ∧ k ∈ cleared)
    | .cancelPendingCreate branchId, .written => s.Main branchId
    | .softDeleteBranch branchId _, .written => s.Main branchId
    | _, _ => False

/-! ### What a request has made of the rows -/

/-- What an unfinished transaction has made of each row. -/
def done : Request → Phase → ℕ → Option (Option Branch → Option Branch)
  | .createBranch merchantId data, .inserted id stageForApproval isMainBranch, k =>
    if k = id then some fun _ => some (createdBranch merchantId isMainBranch stageForApproval data id) else none
  | .updateBranch _ _, .clearing _ cleared, k => if k ∈ cleared then some (Option.map demote) else none
  | .updateBranch branchId data, .promoted cleared, k =>
    if k = branchId then some (Option.map (promote data.direct))
    else if k ∈ cleared then some (Option.map demote) else none
  | .updateBranchDirect branchId data, .written, k =>
    if k = branchId then some (Option.map data.direct.apply) else none
  | .cancelPendingCreate branchId, .written, k => if k = branchId then some fun _ => none else none
  | .softDeleteBranch branchId now, .written, k =>
    if k = branchId then some (Option.map (Branch.softDelete now)) else none
  | _, _, _ => none

/-- The statement after this phase is the commit. -/
def Request.Commits : Request → Phase → Prop
  | .createBranch _ _, .inserted _ _ _ => True
  | .updateBranch _ _, .promoted _ => True
  | .updateBranchDirect _ _, .written => True
  | .cancelPendingCreate _, .written => True
  | .softDeleteBranch _ _, .written => True
  | _, _ => False

/-- The BRANCH_CREATED rows after a commit. -/
def logged : Phase → List ℕ → List ℕ
  | .inserted id _ _, created => id :: created
  | _, created => created

/-- What a request knows: no branch but the first is created without another before it. -/
def Knows (request : Request) (s : Store ι) (phase : Phase) : Prop :=
  match request, phase with
  | .createBranch _ _, .counted stageForApproval => stageForApproval = true → s.created ≠ []
  | .createBranch _ _, .decided _ isMainBranch => isMainBranch = false → s.created ≠ []
  | .createBranch _ _, .inserted id _ isMainBranch =>
    (isMainBranch = false → s.created ≠ []) ∧ id < s.nextId ∧ s.rows id = none
  | .updateBranch branchId _, .promoted _ => s.rows branchId ≠ none
  | _, _ => True

structure Local (requests : ι → Request) (i : ι) (s : Store ι) (phase : Phase) : Prop where
  holds : s.branches.Holds i (done (requests i) phase)
  knows : Knows (requests i) s phase

/-- Ids are fresh, and creations are logged. -/
structure Sound (s : Store ι) : Prop where
  fresh : ∀ k, s.nextId ≤ k → s.rows k = none
  logged : ∀ k, s.rows k ≠ none → s.created ≠ []

/-- What a step does to the committed rows. -/
inductive Changes (request : Request) (s : Store ι) (phase : Phase) (a : Act) (s' : Store ι) : Prop
  | none (hrows : s'.rows = s.rows) (hcreated : s'.created = s.created) (hno : ¬ Breaks request s phase a)
  | commit (ha : a = .statement) (hcommits : request.Commits phase)
    (hrows : ∀ k, s'.rows k = (done request phase k).getD id (s.rows k))
    (hcreated : s'.created = logged phase s.created)

structure StepOk (request : Request) (i : ι) (s : Store ι) (phase : Phase) (a : Act) (s' : Store ι)
    (phase' : Phase) : Prop where
  moves : s.branches.Moves i s'.branches
  holds : s'.branches.Holds i (done request phase')
  nextId : s.nextId ≤ s'.nextId
  created : s.created ≠ [] → s'.created ≠ []
  knows : Knows request s' phase'
  changes : Changes request s phase a s'

section
variable {request : Request} {requests : ι → Request} {i j : ι} {s s' : Store ι} {phase phase' : Phase} {a : Act}

/-- What it knows is about the log, and about the rows that it holds. -/
theorem Knows.mono (h : Knows request s phase)
    (hrows : ∀ k, done request phase k ≠ none → s'.rows k = s.rows k) (hnext : s.nextId ≤ s'.nextId)
    (hcreated : s.created ≠ [] → s'.created ≠ []) : Knows request s' phase := by
  cases request with
  | createBranch merchantId data =>
    cases phase with
    | counted stageForApproval => exact fun hstage => hcreated (h hstage)
    | decided stageForApproval isMainBranch => exact fun hmain => hcreated (h hmain)
    | inserted id stageForApproval isMainBranch =>
      obtain ⟨hmain, hid, hnone⟩ := h
      refine ⟨fun hfalse => hcreated (hmain hfalse), hid.trans_le hnext, (hrows id ?_).trans hnone⟩
      simp [done]
    | _ => trivial
  | updateBranch branchId data =>
    cases phase with
    | promoted cleared =>
      intro hgone
      refine h ((hrows branchId ?_).symm.trans hgone)
      simp [done]
    | _ => trivial
  | _ => trivial

/-- A request that is over has no transaction. -/
theorem over_idle (request : Request) (s : Store ι) (hover : phase.over = true) :
    done request phase = (fun _ => none) ∧ Knows request s phase := by
  cases phase with
  | returned => cases request <;> exact ⟨rfl, trivial⟩
  | failed e => cases request <;> exact ⟨rfl, trivial⟩
  | _ => cases hover

theorem not_breaks (hno : ¬ request.Commits phase) : ¬ Breaks request s phase a := by
  rintro ⟨-, h⟩
  cases request <;> cases phase <;> first | exact h | exact hno trivial

/-- A step that only reads. -/
theorem stepOk_read (hk : s.branches.Holds i (done request phase)) (hno : ¬ request.Commits phase)
    (hdone : done request phase' = done request phase) (hknows : Knows request s phase') :
    StepOk request i s phase a s phase' where
  moves := .refl
  holds := hdone ▸ hk
  nextId := le_rfl
  created := id
  knows := hknows
  changes := .none rfl rfl (not_breaks hno)

/-- The outcome of a check before the first write. -/
theorem stepOk_check {σ : Type} {x : Except AppError σ} {f : σ → Phase}
    (hk : s.branches.Holds i (done request phase)) (hno : ¬ request.Commits phase)
    (hidle : done request phase = fun _ => none)
    (hnext : ∀ b, done request (f b) = (fun _ => none) ∧ Knows request s (f b)) :
    StepOk request i s phase a s (after x f) := by
  cases x with
  | ok b => exact stepOk_read hk hno ((hnext b).1.trans hidle.symm) (hnext b).2
  | error e =>
    obtain ⟨hdone, hknows⟩ := over_idle request s (rfl : (Phase.failed (.app e)).over = true)
    exact stepOk_read hk hno (hdone.trans hidle.symm) hknows

variable [DecidableEq ι]

theorem stepOk_rollback {e : Failure} (hno : ¬ Breaks request s phase a) :
    StepOk request i s phase a (s.rollback i) (.failed e) := by
  obtain ⟨hmoves, hrows, hfree⟩ := Table.holds_rollback (t := s.branches) (i := i)
  obtain ⟨hdone, hknows⟩ := over_idle request (s.rollback i) (rfl : (Phase.failed e).over = true)
  exact ⟨hmoves, hdone ▸ hfree, le_rfl, id, hknows, .none hrows rfl hno⟩

/-- One row is written. -/
theorem stepOk_write {k : ℕ} {f : Option Branch → Option Branch}
    {p : Phase} (hk : s.branches.Holds i (done request phase)) (hno : ¬ request.Commits phase)
    (h : (s.branches.write i k f).map (fun branches => ({ s with branches := branches }, p)) = some (s', phase'))
    (hat : done request p k = some (f ∘ (done request phase k).getD id))
    (hrest : ∀ l, l ≠ k → done request p l = done request phase l) (hknows : Knows request s p) :
    StepOk request i s phase a s' phase' := by
  obtain ⟨t, hw, he⟩ := Option.map_eq_some_iff.mp h
  cases he
  obtain ⟨hmoves, hrows, hholds⟩ := hk.write hw hat hrest
  have hsame : ({ s with branches := t } : Store ι).rows = s.rows := hrows
  exact ⟨hmoves, hholds, le_rfl, id, hknows.mono (fun l _ => congrFun hsame l) le_rfl id,
    .none hsame rfl (not_breaks hno)⟩

theorem stepOk_writeRow {branchId : ℕ} {f : Option Branch → Option Branch}
    {p : Phase} (hk : s.branches.Holds i (done request phase)) (hno : ¬ request.Commits phase)
    (h : s.writeRow i branchId f p = some (s', phase'))
    (hat : done request p branchId = some (f ∘ (done request phase branchId).getD id))
    (hrest : ∀ l, l ≠ branchId → done request p l = done request phase l)
    (hknows : s.branches.read i branchId ≠ none → Knows request s p) : StepOk request i s phase a s' phase' := by
  rw [Store.writeRow] at h
  split_ifs at h with hgone
  · cases h
    exact stepOk_rollback (not_breaks hno)
  · exact stepOk_write hk hno h hat hrest (hknows hgone)

theorem stepOk_commit (hk : s.branches.Holds i (done request phase)) (hcommits : request.Commits phase)
    (hrows : s'.branches = s.branches.commit i) (hnext : s'.nextId = s.nextId)
    (hcreated : s'.created = logged phase s.created) :
    StepOk request i s phase .statement s' .returned := by
  obtain ⟨hmoves, hdone, hfree⟩ := hk.commit
  obtain ⟨hreturned, hknows⟩ := over_idle request s' (rfl : Phase.returned.over = true)
  refine ⟨hrows ▸ hmoves, ?_, hnext.ge, fun h => ?_, hknows, .commit rfl hcommits (fun k => ?_) hcreated⟩
  · rw [hrows, hreturned]
    exact hfree
  · rw [hcreated]
    cases phase <;> simp [logged, h]
  · rw [Store.rows, hrows]
    exact hdone k

/-- A count of existing branches that finds one finds a creation in the log. -/
theorem existing_created (hs : Sound s) (hk : s.branches.Holds i (done request phase))
    (hidle : ∀ k, done request phase k = none) (hcount : 1 ≤ s.existingCount i) : s.created ≠ [] := by
  obtain ⟨k, -, hb⟩ := List.countP_pos_iff.mp (Nat.succ_le_iff.mp hcount)
  obtain ⟨b, hb, -⟩ := of_decide_eq_true hb
  refine hs.logged k ?_
  rw [Store.rows, ← hk.read_of_none (hidle k), Option.mem_def.mp hb]
  exact Option.some_ne_none b

/-! ### The statements of each request -/

theorem createBranch_step {merchantId : ℕ} {data : BranchData} (hs : Sound s)
    (hk : s.branches.Holds i (done (.createBranch merchantId data) phase))
    (hknows : Knows (.createBranch merchantId data) s phase)
    (h : createBranch merchantId data i s phase = some (s', phase')) :
    StepOk (.createBranch merchantId data) i s phase .statement s' phase' := by
  cases phase with
  | start =>
    cases h
    refine stepOk_read hk id rfl fun hcount => existing_created hs hk (fun _ => rfl) ?_
    exact of_decide_eq_true hcount
  | counted stageForApproval =>
    cases h
    refine stepOk_read hk id rfl fun hmain => ?_
    rcases Bool.and_eq_false_iff.mp hmain with hstage | hcount
    · exact hknows (by simpa using hstage)
    · refine existing_created hs hk (fun _ => rfl) (Nat.one_le_iff_ne_zero.mpr ?_)
      simpa using hcount
  | decided stageForApproval isMainBranch =>
    obtain ⟨t, hw, he⟩ := Option.map_eq_some_iff.mp h
    cases he
    have hnew : done (.createBranch merchantId data) (.inserted s.nextId stageForApproval isMainBranch) s.nextId =
        some fun _ => some (createdBranch merchantId isMainBranch stageForApproval data s.nextId) := if_pos rfl
    obtain ⟨hmoves, hrows, hholds⟩ := hk.write hw hnew fun l hl => if_neg hl
    refine ⟨hmoves, hholds, Nat.le_succ _, id, ⟨hknows, Nat.lt_succ_self _, ?_⟩, .none hrows rfl (not_breaks id)⟩
    exact (congrFun hrows s.nextId).trans (hs.fresh _ le_rfl)
  | inserted id stageForApproval isMainBranch =>
    cases h
    exact stepOk_commit hk trivial rfl rfl rfl
  | _ => cases h

/-- Whether a branch has been demoted before does not matter to a write that overwrites its flag. -/
theorem map_demoted {f : Branch → Branch} (hf : ∀ b, f (demote b) = f b) (k : ℕ) (cleared : List ℕ) :
    Option.map f = Option.map f ∘ (if k ∈ cleared then some (Option.map demote) else none).getD id := by
  split_ifs with hk
  · funext row
    cases row with
    | none => rfl
    | some b => exact congrArg some (hf b).symm
  · rfl

theorem updateBranch_step {branchId : ℕ} {data : PatchBody}
    (hk : s.branches.Holds i (done (.updateBranch branchId data) phase))
    (h : updateBranch branchId data i s phase = some (s', phase')) :
    StepOk (.updateBranch branchId data) i s phase .statement s' phase' := by
  cases phase with
  | start =>
    cases h
    exact stepOk_check hk id rfl fun _ => ⟨rfl, trivial⟩
  | resolved =>
    cases h
    refine stepOk_read hk id (funext fun k => ?_) trivial
    simp [done]
  | clearing targets cleared =>
    cases targets with
    | cons k targets =>
      refine stepOk_write hk id h ?_ (fun l hl => ?_) trivial
      · have hcleared : done (.updateBranch branchId data) (.clearing targets (k :: cleared)) k =
            some (Option.map demote) := if_pos (List.mem_cons_self ..)
        rw [hcleared]
        exact congrArg some (map_demoted (fun _ => rfl) k cleared)
      · simp only [done, List.mem_cons, hl, false_or]
    | nil =>
      refine stepOk_writeRow hk id h ?_ (fun l hl => if_neg hl) fun hread => ?_
      · have hpromoted : done (.updateBranch branchId data) (.promoted cleared) branchId =
            some (Option.map (promote data.direct)) := if_pos rfl
        rw [hpromoted]
        exact congrArg some (map_demoted (fun _ => rfl) branchId cleared)
      · intro hgone
        refine hread ?_
        rw [Table.read, (hk branchId).read]
        rw [show (s.branches.cell branchId).committed = none from hgone]
        simp only [done]
        split_ifs <;> rfl
  | promoted cleared =>
    cases h
    exact stepOk_commit hk trivial rfl rfl rfl
  | _ => cases h

theorem written_done (request : Request) (phase : Phase) {branchId : ℕ} {f : Option Branch → Option Branch}
    (hidle : done request phase = fun _ => none)
    (hdone : ∀ k, done request .written k = if k = branchId then some f else none) :
    done request .written branchId = some (f ∘ (done request phase branchId).getD id) ∧
      ∀ l, l ≠ branchId → done request .written l = done request phase l := by
  rw [hidle]
  refine ⟨?_, fun l hl => ?_⟩
  · rw [hdone, if_pos rfl]
    rfl
  · rw [hdone, if_neg hl]

theorem updateBranchDirect_step {branchId : ℕ} {data : PatchBody}
    (hk : s.branches.Holds i (done (.updateBranchDirect branchId data) phase))
    (h : updateBranchDirect branchId data i s phase = some (s', phase')) :
    StepOk (.updateBranchDirect branchId data) i s phase .statement s' phase' := by
  cases phase with
  | start =>
    cases h
    refine stepOk_check hk id rfl fun _ => ?_
    split_ifs <;> exact ⟨rfl, trivial⟩
  | resolved =>
    obtain ⟨hat, hrest⟩ := written_done (.updateBranchDirect branchId data) .resolved rfl fun _ => rfl
    exact stepOk_writeRow hk id h hat hrest fun _ => trivial
  | written =>
    cases h
    exact stepOk_commit hk trivial rfl rfl rfl
  | _ => cases h

theorem cancelPendingCreate_step {branchId : ℕ}
    (hk : s.branches.Holds i (done (.cancelPendingCreate branchId) phase))
    (h : cancelPendingCreate branchId i s phase = some (s', phase')) :
    StepOk (.cancelPendingCreate branchId) i s phase .statement s' phase' := by
  cases phase with
  | start =>
    cases h
    exact stepOk_check hk id rfl fun _ => ⟨rfl, trivial⟩
  | resolved =>
    obtain ⟨hat, hrest⟩ := written_done (.cancelPendingCreate branchId) .resolved rfl fun _ => rfl
    exact stepOk_writeRow hk id h hat hrest fun _ => trivial
  | written =>
    cases h
    exact stepOk_commit hk trivial rfl rfl rfl
  | _ => cases h

theorem softDeleteBranch_step {branchId : ℕ} {now : ℤ}
    (hk : s.branches.Holds i (done (.softDeleteBranch branchId now) phase))
    (h : softDeleteBranch branchId now i s phase = some (s', phase')) :
    StepOk (.softDeleteBranch branchId now) i s phase .statement s' phase' := by
  cases phase with
  | start =>
    cases h
    exact stepOk_check hk id rfl fun _ => ⟨rfl, trivial⟩
  | merchantActive =>
    cases h
    exact stepOk_check hk id rfl fun _ => ⟨rfl, trivial⟩
  | guarded =>
    obtain ⟨hat, hrest⟩ := written_done (.softDeleteBranch branchId now) .guarded rfl fun _ => rfl
    exact stepOk_writeRow hk id h hat hrest fun _ => trivial
  | written =>
    cases h
    exact stepOk_commit hk trivial rfl rfl rfl
  | _ => cases h

/-! ### Every step -/

theorem statement_step (hs : Sound s) (hk : s.branches.Holds i (done request phase))
    (hknows : Knows request s phase) (h : statement request i s phase = some (s', phase')) :
    StepOk request i s phase .statement s' phase' := by
  cases request with
  | createBranch merchantId data => exact createBranch_step hs hk hknows h
  | updateBranch branchId data => exact updateBranch_step hk h
  | updateBranchDirect branchId data => exact updateBranchDirect_step hk h
  | cancelPendingCreate branchId => exact cancelPendingCreate_step hk h
  | softDeleteBranch branchId now => exact softDeleteBranch_step hk h

theorem next_step (hs : Sound s) (hk : Local requests i s phase) (h : next requests i s phase a = some (s', phase')) :
    StepOk (requests i) i s phase a s' phase' := by
  cases a with
  | statement => exact statement_step hs hk.holds hk.knows h
  | findMerchant active =>
    obtain ⟨p, hp, he⟩ := Option.map_eq_some_iff.mp h
    cases he
    have hholds := hk.holds
    generalize requests i = request at hp hholds
    cases request with
    | softDeleteBranch branchId now =>
      cases phase with
      | resolved =>
        cases hp
        split_ifs
        · exact stepOk_read hholds id rfl trivial
        · exact stepOk_read hholds id rfl trivial
      | _ => cases hp
    | _ => cases phase <;> cases hp
  | abandon =>
    rw [next] at h
    split_ifs at h
    cases h
    exact stepOk_rollback fun hbreaks => Act.noConfusion hbreaks.1

/-! ### Every interleaving -/

/-- No row comes of none, but the inserted one. -/
theorem done_none {k : ℕ} (hid : ∀ id stageForApproval isMainBranch,
    phase = .inserted id stageForApproval isMainBranch → k ≠ id) : (done request phase k).getD id none = none := by
  rw [done.eq_def]
  split <;> first
    | rfl
    | rw [if_neg (hid _ _ _ rfl)]; rfl
    | split_ifs <;> rfl

theorem sound_own (hs : Sound s) (hk : Local requests i s phase)
    (h : next requests i s phase a = some (s', phase')) : Sound s' ∧ Local requests i s' phase' := by
  have hok := next_step hs hk h
  refine ⟨?_, hok.holds, hok.knows⟩
  have hknows := hk.knows
  have hnext := hok.nextId
  cases hok.changes with
  | none hrows hcreated hno =>
    refine ⟨fun k hfresh => ?_, fun k hrow => ?_⟩
    · rw [hrows]
      exact hs.fresh k (hnext.trans hfresh)
    · rw [hcreated]
      exact hs.logged k (hrows ▸ hrow)
  | commit ha hcommits hrows hcreated =>
    have hinserted : ∀ k, s.nextId ≤ k → ∀ id stageForApproval isMainBranch,
        phase = .inserted id stageForApproval isMainBranch → k ≠ id := by
      rintro k hfresh id stageForApproval isMainBranch rfl rfl
      generalize requests i = request at hcommits hknows
      cases request with
      | createBranch merchantId data => exact hknows.2.1.not_ge hfresh
      | _ => exact hcommits
    refine ⟨fun k hfresh => ?_, fun k hrow => ?_⟩
    · have hold := hnext.trans hfresh
      rw [hrows, hs.fresh k hold]
      exact done_none (hinserted k hold)
    · cases phase with
      | inserted id stageForApproval isMainBranch =>
        rw [hcreated]
        exact List.cons_ne_nil _ _
      | _ =>
        rw [hcreated]
        refine hs.logged k fun hnone => hrow ?_
        rw [hrows, hnone]
        exact done_none fun _ _ _ he => Phase.noConfusion he

theorem local_frame {other : Phase} (hs : Sound s) (hne : i ≠ j) (hk : Local requests i s phase)
    (hkj : Local requests j s other) (h : next requests i s phase a = some (s', phase')) :
    Local requests j s' other := by
  have hok := next_step hs hk h
  refine ⟨hkj.holds.frame hok.moves hne, hkj.knows.mono (fun k hheld => ?_) hok.nextId hok.created⟩
  obtain ⟨f, hf⟩ := Option.ne_none_iff_exists'.mp hheld
  have hcell := hkj.holds k
  rw [hf] at hcell
  exact congrArg Cell.committed ((hok.moves k).held_of_ne hne hcell)

/-! ### What a commit does to the main branch -/

omit [DecidableEq ι] in
theorem Store.Main.created {k : ℕ} (h : s.Main k) (hs : Sound s) : s.created ≠ [] := by
  obtain ⟨b, hb, -⟩ := h
  refine hs.logged k ?_
  rw [hb]
  exact Option.some_ne_none b

omit [DecidableEq ι] in
theorem OneMain.of_same (h : OneMain s) (hmain : ∀ k, s'.Main k ↔ s.Main k)
    (hcreated : s'.created ≠ [] → s.created ≠ []) : OneMain s' where
  unique k l hk hl := h.unique k l ((hmain k).mp hk) ((hmain l).mp hl)
  found hc := by
    obtain ⟨k, hk⟩ := h.found (hcreated hc)
    exact ⟨k, (hmain k).mpr hk⟩

omit [DecidableEq ι] in
/-- One branch is gone. -/
theorem OneMain.removed_iff {branchId : ℕ} (h : OneMain s) (hs : Sound s)
    (hmain : ∀ k, s'.Main k ↔ s.Main k ∧ k ≠ branchId) (hcreated : s'.created = s.created) :
    OneMain s' ↔ ¬ s.Main branchId := by
  constructor
  · intro h' hgone
    obtain ⟨k, hk⟩ := h'.found (hcreated ▸ hgone.created hs)
    obtain ⟨hk, hne⟩ := (hmain k).mp hk
    exact hne (h.unique k branchId hk hgone)
  · intro hno
    refine h.of_same (fun k => ?_) fun hc => hcreated ▸ hc
    rw [hmain]
    refine and_iff_left_of_imp ?_
    rintro hk rfl
    exact hno hk

omit [DecidableEq ι] in
/-- One branch is the main one now, and others have been cleared. -/
theorem oneMain_promoted_iff {branchId : ℕ} {cleared : List ℕ}
    (hmain : ∀ k, s'.Main k ↔ k = branchId ∨ s.Main k ∧ k ≠ branchId ∧ k ∉ cleared) :
    OneMain s' ↔ ¬ ∃ k, s.Main k ∧ k ≠ branchId ∧ k ∉ cleared := by
  constructor
  · rintro h' ⟨k, hk⟩
    exact hk.2.1 (h'.unique k branchId ((hmain k).mpr (.inr hk)) ((hmain branchId).mpr (.inl rfl)))
  · intro hno
    have honly : ∀ k, s'.Main k → k = branchId :=
      fun k hk => ((hmain k).mp hk).resolve_right fun hother => hno ⟨k, hother⟩
    exact ⟨fun k l hk hl => (honly k hk).trans (honly l hl).symm,
      fun _ => ⟨branchId, (hmain branchId).mpr (.inl rfl)⟩⟩

omit [DecidableEq ι] in
/-- Others have been cleared only. -/
theorem OneMain.cleared_iff {cleared : List ℕ} (h : OneMain s) (hs : Sound s)
    (hmain : ∀ k, s'.Main k ↔ s.Main k ∧ k ∉ cleared) (hcreated : s'.created = s.created) :
    OneMain s' ↔ ¬ ∃ k, s.Main k ∧ k ∈ cleared := by
  constructor
  · rintro h' ⟨k, hk, hcleared⟩
    obtain ⟨l, hl⟩ := h'.found (hcreated ▸ hk.created hs)
    obtain ⟨hl, hkept⟩ := (hmain l).mp hl
    exact hkept (h.unique k l hk hl ▸ hcleared)
  · intro hno
    refine h.of_same (fun k => ?_) fun hc => hcreated ▸ hc
    rw [hmain]
    exact and_iff_left_of_imp fun hk hcleared => hno ⟨k, hk, hcleared⟩

omit [DecidableEq ι] in
/-- A row that is written, with the others as they were. -/
theorem main_written {branchId : ℕ} {f : Option Branch → Option Branch} {P : Prop}
    (hrows : ∀ k, s'.rows k = ((if k = branchId then some f else none).getD id) (s.rows k))
    (hat : (∃ b, f (s.rows branchId) = some b ∧ b.deletedAt = none ∧ b.isMainBranch = true) ↔ P) (k : ℕ) :
    s'.Main k ↔ (k = branchId ∧ P) ∨ k ≠ branchId ∧ s.Main k := by
  rw [Store.Main, hrows]
  by_cases hk : k = branchId
  · subst hk
    simp only [if_true, Option.getD_some, hat, true_and, ne_eq, not_true_eq_false, false_and, or_false]
  · simp only [hk, false_and, false_or, ne_eq, not_false_eq_true, true_and]
    rfl

omit [DecidableEq ι] in
theorem createBranch_oneMain {merchantId newId : ℕ} {data : BranchData} {stageForApproval isMainBranch : Bool}
    (h : OneMain s)
    (hknows : Knows (.createBranch merchantId data) s (.inserted newId stageForApproval isMainBranch))
    (hrows : ∀ k, s'.rows k =
      (done (.createBranch merchantId data) (.inserted newId stageForApproval isMainBranch) k).getD id (s.rows k)) :
    OneMain s' ↔ ¬ (isMainBranch = true ∧ ∃ k, s.Main k) := by
  have hmain : ∀ k, s'.Main k ↔ (k = newId ∧ isMainBranch = true) ∨ k ≠ newId ∧ s.Main k := by
    refine main_written hrows ⟨?_, fun htrue => ⟨_, rfl, rfl, htrue⟩⟩
    rintro ⟨b, ⟨⟩, -, htrue⟩
    exact htrue
  have hnew : ¬ s.Main newId := by
    rintro ⟨b, hb, -⟩
    cases hb.symm.trans hknows.2.2
  have hother : ∀ k, s.Main k → k ≠ newId := fun k hk he => hnew (he ▸ hk)
  cases isMainBranch with
  | false =>
    refine iff_of_true (h.of_same (fun k => ?_) fun _ => hknows.1 rfl) (by simp)
    rw [hmain]
    simpa using hother k
  | true =>
    have hadded : ∀ k, s'.Main k ↔ k = newId ∨ s.Main k ∧ k ≠ newId ∧ k ∉ ([] : List ℕ) := by
      intro k
      rw [hmain]
      simp [and_comm]
    rw [oneMain_promoted_iff hadded]
    refine not_congr ?_
    simp only [true_and, List.not_mem_nil, not_false_eq_true, and_true]
    exact exists_congr fun k => and_iff_left_of_imp (hother k)

omit [DecidableEq ι] in
/-- The branch that was chosen is the main one afterwards, unless it is deleted. -/
theorem promoted_main {branchId : ℕ} {data : PatchBody} {cleared : List ℕ} {b : Branch}
    (hb : s.rows branchId = some b)
    (hrows : ∀ k, s'.rows k = (done (.updateBranch branchId data) (.promoted cleared) k).getD id (s.rows k)) :
    s'.Main branchId ↔ b.deletedAt = none := by
  rw [Store.Main, hrows, hb]
  simp only [done, if_true, Option.getD_some, Option.map_some, Option.some.injEq, exists_eq_left']
  exact and_iff_left rfl

omit [DecidableEq ι] in
/-- The other main branches are demoted where they were seen. -/
theorem cleared_main {branchId k : ℕ} {data : PatchBody} {cleared : List ℕ} (hk : k ≠ branchId)
    (hrow : s'.rows k = (done (.updateBranch branchId data) (.promoted cleared) k).getD id (s.rows k)) :
    s'.Main k ↔ s.Main k ∧ k ∉ cleared := by
  rw [Store.Main, hrow]
  simp only [done, if_neg hk]
  by_cases hcleared : k ∈ cleared
  · refine iff_of_false ?_ fun hboth => hboth.2 hcleared
    rintro ⟨c, hc, -, htrue⟩
    rw [if_pos hcleared] at hc
    obtain ⟨d, -, rfl⟩ := Option.map_eq_some_iff.mp hc
    cases htrue
  · rw [if_neg hcleared]
    exact (and_iff_left hcleared).symm

omit [DecidableEq ι] in
theorem updateBranch_breaks_iff {branchId : ℕ} {data : PatchBody} {cleared : List ℕ} {b : Branch}
    (hb : s.rows branchId = some b) :
    Breaks (.updateBranch branchId data) s (.promoted cleared) .statement ↔
      (b.deletedAt = none ∧ ∃ k, s.Main k ∧ k ≠ branchId ∧ k ∉ cleared) ∨
        b.deletedAt ≠ none ∧ ∃ k, s.Main k ∧ k ∈ cleared := by
  refine (and_iff_right rfl).trans ⟨?_, fun hcase => ⟨b, hb, hcase⟩⟩
  rintro ⟨c, hc, hcase⟩
  cases hc.symm.trans hb
  exact hcase

omit [DecidableEq ι] in
theorem updateBranch_oneMain {branchId : ℕ} {data : PatchBody} {cleared : List ℕ} (hs : Sound s) (h : OneMain s)
    (hknows : s.rows branchId ≠ none)
    (hrows : ∀ k, s'.rows k = (done (.updateBranch branchId data) (.promoted cleared) k).getD id (s.rows k))
    (hcreated : s'.created = s.created) :
    OneMain s' ↔ ¬ Breaks (.updateBranch branchId data) s (.promoted cleared) .statement := by
  obtain ⟨b, hb⟩ := Option.ne_none_iff_exists'.mp hknows
  have hat : s'.Main branchId ↔ b.deletedAt = none := promoted_main hb hrows
  have hrest : ∀ k, k ≠ branchId → (s'.Main k ↔ s.Main k ∧ k ∉ cleared) := fun k hk => cleared_main hk (hrows k)
  rw [updateBranch_breaks_iff hb]
  by_cases hdeleted : b.deletedAt = none
  · have hmain : ∀ k, s'.Main k ↔ k = branchId ∨ s.Main k ∧ k ≠ branchId ∧ k ∉ cleared := by
      intro k
      by_cases hk : k = branchId
      · subst hk
        simp only [hat, hdeleted, true_or]
      · simp only [hrest k hk, hk, false_or, ne_eq, not_false_eq_true, true_and]
    rw [oneMain_promoted_iff hmain]
    simp only [hdeleted, true_and, ne_eq, not_true_eq_false, false_and, or_false]
  · have hno : ¬ s.Main branchId := by
      rintro ⟨c, hc, hnone, -⟩
      cases hc.symm.trans hb
      exact hdeleted hnone
    have hmain : ∀ k, s'.Main k ↔ s.Main k ∧ k ∉ cleared := by
      intro k
      by_cases hk : k = branchId
      · subst hk
        exact iff_of_false (fun hm => hdeleted (hat.mp hm)) fun hm => hno hm.1
      · exact hrest k hk
    rw [h.cleared_iff hs hmain hcreated]
    simp only [hdeleted, false_and, false_or, ne_eq, not_false_eq_true, true_and]

omit [DecidableEq ι] in
/-- A row is written that is not the main one afterwards. -/
theorem deleted_oneMain {branchId : ℕ} {f : Option Branch → Option Branch} (hs : Sound s) (h : OneMain s)
    (hrows : ∀ k, s'.rows k = ((if k = branchId then some f else none).getD id) (s.rows k))
    (hgone : ¬ ∃ b, f (s.rows branchId) = some b ∧ b.deletedAt = none ∧ b.isMainBranch = true)
    (hcreated : s'.created = s.created) : OneMain s' ↔ ¬ s.Main branchId := by
  refine h.removed_iff hs (fun k => ?_) hcreated
  rw [main_written hrows (iff_false_intro hgone), and_false, false_or]
  exact and_comm

omit [DecidableEq ι] in
/-- An admin's edit of the details moves no flag. -/
theorem updateBranchDirect_oneMain {branchId : ℕ} {data : BranchData} (h : OneMain s)
    (hrows : ∀ k, s'.rows k = ((if k = branchId then some (Option.map data.apply) else none).getD id) (s.rows k))
    (hcreated : s'.created = s.created) : OneMain s' := by
  refine h.of_same (fun k => ?_) fun hc => hcreated ▸ hc
  rw [main_written hrows (P := s.Main branchId)]
  · by_cases hk : k = branchId
    · simp [hk]
    · simp [hk]
  · simp only [Option.map_eq_some_iff, Store.Main]
    constructor
    · rintro ⟨_, ⟨b, hb, rfl⟩, hnone, htrue⟩
      exact ⟨b, hb, hnone, htrue⟩
    · rintro ⟨b, hb, hnone, htrue⟩
      exact ⟨_, ⟨b, hb, rfl⟩, hnone, htrue⟩

/-- A step keeps the main branch the only one exactly if it does not break it. -/
theorem oneMain_next (hs : Sound s) (hk : Local requests i s phase) (hi : OneMain s)
    (h : next requests i s phase a = some (s', phase')) : OneMain s' ↔ ¬ Breaks (requests i) s phase a := by
  have hknows := hk.knows
  have hchanges := (next_step hs hk h).changes
  generalize requests i = request at hchanges hknows
  cases hchanges with
  | none hrows hcreated hno =>
    refine iff_of_true (hi.of_same (fun k => ?_) fun hc => hcreated ▸ hc) hno
    rw [Store.Main, Store.Main, hrows]
  | commit ha hcommits hrows hcreated =>
    subst ha
    cases request with
    | createBranch merchantId data =>
      cases phase with
      | inserted newId stageForApproval isMainBranch =>
        rw [createBranch_oneMain hi hknows hrows]
        exact not_congr (and_iff_right rfl).symm
      | _ => exact hcommits.elim
    | updateBranch branchId data =>
      cases phase with
      | promoted cleared => exact updateBranch_oneMain hs hi hknows hrows hcreated
      | _ => exact hcommits.elim
    | updateBranchDirect branchId data =>
      cases phase with
      | written =>
        exact iff_of_true (updateBranchDirect_oneMain hi hrows hcreated) fun hbreaks => hbreaks.2
      | _ => exact hcommits.elim
    | cancelPendingCreate branchId =>
      cases phase with
      | written =>
        rw [deleted_oneMain hs hi hrows (by simp) hcreated]
        exact not_congr (and_iff_right rfl).symm
      | _ => exact hcommits.elim
    | softDeleteBranch branchId now =>
      cases phase with
      | written =>
        rw [deleted_oneMain hs hi hrows ?_ hcreated]
        · exact not_congr (and_iff_right rfl).symm
        · rintro ⟨b, hb, hnone, -⟩
          obtain ⟨c, -, rfl⟩ := Option.map_eq_some_iff.mp hb
          cases hnone
      | _ => exact hcommits.elim

theorem next_of_breaks (h : Breaks (requests i) s phase a) : next requests i s phase a ≠ none := by
  obtain ⟨rfl, h⟩ := h
  rw [next]
  generalize requests i = request at h
  cases request with
  | createBranch merchantId data =>
    cases phase with
    | inserted newId stageForApproval isMainBranch => exact Option.some_ne_none _
    | _ => exact h.elim
  | updateBranch branchId data =>
    cases phase with
    | promoted cleared => exact Option.some_ne_none _
    | _ => exact h.elim
  | updateBranchDirect branchId data => exact h.elim
  | cancelPendingCreate branchId =>
    cases phase with
    | written => exact Option.some_ne_none _
    | _ => exact h.elim
  | softDeleteBranch branchId now =>
    cases phase with
    | written => exact Option.some_ne_none _
    | _ => exact h.elim

/-- No request has begun. -/
structure Quiet (s : Pool ι (Store ι) Phase) : Prop where
  start : ∀ i, s.proc i = .start
  unheld : ∀ k, (s.store.branches.cell k).held = none
  sound : Sound s.store

/-- The pool's invariant. -/
def Inv (requests : ι → Request) : Pool ι (Store ι) Phase → Prop := PoolInv Sound (Local requests)

omit [DecidableEq ι] in
theorem Quiet.inv {s : Pool ι (Store ι) Phase} (h : Quiet s) : Inv requests s := by
  refine ⟨h.sound, fun i => ?_⟩
  rw [h.start i]
  have hidle : done (requests i) .start = fun _ => none := by
    cases requests i <;> rfl
  refine ⟨fun k => ?_, ?_⟩
  · rw [hidle]
    exact Cell.free_of_held_none (h.unheld k)
  · cases requests i <;> trivial

theorem inv_step (s : Pool ι (Store ι) Phase) (a : ι × Act) (s' : Pool ι (Store ι) Phase) (hs : Inv requests s)
    (h : poolStep (next requests) s a = some s') : Inv requests s' :=
  poolInv_step (K := Local requests) (fun _ _ _ _ _ _ => sound_own)
    (fun _ _ _ _ _ _ _ _ hne hs hk hkj h => local_frame hs hne hk hkj h) s a s' hs h

/-- CORRECT: throughout an interleaving of any number of requests one branch at most is the main one, and
    one is from the first branch on, if and only if no request breaks it with its commit. -/
theorem one_main_iff {s : Pool ι (Store ι) Phase} {as : List (ι × Act)} (hq : Quiet s) (h : OneMain s.store) :
    Throughout (poolStep (next requests)) (fun s => OneMain s.store) s as ↔
      Along (poolStep (next requests)) (fun s a => ¬ Breaks (requests a.1) s.store (s.proc a.1) a.2) s as := by
  refine throughout_iff_along_of_refused (fun s a hnone hbreaks => ?_) inv_step (fun s a s' hs hi h => ?_) hq.inv h
  · rw [poolStep, Option.map_eq_none_iff] at hnone
    exact next_of_breaks hbreaks hnone
  · obtain ⟨store', phase', hnext, rfl⟩ := poolStep_eq_some.mp h
    exact oneMain_next hs.1 (hs.2 a.1) hi hnext

end

/-! ### A main branch that is cancelled -/

def noBranches : Pool (Fin 4) (Store (Fin 4)) Phase :=
  ⟨⟨⟨fun _ => ⟨none, none⟩⟩, 0, []⟩, fun _ => .start⟩

theorem noBranches_quiet : Quiet noBranches where
  start _ := rfl
  unheld _ := rfl
  sound := ⟨fun _ _ => rfl, fun _ h => absurd rfl h⟩

theorem noBranches_oneMain : OneMain noBranches.store where
  unique _ _ hk _ := by
    obtain ⟨b, hb, -⟩ := hk
    cases hb
  found h := absurd rfl h

def nothing : BranchData := ⟨.empty, none, none⟩

/-- Two branches are created, the second is made the main one, and its creation is cancelled. -/
def cancelledMain : Fin 4 → Request
  | 0 => .createBranch 1 nothing
  | 1 => .createBranch 1 nothing
  | 2 => .updateBranch 1 ⟨.empty, none, some true⟩
  | 3 => .cancelPendingCreate 1

def firstBranch : List (Fin 4 × Act) := List.replicate 4 (0, .statement)

def inTurn : List (Fin 4 × Act) :=
  firstBranch ++ List.replicate 4 (1, .statement) ++ List.replicate 5 (2, .statement) ++
    List.replicate 3 (3, .statement)

theorem inv_run {s : Pool (Fin 4) (Store (Fin 4)) Phase} {as : List (Fin 4 × Act)}
    (h : run (poolStep (next cancelledMain)) noBranches as = some s) : Sound s.store :=
  (run_invariant inv_step noBranches_quiet.inv h).1

theorem firstBranch_oneMain :
    Throughout (poolStep (next cancelledMain)) (fun s => OneMain s.store) noBranches firstBranch := by
  refine (one_main_iff noBranches_quiet noBranches_oneMain).mpr (along_iff.mpr fun xs a ys s he hr hbreaks => ?_)
  have hbefore : ∀ n < 4, ((run (poolStep (next cancelledMain)) noBranches (firstBranch.take n)).map fun s =>
      s.store.created) = some [] := by decide +kernel
  have hlength : xs.length < 4 := by
    have hsum := congrArg List.length he
    simp only [firstBranch, List.length_replicate, List.length_append, List.length_cons] at hsum
    omega
  have hcreated := hbefore xs.length hlength
  rw [he, List.take_left, hr] at hcreated
  have ha : a = (0, .statement) := by
    have hmem : a ∈ firstBranch := he ▸ List.mem_append_right _ (List.mem_cons_self ..)
    exact List.eq_of_mem_replicate hmem
  subst ha
  cases hphase : s.proc 0 with
  | inserted newId stageForApproval isMainBranch =>
    rw [hphase] at hbreaks
    obtain ⟨-, -, k, hk⟩ := hbreaks
    exact hk.created (inv_run hr) (Option.some.inj hcreated)
  | _ =>
    rw [hphase] at hbreaks
    exact hbreaks.2

/-- The merchant is left with a branch, and no main one. -/
theorem main_cancelled :
    ¬ Throughout (poolStep (next cancelledMain)) (fun s => OneMain s.store) noBranches inTurn := by
  intro h
  have hrun : (run (poolStep (next cancelledMain)) noBranches inTurn).map (fun s => decide (s.store.nextId = 2 ∧
      s.store.created = [1, 0] ∧ (∀ b ∈ s.store.rows 0, b.isMainBranch = false) ∧ s.store.rows 1 = none)) =
      some true := by decide +kernel
  obtain ⟨s, hs, hstore⟩ := Option.map_eq_some_iff.mp hrun
  obtain ⟨hnext, hcreated, hfirst, hsecond⟩ := of_decide_eq_true hstore
  have hone : OneMain s.store := h inTurn [] s (List.append_nil _).symm hs
  obtain ⟨k, b, hb, -, hmain⟩ := hone.found (by rw [hcreated]; exact List.cons_ne_nil _ _)
  match k with
  | 0 => cases hmain.symm.trans (hfirst b (Option.mem_def.mpr hb))
  | 1 => cases hb.symm.trans hsecond
  | k + 2 => cases hb.symm.trans ((inv_run hs).fresh (k + 2) (by omega))

end Redeemo.MainBranch
