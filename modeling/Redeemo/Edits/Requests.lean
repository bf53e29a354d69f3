import Redeemo.Edits.Decisions

/-! The edits of one branch or one voucher, requested, withdrawn and decided by any number of calls at a time.

    A request looks for a pending edit by a plain read and inserts its own later. The requests for a voucher
    insert the edit and its approval in one transaction; `createBranchEditRequest` inserts them by two
    statements of their own, so that others see the edit without its approval in between. -/

namespace Redeemo.EditRequests
open Fallible Records ReadCommitted Runs PendingEdits LocationTrust Vouchers
open EditDecisions (IsApprovalOf checkWithdrawal)

/-! ### What a request asks for -/

def approvalTypeOf : EditKind → ApprovalType
  | .merchant => .MERCHANT_IDENTITY_EDIT
  | .branch => .BRANCH_IDENTITY_EDIT
  | .voucher => .VOUCHER_EDIT

def referenceTypeOf : EditKind → String
  | .merchant => "MerchantPendingEdit"
  | .branch => "branch_pending_edit"
  | .voucher => "voucher_pending_edit"

/-- A request that has passed its checks. -/
structure Staged where
  body : EditBody
  proposedChanges : Record
  comment : String

def Staged.edit (staged : Staged) (editId : ℕ) : PendingEdit where
  id := editId
  body := staged.body
  proposedChanges := staged.proposedChanges
  status := .PENDING
  reviewedBy := none
  reviewNote := none
  reviewedAt := none

def Staged.approval (staged : Staged) (editId approvalId : ℕ) : AdminApproval where
  id := approvalId
  type := approvalTypeOf staged.body.kind
  referenceId := editId
  referenceType := referenceTypeOf staged.body.kind
  status := .PENDING
  comment := some staged.comment
  adminUserId := none
  actionedAt := none
  claimedById := none
  claimedAt := none

def branchEdit (branchId : ℕ) (includesPhotos : Bool) (filtered : Record) : Staged where
  body := .branch includesPhotos
  proposedChanges := filtered
  comment := s!"Branch {branchId} requested identity field changes"

/-- What a request for a voucher reads of it; `allowedFields` are those of its template. -/
structure LiveVoucher where
  isRmv : Bool
  isMandatory : Bool
  status : VoucherStatus
  allowedFields : List String

def assertGovernedReason (reason : Json) : Except AppError String :=
  match reason with
  | .string s => do
    rejectIf (isBlank s = true) .VOUCHER_EDIT_INVALID_FIELD
    return s
  | _ => .error .VOUCHER_EDIT_INVALID_FIELD

/-- A proposed value; the saving is stored rounded. -/
def checkProposed (e : String × Json) : Except AppError (String × Json) :=
  match e with
  | ("estimatedSaving", .number v) => do
    assertSavingSane v
    assertSavingFitsColumn v
    return ("estimatedSaving", .number (toScale2 v))
  | ("estimatedSaving", _) => .error .SAVING_INVALID
  | (k, .string s) => do
    rejectIf (k = "title" ∧ isBlank s = true) .VOUCHER_EDIT_INVALID_FIELD
    return (k, .string s)
  | _ => .error .VOUCHER_EDIT_INVALID_FIELD

def checkFlagshipVoucherChange (proposedFields : Record) (reason : String) (voucher : Option LiveVoucher) :
    Except AppError Staged := do
  let voucher ← orReject (voucher.filter fun v => v.isRmv) .RMV_NOT_FOUND
  rejectIf (voucher.status ≠ .ACTIVE) .VOUCHER_EDIT_NOT_ALLOWED
  let allowed := VOUCHER_EDITABLE_FIELDS.filter fun f => f ∈ voucher.allowedFields
  rejectIf (∃ k ∈ proposedFields.keys, k ∉ allowed) .RMV_FIELD_NOT_ALLOWED
  rejectIf (proposedFields = []) .VOUCHER_EDIT_INVALID_FIELD
  let filtered ← proposedFields.mapM checkProposed
  return ⟨.voucher .CHANGE, filtered, s!"Merchant requested changes to a live flagship voucher. Reason: {reason}"⟩

def checkVoucherEnd (reason : String) (voucher : Option LiveVoucher) : Except AppError Staged := do
  let voucher ← orReject voucher .VOUCHER_NOT_FOUND
  rejectIf (voucher.isRmv = true ∨ voucher.isMandatory = true) .VOUCHER_EDIT_NOT_ALLOWED
  rejectIf (voucher.status ≠ .ACTIVE) .VOUCHER_EDIT_NOT_ALLOWED
  return ⟨.voucher .END, [], s!"Merchant requested to end a live custom voucher. Reason: {reason}"⟩

/-! ### The calls -/

structure Store (ι : Type*) where
  edits : Table ι ℕ PendingEdit
  approvals : Table ι ℕ AdminApproval
  nextEditId : ℕ
  nextApprovalId : ℕ
  /-- Who has inserted an edit by a statement of its own. -/
  author : ℕ → Option ι

/-- `prepared` is what `createBranchEditRequest` makes of its body before it looks for a pending edit: the
    error of a check, or the fields it stages. -/
inductive Request
  | createBranchEditRequest (branchId : ℕ) (prepared : Except AppError Record) (includesPhotos : Bool)
  | requestFlagshipVoucherChange (access : Except AppError Unit) (proposedFields : Record) (reason : Json)
  | requestVoucherEnd (access : Except AppError Unit) (reason : Json)
  | approveEdit (approvalId adminId : ℕ) (now : ℤ)
  | rejectEdit (approvalId adminId : ℕ) (reason : String) (now : ℤ)
  | withdrawBranchEditRequest (access : Except AppError Unit) (editId : ℕ) (reviewedAt actionedAt : ℤ)
  | withdrawVoucherPendingEdit (access : Except AppError Unit) (editId : ℕ) (reviewedAt actionedAt : ℤ)

inductive Failure
  | app (e : AppError)
  /-- A crash, a deadlock, or a failed statement. -/
  | aborted
  deriving DecidableEq, Repr

/-- How far a call has come, and what it has read. -/
inductive Phase
  | start
  /-- A request for a voucher. -/
  | permitted (reason : String)
  | valid (staged : Staged)
  /-- No pending edit has been seen: a voucher's is inserted in a transaction, a branch's by itself. -/
  | cleared (staged : Staged)
  | editInserted (staged : Staged) (editId : ℕ)
  | approvalInserted (staged : Staged) (editId approvalId : ℕ)
  | storing (staged : Staged)
  | stored (staged : Staged) (editId : ℕ)
  /-- The decisions: a withdrawal looks for its approval after the edit is written. -/
  | approvalRead (approvalId : ℕ) (kind : EditKind) (editId : ℕ)
  | editRead (approvalId : ℕ) (edit : PendingEdit)
  | deciding (approvalId : Option ℕ) (editId : ℕ)
  | editDecided (approvalId : Option ℕ) (editId : ℕ)
  | settled (approvalId : Option ℕ) (editId : ℕ)
  | returned
  | failed (e : Failure)

def Phase.over : Phase → Bool
  | .returned => true
  | .failed _ => true
  | _ => false

/-- A statement, or the read of the voucher, or of the live row that an approval is for. -/
inductive Act
  | statement
  | findVoucher (voucher : Option LiveVoucher)
  | findLive (live : Entity)
  | abandon

/-- What a decision makes of the edit, and of the approval. -/
def Request.decideEdit : Request → PendingEdit → PendingEdit
  | .approveEdit _ adminId now => PendingEdit.approve adminId now
  | .rejectEdit _ adminId reason now => PendingEdit.reject adminId reason now
  | .withdrawBranchEditRequest _ _ reviewedAt _ => PendingEdit.withdraw reviewedAt
  | .withdrawVoucherPendingEdit _ _ reviewedAt _ => PendingEdit.withdraw reviewedAt
  | _ => id

def Request.decideApproval : Request → AdminApproval → AdminApproval
  | .approveEdit _ adminId now => AdminApproval.decide .APPROVED none adminId now
  | .rejectEdit _ adminId reason now => AdminApproval.decide .REJECTED (some reason) adminId now
  | .withdrawBranchEditRequest _ _ _ actionedAt => withdrawApproval actionedAt
  | .withdrawVoucherPendingEdit _ _ _ actionedAt => withdrawApproval actionedAt
  | _ => id

/-! ### The statements -/

variable {ι : Type*}

def after {σ : Type} (x : Except AppError σ) (phase : σ → Phase) : Phase :=
  match x with
  | .ok a => phase a
  | .error e => .failed (.app e)

section
variable [DecidableEq ι]

namespace Store

def commit (s : Store ι) (i : ι) : Store ι :=
  { s with edits := s.edits.commit i, approvals := s.approvals.commit i }

def rollback (s : Store ι) (i : ι) : Store ι :=
  { s with edits := s.edits.rollback i, approvals := s.approvals.rollback i }

/-- `where: { status: 'PENDING' }`, among the edits of the branch or the voucher. -/
def hasPending (s : Store ι) (i : ι) : Bool :=
  (List.range s.nextEditId).any fun k => ((s.edits.read i k).map PendingEdit.status) = some .PENDING

def findApproval (s : Store ι) (i : ι) (kind : EditKind) (editId : ℕ) : Option ℕ :=
  (List.range s.nextApprovalId).find? fun a => ∃ r ∈ s.approvals.read i a, IsApprovalOf kind editId r

end Store

def assertNoPendingEdit (s : Store ι) (i : ι) : Except AppError Unit :=
  rejectIf (s.hasPending i = true) .PENDING_EDIT_EXISTS

/-- A transaction with both rows. -/
def stage (i : ι) (s : Store ι) : Phase → Option (Store ι × Phase)
  | .valid staged => some (s, after (assertNoPendingEdit s i) fun _ => .cleared staged)
  | .cleared staged => (s.edits.write i s.nextEditId fun _ => some (staged.edit s.nextEditId)).map fun edits =>
      ({ s with edits := edits, nextEditId := s.nextEditId + 1 }, .editInserted staged s.nextEditId)
  | .editInserted staged editId =>
    (s.approvals.write i s.nextApprovalId fun _ => some (staged.approval editId s.nextApprovalId)).map fun approvals =>
      ({ s with approvals := approvals, nextApprovalId := s.nextApprovalId + 1 },
        .approvalInserted staged editId s.nextApprovalId)
  | .approvalInserted _ _ _ => some (s.commit i, .returned)
  | _ => none

def createBranchEditRequest (branchId : ℕ) (prepared : Except AppError Record) (includesPhotos : Bool) (i : ι)
    (s : Store ι) : Phase → Option (Store ι × Phase)
  | .start => some (s, after prepared fun filtered => .valid (branchEdit branchId includesPhotos filtered))
  | .valid staged => some (s, after (assertNoPendingEdit s i) fun _ => .storing staged)
  -- Each of the two rows is committed by itself.
  | .storing staged => some ({ s with
      edits := s.edits.insert s.nextEditId (staged.edit s.nextEditId)
      nextEditId := s.nextEditId + 1
      author := Function.update s.author s.nextEditId (some i) }, .stored staged s.nextEditId)
  | .stored staged editId => some ({ s with
      approvals := s.approvals.insert s.nextApprovalId (staged.approval editId s.nextApprovalId)
      nextApprovalId := s.nextApprovalId + 1 }, .returned)
  | _ => none

/-- The first statements of a request for a voucher. -/
def permit (access : Except AppError Unit) (reason : Json) : Phase :=
  after (do
    access
    assertGovernedReason reason) .permitted

def requestFlagshipVoucherChange (access : Except AppError Unit) (reason : Json) (i : ι) (s : Store ι)
    (phase : Phase) : Option (Store ι × Phase) :=
  match phase with
  | .start => some (s, permit access reason)
  | phase => stage i s phase

def requestVoucherEnd (access : Except AppError Unit) (reason : Json) (i : ι) (s : Store ι) (phase : Phase) :
    Option (Store ι × Phase) :=
  match phase with
  | .start => some (s, permit access reason)
  | phase => stage i s phase

/-- The writes of a decision. -/
def decideRows (request : Request) (i : ι) (s : Store ι) : Phase → Option (Store ι × Phase)
  | .deciding approvalId editId => (s.edits.write i editId (Option.map request.decideEdit)).map fun edits =>
      ({ s with edits := edits }, .editDecided approvalId editId)
  | .editDecided (some approvalId) editId =>
    (s.approvals.write i approvalId (Option.map request.decideApproval)).map fun approvals =>
      ({ s with approvals := approvals }, .settled (some approvalId) editId)
  | .settled _ _ => some (s.commit i, .returned)
  | _ => none

/-- What `approveEdit` and `rejectEdit` read first. -/
def readApproval (approvalId : ℕ) (i : ι) (s : Store ι) : Except AppError (EditKind × ℕ) := do
  let approval ← orReject (s.approvals.read i approvalId) .APPROVAL_NOT_FOUND
  let kind ← checkEditApproval approval
  return (kind, approval.referenceId)

def readEdit (kind : EditKind) (editId : ℕ) (i : ι) (s : Store ι) : Except AppError PendingEdit := do
  let edit ← orReject (s.edits.read i editId) .PENDING_EDIT_NOT_FOUND
  checkEdit kind editId edit
  return edit

def approveEdit (approvalId adminId : ℕ) (now : ℤ) (i : ι) (s : Store ι) (phase : Phase) :
    Option (Store ι × Phase) :=
  match phase with
  | .start => some (s, after (readApproval approvalId i s) fun x => .approvalRead approvalId x.1 x.2)
  | .approvalRead approvalId kind editId => some (s, after (readEdit kind editId i s) fun edit =>
      .editRead approvalId edit)
  | phase => decideRows (.approveEdit approvalId adminId now) i s phase

def rejectEdit (approvalId adminId : ℕ) (reason : String) (now : ℤ) (i : ι) (s : Store ι) (phase : Phase) :
    Option (Store ι × Phase) :=
  match phase with
  | .start => some (s, after (readApproval approvalId i s) fun x => .approvalRead approvalId x.1 x.2)
  | .approvalRead approvalId kind editId => some (s, after (readEdit kind editId i s) fun edit =>
      .deciding (some approvalId) edit.id)
  | phase => decideRows (.rejectEdit approvalId adminId reason now) i s phase

/-- The withdrawals, of an edit of a kind. -/
def withdrawEdit (kind : EditKind) (access : Except AppError Unit) (editId : ℕ) (request : Request) (i : ι)
    (s : Store ι) (phase : Phase) : Option (Store ι × Phase) :=
  match phase with
  | .start => some (s, after (do
      access
      let edit ← orReject (s.edits.read i editId) .PENDING_EDIT_NOT_FOUND
      checkWithdrawal kind access editId edit) fun _ => .deciding none editId)
  | .editDecided none editId => some (s, match s.findApproval i kind editId with
      | some approvalId => .editDecided (some approvalId) editId
      | none => .settled none editId)
  | phase => decideRows request i s phase

def withdrawBranchEditRequest (access : Except AppError Unit) (editId : ℕ) (reviewedAt actionedAt : ℤ) (i : ι)
    (s : Store ι) (phase : Phase) : Option (Store ι × Phase) :=
  withdrawEdit .branch access editId (.withdrawBranchEditRequest access editId reviewedAt actionedAt) i s phase

def withdrawVoucherPendingEdit (access : Except AppError Unit) (editId : ℕ) (reviewedAt actionedAt : ℤ) (i : ι)
    (s : Store ι) (phase : Phase) : Option (Store ι × Phase) :=
  withdrawEdit .voucher access editId (.withdrawVoucherPendingEdit access editId reviewedAt actionedAt) i s phase

def statement (request : Request) (i : ι) (s : Store ι) (phase : Phase) : Option (Store ι × Phase) :=
  match request with
  | .createBranchEditRequest branchId prepared includesPhotos =>
    createBranchEditRequest branchId prepared includesPhotos i s phase
  | .requestFlagshipVoucherChange access _ reason => requestFlagshipVoucherChange access reason i s phase
  | .requestVoucherEnd access reason => requestVoucherEnd access reason i s phase
  | .approveEdit approvalId adminId now => approveEdit approvalId adminId now i s phase
  | .rejectEdit approvalId adminId reason now => rejectEdit approvalId adminId reason now i s phase
  | .withdrawBranchEditRequest access editId reviewedAt actionedAt =>
    withdrawBranchEditRequest access editId reviewedAt actionedAt i s phase
  | .withdrawVoucherPendingEdit access editId reviewedAt actionedAt =>
    withdrawVoucherPendingEdit access editId reviewedAt actionedAt i s phase

/-- The reads of other tables. -/
def survey (geo : Geography ℚ) : Request → Phase → Act → Option Phase
  | .requestFlagshipVoucherChange _ proposedFields _, .permitted reason, .findVoucher voucher =>
    some (after (checkFlagshipVoucherChange proposedFields reason voucher) .valid)
  | .requestVoucherEnd _ _, .permitted reason, .findVoucher voucher =>
    some (after (checkVoucherEnd reason voucher) .valid)
  | .approveEdit _ _ _, .editRead approvalId edit, .findLive live =>
    some (after (plan geo edit live) fun _ => .deciding (some approvalId) edit.id)
  | _, _, _ => none

def next (geo : Geography ℚ) (requests : ι → Request) (i : ι) (s : Store ι) (phase : Phase) :
    Act → Option (Store ι × Phase)
  | .statement => statement (requests i) i s phase
  | .abandon => if phase.over then none else some (s.rollback i, .failed .aborted)
  | a => (survey geo (requests i) phase a).map fun phase => (s, phase)

end

/-! ### Pending edits and their approvals -/

namespace Store

def Pending (s : Store ι) (k : ℕ) : Prop := ∃ e, s.edits.rows k = some e ∧ e.status = .PENDING

/-- The approval `a` is a pending one of the edit `e`. -/
def Awaits (s : Store ι) (e : PendingEdit) (k a : ℕ) : Prop :=
  ∃ r, s.approvals.rows a = some r ∧ IsApprovalOf e.body.kind k r

end Store

def AtMostOne (s : Store ι) : Prop := ∀ k l, s.Pending k → s.Pending l → k = l

/-- Each pending edit has exactly one pending approval. -/
def Linked (s : Store ι) : Prop :=
  ∀ k e, s.edits.rows k = some e → e.status = .PENDING → ∃! a, s.Awaits e k a

/-- The statement after this phase makes an edit visible. -/
def Request.Publishes : Request → Phase → Prop
  | .createBranchEditRequest _ _ _, .storing _ => True
  | .requestFlagshipVoucherChange _ _ _, .approvalInserted _ _ _ => True
  | .requestVoucherEnd _ _, .approvalInserted _ _ _ => True
  | _, _ => False

/-- A request makes its edit visible while another one is pending. -/
def Overlaps (request : Request) (s : Store ι) (phase : Phase) (a : Act) : Prop :=
  a = .statement ∧ request.Publishes phase ∧ ∃ k, s.Pending k

/-- A request makes its edit visible without an approval. -/
def Unlinked (request : Request) (phase : Phase) (a : Act) : Prop :=
  a = .statement ∧ request.Publishes phase ∧ ∃ staged, phase = .storing staged

/-- The call is a decision. -/
def Request.Decides : Request → Prop
  | .createBranchEditRequest _ _ _ => False
  | .requestFlagshipVoucherChange _ _ _ => False
  | .requestVoucherEnd _ _ => False
  | _ => True

theorem Request.decideEdit_status {request : Request} (h : request.Decides) (e : PendingEdit) :
    (request.decideEdit e).status ≠ .PENDING := by
  cases request with
  | createBranchEditRequest | requestFlagshipVoucherChange | requestVoucherEnd => exact h.elim
  | approveEdit | rejectEdit | withdrawBranchEditRequest | withdrawVoucherPendingEdit =>
    exact PendingEditStatus.noConfusion

@[simp] theorem Request.decideEdit_body (request : Request) (e : PendingEdit) :
    (request.decideEdit e).body = e.body := by
  cases request <;> rfl

@[simp] theorem Request.decideApproval_referenceId (request : Request) (r : AdminApproval) :
    (request.decideApproval r).referenceId = r.referenceId := by
  cases request <;> rfl

theorem staged_isApprovalOf (staged : Staged) (editId approvalId : ℕ) :
    IsApprovalOf staged.body.kind editId (staged.approval editId approvalId) := by
  refine ⟨?_, rfl, rfl⟩
  rw [Staged.approval]
  cases staged.body.kind <;> rfl

/-! ### What a call has made of the rows -/

def editDone (request : Request) : Phase → ℕ → Option (Option PendingEdit → Option PendingEdit)
  | .editInserted staged editId, k => if k = editId then some fun _ => some (staged.edit editId) else none
  | .approvalInserted staged editId _, k => if k = editId then some fun _ => some (staged.edit editId) else none
  | .editDecided _ editId, k => if k = editId then some (Option.map request.decideEdit) else none
  | .settled _ editId, k => if k = editId then some (Option.map request.decideEdit) else none
  | _, _ => none

def approvalDone (request : Request) : Phase → ℕ → Option (Option AdminApproval → Option AdminApproval)
  | .approvalInserted staged editId approvalId, k =>
    if k = approvalId then some fun _ => some (staged.approval editId approvalId) else none
  | .settled (some approvalId) _, k => if k = approvalId then some (Option.map request.decideApproval) else none
  | _, _ => none

/-- The approval is of the edit. -/
def References (s : Store ι) (approvalId editId : ℕ) : Prop :=
  ∃ r, s.approvals.rows approvalId = some r ∧ r.referenceId = editId

/-- What a call knows: the rows that it has inserted are new, nobody else refers to an edit that it has stored by
    itself, and the approval that it decides on is of the edit that it decides on. -/
def Knows (request : Request) (i : ι) (s : Store ι) : Phase → Prop
  | .editInserted _ editId => editId < s.nextEditId ∧ s.edits.rows editId = none
  | .approvalInserted _ editId approvalId => editId < s.nextEditId ∧ s.edits.rows editId = none ∧
      approvalId < s.nextApprovalId ∧ s.approvals.rows approvalId = none
  | .stored _ editId => s.author editId = some i ∧ s.edits.rows editId ≠ none ∧
      ∀ a r, s.approvals.rows a = some r → r.referenceId ≠ editId
  | .approvalRead approvalId _ editId => References s approvalId editId
  | .editRead approvalId edit => s.edits.rows edit.id ≠ none ∧ References s approvalId edit.id
  | .deciding approvalId editId => request.Decides ∧ s.edits.rows editId ≠ none ∧
      ∀ a ∈ approvalId, References s a editId
  | .editDecided approvalId editId => request.Decides ∧ s.edits.rows editId ≠ none ∧
      ∀ a ∈ approvalId, References s a editId
  | .settled approvalId editId => request.Decides ∧ s.edits.rows editId ≠ none ∧
      ∀ a ∈ approvalId, References s a editId
  | _ => True

structure Local (requests : ι → Request) (i : ι) (s : Store ι) (phase : Phase) : Prop where
  edits : s.edits.Holds i (editDone (requests i) phase)
  approvals : s.approvals.Holds i (approvalDone (requests i) phase)
  knows : Knows (requests i) i s phase

/-- Ids are fresh, and approvals refer to edits that are there. -/
structure Sound (s : Store ι) : Prop where
  edits : s.edits.FreshFrom s.nextEditId
  approvals : s.approvals.FreshFrom s.nextApprovalId
  refers : ∀ a r, s.approvals.rows a = some r → s.edits.rows r.referenceId ≠ none

/-- What a step does to the committed rows. -/
inductive Changes (request : Request) (i : ι) (s : Store ι) (phase : Phase) (a : Act) (s' : Store ι) : Prop
  | none (hedits : s'.edits.rows = s.edits.rows) (happrovals : s'.approvals.rows = s.approvals.rows)
    (hauthor : s'.author = s.author) (hno : ¬ (a = .statement ∧ request.Publishes phase))
  | staged (staged : Staged) (editId approvalId : ℕ) (ha : a = .statement) (hpub : request.Publishes phase)
    (hp : phase = .approvalInserted staged editId approvalId)
    (hedits : s'.edits.rows = Function.update s.edits.rows editId (some (staged.edit editId)))
    (happrovals : s'.approvals.rows =
      Function.update s.approvals.rows approvalId (some (staged.approval editId approvalId)))
    (hauthor : s'.author = s.author)
  | stored (staged : Staged) (ha : a = .statement) (hpub : request.Publishes phase) (hp : phase = .storing staged)
    (hedits : s'.edits.rows = Function.update s.edits.rows s.nextEditId (some (staged.edit s.nextEditId)))
    (happrovals : s'.approvals.rows = s.approvals.rows)
    (hauthor : s'.author = Function.update s.author s.nextEditId (some i))
  | linked (staged : Staged) (editId : ℕ) (hp : phase = .stored staged editId)
    (hedits : s'.edits.rows = s.edits.rows)
    (happrovals : s'.approvals.rows =
      Function.update s.approvals.rows s.nextApprovalId (some (staged.approval editId s.nextApprovalId)))
    (hauthor : s'.author = s.author)
  | decided (approvalId : Option ℕ) (editId : ℕ) (hp : phase = .settled approvalId editId)
    (hedits : s'.edits.rows =
      Function.update s.edits.rows editId ((s.edits.rows editId).map request.decideEdit))
    (happrovals : ∀ k, s'.approvals.rows k =
      if some k = approvalId then (s.approvals.rows k).map request.decideApproval else s.approvals.rows k)
    (hauthor : s'.author = s.author)

structure StepOk (request : Request) (i : ι) (s : Store ι) (phase : Phase) (a : Act) (s' : Store ι)
    (phase' : Phase) : Prop where
  editMoves : s.edits.Moves i s'.edits
  approvalMoves : s.approvals.Moves i s'.approvals
  edits : s'.edits.Holds i (editDone request phase')
  approvals : s'.approvals.Holds i (approvalDone request phase')
  knows : Knows request i s' phase'
  freshEdits : s'.edits.FreshFrom s'.nextEditId
  freshApprovals : s'.approvals.FreshFrom s'.nextApprovalId
  nextEditId : s.nextEditId ≤ s'.nextEditId
  nextApprovalId : s.nextApprovalId ≤ s'.nextApprovalId
  changes : Changes request i s phase a s'

section
variable {geo : Geography ℚ} {request : Request} {requests : ι → Request} {i j : ι} {s s' : Store ι}
  {phase phase' : Phase} {a : Act} {staged : Staged} {editId approvalId : ℕ}

/-- A step that only reads. -/
theorem stepOk_read (hs : Sound s) (he : s.edits.Holds i (editDone request phase))
    (ha : s.approvals.Holds i (approvalDone request phase)) (hpub : ¬ request.Publishes phase)
    (hedits : editDone request phase' = editDone request phase)
    (happrovals : approvalDone request phase' = approvalDone request phase) (hknows : Knows request i s phase') :
    StepOk request i s phase a s phase' where
  editMoves := .refl
  approvalMoves := .refl
  edits := hedits ▸ he
  approvals := happrovals ▸ ha
  knows := hknows
  freshEdits := hs.edits
  freshApprovals := hs.approvals
  nextEditId := le_rfl
  nextApprovalId := le_rfl
  changes := .none rfl rfl rfl fun h => hpub h.2

/-- Nothing is written in the phase. -/
structure Idle (request : Request) (phase : Phase) : Prop where
  edits : editDone request phase = fun _ => none
  approvals : approvalDone request phase = fun _ => none

/-- The outcome of a check: the call goes on, or has failed. -/
theorem stepOk_check {σ : Type} {x : Except AppError σ} {f : σ → Phase} (hs : Sound s)
    (he : s.edits.Holds i (editDone request phase)) (ha : s.approvals.Holds i (approvalDone request phase))
    (hpub : ¬ request.Publishes phase) (hidle : Idle request phase) (hnext : ∀ b, Idle request (f b))
    (hknows : ∀ b, x = .ok b → Knows request i s (f b)) : StepOk request i s phase a s (after x f) := by
  cases x with
  | ok b =>
    exact stepOk_read hs he ha hpub ((hnext b).edits.trans hidle.edits.symm)
      ((hnext b).approvals.trans hidle.approvals.symm) (hknows b rfl)
  | error e => exact stepOk_read hs he ha hpub hidle.edits.symm hidle.approvals.symm trivial

variable [DecidableEq ι]

theorem stepOk_rollback {e : Failure} (hs : Sound s) :
    StepOk request i s phase .abandon (s.rollback i) (.failed e) := by
  obtain ⟨hmoves, hrows, hfree⟩ := Table.holds_rollback (t := s.edits) (i := i)
  obtain ⟨hmoves', hrows', hfree'⟩ := Table.holds_rollback (t := s.approvals) (i := i)
  exact ⟨hmoves, hmoves', hfree, hfree', trivial, hs.edits.rollback, hs.approvals.rollback, le_rfl, le_rfl,
    .none hrows hrows' rfl fun h => Act.noConfusion h.1⟩

/-- A write of one edit. -/
theorem stepOk_writeEdit {k n : ℕ} {f : Option PendingEdit → Option PendingEdit} (hs : Sound s)
    (he : s.edits.Holds i (editDone request phase)) (ha : s.approvals.Holds i (approvalDone request phase))
    (hpub : ¬ request.Publishes phase)
    (h : (s.edits.write i k f).map (fun edits => (({ s with edits := edits, nextEditId := n } : Store ι), phase')) =
      some (s', phase')) (hat : editDone request phase' k = some (f ∘ (editDone request phase k).getD id))
    (hrest : ∀ l, l ≠ k → editDone request phase' l = editDone request phase l)
    (happrovals : approvalDone request phase' = approvalDone request phase) (hk : k < n) (hn : s.nextEditId ≤ n)
    (hknows : ∀ t : Table ι ℕ PendingEdit, t.rows = s.edits.rows →
      Knows request i { s with edits := t, nextEditId := n } phase') :
    StepOk request i s phase a s' phase' := by
  obtain ⟨t, hw, heq⟩ := Option.map_eq_some_iff.mp h
  cases heq
  obtain ⟨hmoves, hrows, hholds⟩ := he.write hw hat hrest
  exact ⟨hmoves, .refl, hholds, happrovals ▸ ha, hknows t hrows, hs.edits.write hw hn hk, hs.approvals, hn, le_rfl,
    .none hrows rfl rfl fun h => hpub h.2⟩

/-- A write of one approval. -/
theorem stepOk_writeApproval {k n : ℕ} {f : Option AdminApproval → Option AdminApproval} (hs : Sound s)
    (he : s.edits.Holds i (editDone request phase)) (ha : s.approvals.Holds i (approvalDone request phase))
    (hpub : ¬ request.Publishes phase)
    (h : (s.approvals.write i k f).map (fun approvals =>
      (({ s with approvals := approvals, nextApprovalId := n } : Store ι), phase')) = some (s', phase'))
    (hat : approvalDone request phase' k = some (f ∘ (approvalDone request phase k).getD id))
    (hrest : ∀ l, l ≠ k → approvalDone request phase' l = approvalDone request phase l)
    (hedits : editDone request phase' = editDone request phase) (hk : k < n) (hn : s.nextApprovalId ≤ n)
    (hknows : ∀ t : Table ι ℕ AdminApproval, t.rows = s.approvals.rows →
      Knows request i { s with approvals := t, nextApprovalId := n } phase') :
    StepOk request i s phase a s' phase' := by
  obtain ⟨t, hw, heq⟩ := Option.map_eq_some_iff.mp h
  cases heq
  obtain ⟨hmoves, hrows, hholds⟩ := ha.write hw hat hrest
  exact ⟨.refl, hmoves, hedits ▸ he, hholds, hknows t hrows, hs.edits, hs.approvals.write hw hn hk, le_rfl, hn,
    .none rfl hrows rfl fun h => hpub h.2⟩

/-! ### The steps of each call -/

/-- The rows of a request for a voucher. -/
theorem stage_step (hs : Sound s) (he : s.edits.Holds i (editDone request phase))
    (ha : s.approvals.Holds i (approvalDone request phase)) (hknows : Knows request i s phase)
    (hpub : ∀ phase, request.Publishes phase ↔ ∃ staged editId approvalId,
      phase = .approvalInserted staged editId approvalId)
    (h : stage i s phase = some (s', phase')) : StepOk request i s phase .statement s' phase' := by
  have hnot : ∀ {phase}, (∀ staged editId approvalId, phase ≠ .approvalInserted staged editId approvalId) →
      ¬ request.Publishes phase := by
    intro phase hne hp
    obtain ⟨staged, editId, approvalId, rfl⟩ := (hpub _).mp hp
    exact hne _ _ _ rfl
  cases phase with
  | valid staged =>
    cases h
    exact stepOk_check hs he ha (hnot fun _ _ _ => Phase.noConfusion) ⟨rfl, rfl⟩ (fun _ => ⟨rfl, rfl⟩)
      fun _ _ => trivial
  | cleared staged =>
    obtain ⟨t, hw, heq⟩ := Option.map_eq_some_iff.mp h
    cases heq
    refine stepOk_writeEdit hs he ha (hnot fun _ _ _ => Phase.noConfusion)
      (Option.map_eq_some_iff.mpr ⟨t, hw, rfl⟩) (if_pos rfl) (fun l hl => if_neg hl) rfl (Nat.lt_succ_self _)
      (Nat.le_succ _) fun t ht => ⟨Nat.lt_succ_self _, ?_⟩
    rw [ht]
    exact hs.edits.row le_rfl
  | editInserted staged editId =>
    obtain ⟨t, hw, heq⟩ := Option.map_eq_some_iff.mp h
    cases heq
    refine stepOk_writeApproval hs he ha (hnot fun _ _ _ => Phase.noConfusion)
      (Option.map_eq_some_iff.mpr ⟨t, hw, rfl⟩) (if_pos rfl) (fun l hl => if_neg hl) rfl (Nat.lt_succ_self _)
      (Nat.le_succ _) fun t ht => ⟨hknows.1, hknows.2, Nat.lt_succ_self _, ?_⟩
    rw [ht]
    exact hs.approvals.row le_rfl
  | approvalInserted staged editId approvalId =>
    cases h
    obtain ⟨hmoves, hedits, hfree⟩ := he.commit
    obtain ⟨hmoves', happrovals, hfree'⟩ := ha.commit
    refine ⟨hmoves, hmoves', hfree, hfree', trivial, hs.edits.commit, hs.approvals.commit, le_rfl, le_rfl,
      .staged staged editId approvalId rfl ((hpub _).mpr ⟨_, _, _, rfl⟩) rfl (funext fun k => ?_)
        (funext fun k => ?_) rfl⟩
    · refine (hedits k).trans ?_
      rw [editDone, Function.update_apply]
      split_ifs <;> rfl
    · refine (happrovals k).trans ?_
      rw [approvalDone, Function.update_apply]
      split_ifs <;> rfl
  | _ => cases h

theorem createBranchEditRequest_step {branchId : ℕ} {prepared : Except AppError Record} {includesPhotos : Bool}
    (hs : Sound s) (he : s.edits.Holds i (editDone (.createBranchEditRequest branchId prepared includesPhotos) phase))
    (ha : s.approvals.Holds i (approvalDone (.createBranchEditRequest branchId prepared includesPhotos) phase))
    (hknows : Knows (.createBranchEditRequest branchId prepared includesPhotos) i s phase)
    (h : createBranchEditRequest branchId prepared includesPhotos i s phase = some (s', phase')) :
    StepOk (.createBranchEditRequest branchId prepared includesPhotos) i s phase .statement s' phase' := by
  cases phase with
  | start =>
    cases h
    exact stepOk_check hs he ha id ⟨rfl, rfl⟩ (fun _ => ⟨rfl, rfl⟩) fun _ _ => trivial
  | valid staged =>
    cases h
    exact stepOk_check hs he ha id ⟨rfl, rfl⟩ (fun _ => ⟨rfl, rfl⟩) fun _ _ => trivial
  | storing staged =>
    cases h
    have hcell := hs.edits _ le_rfl
    refine ⟨Table.insert_moves hcell, .refl, he.insert rfl, ha, ⟨Function.update_self .., ?_, fun a r hr href => ?_⟩,
      hs.edits.insert, hs.approvals, Nat.le_succ _, le_rfl, .stored staged rfl trivial rfl Table.rows_insert rfl rfl⟩
    · rw [Table.rows_insert, Function.update_self]
      exact Option.some_ne_none _
    · refine hs.refers a r hr ?_
      rw [href]
      exact hs.edits.row le_rfl
  | stored staged editId =>
    cases h
    have hcell := hs.approvals _ le_rfl
    exact ⟨.refl, Table.insert_moves hcell, he, ha.insert rfl, trivial, hs.edits, hs.approvals.insert, le_rfl,
      Nat.le_succ _,
      .linked staged editId rfl rfl Table.rows_insert rfl⟩
  | _ => cases h

/-- The rows of a decision. -/
theorem decideRows_step (hs : Sound s) (he : s.edits.Holds i (editDone request phase))
    (ha : s.approvals.Holds i (approvalDone request phase)) (hknows : Knows request i s phase)
    (hpub : ∀ phase, ¬ request.Publishes phase) (h : decideRows request i s phase = some (s', phase')) :
    StepOk request i s phase .statement s' phase' := by
  cases phase with
  | deciding approvalId editId =>
    obtain ⟨t, hw, heq⟩ := Option.map_eq_some_iff.mp h
    cases heq
    refine stepOk_writeEdit (n := s.nextEditId) hs he ha (hpub _) (Option.map_eq_some_iff.mpr ⟨t, hw, rfl⟩) (if_pos rfl)
      (fun l hl => if_neg hl) rfl (hs.edits.lt hknows.2.1) le_rfl fun t ht => ⟨hknows.1, ?_, hknows.2.2⟩
    rw [ht]
    exact hknows.2.1
  | editDecided approvalId editId =>
    cases approvalId with
    | none => cases h
    | some approvalId =>
      obtain ⟨t, hw, heq⟩ := Option.map_eq_some_iff.mp h
      cases heq
      have hlt : approvalId < s.nextApprovalId := by
        obtain ⟨r, hr, -⟩ := hknows.2.2 approvalId rfl
        refine hs.approvals.lt ?_
        rw [hr]
        exact Option.some_ne_none r
      refine stepOk_writeApproval (n := s.nextApprovalId) hs he ha (hpub _) (Option.map_eq_some_iff.mpr ⟨t, hw, rfl⟩)
        (if_pos rfl) (fun l hl => if_neg hl) rfl hlt le_rfl fun t ht => ⟨hknows.1, hknows.2.1, ?_⟩
      rintro b ⟨⟩
      obtain ⟨r, hr, href⟩ := hknows.2.2 approvalId rfl
      exact ⟨r, (congrFun ht approvalId).trans hr, href⟩
  | settled approvalId editId =>
    cases h
    obtain ⟨hmoves, hedits, hfree⟩ := he.commit
    obtain ⟨hmoves', happrovals, hfree'⟩ := ha.commit
    refine ⟨hmoves, hmoves', hfree, hfree', trivial, hs.edits.commit, hs.approvals.commit, le_rfl, le_rfl,
      .decided approvalId editId rfl (funext fun k => ?_) (fun k => ?_) rfl⟩
    · refine (hedits k).trans ?_
      rw [editDone, Function.update_apply]
      split_ifs with hk
      · rw [hk]
        rfl
      · rfl
    · refine (happrovals k).trans ?_
      cases approvalId with
      | none => rfl
      | some b =>
        simp only [approvalDone, Option.some.injEq]
        split_ifs <;> rfl
  | _ => cases h

/-- The approval that a decision has read is of the edit that it names. -/
theorem readApproval_ok {x : EditKind × ℕ} (ha : s.approvals.Holds i fun _ => none)
    (h : readApproval approvalId i s = .ok x) : References s approvalId x.2 := by
  simp only [readApproval, bind_ok_iff, orReject_eq_ok, pure_eq_ok] at h
  obtain ⟨r, hr, kind, -, rfl⟩ := h
  exact ⟨r, (ha.read_of_none rfl).symm.trans hr, rfl⟩

theorem readEdit_ok {kind : EditKind} {edit : PendingEdit} (he : s.edits.Holds i fun _ => none)
    (h : readEdit kind editId i s = .ok edit) : edit.id = editId ∧ s.edits.rows editId ≠ none := by
  simp only [readEdit, checkEdit, bind_ok_iff, orReject_eq_ok, pure_eq_ok, rejectIf_eq_ok, not_or, not_not] at h
  obtain ⟨e, hread, ⟨⟩, ⟨-, ⟨-, hid⟩, -⟩, rfl⟩ := h
  refine ⟨hid, ?_⟩
  rw [← he.read_of_none rfl, hread]
  exact Option.some_ne_none _

theorem approveEdit_step {adminId : ℕ} {now : ℤ} (hs : Sound s)
    (hknows : Knows (.approveEdit approvalId adminId now) i s phase)
    (he : s.edits.Holds i (editDone (.approveEdit approvalId adminId now) phase))
    (ha : s.approvals.Holds i (approvalDone (.approveEdit approvalId adminId now) phase))
    (h : approveEdit approvalId adminId now i s phase = some (s', phase')) :
    StepOk (.approveEdit approvalId adminId now) i s phase .statement s' phase' := by
  cases phase with
  | start =>
    cases h
    exact stepOk_check hs he ha id ⟨rfl, rfl⟩ (fun _ => ⟨rfl, rfl⟩) fun x hx => readApproval_ok ha hx
  | approvalRead approvalId kind editId =>
    cases h
    refine stepOk_check hs he ha id ⟨rfl, rfl⟩ (fun _ => ⟨rfl, rfl⟩) fun edit hedit => ?_
    obtain ⟨rfl, hrow⟩ := readEdit_ok he hedit
    exact ⟨hrow, hknows⟩
  | _ => exact decideRows_step hs he ha hknows (fun _ => id) h

theorem rejectEdit_step {adminId : ℕ} {reason : String} {now : ℤ} (hs : Sound s)
    (hknows : Knows (.rejectEdit approvalId adminId reason now) i s phase)
    (he : s.edits.Holds i (editDone (.rejectEdit approvalId adminId reason now) phase))
    (ha : s.approvals.Holds i (approvalDone (.rejectEdit approvalId adminId reason now) phase))
    (h : rejectEdit approvalId adminId reason now i s phase = some (s', phase')) :
    StepOk (.rejectEdit approvalId adminId reason now) i s phase .statement s' phase' := by
  cases phase with
  | start =>
    cases h
    exact stepOk_check hs he ha id ⟨rfl, rfl⟩ (fun _ => ⟨rfl, rfl⟩) fun x hx => readApproval_ok ha hx
  | approvalRead approvalId kind editId =>
    cases h
    refine stepOk_check hs he ha id ⟨rfl, rfl⟩ (fun _ => ⟨rfl, rfl⟩) fun edit hedit => ?_
    obtain ⟨rfl, hrow⟩ := readEdit_ok he hedit
    refine ⟨trivial, hrow, ?_⟩
    rintro b ⟨⟩
    exact hknows
  | _ => exact decideRows_step hs he ha hknows (fun _ => id) h

theorem findApproval_some {kind : EditKind} (ha : s.approvals.Holds i fun _ => none)
    (h : s.findApproval i kind editId = some approvalId) : References s approvalId editId := by
  have hfound := List.find?_some h
  obtain ⟨r, hr, happroval⟩ := of_decide_eq_true hfound
  exact ⟨r, (ha.read_of_none rfl).symm.trans hr, happroval.2.1⟩

theorem withdrawEdit_step {kind : EditKind} {access : Except AppError Unit} (hs : Sound s)
    (hdecides : request.Decides) (hpub : ∀ phase, ¬ request.Publishes phase) (hknows : Knows request i s phase)
    (he : s.edits.Holds i (editDone request phase)) (ha : s.approvals.Holds i (approvalDone request phase))
    (h : withdrawEdit kind access editId request i s phase = some (s', phase')) :
    StepOk request i s phase .statement s' phase' := by
  cases phase with
  | start =>
    cases h
    refine stepOk_check hs he ha (hpub _) ⟨rfl, rfl⟩ (fun _ => ⟨rfl, rfl⟩) fun _ hcheck => ?_
    simp only [bind_ok_iff, orReject_eq_ok] at hcheck
    obtain ⟨-, -, edit, hread, -⟩ := hcheck
    refine ⟨hdecides, ?_, ?_⟩
    · rw [← he.read_of_none rfl, hread]
      exact Option.some_ne_none _
    · rintro b ⟨⟩
  | editDecided found editId =>
    cases found with
    | none =>
      cases hfind : s.findApproval i kind editId with
      | none =>
        rw [withdrawEdit, hfind] at h
        cases h
        exact stepOk_read hs he ha (hpub _) rfl rfl hknows
      | some approvalId =>
        rw [withdrawEdit, hfind] at h
        cases h
        refine stepOk_read hs he ha (hpub _) rfl rfl ⟨hknows.1, hknows.2.1, ?_⟩
        rintro b ⟨⟩
        exact findApproval_some ha hfind
    | some approvalId => exact decideRows_step hs he ha hknows hpub h
  | _ => exact decideRows_step hs he ha hknows hpub h

/-! ### Every step -/

theorem statement_step (hs : Sound s) (hknows : Knows request i s phase)
    (he : s.edits.Holds i (editDone request phase)) (ha : s.approvals.Holds i (approvalDone request phase))
    (h : statement request i s phase = some (s', phase')) : StepOk request i s phase .statement s' phase' := by
  cases request with
  | createBranchEditRequest branchId prepared includesPhotos =>
    exact createBranchEditRequest_step hs he ha hknows h
  | requestFlagshipVoucherChange access proposedFields reason =>
    have hpub : ∀ phase, (Request.requestFlagshipVoucherChange access proposedFields reason).Publishes phase ↔
        ∃ staged editId approvalId, phase = .approvalInserted staged editId approvalId := by
      intro phase
      cases phase <;> simp [Request.Publishes]
    cases phase with
    | start =>
      cases h
      exact stepOk_check hs he ha id ⟨rfl, rfl⟩ (fun _ => ⟨rfl, rfl⟩) fun _ _ => trivial
    | _ => exact stage_step hs he ha hknows hpub h
  | requestVoucherEnd access reason =>
    have hpub : ∀ phase, (Request.requestVoucherEnd access reason).Publishes phase ↔
        ∃ staged editId approvalId, phase = .approvalInserted staged editId approvalId := by
      intro phase
      cases phase <;> simp [Request.Publishes]
    cases phase with
    | start =>
      cases h
      exact stepOk_check hs he ha id ⟨rfl, rfl⟩ (fun _ => ⟨rfl, rfl⟩) fun _ _ => trivial
    | _ => exact stage_step hs he ha hknows hpub h
  | approveEdit approvalId adminId now => exact approveEdit_step hs hknows he ha h
  | rejectEdit approvalId adminId reason now => exact rejectEdit_step hs hknows he ha h
  | withdrawBranchEditRequest access editId reviewedAt actionedAt =>
    exact withdrawEdit_step hs trivial (fun _ => id) hknows he ha h
  | withdrawVoucherPendingEdit access editId reviewedAt actionedAt =>
    exact withdrawEdit_step hs trivial (fun _ => id) hknows he ha h

omit [DecidableEq ι] in
theorem survey_step (hs : Sound s) (hknows : Knows request i s phase)
    (he : s.edits.Holds i (editDone request phase)) (ha : s.approvals.Holds i (approvalDone request phase))
    (h : (survey geo request phase a).map (fun phase => (s, phase)) = some (s', phase')) :
    StepOk request i s phase a s' phase' := by
  obtain ⟨p, hp, heq⟩ := Option.map_eq_some_iff.mp h
  cases heq
  cases request with
  | requestFlagshipVoucherChange access proposedFields reason =>
    cases phase with
    | permitted reason =>
      cases a with
      | findVoucher voucher =>
        cases hp
        exact stepOk_check hs he ha id ⟨rfl, rfl⟩ (fun _ => ⟨rfl, rfl⟩) fun _ _ => trivial
      | _ => cases hp
    | _ => cases hp
  | requestVoucherEnd access reason =>
    cases phase with
    | permitted reason =>
      cases a with
      | findVoucher voucher =>
        cases hp
        exact stepOk_check hs he ha id ⟨rfl, rfl⟩ (fun _ => ⟨rfl, rfl⟩) fun _ _ => trivial
      | _ => cases hp
    | _ => cases hp
  | approveEdit approvalId adminId now =>
    cases phase with
    | editRead approvalId edit =>
      cases a with
      | findLive live =>
        cases hp
        refine stepOk_check hs he ha id ⟨rfl, rfl⟩ (fun _ => ⟨rfl, rfl⟩) fun _ _ =>
          ⟨trivial, hknows.1, ?_⟩
        rintro b ⟨⟩
        exact hknows.2
      | _ => cases hp
    | _ => cases hp
  | _ => cases hp

theorem next_step (hs : Sound s) (hk : Local requests i s phase)
    (h : next geo requests i s phase a = some (s', phase')) :
    StepOk (requests i) i s phase a s' phase' := by
  cases a with
  | statement => exact statement_step hs hk.knows hk.edits hk.approvals h
  | findVoucher voucher => exact survey_step hs hk.knows hk.edits hk.approvals h
  | findLive live => exact survey_step hs hk.knows hk.edits hk.approvals h
  | abandon =>
    rw [next] at h
    split_ifs at h
    cases h
    exact stepOk_rollback hs

/-! ### Every interleaving -/

omit [DecidableEq ι] in
/-- Edits stay, and so do approvals, of the edit that they are of. -/
theorem rows_persist (hs : Sound s) (hknows : Knows request i s phase) (h : Changes request i s phase a s') :
    (∀ k, s.edits.rows k ≠ none → s'.edits.rows k ≠ none) ∧
      ∀ b k, References s b k → References s' b k := by
  have hother : ∀ {b n : ℕ} {r : AdminApproval}, s.approvals.rows n = none →
      s'.approvals.rows = Function.update s.approvals.rows n (some r) → ∀ b k, References s b k →
        References s' b k := by
    rintro - n r hn happrovals b k ⟨q, hq, href⟩
    have hne : b ≠ n := by
      rintro rfl
      rw [hn] at hq
      cases hq
    refine ⟨q, ?_, href⟩
    rw [happrovals, Function.update_of_ne hne]
    exact hq
  have hstay : ∀ {n : ℕ} {row : Option PendingEdit}, (s.edits.rows n ≠ none → row ≠ none) →
      s'.edits.rows = Function.update s.edits.rows n row → ∀ k, s.edits.rows k ≠ none → s'.edits.rows k ≠ none := by
    intro n row hrow hedits k hk
    rw [hedits]
    rcases eq_or_ne k n with rfl | hne
    · rw [Function.update_self]
      exact hrow hk
    · rw [Function.update_of_ne hne]
      exact hk
  cases h with
  | none hedits happrovals hauthor hno =>
    refine ⟨fun k hk => hedits ▸ hk, fun b k hb => ?_⟩
    rw [References, happrovals]
    exact hb
  | staged staged editId approvalId ha hpub hp hedits happrovals hauthor =>
    subst hp
    exact ⟨hstay (fun _ => Option.some_ne_none _) hedits, hother (b := 0) hknows.2.2.2 happrovals⟩
  | stored staged ha hpub hp hedits happrovals hauthor =>
    refine ⟨hstay (fun _ => Option.some_ne_none _) hedits, fun b k hb => ?_⟩
    rw [References, happrovals]
    exact hb
  | linked staged editId hp hedits happrovals hauthor =>
    exact ⟨fun k hk => hedits ▸ hk, hother (b := 0) (hs.approvals.row le_rfl) happrovals⟩
  | decided approvalId editId hp hedits happrovals hauthor =>
    refine ⟨hstay (fun hrow => by simpa using hrow) hedits, fun b k hb => ?_⟩
    obtain ⟨r, hr, href⟩ := hb
    rw [References, happrovals b, hr]
    split_ifs
    · exact ⟨_, rfl, (Request.decideApproval_referenceId _ _).trans href⟩
    · exact ⟨r, rfl, href⟩

omit [DecidableEq ι] in
/-- An approval that is new refers to the edit that is inserted with it, or has been by the same call. -/
theorem refers_new (h : Changes request i s phase a s') {b : ℕ} {r : AdminApproval}
    (hr : s'.approvals.rows b = some r) :
    (∃ q, s.approvals.rows b = some q ∧ q.referenceId = r.referenceId) ∨
      (∃ staged approvalId, phase = .approvalInserted staged r.referenceId approvalId) ∨
        ∃ staged, phase = .stored staged r.referenceId := by
  cases h with
  | none hedits happrovals hauthor hno => exact .inl ⟨r, happrovals ▸ hr, rfl⟩
  | staged staged editId approvalId ha hpub hp hedits happrovals hauthor =>
    rw [happrovals, Function.update_apply] at hr
    split_ifs at hr with hb
    · cases hr
      exact .inr (.inl ⟨staged, approvalId, hp⟩)
    · exact .inl ⟨r, hr, rfl⟩
  | stored staged ha hpub hp hedits happrovals hauthor => exact .inl ⟨r, happrovals ▸ hr, rfl⟩
  | linked staged editId hp hedits happrovals hauthor =>
    rw [happrovals, Function.update_apply] at hr
    split_ifs at hr with hb
    · cases hr
      exact .inr (.inr ⟨staged, hp⟩)
    · exact .inl ⟨r, hr, rfl⟩
  | decided approvalId editId hp hedits happrovals hauthor =>
    rw [happrovals b] at hr
    split_ifs at hr
    · obtain ⟨q, hq, rfl⟩ := Option.map_eq_some_iff.mp hr
      exact .inl ⟨q, hq, (Request.decideApproval_referenceId _ _).symm⟩
    · exact .inl ⟨r, hr, rfl⟩

theorem sound_next (hs : Sound s) (hk : Local requests i s phase)
    (h : next geo requests i s phase a = some (s', phase')) :
    Sound s' := by
  have hok := next_step hs hk h
  have hpersist := (rows_persist hs hk.knows hok.changes).1
  refine ⟨hok.freshEdits, hok.freshApprovals, fun b r hr => ?_⟩
  rcases refers_new hok.changes hr with ⟨q, hq, href⟩ | ⟨staged, approvalId, hp⟩ | ⟨staged, hp⟩
  · rw [← href]
    exact hpersist _ (hs.refers b q hq)
  · subst hp
    cases hok.changes with
    | none hedits happrovals hauthor hno =>
      rw [happrovals] at hr
      rw [hedits]
      exact hs.refers b r hr
    | staged staged editId approvalId ha hpub hp hedits happrovals hauthor =>
      cases hp
      rw [hedits, Function.update_self]
      exact Option.some_ne_none _
    | stored staged ha hpub hp hedits happrovals hauthor => cases hp
    | linked staged editId hp hedits happrovals hauthor => cases hp
    | decided approvalId editId hp hedits happrovals hauthor => cases hp
  · subst hp
    exact hpersist _ hk.knows.2.1

omit [DecidableEq ι] in
theorem knows_frame {other : Phase} (hs : Sound s) (hne : i ≠ j) (hk : Local requests i s phase)
    (hkj : Local requests j s other) (hok : StepOk (requests i) i s phase a s' phase') :
    Knows (requests j) j s' other := by
  obtain ⟨hstay, href⟩ := rows_persist hs hk.knows hok.changes
  -- Nobody else writes the rows that the call holds.
  have hedit : ∀ k, editDone (requests j) other k ≠ none → s'.edits.rows k = s.edits.rows k := by
    intro k hdone
    obtain ⟨f, hf⟩ := Option.ne_none_iff_exists'.mp hdone
    have hheld := hkj.edits k
    rw [hf] at hheld
    rw [Table.rows, (hok.editMoves k).held_of_ne hne hheld, Table.rows]
  have happroval : ∀ k, approvalDone (requests j) other k ≠ none → s'.approvals.rows k = s.approvals.rows k := by
    intro k hdone
    obtain ⟨f, hf⟩ := Option.ne_none_iff_exists'.mp hdone
    have hheld := hkj.approvals k
    rw [hf] at hheld
    rw [Table.rows, (hok.approvalMoves k).held_of_ne hne hheld, Table.rows]
  have hknows := hkj.knows
  cases other with
  | editInserted staged editId =>
    refine ⟨hknows.1.trans_le hok.nextEditId, (hedit editId ?_).trans hknows.2⟩
    rw [editDone, if_pos rfl]
    exact Option.some_ne_none _
  | approvalInserted staged editId approvalId =>
    refine ⟨hknows.1.trans_le hok.nextEditId, (hedit editId ?_).trans hknows.2.1,
      hknows.2.2.1.trans_le hok.nextApprovalId,
      (happroval approvalId ?_).trans hknows.2.2.2⟩
    · rw [editDone, if_pos rfl]
      exact Option.some_ne_none _
    · rw [approvalDone, if_pos rfl]
      exact Option.some_ne_none _
  | stored staged editId =>
    obtain ⟨hauthor, hrow, hnone⟩ := hknows
    refine ⟨?_, hstay editId hrow, fun b r hr heq => ?_⟩
    · cases hok.changes with
      | stored staged' ha hpub hp hedits happrovals hauthor' =>
        rw [hauthor', Function.update_of_ne (hs.edits.lt hrow).ne]
        exact hauthor
      | none hedits happrovals hauthor' hno => exact hauthor' ▸ hauthor
      | staged staged' editId' approvalId ha hpub hp hedits happrovals hauthor' => exact hauthor' ▸ hauthor
      | linked staged' editId' hp hedits happrovals hauthor' => exact hauthor' ▸ hauthor
      | decided approvalId editId' hp hedits happrovals hauthor' => exact hauthor' ▸ hauthor
    · rcases refers_new hok.changes hr with ⟨q, hq, hqr⟩ | ⟨staged', approvalId, hp⟩ | ⟨staged', hp⟩
      · exact hnone b q hq (hqr.trans heq)
      · subst hp
        rw [heq] at hk
        exact hrow hk.knows.2.1
      · subst hp
        rw [heq] at hk
        exact hne (Option.some.inj (hk.knows.1.symm.trans hauthor))
  | approvalRead approvalId kind editId => exact href _ _ hknows
  | editRead approvalId edit => exact ⟨hstay _ hknows.1, href _ _ hknows.2⟩
  | deciding approvalId editId => exact ⟨hknows.1, hstay _ hknows.2.1, fun b hb => href _ _ (hknows.2.2 b hb)⟩
  | editDecided approvalId editId => exact ⟨hknows.1, hstay _ hknows.2.1, fun b hb => href _ _ (hknows.2.2 b hb)⟩
  | settled approvalId editId => exact ⟨hknows.1, hstay _ hknows.2.1, fun b hb => href _ _ (hknows.2.2 b hb)⟩
  | start | permitted | valid | cleared | storing | returned | failed => trivial

theorem local_frame {other : Phase} (hs : Sound s) (hne : i ≠ j) (hk : Local requests i s phase)
    (hkj : Local requests j s other) (h : next geo requests i s phase a = some (s', phase')) :
    Local requests j s' other := by
  have hok := next_step hs hk h
  exact ⟨hkj.edits.frame hok.editMoves hne, hkj.approvals.frame hok.approvalMoves hne, knows_frame hs hne hk hkj hok⟩

omit [DecidableEq ι] in
/-- A new edit joins the pending ones. -/
theorem pending_insert (hedits : s'.edits.rows = Function.update s.edits.rows editId (some (staged.edit editId)))
    (k : ℕ) : s'.Pending k ↔ k = editId ∨ s.Pending k ∧ k ≠ editId := by
  rw [Store.Pending, Store.Pending, hedits]
  rcases eq_or_ne k editId with rfl | hk
  · rw [Function.update_self]
    exact iff_of_true ⟨_, rfl, rfl⟩ (.inl rfl)
  · rw [Function.update_of_ne hk]
    simp [hk]

omit [DecidableEq ι] in
theorem not_pending_of_none (h : s.edits.rows editId = none) : ¬ s.Pending editId := by
  rintro ⟨e, he, -⟩
  cases h.symm.trans he

omit [DecidableEq ι] in
/-- So there is still one at most exactly if there was none. -/
theorem atMostOne_insert (hnone : s.edits.rows editId = none)
    (hedits : s'.edits.rows = Function.update s.edits.rows editId (some (staged.edit editId))) :
    AtMostOne s' ↔ ¬ ∃ k, s.Pending k := by
  have hpending := pending_insert hedits
  constructor
  · rintro h ⟨k, hk⟩
    have hne : k ≠ editId := by
      rintro rfl
      exact not_pending_of_none hnone hk
    exact hne (h k editId ((hpending k).mpr (.inr ⟨hk, hne⟩)) ((hpending editId).mpr (.inl rfl)))
  · intro h k l hk hl
    rcases (hpending k).mp hk with rfl | ⟨hk, -⟩
    · rcases (hpending l).mp hl with rfl | ⟨hl, -⟩
      · rfl
      · exact absurd ⟨l, hl⟩ h
    · exact absurd ⟨k, hk⟩ h

omit [DecidableEq ι] in
/-- The edit that becomes visible is a new one. -/
theorem new_of_publishes (hs : Sound s) (hk : Local requests i s phase)
    (hok : StepOk (requests i) i s phase a s' phase')
    (ha : a = .statement) (hpub : (requests i).Publishes phase) : ∃ (new : Staged) (editId : ℕ),
      s.edits.rows editId = none ∧ s'.edits.rows = Function.update s.edits.rows editId (some (new.edit editId)) := by
  cases hok.changes with
  | none hedits happrovals hauthor hno => exact absurd ⟨ha, hpub⟩ hno
  | staged new editId approvalId ha hpub hp hedits happrovals hauthor =>
    subst hp
    exact ⟨new, editId, hk.knows.2.1, hedits⟩
  | stored new ha hpub hp hedits happrovals hauthor => exact ⟨new, _, hs.edits.row le_rfl, hedits⟩
  | linked new editId hp hedits happrovals hauthor =>
    subst hp
    cases hr : requests i <;> rw [hr] at hpub <;> exact hpub.elim
  | decided approvalId editId hp hedits happrovals hauthor =>
    subst hp
    cases hr : requests i <;> rw [hr] at hpub <;> exact hpub.elim

omit [DecidableEq ι] in
/-- A decision leaves its edit settled, and the others alone. -/
theorem pending_of_decided (hdecides : request.Decides)
    (hedits : s'.edits.rows = Function.update s.edits.rows editId ((s.edits.rows editId).map request.decideEdit))
    {k : ℕ} {e : PendingEdit} (he : s'.edits.rows k = some e) (hpending : e.status = .PENDING) :
    k ≠ editId ∧ s.edits.rows k = some e := by
  rw [hedits] at he
  have hne : k ≠ editId := by
    rintro rfl
    rw [Function.update_self] at he
    obtain ⟨b, -, rfl⟩ := Option.map_eq_some_iff.mp he
    exact Request.decideEdit_status hdecides b hpending
  rw [Function.update_of_ne hne] at he
  exact ⟨hne, he⟩

omit [DecidableEq ι] in
theorem pending_of_next (hk : Local requests i s phase) (hok : StepOk (requests i) i s phase a s' phase')
    (hno : ¬ (a = .statement ∧ (requests i).Publishes phase)) {k : ℕ} (hpending : s'.Pending k) : s.Pending k := by
  obtain ⟨e, he, hstatus⟩ := hpending
  cases hok.changes with
  | none hedits happrovals hauthor hno' => exact ⟨e, hedits ▸ he, hstatus⟩
  | staged new editId approvalId ha hpub hp hedits happrovals hauthor => exact absurd ⟨ha, hpub⟩ hno
  | stored new ha hpub hp hedits happrovals hauthor => exact absurd ⟨ha, hpub⟩ hno
  | linked new editId hp hedits happrovals hauthor => exact ⟨e, hedits ▸ he, hstatus⟩
  | decided approvalId editId hp hedits happrovals hauthor =>
    subst hp
    exact ⟨e, (pending_of_decided hk.knows.1 hedits he hstatus).2, hstatus⟩

/-- A step leaves one pending edit at most exactly if it does not overlap with another request. -/
theorem atMostOne_next (hs : Sound s) (hk : Local requests i s phase) (hi : AtMostOne s)
    (h : next geo requests i s phase a = some (s', phase')) : AtMostOne s' ↔ ¬ Overlaps (requests i) s phase a := by
  have hok := next_step hs hk h
  by_cases hpub : a = .statement ∧ (requests i).Publishes phase
  · obtain ⟨new, editId, hnone, hedits⟩ := new_of_publishes hs hk hok hpub.1 hpub.2
    rw [atMostOne_insert hnone hedits, Overlaps, and_iff_right hpub.1, and_iff_right hpub.2]
  · refine iff_of_true (fun k l hk' hl' => ?_) fun hover => hpub ⟨hover.1, hover.2.1⟩
    exact hi k l (pending_of_next hk hok hpub hk') (pending_of_next hk hok hpub hl')

omit [DecidableEq ι] in
/-- A new approval concerns the edit that it refers to, and no other. -/
theorem awaits_insert {n k b : ℕ} {r : AdminApproval} {e : PendingEdit} (hnone : s.approvals.rows n = none)
    (happrovals : s'.approvals.rows = Function.update s.approvals.rows n (some r)) (hr : r.referenceId ≠ k) :
    s'.Awaits e k b ↔ s.Awaits e k b := by
  rw [Store.Awaits, Store.Awaits, happrovals]
  rcases eq_or_ne b n with rfl | hb
  · rw [Function.update_self, hnone]
    refine iff_of_false ?_ (by simp)
    rintro ⟨q, hq, happroval⟩
    cases hq
    exact hr happroval.2.1
  · rw [Function.update_of_ne hb]

omit [DecidableEq ι] in
theorem awaits_refers {e : PendingEdit} {k b : ℕ} (hs : Sound s) (h : s.Awaits e k b) : s.edits.rows k ≠ none := by
  obtain ⟨r, hr, happroval⟩ := h
  rw [← happroval.2.1]
  exact hs.refers b r hr

/-- A step keeps the edits and their approvals together exactly if it does not make an edit visible alone. -/
theorem linked_next (hs : Sound s) (hk : Local requests i s phase) (hl : Linked s)
    (h : next geo requests i s phase a = some (s', phase')) : Linked s' ↔ ¬ Unlinked (requests i) phase a := by
  have hok := next_step hs hk h
  cases hok.changes with
  | none hedits happrovals hauthor hno =>
    refine iff_of_true (fun k e he hpending => ?_) fun hunlinked => hno ⟨hunlinked.1, hunlinked.2.1⟩
    simp only [Store.Awaits, happrovals]
    exact hl k e (hedits ▸ he) hpending
  | stored new ha hpub hp hedits happrovals hauthor =>
    refine iff_of_false (fun hl' => ?_) (not_not_intro ⟨ha, hpub, new, hp⟩)
    -- No approval refers to the new edit.
    have hrow : s'.edits.rows s.nextEditId = some (new.edit s.nextEditId) := by rw [hedits, Function.update_self]
    obtain ⟨b, ⟨r, hr, happroval⟩, -⟩ := hl' _ _ hrow rfl
    rw [happrovals] at hr
    exact awaits_refers hs ⟨r, hr, happroval⟩ (hs.edits.row le_rfl)
  | staged new editId approvalId ha hpub hp hedits happrovals hauthor =>
    subst hp
    obtain ⟨-, hnone, -, hnone'⟩ := hk.knows
    refine iff_of_true (fun k e he hpending => ?_) ?_
    · rcases eq_or_ne k editId with rfl | hne
      · rw [hedits, Function.update_self] at he
        cases he
        refine ⟨approvalId, ⟨_, ?_, staged_isApprovalOf new k approvalId⟩, fun b hb => ?_⟩
        · rw [happrovals, Function.update_self]
        · by_contra hb'
          obtain ⟨r, hr, happroval⟩ := hb
          rw [happrovals, Function.update_of_ne hb'] at hr
          exact awaits_refers hs ⟨r, hr, happroval⟩ hnone
      · rw [hedits, Function.update_of_ne hne] at he
        have hawaits : ∀ b, s'.Awaits e k b ↔ s.Awaits e k b := fun b => awaits_insert hnone' happrovals hne.symm
        simp only [hawaits]
        exact hl k e he hpending
    · rintro ⟨-, -, other, hp⟩
      cases hp
  | linked new editId hp hedits happrovals hauthor =>
    subst hp
    refine iff_of_true (fun k e he hpending => ?_) ?_
    · rw [hedits] at he
      have hne : editId ≠ k := by
        rintro rfl
        obtain ⟨b, ⟨r, hr, happroval⟩, -⟩ := hl editId e he hpending
        exact hk.knows.2.2 b r hr happroval.2.1
      have hawaits : ∀ b, s'.Awaits e k b ↔ s.Awaits e k b :=
        fun b => awaits_insert (hs.approvals.row le_rfl) happrovals hne
      simp only [hawaits]
      exact hl k e he hpending
    · rintro ⟨-, -, other, hp⟩
      cases hp
  | decided approvalId editId hp hedits happrovals hauthor =>
    subst hp
    refine iff_of_true (fun k e he hpending => ?_) ?_
    · obtain ⟨hne, he⟩ := pending_of_decided hk.knows.1 hedits he hpending
      have hawaits : ∀ b, s'.Awaits e k b ↔ s.Awaits e k b := by
        intro b
        rw [Store.Awaits, Store.Awaits, happrovals b]
        split_ifs with hb
        · obtain ⟨r, hr, href⟩ := hk.knows.2.2 b hb.symm
          rw [hr]
          have hno : ∀ q, q.referenceId = editId → ¬ IsApprovalOf e.body.kind k q := by
            intro q hq happroval
            exact hne (happroval.2.1.symm.trans hq)
          refine iff_of_false ?_ ?_
          · rintro ⟨q, hq, happroval⟩
            cases hq
            exact hno _ ((Request.decideApproval_referenceId _ _).trans href) happroval
          · rintro ⟨q, hq, happroval⟩
            cases hq
            exact hno _ href happroval
        · exact Iff.rfl
      simp only [hawaits]
      exact hl k e he hpending
    · rintro ⟨-, -, other, hp⟩
      cases hp

theorem next_of_publishes (h : request.Publishes phase) : statement request i s phase ≠ none := by
  cases request with
  | createBranchEditRequest branchId prepared includesPhotos =>
    cases phase with
    | storing new => exact Option.some_ne_none _
    | _ => exact h.elim
  | requestFlagshipVoucherChange access proposedFields reason =>
    cases phase with
    | approvalInserted new editId approvalId => exact Option.some_ne_none _
    | _ => exact h.elim
  | requestVoucherEnd access reason =>
    cases phase with
    | approvalInserted new editId approvalId => exact Option.some_ne_none _
    | _ => exact h.elim
  | approveEdit | rejectEdit | withdrawBranchEditRequest | withdrawVoucherPendingEdit => exact h.elim

/-- No edit has been requested, and no call has begun. -/
def opened : Pool ι (Store ι) Phase :=
  ⟨⟨⟨fun _ => ⟨none, none⟩⟩, ⟨fun _ => ⟨none, none⟩⟩, 0, 0, fun _ => none⟩, fun _ => .start⟩

/-- CORRECT: throughout an interleaving of any number of requests, withdrawals and decisions there is one pending
    edit at most if and only if no request makes its edit visible while another is pending, and each pending edit
    has exactly one pending approval if and only if no edit is made visible by itself. -/
theorem single_pending_edit_iff {as : List (ι × Act)} :
    (Throughout (poolStep (next geo requests)) (fun s => AtMostOne s.store) opened as ↔
        Along (poolStep (next geo requests)) (fun s a => ¬ Overlaps (requests a.1) s.store (s.proc a.1) a.2)
          opened as) ∧
      (Throughout (poolStep (next geo requests)) (fun s => Linked s.store) opened as ↔
        Along (poolStep (next geo requests)) (fun s a => ¬ Unlinked (requests a.1) (s.proc a.1) a.2) opened as) := by
  have hkeep : ∀ s a s', PoolInv Sound (Local requests) s → poolStep (next geo requests) s a = some s' →
      PoolInv Sound (Local requests) s' := poolInv_step
    (fun i x l a x' l' hs hk h => ⟨sound_next hs hk h, (next_step hs hk h).edits, (next_step hs hk h).approvals,
      (next_step hs hk h).knows⟩) (fun _ _ _ _ _ _ _ _ hne hs hk hkj h => local_frame hs hne hk hkj h)
  have hopened : PoolInv Sound (Local requests) (opened : Pool ι (Store ι) Phase) := by
    refine ⟨⟨fun _ _ => rfl, fun _ _ => rfl, fun _ _ hr => ?_⟩, fun i => ⟨fun k => ?_, fun k => ?_, trivial⟩⟩
    · cases hr
    · exact Cell.free_of_held_none rfl
    · exact Cell.free_of_held_none rfl
  have hrefused : ∀ (s : Pool ι (Store ι) Phase) (a : ι × Act), poolStep (next geo requests) s a = none →
      ¬ (a.2 = .statement ∧ (requests a.1).Publishes (s.proc a.1)) := by
    rintro s ⟨i, a⟩ hnone ⟨rfl, hpub⟩
    rw [poolStep, Option.map_eq_none_iff] at hnone
    exact next_of_publishes hpub hnone
  constructor
  · refine throughout_iff_along_of_refused (fun s a hnone => ?_) hkeep (fun s a s' hk hi h => ?_) hopened ?_
    · rintro ⟨ha, hpub, -⟩
      exact hrefused s a hnone ⟨ha, hpub⟩
    · obtain ⟨store', phase', hnext, rfl⟩ := poolStep_eq_some.mp h
      exact atMostOne_next hk.1 (hk.2 a.1) hi hnext
    · rintro k l ⟨e, he, -⟩
      cases he
  · refine throughout_iff_along_of_refused (fun s a hnone => ?_) hkeep (fun s a s' hk hi h => ?_) hopened ?_
    · rintro ⟨ha, hpub, -⟩
      exact hrefused s a hnone ⟨ha, hpub⟩
    · obtain ⟨store', phase', hnext, rfl⟩ := poolStep_eq_some.mp h
      exact linked_next hk.1 (hk.2 a.1) hi hnext
    · intro k e he
      cases he

end

/-! ### Two requests that overlap -/

def flagshipOnSale : LiveVoucher := ⟨true, true, .ACTIVE, ["title"]⟩

def renamed (_ : Bool) : Request :=
  .requestFlagshipVoucherChange (.ok ()) [("title", .string "Two for one")] (.string "Season's end")

/-- A request up to the point where it has seen no pending edit, and from there. -/
def checkedBy (i : Bool) : List (Bool × Act) :=
  [(i, .statement), (i, .findVoucher (some flagshipOnSale)), (i, .statement)]

def insertedBy (i : Bool) : List (Bool × Act) := [(i, .statement), (i, .statement), (i, .statement)]

/-- Both have looked for a pending edit before either inserts one. -/
def bothRequest : List (Bool × Act) := checkedBy false ++ checkedBy true ++ insertedBy false ++ insertedBy true

theorem run_bothRequest : ((run (poolStep (next EditDecisions.flat renamed)) opened bothRequest).map fun s =>
    ((s.store.edits.rows 0).map PendingEdit.status, (s.store.edits.rows 1).map PendingEdit.status)) =
    some (some .PENDING, some .PENDING) := by
  decide +kernel

theorem two_pending_edits : ∃ s : Pool Bool (Store Bool) Phase,
    run (poolStep (next EditDecisions.flat renamed)) opened bothRequest = some s ∧ ¬ AtMostOne s.store := by
  obtain ⟨s, hrun, hs⟩ := Option.map_eq_some_iff.mp run_bothRequest
  obtain ⟨hfirst, hsecond⟩ : _ ∧ _ := by simpa only [Prod.mk.injEq] using hs
  obtain ⟨e, he, hstatus⟩ := Option.map_eq_some_iff.mp hfirst
  obtain ⟨e', he', hstatus'⟩ := Option.map_eq_some_iff.mp hsecond
  exact ⟨s, hrun, fun hone => absurd (hone 0 1 ⟨e, he, hstatus⟩ ⟨e', he', hstatus'⟩) zero_ne_one⟩

end Redeemo.EditRequests
