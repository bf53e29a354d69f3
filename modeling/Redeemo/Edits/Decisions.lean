import Redeemo.Edits.Apply
import Redeemo.Lib.ReadCommitted
import Redeemo.Lib.Runs

/-! The decisions on one pending edit, with any number of calls at a time.

    `approveEdit`, `rejectEdit` and the three withdrawals check the status of the edit first and write it
    later, by its id alone. A call that has checked before another one commits therefore decides the edit a
    second time, and an approval then appends the photos again. -/

namespace Redeemo.EditDecisions
open Fallible ReadCommitted Runs PendingEdits LocationTrust

/-- `photos` are those of the branch. A transaction inserts and removes them when it commits: that it may wait
    for another one that removes the same photo only takes interleavings away. -/
structure Store (ι : Type*) where
  entity : Cell ι Entity
  edit : Cell ι PendingEdit
  approval : Cell ι AdminApproval
  photos : List BranchPhoto
  /-- The calls whose decisions are committed, the last one first. -/
  auditLog : List ι

/-- A call on the edit. `access` is what comes of the checks on the merchant admin and on the edit's owner,
    and `editId` the edit that a withdrawal names. -/
inductive Call
  | approveEdit (adminId : ℕ) (now : ℤ)
  | rejectEdit (adminId : ℕ) (reason : String) (now : ℤ)
  | withdrawMerchantEditRequest (access : Except AppError Unit) (editId : ℕ) (reviewedAt actionedAt : ℤ)
  | withdrawBranchEditRequest (access : Except AppError Unit) (editId : ℕ) (reviewedAt actionedAt : ℤ)
  | withdrawVoucherPendingEdit (access : Except AppError Unit) (editId : ℕ) (reviewedAt actionedAt : ℤ)

inductive Failure
  | app (e : AppError)
  /-- A crash, a deadlock, or a failed statement. -/
  | aborted
  deriving DecidableEq, Repr

/-- What a decision applies: the photos are those that it has created. -/
structure Applied where
  write : Option EntityWrite
  added : List BranchPhoto
  removed : List String

def nothing : Applied := ⟨none, [], []⟩

/-- How far a call has come, and what it has read. -/
inductive Phase
  | start
  | approvalRead (kind : EditKind) (referenceId : ℕ)
  /-- `approveEdit`. -/
  | editRead (edit : PendingEdit)
  | planned (p : Plan)
  | entityUpdated (p : Plan)
  | addingPhotos (p : Plan) (urls : List String) (nextSort : ℤ) (added : List BranchPhoto)
  /-- What the decision applies is done. -/
  | deciding (applied : Applied)
  | editDecided (applied : Applied)
  /-- A withdrawal has found the approval. -/
  | approvalFound (applied : Applied)
  /-- All rows are written, the approval's among them or not. -/
  | settled (applied : Applied) (withApproval : Bool)
  | returned
  | failed (e : Failure)

def Phase.over : Phase → Bool
  | .returned => true
  | .failed _ => true
  | _ => false

inductive Act
  | statement
  /-- The insertion of a photo, under the id that it is given. -/
  | createPhoto (id : String)
  | abandon
  deriving DecidableEq, Repr

variable {ι : Type*}

/-! ### The writes -/

def nextSort (photos : List BranchPhoto) : ℤ := (photos.map BranchPhoto.sortOrder).max?.getD (-1) + 1

def Applied.photos (applied : Applied) (photos : List BranchPhoto) : List BranchPhoto :=
  (photos ++ applied.added).filter fun p => p.id ∉ applied.removed

def Applied.entity (applied : Applied) (entity : Entity) : Entity :=
  match applied.write with
  | none => entity
  | some w => Entity.update w entity

/-- What a call makes of the edit, and of the approval. -/
def Call.decideEdit : Call → PendingEdit → PendingEdit
  | .approveEdit adminId now => PendingEdit.approve adminId now
  | .rejectEdit adminId reason now => PendingEdit.reject adminId reason now
  | .withdrawMerchantEditRequest _ _ reviewedAt _ => PendingEdit.withdraw reviewedAt
  | .withdrawBranchEditRequest _ _ reviewedAt _ => PendingEdit.withdraw reviewedAt
  | .withdrawVoucherPendingEdit _ _ reviewedAt _ => PendingEdit.withdraw reviewedAt

def Call.decideApproval : Call → AdminApproval → AdminApproval
  | .approveEdit adminId now => AdminApproval.decide .APPROVED none adminId now
  | .rejectEdit adminId reason now => AdminApproval.decide .REJECTED (some reason) adminId now
  | .withdrawMerchantEditRequest _ _ _ actionedAt => withdrawApproval actionedAt
  | .withdrawBranchEditRequest _ _ _ actionedAt => withdrawApproval actionedAt
  | .withdrawVoucherPendingEdit _ _ _ actionedAt => withdrawApproval actionedAt

/-- The approval that a withdrawal looks for. -/
def IsApprovalOf (kind : EditKind) (editId : ℕ) (r : AdminApproval) : Prop :=
  editKindOf r.type = some kind ∧ r.referenceId = editId ∧ r.status = .PENDING

instance (kind : EditKind) (editId : ℕ) (r : AdminApproval) : Decidable (IsApprovalOf kind editId r) :=
  inferInstanceAs (Decidable (_ ∧ _))

namespace Store

variable [DecidableEq ι]

def commit (s : Store ι) (i : ι) (applied : Applied) : Store ι where
  entity := s.entity.commit i
  edit := s.edit.commit i
  approval := s.approval.commit i
  photos := applied.photos s.photos
  auditLog := i :: s.auditLog

def rollback (s : Store ι) (i : ι) : Store ι :=
  { s with entity := s.entity.rollback i, edit := s.edit.rollback i, approval := s.approval.rollback i }

end Store

/-! ### The statements -/

def after {σ : Type} (x : Except AppError σ) (phase : σ → Phase) : Phase :=
  match x with
  | .ok a => phase a
  | .error e => .failed (.app e)

section
variable [DecidableEq ι]

/-- The write of the edit, and the one of the approval. -/
def decideEditRow (call : Call) (i : ι) (s : Store ι) (applied : Applied) : Option (Store ι × Phase) :=
  (s.edit.write i (call.decideEdit (s.edit.read i))).map fun edit => ({ s with edit := edit }, .editDecided applied)

def decideApprovalRow (call : Call) (i : ι) (s : Store ι) (applied : Applied) : Option (Store ι × Phase) :=
  (s.approval.write i (call.decideApproval (s.approval.read i))).map fun approval =>
    ({ s with approval := approval }, .settled applied true)

def approveEdit (geo : Geography ℚ) (adminId : ℕ) (now : ℤ) (i : ι) (s : Store ι) :
    Phase → Option (Store ι × Phase)
  | .start =>
    let approval := s.approval.read i
    some (s, after (checkEditApproval approval) fun kind => .approvalRead kind approval.referenceId)
  | .approvalRead kind referenceId =>
    let edit := s.edit.read i
    some (s, after (checkEdit kind referenceId edit) fun _ => .editRead edit)
  | .editRead edit => some (s, after (plan geo edit (s.entity.read i)) .planned)
  | .planned p =>
    match p.write with
    | none => some (s, .entityUpdated p)
    | some w => (s.entity.write i (Entity.update w (s.entity.read i))).map fun entity =>
        ({ s with entity := entity }, .entityUpdated p)
  | .entityUpdated p => some (s, .addingPhotos p p.photos.addUrls (nextSort s.photos) [])
  -- The photos are created; the statement removes some.
  | .addingPhotos p [] _ added => some (s, .deciding ⟨p.write, added, p.photos.removeIds⟩)
  | .deciding applied => decideEditRow (.approveEdit adminId now) i s applied
  | .editDecided applied => decideApprovalRow (.approveEdit adminId now) i s applied
  | .settled applied _ => some (s.commit i applied, .returned)
  | _ => none

/-- One of the photos of an approval. -/
def createPhoto (id : String) : Phase → Option Phase
  | .addingPhotos p (url :: urls) nextSort added =>
    some (.addingPhotos p urls (nextSort + 1) (added ++ [⟨id, url, .APPROVED, nextSort⟩]))
  | _ => none

def rejectEdit (adminId : ℕ) (reason : String) (now : ℤ) (i : ι) (s : Store ι) : Phase → Option (Store ι × Phase)
  | .start =>
    let approval := s.approval.read i
    some (s, after (checkEditApproval approval) fun kind => .approvalRead kind approval.referenceId)
  | .approvalRead kind referenceId =>
    some (s, after (checkEdit kind referenceId (s.edit.read i)) fun _ => .deciding nothing)
  | .deciding applied => decideEditRow (.rejectEdit adminId reason now) i s applied
  | .editDecided applied => decideApprovalRow (.rejectEdit adminId reason now) i s applied
  | .settled applied _ => some (s.commit i applied, .returned)
  | _ => none

/-- What a withdrawal checks: an edit of another status is not found either. -/
def checkWithdrawal (kind : EditKind) (access : Except AppError Unit) (editId : ℕ) (edit : PendingEdit) :
    Except AppError Unit := do
  access
  rejectIf (edit.body.kind ≠ kind ∨ edit.id ≠ editId ∨ edit.status ≠ .PENDING) .PENDING_EDIT_NOT_FOUND

/-- The withdrawals, of an edit of a kind. -/
def withdrawEdit (kind : EditKind) (access : Except AppError Unit) (editId : ℕ) (call : Call) (i : ι) (s : Store ι) :
    Phase → Option (Store ι × Phase)
  | .start => some (s, after (checkWithdrawal kind access editId (s.edit.read i)) fun _ => .deciding nothing)
  | .deciding applied => decideEditRow call i s applied
  | .editDecided applied =>
    some (s, if IsApprovalOf kind editId (s.approval.read i) then .approvalFound applied else .settled applied false)
  | .approvalFound applied => decideApprovalRow call i s applied
  | .settled applied _ => some (s.commit i applied, .returned)
  | _ => none

def withdrawMerchantEditRequest (access : Except AppError Unit) (editId : ℕ) (reviewedAt actionedAt : ℤ) (i : ι)
    (s : Store ι) (phase : Phase) : Option (Store ι × Phase) :=
  withdrawEdit .merchant access editId (.withdrawMerchantEditRequest access editId reviewedAt actionedAt) i s phase

def withdrawBranchEditRequest (access : Except AppError Unit) (editId : ℕ) (reviewedAt actionedAt : ℤ) (i : ι)
    (s : Store ι) (phase : Phase) : Option (Store ι × Phase) :=
  withdrawEdit .branch access editId (.withdrawBranchEditRequest access editId reviewedAt actionedAt) i s phase

def withdrawVoucherPendingEdit (access : Except AppError Unit) (editId : ℕ) (reviewedAt actionedAt : ℤ) (i : ι)
    (s : Store ι) (phase : Phase) : Option (Store ι × Phase) :=
  withdrawEdit .voucher access editId (.withdrawVoucherPendingEdit access editId reviewedAt actionedAt) i s phase

def statement (geo : Geography ℚ) (call : Call) (i : ι) (s : Store ι) (phase : Phase) : Option (Store ι × Phase) :=
  match call with
  | .approveEdit adminId now => approveEdit geo adminId now i s phase
  | .rejectEdit adminId reason now => rejectEdit adminId reason now i s phase
  | .withdrawMerchantEditRequest access editId reviewedAt actionedAt =>
    withdrawMerchantEditRequest access editId reviewedAt actionedAt i s phase
  | .withdrawBranchEditRequest access editId reviewedAt actionedAt =>
    withdrawBranchEditRequest access editId reviewedAt actionedAt i s phase
  | .withdrawVoucherPendingEdit access editId reviewedAt actionedAt =>
    withdrawVoucherPendingEdit access editId reviewedAt actionedAt i s phase

def next (geo : Geography ℚ) (calls : ι → Call) (i : ι) (s : Store ι) (phase : Phase) :
    Act → Option (Store ι × Phase)
  | .statement => statement geo (calls i) i s phase
  | .createPhoto id => (createPhoto id phase).map fun phase => (s, phase)
  | .abandon => if phase.over then none else some (s.rollback i, .failed .aborted)

end

/-! ### What the decisions make of the rows -/

/-- The committed rows. -/
structure Rows where
  entity : Entity
  edit : PendingEdit
  approval : AdminApproval
  photos : List BranchPhoto

def Store.rows (s : Store ι) : Rows := ⟨s.entity.committed, s.edit.committed, s.approval.committed, s.photos⟩

/-- The call finds an approval to decide. -/
def Call.FindsApproval : Call → AdminApproval → Prop
  | .approveEdit _ _ => fun _ => True
  | .rejectEdit _ _ _ => fun _ => True
  | .withdrawMerchantEditRequest _ editId _ _ => IsApprovalOf .merchant editId
  | .withdrawBranchEditRequest _ editId _ _ => IsApprovalOf .branch editId
  | .withdrawVoucherPendingEdit _ editId _ _ => IsApprovalOf .voucher editId

def BranchPhoto.content (p : BranchPhoto) : String × PhotoModerationStatus × ℤ :=
  (p.url, p.moderationStatus, p.sortOrder)

/-- The photos of an edit, in their places. -/
def placed : ℤ → List String → List (String × PhotoModerationStatus × ℤ)
  | _, [] => []
  | n, url :: urls => (url, .APPROVED, n) :: placed (n + 1) urls

/-- What is applied is what the edit proposes: once, after the photos there are, and by an approval only. -/
def Call.Applies (geo : Geography ℚ) (rows : Rows) (call : Call) (applied : Applied) : Prop :=
  match call with
  | .approveEdit _ _ => ∃ p, plan geo rows.edit rows.entity = .ok p ∧ applied.write = p.write ∧
      applied.removed = p.photos.removeIds ∧
      applied.added.map BranchPhoto.content = placed (nextSort rows.photos) p.photos.addUrls
  | _ => applied = nothing

def Call.effect (call : Call) (applied : Applied) (withApproval : Bool) (rows : Rows) : Rows where
  entity := applied.entity rows.entity
  edit := call.decideEdit rows.edit
  approval := if withApproval = true then call.decideApproval rows.approval else rows.approval
  photos := applied.photos rows.photos

/-- No call has decided the edit, and nothing is changed; or one has, and the rows are as it leaves them. -/
inductive Exclusive (geo : Geography ℚ) (calls : ι → Call) (rows : Rows) (s : Store ι) : Prop
  | undecided (hlog : s.auditLog = []) (hrows : s.rows = rows)
  | decided (i : ι) (applied : Applied) (withApproval : Bool) (hlog : s.auditLog = [i])
    (happlies : (calls i).Applies geo rows applied)
    (hfinds : withApproval = true ↔ (calls i).FindsApproval rows.approval)
    (hrows : s.rows = (calls i).effect applied withApproval rows)

/-- A call commits its decision on an edit that is not pending any more, so that its own check would fail. -/
def Overrules (s : Store ι) (phase : Phase) (a : Act) : Prop :=
  a = .statement ∧ (∃ applied withApproval, phase = .settled applied withApproval) ∧ s.edit.committed.status ≠ .PENDING

theorem placed_append (n : ℤ) (urls : List String) (url : String) :
    placed n (urls ++ [url]) = placed n urls ++ [(url, .APPROVED, n + urls.length)] := by
  induction urls generalizing n with
  | nil => simp [placed]
  | cons u urls ih =>
    rw [List.cons_append, placed, placed, ih, List.cons_append, List.length_cons]
    congr 5
    push_cast
    ring

theorem decideEdit_status (call : Call) (edit : PendingEdit) : (call.decideEdit edit).status ≠ .PENDING := by
  cases call <;> exact PendingEditStatus.noConfusion

@[simp] theorem nothing_entity (entity : Entity) : nothing.entity entity = entity := rfl

@[simp] theorem nothing_photos (photos : List BranchPhoto) : nothing.photos photos = photos := by
  simp [nothing, Applied.photos]

/-! ### What a call holds and knows -/

def entityDone (write : Option EntityWrite) : Option (Entity → Entity) := write.map Entity.update

/-- What the unfinished transaction has made of the live row, of the edit and of the approval. -/
structure Done where
  entity : Option (Entity → Entity)
  edit : Option (PendingEdit → PendingEdit)
  approval : Option (AdminApproval → AdminApproval)

def done (call : Call) : Phase → Done
  | .entityUpdated p => ⟨entityDone p.write, none, none⟩
  | .addingPhotos p _ _ _ => ⟨entityDone p.write, none, none⟩
  | .deciding applied => ⟨entityDone applied.write, none, none⟩
  | .editDecided applied => ⟨entityDone applied.write, some call.decideEdit, none⟩
  | .approvalFound applied => ⟨entityDone applied.write, some call.decideEdit, none⟩
  | .settled applied withApproval =>
    ⟨entityDone applied.write, some call.decideEdit, if withApproval = true then some call.decideApproval else none⟩
  | _ => ⟨none, none, none⟩

structure Holding (i : ι) (s : Store ι) (d : Done) : Prop where
  entity : s.entity.Holds i d.entity
  edit : s.edit.Holds i d.edit
  approval : s.approval.Holds i d.approval

/-- The call has found the edit pending, and what it has worked out is what the rows give. -/
def Knows (geo : Geography ℚ) (rows : Rows) (call : Call) : Phase → Prop
  | .start => True
  | .approvalRead _ _ => True
  | .editRead edit => rows.edit.status = .PENDING ∧ (∃ adminId now, call = .approveEdit adminId now) ∧ edit = rows.edit
  | .planned p => rows.edit.status = .PENDING ∧ (∃ adminId now, call = .approveEdit adminId now) ∧
      plan geo rows.edit rows.entity = .ok p
  | .entityUpdated p => rows.edit.status = .PENDING ∧ (∃ adminId now, call = .approveEdit adminId now) ∧
      plan geo rows.edit rows.entity = .ok p
  | .addingPhotos p urls n added => rows.edit.status = .PENDING ∧ (∃ adminId now, call = .approveEdit adminId now) ∧
      plan geo rows.edit rows.entity = .ok p ∧ ∃ before, p.photos.addUrls = before ++ urls ∧
        n = nextSort rows.photos + before.length ∧
        added.map BranchPhoto.content = placed (nextSort rows.photos) before
  | .deciding applied => rows.edit.status = .PENDING ∧ call.Applies geo rows applied
  | .editDecided applied => rows.edit.status = .PENDING ∧ call.Applies geo rows applied
  | .approvalFound applied => rows.edit.status = .PENDING ∧ call.Applies geo rows applied ∧
      call.FindsApproval rows.approval
  | .settled applied withApproval => rows.edit.status = .PENDING ∧ call.Applies geo rows applied ∧
      (withApproval = true ↔ call.FindsApproval rows.approval)
  | .returned => True
  | .failed _ => True

/-- What a step does to the committed rows. -/
inductive Changes (call : Call) (i : ι) (s : Store ι) (phase : Phase) (a : Act) (s' : Store ι) (phase' : Phase) : Prop
  | none (hrows : s'.rows = s.rows) (hlog : s'.auditLog = s.auditLog) (hno : ¬ Overrules s phase a)
    (hret : phase' ≠ .returned)
  | commit (applied : Applied) (withApproval : Bool) (ha : a = .statement) (hp : phase = .settled applied withApproval)
    (hrows : s'.rows = call.effect applied withApproval s.rows) (hlog : s'.auditLog = i :: s.auditLog)
    (hret : phase' = .returned)

structure StepOk (geo : Geography ℚ) (call : Call) (i : ι) (s : Store ι) (phase : Phase) (a : Act) (s' : Store ι)
    (phase' : Phase) : Prop where
  entity : Cell.Moves i s.entity s'.entity
  edit : Cell.Moves i s.edit s'.edit
  approval : Cell.Moves i s.approval s'.approval
  holding : Holding i s' (done call phase')
  knows : Knows geo s.rows call phase → Knows geo s.rows call phase'
  changes : Changes call i s phase a s' phase'

section
variable {geo : Geography ℚ} {call : Call} {calls : ι → Call} {i j : ι} {s s' : Store ι} {phase phase' : Phase}
  {a : Act} {rows : Rows} {applied : Applied}

theorem not_overrules (hp : ∀ applied withApproval, phase ≠ .settled applied withApproval) : ¬ Overrules s phase a := by
  rintro ⟨-, ⟨applied, withApproval, h⟩, -⟩
  exact hp applied withApproval h

/-- A step that writes nothing. -/
theorem stepOk_read (hk : Holding i s (done call phase)) (hdone : done call phase' = done call phase)
    (hp : ∀ applied withApproval, phase ≠ .settled applied withApproval) (hret : phase' ≠ .returned)
    (hknows : Knows geo s.rows call phase → Knows geo s.rows call phase') :
    StepOk geo call i s phase a s phase' where
  entity := .stay
  edit := .stay
  approval := .stay
  holding := hdone ▸ hk
  knows := hknows
  changes := .none rfl rfl (not_overrules hp) hret

/-- The outcome of a check: the call goes on, or has failed. -/
theorem stepOk_check {σ : Type} {x : Except AppError σ} {f : σ → Phase} (hk : Holding i s (done call phase))
    (hidle : done call phase = ⟨none, none, none⟩) (hnext : ∀ b, done call (f b) = ⟨none, none, none⟩)
    (hp : ∀ applied withApproval, phase ≠ .settled applied withApproval) (hret : ∀ b, f b ≠ .returned)
    (hknows : ∀ b, x = .ok b → Knows geo s.rows call phase → Knows geo s.rows call (f b)) :
    StepOk geo call i s phase a s (after x f) := by
  cases x with
  | ok b => exact stepOk_read hk ((hnext b).trans hidle.symm) hp (hret b) (hknows b rfl)
  | error e => exact stepOk_read hk hidle.symm hp Phase.noConfusion fun _ => trivial

variable [DecidableEq ι]

theorem stepOk_entity {p : Plan} {w : EntityWrite} (hk : Holding i s (done call (.planned p))) (hw : p.write = some w)
    (h : (s.entity.write i (Entity.update w (s.entity.read i))).map (fun entity =>
      ({ s with entity := entity }, Phase.entityUpdated p)) = some (s', phase')) :
    StepOk geo call i s (.planned p) a s' phase' := by
  obtain ⟨entity, hwrite, he⟩ := Option.map_eq_some_iff.mp h
  cases he
  obtain ⟨hmoves, hcommitted, hholds⟩ := hk.entity.write hwrite
  refine ⟨hmoves, .stay, .stay, ⟨?_, hk.edit, hk.approval⟩, id,
    .none ?_ rfl (not_overrules fun _ _ => Phase.noConfusion) Phase.noConfusion⟩
  · rw [done, entityDone, hw]
    exact hholds
  · rw [Store.rows, Store.rows, hcommitted]

theorem stepOk_edit (hk : Holding i s (done call (.deciding applied)))
    (h : decideEditRow call i s applied = some (s', phase')) :
    StepOk geo call i s (.deciding applied) a s' phase' := by
  obtain ⟨edit, hwrite, he⟩ := Option.map_eq_some_iff.mp h
  cases he
  obtain ⟨hmoves, hcommitted, hholds⟩ := hk.edit.write hwrite
  refine ⟨.stay, hmoves, .stay, ⟨hk.entity, hholds, hk.approval⟩, id,
    .none ?_ rfl (not_overrules fun _ _ => Phase.noConfusion) Phase.noConfusion⟩
  rw [Store.rows, Store.rows, hcommitted]

theorem stepOk_approval (hk : Holding i s (done call phase))
    (h : decideApprovalRow call i s applied = some (s', phase'))
    (hdone : done call phase = ⟨entityDone applied.write, some call.decideEdit, none⟩)
    (hp : ∀ applied withApproval, phase ≠ .settled applied withApproval)
    (hknows : Knows geo s.rows call phase → Knows geo s.rows call (.settled applied true)) :
    StepOk geo call i s phase a s' phase' := by
  obtain ⟨approval, hwrite, he⟩ := Option.map_eq_some_iff.mp h
  cases he
  rw [hdone] at hk
  obtain ⟨hmoves, hcommitted, hholds⟩ := hk.approval.write hwrite
  refine ⟨.stay, .stay, hmoves, ⟨hk.entity, hk.edit, hholds⟩, hknows,
    .none ?_ rfl (not_overrules hp) Phase.noConfusion⟩
  rw [Store.rows, Store.rows, hcommitted]

theorem getD_entityDone (applied : Applied) (entity : Entity) :
    ((entityDone applied.write).getD id) entity = applied.entity entity := by
  rw [entityDone, Applied.entity]
  cases applied.write <;> rfl

theorem stepOk_commit {withApproval : Bool} (hk : Holding i s (done call (.settled applied withApproval))) :
    StepOk geo call i s (.settled applied withApproval) .statement (s.commit i applied) .returned := by
  obtain ⟨hentity, hupdated, hfree⟩ := hk.entity.commit
  obtain ⟨hedit, hdecided, hfree'⟩ := hk.edit.commit
  obtain ⟨happroval, hsettled, hfree''⟩ := hk.approval.commit
  refine ⟨hentity, hedit, happroval, ⟨hfree, hfree', hfree''⟩, fun _ => trivial,
    .commit applied withApproval rfl rfl ?_ rfl rfl⟩
  rw [Store.rows, Store.commit, hupdated, hdecided, hsettled, Call.effect, done, getD_entityDone]
  cases withApproval <;> rfl

/-! ### The steps of each call -/

theorem checkEdit_pending {kind : EditKind} {referenceId : ℕ} {edit : PendingEdit}
    (h : checkEdit kind referenceId edit = .ok ()) : edit.status = .PENDING := by
  simp only [checkEdit, bind_ok_iff, rejectIf_eq_ok, not_not, exists_const] at h
  exact h.2

theorem checkWithdrawal_pending {kind : EditKind} {access : Except AppError Unit} {editId : ℕ} {edit : PendingEdit}
    (h : checkWithdrawal kind access editId edit = .ok ()) : edit.status = .PENDING := by
  simp only [checkWithdrawal, bind_ok_iff, rejectIf_eq_ok, not_or, not_not] at h
  obtain ⟨-, -, -, -, hpending⟩ := h
  exact hpending

theorem approveEdit_step {adminId : ℕ} {now : ℤ} (hk : Holding i s (done (.approveEdit adminId now) phase))
    (h : approveEdit geo adminId now i s phase = some (s', phase')) :
    StepOk geo (.approveEdit adminId now) i s phase .statement s' phase' := by
  cases phase with
  | start =>
    cases h
    exact stepOk_check hk rfl (fun _ => rfl) (fun _ _ => Phase.noConfusion) (fun _ => Phase.noConfusion)
      fun _ _ _ => trivial
  | approvalRead kind referenceId =>
    cases h
    refine stepOk_check hk rfl (fun _ => rfl) (fun _ _ => Phase.noConfusion) (fun _ => Phase.noConfusion)
      fun _ hcheck _ => ?_
    rw [Cell.read_of_free hk.edit] at hcheck ⊢
    exact ⟨checkEdit_pending hcheck, ⟨adminId, now, rfl⟩, rfl⟩
  | editRead edit =>
    cases h
    refine stepOk_check hk rfl (fun _ => rfl) (fun _ _ => Phase.noConfusion) (fun _ => Phase.noConfusion)
      fun p hplan hknows => ?_
    obtain ⟨hpending, hcall, rfl⟩ := hknows
    rw [Cell.read_of_free hk.entity] at hplan
    exact ⟨hpending, hcall, hplan⟩
  | planned p =>
    rw [approveEdit] at h
    split at h
    · next hw =>
      cases h
      refine stepOk_read hk ?_ (fun _ _ => Phase.noConfusion) Phase.noConfusion id
      rw [done, entityDone, hw]
      rfl
    · next w hw => exact stepOk_entity hk hw h
  | entityUpdated p =>
    cases h
    refine stepOk_read hk rfl (fun _ _ => Phase.noConfusion) Phase.noConfusion fun hknows => ?_
    obtain ⟨hpending, hcall, hplan⟩ := hknows
    exact ⟨hpending, hcall, hplan, [], rfl, (add_zero _).symm, rfl⟩
  | addingPhotos p urls n added =>
    cases urls with
    | nil =>
      cases h
      refine stepOk_read hk rfl (fun _ _ => Phase.noConfusion) Phase.noConfusion fun hknows => ?_
      obtain ⟨hpending, -, hplan, before, hurls, -, hadded⟩ := hknows
      rw [List.append_nil] at hurls
      rw [← hurls] at hadded
      exact ⟨hpending, p, hplan, rfl, rfl, hadded⟩
    | cons url urls => cases h
  | deciding applied => exact stepOk_edit hk h
  | editDecided applied =>
    refine stepOk_approval hk h rfl (fun _ _ => Phase.noConfusion) fun hknows => ?_
    exact ⟨hknows.1, hknows.2, iff_of_true rfl trivial⟩
  | settled applied withApproval =>
    cases h
    exact stepOk_commit hk
  | approvalFound | returned | failed => cases h

omit [DecidableEq ι] in
theorem createPhoto_step {id : String} (hk : Holding i s (done call phase))
    (h : (createPhoto id phase).map (fun phase => (s, phase)) = some (s', phase')) :
    StepOk geo call i s phase (.createPhoto id) s' phase' := by
  obtain ⟨p', hcreate, he⟩ := Option.map_eq_some_iff.mp h
  cases he
  cases phase with
  | addingPhotos p urls n added =>
    cases urls with
    | nil => cases hcreate
    | cons url urls =>
      cases hcreate
      refine stepOk_read hk rfl (fun _ _ => Phase.noConfusion) Phase.noConfusion fun hknows => ?_
      obtain ⟨hpending, hcall, hplan, before, hurls, rfl, hadded⟩ := hknows
      refine ⟨hpending, hcall, hplan, before ++ [url], ?_, ?_, ?_⟩
      · rw [hurls, List.append_assoc, List.singleton_append]
      · rw [List.length_append, List.length_singleton]
        push_cast
        ring
      · rw [List.map_append, hadded, placed_append]
        rfl
  | start | approvalRead | editRead | planned | entityUpdated | deciding | editDecided | approvalFound | settled
  | returned | failed => cases hcreate

theorem rejectEdit_step {adminId : ℕ} {reason : String} {now : ℤ}
    (hk : Holding i s (done (.rejectEdit adminId reason now) phase))
    (h : rejectEdit adminId reason now i s phase = some (s', phase')) :
    StepOk geo (.rejectEdit adminId reason now) i s phase .statement s' phase' := by
  cases phase with
  | start =>
    cases h
    exact stepOk_check hk rfl (fun _ => rfl) (fun _ _ => Phase.noConfusion) (fun _ => Phase.noConfusion)
      fun _ _ _ => trivial
  | approvalRead kind referenceId =>
    cases h
    refine stepOk_check hk rfl (fun _ => rfl) (fun _ _ => Phase.noConfusion) (fun _ => Phase.noConfusion)
      fun _ hcheck _ => ?_
    rw [Cell.read_of_free hk.edit] at hcheck
    exact ⟨checkEdit_pending hcheck, rfl⟩
  | deciding applied => exact stepOk_edit hk h
  | editDecided applied =>
    refine stepOk_approval hk h rfl (fun _ _ => Phase.noConfusion) fun hknows => ?_
    exact ⟨hknows.1, hknows.2, iff_of_true rfl trivial⟩
  | settled applied withApproval =>
    cases h
    exact stepOk_commit hk
  | editRead | planned | entityUpdated | addingPhotos | approvalFound | returned | failed => cases h

theorem withdrawEdit_step {kind : EditKind} {access : Except AppError Unit} {editId : ℕ}
    (hfinds : call.FindsApproval = IsApprovalOf kind editId)
    (happlies : ∀ rows applied, call.Applies geo rows applied ↔ applied = nothing)
    (hk : Holding i s (done call phase)) (h : withdrawEdit kind access editId call i s phase = some (s', phase')) :
    StepOk geo call i s phase .statement s' phase' := by
  cases phase with
  | start =>
    cases h
    refine stepOk_check hk rfl (fun _ => rfl) (fun _ _ => Phase.noConfusion) (fun _ => Phase.noConfusion)
      fun _ hcheck _ => ?_
    rw [Cell.read_of_free hk.edit] at hcheck
    exact ⟨checkWithdrawal_pending hcheck, (happlies _ _).mpr rfl⟩
  | deciding applied => exact stepOk_edit hk h
  | editDecided applied =>
    rw [withdrawEdit, Cell.read_of_free hk.approval] at h
    split_ifs at h with hfound
    · cases h
      refine stepOk_read hk rfl (fun _ _ => Phase.noConfusion) Phase.noConfusion fun hknows => ?_
      exact ⟨hknows.1, hknows.2, hfinds ▸ hfound⟩
    · cases h
      refine ⟨.stay, .stay, .stay, hk, fun hknows => ⟨hknows.1, hknows.2, ?_⟩,
        .none rfl rfl (not_overrules fun _ _ => Phase.noConfusion) Phase.noConfusion⟩
      rw [hfinds]
      exact iff_of_false Bool.noConfusion hfound
  | approvalFound applied =>
    refine stepOk_approval hk h rfl (fun _ _ => Phase.noConfusion) fun hknows => ?_
    exact ⟨hknows.1, hknows.2.1, iff_of_true rfl hknows.2.2⟩
  | settled applied withApproval =>
    cases h
    exact stepOk_commit hk
  | approvalRead | editRead | planned | entityUpdated | addingPhotos | returned | failed => cases h

/-! ### Every step -/

theorem statement_step (hk : Holding i s (done call phase)) (h : statement geo call i s phase = some (s', phase')) :
    StepOk geo call i s phase .statement s' phase' := by
  cases call with
  | approveEdit adminId now => exact approveEdit_step hk h
  | rejectEdit adminId reason now => exact rejectEdit_step hk h
  | withdrawMerchantEditRequest access editId reviewedAt actionedAt =>
    exact withdrawEdit_step rfl (fun _ _ => Iff.rfl) hk h
  | withdrawBranchEditRequest access editId reviewedAt actionedAt =>
    exact withdrawEdit_step rfl (fun _ _ => Iff.rfl) hk h
  | withdrawVoucherPendingEdit access editId reviewedAt actionedAt =>
    exact withdrawEdit_step rfl (fun _ _ => Iff.rfl) hk h

theorem next_step (hk : Holding i s (done (calls i) phase)) (h : next geo calls i s phase a = some (s', phase')) :
    StepOk geo (calls i) i s phase a s' phase' := by
  cases a with
  | statement => exact statement_step hk h
  | createPhoto id => exact createPhoto_step hk h
  | abandon =>
    rw [next] at h
    split_ifs at h
    cases h
    obtain ⟨hentity, hcommitted⟩ := Cell.free_rollback (c := s.entity) (i := i)
    obtain ⟨hedit, hcommitted'⟩ := Cell.free_rollback (c := s.edit) (i := i)
    obtain ⟨happroval, hcommitted''⟩ := Cell.free_rollback (c := s.approval) (i := i)
    refine ⟨Cell.moves_rollback, Cell.moves_rollback, Cell.moves_rollback, ⟨hentity, hedit, happroval⟩,
      fun _ => trivial, .none ?_ rfl (fun h => Act.noConfusion h.1) Phase.noConfusion⟩
    rw [Store.rows, Store.rows, Store.rollback, hcommitted, hcommitted', hcommitted'']

/-! ### Every interleaving -/

/-- Until a call has decided the edit the rows are as they were. -/
def Untouched (rows : Rows) (s : Store ι) : Prop := s.auditLog = [] → s.rows = rows

/-- What holds of a call: until then, what it has read still is what the rows give; and it has returned exactly
    if its decision is in the log. -/
structure Local (geo : Geography ℚ) (calls : ι → Call) (rows : Rows) (i : ι) (s : Store ι) (phase : Phase) : Prop where
  holding : Holding i s (done (calls i) phase)
  knows : s.auditLog = [] → Knows geo rows (calls i) phase
  logged : phase = .returned ↔ i ∈ s.auditLog

theorem next_returned : next geo calls i s .returned a = none := by
  cases a with
  | statement =>
    rw [next]
    generalize calls i = call
    cases call <;> rfl
  | createPhoto id => rfl
  | abandon => rfl

theorem local_own (hj : Untouched rows s) (hk : Local geo calls rows i s phase)
    (h : next geo calls i s phase a = some (s', phase')) :
    Untouched rows s' ∧ Local geo calls rows i s' phase' := by
  have hok := next_step hk.holding h
  have hrunning : i ∉ s.auditLog := by
    rw [← hk.logged]
    rintro rfl
    rw [next_returned] at h
    cases h
  cases hok.changes with
  | none hrows hlog hno hret =>
    refine ⟨fun hnil => ?_, hok.holding, fun hnil => ?_, ?_⟩
    · rw [hlog] at hnil
      exact hrows.trans (hj hnil)
    · rw [hlog] at hnil
      have hknows := hok.knows
      rw [hj hnil] at hknows
      exact hknows (hk.knows hnil)
    · rw [hlog]
      exact iff_of_false hret hrunning
  | commit applied withApproval ha hp hrows hlog hret =>
    refine ⟨fun hnil => ?_, hok.holding, fun hnil => ?_, ?_⟩
    · rw [hlog] at hnil
      cases hnil
    · rw [hlog] at hnil
      cases hnil
    · rw [hlog]
      exact iff_of_true hret (List.mem_cons_self ..)

theorem local_frame {other : Phase} (hne : i ≠ j) (hk : Local geo calls rows i s phase)
    (hkj : Local geo calls rows j s other) (h : next geo calls i s phase a = some (s', phase')) :
    Local geo calls rows j s' other := by
  have hok := next_step hk.holding h
  have hholding : Holding j s' (done (calls j) other) :=
    ⟨hkj.holding.entity.frame hok.entity hne, hkj.holding.edit.frame hok.edit hne,
      hkj.holding.approval.frame hok.approval hne⟩
  cases hok.changes with
  | none hrows hlog hno hret => exact ⟨hholding, hlog ▸ hkj.knows, hlog ▸ hkj.logged⟩
  | commit applied withApproval ha hp hrows hlog hret =>
    refine ⟨hholding, fun hnil => ?_, ?_⟩
    · rw [hlog] at hnil
      cases hnil
    · rw [hlog, List.mem_cons, or_iff_right hne.symm]
      exact hkj.logged

omit [DecidableEq ι] in
/-- A call has decided the edit exactly if it is not pending; it is a pending one that calls go on with. -/
theorem Exclusive.undecided_of_pending (hi : Exclusive geo calls rows s)
    (hpending : s.edit.committed.status = .PENDING) :
    s.auditLog = [] := by
  cases hi with
  | undecided hlog hrows => exact hlog
  | decided i applied withApproval hlog happlies hfinds hrows =>
    have hedit : s.edit.committed = (calls i).decideEdit rows.edit := congrArg Rows.edit hrows
    rw [hedit] at hpending
    exact absurd hpending (decideEdit_status _ _)

/-- A step keeps the decisions exclusive exactly when it does not overrule one. -/
theorem exclusive_next (hj : Untouched rows s) (hk : Local geo calls rows i s phase) (hi : Exclusive geo calls rows s)
    (h : next geo calls i s phase a = some (s', phase')) :
    Exclusive geo calls rows s' ↔ ¬ Overrules s phase a := by
  cases (next_step hk.holding h).changes with
  | none hrows hlog hno hret =>
    refine iff_of_true ?_ hno
    cases hi with
    | undecided hlog' hrows' => exact .undecided (hlog.trans hlog') (hrows.trans hrows')
    | decided k applied withApproval hlog' happlies hfinds hrows' =>
      exact .decided k applied withApproval (hlog.trans hlog') happlies hfinds (hrows.trans hrows')
  | commit applied withApproval ha hp hrows hlog hret =>
    subst ha hp
    constructor
    · rintro hi' ⟨-, -, hclosed⟩
      -- Another call has decided before, so two have by now.
      have hnil : s.auditLog = [] := by
        cases hi' with
        | undecided hlog' hrows' => cases hlog.symm.trans hlog'
        | decided k applied' withApproval' hlog' happlies hfinds hrows' =>
          exact (List.cons.inj (hlog.symm.trans hlog')).2
      have hpending : rows.edit.status = .PENDING := (hk.knows hnil).1
      rw [← hj hnil] at hpending
      exact hclosed hpending
    · intro hno
      have hpending : s.edit.committed.status = .PENDING := by
        by_contra hclosed
        exact hno ⟨rfl, ⟨applied, withApproval, rfl⟩, hclosed⟩
      have hnil := hi.undecided_of_pending hpending
      obtain ⟨-, happlies, hfinds⟩ := hk.knows hnil
      rw [hnil] at hlog
      rw [hj hnil] at hrows
      exact .decided i applied withApproval hlog happlies hfinds hrows

theorem next_of_overrules (h : Overrules s phase a) : next geo calls i s phase a ≠ none := by
  obtain ⟨rfl, ⟨applied, withApproval, rfl⟩, -⟩ := h
  have hcommit : ∀ call,
      statement geo call i s (.settled applied withApproval) = some (s.commit i applied, .returned) := by
    intro call
    cases call <;> rfl
  rw [next, hcommit]
  exact Option.some_ne_none _

/-- No call has begun. -/
def opened (rows : Rows) : Pool ι (Store ι) Phase :=
  ⟨⟨⟨rows.entity, none⟩, ⟨rows.edit, none⟩, ⟨rows.approval, none⟩, rows.photos, []⟩, fun _ => .start⟩

/-- CORRECT: throughout an interleaving of any number of calls on an edit one of them decides it at most, and
    what it proposes is applied by an approval, once, if and only if no call commits its decision on an edit
    that is no longer pending. The calls that have returned are those whose decision is in the log. -/
theorem edit_decided_once_iff {as : List (ι × Act)} :
    Throughout (poolStep (next geo calls)) (fun s => Exclusive geo calls rows s.store ∧
        ∀ i, s.proc i = .returned ↔ i ∈ s.store.auditLog) (opened rows) as ↔
      Along (poolStep (next geo calls)) (fun s a => ¬ Overrules s.store (s.proc a.1) a.2) (opened rows) as := by
  have hkeep : ∀ s a s', PoolInv (Untouched rows) (Local geo calls rows) s → poolStep (next geo calls) s a = some s' →
      PoolInv (Untouched rows) (Local geo calls rows) s' := poolInv_step
    (fun _ _ _ _ _ _ => local_own) (fun _ _ _ _ _ _ _ _ hne _ hk hkj h => local_frame hne hk hkj h)
  refine throughout_iff_along_of_refused (K := PoolInv (Untouched rows) (Local geo calls rows))
    (fun s a hnone hover => ?_) hkeep (fun s a s' hk hi h => ?_)
    ⟨fun _ => rfl, fun i => ⟨⟨?_, ?_, ?_⟩, fun _ => trivial, ?_⟩⟩ ⟨.undecided rfl rfl, fun i => ?_⟩
  · rw [poolStep, Option.map_eq_none_iff] at hnone
    exact next_of_overrules hover hnone
  · have hlogged := fun i => ((hkeep s a s' hk h).2 i).logged
    obtain ⟨store', phase', hnext, rfl⟩ := poolStep_eq_some.mp h
    rw [and_iff_left hlogged]
    exact exclusive_next hk.1 (hk.2 a.1) hi.1 hnext
  · exact Cell.free_of_held_none rfl
  · exact Cell.free_of_held_none rfl
  · exact Cell.free_of_held_none rfl
  · exact iff_of_false Phase.noConfusion List.not_mem_nil
  · exact iff_of_false Phase.noConfusion List.not_mem_nil

end

/-! ### Two admins approve a photo edit -/

def photoEdit : PendingEdit where
  id := 3
  body := .branch true
  proposedChanges := [("add", .array [.string "front.jpg"])]
  status := .PENDING
  reviewedBy := none
  reviewNote := none
  reviewedAt := none

def photoEditRows : Rows where
  entity := .branch fun _ => .null
  edit := photoEdit
  approval := ⟨5, .BRANCH_IDENTITY_EDIT, 3, "branchPendingEdit", .PENDING, none, none, none, none, none⟩
  photos := [⟨"p1", "door.jpg", .APPROVED, 0⟩]

def approvedTwice (i : Bool) : Call := .approveEdit (if i then 8 else 7) 0

/-- A call from the point where it has read the edit. -/
def approvalOf (i : Bool) (photoId : String) : List (Bool × Act) :=
  [(i, .statement), (i, .statement), (i, .statement), (i, .createPhoto photoId), (i, .statement), (i, .statement),
    (i, .statement), (i, .statement)]

/-- Both read the edit while it is pending. -/
def bothApprove : List (Bool × Act) :=
  [(false, .statement), (false, .statement), (true, .statement), (true, .statement)] ++ approvalOf false "p2" ++
    approvalOf true "p3"

def flat : Geography ℚ := ⟨fun _ _ _ _ => 0, id⟩

theorem run_bothApprove : ((run (poolStep (next flat approvedTwice)) (opened photoEditRows) bothApprove).map
    fun s => (s.store.auditLog, s.store.photos)) =
    some ([true, false], [⟨"p1", "door.jpg", .APPROVED, 0⟩, ⟨"p2", "front.jpg", .APPROVED, 1⟩,
      ⟨"p3", "front.jpg", .APPROVED, 2⟩]) := by
  decide +kernel

/-- Both approvals succeed, and the photo is there twice. -/
theorem photo_appended_twice : ∃ s : Pool Bool (Store Bool) Phase,
    run (poolStep (next flat approvedTwice)) (opened photoEditRows) bothApprove = some s ∧
    s.store.photos.map BranchPhoto.url = ["door.jpg", "front.jpg", "front.jpg"] ∧
    ¬ Exclusive flat approvedTwice photoEditRows s.store := by
  obtain ⟨s, hrun, hs⟩ := Option.map_eq_some_iff.mp run_bothApprove
  obtain ⟨hlog, hphotos⟩ : _ ∧ _ := by simpa only [Prod.mk.injEq] using hs
  refine ⟨s, hrun, ?_, fun hi => ?_⟩
  · rw [hphotos]
    rfl
  · cases hi with
    | undecided hlog' hrows => cases hlog.symm.trans hlog'
    | decided i applied withApproval hlog' happlies hfinds hrows => cases hlog.symm.trans hlog'

end Redeemo.EditDecisions
