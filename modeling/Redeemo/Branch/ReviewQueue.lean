import Redeemo.Branch.Lifecycle

/-! The review queue of branch creations and closes, and what `approveBranchLifecycle` answers.

    A branch and its approvals move together: a pending creation waits on a PENDING_CREATE branch, a
    pending close on a PENDING_CLOSE one, and an approved close has left its branch CLOSED for good
    (`QueueOk`). Each operation changes one branch and the approvals that refer to it, so the invariant
    has to be looked at in one place only (`QueueOk.local`). -/

namespace Redeemo.BranchLifecycle
open Rows Runs

/-! ### The invariant -/

/-- The branch with this id is there, and satisfies `P`. -/
def Db.Has (db : Db) (id : ℕ) (P : Branch → Prop) : Prop := ∃ b ∈ db.branches, b.id = id ∧ P b

structure Branch.Closed (b : Branch) : Prop where
  lifecycleStatus : b.lifecycleStatus = .CLOSED
  isActive : b.isActive = false
  deletedAt : b.deletedAt.isSome = true

/-- What the status of an approval says about its branch. -/
structure Agrees (db : Db) (r : AdminApproval) : Prop where
  createPending : r.type = .BRANCH_CREATE → r.status = .PENDING →
    db.Has r.referenceId fun b => b.lifecycleStatus = .PENDING_CREATE
  createApproved : r.type = .BRANCH_CREATE → r.status = .APPROVED →
    db.Has r.referenceId fun b => b.lifecycleStatus ≠ .PENDING_CREATE
  closePending : r.type = .BRANCH_CLOSE → r.status = .PENDING →
    db.Has r.referenceId fun b => b.lifecycleStatus = .PENDING_CLOSE
  closeApproved : r.type = .BRANCH_CLOSE → r.status = .APPROVED → db.Has r.referenceId Branch.Closed

/-- A close of the branch has this status. -/
def Db.HasClose (db : Db) (branchId : ℕ) (status : ApprovalStatus) : Prop :=
  ∃ r ∈ db.approvals, r.type = .BRANCH_CLOSE ∧ r.referenceId = branchId ∧ r.status = status

structure Branch.Answered (db : Db) (b : Branch) : Prop where
  closing : b.lifecycleStatus = .PENDING_CLOSE → db.HasClose b.id .PENDING
  closed : b.lifecycleStatus = .CLOSED → db.HasClose b.id .APPROVED

/-- Two approvals of which a branch has one at most: creations, and pending closes. -/
def Rivals (r s : AdminApproval) : Prop :=
  r.referenceId = s.referenceId ∧ (r.type = .BRANCH_CREATE ∧ s.type = .BRANCH_CREATE ∨
    (r.type = .BRANCH_CLOSE ∧ r.status = .PENDING) ∧ s.type = .BRANCH_CLOSE ∧ s.status = .PENDING)

structure QueueOk (db : Db) : Prop where
  keyed : db.Keyed
  agrees : ∀ r ∈ db.approvals, Agrees db r
  answered : ∀ b ∈ db.branches, b.Answered db
  unrivalled : ∀ r ∈ db.approvals, ∀ s ∈ db.approvals, Rivals r s → r = s

theorem Agrees.of_type {db : Db} {r : AdminApproval} (hcreate : r.type ≠ .BRANCH_CREATE)
    (hclose : r.type ≠ .BRANCH_CLOSE) : Agrees db r :=
  ⟨fun h => absurd h hcreate, fun h => absurd h hcreate, fun h => absurd h hclose,
    fun h => absurd h hclose⟩

theorem Agrees.of_status {db : Db} {r : AdminApproval} (hpending : r.status ≠ .PENDING)
    (happroved : r.status ≠ .APPROVED) : Agrees db r :=
  ⟨fun _ h => absurd h hpending, fun _ h => absurd h happroved, fun _ h => absurd h hpending,
    fun _ h => absurd h happroved⟩

theorem Branch.Answered.of_status {db : Db} {b : Branch} (hclosing : b.lifecycleStatus ≠ .PENDING_CLOSE)
    (hclosed : b.lifecycleStatus ≠ .CLOSED) : b.Answered db :=
  ⟨fun h => absurd h hclosing, fun h => absurd h hclosed⟩

section
variable {db db' : Db}

/-- What holds of the branch with an id moves along with its row. -/
theorem Agrees.mono {r : AdminApproval} (h : Agrees db r)
    (hhas : ∀ P : Branch → Prop, (P = (fun b => b.lifecycleStatus = .PENDING_CREATE) ∨
      P = (fun b => b.lifecycleStatus ≠ .PENDING_CREATE) ∨
      P = (fun b => b.lifecycleStatus = .PENDING_CLOSE) ∨ P = Branch.Closed) →
        db.Has r.referenceId P → db'.Has r.referenceId P) : Agrees db' r :=
  ⟨fun ht hs => hhas _ (.inl rfl) (h.createPending ht hs),
    fun ht hs => hhas _ (.inr (.inl rfl)) (h.createApproved ht hs),
    fun ht hs => hhas _ (.inr (.inr (.inl rfl))) (h.closePending ht hs),
    fun ht hs => hhas _ (.inr (.inr (.inr rfl))) (h.closeApproved ht hs)⟩

/-- A CLOSED branch is off and deleted. -/
theorem QueueOk.closed (hq : QueueOk db) {b : Branch} (hb : b ∈ db.branches)
    (hs : b.lifecycleStatus = .CLOSED) : b.Closed := by
  obtain ⟨r, hr, htype, href, hstatus⟩ := (hq.answered b hb).closed hs
  obtain ⟨c, hc, hid, hclosed⟩ := (hq.agrees r hr).closeApproved htype hstatus
  rw [hq.keyed.branchKeys.eq hb hc (href.symm.trans hid.symm)]
  exact hclosed

/-- Only the branch `k` and the approvals that refer to it have changed. -/
theorem QueueOk.local (hq : QueueOk db) (hk' : db'.Keyed) (k : ℕ)
    (hbranches : ∀ b, b.id ≠ k → (b ∈ db'.branches ↔ b ∈ db.branches))
    (happrovals : ∀ r : AdminApproval, r.referenceId ≠ k → (r ∈ db'.approvals ↔ r ∈ db.approvals))
    (hagrees : ∀ r ∈ db'.approvals, r.referenceId = k → Agrees db' r)
    (hanswered : ∀ b ∈ db'.branches, b.id = k → b.Answered db')
    (hunrivalled : ∀ r ∈ db'.approvals, ∀ s ∈ db'.approvals, r.referenceId = k → Rivals r s → r = s) :
    QueueOk db' where
  keyed := hk'
  agrees r hr := by
    by_cases href : r.referenceId = k
    · exact hagrees r hr href
    · refine (hq.agrees r ((happrovals r href).mp hr)).mono fun P _ hP => ?_
      obtain ⟨b, hb, hid, hP⟩ := hP
      exact ⟨b, (hbranches b (hid ▸ href)).mpr hb, hid, hP⟩
  answered b hb := by
    by_cases hid : b.id = k
    · exact hanswered b hb hid
    · have hold := hq.answered b ((hbranches b hid).mp hb)
      have hclose : ∀ status, db.HasClose b.id status → db'.HasClose b.id status := by
        rintro status ⟨r, hr, htype, href, hstatus⟩
        exact ⟨r, (happrovals r (href.symm ▸ hid)).mpr hr, htype, href, hstatus⟩
      exact ⟨fun hs => hclose _ (hold.closing hs), fun hs => hclose _ (hold.closed hs)⟩
  unrivalled r hr s hs hrivals := by
    by_cases href : r.referenceId = k
    · exact hunrivalled r hr s hs href hrivals
    · exact hq.unrivalled r ((happrovals r href).mp hr) s
        ((happrovals s (hrivals.1 ▸ href)).mp hs) hrivals

/-- Rows that keep their place in the lifecycle keep the queue in order. -/
theorem QueueOk.mapBranches (hq : QueueOk db) (hk' : db'.Keyed) (happrovals : db'.approvals = db.approvals)
    {f : Branch → Branch} (hbranches : db'.branches = db.branches.map f)
    (hid : ∀ b ∈ db.branches, (f b).id = b.id)
    (hstatus : ∀ b ∈ db.branches, (f b).lifecycleStatus = b.lifecycleStatus)
    (hclosed : ∀ b ∈ db.branches, b.Closed → (f b).Closed) : QueueOk db' where
  keyed := hk'
  agrees r hr := by
    rw [happrovals] at hr
    refine (hq.agrees r hr).mono fun P hform hP => ?_
    obtain ⟨b, hb, hbid, hP⟩ := hP
    refine ⟨f b, hbranches ▸ List.mem_map_of_mem hb, (hid b hb).trans hbid, ?_⟩
    rcases hform with rfl | rfl | rfl | rfl
    · exact (hstatus b hb).trans hP
    · exact fun h => hP ((hstatus b hb).symm.trans h)
    · exact (hstatus b hb).trans hP
    · exact hclosed b hb hP
  answered b' hb' := by
    rw [hbranches] at hb'
    obtain ⟨b, hb, rfl⟩ := List.mem_map.mp hb'
    have hold := hq.answered b hb
    refine ⟨fun hs => ?_, fun hs => ?_⟩
    · rw [Db.HasClose, happrovals, hid b hb]
      exact hold.closing ((hstatus b hb).symm.trans hs)
    · rw [Db.HasClose, happrovals, hid b hb]
      exact hold.closed ((hstatus b hb).symm.trans hs)
  unrivalled := happrovals ▸ hq.unrivalled

/-- The branch of an approval, found by its id. -/
theorem QueueOk.has_iff (hq : QueueOk db) {b : Branch} (hb : b ∈ db.branches) {P : Branch → Prop} :
    db.Has b.id P ↔ P b := by
  constructor
  · rintro ⟨c, hc, hid, hP⟩
    rw [← hq.keyed.branchKeys.eq hc hb hid]
    exact hP
  · intro hP
    exact ⟨b, hb, rfl, hP⟩

/-- A branch moves on, to a status other than PENDING_CREATE, and what was pending on it is done. -/
theorem Agrees.moved {r : AdminApproval} {b b' : Branch} (hq : QueueOk db)
    (h : Agrees db r) (hb : b ∈ db.branches) (hnotClosed : b.lifecycleStatus ≠ .CLOSED)
    (hb' : b' ∈ db'.branches) (hid : b'.id = b.id) (hleft : b'.lifecycleStatus ≠ .PENDING_CREATE)
    (href : r.referenceId = b.id)
    (hcreate : r.type = .BRANCH_CREATE → r.status = .PENDING → b.lifecycleStatus ≠ .PENDING_CREATE)
    (hclose : r.type = .BRANCH_CLOSE → r.status = .PENDING → b.lifecycleStatus ≠ .PENDING_CLOSE) :
    Agrees db' r := by
  obtain ⟨hcp, hca, hlp, hla⟩ := h
  rw [href] at hcp hlp hla
  refine ⟨fun ht hs => ?_, fun _ _ => ⟨b', hb', hid.trans href.symm, hleft⟩, fun ht hs => ?_,
    fun ht hs => ?_⟩
  · exact absurd ((hq.has_iff hb).mp (hcp ht hs)) (hcreate ht hs)
  · exact absurd ((hq.has_iff hb).mp (hlp ht hs)) (hclose ht hs)
  · exact absurd ((hq.has_iff hb).mp (hla ht hs)).lifecycleStatus hnotClosed

/-- A decision leaves no new rival. -/
theorem QueueOk.unrivalled_decide (hq : QueueOk db) {id adminId : ℕ} {status : ApprovalStatus}
    {comment : Option String} {now : ℤ} (hstatus : status ≠ .PENDING) :
    ∀ r ∈ updateMany (fun r => r.id = id) (AdminApproval.decide status comment adminId now) db.approvals,
    ∀ s ∈ updateMany (fun r => r.id = id) (AdminApproval.decide status comment adminId now) db.approvals,
      Rivals r s → r = s := by
  intro r' hr' s' hs' ⟨href, hkind⟩
  obtain ⟨r, hr, ⟨hrid, rfl⟩ | ⟨hrid, rfl⟩⟩ := mem_updateMany.mp hr' <;>
    obtain ⟨s, hs, ⟨hsid, rfl⟩ | ⟨hsid, rfl⟩⟩ := mem_updateMany.mp hs'
  · rw [hq.keyed.approvalKeys.eq hr hs (hrid.trans hsid.symm)]
  · rcases hkind with hkind | ⟨⟨-, hpending⟩, -⟩
    · rw [hq.unrivalled r hr s' hs ⟨href, .inl hkind⟩] at hrid
      exact absurd hrid hsid
    · exact absurd hpending hstatus
  · rcases hkind with hkind | ⟨-, -, hpending⟩
    · rw [← hq.unrivalled r' hr s hs ⟨href, .inl hkind⟩] at hsid
      exact absurd hsid hrid
    · exact absurd hpending hstatus
  · exact hq.unrivalled r' hr s' hs ⟨href, hkind⟩

/-- The branches and approvals that a decision does not touch. -/
theorem mem_decided {approval r : AdminApproval} {adminId : ℕ} {status : ApprovalStatus}
    {comment : Option String} {now : ℤ} (hk : db.Keyed) (ha : approval ∈ db.approvals)
    (href : r.referenceId ≠ approval.referenceId) :
    r ∈ updateMany (fun r => r.id = approval.id) (AdminApproval.decide status comment adminId now)
      db.approvals ↔ r ∈ db.approvals := by
  refine mem_updateMany_untouched (Q := fun s => s.referenceId ≠ approval.referenceId) ?_ href
  intro s hs hid
  rw [hk.approvalKeys.eq hs ha hid]
  exact ⟨not_not.mpr rfl, not_not.mpr rfl⟩

theorem mem_updateBranchRow {id : ℕ} {f : Branch → Branch} (hf : ∀ b, (f b).id = b.id) {b : Branch}
    (hne : b.id ≠ id) : b ∈ (db.updateBranchRow id f).branches ↔ b ∈ db.branches := by
  refine mem_updateMany_untouched (Q := fun c => c.id ≠ id) ?_ hne
  intro c _ hid
  exact ⟨not_not.mpr hid, not_not.mpr ((hf c).trans hid)⟩

/-- A branch moves on, with the approvals that refer to it. -/
theorem QueueOk.advance (hq : QueueOk db) (hk' : db'.Keyed) {b : Branch} (hb : b ∈ db.branches)
    (hnotClosed : b.lifecycleStatus ≠ .CLOSED) {f : Branch → Branch}
    (hbranches : db'.branches = (db.updateBranchRow b.id f).branches) (hf : ∀ c, (f c).id = c.id)
    (hleft : (f b).lifecycleStatus ≠ .PENDING_CREATE)
    (happrovals : ∀ r : AdminApproval, r.referenceId ≠ b.id → (r ∈ db'.approvals ↔ r ∈ db.approvals))
    (hdone : ∀ r ∈ db'.approvals, r.referenceId = b.id → Agrees db' r ∨ r ∈ db.approvals ∧
      (r.type = .BRANCH_CREATE → r.status = .PENDING → b.lifecycleStatus ≠ .PENDING_CREATE) ∧
      (r.type = .BRANCH_CLOSE → r.status = .PENDING → b.lifecycleStatus ≠ .PENDING_CLOSE))
    (hanswered : (f b).Answered db')
    (hunrivalled : ∀ r ∈ db'.approvals, ∀ s ∈ db'.approvals, Rivals r s → r = s) : QueueOk db' := by
  have hmem : f b ∈ db'.branches := hbranches ▸ mem_updateMany_of_pos hb rfl
  refine hq.local hk' b.id (fun c hc => ?_) happrovals (fun r hr href => ?_) (fun c hc hid => ?_)
    fun r hr s hs _ => hunrivalled r hr s hs
  · rw [hbranches]
    exact mem_updateBranchRow hf hc
  · rcases hdone r hr href with hagrees | ⟨hold, hcreate, hclose⟩
    · exact hagrees
    · exact (hq.agrees r hold).moved hq hb hnotClosed hmem (hf b) hleft href hcreate hclose
  · rw [hk'.branchKeys.eq hc hmem (hid.trans (hf b).symm)]
    exact hanswered

/-! ### The operations -/

theorem createBranch_queueOk {merchantId : ℕ} {created : BranchData} (hq : QueueOk db) :
    QueueOk (db.insertBranch (createdBranch merchantId true false created)) := by
  refine hq.local (hq.keyed.insertBranch rfl) db.nextId (fun b hb => ?_) (fun r _ => Iff.rfl)
    (fun r hr href => ?_) (fun b hb hid => ?_) fun r hr s hs _ => hq.unrivalled r hr s hs
  · exact mem_concat_ne (Q := fun b => b.id ≠ db.nextId) hb (not_not.mpr rfl)
  · exact absurd href (hq.keyed.referenceFresh r hr).ne
  · rcases List.mem_append.mp hb with hb | hb
    · exact absurd hid (hq.keyed.branchFresh b hb).ne
    · rw [List.mem_singleton.mp hb]
      exact .of_status nofun nofun

theorem stageBranch_queueOk {merchantId : ℕ} {created : BranchData} {comment : String}
    (hq : QueueOk db) : QueueOk ((db.insertBranch (createdBranch merchantId false true created)).insertApproval
      .BRANCH_CREATE db.nextId "branch" comment) := by
  have hnew : ∀ r ∈ ((db.insertBranch (createdBranch merchantId false true created)).insertApproval
      .BRANCH_CREATE db.nextId "branch" comment).approvals, r.referenceId = db.nextId →
        r ∉ db.approvals := fun r _ href hr => (hq.keyed.referenceFresh r hr).ne href
  refine hq.local ((hq.keyed.insertBranch rfl).insertApproval (Nat.lt_succ_self _)) db.nextId
    (fun b hb => ?_) (fun r href => ?_) (fun r hr href => ?_) (fun b hb hid => ?_)
    fun r hr s hs href hrivals => ?_
  · exact mem_concat_ne (Q := fun b => b.id ≠ db.nextId) hb (not_not.mpr rfl)
  · exact mem_concat_ne (Q := fun r => r.referenceId ≠ db.nextId) href (not_not.mpr rfl)
  · rcases List.mem_append.mp hr with hold | hr'
    · exact absurd hold (hnew r hr href)
    · rw [List.mem_singleton.mp hr']
      exact ⟨fun _ _ => ⟨_, List.mem_append_right _ (List.mem_singleton_self _), rfl, rfl⟩, nofun, nofun,
        nofun⟩
  · rcases List.mem_append.mp hb with hb | hb
    · exact absurd hid (hq.keyed.branchFresh b hb).ne
    · rw [List.mem_singleton.mp hb]
      exact .of_status nofun nofun
  · rcases List.mem_append.mp hr with hold | hr'
    · exact absurd hold (hnew r hr href)
    · rcases List.mem_append.mp hs with hold | hs'
      · exact absurd hold (hnew s hs (hrivals.1 ▸ href))
      · rw [List.mem_singleton.mp hr', List.mem_singleton.mp hs']

theorem stageEdit_queueOk {row : ℕ → BranchPendingEdit} {comment : String} (hq : QueueOk db) :
    QueueOk ((db.insertPendingEdit row).insertApproval .BRANCH_IDENTITY_EDIT db.nextId
      "branch_pending_edit" comment) := by
  refine hq.local ((hq.keyed.insertPendingEdit row).insertApproval (Nat.lt_succ_self _)) db.nextId
    (fun b _ => Iff.rfl) (fun r href => ?_) (fun r hr href => ?_) (fun b hb hid => ?_)
    fun r hr s _ href hrivals => ?_
  · exact mem_concat_ne (Q := fun r => r.referenceId ≠ db.nextId) href (not_not.mpr rfl)
  · rcases List.mem_append.mp hr with hr | hr
    · exact absurd href (hq.keyed.referenceFresh r hr).ne
    · rw [List.mem_singleton.mp hr]
      exact .of_type nofun nofun
  · exact absurd hid (hq.keyed.branchFresh b hb).ne
  · rcases List.mem_append.mp hr with hr | hr
    · exact absurd href (hq.keyed.referenceFresh r hr).ne
    · rw [List.mem_singleton.mp hr] at hrivals
      obtain ⟨-, ⟨htype, -⟩ | ⟨⟨htype, -⟩, -⟩⟩ := hrivals
      · cases htype
      · cases htype

theorem cancelled_queueOk {adminId branchId merchantId : ℕ} {branch : Branch} (hq : QueueOk db)
    (hcancel : Cancellable db adminId branchId merchantId branch) : QueueOk (cancelled db branchId) := by
  obtain ⟨hb, rfl, -⟩ := hq.keyed.findOwned_iff.mp hcancel.found
  have hsub : ∀ r ∈ (cancelled db branch.id).approvals, r ∈ db.approvals :=
    fun r hr => List.mem_of_mem_filter hr
  refine hq.local hq.keyed.deleteApprovals.deleteBranch branch.id (fun b hne => ?_) (fun r href => ?_)
    (fun r hr href => ?_) (fun b hb hid => ?_) fun r hr s hs _ => hq.unrivalled r (hsub r hr) s (hsub s hs)
  · rw [cancelled, Db.deleteBranch, List.mem_filter, decide_eq_true_iff]
    exact and_iff_left hne
  · rw [cancelled, Db.deleteBranch, Db.deleteApprovals, List.mem_filter, decide_eq_true_iff]
    exact and_iff_left fun h => href h.2.1
  · obtain ⟨hold, hkept⟩ := List.mem_filter.mp hr
    obtain ⟨-, hca, hlp, hla⟩ := hq.agrees r hold
    rw [href] at hca hlp hla
    rw [decide_eq_true_iff] at hkept
    refine ⟨fun ht hs => absurd ⟨ht, href, hs⟩ hkept, fun ht hs => ?_, fun ht hs => ?_, fun ht hs => ?_⟩
    · exact absurd hcancel.pendingCreate ((hq.has_iff hb).mp (hca ht hs))
    · cases hcancel.pendingCreate.symm.trans ((hq.has_iff hb).mp (hlp ht hs))
    · cases hcancel.pendingCreate.symm.trans ((hq.has_iff hb).mp (hla ht hs)).lifecycleStatus
  · obtain ⟨-, hne⟩ := List.mem_filter.mp hb
    exact absurd hid (of_decide_eq_true hne)

/-- A LIVE branch has no pending approval, and a branch that is not deleted is not CLOSED. -/
theorem QueueOk.owned_not_closed (hq : QueueOk db) {b : Branch} (hb : b ∈ db.branches)
    (hdeleted : b.deletedAt = none) : b.lifecycleStatus ≠ .CLOSED := by
  intro hs
  have hclosed := (hq.closed hb hs).deletedAt
  rw [hdeleted] at hclosed
  cases hclosed

theorem requestClose_queueOk {branchId merchantId : ℕ} {reason comment : String} {branch : Branch}
    (hq : QueueOk db) (hb : db.findOwned branchId merchantId = some branch)
    (hcreate : branch.lifecycleStatus ≠ .PENDING_CREATE)
    (hclose : branch.lifecycleStatus ≠ .PENDING_CLOSE)
    (hk' : ((db.updateBranchRow branchId (Branch.askClose reason)).insertApproval
        .BRANCH_CLOSE branchId "branch" comment).Keyed) :
    QueueOk ((db.updateBranchRow branchId (Branch.askClose reason)).insertApproval
        .BRANCH_CLOSE branchId "branch" comment) := by
  obtain ⟨hmem, rfl, -, hdeleted⟩ := hq.keyed.findOwned_iff.mp hb
  have hnone : ∀ r ∈ db.approvals, r.referenceId = branch.id → r.type = .BRANCH_CLOSE →
      r.status ≠ .PENDING := by
    intro r hr href ht hs
    have hhas := (hq.agrees r hr).closePending ht hs
    rw [href] at hhas
    exact hclose ((hq.has_iff hmem).mp hhas)
  refine hq.advance hk' hmem (hq.owned_not_closed hmem hdeleted) rfl (fun _ => rfl) nofun (fun r href => ?_)
    (fun r hr href => ?_) ⟨fun _ => ?_, nofun⟩ fun r hr s hs hrivals => ?_
  · exact mem_concat_ne (Q := fun r => r.referenceId ≠ branch.id) href (not_not.mpr rfl)
  · rcases List.mem_append.mp hr with hr | hr
    · exact .inr ⟨hr, fun _ _ => hcreate, fun _ _ => hclose⟩
    · rw [List.mem_singleton.mp hr]
      refine .inl ⟨nofun, nofun, fun _ _ => ⟨_, mem_updateMany_of_pos hmem rfl, rfl, rfl⟩, nofun⟩
  · exact ⟨_, List.mem_append_right _ (List.mem_singleton_self _), rfl, rfl, rfl⟩
  · rcases List.mem_append.mp hr with hr | hr <;> rcases List.mem_append.mp hs with hs | hs
    · exact hq.unrivalled r hr s hs hrivals
    · rw [List.mem_singleton.mp hs] at hrivals
      obtain ⟨href, ⟨-, htype⟩ | ⟨⟨ht, hst⟩, -⟩⟩ := hrivals
      · cases htype
      · exact absurd hst (hnone r hr href ht)
    · rw [List.mem_singleton.mp hr] at hrivals
      obtain ⟨href, ⟨htype, -⟩ | ⟨-, ht, hst⟩⟩ := hrivals
      · cases htype
      · exact absurd hst (hnone s hs href.symm ht)
    · rw [List.mem_singleton.mp hr, List.mem_singleton.mp hs]

theorem withdrawClose_queueOk {branchId merchantId : ℕ} {branch : Branch} (hq : QueueOk db)
    (hb : db.findOwned branchId merchantId = some branch)
    (hclosing : branch.lifecycleStatus = .PENDING_CLOSE)
    (hk' : ((db.updateBranchRow branchId Branch.backLive).deleteApprovals fun r =>
        r.type = .BRANCH_CLOSE ∧ r.referenceId = branchId ∧ r.status = .PENDING).Keyed) :
    QueueOk ((db.updateBranchRow branchId Branch.backLive).deleteApprovals fun r =>
        r.type = .BRANCH_CLOSE ∧ r.referenceId = branchId ∧ r.status = .PENDING) := by
  obtain ⟨hmem, rfl, -⟩ := hq.keyed.findOwned_iff.mp hb
  have hst : ∀ st, st ≠ .PENDING_CLOSE → branch.lifecycleStatus ≠ st :=
    fun st hne h => hne (h.symm.trans hclosing)
  refine hq.advance hk' hmem (hst _ nofun) rfl (fun _ => rfl) nofun (fun r href => ?_)
    (fun r hr href => ?_) (.of_status nofun nofun) fun r hr s hs hrivals => ?_
  · rw [Db.deleteApprovals, List.mem_filter, decide_eq_true_iff]
    exact and_iff_left fun h => href h.2.1
  · obtain ⟨hold, hkept⟩ := List.mem_filter.mp hr
    rw [decide_eq_true_iff] at hkept
    exact .inr ⟨hold, fun _ _ => hst _ nofun, fun ht hs => absurd ⟨ht, href, hs⟩ hkept⟩
  · exact hq.unrivalled r (List.mem_of_mem_filter hr) s (List.mem_of_mem_filter hs) hrivals

/-- The decided approval is the only one that was pending on the branch. -/
theorem QueueOk.others_done (hq : QueueOk db) {approval : AdminApproval} {b : Branch}
    (ha : approval ∈ db.approvals) (hpending : approval.status = .PENDING)
    (href : approval.referenceId = b.id)
    (hkind : approval.type = .BRANCH_CREATE ∧ b.lifecycleStatus = .PENDING_CREATE ∨
      approval.type = .BRANCH_CLOSE ∧ b.lifecycleStatus = .PENDING_CLOSE)
    {r : AdminApproval} (hr : r ∈ db.approvals) (hrref : r.referenceId = b.id)
    (hne : r.id ≠ approval.id) :
    (r.type = .BRANCH_CREATE → r.status = .PENDING → b.lifecycleStatus ≠ .PENDING_CREATE) ∧
      (r.type = .BRANCH_CLOSE → r.status = .PENDING → b.lifecycleStatus ≠ .PENDING_CLOSE) := by
  have hsame : r.referenceId = approval.referenceId := hrref.trans href.symm
  refine ⟨fun ht hs hb' => ?_, fun ht hs hb' => ?_⟩
  · rcases hkind with ⟨hat, -⟩ | ⟨-, hst⟩
    · exact hne (congrArg _ (hq.unrivalled r hr approval ha ⟨hsame, .inl ⟨ht, hat⟩⟩))
    · cases hb'.symm.trans hst
  · rcases hkind with ⟨-, hst⟩ | ⟨hat, -⟩
    · cases hb'.symm.trans hst
    · exact hne (congrArg _ (hq.unrivalled r hr approval ha ⟨hsame, .inr ⟨⟨ht, hs⟩, hat, hpending⟩⟩))

/-- A decision that moves the branch on: an approval, or the rejection of a close. -/
theorem decide_queueOk {approval : AdminApproval} {b : Branch} {f : Branch → Branch} {adminId : ℕ}
    {status : ApprovalStatus} {comment : Option String} {now : ℤ} (hq : QueueOk db)
    (ha : approval ∈ db.approvals) (hpending : approval.status = .PENDING) (hb : b ∈ db.branches)
    (href : approval.referenceId = b.id)
    (hkind : approval.type = .BRANCH_CREATE ∧ b.lifecycleStatus = .PENDING_CREATE ∨
      approval.type = .BRANCH_CLOSE ∧ b.lifecycleStatus = .PENDING_CLOSE)
    (happrovals : db'.approvals = (db.updateApproval approval.id
      (AdminApproval.decide status comment adminId now)).approvals)
    (hbranches : db'.branches = (db.updateBranchRow b.id f).branches) (hf : ∀ c, (f c).id = c.id)
    (hleft : (f b).lifecycleStatus ≠ .PENDING_CREATE) (hstatus : status ≠ .PENDING) (hk' : db'.Keyed)
    (hagrees : Agrees db' (AdminApproval.decide status comment adminId now approval))
    (hanswered : (f b).Answered db') : QueueOk db' := by
  have hnotClosed : b.lifecycleStatus ≠ .CLOSED := by
    rcases hkind with ⟨-, hst⟩ | ⟨-, hst⟩
    · exact hst ▸ nofun
    · exact hst ▸ nofun
  refine hq.advance hk' hb hnotClosed hbranches hf hleft (fun r hne => ?_) (fun r' hr' hrref => ?_)
    hanswered ?_
  · rw [happrovals]
    exact mem_decided hq.keyed ha (href ▸ hne)
  · rw [happrovals] at hr'
    obtain ⟨r, hr, ⟨hid, rfl⟩ | ⟨hid, rfl⟩⟩ := mem_updateMany.mp hr'
    · rw [hq.keyed.approvalKeys.eq hr ha hid]
      exact .inl hagrees
    · exact .inr ⟨hr, hq.others_done ha hpending href hkind hr hrref hid⟩
  · rw [happrovals]
    exact hq.unrivalled_decide hstatus

theorem approveCreate_queueOk {out : Outside} {approval : AdminApproval} {branch : Branch} {adminId : ℕ}
    (hq : QueueOk db) (hk' : db'.Keyed) (ha : approval ∈ db.approvals) (hpending : approval.status = .PENDING)
    (htype : approval.type = .BRANCH_CREATE) (h : CreateApproved out db approval branch adminId db') :
    QueueOk db' := by
  obtain ⟨hfound, hst, rfl⟩ := h
  obtain ⟨hb, hid⟩ := hq.keyed.findBranch_iff.mp hfound
  refine decide_queueOk hq ha hpending hb hid.symm (.inl ⟨htype, hst⟩) rfl rfl (fun _ => rfl) nofun nofun
    hk' ?_ (.of_status nofun nofun)
  refine ⟨fun _ => nofun, fun _ _ => ⟨_, mem_updateMany_of_pos hb rfl, hid, nofun⟩, fun _ => nofun,
    fun ht => ?_⟩
  cases htype.symm.trans ht

theorem approveClose_queueOk {out : Outside} {approval : AdminApproval} {branch : Branch} {adminId : ℕ}
    (hq : QueueOk db) (hk' : db'.Keyed) (ha : approval ∈ db.approvals) (hpending : approval.status = .PENDING)
    (htype : approval.type = .BRANCH_CLOSE) (h : CloseApproved out db approval branch adminId db') :
    QueueOk db' := by
  obtain ⟨hfound, hst, -, -, rfl⟩ := h
  obtain ⟨hb, hid⟩ := hq.keyed.findBranch_iff.mp hfound
  refine decide_queueOk hq ha hpending hb hid.symm (.inr ⟨htype, hst⟩) rfl rfl (fun _ => rfl) nofun nofun
    hk' ?_ ⟨nofun, fun _ => ⟨_, mem_updateMany_of_pos ha rfl, htype, hid.symm, rfl⟩⟩
  refine ⟨fun _ => nofun, fun ht => ?_, fun _ => nofun, fun _ _ => ?_⟩
  · cases htype.symm.trans ht
  · exact ⟨_, mem_updateMany_of_pos hb rfl, hid, rfl, rfl, rfl⟩

theorem rejectClose_queueOk {approval : AdminApproval} {branch : Branch} {adminId : ℕ} {reason : String}
    {now : ℤ} (hq : QueueOk db) (ha : approval ∈ db.approvals) (hpending : approval.status = .PENDING)
    (htype : approval.type = .BRANCH_CLOSE) (hfound : db.findBranch approval.referenceId = some branch)
    (hk' : ((db.updateBranchRow branch.id Branch.backLive).updateApproval approval.id
      (AdminApproval.decide .REJECTED (some reason) adminId now)).Keyed) :
    QueueOk ((db.updateBranchRow branch.id Branch.backLive).updateApproval approval.id
      (AdminApproval.decide .REJECTED (some reason) adminId now)) := by
  obtain ⟨hb, hid⟩ := hq.keyed.findBranch_iff.mp hfound
  have hhas := (hq.agrees approval ha).closePending htype hpending
  rw [← hid] at hhas
  exact decide_queueOk hq ha hpending hb hid.symm (.inr ⟨htype, (hq.has_iff hb).mp hhas⟩) rfl rfl
    (fun _ => rfl) nofun nofun hk' (.of_status nofun nofun) (.of_status nofun nofun)

/-- The rejection of a creation leaves the branch as it is. -/
theorem rejectCreate_queueOk {approval : AdminApproval} {adminId : ℕ} {reason : String} {now : ℤ}
    (hq : QueueOk db) (ha : approval ∈ db.approvals) (htype : approval.type = .BRANCH_CREATE)
    (hk' : (db.updateApproval approval.id
      (AdminApproval.decide .CHANGES_REQUESTED (some reason) adminId now)).Keyed) :
    QueueOk (db.updateApproval approval.id
      (AdminApproval.decide .CHANGES_REQUESTED (some reason) adminId now)) where
  keyed := hk'
  agrees r' hr' := by
    obtain ⟨r, hr, ⟨-, rfl⟩ | ⟨-, rfl⟩⟩ := mem_updateMany.mp hr'
    · exact .of_status nofun nofun
    · exact (hq.agrees r' hr).mono fun _ _ hP => hP
  answered b hb := by
    have hkeep : ∀ status, db.HasClose b.id status → (db.updateApproval approval.id
        (AdminApproval.decide .CHANGES_REQUESTED (some reason) adminId now)).HasClose b.id status := by
      rintro status ⟨r, hr, ht, href, hs⟩
      refine ⟨r, mem_updateMany_of_neg hr fun hid => ?_, ht, href, hs⟩
      rw [hq.keyed.approvalKeys.eq hr ha hid] at ht
      cases htype.symm.trans ht
    exact ⟨fun hs => hkeep _ ((hq.answered b hb).closing hs),
      fun hs => hkeep _ ((hq.answered b hb).closed hs)⟩
  unrivalled := hq.unrivalled_decide nofun

theorem updateBranchRow_queueOk {id : ℕ} {f : Branch → Branch} (hq : QueueOk db) (hk' : db'.Keyed)
    (happrovals : db'.approvals = db.approvals) (hbranches : db'.branches = (db.updateBranchRow id f).branches)
    (hf : ∀ b, (f b).id = b.id ∧ (f b).lifecycleStatus = b.lifecycleStatus ∧ (b.Closed → (f b).Closed)) :
    QueueOk db' := by
  refine hq.mapBranches hk' happrovals hbranches (fun b _ => ?_) (fun b _ => ?_)
    fun b _ hclosed => ?_ <;> split_ifs
  · exact (hf b).1
  · rfl
  · exact (hf b).2.1
  · rfl
  · exact (hf b).2.2 hclosed
  · exact hclosed

theorem patched_queueOk {r : PatchRequest} {ctx : MerchantContext} {branch : Branch}
    {main : Bool} {safe : BranchData} (hq : QueueOk db) (hadmitted : Admitted db r ctx branch) :
    QueueOk (patched db r ctx main safe) := by
  obtain ⟨hb, hid, -, hdeleted⟩ := hq.keyed.findOwned_iff.mp hadmitted.found
  have happrovals : (patched db r ctx main safe).approvals = db.approvals := by
    cases main with
    | false => rfl
    | true => rfl
  refine hq.mapBranches (patched_keyed hq.keyed) happrovals (patched_branches db r ctx main safe)
    (fun b _ => (patchRow_spec r ctx main safe b).same.id)
    (fun b _ => (patchRow_spec r ctx main safe b).same.lifecycleStatus) fun b hbm hclosed => ?_
  have hrow := patchRow_spec r ctx main safe b
  refine ⟨hrow.same.lifecycleStatus.trans hclosed.lifecycleStatus, ?_,
    hrow.same.deletedAt ▸ hclosed.deletedAt⟩
  by_cases hbid : b.id = r.branchId
  · -- the patched branch is not deleted, so it is not CLOSED
    rw [hq.keyed.branchKeys.eq hbm hb (hbid.trans hid.symm)] at hclosed
    exact absurd hclosed.lifecycleStatus (hq.owned_not_closed hb hdeleted)
  · exact (hrow.other hbid).1.trans hclosed.isActive

theorem exec_queueOk {out : Outside} {request : Request} (hq : QueueOk db)
    (h : exec out db request = .ok db') : QueueOk db' := by
  have hk' := exec_keyed hq.keyed h
  cases request with
  | createBranch adminId data suggestion =>
    obtain ⟨merchantId, created, -, ⟨-, rfl⟩ | ⟨-, comment, rfl⟩⟩ := createBranch_ok h
    · exact createBranch_queueOk hq
    · exact stageBranch_queueOk hq
  | updateBranch r =>
    obtain ⟨ctx, branch, hadmitted, ⟨main, safe, -, rfl⟩ | hstaged | rfl⟩ := updateBranch_ok h
    · exact patched_queueOk hq hadmitted
    · obtain ⟨row, comment, rfl⟩ := hstaged.rows
      exact stageEdit_queueOk hq
    · exact hq
  | cancelPendingCreate adminId branchId =>
    obtain ⟨merchantId, branch, hcancel, rfl⟩ := cancelPendingCreate_ok_iff.mp h
    exact cancelled_queueOk hq hcancel
  | requestBranchClose adminId branchId reason =>
    obtain ⟨merchantId, branch, comment, hb, hcreate, hclose, rfl⟩ := requestBranchClose_ok h
    exact requestClose_queueOk hq hb hcreate hclose hk'
  | withdrawBranchClose adminId branchId =>
    obtain ⟨merchantId, branch, hb, hclosing, rfl⟩ := withdrawBranchClose_ok h
    exact withdrawClose_queueOk hq hb hclosing hk'
  | softDeleteBranch adminId branchId =>
    obtain ⟨merchantId, branch, -, -, -, rfl⟩ := softDeleteBranch_ok h
    exact updateBranchRow_queueOk hq hk' rfl rfl fun b =>
      ⟨rfl, rfl, fun hclosed => ⟨hclosed.lifecycleStatus, rfl, rfl⟩⟩
  | approveBranchLifecycle approvalId adminId =>
    obtain ⟨done, h⟩ := exec_approve_ok h
    obtain ⟨approval, ha, ⟨-, rfl, -⟩ | ⟨hpending, ⟨htype, h⟩ | ⟨htype, h⟩⟩⟩ := approveBranchLifecycle_ok h
    · exact hq
    · obtain ⟨branch, -, ⟨-, rfl⟩ | ⟨happroved, -⟩⟩ := approveCreate_ok h
      · exact hq
      · exact approveCreate_queueOk hq hk' (hq.keyed.findApproval_iff.mp ha).1 hpending htype happroved
    · obtain ⟨branch, -, ⟨-, rfl⟩ | ⟨happroved, -⟩⟩ := approveClose_ok h
      · exact hq
      · exact approveClose_queueOk hq hk' (hq.keyed.findApproval_iff.mp ha).1 hpending htype happroved
  | rejectBranchLifecycle approvalId adminId reason =>
    obtain ⟨approval, branch, ha, hpending, hb, ⟨htype, rfl⟩ | ⟨htype, rfl⟩⟩ := rejectBranchLifecycle_ok h
    · exact rejectCreate_queueOk hq (hq.keyed.findApproval_iff.mp ha).1 htype hk'
    · exact rejectClose_queueOk hq (hq.keyed.findApproval_iff.mp ha).1 hpending htype hb hk'
  | confirmBranchLocation branchId latitude longitude =>
    obtain ⟨data, hnone, rfl⟩ := confirmBranchLocation_ok h
    refine updateBranchRow_queueOk hq hk' rfl rfl fun b => ⟨rfl, rfl, fun hclosed => ?_⟩
    refine ⟨hclosed.lifecycleStatus, ?_, hclosed.deletedAt⟩
    rw [BranchData.apply, hnone]
    exact hclosed.isActive

theorem step_queueOk {a : Outside × Request} (hq : QueueOk db) (h : step db a = some db') :
    QueueOk db' := by
  rcases step_eq_some h with h | rfl
  · exact exec_queueOk hq h
  · exact hq

theorem QueueOk.of_empty (hk : db.Keyed) (hbranches : db.branches = []) (happrovals : db.approvals = []) :
    QueueOk db where
  keyed := hk
  agrees r hr := by
    rw [happrovals] at hr
    exact absurd hr List.not_mem_nil
  answered b hb := by
    rw [hbranches] at hb
    exact absurd hb List.not_mem_nil
  unrivalled r hr := by
    rw [happrovals] at hr
    exact absurd hr List.not_mem_nil

/-! ### Branches that nobody switches off -/

/-- The requests that move a branch through its lifecycle: all but a PATCH and a deletion. -/
def Request.IsLifecycle : Request → Prop
  | .updateBranch _ => False
  | .softDeleteBranch _ _ => False
  | _ => True

/-- A branch that customers may see is on. -/
def Branch.OnWhileLive (b : Branch) : Prop :=
  b.lifecycleStatus = .LIVE ∨ b.lifecycleStatus = .PENDING_CLOSE → b.isActive = true

def OnWhileLive (db : Db) : Prop := ∀ b ∈ db.branches, b.OnWhileLive

theorem updateBranchRow_onWhileLive {id : ℕ} {f : Branch → Branch} (hi : OnWhileLive db)
    (hf : ∀ b ∈ db.branches, b.id = id → b.OnWhileLive → (f b).OnWhileLive) :
    OnWhileLive (db.updateBranchRow id f) :=
  forall_updateMany.mpr fun b hb => ⟨fun hid => hf b hb hid (hi b hb), fun _ => hi b hb⟩

theorem insertBranch_onWhileLive {row : ℕ → Branch} (hi : OnWhileLive db)
    (hrow : (row db.nextId).OnWhileLive) : OnWhileLive (db.insertBranch row) := by
  intro b hb
  rcases List.mem_append.mp hb with hb | hb
  · exact hi b hb
  · rw [List.mem_singleton.mp hb]
    exact hrow

theorem exec_onWhileLive {out : Outside} {request : Request} (hq : QueueOk db) (hi : OnWhileLive db)
    (hlifecycle : request.IsLifecycle) (h : exec out db request = .ok db') : OnWhileLive db' := by
  cases request with
  | createBranch adminId data suggestion =>
    obtain ⟨merchantId, created, -, ⟨-, rfl⟩ | ⟨-, comment, rfl⟩⟩ := createBranch_ok h
    · exact insertBranch_onWhileLive hi fun _ => rfl
    · exact insertBranch_onWhileLive hi nofun
  | updateBranch r => exact hlifecycle.elim
  | cancelPendingCreate adminId branchId =>
    obtain ⟨merchantId, branch, -, rfl⟩ := cancelPendingCreate_ok_iff.mp h
    exact fun b hb => hi b (List.mem_of_mem_filter hb)
  | requestBranchClose adminId branchId reason =>
    obtain ⟨merchantId, branch, comment, hb, hcreate, hclose, rfl⟩ := requestBranchClose_ok h
    obtain ⟨hmem, hid, -, hdeleted⟩ := hq.keyed.findOwned_iff.mp hb
    refine updateBranchRow_onWhileLive hi fun b hbm hbid hon _ => hon ?_
    rw [hq.keyed.branchKeys.eq hbm hmem (hbid.trans hid.symm)]
    have hnotClosed := hq.owned_not_closed hmem hdeleted
    cases hst : branch.lifecycleStatus with
    | LIVE => exact .inl rfl
    | PENDING_CREATE => exact absurd hst hcreate
    | PENDING_CLOSE => exact absurd hst hclose
    | CLOSED => exact absurd hst hnotClosed
  | withdrawBranchClose adminId branchId =>
    obtain ⟨merchantId, branch, hb, hclosing, rfl⟩ := withdrawBranchClose_ok h
    obtain ⟨hmem, hid, -⟩ := hq.keyed.findOwned_iff.mp hb
    refine updateBranchRow_onWhileLive hi fun b hbm hbid hon _ => hon (.inr ?_)
    rw [hq.keyed.branchKeys.eq hbm hmem (hbid.trans hid.symm)]
    exact hclosing
  | softDeleteBranch adminId branchId => exact hlifecycle.elim
  | approveBranchLifecycle approvalId adminId =>
    obtain ⟨done, h⟩ := exec_approve_ok h
    obtain ⟨approval, -, ⟨-, rfl, -⟩ | ⟨-, ⟨-, h⟩ | ⟨-, h⟩⟩⟩ := approveBranchLifecycle_ok h
    · exact hi
    · obtain ⟨branch, -, ⟨-, rfl⟩ | ⟨happroved, -⟩⟩ := approveCreate_ok h
      · exact hi
      · rw [happroved.written]
        exact updateBranchRow_onWhileLive hi fun _ _ _ _ _ => rfl
    · obtain ⟨branch, -, ⟨-, rfl⟩ | ⟨happroved, -⟩⟩ := approveClose_ok h
      · exact hi
      · rw [happroved.written]
        exact updateBranchRow_onWhileLive hi fun _ _ _ _ => nofun
  | rejectBranchLifecycle approvalId adminId reason =>
    obtain ⟨approval, branch, ha, hpending, hb, ⟨-, rfl⟩ | ⟨htype, rfl⟩⟩ := rejectBranchLifecycle_ok h
    · exact hi
    · obtain ⟨hmem, hid⟩ := hq.keyed.findBranch_iff.mp hb
      have hhas := (hq.agrees approval (hq.keyed.findApproval_iff.mp ha).1).closePending htype hpending
      rw [← hid] at hhas
      refine updateBranchRow_onWhileLive hi fun b hbm hbid hon _ => hon (.inr ?_)
      rw [hq.keyed.branchKeys.eq hbm hmem hbid]
      exact (hq.has_iff hmem).mp hhas
  | confirmBranchLocation branchId latitude longitude =>
    obtain ⟨data, hnone, rfl⟩ := confirmBranchLocation_ok h
    refine updateBranchRow_onWhileLive hi fun b _ _ hon hs => ?_
    rw [BranchData.apply, hnone]
    exact hon hs

end

/-! ### What the approval answers -/

/-- Where an approved branch is to be: LIVE and on, or CLOSED, off and deleted. -/
def AtTarget (db : Db) (approval : AdminApproval) : Prop :=
  (approval.type = .BRANCH_CREATE → db.Has approval.referenceId fun b =>
    b.lifecycleStatus = .LIVE ∧ b.isActive = true) ∧
  (approval.type = .BRANCH_CLOSE → db.Has approval.referenceId Branch.Closed)

/-- A close of the branch was asked for, and neither withdrawn nor rejected. -/
def CloseRequested (db : Db) (branchId : ℕ) : Prop :=
  db.HasClose branchId .PENDING ∨ db.HasClose branchId .APPROVED

section
variable {out : Outside} {db db' : Db} {approvalId adminId : ℕ} {done : Bool}

/-- An approval that was pending is carried out. -/
theorem approve_pending {approval : AdminApproval} (hq : QueueOk db) (ha : approval ∈ db.approvals)
    (hpending : approval.status = .PENDING)
    (h : approval.type = .BRANCH_CREATE ∧ approveCreate out db approval adminId = .ok (db', done) ∨
      approval.type = .BRANCH_CLOSE ∧ approveClose out db approval adminId = .ok (db', done)) :
    done = false ∧ AtTarget db' approval := by
  have hagrees := hq.agrees approval ha
  rcases h with ⟨htype, h⟩ | ⟨htype, h⟩
  · have hhas := hagrees.createPending htype hpending
    obtain ⟨branch, hfound, ⟨hst, -⟩ | ⟨happroved, rfl⟩⟩ := approveCreate_ok h
    · obtain ⟨hb, hid⟩ := hq.keyed.findBranch_iff.mp hfound
      rw [← hid] at hhas
      exact absurd ((hq.has_iff hb).mp hhas) hst
    · obtain ⟨hb, hid⟩ := hq.keyed.findBranch_iff.mp hfound
      obtain ⟨hfound', -, rfl⟩ := happroved
      cases hfound.symm.trans hfound'
      refine ⟨rfl, fun _ => ⟨_, mem_updateMany_of_pos hb rfl, hid, rfl, rfl⟩, fun ht => ?_⟩
      cases htype.symm.trans ht
  · have hhas := hagrees.closePending htype hpending
    obtain ⟨branch, hfound, ⟨hst, -⟩ | ⟨happroved, rfl⟩⟩ := approveClose_ok h
    · obtain ⟨hb, hid⟩ := hq.keyed.findBranch_iff.mp hfound
      rw [← hid] at hhas
      exact absurd ((hq.has_iff hb).mp hhas) hst
    · obtain ⟨hb, hid⟩ := hq.keyed.findBranch_iff.mp hfound
      obtain ⟨hfound', -, -, -, rfl⟩ := happroved
      cases hfound.symm.trans hfound'
      refine ⟨rfl, fun ht => ?_, fun _ => ⟨_, mem_updateMany_of_pos hb rfl, hid, rfl, rfl, rfl⟩⟩
      cases htype.symm.trans ht

/-- The branch of an approved creation is LIVE, unless its close was asked for. -/
theorem created_live {approval : AdminApproval} (hq : QueueOk db) (ha : approval ∈ db.approvals)
    (htype : approval.type = .BRANCH_CREATE) (happroved : approval.status = .APPROVED)
    (hno : ¬ CloseRequested db approval.referenceId) :
    ∃ b ∈ db.branches, b.id = approval.referenceId ∧ b.lifecycleStatus = .LIVE := by
  obtain ⟨b, hb, hid, hleft⟩ := (hq.agrees approval ha).createApproved htype happroved
  refine ⟨b, hb, hid, ?_⟩
  rw [← hid] at hno
  have hanswered := hq.answered b hb
  cases hst : b.lifecycleStatus with
  | LIVE => rfl
  | PENDING_CREATE => exact absurd hst hleft
  | PENDING_CLOSE => exact absurd (.inl (hanswered.closing hst)) hno
  | CLOSED => exact absurd (.inr (hanswered.closed hst)) hno

end

/-- CORRECT: in a state that branch requests have led to, approving a pending approval puts its branch
    where it is to be. Of a close that is approved already the branch is there; of a creation that is
    approved already it is too, as long as nobody has asked for its close, or switched it off or deleted
    it. -/
theorem approve_reaches_target {db₀ db db' : Db} {as : List (Outside × Request)} {out : Outside}
    {approvalId adminId : ℕ} {done : Bool} (hk : db₀.Keyed) (hbranches : db₀.branches = [])
    (happrovals : db₀.approvals = []) (hrun : run step db₀ as = some db)
    (h : approveBranchLifecycle out db approvalId adminId = .ok (db', done)) :
    ∃ approval, db.findApproval approvalId = some approval ∧
      (approval.status = .PENDING → done = false ∧ AtTarget db' approval) ∧
      (approval.status = .APPROVED → done = true ∧ db' = db ∧
        (approval.type = .BRANCH_CLOSE → AtTarget db' approval) ∧
        (approval.type = .BRANCH_CREATE → ¬ CloseRequested db approval.referenceId →
          (∀ a ∈ as, a.2.IsLifecycle) → AtTarget db' approval)) := by
  have hq₀ : QueueOk db₀ := .of_empty hk hbranches happrovals
  have hq : QueueOk db := run_invariant (fun _ _ _ hq h => step_queueOk hq h) hq₀ hrun
  obtain ⟨approval, hfound, hcases⟩ := approveBranchLifecycle_ok h
  obtain ⟨ha, -⟩ := hq.keyed.findApproval_iff.mp hfound
  refine ⟨approval, hfound, fun hpending => ?_, fun happroved => ?_⟩
  · rcases hcases with ⟨hne, -⟩ | ⟨-, h⟩
    · exact absurd hpending hne
    · exact approve_pending hq ha hpending h
  · rcases hcases with ⟨-, rfl, rfl⟩ | ⟨hpending, -⟩
    · refine ⟨rfl, rfl, fun htype => ⟨fun ht => ?_, fun _ => ?_⟩, fun htype hno hlifecycle => ?_⟩
      · cases htype.symm.trans ht
      · exact (hq.agrees approval ha).closeApproved htype happroved
      · have hon : OnWhileLive db' := by
          have hrunOn := run_invariant_along (I := fun t => QueueOk t ∧ OnWhileLive t)
            (fun _ a => a.2.IsLifecycle) (fun s a s' hs ha hstep => ?_) (along_of_forall hlifecycle db₀)
            ⟨hq₀, fun b hb => absurd (hbranches ▸ hb) List.not_mem_nil⟩ hrun
          · exact hrunOn.2
          · refine ⟨step_queueOk hs.1 hstep, ?_⟩
            rcases step_eq_some hstep with hexec | rfl
            · exact exec_onWhileLive hs.1 hs.2 ha hexec
            · exact hs.2
        obtain ⟨b, hb, hid, hlive⟩ := created_live hq ha htype happroved hno
        refine ⟨fun _ => ⟨b, hb, hid, hlive, hon b hb (.inl hlive)⟩, fun ht => ?_⟩
        cases htype.symm.trans ht
    · cases hpending.symm.trans happroved

/-- A second branch is staged, and its location confirmed. -/
def stagedSecond : List (Outside × Request) :=
  [(anywhere, .createBranch 1 highStreet none), (anywhere, .createBranch 1 highStreet none),
    (anywhere, .confirmBranchLocation 11 (.number "51.5") (.number "-0.1"))]

theorem approve_reaches_target_staged : ∃ db db' approval,
    run step (oneOwner .ACTIVE .LIVE) stagedSecond = some db ∧
    approveBranchLifecycle anywhere db 12 5 = .ok (db', false) ∧ AtTarget db' approval := by
  obtain ⟨db, db', approval, hrun, happrove, hfound, hpending⟩ : ∃ db db' approval,
      run step (oneOwner .ACTIVE .LIVE) stagedSecond = some db ∧
      approveBranchLifecycle anywhere db 12 5 = .ok (db', false) ∧
      db.findApproval 12 = some approval ∧ approval.status = .PENDING := ⟨_, _, _, rfl, rfl, rfl, rfl⟩
  obtain ⟨approval', hfound', htarget, -⟩ :=
    approve_reaches_target (oneOwner_keyed _ _) rfl rfl hrun happrove
  cases hfound.symm.trans hfound'
  exact ⟨db, db', approval, hrun, happrove, (htarget hpending).2⟩

/-- The close of the branch is asked for, and its creation approved once more: the answer is
    `approved: true`, and the branch is PENDING_CLOSE. -/
theorem approve_not_at_target : ∃ db db', run step (oneOwner .ACTIVE .LIVE)
    (stagedSecond ++ [(anywhere, .approveBranchLifecycle 12 5),
      (anywhere, .requestBranchClose 1 11 "moving")]) = some db ∧
    approveBranchLifecycle anywhere db 12 5 = .ok (db', true) ∧
      ∃ approval, db.findApproval 12 = some approval ∧ ¬ AtTarget db' approval := by
  refine ⟨_, _, rfl, rfl, _, rfl, fun htarget => ?_⟩
  obtain ⟨b, hb, hid, hlive, -⟩ := htarget.1 rfl
  rcases List.mem_cons.mp hb with rfl | hb
  · cases hid
  · rw [List.mem_singleton.mp hb] at hlive
    cases hlive

end Redeemo.BranchLifecycle
