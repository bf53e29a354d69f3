import Redeemo.Branch.AdminRoutes
import Redeemo.Branch.ReviewQueue

/-! Branches that wait, and the approvals they wait for.

    A PENDING_CREATE branch has its one open BRANCH_CREATE approval, a PENDING_CLOSE branch its one open
    BRANCH_CLOSE approval, and no other approval is open (`Corresponds`). An operation touches one branch
    and the approvals that refer to it, so it is enough to look at one id (`Corresponds.of_matchedAt`).
    Two operations can leave an approval behind: the cancellation of a creation that was sent back, and
    the deletion of a branch that waits to be closed (`Orphans`). -/

namespace Redeemo.BranchLifecycle
open Fallible Rows Runs

/-! ### The correspondence -/

/-- An open BRANCH_CREATE approval of the branch `k`: pending, or sent back. -/
def OpenCreate (k : ℕ) (r : AdminApproval) : Prop :=
  r.type = .BRANCH_CREATE ∧ (r.status = .PENDING ∨ r.status = .CHANGES_REQUESTED) ∧ r.referenceId = k

/-- An open BRANCH_CLOSE approval of the branch `k`. -/
def OpenClose (k : ℕ) (r : AdminApproval) : Prop :=
  r.type = .BRANCH_CLOSE ∧ r.status = .PENDING ∧ r.referenceId = k

def Branch.AwaitsCreate (b : Branch) : Prop := b.lifecycleStatus = .PENDING_CREATE

def Branch.AwaitsClose (b : Branch) : Prop := b.lifecycleStatus = .PENDING_CLOSE

structure Corresponds (db : Db) : Prop where
  create : ∀ r ∈ db.approvals, OpenCreate r.referenceId r → db.Has r.referenceId Branch.AwaitsCreate
  close : ∀ r ∈ db.approvals, OpenClose r.referenceId r →
    db.Has r.referenceId fun b => b.deletedAt = none ∧ b.AwaitsClose
  awaitsCreate : ∀ b ∈ db.branches, b.AwaitsCreate → ∃! r, r ∈ db.approvals ∧ OpenCreate b.id r
  awaitsClose : ∀ b ∈ db.branches, b.AwaitsClose → ∃! r, r ∈ db.approvals ∧ OpenClose b.id r

/-- The correspondence at one id. -/
structure MatchedAt (db : Db) (k : ℕ) : Prop where
  create : ∀ r ∈ db.approvals, OpenCreate k r → db.Has k Branch.AwaitsCreate
  close : ∀ r ∈ db.approvals, OpenClose k r → db.Has k fun b => b.deletedAt = none ∧ b.AwaitsClose
  awaitsCreate : db.Has k Branch.AwaitsCreate → ∃! r, r ∈ db.approvals ∧ OpenCreate k r
  awaitsClose : db.Has k Branch.AwaitsClose → ∃! r, r ∈ db.approvals ∧ OpenClose k r

theorem corresponds_iff {db : Db} : Corresponds db ↔ ∀ k, MatchedAt db k := by
  constructor
  · intro h k
    refine ⟨fun r hr hopen => ?_, fun r hr hopen => ?_, ?_, ?_⟩
    · have href : r.referenceId = k := hopen.2.2
      subst href
      exact h.create r hr hopen
    · have href : r.referenceId = k := hopen.2.2
      subst href
      exact h.close r hr hopen
    · rintro ⟨b, hb, rfl, hawaits⟩
      exact h.awaitsCreate b hb hawaits
    · rintro ⟨b, hb, rfl, hawaits⟩
      exact h.awaitsClose b hb hawaits
  · intro h
    exact ⟨fun r hr hopen => (h _).create r hr hopen, fun r hr hopen => (h _).close r hr hopen,
      fun b hb hawaits => (h _).awaitsCreate ⟨b, hb, rfl, hawaits⟩,
      fun b hb hawaits => (h _).awaitsClose ⟨b, hb, rfl, hawaits⟩⟩

section
variable {db db' : Db} {k : ℕ}

/-- What is the same at an id is matched the same. -/
theorem MatchedAt.congr (h : MatchedAt db k)
    (hhas : ∀ b, b.id = k → (b ∈ db'.branches ↔ b ∈ db.branches))
    (happrovals : ∀ r : AdminApproval, r.referenceId = k → (r ∈ db'.approvals ↔ r ∈ db.approvals)) :
    MatchedAt db' k := by
  have hkeep : ∀ P, db'.Has k P ↔ db.Has k P := by
    intro P
    refine exists_congr fun b => ?_
    constructor
    · rintro ⟨hb, hid, hP⟩
      exact ⟨(hhas b hid).mp hb, hid, hP⟩
    · rintro ⟨hb, hid, hP⟩
      exact ⟨(hhas b hid).mpr hb, hid, hP⟩
  have hcreate : ∀ r, r ∈ db'.approvals ∧ OpenCreate k r ↔ r ∈ db.approvals ∧ OpenCreate k r :=
    fun r => and_congr_left fun hopen => happrovals r hopen.2.2
  have hclose : ∀ r, r ∈ db'.approvals ∧ OpenClose k r ↔ r ∈ db.approvals ∧ OpenClose k r :=
    fun r => and_congr_left fun hopen => happrovals r hopen.2.2
  refine ⟨fun r hr hopen => ?_, fun r hr hopen => ?_, fun hp => ?_, fun hp => ?_⟩
  · exact (hkeep _).mpr (h.create r ((happrovals r hopen.2.2).mp hr) hopen)
  · exact (hkeep _).mpr (h.close r ((happrovals r hopen.2.2).mp hr) hopen)
  · exact (existsUnique_congr hcreate).mpr (h.awaitsCreate ((hkeep _).mp hp))
  · exact (existsUnique_congr hclose).mpr (h.awaitsClose ((hkeep _).mp hp))

/-- Only the branch `k` and the approvals that refer to it have changed. -/
theorem Corresponds.of_matchedAt (h : Corresponds db)
    (hbranches : ∀ b, b.id ≠ k → (b ∈ db'.branches ↔ b ∈ db.branches))
    (happrovals : ∀ r : AdminApproval, r.referenceId ≠ k → (r ∈ db'.approvals ↔ r ∈ db.approvals))
    (hk : MatchedAt db' k) : Corresponds db' := by
  refine corresponds_iff.mpr fun j => ?_
  by_cases hj : j = k
  · rw [hj]
    exact hk
  · exact (corresponds_iff.mp h j).congr (fun b hb => hbranches b (hb ▸ hj))
      fun r hr => happrovals r (hr ▸ hj)

/-- Nothing waits at the id, and nothing is open. -/
theorem MatchedAt.idle (hcreate : ∀ r ∈ db.approvals, ¬ OpenCreate k r)
    (hclose : ∀ r ∈ db.approvals, ¬ OpenClose k r) (hnoCreate : ¬ db.Has k Branch.AwaitsCreate)
    (hnoClose : ¬ db.Has k Branch.AwaitsClose) : MatchedAt db k :=
  ⟨fun r hr hopen => absurd hopen (hcreate r hr), fun r hr hopen => absurd hopen (hclose r hr),
    fun h => absurd h hnoCreate, fun h => absurd h hnoClose⟩

/-- A lookup by the id of a branch finds that branch. -/
theorem Db.Keyed.has_iff (hk : db.Keyed) {b : Branch} (hb : b ∈ db.branches) {P : Branch → Prop} :
    db.Has b.id P ↔ P b := by
  constructor
  · rintro ⟨c, hc, hid, hP⟩
    rw [← hk.branchKeys.eq hc hb hid]
    exact hP
  · intro hP
    exact ⟨b, hb, rfl, hP⟩

/-- A branch that does not wait has nothing open. -/
theorem MatchedAt.not_openCreate {b : Branch} (h : MatchedAt db b.id) (hk : db.Keyed) (hb : b ∈ db.branches)
    (hno : ¬ b.AwaitsCreate) : ∀ r ∈ db.approvals, ¬ OpenCreate b.id r :=
  fun r hr hopen => hno ((hk.has_iff hb).mp (h.create r hr hopen))

theorem MatchedAt.not_openClose {b : Branch} (h : MatchedAt db b.id) (hk : db.Keyed) (hb : b ∈ db.branches)
    (hno : ¬ b.AwaitsClose) : ∀ r ∈ db.approvals, ¬ OpenClose b.id r :=
  fun r hr hopen => hno ((hk.has_iff hb).mp (h.close r hr hopen)).2

theorem Branch.AwaitsCreate.not_awaitsClose {b : Branch} (h : b.AwaitsCreate) : ¬ b.AwaitsClose := by
  intro hclose
  cases h.symm.trans hclose

/-- An id that has not been drawn yet. -/
theorem Db.Keyed.not_open_of_fresh (hk : db.Keyed) :
    (∀ r ∈ db.approvals, ¬ OpenCreate db.nextId r) ∧ ∀ r ∈ db.approvals, ¬ OpenClose db.nextId r :=
  ⟨fun r hr hopen => (hk.referenceFresh r hr).ne hopen.2.2,
    fun r hr hopen => (hk.referenceFresh r hr).ne hopen.2.2⟩

theorem Db.Keyed.not_has_of_fresh (hk : db.Keyed) (P : Branch → Prop) : ¬ db.Has db.nextId P := by
  rintro ⟨b, hb, hid, -⟩
  exact (hk.branchFresh b hb).ne hid

/-! ### Creating -/

theorem insertBranch_corresponds {row : ℕ → Branch} (hk : db.Keyed) (h : Corresponds db)
    (hid : (row db.nextId).id = db.nextId) (hlive : (row db.nextId).lifecycleStatus = .LIVE) :
    Corresponds (db.insertBranch row) := by
  have hnone : ∀ P : Branch → Prop, ¬ P (row db.nextId) → ¬ (db.insertBranch row).Has db.nextId P := by
    rintro P hno ⟨b, hb, hbid, hP⟩
    rcases List.mem_append.mp hb with hb | hb
    · exact (hk.branchFresh b hb).ne hbid
    · rw [List.mem_singleton.mp hb] at hP
      exact hno hP
  refine h.of_matchedAt (k := db.nextId) (fun b hb => ?_) (fun r _ => Iff.rfl) (.idle ?_ ?_ ?_ ?_)
  · exact mem_concat_ne (Q := fun b => b.id ≠ db.nextId) hb (not_not.mpr hid)
  · exact hk.not_open_of_fresh.1
  · exact hk.not_open_of_fresh.2
  · exact hnone _ fun hawaits => by cases hlive.symm.trans hawaits
  · exact hnone _ fun hawaits => by cases hlive.symm.trans hawaits

theorem stageBranch_corresponds {merchantId : ℕ} {created : BranchData} {comment : String}
    (hk : db.Keyed) (h : Corresponds db)
    (hdb : db' = (db.insertBranch (createdBranch merchantId false true created)).insertApproval
      .BRANCH_CREATE db.nextId "branch" comment) : Corresponds db' := by
  have hlast : ∀ r ∈ db'.approvals, r.referenceId = db.nextId → r = ⟨db.nextId + 1, .BRANCH_CREATE,
      db.nextId, "branch", .PENDING, some comment, none, none, none, none⟩ := by
    intro r hr href
    rw [hdb] at hr
    rcases List.mem_append.mp hr with hr | hr
    · exact absurd href (hk.referenceFresh r hr).ne
    · exact List.mem_singleton.mp hr
  have hrow : ∀ P : Branch → Prop, db'.Has db.nextId P ↔
      P (createdBranch merchantId false true created db.nextId) := by
    intro P
    have hk' : db'.Keyed := by
      rw [hdb]
      exact (hk.insertBranch rfl).insertApproval (Nat.lt_succ_self _)
    refine hk'.has_iff (b := createdBranch merchantId false true created db.nextId) ?_
    rw [hdb]
    exact List.mem_append_right _ (List.mem_singleton_self _)
  refine h.of_matchedAt (k := db.nextId) (fun b hb => ?_) (fun r href => ?_) ⟨fun r hr _ => ?_,
    fun r hr hopen => ?_, fun _ => ?_, fun hawaits => ?_⟩
  · rw [hdb]
    exact mem_concat_ne (Q := fun b => b.id ≠ db.nextId) hb (not_not.mpr rfl)
  · rw [hdb]
    exact mem_concat_ne (Q := fun r => r.referenceId ≠ db.nextId) href (not_not.mpr rfl)
  · exact (hrow _).mpr rfl
  · rw [hlast r hr hopen.2.2] at hopen
    cases hopen.1
  · refine ⟨_, ⟨?_, rfl, .inl rfl, rfl⟩, fun r hr => hlast r hr.1 hr.2.2.2⟩
    rw [hdb]
    exact List.mem_append_right _ (List.mem_singleton_self _)
  · cases (hrow _).mp hawaits

theorem stageEdit_corresponds {row : ℕ → BranchPendingEdit} {comment : String} (hk : db.Keyed)
    (h : Corresponds db) : Corresponds ((db.insertPendingEdit row).insertApproval .BRANCH_IDENTITY_EDIT
      db.nextId "branch_pending_edit" comment) := by
  have hother : ∀ r ∈ ((db.insertPendingEdit row).insertApproval .BRANCH_IDENTITY_EDIT db.nextId
      "branch_pending_edit" comment).approvals, r ∈ db.approvals ∨ r.type = .BRANCH_IDENTITY_EDIT := by
    intro r hr
    rcases List.mem_append.mp hr with hr | hr
    · exact .inl hr
    · rw [List.mem_singleton.mp hr]
      exact .inr rfl
  refine h.of_matchedAt (k := db.nextId) (fun b _ => Iff.rfl) (fun r href => ?_)
    (.idle (fun r hr hopen => ?_) (fun r hr hopen => ?_) (hk.not_has_of_fresh _) (hk.not_has_of_fresh _))
  · exact mem_concat_ne (Q := fun r => r.referenceId ≠ db.nextId) href (not_not.mpr rfl)
  · rcases hother r hr with hr | htype
    · exact hk.not_open_of_fresh.1 r hr hopen
    · cases htype.symm.trans hopen.1
  · rcases hother r hr with hr | htype
    · exact hk.not_open_of_fresh.2 r hr hopen
    · cases htype.symm.trans hopen.1

/-! ### Rows that stay where they are in the lifecycle -/

theorem mapBranches_corresponds {f : Branch → Branch} (h : Corresponds db)
    (happrovals : db'.approvals = db.approvals) (hbranches : db'.branches = db.branches.map f)
    (hf : ∀ b ∈ db.branches, (f b).id = b.id ∧ (f b).lifecycleStatus = b.lifecycleStatus ∧
      (b.deletedAt = none → b.AwaitsClose → (f b).deletedAt = none)) : Corresponds db' := by
  refine ⟨fun r hr hopen => ?_, fun r hr hopen => ?_, fun b' hb' hawaits => ?_, fun b' hb' hawaits => ?_⟩
  · rw [happrovals] at hr
    obtain ⟨b, hb, hid, hawaits⟩ := h.create r hr hopen
    obtain ⟨hfid, hstatus, -⟩ := hf b hb
    exact ⟨f b, hbranches ▸ List.mem_map_of_mem hb, hfid.trans hid, hstatus.trans hawaits⟩
  · rw [happrovals] at hr
    obtain ⟨b, hb, hid, hnone, hawaits⟩ := h.close r hr hopen
    obtain ⟨hfid, hstatus, hkept⟩ := hf b hb
    exact ⟨f b, hbranches ▸ List.mem_map_of_mem hb, hfid.trans hid, hkept hnone hawaits,
      hstatus.trans hawaits⟩
  · rw [hbranches] at hb'
    obtain ⟨b, hb, rfl⟩ := List.mem_map.mp hb'
    obtain ⟨hfid, hstatus, -⟩ := hf b hb
    rw [happrovals, hfid]
    exact h.awaitsCreate b hb (hstatus.symm.trans hawaits)
  · rw [hbranches] at hb'
    obtain ⟨b, hb, rfl⟩ := List.mem_map.mp hb'
    obtain ⟨hfid, hstatus, -⟩ := hf b hb
    rw [happrovals, hfid]
    exact h.awaitsClose b hb (hstatus.symm.trans hawaits)

theorem updateRow_corresponds {id : ℕ} {f : Branch → Branch} (h : Corresponds db)
    (happrovals : db'.approvals = db.approvals) (hbranches : db'.branches = (db.updateBranchRow id f).branches)
    (hf : ∀ b ∈ db.branches, b.id = id → (f b).id = b.id ∧ (f b).lifecycleStatus = b.lifecycleStatus ∧
      (b.deletedAt = none → b.AwaitsClose → (f b).deletedAt = none)) : Corresponds db' := by
  refine mapBranches_corresponds h happrovals hbranches fun b hb => ?_
  split_ifs with hid
  · exact hf b hb hid
  · exact ⟨rfl, rfl, fun hnone _ => hnone⟩

theorem patched_corresponds {r : PatchRequest} {ctx : MerchantContext} {main : Bool} {safe : BranchData}
    (h : Corresponds db) : Corresponds (patched db r ctx main safe) := by
  have happrovals : (patched db r ctx main safe).approvals = db.approvals := by
    cases main with
    | false => rfl
    | true => rfl
  refine mapBranches_corresponds h happrovals (patched_branches db r ctx main safe) fun b _ => ?_
  have hrow := patchRow_spec r ctx main safe b
  exact ⟨hrow.same.id, hrow.same.lifecycleStatus, fun hnone _ => hrow.same.deletedAt.trans hnone⟩

/-! ### Cancelling and deleting -/

/-- A creation that was sent back is not deleted with its branch. -/
theorem cancelled_corresponds_iff {adminId branchId merchantId : ℕ} {branch : Branch} (hk : db.Keyed)
    (h : Corresponds db) (hcancel : Cancellable db adminId branchId merchantId branch) :
    Corresponds (cancelled db branchId) ↔ ¬ ∃ r ∈ db.approvals, r.type = .BRANCH_CREATE ∧
      r.referenceId = branchId ∧ r.status = .CHANGES_REQUESTED := by
  obtain ⟨hb, rfl, -⟩ := hk.findOwned_iff.mp hcancel.found
  have hgone : ∀ P, ¬ (cancelled db branch.id).Has branch.id P := by
    rintro P ⟨b, hb, hid, -⟩
    exact of_decide_eq_true (List.mem_filter.mp hb).2 hid
  constructor
  · rintro h' ⟨r, hr, htype, href, hstatus⟩
    have hkept : r ∈ (cancelled db branch.id).approvals := by
      refine List.mem_filter.mpr ⟨hr, decide_eq_true fun hp => ?_⟩
      cases hstatus.symm.trans hp.2.2
    have hhas := h'.create r hkept ⟨htype, .inr hstatus, rfl⟩
    rw [href] at hhas
    exact hgone _ hhas
  · intro hno
    refine h.of_matchedAt (k := branch.id) (fun b hne => ?_) (fun r href => ?_)
      (.idle (fun r hr hopen => ?_) (fun r hr hopen => ?_) (hgone _) (hgone _))
    · rw [cancelled, Db.deleteBranch, List.mem_filter, decide_eq_true_iff]
      exact and_iff_left hne
    · rw [cancelled, Db.deleteBranch, Db.deleteApprovals, List.mem_filter, decide_eq_true_iff]
      exact and_iff_left fun hp => href hp.2.1
    · obtain ⟨hr, hkept⟩ := List.mem_filter.mp hr
      obtain ⟨htype, hstatus | hstatus, href⟩ := hopen
      · exact of_decide_eq_true hkept ⟨htype, href, hstatus⟩
      · exact hno ⟨r, hr, htype, href, hstatus⟩
    · have hpending : branch.AwaitsCreate := hcancel.pendingCreate
      exact (corresponds_iff.mp h branch.id).not_openClose hk hb hpending.not_awaitsClose r
        (List.mem_filter.mp hr).1 hopen

/-- The close of a deleted branch stays open. -/
theorem softDeleted_corresponds_iff {branch : Branch} {now : ℤ} (hk : db.Keyed) (h : Corresponds db)
    (hb : branch ∈ db.branches) :
    Corresponds (softDeleted now db branch.id) ↔ ¬ branch.AwaitsClose := by
  constructor
  · intro h' hawaits
    obtain ⟨r, ⟨hr, htype, hstatus, href⟩, -⟩ := h.awaitsClose branch hb hawaits
    obtain ⟨b', hb', hid, hnone, -⟩ := h'.close r hr ⟨htype, hstatus, rfl⟩
    obtain ⟨b, -, ⟨-, rfl⟩ | ⟨hne, rfl⟩⟩ := mem_updateMany.mp hb'
    · cases hnone
    · exact hne (hid.trans href)
  · intro hno
    refine updateRow_corresponds h rfl rfl fun b hbm hid => ⟨rfl, rfl, fun _ hawaits => ?_⟩
    rw [hk.branchKeys.eq hbm hb hid] at hawaits
    exact absurd hawaits hno

/-! ### Closing -/

theorem requestClose_corresponds {branch : Branch} {reason comment : String} (hk : db.Keyed)
    (h : Corresponds db) (hb : branch ∈ db.branches) (hnone : branch.deletedAt = none)
    (hcreate : ¬ branch.AwaitsCreate) (hclose : ¬ branch.AwaitsClose)
    (hdb : db' = (db.updateBranchRow branch.id (Branch.askClose reason)).insertApproval .BRANCH_CLOSE
      branch.id "branch" comment) (hk' : db'.Keyed) : Corresponds db' := by
  have hasked : branch.askClose reason ∈ db'.branches := by
    rw [hdb]
    exact mem_updateMany_of_pos hb rfl
  have hnew : ∀ r ∈ db'.approvals, r ∈ db.approvals ∨ r = ⟨db.nextId, .BRANCH_CLOSE, branch.id, "branch",
      .PENDING, some comment, none, none, none, none⟩ := by
    intro r hr
    rw [hdb] at hr
    exact (List.mem_append.mp hr).imp id List.mem_singleton.mp
  have hopenCreate := (corresponds_iff.mp h branch.id).not_openCreate hk hb hcreate
  have hopenClose := (corresponds_iff.mp h branch.id).not_openClose hk hb hclose
  have hrest : ∀ b : Branch, b.id ≠ branch.id →
      (b ∈ (db.updateBranchRow branch.id (Branch.askClose reason)).branches ↔ b ∈ db.branches) := by
    intro b hne
    refine mem_updateBranchRow ?_ hne
    exact fun _ => rfl
  refine h.of_matchedAt (k := branch.id) (fun b hne => ?_) (fun r href => ?_) ⟨fun r hr hopen => ?_,
    fun r _ _ => ?_, fun hawaits => ?_, fun _ => ?_⟩
  · rw [hdb]
    exact hrest b hne
  · rw [hdb]
    exact mem_concat_ne (Q := fun r => r.referenceId ≠ branch.id) href (not_not.mpr rfl)
  · rcases hnew r hr with hr | rfl
    · exact absurd hopen (hopenCreate r hr)
    · cases hopen.1
  · exact ⟨_, hasked, rfl, hnone, rfl⟩
  · cases (hk'.has_iff hasked).mp hawaits
  · refine ⟨⟨db.nextId, .BRANCH_CLOSE, branch.id, "branch", .PENDING, some comment, none, none, none,
      none⟩, ⟨?_, rfl, rfl, rfl⟩, fun r hr => ?_⟩
    · rw [hdb]
      exact List.mem_append_right _ (List.mem_singleton_self _)
    · exact (hnew r hr.1).resolve_left fun hold => hopenClose r hold hr.2

theorem withdrawClose_corresponds {branch : Branch} (hk : db.Keyed) (h : Corresponds db)
    (hb : branch ∈ db.branches) (hawaits : branch.AwaitsClose)
    (hdb : db' = (db.updateBranchRow branch.id Branch.backLive).deleteApprovals fun r =>
      r.type = .BRANCH_CLOSE ∧ r.referenceId = branch.id ∧ r.status = .PENDING) (hk' : db'.Keyed) :
    Corresponds db' := by
  have hlive : branch.backLive ∈ db'.branches := by
    rw [hdb]
    exact mem_updateMany_of_pos hb rfl
  have hkept : ∀ r ∈ db'.approvals, r ∈ db.approvals ∧
      ¬ (r.type = .BRANCH_CLOSE ∧ r.referenceId = branch.id ∧ r.status = .PENDING) := by
    intro r hr
    rw [hdb] at hr
    exact (List.mem_filter.mp hr).imp_right of_decide_eq_true
  have hopenCreate := (corresponds_iff.mp h branch.id).not_openCreate hk hb
    fun hcreate => hcreate.not_awaitsClose hawaits
  have hrest : ∀ b : Branch, b.id ≠ branch.id →
      (b ∈ (db.updateBranchRow branch.id Branch.backLive).branches ↔ b ∈ db.branches) := by
    intro b hne
    refine mem_updateBranchRow ?_ hne
    exact fun _ => rfl
  refine h.of_matchedAt (k := branch.id) (fun b hne => ?_) (fun r href => ?_)
    (.idle (fun r hr => hopenCreate r (hkept r hr).1) (fun r hr hopen => ?_) (fun hp => ?_) fun hp => ?_)
  · rw [hdb]
    exact hrest b hne
  · rw [hdb, Db.deleteApprovals, List.mem_filter, decide_eq_true_iff]
    exact and_iff_left fun hp => href hp.2.1
  · exact (hkept r hr).2 ⟨hopen.1, hopen.2.2, hopen.2.1⟩
  · cases (hk'.has_iff hlive).mp hp
  · cases (hk'.has_iff hlive).mp hp

/-! ### Deciding -/

/-- The approval that the branch waits for. -/
def Awaited (approval : AdminApproval) (b : Branch) : Prop :=
  OpenCreate b.id approval ∧ b.AwaitsCreate ∨ OpenClose b.id approval ∧ b.AwaitsClose

/-- It is the only one that is open. -/
theorem Awaited.alone {approval : AdminApproval} {b : Branch} (hk : db.Keyed) (h : Corresponds db)
    (ha : approval ∈ db.approvals) (hb : b ∈ db.branches) (hawaited : Awaited approval b)
    {r : AdminApproval} (hr : r ∈ db.approvals) (hne : r.id ≠ approval.id) :
    ¬ OpenCreate b.id r ∧ ¬ OpenClose b.id r := by
  have hmatched := corresponds_iff.mp h b.id
  rcases hawaited with ⟨hopen, hawaits⟩ | ⟨hopen, hawaits⟩
  · refine ⟨fun hr' => hne ?_, hmatched.not_openClose hk hb hawaits.not_awaitsClose r hr⟩
    rw [(h.awaitsCreate b hb hawaits).unique ⟨hr, hr'⟩ ⟨ha, hopen⟩]
  · refine ⟨hmatched.not_openCreate hk hb (fun hc => hc.not_awaitsClose hawaits) r hr, fun hr' => hne ?_⟩
    rw [(h.awaitsClose b hb hawaits).unique ⟨hr, hr'⟩ ⟨ha, hopen⟩]

/-- The awaited approval is closed, and the branch waits no longer. -/
theorem decided_corresponds {approval : AdminApproval} {b : Branch} {f : Branch → Branch} {adminId : ℕ}
    {status : ApprovalStatus} {comment : Option String} {now : ℤ} (hk : db.Keyed) (h : Corresponds db)
    (ha : approval ∈ db.approvals) (hb : b ∈ db.branches) (hawaited : Awaited approval b)
    (hf : ∀ c, (f c).id = c.id) (hcreate : ¬ (f b).AwaitsCreate) (hclose : ¬ (f b).AwaitsClose)
    (hclosed : status ≠ .PENDING ∧ status ≠ .CHANGES_REQUESTED)
    (happrovals : db'.approvals = (db.updateApproval approval.id
      (AdminApproval.decide status comment adminId now)).approvals)
    (hbranches : db'.branches = (db.updateBranchRow b.id f).branches) (hk' : db'.Keyed) :
    Corresponds db' := by
  have href : approval.referenceId = b.id := by
    rcases hawaited with ⟨hopen, -⟩ | ⟨hopen, -⟩
    · exact hopen.2.2
    · exact hopen.2.2
  have hwritten : ∀ P, db'.Has b.id P ↔ P (f b) := by
    intro P
    have hmem : f b ∈ db'.branches := hbranches ▸ mem_updateMany_of_pos hb rfl
    rw [← hf b]
    exact hk'.has_iff hmem
  have hnone : ∀ r ∈ db'.approvals, ¬ OpenCreate b.id r ∧ ¬ OpenClose b.id r := by
    intro r' hr'
    rw [happrovals] at hr'
    obtain ⟨r, hr, ⟨-, rfl⟩ | ⟨hne, rfl⟩⟩ := mem_updateMany.mp hr'
    · refine ⟨fun hopen => ?_, fun hopen => hclosed.1 hopen.2.1⟩
      exact hopen.2.1.elim hclosed.1 hclosed.2
    · exact hawaited.alone hk h ha hb hr hne
  refine h.of_matchedAt (k := b.id) (fun c hne => ?_) (fun r hne => ?_) (.idle (fun r hr => (hnone r hr).1)
    (fun r hr => (hnone r hr).2) (mt (hwritten _).mp hcreate) (mt (hwritten _).mp hclose))
  · rw [hbranches]
    exact mem_updateBranchRow hf hne
  · rw [happrovals]
    exact mem_decided hk ha (href ▸ hne)

/-- A creation that is sent back stays open. -/
theorem rejectCreate_corresponds {approval : AdminApproval} {adminId : ℕ} {reason : String} {now : ℤ}
    (hk : db.Keyed) (h : Corresponds db) (ha : approval ∈ db.approvals) (htype : approval.type = .BRANCH_CREATE)
    (hpending : approval.status = .PENDING) : Corresponds (db.updateApproval approval.id
      (AdminApproval.decide .CHANGES_REQUESTED (some reason) adminId now)) := by
  have hmatched := corresponds_iff.mp h approval.referenceId
  have hopen : OpenCreate approval.referenceId approval := ⟨htype, .inl hpending, rfl⟩
  obtain ⟨b, hb, hid, hawaits⟩ := h.create approval ha hopen
  have hrows : ∀ r' ∈ (db.updateApproval approval.id
      (AdminApproval.decide .CHANGES_REQUESTED (some reason) adminId now)).approvals,
      r' = approval.decide .CHANGES_REQUESTED (some reason) adminId now ∨
        r' ∈ db.approvals ∧ r'.id ≠ approval.id := by
    intro r' hr'
    obtain ⟨r, hr, ⟨hrid, rfl⟩ | ⟨hne, rfl⟩⟩ := mem_updateMany.mp hr'
    · rw [hk.approvalKeys.eq hr ha hrid]
      exact .inl rfl
    · exact .inr ⟨hr, hne⟩
  refine h.of_matchedAt (k := approval.referenceId) (fun c _ => Iff.rfl) (fun r hne => mem_decided hk ha hne)
    ⟨fun r _ _ => ⟨b, hb, hid, hawaits⟩, fun r' hr' hclose => ?_, fun _ => ?_, fun hclosing => ?_⟩
  · rcases hrows r' hr' with rfl | ⟨hr, -⟩
    · cases htype.symm.trans hclose.1
    · exact hmatched.close r' hr hclose
  · refine ⟨_, ⟨mem_updateMany_of_pos ha rfl, htype, .inr rfl, rfl⟩, fun r' hr' => ?_⟩
    rcases hrows r' hr'.1 with heq | ⟨hr, hne⟩
    · exact heq
    · exact absurd (congrArg _ ((hmatched.awaitsCreate ⟨b, hb, hid, hawaits⟩).unique ⟨hr, hr'.2⟩ ⟨ha, hopen⟩))
        hne
  · have hclosing' : db.Has b.id Branch.AwaitsClose := hid ▸ hclosing
    exact absurd ((hk.has_iff hb).mp hclosing') hawaits.not_awaitsClose

/-! ### The operations -/

/-- Cancels a creation that was sent back, or deletes a branch that waits to be closed. -/
def Orphans (db : Db) : Operation → Prop
  | .request (.cancelPendingCreate adminId branchId) =>
    (∃ merchantId branch, Cancellable db adminId branchId merchantId branch) ∧
      ∃ r ∈ db.approvals, r.type = .BRANCH_CREATE ∧ r.referenceId = branchId ∧
        r.status = .CHANGES_REQUESTED
  | .request (.softDeleteBranch adminId branchId) =>
    ∃ merchantId branch, resolveAdminMerchant db.accounts adminId = .ok merchantId ∧
      Deletable db merchantId branchId branch ∧ branch.AwaitsClose
  | .adminDeleteBranch adminRole branchId =>
    ∃ merchantId branch, resolveTargetBranch db adminRole branchId = .ok merchantId ∧
      Deletable db merchantId branchId branch ∧ branch.AwaitsClose
  | _ => False

/-- What orphans an approval is let through. -/
theorem Orphans.ok {out : Outside} {operation : Operation} (h : Orphans db operation) :
    ∃ db', perform out db operation = .ok db' := by
  cases operation with
  | request r =>
    cases r with
    | cancelPendingCreate adminId branchId =>
      obtain ⟨⟨merchantId, branch, hcancel⟩, -⟩ := h
      exact ⟨_, cancelPendingCreate_ok_iff.mpr ⟨merchantId, branch, hcancel, rfl⟩⟩
    | softDeleteBranch adminId branchId =>
      obtain ⟨merchantId, branch, howner, hdeletable, -⟩ := h
      exact ⟨_, softDeleteBranch_ok_iff.mpr ⟨merchantId, branch, howner, hdeletable, rfl⟩⟩
    | _ => exact h.elim
  | adminDeleteBranch adminRole branchId =>
    obtain ⟨merchantId, branch, htarget, hdeletable, -⟩ := h
    exact ⟨_, adminDeleteBranch_ok_iff.mpr ⟨merchantId, branch, htarget, hdeletable, rfl⟩⟩
  | _ => exact h.elim

/-- A deletion orphans an approval exactly if its branch waits to be closed. -/
theorem deletion_corresponds_iff {Q : ℕ → Prop} {merchantId branchId : ℕ} {branch : Branch} {now : ℤ}
    (hk : db.Keyed) (h : Corresponds db) (hq : Q merchantId) (hdeletable : Deletable db merchantId branchId branch) :
    Corresponds (softDeleted now db branchId) ↔
      ¬ ∃ merchantId branch, Q merchantId ∧ Deletable db merchantId branchId branch ∧ branch.AwaitsClose := by
  obtain ⟨hb, rfl, -⟩ := hk.findOwned_iff.mp hdeletable.found
  rw [softDeleted_corresponds_iff hk h hb]
  refine not_congr ⟨fun hawaits => ⟨merchantId, branch, hq, hdeletable, hawaits⟩, ?_⟩
  rintro ⟨otherId, other, -, hother, hawaits⟩
  obtain ⟨hmem, hid, -⟩ := hk.findOwned_iff.mp hother.found
  rw [← hk.branchKeys.eq hmem hb hid]
  exact hawaits

theorem approve_corresponds {out : Outside} {approvalId adminId : ℕ} (hk : db.Keyed) (h : Corresponds db)
    (hok : exec out db (.approveBranchLifecycle approvalId adminId) = .ok db') : Corresponds db' := by
  have hk' := exec_keyed hk hok
  obtain ⟨done, hok⟩ := exec_approve_ok hok
  obtain ⟨approval, ha, ⟨-, rfl, -⟩ | ⟨hpending, ⟨htype, hok⟩ | ⟨htype, hok⟩⟩⟩ := approveBranchLifecycle_ok hok
  · exact h
  · obtain ⟨branch, -, ⟨-, rfl⟩ | ⟨⟨hfound, hawaits, rfl⟩, -⟩⟩ := approveCreate_ok hok
    · exact h
    · obtain ⟨hb, hid⟩ := hk.findBranch_iff.mp hfound
      refine decided_corresponds (f := Branch.goLive) hk h (hk.findApproval_iff.mp ha).1 hb
        (.inl ⟨⟨htype, .inl hpending, hid.symm⟩, hawaits⟩) (fun _ => rfl) (fun hp => ?_) (fun hp => ?_)
        ⟨by decide, by decide⟩ rfl rfl hk'
      · cases hp
      · cases hp
  · obtain ⟨branch, -, ⟨-, rfl⟩ | ⟨⟨hfound, hawaits, -, -, rfl⟩, -⟩⟩ := approveClose_ok hok
    · exact h
    · obtain ⟨hb, hid⟩ := hk.findBranch_iff.mp hfound
      refine decided_corresponds (f := Branch.close out.now) hk h (hk.findApproval_iff.mp ha).1 hb
        (.inr ⟨⟨htype, hpending, hid.symm⟩, hawaits⟩) (fun _ => rfl) (fun hp => ?_) (fun hp => ?_)
        ⟨by decide, by decide⟩ rfl rfl hk'
      · cases hp
      · cases hp

theorem reject_corresponds {out : Outside} {approvalId adminId : ℕ} {reason : String} (hk : db.Keyed)
    (h : Corresponds db) (hok : exec out db (.rejectBranchLifecycle approvalId adminId reason) = .ok db') :
    Corresponds db' := by
  have hk' := exec_keyed hk hok
  obtain ⟨approval, branch, ha, hpending, hfound, ⟨htype, rfl⟩ | ⟨htype, rfl⟩⟩ := rejectBranchLifecycle_ok hok
  · exact rejectCreate_corresponds hk h (hk.findApproval_iff.mp ha).1 htype hpending
  · obtain ⟨hb, hid⟩ := hk.findBranch_iff.mp hfound
    have hopen : OpenClose approval.referenceId approval := ⟨htype, hpending, rfl⟩
    have hclose := h.close approval (hk.findApproval_iff.mp ha).1 hopen
    rw [← hid] at hclose hopen
    refine decided_corresponds (f := Branch.backLive) hk h (hk.findApproval_iff.mp ha).1 hb
      (.inr ⟨hopen, ((hk.has_iff hb).mp hclose).2⟩) (fun _ => rfl) (fun hp => ?_) (fun hp => ?_)
      ⟨by decide, by decide⟩ rfl rfl hk'
    · cases hp
    · cases hp

theorem exec_corresponds_iff {out : Outside} {request : Request} (hk : db.Keyed) (h : Corresponds db)
    (hok : exec out db request = .ok db') : Corresponds db' ↔ ¬ Orphans db (.request request) := by
  have hk' := exec_keyed hk hok
  cases request with
  | createBranch adminId data suggestion =>
    refine iff_of_true ?_ id
    obtain ⟨merchantId, created, -, ⟨-, rfl⟩ | ⟨-, comment, rfl⟩⟩ := createBranch_ok hok
    · exact insertBranch_corresponds hk h rfl rfl
    · exact stageBranch_corresponds hk h rfl
  | updateBranch r =>
    refine iff_of_true ?_ id
    obtain ⟨ctx, branch, hadmitted, ⟨main, safe, -, rfl⟩ | hstaged | rfl⟩ := updateBranch_ok hok
    · exact patched_corresponds h
    · obtain ⟨row, comment, rfl⟩ := hstaged.rows
      exact stageEdit_corresponds hk h
    · exact h
  | cancelPendingCreate adminId branchId =>
    obtain ⟨merchantId, branch, hcancel, rfl⟩ := cancelPendingCreate_ok_iff.mp hok
    rw [cancelled_corresponds_iff hk h hcancel]
    exact not_congr (and_iff_right ⟨merchantId, branch, hcancel⟩).symm
  | requestBranchClose adminId branchId reason =>
    refine iff_of_true ?_ id
    obtain ⟨merchantId, branch, comment, hfound, hcreate, hclose, rfl⟩ := requestBranchClose_ok hok
    obtain ⟨hb, rfl, -, hnone⟩ := hk.findOwned_iff.mp hfound
    exact requestClose_corresponds hk h hb hnone hcreate hclose rfl hk'
  | withdrawBranchClose adminId branchId =>
    refine iff_of_true ?_ id
    obtain ⟨merchantId, branch, hfound, hawaits, rfl⟩ := withdrawBranchClose_ok hok
    obtain ⟨hb, rfl, -⟩ := hk.findOwned_iff.mp hfound
    exact withdrawClose_corresponds hk h hb hawaits rfl hk'
  | softDeleteBranch adminId branchId =>
    obtain ⟨merchantId, branch, howner, hdeletable, rfl⟩ := softDeleteBranch_ok_iff.mp hok
    exact deletion_corresponds_iff (Q := fun m => resolveAdminMerchant db.accounts adminId = .ok m) hk h howner
      hdeletable
  | approveBranchLifecycle approvalId adminId => exact iff_of_true (approve_corresponds hk h hok) id
  | rejectBranchLifecycle approvalId adminId reason => exact iff_of_true (reject_corresponds hk h hok) id
  | confirmBranchLocation branchId latitude longitude =>
    refine iff_of_true ?_ id
    obtain ⟨data, -, rfl⟩ := confirmBranchLocation_ok hok
    exact updateRow_corresponds h rfl rfl fun b _ _ => ⟨rfl, rfl, fun hnone _ => hnone⟩

theorem perform_corresponds_iff {out : Outside} {operation : Operation} (hk : db.Keyed) (h : Corresponds db)
    (hok : perform out db operation = .ok db') : Corresponds db' ↔ ¬ Orphans db operation := by
  cases operation with
  | request r => exact exec_corresponds_iff hk h hok
  | adminCreateBranch adminRole merchantId data =>
    refine iff_of_true ?_ id
    obtain ⟨created, rfl⟩ := adminCreateBranch_ok hok
    exact insertBranch_corresponds hk h rfl rfl
  | adminUpdateBranch adminRole branchId data =>
    refine iff_of_true ?_ id
    obtain ⟨merchantId, branch, -, rfl | rfl⟩ := adminUpdateBranch_ok hok
    · exact h
    · exact updateRow_corresponds h rfl rfl fun b _ _ => ⟨rfl, rfl, fun hnone _ => hnone⟩
  | adminDeleteBranch adminRole branchId =>
    obtain ⟨merchantId, branch, htarget, hdeletable, rfl⟩ := adminDeleteBranch_ok_iff.mp hok
    exact deletion_corresponds_iff (Q := fun m => resolveTargetBranch db adminRole branchId = .ok m) hk h
      htarget hdeletable

theorem operate_corresponds_iff {a : Outside × Operation} (hk : db.Keyed) (h : Corresponds db)
    (hs : operate db a = some db') : Corresponds db' ↔ ¬ Orphans db a.2 := by
  rcases operate_eq_some hs with hok | ⟨⟨e, herror⟩, rfl⟩
  · exact perform_corresponds_iff hk h hok
  · refine iff_of_true h fun horphans => ?_
    obtain ⟨t, ht⟩ := horphans.ok
    cases ht.symm.trans herror

/-- CORRECT: the branches that wait and the open approvals correspond throughout a run exactly if no
    operation of the run orphans an approval. -/
theorem corresponds_throughout_iff {as : List (Outside × Operation)} (hk : db.Keyed) (h : Corresponds db) :
    Throughout operate Corresponds db as ↔ Along operate (fun s a => ¬ Orphans s a.2) db as :=
  throughout_iff_along operate_total (fun _ _ _ hs hstep => operate_keyed hs hstep)
    (fun _ _ _ hs hi hstep => operate_corresponds_iff hs hi hstep) hk h

end

theorem oneOwner_corresponds (status : MerchantStatus) (onboardingStep : OnboardingStep) :
    Corresponds (oneOwner status onboardingStep) :=
  ⟨List.forall_mem_nil _, List.forall_mem_nil _, List.forall_mem_nil _, List.forall_mem_nil _⟩

/-- The creation of a second branch is sent back. -/
def sentBack : List (Outside × Operation) :=
  [(anywhere, .request (.createBranch 1 highStreet none)),
    (anywhere, .request (.createBranch 1 highStreet none)),
    (anywhere, .request (.rejectBranchLifecycle 12 7 "photos"))]

theorem sentBack_corresponds :
    Throughout operate Corresponds (oneOwner .REGISTERED .BRANCH_ADDED) sentBack := by
  refine (corresponds_throughout_iff (oneOwner_keyed .REGISTERED .BRANCH_ADDED)
    (oneOwner_corresponds .REGISTERED .BRANCH_ADDED)).mpr (along_iff.mpr fun xs a ys s has _ => ?_)
  have ha : a ∈ sentBack := has ▸ List.mem_append_right _ (List.mem_cons_self ..)
  simp only [sentBack, List.mem_cons, List.not_mem_nil, or_false] at ha
  rcases ha with rfl | rfl | rfl <;> exact id

/-- Its branch is then cancelled, and the approval stays open. -/
theorem sentBack_orphaned : ¬ Throughout operate Corresponds (oneOwner .REGISTERED .BRANCH_ADDED)
    (sentBack ++ [(anywhere, .request (.cancelPendingCreate 1 11))]) := by
  have horphan : (run operate (oneOwner .REGISTERED .BRANCH_ADDED)
      (sentBack ++ [(anywhere, .request (.cancelPendingCreate 1 11))])).map (fun s =>
        decide (∃ r ∈ s.approvals, (r.type = .BRANCH_CREATE ∧ r.status = .CHANGES_REQUESTED) ∧
          ∀ b ∈ s.branches, b.id ≠ r.referenceId)) = some true := by decide +kernel
  obtain ⟨t, ht, hr⟩ := Option.map_eq_some_iff.mp horphan
  obtain ⟨r, hr, ⟨htype, hstatus⟩, hgone⟩ := of_decide_eq_true hr
  intro h
  have hcorr : Corresponds t := h _ [] t (List.append_nil _).symm ht
  obtain ⟨b, hb, hid, -⟩ := hcorr.create r hr ⟨htype, .inr hstatus, rfl⟩
  exact hgone b hb hid

end Redeemo.BranchLifecycle
