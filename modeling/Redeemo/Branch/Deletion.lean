import Redeemo.Branch.AdminRoutes

/-! What stays of a deleted branch.

    Deletion sets `deletedAt` and switches the branch off; `lifecycleStatus` is another axis, and keeps
    what it was. Requests look for branches that are not deleted, and so leave the deleted ones alone. The
    admin's decisions do not look: an approval that was staged before the deletion can still be decided
    (`DecidesDeleted`). -/

namespace Redeemo.BranchLifecycle
open Fallible Rows Runs

def Branch.Deleted (b : Branch) : Prop := b.deletedAt.isSome = true

instance : DecidablePred Branch.Deleted := fun b => inferInstanceAs (Decidable (b.deletedAt.isSome = true))

/-- A deleted branch is off. -/
def Branch.Off (b : Branch) : Prop := b.Deleted → b.isActive = false

/-- The creation of a deleted branch is approved, or its close rejected. -/
def DecidesDeleted (db : Db) : Operation → Prop
  | .request (.approveBranchLifecycle approvalId _) => ∃ r b, db.findApproval approvalId = some r ∧
      r.type = .BRANCH_CREATE ∧ db.findBranch r.referenceId = some b ∧ b.Deleted
  | .request (.rejectBranchLifecycle approvalId _ _) => ∃ r b, db.findApproval approvalId = some r ∧
      r.type = .BRANCH_CLOSE ∧ db.findBranch r.referenceId = some b ∧ b.Deleted
  | _ => False

/-! ### What becomes of a row -/

/-- `b'` is what has become of `b`: it stays deleted and off, and is not moved to LIVE. -/
structure Branch.Rests (b b' : Branch) : Prop where
  off : b.Off → b'.Off
  deleted : b.Deleted → b'.Deleted
  notLive : b.Deleted → b'.lifecycleStatus = .LIVE → b.lifecycleStatus = .LIVE

namespace Branch.Rests
variable {b b' : Branch}

theorem of_same (hdeleted : b'.deletedAt = b.deletedAt) (hactive : b'.isActive = b.isActive)
    (hstatus : b'.lifecycleStatus = b.lifecycleStatus) : b.Rests b' := by
  have hiff : b'.Deleted ↔ b.Deleted := by rw [Deleted, Deleted, hdeleted]
  refine ⟨fun hoff h => ?_, hiff.mpr, fun _ h => hstatus.symm.trans h⟩
  rw [hactive]
  exact hoff (hiff.mp h)

theorem of_undeleted (hb : b.deletedAt = none) (hb' : b'.deletedAt = none) : b.Rests b' := by
  have hno : ∀ c : Branch, c.deletedAt = none → ¬ c.Deleted := by
    intro c hc
    simp [Deleted, hc]
  exact ⟨fun _ h => absurd h (hno b' hb'), fun h => absurd h (hno b hb), fun h => absurd h (hno b hb)⟩

theorem of_deleted (hdeleted : b'.Deleted) (hactive : b'.isActive = false)
    (hstatus : b'.lifecycleStatus = .LIVE → b.lifecycleStatus = .LIVE) : b.Rests b' :=
  ⟨fun _ _ => hactive, fun _ => hdeleted, fun _ => hstatus⟩

end Branch.Rests

/-- Every row is new, or has become of an old one. -/
structure Db.Descends (db db' : Db) : Prop where
  nextId : db.nextId ≤ db'.nextId
  rows : ∀ b' ∈ db'.branches, b'.id = db.nextId ∧ b'.deletedAt = none ∨
    ∃ b ∈ db.branches, b'.id = b.id ∧ b.Rests b'

namespace Db.Descends
variable {db db' : Db}

theorem of_subset (hid : db.nextId ≤ db'.nextId) (hsub : ∀ b ∈ db'.branches, b ∈ db.branches) :
    db.Descends db' :=
  ⟨hid, fun b hb => .inr ⟨b, hsub b hb, rfl, .of_same rfl rfl rfl⟩⟩

theorem insertBranch {row : ℕ → Branch} (hid : (row db.nextId).id = db.nextId)
    (hnew : (row db.nextId).deletedAt = none) : db.Descends (db.insertBranch row) := by
  refine ⟨Nat.le_succ _, fun b' hb' => ?_⟩
  rcases List.mem_append.mp hb' with hb' | hb'
  · exact .inr ⟨b', hb', rfl, .of_same rfl rfl rfl⟩
  · rw [List.mem_singleton.mp hb']
    exact .inl ⟨hid, hnew⟩

theorem map {f : Branch → Branch} (hid : db.nextId ≤ db'.nextId) (hbranches : db'.branches = db.branches.map f)
    (hf : ∀ b ∈ db.branches, (f b).id = b.id ∧ b.Rests (f b)) : db.Descends db' := by
  refine ⟨hid, fun b' hb' => ?_⟩
  rw [hbranches] at hb'
  obtain ⟨b, hb, rfl⟩ := List.mem_map.mp hb'
  exact .inr ⟨b, hb, hf b hb⟩

/-- One row is written. -/
theorem updateRow {id : ℕ} {f : Branch → Branch} (hid : db.nextId ≤ db'.nextId)
    (hbranches : db'.branches = (db.updateBranchRow id f).branches)
    (hf : ∀ b ∈ db.branches, b.id = id → (f b).id = b.id ∧ b.Rests (f b)) : db.Descends db' := by
  refine map hid hbranches fun b hb => ?_
  split_ifs with h
  · exact hf b hb h
  · exact ⟨rfl, .of_same rfl rfl rfl⟩

/-- The row that is written was not deleted, and is not afterwards. -/
theorem updateUndeleted {branch : Branch} {f : Branch → Branch} (hk : db.Keyed) (hb : branch ∈ db.branches)
    (hnone : branch.deletedAt = none) (hid : db.nextId ≤ db'.nextId)
    (hbranches : db'.branches = (db.updateBranchRow branch.id f).branches)
    (hf : ∀ c, (f c).id = c.id ∧ (f c).deletedAt = c.deletedAt) : db.Descends db' := by
  refine updateRow hid hbranches fun c hc hcid => ⟨(hf c).1, ?_⟩
  rw [hk.branchKeys.eq hc hb hcid]
  exact .of_undeleted hnone ((hf branch).2.trans hnone)

end Db.Descends

/-! ### The operations -/

section
variable {out : Outside} {db db' : Db}

theorem patched_descends {r : PatchRequest} {ctx : MerchantContext} {branch : Branch} {main : Bool}
    {safe : BranchData} (hk : db.Keyed) (hadmitted : Admitted db r ctx branch) :
    db.Descends (patched db r ctx main safe) := by
  obtain ⟨hb, hid, -, hnone⟩ := hk.findOwned_iff.mp hadmitted.found
  have hnext : db.nextId ≤ (patched db r ctx main safe).nextId := by
    cases main with
    | false => exact le_rfl
    | true => exact le_rfl
  refine .map hnext (patched_branches db r ctx main safe) fun b hbm => ?_
  have hrow := patchRow_spec r ctx main safe b
  refine ⟨hrow.same.id, ?_⟩
  by_cases hbid : b.id = r.branchId
  · rw [← hk.branchKeys.eq hbm hb (hbid.trans hid.symm)] at hnone
    exact .of_undeleted hnone (hrow.same.deletedAt.trans hnone)
  · exact .of_same hrow.same.deletedAt (hrow.other hbid).1 hrow.same.lifecycleStatus

theorem softDeleted_descends (now : ℤ) (branchId : ℕ) :
    db.Descends (softDeleted now db branchId) := by
  refine .updateRow le_rfl rfl fun b _ _ => ⟨rfl, .of_deleted rfl rfl ?_⟩
  exact fun hlive => hlive

theorem approveBranchLifecycle_descends {approvalId adminId : ℕ} {done : Bool} (hk : db.Keyed)
    (hno : ¬ DecidesDeleted db (.request (.approveBranchLifecycle approvalId adminId)))
    (h : approveBranchLifecycle out db approvalId adminId = .ok (db', done)) : db.Descends db' := by
  obtain ⟨approval, ha, ⟨-, rfl, -⟩ | ⟨-, ⟨htype, h⟩ | ⟨-, h⟩⟩⟩ := approveBranchLifecycle_ok h
  · exact .of_subset le_rfl fun _ hb => hb
  · obtain ⟨branch, -, ⟨-, rfl⟩ | ⟨happroved, -⟩⟩ := approveCreate_ok h
    · exact .of_subset le_rfl fun _ hb => hb
    · have hnone : branch.deletedAt = none := by
        rw [← Option.not_isSome_iff_eq_none]
        exact fun hdeleted => hno ⟨approval, branch, ha, htype, happroved.found, hdeleted⟩
      rw [happroved.written]
      exact .updateUndeleted hk (hk.findBranch_iff.mp happroved.found).1 hnone le_rfl rfl fun _ => ⟨rfl, rfl⟩
  · obtain ⟨branch, -, ⟨-, rfl⟩ | ⟨happroved, -⟩⟩ := approveClose_ok h
    · exact .of_subset le_rfl fun _ hb => hb
    · rw [happroved.written]
      refine .updateRow le_rfl rfl fun b _ _ => ⟨rfl, .of_deleted rfl rfl ?_⟩
      exact fun hlive => by cases hlive

theorem rejectBranchLifecycle_descends {approvalId adminId : ℕ} {reason : String} (hk : db.Keyed)
    (hno : ¬ DecidesDeleted db (.request (.rejectBranchLifecycle approvalId adminId reason)))
    (h : exec out db (.rejectBranchLifecycle approvalId adminId reason) = .ok db') : db.Descends db' := by
  obtain ⟨approval, branch, ha, -, hb, ⟨-, rfl⟩ | ⟨htype, rfl⟩⟩ := rejectBranchLifecycle_ok h
  · exact .of_subset le_rfl fun _ hb => hb
  · have hnone : branch.deletedAt = none := by
      rw [← Option.not_isSome_iff_eq_none]
      exact fun hdeleted => hno ⟨approval, branch, ha, htype, hb, hdeleted⟩
    exact .updateUndeleted hk (hk.findBranch_iff.mp hb).1 hnone le_rfl rfl fun _ => ⟨rfl, rfl⟩

theorem exec_descends {request : Request} (hk : db.Keyed) (hno : ¬ DecidesDeleted db (.request request))
    (h : exec out db request = .ok db') : db.Descends db' := by
  cases request with
  | createBranch adminId data suggestion =>
    obtain ⟨merchantId, created, -, ⟨-, rfl⟩ | ⟨-, comment, rfl⟩⟩ := createBranch_ok h
    · exact .insertBranch rfl rfl
    · have hnew : db.Descends (db.insertBranch (createdBranch merchantId false true created)) :=
        .insertBranch rfl rfl
      exact ⟨hnew.nextId.trans (Nat.le_succ _), hnew.rows⟩
  | updateBranch r =>
    obtain ⟨ctx, branch, hadmitted, ⟨main, safe, -, rfl⟩ | hstaged | rfl⟩ := updateBranch_ok h
    · exact patched_descends hk hadmitted
    · obtain ⟨row, comment, rfl⟩ := hstaged.rows
      exact .of_subset ((Nat.le_succ _).trans (Nat.le_succ _)) fun _ hb => hb
    · exact .of_subset le_rfl fun _ hb => hb
  | cancelPendingCreate adminId branchId =>
    obtain ⟨merchantId, branch, -, rfl⟩ := cancelPendingCreate_ok_iff.mp h
    exact .of_subset le_rfl fun b hb => (List.mem_filter.mp hb).1
  | requestBranchClose adminId branchId reason =>
    obtain ⟨merchantId, branch, comment, hb, -, -, rfl⟩ := requestBranchClose_ok h
    obtain ⟨hmem, rfl, -, hnone⟩ := hk.findOwned_iff.mp hb
    exact .updateUndeleted hk hmem hnone (Nat.le_succ _) rfl fun _ => ⟨rfl, rfl⟩
  | withdrawBranchClose adminId branchId =>
    obtain ⟨merchantId, branch, hb, -, rfl⟩ := withdrawBranchClose_ok h
    obtain ⟨hmem, rfl, -, hnone⟩ := hk.findOwned_iff.mp hb
    exact .updateUndeleted hk hmem hnone le_rfl rfl fun _ => ⟨rfl, rfl⟩
  | softDeleteBranch adminId branchId =>
    obtain ⟨merchantId, branch, -, -, -, rfl⟩ := softDeleteBranch_ok h
    exact softDeleted_descends out.now branchId
  | approveBranchLifecycle approvalId adminId =>
    obtain ⟨done, h⟩ := exec_approve_ok h
    exact approveBranchLifecycle_descends hk hno h
  | rejectBranchLifecycle approvalId adminId reason => exact rejectBranchLifecycle_descends hk hno h
  | confirmBranchLocation branchId latitude longitude =>
    obtain ⟨data, hdata, rfl⟩ := confirmBranchLocation_ok h
    refine .updateRow le_rfl rfl fun b _ _ => ⟨rfl, .of_same rfl ?_ rfl⟩
    rw [BranchData.apply, hdata]
    rfl

theorem perform_descends {operation : Operation} (hk : db.Keyed) (hno : ¬ DecidesDeleted db operation)
    (h : perform out db operation = .ok db') : db.Descends db' := by
  cases operation with
  | request r => exact exec_descends hk hno h
  | adminCreateBranch adminRole merchantId data =>
    obtain ⟨created, rfl⟩ := adminCreateBranch_ok h
    exact .insertBranch rfl rfl
  | adminUpdateBranch adminRole branchId data =>
    obtain ⟨merchantId, branch, hb, rfl | rfl⟩ := adminUpdateBranch_ok h
    · exact .of_subset le_rfl fun _ hb => hb
    · obtain ⟨hmem, rfl, -, hnone⟩ := hk.findOwned_iff.mp hb
      exact .updateUndeleted hk hmem hnone le_rfl rfl fun _ => ⟨rfl, rfl⟩
  | adminDeleteBranch adminRole branchId =>
    obtain ⟨merchantId, branch, -, -, rfl⟩ := adminDeleteBranch_ok_iff.mp h
    exact softDeleted_descends out.now branchId

theorem operate_descends {a : Outside × Operation} (hk : db.Keyed) (hno : ¬ DecidesDeleted db a.2)
    (h : operate db a = some db') : db.Descends db' := by
  rcases operate_eq_some h with h | ⟨-, rfl⟩
  · exact perform_descends hk hno h
  · exact .of_subset le_rfl fun _ hb => hb

end

/-! ### Runs -/

/-- Every deleted branch is off. -/
structure AllOff (db : Db) : Prop where
  keyed : db.Keyed
  off : ∀ b ∈ db.branches, b.Off

theorem AllOff.operate {db db' : Db} {a : Outside × Operation} (hoff : AllOff db)
    (hno : ¬ DecidesDeleted db a.2) (h : operate db a = some db') : AllOff db' := by
  refine ⟨operate_keyed hoff.keyed h, fun b' hb' => ?_⟩
  rcases (operate_descends hoff.keyed hno h).rows b' hb' with ⟨-, hnone⟩ | ⟨b, hb, -, hrests⟩
  · intro hdeleted
    simp [Branch.Deleted, hnone] at hdeleted
  · exact hrests.off (hoff.off b hb)

/-- The deleted branch `b` is at rest: no later row has its id, but those that have become of it. -/
structure AtRest (b : Branch) (db : Db) : Prop where
  keyed : db.Keyed
  old : b.id < db.nextId
  rests : ∀ c ∈ db.branches, c.id = b.id →
    c.Deleted ∧ c.isActive = false ∧ (c.lifecycleStatus = .LIVE → b.lifecycleStatus = .LIVE)

theorem AllOff.atRest {db : Db} {b : Branch} (hoff : AllOff db) (hb : b ∈ db.branches)
    (hdeleted : b.Deleted) : AtRest b db := by
  refine ⟨hoff.keyed, hoff.keyed.branchFresh b hb, fun c hc hid => ?_⟩
  rw [hoff.keyed.branchKeys.eq hc hb hid]
  exact ⟨hdeleted, hoff.off b hb hdeleted, id⟩

theorem AtRest.operate {db db' : Db} {b : Branch} {a : Outside × Operation} (hrest : AtRest b db)
    (hno : ¬ DecidesDeleted db a.2) (h : operate db a = some db') : AtRest b db' := by
  have hdesc := operate_descends hrest.keyed hno h
  refine ⟨operate_keyed hrest.keyed h, hrest.old.trans_le hdesc.nextId, fun c' hc' hid => ?_⟩
  rcases hdesc.rows c' hc' with ⟨hnew, -⟩ | ⟨c, hc, hcid, hrests⟩
  · exact absurd (hid.symm.trans hnew) hrest.old.ne
  · obtain ⟨hdeleted, hactive, hlive⟩ := hrest.rests c hc (hcid.symm.trans hid)
    exact ⟨hrests.deleted hdeleted, hrests.off (fun _ => hactive) (hrests.deleted hdeleted),
      fun hl => hlive (hrests.notLive hdeleted hl)⟩

/-- CORRECT: from the deletion of a branch on, its row stays deleted and off, and is not moved to LIVE,
    in every run that decides no approval of a deleted branch. -/
theorem deleted_stays_off {db t u : Db} {xs ys : List (Outside × Operation)} {b c : Branch}
    (hdb : AllOff db) (hrun : Along operate (fun s a => ¬ DecidesDeleted s a.2) db (xs ++ ys))
    (ht : run operate db xs = some t) (hu : run operate t ys = some u)
    (hb : b ∈ t.branches) (hdeleted : b.Deleted) (hc : c ∈ u.branches) (hid : c.id = b.id) :
    c.Deleted ∧ c.isActive = false ∧ (c.lifecycleStatus = .LIVE → b.lifecycleStatus = .LIVE) := by
  have hoff : AllOff t :=
    run_invariant_along _ (fun s a s' hi hp hs => AllOff.operate hi hp hs) hrun.of_prefix hdb ht
  have hrest : AtRest b u :=
    run_invariant_along _ (fun s a s' hi hp hs => AtRest.operate hi hp hs) (hrun.of_append ht)
      (hoff.atRest hb hdeleted) hu
  exact hrest.rests c hc hid

theorem oneOwner_allOff (status : MerchantStatus) (onboardingStep : OnboardingStep) :
    AllOff (oneOwner status onboardingStep) :=
  ⟨oneOwner_keyed status onboardingStep, List.forall_mem_nil _⟩

/-- The admin deletes a merchant's second branch. -/
def secondBranch : List (Outside × Operation) :=
  [(anywhere, .request (.createBranch 1 highStreet none)),
    (anywhere, .adminCreateBranch .SUPER_ADMIN 1 highStreet),
    (anywhere, .adminDeleteBranch .SUPER_ADMIN 11)]

/-- The owner then tries to close it, and to switch it on. -/
def afterwards : List (Outside × Operation) :=
  [(anywhere, .request (.requestBranchClose 1 11 "moved")),
    (anywhere, .request (.updateBranch ⟨1, 11, ⟨.empty, some true, none⟩, none⟩))]

theorem secondBranch_stays_off : ∃ u, run operate (oneOwner .REGISTERED .BRANCH_ADDED)
      (secondBranch ++ afterwards) = some u ∧ (∃ c ∈ u.branches, c.id = 11) ∧
      ∀ c ∈ u.branches, c.id = 11 → c.Deleted ∧ c.isActive = false := by
  have hdeleted : (run operate (oneOwner .REGISTERED .BRANCH_ADDED) secondBranch).map (fun s =>
      decide (∃ b ∈ s.branches, b.id = 11 ∧ b.Deleted)) = some true := by decide +kernel
  have hlater : (run operate (oneOwner .REGISTERED .BRANCH_ADDED) (secondBranch ++ afterwards)).map
      (fun s => decide (∃ b ∈ s.branches, b.id = 11)) = some true := by decide +kernel
  obtain ⟨t, ht, hb⟩ := Option.map_eq_some_iff.mp hdeleted
  obtain ⟨b, hb, hid, hdel⟩ := of_decide_eq_true hb
  obtain ⟨u, hrun, hc⟩ := Option.map_eq_some_iff.mp hlater
  obtain ⟨t', ht', hu⟩ := run_append_eq_some.mp hrun
  rw [Option.some.inj (ht'.symm.trans ht)] at hu
  refine ⟨u, hrun, of_decide_eq_true hc, fun c hc hcid => ?_⟩
  have halong : Along operate (fun s a => ¬ DecidesDeleted s a.2) (oneOwner .REGISTERED .BRANCH_ADDED)
      (secondBranch ++ afterwards) := by
    refine along_iff.mpr fun xs a ys s has _ => ?_
    have ha : a ∈ secondBranch ++ afterwards := has ▸ List.mem_append_right _ (List.mem_cons_self ..)
    rcases List.mem_append.mp ha with ha | ha
    · simp only [secondBranch, List.mem_cons, List.not_mem_nil, or_false] at ha
      rcases ha with rfl | rfl | rfl <;> exact id
    · simp only [afterwards, List.mem_cons, List.not_mem_nil, or_false] at ha
      rcases ha with rfl | rfl <;> exact id
  have hrest := deleted_stays_off (oneOwner_allOff .REGISTERED .BRANCH_ADDED) halong ht hu hb hdel hc
    (hcid.trans hid.symm)
  exact ⟨hrest.1, hrest.2.1⟩

/-- Suggestions pass the cross-check. -/
def geocoded : Outside := { anywhere with crossCheckGoogleLocation := fun _ _ _ => true }

def pinned : BranchLocationSuggestion := ⟨"place", .number "51.5", .number "-0.1", none⟩

/-- A second branch is created, approved and deleted. -/
def secondBranchApproved : List (Outside × Operation) :=
  [(geocoded, .request (.createBranch 1 highStreet none)),
    (geocoded, .request (.createBranch 1 highStreet (some pinned))),
    (geocoded, .request (.approveBranchLifecycle 12 7)),
    (geocoded, .request (.softDeleteBranch 1 11))]

/-- Deletion is no step of the lifecycle: a branch that was LIVE still reads LIVE. -/
theorem deleted_reads_live : ¬ Throughout operate (fun s => ∀ b ∈ s.branches, b.Deleted →
    b.isActive = false ∧ b.lifecycleStatus ≠ .LIVE) (oneOwner .REGISTERED .BRANCH_ADDED)
      secondBranchApproved := by
  have hlive : (run operate (oneOwner .REGISTERED .BRANCH_ADDED) secondBranchApproved).map (fun s =>
      decide (∃ b ∈ s.branches, b.Deleted ∧ b.lifecycleStatus = .LIVE)) = some true := by decide +kernel
  obtain ⟨t, ht, hb⟩ := Option.map_eq_some_iff.mp hlive
  obtain ⟨b, hb, hdeleted, hstatus⟩ := of_decide_eq_true hb
  intro h
  exact (h secondBranchApproved [] t (List.append_nil _).symm ht b hb hdeleted).2 hstatus

/-- An approval that was staged before the deletion switches the branch on again. -/
example : (run operate (oneOwner .REGISTERED .BRANCH_ADDED)
    [(geocoded, .request (.createBranch 1 highStreet none)),
      (geocoded, .request (.createBranch 1 highStreet (some pinned))),
      (geocoded, .adminDeleteBranch .SUPER_ADMIN 11),
      (geocoded, .request (.approveBranchLifecycle 12 7))]).map (fun s =>
        decide (∃ b ∈ s.branches, b.Deleted ∧ b.isActive = true)) = some true := by decide +kernel

end Redeemo.BranchLifecycle
