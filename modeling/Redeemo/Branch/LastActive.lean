import Redeemo.Branch.Lifecycle

/-! A live merchant's last open branch.

    Deleting a branch, asking to close it and approving the close all count the merchant's active
    branches first, and refuse the last one. `updateBranch` does not: an owner may switch the last one
    off. A live merchant keeps an open branch throughout a run exactly when no request of the run does
    that, or cancels the last one while it awaits approval. -/

namespace Redeemo.BranchLifecycle
open Rows Runs

/-- At least one branch is on, and not deleted. -/
def HasOpen (merchantId : ℕ) (db : Db) : Prop := ∃ b ∈ db.branches, b.Open merchantId

def OnlyOpen (db : Db) (merchantId branchId : ℕ) : Prop :=
  ∀ b ∈ db.branches, b.Open merchantId → b.id = branchId

/-- A PATCH that is let through and written at once, and switches the only open branch off. -/
def DarkeningPatch (merchantId : ℕ) (out : Outside) (db : Db) (r : PatchRequest) : Prop :=
  ∃ ctx branch main safe, Admitted db r ctx branch ∧ Lane out db r ctx main safe ∧
    r.data.isActive = some false ∧ OnlyOpen db merchantId r.branchId

/-- A cancellation of the only open branch, which then awaits its approval. -/
def DarkeningCancel (merchantId : ℕ) (db : Db) (adminId branchId : ℕ) : Prop :=
  (∃ ownerId branch, Cancellable db adminId branchId ownerId branch) ∧ OnlyOpen db merchantId branchId

def Darkens (merchantId : ℕ) (db : Db) (a : Outside × Request) : Prop :=
  (∃ r, a.2 = .updateBranch r ∧ DarkeningPatch merchantId a.1 db r) ∨
    ∃ adminId branchId, a.2 = .cancelPendingCreate adminId branchId ∧
      DarkeningCancel merchantId db adminId branchId

section
variable {out : Outside} {db db' : Db} {r : PatchRequest} {ctx : MerchantContext} {main : Bool}
  {safe : BranchData} {merchantId : ℕ}

theorem updateBranchRow_hasOpen {id : ℕ} {f : Branch → Branch} (hi : HasOpen merchantId db)
    (hf : ∀ b, b.Open merchantId → (f b).Open merchantId) :
    HasOpen merchantId (db.updateBranchRow id f) := by
  obtain ⟨b, hb, hopen⟩ := hi
  by_cases hid : b.id = id
  · exact ⟨f b, mem_updateMany_of_pos hb hid, hf b hopen⟩
  · exact ⟨b, mem_updateMany_of_neg hb hid, hopen⟩

/-- Another open branch stays, whatever happens to this one. -/
theorem updateBranchRow_hasOpen_of_other {id : ℕ} {f : Branch → Branch}
    (hi : ∃ b ∈ db.branches, b.Open merchantId ∧ b.id ≠ id) :
    HasOpen merchantId (db.updateBranchRow id f) := by
  obtain ⟨b, hb, hopen, hid⟩ := hi
  exact ⟨b, mem_updateMany_of_neg hb hid, hopen⟩

theorem insertBranch_hasOpen {row : ℕ → Branch} (hi : HasOpen merchantId db) :
    HasOpen merchantId (db.insertBranch row) := by
  obtain ⟨b, hb, hopen⟩ := hi
  exact ⟨b, List.mem_append_left _ hb, hopen⟩

/-- What the count of active branches is for: the guarded branch is not the last. -/
theorem exists_other_open {branch : Branch} (hk : db.Keyed)
    (hactive : db.accounts.HasStatus merchantId .ACTIVE) (hi : HasOpen merchantId db)
    (hb : branch ∈ db.branches) (hguard : db.accounts.HasStatus branch.merchantId .ACTIVE →
      1 < db.activeBranchCount branch.merchantId) :
    ∃ b ∈ db.branches, b.Open merchantId ∧ b.id ≠ branch.id := by
  by_cases hm : branch.merchantId = merchantId
  · rw [hm] at hguard
    exact hk.branchKeys.exists_other branch.id (hguard hactive)
  · obtain ⟨b, hbm, hopen⟩ := hi
    refine ⟨b, hbm, hopen, fun hid => hm ?_⟩
    rw [← hk.branchKeys.eq hbm hb hid]
    exact hopen.1

/-- A darkening PATCH leaves no open branch. -/
theorem DarkeningPatch.not_hasOpen (h : DarkeningPatch merchantId out db r) :
    ∃ db', updateBranch out db r = .ok db' ∧ ¬ HasOpen merchantId db' := by
  obtain ⟨ctx, branch, main, safe, hadmitted, hlane, hoff, honly⟩ := h
  refine ⟨_, updateBranch_of_lane hadmitted hlane, ?_⟩
  rintro ⟨b', hb', hmerchant, hactive, hdeleted⟩
  rw [patched_branches] at hb'
  obtain ⟨b, hb, rfl⟩ := List.mem_map.mp hb'
  have hrow := patchRow_spec r ctx main safe b
  by_cases hid : b.id = r.branchId
  · rw [(hrow.hit hid).1, hlane.isActive, hoff] at hactive
    cases hactive
  · rw [hrow.same.merchantId] at hmerchant
    rw [(hrow.other hid).1] at hactive
    rw [hrow.same.deletedAt] at hdeleted
    exact hid (honly b hb ⟨hmerchant, hactive, hdeleted⟩)

theorem patched_hasOpen {branch : Branch} (hi : HasOpen merchantId db)
    (hadmitted : Admitted db r ctx branch) (hlane : Lane out db r ctx main safe)
    (hno : ¬ DarkeningPatch merchantId out db r) :
    HasOpen merchantId (patched db r ctx main safe) := by
  have hstays : ∃ b ∈ db.branches, b.Open merchantId ∧
      (b.id = r.branchId → r.data.isActive ≠ some false) := by
    by_cases hoff : r.data.isActive = some false
    · have hother : ¬ OnlyOpen db merchantId r.branchId :=
        fun honly => hno ⟨ctx, branch, main, safe, hadmitted, hlane, hoff, honly⟩
      simp only [OnlyOpen, not_forall] at hother
      obtain ⟨b, hb, hopen, hid⟩ := hother
      exact ⟨b, hb, hopen, fun he => absurd he hid⟩
    · obtain ⟨b, hb, hopen⟩ := hi
      exact ⟨b, hb, hopen, fun _ => hoff⟩
  obtain ⟨b, hb, ⟨hmerchant, hactive, hdeleted⟩, hon⟩ := hstays
  have hrow := patchRow_spec r ctx main safe b
  rw [HasOpen, patched_branches]
  refine ⟨_, List.mem_map_of_mem hb, hrow.same.merchantId.trans hmerchant, ?_,
    hrow.same.deletedAt.trans hdeleted⟩
  by_cases hid : b.id = r.branchId
  · rw [(hrow.hit hid).1, hlane.isActive, hactive]
    cases hdata : r.data.isActive with
    | none => rfl
    | some on =>
      cases on with
      | false => exact absurd hdata (hon hid)
      | true => rfl
  · exact (hrow.other hid).1.trans hactive

theorem cancelled_hasOpen_iff {branchId : ℕ} :
    HasOpen merchantId (cancelled db branchId) ↔ ¬ OnlyOpen db merchantId branchId := by
  constructor
  · rintro ⟨b, hb, hopen⟩ honly
    obtain ⟨hmem, hne⟩ := List.mem_filter.mp hb
    exact of_decide_eq_true hne (honly b hmem hopen)
  · intro hother
    simp only [OnlyOpen, not_forall] at hother
    obtain ⟨b, hb, hopen, hid⟩ := hother
    exact ⟨b, List.mem_filter.mpr ⟨hb, decide_eq_true hid⟩, hopen⟩

theorem exec_hasOpen {request : Request} (hk : db.Keyed)
    (hactive : db.accounts.HasStatus merchantId .ACTIVE) (hi : HasOpen merchantId db)
    (hno : ¬ Darkens merchantId db (out, request)) (h : exec out db request = .ok db') :
    HasOpen merchantId db' := by
  cases request with
  | createBranch adminId data suggestion =>
    obtain ⟨ownerId, created, -, ⟨-, rfl⟩ | ⟨-, comment, rfl⟩⟩ := createBranch_ok h
    · exact insertBranch_hasOpen hi
    · exact insertBranch_hasOpen hi
  | updateBranch r =>
    obtain ⟨ctx, branch, hadmitted, ⟨main, safe, hlane, rfl⟩ | hstaged | rfl⟩ := updateBranch_ok h
    · exact patched_hasOpen hi hadmitted hlane fun hdark => hno (.inl ⟨r, rfl, hdark⟩)
    · obtain ⟨row, comment, rfl⟩ := hstaged.rows
      exact hi
    · exact hi
  | cancelPendingCreate adminId branchId =>
    obtain ⟨ownerId, branch, hcancel, rfl⟩ := cancelPendingCreate_ok_iff.mp h
    refine (cancelled_hasOpen_iff).mpr fun honly => hno (.inr ⟨adminId, branchId, rfl, ?_, honly⟩)
    exact ⟨ownerId, branch, hcancel⟩
  | requestBranchClose adminId branchId reason =>
    obtain ⟨ownerId, branch, comment, -, -, -, rfl⟩ := requestBranchClose_ok h
    exact updateBranchRow_hasOpen hi fun _ hopen => hopen
  | withdrawBranchClose adminId branchId =>
    obtain ⟨ownerId, branch, -, -, rfl⟩ := withdrawBranchClose_ok h
    exact updateBranchRow_hasOpen hi fun _ hopen => hopen
  | softDeleteBranch adminId branchId =>
    obtain ⟨ownerId, branch, hb, -, hguard, rfl⟩ := softDeleteBranch_ok h
    obtain ⟨hmem, hid, howner, -⟩ := hk.findOwned_iff.mp hb
    have hother := exists_other_open hk hactive hi hmem (howner ▸ hguard)
    rw [hid] at hother
    exact updateBranchRow_hasOpen_of_other hother
  | approveBranchLifecycle approvalId adminId =>
    obtain ⟨done, h⟩ := exec_approve_ok h
    obtain ⟨approval, -, ⟨-, rfl, -⟩ | ⟨-, ⟨-, h⟩ | ⟨-, h⟩⟩⟩ := approveBranchLifecycle_ok h
    · exact hi
    · obtain ⟨branch, -, ⟨-, rfl⟩ | ⟨happroved, -⟩⟩ := approveCreate_ok h
      · exact hi
      · rw [happroved.written]
        exact updateBranchRow_hasOpen hi fun _ hopen => ⟨hopen.1, rfl, hopen.2.2⟩
    · obtain ⟨branch, -, ⟨-, rfl⟩ | ⟨happroved, -⟩⟩ := approveClose_ok h
      · exact hi
      · obtain ⟨hmem, -⟩ := hk.findBranch_iff.mp happroved.found
        have hother := exists_other_open hk hactive hi hmem happroved.notLast
        rw [happroved.written]
        exact updateBranchRow_hasOpen_of_other hother
  | rejectBranchLifecycle approvalId adminId reason =>
    obtain ⟨approval, branch, -, -, -, ⟨-, rfl⟩ | ⟨-, rfl⟩⟩ := rejectBranchLifecycle_ok h
    · exact hi
    · exact updateBranchRow_hasOpen hi fun _ hopen => hopen
  | confirmBranchLocation branchId latitude longitude =>
    obtain ⟨data, hnone, rfl⟩ := confirmBranchLocation_ok h
    refine updateBranchRow_hasOpen hi fun b hopen => ⟨hopen.1, ?_, hopen.2.2⟩
    rw [BranchData.apply, hnone]
    exact hopen.2.1

/-- One request keeps an open branch exactly when it does not darken the last one. -/
theorem hasOpen_step {a : Outside × Request} (hk : db.Keyed)
    (hactive : db.accounts.HasStatus merchantId .ACTIVE) (hi : HasOpen merchantId db)
    (h : step db a = some db') : HasOpen merchantId db' ↔ ¬ Darkens merchantId db a := by
  obtain ⟨out, request⟩ := a
  constructor
  · rintro hopen (⟨r, rfl, hdark⟩ | ⟨adminId, branchId, rfl, ⟨ownerId, branch, hcancel⟩, honly⟩)
    · obtain ⟨t, ht, hnot⟩ := hdark.not_hasOpen
      have hstep : step db (out, .updateBranch r) = some t := step_of_ok ht
      cases Option.some.inj (h.symm.trans hstep)
      exact hnot hopen
    · have hstep : step db (out, .cancelPendingCreate adminId branchId) = some (cancelled db branchId) :=
        step_of_ok (cancelPendingCreate_ok_iff.mpr ⟨ownerId, branch, hcancel, rfl⟩)
      cases Option.some.inj (h.symm.trans hstep)
      exact (cancelled_hasOpen_iff).mp hopen honly
  · intro hno
    rcases step_eq_some h with h | rfl
    · exact exec_hasOpen hk hactive hi hno h
    · exact hi

end

/-- CORRECT: a live merchant with an open branch keeps one throughout a run exactly when no request of
    the run switches the last one off, or cancels it. -/
theorem open_branch_kept_iff {db : Db} {as : List (Outside × Request)} {merchantId : ℕ} (hk : db.Keyed)
    (hactive : db.accounts.HasStatus merchantId .ACTIVE)
    (hmain : ∃ b ∈ db.branches, b.Open merchantId ∧ b.isMainBranch = true) :
    Throughout step (HasOpen merchantId) db as ↔
      Along step (fun db a => ¬ Darkens merchantId db a) db as := by
  obtain ⟨b, hb, hopen, -⟩ := hmain
  exact throughout_iff_along (K := fun t => t.Keyed ∧ t.accounts.HasStatus merchantId .ACTIVE) step_total
    (fun _ _ _ hk h => ⟨step_keyed hk.1 h, step_hasStatus hk.2 h⟩)
    (fun _ _ _ hk hi h => hasOpen_step hk.1 hk.2 hi h) ⟨hk, hactive⟩ ⟨b, hb, hopen⟩

/-- A live merchant with its first branch. -/
def liveMerchant : Db :=
  { oneOwner .ACTIVE .LIVE with
    branches := [createdBranch 1 true false ⟨highStreet, none, none⟩ 9] }

theorem liveMerchant_keyed : liveMerchant.Keyed where
  branchKeys := List.nodup_singleton _
  approvalKeys := List.nodup_nil
  branchFresh b hb := by
    rw [List.mem_singleton.mp hb]
    exact Nat.lt_succ_self 9
  approvalFresh _ hr := absurd hr List.not_mem_nil
  referenceFresh _ hr := absurd hr List.not_mem_nil

/-- A staged branch is withdrawn again, and the main branch cannot be deleted. -/
theorem open_branch_kept_iff_liveMerchant : Throughout step (HasOpen 1) liveMerchant
    [(anywhere, .createBranch 1 highStreet none), (anywhere, .softDeleteBranch 1 9)] := by
  have hactive : liveMerchant.accounts.HasStatus 1 .ACTIVE := rfl
  refine (open_branch_kept_iff liveMerchant_keyed hactive ?_).mpr ?_
  · exact ⟨_, List.mem_cons_self .., ⟨rfl, rfl, rfl⟩, rfl⟩
  · refine ⟨?_, fun _ _ => ⟨?_, fun _ _ => trivial⟩⟩
    · rintro (⟨r, hr, -⟩ | ⟨adminId, branchId, hr, -⟩)
      · cases hr
      · cases hr
    · rintro (⟨r, hr, -⟩ | ⟨adminId, branchId, hr, -⟩)
      · cases hr
      · cases hr

/-- The owner switches the only branch off. -/
theorem open_branch_not_kept : liveMerchant.accounts.HasStatus 1 .ACTIVE ∧
    (∃ b ∈ liveMerchant.branches, b.Open 1 ∧ b.isMainBranch = true) ∧
    ∃ db, run step liveMerchant
      [(anywhere, .updateBranch ⟨1, 9, ⟨Patch.empty, some false, none⟩, none⟩)] = some db ∧
      ¬ HasOpen 1 db := by
  have hactive : liveMerchant.accounts.HasStatus 1 .ACTIVE := rfl
  refine ⟨hactive, ⟨_, List.mem_cons_self .., ⟨rfl, rfl, rfl⟩, rfl⟩, _, rfl, ?_⟩
  rintro ⟨b, hb, -, hactive, -⟩
  rw [List.mem_singleton.mp hb] at hactive
  cases hactive

end Redeemo.BranchLifecycle
