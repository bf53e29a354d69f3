import Redeemo.Branch.Lifecycle

/-! Branches that await approval stay out of sight.

    A staged branch is created switched off, and not as the main branch. Every later write keeps it so
    except one: `updateBranch` looks the branch up by id, merchant and `deletedAt` only, so its owner can
    switch a PENDING_CREATE branch on, or make it the main branch. The rows stay hidden throughout a run
    exactly when no such PATCH is in it. -/

namespace Redeemo.BranchLifecycle
open Rows Runs

def Branch.Hidden (b : Branch) : Prop :=
  b.lifecycleStatus = .PENDING_CREATE → b.isActive = false ∧ b.isMainBranch = false

/-- Every branch that awaits approval is off, and not the main one. -/
def PendingHidden (db : Db) : Prop := ∀ b ∈ db.branches, b.Hidden

/-- A PATCH that is let through, of a branch awaiting approval, and written at once: it switches the
    branch on, or makes it the main one. -/
def RevealingPatch (out : Outside) (db : Db) (r : PatchRequest) : Prop :=
  ∃ ctx branch main safe, Admitted db r ctx branch ∧ branch.lifecycleStatus = .PENDING_CREATE ∧
    Lane out db r ctx main safe ∧ (main = true ∨ r.data.isActive = some true)

def Reveals (db : Db) (a : Outside × Request) : Prop :=
  ∃ r, a.2 = .updateBranch r ∧ RevealingPatch a.1 db r

section
variable {out : Outside} {db db' : Db} {r : PatchRequest} {ctx : MerchantContext} {main : Bool}
  {safe : BranchData}

theorem updateBranchRow_hidden {id : ℕ} {f : Branch → Branch} (hi : PendingHidden db)
    (hf : ∀ b, b.Hidden → (f b).Hidden) : PendingHidden (db.updateBranchRow id f) :=
  forall_updateMany.mpr fun b hb => ⟨fun _ => hf b (hi b hb), fun _ => hi b hb⟩

theorem insertBranch_hidden {row : ℕ → Branch} (hi : PendingHidden db) (hrow : (row db.nextId).Hidden) :
    PendingHidden (db.insertBranch row) := by
  intro b hb
  rcases List.mem_append.mp hb with hb | hb
  · exact hi b hb
  · rw [List.mem_singleton.mp hb]
    exact hrow

/-- A staged branch starts hidden, any other is LIVE. -/
theorem createdBranch_hidden (merchantId : ℕ) (isMainBranch : Bool) (created : BranchData) (id : ℕ) :
    (createdBranch merchantId isMainBranch false created id).Hidden ∧
      (createdBranch merchantId false true created id).Hidden :=
  ⟨nofun, fun _ => ⟨rfl, rfl⟩⟩

/-- The row that a revealing PATCH has written is in sight. -/
theorem RevealingPatch.not_hidden (hk : db.Keyed) (h : RevealingPatch out db r) :
    ∃ db', updateBranch out db r = .ok db' ∧ ¬ PendingHidden db' := by
  obtain ⟨ctx, branch, main, safe, hadmitted, hpending, hlane, hshows⟩ := h
  refine ⟨_, updateBranch_of_lane hadmitted hlane, fun hhidden => ?_⟩
  obtain ⟨hb, hid, -⟩ := hk.findOwned_iff.mp hadmitted.found
  have hrow := patchRow_spec r ctx main safe branch
  rw [PendingHidden, patched_branches] at hhidden
  obtain ⟨hactive, hmain⟩ := hhidden _ (List.mem_map_of_mem hb) (hrow.same.lifecycleStatus.trans hpending)
  rcases hshows with rfl | hon
  · rw [(hrow.hit hid).2] at hmain
    cases hmain
  · rw [(hrow.hit hid).1, hlane.isActive, hon] at hactive
    cases hactive

/-- Any other PATCH leaves the branches that await approval hidden. -/
theorem patched_hidden {branch : Branch} (hk : db.Keyed) (hi : PendingHidden db)
    (hadmitted : Admitted db r ctx branch) (hlane : Lane out db r ctx main safe)
    (hno : ¬ RevealingPatch out db r) : PendingHidden (patched db r ctx main safe) := by
  intro b' hb'
  rw [patched_branches] at hb'
  obtain ⟨b, hb, rfl⟩ := List.mem_map.mp hb'
  intro hpending
  have hrow := patchRow_spec r ctx main safe b
  rw [hrow.same.lifecycleStatus] at hpending
  obtain ⟨hoff, hnotMain⟩ := hi b hb hpending
  by_cases hid : b.id = r.branchId
  · obtain ⟨hbr, hbrid, -⟩ := hk.findOwned_iff.mp hadmitted.found
    cases hk.branchKeys.eq hb hbr (hid.trans hbrid.symm)
    have hshows : ¬ (main = true ∨ r.data.isActive = some true) :=
      fun h => hno ⟨ctx, branch, main, safe, hadmitted, hpending, hlane, h⟩
    rw [not_or, Bool.not_eq_true] at hshows
    obtain ⟨hmain, hon⟩ := hshows
    rw [(hrow.hit hid).1, (hrow.hit hid).2, hlane.isActive, hmain, hnotMain, hoff]
    refine ⟨?_, rfl⟩
    cases hactive : r.data.isActive with
    | none => rfl
    | some on =>
      cases on with
      | false => rfl
      | true => exact absurd hactive hon
  · obtain ⟨hactive, hmain⟩ := hrow.other hid
    refine ⟨hactive.trans hoff, ?_⟩
    by_contra hne
    rw [hmain (Bool.not_eq_false _ ▸ hne)] at hnotMain
    cases hnotMain

theorem exec_hidden {request : Request} (hk : db.Keyed) (hi : PendingHidden db)
    (hno : ¬ Reveals db (out, request)) (h : exec out db request = .ok db') : PendingHidden db' := by
  cases request with
  | createBranch adminId data suggestion =>
    obtain ⟨merchantId, created, -, ⟨-, rfl⟩ | ⟨-, comment, rfl⟩⟩ := createBranch_ok h
    · exact insertBranch_hidden hi (createdBranch_hidden _ true created _).1
    · exact insertBranch_hidden hi (createdBranch_hidden _ true created _).2
  | updateBranch r =>
    obtain ⟨ctx, branch, hadmitted, ⟨main, safe, hlane, rfl⟩ | hstaged | rfl⟩ := updateBranch_ok h
    · exact patched_hidden hk hi hadmitted hlane fun hreveals => hno ⟨r, rfl, hreveals⟩
    · obtain ⟨row, comment, rfl⟩ := hstaged.rows
      exact hi
    · exact hi
  | cancelPendingCreate adminId branchId =>
    obtain ⟨merchantId, branch, -, rfl⟩ := cancelPendingCreate_ok_iff.mp h
    exact fun b hb => hi b (List.mem_of_mem_filter hb)
  | requestBranchClose adminId branchId reason =>
    obtain ⟨merchantId, branch, comment, -, -, -, rfl⟩ := requestBranchClose_ok h
    exact updateBranchRow_hidden hi fun _ _ => nofun
  | withdrawBranchClose adminId branchId =>
    obtain ⟨merchantId, branch, -, -, rfl⟩ := withdrawBranchClose_ok h
    exact updateBranchRow_hidden hi fun _ _ => nofun
  | softDeleteBranch adminId branchId =>
    obtain ⟨merchantId, branch, -, -, -, rfl⟩ := softDeleteBranch_ok h
    refine updateBranchRow_hidden ?_ fun _ hb hp => ⟨rfl, (hb hp).2⟩
    exact hi
  | approveBranchLifecycle approvalId adminId =>
    obtain ⟨done, h⟩ := exec_approve_ok h
    obtain ⟨approval, -, ⟨-, rfl, -⟩ | ⟨-, ⟨-, h⟩ | ⟨-, h⟩⟩⟩ := approveBranchLifecycle_ok h
    · exact hi
    · obtain ⟨branch, -, ⟨-, rfl⟩ | ⟨happroved, -⟩⟩ := approveCreate_ok h
      · exact hi
      · rw [happroved.written]
        exact updateBranchRow_hidden hi fun _ _ => nofun
    · obtain ⟨branch, -, ⟨-, rfl⟩ | ⟨happroved, -⟩⟩ := approveClose_ok h
      · exact hi
      · rw [happroved.written]
        exact updateBranchRow_hidden hi fun _ _ => nofun
  | rejectBranchLifecycle approvalId adminId reason =>
    obtain ⟨approval, branch, -, -, -, ⟨-, rfl⟩ | ⟨-, rfl⟩⟩ := rejectBranchLifecycle_ok h
    · exact hi
    · exact updateBranchRow_hidden hi fun _ _ => nofun
  | confirmBranchLocation branchId latitude longitude =>
    obtain ⟨data, hactive, rfl⟩ := confirmBranchLocation_ok h
    refine updateBranchRow_hidden hi fun b hb hp => ⟨?_, (hb hp).2⟩
    rw [BranchData.apply, hactive]
    exact (hb hp).1

/-- One request keeps the pending branches hidden exactly when it is no revealing PATCH. -/
theorem pendingHidden_step {a : Outside × Request} (hk : db.Keyed) (hi : PendingHidden db)
    (h : step db a = some db') : PendingHidden db' ↔ ¬ Reveals db a := by
  obtain ⟨out, request⟩ := a
  constructor
  · rintro hhidden ⟨r, rfl, hreveals⟩
    obtain ⟨t, ht, hnot⟩ := hreveals.not_hidden hk
    have hstep : step db (out, .updateBranch r) = some t := step_of_ok ht
    cases Option.some.inj (h.symm.trans hstep)
    exact hnot hhidden
  · intro hno
    rcases step_eq_some h with h | rfl
    · exact exec_hidden hk hi hno h
    · exact hi

end

/-- CORRECT: the branches that await approval stay hidden throughout a run exactly when no PATCH of the
    run reveals one. -/
theorem pending_create_hidden_iff {db : Db} {as : List (Outside × Request)} (hk : db.Keyed)
    (hi : PendingHidden db) : Throughout step PendingHidden db as ↔
      Along step (fun db a => ¬ Reveals db a) db as :=
  throughout_iff_along step_total (fun _ _ _ hk h => step_keyed hk h)
    (fun _ _ _ hk hi h => pendingHidden_step hk hi h) hk hi

/-- Two branches, of which the second waits for its approval. -/
def twoBranches : List (Outside × Request) :=
  [(anywhere, .createBranch 1 highStreet none), (anywhere, .createBranch 1 highStreet none)]

theorem pending_create_hidden_iff_twoBranches :
    Throughout step PendingHidden (oneOwner .REGISTERED .REGISTERED) twoBranches := by
  refine (pending_create_hidden_iff (oneOwner_keyed _ _) nofun).mpr ?_
  refine ⟨?_, fun _ _ => ⟨?_, fun _ _ => trivial⟩⟩
  · rintro ⟨r, hr, -⟩
    cases hr
  · rintro ⟨r, hr, -⟩
    cases hr

/-- The owner switches the second branch on while it waits. -/
theorem pending_create_not_hidden : ∃ db, run step (oneOwner .REGISTERED .REGISTERED) (twoBranches ++
    [(anywhere, .updateBranch ⟨1, 11, ⟨Patch.empty, some true, none⟩, none⟩)]) = some db ∧
      ¬ PendingHidden db := by
  obtain ⟨db, hrun, b, hb, hpending, hactive⟩ : ∃ db, run step (oneOwner .REGISTERED .REGISTERED)
      (twoBranches ++ [(anywhere, .updateBranch ⟨1, 11, ⟨Patch.empty, some true, none⟩, none⟩)]) =
        some db ∧ ∃ b ∈ db.branches, b.lifecycleStatus = .PENDING_CREATE ∧ b.isActive = true :=
    ⟨_, rfl, _, List.mem_cons_of_mem _ (List.mem_cons_self ..), rfl, rfl⟩
  refine ⟨db, hrun, fun hhidden => ?_⟩
  rw [(hhidden b hb hpending).1] at hactive
  cases hactive

end Redeemo.BranchLifecycle
