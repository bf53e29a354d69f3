import Redeemo.Voucher.Review

/-! The review queue of one custom voucher that may be deleted.

    Besides the requests of the review, any number of deletions run about the voucher. A deletion checks
    that the voucher is a draft and then deletes its row in a statement of its own; the approval of the
    voucher stays. A voucher never has more than one approval, and it is under review whenever that approval
    is PENDING (`Intact`); what a deletion can leave behind is an approval that still waits for an admin
    (`Orphans`). -/

namespace Redeemo.VoucherQueue
open Fallible ReadCommitted Rows Runs Vouchers VoucherReview

variable {Bag : Type} {ι : Type*}

/-! ### The store and the calls -/

/-- The voucher with its approvals, and whether the voucher's row is gone. -/
structure Store (ι : Type*) (Bag : Type) where
  record : Cell ι (Record Bag)
  deleted : Bool

/-- A call. `access` is as for the requests of the review. -/
inductive Call (Bag : Type)
  | review (request : Request Bag)
  | deleteVoucher (access : Except AppError Unit)

inductive Phase (Bag : Type)
  | within (phase : VoucherReview.Phase Bag)
  /-- `deleteVoucher`: checked. -/
  | deletable

def checkDelete (deleted : Bool) (voucher : Voucher Bag) : Except AppError Unit := do
  rejectIf (deleted = true) .VOUCHER_NOT_FOUND
  rejectIf (voucher.status ≠ .DRAFT) .VOUCHER_NOT_DELETABLE

/-! ### The statements -/

section
variable [DecidableEq ι]

/-- The next statement of a review request when there is no voucher any more. -/
def gone (request : Request Bag) (i : ι) (c : Cell ι (Record Bag)) (phase : VoucherReview.Phase Bag) :
    Option (VoucherReview.Phase Bag) :=
  match request, phase with
  | .updateVoucher access _, .start => some (after access fun _ => .failed (.app .VOUCHER_NOT_FOUND))
  | .updateVoucher _ _, .editing _ => some (.failed .aborted)
  | .submitVoucher access _ _, .start => some (after access fun _ => .failed (.app .VOUCHER_NOT_FOUND))
  | .submitVoucher _ _ _, .submitting _ => some (.failed .aborted)
  | .withdrawVoucherSubmission access _, .start => some (after access fun _ => .failed (.app .VOUCHER_NOT_FOUND))
  | .withdrawVoucherSubmission _ _, .withdrawing =>
    some (after (orReject (c.read i).findOpen .VOUCHER_WITHDRAW_NOT_PENDING) fun r => .found r.id)
  | .withdrawVoucherSubmission _ _, .found _ => some (.failed .aborted)
  | .approveVoucher approvalId _ _, .start =>
    some (after (checkApproval ((c.read i).findApproval approvalId)) fun _ => .actionable)
  | .approveVoucher _ _ _, .actionable => some (.failed (.app .VOUCHER_NOT_FOUND))
  | .approveVoucher _ _ _, .judged _ => some (.failed .aborted)
  | .rejectVoucher approvalId _ _ _, .start =>
    some (after (checkApproval ((c.read i).findApproval approvalId)) fun _ => .actionable)
  | .rejectVoucher _ _ _ _, .actionable => some (.failed (.app .VOUCHER_NOT_FOUND))
  | .rejectVoucher _ _ _ _, .reviewing _ => some (.failed .aborted)
  | .requestVoucherChanges approvalId _ _ _ _, .start =>
    some (after (checkApproval ((c.read i).findApproval approvalId)) fun _ => .actionable)
  | .requestVoucherChanges _ _ _ _ _, .actionable => some (.failed (.app .VOUCHER_NOT_FOUND))
  | .requestVoucherChanges _ _ _ _ _, .reviewing _ => some (.failed .aborted)
  | _, _ => none

/-- A step of a review request. -/
def reviewStep (fields : MerchantFields Bag) (request : Request Bag) (i : ι) (s : Store ι Bag)
    (phase : VoucherReview.Phase Bag) (a : Act) : Option (Store ι Bag × VoucherReview.Phase Bag) :=
  if s.deleted = true ∧ a = .statement then (gone request i s.record phase).map fun phase => (s, phase)
  else (VoucherReview.next fields (fun _ => request) i s.record phase a).map fun r =>
    ({ s with record := r.1 }, r.2)

/-- A step of `deleteVoucher`: the row that it deletes may be held by a transaction, or gone. -/
def deleteStep (access : Except AppError Unit) (i : ι) (s : Store ι Bag) : Phase Bag → Act →
    Option (Store ι Bag × Phase Bag)
  | .within .start, .statement =>
    some (s, match access >>= fun _ => checkDelete s.deleted (s.record.read i).voucher with
      | .ok _ => .deletable
      | .error e => .within (.failed (.app e)))
  | .deletable, .statement =>
    if s.deleted = true then some (s, .within (.failed .aborted))
    else if s.record.held.isSome = true then none
    else some ({ s with deleted := true }, .within .returned)
  | .within .start, .abandon => some (s, .within (.failed .aborted))
  | .deletable, .abandon => some (s, .within (.failed .aborted))
  | _, _ => none

def next (fields : MerchantFields Bag) (calls : ι → Call Bag) (i : ι) (s : Store ι Bag) (phase : Phase Bag)
    (a : Act) : Option (Store ι Bag × Phase Bag) :=
  match calls i, phase with
  | .review request, .within phase =>
    (reviewStep fields request i s phase a).map fun r => (r.1, .within r.2)
  | .review _, .deletable => none
  | .deleteVoucher access, phase => deleteStep access i s phase a

end

/-- No call has begun. -/
def idle (r : Record Bag) : Pool ι (Store ι Bag) (Phase Bag) := ⟨⟨⟨r, none⟩, false⟩, fun _ => .within .start⟩

/-! ### The queue -/

/-- The voucher has at most one approval, and is under review when it is PENDING. -/
structure Intact (r : Record Bag) : Prop where
  single : r.approvals.length ≤ 1
  references : ∀ approval ∈ r.approvals, approval.type = .VOUCHER ∧ approval.referenceId = r.voucher.id
  underReview : ∀ approval ∈ r.approvals, approval.status = .PENDING → r.voucher.status = .PENDING_APPROVAL

/-- An admin may still decide. -/
def Waits (r : Record Bag) : Prop := ∃ approval ∈ r.approvals, approval.status ∈ ACTIONABLE_STATUSES

/-- And the voucher of an approval that waits is there. -/
structure Integrity (s : Store ι Bag) : Prop where
  intact : Intact s.record.committed
  present : Waits s.record.committed → s.deleted = false

/-- The deletion of a voucher whose approval waits. -/
def Orphans (call : Call Bag) (s : Store ι Bag) (phase : Phase Bag) (a : Act) : Prop :=
  (∃ access, call = .deleteVoucher access) ∧ phase = .deletable ∧ a = .statement ∧ s.deleted = false ∧
    s.record.held = none ∧ Waits s.record.committed

/-! ### What a request makes of the record -/

/-- The approval of the voucher. -/
def Knows (k : ℕ) (r : Record Bag) : Prop := r.approvals.map AdminApproval.id = [k]

/-- The approval that a request has read and is going to write. -/
def target : Request Bag → VoucherReview.Phase Bag → Option ℕ
  | _, .found k => some k
  | _, .written k _ => some k
  | .approveVoucher k _ _, .actionable => some k
  | .approveVoucher k _ _, .reviewing _ => some k
  | .approveVoucher k _ _, .merchantLive => some k
  | .approveVoucher k _ _, .judged _ => some k
  | .rejectVoucher k _ _ _, .actionable => some k
  | .rejectVoucher k _ _ _, .reviewing _ => some k
  | .requestVoucherChanges k _ _ _ _, .actionable => some k
  | .requestVoucherChanges k _ _ _ _, .reviewing _ => some k
  | _, _ => none

/-- Only the voucher has been written. -/
structure Begun (r w : Record Bag) : Prop where
  approvals : w.approvals = r.approvals
  id : w.voucher.id = r.voucher.id

/-- What a transaction holds. -/
def Copied (i : ι) (c : Cell ι (Record Bag)) : VoucherReview.Phase Bag → Prop
  | .submitted => ∃ w, c.held = some (i, w) ∧ Begun c.committed w ∧ w.voucher.status = .PENDING_APPROVAL
  | .located existing => ∃ w, c.held = some (i, w) ∧ Begun c.committed w ∧ w.voucher.status = .PENDING_APPROVAL ∧
      existing = (w.approvals.find? fun r => r.type = .VOUCHER).map AdminApproval.id
  | .written _ _ => ∃ w, c.held = some (i, w) ∧ Begun c.committed w
  | .settled _ => ∃ w, c.held = some (i, w) ∧ Intact w ∧ ∀ k, Knows k c.committed → Knows k w
  | _ => c.Free i

structure Local (request : Request Bag) (i : ι) (c : Cell ι (Record Bag)) (phase : VoucherReview.Phase Bag) : Prop where
  copied : Copied i c phase
  aims : ∀ k, target request phase = some k → Knows k c.committed

structure StepOk (request : Request Bag) (i : ι) (c c' : Cell ι (Record Bag)) (phase' : VoucherReview.Phase Bag) :
    Prop where
  moves : Cell.Moves i c c'
  intact : Intact c'.committed
  knows : ∀ k, Knows k c.committed → Knows k c'.committed
  keeps : Local request i c' phase'

section
variable {fields : MerchantFields Bag} {request : Request Bag} {i j : ι} {c c' : Cell ι (Record Bag)}
  {phase phase' : VoucherReview.Phase Bag} {a : Act} {r w : Record Bag} {goLive : Bool} {k : ℕ}

theorem copied_iff_free (hp : phase.held = none) : Copied i c phase ↔ c.Free i := by
  cases phase with
  | submitted => cases hp
  | located existing => cases hp
  | written approvalId goLive => cases hp
  | settled goLive => cases hp
  | _ => exact Iff.rfl

theorem copied_held (hp : phase.held = some goLive) (h : Copied i c phase) : ∃ w, c.held = some (i, w) := by
  cases phase with
  | submitted =>
    obtain ⟨w, hw, -⟩ := h
    exact ⟨w, hw⟩
  | located existing =>
    obtain ⟨w, hw, -⟩ := h
    exact ⟨w, hw⟩
  | written approvalId goLive =>
    obtain ⟨w, hw, -⟩ := h
    exact ⟨w, hw⟩
  | settled goLive =>
    obtain ⟨w, hw, -⟩ := h
    exact ⟨w, hw⟩
  | _ => cases hp

theorem Intact.knows (h : Intact r) {approval : AdminApproval} (hmem : approval ∈ r.approvals) :
    Knows approval.id r := by
  obtain ⟨before, rest, hsplit⟩ := List.append_of_mem hmem
  have hlength := h.single
  rw [hsplit, List.length_append, List.length_cons] at hlength
  obtain rfl : before = [] := List.eq_nil_of_length_eq_zero (by omega)
  obtain rfl : rest = [] := List.eq_nil_of_length_eq_zero (by omega)
  rw [Knows, hsplit]
  rfl

theorem Knows.id_eq (h : Knows k r) {approval : AdminApproval} (hmem : approval ∈ r.approvals) : approval.id = k := by
  have hid : approval.id ∈ r.approvals.map AdminApproval.id := List.mem_map_of_mem hmem
  rw [h] at hid
  exact List.mem_singleton.mp hid

theorem knows_updateApproval {f : AdminApproval → AdminApproval} {id : ℕ}
    (hf : ∀ approval, (f approval).id = approval.id) :
    Knows k (r.updateApproval id f) ↔ Knows k r := by
  rw [Knows, Knows, Record.updateApproval, map_key_updateMany hf]

/-- A transaction has begun on what is committed now. -/
theorem Begun.intact_of_status (hb : Begun r w) (h : Intact r) (hstatus : w.voucher.status = .PENDING_APPROVAL) :
    Intact w := by
  refine ⟨?_, ?_, fun _ _ _ => hstatus⟩
  · rw [hb.approvals]
    exact h.single
  · rw [hb.approvals, hb.id]
    exact h.references

theorem Begun.knows (hb : Begun r w) (h : Knows k r) : Knows k w := by
  rw [Knows, hb.approvals]
  exact h

/-- The approval is no longer PENDING. -/
theorem Begun.intact_updateApproval (hb : Begun r w) (h : Intact r) (hk : Knows k r)
    {f : AdminApproval → AdminApproval} (hf : ∀ approval, (f approval).id = approval.id ∧
      (f approval).type = approval.type ∧ (f approval).referenceId = approval.referenceId ∧
      (f approval).status ≠ .PENDING) : Intact (w.updateApproval k f) := by
  refine ⟨?_, ?_, ?_⟩
  · rw [Record.updateApproval, updateMany, List.length_map, hb.approvals]
    exact h.single
  · rw [Record.updateApproval, hb.approvals]
    refine forall_updateMany.mpr fun approval hmem => ⟨fun _ => ?_, fun _ => ?_⟩
    · obtain ⟨-, htype, href, -⟩ := hf approval
      rw [htype, href, hb.id]
      exact h.references approval hmem
    · rw [hb.id]
      exact h.references approval hmem
  · rw [Record.updateApproval, hb.approvals]
    refine forall_updateMany.mpr fun approval hmem => ⟨fun _ hpending => ?_, fun hother => ?_⟩
    · exact absurd hpending (hf approval).2.2.2
    · exact absurd (hk.id_eq hmem) hother

/-- The approval of a submission is PENDING again, or new. -/
theorem Begun.intact_submitApproval (hb : Begun r w) (h : Intact r) (hstatus : w.voucher.status = .PENDING_APPROVAL)
    {newId : ℕ} {existing : Option ℕ}
    (he : existing = (w.approvals.find? fun r => r.type = .VOUCHER).map AdminApproval.id) :
    Intact (w.submitApproval newId existing) ∧ ∀ k, Knows k r → Knows k (w.submitApproval newId existing) := by
  have hw := hb.intact_of_status h hstatus
  cases existing with
  | some id =>
    refine ⟨⟨?_, ?_, fun _ _ _ => hstatus⟩, fun k hk => ?_⟩
    · rw [Record.submitApproval, Record.updateApproval, updateMany, List.length_map]
      exact hw.single
    · refine forall_updateMany.mpr fun approval hmem => ⟨fun _ => ?_, fun _ => ?_⟩
      · exact hw.references approval hmem
      · exact hw.references approval hmem
    · exact (knows_updateApproval (f := reopenApproval) fun _ => rfl).mpr (hb.knows hk)
  | none =>
    -- the voucher has no approval at all
    have hnil : w.approvals = [] := by
      refine List.eq_nil_iff_forall_not_mem.mpr fun approval hmem => ?_
      have hno := List.find?_eq_none.mp (Option.map_eq_none_iff.mp he.symm) approval hmem
      exact hno (decide_eq_true (hw.references approval hmem).1)
    refine ⟨⟨?_, ?_, fun _ _ _ => hstatus⟩, fun k hk => ?_⟩
    · rw [Record.submitApproval, hnil]
      exact le_rfl
    · intro approval hmem
      rw [Record.submitApproval, hnil] at hmem
      rw [List.mem_singleton.mp hmem]
      exact ⟨rfl, rfl⟩
    · have hempty := hb.knows hk
      rw [Knows, hnil] at hempty
      cases hempty

/-! ### The steps of each request -/

/-- A step that writes nothing. -/
theorem stepOk_read (hi : Intact c.committed) (hl : Local request i c phase) (hp : phase.held = none)
    (hp' : phase'.held = none) (haims : ∀ k, target request phase' = some k → Knows k c.committed) :
    StepOk request i c c phase' :=
  ⟨.stay, hi, fun _ hk => hk, (copied_iff_free hp').mpr ((copied_iff_free hp).mp hl.copied), haims⟩

/-- A request that has found nothing yet goes on or fails. -/
theorem aims_after {σ : Type*} {x : Except AppError σ} {f : σ → VoucherReview.Phase Bag}
    (hf : ∀ b, x = .ok b → ∀ k, target request (f b) = some k → Knows k r) :
    ∀ k, target request (after x f) = some k → Knows k r := by
  intro k hk
  cases x with
  | ok b => exact hf b rfl k hk
  | error e => cases request <;> cases hk

/-- The approval that a decision has checked. -/
theorem Intact.knows_checked (h : Intact r) {id : ℕ} {approval : AdminApproval}
    (hcheck : checkApproval (r.findApproval id) = .ok approval) : Knows id r := by
  rw [checkApproval] at hcheck
  obtain ⟨found, hfound, -⟩ := bind_ok_iff.mp hcheck
  obtain ⟨hmem, hid⟩ := find_some (orReject_eq_ok.mp hfound)
  rw [← hid]
  exact h.knows hmem

/-- The approval that a withdrawal has found. -/
theorem Intact.knows_open (h : Intact r) {approval : AdminApproval} {e : AppError}
    (hfound : orReject r.findOpen e = .ok approval) : Knows approval.id r :=
  h.knows (find_some (orReject_eq_ok.mp hfound)).1

/-- A request that fails on the missing voucher. -/
theorem stepOk_failed {e : Failure} (hi : Intact c.committed) (hl : Local request i c phase)
    (hp : phase.held = none) : StepOk request i c c (.failed e) := by
  refine stepOk_read hi hl hp rfl fun k hk => ?_
  cases request <;> cases hk

theorem stepOk_notFound {access : Except AppError Unit} (hi : Intact c.committed) (hl : Local request i c phase)
    (hp : phase.held = none) :
    StepOk request i c c (after access fun _ => .failed (.app .VOUCHER_NOT_FOUND)) := by
  cases access with
  | ok u => exact stepOk_failed hi hl hp
  | error e => exact stepOk_failed hi hl hp

variable [DecidableEq ι]

/-- A decision checks its approval. -/
theorem stepOk_check {id : ℕ} (hi : Intact c.committed) (hl : Local request i c phase) (hp : phase.held = none)
    (ht : target request .actionable = some id) :
    StepOk request i c c (after (checkApproval ((c.read i).findApproval id)) fun _ => .actionable) := by
  rw [Cell.read_of_free ((copied_iff_free hp).mp hl.copied)]
  refine stepOk_read hi hl hp (held_after fun _ => rfl) (aims_after fun approval hcheck k hk => ?_)
  cases ht.symm.trans hk
  exact hi.knows_checked hcheck

/-- A withdrawal looks for the open approval. -/
theorem stepOk_find {e : AppError} (hi : Intact c.committed) (hl : Local request i c phase)
    (hp : phase.held = none) (ht : ∀ k, target request (.found k) = some k) :
    StepOk request i c c (after (orReject (c.read i).findOpen e) fun r => .found r.id) := by
  rw [Cell.read_of_free ((copied_iff_free hp).mp hl.copied)]
  refine stepOk_read hi hl hp (held_after fun _ => rfl) (aims_after fun approval hfound k hk => ?_)
  cases (ht approval.id).symm.trans hk
  exact hi.knows_open hfound

/-- The first write of a transaction, to the voucher. -/
theorem stepOk_begin {f : Record Bag → Record Bag} (p : VoucherReview.Phase Bag) (hi : Intact c.committed)
    (hl : Local request i c phase) (hp : phase.held = none)
    (hcopied : ∀ c' : Cell ι (Record Bag), c'.held = some (i, f c'.committed) → Copied i c' p)
    (haims : ∀ k, target request p = some k → target request phase = some k)
    (h : (c.write i (f (c.read i))).map (fun c' => (c', p)) = some (c', phase')) :
    StepOk request i c c' phase' := by
  obtain ⟨d, hd, he⟩ := Option.map_eq_some_iff.mp h
  cases he
  obtain ⟨hheld, rfl⟩ := Cell.write_eq_some.mp hd
  rw [Cell.read_of_free ((copied_iff_free hp).mp hl.copied)]
  exact ⟨.write _ hheld, hi, fun _ hk => hk, hcopied _ rfl, fun k hk => hl.aims k (haims k hk)⟩

/-- The last write, to the approval. -/
theorem stepOk_end {f : Record Bag → Record Bag} (hi : Intact c.committed) (hheld : c.held = some (i, w))
    (hintact : Intact (f w)) (hknows : ∀ k, Knows k c.committed → Knows k (f w))
    (h : (c.write i (f (c.read i))).map (fun c' => (c', VoucherReview.Phase.settled goLive)) = some (c', phase')) :
    StepOk request i c c' phase' := by
  obtain ⟨d, hd, he⟩ := Option.map_eq_some_iff.mp h
  cases he
  obtain ⟨hmine, rfl⟩ := Cell.write_eq_some.mp hd
  rw [Cell.read_of_held hheld]
  refine ⟨.write _ hmine, hi, fun _ hk => hk, ⟨f w, rfl, hintact, hknows⟩, fun k hk => ?_⟩
  cases request <;> cases hk

theorem stepOk_commit (hl : Local request i c (.settled goLive)) :
    StepOk request i c (c.commit i) .returned := by
  obtain ⟨w, hw, hintact, hknows⟩ := hl.copied
  rw [Cell.commit_of_held hw]
  refine ⟨.finish _ (Cell.held_unique hw), hintact, hknows, Cell.free_of_held_none rfl, fun k hk => ?_⟩
  cases request <;> cases hk

/-- A decision is written on the approval that it is about. -/
theorem stepOk_decide {f : AdminApproval → AdminApproval} (hi : Intact c.committed)
    (hl : Local request i c (.written k goLive)) (hf : ∀ approval, (f approval).id = approval.id ∧
      (f approval).type = approval.type ∧ (f approval).referenceId = approval.referenceId ∧
      (f approval).status ≠ .PENDING)
    (h : (c.write i ((c.read i).updateApproval k f)).map (fun c' => (c', VoucherReview.Phase.settled goLive)) =
      some (c', phase')) : StepOk request i c c' phase' := by
  have hknows : Knows k c.committed := hl.aims k (by cases request <;> rfl)
  obtain ⟨w, hw, hb⟩ := hl.copied
  refine stepOk_end (f := fun r => r.updateApproval k f) hi hw (hb.intact_updateApproval hi hknows hf) ?_ h
  intro k' hk'
  exact (knows_updateApproval fun approval => (hf approval).1).mpr (hb.knows hk')

theorem updateVoucher_step {access : Except AppError Unit} {data : VoucherPatch Bag} (hi : Intact c.committed)
    (hl : Local (.updateVoucher access data) i c phase)
    (h : statement fields (.updateVoucher access data) i c phase = some (c', phase')) :
    StepOk (.updateVoucher access data) i c c' phase' := by
  cases phase with
  | start =>
    cases h
    exact stepOk_read hi hl rfl (held_after fun _ => rfl) (aims_after fun _ _ _ hk => by cases hk)
  | editing patch =>
    obtain ⟨d, hd, he⟩ := Option.map_eq_some_iff.mp h
    cases he
    obtain ⟨hmine, rfl⟩ := Cell.write_eq_some.mp hd
    rw [Cell.commit_of_held rfl, Cell.read_of_free ((copied_iff_free rfl).mp hl.copied)]
    exact ⟨.finish _ hmine, ⟨hi.single, hi.references, hi.underReview⟩, fun _ hk => hk,
      Cell.free_of_held_none rfl, fun k hk => by cases hk⟩
  | settled goLive =>
    cases h
    exact stepOk_commit hl
  | _ => cases h

theorem submitVoucher_step {access : Except AppError Unit} {newId : ℕ} {now : ℤ} (hi : Intact c.committed)
    (hl : Local (.submitVoucher access newId now) i c phase)
    (h : statement fields (.submitVoucher access newId now) i c phase = some (c', phase')) :
    StepOk (.submitVoucher access newId now) i c c' phase' := by
  cases phase with
  | start =>
    cases h
    exact stepOk_read hi hl rfl (held_after fun _ => rfl) (aims_after fun _ _ _ hk => by cases hk)
  | submitting bag =>
    exact stepOk_begin (f := fun r => r.submit bag now) .submitted hi hl rfl
      (fun c' hw => ⟨_, hw, ⟨rfl, rfl⟩, rfl⟩) (fun k hk => by cases hk) h
  | submitted =>
    cases h
    obtain ⟨w, hw, hb, hstatus⟩ := hl.copied
    rw [Cell.read_of_held hw]
    exact ⟨.stay, hi, fun _ hk => hk, ⟨w, hw, hb, hstatus, rfl⟩, fun k hk => by cases hk⟩
  | located existing =>
    obtain ⟨w, hw, hb, hstatus, he⟩ := hl.copied
    obtain ⟨hintact, hknows⟩ : Intact (w.submitApproval newId existing) ∧ _ := hb.intact_submitApproval hi hstatus he
    exact stepOk_end (f := fun r => r.submitApproval newId existing) hi hw hintact hknows h
  | settled goLive =>
    cases h
    exact stepOk_commit hl
  | _ => cases h

theorem withdrawVoucherSubmission_step {access : Except AppError Unit} {now : ℤ} (hi : Intact c.committed)
    (hl : Local (.withdrawVoucherSubmission access now) i c phase)
    (h : statement fields (.withdrawVoucherSubmission access now) i c phase = some (c', phase')) :
    StepOk (.withdrawVoucherSubmission access now) i c c' phase' := by
  cases phase with
  | start =>
    cases h
    exact stepOk_read hi hl rfl (held_after fun _ => rfl) (aims_after fun _ _ _ hk => by cases hk)
  | withdrawing =>
    cases h
    exact stepOk_find hi hl rfl fun _ => rfl
  | found approvalId =>
    exact stepOk_begin (f := Record.withdraw) (.written approvalId false) hi hl rfl
      (fun c' hw => ⟨_, hw, rfl, rfl⟩) (fun k hk => hk) h
  | written approvalId goLive =>
    refine stepOk_decide hi hl ?_ h
    exact fun approval => ⟨rfl, rfl, rfl, fun hp => by cases hp⟩
  | settled goLive =>
    cases h
    exact stepOk_commit hl
  | _ => cases h

theorem approveVoucher_step {approvalId adminId : ℕ} {now : ℤ} (hi : Intact c.committed)
    (hl : Local (.approveVoucher approvalId adminId now) i c phase)
    (h : statement fields (.approveVoucher approvalId adminId now) i c phase = some (c', phase')) :
    StepOk (.approveVoucher approvalId adminId now) i c c' phase' := by
  cases phase with
  | start =>
    cases h
    exact stepOk_check hi hl rfl rfl
  | actionable =>
    cases h
    exact stepOk_read hi hl rfl (held_after fun _ => rfl) (aims_after fun _ _ k hk => hl.aims k hk)
  | judged goLive =>
    exact stepOk_begin (f := fun r => r.approve adminId now goLive) (.written approvalId goLive) hi hl rfl
      (fun c' hw => ⟨_, hw, rfl, rfl⟩) (fun k hk => hk) h
  | written approvalId goLive =>
    refine stepOk_decide hi hl ?_ h
    exact fun approval => ⟨rfl, rfl, rfl, fun hp => by cases hp⟩
  | settled goLive =>
    cases h
    exact stepOk_commit hl
  | _ => cases h

theorem rejectVoucher_step {approvalId adminId : ℕ} {reason : String} {now : ℤ} (hi : Intact c.committed)
    (hl : Local (.rejectVoucher approvalId adminId reason now) i c phase)
    (h : statement fields (.rejectVoucher approvalId adminId reason now) i c phase = some (c', phase')) :
    StepOk (.rejectVoucher approvalId adminId reason now) i c c' phase' := by
  cases phase with
  | start =>
    cases h
    exact stepOk_check hi hl rfl rfl
  | actionable =>
    cases h
    exact stepOk_read hi hl rfl (held_after fun _ => rfl) (aims_after fun _ _ k hk => hl.aims k hk)
  | reviewing bag =>
    exact stepOk_begin (f := Record.reject) (.written approvalId false) hi hl rfl
      (fun c' hw => ⟨_, hw, rfl, rfl⟩) (fun k hk => hk) h
  | written approvalId goLive =>
    refine stepOk_decide hi hl ?_ h
    exact fun approval => ⟨rfl, rfl, rfl, fun hp => by cases hp⟩
  | settled goLive =>
    cases h
    exact stepOk_commit hl
  | _ => cases h

theorem requestVoucherChanges_step {approvalId adminId : ℕ} {proposed : Option Bag} {note : String} {now : ℤ}
    (hi : Intact c.committed) (hl : Local (.requestVoucherChanges approvalId adminId proposed note now) i c phase)
    (h : statement fields (.requestVoucherChanges approvalId adminId proposed note now) i c phase =
      some (c', phase')) :
    StepOk (.requestVoucherChanges approvalId adminId proposed note now) i c c' phase' := by
  cases phase with
  | start =>
    cases h
    exact stepOk_check hi hl rfl rfl
  | actionable =>
    cases h
    exact stepOk_read hi hl rfl (held_after fun _ => rfl) (aims_after fun _ _ k hk => hl.aims k hk)
  | reviewing bag =>
    exact stepOk_begin (f := fun r => r.requestChanges _) (.written approvalId false) hi hl rfl
      (fun c' hw => ⟨_, hw, rfl, rfl⟩) (fun k hk => hk) h
  | written approvalId goLive =>
    refine stepOk_decide hi hl ?_ h
    exact fun approval => ⟨rfl, rfl, rfl, fun hp => by cases hp⟩
  | settled goLive =>
    cases h
    exact stepOk_commit hl
  | _ => cases h

theorem gone_step (hi : Intact c.committed) (hl : Local request i c phase)
    (h : gone request i c phase = some phase') : StepOk request i c c phase' := by
  cases request with
  | updateVoucher access data =>
    cases phase with
    | start => cases h; exact stepOk_notFound hi hl rfl
    | editing patch => cases h; exact stepOk_failed hi hl rfl
    | _ => cases h
  | submitVoucher access newId now =>
    cases phase with
    | start => cases h; exact stepOk_notFound hi hl rfl
    | submitting bag => cases h; exact stepOk_failed hi hl rfl
    | _ => cases h
  | withdrawVoucherSubmission access now =>
    cases phase with
    | start => cases h; exact stepOk_notFound hi hl rfl
    | withdrawing => cases h; exact stepOk_find hi hl rfl fun _ => rfl
    | found approvalId => cases h; exact stepOk_failed hi hl rfl
    | _ => cases h
  | approveVoucher approvalId adminId now =>
    cases phase with
    | start => cases h; exact stepOk_check hi hl rfl rfl
    | actionable => cases h; exact stepOk_failed hi hl rfl
    | judged goLive => cases h; exact stepOk_failed hi hl rfl
    | _ => cases h
  | rejectVoucher approvalId adminId reason now =>
    cases phase with
    | start => cases h; exact stepOk_check hi hl rfl rfl
    | actionable => cases h; exact stepOk_failed hi hl rfl
    | reviewing bag => cases h; exact stepOk_failed hi hl rfl
    | _ => cases h
  | requestVoucherChanges approvalId adminId proposed note now =>
    cases phase with
    | start => cases h; exact stepOk_check hi hl rfl rfl
    | actionable => cases h; exact stepOk_failed hi hl rfl
    | reviewing bag => cases h; exact stepOk_failed hi hl rfl
    | _ => cases h

omit [DecidableEq ι] in
theorem judge_step (hi : Intact c.committed) (hl : Local request i c phase) (h : judge request phase a = some phase') :
    StepOk request i c c phase' := by
  obtain ⟨-, hp, hp'⟩ := judge_cases h
  refine stepOk_read hi hl hp hp' ?_
  cases request with
  | approveVoucher approvalId adminId now =>
    have hsame : target (.approveVoucher approvalId adminId now) phase' =
        target (.approveVoucher approvalId adminId now) phase := by
      cases a with
      | readMerchant status =>
        cases phase with
        | reviewing bag =>
          cases h
          split_ifs
          · rfl
          · rfl
        | _ => cases h
      | countFlagships notLive =>
        cases phase with
        | merchantLive =>
          cases h
          rfl
        | _ => cases h
      | _ => cases h
    rw [hsame]
    exact hl.aims
  | _ => cases a <;> cases h

/-- A step of a request while the voucher is there. -/
theorem next_step (hi : Intact c.committed) (hl : Local request i c phase)
    (h : VoucherReview.next fields (fun _ => request) i c phase a = some (c', phase')) :
    StepOk request i c c' phase' := by
  have hjudged : (judge request phase a).map (fun phase => (c, phase)) = some (c', phase') →
      StepOk request i c c' phase' := by
    intro hmap
    obtain ⟨p, hp, he⟩ := Option.map_eq_some_iff.mp hmap
    cases he
    exact judge_step hi hl hp
  cases a with
  | statement =>
    cases request with
    | updateVoucher access data => exact updateVoucher_step hi hl h
    | submitVoucher access newId now => exact submitVoucher_step hi hl h
    | withdrawVoucherSubmission access now => exact withdrawVoucherSubmission_step hi hl h
    | approveVoucher approvalId adminId now => exact approveVoucher_step hi hl h
    | rejectVoucher approvalId adminId reason now => exact rejectVoucher_step hi hl h
    | requestVoucherChanges approvalId adminId proposed note now => exact requestVoucherChanges_step hi hl h
  | readMerchant status => exact hjudged h
  | countFlagships notLive => exact hjudged h
  | abandon =>
    rw [VoucherReview.next] at h
    split_ifs at h with hover
    cases h
    obtain ⟨hfree, hcommitted⟩ := Cell.free_rollback (c := c) (i := i)
    refine ⟨Cell.moves_rollback, ?_, ?_, hfree, fun k hk => ?_⟩
    · rw [hcommitted]
      exact hi
    · rw [hcommitted]
      exact fun _ hk => hk
    · cases request <;> cases hk

/-- Outside its statements a request leaves a record that nobody holds. -/
theorem held_of_not_statement (ha : a ≠ .statement) (hc : c.held = none)
    (h : VoucherReview.next fields (fun _ => request) i c phase a = some (c', phase')) :
    c'.held = none ∧ c'.committed = c.committed := by
  have hjudged : (judge request phase a).map (fun phase => (c, phase)) = some (c', phase') →
      c'.held = none ∧ c'.committed = c.committed := by
    intro hmap
    obtain ⟨p, -, he⟩ := Option.map_eq_some_iff.mp hmap
    cases he
    exact ⟨hc, rfl⟩
  cases a with
  | statement => exact absurd rfl ha
  | readMerchant status => exact hjudged h
  | countFlagships notLive => exact hjudged h
  | abandon =>
    rw [VoucherReview.next] at h
    split_ifs at h
    cases h
    rw [Cell.rollback_of_free (Cell.free_of_held_none hc)]
    exact ⟨hc, rfl⟩

/-! ### The steps of each call -/

/-- What every step keeps of the store. -/
structure Kept (s : Store ι Bag) : Prop where
  intact : Intact s.record.committed
  /-- A deletion has waited for the transactions that held the voucher. -/
  quiet : s.deleted = true → s.record.held = none

/-- What a call knows and holds. -/
def Mine (call : Call Bag) (i : ι) (s : Store ι Bag) (phase : Phase Bag) : Prop :=
  match call, phase with
  | .review request, .within phase => Local request i s.record phase
  | .review _, .deletable => False
  | .deleteVoucher _, _ => s.record.Free i

/-- What a step does to the store: only a deletion takes the voucher away. -/
inductive Effect (call : Call Bag) (s : Store ι Bag) (phase : Phase Bag) (a : Act) (s' : Store ι Bag) : Prop
  | record (hdeleted : s'.deleted = s.deleted)
    (hgone : s.deleted = true → s'.record.committed = s.record.committed) (hno : ¬ Orphans call s phase a)
  | delete (access : Except AppError Unit) (hcall : call = .deleteVoucher access) (hp : phase = .deletable)
    (ha : a = .statement) (hthere : s.deleted = false) (hfree : s.record.held = none)
    (h : s' = { s with deleted := true })

structure StoreStep (call : Call Bag) (i : ι) (s : Store ι Bag) (phase : Phase Bag) (a : Act) (s' : Store ι Bag)
    (phase' : Phase Bag) : Prop where
  kept : Kept s'
  moves : Cell.Moves i s.record s'.record
  knows : ∀ k, Knows k s.record.committed → Knows k s'.record.committed
  mine : Mine call i s' phase'
  effect : Effect call s phase a s'

variable {call : Call Bag} {s s' : Store ι Bag} {p p' : Phase Bag}

theorem review_step (hk : Kept s) (hm : Local request i s.record phase)
    (h : reviewStep fields request i s phase a = some (s', phase')) :
    StoreStep (.review request) i s (.within phase) a s' (.within phase') := by
  have hno : ¬ Orphans (.review request) s (.within phase) a := by
    rintro ⟨⟨access, hcall⟩, -⟩
    cases hcall
  rw [reviewStep] at h
  split_ifs at h with hgone
  · obtain ⟨q, hq, he⟩ := Option.map_eq_some_iff.mp h
    cases he
    have hstep := gone_step hk.intact hm hq
    exact ⟨hk, hstep.moves, hstep.knows, hstep.keeps, .record rfl (fun _ => rfl) hno⟩
  · obtain ⟨⟨c', q⟩, hq, he⟩ := Option.map_eq_some_iff.mp h
    cases he
    have hstep := next_step hk.intact hm hq
    have hquiet : s.deleted = true → c'.held = none ∧ c'.committed = s.record.committed := by
      intro hdeleted
      exact held_of_not_statement (fun ha => hgone ⟨hdeleted, ha⟩) (hk.quiet hdeleted) hq
    exact ⟨⟨hstep.intact, fun hdeleted => (hquiet hdeleted).1⟩, hstep.moves, hstep.knows, hstep.keeps,
      .record rfl (fun hdeleted => (hquiet hdeleted).2) hno⟩

theorem delete_step {access : Except AppError Unit} (hk : Kept s) (hf : s.record.Free i)
    (h : deleteStep access i s p a = some (s', p')) : StoreStep (.deleteVoucher access) i s p a s' p' := by
  have hstay : ∀ q, ¬ Orphans (.deleteVoucher access) s p a → StoreStep (.deleteVoucher access) i s p a s q :=
    fun q hno => ⟨hk, .stay, fun _ hk => hk, hf, .record rfl (fun _ => rfl) hno⟩
  cases p with
  | within phase =>
    have hno : ¬ Orphans (.deleteVoucher access) s (.within phase) a := by
      rintro ⟨-, hp, -⟩
      cases hp
    cases phase with
    | start =>
      cases a with
      | statement =>
        cases h
        exact hstay _ hno
      | abandon =>
        cases h
        exact hstay _ hno
      | _ => cases h
    | _ => cases a <;> cases h
  | deletable =>
    cases a with
    | statement =>
      rw [deleteStep] at h
      split_ifs at h with hdeleted hheld
      · cases h
        refine hstay _ ?_
        rintro ⟨-, -, -, hthere, -⟩
        cases hdeleted.symm.trans hthere
      · cases h
        have hthere : s.deleted = false := Bool.eq_false_iff.mpr hdeleted
        have hfree : s.record.held = none := Option.not_isSome_iff_eq_none.mp hheld
        exact ⟨⟨hk.intact, fun _ => hfree⟩, .stay, fun _ hk => hk, hf,
          .delete access rfl rfl rfl hthere hfree rfl⟩
    | abandon =>
      cases h
      refine hstay _ ?_
      rintro ⟨-, -, ha, -⟩
      cases ha
    | _ => cases h

theorem store_step {calls : ι → Call Bag} (hk : Kept s) (hm : Mine (calls i) i s p)
    (h : next fields calls i s p a = some (s', p')) : StoreStep (calls i) i s p a s' p' := by
  cases hcall : calls i with
  | review request =>
    rw [hcall] at hm
    cases p with
    | within phase =>
      simp only [next, hcall] at h
      obtain ⟨⟨t, q⟩, hq, he⟩ := Option.map_eq_some_iff.mp h
      cases he
      exact review_step hk hm hq
    | deletable => exact hm.elim
  | deleteVoucher access =>
    rw [hcall] at hm
    simp only [next, hcall] at h
    exact delete_step hk hm h

omit [DecidableEq ι] in
/-- A step keeps the integrity of the queue exactly when it does not orphan an approval. -/
theorem integrity_step (hk : Kept s') (hi : Integrity s) (h : Effect call s p a s') :
    Integrity s' ↔ ¬ Orphans call s p a := by
  cases h with
  | record hdeleted hgone hno =>
    refine iff_of_true ⟨hk.intact, fun hwaits => ?_⟩ hno
    rw [hdeleted]
    cases hthere : s.deleted with
    | false => rfl
    | true =>
      rw [hgone hthere] at hwaits
      exact hthere.symm.trans (hi.present hwaits)
  | delete access hcall hp ha hthere hfree h =>
    subst h
    constructor
    · rintro hi' ⟨-, -, -, -, -, hwaits⟩
      cases hi'.present hwaits
    · intro hno
      exact ⟨hi.intact, fun hwaits => absurd ⟨⟨access, hcall⟩, hp, ha, hthere, hfree, hwaits⟩ hno⟩

omit [DecidableEq ι] in
/-- Another call's step leaves this one with what it knows and holds. -/
theorem mine_frame (hne : i ≠ j) (hmoves : Cell.Moves i s.record s'.record)
    (hknows : ∀ k, Knows k s.record.committed → Knows k s'.record.committed) (hm : Mine call j s p) :
    Mine call j s' p := by
  cases call with
  | review request =>
    cases p with
    | within phase =>
      refine ⟨?_, fun k hk => hknows k (hm.aims k hk)⟩
      cases hp : phase.held with
      | none => exact (copied_iff_free hp).mpr (hmoves.free_of_ne hne ((copied_iff_free hp).mp hm.copied))
      | some goLive =>
        -- this call holds the record, so that nobody else has touched it
        have hsame : s'.record = s.record := by
          obtain ⟨w, hw⟩ := copied_held hp hm.copied
          exact hmoves.held_of_ne hne hw
        rw [hsame]
        exact hm.copied
    | deletable => exact hm.elim
  | deleteVoucher access => exact hmoves.free_of_ne hne hm

variable {calls : ι → Call Bag}

theorem pool_step (s : Pool ι (Store ι Bag) (Phase Bag)) (a : ι × Act) (s' : Pool ι (Store ι Bag) (Phase Bag))
    (hk : PoolInv Kept (fun i s phase => Mine (calls i) i s phase) s)
    (h : poolStep (next fields calls) s a = some s') :
    PoolInv Kept (fun i s phase => Mine (calls i) i s phase) s' := by
  refine poolInv_step (K := fun i s phase => Mine (calls i) i s phase) ?_ ?_ s a s' hk h
  · intro i s p a s' p' hk hm hn
    have hstep := store_step hk hm hn
    exact ⟨hstep.kept, hstep.mine⟩
  · intro i j s p q a s' p' hne hk hm hother hn
    have hstep := store_step hk hm hn
    exact mine_frame hne hstep.moves hstep.knows hother

theorem next_of_orphans (ho : Orphans (calls i) s p a) : next fields calls i s p a ≠ none := by
  obtain ⟨⟨access, hcall⟩, rfl, rfl, hthere, hfree, -⟩ := ho
  simp only [next, hcall, deleteStep, hthere, hfree]
  exact Option.some_ne_none _

omit [DecidableEq ι] in
theorem mine_idle {r : Record Bag} : Mine call i (idle (ι := ι) r).store (.within .start) := by
  cases call with
  | review request =>
    refine ⟨Cell.free_of_held_none rfl, fun k hk => ?_⟩
    cases request <;> cases hk
  | deleteVoucher access => exact Cell.free_of_held_none rfl

/-- CORRECT: throughout an interleaving of any number of calls about a voucher it has at most one approval,
    which is PENDING only while the voucher is under review, and a voucher whose approval waits for an
    admin exists, if and only if no deletion lands on a voucher whose approval waits. -/
theorem integrity_throughout_iff {r : Record Bag} {as : List (ι × Act)} (hr : Intact r) :
    Throughout (poolStep (next fields calls)) (fun s => Integrity s.store) (idle r) as ↔
      Along (poolStep (next fields calls)) (fun s a => ¬ Orphans (calls a.1) s.store (s.proc a.1) a.2)
        (idle r) as := by
  refine throughout_iff_along_of_refused (K := PoolInv Kept fun i s phase => Mine (calls i) i s phase)
    (fun s a hrefused ho => ?_) pool_step (fun s a s' hk hi h => ?_) ⟨⟨hr, fun _ => rfl⟩, fun i => ?_⟩
    ⟨hr, fun _ => rfl⟩
  · rw [poolStep, Option.map_eq_none_iff] at hrefused
    exact next_of_orphans ho hrefused
  · obtain ⟨t, p, hn, rfl⟩ := poolStep_eq_some.mp h
    have hstep := store_step hk.1 (hk.2 a.1) hn
    exact integrity_step hstep.kept hi hstep.effect
  · exact mine_idle

end

/-! ### Deleting after a submission -/

/-- A draft that is submitted, then withdrawn or sent back, and then deleted. -/
def deletedAfter (request : Request Unit) : Fin 3 → Call Unit
  | 0 => .review (.submitVoucher (.ok ()) 0 0)
  | 1 => .review request
  | 2 => .deleteVoucher (.ok ())

/-- One call after the other. -/
def inTurn : List (Fin 3 × Act) :=
  List.replicate 5 (0, .statement) ++ List.replicate 5 (1, .statement) ++ List.replicate 2 (2, .statement)

def draft : Record Unit := ⟨freeCoffee, [], none⟩

theorem draft_intact : Intact draft :=
  ⟨Nat.zero_le 1, List.forall_mem_nil _, List.forall_mem_nil _⟩

theorem withdrawn_deleted : Throughout
    (poolStep (next filledIn (deletedAfter (.withdrawVoucherSubmission (.ok ()) 1))))
    (fun s => Integrity s.store) (idle draft) inTurn := by
  refine (integrity_throughout_iff draft_intact).mpr (along_iff.mpr fun xs a ys s he hr => ?_)
  have hwithdrawn : ∀ n < 12, (inTurn[n]?).map Prod.fst = some 2 →
      (run (poolStep (next filledIn (deletedAfter (.withdrawVoucherSubmission (.ok ()) 1)))) (idle draft)
        (inTurn.take n)).map (fun s => s.store.record.committed.approvals.map AdminApproval.status) =
          some [.WITHDRAWN] := by decide +kernel
  have hlength : xs.length < 12 := by
    have hsum := congrArg List.length he
    simp only [inTurn, List.length_replicate, List.length_append, List.length_cons] at hsum
    omega
  rintro ⟨⟨access, hcall⟩, -, -, -, -, approval, hmem, hactionable⟩
  have hi : a.1 = 2 := by
    obtain ⟨i, act⟩ := a
    dsimp only at hcall
    match i with
    | 0 => cases hcall
    | 1 => cases hcall
    | 2 => rfl
  have hstatus := hwithdrawn xs.length hlength (by rw [he, List.getElem?_append_right le_rfl]; simp [hi])
  rw [he, List.take_left, hr] at hstatus
  have hone : approval.status ∈ [ApprovalStatus.WITHDRAWN] :=
    Option.some.inj hstatus ▸ List.mem_map_of_mem hmem
  rw [List.mem_singleton.mp hone] at hactionable
  revert hactionable
  decide

/-- The admin asks for changes, and the merchant deletes the draft: the approval waits for ever. -/
theorem sentBack_deleted : ∃ s, run (poolStep (next filledIn
      (deletedAfter (.requestVoucherChanges 0 7 none "Add terms" 1)))) (idle draft) inTurn = some s ∧
    s.store.deleted = true ∧
    s.store.record.committed.approvals.map AdminApproval.status = [.CHANGES_REQUESTED] ∧
    ¬ Integrity s.store := by
  refine ⟨_, rfl, rfl, rfl, fun hi => ?_⟩
  cases hi.present ⟨_, List.mem_singleton_self _, by decide⟩

end Redeemo.VoucherQueue
