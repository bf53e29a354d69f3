import Redeemo.Voucher.Review

/-! A submission is withdrawn by its merchant, approved or rejected: one of them.

    Each of these calls reads the approval, finds it actionable, and later writes the voucher and the
    approval without asking again. The voucher is written first and held to the end, so one call at a time
    gets to its commit (`Local`), and the approval is actionable exactly as long as none has succeeded
    (`Tally`). What goes wrong is a call that was let through before another one decided, and commits after
    it (`Overrules`). -/

namespace Redeemo.VoucherWithdrawal
open Fallible ReadCommitted Rows Runs Vouchers VoucherReview

variable {Bag : Type} {ι : Type*}

/-! ### The calls about one submission -/

/-- A call about the submission with the approval `k`. A withdrawal looks the approval up. -/
def Decides (k : ℕ) : Request Bag → Prop
  | .withdrawVoucherSubmission _ _ => True
  | .approveVoucher approvalId _ _ => approvalId = k
  | .rejectVoucher approvalId _ _ _ => approvalId = k
  | _ => False

/-- The status of the approval. -/
def statusOf (k : ℕ) (r : Record Bag) : Option ApprovalStatus := (r.findApproval k).map AdminApproval.status

/-- The submission has not been decided. -/
def Undecided (k : ℕ) (r : Record Bag) : Prop := ∃ status ∈ ACTIONABLE_STATUSES, statusOf k r = some status

/-- Whatever approval a withdrawal finds, it is the one of the submission. -/
def Sole (k : ℕ) (r : Record Bag) : Prop :=
  ∀ approval ∈ r.approvals, approval.type = .VOUCHER → approval.status ∈ ACTIONABLE_STATUSES → approval.id = k

/-- What a call that has succeeded leaves behind. -/
def Achieved (k : ℕ) (request : Request Bag) (r : Record Bag) : Prop :=
  match request with
  | .withdrawVoucherSubmission _ _ => r.voucher.status = .DRAFT ∧ statusOf k r = some .WITHDRAWN
  | .approveVoucher _ _ _ => r.voucher.approvalStatus = .APPROVED ∧ statusOf k r = some .APPROVED
  | .rejectVoucher _ _ _ _ => r.voucher.status = .INACTIVE ∧ r.voucher.approvalStatus = .REJECTED ∧
      statusOf k r = some .REJECTED
  | _ => False

/-- At most one of the calls has succeeded, and the submission is as that one leaves it. -/
structure Exclusive (k : ℕ) (requests : ι → Request Bag)
    (s : Pool ι (Cell ι (Record Bag)) (Phase Bag)) : Prop where
  single : ∀ i j, s.proc i = .returned → s.proc j = .returned → i = j
  consistent : ∀ i, s.proc i = .returned → Achieved k (requests i) s.store.committed

/-! ### What a call makes of the record -/

/-- Its write to the voucher. -/
def voucherWrite (request : Request Bag) (goLive : Bool) : Record Bag → Record Bag :=
  match request with
  | .withdrawVoucherSubmission _ _ => Record.withdraw
  | .approveVoucher _ adminId now => fun r => r.approve adminId now goLive
  | .rejectVoucher _ _ _ _ => Record.reject
  | _ => fun r => r

/-- Its write to the approval. -/
def approvalWrite (request : Request Bag) (k : ℕ) : Record Bag → Record Bag :=
  match request with
  | .withdrawVoucherSubmission _ now => fun r => r.withdrawApproval k now
  | .approveVoucher _ adminId now => fun r => r.updateApproval k (AdminApproval.decide .APPROVED none adminId now)
  | .rejectVoucher _ adminId reason now =>
    fun r => r.updateApproval k (AdminApproval.decide .REJECTED (some reason) adminId now)
  | _ => fun r => r

def done (k : ℕ) (request : Request Bag) : Phase Bag → Option (Record Bag → Record Bag)
  | .written _ goLive => some (voucherWrite request goLive)
  | .settled goLive => some (approvalWrite request k ∘ voucherWrite request goLive)
  | _ => none

/-- The approval that a call is about to write is the one of the submission. -/
def Aims (k : ℕ) : Phase Bag → Prop
  | .found approvalId => approvalId = k
  | .written approvalId _ => approvalId = k
  | _ => True

structure Local (k : ℕ) (request : Request Bag) (i : ι) (c : Cell ι (Record Bag)) (phase : Phase Bag) : Prop where
  copy : c.Holds i (done k request phase)
  aims : Aims k phase

/-- A call commits when the submission is decided: another one has committed since this one was let
    through. -/
def Overrules (k : ℕ) (c : Cell ι (Record Bag)) (phase : Phase Bag) (a : Act) : Prop :=
  a = .statement ∧ (∃ goLive, phase = .settled goLive) ∧ ¬ Undecided k c.committed

/-- What a step does to the committed record. -/
inductive Changes (k : ℕ) (request : Request Bag) (c : Cell ι (Record Bag)) (phase : Phase Bag) (a : Act)
    (c' : Cell ι (Record Bag)) (phase' : Phase Bag) : Prop
  | none (h : c'.committed = c.committed) (hno : ¬ Overrules k c phase a) (hphase' : phase' ≠ .returned)
  | commit (goLive : Bool) (ha : a = .statement) (hp : phase = .settled goLive) (hp' : phase' = .returned)
    (h : c'.committed = approvalWrite request k (voucherWrite request goLive c.committed))

structure StepOk (k : ℕ) (request : Request Bag) (i : ι) (c : Cell ι (Record Bag)) (phase : Phase Bag) (a : Act)
    (c' : Cell ι (Record Bag)) (phase' : Phase Bag) : Prop where
  before : phase ≠ .returned
  moves : Cell.Moves i c c'
  keeps : Local k request i c' phase'
  changes : Changes k request c phase a c' phase'

section
variable {fields : MerchantFields Bag} {k : ℕ} {request : Request Bag} {i j : ι} {c c' : Cell ι (Record Bag)}
  {phase phase' : Phase Bag} {a : Act} {r : Record Bag} {goLive : Bool}

theorem statusOf_updateApproval {f : AdminApproval → AdminApproval} {approval : AdminApproval}
    (hf : ∀ approval, (f approval).id = approval.id) (h : r.findApproval k = some approval) :
    statusOf k (r.updateApproval k f) = some (f approval).status := by
  have hid : approval.id = k := (find_some h).2
  rw [Record.findApproval] at h
  rw [statusOf, Record.findApproval, Record.updateApproval, find_updateMany hf, h, Option.map_some, if_pos hid]
  rfl

/-- The second write gives the approval the status of the decision. -/
theorem achieved_approvalWrite (hd : Decides k request) (h : ∃ status, statusOf k r = some status) :
    Achieved k request (approvalWrite request k (voucherWrite request goLive r)) := by
  obtain ⟨status, hs⟩ := h
  obtain ⟨approval, hfound, rfl⟩ := Option.map_eq_some_iff.mp hs
  have hset : ∀ (r' : Record Bag) (f : AdminApproval → AdminApproval), r'.approvals = r.approvals →
      (∀ approval, (f approval).id = approval.id) →
      statusOf k (r'.updateApproval k f) = some (f approval).status := by
    intro r' f hr' hf
    refine statusOf_updateApproval hf ?_
    rw [Record.findApproval, hr']
    exact hfound
  cases request with
  | withdrawVoucherSubmission access now => exact ⟨rfl, hset r.withdraw _ rfl fun _ => rfl⟩
  | approveVoucher approvalId adminId now =>
    exact ⟨rfl, hset (r.approve adminId now goLive) _ rfl fun _ => rfl⟩
  | rejectVoucher approvalId adminId reason now => exact ⟨rfl, rfl, hset r.reject _ rfl fun _ => rfl⟩
  | _ => exact hd.elim

theorem Achieved.decided (h : Achieved k request r) : ¬ Undecided k r := by
  rintro ⟨status, hactionable, hs⟩
  have hother : ∀ decision, decision ∉ ACTIONABLE_STATUSES → statusOf k r ≠ some decision := by
    intro decision hno he
    cases he.symm.trans hs
    exact hno hactionable
  cases request with
  | withdrawVoucherSubmission access now => exact hother _ (by decide) h.2
  | approveVoucher approvalId adminId now => exact hother _ (by decide) h.2
  | rejectVoucher approvalId adminId reason now => exact hother _ (by decide) h.2.2
  | _ => exact h.elim

theorem Achieved.status (h : Achieved k request r) : ∃ status, statusOf k r = some status := by
  cases request with
  | withdrawVoucherSubmission access now => exact ⟨_, h.2⟩
  | approveVoucher approvalId adminId now => exact ⟨_, h.2⟩
  | rejectVoucher approvalId adminId reason now => exact ⟨_, h.2.2⟩
  | _ => exact h.elim

/-- A decision opens no approval. -/
theorem sole_approvalWrite (hd : Decides k request) (h : Sole k r) :
    Sole k (approvalWrite request k (voucherWrite request goLive r)) := by
  have hset : ∀ (r' : Record Bag) (f : AdminApproval → AdminApproval), r'.approvals = r.approvals →
      (∀ approval, (f approval).id = approval.id) → Sole k (r'.updateApproval k f) := by
    intro r' f hr' hf approval hmem htype hstatus
    obtain ⟨old, hold, ⟨hid, rfl⟩ | ⟨-, rfl⟩⟩ := mem_updateMany.mp hmem
    · exact (hf old).trans hid
    · exact h approval (hr' ▸ hold) htype hstatus
  cases request with
  | withdrawVoucherSubmission access now => exact hset r.withdraw _ rfl fun _ => rfl
  | approveVoucher approvalId adminId now => exact hset (r.approve adminId now goLive) _ rfl fun _ => rfl
  | rejectVoucher approvalId adminId reason now => exact hset r.reject _ rfl fun _ => rfl
  | _ => exact hd.elim

theorem Sole.found (h : Sole k r) {approval : AdminApproval} (hfound : r.findOpen = some approval) :
    approval.id = k := by
  obtain ⟨hmem, htype, hstatus⟩ := find_some hfound
  exact h approval hmem htype hstatus

theorem ne_returned (h : phase.over = false) : phase ≠ .returned := by
  rintro rfl
  cases h

/-- A phase from which a call neither commits nor has returned. -/
def Ongoing : Phase Bag → Prop
  | .settled _ => False
  | .returned => False
  | _ => True

theorem Ongoing.ne_returned (h : Ongoing phase) : phase ≠ .returned := by
  rintro rfl
  exact h

theorem Ongoing.not_overrules (h : Ongoing phase) : ¬ Overrules k c phase a := by
  rintro ⟨-, ⟨goLive, rfl⟩, -⟩
  exact h

theorem aims_after {σ : Type*} {x : Except AppError σ} {f : σ → Phase Bag}
    (hf : ∀ b, x = .ok b → Aims k (f b) ∧ done k request (f b) = none ∧ (f b).over = false) :
    Aims k (after x f) ∧ done k request (after x f) = none ∧ after x f ≠ .returned := by
  cases x with
  | ok b =>
    obtain ⟨haims, hnone, hover⟩ := hf b rfl
    exact ⟨haims, hnone, ne_returned hover⟩
  | error e => exact ⟨trivial, rfl, fun hp => by cases hp⟩

/-- A step before the first write. -/
theorem stepOk_read (hl : Local k request i c phase) (hnone : done k request phase = none) (hp : Ongoing phase)
    (h : Aims k phase' ∧ done k request phase' = none ∧ phase' ≠ .returned) :
    StepOk k request i c phase a c phase' := by
  obtain ⟨haims, hnone', hphase'⟩ := h
  have hfree := hl.copy
  rw [hnone] at hfree
  refine ⟨hp.ne_returned, .stay, ⟨?_, haims⟩, .none rfl hp.not_overrules hphase'⟩
  rw [hnone']
  exact hfree

variable [DecidableEq ι]

/-- A write: the call goes on with what it makes of the record. -/
theorem stepOk_write {f : Record Bag → Record Bag} (p : Phase Bag) (hl : Local k request i c phase)
    (hp : Ongoing phase) (hdone : done k request p = some (f ∘ (done k request phase).getD id)) (haims : Aims k p)
    (hover : p.over = false)
    (h : (c.write i (f (c.read i))).map (fun c' => (c', p)) = some (c', phase')) :
    StepOk k request i c phase a c' phase' := by
  obtain ⟨d, hd, he⟩ := Option.map_eq_some_iff.mp h
  cases he
  obtain ⟨hmoves, hcommitted, hholds⟩ := hl.copy.write hd
  refine ⟨hp.ne_returned, hmoves, ⟨?_, haims⟩, .none hcommitted hp.not_overrules (ne_returned hover)⟩
  rw [hdone]
  exact hholds

theorem stepOk_commit (hl : Local k request i c (.settled goLive)) :
    StepOk k request i c (.settled goLive) .statement (c.commit i) .returned := by
  obtain ⟨hmoves, hcommitted, hfree⟩ := hl.copy.commit
  exact ⟨(fun hp => by cases hp), hmoves, ⟨hfree, trivial⟩, .commit goLive rfl rfl rfl hcommitted⟩

/-! ### The steps of each call -/

theorem withdrawVoucherSubmission_step {access : Except AppError Unit} {now : ℤ} (hs : Sole k c.committed)
    (hl : Local k (.withdrawVoucherSubmission access now) i c phase)
    (h : statement fields (.withdrawVoucherSubmission access now) i c phase = some (c', phase')) :
    StepOk k (.withdrawVoucherSubmission access now) i c phase .statement c' phase' := by
  cases phase with
  | start =>
    cases h
    exact stepOk_read hl rfl trivial (aims_after fun _ _ => ⟨trivial, rfl, rfl⟩)
  | withdrawing =>
    cases h
    refine stepOk_read hl rfl trivial (aims_after fun approval hfound => ?_)
    have hread : c.read i = c.committed := Cell.read_of_free hl.copy
    rw [hread] at hfound
    exact ⟨hs.found (orReject_eq_ok.mp hfound), rfl, rfl⟩
  | found approvalId =>
    exact stepOk_write (f := Record.withdraw) (.written approvalId false) hl trivial rfl hl.aims rfl h
  | written approvalId goLive =>
    obtain rfl : approvalId = k := hl.aims
    exact stepOk_write (f := fun r => r.withdrawApproval approvalId now) (.settled goLive) hl trivial rfl trivial rfl h
  | settled goLive =>
    cases h
    exact stepOk_commit hl
  | _ => cases h

theorem approveVoucher_step {adminId : ℕ} {now : ℤ} (hl : Local k (.approveVoucher k adminId now) i c phase)
    (h : statement fields (.approveVoucher k adminId now) i c phase = some (c', phase')) :
    StepOk k (.approveVoucher k adminId now) i c phase .statement c' phase' := by
  cases phase with
  | start =>
    cases h
    exact stepOk_read hl rfl trivial (aims_after fun _ _ => ⟨trivial, rfl, rfl⟩)
  | actionable =>
    cases h
    exact stepOk_read hl rfl trivial (aims_after fun _ _ => ⟨trivial, rfl, rfl⟩)
  | judged goLive =>
    exact stepOk_write (f := fun r => r.approve adminId now goLive) (.written k goLive) hl trivial rfl rfl rfl h
  | written approvalId goLive =>
    obtain rfl : approvalId = k := hl.aims
    exact stepOk_write (f := fun r => r.updateApproval approvalId _) (.settled goLive) hl trivial rfl trivial rfl h
  | settled goLive =>
    cases h
    exact stepOk_commit hl
  | _ => cases h

theorem rejectVoucher_step {adminId : ℕ} {reason : String} {now : ℤ}
    (hl : Local k (.rejectVoucher k adminId reason now) i c phase)
    (h : statement fields (.rejectVoucher k adminId reason now) i c phase = some (c', phase')) :
    StepOk k (.rejectVoucher k adminId reason now) i c phase .statement c' phase' := by
  cases phase with
  | start =>
    cases h
    exact stepOk_read hl rfl trivial (aims_after fun _ _ => ⟨trivial, rfl, rfl⟩)
  | actionable =>
    cases h
    exact stepOk_read hl rfl trivial (aims_after fun _ _ => ⟨trivial, rfl, rfl⟩)
  | reviewing bag =>
    exact stepOk_write (f := Record.reject) (.written k false) hl trivial rfl rfl rfl h
  | written approvalId goLive =>
    obtain rfl : approvalId = k := hl.aims
    exact stepOk_write (f := fun r => r.updateApproval approvalId _) (.settled goLive) hl trivial rfl trivial rfl h
  | settled goLive =>
    cases h
    exact stepOk_commit hl
  | _ => cases h

omit [DecidableEq ι] in
/-- The reads of an approval outside the record. -/
theorem judge_step (hl : Local k request i c phase) (h : judge request phase a = some phase') :
    StepOk k request i c phase a c phase' := by
  cases request with
  | approveVoucher approvalId adminId now =>
    cases a with
    | readMerchant status =>
      cases phase with
      | reviewing bag =>
        cases h
        refine stepOk_read hl rfl trivial ?_
        split_ifs
        · exact ⟨trivial, rfl, ne_returned rfl⟩
        · exact ⟨trivial, rfl, ne_returned rfl⟩
      | _ => cases h
    | countFlagships notLive =>
      cases phase with
      | merchantLive =>
        cases h
        exact stepOk_read hl rfl trivial ⟨trivial, rfl, ne_returned rfl⟩
      | _ => cases h
    | _ => cases h
  | _ => cases a <;> cases h

theorem abandon_step (hover : phase.over = false) :
    StepOk k request i c phase .abandon (c.rollback i) (.failed .aborted) := by
  obtain ⟨hfree, hcommitted⟩ := Cell.free_rollback (c := c) (i := i)
  refine ⟨ne_returned hover, Cell.moves_rollback, ⟨hfree, trivial⟩, .none hcommitted ?_ fun hp => by cases hp⟩
  rintro ⟨ha, -⟩
  cases ha

/-! ### Every interleaving -/

theorem next_step {requests : ι → Request Bag} (hd : Decides k (requests i)) (hs : Sole k c.committed)
    (hl : Local k (requests i) i c phase) (h : next fields requests i c phase a = some (c', phase')) :
    StepOk k (requests i) i c phase a c' phase' := by
  have hjudged : (judge (requests i) phase a).map (fun phase => (c, phase)) = some (c', phase') →
      StepOk k (requests i) i c phase a c' phase' := by
    intro hmap
    obtain ⟨p, hp, he⟩ := Option.map_eq_some_iff.mp hmap
    cases he
    exact judge_step hl hp
  cases a with
  | statement =>
    rw [next] at h
    cases hr : requests i with
    | withdrawVoucherSubmission access now =>
      rw [hr] at hl h
      exact withdrawVoucherSubmission_step hs hl h
    | approveVoucher approvalId adminId now =>
      rw [hr] at hd hl h
      obtain rfl : approvalId = k := hd
      exact approveVoucher_step hl h
    | rejectVoucher approvalId adminId reason now =>
      rw [hr] at hd hl h
      obtain rfl : approvalId = k := hd
      exact rejectVoucher_step hl h
    | _ =>
      rw [hr] at hd
      exact hd.elim
  | readMerchant status => exact hjudged h
  | countFlagships notLive => exact hjudged h
  | abandon =>
    rw [next] at h
    split_ifs at h with hover
    cases h
    exact abandon_step (Bool.eq_false_iff.mpr hover)

/-- The submission has its approval, and no other is open. -/
structure Submission (k : ℕ) (c : Cell ι (Record Bag)) : Prop where
  sole : Sole k c.committed
  status : ∃ status, statusOf k c.committed = some status

/-- The submission is undecided exactly as long as no call has succeeded. -/
def Tally (k : ℕ) (s : Pool ι (Cell ι (Record Bag)) (Phase Bag)) : Prop :=
  Undecided k s.store.committed ↔ ∀ i, s.proc i ≠ .returned

/-- What holds throughout. -/
structure Inv (k : ℕ) (requests : ι → Request Bag) (s : Pool ι (Cell ι (Record Bag)) (Phase Bag)) : Prop where
  pool : PoolInv (Submission k) (fun i c phase => Local k (requests i) i c phase) s
  tally : Tally k s

omit [DecidableEq ι] in
theorem submission_step {requests : ι → Request Bag} (hd : Decides k (requests i)) (hj : Submission k c)
    (h : Changes k (requests i) c phase a c' phase') : Submission k c' := by
  cases h with
  | none h hno hphase' =>
    refine ⟨?_, ?_⟩
    · rw [h]
      exact hj.sole
    · rw [h]
      exact hj.status
  | commit goLive ha hp hp' h =>
    refine ⟨?_, ?_⟩
    · rw [h]
      exact sole_approvalWrite hd hj.sole
    · rw [h]
      exact (achieved_approvalWrite hd hj.status).status

variable {requests : ι → Request Bag} {s s' : Pool ι (Cell ι (Record Bag)) (Phase Bag)} {proc : ι → Phase Bag}

theorem returned_iff_of_ne (hbefore : proc i ≠ .returned) (hp : phase ≠ .returned) :
    Function.update proc i phase j = .returned ↔ proc j = .returned := by
  rcases eq_or_ne j i with rfl | hne
  · rw [Function.update_self]
    exact iff_of_false hp hbefore
  · rw [Function.update_of_ne hne]

theorem returned_iff (hp : phase = .returned) :
    Function.update proc i phase j = .returned ↔ j = i ∨ proc j = .returned := by
  rcases eq_or_ne j i with rfl | hne
  · rw [Function.update_self]
    exact iff_of_true hp (.inl rfl)
  · rw [Function.update_of_ne hne]
    exact (or_iff_right hne).symm

theorem inv_step (hd : ∀ i, Decides k (requests i)) (s : Pool ι (Cell ι (Record Bag)) (Phase Bag)) (a : ι × Act)
    (s' : Pool ι (Cell ι (Record Bag)) (Phase Bag)) (hk : Inv k requests s)
    (h : poolStep (next fields requests) s a = some s') : Inv k requests s' := by
  refine ⟨poolInv_step (K := fun i c phase => Local k (requests i) i c phase) ?_ ?_ s a s' hk.pool h, ?_⟩
  · intro i c phase a c' phase' hj hl hn
    have hstep := next_step (hd i) hj.sole hl hn
    exact ⟨submission_step (hd i) hj hstep.changes, hstep.keeps⟩
  · intro i j c phase other a c' phase' hne hj hl hother hn
    exact ⟨hother.copy.frame (next_step (hd i) hj.sole hl hn).moves hne, hother.aims⟩
  · obtain ⟨c', phase', hn, rfl⟩ := poolStep_eq_some.mp h
    have hstep := next_step (hd a.1) hk.pool.1.sole (hk.pool.2 a.1) hn
    rw [Tally]
    cases hstep.changes with
    | none hcommitted hno hphase' =>
      have hkept : Undecided k s.store.committed ↔ ∀ i, s.proc i ≠ .returned := hk.tally
      rw [hcommitted, hkept]
      exact forall_congr' fun j => not_congr (returned_iff_of_ne hstep.before hphase').symm
    | commit goLive ha hp hp' hcommitted =>
      refine iff_of_false ?_ fun hno => hno a.1 ((returned_iff hp').mpr (.inl rfl))
      rw [hcommitted]
      exact (achieved_approvalWrite (hd a.1) hk.pool.1.status).decided

/-- A step keeps the calls exclusive exactly when it does not overrule one. -/
theorem exclusive_step (hd : ∀ i, Decides k (requests i)) (s : Pool ι (Cell ι (Record Bag)) (Phase Bag))
    (a : ι × Act) (s' : Pool ι (Cell ι (Record Bag)) (Phase Bag)) (hk : Inv k requests s)
    (he : Exclusive k requests s) (h : poolStep (next fields requests) s a = some s') :
    Exclusive k requests s' ↔ ¬ Overrules k s.store (s.proc a.1) a.2 := by
  obtain ⟨c', phase', hn, rfl⟩ := poolStep_eq_some.mp h
  have hstep := next_step (hd a.1) hk.pool.1.sole (hk.pool.2 a.1) hn
  cases hstep.changes with
  | none hcommitted hno hphase' =>
    refine iff_of_true ⟨fun i j hi hj => ?_, fun i hi => ?_⟩ hno
    · exact he.single i j ((returned_iff_of_ne hstep.before hphase').mp hi)
        ((returned_iff_of_ne hstep.before hphase').mp hj)
    · dsimp only
      rw [hcommitted]
      exact he.consistent i ((returned_iff_of_ne hstep.before hphase').mp hi)
  | commit goLive ha hp hp' hcommitted =>
    constructor
    · rintro hafter ⟨-, -, hdecided⟩
      -- another call has succeeded before, and stays so
      refine hdecided (hk.tally.mpr fun j hj => ?_)
      have hsame := hafter.single j a.1 ((returned_iff hp').mpr (.inr hj)) ((returned_iff hp').mpr (.inl rfl))
      rw [hsame] at hj
      exact hstep.before hj
    · intro hno
      have hundecided : Undecided k s.store.committed := by
        by_contra hdecided
        exact hno ⟨ha, ⟨goLive, hp⟩, hdecided⟩
      have honly : ∀ j, Function.update s.proc a.1 phase' j = .returned → j = a.1 := by
        intro j hj
        exact ((returned_iff hp').mp hj).resolve_right (hk.tally.mp hundecided j)
      refine ⟨fun i j hi hj => (honly i hi).trans (honly j hj).symm, fun i hi => ?_⟩
      rw [honly i hi]
      dsimp only
      rw [hcommitted]
      exact achieved_approvalWrite (hd a.1) hk.pool.1.status

theorem next_of_overrules (hd : Decides k (requests i)) (ho : Overrules k c phase a) :
    next fields requests i c phase a ≠ none := by
  obtain ⟨rfl, ⟨goLive, rfl⟩, -⟩ := ho
  rw [next]
  cases hr : requests i with
  | withdrawVoucherSubmission access now => exact Option.some_ne_none _
  | approveVoucher approvalId adminId now => exact Option.some_ne_none _
  | rejectVoucher approvalId adminId reason now => exact Option.some_ne_none _
  | _ =>
    rw [hr] at hd
    exact hd.elim

/-- CORRECT: throughout an interleaving of any number of withdrawals, approvals and rejections of one
    submission at most one of them succeeds, and the voucher and its approval are as that one leaves them,
    if and only if none commits after another. -/
theorem exclusive_throughout_iff {r : Record Bag} {as : List (ι × Act)} (hd : ∀ i, Decides k (requests i))
    (hs : Sole k r) (hu : Undecided k r) :
    Throughout (poolStep (next fields requests)) (Exclusive k requests) ⟨⟨r, none⟩, fun _ => .start⟩ as ↔
      Along (poolStep (next fields requests)) (fun s a => ¬ Overrules k s.store (s.proc a.1) a.2)
        ⟨⟨r, none⟩, fun _ => .start⟩ as := by
  have hnone : ∀ i : ι, (.start : Phase Bag) = .returned → False := fun i hp => by cases hp
  refine throughout_iff_along_of_refused (K := Inv k requests) (fun s a hrefused hover => ?_) (inv_step hd)
    (exclusive_step hd) ⟨⟨⟨hs, ?_⟩, fun i => ⟨Cell.free_of_held_none rfl, trivial⟩⟩, iff_of_true hu hnone⟩
    ⟨fun i j hi => (hnone i hi).elim, fun i hi => (hnone i hi).elim⟩
  · rw [poolStep, Option.map_eq_none_iff] at hrefused
    exact next_of_overrules (hd a.1) hover hrefused
  · obtain ⟨status, -, hstatus⟩ := hu
    exact ⟨status, hstatus⟩

end

/-! ### An approval that comes late -/

/-- A voucher that has been submitted, with its approval. -/
def underReview : Record Unit where
  voucher := { freeCoffee with status := .PENDING_APPROVAL }
  approvals := [newApproval 0 0]
  submitted := some freeCoffee.toContent

/-- The merchant withdraws the submission, one admin approves it and another rejects it. -/
def atOnce : Fin 3 → Request Unit
  | 0 => .withdrawVoucherSubmission (.ok ()) 5
  | 1 => .approveVoucher 0 7 6
  | 2 => .rejectVoucher 0 8 "The terms are unclear" 6

theorem atOnce_decides : ∀ i, Decides 0 (atOnce i)
  | 0 => trivial
  | 1 => rfl
  | 2 => rfl

theorem underReview_sole : Sole 0 underReview := by
  intro approval hmem _ _
  rw [List.mem_singleton.mp hmem]
  rfl

theorem underReview_undecided : Undecided 0 underReview := ⟨.PENDING, by decide, rfl⟩

theorem withdrawn_exclusive : Throughout (poolStep (next filledIn atOnce)) (Exclusive 0 atOnce)
    ⟨⟨underReview, none⟩, fun _ => .start⟩ (List.replicate 5 (0, .statement)) := by
  refine (exclusive_throughout_iff atOnce_decides underReview_sole underReview_undecided).mpr
    (along_iff.mpr fun xs a ys s he hr => ?_)
  have hbefore : ∀ n < 5, (run (poolStep (next filledIn atOnce)) ⟨⟨underReview, none⟩, fun _ => .start⟩
      ((List.replicate 5 (0, .statement)).take n)).map (fun s => statusOf 0 s.store.committed) =
        some (some .PENDING) := by decide +kernel
  have hlength : xs.length < 5 := by
    have hsum := congrArg List.length he
    simp only [List.length_replicate, List.length_append, List.length_cons] at hsum
    omega
  have hpending := hbefore xs.length hlength
  rw [he, List.take_left, hr] at hpending
  rintro ⟨-, -, hdecided⟩
  exact hdecided ⟨.PENDING, by decide, Option.some.inj hpending⟩

/-- The admin's checks come before the withdrawal, and the decision after it: the voucher is live. -/
theorem withdrawn_and_live : ∃ s, run (poolStep (next filledIn atOnce)) ⟨⟨underReview, none⟩, fun _ => .start⟩
      ([(1, .statement), (1, .statement), (1, .readMerchant (some .ACTIVE)), (1, .countFlagships 0)] ++
        List.replicate 5 (0, .statement) ++ List.replicate 3 (1, .statement)) = some s ∧
    s.proc 0 = .returned ∧ s.proc 1 = .returned ∧ s.store.committed.voucher.status = .ACTIVE ∧
    statusOf 0 s.store.committed = some .APPROVED ∧ ¬ Exclusive 0 atOnce s := by
  refine ⟨_, rfl, rfl, rfl, rfl, rfl, fun he => ?_⟩
  have hsame : (0 : Fin 3) = 1 := he.single 0 1 rfl rfl
  revert hsame
  decide

end Redeemo.VoucherWithdrawal
