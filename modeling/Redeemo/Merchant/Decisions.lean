import Redeemo.Lib.ReadCommitted
import Redeemo.Merchant.Coherence

/-! The decisions on one merchant's application, with any number of calls at a time.

    `approveApproval` wins the merchant by a compare-and-set. `rejectApproval` and `requestChanges` check the
    approval and the merchant first and write both rows later, without a condition; and the approval row
    itself is written without a condition by all three. So a decision that settles the application is
    overruled by any other that has checked before it and commits after it. -/

namespace Redeemo.Decisions
open Fallible ReadCommitted Rows Runs Vouchers Onboarding OnboardingReview
open BranchLifecycle (Branch)

/-- A merchant and its vouchers, which only the transaction that holds the merchant writes. -/
structure Account (Bag : Type) where
  merchant : OnboardingMerchant
  vouchers : List (Voucher Bag)

structure Store (ι : Type*) (Bag : Type) where
  approval : Cell ι AdminApproval
  account : Cell ι (Account Bag)
  /-- The calls whose decisions are committed, the last one first. -/
  auditLog : List ι

inductive Call
  | approveApproval (adminId : ℕ) (now : ℤ)
  | rejectApproval (adminId : ℕ) (reason : String) (now : ℤ)
  | requestChanges (adminId : ℕ) (reason : String) (now : ℤ)
  deriving DecidableEq, Repr

inductive Failure
  | app (e : AppError)
  /-- A crash, a deadlock, or a failed statement. -/
  | aborted
  deriving DecidableEq, Repr

/-- How far a call has come, and what it has read. -/
inductive Phase
  | start
  /-- `approveApproval`. -/
  | approvalRead (approval : AdminApproval)
  | merchantRead (merchant : OnboardingMerchant)
  | branchesCounted (merchant : OnboardingMerchant) (branchCount : ℕ)
  | gatesPassed (merchant : OnboardingMerchant) (branchCount rmvCount : ℕ)
  | located
  | won
  | flagshipsActivated
  | customsFound
  | customsActivated
  /-- `rejectApproval` and `requestChanges`: the approval checked; the merchant checked; the approval
      written. -/
  | actionable
  | undecided
  | decided
  /-- All rows are written. -/
  | resolved
  | returned (alreadyLive : Bool)
  | failed (e : Failure)
  deriving DecidableEq, Repr

def Phase.over : Phase → Bool
  | .returned _ => true
  | .failed _ => true
  | _ => false

/-- A statement, with what it reads of the branches. -/
inductive Act
  | statement
  | countBranches (branchCount : ℕ)
  | findMainBranch (mainBranch : Option Branch)
  | abandon

variable {ι : Type*} {Bag : Type}

/-! ### The writes -/

namespace Account

def goLive (a : Account Bag) : Account Bag := { a with merchant := a.merchant.goLive }

def activateFlagships (adminId : ℕ) (now : ℤ) (a : Account Bag) : Account Bag :=
  { a with vouchers := updateMany (fun v => v.isRmv = true ∧ Submitted v) (activateFlagship adminId now) a.vouchers }

def activateCustoms (a : Account Bag) : Account Bag :=
  { a with vouchers := updateMany (fun v => v.isRmv = false ∧ ApprovedWaiting v) activateWaiting a.vouchers }

def updateMerchant (f : OnboardingMerchant → OnboardingMerchant) (a : Account Bag) : Account Bag :=
  { a with merchant := f a.merchant }

end Account

namespace Store

variable [DecidableEq ι]

/-- With the row of the audit log that the transaction has inserted. -/
def commit (s : Store ι Bag) (i : ι) : Store ι Bag where
  approval := s.approval.commit i
  account := s.account.commit i
  auditLog := i :: s.auditLog

def rollback (s : Store ι Bag) (i : ι) : Store ι Bag :=
  { s with approval := s.approval.rollback i, account := s.account.rollback i }

end Store

/-! ### The statements -/

def after {σ : Type} (x : Except AppError σ) (phase : σ → Phase) : Phase :=
  match x with
  | .ok a => phase a
  | .error e => .failed (.app e)

section
variable [DecidableEq ι]

def approveApproval (adminId : ℕ) (now : ℤ) (i : ι) (s : Store ι Bag) : Phase → Option (Store ι Bag × Phase)
  | .start => some (s, after (checkOnboardingApproval (some (s.approval.read i))) .approvalRead)
  | .approvalRead approval =>
    let merchant := (s.account.read i).merchant
    if merchant.status = .ACTIVE then some (s, .returned true)
    else some (s, after (checkApplicant approval merchant) fun _ => .merchantRead merchant)
  | .branchesCounted merchant branchCount =>
    let rmvCount := (s.account.read i).vouchers.countP fun v => v.isRmv = true ∧ Submitted v
    some (s, after (checkGates merchant branchCount rmvCount) fun _ => .gatesPassed merchant branchCount rmvCount)
  | .located => (s.account.updateWhere i (fun a => a.merchant.status ≠ .ACTIVE) Account.goLive).map fun r =>
      ({ s with account := r.1 }, if r.2 = true then .won else .returned true)
  | .won => (s.account.write i ((s.account.read i).activateFlagships adminId now)).map fun account =>
      ({ s with account := account }, .flagshipsActivated)
  | .flagshipsActivated =>
    some (s, if ∃ v ∈ (s.account.read i).vouchers, v.isRmv = false ∧ ApprovedWaiting v then .customsFound
      else .customsActivated)
  | .customsFound => (s.account.write i (s.account.read i).activateCustoms).map fun account =>
      ({ s with account := account }, .customsActivated)
  | .customsActivated =>
    (s.approval.write i ((s.approval.read i).decide .APPROVED none adminId now)).map fun approval =>
      ({ s with approval := approval }, .resolved)
  | .resolved => some (s.commit i, .returned false)
  | _ => none

/-- `rejectApproval` and `requestChanges`: what the decision makes of the approval and of the merchant. -/
def decline (status : ApprovalStatus) (f : OnboardingMerchant → OnboardingMerchant) (adminId : ℕ) (reason : String)
    (now : ℤ) (i : ι) (s : Store ι Bag) : Phase → Option (Store ι Bag × Phase)
  | .start =>
    let approval := s.approval.read i
    some (s, after (rejectIf (approval.type ≠ .MERCHANT_ONBOARDING ∨ approval.status ∉ ACTIONABLE_STATUSES)
      .APPROVAL_NOT_ACTIONABLE) fun _ => .actionable)
  | .actionable => some (s, after (rejectIf ((s.account.read i).merchant.status = .ACTIVE) .APPROVAL_NOT_ACTIONABLE)
      fun _ => .undecided)
  | .undecided =>
    (s.approval.write i ((s.approval.read i).decide status (some reason) adminId now)).map fun approval =>
      ({ s with approval := approval }, .decided)
  | .decided => (s.account.write i ((s.account.read i).updateMerchant f)).map fun account =>
      ({ s with account := account }, .resolved)
  | .resolved => some (s.commit i, .returned false)
  | _ => none

def rejectApproval (adminId : ℕ) (reason : String) (now : ℤ) (i : ι) (s : Store ι Bag) (phase : Phase) :
    Option (Store ι Bag × Phase) :=
  decline .REJECTED rejected adminId reason now i s phase

def requestChanges (adminId : ℕ) (reason : String) (now : ℤ) (i : ι) (s : Store ι Bag) (phase : Phase) :
    Option (Store ι Bag × Phase) :=
  decline .CHANGES_REQUESTED (atStep .NEEDS_CHANGES) adminId reason now i s phase

def statement (call : Call) (i : ι) (s : Store ι Bag) (phase : Phase) : Option (Store ι Bag × Phase) :=
  match call with
  | .approveApproval adminId now => approveApproval adminId now i s phase
  | .rejectApproval adminId reason now => rejectApproval adminId reason now i s phase
  | .requestChanges adminId reason now => requestChanges adminId reason now i s phase

/-- The reads of the branches. -/
def survey : Phase → Act → Option Phase
  | .merchantRead merchant, .countBranches branchCount => some (.branchesCounted merchant branchCount)
  | .gatesPassed merchant branchCount rmvCount, .findMainBranch mainBranch =>
    some (after (checkMainBranch (checklistOf merchant branchCount rmvCount) mainBranch) fun _ => .located)
  | _, _ => none

def next (calls : ι → Call) (i : ι) (s : Store ι Bag) (phase : Phase) : Act → Option (Store ι Bag × Phase)
  | .statement => statement (calls i) i s phase
  | .abandon => if phase.over then none else some (s.rollback i, .failed .aborted)
  | a => (survey phase a).map fun phase => (s, phase)

end

/-! ### What the decisions make of the rows -/

/-- The committed rows. -/
structure Rows (Bag : Type) where
  approval : AdminApproval
  account : Account Bag

def Store.rows (s : Store ι Bag) : Rows Bag := ⟨s.approval.committed, s.account.committed⟩

/-- What a call's decision makes of the approval, and of the merchant. -/
def Call.decide : Call → AdminApproval → AdminApproval
  | .approveApproval adminId now => AdminApproval.decide .APPROVED none adminId now
  | .rejectApproval adminId reason now => AdminApproval.decide .REJECTED (some reason) adminId now
  | .requestChanges adminId reason now => AdminApproval.decide .CHANGES_REQUESTED (some reason) adminId now

def Call.settle : Call → Account Bag → Account Bag
  | .approveApproval adminId now => fun a => ((a.goLive).activateFlagships adminId now).activateCustoms
  | .rejectApproval _ _ _ => Account.updateMerchant rejected
  | .requestChanges _ _ _ => Account.updateMerchant (atStep .NEEDS_CHANGES)

def Call.effect (call : Call) (rows : Rows Bag) : Rows Bag := ⟨call.decide rows.approval, call.settle rows.account⟩

/-- The decisions of the audit log, one after the other. -/
def replay (calls : ι → Call) (rows : Rows Bag) : List ι → Rows Bag
  | [] => rows
  | i :: log => (calls i).effect (replay calls rows log)

/-- A decision after which there is nothing to decide: the approval can be decided on again after a request
    for changes only. -/
def Call.Final : Call → Prop
  | .requestChanges _ _ _ => False
  | _ => True

/-- The merchant is live, its application approved, and its edits are reviewed. -/
structure Live (rows : Rows Bag) : Prop where
  status : rows.account.merchant.status = .ACTIVE
  onboardingStep : rows.account.merchant.onboardingStep = .LIVE
  approval : rows.approval.status = .APPROVED
  reviewed : ¬ isDraftWindow rows.account.merchant.toMerchant

/-- Only the committed decisions have changed the rows; none comes after a final one, and so one final
    decision takes effect at most; and where it is an approval the merchant is live. -/
structure Exclusive (calls : ι → Call) (rows : Rows Bag) (s : Store ι Bag) : Prop where
  replayed : s.rows = replay calls rows s.auditLog
  last : ∀ i ∈ s.auditLog.tail, ¬ (calls i).Final
  live : ∀ i ∈ s.auditLog, (∃ adminId now, calls i = .approveApproval adminId now) → Live s.rows

/-- A call commits its decision on an approval that is not actionable any more, so that its own check would
    fail. -/
def Overrules (s : Store ι Bag) (phase : Phase) (a : Act) : Prop :=
  a = .statement ∧ phase = .resolved ∧ s.approval.committed.status ∉ ACTIONABLE_STATUSES

theorem Account.activateCustoms_of_none {a : Account Bag}
    (h : ¬ ∃ v ∈ a.vouchers, v.isRmv = false ∧ ApprovedWaiting v) : a.activateCustoms = a := by
  rw [activateCustoms, updateMany_of_forall_not fun v hv hw => h ⟨v, hv, hw⟩]

/-! ### What a call holds -/

/-- What an unfinished transaction has made of the merchant. -/
def accountDone : Call → Phase → Option (Account Bag → Account Bag)
  | _, .won => some Account.goLive
  | .approveApproval adminId now, .flagshipsActivated => some fun a => a.goLive.activateFlagships adminId now
  | .approveApproval adminId now, .customsFound => some fun a => a.goLive.activateFlagships adminId now
  | call, .customsActivated => some call.settle
  | call, .resolved => some call.settle
  | _, _ => none

def approvalDone : Call → Phase → Option (AdminApproval → AdminApproval)
  | call, .decided => some call.decide
  | call, .resolved => some call.decide
  | _, _ => none

structure Holding (call : Call) (i : ι) (s : Store ι Bag) (phase : Phase) : Prop where
  approval : s.approval.Holds i (approvalDone call phase)
  account : s.account.Holds i (accountDone call phase)

/-- The call has found the approval actionable. -/
def Phase.OpenSeen : Phase → Prop
  | .start => False
  | .approvalRead approval => approval.status ∈ ACTIONABLE_STATUSES
  | .returned _ => False
  | .failed _ => False
  | _ => True

/-- What a step does to the committed rows. -/
inductive Changes (call : Call) (i : ι) (s : Store ι Bag) (phase : Phase) (a : Act) (s' : Store ι Bag) : Prop
  | none (hrows : s'.rows = s.rows) (hlog : s'.auditLog = s.auditLog) (hno : ¬ Overrules s phase a)
  | commit (ha : a = .statement) (hp : phase = .resolved) (hrows : s'.rows = call.effect s.rows)
    (hlog : s'.auditLog = i :: s.auditLog)

structure StepOk (call : Call) (i : ι) (s : Store ι Bag) (phase : Phase) (a : Act) (s' : Store ι Bag)
    (phase' : Phase) : Prop where
  approval : Cell.Moves i s.approval s'.approval
  account : Cell.Moves i s.account s'.account
  holding : Holding call i s' phase'
  seen : phase'.OpenSeen → phase.OpenSeen ∨ s.approval.committed.status ∈ ACTIONABLE_STATUSES
  changes : Changes call i s phase a s'

section
variable {call : Call} {calls : ι → Call} {i j : ι} {s s' : Store ι Bag} {phase phase' : Phase} {a : Act}
  {rows : Rows Bag}

theorem not_overrules (hp : phase ≠ .resolved) : ¬ Overrules s phase a := fun h => hp h.2.1

/-- A step that only reads. -/
theorem stepOk_read (hk : Holding call i s phase) (happroval : approvalDone call phase' = approvalDone call phase)
    (haccount : s.account.Holds i (accountDone call phase')) (hp : phase ≠ .resolved)
    (hseen : phase'.OpenSeen → phase.OpenSeen ∨ s.approval.committed.status ∈ ACTIONABLE_STATUSES) :
    StepOk call i s phase a s phase' where
  approval := .stay
  account := .stay
  holding := ⟨happroval ▸ hk.approval, haccount⟩
  seen := hseen
  changes := .none rfl rfl (not_overrules hp)

/-- The outcome of a check: the call goes on, or has failed. -/
theorem stepOk_check {σ : Type} {x : Except AppError σ} {f : σ → Phase} (hk : Holding call i s phase)
    (hidle : approvalDone call phase = none ∧ (accountDone call phase : Option (Account Bag → Account Bag)) = none)
    (hnext : ∀ b, approvalDone call (f b) = none ∧
      (accountDone call (f b) : Option (Account Bag → Account Bag)) = none) (hp : phase ≠ .resolved)
    (hseen : ∀ b, x = .ok b → (f b).OpenSeen → phase.OpenSeen ∨ s.approval.committed.status ∈ ACTIONABLE_STATUSES) :
    StepOk call i s phase a s (after x f) := by
  have haccount := hk.account
  rw [hidle.2] at haccount
  cases x with
  | ok b =>
    refine stepOk_read hk ((hnext b).1.trans hidle.1.symm) ?_ hp (hseen b rfl)
    rw [after, (hnext b).2]
    exact haccount
  | error e => exact stepOk_read hk hidle.1.symm haccount hp fun h => h.elim

theorem survey_step (hk : Holding call i s phase)
    (h : (survey phase a).map (fun phase => (s, phase)) = some (s', phase')) :
    StepOk call i s phase a s' phase' := by
  obtain ⟨p, hp, he⟩ := Option.map_eq_some_iff.mp h
  cases he
  cases a with
  | countBranches branchCount =>
    cases phase with
    | merchantRead merchant =>
      cases hp
      exact stepOk_read hk rfl hk.account Phase.noConfusion fun _ => .inl trivial
    | _ => cases hp
  | findMainBranch mainBranch =>
    cases phase with
    | gatesPassed merchant branchCount rmvCount =>
      cases hp
      exact stepOk_check hk ⟨rfl, rfl⟩ (fun _ => ⟨rfl, rfl⟩) Phase.noConfusion fun _ _ _ => .inl trivial
    | _ => cases hp
  | statement => cases phase <;> cases hp
  | abandon => cases phase <;> cases hp

variable [DecidableEq ι]

/-- A write of the merchant or its vouchers. -/
theorem stepOk_account {f : Account Bag → Account Bag} {p : Phase} (hk : Holding call i s phase)
    (h : (s.account.write i (f (s.account.read i))).map (fun account => ({ s with account := account }, p)) =
      some (s', phase')) (hp : phase ≠ .resolved) (hseen : p.OpenSeen → phase.OpenSeen)
    (happroval : approvalDone call p = approvalDone call phase)
    (haccount : accountDone call p = some (f ∘ (accountDone call phase).getD id)) :
    StepOk call i s phase a s' phase' := by
  obtain ⟨account, hw, he⟩ := Option.map_eq_some_iff.mp h
  cases he
  obtain ⟨hmoves, hcommitted, hholds⟩ := hk.account.write hw
  refine ⟨.stay, hmoves, ⟨happroval ▸ hk.approval, haccount ▸ hholds⟩, fun h => .inl (hseen h),
    .none ?_ rfl (not_overrules hp)⟩
  rw [Store.rows, Store.rows, hcommitted]

/-- The write of the approval. -/
theorem stepOk_approval {p : Phase} (hk : Holding call i s phase)
    (h : (s.approval.write i (call.decide (s.approval.read i))).map (fun approval =>
      ({ s with approval := approval }, p)) = some (s', phase')) (hp : phase ≠ .resolved)
    (hseen : phase.OpenSeen) (hfree : approvalDone call phase = none)
    (happroval : approvalDone call p = some call.decide)
    (haccount : (accountDone call p : Option (Account Bag → Account Bag)) = accountDone call phase) :
    StepOk call i s phase a s' phase' := by
  obtain ⟨approval, hw, he⟩ := Option.map_eq_some_iff.mp h
  cases he
  have hbefore := hk.approval
  rw [hfree] at hbefore
  obtain ⟨hmoves, hcommitted, hholds⟩ := hbefore.write hw
  refine ⟨hmoves, .stay, ⟨happroval ▸ hholds, haccount ▸ hk.account⟩, fun _ => .inl hseen,
    .none ?_ rfl (not_overrules hp)⟩
  rw [Store.rows, Store.rows, hcommitted]

theorem stepOk_commit (hk : Holding call i s .resolved) :
    StepOk call i s .resolved .statement (s.commit i) (.returned false) := by
  obtain ⟨happroval, hdecided, hfree⟩ := hk.approval.commit
  obtain ⟨haccount, hsettled, hfree'⟩ := hk.account.commit
  refine ⟨happroval, haccount, ⟨hfree, hfree'⟩, fun h => h.elim, .commit rfl rfl ?_ rfl⟩
  rw [Store.rows, Store.commit, hdecided, hsettled]
  rfl

/-! ### The steps of each call -/

theorem approveApproval_step {adminId : ℕ} {now : ℤ} (hk : Holding (.approveApproval adminId now) i s phase)
    (h : approveApproval adminId now i s phase = some (s', phase')) :
    StepOk (.approveApproval adminId now) i s phase .statement s' phase' := by
  cases phase with
  | start =>
    cases h
    refine stepOk_check hk ⟨rfl, rfl⟩ (fun _ => ⟨rfl, rfl⟩) Phase.noConfusion fun approval hcheck hopen => .inr ?_
    simp only [checkOnboardingApproval, orReject, bind_ok_iff, pure_eq_ok] at hcheck
    obtain ⟨_, hread, -, -, rfl⟩ := hcheck
    rw [← Cell.read_of_free hk.approval, Except.ok.inj hread]
    exact hopen
  | approvalRead approval =>
    simp only [approveApproval] at h
    split_ifs at h with hactive
    · cases h
      exact stepOk_read hk rfl hk.account Phase.noConfusion fun h => h.elim
    · cases h
      refine stepOk_check hk ⟨rfl, rfl⟩ (fun _ => ⟨rfl, rfl⟩) Phase.noConfusion fun _ hcheck _ => .inl ?_
      simp only [checkApplicant, bind_ok_iff, rejectIf_eq_ok, not_not] at hcheck
      obtain ⟨-, -, hopen⟩ := hcheck
      exact hopen
  | branchesCounted merchant branchCount =>
    cases h
    exact stepOk_check hk ⟨rfl, rfl⟩ (fun _ => ⟨rfl, rfl⟩) Phase.noConfusion fun _ _ _ => .inl trivial
  | located =>
    obtain ⟨⟨account, b⟩, hu, he⟩ := Option.map_eq_some_iff.mp h
    cases he
    have hfree : s.account.Free i := hk.account
    rcases Cell.updateWhere_cases hu with ⟨rfl, -, hheld, rfl⟩ | ⟨rfl, -, rfl⟩
    · -- The merchant is not ACTIVE, and is the call's from here on.
      rw [Cell.read_of_free hfree]
      exact ⟨.stay, .write _ hheld, ⟨hk.approval, rfl⟩, fun _ => .inl trivial,
        .none rfl rfl (not_overrules Phase.noConfusion)⟩
    · exact stepOk_read hk rfl hk.account Phase.noConfusion fun h => h.elim
  | won =>
    exact stepOk_account (f := Account.activateFlagships adminId now) hk h Phase.noConfusion id rfl rfl
  | flagshipsActivated =>
    cases h
    have hheld : s.account.held = some (i, s.account.committed.goLive.activateFlagships adminId now) := hk.account
    split_ifs with hwaiting
    · exact stepOk_read hk rfl hk.account Phase.noConfusion fun _ => .inl trivial
    · refine stepOk_read hk rfl ?_ Phase.noConfusion fun _ => .inl trivial
      rw [Cell.read_of_held hheld] at hwaiting
      exact hheld.trans (congrArg (fun a => some (i, a)) (Account.activateCustoms_of_none hwaiting).symm)
  | customsFound => exact stepOk_account (f := Account.activateCustoms) hk h Phase.noConfusion id rfl rfl
  | customsActivated => exact stepOk_approval hk h Phase.noConfusion trivial rfl rfl rfl
  | resolved =>
    cases h
    exact stepOk_commit hk
  | merchantRead | gatesPassed | actionable | undecided | decided | returned | failed => cases h

theorem decline_step {status : ApprovalStatus} {f : OnboardingMerchant → OnboardingMerchant} {adminId : ℕ}
    {reason : String} {now : ℤ} (hdecide : call.decide = AdminApproval.decide status (some reason) adminId now)
    (hsettle : (call.settle : Account Bag → Account Bag) = Account.updateMerchant f)
    (hk : Holding call i s phase) (h : decline status f adminId reason now i s phase = some (s', phase')) :
    StepOk call i s phase .statement s' phase' := by
  cases phase with
  | start =>
    cases h
    refine stepOk_check hk ⟨rfl, rfl⟩ (fun _ => ⟨rfl, rfl⟩)
      Phase.noConfusion fun _ hcheck _ => .inr ?_
    rw [rejectIf_eq_ok, not_or, not_not, not_not, Cell.read_of_free hk.approval] at hcheck
    exact hcheck.2
  | actionable =>
    cases h
    exact stepOk_check hk ⟨rfl, rfl⟩ (fun _ => ⟨rfl, rfl⟩)
      Phase.noConfusion fun _ _ _ => .inl trivial
  | undecided =>
    rw [decline, ← hdecide] at h
    exact stepOk_approval hk h Phase.noConfusion trivial rfl rfl rfl
  | decided =>
    refine stepOk_account (f := Account.updateMerchant f) hk h Phase.noConfusion id rfl ?_
    exact congrArg some hsettle
  | resolved =>
    cases h
    exact stepOk_commit hk
  | approvalRead | merchantRead | branchesCounted | gatesPassed | located | won | flagshipsActivated | customsFound
  | customsActivated | returned | failed => cases h

/-! ### Every step -/

theorem statement_step (hk : Holding call i s phase) (h : statement call i s phase = some (s', phase')) :
    StepOk call i s phase .statement s' phase' := by
  cases call with
  | approveApproval adminId now => exact approveApproval_step hk h
  | rejectApproval adminId reason now => exact decline_step rfl rfl hk h
  | requestChanges adminId reason now => exact decline_step rfl rfl hk h

theorem next_step (hk : Holding (calls i) i s phase) (h : next calls i s phase a = some (s', phase')) :
    StepOk (calls i) i s phase a s' phase' := by
  cases a with
  | statement => exact statement_step hk h
  | countBranches branchCount => exact survey_step hk h
  | findMainBranch mainBranch => exact survey_step hk h
  | abandon =>
    rw [next] at h
    split_ifs at h
    cases h
    obtain ⟨hfree, hcommitted⟩ := Cell.free_rollback (c := s.approval) (i := i)
    obtain ⟨hfree', hcommitted'⟩ := Cell.free_rollback (c := s.account) (i := i)
    refine ⟨Cell.moves_rollback, Cell.moves_rollback, ⟨hfree, hfree'⟩, fun h => h.elim,
      .none ?_ rfl fun h => Act.noConfusion h.1⟩
    rw [Store.rows, Store.rows, Store.rollback, hcommitted, hcommitted']

/-! ### Every interleaving -/

/-- What the audit log tells of the rows. -/
def Logged (calls : ι → Call) (rows : Rows Bag) (s : Store ι Bag) : Prop :=
  s.rows = replay calls rows s.auditLog ∧ (s.auditLog ≠ [] → rows.approval.status ∈ ACTIONABLE_STATUSES)

/-- What holds of a call: nobody goes on with an approval that was closed from the start. -/
def Local (calls : ι → Call) (rows : Rows Bag) (i : ι) (s : Store ι Bag) (phase : Phase) : Prop :=
  Holding (calls i) i s phase ∧ (phase.OpenSeen → rows.approval.status ∈ ACTIONABLE_STATUSES)

theorem local_own (hj : Logged calls rows s) (hk : Local calls rows i s phase)
    (h : next calls i s phase a = some (s', phase')) : Logged calls rows s' ∧ Local calls rows i s' phase' := by
  have hok := next_step hk.1 h
  have hopen : phase'.OpenSeen → rows.approval.status ∈ ACTIONABLE_STATUSES := by
    intro hseen
    rcases hok.seen hseen with hseen | hnow
    · exact hk.2 hseen
    · by_cases hlog : s.auditLog = []
      · have hrows := hj.1
        rw [hlog] at hrows
        have happroval : s.approval.committed = rows.approval := congrArg Rows.approval hrows
        rw [← happroval]
        exact hnow
      · exact hj.2 hlog
  refine ⟨?_, hok.holding, hopen⟩
  cases hok.changes with
  | none hrows hlog hno =>
    rw [Logged, hrows, hlog]
    exact hj
  | commit ha hp hrows hlog =>
    subst hp
    rw [Logged, hrows, hlog, hj.1]
    exact ⟨rfl, fun _ => hk.2 trivial⟩

theorem local_frame {other : Phase} (hne : i ≠ j) (hk : Local calls rows i s phase)
    (hkj : Local calls rows j s other) (h : next calls i s phase a = some (s', phase')) :
    Local calls rows j s' other := by
  have hok := next_step hk.1 h
  exact ⟨⟨hkj.1.approval.frame hok.approval hne, hkj.1.account.frame hok.account hne⟩, hkj.2⟩

omit [DecidableEq ι] in
theorem actionable_effect : (call.effect rows).approval.status ∈ ACTIONABLE_STATUSES ↔ ¬ call.Final := by
  cases call with
  | approveApproval adminId now =>
    have hclosed : ApprovalStatus.APPROVED ∉ ACTIONABLE_STATUSES := by decide
    exact iff_of_false hclosed (not_not_intro trivial)
  | rejectApproval adminId reason now =>
    have hclosed : ApprovalStatus.REJECTED ∉ ACTIONABLE_STATUSES := by decide
    exact iff_of_false hclosed (not_not_intro trivial)
  | requestChanges adminId reason now =>
    have hopen : ApprovalStatus.CHANGES_REQUESTED ∈ ACTIONABLE_STATUSES := by decide
    exact iff_of_true hopen id

omit [DecidableEq ι] in
/-- Requests for changes leave the approval actionable. -/
theorem actionable_replay (hopen : rows.approval.status ∈ ACTIONABLE_STATUSES) {log : List ι}
    (h : ∀ i ∈ log, ¬ (calls i).Final) : (replay calls rows log).approval.status ∈ ACTIONABLE_STATUSES := by
  cases log with
  | nil => exact hopen
  | cons i log => exact actionable_effect.mpr (h i (List.mem_cons_self ..))

omit [DecidableEq ι] in
theorem live_effect {adminId : ℕ} {now : ℤ} : Live ((Call.approveApproval adminId now).effect rows) where
  status := rfl
  onboardingStep := rfl
  approval := rfl
  reviewed := by
    rintro (h | h)
    · cases h
    · cases h

omit [DecidableEq ι] in
/-- Where the approval is actionable, no final decision has been committed. -/
theorem Exclusive.none_final (hi : Exclusive calls rows s)
    (hopen : s.approval.committed.status ∈ ACTIONABLE_STATUSES) : ∀ i ∈ s.auditLog, ¬ (calls i).Final := by
  have hreplayed : s.approval.committed = (replay calls rows s.auditLog).approval := congrArg Rows.approval hi.replayed
  have hlast := hi.last
  rw [hreplayed] at hopen
  generalize s.auditLog = log at hopen hlast
  cases log with
  | nil => exact List.forall_mem_nil _
  | cons i log => exact List.forall_mem_cons.mpr ⟨actionable_effect.mp hopen, hlast⟩

/-- A step keeps the decisions exclusive exactly when it does not overrule one. -/
theorem exclusive_next (hj : Logged calls rows s) (hk : Local calls rows i s phase) (hi : Exclusive calls rows s)
    (h : next calls i s phase a = some (s', phase')) :
    Exclusive calls rows s' ↔ ¬ Overrules s phase a := by
  have hj' := (local_own hj hk h).1
  cases (next_step hk.1 h).changes with
  | none hrows hlog hno =>
    refine iff_of_true ⟨hj'.1, ?_, ?_⟩ hno
    · rw [hlog]
      exact hi.last
    · rw [hlog, hrows]
      exact hi.live
  | commit ha hp hrows hlog =>
    subst ha hp
    constructor
    · rintro hi' ⟨-, -, hclosed⟩
      have hlast := hi'.last
      rw [hlog] at hlast
      refine hclosed ?_
      rw [show s.approval.committed = (replay calls rows s.auditLog).approval from congrArg Rows.approval hi.replayed]
      exact actionable_replay (hk.2 trivial) hlast
    · intro hno
      have hopen : s.approval.committed.status ∈ ACTIONABLE_STATUSES := by
        by_contra hclosed
        exact hno ⟨rfl, rfl, hclosed⟩
      have hnone := hi.none_final hopen
      refine ⟨hj'.1, ?_, ?_⟩
      · rw [hlog]
        exact hnone
      · rw [hlog]
        rintro j hj ⟨adminId, now, happrove⟩
        rcases List.mem_cons.mp hj with rfl | hj
        · rw [hrows, happrove]
          exact live_effect
        · have hfinal : (calls j).Final := by
            rw [happrove]
            trivial
          exact absurd hfinal (hnone j hj)

theorem next_of_overrules (h : Overrules s phase a) : next calls i s phase a ≠ none := by
  obtain ⟨rfl, rfl, -⟩ := h
  have hcommit : ∀ call, statement call i s .resolved = some (s.commit i, .returned false) := by
    intro call
    cases call with
    | approveApproval adminId now => rfl
    | rejectApproval adminId reason now => rfl
    | requestChanges adminId reason now => rfl
  rw [next, hcommit]
  exact Option.some_ne_none _

/-- No call has begun. -/
def opened (rows : Rows Bag) : Pool ι (Store ι Bag) Phase :=
  ⟨⟨⟨rows.approval, none⟩, ⟨rows.account, none⟩, []⟩, fun _ => .start⟩

/-- CORRECT: throughout an interleaving of any number of calls one final decision takes effect at most, and
    the others change nothing after it, if and only if no call commits its decision on an approval that is
    no longer actionable. -/
theorem decisions_exclusive_iff {as : List (ι × Act)} :
    Throughout (poolStep (next calls)) (fun s => Exclusive calls rows s.store) (opened rows) as ↔
      Along (poolStep (next calls)) (fun s a => ¬ Overrules s.store (s.proc a.1) a.2) (opened rows) as := by
  refine throughout_iff_along_of_refused (K := PoolInv (Logged calls rows) (Local calls rows))
    (fun s a hnone hover => ?_) (fun s a s' hk h => ?_) (fun s a s' hk hi h => ?_)
    ⟨⟨rfl, fun h => absurd rfl h⟩, fun i => ⟨⟨?_, ?_⟩, fun h => h.elim⟩⟩ ⟨rfl, ?_, ?_⟩
  · rw [poolStep, Option.map_eq_none_iff] at hnone
    exact next_of_overrules hover hnone
  · exact poolInv_step (K := Local calls rows) (fun _ _ _ _ _ _ => local_own)
      (fun _ _ _ _ _ _ _ _ hne _ hk hkj h => local_frame hne hk hkj h) s a s' hk h
  · obtain ⟨store', phase', hnext, rfl⟩ := poolStep_eq_some.mp h
    exact exclusive_next hk.1 (hk.2 a.1) hi hnext
  · exact Cell.free_of_held_none rfl
  · exact Cell.free_of_held_none rfl
  · exact List.forall_mem_nil _
  · exact List.forall_mem_nil _

end

/-! ### A request for changes that comes late -/

/-- An application that passes the gates. -/
def application : Rows Unit where
  approval := newOnboarding 2 1
  account := ⟨submitted { registered 1 with contractStatus := .SIGNED }, [flagship 11, flagship 12]⟩

def approvedMeanwhile (i : Bool) : Call :=
  if i then .approveApproval 7 0 else .requestChanges 8 "Add opening hours" 1

/-- One admin approves the application between another's checks and writes. -/
def lateRequest : List (Bool × Act) :=
  [(false, .statement), (false, .statement), (true, .statement), (true, .statement), (true, .countBranches 1),
    (true, .statement), (true, .findMainBranch (some mainBranch)), (true, .statement), (true, .statement),
    (true, .statement), (true, .statement), (true, .statement), (false, .statement), (false, .statement),
    (false, .statement)]

theorem run_lateRequest : ((run (poolStep (next approvedMeanwhile)) (opened application) lateRequest).map
    fun s => (s.store.auditLog, s.store.approval.committed.status, s.store.account.committed.merchant.status,
      s.store.account.committed.merchant.onboardingStep)) =
    some ([false, true], .CHANGES_REQUESTED, .ACTIVE, .NEEDS_CHANGES) := by
  decide +kernel

/-- Both decisions are committed, and the merchant is live with its edits unreviewed. -/
theorem live_in_draftWindow : ∃ s : Pool Bool (Store Bool Unit) Phase,
    run (poolStep (next approvedMeanwhile)) (opened application) lateRequest = some s ∧
    s.store.auditLog = [false, true] ∧ s.store.approval.committed.status = .CHANGES_REQUESTED ∧
    s.store.account.committed.merchant.status = .ACTIVE ∧
    isDraftWindow s.store.account.committed.merchant.toMerchant ∧
    ¬ Exclusive approvedMeanwhile application s.store := by
  obtain ⟨s, hrun, hs⟩ := Option.map_eq_some_iff.mp run_lateRequest
  obtain ⟨hlog, happroval, hstatus, hstep⟩ : _ ∧ _ ∧ _ ∧ _ := by simpa only [Prod.mk.injEq] using hs
  refine ⟨s, hrun, hlog, happroval, hstatus, .inr hstep, fun hi => ?_⟩
  have hlive := hi.live true (by rw [hlog]; exact List.mem_cons_of_mem _ (List.mem_singleton_self _)) ⟨7, 0, rfl⟩
  cases happroval.symm.trans hlive.approval

end Redeemo.Decisions
