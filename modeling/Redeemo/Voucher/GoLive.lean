import Redeemo.Lib.ReadCommitted
import Redeemo.Lib.Runs
import Redeemo.Merchant.Onboarding

/-! A merchant goes live while one of its custom vouchers is approved.

    `approveApproval` and `approveVoucher` run in one transaction each, statement by statement in any
    order. Each reads what the other writes: `approveVoucher` the merchant's status, to make the voucher
    ACTIVE or leave it waiting; `approveApproval` the vouchers that wait, to make them ACTIVE with the
    merchant. Where both read before the other commits, the voucher is left waiting. -/

namespace Redeemo.GoLive
open Fallible ReadCommitted Runs Vouchers Onboarding BranchLifecycle

/-- The two transactions. -/
inductive Tx
  | approveApproval
  | approveVoucher
  deriving DecidableEq, Repr

/-- The rows of one merchant: its flagships, the custom voucher, its other custom vouchers, and the two
    approvals. -/
structure Store (Bag : Type) where
  merchant : Cell Tx OnboardingMerchant
  flagships : Cell Tx (List (Voucher Bag))
  voucher : Cell Tx (Voucher Bag)
  others : Cell Tx (List (Voucher Bag))
  onboarding : Cell Tx AdminApproval
  review : Cell Tx AdminApproval
  branches : List Branch

/-- How far `approveApproval` has come. -/
inductive Approving
  | start
  | approvalRead (approval : AdminApproval)
  | merchantRead (merchant : OnboardingMerchant)
  | branchesCounted (merchant : OnboardingMerchant) (branchCount : ℕ)
  | gatesPassed (merchant : OnboardingMerchant) (branchCount rmvCount : ℕ)
  | located
  | won
  | flagshipsActivated
  | customsFound
  | customsActivated
  | resolved
  | returned (alreadyLive : Bool)
  | failed (e : AppError)
  deriving DecidableEq

/-- How far `approveVoucher` has come. -/
inductive Reviewing
  | start
  | approvalRead
  | voucherRead
  | merchantLive
  | judged (goLive : Bool)
  | written (goLive : Bool)
  | resolved (goLive : Bool)
  | returned (goLive : Bool)
  | failed (e : AppError)
  deriving DecidableEq

structure State (Bag : Type) where
  store : Store Bag
  approving : Approving
  reviewing : Reviewing

/-- The admins, and the clocks of the two transactions. -/
structure Admins where
  approver : ℕ
  approvedAt : ℤ
  reviewer : ℕ
  reviewedAt : ℤ

variable {Bag : Type}

namespace Store

def commit (s : Store Bag) (i : Tx) : Store Bag where
  merchant := s.merchant.commit i
  flagships := s.flagships.commit i
  voucher := s.voucher.commit i
  others := s.others.commit i
  onboarding := s.onboarding.commit i
  review := s.review.commit i
  branches := s.branches

/-- The merchant's custom vouchers, as a transaction reads them. -/
def customs (s : Store Bag) (i : Tx) : List (Voucher Bag) := s.voucher.read i :: s.others.read i

/-- `voucher.updateMany` on the merchant's custom vouchers that wait. -/
def activateCustoms (s : Store Bag) (i : Tx) : Option (Store Bag) := do
  let (voucher, _) ← s.voucher.updateWhere i ApprovedWaiting activateWaiting
  let others ← s.others.write i
    ((s.others.read i).map fun v => if ApprovedWaiting v then activateWaiting v else v)
  return { s with voucher := voucher, others := others }

end Store

/-- The next phase, or the error. -/
def after {σ phase : Type} (x : Except AppError σ) (failed : AppError → phase) (next : σ → phase) : phase :=
  match x with
  | .ok a => next a
  | .error e => failed e

/-- The next statement of `approveApproval`. -/
def approveApproval (admins : Admins) (s : Store Bag) : Approving → Option (Store Bag × Approving)
  | .start =>
    some (s, after (checkOnboardingApproval (some (s.onboarding.read .approveApproval))) .failed .approvalRead)
  | .approvalRead approval =>
    let merchant := s.merchant.read .approveApproval
    if merchant.status = .ACTIVE then some (s, .returned true)
    else some (s, after (checkApplicant approval merchant) .failed fun _ => .merchantRead merchant)
  | .merchantRead merchant => some (s, .branchesCounted merchant s.branches.length)
  | .branchesCounted merchant branchCount =>
    let rmvCount := (s.flagships.read .approveApproval).countP fun v => Submitted v
    some (s, after (checkGates merchant branchCount rmvCount) .failed fun _ =>
      .gatesPassed merchant branchCount rmvCount)
  | .gatesPassed merchant branchCount rmvCount =>
    let mainBranch := s.branches.find? fun b => b.isMainBranch = true ∧ b.isActive = true
    some (s, after (checkMainBranch (checklistOf merchant branchCount rmvCount) mainBranch) .failed fun _ =>
      .located)
  | .located =>
    (s.merchant.updateWhere .approveApproval (fun m => m.status ≠ .ACTIVE) OnboardingMerchant.goLive).map
      fun r => ({ s with merchant := r.1 }, if r.2 = true then .won else .returned true)
  | .won =>
    (s.flagships.write .approveApproval ((s.flagships.read .approveApproval).map fun v =>
      if Submitted v then activateFlagship admins.approver admins.approvedAt v else v)).map
      fun flagships => ({ s with flagships := flagships }, .flagshipsActivated)
  | .flagshipsActivated =>
    some (s, if ∃ v ∈ s.customs .approveApproval, ApprovedWaiting v then .customsFound else .customsActivated)
  | .customsFound => (s.activateCustoms .approveApproval).map fun s => (s, .customsActivated)
  | .customsActivated =>
    (s.onboarding.write .approveApproval ((s.onboarding.read .approveApproval).decide .APPROVED none
      admins.approver admins.approvedAt)).map fun onboarding => ({ s with onboarding := onboarding }, .resolved)
  | .resolved => some (s.commit .approveApproval, .returned false)
  | .returned _ => none
  | .failed _ => none

/-- The next statement of `approveVoucher`. -/
def approveVoucher (admins : Admins) (s : Store Bag) : Reviewing → Option (Store Bag × Reviewing)
  | .start =>
    some (s, after (checkApproval (some (s.review.read .approveVoucher))) .failed fun _ => .approvalRead)
  | .approvalRead => some (s, after (s.voucher.read .approveVoucher).check .failed fun _ => .voucherRead)
  | .voucherRead =>
    some (s, if (s.merchant.read .approveVoucher).status = .ACTIVE then .merchantLive else .judged false)
  | .merchantLive =>
    let notLive := (s.flagships.read .approveVoucher).countP fun v => v.status ≠ .ACTIVE
    some (s, .judged (notLive = 0))
  | .judged goLive =>
    (s.voucher.write .approveVoucher
      ((s.voucher.read .approveVoucher).approve admins.reviewer admins.reviewedAt goLive)).map
      fun voucher => ({ s with voucher := voucher }, .written goLive)
  | .written goLive =>
    (s.review.write .approveVoucher ((s.review.read .approveVoucher).decide .APPROVED none
      admins.reviewer admins.reviewedAt)).map fun review => ({ s with review := review }, .resolved goLive)
  | .resolved goLive => some (s.commit .approveVoucher, .returned goLive)
  | .returned _ => none
  | .failed _ => none

def step (admins : Admins) (s : State Bag) : Tx → Option (State Bag)
  | .approveApproval =>
    (approveApproval admins s.store s.approving).map fun r => { s with store := r.1, approving := r.2 }
  | .approveVoucher =>
    (approveVoucher admins s.store s.reviewing).map fun r => { s with store := r.1, reviewing := r.2 }

/-! ### What holds of the rows -/

/-- What `approveApproval` has done to the rows. -/
inductive Stage
  /-- Nothing, or it has ended without going live. -/
  | idle
  | won
  | flagships
  | found
  /-- The vouchers that wait have been made ACTIVE. -/
  | customs
  | done
  deriving DecidableEq

def Approving.stage : Approving → Stage
  | .won => .won
  | .flagshipsActivated => .flagships
  | .customsFound => .found
  | .customsActivated => .customs
  | .resolved => .customs
  | .returned false => .done
  | _ => .idle

/-- The merchant is ACTIVE for the others when `approveApproval` has committed. -/
def MerchantOk (c : Cell Tx OnboardingMerchant) : Stage → Prop
  | .idle => c.held = none
  | .done => c.held = none ∧ c.committed.status = .ACTIVE
  | _ => (∃ w, c.held = some (.approveApproval, w) ∧ w.status = .ACTIVE) ∧ c.committed.status ≠ .ACTIVE

def AllActive (vouchers : List (Voucher Bag)) : Prop := ∀ v ∈ vouchers, v.status = .ACTIVE

/-- And so are its flagships. -/
def FlagshipsOk (c : Cell Tx (List (Voucher Bag))) : Stage → Prop
  | .idle => c.held = none
  | .won => c.held = none
  | .done => c.held = none ∧ AllActive c.committed
  | _ => ∃ w, c.held = some (.approveApproval, w) ∧ AllActive w

/-- Submitted, and not decided on. -/
def Unreviewed (v : Voucher Bag) : Prop := v.status = .PENDING_APPROVAL ∧ v.approvalStatus = .PENDING

/-- The custom voucher, in each phase of its approval. A voucher that was left waiting waits, or
    `approveApproval` has made it ACTIVE. -/
def VoucherOk (c : Cell Tx (Voucher Bag)) (stage : Stage) : Reviewing → Prop
  | .written goLive => (∃ w, c.held = some (.approveVoucher, w) ∧ w.approvalStatus = .APPROVED ∧
      w.status = if goLive = true then .ACTIVE else .PENDING_APPROVAL) ∧ Unreviewed c.committed
  | .resolved goLive => (∃ w, c.held = some (.approveVoucher, w) ∧ w.approvalStatus = .APPROVED ∧
      w.status = if goLive = true then .ACTIVE else .PENDING_APPROVAL) ∧ Unreviewed c.committed
  | .returned true => c.held = none ∧ c.committed.status = .ACTIVE
  | .returned false => (c.held = none ∧ (ApprovedWaiting c.committed ∨ c.committed.status = .ACTIVE)) ∨
      (∃ w, c.held = some (.approveApproval, w) ∧ w.status = .ACTIVE) ∧ stage = .customs
  | _ => c.held = none ∧ Unreviewed c.committed

structure Consistent (s : State Bag) : Prop where
  merchant : MerchantOk s.store.merchant s.approving.stage
  submitted : ∀ v ∈ s.store.flagships.committed, Submitted v
  flagships : FlagshipsOk s.store.flagships s.approving.stage
  voucher : VoucherOk s.store.voucher s.approving.stage s.reviewing
  live : s.reviewing = .merchantLive → s.store.merchant.committed.status = .ACTIVE

/-- `approveApproval` has not yet made the vouchers that wait ACTIVE. -/
def StillToActivate (stage : Stage) : Prop := stage ≠ .customs ∧ stage ≠ .done

instance : DecidablePred StillToActivate :=
  fun stage => inferInstanceAs (Decidable (stage ≠ .customs ∧ stage ≠ .done))

/-- The voucher is going to be ACTIVE, if both transactions commit. -/
def Promised (s : State Bag) : Prop :=
  match s.reviewing with
  | .merchantLive => AllActive s.store.flagships.committed
  | .judged goLive => goLive = true
  | .written goLive => goLive = true
  | .resolved goLive => goLive = true
  | .returned goLive => goLive = true ∨ StillToActivate s.approving.stage ∨
      (s.store.voucher.read .approveApproval).status = .ACTIVE
  | _ => False

/-- A step that settles the matter: `approveVoucher` reads the merchant after `approveApproval` has
    committed, or it commits before `approveApproval` activates the vouchers that it finds waiting. -/
def Timely (s : State Bag) (i : Tx) : Prop :=
  i = .approveVoucher ∧
    (s.reviewing = .voucherRead ∧ s.store.merchant.committed.status = .ACTIVE ∧
        AllActive s.store.flagships.committed ∨
      s.reviewing = .resolved false ∧ StillToActivate s.approving.stage)

section
variable {admins : Admins} {s s' : State Bag} {st st' : Store Bag} {a a' : Approving} {v v' : Reviewing}

/-! ### What a statement does -/

/-- The three cells that matter. -/
def Same (st st' : Store Bag) : Prop :=
  st'.merchant = st.merchant ∧ st'.flagships = st.flagships ∧ st'.voucher = st.voucher

theorem stage_after {σ : Type} {x : Except AppError σ} {f : σ → Approving} (hf : ∀ b, (f b).stage = .idle) :
    (after x .failed f).stage = .idle := by
  cases x with
  | ok b => exact hf b
  | error e => rfl

theorem approveApproval_cases (h : approveApproval admins st a = some (st', a')) :
    (Same st st' ∧ a'.stage = a.stage) ∨
    (∃ c b, a.stage = .idle ∧ st.merchant.updateWhere .approveApproval (fun m => m.status ≠ .ACTIVE)
      OnboardingMerchant.goLive = some (c, b) ∧ st' = { st with merchant := c } ∧
      a'.stage = if b = true then .won else .idle) ∨
    (∃ c, a.stage = .won ∧ st.flagships.write .approveApproval ((st.flagships.read .approveApproval).map
      fun v => if Submitted v then activateFlagship admins.approver admins.approvedAt v else v) = some c ∧
      st' = { st with flagships := c } ∧ a'.stage = .flagships) ∨
    (a.stage = .flagships ∧ st' = st ∧ a'.stage =
      if ∃ v ∈ st.customs .approveApproval, ApprovedWaiting v then .found else .customs) ∨
    (a.stage = .found ∧ st.activateCustoms .approveApproval = some st' ∧ a'.stage = .customs) ∨
    (a.stage = .customs ∧ st' = st.commit .approveApproval ∧ a'.stage = .done) := by
  have same_self : Same st st := ⟨rfl, rfl, rfl⟩
  cases a with
  | start =>
    cases h
    exact .inl ⟨same_self, stage_after fun _ => rfl⟩
  | approvalRead approval =>
    simp only [approveApproval] at h
    split_ifs at h with hactive
    · cases h
      exact .inl ⟨same_self, rfl⟩
    · cases h
      exact .inl ⟨same_self, stage_after fun _ => rfl⟩
  | merchantRead merchant =>
    cases h
    exact .inl ⟨same_self, rfl⟩
  | branchesCounted merchant branchCount =>
    cases h
    exact .inl ⟨same_self, stage_after fun _ => rfl⟩
  | gatesPassed merchant branchCount rmvCount =>
    cases h
    exact .inl ⟨same_self, stage_after fun _ => rfl⟩
  | located =>
    obtain ⟨⟨c, b⟩, hu, he⟩ := Option.map_eq_some_iff.mp h
    cases he
    refine .inr (.inl ⟨c, b, rfl, hu, rfl, ?_⟩)
    split_ifs
    · rfl
    · rfl
  | won =>
    obtain ⟨c, hw, he⟩ := Option.map_eq_some_iff.mp h
    cases he
    exact .inr (.inr (.inl ⟨c, rfl, hw, rfl, rfl⟩))
  | flagshipsActivated =>
    cases h
    refine .inr (.inr (.inr (.inl ⟨rfl, rfl, ?_⟩)))
    split_ifs
    · rfl
    · rfl
  | customsFound =>
    obtain ⟨t, ht, he⟩ := Option.map_eq_some_iff.mp h
    cases he
    exact .inr (.inr (.inr (.inr (.inl ⟨rfl, ht, rfl⟩))))
  | customsActivated =>
    obtain ⟨c, hw, he⟩ := Option.map_eq_some_iff.mp h
    cases he
    exact .inl ⟨same_self, rfl⟩
  | resolved =>
    cases h
    exact .inr (.inr (.inr (.inr (.inr ⟨rfl, rfl, rfl⟩))))
  | returned alreadyLive => cases h
  | failed e => cases h

theorem activateCustoms_some (h : st.activateCustoms .approveApproval = some st') : ∃ c b others,
    st.voucher.updateWhere .approveApproval ApprovedWaiting activateWaiting = some (c, b) ∧
      st' = { st with voucher := c, others := others } := by
  simp only [Store.activateCustoms, Option.bind_eq_bind, Option.bind_eq_some_iff] at h
  obtain ⟨⟨c, b⟩, hc, others, -, he⟩ := h
  cases he
  exact ⟨c, b, others, hc, rfl⟩

/-! ### Rows that a transaction does not hold -/

section
variable {σ : Type} {c : Cell Tx σ} {i j : Tx} {w : σ}

theorem free_of_other (hne : i ≠ j) (h : c.held = some (i, w)) : c.Free j := by
  intro x hx
  rw [h] at hx
  cases hx
  exact hne rfl

end

theorem MerchantOk.free {c : Cell Tx OnboardingMerchant} {stage : Stage} (h : MerchantOk c stage) :
    c.Free .approveVoucher := by
  cases stage with
  | idle => exact Cell.free_of_held_none h
  | done => exact Cell.free_of_held_none h.1
  | won | flagships | found | customs =>
    obtain ⟨⟨w, hw, -⟩, -⟩ := h
    exact free_of_other (by decide) hw

theorem FlagshipsOk.free {c : Cell Tx (List (Voucher Bag))} {stage : Stage} (h : FlagshipsOk c stage) :
    c.Free .approveVoucher := by
  cases stage with
  | idle | won => exact Cell.free_of_held_none h
  | done => exact Cell.free_of_held_none h.1
  | flagships | found | customs =>
    obtain ⟨w, hw, -⟩ := h
    exact free_of_other (by decide) hw

section
variable {c : Cell Tx (Voucher Bag)} {stage stage' : Stage}

theorem VoucherOk.free (h : VoucherOk c stage v) (hs : stage ≠ .customs) : c.Free .approveApproval := by
  cases v with
  | written goLive =>
    obtain ⟨⟨w, hw, -⟩, -⟩ := h
    exact free_of_other (by decide) hw
  | resolved goLive =>
    obtain ⟨⟨w, hw, -⟩, -⟩ := h
    exact free_of_other (by decide) hw
  | returned goLive =>
    cases goLive with
    | true => exact Cell.free_of_held_none h.1
    | false =>
      rcases h with ⟨hn, -⟩ | ⟨-, hs'⟩
      · exact Cell.free_of_held_none hn
      · exact absurd hs' hs
  | start | approvalRead | voucherRead | merchantLive | judged | failed => exact Cell.free_of_held_none h.1

/-- Before `approveApproval` touches the vouchers, its stages make no difference to them. -/
theorem VoucherOk.of_ne (h : VoucherOk c stage v) (hs : stage ≠ .customs) : VoucherOk c stage' v := by
  cases v with
  | returned goLive =>
    cases goLive with
    | true => exact h
    | false =>
      rcases h with h | ⟨-, hs'⟩
      · exact .inl h
      · exact absurd hs' hs
  | start | approvalRead | voucherRead | merchantLive | judged | written | resolved | failed => exact h

/-- The commit of `approveApproval`: what it has made ACTIVE is ACTIVE. -/
theorem VoucherOk.commit (h : VoucherOk c .customs v) : VoucherOk (c.commit .approveApproval) .done v := by
  cases v with
  | returned goLive =>
    cases goLive with
    | true =>
      rw [Cell.commit_of_free (Cell.free_of_held_none h.1)]
      exact h
    | false =>
      rcases h with h | ⟨⟨w, hw, hactive⟩, -⟩
      · rw [Cell.commit_of_free (Cell.free_of_held_none h.1)]
        exact .inl h
      · rw [Cell.commit_of_held hw]
        exact .inl ⟨rfl, .inr hactive⟩
  | written goLive =>
    obtain ⟨⟨w, hw, -⟩, -⟩ := id h
    rw [Cell.commit_of_free (free_of_other (by decide) hw)]
    exact h
  | resolved goLive =>
    obtain ⟨⟨w, hw, -⟩, -⟩ := id h
    rw [Cell.commit_of_free (free_of_other (by decide) hw)]
    exact h
  | start | approvalRead | voucherRead | merchantLive | judged | failed =>
    rw [Cell.commit_of_free (Cell.free_of_held_none h.1)]
    exact h

/-- Only a voucher that its approval has left waiting waits. -/
theorem VoucherOk.waiting (h : VoucherOk c stage v) (hw : ApprovedWaiting c.committed) :
    v = .returned false := by
  obtain ⟨hstatus, hpending⟩ := hw
  cases v with
  | returned goLive =>
    cases goLive with
    | true => cases h.2.symm.trans hpending
    | false => rfl
  | written goLive => cases h.2.2.symm.trans hstatus
  | resolved goLive => cases h.2.2.symm.trans hstatus
  | start | approvalRead | voucherRead | merchantLive | judged | failed => cases h.2.2.symm.trans hstatus

end

/-! ### The rows stay consistent -/

/-- The rows are as they should be at a stage, and `approveApproval` has come to it. -/
theorem Consistent.of_stage {stage : Stage} (hs : a'.stage = stage) (hm : MerchantOk st.merchant stage)
    (hsub : ∀ r ∈ st.flagships.committed, Submitted r) (hf : FlagshipsOk st.flagships stage)
    (hv : VoucherOk st.voucher stage v)
    (hl : v = .merchantLive → st.merchant.committed.status = .ACTIVE) : Consistent ⟨st, a', v⟩ := by
  cases hs
  exact ⟨hm, hsub, hf, hv, hl⟩

theorem FlagshipsOk.commit {c : Cell Tx (List (Voucher Bag))} (h : FlagshipsOk c .customs) :
    FlagshipsOk (c.commit .approveApproval) .done := by
  obtain ⟨fs, hheld, hactive⟩ := h
  rw [Cell.commit_of_held hheld]
  exact ⟨rfl, hactive⟩

theorem MerchantOk.commit {c : Cell Tx OnboardingMerchant} (h : MerchantOk c .customs) :
    MerchantOk (c.commit .approveApproval) .done := by
  obtain ⟨⟨m, hheld, hactive⟩, -⟩ := h
  rw [Cell.commit_of_held hheld]
  exact ⟨rfl, hactive⟩

/-- The waiting vouchers are made ACTIVE. -/
theorem VoucherOk.activate {c c' : Cell Tx (Voucher Bag)} {b : Bool} (h : VoucherOk c .found v)
    (hu : c.updateWhere .approveApproval ApprovedWaiting activateWaiting = some (c', b)) :
    VoucherOk c' .customs v := by
  have hread := Cell.read_of_free (h.free (by decide))
  rcases Cell.updateWhere_cases hu with ⟨rfl, hwait, -, rfl⟩ | ⟨rfl, -, rfl⟩
  · rw [hread] at hwait
    rw [h.waiting hwait]
    exact .inr ⟨⟨_, rfl, rfl⟩, rfl⟩
  · exact h.of_ne (by decide)

theorem consistent_approveApproval (hc : Consistent ⟨st, a, v⟩)
    (h : approveApproval admins st a = some (st', a')) : Consistent ⟨st', a', v⟩ := by
  obtain ⟨hm, hsub, hf, hv, hl⟩ := hc
  dsimp only at hm hsub hf hv hl
  rcases approveApproval_cases h with ⟨⟨h1, h2, h3⟩, hs⟩ | ⟨c, b, hs, hu, rfl, hs'⟩ |
    ⟨c, hs, hw, rfl, hs'⟩ | ⟨hs, rfl, hs'⟩ | ⟨hs, hact, hs'⟩ | ⟨hs, rfl, hs'⟩
  · rw [← h1] at hm hl
    rw [← h2] at hsub hf
    rw [← h3] at hv
    exact .of_stage hs hm hsub hf hv hl
  · rw [hs] at hm hf hv
    have hread := Cell.read_of_free (Cell.free_of_held_none (i := .approveApproval) hm)
    rcases Cell.updateWhere_cases hu with ⟨rfl, hne, -, rfl⟩ | ⟨rfl, -, rfl⟩
    · rw [hread] at hne
      exact .of_stage hs' ⟨⟨_, rfl, rfl⟩, hne⟩ hsub hf (hv.of_ne (by decide)) hl
    · exact .of_stage hs' hm hsub hf (hv.of_ne (by decide)) hl
  · rw [hs] at hm hf hv
    obtain ⟨-, rfl⟩ := Cell.write_eq_some.mp hw
    refine .of_stage hs' hm hsub ⟨_, rfl, ?_⟩ (hv.of_ne (by decide)) hl
    rw [Cell.read_of_free (Cell.free_of_held_none (i := .approveApproval) hf)]
    intro r hr
    obtain ⟨t, ht, rfl⟩ := List.mem_map.mp hr
    rw [if_pos (hsub t ht)]
    rfl
  · rw [hs] at hm hf hv
    split_ifs at hs' with hfound
    · exact .of_stage hs' hm hsub hf (hv.of_ne (by decide)) hl
    · exact .of_stage hs' hm hsub hf (hv.of_ne (by decide)) hl
  · rw [hs] at hm hf hv
    obtain ⟨c, b, others, hu, rfl⟩ := activateCustoms_some hact
    exact .of_stage hs' hm hsub hf (hv.activate hu) hl
  · rw [hs] at hm hf hv
    have hm' := hm.commit
    have hf' := hf.commit
    exact .of_stage hs' hm' (fun r hr => .inr (hf'.2 r hr)) hf' hv.commit fun _ => hm'.2

/-! ### What is promised -/

/-- Outside of `approveVoucher`, the promise hangs on a voucher that was left waiting. -/
theorem promised_congr {t t' : State Bag} (hr : t'.reviewing = t.reviewing)
    (hlive : t.reviewing = .merchantLive →
      (AllActive t'.store.flagships.committed ↔ AllActive t.store.flagships.committed))
    (hwait : t.reviewing = .returned false →
      (StillToActivate t'.approving.stage ∨ (t'.store.voucher.read .approveApproval).status = .ACTIVE ↔
        StillToActivate t.approving.stage ∨ (t.store.voucher.read .approveApproval).status = .ACTIVE)) :
    Promised t' ↔ Promised t := by
  rw [Promised, Promised, hr]
  cases hv : t.reviewing with
  | merchantLive => exact hlive hv
  | returned goLive =>
    cases goLive with
    | true => exact iff_of_true (.inl rfl) (.inl rfl)
    | false => exact or_congr_right (hwait hv)
  | start | approvalRead | voucherRead | judged | written | resolved | failed => exact Iff.rfl

/-- A voucher that was left waiting, before `approveApproval` touches the vouchers. -/
theorem VoucherOk.left {c : Cell Tx (Voucher Bag)} {stage : Stage} (h : VoucherOk c stage (.returned false))
    (hs : stage ≠ .customs) : c.read .approveApproval = c.committed ∧
      (ApprovedWaiting c.committed ∨ c.committed.status = .ACTIVE) := by
  rcases h with ⟨hn, hcommitted⟩ | ⟨-, hcustoms⟩
  · exact ⟨Cell.read_of_free (Cell.free_of_held_none hn), hcommitted⟩
  · exact absurd hcustoms hs

theorem promised_approveApproval (hc : Consistent ⟨st, a, v⟩)
    (h : approveApproval admins st a = some (st', a')) : Promised ⟨st', a', v⟩ ↔ Promised ⟨st, a, v⟩ := by
  obtain ⟨hm, hsub, hf, hv, hl⟩ := hc
  dsimp only at hm hsub hf hv hl
  rcases approveApproval_cases h with ⟨⟨h1, h2, h3⟩, hs⟩ | ⟨c, b, hs, hu, rfl, hs'⟩ |
    ⟨c, hs, hw, rfl, hs'⟩ | ⟨hs, rfl, hs'⟩ | ⟨hs, hact, hs'⟩ | ⟨hs, rfl, hs'⟩
  · refine promised_congr rfl (fun _ => ?_) fun _ => ?_
    · rw [h2]
    · rw [h3, hs]
  · refine promised_congr rfl (fun _ => Iff.rfl) fun _ => iff_of_true (.inl ?_) (.inl ?_)
    · rw [hs']
      split_ifs
      · decide
      · decide
    · rw [hs]
      decide
  · obtain ⟨-, rfl⟩ := Cell.write_eq_some.mp hw
    refine promised_congr rfl (fun _ => Iff.rfl) fun _ => iff_of_true (.inl ?_) (.inl ?_)
    · rw [hs']
      decide
    · rw [hs]
      decide
  · refine promised_congr rfl (fun _ => Iff.rfl) fun hwaits => ?_
    dsimp only at hwaits ⊢
    rw [hs, hwaits] at hv
    obtain ⟨hread, hwait | hactive⟩ := hv.left (by decide)
    · have hfound : ∃ r ∈ st'.customs .approveApproval, ApprovedWaiting r := by
        refine ⟨_, List.mem_cons_self .., ?_⟩
        rw [hread]
        exact hwait
      rw [hs', if_pos hfound, hs]
      exact iff_of_true (.inl (by decide)) (.inl (by decide))
    · rw [hread]
      exact iff_of_true (.inr hactive) (.inr hactive)
  · obtain ⟨c, b, others, hu, rfl⟩ := activateCustoms_some hact
    refine promised_congr rfl (fun _ => Iff.rfl) fun hwaits => ?_
    dsimp only at hwaits ⊢
    refine iff_of_true (.inr ?_) (.inl ?_)
    · rw [hs, hwaits] at hv
      rcases Cell.updateWhere_cases hu with ⟨rfl, -, -, rfl⟩ | ⟨rfl, hno, rfl⟩
      · rw [Cell.read_of_held rfl]
        rfl
      · obtain ⟨hread, hwait | hactive⟩ := hv.left (by decide)
        · rw [hread] at hno
          exact absurd hwait hno
        · rw [hread]
          exact hactive
    · rw [hs]
      decide
  · rw [hs] at hm hf hv
    refine promised_congr rfl (fun hlive => absurd (hl hlive) hm.2) fun hwaits => ?_
    dsimp only [Store.commit] at hwaits ⊢
    rw [hs', hs]
    refine or_congr (by decide) ?_
    rw [hwaits] at hv
    rcases hv with ⟨hn, -⟩ | ⟨⟨w, hw, -⟩, -⟩
    · rw [Cell.commit_of_free (Cell.free_of_held_none hn)]
    · rw [Cell.commit_of_held hw, Cell.read_of_held hw, Cell.read_of_free (Cell.free_of_held_none rfl)]

/-! ### The approval of the voucher -/

/-- A statement that only reads. -/
theorem Consistent.reads (hc : Consistent ⟨st, a, v⟩) (hv : VoucherOk st.voucher a.stage v')
    (hl : v' = .merchantLive → st.merchant.committed.status = .ACTIVE) : Consistent ⟨st, a, v'⟩ :=
  ⟨hc.merchant, hc.submitted, hc.flagships, hv, hl⟩

theorem not_timely (hread : v ≠ .voucherRead) (hresolved : v ≠ .resolved false) :
    ¬ Timely ⟨st, a, v⟩ .approveVoucher := by
  rintro ⟨-, ⟨hv, -⟩ | ⟨hv, -⟩⟩
  · exact hread hv
  · exact hresolved hv

/-- Before `approveVoucher` has looked at the merchant, or when it has failed. -/
def Early : Reviewing → Prop
  | .start => True
  | .approvalRead => True
  | .voucherRead => True
  | .failed _ => True
  | _ => False

theorem early_after {σ : Type} {x : Except AppError σ} {next : σ → Reviewing} (hnext : ∀ b, Early (next b)) :
    Early (after x .failed next) := by
  cases x with
  | ok b => exact hnext b
  | error e => trivial

theorem not_promised_of_early (h : Early v) : ¬ Promised ⟨st, a, v⟩ := by
  cases v with
  | start | approvalRead | voucherRead | failed => exact id
  | merchantLive | judged | written | resolved | returned => exact h.elim

theorem Consistent.reads_early (hc : Consistent ⟨st, a, v⟩) (hv : Early v) (hv' : Early v') :
    Consistent ⟨st, a, v'⟩ := by
  have hvoucher : st.voucher.held = none ∧ Unreviewed st.voucher.committed := by
    have hv0 := hc.voucher
    cases v with
    | start | approvalRead | voucherRead | failed => exact hv0
    | merchantLive | judged | written | resolved | returned => exact hv.elim
  cases v' with
  | start | approvalRead | voucherRead | failed => exact hc.reads hvoucher nofun
  | merchantLive | judged | written | resolved | returned => exact hv'.elim

/-- A statement that only checks promises nothing. -/
theorem early_step (hc : Consistent ⟨st, a, v⟩) (hv : Early v) (hread : v ≠ .voucherRead) (hv' : Early v') :
    Consistent ⟨st, a, v'⟩ ∧
      (Promised ⟨st, a, v'⟩ ↔ Promised ⟨st, a, v⟩ ∨ Timely ⟨st, a, v⟩ .approveVoucher) := by
  have hresolved : v ≠ .resolved false := by
    rintro rfl
    exact hv
  refine ⟨hc.reads_early hv hv', iff_of_false (not_promised_of_early hv') ?_⟩
  exact not_or.mpr ⟨not_promised_of_early hv, not_timely hread hresolved⟩

/-- The commit of `approveVoucher`. -/
theorem Consistent.commit_voucher {goLive : Bool} (hc : Consistent ⟨st, a, .resolved goLive⟩) :
    Consistent ⟨st.commit .approveVoucher, a, .returned goLive⟩ := by
  obtain ⟨⟨w, hw, happroved, hstatus⟩, -⟩ := hc.voucher
  have hmerchant := Cell.commit_of_free hc.merchant.free
  have hflagships := Cell.commit_of_free hc.flagships.free
  dsimp only at hmerchant hflagships
  constructor
  · dsimp only [Store.commit]
    rw [hmerchant]
    exact hc.merchant
  · dsimp only [Store.commit]
    rw [hflagships]
    exact hc.submitted
  · dsimp only [Store.commit]
    rw [hflagships]
    exact hc.flagships
  · dsimp only [Store.commit]
    rw [Cell.commit_of_held hw]
    cases goLive with
    | true => exact ⟨rfl, hstatus⟩
    | false => exact .inl ⟨rfl, .inl ⟨happroved, hstatus⟩⟩
  · nofun

theorem promised_commit_voucher {goLive : Bool} (hc : Consistent ⟨st, a, .resolved goLive⟩) :
    Promised ⟨st.commit .approveVoucher, a, .returned goLive⟩ ↔
      Promised ⟨st, a, .resolved goLive⟩ ∨ Timely ⟨st, a, .resolved goLive⟩ .approveVoucher := by
  cases goLive with
  | true => exact iff_of_true (.inl rfl) (.inl rfl)
  | false =>
    obtain ⟨⟨w, hw, -, hstatus⟩, -⟩ := hc.voucher
    dsimp only [Promised, Timely, Store.commit]
    rw [Cell.commit_of_held hw, Cell.read_of_free (Cell.free_of_held_none rfl), hstatus]
    simp

theorem approveVoucher_step (hc : Consistent ⟨st, a, v⟩) (h : approveVoucher admins st v = some (st', v')) :
    Consistent ⟨st', a, v'⟩ ∧
      (Promised ⟨st', a, v'⟩ ↔ Promised ⟨st, a, v⟩ ∨ Timely ⟨st, a, v⟩ .approveVoucher) := by
  have hvoucher := hc.voucher
  dsimp only at hvoucher
  cases v with
  | start =>
    cases h
    exact early_step hc trivial nofun (early_after fun _ => trivial)
  | approvalRead =>
    cases h
    exact early_step hc trivial nofun (early_after fun _ => trivial)
  | voucherRead =>
    rw [approveVoucher, Cell.read_of_free hc.merchant.free] at h
    split_ifs at h with hactive
    · cases h
      refine ⟨hc.reads hvoucher fun _ => hactive, ?_⟩
      constructor
      · intro hall
        exact .inr ⟨rfl, .inl ⟨rfl, hactive, hall⟩⟩
      · rintro (hno | ⟨-, ⟨-, -, hall⟩ | ⟨hno, -⟩⟩)
        · exact hno.elim
        · exact hall
        · cases hno
    · cases h
      refine ⟨hc.reads hvoucher nofun, iff_of_false nofun (not_or.mpr ⟨id, ?_⟩)⟩
      rintro ⟨-, ⟨-, hlive, -⟩ | ⟨h, -⟩⟩
      · exact hactive hlive
      · cases h
  | merchantLive =>
    rw [approveVoucher, Cell.read_of_free hc.flagships.free] at h
    cases h
    refine ⟨hc.reads hvoucher nofun, ?_⟩
    have hno : ¬ Timely ⟨st, a, .merchantLive⟩ .approveVoucher := not_timely nofun nofun
    rw [or_iff_left hno]
    simp only [Promised, AllActive, decide_eq_true_eq, List.countP_eq_zero, not_not]
  | judged goLive =>
    have hno : ¬ Timely ⟨st, a, .judged goLive⟩ .approveVoucher := not_timely nofun nofun
    obtain ⟨c, hw, he⟩ := Option.map_eq_some_iff.mp h
    cases he
    obtain ⟨-, rfl⟩ := Cell.write_eq_some.mp hw
    rw [Cell.read_of_free (Cell.free_of_held_none hvoucher.1), or_iff_left hno]
    refine ⟨⟨hc.merchant, hc.submitted, hc.flagships, ⟨⟨_, rfl, rfl, ?_⟩, hvoucher.2⟩, nofun⟩, Iff.rfl⟩
    dsimp only [Voucher.approve]
    rw [hvoucher.2.1]
  | written goLive =>
    have hno : ¬ Timely ⟨st, a, .written goLive⟩ .approveVoucher := not_timely nofun nofun
    obtain ⟨c, hw, he⟩ := Option.map_eq_some_iff.mp h
    cases he
    rw [or_iff_left hno]
    exact ⟨⟨hc.merchant, hc.submitted, hc.flagships, hvoucher, nofun⟩, Iff.rfl⟩
  | resolved goLive =>
    cases h
    exact ⟨hc.commit_voucher, promised_commit_voucher hc⟩
  | returned goLive => cases h
  | failed e => cases h

/-! ### Every interleaving -/

/-- Neither transaction has begun, and the merchant's flagships and the custom voucher are submitted. -/
structure Ready (s : State Bag) : Prop where
  approving : s.approving = .start
  reviewing : s.reviewing = .start
  merchant : s.store.merchant.held = none
  flagships : s.store.flagships.held = none
  voucher : s.store.voucher.held = none
  submitted : ∀ v ∈ s.store.flagships.committed, Submitted v
  unreviewed : Unreviewed s.store.voucher.committed

theorem Ready.consistent (h : Ready s) : Consistent s := by
  constructor
  · rw [h.approving]
    exact h.merchant
  · exact h.submitted
  · rw [h.approving]
    exact h.flagships
  · rw [h.reviewing]
    exact ⟨h.voucher, h.unreviewed⟩
  · rw [h.reviewing]
    nofun

theorem step_ok {i : Tx} (hc : Consistent s) (h : step admins s i = some s') :
    Consistent s' ∧ (Promised s' ↔ Promised s ∨ Timely s i) := by
  cases i with
  | approveApproval =>
    obtain ⟨⟨st, a⟩, hst, rfl⟩ := Option.map_eq_some_iff.mp h
    have hno : ¬ Timely s .approveApproval := by
      rintro ⟨hi, -⟩
      cases hi
    rw [or_iff_left hno]
    exact ⟨consistent_approveApproval hc hst, promised_approveApproval hc hst⟩
  | approveVoucher =>
    obtain ⟨⟨st, v⟩, hst, rfl⟩ := Option.map_eq_some_iff.mp h
    exact approveVoucher_step hc hst

/-- When both have committed, the promise is what has become of the voucher. -/
theorem promised_iff_active {goLive : Bool} (hc : Consistent s) (happroved : s.approving = .returned false)
    (hreviewed : s.reviewing = .returned goLive) :
    Promised s ↔ s.store.voucher.committed.status = .ACTIVE := by
  have hv := hc.voucher
  rw [happroved, hreviewed] at hv
  rw [Promised, hreviewed]
  cases goLive with
  | true => exact iff_of_true (.inl rfl) hv.2
  | false =>
    rcases hv with ⟨hn, -⟩ | ⟨-, hcustoms⟩
    · dsimp only
      rw [happroved, Cell.read_of_free (Cell.free_of_held_none hn)]
      have hdone : ¬ StillToActivate (Approving.returned false).stage := fun h => h.2 rfl
      rw [or_iff_right (by decide), or_iff_right hdone]
    · cases hcustoms

/-- CORRECT: in every interleaving of a go-live with the approval of a submitted voucher, after both have
    committed the voucher is ACTIVE if and only if its approval reads the merchant after the go-live has
    committed, or commits before the go-live activates the vouchers that it finds waiting. -/
theorem voucher_active_iff {as : List Tx} {goLive : Bool} (hready : Ready s)
    (hrun : run (step admins) s as = some s') (happroved : s'.approving = .returned false)
    (hreviewed : s'.reviewing = .returned goLive) :
    s'.store.voucher.committed.status = .ACTIVE ↔ Somewhere (step admins) Timely s as := by
  have hc' : Consistent s' := run_invariant (fun t i t' ht h => (step_ok ht h).1) hready.consistent hrun
  have hrule := run_iff_somewhere (K := Consistent) (G := Promised) (P := Timely)
    (fun t i t' ht h => (step_ok ht h).1) (fun t i t' ht h => (step_ok ht h).2) hready.consistent hrun
  have hstart : ¬ Promised s := by
    rw [Promised, hready.reviewing]
    exact id
  rw [← promised_iff_active hc' happroved hreviewed, hrule, or_iff_right hstart]

end

/-! ### A voucher left behind -/

def bakery : OnboardingMerchant where
  id := 0
  status := .PENDING_APPROVAL
  onboardingStep := .SUBMITTED
  verificationStatus := .PENDING
  contractStatus := .SIGNED
  isTestData := false
  primaryCategoryId := some 0

def submittedVoucher (id : ℕ) (isRmv : Bool) : Voucher Unit where
  type := .BOGO
  title := "Buy one loaf, get one free"
  description := none
  terms := none
  estimatedSaving := 3
  expiryDate := none
  availabilityWindows := []
  id := id
  merchantId := 0
  isRmv := isRmv
  isMandatory := isRmv
  rmvTemplateId := none
  imageUrl := none
  cooldownSeconds := none
  status := .PENDING_APPROVAL
  approvalStatus := .PENDING
  approvedBy := none
  approvedAt := none
  publishedAt := some 0
  merchantFields := some ()

def pendingApproval (id : ℕ) (type : ApprovalType) (referenceId : ℕ) : AdminApproval where
  id := id
  type := type
  referenceId := referenceId
  referenceType := "merchant"
  status := .PENDING
  comment := none
  adminUserId := none
  actionedAt := none
  claimedById := none
  claimedAt := none

def bakeryBranch : Branch where
  id := 0
  merchantId := 0
  isMainBranch := true
  isActive := true
  deletedAt := none
  lifecycleStatus := .LIVE
  closeReason := none
  locationConfidence := .MERCHANT_CONFIRMED
  columns := fun _ => .null

/-- The bakery has two flagships and one custom voucher, all submitted. -/
def opening : State Unit where
  store := {
    merchant := ⟨bakery, none⟩
    flagships := ⟨[submittedVoucher 0 true, submittedVoucher 1 true], none⟩
    voucher := ⟨submittedVoucher 2 false, none⟩
    others := ⟨[], none⟩
    onboarding := ⟨pendingApproval 0 .MERCHANT_ONBOARDING 0, none⟩
    review := ⟨pendingApproval 1 .VOUCHER 2, none⟩
    branches := [bakeryBranch] }
  approving := .start
  reviewing := .start

def twoAdmins : Admins := ⟨0, 0, 1, 0⟩

theorem opening_ready : Ready opening where
  approving := rfl
  reviewing := rfl
  merchant := rfl
  flagships := rfl
  voucher := rfl
  submitted := by
    intro v hv
    rcases List.mem_cons.mp hv with rfl | hv
    · exact .inl rfl
    · rw [List.mem_singleton.mp hv]
      exact .inl rfl
  unreviewed := ⟨rfl, rfl⟩

/-- The voucher is approved first, and goes live with the bakery. -/
theorem voucher_active_iff_before : ∃ s', run (step twoAdmins) opening
      (List.replicate 6 .approveVoucher ++ List.replicate 11 .approveApproval) = some s' ∧
    (s'.store.voucher.committed.status = .ACTIVE ↔ Somewhere (step twoAdmins) Timely opening
      (List.replicate 6 .approveVoucher ++ List.replicate 11 .approveApproval)) := by
  obtain ⟨s', hrun, happroved, hreviewed⟩ : ∃ s', run (step twoAdmins) opening
      (List.replicate 6 .approveVoucher ++ List.replicate 11 .approveApproval) = some s' ∧
      s'.approving = .returned false ∧ s'.reviewing = .returned false := ⟨_, rfl, rfl, rfl⟩
  exact ⟨s', hrun, voucher_active_iff opening_ready hrun happroved hreviewed⟩

/-- The approval reads the bakery before it is live and commits when it is: the voucher waits, and nothing
    is left to make it ACTIVE. -/
theorem voucher_left_waiting : ∃ s', run (step twoAdmins) opening
      (List.replicate 3 .approveVoucher ++ List.replicate 10 .approveApproval ++
        List.replicate 3 .approveVoucher) = some s' ∧
    s'.approving = .returned false ∧ s'.reviewing = .returned false ∧
    s'.store.merchant.committed.status = .ACTIVE ∧
    s'.store.voucher.committed.status = .PENDING_APPROVAL ∧
    s'.store.voucher.committed.approvalStatus = .APPROVED :=
  ⟨_, rfl, rfl, rfl, rfl, rfl, rfl⟩

end Redeemo.GoLive
