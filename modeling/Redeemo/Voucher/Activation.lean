import Redeemo.Lib.Rows
import Redeemo.Lib.Runs
import Redeemo.Merchant.Onboarding
import Redeemo.Voucher.Flagship
import Redeemo.Voucher.Review
import Redeemo.Voucher.SubmitValidation

/-! The vouchers of the merchants, from the first draft until they are live, one operation at a time.

    A merchant goes live when it has two submitted flagships, and these and the custom vouchers that have
    been approved before become ACTIVE with it. A custom voucher that is approved later becomes ACTIVE at
    once, unless the merchant has a flagship that is not. While the merchant is live its flagships are
    the two that went live with it and those that a change of category has put aside; a voucher that is
    approved besides one of the latter waits for good. -/

namespace Redeemo.Activation
open Fallible Rows Runs Vouchers Flagship Onboarding BranchLifecycle AvailabilityWindows VoucherAvailability

structure Db (Bag : Type) where
  memberships : List Membership
  merchants : List OnboardingMerchant
  branches : List Branch
  categories : List Category
  rmvTemplates : List RmvTemplate
  vouchers : List (Voucher Bag)
  approvals : List AdminApproval
  nextId : ℕ

inductive Failure
  | app (e : AppError)
  /-- An update of a row that is not there. -/
  | P2025
  /-- A foreign key. -/
  | P2003
  deriving DecidableEq, Repr

/-- The body of a create request. -/
structure VoucherInput (Bag : Type) where
  type : VoucherType
  title : String
  estimatedSaving : ℚ
  description : Option String
  terms : Option String
  imageUrl : Option String
  expiryDate : Option ℤ
  availabilityWindows : Option (List AvailabilityWindow)
  cooldownSeconds : Option ℕ
  merchantFields : Option Bag

variable {Bag : Type}

def FlagshipOf (merchantId : ℕ) (v : Voucher Bag) : Prop := v.merchantId = merchantId ∧ v.isRmv = true

instance (merchantId : ℕ) : DecidablePred (@FlagshipOf Bag merchantId) :=
  fun v => inferInstanceAs (Decidable (v.merchantId = merchantId ∧ v.isRmv = true))

def CustomOf (merchantId : ℕ) (v : Voucher Bag) : Prop := v.merchantId = merchantId ∧ v.isRmv = false

instance (merchantId : ℕ) : DecidablePred (@CustomOf Bag merchantId) :=
  fun v => inferInstanceAs (Decidable (v.merchantId = merchantId ∧ v.isRmv = false))

/-- The statuses in which a flagship takes one of the merchant's two slots. -/
def SLOT_STATUSES : List VoucherStatus := [.DRAFT, .PENDING_APPROVAL, .ACTIVE]

namespace Db

/-! ### Reads -/

def accounts (db : Db Bag) : Accounts := ⟨db.merchants.map OnboardingMerchant.toMerchant, db.memberships⟩

def findMerchant (db : Db Bag) (id : ℕ) : Option OnboardingMerchant := db.merchants.find? fun m => m.id = id

def findApproval (db : Db Bag) (id : ℕ) : Option AdminApproval := db.approvals.find? fun r => r.id = id

/-- `voucher.findFirst`, where `{ id, merchantId, isRmv }`. -/
def findVoucher (db : Db Bag) (id merchantId : ℕ) (isRmv : Bool) : Option (Voucher Bag) :=
  db.vouchers.find? fun v => v.id = id ∧ v.merchantId = merchantId ∧ v.isRmv = isRmv

/-- The custom voucher that an approval is about. -/
def findReviewed (db : Db Bag) (approval : AdminApproval) : Option (Voucher Bag) :=
  db.vouchers.find? fun v => v.id = approval.referenceId ∧ v.isRmv = false

def IsLive (db : Db Bag) (merchantId : ℕ) : Prop :=
  (db.findMerchant merchantId).map (fun m => m.status) = some .ACTIVE

instance (db : Db Bag) : DecidablePred db.IsLive :=
  fun merchantId => inferInstanceAs
    (Decidable ((db.findMerchant merchantId).map (fun m => m.status) = some .ACTIVE))

def flagshipCount (db : Db Bag) (merchantId : ℕ) : ℕ :=
  db.vouchers.countP fun v => FlagshipOf merchantId v ∧ v.status ∈ SLOT_STATUSES

def rmvCount (db : Db Bag) (merchantId : ℕ) : ℕ :=
  db.vouchers.countP fun v => FlagshipOf merchantId v ∧ Submitted v

/-- No flagship is in another status than ACTIVE. -/
def isFlagshipLive (db : Db Bag) (merchantId : ℕ) : Bool :=
  (db.vouchers.countP fun v => FlagshipOf merchantId v ∧ v.status ≠ .ACTIVE) = 0

/-! ### Writes -/

def insertVoucher (db : Db Bag) (row : ℕ → Voucher Bag) : Db Bag :=
  { db with vouchers := db.vouchers ++ [row db.nextId], nextId := db.nextId + 1 }

def updateVouchers (db : Db Bag) (p : Voucher Bag → Prop) [DecidablePred p]
    (f : Voucher Bag → Voucher Bag) : Db Bag :=
  { db with vouchers := updateMany p f db.vouchers }

def updateMerchants (db : Db Bag) (p : OnboardingMerchant → Prop) [DecidablePred p]
    (f : OnboardingMerchant → OnboardingMerchant) : Db Bag :=
  { db with merchants := updateMany p f db.merchants }

def updateApproval (db : Db Bag) (id : ℕ) (f : AdminApproval → AdminApproval) : Db Bag :=
  { db with approvals := updateMany (fun r => r.id = id) f db.approvals }

/-- The approval is opened again, or created. -/
def submitApproval (db : Db Bag) (voucherId : ℕ) : Db Bag :=
  match db.approvals.find? fun r => r.type = .VOUCHER ∧ r.referenceId = voucherId with
  | some existing => db.updateApproval existing.id reopenApproval
  | none =>
    { db with approvals := db.approvals ++ [newApproval db.nextId voucherId], nextId := db.nextId + 1 }

end Db

/-! ### The merchant's operations -/

def createFlagshipRmvVoucher (fields : RmvFields Bag) (db : Db Bag) (adminId : ℕ)
    (voucherType : VoucherType) : Except AppError (Db Bag) := do
  let mctx ← resolveMerchantContext db.accounts adminId
  assertCanManageVouchers mctx
  rejectIf (voucherType ∉ ELIGIBLE_FLAGSHIP_TYPES) .VOUCHER_TYPE_NOT_ELIGIBLE
  rejectIf (FLAGSHIP_RMV_CAP ≤ db.flagshipCount mctx.merchantId) .FLAGSHIP_RMV_LIMIT_REACHED
  let primaryCategoryId ← orReject
    ((db.findMerchant mctx.merchantId).bind OnboardingMerchant.primaryCategoryId) .NO_RMV_TEMPLATE
  let templateCategoryId := resolveTopLevelCategoryId db.categories primaryCategoryId
  let template ← orReject (findTemplate db.rmvTemplates templateCategoryId voucherType) .NO_RMV_TEMPLATE
  return db.insertVoucher (draftOf fields mctx.merchantId template)

def putAside (v : Voucher Bag) : Voucher Bag := { v with status := .INACTIVE }

def withCategory (categoryId : ℕ) (m : OnboardingMerchant) : OnboardingMerchant :=
  { m with primaryCategoryId := some categoryId }

/-- With whether the category is changed; where it is not, a confirmation is asked for. -/
def handleCategoryChange (fields : RmvFields Bag) (db : Db Bag) (merchantId newCategoryId : ℕ)
    (confirm : Bool) : Except Failure (Db Bag × Bool) := do
  rejectIf (∃ v ∈ db.vouchers, FlagshipOf merchantId v ∧ Submitted v) (.app .CATEGORY_CHANGE_BLOCKED)
  if confirm = false then return (db, false)
  else
    let templateCategoryId := resolveTopLevelCategoryId db.categories newCategoryId
    let discarded := db.updateVouchers (fun v => FlagshipOf merchantId v ∧ v.status = .DRAFT) putAside
    let _ ← orReject (db.findMerchant merchantId) .P2025
    rejectIf (∀ c ∈ db.categories, c.id ≠ newCategoryId) .P2003
    let moved := discarded.updateMerchants (fun m => m.id = merchantId) (withCategory newCategoryId)
    let templates := (db.rmvTemplates.filter fun t =>
      t.categoryId = templateCategoryId ∧ t.isActive = true).take 2
    rejectIf (templates.length < 2) (.app .NO_RMV_TEMPLATE)
    return (templates.foldl (fun db t => db.insertVoucher (draftOf fields merchantId t)) moved, true)

/-- The merchant's builder, and an admin's, write the bag. -/
def updateRmvVoucherCore (fields : RmvFields Bag) (db : Db Bag) (merchantId voucherId : ℕ)
    (proposedFields : Bag) : Except AppError (Db Bag) := do
  let voucher ← orReject (db.findVoucher voucherId merchantId true) .RMV_NOT_FOUND
  let update ← checkUpdateRmv fields db.rmvTemplates voucher proposedFields
  return db.updateVouchers (fun v => v.id = voucherId) (applyUpdateRmv update)

def submitRmvVoucherCore (fields : RmvFields Bag) (db : Db Bag) (merchantId voucherId : ℕ) (now : ℤ) :
    Except AppError (Db Bag) := do
  let voucher ← orReject (db.findVoucher voucherId merchantId true) .RMV_NOT_FOUND
  let submission ← checkSubmitRmv fields db.rmvTemplates voucher
  return db.updateVouchers (fun v => v.id = voucherId) (submission.apply now)

def createVoucher (fields : RmvFields Bag) (db : Db Bag) (adminId : ℕ) (data : VoucherInput Bag) :
    Except AppError (Db Bag) := do
  let mctx ← resolveMerchantContext db.accounts adminId
  assertCanManageVouchers mctx
  assertSavingSane data.estimatedSaving
  assertSavingFitsColumn data.estimatedSaving
  validateAvailabilityWindows data.type data.availabilityWindows
  let merchantFieldsToStore := fields.stampStrictSubmitContract
    (fields.stripCallerOwnedKeys (data.merchantFields.getD fields.empty))
  assertMerchantFieldsWithinLimit fields.toMerchantFields merchantFieldsToStore
  return db.insertVoucher fun id => {
    type := data.type
    title := data.title
    description := data.description
    terms := data.terms
    estimatedSaving := toScale2 data.estimatedSaving
    expiryDate := data.expiryDate
    availabilityWindows := data.availabilityWindows.getD []
    id := id
    merchantId := mctx.merchantId
    isRmv := false
    isMandatory := false
    rmvTemplateId := none
    imageUrl := data.imageUrl
    cooldownSeconds := data.cooldownSeconds
    status := .DRAFT
    approvalStatus := .PENDING
    approvedBy := none
    approvedAt := none
    publishedAt := none
    merchantFields := some merchantFieldsToStore }

def submitVoucher (fields : RmvFields Bag) (db : Db Bag) (adminId voucherId : ℕ) (now : ℤ) :
    Except AppError (Db Bag) := do
  let mctx ← resolveMerchantContext db.accounts adminId
  assertCanManageVouchers mctx
  let voucher ← orReject (db.findVoucher voucherId mctx.merchantId false) .VOUCHER_NOT_FOUND
  let bag ← VoucherReview.checkSubmit fields.toMerchantFields voucher
  return (db.updateVouchers (fun v => v.id = voucherId) fun v => v.submit bag now).submitApproval voucherId

/-! ### The admin's operations -/

/-- With whether the voucher goes live. -/
def approveVoucher (db : Db Bag) (approvalId adminId : ℕ) (now : ℤ) : Except AppError (Db Bag × Bool) := do
  let approval ← checkApproval (db.findApproval approvalId)
  let voucher ← orReject (db.findReviewed approval) .VOUCHER_NOT_FOUND
  voucher.check
  let goLive : Bool := db.IsLive voucher.merchantId ∧ db.isFlagshipLive voucher.merchantId = true
  let approved := db.updateVouchers (fun v => v.id = voucher.id) fun v => v.approve adminId now goLive
  return (approved.updateApproval approvalId (AdminApproval.decide .APPROVED none adminId now), goLive)

/-- With whether the merchant was live before. No other operation comes between, so the merchant that was
    not is not when its row is updated. -/
def approveApproval (db : Db Bag) (approvalId adminId : ℕ) (now : ℤ) : Except AppError (Db Bag × Bool) := do
  let approval ← checkOnboardingApproval (db.findApproval approvalId)
  let merchant ← orReject (db.findMerchant approval.referenceId) .APPROVAL_NOT_ACTIONABLE
  if merchant.status = .ACTIVE then return (db, true)
  else
    checkApplicant approval merchant
    let branchCount := db.branches.countP fun b => b.merchantId = merchant.id
    let rmvCount := db.rmvCount merchant.id
    checkGates merchant branchCount rmvCount
    checkMainBranch (checklistOf merchant branchCount rmvCount) (db.branches.find? fun b =>
      b.merchantId = merchant.id ∧ b.isMainBranch = true ∧ b.isActive = true)
    let won := db.updateMerchants (fun m => m.id = merchant.id ∧ m.status ≠ .ACTIVE) OnboardingMerchant.goLive
    let flagships := won.updateVouchers (fun v => FlagshipOf merchant.id v ∧ Submitted v)
      (activateFlagship adminId now)
    let customs := flagships.updateVouchers (fun v => CustomOf merchant.id v ∧ ApprovedWaiting v)
      activateWaiting
    return (customs.updateApproval approvalId (AdminApproval.decide .APPROVED none adminId now), false)

/-! ### Runs -/

inductive Action (Bag : Type)
  | createFlagshipRmvVoucher (adminId : ℕ) (voucherType : VoucherType)
  | handleCategoryChange (merchantId newCategoryId : ℕ) (confirm : Bool)
  | updateRmvVoucherCore (merchantId voucherId : ℕ) (proposedFields : Bag)
  | submitRmvVoucherCore (merchantId voucherId : ℕ) (now : ℤ)
  | createVoucher (adminId : ℕ) (data : VoucherInput Bag)
  | submitVoucher (adminId voucherId : ℕ) (now : ℤ)
  | approveVoucher (approvalId adminId : ℕ) (now : ℤ)
  | approveApproval (approvalId adminId : ℕ) (now : ℤ)

def exec (fields : RmvFields Bag) (db : Db Bag) : Action Bag → Option (Db Bag)
  | .createFlagshipRmvVoucher adminId voucherType =>
    (createFlagshipRmvVoucher fields db adminId voucherType).toOption
  | .handleCategoryChange merchantId newCategoryId confirm =>
    (handleCategoryChange fields db merchantId newCategoryId confirm).toOption.map Prod.fst
  | .updateRmvVoucherCore merchantId voucherId proposedFields =>
    (updateRmvVoucherCore fields db merchantId voucherId proposedFields).toOption
  | .submitRmvVoucherCore merchantId voucherId now =>
    (submitRmvVoucherCore fields db merchantId voucherId now).toOption
  | .createVoucher adminId data => (createVoucher fields db adminId data).toOption
  | .submitVoucher adminId voucherId now => (submitVoucher fields db adminId voucherId now).toOption
  | .approveVoucher approvalId adminId now => (approveVoucher db approvalId adminId now).toOption.map Prod.fst
  | .approveApproval approvalId adminId now =>
    (approveApproval db approvalId adminId now).toOption.map Prod.fst

/-- An operation that throws leaves the tables as they were. -/
def step (fields : RmvFields Bag) (db : Db Bag) (a : Action Bag) : Option (Db Bag) :=
  some ((exec fields db a).getD db)

/-- No custom voucher has been approved and waits while its merchant is live. -/
def NoneStranded (live : ℕ → Prop) (vouchers : List (Voucher Bag)) : Prop :=
  ∀ v ∈ vouchers, v.isRmv = false → ApprovedWaiting v → ¬ live v.merchantId

/-- The voucher that an approval would leave waiting: its merchant is live, and has a flagship that was
    put aside. -/
structure Left (db : Db Bag) (approvalId : ℕ) (approval : AdminApproval) (voucher : Voucher Bag) : Prop where
  actionable : checkApproval (db.findApproval approvalId) = .ok approval
  found : db.findReviewed approval = some voucher
  pending : voucher.status = .PENDING_APPROVAL
  live : db.IsLive voucher.merchantId
  aside : ∃ v ∈ db.vouchers, FlagshipOf voucher.merchantId v ∧ v.status = .INACTIVE

def Strands (db : Db Bag) : Action Bag → Prop
  | .approveVoucher approvalId _ _ => ∃ approval voucher, Left db approvalId approval voucher
  | _ => False

/-! ### The flagships of a merchant -/

/-- A merchant has two slots for flagships. When it is live two flagships are ACTIVE, and every other one
    has been put aside. -/
structure Consistent (live : ℕ → Prop) (vouchers : List (Voucher Bag)) (nextId : ℕ) : Prop where
  keyed : Rows.Keyed (fun v => v.id) vouchers
  fresh : ∀ v ∈ vouchers, v.id < nextId
  unexpired : ∀ v ∈ vouchers, v.isRmv = true → v.status ≠ .EXPIRED
  cap : ∀ merchantId, (vouchers.countP fun v => FlagshipOf merchantId v ∧ v.status ∈ SLOT_STATUSES) ≤
    FLAGSHIP_RMV_CAP
  settled : ∀ v ∈ vouchers, v.isRmv = true → live v.merchantId → v.status = .ACTIVE ∨ v.status = .INACTIVE
  two : ∀ merchantId, live merchantId →
    FLAGSHIP_RMV_CAP ≤ vouchers.countP fun v => FlagshipOf merchantId v ∧ v.status = .ACTIVE

section
variable {live live' : ℕ → Prop} {vouchers : List (Voucher Bag)} {nextId : ℕ} {p : Voucher Bag → Prop}
  [DecidablePred p] {f : Voucher Bag → Voucher Bag}

/-- What no operation changes of a voucher. -/
structure SameOwner (v w : Voucher Bag) : Prop where
  id : v.id = w.id
  merchantId : v.merchantId = w.merchantId
  isRmv : v.isRmv = w.isRmv

theorem SameOwner.flagshipOf {v w : Voucher Bag} (h : SameOwner v w) {merchantId : ℕ} :
    FlagshipOf merchantId v ↔ FlagshipOf merchantId w := by
  rw [FlagshipOf, FlagshipOf, h.merchantId, h.isRmv]

theorem slot_of_draft {v : Voucher Bag} (h : v.status = .DRAFT) : v.status ∈ SLOT_STATUSES := by
  rw [h]
  decide

theorem slot_of_submitted {v : Voucher Bag} (h : Submitted v) : v.status ∈ SLOT_STATUSES := by
  rcases h with hs | hs
  · rw [hs]
    decide
  · rw [hs]
    decide

/-- Of the flagships only drafts change their status, and only while their merchant is not live. -/
theorem Consistent.updateMany (h : Consistent live vouchers nextId) (hf : ∀ v, SameOwner (f v) v)
    (hp : ∀ v ∈ vouchers, p v → v.isRmv = true →
      v.status = .DRAFT ∧ (f v).status ≠ .EXPIRED ∨ (f v).status = v.status) :
    Consistent live (updateMany p f vouchers) nextId where
  keyed := h.keyed.updateMany fun v => (hf v).id
  fresh := forall_updateMany.mpr fun v hv => ⟨fun _ => (hf v).id ▸ h.fresh v hv, fun _ => h.fresh v hv⟩
  unexpired := by
    refine forall_updateMany.mpr fun v hv => ⟨fun hpv hrmv => ?_, fun _ => h.unexpired v hv⟩
    rw [(hf v).isRmv] at hrmv
    rcases hp v hv hpv hrmv with ⟨-, hs⟩ | hs
    · exact hs
    · rw [hs]
      exact h.unexpired v hv hrmv
  cap merchantId := by
    refine le_trans (countP_updateMany_le fun v hv hq => ?_) (h.cap merchantId)
    split_ifs at hq with hpv
    · have hown := (hf v).flagshipOf.mp hq.1
      rcases hp v hv hpv hown.2 with ⟨hdraft, -⟩ | hs
      · exact ⟨hown, slot_of_draft hdraft⟩
      · exact ⟨hown, hs ▸ hq.2⟩
    · exact hq
  settled := by
    refine forall_updateMany.mpr fun v hv => ⟨fun hpv hrmv hlive => ?_, fun _ => h.settled v hv⟩
    rw [(hf v).isRmv] at hrmv
    rw [(hf v).merchantId] at hlive
    have hsettled := h.settled v hv hrmv hlive
    rcases hp v hv hpv hrmv with ⟨hdraft, -⟩ | hs
    · rw [hdraft] at hsettled
      rcases hsettled with hs | hs
      · cases hs
      · cases hs
    · rw [hs]
      exact hsettled
  two merchantId hlive := by
    refine le_trans (h.two merchantId hlive) (countP_le_updateMany fun v hv hq => ?_)
    split_ifs with hpv
    · refine ⟨(hf v).flagshipOf.mpr hq.1, ?_⟩
      rcases hp v hv hpv hq.1.2 with ⟨hdraft, -⟩ | hs
      · cases hdraft.symm.trans hq.2
      · exact hs.trans hq.2
    · exact hq

/-- A merchant with a free slot is not live. -/
theorem Consistent.not_live (h : Consistent live vouchers nextId) {merchantId : ℕ}
    (hroom : (vouchers.countP fun v => FlagshipOf merchantId v ∧ v.status ∈ SLOT_STATUSES) <
      FLAGSHIP_RMV_CAP) : ¬ live merchantId := by
  intro hlive
  refine absurd (h.two merchantId hlive) (not_le.mpr (lt_of_le_of_lt ?_ hroom))
  refine List.countP_mono_left fun v _ hq => ?_
  simp only [decide_eq_true_eq] at hq ⊢
  refine ⟨hq.1, ?_⟩
  rw [hq.2]
  decide

/-- A new voucher is a draft, and a flagship needs a free slot. -/
theorem Consistent.concat (h : Consistent live vouchers nextId) {v : Voucher Bag} (hid : v.id = nextId)
    (hdraft : v.status = .DRAFT) (hroom : v.isRmv = true →
      (vouchers.countP fun w => FlagshipOf v.merchantId w ∧ w.status ∈ SLOT_STATUSES) < FLAGSHIP_RMV_CAP) :
    Consistent live (vouchers ++ [v]) (nextId + 1) where
  keyed := by
    refine h.keyed.concat fun w hw => ?_
    rw [hid]
    exact (h.fresh w hw).ne
  fresh := by
    refine List.forall_mem_append.mpr ⟨fun w hw => Nat.lt_succ_of_lt (h.fresh w hw), ?_⟩
    rw [List.forall_mem_singleton, hid]
    exact Nat.lt_succ_self _
  unexpired := by
    refine List.forall_mem_append.mpr ⟨h.unexpired, ?_⟩
    rw [List.forall_mem_singleton, hdraft]
    intro _
    decide
  cap merchantId := by
    rw [List.countP_append, List.countP_singleton]
    split_ifs with hq
    · simp only [decide_eq_true_eq] at hq
      have hlt := hroom hq.1.2
      rw [hq.1.1] at hlt
      exact hlt
    · exact h.cap merchantId
  settled := by
    refine List.forall_mem_append.mpr ⟨h.settled, ?_⟩
    rw [List.forall_mem_singleton]
    intro hrmv hlive
    exact absurd hlive (h.not_live (hroom hrmv))
  two merchantId hlive := by
    rw [List.countP_append]
    exact le_trans (h.two merchantId hlive) (Nat.le_add_right _ _)

theorem NoneStranded.concat (h : NoneStranded live vouchers) {v : Voucher Bag} (hdraft : v.status = .DRAFT) :
    NoneStranded live (vouchers ++ [v]) := by
  refine List.forall_mem_append.mpr ⟨h, ?_⟩
  rw [List.forall_mem_singleton]
  intro _ hwaiting
  cases hdraft.symm.trans hwaiting.2

/-- Custom vouchers that change do not come to wait. -/
theorem NoneStranded.updateMany (h : NoneStranded live vouchers) (hf : ∀ v, SameOwner (f v) v)
    (hp : ∀ v ∈ vouchers, p v → v.isRmv = false → ¬ ApprovedWaiting (f v)) :
    NoneStranded live (updateMany p f vouchers) := by
  refine forall_updateMany.mpr fun v hv => ⟨fun hpv hrmv hwaiting => ?_, fun _ => h v hv⟩
  rw [(hf v).isRmv] at hrmv
  exact absurd hwaiting (hp v hv hpv hrmv)

/-! ### Going live -/

/-- The merchant's flagships are submitted and fill its slots, so none of them is a draft. -/
theorem Consistent.no_draft (h : Consistent live vouchers nextId) {merchantId : ℕ}
    (hgate : 2 ≤ vouchers.countP fun v => FlagshipOf merchantId v ∧ Submitted v) :
    ∀ v ∈ vouchers, FlagshipOf merchantId v → v.status ≠ .DRAFT := by
  intro v hv hown hdraft
  have hlt : (vouchers.countP fun v => FlagshipOf merchantId v ∧ Submitted v) <
      vouchers.countP fun v => FlagshipOf merchantId v ∧ v.status ∈ SLOT_STATUSES := by
    refine countP_lt_countP (fun w _ hq => ⟨hq.1, slot_of_submitted hq.2⟩) hv ⟨hown, slot_of_draft hdraft⟩ ?_
    rintro ⟨-, hs | hs⟩
    · cases hdraft.symm.trans hs
    · cases hdraft.symm.trans hs
  exact absurd (h.cap merchantId) (not_le.mpr (lt_of_le_of_lt hgate hlt))

/-- What `approveApproval` does to the vouchers. -/
def activated (merchantId adminId : ℕ) (now : ℤ) (vouchers : List (Voucher Bag)) : List (Voucher Bag) :=
  Rows.updateMany (fun v => CustomOf merchantId v ∧ ApprovedWaiting v) activateWaiting
    (Rows.updateMany (fun v => FlagshipOf merchantId v ∧ Submitted v) (activateFlagship adminId now) vouchers)

/-- A voucher before and after. -/
inductive Activated (merchantId adminId : ℕ) (now : ℤ) (v : Voucher Bag) : Voucher Bag → Prop
  | flagship (hown : FlagshipOf merchantId v) (hsubmitted : Submitted v) :
    Activated merchantId adminId now v (activateFlagship adminId now v)
  | custom (hown : CustomOf merchantId v) (hwaiting : ApprovedWaiting v) :
    Activated merchantId adminId now v (activateWaiting v)
  | same (hflagship : FlagshipOf merchantId v → ¬ Submitted v)
    (hcustom : CustomOf merchantId v → ¬ ApprovedWaiting v) : Activated merchantId adminId now v v

variable {merchantId adminId : ℕ} {now : ℤ}

theorem Activated.sameOwner {v w : Voucher Bag} (h : Activated merchantId adminId now v w) :
    SameOwner w v := by
  cases h with
  | flagship hown hsubmitted => exact ⟨rfl, rfl, rfl⟩
  | custom hown hwaiting => exact ⟨rfl, rfl, rfl⟩
  | same hflagship hcustom => exact ⟨rfl, rfl, rfl⟩

theorem activated_eq_map (merchantId adminId : ℕ) (now : ℤ) (vouchers : List (Voucher Bag)) :
    ∃ g : Voucher Bag → Voucher Bag, activated merchantId adminId now vouchers = vouchers.map g ∧
      ∀ v, Activated merchantId adminId now v (g v) := by
  refine ⟨_, List.map_map, fun v => ?_⟩
  simp only [Function.comp_apply]
  by_cases hflagship : FlagshipOf merchantId v ∧ Submitted v
  · rw [if_pos hflagship, if_neg fun hcustom => by cases hflagship.1.2.symm.trans hcustom.1.2]
    exact .flagship hflagship.1 hflagship.2
  · rw [if_neg hflagship]
    split_ifs with hcustom
    · exact .custom hcustom.1 hcustom.2
    · exact .same (not_and.mp hflagship) (not_and.mp hcustom)

theorem Activated.slot {v w : Voucher Bag} (h : Activated merchantId adminId now v w)
    (hs : w.status ∈ SLOT_STATUSES) : v.status ∈ SLOT_STATUSES := by
  cases h with
  | flagship hown hsubmitted => exact slot_of_submitted hsubmitted
  | custom hown hwaiting => exact slot_of_submitted (.inl hwaiting.2)
  | same hflagship hcustom => exact hs

/-- A submitted flagship of the merchant is ACTIVE afterwards. -/
theorem Activated.active_of_submitted {v w : Voucher Bag} (h : Activated merchantId adminId now v w)
    (hown : FlagshipOf merchantId v) (hs : Submitted v) : w.status = .ACTIVE := by
  cases h with
  | flagship _ _ => rfl
  | custom hcustom _ => cases hown.2.symm.trans hcustom.2
  | same hflagship _ => exact absurd hs (hflagship hown)

/-- Any other voucher that changes is too. -/
theorem Activated.status {v w : Voucher Bag} (h : Activated merchantId adminId now v w) :
    w.status = .ACTIVE ∨ w.status = v.status := by
  cases h with
  | flagship _ _ => exact .inl rfl
  | custom _ _ => exact .inl rfl
  | same _ _ => exact .inr rfl

theorem Activated.waiting {v w : Voucher Bag} (h : Activated merchantId adminId now v w)
    (hwaiting : ApprovedWaiting w) : ApprovedWaiting v ∧ ¬ CustomOf merchantId v := by
  cases h with
  | flagship _ _ => cases hwaiting.2
  | custom _ _ => cases hwaiting.2
  | same _ hcustom => exact ⟨hwaiting, fun hown => hcustom hown hwaiting⟩

/-- The merchant becomes live, and so do its two flagships. -/
theorem Consistent.activated (h : Consistent live vouchers nextId)
    (hgate : 2 ≤ vouchers.countP fun v => FlagshipOf merchantId v ∧ Submitted v)
    (hlive : ∀ k, live' k ↔ live k ∨ k = merchantId) :
    Consistent live' (activated merchantId adminId now vouchers) nextId := by
  obtain ⟨g, hmap, hg⟩ := activated_eq_map merchantId adminId now vouchers
  have hid : vouchers.map (fun v => (g v).id) = vouchers.map fun v => v.id :=
    List.map_congr_left fun v _ => (hg v).sameOwner.id
  rw [hmap]
  constructor
  case keyed =>
    rw [Keyed, List.map_map]
    exact hid ▸ h.keyed
  case fresh =>
    refine List.forall_mem_map.mpr fun v hv => ?_
    rw [(hg v).sameOwner.id]
    exact h.fresh v hv
  case unexpired =>
    refine List.forall_mem_map.mpr fun v hv hrmv => ?_
    rw [(hg v).sameOwner.isRmv] at hrmv
    rcases (hg v).status with hs | hs
    · rw [hs]
      decide
    · rw [hs]
      exact h.unexpired v hv hrmv
  case cap =>
    intro k
    rw [List.countP_map]
    refine le_trans (List.countP_mono_left fun v _ hq => ?_) (h.cap k)
    simp only [Function.comp_apply, decide_eq_true_eq] at hq ⊢
    exact ⟨(hg v).sameOwner.flagshipOf.mp hq.1, (hg v).slot hq.2⟩
  case settled =>
    refine List.forall_mem_map.mpr fun v hv hrmv hl => ?_
    rw [(hg v).sameOwner.isRmv] at hrmv
    rw [(hg v).sameOwner.merchantId, hlive] at hl
    have hv' : Submitted v ∧ FlagshipOf merchantId v ∨ v.status = .ACTIVE ∨ v.status = .INACTIVE := by
      rcases hl with hl | hl
      · exact .inr (h.settled v hv hrmv hl)
      · have hdraft := h.no_draft hgate v hv ⟨hl, hrmv⟩
        have hexpired := h.unexpired v hv hrmv
        cases hs : v.status with
        | DRAFT => exact absurd hs hdraft
        | PENDING_APPROVAL => exact .inl ⟨.inl hs, hl, hrmv⟩
        | ACTIVE => exact .inr (.inl rfl)
        | INACTIVE => exact .inr (.inr rfl)
        | EXPIRED => exact absurd hs hexpired
    rcases hv' with ⟨hs, hown⟩ | hv'
    · exact .inl ((hg v).active_of_submitted hown hs)
    · rcases (hg v).status with hs | hs
      · exact .inl hs
      · rw [hs]
        exact hv'
  case two =>
    intro k hk
    rw [List.countP_map]
    rcases (hlive k).mp hk with hk | rfl
    · refine le_trans (h.two k hk) (List.countP_mono_left fun v _ hq => ?_)
      simp only [Function.comp_apply, decide_eq_true_eq] at hq ⊢
      refine ⟨(hg v).sameOwner.flagshipOf.mpr hq.1, ?_⟩
      rcases (hg v).status with hs | hs
      · exact hs
      · exact hs.trans hq.2
    · refine le_trans hgate (List.countP_mono_left fun v _ hq => ?_)
      simp only [Function.comp_apply, decide_eq_true_eq] at hq ⊢
      exact ⟨(hg v).sameOwner.flagshipOf.mpr hq.1, (hg v).active_of_submitted hq.1 hq.2⟩

/-- And the vouchers that waited for it. -/
theorem NoneStranded.activated (h : NoneStranded live vouchers)
    (hlive : ∀ k, live' k ↔ live k ∨ k = merchantId) :
    NoneStranded live' (activated merchantId adminId now vouchers) := by
  obtain ⟨g, hmap, hg⟩ := activated_eq_map merchantId adminId now vouchers
  rw [hmap]
  refine List.forall_mem_map.mpr fun v hv hrmv hwaiting hl => ?_
  obtain ⟨hbefore, hcustom⟩ := (hg v).waiting hwaiting
  rw [(hg v).sameOwner.isRmv] at hrmv
  rw [(hg v).sameOwner.merchantId, hlive] at hl
  rcases hl with hl | hl
  · exact h v hv hrmv hbefore hl
  · exact hcustom ⟨hl, hrmv⟩

end

/-! ### What each operation does -/

section
variable {fields : RmvFields Bag} {db db' : Db Bag} {adminId merchantId voucherId : ℕ} {now : ℤ}

theorem isLive_updateMerchants {p : OnboardingMerchant → Prop} [DecidablePred p]
    {f : OnboardingMerchant → OnboardingMerchant} (hf : ∀ m, (f m).id = m.id) {k : ℕ} :
    (db.updateMerchants p f).IsLive k ↔
      ∃ m, db.findMerchant k = some m ∧ (if p m then f m else m).status = .ACTIVE := by
  rw [Db.IsLive, Db.findMerchant, Db.updateMerchants, find_updateMany hf]
  simp only [Option.map_map, Option.map_eq_some_iff, Function.comp_apply]
  rfl

theorem isLive_iff {k : ℕ} : db.IsLive k ↔ ∃ m, db.findMerchant k = some m ∧ m.status = .ACTIVE :=
  Option.map_eq_some_iff

/-- A merchant is live, or not, whatever else is written about it. -/
theorem isLive_updateMerchants_same {p : OnboardingMerchant → Prop} [DecidablePred p]
    {f : OnboardingMerchant → OnboardingMerchant} (hid : ∀ m, (f m).id = m.id)
    (hstatus : ∀ m, (f m).status = m.status) : (db.updateMerchants p f).IsLive = db.IsLive := by
  funext k
  rw [isLive_updateMerchants hid, isLive_iff]
  refine propext (exists_congr fun m => and_congr_right fun _ => ?_)
  split_ifs
  · rw [hstatus]
  · rfl

theorem isLive_goLive {merchant : OnboardingMerchant} (hfound : db.findMerchant merchant.id = some merchant)
    (hstatus : merchant.status ≠ .ACTIVE) {k : ℕ} :
    (db.updateMerchants (fun m => m.id = merchant.id ∧ m.status ≠ .ACTIVE) OnboardingMerchant.goLive).IsLive k ↔
      db.IsLive k ∨ k = merchant.id := by
  rw [isLive_updateMerchants (f := OnboardingMerchant.goLive) fun _ => rfl, isLive_iff]
  constructor
  · rintro ⟨m, hm, hs⟩
    split_ifs at hs with hp
    · exact .inr ((find_some hm).2.symm.trans hp.1)
    · exact .inl ⟨m, hm, hs⟩
  · rintro (⟨m, hm, hs⟩ | rfl)
    · exact ⟨m, hm, by rw [if_neg fun hp => hp.2 hs, hs]⟩
    · exact ⟨merchant, hfound, by rw [if_pos ⟨rfl, hstatus⟩, OnboardingMerchant.goLive]⟩

theorem createFlagshipRmvVoucher_ok {voucherType : VoucherType}
    (h : createFlagshipRmvVoucher fields db adminId voucherType = .ok db') :
    ∃ merchantId template, db.flagshipCount merchantId < FLAGSHIP_RMV_CAP ∧ template ∈ db.rmvTemplates ∧
      db' = db.insertVoucher (draftOf fields merchantId template) := by
  simp only [createFlagshipRmvVoucher, bind_ok_iff, rejectIf_eq_ok, orReject_eq_ok, pure_eq_ok, not_le] at h
  obtain ⟨mctx, -, -, -, -, -, -, hroom, primaryCategoryId, -, template, hfound, rfl⟩ := h
  exact ⟨mctx.merchantId, template, hroom, (find_some hfound).1, rfl⟩

/-- The drafts of a merchant that has only drafts are put aside, and at most two are created. -/
theorem handleCategoryChange_ok {newCategoryId : ℕ} {confirm changed : Bool}
    (h : handleCategoryChange fields db merchantId newCategoryId confirm = .ok (db', changed)) :
    db' = db ∨ ∃ templates : List RmvTemplate, templates.length ≤ FLAGSHIP_RMV_CAP ∧
      (∀ t ∈ templates, t ∈ db.rmvTemplates) ∧ (∀ v ∈ db.vouchers, FlagshipOf merchantId v → ¬ Submitted v) ∧
      db' = templates.foldl (fun db t => db.insertVoucher (draftOf fields merchantId t))
        ((db.updateVouchers (fun v => FlagshipOf merchantId v ∧ v.status = .DRAFT) putAside).updateMerchants
          (fun m => m.id = merchantId) (withCategory newCategoryId)) := by
  simp only [handleCategoryChange, bind_ok_iff, rejectIf_eq_ok, orReject_eq_ok, pure_eq_ok, ite_eq_iff,
    Prod.mk.injEq] at h
  obtain ⟨-, hsubmitted, ⟨-, rfl, -⟩ | ⟨-, -, -, -, -, -, -, rfl, -⟩⟩ := h
  · exact .inl rfl
  · refine .inr ⟨_, List.length_take_le .., fun t ht => ?_, fun v hv hown hs => hsubmitted ⟨v, hv, hown, hs⟩, rfl⟩
    exact (List.mem_filter.mp (List.mem_of_mem_take ht)).1

theorem checkUpdateRmv_draft {templates : List RmvTemplate} {voucher : Voucher Bag} {proposedFields : Bag}
    {update : Bag × Option (VoucherType × ℕ)}
    (h : checkUpdateRmv fields templates voucher proposedFields = .ok update) : voucher.status = .DRAFT := by
  simp only [checkUpdateRmv, bind_ok_iff, rejectIf_eq_ok, ne_eq, not_not] at h
  exact h.choose_spec.1

theorem checkSubmitRmv_draft {templates : List RmvTemplate} {voucher : Voucher Bag} {submission : Submission}
    (h : checkSubmitRmv fields templates voucher = .ok submission) : voucher.status = .DRAFT := by
  simp only [checkSubmitRmv, bind_ok_iff, rejectIf_eq_ok, ne_eq, not_not] at h
  exact h.choose_spec.1

theorem updateRmvVoucherCore_ok {proposedFields : Bag}
    (h : updateRmvVoucherCore fields db merchantId voucherId proposedFields = .ok db') :
    ∃ voucher update, db.findVoucher voucherId merchantId true = some voucher ∧
      checkUpdateRmv fields db.rmvTemplates voucher proposedFields = .ok update ∧
      db' = db.updateVouchers (fun v => v.id = voucherId) (applyUpdateRmv update) := by
  simp only [updateRmvVoucherCore, bind_ok_iff, orReject_eq_ok, pure_eq_ok] at h
  obtain ⟨voucher, hfound, update, hcheck, rfl⟩ := h
  exact ⟨voucher, update, hfound, hcheck, rfl⟩

theorem submitRmvVoucherCore_ok (h : submitRmvVoucherCore fields db merchantId voucherId now = .ok db') :
    ∃ voucher submission, db.findVoucher voucherId merchantId true = some voucher ∧
      checkSubmitRmv fields db.rmvTemplates voucher = .ok submission ∧
      db' = db.updateVouchers (fun v => v.id = voucherId) (Submission.apply submission now) := by
  simp only [submitRmvVoucherCore, bind_ok_iff, orReject_eq_ok, pure_eq_ok] at h
  obtain ⟨voucher, hfound, submission, hcheck, rfl⟩ := h
  exact ⟨voucher, submission, hfound, hcheck, rfl⟩

theorem createVoucher_ok {data : VoucherInput Bag} (h : createVoucher fields db adminId data = .ok db') :
    ∃ row : ℕ → Voucher Bag, (∀ id, (row id).id = id ∧ (row id).isRmv = false ∧ (row id).isMandatory = false ∧
      (row id).status = .DRAFT ∧ (row id).merchantFields = some (fields.stampStrictSubmitContract
        (fields.stripCallerOwnedKeys (data.merchantFields.getD fields.empty)))) ∧ db' = db.insertVoucher row := by
  simp only [createVoucher, bind_ok_iff, pure_eq_ok] at h
  obtain ⟨mctx, -, -, -, -, -, -, -, -, -, -, -, rfl⟩ := h
  exact ⟨_, fun _ => ⟨rfl, rfl, rfl, rfl, rfl⟩, rfl⟩

theorem submitVoucher_ok (h : submitVoucher fields db adminId voucherId now = .ok db') :
    ∃ merchantId voucher bag, db.findVoucher voucherId merchantId false = some voucher ∧
      VoucherReview.checkSubmit fields.toMerchantFields voucher = .ok bag ∧
        db' = (db.updateVouchers (fun v => v.id = voucherId)
        fun v => v.submit bag now).submitApproval voucherId := by
  simp only [submitVoucher, bind_ok_iff, orReject_eq_ok, pure_eq_ok] at h
  obtain ⟨mctx, -, -, -, voucher, hfound, bag, hcheck, rfl⟩ := h
  exact ⟨mctx.merchantId, voucher, bag, hfound, hcheck, rfl⟩

def goesLive (db : Db Bag) (voucher : Voucher Bag) : Bool :=
  db.IsLive voucher.merchantId ∧ db.isFlagshipLive voucher.merchantId = true

theorem approveVoucher_ok_iff {approvalId : ℕ} {goLive : Bool} :
    approveVoucher db approvalId adminId now = .ok (db', goLive) ↔
      ∃ approval voucher, checkApproval (db.findApproval approvalId) = .ok approval ∧
        db.findReviewed approval = some voucher ∧ voucher.status = .PENDING_APPROVAL ∧
        goLive = goesLive db voucher ∧
        db' = (db.updateVouchers (fun v => v.id = voucher.id)
          fun v => v.approve adminId now goLive).updateApproval approvalId
            (AdminApproval.decide .APPROVED none adminId now) := by
  simp only [approveVoucher, bind_ok_iff, orReject_eq_ok, Voucher.check, rejectIf_eq_ok, pure_eq_ok,
    Prod.mk.injEq, ne_eq, not_not]
  constructor
  · rintro ⟨approval, ha, voucher, hv, -, hs, rfl, rfl⟩
    exact ⟨approval, voucher, ha, hv, hs, rfl, rfl⟩
  · rintro ⟨approval, voucher, ha, hv, hs, rfl, rfl⟩
    exact ⟨approval, ha, voucher, hv, (), hs, rfl, rfl⟩

theorem approveApproval_ok {approvalId : ℕ} {alreadyLive : Bool}
    (h : approveApproval db approvalId adminId now = .ok (db', alreadyLive)) :
    db' = db ∨ ∃ merchant : OnboardingMerchant, db.findMerchant merchant.id = some merchant ∧
      merchant.status ≠ .ACTIVE ∧ 2 ≤ db.rmvCount merchant.id ∧
      db' = (((db.updateMerchants (fun m => m.id = merchant.id ∧ m.status ≠ .ACTIVE)
        OnboardingMerchant.goLive).updateVouchers (fun v => FlagshipOf merchant.id v ∧ Submitted v)
        (activateFlagship adminId now)).updateVouchers (fun v => CustomOf merchant.id v ∧ ApprovedWaiting v)
        activateWaiting).updateApproval approvalId (AdminApproval.decide .APPROVED none adminId now) := by
  simp only [approveApproval, bind_ok_iff, orReject_eq_ok, ite_eq_iff, pure_eq_ok, Prod.mk.injEq,
    checkGates, rejectIf_eq_ok, not_not] at h
  obtain ⟨approval, -, merchant, hm, ⟨-, rfl, -⟩ | ⟨hs, -, -, -, hgates, -, -, rfl, -⟩⟩ := h
  · exact .inl rfl
  · have hid : merchant.id = approval.referenceId := (find_some hm).2
    refine .inr ⟨merchant, hid ▸ hm, hs, ?_, rfl⟩
    simpa [checklistOf] using hgates.2.2

end

/-! ### What each operation keeps -/

/-- The flagships stay as they should be, and nobody comes to wait in vain. -/
def Keeps (db db' : Db Bag) : Prop :=
  Consistent db.IsLive db.vouchers db.nextId →
    Consistent db'.IsLive db'.vouchers db'.nextId ∧
      (NoneStranded db.IsLive db.vouchers → NoneStranded db'.IsLive db'.vouchers)

section
variable {fields : RmvFields Bag} {db db' : Db Bag} {adminId merchantId voucherId : ℕ} {now : ℤ}

theorem Keeps.refl : Keeps db db := fun h => ⟨h, id⟩

theorem Keeps.trans {db'' : Db Bag} (h : Keeps db db') (h' : Keeps db' db'') : Keeps db db'' := by
  intro hc
  obtain ⟨hc', hn⟩ := h hc
  exact ⟨(h' hc').1, (h' hc').2 ∘ hn⟩

theorem Consistent.findVoucher_eq (h : Consistent db.IsLive db.vouchers db.nextId) {isRmv : Bool}
    {voucher v : Voucher Bag} (hfound : db.findVoucher voucherId merchantId isRmv = some voucher)
    (hv : v ∈ db.vouchers) (hid : v.id = voucherId) : v = voucher ∧ v.isRmv = isRmv := by
  obtain ⟨hmem, hk, -, hrmv⟩ := find_some hfound
  have he : v = voucher := h.keyed.eq hv hmem (hid.trans hk.symm)
  exact ⟨he, he ▸ hrmv⟩

theorem insertVoucher_keeps {row : ℕ → Voucher Bag} (hid : (row db.nextId).id = db.nextId)
    (hdraft : (row db.nextId).status = .DRAFT) (hroom : (row db.nextId).isRmv = true →
      db.flagshipCount (row db.nextId).merchantId < FLAGSHIP_RMV_CAP) : Keeps db (db.insertVoucher row) :=
  fun h => ⟨h.concat hid hdraft hroom, fun hn => hn.concat hdraft⟩

/-- Drafts of the templates, while they fit into the free slots. -/
theorem insertDrafts_keeps (templates : List RmvTemplate) {db : Db Bag}
    (hroom : db.flagshipCount merchantId + templates.length ≤ FLAGSHIP_RMV_CAP) :
    Keeps db (templates.foldl (fun db t => db.insertVoucher (draftOf fields merchantId t)) db) := by
  induction templates generalizing db with
  | nil => exact Keeps.refl
  | cons t templates ih =>
    rw [List.length_cons] at hroom
    have hlt : db.flagshipCount merchantId < FLAGSHIP_RMV_CAP := by omega
    have hone : (db.insertVoucher (draftOf fields merchantId t)).flagshipCount merchantId =
        db.flagshipCount merchantId + 1 := by
      rw [Db.flagshipCount, Db.insertVoucher, List.countP_append, List.countP_singleton, if_pos]
      · rfl
      · exact decide_eq_true ⟨⟨rfl, rfl⟩, slot_of_draft rfl⟩
    refine Keeps.trans (insertVoucher_keeps rfl rfl fun _ => hlt) (ih ?_)
    omega

theorem createFlagshipRmvVoucher_keeps {voucherType : VoucherType}
    (h : createFlagshipRmvVoucher fields db adminId voucherType = .ok db') : Keeps db db' := by
  obtain ⟨merchantId, template, hroom, -, rfl⟩ := createFlagshipRmvVoucher_ok h
  exact insertVoucher_keeps rfl rfl fun _ => hroom

theorem createVoucher_keeps {data : VoucherInput Bag} (h : createVoucher fields db adminId data = .ok db') :
    Keeps db db' := by
  obtain ⟨row, hrow, rfl⟩ := createVoucher_ok h
  obtain ⟨hid, hrmv, -, hdraft, -⟩ := hrow db.nextId
  refine insertVoucher_keeps hid hdraft fun htrue => ?_
  cases hrmv.symm.trans htrue

/-- An update of a draft flagship. -/
theorem updateDraft_keeps {voucher : Voucher Bag} {f : Voucher Bag → Voucher Bag}
    (hfound : db.findVoucher voucherId merchantId true = some voucher) (hdraft : voucher.status = .DRAFT)
    (hown : ∀ v, SameOwner (f v) v) (hf : (f voucher).status ≠ .EXPIRED) :
    Keeps db (db.updateVouchers (fun v => v.id = voucherId) f) := by
  intro hc
  refine ⟨hc.updateMany hown fun v hv hid _ => ?_, fun hn => hn.updateMany hown fun v hv hid hrmv => ?_⟩
  · rw [(hc.findVoucher_eq hfound hv hid).1]
    exact .inl ⟨hdraft, hf⟩
  · cases hrmv.symm.trans (hc.findVoucher_eq hfound hv hid).2

theorem updateRmvVoucherCore_keeps {proposedFields : Bag}
    (h : updateRmvVoucherCore fields db merchantId voucherId proposedFields = .ok db') : Keeps db db' := by
  obtain ⟨voucher, update, hfound, hcheck, rfl⟩ := updateRmvVoucherCore_ok h
  have hdraft := checkUpdateRmv_draft hcheck
  refine updateDraft_keeps hfound hdraft (fun _ => ⟨rfl, rfl, rfl⟩) ?_
  rw [applyUpdateRmv, relinked, hdraft]
  decide

theorem submitRmvVoucherCore_keeps
    (h : submitRmvVoucherCore fields db merchantId voucherId now = .ok db') : Keeps db db' := by
  obtain ⟨voucher, submission, hfound, hcheck, rfl⟩ := submitRmvVoucherCore_ok h
  refine updateDraft_keeps hfound (checkSubmitRmv_draft hcheck) (fun _ => ⟨rfl, rfl, rfl⟩) ?_
  exact ne_of_eq_of_ne (b := .PENDING_APPROVAL) rfl (by decide)

theorem submitApproval_keeps : Keeps db (db.submitApproval voucherId) := by
  intro hc
  rw [Db.submitApproval]
  split
  · exact ⟨hc, id⟩
  · exact ⟨{ hc with fresh := fun v hv => Nat.lt_succ_of_lt (hc.fresh v hv) }, id⟩

theorem submitVoucher_keeps (h : submitVoucher fields db adminId voucherId now = .ok db') : Keeps db db' := by
  obtain ⟨merchantId, voucher, bag, hfound, -, rfl⟩ := submitVoucher_ok h
  refine Keeps.trans (fun hc => ?_) submitApproval_keeps
  have hown : ∀ v : Voucher Bag, SameOwner (v.submit bag now) v := fun v => ⟨rfl, rfl, rfl⟩
  refine ⟨hc.updateMany hown fun v hv hid hrmv => ?_, fun hn => hn.updateMany hown fun v hv hid _ hwaiting => ?_⟩
  · cases hrmv.symm.trans (hc.findVoucher_eq hfound hv hid).2
  · cases hwaiting.1

/-- The merchant has no submitted flagship, so it is not live; its drafts leave their slots. -/
theorem handleCategoryChange_keeps {newCategoryId : ℕ} {confirm changed : Bool}
    (h : handleCategoryChange fields db merchantId newCategoryId confirm = .ok (db', changed)) :
    Keeps db db' := by
  rcases handleCategoryChange_ok h with rfl | ⟨templates, hlen, -, hfree, rfl⟩
  · exact Keeps.refl
  refine Keeps.trans (fun hc => ?_) (insertDrafts_keeps templates ?_)
  · have hown : ∀ v : Voucher Bag, SameOwner (putAside v) v := fun v => ⟨rfl, rfl, rfl⟩
    rw [isLive_updateMerchants_same (f := withCategory newCategoryId) (fun _ => rfl) fun _ => rfl]
    refine ⟨hc.updateMany hown fun v _ hp _ => .inl ⟨hp.2, ne_of_eq_of_ne (b := .INACTIVE) rfl (by decide)⟩,
      fun hn => hn.updateMany hown ?_⟩
    intro v _ _ _ hwaiting
    cases hwaiting.2
  · have hnone : (db.updateVouchers (fun v => FlagshipOf merchantId v ∧ v.status = .DRAFT)
        putAside).flagshipCount merchantId = 0 := by
      refine List.countP_eq_zero.mpr (forall_updateMany.mpr fun v hv => ⟨fun _ => ?_, fun hp => ?_⟩)
      · simp [SLOT_STATUSES, putAside]
      · simp only [decide_eq_true_eq]
        rintro ⟨hown, hslot⟩
        refine hfree v hv hown ?_
        simpa [SLOT_STATUSES, mt (And.intro hown) hp, Submitted] using hslot
    rw [← Nat.zero_add templates.length, ← hnone] at hlen
    exact hlen

theorem approveApproval_keeps {approvalId : ℕ} {alreadyLive : Bool}
    (h : approveApproval db approvalId adminId now = .ok (db', alreadyLive)) : Keeps db db' := by
  rcases approveApproval_ok h with rfl | ⟨merchant, hfound, hstatus, hgate, rfl⟩
  · exact Keeps.refl
  intro hc
  have hlive := fun k => isLive_goLive (k := k) hfound hstatus
  exact ⟨hc.activated hgate hlive, fun hn => hn.activated hlive⟩

/-! ### The approval of a custom voucher -/

/-- While a merchant is live, its flagships keep a voucher waiting exactly if one of them was put aside. -/
theorem Consistent.isFlagshipLive_iff (hc : Consistent db.IsLive db.vouchers db.nextId)
    (hlive : db.IsLive merchantId) : db.isFlagshipLive merchantId = true ↔
      ¬ ∃ v ∈ db.vouchers, FlagshipOf merchantId v ∧ v.status = .INACTIVE := by
  rw [Db.isFlagshipLive, decide_eq_true_iff, List.countP_eq_zero, not_exists]
  refine forall_congr' fun v => ?_
  rw [not_and]
  refine imp_congr_right fun hv => ?_
  simp only [decide_eq_true_eq, not_and, ne_eq, not_not]
  refine imp_congr_right fun hown => ?_
  rcases hc.settled v hv hown.2 (hown.1.symm ▸ hlive) with hs | hs
  · rw [hs]
    exact iff_of_true rfl nofun
  · rw [hs]
    exact iff_of_false nofun fun h => h rfl

/-- An approval adds its voucher to those that wait, or makes it ACTIVE. -/
theorem noneStranded_approve_iff {live : ℕ → Prop} {vouchers : List (Voucher Bag)} {voucher : Voucher Bag}
    {goLive : Bool} (hn : NoneStranded live vouchers) (hkeyed : Rows.Keyed (fun v => v.id) vouchers)
    (hmem : voucher ∈ vouchers) (hrmv : voucher.isRmv = false) (hpending : voucher.status = .PENDING_APPROVAL) :
    NoneStranded live (updateMany (fun v => v.id = voucher.id) (fun v => v.approve adminId now goLive) vouchers) ↔
      (live voucher.merchantId → goLive = true) := by
  have hwaits : ApprovedWaiting (voucher.approve adminId now goLive) ↔ goLive = false := by
    rw [ApprovedWaiting, Voucher.approve, hpending]
    cases goLive with
    | true => exact iff_of_false (fun h => nomatch h.2) nofun
    | false => exact iff_of_true ⟨rfl, rfl⟩ rfl
  rw [NoneStranded, forall_updateMany]
  constructor
  · intro h hlive
    refine Bool.of_not_eq_false fun hfalse => ?_
    exact (h voucher hmem).1 rfl hrmv (hwaits.mpr hfalse) hlive
  · refine fun h v hv => ⟨fun hid _ hwaiting hlive => ?_, fun _ => hn v hv⟩
    rw [hkeyed.eq hv hmem hid] at hwaiting hlive
    cases (h hlive).symm.trans (hwaits.mp hwaiting)

/-- The flagships are as before, and no voucher comes to wait unless the approval leaves it waiting. -/
theorem approveVoucher_keeps {approvalId : ℕ} {goLive : Bool}
    (hc : Consistent db.IsLive db.vouchers db.nextId)
    (h : approveVoucher db approvalId adminId now = .ok (db', goLive)) :
    Consistent db'.IsLive db'.vouchers db'.nextId ∧ (NoneStranded db.IsLive db.vouchers →
      (NoneStranded db'.IsLive db'.vouchers ↔ ¬ ∃ approval voucher, Left db approvalId approval voucher)) := by
  obtain ⟨approval, voucher, happroval, hfound, hpending, rfl, rfl⟩ := approveVoucher_ok_iff.mp h
  obtain ⟨hmem, -, hrmv⟩ := find_some hfound
  refine ⟨hc.updateMany (fun _ => ⟨rfl, rfl, rfl⟩) fun v hv hid hrmv' => ?_, fun hn => ?_⟩
  · rw [hc.keyed.eq hv hmem hid] at hrmv'
    cases hrmv'.symm.trans hrmv
  · refine (noneStranded_approve_iff hn hc.keyed hmem hrmv hpending).trans ?_
    constructor
    · rintro hlives ⟨approval', voucher', hleft⟩
      cases Except.ok.inj (happroval.symm.trans hleft.actionable)
      cases hfound.symm.trans hleft.found
      have hgoes := hlives hleft.live
      rw [goesLive, decide_eq_true_iff] at hgoes
      exact (hc.isFlagshipLive_iff hleft.live).mp hgoes.2 hleft.aside
    · intro hnone hlive
      rw [goesLive, decide_eq_true_iff]
      refine ⟨hlive, (hc.isFlagshipLive_iff hlive).mpr fun haside => ?_⟩
      exact hnone ⟨approval, voucher, happroval, hfound, hpending, hlive, haside⟩

/-! ### Over a whole run -/

/-- No voucher yet, and no merchant that is live. -/
structure Opening (db : Db Bag) : Prop where
  vouchers : db.vouchers = []
  merchants : ∀ m ∈ db.merchants, m.status ≠ .ACTIVE

theorem Opening.not_live (h : Opening db) (k : ℕ) : ¬ db.IsLive k := by
  rw [isLive_iff]
  rintro ⟨m, hm, hs⟩
  exact h.merchants m (find_some hm).1 hs

theorem Opening.consistent (h : Opening db) : Consistent db.IsLive db.vouchers db.nextId := by
  have hnone {P : Voucher Bag → Prop} : ∀ v ∈ db.vouchers, P v := by
    rw [h.vouchers]
    exact List.forall_mem_nil P
  refine ⟨?_, hnone, hnone, fun k => ?_, hnone, fun k hk => absurd hk (h.not_live k)⟩
  · rw [h.vouchers]
    exact List.nodup_nil
  · rw [h.vouchers]
    exact Nat.zero_le _

theorem Opening.noneStranded (h : Opening db) : NoneStranded db.IsLive db.vouchers := by
  rw [h.vouchers]
  exact List.forall_mem_nil _

theorem keeps_of_exec {a : Action Bag} (h : exec fields db a = some db')
    (ha : ∀ approvalId adminId now, a ≠ .approveVoucher approvalId adminId now) : Keeps db db' := by
  cases a with
  | createFlagshipRmvVoucher adminId voucherType =>
    rw [exec, toOption_eq_some] at h
    exact createFlagshipRmvVoucher_keeps h
  | handleCategoryChange merchantId newCategoryId confirm =>
    rw [exec, Option.map_eq_some_iff] at h
    obtain ⟨⟨_, changed⟩, hr, rfl⟩ := h
    exact handleCategoryChange_keeps (toOption_eq_some.mp hr)
  | updateRmvVoucherCore merchantId voucherId proposedFields =>
    rw [exec, toOption_eq_some] at h
    exact updateRmvVoucherCore_keeps h
  | submitRmvVoucherCore merchantId voucherId now =>
    rw [exec, toOption_eq_some] at h
    exact submitRmvVoucherCore_keeps h
  | createVoucher adminId data =>
    rw [exec, toOption_eq_some] at h
    exact createVoucher_keeps h
  | submitVoucher adminId voucherId now =>
    rw [exec, toOption_eq_some] at h
    exact submitVoucher_keeps h
  | approveVoucher approvalId adminId now => exact absurd rfl (ha approvalId adminId now)
  | approveApproval approvalId adminId now =>
    rw [exec, Option.map_eq_some_iff] at h
    obtain ⟨⟨_, alreadyLive⟩, hr, rfl⟩ := h
    exact approveApproval_keeps (toOption_eq_some.mp hr)

/-- An approval that leaves its voucher waiting is not refused. -/
theorem Left.approveVoucher_ok {approvalId : ℕ} {approval : AdminApproval} {voucher : Voucher Bag}
    (h : Left db approvalId approval voucher) (adminId : ℕ) (now : ℤ) :
    ∃ r, approveVoucher db approvalId adminId now = .ok r :=
  ⟨⟨_, _⟩, approveVoucher_ok_iff.mpr ⟨approval, voucher, h.actionable, h.found, h.pending, rfl, rfl⟩⟩

theorem step_ok {a : Action Bag} (hc : Consistent db.IsLive db.vouchers db.nextId)
    (h : step fields db a = some db') : Consistent db'.IsLive db'.vouchers db'.nextId ∧
      (NoneStranded db.IsLive db.vouchers → (NoneStranded db'.IsLive db'.vouchers ↔ ¬ Strands db a)) := by
  cases Option.some.inj h
  by_cases ha : ∃ approvalId adminId now, a = .approveVoucher approvalId adminId now
  · obtain ⟨approvalId, adminId, now, rfl⟩ := ha
    rw [exec]
    cases hr : approveVoucher db approvalId adminId now with
    | ok r => exact approveVoucher_keeps hc hr
    | error e =>
      refine ⟨hc, fun hn => iff_of_true hn ?_⟩
      rintro ⟨approval, voucher, hleft⟩
      obtain ⟨r, hok⟩ := hleft.approveVoucher_ok adminId now
      cases hr.symm.trans hok
  · have hnot : ∀ approvalId adminId now, a ≠ .approveVoucher approvalId adminId now :=
      fun approvalId adminId now he => ha ⟨approvalId, adminId, now, he⟩
    have hstrands : ¬ Strands db a := by
      cases a with
      | approveVoucher approvalId adminId now => exact absurd rfl (hnot approvalId adminId now)
      | _ => exact id
    cases hr : exec fields db a with
    | none => exact ⟨hc, fun hn => iff_of_true hn hstrands⟩
    | some db' =>
      obtain ⟨hc', hkeep⟩ := keeps_of_exec hr hnot hc
      exact ⟨hc', fun hn => iff_of_true (hkeep hn) hstrands⟩

/-- CORRECT: over any sequence of operations no approved voucher waits under a live merchant, exactly if no
    approval is of a voucher whose merchant is live beside a flagship that was put aside. -/
theorem noneStranded_throughout_iff {actions : List (Action Bag)} (h : Opening db) :
    Throughout (step fields) (fun db => NoneStranded db.IsLive db.vouchers) db actions ↔
      Along (step fields) (fun db a => ¬ Strands db a) db actions :=
  throughout_iff_along (K := fun db => Consistent db.IsLive db.vouchers db.nextId) (fun _ _ => ⟨_, rfl⟩)
    (fun _ _ _ hc hs => (step_ok hc hs).1) (fun _ _ _ hc hn hs => (step_ok hc hs).2 hn) h.consistent
    h.noneStranded

end

/-! ### A voucher left behind -/

section
open Records SubmitValidation

def loaves : Record :=
  [("builderType", .string "bogo"), ("bogoBuy", .string "A loaf"), ("bogoFree", .string "A loaf"),
    ("bogoFreePrice", .number 3)]

def loavesVoucher : VoucherInput Record where
  type := .BOGO
  title := "Buy one loaf, get one free"
  estimatedSaving := 3
  description := none
  terms := none
  imageUrl := none
  expiryDate := none
  availabilityWindows := none
  cooldownSeconds := none
  merchantFields := some [("builderType", .string "bogo"), ("draftFields", .object loaves)]

/-- `JSON.stringify` of the bag of `loavesVoucher`, the only one whose size is checked. -/
def loavesJson : String :=
  "\x7b\"builderType\":\"bogo\",\"draftFields\":\x7b\"builderType\":\"bogo\",\"bogoBuy\":\"A loaf\"," ++
    "\"bogoFree\":\"A loaf\",\"bogoFreePrice\":3\x7d,\"__submitContract\":\"strict-v1\"\x7d"

def bakeryFields : RmvFields Record := bagFields fun _ => loavesJson

def bogoTemplate (id categoryId : ℕ) (title : String) : RmvTemplate where
  id := id
  categoryId := categoryId
  voucherType := .BOGO
  title := title
  description := "Buy one, get one free"
  allowedFields := ["title", "estimatedSaving", "merchantFields"]
  minimumSaving := 3
  isActive := true

/-- A bakery has signed its contract, confirmed its branch and applied. -/
def opening : Db Record where
  memberships := [⟨0, 0, .OWNER, true, true, .ACTIVE, []⟩]
  merchants := [{
    id := 0
    status := .PENDING_APPROVAL
    onboardingStep := .SUBMITTED
    verificationStatus := .PENDING
    contractStatus := .SIGNED
    isTestData := false
    primaryCategoryId := some 0 }]
  branches := [{
    id := 0
    merchantId := 0
    isMainBranch := true
    isActive := true
    deletedAt := none
    lifecycleStatus := .LIVE
    closeReason := none
    locationConfidence := .MERCHANT_CONFIRMED
    columns := fun _ => .null }]
  categories := [⟨0, none⟩, ⟨1, none⟩]
  rmvTemplates := [bogoTemplate 0 0 "Free coffee", bogoTemplate 1 1 "Free loaf", bogoTemplate 2 1 "Free roll"]
  vouchers := []
  approvals := [⟨0, .MERCHANT_ONBOARDING, 0, "merchant", .PENDING, none, none, none, none, none⟩]
  nextId := 1

theorem opening_opening : Opening opening where
  vouchers := rfl
  merchants := by decide

/-- The bakery creates a flagship, changes its category, fills in the two flagships that it is given and
    goes live with them. -/
def onboarded : List (Action Record) :=
  [.createFlagshipRmvVoucher 0 .BOGO, .handleCategoryChange 0 1 true,
    .updateRmvVoucherCore 0 2 [("merchantFields", .object loaves)],
    .updateRmvVoucherCore 0 3 [("merchantFields", .object loaves)],
    .submitRmvVoucherCore 0 2 0, .submitRmvVoucherCore 0 3 0, .approveApproval 0 1 0]

/-- Then a custom voucher of it is approved. -/
def approvedLive : List (Action Record) :=
  [.createVoucher 0 loavesVoucher, .submitVoucher 0 4 0, .approveVoucher 5 1 0]

theorem noneStranded_throughout_iff_onboarded :
    Throughout (step bakeryFields) (fun db => NoneStranded db.IsLive db.vouchers) opening onboarded ↔
      Along (step bakeryFields) (fun db a => ¬ Strands db a) opening onboarded :=
  noneStranded_throughout_iff opening_opening

/-- The voucher waits, for the flagship that the bakery put aside is not ACTIVE and never will be. -/
theorem approved_voucher_waits : ∃ db, run (step bakeryFields) opening (onboarded ++ approvedLive) = some db ∧
    db.IsLive 0 ∧ ∃ v ∈ db.vouchers, CustomOf 0 v ∧ ApprovedWaiting v := by
  have h : ((run (step bakeryFields) opening (onboarded ++ approvedLive)).any fun db =>
      db.IsLive 0 ∧ ∃ v ∈ db.vouchers, CustomOf 0 v ∧ ApprovedWaiting v) = true := by decide +kernel
  obtain ⟨db, hrun, hwaits⟩ := (Option.any_eq_true _ _).mp h
  rw [decide_eq_true_iff] at hwaits
  exact ⟨db, hrun, hwaits⟩

end

end Redeemo.Activation
