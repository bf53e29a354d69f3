import Redeemo.Lib.ReadCommitted
import Redeemo.Lib.Rows
import Redeemo.Lib.Runs
import Redeemo.Merchant.AvailabilityWindows
import Redeemo.Shared.Approvals
import Redeemo.Voucher.Tables

/-! The review of one custom voucher, with any number of requests about it at a time.

    Every transaction writes the voucher's row before the row of its approval and holds it until it
    ends, so the voucher and its approvals are one record of which a transaction has a copy of its own
    (`ReadCommitted.Cell`). Each request reads the record, checks what it has read, and writes later and
    without a condition. The record also notes the content that was last submitted, which nothing reads.

    What customers can see differs from what was submitted in two ways: an edit that was checked on a
    draft lands after the submission, and a decision to go live lands on a voucher that has left the
    review and been edited. -/

namespace Redeemo.VoucherReview
open Fallible ReadCommitted Rows Runs Vouchers AvailabilityWindows VoucherAvailability

variable {Bag : Type} {ι : Type*}

/-! ### The record and the requests -/

/-- The voucher, its VOUCHER approvals, and what it was when it was last submitted. -/
structure Record (Bag : Type) where
  voucher : Voucher Bag
  approvals : List AdminApproval
  submitted : Option Content

/-- A PATCH body; what is left out stays. -/
structure VoucherPatch (Bag : Type) where
  type : Option VoucherType
  title : Option String
  description : Option String
  terms : Option String
  imageUrl : Option (Option String)
  estimatedSaving : Option ℚ
  expiryDate : Option (Option ℤ)
  cooldownSeconds : Option (Option ℕ)
  merchantFields : Option Bag
  availabilityWindows : Option (List AvailabilityWindow)

/-- A request. `access` is what the checks of the caller answer, and whether the voucher is their
    merchant's. -/
inductive Request (Bag : Type)
  | updateVoucher (access : Except AppError Unit) (data : VoucherPatch Bag)
  /-- With the id of a new approval. -/
  | submitVoucher (access : Except AppError Unit) (newId : ℕ) (now : ℤ)
  | withdrawVoucherSubmission (access : Except AppError Unit) (now : ℤ)
  | approveVoucher (approvalId adminId : ℕ) (now : ℤ)
  | rejectVoucher (approvalId adminId : ℕ) (reason : String) (now : ℤ)
  | requestVoucherChanges (approvalId adminId : ℕ) (proposed : Option Bag) (note : String) (now : ℤ)

def EDITABLE_STATUSES : List VoucherStatus := [.DRAFT]
def SUBMITTABLE_STATUSES : List VoucherStatus := [.DRAFT]

/-! ### What the requests check and write -/

namespace VoucherPatch

def content (data : VoucherPatch Bag) (c : Content) : Content where
  type := data.type.getD c.type
  title := data.title.getD c.title
  description := data.description.or c.description
  terms := data.terms.or c.terms
  estimatedSaving := (data.estimatedSaving.map toScale2).getD c.estimatedSaving
  expiryDate := data.expiryDate.getD c.expiryDate
  availabilityWindows := data.availabilityWindows.getD c.availabilityWindows

def apply (data : VoucherPatch Bag) (v : Voucher Bag) : Voucher Bag :=
  { v with
    toContent := data.content v.toContent
    imageUrl := data.imageUrl.getD v.imageUrl
    cooldownSeconds := data.cooldownSeconds.getD v.cooldownSeconds
    merchantFields := data.merchantFields.or v.merchantFields }

end VoucherPatch

/-- The bag after a patch; the keys that only the server sets stay as they are. -/
def mergeFields (fields : MerchantFields Bag) (current : Option Bag) :
    Option Bag → Except AppError (Option Bag)
  | none => .ok none
  | some bag => do
    let mergedBag := fields.spread (current.getD fields.empty) (fields.stripCallerOwnedKeys bag)
    assertMerchantFieldsWithinLimit fields mergedBag
    return some mergedBag

def checkSaving : Option ℚ → Except AppError Unit
  | none => .ok ()
  | some estimatedSaving => do
    assertSavingSane estimatedSaving
    assertSavingFitsColumn estimatedSaving

def checkWindows (effectiveType : VoucherType) (attached : List AvailabilityWindow) :
    Option (List AvailabilityWindow) → Except AppError Unit
  | some newWindows => validateAvailabilityWindows effectiveType (some newWindows)
  | none => rejectIf (effectiveType ≠ .TIME_LIMITED ∧ 0 < attached.length) (.INVALID_AVAILABILITY_WINDOWS
      "Cannot change voucher type away from TIME_LIMITED while availability windows are attached. Clear windows first.")

/-- The checks of `updateVoucher`, and what it is then going to write. -/
def checkUpdate (fields : MerchantFields Bag) (voucher : Voucher Bag) (data : VoucherPatch Bag) :
    Except AppError (VoucherPatch Bag) := do
  rejectIf (voucher.status ∉ EDITABLE_STATUSES) .VOUCHER_NOT_EDITABLE
  let merchantFields ← mergeFields fields voucher.merchantFields data.merchantFields
  checkSaving data.estimatedSaving
  let effectiveType := data.type.getD voucher.type
  rejectIf (data.cooldownSeconds.join.isSome = true ∧ effectiveType ≠ .REUSABLE) .COOLDOWN_REUSABLE_ONLY
  checkWindows effectiveType voucher.availabilityWindows data.availabilityWindows
  return { data with merchantFields := merchantFields }

/-- The checks of `submitVoucher`, and the bag that it is then going to write. -/
def checkSubmit (fields : MerchantFields Bag) (voucher : Voucher Bag) : Except AppError Bag := do
  rejectIf (voucher.status ∉ SUBMITTABLE_STATUSES) .VOUCHER_NOT_SUBMITTABLE
  rejectIf (voucher.type = .TIME_LIMITED ∧ voucher.availabilityWindows.length = 0)
    .TIME_LIMITED_REQUIRES_WINDOW
  fields.assertVoucherSubmittable {
    type := voucher.type
    title := voucher.title
    estimatedSaving := voucher.estimatedSaving
    merchantFields := voucher.merchantFields
    windowCount := voucher.availabilityWindows.length
    cooldownSeconds := voucher.cooldownSeconds }
  return fields.stripAdminOwnedKeys (voucher.merchantFields.getD fields.empty)

def checkWithdraw (voucher : Voucher Bag) : Except AppError Unit := do
  rejectIf (voucher.isRmv = true) .VOUCHER_EDIT_NOT_ALLOWED
  rejectIf (voucher.status ≠ .PENDING_APPROVAL) .VOUCHER_WITHDRAW_NOT_PENDING
  rejectIf (voucher.approvalStatus = .APPROVED) .VOUCHER_WITHDRAW_NOT_PENDING

namespace Record

def findApproval (r : Record Bag) (id : ℕ) : Option AdminApproval :=
  r.approvals.find? fun approval => approval.id = id

def findOpen (r : Record Bag) : Option AdminApproval :=
  r.approvals.find? fun approval => approval.type = .VOUCHER ∧ approval.status ∈ ACTIONABLE_STATUSES

def updateApproval (r : Record Bag) (id : ℕ) (f : AdminApproval → AdminApproval) : Record Bag :=
  { r with approvals := updateMany (fun approval => approval.id = id) f r.approvals }

def submit (r : Record Bag) (bag : Bag) (now : ℤ) : Record Bag :=
  { r with voucher := r.voucher.submit bag now, submitted := some r.voucher.toContent }

/-- The approval is opened again, or created. -/
def submitApproval (r : Record Bag) (newId : ℕ) : Option ℕ → Record Bag
  | some id => r.updateApproval id reopenApproval
  | none => { r with approvals := r.approvals ++ [newApproval newId r.voucher.id] }

def withdraw (r : Record Bag) : Record Bag := { r with voucher := { r.voucher with status := .DRAFT } }

def withdrawApproval (r : Record Bag) (id : ℕ) (now : ℤ) : Record Bag :=
  r.updateApproval id fun approval =>
    { approval with
      status := .WITHDRAWN
      claimedById := none
      claimedAt := none
      actionedAt := some now
      comment := some "Merchant withdrew the submission" }

def approve (r : Record Bag) (adminId : ℕ) (now : ℤ) (goLive : Bool) : Record Bag :=
  { r with voucher := r.voucher.approve adminId now goLive }

def reject (r : Record Bag) : Record Bag :=
  { r with voucher := { r.voucher with status := .INACTIVE, approvalStatus := .REJECTED } }

def requestChanges (r : Record Bag) (bag : Bag) : Record Bag :=
  { r with
    voucher := { r.voucher with
      status := .DRAFT
      approvalStatus := .CHANGES_REQUESTED
      merchantFields := some bag } }

end Record

/-! ### The statements -/

inductive Failure
  | app (e : AppError)
  /-- A crash, or a failed statement. -/
  | aborted
  deriving DecidableEq

/-- How far a request has come, and what it has read. -/
inductive Phase (Bag : Type)
  | start
  /-- `updateVoucher`: checked. -/
  | editing (data : VoucherPatch Bag)
  /-- `submitVoucher`: checked; the voucher written; the earlier approval looked for. -/
  | submitting (bag : Bag)
  | submitted
  | located (existing : Option ℕ)
  /-- `withdrawVoucherSubmission`: checked; the open approval found. -/
  | withdrawing
  | found (approvalId : ℕ)
  /-- A decision: the approval checked; the voucher checked. -/
  | actionable
  | reviewing (bag : Option Bag)
  /-- `approveVoucher`: the merchant is ACTIVE; whether the voucher goes live. -/
  | merchantLive
  | judged (goLive : Bool)
  /-- The voucher is written, and then the approval. -/
  | written (approvalId : ℕ) (goLive : Bool)
  | settled (goLive : Bool)
  | returned
  | failed (e : Failure)

def Phase.over : Phase Bag → Bool
  | .returned => true
  | .failed _ => true
  | _ => false

/-- A statement, with what it reads outside the record. -/
inductive Act
  | statement
  | readMerchant (status : Option MerchantStatus)
  /-- The merchant's flagship vouchers that are not ACTIVE. -/
  | countFlagships (notLive : ℕ)
  | abandon
  deriving DecidableEq

def after {σ : Type*} (x : Except AppError σ) (phase : σ → Phase Bag) : Phase Bag :=
  match x with
  | .ok a => phase a
  | .error e => .failed (.app e)

section
variable [DecidableEq ι]

/-- The request's next statement on the record. -/
def statement (fields : MerchantFields Bag) (request : Request Bag) (i : ι) (c : Cell ι (Record Bag))
    (phase : Phase Bag) : Option (Cell ι (Record Bag) × Phase Bag) :=
  match request, phase with
  | .updateVoucher access data, .start =>
    some (c, after (access >>= fun _ => checkUpdate fields (c.read i).voucher data) .editing)
  | .updateVoucher _ _, .editing data =>
    (c.write i { c.read i with voucher := data.apply (c.read i).voucher }).map fun c' =>
      (c'.commit i, .returned)
  | .submitVoucher access _ _, .start =>
    some (c, after (access >>= fun _ => checkSubmit fields (c.read i).voucher) .submitting)
  | .submitVoucher _ _ now, .submitting bag =>
    (c.write i ((c.read i).submit bag now)).map fun c' => (c', .submitted)
  | .submitVoucher _ _ _, .submitted =>
    some (c, .located (((c.read i).approvals.find? fun r => r.type = .VOUCHER).map AdminApproval.id))
  | .submitVoucher _ newId _, .located existing =>
    (c.write i ((c.read i).submitApproval newId existing)).map fun c' => (c', .settled false)
  | .withdrawVoucherSubmission access _, .start =>
    some (c, after (access >>= fun _ => checkWithdraw (c.read i).voucher) fun _ => .withdrawing)
  | .withdrawVoucherSubmission _ _, .withdrawing =>
    some (c, after (orReject (c.read i).findOpen .VOUCHER_WITHDRAW_NOT_PENDING) fun r => .found r.id)
  | .withdrawVoucherSubmission _ _, .found approvalId =>
    (c.write i (c.read i).withdraw).map fun c' => (c', .written approvalId false)
  | .withdrawVoucherSubmission _ now, .written approvalId goLive =>
    (c.write i ((c.read i).withdrawApproval approvalId now)).map fun c' => (c', .settled goLive)
  | .approveVoucher approvalId _ _, .start =>
    some (c, after (checkApproval ((c.read i).findApproval approvalId)) fun _ => .actionable)
  | .approveVoucher _ _ _, .actionable =>
    some (c, after (c.read i).voucher.check fun _ => .reviewing (c.read i).voucher.merchantFields)
  | .approveVoucher approvalId adminId now, .judged goLive =>
    (c.write i ((c.read i).approve adminId now goLive)).map fun c' => (c', .written approvalId goLive)
  | .approveVoucher _ adminId now, .written approvalId goLive =>
    (c.write i ((c.read i).updateApproval approvalId (AdminApproval.decide .APPROVED none adminId now))).map
      fun c' => (c', .settled goLive)
  | .rejectVoucher approvalId _ _ _, .start =>
    some (c, after (checkApproval ((c.read i).findApproval approvalId)) fun _ => .actionable)
  | .rejectVoucher _ _ _ _, .actionable =>
    some (c, after (c.read i).voucher.check fun _ => .reviewing (c.read i).voucher.merchantFields)
  | .rejectVoucher approvalId _ _ _, .reviewing _ =>
    (c.write i (c.read i).reject).map fun c' => (c', .written approvalId false)
  | .rejectVoucher _ adminId reason now, .written approvalId goLive =>
    (c.write i ((c.read i).updateApproval approvalId
      (AdminApproval.decide .REJECTED (some reason) adminId now))).map fun c' => (c', .settled goLive)
  | .requestVoucherChanges approvalId _ _ _ _, .start =>
    some (c, after (checkApproval ((c.read i).findApproval approvalId)) fun _ => .actionable)
  | .requestVoucherChanges _ _ _ _ _, .actionable =>
    some (c, after (c.read i).voucher.check fun _ => .reviewing (c.read i).voucher.merchantFields)
  | .requestVoucherChanges approvalId _ proposed note _, .reviewing bag =>
    (c.write i ((c.read i).requestChanges
      (fields.withConcierge (bag.getD fields.empty) proposed note))).map fun c' => (c', .written approvalId false)
  | .requestVoucherChanges _ adminId _ note now, .written approvalId goLive =>
    (c.write i ((c.read i).updateApproval approvalId
      (AdminApproval.decide .CHANGES_REQUESTED (some note) adminId now))).map fun c' => (c', .settled goLive)
  | _, .settled _ => some (c.commit i, .returned)
  | _, _ => none

/-- The reads of `approveVoucher` outside the record: the merchant, and its flagships if it is ACTIVE. -/
def judge (request : Request Bag) (phase : Phase Bag) : Act → Option (Phase Bag)
  | .readMerchant status =>
    match request, phase with
    | .approveVoucher _ _ _, .reviewing _ =>
      some (if status = some .ACTIVE then .merchantLive else .judged false)
    | _, _ => none
  | .countFlagships notLive =>
    match request, phase with
    | .approveVoucher _ _ _, .merchantLive => some (.judged (notLive = 0))
    | _, _ => none
  | _ => none

def next (fields : MerchantFields Bag) (requests : ι → Request Bag) (i : ι) (c : Cell ι (Record Bag))
    (phase : Phase Bag) (a : Act) : Option (Cell ι (Record Bag) × Phase Bag) :=
  match a with
  | .statement => statement fields (requests i) i c phase
  | .abandon => if phase.over then none else some (c.rollback i, .failed .aborted)
  | a => (judge (requests i) phase a).map fun phase => (c, phase)

end

/-- A new voucher, and no request yet. -/
def drafted (voucher : Voucher Bag) : Pool ι (Cell ι (Record Bag)) (Phase Bag) :=
  ⟨⟨⟨{ voucher with status := .DRAFT, approvalStatus := .PENDING }, [], none⟩, none⟩, fun _ => .start⟩

/-! ### What a transaction makes of the voucher -/

/-- What the law is about. -/
structure View where
  content : Content
  status : VoucherStatus
  submitted : Option Content

def Record.view (r : Record Bag) : View := ⟨r.voucher.toContent, r.voucher.status, r.submitted⟩

/-- Under review or live, the content is what was submitted. -/
def Reviewed (v : View) : Prop :=
  v.status = .PENDING_APPROVAL ∨ v.status = .ACTIVE → v.submitted = some v.content

/-- What a request's transaction makes of the voucher. -/
def Request.effect (request : Request Bag) (goLive : Bool) (v : View) : View :=
  match request with
  | .updateVoucher _ _ => v
  | .submitVoucher _ _ _ => ⟨v.content, .PENDING_APPROVAL, some v.content⟩
  | .withdrawVoucherSubmission _ _ => { v with status := .DRAFT }
  | .approveVoucher _ _ _ => { v with status := if goLive = true then .ACTIVE else v.status }
  | .rejectVoucher _ _ _ _ => { v with status := .INACTIVE }
  | .requestVoucherChanges _ _ _ _ _ => { v with status := .DRAFT }

/-- A phase in which the transaction holds the record. -/
def Phase.held : Phase Bag → Option Bool
  | .submitted => some false
  | .located _ => some false
  | .written _ goLive => some goLive
  | .settled goLive => some goLive
  | _ => none

/-- A request that holds the record has made of it what its transaction is to make. -/
def Local (request : Request Bag) (i : ι) (c : Cell ι (Record Bag)) (phase : Phase Bag) : Prop :=
  match phase.held with
  | some goLive => ∃ w, c.held = some (i, w) ∧ w.view = request.effect goLive c.committed.view
  | none => c.Free i

/-- A step that puts before the customers, or before the reviewer, what was not submitted: an edit lands
    on a voucher in review or live, which no transaction holds, and changes it; or a decision to go live
    is committed where the content is no longer that of the last submission. -/
def Slips (request : Request Bag) (i : ι) (c : Cell ι (Record Bag)) (phase : Phase Bag) (a : Act) : Prop :=
  a = .statement ∧ match request, phase with
  | .updateVoucher _ _, .editing data => (∀ j w, c.held = some (j, w) → j = i) ∧
      (c.committed.voucher.status = .PENDING_APPROVAL ∨ c.committed.voucher.status = .ACTIVE) ∧
      data.content c.committed.voucher.toContent ≠ c.committed.voucher.toContent
  | .approveVoucher _ _ _, .settled true =>
      c.committed.submitted ≠ some c.committed.voucher.toContent
  | _, _ => False

/-- What a step does to the committed record. -/
inductive Changes (request : Request Bag) (i : ι) (c : Cell ι (Record Bag)) (phase : Phase Bag) (a : Act)
    (c' : Cell ι (Record Bag)) : Prop
  | none (h : c'.committed.view = c.committed.view) (hno : ¬ Slips request i c phase a)
  | edit (access : Except AppError Unit) (data data' : VoucherPatch Bag) (ha : a = .statement)
    (hr : request = .updateVoucher access data') (hp : phase = .editing data)
    (hfree : ∀ j w, c.held = some (j, w) → j = i)
    (h : c'.committed.view =
      { c.committed.view with content := data.content c.committed.voucher.toContent })
  | commit (goLive : Bool) (ha : a = .statement) (hp : phase = .settled goLive)
    (h : c'.committed.view = request.effect goLive c.committed.view)

/-- What holds after a step of a request. -/
structure StepOk (request : Request Bag) (i : ι) (c : Cell ι (Record Bag)) (phase : Phase Bag) (a : Act)
    (c' : Cell ι (Record Bag)) (phase' : Phase Bag) : Prop where
  moves : Cell.Moves i c c'
  copy : Local request i c' phase'
  changes : Changes request i c phase a c'

section
variable {fields : MerchantFields Bag} {request : Request Bag} {i j : ι} {c c' : Cell ι (Record Bag)}
  {phase phase' : Phase Bag} {a : Act} {w : Record Bag} {goLive : Bool}

theorem local_of_free (hp : phase.held = none) (hf : c.Free i) : Local request i c phase := by
  rw [Local, hp]
  exact hf

theorem Local.free (hl : Local request i c phase) (hp : phase.held = none) : c.Free i := by
  rw [Local, hp] at hl
  exact hl

theorem local_of_held (hp : phase.held = some goLive) (hw : c.held = some (i, w))
    (hv : w.view = request.effect goLive c.committed.view) : Local request i c phase := by
  rw [Local, hp]
  exact ⟨w, hw, hv⟩

theorem Local.held (hl : Local request i c phase) (hp : phase.held = some goLive) :
    ∃ w, c.held = some (i, w) ∧ w.view = request.effect goLive c.committed.view := by
  rw [Local, hp] at hl
  exact hl

theorem held_after {σ : Type*} {x : Except AppError σ} {f : σ → Phase Bag} (hf : ∀ b, (f b).held = none) :
    (after x f).held = none := by
  cases x with
  | ok b => exact hf b
  | error e => rfl

/-! ### The steps of each request -/

/-- The voucher is left as it is. -/
theorem view_updateApproval (r : Record Bag) (id : ℕ) (f : AdminApproval → AdminApproval) :
    (r.updateApproval id f).view = r.view := rfl

theorem view_submitApproval (r : Record Bag) (newId : ℕ) (existing : Option ℕ) :
    (r.submitApproval newId existing).view = r.view := by
  cases existing with
  | none => rfl
  | some id => rfl

theorem stepOk_read (hl : Local request i c phase) (hp : phase.held = none) (hp' : phase'.held = none)
    (hno : ¬ Slips request i c phase a) : StepOk request i c phase a c phase' :=
  ⟨.stay, local_of_free hp' (hl.free hp), .none rfl hno⟩

theorem judge_cases (h : judge request phase a = some phase') :
    a ≠ .statement ∧ phase.held = none ∧ phase'.held = none := by
  cases a with
  | readMerchant status =>
    cases request with
    | approveVoucher approvalId adminId now =>
      cases phase with
      | reviewing bag =>
        cases h
        refine ⟨nofun, rfl, ?_⟩
        split_ifs
        · rfl
        · rfl
      | _ => cases h
    | _ => cases h
  | countFlagships notLive =>
    cases request with
    | approveVoucher approvalId adminId now =>
      cases phase with
      | merchantLive =>
        cases h
        exact ⟨nofun, rfl, rfl⟩
      | _ => cases h
    | _ => cases h
  | statement => cases h
  | abandon => cases h

theorem stepOk_judge (hl : Local request i c phase)
    (h : (judge request phase a).map (fun phase => (c, phase)) = some (c', phase')) :
    StepOk request i c phase a c' phase' := by
  obtain ⟨p, hp, he⟩ := Option.map_eq_some_iff.mp h
  cases he
  obtain ⟨ha, hheld, hheld'⟩ := judge_cases hp
  exact stepOk_read hl hheld hheld' fun hs => ha hs.1

/-- Another request's step leaves this one with what it had. -/
theorem local_of_moves (hne : i ≠ j) (hm : Cell.Moves i c c') (hl : Local request j c phase) :
    Local request j c' phase := by
  cases hp : phase.held with
  | none => exact local_of_free hp (hm.free_of_ne hne (hl.free hp))
  | some goLive =>
    obtain ⟨w, hw, hv⟩ := hl.held hp
    rw [hm.held_of_ne hne hw]
    exact local_of_held hp hw hv

/-- The decision to go live is the only one that can put the wrong content before customers. -/
theorem reviewed_effect {v : View} (hi : Reviewed v) : Reviewed (request.effect goLive v) ↔
    ¬ ((∃ approvalId adminId now, request = .approveVoucher approvalId adminId now) ∧ goLive = true ∧
      v.submitted ≠ some v.content) := by
  cases request with
  | approveVoucher approvalId adminId now =>
    cases goLive with
    | true =>
      constructor
      · rintro hr ⟨-, -, hne⟩
        exact hne (hr (.inr rfl))
      · intro hno _
        by_contra hne
        exact hno ⟨⟨approvalId, adminId, now, rfl⟩, rfl, hne⟩
    | false => exact iff_of_true hi fun h => nomatch h.2.1
  | updateVoucher access data => exact iff_of_true hi nofun
  | submitVoucher access newId now => exact iff_of_true (fun _ => rfl) nofun
  | withdrawVoucherSubmission access now => exact iff_of_true (fun h => by rcases h with h | h <;> cases h) nofun
  | rejectVoucher approvalId adminId reason now =>
    exact iff_of_true (fun h => by rcases h with h | h <;> cases h) nofun
  | requestVoucherChanges approvalId adminId proposed note now =>
    exact iff_of_true (fun h => by rcases h with h | h <;> cases h) nofun

/-- A step keeps the law exactly when it does not slip. -/
theorem reviewed_step (hi : Reviewed c.committed.view) (h : Changes request i c phase a c') :
    Reviewed c'.committed.view ↔ ¬ Slips request i c phase a := by
  cases h with
  | none h hno =>
    rw [h]
    exact iff_of_true hi hno
  | edit access data data' ha hr hp hfree h =>
    subst ha hr hp
    rw [h]
    constructor
    · rintro hrev ⟨-, -, hstatus, hne⟩
      have hnow : c.committed.submitted = some c.committed.voucher.toContent := hi hstatus
      have hthen : c.committed.submitted = some (data.content c.committed.voucher.toContent) := hrev hstatus
      exact hne (Option.some.inj (hthen.symm.trans hnow))
    · intro hno hstatus
      have hnow : c.committed.submitted = some c.committed.voucher.toContent := hi hstatus
      by_contra hne
      refine hno ⟨rfl, hfree, hstatus, fun heq => hne ?_⟩
      exact hnow.trans (congrArg some heq.symm)
  | commit goLive ha hp h =>
    subst ha hp
    rw [h, reviewed_effect hi]
    refine not_congr ?_
    constructor
    · rintro ⟨⟨approvalId, adminId, now, rfl⟩, rfl, hne⟩
      exact ⟨rfl, hne⟩
    · rintro ⟨-, hs⟩
      cases request with
      | approveVoucher approvalId adminId now =>
        cases goLive with
        | true => exact ⟨⟨approvalId, adminId, now, rfl⟩, rfl, hs⟩
        | false => exact hs.elim
      | _ => exact hs.elim

variable [DecidableEq ι]

/-- The first write of a transaction. -/
theorem stepOk_write {f : Record Bag → Record Bag} (hl : Local request i c phase) (hp : phase.held = none)
    {p : Phase Bag} (hp' : p.held = some goLive) (hno : ¬ Slips request i c phase a)
    (hv : ∀ r, (f r).view = request.effect goLive r.view)
    (h : (c.write i (f (c.read i))).map (fun c' => (c', p)) = some (c', phase')) :
    StepOk request i c phase a c' phase' := by
  obtain ⟨d, hd, he⟩ := Option.map_eq_some_iff.mp h
  cases he
  obtain ⟨hh, rfl⟩ := Cell.write_eq_some.mp hd
  rw [Cell.read_of_free (hl.free hp)]
  exact ⟨.write _ hh, local_of_held hp' rfl (hv _), .none rfl hno⟩

/-- A later write, to an approval. -/
theorem stepOk_rewrite {f : Record Bag → Record Bag} (hl : Local request i c phase)
    (hp : phase.held = some goLive) {p : Phase Bag} (hp' : p.held = some goLive)
    (hno : ¬ Slips request i c phase a) (hv : ∀ r, (f r).view = r.view)
    (h : (c.write i (f (c.read i))).map (fun c' => (c', p)) = some (c', phase')) :
    StepOk request i c phase a c' phase' := by
  obtain ⟨d, hd, he⟩ := Option.map_eq_some_iff.mp h
  cases he
  obtain ⟨hh, rfl⟩ := Cell.write_eq_some.mp hd
  obtain ⟨w, hw, hview⟩ := hl.held hp
  rw [Cell.read_of_held hw]
  exact ⟨.write _ hh, local_of_held hp' rfl ((hv w).trans hview), .none rfl hno⟩

theorem stepOk_commit (hl : Local request i c (.settled goLive)) :
    StepOk request i c (.settled goLive) .statement (c.commit i) .returned := by
  obtain ⟨w, hw, hview⟩ := hl.held rfl
  rw [Cell.commit_of_held hw]
  exact ⟨.finish _ (Cell.held_unique hw), local_of_free rfl (Cell.free_of_held_none rfl),
    .commit goLive rfl rfl hview⟩

theorem updateVoucher_step {access : Except AppError Unit} {data : VoucherPatch Bag}
    (hl : Local (.updateVoucher access data) i c phase)
    (h : statement fields (.updateVoucher access data) i c phase = some (c', phase')) :
    StepOk (.updateVoucher access data) i c phase .statement c' phase' := by
  cases phase with
  | start =>
    cases h
    exact stepOk_read hl rfl (held_after fun _ => rfl) fun hs => hs.2
  | editing patch =>
    obtain ⟨d, hd, he⟩ := Option.map_eq_some_iff.mp h
    cases he
    obtain ⟨hh, rfl⟩ := Cell.write_eq_some.mp hd
    rw [Cell.commit_of_held rfl, Cell.read_of_free (hl.free rfl)]
    exact ⟨.finish _ hh, local_of_free rfl (Cell.free_of_held_none rfl),
      .edit access patch data rfl rfl rfl hh rfl⟩
  | settled goLive =>
    cases h
    exact stepOk_commit hl
  | _ => cases h

theorem submitVoucher_step {access : Except AppError Unit} {newId : ℕ} {now : ℤ}
    (hl : Local (.submitVoucher access newId now) i c phase)
    (h : statement fields (.submitVoucher access newId now) i c phase = some (c', phase')) :
    StepOk (.submitVoucher access newId now) i c phase .statement c' phase' := by
  cases phase with
  | start =>
    cases h
    exact stepOk_read hl rfl (held_after fun _ => rfl) fun hs => hs.2
  | submitting bag => exact stepOk_write (f := fun r => r.submit bag now) hl rfl rfl (fun hs => hs.2) (fun _ => rfl) h
  | submitted =>
    cases h
    obtain ⟨w, hw, hview⟩ := hl.held rfl
    exact ⟨.stay, local_of_held rfl hw hview, .none rfl fun hs => hs.2⟩
  | located existing =>
    exact stepOk_rewrite (f := fun r => r.submitApproval newId existing) hl rfl rfl (fun hs => hs.2)
      (fun r => view_submitApproval r newId existing) h
  | settled goLive =>
    cases h
    exact stepOk_commit hl
  | _ => cases h

theorem withdrawVoucherSubmission_step {access : Except AppError Unit} {now : ℤ}
    (hl : Local (.withdrawVoucherSubmission access now) i c phase)
    (h : statement fields (.withdrawVoucherSubmission access now) i c phase = some (c', phase')) :
    StepOk (.withdrawVoucherSubmission access now) i c phase .statement c' phase' := by
  cases phase with
  | start =>
    cases h
    exact stepOk_read hl rfl (held_after fun _ => rfl) fun hs => hs.2
  | withdrawing =>
    cases h
    exact stepOk_read hl rfl (held_after fun _ => rfl) fun hs => hs.2
  | found approvalId => exact stepOk_write (f := Record.withdraw) hl rfl rfl (fun hs => hs.2) (fun _ => rfl) h
  | written approvalId goLive =>
    exact stepOk_rewrite (f := fun r => r.withdrawApproval approvalId now) hl rfl rfl (fun hs => hs.2)
      (fun _ => rfl) h
  | settled goLive =>
    cases h
    exact stepOk_commit hl
  | _ => cases h

theorem approveVoucher_step {approvalId adminId : ℕ} {now : ℤ}
    (hl : Local (.approveVoucher approvalId adminId now) i c phase)
    (h : statement fields (.approveVoucher approvalId adminId now) i c phase = some (c', phase')) :
    StepOk (.approveVoucher approvalId adminId now) i c phase .statement c' phase' := by
  cases phase with
  | start =>
    cases h
    exact stepOk_read hl rfl (held_after fun _ => rfl) fun hs => hs.2
  | actionable =>
    cases h
    exact stepOk_read hl rfl (held_after fun _ => rfl) fun hs => hs.2
  | judged goLive =>
    exact stepOk_write (f := fun r => r.approve adminId now goLive) hl rfl rfl (fun hs => hs.2) (fun _ => rfl) h
  | written approvalId goLive =>
    exact stepOk_rewrite (f := fun r => r.updateApproval approvalId _) hl rfl rfl (fun hs => hs.2)
      (fun r => view_updateApproval r _ _) h
  | settled goLive =>
    cases h
    exact stepOk_commit hl
  | _ => cases h

theorem rejectVoucher_step {approvalId adminId : ℕ} {reason : String} {now : ℤ}
    (hl : Local (.rejectVoucher approvalId adminId reason now) i c phase)
    (h : statement fields (.rejectVoucher approvalId adminId reason now) i c phase = some (c', phase')) :
    StepOk (.rejectVoucher approvalId adminId reason now) i c phase .statement c' phase' := by
  cases phase with
  | start =>
    cases h
    exact stepOk_read hl rfl (held_after fun _ => rfl) fun hs => hs.2
  | actionable =>
    cases h
    exact stepOk_read hl rfl (held_after fun _ => rfl) fun hs => hs.2
  | reviewing bag => exact stepOk_write (f := Record.reject) hl rfl rfl (fun hs => hs.2) (fun _ => rfl) h
  | written approvalId goLive =>
    exact stepOk_rewrite (f := fun r => r.updateApproval approvalId _) hl rfl rfl (fun hs => hs.2)
      (fun r => view_updateApproval r _ _) h
  | settled goLive =>
    cases h
    exact stepOk_commit hl
  | _ => cases h

theorem requestVoucherChanges_step {approvalId adminId : ℕ} {proposed : Option Bag} {note : String} {now : ℤ}
    (hl : Local (.requestVoucherChanges approvalId adminId proposed note now) i c phase)
    (h : statement fields (.requestVoucherChanges approvalId adminId proposed note now) i c phase =
      some (c', phase')) :
    StepOk (.requestVoucherChanges approvalId adminId proposed note now) i c phase .statement c' phase' := by
  cases phase with
  | start =>
    cases h
    exact stepOk_read hl rfl (held_after fun _ => rfl) fun hs => hs.2
  | actionable =>
    cases h
    exact stepOk_read hl rfl (held_after fun _ => rfl) fun hs => hs.2
  | reviewing bag =>
    exact stepOk_write (f := fun r => r.requestChanges _) hl rfl rfl (fun hs => hs.2) (fun _ => rfl) h
  | written approvalId goLive =>
    exact stepOk_rewrite (f := fun r => r.updateApproval approvalId _) hl rfl rfl (fun hs => hs.2)
      (fun r => view_updateApproval r _ _) h
  | settled goLive =>
    cases h
    exact stepOk_commit hl
  | _ => cases h

/-! ### Every interleaving -/

theorem next_step {requests : ι → Request Bag} (hl : Local (requests i) i c phase)
    (h : next fields requests i c phase a = some (c', phase')) : StepOk (requests i) i c phase a c' phase' := by
  cases a with
  | statement =>
    rw [next] at h
    cases hr : requests i with
    | updateVoucher access data =>
      rw [hr] at hl h
      exact updateVoucher_step hl h
    | submitVoucher access newId now =>
      rw [hr] at hl h
      exact submitVoucher_step hl h
    | withdrawVoucherSubmission access now =>
      rw [hr] at hl h
      exact withdrawVoucherSubmission_step hl h
    | approveVoucher approvalId adminId now =>
      rw [hr] at hl h
      exact approveVoucher_step hl h
    | rejectVoucher approvalId adminId reason now =>
      rw [hr] at hl h
      exact rejectVoucher_step hl h
    | requestVoucherChanges approvalId adminId proposed note now =>
      rw [hr] at hl h
      exact requestVoucherChanges_step hl h
  | readMerchant status => exact stepOk_judge hl h
  | countFlagships notLive => exact stepOk_judge hl h
  | abandon =>
    rw [next] at h
    split_ifs at h
    cases h
    obtain ⟨hfree, hcommitted⟩ := Cell.free_rollback (c := c) (i := i)
    refine ⟨Cell.moves_rollback, local_of_free rfl hfree, .none ?_ fun hs => nomatch hs.1⟩
    rw [hcommitted]

theorem local_step {requests : ι → Request Bag} (s : Pool ι (Cell ι (Record Bag)) (Phase Bag))
    (a : ι × Act) (s' : Pool ι (Cell ι (Record Bag)) (Phase Bag))
    (hk : PoolInv (fun _ => True) (fun i c phase => Local (requests i) i c phase) s)
    (h : poolStep (next fields requests) s a = some s') :
    PoolInv (fun _ => True) (fun i c phase => Local (requests i) i c phase) s' := by
  refine poolInv_step (K := fun i c phase => Local (requests i) i c phase) ?_ ?_ s a s' hk h
  · intro i c phase a c' phase' _ hl hn
    exact ⟨trivial, (next_step hl hn).copy⟩
  · intro i j c phase other a c' phase' hne _ hl hother hn
    exact local_of_moves hne (next_step hl hn).moves hother

/-- A request can always slip where it is in a position to. -/
theorem next_of_slips {requests : ι → Request Bag} (hs : Slips (requests i) i c phase a) :
    next fields requests i c phase a ≠ none := by
  obtain ⟨rfl, hs⟩ := hs
  rw [next]
  cases hr : requests i with
  | updateVoucher access data =>
    rw [hr] at hs
    cases phase with
    | editing patch =>
      obtain ⟨hfree, -, -⟩ := hs
      have hwrite := Cell.write_eq_some.mpr
        ⟨hfree, (rfl : _ = { c with held := some (i, { c.read i with
          voucher := patch.apply (c.read i).voucher }) })⟩
      simp only [statement, hwrite]
      exact Option.some_ne_none _
    | _ => exact hs.elim
  | approveVoucher approvalId adminId now =>
    rw [hr] at hs
    cases phase with
    | settled goLive => exact Option.some_ne_none _
    | _ => exact hs.elim
  | _ =>
    rw [hr] at hs
    exact hs.elim

/-- CORRECT: throughout an interleaving of any number of requests about a new voucher, its content equals
    that of its last submission whenever it is under review or live, if and only if no edit that changes
    it lands meanwhile and no decision to go live is committed on other content. -/
theorem reviewed_throughout_iff {requests : ι → Request Bag} {voucher : Voucher Bag} {as : List (ι × Act)} :
    Throughout (poolStep (next fields requests)) (fun s => Reviewed s.store.committed.view)
        (drafted voucher) as ↔
      Along (poolStep (next fields requests)) (fun s a => ¬ Slips (requests a.1) a.1 s.store (s.proc a.1) a.2)
        (drafted voucher) as := by
  refine throughout_iff_along_of_refused
    (K := PoolInv (fun _ => True) fun i c phase => Local (requests i) i c phase)
    (fun s a hnone => ?_) local_step (fun s a s' hk hi h => ?_) ⟨trivial, fun i => ?_⟩ ?_
  · rw [poolStep, Option.map_eq_none_iff] at hnone
    exact fun hs => next_of_slips hs hnone
  · obtain ⟨c', phase', hn, rfl⟩ := poolStep_eq_some.mp h
    exact reviewed_step hi (next_step (hk.2 a.1) hn).changes
  · exact local_of_free rfl (Cell.free_of_held_none rfl)
  · rintro (h | h) <;> cases h

end

/-! ### An edit that comes late -/

/-- A bag that the builder has filled in, and that the requests leave as it is. -/
def filledIn : MerchantFields Unit where
  empty := ()
  spread _ _ := ()
  stripCallerOwnedKeys _ := ()
  stripAdminOwnedKeys _ := ()
  stampStrictSubmitContract _ := ()
  withinLimit _ := true
  withConcierge _ _ _ := ()
  assertVoucherSubmittable _ := .ok ()

def freeCoffee : Voucher Unit where
  type := .BOGO
  title := "Buy one coffee, get one free"
  description := none
  terms := none
  estimatedSaving := 3
  expiryDate := none
  availabilityWindows := []
  id := 0
  merchantId := 0
  isRmv := false
  isMandatory := false
  rmvTemplateId := none
  imageUrl := none
  cooldownSeconds := none
  status := .DRAFT
  approvalStatus := .PENDING
  approvedBy := none
  approvedAt := none
  publishedAt := none
  merchantFields := some ()

def noChange : VoucherPatch Unit := ⟨none, none, none, none, none, none, none, none, none, none⟩

/-- The merchant edits the title and submits, and an admin approves. -/
def editedAndSubmitted : ℕ → Request Unit
  | 0 => .updateVoucher (.ok ()) { noChange with title := some "Buy ten coffees, get one free" }
  | 1 => .submitVoucher (.ok ()) 0 0
  | _ => .approveVoucher 0 0 0

/-- The edit is checked on the draft and lands when the voucher is live: customers see a title that
    nobody has reviewed. -/
theorem unreviewed_content_live : ∃ s,
    run (poolStep (next filledIn editedAndSubmitted)) (drafted freeCoffee)
      [(0, .statement), (1, .statement), (1, .statement), (1, .statement), (1, .statement), (1, .statement),
        (2, .statement), (2, .statement), (2, .readMerchant (some .ACTIVE)), (2, .countFlagships 0),
        (2, .statement), (2, .statement), (2, .statement), (0, .statement)] = some s ∧
    s.store.committed.voucher.status = .ACTIVE ∧
    s.store.committed.voucher.title = "Buy ten coffees, get one free" ∧
    s.store.committed.submitted.map Content.title = some "Buy one coffee, get one free" ∧
    ¬ Reviewed s.store.committed.view := by
  refine ⟨_, rfl, rfl, rfl, rfl, fun h => ?_⟩
  have htitle := congrArg (Option.map Content.title) (h (.inr rfl))
  revert htitle
  decide

end Redeemo.VoucherReview
