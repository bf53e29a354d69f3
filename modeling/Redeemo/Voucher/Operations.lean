import Redeemo.Edits.Apply
import Redeemo.Voucher.Activation

/-! Every operation on the vouchers of the merchants, and what each does to a row.

    A voucher is never deleted. An operation rewrites rows under the checks that it makes of them
    (`Rewritten`), or creates drafts under new ids (`Created`), and nothing else happens to the table
    (`step_evolves`). -/

namespace Redeemo.VoucherOperations
open Fallible Rows Records Vouchers Flagship Onboarding Activation PendingEdits LocationTrust
open VoucherReview (VoucherPatch checkUpdate checkSubmit)

variable {Bag : Type}

/-! ### The operations that are not of the activation -/

def provisionRmvVouchers (fields : RmvFields Bag) (db : Db Bag) (merchantId categoryId : ℕ) :
    Except Failure (Db Bag) := do
  let templates := (db.rmvTemplates.filter fun t => t.categoryId = categoryId ∧ t.isActive = true).take 2
  rejectIf (templates.length < 2) (.app .NO_RMV_TEMPLATE)
  let _ ← orReject (db.findMerchant merchantId) .P2003
  return templates.foldl (fun db t => db.insertVoucher (draftOf fields merchantId t)) db

def updateVoucher (fields : RmvFields Bag) (db : Db Bag) (adminId voucherId : ℕ) (data : VoucherPatch Bag) :
    Except AppError (Db Bag) := do
  let mctx ← resolveMerchantContext db.accounts adminId
  assertCanManageVouchers mctx
  let voucher ← orReject (db.findVoucher voucherId mctx.merchantId false) .VOUCHER_NOT_FOUND
  let safe ← checkUpdate fields.toMerchantFields voucher data
  return db.updateVouchers (fun v => v.id = voucherId) safe.apply

def returnToDraft (bag : Bag) (v : Voucher Bag) : Voucher Bag :=
  { v with status := .DRAFT, approvalStatus := .CHANGES_REQUESTED, merchantFields := some bag }

def requestVoucherChanges (fields : RmvFields Bag) (db : Db Bag) (approvalId adminId : ℕ)
    (proposed : Option Bag) (note : String) (now : ℤ) : Except AppError (Db Bag) := do
  let approval ← checkApproval (db.findApproval approvalId)
  let voucher ← orReject (db.findReviewed approval) .VOUCHER_NOT_FOUND
  voucher.check
  let mergedBag := fields.withConcierge (voucher.merchantFields.getD fields.empty) proposed note
  let returned := db.updateVouchers (fun v => v.id = voucher.id) (returnToDraft mergedBag)
  return returned.updateApproval approvalId (AdminApproval.decide .CHANGES_REQUESTED (some note) adminId now)

def nullable (s : Option String) : Json := (s.map Json.string).getD .null

/-- The columns that an edit may be about. -/
def columnsOf (v : Voucher Bag) : String → Json
  | "title" => .string v.title
  | "description" => nullable v.description
  | "estimatedSaving" => .number v.estimatedSaving
  | "terms" => nullable v.terms
  | "imageUrl" => nullable v.imageUrl
  | _ => .null

def entityOf (v : Voucher Bag) : Entity := .voucher v.isRmv v.isMandatory v.status (columnsOf v)

def applyEdit (write : Option EntityWrite) (v : Voucher Bag) : Voucher Bag :=
  match write with
  | none => v
  | some .endVoucher => { v with status := .INACTIVE }
  | some (.columns data) => { v with
      title := (data.text "title").getD v.title
      description := (data.text "description").or v.description
      estimatedSaving := (data.num "estimatedSaving").getD v.estimatedSaving
      terms := (data.text "terms").or v.terms
      imageUrl := (data.text "imageUrl").or v.imageUrl }

/-- Whatever approval and edit the admin finds for the voucher. -/
def approveEdit (geo : Geography ℚ) (db : Db Bag) (approval : AdminApproval) (edit : PendingEdit)
    (voucherId : ℕ) : Except AppError (Db Bag) := do
  let kind ← checkEditApproval approval
  checkEdit kind approval.referenceId edit
  let voucher ← orReject (db.vouchers.find? fun v => v.id = voucherId) .VOUCHER_NOT_FOUND
  let planned ← plan geo edit (entityOf voucher)
  return db.updateVouchers (fun v => v.id = voucherId) (applyEdit planned.write)

/-! ### Steps -/

inductive Action (Bag : Type)
  | activation (a : Activation.Action Bag)
  | provisionRmvVouchers (merchantId categoryId : ℕ)
  | updateVoucher (adminId voucherId : ℕ) (data : VoucherPatch Bag)
  | requestVoucherChanges (approvalId adminId : ℕ) (proposed : Option Bag) (note : String) (now : ℤ)
  | approveEdit (approval : AdminApproval) (edit : PendingEdit) (voucherId : ℕ)

def exec (geo : Geography ℚ) (fields : RmvFields Bag) (db : Db Bag) : Action Bag → Option (Db Bag)
  | .activation a => Activation.exec fields db a
  | .provisionRmvVouchers merchantId categoryId => (provisionRmvVouchers fields db merchantId categoryId).toOption
  | .updateVoucher adminId voucherId data => (updateVoucher fields db adminId voucherId data).toOption
  | .requestVoucherChanges approvalId adminId proposed note now =>
    (requestVoucherChanges fields db approvalId adminId proposed note now).toOption
  | .approveEdit approval edit voucherId => (approveEdit geo db approval edit voucherId).toOption

/-- An operation that throws leaves the tables as they were. -/
def step (geo : Geography ℚ) (fields : RmvFields Bag) (db : Db Bag) (a : Action Bag) : Option (Db Bag) :=
  some ((exec geo fields db a).getD db)

/-! ### What an operation does to a row -/

/-- How an operation may rewrite a row `v`. -/
inductive Rewritten (geo : Geography ℚ) (fields : RmvFields Bag) (templates : List RmvTemplate) (v : Voucher Bag) :
    Action Bag → Voucher Bag → Prop
  | same {a} : Rewritten geo fields templates v a v
  | putAside {merchantId newCategoryId confirm} (hown : FlagshipOf merchantId v) (hdraft : v.status = .DRAFT) :
    Rewritten geo fields templates v (.activation (.handleCategoryChange merchantId newCategoryId confirm)) (putAside v)
  | updateRmv {merchantId voucherId proposedFields update} (hown : FlagshipOf merchantId v) (hid : v.id = voucherId)
    (hcheck : checkUpdateRmv fields templates v proposedFields = .ok update) : Rewritten geo fields templates v
      (.activation (.updateRmvVoucherCore merchantId voucherId proposedFields)) (applyUpdateRmv update v)
  | submitRmv {merchantId voucherId now submission} (hown : FlagshipOf merchantId v) (hid : v.id = voucherId)
    (hcheck : checkSubmitRmv fields templates v = .ok submission) : Rewritten geo fields templates v
      (.activation (.submitRmvVoucherCore merchantId voucherId now)) (submission.apply now v)
  | submit {adminId voucherId now bag} (hcustom : v.isRmv = false) (hid : v.id = voucherId)
    (hcheck : checkSubmit fields.toMerchantFields v = .ok bag) :
    Rewritten geo fields templates v (.activation (.submitVoucher adminId voucherId now)) (v.submit bag now)
  | approve {approvalId adminId now goLive} (hcustom : v.isRmv = false) (hpending : v.status = .PENDING_APPROVAL) :
    Rewritten geo fields templates v (.activation (.approveVoucher approvalId adminId now))
      (v.approve adminId now goLive)
  | goLive {approvalId adminId now merchantId w} (hlive : Activated merchantId adminId now v w) :
    Rewritten geo fields templates v (.activation (.approveApproval approvalId adminId now)) w
  | update {adminId voucherId data safe} (hcustom : v.isRmv = false)
    (hcheck : checkUpdate fields.toMerchantFields v data = .ok safe) :
    Rewritten geo fields templates v (.updateVoucher adminId voucherId data) (safe.apply v)
  | requestChanges {approvalId adminId proposed note now} (hcustom : v.isRmv = false)
    (hpending : v.status = .PENDING_APPROVAL) :
    Rewritten geo fields templates v (.requestVoucherChanges approvalId adminId proposed note now)
      (returnToDraft (fields.withConcierge (v.merchantFields.getD fields.empty) proposed note) v)
  | edited {approval edit voucherId planned} (hplan : plan geo edit (entityOf v) = .ok planned) :
    Rewritten geo fields templates v (.approveEdit approval edit voucherId) (applyEdit planned.write v)

/-- A row as it is created. -/
inductive Created (fields : RmvFields Bag) (templates : List RmvTemplate) : Voucher Bag → Prop
  | flagship {merchantId id template} (htemplate : template ∈ templates) :
    Created fields templates (draftOf fields merchantId template id)
  | custom {v} (hcustom : v.isRmv = false) (hmandatory : v.isMandatory = false) (hdraft : v.status = .DRAFT)
    (hbag : ∃ bag, v.merchantFields = some (fields.stampStrictSubmitContract (fields.stripCallerOwnedKeys bag))) :
    Created fields templates v

section
variable {geo : Geography ℚ} {fields : RmvFields Bag} {db db' : Db Bag} {merchantId voucherId adminId : ℕ}
  {templates : List RmvTemplate} {a : Action Bag} {v w : Voucher Bag}

/-- Only an ACTIVE custom voucher is ended. -/
theorem plan_endVoucher {edit : PendingEdit} {v : Voucher Bag} {planned : Plan}
    (h : plan geo edit (entityOf v) = .ok planned) (hwrite : planned.write = some .endVoucher) :
    v.isRmv = false ∧ v.isMandatory = false ∧ v.status = .ACTIVE := by
  have hcolumns : ∀ applied, writeOf applied ≠ some .endVoucher := by
    intro applied
    rw [writeOf]
    split_ifs
    · exact (Option.some_ne_none _).symm
    · exact fun he => by cases he
  rw [entityOf] at h
  cases hbody : edit.body with
  | merchant =>
    simp only [plan, hbody] at h
    cases h
  | branch includesPhotos =>
    simp only [plan, hbody] at h
    cases h
  | voucher kind =>
    cases kind with
    | END =>
      simp only [plan, hbody, bind_ok_iff, rejectIf_eq_ok, pure_eq_ok, not_or, Bool.not_eq_true, ne_eq,
        not_not] at h
      obtain ⟨-, ⟨hrmv, hmandatory⟩, -, hactive, -⟩ := h
      exact ⟨hrmv, hmandatory, hactive⟩
    | CHANGE =>
      simp only [plan, hbody, bind_ok_iff, pure_eq_ok] at h
      obtain ⟨-, -, -, -, applied, -, rfl⟩ := h
      exact absurd hwrite (hcolumns applied)

theorem applyEdit_sameOwner {write : Option EntityWrite} (v : Voucher Bag) : SameOwner (applyEdit write v) v := by
  cases write with
  | none => exact ⟨rfl, rfl, rfl⟩
  | some w =>
    cases w with
    | columns data => exact ⟨rfl, rfl, rfl⟩
    | endVoucher => exact ⟨rfl, rfl, rfl⟩

theorem applyEdit_isMandatory {write : Option EntityWrite} (v : Voucher Bag) :
    (applyEdit write v).isMandatory = v.isMandatory := by
  cases write with
  | none => rfl
  | some w =>
    cases w with
    | columns data => rfl
    | endVoucher => rfl

/-- An edit of a flagship leaves its status. -/
theorem applyEdit_flagship {edit : PendingEdit} {planned : Plan} (hplan : plan geo edit (entityOf v) = .ok planned)
    (hrmv : v.isRmv = true) : (applyEdit planned.write v).status = v.status := by
  cases hwrite : planned.write with
  | none => rfl
  | some write =>
    cases write with
    | columns data => rfl
    | endVoucher => cases hrmv.symm.trans (plan_endVoucher hplan hwrite).1

theorem Rewritten.sameOwner (h : Rewritten geo fields templates v a w) : SameOwner w v := by
  cases h with
  | goLive hlive => exact hlive.sameOwner
  | edited hplan => exact applyEdit_sameOwner v
  | _ => exact ⟨rfl, rfl, rfl⟩

theorem Rewritten.isMandatory (h : Rewritten geo fields templates v a w) : w.isMandatory = v.isMandatory := by
  cases h with
  | goLive hlive =>
    cases hlive with
    | flagship _ _ | custom _ _ | same _ _ => rfl
  | edited hplan => exact applyEdit_isMandatory v
  | _ => rfl

/-! ### What an operation does to the table -/

/-- The rows are rewritten and created as the operation does, and the templates stay. -/
structure Steps (geo : Geography ℚ) (fields : RmvFields Bag) (a : Action Bag) (db db' : Db Bag) : Prop where
  vouchers : Evolves (fun v => v.id) (fun v w => Rewritten geo fields db.rmvTemplates v a w)
    (Created fields db.rmvTemplates) db.vouchers db.nextId db'.vouchers db'.nextId
  templates : db'.rmvTemplates = db.rmvTemplates

theorem steps_refl : Steps geo fields a db db := ⟨evolves_refl fun _ _ => .same, rfl⟩

/-- One row is rewritten, the one that the operation has found. -/
theorem steps_updateVoucher {f : Voucher Bag → Voucher Bag} {voucher : Voucher Bag}
    (hn : Numbered (fun v => v.id) db.vouchers db.nextId) (hmem : voucher ∈ db.vouchers)
    (hf : ∀ v, (f v).id = v.id) (h : Rewritten geo fields db.rmvTemplates voucher a (f voucher)) :
    Steps geo fields a db (db.updateVouchers (fun v => v.id = voucher.id) f) := by
  refine ⟨evolves_updateMany hf (fun v hv hid => ?_) fun _ _ => .same, rfl⟩
  have he : v = voucher := hn.keyed.eq hv hmem hid
  exact he ▸ h

theorem Steps.insertVoucher {row : ℕ → Voucher Bag} (h : Steps geo fields a db db')
    (hid : (row db'.nextId).id = db'.nextId) (hrow : Created fields db.rmvTemplates (row db'.nextId)) :
    Steps geo fields a db (db'.insertVoucher row) where
  vouchers := h.vouchers.trans (evolves_concat (R := Eq) hid hrow fun _ _ => rfl) (fun _ _ _ h he => he ▸ h)
    fun _ _ hnew he => he ▸ hnew
  templates := h.templates

theorem Steps.insertDrafts (drafts : List RmvTemplate) {db' : Db Bag} (h : Steps geo fields a db db')
    (hdrafts : ∀ t ∈ drafts, t ∈ db.rmvTemplates) :
    Steps geo fields a db (drafts.foldl (fun db t => db.insertVoucher (draftOf fields merchantId t)) db') := by
  induction drafts generalizing db' with
  | nil => exact h
  | cons t drafts ih =>
    obtain ⟨ht, hdrafts⟩ := List.forall_mem_cons.mp hdrafts
    exact ih (h.insertVoucher rfl (.flagship ht)) hdrafts

theorem provisionRmvVouchers_ok {categoryId : ℕ}
    (h : provisionRmvVouchers fields db merchantId categoryId = .ok db') :
    ∃ drafts : List RmvTemplate, drafts.length = FLAGSHIP_RMV_CAP ∧ (∀ t ∈ drafts, t ∈ db.rmvTemplates) ∧
      db' = drafts.foldl (fun db t => db.insertVoucher (draftOf fields merchantId t)) db := by
  simp only [provisionRmvVouchers, bind_ok_iff, rejectIf_eq_ok, orReject_eq_ok, pure_eq_ok, not_lt] at h
  obtain ⟨-, htwo, -, -, rfl⟩ := h
  exact ⟨_, le_antisymm (List.length_take_le ..) htwo,
    fun t ht => (List.mem_filter.mp (List.mem_of_mem_take ht)).1, rfl⟩

theorem updateVoucher_ok {data : VoucherPatch Bag} (h : updateVoucher fields db adminId voucherId data = .ok db') :
    ∃ merchantId voucher safe, db.findVoucher voucherId merchantId false = some voucher ∧
      checkUpdate fields.toMerchantFields voucher data = .ok safe ∧
      db' = db.updateVouchers (fun v => v.id = voucherId) safe.apply := by
  simp only [updateVoucher, bind_ok_iff, orReject_eq_ok, pure_eq_ok] at h
  obtain ⟨mctx, -, -, -, voucher, hfound, safe, hcheck, rfl⟩ := h
  exact ⟨mctx.merchantId, voucher, safe, hfound, hcheck, rfl⟩

theorem requestVoucherChanges_ok {approvalId : ℕ} {proposed : Option Bag} {note : String} {now : ℤ}
    (h : requestVoucherChanges fields db approvalId adminId proposed note now = .ok db') :
    ∃ approval voucher, db.findReviewed approval = some voucher ∧ voucher.status = .PENDING_APPROVAL ∧
      db' = (db.updateVouchers (fun v => v.id = voucher.id) (returnToDraft
        (fields.withConcierge (voucher.merchantFields.getD fields.empty) proposed note))).updateApproval approvalId
          (AdminApproval.decide .CHANGES_REQUESTED (some note) adminId now) := by
  simp only [requestVoucherChanges, bind_ok_iff, orReject_eq_ok, Voucher.check, rejectIf_eq_ok, pure_eq_ok,
    ne_eq, not_not] at h
  obtain ⟨approval, -, voucher, hfound, -, hpending, rfl⟩ := h
  exact ⟨approval, voucher, hfound, hpending, rfl⟩

theorem approveEdit_ok {approval : AdminApproval} {edit : PendingEdit}
    (h : approveEdit geo db approval edit voucherId = .ok db') :
    ∃ voucher planned, db.vouchers.find? (fun v => v.id = voucherId) = some voucher ∧
      plan geo edit (entityOf voucher) = .ok planned ∧
      db' = db.updateVouchers (fun v => v.id = voucherId) (applyEdit planned.write) := by
  simp only [approveEdit, bind_ok_iff, orReject_eq_ok, pure_eq_ok] at h
  obtain ⟨kind, -, -, -, voucher, hfound, planned, hplan, rfl⟩ := h
  exact ⟨voucher, planned, hfound, hplan, rfl⟩

theorem submitApproval_steps (h : Steps geo fields a db db') :
    Steps geo fields a db (db'.submitApproval voucherId) := by
  rw [Db.submitApproval]
  split
  · exact ⟨h.vouchers, h.templates⟩
  · exact ⟨h.vouchers.skip (Nat.le_succ _), h.templates⟩

theorem activation_steps {a : Activation.Action Bag} (hn : Numbered (fun v => v.id) db.vouchers db.nextId)
    (h : Activation.exec fields db a = some db') : Steps geo fields (.activation a) db db' := by
  cases a with
  | createFlagshipRmvVoucher adminId voucherType =>
    rw [Activation.exec, toOption_eq_some] at h
    obtain ⟨merchantId, template, -, htemplate, rfl⟩ := createFlagshipRmvVoucher_ok h
    exact steps_refl.insertVoucher rfl (.flagship htemplate)
  | handleCategoryChange merchantId newCategoryId confirm =>
    rw [Activation.exec, Option.map_eq_some_iff] at h
    obtain ⟨⟨_, changed⟩, hr, rfl⟩ := h
    rcases handleCategoryChange_ok (toOption_eq_some.mp hr) with rfl | ⟨drafts, -, hdrafts, -, rfl⟩
    · exact steps_refl
    · refine Steps.insertDrafts drafts ⟨?_, rfl⟩ hdrafts
      exact evolves_updateMany (fun _ => rfl) (fun _ _ hp => .putAside hp.1 hp.2) fun _ _ => .same
  | updateRmvVoucherCore merchantId voucherId proposedFields =>
    rw [Activation.exec, toOption_eq_some] at h
    obtain ⟨voucher, update, hfound, hcheck, rfl⟩ := updateRmvVoucherCore_ok h
    obtain ⟨hmem, rfl, hmerchant, hrmv⟩ := find_some hfound
    exact steps_updateVoucher hn hmem (fun _ => rfl) (.updateRmv ⟨hmerchant, hrmv⟩ rfl hcheck)
  | submitRmvVoucherCore merchantId voucherId now =>
    rw [Activation.exec, toOption_eq_some] at h
    obtain ⟨voucher, submission, hfound, hcheck, rfl⟩ := submitRmvVoucherCore_ok h
    obtain ⟨hmem, rfl, hmerchant, hrmv⟩ := find_some hfound
    exact steps_updateVoucher hn hmem (fun _ => rfl) (.submitRmv ⟨hmerchant, hrmv⟩ rfl hcheck)
  | createVoucher adminId data =>
    rw [Activation.exec, toOption_eq_some] at h
    obtain ⟨row, hrow, rfl⟩ := createVoucher_ok h
    obtain ⟨hid, hrmv, hmandatory, hdraft, hbag⟩ := hrow db.nextId
    exact steps_refl.insertVoucher hid (.custom hrmv hmandatory hdraft ⟨_, hbag⟩)
  | submitVoucher adminId voucherId now =>
    rw [Activation.exec, toOption_eq_some] at h
    obtain ⟨merchantId, voucher, bag, hfound, hcheck, rfl⟩ := submitVoucher_ok h
    obtain ⟨hmem, rfl, -, hcustom⟩ := find_some hfound
    refine submitApproval_steps (steps_updateVoucher hn hmem (fun _ => rfl) ?_)
    exact .submit hcustom rfl hcheck
  | approveVoucher approvalId adminId now =>
    rw [Activation.exec, Option.map_eq_some_iff] at h
    obtain ⟨⟨_, goLive⟩, hr, rfl⟩ := h
    obtain ⟨approval, voucher, -, hfound, hpending, -, rfl⟩ := approveVoucher_ok_iff.mp (toOption_eq_some.mp hr)
    obtain ⟨hmem, -, hcustom⟩ := find_some hfound
    have happroved : Steps geo fields (.activation (.approveVoucher approvalId adminId now)) db
        (db.updateVouchers (fun v => v.id = voucher.id) fun v => v.approve adminId now goLive) :=
      steps_updateVoucher hn hmem (fun _ => rfl) (.approve hcustom hpending)
    exact ⟨happroved.vouchers, happroved.templates⟩
  | approveApproval approvalId adminId now =>
    rw [Activation.exec, Option.map_eq_some_iff] at h
    obtain ⟨⟨_, alreadyLive⟩, hr, rfl⟩ := h
    rcases approveApproval_ok (toOption_eq_some.mp hr) with rfl | ⟨merchant, -, -, -, rfl⟩
    · exact steps_refl
    · obtain ⟨g, hmap, hg⟩ := activated_eq_map merchant.id adminId now db.vouchers
      refine ⟨?_, rfl⟩
      show Evolves _ _ _ db.vouchers db.nextId (activated merchant.id adminId now db.vouchers) db.nextId
      rw [hmap]
      exact evolves_map (fun v => (hg v).sameOwner.id) fun v _ => .goLive (hg v)

theorem step_steps (hn : Numbered (fun v => v.id) db.vouchers db.nextId)
    (h : step geo fields db a = some db') : Steps geo fields a db db' := by
  cases Option.some.inj h
  cases hexec : exec geo fields db a with
  | none => exact steps_refl
  | some db' =>
    rw [Option.getD_some]
    cases a with
    | activation a => exact activation_steps hn hexec
    | provisionRmvVouchers merchantId categoryId =>
      obtain ⟨drafts, -, hdrafts, rfl⟩ := provisionRmvVouchers_ok (toOption_eq_some.mp hexec)
      exact Steps.insertDrafts drafts steps_refl hdrafts
    | updateVoucher adminId voucherId data =>
      obtain ⟨merchantId, voucher, safe, hfound, hcheck, rfl⟩ := updateVoucher_ok (toOption_eq_some.mp hexec)
      obtain ⟨hmem, rfl, -, hcustom⟩ := find_some hfound
      exact steps_updateVoucher hn hmem (fun _ => rfl) (.update hcustom hcheck)
    | requestVoucherChanges approvalId adminId proposed note now =>
      obtain ⟨approval, voucher, hfound, hpending, rfl⟩ := requestVoucherChanges_ok (toOption_eq_some.mp hexec)
      obtain ⟨hmem, -, hcustom⟩ := find_some hfound
      have hreturned : Steps geo fields (.requestVoucherChanges approvalId adminId proposed note now) db
          (db.updateVouchers (fun v => v.id = voucher.id) (returnToDraft
            (fields.withConcierge (voucher.merchantFields.getD fields.empty) proposed note))) :=
        steps_updateVoucher hn hmem (fun _ => rfl) (.requestChanges hcustom hpending)
      exact ⟨hreturned.vouchers, hreturned.templates⟩
    | approveEdit approval edit voucherId =>
      obtain ⟨voucher, planned, hfound, hplan, rfl⟩ := approveEdit_ok (toOption_eq_some.mp hexec)
      obtain ⟨hmem, rfl⟩ := find_some hfound
      exact steps_updateVoucher hn hmem (fun v => (applyEdit_sameOwner v).id) (.edited hplan)

/-- Along a run the ids stay distinct. -/
theorem numbered_step (hn : Numbered (fun v => v.id) db.vouchers db.nextId)
    (h : step geo fields db a = some db') : Numbered (fun v => v.id) db'.vouchers db'.nextId :=
  (step_steps hn h).vouchers.numbered hn

end

end Redeemo.VoucherOperations
