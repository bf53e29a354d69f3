import Redeemo.Voucher.Operations

/-! The two slots of a merchant for its flagships.

    A flagship is created mandatory, and takes a slot until it is put aside. The merchant's own creation
    counts the slots, and a change of category empties them first; `provisionRmvVouchers` leaves both to its
    caller. The request to end a voucher is for custom vouchers alone. -/

namespace Redeemo.Slots
open Fallible Rows Runs Records Vouchers Flagship PendingEdits LocationTrust VoucherOperations
open Activation hiding Action exec step

variable {Bag : Type}

/-- The flagships of a merchant that occupy a slot. -/
def occupied (db : Db Bag) (merchantId : ℕ) : ℕ :=
  db.vouchers.countP fun v => FlagshipOf merchantId v ∧ v.status ≠ .INACTIVE ∧ v.status ≠ .EXPIRED

def WithinCap (db : Db Bag) : Prop := ∀ merchantId, occupied db merchantId ≤ FLAGSHIP_RMV_CAP

/-- Two drafts are created for a merchant that has a flagship in a slot. -/
def Overfills (fields : RmvFields Bag) (db : Db Bag) : Action Bag → Prop
  | .provisionRmvVouchers merchantId categoryId =>
    (∃ db', provisionRmvVouchers fields db merchantId categoryId = .ok db') ∧ occupied db merchantId ≠ 0
  | _ => False

/-- An approved edit leaves every flagship in its status. -/
def FlagshipsStay (geo : Geography ℚ) (db : Db Bag) : Action Bag → Prop
  | .approveEdit approval edit voucherId => ∀ db', approveEdit geo db approval edit voucherId = .ok db' →
    ∀ v ∈ db.vouchers, v.isRmv = true → ∃ w ∈ db'.vouchers, w.id = v.id ∧ w.isRmv = true ∧ w.status = v.status
  | _ => True

section
variable {geo : Geography ℚ} {fields : RmvFields Bag} {db db' : Db Bag} {merchantId : ℕ}

/-! ### Mandatory vouchers -/

/-- A voucher is mandatory exactly if it is a flagship. -/
structure Recorded (db : Db Bag) : Prop where
  numbered : Numbered (fun v => v.id) db.vouchers db.nextId
  mandatory : ∀ v ∈ db.vouchers, v.isMandatory = v.isRmv

theorem Recorded.step {a : Action Bag} (h : Recorded db) (hs : step geo fields db a = some db') : Recorded db' where
  numbered := numbered_step h.numbered hs
  mandatory := by
    refine (step_steps h.numbered hs).vouchers.forall h.mandatory (fun v w hv hw => ?_) fun v hv => ?_
    · rw [hw.isMandatory, hw.sameOwner.isRmv]
      exact hv
    · cases hv with
      | flagship htemplate => rfl
      | custom hcustom hmandatory hdraft hbag => exact hmandatory.trans hcustom.symm

/-- Whatever an approved edit writes to a flagship, it is not its status. -/
theorem Recorded.flagshipsStay (h : Recorded db) (a : Action Bag) : FlagshipsStay geo db a := by
  cases a with
  | approveEdit approval edit voucherId =>
    intro db' happrove v hv hrmv
    obtain ⟨voucher, planned, hfound, hplan, rfl⟩ := approveEdit_ok happrove
    obtain ⟨hmem, rfl⟩ := find_some hfound
    by_cases hid : v.id = voucher.id
    · have he : v = voucher := h.numbered.keyed.eq hv hmem hid
      subst he
      have hown : SameOwner (applyEdit planned.write v) v := applyEdit_sameOwner v
      exact ⟨_, mem_updateMany_of_pos hv hid, hown.id, hown.isRmv.trans hrmv, applyEdit_flagship hplan hrmv⟩
    · exact ⟨v, mem_updateMany_of_neg hv hid, rfl, hrmv, rfl⟩
  | _ => trivial

/-! ### The slots -/

theorem mem_slotStatuses_iff {status : VoucherStatus} :
    status ∈ SLOT_STATUSES ↔ status ≠ .INACTIVE ∧ status ≠ .EXPIRED := by
  cases status with
  | DRAFT | PENDING_APPROVAL | ACTIVE | INACTIVE | EXPIRED => decide

/-- The merchant's creation counts the slots by the statuses that take one. -/
theorem occupied_eq_flagshipCount : occupied db merchantId = db.flagshipCount merchantId := by
  simp only [occupied, Db.flagshipCount, mem_slotStatuses_iff]

theorem flagshipCount_insertDrafts (templates : List RmvTemplate) {db : Db Bag} :
    (templates.foldl (fun db t => db.insertVoucher (draftOf fields merchantId t)) db).flagshipCount merchantId =
      db.flagshipCount merchantId + templates.length := by
  induction templates generalizing db with
  | nil => rfl
  | cons t templates ih =>
    have hone : (db.insertVoucher (draftOf fields merchantId t)).flagshipCount merchantId =
        db.flagshipCount merchantId + 1 := by
      rw [Db.flagshipCount, Db.insertVoucher, List.countP_append, List.countP_singleton, if_pos]
      · rfl
      · exact decide_eq_true ⟨⟨rfl, rfl⟩, slot_of_draft rfl⟩
    rw [List.foldl_cons, ih, hone, List.length_cons]
    omega

/-- What a run keeps while no slot is taken twice. -/
structure Filled (db : Db Bag) : Prop where
  recorded : Recorded db
  consistent : Consistent db.IsLive db.vouchers db.nextId

theorem Filled.withinCap (h : Filled db) : WithinCap db := by
  intro merchantId
  rw [occupied_eq_flagshipCount]
  exact h.consistent.cap merchantId

/-- An update of a custom voucher. -/
theorem Filled.updateCustom (h : Filled db) {voucher : Voucher Bag} {f : Voucher Bag → Voucher Bag}
    (hmem : voucher ∈ db.vouchers) (hcustom : voucher.isRmv = false) (hf : ∀ v, SameOwner (f v) v) :
    Consistent db.IsLive (updateMany (fun v => v.id = voucher.id) f db.vouchers) db.nextId := by
  refine h.consistent.updateMany hf fun v hv hid hrmv => ?_
  have he : v = voucher := h.consistent.keyed.eq hv hmem hid
  cases hrmv.symm.trans (he ▸ hcustom)

theorem Filled.step {a : Action Bag} (h : Filled db) (ha : ¬ Overfills fields db a)
    (hs : step geo fields db a = some db') : Filled db' := by
  refine ⟨h.recorded.step hs, ?_⟩
  cases Option.some.inj hs
  cases hexec : exec geo fields db a with
  | none => exact h.consistent
  | some db' =>
    cases a with
    | activation a =>
      have hs' : Activation.step fields db a = some db' := by
        rw [Activation.step, show Activation.exec fields db a = some db' from hexec]
        rfl
      exact (step_ok h.consistent hs').1
    | provisionRmvVouchers merchantId categoryId =>
      have hok := toOption_eq_some.mp hexec
      have hfree : occupied db merchantId = 0 := by
        by_contra hoccupied
        exact ha ⟨⟨db', hok⟩, hoccupied⟩
      obtain ⟨drafts, hlen, -, rfl⟩ := provisionRmvVouchers_ok hok
      refine (insertDrafts_keeps drafts ?_ h.consistent).1
      rw [← occupied_eq_flagshipCount, hfree, hlen, Nat.zero_add]
    | updateVoucher adminId voucherId data =>
      obtain ⟨merchantId, voucher, safe, hfound, -, rfl⟩ := updateVoucher_ok (toOption_eq_some.mp hexec)
      obtain ⟨hmem, rfl, -, hcustom⟩ := find_some hfound
      exact h.updateCustom hmem hcustom fun _ => ⟨rfl, rfl, rfl⟩
    | requestVoucherChanges approvalId adminId proposed note now =>
      obtain ⟨approval, voucher, hfound, -, rfl⟩ := requestVoucherChanges_ok (toOption_eq_some.mp hexec)
      obtain ⟨hmem, -, hcustom⟩ := find_some hfound
      exact h.updateCustom hmem hcustom fun _ => ⟨rfl, rfl, rfl⟩
    | approveEdit approval edit voucherId =>
      obtain ⟨voucher, planned, hfound, hplan, rfl⟩ := approveEdit_ok (toOption_eq_some.mp hexec)
      obtain ⟨hmem, rfl⟩ := find_some hfound
      refine h.consistent.updateMany applyEdit_sameOwner fun v hv hid hrmv => .inr ?_
      have he : v = voucher := h.consistent.keyed.eq hv hmem hid
      subst he
      exact applyEdit_flagship hplan hrmv

theorem not_withinCap_of_overfills {a : Action Bag} (ha : Overfills fields db a)
    (hs : step geo fields db a = some db') : ¬ WithinCap db' := by
  cases a with
  | activation _ | updateVoucher _ _ _ | requestVoucherChanges _ _ _ _ _ | approveEdit _ _ _ => exact ha.elim
  | provisionRmvVouchers merchantId categoryId =>
    obtain ⟨⟨db'', hok⟩, hoccupied⟩ := ha
    have hexec : exec geo fields db (.provisionRmvVouchers merchantId categoryId) = some db'' :=
      toOption_eq_some.mpr hok
    cases Option.some.inj hs
    obtain ⟨drafts, hlen, -, rfl⟩ := provisionRmvVouchers_ok hok
    rw [hexec, Option.getD_some]
    intro hcap
    have hle := hcap merchantId
    rw [occupied_eq_flagshipCount, flagshipCount_insertDrafts, ← occupied_eq_flagshipCount, hlen] at hle
    omega

/-- CORRECT: over any sequence of operations every merchant has its two slots, exactly if no merchant is
    provisioned while a flagship of it occupies one. A voucher is mandatory exactly if it is a flagship, and no
    flagship is ended by an edit, whatever the sequence. -/
theorem flagship_slots (h : Opening db) (actions : List (Action Bag)) :
    (Throughout (step geo fields) WithinCap db actions ↔
        Along (step geo fields) (fun db a => ¬ Overfills fields db a) db actions) ∧
      Throughout (step geo fields) (fun db => ∀ v ∈ db.vouchers, v.isMandatory = v.isRmv) db actions ∧
      Along (step geo fields) (FlagshipsStay geo) db actions := by
  have hconsistent := h.consistent
  have hrecorded : Recorded db := by
    refine ⟨⟨hconsistent.keyed, hconsistent.fresh⟩, ?_⟩
    rw [h.vouchers]
    exact List.forall_mem_nil _
  have hreached : Throughout (step geo fields) Recorded db actions :=
    throughout_of_step (fun _ _ _ hr hs => hr.step hs) hrecorded
  refine ⟨?_, fun xs ys db' he hr => (hreached xs ys db' he hr).mandatory, ?_⟩
  · exact throughout_iff_along_of_kept (K := Filled) (fun _ _ hnone => absurd hnone (Option.some_ne_none _))
      (fun _ _ _ hf ha hs => hf.step ha hs) (fun _ hf => hf.withinCap)
      (fun _ _ _ _ ha hs => not_withinCap_of_overfills (not_not.mp ha) hs) ⟨hrecorded, hconsistent⟩
  · refine along_iff.mpr fun xs a ys db' he hr => ?_
    exact (hreached xs (a :: ys) db' he hr).flagshipsStay a

end

/-! ### Four flagships -/

/-- The bakery is provisioned twice. -/
def provisionedTwice : List (Action Record) := [.provisionRmvVouchers 0 1, .provisionRmvVouchers 0 1]

/-- No branch is far from its postcode's centroid. -/
def oneTown : Geography ℚ := ⟨fun _ _ _ _ => 0, id⟩

theorem four_flagships : Opening opening ∧
    ∃ db, run (step oneTown bakeryFields) opening provisionedTwice = some db ∧ FLAGSHIP_RMV_CAP < occupied db 0 := by
  refine ⟨opening_opening, _, rfl, ?_⟩
  decide +kernel

theorem flagship_slots_provisioned :
    (Throughout (step oneTown bakeryFields) WithinCap opening provisionedTwice ↔
        Along (step oneTown bakeryFields) (fun db a => ¬ Overfills bakeryFields db a) opening provisionedTwice) ∧
      Throughout (step oneTown bakeryFields) (fun db => ∀ v ∈ db.vouchers, v.isMandatory = v.isRmv) opening
        provisionedTwice ∧
      Along (step oneTown bakeryFields) (FlagshipsStay oneTown) opening provisionedTwice :=
  flagship_slots opening_opening _

end Redeemo.Slots
