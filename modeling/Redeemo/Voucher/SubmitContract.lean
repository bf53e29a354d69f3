import Redeemo.Voucher.Operations

/-! The server's marker in a voucher's bag.

    Every voucher is born with the marker, and what callers supply is stripped of its key before it is merged.
    So no operation changes what is under the key, whatever the bags: a marked voucher stays marked, and one
    from before the marker stays as it is. -/

namespace Redeemo.SubmitContract
open Fallible Rows Runs Records Vouchers VoucherReview Flagship SubmitValidation PendingEdits LocationTrust
open VoucherOperations hiding Action
open Activation (Db submitVoucher submitVoucher_ok submitRmvVoucherCore submitRmvVoucherCore_ok opening loavesVoucher
  bakeryFields)

/-- `merchantFields ?? {}`. -/
def bagOf (v : Voucher Record) : Record := v.merchantFields.getD []

/-- What is under the marker's key. -/
def contractOf (v : Voucher Record) : Option Json := (bagOf v).get SUBMIT_CONTRACT_KEY

/-- The voucher is checked strictly. -/
def Marked (v : Voucher Record) : Prop := isStrictSubmitContract (bagOf v) = true

/-- The builder's draft has a mechanic, and the mechanic its fields. -/
def MechanicComplete (type : VoucherType) (bag : Record) : Prop :=
  ∃ mechanic, resolveMechanicType type ((resolveStructuredBag bag).getD []) = some mechanic ∧
    validateMechanic mechanic ((resolveStructuredBag bag).getD []) = []

/-- A marked voucher that a submission lets through has a complete mechanic. -/
def SubmitsStrictly (fields : RmvFields Record) (db : Db Record) : VoucherOperations.Action Record → Prop
  | .activation (.submitVoucher adminId voucherId now) =>
    ∀ db', submitVoucher fields db adminId voucherId now = .ok db' →
    ∀ w ∈ db'.vouchers, w.id = voucherId → Marked w → MechanicComplete w.type (bagOf w)
  | .activation (.submitRmvVoucherCore merchantId voucherId now) =>
    ∀ db', submitRmvVoucherCore fields db merchantId voucherId now = .ok db' →
      ∀ w ∈ db'.vouchers, w.id = voucherId → Marked w → MechanicComplete w.type (bagOf w)
  | _ => True

/-! ### The key of the marker -/

theorem marked_congr {v w : Voucher Record} (h : contractOf w = contractOf v) : Marked w ↔ Marked v := by
  rw [Marked, Marked, isStrictSubmitContract, isStrictSubmitContract, Record.text_congr h]

theorem isStrict_stamp (bag : Record) : isStrictSubmitContract (stampStrictSubmitContract bag) = true := by
  rw [isStrictSubmitContract, decide_eq_true_iff, Record.text, stampStrictSubmitContract, Record.get_spread]
  rfl

/-- What is dropped from a patch does not get into the bag. -/
theorem get_spread_without {key : String} {dropped : List String} (hkey : key ∈ dropped) (bag patch : Record) :
    (bag.spread (patch.without dropped)).get key = bag.get key := by
  rw [Record.get_spread, Record.get_without, if_pos hkey, Option.none_or]

theorem get_mergedBag (bag : Record) (proposed : Option Record) (note : String) :
    (mergedBag bag proposed note).get SUBMIT_CONTRACT_KEY = bag.get SUBMIT_CONTRACT_KEY := by
  have hnote : Record.get SUBMIT_CONTRACT_KEY [("adminNote", .string note)] = none := rfl
  have hproposed (adminProposed : Record) : Record.get SUBMIT_CONTRACT_KEY
      (if 0 < adminProposed.length then [("adminProposed", .object adminProposed)] else []) = none := by
    split_ifs
    · rfl
    · rfl
  rw [mergedBag, Record.get_spread, hnote, Option.none_or, Record.get_spread, hproposed, Option.none_or,
    Record.get_without, if_neg (by decide)]

/-! ### What the operations do with it -/

section
variable {stringify : Record → String} {geo : Geography ℚ} {templates : List RmvTemplate} {v w : Voucher Record}
  {a : VoucherOperations.Action Record}

theorem checkUpdate_contract {data safe : VoucherPatch Record}
    (h : checkUpdate (bagFields stringify).toMerchantFields v data = .ok safe) :
    contractOf (safe.apply v) = contractOf v := by
  simp only [checkUpdate, bind_ok_iff, pure_eq_ok] at h
  obtain ⟨-, -, merchantFields, hmerge, -, -, -, -, -, -, rfl⟩ := h
  cases hpatch : data.merchantFields with
  | none =>
    rw [hpatch] at hmerge
    cases hmerge
    rfl
  | some bag =>
    rw [hpatch] at hmerge
    simp only [mergeFields, bind_ok_iff, pure_eq_ok] at hmerge
    obtain ⟨-, -, rfl⟩ := hmerge
    exact get_spread_without (by decide) _ bag

theorem checkSubmit_contract {bag : Record} {now : ℤ}
    (h : checkSubmit (bagFields stringify).toMerchantFields v = .ok bag) :
    contractOf (v.submit bag now) = contractOf v := by
  simp only [checkSubmit, bind_ok_iff, pure_eq_ok] at h
  obtain ⟨-, -, -, -, -, -, rfl⟩ := h
  exact (Record.get_without _).trans (if_neg (by decide))

theorem checkUpdateRmv_contract {proposedFields : Record} {update : Record × Option (VoucherType × ℕ)}
    (h : checkUpdateRmv (bagFields stringify) templates v proposedFields = .ok update) :
    contractOf (applyUpdateRmv update v) = contractOf v := by
  simp only [checkUpdateRmv, bind_ok_iff, pure_eq_ok] at h
  obtain ⟨-, -, effective, -, -, -, rfl⟩ := h
  exact get_spread_without (by decide) _ proposedFields

theorem rewritten_contract (h : Rewritten geo (bagFields stringify) templates v a w) :
    contractOf w = contractOf v := by
  cases h with
  | same | putAside _ _ | submitRmv _ _ _ | approve _ _ => rfl
  | updateRmv hown hid hcheck => exact checkUpdateRmv_contract hcheck
  | submit hcustom hid hcheck => exact checkSubmit_contract hcheck
  | update hcustom hcheck => exact checkUpdate_contract hcheck
  | requestChanges hcustom hpending => exact get_mergedBag _ _ _
  | goLive hlive =>
    cases hlive with
    | flagship _ _ | custom _ _ | same _ _ => rfl
  | @edited _ _ _ planned hplan =>
    cases hwrite : planned.write with
    | none => rfl
    | some write =>
      cases write with
      | columns _ | endVoucher => rfl

theorem created_marked (h : Created (bagFields stringify) templates v) : Marked v := by
  cases h with
  | flagship htemplate => exact isStrict_stamp []
  | custom hcustom hmandatory hdraft hbag =>
    obtain ⟨bag, hbag⟩ := hbag
    rw [Marked, bagOf, hbag]
    exact isStrict_stamp _

/-! ### What a submission checks of a marked voucher -/

theorem mechanicComplete_of_submittable {voucher : EffectiveVoucher Record} {u : Unit}
    (h : assertVoucherSubmittable voucher = .ok u)
    (hstrict : isStrictSubmitContract (voucher.merchantFields.getD []) = true) :
    MechanicComplete voucher.type (voucher.merchantFields.getD []) := by
  have hmechanic := (List.append_eq_nil_iff.mp (submittable_iff.mp h)).2
  simp only [mechanicErrors, hstrict, true_or, if_true] at hmechanic
  split at hmechanic
  · rename_i mechanic hresolve
    exact ⟨mechanic, hresolve, hmechanic⟩
  · cases hmechanic

/-- The builder's draft is not under the keys that a submission clears. -/
theorem resolveStructuredBag_without (bag : Record) :
    resolveStructuredBag (bag.without ADMIN_OWNED_MERCHANTFIELDS_KEYS) = resolveStructuredBag bag := by
  have hget (key : String) (hkey : key ∉ ADMIN_OWNED_MERCHANTFIELDS_KEYS) :
      (bag.without ADMIN_OWNED_MERCHANTFIELDS_KEYS).get key = bag.get key := by
    rw [Record.get_without, if_neg hkey]
  have hnested := Record.child_congr (hget "merchantFields" (by decide))
  have hdraft := Record.child_congr (hget "draftFields" (by decide))
  have hbuilder := Record.text_congr (hget "builderType" (by decide))
  have hbase := Record.text_congr (hget "baseMechanic" (by decide))
  rw [resolveStructuredBag, resolveStructuredBag, customShape, customShape, hnested, hdraft, hbuilder, hbase]

theorem mechanicComplete_without {type : VoucherType} {bag : Record} :
    MechanicComplete type (bag.without ADMIN_OWNED_MERCHANTFIELDS_KEYS) ↔ MechanicComplete type bag := by
  rw [MechanicComplete, MechanicComplete, resolveStructuredBag_without]

theorem submitVoucher_strictly {db db' : Db Record} {adminId voucherId : ℕ} {now : ℤ}
    (hn : Numbered (fun v => v.id) db.vouchers db.nextId)
    (h : submitVoucher (bagFields stringify) db adminId voucherId now = .ok db') :
    ∀ w ∈ db'.vouchers, w.id = voucherId → Marked w → MechanicComplete w.type (bagOf w) := by
  obtain ⟨merchantId, voucher, bag, hfound, hcheck, rfl⟩ := submitVoucher_ok h
  obtain ⟨hmem, rfl, -, -⟩ := find_some hfound
  have hkeep : ∀ db : Db Record, (db.submitApproval voucher.id).vouchers = db.vouchers := by
    intro db
    rw [Db.submitApproval]
    split
    · rfl
    · rfl
  rw [hkeep]
  refine forall_updateMany.mpr fun v hv => ⟨fun hid _ hmarked => ?_, fun hid hid' => absurd hid' hid⟩
  cases hn.keyed.eq hv hmem hid
  rw [marked_congr (checkSubmit_contract hcheck)] at hmarked
  simp only [checkSubmit, bind_ok_iff, pure_eq_ok] at hcheck
  obtain ⟨-, -, -, -, u, hsubmittable, rfl⟩ := hcheck
  exact mechanicComplete_without.mpr (mechanicComplete_of_submittable hsubmittable hmarked)

theorem submitRmvVoucherCore_strictly {db db' : Db Record} {merchantId voucherId : ℕ} {now : ℤ}
    (hn : Numbered (fun v => v.id) db.vouchers db.nextId)
    (h : submitRmvVoucherCore (bagFields stringify) db merchantId voucherId now = .ok db') :
    ∀ w ∈ db'.vouchers, w.id = voucherId → Marked w → MechanicComplete w.type (bagOf w) := by
  obtain ⟨voucher, submission, hfound, hcheck, rfl⟩ := submitRmvVoucherCore_ok h
  obtain ⟨hmem, rfl, -, -⟩ := find_some hfound
  refine forall_updateMany.mpr fun v hv => ⟨fun hid _ hmarked => ?_, fun hid hid' => absurd hid' hid⟩
  cases hn.keyed.eq hv hmem hid
  simp only [checkSubmitRmv, bind_ok_iff, pure_eq_ok] at hcheck
  obtain ⟨-, -, promoted, -, effective, -, u, hsubmittable, rfl⟩ := hcheck
  exact mechanicComplete_of_submittable hsubmittable hmarked

/-! ### Over a whole run -/

/-- CORRECT: over any sequence of operations, whatever bags the callers supply, a voucher is marked exactly if
    it was, and every voucher that is created is. A marked voucher is submitted only with a complete mechanic. -/
theorem submit_contract_kept {db db' : Db Record} {actions : List (VoucherOperations.Action Record)}
    (hn : Numbered (fun v => v.id) db.vouchers db.nextId)
    (hrun : run (step geo (bagFields stringify)) db actions = some db') :
    (∀ v ∈ db.vouchers, ∃ w ∈ db'.vouchers, w.id = v.id) ∧
      (∀ v ∈ db.vouchers, ∀ w ∈ db'.vouchers, w.id = v.id → (Marked w ↔ Marked v)) ∧
      (∀ w ∈ db'.vouchers, db.nextId ≤ w.id → Marked w) ∧
      Along (step geo (bagFields stringify)) (SubmitsStrictly (bagFields stringify)) db actions := by
  have hevolves : Evolves (fun v => v.id) (fun v w => contractOf w = contractOf v) Marked db.vouchers db.nextId
      db'.vouchers db'.nextId := by
    refine run_relates (I := fun db => Numbered (fun v => v.id) db.vouchers db.nextId)
      (R := fun db db' => Evolves (fun v => v.id) (fun v w => contractOf w = contractOf v) Marked db.vouchers db.nextId
        db'.vouchers db'.nextId) ?_ ?_ ?_ hn hrun
    · exact fun _ => evolves_refl (R := fun v w => contractOf w = contractOf v) fun _ _ => rfl
    · exact fun _ _ _ h h' => h.trans h' (fun _ _ _ hv hw => hw.trans hv) fun _ _ hv hw => (marked_congr hw).mpr hv
    · exact fun _ _ _ hn hs => ⟨numbered_step hn hs,
        (step_steps hn hs).vouchers.mono (fun _ _ h => rewritten_contract h) fun _ h => created_marked h⟩
  have hn' := hevolves.numbered hn
  refine ⟨fun v hv => ?_, fun v hv w hw hid => ?_, fun w hw hnew => ?_, ?_⟩
  · obtain ⟨w, hw, hid, -⟩ := hevolves.stays v hv
    exact ⟨w, hw, hid⟩
  · obtain ⟨w', hw', hid', hcontract⟩ := hevolves.stays v hv
    rw [hn'.keyed.eq hw hw' (hid.trans hid'.symm)]
    exact marked_congr hcontract
  · rcases hevolves.comes w hw with ⟨v, hv, hid, -⟩ | ⟨-, hmarked⟩
    · exact absurd (hn.fresh v hv) (not_lt.mpr (hid ▸ hnew))
    · exact hmarked
  · refine along_iff.mpr fun xs a ys t he hr => ?_
    have ht : Numbered (fun v => v.id) t.vouchers t.nextId :=
      run_invariant (I := fun db => Numbered (fun v => v.id) db.vouchers db.nextId)
        (fun _ _ _ hn hs => numbered_step hn hs) hn hr
    cases a with
    | activation a =>
      cases a with
      | submitVoucher adminId voucherId now => exact fun _ h => submitVoucher_strictly ht h
      | submitRmvVoucherCore merchantId voucherId now => exact fun _ h => submitRmvVoucherCore_strictly ht h
      | _ => trivial
    | _ => trivial

end

/-! ### A caller that writes the marker -/

/-- The bakery creates a voucher with a marker of its own, and then takes the marker out. -/
def tampered : List (VoucherOperations.Action Record) :=
  [.activation (.createVoucher 0
      { loavesVoucher with merchantFields := some [(SUBMIT_CONTRACT_KEY, .string "lenient")] }),
    .updateVoucher 0 1
      ⟨none, none, none, none, none, none, none, none, some [(SUBMIT_CONTRACT_KEY, .null)], none⟩]

example : ((run (step ⟨fun _ _ _ _ => 0, id⟩ bakeryFields) opening tampered).map fun db =>
    db.vouchers.map fun v => isStrictSubmitContract (bagOf v)) = some [true] := by decide +kernel

theorem submit_contract_kept_tampered :
    ∃ db', run (step ⟨fun _ _ _ _ => 0, id⟩ bakeryFields) opening tampered = some db' ∧
      (∀ v ∈ opening.vouchers, ∃ w ∈ db'.vouchers, w.id = v.id) ∧
      (∀ v ∈ opening.vouchers, ∀ w ∈ db'.vouchers, w.id = v.id → (Marked w ↔ Marked v)) ∧
      (∀ w ∈ db'.vouchers, opening.nextId ≤ w.id → Marked w) ∧
      Along (step ⟨fun _ _ _ _ => 0, id⟩ bakeryFields) (SubmitsStrictly bakeryFields) opening tampered :=
  ⟨_, rfl, submit_contract_kept ⟨List.nodup_nil, List.forall_mem_nil _⟩ rfl⟩

end Redeemo.SubmitContract
