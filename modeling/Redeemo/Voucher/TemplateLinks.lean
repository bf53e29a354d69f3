import Redeemo.Voucher.SubmitContract

/-! The template of a draft flagship.

    A draft has the type of its template and, if that is a discount, of the kind of discount that the bag
    names; its bag has the keys that the template allows. A change of the kind links the draft to the
    template of the other type. That template is asked about the keys that are proposed with the change, but
    not about those that are in the bag already. -/

namespace Redeemo.TemplateLinks
open Fallible Rows Runs Records Vouchers Flagship SubmitValidation SubmitContract PendingEdits LocationTrust
open VoucherOperations
open Activation (Db FlagshipOf updateRmvVoucherCore updateRmvVoucherCore_ok checkUpdateRmv_draft)

/-- What the kind of discount implies of the type: nothing, unless the voucher is a discount. -/
def impliedOf (type : VoucherType) (discountKind : Option String) : Option VoucherType :=
  if type ≠ .DISCOUNT_PERCENT ∧ type ≠ .DISCOUNT_FIXED then none else impliedType discountKind

/-- `draft.discountKind`. -/
def discountKindOf (bag : Record) : Option String :=
  (bag.child "merchantFields").bind fun nested => nested.text "discountKind"

structure Coherent (templates : List RmvTemplate) (v : Voucher Record) : Prop where
  linked : ∃ t ∈ templates, v.rmvTemplateId = some t.id ∧ v.type = t.voucherType ∧
    ∀ key ∈ (bagOf v).keys, key ≠ SUBMIT_CONTRACT_KEY → key ∈ t.allowedFields
  implied : ∀ type ∈ impliedOf v.type (discountKindOf (bagOf v)), v.type = type

def DraftsCoherent (db : Db Record) : Prop :=
  ∀ v ∈ db.vouchers, v.isRmv = true → v.status = .DRAFT → Coherent db.rmvTemplates v

/-! ### The template that a draft is linked to anew -/

def currentTemplate (templates : List RmvTemplate) (v : Voucher Record) : Option RmvTemplate :=
  v.rmvTemplateId.bind fun id => templates.find? fun t => t.id = id

/-- The template of the other type, if the kind of discount asks for it. -/
def flipTarget (templates : List RmvTemplate) (v : Voucher Record) (discountKind : Option String) :
    Option RmvTemplate :=
  (impliedOf v.type discountKind).bind fun implied =>
    if implied = v.type then none
    else (currentTemplate templates v).bind fun current => findTemplate templates current.categoryId implied

/-- The bag after a patch. -/
def mergedFields (v : Voucher Record) (proposedFields : Record) : Record :=
  (bagOf v).spread (proposedFields.without [SUBMIT_CONTRACT_KEY])

/-- A draft is linked anew while its bag has a key that the other template forbids. -/
structure KeepsForbidden (templates : List RmvTemplate) (v : Voucher Record) (proposedFields : Record)
    (sibling : RmvTemplate) : Prop where
  draft : v.status = .DRAFT
  flips : flipTarget templates v (discountKindOf (mergedFields v proposedFields)) = some sibling
  proposed : ∀ key ∈ Record.keys (proposedFields.without [SUBMIT_CONTRACT_KEY]), key ∈ sibling.allowedFields
  forbidden : ∃ key ∈ (bagOf v).keys, key ≠ SUBMIT_CONTRACT_KEY ∧ key ∉ sibling.allowedFields

def Strays (db : Db Record) : VoucherOperations.Action Record → Prop
  | .activation (.updateRmvVoucherCore merchantId voucherId proposedFields) =>
    ∃ v ∈ db.vouchers, FlagshipOf merchantId v ∧ v.id = voucherId ∧
      ∃ sibling, KeepsForbidden db.rmvTemplates v proposedFields sibling
  | _ => False

section
variable {stringify : Record → String} {geo : Geography ℚ} {templates : List RmvTemplate} {v w : Voucher Record}
  {a : VoucherOperations.Action Record} {proposedFields : Record} {update : Record × Option (VoucherType × ℕ)}

theorem impliedType_discount {kind : Option String} {type : VoucherType} (h : impliedType kind = some type) :
    type = .DISCOUNT_FIXED ∨ type = .DISCOUNT_PERCENT := by
  unfold impliedType at h
  split at h
  · exact .inl (Option.some.inj h).symm
  · exact .inr (Option.some.inj h).symm
  · cases h

theorem impliedOf_eq_some {type implied : VoucherType} {kind : Option String} (h : impliedOf type kind = some implied) :
    ¬ (type ≠ .DISCOUNT_PERCENT ∧ type ≠ .DISCOUNT_FIXED) ∧ impliedType kind = some implied := by
  rw [impliedOf] at h
  split_ifs at h with hp
  exact ⟨hp, h⟩

/-- The type that is implied implies itself. -/
theorem impliedOf_implied {type implied : VoucherType} {kind : Option String}
    (h : impliedOf type kind = some implied) : impliedOf implied kind = some implied := by
  have himplied := (impliedOf_eq_some h).2
  rw [impliedOf, if_neg, himplied]
  rcases impliedType_discount himplied with rfl | rfl
  · exact fun hp => hp.2 rfl
  · exact fun hp => hp.1 rfl

theorem flipTarget_eq_some {kind : Option String} {sibling : RmvTemplate}
    (h : flipTarget templates v kind = some sibling) : impliedOf v.type kind = some sibling.voucherType ∧
      sibling.voucherType ≠ v.type ∧ sibling ∈ templates ∧ ∃ current, currentTemplate templates v = some current ∧
        findTemplate templates current.categoryId sibling.voucherType = some sibling := by
  rw [flipTarget, Option.bind_eq_some_iff] at h
  obtain ⟨implied, himplied, h⟩ := h
  split_ifs at h with hsame
  obtain ⟨current, hcurrent, hfound⟩ := Option.bind_eq_some_iff.mp h
  obtain ⟨hmem, -, rfl, -⟩ := find_some hfound
  exact ⟨himplied, hsame, hmem, current, hcurrent, hfound⟩

/-- Either the draft keeps its template, or it is linked to the other one. -/
theorem resolveEffectiveTemplate_ok {kind : Option String} {effective : EffectiveTemplate}
    (h : resolveEffectiveTemplate templates v kind = .ok effective) :
    (∀ type ∈ impliedOf v.type kind, v.type = type) ∧
        effective = ⟨none, ((currentTemplate templates v).map RmvTemplate.allowedFields).getD []⟩ ∨
      ∃ sibling, flipTarget templates v kind = some sibling ∧
        effective = ⟨some (sibling.voucherType, sibling.id), sibling.allowedFields⟩ := by
  rw [resolveEffectiveTemplate] at h
  split_ifs at h with hdiscount
  · refine .inl ⟨fun type htype => ?_, (Except.ok.inj h).symm⟩
    exact absurd hdiscount (impliedOf_eq_some htype).1
  · have himplied : impliedOf v.type kind = impliedType kind := if_neg hdiscount
    split at h
    · rename_i hnone
      refine .inl ⟨fun type htype => ?_, (Except.ok.inj h).symm⟩
      cases hnone.symm.trans (himplied.symm.trans htype)
    · rename_i implied hsome
      split_ifs at h with hsame
      · refine .inl ⟨fun type htype => ?_, (Except.ok.inj h).symm⟩
        cases hsome.symm.trans (himplied.symm.trans htype)
        exact hsame.symm
      · simp only [bind_ok_iff, orReject_eq_ok, pure_eq_ok] at h
        obtain ⟨current, hcurrent, sibling, hfound, rfl⟩ := h
        obtain ⟨-, -, htype, -⟩ := find_some hfound
        refine .inr ⟨sibling, ?_, by rw [htype]⟩
        rw [flipTarget, himplied, hsome, Option.bind_some, if_neg hsame,
          show currentTemplate templates v = _ from hcurrent]
        exact hfound

theorem resolveEffectiveTemplate_flip {kind : Option String} {sibling : RmvTemplate}
    (h : flipTarget templates v kind = some sibling) : resolveEffectiveTemplate templates v kind =
      .ok ⟨some (sibling.voucherType, sibling.id), sibling.allowedFields⟩ := by
  obtain ⟨himplied, hne, -, current, hcurrent, hfound⟩ := flipTarget_eq_some h
  obtain ⟨hdiscount, hkind⟩ := impliedOf_eq_some himplied
  rw [resolveEffectiveTemplate, if_neg hdiscount, hkind]
  dsimp only
  rw [if_neg hne]
  exact bind_ok_iff.mpr ⟨current, orReject_eq_ok.mpr hcurrent,
    bind_ok_iff.mpr ⟨sibling, orReject_eq_ok.mpr hfound, rfl⟩⟩

/-! ### What an update makes of a draft -/

theorem checkUpdateRmv_ok (h : checkUpdateRmv (bagFields stringify) templates v proposedFields = .ok update) :
    v.status = .DRAFT ∧ update.1 = mergedFields v proposedFields ∧ ∃ effective,
      resolveEffectiveTemplate templates v (discountKindOf (mergedFields v proposedFields)) = .ok effective ∧
      (∀ key ∈ Record.keys (proposedFields.without [SUBMIT_CONTRACT_KEY]), key ∈ effective.allowedFields) ∧
      update.2 = effective.relink := by
  have hdraft := checkUpdateRmv_draft h
  simp only [checkUpdateRmv, bind_ok_iff, rejectIf_eq_ok, pure_eq_ok, not_exists, not_and, not_not] at h
  obtain ⟨-, -, effective, heffective, -, hkeys, rfl⟩ := h
  exact ⟨hdraft, rfl, effective, heffective, hkeys, rfl⟩

/-- The keys of the bag after a patch that a template allows. -/
theorem mergedFields_allowed {t : RmvTemplate}
    (hold : ∀ key ∈ (bagOf v).keys, key ≠ SUBMIT_CONTRACT_KEY → key ∈ t.allowedFields)
    (hproposed : ∀ key ∈ Record.keys (proposedFields.without [SUBMIT_CONTRACT_KEY]), key ∈ t.allowedFields) :
    ∀ key ∈ (mergedFields v proposedFields).keys, key ≠ SUBMIT_CONTRACT_KEY → key ∈ t.allowedFields := by
  intro key hkey hne
  rcases Record.mem_keys_spread.mp hkey with hkey | hkey
  · exact hold key hkey hne
  · exact hproposed key hkey

/-- A draft that is linked anew without a forbidden key stays coherent. -/
theorem coherent_applyUpdateRmv (hkeyed : Rows.Keyed (fun t : RmvTemplate => t.id) templates)
    (hv : Coherent templates v) (h : checkUpdateRmv (bagFields stringify) templates v proposedFields = .ok update)
    (hkeeps : ∀ sibling, ¬ KeepsForbidden templates v proposedFields sibling) :
    Coherent templates (applyUpdateRmv update v) := by
  obtain ⟨hdraft, hbag, effective, heffective, hproposed, hrelink⟩ := checkUpdateRmv_ok h
  have hbagOf : bagOf (applyUpdateRmv update v) = mergedFields v proposedFields := hbag
  rcases resolveEffectiveTemplate_ok heffective with ⟨himplied, rfl⟩ | ⟨sibling, hflip, rfl⟩
  · obtain ⟨t, ht, hlink, htype, hallowed⟩ := hv.linked
    have hcurrent : currentTemplate templates v = some t := by
      rw [currentTemplate, hlink, Option.bind_some]
      exact (hkeyed.find_iff fun _ hid => hid).mpr ⟨ht, rfl⟩
    rw [hcurrent] at hproposed
    have htype' : (applyUpdateRmv update v).type = v.type := by rw [applyUpdateRmv, relinked, hrelink]; rfl
    refine ⟨⟨t, ht, ?_, htype'.trans htype, ?_⟩, ?_⟩
    · rw [applyUpdateRmv, relinked, hrelink]
      exact hlink
    · rw [hbagOf]
      exact mergedFields_allowed hallowed hproposed
    · rw [hbagOf, htype']
      exact himplied
  · obtain ⟨himplied, -, hmem, -⟩ := flipTarget_eq_some hflip
    have htype' : (applyUpdateRmv update v).type = sibling.voucherType := by
      rw [applyUpdateRmv, relinked, hrelink]
      rfl
    refine ⟨⟨sibling, hmem, ?_, htype', ?_⟩, ?_⟩
    · rw [applyUpdateRmv, relinked, hrelink]
      rfl
    · rw [hbagOf]
      refine mergedFields_allowed (fun key hkey hne => ?_) hproposed
      by_contra hforbidden
      exact hkeeps sibling ⟨hdraft, hflip, hproposed, key, hkey, hne, hforbidden⟩
    · rw [hbagOf, htype', impliedOf_implied himplied]
      exact fun type htype => Option.some.inj htype

/-- And one that is linked anew with a forbidden key does not. -/
theorem KeepsForbidden.accepted {sibling : RmvTemplate} (h : KeepsForbidden templates v proposedFields sibling) :
    checkUpdateRmv (bagFields stringify) templates v proposedFields =
      .ok (mergedFields v proposedFields, some (sibling.voucherType, sibling.id)) := by
  have hresolve := resolveEffectiveTemplate_flip h.flips
  simp only [checkUpdateRmv]
  refine bind_ok_iff.mpr ⟨(), rejectIf_eq_ok.mpr (not_not.mpr h.draft), bind_ok_iff.mpr ⟨_, hresolve, ?_⟩⟩
  refine bind_ok_iff.mpr ⟨(), rejectIf_eq_ok.mpr ?_, rfl⟩
  rintro ⟨key, hkey, hforbidden⟩
  exact hforbidden (h.proposed key hkey)

theorem KeepsForbidden.not_coherent {sibling : RmvTemplate} (h : KeepsForbidden templates v proposedFields sibling)
    (hkeyed : Rows.Keyed (fun t : RmvTemplate => t.id) templates) : ¬ Coherent templates
      (applyUpdateRmv (mergedFields v proposedFields, some (sibling.voucherType, sibling.id)) v) := by
  intro hcoherent
  obtain ⟨t, ht, hlink, -, hallowed⟩ := hcoherent.linked
  obtain ⟨-, -, hmem, -⟩ := flipTarget_eq_some h.flips
  have he : sibling = t := hkeyed.eq hmem ht (Option.some.inj hlink)
  obtain ⟨key, hkey, hne, hforbidden⟩ := h.forbidden
  exact hforbidden (he ▸ hallowed key (Record.mem_keys_spread.mpr (.inl hkey)) hne)

/-! ### What the other operations do -/

/-- Only an ACTIVE voucher is edited. -/
theorem plan_active {edit : PendingEdit} {planned : Plan} (h : plan geo edit (entityOf v) = .ok planned) :
    v.status = .ACTIVE := by
  rw [entityOf] at h
  cases hbody : edit.body with
  | merchant =>
    simp only [plan, hbody] at h
    cases h
  | branch includesPhotos =>
    simp only [plan, hbody] at h
    cases h
  | voucher kind =>
    cases kind with
    | END | CHANGE =>
      simp only [plan, hbody, bind_ok_iff, rejectIf_eq_ok, ne_eq, not_not] at h
      exact h.choose_spec.2.choose_spec.1

theorem coherent_draftOf {merchantId id : ℕ} {template : RmvTemplate} (htemplate : template ∈ templates) :
    Coherent templates (draftOf (bagFields stringify) merchantId template id) where
  linked := by
    refine ⟨template, htemplate, rfl, rfl, fun key hkey hne => ?_⟩
    exact absurd (List.mem_singleton.mp hkey) hne
  implied type htype := by cases (impliedOf_eq_some htype).2

/-- A draft flagship is left as it was, unless an update writes its bag. -/
theorem rewritten_draft (h : Rewritten geo (bagFields stringify) templates v a w) (hrmv : w.isRmv = true)
    (hdraft : w.status = .DRAFT) : w = v ∨ ∃ merchantId voucherId proposedFields update,
      a = .activation (.updateRmvVoucherCore merchantId voucherId proposedFields) ∧ FlagshipOf merchantId v ∧
      v.id = voucherId ∧ checkUpdateRmv (bagFields stringify) templates v proposedFields = .ok update ∧
      w = applyUpdateRmv update v := by
  have hflagship : v.isRmv = true := h.sameOwner.isRmv.symm.trans hrmv
  cases h with
  | same => exact .inl rfl
  | updateRmv hown hid hcheck => exact .inr ⟨_, _, _, _, rfl, hown, hid, hcheck, rfl⟩
  | putAside _ _ | submitRmv _ _ _ => cases hdraft
  | submit hcustom _ _ | approve hcustom _ | update hcustom _ | requestChanges hcustom _ =>
    cases hflagship.symm.trans hcustom
  | goLive hlive =>
    cases hlive with
    | flagship _ _ | custom _ _ => cases hdraft
    | same _ _ => exact .inl rfl
  | edited hplan => cases (plan_active hplan).symm.trans ((applyEdit_flagship hplan hflagship).symm.trans hdraft)

/-! ### Over a whole run -/

structure Linked (db : Db Record) : Prop where
  numbered : Numbered (fun v => v.id) db.vouchers db.nextId
  templates : Rows.Keyed (fun t => t.id) db.rmvTemplates
  drafts : DraftsCoherent db

variable {db db' : Db Record}

theorem Linked.step (h : Linked db) (ha : ¬ Strays db a) (hs : step geo (bagFields stringify) db a = some db') :
    Linked db' := by
  obtain ⟨hvouchers, htemplates⟩ := step_steps h.numbered hs
  refine ⟨hvouchers.numbered h.numbered, htemplates ▸ h.templates, fun w hw hrmv hdraft => ?_⟩
  rw [htemplates]
  rcases hvouchers.comes w hw with ⟨v, hv, -, hrewritten⟩ | ⟨-, hcreated⟩
  · rcases rewritten_draft hrewritten hrmv hdraft with rfl | ⟨_, _, proposedFields, update, rfl, hown, hid, hcheck, rfl⟩
    · exact h.drafts w hv hrmv hdraft
    · refine coherent_applyUpdateRmv h.templates (h.drafts v hv hown.2 (checkUpdateRmv_draft hcheck)) hcheck ?_
      exact fun sibling hkeeps => ha ⟨v, hv, hown, hid, sibling, hkeeps⟩
  · cases hcreated with
    | flagship htemplate => exact coherent_draftOf htemplate
    | custom hcustom _ _ _ => cases hrmv.symm.trans hcustom

theorem not_draftsCoherent_of_strays (h : Linked db) (ha : Strays db a)
    (hs : step geo (bagFields stringify) db a = some db') : ¬ DraftsCoherent db' := by
  cases a with
  | activation a =>
    cases a with
    | updateRmvVoucherCore merchantId voucherId proposedFields =>
      obtain ⟨v, hv, hown, rfl, sibling, hkeeps⟩ := ha
      have hfound : db.findVoucher v.id merchantId true = some v :=
        (h.numbered.keyed.find_iff fun _ hp => hp.1).mpr ⟨hv, rfl, hown.1, hown.2⟩
      have hok : updateRmvVoucherCore (bagFields stringify) db merchantId v.id proposedFields =
          .ok (db.updateVouchers (fun w => w.id = v.id)
            (applyUpdateRmv (mergedFields v proposedFields, some (sibling.voucherType, sibling.id)))) := by
        refine bind_ok_iff.mpr ⟨v, orReject_eq_ok.mpr hfound, bind_ok_iff.mpr ⟨_, hkeeps.accepted, rfl⟩⟩
      have hexec : exec geo (bagFields stringify) db
          (.activation (.updateRmvVoucherCore merchantId v.id proposedFields)) = some _ := toOption_eq_some.mpr hok
      cases Option.some.inj hs
      rw [hexec, Option.getD_some]
      intro hcoherent
      exact hkeeps.not_coherent h.templates
        (hcoherent _ (mem_updateMany_of_pos hv rfl) hown.2 hkeeps.draft)
    | _ => exact ha.elim
  | _ => exact ha.elim

/-- CORRECT: over any sequence of operations every draft flagship is coherent with its template, exactly if no
    update links a draft anew while its bag has a key that the other template forbids. -/
theorem drafts_coherent_iff (hempty : db.vouchers = [])
    (htemplates : Rows.Keyed (fun t => t.id) db.rmvTemplates) (actions : List (VoucherOperations.Action Record)) :
    Throughout (step geo (bagFields stringify)) DraftsCoherent db actions ↔
      Along (step geo (bagFields stringify)) (fun db a => ¬ Strays db a) db actions := by
  have hlinked : Linked db := by
    refine ⟨⟨?_, ?_⟩, htemplates, ?_⟩
    · rw [hempty]
      exact List.nodup_nil
    · rw [hempty]
      exact List.forall_mem_nil _
    · rw [DraftsCoherent, hempty]
      exact List.forall_mem_nil _
  exact throughout_iff_along_of_kept (K := Linked) (fun _ _ hnone => absurd hnone (Option.some_ne_none _))
    (fun _ _ _ hl ha hs => hl.step ha hs) (fun _ hl => hl.drafts)
    (fun _ _ _ hl ha hs => not_draftsCoherent_of_strays hl (not_not.mp ha) hs) hlinked

end

/-! ### A key that stays behind -/

section
open Activation (opening bakeryFields)

def discountTemplate (id : ℕ) (voucherType : VoucherType) (title : String) (allowedFields : List String) :
    RmvTemplate where
  id := id
  categoryId := 0
  voucherType := voucherType
  title := title
  description := "A discount"
  allowedFields := allowedFields
  minimumSaving := 3
  isActive := true

/-- Two discounts, only one of which may have terms. -/
def discounts : Db Record :=
  { opening with rmvTemplates :=
      [discountTemplate 0 .DISCOUNT_FIXED "Money off" ["title", "estimatedSaving", "merchantFields", "terms"],
        discountTemplate 1 .DISCOUNT_PERCENT "Percentage off" ["title", "estimatedSaving", "merchantFields"]] }

/-- The merchant gives a fixed discount terms, and then makes it a percentage. -/
def flipped : List (VoucherOperations.Action Record) :=
  [.activation (.createFlagshipRmvVoucher 0 .DISCOUNT_FIXED),
    .activation (.updateRmvVoucherCore 0 1 [("terms", .string "Not on weekends")]),
    .activation (.updateRmvVoucherCore 0 1 [("merchantFields", .object [("discountKind", .string "percent")])])]

/-- The voucher has terms, and is linked to the template that forbids them. -/
theorem forbidden_key_kept : discounts.vouchers = [] ∧ Rows.Keyed (fun t => t.id) discounts.rmvTemplates ∧
    ∃ db, run (step ⟨fun _ _ _ _ => 0, id⟩ bakeryFields) discounts flipped = some db ∧ ¬ DraftsCoherent db := by
  refine ⟨rfl, by decide, _, rfl, fun hcoherent => ?_⟩
  have hkept : ∃ v ∈ ((run (step ⟨fun _ _ _ _ => 0, id⟩ bakeryFields) discounts flipped).getD discounts).vouchers,
      v.isRmv = true ∧ v.status = .DRAFT ∧ ∀ t ∈ discounts.rmvTemplates, v.rmvTemplateId = some t.id →
        ∃ key ∈ (bagOf v).keys, key ≠ SUBMIT_CONTRACT_KEY ∧ key ∉ t.allowedFields := by decide +kernel
  obtain ⟨v, hv, hrmv, hdraft, hforbidden⟩ := hkept
  obtain ⟨t, ht, hlink, -, hallowed⟩ := (hcoherent v hv hrmv hdraft).linked
  obtain ⟨key, hkey, hne, hno⟩ := hforbidden t ht hlink
  exact hno (hallowed key hkey hne)

theorem drafts_coherent_iff_flipped :
    Throughout (step ⟨fun _ _ _ _ => 0, id⟩ bakeryFields) DraftsCoherent discounts flipped ↔
      Along (step ⟨fun _ _ _ _ => 0, id⟩ bakeryFields) (fun db a => ¬ Strays db a) discounts flipped :=
  drafts_coherent_iff rfl (by decide) flipped

end

end Redeemo.TemplateLinks
