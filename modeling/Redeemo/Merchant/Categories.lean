import Redeemo.Voucher.Activation

/-! The category of a merchant, which is kept twice: as a column, and as the primary row of `MerchantCategory`.

    `setMerchantIdentityCore` writes both. `setMerchantCategoryCore` and `handleCategoryChange` write the column and
    provision the flagships of the category, and leave the rows alone. -/

namespace Redeemo.MerchantCategories
open Fallible Rows Runs Vouchers Flagship Onboarding
open Activation (Db Failure FlagshipOf putAside withCategory handleCategoryChange)

structure MerchantCategory where
  merchantId : ℕ
  categoryId : ℕ
  isPrimary : Bool
  deriving DecidableEq, Repr

structure SubcategoryTag where
  subcategoryId : ℕ
  tagId : ℕ
  isPrimaryEligible : Bool
  deriving DecidableEq, Repr

structure MerchantTag where
  merchantId : ℕ
  tagId : ℕ
  deriving DecidableEq, Repr

structure Store (Bag : Type) where
  db : Db Bag
  merchantCategories : List MerchantCategory
  merchantTags : List MerchantTag
  subcategoryTags : List SubcategoryTag
  /-- A column of the merchant. -/
  primaryDescriptorTagId : ℕ → Option ℕ

structure Identity where
  subcategoryId : ℕ
  primaryDescriptorTagId : Option ℕ
  specialtyTagIds : List ℕ

variable {Bag : Type}

/-! ### The column and the flagships -/

/-- `rmvTemplate.findMany`, of the top-level parent. -/
def templatesFor (db : Db Bag) (categoryId : ℕ) : List RmvTemplate :=
  (db.rmvTemplates.filter fun t =>
    t.categoryId = resolveTopLevelCategoryId db.categories categoryId ∧ t.isActive = true).take 2

/-- The column, and a draft of each template. -/
def provisioned (fields : RmvFields Bag) (db : Db Bag) (merchantId categoryId : ℕ) : Db Bag :=
  (templatesFor db categoryId).foldl (fun db t => db.insertVoucher (draftOf fields merchantId t))
    (db.updateMerchants (fun m => m.id = merchantId) (withCategory categoryId))

def discardDrafts (db : Db Bag) (merchantId : ℕ) : Db Bag :=
  db.updateVouchers (fun v => FlagshipOf merchantId v ∧ v.status = .DRAFT) putAside

inductive CategoryResult
  | provisioned | unchanged | requiresConfirmation | changed
  deriving DecidableEq, Repr

def changeResult (changed : Bool) : CategoryResult := if changed = true then .changed else .requiresConfirmation

def setMerchantCategoryCore (fields : RmvFields Bag) (db : Db Bag) (merchantId newCategoryId : ℕ) (confirm : Bool) :
    Except Failure (Db Bag × CategoryResult) := do
  let merchant ← orReject (db.findMerchant merchantId) (.app .MERCHANT_NOT_FOUND)
  match merchant.primaryCategoryId with
  | none =>
    (do
      rejectIf (∀ c ∈ db.categories, c.id ≠ newCategoryId) .P2003
      rejectIf ((templatesFor db newCategoryId).length < 2) (.app .NO_RMV_TEMPLATE)
      return (provisioned fields db merchantId newCategoryId, .provisioned))
  | some current =>
    if current = newCategoryId then return (db, .unchanged)
    else
      let (db', changed) ← handleCategoryChange fields db merchantId newCategoryId confirm
      return (db', changeResult changed)

/-! ### The identity -/

/-- Every tag is linked to the subcategory, and the descriptor is eligible for that. -/
def checkTags (links : List SubcategoryTag) (identity : Identity) : Except AppError Unit := do
  let eligible (tagId : ℕ) : Option Bool :=
    (links.find? fun l => l.subcategoryId = identity.subcategoryId ∧ l.tagId = tagId).map
      SubcategoryTag.isPrimaryEligible
  rejectIf (∃ tagId ∈ identity.primaryDescriptorTagId.toList ++ identity.specialtyTagIds, eligible tagId = none)
    .TAG_NOT_ELIGIBLE
  rejectIf (∃ tagId ∈ identity.primaryDescriptorTagId, eligible tagId ≠ some true) .TAG_NOT_ELIGIBLE

/-- The parents of the subcategory and of the merchant's category, if it has one, are not the same. -/
def topLevelChanged (categories : List Category) (current : Option ℕ) (subcategoryId : ℕ) : Prop :=
  ∃ c ∈ current, c ≠ subcategoryId ∧
    resolveTopLevelCategoryId categories subcategoryId ≠ resolveTopLevelCategoryId categories c

instance (categories : List Category) (current : Option ℕ) (subcategoryId : ℕ) :
    Decidable (topLevelChanged categories current subcategoryId) :=
  inferInstanceAs (Decidable (∃ c ∈ current, c ≠ subcategoryId ∧
    resolveTopLevelCategoryId categories subcategoryId ≠ resolveTopLevelCategoryId categories c))

def RowOf (merchantId categoryId : ℕ) (r : MerchantCategory) : Prop :=
  r.merchantId = merchantId ∧ r.categoryId = categoryId

instance (merchantId categoryId : ℕ) : DecidablePred (RowOf merchantId categoryId) :=
  fun r => inferInstanceAs (Decidable (r.merchantId = merchantId ∧ r.categoryId = categoryId))

def demote (r : MerchantCategory) : MerchantCategory := { r with isPrimary := false }

def promote (r : MerchantCategory) : MerchantCategory := { r with isPrimary := true }

/-- `merchantCategory.updateMany` and then `merchantCategory.upsert`. -/
def makePrimary (rows : List MerchantCategory) (merchantId categoryId : ℕ) : List MerchantCategory :=
  let demoted := updateMany (fun r => r.merchantId = merchantId) demote rows
  if ∃ r ∈ demoted, RowOf merchantId categoryId r then updateMany (RowOf merchantId categoryId) promote demoted
  else demoted ++ [⟨merchantId, categoryId, true⟩]

/-- `deleteMany` and `createMany`. -/
def replaceTags (tags : List MerchantTag) (merchantId : ℕ) (tagIds : List ℕ) : List MerchantTag :=
  tags.filter (fun t => t.merchantId ≠ merchantId) ++ tagIds.eraseDups.map fun tagId => ⟨merchantId, tagId⟩

def setMerchantIdentityCore (s : Store Bag) (merchantId : ℕ) (identity : Identity) :
    Except AppError (Store Bag) := do
  let merchant ← orReject (s.db.findMerchant merchantId) .MERCHANT_NOT_FOUND
  rejectIf (¬ isDraftWindow merchant.toMerchant) .IDENTITY_EDIT_REQUIRES_DRAFT
  let subcategory ← orReject (s.db.categories.find? fun c => c.id = identity.subcategoryId) .CATEGORY_NOT_FOUND
  rejectIf (subcategory.parentId = none) .NOT_A_SUBCATEGORY
  checkTags s.subcategoryTags identity
  let discarded :=
    if topLevelChanged s.db.categories merchant.primaryCategoryId identity.subcategoryId then
      discardDrafts s.db merchantId
    else s.db
  return {
    db := discarded.updateMerchants (fun m => m.id = merchantId) (withCategory identity.subcategoryId)
    merchantCategories := makePrimary s.merchantCategories merchantId identity.subcategoryId
    merchantTags := replaceTags s.merchantTags merchantId identity.specialtyTagIds
    subcategoryTags := s.subcategoryTags
    primaryDescriptorTagId := Function.update s.primaryDescriptorTagId merchantId identity.primaryDescriptorTagId }

/-! ### Runs -/

/-- An operation on one merchant. -/
inductive Action
  | setMerchantCategoryCore (newCategoryId : ℕ) (confirm : Bool)
  | setMerchantIdentityCore (identity : Identity)
  | handleCategoryChange (newCategoryId : ℕ) (confirm : Bool)

def exec (fields : RmvFields Bag) (merchantId : ℕ) (s : Store Bag) : Action → Option (Store Bag)
  | .setMerchantCategoryCore newCategoryId confirm =>
    (setMerchantCategoryCore fields s.db merchantId newCategoryId confirm).toOption.map fun r => { s with db := r.1 }
  | .setMerchantIdentityCore identity => (setMerchantIdentityCore s merchantId identity).toOption
  | .handleCategoryChange newCategoryId confirm =>
    (handleCategoryChange fields s.db merchantId newCategoryId confirm).toOption.map fun r => { s with db := r.1 }

/-- An operation that throws leaves the tables as they were. -/
def step (fields : RmvFields Bag) (merchantId : ℕ) (s : Store Bag) (a : Action) : Option (Store Bag) :=
  some ((exec fields merchantId s a).getD s)

/-- The rows that say which category is the merchant's primary one. -/
def Store.primaryRows (s : Store Bag) (merchantId : ℕ) : List MerchantCategory :=
  s.merchantCategories.filter fun r => r.merchantId = merchantId ∧ r.isPrimary = true

def Store.primaryCategoryId (s : Store Bag) (merchantId : ℕ) : Option ℕ :=
  (s.db.findMerchant merchantId).bind OnboardingMerchant.primaryCategoryId

/-- The voucher's template is one of the category's top-level parent. -/
def LinkedTo (db : Db Bag) (categoryId : ℕ) (v : Voucher Bag) : Prop :=
  ∃ t ∈ db.rmvTemplates, v.rmvTemplateId = some t.id ∧
    t.categoryId = resolveTopLevelCategoryId db.categories categoryId

structure Coherent (merchantId : ℕ) (s : Store Bag) : Prop where
  primary : ∀ c ∈ s.primaryCategoryId merchantId, s.primaryRows merchantId = [⟨merchantId, c, true⟩]
  linked : ∀ c ∈ s.primaryCategoryId merchantId, ∀ v ∈ s.db.vouchers, FlagshipOf merchantId v → v.status ≠ .INACTIVE →
    LinkedTo s.db c v

/-! ### What an operation writes -/

structure Provisions (db : Db Bag) (merchantId categoryId : ℕ) : Prop where
  merchant : ∃ merchant, db.findMerchant merchantId = some merchant
  category : ∃ c ∈ db.categories, c.id = categoryId
  templates : 2 ≤ (templatesFor db categoryId).length

/-- A category change is applied. -/
structure Changes (db : Db Bag) (merchantId categoryId : ℕ) (confirm : Bool) : Prop
    extends Provisions db merchantId categoryId where
  confirmed : confirm = true
  unsubmitted : ∀ v ∈ db.vouchers, FlagshipOf merchantId v → ¬ Submitted v

/-- A first category is set. -/
structure Sets (s : Store Bag) (merchantId categoryId : ℕ) : Prop extends Provisions s.db merchantId categoryId where
  first : s.primaryCategoryId merchantId = none

/-- The operation writes the column, and not the rows. -/
def WritesColumn (s : Store Bag) (merchantId categoryId : ℕ) : Action → Prop
  | .setMerchantCategoryCore newCategoryId confirm => newCategoryId = categoryId ∧ (Sets s merchantId categoryId ∨
      (∃ c ∈ s.primaryCategoryId merchantId, c ≠ categoryId) ∧ Changes s.db merchantId categoryId confirm)
  | .handleCategoryChange newCategoryId confirm =>
    newCategoryId = categoryId ∧ Changes s.db merchantId categoryId confirm
  | .setMerchantIdentityCore _ => False

/-- The identity is written. -/
structure Accepts (s : Store Bag) (merchantId : ℕ) (identity : Identity) : Prop where
  window : ∃ merchant, s.db.findMerchant merchantId = some merchant ∧ isDraftWindow merchant.toMerchant
  subcategory : ∃ c, (s.db.categories.find? fun c => c.id = identity.subcategoryId) = some c ∧ c.parentId ≠ none
  tags : checkTags s.subcategoryTags identity = .ok ()

def TopLevelChanged (s : Store Bag) (merchantId : ℕ) (identity : Identity) : Prop :=
  topLevelChanged s.db.categories (s.primaryCategoryId merchantId) identity.subcategoryId

/-- An operation that breaks the coherence: it writes the column where the rows do not say so already, or the identity
    goes to another parent while a flagship is submitted. -/
def Strays (merchantId : ℕ) (s : Store Bag) (a : Action) : Prop :=
  (∃ c, WritesColumn s merchantId c a ∧ s.primaryRows merchantId ≠ [⟨merchantId, c, true⟩]) ∨
    ∃ identity, a = .setMerchantIdentityCore identity ∧ Accepts s merchantId identity ∧
      TopLevelChanged s merchantId identity ∧ ∃ v ∈ s.db.vouchers, FlagshipOf merchantId v ∧ Submitted v

section
variable {fields : RmvFields Bag} {db db' : Db Bag} {s s' : Store Bag} {merchantId categoryId : ℕ} {confirm changed : Bool}
  {a : Action} {identity : Identity} {v : Voucher Bag}

theorem handleCategoryChange_changed (h : Changes db merchantId categoryId confirm) :
    handleCategoryChange fields db merchantId categoryId confirm =
      .ok (provisioned fields (discardDrafts db merchantId) merchantId categoryId, true) := by
  obtain ⟨merchant, hmerchant⟩ := h.merchant
  obtain ⟨c, hc, hid⟩ := h.category
  have hnot : ¬ ∃ v ∈ db.vouchers, FlagshipOf merchantId v ∧ Submitted v := by
    rintro ⟨v, hv, hown, hs⟩
    exact h.unsubmitted v hv hown hs
  have htwo : ¬ (templatesFor db categoryId).length < 2 := not_lt.mpr h.templates
  simp only [handleCategoryChange, bind_ok_iff]
  refine ⟨(), rejectIf_eq_ok.mpr hnot, ?_⟩
  rw [if_neg (by rw [h.confirmed]; exact Bool.noConfusion)]
  simp only [bind_ok_iff]
  exact ⟨merchant, orReject_eq_ok.mpr hmerchant, (), rejectIf_eq_ok.mpr fun hno => hno c hc hid, (),
    rejectIf_eq_ok.mpr htwo, rfl⟩

theorem handleCategoryChange_same (h : handleCategoryChange fields db merchantId categoryId confirm = .ok (db', changed))
    (hn : ¬ Changes db merchantId categoryId confirm) : db' = db := by
  simp only [handleCategoryChange, bind_ok_iff, rejectIf_eq_ok] at h
  obtain ⟨_, hsubmitted, h⟩ := h
  split_ifs at h with hconfirm
  · cases h
    rfl
  · simp only [bind_ok_iff, rejectIf_eq_ok, orReject_eq_ok] at h
    obtain ⟨merchant, hmerchant, _, hcategory, _, htwo, -⟩ := h
    refine absurd ⟨⟨⟨merchant, hmerchant⟩, ?_, not_lt.mp htwo⟩, ?_, fun v hv hown hs => hsubmitted ⟨v, hv, hown, hs⟩⟩ hn
    · by_contra hno
      exact hcategory fun c hc hid => hno ⟨c, hc, hid⟩
    · exact Bool.not_eq_false _ ▸ hconfirm

/-- The flagships that a change finds as drafts are put aside first; the first category finds none. -/
def discardedFor (s : Store Bag) (merchantId : ℕ) : Action → Db Bag
  | .setMerchantCategoryCore _ _ =>
    if s.primaryCategoryId merchantId = none then s.db else discardDrafts s.db merchantId
  | _ => discardDrafts s.db merchantId

theorem primaryCategoryId_of_find {merchant : OnboardingMerchant} (h : s.db.findMerchant merchantId = some merchant) :
    s.primaryCategoryId merchantId = merchant.primaryCategoryId := by
  rw [Store.primaryCategoryId, h, Option.bind_some]

theorem step_writes (h : WritesColumn s merchantId categoryId a) : step fields merchantId s a =
    some { s with db := provisioned fields (discardedFor s merchantId a) merchantId categoryId } := by
  cases a with
  | setMerchantIdentityCore identity => exact h.elim
  | handleCategoryChange newCategoryId confirm =>
    obtain ⟨rfl, hc⟩ := h
    rw [step, exec, handleCategoryChange_changed hc]
    rfl
  | setMerchantCategoryCore newCategoryId confirm =>
    obtain ⟨rfl, hsets | ⟨⟨c, hcurrent, hne⟩, hc⟩⟩ := h
    · obtain ⟨merchant, hmerchant⟩ := hsets.merchant
      obtain ⟨row, hrow, hid⟩ := hsets.category
      have hnone := hsets.first
      have hcat : ¬ ∀ c ∈ s.db.categories, c.id ≠ newCategoryId := fun hno => hno row hrow hid
      have htwo := not_lt.mpr hsets.templates
      rw [discardedFor, if_pos hnone]
      rw [primaryCategoryId_of_find hmerchant] at hnone
      have hok : setMerchantCategoryCore fields s.db merchantId newCategoryId confirm =
          .ok (provisioned fields s.db merchantId newCategoryId, .provisioned) := by
        simp only [setMerchantCategoryCore, hmerchant, orReject_some_bind, hnone]
        exact bind_ok_iff.mpr ⟨(), rejectIf_eq_ok.mpr hcat, bind_ok_iff.mpr ⟨(), rejectIf_eq_ok.mpr htwo, rfl⟩⟩
      rw [step, exec, hok]
      rfl
    · obtain ⟨merchant, hmerchant⟩ := hc.merchant
      have hsome : s.primaryCategoryId merchantId = some c := hcurrent
      rw [discardedFor, if_neg (by rw [hsome]; exact Option.some_ne_none _)]
      rw [primaryCategoryId_of_find hmerchant] at hsome
      have hok : setMerchantCategoryCore fields s.db merchantId newCategoryId confirm =
          .ok (provisioned fields (discardDrafts s.db merchantId) merchantId newCategoryId, .changed) := by
        simp only [setMerchantCategoryCore, hmerchant, orReject_some_bind, hsome, if_neg hne]
        exact bind_ok_iff.mpr ⟨_, handleCategoryChange_changed hc, rfl⟩
      rw [step, exec, hok]
      rfl

/-- The store after the identity is written. -/
def identified (s : Store Bag) (merchantId : ℕ) (identity : Identity) : Store Bag where
  db := (if topLevelChanged s.db.categories (s.primaryCategoryId merchantId) identity.subcategoryId then
      discardDrafts s.db merchantId
    else s.db).updateMerchants (fun m => m.id = merchantId) (withCategory identity.subcategoryId)
  merchantCategories := makePrimary s.merchantCategories merchantId identity.subcategoryId
  merchantTags := replaceTags s.merchantTags merchantId identity.specialtyTagIds
  subcategoryTags := s.subcategoryTags
  primaryDescriptorTagId := Function.update s.primaryDescriptorTagId merchantId identity.primaryDescriptorTagId

theorem setMerchantIdentityCore_ok :
    setMerchantIdentityCore s merchantId identity = .ok s' ↔
      Accepts s merchantId identity ∧ s' = identified s merchantId identity := by
  simp only [setMerchantIdentityCore, bind_ok_iff, orReject_eq_ok, rejectIf_eq_ok, not_not, pure_eq_ok]
  constructor
  · rintro ⟨merchant, hmerchant, _, hwindow, c, hc, _, hparent, _, htags, rfl⟩
    refine ⟨⟨⟨merchant, hmerchant, hwindow⟩, ⟨c, hc, hparent⟩, htags⟩, ?_⟩
    rw [identified, primaryCategoryId_of_find hmerchant]
  · rintro ⟨⟨⟨merchant, hmerchant, hwindow⟩, ⟨c, hc, hparent⟩, htags⟩, rfl⟩
    refine ⟨merchant, hmerchant, (), hwindow, c, hc, (), hparent, (), htags, ?_⟩
    rw [identified, primaryCategoryId_of_find hmerchant]

theorem step_accepts (h : Accepts s merchantId identity) :
    step fields merchantId s (.setMerchantIdentityCore identity) = some (identified s merchantId identity) := by
  rw [step, exec, setMerchantIdentityCore_ok.mpr ⟨h, rfl⟩]
  rfl

/-- Every other operation leaves the tables. -/
theorem step_same (hw : ∀ c, ¬ WritesColumn s merchantId c a)
    (hi : ∀ identity, a = .setMerchantIdentityCore identity → ¬ Accepts s merchantId identity) :
    step fields merchantId s a = some s := by
  have hexec : ∀ s' ∈ exec fields merchantId s a, s' = s := by
    intro s' hs
    cases a with
    | setMerchantIdentityCore identity =>
      exact absurd (setMerchantIdentityCore_ok.mp (toOption_eq_some.mp hs)).1 (hi identity rfl)
    | handleCategoryChange newCategoryId confirm =>
      obtain ⟨⟨db', changed⟩, hr, rfl⟩ := Option.map_eq_some_iff.mp hs
      rw [handleCategoryChange_same (toOption_eq_some.mp hr) fun hc => hw newCategoryId ⟨rfl, hc⟩]
    | setMerchantCategoryCore newCategoryId confirm =>
      obtain ⟨⟨db', result⟩, hr, rfl⟩ := Option.map_eq_some_iff.mp hs
      obtain ⟨merchant, hmerchant, h⟩ := bind_ok_iff.mp (toOption_eq_some.mp hr)
      have hmerchant := orReject_eq_ok.mp hmerchant
      have hcolumn := primaryCategoryId_of_find hmerchant
      split at h
      · next hnone =>
        simp only [bind_ok_iff, rejectIf_eq_ok, not_lt] at h
        obtain ⟨_, hcategory, _, htwo, -⟩ := h
        refine absurd ⟨rfl, .inl ⟨⟨⟨merchant, hmerchant⟩, ?_, htwo⟩, hcolumn.trans hnone⟩⟩ (hw newCategoryId)
        by_contra hno
        exact hcategory fun c hc hid => hno ⟨c, hc, hid⟩
      · next current hsome =>
        split_ifs at h with heq
        · cases h
          rfl
        · obtain ⟨⟨db'', changed⟩, hchange, he⟩ := bind_ok_iff.mp h
          cases he
          dsimp only
          rw [handleCategoryChange_same hchange fun hc =>
            hw newCategoryId ⟨rfl, .inr ⟨⟨current, hcolumn.trans hsome, heq⟩, hc⟩⟩]
  rw [step]
  cases he : exec fields merchantId s a with
  | none => rfl
  | some s' => rw [hexec s' he, Option.getD_some]

/-! ### What is kept -/

/-- What holds of a merchant's tables besides: the keys are unique, no flagship expires, and there is none in use before
    there is a category. -/
structure Books (merchantId : ℕ) (s : Store Bag) : Prop where
  merchants : Rows.Keyed (fun m => m.id) s.db.merchants
  templates : Rows.Keyed (fun t => t.id) s.db.rmvTemplates
  rows : Rows.Keyed (fun r => (r.merchantId, r.categoryId)) s.merchantCategories
  unexpired : ∀ v ∈ s.db.vouchers, FlagshipOf merchantId v → v.status ≠ .EXPIRED
  uncategorised : s.primaryCategoryId merchantId = none → ∀ v ∈ s.db.vouchers, FlagshipOf merchantId v →
    v.status = .INACTIVE
  coherent : Coherent merchantId s

/-- What the drafts of some templates add to the tables. -/
structure Drafted (fields : RmvFields Bag) (merchantId : ℕ) (templates : List RmvTemplate) (db db' : Db Bag) :
    Prop where
  merchants : db'.merchants = db.merchants
  categories : db'.categories = db.categories
  rmvTemplates : db'.rmvTemplates = db.rmvTemplates
  vouchers : ∀ v ∈ db'.vouchers, v ∈ db.vouchers ∨ ∃ t ∈ templates, ∃ id, v = draftOf fields merchantId t id

variable (fields merchantId) in
theorem drafted_foldl (templates : List RmvTemplate) (db : Db Bag) : Drafted fields merchantId templates db
    (templates.foldl (fun db t => db.insertVoucher (draftOf fields merchantId t)) db) := by
  induction templates generalizing db with
  | nil => exact ⟨rfl, rfl, rfl, fun v hv => .inl hv⟩
  | cons t templates ih =>
    obtain ⟨hm, hc, ht, hv⟩ := ih (db.insertVoucher (draftOf fields merchantId t))
    refine ⟨hm, hc, ht, fun v hmem => ?_⟩
    rcases hv v hmem with hmem | ⟨t', ht', hdraft⟩
    · rcases List.mem_append.mp hmem with hmem | hmem
      · exact .inl hmem
      · exact .inr ⟨t, List.mem_cons_self .., _, List.mem_singleton.mp hmem⟩
    · exact .inr ⟨t', List.mem_cons_of_mem _ ht', hdraft⟩

theorem findMerchant_withCategory (hex : ∃ merchant, db.findMerchant merchantId = some merchant) :
    ((db.updateMerchants (fun m => m.id = merchantId) (withCategory categoryId)).findMerchant merchantId).bind
      OnboardingMerchant.primaryCategoryId = some categoryId := by
  obtain ⟨merchant, hmerchant⟩ := hex
  have hid := (find_some hmerchant).2
  have hfind : (db.updateMerchants (fun m => m.id = merchantId) (withCategory categoryId)).findMerchant merchantId =
      (db.findMerchant merchantId).map fun m => if m.id = merchantId then withCategory categoryId m else m :=
    find_updateMany fun _ => rfl
  rw [hfind, hmerchant, Option.map_some, Option.bind_some, if_pos hid]
  rfl

/-- Of the flagships put aside as drafts, what is left was not a draft. -/
theorem mem_discardDrafts (h : v ∈ (discardDrafts db merchantId).vouchers) (hown : FlagshipOf merchantId v)
    (hs : v.status ≠ .INACTIVE) : v ∈ db.vouchers ∧ v.status ≠ .DRAFT := by
  obtain ⟨w, hw, ⟨-, rfl⟩ | ⟨hnot, rfl⟩⟩ := mem_updateMany.mp h
  · exact absurd rfl hs
  · exact ⟨hw, fun hdraft => hnot ⟨hown, hdraft⟩⟩

/-- A flagship is put aside, a draft, or submitted. -/
theorem inactive_of_not (hs : ¬ Submitted v) (hd : v.status ≠ .DRAFT) (he : v.status ≠ .EXPIRED) :
    v.status = .INACTIVE := by
  rw [Submitted, not_or] at hs
  cases hv : v.status with
  | INACTIVE => rfl
  | DRAFT => exact absurd hv hd
  | EXPIRED => exact absurd hv he
  | PENDING_APPROVAL => exact absurd hv hs.1
  | ACTIVE => exact absurd hv hs.2

variable (fields merchantId) in
theorem linkedTo_draftOf {t : RmvTemplate} (id : ℕ) (ht : t ∈ templatesFor db categoryId) :
    LinkedTo db categoryId (draftOf fields merchantId t id) := by
  obtain ⟨hmem, hp⟩ := List.mem_filter.mp (List.mem_of_mem_take ht)
  exact ⟨t, hmem, rfl, (of_decide_eq_true hp).1⟩

/-! ### The rows -/

section
variable {rows : List MerchantCategory} {r : MerchantCategory}

theorem keyed_demoted (h : Rows.Keyed (fun r => (r.merchantId, r.categoryId)) rows) :
    Rows.Keyed (fun r => (r.merchantId, r.categoryId))
      (updateMany (fun r => r.merchantId = merchantId) demote rows) :=
  h.updateMany fun _ => rfl

/-- No row of the merchant is primary after that. -/
theorem not_primary_demoted (hr : r ∈ updateMany (fun r => r.merchantId = merchantId) demote rows)
    (hown : r.merchantId = merchantId) : r.isPrimary ≠ true := by
  obtain ⟨r', -, ⟨-, rfl⟩ | ⟨hnot, rfl⟩⟩ := mem_updateMany.mp hr
  · exact Bool.false_ne_true
  · exact absurd hown hnot

theorem keyed_makePrimary (h : Rows.Keyed (fun r => (r.merchantId, r.categoryId)) rows) :
    Rows.Keyed (fun r => (r.merchantId, r.categoryId)) (makePrimary rows merchantId categoryId) := by
  simp only [makePrimary]
  split_ifs with hex
  · exact (keyed_demoted h).updateMany fun _ => rfl
  · refine (keyed_demoted h).concat fun r hr he => hex ⟨r, hr, ?_⟩
    exact ⟨congrArg Prod.fst he, congrArg Prod.snd he⟩

theorem mem_makePrimary_self : ⟨merchantId, categoryId, true⟩ ∈ makePrimary rows merchantId categoryId := by
  simp only [makePrimary]
  split_ifs with hex
  · obtain ⟨r, hr, hof⟩ := hex
    have hmem := mem_updateMany_of_pos (f := promote) hr hof
    rw [promote, hof.1, hof.2] at hmem
    exact hmem
  · exact List.mem_append_right _ (List.mem_singleton_self _)

theorem eq_of_primary (hr : r ∈ makePrimary rows merchantId categoryId) (hown : r.merchantId = merchantId)
    (hprimary : r.isPrimary = true) : r = ⟨merchantId, categoryId, true⟩ := by
  simp only [makePrimary] at hr
  split_ifs at hr with hex
  · obtain ⟨r', hr', ⟨hof, rfl⟩ | ⟨-, rfl⟩⟩ := mem_updateMany.mp hr
    · rw [promote, hof.1, hof.2]
    · exact absurd hprimary (not_primary_demoted hr' hown)
  · rcases List.mem_append.mp hr with hr | hr
    · exact absurd hprimary (not_primary_demoted hr hown)
    · exact List.mem_singleton.mp hr

theorem eq_singleton {α : Type*} {l : List α} {x : α} (hn : l.Nodup) (hx : x ∈ l) (h : ∀ y ∈ l, y = x) : l = [x] := by
  cases l with
  | nil => cases hx
  | cons a l =>
    obtain rfl := h a (List.mem_cons_self ..)
    cases l with
    | nil => rfl
    | cons b l =>
      obtain rfl := h b (List.mem_cons_of_mem _ (List.mem_cons_self ..))
      exact absurd (List.mem_cons_self ..) (List.nodup_cons.mp hn).1

/-- One row is, and it is the one of the subcategory. -/
theorem primaryRows_makePrimary (h : Rows.Keyed (fun r => (r.merchantId, r.categoryId)) rows) :
    ((makePrimary rows merchantId categoryId).filter fun r => r.merchantId = merchantId ∧ r.isPrimary = true) =
      [⟨merchantId, categoryId, true⟩] := by
  refine eq_singleton ((keyed_makePrimary h).of_map.filter _) ?_ fun r hr => ?_
  · exact List.mem_filter.mpr ⟨mem_makePrimary_self, decide_eq_true ⟨rfl, rfl⟩⟩
  · obtain ⟨hmem, hp⟩ := List.mem_filter.mp hr
    obtain ⟨hown, hprimary⟩ := of_decide_eq_true hp
    exact eq_of_primary hmem hown hprimary

end

/-! ### The two writes -/

/-- What a write of the column finds: the flagships in use are put aside. -/
theorem inactive_discardedFor (h : Books merchantId s) (hw : WritesColumn s merchantId categoryId a)
    (hv : v ∈ (discardedFor s merchantId a).vouchers) (hown : FlagshipOf merchantId v) : v.status = .INACTIVE := by
  have hchange : ∀ confirm, Changes s.db merchantId categoryId confirm → v ∈ (discardDrafts s.db merchantId).vouchers →
      v.status = .INACTIVE := by
    intro confirm hc hv
    by_contra hs
    obtain ⟨hmem, hdraft⟩ := mem_discardDrafts hv hown hs
    exact hs (inactive_of_not (hc.unsubmitted v hmem hown) hdraft (h.unexpired v hmem hown))
  cases a with
  | setMerchantIdentityCore identity => exact hw.elim
  | handleCategoryChange newCategoryId confirm => exact hchange confirm hw.2 hv
  | setMerchantCategoryCore newCategoryId confirm =>
    rw [discardedFor] at hv
    split_ifs at hv with hnone
    · exact h.uncategorised hnone v hv hown
    · rcases hw.2 with hsets | ⟨-, hc⟩
      · exact absurd hsets.first hnone
      · exact hchange confirm hc hv

variable (s merchantId a) in
/-- Nothing else is changed by then. -/
theorem discardedFor_same : (discardedFor s merchantId a).merchants = s.db.merchants ∧
    (discardedFor s merchantId a).categories = s.db.categories ∧
    (discardedFor s merchantId a).rmvTemplates = s.db.rmvTemplates := by
  cases a with
  | setMerchantCategoryCore newCategoryId confirm =>
    rw [discardedFor]
    split_ifs <;> exact ⟨rfl, rfl, rfl⟩
  | _ => exact ⟨rfl, rfl, rfl⟩

theorem WritesColumn.merchant (hw : WritesColumn s merchantId categoryId a) :
    ∃ merchant, s.db.findMerchant merchantId = some merchant := by
  cases a with
  | setMerchantIdentityCore identity => exact hw.elim
  | handleCategoryChange newCategoryId confirm => exact hw.2.merchant
  | setMerchantCategoryCore newCategoryId confirm =>
    rcases hw.2 with hsets | ⟨-, hc⟩
    · exact hsets.merchant
    · exact hc.merchant

variable (fields) in
theorem primaryCategoryId_provisioned (hw : WritesColumn s merchantId categoryId a) :
    ({ s with db := provisioned fields (discardedFor s merchantId a) merchantId categoryId } :
      Store Bag).primaryCategoryId merchantId = some categoryId := by
  have hd := drafted_foldl fields merchantId
    (templatesFor (discardedFor s merchantId a) categoryId)
    ((discardedFor s merchantId a).updateMerchants (fun m => m.id = merchantId) (withCategory categoryId))
  rw [Store.primaryCategoryId, Db.findMerchant, provisioned, hd.merchants]
  refine findMerchant_withCategory ?_
  rw [Db.findMerchant, (discardedFor_same s merchantId a).1]
  exact hw.merchant

/-- Where the rows name the category already, the books stay in order. -/
theorem Books.writes (h : Books merchantId s) (hw : WritesColumn s merchantId categoryId a)
    (hrows : s.primaryRows merchantId = [⟨merchantId, categoryId, true⟩]) : Books merchantId
      { s with db := provisioned fields (discardedFor s merchantId a) merchantId categoryId } := by
  have hcolumn := primaryCategoryId_provisioned fields hw
  obtain ⟨hmerchants, hcategories, htemplates⟩ := discardedFor_same s merchantId a
  have hd := drafted_foldl fields merchantId
    (templatesFor (discardedFor s merchantId a) categoryId)
    ((discardedFor s merchantId a).updateMerchants (fun m => m.id = merchantId) (withCategory categoryId))
  -- A flagship is one of those put aside, or a new draft.
  have hcases : ∀ v ∈ (provisioned fields (discardedFor s merchantId a) merchantId categoryId).vouchers,
      FlagshipOf merchantId v → v.status = .INACTIVE ∨
        ∃ t ∈ templatesFor (discardedFor s merchantId a) categoryId, ∃ id, v = draftOf fields merchantId t id := by
    intro v hv hown
    rcases hd.vouchers v hv with hv | hdraft
    · exact .inl (inactive_discardedFor h hw hv hown)
    · exact .inr hdraft
  refine ⟨?_, ?_, h.rows, fun v hv hown => ?_, fun hnone => ?_, fun c hc => ?_, fun c hc v hv hown hs => ?_⟩
  · dsimp only [provisioned]
    rw [hd.merchants]
    refine Keyed.updateMany ?_ fun _ => rfl
    rw [hmerchants]
    exact h.merchants
  · dsimp only [provisioned]
    rw [hd.rmvTemplates]
    exact htemplates ▸ h.templates
  · rcases hcases v hv hown with hi | ⟨t, -, id, rfl⟩
    · rw [hi]
      exact nofun
    · exact nofun
  · cases hcolumn.symm.trans hnone
  · cases hcolumn.symm.trans hc
    exact hrows
  · cases hcolumn.symm.trans hc
    rcases hcases v hv hown with hi | ⟨t, ht, id, rfl⟩
    · exact absurd hi hs
    · obtain ⟨t', ht', hlink, hcat⟩ := linkedTo_draftOf fields merchantId id ht
      refine ⟨t', ?_, hlink, ?_⟩
      · dsimp only [provisioned]
        rw [hd.rmvTemplates]
        exact ht'
      · dsimp only [provisioned]
        rw [hd.categories]
        exact hcat

theorem primaryCategoryId_identified (ha : Accepts s merchantId identity) :
    (identified s merchantId identity).primaryCategoryId merchantId = some identity.subcategoryId := by
  obtain ⟨merchant, hmerchant, -⟩ := ha.window
  rw [Store.primaryCategoryId, identified]
  refine findMerchant_withCategory ⟨merchant, ?_⟩
  split_ifs
  · exact hmerchant
  · exact hmerchant

/-- The flagships in use are those from before, and no draft is where the parent has changed. -/
theorem mem_identified (hv : v ∈ (identified s merchantId identity).db.vouchers) (hown : FlagshipOf merchantId v)
    (hs : v.status ≠ .INACTIVE) :
    v ∈ s.db.vouchers ∧ (TopLevelChanged s merchantId identity → v.status ≠ .DRAFT) := by
  rw [identified] at hv
  dsimp only [Db.updateMerchants] at hv
  split_ifs at hv with hchanged
  · obtain ⟨hmem, hdraft⟩ := mem_discardDrafts hv hown hs
    exact ⟨hmem, fun _ => hdraft⟩
  · exact ⟨hv, fun hc => absurd hc hchanged⟩

variable (s merchantId identity) in
theorem identified_same : (identified s merchantId identity).db.categories = s.db.categories ∧
    (identified s merchantId identity).db.rmvTemplates = s.db.rmvTemplates := by
  rw [identified]
  dsimp only [Db.updateMerchants]
  split_ifs <;> exact ⟨rfl, rfl⟩

/-- Under the same parent the templates are the same. -/
theorem linkedTo_same (hsame : ¬ TopLevelChanged s merchantId identity) {c : ℕ}
    (hc : s.primaryCategoryId merchantId = some c) (hl : LinkedTo s.db c v) :
    LinkedTo (identified s merchantId identity).db identity.subcategoryId v := by
  obtain ⟨t, ht, hlink, hcat⟩ := hl
  obtain ⟨hcategories, htemplates⟩ := identified_same s merchantId identity
  rw [LinkedTo, hcategories, htemplates]
  refine ⟨t, ht, hlink, hcat.trans ?_⟩
  rcases eq_or_ne c identity.subcategoryId with rfl | hne
  · rfl
  · by_contra hparent
    exact hsame ⟨c, hc, hne, Ne.symm hparent⟩

theorem Books.identified (h : Books merchantId s) (ha : Accepts s merchantId identity)
    (hsubmitted : TopLevelChanged s merchantId identity → ∀ v ∈ s.db.vouchers, FlagshipOf merchantId v → ¬ Submitted v) :
    Books merchantId (identified s merchantId identity) := by
  have hcolumn := primaryCategoryId_identified ha
  refine ⟨?_, ?_, keyed_makePrimary h.rows, fun v hv hown => ?_, fun hnone => ?_, fun c hc => ?_,
    fun c hc v hv hown hs => ?_⟩
  · refine Keyed.updateMany ?_ fun _ => rfl
    split_ifs <;> exact h.merchants
  · have hsame := (identified_same s merchantId identity).2
    rw [hsame]
    exact h.templates
  · by_cases hs : v.status = .INACTIVE
    · rw [hs]
      exact nofun
    · exact h.unexpired v (mem_identified hv hown hs).1 hown
  · cases hcolumn.symm.trans hnone
  · cases hcolumn.symm.trans hc
    exact primaryRows_makePrimary h.rows
  · cases hcolumn.symm.trans hc
    obtain ⟨hmem, hdraft⟩ := mem_identified hv hown hs
    have hsame : ¬ TopLevelChanged s merchantId identity := by
      intro hchanged
      exact hs (inactive_of_not (hsubmitted hchanged v hmem hown) (hdraft hchanged) (h.unexpired v hmem hown))
    cases hp : s.primaryCategoryId merchantId with
    | none => exact absurd (h.uncategorised hp v hmem hown) hs
    | some c' => exact linkedTo_same hsame hp (h.coherent.linked c' hp v hmem hown hs)

/-- An operation that does not stray leaves the books in order. -/
theorem Books.step (h : Books merchantId s) (ha : ¬ Strays merchantId s a)
    (hs : step fields merchantId s a = some s') : Books merchantId s' := by
  rw [Strays, not_or] at ha
  by_cases hw : ∃ c, WritesColumn s merchantId c a
  · obtain ⟨c, hw⟩ := hw
    cases (step_writes hw).symm.trans hs
    refine h.writes hw ?_
    by_contra hrows
    exact ha.1 ⟨c, hw, hrows⟩
  · by_cases hi : ∃ identity, a = .setMerchantIdentityCore identity ∧ Accepts s merchantId identity
    · obtain ⟨identity, rfl, hacc⟩ := hi
      cases (step_accepts hacc).symm.trans hs
      refine h.identified hacc fun hchanged v hv hown hsub => ?_
      exact ha.2 ⟨identity, rfl, hacc, hchanged, v, hv, hown, hsub⟩
    · cases (step_same (fun c hc => hw ⟨c, hc⟩)
        fun identity he hacc => hi ⟨identity, he, hacc⟩).symm.trans hs
      exact h

/-- One that strays does not. -/
theorem not_coherent_of_strays (h : Books merchantId s) (ha : Strays merchantId s a)
    (hs : MerchantCategories.step fields merchantId s a = some s') : ¬ Coherent merchantId s' := by
  intro hcoherent
  rcases ha with ⟨c, hw, hrows⟩ | ⟨identity, rfl, hacc, hchanged, v, hv, hown, hsub⟩
  · cases (step_writes hw).symm.trans hs
    exact hrows (hcoherent.primary c (primaryCategoryId_provisioned fields hw))
  · cases (step_accepts hacc).symm.trans hs
    obtain ⟨c, hc, -, hparent⟩ := id hchanged
    have hactive : v.status ≠ .INACTIVE := by
      rcases hsub with hv | hv <;> rw [hv] <;> exact nofun
    have hdraft : v.status ≠ .DRAFT := by
      rcases hsub with hv | hv <;> rw [hv] <;> exact nofun
    -- The flagship is still linked to a template of the parent from before.
    have hmem : v ∈ (MerchantCategories.identified s merchantId identity).db.vouchers := by
      rw [MerchantCategories.identified]
      dsimp only [Db.updateMerchants]
      rw [TopLevelChanged] at hchanged
      rw [if_pos hchanged]
      exact mem_updateMany_of_neg hv fun hp => hdraft hp.2
    obtain ⟨t, ht, hlink, hcat⟩ := h.coherent.linked c hc v hv hown hactive
    obtain ⟨t', ht', hlink', hcat'⟩ := hcoherent.linked _ (primaryCategoryId_identified hacc) v hmem hown hactive
    obtain ⟨hcategories, htemplates⟩ := identified_same s merchantId identity
    rw [htemplates] at ht'
    rw [hcategories] at hcat'
    obtain rfl := h.templates.eq ht ht' (Option.some.inj (hlink.symm.trans hlink'))
    exact hparent (hcat'.symm.trans hcat)

/-- CORRECT: over any sequence of the three operations the two copies of the category agree and the flagships in use
    are of its parent's templates, exactly if no operation writes the column where the rows do not name the category
    already, and none goes to another parent while a flagship is submitted. -/
theorem coherent_iff (h : Books merchantId s) (actions : List Action) :
    Throughout (MerchantCategories.step fields merchantId) (Coherent merchantId) s actions ↔
      Along (MerchantCategories.step fields merchantId) (fun s a => ¬ Strays merchantId s a) s actions :=
  throughout_iff_along_of_kept (K := Books merchantId) (fun _ _ hnone => absurd hnone (Option.some_ne_none _))
    (fun _ _ _ hb ha hs => hb.step ha hs) (fun _ hb => hb.coherent)
    (fun _ _ _ hb ha hs => not_coherent_of_strays hb (not_not.mp ha) hs) h

end

/-! ### A first category -/

section
open Activation (bakeryFields)
open Records

def template (id categoryId : ℕ) (voucherType : VoucherType) : RmvTemplate :=
  ⟨id, categoryId, voucherType, "Free coffee", "A free coffee", [], 3, true⟩

/-- A merchant that has registered, two parents with a subcategory each, and two templates for each parent. -/
def registered : Store Record where
  db := {
    memberships := []
    merchants := [⟨⟨0, .REGISTERED, .REGISTERED⟩, .NOT_SUBMITTED, .NOT_SIGNED, false, none⟩]
    branches := []
    categories := [⟨0, none⟩, ⟨1, none⟩, ⟨2, some 0⟩, ⟨3, some 1⟩]
    rmvTemplates := [template 0 0 .BOGO, template 1 0 .FREEBIE, template 2 1 .BOGO, template 3 1 .FREEBIE]
    vouchers := []
    approvals := []
    nextId := 0 }
  merchantCategories := []
  merchantTags := []
  subcategoryTags := []
  primaryDescriptorTagId := fun _ => none

theorem registered_vouchers : registered.db.vouchers = [] := rfl

theorem registered_primaryCategoryId : registered.primaryCategoryId 0 = none := rfl

theorem books_registered : Books 0 registered where
  merchants := by decide
  templates := by decide
  rows := by decide
  unexpired := by simp [registered_vouchers]
  uncategorised _ := by simp [registered_vouchers]
  coherent := ⟨by simp [registered_primaryCategoryId], by simp [registered_primaryCategoryId]⟩

/-- The identity is written, and then a category of the other parent. -/
def recategorised : List Action :=
  [.setMerchantIdentityCore ⟨2, none, []⟩, .setMerchantCategoryCore 3 true]

theorem coherent_iff_recategorised :
    Throughout (step bakeryFields 0) (Coherent 0) registered recategorised ↔
      Along (step bakeryFields 0) (fun s a => ¬ Strays 0 s a) registered recategorised :=
  coherent_iff books_registered recategorised

/-- The first category comes with its flagships, and without a row. -/
theorem first_category_without_row : Books 0 registered ∧
    (∃ merchant, registered.db.findMerchant 0 = some merchant ∧ isDraftWindow merchant.toMerchant) ∧
    ∃ s, run (step bakeryFields 0) registered [.setMerchantCategoryCore 2 false] = some s ∧
      s.primaryCategoryId 0 = some 2 ∧ s.primaryRows 0 = [] ∧ ¬ Coherent 0 s := by
  refine ⟨books_registered, ⟨_, rfl, .inl rfl⟩, _, rfl, rfl, rfl, fun hcoherent => ?_⟩
  cases hcoherent.primary 2 rfl

end

end Redeemo.MerchantCategories
