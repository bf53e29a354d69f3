import Redeemo.Voucher.Tables

/-! Flagship vouchers (RMVs): drafts from the templates of a category, and what a submission makes of
    the merchant's bag.

    Templates are kept under the top-level categories. A draft stays linked to its template; where the
    bag has turned a fixed discount into a percentage, or the other way round, the submission links the
    voucher to the template of the other type. -/

namespace Redeemo.Flagship
open Fallible Vouchers

structure Category where
  id : ℕ
  parentId : Option ℕ
  deriving DecidableEq, Repr

/-- `allowedFields` is empty where the column holds no array. -/
structure RmvTemplate where
  id : ℕ
  categoryId : ℕ
  voucherType : VoucherType
  title : String
  description : String
  allowedFields : List String
  minimumSaving : ℚ
  isActive : Bool
  deriving DecidableEq

/-- What the operations on a flagship do with the bag besides. -/
structure RmvFields (Bag : Type) extends MerchantFields Bag where
  stripSubmitContractKey : Bag → Bag
  keys : Bag → List String
  /-- The string under a key. -/
  text : Bag → String → Option String
  /-- What is under `estimatedSaving` and not null: a finite number, or something else. -/
  estimatedSaving : Bag → Option (Option ℚ)
  /-- In the builder's draft. -/
  discountKind : Bag → Option String

def ELIGIBLE_FLAGSHIP_TYPES : List VoucherType :=
  [.BOGO, .SPEND_AND_SAVE, .DISCOUNT_FIXED, .DISCOUNT_PERCENT, .FREEBIE, .PACKAGE_DEAL]

def FLAGSHIP_RMV_CAP : ℕ := 2

/-! ### Templates -/

def resolveTopLevelCategoryId (categories : List Category) (categoryId : ℕ) : ℕ :=
  match categories.find? fun c => c.id = categoryId with
  | none => categoryId
  | some row => row.parentId.getD categoryId

/-- `rmvTemplate.findFirst`, of a category and a type. -/
def findTemplate (templates : List RmvTemplate) (categoryId : ℕ) (voucherType : VoucherType) :
    Option RmvTemplate :=
  templates.find? fun t => t.categoryId = categoryId ∧ t.voucherType = voucherType ∧ t.isActive = true

variable {Bag : Type}

/-- The draft that is created of a template. -/
def draftOf (fields : RmvFields Bag) (merchantId : ℕ) (template : RmvTemplate) (id : ℕ) : Voucher Bag where
  type := template.voucherType
  title := template.title
  description := some template.description
  terms := none
  estimatedSaving := template.minimumSaving
  expiryDate := none
  availabilityWindows := []
  id := id
  merchantId := merchantId
  isRmv := true
  isMandatory := true
  rmvTemplateId := some template.id
  imageUrl := none
  cooldownSeconds := none
  status := .DRAFT
  approvalStatus := .PENDING
  approvedBy := none
  approvedAt := none
  publishedAt := none
  merchantFields := some (fields.stampStrictSubmitContract fields.empty)

/-! ### The effective template -/

/-- The type and the template that the voucher is linked to anew, if it is. -/
structure EffectiveTemplate where
  relink : Option (VoucherType × ℕ)
  allowedFields : List String
  deriving DecidableEq

def impliedType : Option String → Option VoucherType
  | some "fixed" => some .DISCOUNT_FIXED
  | some "percent" => some .DISCOUNT_PERCENT
  | _ => none

def resolveEffectiveTemplate (templates : List RmvTemplate) (voucher : Voucher Bag)
    (discountKind : Option String) : Except AppError EffectiveTemplate :=
  let current := voucher.rmvTemplateId.bind fun id => templates.find? fun t => t.id = id
  let kept : EffectiveTemplate := ⟨none, (current.map RmvTemplate.allowedFields).getD []⟩
  if voucher.type ≠ .DISCOUNT_PERCENT ∧ voucher.type ≠ .DISCOUNT_FIXED then .ok kept
  else match impliedType discountKind with
    | none => .ok kept
    | some implied =>
      if implied = voucher.type then .ok kept
      else do
        let current ← orReject current .RMV_TEMPLATE_UNAVAILABLE
        let sibling ← orReject (findTemplate templates current.categoryId implied) .RMV_TEMPLATE_UNAVAILABLE
        return ⟨some (implied, sibling.id), sibling.allowedFields⟩

/-- `...(relink ?? {})`. -/
def relinked (relink : Option (VoucherType × ℕ)) (v : Voucher Bag) : Voucher Bag :=
  { v with
    type := (relink.map Prod.fst).getD v.type
    rmvTemplateId := (relink.map Prod.snd).or v.rmvTemplateId }

/-! ### Edit -/

/-- The checks of `updateRmvVoucherCore` on the voucher it has found, and the bag and the link that it is
    then going to write. -/
def checkUpdateRmv (fields : RmvFields Bag) (templates : List RmvTemplate) (voucher : Voucher Bag)
    (proposedFields : Bag) : Except AppError (Bag × Option (VoucherType × ℕ)) := do
  rejectIf (voucher.status ≠ .DRAFT) .VOUCHER_NOT_EDITABLE
  let cleanProposed := fields.stripSubmitContractKey proposedFields
  let merged := fields.spread (voucher.merchantFields.getD fields.empty) cleanProposed
  let effective ← resolveEffectiveTemplate templates voucher (fields.discountKind merged)
  rejectIf (∃ k ∈ fields.keys cleanProposed, k ∉ effective.allowedFields) .RMV_FIELD_NOT_ALLOWED
  return (merged, effective.relink)

def applyUpdateRmv (update : Bag × Option (VoucherType × ℕ)) (v : Voucher Bag) : Voucher Bag :=
  { relinked update.2 v with merchantFields := some update.1 }

/-! ### Submission -/

/-- What the bag has for the columns. -/
structure Promoted where
  title : Option String
  description : Option String
  terms : Option String
  imageUrl : Option String
  estimatedSaving : Option ℚ
  deriving DecidableEq

def promotedSaving : Option (Option ℚ) → Except AppError (Option ℚ)
  | none => .ok none
  | some none => .error .SAVING_INVALID
  | some (some saving) => do
    assertSavingSane saving
    rejectIf (SAVING_COLUMN_MAX ≤ toScale2 saving) .SAVING_INVALID
    return some (toScale2 saving)

def promote (fields : RmvFields Bag) (bag : Bag) : Except AppError Promoted := do
  let saving ← promotedSaving (fields.estimatedSaving bag)
  return {
    title := fields.text bag "title"
    description := fields.text bag "description"
    terms := fields.text bag "terms"
    imageUrl := fields.text bag "imageUrl"
    estimatedSaving := saving }

/-- An empty list forbids nothing. -/
def Allowed (allowedFields : List String) (key : String) : Prop := allowedFields = [] ∨ key ∈ allowedFields

instance (allowedFields : List String) : DecidablePred (Allowed allowedFields) :=
  fun key => inferInstanceAs (Decidable (allowedFields = [] ∨ key ∈ allowedFields))

/-- What the template forbids is dropped. -/
def Promoted.allowedBy (allowedFields : List String) (promoted : Promoted) : Promoted where
  title := promoted.title.filter fun _ => Allowed allowedFields "title"
  description := promoted.description.filter fun _ => Allowed allowedFields "description"
  terms := promoted.terms.filter fun _ => Allowed allowedFields "terms"
  imageUrl := promoted.imageUrl.filter fun _ => Allowed allowedFields "imageUrl"
  estimatedSaving := promoted.estimatedSaving.filter fun _ => Allowed allowedFields "estimatedSaving"

/-- What a submission is going to write. -/
structure Submission where
  promoted : Promoted
  relink : Option (VoucherType × ℕ)
  deriving DecidableEq

/-- The checks of `submitRmvVoucherCore` on the voucher it has found. -/
def checkSubmitRmv (fields : RmvFields Bag) (templates : List RmvTemplate) (voucher : Voucher Bag) :
    Except AppError Submission := do
  rejectIf (voucher.status ≠ .DRAFT) .VOUCHER_NOT_SUBMITTABLE
  let bag := voucher.merchantFields.getD fields.empty
  let promoted ← promote fields bag
  let effective ← resolveEffectiveTemplate templates voucher (fields.discountKind bag)
  let promoted := promoted.allowedBy effective.allowedFields
  fields.assertVoucherSubmittable {
    type := (effective.relink.map Prod.fst).getD voucher.type
    title := promoted.title.getD voucher.title
    estimatedSaving := promoted.estimatedSaving.getD voucher.estimatedSaving
    merchantFields := voucher.merchantFields
    windowCount := 0
    cooldownSeconds := none }
  return ⟨promoted, effective.relink⟩

/-- `submitRmvVoucherCore`: the voucher goes to review. -/
def Submission.apply (submission : Submission) (now : ℤ) (v : Voucher Bag) : Voucher Bag :=
  { relinked submission.relink v with
    title := submission.promoted.title.getD v.title
    description := submission.promoted.description.or v.description
    terms := submission.promoted.terms.or v.terms
    imageUrl := submission.promoted.imageUrl.or v.imageUrl
    estimatedSaving := submission.promoted.estimatedSaving.getD v.estimatedSaving
    status := .PENDING_APPROVAL
    publishedAt := some now }

end Redeemo.Flagship
