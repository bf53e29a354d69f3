import Redeemo.Lib.Records
import Redeemo.Voucher.Flagship

/-! What a voucher needs before it can be submitted, and the bag that says so.

    A bag that carries the server's marker is checked whatever it holds; one without it only if the builder
    has written it. The mechanic that is checked follows from the voucher's type and, for the types that
    wrap another offer, from the bag. -/

namespace Redeemo.SubmitValidation
open Fallible Records Vouchers Flagship

inductive MechanicType
  | BOGO | SPEND_AND_SAVE | DISCOUNT_FIXED | DISCOUNT_PERCENT | FREEBIE | PACKAGE_DEAL
  deriving DecidableEq, Repr

def REUSABLE_COOLDOWN_FLOOR_SECONDS : ℕ := 1800
def SUBMIT_CONTRACT_KEY : String := "__submitContract"
def STRICT_SUBMIT_CONTRACT : String := "strict-v1"

def isStrictSubmitContract (merchantFields : Record) : Bool :=
  merchantFields.text SUBMIT_CONTRACT_KEY = some STRICT_SUBMIT_CONTRACT

def stampStrictSubmitContract (bag : Record) : Record :=
  bag.spread [(SUBMIT_CONTRACT_KEY, .string STRICT_SUBMIT_CONTRACT)]

/-! ### The builder's draft -/

/-- The shape of a custom voucher's bag: the fields of the mechanic are under `draftFields`. -/
def customShape (merchantFields : Record) : Option Record :=
  (merchantFields.text "builderType").map fun builderType =>
    (((merchantFields.child "draftFields").getD []).spread [("builderType", .string builderType)]).spread
      (((merchantFields.text "baseMechanic").map fun baseMechanic =>
        [("baseMechanic", Json.string baseMechanic)]).getD [])

/-- The shape of a flagship's comes first. -/
def resolveStructuredBag (merchantFields : Record) : Option Record :=
  ((merchantFields.child "merchantFields").filter fun nested => (nested.text "builderType").isSome).or
    (customShape merchantFields)

def fromDiscountKind (draft : Record) : Option MechanicType :=
  match draft.text "discountKind" with
  | some "fixed" => some .DISCOUNT_FIXED
  | some "percent" => some .DISCOUNT_PERCENT
  | _ => none

def mechanicFromBuilderId (draft : Record) : Option String → Option MechanicType
  | some "bogo" => some .BOGO
  | some "spend" => some .SPEND_AND_SAVE
  | some "freebie" => some .FREEBIE
  | some "package" => some .PACKAGE_DEAL
  | some "discount" => some ((fromDiscountKind draft).getD .DISCOUNT_PERCENT)
  | _ => none

/-- No draft is as good as an empty one. -/
def resolveMechanicType (topLevelType : VoucherType) (draft : Record) : Option MechanicType :=
  match topLevelType with
  | .DISCOUNT_FIXED => some ((fromDiscountKind draft).getD .DISCOUNT_FIXED)
  | .DISCOUNT_PERCENT => some ((fromDiscountKind draft).getD .DISCOUNT_PERCENT)
  | .BOGO => some .BOGO
  | .SPEND_AND_SAVE => some .SPEND_AND_SAVE
  | .FREEBIE => some .FREEBIE
  | .PACKAGE_DEAL => some .PACKAGE_DEAL
  | .TIME_LIMITED | .REUSABLE =>
    (mechanicFromBuilderId draft (draft.text "baseMechanic")).or
      (mechanicFromBuilderId draft (draft.text "builderType"))

/-! ### The fields of a mechanic -/

/-- The errors of a check that a condition fails. -/
def errorIf (p : Prop) [Decidable p] (field : String) (code : FieldCode) (message : String) : List FieldError :=
  if p then [⟨field, code, message⟩] else []

def requireText (draft : Record) (field label : String) : List FieldError :=
  errorIf (∀ v ∈ draft.text field, isBlank v = true) field .REQUIRED (label ++ " is required.")

def requirePositiveNumber (draft : Record) (field label : String) (maxInclusive : Option ℕ) :
    List FieldError :=
  match draft.get field with
  | none | some .null => [⟨field, .REQUIRED, label ++ " is required."⟩]
  | some (.number v) =>
    if v ≤ 0 then [⟨field, .INVALID, label ++ " must be a number greater than zero."⟩]
    else match maxInclusive with
      | none => []
      | some max => errorIf ((max : ℚ) < v) field .INVALID (label ++ " must be at most " ++ toString max ++ ".")
  | some _ => [⟨field, .INVALID, label ++ " must be a number greater than zero."⟩]

/-- The number under a key, if it is positive. -/
def positive (draft : Record) (field : String) : Option ℚ := (draft.num field).filter fun v => 0 < v

def validateMechanic (mechanic : MechanicType) (draft : Record) : List FieldError :=
  match mechanic with
  | .BOGO =>
    requireText draft "bogoBuy" "The item the customer buys" ++
      requireText draft "bogoFree" "The free item" ++
      requirePositiveNumber draft "bogoFreePrice" "The value of the free item" none
  | .SPEND_AND_SAVE =>
    requirePositiveNumber draft "spendAmount" "The spend amount" none ++
      requirePositiveNumber draft "spendSave" "The save amount" none ++
      errorIf (∃ spend ∈ positive draft "spendAmount", ∃ save ∈ positive draft "spendSave", spend ≤ save)
        "spendSave" .INCONSISTENT "The save amount must be less than the spend amount."
  | .DISCOUNT_FIXED => requirePositiveNumber draft "discAmount" "The amount off" none
  | .DISCOUNT_PERCENT =>
    requirePositiveNumber draft "discPercent" "The discount percentage" (some 100) ++
      errorIf (positive draft "discMin" = none ∧ positive draft "discTypicalOrder" = none)
        "discTypicalOrder" .REQUIRED
        "A minimum spend or a typical order value is required so the saving can be calculated."
  | .FREEBIE =>
    requireText draft "freeItem" "The free item" ++
      requirePositiveNumber draft "freeWorth" "The value of the free item" none ++
      match draft.get "freeNeedsPurchase" with
      | some (.bool true) => requireText draft "freeQualify" "The qualifying purchase"
      | _ => []
  | .PACKAGE_DEAL =>
    requireText draft "packageItems" "The included items" ++
      requirePositiveNumber draft "packagePrice" "The package price" none ++
      requirePositiveNumber draft "packageNormal" "The normal combined value" none ++
      errorIf (∃ price ∈ positive draft "packagePrice", ∃ normal ∈ positive draft "packageNormal", normal ≤ price)
        "packagePrice" .INCONSISTENT "The package price must be less than the normal combined value."

/-! ### The check -/

def savingErrors (saving : ℚ) : List FieldError :=
  if saving ≤ 0 then
    [⟨"estimatedSaving", .INVALID, "The estimated saving must be a number greater than zero."⟩]
  else errorIf (SAVING_COLUMN_MAX ≤ toScale2 saving) "estimatedSaving" .INVALID
    "The estimated saving is too large."

def cooldownErrors : Option ℕ → List FieldError
  | none => [⟨"cooldownSeconds", .REQUIRED, "A reuse cooldown is required for a reusable voucher."⟩]
  | some cd => errorIf (cd < REUSABLE_COOLDOWN_FLOOR_SECONDS) "cooldownSeconds" .INVALID
      ("The reuse cooldown must be at least " ++ toString REUSABLE_COOLDOWN_FLOOR_SECONDS ++ " seconds.")

def mechanicErrors (type : VoucherType) (merchantFields : Record) : List FieldError :=
  let draft := resolveStructuredBag merchantFields
  if isStrictSubmitContract merchantFields = true ∨ draft.isSome = true then
    match resolveMechanicType type (draft.getD []) with
    | some mechanic => validateMechanic mechanic (draft.getD [])
    | none => [⟨"baseMechanic", .REQUIRED,
        "Pick the offer this voucher runs first (the underlying mechanic) before submitting."⟩]
  else []

def submitErrors (v : EffectiveVoucher Record) : List FieldError :=
  errorIf (isBlank v.title = true) "title" .REQUIRED "A voucher title is required." ++
    savingErrors v.estimatedSaving ++
    (if v.type = .REUSABLE then cooldownErrors v.cooldownSeconds else []) ++
    mechanicErrors v.type (v.merchantFields.getD [])

def assertVoucherSubmittable (v : EffectiveVoucher Record) : Except AppError Unit :=
  rejectIf (submitErrors v ≠ []) (.VOUCHER_INCOMPLETE (submitErrors v))

/-! ### The operations on the bag -/

def ADMIN_OWNED_MERCHANTFIELDS_KEYS : List String := ["adminProposed", "adminNote"]
def CALLER_OWNED_MERCHANTFIELDS_KEYS : List String := ADMIN_OWNED_MERCHANTFIELDS_KEYS ++ [SUBMIT_CONTRACT_KEY]
def MERCHANT_FIELDS_MAX_BYTES : ℕ := 16 * 1024
def MERCHANT_FIELDS_MAX_TOP_LEVEL_KEYS : ℕ := 50
def PROPOSAL_STRING_FIELDS : List String := ["title", "description", "terms", "imageUrl"]

/-- The admin's proposals of the right type. -/
def buildAdminProposed (proposed : Record) : Record :=
  (PROPOSAL_STRING_FIELDS.filterMap fun field => (proposed.text field).map fun s => (field, Json.string s)) ++
    match positive proposed "estimatedSaving" with
    | some s => if toScale2 s < SAVING_COLUMN_MAX then [("estimatedSaving", .number (toScale2 s))] else []
    | none => []

/-- The bag after `requestVoucherChanges`. -/
def mergedBag (currentBag : Record) (proposed : Option Record) (note : String) : Record :=
  let adminProposed := (proposed.map buildAdminProposed).getD []
  let bagWithoutProposed := currentBag.without ["adminProposed"]
  (bagWithoutProposed.spread
    (if 0 < adminProposed.length then [("adminProposed", .object adminProposed)] else [])).spread
      [("adminNote", .string note)]

/-- What is under `estimatedSaving` and not null. -/
def bagSaving (bag : Record) : Option (Option ℚ) :=
  match bag.get "estimatedSaving" with
  | none | some .null => none
  | some (.number q) => some (some q)
  | some _ => some none

/-- With `JSON.stringify`, whose numbers are the language's. -/
def bagFields (stringify : Record → String) : RmvFields Record where
  empty := []
  spread := Record.spread
  stripCallerOwnedKeys := Record.without CALLER_OWNED_MERCHANTFIELDS_KEYS
  stripAdminOwnedKeys := Record.without ADMIN_OWNED_MERCHANTFIELDS_KEYS
  stampStrictSubmitContract := stampStrictSubmitContract
  withinLimit bag := bag.length ≤ MERCHANT_FIELDS_MAX_TOP_LEVEL_KEYS ∧
    (stringify bag).utf8ByteSize ≤ MERCHANT_FIELDS_MAX_BYTES
  withConcierge := mergedBag
  assertVoucherSubmittable := assertVoucherSubmittable
  stripSubmitContractKey := Record.without [SUBMIT_CONTRACT_KEY]
  keys := Record.keys
  text bag key := bag.text key
  estimatedSaving := bagSaving
  discountKind bag := (bag.child "merchantFields").bind fun nested => nested.text "discountKind"

/-! ### Drafts that have not been filled in -/

theorem validateMechanic_nil (mechanic : MechanicType) : validateMechanic mechanic [] ≠ [] := by
  cases mechanic <;> decide

/-- A marked bag that the builder has not written lacks the mechanic, whatever the type. -/
theorem mechanicErrors_unfilled {bag : Record} (hstrict : isStrictSubmitContract bag = true)
    (hdraft : resolveStructuredBag bag = none) (type : VoucherType) : mechanicErrors type bag ≠ [] := by
  simp only [mechanicErrors, hdraft, hstrict, true_or, if_true, Option.getD_none]
  cases resolveMechanicType type [] with
  | none => exact List.cons_ne_nil _ _
  | some mechanic => exact validateMechanic_nil mechanic

theorem submittable_iff {v : EffectiveVoucher Record} {u : Unit} :
    assertVoucherSubmittable v = .ok u ↔ submitErrors v = [] := by
  rw [assertVoucherSubmittable, rejectIf_eq_ok, not_not]

end Redeemo.SubmitValidation
