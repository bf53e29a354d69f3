import Redeemo.Voucher.SubmitGate

/-! The portal's submit check, and where it agrees with the server's.

    It is a port of the server's, with the gate for the availability windows folded in. The server checks the
    mechanic of a marked bag whatever the bag holds; the port, only of a bag that the builder has written. -/

namespace Redeemo.MerchantWeb.SubmitValidity
open Records Vouchers Fallible
open SubmitGate (Unknown knownType typeName)
open SubmitValidation (MechanicType errorIf)

def MECHANIC_TYPES : List String :=
  ["BOGO", "SPEND_AND_SAVE", "DISCOUNT_FIXED", "DISCOUNT_PERCENT", "FREEBIE", "PACKAGE_DEAL"]
def WRAPPER_TYPES : List String := ["TIME_LIMITED", "REUSABLE"]
def KNOWN_VOUCHER_TYPES : List String := MECHANIC_TYPES ++ WRAPPER_TYPES
def REUSABLE_COOLDOWN_FLOOR_SECONDS : ℚ := 1800
def SAVING_COLUMN_MAX : ℚ := 100000000

structure EffectiveVoucher extends SubmitGate.EffectiveVoucher where
  windowsKnown : Bool

/-- The flagship's shape comes first; in a custom voucher's, what is beside `draftFields` counts. -/
def resolveStructuredBag (merchantFields : Record) : Option Record :=
  match (merchantFields.child "merchantFields").filter fun nested => (nested.text "builderType").isSome with
  | some nested => some nested
  | none =>
    match merchantFields.text "builderType" with
    | none => none
    | some builderType =>
      let draftFields := ((merchantFields.child "draftFields").getD []).spread [("builderType", .string builderType)]
      match merchantFields.text "baseMechanic" with
      | none => some (draftFields.spread [])
      | some baseMechanic => some (draftFields.spread [("baseMechanic", .string baseMechanic)])

def fromDiscountKind (draft : Record) : Option MechanicType :=
  if draft.text "discountKind" = some "fixed" then some .DISCOUNT_FIXED
  else if draft.text "discountKind" = some "percent" then some .DISCOUNT_PERCENT
  else none

def mechanicFromBuilderId (draft : Record) : Option String → Option MechanicType
  | some "bogo" => some .BOGO
  | some "spend" => some .SPEND_AND_SAVE
  | some "freebie" => some .FREEBIE
  | some "package" => some .PACKAGE_DEAL
  | some "discount" => some ((fromDiscountKind draft).getD .DISCOUNT_PERCENT)
  | _ => none

/-- A member of `MECHANIC_TYPES`, as the type it is. -/
def mechanicType (topLevelType : String) : Option MechanicType :=
  match topLevelType with
  | "BOGO" => some .BOGO
  | "SPEND_AND_SAVE" => some .SPEND_AND_SAVE
  | "DISCOUNT_FIXED" => some .DISCOUNT_FIXED
  | "DISCOUNT_PERCENT" => some .DISCOUNT_PERCENT
  | "FREEBIE" => some .FREEBIE
  | "PACKAGE_DEAL" => some .PACKAGE_DEAL
  | _ => none

def resolveMechanicType (topLevelType : String) (draft : Record) : Option MechanicType :=
  if topLevelType = "DISCOUNT_FIXED" ∨ topLevelType = "DISCOUNT_PERCENT" then
    (fromDiscountKind draft).or (mechanicType topLevelType)
  else if topLevelType ∈ MECHANIC_TYPES then mechanicType topLevelType
  else if topLevelType ∈ WRAPPER_TYPES then
    (mechanicFromBuilderId draft (draft.text "baseMechanic")).or
      (mechanicFromBuilderId draft (draft.text "builderType"))
  else none

def requireText (draft : Record) (field label : String) : List FieldError :=
  errorIf (∀ v ∈ draft.text field, isBlank v = true) field .REQUIRED (label ++ " is required.")

def requirePositiveNumber (draft : Record) (field label : String) (maxInclusive : Option ℕ) :
    List FieldError :=
  match draft.get field with
  | none | some .null => [⟨field, .REQUIRED, label ++ " is required."⟩]
  | some v =>
    match v with
    | .number q =>
      if q ≤ 0 then [⟨field, .INVALID, label ++ " must be a number greater than zero."⟩]
      else match maxInclusive with
        | some max => errorIf ((max : ℚ) < q) field .INVALID (label ++ " must be at most " ++ toString max ++ ".")
        | none => []
    | _ => [⟨field, .INVALID, label ++ " must be a number greater than zero."⟩]

def validateMechanic (mechanic : MechanicType) (draft : Record) : List FieldError :=
  match mechanic with
  | .BOGO =>
    requireText draft "bogoBuy" "The item the customer buys" ++
      requireText draft "bogoFree" "The free item" ++
      requirePositiveNumber draft "bogoFreePrice" "The value of the free item" none
  | .SPEND_AND_SAVE =>
    requirePositiveNumber draft "spendAmount" "The spend amount" none ++
      requirePositiveNumber draft "spendSave" "The save amount" none ++
      errorIf (∃ spend ∈ draft.num "spendAmount", ∃ save ∈ draft.num "spendSave",
          0 < save ∧ 0 < spend ∧ spend ≤ save)
        "spendSave" .INCONSISTENT "The save amount must be less than the spend amount."
  | .DISCOUNT_FIXED => requirePositiveNumber draft "discAmount" "The amount off" none
  | .DISCOUNT_PERCENT =>
    requirePositiveNumber draft "discPercent" "The discount percentage" (some 100) ++
      errorIf (¬ (∃ min ∈ draft.num "discMin", 0 < min) ∧ ¬ ∃ typical ∈ draft.num "discTypicalOrder", 0 < typical)
        "discTypicalOrder" .REQUIRED
        "A minimum spend or a typical order value is required so the saving can be calculated."
  | .FREEBIE =>
    requireText draft "freeItem" "The free item" ++
      requirePositiveNumber draft "freeWorth" "The value of the free item" none ++
      match draft.get "freeNeedsPurchase" with
      | some (.bool true) => requireText draft "freeQualify" "The qualifying purchase"
      | _ => []
  | .PACKAGE_DEAL =>
    requireText draft "packageItems" "The included items" ++
      requirePositiveNumber draft "packagePrice" "The package price" none ++
      requirePositiveNumber draft "packageNormal" "The normal combined value" none ++
      errorIf (∃ price ∈ draft.num "packagePrice", ∃ normal ∈ draft.num "packageNormal",
          0 < price ∧ 0 < normal ∧ normal ≤ price)
        "packagePrice" .INCONSISTENT "The package price must be less than the normal combined value."

def savingErrors : Unknown → List FieldError
  | .undefined | .json .null => [⟨"estimatedSaving", .REQUIRED, "An estimated saving is required."⟩]
  | .json (.number saving) =>
    if saving ≤ 0 then
      [⟨"estimatedSaving", .INVALID, "The estimated saving must be a number greater than zero."⟩]
    else errorIf (SAVING_COLUMN_MAX ≤ toScale2 saving) "estimatedSaving" .INVALID
      "The estimated saving is too large."
  | _ => [⟨"estimatedSaving", .INVALID, "The estimated saving must be a number greater than zero."⟩]

def cooldownErrors : Unknown → List FieldError
  | .undefined | .json .null =>
    [⟨"cooldownSeconds", .REQUIRED, "A reuse cooldown is required for a reusable voucher."⟩]
  | .json (.number cd) => errorIf (cd < REUSABLE_COOLDOWN_FLOOR_SECONDS) "cooldownSeconds" .INVALID
      "The reuse cooldown must be at least 1800 seconds."
  | _ => [⟨"cooldownSeconds", .INVALID, "The reuse cooldown must be at least 1800 seconds."⟩]

def mechanicErrors (draft : Option Record) (type : Option String) : List FieldError :=
  match draft, type with
  | some draft, some type =>
    match resolveMechanicType type draft with
    | some mechanic => validateMechanic mechanic draft
    | none => errorIf (type ∈ WRAPPER_TYPES) "baseMechanic" .REQUIRED
        "Pick the offer this voucher runs first (the underlying mechanic) before submitting."
  | _, _ => []

def collectSubmitErrors (v : EffectiveVoucher) : List FieldError :=
  errorIf (∀ title ∈ v.title.text, isBlank title = true) "title" .REQUIRED "A voucher title is required." ++
    errorIf (∀ type ∈ v.type.text, type ∉ KNOWN_VOUCHER_TYPES) "type" .INVALID
      "A valid voucher type is required." ++
    savingErrors v.estimatedSaving ++
    (if v.type.text = some "REUSABLE" then cooldownErrors v.cooldownSeconds else []) ++
    errorIf (v.type.text = some "TIME_LIMITED" ∧ v.windowsKnown = true ∧ v.windowCount < 1) "availabilityWindows"
      .REQUIRED "Add at least one time window so this voucher knows when it runs." ++
    mechanicErrors (resolveStructuredBag v.merchantFields.record) v.type.text

/-! ### The port, function by function -/

theorem resolveStructuredBag_eq (bag : Record) :
    resolveStructuredBag bag = SubmitValidation.resolveStructuredBag bag := by
  rw [resolveStructuredBag, SubmitValidation.resolveStructuredBag, SubmitValidation.customShape]
  cases (bag.child "merchantFields").filter fun nested => (nested.text "builderType").isSome with
  | some nested => rfl
  | none =>
    cases bag.text "builderType" with
    | none => rfl
    | some builderType =>
      cases bag.text "baseMechanic" with
      | none => rfl
      | some baseMechanic => rfl

theorem fromDiscountKind_eq (draft : Record) :
    fromDiscountKind draft = SubmitValidation.fromDiscountKind draft := by
  unfold fromDiscountKind SubmitValidation.fromDiscountKind
  split
  · rename_i h
    rw [h]
    rfl
  · split
    · rename_i h
      rw [h]
      rfl
    · split
      · exact absurd ‹_› ‹¬ draft.text "discountKind" = some "fixed"›
      · exact absurd ‹_› ‹¬ draft.text "discountKind" = some "percent"›
      · rfl

theorem mechanicFromBuilderId_eq (draft : Record) (id : Option String) :
    mechanicFromBuilderId draft id = SubmitValidation.mechanicFromBuilderId draft id := by
  unfold mechanicFromBuilderId SubmitValidation.mechanicFromBuilderId
  exact fromDiscountKind_eq draft ▸ rfl

theorem resolveMechanicType_eq (type : VoucherType) (draft : Record) :
    resolveMechanicType (typeName type) draft = SubmitValidation.resolveMechanicType type draft := by
  cases type with
  | DISCOUNT_FIXED =>
    rw [resolveMechanicType, if_pos (by decide), fromDiscountKind_eq, SubmitValidation.resolveMechanicType]
    cases SubmitValidation.fromDiscountKind draft <;> rfl
  | DISCOUNT_PERCENT =>
    rw [resolveMechanicType, if_pos (by decide), fromDiscountKind_eq, SubmitValidation.resolveMechanicType]
    cases SubmitValidation.fromDiscountKind draft <;> rfl
  | TIME_LIMITED | REUSABLE =>
    rw [resolveMechanicType, if_neg (by decide), if_neg (by decide), if_pos (by decide), mechanicFromBuilderId_eq,
      mechanicFromBuilderId_eq, SubmitValidation.resolveMechanicType]
  | BOGO | SPEND_AND_SAVE | FREEBIE | PACKAGE_DEAL => rfl

theorem requirePositiveNumber_eq (draft : Record) (field label : String) (maxInclusive : Option ℕ) :
    requirePositiveNumber draft field label maxInclusive =
      SubmitValidation.requirePositiveNumber draft field label maxInclusive := by
  rw [requirePositiveNumber, SubmitValidation.requirePositiveNumber]
  rcases draft.get field with _ | _ | _ | q | _ | _ | _ <;> try rfl
  cases maxInclusive <;> rfl

theorem exists_two_positive {draft : Record} {field field' : String} {p : ℚ → ℚ → Prop} :
    (∃ a ∈ draft.num field, ∃ b ∈ draft.num field', 0 < a ∧ 0 < b ∧ p a b) ↔
      ∃ a ∈ SubmitValidation.positive draft field, ∃ b ∈ SubmitValidation.positive draft field', p a b := by
  simp only [Option.mem_def, SubmitGate.positive_eq_some]
  constructor
  · rintro ⟨a, ha, b, hb, ha0, hb0, hp⟩
    exact ⟨a, ⟨ha, ha0⟩, b, ⟨hb, hb0⟩, hp⟩
  · rintro ⟨a, ⟨ha, ha0⟩, b, ⟨hb, hb0⟩, hp⟩
    exact ⟨a, ha, b, hb, ha0, hb0, hp⟩

theorem errorIf_congr {p q : Prop} [Decidable p] [Decidable q] {field : String} {code : FieldCode}
    {message : String} (h : p ↔ q) : errorIf p field code message = errorIf q field code message := by
  simp only [errorIf, h]

/-- Both rule out the contradictions between positive numbers only. -/
theorem validateMechanic_eq (mechanic : MechanicType) (draft : Record) :
    validateMechanic mechanic draft = SubmitValidation.validateMechanic mechanic draft := by
  cases mechanic with
  | DISCOUNT_FIXED => exact requirePositiveNumber_eq draft _ _ none
  | BOGO | FREEBIE =>
    simp only [validateMechanic, SubmitValidation.validateMechanic, requirePositiveNumber_eq]
    rfl
  | SPEND_AND_SAVE =>
    simp only [validateMechanic, SubmitValidation.validateMechanic, requirePositiveNumber_eq]
    refine congrArg _ (errorIf_congr ?_)
    rw [← exists_two_positive]
    exact exists_congr fun _ => and_congr_right fun _ => exists_congr fun _ => and_congr_right fun _ => and_left_comm
  | DISCOUNT_PERCENT =>
    simp only [validateMechanic, SubmitValidation.validateMechanic, requirePositiveNumber_eq]
    refine congrArg _ (errorIf_congr ?_)
    rw [SubmitGate.positive_eq_none, SubmitGate.positive_eq_none]
    rfl
  | PACKAGE_DEAL =>
    simp only [validateMechanic, SubmitValidation.validateMechanic, requirePositiveNumber_eq]
    refine congrArg _ (errorIf_congr ?_)
    exact exists_two_positive

theorem savingErrors_eq (estimatedSaving : Unknown) :
    savingErrors estimatedSaving = SubmitGate.savingErrors estimatedSaving := by
  rcases estimatedSaving with _ | _ | _ | _ | _ | _ | _ | _ <;> rfl

theorem cooldownErrors_eq (cooldownSeconds : Unknown) :
    cooldownErrors cooldownSeconds = SubmitGate.cooldownErrors cooldownSeconds := by
  rcases cooldownSeconds with _ | _ | _ | _ | _ | _ | _ | _ <;> rfl

/-! ### The type -/

theorem knownType_eq_some {type : Unknown} {known : VoucherType} :
    knownType type = some known ↔ type.text = some (typeName known) := by
  constructor
  · intro h
    unfold knownType at h
    split at h <;> cases h
    all_goals assumption
  · intro h
    rw [knownType, h]
    cases known <;> rfl

theorem typeName_mem (type : VoucherType) : typeName type ∈ KNOWN_VOUCHER_TYPES := by
  cases type <;> decide

theorem exists_typeName {type : String} (h : type ∈ KNOWN_VOUCHER_TYPES) : ∃ known, type = typeName known := by
  simp only [KNOWN_VOUCHER_TYPES, MECHANIC_TYPES, WRAPPER_TYPES, List.cons_append, List.nil_append, List.mem_cons,
    List.not_mem_nil, or_false] at h
  rcases h with rfl | rfl | rfl | rfl | rfl | rfl | rfl | rfl
  · exact ⟨.BOGO, rfl⟩
  · exact ⟨.SPEND_AND_SAVE, rfl⟩
  · exact ⟨.DISCOUNT_FIXED, rfl⟩
  · exact ⟨.DISCOUNT_PERCENT, rfl⟩
  · exact ⟨.FREEBIE, rfl⟩
  · exact ⟨.PACKAGE_DEAL, rfl⟩
  · exact ⟨.TIME_LIMITED, rfl⟩
  · exact ⟨.REUSABLE, rfl⟩

theorem knownType_eq_none {type : Unknown} :
    knownType type = none ↔ ∀ s ∈ type.text, s ∉ KNOWN_VOUCHER_TYPES := by
  constructor
  · intro h s hs hmem
    obtain ⟨known, rfl⟩ := exists_typeName hmem
    rw [knownType_eq_some.mpr hs] at h
    cases h
  · intro h
    cases hknown : knownType type with
    | none => rfl
    | some known => exact absurd (typeName_mem known) (h _ (knownType_eq_some.mp hknown))

/-- Without a known type neither side looks for a mechanic; with one, both do as for the draft. -/
theorem mechanicErrors_eq {type : Unknown} {bag : Record} :
    mechanicErrors (resolveStructuredBag bag) type.text =
      if (SubmitValidation.resolveStructuredBag bag).isSome = true then SubmitGate.typeErrors (knownType type) bag
      else [] := by
  rw [resolveStructuredBag_eq]
  cases hdraft : SubmitValidation.resolveStructuredBag bag with
  | none => rfl
  | some draft =>
    rw [Option.isSome_some, if_pos rfl]
    cases hknown : knownType type with
    | none =>
      have hunknown := knownType_eq_none.mp hknown
      cases htext : type.text with
      | none => rfl
      | some s =>
        have hs := hunknown s htext
        rw [KNOWN_VOUCHER_TYPES, List.mem_append, not_or] at hs
        have hdiscount : ¬ (s = "DISCOUNT_FIXED" ∨ s = "DISCOUNT_PERCENT") := by
          rintro (rfl | rfl)
          · exact hs.1 (by decide)
          · exact hs.1 (by decide)
        simp only [mechanicErrors, resolveMechanicType, if_neg hdiscount, if_neg hs.1, if_neg hs.2, errorIf]
        rfl
    | some known =>
      rw [knownType_eq_some.mp hknown, mechanicErrors, resolveMechanicType_eq, SubmitGate.typeErrors,
        SubmitValidation.mechanicErrors, hdraft, Option.isSome_some, if_pos (Or.inr rfl), Option.getD_some]
      cases hmechanic : SubmitValidation.resolveMechanicType known draft with
      | some mechanic => exact validateMechanic_eq mechanic draft
      | none =>
        cases known <;> first | rfl | cases hmechanic

/-! ### The two checks agree -/

/-- What a mark on the page is keyed by. -/
def mark (e : FieldError) : String × FieldCode := (e.field, e.code)

/-- With a known number of windows: the portal lets a submission through exactly if the server does, and when the
    server finds it incomplete, it finds what the portal has marked, the windows apart. -/
structure Agrees (v : SubmitGate.EffectiveVoucher) : Prop where
  verdict : collectSubmitErrors ⟨v, true⟩ = [] ↔ SubmitGate.submitGates v = .ok ()
  marks : ∀ fields, SubmitGate.assertVoucherSubmittable v = .error (.VOUCHER_INCOMPLETE fields) →
    fields.map mark =
      ((collectSubmitErrors ⟨v, true⟩).filter fun e => e.field ≠ "availabilityWindows").map mark

/-- A known type, and a marked bag that the builder has not written. -/
def MarkedUnwritten (v : SubmitGate.EffectiveVoucher) : Prop :=
  SubmitGate.Strict v ∧ SubmitValidation.resolveStructuredBag v.merchantFields.record = none ∧
    knownType v.type ≠ none

/-- What is checked besides the windows and the mechanic. -/
def columnErrors (v : SubmitGate.EffectiveVoucher) : List FieldError :=
  errorIf (∀ title ∈ v.title.text, isBlank title = true) "title" .REQUIRED "A voucher title is required." ++
    errorIf (knownType v.type = none) "type" .INVALID "A valid voucher type is required." ++
    SubmitGate.savingErrors v.estimatedSaving ++
    (if knownType v.type = some .REUSABLE then SubmitGate.cooldownErrors v.cooldownSeconds else [])

def windowErrors (v : SubmitGate.EffectiveVoucher) : List FieldError :=
  errorIf (knownType v.type = some .TIME_LIMITED ∧ v.windowCount = 0) "availabilityWindows" .REQUIRED
    "Add at least one time window so this voucher knows when it runs."

def clientMechanicErrors (v : SubmitGate.EffectiveVoucher) : List FieldError :=
  if (SubmitValidation.resolveStructuredBag v.merchantFields.record).isSome = true then
    SubmitGate.typeErrors (knownType v.type) v.merchantFields.record
  else []

theorem submitErrors_eq (v : SubmitGate.EffectiveVoucher) : SubmitGate.submitErrors v =
    columnErrors v ++ SubmitGate.typeErrors (knownType v.type) v.merchantFields.record := rfl

theorem collectSubmitErrors_eq (v : SubmitGate.EffectiveVoucher) :
    collectSubmitErrors ⟨v, true⟩ = columnErrors v ++ windowErrors v ++ clientMechanicErrors v := by
  have htype : (∀ type ∈ v.type.text, type ∉ KNOWN_VOUCHER_TYPES) ↔ knownType v.type = none :=
    knownType_eq_none.symm
  have hreusable : v.type.text = some "REUSABLE" ↔ knownType v.type = some .REUSABLE := by
    rw [knownType_eq_some]
    rfl
  have hwindows : v.type.text = some "TIME_LIMITED" ∧ true = true ∧ v.windowCount < 1 ↔
      knownType v.type = some .TIME_LIMITED ∧ v.windowCount = 0 := by
    rw [knownType_eq_some, Nat.lt_one_iff, and_iff_right rfl]
    rfl
  rw [collectSubmitErrors, errorIf_congr htype, errorIf_congr hwindows, savingErrors_eq, cooldownErrors_eq,
    mechanicErrors_eq]
  simp only [hreusable]
  rfl

theorem submitGates_ok {v : SubmitGate.EffectiveVoucher} :
    SubmitGate.submitGates v = .ok () ↔ windowErrors v = [] ∧ SubmitGate.submitErrors v = [] := by
  rw [SubmitGate.submitGates, bind_ok_iff, windowErrors, SubmitGate.errorIf_eq_nil, ← SubmitGate.submittable_iff]
  constructor
  · rintro ⟨_, hwindow, hok⟩
    exact ⟨rejectIf_eq_ok.mp hwindow, hok⟩
  · rintro ⟨hwindow, hok⟩
    exact ⟨(), rejectIf_eq_ok.mpr hwindow, hok⟩

/-- No check but the windows' is about the windows. -/
def AboutOthers (errors : List FieldError) : Prop := ∀ e ∈ errors, e.field ≠ "availabilityWindows"

theorem aboutOthers_append {l l' : List FieldError} (h : AboutOthers l) (h' : AboutOthers l') :
    AboutOthers (l ++ l') := by
  intro e he
  rcases List.mem_append.mp he with he | he
  · exact h e he
  · exact h' e he

theorem aboutOthers_nil : AboutOthers [] := nofun

theorem aboutOthers_singleton {e : FieldError} (h : e.field ≠ "availabilityWindows") : AboutOthers [e] := by
  intro e' he'
  rwa [List.mem_singleton.mp he']

theorem aboutOthers_errorIf {p : Prop} [Decidable p] {field : String} {code : FieldCode} {message : String}
    (h : field ≠ "availabilityWindows") : AboutOthers (errorIf p field code message) := by
  rw [errorIf]
  split
  · exact aboutOthers_singleton h
  · exact aboutOthers_nil

theorem aboutOthers_requirePositiveNumber {draft : Record} {field label : String} {maxInclusive : Option ℕ}
    (h : field ≠ "availabilityWindows") :
    AboutOthers (SubmitValidation.requirePositiveNumber draft field label maxInclusive) := by
  rw [SubmitValidation.requirePositiveNumber]
  split
  · exact aboutOthers_singleton h
  · exact aboutOthers_singleton h
  · split
    · exact aboutOthers_singleton h
    · split
      · exact aboutOthers_nil
      · exact aboutOthers_errorIf h
  · exact aboutOthers_singleton h

theorem aboutOthers_validateMechanic (mechanic : MechanicType) (draft : Record) :
    AboutOthers (SubmitValidation.validateMechanic mechanic draft) := by
  cases mechanic with
  | DISCOUNT_FIXED =>
    rw [SubmitValidation.validateMechanic]
    exact aboutOthers_requirePositiveNumber (by decide)
  | BOGO =>
    exact aboutOthers_append (aboutOthers_append (aboutOthers_errorIf (by decide)) (aboutOthers_errorIf (by decide)))
      (aboutOthers_requirePositiveNumber (by decide))
  | SPEND_AND_SAVE =>
    exact aboutOthers_append (aboutOthers_append (aboutOthers_requirePositiveNumber (by decide))
      (aboutOthers_requirePositiveNumber (by decide))) (aboutOthers_errorIf (by decide))
  | DISCOUNT_PERCENT =>
    exact aboutOthers_append (aboutOthers_requirePositiveNumber (by decide)) (aboutOthers_errorIf (by decide))
  | FREEBIE =>
    refine aboutOthers_append (aboutOthers_append (aboutOthers_errorIf (by decide))
      (aboutOthers_requirePositiveNumber (by decide))) ?_
    split
    · exact aboutOthers_errorIf (by decide)
    · exact aboutOthers_nil
  | PACKAGE_DEAL =>
    exact aboutOthers_append (aboutOthers_append (aboutOthers_append (aboutOthers_errorIf (by decide))
      (aboutOthers_requirePositiveNumber (by decide))) (aboutOthers_requirePositiveNumber (by decide)))
      (aboutOthers_errorIf (by decide))

theorem aboutOthers_typeErrors (type : Option VoucherType) (bag : Record) :
    AboutOthers (SubmitGate.typeErrors type bag) := by
  cases type with
  | none => exact aboutOthers_nil
  | some type =>
    rw [SubmitGate.typeErrors, SubmitValidation.mechanicErrors]
    split
    · split
      · exact aboutOthers_validateMechanic _ _
      · exact aboutOthers_singleton (by decide)
    · exact aboutOthers_nil

theorem aboutOthers_columnErrors (v : SubmitGate.EffectiveVoucher) : AboutOthers (columnErrors v) := by
  have hsaving : AboutOthers (SubmitGate.savingErrors v.estimatedSaving) := by
    unfold SubmitGate.savingErrors SubmitValidation.savingErrors
    split
    · exact aboutOthers_singleton (by decide)
    · exact aboutOthers_singleton (by decide)
    · split
      · exact aboutOthers_singleton (by decide)
      · exact aboutOthers_errorIf (by decide)
    · exact aboutOthers_singleton (by decide)
  have hcooldown : AboutOthers (SubmitGate.cooldownErrors v.cooldownSeconds) := by
    unfold SubmitGate.cooldownErrors
    split
    · exact aboutOthers_singleton (by decide)
    · exact aboutOthers_singleton (by decide)
    · exact aboutOthers_errorIf (by decide)
    · exact aboutOthers_singleton (by decide)
  refine aboutOthers_append (aboutOthers_append (aboutOthers_append (aboutOthers_errorIf (by decide))
    (aboutOthers_errorIf (by decide))) hsaving) ?_
  split
  · exact hcooldown
  · exact aboutOthers_nil

/-- What the portal marks besides the windows. -/
theorem marks_eq (v : SubmitGate.EffectiveVoucher) :
    ((collectSubmitErrors ⟨v, true⟩).filter fun e => e.field ≠ "availabilityWindows") =
      columnErrors v ++ clientMechanicErrors v := by
  have hmechanic : AboutOthers (clientMechanicErrors v) := by
    rw [clientMechanicErrors]
    split
    · exact aboutOthers_typeErrors _ _
    · exact aboutOthers_nil
  have hkept {l : List FieldError} (h : AboutOthers l) : l.filter (fun e => e.field ≠ "availabilityWindows") = l :=
    List.filter_eq_self.mpr fun e he => decide_eq_true (h e he)
  have hwindows : (windowErrors v).filter (fun e => e.field ≠ "availabilityWindows") = [] := by
    rw [windowErrors, errorIf]
    split <;> rfl
  rw [collectSubmitErrors_eq, List.filter_append, List.filter_append, hkept (aboutOthers_columnErrors v),
    hkept hmechanic, hwindows, List.append_nil]

/-- The mechanic of every other voucher is checked alike. -/
theorem clientMechanicErrors_eq {v : SubmitGate.EffectiveVoucher} (h : ¬ MarkedUnwritten v) :
    clientMechanicErrors v = SubmitGate.typeErrors (knownType v.type) v.merchantFields.record := by
  rw [clientMechanicErrors]
  cases hdraft : SubmitValidation.resolveStructuredBag v.merchantFields.record with
  | some draft => rfl
  | none =>
    cases hknown : knownType v.type with
    | none => rfl
    | some type =>
      have hstrict : ¬ SubmitGate.Strict v := fun hs => h ⟨hs, hdraft, hknown ▸ Option.some_ne_none type⟩
      rw [SubmitGate.typeErrors, SubmitValidation.mechanicErrors, hdraft]
      exact (if_neg (not_or.mpr ⟨hstrict, Bool.false_ne_true⟩)).symm

theorem agrees_of_not_markedUnwritten {v : SubmitGate.EffectiveVoucher} (h : ¬ MarkedUnwritten v) : Agrees v where
  verdict := by
    rw [submitGates_ok, collectSubmitErrors_eq, submitErrors_eq, clientMechanicErrors_eq h]
    simp only [List.append_eq_nil_iff]
    tauto
  marks fields hfields := by
    rw [SubmitGate.assertVoucherSubmittable, rejectIf] at hfields
    split at hfields
    · cases hfields
      rw [marks_eq, clientMechanicErrors_eq h]
      rfl
    · cases hfields

/-- The portal agrees with the server on every voucher but those of a known type whose bag is marked and has not been
    written by the builder. -/
theorem collectSubmitErrors_agrees_iff (v : SubmitGate.EffectiveVoucher) : Agrees v ↔ ¬ MarkedUnwritten v := by
  refine ⟨?_, agrees_of_not_markedUnwritten⟩
  rintro hagrees ⟨hstrict, hdraft, hknown⟩
  obtain ⟨type, htype⟩ := Option.ne_none_iff_exists'.mp hknown
  have hmechanic : SubmitGate.typeErrors (knownType v.type) v.merchantFields.record ≠ [] := by
    rw [htype]
    exact SubmitValidation.mechanicErrors_unfilled hstrict hdraft type
  have hclient : clientMechanicErrors v = [] := by rw [clientMechanicErrors, hdraft]; rfl
  have herrors : SubmitGate.submitErrors v ≠ [] := fun h => hmechanic (List.append_eq_nil_iff.mp h).2
  have hmarks := hagrees.marks (SubmitGate.submitErrors v) (if_pos herrors)
  -- The server has marks of the mechanic, the portal has none.
  have hlength := congrArg List.length hmarks
  rw [marks_eq, hclient, submitErrors_eq, List.append_nil, List.length_map, List.length_map,
    List.length_append] at hlength
  have hpos := List.length_pos_of_ne_nil hmechanic
  omega

/-- A row as it was born, with its title and saving filled in: the portal submits it and the server refuses. -/
def unwrittenVoucher : SubmitGate.EffectiveVoucher :=
  SubmitGate.coffeeVoucher [(SubmitValidation.SUBMIT_CONTRACT_KEY, .string SubmitValidation.STRICT_SUBMIT_CONTRACT)]

theorem unwrittenVoucher_not_agrees : ¬ Agrees unwrittenVoucher := by
  intro hagrees
  have hclient : collectSubmitErrors ⟨unwrittenVoucher, true⟩ = [] := by decide +kernel
  have hserver := (submitGates_ok.mp (hagrees.verdict.mp hclient)).2
  rw [submitErrors_eq, List.append_eq_nil_iff] at hserver
  have hstrict : SubmitGate.Strict unwrittenVoucher := rfl
  have hdraft : SubmitValidation.resolveStructuredBag unwrittenVoucher.merchantFields.record = none := rfl
  exact SubmitValidation.mechanicErrors_unfilled hstrict hdraft .BOGO hserver.2

end Redeemo.MerchantWeb.SubmitValidity
