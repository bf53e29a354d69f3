import Redeemo.Voucher.SubmitValidation

/-! The submit check on everything its parameters can hold.

    The columns and the bag come in as `unknown`; what is not of the type that is asked for counts as absent or
    as invalid. A voucher that is checked strictly passes exactly when it is complete, and the two shapes in
    which a builder writes its draft pass for the same drafts. -/

namespace Redeemo.SubmitGate
open Fallible Records Vouchers
open SubmitValidation hiding savingErrors cooldownErrors submitErrors assertVoucherSubmittable

/-- A value of type `unknown`. -/
inductive Unknown
  | undefined
  /-- `NaN`, or an infinity. -/
  | notFinite
  | json (value : Json)

namespace Unknown

def text : Unknown → Option String
  | .json (.string s) => some s
  | _ => none

/-- A value that is no plain object has no entry that is read. -/
def record : Unknown → Record
  | .json (.object entries) => entries
  | _ => []

end Unknown

structure EffectiveVoucher where
  type : Unknown
  title : Unknown
  estimatedSaving : Unknown
  merchantFields : Unknown
  windowCount : ℕ
  cooldownSeconds : Unknown

/-- One of `KNOWN_VOUCHER_TYPES`. -/
def knownType (type : Unknown) : Option VoucherType :=
  match type.text with
  | some "BOGO" => some .BOGO
  | some "SPEND_AND_SAVE" => some .SPEND_AND_SAVE
  | some "DISCOUNT_FIXED" => some .DISCOUNT_FIXED
  | some "DISCOUNT_PERCENT" => some .DISCOUNT_PERCENT
  | some "FREEBIE" => some .FREEBIE
  | some "PACKAGE_DEAL" => some .PACKAGE_DEAL
  | some "TIME_LIMITED" => some .TIME_LIMITED
  | some "REUSABLE" => some .REUSABLE
  | _ => none

def typeName : VoucherType → String
  | .BOGO => "BOGO"
  | .SPEND_AND_SAVE => "SPEND_AND_SAVE"
  | .DISCOUNT_FIXED => "DISCOUNT_FIXED"
  | .DISCOUNT_PERCENT => "DISCOUNT_PERCENT"
  | .FREEBIE => "FREEBIE"
  | .PACKAGE_DEAL => "PACKAGE_DEAL"
  | .TIME_LIMITED => "TIME_LIMITED"
  | .REUSABLE => "REUSABLE"

def savingErrors : Unknown → List FieldError
  | .undefined | .json .null => [⟨"estimatedSaving", .REQUIRED, "An estimated saving is required."⟩]
  | .json (.number saving) => SubmitValidation.savingErrors saving
  | _ => [⟨"estimatedSaving", .INVALID, "The estimated saving must be a number greater than zero."⟩]

def cooldownErrors : Unknown → List FieldError
  | .undefined | .json .null =>
    [⟨"cooldownSeconds", .REQUIRED, "A reuse cooldown is required for a reusable voucher."⟩]
  | .json (.number cd) => errorIf (cd < REUSABLE_COOLDOWN_FLOOR_SECONDS) "cooldownSeconds" .INVALID
      ("The reuse cooldown must be at least " ++ toString REUSABLE_COOLDOWN_FLOOR_SECONDS ++ " seconds.")
  | _ => [⟨"cooldownSeconds", .INVALID,
      "The reuse cooldown must be at least " ++ toString REUSABLE_COOLDOWN_FLOOR_SECONDS ++ " seconds."⟩]

/-- No mechanic follows from a type that is not known, and only a wrapper is asked for one. -/
def typeErrors (type : Option VoucherType) (merchantFields : Record) : List FieldError :=
  match type with
  | some type => mechanicErrors type merchantFields
  | none => []

def submitErrors (v : EffectiveVoucher) : List FieldError :=
  errorIf (∀ title ∈ v.title.text, isBlank title = true) "title" .REQUIRED "A voucher title is required." ++
    errorIf (knownType v.type = none) "type" .INVALID "A valid voucher type is required." ++
    savingErrors v.estimatedSaving ++
    (if knownType v.type = some .REUSABLE then cooldownErrors v.cooldownSeconds else []) ++
    typeErrors (knownType v.type) v.merchantFields.record

def assertVoucherSubmittable (v : EffectiveVoucher) : Except AppError Unit :=
  rejectIf (submitErrors v ≠ []) (.VOUCHER_INCOMPLETE (submitErrors v))

/-- The two gates of `submitVoucher`, in their order. -/
def submitGates (v : EffectiveVoucher) : Except AppError Unit := do
  rejectIf (knownType v.type = some .TIME_LIMITED ∧ v.windowCount = 0) .TIME_LIMITED_REQUIRES_WINDOW
  assertVoucherSubmittable v

/-- A row as its columns pass it on. -/
def ofRow (v : Vouchers.EffectiveVoucher Record) : EffectiveVoucher where
  type := .json (.string (typeName v.type))
  title := .json (.string v.title)
  estimatedSaving := .json (.number v.estimatedSaving)
  merchantFields := .json ((v.merchantFields.map Json.object).getD .null)
  windowCount := v.windowCount
  cooldownSeconds := .json ((v.cooldownSeconds.map fun cd : ℕ => Json.number cd).getD .null)

/-- `isStrictSubmitContract` of the voucher's bag. -/
def Strict (v : EffectiveVoucher) : Prop := isStrictSubmitContract v.merchantFields.record = true

/-- The draft whose mechanic is checked. -/
def EffectiveVoucher.draft (v : EffectiveVoucher) : Record :=
  (resolveStructuredBag v.merchantFields.record).getD []

theorem knownType_typeName (type : VoucherType) : knownType (.json (.string (typeName type))) = some type := by
  cases type <;> rfl

/-- On a row of the database it is the check of the row. -/
theorem submitErrors_ofRow (v : Vouchers.EffectiveVoucher Record) :
    submitErrors (ofRow v) = SubmitValidation.submitErrors v := by
  have hbag : (ofRow v).merchantFields.record = v.merchantFields.getD [] := by
    rw [ofRow]
    cases v.merchantFields with
    | none => rfl
    | some bag => rfl
  have hcooldown : cooldownErrors (ofRow v).cooldownSeconds = SubmitValidation.cooldownErrors v.cooldownSeconds := by
    rw [ofRow]
    cases v.cooldownSeconds with
    | none => rfl
    | some cd =>
      simp only [cooldownErrors, SubmitValidation.cooldownErrors, Option.map_some, Option.getD_some, Nat.cast_lt]
  have htype : knownType (ofRow v).type = some v.type := knownType_typeName v.type
  rw [submitErrors, SubmitValidation.submitErrors, hbag, hcooldown, htype, typeErrors]
  simp only [ofRow, Unknown.text, Option.mem_def, Option.some.injEq, forall_eq', errorIf, reduceCtorEq, if_false,
    List.append_nil, savingErrors]

/-! ### What a complete voucher has -/

def HasText (draft : Record) (field : String) : Prop := ∃ s, draft.text field = some s ∧ isBlank s = false

def HasPositive (draft : Record) (field : String) : Prop := ∃ q, draft.num field = some q ∧ 0 < q

/-- The row of the matrix for a mechanic. -/
def Requirement (draft : Record) : MechanicType → Prop
  | .BOGO => HasText draft "bogoBuy" ∧ HasText draft "bogoFree" ∧ HasPositive draft "bogoFreePrice"
  | .SPEND_AND_SAVE => ∃ spend save, draft.num "spendAmount" = some spend ∧ draft.num "spendSave" = some save ∧
      0 < save ∧ save < spend
  | .DISCOUNT_FIXED => HasPositive draft "discAmount"
  | .DISCOUNT_PERCENT => (∃ percent, draft.num "discPercent" = some percent ∧ 0 < percent ∧ percent ≤ 100) ∧
      (HasPositive draft "discMin" ∨ HasPositive draft "discTypicalOrder")
  | .FREEBIE => HasText draft "freeItem" ∧ HasPositive draft "freeWorth" ∧
      (draft.get "freeNeedsPurchase" = some (.bool true) → HasText draft "freeQualify")
  | .PACKAGE_DEAL => HasText draft "packageItems" ∧ ∃ price normal, draft.num "packagePrice" = some price ∧
      draft.num "packageNormal" = some normal ∧ 0 < price ∧ price < normal

structure Complete (v : EffectiveVoucher) : Prop where
  title : ∃ title, v.title = .json (.string title) ∧ isBlank title = false
  saving : ∃ saving, v.estimatedSaving = .json (.number saving) ∧ 0 < saving ∧ toScale2 saving < SAVING_COLUMN_MAX
  type : ∃ type, knownType v.type = some type ∧
    (type = .REUSABLE → ∃ cd, v.cooldownSeconds = .json (.number cd) ∧ REUSABLE_COOLDOWN_FLOOR_SECONDS ≤ cd) ∧
    ∃ mechanic, resolveMechanicType type v.draft = some mechanic ∧ Requirement v.draft mechanic

/-! ### Each check passes on what it asks for -/

theorem errorIf_eq_nil {p : Prop} [Decidable p] {field : String} {code : FieldCode} {message : String} :
    errorIf p field code message = [] ↔ ¬ p := by
  rw [errorIf]
  split
  · exact iff_of_false (List.cons_ne_nil _ _) (not_not.mpr ‹p›)
  · exact iff_of_true rfl ‹¬ p›

theorem requireText_eq_nil {draft : Record} {field label : String} :
    requireText draft field label = [] ↔ HasText draft field := by
  rw [requireText, errorIf_eq_nil, HasText]
  push Not
  simp only [Option.mem_def, ne_eq, Bool.not_eq_true]

/-- A number in range, under a key. -/
def HasPositiveUpTo (draft : Record) (field : String) (maxInclusive : Option ℕ) : Prop :=
  ∃ q, draft.num field = some q ∧ 0 < q ∧ ∀ max ∈ maxInclusive, q ≤ (max : ℚ)

theorem requirePositiveNumber_eq_nil {draft : Record} {field label : String} {maxInclusive : Option ℕ} :
    requirePositiveNumber draft field label maxInclusive = [] ↔ HasPositiveUpTo draft field maxInclusive := by
  rw [requirePositiveNumber, HasPositiveUpTo, Record.num]
  rcases draft.get field with _ | _ | _ | q | _ | _ | _
  case some.number =>
    simp only [Option.some.injEq, exists_eq_left']
    by_cases hq : q ≤ 0
    · rw [if_pos hq]
      exact iff_of_false (List.cons_ne_nil _ _) fun h => absurd h.1 (not_lt.mpr hq)
    · rw [if_neg hq]
      cases maxInclusive with
      | none => exact iff_of_true rfl ⟨not_le.mp hq, fun _ h => absurd h (Option.not_mem_none _)⟩
      | some max =>
        simp only [errorIf_eq_nil, not_lt, Option.mem_def, Option.some.injEq, forall_eq']
        exact (and_iff_right (not_le.mp hq)).symm
  all_goals
    refine iff_of_false (List.cons_ne_nil _ _) ?_
    rintro ⟨q, h, -⟩
    cases h

theorem hasPositiveUpTo_none {draft : Record} {field : String} :
    HasPositiveUpTo draft field none ↔ HasPositive draft field := by
  simp only [HasPositiveUpTo, HasPositive, Option.mem_def, reduceCtorEq, false_imp_iff, implies_true, and_true]

theorem positive_eq_some {draft : Record} {field : String} {q : ℚ} :
    positive draft field = some q ↔ draft.num field = some q ∧ 0 < q := by
  rw [positive, Option.filter_eq_some_iff, decide_eq_true_iff]

theorem positive_eq_none {draft : Record} {field : String} :
    positive draft field = none ↔ ¬ HasPositive draft field := by
  rw [Option.eq_none_iff_forall_ne_some, HasPositive]
  push Not
  simp only [ne_eq, positive_eq_some, not_and, not_lt]

/-- Two numbers that contradict each other unless the first is below the second. -/
theorem below_iff {draft : Record} {low high : String} :
    (HasPositive draft low ∧ HasPositive draft high) ∧
        ¬ (∃ h ∈ positive draft high, ∃ l ∈ positive draft low, h ≤ l) ↔
      ∃ l h, draft.num low = some l ∧ draft.num high = some h ∧ 0 < l ∧ l < h := by
  simp only [Option.mem_def, positive_eq_some]
  constructor
  · rintro ⟨⟨⟨l, hl, hl0⟩, h, hh, hh0⟩, hno⟩
    refine ⟨l, h, hl, hh, hl0, ?_⟩
    by_contra hle
    exact hno ⟨h, ⟨hh, hh0⟩, l, ⟨hl, hl0⟩, not_lt.mp hle⟩
  · rintro ⟨l, h, hl, hh, hl0, hlt⟩
    refine ⟨⟨⟨l, hl, hl0⟩, h, hh, hl0.trans hlt⟩, ?_⟩
    rintro ⟨h', ⟨hh', -⟩, l', ⟨hl', -⟩, hle⟩
    rw [hl, Option.some.injEq] at hl'
    rw [hh, Option.some.injEq] at hh'
    subst hl' hh'
    exact absurd hlt (not_lt.mpr hle)

theorem requirePercent_eq_nil {draft : Record} {field label : String} :
    requirePositiveNumber draft field label (some 100) = [] ↔
      ∃ percent, draft.num field = some percent ∧ 0 < percent ∧ percent ≤ 100 := by
  rw [requirePositiveNumber_eq_nil, HasPositiveUpTo]
  simp only [Option.mem_def, Option.some.injEq, forall_eq', Nat.cast_ofNat]

theorem validateMechanic_eq_nil {draft : Record} {mechanic : MechanicType} :
    validateMechanic mechanic draft = [] ↔ Requirement draft mechanic := by
  cases mechanic with
  | BOGO =>
    simp only [validateMechanic, Requirement, List.append_eq_nil_iff, requireText_eq_nil,
      requirePositiveNumber_eq_nil, hasPositiveUpTo_none, and_assoc]
  | SPEND_AND_SAVE =>
    simp only [validateMechanic, List.append_eq_nil_iff, requirePositiveNumber_eq_nil, hasPositiveUpTo_none,
      errorIf_eq_nil]
    rw [and_comm (a := HasPositive draft "spendAmount"), below_iff, Requirement, exists_comm]
    refine exists_congr fun spend => exists_congr fun save => ?_
    rw [and_left_comm]
  | DISCOUNT_FIXED =>
    simp only [validateMechanic, Requirement, requirePositiveNumber_eq_nil, hasPositiveUpTo_none]
  | DISCOUNT_PERCENT =>
    simp only [validateMechanic, Requirement, List.append_eq_nil_iff, requirePercent_eq_nil, errorIf_eq_nil,
      positive_eq_none, not_and_or, not_not]
  | FREEBIE =>
    simp only [validateMechanic, Requirement, List.append_eq_nil_iff, requireText_eq_nil,
      requirePositiveNumber_eq_nil, hasPositiveUpTo_none, and_assoc]
    refine and_congr_right fun _ => and_congr_right fun _ => ?_
    split
    · rename_i hneeds
      rw [requireText_eq_nil]
      exact ⟨fun ht _ => ht, fun ht => ht hneeds⟩
    · rename_i hneeds
      exact iff_of_true rfl fun h => absurd h hneeds
  | PACKAGE_DEAL =>
    simp only [validateMechanic, List.append_eq_nil_iff, requireText_eq_nil, requirePositiveNumber_eq_nil,
      hasPositiveUpTo_none, errorIf_eq_nil]
    have hswap : (∃ price ∈ positive draft "packagePrice", ∃ normal ∈ positive draft "packageNormal",
        normal ≤ price) ↔ ∃ normal ∈ positive draft "packageNormal", ∃ price ∈ positive draft "packagePrice",
        normal ≤ price := by
      constructor
      · rintro ⟨price, hprice, normal, hnormal, hle⟩
        exact ⟨normal, hnormal, price, hprice, hle⟩
      · rintro ⟨normal, hnormal, price, hprice, hle⟩
        exact ⟨price, hprice, normal, hnormal, hle⟩
    rw [hswap, and_assoc, and_assoc, ← and_assoc (a := HasPositive draft "packagePrice"), below_iff, Requirement]

/-! ### A voucher that is checked strictly -/

theorem savingErrors_eq_nil {estimatedSaving : Unknown} : savingErrors estimatedSaving = [] ↔
    ∃ saving, estimatedSaving = .json (.number saving) ∧ 0 < saving ∧ toScale2 saving < SAVING_COLUMN_MAX := by
  rcases estimatedSaving with _ | _ | _ | _ | saving | _ | _ | _
  case json.number =>
    simp only [savingErrors, SubmitValidation.savingErrors, Unknown.json.injEq, Json.number.injEq, exists_eq_left']
    by_cases hq : saving ≤ 0
    · rw [if_pos hq]
      exact iff_of_false (List.cons_ne_nil _ _) fun h => absurd h.1 (not_lt.mpr hq)
    · rw [if_neg hq, errorIf_eq_nil, not_le]
      exact (and_iff_right (not_le.mp hq)).symm
  all_goals
    refine iff_of_false (List.cons_ne_nil _ _) ?_
    rintro ⟨q, h, -⟩
    cases h

theorem cooldownErrors_eq_nil {cooldownSeconds : Unknown} : cooldownErrors cooldownSeconds = [] ↔
    ∃ cd, cooldownSeconds = .json (.number cd) ∧ REUSABLE_COOLDOWN_FLOOR_SECONDS ≤ cd := by
  rcases cooldownSeconds with _ | _ | _ | _ | cd | _ | _ | _
  case json.number =>
    simp only [cooldownErrors, errorIf_eq_nil, Unknown.json.injEq, Json.number.injEq, exists_eq_left', not_lt]
  all_goals
    refine iff_of_false (List.cons_ne_nil _ _) ?_
    rintro ⟨q, h, -⟩
    cases h

theorem text_eq_some {u : Unknown} {s : String} : u.text = some s ↔ u = .json (.string s) := by
  rcases u with _ | _ | _ | _ | _ | t | _ | _
  case json.string =>
    simp only [Unknown.text, Option.some.injEq, Unknown.json.injEq, Json.string.injEq]
  all_goals exact iff_of_false nofun nofun

theorem mechanicErrors_eq_nil {type : VoucherType} {bag : Record} (hstrict : isStrictSubmitContract bag = true) :
    mechanicErrors type bag = [] ↔ ∃ mechanic,
      resolveMechanicType type ((resolveStructuredBag bag).getD []) = some mechanic ∧
        Requirement ((resolveStructuredBag bag).getD []) mechanic := by
  rw [mechanicErrors, if_pos (Or.inl hstrict)]
  cases resolveMechanicType type ((resolveStructuredBag bag).getD []) with
  | none => exact iff_of_false (List.cons_ne_nil _ _) (by rintro ⟨_, h, -⟩; cases h)
  | some mechanic => simp only [validateMechanic_eq_nil, Option.some.injEq, exists_eq_left']

theorem submittable_iff {v : EffectiveVoucher} : assertVoucherSubmittable v = .ok () ↔ submitErrors v = [] := by
  rw [assertVoucherSubmittable, rejectIf_eq_ok, not_not]

theorem submittable_iff_complete {v : EffectiveVoucher} (hstrict : Strict v) :
    assertVoucherSubmittable v = .ok () ↔ Complete v := by
  rw [submittable_iff, submitErrors]
  simp only [List.append_eq_nil_iff, errorIf_eq_nil, savingErrors_eq_nil]
  constructor
  · rintro ⟨⟨⟨⟨htitle, htype⟩, hsaving⟩, hcooldown⟩, hmechanic⟩
    push Not at htitle
    obtain ⟨title, ht, hblank⟩ := htitle
    obtain ⟨type, hknown⟩ := Option.ne_none_iff_exists'.mp htype
    rw [hknown, typeErrors, mechanicErrors_eq_nil hstrict] at hmechanic
    refine ⟨⟨title, text_eq_some.mp ht, Bool.not_eq_true _ ▸ hblank⟩, hsaving, type, hknown, ?_, hmechanic⟩
    rintro rfl
    rwa [if_pos hknown, cooldownErrors_eq_nil] at hcooldown
  · rintro ⟨⟨title, ht, hblank⟩, hsaving, type, hknown, hcooldown, hmechanic⟩
    refine ⟨⟨⟨⟨?_, ?_⟩, hsaving⟩, ?_⟩, ?_⟩
    · intro hall
      rw [hall title (text_eq_some.mpr ht)] at hblank
      cases hblank
    · rw [hknown]
      exact Option.some_ne_none type
    · split
      · rw [hknown, Option.some.injEq] at *
        exact cooldownErrors_eq_nil.mpr (hcooldown ‹_›)
      · rfl
    · rw [hknown, typeErrors, mechanicErrors_eq_nil hstrict]
      exact hmechanic

/-! ### The two shapes of a bag -/

/-- The keys of a draft that the check reads. -/
def CANONICAL_KEYS : List String :=
  ["builderType", "baseMechanic", "discountKind", "bogoBuy", "bogoFree", "bogoFreePrice", "spendAmount", "spendSave",
    "discAmount", "discPercent", "discMin", "discTypicalOrder", "freeItem", "freeWorth", "freeNeedsPurchase",
    "freeQualify", "packageItems", "packagePrice", "packageNormal"]

def SameDraft (r s : Record) : Prop := ∀ key ∈ CANONICAL_KEYS, r.get key = s.get key

section SameDraft

variable {r s : Record}

theorem requireText_congr {field label : String} (h : r.get field = s.get field) :
    requireText r field label = requireText s field label := by
  simp only [requireText, Record.text_congr h]

theorem requirePositiveNumber_congr {field label : String} {maxInclusive : Option ℕ}
    (h : r.get field = s.get field) :
    requirePositiveNumber r field label maxInclusive = requirePositiveNumber s field label maxInclusive := by
  rw [requirePositiveNumber, requirePositiveNumber, h]

theorem positive_congr {field : String} (h : r.get field = s.get field) : positive r field = positive s field := by
  rw [positive, positive, Record.num_congr h]

theorem fromDiscountKind_congr (h : SameDraft r s) : fromDiscountKind r = fromDiscountKind s := by
  rw [fromDiscountKind, fromDiscountKind, Record.text_congr (h "discountKind" (by decide))]

theorem mechanicFromBuilderId_congr (h : SameDraft r s) (id : Option String) :
    mechanicFromBuilderId r id = mechanicFromBuilderId s id := by
  unfold mechanicFromBuilderId
  rw [fromDiscountKind_congr h]

theorem resolveMechanicType_congr (h : SameDraft r s) (type : VoucherType) :
    resolveMechanicType type r = resolveMechanicType type s := by
  have hbase := Record.text_congr (h "baseMechanic" (by decide))
  have hbuilder := Record.text_congr (h "builderType" (by decide))
  cases type <;>
    simp only [resolveMechanicType, fromDiscountKind_congr h, mechanicFromBuilderId_congr h, hbase, hbuilder]

theorem validateMechanic_congr (h : SameDraft r s) (mechanic : MechanicType) :
    validateMechanic mechanic r = validateMechanic mechanic s := by
  cases mechanic with
  | BOGO =>
    rw [validateMechanic, validateMechanic, requireText_congr (h "bogoBuy" (by decide)),
      requireText_congr (h "bogoFree" (by decide)), requirePositiveNumber_congr (h "bogoFreePrice" (by decide))]
  | SPEND_AND_SAVE =>
    simp only [validateMechanic, requirePositiveNumber_congr (h "spendAmount" (by decide)),
      requirePositiveNumber_congr (h "spendSave" (by decide)), positive_congr (h "spendAmount" (by decide)),
      positive_congr (h "spendSave" (by decide))]
  | DISCOUNT_FIXED =>
    rw [validateMechanic, validateMechanic, requirePositiveNumber_congr (h "discAmount" (by decide))]
  | DISCOUNT_PERCENT =>
    simp only [validateMechanic, requirePositiveNumber_congr (h "discPercent" (by decide)),
      positive_congr (h "discMin" (by decide)), positive_congr (h "discTypicalOrder" (by decide))]
  | FREEBIE =>
    rw [validateMechanic, validateMechanic, requireText_congr (h "freeItem" (by decide)),
      requirePositiveNumber_congr (h "freeWorth" (by decide)), h "freeNeedsPurchase" (by decide),
      requireText_congr (h "freeQualify" (by decide))]
  | PACKAGE_DEAL =>
    simp only [validateMechanic, requireText_congr (h "packageItems" (by decide)),
      requirePositiveNumber_congr (h "packagePrice" (by decide)),
      requirePositiveNumber_congr (h "packageNormal" (by decide)), positive_congr (h "packagePrice" (by decide)),
      positive_congr (h "packageNormal" (by decide))]

end SameDraft

/-- What is checked of a structured bag, marked or not, is its draft. -/
theorem mechanicErrors_congr {bag bag' draft draft' : Record} (hbag : resolveStructuredBag bag = some draft)
    (hbag' : resolveStructuredBag bag' = some draft') (hsame : SameDraft draft draft') (type : VoucherType) :
    mechanicErrors type bag' = mechanicErrors type bag := by
  simp only [mechanicErrors, hbag, hbag', Option.isSome_some, or_true, if_true, Option.getD_some,
    resolveMechanicType_congr hsame]
  cases resolveMechanicType type draft' with
  | none => rfl
  | some mechanic => exact (validateMechanic_congr hsame mechanic).symm

theorem submitErrors_congr {v : EffectiveVoucher} {merchantFields : Unknown} {draft draft' : Record}
    (hbag : resolveStructuredBag v.merchantFields.record = some draft)
    (hbag' : resolveStructuredBag merchantFields.record = some draft') (hsame : SameDraft draft draft') :
    submitErrors { v with merchantFields := merchantFields } = submitErrors v := by
  have htype (type : Option VoucherType) :
      typeErrors type merchantFields.record = typeErrors type v.merchantFields.record := by
    cases type with
    | none => rfl
    | some type => exact mechanicErrors_congr hbag hbag' hsame type
  rw [submitErrors, submitErrors, htype]

/-- A flagship's bag: the draft is nested. -/
def flagshipBag (rest draft : Record) : Record := rest.spread [("merchantFields", .object draft)]

/-- A custom voucher's: the builder's id is beside it. -/
def customBag (rest draft : Record) (builderType : String) : Record :=
  rest.spread [("builderType", .string builderType), ("draftFields", .object draft)]

theorem resolveStructuredBag_flagshipBag {rest draft : Record} {builderType : String}
    (hbuilder : draft.text "builderType" = some builderType) :
    resolveStructuredBag (flagshipBag rest draft) = some draft := by
  have hchild : (flagshipBag rest draft).child "merchantFields" = some draft := by
    rw [Record.child, flagshipBag, Record.get_spread]
    rfl
  rw [resolveStructuredBag, hchild, Option.filter_some, hbuilder]
  rfl

/-- Without a base mechanic of its own, it has the draft's. -/
theorem resolveStructuredBag_customBag {rest draft : Record} {builderType : String}
    (hbuilder : draft.get "builderType" = some (.string builderType)) (hnested : rest.get "merchantFields" = none)
    (hbase : rest.get "baseMechanic" = none) :
    ∃ draft', resolveStructuredBag (customBag rest draft builderType) = some draft' ∧ SameDraft draft draft' := by
  have hget (key : String) (hkey : rest.get key = none) (hne : key ≠ "builderType") (hne' : key ≠ "draftFields") :
      (customBag rest draft builderType).get key = none := by
    rw [customBag, Record.get_spread, Record.get_cons, if_neg hne, Record.get_cons, if_neg hne', hkey]
    rfl
  have hchild : (customBag rest draft builderType).child "merchantFields" = none := by
    rw [Record.child, hget "merchantFields" hnested (by decide) (by decide)]
  have hbaseText : (customBag rest draft builderType).text "baseMechanic" = none := by
    rw [Record.text, hget "baseMechanic" hbase (by decide) (by decide)]
  have hid : (customBag rest draft builderType).text "builderType" = some builderType := by
    rw [Record.text, customBag, Record.get_spread]
    rfl
  have hfields : (customBag rest draft builderType).child "draftFields" = some draft := by
    rw [Record.child, customBag, Record.get_spread]
    rfl
  refine ⟨(draft.spread [("builderType", .string builderType)]).spread [], ?_, fun key _ => ?_⟩
  · rw [resolveStructuredBag, hchild, customShape, hid, hfields, hbaseText]
    rfl
  · rw [Record.get_spread, Record.get_spread, Record.get_cons]
    by_cases hkey : key = "builderType"
    · rw [if_pos hkey, hkey, hbuilder]
      rfl
    · rw [if_neg hkey]
      rfl

/-- A strict voucher is let through exactly when it is complete; and two bags whose drafts agree on what the
    check reads, in whichever shapes, get the same verdict. -/
theorem strict_submission_complete (v : EffectiveVoucher) :
    (Strict v → (assertVoucherSubmittable v = .ok () ↔ Complete v)) ∧
      ∀ merchantFields draft draft', resolveStructuredBag v.merchantFields.record = some draft →
        resolveStructuredBag merchantFields.record = some draft' → SameDraft draft draft' →
        assertVoucherSubmittable { v with merchantFields := merchantFields } = assertVoucherSubmittable v := by
  refine ⟨submittable_iff_complete, fun merchantFields draft draft' hbag hbag' hsame => ?_⟩
  simp only [assertVoucherSubmittable, submitErrors_congr hbag hbag' hsame]

/-- Buy a coffee, get a cake. -/
def coffeeDraft : Record :=
  [("builderType", .string "bogo"), ("bogoBuy", .string "A coffee"), ("bogoFree", .string "A cake"),
    ("bogoFreePrice", .number 3)]

def coffeeBag : Record := flagshipBag [(SUBMIT_CONTRACT_KEY, .string STRICT_SUBMIT_CONTRACT)] coffeeDraft

def coffeeVoucher (bag : Record) : EffectiveVoucher where
  type := .json (.string "BOGO")
  title := .json (.string "Cake on us")
  estimatedSaving := .json (.number 3)
  merchantFields := .json (.object bag)
  windowCount := 0
  cooldownSeconds := .json .null

theorem coffee_complete : Complete (coffeeVoucher coffeeBag) where
  title := ⟨"Cake on us", rfl, by decide⟩
  saving := ⟨3, rfl, by decide, by decide +kernel⟩
  type := by
    refine ⟨.BOGO, rfl, nofun, .BOGO, rfl, ?_⟩
    exact ⟨⟨"A coffee", rfl, by decide⟩, ⟨"A cake", rfl, by decide⟩, 3, rfl, by decide⟩

/-- It passes, and so does the same draft in a custom voucher's bag. -/
theorem strict_submission_complete_coffee :
    assertVoucherSubmittable (coffeeVoucher coffeeBag) = .ok () ∧
      assertVoucherSubmittable (coffeeVoucher (customBag [] coffeeDraft "bogo")) = .ok () := by
  obtain ⟨hstrict, hsame⟩ := strict_submission_complete (coffeeVoucher coffeeBag)
  have hok : assertVoucherSubmittable (coffeeVoucher coffeeBag) = .ok () := (hstrict rfl).mpr coffee_complete
  refine ⟨hok, ?_⟩
  have hcustomBag : ∃ draft', resolveStructuredBag (customBag [] coffeeDraft "bogo") = some draft' ∧
      SameDraft coffeeDraft draft' := resolveStructuredBag_customBag rfl rfl rfl
  obtain ⟨draft', hcustom, hdraft⟩ := hcustomBag
  have hflagship : resolveStructuredBag coffeeBag = some coffeeDraft := resolveStructuredBag_flagshipBag rfl
  exact (hsame (.json (.object (customBag [] coffeeDraft "bogo"))) coffeeDraft draft' hflagship hcustom hdraft).trans
    hok

end Redeemo.SubmitGate
