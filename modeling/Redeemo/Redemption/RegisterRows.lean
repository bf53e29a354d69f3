import Mathlib.Data.Rat.Defs
import Redeemo.Lib.Records
import Redeemo.Shared.Schema

/-! The rows of the merchant's redemption register, and the codes that it is searched by. -/

namespace Redeemo.Redemptions
open Records

/-- How names and times are written. -/
structure Texts where
  /-- `charAt(0).toUpperCase()`. -/
  initial : String → String
  toISOString : ℤ → String

inductive RedemptionStatus
  | AWAITING_VALIDATION | VALIDATED
  deriving DecidableEq, Repr

structure PersonName where
  firstName : Option String
  lastName : Option String
  deriving DecidableEq

structure VoucherSelect where
  id : String
  title : String
  type : VoucherType
  description : Option String
  terms : Option String
  deriving DecidableEq

structure BranchSelect where
  id : String
  name : String
  deriving DecidableEq

/-- A redemption as `ROW_SELECT` reads it. -/
structure SelectedRow where
  id : String
  redemptionCode : String
  redeemedAt : ℤ
  isValidated : Bool
  validatedAt : Option ℤ
  validationMethod : Option ValidationMethod
  estimatedSaving : ℚ
  voucher : VoucherSelect
  branch : BranchSelect
  user : Option PersonName
  validatedBy : Option PersonName
  deriving DecidableEq

structure MerchantRedemptionRow where
  id : String
  redemptionCode : String
  voucher : VoucherSelect
  branch : BranchSelect
  customerName : String
  redeemedAt : String
  status : RedemptionStatus
  validatedAt : Option String
  validationMethod : Option ValidationMethod
  validatedByLabel : Option String
  validatedBy : Option String
  estimatedSaving : ℚ
  deriving DecidableEq

section
variable (x : Texts)

def formatCustomerName (name : PersonName) : String :=
  let first := trim (name.firstName.getD "")
  let last := trim (name.lastName.getD "")
  if first = "" ∧ last = "" then "Customer"
  else if last = "" then first
  else if first = "" then x.initial last ++ "."
  else first ++ " " ++ x.initial last ++ "."

def deriveRedemptionStatus (isValidated : Bool) : RedemptionStatus :=
  if isValidated then .VALIDATED else .AWAITING_VALIDATION

def validatedByLabel (r : SelectedRow) : Option String :=
  if r.isValidated = false then none
  else match r.validatedBy with
    | some name => some (formatCustomerName x name)
    | none => some "Validated in the portal"

def validatedByDisplayName (r : SelectedRow) : Option String :=
  if r.isValidated = false then none
  else
    let first := trim ((r.validatedBy.bind PersonName.firstName).getD "")
    let last := trim ((r.validatedBy.bind PersonName.lastName).getD "")
    let full := String.intercalate " " ([first, last].filter fun s => s ≠ "")
    some (if full = "" then "Validated in the portal" else full)

def toMerchantRedemptionRow (r : SelectedRow) : MerchantRedemptionRow where
  id := r.id
  redemptionCode := r.redemptionCode
  voucher := r.voucher
  branch := r.branch
  customerName := formatCustomerName x (r.user.getD ⟨none, none⟩)
  redeemedAt := x.toISOString r.redeemedAt
  status := deriveRedemptionStatus r.isValidated
  validatedAt := r.validatedAt.map x.toISOString
  validationMethod := r.validationMethod
  validatedByLabel := validatedByLabel x r
  validatedBy := validatedByDisplayName r
  estimatedSaving := r.estimatedSaving

end

/-! ### Codes -/

/-- `toUpperCase` as far as `[A-Z0-9]` sees it: outside ASCII only these give a letter of it. -/
def upperCase (c : Char) : List Char :=
  match c with
  | 'ß' => ['S', 'S']
  | 'ı' => ['I']
  | 'ŉ' => ['\u02bc', 'N']
  | 'ſ' => ['S']
  | 'ǰ' => ['J', '\u030c']
  | 'ẖ' => ['H', '\u0331']
  | 'ẗ' => ['T', '\u0308']
  | 'ẘ' => ['W', '\u030a']
  | 'ẙ' => ['Y', '\u030a']
  | 'ẚ' => ['A', '\u02be']
  | 'ﬀ' => ['F', 'F']
  | 'ﬁ' => ['F', 'I']
  | 'ﬂ' => ['F', 'L']
  | 'ﬃ' => ['F', 'F', 'I']
  | 'ﬄ' => ['F', 'F', 'L']
  | 'ﬅ' => ['S', 'T']
  | 'ﬆ' => ['S', 'T']
  | c => [c.toUpper]

/-- `[A-Z0-9]`. -/
def isCodeChar (c : Char) : Bool := c.isUpper || c.isDigit

def normalizeRedemptionCode (raw : String) : String :=
  String.ofList ((raw.toList.flatMap upperCase).filter isCodeChar)

end Redeemo.Redemptions
