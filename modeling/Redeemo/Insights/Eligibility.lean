import Redeemo.Insights.London
import Redeemo.Lib.Bags
import Redeemo.Shared.Schema

/-! Which redemptions an insights figure counts: the rows of the merchant, in the caller's branches, of real customers.

    A database is its tables: `redemptions` a bag, the tables that its rows refer to functions of an id. -/

namespace Redeemo.Insights
open WallTime

/-- The order of the values in the database. -/
theorem ctorIdx_injective_voucherType : Function.Injective VoucherType.ctorIdx := by
  intro a b h
  cases a <;> cases b <;> first | rfl | cases h

theorem ctorIdx_injective_validationMethod : Function.Injective ValidationMethod.ctorIdx := by
  intro a b h
  cases a <;> cases b <;> first | rfl | cases h

instance : LinearOrder VoucherType := LinearOrder.lift' VoucherType.ctorIdx ctorIdx_injective_voucherType

instance : LinearOrder ValidationMethod :=
  LinearOrder.lift' ValidationMethod.ctorIdx ctorIdx_injective_validationMethod

/-! ### Tables -/

structure Redemption where
  id : String
  userId : String
  voucherId : String
  branchId : String
  validationMethod : Option ValidationMethod
  isValidated : Bool
  estimatedSaving : ℚ
  redeemedAt : ℤ
  isTestData : Bool
  deriving DecidableEq

structure Branch where
  merchantId : String
  name : String
  isTestData : Bool
  deriving DecidableEq

structure Merchant where
  status : MerchantStatus
  isTestData : Bool
  deriving DecidableEq

structure User where
  status : UserStatus
  email : String
  deriving DecidableEq

structure Voucher where
  merchantId : String
  type : VoucherType
  title : String
  approvedAt : Option ℤ
  publishedAt : Option ℤ
  deriving DecidableEq

structure Database where
  redemptions : Multiset Redemption
  branch : String → Option Branch
  merchant : String → Option Merchant
  user : String → Option User
  voucher : String → Option Voucher
  /-- In which order groups come out of a query that names none. -/
  order : Bags.Order

/-- A redemption with the rows it refers to. -/
structure Row where
  r : Redemption
  b : Branch
  m : Merchant
  u : User
  deriving DecidableEq

structure VoucherRow extends Row where
  v : Voucher
  deriving DecidableEq

def Database.row (db : Database) (r : Redemption) : Option Row := do
  let b ← db.branch r.branchId
  let m ← db.merchant b.merchantId
  let u ← db.user r.userId
  return ⟨r, b, m, u⟩

def Database.rows (db : Database) : Multiset Row := db.redemptions.filterMap db.row

def Database.voucherRows (db : Database) : Multiset VoucherRow :=
  db.rows.filterMap fun row => (db.voucher row.r.voucherId).map (VoucherRow.mk row)

/-! ### The caller -/

/-- Ids are strings here: an empty branch id means something else than one that is unknown. -/
structure MerchantContext where
  merchantId : String
  role : MerchantRole
  allBranches : Bool
  allowedBranchIds : List String

/-- `none` is every branch of the merchant. -/
abbrev InsightsBranchScope := Option (List String)

def insightsScope (ctx : MerchantContext) : InsightsBranchScope :=
  if ctx.allBranches then none else some ctx.allowedBranchIds

/-- The caller's branches and the branch that the client asks for. -/
def effectiveScope (ctx : MerchantContext) (branchId : Option String) : InsightsBranchScope :=
  match branchId with
  | none => insightsScope ctx
  | some branchId =>
    if branchId = "" then insightsScope ctx
    else match insightsScope ctx with
      | none => some [branchId]
      | some ids => if branchId ∈ ids then some [branchId] else some []

/-! ### What the process is configured with -/

structure Env where
  REDEEMO_DEPLOY_ENV : Option String
  INSIGHTS_DEMO_INCLUDE : Option String
  INSIGHTS_DEMO_MERCHANT_ID : Option String
  INSIGHTS_BEHAVIOURAL_GATE : Option String
  INSIGHTS_BUSY_PEAK_MIN_COUNT : Option String
  INSIGHTS_REPEAT_RATE_MIN_COHORT : Option String

def isStagingDeploy (env : Env) : Prop := env.REDEEMO_DEPLOY_ENV = some "staging"

instance (env : Env) : Decidable (isStagingDeploy env) :=
  inferInstanceAs (Decidable (env.REDEEMO_DEPLOY_ENV = some "staging"))

/-- The demo merchant, when it is the one asked about. -/
def demoIncludeMerchantId (env : Env) (merchantId : String) : Option String :=
  if ¬ isStagingDeploy env then none
  else if env.INSIGHTS_DEMO_INCLUDE ≠ some "1" then none
  else match env.INSIGHTS_DEMO_MERCHANT_ID with
    | none => none
    | some allowlisted => if allowlisted = "" ∨ merchantId ≠ allowlisted then none else some merchantId

def behaviouralGateOpen (env : Env) : Prop :=
  env.INSIGHTS_BEHAVIOURAL_GATE = some "1" ∨ env.INSIGHTS_BEHAVIOURAL_GATE = some "true"

instance (env : Env) : Decidable (behaviouralGateOpen env) :=
  inferInstanceAs (Decidable (env.INSIGHTS_BEHAVIOURAL_GATE = some "1" ∨ env.INSIGHTS_BEHAVIOURAL_GATE = some "true"))

def MAX_SAFE_INTEGER : ℤ := 2 ^ 53 - 1

/-- A positive integer without sign or leading zero. -/
def readPositiveIntThreshold (raw : Option String) : Option ℕ := do
  let s ← raw
  match s.toList with
  | [] => none
  | c :: cs =>
    if c.isDigit ∧ c ≠ '0' ∧ cs.all Char.isDigit ∧ digitsValue (c :: cs) ≤ MAX_SAFE_INTEGER then
      some (digitsValue (c :: cs)).toNat
    else none

def busyPeakMinCount (env : Env) : Option ℕ := readPositiveIntThreshold env.INSIGHTS_BUSY_PEAK_MIN_COUNT

def repeatRateMinCohort (env : Env) : Option ℕ := readPositiveIntThreshold env.INSIGHTS_REPEAT_RATE_MIN_COHORT

/-! ### The eligible rows -/

def QA_ACCOUNT_EMAILS : List String := ["customer@redeemo.com"]

def QA_ACCOUNT_EMAIL_DOMAINS : List String := ["redeemo.dev"]

/-- `LOWER`; neither list has a letter that another script folds to. -/
def lower (s : String) : List Char := s.toList.map Char.toLower

def buildQaEmailExclusionSql (email : String) : Prop :=
  (∀ e ∈ QA_ACCOUNT_EMAILS, lower email ≠ lower e) ∧ ∀ d ∈ QA_ACCOUNT_EMAIL_DOMAINS, ¬ '@' :: lower d <:+ lower email

instance : DecidablePred buildQaEmailExclusionSql := fun email => inferInstanceAs (Decidable
  ((∀ e ∈ QA_ACCOUNT_EMAILS, lower email ≠ lower e) ∧ ∀ d ∈ QA_ACCOUNT_EMAIL_DOMAINS, ¬ '@' :: lower d <:+ lower email))

def buildBranchScopeSql (scope : InsightsBranchScope) (branchId : String) : Prop := ∀ ids ∈ scope, branchId ∈ ids

instance (scope : InsightsBranchScope) (branchId : String) : Decidable (buildBranchScopeSql scope branchId) :=
  inferInstanceAs (Decidable (∀ ids ∈ scope, branchId ∈ ids))

/-- Test rows only for the demo merchant, and none for any other. -/
def testDataValue (merchantId : String) (includeTestDataForMerchantId : Option String) : Bool :=
  includeTestDataForMerchantId = some merchantId

structure EligibilityWhere (merchantId : String) (branchScope : InsightsBranchScope)
    (includeTestDataForMerchantId : Option String) (row : Row) : Prop where
  tenant : row.b.merchantId = merchantId
  redemption : row.r.isTestData = testDataValue merchantId includeTestDataForMerchantId
  branch : row.b.isTestData = testDataValue merchantId includeTestDataForMerchantId
  merchant : row.m.isTestData = testDataValue merchantId includeTestDataForMerchantId
  user : row.u.status ≠ .DELETED
  email : buildQaEmailExclusionSql row.u.email
  scope : buildBranchScopeSql branchScope row.r.branchId

instance (merchantId : String) (branchScope : InsightsBranchScope) (includeTest : Option String) (row : Row) :
    Decidable (EligibilityWhere merchantId branchScope includeTest row) :=
  decidable_of_iff (row.b.merchantId = merchantId ∧ row.r.isTestData = testDataValue merchantId includeTest ∧
      row.b.isTestData = testDataValue merchantId includeTest ∧
      row.m.isTestData = testDataValue merchantId includeTest ∧
      row.u.status ≠ .DELETED ∧ buildQaEmailExclusionSql row.u.email ∧ buildBranchScopeSql branchScope row.r.branchId)
    ⟨fun ⟨h1, h2, h3, h4, h5, h6, h7⟩ => ⟨h1, h2, h3, h4, h5, h6, h7⟩,
      fun h => ⟨h.tenant, h.redemption, h.branch, h.merchant, h.user, h.email, h.scope⟩⟩

end Redeemo.Insights
