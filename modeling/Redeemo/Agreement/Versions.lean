import Redeemo.Lib.Bytes
import Redeemo.Lib.Fallible
import Redeemo.Lib.Records
import Redeemo.Shared.Errors

/-! The versions of the merchant agreement, and the body that a signer reviews.

    Either lane renders the body from the agreement, the merchant and the signer with `renderReviewedBody`, and the
    hash that the client echoes is of that body. -/

namespace Redeemo.Agreements
open Bytes Fallible Records

/-- What the runtime does with texts, and the text of the second version. -/
structure Runtime where
  normalizeNFC : String → String
  toLowerCase : String → String
  /-- In hexadecimal digits. -/
  sha256 : Buffer → String
  /-- `\p(Default_Ignorable_Code_Point)` and `\p(Cc)`. -/
  isInvisibleOrControl : Char → Bool
  /-- `\p(L)` and `\p(N)`. -/
  isLetterOrNumber : Char → Bool
  MERCHANT_AGREEMENT_V2_SOURCE : String

/-- The variables of a deployment. -/
structure Env where
  REDEEMO_DEPLOY_ENV : Option String
  NODE_ENV : Option String
  AGREEMENT_LEGAL_REVIEW_REQUIRED : Option String
  STORAGE_ENABLED : Option String

inductive AgreementSignMethod
  | IN_PERSON_ASSISTED | SELF_SERVE_CLICK
  deriving DecidableEq, Repr

variable (rt : Runtime)

/-! ### The registry -/

structure AgreementVersion where
  version : String
  content : String
  contentHash : String
  isDraft : Bool
  deriving DecidableEq

def computeContentHash (content : String) : String := rt.sha256 (utf8 content)

def CURRENT_AGREEMENT_VERSION : String := "2.1-draft"
def LEGACY_CONTRACT_VERSION : String := "1.0"

def LEGACY_CONTRACT_TEXT : String := trim (
  "\nRedeemo Merchant Agreement v" ++ LEGACY_CONTRACT_VERSION ++
  "\n\nBy accepting this agreement, you agree to offer a minimum of two Redeemo Mandatory Vouchers (RMV) on the " ++
  "platform. These vouchers are performance-based — you are only promoted when a customer redeems. You retain full " ++
  "control of your custom vouchers. Redeemo reserves the right to suspend merchants who fail to honour redeemed " ++
  "vouchers.\n\nFull legal terms are available at redeemo.co.uk/merchant-terms.\n")

def V1_LEGACY : AgreementVersion :=
  ⟨LEGACY_CONTRACT_VERSION, LEGACY_CONTRACT_TEXT, computeContentHash rt LEGACY_CONTRACT_TEXT, false⟩

def V2_DRAFT : AgreementVersion :=
  ⟨CURRENT_AGREEMENT_VERSION, rt.MERCHANT_AGREEMENT_V2_SOURCE, computeContentHash rt rt.MERCHANT_AGREEMENT_V2_SOURCE,
    true⟩

/-- Older versions first. -/
def REGISTRY : List AgreementVersion := [V1_LEGACY rt, V2_DRAFT rt]

def getCurrentAgreement : AgreementVersion := V2_DRAFT rt

def getLatestNonDraftAgreement : Option AgreementVersion := ((REGISTRY rt).filter fun v => !v.isDraft).getLast?

/-! ### The gates -/

def isProductionDeploy (env : Env) : Bool :=
  if env.REDEEMO_DEPLOY_ENV = some "staging" then false
  else if env.REDEEMO_DEPLOY_ENV = some "production" then true
  else env.NODE_ENV = some "production"

/-- Unless it is switched off. -/
def legalReviewRequired (env : Env) : Bool := env.AGREEMENT_LEGAL_REVIEW_REQUIRED.getD "true" ≠ "false"

def isStorageEnabled (env : Env) : Bool := env.STORAGE_ENABLED.getD "" = "true"

def isVersionGated (env : Env) (version : AgreementVersion) : Bool := version.isDraft || legalReviewRequired env

def isVersionWatermarked (version : AgreementVersion) : Bool := version.isDraft

def getServedAgreement (env : Env) : AgreementVersion :=
  let current := getCurrentAgreement rt
  if isProductionDeploy env = true ∧ current.isDraft = true then (getLatestNonDraftAgreement rt).getD current
  else current

def assertBindingWriteAllowed (env : Env) (version : AgreementVersion) : Except AppError Unit :=
  rejectIf (isVersionGated env version = true ∧ isProductionDeploy env = true) .AGREEMENT_LEGAL_REVIEW_REQUIRED

/-! ### The reviewed body -/

def NOT_PROVIDED : String := "Not provided"

/-- `/\s+/g`, every run of white space one blank; `inRun` says that its blank has just been written. -/
def collapse : Bool → List Char → List Char
  | _, [] => []
  | inRun, c :: cs =>
    if isWhiteSpace c = false then c :: collapse false cs
    else if inRun = true then collapse true cs
    else ' ' :: collapse true cs

def normalizeSignerText (raw : Option String) : String :=
  let collapsed := trim (String.ofList (collapse false (rt.normalizeNFC (raw.getD "")).toList))
  trim (String.ofList (collapsed.toList.filter fun c => !rt.isInvisibleOrControl c))

def hasLegibleContent (value : String) : Bool := value.toList.any rt.isLetterOrNumber

def methodLabel : AgreementSignMethod → String
  | .IN_PERSON_ASSISTED => "In-person assisted (Redeemo representative device)"
  | .SELF_SERVE_CLICK => "Self-serve (merchant portal click-to-agree)"

/-- `[a-zA-Z0-9_]`. -/
def isKeyChar (c : Char) : Bool := c.isAlphanum || c = '_'

/-- The key of a placeholder and what follows it, after its opening braces. -/
def readPlaceholder (cs : List Char) : Option (String × List Char) :=
  let inner := cs.dropWhile isWhiteSpace
  match (inner.dropWhile isKeyChar).dropWhile isWhiteSpace with
  | '}' :: '}' :: rest =>
    if inner.takeWhile isKeyChar = [] then none else some (String.ofList (inner.takeWhile isKeyChar), rest)
  | _ => none

/-- A placeholder without a value stays as it is written. The number bounds the length. -/
def substituteFrom (value : String → Option String) : ℕ → List Char → List Char
  | 0, cs => cs
  | n + 1, '{' :: '{' :: cs =>
    match readPlaceholder cs with
    | some (key, rest) =>
      match value key with
      | some v => v.toList ++ substituteFrom value n rest
      | none => '{' :: '{' :: cs.take (cs.length - rest.length) ++ substituteFrom value n rest
    | none => '{' :: substituteFrom value n ('{' :: cs)
  | n + 1, c :: cs => c :: substituteFrom value n cs
  | _ + 1, [] => []

def substituteAgreementPlaceholders (source : String) (value : String → Option String) : String :=
  String.ofList (substituteFrom value source.toList.length source.toList)

structure ReviewedBodyInput where
  version : String
  canonicalContentHash : String
  content : String
  method : AgreementSignMethod
  businessLegalName : String
  tradingName : Option String
  companyNumber : Option String
  vatNumber : Option String
  signerName : String
  signerRoleConfirmation : String

structure ReviewedBodyResult where
  reviewedBody : String
  reviewedContentHash : String
  normalizedSignerName : String
  normalizedSignerRole : String

/-- `value || NOT_PROVIDED`. -/
def orNotProvided (value : Option String) : String := (value.filter (· ≠ "")).getD NOT_PROVIDED

def ReviewedBodyInput.values (input : ReviewedBodyInput) (signerName signerRole : String) : String → Option String
  | "businessLegalName" => some input.businessLegalName
  | "tradingName" => some (orNotProvided input.tradingName)
  | "companyNumber" => some (orNotProvided input.companyNumber)
  | "vatNumber" => some (orNotProvided input.vatNumber)
  | "signerName" => some signerName
  | "signerRoleConfirmation" => some signerRole
  | "agreementVersion" => some input.version
  | "contentHash" => some input.canonicalContentHash
  | "method" => some (methodLabel input.method)
  | _ => none

def renderReviewedBody (input : ReviewedBodyInput) : Except AppError ReviewedBodyResult := do
  let name := normalizeSignerText rt (some input.signerName)
  let role := normalizeSignerText rt (some input.signerRoleConfirmation)
  rejectIf (hasLegibleContent rt name = false ∨ hasLegibleContent rt role = false) .AGREEMENT_SIGNER_INVALID
  let body := rt.normalizeNFC (substituteAgreementPlaceholders input.content (input.values name role))
  return ⟨body, computeContentHash rt body, name, role⟩

variable {rt}

/-- The body is the pre-image of its hash. -/
theorem reviewedContentHash_eq {input : ReviewedBodyInput} {r : ReviewedBodyResult}
    (h : renderReviewedBody rt input = .ok r) : r.reviewedContentHash = computeContentHash rt r.reviewedBody := by
  obtain ⟨_, -, he⟩ := bind_ok_iff.mp h
  cases he
  rfl

end Redeemo.Agreements
