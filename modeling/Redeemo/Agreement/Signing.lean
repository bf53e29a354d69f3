import Redeemo.Agreement.Versions
import Redeemo.Lib.ReadCommitted
import Redeemo.Lib.Runs
import Redeemo.Shared.MerchantContext

/-! Signing the agreement: `signAgreementInPerson` and the two lanes of `acceptContract`.

    A call checks, uploads the PDF where the lane has one, and runs its transaction statement by statement at READ
    COMMITTED. A transaction that fails is rolled back, and the call then deletes its PDF. The assisted lane flips the
    status where the merchant is not SIGNED and writes the contract after that; the others insert the contract, which
    is unique, and then write the status. `MerchantContract.merchantId` is the key of the contracts here. -/

namespace Redeemo.Agreements
open Bytes Fallible Records ReadCommitted Runs

/-! ### Rows -/

inductive SignatureMethod
  | CLICK_TO_AGREE | ZOHO_SIGN
  deriving DecidableEq, Repr

structure MerchantRow where
  contractStatus : ContractStatus
  contractStartDate : Option ℤ
  businessName : String
  tradingName : Option String
  companyNumber : Option String
  vatNumber : Option String
  deriving DecidableEq

structure MerchantContract where
  signedAt : ℤ
  ipAddress : String
  tcVersion : String
  signatureMethod : SignatureMethod
  zohoSignRequestId : Option String
  deriving DecidableEq

/-- `document/<ownerId>/<random>.pdf`. The number of the call that mints the key stands for its random part. -/
structure PdfKey where
  ownerId : ℕ
  minted : ℕ
  deriving DecidableEq

structure MerchantAgreementRecord where
  id : ℕ
  merchantId : ℕ
  agreementVersion : String
  contentHash : String
  reviewedBody : String
  reviewedContentHash : String
  pdfHash : String
  signerName : String
  signerRoleConfirmation : String
  actorAdminId : Option String
  witnessName : Option String
  witnessEmail : Option String
  method : AgreementSignMethod
  signedAt : ℤ
  ipAddress : String
  userAgent : String
  pdfKey : PdfKey
  drawnSignatureKey : Option String
  deriving DecidableEq

inductive AuditEvent
  | MERCHANT_AGREEMENT_SIGNED_IN_PERSON | MERCHANT_CONTRACT_ACCEPTED | MERCHANT_AGREEMENT_SIGNED_SELF_SERVE
  deriving DecidableEq, Repr

inductive Actor
  | ADMIN (id : String)
  | MERCHANT_ADMIN (id : ℕ)
  deriving DecidableEq

structure AuditMetadata where
  recordId : ℕ
  agreementVersion : String
  contentHash : String
  method : AgreementSignMethod
  deriving DecidableEq

structure AuditLog where
  entityId : ℕ
  event : AuditEvent
  actor : Actor
  ipAddress : String
  userAgent : String
  metadata : Option AuditMetadata
  deriving DecidableEq

structure AdminUser where
  firstName : String
  lastName : String
  email : String

/-! ### What a call brings and what it reads -/

structure RequestContext where
  ipAddress : String
  userAgent : String

structure SignAgreementInPersonInput where
  merchantId : ℕ
  actorAdminId : String
  signerName : String
  signerRoleConfirmation : String
  agreementVersion : Option String
  reviewedContentHash : Option String
  drawnSignature : Option Buffer

structure AcceptOptions where
  signerName : Option String
  signerRoleConfirmation : Option String
  reviewedContentHash : Option String

/-- A call, with its deployment and its clock reading. -/
inductive Call
  | signAgreementInPerson (env : Env) (input : SignAgreementInPersonInput) (ctx : RequestContext) (signedAt : ℤ)
  | acceptContract (env : Env) (adminId : ℕ) (version : String) (ctx : RequestContext) (opts : AcceptOptions)
    (signedAt : ℤ)

def Call.env : Call → Env
  | .signAgreementInPerson env .. => env
  | .acceptContract env .. => env

/-- `(reviewedContentHash ?? '').trim()`. -/
def Call.echoedHash : Call → String
  | .signAgreementInPerson _ input .. => trim (input.reviewedContentHash.getD "")
  | .acceptContract _ _ _ _ opts _ => trim (opts.reviewedContentHash.getD "")

structure RenderAgreementPdfInput where
  version : String
  contentHash : String
  reviewedBody : String
  signerName : String
  method : AgreementSignMethod
  witnessLabel : Option String
  signedAt : ℤ
  ipAddress : String
  userAgent : String
  gated : Bool
  drawnSignature : Option Buffer

/-- The runtime, what it renders for each call, and the tables that signing reads and does not write. -/
structure World extends Runtime where
  renderAgreementPdf : ℕ → RenderAgreementPdfInput → Buffer
  accounts : Accounts
  adminUser : String → Option AdminUser

/-! ### Transactions -/

inductive Statement
  /-- `updateMany` where the merchant is not SIGNED; it throws where no row is. -/
  | flip (signedAt : ℤ)
  /-- `merchant.update`. -/
  | updateMerchant (signedAt : ℤ)
  | createContract (contract : MerchantContract)
  | upsertContract (contract : MerchantContract)
  | createRecord (record : MerchantAgreementRecord)
  | writeAuditLogTx (audit : AuditLog)

inductive Lane
  | assisted | selfServe | legacy
  deriving DecidableEq, Repr

structure Upload where
  key : PdfKey
  body : Buffer
  deriving DecidableEq

/-- What a call does once it is past its checks. -/
structure Signing where
  lane : Lane
  merchantId : ℕ
  upload : Option Upload
  transaction : List Statement

def newContract (ctx : RequestContext) (signedAt : ℤ) (agreement : AgreementVersion) : MerchantContract :=
  ⟨signedAt, ctx.ipAddress, agreement.version, .CLICK_TO_AGREE, none⟩

/-- Of a transaction that writes a record. -/
def auditMetadata (record : MerchantAgreementRecord) : AuditMetadata :=
  ⟨record.id, record.agreementVersion, record.contentHash, record.method⟩

def assistedSigning (upload : Upload) (record : MerchantAgreementRecord) (contract : MerchantContract)
    (actorAdminId : String) : Signing where
  lane := .assisted
  merchantId := record.merchantId
  upload := some upload
  transaction := [
    .flip record.signedAt,
    .createRecord record,
    .upsertContract contract,
    .writeAuditLogTx ⟨record.merchantId, .MERCHANT_AGREEMENT_SIGNED_IN_PERSON, .ADMIN actorAdminId,
      record.ipAddress, record.userAgent, some (auditMetadata record)⟩]

def contractAccepted (merchantId adminId : ℕ) (ctx : RequestContext) : AuditLog :=
  ⟨merchantId, .MERCHANT_CONTRACT_ACCEPTED, .MERCHANT_ADMIN adminId, ctx.ipAddress, ctx.userAgent, none⟩

def legacySigning (merchantId adminId : ℕ) (ctx : RequestContext) (contract : MerchantContract) : Signing where
  lane := .legacy
  merchantId := merchantId
  upload := none
  transaction := [
    .createContract contract,
    .updateMerchant contract.signedAt,
    .writeAuditLogTx (contractAccepted merchantId adminId ctx)]

def selfServeSigning (upload : Upload) (record : MerchantAgreementRecord) (contract : MerchantContract)
    (adminId : ℕ) (ctx : RequestContext) : Signing where
  lane := .selfServe
  merchantId := record.merchantId
  upload := some upload
  transaction := [
    .createContract contract,
    .updateMerchant contract.signedAt,
    .writeAuditLogTx (contractAccepted record.merchantId adminId ctx),
    .createRecord record,
    .writeAuditLogTx ⟨record.merchantId, .MERCHANT_AGREEMENT_SIGNED_SELF_SERVE, .MERCHANT_ADMIN adminId,
      record.ipAddress, record.userAgent, some (auditMetadata record)⟩]

/-! ### The checks -/

variable (w : World)

/-- `renderAndStoreAgreementPdf`, for call `i`. -/
def renderAndStoreAgreementPdf (i merchantId : ℕ) (agreement : AgreementVersion) (reviewedBody signerName : String)
    (method : AgreementSignMethod) (witnessLabel : Option String) (signedAt : ℤ) (ctx : RequestContext)
    (drawnSignature : Option Buffer) : Upload where
  key := ⟨merchantId, i⟩
  body := w.renderAgreementPdf i ⟨agreement.version, agreement.contentHash, reviewedBody, signerName, method,
    witnessLabel, signedAt, ctx.ipAddress, ctx.userAgent, isVersionWatermarked agreement, drawnSignature⟩

/-- The body for this merchant, which the echo must be the hash of. -/
def reviewedFor (agreement : AgreementVersion) (method : AgreementSignMethod) (merchant : MerchantRow)
    (signerName signerRoleConfirmation echoedHash : String) : Except AppError ReviewedBodyResult := do
  let reviewed ← renderReviewedBody w.toRuntime ⟨agreement.version, agreement.contentHash, agreement.content, method,
    merchant.businessName, merchant.tradingName, merchant.companyNumber, merchant.vatNumber, signerName,
    signerRoleConfirmation⟩
  rejectIf (echoedHash = "" ∨ echoedHash ≠ reviewed.reviewedContentHash) .AGREEMENT_REVIEW_HASH_MISMATCH
  return reviewed

/-- The merchant, if it is not SIGNED yet. -/
def unsignedMerchant (merchant : Option MerchantRow) : Except AppError MerchantRow := do
  let merchant ← orReject merchant .MERCHANT_NOT_FOUND
  rejectIf (merchant.contractStatus = .SIGNED) .CONTRACT_ALREADY_SIGNED
  return merchant

/-- `signAgreementInPerson` until it uploads; `merchants` is what it reads. -/
def signAgreementInPerson (i : ℕ) (merchants : ℕ → Option MerchantRow) (env : Env)
    (input : SignAgreementInPersonInput) (ctx : RequestContext) (signedAt : ℤ) : Except AppError Signing := do
  let rt := w.toRuntime
  let agreement := getCurrentAgreement rt
  let echoedVersion := trim (input.agreementVersion.getD "")
  rejectIf (echoedVersion = "" ∨ echoedVersion ≠ agreement.version) .AGREEMENT_VERSION_MISMATCH
  assertBindingWriteAllowed env agreement
  let signerName := normalizeSignerText rt (some input.signerName)
  let signerRoleConfirmation := normalizeSignerText rt (some input.signerRoleConfirmation)
  rejectIf (signerName = "" ∨ signerRoleConfirmation = "") .AGREEMENT_SIGNER_INVALID
  let actorAdminId := trim input.actorAdminId
  rejectIf (actorAdminId = "") .AGREEMENT_SIGNER_INVALID
  let witness ← orReject (w.adminUser actorAdminId) .AGREEMENT_SIGNER_INVALID
  let witnessName := trim (witness.firstName ++ " " ++ witness.lastName)
  rejectIf (witnessName ≠ "" ∧ rt.toLowerCase signerName = rt.toLowerCase witnessName) .AGREEMENT_SIGNER_INVALID
  let witnessDisplay := if witness.email = "" then witnessName else witnessName ++ " (" ++ witness.email ++ ")"
  let merchant ← unsignedMerchant (merchants input.merchantId)
  let reviewed ← reviewedFor w agreement .IN_PERSON_ASSISTED merchant signerName signerRoleConfirmation
    (trim (input.reviewedContentHash.getD ""))
  let upload := renderAndStoreAgreementPdf w i input.merchantId agreement reviewed.reviewedBody signerName
    .IN_PERSON_ASSISTED (some witnessDisplay) signedAt ctx input.drawnSignature
  let record : MerchantAgreementRecord := {
    id := i
    merchantId := input.merchantId
    agreementVersion := agreement.version
    contentHash := agreement.contentHash
    reviewedBody := reviewed.reviewedBody
    reviewedContentHash := reviewed.reviewedContentHash
    pdfHash := rt.sha256 upload.body
    signerName := signerName
    signerRoleConfirmation := signerRoleConfirmation
    actorAdminId := some actorAdminId
    witnessName := some witnessName
    witnessEmail := some witness.email
    method := .IN_PERSON_ASSISTED
    signedAt := signedAt
    ipAddress := ctx.ipAddress
    userAgent := ctx.userAgent
    pdfKey := upload.key
    drawnSignatureKey := none }
  return assistedSigning upload record (newContract ctx signedAt agreement) actorAdminId

/-- `acceptContract` past the checks that both of its lanes make, in the lane with evidence. -/
def acceptWithEvidence (i merchantId : ℕ) (merchant : MerchantRow) (agreement : AgreementVersion) (env : Env)
    (adminId : ℕ) (ctx : RequestContext) (opts : AcceptOptions) (signedAt : ℤ) : Except AppError Signing := do
  let rt := w.toRuntime
  assertBindingWriteAllowed env agreement
  let signerName := normalizeSignerText rt opts.signerName
  let signerRoleConfirmation := normalizeSignerText rt opts.signerRoleConfirmation
  rejectIf (signerName = "" ∨ signerRoleConfirmation = "") .AGREEMENT_SIGNER_INVALID
  let reviewed ← reviewedFor w agreement .SELF_SERVE_CLICK merchant signerName signerRoleConfirmation
    (trim (opts.reviewedContentHash.getD ""))
  rejectIf (isStorageEnabled env = false) .STORAGE_NOT_ENABLED
  let upload := renderAndStoreAgreementPdf w i merchantId agreement reviewed.reviewedBody
    reviewed.normalizedSignerName .SELF_SERVE_CLICK none signedAt ctx none
  let record : MerchantAgreementRecord := {
    id := i
    merchantId := merchantId
    agreementVersion := agreement.version
    contentHash := agreement.contentHash
    reviewedBody := reviewed.reviewedBody
    reviewedContentHash := reviewed.reviewedContentHash
    pdfHash := rt.sha256 upload.body
    signerName := signerName
    signerRoleConfirmation := signerRoleConfirmation
    actorAdminId := none
    witnessName := none
    witnessEmail := none
    method := .SELF_SERVE_CLICK
    signedAt := signedAt
    ipAddress := ctx.ipAddress
    userAgent := ctx.userAgent
    pdfKey := upload.key
    drawnSignatureKey := none }
  return selfServeSigning upload record (newContract ctx signedAt agreement) adminId ctx

/-- `acceptContract` until it uploads, or until its transaction. -/
def acceptContract (i : ℕ) (merchants : ℕ → Option MerchantRow) (env : Env) (adminId : ℕ) (version : String)
    (ctx : RequestContext) (opts : AcceptOptions) (signedAt : ℤ) : Except AppError Signing := do
  let merchantId ← resolveAdminMerchant w.accounts adminId
  let merchant ← unsignedMerchant (merchants merchantId)
  let agreement := getServedAgreement w.toRuntime env
  rejectIf (version ≠ agreement.version) .AGREEMENT_VERSION_MISMATCH
  if agreement.version = LEGACY_CONTRACT_VERSION then
    return legacySigning merchantId adminId ctx (newContract ctx signedAt agreement)
  else acceptWithEvidence w i merchantId merchant agreement env adminId ctx opts signedAt

def check (i : ℕ) (merchants : ℕ → Option MerchantRow) : Call → Except AppError Signing
  | .signAgreementInPerson env input ctx signedAt => signAgreementInPerson w i merchants env input ctx signedAt
  | .acceptContract env adminId version ctx opts signedAt =>
    acceptContract w i merchants env adminId version ctx opts signedAt

/-! ### The steps of a call -/

structure Store where
  merchants : Table ℕ ℕ MerchantRow
  contracts : Table ℕ ℕ MerchantContract
  records : List MerchantAgreementRecord
  audits : List AuditLog
  /-- The private bucket. -/
  objects : PdfKey → Option Buffer
  /-- The committed transactions, newest first. -/
  signings : List (ℕ × Signing)

/-- The rows that a transaction has inserted and not committed. -/
structure Inserted where
  records : List MerchantAgreementRecord
  audits : List AuditLog

inductive Failure
  | app (e : AppError)
  /-- A unique index. -/
  | P2002
  /-- No row to update. -/
  | P2025
  /-- A failed statement, also the victim of a deadlock. -/
  | aborted
  deriving DecidableEq

inductive Phase
  | start
  | checked (g : Signing)
  | running (g : Signing) (inserted : Inserted) (rest : List Statement)
  /-- Rolled back, with a PDF to delete. -/
  | undone (g : Signing) (e : Failure)
  | returned (g : Signing)
  | failed (e : Failure) (orphaned : Bool)

inductive Act
  | check | upload | statement | commit | fail
  | delete (done : Bool)
  deriving DecidableEq

/-- `data: { contractStatus: 'SIGNED', contractStartDate: signedAt }`. -/
def MerchantRow.sign (signedAt : ℤ) (m : MerchantRow) : MerchantRow :=
  { m with contractStatus := .SIGNED, contractStartDate := some signedAt }

/-- `contractStatus: { not: 'SIGNED' }`. -/
def NotSigned (m : Option MerchantRow) : Prop := ∃ row ∈ m, row.contractStatus ≠ .SIGNED

instance : DecidablePred NotSigned := fun m => inferInstanceAs (Decidable (∃ row ∈ m, row.contractStatus ≠ .SIGNED))

def MerchantContract.upsert (contract : MerchantContract) (old : Option MerchantContract) : MerchantContract :=
  { contract with zohoSignRequestId := old.bind MerchantContract.zohoSignRequestId }

/-- A statement of the transaction of call `i` on merchant `m`; `none` while it waits for a row. -/
def execute (i m : ℕ) (s : Store) (t : Inserted) : Statement → Option (Except Failure (Store × Inserted))
  | .flip signedAt =>
    if NotSigned (s.merchants.read i m) then
      (s.merchants.write i m (Option.map (MerchantRow.sign signedAt))).map fun ms => .ok ({ s with merchants := ms }, t)
    else some (.error (.app .CONTRACT_ALREADY_SIGNED))
  | .updateMerchant signedAt =>
    (s.merchants.write i m (Option.map (MerchantRow.sign signedAt))).map fun ms =>
      if s.merchants.read i m = none then .error .P2025 else .ok ({ s with merchants := ms }, t)
  | .createContract contract =>
    (s.contracts.write i m fun _ => some contract).map fun cs =>
      if s.contracts.read i m = none then .ok ({ s with contracts := cs }, t) else .error .P2002
  | .upsertContract contract =>
    (s.contracts.write i m fun old => some (contract.upsert old)).map fun cs => .ok ({ s with contracts := cs }, t)
  | .createRecord record => some (.ok (s, { t with records := t.records ++ [record] }))
  | .writeAuditLogTx audit => some (.ok (s, { t with audits := t.audits ++ [audit] }))

def Store.rollback (s : Store) (i : ℕ) : Store :=
  { s with merchants := s.merchants.rollback i, contracts := s.contracts.rollback i }

def Store.commit (s : Store) (i : ℕ) (g : Signing) (t : Inserted) : Store :=
  { s with
    merchants := s.merchants.commit i
    contracts := s.contracts.commit i
    records := s.records ++ t.records
    audits := s.audits ++ t.audits
    signings := (i, g) :: s.signings }

def Store.putObject (s : Store) (u : Upload) : Store :=
  { s with objects := Function.update s.objects u.key (some u.body) }

def Store.deleteObject (s : Store) (key : PdfKey) : Store :=
  { s with objects := Function.update s.objects key none }

/-- The code that the caller gets for a transaction's failure. -/
def Signing.rethrow (g : Signing) (e : Failure) : Failure :=
  if g.lane = .selfServe ∧ e = .P2002 then .app .CONTRACT_ALREADY_SIGNED else e

/-- The transaction has failed. -/
def Signing.afterRollback (g : Signing) (e : Failure) : Phase :=
  if g.upload = none then .failed e false else .undone g e

def begin (g : Signing) : Phase := .running g ⟨[], []⟩ g.transaction

/-- One step of call `i`. -/
def next (calls : ℕ → Call) (i : ℕ) (s : Store) : Phase → Act → Option (Store × Phase)
  | .start, .check =>
    match check w i s.merchants.rows (calls i) with
    | .ok g => some (s, if g.upload = none then begin g else .checked g)
    | .error e => some (s, .failed (.app e) false)
  | .start, .fail => some (s, .failed .aborted false)
  | .checked g, .upload =>
    match g.upload with
    | some u =>
      if isStorageEnabled (calls i).env = true then some (s.putObject u, begin g)
      else some (s, .failed (.app .STORAGE_NOT_ENABLED) false)
    | none => none
  -- An upload that fails has stored nothing.
  | .checked _, .fail => some (s, .failed .aborted false)
  | .running g t (stmt :: rest), .statement =>
    (execute i g.merchantId s t stmt).map fun
      | .ok (s', t') => (s', .running g t' rest)
      | .error e => (s.rollback i, g.afterRollback e)
  | .running g t [], .commit => some (s.commit i g t, .returned g)
  | .running g _ _, .fail => some (s.rollback i, g.afterRollback .aborted)
  | .undone g e, .delete true =>
    match g.upload with
    | some u => some (s.deleteObject u.key, .failed (g.rethrow e) false)
    | none => none
  | .undone g e, .delete false => some (s, .failed (g.rethrow e) true)
  | _, _ => none

end Redeemo.Agreements
