import Redeemo.Agreement.SignerText
import Redeemo.Agreement.Signing

/-! What a signer previews, and what then signs.

    A preview normalises the signer's name and role once, as it renders the body. A call that signs normalises them,
    renders the body from what comes out, which normalises it again, and records the first result. -/

namespace Redeemo.Agreements
open Fallible Records

/-! ### Previews -/

structure AgreementPreviewInput where
  signerName : String
  signerRoleConfirmation : String

structure AgreementPreviewResult where
  version : String
  personalisedText : String
  reviewedContentHash : String
  canonicalContentHash : String
  isDraft : Bool
  gated : Bool

section

variable (rt : Runtime)

/-- What is rendered for a merchant and a signer. -/
def bodyOf (agreement : AgreementVersion) (method : AgreementSignMethod) (merchant : MerchantRow)
    (signer : AgreementPreviewInput) : ReviewedBodyInput :=
  ⟨agreement.version, agreement.contentHash, agreement.content, method, merchant.businessName, merchant.tradingName,
    merchant.companyNumber, merchant.vatNumber, signer.signerName, signer.signerRoleConfirmation⟩

def preview (agreement : AgreementVersion) (method : AgreementSignMethod) (merchant : Option MerchantRow)
    (input : AgreementPreviewInput) : Except AppError AgreementPreviewResult := do
  let merchant ← orReject merchant .MERCHANT_NOT_FOUND
  let reviewed ← renderReviewedBody rt (bodyOf agreement method merchant input)
  return ⟨agreement.version, reviewed.reviewedBody, reviewed.reviewedContentHash, agreement.contentHash,
    agreement.isDraft, isVersionWatermarked agreement⟩

def previewAgreement (merchants : ℕ → Option MerchantRow) (merchantId : ℕ) (input : AgreementPreviewInput) :
    Except AppError AgreementPreviewResult :=
  preview rt (getCurrentAgreement rt) .IN_PERSON_ASSISTED (merchants merchantId) input

def previewOwnContract (env : Env) (merchants : ℕ → Option MerchantRow) (merchantId : ℕ)
    (input : AgreementPreviewInput) : Except AppError AgreementPreviewResult :=
  preview rt (getServedAgreement rt env) .SELF_SERVE_CLICK (merchants merchantId) input

end

/-! ### Signing what was previewed -/

/-- A digest is hexadecimal digits. -/
def HexDigest (rt : Runtime) : Prop :=
  ∀ bytes, rt.sha256 bytes ≠ "" ∧ ∀ c ∈ (rt.sha256 bytes).toList, isWhiteSpace c = false

/-- A call with the values that were previewed, and the version and the hash of the preview. -/
inductive Previewed (w : World) (merchants : ℕ → Option MerchantRow) (input : AgreementPreviewInput) : Call → Prop
  | assisted {p merchantId actorAdminId drawnSignature env ctx signedAt}
    (h : previewAgreement w.toRuntime merchants merchantId input = .ok p) :
    Previewed w merchants input (.signAgreementInPerson env ⟨merchantId, actorAdminId, input.signerName,
      input.signerRoleConfirmation, some p.version, some p.reviewedContentHash, drawnSignature⟩ ctx signedAt)
  | selfServe {p merchantId adminId env ctx signedAt} (hm : resolveAdminMerchant w.accounts adminId = .ok merchantId)
    (h : previewOwnContract w.toRuntime env merchants merchantId input = .ok p) :
    Previewed w merchants input (.acceptContract env adminId p.version ctx
      ⟨some input.signerName, some input.signerRoleConfirmation, some p.reviewedContentHash⟩ signedAt)

/-- The call does not fail for another reason: the merchant has not signed; the assisted lane is open and has a witness
    other than the signer, and the self-serve lane has storage. -/
def PassesOtherChecks (w : World) (merchants : ℕ → Option MerchantRow) : Call → Prop
  | .signAgreementInPerson env input _ _ =>
    isProductionDeploy env = false ∧ trim input.actorAdminId ≠ "" ∧ NotSigned (merchants input.merchantId) ∧
      ∃ witness ∈ w.adminUser (trim input.actorAdminId),
        ¬ (trim (witness.firstName ++ " " ++ witness.lastName) ≠ "" ∧
          w.toLowerCase (normalizeSignerText w.toRuntime (some input.signerName)) =
            w.toLowerCase (trim (witness.firstName ++ " " ++ witness.lastName)))
  | .acceptContract env adminId .. =>
    isStorageEnabled env = true ∧ ∃ m, resolveAdminMerchant w.accounts adminId = .ok m ∧ NotSigned (merchants m)

def Call.agreement (w : World) : Call → AgreementVersion
  | .signAgreementInPerson .. => getCurrentAgreement w.toRuntime
  | .acceptContract env .. => getServedAgreement w.toRuntime env

/-- The self-serve lane without evidence, which checks no hash. -/
def Call.isLegacy (w : World) (call : Call) : Prop := (call.agreement w).version = LEGACY_CONTRACT_VERSION

/-- The call passes, and what it records of the signer is what it substitutes into the body. -/
def SignsPreviewed (w : World) (i : ℕ) (merchants : ℕ → Option MerchantRow) (input : AgreementPreviewInput)
    (call : Call) : Prop :=
  ∃ g, check w i merchants call = .ok g ∧ ∀ record, .createRecord record ∈ g.transaction →
    ∃ merchant ∈ merchants record.merchantId, ∃ r,
      renderReviewedBody w.toRuntime (bodyOf (call.agreement w) record.method merchant
        ⟨normalizeSignerText w.toRuntime (some input.signerName),
          normalizeSignerText w.toRuntime (some input.signerRoleConfirmation)⟩) = .ok r ∧
      record.reviewedBody = r.reviewedBody ∧ record.signerName = r.normalizedSignerName ∧
      record.signerRoleConfirmation = r.normalizedSignerRole

variable {w : World} {i m : ℕ} {merchants : ℕ → Option MerchantRow} {merchant : MerchantRow}
  {agreement : AgreementVersion} {method : AgreementSignMethod} {input : AgreementPreviewInput}
  {p : AgreementPreviewResult} {r : ReviewedBodyResult}

/-- The name and the role as a signing call normalises them. -/
def AgreementPreviewInput.normalized (rt : Runtime) (input : AgreementPreviewInput) : AgreementPreviewInput :=
  ⟨normalizeSignerText rt (some input.signerName), normalizeSignerText rt (some input.signerRoleConfirmation)⟩

theorem trim_sha256 (hd : HexDigest w.toRuntime) (bytes : Bytes.Buffer) : trim (w.sha256 bytes) = w.sha256 bytes := by
  rw [← String.toList_inj, toList_trim, Words.trimBy_of_none (hd bytes).2]

theorem normalized_of_render {body : ReviewedBodyInput} (h : renderReviewedBody w.toRuntime body = .ok r) :
    r.normalizedSignerName = normalizeSignerText w.toRuntime (some body.signerName) ∧
      r.normalizedSignerRole = normalizeSignerText w.toRuntime (some body.signerRoleConfirmation) ∧
      r.normalizedSignerName ≠ "" ∧ r.normalizedSignerRole ≠ "" := by
  obtain ⟨_, hlegible, h⟩ := bind_ok_iff.mp h
  cases h
  have hne : ∀ s, hasLegibleContent w.toRuntime s ≠ false → s ≠ "" := by
    rintro s hs rfl
    exact hs rfl
  obtain ⟨hname, hrole⟩ := not_or.mp (rejectIf_eq_ok.mp hlegible)
  exact ⟨rfl, rfl, hne _ hname, hne _ hrole⟩

/-- Rendering looks at the normalised values only. -/
theorem render_congr {signer : AgreementPreviewInput}
    (hname : normalizeSignerText w.toRuntime (some signer.signerName) =
      normalizeSignerText w.toRuntime (some input.signerName))
    (hrole : normalizeSignerText w.toRuntime (some signer.signerRoleConfirmation) =
      normalizeSignerText w.toRuntime (some input.signerRoleConfirmation)) :
    renderReviewedBody w.toRuntime (bodyOf agreement method merchant signer) =
      renderReviewedBody w.toRuntime (bodyOf agreement method merchant input) := by
  simp only [renderReviewedBody, bodyOf, hname, hrole]
  rfl

theorem preview_ok (h : preview w.toRuntime agreement method (merchants m) input = .ok p) :
    ∃ merchant r, merchants m = some merchant ∧
      renderReviewedBody w.toRuntime (bodyOf agreement method merchant input) = .ok r ∧
      p.version = agreement.version ∧ p.reviewedContentHash = r.reviewedContentHash := by
  obtain ⟨merchant, hm, h⟩ := bind_ok_iff.mp h
  obtain ⟨r, hr, h⟩ := bind_ok_iff.mp h
  cases h
  exact ⟨merchant, r, orReject_eq_ok.mp hm, hr, rfl, rfl⟩

/-! ### The check of the hash -/

/-- A signing call that echoes the hash of a rendered body passes with settled values: it renders the same. -/
theorem reviewedFor_of_settled (hu : Unicode w.toRuntime) (hd : HexDigest w.toRuntime)
    (hr : renderReviewedBody w.toRuntime (bodyOf agreement method merchant input) = .ok r)
    (hname : Settled w.toRuntime (some input.signerName))
    (hrole : Settled w.toRuntime (some input.signerRoleConfirmation)) :
    reviewedFor w agreement method merchant (input.normalized w.toRuntime).signerName
      (input.normalized w.toRuntime).signerRoleConfirmation (trim r.reviewedContentHash) = .ok r := by
  have hagain : renderReviewedBody w.toRuntime (bodyOf agreement method merchant (input.normalized w.toRuntime)) =
      .ok r := by
    rw [← hr]
    exact render_congr ((normalizeSignerText_idem_iff hu _).mpr hname) ((normalizeSignerText_idem_iff hu _).mpr hrole)
  have hhash := reviewedContentHash_eq hr
  have hne : r.reviewedContentHash ≠ "" := by
    rw [hhash]
    exact (hd _).1
  have htrim : trim r.reviewedContentHash = r.reviewedContentHash := by
    rw [hhash]
    exact trim_sha256 hd _
  refine bind_ok_iff.mpr ⟨r, hagain, bind_ok_iff.mpr ⟨(), rejectIf_eq_ok.mpr ?_, rfl⟩⟩
  rw [htrim]
  exact not_or.mpr ⟨hne, fun h => h rfl⟩

theorem render_of_reviewedFor {echoedHash : String} (h : reviewedFor w agreement method merchant
      (input.normalized w.toRuntime).signerName (input.normalized w.toRuntime).signerRoleConfirmation echoedHash =
      .ok r) :
    renderReviewedBody w.toRuntime (bodyOf agreement method merchant (input.normalized w.toRuntime)) = .ok r := by
  obtain ⟨r', hr, h⟩ := bind_ok_iff.mp h
  obtain ⟨_, -, h⟩ := bind_ok_iff.mp h
  cases h
  exact hr

/-! ### The lanes -/

/-- The record of a signing, with what its call has reviewed. -/
structure Recorded (w : World) (m : ℕ) (method : AgreementSignMethod) (input : AgreementPreviewInput)
    (r : ReviewedBodyResult) (g : Signing) : Prop where
  merchantId : ∀ record, .createRecord record ∈ g.transaction → record.merchantId = m ∧ record.method = method
  body : ∀ record, .createRecord record ∈ g.transaction → record.reviewedBody = r.reviewedBody
  signer : ∀ record, .createRecord record ∈ g.transaction →
    record.signerName = (input.normalized w.toRuntime).signerName ∧
      record.signerRoleConfirmation = (input.normalized w.toRuntime).signerRoleConfirmation
  exists_record : ∃ record, .createRecord record ∈ g.transaction

/-- Past its other checks a lane succeeds exactly where the hash is right, and records what it has reviewed. -/
def DecidedByReview (w : World) (m : ℕ) (method : AgreementSignMethod) (input : AgreementPreviewInput)
    (review : Except AppError ReviewedBodyResult) (outcome : Except AppError Signing) : Prop :=
  (∀ r, review = .ok r → ∃ g, outcome = .ok g) ∧
    ∀ g, outcome = .ok g → ∃ r, review = .ok r ∧ Recorded w m method input r g

theorem unsignedMerchant_ok_iff {o : Option MerchantRow} :
    unsignedMerchant o = .ok merchant ↔ o = some merchant ∧ merchant.contractStatus ≠ .SIGNED := by
  rw [unsignedMerchant, bind_ok_iff]
  constructor
  · rintro ⟨row, hrow, h⟩
    obtain ⟨_, hsigned, h⟩ := bind_ok_iff.mp h
    cases h
    exact ⟨orReject_eq_ok.mp hrow, rejectIf_eq_ok.mp hsigned⟩
  · rintro ⟨rfl, hsigned⟩
    exact ⟨merchant, rfl, bind_ok_iff.mpr ⟨(), rejectIf_eq_ok.mpr hsigned, rfl⟩⟩

theorem unsignedMerchant_of_notSigned {o : Option MerchantRow} (h : NotSigned o) (ho : o = some merchant) :
    unsignedMerchant o = .ok merchant := by
  obtain ⟨row, hrow, hsigned⟩ := h
  cases ho.symm.trans hrow
  exact unsignedMerchant_ok_iff.mpr ⟨ho, hsigned⟩

theorem decided_assisted {env : Env} {ctx : RequestContext} {signedAt : ℤ} {actorAdminId hash : String}
    {drawnSignature : Option Bytes.Buffer}
    (hne : (input.normalized w.toRuntime).signerName ≠ "" ∧ (input.normalized w.toRuntime).signerRoleConfirmation ≠ "")
    (hpass : PassesOtherChecks w merchants (.signAgreementInPerson env ⟨m, actorAdminId, input.signerName,
      input.signerRoleConfirmation, some (getCurrentAgreement w.toRuntime).version, some hash, drawnSignature⟩ ctx
      signedAt))
    (hm : merchants m = some merchant) :
    DecidedByReview w m .IN_PERSON_ASSISTED input
      (reviewedFor w (getCurrentAgreement w.toRuntime) .IN_PERSON_ASSISTED merchant
        (input.normalized w.toRuntime).signerName (input.normalized w.toRuntime).signerRoleConfirmation (trim hash))
      (signAgreementInPerson w i merchants env ⟨m, actorAdminId, input.signerName, input.signerRoleConfirmation,
        some (getCurrentAgreement w.toRuntime).version, some hash, drawnSignature⟩ ctx signedAt) := by
  obtain ⟨hprod, hactor, hsigned, witness, hwitness, hperson⟩ := hpass
  have htrim : trim (getCurrentAgreement w.toRuntime).version = (getCurrentAgreement w.toRuntime).version :=
    (by decide : trim CURRENT_AGREEMENT_VERSION = CURRENT_AGREEMENT_VERSION)
  have hempty : (getCurrentAgreement w.toRuntime).version ≠ "" := (by decide : CURRENT_AGREEMENT_VERSION ≠ "")
  have hgate : assertBindingWriteAllowed env (getCurrentAgreement w.toRuntime) = .ok () := by
    refine rejectIf_eq_ok.mpr fun h => ?_
    rw [hprod] at h
    exact Bool.false_ne_true h.2
  constructor
  · intro r hr
    refine exists_bind_ok (a := ()) (rejectIf_eq_ok.mpr (not_or.mpr ⟨htrim.trans_ne hempty, fun h => h htrim⟩)) ?_
    refine exists_bind_ok hgate ?_
    refine exists_bind_ok (a := ()) (rejectIf_eq_ok.mpr (not_or.mpr hne)) ?_
    refine exists_bind_ok (a := ()) (rejectIf_eq_ok.mpr hactor) ?_
    refine exists_bind_ok (orReject_eq_ok.mpr hwitness) ?_
    refine exists_bind_ok (a := ()) (rejectIf_eq_ok.mpr hperson) ?_
    refine exists_bind_ok (unsignedMerchant_of_notSigned hsigned hm) ?_
    exact exists_bind_ok hr ⟨_, rfl⟩
  · intro g hg
    unfold signAgreementInPerson at hg
    simp only [bind_ok_iff] at hg
    obtain ⟨_, -, _, -, _, -, _, -, _, -, _, -, row, hrow, r, hr, hg⟩ := hg
    cases hm.symm.trans (unsignedMerchant_ok_iff.mp hrow).1
    cases hg
    refine ⟨r, hr, ?_, ?_, ?_, ?_⟩ <;> simp [assistedSigning, AgreementPreviewInput.normalized]

/-- Production serves the first version, which is not gated. -/
theorem not_production_of_served {env : Env}
    (h : (getServedAgreement w.toRuntime env).version ≠ LEGACY_CONTRACT_VERSION) : isProductionDeploy env = false := by
  by_contra hprod
  refine h ?_
  rw [getServedAgreement, if_pos ⟨Bool.not_eq_false _ ▸ hprod, rfl⟩]
  rfl

theorem decided_selfServe {env : Env} {adminId : ℕ} {ctx : RequestContext} {signedAt : ℤ} {hash : String}
    (hserved : (getServedAgreement w.toRuntime env).version ≠ LEGACY_CONTRACT_VERSION)
    (hne : (input.normalized w.toRuntime).signerName ≠ "" ∧ (input.normalized w.toRuntime).signerRoleConfirmation ≠ "")
    (hstorage : isStorageEnabled env = true) (hadmin : resolveAdminMerchant w.accounts adminId = .ok m)
    (hsigned : NotSigned (merchants m)) (hm : merchants m = some merchant) :
    DecidedByReview w m .SELF_SERVE_CLICK input
      (reviewedFor w (getServedAgreement w.toRuntime env) .SELF_SERVE_CLICK merchant
        (input.normalized w.toRuntime).signerName (input.normalized w.toRuntime).signerRoleConfirmation (trim hash))
      (acceptContract w i merchants env adminId (getServedAgreement w.toRuntime env).version ctx
        ⟨some input.signerName, some input.signerRoleConfirmation, some hash⟩ signedAt) := by
  have hgate : assertBindingWriteAllowed env (getServedAgreement w.toRuntime env) = .ok () := by
    refine rejectIf_eq_ok.mpr fun h => ?_
    rw [not_production_of_served hserved] at h
    exact Bool.false_ne_true h.2
  have hopen : isStorageEnabled env ≠ false := by
    rw [hstorage]
    exact nofun
  constructor
  · intro r hr
    refine exists_bind_ok hadmin ?_
    refine exists_bind_ok (unsignedMerchant_of_notSigned hsigned hm) ?_
    refine exists_bind_ok (a := ()) (rejectIf_eq_ok.mpr fun h => h rfl) ?_
    rw [if_neg hserved]
    refine exists_bind_ok hgate ?_
    refine exists_bind_ok (a := ()) (rejectIf_eq_ok.mpr (not_or.mpr hne)) ?_
    refine exists_bind_ok hr ?_
    exact exists_bind_ok (a := ()) (rejectIf_eq_ok.mpr hopen) ⟨_, rfl⟩
  · intro g hg
    unfold acceptContract at hg
    simp only [bind_ok_iff] at hg
    obtain ⟨m', hm', row, hrow, _, -, hg⟩ := hg
    cases hadmin.symm.trans hm'
    cases hm.symm.trans (unsignedMerchant_ok_iff.mp hrow).1
    rw [if_neg hserved] at hg
    unfold acceptWithEvidence at hg
    simp only [bind_ok_iff] at hg
    obtain ⟨_, -, _, -, r, hr, _, -, hg⟩ := hg
    cases hg
    refine ⟨r, hr, ?_, ?_, ?_, ?_⟩ <;> simp [selfServeSigning, AgreementPreviewInput.normalized]

theorem signs_legacy {env : Env} {adminId : ℕ} {ctx : RequestContext} {signedAt : ℤ} {opts : AcceptOptions}
    (hserved : (getServedAgreement w.toRuntime env).version = LEGACY_CONTRACT_VERSION)
    (hadmin : resolveAdminMerchant w.accounts adminId = .ok m) (hsigned : NotSigned (merchants m))
    (hm : merchants m = some merchant) :
    acceptContract w i merchants env adminId (getServedAgreement w.toRuntime env).version ctx opts signedAt =
      .ok (legacySigning m adminId ctx (newContract ctx signedAt (getServedAgreement w.toRuntime env))) := by
  refine bind_ok_iff.mpr ⟨m, hadmin, ?_⟩
  refine bind_ok_iff.mpr ⟨merchant, unsignedMerchant_of_notSigned hsigned hm, ?_⟩
  refine bind_ok_iff.mpr ⟨(), rejectIf_eq_ok.mpr fun h => h rfl, ?_⟩
  rw [if_pos hserved]
  rfl

/-! ### The law -/

/-- A lane that its review decides signs what was previewed exactly with settled values. -/
theorem signs_iff_settled (hu : Unicode w.toRuntime) (hd : HexDigest w.toRuntime) (call : Call)
    (hp : preview w.toRuntime (call.agreement w) method (merchants m) input = .ok p) (hm : merchants m = some merchant)
    (h : DecidedByReview w m method input
      (reviewedFor w (call.agreement w) method merchant (input.normalized w.toRuntime).signerName
        (input.normalized w.toRuntime).signerRoleConfirmation (trim p.reviewedContentHash)) (check w i merchants call)) :
    SignsPreviewed w i merchants input call ↔
      Settled w.toRuntime (some input.signerName) ∧ Settled w.toRuntime (some input.signerRoleConfirmation) := by
  obtain ⟨_, r, hm', hr, -, hhash⟩ := preview_ok hp
  cases hm.symm.trans hm'
  rw [hhash] at h
  constructor
  · rintro ⟨g, hg, hrecords⟩
    obtain ⟨r', -, hrec⟩ := h.2 g hg
    obtain ⟨record, hmem⟩ := hrec.exists_record
    obtain ⟨_, -, r'', hr'', -, hname, hrole⟩ := hrecords record hmem
    obtain ⟨hname', hrole', -⟩ := normalized_of_render hr''
    obtain ⟨hn, hr⟩ := hrec.signer record hmem
    refine ⟨(normalizeSignerText_idem_iff hu _).mp ?_, (normalizeSignerText_idem_iff hu _).mp ?_⟩
    · exact hname'.symm.trans (hname.symm.trans hn)
    · exact hrole'.symm.trans (hrole.symm.trans hr)
  · rintro ⟨hname, hrole⟩
    have hreview := reviewedFor_of_settled hu hd hr hname hrole
    obtain ⟨g, hg⟩ := h.1 r hreview
    refine ⟨g, hg, fun record hmem => ?_⟩
    obtain ⟨r', hr', hrec⟩ := h.2 g hg
    cases hreview.symm.trans hr'
    obtain ⟨hmerchant, hmethod⟩ := hrec.merchantId record hmem
    have hagain := render_of_reviewedFor hreview
    obtain ⟨hn, hr'', -⟩ := normalized_of_render hagain
    refine ⟨merchant, by rw [hmerchant]; exact hm, r, by rw [hmethod]; exact hagain, hrec.body record hmem, ?_, ?_⟩
    · rw [(hrec.signer record hmem).1, hn]
      exact ((normalizeSignerText_idem_iff hu _).mpr hname).symm
    · rw [(hrec.signer record hmem).2, hr'']
      exact ((normalizeSignerText_idem_iff hu _).mpr hrole).symm

/-- What was previewed is signed where the name and the role are settled, and there only, but for the lane that checks
    no hash and keeps no evidence. -/
theorem previewed_signs_iff (w : World) (hu : Unicode w.toRuntime) (hd : HexDigest w.toRuntime) :
    (∀ raw, normalizeSignerText w.toRuntime (some (normalizeSignerText w.toRuntime raw)) =
      normalizeSignerText w.toRuntime raw ↔ Settled w.toRuntime raw) ∧
    ∀ i merchants input call, Previewed w merchants input call → PassesOtherChecks w merchants call →
      (SignsPreviewed w i merchants input call ↔ call.isLegacy w ∨
        Settled w.toRuntime (some input.signerName) ∧ Settled w.toRuntime (some input.signerRoleConfirmation)) := by
  refine ⟨normalizeSignerText_idem_iff hu, ?_⟩
  intro i merchants input call hprev hpass
  cases hprev with
  | @assisted p merchantId actorAdminId drawnSignature env ctx signedAt h =>
    obtain ⟨merchant, r, hm, hr, hversion, -⟩ := preview_ok h
    obtain ⟨hname, hrole, hne⟩ := normalized_of_render hr
    rw [hname, hrole] at hne
    have hlegacy : (getCurrentAgreement w.toRuntime).version ≠ LEGACY_CONTRACT_VERSION :=
      (by decide : CURRENT_AGREEMENT_VERSION ≠ LEGACY_CONTRACT_VERSION)
    rw [hversion] at hpass ⊢
    refine (signs_iff_settled hu hd (.signAgreementInPerson ..) h hm (decided_assisted hne hpass hm)).trans ?_
    exact (or_iff_right hlegacy).symm
  | @selfServe p merchantId adminId env ctx signedAt hadmin h =>
    obtain ⟨merchant, r, hm, hr, hversion, -⟩ := preview_ok h
    obtain ⟨hname, hrole, hne⟩ := normalized_of_render hr
    rw [hname, hrole] at hne
    obtain ⟨hstorage, m, hadmin', hsigned⟩ := hpass
    cases hadmin.symm.trans hadmin'
    rw [hversion]
    by_cases hlegacy : (getServedAgreement w.toRuntime env).version = LEGACY_CONTRACT_VERSION
    · refine iff_of_true ⟨_, signs_legacy hlegacy hadmin hsigned hm, ?_⟩ (.inl hlegacy)
      intro record hmem
      simp [legacySigning] at hmem
    · refine (signs_iff_settled hu hd (.acceptContract ..) h hm
        (decided_selfServe hlegacy hne hstorage hadmin hsigned hm)).trans ?_
      exact (or_iff_right hlegacy).symm

/-! ### Two ceremonies -/

def isDefaultIgnorableOrControl (c : Char) : Bool :=
  let n := c.toNat
  n ≤ 0x1F ∨ (0x7F ≤ n ∧ n ≤ 0x9F) ∨ n = 0xAD ∨ n = 0x34F ∨ n = 0x61C ∨ n = 0x115F ∨ n = 0x1160 ∨ n = 0x17B4 ∨
    n = 0x17B5 ∨ (0x180B ≤ n ∧ n ≤ 0x180F) ∨ (0x200B ≤ n ∧ n ≤ 0x200F) ∨ (0x202A ≤ n ∧ n ≤ 0x202E) ∨
    (0x2060 ≤ n ∧ n ≤ 0x206F) ∨ n = 0x3164 ∨ (0xFE00 ≤ n ∧ n ≤ 0xFE0F) ∨ n = 0xFEFF ∨ n = 0xFFA0 ∨
    (0xFFF0 ≤ n ∧ n ≤ 0xFFF8) ∨ (0x1BCA0 ≤ n ∧ n ≤ 0x1BCA3) ∨ (0x1D173 ≤ n ∧ n ≤ 0x1D17A) ∨
    (0xE0000 ≤ n ∧ n ≤ 0xE0FFF)

/-- A bakery signs: the lines of the signatory stand for the agreement. -/
def bakery : World where
  normalizeNFC := id
  toLowerCase := id
  sha256 := fun bytes => if bytes.length % 2 = 0 then "0" else "1"
  isInvisibleOrControl := isDefaultIgnorableOrControl
  isLetterOrNumber := Char.isAlphanum
  MERCHANT_AGREEMENT_V2_SOURCE := "Signatory: \x7b\x7bsignerName\x7d\x7d, \x7b\x7bsignerRoleConfirmation\x7d\x7d"
  renderAgreementPdf := fun _ _ => []
  accounts := ⟨[], []⟩
  adminUser := fun _ => some ⟨"Sam", "Lee", "sam"⟩

def bakeries : ℕ → Option MerchantRow := fun _ => some ⟨.NOT_SIGNED, none, "Bakery", none, none, none⟩

def ceremony (input : AgreementPreviewInput) (hash : String) : Call :=
  .signAgreementInPerson ⟨some "staging", none, none, none⟩ ⟨1, "rep", input.signerName, input.signerRoleConfirmation,
    some "2.1-draft", some hash, none⟩ ⟨"ip", "ua"⟩ 0

def jane : AgreementPreviewInput := ⟨" Jane  Doe", "Owner"⟩

/-- A zero-width space stands alone between the names. -/
def janeZeroWidth : AgreementPreviewInput := ⟨"Jane \u200b Doe", "Owner"⟩

/-- Her preview shows two blanks, and the ceremony renders one. -/
theorem janeZeroWidth_not_signed : Previewed bakery bakeries janeZeroWidth (ceremony janeZeroWidth "1") ∧
    PassesOtherChecks bakery bakeries (ceremony janeZeroWidth "1") ∧
    check bakery 0 bakeries (ceremony janeZeroWidth "1") = .error .AGREEMENT_REVIEW_HASH_MISMATCH ∧
    ¬ SignsPreviewed bakery 0 bakeries janeZeroWidth (ceremony janeZeroWidth "1") ∧
    normalizeSignerText bakery.toRuntime (some (normalizeSignerText bakery.toRuntime (some "Jane \u200b Doe"))) ≠
      normalizeSignerText bakery.toRuntime (some "Jane \u200b Doe") := by
  have hcheck : check bakery 0 bakeries (ceremony janeZeroWidth "1") = .error .AGREEMENT_REVIEW_HASH_MISMATCH := rfl
  have hpreview : previewAgreement bakery.toRuntime bakeries 1 janeZeroWidth =
      .ok ⟨"2.1-draft", "Signatory: Jane  Doe, Owner", "1", "1", true, true⟩ := rfl
  refine ⟨.assisted hpreview, ⟨by decide, by decide, ⟨_, rfl, by decide⟩, _, rfl, by decide⟩, hcheck, ?_, by decide⟩
  rintro ⟨g, hg, -⟩
  cases hcheck.symm.trans hg

theorem unicode_bakery : Unicode bakery.toRuntime := by
  refine ⟨by decide, rfl, fun _ _ => rfl, fun _ hs => hs, fun _ hs => hs⟩

theorem hexDigest_bakery : HexDigest bakery.toRuntime := by
  intro bytes
  dsimp only [bakery]
  split
  · exact ⟨by decide, List.forall_mem_singleton.mpr rfl⟩
  · exact ⟨by decide, List.forall_mem_singleton.mpr rfl⟩

theorem previewed_signs_iff_jane : SignsPreviewed bakery 0 bakeries jane (ceremony jane "0") := by
  have hpreview : previewAgreement bakery.toRuntime bakeries 1 jane =
      .ok ⟨"2.1-draft", "Signatory: Jane Doe, Owner", "0", "1", true, true⟩ := rfl
  have hpreviewed : Previewed bakery bakeries jane (ceremony jane "0") := .assisted hpreview
  have hpass : PassesOtherChecks bakery bakeries (ceremony jane "0") :=
    ⟨by decide, by decide, ⟨_, rfl, by decide⟩, _, rfl, by decide⟩
  have hname : normalizeSignerText bakery.toRuntime (some (normalizeSignerText bakery.toRuntime (some " Jane  Doe"))) =
      normalizeSignerText bakery.toRuntime (some " Jane  Doe") := by decide +kernel
  have hrole : normalizeSignerText bakery.toRuntime (some (normalizeSignerText bakery.toRuntime (some "Owner"))) =
      normalizeSignerText bakery.toRuntime (some "Owner") := by decide +kernel
  obtain ⟨hidem, hsigns⟩ := previewed_signs_iff bakery unicode_bakery hexDigest_bakery
  exact (hsigns 0 bakeries jane _ hpreviewed hpass).mpr (.inr ⟨(hidem _).mp hname, (hidem _).mp hrole⟩)

end Redeemo.Agreements
