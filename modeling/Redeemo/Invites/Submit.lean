import Mathlib.Data.List.MinMax
import Redeemo.Invites.Matching
import Redeemo.Lib.Runs

/-! `submitInvite` and the deletion of an account, in any interleaving.

    A submission first looks for a live merchant and stamps what it is worth; then one transaction takes the lock of
    the business and the lock of the inviter, and files the invite under a lead of the business. The deletion of an
    account anonymises the user and the invites that it finds, under neither lock. -/

namespace Redeemo.Invites
open Fallible Leads Records Runs

/-! ### Tables -/

inductive MerchantInviteStatus
  | PENDING_CONFIRM
  | ACTIVE
  | HELD_REVIEW
  deriving DecidableEq

/-- Ids of leads: of those that there were, and of those that calls have created. -/
inductive LeadId (ι : Type*)
  | given (id : String)
  | made (call : ι)
  deriving DecidableEq

/-- The id of an invite is the call that has created it. -/
structure Invite (ι : Type*) where
  id : ι
  inviterUserId : Option String
  inviterKey : Option String
  placeKey : String
  googlePlaceId : Option String
  businessNameRaw : String
  localityRaw : Option String
  note : Option String
  consentShareName : Bool
  status : MerchantInviteStatus
  rewardEligible : Bool
  countableAt : Option ℤ
  leadId : Option (LeadId ι)
  ipHash : Option String
  anonymisedAt : Option ℤ
  createdAt : ℤ

inductive GrantStatus
  | PENDING | ISSUED | CONSUMED | VOIDED
  deriving DecidableEq

structure InviteRewardGrant where
  userId : String
  status : GrantStatus
  deriving DecidableEq

inductive AuditEvent (ι : Type*)
  | LEAD_CREATED (entityId : LeadId ι)
  | INVITE_CREATED (entityId : ι) (placeKeyKind : String) (held : Bool)

structure AuditRow (ι : Type*) where
  event : AuditEvent ι
  actorId : String
  ipAddress : String
  userAgent : String

structure Store (ι : Type*) where
  businesses : Businesses
  leads : List (LeadId ι × Lead)
  invites : List (Invite ι)
  grants : List InviteRewardGrant
  users : String → Option UserStatus
  auditLog : List (AuditRow ι)
  /-- The transactions that hold the advisory locks of the two namespaces. -/
  placeLock : ℤ → Option ι
  inviterLock : ℤ → Option ι

def Store.leadIds {ι : Type*} (s : Store ι) : List (LeadId ι) := s.leads.map Prod.fst

/-! ### Calls -/

inductive Call
  | submitInvite (input : SubmitInviteInput)
  | deleteAccount (userId : String)

inductive SubmitInviteResult
  | already_live (merchantId businessName : String)
  | ok
  deriving DecidableEq

inductive Failure
  | app (e : AppError)
  /-- A crash, or a failed statement. -/
  | aborted
  deriving DecidableEq

/-- What a submission takes into its transaction, and when that has begun. -/
structure Transaction where
  note : InviteNote
  rewardEligible : Bool
  createdAt : ℤ

inductive Stage (ι : Type*)
  | begun
  | placed
  | locked
  /-- There is no invite of the inviter for the business. -/
  | unique
  /-- The inviter has room for one more. -/
  | counted
  /-- No open lead has the name. -/
  | unattached
  | attached (lead : LeadId ι)
  | inserted (lead : LeadId ι) (touchedAt : ℤ) (invite : Invite ι)

inductive Phase (ι : Type*)
  | start
  /-- The route has found the user, who is not deleted. -/
  | found
  | notLive (note : InviteNote)
  | openSeen (note : InviteNote) (candidates : List (LeadId ι × Lead))
  | stamped (note : InviteNote) (rewardEligible : Bool)
  | submitting (stage : Stage ι) (tx : Transaction)
  | returned (result : SubmitInviteResult)
  | failed (e : Failure)
  /-- The deletion has written the user. -/
  | marked
  /-- It has written these invites too. -/
  | scrubbed (ids : List ι) (now : ℤ)
  | deleted

inductive Act (ι : Type*)
  | findUser
  | checkLive
  | readOpen (candidates : List (LeadId ι × Lead))
  | readConverted (candidates : List (LeadId ι × Lead))
  | begin (now : ℤ)
  | lockPlace
  | lockInviter
  | lockTimeout
  | findDuplicate
  | count
  | attach (candidates : List (LeadId ι × Lead))
  | reuse
  | insert (touchedAt countableAt : ℤ)
  | mark
  | scrub (now : ℤ)
  | commit
  /-- A crash, or a failed statement. -/
  | abandon

def BUSINESS_NAME_MAX_LENGTH : ℕ := 160
def OPEN_INVITE_CAP : ℕ := 10

section
variable (rt : Runtime)

/-- The checks before any query. -/
def validate (input : SubmitInviteInput) : Except AppError InviteNote := do
  rejectIf (trim input.businessNameRaw = "") .INVITE_BUSINESS_NAME_REQUIRED
  rejectIf (BUSINESS_NAME_MAX_LENGTH < codeUnits (trim input.businessNameRaw)) .INVITE_BUSINESS_NAME_INVALID
  validateInviteNote rt input.note

def SubmitInviteInput.inviterKey (input : SubmitInviteInput) : String := buildInviterKey input.userId

def SubmitInviteInput.placeKey (input : SubmitInviteInput) : String :=
  buildPlaceKey rt input.googlePlaceId (trim input.businessNameRaw) input.localityRaw

variable {ι : Type*}

/-! ### Rows -/

def Files (inviterKey placeKey : String) (a : Invite ι) : Prop := a.inviterKey = some inviterKey ∧ a.placeKey = placeKey

instance (inviterKey placeKey : String) : DecidablePred (Files (ι := ι) inviterKey placeKey) :=
  fun _ => inferInstanceAs (Decidable (_ ∧ _))

/-- Open invites of an inviter. -/
def IsOpen (inviterKey : String) (a : Invite ι) : Prop := a.inviterKey = some inviterKey ∧ a.anonymisedAt = none

instance (inviterKey : String) : DecidablePred (IsOpen (ι := ι) inviterKey) :=
  fun _ => inferInstanceAs (Decidable (_ ∧ _))

-- The order of ℤ that compiles.
local instance intPreorder : Preorder ℤ := Int.instLinearOrder.toPreorder

/-- The lead of the oldest invite for the business that has one. -/
def reusedLead (invites : List (Invite ι)) (placeKey : String) : Option (LeadId ι) :=
  (List.argmin Invite.createdAt (invites.filter fun a => a.placeKey = placeKey && a.leadId.isSome)).bind Invite.leadId

def createdLead (input : SubmitInviteInput) (now : ℤ) : Lead where
  businessName := trim input.businessNameRaw
  categoryGuess := none
  locationHint := input.localityRaw
  contactName := none
  contactEmail := none
  contactPhone := none
  source := some "CUSTOMER_REQUEST"
  stage := .LEAD
  nextAction := none
  dueDate := none
  assignedRepId := none
  lostReason := none
  convertedMerchantId := none
  lastActivityAt := now
  anonymisedAt := none

def createdInvite (input : SubmitInviteInput) (tx : Transaction) (i : ι) (lead : LeadId ι) (countableAt : ℤ) :
    Invite ι where
  id := i
  inviterUserId := some input.userId
  inviterKey := some input.inviterKey
  placeKey := input.placeKey rt
  googlePlaceId := input.googlePlaceId
  businessNameRaw := trim input.businessNameRaw
  localityRaw := input.localityRaw
  note := tx.note.note
  consentShareName := input.consentShareName
  status := if tx.note.held = true then .HELD_REVIEW else .ACTIVE
  rewardEligible := if tx.note.held = true then false else tx.rewardEligible
  countableAt := if tx.note.held = true then none else some countableAt
  leadId := some lead
  ipHash := some (hashInviteIp rt input.ip)
  anonymisedAt := none
  createdAt := tx.createdAt

def touch (now : ℤ) (l : LeadId ι × Lead) : LeadId ι × Lead := (l.1, { l.2 with lastActivityAt := now })

/-- The invites that the deletion of an account writes. -/
def Linked (userId : String) (a : Invite ι) : Prop := a.inviterUserId = some userId ∧ a.anonymisedAt = none

instance (userId : String) : DecidablePred (Linked (ι := ι) userId) := fun _ => inferInstanceAs (Decidable (_ ∧ _))

/-- `inviterEmailNorm` is null on every invite of a signed-in user. -/
def anonymise (now : ℤ) (a : Invite ι) : Invite ι :=
  { a with
    note := none
    ipHash := none
    inviterUserId := none
    inviterKey := none
    rewardEligible := false
    anonymisedAt := some now }

variable [DecidableEq ι]

def scrubInvitesForUser (ids : List ι) (now : ℤ) (invites : List (Invite ι)) : List (Invite ι) :=
  Rows.updateMany (fun a => a.id ∈ ids ∧ a.anonymisedAt = none) (anonymise now) invites

/-! ### Steps -/

/-- The transaction of a call ends, and with it its locks. -/
def release (i : ι) (s : Store ι) : Store ι :=
  { s with
    placeLock := fun k => if s.placeLock k = some i then none else s.placeLock k
    inviterLock := fun k => if s.inviterLock k = some i then none else s.inviterLock k }

/-- What the commit of a submission writes. -/
def file (input : SubmitInviteInput) (i : ι) (s : Store ι) (tx : Transaction) (lead : LeadId ι) (touchedAt : ℤ)
    (invite : Invite ι) : Store ι :=
  let created : AuditRow ι :=
    ⟨.INVITE_CREATED i (if (given input.googlePlaceId).isSome = true then "places" else "fuzzy") tx.note.held,
      input.userId, input.ip, input.userAgent.getD ""⟩
  if lead = .made i then
    { s with
      leads := s.leads ++ [(lead, createdLead input tx.createdAt)]
      invites := s.invites ++ [invite]
      auditLog := s.auditLog ++ [⟨.LEAD_CREATED lead, input.userId, input.ip, input.userAgent.getD ""⟩, created] }
  else
    { s with
      leads := Rows.updateMany (fun l => l.1 = lead) (touch touchedAt) s.leads
      invites := s.invites ++ [invite]
      auditLog := s.auditLog ++ [created] }

/-- What the commit of a deletion writes. -/
def erase (userId : String) (ids : List ι) (now : ℤ) (s : Store ι) : Store ι :=
  { s with
    users := Function.update s.users userId (some .DELETED)
    grants := s.grants.filter fun g => ¬ (g.userId = userId ∧ g.status = .PENDING)
    invites := scrubInvitesForUser ids now s.invites }

def submission (input : SubmitInviteInput) (i : ι) (s : Store ι) (tx : Transaction) :
    Stage ι → Act ι → Option (Store ι × Phase ι)
  | .begun, .lockPlace =>
    let k := rt.hashtext (input.placeKey rt)
    if s.placeLock k = none then
      some ({ s with placeLock := Function.update s.placeLock k (some i) }, .submitting .placed tx)
    else none
  | .placed, .lockInviter =>
    let k := rt.hashtext input.inviterKey
    if s.inviterLock k = none then
      some ({ s with inviterLock := Function.update s.inviterLock k (some i) }, .submitting .locked tx)
    else none
  | .begun, .lockTimeout | .placed, .lockTimeout | .attached _, .lockTimeout =>
    some (release i s, .failed (.app .INVITE_SUBMIT_CONTENTION))
  | .locked, .findDuplicate =>
    if (s.invites.find? fun a => Files input.inviterKey (input.placeKey rt) a).isSome = true then
      some (release i s, .returned .ok)
    else some (s, .submitting .unique tx)
  | .unique, .count =>
    if OPEN_INVITE_CAP ≤ s.invites.countP fun a => IsOpen input.inviterKey a then
      some (release i s, .failed (.app .INVITE_CAP_REACHED))
    else some (s, .submitting .counted tx)
  | .counted, .attach candidates =>
    if TakesTen (openLeads rt s.leads (trim input.businessNameRaw)) candidates then
      some (s, .submitting (match locate rt input.localityRaw candidates with
        | some lead => .attached lead.1
        | none => .unattached) tx)
    else none
  | .unattached, .reuse =>
    some (s, .submitting (.attached ((reusedLead s.invites (input.placeKey rt)).getD (.made i))) tx)
  | .attached lead, .insert touchedAt countableAt =>
    if lead ≠ .made i ∧ lead ∉ s.leadIds then some (release i s, .failed .aborted)
    else if (s.invites.find? fun a => Files input.inviterKey (input.placeKey rt) a).isSome = true then
      some (release i s, .returned .ok)
    else some (s, .submitting (.inserted lead touchedAt (createdInvite rt input tx i lead countableAt)) tx)
  | .inserted lead touchedAt invite, .commit =>
    some (release i (file input i s tx lead touchedAt invite), .returned .ok)
  | _, .abandon => some (release i s, .failed .aborted)
  | _, _ => none

def next (call : Call) (i : ι) (s : Store ι) (p : Phase ι) (a : Act ι) : Option (Store ι × Phase ι) :=
  match call, p, a with
  | .submitInvite input, .start, .findUser =>
    match s.users input.userId with
    | none => some (s, .failed (.app .USER_NOT_FOUND))
    | some .DELETED => some (s, .failed (.app .SESSION_REVOKED))
    | some _ => some (s, .found)
  | .submitInvite input, .found, .checkLive =>
    match validate rt input with
    | .error e => some (s, .failed (.app e))
    | .ok note =>
      match findMatchingMerchant rt s.businesses input true with
      | some merchant => some (s, .returned (.already_live merchant.id merchant.businessName))
      | none => some (s, .notLive note)
  | .submitInvite input, .notLive note, .readOpen candidates =>
    if TakesTen (openLeads rt s.leads (trim input.businessNameRaw)) candidates then some (s, .openSeen note candidates)
    else none
  | .submitInvite input, .openSeen note candidates, .readConverted converted =>
    if TakesTen (convertedLeads rt s.leads (trim input.businessNameRaw)) converted then
      some (s, .stamped note (rewardEligible rt s.businesses input candidates converted))
    else none
  | .submitInvite _, .stamped note eligible, .begin now => some (s, .submitting .begun ⟨note, eligible, now⟩)
  | .submitInvite input, .submitting stage tx, a => submission rt input i s tx stage a
  | .deleteAccount userId, .start, .mark =>
    some (s, if (s.users userId).isSome = true then .marked else .failed .aborted)
  | .deleteAccount userId, .marked, .scrub now =>
    some (s, .scrubbed ((s.invites.filter fun a => Linked userId a).map Invite.id) now)
  | .deleteAccount userId, .scrubbed ids now, .commit =>
    some (erase userId ids now s, .deleted)
  | _, .returned _, .abandon | _, .failed _, .abandon | _, .deleted, .abandon => none
  | _, _, .abandon => some (s, .failed .aborted)
  | _, _, _ => none

def step (calls : ι → Call) : Pool ι (Store ι) (Phase ι) → ι × Act ι → Option (Pool ι (Store ι) (Phase ι)) :=
  poolStep fun i => next rt (calls i) i

end

/-- No invite yet, and no call has begun. -/
def opened {ι : Type*} (businesses : Businesses) (leads : List (String × Lead)) (grants : List InviteRewardGrant)
    (users : String → Option UserStatus) : Pool ι (Store ι) (Phase ι) where
  store := {
    businesses := businesses
    leads := leads.map fun l => (.given l.1, l.2)
    invites := []
    grants := grants
    users := users
    auditLog := []
    placeLock := fun _ => none
    inviterLock := fun _ => none }
  proc _ := .start

/-! ### What a step does to the tables -/

variable {ι : Type*} [DecidableEq ι] {rt : Runtime} {calls : ι → Call} {call : Call} {i j : ι} {s s' : Store ι}
  {p p' : Phase ι} {a : Act ι} {input : SubmitInviteInput} {tx : Transaction} {stage : Stage ι}

/-- The tables are as they were, and nobody else has lost a lock. -/
structure Quiet (i : ι) (s s' : Store ι) : Prop where
  leads : s'.leads = s.leads
  invites : s'.invites = s.invites
  auditLog : s'.auditLog = s.auditLog
  placeLock : ∀ k j, j ≠ i → s.placeLock k = some j → s'.placeLock k = some j
  inviterLock : ∀ k j, j ≠ i → s.inviterLock k = some j → s'.inviterLock k = some j

omit [DecidableEq ι] in
theorem quiet_refl : Quiet i s s := ⟨rfl, rfl, rfl, fun _ _ _ h => h, fun _ _ _ h => h⟩

theorem quiet_release : Quiet i s (release i s) := by
  refine ⟨rfl, rfl, rfl, fun k j hne h => ?_, fun k j hne h => ?_⟩
  · simp [release, h, hne]
  · simp [release, h, hne]

omit [DecidableEq ι] in
theorem quiet_lockPlace {k : ℤ} (hk : s.placeLock k = none) :
    Quiet i s { s with placeLock := Function.update s.placeLock k (some i) } := by
  refine ⟨rfl, rfl, rfl, fun l j hne h => ?_, fun _ _ _ h => h⟩
  rcases eq_or_ne l k with rfl | hl
  · rw [hk] at h
    cases h
  · simpa [Function.update_of_ne hl] using h

omit [DecidableEq ι] in
theorem quiet_lockInviter {k : ℤ} (hk : s.inviterLock k = none) :
    Quiet i s { s with inviterLock := Function.update s.inviterLock k (some i) } := by
  refine ⟨rfl, rfl, rfl, fun _ _ _ h => h, fun l j hne h => ?_⟩
  rcases eq_or_ne l k with rfl | hl
  · rw [hk] at h
    cases h
  · simpa [Function.update_of_ne hl] using h

/-- A step leaves the tables alone, or commits a submission or a deletion. -/
inductive Effect (call : Call) (i : ι) (s : Store ι) (p : Phase ι) : Store ι → Phase ι → Prop
  | quiet (s' : Store ι) (p' : Phase ι) (hq : Quiet i s s') : Effect call i s p s' p'
  | file (input : SubmitInviteInput) (hcall : call = .submitInvite input) (tx : Transaction) (lead : LeadId ι)
      (touchedAt : ℤ) (invite : Invite ι) (hp : p = .submitting (.inserted lead touchedAt invite) tx) :
    Effect call i s p (release i (Invites.file input i s tx lead touchedAt invite)) (.returned .ok)
  | erase (userId : String) (hcall : call = .deleteAccount userId) (ids : List ι) (now : ℤ)
      (hp : p = .scrubbed ids now) : Effect call i s p (Invites.erase userId ids now s) .deleted

theorem effect_submission (h : submission rt input i s tx stage a = some (s', p')) :
    Effect (.submitInvite input) i s (.submitting stage tx) s' p' := by
  revert h
  fun_cases submission with
  | case1 k hk =>
    rintro ⟨⟩
    exact .quiet _ _ (quiet_lockPlace hk)
  | case3 k hk =>
    rintro ⟨⟩
    exact .quiet _ _ (quiet_lockInviter hk)
  | case18 =>
    rintro ⟨⟩
    exact .file input rfl tx _ _ _ rfl
  | _ => rintro ⟨⟩ <;> first | exact .quiet _ _ quiet_release | exact .quiet _ _ quiet_refl

theorem effect_next (h : next rt call i s p a = some (s', p')) : Effect call i s p s' p' := by
  revert h
  fun_cases next with
  | case12 => exact effect_submission
  | case15 =>
    rintro ⟨⟩
    exact .erase _ rfl _ _ rfl
  | _ => rintro ⟨⟩ <;> exact .quiet _ _ quiet_refl

/-! ### What holds of the tables -/

/-- The business for which a call has created a lead. -/
def placeOf (rt : Runtime) (calls : ι → Call) : LeadId ι → Option String
  | .given _ => none
  | .made i =>
    match calls i with
    | .submitInvite input => some (input.placeKey rt)
    | .deleteAccount _ => none

structure Inv (rt : Runtime) (calls : ι → Call) (s : Store ι) : Prop where
  unique : ∀ inviterKey placeKey, (s.invites.countP fun a => Files inviterKey placeKey a) ≤ 1
  cap : ∀ inviterKey, (s.invites.countP fun a => IsOpen inviterKey a) ≤ OPEN_INVITE_CAP
  linked : ∀ a ∈ s.invites, ∃ id ∈ a.leadId, id ∈ s.leadIds
  made : ∀ placeKey, (s.leadIds.countP fun id => placeOf rt calls id = some placeKey) ≤ 1
  filed : ∀ id ∈ s.leadIds, ∀ placeKey, placeOf rt calls id = some placeKey → ∃ a ∈ s.invites, a.placeKey = placeKey

/-- A call has created nothing. -/
def Unfiled (i : ι) (s : Store ι) : Prop := (∀ a ∈ s.invites, a.id ≠ i) ∧ .made i ∉ s.leadIds

/-- The lead of a submission is there, or the business has no invite yet and it is to be created. -/
def LeadOk (i : ι) (s : Store ι) (placeKey : String) (lead : LeadId ι) : Prop :=
  lead ∈ s.leadIds ∨ lead = .made i ∧ ∀ a ∈ s.invites, a.placeKey ≠ placeKey

/-- How far a submission has come in its transaction. -/
def Stage.rank : Stage ι → ℕ
  | .begun => 0
  | .placed => 1
  | .locked => 2
  | .unique => 3
  | _ => 4

/-- What a submission knows inside its transaction. -/
structure Knows (rt : Runtime) (input : SubmitInviteInput) (i : ι) (s : Store ι) (stage : Stage ι) : Prop where
  place : 1 ≤ stage.rank → s.placeLock (rt.hashtext (input.placeKey rt)) = some i
  inviter : 2 ≤ stage.rank → s.inviterLock (rt.hashtext input.inviterKey) = some i
  unique : 3 ≤ stage.rank → ∀ a ∈ s.invites, ¬ Files input.inviterKey (input.placeKey rt) a
  room : 4 ≤ stage.rank → (s.invites.countP fun a => IsOpen input.inviterKey a) < OPEN_INVITE_CAP
  attached : ∀ lead, stage = .attached lead → LeadOk i s (input.placeKey rt) lead
  inserted : ∀ lead touchedAt invite, stage = .inserted lead touchedAt invite → LeadOk i s (input.placeKey rt) lead ∧
    invite.id = i ∧ invite.inviterKey = some input.inviterKey ∧ invite.placeKey = input.placeKey rt ∧
      invite.leadId = some lead

/-! ### Commits -/

theorem mem_erase_invites {userId : String} {ids : List ι} {now : ℤ} {b : Invite ι}
    (h : b ∈ (erase userId ids now s).invites) : ∃ a ∈ s.invites, b.id = a.id ∧ b.placeKey = a.placeKey ∧
      b.leadId = a.leadId ∧ (b = a ∨ b.inviterKey = none ∧ b.inviterUserId = none ∧ b.anonymisedAt ≠ none) := by
  obtain ⟨a, ha, ⟨-, rfl⟩ | ⟨-, rfl⟩⟩ := Rows.mem_updateMany.mp h
  · exact ⟨a, ha, rfl, rfl, rfl, .inr ⟨rfl, rfl, Option.some_ne_none now⟩⟩
  · exact ⟨b, ha, rfl, rfl, rfl, .inl rfl⟩

theorem exists_mem_erase_invites (userId : String) (ids : List ι) (now : ℤ) {a : Invite ι} (h : a ∈ s.invites) :
    ∃ b ∈ (erase userId ids now s).invites, b.placeKey = a.placeKey := by
  by_cases hit : a.id ∈ ids ∧ a.anonymisedAt = none
  · exact ⟨_, Rows.mem_updateMany_of_pos h hit, rfl⟩
  · exact ⟨a, Rows.mem_updateMany_of_neg h hit, rfl⟩

theorem countP_erase_le {userId : String} {ids : List ι} {now : ℤ} {q : Invite ι → Prop} [DecidablePred q]
    (hq : ∀ a, q (anonymise now a) → q a) :
    ((erase userId ids now s).invites.countP fun a => q a) ≤ s.invites.countP fun a => q a := by
  refine Rows.countP_updateMany_le fun a _ h => ?_
  split_ifs at h
  · exact hq a h
  · exact h

theorem Inv.erase (h : Inv rt calls s) (userId : String) (ids : List ι) (now : ℤ) :
    Inv rt calls (Invites.erase userId ids now s) where
  unique k q := (countP_erase_le fun a ha => by cases ha.1).trans (h.unique k q)
  cap k := (countP_erase_le fun a ha => by cases ha.1).trans (h.cap k)
  linked b hb := by
    obtain ⟨a, ha, -, -, hlead, -⟩ := mem_erase_invites hb
    rw [hlead]
    exact h.linked a ha
  made := h.made
  filed l hl q hq := by
    obtain ⟨a, ha, hplace⟩ := h.filed l hl q hq
    obtain ⟨b, hb, he⟩ := exists_mem_erase_invites userId ids now ha
    exact ⟨b, hb, he.trans hplace⟩

theorem file_invites (input : SubmitInviteInput) (i : ι) (s : Store ι) (tx : Transaction) (lead : LeadId ι)
    (touchedAt : ℤ) (invite : Invite ι) :
    (file input i s tx lead touchedAt invite).invites = s.invites ++ [invite] := by
  by_cases hl : lead = .made i
  · simp only [file, if_pos hl]
  · simp only [file, if_neg hl]

theorem file_leadIds (input : SubmitInviteInput) (i : ι) (s : Store ι) (tx : Transaction) (lead : LeadId ι)
    (touchedAt : ℤ) (invite : Invite ι) : (file input i s tx lead touchedAt invite).leadIds =
      s.leadIds ++ if lead = .made i then [lead] else [] := by
  by_cases hl : lead = .made i
  · simp only [file, Store.leadIds, if_pos hl, List.map_append, List.map_cons, List.map_nil]
  · simp only [file, Store.leadIds, if_neg hl, List.append_nil]
    exact Rows.map_key_updateMany fun _ => rfl

theorem Inv.file (h : Inv rt calls s) (hcall : calls i = .submitInvite input) (hi : Unfiled i s) {lead : LeadId ι}
    {touchedAt : ℤ} {invite : Invite ι} (hk : Knows rt input i s (.inserted lead touchedAt invite)) :
    Inv rt calls (Invites.file input i s tx lead touchedAt invite) := by
  obtain ⟨hlead, -, hkey, hplace, hleadId⟩ := hk.inserted lead touchedAt invite rfl
  have hunique := hk.unique (Nat.le_succ 3)
  have hroom := hk.room le_rfl
  have hmade : lead = .made i → ∀ a ∈ s.invites, a.placeKey ≠ input.placeKey rt := by
    rintro rfl
    exact (hlead.resolve_left hi.2).2
  refine ⟨fun k q => ?_, fun k => ?_, fun a ha => ?_, fun q => ?_, fun id hid q hq => ?_⟩
  · rw [file_invites, List.countP_append, List.countP_singleton]
    split_ifs with hfiles
    · have hnone : (s.invites.countP fun a => Files k q a) = 0 := by
        refine List.countP_eq_zero.mpr fun a ha => ?_
        obtain ⟨hk', rfl⟩ := of_decide_eq_true hfiles
        rw [hkey] at hk'
        cases hk'
        rw [hplace]
        simpa using hunique a ha
      omega
    · exact h.unique k q
  · rw [file_invites, List.countP_append, List.countP_singleton]
    split_ifs with hopen
    · obtain ⟨hk', -⟩ := of_decide_eq_true hopen
      rw [hkey] at hk'
      cases hk'
      omega
    · exact h.cap k
  · rw [file_invites, List.mem_append, List.mem_singleton] at ha
    rw [file_leadIds]
    obtain ha | rfl := ha
    · obtain ⟨id, hid, hmem⟩ := h.linked a ha
      exact ⟨id, hid, List.mem_append_left _ hmem⟩
    · refine ⟨lead, hleadId, ?_⟩
      obtain hmem | ⟨hl, -⟩ := hlead
      · exact List.mem_append_left _ hmem
      · rw [if_pos hl]
        exact List.mem_append_right _ (List.mem_singleton_self _)
  · rw [file_leadIds]
    split_ifs with hl
    · rw [List.countP_append, List.countP_singleton]
      split_ifs with hq
      · have hnone : (s.leadIds.countP fun id => placeOf rt calls id = some q) = 0 := by
          refine List.countP_eq_zero.mpr fun id hid => ?_
          intro hid'
          obtain ⟨a, ha, hap⟩ := h.filed id hid q (of_decide_eq_true hid')
          have hq' : input.placeKey rt = q := by simpa [hl, placeOf, hcall] using hq
          exact hmade hl a ha (hap.trans hq'.symm)
        omega
      · exact h.made q
    · rw [List.append_nil]
      exact h.made q
  · rw [file_invites]
    rw [file_leadIds, List.mem_append] at hid
    obtain hid | hid := hid
    · obtain ⟨a, ha, hap⟩ := h.filed id hid q hq
      exact ⟨a, List.mem_append_left _ ha, hap⟩
    · split_ifs at hid with hl
      · rw [List.mem_singleton.mp hid, hl] at hq
        refine ⟨invite, List.mem_append_right _ (List.mem_singleton_self _), ?_⟩
        simpa [placeOf, hcall, hplace] using hq
      · cases hid

/-! ### What the others leave alone -/

omit [DecidableEq ι] in
/-- The locks are kept, and no invite comes that is in the way. -/
theorem Knows.frame (h : Knows rt input i s stage)
    (hplace : ∀ k, s.placeLock k = some i → s'.placeLock k = some i)
    (hinviter : ∀ k, s.inviterLock k = some i → s'.inviterLock k = some i)
    (hinvites : 1 ≤ stage.rank → ∀ b ∈ s'.invites, b.placeKey = input.placeKey rt →
      ∃ a ∈ s.invites, a.placeKey = b.placeKey ∧ (b.inviterKey = none ∨ b.inviterKey = a.inviterKey))
    (hopen : 2 ≤ stage.rank → (s'.invites.countP fun a => IsOpen input.inviterKey a) ≤
      s.invites.countP fun a => IsOpen input.inviterKey a)
    (hleads : ∀ id ∈ s.leadIds, id ∈ s'.leadIds) : Knows rt input i s' stage := by
  have hlead : ∀ lead, 1 ≤ stage.rank → LeadOk i s (input.placeKey rt) lead →
      LeadOk i s' (input.placeKey rt) lead := by
    rintro lead hrank (hmem | ⟨hl, hnone⟩)
    · exact .inl (hleads lead hmem)
    · refine .inr ⟨hl, fun b hb hplace => ?_⟩
      obtain ⟨a, ha, hap, -⟩ := hinvites hrank b hb hplace
      exact hnone a ha (hap.trans hplace)
  refine ⟨fun hr => hplace _ (h.place hr), fun hr => hinviter _ (h.inviter hr), fun hr b hb hfiles => ?_,
    fun hr => (hopen (by omega)).trans_lt (h.room hr), fun lead hs => ?_, fun lead touchedAt invite hs => ?_⟩
  · obtain ⟨a, ha, hap, hnone | hkey⟩ := hinvites (by omega) b hb hfiles.2
    · cases hnone.symm.trans hfiles.1
    · exact h.unique hr a ha ⟨hkey ▸ hfiles.1, hap.trans hfiles.2⟩
  · exact hlead lead (by simp [hs, Stage.rank]) (h.attached lead hs)
  · obtain ⟨hok, hrest⟩ := h.inserted lead touchedAt invite hs
    exact ⟨hlead lead (by simp [hs, Stage.rank]) hok, hrest⟩

omit [DecidableEq ι] in
theorem Knows.quiet (h : Knows rt input i s stage) (hq : Quiet j s s') (hne : i ≠ j) :
    Knows rt input i s' stage := by
  have hleads : s'.leadIds = s.leadIds := by rw [Store.leadIds, hq.leads, Store.leadIds]
  refine h.frame (fun k => hq.placeLock k i hne) (fun k => hq.inviterLock k i hne) (fun _ b hb _ => ?_)
    (fun _ => ?_) fun id hid => ?_
  · rw [hq.invites] at hb
    exact ⟨b, hb, rfl, .inr rfl⟩
  · rw [hq.invites]
  · rw [hleads]
    exact hid

theorem Knows.erase (h : Knows rt input i s stage) (userId : String) (ids : List ι) (now : ℤ) :
    Knows rt input i (Invites.erase userId ids now s) stage := by
  refine h.frame (fun _ hk => hk) (fun _ hk => hk) (fun _ b hb _ => ?_) (fun _ => ?_) fun _ hid => hid
  · obtain ⟨a, ha, -, hplace, -, rfl | ⟨hkey, -⟩⟩ := mem_erase_invites hb
    · exact ⟨b, ha, rfl, .inr rfl⟩
    · exact ⟨a, ha, hplace.symm, .inl hkey⟩
  · exact countP_erase_le fun a ha => by cases ha.1

/-- A commit goes under the locks of its own business and inviter, so it is in nobody's way who holds one. -/
theorem Knows.file (h : Knows rt input i s stage) (hne : i ≠ j) {other : SubmitInviteInput} {lead : LeadId ι}
    {touchedAt : ℤ} {invite : Invite ι} (hk : Knows rt other j s (.inserted lead touchedAt invite)) :
    Knows rt input i (release j (Invites.file other j s tx lead touchedAt invite)) stage := by
  obtain ⟨-, -, hkey, hplace, -⟩ := hk.inserted lead touchedAt invite rfl
  have hplaceLock := hk.place (Nat.le_add_left 1 3)
  have hinviterLock := hk.inviter (Nat.le_add_left 2 2)
  have htables := quiet_release (i := j) (s := Invites.file other j s tx lead touchedAt invite)
  have hlocks : (Invites.file other j s tx lead touchedAt invite).placeLock = s.placeLock ∧
      (Invites.file other j s tx lead touchedAt invite).inviterLock = s.inviterLock := by
    by_cases hl : lead = .made j
    · simp only [Invites.file, if_pos hl, and_self]
    · simp only [Invites.file, if_neg hl, and_self]
  refine h.frame (fun k hk => ?_) (fun k hk => ?_) (fun hr b hb hb' => ?_) (fun hr => ?_) fun id hid => ?_
  · exact htables.placeLock k i hne (hlocks.1 ▸ hk)
  · exact htables.inviterLock k i hne (hlocks.2 ▸ hk)
  · rw [htables.invites, file_invites, List.mem_append, List.mem_singleton] at hb
    obtain hb | rfl := hb
    · exact ⟨b, hb, rfl, .inr rfl⟩
    · have hsame : rt.hashtext (input.placeKey rt) = rt.hashtext (other.placeKey rt) := by rw [← hb', hplace]
      have hi := h.place hr
      rw [hsame, hplaceLock] at hi
      exact absurd (Option.some.inj hi).symm hne
  · rw [htables.invites, file_invites, List.countP_append, List.countP_singleton]
    split_ifs with ho
    · obtain ⟨hkey', -⟩ := of_decide_eq_true ho
      have hsame : input.inviterKey = other.inviterKey := Option.some.inj (hkey'.symm.trans hkey)
      have hi := h.inviter hr
      rw [hsame, hinviterLock] at hi
      exact absurd (Option.some.inj hi).symm hne
    · rfl
  · rw [Store.leadIds, htables.leads, ← Store.leadIds, file_leadIds]
    exact List.mem_append_left _ hid

/-! ### A submission alone -/

omit [DecidableEq ι] in
theorem reusedLead_eq_none {invites : List (Invite ι)} {placeKey : String} (h : reusedLead invites placeKey = none) :
    ∀ a ∈ invites, a.placeKey = placeKey → a.leadId = none := by
  intro a ha hplace
  cases hm : List.argmin Invite.createdAt (invites.filter fun a => a.placeKey = placeKey && a.leadId.isSome) with
  | none =>
    have hnone := List.filter_eq_nil_iff.mp (List.argmin_eq_none.mp hm) a ha
    simpa [hplace] using hnone
  | some b =>
    have hb := List.argmin_mem hm
    rw [List.mem_filter] at hb
    rw [reusedLead, hm, Option.bind_some] at h
    simp [h] at hb

omit [DecidableEq ι] in
theorem mem_of_reusedLead {invites : List (Invite ι)} {placeKey : String} {lead : LeadId ι}
    (h : reusedLead invites placeKey = some lead) : ∃ a ∈ invites, a.leadId = some lead := by
  obtain ⟨a, ha, hlead⟩ := Option.bind_eq_some_iff.mp h
  exact ⟨a, (List.mem_filter.mp (List.argmin_mem ha)).1, hlead⟩

theorem mem_of_locate {localityRaw : Option String} {name : String} {candidates : List (LeadId ι × Lead)}
    {lead : LeadId ι × Lead} (ht : TakesTen (openLeads rt s.leads name) candidates)
    (h : locate rt localityRaw candidates = some lead) : lead.1 ∈ s.leadIds := by
  have hmem := ht.1.subset (List.mem_of_find?_eq_some h)
  exact List.mem_map_of_mem (List.mem_filter.mp hmem).1

omit [DecidableEq ι] in
theorem not_files_of_find {input : SubmitInviteInput}
    (h : ¬ (s.invites.find? fun a => Files input.inviterKey (input.placeKey rt) a).isSome = true) :
    ∀ a ∈ s.invites, ¬ Files input.inviterKey (input.placeKey rt) a := by
  rw [Option.not_isSome_iff_eq_none, List.find?_eq_none] at h
  simpa using h

omit [DecidableEq ι] in
/-- Up to the next rank, with nothing attached yet. -/
theorem Knows.climb {stage' : Stage ι} (hplace : s.placeLock (rt.hashtext (input.placeKey rt)) = some i)
    (hinviter : 2 ≤ stage'.rank → s.inviterLock (rt.hashtext input.inviterKey) = some i)
    (hunique : 3 ≤ stage'.rank → ∀ a ∈ s.invites, ¬ Files input.inviterKey (input.placeKey rt) a)
    (hroom : 4 ≤ stage'.rank → (s.invites.countP fun a => IsOpen input.inviterKey a) < OPEN_INVITE_CAP)
    (hstage : ∀ lead, stage' ≠ .attached lead ∧ ∀ touchedAt invite, stage' ≠ .inserted lead touchedAt invite) :
    Knows rt input i s stage' :=
  ⟨fun _ => hplace, hinviter, hunique, hroom, fun lead h => absurd h (hstage lead).1,
    fun lead touchedAt invite h => absurd h ((hstage lead).2 touchedAt invite)⟩

omit [DecidableEq ι] in
theorem Knows.attach (h : Knows rt input i s stage) (hr : 4 ≤ stage.rank) {lead : LeadId ι}
    (hlead : LeadOk i s (input.placeKey rt) lead) : Knows rt input i s (.attached lead) :=
  ⟨fun _ => h.place (by omega), fun _ => h.inviter (by omega), fun _ => h.unique (by omega), fun _ => h.room hr,
    fun lead' he => by cases he; exact hlead, fun _ _ _ he => by cases he⟩

theorem knows_submission {stage' : Stage ι} {tx' : Transaction} (hs : Inv rt calls s)
    (hk : Knows rt input i s stage)
    (h : submission rt input i s tx stage a = some (s', .submitting stage' tx')) : Knows rt input i s' stage' := by
  revert h
  fun_cases submission with
  | case1 k =>
    rintro ⟨⟩
    refine .climb (Function.update_self ..) (fun hr => ?_) (fun hr => ?_) (fun hr => ?_) (by simp) <;>
      simp [Stage.rank] at hr
  | case3 k =>
    rintro ⟨⟩
    refine .climb (hk.place le_rfl) (fun _ => Function.update_self ..) (fun hr => ?_) (fun hr => ?_) (by simp) <;>
      simp [Stage.rank] at hr
  | case9 hnone =>
    rintro ⟨⟩
    refine .climb (hk.place (Nat.le_succ 1)) (fun _ => hk.inviter le_rfl) (fun _ => not_files_of_find hnone)
      (fun hr => ?_) (by simp)
    simp [Stage.rank] at hr
  | case11 hroom =>
    rintro ⟨⟩
    exact .climb (hk.place (Nat.le_add_left 1 2)) (fun _ => hk.inviter (Nat.le_succ 2)) (fun _ => hk.unique le_rfl)
      (fun _ => not_le.mp hroom) (by simp)
  | case12 candidates ht =>
    intro h
    obtain ⟨rfl, he⟩ := Prod.mk.inj (Option.some.inj h)
    cases hl : locate rt input.localityRaw candidates with
    | none =>
      simp only [hl] at he
      cases he
      exact .climb (hk.place (Nat.le_add_left 1 3)) (fun _ => hk.inviter (Nat.le_add_left 2 2))
        (fun _ => hk.unique (Nat.le_succ 3)) (fun _ => hk.room le_rfl) (by simp)
    | some lead =>
      simp only [hl] at he
      cases he
      exact hk.attach le_rfl (.inl (mem_of_locate ht hl))
  | case14 =>
    rintro ⟨⟩
    refine hk.attach le_rfl ?_
    cases hl : reusedLead s.invites (input.placeKey rt) with
    | none =>
      refine .inr ⟨rfl, fun b hb hplace => ?_⟩
      obtain ⟨id, hid, -⟩ := hs.linked b hb
      cases (reusedLead_eq_none hl b hb hplace).symm.trans hid
    | some lead =>
      obtain ⟨b, hb, hlead⟩ := mem_of_reusedLead hl
      obtain ⟨id, hid, hmem⟩ := hs.linked b hb
      cases hlead.symm.trans hid
      exact .inl hmem
  | case17 lead touchedAt countableAt hmissing hnone =>
    rintro ⟨⟩
    refine ⟨fun _ => hk.place (Nat.le_add_left 1 3), fun _ => hk.inviter (Nat.le_add_left 2 2),
      fun _ => hk.unique (Nat.le_succ 3), fun _ => hk.room le_rfl, fun _ he => (by cases he),
      fun _ _ _ he => ?_⟩
    cases he
    exact ⟨hk.attached lead rfl, rfl, rfl, rfl, rfl⟩
  | _ => rintro ⟨⟩

/-! ### Every interleaving -/

/-- What holds at a phase of a call: it has created nothing yet, unless it has returned ok. -/
def Assertion (rt : Runtime) (calls : ι → Call) (i : ι) (s : Store ι) (p : Phase ι) : Prop :=
  (p ≠ .returned .ok → Unfiled i s) ∧
    ∀ stage tx, p = .submitting stage tx → ∀ input, calls i = .submitInvite input → Knows rt input i s stage

omit [DecidableEq ι] in
theorem Unfiled.quiet (h : Unfiled i s) (hq : Quiet j s s') : Unfiled i s' := by
  rw [Unfiled, hq.invites, Store.leadIds, hq.leads]
  exact h

omit [DecidableEq ι] in
theorem Inv.quiet (h : Inv rt calls s) (hq : Quiet i s s') : Inv rt calls s' := by
  have hleads : s'.leadIds = s.leadIds := by rw [Store.leadIds, hq.leads, Store.leadIds]
  refine ⟨?_, ?_, ?_, ?_, ?_⟩
  · rw [hq.invites]
    exact h.unique
  · rw [hq.invites]
    exact h.cap
  · rw [hq.invites, hleads]
    exact h.linked
  · rw [hleads]
    exact h.made
  · rw [hq.invites, hleads]
    exact h.filed

theorem Unfiled.erase (h : Unfiled i s) (userId : String) (ids : List ι) (now : ℤ) :
    Unfiled i (Invites.erase userId ids now s) := by
  refine ⟨fun b hb => ?_, h.2⟩
  obtain ⟨a, ha, hid, -⟩ := mem_erase_invites hb
  rw [hid]
  exact h.1 a ha

theorem Unfiled.file (h : Unfiled i s) (hne : i ≠ j) {other : SubmitInviteInput} {lead : LeadId ι}
    {touchedAt : ℤ} {invite : Invite ι} (hk : Knows rt other j s (.inserted lead touchedAt invite)) :
    Unfiled i (Invites.file other j s tx lead touchedAt invite) := by
  obtain ⟨-, hid, -⟩ := hk.inserted lead touchedAt invite rfl
  refine ⟨fun b hb => ?_, fun hmem => ?_⟩
  · rw [file_invites, List.mem_append, List.mem_singleton] at hb
    obtain hb | rfl := hb
    · exact h.1 b hb
    · rw [hid]
      exact hne.symm
  · rw [file_leadIds, List.mem_append] at hmem
    obtain hmem | hmem := hmem
    · exact h.2 hmem
    · split_ifs at hmem with hl
      · rw [List.mem_singleton, hl] at hmem
        cases hmem
        exact hne rfl
      · cases hmem

theorem inv_next (hs : Inv rt calls s) (hp : Assertion rt calls i s p)
    (h : next rt (calls i) i s p a = some (s', p')) : Inv rt calls s' := by
  cases effect_next h with
  | quiet _ _ hq => exact hs.quiet hq
  | file input hcall tx lead touchedAt invite he =>
    subst he
    exact (hs.file hcall (hp.1 nofun) (hp.2 _ _ rfl input hcall)).quiet quiet_release
  | erase userId _ ids now => exact hs.erase userId ids now

omit [DecidableEq ι] in
theorem knows_begun : Knows rt input i s .begun :=
  ⟨fun hr => absurd hr (Nat.not_succ_le_zero _), fun hr => absurd hr (Nat.not_succ_le_zero _),
    fun hr => absurd hr (Nat.not_succ_le_zero _), fun hr => absurd hr (Nat.not_succ_le_zero _),
    fun _ he => (by cases he), fun _ _ _ he => (by cases he)⟩

theorem next_of_returned (r : SubmitInviteResult) : next rt call i s (.returned r) a = none := by
  cases call <;> cases a <;> rfl

theorem assertion_next (hs : Inv rt calls s) (hp : Assertion rt calls i s p)
    (h : next rt (calls i) i s p a = some (s', p')) : Assertion rt calls i s' p' := by
  have hunfiled : Unfiled i s := by
    refine hp.1 fun hr => ?_
    rw [hr, next_of_returned] at h
    cases h
  refine ⟨fun hne => ?_, fun stage tx he input hcall => ?_⟩
  · cases effect_next h with
    | quiet _ _ hq => exact hunfiled.quiet hq
    | file => exact absurd rfl hne
    | erase userId _ ids now => exact hunfiled.erase userId ids now
  · subst he
    rw [hcall] at h
    generalize hc : Call.submitInvite input = call at h
    revert h
    fun_cases next with
    | case11 =>
      rintro ⟨⟩
      exact knows_begun
    | case12 =>
      cases hc
      exact knows_submission hs (hp.2 _ _ rfl input hcall)
    | case13 => cases hc
    | _ => rintro ⟨⟩

theorem own (i : ι) (s : Store ι) (p : Phase ι) (a : Act ι) (s' : Store ι) (p' : Phase ι) (hs : Inv rt calls s)
    (hp : Assertion rt calls i s p) (h : next rt (calls i) i s p a = some (s', p')) :
    Inv rt calls s' ∧ Assertion rt calls i s' p' :=
  ⟨inv_next hs hp h, assertion_next hs hp h⟩

theorem frame (i j : ι) (s : Store ι) (p q : Phase ι) (a : Act ι) (s' : Store ι) (p' : Phase ι) (hne : i ≠ j)
    (_ : Inv rt calls s) (hp : Assertion rt calls i s p) (hq : Assertion rt calls j s q)
    (h : next rt (calls i) i s p a = some (s', p')) : Assertion rt calls j s' q := by
  cases effect_next h with
  | quiet _ _ hquiet =>
    exact ⟨fun hr => (hq.1 hr).quiet hquiet,
      fun stage tx he input hcall => (hq.2 stage tx he input hcall).quiet hquiet hne.symm⟩
  | file input hcall tx lead touchedAt invite he =>
    subst he
    have hk := hp.2 _ _ rfl input hcall
    exact ⟨fun hr => ((hq.1 hr).file hne.symm hk).quiet quiet_release,
      fun stage tx he input hcall => (hq.2 stage tx he input hcall).file hne.symm hk⟩
  | erase userId _ ids now =>
    exact ⟨fun hr => (hq.1 hr).erase userId ids now,
      fun stage tx he input hcall => (hq.2 stage tx he input hcall).erase userId ids now⟩

variable {businesses : Businesses} {leads : List (String × Lead)} {grants : List InviteRewardGrant}
  {users : String → Option UserStatus}

omit [DecidableEq ι] in
theorem inv_opened : PoolInv (Inv rt calls) (Assertion rt calls)
    (opened businesses leads grants users : Pool ι (Store ι) (Phase ι)) := by
  have hgiven : ∀ id ∈ (opened businesses leads grants users : Pool ι (Store ι) (Phase ι)).store.leadIds,
      ∃ key, id = .given key := by
    intro id hid
    simp only [opened, Store.leadIds, List.map_map, List.mem_map] at hid
    obtain ⟨l, -, rfl⟩ := hid
    exact ⟨l.1, rfl⟩
  refine ⟨⟨fun _ _ => Nat.zero_le _, fun _ => Nat.zero_le _, fun a ha => (by cases ha), fun q => ?_,
    fun id hid q hq => ?_⟩, fun i => ⟨fun _ => ⟨fun a ha => (by cases ha), fun hmem => ?_⟩,
    fun _ _ he => (by cases he)⟩⟩
  · refine (List.countP_eq_zero.mpr fun id hid => ?_).le.trans (Nat.zero_le 1)
    obtain ⟨key, rfl⟩ := hgiven id hid
    simp [placeOf]
  · obtain ⟨key, rfl⟩ := hgiven id hid
    cases hq
  · obtain ⟨key, hkey⟩ := hgiven _ hmem
    cases hkey

/-- An exact duplicate is answered ok and writes nothing, whether or not there is room for another invite. -/
theorem duplicate_ok (hcall : calls i = .submitInvite input) {t t' : Pool ι (Store ι) (Phase ι)}
    (hp : t.proc i = .submitting .locked tx)
    (hdup : ∃ b ∈ t.store.invites, Files input.inviterKey (input.placeKey rt) b) (ha : a ≠ .abandon)
    (h : step rt calls t (i, a) = some t') : t'.proc i = .returned .ok ∧ Quiet i t.store t'.store := by
  obtain ⟨x, l, hn, rfl⟩ := poolStep_eq_some.mp h
  dsimp only at hn ⊢
  rw [hp, hcall] at hn
  cases a with
  | findDuplicate =>
    have hfound : (t.store.invites.find? fun b => Files input.inviterKey (input.placeKey rt) b).isSome = true := by
      rw [List.find?_isSome]
      simpa using hdup
    simp only [next, submission, if_pos hfound] at hn
    cases hn
    rw [Function.update_self]
    exact ⟨rfl, quiet_release⟩
  | abandon => exact absurd rfl ha
  | _ => cases hn

/-- A runtime, for plain letters and the few keys that follow. -/
def plain : Runtime where
  toLowerCase s := String.ofList (s.toList.map Char.toLower)
  normalizeNFD s := s
  sha256 _ := "440a628a0c975ea32d4db42ca94acebc975ab378b3ee2a692ccf2ecae6038bbd"
  insensitive a b := a.toList.map Char.toLower = b.toList.map Char.toLower
  hashtext s := if s = "gp:place-1" then -1997951831 else if s = "u:ann" then 1854849038 else 1859450671

def toCafe (userId : String) : SubmitInviteInput :=
  ⟨userId, "Cafe", none, some "place-1", none, true, "203.0.113.5", none⟩

def friends : ℕ → Call
  | 0 | 2 => .submitInvite (toCafe "ann")
  | _ => .submitInvite (toCafe "bob")

/-- Up to the transaction. -/
def arrives (i : ℕ) (now : ℤ) : List (ℕ × Act ℕ) :=
  [(i, .findUser), (i, .checkLive), (i, .readOpen []), (i, .readConverted []), (i, .begin now)]

/-- Both ask for the café, which nobody knows; then the first of them asks once more. -/
def friendsRun : List (ℕ × Act ℕ) :=
  arrives 0 10 ++ arrives 1 11 ++ [(1, .lockPlace), (1, .lockInviter), (1, .findDuplicate), (1, .count),
    (1, .attach []), (1, .reuse), (1, .insert 12 12), (1, .commit), (0, .lockPlace), (0, .lockInviter),
    (0, .findDuplicate), (0, .count), (0, .attach [(.made 1, createdLead (toCafe "bob") 11)]), (0, .insert 13 13),
    (0, .commit), (2, .findUser), (2, .checkLive), (2, .readOpen [(.made 1, createdLead (toCafe "bob") 13)]),
    (2, .readConverted []), (2, .begin 14), (2, .lockPlace), (2, .lockInviter), (2, .findDuplicate)]

end Redeemo.Invites
