import Redeemo.Lib.Fallible
import Redeemo.Lib.ReadCommitted
import Redeemo.Lib.Records
import Redeemo.Lib.Runs
import Redeemo.Shared.Errors
import Redeemo.Shared.Schema

/-! One lead of the recruitment pipeline, with any number of transactions on it.

    An edit reads the lead and later writes the fields it was given, whatever has become of the lead; a conversion
    writes if the lead is not converted then, and the anonymisation if it is still the lead that the sweep has seen.
    So what a commit can break is the work of an edit or a conversion that has read the lead before an anonymisation
    or a conversion, and commits after it. -/

namespace Redeemo.Leads
open Fallible ReadCommitted Records Runs

structure Lead where
  businessName : String
  categoryGuess : Option String
  locationHint : Option String
  contactName : Option String
  contactEmail : Option String
  contactPhone : Option String
  source : Option String
  stage : LeadStage
  nextAction : Option String
  dueDate : Option ℤ
  assignedRepId : Option String
  lostReason : Option String
  convertedMerchantId : Option ℕ
  lastActivityAt : ℤ
  anonymisedAt : Option ℤ
  deriving DecidableEq

def PIPELINE_LANES : List LeadStage := [.LEAD, .CONTACTED, .VISIT_BOOKED]

def isPipelineLane (stage : LeadStage) : Bool := stage ∈ PIPELINE_LANES

/-- A field that is absent is left as it is; one that is null is cleared. -/
structure UpdateLeadInput where
  businessName : Option String
  categoryGuess : Option (Option String)
  locationHint : Option (Option String)
  contactName : Option (Option String)
  contactEmail : Option (Option String)
  contactPhone : Option (Option String)
  source : Option (Option String)
  nextAction : Option (Option String)
  dueDate : Option (Option ℤ)
  assignedRepId : Option (Option String)
  stage : Option LeadStage
  lostReason : Option String

structure ConvertLeadInput where
  ownerEmail : String
  ownerFirstName : String
  ownerLastName : String
  tradingName : Option String
  jobTitle : Option String

/-- A lead as a sweep has seen it. -/
structure AnonymiseLeadRow where
  stage : LeadStage
  lastActivityAt : ℤ

inductive Call
  | updateLead (actorId : String) (input : UpdateLeadInput)
  | convertLead (actorId : String) (input : ConvertLeadInput)
  | anonymiseOneLead (row : AnonymiseLeadRow) (dbNow : ℤ)

structure Draft where
  merchantId : ℕ
  businessName : String
  tradingName : Option String
  ownerEmail : String
  ownerFirstName : String
  ownerLastName : String
  jobTitle : Option String
  deriving DecidableEq

inductive Trigger
  | LOST
  | STALE
  deriving DecidableEq

inductive AuditEvent
  | LEAD_LOST (before : LeadStage) (lostReason : Option String)
  /-- With the lost reasons, if they differ. -/
  | LEAD_STAGE_CHANGED (before after : LeadStage) (lostReasons : Option (Option String × Option String))
  | LEAD_UPDATED (changedFields : List String)
  | LEAD_CONVERTED (before : LeadStage) (merchantId : ℕ)
  | LEAD_ANONYMISED (trigger : Trigger)
  deriving DecidableEq

structure AuditRow where
  event : AuditEvent
  actorId : String
  deriving DecidableEq

/-! ### `updateLead` -/

def effectiveLostReason (input : UpdateLeadInput) (existing : Lead) : Option String :=
  input.lostReason.or existing.lostReason

def checkUpdate (input : UpdateLeadInput) (found : Option Lead) : Except AppError Lead := do
  let existing ← orReject found .LEAD_NOT_FOUND
  rejectIf existing.anonymisedAt.isSome .LEAD_ANONYMISED
  rejectIf existing.convertedMerchantId.isSome .LEAD_ALREADY_CONVERTED
  rejectIf (input.stage = some .CONVERTED) .LEAD_STAGE_NOT_DIRECTLY_SETTABLE
  rejectIf (input.stage = some .LOST ∧ (effectiveLostReason input existing).all isBlank) .LEAD_LOST_REASON_REQUIRED
  return existing

/-- What becomes of the lost reason, if anything. -/
def lostReasonData (input : UpdateLeadInput) (existing : Lead) : Option (Option String) :=
  if input.stage = some .LOST then some (effectiveLostReason input existing)
  else if existing.stage = .LOST ∧ input.stage.any isPipelineLane then some none
  else if existing.stage = .LOST then input.lostReason.map some
  else none

/-- The update of an edit that has found `existing`, on the row as it is when it is written. -/
def applyUpdate (input : UpdateLeadInput) (existing : Lead) (now : ℤ) (l : Lead) : Lead :=
  { l with
    businessName := input.businessName.getD l.businessName
    categoryGuess := input.categoryGuess.getD l.categoryGuess
    locationHint := input.locationHint.getD l.locationHint
    contactName := input.contactName.getD l.contactName
    contactEmail := input.contactEmail.getD l.contactEmail
    contactPhone := input.contactPhone.getD l.contactPhone
    source := input.source.getD l.source
    nextAction := input.nextAction.getD l.nextAction
    dueDate := input.dueDate.getD l.dueDate
    assignedRepId := input.assignedRepId.getD l.assignedRepId
    stage := input.stage.getD l.stage
    lostReason := (lostReasonData input existing).getD l.lostReason
    lastActivityAt := now }

def changedFields (before after : Lead) : List String :=
  [("businessName", decide (before.businessName = after.businessName)),
    ("categoryGuess", decide (before.categoryGuess = after.categoryGuess)),
    ("locationHint", decide (before.locationHint = after.locationHint)),
    ("source", decide (before.source = after.source)),
    ("stage", decide (before.stage = after.stage)),
    ("nextAction", decide (before.nextAction = after.nextAction)),
    ("dueDate", decide (before.dueDate = after.dueDate)),
    ("assignedRepId", decide (before.assignedRepId = after.assignedRepId)),
    ("lostReason", decide (before.lostReason = after.lostReason)),
    ("contactName", decide (before.contactName = after.contactName)),
    ("contactEmail", decide (before.contactEmail = after.contactEmail)),
    ("contactPhone", decide (before.contactPhone = after.contactPhone))].filterMap fun field =>
      if field.2 = true then none else some field.1

def updateAudit (actorId : String) (input : UpdateLeadInput) (existing updated : Lead) : AuditRow where
  actorId := actorId
  event :=
    if input.stage = some .LOST then .LEAD_LOST existing.stage (effectiveLostReason input existing)
    else if input.stage.any (· ≠ existing.stage) then
      .LEAD_STAGE_CHANGED existing.stage updated.stage
        (if existing.lostReason = updated.lostReason then none else some (existing.lostReason, updated.lostReason))
    else .LEAD_UPDATED (changedFields existing updated)

/-! ### `convertLead` -/

def checkConvert (found : Option Lead) : Except AppError Lead := do
  let lead ← orReject found .LEAD_NOT_FOUND
  rejectIf lead.anonymisedAt.isSome .LEAD_ANONYMISED
  rejectIf lead.convertedMerchantId.isSome .LEAD_ALREADY_CONVERTED
  return lead

def draftOf (input : ConvertLeadInput) (lead : Lead) (merchantId : ℕ) : Draft where
  merchantId := merchantId
  businessName := lead.businessName
  tradingName := input.tradingName
  ownerEmail := input.ownerEmail
  ownerFirstName := input.ownerFirstName
  ownerLastName := input.ownerLastName
  jobTitle := input.jobTitle

def Unconverted (l : Lead) : Prop := l.convertedMerchantId = none

instance : DecidablePred Unconverted := fun l => inferInstanceAs (Decidable (l.convertedMerchantId = none))

def stamp (merchantId : ℕ) (now : ℤ) (l : Lead) : Lead :=
  { l with convertedMerchantId := some merchantId, stage := .CONVERTED, lastActivityAt := now }

/-! ### `anonymiseOneLead` -/

def leadAnonymiseTrigger (row : AnonymiseLeadRow) : Trigger := if row.stage = .LOST then .LOST else .STALE

/-- The lead is still the one that the sweep has seen. -/
def AnonymiseLeadRow.Matches (row : AnonymiseLeadRow) (l : Lead) : Prop :=
  l.anonymisedAt = none ∧ l.convertedMerchantId = none ∧ l.lastActivityAt = row.lastActivityAt ∧ l.stage = row.stage

instance (row : AnonymiseLeadRow) : DecidablePred row.Matches := fun l =>
  inferInstanceAs (Decidable (l.anonymisedAt = none ∧ l.convertedMerchantId = none ∧
    l.lastActivityAt = row.lastActivityAt ∧ l.stage = row.stage))

def anonymise (dbNow : ℤ) (l : Lead) : Lead :=
  { l with contactName := none, contactEmail := none, contactPhone := none, nextAction := none,
           anonymisedAt := some dbNow }

/-! ### Transactions -/

/-- The database, as far as one lead goes. -/
structure Store (ι : Type*) where
  lead : Cell ι (Option Lead)
  /-- The drafts that conversions of the lead have committed. -/
  drafts : List Draft
  /-- The emails of the merchant admins. -/
  emails : List String
  /-- The audit rows of the lead. -/
  auditLog : List AuditRow

inductive Failure
  | app (e : AppError)
  /-- A crash, or a failed statement. -/
  | aborted
  deriving DecidableEq

inductive Phase
  | start
  /-- The checks have let the lead pass that was read. -/
  | found (existing : Lead)
  | updated (existing : Lead) (now : ℤ)
  | drafted (lead : Lead) (draft : Draft)
  | stamped (lead : Lead) (draft : Draft) (now : ℤ)
  | anonymised
  | returned
  /-- The anonymisation has found another lead than the sweep. -/
  | skipped
  | failed (e : Failure)
  deriving DecidableEq

inductive Act
  | read
  /-- `createMerchantDraftInTx`, with the id that the merchant gets. -/
  | draft (merchantId : ℕ)
  /-- A unique violation on the owner's email. -/
  | conflict
  | write (now : ℤ)
  /-- The audit row is inserted, and the transaction commits. -/
  | commit
  | abandon
  deriving DecidableEq

def Phase.over : Phase → Bool
  | .returned => true
  | .skipped => true
  | .failed _ => true
  | _ => false

variable {ι : Type*} [DecidableEq ι]

def rollback (i : ι) (s : Store ι) : Store ι := { s with lead := s.lead.rollback i }

def after (s : Store ι) : Except AppError Lead → Store ι × Phase
  | .ok existing => (s, .found existing)
  | .error e => (s, .failed (.app e))

/-- An update where the lead meets a condition. -/
def updateMany (i : ι) (s : Store ι) (hit : Lead → Prop) [DecidablePred hit] (f : Lead → Lead) :
    Option (Store ι × Bool) :=
  (s.lead.updateWhere i (fun l => ∃ x ∈ l, hit x) (Option.map f)).map fun r => ({ s with lead := r.1 }, r.2)

def next (call : Call) (i : ι) (s : Store ι) : Phase → Act → Option (Store ι × Phase)
  | .start, .read =>
    match call with
    | .updateLead _ input => some (after s (checkUpdate input (s.lead.read i)))
    | .convertLead _ _ => some (after s (checkConvert (s.lead.read i)))
    | .anonymiseOneLead _ _ => none
  | .start, .write _ =>
    match call with
    | .anonymiseOneLead row dbNow =>
      (updateMany i s row.Matches (anonymise dbNow)).map fun r => (r.1, if r.2 = true then .anonymised else .skipped)
    | _ => none
  | .found existing, .write now =>
    match call with
    | .updateLead _ input =>
      (s.lead.write i ((s.lead.read i).map (applyUpdate input existing now))).map fun lead =>
        ({ s with lead := lead }, .updated existing now)
    | _ => none
  | .found lead, .draft merchantId =>
    match call with
    | .convertLead _ input =>
      if input.ownerEmail ∈ s.emails then some (s, .failed (.app .EMAIL_ALREADY_EXISTS))
      else some (s, .drafted lead (draftOf input lead merchantId))
    | _ => none
  | .found _, .conflict =>
    match call with
    | .convertLead _ _ => some (s, .failed (.app .EMAIL_ALREADY_EXISTS))
    | _ => none
  | .drafted lead draft, .write now =>
    match call with
    | .convertLead _ _ =>
      (updateMany i s Unconverted (stamp draft.merchantId now)).map fun r =>
        (r.1, if r.2 = true then .stamped lead draft now else .failed (.app .LEAD_ALREADY_CONVERTED))
    | _ => none
  | .updated existing _, .commit =>
    match call with
    | .updateLead actorId input =>
      some ({ s with
        lead := s.lead.commit i
        auditLog := ((s.lead.read i).map (updateAudit actorId input existing)).toList ++ s.auditLog }, .returned)
    | _ => none
  | .stamped lead draft _, .commit =>
    match call with
    | .convertLead actorId _ =>
      some ({ lead := s.lead.commit i
              drafts := draft :: s.drafts
              emails := draft.ownerEmail :: s.emails
              auditLog := ⟨.LEAD_CONVERTED lead.stage draft.merchantId, actorId⟩ :: s.auditLog }, .returned)
    | _ => none
  | .anonymised, .commit =>
    match call with
    | .anonymiseOneLead row _ =>
      some ({ s with
        lead := s.lead.commit i
        auditLog := ⟨.LEAD_ANONYMISED (leadAnonymiseTrigger row), "system"⟩ :: s.auditLog }, .returned)
    | _ => none
  | phase, .abandon => if phase.over = true then none else some (rollback i s, .failed .aborted)
  | _, _ => none

/-- A lead that is neither anonymised nor converted, and no transaction has begun. -/
def opened (lead : Option Lead) (emails : List String) : Pool ι (Store ι) Phase :=
  ⟨⟨⟨lead, none⟩, [], emails, []⟩, fun _ => .start⟩

/-! ### What is promised of a lead -/

def ContactCleared (l : Lead) : Prop :=
  l.contactName = none ∧ l.contactEmail = none ∧ l.contactPhone = none ∧ l.nextAction = none

/-- An anonymised lead stays anonymous, a converted one stays converted. -/
def Kept (s : Store ι) : Prop := ∀ l ∈ s.lead.committed,
  (l.anonymisedAt.isSome → ContactCleared l) ∧
    (l.convertedMerchantId.isSome → l.stage = .CONVERTED ∧ l.anonymisedAt = none)

def isAnonymised (row : AuditRow) : Bool :=
  match row.event with
  | .LEAD_ANONYMISED _ => true
  | _ => false

/-- The drafts and the audit rows say what the lead says. -/
def Recorded (s : Store ι) : Prop :=
  s.drafts.map Draft.merchantId = (s.lead.committed.bind Lead.convertedMerchantId).toList ∧
    s.auditLog.countP isAnonymised = (s.lead.committed.bind Lead.anonymisedAt).toList.length

/-- What is set is not unset, nor set to something else. -/
def Lasts (s t : Store ι) : Prop := ∀ l ∈ s.lead.committed, ∃ l' ∈ t.lead.committed,
  (∀ at', l.anonymisedAt = some at' → l'.anonymisedAt = some at') ∧
    ∀ merchantId, l.convertedMerchantId = some merchantId → l'.convertedMerchantId = some merchantId

/-- The edit gives the lead contact data, or a next action. -/
def SetsContact (input : UpdateLeadInput) : Prop :=
  (∃ v, input.contactName = some (some v)) ∨ (∃ v, input.contactEmail = some (some v)) ∨
    (∃ v, input.contactPhone = some (some v)) ∨ ∃ v, input.nextAction = some (some v)

/-- A transaction commits on a lead that it would not have let pass any more. -/
inductive Breaks (l : Lead) : Call → Phase → Act → Prop
  | contact {actorId : String} {input : UpdateLeadInput} {existing : Lead} {now : ℤ} : l.anonymisedAt.isSome →
      SetsContact input → Breaks l (.updateLead actorId input) (.updated existing now) .commit
  | stage {actorId : String} {input : UpdateLeadInput} {existing : Lead} {now : ℤ} : l.convertedMerchantId.isSome →
      input.stage.isSome → Breaks l (.updateLead actorId input) (.updated existing now) .commit
  | convert {actorId : String} {input : ConvertLeadInput} {lead : Lead} {draft : Draft} {now : ℤ} :
      l.anonymisedAt.isSome → Breaks l (.convertLead actorId input) (.stamped lead draft now) .commit

/-! ### What a step does -/

section
variable {call : Call} {calls : ι → Call} {i j : ι} {s s' t : Store ι} {phase phase' : Phase} {a : Act}

/-- What a transaction has made of the lead so far. -/
def written : Call → Phase → Option (Lead → Lead)
  | .updateLead _ input, .updated existing now => some (applyUpdate input existing now)
  | .convertLead _ _, .stamped _ draft now => some (stamp draft.merchantId now)
  | .anonymiseOneLead _ dbNow, .anonymised => some (anonymise dbNow)
  | _, _ => none

def pending (call : Call) (phase : Phase) : Option (Option Lead → Option Lead) := (written call phase).map Option.map

/-- What is true of the lead while a transaction holds it, and of the input that has passed the checks. -/
def Known (s : Store ι) : Call → Phase → Prop
  | .updateLead _ input, .found _ => input.stage ≠ some .CONVERTED
  | .updateLead _ input, .updated _ _ => input.stage ≠ some .CONVERTED
  | .convertLead _ _, .stamped _ _ _ => ∃ l ∈ s.lead.committed, Unconverted l
  | .anonymiseOneLead row _, .anonymised => ∃ l ∈ s.lead.committed, row.Matches l
  | _, _ => True

/-- Everything that a step may do to what is committed. -/
inductive Effect (s s' : Store ι) : Call → Phase → Act → Prop
  | aside {call : Call} {phase : Phase} {a : Act} (hlead : s'.lead.committed = s.lead.committed)
      (hdrafts : s'.drafts = s.drafts) (haudit : s'.auditLog = s.auditLog)
      (hno : ∀ l, ¬ Breaks l call phase a) : Effect s s' call phase a
  | updated {actorId : String} {input : UpdateLeadInput} {existing : Lead} {now : ℤ}
      (hlead : s'.lead.committed = s.lead.committed.map (applyUpdate input existing now))
      (hstage : input.stage ≠ some .CONVERTED) (hdrafts : s'.drafts = s.drafts)
      (haudit : s'.auditLog.countP isAnonymised = s.auditLog.countP isAnonymised) :
      Effect s s' (.updateLead actorId input) (.updated existing now) .commit
  | converted {actorId : String} {input : ConvertLeadInput} {lead l : Lead} {draft : Draft} {now : ℤ}
      (hl : s.lead.committed = some l) (hnot : Unconverted l)
      (hlead : s'.lead.committed = some (stamp draft.merchantId now l)) (hdrafts : s'.drafts = draft :: s.drafts)
      (haudit : s'.auditLog.countP isAnonymised = s.auditLog.countP isAnonymised) :
      Effect s s' (.convertLead actorId input) (.stamped lead draft now) .commit
  | anonymised {row : AnonymiseLeadRow} {dbNow : ℤ} {l : Lead} (hl : s.lead.committed = some l) (hrow : row.Matches l)
      (hlead : s'.lead.committed = some (anonymise dbNow l)) (hdrafts : s'.drafts = s.drafts)
      (haudit : s'.auditLog.countP isAnonymised = s.auditLog.countP isAnonymised + 1) :
      Effect s s' (.anonymiseOneLead row dbNow) .anonymised .commit

theorem checkUpdate_ok {input : UpdateLeadInput} {found : Option Lead} {existing : Lead}
    (h : checkUpdate input found = .ok existing) : input.stage ≠ some .CONVERTED := by
  obtain ⟨lead, -, h⟩ := bind_ok_iff.mp h
  obtain ⟨_, -, h⟩ := bind_ok_iff.mp h
  obtain ⟨_, -, h⟩ := bind_ok_iff.mp h
  obtain ⟨_, hstage, -⟩ := bind_ok_iff.mp h
  exact rejectIf_eq_ok.mp hstage

theorem countP_updateAudit {actorId : String} {input : UpdateLeadInput} {existing : Lead} {found : Option Lead} :
    (found.map (updateAudit actorId input existing)).toList.countP isAnonymised = 0 := by
  cases found with
  | none => rfl
  | some updated =>
    rw [Option.map_some, Option.toList_some, List.countP_singleton, if_neg]
    unfold updateAudit isAnonymised
    dsimp only
    split_ifs <;> exact not_false

/-- A conditional update holds the lead that meets the condition, or changes nothing. -/
theorem updateMany_cases {hit : Lead → Prop} [DecidablePred hit] {f : Lead → Lead} {b : Bool}
    (hheld : s.lead.Holds i none) (h : updateMany i s hit f = some (s', b)) :
    (b = true ∧ (∃ l ∈ s.lead.committed, hit l) ∧ Cell.Moves i s.lead s'.lead ∧
      s'.lead.committed = s.lead.committed ∧ s'.drafts = s.drafts ∧ s'.auditLog = s.auditLog ∧
      s'.lead.Holds i (some (Option.map f))) ∨ (b = false ∧ s' = s) := by
  obtain ⟨⟨c, b'⟩, hc, he⟩ := Option.map_eq_some_iff.mp h
  cases he
  have hread : s.lead.read i = s.lead.committed := hheld.read
  rcases Cell.updateWhere_cases hc with ⟨hb, hhit, hfree, hcell⟩ | ⟨hb, -, hcell⟩
  · rw [hread] at hhit hcell
    refine .inl ⟨hb, hhit, ?_, ?_, rfl, rfl, ?_⟩
    · dsimp only
      rw [hcell]
      exact .write _ hfree
    · dsimp only
      rw [hcell]
    · dsimp only
      rw [hcell]
      rfl
  · refine .inr ⟨hb, ?_⟩
    rw [hcell]

omit [DecidableEq ι] in
theorem effect_refl (hno : ∀ l, ¬ Breaks l call phase a) : Effect s s call phase a := .aside rfl rfl rfl hno

theorem not_breaks (h : a ≠ .commit) (l : Lead) : ¬ Breaks l call phase a := by
  intro hb
  cases hb with
  | contact _ _ | stage _ _ | convert _ => exact h rfl

/-- A step reads, writes the lead, or commits. -/
theorem next_ok (hheld : s.lead.Holds i (pending call phase)) (hk : Known s call phase)
    (h : next call i s phase a = some (s', phase')) :
    Cell.Moves i s.lead s'.lead ∧ s'.lead.Holds i (pending call phase') ∧ Known s' call phase' ∧
      Effect s s' call phase a := by
  unfold next at h
  split at h
  · -- A call reads the lead.
    cases call with
    | updateLead actorId input =>
      dsimp only at h
      cases hcheck : checkUpdate input (s.lead.read i) with
      | ok existing =>
        rw [hcheck] at h
        cases h
        exact ⟨.stay, hheld, checkUpdate_ok hcheck, effect_refl (not_breaks (by simp))⟩
      | error e =>
        rw [hcheck] at h
        cases h
        exact ⟨.stay, hheld, trivial, effect_refl (not_breaks (by simp))⟩
    | convertLead actorId input =>
      dsimp only at h
      cases hcheck : checkConvert (s.lead.read i) with
      | ok lead =>
        rw [hcheck] at h
        cases h
        exact ⟨.stay, hheld, trivial, effect_refl (not_breaks (by simp))⟩
      | error e =>
        rw [hcheck] at h
        cases h
        exact ⟨.stay, hheld, trivial, effect_refl (not_breaks (by simp))⟩
    | anonymiseOneLead row dbNow => cases h
  · -- The anonymisation writes the lead that the sweep has seen.
    cases call with
    | updateLead actorId input => cases h
    | convertLead actorId input => cases h
    | anonymiseOneLead row dbNow =>
      obtain ⟨⟨u, b⟩, hu, he⟩ := Option.map_eq_some_iff.mp h
      cases he
      rcases updateMany_cases hheld hu with ⟨rfl, hhit, hmoves, hlead, hdrafts, haudit, hholds⟩ | ⟨rfl, rfl⟩
      · refine ⟨hmoves, hholds, ?_, .aside hlead hdrafts haudit (not_breaks (by simp))⟩
        obtain ⟨l, hl, hrow⟩ := hhit
        exact ⟨l, hlead.trans hl, hrow⟩
      · exact ⟨.stay, hheld, trivial, effect_refl (not_breaks (by simp))⟩
  · -- The edit writes.
    rename_i existing now
    cases call with
    | updateLead actorId input =>
      obtain ⟨c, hc, he⟩ := Option.map_eq_some_iff.mp h
      cases he
      obtain ⟨hmoves, hlead, hholds⟩ := Cell.Holds.write (f := Option.map (applyUpdate input existing now)) hheld hc
      exact ⟨hmoves, hholds, hk, .aside hlead rfl rfl (not_breaks (by simp))⟩
    | convertLead actorId input => cases h
    | anonymiseOneLead row dbNow => cases h
  · -- The draft is made, or its owner's email is taken.
    cases call with
    | updateLead actorId input => cases h
    | convertLead actorId input =>
      dsimp only at h
      split_ifs at h <;> cases h <;> exact ⟨.stay, hheld, trivial, effect_refl (not_breaks (by simp))⟩
    | anonymiseOneLead row dbNow => cases h
  · cases call with
    | updateLead actorId input => cases h
    | convertLead actorId input =>
      cases h
      exact ⟨.stay, hheld, trivial, effect_refl (not_breaks (by simp))⟩
    | anonymiseOneLead row dbNow => cases h
  · -- The conversion writes the lead if it is not converted.
    cases call with
    | updateLead actorId input => cases h
    | convertLead actorId input =>
      obtain ⟨⟨u, b⟩, hu, he⟩ := Option.map_eq_some_iff.mp h
      cases he
      rcases updateMany_cases hheld hu with ⟨rfl, hhit, hmoves, hlead, hdrafts, haudit, hholds⟩ | ⟨rfl, rfl⟩
      · refine ⟨hmoves, hholds, ?_, .aside hlead hdrafts haudit (not_breaks (by simp))⟩
        obtain ⟨l, hl, hnot⟩ := hhit
        exact ⟨l, hlead.trans hl, hnot⟩
      · exact ⟨.stay, hheld, trivial, effect_refl (not_breaks (by simp))⟩
    | anonymiseOneLead row dbNow => cases h
  · -- The three commits.
    rename_i existing now
    cases call with
    | updateLead actorId input =>
      cases h
      obtain ⟨hmoves, hlead, hfree⟩ := hheld.commit
      refine ⟨hmoves, hfree, trivial, .updated hlead hk rfl ?_⟩
      dsimp only
      rw [List.countP_append, countP_updateAudit, Nat.zero_add]
    | convertLead actorId input => cases h
    | anonymiseOneLead row dbNow => cases h
  · rename_i lead draft now
    cases call with
    | updateLead actorId input => cases h
    | convertLead actorId input =>
      cases h
      obtain ⟨l, hl, hnot⟩ := hk
      obtain ⟨hmoves, hlead, hfree⟩ := hheld.commit
      rw [Option.mem_def.mp hl] at hlead
      exact ⟨hmoves, hfree, trivial, .converted hl hnot hlead rfl (List.countP_cons_of_neg (by simp [isAnonymised]))⟩
    | anonymiseOneLead row dbNow => cases h
  · cases call with
    | updateLead actorId input => cases h
    | convertLead actorId input => cases h
    | anonymiseOneLead row dbNow =>
      cases h
      obtain ⟨l, hl, hrow⟩ := hk
      obtain ⟨hmoves, hlead, hfree⟩ := hheld.commit
      rw [Option.mem_def.mp hl] at hlead
      exact ⟨hmoves, hfree, trivial, .anonymised hl hrow hlead rfl (List.countP_cons_of_pos rfl)⟩
  · split_ifs at h
    cases h
    obtain ⟨hfree, hlead⟩ := Cell.free_rollback (c := s.lead) (i := i)
    refine ⟨Cell.moves_rollback, ?_, ?_, .aside hlead rfl rfl (not_breaks (by simp))⟩
    · cases call with
      | updateLead _ _ | convertLead _ _ | anonymiseOneLead _ _ => exact hfree
    · cases call with
      | updateLead _ _ | convertLead _ _ | anonymiseOneLead _ _ => trivial
  · cases h

omit [DecidableEq ι] in
theorem Known.frame {m : Cell ι (Option Lead)} (hm : Cell.Moves i s.lead m) (hmeq : s'.lead = m) (hne : i ≠ j)
    (hheld : s.lead.Holds j (pending call phase)) (hk : Known s call phase) : Known s' call phase := by
  subst hmeq
  cases call with
  | updateLead actorId input =>
    cases phase with
    | found existing => exact hk
    | updated existing now => exact hk
    | _ => trivial
  | convertLead actorId input =>
    cases phase with
    | stamped lead draft now =>
      have hsame : s'.lead = s.lead := hm.held_of_ne hne hheld
      unfold Known
      rw [hsame]
      exact hk
    | _ => trivial
  | anonymiseOneLead row dbNow =>
    cases phase with
    | anonymised =>
      have hsame : s'.lead = s.lead := hm.held_of_ne hne hheld
      unfold Known
      rw [hsame]
      exact hk
    | _ => trivial

/-! ### What a step does to the lead -/

omit [DecidableEq ι] in
theorem recorded_effect (h : Effect s s' call phase a) (hr : Recorded s) : Recorded s' := by
  obtain ⟨hdraft, haudit⟩ := hr
  cases h with
  | aside hlead hdrafts hlog _ =>
    unfold Recorded
    rw [hlead, hdrafts, hlog]
    exact ⟨hdraft, haudit⟩
  | updated hlead _ hdrafts hlog =>
    unfold Recorded
    rw [hlead, hdrafts, hlog, hdraft, haudit]
    cases s.lead.committed with
    | none | some l => exact ⟨rfl, rfl⟩
  | converted hl hnot hlead hdrafts hlog =>
    unfold Recorded
    rw [hl, Option.bind_some, hnot] at hdraft
    rw [hl] at haudit
    rw [hlead, hdrafts, hlog, haudit, List.map_cons, hdraft]
    exact ⟨rfl, rfl⟩
  | anonymised hl hrow hlead hdrafts hlog =>
    unfold Recorded
    rw [hl, Option.bind_some, hrow.1] at haudit
    rw [hl] at hdraft
    rw [hlead, hdrafts, hlog, haudit, hdraft]
    exact ⟨rfl, rfl⟩

omit [DecidableEq ι] in
theorem lasts_effect (h : Effect s s' call phase a) : Lasts s s' := by
  intro l hl
  cases h with
  | aside hlead _ _ _ => exact ⟨l, hlead.trans hl, fun _ h => h, fun _ h => h⟩
  | updated hlead _ _ _ =>
    rw [Option.mem_def.mp hl] at hlead
    exact ⟨_, hlead, fun _ h => h, fun _ h => h⟩
  | converted hl' hnot hlead _ _ =>
    cases hl'.symm.trans hl
    refine ⟨_, hlead, fun _ h => h, fun merchantId h => ?_⟩
    rw [hnot] at h
    cases h
  | anonymised hl' hrow hlead _ _ =>
    cases hl'.symm.trans hl
    refine ⟨_, hlead, fun at' h => ?_, fun _ h => h⟩
    rw [hrow.1] at h
    cases h

omit [DecidableEq ι] in
theorem Lasts.trans (h : Lasts s s') (h' : Lasts s' t) : Lasts s t := by
  intro l hl
  obtain ⟨m, hm, hanon, hconv⟩ := h l hl
  obtain ⟨n, hn, hanon', hconv'⟩ := h' m hm
  exact ⟨n, hn, fun at' h => hanon' at' (hanon at' h), fun merchantId h => hconv' merchantId (hconv merchantId h)⟩

/-- An edit of an anonymised lead keeps it anonymous exactly if it gives it no contact data. -/
theorem contactCleared_applyUpdate {input : UpdateLeadInput} {existing l : Lead} {now : ℤ} (hl : ContactCleared l) :
    ContactCleared (applyUpdate input existing now l) ↔ ¬ SetsContact input := by
  obtain ⟨hname, hemail, hphone, hnext⟩ := hl
  have hfield (field : Option (Option String)) : field.getD none = none ↔ ¬ ∃ v, field = some (some v) := by
    cases field with
    | none => simp
    | some value => cases value <;> simp
  rw [SetsContact, not_or, not_or, not_or, ← hfield, ← hfield, ← hfield, ← hfield]
  unfold ContactCleared applyUpdate
  dsimp only
  rw [hname, hemail, hphone, hnext]

theorem stage_applyUpdate {input : UpdateLeadInput} {existing l : Lead} {now : ℤ} (hl : l.stage = .CONVERTED)
    (hstage : input.stage ≠ some .CONVERTED) :
    (applyUpdate input existing now l).stage = .CONVERTED ↔ ¬ input.stage.isSome := by
  unfold applyUpdate
  dsimp only
  cases hinput : input.stage with
  | none => simpa using hl
  | some stage =>
    rw [hinput] at hstage
    simpa using hstage

omit [DecidableEq ι] in
/-- A step keeps what is promised exactly if it does not commit on a lead that it would not have let pass. -/
theorem kept_effect (h : Effect s s' call phase a) (hk : Kept s) :
    Kept s' ↔ ¬ ∃ l ∈ s.lead.committed, Breaks l call phase a := by
  cases h with
  | aside hlead _ _ hno =>
    refine iff_of_true ?_ fun ⟨l, _, hb⟩ => hno l hb
    unfold Kept
    rw [hlead]
    exact hk
  | @updated actorId input existing now hlead hstage _ _ =>
    constructor
    · rintro hk' ⟨l, hl, hb⟩
      rw [Option.mem_def.mp hl] at hlead
      obtain ⟨hanon, hconv⟩ := hk' _ hlead
      cases hb with
      | contact hset hsets => exact (contactCleared_applyUpdate ((hk l hl).1 hset)).mp (hanon hset) hsets
      | stage hset hsets => exact (stage_applyUpdate ((hk l hl).2 hset).1 hstage).mp (hconv hset).1 hsets
    · intro hno l' hl'
      rw [hlead] at hl'
      obtain ⟨l, hl, rfl⟩ := Option.map_eq_some_iff.mp hl'
      refine ⟨fun hset => ?_, fun hset => ⟨?_, ((hk l hl).2 hset).2⟩⟩
      · exact (contactCleared_applyUpdate ((hk l hl).1 hset)).mpr fun hsets => hno ⟨l, hl, .contact hset hsets⟩
      · exact (stage_applyUpdate ((hk l hl).2 hset).1 hstage).mpr fun hsets => hno ⟨l, hl, .stage hset hsets⟩
  | @converted actorId input lead l draft now hl hnot hlead _ _ =>
    constructor
    · rintro hk' ⟨l', hl', hb⟩
      cases hl.symm.trans hl'
      cases hb with
      | convert hset =>
        have hnone : (stamp draft.merchantId now l).anonymisedAt = none := ((hk' _ hlead).2 rfl).2
        rw [show l.anonymisedAt = none from hnone] at hset
        cases hset
    · intro hno l' hl'
      cases hlead.symm.trans hl'
      have hnone : ¬ l.anonymisedAt.isSome := fun hset => hno ⟨l, hl, .convert hset⟩
      exact ⟨fun hset => absurd hset hnone, fun _ => ⟨rfl, Option.not_isSome_iff_eq_none.mp hnone⟩⟩
  | @anonymised row dbNow l hl hrow hlead _ _ =>
    refine iff_of_true ?_ ?_
    · intro l' hl'
      cases hlead.symm.trans hl'
      refine ⟨fun _ => ⟨rfl, rfl, rfl, rfl⟩, fun hset => ?_⟩
      rw [show (anonymise dbNow l).convertedMerchantId = none from hrow.2.1] at hset
      cases hset
    · rintro ⟨_, _, hb⟩
      cases hb

/-! ### Runs -/

/-- What holds of every state of every run. -/
abbrev Inv (calls : ι → Call) : Pool ι (Store ι) Phase → Prop :=
  PoolInv Recorded fun i s phase => s.lead.Holds i (pending (calls i) phase) ∧ Known s (calls i) phase

theorem inv_step (s : Pool ι (Store ι) Phase) (a : ι × Act) (s' : Pool ι (Store ι) Phase) (hs : Inv calls s)
    (h : poolStep (fun i => next (calls i) i) s a = some s') : Inv calls s' := by
  refine poolInv_step (fun i s phase a s' phase' hr hown hn => ?_)
    (fun i j s phase other a s' phase' hne _ hown hother hn => ?_) s a s' hs h
  · obtain ⟨-, hheld, hknown, heffect⟩ := next_ok hown.1 hown.2 hn
    exact ⟨recorded_effect heffect hr, hheld, hknown⟩
  · obtain ⟨hmoves, -, -, -⟩ := next_ok hown.1 hown.2 hn
    exact ⟨hother.1.frame hmoves hne, hother.2.frame hmoves rfl hne hother.1⟩

omit [DecidableEq ι] in
theorem inv_opened {lead : Option Lead} {emails : List String}
    (hnew : ∀ l ∈ lead, l.anonymisedAt = none ∧ l.convertedMerchantId = none) : Inv calls (opened lead emails) := by
  refine ⟨?_, fun i => ⟨?_, ?_⟩⟩
  · cases lead with
    | none => exact ⟨rfl, rfl⟩
    | some l =>
      obtain ⟨hanon, hconv⟩ := hnew l rfl
      unfold Recorded opened
      rw [Option.bind_some, Option.bind_some, hanon, hconv]
      exact ⟨rfl, rfl⟩
  · cases hcall : calls i with
    | updateLead _ _ | convertLead _ _ | anonymiseOneLead _ _ => exact Cell.free_of_held_none rfl
  · cases hcall : calls i with
    | updateLead _ _ | convertLead _ _ | anonymiseOneLead _ _ => trivial

theorem lasts_run {as : List (ι × Act)} {s t : Pool ι (Store ι) Phase} (hs : Inv calls s)
    (h : run (poolStep fun i => next (calls i) i) s as = some t) : Lasts s.store t.store := by
  refine run_relates (I := Inv calls) (R := fun s t => Lasts s.store t.store) ?_ ?_ ?_ hs h
  · exact fun s l hl => ⟨l, hl, fun _ h => h, fun _ h => h⟩
  · exact fun s t u h h' => h.trans h'
  · intro s a t hs hstep
    refine ⟨inv_step s a t hs hstep, ?_⟩
    obtain ⟨store, phase, hn, rfl⟩ := poolStep_eq_some.mp hstep
    obtain ⟨-, -, -, heffect⟩ := next_ok (hs.2 a.1).1 (hs.2 a.1).2 hn
    exact lasts_effect heffect

/-- Throughout an interleaving of any number of edits, conversions and anonymisations of a lead, an anonymised lead
    stays anonymous and a converted one converted, exactly if no edit or conversion commits on a lead that has become
    one meanwhile that it would not change. In any case one draft at most is committed for the lead, an anonymised
    lead has one LEAD_ANONYMISED row, and neither mark is ever taken away. -/
theorem lead_kept_iff {lead : Option Lead} {emails : List String} {as : List (ι × Act)}
    (hnew : ∀ l ∈ lead, l.anonymisedAt = none ∧ l.convertedMerchantId = none) :
    (Throughout (poolStep fun i => next (calls i) i) (fun s => Kept s.store) (opened lead emails) as ↔
      Along (poolStep fun i => next (calls i) i)
        (fun s a => ¬ ∃ l ∈ s.store.lead.committed, Breaks l (calls a.1) (s.proc a.1) a.2) (opened lead emails) as) ∧
    ∀ xs s, run (poolStep fun i => next (calls i) i) (opened lead emails) xs = some s →
      s.store.drafts.length ≤ 1 ∧
      (∀ l ∈ s.store.lead.committed,
        s.store.auditLog.countP isAnonymised = if l.anonymisedAt.isSome then 1 else 0) ∧
      ∀ ys t, run (poolStep fun i => next (calls i) i) s ys = some t → Lasts s.store t.store := by
  constructor
  · refine throughout_iff_along_of_refused (fun s a hnone => ?_) inv_step (fun s a s' hs hi h => ?_)
      (inv_opened hnew) ?_
    · rintro ⟨l, -, hb⟩
      rw [poolStep, Option.map_eq_none_iff] at hnone
      obtain ⟨i, a⟩ := a
      dsimp only at hnone hb
      generalize calls i = call, s.proc i = phase at hnone hb
      cases hb with
      | contact _ _ | stage _ _ | convert _ => cases hnone
    · obtain ⟨store, phase, hn, rfl⟩ := poolStep_eq_some.mp h
      obtain ⟨-, -, -, heffect⟩ := next_ok (hs.2 a.1).1 (hs.2 a.1).2 hn
      exact kept_effect heffect hi
    · intro l hl
      obtain ⟨hanon, hconv⟩ := hnew l hl
      rw [hanon, hconv]
      exact ⟨fun h => absurd h Bool.false_ne_true, fun h => absurd h Bool.false_ne_true⟩
  · intro xs s hrun
    have hinv : Inv calls s := run_invariant inv_step (inv_opened hnew) hrun
    obtain ⟨hdrafts, haudit⟩ := hinv.1
    refine ⟨?_, fun l hl => ?_, fun ys t ht => lasts_run hinv ht⟩
    · rw [← List.length_map (f := Draft.merchantId), hdrafts]
      exact Option.length_toList_le
    · rw [haudit, Option.mem_def.mp hl, Option.bind_some]
      cases l.anonymisedAt with
      | none | some at' => rfl

end

/-! ### An edit that comes after the anonymisation -/

def prospect : Lead where
  businessName := "Harbour Cafe"
  categoryGuess := none
  locationHint := none
  contactName := some "Sam"
  contactEmail := none
  contactPhone := none
  source := none
  stage := .CONTACTED
  nextAction := none
  dueDate := none
  assignedRepId := none
  lostReason := none
  convertedMerchantId := none
  lastActivityAt := 0
  anonymisedAt := none

/-- A phone number for the lead. -/
def phoneEdit : UpdateLeadInput where
  businessName := none
  categoryGuess := none
  locationHint := none
  contactName := none
  contactEmail := none
  contactPhone := some (some "07700900123")
  source := none
  nextAction := none
  dueDate := none
  assignedRepId := none
  stage := none
  lostReason := none

def sweepMeetsEdit : Bool → Call
  | false => .updateLead "rep" phoneEdit
  | true => .anonymiseOneLead ⟨.CONTACTED, 0⟩ 16000000000

/-- The edit has read the lead when the sweep anonymises it. -/
def lateEdit : List (Bool × Act) :=
  [(false, .read), (true, .write 0), (true, .commit), (false, .write 16000000001), (false, .commit)]

theorem anonymised_lead_edited :
    ∃ s l, run (poolStep fun i => next (sweepMeetsEdit i) i) (opened (some prospect) []) lateEdit = some s ∧
      s.store.lead.committed = some l ∧ l.anonymisedAt = some 16000000000 ∧ l.contactPhone = some "07700900123" ∧
      ¬ Kept s.store := by
  refine ⟨_, _, rfl, rfl, rfl, rfl, fun hk => ?_⟩
  have hcleared := (hk _ rfl).1 rfl
  exact absurd hcleared.2.2.1 (Option.some_ne_none _)

theorem lead_kept_iff_late_edit :
    ¬ Along (poolStep fun i => next (sweepMeetsEdit i) i)
      (fun s a => ¬ ∃ l ∈ s.store.lead.committed, Breaks l (sweepMeetsEdit a.1) (s.proc a.1) a.2)
      (opened (some prospect) []) lateEdit := by
  intro halong
  have hnew : ∀ l ∈ some prospect, l.anonymisedAt = none ∧ l.convertedMerchantId = none := by
    intro l hl
    cases hl
    exact ⟨rfl, rfl⟩
  obtain ⟨s, l, hrun, -, -, -, hnot⟩ := anonymised_lead_edited
  exact hnot ((lead_kept_iff hnew).1.mpr halong lateEdit [] s (List.append_nil _).symm hrun)

end Redeemo.Leads
