import Redeemo.Merchant.Decisions

/-! The nudge for a claim on an approval that has gone stale.

    A sweep reads the row in one transaction, and alerts the claimer in another: that stamps the row if it is still
    as the sweep has read it, and writes the notification in the same transaction. A claim is eligible if it is later
    than the last stamp, and a stamp is later than the claim that it is for; so the stamps and the claims that they
    are for take turns, and no claim is alerted twice, whatever claims and releases do to the row. -/

namespace Redeemo.ClaimStale
open Fallible ReadCommitted Runs

structure Approval extends AdminApproval where
  lastStaleAlertAt : Option ℤ
  deriving DecidableEq

def CLAIM_STALE_AGE_MS : ℤ := 24 * 60 * 60 * 1000

/-- An eligible row of a scan, with the clock of the scan. -/
structure StaleClaim where
  claimedById : ℕ
  claimedAt : ℤ
  lastStaleAlertAt : Option ℤ
  referenceId : ℕ
  referenceType : String
  dbNow : ℤ
  old : claimedAt < dbNow - CLAIM_STALE_AGE_MS
  unalerted : ∀ t ∈ lastStaleAlertAt, t < claimedAt
  deriving DecidableEq

/-- The scan, for one row; it may leave out an eligible row of a full batch. -/
def claimStaleDbPhase (row : Approval) (dbNow : ℤ) : Option StaleClaim :=
  match row.claimedById, row.claimedAt with
  | some claimedById, some claimedAt =>
    if h : row.status = .PENDING ∧ claimedAt < dbNow - CLAIM_STALE_AGE_MS ∧
        ∀ t ∈ row.lastStaleAlertAt, t < claimedAt then
      some ⟨claimedById, claimedAt, row.lastStaleAlertAt, row.referenceId, row.referenceType, dbNow, h.2.1, h.2.2⟩
    else none
  | _, _ => none

/-- The row is still as the scan has found it. -/
def StaleClaim.Matches (claim : StaleClaim) (r : Approval) : Prop :=
  r.status = .PENDING ∧ r.claimedById = some claim.claimedById ∧ r.claimedAt = some claim.claimedAt ∧
    r.lastStaleAlertAt = claim.lastStaleAlertAt

instance (claim : StaleClaim) : DecidablePred claim.Matches := fun r =>
  inferInstanceAs (Decidable (r.status = .PENDING ∧ r.claimedById = some claim.claimedById ∧
    r.claimedAt = some claim.claimedAt ∧ r.lastStaleAlertAt = claim.lastStaleAlertAt))

def stamp (dbNow : ℤ) (r : Approval) : Approval := { r with lastStaleAlertAt := some dbNow }

structure AdminNotifyInput where
  adminUserId : ℕ
  type : String
  title : String
  body : String
  referenceId : ℕ
  referenceType : String
  deriving DecidableEq

/-- A notification that is written, and the claim that it is about. -/
structure Alert where
  notification : AdminNotifyInput
  claim : StaleClaim
  deriving DecidableEq

def alertOf (claim : StaleClaim) : Alert where
  notification :=
    { adminUserId := claim.claimedById
      type := "ADMIN_CLAIM_STALE"
      title := "A claimed review is going stale"
      body := "You claimed a merchant review over 24 hours ago. Open the queue to finish it, or release it so " ++
        "another admin can pick it up."
      referenceId := claim.referenceId
      referenceType := claim.referenceType }
  claim := claim

/-- What tells one claim from another. -/
def Alert.key (alert : Alert) : ℕ × ℤ := (alert.claim.claimedById, alert.claim.claimedAt)

inductive Call
  | claimApproval (adminId : ℕ)
  | releaseApproval (adminId : ℕ) (adminRole : AdminRole)
  | decision (call : Decisions.Call)
  | sweep

/-- An update of the columns that a sweep does not write. -/
def onRow (f : AdminApproval → AdminApproval) (r : Approval) : Approval :=
  { r with toAdminApproval := f r.toAdminApproval }

@[simp] theorem lastStaleAlertAt_onRow (f : AdminApproval → AdminApproval) (r : Approval) :
    (onRow f r).lastStaleAlertAt = r.lastStaleAlertAt := rfl

def Claimable (r : Approval) : Prop := OnboardingReview.Claimable r.id r.toAdminApproval

instance : DecidablePred Claimable := fun r =>
  inferInstanceAs (Decidable (OnboardingReview.Claimable r.id r.toAdminApproval))

/-! ### Transactions -/

structure Store (ι : Type*) where
  approval : Cell ι Approval
  /-- The committed notifications, the last one first. -/
  alerts : List Alert
  /-- The clock of the database. -/
  clock : ℤ

inductive Failure
  | app (e : AppError)
  /-- A crash, a timeout, or a failed statement. -/
  | aborted
  deriving DecidableEq

/-- What the merchant and the rest of its onboarding let a decision do. -/
inductive Others
  | pass
  | alreadyLive
  | refuse (e : AppError)
  deriving DecidableEq

inductive Phase
  | start
  | found (approval : Approval)
  | checked
  | written (now : ℤ)
  | seen (claim : StaleClaim)
  | stamped (claim : StaleClaim)
  | notified (claim : StaleClaim)
  | returned
  /-- The row is no longer as the scan has found it. -/
  | skipped
  | failed (e : Failure)
  deriving DecidableEq

inductive Act
  | read
  | others (o : Others)
  | write (now : ℤ)
  | notify
  | commit
  | abandon
  /-- Time passes. -/
  | tick (d : ℕ)
  deriving DecidableEq

def Phase.over : Phase → Bool
  | .returned => true
  | .skipped => true
  | .failed _ => true
  | _ => false

def checkRelease (adminId : ℕ) (adminRole : AdminRole) (approval : Approval) : Except AppError Approval := do
  let claimedById ← orReject approval.claimedById .APPROVAL_NOT_ACTIONABLE
  rejectIf (claimedById ≠ adminId ∧ adminRole ≠ .SUPER_ADMIN) .APPROVAL_NOT_CLAIMER
  return approval

def checkDecision (approval : Approval) : Except AppError Approval := do
  rejectIf (approval.type ≠ .MERCHANT_ONBOARDING) .APPROVAL_NOT_ACTIONABLE
  return approval

def found : Except AppError Approval → Phase
  | .ok approval => .found approval
  | .error e => .failed (.app e)

/-- A live merchant is approved already, and neither rejected nor asked for changes. -/
def afterOthers (call : Decisions.Call) (approval : Approval) : Others → Phase
  | .pass => if approval.status ∈ ACTIONABLE_STATUSES then .checked else .failed (.app .APPROVAL_NOT_ACTIONABLE)
  | .alreadyLive =>
    match call with
    | .approveApproval _ _ => .returned
    | _ => .failed (.app .APPROVAL_NOT_ACTIONABLE)
  | .refuse e => .failed (.app e)

variable {ι : Type*} [DecidableEq ι]

/-- What a transaction makes of the row. -/
def Call.update : Call → ℤ → Approval → Approval
  | .claimApproval adminId, now => onRow (OnboardingReview.claim adminId now)
  | .releaseApproval _ _, _ => onRow OnboardingReview.release
  | .decision call, _ => onRow call.decide
  | .sweep, dbNow => stamp dbNow

def write (call : Call) (i : ι) (s : Store ι) (now : ℤ) : Option (Store ι × Phase) :=
  (s.approval.write i (call.update now (s.approval.read i))).map fun approval =>
    ({ s with approval := approval }, .written now)

def updateMany (call : Call) (i : ι) (s : Store ι) (hit : Approval → Prop) [DecidablePred hit] (now : ℤ)
    (won lost : Phase) : Option (Store ι × Phase) :=
  (s.approval.updateWhere i hit (call.update now)).map fun r =>
    ({ s with approval := r.1 }, if r.2 = true then won else lost)

/-- A sweep that fails is tried again by the next one. -/
def abandoned : Call → Phase
  | .sweep => .start
  | _ => .failed .aborted

def next (call : Call) (i : ι) (s : Store ι) : Phase → Act → Option (Store ι × Phase)
  | .start, .read =>
    match call with
    | .claimApproval _ => some (s, .found (s.approval.read i))
    | .releaseApproval adminId adminRole => some (s, found (checkRelease adminId adminRole (s.approval.read i)))
    | .decision _ => some (s, found (checkDecision (s.approval.read i)))
    | .sweep => some (s, ((claimStaleDbPhase (s.approval.read i) s.clock).map Phase.seen).getD .start)
  | .found approval, .others o =>
    match call with
    | .decision decision => some (s, afterOthers decision approval o)
    | _ => none
  | .found _, .write now =>
    match call with
    | .claimApproval _ => updateMany call i s Claimable now (.written now) (.failed (.app .APPROVAL_ALREADY_CLAIMED))
    | .releaseApproval _ _ => write call i s now
    | _ => none
  | .checked, .write now => write call i s now
  | .seen claim, .write _ => updateMany call i s claim.Matches claim.dbNow (.stamped claim) .skipped
  | .stamped claim, .notify => some (s, .notified claim)
  | .notified claim, .commit =>
    some ({ s with approval := s.approval.commit i, alerts := alertOf claim :: s.alerts }, .returned)
  | .written _, .commit => some ({ s with approval := s.approval.commit i }, .returned)
  | phase, .tick d => some ({ s with clock := s.clock + d }, phase)
  | phase, .abandon =>
    if phase.over = true then none else some ({ s with approval := s.approval.rollback i }, abandoned call)
  | _, _ => none

/-- Any row at any time, and no call has begun. -/
def opened (row : Approval) (clock : ℤ) : Pool ι (Store ι) Phase := ⟨⟨⟨row, none⟩, [], clock⟩, fun _ => .start⟩

/-- The stamps and the claims that they are for take turns; `first` is the stamp before the first alert. -/
structure Coherent (first : Option ℤ) (s : Store ι) : Prop where
  stamped : s.approval.committed.lastStaleAlertAt = (s.alerts.head?.map fun alert => alert.claim.dbNow).or first
  turns : s.alerts.Pairwise fun later earlier => earlier.claim.dbNow < later.claim.claimedAt

/-! ### What a step does -/

section
variable {call : Call} {calls : ι → Call} {i j : ι} {s s' : Store ι} {phase phase' : Phase} {a : Act} {row : Approval}
  {claim : StaleClaim} {first : Option ℤ} {clock dbNow now : ℤ}

omit [DecidableEq ι] in
theorem claimStaleDbPhase_eq_some (h : claimStaleDbPhase row dbNow = some claim) :
    claim.Matches row ∧ claim.dbNow = dbNow := by
  unfold claimStaleDbPhase at h
  split at h
  · next claimedById claimedAt hby hat =>
    split_ifs at h with hold
    cases h
    exact ⟨⟨hold.1, hby, hat, rfl⟩, rfl⟩
  · cases h

omit [DecidableEq ι] in
/-- Nothing but a sweep stamps the row. -/
theorem Call.lastStaleAlertAt_update (h : call ≠ .sweep) :
    (call.update now row).lastStaleAlertAt = row.lastStaleAlertAt := by
  cases call with
  | claimApproval adminId => rfl
  | releaseApproval adminId adminRole => rfl
  | decision decision => rfl
  | sweep => exact absurd rfl h

/-- What a transaction has made of the row so far. -/
def pending (call : Call) : Phase → Option (Approval → Approval)
  | .written now => some (call.update now)
  | .stamped claim => some (stamp claim.dbNow)
  | .notified claim => some (stamp claim.dbNow)
  | _ => none

/-- What a transaction relies on. -/
def Known (s : Store ι) (call : Call) : Phase → Prop
  | .found _ => call ≠ .sweep
  | .checked => call ≠ .sweep
  | .written _ => call ≠ .sweep
  | .seen claim => call = .sweep ∧ claim.dbNow ≤ s.clock
  | .stamped claim => claim.dbNow ≤ s.clock ∧ claim.Matches s.approval.committed
  | .notified claim => claim.dbNow ≤ s.clock ∧ claim.Matches s.approval.committed
  | _ => True

/-- Everything that a step may do to what is committed. -/
inductive Effect (s s' : Store ι) : Prop
  | aside (hstamp : s'.approval.committed.lastStaleAlertAt = s.approval.committed.lastStaleAlertAt)
      (halerts : s'.alerts = s.alerts)
  | alerted (claim : StaleClaim) (hclock : claim.dbNow ≤ s.clock) (hmatches : claim.Matches s.approval.committed)
      (hstamp : s'.approval.committed = stamp claim.dbNow s.approval.committed)
      (halerts : s'.alerts = alertOf claim :: s.alerts)

/-- A conditional update holds the row that meets the condition, or changes nothing. -/
theorem updateMany_cases {hit : Approval → Prop} [DecidablePred hit] {won lost : Phase}
    (hheld : s.approval.Holds i none) (h : updateMany call i s hit now won lost = some (s', phase')) :
    (phase' = won ∧ hit s.approval.committed ∧ Cell.Moves i s.approval s'.approval ∧
      s'.approval.committed = s.approval.committed ∧ s'.alerts = s.alerts ∧ s'.clock = s.clock ∧
      s'.approval.Holds i (some (call.update now))) ∨ (phase' = lost ∧ s' = s) := by
  obtain ⟨⟨c, b⟩, hc, he⟩ := Option.map_eq_some_iff.mp h
  cases he
  have hread : s.approval.read i = s.approval.committed := hheld.read
  rcases Cell.updateWhere_cases hc with ⟨hb, hhit, hfree, hcell⟩ | ⟨hb, -, hcell⟩
  · subst hb hcell
    rw [hread] at hhit
    refine .inl ⟨rfl, hhit, .write _ hfree, rfl, rfl, rfl, ?_⟩
    dsimp only
    rw [hread]
    rfl
  · subst hb hcell
    exact .inr ⟨rfl, rfl⟩

/-- An update holds the row, whatever it is. -/
theorem write_ok (hne : call ≠ .sweep) (hheld : s.approval.Holds i none)
    (h : write call i s now = some (s', phase')) :
    Cell.Moves i s.approval s'.approval ∧ s'.approval.Holds i (pending call phase') ∧ Known s' call phase' ∧
      s.clock ≤ s'.clock ∧ Effect s s' := by
  obtain ⟨c, hc, he⟩ := Option.map_eq_some_iff.mp h
  cases he
  obtain ⟨hmoves, hcommitted, hholds⟩ := hheld.write hc
  exact ⟨hmoves, hholds, hne, le_rfl, .aside (congrArg Approval.lastStaleAlertAt hcommitted) rfl⟩

/-- A step reads, writes the row, or commits. -/
theorem next_ok (hheld : s.approval.Holds i (pending call phase)) (hk : Known s call phase)
    (h : next call i s phase a = some (s', phase')) :
    Cell.Moves i s.approval s'.approval ∧ s'.approval.Holds i (pending call phase') ∧ Known s' call phase' ∧
      s.clock ≤ s'.clock ∧ Effect s s' := by
  unfold next at h
  split at h
  · -- A call reads the row.
    have hread : s.approval.read i = s.approval.committed := hheld.read
    cases call with
    | claimApproval adminId =>
      cases h
      exact ⟨.stay, hheld, by simp [Known], le_rfl, .aside rfl rfl⟩
    | releaseApproval adminId adminRole =>
      cases h
      cases checkRelease adminId adminRole (s.approval.read i) with
      | ok approval => exact ⟨.stay, hheld, by simp [Known, found], le_rfl, .aside rfl rfl⟩
      | error e => exact ⟨.stay, hheld, trivial, le_rfl, .aside rfl rfl⟩
    | decision decision =>
      cases h
      cases checkDecision (s.approval.read i) with
      | ok approval => exact ⟨.stay, hheld, by simp [Known, found], le_rfl, .aside rfl rfl⟩
      | error e => exact ⟨.stay, hheld, trivial, le_rfl, .aside rfl rfl⟩
    | sweep =>
      cases h
      cases hscan : claimStaleDbPhase (s.approval.read i) s.clock with
      | none => exact ⟨.stay, hheld, trivial, le_rfl, .aside rfl rfl⟩
      | some claim =>
        obtain ⟨-, hnow⟩ := claimStaleDbPhase_eq_some hscan
        exact ⟨.stay, hheld, ⟨rfl, le_of_eq hnow⟩, le_rfl, .aside rfl rfl⟩
  · rename_i approval o
    cases call with
    | claimApproval _ | releaseApproval _ _ | sweep => cases h
    | decision decision =>
      cases h
      cases o with
      | pass =>
        unfold afterOthers
        dsimp only
        split_ifs
        · exact ⟨.stay, hheld, by simp [Known], le_rfl, .aside rfl rfl⟩
        · exact ⟨.stay, hheld, trivial, le_rfl, .aside rfl rfl⟩
      | alreadyLive =>
        cases decision with
        | approveApproval _ _ | rejectApproval _ _ _ | requestChanges _ _ _ =>
          exact ⟨.stay, hheld, trivial, le_rfl, .aside rfl rfl⟩
      | refuse e => exact ⟨.stay, hheld, trivial, le_rfl, .aside rfl rfl⟩
  · cases call with
    | decision _ | sweep => cases h
    | claimApproval adminId =>
      rcases updateMany_cases hheld h with
        ⟨rfl, -, hmoves, hcommitted, halerts, hclock, hholds⟩ | ⟨rfl, rfl⟩
      · exact ⟨hmoves, hholds, hk, le_of_eq hclock.symm,
          .aside (congrArg Approval.lastStaleAlertAt hcommitted) halerts⟩
      · exact ⟨.stay, hheld, trivial, le_rfl, .aside rfl rfl⟩
    | releaseApproval adminId adminRole => exact write_ok hk hheld h
  · exact write_ok hk hheld h
  · -- The sweep stamps the row that it has read.
    rename_i claim now
    obtain ⟨rfl, hnow⟩ := hk
    rcases updateMany_cases hheld h with ⟨rfl, hhit, hmoves, hcommitted, halerts, hclock, hholds⟩ | ⟨rfl, rfl⟩
    · refine ⟨hmoves, hholds, ⟨hclock ▸ hnow, ?_⟩, le_of_eq hclock.symm,
        .aside (congrArg Approval.lastStaleAlertAt hcommitted) halerts⟩
      rw [hcommitted]
      exact hhit
    · exact ⟨.stay, hheld, trivial, le_rfl, .aside rfl rfl⟩
  · cases h
    exact ⟨.stay, hheld, hk, le_rfl, .aside rfl rfl⟩
  · -- The stamp and the notification are committed.
    rename_i claim
    cases h
    obtain ⟨hmoves, hcommitted, hfree⟩ := hheld.commit
    exact ⟨hmoves, hfree, trivial, le_rfl, .alerted claim hk.1 hk.2 hcommitted rfl⟩
  · rename_i now
    cases h
    obtain ⟨hmoves, hcommitted, hfree⟩ := hheld.commit
    refine ⟨hmoves, hfree, trivial, le_rfl, .aside ?_ rfl⟩
    dsimp only
    rw [hcommitted]
    exact Call.lastStaleAlertAt_update hk
  · rename_i d
    cases h
    have hle : s.clock ≤ s.clock + d := le_add_of_nonneg_right (Int.natCast_nonneg d)
    refine ⟨.stay, hheld, ?_, hle, .aside rfl rfl⟩
    cases phase with
    | seen claim => exact ⟨hk.1, hk.2.trans hle⟩
    | stamped claim | notified claim => exact ⟨hk.1.trans hle, hk.2⟩
    | _ => exact hk
  · split_ifs at h
    cases h
    obtain ⟨hfree, hcommitted⟩ := Cell.free_rollback (c := s.approval) (i := i)
    refine ⟨Cell.moves_rollback, ?_, ?_, le_rfl, .aside (congrArg Approval.lastStaleAlertAt hcommitted) rfl⟩
    · cases call with
      | claimApproval _ | releaseApproval _ _ | decision _ | sweep => exact hfree
    · cases call with
      | claimApproval _ | releaseApproval _ _ | decision _ | sweep => trivial
  · cases h

omit [DecidableEq ι] in
theorem Known.frame (hm : Cell.Moves i s.approval s'.approval) (hclock : s.clock ≤ s'.clock) (hne : i ≠ j)
    (hheld : s.approval.Holds j (pending call phase)) (hk : Known s call phase) : Known s' call phase := by
  cases phase with
  | seen claim => exact ⟨hk.1, hk.2.trans hclock⟩
  | stamped claim | notified claim =>
    have hsame : s'.approval = s.approval := hm.held_of_ne hne hheld
    refine ⟨hk.1.trans hclock, ?_⟩
    rw [hsame]
    exact hk.2
  | _ => exact hk

omit [DecidableEq ι] in
/-- The claim of an alert is later than the stamp before it, and earlier than its own. -/
theorem coherent_effect (h : Effect s s') (hc : Coherent first s) : Coherent first s' := by
  obtain ⟨hstamped, hturns⟩ := hc
  cases h with
  | aside hstamp halerts =>
    constructor
    · rw [hstamp, halerts, hstamped]
    · rw [halerts]
      exact hturns
  | alerted claim hclock hmatches hstamp halerts =>
    constructor
    · rw [hstamp, halerts]
      rfl
    · rw [halerts, List.pairwise_cons]
      refine ⟨fun alert halert => ?_, hturns⟩
      cases hlog : s.alerts with
      | nil =>
        rw [hlog] at halert
        cases halert
      | cons last earlier =>
        have hlast : last.claim.dbNow < claim.claimedAt := by
          apply claim.unalerted
          rw [← hmatches.2.2.2, hstamped, hlog]
          rfl
        rw [hlog] at halert hturns
        rcases List.mem_cons.mp halert with rfl | halert
        · exact hlast
        · have hturn : alert.claim.dbNow < last.claim.claimedAt := (List.pairwise_cons.mp hturns).1 alert halert
          have hold : last.claim.claimedAt < last.claim.dbNow := by
            have := last.claim.old
            unfold CLAIM_STALE_AGE_MS at this
            omega
          exact hturn.trans (hold.trans hlast)

/-! ### Runs -/

/-- What holds of every state of every run. -/
abbrev Inv (first : Option ℤ) (calls : ι → Call) : Pool ι (Store ι) Phase → Prop :=
  PoolInv (Coherent first) fun i s phase => s.approval.Holds i (pending (calls i) phase) ∧ Known s (calls i) phase

theorem inv_step (s : Pool ι (Store ι) Phase) (a : ι × Act) (s' : Pool ι (Store ι) Phase) (hs : Inv first calls s)
    (h : poolStep (fun i => next (calls i) i) s a = some s') : Inv first calls s' := by
  refine poolInv_step (fun i s phase a s' phase' hc hown hn => ?_)
    (fun i j s phase other a s' phase' hne _ hown hother hn => ?_) s a s' hs h
  · obtain ⟨-, hheld, hknown, -, heffect⟩ := next_ok hown.1 hown.2 hn
    exact ⟨coherent_effect heffect hc, hheld, hknown⟩
  · obtain ⟨hmoves, -, -, hclock, -⟩ := next_ok hown.1 hown.2 hn
    exact ⟨hother.1.frame hmoves hne, hother.2.frame hmoves hclock hne hother.1⟩

omit [DecidableEq ι] in
theorem inv_opened : Inv row.lastStaleAlertAt calls (opened row clock) :=
  ⟨⟨rfl, List.Pairwise.nil⟩, fun _ => ⟨Cell.free_of_held_none rfl, trivial⟩⟩

omit [DecidableEq ι] in
theorem keys_nodup (h : Coherent first s) : (s.alerts.map Alert.key).Nodup := by
  refine List.pairwise_map.mpr (h.turns.imp fun {later earlier} hturn heq => ?_)
  have hold := earlier.claim.old
  have hat : later.claim.claimedAt = earlier.claim.claimedAt := congrArg Prod.snd heq
  unfold CLAIM_STALE_AGE_MS at hold
  omega

/-- After every interleaving of claims, releases, decisions and sweeps, no claim has been alerted twice, and the row
    has the stamp of the last alert. Every alert was committed with its stamp, by a step that has found the claim
    still held, and more than 24 hours old. -/
theorem one_alert_per_claim {as : List (ι × Act)} {s : Pool ι (Store ι) Phase}
    (h : run (poolStep fun i => next (calls i) i) (opened row clock) as = some s) :
    (s.store.alerts.map Alert.key).Nodup ∧
    s.store.approval.committed.lastStaleAlertAt =
      (s.store.alerts.head?.map fun alert => alert.claim.dbNow).or row.lastStaleAlertAt ∧
    ∀ a t, poolStep (fun i => next (calls i) i) s a = some t → t.store.alerts ≠ s.store.alerts →
      ∃ claim : StaleClaim, t.store.alerts = alertOf claim :: s.store.alerts ∧
        t.store.approval.committed.lastStaleAlertAt = some claim.dbNow ∧
        s.store.approval.committed.status = .PENDING ∧
        s.store.approval.committed.claimedById = some claim.claimedById ∧
        s.store.approval.committed.claimedAt = some claim.claimedAt ∧
        claim.claimedAt + CLAIM_STALE_AGE_MS < s.store.clock := by
  have hinv : Inv row.lastStaleAlertAt calls s := run_invariant inv_step inv_opened h
  refine ⟨keys_nodup hinv.1, hinv.1.stamped, fun a t ht hne => ?_⟩
  obtain ⟨store, phase, hn, rfl⟩ := poolStep_eq_some.mp ht
  obtain ⟨-, -, -, -, heffect⟩ := next_ok (hinv.2 a.1).1 (hinv.2 a.1).2 hn
  cases heffect with
  | aside hstamp halerts => exact absurd halerts hne
  | alerted claim hclock hmatches hstamp halerts =>
    refine ⟨claim, halerts, ?_, hmatches.1, hmatches.2.1, hmatches.2.2.1, ?_⟩
    · dsimp only
      rw [hstamp]
      rfl
    · have := claim.old
      omega

end

/-! ### Two sweeps, and a claim made anew -/

def submitted : Approval where
  id := 1
  type := .MERCHANT_ONBOARDING
  referenceId := 2
  referenceType := "merchant"
  status := .PENDING
  comment := none
  adminUserId := none
  actionedAt := none
  claimedById := none
  claimedAt := none
  lastStaleAlertAt := none

def claimTwice : ℕ → Call
  | 0 => .claimApproval 7
  | 3 => .releaseApproval 7 .OPERATIONS
  | 4 => .claimApproval 7
  | _ => .sweep

/-- Both sweeps have read the row when the first one stamps it; the third comes a day after the second claim. -/
def overlappingSweeps : List (ℕ × Act) :=
  [(0, .read), (0, .write 1000), (0, .commit), (0, .tick 90000000), (1, .read), (2, .read), (1, .write 0),
    (1, .notify), (1, .commit), (2, .write 0), (3, .read), (3, .write 0), (3, .commit), (4, .read),
    (4, .write 90000001), (4, .commit), (4, .tick 90000000), (5, .read), (5, .write 0), (5, .notify), (5, .commit)]

theorem one_alert_per_claim_overlapping :
    ∃ s, run (poolStep fun i => next (claimTwice i) i) (opened submitted 0) overlappingSweeps = some s ∧
      s.store.alerts.map Alert.key = [(7, 90000001), (7, 1000)] ∧ (s.store.alerts.map Alert.key).Nodup := by
  have hends : ∃ s, run (poolStep fun i => next (claimTwice i) i) (opened submitted 0) overlappingSweeps = some s ∧
      s.store.alerts.map Alert.key = [(7, 90000001), (7, 1000)] := ⟨_, rfl, rfl⟩
  obtain ⟨s, hrun, hkeys⟩ := hends
  exact ⟨s, hrun, hkeys, (one_alert_per_claim hrun).1⟩

end Redeemo.ClaimStale
