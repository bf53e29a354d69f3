import Mathlib.Data.Int.Notation
import Redeemo.Lib.ReadCommitted
import Redeemo.Lib.Runs

/-! The outbox: the rows of `CommunicationLog`, and those who write them.

    A notification commits a row, a job sends what the row holds and closes it, a job that has failed for good closes
    it too, and the reconciler closes the rows that are too old. Every one of them closes a row by one update that
    asks for the status QUEUED. -/

namespace Redeemo.Outbox
open ReadCommitted Runs

inductive CommunicationStatus
  | QUEUED
  | SENT
  | FAILED
  | BOUNCED
  deriving DecidableEq

inductive Sender
  | default
  | merchant
  deriving DecidableEq

structure EmailJobPayload where
  recipient : String
  subject : String
  html : String
  text : Option String
  sender : Option Sender
  replyTo : Option String
  deriving DecidableEq

structure CommunicationLog where
  status : CommunicationStatus
  payload : Option EmailJobPayload
  externalId : Option String
  sentAt : ℤ
  deriving DecidableEq

/-! ### Sending -/

structure EmailEnv where
  EMAIL_ENABLED : Bool
  EMAIL_SANDBOX : Bool
  EMAIL_SANDBOX_ALLOWLIST : List String
  RESEND_FROM_EMAIL : Option String
  RESEND_MERCHANT_FROM : Option String
  RESEND_REPLY_TO : Option String

def DF_FROM : String := "Redeemo <noreply@redeemo.co.uk>"
def DF_MERCHANT_FROM : String := "Redeemo Merchants <merchants@redeemo.co.uk>"
def DF_REPLY_TO : String := "support@redeemo.co.uk"

/-- What the provider is asked to send. -/
structure Request where
  sender : String
  recipients : List String
  replyTo : String
  subject : String
  html : String
  text : Option String
  idempotencyKey : Option String
  deriving DecidableEq

/-- The empty string counts as absent. -/
def given (s : Option String) : Option String := s.filter (· ≠ "")

def resolveFrom (env : EmailEnv) : Option Sender → String
  | some .merchant => (given env.RESEND_MERCHANT_FROM).getD DF_MERCHANT_FROM
  | _ => (given env.RESEND_FROM_EMAIL).getD DF_FROM

/-- The request of `sendEmail`; none where the sending is skipped. -/
def sendEmail (env : EmailEnv) (payload : EmailJobPayload) (idempotencyKey : String) : Option Request :=
  if env.EMAIL_ENABLED = false ∨ env.EMAIL_SANDBOX = true ∧ env.EMAIL_SANDBOX_ALLOWLIST = [] then none
  else some {
    sender := resolveFrom env payload.sender
    recipients := if env.EMAIL_SANDBOX = true then env.EMAIL_SANDBOX_ALLOWLIST else [payload.recipient]
    replyTo := payload.replyTo.getD (env.RESEND_REPLY_TO.getD DF_REPLY_TO)
    subject := payload.subject
    html := payload.html
    text := given payload.text
    idempotencyKey := given (some idempotencyKey) }

/-- What comes back from the provider. -/
inductive Reply
  | accepted (externalId : Option String)
  /-- It reports an error, or nothing comes back. -/
  | failed
  deriving DecidableEq

/-! ### Rows -/

/-- The data of a terminal write. -/
inductive Terminal
  | SENT (externalId : String)
  | FAILED
  deriving DecidableEq

def Queued (r : Option CommunicationLog) : Prop := ∃ row ∈ r, row.status = .QUEUED

instance : DecidablePred Queued := fun _ => inferInstanceAs (Decidable (∃ _ ∈ _, _))

def Terminal.write (now : ℤ) (r : CommunicationLog) : Terminal → CommunicationLog
  | .SENT externalId =>
    { r with
      status := .SENT
      payload := none
      externalId := if externalId = "" then r.externalId else some externalId
      sentAt := if externalId = "" then r.sentAt else now }
  | .FAILED => { r with status := .FAILED, payload := none }

def RECONCILE_GRACE_MS : ℤ := 120000
def RECONCILE_MAX_AGE_MS : ℤ := 24 * 60 * 60 * 1000
def RECONCILE_BATCH : ℕ := 200

def Expires (dbNow : ℤ) (r : Option CommunicationLog) : Prop :=
  ∃ row ∈ r, row.status = .QUEUED ∧ row.sentAt < dbNow - RECONCILE_MAX_AGE_MS

instance (dbNow : ℤ) : DecidablePred (Expires dbNow) := fun _ => inferInstanceAs (Decidable (∃ _ ∈ _, _ ∧ _))

/-- Old enough to be enqueued again, and not too old. -/
def Stale (dbNow : ℤ) (r : Option CommunicationLog) : Prop :=
  ∃ row ∈ r, row.status = .QUEUED ∧ dbNow - RECONCILE_MAX_AGE_MS ≤ row.sentAt ∧
    row.sentAt < dbNow - RECONCILE_GRACE_MS

instance (dbNow : ℤ) : DecidablePred (Stale dbNow) := fun _ => inferInstanceAs (Decidable (∃ _ ∈ _, _ ∧ _))

def expire (r : CommunicationLog) : CommunicationLog := { r with status := .FAILED, payload := none }

/-- The row of a new notification. -/
def queuedRow (payload : EmailJobPayload) (now : ℤ) : CommunicationLog := ⟨.QUEUED, some payload, none, now⟩

/-! ### Calls -/

inductive Call
  | notify (email : EmailJobPayload)
  | processEmailJob (communicationLogId : String)
  | onEmailJobFailed (communicationLogId : String) (attemptsMade maxAttempts : ℕ)
  | reconcile

inductive Event (ι : Type*)
  /-- A job has read a row. -/
  | read (i : ι) (id : String) (status : CommunicationStatus)
  /-- A job has asked the provider. -/
  | asked (i : ι) (id : String) (request : Request) (reply : Reply)

structure Store (ι : Type*) where
  logs : Table ι String CommunicationLog
  /-- The last event first. -/
  history : List (Event ι)

inductive Phase
  | start
  /-- The row of a notification is committed. -/
  | created (id : String)
  /-- A job has read a row that is QUEUED. -/
  | loaded (payload : EmailJobPayload)
  /-- A row is to be closed. -/
  | closing (data : Terminal)
  | scanning (dbNow : ℤ)
  /-- The rows to enqueue again. -/
  | selected (ids : List String)
  | over
  deriving DecidableEq

inductive Act
  /-- The transaction of a notification, with the id that it draws. -/
  | create (id : String) (now : ℤ)
  | enqueue
  | read
  | send (env : EmailEnv) (reply : Reply)
  | write (now : ℤ)
  | scan (dbNow : ℤ)
  /-- The update of the reconciler comes to a row. -/
  | expire (id : String)
  | select (ids : List String)
  | reenqueue
  /-- A crash, a failed statement, or a call that is refused. -/
  | abandon

variable {ι : Type*} [DecidableEq ι]

/-- An update of one row under a condition, committed by itself. -/
def updateMany (t : Table ι String CommunicationLog) (i : ι) (id : String) (data : Terminal) (now : ℤ) :
    Option (Table ι String CommunicationLog) :=
  ((t.cell id).updateWhere i Queued (Option.map fun r => data.write now r)).map fun r =>
    ⟨Function.update t.cell id (r.1.commit i)⟩

/-- What a job does with the row that it has read. -/
def afterRead : Option CommunicationLog → Phase
  | none => .over
  | some row =>
    if row.status ≠ .QUEUED then .over
    else
      match row.payload with
      | none => .closing .FAILED
      | some payload => if payload.recipient = "" ∨ payload.html = "" then .closing .FAILED else .loaded payload

def next (call : Call) (i : ι) (s : Store ι) : Phase → Act → Option (Store ι × Phase)
  | .start, .create id now =>
    match call with
    | .notify email =>
      if id ≠ "" ∧ (s.logs.cell id).committed = none ∧ (s.logs.cell id).held.isNone = true then
        some ({ s with logs := s.logs.insert id (queuedRow email now) }, .created id)
      else none
    | _ => none
  | .created _, .enqueue => some (s, .over)
  | .start, .read =>
    match call with
    | .processEmailJob id =>
      some ({ s with history := ((s.logs.read i id).map fun row => Event.read i id row.status).toList ++ s.history },
        afterRead (s.logs.read i id))
    | .onEmailJobFailed _ attemptsMade maxAttempts =>
      some (s, if attemptsMade < maxAttempts then .over else .closing .FAILED)
    | _ => none
  | .loaded payload, .send env reply =>
    match call with
    | .processEmailJob id =>
      match sendEmail env payload id with
      | none => some (s, .closing .FAILED)
      | some request =>
        some ({ s with history := .asked i id request reply :: s.history },
          match reply with
          | .accepted externalId => .closing (.SENT (externalId.getD ""))
          | .failed => .over)
    | _ => none
  | .closing data, .write now =>
    match call with
    | .processEmailJob id | .onEmailJobFailed id _ _ =>
      (updateMany s.logs i id data now).map fun logs => ({ s with logs := logs }, .over)
    | _ => none
  | .start, .scan dbNow =>
    match call with
    | .reconcile => some (s, .scanning dbNow)
    | _ => none
  | .scanning dbNow, .expire id =>
    match call with
    | .reconcile =>
      ((s.logs.cell id).updateWhere i (Expires dbNow) (Option.map expire)).map fun r =>
        ({ s with logs := ⟨Function.update s.logs.cell id r.1⟩ }, .scanning dbNow)
    | _ => none
  | .scanning dbNow, .select ids =>
    if ids.length ≤ RECONCILE_BATCH ∧ ids.Nodup ∧ ∀ id ∈ ids, Stale dbNow (s.logs.read i id) then
      some ({ s with logs := s.logs.commit i }, .selected ids)
    else none
  | .selected (_ :: ids), .reenqueue => some (s, .selected ids)
  | .over, .abandon => none
  | _, .abandon => some ({ s with logs := s.logs.rollback i }, .over)
  | _, _ => none

def step (calls : ι → Call) : Pool ι (Store ι) Phase → ι × Act → Option (Pool ι (Store ι) Phase) :=
  poolStep fun i => next (calls i) i

/-- No row, and no call has begun. -/
def opened : Pool ι (Store ι) Phase := ⟨⟨⟨fun _ => ⟨none, none⟩⟩, []⟩, fun _ => .start⟩


/-! ### What a step does to a row -/

/-- The provider has accepted what it was asked to send for the row. -/
def Accepted (history : List (Event ι)) (id : String) : Prop :=
  ∃ i request externalId, Event.asked i id request (.accepted externalId) ∈ history

/-- What may become of the row of an id in one step, where `expires` says who may let it expire and `closes` which
    terminal writes may come. -/
inductive RowStep (expires : ι → Prop) (closes : Terminal → Prop) (id : String)
    (c : Cell ι (Option CommunicationLog)) : Cell ι (Option CommunicationLog) → Prop
  | stay : RowStep expires closes id c c
  | create (payload : EmailJobPayload) (now : ℤ) (hid : id ≠ "") (hc : c = ⟨none, none⟩) :
    RowStep expires closes id c ⟨some (queuedRow payload now), none⟩
  | close (data : Terminal) (now : ℤ) (row : CommunicationLog) (hc : c = ⟨some row, none⟩)
      (hq : row.status = .QUEUED) (hd : closes data) : RowStep expires closes id c ⟨some (data.write now row), none⟩
  | hold (i : ι) (row : CommunicationLog) (hi : expires i) (hc : c = ⟨some row, none⟩) (hq : row.status = .QUEUED) :
    RowStep expires closes id c ⟨some row, some (i, some (expire row))⟩
  | commit (i : ι) (row : CommunicationLog) (hc : c = ⟨some row, some (i, some (expire row))⟩) :
    RowStep expires closes id c ⟨some (expire row), none⟩
  | rollback (i : ι) (row : CommunicationLog) (hc : c = ⟨some row, some (i, some (expire row))⟩) :
    RowStep expires closes id c ⟨some row, none⟩

/-- The payload is there exactly while the row is QUEUED; a row that is held is a QUEUED one about to expire. -/
inductive RowInv (expires : ι → Prop) (id : String) : Cell ι (Option CommunicationLog) → Prop
  | absent : RowInv expires id ⟨none, none⟩
  | row (row : CommunicationLog) (hid : id ≠ "") (hp : row.payload.isSome = true ↔ row.status = .QUEUED)
      (hs : row.status ≠ .BOUNCED) : RowInv expires id ⟨some row, none⟩
  | held (i : ι) (row : CommunicationLog) (hi : expires i) (hid : id ≠ "") (hp : row.payload.isSome = true)
      (hq : row.status = .QUEUED) : RowInv expires id ⟨some row, some (i, some (expire row))⟩

variable {expires : ι → Prop} {closes : Terminal → Prop} {id : String}
  {c c' : Cell ι (Option CommunicationLog)} {i : ι} {row : CommunicationLog} {data : Terminal} {now : ℤ}

theorem write_status (data : Terminal) (now : ℤ) (row : CommunicationLog) :
    (data.write now row).payload = none ∧ (data.write now row).status ≠ .QUEUED ∧
      (data.write now row).status ≠ .BOUNCED := by
  cases data <;> simp [Terminal.write]

omit [DecidableEq ι] in
theorem RowStep.inv (h : RowStep expires closes id c c') (hc : RowInv expires id c) : RowInv expires id c' := by
  cases h with
  | stay => exact hc
  | create payload now hid => exact .row _ hid (by simp [queuedRow]) (by simp [queuedRow])
  | close data now row he =>
    subst he
    obtain ⟨hpayload, hq, hb⟩ := write_status data now row
    cases hc with
    | row _ hid => exact .row _ hid (by simp [hpayload, hq]) hb
  | hold i row hi he hq =>
    subst he
    cases hc with
    | row _ hid hp => exact .held i row hi hid (hp.mpr hq) hq
  | commit i row he =>
    subst he
    cases hc with
    | held _ _ _ hid => exact .row _ hid (by simp [expire]) (by simp [expire])
  | rollback i row he =>
    subst he
    cases hc with
    | held _ _ _ hid hp hq => exact .row row hid (iff_of_true hp hq) (by simp [hq])

/-- What a step makes of the committed row. -/
inductive Advance (closes : Terminal → Prop) : Option CommunicationLog → Option CommunicationLog → Prop
  | same (r : Option CommunicationLog) : Advance closes r r
  | create (payload : EmailJobPayload) (now : ℤ) : Advance closes none (some (queuedRow payload now))
  | close (data : Terminal) (now : ℤ) (row : CommunicationLog) (hq : row.status = .QUEUED) (hd : closes data) :
    Advance closes (some row) (some (data.write now row))
  | expire (row : CommunicationLog) (hq : row.status = .QUEUED) : Advance closes (some row) (some (expire row))

omit [DecidableEq ι] in
theorem RowStep.advance (h : RowStep expires closes id c c') (hc : RowInv expires id c) :
    Advance closes c.committed c'.committed := by
  cases h with
  | stay => exact .same _
  | create payload now _ he =>
    subst he
    exact .create payload now
  | close data now row he hq hd =>
    subst he
    exact .close data now row hq hd
  | hold i row _ he =>
    subst he
    exact .same _
  | commit i row he =>
    subst he
    cases hc with
    | held _ _ _ _ _ hq => exact .expire row hq
  | rollback i row he =>
    subst he
    exact .same _

/-! ### Steps of a call -/

theorem rowStep_commit (hc : RowInv expires id c) : RowStep expires closes id c (c.commit i) := by
  by_cases hf : c.Free i
  · rw [Cell.commit_of_free hf]
    exact .stay
  · simp only [Cell.Free, not_forall, not_not] at hf
    obtain ⟨w, hw⟩ := hf
    rw [Cell.commit_of_held hw]
    cases hc with
    | absent => cases hw
    | row => cases hw
    | held j row =>
      cases hw
      exact .commit i row rfl

theorem rowStep_rollback (hc : RowInv expires id c) : RowStep expires closes id c (c.rollback i) := by
  by_cases hf : c.Free i
  · rw [Cell.rollback_of_free hf]
    exact .stay
  · simp only [Cell.Free, not_forall, not_not] at hf
    obtain ⟨w, hw⟩ := hf
    rw [Cell.rollback_of_held hw]
    cases hc with
    | absent => cases hw
    | row => cases hw
    | held j row =>
      cases hw
      exact .rollback i row rfl

/-- An update that asks for a QUEUED row finds one that nobody holds. -/
theorem hit_cases {hit : Option CommunicationLog → Prop} [DecidablePred hit]
    {f : Option CommunicationLog → Option CommunicationLog} {b : Bool} (hhit : ∀ r, hit r → Queued r)
    (hc : RowInv expires id c) (h : c.updateWhere i hit f = some (c', b)) :
    c' = c ∨ ∃ row, c = ⟨some row, none⟩ ∧ row.status = .QUEUED ∧ c' = ⟨some row, some (i, f (some row))⟩ := by
  obtain ⟨-, hh, hheld, rfl⟩ | ⟨-, -, rfl⟩ := Cell.updateWhere_cases h
  · obtain ⟨row, hrow, hq⟩ := hhit _ hh
    cases hc with
    | absent => cases hrow
    | row r =>
      cases hrow
      exact .inr ⟨row, rfl, hq, rfl⟩
    | held j r =>
      have hj : j = i := hheld j _ rfl
      subst hj
      rw [Cell.read_of_held rfl] at hrow
      cases hrow
      cases hq
  · exact .inl rfl

/-- The rows under a terminal write. -/
theorem rowStep_updateMany {t t' : Table ι String CommunicationLog} {key : String}
    (ht : ∀ id, RowInv expires id (t.cell id)) (hd : closes data) (h : updateMany t i key data now = some t')
    (id : String) : RowStep expires closes id (t.cell id) (t'.cell id) := by
  obtain ⟨⟨d, b⟩, hd', rfl⟩ := Option.map_eq_some_iff.mp h
  dsimp only
  rcases eq_or_ne id key with rfl | hne
  · rw [Function.update_self]
    obtain rfl | ⟨row, he, hq, rfl⟩ := hit_cases (fun _ hr => hr) (ht id) hd'
    · exact rowStep_commit (ht id)
    · rw [Cell.commit_of_held rfl]
      exact .close data now row he hq hd
  · rw [Function.update_of_ne hne]
    exact .stay

theorem expires_queued {dbNow : ℤ} {r : Option CommunicationLog} (h : Expires dbNow r) : Queued r := by
  obtain ⟨row, hr, hq, -⟩ := h
  exact ⟨row, hr, hq⟩

/-- The row that a call closes. -/
def Call.key : Call → Option String
  | .processEmailJob id | .onEmailJobFailed id _ _ => some id
  | _ => none

/-- Phases of which nothing has to be known. -/
def Phase.Plain : Phase → Prop
  | .loaded _ | .closing (.SENT _) => False
  | _ => True

def afterReply : Reply → Phase
  | .accepted externalId => .closing (.SENT (externalId.getD ""))
  | .failed => .over

/-- The steps of a call, by what they do to the store. -/
inductive Moved (call : Call) (i : ι) (s : Store ι) : Phase → Store ι → Phase → Prop
  | create (p : Phase) (email : EmailJobPayload) (key : String) (now : ℤ) (hid : key ≠ "")
      (hc : s.logs.cell key = ⟨none, none⟩) :
    Moved call i s p { s with logs := s.logs.insert key (queuedRow email now) } (.created key)
  | read (p : Phase) (key : String) (hcall : call.key = some key) :
    Moved call i s p
      { s with history := ((s.logs.read i key).map fun row => Event.read i key row.status).toList ++ s.history }
      (afterRead (s.logs.read i key))
  | ask (payload : EmailJobPayload) (key : String) (hcall : call.key = some key) (env : EmailEnv)
      (request : Request) (hr : sendEmail env payload key = some request) (reply : Reply) :
    Moved call i s (.loaded payload) { s with history := .asked i key request reply :: s.history } (afterReply reply)
  | close (key : String) (hcall : call.key = some key) (data : Terminal) (now : ℤ)
      (logs : Table ι String CommunicationLog) (hw : updateMany s.logs i key data now = some logs) :
    Moved call i s (.closing data) { s with logs := logs } .over
  | expire (p : Phase) (hcall : call = .reconcile) (dbNow : ℤ) (key : String)
      (r : Cell ι (Option CommunicationLog) × Bool)
      (hw : (s.logs.cell key).updateWhere i (Expires dbNow) (Option.map Outbox.expire) = some r) :
    Moved call i s p { s with logs := ⟨Function.update s.logs.cell key r.1⟩ } (.scanning dbNow)
  | commit (p : Phase) (ids : List String) : Moved call i s p { s with logs := s.logs.commit i } (.selected ids)
  | rollback (p : Phase) : Moved call i s p { s with logs := s.logs.rollback i } .over
  | stay (p p' : Phase) (hp : p'.Plain) : Moved call i s p s p'

variable {call : Call} {s s' : Store ι} {p p' : Phase} {a : Act}

theorem moved_of_next (h : next call i s p a = some (s', p')) : Moved call i s p s' p' := by
  revert h
  fun_cases next with
  | case1 key now email hg =>
    rintro ⟨⟩
    obtain ⟨hid, hcommitted, hheld⟩ := hg
    refine .create _ email key now hid ?_
    rw [Option.isNone_iff_eq_none] at hheld
    rw [← hcommitted, ← hheld]
  | case4 key =>
    rintro ⟨⟩
    exact .stay _ _ trivial
  | case5 key =>
    rintro ⟨⟩
    exact .read _ key rfl
  | case6 key attemptsMade maxAttempts =>
    rintro ⟨⟩
    refine .stay _ _ ?_
    split_ifs <;> trivial
  | case8 payload env reply key =>
    rintro ⟨⟩
    exact .stay _ _ trivial
  | case9 payload env reply key request hr =>
    rintro ⟨⟩
    exact .ask payload key rfl env request hr reply
  | case11 data now key =>
    intro h
    obtain ⟨logs, hw, ⟨⟩⟩ := Option.map_eq_some_iff.mp h
    exact .close key rfl data now logs hw
  | case12 data now key attemptsMade maxAttempts =>
    intro h
    obtain ⟨logs, hw, ⟨⟩⟩ := Option.map_eq_some_iff.mp h
    exact .close key rfl data now logs hw
  | case14 dbNow =>
    rintro ⟨⟩
    exact .stay _ _ trivial
  | case16 =>
    intro h
    obtain ⟨r, hw, ⟨⟩⟩ := Option.map_eq_some_iff.mp h
    exact .expire _ rfl _ _ r hw
  | case18 =>
    rintro ⟨⟩
    exact .commit _ _
  | case20 head ids =>
    rintro ⟨⟩
    exact .stay _ _ trivial
  | case22 =>
    rintro ⟨⟩
    exact .rollback _
  | _ =>
    rintro ⟨⟩

/-! ### The outbox over a whole run -/

/-- What a call knows at a phase: it has read its row QUEUED, or the provider has accepted what it asked. -/
def Assertion (call : Call) (i : ι) (s : Store ι) : Phase → Prop
  | .loaded _ => ∀ key, call.key = some key → key ≠ "" ∧ .read i key .QUEUED ∈ s.history
  | .closing (.SENT _) => ∀ key, call.key = some key → Accepted s.history key
  | _ => True

structure Inv (expires : ι → Prop) (s : Store ι) : Prop where
  rows : ∀ id, RowInv expires id (s.logs.cell id)
  sent : ∀ id row, s.logs.rows id = some row → row.status = .SENT → Accepted s.history id
  asked : ∀ later i id request reply earlier, s.history = later ++ .asked i id request reply :: earlier →
    request.idempotencyKey = some id ∧ .read i id .QUEUED ∈ earlier

/-- A terminal write SENT comes after an accepted send. -/
def Closes (history : List (Event ι)) (id : String) (data : Terminal) : Prop :=
  ∀ externalId, data = .SENT externalId → Accepted history id

variable {past : List (Event ι)}

omit [DecidableEq ι] in
theorem Accepted.append (h : Accepted past id) (es : List (Event ι)) : Accepted (es ++ past) id := by
  obtain ⟨i, request, externalId, hmem⟩ := h
  exact ⟨i, request, externalId, List.mem_append_right _ hmem⟩

theorem Moved.history (h : Moved call i s p s' p') : ∃ es, s'.history = es ++ s.history := by
  cases h with
  | read => exact ⟨_, rfl⟩
  | ask _ key _ _ request _ reply => exact ⟨[.asked i key request reply], rfl⟩
  | _ => exact ⟨[], rfl⟩

theorem Moved.rows (h : Moved call i s p s' p') (hs : Inv expires s) (hi : call = .reconcile → expires i)
    (hp : Assertion call i s p) (id : String) :
    RowStep expires (Closes s.history id) id (s.logs.cell id) (s'.logs.cell id) := by
  cases h with
  | create _ email key now hid hc =>
    dsimp only
    rcases eq_or_ne id key with rfl | hne
    · rw [Table.cell_insert_self]
      exact .create email now hid hc
    · rw [Table.cell_insert_of_ne hne]
      exact .stay
  | close key hcall data now logs hw =>
    rcases eq_or_ne id key with rfl | hne
    · refine rowStep_updateMany hs.rows (fun externalId hd => ?_) hw id
      subst hd
      exact hp id hcall
    · obtain ⟨d, -, rfl⟩ := Option.map_eq_some_iff.mp hw
      dsimp only
      rw [Function.update_of_ne hne]
      exact .stay
  | expire _ hcall dbNow key r hw =>
    dsimp only
    rcases eq_or_ne id key with rfl | hne
    · rw [Function.update_self]
      obtain he | ⟨row, he, hq, he'⟩ := hit_cases (fun _ => expires_queued) (hs.rows id) hw
      · rw [he]
        exact .stay
      · rw [he']
        exact .hold i row (hi hcall) he hq
    · rw [Function.update_of_ne hne]
      exact .stay
  | commit => exact rowStep_commit (hs.rows id)
  | rollback => exact rowStep_rollback (hs.rows id)
  | _ => exact .stay

omit [DecidableEq ι] in
/-- A row that becomes SENT has been sent. -/
theorem Advance.sent {r r' : Option CommunicationLog} (h : Advance (Closes past id) r r')
    (hr : ∀ row, r = some row → row.status = .SENT → Accepted past id) (hr' : r' = some row)
    (hs : row.status = .SENT) : Accepted past id := by
  cases h with
  | same => exact hr row hr' hs
  | create payload now =>
    cases hr'
    cases hs
  | close data now row hq hd =>
    cases hr'
    cases data with
    | SENT externalId => exact hd externalId rfl
    | FAILED => cases hs
  | expire row =>
    cases hr'
    cases hs

omit [DecidableEq ι] in
theorem RowInv.ne_empty (h : RowInv expires id c) (hc : c ≠ ⟨none, none⟩) : id ≠ "" := by
  cases h with
  | absent => exact absurd rfl hc
  | row _ hid => exact hid
  | held _ _ _ hid => exact hid

theorem read_ne_empty (h : RowInv expires id c) (hr : c.read i = some row) : id ≠ "" := by
  refine h.ne_empty fun hc => ?_
  subst hc
  cases hr

/-- What the call knows of the row that it has just read. -/
theorem afterRead_cases (r : Option CommunicationLog) :
    (afterRead r).Plain ∨ ∃ row payload, r = some row ∧ row.status = .QUEUED ∧ afterRead r = .loaded payload := by
  fun_cases afterRead with
  | case5 row hq payload =>
    exact .inr ⟨row, payload, rfl, not_not.mp hq, rfl⟩
  | _ => exact .inl trivial

omit [DecidableEq ι] in
theorem assertion_of_plain (hp : p.Plain) : Assertion call i s p := by
  cases p with
  | loaded => exact hp.elim
  | closing data =>
    cases data with
    | SENT => exact hp.elim
    | FAILED => trivial
  | _ => trivial

theorem sendEmail_key {env : EmailEnv} {payload : EmailJobPayload} {key : String} {request : Request}
    (hkey : key ≠ "") (h : sendEmail env payload key = some request) : request.idempotencyKey = some key := by
  rw [sendEmail] at h
  split_ifs at h <;> cases h <;> simp [given, hkey]

omit [DecidableEq ι] in
/-- The last event, or one that is older. -/
theorem asked_of_cons {e : Event ι} {later earlier : List (Event ι)} {j : ι} {request : Request} {reply : Reply}
    (hpast : ∀ later i id request reply earlier, past = later ++ .asked i id request reply :: earlier →
      request.idempotencyKey = some id ∧ Event.read i id .QUEUED ∈ earlier)
    (he : e = .asked j id request reply → request.idempotencyKey = some id ∧ .read j id .QUEUED ∈ past)
    (h : e :: past = later ++ .asked j id request reply :: earlier) :
    request.idempotencyKey = some id ∧ .read j id .QUEUED ∈ earlier := by
  obtain ⟨-, h⟩ | ⟨older, -, h⟩ := List.cons_eq_append_iff.mp h
  · cases h
    exact he rfl
  · exact hpast older j id request reply earlier h

omit [DecidableEq ι] in
theorem RowInv.payload_iff (h : RowInv expires id c) (hr : c.committed = some row) :
    (row.payload.isSome = true ↔ row.status = .QUEUED) ∧
      (row.status = .QUEUED ∨ row.status = .SENT ∨ row.status = .FAILED) := by
  cases h with
  | absent => cases hr
  | row r _ hp hb =>
    cases hr
    refine ⟨hp, ?_⟩
    cases hst : row.status with
    | BOUNCED => exact absurd hst hb
    | _ => simp
  | held j r _ _ hp hq =>
    cases hr
    exact ⟨iff_of_true hp hq, .inl hq⟩

variable {calls : ι → Call}

theorem own (i : ι) (s : Store ι) (p : Phase) (a : Act) (s' : Store ι) (p' : Phase)
    (hs : Inv (fun j => calls j = .reconcile) s) (hp : Assertion (calls i) i s p)
    (h : next (calls i) i s p a = some (s', p')) :
    Inv (fun j => calls j = .reconcile) s' ∧ Assertion (calls i) i s' p' := by
  have hmoved := moved_of_next h
  have hrows := hmoved.rows hs (fun hcall => hcall) hp
  obtain ⟨es, hes⟩ := hmoved.history
  have hinv : ∀ id, RowInv (fun j => calls j = .reconcile) id (s'.logs.cell id) :=
    fun id => (hrows id).inv (hs.rows id)
  have hsent : ∀ id row, s'.logs.rows id = some row → row.status = .SENT → Accepted s'.history id := by
    intro id row hr hst
    rw [hes]
    exact (((hrows id).advance (hs.rows id)).sent (hs.sent id) hr hst).append es
  cases hmoved with
  | read _ key hcall =>
    refine ⟨⟨hinv, hsent, fun later j id request reply earlier he => ?_⟩, ?_⟩
    · cases hr : s.logs.read i key with
      | none =>
        simp only [hr] at he
        exact hs.asked later j id request reply earlier he
      | some row =>
        simp only [hr, Option.map_some, Option.toList_some, List.singleton_append] at he
        exact asked_of_cons hs.asked (fun he' => by cases he') he
    · obtain hplain | ⟨row, payload, hr, hq, he⟩ := afterRead_cases (s.logs.read i key)
      · exact assertion_of_plain hplain
      · rw [he]
        intro key' hcall'
        cases hcall.symm.trans hcall'
        refine ⟨read_ne_empty (hs.rows key) hr, ?_⟩
        simp [hr, hq]
  | ask payload key hcall env request hr reply =>
    obtain ⟨hkey, hread⟩ := hp key hcall
    refine ⟨⟨hinv, hsent, fun later j id request reply earlier he => ?_⟩, ?_⟩
    · refine asked_of_cons hs.asked (fun he' => ?_) he
      cases he'
      exact ⟨sendEmail_key hkey hr, hread⟩
    · cases reply with
      | accepted externalId =>
        intro key' hcall'
        cases hcall.symm.trans hcall'
        exact ⟨i, request, externalId, List.mem_cons_self ..⟩
      | failed => trivial
  | _ => exact ⟨⟨hinv, hsent, hs.asked⟩, assertion_of_plain (by trivial)⟩

/-- What a call knows, no other call makes untrue. -/
theorem frame (i j : ι) (s : Store ι) (p q : Phase) (a : Act) (s' : Store ι) (p' : Phase) (_ : i ≠ j)
    (_ : Inv (fun j => calls j = .reconcile) s) (_ : Assertion (calls i) i s p) (hq : Assertion (calls j) j s q)
    (h : next (calls i) i s p a = some (s', p')) : Assertion (calls j) j s' q := by
  obtain ⟨es, hes⟩ := (moved_of_next h).history
  cases q with
  | loaded payload =>
    intro key hkey
    rw [hes]
    exact ⟨(hq key hkey).1, List.mem_append_right _ (hq key hkey).2⟩
  | closing data =>
    cases data with
    | SENT externalId =>
      intro key hkey
      rw [hes]
      exact (hq key hkey).append es
    | FAILED => trivial
  | _ => trivial

/-- The invariant of the whole outbox. -/
def Sound (calls : ι → Call) : Pool ι (Store ι) Phase → Prop :=
  PoolInv (Inv fun i => calls i = .reconcile) fun i => Assertion (calls i) i

omit [DecidableEq ι] in
theorem sound_opened : Sound calls opened := by
  refine ⟨⟨fun _ => .absent, ?_, ?_⟩, fun _ => trivial⟩
  · intro id row h
    cases h
  · intro later i id request reply earlier h
    simp [opened] at h

theorem sound_step (s : Pool ι (Store ι) Phase) (a : ι × Act) (s' : Pool ι (Store ι) Phase) (hs : Sound calls s)
    (h : step calls s a = some s') : Sound calls s' :=
  poolInv_step own frame s a s' hs h

/-- A row that is closed stays as it is, and one that is QUEUED is closed once at most. -/
def Later (r r' : Option CommunicationLog) : Prop :=
  ∀ row, r = some row → ∃ row', r' = some row' ∧
    (row' = row ∨ row.status = .QUEUED ∧ (row'.status = .SENT ∨ row'.status = .FAILED))

theorem later_of_advance {r r' : Option CommunicationLog} (h : Advance closes r r') : Later r r' := by
  intro row hr
  cases h with
  | same => exact ⟨row, hr, .inl rfl⟩
  | create => cases hr
  | close data now row hq =>
    cases hr
    refine ⟨_, rfl, .inr ⟨hq, ?_⟩⟩
    cases data with
    | SENT => exact .inl rfl
    | FAILED => exact .inr rfl
  | expire row hq =>
    cases hr
    exact ⟨_, rfl, .inr ⟨hq, .inr rfl⟩⟩

theorem Later.trans {r r' r'' : Option CommunicationLog} (h : Later r r') (h' : Later r' r'') : Later r r'' := by
  intro row hr
  obtain ⟨row', hr', hrow'⟩ := h row hr
  obtain ⟨row'', hr'', hrow''⟩ := h' row' hr'
  refine ⟨row'', hr'', ?_⟩
  obtain rfl | ⟨hq, hclosed⟩ := hrow'
  · exact hrow''
  · obtain rfl | ⟨hq', -⟩ := hrow''
    · exact .inr ⟨hq, hclosed⟩
    · rw [hq'] at hclosed
      obtain h | h := hclosed <;> cases h

theorem later_of_run {as : List (ι × Act)} {s s' : Pool ι (Store ι) Phase}
    (hs : Sound calls s) (h : run (step calls) s as = some s') (id : String) :
    Later (s.store.logs.rows id) (s'.store.logs.rows id) := by
  refine run_relates (R := fun s s' => Later (s.store.logs.rows id) (s'.store.logs.rows id))
    (fun s row hr => ⟨row, hr, .inl rfl⟩) (fun _ _ _ => Later.trans) (fun s a s' hi hstep => ⟨?_, ?_⟩) hs h
  · exact sound_step s a s' hi hstep
  · obtain ⟨x, l, hn, rfl⟩ := poolStep_eq_some.mp hstep
    exact later_of_advance (((moved_of_next hn).rows hi.1 (fun hcall => hcall) (hi.2 a.1) id).advance (hi.1.rows id))

/-- The life of the rows, whatever the calls and their interleaving. A row holds its payload exactly while it is
    QUEUED; it is SENT only after the provider has accepted a send for it; every send carries the id of the row as
    its key and comes after a read that saw the row QUEUED; and a row leaves QUEUED once at most, for SENT or
    FAILED. -/
theorem row_life_cycle {as : List (ι × Act)} {s : Pool ι (Store ι) Phase} (h : run (step calls) opened as = some s) :
    (∀ id row, s.store.logs.rows id = some row →
      (row.payload.isSome = true ↔ row.status = .QUEUED) ∧
      (row.status = .QUEUED ∨ row.status = .SENT ∨ row.status = .FAILED) ∧
      (row.status = .SENT → Accepted s.store.history id)) ∧
    (∀ later i id request reply earlier, s.store.history = later ++ .asked i id request reply :: earlier →
      request.idempotencyKey = some id ∧ .read i id .QUEUED ∈ earlier) ∧
    ∀ bs s', run (step calls) s bs = some s' → ∀ id, Later (s.store.logs.rows id) (s'.store.logs.rows id) := by
  have hinv : Sound calls s := run_invariant sound_step sound_opened h
  refine ⟨fun id row hr => ?_, hinv.1.asked, fun bs s' hbs id => later_of_run hinv hbs id⟩
  obtain ⟨hp, hst⟩ := (hinv.1.rows id).payload_iff hr
  exact ⟨hp, hst, hinv.1.sent id row hr⟩

/-- Two jobs for one row, and the reconciler at work on it meanwhile. -/
def twice : ℕ → Call
  | 0 => .notify ⟨"a@example.com", "Welcome", "<p>Hello</p>", none, none, none⟩
  | 1 | 2 => .processEmailJob "log-1"
  | _ => .reconcile

def enabled : EmailEnv := ⟨true, false, [], none, none, none⟩

def twiceRun : List (ℕ × Act) :=
  [(0, .create "log-1" 0), (0, .enqueue), (1, .read), (2, .read), (1, .send enabled (.accepted (some "re-1"))),
    (2, .send enabled (.accepted (some "re-1"))), (3, .scan 86400001), (3, .expire "log-1"), (3, .abandon),
    (1, .write 20), (2, .write 30)]

theorem row_life_cycle_twice : ∃ s, run (step twice) opened twiceRun = some s ∧
    s.store.logs.rows "log-1" = some ⟨.SENT, none, some "re-1", 20⟩ ∧ Accepted s.store.history "log-1" := by
  obtain ⟨s, hs, hrow⟩ : ∃ s, run (step twice) opened twiceRun = some s ∧
    s.store.logs.rows "log-1" = some ⟨.SENT, none, some "re-1", 20⟩ := ⟨_, rfl, rfl⟩
  exact ⟨s, hs, hrow, ((row_life_cycle hs).1 "log-1" _ hrow).2.2 rfl⟩

end Redeemo.Outbox
