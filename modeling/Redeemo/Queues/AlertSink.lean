import Mathlib.Data.Finset.Basic
import Redeemo.Lib.Runs
import Redeemo.Queues.Scheduler

/-! The alerts of the maintenance sweeps.

    An alert is a task that goes through the admins, one after the other: it looks for a recent notice of the same
    identity, and writes one if there is none. There is one task at a time for each identity, and none is launched
    after `stop`. What a task awaits ends a step, so a run is any interleaving of the tasks with the sweeps, with
    the clock and with what others write. -/

namespace Redeemo.Maintenance
open Runs Sweep

def ALERT_DEDUP_WINDOW_MS : ℤ := 15 * 60 * 1000
def MAINTENANCE_ALERT_REFERENCE_TYPE : String := "maintenance-sweep"

/-! ### Classification -/

/-- `/^[0-9A-Z]{5}$/` -/
def isSqlState (s : String) : Bool :=
  s.toList.length = 5 && s.toList.all fun c => c.isDigit || c.isUpper

/-- `/^P\d{4}$/` -/
def isPrismaCode (s : String) : Bool :=
  s.toList.length = 5 && s.toList.head? = some 'P' && s.toList.tail.all Char.isDigit

/-- `/^E[A-Z]{2,30}$/` -/
def isErrno (s : String) : Bool :=
  3 ≤ s.toList.length && s.toList.length ≤ 31 && s.toList.head? = some 'E' && s.toList.tail.all Char.isUpper

/-- `/^[A-Za-z]{1,40}$/` -/
def isErrorName (s : String) : Bool :=
  1 ≤ s.toList.length && s.toList.length ≤ 40 && s.toList.all Char.isAlpha

/-- By the name alone. -/
def classifyName (name : String) : String :=
  if isErrorName name = true ∧ name ≠ "Error" then "ERR_" ++ name else "UNCLASSIFIED"

def classifyCode (e : Thrown) : String :=
  match e.code with
  | some code =>
    if isPrismaCode code = true then "PRISMA_" ++ code
    else if isErrno code = true then "NET_" ++ code
    else classifyName e.name
  | none => classifyName e.name

def classifySweepError : Option Thrown → String
  | none => "UNCLASSIFIED"
  | some e =>
    match e.metaCode.filter isSqlState with
    | some metaCode => "PG_" ++ metaCode
    | none => classifyCode e

def isDbUnavailableFailure (state : SweepState) (errorClass : String) : Bool :=
  state = .TIMEOUT || errorClass = "ERR_PhaseBDatabaseFailure" || "PRISMA_".toList.isPrefixOf errorClass.toList ||
    "PG_".toList.isPrefixOf errorClass.toList

/-! ### Alerts and the notifications they write -/

inductive NotificationType
  | ADMIN_MAINTENANCE_DEGRADED
  | ADMIN_MAINTENANCE_RECOVERED
  | ADMIN_DELIVERY_FAILED
  /-- One that no alert of maintenance has. -/
  | other
  deriving DecidableEq, Repr

/-- The prefix of an alert's key. -/
inductive AlertPhase
  | degraded
  | recovered
  | expiry
  deriving DecidableEq, Repr

/-- `degraded:name`, `recovered:name`, `expiry:name`. -/
structure AlertKey where
  phase : AlertPhase
  name : String
  deriving DecidableEq, Repr

def AlertPhase.type : AlertPhase → NotificationType
  | .degraded => .ADMIN_MAINTENANCE_DEGRADED
  | .recovered => .ADMIN_MAINTENANCE_RECOVERED
  | .expiry => .ADMIN_DELIVERY_FAILED

def NotificationType.label : NotificationType → String
  | .ADMIN_MAINTENANCE_DEGRADED => "ADMIN_MAINTENANCE_DEGRADED"
  | .ADMIN_MAINTENANCE_RECOVERED => "ADMIN_MAINTENANCE_RECOVERED"
  | .ADMIN_DELIVERY_FAILED => "ADMIN_DELIVERY_FAILED"
  | .other => "other"

/-- The type and the `referenceId` are those of the key. -/
structure Alert where
  key : AlertKey
  title : String
  body : String
  deriving DecidableEq, Repr

/-- A row that `adminNotify` writes: its recipient is an admin. -/
structure Notification where
  recipientId : String
  type : NotificationType
  title : String
  body : String
  referenceId : Option String
  referenceType : Option String
  sentAt : ℤ
  deriving DecidableEq, Repr

/-- The row is a notice of this alert to this admin. -/
def Notification.isOf (n : Notification) (key : AlertKey) (admin : String) : Prop :=
  n.recipientId = admin ∧ n.type = key.phase.type ∧ n.referenceType = some MAINTENANCE_ALERT_REFERENCE_TYPE ∧
    n.referenceId = some key.name

instance (n : Notification) (key : AlertKey) (admin : String) : Decidable (n.isOf key admin) :=
  inferInstanceAs (Decidable (_ ∧ _ ∧ _ ∧ _))

def Alert.notification (alert : Alert) (admin : String) (sentAt : ℤ) : Notification where
  recipientId := admin
  type := alert.key.phase.type
  title := alert.title
  body := alert.body
  referenceId := some alert.key.name
  referenceType := some MAINTENANCE_ALERT_REFERENCE_TYPE
  sentAt := sentAt

/-! ### Tasks -/

/-- What a task awaits. -/
inductive TaskStage
  /-- `getAlertableAdmins` -/
  | admins
  /-- The lookup for an admin, with those after it. -/
  | lookup (since : ℤ) (admin : String) (rest : List String)
  /-- `adminNotify`; the row may be there already. -/
  | write (since : ℤ) (admin : String) (rest : List String) (inserted : Bool)
  /-- The fan-out is over, and its `finally` has yet to run. -/
  | ended
  | closed
  deriving DecidableEq, Repr

structure Task where
  alert : Alert
  stage : TaskStage
  deriving DecidableEq, Repr

/-- The promise of one `stop`: what was pending then, and whether it has settled. -/
structure SinkDrain where
  snapshot : List ℕ
  settled : Option Bool
  deriving DecidableEq, Repr

/-- The variables of `createAlertSink`; the set `pending` has the tasks that are not closed. -/
structure AlertSink where
  stopped : Bool
  inFlight : Finset AlertKey
  dbDegraded : Finset String
  degradedEpisode : Finset String
  counters : String → ℤ
  tasks : ℕ → Option Task
  launched : ℕ
  drains : List SinkDrain

def createAlertSink : AlertSink where
  stopped := false
  inFlight := ∅
  dbDegraded := ∅
  degradedEpisode := ∅
  counters := fun _ => 0
  tasks := fun _ => none
  launched := 0
  drains := []

namespace AlertSink

def bump (k : AlertSink) (key : String) (n : ℤ) : AlertSink :=
  { k with counters := Function.update k.counters key (k.counters key + n) }

def launchAlert (k : AlertSink) (alert : Alert) : AlertSink :=
  if k.stopped = true then k
  else if alert.key ∈ k.inFlight then k
  else
    { k with
      inFlight := insert alert.key k.inFlight
      tasks := Function.update k.tasks k.launched (some ⟨alert, .admins⟩)
      launched := k.launched + 1 }

def setStage (k : AlertSink) (n : ℕ) (alert : Alert) (stage : TaskStage) : AlertSink :=
  { k with tasks := Function.update k.tasks n (some ⟨alert, stage⟩) }

/-- The tasks that are not closed. -/
def pending (k : AlertSink) : List ℕ :=
  (List.range k.launched).filter fun n => ((k.tasks n).map Task.stage) ≠ some .closed

/-! ### What the sweeps call -/

def stateLabel : SweepState → String
  | .SUCCESS => "SUCCESS"
  | .LOCK_SKIPPED => "LOCK_SKIPPED"
  | .TIMEOUT => "TIMEOUT"
  | .FAILURE => "FAILURE"

def sweepRun (k : AlertSink) (info : SweepRunInfo) : AlertSink :=
  let k := (k.bump ("sweep." ++ info.name ++ ".runs") 1).bump ("sweep." ++ info.name ++ ".state." ++ stateLabel info.state) 1
  match info.phaseB with
  | none => k
  | some b =>
    (k.bump ("sweep." ++ info.name ++ ".rowsStarted") b.startedRows).bump ("sweep." ++ info.name ++ ".rowsFailed") b.failedRows

/-- The latest failure counts. -/
def sweepFailure (k : AlertSink) (name : String) (state : SweepState) (error : Option Thrown) : AlertSink :=
  let k := k.bump ("sweep." ++ name ++ ".failures") 1
  { k with
    dbDegraded :=
      if isDbUnavailableFailure state (classifySweepError error) then insert name k.dbDegraded
      else k.dbDegraded.erase name }

def degradedAlert (name : String) (degradedStreak : ℕ) : Alert where
  key := ⟨.degraded, name⟩
  title := "Maintenance sweep degraded"
  body := s!"The \"{name}\" maintenance sweep has failed {degradedStreak} consecutive runs and is on degraded backoff. It retries automatically; the worker log carries the redacted failure class."

/-- An episode is open from here on, whether or not the notice can be written. -/
def sweepDegraded (k : AlertSink) (name : String) (degradedStreak : ℕ) : AlertSink :=
  if k.stopped = true then k
  else
    let k := { k.bump ("sweep." ++ name ++ ".degraded") 1 with degradedEpisode := insert name k.degradedEpisode }
    if name ∈ k.dbDegraded then k.bump ("sweep." ++ name ++ ".degradedSuppressedDbDown") 1
    else k.launchAlert (degradedAlert name degradedStreak)

def recoveredAlert (name : String) : Alert where
  key := ⟨.recovered, name⟩
  title := "Maintenance sweep recovered"
  body := s!"The \"{name}\" maintenance sweep has recovered and returned to its normal cadence."

def sweepRecovered (k : AlertSink) (name : String) : AlertSink :=
  if k.stopped = true then k
  else
    let k := { k.bump ("sweep." ++ name ++ ".recovered") 1 with dbDegraded := k.dbDegraded.erase name }
    if name ∈ k.degradedEpisode then
      { k with degradedEpisode := k.degradedEpisode.erase name }.launchAlert (recoveredAlert name)
    else k

/-- The types of the rows that a committed expiry has moved, with their counts. -/
structure ExpiredCommunicationsInfo where
  sweep : String
  total : ℤ
  byType : List (String × ℕ)
  deriving DecidableEq, Repr

def breakdown (byType : List (String × ℕ)) : String :=
  ", ".intercalate (byType.map fun t => s!"{t.1} x{t.2}")

def expiryAlert (info : ExpiredCommunicationsInfo) : Alert where
  key := ⟨.expiry, info.sweep⟩
  title := "Queued communications expired"
  body := s!"The \"{info.sweep}\" sweep expired {info.total} queued communication(s) older than the 24 hour outbox limit ({breakdown info.byType}). The rows are marked FAILED with their payloads cleared."

def expiredCommunications (k : AlertSink) (info : ExpiredCommunicationsInfo) : AlertSink :=
  let k := k.bump ("sweep." ++ info.sweep ++ ".expiredCommunications") info.total
  if k.stopped = true then k
  else if info.total ≤ 0 then k
  else k.launchAlert (expiryAlert info)

def stop (k : AlertSink) : AlertSink :=
  { k with
    stopped := true
    drains := k.drains ++ [⟨k.pending, if k.pending = [] then some true else none⟩] }

/-- What a call of a sweep does to the sink; what begins a sweep or a row is no call of it. -/
def hear (k : AlertSink) : Effect → AlertSink
  | .onSweepRun info => k.sweepRun info
  | .recordSweepFailure name state error => k.sweepFailure name state error
  | .launch (.alertDegraded name degradedStreak) => k.sweepDegraded name degradedStreak
  | .launch (.sweepRecovered name) => k.sweepRecovered name
  | .launch (.sweep _) => k
  | .launch (.row _ _) => k

end AlertSink

/-! ### Steps -/

/-- The sink, the table it writes to, and the clock. -/
structure AlertWorld where
  sink : AlertSink
  notifications : List Notification
  now : ℤ

inductive SinkAct
  | hear (e : Effect)
  | expiredCommunications (info : AlertSink.ExpiredCommunicationsInfo)
  | stop
  /-- What was pending at a `stop` has settled, or its time is up. -/
  | drained (drain : ℕ)
  | stopTimeout (drain : ℕ)
  /-- `none`: the query is rejected. -/
  | admins (n : ℕ) (ids : Option (List String))
  | found (n : ℕ) (ok : Bool)
  /-- The row is in the table. One that is not by the time its write is rejected will never be. -/
  | insert (n : ℕ)
  | written (n : ℕ) (ok : Bool)
  | close (n : ℕ)
  | tick (ms : ℕ)
  /-- A row of someone else. -/
  | notify (row : Notification)

/-- The admins that are left. -/
def TaskStage.next (since : ℤ) : List String → TaskStage
  | [] => .ended
  | admin :: rest => .lookup since admin rest

namespace AlertWorld

def setStage (w : AlertWorld) (n : ℕ) (alert : Alert) (stage : TaskStage) : AlertWorld :=
  { w with sink := w.sink.setStage n alert stage }

def bump (w : AlertWorld) (key : String) : AlertWorld := { w with sink := w.sink.bump key 1 }

/-- The recipients are gone through from here; `since` is taken once. -/
def admins (w : AlertWorld) (n : ℕ) (ids : Option (List String)) : Option AlertWorld :=
  match w.sink.tasks n with
  | some ⟨alert, .admins⟩ =>
    match ids with
    | none => some ((w.bump "alerts.launchFailed").setStage n alert .ended)
    | some ids => some (w.setStage n alert (.next (w.now - ALERT_DEDUP_WINDOW_MS) ids))
  | _ => none

/-- A notice of the same identity that is not older than the window. -/
def recent (w : AlertWorld) (key : AlertKey) (admin : String) (since : ℤ) : Bool :=
  w.notifications.any fun row => row.isOf key admin ∧ since ≤ row.sentAt

def found (w : AlertWorld) (n : ℕ) (ok : Bool) : Option AlertWorld :=
  match w.sink.tasks n with
  | some ⟨alert, .lookup since admin rest⟩ =>
    some (if ok = false then
        (w.bump ("alerts.failed." ++ alert.key.phase.type.label)).setStage n alert (.next since rest)
      else if w.recent alert.key admin since = true then
        (w.bump ("alerts.deduped." ++ alert.key.phase.type.label)).setStage n alert (.next since rest)
      else w.setStage n alert (.write since admin rest false))
  | _ => none

/-- The database stamps the row with its time. -/
def insert (w : AlertWorld) (n : ℕ) : Option AlertWorld :=
  match w.sink.tasks n with
  | some ⟨alert, .write since admin rest false⟩ =>
    some { w.setStage n alert (.write since admin rest true) with
      notifications := w.notifications ++ [alert.notification admin w.now] }
  | _ => none

/-- A write that is confirmed is in the table; one that is rejected may be. -/
def written (w : AlertWorld) (n : ℕ) (ok : Bool) : Option AlertWorld :=
  match w.sink.tasks n with
  | some ⟨alert, .write since _ rest inserted⟩ =>
    if ok = true then
      if inserted = true then
        some ((w.bump ("alerts.sent." ++ alert.key.phase.type.label)).setStage n alert (.next since rest))
      else none
    else some ((w.bump ("alerts.failed." ++ alert.key.phase.type.label)).setStage n alert (.next since rest))
  | _ => none

/-- The task's `finally`. -/
def close (w : AlertWorld) (n : ℕ) : Option AlertWorld :=
  match w.sink.tasks n with
  | some ⟨alert, .ended⟩ =>
    some { w with sink := { w.sink.setStage n alert .closed with inFlight := w.sink.inFlight.erase alert.key } }
  | _ => none

def settleDrain (w : AlertWorld) (d : ℕ) (drained : Bool) : Option AlertWorld :=
  match w.sink.drains[d]? with
  | some ⟨snapshot, none⟩ =>
    if drained = true → ∀ n ∈ snapshot, (w.sink.tasks n).map Task.stage = some .closed then
      some { w with sink := { w.sink with drains := w.sink.drains.set d ⟨snapshot, some drained⟩ } }
    else none
  | _ => none

end AlertWorld

def sinkStep (w : AlertWorld) : SinkAct → Option AlertWorld
  | .hear e => some { w with sink := w.sink.hear e }
  | .expiredCommunications info => some { w with sink := w.sink.expiredCommunications info }
  | .stop => some { w with sink := w.sink.stop }
  | .drained d => w.settleDrain d true
  | .stopTimeout d => w.settleDrain d false
  | .admins n ids => w.admins n ids
  | .found n ok => w.found n ok
  | .insert n => w.insert n
  | .written n ok => w.written n ok
  | .close n => w.close n
  | .tick ms => some { w with now := w.now + ms }
  | .notify row =>
    if row.referenceType = some MAINTENANCE_ALERT_REFERENCE_TYPE then none
    else some { w with notifications := w.notifications ++ [row] }

end Redeemo.Maintenance
