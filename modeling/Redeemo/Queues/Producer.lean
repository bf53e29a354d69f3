import Redeemo.Lib.InsertionMap
import Redeemo.Lib.Runs
import Redeemo.Lib.Tables
import Redeemo.Queues.Replay

/-! The producer side of the job queues: one connection, made when it is first needed, and the queues that ride it.

    A creation is a promise that concurrent callers share. What happens while it is awaited may supersede it: each
    invalidation and each `closeQueues` begins a new epoch, and a creation of an older one destroys its connection
    instead of becoming the live producer. A step goes from where a promise settles, or a caller calls, to the next
    `await`; so a run is any interleaving of creations, enqueuings, errors and closings. -/

namespace Redeemo.Queues
open Runs

/-! ### Errors -/

def occurs (pattern : String) (s : List Char) : Bool := s.tails.any fun t => pattern.toList.isPrefixOf t

/-- `.` matches anything else. -/
def isLineTerminator (c : Char) : Bool := c = '\n' || c = '\r' || c.toNat = 0x2028 || c.toNat = 0x2029

/-- `/connection.*(?:ended|closed)/` -/
def connectionClosed (s : List Char) : Bool :=
  s.tails.any fun t =>
    let line := (t.drop 10).takeWhile fun c => !isLineTerminator c
    "connection".toList.isPrefixOf t && (occurs "ended" line || occurs "closed" line)

/-- By the message, in any case. -/
def isProducerInvalidatingError (msg : String) : Bool :=
  let s := msg.toList.map Char.toLower
  ["command timed out", "timed out", "offline queue", "stream isn't writeable", "connection is closed",
    "econnrefused"].any (fun pattern => occurs pattern s) || connectionClosed s

/-! ### State -/

inductive CreationStage
  /-- `conn.connect()` is awaited. -/
  | connecting
  | connected
  /-- It is rejected, and has yet to be evicted. -/
  | rejected
  | evicted
  deriving DecidableEq, Repr

/-- A creation with its connection: whether `disconnect` and `quit` have been called. -/
structure Creation where
  epoch : ℕ
  stage : CreationStage
  disconnected : Bool
  quit : Bool
  deriving DecidableEq, Repr

inductive QueueStage
  | awaiting
  | constructed
  | rejected
  | evicted
  deriving DecidableEq, Repr

/-- The creation of a queue awaits that of the producer. -/
structure QueueCreation where
  name : String
  creation : ℕ
  stage : QueueStage
  deriving DecidableEq, Repr

inductive CallStage
  | awaiting
  | adding
  | settled
  deriving DecidableEq, Repr

/-- A call of `enqueue`. -/
structure Call where
  queue : ℕ
  jobId : String
  stage : CallStage
  deriving DecidableEq, Repr

/-- Where the graceful path of a closing is. -/
inductive CloseStage
  | settling
  | closing (left : List ℕ)
  | quitting
  | graceful
  deriving DecidableEq, Repr

/-- A call of `closeQueues`, with the epoch that it has begun. It has returned once it is known whether it expired. -/
structure Closing where
  epoch : ℕ
  creations : List ℕ
  conn : Option ℕ
  stage : CloseStage
  expired : Option Bool
  deriving DecidableEq, Repr

structure Producer where
  producerCreation : Option ℕ
  liveProducer : Option ℕ
  pendingProducer : Option ℕ
  producerEpoch : ℕ
  creations : Table Creation

structure State where
  producer : Producer
  queueCreations : InsertionMap String ℕ
  queues : Table QueueCreation
  calls : Table Call
  closings : Table Closing

def initial : State where
  producer := ⟨none, none, none, 0, .empty⟩
  queueCreations := .empty
  queues := .empty
  calls := .empty
  closings := .empty

/-! ### What the callers call -/

namespace Producer

def disconnect (p : Producer) (n : ℕ) : Producer :=
  { p with creations := p.creations.modify n fun c => { c with disconnected := true } }

/-- No listener is left on a connection that is disconnected here. -/
def invalidate (p : Producer) (n : ℕ) : Producer :=
  { p.disconnect n with producerEpoch := p.producerEpoch + 1, liveProducer := none, producerCreation := none }

def create (p : Producer) : Producer :=
  { p with
    creations := p.creations.make ⟨p.producerEpoch, .connecting, false, false⟩
    pendingProducer := some p.creations.next
    producerCreation := some p.creations.next }

def getProducerConnection (p : Producer) : Producer × ℕ :=
  match p.producerCreation with
  | some n => (p, n)
  | none => (p.create, p.creations.next)

/-- A connection that has been disconnected does not get ready. -/
def connected (p : Producer) (n : ℕ) (ready : Bool) : Option Producer :=
  (p.creations.row n).bind fun c =>
    if c.stage = .connecting ∧ (ready = true → c.disconnected = false) then
      let pending := if p.pendingProducer = some n then none else p.pendingProducer
      if ready = true ∧ c.epoch = p.producerEpoch then
        some { p with
          creations := p.creations.modify n fun c => { c with stage := .connected }
          liveProducer := some n
          pendingProducer := pending }
      else
        some { p with
          creations := p.creations.modify n fun c => { c with stage := .rejected, disconnected := true }
          pendingProducer := pending }
    else none

/-- `creation.catch` -/
def evict (p : Producer) (n : ℕ) : Option Producer :=
  (p.creations.row n).bind fun c =>
    if c.stage = .rejected then
      some { p with
        creations := p.creations.modify n fun c => { c with stage := .evicted }
        producerCreation := if p.producerCreation = some n then none else p.producerCreation }
    else none

/-- A new epoch; the live producer is left to the one who closes. -/
def supersede (p : Producer) : Producer :=
  { p with producerEpoch := p.producerEpoch + 1, liveProducer := none, producerCreation := none }

/-- What is in flight is destroyed. -/
def forcePending (p : Producer) : Producer :=
  match p.pendingProducer with
  | some n => { p.disconnect n with pendingProducer := none }
  | none => p

def quit (p : Producer) (n : ℕ) : Producer :=
  { p with creations := p.creations.modify n fun c => { c with quit := true } }

end Producer

namespace State

/-- A stale error of a producer that is not the live one does nothing. -/
def invalidateProducer (s : State) (n : ℕ) : State :=
  if s.producer.liveProducer = some n then
    { s with producer := s.producer.invalidate n, queueCreations := .empty }
  else s

def makeQueue (s : State) (name : String) : State × ℕ :=
  match s.queueCreations.get? name with
  | some q => (s, q)
  | none =>
    let (p, n) := s.producer.getProducerConnection
    ({ s with
        producer := p
        queues := s.queues.make ⟨name, n, .awaiting⟩
        queueCreations := s.queueCreations.set name s.queues.next }, s.queues.next)

/-- An id that the queue would not take is refused before anything is made. -/
def enqueue (s : State) (name jobId : String) : State :=
  if Outbox.Replay.Enqueueable jobId then
    let (s, q) := s.makeQueue name
    { s with calls := s.calls.make ⟨q, jobId, .awaiting⟩ }
  else s

/-- The creation of a queue goes on, once that of the producer has settled. -/
def queueResumed (s : State) (q : ℕ) : Option State :=
  (s.queues.row q).bind fun x =>
    (s.producer.creations.row x.creation).bind fun c =>
      if x.stage = .awaiting ∧ c.stage ≠ .connecting then
        some { s with queues := s.queues.modify q fun x =>
          { x with stage := if c.stage = .connected then .constructed else .rejected } }
      else none

def evictQueue (s : State) (q : ℕ) : Option State :=
  (s.queues.row q).bind fun x =>
    if x.stage = .rejected then
      some { s with
        queues := s.queues.modify q fun x => { x with stage := .evicted }
        queueCreations :=
          if s.queueCreations.get? x.name = some q then s.queueCreations.erase x.name else s.queueCreations }
    else none

/-- A call goes on to its `add`, or is rejected with its queue. -/
def queueAwaited (s : State) (k : ℕ) : Option State :=
  (s.calls.row k).bind fun call =>
    (s.queues.row call.queue).bind fun x =>
      if call.stage = .awaiting ∧ x.stage ≠ .awaiting then
        some { s with calls := s.calls.modify k fun call =>
          { call with stage := if x.stage = .constructed then .adding else .settled } }
      else none

/-- An `add` settles; the producer that the queue rides is the one that its error may invalidate. -/
def added (s : State) (k : ℕ) (err : Option String) : Option State :=
  (s.calls.row k).bind fun call =>
    (s.queues.row call.queue).bind fun x =>
      if call.stage = .adding then
        let s := { s with calls := s.calls.modify k fun call => { call with stage := .settled } }
        some (if err.any isProducerInvalidatingError = true then s.invalidateProducer x.creation else s)
      else none

/-! ### Closing -/

def setClosing (s : State) (d : ℕ) (stage : CloseStage) : State :=
  { s with closings := s.closings.modify d fun k => { k with stage := stage } }

def closeQueues (s : State) : State :=
  { s with
    producer := s.producer.supersede
    queueCreations := .empty
    closings := s.closings.make
      ⟨s.producer.producerEpoch + 1, s.queueCreations.entries.map Prod.snd, s.producer.liveProducer, .settling, none⟩ }

def isSettled (s : State) (q : ℕ) : Bool := (s.queues.row q).any fun x => x.stage ≠ .awaiting

def isConstructed (s : State) (q : ℕ) : Bool := (s.queues.row q).any fun x => x.stage = .constructed

/-- Every creation has settled, and the queues are told to close. -/
def creationsSettled (s : State) (d : ℕ) : Option State :=
  (s.closings.row d).bind fun k =>
    if k.stage = .settling ∧ k.creations.all s.isSettled = true then
      some (s.setClosing d (.closing (k.creations.filter s.isConstructed)))
    else none

def queueClosed (s : State) (d q : ℕ) : Option State :=
  (s.closings.row d).bind fun k =>
    match k.stage with
    | .closing left => if q ∈ left then some (s.setClosing d (.closing (left.erase q))) else none
    | _ => none

/-- Every queue has closed, and the connection is told to quit. -/
def queuesClosed (s : State) (d : ℕ) : Option State :=
  (s.closings.row d).bind fun k =>
    if k.stage = .closing [] then
      match k.conn with
      | some n => some { s.setClosing d .quitting with producer := s.producer.quit n }
      | none => some (s.setClosing d .graceful)
    else none

def quitSettled (s : State) (d : ℕ) : Option State :=
  (s.closings.row d).bind fun k => if k.stage = .quitting then some (s.setClosing d .graceful) else none

def setExpired (s : State) (d : ℕ) (expired : Bool) : State :=
  { s with closings := s.closings.modify d fun k => { k with expired := some expired } }

/-- The graceful path has won the race. -/
def closed (s : State) (d : ℕ) : Option State :=
  (s.closings.row d).bind fun k =>
    if k.stage = .graceful ∧ k.expired = none then some (s.setExpired d false) else none

/-- The time is up: the socket is destroyed, and so is that of a producer in flight. -/
def expire (s : State) (d : ℕ) : Option State :=
  (s.closings.row d).bind fun k =>
    if k.expired = none then
      let p := match k.conn with
        | some n => s.producer.disconnect n
        | none => s.producer
      some { s.setExpired d true with producer := p.forcePending }
    else none

end State

/-! ### Steps -/

inductive Act
  | enqueue (name jobId : String)
  /-- `connect` has settled: whether the connection is ready. -/
  | connected (n : ℕ) (ready : Bool)
  | evict (n : ℕ)
  /-- The connection reports its end. -/
  | ended (n : ℕ)
  | queueResumed (q : ℕ)
  | evictQueue (q : ℕ)
  | queueAwaited (k : ℕ)
  /-- `none`: the job is added. -/
  | added (k : ℕ) (err : Option String)
  | closeQueues
  | creationsSettled (d : ℕ)
  | queueClosed (d q : ℕ)
  | queuesClosed (d : ℕ)
  | quitSettled (d : ℕ)
  | closed (d : ℕ)
  | expire (d : ℕ)

def step (s : State) : Act → Option State
  | .enqueue name jobId => some (s.enqueue name jobId)
  | .connected n ready => (s.producer.connected n ready).map fun p => { s with producer := p }
  | .evict n => (s.producer.evict n).map fun p => { s with producer := p }
  | .ended n => some (s.invalidateProducer n)
  | .queueResumed q => s.queueResumed q
  | .evictQueue q => s.evictQueue q
  | .queueAwaited k => s.queueAwaited k
  | .added k err => s.added k err
  | .closeQueues => some s.closeQueues
  | .creationsSettled d => s.creationsSettled d
  | .queueClosed d q => s.queueClosed d q
  | .queuesClosed d => s.queuesClosed d
  | .quitSettled d => s.quitSettled d
  | .closed d => s.closed d
  | .expire d => s.expire d

end Redeemo.Queues
