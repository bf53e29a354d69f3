import Mathlib.Algebra.Order.Ring.Rat
import Mathlib.Data.List.Infix
import Mathlib.Tactic.Common

/-! One run of a maintenance sweep.

    A run has two phases: a transaction under the lock of the sweep, which selects rows, and then the rows, one at a
    time. Whether the worker is stopping is looked at between the phases and before each row, and nowhere else. A
    `Phase` is what the run awaits, and `Phase.next` what it does once that has settled, up to where it awaits again. -/

namespace Redeemo.Sweep

inductive SweepState
  | SUCCESS
  | LOCK_SKIPPED
  | TIMEOUT
  | FAILURE
  deriving DecidableEq

/-- What is read of a value that was thrown. -/
structure Thrown where
  code : Option String
  metaCode : Option String
  name : String
  message : String
  deriving DecidableEq

/-- The message matches `/statement timeout/i`. -/
def saysStatementTimeout (message : String) : Prop :=
  "statement timeout".toList <:+: message.toList.map Char.toLower

instance : DecidablePred saysStatementTimeout := fun _ => inferInstanceAs (Decidable (_ <:+: _))

def isTimeout (err : Thrown) : Prop :=
  err.code = some "P2028" ∨ err.metaCode = some "57014" ∨ "57014".toList <:+: err.message.toList ∨
    saysStatementTimeout err.message

instance : DecidablePred isTimeout := fun err =>
  inferInstanceAs (Decidable (err.code = some "P2028" ∨ err.metaCode = some "57014" ∨
    "57014".toList <:+: err.message.toList ∨ saysStatementTimeout err.message))

inductive PhaseBDomain
  | DATABASE
  | REDIS
  deriving DecidableEq

def PHASE_B_FAILURE_NAME : PhaseBDomain → String
  | .DATABASE => "PhaseBDatabaseFailure"
  | .REDIS => "PhaseBRedisFailure"

structure PhaseBOutcome where
  full : Bool
  failedRows : ℕ
  startedRows : ℕ
  deriving DecidableEq

structure SweepResult where
  state : SweepState
  full : Bool
  error : Option Thrown
  phaseB : Option PhaseBOutcome
  deriving DecidableEq

structure BoundedSweepSpec where
  name : String
  sideEffectDomain : PhaseBDomain
  phaseBMaxItems : ℕ
  phaseBBudgetMs : ℚ
  deriving DecidableEq

/-- What the transaction of the first phase comes to. -/
inductive Scan
  /-- Another worker holds the lock. -/
  | skipped
  /-- The rows that it has selected, and whether it may have left some. -/
  | committed (full : Bool) (side : Option (List String))
  | rolledBack (err : Thrown)
  deriving DecidableEq

inductive Phase
  | transaction
  /-- A row, with those after it. -/
  | row (full : Bool) (rest : List String) (startedAt : ℚ) (started failedRows : ℕ)
  | rowsDone (full : Bool) (outcome : PhaseBOutcome)
  | returned (res : SweepResult)
  deriving DecidableEq

/-- What settles, with the readings of the monotonic clock from there on. -/
inductive Settled
  | transaction (scan : Scan) (startedAt monotonicNow : ℚ)
  | row (ok : Bool) (monotonicNow : ℚ)
  | rows
  | rejected (err : Thrown)
  deriving DecidableEq

variable (spec : BoundedSweepSpec)

/-- The loop from the head on, with the row that it begins. -/
def runBudgetedRows (stopping full : Bool) (startedAt monotonicNow : ℚ) (started failedRows : ℕ) :
    List String → Phase × Option String
  | [] => (.rowsDone full ⟨false, failedRows, started⟩, none)
  | item :: rest =>
    if stopping = true ∨ spec.phaseBMaxItems ≤ started ∨ spec.phaseBBudgetMs < monotonicNow - startedAt then
      (.rowsDone full ⟨true, failedRows, started⟩, none)
    else (.row full rest startedAt (started + 1) failedRows, some item)

def phaseBFailure (b : PhaseBOutcome) : Thrown where
  code := none
  metaCode := none
  name := PHASE_B_FAILURE_NAME spec.sideEffectDomain
  message := s!"phase-b: {b.failedRows} side-effect row(s) failed"

def afterRows (full : Bool) (b : PhaseBOutcome) : SweepResult :=
  if 0 < b.failedRows then ⟨.FAILURE, true, some (phaseBFailure spec b), some b⟩
  else ⟨.SUCCESS, full || b.full, none, some b⟩

def afterTransaction (stopping : Bool) (startedAt monotonicNow : ℚ) : Scan → Phase × Option String
  | .rolledBack err => (.returned ⟨if isTimeout err then .TIMEOUT else .FAILURE, false, some err, none⟩, none)
  | .skipped => (.returned ⟨.LOCK_SKIPPED, false, none, none⟩, none)
  | .committed full side =>
    if stopping = true then (.returned ⟨.SUCCESS, true, none, none⟩, none)
    else
      match side with
      | none => (.returned (afterRows spec full ⟨full, 0, 0⟩), none)
      | some items => runBudgetedRows spec stopping full startedAt monotonicNow 0 0 items

/-- The result of a run that was rejected where nothing should reject it. -/
def unexpected (err : Thrown) : SweepResult := ⟨.FAILURE, false, some err, none⟩

def Phase.next (stopping : Bool) : Phase → Settled → Option (Phase × Option String)
  | .returned _, _ => none
  | _, .rejected err => some (.returned (unexpected err), none)
  | .transaction, .transaction scan startedAt monotonicNow =>
    some (afterTransaction spec stopping startedAt monotonicNow scan)
  | .row full rest startedAt started failedRows, .row ok monotonicNow =>
    some (runBudgetedRows spec stopping full startedAt monotonicNow started
      (if ok = true then failedRows else failedRows + 1) rest)
  | .rowsDone full b, .rows => some (.returned (afterRows spec full b), none)
  | _, _ => none

variable {spec}

/-- No row begins once the worker is stopping. -/
theorem no_row_runBudgetedRows {full : Bool} {startedAt monotonicNow : ℚ} {started failedRows : ℕ}
    (items : List String) :
    (runBudgetedRows spec true full startedAt monotonicNow started failedRows items).2 = none := by
  cases items with
  | nil => rfl
  | cons item rest =>
    rw [runBudgetedRows, if_pos (.inl rfl)]

theorem no_row_afterTransaction {startedAt monotonicNow : ℚ} (scan : Scan) :
    (afterTransaction spec true startedAt monotonicNow scan).2 = none := by
  cases scan <;> rfl

theorem no_row_next {phase phase' : Phase} {e : Settled} {item : Option String}
    (h : phase.next spec true e = some (phase', item)) : item = none := by
  cases phase with
  | returned res => cases h
  | transaction =>
    cases e with
    | transaction scan startedAt monotonicNow =>
      have hnone : (afterTransaction spec true startedAt monotonicNow scan).2 = none := no_row_afterTransaction scan
      rw [Option.some.inj h] at hnone
      exact hnone
    | rejected err =>
      cases h
      rfl
    | row ok monotonicNow => cases h
    | rows => cases h
  | row full rest startedAt started failedRows =>
    cases e with
    | row ok monotonicNow =>
      have hnone : (runBudgetedRows spec true full startedAt monotonicNow started
          (if ok = true then failedRows else failedRows + 1) rest).2 = none := no_row_runBudgetedRows rest
      rw [Option.some.inj h] at hnone
      exact hnone
    | rejected err =>
      cases h
      rfl
    | transaction scan startedAt monotonicNow => cases h
    | rows => cases h
  | rowsDone full b =>
    cases e with
    | rows =>
      cases h
      rfl
    | rejected err =>
      cases h
      rfl
    | transaction scan startedAt monotonicNow => cases h
    | row ok monotonicNow => cases h

end Redeemo.Sweep
