import Mathlib.Algebra.Order.Ring.Int
import Mathlib.Data.List.MinMax
import Redeemo.Lib.Runs
import Redeemo.Queues.Sweep

/-! The maintenance scheduler of a worker.

    A timer fires and begins a tick, which runs the sweeps that are due, one after the other, and then arms the timer
    again. The ticks in progress and the armed timers are lists here: that there is one of them at most is what the
    flag `tickInFlight` and the variable `timer` are for. A step goes from where something settles, or a timer fires,
    to where a tick awaits again; `stop` comes between any two. -/

namespace Redeemo.Maintenance
open Runs Sweep

structure SchedulerConfig where
  idleMs : ℤ
  activeMs : ℤ
  emptyScansToIdle : ℕ
  degradedBaseMs : ℤ
  degradedMaxMs : ℤ
  alertAfterFailures : ℕ
  idle_pos : 0 < idleMs
  active_pos : 0 < activeMs
  degradedBase_pos : 0 < degradedBaseMs
  degradedMax_pos : 0 < degradedMaxMs

/-- The cadences that the environment sets, as it is checked. -/
structure MaintenanceConfig where
  floorIdleMs : ℤ
  floorActiveMs : ℤ
  idle : 300000 < floorIdleMs
  active : 0 < floorActiveMs

def MAINTENANCE_EMPTY_SCANS_TO_IDLE : ℕ := 2
def MAINTENANCE_DEGRADED_BASE_MS : ℤ := 60000
def MAINTENANCE_DEGRADED_MAX_MS : ℤ := 3600000
def MAINTENANCE_ALERT_AFTER_FAILURES : ℕ := 3

def buildMaintenanceRegistration (maintenance : MaintenanceConfig) : SchedulerConfig where
  idleMs := maintenance.floorIdleMs
  activeMs := maintenance.floorActiveMs
  emptyScansToIdle := MAINTENANCE_EMPTY_SCANS_TO_IDLE
  degradedBaseMs := MAINTENANCE_DEGRADED_BASE_MS
  degradedMaxMs := MAINTENANCE_DEGRADED_MAX_MS
  alertAfterFailures := MAINTENANCE_ALERT_AFTER_FAILURES
  idle_pos := lt_trans (by decide) maintenance.idle
  active_pos := maintenance.active
  degradedBase_pos := by decide
  degradedMax_pos := by decide

structure SweepRuntime where
  spec : BoundedSweepSpec
  enabled : Bool
  nextEligibleAt : ℤ
  degradedStreak : ℕ
  lastSuccessAt : Option ℤ
  lastFailureAt : Option ℤ
  deriving DecidableEq

def makeSweepRuntime (spec : BoundedSweepSpec) (enabled : Bool) : SweepRuntime := ⟨spec, enabled, 0, 0, none, none⟩

structure SweepRunInfo where
  name : String
  state : SweepState
  durationMs : ℚ
  full : Bool
  phaseB : Option PhaseBOutcome
  deriving DecidableEq

/-- The functions of the configuration that a run calls. -/
inductive Hook
  | onSweepRun
  | sweepRecovered
  | recordSweepFailure
  | alertDegraded
  deriving DecidableEq

/-- What begins something that goes on by itself. -/
inductive Launch
  | sweep (index : ℕ)
  | row (index : ℕ) (item : String)
  | sweepRecovered (name : String)
  | alertDegraded (name : String) (degradedStreak : ℕ)
  deriving DecidableEq

inductive Effect
  | launch (l : Launch)
  | onSweepRun (info : SweepRunInfo)
  | recordSweepFailure (name : String) (state : SweepState) (error : Option Thrown)
  deriving DecidableEq

def Effect.launch? : Effect → Option Launch
  | .launch l => some l
  | _ => none

/-- A sweep that runs, and when it began. -/
structure Run where
  startedMono : ℚ
  phase : Phase
  deriving DecidableEq

/-- A tick, at the sweep of an index; with no run once that of the sweep has come to its end. -/
structure Tick where
  now : ℤ
  index : ℕ
  run : Option Run
  deriving DecidableEq

/-- The promise of `stop`. -/
inductive Drain
  | waiting
  | settled (drained : Bool)
  deriving DecidableEq

structure Scheduler where
  sweeps : List SweepRuntime
  emptyRun : String → Option ℕ
  stopped : Bool
  tickInFlight : Bool
  timer : Option ℕ
  stopping : Option Drain
  /-- The ticks in progress. -/
  ticks : List Tick
  /-- The timers that have neither fired nor been cleared, with their delays. -/
  timers : List (ℕ × ℤ)
  /-- The id of the next timer. -/
  nextTimer : ℕ
  effects : List Effect

inductive Act
  /-- A timer fires; the clock is read when the tick begins, and again if it arms the timer. -/
  | fire (id : ℕ) (now rearm : ℤ) (monotonicNow : ℚ)
  /-- What the sweep of a tick awaits settles. -/
  | settle (k : ℕ) (e : Settled)
  /-- The run of a sweep ends; the clock is read for the stamp, and for the next run. -/
  | finish (k : ℕ) (throws : Hook → Bool) (stamp now : ℤ) (monotonicNow : ℚ)
  /-- The tick goes on to the next sweep. -/
  | resume (k : ℕ) (rearm : ℤ) (monotonicNow : ℚ)
  | stop
  | drainTimeout

variable (cfg : SchedulerConfig)

/-! ### The end of a run -/

def SweepRuntime.setNext (s : SweepRuntime) (now delay : ℤ) : SweepRuntime := { s with nextEligibleAt := now + delay }

def backoff (s : SweepRuntime) : ℤ := min (cfg.degradedBaseMs * 2 ^ (s.degradedStreak - 1)) cfg.degradedMaxMs

def SweepRuntime.degraded (s : SweepRuntime) (stamp : ℤ) : SweepRuntime :=
  { s with degradedStreak := s.degradedStreak + 1, lastFailureAt := some stamp }

/-- What a run leaves: the sweep, its count of empty scans, and what it has called. -/
structure Ran where
  sweep : SweepRuntime
  empties : Option ℕ
  effects : List Effect

/-- The last resort, when a hook has thrown. -/
def lastResort (s : SweepRuntime) (empties : Option ℕ) (stamp now : ℤ) (effects : List Effect) : Ran :=
  ⟨(s.degraded stamp).setNext now (backoff cfg (s.degraded stamp)), empties, effects⟩

def onSuccess (stopping : Bool) (throws : Hook → Bool) (stamp now : ℤ) (s : SweepRuntime) (empties : Option ℕ)
    (full : Bool) (observed : Effect) : Ran :=
  let notice :=
    if 0 < s.degradedStreak ∧ stopping = false then [Effect.launch (.sweepRecovered s.spec.name)] else []
  if notice ≠ [] ∧ throws .sweepRecovered = true then lastResort cfg s empties stamp now (observed :: notice)
  else
    let runs := if full = true then 0 else empties.getD 0 + 1
    let delay := if full = true ∨ runs < cfg.emptyScansToIdle then cfg.activeMs else cfg.idleMs
    ⟨{ s with degradedStreak := 0, lastSuccessAt := some stamp }.setNext now delay, some runs, observed :: notice⟩

def onFailure (stopping : Bool) (throws : Hook → Bool) (stamp now : ℤ) (s : SweepRuntime) (empties : Option ℕ)
    (res : SweepResult) (observed : Effect) : Ran :=
  let s := s.degraded stamp
  let recorded := Effect.recordSweepFailure s.spec.name res.state res.error
  if throws .recordSweepFailure = true then lastResort cfg s empties stamp now [observed, recorded]
  else
    let alert :=
      if stopping = false ∧ cfg.alertAfterFailures ≤ s.degradedStreak then
        [Effect.launch (.alertDegraded s.spec.name s.degradedStreak)]
      else []
    if alert ≠ [] ∧ throws .alertDegraded = true then
      lastResort cfg s empties stamp now (observed :: recorded :: alert)
    else ⟨s.setNext now (backoff cfg s), empties, observed :: recorded :: alert⟩

/-- `runOne`, from the result of the sweep on. -/
def runOne (stopping : Bool) (throws : Hook → Bool) (stamp now : ℤ) (durationMs : ℚ) (s : SweepRuntime)
    (empties : Option ℕ) (res : SweepResult) : Ran :=
  let observed := Effect.onSweepRun ⟨s.spec.name, res.state, durationMs, res.full, res.phaseB⟩
  if throws .onSweepRun = true then lastResort cfg s empties stamp now [observed]
  else
    match res.state with
    | .SUCCESS => onSuccess cfg stopping throws stamp now s empties res.full observed
    | .LOCK_SKIPPED => ⟨s.setNext now cfg.idleMs, empties, [observed]⟩
    | .TIMEOUT | .FAILURE => onFailure cfg stopping throws stamp now s empties res observed

/-! ### Ticks and timers -/

/-- The first sweep that is due, from an index on. -/
def due (now : ℤ) : List SweepRuntime → ℕ → Option ℕ
  | [], _ => none
  | s :: rest, i => if s.enabled = true ∧ s.nextEligibleAt ≤ now then some i else due now rest (i + 1)

namespace Scheduler

/-- `clearTimeout(timer)`. -/
def clearTimer (s : Scheduler) : Scheduler := { s with timers := s.timers.filter fun t => s.timer ≠ some t.1 }

def arm (s : Scheduler) (now : ℤ) : Scheduler :=
  if s.stopped = true ∨ s.tickInFlight = true then s
  else
    match ((s.sweeps.filter SweepRuntime.enabled).map SweepRuntime.nextEligibleAt).min? with
    | none => s
    | some next =>
      { s.clearTimer with
        timers := s.clearTimer.timers ++ [(s.nextTimer, max 0 (next - now))]
        timer := some s.nextTimer
        nextTimer := s.nextTimer + 1 }

/-- The loop of a tick from an index on, beside the other ticks. -/
def loop (s : Scheduler) (others : List Tick) (now : ℤ) (i : ℕ) (rearm : ℤ) (monotonicNow : ℚ) : Scheduler :=
  match if s.stopped = true then none else due now (s.sweeps.drop i) i with
  | some j =>
    { s with
      ticks := ⟨now, j, some ⟨monotonicNow, .transaction⟩⟩ :: others
      effects := s.effects ++ [.launch (.sweep j)] }
  | none =>
    { s with
      ticks := others
      tickInFlight := false
      stopping := if s.stopping = some Drain.waiting then some (.settled true) else s.stopping }.arm rearm

def tick (s : Scheduler) (now rearm : ℤ) (monotonicNow : ℚ) : Scheduler :=
  if s.stopped = true ∨ s.tickInFlight = true then s
  else { s with tickInFlight := true }.loop s.ticks now 0 rearm monotonicNow

def settle (s : Scheduler) (others : List Tick) (t : Tick) (e : Settled) : Option Scheduler :=
  match t.run, s.sweeps[t.index]? with
  | some run, some sweep =>
    (run.phase.next sweep.spec s.stopped e).map fun r =>
      { s with
        ticks := { t with run := some { run with phase := r.1 } } :: others
        effects := s.effects ++ r.2.toList.map fun item => .launch (.row t.index item) }
  | _, _ => none

def finish (s : Scheduler) (others : List Tick) (t : Tick) (throws : Hook → Bool) (stamp now : ℤ)
    (monotonicNow : ℚ) : Option Scheduler :=
  match t.run, s.sweeps[t.index]? with
  | some ⟨startedMono, .returned res⟩, some sweep =>
    let name := sweep.spec.name
    let r := runOne cfg s.stopped throws stamp now (monotonicNow - startedMono) sweep (s.emptyRun name) res
    some { s with
      sweeps := s.sweeps.set t.index r.sweep
      emptyRun := Function.update s.emptyRun name r.empties
      ticks := { t with run := none } :: others
      effects := s.effects ++ r.effects }
  | _, _ => none

def resume (s : Scheduler) (others : List Tick) (t : Tick) (rearm : ℤ) (monotonicNow : ℚ) : Option Scheduler :=
  match t.run with
  | none => some (s.loop others t.now (t.index + 1) rearm monotonicNow)
  | some _ => none

def stop (s : Scheduler) : Scheduler :=
  match s.stopping with
  | some _ => s
  | none =>
    { s.clearTimer with
      stopped := true
      timer := none
      stopping := some (if s.ticks = [] then .settled true else .waiting) }

end Scheduler

def step (s : Scheduler) : Act → Option Scheduler
  | .fire id now rearm monotonicNow =>
    if id ∈ s.timers.map Prod.fst then
      some ({ s with timers := s.timers.filter fun t => t.1 ≠ id }.tick now rearm monotonicNow)
    else none
  | .settle k e => s.ticks[k]?.bind fun t => s.settle (s.ticks.eraseIdx k) t e
  | .finish k throws stamp now monotonicNow =>
    s.ticks[k]?.bind fun t => s.finish cfg (s.ticks.eraseIdx k) t throws stamp now monotonicNow
  | .resume k rearm monotonicNow => s.ticks[k]?.bind fun t => s.resume (s.ticks.eraseIdx k) t rearm monotonicNow
  | .stop => some s.stop
  | .drainTimeout => if s.stopping = some Drain.waiting then some { s with stopping := some (.settled false) } else none

/-- `startMaintenanceScheduler`. -/
def startMaintenanceScheduler (sweeps : List SweepRuntime) (boot : ℕ → ℤ) (now : ℤ) : Scheduler :=
  Scheduler.arm
    { sweeps := sweeps.mapIdx fun i s => { s with nextEligibleAt := boot i }
      emptyRun := fun _ => none
      stopped := false
      tickInFlight := false
      timer := none
      stopping := none
      ticks := []
      timers := []
      nextTimer := 0
      effects := [] } now

/-! ### What is promised -/

/-- The least that the end of a run puts its sweep off. -/
def SchedulerConfig.leastDelay : ℤ := min (min cfg.activeMs cfg.idleMs) (min cfg.degradedBaseMs cfg.degradedMaxMs)

namespace Scheduler

/-- The sweeps that run. -/
def running (s : Scheduler) : List ℕ := (s.ticks.filter fun t => t.run.isSome).map Tick.index

/-- What has been begun. -/
def launches (s : Scheduler) : List Launch := s.effects.filterMap Effect.launch?

/-- The sweep whose run ends by an action, and when. -/
def ends (s : Scheduler) : Act → Option (ℕ × ℤ)
  | .finish k _ _ now _ => s.ticks[k]?.map fun t => (t.index, now)
  | _ => none

end Scheduler

/-- What the flag and the variable stand for. -/
structure Inv (s : Scheduler) : Prop where
  oneTick : s.ticks.length ≤ 1
  inFlight : s.tickInFlight = false → s.ticks = []
  oneTimer : s.timers.length ≤ 1
  current : ∀ t ∈ s.timers, s.timer = some t.1
  quiet : s.tickInFlight = true ∨ s.stopped = true → s.timers = []
  terminal : s.stopped = false → s.stopping = none

section
variable {cfg} {s s' : Scheduler} {a : Act} {others : List Tick} {t : Tick} {now rearm : ℤ} {monotonicNow : ℚ} {i k : ℕ}

/-! ### Sweeps and launches -/

theorem leastDelay_le_backoff (r : SweepRuntime) : cfg.leastDelay ≤ backoff cfg r := by
  have hpow : cfg.degradedBaseMs ≤ cfg.degradedBaseMs * 2 ^ (r.degradedStreak - 1) :=
    le_mul_of_one_le_right cfg.degradedBase_pos.le (one_le_pow₀ one_le_two)
  exact le_trans (min_le_right _ _) (min_le_min_right _ hpow)

theorem leastDelay_pos : 0 < cfg.leastDelay :=
  lt_min (lt_min cfg.active_pos cfg.idle_pos) (lt_min cfg.degradedBase_pos cfg.degradedMax_pos)

theorem leastDelay_le_activeMs : cfg.leastDelay ≤ cfg.activeMs := le_trans (min_le_left _ _) (min_le_left _ _)

theorem leastDelay_le_idleMs : cfg.leastDelay ≤ cfg.idleMs := le_trans (min_le_left _ _) (min_le_right _ _)

/-- However a run ends, its sweep is put off. -/
theorem runOne_next (stopping : Bool) (throws : Hook → Bool) (stamp now : ℤ) (durationMs : ℚ) (r : SweepRuntime)
    (empties : Option ℕ) (res : SweepResult) : now + cfg.leastDelay ≤
      (runOne cfg stopping throws stamp now durationMs r empties res).sweep.nextEligibleAt := by
  have hlast {r : SweepRuntime} {empties : Option ℕ} {effects : List Effect} :
      now + cfg.leastDelay ≤ (lastResort cfg r empties stamp now effects).sweep.nextEligibleAt :=
    Int.add_le_add_left (leastDelay_le_backoff _) now
  rw [runOne]
  split_ifs
  · exact hlast
  · cases res.state with
    | SUCCESS =>
      dsimp only
      rw [onSuccess]
      dsimp only
      split_ifs
      all_goals first
        | exact hlast
        | exact Int.add_le_add_left leastDelay_le_activeMs now
        | exact Int.add_le_add_left leastDelay_le_idleMs now
    | LOCK_SKIPPED => exact Int.add_le_add_left leastDelay_le_idleMs now
    | TIMEOUT | FAILURE =>
      dsimp only
      rw [onFailure]
      dsimp only
      split_ifs <;> exact hlast

/-- A run that ends while the worker is stopping launches nothing. -/
theorem runOne_launches (throws : Hook → Bool) (stamp now : ℤ) (durationMs : ℚ) (r : SweepRuntime)
    (empties : Option ℕ) (res : SweepResult) :
    (runOne cfg true throws stamp now durationMs r empties res).effects.filterMap Effect.launch? = [] := by
  rw [runOne]
  split_ifs
  · rfl
  · cases res.state with
    | SUCCESS => simp [onSuccess, Effect.launch?]
    | LOCK_SKIPPED => rfl
    | TIMEOUT | FAILURE =>
      simp only [onFailure]
      split_ifs <;> simp_all [Effect.launch?, lastResort]

/-! ### One tick and one timer -/

@[simp] theorem arm_sweeps : (s.arm now).sweeps = s.sweeps := by
  rw [Scheduler.arm]
  split_ifs
  · rfl
  · split <;> rfl

@[simp] theorem arm_launches : (s.arm now).launches = s.launches := by
  rw [Scheduler.arm]
  split_ifs
  · rfl
  · split <;> rfl

@[simp] theorem arm_stopped : (s.arm now).stopped = s.stopped := by
  rw [Scheduler.arm]
  split_ifs
  · rfl
  · split <;> rfl

theorem Inv.of_no_timer (hone : s.ticks.length ≤ 1) (hin : s.tickInFlight = false → s.ticks = [])
    (htimers : s.timers = []) (hterm : s.stopped = false → s.stopping = none) : Inv s :=
  ⟨hone, hin, by simp [htimers], by simp [htimers], fun _ => htimers, hterm⟩

/-- Where no timer is armed and no tick in progress, the timer may be armed. -/
theorem inv_arm (hticks : s.ticks = []) (hflag : s.tickInFlight = false) (htimers : s.timers = [])
    (hterm : s.stopped = false → s.stopping = none) : Inv (s.arm now) := by
  rw [Scheduler.arm]
  have hsame : Inv s := .of_no_timer (by simp [hticks]) (fun _ => hticks) htimers hterm
  split_ifs with hquiet
  · exact hsame
  · have hclear : s.clearTimer.timers = [] := by simp [Scheduler.clearTimer, htimers]
    split
    · exact hsame
    · refine ⟨by simp [Scheduler.clearTimer, hticks], fun _ => hticks, by simp [hclear], by simp [hclear], ?_, hterm⟩
      rintro (hin | hstop)
      · cases hflag.symm.trans hin
      · exact absurd (.inl hstop) hquiet

/-- The loop of the tick in progress goes on to a sweep, or ends the tick. -/
theorem inv_loop (hflag : s.tickInFlight = true) (htimers : s.timers = [])
    (hterm : s.stopped = false → s.stopping = none) : Inv (s.loop [] now i rearm monotonicNow) := by
  rw [Scheduler.loop]
  split
  · refine .of_no_timer (le_refl 1) (fun hnot => ?_) htimers hterm
    cases hflag.symm.trans hnot
  · refine inv_arm rfl rfl htimers fun hgoing => ?_
    simp [hterm hgoing]

theorem loop_sweeps : (s.loop others now i rearm monotonicNow).sweeps = s.sweeps := by
  rw [Scheduler.loop]
  split
  · rfl
  · rw [arm_sweeps]

theorem loop_stopped : (s.loop others now i rearm monotonicNow).stopped = s.stopped := by
  rw [Scheduler.loop]
  split
  · rfl
  · rw [arm_stopped]

/-- No sweep begins once the worker is stopping. -/
theorem loop_launches (h : s.stopped = true) : (s.loop others now i rearm monotonicNow).launches = s.launches := by
  rw [Scheduler.loop, if_pos h]
  dsimp only
  rw [arm_launches]
  rfl

/-- The tick that a step is about is the only one, and no timer is armed. -/
theorem Inv.alone (h : Inv s) (hk : s.ticks[k]? = some t) :
    s.ticks = [t] ∧ s.ticks.eraseIdx k = [] ∧ s.tickInFlight = true ∧ s.timers = [] := by
  obtain ⟨t', ht⟩ : ∃ t', s.ticks = [t'] := by
    refine List.length_eq_one_iff.mp (le_antisymm h.oneTick (List.length_pos_iff.mpr fun hnil => ?_))
    rw [hnil, List.getElem?_nil] at hk
    cases hk
  rw [ht] at hk ⊢
  have hzero : k = 0 := by
    cases k with
    | zero => rfl
    | succ k => cases hk
  have hflag : s.tickInFlight = true := by
    rw [← Bool.not_eq_false]
    intro hnot
    cases ht.symm.trans (h.inFlight hnot)
  subst hzero
  cases hk
  exact ⟨rfl, rfl, hflag, h.quiet (.inl hflag)⟩

/-- The timer that fires was the only one. -/
theorem Inv.fired {id : ℕ} (h : Inv s) (hid : id ∈ s.timers.map Prod.fst) :
    (s.timers.filter fun t => t.1 ≠ id) = [] := by
  obtain ⟨fired, hfired, rfl⟩ := List.mem_map.mp hid
  refine List.filter_eq_nil_iff.mpr fun t ht => ?_
  have hsame : t.1 = fired.1 := Option.some.inj ((h.current t ht).symm.trans (h.current fired hfired))
  simp [hsame]

theorem Inv.cleared (h : Inv s) : s.clearTimer.timers = [] := by
  refine List.filter_eq_nil_iff.mpr fun t ht => ?_
  simp [h.current t ht]

theorem inv_stop (h : Inv s) : Inv s.stop := by
  rw [Scheduler.stop]
  split
  · exact h
  · exact .of_no_timer h.oneTick h.inFlight h.cleared nofun

theorem inv_step (h : Inv s) (hs : step cfg s a = some s') : Inv s' := by
  cases a with
  | fire id now rearm monotonicNow =>
    rw [step] at hs
    split_ifs at hs with hid
    cases hs
    have hfired := h.fired hid
    rw [Scheduler.tick]
    split_ifs with hquiet
    · exact .of_no_timer h.oneTick h.inFlight hfired h.terminal
    · have hnone : s.ticks = [] := h.inFlight (by simpa using (not_or.mp hquiet).2)
      dsimp only
      rw [hnone]
      exact inv_loop rfl hfired h.terminal
  | settle k e =>
    obtain ⟨t, hk, hs⟩ := Option.bind_eq_some_iff.mp hs
    obtain ⟨-, halone, hflag, htimers⟩ := h.alone hk
    rw [halone, Scheduler.settle] at hs
    split at hs
    · obtain ⟨r, -, rfl⟩ := Option.map_eq_some_iff.mp hs
      refine .of_no_timer (le_refl 1) (fun hnot => ?_) htimers h.terminal
      cases hflag.symm.trans hnot
    · cases hs
  | finish k throws stamp now monotonicNow =>
    obtain ⟨t, hk, hs⟩ := Option.bind_eq_some_iff.mp hs
    obtain ⟨-, halone, hflag, htimers⟩ := h.alone hk
    rw [halone, Scheduler.finish] at hs
    split at hs
    · cases hs
      refine .of_no_timer (le_refl 1) (fun hnot => ?_) htimers h.terminal
      cases hflag.symm.trans hnot
    · cases hs
  | resume k rearm monotonicNow =>
    obtain ⟨t, hk, hs⟩ := Option.bind_eq_some_iff.mp hs
    obtain ⟨-, halone, hflag, htimers⟩ := h.alone hk
    rw [halone, Scheduler.resume] at hs
    split at hs
    · cases hs
      exact inv_loop hflag htimers h.terminal
    · cases hs
  | stop =>
    cases hs
    exact inv_stop h
  | drainTimeout =>
    rw [step] at hs
    split_ifs at hs with hwaiting
    cases hs
    refine ⟨h.oneTick, h.inFlight, h.oneTimer, h.current, h.quiet, fun hgoing => ?_⟩
    cases hwaiting.symm.trans (h.terminal hgoing)

theorem inv_start (sweeps : List SweepRuntime) (boot : ℕ → ℤ) (now : ℤ) :
    Inv (startMaintenanceScheduler sweeps boot now) := inv_arm rfl rfl rfl fun _ => rfl

/-! ### Steps of a stopped worker -/

theorem stopped_step (hstop : s.stopped = true) (hs : step cfg s a = some s') :
    s'.stopped = true ∧ s'.launches = s.launches := by
  cases a with
  | fire id now rearm monotonicNow =>
    rw [step] at hs
    split_ifs at hs
    cases hs
    rw [Scheduler.tick, if_pos (.inl hstop)]
    exact ⟨hstop, rfl⟩
  | settle k e =>
    obtain ⟨t, -, hs⟩ := Option.bind_eq_some_iff.mp hs
    rw [Scheduler.settle, hstop] at hs
    split at hs
    · obtain ⟨r, hr, rfl⟩ := Option.map_eq_some_iff.mp hs
      have hnone : r.2 = none := no_row_next hr
      refine ⟨rfl, ?_⟩
      simp [Scheduler.launches, hnone]
    · cases hs
  | finish k throws stamp now monotonicNow =>
    obtain ⟨t, -, hs⟩ := Option.bind_eq_some_iff.mp hs
    rw [Scheduler.finish, hstop] at hs
    split at hs
    · cases hs
      refine ⟨rfl, ?_⟩
      simp [Scheduler.launches, runOne_launches]
    · cases hs
  | resume k rearm monotonicNow =>
    obtain ⟨t, -, hs⟩ := Option.bind_eq_some_iff.mp hs
    rw [Scheduler.resume] at hs
    split at hs
    · cases hs
      exact ⟨loop_stopped.trans hstop, loop_launches hstop⟩
    · cases hs
  | stop =>
    cases hs
    rw [Scheduler.stop]
    split
    · exact ⟨hstop, rfl⟩
    · exact ⟨rfl, rfl⟩
  | drainTimeout =>
    rw [step] at hs
    split_ifs at hs
    cases hs
    exact ⟨hstop, rfl⟩

/-! ### Sweeps -/

/-- The run of a sweep that ends puts it off and leaves the others; no other step changes a sweep. -/
theorem sweeps_step (hs : step cfg s a = some s') :
    (∀ i now, s.ends a = some (i, now) → ∃ r, s'.sweeps[i]? = some r ∧ now + cfg.leastDelay ≤ r.nextEligibleAt) ∧
      ∀ i, (∀ now, s.ends a ≠ some (i, now)) → s'.sweeps[i]? = s.sweeps[i]? := by
  cases a with
  | fire id now rearm monotonicNow =>
    refine ⟨nofun, fun i _ => ?_⟩
    rw [step] at hs
    split_ifs at hs
    cases hs
    rw [Scheduler.tick]
    split_ifs
    · rfl
    · rw [loop_sweeps]
  | settle k e =>
    refine ⟨nofun, fun i _ => ?_⟩
    obtain ⟨t, -, hs⟩ := Option.bind_eq_some_iff.mp hs
    rw [Scheduler.settle] at hs
    split at hs
    · obtain ⟨r, -, rfl⟩ := Option.map_eq_some_iff.mp hs
      rfl
    · cases hs
  | finish k throws stamp now monotonicNow =>
    obtain ⟨t, hk, hs⟩ := Option.bind_eq_some_iff.mp hs
    have hends : s.ends (.finish k throws stamp now monotonicNow) = some (t.index, now) := by
      rw [Scheduler.ends, hk]
      rfl
    rw [hends]
    rw [Scheduler.finish] at hs
    split at hs
    · next sweep _ hsweep =>
      cases hs
      have hlt : t.index < s.sweeps.length := (List.getElem?_eq_some_iff.mp hsweep).1
      constructor
      · rintro i now' heq
        cases heq
        exact ⟨_, List.getElem?_set_self hlt, runOne_next ..⟩
      · intro i hne
        exact List.getElem?_set_ne fun heq => hne now (by rw [heq])
    · cases hs
  | resume k rearm monotonicNow =>
    refine ⟨nofun, fun i _ => ?_⟩
    obtain ⟨t, -, hs⟩ := Option.bind_eq_some_iff.mp hs
    rw [Scheduler.resume] at hs
    split at hs
    · cases hs
      rw [loop_sweeps]
    · cases hs
  | stop =>
    refine ⟨nofun, fun i _ => ?_⟩
    cases hs
    rw [Scheduler.stop]
    split <;> rfl
  | drainTimeout =>
    refine ⟨nofun, fun i _ => ?_⟩
    rw [step] at hs
    split_ifs at hs
    cases hs
    rfl

/-! ### Runs -/

theorem inv_run {sweeps : List SweepRuntime} {boot : ℕ → ℤ} {as : List Act}
    (h : run (step cfg) (startMaintenanceScheduler sweeps boot now) as = some s) : Inv s :=
  run_invariant (fun _ _ _ => inv_step) (inv_start sweeps boot now) h

theorem stopped_run {bs : List Act} (hstop : s.stopped = true) (h : run (step cfg) s bs = some s') :
    s'.launches = s.launches := by
  have hboth := run_invariant (I := fun u => u.stopped = true ∧ u.launches = s.launches)
    (fun u a v hu hstep => ⟨(stopped_step hu.1 hstep).1, (stopped_step hu.1 hstep).2.trans hu.2⟩) ⟨hstop, rfl⟩ h
  exact hboth.2

theorem Inv.stop_launches (h : Inv s) : s.stop.stopped = true ∧ s.stop.launches = s.launches := by
  rw [Scheduler.stop]
  split
  · next hsome =>
    refine ⟨?_, rfl⟩
    rw [← Bool.not_eq_false]
    intro hgoing
    cases hsome.symm.trans (h.terminal hgoing)
  · exact ⟨rfl, rfl⟩

/-- At any point of any run: one sweep at most runs, one timer at most is armed, and none while a tick is in
    progress; nothing is launched after `stop`; and a step changes no sweep but the one whose run ends by it, which
    it puts off. -/
theorem scheduler_safe {sweeps : List SweepRuntime} {boot : ℕ → ℤ} {as : List Act}
    (h : run (step cfg) (startMaintenanceScheduler sweeps boot now) as = some s) :
    s.running.length ≤ 1 ∧ s.timers.length ≤ 1 ∧ (s.ticks ≠ [] → s.timers = []) ∧
      (∀ bs s', run (step cfg) s (.stop :: bs) = some s' → s'.launches = s.launches) ∧
      ∀ a s', step cfg s a = some s' →
        (∀ i now, s.ends a = some (i, now) → ∃ r, s'.sweeps[i]? = some r ∧ now < r.nextEligibleAt ∧
          now + cfg.leastDelay ≤ r.nextEligibleAt) ∧
        ∀ i, (∀ now, s.ends a ≠ some (i, now)) → s'.sweeps[i]? = s.sweeps[i]? := by
  have hinv := inv_run h
  refine ⟨?_, hinv.oneTimer, fun htick => hinv.quiet (.inl ?_), fun bs s' hrun => ?_, fun a s' hs => ?_⟩
  · rw [Scheduler.running, List.length_map]
    exact le_trans (List.length_filter_le ..) hinv.oneTick
  · rw [← Bool.not_eq_false]
    exact fun hnot => htick (hinv.inFlight hnot)
  · obtain ⟨t, ht, hrest⟩ := run_cons_eq_some.mp hrun
    cases ht
    exact (stopped_run hinv.stop_launches.1 hrest).trans hinv.stop_launches.2
  · obtain ⟨hends, hother⟩ := sweeps_step hs
    refine ⟨fun i now hi => ?_, hother⟩
    obtain ⟨r, hr, hle⟩ := hends i now hi
    exact ⟨r, hr, lt_of_lt_of_le (lt_add_of_pos_right now leastDelay_pos) hle, hle⟩

end

def demoConfig : SchedulerConfig := buildMaintenanceRegistration ⟨600000, 5000, by decide, by decide⟩

def demoSweeps : List SweepRuntime :=
  [makeSweepRuntime ⟨"outbox-reconcile", .REDIS, 50, 2000⟩ true,
    makeSweepRuntime ⟨"claim-stale", .DATABASE, 50, 2000⟩ true]

/-- The worker is stopped while the first of two rows is in progress. -/
def stopInRow : List Act :=
  [.fire 0 0 0 0, .settle 0 (.transaction (.committed true (some ["r1", "r2"])) 0 0), .stop, .settle 0 (.row false 1),
    .settle 0 .rows, .finish 0 (fun _ => false) 2 2 2, .resume 0 2 2]

theorem scheduler_safe_stopInRow : ∃ s,
    run (step demoConfig) (startMaintenanceScheduler demoSweeps (fun _ => 0) 0) stopInRow = some s ∧
      s.launches = [.sweep 0, .row 0 "r1"] ∧ s.running.length ≤ 1 ∧ s.timers.length ≤ 1 := by
  have hl : (run (step demoConfig) (startMaintenanceScheduler demoSweeps (fun _ => 0) 0) stopInRow).map
      Scheduler.launches = some [.sweep 0, .row 0 "r1"] := by decide +kernel
  obtain ⟨s, hs, hlaunches⟩ := Option.map_eq_some_iff.mp hl
  exact ⟨s, hs, hlaunches, (scheduler_safe hs).1, (scheduler_safe hs).2.1⟩

end Redeemo.Maintenance
