import Redeemo.Queues.AlertSink

/-! No admin gets two notices of one alert within the window, and none after a clean stop.

    The argument is that of a lock: of the tasks that are not closed no two have one identity, so between a task's
    lookup and its write nobody else writes a notice of the same alert. -/

namespace Redeemo.Maintenance
open Runs Sweep

/-! ### What launches -/

/-- A call of a sweep leaves the tasks as they are, or begins one. -/
inductive Launches (k : AlertSink) : AlertSink → Prop
  | none (k' : AlertSink) : k'.stopped = k.stopped → k'.inFlight = k.inFlight → k'.tasks = k.tasks →
      k'.launched = k.launched → k'.drains = k.drains → Launches k k'
  | one (k' : AlertSink) (alert : Alert) : k.stopped = false → alert.key ∉ k.inFlight → k'.stopped = false →
      k'.inFlight = insert alert.key k.inFlight →
      k'.tasks = Function.update k.tasks k.launched (some ⟨alert, .admins⟩) →
      k'.launched = k.launched + 1 → k'.drains = k.drains → Launches k k'

section
variable {k k' : AlertSink} {w w' : AlertWorld} {n n' d : ℕ} {t t' : Task} {a : SinkAct}

theorem launches_launchAlert (k : AlertSink) (alert : Alert) : Launches k (k.launchAlert alert) := by
  rw [AlertSink.launchAlert]
  split_ifs with hstop hkey
  · exact .none k rfl rfl rfl rfl rfl
  · exact .none k rfl rfl rfl rfl rfl
  · rw [Bool.not_eq_true] at hstop
    exact .one _ alert hstop hkey hstop rfl rfl rfl rfl

/-- What a task does not read may change before. -/
theorem Launches.of_same (hstopped : k'.stopped = k.stopped) (hflight : k'.inFlight = k.inFlight)
    (htasks : k'.tasks = k.tasks) (hlaunched : k'.launched = k.launched) (hdrains : k'.drains = k.drains)
    {k'' : AlertSink} (h : Launches k' k'') : Launches k k'' := by
  cases h with
  | none h₁ h₂ h₃ h₄ h₅ =>
    exact .none _ (h₁.trans hstopped) (h₂.trans hflight) (h₃.trans htasks) (h₄.trans hlaunched) (h₅.trans hdrains)
  | one alert h₁ h₂ h₃ h₄ h₅ h₆ h₇ =>
    rw [hflight] at h₂ h₄
    rw [htasks, hlaunched] at h₅
    exact .one _ alert (hstopped.symm.trans h₁) h₂ h₃ h₄ h₅ (h₆.trans (congrArg (· + 1) hlaunched)) (h₇.trans hdrains)

theorem launches_sweepRun (info : SweepRunInfo) : Launches k (k.sweepRun info) := by
  rw [AlertSink.sweepRun]
  split <;> exact .none _ rfl rfl rfl rfl rfl

theorem launches_sweepDegraded (name : String) (streak : ℕ) : Launches k (k.sweepDegraded name streak) := by
  rw [AlertSink.sweepDegraded]
  split_ifs
  · exact .none _ rfl rfl rfl rfl rfl
  · dsimp only
    split_ifs
    · exact .none _ rfl rfl rfl rfl rfl
    · exact .of_same (by rfl) (by rfl) (by rfl) (by rfl) (by rfl) (launches_launchAlert _ _)

theorem launches_sweepRecovered (name : String) : Launches k (k.sweepRecovered name) := by
  rw [AlertSink.sweepRecovered]
  split_ifs
  · exact .none _ rfl rfl rfl rfl rfl
  · dsimp only
    split_ifs
    · exact .of_same (by rfl) (by rfl) (by rfl) (by rfl) (by rfl) (launches_launchAlert _ _)
    · exact .none _ rfl rfl rfl rfl rfl

theorem launches_expiredCommunications (info : AlertSink.ExpiredCommunicationsInfo) :
    Launches k (k.expiredCommunications info) := by
  rw [AlertSink.expiredCommunications]
  split_ifs
  · exact .none _ rfl rfl rfl rfl rfl
  · exact .none _ rfl rfl rfl rfl rfl
  · exact .of_same (by rfl) (by rfl) (by rfl) (by rfl) (by rfl) (launches_launchAlert _ _)

theorem launches_hear (e : Effect) : Launches k (k.hear e) := by
  cases e with
  | onSweepRun info => exact launches_sweepRun info
  | recordSweepFailure name state error => exact .none _ rfl rfl rfl rfl rfl
  | launch l =>
    cases l with
    | alertDegraded name streak => exact launches_sweepDegraded name streak
    | sweepRecovered name => exact launches_sweepRecovered name
    | sweep index => exact .none _ rfl rfl rfl rfl rfl
    | row index item => exact .none _ rfl rfl rfl rfl rfl

/-- A task goes on: its stage is set, and a counter may be moved. -/
structure Advances (k k' : AlertSink) (n : ℕ) (alert : Alert) (stage stage' : TaskStage) : Prop where
  before : k.tasks n = some ⟨alert, stage⟩
  tasks : k'.tasks = Function.update k.tasks n (some ⟨alert, stage'⟩)
  stopped : k'.stopped = k.stopped
  launched : k'.launched = k.launched
  drains : k'.drains = k.drains

/-- What a step does: to the tasks, to the table and to the clock. -/
inductive SinkMove (w : AlertWorld) : AlertWorld → Prop
  | launch (w' : AlertWorld) : Launches w.sink w'.sink → w'.notifications = w.notifications → w'.now = w.now →
      SinkMove w w'
  | stop : SinkMove w { w with sink := w.sink.stop }
  | settleDrain (d : ℕ) (snapshot : List ℕ) (drained : Bool) : w.sink.drains[d]? = some ⟨snapshot, none⟩ →
      (drained = true → ∀ n ∈ snapshot, (w.sink.tasks n).map Task.stage = some .closed) →
      SinkMove w { w with sink := { w.sink with drains := w.sink.drains.set d ⟨snapshot, some drained⟩ } }
  /-- A task goes on to an admin, or ends. -/
  | next (w' : AlertWorld) (n : ℕ) (alert : Alert) (stage : TaskStage) (since : ℤ) (rest : List String) :
      Advances w.sink w'.sink n alert stage (.next since rest) → stage ≠ .closed → w'.sink.inFlight = w.sink.inFlight →
      (since + ALERT_DEDUP_WINDOW_MS ≤ w.now ∨ (∃ admin rest, stage = .lookup since admin rest) ∨
        ∃ admin rest inserted, stage = .write since admin rest inserted) →
      w'.notifications = w.notifications → w'.now = w.now → SinkMove w w'
  | failLaunch (w' : AlertWorld) (n : ℕ) (alert : Alert) : Advances w.sink w'.sink n alert .admins .ended →
      w'.sink.inFlight = w.sink.inFlight → w'.notifications = w.notifications → w'.now = w.now → SinkMove w w'
  | nothingRecent (w' : AlertWorld) (n : ℕ) (alert : Alert) (since : ℤ) (admin : String) (rest : List String) :
      Advances w.sink w'.sink n alert (.lookup since admin rest) (.write since admin rest false) →
      w'.sink.inFlight = w.sink.inFlight → w.recent alert.key admin since = false →
      w'.notifications = w.notifications → w'.now = w.now → SinkMove w w'
  | insert (w' : AlertWorld) (n : ℕ) (alert : Alert) (since : ℤ) (admin : String) (rest : List String) :
      Advances w.sink w'.sink n alert (.write since admin rest false) (.write since admin rest true) →
      w'.sink.inFlight = w.sink.inFlight →
      w'.notifications = w.notifications ++ [alert.notification admin w.now] → w'.now = w.now → SinkMove w w'
  | close (w' : AlertWorld) (n : ℕ) (alert : Alert) : Advances w.sink w'.sink n alert .ended .closed →
      w'.sink.inFlight = w.sink.inFlight.erase alert.key → w'.notifications = w.notifications → w'.now = w.now →
      SinkMove w w'
  | tick (ms : ℕ) : SinkMove w { w with now := w.now + ms }
  | notify (row : Notification) : row.referenceType ≠ some MAINTENANCE_ALERT_REFERENCE_TYPE →
      SinkMove w { w with notifications := w.notifications ++ [row] }

theorem admins_move {ids : Option (List String)} (h : w.admins n ids = some w') : SinkMove w w' := by
  rw [AlertWorld.admins] at h
  split at h
  · next alert ht =>
    split at h
    · cases h
      exact .failLaunch _ n alert ⟨ht, rfl, rfl, rfl, rfl⟩ rfl rfl rfl
    · cases h
      refine .next _ n alert .admins _ _ ⟨ht, rfl, rfl, rfl, rfl⟩ nofun rfl (.inl ?_) rfl rfl
      omega
  · cases h

theorem found_move {ok : Bool} (h : w.found n ok = some w') : SinkMove w w' := by
  rw [AlertWorld.found] at h
  split at h
  · next alert since admin rest ht =>
    cases h
    split_ifs with hok hrecent
    · exact .next _ n alert _ since rest ⟨ht, rfl, rfl, rfl, rfl⟩ nofun rfl (.inr (.inl ⟨_, _, rfl⟩)) rfl rfl
    · exact .next _ n alert _ since rest ⟨ht, rfl, rfl, rfl, rfl⟩ nofun rfl (.inr (.inl ⟨_, _, rfl⟩)) rfl rfl
    · rw [Bool.not_eq_true] at hrecent
      exact .nothingRecent _ n alert since admin rest ⟨ht, rfl, rfl, rfl, rfl⟩ rfl hrecent rfl rfl
  · cases h

theorem insert_move (h : w.insert n = some w') : SinkMove w w' := by
  rw [AlertWorld.insert] at h
  split at h
  · next alert since admin rest ht =>
    cases h
    exact .insert _ n alert since admin rest ⟨ht, rfl, rfl, rfl, rfl⟩ rfl rfl rfl
  · cases h

theorem written_move {ok : Bool} (h : w.written n ok = some w') : SinkMove w w' := by
  rw [AlertWorld.written] at h
  split at h
  · next alert since admin rest inserted ht =>
    have hadvances : ∀ key, SinkMove w ((w.bump key).setStage n alert (.next since rest)) := fun key =>
      .next _ n alert _ since rest ⟨ht, rfl, rfl, rfl, rfl⟩ nofun rfl (.inr (.inr ⟨_, _, _, rfl⟩)) rfl rfl
    split_ifs at h
    · cases h
      exact hadvances _
    · cases h
      exact hadvances _
  · cases h

theorem close_move (h : w.close n = some w') : SinkMove w w' := by
  rw [AlertWorld.close] at h
  split at h
  · next alert ht =>
    cases h
    exact .close _ n alert ⟨ht, rfl, rfl, rfl, rfl⟩ rfl rfl rfl
  · cases h

theorem settleDrain_move {drained : Bool} (h : w.settleDrain d drained = some w') : SinkMove w w' := by
  rw [AlertWorld.settleDrain] at h
  split at h
  · next snapshot hd =>
    split_ifs at h with hclosed
    cases h
    exact .settleDrain d snapshot drained hd hclosed
  · cases h

theorem sinkStep_cases (h : sinkStep w a = some w') : SinkMove w w' := by
  cases a with
  | hear e =>
    cases h
    exact .launch _ (launches_hear e) rfl rfl
  | expiredCommunications info =>
    cases h
    exact .launch _ (launches_expiredCommunications info) rfl rfl
  | stop =>
    cases h
    exact .stop
  | drained d => exact settleDrain_move h
  | stopTimeout d => exact settleDrain_move h
  | admins n ids => exact admins_move h
  | found n ok => exact found_move h
  | insert n => exact insert_move h
  | written n ok => exact written_move h
  | close n => exact close_move h
  | tick ms =>
    cases h
    exact .tick ms
  | notify row =>
    rw [sinkStep] at h
    split_ifs at h with hrow
    cases h
    exact .notify row hrow

end

/-! ### The invariant -/

/-- The rows of two notices of one alert to one admin, in the order they were written, are further apart than the
    window. -/
def Spaced (rows : List Notification) : Prop :=
  rows.Pairwise fun m n => ∀ key admin, m.isOf key admin → n.isOf key admin →
    m.sentAt + ALERT_DEDUP_WINDOW_MS < n.sentAt

/-- What a task knows of the table. -/
def Knows (w : AlertWorld) (key : AlertKey) : TaskStage → Prop
  | .lookup since _ _ => since + ALERT_DEDUP_WINDOW_MS ≤ w.now
  | .write since admin _ inserted => since + ALERT_DEDUP_WINDOW_MS ≤ w.now ∧
      (inserted = false → ∀ row ∈ w.notifications, row.isOf key admin → row.sentAt < since)
  | _ => True

structure SinkInv (w : AlertWorld) : Prop where
  fresh : ∀ n, w.sink.launched ≤ n → w.sink.tasks n = none
  flying : ∀ n t, w.sink.tasks n = some t → t.stage ≠ .closed → t.alert.key ∈ w.sink.inFlight
  /-- The lock: one task for each identity. -/
  single : ∀ n n' t t', w.sink.tasks n = some t → w.sink.tasks n' = some t' → t.stage ≠ .closed →
    t'.stage ≠ .closed → t.alert.key = t'.alert.key → n = n'
  knows : ∀ n t, w.sink.tasks n = some t → Knows w t.alert.key t.stage
  spaced : Spaced w.notifications

section
variable {k k' : AlertSink} {w w' : AlertWorld} {n n' d : ℕ} {t t' : Task} {a : SinkAct} {key : AlertKey}
variable {alert : Alert} {stage stage' : TaskStage}

/-- The clock goes on, and the rows that are new are none of this alert. -/
theorem Knows.mono (h : Knows w key stage) (hnow : w.now ≤ w'.now)
    (hrows : ∀ row ∈ w'.notifications, row ∈ w.notifications ∨ ∀ admin, ¬ row.isOf key admin) :
    Knows w' key stage := by
  cases stage with
  | lookup since admin rest => exact h.trans hnow
  | write since admin rest inserted =>
    refine ⟨h.1.trans hnow, fun hin row hrow hof => ?_⟩
    rcases hrows row hrow with hold | hnot
    · exact h.2 hin row hold hof
    · exact absurd hof (hnot admin)
  | admins => trivial
  | ended => trivial
  | closed => trivial

/-- The tasks, the table and the clock are what they were. -/
theorem SinkInv.same (h : SinkInv w) (htasks : w'.sink.tasks = w.sink.tasks) (hlaunched : w'.sink.launched = w.sink.launched)
    (hflight : w'.sink.inFlight = w.sink.inFlight) (hrows : w'.notifications = w.notifications)
    (hnow : w'.now = w.now) : SinkInv w' where
  fresh := by rw [hlaunched, htasks]; exact h.fresh
  flying := by rw [htasks, hflight]; exact h.flying
  single := by rw [htasks]; exact h.single
  knows n t hn := by
    rw [htasks] at hn
    exact (h.knows n t hn).mono hnow.ge fun row hrow => .inl (hrows ▸ hrow)
  spaced := by rw [hrows]; exact h.spaced

theorem SinkInv.launch (h : SinkInv w) (hl : Launches w.sink w'.sink) (hrows : w'.notifications = w.notifications)
    (hnow : w'.now = w.now) : SinkInv w' := by
  generalize hk : w'.sink = k at hl
  cases hl with
  | none _ hflight htasks hlaunched _ =>
    subst hk
    exact h.same htasks hlaunched hflight hrows hnow
  | one alert _ hfree _ hflight htasks hlaunched _ =>
    subst hk
    have hcases : ∀ n t, w'.sink.tasks n = some t →
        n = w.sink.launched ∧ t = ⟨alert, .admins⟩ ∨ w.sink.tasks n = some t := by
      intro n t hn
      rw [htasks] at hn
      rcases eq_or_ne n w.sink.launched with rfl | hne
      · rw [Function.update_self] at hn
        exact .inl ⟨rfl, (Option.some.inj hn).symm⟩
      · rw [Function.update_of_ne hne] at hn
        exact .inr hn
    refine ⟨fun n hle => ?_, fun n t hn hopen => ?_, fun n n' t t' hn hn' hopen hopen' hkey => ?_,
      fun n t hn => ?_, by rw [hrows]; exact h.spaced⟩
    · rw [hlaunched] at hle
      rw [htasks, Function.update_of_ne (by omega)]
      exact h.fresh n (by omega)
    · rw [hflight]
      rcases hcases n t hn with ⟨-, rfl⟩ | hn
      · exact Finset.mem_insert_self ..
      · exact Finset.mem_insert_of_mem (h.flying n t hn hopen)
    · rcases hcases n t hn with ⟨rfl, rfl⟩ | hn <;> rcases hcases n' t' hn' with ⟨rfl, rfl⟩ | hn'
      · rfl
      · exact absurd (hkey ▸ h.flying n' t' hn' hopen') hfree
      · exact absurd (hkey ▸ h.flying n t hn hopen) hfree
      · exact h.single n n' t t' hn hn' hopen hopen' hkey
    · rcases hcases n t hn with ⟨-, rfl⟩ | hn
      · trivial
      · exact (h.knows n t hn).mono hnow.ge fun row hrow => .inl (hrows ▸ hrow)

/-- A task after the step of one. -/
theorem Advances.cases (h : Advances k k' n alert stage stage') (hn : k'.tasks n' = some t) :
    n' = n ∧ t = ⟨alert, stage'⟩ ∨ n' ≠ n ∧ k.tasks n' = some t := by
  rw [h.tasks] at hn
  rcases eq_or_ne n' n with rfl | hne
  · rw [Function.update_self] at hn
    exact .inl ⟨rfl, (Option.some.inj hn).symm⟩
  · rw [Function.update_of_ne hne] at hn
    exact .inr ⟨hne, hn⟩

/-- A task goes on, and does not close. A row that comes in is none of another alert that is open. -/
theorem SinkInv.advance (h : SinkInv w) (ha : Advances w.sink w'.sink n alert stage stage') (hopen : stage ≠ .closed)
    (hflight : w'.sink.inFlight = w.sink.inFlight) (hknows : Knows w' alert.key stage') (hnow : w'.now = w.now)
    (hkeys : ∀ row ∈ w'.notifications, row ∈ w.notifications ∨ ∀ key admin, row.isOf key admin → key = alert.key)
    (hspaced : Spaced w'.notifications) : SinkInv w' where
  fresh n' hle := by
    rw [ha.launched] at hle
    have hne : n' ≠ n := by
      rintro rfl
      cases (h.fresh n' hle).symm.trans ha.before
    rw [ha.tasks, Function.update_of_ne hne]
    exact h.fresh n' hle
  flying n' t hn' hopen' := by
    rw [hflight]
    rcases ha.cases hn' with ⟨rfl, rfl⟩ | ⟨-, hn'⟩
    · exact h.flying n' ⟨alert, stage⟩ ha.before hopen
    · exact h.flying n' t hn' hopen'
  single m m' u u' hm hm' hu hu' hkey := by
    rcases ha.cases hm with ⟨rfl, rfl⟩ | ⟨-, hm⟩ <;> rcases ha.cases hm' with ⟨rfl, rfl⟩ | ⟨-, hm'⟩
    · rfl
    · exact h.single _ m' _ u' ha.before hm' hopen hu' hkey
    · exact h.single m _ u _ hm ha.before hu hopen hkey
    · exact h.single m m' u u' hm hm' hu hu' hkey
  knows m u hm := by
    rcases ha.cases hm with ⟨rfl, rfl⟩ | ⟨hne, hm⟩
    · exact hknows
    · by_cases hclosed : u.stage = .closed
      · rw [hclosed]
        trivial
      · refine (h.knows m u hm).mono hnow.ge fun row hrow => ?_
        refine (hkeys row hrow).imp_right fun hall admin hof => hne ?_
        exact h.single m n u _ hm ha.before hclosed hopen (hall _ admin hof)
  spaced := hspaced

/-- The table is what it was. -/
theorem SinkInv.advance' (h : SinkInv w) (ha : Advances w.sink w'.sink n alert stage stage') (hopen : stage ≠ .closed)
    (hflight : w'.sink.inFlight = w.sink.inFlight) (hknows : Knows w' alert.key stage')
    (hrows : w'.notifications = w.notifications) (hnow : w'.now = w.now) : SinkInv w' :=
  h.advance ha hopen hflight hknows hnow (fun row hrow => .inl (hrows ▸ hrow))
    (by rw [hrows]; exact h.spaced)

/-- A row of one alert is of no other. -/
theorem isOf_notification {admin admin' : String} {sentAt : ℤ}
    (h : (alert.notification admin sentAt).isOf key admin') : key = alert.key ∧ admin' = admin := by
  obtain ⟨hadmin, htype, -, hname⟩ := h
  have hphase : key.phase = alert.key.phase := by
    have htype' : alert.key.phase.type = key.phase.type := htype
    cases hk : key.phase <;> cases ha : alert.key.phase <;> rw [hk, ha] at htype' <;> first | rfl | cases htype'
  cases key
  dsimp only at hphase
  cases hname
  rw [hphase]
  exact ⟨rfl, hadmin.symm⟩

/-- No notice is recent: those there are were sent before `since`. -/
theorem sentAt_lt_of_recent {admin : String} {since : ℤ} (h : w.recent key admin since = false) :
    ∀ row ∈ w.notifications, row.isOf key admin → row.sentAt < since := by
  intro row hrow hof
  rw [AlertWorld.recent, List.any_eq_false] at h
  have hnot := h row hrow
  simp only [decide_eq_true_eq, not_and, not_le] at hnot
  exact hnot hof

theorem SinkInv.insert (h : SinkInv w) {since : ℤ} {admin : String} {rest : List String}
    (ha : Advances w.sink w'.sink n alert (.write since admin rest false) (.write since admin rest true))
    (hflight : w'.sink.inFlight = w.sink.inFlight)
    (hrows : w'.notifications = w.notifications ++ [alert.notification admin w.now]) (hnow : w'.now = w.now) :
    SinkInv w' := by
  obtain ⟨hsince, hbefore⟩ := h.knows n _ ha.before
  refine h.advance ha nofun hflight ⟨hnow ▸ hsince, nofun⟩ hnow (fun row hrow => ?_) ?_
  · rw [hrows] at hrow
    rcases List.mem_append.mp hrow with hrow | hrow
    · exact .inl hrow
    · rw [List.mem_singleton] at hrow
      subst hrow
      exact .inr fun key admin' hof => (isOf_notification hof).1
  · rw [hrows, Spaced, List.pairwise_append]
    refine ⟨h.spaced, List.pairwise_singleton .., fun m hm new hnew key admin' hof hof' => ?_⟩
    rw [List.mem_singleton] at hnew
    subst hnew
    obtain ⟨rfl, rfl⟩ := isOf_notification hof'
    have hlt := hbefore rfl m hm hof
    show m.sentAt + ALERT_DEDUP_WINDOW_MS < w.now
    omega

/-- The task leaves the lock to others. -/
theorem SinkInv.close (h : SinkInv w) (ha : Advances w.sink w'.sink n alert .ended .closed)
    (hflight : w'.sink.inFlight = w.sink.inFlight.erase alert.key) (hrows : w'.notifications = w.notifications)
    (hnow : w'.now = w.now) : SinkInv w' where
  fresh n' hle := by
    rw [ha.launched] at hle
    have hne : n' ≠ n := by
      rintro rfl
      cases (h.fresh n' hle).symm.trans ha.before
    rw [ha.tasks, Function.update_of_ne hne]
    exact h.fresh n' hle
  flying n' t hn' hopen := by
    rcases ha.cases hn' with ⟨-, rfl⟩ | ⟨hne, hn'⟩
    · exact absurd rfl hopen
    · rw [hflight, Finset.mem_erase]
      exact ⟨fun hkey => hne (h.single n' n t _ hn' ha.before hopen nofun hkey), h.flying n' t hn' hopen⟩
  single m m' u u' hm hm' hu hu' hkey := by
    rcases ha.cases hm with ⟨-, rfl⟩ | ⟨-, hm⟩
    · exact absurd rfl hu
    · rcases ha.cases hm' with ⟨-, rfl⟩ | ⟨-, hm'⟩
      · exact absurd rfl hu'
      · exact h.single m m' u u' hm hm' hu hu' hkey
  knows m u hm := by
    rcases ha.cases hm with ⟨-, rfl⟩ | ⟨-, hm⟩
    · trivial
    · exact (h.knows m u hm).mono hnow.ge fun row hrow => .inl (hrows ▸ hrow)
  spaced := by rw [hrows]; exact h.spaced

theorem knows_next {since : ℤ} (rest : List String) (h : since + ALERT_DEDUP_WINDOW_MS ≤ w.now) :
    Knows w key (.next since rest) := by
  cases rest with
  | nil => trivial
  | cons admin rest => exact h

theorem sinkInv_move (h : SinkInv w) (hm : SinkMove w w') : SinkInv w' := by
  cases hm with
  | launch w' hl hrows hnow => exact h.launch hl hrows hnow
  | stop => exact h.same rfl rfl rfl rfl rfl
  | settleDrain d snapshot drained _ _ => exact h.same rfl rfl rfl rfl rfl
  | next w' n alert stage since rest ha hopen hflight hsince hrows hnow =>
    have hknown : since + ALERT_DEDUP_WINDOW_MS ≤ w.now := by
      have hold := h.knows n _ ha.before
      rcases hsince with hle | ⟨admin, rest, rfl⟩ | ⟨admin, rest, inserted, rfl⟩
      · exact hle
      · exact hold
      · exact hold.1
    exact h.advance' ha hopen hflight (knows_next rest (hnow ▸ hknown)) hrows hnow
  | failLaunch w' n alert ha hflight hrows hnow => exact h.advance' ha nofun hflight trivial hrows hnow
  | nothingRecent w' n alert since admin rest ha hflight hrecent hrows hnow =>
    have hold : since + ALERT_DEDUP_WINDOW_MS ≤ w.now := h.knows n _ ha.before
    refine h.advance' ha nofun hflight ⟨hnow ▸ hold, fun _ => ?_⟩ hrows hnow
    rw [hrows]
    exact sentAt_lt_of_recent hrecent
  | insert w' n alert since admin rest ha hflight hrows hnow => exact h.insert ha hflight hrows hnow
  | close w' n alert ha hflight hrows hnow => exact h.close ha hflight hrows hnow
  | tick ms =>
    have hle : w.now ≤ w.now + ms := le_add_of_nonneg_right (Int.natCast_nonneg ms)
    exact ⟨h.fresh, h.flying, h.single, fun n t hn => (h.knows n t hn).mono hle fun row hrow => .inl hrow,
      h.spaced⟩
  | notify row hrow =>
    have hnot : ∀ key admin, ¬ row.isOf key admin := fun key admin hof => hrow hof.2.2.1
    refine ⟨h.fresh, h.flying, h.single, fun n t hn => (h.knows n t hn).mono le_rfl fun r hr => ?_, ?_⟩
    · rcases List.mem_append.mp hr with hr | hr
      · exact .inl hr
      · rw [List.mem_singleton] at hr
        subst hr
        exact .inr (hnot _)
    · rw [Spaced, List.pairwise_append]
      refine ⟨h.spaced, List.pairwise_singleton .., fun m hm new hnew key admin _ hof => ?_⟩
      rw [List.mem_singleton] at hnew
      subst hnew
      exact absurd hof (hnot key admin)

/-! ### After `stop` -/

/-- Since a `stop` nothing is pending but what was, and after a clean one nothing is. -/
structure DrainInv (w : AlertWorld) : Prop where
  fresh : ∀ n, w.sink.launched ≤ n → w.sink.tasks n = none
  stopped : w.sink.drains ≠ [] → w.sink.stopped = true
  snapshot : ∀ d ∈ w.sink.drains, ∀ n t, w.sink.tasks n = some t → t.stage ≠ .closed → n ∈ d.snapshot
  drained : ∀ d ∈ w.sink.drains, d.settled = some true → ∀ n t, w.sink.tasks n = some t → t.stage = .closed

theorem mem_pending (hn : k.tasks n = some t) (hlt : n < k.launched) (hopen : t.stage ≠ .closed) : n ∈ k.pending := by
  rw [AlertSink.pending, List.mem_filter, hn]
  exact ⟨List.mem_range.mpr hlt, by simpa using hopen⟩

/-- The tasks that are open were open before, and nothing is launched. -/
theorem DrainInv.keep (h : DrainInv w) (hlaunched : w'.sink.launched = w.sink.launched)
    (hstopped : w'.sink.stopped = w.sink.stopped) (hdrains : w'.sink.drains = w.sink.drains)
    (htasks : ∀ n t, w'.sink.tasks n = some t → ∃ t₀, w.sink.tasks n = some t₀ ∧ (t₀.stage = .closed → t.stage = .closed)) :
    DrainInv w' where
  fresh n hle := by
    rw [hlaunched] at hle
    by_contra hsome
    obtain ⟨t, ht⟩ := Option.ne_none_iff_exists'.mp hsome
    obtain ⟨t₀, ht₀, -⟩ := htasks n t ht
    cases (h.fresh n hle).symm.trans ht₀
  stopped := by
    rw [hdrains, hstopped]
    exact h.stopped
  snapshot d hd n t hn hopen := by
    rw [hdrains] at hd
    obtain ⟨t₀, hn₀, hclosed⟩ := htasks n t hn
    exact h.snapshot d hd n t₀ hn₀ fun hc => hopen (hclosed hc)
  drained d hd hsettled n t hn := by
    rw [hdrains] at hd
    obtain ⟨t₀, hn₀, hclosed⟩ := htasks n t hn
    exact hclosed (h.drained d hd hsettled n t₀ hn₀)

theorem DrainInv.same (h : DrainInv w) (hlaunched : w'.sink.launched = w.sink.launched)
    (hstopped : w'.sink.stopped = w.sink.stopped) (hdrains : w'.sink.drains = w.sink.drains)
    (htasks : w'.sink.tasks = w.sink.tasks) : DrainInv w' :=
  h.keep hlaunched hstopped hdrains fun _ t hn => ⟨t, htasks ▸ hn, id⟩

theorem DrainInv.advance (h : DrainInv w) (ha : Advances w.sink w'.sink n alert stage stage')
    (hopen : stage ≠ .closed) : DrainInv w' := by
  refine h.keep ha.launched ha.stopped ha.drains fun m t hm => ?_
  rcases ha.cases hm with ⟨rfl, rfl⟩ | ⟨-, hm⟩
  · exact ⟨_, ha.before, fun hc => absurd hc hopen⟩
  · exact ⟨t, hm, id⟩

theorem drainInv_move (h : DrainInv w) (hm : SinkMove w w') : DrainInv w' := by
  cases hm with
  | launch w' hl _ _ =>
    generalize hk : w'.sink = k at hl
    cases hl with
    | none hstopped _ htasks hlaunched hdrains =>
      subst hk
      exact h.same hlaunched hstopped hdrains htasks
    | one alert hgoing _ _ _ htasks hlaunched hdrains =>
      subst hk
      have hnone : w.sink.drains = [] := by
        by_contra hsome
        rw [h.stopped hsome] at hgoing
        cases hgoing
      rw [hnone] at hdrains
      refine ⟨fun n hle => ?_, fun hsome => absurd hdrains hsome, ?_, ?_⟩
      · rw [hlaunched] at hle
        rw [htasks, Function.update_of_ne (by omega)]
        exact h.fresh n (by omega)
      · rw [hdrains]
        nofun
      · rw [hdrains]
        nofun
  | stop =>
    refine ⟨h.fresh, fun _ => rfl, fun d hd n t hn hopen => ?_, fun d hd hsettled n t hn => ?_⟩
    · have hlt : n < w.sink.launched := by
        by_contra hge
        cases (h.fresh n (by omega)).symm.trans hn
      rcases List.mem_append.mp hd with hd | hd
      · exact h.snapshot d hd n t hn hopen
      · rw [List.mem_singleton] at hd
        subst hd
        exact mem_pending hn hlt hopen
    · have hlt : n < w.sink.launched := by
        by_contra hge
        cases (h.fresh n (by omega)).symm.trans hn
      rcases List.mem_append.mp hd with hd | hd
      · exact h.drained d hd hsettled n t hn
      · rw [List.mem_singleton] at hd
        subst hd
        dsimp only at hsettled
        split_ifs at hsettled with hempty
        by_contra hopen
        have hmem : n ∈ w.sink.pending := mem_pending hn hlt hopen
        rw [hempty] at hmem
        cases hmem
  | settleDrain d snapshot drained hd hclosed =>
    have hmem : (⟨snapshot, none⟩ : SinkDrain) ∈ w.sink.drains := List.mem_of_getElem? hd
    have hcases : ∀ e ∈ w.sink.drains.set d ⟨snapshot, some drained⟩,
        e = ⟨snapshot, some drained⟩ ∨ e ∈ w.sink.drains := fun e he => (List.mem_or_eq_of_mem_set he).symm
    refine ⟨h.fresh, fun _ => h.stopped (List.ne_nil_of_mem hmem), fun e he n t hn hopen => ?_,
      fun e he hsettled n t hn => ?_⟩
    · rcases hcases e he with rfl | he
      · exact h.snapshot _ hmem n t hn hopen
      · exact h.snapshot e he n t hn hopen
    · rcases hcases e he with rfl | he
      · by_contra hopen
        have hin := h.snapshot _ hmem n t hn hopen
        have hstage := hclosed (Option.some.inj hsettled) n hin
        rw [hn] at hstage
        exact hopen (Option.some.inj hstage)
      · exact h.drained e he hsettled n t hn
  | next w' n alert stage since rest ha hopen _ _ _ _ => exact h.advance ha hopen
  | failLaunch w' n alert ha _ _ _ => exact h.advance ha nofun
  | nothingRecent w' n alert since admin rest ha _ _ _ _ => exact h.advance ha nofun
  | insert w' n alert since admin rest ha _ _ _ => exact h.advance ha nofun
  | close w' n alert ha _ _ _ => exact h.advance ha nofun
  | tick ms => exact h.same rfl rfl rfl rfl
  | notify row _ => exact h.same rfl rfl rfl rfl

/-- The rows of the sink. -/
def AlertWorld.notices (w : AlertWorld) : List Notification :=
  w.notifications.filter fun row => row.referenceType = some MAINTENANCE_ALERT_REFERENCE_TYPE

/-- A `stop` has reported that it is drained. -/
def AlertWorld.Drained (w : AlertWorld) : Prop := ∃ d ∈ w.sink.drains, d.settled = some true

/-- A drained sink neither writes nor becomes anything else. -/
theorem notices_move (h : DrainInv w) (hdrained : w.Drained) (hm : SinkMove w w') :
    w'.notices = w.notices ∧ w'.Drained := by
  obtain ⟨d, hd, hsettled⟩ := hdrained
  have hclosed := h.drained d hd hsettled
  have hkeeps : ∀ {n alert stage stage'}, Advances w.sink w'.sink n alert stage stage' → stage ≠ .closed →
      w'.notices = w.notices ∧ w'.Drained := fun ha hopen => absurd (hclosed _ _ ha.before) hopen
  cases hm with
  | launch w' hl hrows _ =>
    rw [AlertWorld.notices, hrows]
    refine ⟨rfl, d, ?_, hsettled⟩
    generalize hk : w'.sink = k at hl
    cases hl with
    | none _ _ _ _ hdrains => exact hdrains ▸ hd
    | one _ _ _ _ _ _ _ hdrains => exact hdrains ▸ hd
  | stop => exact ⟨rfl, d, List.mem_append_left _ hd, hsettled⟩
  | settleDrain e snapshot drained he _ =>
    refine ⟨rfl, d, ?_, hsettled⟩
    obtain ⟨i, hlt, hi⟩ := List.getElem_of_mem hd
    have hne : e ≠ i := by
      rintro rfl
      rw [List.getElem?_eq_getElem hlt, hi] at he
      cases he
      cases hsettled
    have hget : (w.sink.drains.set e ⟨snapshot, some drained⟩)[i]? = some d := by
      rw [List.getElem?_set_ne hne, List.getElem?_eq_getElem hlt, hi]
    exact List.mem_of_getElem? hget
  | next w' n alert stage since rest ha hopen _ _ _ _ => exact hkeeps ha hopen
  | failLaunch w' n alert ha _ _ _ => exact hkeeps ha nofun
  | nothingRecent w' n alert since admin rest ha _ _ _ _ => exact hkeeps ha nofun
  | insert w' n alert since admin rest ha _ _ _ => exact hkeeps ha nofun
  | close w' n alert ha _ _ _ => exact hkeeps ha nofun
  | tick ms => exact ⟨rfl, d, hd, hsettled⟩
  | notify row hrow =>
    refine ⟨?_, d, hd, hsettled⟩
    rw [AlertWorld.notices, List.filter_append, AlertWorld.notices]
    simp [hrow]

end

/-! ### The main results -/

section
variable {w w' w'' : AlertWorld} {as bs : List SinkAct}

theorem sinkInv_start (hstart : w.sink = createAlertSink) (hspaced : Spaced w.notifications) : SinkInv w where
  fresh := by simp [hstart, createAlertSink]
  flying := by simp [hstart, createAlertSink]
  single := by simp [hstart, createAlertSink]
  knows := by simp [hstart, createAlertSink]
  spaced := hspaced

theorem drainInv_start (hstart : w.sink = createAlertSink) : DrainInv w where
  fresh := by simp [hstart, createAlertSink]
  stopped := by simp [hstart, createAlertSink]
  snapshot := by simp [hstart, createAlertSink]
  drained := by simp [hstart, createAlertSink]

/-- CORRECT: whatever the tasks, the sweeps and the clock do meanwhile, two notices of one alert to one admin are
    more than the window apart, and no two tasks of one alert are under way. -/
theorem notices_spaced (hstart : w.sink = createAlertSink) (hspaced : Spaced w.notifications)
    (h : run sinkStep w as = some w') :
    Spaced w'.notifications ∧ ∀ n n' t t', w'.sink.tasks n = some t → w'.sink.tasks n' = some t' →
      t.stage ≠ .closed → t'.stage ≠ .closed → t.alert.key = t'.alert.key → n = n' := by
  have hinv : SinkInv w' :=
    run_invariant (fun _ _ _ hi hs => sinkInv_move hi (sinkStep_cases hs)) (sinkInv_start hstart hspaced) h
  exact ⟨hinv.spaced, hinv.single⟩

/-- CORRECT: once a `stop` has reported that it is drained, the sink never writes again. -/
theorem silent_after_drain (hstart : w.sink = createAlertSink) (h : run sinkStep w as = some w') (hdrained : w'.Drained)
    (hrest : run sinkStep w' bs = some w'') : w''.notices = w'.notices := by
  have hinv : DrainInv w' :=
    run_invariant (fun _ _ _ hi hs => drainInv_move hi (sinkStep_cases hs)) (drainInv_start hstart) h
  have hend : DrainInv w'' ∧ w''.Drained ∧ w''.notices = w'.notices := by
    refine run_invariant (I := fun u => DrainInv u ∧ u.Drained ∧ u.notices = w'.notices) (fun u a v hu hs => ?_)
      ⟨hinv, hdrained, rfl⟩ hrest
    obtain ⟨hrows, hstill⟩ := notices_move hu.1 hu.2.1 (sinkStep_cases hs)
    exact ⟨drainInv_move hu.1 (sinkStep_cases hs), hstill, hrows.trans hu.2.2⟩
  exact hend.2.2

/-- Two failing runs, between them the time of the window. -/
def twoAlerts : List SinkAct :=
  [.hear (.launch (.alertDegraded "outbox-reconcile" 3)), .admins 0 (some ["admin-1"]), .found 0 true,
    .hear (.launch (.alertDegraded "outbox-reconcile" 4)), .insert 0, .written 0 true, .close 0,
    .hear (.launch (.alertDegraded "outbox-reconcile" 5)), .admins 1 (some ["admin-1"]), .found 1 true, .close 1,
    .tick 900001, .hear (.launch (.alertDegraded "outbox-reconcile" 6)), .admins 2 (some ["admin-1"]), .found 2 true,
    .insert 2, .written 2 true, .close 2]

theorem notices_spaced_twoAlerts : ∃ w', run sinkStep ⟨createAlertSink, [], 0⟩ twoAlerts = some w' ∧
    w'.notifications.length = 2 ∧ Spaced w'.notifications := by
  have h : run sinkStep ⟨createAlertSink, [], 0⟩ twoAlerts = some _ := rfl
  exact ⟨_, h, rfl, (notices_spaced (w := ⟨createAlertSink, [], 0⟩) rfl List.Pairwise.nil h).1⟩

theorem silent_after_drain_stopped : ∃ w' w'', run sinkStep ⟨createAlertSink, [], 0⟩ (twoAlerts ++ [.stop]) = some w' ∧
    run sinkStep w' [.hear (.launch (.alertDegraded "claim-stale" 3)), .tick 1] = some w'' ∧
      w''.notices = w'.notices := by
  have h : run sinkStep ⟨createAlertSink, [], 0⟩ (twoAlerts ++ [.stop]) = some _ := rfl
  refine ⟨_, _, h, rfl, ?_⟩
  exact silent_after_drain rfl h ⟨⟨[], some true⟩, List.mem_singleton_self _, rfl⟩
    (show run sinkStep _ [.hear (.launch (.alertDegraded "claim-stale" 3)), .tick 1] = some _ from rfl)

end

end Redeemo.Maintenance
