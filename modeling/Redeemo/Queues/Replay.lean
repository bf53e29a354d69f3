import Redeemo.Lib.JobQueue
import Redeemo.Lib.Records
import Redeemo.Queues.Outbox

/-! The outbox together with the queue of its jobs.

    The id of a row is the id of its job. A job runs as the call that sends its row; a failed attempt is reported to
    the call that closes the row after the last one. A notification and the reconciler enqueue the id of a row, and
    the queue takes it for a duplicate as long as it retains a job of that id, also one that has failed. -/

namespace Redeemo.Outbox.Replay
open ReadCommitted Runs JobQueue

def DEFAULT_JOB_OPTIONS : Options := ⟨3, 1000, 5000⟩

/-- `enqueue` and the queue itself take this for the id of a job. -/
def Enqueueable (jobId : String) : Prop := Records.trim jobId ≠ "" ∧ ':' ∉ jobId.toList

instance : DecidablePred Enqueueable := fun _ => inferInstanceAs (Decidable (_ ∧ _))

structure World (ι : Type*) where
  outbox : Store ι
  queue : Queue ι String

inductive Act
  /-- A step of a call that is not an enqueueing. -/
  | db (a : Outbox.Act)
  /-- The queue is asked to add a job: whether it has landed there, and whether the caller is told so. -/
  | enqueue (landed ok : Bool)
  /-- A worker takes a job up. -/
  | take
  | promote (id : String)
  /-- The queue learns that an attempt has ended. -/
  | finish

/-- Whether an attempt that ends by this step has returned; else it has thrown. -/
def returned : Outbox.Act → Bool
  | .abandon | .send _ .failed => false
  | _ => true

variable {ι : Type*} [DecidableEq ι]

/-- The worker of a job is at its attempt. -/
def Runs (q : Queue ι String) (i : ι) (id : String) : Prop :=
  (q.live id).map Job.state = some (.active i none)

instance (q : Queue ι String) (i : ι) (id : String) : Decidable (Runs q i id) :=
  inferInstanceAs (Decidable (_ = _))

/-- What a step of a call in the database, or at the provider, means to the queue. -/
def queueAfter (call : Call) (i : ι) (q : Queue ι String) (p : Phase) (a : Outbox.Act) (p' : Phase) :
    Option (Queue ι String) :=
  match call, p, a with
  | _, _, .enqueue | _, _, .reenqueue => none
  | .processEmailJob id, _, _ =>
    if Runs q i id then some (if p' = .over then q.settle i id (returned a) else q) else none
  | .onEmailJobFailed id attemptsMade maxAttempts, .start, .read =>
    if (id, attemptsMade) ∈ q.events ∧ maxAttempts = DEFAULT_JOB_OPTIONS.attempts then
      some { q with events := q.events.erase (id, attemptsMade) }
    else none
  | _, _, _ => some q

/-- The id of a row goes to the queue. -/
def enqueue (q : Queue ι String) (id : String) (landed ok : Bool) : Option (Queue ι String) :=
  if (ok = true → landed = true) ∧ (landed = true → Enqueueable id) then some (if landed = true then q.add id else q)
  else none

def next (call : Call) (i : ι) (w : World ι) (p : Phase) : Act → Option (World ι × Phase)
  | .db a =>
    (Outbox.next call i w.outbox p a).bind fun r =>
      (queueAfter call i w.queue p a r.2).map fun q => (⟨r.1, q⟩, r.2)
  | .enqueue landed ok =>
    match p with
    | .created id => (enqueue w.queue id landed ok).map fun q => (⟨w.outbox, q⟩, .over)
    | .selected (id :: ids) => (enqueue w.queue id landed ok).map fun q => (⟨w.outbox, q⟩, .selected ids)
    | _ => none
  | .take =>
    match call, p with
    | .processEmailJob id, .start => (w.queue.take i id).map fun q => (⟨w.outbox, q⟩, p)
    | _, _ => none
  | .promote id => (w.queue.promote id).map fun q => (⟨w.outbox, q⟩, p)
  | .finish =>
    match call with
    | .processEmailJob id => (w.queue.finish DEFAULT_JOB_OPTIONS i id).map fun q => (⟨w.outbox, q⟩, p)
    | _ => none

def step (calls : ι → Call) : Pool ι (World ι) Phase → ι × Act → Option (Pool ι (World ι) Phase) :=
  poolStep fun i => next (calls i) i

def opened : Pool ι (World ι) Phase := ⟨⟨Outbox.opened.store, .empty⟩, fun _ => .start⟩

/-! ### The rows under the queue -/

/-- The outbox alone. -/
def project (s : Pool ι (World ι) Phase) : Pool ι (Store ι) Phase := ⟨s.store.outbox, s.proc⟩

variable {calls : ι → Call} {call : Call} {i : ι} {w w' : World ι} {p p' : Phase} {a : Act}
  {s s' : Pool ι (World ι) Phase}

/-- A step of a call is one of the outbox, or leaves the rows and the store of the outbox as they are. -/
theorem outbox_of_next (h : next call i w p a = some (w', p')) :
    (∃ b, Outbox.next call i w.outbox p b = some (w'.outbox, p')) ∨ w'.outbox = w.outbox ∧ p' = p := by
  revert h
  fun_cases next with
  | case1 b =>
    intro h
    obtain ⟨⟨x, l⟩, hn, hq⟩ := Option.bind_eq_some_iff.mp h
    obtain ⟨q, -, ⟨⟩⟩ := Option.map_eq_some_iff.mp hq
    exact .inl ⟨_, hn⟩
  | case2 landed ok id =>
    intro h
    obtain ⟨q, -, ⟨⟩⟩ := Option.map_eq_some_iff.mp h
    exact .inl ⟨.enqueue, rfl⟩
  | case3 landed ok id ids =>
    intro h
    obtain ⟨q, -, ⟨⟩⟩ := Option.map_eq_some_iff.mp h
    exact .inl ⟨.reenqueue, rfl⟩
  | case4 => rintro ⟨⟩
  | case6 => rintro ⟨⟩
  | case9 => rintro ⟨⟩
  | _ =>
    intro h
    obtain ⟨q, -, ⟨⟩⟩ := Option.map_eq_some_iff.mp h
    exact .inr ⟨rfl, rfl⟩

theorem project_step {a : ι × Act} (h : step calls s a = some s') :
    (∃ b, Outbox.step calls (project s) (a.1, b) = some (project s')) ∨ project s' = project s := by
  obtain ⟨x, l, hn, rfl⟩ := poolStep_eq_some.mp h
  obtain ⟨b, hb⟩ | ⟨hx, hl⟩ := outbox_of_next hn
  · exact .inl ⟨b, poolStep_eq_some.mpr ⟨x.outbox, l, hb, rfl⟩⟩
  · refine .inr ?_
    simp [project, hx, hl]

theorem sound_of_step {a : ι × Act} (hs : Sound calls (project s)) (h : step calls s a = some s') :
    Sound calls (project s') := by
  obtain ⟨b, hb⟩ | he := project_step h
  · exact sound_step _ _ _ hs hb
  · rw [he]
    exact hs

theorem later_of_step {a : ι × Act} (hs : Sound calls (project s)) (h : step calls s a = some s') (id : String) :
    Later (s.store.outbox.logs.rows id) (s'.store.outbox.logs.rows id) := by
  obtain ⟨b, hb⟩ | he := project_step h
  · exact later_of_run hs (run_cons_eq_some.mpr ⟨_, hb, run_nil ..⟩) id
  · have hstore : s'.store.outbox = s.store.outbox := congrArg Pool.store he
    rw [hstore]
    exact fun row hr => ⟨row, hr, .inl rfl⟩

/-! ### Attempts that return -/

/-- The row is there, and not QUEUED any more. -/
def Closed (r : Option CommunicationLog) : Prop := ∃ row, r = some row ∧ row.status ≠ .QUEUED

variable {r r' : Option CommunicationLog} {id : String} {store store' : Store ι} {expires : ι → Prop}

theorem Closed.later (h : Closed r) (hl : Later r r') : Closed r' := by
  obtain ⟨row, hr, hst⟩ := h
  obtain ⟨row', hr', rfl | ⟨hq, -⟩⟩ := hl row hr
  · exact ⟨row', hr', hst⟩
  · exact absurd hq hst

theorem closed_of_not_queued (hr : r ≠ none) (hq : ¬ Queued r) : Closed r := by
  obtain ⟨row, rfl⟩ := Option.ne_none_iff_exists'.mp hr
  exact ⟨row, rfl, fun hst => hq ⟨row, rfl, hst⟩⟩

theorem ne_none_of_later (hr : r ≠ none) (hl : Later r r') : r' ≠ none := by
  obtain ⟨row, rfl⟩ := Option.ne_none_iff_exists'.mp hr
  obtain ⟨row', rfl, -⟩ := hl row rfl
  exact Option.some_ne_none _

omit [DecidableEq ι] in
/-- Those who do not expire rows hold none. -/
theorem free_of_not_expires {c : Cell ι (Option CommunicationLog)} (h : RowInv expires id c) (hi : ¬ expires i) :
    c.Free i := by
  intro w hw
  cases h with
  | absent => cases hw
  | row => cases hw
  | held j row hj =>
    cases hw
    exact hi hj

theorem closed_updateMany {t t' : Table ι String CommunicationLog} {data : Terminal} {now : ℤ}
    (ht : RowInv expires id (t.cell id)) (hi : ¬ expires i) (hr : t.rows id ≠ none)
    (h : updateMany t i id data now = some t') : Closed (t'.rows id) := by
  obtain ⟨⟨d, b⟩, hd, rfl⟩ := Option.map_eq_some_iff.mp h
  have hfree := free_of_not_expires ht hi
  simp only [Table.rows, Function.update_self]
  obtain ⟨-, ⟨row, hrow, hq⟩, -, rfl⟩ | ⟨-, hno, rfl⟩ := Cell.updateWhere_cases hd
  · rw [Cell.commit_of_held rfl, hrow]
    exact ⟨_, rfl, (write_status data now row).2.1⟩
  · rw [Cell.read_of_free hfree] at hno
    rw [Cell.commit_of_free hfree]
    exact closed_of_not_queued hr hno

theorem afterRead_over (h : afterRead r = .over) : ¬ Queued r := by
  rintro ⟨row, hr, hq⟩
  obtain rfl : r = some row := hr
  simp only [afterRead, hq, ne_eq, not_true_eq_false, if_false] at h
  split at h
  · cases h
  · split_ifs at h

/-- An attempt that has returned leaves its row closed. -/
theorem closed_of_returned {b : Outbox.Act} (hs : Inv expires store) (hi : ¬ expires i)
    (hr : store.logs.rows id ≠ none) (hb : returned b = true) (hne : b ≠ .enqueue)
    (h : Outbox.next (.processEmailJob id) i store p b = some (store', .over)) : Closed (store'.logs.rows id) := by
  have hfree := free_of_not_expires (hs.rows id) hi
  generalize hcall : Call.processEmailJob id = call at h
  revert h
  fun_cases Outbox.next with
  | case4 => exact absurd rfl hne
  | case5 key =>
    cases hcall
    intro h
    obtain ⟨hstore, hover⟩ := Prod.mk.inj (Option.some.inj h)
    subst hstore
    rw [Table.read, Cell.read_of_free hfree] at hover
    exact closed_of_not_queued hr (afterRead_over hover)
  | case6 => cases hcall
  | case9 payload env reply key request =>
    cases reply with
    | accepted => rintro ⟨⟩
    | failed => cases hb
  | case11 data now key =>
    cases hcall
    intro h
    obtain ⟨logs, hw, ⟨⟩⟩ := Option.map_eq_some_iff.mp h
    exact closed_updateMany (hs.rows id) hi hr hw
  | case12 => cases hcall
  | case16 =>
    intro h
    obtain ⟨r, -, hover⟩ := Option.map_eq_some_iff.mp h
    cases hover
  | case22 => cases hb
  | _ => rintro ⟨⟩

/-! ### The queue over a whole run -/

/-- What goes to the queue next is the id of a row. -/
def Enqueues (store : Store ι) : Phase → Prop
  | .created id => store.logs.rows id ≠ none
  | .selected ids => ∀ id ∈ ids, store.logs.rows id ≠ none
  | _ => True

omit [DecidableEq ι] in
theorem enqueues_afterRead (r : Option CommunicationLog) : Enqueues store (afterRead r) := by
  fun_cases afterRead <;> trivial

theorem commit_ne_none {c : Cell ι (Option CommunicationLog)} (h : RowInv expires id c)
    (hr : c.read i ≠ none) : (c.commit i).committed ≠ none := by
  cases h with
  | absent => exact absurd rfl hr
  | row row =>
    rw [Cell.commit_of_free (Cell.free_of_held_none rfl)]
    exact Option.some_ne_none row
  | held j row =>
    by_cases hj : j = i
    · subst hj
      rw [Cell.commit_of_held rfl]
      exact Option.some_ne_none _
    · simp [Cell.commit, hj]

theorem enqueues_of_next {b : Outbox.Act} (hs : Inv expires store) (hp : Enqueues store p)
    (h : Outbox.next call i store p b = some (store', p')) : Enqueues store' p' := by
  revert h
  fun_cases Outbox.next with
  | case1 key now email hg =>
    rintro ⟨⟩
    simp [Enqueues, Table.rows_insert]
  | case5 key =>
    rintro ⟨⟩
    exact enqueues_afterRead _
  | case6 =>
    rintro ⟨⟩
    split_ifs <;> trivial
  | case9 payload env reply key request hreq =>
    rintro ⟨⟩
    cases reply <;> trivial
  | case11 =>
    intro h
    obtain ⟨logs, -, ⟨⟩⟩ := Option.map_eq_some_iff.mp h
    trivial
  | case12 =>
    intro h
    obtain ⟨logs, -, ⟨⟩⟩ := Option.map_eq_some_iff.mp h
    trivial
  | case16 =>
    intro h
    obtain ⟨r, -, ⟨⟩⟩ := Option.map_eq_some_iff.mp h
    trivial
  | case18 =>
    rename_i hg
    rintro ⟨⟩
    intro id hid
    obtain ⟨row, hr, -⟩ := hg.2.2 id hid
    exact commit_ne_none (hs.rows id) (Option.ne_none_iff_exists'.mpr ⟨row, hr⟩)
  | case20 key ids =>
    rintro ⟨⟩
    exact fun id hid => hp id (List.mem_cons_of_mem _ hid)
  | _ => rintro ⟨⟩ <;> trivial

/-- Every job has its row; an attempt that has returned, and a job that has completed, has it closed. -/
structure Kept (w : World ι) : Prop where
  queue : w.queue.Sound
  rows : ∀ id, w.queue.Knows id → w.outbox.logs.rows id ≠ none
  completed : ∀ id ∈ w.queue.completed, Closed (w.outbox.logs.rows id)
  returned : ∀ id j n, w.queue.live id = some ⟨.active j (some true), n⟩ → Closed (w.outbox.logs.rows id)

omit [DecidableEq ι] in
/-- Rows go on, and the job of one of them changes. -/
theorem Kept.touch (hw : Kept w) (hlater : ∀ id, Later (w.outbox.logs.rows id) (w'.outbox.logs.rows id))
    {key : String} (hrow : w'.queue.Knows key → w'.outbox.logs.rows key ≠ none)
    (ht : Queue.Touches (Closed (w'.outbox.logs.rows key)) key w.queue w'.queue) : Kept w' := by
  have hreturned : ∀ id j n, w'.queue.live id = some ⟨.active j (some true), n⟩ →
      Closed (w'.outbox.logs.rows id) := by
    intro id j n hl
    rcases eq_or_ne id key with rfl | hne
    · obtain hold | hclosed := ht.returned j n hl
      · exact (hw.returned id j n hold).later (hlater id)
      · exact hclosed
    · rw [ht.frame id hne] at hl
      exact (hw.returned id j n hl).later (hlater id)
  refine ⟨ht.sound hw.queue, fun id hid => ?_, fun id hid => ?_, hreturned⟩
  · rcases eq_or_ne id key with rfl | hne
    · exact hrow hid
    · exact ne_none_of_later (hw.rows id ((ht.knows hid).resolve_right hne)) (hlater id)
  · obtain hold | ⟨rfl, -, j, n, hl⟩ := ht.completed id hid
    · exact (hw.completed id hold).later (hlater id)
    · exact (hw.returned id j n hl).later (hlater id)

omit [DecidableEq ι] in
theorem knows_of_live {q : Queue ι String} {job : Option (Job ι)} (h : q.live id = job) (hj : job ≠ none) :
    q.Knows id := by
  refine .inl ?_
  rw [h]
  exact Option.isSome_iff_ne_none.mpr hj

omit [DecidableEq ι] in
theorem knows_of_take {q q' : Queue ι String} (h : q.take i id = some q') : q.Knows id := by
  revert h
  fun_cases Queue.take with
  | case1 n hl => exact fun _ => knows_of_live hl (Option.some_ne_none _)
  | case2 => rintro ⟨⟩

omit [DecidableEq ι] in
theorem knows_of_promote {q q' : Queue ι String} (h : q.promote id = some q') : q.Knows id := by
  revert h
  fun_cases Queue.promote with
  | case1 n hl => exact fun _ => knows_of_live hl (Option.some_ne_none _)
  | case2 => rintro ⟨⟩

theorem knows_of_finish {q q' : Queue ι String} {o : Options} (h : q.finish o i id = some q') : q.Knows id := by
  revert h
  fun_cases Queue.finish with
  | case1 n hl => exact fun _ => knows_of_live hl (Option.some_ne_none _)
  | case3 n hl => exact fun _ => knows_of_live hl (Option.some_ne_none _)
  | _ => rintro ⟨⟩

/-- What a step of a call does to the queue. -/
theorem touches_queueAfter {b : Outbox.Act} {q : Queue ι String} (hw : Kept w) (hs : Inv expires w.outbox)
    (hi : ∀ id, call = .processEmailJob id → ¬ expires i)
    (hn : Outbox.next call i w.outbox p b = some (store, p')) (h : queueAfter call i w.queue p b p' = some q) :
    ∃ key, (q.Knows key → w.queue.Knows key) ∧ Queue.Touches (Closed (store.logs.rows key)) key w.queue q := by
  revert h
  fun_cases queueAfter with
  | case3 =>
    rename_i key hruns hno hno'
    intro h
    obtain rfl := Option.some.inj h
    have hknows : w.queue.Knows key := by
      obtain ⟨job, hl, -⟩ := Option.map_eq_some_iff.mp hruns
      exact knows_of_live hl (Option.some_ne_none job)
    refine ⟨key, fun _ => hknows, ?_⟩
    split_ifs with hover
    · subst hover
      exact (Queue.touches_settle hw.queue _).mono fun hb =>
        closed_of_returned hs (hi key rfl) (hw.rows key hknows) hb hno hn
    · exact Queue.touches_events hw.queue _
  | case5 id =>
    rintro ⟨⟩
    exact ⟨id, fun h => h, Queue.touches_events hw.queue _⟩
  | case7 =>
    rintro ⟨⟩
    exact ⟨"", fun h => h, Queue.touches_events hw.queue _⟩
  | _ => rintro ⟨⟩

omit [DecidableEq ι] in
/-- What an enqueueing does to it. -/
theorem touches_enqueue {returns : Prop} {q q' : Queue ι String} {landed ok : Bool} (hq : q.Sound)
    (h : enqueue q id landed ok = some q') : Queue.Touches returns id q q' := by
  rw [enqueue] at h
  split_ifs at h with hg hl
  · cases h
    exact Queue.touches_add hq
  · cases h
    exact Queue.touches_events hq _

/-- The invariant of the outbox with its queue. -/
def Whole (calls : ι → Call) (s : Pool ι (World ι) Phase) : Prop :=
  Sound calls (project s) ∧ Kept s.store ∧ ∀ i, Enqueues s.store.outbox (s.proc i)

theorem kept_of_next (hs : Inv expires w.outbox) (hw : Kept w) (hi : ∀ id, call = .processEmailJob id → ¬ expires i)
    (hp : Enqueues w.outbox p)
    (hlater : ∀ id, Later (w.outbox.logs.rows id) (w'.outbox.logs.rows id))
    (h : next call i w p a = some (w', p')) : Kept w' := by
  revert h
  fun_cases next with
  | case1 b =>
    intro h
    obtain ⟨⟨x, l⟩, hn, hq⟩ := Option.bind_eq_some_iff.mp h
    obtain ⟨q, hafter, ⟨⟩⟩ := Option.map_eq_some_iff.mp hq
    obtain ⟨key, hknows, ht⟩ := touches_queueAfter hw hs hi hn hafter
    exact hw.touch hlater (fun hk => ne_none_of_later (hw.rows key (hknows hk)) (hlater key)) ht
  | case2 landed ok =>
    intro h
    obtain ⟨q, hq, ⟨⟩⟩ := Option.map_eq_some_iff.mp h
    exact hw.touch hlater (fun _ => hp) (touches_enqueue hw.queue hq)
  | case3 landed ok =>
    intro h
    obtain ⟨q, hq, ⟨⟩⟩ := Option.map_eq_some_iff.mp h
    exact hw.touch hlater (fun _ => hp _ (List.mem_cons_self ..)) (touches_enqueue hw.queue hq)
  | case5 =>
    intro h
    obtain ⟨q, hq, ⟨⟩⟩ := Option.map_eq_some_iff.mp h
    exact hw.touch hlater (fun _ => hw.rows _ (knows_of_take hq)) (Queue.touches_take hw.queue hq)
  | case7 =>
    intro h
    obtain ⟨q, hq, ⟨⟩⟩ := Option.map_eq_some_iff.mp h
    exact hw.touch hlater (fun _ => hw.rows _ (knows_of_promote hq)) (Queue.touches_promote hw.queue hq)
  | case8 =>
    intro h
    obtain ⟨q, hq, ⟨⟩⟩ := Option.map_eq_some_iff.mp h
    exact hw.touch hlater (fun _ => hw.rows _ (knows_of_finish hq)) (Queue.touches_finish hw.queue hq)
  | _ => rintro ⟨⟩

theorem whole_step (s : Pool ι (World ι) Phase) (a : ι × Act) (s' : Pool ι (World ι) Phase) (hs : Whole calls s)
    (h : step calls s a = some s') : Whole calls s' := by
  obtain ⟨hsound, hkept, henq⟩ := hs
  have hlater := later_of_step hsound h
  refine ⟨sound_of_step hsound h, ?_⟩
  obtain ⟨x, l, hn, rfl⟩ := poolStep_eq_some.mp h
  have hother : ∀ id, calls a.1 = .processEmailJob id → ¬ calls a.1 = .reconcile := by
    intro id hcall
    simp [hcall]
  refine ⟨kept_of_next hsound.1 hkept hother (henq a.1) hlater hn, ?_⟩
  refine (Function.forall_update_iff _ fun i => Enqueues x.outbox).mpr ⟨?_, fun j _ => ?_⟩
  · obtain ⟨b, hb⟩ | ⟨hx, rfl⟩ := outbox_of_next hn
    · exact enqueues_of_next hsound.1 (henq a.1) hb
    · rw [hx]
      exact henq a.1
  · have hj := henq j
    revert hj
    cases s.proc j with
    | created id => exact fun hj => ne_none_of_later hj (hlater id)
    | selected ids => exact fun hj id hid => ne_none_of_later (hj id hid) (hlater id)
    | _ => exact fun _ => trivial

omit [DecidableEq ι] in
theorem whole_opened : Whole calls opened := by
  refine ⟨sound_opened, ⟨?_, ?_, ?_, ?_⟩, fun _ => trivial⟩
  · rintro id (hid | hid) <;> cases hid
  · rintro id (hid | hid | hid) <;> cases hid
  · intro id hid
    cases hid
  · intro id j n hl
    cases hl

/-! ### Replays -/

/-- The reconciler enqueues the id of a row that is QUEUED again, and is told that this has succeeded. -/
def Reenqueues (s : Pool ι (World ι) Phase) (a : ι × Act) (id : String) : Prop :=
  (∃ ids, s.proc a.1 = .selected (id :: ids)) ∧ a.2 = .enqueue true true ∧ Enqueueable id ∧
    Queued (s.store.outbox.logs.rows id)

/-- There is a job afterwards that waits, is delayed or is worked on. -/
def Replayed (calls : ι → Call) (s : Pool ι (World ι) Phase) (a : ι × Act) : Prop :=
  ∀ id, Reenqueues s a id → ∃ s', step calls s a = some s' ∧ (s'.store.queue.live id).isSome = true

/-- The queue does not retain a failed job of that id. -/
def NoneFailed (s : Pool ι (World ι) Phase) (a : ι × Act) : Prop :=
  ∀ id, Reenqueues s a id → id ∉ s.store.queue.failed

theorem step_reenqueues (calls : ι → Call) {a : ι × Act} (h : Reenqueues s a id) : ∃ ids, step calls s a =
    some ⟨⟨s.store.outbox, s.store.queue.add id⟩, Function.update s.proc a.1 (.selected ids)⟩ := by
  obtain ⟨⟨ids, hp⟩, ha, hid, -⟩ := h
  refine ⟨ids, ?_⟩
  simp [step, poolStep, ha, next, hp, enqueue, hid]

theorem replayed_iff {a : ι × Act} (hs : Whole calls s) : Replayed calls s a ↔ NoneFailed s a := by
  refine forall_congr' fun id => forall_congr' fun hre => ?_
  obtain ⟨ids, hstep⟩ := step_reenqueues calls hre
  obtain ⟨-, -, -, row, hr, hq⟩ := hre
  have hnot : id ∉ s.store.queue.completed := by
    intro hc
    obtain ⟨row', hr', hst⟩ := hs.2.1.completed id hc
    cases hr.symm.trans hr'
    exact hst hq
  rw [hstep]
  simp only [Option.some.injEq, exists_eq_left']
  rw [Queue.live_add hs.2.1.queue, and_iff_right hnot]

/-- In every run of notifications, attempts, closings and passes of the reconciler: each re-enqueueing of a QUEUED
    row that succeeds leaves a runnable job for it exactly if the queue retains no failed job of the row at that
    time. -/
theorem replayed_iff_noneFailed (calls : ι → Call) (as : List (ι × Act)) :
    Along (step calls) (Replayed calls) opened as ↔ Along (step calls) NoneFailed opened as :=
  ⟨fun h => h.imp whole_opened (fun s a s' hs _ => whole_step s a s' hs) fun _ _ hs => (replayed_iff hs).mp,
    fun h => h.imp whole_opened (fun s a s' hs _ => whole_step s a s' hs) fun _ _ hs => (replayed_iff hs).mpr⟩

/-- Three attempts for one row, the report of the last, and a pass of the reconciler. -/
def exhausted : ℕ → Call
  | 0 => .notify ⟨"a@example.com", "Welcome", "<p>Hello</p>", none, none, none⟩
  | 1 | 2 | 3 => .processEmailJob "log-1"
  | 4 => .onEmailJobFailed "log-1" 3 3
  | _ => .reconcile

/-- An attempt that the provider refuses. -/
def refused (i : ℕ) : List (ℕ × Act) :=
  [(i, .take), (i, .db .read), (i, .db (.send enabled .failed)), (i, .finish)]

/-- The provider refuses three times, and the FAILED write fails. -/
def exhaustedRun : List (ℕ × Act) :=
  [(0, .db (.create "log-1" 0)), (0, .enqueue true true)] ++ refused 1 ++ (1, .promote "log-1") :: refused 2 ++
    (2, .promote "log-1") :: refused 3 ++ [(4, .db .read), (4, .db .abandon), (5, .db (.scan 200000)),
    (5, .db (.select ["log-1"]))]

/-- The reconciler enqueues the QUEUED row again, and no job comes of it. -/
theorem exhausted_not_replayed :
    ¬ Along (step exhausted) (Replayed exhausted) opened (exhaustedRun ++ [(5, .enqueue true true)]) := by
  intro h
  obtain ⟨s, hs, hp, ⟨row, hr, hq⟩, hfailed, hlive⟩ : ∃ s, run (step exhausted) opened exhaustedRun = some s ∧
      s.proc 5 = .selected ["log-1"] ∧ Queued (s.store.outbox.logs.rows "log-1") ∧
      s.store.queue.failed = ["log-1"] ∧ s.store.queue.live "log-1" = none :=
    ⟨_, rfl, rfl, ⟨_, rfl, rfl⟩, rfl, rfl⟩
  have hre : Reenqueues s (5, .enqueue true true) "log-1" := ⟨⟨[], hp⟩, rfl, by decide, row, hr, hq⟩
  obtain ⟨ids, hstep⟩ := step_reenqueues exhausted hre
  obtain ⟨s', hs', hjob⟩ := (h.of_append hs).1 "log-1" hre
  cases hstep.symm.trans hs'
  simp [Queue.add, Queue.Knows, hfailed, hlive] at hjob

end Redeemo.Outbox.Replay
