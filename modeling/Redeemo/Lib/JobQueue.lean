import Mathlib.Data.List.Basic
import Mathlib.Logic.Function.Basic
import Mathlib.Tactic.Common

/-! A queue of jobs whose ids the producers choose.

    A job waits, is worked on, and waits again after an attempt that fails, until an attempt returns or the last one
    has failed. The latest of the jobs that have ended are retained, and an id that the queue knows of is not added
    again. -/

namespace JobQueue

structure Options where
  attempts : ℕ
  removeOnComplete : ℕ
  removeOnFail : ℕ

variable {ω κ : Type*}

inductive State (ω : Type*)
  | waiting
  | delayed
  /-- A worker is at it; `result` is there when its attempt has ended, and says whether it has returned. -/
  | active (worker : ω) (result : Option Bool)
  deriving DecidableEq

structure Job (ω : Type*) where
  state : State ω
  attemptsMade : ℕ
  deriving DecidableEq

structure Queue (ω κ : Type*) where
  /-- The jobs that have not ended. -/
  live : κ → Option (Job ω)
  /-- The retained ones, the last to end first. -/
  completed : List κ
  failed : List κ
  /-- The reports of failed attempts that nobody has taken yet. -/
  events : List (κ × ℕ)

namespace Queue

def empty : Queue ω κ := ⟨fun _ => none, [], [], []⟩

/-- The queue has a job of this id. -/
def Knows (q : Queue ω κ) (id : κ) : Prop := (q.live id).isSome = true ∨ id ∈ q.completed ∨ id ∈ q.failed

/-- A job that has ended is not a live one. -/
def Sound (q : Queue ω κ) : Prop := ∀ id, id ∈ q.completed ∨ id ∈ q.failed → q.live id = none

variable [DecidableEq κ]

instance (q : Queue ω κ) (id : κ) : Decidable (q.Knows id) := inferInstanceAs (Decidable (_ ∨ _ ∨ _))

def put (q : Queue ω κ) (id : κ) (job : Option (Job ω)) : Queue ω κ := { q with live := Function.update q.live id job }

def add (q : Queue ω κ) (id : κ) : Queue ω κ := if q.Knows id then q else q.put id (some ⟨.waiting, 0⟩)

/-- A worker takes a job that waits. -/
def take (q : Queue ω κ) (worker : ω) (id : κ) : Option (Queue ω κ) :=
  match q.live id with
  | some ⟨.waiting, n⟩ => some (q.put id (some ⟨.active worker none, n⟩))
  | _ => none

/-- The delay of a job is over. -/
def promote (q : Queue ω κ) (id : κ) : Option (Queue ω κ) :=
  match q.live id with
  | some ⟨.delayed, n⟩ => some (q.put id (some ⟨.waiting, n⟩))
  | _ => none

/-- The attempt of a worker ends. -/
def settle (q : Queue ω κ) (worker : ω) (id : κ) (returned : Bool) : Queue ω κ :=
  match q.live id with
  | some ⟨_, n⟩ => q.put id (some ⟨.active worker (some returned), n⟩)
  | none => q

/-- The queue learns of the end of an attempt. -/
def finish [DecidableEq ω] (o : Options) (q : Queue ω κ) (worker : ω) (id : κ) : Option (Queue ω κ) :=
  match q.live id with
  | some ⟨.active w (some true), _⟩ =>
    if w = worker then some { q.put id none with completed := (id :: q.completed).take o.removeOnComplete } else none
  | some ⟨.active w (some false), n⟩ =>
    if w = worker then
      some { (if n + 1 < o.attempts then q.put id (some ⟨.delayed, n + 1⟩)
          else { q.put id none with failed := (id :: q.failed).take o.removeOnFail }) with
        events := (id, n + 1) :: q.events }
    else none
  | _ => none

variable {q q' : Queue ω κ} {id : κ} {worker : ω}

@[simp] theorem put_live_self (q : Queue ω κ) (id : κ) (job : Option (Job ω)) : (q.put id job).live id = job :=
  Function.update_self ..

theorem put_live_of_ne {k : κ} (job : Option (Job ω)) (hk : k ≠ id) : (q.put id job).live k = q.live k :=
  Function.update_of_ne hk ..

/-- A job that is added is live afterwards, unless the queue retains one of its id that has ended. -/
theorem live_add (hq : q.Sound) :
    ((q.add id).live id).isSome = true ↔ id ∉ q.completed ∧ id ∉ q.failed := by
  rw [add]
  split_ifs with hknown
  · obtain hlive | hended := hknown
    · refine iff_of_true hlive ?_
      by_contra hno
      rw [hq id (by tauto)] at hlive
      cases hlive
    · rw [hq id hended]
      exact iff_of_false (by simp) (by tauto)
  · refine iff_of_true ?_ ⟨fun h => hknown (.inr (.inl h)), fun h => hknown (.inr (.inr h))⟩
    rw [put_live_self]
    rfl

/-! ### What a step does to the jobs -/

/-- What a step on the job of one id may do: only that job changes; it ends in one of the two lists or in none, and
    `returns` says whether an attempt may return by it. -/
structure Touches (returns : Prop) (id : κ) (q q' : Queue ω κ) : Prop where
  frame : ∀ k, k ≠ id → q'.live k = q.live k
  completed : ∀ k ∈ q'.completed, k ∈ q.completed ∨ k = id ∧ q'.live id = none ∧
    ∃ w n, q.live id = some ⟨.active w (some true), n⟩
  failed : ∀ k ∈ q'.failed, k ∈ q.failed ∨ k = id ∧ q'.live id = none
  returned : ∀ w n, q'.live id = some ⟨.active w (some true), n⟩ →
    q.live id = some ⟨.active w (some true), n⟩ ∨ returns
  ended : id ∈ q.completed ∨ id ∈ q.failed → q'.live id = none

variable {returns : Prop}

omit [DecidableEq κ] in
theorem Touches.sound (h : Touches returns id q q') (hq : q.Sound) : q'.Sound := by
  rintro k (hk | hk)
  · obtain hk | ⟨rfl, hnone, -⟩ := h.completed k hk
    · rcases eq_or_ne k id with rfl | hne
      · exact h.ended (.inl hk)
      · rw [h.frame k hne]
        exact hq k (.inl hk)
    · exact hnone
  · obtain hk | ⟨rfl, hnone⟩ := h.failed k hk
    · rcases eq_or_ne k id with rfl | hne
      · exact h.ended (.inr hk)
      · rw [h.frame k hne]
        exact hq k (.inr hk)
    · exact hnone

omit [DecidableEq κ] in
theorem Touches.mono {returns' : Prop} (h : Touches returns id q q') (hr : returns → returns') :
    Touches returns' id q q' :=
  ⟨h.frame, h.completed, h.failed, fun w n hw => (h.returned w n hw).imp_right hr, h.ended⟩

/-- The queue knows of nothing new but that job. -/
theorem Touches.knows (h : Touches returns id q q') {k : κ} (hk : q'.Knows k) : q.Knows k ∨ k = id := by
  by_cases hne : k = id
  · exact .inr hne
  · refine .inl ?_
    obtain hk | hk | hk := hk
    · rw [h.frame k hne] at hk
      exact .inl hk
    · exact .inr (.inl ((h.completed k hk).resolve_right fun hc => hne hc.1))
    · exact .inr (.inr ((h.failed k hk).resolve_right fun hc => hne hc.1))

/-- A job that is there is put into another state. -/
theorem touches_put (hq : q.Sound) (hlive : q.live id ≠ none) {job : Job ω}
    (hjob : ∀ w, job.state = .active w (some true) → returns) : Touches returns id q (q.put id (some job)) := by
  refine ⟨fun _ hne => put_live_of_ne _ hne, fun _ hk => .inl hk, fun _ hk => .inl hk, fun w n hw => ?_,
    fun hended => absurd (hq id hended) hlive⟩
  rw [put_live_self] at hw
  cases hw
  exact .inr (hjob w rfl)

omit [DecidableEq κ] in
/-- The reports may be taken. -/
theorem touches_events (hq : q.Sound) (events : List (κ × ℕ)) : Touches returns id q { q with events := events } :=
  ⟨fun _ _ => rfl, fun _ hk => .inl hk, fun _ hk => .inl hk, fun _ _ => .inl, hq id⟩

theorem touches_add (hq : q.Sound) : Touches returns id q (q.add id) := by
  rw [add]
  split_ifs with hknown
  · exact touches_events hq q.events
  · refine ⟨fun _ hne => put_live_of_ne _ hne, fun _ hk => .inl hk, fun _ hk => .inl hk, fun w n hw => ?_,
      fun hended => absurd (.inr hended) hknown⟩
    rw [put_live_self] at hw
    cases hw

theorem touches_take (hq : q.Sound) (h : q.take worker id = some q') : Touches returns id q q' := by
  revert h
  fun_cases take with
  | case1 n hl =>
    rintro ⟨⟩
    exact touches_put hq (by simp [hl]) (by rintro w ⟨⟩)
  | case2 => rintro ⟨⟩

theorem touches_promote (hq : q.Sound) (h : q.promote id = some q') : Touches returns id q q' := by
  revert h
  fun_cases promote with
  | case1 n hl =>
    rintro ⟨⟩
    exact touches_put hq (by simp [hl]) (by rintro w ⟨⟩)
  | case2 => rintro ⟨⟩

theorem touches_settle (hq : q.Sound) (returned : Bool) :
    Touches (returned = true) id q (q.settle worker id returned) := by
  fun_cases settle with
  | case1 state n hl =>
    refine touches_put hq (by simp [hl]) fun w hw => ?_
    cases hw
    rfl
  | case2 => exact touches_events hq q.events

theorem touches_finish [DecidableEq ω] {o : Options} (hq : q.Sound) (h : finish o q worker id = some q') :
    Touches returns id q q' := by
  revert h
  fun_cases finish with
  | case1 n hl =>
    rintro ⟨⟩
    refine ⟨fun _ hne => put_live_of_ne _ hne, fun k hk => ?_, fun _ hk => .inl hk, fun w m hw => ?_,
      fun _ => put_live_self ..⟩
    · obtain rfl | hk := List.mem_cons.mp (List.mem_of_mem_take hk)
      · exact .inr ⟨rfl, put_live_self .., _, n, hl⟩
      · exact .inl hk
    · cases (put_live_self q id none).symm.trans hw
  | case3 n hl =>
    rintro ⟨⟩
    split_ifs
    · have ht : Touches returns id q (q.put id (some ⟨.delayed, n + 1⟩)) :=
        touches_put hq (by simp [hl]) (by rintro w ⟨⟩)
      exact ⟨ht.frame, ht.completed, ht.failed, ht.returned, ht.ended⟩
    · refine ⟨fun _ hne => put_live_of_ne _ hne, fun _ hk => .inl hk, fun k hk => ?_, fun w m hw => ?_,
        fun _ => put_live_self ..⟩
      · obtain rfl | hk := List.mem_cons.mp (List.mem_of_mem_take hk)
        · exact .inr ⟨rfl, put_live_self ..⟩
        · exact .inl hk
      · cases (put_live_self q id none).symm.trans hw
  | _ => rintro ⟨⟩

end Queue

end JobQueue
