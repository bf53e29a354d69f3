import Redeemo.Lib.Runs

/-! A receiver of messages that are delivered at least once.

    It records a message first and applies its effect afterwards; a message that is recorded already is
    acknowledged and left alone. Where the effect may fail after the record, the next delivery of that
    message is acknowledged all the same and the effect is lost. Every acknowledged message has been
    applied exactly once throughout a run exactly when no message is delivered again after that
    (`exactlyOnce_iff`). -/

namespace Inbox
open Runs

/-- What becomes of one delivery. -/
inductive Outcome
  /-- Turned away before the record. -/
  | refused
  /-- Acknowledged: the message was recorded before. -/
  | duplicate
  /-- Recorded, and then not applied. -/
  | abandoned
  /-- Recorded, applied and acknowledged. -/
  | handled
  deriving DecidableEq, Repr

def Outcome.Acknowledged (o : Outcome) : Prop := o = .duplicate ∨ o = .handled

/-- A delivery names its message, may be turned away, and may fail to apply its effect. -/
structure Receiver (ι δ D : Type*) where
  idOf : δ → ι
  admits : δ → Bool
  apply : δ → D → Option D

/-- The history holds the deliveries with their outcomes, the latest first. -/
structure State (ι δ D : Type*) where
  data : D
  recorded : List ι
  history : List (δ × Outcome)

variable {ι δ D : Type*} [DecidableEq ι] (r : Receiver ι δ D)

def receive (s : State ι δ D) (d : δ) : State ι δ D :=
  if r.admits d = false then { s with history := (d, .refused) :: s.history }
  else if r.idOf d ∈ s.recorded then { s with history := (d, .duplicate) :: s.history }
  else match r.apply d s.data with
    | none => ⟨s.data, r.idOf d :: s.recorded, (d, .abandoned) :: s.history⟩
    | some data => ⟨data, r.idOf d :: s.recorded, (d, .handled) :: s.history⟩

def step (s : State ι δ D) (d : δ) : Option (State ι δ D) := some (receive r s d)

def start (data : D) : State ι δ D := ⟨data, [], []⟩

/-- The effects of the handled deliveries, in order. -/
def replay (data : D) : List (δ × Outcome) → D
  | [] => data
  | e :: history =>
    if e.2 = .handled then (r.apply e.1 (replay data history)).getD (replay data history)
    else replay data history

/-- How many deliveries of a message had this outcome. -/
def times (i : ι) (o : Outcome) (history : List (δ × Outcome)) : ℕ :=
  history.countP fun e => r.idOf e.1 = i ∧ e.2 = o

/-- A delivery that nothing goes wrong with. -/
def Sound (d : δ) : Prop := r.admits d = true ∧ ∀ data, r.apply d data ≠ none

/-- The data are what the handled deliveries made of them, every acknowledged message has been handled
    once, and so has every message that was delivered soundly, whatever failed before. -/
structure ExactlyOnce (data : D) (s : State ι δ D) : Prop where
  effects : s.data = replay r data s.history
  once : ∀ e ∈ s.history, e.2.Acknowledged → times r (r.idOf e.1) .handled s.history = 1
  retried : ∀ e ∈ s.history, Sound r e.1 → times r (r.idOf e.1) .handled s.history = 1

/-- A delivery that is let in, of a message abandoned before. -/
def Lost (s : State ι δ D) (d : δ) : Prop :=
  r.admits d = true ∧ 0 < times r (r.idOf d) .abandoned s.history

/-- What the record says: a recorded message was handled or abandoned, once. -/
structure Valid (data : D) (s : State ι δ D) : Prop where
  effects : s.data = replay r data s.history
  sound : ∀ e ∈ s.history, Sound r e.1 → e.2.Acknowledged
  recorded : ∀ i, times r i .handled s.history + times r i .abandoned s.history =
    if i ∈ s.recorded then 1 else 0

variable {r}

/-- What one delivery does. -/
theorem receive_cases (s : State ι δ D) (d : δ) :
    (r.admits d = false ∧ receive r s d = { s with history := (d, .refused) :: s.history }) ∨
    (r.admits d = true ∧ r.idOf d ∈ s.recorded ∧
      receive r s d = { s with history := (d, .duplicate) :: s.history }) ∨
    (r.admits d = true ∧ r.idOf d ∉ s.recorded ∧ r.apply d s.data = none ∧
      receive r s d = ⟨s.data, r.idOf d :: s.recorded, (d, .abandoned) :: s.history⟩) ∨
    (r.admits d = true ∧ r.idOf d ∉ s.recorded ∧ ∃ data, r.apply d s.data = some data ∧
      receive r s d = ⟨data, r.idOf d :: s.recorded, (d, .handled) :: s.history⟩) := by
  rw [receive]
  by_cases ha : r.admits d = false
  · exact .inl ⟨ha, if_pos ha⟩
  · rw [if_neg ha]
    rw [Bool.not_eq_false] at ha
    by_cases hrec : r.idOf d ∈ s.recorded
    · exact .inr (.inl ⟨ha, hrec, if_pos hrec⟩)
    · rw [if_neg hrec]
      cases happly : r.apply d s.data with
      | none => exact .inr (.inr (.inl ⟨ha, hrec, rfl, rfl⟩))
      | some data => exact .inr (.inr (.inr ⟨ha, hrec, data, rfl, rfl⟩))

theorem times_cons (i : ι) (o : Outcome) (d : δ) (o' : Outcome) (history : List (δ × Outcome)) :
    times r i o ((d, o') :: history) = times r i o history + if r.idOf d = i ∧ o' = o then 1 else 0 := by
  rw [times, times, List.countP_cons]
  simp only [decide_eq_true_eq]

theorem times_cons_of_ne {i : ι} {o o' : Outcome} {d : δ} {history : List (δ × Outcome)} (h : o' ≠ o) :
    times r i o ((d, o') :: history) = times r i o history := by
  rw [times_cons, if_neg fun hc => h hc.2]
  rfl

section
variable {data : D} {s : State ι δ D} {d : δ}

theorem valid_start : Valid r data (start data) := ⟨rfl, nofun, fun _ => rfl⟩

/-- The law, where sound deliveries are acknowledged. -/
theorem Valid.exactlyOnce (hv : Valid r data s)
    (honce : ∀ e ∈ s.history, e.2.Acknowledged → times r (r.idOf e.1) .handled s.history = 1) :
    ExactlyOnce r data s :=
  ⟨hv.effects, honce, fun e he hsound => honce e he (hv.sound e he hsound)⟩

theorem sound_cons {o : Outcome} (hv : Valid r data s) (ho : Sound r d → o.Acknowledged) :
    ∀ e ∈ (d, o) :: s.history, Sound r e.1 → e.2.Acknowledged := by
  intro e he hsound
  rcases List.mem_cons.mp he with rfl | he
  · exact ho hsound
  · exact hv.sound e he hsound

/-- A first delivery puts its message on record, with one outcome of the two. -/
theorem recorded_cons {o : Outcome} (hv : Valid r data s) (hrec : r.idOf d ∉ s.recorded)
    (ho : o = .handled ∨ o = .abandoned) (i : ι) :
    times r i .handled ((d, o) :: s.history) + times r i .abandoned ((d, o) :: s.history) =
      if i ∈ r.idOf d :: s.recorded then 1 else 0 := by
  have hi := hv.recorded i
  rw [times_cons, times_cons]
  by_cases hid : r.idOf d = i
  · rw [← hid, if_neg hrec] at hi
    rw [← hid, if_pos (List.mem_cons_self ..)]
    rcases ho with rfl | rfl
    · rw [if_pos ⟨rfl, rfl⟩, if_neg nofun]
      omega
    · rw [if_neg nofun, if_pos ⟨rfl, rfl⟩]
      omega
  · have hmem : i ∈ r.idOf d :: s.recorded ↔ i ∈ s.recorded := by
      rw [List.mem_cons, or_iff_right (Ne.symm hid)]
    rw [if_neg fun h => hid h.1, if_neg fun h => hid h.1]
    simp only [hmem]
    exact hi

theorem valid_receive (hv : Valid r data s) : Valid r data (receive r s d) := by
  rcases receive_cases (r := r) s d with ⟨ha, h⟩ | ⟨-, -, h⟩ | ⟨-, hrec, happly, h⟩ |
    ⟨-, hrec, data', happly, h⟩
  · rw [h]
    refine ⟨hv.effects, sound_cons hv fun hsound => ?_, fun i => ?_⟩
    · cases ha.symm.trans hsound.1
    · dsimp only
      rw [times_cons_of_ne (by decide), times_cons_of_ne (by decide)]
      exact hv.recorded i
  · rw [h]
    refine ⟨hv.effects, sound_cons hv fun _ => .inl rfl, fun i => ?_⟩
    dsimp only
    rw [times_cons_of_ne (by decide), times_cons_of_ne (by decide)]
    exact hv.recorded i
  · rw [h]
    refine ⟨hv.effects, sound_cons hv fun hsound => ?_, recorded_cons hv hrec (.inr rfl)⟩
    exact absurd happly (hsound.2 s.data)
  · rw [h]
    refine ⟨?_, sound_cons hv fun _ => .inr rfl, recorded_cons hv hrec (.inl rfl)⟩
    rw [replay, if_pos rfl, ← hv.effects, happly]
    rfl

/-- Under a delivery that is neither a duplicate nor a loss, the count of every acknowledged message
    stays one. -/
theorem once_cons {o : Outcome} (hi : ExactlyOnce r data s) (ho : ¬ o.Acknowledged) :
    ∀ e ∈ (d, o) :: s.history, e.2.Acknowledged →
      times r (r.idOf e.1) .handled ((d, o) :: s.history) = 1 := by
  intro e he hack
  rw [times_cons_of_ne fun h => ho (.inr h)]
  rcases List.mem_cons.mp he with rfl | he
  · exact absurd hack ho
  · exact hi.once e he hack

/-- A delivery keeps the law exactly when it is not of an abandoned message. -/
theorem exactlyOnce_receive (hv : Valid r data s) (hi : ExactlyOnce r data s) :
    ExactlyOnce r data (receive r s d) ↔ ¬ Lost r s d := by
  have hv' := valid_receive (d := d) hv
  have hcount := hv.recorded (r.idOf d)
  rcases receive_cases (r := r) s d with ⟨ha, h⟩ | ⟨ha, hrec, h⟩ | ⟨ha, hrec, -, h⟩ | ⟨ha, hrec, data', -, h⟩
  · rw [h] at hv' ⊢
    refine iff_of_true (hv'.exactlyOnce (once_cons hi ?_)) fun hlost => ?_
    · rintro (hack | hack) <;> cases hack
    · cases ha.symm.trans hlost.1
  · rw [h] at hv' ⊢
    rw [if_pos hrec] at hcount
    constructor
    · rintro ⟨-, honce, -⟩ hlost
      have hone := honce _ (List.mem_cons_self ..) (.inl rfl)
      rw [times_cons_of_ne (by decide)] at hone
      have hpos := hlost.2
      dsimp only at hone
      omega
    · intro hno
      have hzero : ¬ 0 < times r (r.idOf d) .abandoned s.history := fun h => hno ⟨ha, h⟩
      refine hv'.exactlyOnce fun e he hack => ?_
      dsimp only
      rw [times_cons_of_ne (by decide)]
      rcases List.mem_cons.mp he with rfl | he
      · dsimp only
        omega
      · exact hi.once e he hack
  · rw [h] at hv' ⊢
    rw [if_neg hrec] at hcount
    refine iff_of_true (hv'.exactlyOnce (once_cons hi ?_)) fun hlost => ?_
    · rintro (hack | hack) <;> cases hack
    · have hpos := hlost.2
      omega
  · rw [h] at hv' ⊢
    rw [if_neg hrec] at hcount
    refine iff_of_true (hv'.exactlyOnce fun e he hack => ?_) fun hlost => ?_
    · dsimp only
      rw [times_cons]
      rcases List.mem_cons.mp he with rfl | he
      · rw [if_pos ⟨rfl, rfl⟩]
        dsimp only
        omega
      · have hone := hi.once e he hack
        by_cases hid : r.idOf d = r.idOf e.1
        · rw [← hid] at hone
          omega
        · rw [if_neg fun h => hid h.1]
          exact hone
    · have hpos := hlost.2
      omega

end

/-- CORRECT: acknowledged messages have been applied exactly once throughout a run exactly when no
    abandoned message is delivered again. -/
theorem exactlyOnce_iff {data : D} {ds : List δ} :
    Throughout (step r) (ExactlyOnce r data) (start data) ds ↔
      Along (step r) (fun s d => ¬ Lost r s d) (start data) ds := by
  refine throughout_iff_along (K := Valid r data) (fun s d => ⟨_, rfl⟩) (fun s d s' hv h => ?_)
    (fun s d s' hv hi h => ?_) valid_start ⟨rfl, nofun, nofun⟩
  · cases h
    exact valid_receive hv
  · cases h
    exact exactlyOnce_receive hv hi

end Inbox
