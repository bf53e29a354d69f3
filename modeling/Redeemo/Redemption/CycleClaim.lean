import Mathlib.Data.List.Pairwise
import Redeemo.Lib.Runs
import Redeemo.Redemption.Tables
import Redeemo.Subscription.Cycle

/-! Concurrent claims of a cycle voucher.

    Any number of calls by one user run interleaved, one statement at a time. A call reads the cycle
    state before its PIN, and later claims: a first transaction (conditional `updateMany`, else
    `create`, then the redemption), and after a P2002 a second one (`updateMany` only). What a
    transaction has written is seen by the others when it commits; until then it holds the row, and
    another call's conditional update or create on it waits. A call may be abandoned anywhere.

    The cycle starts of the committed calls only grow: a commit finds the row either absent, or
    flagged in an older cycle, or not flagged, and leaves it flagged in its own cycle. -/

namespace Redeemo.CycleClaim
open Runs CycleWindows Redemption

/-- The calls of one user for one voucher, under one anchor date. -/
structure Setup where
  anchorDate : ℤ
  pair : Pair
  calls : ℕ → Call

inductive Phase
  | start
  /-- Past the checks before the PIN, and the PIN itself. -/
  | guarded
  /-- The first transaction's `updateMany` found nothing. -/
  | unclaimed
  /-- The cycle state is written; `retry` in the second transaction. -/
  | claimed (retry : Bool)
  | inserted
  /-- The first transaction was rolled back by a P2002. -/
  | rolledBack
  | committed
  | failed
  deriving DecidableEq

inductive Act
  | guard | update | create | insert | commit | abandon
  deriving DecidableEq

/-- The database, and the transaction that holds the cycle-state row. -/
structure Store where
  tables : Tables
  holder : Option ℕ
  /-- The calls that have committed, newest first. -/
  commits : List ℕ

namespace Setup
variable (e : Setup)

def cycleStart (i : ℕ) : ℤ := (getCurrentCycleWindow e.anchorDate (e.calls i).now).cycleStart

/-- What a committed call has written. -/
def applyCall (i : ℕ) (t : Tables) : Tables :=
  { redemptions := redemptionData e.pair none (e.calls i) :: t.redemptions
    cycleStates := Function.update t.cycleStates e.pair
      (some (claimData (e.cycleStart i) (e.calls i).now)) }

end Setup

/-- Take the row, or wait for the transaction that holds it. -/
def acquire (i : ℕ) (s : Store) (ph : Phase) : Option (Store × Phase) :=
  if s.holder = none then some ({ s with holder := some i }, ph) else none

def next (e : Setup) (i : ℕ) (s : Store) (ph : Phase) (a : Act) : Option (Store × Phase) :=
  match ph, a with
  | .start, .guard =>
    match cycleGuard (e.cycleStart i) (s.tables.cycleStates e.pair) with
    | .ok () => some (s, .guarded)
    | .error _ => some (s, .failed)
  | .guarded, .update =>
    match s.tables.cycleStates e.pair with
    | some c => if claimWhere (e.cycleStart i) c then acquire i s (.claimed false)
      else some (s, .unclaimed)
    | none => some (s, .unclaimed)
  | .unclaimed, .create =>
    match s.tables.cycleStates e.pair with
    | some _ => some (s, .rolledBack)
    | none => acquire i s (.claimed false)
  | .rolledBack, .update =>
    match s.tables.cycleStates e.pair with
    | some c => if claimWhere (e.cycleStart i) c then acquire i s (.claimed true)
      else some (s, .failed)
    | none => some (s, .failed)
  | .claimed retry, .insert =>
    match s.tables.createRedemption (redemptionData e.pair none (e.calls i)) with
    | .ok _ => some (s, .inserted)
    | .error _ => some ({ s with holder := none }, if retry then .failed else .rolledBack)
  | .inserted, .commit => some (⟨e.applyCall i s.tables, none, i :: s.commits⟩, .committed)
  | .committed, _ => none
  | .failed, _ => none
  | _, .abandon => some ({ s with holder := if s.holder = some i then none else s.holder }, .failed)
  | _, _ => none

/-- No call has begun. -/
def initial (t : Tables) : Pool ℕ Store Phase := ⟨⟨t, none, []⟩, fun _ => .start⟩

/-! ### What a step does -/

/-- The transaction is between its claim and its commit. -/
def Phase.Holding (ph : Phase) : Prop := (∃ b, ph = .claimed b) ∨ ph = .inserted

variable {e : Setup} {i : ℕ} {s s' : Store} {ph ph' : Phase} {a : Act}

/-- The call writes nothing: it may only have let go of the row. -/
def Aside (i : ℕ) (s : Store) (ph : Phase) (s' : Store) (ph' : Phase) : Prop :=
  s'.tables = s.tables ∧ s'.commits = s.commits ∧
    (s'.holder = s.holder ∨ ((s.holder = some i ∨ ph.Holding) ∧ s'.holder = none)) ∧
    ¬ ph'.Holding ∧ ph' ≠ .committed

/-- The call takes the free row, which it may claim. -/
def Acquires (e : Setup) (i : ℕ) (s s' : Store) (ph' : Phase) : Prop :=
  s.holder = none ∧ (∀ c ∈ s.tables.cycleStates e.pair, claimWhere (e.cycleStart i) c) ∧
    s' = { s with holder := some i } ∧ ∃ b, ph' = .claimed b

theorem aside_self (h1 : ¬ ph'.Holding) (h2 : ph' ≠ .committed) : Aside i s ph s ph' :=
  ⟨rfl, rfl, .inl rfl, h1, h2⟩

theorem aside_abandon
    (h : some ({ s with holder := if s.holder = some i then none else s.holder }, Phase.failed)
      = some (s', ph')) : Aside i s ph s' ph' := by
  cases h
  exact ⟨rfl, rfl, (letGo_cases i s.holder).imp_right (.imp_left .inl), by simp [Phase.Holding], by simp⟩

theorem acquire_eq_some (h : acquire i s ph = some (s', ph')) :
    s.holder = none ∧ s' = { s with holder := some i } ∧ ph' = ph := by
  rw [acquire] at h
  split_ifs at h with hf
  cases h
  exact ⟨hf, rfl, rfl⟩

/-- The conditional update, in either transaction: `other` is where a call goes whose condition the
    row does not meet. -/
theorem update_cases {b : Bool} {other : Phase} (h0 : ¬ other.Holding) (h1 : other ≠ .committed)
    (h : (match s.tables.cycleStates e.pair with
      | some c => if claimWhere (e.cycleStart i) c then acquire i s (.claimed b) else some (s, other)
      | none => some (s, other)) = some (s', ph')) :
    Aside i s ph s' ph' ∨ Acquires e i s s' ph' := by
  cases hc : s.tables.cycleStates e.pair with
  | none =>
    rw [hc] at h
    cases h
    exact .inl (aside_self h0 h1)
  | some c =>
    rw [hc] at h
    dsimp only at h
    split_ifs at h with hcl
    · obtain ⟨hf, rfl, rfl⟩ := acquire_eq_some h
      refine .inr ⟨hf, fun c' hc' => ?_, rfl, b, rfl⟩
      rw [hc, Option.mem_some_iff] at hc'
      exact hc' ▸ hcl
    · cases h
      exact .inl (aside_self h0 h1)

/-- A step of a call writes nothing, takes the row, goes on to its commit, or commits. -/
theorem next_cases (h : next e i s ph a = some (s', ph')) :
    ph ≠ .committed ∧
    (Aside i s ph s' ph' ∨ Acquires e i s s' ph' ∨ (ph.Holding ∧ s' = s ∧ ph' = .inserted) ∨
      (ph = .inserted ∧ s' = ⟨e.applyCall i s.tables, none, i :: s.commits⟩ ∧ ph' = .committed)) := by
  have hupd : Aside i s ph s' ph' ∨ Acquires e i s s' ph' →
      Aside i s ph s' ph' ∨ Acquires e i s s' ph' ∨ (ph.Holding ∧ s' = s ∧ ph' = .inserted) ∨
      (ph = .inserted ∧ s' = ⟨e.applyCall i s.tables, none, i :: s.commits⟩ ∧ ph' = .committed) := by
    rintro (h | h)
    · exact .inl h
    · exact .inr (.inl h)
  cases ph with
  | start =>
    cases a with
    | guard =>
      simp only [next] at h
      split at h
      · cases h
        exact ⟨by simp, .inl (aside_self (by simp [Phase.Holding]) (by simp))⟩
      · cases h
        exact ⟨by simp, .inl (aside_self (by simp [Phase.Holding]) (by simp))⟩
    | abandon => exact ⟨by simp, .inl (aside_abandon h)⟩
    | _ => cases h
  | guarded =>
    cases a with
    | update => exact ⟨by simp, hupd (update_cases (by simp [Phase.Holding]) (by simp) h)⟩
    | abandon => exact ⟨by simp, .inl (aside_abandon h)⟩
    | _ => cases h
  | unclaimed =>
    cases a with
    | create =>
      simp only [next] at h
      split at h
      · cases h
        exact ⟨by simp, .inl (aside_self (by simp [Phase.Holding]) (by simp))⟩
      · next hc =>
        obtain ⟨hf, rfl, rfl⟩ := acquire_eq_some h
        exact ⟨by simp, .inr (.inl ⟨hf, by simp [hc], rfl, false, rfl⟩)⟩
    | abandon => exact ⟨by simp, .inl (aside_abandon h)⟩
    | _ => cases h
  | rolledBack =>
    cases a with
    | update => exact ⟨by simp, hupd (update_cases (by simp [Phase.Holding]) (by simp) h)⟩
    | abandon => exact ⟨by simp, .inl (aside_abandon h)⟩
    | _ => cases h
  | claimed retry =>
    cases a with
    | insert =>
      simp only [next] at h
      split at h
      · cases h
        exact ⟨by simp, .inr (.inr (.inl ⟨.inl ⟨retry, rfl⟩, rfl, rfl⟩))⟩
      · cases h
        refine ⟨by simp, .inl ⟨rfl, rfl, .inr ⟨.inr (.inl ⟨retry, rfl⟩), rfl⟩, ?_, ?_⟩⟩
        · split_ifs <;> simp [Phase.Holding]
        · split_ifs <;> simp
    | abandon => exact ⟨by simp, .inl (aside_abandon h)⟩
    | _ => cases h
  | inserted =>
    cases a with
    | commit =>
      cases h
      exact ⟨by simp, .inr (.inr (.inr ⟨rfl, rfl, rfl⟩))⟩
    | abandon => exact ⟨by simp, .inl (aside_abandon h)⟩
    | _ => cases h
  | committed => cases h
  | failed => cases h

/-! ### The invariant -/

/-- The tables are what the committed calls have written, in cycles that only grow. -/
structure StoreInv (e : Setup) (t₀ : Tables) (s : Store) : Prop where
  tables : s.tables = s.commits.foldr e.applyCall t₀
  growing : s.commits.Pairwise fun i j => e.cycleStart j < e.cycleStart i

/-- A call between its claim and its commit holds a row it may claim; the committed calls are the
    ones among the commits. -/
structure CallInv (e : Setup) (i : ℕ) (s : Store) (ph : Phase) : Prop where
  holds : ph.Holding → s.holder = some i ∧
    ∀ c ∈ s.tables.cycleStates e.pair, claimWhere (e.cycleStart i) c
  committed : ph = .committed ↔ i ∈ s.commits

/-- A row that may be claimed is older than every committed call. -/
theorem newest {t₀ : Tables} (hj : StoreInv e t₀ s)
    (h : ∀ c ∈ s.tables.cycleStates e.pair, claimWhere (e.cycleStart i) c) :
    ∀ j ∈ s.commits, e.cycleStart j < e.cycleStart i := by
  cases hc : s.commits with
  | nil => simp
  | cons k ks =>
    have ht := hj.tables
    have hg := hj.growing
    rw [hc] at ht hg
    rw [List.foldr_cons] at ht
    -- The row is the one the latest commit has left: flagged, in that call's cycle.
    have hk := h (claimData (e.cycleStart k) (e.calls k).now) (by simp [ht, Setup.applyCall])
    have hlt : e.cycleStart k < e.cycleStart i := by
      rcases hk with hk | hk
      · exact hk
      · cases hk
    intro j hjm
    rcases List.mem_cons.mp hjm with rfl | hjm
    · exact hlt
    · exact lt_trans ((List.pairwise_cons.mp hg).1 j hjm) hlt

theorem own_step {t₀ : Tables} (hj : StoreInv e t₀ s) (hk : CallInv e i s ph)
    (h : next e i s ph a = some (s', ph')) : StoreInv e t₀ s' ∧ CallInv e i s' ph' := by
  obtain ⟨hnc, hcase⟩ := next_cases h
  have hout : i ∉ s.commits := fun hm => hnc (hk.committed.mpr hm)
  rcases hcase with ⟨ht, hco, -, hnh, hncm⟩ | ⟨-, hcl, rfl, b, rfl⟩ | ⟨hhold, rfl, rfl⟩ | ⟨rfl, rfl, rfl⟩
  · refine ⟨⟨by rw [ht, hco]; exact hj.tables, by rw [hco]; exact hj.growing⟩,
      ⟨fun hh => absurd hh hnh, ?_⟩⟩
    rw [hco]
    exact ⟨fun hc => absurd hc hncm, fun hm => absurd hm hout⟩
  · exact ⟨⟨hj.tables, hj.growing⟩, fun _ => ⟨rfl, hcl⟩, by simpa using hout⟩
  · exact ⟨hj, fun _ => hk.holds hhold, by simpa using hout⟩
  · have hnew := newest hj (hk.holds (.inr rfl)).2
    refine ⟨⟨?_, List.pairwise_cons.mpr ⟨hnew, hj.growing⟩⟩, ⟨?_, by simp⟩⟩
    · rw [List.foldr_cons, ← hj.tables]
    · rintro (⟨b, hb⟩ | hb)
      · cases hb
      · cases hb

theorem frame_step {j : ℕ} {m : Phase} (hne : i ≠ j) (hk : CallInv e i s ph)
    (hm : CallInv e j s m) (h : next e i s ph a = some (s', ph')) : CallInv e j s' m := by
  obtain ⟨-, hcase⟩ := next_cases h
  rcases hcase with ⟨ht, hco, hho, -, -⟩ | ⟨hfree, -, rfl, -⟩ | ⟨-, rfl, -⟩ | ⟨rfl, rfl, -⟩
  · refine ⟨fun hh => ?_, by rw [hco]; exact hm.committed⟩
    obtain ⟨hj, hcl⟩ := hm.holds hh
    rw [ht]
    refine ⟨?_, hcl⟩
    rcases hho with hho | ⟨hi | hi, -⟩
    · rw [hho, hj]
    · rw [hj] at hi
      exact absurd (Option.some.inj hi).symm hne
    · rw [(hk.holds hi).1] at hj
      exact absurd (Option.some.inj hj) hne
  · refine ⟨fun hh => ?_, hm.committed⟩
    rw [(hm.holds hh).1] at hfree
    cases hfree
  · exact hm
  · refine ⟨fun hh => ?_, ?_⟩
    · have hi := (hk.holds (.inr rfl)).1
      rw [(hm.holds hh).1] at hi
      exact absurd (Option.some.inj hi).symm hne
    · rw [hm.committed, List.mem_cons]
      constructor
      · exact .inr
      · rintro (rfl | hmem)
        · exact absurd rfl hne
        · exact hmem

/-- CORRECT: after every interleaving, no two committed calls read their clocks in one cycle window,
    and the tables are exactly what the committed calls have written, one after another: a call that
    failed, or has not finished, has written neither a cycle state nor a redemption. -/
theorem cycle_claim_correct (e : Setup) (t₀ : Tables) (as : List (ℕ × Act)) (s : Pool ℕ Store Phase)
    (hrun : run (poolStep (next e)) (initial t₀) as = some s) :
    (∀ (t : ℕ) (i j : ℕ), s.proc i = .committed → s.proc j = .committed →
      (getCurrentCycleWindow e.anchorDate t).Contains (e.calls i).now →
      (getCurrentCycleWindow e.anchorDate t).Contains (e.calls j).now → i = j) ∧
    ∃ order : List ℕ, order.Nodup ∧ (∀ i, i ∈ order ↔ s.proc i = .committed) ∧
      s.store.tables = order.foldr e.applyCall t₀ := by
  have hinit : PoolInv (StoreInv e t₀) (CallInv e) (initial t₀) :=
    ⟨⟨rfl, List.Pairwise.nil⟩, fun i => ⟨by simp [initial, Phase.Holding], by simp [initial]⟩⟩
  obtain ⟨hj, hk⟩ := pool_invariant (J := StoreInv e t₀) (K := CallInv e)
    (fun _ _ _ _ _ _ hj hk h => own_step hj hk h)
    (fun _ _ _ _ _ _ _ _ hne _ hk hm h => frame_step hne hk hm h) hinit hrun
  have hmem : ∀ i, i ∈ s.store.commits ↔ s.proc i = .committed := fun i => (hk i).committed.symm
  refine ⟨fun t i j hi hj' hwi hwj => ?_, s.store.commits, ?_, hmem, hj.tables⟩
  · rw [← hmem] at hi hj'
    have hstart : ∀ k, (getCurrentCycleWindow e.anchorDate t).Contains (e.calls k).now →
        e.cycleStart k = (getCurrentCycleWindow e.anchorDate t).cycleStart := by
      intro k hw
      rw [Setup.cycleStart, cycleWindow_of_contains e.anchorDate (Int.natCast_nonneg t) hw]
    have hsame : e.cycleStart i = e.cycleStart j := (hstart i hwi).trans (hstart j hwj).symm
    by_contra hne
    have hsymm : Std.Symm fun i j => e.cycleStart j ≠ e.cycleStart i := ⟨fun _ _ h => h.symm⟩
    exact (hj.growing.imp fun h => h.ne).forall hi hj' hne hsame.symm
  · refine List.Pairwise.imp ?_ hj.growing
    intro i j hlt he
    rw [he] at hlt
    exact lt_irrefl _ hlt

/-- Two calls a minute apart in one cycle, for a voucher the user has never redeemed. -/
def twoCalls : Setup :=
  { anchorDate := 0
    pair := ("user", "voucher")
    calls := fun i => ⟨1000 + 60000 * i, "branch", if i = 0 then "AAAA" else "BBBB", 5⟩ }

/-- Both find no row; the first creates it and commits, the second is rolled back and loses. -/
def race : List (ℕ × Act) :=
  [(0, .guard), (1, .guard), (0, .update), (1, .update), (0, .create), (0, .insert), (0, .commit),
    (1, .create), (1, .update)]

theorem cycle_claim_correct_race : ∃ s,
    run (poolStep (next twoCalls)) (initial ⟨[], fun _ => none⟩) race = some s ∧
      s.proc 0 = .committed ∧ s.proc 1 = .failed ∧
      ∃ order : List ℕ, order.Nodup ∧ (∀ i, i ∈ order ↔ s.proc i = .committed) ∧
        s.store.tables = order.foldr twoCalls.applyCall ⟨[], fun _ => none⟩ := by
  obtain ⟨s, hs, h0, h1⟩ : ∃ s,
      run (poolStep (next twoCalls)) (initial ⟨[], fun _ => none⟩) race = some s ∧
        s.proc 0 = .committed ∧ s.proc 1 = .failed := ⟨_, rfl, rfl, rfl⟩
  exact ⟨s, hs, h0, h1, (cycle_claim_correct twoCalls _ race s hs).2⟩

end Redeemo.CycleClaim
