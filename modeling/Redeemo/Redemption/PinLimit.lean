import Mathlib.Data.Set.Card
import Redeemo.Lib.Runs
import Redeemo.Redemption.Claims
import Redeemo.Shared.LimiterRuns
import Redeemo.Shared.LimiterShim

/-! The brute-force ceiling on the branch PIN: concurrent attempts on the failure counters.

    An attempt reserves a slot (`consume()`, atomic), compares the PIN, and then keeps the slot (a
    wrong PIN), gives it back (DECR, after a fault) or clears the counter (DEL, after the right PIN).
    Every one of these is a command of its own. While a counter lives, the slots that are in use and
    the wrong PINs together are at most what it counts. The DECR does not look whether the counter is
    still the one that was reserved in: one that comes after a clear or an expiry takes away somebody
    else's slot, and the counter then admits an attempt too many. -/

namespace Redeemo.PinLimit
open Runs Redemption Limiter

/-! ### The attempts -/

/-- A call that is past the gates, with the stored PIN it has read and the keys its process holds. -/
structure Attempt where
  userId : String
  branchId : String
  redemptionPin : String
  pin : String
  decrypt : String → Except DecryptFault String

def Attempt.failKey (a : Attempt) : String := pinFailCount a.userId a.branchId

def Attempt.outcome (a : Attempt) : Except DecryptFault Bool :=
  pinMatches a.decrypt a.redemptionPin a.pin

inductive Phase
  | start
  | reserved
  | wrongPin
  | faulted (fault : DecryptFault)
  /-- The refund left the counter below zero. -/
  | negative (fault : DecryptFault)
  | matched
  /-- The counter is cleared; the claim comes next. -/
  | cleared
  | failed (e : AppError)

inductive Act
  | reserve | compare | get | decr | del | clear
  /-- A Redis error in the refund is swallowed. -/
  | swallow
  /-- The key's time is up; no attempt moves. -/
  | expire (key : String)
  deriving DecidableEq

def next (attempts : ℕ → Attempt) (i : ℕ) (redis : Store) (ph : Phase) (a : Act) :
    Option (Store × Phase) :=
  let failKey := (attempts i).failKey
  match a, ph with
  | .expire key, ph =>
    match redis key with
    | some ⟨_, some _⟩ => some (redis.del key, ph)
    | _ => none
  | .reserve, .start =>
    match consume redis (pinLimit failKey) with
    | (some .ok, redis) => some (redis, .reserved)
    | (some (.blocked _ _ retryAfter), redis) =>
      some (redis, .failed (.PIN_RATE_LIMIT_EXCEEDED retryAfter))
    | (none, _) => none
  | .compare, .reserved =>
    match (attempts i).outcome with
    | .error fault => some (redis, .faulted fault)
    | .ok false => some (redis, .wrongPin)
    | .ok true => some (redis, .matched)
  | .get, .wrongPin => some (redis, .failed (.INVALID_PIN (remainingAttempts redis failKey)))
  | .decr, .faulted fault =>
    let (v, redis) := redis.decr failKey
    some (redis, if v < 0 then .negative fault else .failed (classifyPinDecryptError fault))
  | .del, .negative fault => some (redis.del failKey, .failed (classifyPinDecryptError fault))
  | .swallow, .faulted fault => some (redis, .failed (classifyPinDecryptError fault))
  | .swallow, .negative fault => some (redis, .failed (classifyPinDecryptError fault))
  | .clear, .matched => some (redis.del failKey, .cleared)
  | _, _ => none

/-- No attempt has begun. -/
def initial (redis : Store) : Pool ℕ Store Phase := ⟨redis, fun _ => .start⟩

/-! ### What is claimed, and when -/

section
variable (attempts : ℕ → Attempt) (key : String)

/-- The counter is cleared, or it expires. -/
def Boundary (a : ℕ × Act) : Prop :=
  a.2 = .expire key ∨ (attempts a.1).failKey = key ∧ (a.2 = .clear ∨ a.2 = .del)

/-- The attempt has reached the compare with a wrong PIN. -/
def EndedWrong (ph : Phase) : Prop := ph = .wrongPin ∨ ∃ n, ph = .failed (.INVALID_PIN n)

/-- The attempts on the counter that ended as a wrong PIN between the two states. -/
def wrongBetween (s₁ s₂ : Pool ℕ Store Phase) : Set ℕ :=
  { i | (attempts i).failKey = key ∧ EndedWrong (s₂.proc i) ∧ ¬ EndedWrong (s₁.proc i) }

/-- No part of the run without a clear or an expiry has more than PIN_FAIL_LIMIT of them. -/
def Ceiling (redis : Store) (as : List (ℕ × Act)) : Prop :=
  ∀ xs ys zs s₁ s₂, as = xs ++ ys ++ zs → run (poolStep (next attempts)) (initial redis) xs = some s₁ →
    run (poolStep (next attempts)) s₁ ys = some s₂ → (∀ a ∈ ys, ¬ Boundary attempts key a) →
    (wrongBetween attempts key s₁ s₂).encard ≤ PIN_FAIL_LIMIT

/-- The attempt uses its slot: it finds its PIN wrong, or it gives the slot back. -/
def UsesSlot (a : ℕ × Act) : Prop :=
  a.2 = .decr ∨ a.2 = .compare ∧ (attempts a.1).outcome = .ok false

/-- Slots are used while the counter they were reserved in lives. -/
def Timely (as : List (ℕ × Act)) : Prop :=
  ∀ us i vs a ws, as = us ++ (i, .reserve) :: vs ++ (i, a) :: ws → (attempts i).failKey = key →
    UsesSlot attempts (i, a) → ∀ b ∈ vs, ¬ Boundary attempts key b

end

/-! ### The counters -/

theorem count_incrWithWindow (s : Store) (k key : String) {w : ℕ} (hw : 0 < w) :
    (incrWithWindow s k w).2.count key = if key = k then s.count key + 1 else s.count key := by
  have h := congrFun (counters_incrWithWindow s k hw) key
  rw [Store.counters, FakeStore.set] at h
  rw [Store.count, h]
  by_cases hk : key = k
  · subst hk
    rw [Function.update_self, if_pos rfl]
    rfl
  · rw [Function.update_of_ne hk, if_neg hk]
    rfl

theorem count_decr (s : Store) (k key : String) :
    (s.decr k).2.count key = if key = k then s.count key - 1 else s.count key := by
  by_cases hk : key = k
  · subst hk
    cases h : s key <;> simp [Store.decr, Store.incrBy, Store.count, Store.get, h, sub_eq_add_neg]
  · cases h : s k <;> simp [Store.decr, Store.incrBy, Store.count, Store.get, h, hk]

theorem count_del (s : Store) (k key : String) :
    (s.del k).count key = if key = k then 0 else s.count key := by
  by_cases hk : key = k
  · simp [Store.del, Store.count, Store.get, hk]
  · simp [Store.del, Store.count, Store.get, hk]

/-! ### What a step does -/

/-- The attempt has a slot that it has not given back, or its PIN was wrong. -/
def Holding (ph : Phase) : Prop := ph = .reserved ∨ (∃ fault, ph = .faulted fault) ∨ EndedWrong ph

/-- An admitted reservation: one slot more, within the limit. -/
structure Admits (attempts : ℕ → Attempt) (key : String) (i : ℕ) (redis redis' : Store)
    (ph ph' : Phase) : Prop where
  own : (attempts i).failKey = key
  start : ph = .start
  reserved : ph' = .reserved
  below : redis.count key < PIN_FAIL_LIMIT
  count : redis'.count key = redis.count key + 1

/-- A refund: one slot less. -/
structure Refunds (attempts : ℕ → Attempt) (key : String) (i : ℕ) (a : Act) (redis redis' : Store)
    (ph ph' : Phase) : Prop where
  own : (attempts i).failKey = key
  decr : a = .decr
  held : Holding ph
  released : ¬ Holding ph'
  count : redis'.count key = redis.count key - 1

/-- Nothing is given back, and an attempt on the counter takes no slot; it may find its PIN wrong. -/
structure Keeps (attempts : ℕ → Attempt) (key : String) (i : ℕ) (a : Act) (redis redis' : Store)
    (ph ph' : Phase) : Prop where
  count : redis.count key ≤ redis'.count key
  holding : (attempts i).failKey = key → Holding ph' → Holding ph
  wrong : EndedWrong ph' → EndedWrong ph ∨ a = .compare ∧ (attempts i).outcome = .ok false

variable {attempts : ℕ → Attempt} {key : String} {i : ℕ} {a : Act} {ph ph' : Phase}
variable {redis redis' : Store}

theorem not_endedWrong_classify {fault : DecryptFault} :
    ¬ EndedWrong (.failed (classifyPinDecryptError fault)) := by
  rintro (h | ⟨n, h⟩)
  · cases h
  · cases fault <;> cases h

theorem not_holding_classify {fault : DecryptFault} :
    ¬ Holding (.failed (classifyPinDecryptError fault)) := by
  rintro (h | ⟨_, h⟩ | h)
  · cases h
  · cases h
  · exact not_endedWrong_classify h

theorem next_expire (k : String) : next attempts i redis ph (.expire k) =
    match redis k with
    | some ⟨_, some _⟩ => some (redis.del k, ph)
    | _ => none := by
  cases ph <;> rfl

theorem next_reserve : next attempts i redis .start .reserve =
    match consume redis (pinLimit (attempts i).failKey) with
    | (some .ok, redis) => some (redis, .reserved)
    | (some (.blocked _ _ retryAfter), redis) => some (redis, .failed (.PIN_RATE_LIMIT_EXCEEDED retryAfter))
    | (none, _) => none := rfl

theorem next_compare : next attempts i redis .reserved .compare =
    match (attempts i).outcome with
    | .error fault => some (redis, .faulted fault)
    | .ok false => some (redis, .wrongPin)
    | .ok true => some (redis, .matched) := rfl

theorem reserve_cases (h : next attempts i redis .start .reserve = some (redis', ph')) :
    Admits attempts key i redis redis' .start ph' ∨
      Keeps attempts key i .reserve redis redis' .start ph' := by
  obtain ⟨hstore, hok, -⟩ := consume_pinLimit redis (attempts i).failKey
  have hcount := count_incrWithWindow redis (attempts i).failKey key
    (show 0 < PIN_FAIL_WINDOW by decide)
  rw [← hstore] at hcount
  have hle : redis.count key ≤ (consume redis (pinLimit (attempts i).failKey)).2.count key := by
    rw [hcount]
    split_ifs <;> omega
  rw [next_reserve] at h
  split at h
  · next redis₁ hc =>
    cases h
    rw [hc] at hok hcount hle
    by_cases hkey : (attempts i).failKey = key
    · subst hkey
      rw [if_pos rfl] at hcount
      exact .inl ⟨rfl, rfl, rfl, hok.mp rfl, hcount⟩
    · exact .inr ⟨hle, fun h => absurd h hkey, by simp [EndedWrong]⟩
  · next hc =>
    cases h
    rw [hc] at hle
    exact .inr ⟨hle, by simp [Holding, EndedWrong], by simp [EndedWrong]⟩
  · cases h

theorem compare_cases (h : next attempts i redis .reserved .compare = some (redis', ph')) :
    Keeps attempts key i .compare redis redis' .reserved ph' := by
  rw [next_compare] at h
  split at h
  · cases h
    exact ⟨le_rfl, fun _ _ => .inl rfl, by simp [EndedWrong]⟩
  · next hout =>
    cases h
    exact ⟨le_rfl, fun _ _ => .inl rfl, fun _ => .inr ⟨rfl, hout⟩⟩
  · cases h
    exact ⟨le_rfl, fun _ _ => .inl rfl, by simp [EndedWrong]⟩

theorem decr_cases {fault : DecryptFault}
    (h : next attempts i redis (.faulted fault) .decr = some (redis', ph')) :
    Refunds attempts key i .decr redis redis' (.faulted fault) ph' ∨
      Keeps attempts key i .decr redis redis' (.faulted fault) ph' := by
  cases h
  have hcount := count_decr redis (attempts i).failKey key
  have hreleased : ¬ EndedWrong (if (redis.decr (attempts i).failKey).1 < 0 then .negative fault
      else .failed (classifyPinDecryptError fault)) ∧
      ¬ Holding (if (redis.decr (attempts i).failKey).1 < 0 then .negative fault
      else .failed (classifyPinDecryptError fault)) := by
    split_ifs
    · simp [Holding, EndedWrong]
    · exact ⟨not_endedWrong_classify, not_holding_classify⟩
  by_cases hkey : (attempts i).failKey = key
  · rw [if_pos hkey.symm] at hcount
    exact .inl ⟨hkey, rfl, .inr (.inl ⟨fault, rfl⟩), hreleased.2, hcount⟩
  · rw [if_neg (Ne.symm hkey)] at hcount
    exact .inr ⟨hcount.ge, fun h => absurd h hkey, fun h => absurd h hreleased.1⟩

/-- Deleting another counter keeps this one. -/
theorem del_cases (k : String) (hph : Holding ph' → Holding ph) (hwrong : EndedWrong ph' → EndedWrong ph) :
    k = key ∨ Keeps attempts key i a redis (redis.del k) ph ph' := by
  by_cases hk : key = k
  · exact .inl hk.symm
  · exact .inr ⟨by rw [count_del, if_neg hk], fun _ => hph, fun h => .inl (hwrong h)⟩

/-- A step clears the counter, or it admits, refunds or keeps. -/
theorem next_cases (h : next attempts i redis ph a = some (redis', ph')) :
    Boundary attempts key (i, a) ∨ Admits attempts key i redis redis' ph ph' ∨
      Refunds attempts key i a redis redis' ph ph' ∨ Keeps attempts key i a redis redis' ph ph' := by
  cases a with
  | expire k =>
    rw [next_expire] at h
    split at h
    · cases h
      rcases del_cases k id id with hk | hkeeps
      · exact .inl (.inl (by rw [hk]))
      · exact .inr (.inr (.inr hkeeps))
    · cases h
  | reserve =>
    cases ph with
    | start => exact .inr ((reserve_cases h).imp_right .inr)
    | _ => cases h
  | compare =>
    cases ph with
    | reserved => exact .inr (.inr (.inr (compare_cases h)))
    | _ => cases h
  | decr =>
    cases ph with
    | faulted fault => exact .inr (.inr (decr_cases h))
    | _ => cases h
  | get =>
    cases ph with
    | wrongPin =>
      cases h
      exact .inr (.inr (.inr ⟨le_rfl, fun _ _ => .inr (.inr (.inl rfl)), fun _ => .inl (.inl rfl)⟩))
    | _ => cases h
  | swallow =>
    cases ph with
    | faulted fault =>
      cases h
      exact .inr (.inr (.inr ⟨le_rfl, fun _ hh => absurd hh not_holding_classify,
        fun hw => absurd hw not_endedWrong_classify⟩))
    | negative fault =>
      cases h
      exact .inr (.inr (.inr ⟨le_rfl, fun _ hh => absurd hh not_holding_classify,
        fun hw => absurd hw not_endedWrong_classify⟩))
    | _ => cases h
  | del =>
    cases ph with
    | negative fault =>
      cases h
      rcases del_cases _ (fun hh => absurd hh not_holding_classify)
        (fun hw => absurd hw not_endedWrong_classify) with hk | hkeeps
      · exact .inl (.inr ⟨hk, .inr rfl⟩)
      · exact .inr (.inr (.inr hkeeps))
    | _ => cases h
  | clear =>
    cases ph with
    | matched =>
      cases h
      have hnot : ¬ Holding .cleared := by simp [Holding, EndedWrong]
      rcases del_cases _ (fun hh => absurd hh hnot) (fun hw => absurd (.inr (.inr hw)) hnot) with
        hk | hkeeps
      · exact .inl (.inr ⟨hk, .inl rfl⟩)
      · exact .inr (.inr (.inr hkeeps))
    | _ => cases h

/-- A clear and an expiry leave no counter. -/
theorem next_boundary (hb : Boundary attempts key (i, a))
    (h : next attempts i redis ph a = some (redis', ph')) : redis'.count key = 0 := by
  rcases hb with hexp | ⟨hkey, hclear | hdel⟩
  · dsimp only at hexp
    subst hexp
    rw [next_expire] at h
    split at h
    · cases h
      rw [count_del, if_pos rfl]
    · cases h
  · dsimp only at hclear hkey
    subst hclear
    cases ph with
    | matched =>
      cases h
      rw [count_del, if_pos hkey.symm]
    | _ => cases h
  · dsimp only at hdel hkey
    subst hdel
    cases ph with
    | negative fault =>
      cases h
      rw [count_del, if_pos hkey.symm]
    | _ => cases h

/-- Only a reservation starts an attempt. -/
theorem next_start (h : next attempts i redis ph a = some (redis', ph')) (hph : ph = .start) :
    ph' = .start ∨ a = .reserve := by
  subst hph
  cases a with
  | reserve => exact .inr rfl
  | expire k =>
    rw [next_expire] at h
    split at h
    · cases h
      exact .inl rfl
    · cases h
  | _ => cases h

/-- A wrong PIN stays one. -/
theorem next_endedWrong (h : next attempts i redis ph a = some (redis', ph')) (hph : EndedWrong ph) :
    EndedWrong ph' := by
  cases a with
  | expire k =>
    rw [next_expire] at h
    split at h
    · cases h
      exact hph
    · cases h
  | get =>
    rcases hph with rfl | ⟨n, rfl⟩
    · cases h
      exact .inr ⟨_, rfl⟩
    · cases h
  | _ => rcases hph with rfl | ⟨n, rfl⟩ <;> cases h

/-! ### The life of a counter -/

variable {s s' s₁ s₂ : Pool ℕ Store Phase}

/-- Since `s₁` the counter has lived, and `slots` has the attempts that took a slot of it and have not
    given it back. -/
structure Lives (attempts : ℕ → Attempt) (key : String) (s₁ s : Pool ℕ Store Phase)
    (slots : Finset ℕ) : Prop where
  counted : (slots.card : ℤ) ≤ s.store.count key
  bounded : slots.card ≤ PIN_FAIL_LIMIT
  holding : ∀ i, (attempts i).failKey = key → s₁.proc i = .start → Holding (s.proc i) → i ∈ slots
  wrong : ∀ i, (attempts i).failKey = key → EndedWrong (s.proc i) → EndedWrong (s₁.proc i) ∨ i ∈ slots

theorem lives_begin (h0 : 0 ≤ s.store.count key) : Lives attempts key s s ∅ := by
  refine ⟨by simpa using h0, by simp, fun i _ hstart hh => ?_, fun i _ hw => .inl hw⟩
  rw [hstart] at hh
  simp [Holding, EndedWrong] at hh

variable {slots : Finset ℕ}

theorem lives_admits (hl : Lives attempts key s₁ s slots)
    (ha : Admits attempts key i s.store redis' (s.proc i) ph') :
    Lives attempts key s₁ ⟨redis', Function.update s.proc i ph'⟩ (insert i slots) := by
  have hcard := Finset.card_insert_le i slots
  have hcounted := hl.counted
  have hbelow := ha.below
  have hcount := ha.count
  refine ⟨?_, ?_, fun j hj hstart hh => ?_, fun j hj hw => ?_⟩
  · dsimp only
    omega
  · omega
  · by_cases hji : j = i
    · exact hji ▸ Finset.mem_insert_self i slots
    · dsimp only at hh
      rw [Function.update_of_ne hji] at hh
      exact Finset.mem_insert_of_mem (hl.holding j hj hstart hh)
  · by_cases hji : j = i
    · exact .inr (hji ▸ Finset.mem_insert_self i slots)
    · dsimp only at hw
      rw [Function.update_of_ne hji] at hw
      exact (hl.wrong j hj hw).imp_right (Finset.mem_insert_of_mem ·)

theorem lives_refunds (hl : Lives attempts key s₁ s slots) (hstart : s₁.proc i = .start)
    (hr : Refunds attempts key i a s.store redis' (s.proc i) ph') :
    Lives attempts key s₁ ⟨redis', Function.update s.proc i ph'⟩ (slots.erase i) := by
  have hmem : i ∈ slots := hl.holding i hr.own hstart hr.held
  have hcard := Finset.card_erase_add_one hmem
  have hcounted := hl.counted
  have hbounded := hl.bounded
  have hcount := hr.count
  have hne : ∀ j, Holding (Function.update s.proc i ph' j) → j ≠ i := by
    rintro j hh rfl
    rw [Function.update_self] at hh
    exact hr.released hh
  refine ⟨?_, ?_, fun j hj hs hh => ?_, fun j hj hw => ?_⟩
  · dsimp only
    omega
  · omega
  · have hji := hne j hh
    dsimp only at hh
    rw [Function.update_of_ne hji] at hh
    exact Finset.mem_erase.mpr ⟨hji, hl.holding j hj hs hh⟩
  · have hji := hne j (.inr (.inr hw))
    dsimp only at hw
    rw [Function.update_of_ne hji] at hw
    exact (hl.wrong j hj hw).imp_right fun hm => Finset.mem_erase.mpr ⟨hji, hm⟩

theorem lives_keeps (hl : Lives attempts key s₁ s slots)
    (hstart : (attempts i).failKey = key → UsesSlot attempts (i, a) → s₁.proc i = .start)
    (hk : Keeps attempts key i a s.store redis' (s.proc i) ph') :
    Lives attempts key s₁ ⟨redis', Function.update s.proc i ph'⟩ slots := by
  refine ⟨hl.counted.trans hk.count, hl.bounded, fun j hj hs hh => ?_, fun j hj hw => ?_⟩
  · dsimp only at hh
    by_cases hji : j = i
    · subst hji
      rw [Function.update_self] at hh
      exact hl.holding j hj hs (hk.holding hj hh)
    · rw [Function.update_of_ne hji] at hh
      exact hl.holding j hj hs hh
  · dsimp only at hw
    by_cases hji : j = i
    · subst hji
      rw [Function.update_self] at hw
      rcases hk.wrong hw with hw' | huses
      · exact hl.wrong j hj hw'
      · -- A wrong compare: the attempt holds a slot of this counter.
        exact .inr (hl.holding j hj (hstart hj (.inr huses)) (hk.holding hj (.inr (.inr hw))))
    · rw [Function.update_of_ne hji] at hw
      exact hl.wrong j hj hw

/-- A step within the life of the counter, by an attempt that uses a slot of it if any. -/
theorem lives_step {a : ℕ × Act} (hl : ∃ slots, Lives attempts key s₁ s slots)
    (hb : ¬ Boundary attempts key a)
    (hstart : (attempts a.1).failKey = key → UsesSlot attempts a → s₁.proc a.1 = .start)
    (h : poolStep (next attempts) s a = some s') : ∃ slots, Lives attempts key s₁ s' slots := by
  obtain ⟨slots, hl⟩ := hl
  obtain ⟨redis', ph', hn, rfl⟩ := poolStep_eq_some.mp h
  rcases next_cases hn with hb' | ha | hr | hk
  · exact absurd hb' hb
  · exact ⟨_, lives_admits hl ha⟩
  · exact ⟨_, lives_refunds hl (hstart hr.own (.inl hr.decr)) hr⟩
  · exact ⟨_, lives_keeps hl hstart hk⟩

theorem lives_run {as : List (ℕ × Act)} (h0 : 0 ≤ s₁.store.count key)
    (has : ∀ a ∈ as, ¬ Boundary attempts key a ∧
      ((attempts a.1).failKey = key → UsesSlot attempts a → s₁.proc a.1 = .start))
    (hrun : run (poolStep (next attempts)) s₁ as = some s) :
    ∃ slots, Lives attempts key s₁ s slots :=
  run_invariant_along (I := fun s => ∃ slots, Lives attempts key s₁ s slots) _
    (fun _ _ _ hl ha h => lives_step hl ha.1 ha.2 h) (along_of_forall has s₁)
    ⟨∅, lives_begin h0⟩ hrun

/-! ### Runs -/

theorem endedWrong_run {as : List (ℕ × Act)} {i : ℕ}
    (hrun : run (poolStep (next attempts)) s as = some s') (hw : EndedWrong (s.proc i)) :
    EndedWrong (s'.proc i) := by
  refine run_invariant (I := fun s => EndedWrong (s.proc i)) (fun s a s' hw h => ?_) hw hrun
  obtain ⟨redis', ph', hn, rfl⟩ := poolStep_eq_some.mp h
  dsimp only
  by_cases hi : i = a.1
  · subst hi
    rw [Function.update_self]
    exact next_endedWrong hn hw
  · rw [Function.update_of_ne hi]
    exact hw

/-- An attempt that has begun has reserved, or was blocked at it. -/
theorem reserve_mem {i : ℕ} {as : List (ℕ × Act)} (hs : s.proc i = .start)
    (hrun : run (poolStep (next attempts)) s as = some s') (hs' : s'.proc i ≠ .start) :
    (i, Act.reserve) ∈ as := by
  induction as generalizing s with
  | nil =>
    cases hrun
    exact absurd hs hs'
  | cons a as ih =>
    obtain ⟨t, ht, hrun⟩ := run_cons_eq_some.mp hrun
    by_cases hti : t.proc i = .start
    · exact List.mem_cons_of_mem _ (ih hti hrun)
    · obtain ⟨redis', ph', hn, rfl⟩ := poolStep_eq_some.mp ht
      dsimp only at hti
      by_cases hi : i = a.1
      · subst hi
        rw [Function.update_self] at hti
        obtain ⟨j, act⟩ := a
        obtain rfl := (next_start hn hs).resolve_left hti
        exact List.mem_cons_self ..
      · rw [Function.update_of_ne hi] at hti
        exact absurd hs hti

/-- After the last clear or expiry the counter lives, and only the attempts that have not begun by
    then use slots of it. -/
theorem lives_since {xs ys : List (ℕ × Act)} (h0 : 0 ≤ redis.count key)
    (hlast : xs = [] ∨ ∃ us b, xs = us ++ [b] ∧ Boundary attempts key b)
    (hxs : run (poolStep (next attempts)) (initial redis) xs = some s₁)
    (hys : run (poolStep (next attempts)) s₁ ys = some s)
    (hb : ∀ a ∈ ys, ¬ Boundary attempts key a) (ht : Timely attempts key (xs ++ ys)) :
    ∃ slots, Lives attempts key s₁ s slots := by
  have hcount : 0 ≤ s₁.store.count key := by
    rcases hlast with rfl | ⟨us, b, rfl, hbound⟩
    · cases hxs
      exact h0
    · obtain ⟨t, -, hlast⟩ := run_append_eq_some.mp hxs
      obtain ⟨s₁', hstep, hnil⟩ := run_cons_eq_some.mp hlast
      cases hnil
      obtain ⟨redis', ph', hn, rfl⟩ := poolStep_eq_some.mp hstep
      exact (next_boundary hbound hn).ge
  refine lives_run hcount (fun a ha => ⟨hb a ha, fun hkey huses => ?_⟩) hys
  by_contra hstart
  -- Its reservation came before the clear or the expiry that ends `xs`.
  obtain ⟨i, act⟩ := a
  obtain ⟨us, vs, rfl⟩ := List.append_of_mem (reserve_mem rfl hxs hstart)
  obtain ⟨ys₁, ys₂, rfl⟩ := List.append_of_mem ha
  rcases hlast with hnil | ⟨ws, b, hws, hbound⟩
  · simp at hnil
  · have hmem : b ∈ vs := by
      rcases List.eq_nil_or_concat vs with rfl | ⟨vs, c, rfl⟩
      · obtain ⟨-, hb⟩ := List.append_inj' hws rfl
        cases hb
        exact absurd hbound (by simp [Boundary])
      · rw [List.concat_eq_append, ← List.cons_append, ← List.append_assoc] at hws
        obtain ⟨-, hc⟩ := List.append_inj' hws rfl
        cases hc
        simp
    refine ht us i (vs ++ ys₁) act ys₂ (by simp) hkey huses b ?_ hbound
    exact List.mem_append_left _ hmem

/-- CORRECT while slots are used in time: in every interleaving in which no attempt finds its PIN
    wrong or gives its slot back after the counter it reserved in has been cleared or has expired, at
    most PIN_FAIL_LIMIT attempts end as a wrong PIN between two clears or expiries of a counter. -/
theorem pin_ceiling (attempts : ℕ → Attempt) (key : String) (redis : Store) (as : List (ℕ × Act))
    (h0 : 0 ≤ redis.count key) (ht : Timely attempts key as) : Ceiling attempts key redis as := by
  rintro xs ys zs s₁ s₂ rfl hxs hys hb
  obtain ⟨xs, us, rfl, hus, hlast⟩ := exists_last (Boundary attempts key) xs
  obtain ⟨s₀, hxs, hrun⟩ := run_append_eq_some.mp hxs
  have hall : ∀ a ∈ us ++ ys, ¬ Boundary attempts key a := by
    intro a ha
    exact (List.mem_append.mp ha).elim (hus a) (hb a)
  have ht' : Timely attempts key (xs ++ (us ++ ys)) := by
    rintro ws i vs a ws' he
    exact ht ws i vs a (ws' ++ zs) (by simp only [← List.append_assoc] at he ⊢; rw [he]; simp)
  obtain ⟨slots, hl⟩ := lives_since h0 hlast hxs (run_append_eq_some.mpr ⟨s₁, hrun, hys⟩) hall ht'
  have hsub : wrongBetween attempts key s₁ s₂ ⊆ ↑slots := by
    rintro i ⟨hkey, hw, hnw⟩
    exact (hl.wrong i hkey hw).resolve_left fun hw₀ => hnw (endedWrong_run hrun hw₀)
  calc (wrongBetween attempts key s₁ s₂).encard
      ≤ (slots : Set ℕ).encard := Set.encard_le_encard hsub
    _ = slots.card := Set.encard_coe_eq_coe_finsetCard slots
    _ ≤ PIN_FAIL_LIMIT := Nat.cast_le.mpr hl.bounded

/-! ### One attempt alone -/

/-- The fields of attempt `i` are what the call is run on. -/
def IsCall (attempts : ℕ → Attempt) (i : ℕ) (el : Eligible)
    (decrypt : String → Except DecryptFault String) (userId : String) (data : Request) : Prop :=
  attempts i = ⟨userId, data.branchId, el.redemptionPin, data.pin, decrypt⟩

/-- How the phase of an attempt and the result of a call agree. -/
def Agrees {α : Type} (ph : Phase) (result : Except Failure α) : Prop :=
  ph = .cleared ∨ ∃ e, ph = .failed e ∧ result = .error (.app e)

variable {el : Eligible} {decrypt : String → Except DecryptFault String} {userId : String}
variable {data : Request} {c : Call} {w : World}

theorem redeemAdmitted_alone (hi : IsCall attempts i el decrypt userId data) :
    ∃ as ph, run (soloStep (next attempts) i) (w.redis, .reserved) as
        = some ((redeemAdmitted el decrypt userId data c w).2.redis, ph) ∧
      Agrees ph (redeemAdmitted el decrypt userId data c w).1 := by
  have hkey : (attempts i).failKey = pinFailCount userId data.branchId := by rw [hi]; rfl
  have hout : (attempts i).outcome = pinMatches decrypt el.redemptionPin data.pin := by rw [hi]; rfl
  rw [redeemAdmitted]
  cases hm : pinMatches decrypt el.redemptionPin data.pin with
  | error fault =>
    by_cases hneg : (w.redis.decr (pinFailCount userId data.branchId)).1 < 0
    · refine ⟨[.compare, .decr, .del], _, ?_, .inr ⟨_, rfl, rfl⟩⟩
      simp [run, soloStep, next, hout, hm, hkey, hneg, refund]
    · refine ⟨[.compare, .decr], _, ?_, .inr ⟨_, rfl, rfl⟩⟩
      simp [run, soloStep, next, hout, hm, hkey, hneg, refund]
  | ok right =>
    cases right with
    | false =>
      refine ⟨[.compare, .get], _, ?_, .inr ⟨_, rfl, rfl⟩⟩
      simp [run, soloStep, next, hout, hm, hkey]
    | true =>
      refine ⟨[.compare, .clear], .cleared, ?_, .inl rfl⟩
      cases claim el w.tables (userId, data.voucherId) c <;>
        simp [run, soloStep, next, hout, hm, hkey]

/-- Alone an attempt does to the counters what `createRedemption` does from the limiter on, and fails
    with the same error. -/
theorem redeemWithPin_alone (hi : IsCall attempts i el decrypt userId data) (hs : s.store = w.redis)
    (hstart : s.proc i = .start) :
    ∃ (as : List Act) (s' : Pool ℕ Store Phase), run (poolStep (next attempts)) s (as.map fun a => (i, a)) = some s' ∧
      s'.store = (redeemWithPin el decrypt userId data c w).2.redis ∧
      Agrees (s'.proc i) (redeemWithPin el decrypt userId data c w).1 := by
  have hkey : (attempts i).failKey = pinFailCount userId data.branchId := by rw [hi]; rfl
  have hnone := (consume_pinLimit w.redis (pinFailCount userId data.branchId)).2.2
  have hpool : ∀ (as : List Act) (x : Store) (ph : Phase) (result : Except Failure VoucherRedemption),
      run (soloStep (next attempts) i) (w.redis, .start) as = some (x, ph) → Agrees ph result →
        ∃ (as : List Act) (s' : Pool ℕ Store Phase),
          run (poolStep (next attempts)) s (as.map fun a => (i, a)) = some s' ∧
          s'.store = x ∧ Agrees (s'.proc i) result := by
    intro as x ph result h hagree
    rw [← hs, ← hstart] at h
    refine ⟨as, _, pool_run_solo h, rfl, ?_⟩
    dsimp only
    rwa [Function.update_self]
  rw [redeemWithPin]
  cases hc : consume w.redis (pinLimit (pinFailCount userId data.branchId)) with
  | mk result redis =>
    rw [hc] at hnone
    cases result with
    | none => exact absurd rfl hnone
    | some result =>
      cases result with
      | ok =>
        obtain ⟨as, ph, hrun, hagree⟩ := redeemAdmitted_alone (c := c) (w := { w with redis := redis }) hi
        refine hpool (.reserve :: as) _ ph _ (run_cons_eq_some.mpr ⟨(redis, .reserved), ?_, hrun⟩) hagree
        simp [soloStep, next, hkey, hc]
      | blocked scope key retryAfter =>
        refine hpool [.reserve] _ (.failed (.PIN_RATE_LIMIT_EXCEEDED retryAfter)) _ ?_
          (.inr ⟨_, rfl, rfl⟩)
        simp [run, soloStep, next, hkey, hc]

/-- A branch whose PIN has been encrypted anew: attempt 0 has read the old text, whose key is gone.
    Attempt 1 has the right PIN, all others guess. -/
def reencrypted : ℕ → Attempt := fun i =>
  { userId := "user"
    branchId := "branch"
    redemptionPin := if i = 0 then "old" else "new"
    pin := if i = 1 then "1234" else "0000"
    decrypt := fun stored => if stored = "new" then .ok "1234" else .error .KeyNotAvailableError }

def twoForOne : Eligible :=
  ⟨⟨.ACTIVE, .APPROVED, .BOGO, none, 5, none, "merchant", .ACTIVE, []⟩, 0, none, 0, "new"⟩

theorem redeemWithPin_alone_rightPin : ∃ (as : List Act) (s' : Pool ℕ Store Phase),
    run (poolStep (next reencrypted)) (initial fun _ => none) (as.map fun a => (1, a)) = some s' ∧
      s'.store = (redeemWithPin twoForOne (reencrypted 1).decrypt "user" ⟨"voucher", "branch", "1234"⟩
        ⟨0, "branch", "AAAA", 5⟩ ⟨⟨[], fun _ => none⟩, fun _ => none⟩).2.redis ∧
      Agrees (s'.proc 1) (redeemWithPin twoForOne (reencrypted 1).decrypt "user" ⟨"voucher", "branch", "1234"⟩
        ⟨0, "branch", "AAAA", 5⟩ ⟨⟨[], fun _ => none⟩, fun _ => none⟩).1 :=
  redeemWithPin_alone rfl rfl rfl

def guess (i : ℕ) : List (ℕ × Act) := [(i, .reserve), (i, .compare)]

/-- The fault gives its slot back at once; five guesses, and no sixth. -/
def burst : List (ℕ × Act) :=
  [(0, .reserve), (0, .compare), (0, .decr)] ++ guess 2 ++ guess 3 ++ guess 4 ++ guess 5 ++ guess 6 ++
    [(7, .reserve)]

theorem pin_ceiling_burst :
    (∃ s, run (poolStep (next reencrypted)) (initial fun _ => none) burst = some s ∧
      s.proc 6 = .wrongPin ∧ s.proc 7 = .failed (.PIN_RATE_LIMIT_EXCEEDED 900)) ∧
    Ceiling reencrypted "pin:fail:user:branch" (fun _ => none) burst := by
  refine ⟨⟨_, rfl, rfl, rfl⟩, pin_ceiling reencrypted _ _ burst (by decide) ?_⟩
  intro us i vs a ws he _ _ b hb
  have hmem : b ∈ burst := by
    rw [he]
    simp [hb]
  have hnone : ∀ b ∈ burst, ¬ Boundary reencrypted "pin:fail:user:branch" b := by
    simp [burst, guess, Boundary]
  exact hnone b hmem

/-- The right PIN clears the counter before the fault gives its slot back. -/
def cleared : List (ℕ × Act) := [(0, .reserve), (1, .reserve), (1, .compare), (1, .clear)]

/-- Five guesses, the late refund, and a sixth guess. -/
def lateRefund : List (ℕ × Act) :=
  guess 2 ++ guess 3 ++ guess 4 ++ guess 5 ++ guess 6 ++ [(0, .compare), (0, .decr)] ++ guess 7

/-- Six attempts reserve in the new counter and end as a wrong PIN. -/
theorem not_pin_ceiling_lateRefund :
    ¬ Ceiling reencrypted "pin:fail:user:branch" (fun _ => none) (cleared ++ lateRefund) := by
  intro hc
  obtain ⟨s₁, hs₁, hstart⟩ : ∃ s₁,
      run (poolStep (next reencrypted)) (initial fun _ => none) cleared = some s₁ ∧
        ∀ i ∈ ({2, 3, 4, 5, 6, 7} : Finset ℕ), s₁.proc i = .start := by
    refine ⟨_, rfl, ?_⟩
    simp [initial]
  obtain ⟨s₂, hs₂, hwrong⟩ : ∃ s₂,
      run (poolStep (next reencrypted)) s₁ lateRefund = some s₂ ∧
        ∀ i ∈ ({2, 3, 4, 5, 6, 7} : Finset ℕ), s₂.proc i = .wrongPin := by
    cases hs₁
    refine ⟨_, rfl, ?_⟩
    simp
  have hfive := hc cleared lateRefund [] s₁ s₂ (by simp) hs₁ hs₂
    (by simp [lateRefund, guess, Boundary])
  have hsix : (({2, 3, 4, 5, 6, 7} : Finset ℕ) : Set ℕ)
      ⊆ wrongBetween reencrypted "pin:fail:user:branch" s₁ s₂ := by
    intro i hi
    refine ⟨rfl, .inl (hwrong i hi), ?_⟩
    rw [hstart i hi]
    simp [EndedWrong]
  have hle := (Set.encard_le_encard hsix).trans hfive
  rw [Set.encard_coe_eq_coe_finsetCard, Nat.cast_le] at hle
  exact absurd hle (by decide)

end Redeemo.PinLimit
