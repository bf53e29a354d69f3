import Redeemo.Lib.Runs
import Redeemo.Shared.LimiterScript
import Mathlib.Data.List.Nodup

/-! Any sequence of `consume()` calls and key expiries.

    Beside the store a run keeps, for every key, how many allowed attempts have counted on it since
    the key last came into being. `consume_cases` says once what a call can do; from it follow the
    frame (only an allowed attempt touches a gate, a victim or a cooldown), the cost of an allowed
    attempt on each key, and the invariant `Accounted`: gate and victim counters are exactly the
    allowed attempts of the key's lifetime and stay within the limit, no abuser key allows more than
    its limit, and no key is without an expiry. -/

namespace Redeemo.Limiter

/-- The counter of a key; an absent key counts 0. -/
def Store.count (s : Store) (key : String) : ℤ := (s.get key).getD 0

/-- The counters of a request: every key but the cooldown. -/
def ConsumeInput.specs (input : ConsumeInput) : List LimitSpec :=
  input.gateKeys ++ input.abuserKeys ++ input.victimKeys

structure Counted where
  store : Store
  /-- Allowed attempts that counted on the key in its present lifetime. -/
  allowed : String → ℕ

inductive LimiterEvent where
  | attempt (input : ConsumeInput)
  /-- The key's time is up. -/
  | expire (key : String)
  /-- The key's remaining time runs down to `sec`. -/
  | elapse (key : String) (sec : ℕ)

def limiterStep (c : Counted) : LimiterEvent → Option Counted
  | .attempt input =>
    let (o, s) := consumeLua (packKeys input) (packArgv input) c.store
    some ⟨s, fun k => if s k = none then 0
      else if o = .allowed ∧ k ∈ input.specs.map (·.key) then c.allowed k + 1 else c.allowed k⟩
  | .expire key =>
    match c.store key with
    | some ⟨_, some _⟩ => some ⟨c.store.del key, Function.update c.allowed key 0⟩
    | _ => none
  | .elapse key sec =>
    match c.store key with
    | some ⟨v, some t⟩ =>
      if sec ≤ t then some { c with store := Function.update c.store key (some ⟨v, some sec⟩) }
      else none
    | _ => none

def noKeys : Counted := ⟨fun _ => none, fun _ => 0⟩

/-! ### What each key is for -/

/-- What a key is used for: its class, limit and window, the same in every request that names it. -/
structure KeyUse where
  scope : ConsumeScope
  limit : ℕ
  windowSec : ℕ

/-- Every request names a key in one class, with one limit and window, and no gate or victim key
    twice. -/
structure ConsumeInput.Fits (input : ConsumeInput) (use : String → KeyUse) : Prop where
  gate : ∀ sp ∈ input.gateKeys, use sp.key = ⟨.gate, sp.limit, sp.windowSec⟩
  abuser : ∀ sp ∈ input.abuserKeys, use sp.key = ⟨.abuser, sp.limit, sp.windowSec⟩
  victim : ∀ sp ∈ input.victimKeys, use sp.key = ⟨.victim, sp.limit, sp.windowSec⟩
  cooldown : ∀ c ∈ input.cooldown, (use c.key).scope = .cooldown
  gateNodup : (input.gateKeys.map (·.key)).Nodup
  victimNodup : (input.victimKeys.map (·.key)).Nodup

def LimiterEvent.Fits (use : String → KeyUse) : LimiterEvent → Prop
  | .attempt input => input.Fits use
  | _ => True

/-- The accounting of a state. -/
structure Accounted (use : String → KeyUse) (c : Counted) : Prop where
  exact : ∀ k, (use k).scope = .gate ∨ (use k).scope = .victim →
    c.store.count k = c.allowed k ∧ c.allowed k ≤ (use k).limit
  abuser : ∀ k, (use k).scope = .abuser → c.allowed k ≤ (use k).limit
  expiring : ∀ k e, c.store k = some e → e.ttl ≠ none

/-- A call that is not allowed leaves every key but the abusers as it was. -/
def BlockedFrame (use : String → KeyUse) (input : ConsumeInput) (s : Store) : Prop :=
  (consumeLua (packKeys input) (packArgv input) s).1 ≠ .allowed → ∀ k,
    (use k).scope ≠ .abuser → (consumeLua (packKeys input) (packArgv input) s).2 k = s k

/-! ### One increment -/

/-- Every key counts at least one attempt and expires. -/
def Healthy (s : Store) : Prop := ∀ k e, s k = some e → 1 ≤ e.value ∧ e.ttl ≠ none

/-- What an increment with a window makes of a key. -/
def bump (w : ℕ) : Option Entry → Option Entry
  | none => if w = 0 then none else some ⟨1, some w⟩
  | some e => some ⟨e.value + 1, e.ttl⟩

theorem incrWithWindow_snd {s : Store} (h : Healthy s) (key : String) (w : ℕ) :
    (incrWithWindow s key w).2 = Function.update s key (bump w (s key)) := by
  cases he : s key with
  | none =>
    rcases Nat.eq_zero_or_pos w with rfl | hw
    · simp [incrWithWindow, Store.incr, Store.incrBy, Store.get, Store.expire, Store.del, bump, he]
    · simp [incrWithWindow, Store.incr, Store.incrBy, Store.get, Store.expire, bump, he, hw.ne']
  | some e =>
    have h1 : e.value + 1 ≠ 1 := by
      have := (h key e he).1
      omega
    simp [incrWithWindow, Store.incr, Store.incrBy, Store.get, bump, he, h1]

theorem incrWithWindow_count (s : Store) (key : String) (w : ℕ) :
    (incrWithWindow s key w).1 = s.count key + 1 := rfl

theorem healthy_update {s : Store} (h : Healthy s) (key : String) {e : Option Entry}
    (he : ∀ x, e = some x → 1 ≤ x.value ∧ x.ttl ≠ none) : Healthy (Function.update s key e) := by
  intro k x hx
  rcases eq_or_ne k key with rfl | hne
  · rw [Function.update_self] at hx
    exact he x hx
  · rw [Function.update_of_ne hne] at hx
    exact h k x hx

theorem healthy_incr {s : Store} (h : Healthy s) (key : String) (w : ℕ) :
    Healthy (incrWithWindow s key w).2 := by
  rw [incrWithWindow_snd h]
  refine healthy_update h key fun x hx => ?_
  cases he : s key with
  | none =>
    rw [he, bump] at hx
    split at hx
    · cases hx
    · cases hx
      exact ⟨le_rfl, by simp⟩
  | some e =>
    rw [he, bump] at hx
    cases hx
    have := h key e he
    exact ⟨by simp only; omega, this.2⟩

theorem count_nonneg {s : Store} (h : Healthy s) (key : String) : 0 ≤ s.count key := by
  unfold Store.count Store.get
  cases he : s key with
  | none => simp
  | some e =>
    have := (h key e he).1
    simp only [Option.map_some, Option.getD_some]
    omega

/-! ### The phases, key by key -/

theorem countAll_healthy {s : Store} (h : Healthy s) (specs : List LimitSpec) :
    Healthy (countAll s specs) := by
  induction specs generalizing s with
  | nil => exact h
  | cons sp sps ih => exact ih (healthy_incr h sp.key sp.windowSec)

/-- An increment leaves the other keys alone. -/
theorem incrWithWindow_of_ne {key k : String} (s : Store) (w : ℕ) (h : k ≠ key) : (incrWithWindow s key w).2 k = s k := by
  have hincr : s.incrBy key 1 k = s k := by
    cases he : s key with
    | none => simp [Store.incrBy, he, h]
    | some e => simp [Store.incrBy, he, h]
  have hexpire : ∀ s : Store, s.expire key w k = s k := by
    intro s
    cases he : s key with
    | none => simp [Store.expire, he]
    | some e =>
      rw [Store.expire, he]
      dsimp only
      split_ifs
      · exact Function.update_of_ne h _ _
      · exact Function.update_of_ne h _ _
  rw [incrWithWindow, Store.incr]
  dsimp only
  split_ifs
  · rw [hexpire, hincr]
  · exact hincr

theorem countAll_of_notMem {s : Store} {specs : List LimitSpec} {k : String}
    (hk : k ∉ specs.map (·.key)) : countAll s specs k = s k := by
  induction specs generalizing s with
  | nil => rfl
  | cons sp sps ih =>
    rw [List.map_cons, List.mem_cons, not_or] at hk
    exact (ih hk.2).trans (incrWithWindow_of_ne s sp.windowSec hk.1)

/-- Counting a list without repeated keys bumps each of its keys once. -/
theorem countAll_of_mem {s : Store} (h : Healthy s) {specs : List LimitSpec} {sp : LimitSpec}
    (hn : (specs.map (·.key)).Nodup) (hsp : sp ∈ specs) :
    countAll s specs sp.key = bump sp.windowSec (s sp.key) := by
  induction specs generalizing s with
  | nil => cases hsp
  | cons x xs ih =>
    rw [List.map_cons, List.nodup_cons] at hn
    rcases List.mem_cons.mp hsp with rfl | hmem
    · have := countAll_of_notMem (s := (incrWithWindow s sp.key sp.windowSec).2) hn.1
      rw [incrWithWindow_snd h, Function.update_self] at this
      rw [← this, ← incrWithWindow_snd h]
      rfl
    · have hne : sp.key ≠ x.key := fun he => hn.1 (he ▸ List.mem_map_of_mem hmem)
      have := ih (healthy_incr h x.key x.windowSec) hn.2 hmem
      rw [incrWithWindow_snd h, Function.update_of_ne hne] at this
      rw [← this, ← incrWithWindow_snd h]
      rfl

theorem countAbusers_healthy :
    ∀ (specs : List LimitSpec) {s : Store}, Healthy s → Healthy (countAbusers specs s).2
  | [], _, h => h
  | sp :: sps, s, h => by
    simp only [countAbusers]
    split
    · exact healthy_incr h sp.key sp.windowSec
    · exact countAbusers_healthy sps (healthy_incr h sp.key sp.windowSec)

theorem countAbusers_of_notMem :
    ∀ (specs : List LimitSpec) {s : Store} {k : String},
      k ∉ specs.map (·.key) → (countAbusers specs s).2 k = s k
  | [], _, _, _ => rfl
  | sp :: sps, s, k, hk => by
    rw [List.map_cons, List.mem_cons, not_or] at hk
    have hs := incrWithWindow_of_ne s sp.windowSec hk.1
    simp only [countAbusers]
    split
    · exact hs
    · rw [countAbusers_of_notMem sps hk.2, hs]

theorem count_congr {s s' : Store} {k : String} (h : s k = s' k) : s.count k = s'.count k := by
  simp only [Store.count, Store.get, h]

theorem count_pos {s : Store} (h : Healthy s) {key : String} (hs : s key ≠ none) :
    1 ≤ s.count key := by
  unfold Store.count Store.get
  cases he : s key with
  | none => exact absurd he hs
  | some e => simpa using (h key e he).1

/-- One increment adds one to its key, unless the window has no length and the key is gone at once;
    it lowers no counter. -/
theorem incr_count {s : Store} (h : Healthy s) (key : String) (w : ℕ) :
    ((incrWithWindow s key w).2 key = none ∧ s.count key = 0) ∨
      (incrWithWindow s key w).2.count key = s.count key + 1 := by
  rw [incrWithWindow_snd h]
  cases he : s key with
  | none =>
    by_cases hw : w = 0
    · simp [bump, hw, Store.count, Store.get, he]
    · simp [bump, hw, Store.count, Store.get, he]
  | some e => simp [bump, Store.count, Store.get, he]

theorem incr_mono {s : Store} (h : Healthy s) (key : String) (w : ℕ) (k : String) :
    s.count k ≤ (incrWithWindow s key w).2.count k := by
  rcases eq_or_ne k key with rfl | hne
  · have := count_nonneg (healthy_incr h k w) k
    rcases incr_count h k w with ⟨-, h0⟩ | h1 <;> omega
  · rw [incrWithWindow_snd h]
    simp [Store.count, Store.get, hne]

theorem countAbusers_mono :
    ∀ (specs : List LimitSpec) {s : Store} (k : String), Healthy s →
      s.count k ≤ (countAbusers specs s).2.count k
  | [], _, _, _ => le_rfl
  | sp :: sps, s, k, h => by
    have h1 := incr_mono h sp.key sp.windowSec k
    simp only [countAbusers]
    split
    · exact h1
    · exact le_trans h1 (countAbusers_mono sps k (healthy_incr h sp.key sp.windowSec))

/-- Every abuser key of a list that passes was below its limit before the attempt, and counts it
    unless the key is gone. -/
theorem countAbusers_pass :
    ∀ (specs : List LimitSpec) {s : Store} {sp : LimitSpec}, Healthy s →
      (countAbusers specs s).1 = none → sp ∈ specs →
      s.count sp.key + 1 ≤ sp.limit ∧
        ((countAbusers specs s).2 sp.key = none ∨
          s.count sp.key + 1 ≤ (countAbusers specs s).2.count sp.key)
  | x :: xs, s, sp, h, hpass, hsp => by
    simp only [countAbusers] at hpass ⊢
    have hh := healthy_incr h x.key x.windowSec
    split at hpass
    · cases hpass
    · next hle =>
      rw [if_neg hle]
      rcases List.mem_cons.mp hsp with rfl | hmem
      · rw [incrWithWindow_count, not_lt] at hle
        refine ⟨hle, ?_⟩
        by_cases hgone : (countAbusers xs (incrWithWindow s sp.key sp.windowSec).2).2 sp.key = none
        · exact .inl hgone
        · refine .inr ?_
          have hmono := countAbusers_mono xs sp.key hh
          have hpos := count_pos (countAbusers_healthy xs hh) hgone
          rcases incr_count h sp.key sp.windowSec with ⟨-, h0⟩ | h1 <;> omega
      · obtain ⟨h1, h2⟩ := countAbusers_pass xs hh hpass hmem
        have hmono := incr_mono h x.key x.windowSec sp.key
        exact ⟨by omega, h2.imp_right fun h2 => by omega⟩

theorem takeCooldown_healthy {s : Store} (h : Healthy s) (cd : Option Cooldown) :
    Healthy (takeCooldown s cd).2 := by
  cases cd with
  | none => exact h
  | some c =>
    simp only [takeCooldown]
    split
    · exact h
    · split
      · exact h
      · exact healthy_update h c.key fun x hx => by cases hx; exact ⟨le_rfl, by simp⟩

theorem takeCooldown_of_ne {s : Store} {cd : Option Cooldown} {k : String}
    (hk : ∀ c ∈ cd, c.key ≠ k) : (takeCooldown s cd).2 k = s k := by
  cases cd with
  | none => rfl
  | some c =>
    simp only [takeCooldown]
    split
    · rfl
    · split
      · rfl
      · exact Function.update_of_ne (hk c rfl).symm _ _

theorem takeCooldown_blocked {s : Store} {cd : Option Cooldown}
    (h : (takeCooldown s cd).1 ≠ .next) : (takeCooldown s cd).2 = s := by
  cases cd with
  | none => exact absurd rfl h
  | some c =>
    simp only [takeCooldown] at h ⊢
    split_ifs at h ⊢ with h0 h1
    · rfl
    · rfl
    · exact absurd rfl h

/-! ### One call -/

/-- All a call can do: stop before the cooldown having counted abusers at most, or pass every check,
    take the cooldown and count the gates and the victims. -/
theorem consume_cases (input : ConsumeInput) (s : Store) :
    ((consumeSpecs input s).1 ≠ .allowed ∧
      ((consumeSpecs input s).2 = s ∨
        (consumeSpecs input s).2 = (countAbusers input.abuserKeys s).2)) ∨
    ((consumeSpecs input s).1 = .allowed ∧
      atLimit s input.gateKeys = none ∧ (countAbusers input.abuserKeys s).1 = none ∧
      atLimit (countAbusers input.abuserKeys s).2 input.victimKeys = none ∧
      (consumeSpecs input s).2 = countAll (countAll
        (takeCooldown (countAbusers input.abuserKeys s).2 input.cooldown).2 input.gateKeys)
          input.victimKeys) := by
  unfold consumeSpecs
  cases hg : atLimit s input.gateKeys with
  | some key => exact .inl ⟨by simp, .inl rfl⟩
  | none =>
    rcases ha : countAbusers input.abuserKeys s with ⟨_ | key, s1⟩
    · dsimp only
      cases hv : atLimit s1 input.victimKeys with
      | some key => exact .inl ⟨by simp, .inr rfl⟩
      | none =>
        dsimp only
        rcases hc : takeCooldown s1 input.cooldown with ⟨o, s2⟩
        have hb := @takeCooldown_blocked s1 input.cooldown
        rw [hc] at hb
        cases o with
        | next => exact .inr ⟨rfl, rfl, rfl, rfl, rfl⟩
        | blocked _ _ _ => exact .inl ⟨by simp, .inr (hb (by simp))⟩
        | error => exact .inl ⟨by simp, .inr (hb (by simp))⟩
        | allowed =>
          exfalso
          revert hc
          unfold takeCooldown
          split
          · simp
          · split_ifs <;> simp
    · exact .inl ⟨by simp, .inr rfl⟩

theorem atLimit_none {s : Store} {specs : List LimitSpec} (h : atLimit s specs = none)
    {sp : LimitSpec} (hsp : sp ∈ specs) : s.count sp.key < sp.limit := by
  simp only [atLimit, Option.map_eq_none_iff, List.find?_eq_none] at h
  simpa [Store.count] using h sp hsp

theorem consume_healthy (input : ConsumeInput) {s : Store} (h : Healthy s) :
    Healthy (consumeSpecs input s).2 := by
  have ha := countAbusers_healthy input.abuserKeys h
  rcases consume_cases input s with ⟨-, he | he⟩ | ⟨-, -, -, -, he⟩ <;> rw [he]
  · exact h
  · exact ha
  · exact countAll_healthy (countAll_healthy (takeCooldown_healthy ha _) _) _

variable {use : String → KeyUse} {input : ConsumeInput}

theorem ConsumeInput.Fits.notMem_of_scope (hf : input.Fits use) {k : String} :
    ((use k).scope ≠ .gate → k ∉ input.gateKeys.map (·.key)) ∧
    ((use k).scope ≠ .abuser → k ∉ input.abuserKeys.map (·.key)) ∧
    ((use k).scope ≠ .victim → k ∉ input.victimKeys.map (·.key)) ∧
    ((use k).scope ≠ .cooldown → ∀ c ∈ input.cooldown, c.key ≠ k) := by
  refine ⟨?_, ?_, ?_, ?_⟩
  · rintro hk hm
    obtain ⟨sp, hsp, rfl⟩ := List.mem_map.mp hm
    exact hk (by rw [hf.gate sp hsp])
  · rintro hk hm
    obtain ⟨sp, hsp, rfl⟩ := List.mem_map.mp hm
    exact hk (by rw [hf.abuser sp hsp])
  · rintro hk hm
    obtain ⟨sp, hsp, rfl⟩ := List.mem_map.mp hm
    exact hk (by rw [hf.victim sp hsp])
  · rintro hk c hc rfl
    exact hk (hf.cooldown c hc)

/-- Only an allowed attempt touches a gate, a victim or a cooldown. -/
theorem blockedFrame (hf : input.Fits use) (s : Store) : BlockedFrame use input s := by
  intro hne k hk
  rw [consumeLua_packed] at hne ⊢
  rcases consume_cases input s with ⟨-, he | he⟩ | ⟨ho, -⟩
  · rw [he]
  · rw [he, countAbusers_of_notMem _ (hf.notMem_of_scope.2.1 hk)]
  · exact absurd ho hne

/-- What an allowed attempt leaves on each kind of key. -/
theorem allowed_effect (hf : input.Fits use) {s : Store} (h : Healthy s)
    (ho : (consumeSpecs input s).1 = .allowed) :
    (∀ sp ∈ input.gateKeys ++ input.victimKeys, s.count sp.key < sp.limit ∧
      (consumeSpecs input s).2 sp.key = bump sp.windowSec (s sp.key)) ∧
    (∀ sp ∈ input.abuserKeys, s.count sp.key + 1 ≤ sp.limit ∧
      ((consumeSpecs input s).2 sp.key = none ∨
        s.count sp.key + 1 ≤ (consumeSpecs input s).2.count sp.key)) ∧
    ∀ k, k ∉ input.specs.map (·.key) → (use k).scope ≠ .cooldown →
      (consumeSpecs input s).2 k = s k := by
  rcases consume_cases input s with ⟨hne, -⟩ | ⟨-, hg, ha, hv, he⟩
  · exact absurd ho hne
  have h1 := countAbusers_healthy input.abuserKeys h
  have h2 := takeCooldown_healthy h1 input.cooldown
  have h3 := countAll_healthy h2 input.gateKeys
  have hdisj := fun k => hf.notMem_of_scope (k := k)
  -- A gate or a victim reaches its own counting phase as the call found it.
  have hkeep : ∀ k, (use k).scope ≠ .abuser → (use k).scope ≠ .cooldown →
      (takeCooldown (countAbusers input.abuserKeys s).2 input.cooldown).2 k = s k := by
    intro k hk1 hk2
    rw [takeCooldown_of_ne ((hdisj k).2.2.2 hk2), countAbusers_of_notMem _ ((hdisj k).2.1 hk1)]
  refine ⟨?_, ?_, ?_⟩
  · intro sp hsp
    rcases List.mem_append.mp hsp with hsp | hsp
    · have hu := hf.gate sp hsp
      have hnv := (hdisj sp.key).2.2.1 (by rw [hu]; simp)
      refine ⟨atLimit_none hg hsp, ?_⟩
      rw [he, countAll_of_notMem hnv, countAll_of_mem h2 hf.gateNodup hsp,
        hkeep _ (by rw [hu]; simp) (by rw [hu]; simp)]
    · have hu := hf.victim sp hsp
      have hng := (hdisj sp.key).1 (by rw [hu]; simp)
      have hs1 : (countAbusers input.abuserKeys s).2 sp.key = s sp.key :=
        countAbusers_of_notMem _ ((hdisj sp.key).2.1 (by rw [hu]; simp))
      have hcount := atLimit_none hv hsp
      rw [count_congr hs1] at hcount
      refine ⟨hcount, ?_⟩
      rw [he, countAll_of_mem h3 hf.victimNodup hsp, countAll_of_notMem hng,
        hkeep _ (by rw [hu]; simp) (by rw [hu]; simp)]
  · intro sp hsp
    have hu := hf.abuser sp hsp
    have hcell : (consumeSpecs input s).2 sp.key = (countAbusers input.abuserKeys s).2 sp.key := by
      rw [he, countAll_of_notMem ((hdisj _).2.2.1 (by rw [hu]; simp)),
        countAll_of_notMem ((hdisj _).1 (by rw [hu]; simp)),
        takeCooldown_of_ne ((hdisj _).2.2.2 (by rw [hu]; simp))]
    rw [count_congr hcell, hcell]
    exact countAbusers_pass input.abuserKeys h ha hsp
  · intro k hk hcd
    simp only [ConsumeInput.specs, List.map_append, List.mem_append, not_or] at hk
    rw [he, countAll_of_notMem hk.2, countAll_of_notMem hk.1.1,
      takeCooldown_of_ne ((hdisj k).2.2.2 hcd), countAbusers_of_notMem _ hk.1.2]

/-! ### Runs -/

/-- The invariant of a run. An abuser key's counter also counts blocked attempts, so it is only an
    upper bound on the allowed ones. -/
structure Valid (use : String → KeyUse) (c : Counted) : Prop where
  healthy : Healthy c.store
  exact : ∀ k, (use k).scope = .gate ∨ (use k).scope = .victim →
    c.store.count k = c.allowed k ∧ c.allowed k ≤ (use k).limit
  abuser : ∀ k, (use k).scope = .abuser →
    (c.allowed k : ℤ) ≤ c.store.count k ∧ c.allowed k ≤ (use k).limit

theorem Valid.accounted {c : Counted} (h : Valid use c) : Accounted use c :=
  ⟨h.exact, fun k hk => (h.abuser k hk).2, fun k e he => (h.healthy k e he).2⟩

theorem count_of_none {s : Store} {k : String} (h : s k = none) : s.count k = 0 := by
  simp [Store.count, Store.get, h]

theorem bump_count {w : ℕ} {s s' : Store} {k : String} (h : s' k = bump w (s k))
    (hs : s' k ≠ none) : s'.count k = s.count k + 1 := by
  cases he : s k with
  | none =>
    rw [he, bump] at h
    split at h
    · exact absurd h hs
    · simp [Store.count, Store.get, h, he]
  | some e =>
    rw [he, bump] at h
    simp [Store.count, Store.get, h, he]

/-- A gate or victim key of the request, and the limit it is used with. -/
theorem ConsumeInput.Fits.counted_spec (hf : input.Fits use) {k : String}
    (hk : (use k).scope = .gate ∨ (use k).scope = .victim) (hin : k ∈ input.specs.map (·.key)) :
    ∃ sp ∈ input.gateKeys ++ input.victimKeys, sp.key = k ∧ sp.limit = (use k).limit := by
  obtain ⟨sp, hsp, rfl⟩ := List.mem_map.mp hin
  simp only [ConsumeInput.specs, List.mem_append] at hsp
  rcases hsp with (hsp | hsp) | hsp
  · exact ⟨sp, by simp [hsp], rfl, by rw [hf.gate sp hsp]⟩
  · rw [hf.abuser sp hsp] at hk
    simp at hk
  · exact ⟨sp, by simp [hsp], rfl, by rw [hf.victim sp hsp]⟩

theorem ConsumeInput.Fits.abuser_spec (hf : input.Fits use) {k : String}
    (hk : (use k).scope = .abuser) (hin : k ∈ input.specs.map (·.key)) :
    ∃ sp ∈ input.abuserKeys, sp.key = k ∧ sp.limit = (use k).limit := by
  obtain ⟨sp, hsp, rfl⟩ := List.mem_map.mp hin
  simp only [ConsumeInput.specs, List.mem_append] at hsp
  rcases hsp with (hsp | hsp) | hsp
  · rw [hf.gate sp hsp] at hk
    simp at hk
  · exact ⟨sp, hsp, rfl, by rw [hf.abuser sp hsp]⟩
  · rw [hf.victim sp hsp] at hk
    simp at hk

/-- The allowed attempts of a key's lifetime after a call, from those before it. -/
def allowedAfter (input : ConsumeInput) (s : Store) (k : String) (n : ℕ) : ℕ :=
  if (consumeSpecs input s).2 k = none then 0
  else if (consumeSpecs input s).1 = .allowed ∧ k ∈ input.specs.map (·.key) then n + 1 else n

variable {s : Store} {k : String} {n : ℕ}

theorem allowedAfter_of_none (h : (consumeSpecs input s).2 k = none) :
    allowedAfter input s k n = 0 := if_pos h

theorem allowedAfter_of_allowed (h : (consumeSpecs input s).2 k ≠ none)
    (ho : (consumeSpecs input s).1 = .allowed) (hin : k ∈ input.specs.map (·.key)) :
    allowedAfter input s k n = n + 1 := (if_neg h).trans (if_pos ⟨ho, hin⟩)

theorem allowedAfter_of_not (h : (consumeSpecs input s).2 k ≠ none)
    (hn : ¬ ((consumeSpecs input s).1 = .allowed ∧ k ∈ input.specs.map (·.key))) :
    allowedAfter input s k n = n := (if_neg h).trans (if_neg hn)

/-- A gate or victim that the call leaves as it was stays exact. -/
theorem exact_of_same (hsame : (consumeSpecs input s).2 k = s k)
    (hn : ¬ ((consumeSpecs input s).1 = .allowed ∧ k ∈ input.specs.map (·.key)))
    (hold : s.count k = n ∧ n ≤ (use k).limit) :
    (consumeSpecs input s).2.count k = allowedAfter input s k n ∧
      allowedAfter input s k n ≤ (use k).limit := by
  by_cases hnone : (consumeSpecs input s).2 k = none
  · rw [allowedAfter_of_none hnone, count_of_none hnone]
    exact ⟨rfl, Nat.zero_le _⟩
  · rw [allowedAfter_of_not hnone hn, count_congr hsame]
    exact hold

theorem exact_attempt (hf : input.Fits use) (hh : Healthy s)
    (hk : (use k).scope = .gate ∨ (use k).scope = .victim)
    (hold : s.count k = n ∧ n ≤ (use k).limit) :
    (consumeSpecs input s).2.count k = allowedAfter input s k n ∧
      allowedAfter input s k n ≤ (use k).limit := by
  by_cases ho : (consumeSpecs input s).1 = .allowed
  · obtain ⟨hbump, -, hrest⟩ := allowed_effect hf hh ho
    by_cases hin : k ∈ input.specs.map (·.key)
    · -- The key is one of the request's gates or victims: it is bumped once.
      obtain ⟨sp, hsp, hkey, hlim⟩ := hf.counted_spec hk hin
      obtain ⟨hlt, hb⟩ := hbump sp hsp
      rw [hkey] at hlt hb
      by_cases hnone : (consumeSpecs input s).2 k = none
      · rw [allowedAfter_of_none hnone, count_of_none hnone]
        exact ⟨rfl, Nat.zero_le _⟩
      · rw [allowedAfter_of_allowed hnone ho hin, bump_count hb hnone]
        omega
    · refine exact_of_same (hrest k hin ?_) (fun hc => hin hc.2) hold
      rcases hk with hk | hk <;> rw [hk] <;> simp
  · have hframe := blockedFrame hf s
    rw [BlockedFrame, consumeLua_packed] at hframe
    refine exact_of_same (hframe ho k ?_) (fun hc => ho hc.1) hold
    rcases hk with hk | hk <;> rw [hk] <;> simp

/-- A blocked attempt may still have counted on the abuser keys. -/
theorem abuser_attempt (hf : input.Fits use) (hh : Healthy s) (hk : (use k).scope = .abuser)
    (hold : (n : ℤ) ≤ s.count k ∧ n ≤ (use k).limit) :
    (allowedAfter input s k n : ℤ) ≤ (consumeSpecs input s).2.count k ∧
      allowedAfter input s k n ≤ (use k).limit := by
  by_cases hnone : (consumeSpecs input s).2 k = none
  · rw [allowedAfter_of_none hnone, count_of_none hnone]
    exact ⟨le_rfl, Nat.zero_le _⟩
  by_cases ho : (consumeSpecs input s).1 = .allowed
  · obtain ⟨-, hpass, hrest⟩ := allowed_effect hf hh ho
    by_cases hin : k ∈ input.specs.map (·.key)
    · obtain ⟨sp, hsp, hkey, hlim⟩ := hf.abuser_spec hk hin
      obtain ⟨hlt, hc⟩ := hpass sp hsp
      rw [hkey] at hlt hc
      have hcount := hc.resolve_left hnone
      rw [allowedAfter_of_allowed hnone ho hin]
      push_cast
      omega
    · rw [allowedAfter_of_not hnone fun hc => hin hc.2,
        count_congr (hrest k hin (by rw [hk]; simp))]
      exact hold
  · have hmono : s.count k ≤ (consumeSpecs input s).2.count k := by
      rcases consume_cases input s with ⟨-, he | he⟩ | ⟨hok, -⟩
      · rw [he]
      · rw [he]
        exact countAbusers_mono _ k hh
      · exact absurd hok ho
    rw [allowedAfter_of_not hnone fun hc => ho hc.1]
    exact ⟨le_trans hold.1 hmono, hold.2⟩

/-- A call keeps the invariant. -/
theorem valid_attempt {c c' : Counted} (hf : input.Fits use) (hv : Valid use c)
    (h : limiterStep c (.attempt input) = some c') : Valid use c' := by
  have hc' : c' = ⟨(consumeSpecs input c.store).2,
      fun k => allowedAfter input c.store k (c.allowed k)⟩ := by
    simp only [limiterStep, consumeLua_packed, Option.some.injEq] at h
    exact h.symm
  subst hc'
  exact ⟨consume_healthy input hv.healthy, fun k hk => exact_attempt hf hv.healthy hk (hv.exact k hk),
    fun k hk => abuser_attempt hf hv.healthy hk (hv.abuser k hk)⟩

/-- A key that goes takes its counter with it. -/
theorem valid_expire {c c' : Counted} {key : String} (hv : Valid use c)
    (h : limiterStep c (.expire key) = some c') : Valid use c' := by
  obtain ⟨hh, hexact, habuser⟩ := hv
  simp only [limiterStep] at h
  split at h
  · cases h
    refine ⟨healthy_update hh key (by simp), fun k hk => ?_, fun k hk => ?_⟩ <;>
      dsimp only [Store.del]
    · rcases eq_or_ne k key with rfl | hne
      · rw [count_of_none (Function.update_self ..), Function.update_self]
        exact ⟨rfl, Nat.zero_le _⟩
      · rw [count_congr (Function.update_of_ne hne _ _), Function.update_of_ne hne]
        exact hexact k hk
    · rcases eq_or_ne k key with rfl | hne
      · rw [count_of_none (Function.update_self ..), Function.update_self]
        exact ⟨le_rfl, Nat.zero_le _⟩
      · rw [count_congr (Function.update_of_ne hne _ _), Function.update_of_ne hne]
        exact habuser k hk
  · cases h

theorem valid_elapse {c c' : Counted} {key : String} {sec : ℕ} (hv : Valid use c)
    (h : limiterStep c (.elapse key sec) = some c') : Valid use c' := by
  obtain ⟨hh, hexact, habuser⟩ := hv
  simp only [limiterStep] at h
  split at h
  · next v t he =>
    split at h
    · cases h
      have hcount : ∀ k, Store.count (Function.update c.store key (some ⟨v, some sec⟩)) k
          = c.store.count k := by
        intro k
        rcases eq_or_ne k key with rfl | hne
        · simp [Store.count, Store.get, he]
        · exact count_congr (Function.update_of_ne hne _ _)
      refine ⟨healthy_update hh key fun x hx => ?_, fun k hk => ?_, fun k hk => ?_⟩
      · cases hx
        exact ⟨(hh key _ he).1, by simp⟩
      · rw [hcount]
        exact hexact k hk
      · rw [hcount]
        exact habuser k hk
    · cases h
  · cases h

theorem valid_step (c : Counted) (e : LimiterEvent) (c' : Counted) (hv : Valid use c)
    (hf : e.Fits use) (h : limiterStep c e = some c') : Valid use c' := by
  cases e with
  | attempt input => exact valid_attempt hf hv h
  | expire key => exact valid_expire hv h
  | elapse key sec => exact valid_elapse hv h

theorem valid_noKeys (use : String → KeyUse) : Valid use noKeys :=
  ⟨fun _ _ h => by simp [noKeys] at h, fun _ _ => by simp [noKeys, Store.count, Store.get],
    fun _ _ => by simp [noKeys, Store.count, Store.get]⟩

/-- CORRECT: from an empty store, after any sequence of calls, expiries and passing time in which
    each key is used for one thing, gate and victim counters are exactly the allowed attempts of the
    key's lifetime and within its limit, no abuser key has allowed more than its limit, every key
    expires, and a further call that is not allowed changes no gate, victim or cooldown. -/
theorem limiter_accounts (use : String → KeyUse) (events : List LimiterEvent) (c : Counted)
    (hfit : ∀ e ∈ events, e.Fits use) (hrun : Runs.run limiterStep noKeys events = some c) :
    Accounted use c ∧ ∀ input : ConsumeInput, input.Fits use → BlockedFrame use input c.store := by
  have hv := Runs.run_invariant_along (fun _ e => LimiterEvent.Fits use e)
    (fun c e c' hi hp hs => valid_step c e c' hi hp hs) (Runs.along_of_forall hfit noKeys)
    (valid_noKeys use) hrun
  exact ⟨hv.accounted, fun input hf => blockedFrame hf c.store⟩

def emailUse (k : String) : KeyUse :=
  if k = "gate" then ⟨.gate, 2, 60⟩ else if k = "ip" then ⟨.abuser, 1, 60⟩ else ⟨.cooldown, 0, 0⟩

def emailSend : ConsumeInput :=
  { gateKeys := [⟨"gate", 2, 60⟩], abuserKeys := [⟨"ip", 1, 60⟩], cooldown := some ⟨"resend", 5⟩ }

theorem emailSend_fits : emailSend.Fits emailUse :=
  ⟨by simp [emailSend, emailUse], by simp [emailSend, emailUse], by simp [emailSend],
    by simp [emailSend, emailUse], by simp [emailSend], by simp [emailSend]⟩

/-- Two sends from one address, the second of them blocked. -/
theorem limiter_accounts_email :
    ∃ c, Runs.run limiterStep noKeys [.attempt emailSend, .attempt emailSend] = some c ∧
      Accounted emailUse c := by
  obtain ⟨c, hc⟩ : ∃ c, Runs.run limiterStep noKeys [.attempt emailSend, .attempt emailSend]
      = some c := ⟨_, rfl⟩
  refine ⟨c, hc, (limiter_accounts emailUse _ c ?_ hc).1⟩
  intro e he
  simp only [List.mem_cons, List.not_mem_nil, or_false, or_self] at he
  rw [he]
  exact emailSend_fits

/-- Requests that agree on the limit and the window of every key they name. -/
def ConsumeInput.SameLimits (limits : String → ℕ × ℕ) (input : ConsumeInput) : Prop :=
  ∀ sp ∈ input.specs, limits sp.key = (sp.limit, sp.windowSec)

/-- Consistent limits and windows are not enough: a key that one request counts as its requester
    and another as its target also counts the attempt that was blocked, and a gate that a request
    names twice counts it twice. -/
theorem not_accounts_shared_key :
    (¬ ∀ (limits : String → ℕ × ℕ) (inputs : List ConsumeInput) (c : Counted),
      (∀ input ∈ inputs, input.SameLimits limits) →
      Runs.run limiterStep noKeys (inputs.map .attempt) = some c →
      ∀ input ∈ inputs, ∀ sp ∈ input.gateKeys ++ input.victimKeys,
        c.store.count sp.key = c.allowed sp.key) ∧
    ¬ ∀ (limits : String → ℕ × ℕ) (gateKeys : List LimitSpec) (c : Counted),
      ConsumeInput.SameLimits limits ⟨gateKeys, [], [], none⟩ →
      Runs.run limiterStep noKeys [.attempt ⟨gateKeys, [], [], none⟩] = some c →
      ∀ sp ∈ gateKeys, c.store.count sp.key = c.allowed sp.key := by
  constructor
  · intro h
    have hc := h (fun k => if k = "k" then (5, 60) else (0, 60))
      [⟨[], [⟨"k", 5, 60⟩], [⟨"z", 0, 60⟩], none⟩, ⟨[], [], [⟨"k", 5, 60⟩], none⟩] _
      (by simp [ConsumeInput.SameLimits, ConsumeInput.specs]) rfl
      ⟨[], [], [⟨"k", 5, 60⟩], none⟩ (by simp) ⟨"k", 5, 60⟩ (by simp)
    exact absurd hc (by decide)
  · intro h
    have hc := h (fun _ => (5, 60)) [⟨"k", 5, 60⟩, ⟨"k", 5, 60⟩] _
      (by simp [ConsumeInput.SameLimits, ConsumeInput.specs]) rfl ⟨"k", 5, 60⟩ (by simp)
    exact absurd hc (by decide)

end Redeemo.Limiter
