import Redeemo.Shared.LimiterScript

/-! The script and its test mirror.

    The mirror keeps a `Map` of counters and no clock, so it can agree with the script only where no
    expiry strikes inside the call: `EXPIRE` with a window of no length deletes the counter it was
    given. With every window and the cooldown of positive length, the two make the same decision and
    leave the same counters on every input, and unpacking `consume()`'s vector is the inverse of
    packing it. -/

namespace Redeemo.Limiter

/-- What the script decides: `none` when it fails. -/
def Outcome.decision : Outcome → Option (Option (ConsumeScope × String))
  | .allowed => some none
  | .blocked _ scope key => some (some (scope, key))
  | .next => none
  | .error => none

/-- Every window of the request, and its cooldown, lasts at least one second. -/
def ConsumeInput.PositiveWindows (input : ConsumeInput) : Prop :=
  (∀ sp ∈ input.gateKeys ++ input.abuserKeys ++ input.victimKeys, 0 < sp.windowSec) ∧
    ∀ c ∈ input.cooldown, 0 < c.ttlSec

/-- Script and mirror agree on a request: the decision, the counters left, and the request that the
    mirror's adapter unpacks. -/
def AgreesWithShim (input : ConsumeInput) (s : Store) (ttlOf : String → ℤ) : Prop :=
  (consumeLua (packKeys input) (packArgv input) s).1.decision
      = some (luaConsumeShim s.counters input ttlOf).1.decision ∧
    (consumeLua (packKeys input) (packArgv input) s).2.counters
      = (luaConsumeShim s.counters input ttlOf).2 ∧
    shimUnpack (packKeys input) (packArgv input) = input

/-! ### Unpacking -/

theorem getD_append_length {α : Type*} (pre : List α) (x : α) (post : List α) (d : α) :
    (pre ++ x :: post).getD pre.length d = x := by
  simp [List.getD_eq_getElem?_getD]

theorem shimTake_layout :
    ∀ (specs : List LimitSpec) (kpre : List String) (kpost : List String) (apre apost : List ℤ),
      shimTake (kpre ++ (specs.map (·.key) ++ kpost)) (apre ++ (packSpecs specs ++ apost))
        specs.length kpre.length apre.length = specs
  | [], _, _, _, _ => rfl
  | sp :: sps, kpre, kpost, apre, apost => by
    have hkey := getD_append_length kpre sp.key (sps.map (·.key) ++ kpost) ""
    have hlim := getD_append_length apre (sp.limit : ℤ)
      ((sp.windowSec : ℤ) :: (packSpecs sps ++ apost)) 0
    have hwin := getD_append_length (apre ++ [(sp.limit : ℤ)]) (sp.windowSec : ℤ)
      (packSpecs sps ++ apost) 0
    have ih := shimTake_layout sps (kpre ++ [sp.key]) kpost
      (apre ++ [(sp.limit : ℤ), (sp.windowSec : ℤ)]) apost
    simp only [List.length_append, List.length_cons, List.append_assoc, List.cons_append,
      List.nil_append, List.length_nil] at hwin ih
    simp only [List.length_cons, shimTake, List.map_cons, packSpecs_cons, List.cons_append]
    rw [hkey, hlim, hwin, Int.toNat_natCast, Int.toNat_natCast, ih]

/-- The optional last key and argument are the cooldown. -/
theorem unpack_cooldown (g a v : List LimitSpec) (cd : Option Cooldown) :
    (if (packKeys ⟨g, a, v, cd⟩).length > g.length + a.length + v.length then
      some (Cooldown.mk ((packKeys ⟨g, a, v, cd⟩).getD (g.length + a.length + v.length) "")
        ((packArgv ⟨g, a, v, cd⟩).getD (3 + 2 * g.length + 2 * a.length + 2 * v.length) 0).toNat)
      else none) = cd := by
  have lk : (g.map (·.key) ++ a.map (·.key) ++ v.map (·.key)).length
      = g.length + a.length + v.length := by
    simp only [List.length_append, List.length_map]
  have la : ([(g.length : ℤ), (a.length : ℤ), (v.length : ℤ)] ++ packSpecs g ++ packSpecs a
      ++ packSpecs v).length = 3 + 2 * g.length + 2 * a.length + 2 * v.length := by
    simp only [List.length_append, List.length_cons, List.length_nil, length_packSpecs]
    omega
  cases cd with
  | none =>
    have hlen : ¬ (packKeys ⟨g, a, v, none⟩).length > g.length + a.length + v.length := by
      simp only [packKeys, Option.map_none, Option.toList_none, List.append_nil]
      omega
    rw [if_neg hlen]
  | some c =>
    have hk := getD_append_length (g.map (·.key) ++ a.map (·.key) ++ v.map (·.key)) c.key [] ""
    have ht := getD_append_length ([(g.length : ℤ), (a.length : ℤ), (v.length : ℤ)] ++ packSpecs g
      ++ packSpecs a ++ packSpecs v) (c.ttlSec : ℤ) [] 0
    rw [lk] at hk
    rw [la] at ht
    have hlen : (packKeys ⟨g, a, v, some c⟩).length > g.length + a.length + v.length := by
      simp only [packKeys, Option.map_some, Option.toList_some]
      rw [List.length_append, lk]
      simp
    rw [if_pos hlen]
    simp only [packKeys, packArgv, Option.map_some, Option.toList_some]
    rw [hk, ht, Int.toNat_natCast]

/-- Unpacking the vector that `consume()` packs gives the request back. -/
theorem shimUnpack_pack (input : ConsumeInput) :
    shimUnpack (packKeys input) (packArgv input) = input := by
  obtain ⟨g, a, v, cd⟩ := input
  have hcd := unpack_cooldown g a v cd
  have hg := shimTake_layout g [] (a.map (·.key) ++ (v.map (·.key) ++ (cd.map (·.key)).toList))
    [(g.length : ℤ), (a.length : ℤ), (v.length : ℤ)]
    (packSpecs a ++ (packSpecs v ++ (cd.map fun c => (c.ttlSec : ℤ)).toList))
  have ha := shimTake_layout a (g.map (·.key)) (v.map (·.key) ++ (cd.map (·.key)).toList)
    ([(g.length : ℤ), (a.length : ℤ), (v.length : ℤ)] ++ packSpecs g)
    (packSpecs v ++ (cd.map fun c => (c.ttlSec : ℤ)).toList)
  have hv := shimTake_layout v (g.map (·.key) ++ a.map (·.key)) (cd.map (·.key)).toList
    ([(g.length : ℤ), (a.length : ℤ), (v.length : ℤ)] ++ packSpecs g ++ packSpecs a)
    (cd.map fun c => (c.ttlSec : ℤ)).toList
  have eg : ([(g.length : ℤ), (a.length : ℤ), (v.length : ℤ)]).length = 3 := rfl
  have ea : ([(g.length : ℤ), (a.length : ℤ), (v.length : ℤ)] ++ packSpecs g).length
      = 3 + 2 * g.length := by
    rw [List.length_append, eg, length_packSpecs]
    omega
  have ev : ([(g.length : ℤ), (a.length : ℤ), (v.length : ℤ)] ++ packSpecs g
      ++ packSpecs a).length = 3 + 2 * g.length + 2 * a.length := by
    rw [List.length_append, ea, length_packSpecs]
    omega
  rw [eg] at hg
  rw [ea, List.length_map] at ha
  rw [ev, List.length_append, List.length_map, List.length_map] at hv
  have e0 : (packArgv ⟨g, a, v, cd⟩).getD 0 0 = g.length := rfl
  have e1 : (packArgv ⟨g, a, v, cd⟩).getD 1 0 = a.length := rfl
  have e2 : (packArgv ⟨g, a, v, cd⟩).getD 2 0 = v.length := rfl
  rw [shimUnpack, e0, e1, e2]
  simp only [Int.toNat_natCast]
  rw [hcd]
  simp only [List.append_assoc, List.nil_append, List.cons_append, List.length_nil] at hg ha hv
  simp only [packKeys, packArgv, List.append_assoc, List.cons_append, List.nil_append]
  rw [hg, ha, hv]

/-! ### Counters -/

theorem incrWithWindow_fst (s : Store) (key : String) (w : ℕ) :
    (incrWithWindow s key w).1 = FakeStore.count s.counters key + 1 := rfl

theorem counters_incrBy (s : Store) (key : String) :
    (s.incrBy key 1).counters
      = FakeStore.set s.counters key (FakeStore.count s.counters key + 1) := by
  funext k
  rcases eq_or_ne k key with rfl | hne
  · cases h : s k <;> simp [Store.incrBy, Store.counters, Store.get, FakeStore.set,
      FakeStore.count, h]
  · cases h : s key <;> simp [Store.incrBy, Store.counters, Store.get, FakeStore.set,
      FakeStore.count, h, hne]

/-- Setting an expiry of positive length changes no counter. -/
theorem counters_expire (s : Store) (key : String) {w : ℕ} (hw : 0 < w) :
    (s.expire key w).counters = s.counters := by
  funext k
  cases h : s key with
  | none => simp [Store.expire, h]
  | some e =>
    rcases eq_or_ne k key with rfl | hne
    · simp [Store.expire, Store.counters, Store.get, h, hw.ne']
    · simp [Store.expire, Store.counters, Store.get, h, hw.ne', hne]

theorem counters_incrWithWindow (s : Store) (key : String) {w : ℕ} (hw : 0 < w) :
    (incrWithWindow s key w).2.counters
      = FakeStore.set s.counters key (FakeStore.count s.counters key + 1) := by
  unfold incrWithWindow Store.incr
  dsimp only
  split
  · rw [counters_expire _ _ hw, counters_incrBy]
  · exact counters_incrBy s key

/-! ### The phases -/

theorem atLimit_eq_shimCheck (s : Store) (specs : List LimitSpec) :
    atLimit s specs = shimCheck s.counters specs := by
  induction specs with
  | nil => rfl
  | cons sp sps ih =>
    have hcount : FakeStore.count s.counters sp.key = (s.get sp.key).getD 0 := rfl
    rw [shimCheck, ← ih]
    by_cases hc : (s.get sp.key).getD 0 ≥ (sp.limit : ℤ)
    · rw [if_pos (hcount ▸ hc)]
      simp [atLimit, hc]
    · rw [if_neg (hcount ▸ hc)]
      simp [atLimit, hc]

theorem countAbusers_shim :
    ∀ (specs : List LimitSpec) (s : Store), (∀ sp ∈ specs, 0 < sp.windowSec) →
      (countAbusers specs s).1 = (shimAbusers specs s.counters).1 ∧
      (countAbusers specs s).2.counters = (shimAbusers specs s.counters).2
  | [], _, _ => ⟨rfl, rfl⟩
  | sp :: sps, s, hpos => by
    have hw := hpos sp (List.mem_cons_self ..)
    have ih := countAbusers_shim sps (incrWithWindow s sp.key sp.windowSec).2
      fun x hx => hpos x (List.mem_cons_of_mem _ hx)
    rw [counters_incrWithWindow s sp.key hw] at ih
    have hv := incrWithWindow_fst s sp.key sp.windowSec
    simp only [countAbusers, shimAbusers]
    by_cases hc : (incrWithWindow s sp.key sp.windowSec).1 > (sp.limit : ℤ)
    · rw [if_pos hc, if_pos (hv ▸ hc)]
      exact ⟨rfl, counters_incrWithWindow s sp.key hw⟩
    · rw [if_neg hc, if_neg (hv ▸ hc)]
      exact ih

theorem countAll_shim (specs : List LimitSpec) (s : Store) (hpos : ∀ sp ∈ specs, 0 < sp.windowSec) :
    (countAll s specs).counters = shimCount s.counters specs := by
  induction specs generalizing s with
  | nil => rfl
  | cons sp sps ih =>
    have hw := hpos sp (List.mem_cons_self ..)
    have := ih (incrWithWindow s sp.key sp.windowSec).2
      fun x hx => hpos x (List.mem_cons_of_mem _ hx)
    rw [counters_incrWithWindow s sp.key hw] at this
    exact this

theorem counters_cooldown (s : Store) (c : Cooldown) :
    Store.counters (Function.update s c.key (some ⟨1, some c.ttlSec⟩))
      = FakeStore.set s.counters c.key 1 := by
  funext k
  rcases eq_or_ne k c.key with rfl | hne
  · simp [Store.counters, Store.get, FakeStore.set]
  · simp [Store.counters, Store.get, FakeStore.set, hne]

/-- The script's meaning and the mirror, phase by phase. -/
theorem consumeSpecs_shim (input : ConsumeInput) (hpos : input.PositiveWindows) (s : Store)
    (ttlOf : String → ℤ) :
    (consumeSpecs input s).1.decision
        = some (luaConsumeShim s.counters input ttlOf).1.decision ∧
      (consumeSpecs input s).2.counters = (luaConsumeShim s.counters input ttlOf).2 := by
  obtain ⟨hspecs, hcool⟩ := hpos
  have hg : ∀ sp ∈ input.gateKeys, 0 < sp.windowSec := fun sp h => hspecs sp (by simp [h])
  have ha : ∀ sp ∈ input.abuserKeys, 0 < sp.windowSec := fun sp h => hspecs sp (by simp [h])
  have hv : ∀ sp ∈ input.victimKeys, 0 < sp.windowSec := fun sp h => hspecs sp (by simp [h])
  have hcount : ∀ s : Store, (countAll (countAll s input.gateKeys) input.victimKeys).counters
      = shimCount (shimCount s.counters input.gateKeys) input.victimKeys := fun s => by
    rw [countAll_shim _ _ hv, countAll_shim _ _ hg]
  rw [consumeSpecs, luaConsumeShim, atLimit_eq_shimCheck]
  cases shimCheck s.counters input.gateKeys with
  | some key => exact ⟨rfl, rfl⟩
  | none =>
    obtain ⟨h1, h2⟩ := countAbusers_shim input.abuserKeys s ha
    rcases hr : countAbusers input.abuserKeys s with ⟨r, s1⟩
    rcases hr' : shimAbusers input.abuserKeys s.counters with ⟨r', m1⟩
    rw [hr, hr'] at h1 h2
    obtain rfl : r = r' := h1
    obtain rfl : s1.counters = m1 := h2
    cases r with
    | some key => exact ⟨rfl, rfl⟩
    | none =>
      dsimp only
      rw [atLimit_eq_shimCheck]
      cases shimCheck s1.counters input.victimKeys with
      | some key => exact ⟨rfl, rfl⟩
      | none =>
        cases hc : input.cooldown with
        | none => exact ⟨rfl, hcount s1⟩
        | some c =>
          have hcell : (s1.counters c.key).isSome = (s1 c.key).isSome := by
            simp [Store.counters, Store.get]
          simp only [takeCooldown, if_neg (hcool c hc).ne', hcell]
          cases (s1 c.key).isSome with
          | true => exact ⟨rfl, rfl⟩
          | false =>
            refine ⟨rfl, ?_⟩
            rw [← counters_cooldown]
            exact hcount _

/-- CORRECT: with windows and cooldown of positive length, the script on `consume()`'s vector and
    the mirror on the request make the same decision and leave the same counters, and the mirror's
    adapter unpacks the vector into the request it was packed from. -/
theorem consumeLua_agrees_with_shim (input : ConsumeInput) (hpos : input.PositiveWindows)
    (s : Store) (ttlOf : String → ℤ) : AgreesWithShim input s ttlOf := by
  obtain ⟨h1, h2⟩ := consumeSpecs_shim input hpos s ttlOf
  refine ⟨?_, ?_, shimUnpack_pack input⟩
  · rw [consumeLua_packed, h1]
  · rw [consumeLua_packed, h2]

/-- An email send: one gate, one abuser counted twice, one victim, and a cooldown. -/
theorem consumeLua_agrees_with_shim_email :
    AgreesWithShim ⟨[⟨"gate", 100, 86400⟩], [⟨"ip", 5, 3600⟩, ⟨"ip", 20, 86400⟩],
      [⟨"email", 3, 3600⟩], some ⟨"resend", 60⟩⟩ (fun _ => none) (fun _ => -1) :=
  consumeLua_agrees_with_shim _ (by simp [ConsumeInput.PositiveWindows]) _ _

/-- A window of no length: the script deletes the counter it has just incremented, the mirror keeps
    it. -/
theorem not_agrees_with_shim_zero_window :
    ¬ ∀ (input : ConsumeInput) (s : Store) (ttlOf : String → ℤ), AgreesWithShim input s ttlOf := by
  intro h
  have hc := (h ⟨[], [], [⟨"email", 3, 0⟩], none⟩ (fun _ => none) (fun _ => -1)).2.1
  exact absurd (congrFun hc "email") (by decide)

end Redeemo.Limiter
