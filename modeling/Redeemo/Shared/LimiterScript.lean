import Redeemo.Shared.AtomicLimiter

/-! What the index arithmetic of `CONSUME_LUA` computes.

    `consumeSpecs` is the script without its vectors: the same five phases, iterating the structured
    lists of the input. `consumeLua_packed` is the bridge: on the `KEYS`/`ARGV` that `consume()`
    packs, the script is `consumeSpecs`, with no call on a missing argument. Everything else about
    the limiter is proved of `consumeSpecs`. -/

namespace Redeemo.Limiter

/-! ### The phases on lists -/

/-- The first key of the list whose counter is at its limit. -/
def atLimit (s : Store) (specs : List LimitSpec) : Option String :=
  (specs.find? fun sp => (s.get sp.key).getD 0 ≥ (sp.limit : ℤ)).map (·.key)

/-- Count each abuser key, up to the first that goes over its limit. -/
def countAbusers : List LimitSpec → Store → Option String × Store
  | [], s => (none, s)
  | sp :: sps, s =>
    let (v, s) := incrWithWindow s sp.key sp.windowSec
    if v > sp.limit then (some sp.key, s) else countAbusers sps s

/-- Count an allowed attempt on every key of the list. -/
def countAll (s : Store) (specs : List LimitSpec) : Store :=
  specs.foldl (fun s sp => (incrWithWindow s sp.key sp.windowSec).2) s

def takeCooldown (s : Store) : Option Cooldown → Outcome × Store
  | none => (.next, s)
  | some c =>
    if c.ttlSec = 0 then (.error, s)
    else if (s c.key).isSome then (.blocked (s.ttl c.key) .cooldown c.key, s)
    else (.next, Function.update s c.key (some ⟨1, some c.ttlSec⟩))

/-- The script on the structured input. -/
def consumeSpecs (input : ConsumeInput) (s : Store) : Outcome × Store :=
  match atLimit s input.gateKeys with
  | some key => (.blocked (s.ttl key) .gate key, s)
  | none =>
    match countAbusers input.abuserKeys s with
    | (some key, s) => (.blocked (s.ttl key) .abuser key, s)
    | (none, s) =>
      match atLimit s input.victimKeys with
      | some key => (.blocked (s.ttl key) .victim key, s)
      | none =>
        match takeCooldown s input.cooldown with
        | (.next, s) => (.allowed, countAll (countAll s input.gateKeys) input.victimKeys)
        | r => r

/-! ### Segments of the vectors -/

theorem luaIndex_append {α : Type*} (pre : List α) (x : α) (post : List α) :
    luaIndex (pre ++ x :: post) (pre.length + 1) = some x := by
  simp [luaIndex]

/-- From loop index `i` on, the vectors hold the keys and the (limit, window) pairs of `specs`. -/
def Packed (KEYS : List String) (ARGV : List ℤ) (keyBase argBase : ℕ) : List LimitSpec → ℕ → Prop
  | [], _ => True
  | sp :: sps, i =>
    luaIndex KEYS (keyBase + i) = some sp.key ∧
    luaIndex ARGV (argBase + (i - 1) * 2 + 1) = some (sp.limit : ℤ) ∧
    luaIndex ARGV (argBase + (i - 1) * 2 + 2) = some (sp.windowSec : ℤ) ∧
    Packed KEYS ARGV keyBase argBase sps (i + 1)

@[simp] theorem packSpecs_cons (sp : LimitSpec) (sps : List LimitSpec) :
    packSpecs (sp :: sps) = (sp.limit : ℤ) :: (sp.windowSec : ℤ) :: packSpecs sps := rfl

@[simp] theorem length_packSpecs (specs : List LimitSpec) :
    (packSpecs specs).length = specs.length * 2 := by
  induction specs with
  | nil => rfl
  | cons sp sps ih => simp only [packSpecs_cons, List.length_cons, ih]; omega

/-- A segment laid out behind a prefix of the right length is packed. -/
theorem packed_of_layout (keyBase argBase : ℕ) :
    ∀ (specs : List LimitSpec) (i : ℕ) (kpre : List String) (kpost : List String)
      (apre apost : List ℤ), 1 ≤ i → kpre.length = keyBase + (i - 1) →
      apre.length = argBase + (i - 1) * 2 →
      Packed (kpre ++ specs.map (·.key) ++ kpost) (apre ++ packSpecs specs ++ apost)
        keyBase argBase specs i
  | [], _, _, _, _, _, _, _, _ => trivial
  | sp :: sps, i, kpre, kpost, apre, apost, hi, hk, ha => by
    refine ⟨?_, ?_, ?_, ?_⟩
    · have he : keyBase + i = kpre.length + 1 := by omega
      rw [he, List.append_assoc]
      exact luaIndex_append ..
    · rw [← ha, List.append_assoc]
      exact luaIndex_append ..
    · have he : argBase + (i - 1) * 2 + 2 = (apre ++ [(sp.limit : ℤ)]).length + 1 := by simp [ha]
      have hl : apre ++ packSpecs (sp :: sps) ++ apost
          = (apre ++ [(sp.limit : ℤ)]) ++ (sp.windowSec : ℤ) :: (packSpecs sps ++ apost) := by simp
      rw [he, hl]
      exact luaIndex_append ..
    · have h := packed_of_layout keyBase argBase sps (i + 1) (kpre ++ [sp.key]) kpost
        (apre ++ [(sp.limit : ℤ), (sp.windowSec : ℤ)]) apost (by omega)
        (by rw [List.length_append, hk, List.length_singleton]; omega)
        (by rw [List.length_append, ha, List.length_cons, List.length_singleton]; omega)
      simpa using h

/-! ### The loops on a packed segment -/

variable {KEYS : List String} {ARGV : List ℤ} {keyBase argBase : ℕ}

theorem checkLoop_packed (scope : ConsumeScope) (s : Store) :
    ∀ (specs : List LimitSpec) (i : ℕ), Packed KEYS ARGV keyBase argBase specs i →
      checkLoop KEYS ARGV scope keyBase argBase s specs.length i =
        match atLimit s specs with
        | none => .next
        | some key => .blocked (s.ttl key) scope key
  | [], _, _ => rfl
  | sp :: sps, i, ⟨hk, hl, _, hrest⟩ => by
    rw [List.length_cons, checkLoop, hl, hk]
    dsimp only
    by_cases hc : (s.get sp.key).getD 0 ≥ (sp.limit : ℤ)
    · simp [atLimit, hc]
    · rw [if_neg hc, checkLoop_packed scope s sps (i + 1) hrest]
      simp [atLimit, hc]

theorem abuserLoop_packed :
    ∀ (specs : List LimitSpec) (i : ℕ) (s : Store), Packed KEYS ARGV keyBase argBase specs i →
      abuserLoop KEYS ARGV keyBase argBase specs.length i s =
        match countAbusers specs s with
        | (none, s) => (.next, s)
        | (some key, s) => (.blocked (s.ttl key) .abuser key, s)
  | [], _, _, _ => rfl
  | sp :: sps, i, s, ⟨hk, hl, hw, hrest⟩ => by
    rw [List.length_cons, abuserLoop, hl, hw, hk]
    simp only [countAbusers, Int.toNat_natCast]
    by_cases hv : (incrWithWindow s sp.key sp.windowSec).1 > (sp.limit : ℤ)
    · rw [if_pos hv, if_pos hv]
    · rw [if_neg hv, if_neg hv, abuserLoop_packed sps (i + 1) _ hrest]

theorem countLoop_packed :
    ∀ (specs : List LimitSpec) (i : ℕ) (s : Store), Packed KEYS ARGV keyBase argBase specs i →
      countLoop KEYS ARGV keyBase argBase specs.length i s = (.next, countAll s specs)
  | [], _, _, _ => rfl
  | sp :: sps, i, s, ⟨hk, _, hw, hrest⟩ => by
    rw [List.length_cons, countLoop, hw, hk]
    simp only [Int.toNat_natCast]
    rw [countLoop_packed sps (i + 1) _ hrest]
    rfl

/-! ### The whole script -/

theorem acquireCooldown_packed (input : ConsumeInput) (s : Store) :
    acquireCooldown (packKeys input) (packArgv input)
      (input.gateKeys.length + input.abuserKeys.length + input.victimKeys.length + 1)
      (3 + input.gateKeys.length * 2 + input.abuserKeys.length * 2
        + input.victimKeys.length * 2 + 1) s = takeCooldown s input.cooldown := by
  cases hc : input.cooldown with
  | none =>
    have hlen : (packKeys input).length < input.gateKeys.length + input.abuserKeys.length
        + input.victimKeys.length + 1 := by
      simp only [packKeys, hc, List.length_append, List.length_map, Option.map_none,
        Option.toList_none, List.length_nil]
      omega
    rw [acquireCooldown, if_pos hlen, takeCooldown]
  | some c =>
    have hkey : luaIndex (packKeys input) (input.gateKeys.length + input.abuserKeys.length
        + input.victimKeys.length + 1) = some c.key := by
      have hlen : input.gateKeys.length + input.abuserKeys.length + input.victimKeys.length
          = (input.gateKeys.map (·.key) ++ input.abuserKeys.map (·.key)
            ++ input.victimKeys.map (·.key)).length := by
        simp only [List.length_append, List.length_map]
      rw [hlen, packKeys, hc]
      exact luaIndex_append ..
    have harg : luaIndex (packArgv input) (3 + input.gateKeys.length * 2
        + input.abuserKeys.length * 2 + input.victimKeys.length * 2 + 1)
          = some (c.ttlSec : ℤ) := by
      have hlen : 3 + input.gateKeys.length * 2 + input.abuserKeys.length * 2
          + input.victimKeys.length * 2
            = ([(input.gateKeys.length : ℤ), (input.abuserKeys.length : ℤ),
              (input.victimKeys.length : ℤ)] ++ packSpecs input.gateKeys
              ++ packSpecs input.abuserKeys ++ packSpecs input.victimKeys).length := by
        simp
        omega
      rw [hlen, packArgv, hc]
      exact luaIndex_append ..
    have hpos : ¬ (packKeys input).length < input.gateKeys.length + input.abuserKeys.length
        + input.victimKeys.length + 1 := by
      simp only [packKeys, hc, List.length_append, List.length_map, Option.map_some,
        Option.toList_some, List.length_singleton]
      omega
    rw [acquireCooldown, if_neg hpos, harg, hkey]
    simp only [takeCooldown, Int.toNat_natCast]
    by_cases h0 : c.ttlSec = 0
    · rw [if_pos h0, if_pos (by omega)]
    · rw [if_neg h0, if_neg (by omega)]

/-- On the vectors `consume()` packs, the script is its structured meaning: no index of it misses,
    whatever the lengths of the segments and with or without the trailing cooldown. -/
theorem consumeLua_packed (input : ConsumeInput) (s : Store) :
    consumeLua (packKeys input) (packArgv input) s = consumeSpecs input s := by
  obtain ⟨g, hg⟩ : ∃ g, g = input.gateKeys := ⟨_, rfl⟩
  obtain ⟨a, ha⟩ : ∃ a, a = input.abuserKeys := ⟨_, rfl⟩
  obtain ⟨v, hv⟩ : ∃ v, v = input.victimKeys := ⟨_, rfl⟩
  have hpg : Packed (packKeys input) (packArgv input) 0 3 g 1 := by
    have h := packed_of_layout 0 3 g 1 []
      (a.map (·.key) ++ v.map (·.key) ++ (input.cooldown.map (·.key)).toList)
      [(g.length : ℤ), (a.length : ℤ), (v.length : ℤ)]
      (packSpecs a ++ packSpecs v ++ (input.cooldown.map fun c => (c.ttlSec : ℤ)).toList)
      le_rfl rfl rfl
    simpa [packKeys, packArgv, ← hg, ← ha, ← hv] using h
  have hpa : Packed (packKeys input) (packArgv input) g.length (3 + g.length * 2) a 1 := by
    have h := packed_of_layout g.length (3 + g.length * 2) a 1
      (g.map (·.key)) (v.map (·.key) ++ (input.cooldown.map (·.key)).toList)
      ([(g.length : ℤ), (a.length : ℤ), (v.length : ℤ)] ++ packSpecs g)
      (packSpecs v ++ (input.cooldown.map fun c => (c.ttlSec : ℤ)).toList)
      le_rfl (by simp) (by simp; omega)
    simpa [packKeys, packArgv, ← hg, ← ha, ← hv] using h
  have hpv : Packed (packKeys input) (packArgv input) (g.length + a.length)
      (3 + g.length * 2 + a.length * 2) v 1 := by
    have h := packed_of_layout (g.length + a.length) (3 + g.length * 2 + a.length * 2) v 1
      (g.map (·.key) ++ a.map (·.key)) (input.cooldown.map (·.key)).toList
      ([(g.length : ℤ), (a.length : ℤ), (v.length : ℤ)] ++ packSpecs g ++ packSpecs a)
      (input.cooldown.map fun c => (c.ttlSec : ℤ)).toList
      le_rfl (by simp) (by simp; omega)
    simpa [packKeys, packArgv, ← hg, ← ha, ← hv] using h
  have h1 : luaIndex (packArgv input) 1 = some (g.length : ℤ) := by simp [luaIndex, packArgv, hg]
  have h2 : luaIndex (packArgv input) 2 = some (a.length : ℤ) := by simp [luaIndex, packArgv, ha]
  have h3 : luaIndex (packArgv input) 3 = some (v.length : ℤ) := by simp [luaIndex, packArgv, hv]
  have hcd := acquireCooldown_packed input
  rw [← hg, ← ha, ← hv] at hcd
  rw [consumeLua, h1, h2, h3, consumeSpecs, ← hg, ← ha, ← hv]
  simp only [Int.toNat_natCast]
  rw [checkLoop_packed .gate s g 1 hpg]
  cases atLimit s g with
  | some key => rfl
  | none =>
    simp only [abuserLoop_packed a 1 s hpa]
    rcases countAbusers a s with ⟨_ | key, s1⟩
    · simp only [checkLoop_packed .victim s1 v 1 hpv]
      cases atLimit s1 v with
      | some key => rfl
      | none =>
        simp only [hcd s1]
        rcases takeCooldown s1 input.cooldown with ⟨_ | _ | _ | _, s2⟩
        · simp only [countLoop_packed g 1 s2 hpg, countLoop_packed v 1 _ hpv]
        · rfl
        · rfl
        · rfl
    · rfl

end Redeemo.Limiter
