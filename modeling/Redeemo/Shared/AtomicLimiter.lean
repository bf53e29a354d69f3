import Mathlib.Logic.Function.Basic
import Mathlib.Data.List.Basic
import Mathlib.Algebra.Order.Group.Int
import Mathlib.Tactic.Common

/-! The shared rate limiter: the Redis commands it uses, `CONSUME_LUA`, `consume()` and the pure
    mirror `luaConsumeShim` / `shimEval` that stands in for the script in unit tests.

    A Redis key holds a decimal integer, kept here as that integer, and maybe an expiry. The script
    is embedded with its own index arithmetic over `KEYS` and `ARGV` (from 1, as in Lua; a position
    past the end is `nil`, and the call that needs it fails). A failed script keeps what it wrote
    before the failure. -/

namespace Redeemo.Limiter

/-! ### Redis -/

structure Entry where
  value : ℤ
  /-- Seconds to live; `none` for a key without an expiry. -/
  ttl : Option ℕ
  deriving DecidableEq, Repr

abbrev Store := String → Option Entry

namespace Store

/-- `GET key`, as an integer. -/
def get (s : Store) (key : String) : Option ℤ := (s key).map Entry.value

/-- `TTL key`: -2 for an absent key, -1 for one without an expiry. -/
def ttl (s : Store) (key : String) : ℤ :=
  match s key with
  | none => -2
  | some e => match e.ttl with
    | none => -1
    | some t => t

def del (s : Store) (key : String) : Store := Function.update s key none

/-- `INCRBY key n`: an absent key counts from 0, an existing one keeps its expiry. -/
def incrBy (s : Store) (key : String) (n : ℤ) : Store :=
  match s key with
  | none => Function.update s key (some ⟨n, none⟩)
  | some e => Function.update s key (some { e with value := e.value + n })

/-- `INCR key`; the reply is the new value. -/
def incr (s : Store) (key : String) : ℤ × Store := ((s.get key).getD 0 + 1, s.incrBy key 1)

/-- `DECR key`; the reply is the new value. -/
def decr (s : Store) (key : String) : ℤ × Store := ((s.get key).getD 0 - 1, s.incrBy key (-1))

/-- `EXPIRE key sec`: a window of no length deletes the key. -/
def expire (s : Store) (key : String) (sec : ℕ) : Store :=
  match s key with
  | none => s
  | some e => if sec = 0 then s.del key else Function.update s key (some { e with ttl := some sec })

/-- The keys and their values, without the expiries. -/
def counters (s : Store) : String → Option ℤ := fun key => s.get key

end Store

/-! ### Inputs and results -/

structure LimitSpec where
  key : String
  limit : ℕ
  windowSec : ℕ
  deriving DecidableEq, Repr

structure Cooldown where
  key : String
  ttlSec : ℕ
  deriving DecidableEq, Repr

/-- An absent list of keys is the empty one (`?? []`). -/
structure ConsumeInput where
  gateKeys : List LimitSpec := []
  abuserKeys : List LimitSpec := []
  victimKeys : List LimitSpec := []
  cooldown : Option Cooldown := none
  deriving DecidableEq, Repr

inductive ConsumeScope where | gate | abuser | victim | cooldown
  deriving DecidableEq, Repr

inductive ConsumeResult where
  | ok
  | blocked (scope : ConsumeScope) (blockedKey : String) (retryAfter : ℤ)
  deriving DecidableEq, Repr

/-- What a result decides: allowed, or blocked in a scope by a key. -/
def ConsumeResult.decision : ConsumeResult → Option (ConsumeScope × String)
  | .ok => none
  | .blocked scope key _ => some (scope, key)

/-! ### The script -/

/-- How a piece of the script ends: it falls through, returns `{0, ttl, scope, key}` or `{1}`, or a
    call in it fails. -/
inductive Outcome where
  | next
  | blocked (ttl : ℤ) (scope : ConsumeScope) (key : String)
  | allowed
  | error
  deriving DecidableEq, Repr

/-- `xs[i]` in Lua. -/
def luaIndex {α : Type*} (xs : List α) (i : ℕ) : Option α := if i = 0 then none else xs[i - 1]?

/-- `for i = 1, n`: read each counter of a segment and stop at the first that is at its limit. -/
def checkLoop (KEYS : List String) (ARGV : List ℤ) (scope : ConsumeScope) (keyBase argBase : ℕ)
    (s : Store) : ℕ → ℕ → Outcome
  | 0, _ => .next
  | n + 1, i =>
    match luaIndex ARGV (argBase + (i - 1) * 2 + 1), luaIndex KEYS (keyBase + i) with
    | some limit, some key =>
      if (s.get key).getD 0 ≥ limit then .blocked (s.ttl key) scope key
      else checkLoop KEYS ARGV scope keyBase argBase s n (i + 1)
    | _, _ => .error

/-- `INCR`, and the expiry on the first increment. -/
def incrWithWindow (s : Store) (key : String) (window : ℕ) : ℤ × Store :=
  let (v, s) := s.incr key
  (v, if v = 1 then s.expire key window else s)

/-- Abuser keys: count every attempt, then check. -/
def abuserLoop (KEYS : List String) (ARGV : List ℤ) (keyBase argBase : ℕ) :
    ℕ → ℕ → Store → Outcome × Store
  | 0, _, s => (.next, s)
  | n + 1, i, s =>
    match luaIndex ARGV (argBase + (i - 1) * 2 + 1), luaIndex ARGV (argBase + (i - 1) * 2 + 2),
        luaIndex KEYS (keyBase + i) with
    | some limit, some window, some key =>
      let (v, s) := incrWithWindow s key window.toNat
      if v > limit then (.blocked (s.ttl key) .abuser key, s)
      else abuserLoop KEYS ARGV keyBase argBase n (i + 1) s
    | _, _, _ => (.error, s)

/-- Count an allowed attempt on every key of a segment. -/
def countLoop (KEYS : List String) (ARGV : List ℤ) (keyBase argBase : ℕ) :
    ℕ → ℕ → Store → Outcome × Store
  | 0, _, s => (.next, s)
  | n + 1, i, s =>
    match luaIndex ARGV (argBase + (i - 1) * 2 + 2), luaIndex KEYS (keyBase + i) with
    | some window, some key =>
      countLoop KEYS ARGV keyBase argBase n (i + 1) (incrWithWindow s key window.toNat).2
    | _, _ => (.error, s)

/-- `SET key 1 EX ttl NX`: an expiry of no length is an error before the key is looked at. -/
def acquireCooldown (KEYS : List String) (ARGV : List ℤ) (cdIdx argIdx : ℕ) (s : Store) :
    Outcome × Store :=
  if KEYS.length < cdIdx then (.next, s)
  else match luaIndex ARGV argIdx, luaIndex KEYS cdIdx with
    | some ttl, some key =>
      if ttl ≤ 0 then (.error, s)
      else if (s key).isSome then (.blocked (s.ttl key) .cooldown key, s)
      else (.next, Function.update s key (some ⟨1, some ttl.toNat⟩))
    | _, _ => (.error, s)

/-- `CONSUME_LUA` on a `KEYS`/`ARGV` vector. -/
def consumeLua (KEYS : List String) (ARGV : List ℤ) (s : Store) : Outcome × Store :=
  match luaIndex ARGV 1, luaIndex ARGV 2, luaIndex ARGV 3 with
  | some g, some a, some v =>
    let (nG, nA, nV) := (g.toNat, a.toNat, v.toNat)
    let gbase := 3
    match checkLoop KEYS ARGV .gate 0 gbase s nG 1 with
    | .next =>
      let abase := gbase + nG * 2
      match abuserLoop KEYS ARGV nG abase nA 1 s with
      | (.next, s) =>
        let vbase := abase + nA * 2
        match checkLoop KEYS ARGV .victim (nG + nA) vbase s nV 1 with
        | .next =>
          match acquireCooldown KEYS ARGV (nG + nA + nV + 1) (vbase + nV * 2 + 1) s with
          | (.next, s) =>
            match countLoop KEYS ARGV 0 gbase nG 1 s with
            | (.next, s) =>
              match countLoop KEYS ARGV (nG + nA) vbase nV 1 s with
              | (.next, s) => (.allowed, s)
              | r => r
            | r => r
          | r => r
        | r => (r, s)
      | r => r
    | r => (r, s)
  | _, _, _ => (.error, s)

/-! ### `consume()` -/

def packSpecs (specs : List LimitSpec) : List ℤ :=
  specs.flatMap fun s => [(s.limit : ℤ), (s.windowSec : ℤ)]

/-- The `KEYS` that `consume()` packs. -/
def packKeys (input : ConsumeInput) : List String :=
  input.gateKeys.map (·.key) ++ input.abuserKeys.map (·.key) ++ input.victimKeys.map (·.key) ++
    (input.cooldown.map (·.key)).toList

/-- The `ARGV` that `consume()` packs. -/
def packArgv (input : ConsumeInput) : List ℤ :=
  [(input.gateKeys.length : ℤ), (input.abuserKeys.length : ℤ), (input.victimKeys.length : ℤ)] ++
    packSpecs input.gateKeys ++ packSpecs input.abuserKeys ++ packSpecs input.victimKeys ++
    (input.cooldown.map fun c => (c.ttlSec : ℤ)).toList

def fallbackWindow (input : ConsumeInput) (blockedKey : String) : ℕ :=
  match (input.gateKeys ++ input.abuserKeys ++ input.victimKeys).find? (·.key == blockedKey) with
  | some s => s.windowSec
  | none => match input.cooldown with
    | some c => if c.key = blockedKey then c.ttlSec else 60
    | none => 60

/-- `consume()`: `none` when the script fails. -/
def consume (s : Store) (input : ConsumeInput) : Option ConsumeResult × Store :=
  match consumeLua (packKeys input) (packArgv input) s with
  | (.allowed, s) => (some .ok, s)
  | (.blocked ttl scope key, s) =>
    (some (.blocked scope key (if ttl > 0 then ttl else fallbackWindow input key)), s)
  | (.next, s) => (none, s)
  | (.error, s) => (none, s)

/-! ### The test mirror -/

/-- The `Map` of a stateful fake: decimal integers by key. -/
abbrev FakeStore := String → Option ℤ

/-- `parseInt(store.get(key) ?? '0', 10) || 0`. -/
def FakeStore.count (m : FakeStore) (key : String) : ℤ := (m key).getD 0

def FakeStore.set (m : FakeStore) (key : String) (v : ℤ) : FakeStore :=
  Function.update m key (some v)

def shimCheck (m : FakeStore) : List LimitSpec → Option String
  | [] => none
  | s :: ss => if m.count s.key ≥ s.limit then some s.key else shimCheck m ss

def shimAbusers : List LimitSpec → FakeStore → Option String × FakeStore
  | [], m => (none, m)
  | s :: ss, m =>
    let v := m.count s.key + 1
    let m := m.set s.key v
    if v > s.limit then (some s.key, m) else shimAbusers ss m

def shimCount (m : FakeStore) (specs : List LimitSpec) : FakeStore :=
  specs.foldl (fun m s => m.set s.key (m.count s.key + 1)) m

/-- `luaConsumeShim`; `ttlOf` is the fake's clock. -/
def luaConsumeShim (m : FakeStore) (input : ConsumeInput) (ttlOf : String → ℤ := fun _ => -1) :
    ConsumeResult × FakeStore :=
  let blocked (scope : ConsumeScope) (key : String) : ConsumeResult :=
    .blocked scope key (if ttlOf key > 0 then ttlOf key else fallbackWindow input key)
  match shimCheck m input.gateKeys with
  | some key => (blocked .gate key, m)
  | none =>
    match shimAbusers input.abuserKeys m with
    | (some key, m) => (blocked .abuser key, m)
    | (none, m) =>
      match shimCheck m input.victimKeys with
      | some key => (blocked .victim key, m)
      | none =>
        match input.cooldown with
        | some c =>
          if (m c.key).isSome then (blocked .cooldown c.key, m)
          else (.ok, shimCount (shimCount (m.set c.key 1) input.gateKeys) input.victimKeys)
        | none => (.ok, shimCount (shimCount m input.gateKeys) input.victimKeys)

/-- `take` of `shimEval`: `count` specs from position `i` of the arguments. A position past the end
    reads `undefined`, here the empty key and 0; `consume()` packs no such vector. -/
def shimTake (keys : List String) (argv : List ℤ) : ℕ → ℕ → ℕ → List LimitSpec
  | 0, _, _ => []
  | count + 1, keyOffset, i =>
    ⟨keys.getD keyOffset "", (argv.getD i 0).toNat, (argv.getD (i + 1) 0).toNat⟩ ::
      shimTake keys argv count (keyOffset + 1) (i + 2)

/-- `shimEval`'s positional unpacking of a `KEYS`/`ARGV` vector. -/
def shimUnpack (keys : List String) (argv : List ℤ) : ConsumeInput :=
  let nG := (argv.getD 0 0).toNat
  let nA := (argv.getD 1 0).toNat
  let nV := (argv.getD 2 0).toNat
  { gateKeys := shimTake keys argv nG 0 3
    abuserKeys := shimTake keys argv nA nG (3 + 2 * nG)
    victimKeys := shimTake keys argv nV (nG + nA) (3 + 2 * nG + 2 * nA)
    cooldown :=
      if keys.length > nG + nA + nV then
        some ⟨keys.getD (nG + nA + nV) "", (argv.getD (3 + 2 * nG + 2 * nA + 2 * nV) 0).toNat⟩
      else none }

/-- `shimEval`. -/
def shimEval (m : FakeStore) (keys : List String) (argv : List ℤ)
    (ttlOf : String → ℤ := fun _ => -1) : Outcome × FakeStore :=
  match luaConsumeShim m (shimUnpack keys argv) ttlOf with
  | (.ok, m) => (.allowed, m)
  | (.blocked scope key retryAfter, m) => (.blocked retryAfter scope key, m)

end Redeemo.Limiter
