import Redeemo.Lib.Fallible
import Redeemo.Lib.InsertionMap
import Redeemo.Lib.JsonMembers

/-! The keyring: the keys of the environment, checked before anything is started with them.

    Each of the two namespaces has a ring. Where its map variable is blank the ring is bridged from the one
    old key; otherwise it is read from a JSON object. A ring that passes lists no decommissioned key id,
    holds keys of 32 bytes only, and holds its active key id and the one that three-part values resolve to
    (`sound_of_build`). -/

namespace Redeemo.Keyring

open Records Bytes

inductive Namespace
  | pin
  | otp
  deriving DecidableEq

/-- The variables the keyring reads. -/
structure Env where
  encryptionKey : Option String
  encryptionKeys : Option String
  encryptionKeyActive : Option String
  encryptionLegacyKid : Option String
  otpHmacKeys : Option String
  otpHmacKeyActive : Option String
  decommissionedKids : Option String

def DEFAULT_LEGACY_KID : String := "legacy"

def OTP_LEGACY_KID : String := "otp-legacy"

/-! ### Patterns -/

/-- `[a-z0-9-]`. -/
def isKidChar (c : Char) : Bool := c.isLower ∨ c.isDigit ∨ c = '-'

/-- `pre[a-z0-9-]{1,28}`. -/
def namespaced (pre s : String) : Bool :=
  pre.toList <+: s.toList ∧ (s.toList.drop pre.toList.length).all isKidChar ∧
    1 ≤ (s.toList.drop pre.toList.length).length ∧ (s.toList.drop pre.toList.length).length ≤ 28

/-- `/^[0-9a-fA-F]{64}$/`. -/
def HEX64 (s : String) : Bool := s.toList.length = 64 ∧ s.toList.all isHexDigit

/-- `/^(pin-[a-z0-9-]{1,28}|legacy)$/`. -/
def PIN_KID (s : String) : Bool := namespaced "pin-" s ∨ s = "legacy"

/-- `/^otp-[a-z0-9-]{1,28}$/`. -/
def OTP_KID (s : String) : Bool := namespaced "otp-" s

/-- `/^(legacy|(pin|otp)-[a-z0-9-]{1,28})$/`. -/
def VALID_KID_LABEL (s : String) : Bool := s = "legacy" ∨ namespaced "pin-" s ∨ namespaced "otp-" s

def safeKidLabel (s : String) : String := if VALID_KID_LABEL s then s else "[redacted]"

def PLACEHOLDER_SUBSTRINGS : List String :=
  ["placeholder", "replace_me", "your-", "changeme", "dev-customer-secret", "dev-merchant-secret",
    "dev-branch-secret", "dev-admin-secret"]

/-- It is asked about hexadecimal strings only, whose letters are ASCII. -/
def isPlaceholder (value : String) : Bool :=
  let v := (trim value).toList.map Char.toLower
  PLACEHOLDER_SUBSTRINGS.any fun marker => v.tails.any fun t => marker.toList.isPrefixOf t

def resolveLegacyKid (raw : Option String) : String :=
  if (raw.map trim).getD "" = "" then DEFAULT_LEGACY_KID else (raw.map trim).getD ""

def csv (value : Option String) : List String :=
  (((value.getD "").toList.splitOn ',').map fun s => trim (String.ofList s)).filter (· ≠ "")

namespace Namespace

def label : Namespace → String
  | pin => "pin"
  | otp => "otp"

def mapVar : Namespace → String
  | pin => "ENCRYPTION_KEYS"
  | otp => "OTP_HMAC_KEYS"

def activeVar : Namespace → String
  | pin => "ENCRYPTION_KEY_ACTIVE"
  | otp => "OTP_HMAC_KEY_ACTIVE"

def kidPattern : Namespace → String → Bool
  | pin => PIN_KID
  | otp => OTP_KID

/-- `^(pin-|legacy$)` and `^otp-`. -/
def containment : Namespace → String → Bool
  | pin, s => "pin-".toList <+: s.toList ∨ s = "legacy"
  | otp, s => "otp-".toList <+: s.toList

def expectedKids : Namespace → String
  | pin => "pin-* or legacy"
  | otp => "otp-*"

def expectedActive : Namespace → String
  | pin => "pin-*"
  | otp => "otp-*"

end Namespace

namespace Env

def rawMap (env : Env) : Namespace → Option String
  | .pin => env.encryptionKeys
  | .otp => env.otpHmacKeys

def active (env : Env) : Namespace → Option String
  | .pin => env.encryptionKeyActive
  | .otp => env.otpHmacKeyActive

def denylist (env : Env) : List String := csv env.decommissionedKids

def legacyKid (env : Env) : Namespace → String
  | .pin => resolveLegacyKid env.encryptionLegacyKid
  | .otp => OTP_LEGACY_KID

end Env

/-! ### Keys written twice -/

structure RawKeys where
  seen : List String
  dups : List String
  rawKeyCount : ℕ

def RawKeys.add (k : RawKeys) (s : String) : RawKeys :=
  if s ∈ k.seen then { k with dups := if s ∈ k.dups then k.dups else k.dups ++ [s], rawKeyCount := k.rawKeyCount + 1 }
  else { k with seen := k.seen ++ [s], rawKeyCount := k.rawKeyCount + 1 }

/-- The scan from one character on: the string it is within, if any, and the nesting depth. A key is a string at
    depth 1 that a colon follows. -/
def scanKeys : Option (List Char) → ℤ → RawKeys → List Char → RawKeys
  | _, _, k, [] => k
  | none, depth, k, c :: cs =>
    if c = '{' ∨ c = '[' then scanKeys none (depth + 1) k cs
    else if c = '}' ∨ c = ']' then scanKeys none (depth - 1) k cs
    else if c = '"' then scanKeys (some []) depth k cs
    else scanKeys none depth k cs
  | some _, _, k, ['\\'] => k
  | some s, depth, k, '\\' :: c :: cs => scanKeys (some (s ++ ['\\', c])) depth k cs
  | some s, depth, k, c :: cs =>
    if c = '"' then
      scanKeys none depth
        (if depth = 1 ∧ (cs.dropWhile isJsonSpace).head? = some ':' then k.add (String.ofList s) else k) cs
    else scanKeys (some (s ++ [c])) depth k cs

def duplicateTopLevelKeys (raw : String) : RawKeys := scanKeys none 0 ⟨[], [], 0⟩ (raw.toList.dropWhile (· ≠ '{'))

/-- `Object.entries(parsed).length`: of the members of one name, `JSON.parse` keeps the last. -/
def parsedKeyCount (rawMap : String) : ℕ := (topLevelNames rawMap).dedup.length

/-- A key is repeated as it is written, or the members are not as many as the keys that were parsed. -/
def declaresDuplicates (rawMap : String) : Bool :=
  let raw := duplicateTopLevelKeys rawMap
  raw.dups ≠ [] ∨ raw.rawKeyCount ≠ parsedKeyCount rawMap

/-! ### One ring -/

structure ParsedRing where
  keys : InsertionMap String String
  activeKid : String
  bridged : Bool
  deriving DecidableEq

def ParsedRing.kids (ring : ParsedRing) : List String := ring.keys.entries.map Prod.fst

structure RingReport where
  problems : List String
  ring : Option ParsedRing

/-- A ring only where no problem was found. -/
def RingReport.of (problems : List String) (ring : ParsedRing) : RingReport :=
  if problems = [] then ⟨problems, some ring⟩ else ⟨problems, none⟩

/-- What is wrong with a bridge under this key id. -/
def bridgeProblems (env : Env) (ns : Namespace) (bridgedKid : String) : List String :=
  (if bridgedKid ∈ env.denylist then
    [s!"The bridged {ns.label} active kid \"{bridgedKid}\" is in DECOMMISSIONED_KIDS, so it cannot be the active key."]
    else []) ++
  match env.active ns with
  | none => []
  | some explicitActive =>
    if isBlank explicitActive = false ∧ explicitActive ≠ bridgedKid then
      [s!"{ns.activeVar} is set (\"{safeKidLabel explicitActive}\") but {ns.mapVar} is unset, so the {ns.label} ring would run in legacy-bridge mode under \"{bridgedKid}\" and {ns.activeVar} would be IGNORED. Set {ns.mapVar} (explicit-keyring mode) or unset {ns.activeVar}."]
    else []

def bridgedRing (env : Env) (ns : Namespace) : RingReport :=
  match env.encryptionKey with
  | none | some "" =>
    ⟨[s!"{ns.mapVar} is unset and ENCRYPTION_KEY is not present, so the {ns.label} legacy bridge cannot be formed."], none⟩
  | some legacyKey =>
    if HEX64 legacyKey then
      .of (bridgeProblems env ns (env.legacyKid ns))
        ⟨InsertionMap.empty.set (env.legacyKid ns) legacyKey, env.legacyKid ns, true⟩
    else ⟨[s!"ENCRYPTION_KEY must be a 64-character hex string (32 bytes) for the {ns.label} legacy bridge."], none⟩

def valueProblems (ns : Namespace) (kid : String) : Json → List String
  | .string value =>
    if HEX64 value = false then [s!"{ns.mapVar} kid \"{safeKidLabel kid}\" must map to a 64-character hex key (32 bytes)."]
    else if isPlaceholder value then
      [s!"{ns.mapVar} kid \"{safeKidLabel kid}\" is set to a placeholder value. Provide a real key."]
    else []
  | _ => [s!"{ns.mapVar} kid \"{safeKidLabel kid}\" must map to a 64-character hex key (32 bytes)."]

def entryProblems (env : Env) (ns : Namespace) (e : String × Json) : List String :=
  (if ns.containment e.1 = false ∨ ns.kidPattern e.1 = false then
    [s!"{ns.mapVar} kid \"{safeKidLabel e.1}\" is not in the {ns.label} namespace (expected {ns.expectedKids}, charset a-z0-9- only)."]
    else []) ++
  (if e.1 ∈ env.denylist then
    [s!"{ns.mapVar} contains kid \"{safeKidLabel e.1}\" which is in DECOMMISSIONED_KIDS; a retired/compromised kid must be removed from the ring entirely, not kept as a key."]
    else []) ++
  valueProblems ns e.1 e.2

/-- The key that an entry puts into the ring. -/
def storedKey : Json → Option String
  | .string value => if HEX64 value ∧ isPlaceholder value = false then some value else none
  | _ => none

def storeEntry (keys : InsertionMap String String) (e : String × Json) : InsertionMap String String :=
  match storedKey e.2 with
  | some value => keys.set e.1 value
  | none => keys

def activeProblems (env : Env) (ns : Namespace) (parsed : Record) (keys : InsertionMap String String) : List String :=
  let activeKid := (env.active ns).getD ""
  if isBlank activeKid then
    [s!"{ns.activeVar} is not set. It must name the active {ns.label} kid present in {ns.mapVar}."]
  else
    (if ns.kidPattern activeKid = false then
      [s!"{ns.activeVar} \"{safeKidLabel activeKid}\" is not a valid {ns.label} kid (expected {ns.expectedActive})."]
      else []) ++
    (if keys.get? activeKid = none ∧ activeKid ∉ parsed.keys then
      [s!"{ns.activeVar} \"{safeKidLabel activeKid}\" is not present in {ns.mapVar}."] else []) ++
    (if activeKid ∈ env.denylist then
      [s!"{ns.activeVar} \"{safeKidLabel activeKid}\" is in DECOMMISSIONED_KIDS and can never be the active key."]
      else []) ++
    (if ns = .pin ∧ activeKid = env.legacyKid ns then
      [s!"{ns.activeVar} \"{safeKidLabel activeKid}\" must not equal the legacy kid \"{env.legacyKid ns}\" in explicit-keyring mode."]
      else [])

def legacyProblems (env : Env) (ns : Namespace) (keys : InsertionMap String String) : List String :=
  if ns = .pin ∧ keys.get? (env.legacyKid ns) = none then
    [s!"The legacy kid \"{env.legacyKid ns}\" (ENCRYPTION_LEGACY_KID) must be present in ENCRYPTION_KEYS so existing 3-part values keep decrypting."]
  else []

/-- The ring of a parsed object. -/
def ringOf (env : Env) (ns : Namespace) (parsed : Record) : RingReport :=
  let keys := parsed.ownEntries.foldl storeEntry .empty
  .of (parsed.ownEntries.flatMap (entryProblems env ns) ++ activeProblems env ns parsed keys ++
    legacyProblems env ns keys)
    ⟨keys, (env.active ns).getD "", false⟩

def explicitRing (env : Env) (ns : Namespace) (rawMap : String) : RingReport :=
  match Json.parse rawMap with
  | none => ⟨[s!"{ns.mapVar} is not valid JSON. It must be a JSON object mapping kid -> 64-hex key."], none⟩
  | some (.object parsed) =>
    let raw := duplicateTopLevelKeys rawMap
    if parsed = [] then ⟨[s!"{ns.mapVar} is an empty object; it must contain at least the active kid."], none⟩
    else if declaresDuplicates rawMap then
      let named := if raw.dups ≠ [] then ", ".intercalate (raw.dups.map safeKidLabel) else "(escape-variant duplicate)"
      ⟨[s!"{ns.mapVar} declares duplicate kid(s) [{named}]. JSON parsing silently keeps only the LAST value for a repeated key (including \\uXXXX escape-variant re-declarations), which could shadow a retired/old key — provide each kid exactly once."], none⟩
    else ringOf env ns parsed
  | some _ => ⟨[s!"{ns.mapVar} must be a JSON object mapping kid -> 64-hex key."], none⟩

/-- A legacy key id that is set, but not to a bare pin key id. -/
def legacyKidRejected (env : Env) : Option String :=
  match env.encryptionLegacyKid with
  | none => none
  | some rawLegacyKid =>
    if trim rawLegacyKid ≠ "" ∧
      (rawLegacyKid ≠ trim rawLegacyKid ∨ PIN_KID (trim rawLegacyKid) = false) then some rawLegacyKid
    else none

/-- The ring, once the legacy key id is a key id. -/
def ringReport (env : Env) (ns : Namespace) : RingReport :=
  match env.rawMap ns with
  | none => bridgedRing env ns
  | some rawMap => if isBlank rawMap then bridgedRing env ns else explicitRing env ns rawMap

def validateRing (env : Env) : Namespace → RingReport
  | .pin =>
    match legacyKidRejected env with
    | some rawLegacyKid =>
      ⟨[s!"ENCRYPTION_LEGACY_KID \"{safeKidLabel rawLegacyKid}\" is not a valid pin kid (expected pin-* or \"legacy\", charset a-z0-9- only, no surrounding whitespace)."], none⟩
    | none => ringReport env .pin
  | .otp => ringReport env .otp

/-! ### The provider -/

inductive CryptoError
  /-- `KeyNotAvailableError`. -/
  | keyNotAvailable (ns : Namespace) (kid : String)
  /-- `EnvelopeParseError`. -/
  | envelopeParse
  /-- `GcmAuthError`. -/
  | gcmAuth
  | error (message : String)
  deriving DecidableEq

def CryptoError.message : CryptoError → String
  | keyNotAvailable ns kid => s!"No key available for {ns.label} kid \"{safeKidLabel kid}\""
  | envelopeParse => "Invalid encrypted value format"
  | gcmAuth => "Decryption authentication failed"
  | error message => message

structure EnvKeyProvider where
  pin : ParsedRing
  otp : ParsedRing
  legacyKid : String
  deriving DecidableEq

namespace EnvKeyProvider

def ring (P : EnvKeyProvider) : Namespace → ParsedRing
  | .pin => P.pin
  | .otp => P.otp

def getActiveKid (P : EnvKeyProvider) (ns : Namespace) : String := (P.ring ns).activeKid

def getLegacyKid (P : EnvKeyProvider) : String := P.legacyKid

def listKids (P : EnvKeyProvider) (ns : Namespace) : List String := (P.ring ns).kids

def getKey (P : EnvKeyProvider) (ns : Namespace) (kid : String) : Except CryptoError Buffer :=
  match (P.ring ns).keys.get? kid with
  | none => .error (.keyNotAvailable ns kid)
  | some hex => .ok (fromHex hex)

end EnvKeyProvider

def buildKeyProviderFromEnv (env : Env) : Except String EnvKeyProvider :=
  let problems := (validateRing env .pin).problems ++ (validateRing env .otp).problems
  match problems, (validateRing env .pin).ring, (validateRing env .otp).ring with
  | [], some pin, some otp => .ok ⟨pin, otp, resolveLegacyKid env.encryptionLegacyKid⟩
  | _, _, _ =>
    .error (s!"[keyring] Refusing to start — {problems.length} keyring configuration problem(s):\n" ++
      "\n".intercalate (problems.map ("  - " ++ ·)))

/-! ### Rings that pass -/

/-- What a ring promises once it is in use. -/
structure Sound (env : Env) (ns : Namespace) (ring : ParsedRing) : Prop where
  kid : ∀ k ∈ ring.kids, ns.kidPattern k = true ∧ k ∉ env.denylist
  hex : ∀ k hex, ring.keys.get? k = some hex → HEX64 hex = true
  active : ring.activeKid ∈ ring.kids
  legacy : ns = .pin → env.legacyKid ns ∈ ring.kids

theorem mem_kids {ring : ParsedRing} {k : String} : k ∈ ring.kids ↔ ∃ hex, ring.keys.get? k = some hex := by
  simp only [ParsedRing.kids, List.mem_map, ← InsertionMap.mem_entries_iff]
  constructor
  · rintro ⟨e, he, rfl⟩
    exact ⟨e.2, he⟩
  · rintro ⟨hex, he⟩
    exact ⟨(k, hex), he, rfl⟩

theorem RingReport.ring_of {problems : List String} {ring r : ParsedRing}
    (h : (RingReport.of problems ring).ring = some r) : problems = [] ∧ ring = r := by
  rw [RingReport.of] at h
  split_ifs at h with hp
  exact ⟨hp, Option.some.inj h⟩

/-- A message behind a condition is not there: the condition fails. -/
theorem not_of_report {p : Prop} [Decidable p] {message : String} (h : (if p then [message] else []) = []) : ¬ p := by
  intro hp
  rw [if_pos hp] at h
  cases h

theorem resolveLegacyKid_pattern {env : Env} (h : legacyKidRejected env = none) :
    PIN_KID (resolveLegacyKid env.encryptionLegacyKid) = true := by
  rw [legacyKidRejected] at h
  cases hr : env.encryptionLegacyKid with
  | none => decide
  | some raw =>
    simp only [hr] at h
    rw [resolveLegacyKid, Option.map_some, Option.getD_some]
    split_ifs with hb
    · decide
    · by_contra hp
      rw [if_pos ⟨hb, .inr (Bool.eq_false_iff.mpr hp)⟩] at h
      cases h

theorem legacyKid_pattern {env : Env} (h : legacyKidRejected env = none) : ∀ ns : Namespace,
    ns.kidPattern (env.legacyKid ns) = true
  | .pin => resolveLegacyKid_pattern h
  | .otp => by
    have hotp : OTP_KID OTP_LEGACY_KID = true := by decide
    exact hotp

theorem sound_bridgedRing {env : Env} {ns : Namespace} {r : ParsedRing}
    (hl : ns.kidPattern (env.legacyKid ns) = true) (h : (bridgedRing env ns).ring = some r) : Sound env ns r := by
  rw [bridgedRing] at h
  split at h
  · cases h
  · cases h
  · rename_i legacyKey _ _
    split_ifs at h with hh
    obtain ⟨hp, rfl⟩ := RingReport.ring_of h
    have hd : env.legacyKid ns ∉ env.denylist := not_of_report (List.append_eq_nil_iff.mp hp).1
    have hkid : env.legacyKid ns ∈ ParsedRing.kids ⟨InsertionMap.empty.set (env.legacyKid ns) legacyKey,
        env.legacyKid ns, true⟩ :=
      mem_kids.mpr ⟨legacyKey, by rw [InsertionMap.get?_set, if_pos rfl]⟩
    have hget : ∀ k hex, (InsertionMap.empty.set (env.legacyKid ns) legacyKey).get? k = some hex →
        k = env.legacyKid ns ∧ hex = legacyKey := by
      intro k hex hk
      rw [InsertionMap.get?_set, InsertionMap.get?_empty] at hk
      split_ifs at hk with hkl
      exact ⟨hkl, (Option.some.inj hk).symm⟩
    refine ⟨?_, ?_, hkid, fun _ => hkid⟩
    · intro k hk
      obtain ⟨hex, hk⟩ := mem_kids.mp hk
      obtain ⟨rfl, -⟩ := hget k hex hk
      exact ⟨hl, hd⟩
    · intro k hex hk
      obtain ⟨-, rfl⟩ := hget k hex hk
      exact hh

/-! ### Rings read from an object -/

theorem stored_hex {v : Json} {hex : String} (h : storedKey v = some hex) : HEX64 hex = true := by
  unfold storedKey at h
  split at h
  · split_ifs at h with hc
    rw [← Option.some.inj h]
    exact hc.1
  · cases h

/-- An entry that passes: its key id belongs to the namespace and is in use, and its value is stored. -/
theorem entry_ok {env : Env} {ns : Namespace} {e : String × Json} (h : entryProblems env ns e = []) :
    ns.kidPattern e.1 = true ∧ e.1 ∉ env.denylist ∧ ∃ hex, storedKey e.2 = some hex := by
  obtain ⟨h, hv⟩ := List.append_eq_nil_iff.mp h
  obtain ⟨hk, hd⟩ := List.append_eq_nil_iff.mp h
  have hk := not_of_report hk
  rw [not_or, Bool.not_eq_false, Bool.not_eq_false] at hk
  refine ⟨hk.2, not_of_report hd, ?_⟩
  unfold valueProblems at hv
  split at hv
  · rename_i value heq
    split_ifs at hv with hx hp
    rw [heq]
    exact ⟨value, if_pos ⟨Bool.not_eq_false _ ▸ hx, Bool.not_eq_true _ ▸ hp⟩⟩
  · cases hv

/-- What is under a key of the ring was there before or comes from an entry. -/
theorem get_stored {k hex : String} : ∀ {es : Record} {keys : InsertionMap String String},
    (es.foldl storeEntry keys).get? k = some hex →
      keys.get? k = some hex ∨ ∃ e ∈ es, e.1 = k ∧ storedKey e.2 = some hex
  | [], _, h => .inl h
  | e :: es, keys, h => by
    rw [List.foldl_cons] at h
    rcases get_stored h with hk | ⟨e', he', hk⟩
    · rw [storeEntry] at hk
      split at hk
      · rename_i value hv
        rw [InsertionMap.get?_set] at hk
        split_ifs at hk with hek
        · exact .inr ⟨e, List.mem_cons_self, hek.symm, hk ▸ hv⟩
        · exact .inl hk
      · exact .inl hk
    · exact .inr ⟨e', List.mem_cons_of_mem e he', hk⟩

/-- A key id once stored stays, under its own value or a later one. -/
theorem stored_kept {k : String} : ∀ {es : Record} {keys : InsertionMap String String},
    (∃ hex, keys.get? k = some hex) → ∃ hex, (es.foldl storeEntry keys).get? k = some hex
  | [], _, h => h
  | e :: es, keys, h => by
    rw [List.foldl_cons]
    refine stored_kept ?_
    rw [storeEntry]
    split
    · rw [InsertionMap.get?_set]
      split_ifs with hk
      · exact ⟨_, rfl⟩
      · exact h
    · exact h

theorem stored_of_mem {e : String × Json} {hex : String} (hv : storedKey e.2 = some hex) :
    ∀ {es : Record} {keys : InsertionMap String String}, e ∈ es →
      ∃ hex', (es.foldl storeEntry keys).get? e.1 = some hex'
  | e' :: es, keys, h => by
    rw [List.foldl_cons]
    rcases List.mem_cons.mp h with rfl | h
    · refine stored_kept ⟨hex, ?_⟩
      rw [storeEntry, hv]
      exact (InsertionMap.get?_set ..).trans (if_pos rfl)
    · exact stored_of_mem hv h

theorem active_present {env : Env} {ns : Namespace} {parsed : Record} {keys : InsertionMap String String}
    (h : activeProblems env ns parsed keys = []) :
    ¬ (keys.get? ((env.active ns).getD "") = none ∧ (env.active ns).getD "" ∉ parsed.keys) := by
  simp only [activeProblems] at h
  by_cases hblank : isBlank ((env.active ns).getD "") = true
  · rw [if_pos hblank] at h
    cases h
  · rw [if_neg hblank] at h
    obtain ⟨h, -⟩ := List.append_eq_nil_iff.mp h
    obtain ⟨h, -⟩ := List.append_eq_nil_iff.mp h
    exact not_of_report (List.append_eq_nil_iff.mp h).2

theorem sound_ringOf {env : Env} {ns : Namespace} {parsed : Record} {r : ParsedRing}
    (h : (ringOf env ns parsed).ring = some r) : Sound env ns r := by
  obtain ⟨hp, rfl⟩ := RingReport.ring_of h
  obtain ⟨hp, hlegacy⟩ := List.append_eq_nil_iff.mp hp
  obtain ⟨hentries, hactive⟩ := List.append_eq_nil_iff.mp hp
  have hentry : ∀ e ∈ parsed.ownEntries, entryProblems env ns e = [] := List.flatMap_eq_nil_iff.mp hentries
  have hfrom : ∀ k hex, (parsed.ownEntries.foldl storeEntry .empty).get? k = some hex →
      ∃ e ∈ parsed.ownEntries, e.1 = k ∧ storedKey e.2 = some hex := by
    intro k hex hk
    rcases get_stored hk with hk | hk
    · cases hk
    · exact hk
  refine ⟨?_, ?_, ?_, ?_⟩
  · intro k hk
    obtain ⟨hex, hk⟩ := mem_kids.mp hk
    obtain ⟨e, he, rfl, -⟩ := hfrom k hex hk
    obtain ⟨hpat, hden, -⟩ := entry_ok (hentry e he)
    exact ⟨hpat, hden⟩
  · intro k hex hk
    obtain ⟨e, -, -, hs⟩ := hfrom k hex hk
    exact stored_hex hs
  · -- The active key id is a key of the object, whose entries all pass.
    have hpresent := active_present hactive
    rw [mem_kids]
    by_cases hk : (parsed.ownEntries.foldl storeEntry .empty).get? ((env.active ns).getD "") = none
    · obtain ⟨e, he, hek⟩ := List.mem_map.mp (not_not.mp fun hn => hpresent ⟨hk, hn⟩)
      obtain ⟨-, -, hex, hs⟩ := entry_ok (hentry e (Record.mem_ownEntries.mpr he))
      rw [← hek]
      exact stored_of_mem hs (Record.mem_ownEntries.mpr he)
    · exact Option.ne_none_iff_exists'.mp hk
  · intro hns
    have hk := not_of_report hlegacy
    exact mem_kids.mpr (Option.ne_none_iff_exists'.mp fun hn => hk ⟨hns, hn⟩)

theorem sound_explicitRing {env : Env} {ns : Namespace} {rawMap : String} {r : ParsedRing}
    (h : (explicitRing env ns rawMap).ring = some r) : Sound env ns r := by
  unfold explicitRing at h
  split at h
  · cases h
  · dsimp only at h
    split_ifs at h
    exact sound_ringOf h
  · cases h

theorem sound_ringReport {env : Env} {ns : Namespace} {r : ParsedRing}
    (hl : ns.kidPattern (env.legacyKid ns) = true) (h : (ringReport env ns).ring = some r) : Sound env ns r := by
  rw [ringReport] at h
  split at h
  · exact sound_bridgedRing hl h
  · split_ifs at h
    · exact sound_bridgedRing hl h
    · exact sound_explicitRing h

theorem sound_validateRing {env : Env} : ∀ {ns : Namespace} {r : ParsedRing},
    (validateRing env ns).ring = some r → Sound env ns r
  | .pin, r, h => by
    rw [validateRing] at h
    split at h
    · cases h
    · rename_i hl
      exact sound_ringReport (legacyKid_pattern hl .pin) h
  | .otp, r, h => by
    have hotp : OTP_KID OTP_LEGACY_KID = true := by decide
    exact sound_ringReport hotp h

/-- A provider that is built has two sound rings and resolves three-part values to a key of its pin ring. -/
theorem sound_of_build {env : Env} {P : EnvKeyProvider} (h : buildKeyProviderFromEnv env = .ok P) :
    (∀ ns, Sound env ns (P.ring ns)) ∧ P.legacyKid = env.legacyKid .pin := by
  rw [buildKeyProviderFromEnv] at h
  split at h
  · rename_i pin otp _ hpin hotp
    cases h
    refine ⟨?_, rfl⟩
    intro ns
    cases ns with
    | pin => exact sound_validateRing hpin
    | otp => exact sound_validateRing hotp
  · cases h

end Redeemo.Keyring
