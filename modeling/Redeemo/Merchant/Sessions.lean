import Redeemo.Lib.Bytes
import Redeemo.Lib.Expiring
import Redeemo.Lib.Runs
import Redeemo.Shared.Errors
import Redeemo.Shared.Schema

/-! Merchant sessions in Redis: refreshing a token and logging out.

    A session is its refresh-token key. A refresh reads the key first and exchanges the token later, in one
    script; a logout deletes the key, or leaves a tombstone for the script to find where it cannot. Any number of
    calls run at once, each command of each of them a step of its own, and a command's reply may be lost before or
    after it was executed. -/

namespace Redeemo.MerchantSession

open Runs

/-! ### Redis -/

def REFRESH_TOKEN_TTL_SECONDS : ℕ := 90 * 24 * 60 * 60

namespace RedisKey

def authMerchant (merchantAdminId : String) : String := "auth:merchant:" ++ merchantAdminId

def refreshToken (role entityId sessionId : String) : String :=
  "refresh:" ++ role ++ ":" ++ entityId ++ ":" ++ sessionId

def sessionRevoked (role entityId sessionId : String) : String :=
  "session-revoked:" ++ role ++ ":" ++ entityId ++ ":" ++ sessionId

end RedisKey

/-- The object that a refresh-token key holds as JSON. -/
structure StoredSession where
  tokenHash : String
  deviceId : String
  deviceType : String
  deviceName : Option String
  createdAt : String
  deriving DecidableEq

/-- Under a refresh-token key, a text is one that does not decode. -/
inductive Value
  | session (s : StoredSession)
  | text (s : String)
  deriving DecidableEq

/-- The clock is in milliseconds. -/
abbrev Redis := Expiring String Value

/-- `SET key value EX seconds`. -/
def set (r : Redis) (key : String) (value : Value) (seconds : ℕ) : Redis := r.setEx key value (1000 * seconds)

inductive RotateRefusalReason
  | missing
  | mismatch
  | corrupt
  | revoked
  deriving DecidableEq

inductive RotateResult
  | ok
  | refused (reason : RotateRefusalReason)
  deriving DecidableEq

def ROTATE_LUA (tokenKey tombstoneKey expectedHash : String) (replacementValue : StoredSession) (ttlSeconds : ℕ)
    (r : Redis) : RotateResult × Redis :=
  match r.get tombstoneKey with
  | some _ => (.refused .revoked, (r.del tokenKey).del tombstoneKey)
  | none =>
    match r.get tokenKey with
    | none => (.refused .missing, r)
    | some (.text _) => (.refused .corrupt, r)
    | some (.session parsed) =>
      if parsed.tokenHash ≠ expectedHash then (.refused .mismatch, r)
      else (.ok, set r tokenKey (.session replacementValue) ttlSeconds)

structure Identity where
  entityId : String
  sessionId : String
  deriving DecidableEq

def Identity.tokenKey (id : Identity) : String := RedisKey.refreshToken "merchant" id.entityId id.sessionId

def Identity.tombstoneKey (id : Identity) : String := RedisKey.sessionRevoked "merchant" id.entityId id.sessionId

def rotateMerchantRefreshTokenAtomic (id : Identity) (expectedHash : String) (replacementValue : StoredSession)
    (ttlSeconds : ℕ) (r : Redis) : RotateResult × Redis :=
  ROTATE_LUA id.tokenKey id.tombstoneKey expectedHash replacementValue ttlSeconds r

/-! ### Calls -/

structure RefreshData where
  refreshToken : String
  sessionId : String
  entityId : String
  deriving DecidableEq

def RefreshData.identity (data : RefreshData) : Identity := ⟨data.entityId, data.sessionId⟩

structure LogoutData where
  accessToken : Option String
  refreshToken : Option String
  sessionId : Option String
  entityId : Option String
  deriving DecidableEq

/-- The claims of a token whose signature is valid; those that are not strings are absent. -/
structure Claims where
  sub : Option String
  role : Option String
  sessionId : Option String

inductive MerchantLogoutRevokeOutcome
  | confirmed
  | pending
  | unavailable
  deriving DecidableEq

inductive Proof
  | signed (id : Identity)
  | possession (id : Identity)
  | missing
  deriving DecidableEq

def REVOKE_MAX_ATTEMPTS : ℕ := 3

/-- Where a call is, and what it holds. -/
inductive Phase
  | refresh (data : RefreshData)
  /-- The presented token matched what was read. -/
  | checked (data : RefreshData) (stored : StoredSession)
  /-- The merchant is not suspended. -/
  | admitted (data : RefreshData) (stored : StoredSession)
  | exchanged (data : RefreshData) (newRefresh : String)
  | refused (data : RefreshData) (reason : RotateRefusalReason)
  /-- Another error was thrown. -/
  | failed (e : Option AppError)
  | logout (data : LogoutData)
  | revoking (id : Identity) (attempt : ℕ)
  | marking (id : Identity)
  | possessing (id : Identity) (presentedRefreshToken : String)
  | possessed (id : Identity)
  /-- The session is dealt with; the cached permissions are still to be evicted. -/
  | evicting (proof : Proof) (entityId : String) (revoke : MerchantLogoutRevokeOutcome)
  | loggedOut (proof : Proof) (revoke : MerchantLogoutRevokeOutcome)
  deriving DecidableEq

/-- What becomes of a command: its reply arrives, or is lost, the command executed or not. -/
inductive Delivery
  | delivered
  | lost (executed : Bool)
  deriving DecidableEq

def Delivery.executed : Delivery → Bool
  | .delivered => true
  | .lost executed => executed

/-- The store after a command. -/
def Delivery.apply (d : Delivery) (f : Redis → Redis) (r : Redis) : Redis := if d.executed then f r else r

/-- What moves a call on. -/
inductive Event
  /-- Time passes for everybody. -/
  | tick (ms : ℕ)
  /-- The call's own computing. -/
  | proceed
  | command (d : Delivery)
  /-- What `getActiveMembership` finds or throws: the status of the merchant, if there is a membership. -/
  | membership (found : Except AppError (Option MerchantStatus))
  /-- The exchange, with the token drawn for it. -/
  | rotate (newRefresh createdAt : String) (d : Delivery)
  deriving DecidableEq

/-- A string that is neither absent nor empty. -/
def given (s : Option String) : Option String := s.filter (· ≠ "")

section Calls

/-! `hash` is the hash of refresh tokens, `verify` the check of an access token's signature. -/

variable (hash : String → String) (verify : String → Option Claims)

def validateRefreshToken (stored : StoredSession) (presented : String) : Bool := stored.tokenHash = hash presented

/-- After the `GET` of a refresh. -/
def preCheck (data : RefreshData) : Option Value → Phase
  | none => .failed (some .REFRESH_TOKEN_INVALID)
  | some (.text s) => if s = "" then .failed (some .REFRESH_TOKEN_INVALID) else .failed none
  | some (.session stored) =>
    if validateRefreshToken hash stored data.refreshToken then .checked data stored
    else .failed (some .REFRESH_TOKEN_INVALID)

def afterMembership (data : RefreshData) (stored : StoredSession) : Except AppError (Option MerchantStatus) → Phase
  | .error e => .failed (some e)
  | .ok status => if status = some .SUSPENDED then .failed (some .MERCHANT_SUSPENDED) else .admitted data stored

def replacement (stored : StoredSession) (newRefresh createdAt : String) : StoredSession where
  tokenHash := hash newRefresh
  deviceId := stored.deviceId
  deviceType := stored.deviceType
  deviceName := stored.deviceName
  createdAt := createdAt

/-- The exchange of a refresh that was admitted. -/
def rotate (data : RefreshData) (stored : StoredSession) (newRefresh createdAt : String) (r : Redis) :
    RotateResult × Redis :=
  rotateMerchantRefreshTokenAtomic data.identity (hash data.refreshToken) (replacement hash stored newRefresh createdAt)
    REFRESH_TOKEN_TTL_SECONDS r

def afterRotate (data : RefreshData) (newRefresh : String) : RotateResult → Phase
  | .ok => .exchanged data newRefresh
  | .refused reason => .refused data reason

/-- The identity that a signed token proves. -/
def proven (data : LogoutData) : Option Identity := do
  let claims ← verify (← given data.accessToken)
  if claims.role = some "merchant" then return ⟨← claims.sub, ← claims.sessionId⟩ else none

/-- The way a logout takes. -/
def logoutWay (data : LogoutData) : Phase :=
  match proven verify data with
  | some id => .revoking id 1
  | none =>
    match given data.refreshToken, given data.sessionId, given data.entityId with
    | some refreshToken, some sessionId, some entityId => .possessing ⟨entityId, sessionId⟩ refreshToken
    | _, _, _ => .loggedOut .missing .confirmed

/-- `timingSafeEqual` of the hashes read as hexadecimal; it throws on different lengths. -/
def hashesMatch (presentedHash storedHash : String) : Bool :=
  presentedHash.length = storedHash.length ∧ Bytes.fromHex presentedHash = Bytes.fromHex storedHash

/-- After the `GET` of a logout by possession. -/
def checkPossession (id : Identity) (presentedRefreshToken : String) : Option Value → Phase
  | some (.session stored) =>
    if hashesMatch (hash presentedRefreshToken) stored.tokenHash then .possessed id
    else .loggedOut (.possession id) .unavailable
  | _ => .loggedOut (.possession id) .unavailable

def markRevoked (id : Identity) (r : Redis) : Redis := set r id.tombstoneKey (.text "1") REFRESH_TOKEN_TTL_SECONDS

/-- One step of one call: what it does to the store, and where the call is afterwards. -/
def next : Redis → Phase → Event → Option (Redis × Phase)
  | r, phase, .tick ms => some (r.advance ms, phase)
  | r, .refresh data, .command .delivered => some (r, preCheck hash data (r.get data.identity.tokenKey))
  | r, .refresh _, .command (.lost _) => some (r, .failed none)
  | r, .checked data stored, .membership found => some (r, afterMembership data stored found)
  | r, .admitted data stored, .rotate newRefresh createdAt d =>
    some (d.apply (fun r => (rotate hash data stored newRefresh createdAt r).2) r,
      match d with
      | .delivered => afterRotate data newRefresh (rotate hash data stored newRefresh createdAt r).1
      | .lost _ => .failed none)
  | r, .logout data, .proceed => some (r, logoutWay verify data)
  | r, .revoking id attempt, .command d =>
    some (d.apply (·.del id.tokenKey) r,
      match d with
      | .delivered => .evicting (.signed id) id.entityId .confirmed
      | .lost _ => if attempt < REVOKE_MAX_ATTEMPTS then .revoking id (attempt + 1) else .marking id)
  | r, .marking id, .command d =>
    some (d.apply (markRevoked id) r,
      match d with
      | .delivered => .evicting (.signed id) id.entityId .pending
      | .lost _ => .evicting (.signed id) id.entityId .unavailable)
  | r, .possessing id presentedRefreshToken, .command .delivered =>
    some (r, checkPossession hash id presentedRefreshToken (r.get id.tokenKey))
  | r, .possessing id _, .command (.lost _) => some (r, .loggedOut (.possession id) .unavailable)
  | r, .possessed id, .command d =>
    some (d.apply (·.del id.tokenKey) r,
      match d with
      | .delivered => .evicting (.possession id) id.entityId .confirmed
      | .lost _ => .loggedOut (.possession id) .unavailable)
  | r, .evicting proof entityId revoke, .command d =>
    some (d.apply (·.del (RedisKey.authMerchant entityId)) r, .loggedOut proof revoke)
  | _, _, _ => none

/-- Any number of calls at once. -/
abbrev Calls (ι : Type*) := Pool ι Redis Phase

def step {ι : Type*} [DecidableEq ι] : Calls ι → ι × Event → Option (Calls ι) := poolStep fun _ => next hash verify

end Calls

end Redeemo.MerchantSession
