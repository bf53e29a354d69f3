import Redeemo.Merchant.Sessions

/-! Sessions of customers, branch users and admins: refreshing a token, and the calls that revoke sessions.

    A refresh reads the session's key, looks at the account, deletes the key and writes it anew: a command each, and
    no command looks at what has become of the key. A revocation deletes the key of one session, or asks for all the
    keys of an account and deletes those that it is told. -/

namespace Redeemo.AuthSessions
open Runs
open MerchantSession (StoredSession Value Redis RefreshData Delivery REFRESH_TOKEN_TTL_SECONDS validateRefreshToken)

inductive Role
  | customer
  | branch
  | admin
  deriving DecidableEq

def Role.name : Role → String
  | .customer => "customer"
  | .branch => "branch"
  | .admin => "admin"

namespace RedisKey

/-- `authCustomer`, `authBranch` and `authAdmin`. -/
def auth (role : Role) (entityId : String) : String := "auth:" ++ role.name ++ ":" ++ entityId

def passwordReset (role : Role) (token : String) : String := "pwd-reset:" ++ role.name ++ ":" ++ token

def otpAction (userId action : String) : String := "otp:action:" ++ userId ++ ":" ++ action

/-- The session's refresh-token key. -/
def session (role : Role) (entityId sessionId : String) : String :=
  MerchantSession.RedisKey.refreshToken role.name entityId sessionId

end RedisKey

/-- What a call revokes. -/
inductive Target
  | session (role : Role) (entityId sessionId : String)
  /-- All sessions of the account. Ids have no characters that a pattern treats specially. -/
  | entity (role : Role) (entityId : String)
  deriving DecidableEq

def Target.covers : Target → String → Bool
  | .session role entityId sessionId, key => key = RedisKey.session role entityId sessionId
  | .entity role entityId, key => ("refresh:" ++ role.name ++ ":" ++ entityId ++ ":").toList.isPrefixOf key.toList

inductive Command
  /-- A statement or a transaction in the database. -/
  | database
  | del (key : String)
  /-- `DEL` of the session's key, or `KEYS` for the account and `DEL` of the keys that it tells. -/
  | revoke

structure Statement where
  command : Command
  /-- An error is swallowed. -/
  bestEffort : Bool

def must (command : Command) : Statement := ⟨command, false⟩

def attempt (command : Command) : Statement := ⟨command, true⟩

inductive Result
  | done
  /-- A refresh that is denied. -/
  | denied (e : AppError)
  | aborted (e : Option AppError)
  deriving DecidableEq

/-- Where a call is, and what it holds. -/
inductive Phase
  | refresh (role : Role) (data : RefreshData)
  /-- A customer's token was not the one stored. -/
  | mistaken (data : RefreshData)
  /-- The presented token matched what was read. -/
  | checked (role : Role) (data : RefreshData) (stored : StoredSession)
  /-- The account may go on. -/
  | admitted (role : Role) (data : RefreshData) (stored : StoredSession)
  /-- The key is deleted. -/
  | cleared (role : Role) (data : RefreshData) (stored : StoredSession)
  /-- The new token is stored. -/
  | stored (role : Role) (data : RefreshData) (newRefresh : String)
  | returned (role : Role) (data : RefreshData) (newRefresh : String)
  | failed (e : Option AppError)
  | resetPassword (role : Role) (token : String)
  | deleteAccount (userId actionToken : String)
  /-- What is left of a call that revokes sessions, and whether it has. -/
  | running (target : Target) (todo : List Statement) (revoked : Bool) (result : Result)
  /-- `KEYS` has told these. -/
  | found (target : Target) (keys : String → Bool) (bestEffort : Bool) (todo : List Statement) (revoked : Bool)
      (result : Result)

/-- What the database says about an account; `none` if there is no such row. -/
inductive Account
  | customer (status : Option UserStatus)
  | branch (status : Option (UserStatus × MerchantStatus))
  | admin (isActive : Option Bool)
  deriving DecidableEq

def Account.role : Account → Role
  | .customer _ => .customer
  | .branch _ => .branch
  | .admin _ => .admin

/-- Why the account may not refresh its tokens. -/
def Account.denial : Account → Option AppError
  | .customer (some .ACTIVE) => none
  | .customer (some .INACTIVE) => some .ACCOUNT_INACTIVE
  | .customer (some .SUSPENDED) => some .ACCOUNT_SUSPENDED
  | .customer _ => some .INVALID_CREDENTIALS
  | .branch none => some .BRANCH_USER_DEACTIVATED
  | .branch (some (status, merchantStatus)) =>
    if status = .INACTIVE then some .BRANCH_USER_DEACTIVATED
    else if merchantStatus = .SUSPENDED then some .MERCHANT_SUSPENDED
    else none
  | .admin (some true) => none
  | .admin _ => some .ACCOUNT_SUSPENDED

/-! ### Calls -/

/-- `refreshCustomerToken`, `refreshBranchToken`, `refreshAdminToken` by their role, and the calls that revoke. -/
inductive Call
  | refresh (role : Role) (data : RefreshData)
  | logoutCustomer (entityId sessionId : String)
  | logoutBranchUser (entityId sessionId : String)
  | logoutAdmin (entityId sessionId : String)
  | resetPasswordCustomer (token newPassword : String)
  | resetPasswordAdmin (token newPassword : String)
  | resetBranchUserPassword (branchUserId : String)
  | deactivateBranchUser (branchUserId : String)
  | deleteAccount (userId actionToken : String)
  | deactivateAdmin (adminId : String)

/-- What follows the database's part: the keys, the session records, the cached permissions. -/
def revokeAccount (role : Role) (entityId : String) : List Statement :=
  [must .revoke, must .database, must (.del (RedisKey.auth role entityId))]

section
variable (validatePasswordPolicy : String → Bool)

def resetPassword (role : Role) (token newPassword : String) : Phase :=
  if validatePasswordPolicy newPassword = true then .resetPassword role token
  else .failed (some .PASSWORD_POLICY_VIOLATION)

def Call.start : Call → Phase
  | .refresh role data => .refresh role data
  | .logoutCustomer entityId sessionId => .running (.session .customer entityId sessionId)
      [must .revoke, must .database, must (.del (RedisKey.auth .customer entityId))] false .done
  | .logoutBranchUser entityId sessionId => .running (.session .branch entityId sessionId)
      [must .revoke, must (.del (RedisKey.auth .branch entityId))] false .done
  | .logoutAdmin entityId sessionId => .running (.session .admin entityId sessionId)
      [must .revoke, must (.del (RedisKey.auth .admin entityId))] false .done
  | .resetPasswordCustomer token newPassword => resetPassword validatePasswordPolicy .customer token newPassword
  | .resetPasswordAdmin token newPassword => resetPassword validatePasswordPolicy .admin token newPassword
  | .resetBranchUserPassword branchUserId => .running (.entity .branch branchUserId)
      (must .database :: revokeAccount .branch branchUserId) false .done
  | .deactivateBranchUser branchUserId => .running (.entity .branch branchUserId)
      (must .database :: revokeAccount .branch branchUserId) false .done
  | .deleteAccount userId actionToken => .deleteAccount userId actionToken
  | .deactivateAdmin adminId => .running (.entity .admin adminId)
      [must .database, attempt .revoke, attempt .database] false .done

end

/-- What moves a call on. -/
inductive Event
  /-- Time passes for everybody. -/
  | tick (ms : ℕ)
  | command (d : Delivery)
  /-- A statement of the database is done, or throws. -/
  | database (outcome : Except (Option AppError) Unit)
  /-- Whether the session's record says that another login has superseded it. -/
  | session (supersededByLogin : Bool)
  | account (found : Account)
  /-- The new token is stored, as drawn. -/
  | store (newRefresh createdAt : String) (d : Delivery)

/-! ### Steps -/

/-- A command of a call that revokes sessions is over. -/
def after (target : Target) (bestEffort : Bool) (todo : List Statement) (revoked : Bool) (result : Result) :
    Except (Option AppError) Unit → Phase
  | .ok () => .running target todo revoked result
  | .error e =>
    if bestEffort = true then .running target todo revoked result else .running target [] revoked (.aborted e)

def Delivery.outcome : Delivery → Except (Option AppError) Unit
  | .delivered => .ok ()
  | .lost _ => .error none

/-- The next command of a call that revokes sessions. -/
def runStatement (r : Redis) (target : Target) (todo : List Statement) (revoked : Bool) (result : Result)
    (d : Delivery) :
    Command → Bool → Option (Redis × Phase)
  | .database, _ => none
  | .del key, bestEffort =>
    some (d.apply (·.del key) r, after target bestEffort todo revoked result (Delivery.outcome d))
  | .revoke, bestEffort =>
    match target with
    | .session role entityId sessionId =>
      some (d.apply (·.del (RedisKey.session role entityId sessionId)) r,
        after target bestEffort todo (revoked || d.executed) result (Delivery.outcome d))
    | .entity _ _ =>
      some (r, match d with
        | .delivered => .found target (r.keys target.covers) bestEffort todo revoked result
        | .lost _ => after target bestEffort todo revoked result (.error none))

section
variable (hash : String → String)

/-- After the `GET` of a refresh. -/
def preCheck (role : Role) (data : RefreshData) (found : Option Value) : Phase :=
  let refused : Phase := if role = .customer then .mistaken data else .failed (some .REFRESH_TOKEN_INVALID)
  match found with
  | none => refused
  | some (.text s) => if s = "" then refused else .failed none
  | some (.session stored) =>
    if validateRefreshToken hash stored data.refreshToken = true then .checked role data stored else refused

def RefreshData.key (role : Role) (data : RefreshData) : String := RedisKey.session role data.entityId data.sessionId

/-- The sessions of a denied account are revoked, as far as they can be. -/
def afterAccount (role : Role) (data : RefreshData) (stored : StoredSession) (found : Account) : Phase :=
  match found.denial with
  | none => .admitted role data stored
  | some e => .running (.entity role data.entityId) [attempt .revoke, attempt .database] false (.denied e)

/-- What `storeRefreshToken` is given by a refresh. -/
def replacement (stored : StoredSession) (newRefresh createdAt : String) : StoredSession where
  tokenHash := hash newRefresh
  deviceId := stored.deviceId
  deviceType := stored.deviceType
  deviceName := none
  createdAt := createdAt

/-- After the `GET` of a password reset. -/
def afterReset (role : Role) (token : String) : Option Value → Phase
  | some (.text entityId) =>
    if entityId = "" then .failed (some .RESET_TOKEN_EXPIRED)
    else .running (.entity role entityId)
      (must .database :: must (.del (RedisKey.passwordReset role token)) :: revokeAccount role entityId) false .done
  | some (.session _) => .failed none
  | none => .failed (some .RESET_TOKEN_EXPIRED)

/-- After the `GET` of an account's deletion. -/
def afterAction (userId actionToken : String) (found : Option Value) : Phase :=
  if found = some (.text actionToken) ∧ actionToken ≠ "" then
    .running (.entity .customer userId) (must (.del (RedisKey.otpAction userId "ACCOUNT_DELETION")) ::
      must .database :: revokeAccount .customer userId) false .done
  else .failed (some .ACTION_TOKEN_INVALID)

/-- One step of one call: what it does to the store, and where the call is afterwards. -/
def next : Redis → Phase → Event → Option (Redis × Phase)
  | r, phase, .tick ms => some (r.advance ms, phase)
  | r, .refresh role data, .command .delivered => some (r, preCheck hash role data (r.get (RefreshData.key role data)))
  | r, .refresh _ _, .command (.lost _) => some (r, .failed none)
  | r, .mistaken _, .session supersededByLogin =>
    some (r, .failed (some (if supersededByLogin = true then .SESSION_REPLACED else .REFRESH_TOKEN_INVALID)))
  | r, .mistaken _, .database (.error e) => some (r, .failed e)
  | r, .checked role data stored, .account found =>
    if found.role = role then some (r, afterAccount role data stored found) else none
  | r, .checked _ _ _, .database (.error e) => some (r, .failed e)
  | r, .admitted role data stored, .command d =>
    some (d.apply (·.del (RefreshData.key role data)) r,
      match d with
      | .delivered => .cleared role data stored
      | .lost _ => .failed none)
  | r, .cleared role data stored, .store newRefresh createdAt d =>
    some (d.apply (fun r => MerchantSession.set r (RefreshData.key role data)
        (.session (replacement hash stored newRefresh createdAt)) REFRESH_TOKEN_TTL_SECONDS) r,
      match d with
      | .delivered => .stored role data newRefresh
      | .lost _ => .failed none)
  | r, .stored role data newRefresh, .database outcome =>
    some (r, match outcome with
      | .ok () => .returned role data newRefresh
      | .error e => .failed e)
  | r, .resetPassword role token, .command .delivered =>
    some (r, afterReset role token (r.get (RedisKey.passwordReset role token)))
  | r, .resetPassword _ _, .command (.lost _) => some (r, .failed none)
  | r, .deleteAccount userId actionToken, .command .delivered =>
    some (r, afterAction userId actionToken (r.get (RedisKey.otpAction userId "ACCOUNT_DELETION")))
  | r, .deleteAccount _ _, .command (.lost _) => some (r, .failed none)
  | r, .running target (⟨.database, bestEffort⟩ :: todo) revoked result, .database outcome =>
    some (r, after target bestEffort todo revoked result outcome)
  | r, .running target (⟨command, bestEffort⟩ :: todo) revoked result, .command d =>
    runStatement r target todo revoked result d command bestEffort
  | r, .found target keys bestEffort todo revoked result, .command d =>
    some (d.apply (·.delAll keys) r,
      after target bestEffort todo (revoked || d.executed) result (Delivery.outcome d))
  | _, _, _ => none

/-- Any number of calls at once. -/
def step {ι : Type*} [DecidableEq ι] : Pool ι Redis Phase → ι × Event → Option (Pool ι Redis Phase) :=
  poolStep fun _ => next hash

end

end Redeemo.AuthSessions
