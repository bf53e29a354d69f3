import Redeemo.Auth.Sessions

/-! One mobile session for each account.

    A login revokes the session that the account's pointer names, and points to the new one. A refresh renews the
    session and leaves the pointer as it is; the first login of a branch user neither reads the pointer nor writes
    it. Calls come one at a time, and keys expire between them. -/

namespace Redeemo.MobileSession
open Runs Expiring
open AuthSessions (Role Account replacement)
open MerchantSession (StoredSession Value RefreshData REFRESH_TOKEN_TTL_SECONDS validateRefreshToken)

def TEMP_TOKEN_TTL : ℕ := 1800

/-- `refresh:`, `sessions:mobile:` and `branch-temp:`; ids have no colons. -/
inductive Key
  | refreshToken (role : Role) (entityId sessionId : String)
  | activeMobileSession (role : Role) (entityId : String)
  | branchTempToken (token : String)
  deriving DecidableEq

/-- The clock is in milliseconds. -/
abbrev Redis := Expiring Key Value

/-- With its branch, and the merchant of that. -/
structure BranchUser where
  id : String
  email : String
  passwordHash : String
  status : UserStatus
  mustChangePassword : Bool
  branchId : String
  merchantStatus : MerchantStatus
  deriving DecidableEq

structure User where
  id : String
  email : String
  passwordHash : Option String
  status : UserStatus
  deriving DecidableEq

structure State where
  redis : Redis
  branchUsers : List BranchUser
  users : List User

/-- What a call draws at random, and the time that it writes. -/
structure Drawn where
  sessionId : String
  rawRefresh : String
  tempToken : String
  /-- The hash of the password that the call sets. -/
  passwordHash : String
  createdAt : String

structure LoginData where
  email : String
  password : String
  deviceId : String
  deviceType : String
  deviceName : Option String

structure FirstLoginData where
  tempToken : String
  newPassword : String
  deviceId : String
  deviceType : String

/-- The claims of an access token. -/
structure AccessToken where
  sub : String
  role : Role
  deviceId : String
  /-- For customers. -/
  deviceType : Option String
  sessionId : String

inductive Reply
  | PASSWORD_CHANGE_REQUIRED (tempToken : String)
  | tokens (accessToken : AccessToken) (refreshToken : String)
  | temporaryPassword
  | done

abbrev Outcome := Except (Option AppError) Reply

/-! ### Redis -/

def set (r : Redis) (key : Key) (value : Value) (seconds : ℕ) : Redis := r.setEx key value (1000 * seconds)

def storeRefreshToken (r : Redis) (role : Role) (entityId sessionId : String) (stored : StoredSession) : Redis :=
  set r (.refreshToken role entityId sessionId) (.session stored) REFRESH_TOKEN_TTL_SECONDS

def revokeRefreshToken (r : Redis) (role : Role) (entityId sessionId : String) : Redis :=
  r.del (.refreshToken role entityId sessionId)

/-- The pattern `refresh:role:entityId:*`. -/
def Key.ofEntity (role : Role) (entityId : String) : Key → Bool
  | .refreshToken role' entityId' _ => role' = role ∧ entityId' = entityId
  | _ => false

def revokeAllSessionsForEntity (r : Redis) (role : Role) (entityId : String) : Redis :=
  r.delAll (r.keys (Key.ofEntity role entityId))

/-- A text that is not empty. -/
def text : Option Value → Option String
  | some (.text s) => if s = "" then none else some s
  | _ => none

def getActiveMobileSessionId (r : Redis) (role : Role) (entityId : String) : Option String :=
  text (r.get (.activeMobileSession role entityId))

def setActiveMobileSession (r : Redis) (role : Role) (entityId sessionId : String) : Redis :=
  set r (.activeMobileSession role entityId) (.text sessionId) REFRESH_TOKEN_TTL_SECONDS

/-- The session that the pointer names is revoked. -/
def supersede (r : Redis) (role : Role) (entityId : String) : Redis :=
  match getActiveMobileSessionId r role entityId with
  | none => r
  | some prevSessionId => revokeRefreshToken r role entityId prevSessionId

/-! ### Calls -/

section
variable (hash : String → String) (verifyPassword : String → String → Bool) (validatePasswordPolicy : String → Bool)

def session (drawn : Drawn) (deviceId deviceType : String) (deviceName : Option String) : StoredSession where
  tokenHash := hash drawn.rawRefresh
  deviceId := deviceId
  deviceType := deviceType
  deviceName := deviceName
  createdAt := drawn.createdAt

/-- The checks of a branch user's login. -/
def admitBranchUser (data : LoginData) (s : State) : Except AppError BranchUser :=
  match s.branchUsers.find? (·.email = data.email) with
  | none => .error .INVALID_CREDENTIALS
  | some branchUser =>
    if verifyPassword data.password branchUser.passwordHash = false then .error .INVALID_CREDENTIALS
    else if branchUser.status = .INACTIVE then .error .BRANCH_USER_DEACTIVATED
    else if branchUser.merchantStatus = .SUSPENDED then .error .MERCHANT_SUSPENDED
    else .ok branchUser

def loginBranchUser (data : LoginData) (drawn : Drawn) (s : State) : State × Outcome :=
  match admitBranchUser verifyPassword data s with
  | .error e => (s, .error (some e))
  | .ok branchUser =>
    if branchUser.mustChangePassword = true then
      ({ s with redis := set s.redis (.branchTempToken drawn.tempToken) (.text branchUser.id) TEMP_TOKEN_TTL },
        .ok (.PASSWORD_CHANGE_REQUIRED drawn.tempToken))
    else
      let redis := storeRefreshToken (supersede s.redis .branch branchUser.id) .branch branchUser.id drawn.sessionId
        (session hash drawn data.deviceId data.deviceType none)
      ({ s with redis := setActiveMobileSession redis .branch branchUser.id drawn.sessionId },
        .ok (.tokens ⟨branchUser.id, .branch, data.deviceId, none, drawn.sessionId⟩ drawn.rawRefresh))

/-- The checks of a first login: the branch user whose token it is, and who has a row to update. -/
def admitFirstLogin (data : FirstLoginData) (s : State) : Except (Option AppError) String :=
  if validatePasswordPolicy data.newPassword = false then .error (some .PASSWORD_POLICY_VIOLATION)
  else
    match text (s.redis.get (.branchTempToken data.tempToken)) with
    | none => .error (some .ACTION_TOKEN_INVALID)
    | some branchUserId => if s.branchUsers.any (·.id = branchUserId) = true then .ok branchUserId else .error none

def updateBranchUser (id : String) (f : BranchUser → BranchUser) (branchUsers : List BranchUser) : List BranchUser :=
  branchUsers.map fun branchUser => if branchUser.id = id then f branchUser else branchUser

def changePasswordFirstLogin (data : FirstLoginData) (drawn : Drawn) (s : State) : State × Outcome :=
  match admitFirstLogin validatePasswordPolicy data s with
  | .error e => (s, .error e)
  | .ok branchUserId =>
    ({ s with
        redis := storeRefreshToken (s.redis.del (.branchTempToken data.tempToken)) .branch branchUserId
          drawn.sessionId (session hash drawn data.deviceId data.deviceType none)
        branchUsers := updateBranchUser branchUserId
          (fun branchUser => { branchUser with passwordHash := drawn.passwordHash, mustChangePassword := false })
          s.branchUsers },
      .ok (.tokens ⟨branchUserId, .branch, data.deviceId, none, drawn.sessionId⟩ drawn.rawRefresh))

/-- The body of both refreshes, given what the database says of the account. -/
def refresh (role : Role) (data : RefreshData) (account : Account) (refused : AppError) (drawn : Drawn) (s : State) :
    State × Outcome :=
  match s.redis.get (.refreshToken role data.entityId data.sessionId) with
  | none => (s, .error (some refused))
  | some (.text value) => (s, .error (if value = "" then some refused else none))
  | some (.session stored) =>
    if validateRefreshToken hash stored data.refreshToken = false then (s, .error (some refused))
    else
      match account.denial with
      | some e =>
        ({ s with redis := revokeAllSessionsForEntity s.redis role data.entityId }, .error (some e))
      | none =>
        ({ s with
            redis := storeRefreshToken (revokeRefreshToken s.redis role data.entityId data.sessionId) role
              data.entityId data.sessionId (replacement hash stored drawn.rawRefresh drawn.createdAt) },
          .ok (.tokens ⟨data.entityId, role, stored.deviceId,
            if role = .customer then some stored.deviceType else none, data.sessionId⟩ drawn.rawRefresh))

def refreshBranchToken (data : RefreshData) (drawn : Drawn) (s : State) : State × Outcome :=
  let branchUser := s.branchUsers.find? (·.id = data.entityId)
  refresh hash .branch data (.branch (branchUser.map fun u => (u.status, u.merchantStatus))) .REFRESH_TOKEN_INVALID
    drawn s

def logoutBranchUser (entityId sessionId : String) (s : State) : State × Outcome :=
  ({ s with redis := revokeRefreshToken s.redis .branch entityId sessionId }, .ok .done)

/-- The only branch user of the branch. -/
def resolveSingleBranchUserId (branchId : String) (s : State) : Except AppError String :=
  match s.branchUsers.filter (·.branchId = branchId) with
  | [] => .error .BRANCH_USER_NOT_FOUND
  | [branchUser] => .ok branchUser.id
  | _ => .error .MULTIPLE_BRANCH_USERS

/-- With what `assertBranchOwnership` says. -/
def resetBranchUserPassword (owned : Except AppError Unit) (branchId : String) (drawn : Drawn) (s : State) :
    State × Outcome :=
  match owned, resolveSingleBranchUserId branchId s with
  | .error e, _ => (s, .error (some e))
  | .ok (), .error e => (s, .error (some e))
  | .ok (), .ok branchUserId =>
    ({ s with
        redis := revokeAllSessionsForEntity s.redis .branch branchUserId
        branchUsers := updateBranchUser branchUserId
          (fun branchUser => { branchUser with passwordHash := drawn.passwordHash, mustChangePassword := true })
          s.branchUsers },
      .ok .temporaryPassword)

/-- `ios` and `android`. -/
def isMobileDevice (deviceType : String) : Bool := deviceType = "ios" || deviceType = "android"

def issueCustomerTokens (user : User) (ctx : LoginData) (drawn : Drawn) (s : State) : State × Outcome :=
  let superseded := if isMobileDevice ctx.deviceType = true then supersede s.redis .customer user.id else s.redis
  let redis := storeRefreshToken superseded .customer user.id drawn.sessionId
    (session hash drawn ctx.deviceId ctx.deviceType ctx.deviceName)
  ({ s with
      redis := if isMobileDevice ctx.deviceType = true then
          setActiveMobileSession redis .customer user.id drawn.sessionId
        else redis },
    .ok (.tokens ⟨user.id, .customer, ctx.deviceId, some ctx.deviceType, drawn.sessionId⟩ drawn.rawRefresh))

/-- The checks of a customer's login. -/
def admitCustomer (data : LoginData) (s : State) : Except AppError User :=
  match s.users.find? (·.email = data.email) with
  | none => .error .INVALID_CREDENTIALS
  | some user =>
    match user.passwordHash with
    | none => .error .INVALID_CREDENTIALS
    | some passwordHash =>
      if passwordHash = "" then .error .INVALID_CREDENTIALS
      else if user.status = .INACTIVE then .error .ACCOUNT_INACTIVE
      else if user.status = .SUSPENDED then .error .ACCOUNT_SUSPENDED
      else if user.status = .DELETED then .error .INVALID_CREDENTIALS
      else if verifyPassword data.password passwordHash = false then .error .INVALID_CREDENTIALS
      else .ok user

def loginCustomer (data : LoginData) (drawn : Drawn) (s : State) : State × Outcome :=
  match admitCustomer verifyPassword data s with
  | .error e => (s, .error (some e))
  | .ok user => issueCustomerTokens hash user data drawn s

/-- With what the session's record says of a token that is not the one stored. -/
def refreshCustomerToken (data : RefreshData) (supersededByLogin : Bool) (drawn : Drawn) (s : State) :
    State × Outcome :=
  let user := s.users.find? (·.id = data.entityId)
  refresh hash .customer data (.customer (user.map (·.status)))
    (if supersededByLogin = true then .SESSION_REPLACED else .REFRESH_TOKEN_INVALID) drawn s

def logoutCustomer (entityId sessionId : String) (s : State) : State × Outcome :=
  ({ s with redis := revokeRefreshToken s.redis .customer entityId sessionId }, .ok .done)

inductive Op
  | tick (ms : ℕ)
  | loginBranchUser (data : LoginData) (drawn : Drawn)
  | changePasswordFirstLogin (data : FirstLoginData) (drawn : Drawn)
  | refreshBranchToken (data : RefreshData) (drawn : Drawn)
  | logoutBranchUser (entityId sessionId : String)
  | resetBranchUserPassword (owned : Except AppError Unit) (branchId : String) (drawn : Drawn)
  | loginCustomer (data : LoginData) (drawn : Drawn)
  | refreshCustomerToken (data : RefreshData) (supersededByLogin : Bool) (drawn : Drawn)
  | logoutCustomer (entityId sessionId : String)

/-- One call, or time that passes. -/
def perform (s : State) : Op → State × Outcome
  | .tick ms => ({ s with redis := s.redis.advance ms }, .ok .done)
  | .loginBranchUser data drawn => loginBranchUser hash verifyPassword data drawn s
  | .changePasswordFirstLogin data drawn => changePasswordFirstLogin hash validatePasswordPolicy data drawn s
  | .refreshBranchToken data drawn => refreshBranchToken hash data drawn s
  | .logoutBranchUser entityId sessionId => logoutBranchUser entityId sessionId s
  | .resetBranchUserPassword owned branchId drawn => resetBranchUserPassword owned branchId drawn s
  | .loginCustomer data drawn => loginCustomer hash verifyPassword data drawn s
  | .refreshCustomerToken data supersededByLogin drawn => refreshCustomerToken hash data supersededByLogin drawn s
  | .logoutCustomer entityId sessionId => logoutCustomer entityId sessionId s

def step (s : State) (op : Op) : Option State := some (perform hash verifyPassword validatePasswordPolicy s op).1

/-! ### Live sessions -/

/-- All sessions of a branch user are of the staff app. -/
def isMobile (role : Role) (deviceType : String) : Bool := role = .branch || isMobileDevice deviceType

/-- The session has a mobile refresh-token key. -/
def Live (role : Role) (entityId : String) (r : Redis) (sessionId : String) : Prop :=
  ∃ stored, r.get (.refreshToken role entityId sessionId) = some (.session stored) ∧
    isMobile role stored.deviceType = true

def OneLive (role : Role) (entityId : String) (s : State) : Prop :=
  ∀ a b, Live role entityId s.redis a → Live role entityId s.redis b → a = b

/-- A session that a call begins, and the session that it revokes before. -/
structure Opening where
  role : Role
  entityId : String
  sessionId : String
  deviceType : String
  superseded : Option String

/-- What a call that is let through begins. -/
def opening (s : State) : Op → Option Opening
  | .loginBranchUser data drawn =>
    match admitBranchUser verifyPassword data s with
    | .error _ => none
    | .ok branchUser =>
      if branchUser.mustChangePassword = true then none
      else some ⟨.branch, branchUser.id, drawn.sessionId, data.deviceType,
        getActiveMobileSessionId s.redis .branch branchUser.id⟩
  | .changePasswordFirstLogin data drawn =>
    match admitFirstLogin validatePasswordPolicy data s with
    | .error _ => none
    | .ok branchUserId => some ⟨.branch, branchUserId, drawn.sessionId, data.deviceType, none⟩
  | .loginCustomer data drawn =>
    match admitCustomer verifyPassword data s with
    | .error _ => none
    | .ok user => some ⟨.customer, user.id, drawn.sessionId, data.deviceType,
        if isMobileDevice data.deviceType = true then getActiveMobileSessionId s.redis .customer user.id else none⟩
  | _ => none

/-- A mobile session of the account begins only while every other live one is the one that is revoked for it. -/
def Replaces (role : Role) (entityId : String) (s : State) (op : Op) : Prop :=
  ∀ o, opening verifyPassword validatePasswordPolicy s op = some o → o.role = role → o.entityId = entityId →
    isMobile role o.deviceType = true → ∀ b, Live role entityId s.redis b → o.superseded = some b ∨ b = o.sessionId

end

/-- What a call that begins a session does to the session keys. -/
def Opening.begin (o : Opening) (stored : StoredSession) (r : Redis) : Redis :=
  storeRefreshToken (match o.superseded with
      | none => r
      | some prevSessionId => revokeRefreshToken r o.role o.entityId prevSessionId)
    o.role o.entityId o.sessionId stored

section
variable {hash : String → String} {verifyPassword : String → String → Bool} {validatePasswordPolicy : String → Bool}
  {role role' : Role} {entityId entityId' sessionId : String} {s s' : State} {r r' : Redis} {op : Op} {o : Opening}
  {stored : StoredSession} {key : Key} {value : Value} {seconds ms : ℕ} {b : String}

/-! ### Session keys under the commands -/

theorem live_of_get
    (h : ∀ v, r'.get (.refreshToken role entityId b) = some v → r.get (.refreshToken role entityId b) = some v)
    (hlive : Live role entityId r' b) : Live role entityId r b := by
  obtain ⟨stored, hget, hmobile⟩ := hlive
  exact ⟨stored, h _ hget, hmobile⟩

theorem live_set_of_ne (hne : Key.refreshToken role entityId b ≠ key) :
    Live role entityId (set r key value seconds) b ↔ Live role entityId r b := by
  unfold Live set
  rw [get_setEx_of_ne hne]

theorem live_store_self :
    Live role entityId (storeRefreshToken r role entityId b stored) b ↔ isMobile role stored.deviceType = true := by
  unfold Live storeRefreshToken set
  rw [get_setEx_self]
  constructor
  · rintro ⟨stored', heq, hmobile⟩
    cases heq
    exact hmobile
  · exact fun hmobile => ⟨stored, rfl, hmobile⟩

/-- A session that begins is live if it is mobile; the others are as they were, but for the one that is revoked. -/
theorem live_begin_of_ne (hne : Key.refreshToken role entityId b ≠ .refreshToken o.role o.entityId o.sessionId) :
    Live role entityId (o.begin stored r) b ↔
      Live role entityId r b ∧ ∀ prevSessionId ∈ o.superseded,
        Key.refreshToken role entityId b ≠ .refreshToken o.role o.entityId prevSessionId := by
  unfold Opening.begin storeRefreshToken
  rw [live_set_of_ne hne]
  cases o.superseded with
  | none => simp
  | some prevSessionId =>
    unfold Live revokeRefreshToken
    dsimp only
    by_cases hprev : Key.refreshToken role entityId b = .refreshToken o.role o.entityId prevSessionId
    · constructor
      · rintro ⟨stored, hget, -⟩
        rw [← hprev, get_del_self] at hget
        cases hget
      · rintro ⟨-, hother⟩
        exact absurd hprev (hother prevSessionId rfl)
    · rw [get_del_of_ne hprev]
      refine (and_iff_left ?_).symm
      intro prev hmem
      cases hmem
      exact hprev

/-! ### Session keys under the calls -/

/-- Nothing of a session key depends on the temporary token. -/
theorem live_store_del {r : Redis} {token : String} :
    Live role entityId (storeRefreshToken (r.del (.branchTempToken token)) role' entityId' sessionId stored) b ↔
      Live role entityId (storeRefreshToken r role' entityId' sessionId stored) b := by
  by_cases hkey : Key.refreshToken role entityId b = .refreshToken role' entityId' sessionId
  · cases hkey
    rw [live_store_self, live_store_self]
  · unfold storeRefreshToken
    rw [live_set_of_ne hkey, live_set_of_ne hkey]
    unfold Live
    rw [get_del_of_ne (by simp)]

/-- A refresh renews the session that it has found, with the device type that it has found. -/
theorem live_of_refresh {data : RefreshData} {account : Account} {refused : AppError} {drawn : Drawn}
    (hlive : Live role entityId (refresh hash role' data account refused drawn s).1.redis b) :
    Live role entityId s.redis b := by
  unfold refresh at hlive
  split at hlive
  · exact hlive
  · exact hlive
  · rename_i stored hfound
    split at hlive
    · exact hlive
    · split at hlive
      · exact live_of_get (fun _ => get_of_delAll) hlive
      · dsimp only at hlive
        by_cases hkey : Key.refreshToken role entityId b = .refreshToken role' data.entityId data.sessionId
        · cases hkey
          rw [live_store_self] at hlive
          exact ⟨stored, hfound, hlive⟩
        · rw [storeRefreshToken, live_set_of_ne hkey] at hlive
          exact live_of_get (fun _ => get_of_del) hlive

variable (hash) in
/-- A call that is let through to begin a session leaves the keys as that does. -/
theorem live_of_opening (h : opening verifyPassword validatePasswordPolicy s op = some o) :
    ∃ stored, stored.deviceType = o.deviceType ∧ ∀ role entityId b,
      Live role entityId (perform hash verifyPassword validatePasswordPolicy s op).1.redis b ↔
        Live role entityId (o.begin stored s.redis) b := by
  unfold opening at h
  split at h
  · rename_i data drawn
    cases hchecks : admitBranchUser verifyPassword data s with
    | error e =>
      rw [hchecks] at h
      cases h
    | ok branchUser =>
      rw [hchecks] at h
      dsimp only at h
      split_ifs at h with hmust
      cases h
      refine ⟨session hash drawn data.deviceId data.deviceType none, rfl, fun role entityId b => ?_⟩
      rw [perform, loginBranchUser, hchecks]
      dsimp only
      rw [if_neg hmust]
      exact live_set_of_ne (by simp)
  · rename_i data drawn
    cases hchecks : admitFirstLogin validatePasswordPolicy data s with
    | error e =>
      rw [hchecks] at h
      cases h
    | ok branchUserId =>
      rw [hchecks] at h
      cases h
      refine ⟨session hash drawn data.deviceId data.deviceType none, rfl, fun role entityId b => ?_⟩
      rw [perform, changePasswordFirstLogin, hchecks]
      exact live_store_del
  · rename_i data drawn
    cases hchecks : admitCustomer verifyPassword data s with
    | error e =>
      rw [hchecks] at h
      cases h
    | ok user =>
      rw [hchecks] at h
      cases h
      refine ⟨session hash drawn data.deviceId data.deviceType data.deviceName, rfl, fun role entityId b => ?_⟩
      rw [perform, loginCustomer, hchecks]
      dsimp only [issueCustomerTokens, Opening.begin]
      split_ifs
      · exact live_set_of_ne (by simp)
      · rfl
  · cases h

/-- Any other call deletes session keys, or renews one that it has found. -/
theorem live_of_not_opening (h : opening verifyPassword validatePasswordPolicy s op = none)
    (hlive : Live role entityId (perform hash verifyPassword validatePasswordPolicy s op).1.redis b) :
    Live role entityId s.redis b := by
  cases op with
  | tick ms => exact live_of_get (fun _ => get_of_advance) hlive
  | loginBranchUser data drawn =>
    rw [perform, loginBranchUser] at hlive
    rw [opening] at h
    cases hchecks : admitBranchUser verifyPassword data s with
    | error e =>
      rw [hchecks] at hlive
      exact hlive
    | ok branchUser =>
      rw [hchecks] at h hlive
      dsimp only at h hlive
      split_ifs at h with hmust
      rw [if_pos hmust] at hlive
      exact (live_set_of_ne (by simp)).mp hlive
  | changePasswordFirstLogin data drawn =>
    rw [perform, changePasswordFirstLogin] at hlive
    rw [opening] at h
    cases hchecks : admitFirstLogin validatePasswordPolicy data s with
    | error e =>
      rw [hchecks] at hlive
      exact hlive
    | ok branchUserId =>
      rw [hchecks] at h
      cases h
  | refreshBranchToken data drawn => exact live_of_refresh hlive
  | logoutBranchUser entityId sessionId => exact live_of_get (fun _ => get_of_del) hlive
  | resetBranchUserPassword owned branchId drawn =>
    rw [perform] at hlive
    unfold resetBranchUserPassword at hlive
    split at hlive
    · exact hlive
    · exact hlive
    · exact live_of_get (fun _ => get_of_delAll) hlive
  | loginCustomer data drawn =>
    rw [perform, loginCustomer] at hlive
    rw [opening] at h
    cases hchecks : admitCustomer verifyPassword data s with
    | error e =>
      rw [hchecks] at hlive
      exact hlive
    | ok user =>
      rw [hchecks] at h
      cases h
  | refreshCustomerToken data supersededByLogin drawn => exact live_of_refresh hlive
  | logoutCustomer entityId sessionId => exact live_of_get (fun _ => get_of_del) hlive

/-- A session key that the call does not write is there only if it was before, and was not revoked. -/
theorem live_of_key_ne (hopening : opening verifyPassword validatePasswordPolicy s op = some o)
    (hne : Key.refreshToken role entityId b ≠ .refreshToken o.role o.entityId o.sessionId) :
    Live role entityId (perform hash verifyPassword validatePasswordPolicy s op).1.redis b ↔
      Live role entityId s.redis b ∧ ∀ prevSessionId ∈ o.superseded,
        Key.refreshToken role entityId b ≠ .refreshToken o.role o.entityId prevSessionId := by
  obtain ⟨stored, -, hafter⟩ := live_of_opening hash hopening
  exact (hafter role entityId b).trans (live_begin_of_ne hne)

theorem live_opened (hopening : opening verifyPassword validatePasswordPolicy s op = some o) :
    Live o.role o.entityId (perform hash verifyPassword validatePasswordPolicy s op).1.redis o.sessionId ↔
      isMobile o.role o.deviceType = true := by
  obtain ⟨stored, hdevice, hafter⟩ := live_of_opening hash hopening
  rw [hafter, ← hdevice]
  exact live_store_self

/-- A mobile session has begun: it is the only one exactly if it replaces the others. -/
theorem oneLive_opened (hopening : opening verifyPassword validatePasswordPolicy s op = some o)
    (hmobile : isMobile o.role o.deviceType = true) :
    OneLive o.role o.entityId (perform hash verifyPassword validatePasswordPolicy s op).1 ↔
      ∀ b, Live o.role o.entityId s.redis b → o.superseded = some b ∨ b = o.sessionId := by
  have hnew : Live o.role o.entityId (perform hash verifyPassword validatePasswordPolicy s op).1.redis o.sessionId :=
    (live_opened hopening).mpr hmobile
  constructor
  · intro hone b hb
    by_contra hkept
    obtain ⟨hprev, hne⟩ := not_or.mp hkept
    refine hne (hone b o.sessionId ((live_of_key_ne hopening (by simpa using hne)).mpr ⟨hb, ?_⟩) hnew)
    rintro prevSessionId hmem heq
    cases heq
    exact hprev hmem
  · intro hreplaces
    have honly (a : String)
        (ha : Live o.role o.entityId (perform hash verifyPassword validatePasswordPolicy s op).1.redis a) :
        a = o.sessionId := by
      by_contra hne
      obtain ⟨hlive, hkept⟩ := (live_of_key_ne hopening (by simpa using hne)).mp ha
      rcases hreplaces a hlive with hprev | heq
      · exact hkept a hprev rfl
      · exact hne heq
    exact fun a b ha hb => (honly a ha).trans (honly b hb).symm

/-- A session of another account, or one that is not mobile, makes none live. -/
theorem live_of_other (hopening : opening verifyPassword validatePasswordPolicy s op = some o)
    (hother : ¬ (o.role = role ∧ o.entityId = entityId ∧ isMobile role o.deviceType = true))
    (hlive : Live role entityId (perform hash verifyPassword validatePasswordPolicy s op).1.redis b) :
    Live role entityId s.redis b := by
  by_cases hkey : Key.refreshToken role entityId b = .refreshToken o.role o.entityId o.sessionId
  · cases hkey
    exact absurd ⟨rfl, rfl, (live_opened hopening).mp hlive⟩ hother
  · exact ((live_of_key_ne hopening hkey).mp hlive).1

/-! ### Runs -/

/-- Where an account has one live session at most, it keeps so exactly if a session that begins replaces it. -/
theorem oneLive_step (hs : OneLive role entityId s)
    (h : step hash verifyPassword validatePasswordPolicy s op = some s') :
    OneLive role entityId s' ↔ Replaces verifyPassword validatePasswordPolicy role entityId s op := by
  cases h
  cases hopening : opening verifyPassword validatePasswordPolicy s op with
  | none =>
    refine iff_of_true (fun a b ha hb => ?_) fun o ho => ?_
    · exact hs a b (live_of_not_opening hopening ha) (live_of_not_opening hopening hb)
    · cases hopening.symm.trans ho
  | some o =>
    by_cases hmine : o.role = role ∧ o.entityId = entityId ∧ isMobile role o.deviceType = true
    · obtain ⟨rfl, rfl, hmobile⟩ := hmine
      rw [oneLive_opened hopening hmobile]
      constructor
      · rintro hreplaces o' ho' - - -
        cases hopening.symm.trans ho'
        exact hreplaces
      · exact fun hreplaces => hreplaces o hopening rfl rfl hmobile
    · refine iff_of_true (fun a b ha hb => ?_) fun o' ho' hrole hentity hmobile => ?_
      · exact hs a b (live_of_other hopening hmine ha) (live_of_other hopening hmine hb)
      · cases hopening.symm.trans ho'
        exact absurd ⟨hrole, hentity, hmobile⟩ hmine

/-- Throughout a run, an account has one live mobile session at most exactly if every mobile session of it that a
    call begins replaces all others that are live. -/
theorem one_live_iff {ops : List Op} (hs : OneLive role entityId s) :
    Throughout (step hash verifyPassword validatePasswordPolicy) (OneLive role entityId) s ops ↔
      Along (step hash verifyPassword validatePasswordPolicy)
        (Replaces verifyPassword validatePasswordPolicy role entityId) s ops :=
  throughout_iff_along (fun _ _ => ⟨_, rfl⟩) (fun _ _ _ _ _ => trivial) (fun _ _ _ _ => oneLive_step) trivial hs

end

/-! ### Sessions that no pointer names -/

def login (email : String) : LoginData := ⟨email, "secret", "d", "ios", none⟩

def drawn (sessionId rawRefresh : String) : Drawn := ⟨sessionId, rawRefresh, "temp", "secret", "t"⟩

/-- A branch user who is to change the password, and a customer. -/
def accounts : State where
  redis := ⟨fun _ => none, 0⟩
  branchUsers := [⟨"b", "b@x", "secret", .ACTIVE, true, "branch", .ACTIVE⟩]
  users := [⟨"u", "u@x", some "secret", .ACTIVE⟩]

def day : ℕ := 24 * 60 * 60 * 1000

def demoStep : State → Op → Option State := step id (fun password hash => password = hash) fun _ => true

/-- The session of a first login, and a login after it. -/
def firstLogin : List Op :=
  [.loginBranchUser (login "b@x") (drawn "s0" "r0"),
    .changePasswordFirstLogin ⟨"temp", "secret", "d", "ios"⟩ (drawn "s1" "r1"),
    .loginBranchUser (login "b@x") (drawn "s2" "r2")]

/-- A session that is renewed stays longer than the pointer to it. -/
def renewed : List Op :=
  [.loginCustomer (login "u@x") (drawn "s1" "r1"), .tick (60 * day),
    .refreshCustomerToken ⟨"r1", "s1", "u"⟩ false (drawn "s1" "r2"), .tick (31 * day),
    .loginCustomer (login "u@x") (drawn "s2" "r3")]

theorem two_live_sessions :
    (∃ s, run demoStep accounts firstLogin = some s ∧ Live .branch "b" s.redis "s1" ∧ Live .branch "b" s.redis "s2") ∧
    ∃ s, run demoStep accounts renewed = some s ∧ Live .customer "u" s.redis "s1" ∧ Live .customer "u" s.redis "s2" :=
  ⟨⟨_, rfl, ⟨_, rfl, rfl⟩, ⟨_, rfl, rfl⟩⟩, ⟨_, rfl, ⟨_, rfl, rfl⟩, ⟨_, rfl, rfl⟩⟩⟩

/-- Two logins, one after the other. -/
def loggedInTwice : List Op :=
  [.loginCustomer (login "u@x") (drawn "s1" "r1"), .loginCustomer (login "u@x") (drawn "s2" "r2")]

theorem one_live_iff_loggedInTwice :
    Throughout demoStep (OneLive .customer "u") accounts loggedInTwice ∧
      ∃ s, run demoStep accounts loggedInTwice = some s ∧ Live .customer "u" s.redis "s2" := by
  have hnone (b : String) : ¬ Live .customer "u" accounts.redis b := by
    rintro ⟨stored, hget, -⟩
    cases hget
  have halong : Along demoStep (Replaces (fun password hash => password = hash) (fun _ => true) .customer "u")
      accounts loggedInTwice := by
    refine ⟨fun o _ _ _ _ b hb => absurd hb (hnone b), fun s hs => ?_⟩
    cases hs
    refine ⟨fun o ho _ _ _ b hb => ?_, fun _ _ => trivial⟩
    cases ho
    -- The pointer names the session of the first login, the only one that is live.
    by_cases hfirst : b = "s1"
    · subst hfirst
      exact .inl rfl
    · refine absurd ((live_set_of_ne fun heq => ?_).mp ((live_set_of_ne (by simp)).mp hb)) (hnone b)
      cases heq
      exact hfirst rfl
  refine ⟨(one_live_iff fun a b ha _ => absurd ha (hnone a)).mpr halong, _, rfl, _, rfl, rfl⟩

end Redeemo.MobileSession
