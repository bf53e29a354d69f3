import Redeemo.Lib.Runs

/-! The customer app's transport: requests, the refresh they share, and the token record.

    A request that is answered with 401 refreshes the tokens and is sent once more. All that wait for a refresh
    wait for the one in the slot; the call that has started it empties the slot once it is settled. The record
    of the tokens is read and written at every step on the way, and `setTokens` replaces it at any time. -/

namespace Redeemo.CustomerApp.Api
open Runs

structure Tokens where
  access : Option String
  refresh : Option String
  sessionId : Option String
  entityId : Option String
  deriving DecidableEq, Repr

def signedOut : Tokens := ⟨none, none, none, none⟩

inductive SignOutReason
  | SESSION_EXPIRED | SESSION_REPLACED
  deriving DecidableEq, Repr

/-- How a refresh has ended: with new tokens, with `RefreshFailedError`, or with any other error. -/
inductive Outcome
  | rotated
  | refused (reason : SignOutReason)
  | transport
  deriving DecidableEq, Repr

/-- Where a refresh is: at its `fetch`, at the body of a refusal, or at the body of a success. -/
inductive Stage
  | fetching
  | refusing
  | reading
  | settled (outcome : Outcome)
  deriving DecidableEq, Repr

/-- The body that is posted, and where the refresh is. -/
structure Refresh where
  refreshToken : Option String
  sessionId : Option String
  entityId : Option String
  stage : Stage
  deriving DecidableEq, Repr

inductive Result
  | rejected
  | answered (status : ℕ)
  /-- `ApiClientError` with the reason as its code. -/
  | sessionOver (reason : SignOutReason)
  | networkError
  deriving DecidableEq, Repr

/-- Where a call of `doFetch` is. -/
inductive Call
  | requested (path : String) (bearer : Option String) (retry : Bool)
  /-- In `refreshTokens`, at the refresh that it has put into the slot. -/
  | refreshing (path : String) (refresh : ℕ)
  /-- At `await refreshTokens()`, with nothing left to do there. -/
  | waiting (path : String) (refresh : ℕ)
  | finished (result : Result)
  deriving DecidableEq, Repr

inductive Event
  | tokensRefreshed (accessToken refreshToken : Option String)
  | sessionExpired (reason : SignOutReason)
  deriving DecidableEq, Repr

structure State where
  tokens : Tokens
  refreshing : Option ℕ
  refreshes : List Refresh
  calls : List Call
  events : List Event
  deriving DecidableEq, Repr

def start : State := ⟨signedOut, none, [], [], []⟩

/-- What the client reads of a success; a key that is absent is `undefined`. -/
structure TokenBody where
  accessToken : Option String
  refreshToken : Option String
  deriving DecidableEq, Repr

/-- `none` stands for a rejected `fetch`, and for a body that is not parsed. -/
inductive Action
  | doFetch (path : String)
  | response (call : ℕ) (status : Option ℕ)
  | refreshResponse (refresh : ℕ) (status : Option ℕ)
  | errorBody (refresh : ℕ) (code : Option String)
  | tokenBody (refresh : ℕ) (body : Option TokenBody)
  /-- `finally { refreshing = null }`. -/
  | release (call : ℕ)
  | resume (call : ℕ)
  | setTokens (tokens : Tokens)
  deriving DecidableEq, Repr

/-- A string that is there and not empty. -/
def truthy (s : Option String) : Bool := s.isSome && s != some ""

namespace State

def setCall (s : State) (call : ℕ) (c : Call) : State := { s with calls := s.calls.set call c }

def setStage (s : State) (refresh : ℕ) (stage : Stage) : State :=
  { s with refreshes := s.refreshes.modify refresh fun r => { r with stage := stage } }

/-- The request of a call, with the bearer of the moment. -/
def request (s : State) (path : String) (retry : Bool) : Call := .requested path s.tokens.access retry

/-- All that a refresh posts is there. -/
def canRefresh (s : State) : Bool := truthy s.tokens.refresh && truthy s.tokens.sessionId && truthy s.tokens.entityId

/-- `refreshTokens`, up to where it waits. -/
def refreshTokens (s : State) (call : ℕ) (path : String) : State :=
  match s.refreshing with
  | some refresh => s.setCall call (.waiting path refresh)
  | none =>
    { s with
      refreshing := some s.refreshes.length
      refreshes := s.refreshes ++ [⟨s.tokens.refresh, s.tokens.sessionId, s.tokens.entityId, .fetching⟩]
      calls := s.calls.set call (.refreshing path s.refreshes.length) }

/-- What `doFetch` does with the outcome of the refresh it has waited for. -/
def afterRefresh (s : State) (call : ℕ) (path : String) : Outcome → State
  | .rotated => s.setCall call (s.request path false)
  | .refused reason =>
    { s with
      tokens := signedOut
      events := s.events ++ [.sessionExpired reason]
      calls := s.calls.set call (.finished (.sessionOver reason)) }
  | .transport => s.setCall call (.finished .networkError)

/-- The new pair, beside the ids that the record has by now. -/
def rotate (s : State) (refresh : ℕ) (body : TokenBody) : State :=
  { s.setStage refresh (.settled .rotated) with
    tokens := ⟨body.accessToken, body.refreshToken, s.tokens.sessionId, s.tokens.entityId⟩
    events := s.events ++ [.tokensRefreshed body.accessToken body.refreshToken] }

end State

def reasonOf (code : Option String) : SignOutReason :=
  if code = some "SESSION_REPLACED" then .SESSION_REPLACED else .SESSION_EXPIRED

/-- What the answer to a refresh leads to. -/
def stageAfter : Option ℕ → Stage
  | none => .settled .transport
  | some status =>
    if 500 ≤ status then .settled .transport
    else if 200 ≤ status ∧ status < 300 then .reading
    else .refusing

def step (s : State) : Action → Option State
  | .doFetch path => some { s with calls := s.calls ++ [s.request path true] }
  | .response call status =>
    match s.calls[call]?, status with
    | some (.requested path _ retry), some status =>
      if status = 401 ∧ retry = true ∧ s.canRefresh = true ∧ path.endsWith "/auth/refresh" = false then
        some (s.refreshTokens call path)
      else some (s.setCall call (.finished (.answered status)))
    | some (.requested _ _ _), none => some (s.setCall call (.finished .rejected))
    | _, _ => none
  | .refreshResponse refresh status =>
    match (s.refreshes[refresh]?).map Refresh.stage with
    | some .fetching => some (s.setStage refresh (stageAfter status))
    | _ => none
  | .errorBody refresh code =>
    match (s.refreshes[refresh]?).map Refresh.stage with
    | some .refusing => some (s.setStage refresh (.settled (.refused (reasonOf code))))
    | _ => none
  | .tokenBody refresh body =>
    match (s.refreshes[refresh]?).map Refresh.stage, body with
    | some .reading, some body => some (s.rotate refresh body)
    | some .reading, none => some (s.setStage refresh (.settled .transport))
    | _, _ => none
  | .release call =>
    match s.calls[call]? with
    | some (.refreshing path refresh) =>
      match (s.refreshes[refresh]?).map Refresh.stage with
      | some (.settled _) => some { s.setCall call (.waiting path refresh) with refreshing := none }
      | _ => none
    | _ => none
  | .resume call =>
    match s.calls[call]? with
    | some (.waiting path refresh) =>
      match (s.refreshes[refresh]?).map Refresh.stage with
      | some (.settled outcome) => some (s.afterRefresh call path outcome)
      | _ => none
    | _ => none
  | .setTokens tokens => some { s with tokens := tokens }

end Redeemo.CustomerApp.Api
