import Mathlib.Data.String.Basic
import Redeemo.Lib.Runs

/-! The merchant portal's transport and its session.

    Every call takes the session epoch at its start and is judged by it at every later step: a boundary
    (`resetSessionState`) moves the epoch, forgets the token and empties the slot of the shared refresh. The
    transitions of the session provider (`setSession`, `signOut`, the hard logout) begin with a boundary and end
    with a commit, some awaits later. Each await of the source ends a step, so a run is any interleaving. -/

namespace Redeemo.MerchantWeb.Transport
open Runs

/-! ### The variables -/

/-- An access token. `session` says to which epoch the refresh or the login belongs that has brought it. -/
structure Token where
  text : String
  session : ℕ
  deriving DecidableEq, Repr

inductive Stage
  | fetching
  | reading
  | settled (ok : Bool)
  /-- Its `finally` has run: those who wait for it go on. -/
  | released (ok : Bool)
  deriving DecidableEq, Repr

/-- One `doRefresh`, with the epoch it has captured. -/
structure Refresh where
  epoch : ℕ
  stage : Stage
  deriving DecidableEq, Repr

/-- The variables of `sessionEpoch.ts`, `tokenStore.ts` and `client.ts`, and the refreshes that were started. -/
structure Globals where
  epoch : ℕ
  accessToken : Option Token
  sessionLostFired : Bool
  /-- A handler is registered. -/
  onSessionLost : Bool
  refreshInFlight : Option ℕ
  refreshes : ℕ → Option Refresh
  issued : ℕ

/-- The token is there and not empty. -/
def truthy (t : Option Token) : Option Token := t.filter (·.text ≠ "")

namespace Globals

/-- A token that is not empty re-arms the latch of the hard logout. -/
def setAccessToken (g : Globals) (t : Option Token) : Globals :=
  { g with accessToken := t, sessionLostFired := if (truthy t).isSome then false else g.sessionLostFired }

/-- `resetSessionState`, up to its await. -/
def reset (g : Globals) : Globals :=
  { g.setAccessToken none with epoch := g.epoch + 1, refreshInFlight := none }

def setStage (g : Globals) (r : ℕ) (x : Refresh) (stage : Stage) : Globals :=
  { g with refreshes := Function.update g.refreshes r (some { x with stage := stage }) }

/-- The refresh in the slot, or a new one. -/
def tryRefresh (g : Globals) : Globals × ℕ :=
  match g.refreshInFlight with
  | some r => (g, r)
  | none =>
    ({ g with
        refreshes := Function.update g.refreshes g.issued (some ⟨g.epoch, .fetching⟩)
        issued := g.issued + 1
        refreshInFlight := some g.issued }, g.issued)

/-- The token is taken only in the epoch of the refresh, and only if it is not empty. -/
def take (g : Globals) (r : ℕ) (epoch : ℕ) (accessToken : Option String) : Globals :=
  if g.epoch ≠ epoch then g.setStage r ⟨epoch, .reading⟩ (.settled false)
  else match truthy (accessToken.map fun text => ⟨text, epoch⟩) with
    | some t => (g.setAccessToken (some t)).setStage r ⟨epoch, .reading⟩ (.settled true)
    | none => g.setStage r ⟨epoch, .reading⟩ (.settled false)

/-- The refresh lets go of the slot if it still has it. -/
def release (g : Globals) (r : ℕ) (x : Refresh) (ok : Bool) : Globals :=
  { g.setStage r x (.released ok) with
    refreshInFlight := if g.refreshInFlight = some r then none else g.refreshInFlight }

end Globals

/-! ### Calls -/

def DEFAULT_REQUEST_TIMEOUT_MS : ℤ := 20000
def UPLOAD_REQUEST_TIMEOUT_MS : ℤ := 120000

structure Options where
  auth : Bool
  /-- `apiFetchRaw`, not `apiFetch`. -/
  raw : Bool
  formData : Bool
  timeoutMs : Option ℤ
  deriving DecidableEq, Repr

def Options.effectiveTimeoutMs (o : Options) : ℤ :=
  o.timeoutMs.getD (if o.formData then UPLOAD_REQUEST_TIMEOUT_MS else DEFAULT_REQUEST_TIMEOUT_MS)

/-- What one call keeps: its options and the epoch that it has captured. -/
structure Context where
  options : Options
  capturedEpoch : ℕ
  deriving DecidableEq, Repr

inductive Failure
  | SESSION_SWITCHED
  | REQUEST_TIMEOUT
  | apiError (status : ℕ) (body : Option String)
  /-- What `fetch` or the reading of a body has thrown. -/
  | rejection
  deriving DecidableEq, Repr

/-- A body is `none` where the source has `undefined` or `null`. -/
inductive Result
  | data (body : Option String)
  | response (status : ℕ) (body : Option String)
  | thrown (e : Failure)
  deriving DecidableEq, Repr

/-- Where a call is. -/
inductive Call
  | idle
  | requested (c : Context) (isRetry : Bool)
  /-- At `await tryRefresh()`. -/
  | refreshing (c : Context) (refresh : ℕ)
  /-- At the body of an error. -/
  | failing (c : Context) (status : ℕ)
  /-- `apiFetchResponse` has returned. -/
  | accepted (c : Context) (status : ℕ)
  | reading (c : Context) (status : ℕ)
  | settled (c : Context) (result : Result)
  deriving DecidableEq, Repr

/-- A request that has left, with the token in its header. -/
structure Request where
  call : ℕ
  capturedEpoch : ℕ
  isRetry : Bool
  bearer : Option Token
  deriving DecidableEq, Repr

inductive Fetched
  | timedOut
  | rejected
  | status (status : ℕ)
  deriving DecidableEq, Repr

def isOk (status : ℕ) : Bool := 200 ≤ status ∧ status ≤ 299

/-! ### The session provider -/

structure Merchant where
  businessName : String
  approvalStatus : String
  deriving DecidableEq, Repr

inductive Kind
  | setSession (accessToken : String) (merchant : Merchant)
  /-- With the token that the logout forwards. -/
  | signOut (bearer : Option Token)
  | hardLogout
  deriving DecidableEq, Repr

inductive Progress
  /-- At `await queryClient.cancelQueries()`. -/
  | cancelling
  /-- `queryClient.clear()` has run; it may have thrown. -/
  | cleared (ok : Bool)
  | done
  deriving DecidableEq, Repr

structure Transition where
  kind : Kind
  generation : ℕ
  progress : Progress
  deriving DecidableEq, Repr

/-- A hard logout's `finish`, which waits for the teardown. -/
inductive Finish
  | idle
  | waiting (transition : ℕ)
  | done (transition : ℕ)
  deriving DecidableEq, Repr

/-- `refreshSession().then(…)` of the provider. -/
inductive Waiter
  | idle
  | waiting (refresh : ℕ)
  | done
  deriving DecidableEq, Repr

structure State where
  g : Globals
  calls : ℕ → Call
  sent : List Request
  /-- The token and the merchant in the state of React. -/
  tok : Option Token
  merchant : Option Merchant
  teardownInFlight : Option ℕ
  transitions : ℕ → Option Transition
  begun : ℕ
  finishes : ℕ → Finish
  waiters : ℕ → Waiter
  /-- `router.replace` and `window.location.assign`, to `/sign-in`. -/
  navigations : ℕ

def start : State where
  g := ⟨0, none, false, false, none, fun _ => none, 0⟩
  calls := fun _ => .idle
  sent := []
  tok := none
  merchant := none
  teardownInFlight := none
  transitions := fun _ => none
  begun := 0
  finishes := fun _ => .idle
  waiters := fun _ => .idle
  navigations := 0

inductive Action
  | apiFetch (call : ℕ) (options : Options)
  | fetched (call : ℕ) (outcome : Fetched)
  | refreshed (call : ℕ)
  | errorBody (call : ℕ) (body : Option String)
  | returned (call : ℕ)
  /-- `none`: the reading is rejected. -/
  | body (call : ℕ) (body : Option String)
  /-- `none`: the fetch is rejected or has timed out. -/
  | refreshFetched (refresh : ℕ) (ok : Option Bool)
  | refreshBody (refresh : ℕ) (accessToken : Option String)
  | release (refresh : ℕ)
  | refreshSession (waiter : ℕ)
  | refreshDone (waiter : ℕ)
  | setSession (accessToken : String) (merchant : Merchant)
  | signOut
  | cleared (transition : ℕ) (ok : Bool)
  | commit (transition : ℕ)
  | finish (call : ℕ)
  | setOnSessionLost (registered : Bool)
  deriving DecidableEq, Repr

namespace State

def setCall (s : State) (call : ℕ) (x : Call) : State := { s with calls := Function.update s.calls call x }

/-- `assertEpoch`. -/
def stale (s : State) (c : Context) : Prop := s.g.epoch ≠ c.capturedEpoch

instance (s : State) (c : Context) : Decidable (s.stale c) := inferInstanceAs (Decidable (_ ≠ _))

def throwing (s : State) (call : ℕ) (c : Context) (e : Failure) : State := s.setCall call (.settled c (.thrown e))

/-- The request leaves, with the token of the moment. -/
def dispatch (s : State) (call : ℕ) (c : Context) (isRetry : Bool) : State :=
  { s.setCall call (.requested c isRetry) with
    sent := s.sent ++ [⟨call, c.capturedEpoch, isRetry, if c.options.auth then truthy s.g.accessToken else none⟩] }

/-- A boundary: the synchronous part of the transition. -/
def boundary (s : State) (kind : Kind) : State :=
  { s with
    g := s.g.reset
    transitions := Function.update s.transitions s.begun (some ⟨kind, s.g.epoch + 1, .cancelling⟩)
    begun := s.begun + 1 }

/-- The registered handler. A teardown that is on record is used again. -/
def sessionLost (s : State) (call : ℕ) : State :=
  match s.teardownInFlight with
  | some n => { s with finishes := Function.update s.finishes call (.waiting n) }
  | none =>
    { s.boundary .hardLogout with
      teardownInFlight := some s.begun
      finishes := Function.update s.finishes call (.waiting s.begun) }

def triggerSessionLost (s : State) (call : ℕ) : State :=
  if s.g.sessionLostFired = true then s
  else if s.g.onSessionLost = true then { s with g := { s.g with sessionLostFired := true } }.sessionLost call
  else { s with g := { s.g with sessionLostFired := true }, navigations := s.navigations + 1 }

/-- The terminal 401: the refresh has failed, or the retry is refused. -/
def terminal (s : State) (call : ℕ) (c : Context) : State :=
  ({ s with g := s.g.setAccessToken none }.triggerSessionLost call).setCall call (.failing c 401)

def applyToken (s : State) (t : Option Token) : State :=
  { s with
    g := s.g.setAccessToken t
    tok := t
    teardownInFlight := if (truthy t).isSome then none else s.teardownInFlight }

/-- The signed-out state and the way to `/sign-in`. -/
def clearSession (s : State) : State :=
  { s.applyToken none with merchant := none, navigations := s.navigations + 1 }

def setProgress (s : State) (n : ℕ) (x : Transition) (progress : Progress) : State :=
  { s with transitions := Function.update s.transitions n (some { x with progress := progress }) }

/-! ### Steps -/

def apiFetch (s : State) (call : ℕ) (options : Options) : Option State :=
  match s.calls call with
  | .idle => some (s.dispatch call ⟨options, s.g.epoch⟩ false)
  | _ => none

/-- A response that is not a 401 to an authed request. -/
def answered (s : State) (call : ℕ) (c : Context) (status : ℕ) : State :=
  if s.stale c then s.throwing call c .SESSION_SWITCHED
  else if isOk status = true then s.setCall call (.accepted c status)
  else s.setCall call (.failing c status)

/-- A 401 to an authed request. -/
def unauthorised (s : State) (call : ℕ) (c : Context) (isRetry : Bool) : State :=
  if s.stale c then s.throwing call c .SESSION_SWITCHED
  else if isRetry = true then s.terminal call c
  else { s with g := s.g.tryRefresh.1 }.setCall call (.refreshing c s.g.tryRefresh.2)

def fetched (s : State) (call : ℕ) (outcome : Fetched) : Option State :=
  match s.calls call with
  | .requested c isRetry =>
    match outcome with
    | .timedOut =>
      if c.options.effectiveTimeoutMs ≤ 0 then none
      else some (s.throwing call c (if s.stale c then .SESSION_SWITCHED else .REQUEST_TIMEOUT))
    | .rejected => some (s.throwing call c .rejection)
    | .status status =>
      some (if status = 401 ∧ c.options.auth = true then s.unauthorised call c isRetry else s.answered call c status)
  | _ => none

/-- The call goes on once the refresh is released. -/
def refreshed (s : State) (call : ℕ) : Option State :=
  match s.calls call with
  | .refreshing c r =>
    match s.g.refreshes r with
    | some ⟨_, .released ok⟩ =>
      some (if s.stale c then s.throwing call c .SESSION_SWITCHED
        else if ok = true then s.dispatch call c true else s.terminal call c)
    | _ => none
  | _ => none

def errorBody (s : State) (call : ℕ) (body : Option String) : Option State :=
  match s.calls call with
  | .failing c status =>
    some (s.throwing call c (if s.stale c then .SESSION_SWITCHED else .apiError status body))
  | _ => none

/-- What the wrapper does with the response before it reads the body. -/
def returned (s : State) (call : ℕ) : Option State :=
  match s.calls call with
  | .accepted c status =>
    some (if c.options.raw = true ∧ (status = 204 ∨ status = 304) then
        if s.stale c then s.throwing call c .SESSION_SWITCHED else s.setCall call (.settled c (.response status none))
      else if c.options.raw = false ∧ status = 204 then s.setCall call (.settled c (.data none))
      else s.setCall call (.reading c status))
  | _ => none

def body (s : State) (call : ℕ) (body : Option String) : Option State :=
  match s.calls call with
  | .reading c status =>
    some (if s.stale c then s.throwing call c .SESSION_SWITCHED
      else match body with
        | none => s.throwing call c .rejection
        | some b => s.setCall call (.settled c (if c.options.raw then .response status (some b) else .data (some b))))
  | _ => none

def refreshFetched (s : State) (r : ℕ) (ok : Option Bool) : Option State :=
  match s.g.refreshes r with
  | some ⟨epoch, .fetching⟩ =>
    some { s with g := s.g.setStage r ⟨epoch, .fetching⟩ (if ok = some true then .reading else .settled false) }
  | _ => none

def refreshBody (s : State) (r : ℕ) (accessToken : Option String) : Option State :=
  match s.g.refreshes r with
  | some ⟨epoch, .reading⟩ =>
    some { s with g := s.g.take r epoch accessToken }
  | _ => none

def release (s : State) (r : ℕ) : Option State :=
  match s.g.refreshes r with
  | some ⟨epoch, .settled ok⟩ => some { s with g := s.g.release r ⟨epoch, .settled ok⟩ ok }
  | _ => none

def refreshSession (s : State) (w : ℕ) : Option State :=
  match s.waiters w with
  | .idle =>
    some { s with
      g := s.g.tryRefresh.1
      waiters := Function.update s.waiters w (.waiting s.g.tryRefresh.2) }
  | _ => none

/-- The provider shows the token of the store. -/
def refreshDone (s : State) (w : ℕ) : Option State :=
  match s.waiters w with
  | .waiting r =>
    match s.g.refreshes r with
    | some ⟨_, .released ok⟩ =>
      some { s with
        tok := if ok then s.g.accessToken else s.tok
        waiters := Function.update s.waiters w .done }
    | _ => none
  | _ => none

/-- `setSession` fails closed; the others go on. -/
def cleared (s : State) (n : ℕ) (ok : Bool) : Option State :=
  match s.transitions n with
  | some ⟨.setSession accessToken merchant, generation, .cancelling⟩ =>
    some (s.setProgress n ⟨.setSession accessToken merchant, generation, .cancelling⟩ (if ok then .cleared true else .done))
  | some ⟨kind, generation, .cancelling⟩ => some (s.setProgress n ⟨kind, generation, .cancelling⟩ (.cleared ok))
  | _ => none

/-- A newer transition takes over. After a reset that threw, the generation is not known. -/
def commit (s : State) (n : ℕ) : Option State :=
  match s.transitions n with
  | some ⟨.setSession accessToken merchant, generation, .cleared ok⟩ =>
    let s := s.setProgress n ⟨.setSession accessToken merchant, generation, .cleared ok⟩ .done
    some (if s.g.epoch ≠ generation then s
      else { s.applyToken (some ⟨accessToken, generation⟩) with merchant := some merchant })
  | some ⟨.signOut bearer, generation, .cleared ok⟩ =>
    let s := s.setProgress n ⟨.signOut bearer, generation, .cleared ok⟩ .done
    some (if ok = true ∧ s.g.epoch ≠ generation then s else s.clearSession)
  | _ => none

def finish (s : State) (call : ℕ) : Option State :=
  match s.finishes call with
  | .waiting n =>
    match s.transitions n with
    | some ⟨.hardLogout, generation, .cleared ok⟩ =>
      let s := { s with finishes := Function.update s.finishes call (.done n) }
      some (if ok = true ∧ s.g.epoch ≠ generation then s else s.clearSession)
    | _ => none
  | _ => none

end State

def step (s : State) : Action → Option State
  | .apiFetch call options => s.apiFetch call options
  | .fetched call outcome => s.fetched call outcome
  | .refreshed call => s.refreshed call
  | .errorBody call body => s.errorBody call body
  | .returned call => s.returned call
  | .body call body => s.body call body
  | .refreshFetched refresh ok => s.refreshFetched refresh ok
  | .refreshBody refresh accessToken => s.refreshBody refresh accessToken
  | .release refresh => s.release refresh
  | .refreshSession waiter => s.refreshSession waiter
  | .refreshDone waiter => s.refreshDone waiter
  | .setSession accessToken merchant => some (s.boundary (.setSession accessToken merchant))
  | .signOut => some (s.boundary (.signOut s.g.accessToken))
  | .cleared transition ok => s.cleared transition ok
  | .commit transition => s.commit transition
  | .finish call => s.finish call
  | .setOnSessionLost registered => some { s with g := { s.g with onSessionLost := registered } }

end Redeemo.MerchantWeb.Transport
