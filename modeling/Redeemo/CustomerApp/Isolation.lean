import Mathlib.Data.Fintype.Basic
import Redeemo.CustomerApp.Api

/-! What keeps the customer app's sessions apart, and what does not.

    There is one refresh at a time, whatever happens meanwhile. But its outcome is taken over into whatever the
    record of the tokens has become: a sign-out or another session in between is overwritten. -/

namespace Redeemo.CustomerApp.Api
open Runs

def Refresh.Settled (r : Refresh) : Prop := ∃ outcome, r.stage = .settled outcome

/-! ### One refresh at a time -/

/-- The slot has the refresh that is not settled, and is emptied by the call that has started it. -/
structure Slot (s : State) : Prop where
  held : ∀ (i : ℕ) r, s.refreshes[i]? = some r → ¬ r.Settled → s.refreshing = some i
  owned : ∀ (c : ℕ) path i, s.calls[c]? = some (.refreshing path i) → s.refreshing = some i
  unique : ∀ (c c' : ℕ) path path' i i', s.calls[c]? = some (.refreshing path i) →
    s.calls[c']? = some (.refreshing path' i') → c = c'

theorem slot_start : Slot start where
  held := nofun
  owned := nofun
  unique := nofun

/-- A step that neither fills nor empties the slot: it starts no refresh and puts no call in charge of one. -/
theorem Slot.keep {s t : State} (hs : Slot s) (hslot : t.refreshing = s.refreshing)
    (hcalls : ∀ (c : ℕ) path i, t.calls[c]? = some (.refreshing path i) → s.calls[c]? = some (.refreshing path i))
    (hrefreshes : ∀ (i : ℕ) r, t.refreshes[i]? = some r → ¬ r.Settled →
      ∃ r', s.refreshes[i]? = some r' ∧ ¬ r'.Settled) :
    Slot t where
  held i r hi hr := by
    obtain ⟨r', hi', hr'⟩ := hrefreshes i r hi hr
    rw [hslot]
    exact hs.held i r' hi' hr'
  owned c path i hc := by
    rw [hslot]
    exact hs.owned c path i (hcalls c path i hc)
  unique c c' path path' i i' hc hc' := hs.unique c c' path path' i i' (hcalls _ _ _ hc) (hcalls _ _ _ hc')

/-- A call that is put elsewhere than in charge of a refresh. -/
theorem refreshing_of_set {calls : List Call} {call c : ℕ} {x : Call} {path : String} {i : ℕ}
    (hx : x ≠ .refreshing path i) (h : (calls.set call x)[c]? = some (.refreshing path i)) :
    calls[c]? = some (.refreshing path i) := by
  rw [List.getElem?_set] at h
  split at h
  · split at h
    · exact absurd (Option.some.inj h) hx
    · cases h
  · exact h

theorem Slot.setCall {s : State} (hs : Slot s) (call : ℕ) {x : Call} (hx : ∀ path i, x ≠ .refreshing path i) :
    Slot (s.setCall call x) :=
  hs.keep rfl (fun _ path i hc => refreshing_of_set (hx path i) hc) fun _ r hi hr => ⟨r, hi, hr⟩

theorem setStage_of_ne {s : State} {refresh i : ℕ} {stage : Stage} (h : refresh ≠ i) :
    (s.setStage refresh stage).refreshes[i]? = s.refreshes[i]? := List.getElem?_modify_ne _ _ h

/-- What was unsettled before is all that can be unsettled after. -/
theorem unsettled_of_setStage {s : State} {refresh i : ℕ} {stage : Stage} {r r' : Refresh}
    (hr : s.refreshes[refresh]? = some r) (hsettled : ¬ r.Settled)
    (hi : (s.setStage refresh stage).refreshes[i]? = some r') (hr' : ¬ r'.Settled) :
    ∃ r'', s.refreshes[i]? = some r'' ∧ ¬ r''.Settled := by
  by_cases he : refresh = i
  · subst he
    exact ⟨r, hr, hsettled⟩
  · rw [setStage_of_ne he] at hi
    exact ⟨r', hi, hr'⟩

theorem Slot.setStage {s : State} (hs : Slot s) {refresh : ℕ} {r : Refresh}
    (hr : s.refreshes[refresh]? = some r) (hsettled : ¬ r.Settled) (stage : Stage) :
    Slot (s.setStage refresh stage) :=
  hs.keep rfl (fun _ _ _ hc => hc) fun _ _ => unsettled_of_setStage hr hsettled

theorem Slot.refreshTokens {s : State} (hs : Slot s) (call : ℕ) (path : String) :
    Slot (s.refreshTokens call path) := by
  rw [State.refreshTokens]
  cases hslot : s.refreshing with
  | some refresh => exact hs.setCall call nofun
  | none =>
    -- Nothing is unsettled and no call is in charge; both are true of the new refresh and its call alone.
    have hcall (c : ℕ) (path' : String) (i : ℕ)
        (hc : (s.calls.set call (.refreshing path s.refreshes.length))[c]? = some (.refreshing path' i)) :
        c = call ∧ i = s.refreshes.length := by
      rw [List.getElem?_set] at hc
      split at hc
      · rename_i he
        split at hc
        · cases hc
          exact ⟨he.symm, rfl⟩
        · cases hc
      · have howned := hs.owned c path' i hc
        rw [hslot] at howned
        cases howned
    refine ⟨fun i r hi hr => ?_, fun c path' i hc => ?_, fun c c' path' path'' i i' hc hc' => ?_⟩
    · rcases Nat.lt_or_ge i s.refreshes.length with hlt | hge
      · rw [List.getElem?_append_left hlt] at hi
        have hheld := hs.held i r hi hr
        rw [hslot] at hheld
        cases hheld
      · rw [List.getElem?_append_right hge] at hi
        have hzero : i - s.refreshes.length = 0 := by
          by_contra hne
          rw [List.getElem?_eq_none (by simpa using Nat.one_le_iff_ne_zero.mpr hne)] at hi
          cases hi
        exact congrArg some (by omega)
    · exact congrArg some (hcall c path' i hc).2.symm
    · exact (hcall c path' i hc).1.trans (hcall c' path'' i' hc').1.symm

/-- The call in charge has let go of a settled refresh: there is no other. -/
theorem Slot.release {s : State} (hs : Slot s) {call refresh : ℕ} {path : String} {r : Refresh}
    (hc : s.calls[call]? = some (.refreshing path refresh)) (hr : s.refreshes[refresh]? = some r)
    (hsettled : r.Settled) : Slot { s.setCall call (.waiting path refresh) with refreshing := none } := by
  have hslot : s.refreshing = some refresh := hs.owned call path refresh hc
  have hcalls (c : ℕ) (path' : String) (i : ℕ)
      (hc' : (s.calls.set call (.waiting path refresh))[c]? = some (.refreshing path' i)) : False := by
    have hold := refreshing_of_set (x := .waiting path refresh) nofun hc'
    obtain rfl := hs.unique c call path' path i refresh hold hc
    rw [List.getElem?_set_self (List.getElem?_eq_some_iff.mp hold).1] at hc'
    cases hc'
  refine ⟨fun i r' hi hr' => ?_, fun c path' i hc' => (hcalls c path' i hc').elim, fun c _ path' _ i _ hc' _ =>
    (hcalls c path' i hc').elim⟩
  have hheld := hs.held i r' hi hr'
  rw [hslot, Option.some.injEq] at hheld
  subst hheld
  cases hr.symm.trans hi
  exact absurd hsettled hr'

/-! ### What a step does to the record -/

theorem map_stage_eq_some {s : State} {refresh : ℕ} {stage : Stage}
    (h : (s.refreshes[refresh]?).map Refresh.stage = some stage) :
    ∃ r, s.refreshes[refresh]? = some r ∧ r.stage = stage := Option.map_eq_some_iff.mp h

theorem not_settled {r : Refresh} {stage : Stage} (h : r.stage = stage) (hstage : ∀ o, stage ≠ .settled o) :
    ¬ r.Settled := by
  rintro ⟨o, ho⟩
  exact hstage o (h.symm.trans ho)

/-- The steps that write the record; every other one keeps it, and calls nobody back. -/
inductive Writes (s : State) : Action → State → Prop
  | setTokens (tokens : Tokens) : Writes s (.setTokens tokens) { s with tokens := tokens }
  | rotate {refresh : ℕ} {body : TokenBody} {r : Refresh} (hr : s.refreshes[refresh]? = some r)
    (hstage : r.stage = .reading) : Writes s (.tokenBody refresh (some body)) (s.rotate refresh body)
  | refused {call refresh : ℕ} {path : String} {reason : SignOutReason} {r : Refresh}
    (hcall : s.calls[call]? = some (.waiting path refresh)) (hr : s.refreshes[refresh]? = some r)
    (hstage : r.stage = .settled (.refused reason)) :
    Writes s (.resume call) (s.afterRefresh call path (.refused reason))

/-- What a step does, with its guard. -/
inductive Kept (s : State) : Action → State → Prop
  | doFetch (path : String) : Kept s (.doFetch path) { s with calls := s.calls ++ [s.request path true] }
  | unauthorised {call : ℕ} {path : String} {bearer : Option String} {retry : Bool} {status : ℕ}
    (hcall : s.calls[call]? = some (.requested path bearer retry)) (hcan : s.canRefresh = true) :
    Kept s (.response call (some status)) (s.refreshTokens call path)
  | finished {call : ℕ} {status : Option ℕ} (result : Result) :
    Kept s (.response call status) (s.setCall call (.finished result))
  | answered {refresh : ℕ} {r : Refresh} (status : Option ℕ) (hr : s.refreshes[refresh]? = some r)
    (hstage : r.stage = .fetching) :
    Kept s (.refreshResponse refresh status) (s.setStage refresh (stageAfter status))
  | refusal {refresh : ℕ} {r : Refresh} (code : Option String) (hr : s.refreshes[refresh]? = some r)
    (hstage : r.stage = .refusing) :
    Kept s (.errorBody refresh code) (s.setStage refresh (.settled (.refused (reasonOf code))))
  | unparsed {refresh : ℕ} {r : Refresh} (hr : s.refreshes[refresh]? = some r) (hstage : r.stage = .reading) :
    Kept s (.tokenBody refresh none) (s.setStage refresh (.settled .transport))
  | release {call refresh : ℕ} {path : String} {r : Refresh}
    (hcall : s.calls[call]? = some (.refreshing path refresh)) (hr : s.refreshes[refresh]? = some r)
    (hstage : r.Settled) :
    Kept s (.release call) { s.setCall call (.waiting path refresh) with refreshing := none }
  | retried {call refresh : ℕ} {path : String} {r : Refresh}
    (hcall : s.calls[call]? = some (.waiting path refresh)) (hr : s.refreshes[refresh]? = some r)
    (hstage : r.stage = .settled .rotated) : Kept s (.resume call) (s.setCall call (s.request path false))
  | gaveUp {call refresh : ℕ} {path : String} {r : Refresh}
    (hcall : s.calls[call]? = some (.waiting path refresh)) (hr : s.refreshes[refresh]? = some r)
    (hstage : r.stage = .settled .transport) : Kept s (.resume call) (s.setCall call (.finished .networkError))

theorem step_cases {s t : State} {a : Action} (h : step s a = some t) : Writes s a t ∨ Kept s a t := by
  cases a with
  | doFetch path =>
    cases h
    exact .inr (.doFetch path)
  | response call status =>
    dsimp only [step] at h
    split at h
    · rename_i path bearer retry status' hcall
      split at h
      · rename_i hguard
        cases h
        exact .inr (.unauthorised hcall hguard.2.2.1)
      · cases h
        exact .inr (.finished _)
    · cases h
      exact .inr (.finished _)
    · cases h
  | refreshResponse refresh status =>
    rw [step] at h
    split at h
    · rename_i hstage
      obtain ⟨r, hr, hstage⟩ := map_stage_eq_some hstage
      cases h
      exact .inr (.answered status hr hstage)
    · cases h
  | errorBody refresh code =>
    rw [step] at h
    split at h
    · rename_i hstage
      obtain ⟨r, hr, hstage⟩ := map_stage_eq_some hstage
      cases h
      exact .inr (.refusal code hr hstage)
    · cases h
  | tokenBody refresh body =>
    dsimp only [step] at h
    split at h
    · rename_i body hstage
      obtain ⟨r, hr, hstage⟩ := map_stage_eq_some hstage
      cases h
      exact .inl (.rotate hr hstage)
    · rename_i hstage
      obtain ⟨r, hr, hstage⟩ := map_stage_eq_some hstage
      cases h
      exact .inr (.unparsed hr hstage)
    · cases h
  | release call =>
    rw [step] at h
    split at h
    · rename_i path refresh hcall
      split at h
      · rename_i outcome hstage
        obtain ⟨r, hr, hstage⟩ := map_stage_eq_some hstage
        cases h
        exact .inr (.release hcall hr ⟨outcome, hstage⟩)
      · cases h
    · cases h
  | resume call =>
    rw [step] at h
    split at h
    · rename_i path refresh hcall
      split at h
      · rename_i outcome hstage
        obtain ⟨r, hr, hstage⟩ := map_stage_eq_some hstage
        cases h
        cases outcome with
        | rotated => exact .inr (.retried hcall hr hstage)
        | refused reason => exact .inl (.refused hcall hr hstage)
        | transport => exact .inr (.gaveUp hcall hr hstage)
      · cases h
    · cases h
  | setTokens tokens =>
    cases h
    exact .inl (.setTokens tokens)

theorem Kept.tokens {s t : State} {a : Action} (h : Kept s a t) : t.tokens = s.tokens ∧ t.events = s.events := by
  cases h with
  | unauthorised hcall hcan =>
    rw [State.refreshTokens]
    split <;> exact ⟨rfl, rfl⟩
  | _ => exact ⟨rfl, rfl⟩

/-- There is one refresh at a time, whatever the steps. -/
theorem Slot.step {s t : State} {a : Action} (hs : Slot s) (h : step s a = some t) : Slot t := by
  rcases step_cases h with h | h
  · cases h with
    | setTokens tokens => exact hs.keep rfl (fun _ _ _ hc => hc) fun _ r hi hr => ⟨r, hi, hr⟩
    | rotate hr hstage =>
      exact hs.keep rfl (fun _ _ _ hc => hc) fun _ _ => unsettled_of_setStage hr (not_settled hstage nofun)
    | refused hcall hr hstage =>
      exact hs.keep rfl (fun _ path i hc => refreshing_of_set (x := .finished _) nofun hc) fun _ r hi hr => ⟨r, hi, hr⟩
  · cases h with
    | doFetch path =>
      refine hs.keep rfl (fun c path' i hc => ?_) fun _ r hi hr => ⟨r, hi, hr⟩
      rcases Nat.lt_or_ge c s.calls.length with hlt | hge
      · rwa [List.getElem?_append_left hlt] at hc
      · rw [List.getElem?_append_right hge] at hc
        have hlast := List.mem_singleton.mp (List.mem_of_getElem? hc)
        cases hlast
    | unauthorised hcall hcan => exact hs.refreshTokens _ _
    | finished result => exact hs.setCall _ nofun
    | answered status hr hstage => exact hs.setStage hr (not_settled hstage nofun) _
    | refusal code hr hstage => exact hs.setStage hr (not_settled hstage nofun) _
    | unparsed hr hstage => exact hs.setStage hr (not_settled hstage nofun) _
    | release hcall hr hstage => exact hs.release hcall hr hstage
    | retried hcall hr hstage => exact hs.setCall _ nofun
    | gaveUp hcall hr hstage => exact hs.setCall _ nofun

/-! ### Whose the tokens are -/

/-- Whom the server has given its credentials to. -/
structure Issuer (Session : Type) where
  accessOf : String → Option Session
  refreshOf : String → Option Session
  sessionId : Session → String
  entityId : Session → String
  sessionId_injective : Function.Injective sessionId

namespace Issuer

variable {Session : Type} (I : Issuer Session) [Fintype Session] [DecidableEq Session]

/-- What a refresh posts is of one session. -/
structure Posts (session : Session) (refreshToken sessionId entityId : Option String) : Prop where
  refreshToken : refreshToken.bind I.refreshOf = some session
  sessionId : sessionId = some (I.sessionId session)
  entityId : entityId = some (I.entityId session)

structure Owns (session : Session) (tokens : Tokens) : Prop where
  access : tokens.access.bind I.accessOf = some session
  posts : I.Posts session tokens.refresh tokens.sessionId tokens.entityId

instance decidablePosts (session : Session) (refreshToken sessionId entityId : Option String) :
    Decidable (I.Posts session refreshToken sessionId entityId) :=
  decidable_of_iff (refreshToken.bind I.refreshOf = some session ∧ sessionId = some (I.sessionId session) ∧
      entityId = some (I.entityId session))
    ⟨fun ⟨hrefresh, hsession, hentity⟩ => ⟨hrefresh, hsession, hentity⟩,
      fun h => ⟨h.refreshToken, h.sessionId, h.entityId⟩⟩

instance decidableOwns (session : Session) (tokens : Tokens) : Decidable (I.Owns session tokens) :=
  decidable_of_iff (tokens.access.bind I.accessOf = some session ∧
      I.Posts session tokens.refresh tokens.sessionId tokens.entityId)
    ⟨fun ⟨haccess, hposts⟩ => ⟨haccess, hposts⟩, fun h => ⟨h.access, h.posts⟩⟩

/-- The four tokens are of one session, or there are none. -/
def OneSession (tokens : Tokens) : Prop := tokens = signedOut ∨ ∃ session, I.Owns session tokens

instance decidableOneSession (tokens : Tokens) : Decidable (I.OneSession tokens) :=
  inferInstanceAs (Decidable (_ ∨ _))

/-- What the callers and the server keep to: a record that is installed is of one session, and a refresh is answered
    with tokens of the session that it has posted. -/
def Legit (s : State) : Action → Prop
  | .setTokens tokens => I.OneSession tokens
  | .tokenBody refresh (some body) => ∀ r ∈ s.refreshes[refresh]?, ∀ session,
      I.Posts session r.refreshToken r.sessionId r.entityId →
        body.accessToken.bind I.accessOf = some session ∧ body.refreshToken.bind I.refreshOf = some session
  | _ => True

instance decidableLegit (s : State) : (a : Action) → Decidable (I.Legit s a)
  | .setTokens tokens => I.decidableOneSession tokens
  | .tokenBody refresh (some body) => inferInstanceAs (Decidable (∀ r ∈ s.refreshes[refresh]?, ∀ session,
      I.Posts session r.refreshToken r.sessionId r.entityId →
        body.accessToken.bind I.accessOf = some session ∧ body.refreshToken.bind I.refreshOf = some session))
  | .tokenBody _ none | .doFetch _ | .response _ _ | .refreshResponse _ _ | .errorBody _ _ | .release _ | .resume _ =>
    .isTrue trivial

/-- What is to hold of every state: no tokens of different sessions, and no two refreshes in flight. -/
structure Sound (s : State) : Prop where
  oneSession : I.OneSession s.tokens
  singleFlight : ∀ (i j : ℕ) r r', s.refreshes[i]? = some r → s.refreshes[j]? = some r' →
    ¬ r.Settled → ¬ r'.Settled → i = j

end Issuer

/-- The step belongs to a refresh, or to a call that has waited for it. -/
def ActsFor (s : State) (refresh : ℕ) : Action → Prop
  | .refreshResponse i _ | .errorBody i _ | .tokenBody i _ => i = refresh
  | .release call => ∃ path, s.calls[call]? = some (.refreshing path refresh)
  | .resume call => ∃ path, s.calls[call]? = some (.waiting path refresh)
  | _ => False

/-- A `fetch` that is rejected, an answer of the server's that is no answer, or a success that is not parsed. -/
def TransportFailure (s : State) : Action → Prop
  | .response _ status | .refreshResponse _ status => ∀ n ∈ status, 500 ≤ n
  | .tokenBody _ body => body = none
  | .resume call => ∃ path refresh r, s.calls[call]? = some (.waiting path refresh) ∧
      s.refreshes[refresh]? = some r ∧ r.stage = .settled .transport
  | _ => False

/-- What is to hold of every step. After a sign-out a refresh from before brings no token back; once another session
    is installed it neither touches its tokens nor calls back; and a transport failure changes no token. -/
structure Isolated (s : State) (a : Action) (t : State) : Prop where
  staysSignedOut : ∀ refresh, ActsFor s refresh a → s.tokens = signedOut → t.tokens = signedOut
  leavesOthers : ∀ refresh r id, ActsFor s refresh a → s.refreshes[refresh]? = some r →
    s.tokens.sessionId = some id → r.sessionId ≠ some id → t.tokens = s.tokens ∧ t.events = s.events
  transport : TransportFailure s a → t.tokens = s.tokens

def Refresh.refused (r : Refresh) : Bool :=
  match r.stage with
  | .settled (.refused _) => true
  | _ => false

/-- The refusal that a call takes over when it resumes. -/
def refusalOf (s : State) (call : ℕ) : Option Refresh :=
  match s.calls[call]? with
  | some (.waiting _ refresh) => (s.refreshes[refresh]?).filter Refresh.refused
  | _ => none

/-- The record still names the session that the refresh has posted when new tokens are taken over from it, and names
    no other session when its refusal is. -/
def Fresh (s : State) : Action → Prop
  | .tokenBody refresh (some _) => ∀ r ∈ s.refreshes[refresh]?, r.stage = .reading → s.tokens.sessionId = r.sessionId
  | .resume call => ∀ r ∈ refusalOf s call, s.tokens.sessionId = none ∨ s.tokens.sessionId = r.sessionId
  | _ => True

instance decidableFresh (s : State) : (a : Action) → Decidable (Fresh s a)
  | .tokenBody refresh (some _) => inferInstanceAs (Decidable
      (∀ r ∈ s.refreshes[refresh]?, r.stage = .reading → s.tokens.sessionId = r.sessionId))
  | .resume call => inferInstanceAs (Decidable
      (∀ r ∈ refusalOf s call, s.tokens.sessionId = none ∨ s.tokens.sessionId = r.sessionId))
  | .tokenBody _ none | .doFetch _ | .response _ _ | .refreshResponse _ _ | .errorBody _ _ | .release _ |
    .setTokens _ => .isTrue trivial

theorem refusalOf_eq {s : State} {call refresh : ℕ} {path : String} {r : Refresh} {reason : SignOutReason}
    (hcall : s.calls[call]? = some (.waiting path refresh)) (hr : s.refreshes[refresh]? = some r)
    (hstage : r.stage = .settled (.refused reason)) : refusalOf s call = some r := by
  rw [refusalOf, hcall]
  show (s.refreshes[refresh]?).filter Refresh.refused = some r
  rw [hr, Option.filter_some, if_pos (by rw [Refresh.refused, hstage])]

theorem refusalOf_eq_some {s : State} {call : ℕ} {r : Refresh} (h : refusalOf s call = some r) :
    ∃ path refresh reason, s.calls[call]? = some (.waiting path refresh) ∧ s.refreshes[refresh]? = some r ∧
      r.stage = .settled (.refused reason) := by
  rw [refusalOf] at h
  split at h
  · rename_i path refresh hcall
    obtain ⟨hr, hrefused⟩ := Option.filter_eq_some_iff.mp h
    rw [Refresh.refused] at hrefused
    split at hrefused
    · rename_i reason hstage
      exact ⟨path, refresh, reason, hcall, hr, hstage⟩
    · cases hrefused
  · cases h

/-- Whatever the interleaving. -/
def Issuer.SessionsIsolated {Session : Type} (I : Issuer Session) (acts : List Action) : Prop :=
  Throughout step I.Sound start acts ∧
    Along step (fun s a => ∀ t, step s a = some t → Isolated s a t) start acts

/-! ### Runs -/

section Runs

variable {Session : Type} {I : Issuer Session} {s t : State} {a : Action}

/-- Every refresh has posted what the record had when it started. -/
theorem posted_of_mem (h : step s a = some t) {r : Refresh} (hr : r ∈ t.refreshes) :
    (∃ r' ∈ s.refreshes, (r.refreshToken, r.sessionId, r.entityId) = (r'.refreshToken, r'.sessionId, r'.entityId)) ∨
      s.canRefresh = true ∧
        (r.refreshToken, r.sessionId, r.entityId) = (s.tokens.refresh, s.tokens.sessionId, s.tokens.entityId) := by
  have hstage (refresh : ℕ) (stage : Stage) (hr : r ∈ (s.setStage refresh stage).refreshes) :
      ∃ r' ∈ s.refreshes, (r.refreshToken, r.sessionId, r.entityId) = (r'.refreshToken, r'.sessionId, r'.entityId) := by
    obtain ⟨i, hi⟩ := List.mem_iff_getElem?.mp hr
    rw [State.setStage, List.getElem?_modify] at hi
    obtain ⟨r', hr', rfl⟩ := Option.map_eq_some_iff.mp hi
    refine ⟨r', List.mem_of_getElem? hr', ?_⟩
    split <;> rfl
  rcases step_cases h with h | h
  · cases h with
    | setTokens tokens => exact .inl ⟨r, hr, rfl⟩
    | rotate _ _ => exact .inl (hstage _ _ hr)
    | refused _ _ _ => exact .inl ⟨r, hr, rfl⟩
  · cases h with
    | doFetch _ | finished _ | release _ _ _ | retried _ _ _ | gaveUp _ _ _ => exact .inl ⟨r, hr, rfl⟩
    | answered _ _ _ | refusal _ _ _ | unparsed _ _ => exact .inl (hstage _ _ hr)
    | unauthorised hcall hcan =>
      rw [State.refreshTokens] at hr
      split at hr
      · exact .inl ⟨r, hr, rfl⟩
      · rcases List.mem_append.mp hr with hr | hr
        · exact .inl ⟨r, hr, rfl⟩
        · cases List.mem_singleton.mp hr
          exact .inr ⟨hcan, rfl⟩

/-- What holds of every state along a run whose steps are legitimate and fresh. -/
structure Kempt (I : Issuer Session) (s : State) : Prop where
  slot : Slot s
  oneSession : I.OneSession s.tokens
  posts : ∀ r ∈ s.refreshes, ∃ session, I.Posts session r.refreshToken r.sessionId r.entityId

theorem kempt_start : Kempt I start := ⟨slot_start, .inl rfl, nofun⟩

theorem Kempt.sound (hk : Kempt I s) : I.Sound s where
  oneSession := hk.oneSession
  singleFlight i j r r' hr hr' hflight hflight' := by
    have hi := hk.slot.held i r hr hflight
    have hj := hk.slot.held j r' hr' hflight'
    rw [hi] at hj
    exact Option.some.inj hj

theorem posts_step (hk : Kempt I s) (h : step s a = some t) :
    ∀ r ∈ t.refreshes, ∃ session, I.Posts session r.refreshToken r.sessionId r.entityId := by
  intro r hr
  rcases posted_of_mem h hr with ⟨r', hr', heq⟩ | ⟨hcan, heq⟩
  · simp only [Prod.mk.injEq] at heq
    rw [heq.1, heq.2.1, heq.2.2]
    exact hk.posts r' hr'
  · simp only [Prod.mk.injEq] at heq
    rw [heq.1, heq.2.1, heq.2.2]
    rcases hk.oneSession with hout | ⟨session, howns⟩
    · rw [State.canRefresh, hout] at hcan
      cases hcan
    · exact ⟨session, howns.posts⟩

/-- A fresh rotation stays within its session. -/
theorem rotate_owns {refresh : ℕ} {body : TokenBody} {r : Refresh} (hk : Kempt I s)
    (hlegit : I.Legit s (.tokenBody refresh (some body))) (hr : s.refreshes[refresh]? = some r)
    (hfresh : s.tokens.sessionId = r.sessionId) :
    ∃ session, I.Owns session (s.rotate refresh body).tokens ∧ I.Owns session s.tokens := by
  obtain ⟨session, hposts⟩ := hk.posts r (List.mem_of_getElem? hr)
  obtain ⟨haccess, hrefresh⟩ := hlegit r hr session hposts
  have hid : s.tokens.sessionId = some (I.sessionId session) := hfresh.trans hposts.sessionId
  rcases hk.oneSession with hout | ⟨session', howns⟩
  · rw [hout] at hid
    cases hid
  · rw [howns.posts.sessionId, Option.some.injEq] at hid
    obtain rfl := I.sessionId_injective hid
    exact ⟨session', ⟨haccess, hrefresh, howns.posts.sessionId, howns.posts.entityId⟩, howns⟩

theorem Kempt.step (hk : Kempt I s) (hlegit : I.Legit s a) (hfresh : Fresh s a) (h : step s a = some t) :
    Kempt I t := by
  refine ⟨hk.slot.step h, ?_, posts_step hk h⟩
  rcases step_cases h with h | h
  · cases h with
    | setTokens tokens => exact hlegit
    | rotate hr hstage =>
      obtain ⟨session, howns, -⟩ := rotate_owns hk hlegit hr (hfresh _ hr hstage)
      exact .inr ⟨session, howns⟩
    | refused _ _ _ => exact .inl rfl
  · rw [h.tokens.1]
    exact hk.oneSession

theorem isolated_of_fresh (hk : Kempt I s) (hfresh : Fresh s a) (h : step s a = some t) : Isolated s a t := by
  rcases step_cases h with h | h
  · cases h with
    | setTokens tokens => exact ⟨nofun, nofun, nofun⟩
    | @rotate refresh body r hr hstage =>
      have hid := hfresh r hr hstage
      refine ⟨fun _ _ hout => ?_, fun i r' id hacts hr' hsome hne => ?_, nofun⟩
      · obtain ⟨session, hposts⟩ := hk.posts r (List.mem_of_getElem? hr)
        rw [hout, hposts.sessionId] at hid
        cases hid
      · cases hacts
        cases hr.symm.trans hr'
        exact absurd (hid.symm.trans hsome) hne
    | @refused call refresh path reason r hcall hr hstage =>
      refine ⟨fun _ _ _ => rfl, fun i r' id hacts hr' hsome hne => ?_, ?_⟩
      · obtain ⟨path', hcall'⟩ := hacts
        cases hcall.symm.trans hcall'
        cases hr.symm.trans hr'
        rcases hfresh r (refusalOf_eq hcall hr hstage) with hnone | hid
        · cases hnone.symm.trans hsome
        · exact absurd (hid.symm.trans hsome) hne
      · rintro ⟨path', refresh', r', hcall', hr', hstage'⟩
        cases hcall.symm.trans hcall'
        cases hr.symm.trans hr'
        cases hstage.symm.trans hstage'
  · obtain ⟨htokens, hevents⟩ := h.tokens
    exact ⟨fun _ _ hout => htokens.trans hout, fun _ _ _ _ _ _ _ => ⟨htokens, hevents⟩, fun _ => htokens⟩

/-- New tokens that are taken over into another record than their refresh's show. -/
theorem fresh_of_isolated (hk : Kempt I s) (hlegit : I.Legit s a) (h : step s a = some t) (hi : Isolated s a t) :
    Fresh s a := by
  cases a with
  | tokenBody refresh body =>
    cases body with
    | none => exact trivial
    | some body =>
      intro r hr hstage
      have hstep : step s (.tokenBody refresh (some body)) = some (s.rotate refresh body) := by
        simp only [step, Option.mem_def.mp hr, Option.map_some, hstage]
      cases hstep.symm.trans h
      obtain ⟨session, hposts⟩ := hk.posts r (List.mem_of_getElem? hr)
      have haccess : body.accessToken.bind I.accessOf = some session := (hlegit r hr session hposts).1
      rcases hk.oneSession with hout | ⟨session', howns⟩
      · have hstill := congrArg Tokens.access (hi.staysSignedOut refresh rfl hout)
        rw [show body.accessToken = none from hstill] at haccess
        cases haccess
      · by_contra hne
        rw [howns.posts.sessionId] at hne
        have hsame := (hi.leavesOthers refresh r _ rfl hr howns.posts.sessionId fun he => hne he.symm).1
        have hsameAccess : body.accessToken = s.tokens.access := congrArg Tokens.access hsame
        rw [hsameAccess, howns.access, Option.some.injEq] at haccess
        exact hne (haccess ▸ hposts.sessionId.symm)
  | resume call =>
    intro r hrefusal
    obtain ⟨path, refresh, reason, hcall, hr, hstage⟩ := refusalOf_eq_some hrefusal
    have hstep : step s (.resume call) = some (s.afterRefresh call path (.refused reason)) := by
      simp only [step, hcall, hr, Option.map_some, hstage]
    cases hstep.symm.trans h
    cases hid : s.tokens.sessionId with
    | none => exact .inl rfl
    | some id =>
      by_contra hne
      rw [not_or] at hne
      have hsame := (hi.leavesOthers refresh r id ⟨path, hcall⟩ hr hid fun he => hne.2 he.symm).1
      have hnone : none = s.tokens.sessionId := congrArg Tokens.sessionId hsame
      cases hnone.trans hid
  | _ => exact trivial

/-- A step that is not taken takes nothing over. -/
theorem fresh_of_refused (h : step s a = none) : Fresh s a := by
  cases a with
  | tokenBody refresh body =>
    cases body with
    | none => exact trivial
    | some body =>
      intro r hr hstage
      simp only [step, Option.mem_def.mp hr, Option.map_some, hstage, reduceCtorEq] at h
  | resume call =>
    intro r hrefusal
    obtain ⟨path, refresh, reason, hcall, hr, hstage⟩ := refusalOf_eq_some hrefusal
    simp only [step, hcall, hr, Option.map_some, hstage, reduceCtorEq] at h
  | _ => exact trivial

theorem sessionsIsolated_iff_of_kempt {acts : List Action} (hk : Kempt I s) (hlegit : Along step I.Legit s acts) :
    (Throughout step I.Sound s acts ∧
      Along step (fun s a => ∀ t, step s a = some t → Isolated s a t) s acts) ↔ Along step Fresh s acts := by
  induction acts generalizing s with
  | nil => exact iff_of_true ⟨throughout_nil.mpr hk.sound, trivial⟩ trivial
  | cons a acts ih =>
    obtain ⟨hlegit, hrest⟩ := hlegit
    rw [throughout_cons, Along, Along]
    constructor
    · rintro ⟨⟨-, hsound⟩, hisolated, hmore⟩
      cases hstep : step s a with
      | none => exact ⟨fresh_of_refused hstep, nofun⟩
      | some t =>
        have hfresh := fresh_of_isolated hk hlegit hstep (hisolated t hstep)
        refine ⟨hfresh, fun u hu => ?_⟩
        cases hu
        exact (ih (hk.step hlegit hfresh hstep) (hrest t hstep)).mp ⟨hsound t hstep, hmore t hstep⟩
    · rintro ⟨hfresh, hmore⟩
      refine ⟨⟨hk.sound, fun t hstep => ?_⟩, fun t hstep => isolated_of_fresh hk hfresh hstep, fun t hstep => ?_⟩
      · exact ((ih (hk.step hlegit hfresh hstep) (hrest t hstep)).mpr (hmore t hstep)).1
      · exact ((ih (hk.step hlegit hfresh hstep) (hrest t hstep)).mpr (hmore t hstep)).2

/-- Sessions are kept apart along a run of legitimate steps exactly if every outcome of a refresh is taken over while
    the record names the session of the refresh. -/
theorem sessionsIsolated_iff_fresh {acts : List Action} (hlegit : Along step I.Legit start acts) :
    I.SessionsIsolated acts ↔ Along step Fresh start acts :=
  sessionsIsolated_iff_of_kempt kempt_start hlegit

end Runs

/-- A session and the one after it. -/
def twoSessions : Issuer Bool where
  accessOf token :=
    if token ∈ ["access-1", "access-1b"] then some false else if token = "access-2" then some true else none
  refreshOf token :=
    if token ∈ ["refresh-1", "refresh-1b"] then some false else if token = "refresh-2" then some true else none
  sessionId session := if session then "session-2" else "session-1"
  entityId session := if session then "user-2" else "user-1"
  sessionId_injective := by decide

def firstTokens : Tokens := ⟨some "access-1", some "refresh-1", some "session-1", some "user-1"⟩

/-- The first user signs out while the tokens are being refreshed. -/
def signOutRace : List Action :=
  [.setTokens firstTokens, .doFetch "/api/v1/customer/home", .response 0 (some 401), .setTokens signedOut,
    .refreshResponse 0 (some 200), .tokenBody 0 (some ⟨some "access-1b", some "refresh-1b"⟩)]

/-- The refresh comes through first. -/
def orderlySignOut : List Action :=
  [.setTokens firstTokens, .doFetch "/api/v1/customer/home", .response 0 (some 401), .refreshResponse 0 (some 200),
    .tokenBody 0 (some ⟨some "access-1b", some "refresh-1b"⟩), .release 0, .resume 0, .setTokens signedOut]

theorem sessionsIsolated_iff_fresh_orderly : twoSessions.SessionsIsolated orderlySignOut :=
  (sessionsIsolated_iff_fresh (by decide +kernel)).mpr (by decide +kernel)

/-- The server keeps to its part, and the tokens are back after the sign-out, without the ids they go with. -/
theorem signOutRace_not_isolated :
    Along step twoSessions.Legit start signOutRace ∧ ¬ twoSessions.SessionsIsolated signOutRace := by
  refine ⟨by decide +kernel, ?_⟩
  rintro ⟨hsound, -⟩
  have hmixed : ¬ Throughout step (fun s => twoSessions.OneSession s.tokens) start signOutRace := by decide +kernel
  exact hmixed fun xs ys s' he hr => (hsound xs ys s' he hr).oneSession

end Redeemo.CustomerApp.Api
