import Redeemo.MerchantWeb.TransportSteps

/-! What keeps the merchant portal's sessions apart.

    The store has no token but one of the current epoch, a call waits for no refresh but one of its own, and
    a call that finds its epoch gone does nothing more than to end. -/

namespace Redeemo.MerchantWeb.Transport
open Runs

/-! ### Every state reached -/

def State.requestsOf (s : State) (i : ℕ) : List Request := s.sent.filter (·.call = i)

/-- The epoch of every request of the call, and whether it is the retry. -/
def State.attempts (s : State) (i : ℕ) : List (ℕ × Bool) := (s.requestsOf i).map fun q => (q.capturedEpoch, q.isRetry)

def Context.once (c : Context) : List (ℕ × Bool) := [(c.capturedEpoch, false)]
def Context.twice (c : Context) : List (ℕ × Bool) := [(c.capturedEpoch, false), (c.capturedEpoch, true)]

/-- A call in this context has sent one request or two, and a boundary may have passed since. -/
structure Context.Begun (c : Context) (g : Globals) (attempts : List (ℕ × Bool)) : Prop where
  attempts : attempts = c.once ∨ attempts = c.twice
  past : c.capturedEpoch ≤ g.epoch

/-- What holds of a call, by where it is. -/
def CallOk (g : Globals) (attempts : List (ℕ × Bool)) : Call → Prop
  | .idle => attempts = []
  | .requested c isRetry => c.Begun g attempts ∧ (isRetry = false → attempts = c.once)
  | .refreshing c r => c.Begun g attempts ∧ attempts = c.once ∧
      ∃ x, g.refreshes r = some x ∧ x.epoch = c.capturedEpoch
  | .failing c _ => c.Begun g attempts
  | .accepted c _ => c.Begun g attempts
  | .reading c _ => c.Begun g attempts
  | .settled c _ => c.Begun g attempts

structure Isolated (s : State) : Prop where
  globals : s.g.Ok
  calls : ∀ i, CallOk s.g (s.attempts i) (s.calls i)
  bearers : ∀ q ∈ s.sent, ∀ t, q.bearer = some t → t.session = q.capturedEpoch

section
variable {s t : State} {a : Action} {i j : ℕ} {c : Context} {x : Call} {g g' : Globals}
variable {attempts : List (ℕ × Bool)}

theorem CallOk.begun (h : CallOk g attempts x) (hc : x.pending = some c) : c.Begun g attempts := by
  cases x with
  | requested c' isRetry =>
    cases hc
    exact h.1
  | refreshing c' r =>
    cases hc
    exact h.1
  | failing c' status =>
    cases hc
    exact h
  | accepted c' status =>
    cases hc
    exact h
  | reading c' status =>
    cases hc
    exact h
  | idle => cases hc
  | settled c' result => cases hc

theorem CallOk.mono (h : CallOk g attempts x) (hg : g.Extends g') : CallOk g' attempts x := by
  have hbegun : ∀ c : Context, c.Begun g attempts → c.Begun g' attempts := fun c hb =>
    ⟨hb.attempts, hb.past.trans hg.epoch⟩
  cases x with
  | idle => exact h
  | requested c isRetry => exact ⟨hbegun c h.1, h.2⟩
  | refreshing c r =>
    obtain ⟨hb, honce, y, hr, he⟩ := h
    obtain ⟨y', hr', he'⟩ := hg.refreshes r y hr
    exact ⟨hbegun c hb, honce, y', hr', he'.trans he⟩
  | failing c status => exact hbegun c h
  | accepted c status => exact hbegun c h
  | reading c status => exact hbegun c h
  | settled c result => exact hbegun c h

theorem isolated_start : Isolated start where
  globals := ok_start
  calls _ := rfl
  bearers := by simp [start]

theorem Isolated.quiet (h : Isolated s) (hq : Quiet s t) : Isolated t where
  globals := h.globals.moves hq.moves
  calls i := by
    have hattempts : t.attempts i = s.attempts i := by rw [State.attempts, State.requestsOf, hq.sent]; rfl
    rw [hattempts, hq.calls]
    exact (h.calls i).mono (extends_moves h.globals hq.moves)
  bearers := by
    rw [hq.sent]
    exact h.bearers

/-- One call is put elsewhere, and no request leaves. -/
theorem Isolated.setCall (h : Isolated s) (hsent : t.sent = s.sent) (hmoves : s.g.Moves t.g)
    (hcalls : t.calls = Function.update s.calls i x) (hx : CallOk t.g (s.attempts i) x) : Isolated t where
  globals := h.globals.moves hmoves
  calls j := by
    have hattempts : t.attempts j = s.attempts j := by rw [State.attempts, State.requestsOf, hsent]; rfl
    rw [hattempts, hcalls]
    rcases eq_or_ne j i with rfl | hne
    · rw [Function.update_self]
      exact hx
    · rw [Function.update_of_ne hne]
      exact (h.calls j).mono (extends_moves h.globals hmoves)
  bearers := by
    rw [hsent]
    exact h.bearers

theorem requestsOf_dispatch (s : State) (i j : ℕ) (c : Context) (isRetry : Bool) :
    (s.dispatch i c isRetry).requestsOf j = s.requestsOf j ++
      if i = j then [⟨i, c.capturedEpoch, isRetry, if c.options.auth then truthy s.g.accessToken else none⟩] else [] := by
  rw [State.requestsOf, State.dispatch, List.filter_append, State.requestsOf]
  congr 1
  by_cases hij : i = j
  · simp [hij]
  · simp [hij]

theorem attempts_dispatch (s : State) (i j : ℕ) (c : Context) (isRetry : Bool) :
    (s.dispatch i c isRetry).attempts j = s.attempts j ++ if i = j then [(c.capturedEpoch, isRetry)] else [] := by
  rw [State.attempts, requestsOf_dispatch, List.map_append, State.attempts]
  split_ifs <;> rfl

theorem mem_truthy {t : Token} {o : Option Token} (h : truthy o = some t) : o = some t :=
  (Option.filter_eq_some_iff.mp h).1

/-- A call sends its first request, or after a refresh its second, with the token of its own session. -/
theorem Isolated.dispatch (h : Isolated s) {isRetry : Bool} (he : c.capturedEpoch = s.g.epoch)
    (hc : s.calls i = .idle ∧ isRetry = false ∨ ∃ r, s.calls i = .refreshing c r ∧ isRetry = true) :
    Isolated (s.dispatch i c isRetry) where
  globals := h.globals
  calls j := by
    rw [attempts_dispatch]
    have hj := h.calls j
    rcases eq_or_ne j i with rfl | hne
    · rw [if_pos rfl, State.dispatch, State.setCall]
      dsimp only
      rw [Function.update_self]
      rcases hc with ⟨hidle, rfl⟩ | ⟨r, hr, rfl⟩
      · rw [hidle, CallOk] at hj
        rw [hj]
        exact ⟨⟨.inl rfl, he.le⟩, fun _ => rfl⟩
      · rw [hr, CallOk] at hj
        rw [hj.2.1]
        exact ⟨⟨.inr rfl, he.le⟩, by simp⟩
    · rw [if_neg hne.symm, List.append_nil, State.dispatch, State.setCall]
      dsimp only
      rw [Function.update_of_ne hne]
      exact hj
  bearers q hq t ht := by
    rw [State.dispatch] at hq
    rcases List.mem_append.mp hq with hq | hq
    · exact h.bearers q hq t ht
    · rw [List.mem_singleton] at hq
      rw [hq] at ht ⊢
      dsimp only at ht ⊢
      split_ifs at ht
      rw [h.globals.token t (mem_truthy ht), he]

/-- The refresh that a call joins or starts is one of the current epoch. -/
theorem epoch_of_tryRefresh (h : g.Ok) :
    ∃ x, g.tryRefresh.1.refreshes g.tryRefresh.2 = some x ∧ x.epoch = g.epoch := by
  cases hslot : g.refreshInFlight with
  | none =>
    rw [tryRefresh_none hslot]
    exact ⟨_, Function.update_self .., rfl⟩
  | some r =>
    rw [tryRefresh_some hslot]
    exact h.slot r hslot

theorem Isolated.call (h : Isolated s) (hstep : CallStep s i t) : Isolated t := by
  have hi := h.calls i
  cases hstep with
  | dispatch c isRetry he hc => exact h.dispatch he hc
  | join c he hc =>
    rw [hc, CallOk] at hi
    obtain ⟨x, hr, hx⟩ := epoch_of_tryRefresh h.globals
    refine h.setCall rfl (moves_tryRefresh s.g) rfl ⟨⟨hi.1.attempts, ?_⟩, hi.2 rfl, x, hr, hx.trans he.symm⟩
    exact he.le.trans epoch_tryRefresh.ge
  | terminal c he hc =>
    obtain ⟨hcalls, hsent⟩ := @terminal_calls s i c
    have hmoves := moves_terminal s i c
    have hbegun : c.Begun s.g (s.attempts i) := by
      rcases hc with hc | ⟨r, hc⟩ <;> exact hi.begun (by rw [hc]; rfl)
    exact h.setCall hsent hmoves hcalls ⟨hbegun.attempts, hbegun.past.trans (extends_moves h.globals hmoves).epoch⟩
  | settle c result hc _ => exact h.setCall rfl .refl rfl (hi.begun hc)
  | go c x status hc hx =>
    refine h.setCall rfl .refl rfl ?_
    rcases hx with rfl | rfl | rfl <;> exact hi.begun hc

theorem Isolated.step (s : State) (a : Action) (t : State) (h : Isolated s) (hstep : step s a = some t) : Isolated t := by
  rcases step_cases hstep with ⟨i, hcall⟩ | hquiet
  · exact h.call hcall
  · exact h.quiet hquiet

theorem isolated_of_run {as : List Action} (h : run step start as = some s) : Isolated s :=
  run_invariant Isolated.step isolated_start h

end

/-! ### A call after its session -/

/-- Where a call of an epoch that is over can be: still on its way, or at an end that gives nothing away. -/
def Over (c : Context) (x : Call) : Prop := x.pending = some c ∨ ∃ result, x = .settled c result ∧ result.OfNoSession

/-- The call is over its epoch, with these requests and no more. -/
structure Dead (i : ℕ) (c : Context) (requests : List Request) (s : State) : Prop where
  ended : Over c (s.calls i)
  requests : s.requestsOf i = requests
  past : c.capturedEpoch < s.g.epoch

/-- The call that an action is a step of. -/
def Action.call : Action → Option ℕ
  | .apiFetch call _ => some call
  | .fetched call _ => some call
  | .refreshed call => some call
  | .errorBody call _ => some call
  | .returned call => some call
  | .body call _ => some call
  | _ => none

section
variable {s t : State} {a : Action} {i j : ℕ} {c : Context} {requests : List Request}

theorem callStep_of_call (ha : a.call = some i) (h : step s a = some t) : CallStep s i t := by
  cases a with
  | apiFetch call options =>
    cases ha
    exact apiFetch_cases h
  | fetched call outcome =>
    cases ha
    exact fetched_cases h
  | refreshed call =>
    cases ha
    exact refreshed_cases h
  | errorBody call body =>
    cases ha
    exact errorBody_cases h
  | returned call =>
    cases ha
    exact returned_cases h
  | body call body =>
    cases ha
    exact body_cases h
  | _ => cases ha

/-- It only ends, or goes on to a body. -/
theorem CallStep.of_dead (hstep : CallStep s i t) (hover : Over c (s.calls i)) (hpast : c.capturedEpoch < s.g.epoch) :
    ∃ x, t = s.setCall i x ∧ Over c x := by
  have hnot : ∀ c' : Context, (s.calls i).pending = some c' → c'.capturedEpoch ≠ s.g.epoch ∧ c' = c := by
    intro c' hc'
    rcases hover with hc | ⟨result, hc, -⟩
    · cases hc.symm.trans hc'
      exact ⟨hpast.ne, rfl⟩
    · rw [hc] at hc'
      cases hc'
  cases hstep with
  | dispatch c' isRetry he hc' =>
    rcases hc' with ⟨hidle, -⟩ | ⟨r, hr, -⟩
    · rcases hover with hc | ⟨result, hc, -⟩
      · rw [hidle] at hc
        cases hc
      · cases hidle.symm.trans hc
    · exact absurd he (hnot c' (by rw [hr]; rfl)).1
  | join c' he hc' => exact absurd he (hnot c' (by rw [hc']; rfl)).1
  | terminal c' he hc' =>
    rcases hc' with hc' | ⟨r, hc'⟩ <;> exact absurd he (hnot c' (by rw [hc']; rfl)).1
  | settle c' result hc' hresult =>
    obtain ⟨hne, rfl⟩ := hnot c' hc'
    exact ⟨_, rfl, .inr ⟨result, rfl, hresult.resolve_left hne⟩⟩
  | go c' x status hc' hx =>
    obtain ⟨-, rfl⟩ := hnot c' hc'
    refine ⟨x, rfl, .inl ?_⟩
    rcases hx with rfl | rfl | rfl <;> rfl

theorem setCall_self (s : State) (i : ℕ) (x : Call) : (s.setCall i x).calls i = x := Function.update_self ..

theorem requestsOf_of_sent (h : t.sent = s.sent) : t.requestsOf i = s.requestsOf i := by
  rw [State.requestsOf, h, State.requestsOf]

/-- Another call's step. -/
theorem CallStep.other (hstep : CallStep s j t) (hne : i ≠ j) :
    t.calls i = s.calls i ∧ t.requestsOf i = s.requestsOf i := by
  cases hstep with
  | dispatch c' isRetry _ _ =>
    refine ⟨Function.update_of_ne hne .., ?_⟩
    rw [requestsOf_dispatch, if_neg hne.symm, List.append_nil]
  | join c' _ _ => exact ⟨Function.update_of_ne hne .., rfl⟩
  | terminal c' _ _ =>
    obtain ⟨hcalls, hsent⟩ := @terminal_calls s j c'
    rw [hcalls, Function.update_of_ne hne]
    exact ⟨rfl, requestsOf_of_sent hsent⟩
  | settle c' result _ _ => exact ⟨Function.update_of_ne hne .., rfl⟩
  | go c' x status _ _ => exact ⟨Function.update_of_ne hne .., rfl⟩

theorem CallStep.moves (hstep : CallStep s i t) : s.g.Moves t.g := by
  cases hstep with
  | dispatch c' isRetry _ _ => exact .refl
  | join c' _ _ => exact moves_tryRefresh s.g
  | terminal c' _ _ => exact moves_terminal s i c'
  | settle c' result _ _ => exact .refl
  | go c' x status _ _ => exact .refl

theorem step_moves (h : step s a = some t) : s.g.Moves t.g := by
  rcases step_cases h with ⟨i, hcall⟩ | hquiet
  · exact hcall.moves
  · exact hquiet.moves

theorem epoch_le_of_step (h : Isolated s) (hstep : step s a = some t) : s.g.epoch ≤ t.g.epoch :=
  (extends_moves h.globals (step_moves hstep)).epoch

theorem dead_step (h : Isolated s ∧ Dead i c requests s) (hstep : step s a = some t) :
    Isolated t ∧ Dead i c requests t := by
  obtain ⟨hiso, hdead⟩ := h
  have hpast : c.capturedEpoch < t.g.epoch :=
    hdead.past.trans_le (epoch_le_of_step hiso hstep)
  refine ⟨hiso.step s a t hstep, ?_⟩
  rcases step_cases hstep with ⟨j, hcall⟩ | hquiet
  · rcases eq_or_ne i j with rfl | hne
    · obtain ⟨x, rfl, hx⟩ := hcall.of_dead hdead.ended hdead.past
      refine ⟨?_, hdead.requests, hpast⟩
      rw [setCall_self]
      exact hx
    · obtain ⟨hcalls, hrequests⟩ := hcall.other hne
      exact ⟨hcalls ▸ hdead.ended, hrequests.trans hdead.requests, hpast⟩
  · exact ⟨hquiet.calls ▸ hdead.ended, (requestsOf_of_sent hquiet.sent).trans hdead.requests, hpast⟩

end

/-! ### A refresh after its session -/

/-- The refresh that an action is a step of. -/
def Action.refresh : Action → Option ℕ
  | .refreshFetched refresh _ => some refresh
  | .refreshBody refresh _ => some refresh
  | .release refresh => some refresh
  | _ => none

section
variable {s t u : State} {a : Action} {r : ℕ} {x : Refresh}

/-- The refresh belongs to an epoch that is over. -/
def DeadRefresh (r epoch : ℕ) (s : State) : Prop :=
  (∃ x, s.g.refreshes r = some x ∧ x.epoch = epoch) ∧ epoch < s.g.epoch

theorem deadRefresh_step {epoch : ℕ} (h : Isolated s ∧ DeadRefresh r epoch s) (hstep : step s a = some t) :
    Isolated t ∧ DeadRefresh r epoch t := by
  obtain ⟨hiso, ⟨x, hr, he⟩, hpast⟩ := h
  obtain ⟨x', hr', he'⟩ := (extends_moves hiso.globals (step_moves hstep)).refreshes r x hr
  exact ⟨hiso.step s a t hstep, ⟨x', hr', he'.trans he⟩, hpast.trans_le (epoch_le_of_step hiso hstep)⟩

/-- It neither takes a token nor empties the slot, which is not its own any more. -/
theorem keeps_of_deadRefresh (h : Isolated s) (hr : s.g.refreshes r = some x) (hpast : x.epoch ≠ s.g.epoch)
    (ha : a.refresh = some r) (hstep : step s a = some u) :
    u = { s with g := { s.g with refreshes := u.g.refreshes } } := by
  cases a with
  | refreshFetched refresh ok =>
    rw [step, State.refreshFetched] at hstep
    split at hstep
    · cases hstep
      rfl
    · cases hstep
  | refreshBody refresh accessToken =>
    cases ha
    rw [step, State.refreshBody] at hstep
    split at hstep
    · next epoch hread =>
      cases hr.symm.trans hread
      rw [Globals.take, if_pos (Ne.symm hpast)] at hstep
      cases hstep
      rfl
    · cases hstep
  | release refresh =>
    cases ha
    rw [step, State.release] at hstep
    split at hstep
    · next epoch ok hsettled =>
      cases hr.symm.trans hsettled
      have hslot : s.g.refreshInFlight ≠ some r := by
        intro hslot
        obtain ⟨y, hy, he⟩ := h.globals.slot r hslot
        cases hr.symm.trans hy
        exact hpast he
      rw [Globals.release, if_neg hslot] at hstep
      cases hstep
      rfl
    · cases hstep
  | _ => cases ha

end

/-! ### The main results -/

section
variable {s t : State} {as bs : List Action} {i : ℕ} {c : Context}

/-- CORRECT: the token in the store is one of the current session, and every request that has ever left was
    sent with a token of the session its call belongs to, or with none. -/
theorem bearer_of_own_session (h : run step start as = some s) :
    (∀ t, s.g.accessToken = some t → t.session = s.g.epoch) ∧
      ∀ q ∈ s.sent, ∀ t, q.bearer = some t → t.session = q.capturedEpoch :=
  ⟨(isolated_of_run h).globals.token, (isolated_of_run h).bearers⟩

def authed : Options := ⟨true, false, false, none⟩

/-- A merchant signs in and calls; before the refused call has its new token, another one signs in. -/
def overtaken : List Action :=
  [.setSession "token-1" ⟨"Salon", "LIVE"⟩, .cleared 0 true, .commit 0, .apiFetch 0 authed, .fetched 0 (.status 401),
    .refreshFetched 0 (some true), .setSession "token-2" ⟨"Cafe", "LIVE"⟩, .cleared 1 true, .commit 1,
    .apiFetch 1 authed]

theorem bearer_of_own_session_overtaken : ∃ s, run step start overtaken = some s ∧ s.sent.length = 2 ∧
    ∀ q ∈ s.sent, ∀ t, q.bearer = some t → t.session = q.capturedEpoch := by
  have h : run step start overtaken = some _ := rfl
  exact ⟨_, h, rfl, (bearer_of_own_session h).2⟩

/-- CORRECT: a call sends at most two requests, the second as the retry of the first, both for the epoch of its
    start. -/
theorem at_most_two_requests (h : run step start as = some s) (i : ℕ) :
    s.attempts i = [] ∨ ∃ epoch, s.attempts i = [(epoch, false)] ∨ s.attempts i = [(epoch, false), (epoch, true)] := by
  have hi := (isolated_of_run h).calls i
  cases hc : (s.calls i).pending with
  | some c => exact .inr ⟨c.capturedEpoch, (hi.begun hc).attempts⟩
  | none =>
    cases hx : s.calls i with
    | idle =>
      rw [hx] at hi
      exact .inl hi
    | settled c result =>
      rw [hx, CallOk] at hi
      exact .inr ⟨c.capturedEpoch, hi.attempts⟩
    | _ =>
      rw [hx] at hc
      cases hc

theorem at_most_two_requests_overtaken : ∃ s, run step start overtaken = some s ∧
    (s.attempts 1 = [] ∨ ∃ epoch, s.attempts 1 = [(epoch, false)] ∨ s.attempts 1 = [(epoch, false), (epoch, true)]) := by
  have h : run step start overtaken = some _ := rfl
  exact ⟨_, h, at_most_two_requests h 1⟩

/-- CORRECT: of the refreshes of one session at most one is under way, and a call waits only for one of its own. -/
theorem one_refresh_per_session (h : run step start as = some s) :
    (∀ r r' x x', s.g.refreshes r = some x → s.g.refreshes r' = some x' → x.epoch = x'.epoch → ¬ x.Released →
      ¬ x'.Released → r = r') ∧
    ∀ i c r, s.calls i = .refreshing c r → ∃ x, s.g.refreshes r = some x ∧ x.epoch = c.capturedEpoch := by
  have hiso := isolated_of_run h
  refine ⟨hiso.globals.single, fun i c r hc => ?_⟩
  have hi := hiso.calls i
  rw [hc, CallOk] at hi
  exact hi.2.2

theorem one_refresh_per_session_overtaken : ∃ s, run step start overtaken = some s ∧
    ∃ x, s.g.refreshes 0 = some x ∧ x.epoch = 1 := by
  have h : run step start overtaken = some _ := rfl
  exact ⟨_, h, (one_refresh_per_session h).2 0 ⟨authed, 1⟩ 0 rfl⟩

/-- CORRECT: once a boundary has passed, a call that was under way sends nothing more, whatever happens; it ends
    with nothing of a body, and its own steps change nothing but itself. -/
theorem call_after_boundary (h : run step start as = some s) (hc : (s.calls i).pending = some c)
    (hpast : c.capturedEpoch ≠ s.g.epoch) (hrun : run step s bs = some t) :
    Over c (t.calls i) ∧ t.requestsOf i = s.requestsOf i ∧
      ∀ a u, a.call = some i → step t a = some u → u = t.setCall i (u.calls i) := by
  have hiso := isolated_of_run h
  have hle := ((hiso.calls i).begun hc).past
  have hdead : Isolated s ∧ Dead i c (s.requestsOf i) s := ⟨hiso, .inl hc, rfl, lt_of_le_of_ne hle hpast⟩
  obtain ⟨-, hend⟩ := run_invariant (fun s a t h hstep => dead_step h hstep) hdead hrun
  refine ⟨hend.ended, hend.requests, fun a u ha hu => ?_⟩
  obtain ⟨x, rfl, -⟩ := (callStep_of_call ha hu).of_dead hend.ended hend.past
  rw [setCall_self]

theorem call_after_boundary_overtaken : ∃ s t, run step start overtaken = some s ∧
    run step s [.refreshBody 0 (some "late"), .release 0, .refreshed 0] = some t ∧
      Over ⟨authed, 1⟩ (t.calls 0) ∧ t.requestsOf 0 = s.requestsOf 0 := by
  have h : run step start overtaken = some _ := rfl
  obtain ⟨hover, hrequests, -⟩ := call_after_boundary (i := 0) (c := ⟨authed, 1⟩) h rfl nofun
    (show run step _ [.refreshBody 0 (some "late"), .release 0, .refreshed 0] = some _ from rfl)
  exact ⟨_, _, h, rfl, hover, hrequests⟩

end

end Redeemo.MerchantWeb.Transport
