import Mathlib.Logic.Relation
import Redeemo.MerchantWeb.Transport

/-! What a step of the merchant portal does: to the variables (`Globals.Move`), and to the call that makes it
    (`CallStep`). `Globals.Ok` is what holds of the variables at every moment. -/

namespace Redeemo.MerchantWeb.Transport
open Runs Relation

/-! ### What is done to the variables -/

def Refresh.Released (x : Refresh) : Prop := ∃ ok, x.stage = .released ok

/-- One thing that a step does to the variables. -/
inductive Globals.Move (g : Globals) : Globals → Prop
  | start : g.refreshInFlight = none → Move g g.tryRefresh.1
  | token (t : Option Token) : (∀ x, t = some x → x.session = g.epoch) → Move g (g.setAccessToken t)
  | reset : Move g g.reset
  | advance (r : ℕ) (x : Refresh) (stage : Stage) : g.refreshes r = some x → ¬ x.Released →
      ¬ Refresh.Released { x with stage := stage } → Move g (g.setStage r x stage)
  | release (r : ℕ) (x : Refresh) (ok : Bool) : g.refreshes r = some x → Move g (g.release r x ok)
  | fire : g.accessToken = none → Move g { g with sessionLostFired := true }
  | handler (registered : Bool) : Move g { g with onSessionLost := registered }

abbrev Globals.Moves : Globals → Globals → Prop := ReflTransGen Globals.Move

/-- What holds of the variables at every moment. -/
structure Globals.Ok (g : Globals) : Prop where
  /-- The token is one of the current epoch. -/
  token : ∀ t, g.accessToken = some t → t.session = g.epoch
  latch : (truthy g.accessToken).isSome → g.sessionLostFired = false
  fresh : ∀ r, g.issued ≤ r → g.refreshes r = none
  past : ∀ r x, g.refreshes r = some x → x.epoch ≤ g.epoch
  slot : ∀ r, g.refreshInFlight = some r → ∃ x, g.refreshes r = some x ∧ x.epoch = g.epoch
  /-- A refresh of the current epoch that is not released has the slot. -/
  held : ∀ r x, g.refreshes r = some x → x.epoch = g.epoch → ¬ x.Released → g.refreshInFlight = some r
  /-- Of no epoch are there two. -/
  single : ∀ r r' x x', g.refreshes r = some x → g.refreshes r' = some x' → x.epoch = x'.epoch →
    ¬ x.Released → ¬ x'.Released → r = r'

theorem ok_start : start.g.Ok where
  token := by simp [start]
  latch := by simp [start, truthy]
  fresh := by simp [start]
  past := by simp [start]
  slot := by simp [start]
  held := by simp [start]
  single := by simp [start]

section
variable {g g' : Globals} {r r' : ℕ} {x y : Refresh} {stage : Stage} {ok : Bool}

@[simp] theorem epoch_reset : g.reset.epoch = g.epoch + 1 := rfl

theorem tryRefresh_some (h : g.refreshInFlight = some r) : g.tryRefresh = (g, r) := by
  rw [Globals.tryRefresh, h]

theorem tryRefresh_none (h : g.refreshInFlight = none) : g.tryRefresh =
    ({ g with
        refreshes := Function.update g.refreshes g.issued (some ⟨g.epoch, .fetching⟩)
        issued := g.issued + 1
        refreshInFlight := some g.issued }, g.issued) := by
  rw [Globals.tryRefresh, h]

theorem epoch_tryRefresh : g.tryRefresh.1.epoch = g.epoch := by
  cases h : g.refreshInFlight with
  | none => rw [tryRefresh_none h]
  | some r => rw [tryRefresh_some h]

theorem setStage_self : (g.setStage r x stage).refreshes r = some { x with stage := stage } :=
  Function.update_self ..

theorem setStage_of_ne (h : r' ≠ r) : (g.setStage r x stage).refreshes r' = g.refreshes r' :=
  Function.update_of_ne h ..

theorem latch_tryRefresh : g.tryRefresh.1.sessionLostFired = g.sessionLostFired := by
  cases h : g.refreshInFlight with
  | none => rw [tryRefresh_none h]
  | some r => rw [tryRefresh_some h]

/-- A refresh that is another one, or the one whose stage was set. -/
theorem setStage_cases (h : (g.setStage r x stage).refreshes r' = some y) :
    r' = r ∧ y = { x with stage := stage } ∨ r' ≠ r ∧ g.refreshes r' = some y := by
  rcases eq_or_ne r' r with rfl | hne
  · rw [setStage_self] at h
    exact .inl ⟨rfl, (Option.some.inj h).symm⟩
  · rw [setStage_of_ne hne] at h
    exact .inr ⟨hne, h⟩

theorem Globals.Ok.token' (h : g.Ok) (t : Option Token) (ht : ∀ x, t = some x → x.session = g.epoch) :
    (g.setAccessToken t).Ok where
  token := ht
  latch := by
    intro hsome
    rw [Globals.setAccessToken] at hsome ⊢
    exact if_pos hsome
  fresh := h.fresh
  past := h.past
  slot := h.slot
  held := h.held
  single := h.single

theorem Globals.Ok.reset (h : g.Ok) : g.reset.Ok where
  token := by simp [Globals.reset, Globals.setAccessToken]
  latch := by simp [Globals.reset, Globals.setAccessToken, truthy]
  fresh := h.fresh
  past r x hr := Nat.le_succ_of_le (h.past r x hr)
  slot := by simp [Globals.reset]
  held r x hr he _ := by
    have hle := h.past r x hr
    rw [he, epoch_reset] at hle
    omega
  single := h.single

/-- The slot was empty: nothing of the epoch is under way. -/
theorem Globals.Ok.start (h : g.Ok) (hslot : g.refreshInFlight = none) : g.tryRefresh.1.Ok := by
  rw [tryRefresh_none hslot]
  have hnone : ∀ r x, g.refreshes r = some x → x.epoch = g.epoch → x.Released := by
    intro r x hr he
    by_contra hreleased
    have hheld := h.held r x hr he hreleased
    rw [hslot] at hheld
    cases hheld
  have hcases : ∀ r x, Function.update g.refreshes g.issued (some ⟨g.epoch, .fetching⟩) r = some x →
      r = g.issued ∧ x = ⟨g.epoch, .fetching⟩ ∨ g.refreshes r = some x := by
    intro r x hr
    rcases eq_or_ne r g.issued with rfl | hne
    · rw [Function.update_self] at hr
      exact .inl ⟨rfl, (Option.some.inj hr).symm⟩
    · rw [Function.update_of_ne hne] at hr
      exact .inr hr
  refine ⟨h.token, h.latch, fun r hle => ?_, fun r x hr => ?_, fun r hr => ?_, fun r x hr he hx => ?_,
    fun r r' x x' hr hr' he hx hx' => ?_⟩
  · dsimp only at hle ⊢
    rw [Function.update_of_ne (by omega)]
    exact h.fresh r (by omega)
  · rcases hcases r x hr with ⟨-, rfl⟩ | hr
    · exact le_rfl
    · exact h.past r x hr
  · cases hr
    exact ⟨_, Function.update_self .., rfl⟩
  · rcases hcases r x hr with ⟨rfl, -⟩ | hr
    · rfl
    · exact absurd (hnone r x hr he) hx
  · rcases hcases r x hr with ⟨rfl, rfl⟩ | hr <;> rcases hcases r' x' hr' with ⟨rfl, rfl⟩ | hr'
    · rfl
    · exact absurd (hnone r' x' hr' he.symm) hx'
    · exact absurd (hnone r x hr he) hx
    · exact h.single r r' x x' hr hr' he hx hx'

/-- A stage that is set releases nothing anew, or the refresh leaves the slot with it. -/
theorem Globals.Ok.setStage (h : g.Ok) (hr : g.refreshes r = some x)
    (hstage : x.Released → Refresh.Released { x with stage := stage }) : (g.setStage r x stage).Ok where
  token := h.token
  latch := h.latch
  fresh r' hle := by
    have hne : r' ≠ r := by
      rintro rfl
      rw [h.fresh r' hle] at hr
      cases hr
    rw [setStage_of_ne hne]
    exact h.fresh r' hle
  past r' y hy := by
    rcases setStage_cases hy with ⟨rfl, rfl⟩ | ⟨-, hy⟩
    · exact h.past r' x hr
    · exact h.past r' y hy
  slot r' hr' := by
    obtain ⟨y, hy, he⟩ := h.slot r' hr'
    rcases eq_or_ne r' r with rfl | hne
    · cases hr.symm.trans hy
      exact ⟨_, setStage_self, he⟩
    · refine ⟨y, ?_, he⟩
      rw [setStage_of_ne hne]
      exact hy
  held r' y hy he hreleased := by
    rcases setStage_cases hy with ⟨rfl, rfl⟩ | ⟨-, hy⟩
    · exact h.held r' x hr he fun hx => hreleased (hstage hx)
    · exact h.held r' y hy he hreleased
  single r₁ r₂ y₁ y₂ h₁ h₂ he hy₁ hy₂ := by
    rcases setStage_cases h₁ with ⟨rfl, rfl⟩ | ⟨-, h₁'⟩ <;> rcases setStage_cases h₂ with ⟨rfl, rfl⟩ | ⟨-, h₂'⟩
    · rfl
    · exact h.single _ r₂ x y₂ hr h₂' he (fun hx => hy₁ (hstage hx)) hy₂
    · exact h.single r₁ _ y₁ x h₁' hr he hy₁ fun hx => hy₂ (hstage hx)
    · exact h.single r₁ r₂ y₁ y₂ h₁' h₂' he hy₁ hy₂

theorem Globals.Ok.release (h : g.Ok) (hr : g.refreshes r = some x) : (g.release r x ok).Ok := by
  have hset : (g.setStage r x (.released ok)).Ok := h.setStage hr fun _ => ⟨ok, rfl⟩
  refine ⟨hset.token, hset.latch, hset.fresh, hset.past, fun r' hr' => ?_, fun r' y hy he hreleased => ?_, hset.single⟩
  · refine hset.slot r' ?_
    rw [Globals.release] at hr'
    dsimp only at hr'
    split_ifs at hr' with hown
    exact hr'
  · have hheld : g.refreshInFlight = some r' := hset.held r' y hy he hreleased
    rw [Globals.release]
    dsimp only
    rw [if_neg, hheld]
    intro hown
    cases hheld.symm.trans hown
    rcases setStage_cases hy with ⟨-, rfl⟩ | ⟨hne, -⟩
    · exact hreleased ⟨ok, rfl⟩
    · exact hne rfl

theorem Globals.Ok.move (h : g.Ok) (hm : g.Move g') : g'.Ok := by
  cases hm with
  | start hslot => exact h.start hslot
  | token t ht => exact h.token' t ht
  | reset => exact h.reset
  | advance r x stage hr hx _ => exact h.setStage hr fun hreleased => absurd hreleased hx
  | release r x ok hr => exact h.release hr
  | fire hnone =>
    refine ⟨h.token, fun hsome => ?_, h.fresh, h.past, h.slot, h.held, h.single⟩
    rw [hnone] at hsome
    cases hsome
  | handler registered => exact ⟨h.token, h.latch, h.fresh, h.past, h.slot, h.held, h.single⟩

theorem Globals.Ok.moves (h : g.Ok) (hm : g.Moves g') : g'.Ok := by
  induction hm with
  | refl => exact h
  | tail _ hm ih => exact ih.move hm

/-- The epoch only grows, and a refresh stays in its epoch. -/
structure Globals.Extends (g g' : Globals) : Prop where
  epoch : g.epoch ≤ g'.epoch
  refreshes : ∀ r x, g.refreshes r = some x → ∃ x', g'.refreshes r = some x' ∧ x'.epoch = x.epoch

theorem extends_setStage (hr : g.refreshes r = some x) : g.Extends (g.setStage r x stage) where
  epoch := le_rfl
  refreshes r' y hy := by
    rcases eq_or_ne r' r with rfl | hne
    · cases hr.symm.trans hy
      exact ⟨_, setStage_self, rfl⟩
    · refine ⟨y, ?_, rfl⟩
      rw [setStage_of_ne hne]
      exact hy

theorem extends_move (h : g.Ok) (hm : g.Move g') : g.Extends g' := by
  cases hm with
  | start hslot =>
    refine ⟨epoch_tryRefresh.ge, fun r x hr => ⟨x, ?_, rfl⟩⟩
    rw [tryRefresh_none hslot]
    dsimp only
    rw [Function.update_of_ne, hr]
    rintro rfl
    rw [h.fresh _ le_rfl] at hr
    cases hr
  | token t ht => exact ⟨le_rfl, fun r x hr => ⟨x, hr, rfl⟩⟩
  | reset => exact ⟨Nat.le_succ _, fun r x hr => ⟨x, hr, rfl⟩⟩
  | advance r x stage hr _ _ => exact extends_setStage hr
  | release r x ok hr => exact ⟨le_rfl, (extends_setStage hr).refreshes⟩
  | fire _ => exact ⟨le_rfl, fun r x hr => ⟨x, hr, rfl⟩⟩
  | handler registered => exact ⟨le_rfl, fun r x hr => ⟨x, hr, rfl⟩⟩

theorem extends_moves (h : g.Ok) (hm : g.Moves g') : g.Extends g' := by
  induction hm with
  | refl => exact ⟨le_rfl, fun r x hr => ⟨x, hr, rfl⟩⟩
  | tail hms hm ih =>
    have hlast := extends_move (h.moves hms) hm
    refine ⟨ih.epoch.trans hlast.epoch, fun r x hr => ?_⟩
    obtain ⟨x', hr', he⟩ := ih.refreshes r x hr
    obtain ⟨x'', hr'', he'⟩ := hlast.refreshes r x' hr'
    exact ⟨x'', hr'', he'.trans he⟩

end

/-! ### What a step does to the call that makes it -/

/-- The context of a call that is under way. -/
def Call.pending : Call → Option Context
  | .idle => none
  | .requested c _ => some c
  | .refreshing c _ => some c
  | .failing c _ => some c
  | .accepted c _ => some c
  | .reading c _ => some c
  | .settled _ _ => none

/-- What a call may end with after its session: nothing of a body, and of the server's answers only a 204. -/
def Result.OfNoSession (x : Result) : Prop :=
  x = .thrown .SESSION_SWITCHED ∨ x = .thrown .rejection ∨ x = .data none

/-- One step of a call. Only the last two may be taken after a boundary. -/
inductive CallStep (s : State) (i : ℕ) : State → Prop
  | dispatch (c : Context) (isRetry : Bool) : c.capturedEpoch = s.g.epoch →
      (s.calls i = .idle ∧ isRetry = false ∨ ∃ r, s.calls i = .refreshing c r ∧ isRetry = true) →
      CallStep s i (s.dispatch i c isRetry)
  | join (c : Context) : c.capturedEpoch = s.g.epoch → s.calls i = .requested c false →
      CallStep s i ({ s with g := s.g.tryRefresh.1 }.setCall i (.refreshing c s.g.tryRefresh.2))
  | terminal (c : Context) : c.capturedEpoch = s.g.epoch →
      (s.calls i = .requested c true ∨ ∃ r, s.calls i = .refreshing c r) → CallStep s i (s.terminal i c)
  | settle (c : Context) (result : Result) : (s.calls i).pending = some c →
      (c.capturedEpoch = s.g.epoch ∨ result.OfNoSession) → CallStep s i (s.setCall i (.settled c result))
  | go (c : Context) (x : Call) (status : ℕ) : (s.calls i).pending = some c →
      (x = .failing c status ∨ x = .accepted c status ∨ x = .reading c status) → CallStep s i (s.setCall i x)

section
variable {s t : State} {a : Action} {i : ℕ} {c : Context} {outcome : Fetched} {b : Option String}

theorem current (h : ¬ s.stale c) : c.capturedEpoch = s.g.epoch := (not_not.mp h).symm

/-- `assertEpoch`, and the call ends with what follows. -/
theorem callStep_throwing {e : Failure} (h : (s.calls i).pending = some c) :
    CallStep s i (s.throwing i c (if s.stale c then .SESSION_SWITCHED else e)) := by
  refine .settle c _ h ?_
  split_ifs with hstale
  · exact .inr (.inl rfl)
  · exact .inl (current hstale)

theorem callStep_switched (h : (s.calls i).pending = some c) :
    CallStep s i (s.throwing i c .SESSION_SWITCHED) := .settle c _ h (.inr (.inl rfl))

theorem apiFetch_cases {options : Options} (h : s.apiFetch i options = some t) : CallStep s i t := by
  rw [State.apiFetch] at h
  split at h
  · next hidle =>
    cases h
    exact .dispatch ⟨options, s.g.epoch⟩ false rfl (.inl ⟨hidle, rfl⟩)
  · cases h

theorem answered_cases {status : ℕ} (h : (s.calls i).pending = some c) : CallStep s i (s.answered i c status) := by
  rw [State.answered]
  split_ifs
  · exact callStep_switched h
  · exact .go c _ status h (.inr (.inl rfl))
  · exact .go c _ status h (.inl rfl)

theorem unauthorised_cases {isRetry : Bool} (h : s.calls i = .requested c isRetry) :
    CallStep s i (s.unauthorised i c isRetry) := by
  have hpending : (s.calls i).pending = some c := by
    rw [h]
    rfl
  rw [State.unauthorised]
  split_ifs with hstale hretry
  · exact callStep_switched hpending
  · rw [hretry] at h
    exact .terminal c (current hstale) (.inl h)
  · rw [Bool.not_eq_true] at hretry
    rw [hretry] at h
    exact .join c (current hstale) h

theorem fetched_cases (h : s.fetched i outcome = some t) : CallStep s i t := by
  rw [State.fetched] at h
  split at h
  · next c isRetry hc =>
    have hpending : (s.calls i).pending = some c := by
      rw [hc]
      rfl
    split at h
    · split at h
      · cases h
      · cases h
        exact callStep_throwing hpending
    · cases h
      exact .settle c _ hpending (.inr (.inr (.inl rfl)))
    · cases h
      split_ifs
      · exact unauthorised_cases hc
      · exact answered_cases hpending
  · cases h

theorem refreshed_cases (h : s.refreshed i = some t) : CallStep s i t := by
  rw [State.refreshed] at h
  split at h
  · next c r hc =>
    have hpending : (s.calls i).pending = some c := by
      rw [hc]
      rfl
    split at h
    · cases h
      split_ifs with hstale
      · exact callStep_switched hpending
      · exact .dispatch c true (current hstale) (.inr ⟨r, hc, rfl⟩)
      · exact .terminal c (current hstale) (.inr ⟨r, hc⟩)
    · cases h
  · cases h

theorem errorBody_cases (h : s.errorBody i b = some t) : CallStep s i t := by
  rw [State.errorBody] at h
  split at h
  · next c status hc =>
    cases h
    refine callStep_throwing ?_
    rw [hc]
    rfl
  · cases h

theorem returned_cases (h : s.returned i = some t) : CallStep s i t := by
  rw [State.returned] at h
  split at h
  · next c status hc =>
    have hpending : (s.calls i).pending = some c := by
      rw [hc]
      rfl
    cases h
    split_ifs with _ hstale
    · exact callStep_switched hpending
    · exact .settle c _ hpending (.inl (current hstale))
    · exact .settle c _ hpending (.inr (.inr (.inr rfl)))
    · exact .go c _ status hpending (.inr (.inr rfl))
  · cases h

theorem body_cases (h : s.body i b = some t) : CallStep s i t := by
  rw [State.body] at h
  split at h
  · next c status hc =>
    have hpending : (s.calls i).pending = some c := by
      rw [hc]
      rfl
    cases h
    by_cases hstale : s.stale c
    · rw [if_pos hstale]
      exact callStep_switched hpending
    · rw [if_neg hstale]
      cases b with
      | none => exact .settle c _ hpending (.inl (current hstale))
      | some b => exact .settle c _ hpending (.inl (current hstale))
  · cases h

/-! ### What the other steps do to the variables -/

/-- The latch of the hard logout stays down, unless a token comes in. -/
def Latched (g g' : Globals) : Prop :=
  g.sessionLostFired = true → g'.sessionLostFired = true ∨ (truthy g'.accessToken).isSome

theorem latched_of_eq {g g' : Globals} (h : g'.sessionLostFired = g.sessionLostFired) : Latched g g' :=
  fun hfired => .inl (h.trans hfired)

theorem latched_setAccessToken (g : Globals) (t : Option Token) : Latched g (g.setAccessToken t) := by
  intro hfired
  by_cases ht : (truthy t).isSome
  · exact .inr ht
  · rw [Globals.setAccessToken]
    exact .inl ((if_neg ht).trans hfired)

/-- No call moves, and no request leaves. -/
structure Quiet (s t : State) : Prop where
  calls : t.calls = s.calls
  sent : t.sent = s.sent
  moves : s.g.Moves t.g
  latched : Latched s.g t.g

theorem moves_tryRefresh (g : Globals) : g.Moves g.tryRefresh.1 := by
  cases h : g.refreshInFlight with
  | none => exact .single (.start h)
  | some r =>
    rw [tryRefresh_some h]

theorem moves_sessionLost (s : State) (i : ℕ) : s.g.Moves (s.sessionLost i).g := by
  rw [State.sessionLost]
  split
  · exact .refl
  · exact .single .reset

/-- A terminal 401 forgets the token, and may be a boundary. -/
theorem moves_terminal (s : State) (i : ℕ) (c : Context) : s.g.Moves (s.terminal i c).g := by
  have hforget : s.g.Moves (s.g.setAccessToken none) := .single (.token none (by simp))
  have hfire : (s.g.setAccessToken none).Moves { s.g.setAccessToken none with sessionLostFired := true } :=
    .single (.fire rfl)
  refine hforget.trans ?_
  rw [State.terminal, State.triggerSessionLost]
  split_ifs
  · exact .refl
  · exact hfire.trans (moves_sessionLost { s with g := { s.g.setAccessToken none with sessionLostFired := true } } i)
  · exact hfire

theorem sessionLost_calls : (s.sessionLost i).calls = s.calls ∧ (s.sessionLost i).sent = s.sent := by
  rw [State.sessionLost]
  split <;> exact ⟨rfl, rfl⟩

theorem terminal_calls : (s.terminal i c).calls = Function.update s.calls i (.failing c 401) ∧
    (s.terminal i c).sent = s.sent := by
  rw [State.terminal, State.triggerSessionLost, State.setCall]
  split_ifs
  · exact ⟨rfl, rfl⟩
  · obtain ⟨hcalls, hsent⟩ :=
      @sessionLost_calls { s with g := { s.g.setAccessToken none with sessionLostFired := true } } i
    exact ⟨congrArg (Function.update · i (Call.failing c 401)) hcalls, hsent⟩
  · exact ⟨rfl, rfl⟩

theorem refreshFetched_quiet {r : ℕ} {ok : Option Bool} (h : s.refreshFetched r ok = some t) : Quiet s t := by
  rw [State.refreshFetched] at h
  split at h
  · next epoch hr =>
    cases h
    refine ⟨rfl, rfl, .single (.advance r _ _ hr nofun ?_), latched_of_eq rfl⟩
    split_ifs <;> nofun
  · cases h

theorem take_cases {g : Globals} {r epoch : ℕ} (hr : g.refreshes r = some ⟨epoch, .reading⟩) :
    g.Moves (g.take r epoch b) ∧ Latched g (g.take r epoch b) := by
  have hfailed : g.Moves (g.setStage r ⟨epoch, .reading⟩ (.settled false)) ∧
      Latched g (g.setStage r ⟨epoch, .reading⟩ (.settled false)) :=
    ⟨.single (.advance r _ _ hr nofun nofun), latched_of_eq rfl⟩
  rw [Globals.take]
  split_ifs with hepoch
  · exact hfailed
  · split
    · next x hx =>
      have hsession : x.session = g.epoch := by
        rw [truthy, Option.filter_eq_some_iff] at hx
        obtain ⟨text, -, rfl⟩ := Option.map_eq_some_iff.mp hx.1
        exact (not_not.mp hepoch).symm
      exact ⟨.tail (.single (.token (some x) (by simpa using hsession))) (.advance r _ _ hr nofun nofun),
        latched_setAccessToken g (some x)⟩
    · exact hfailed

theorem refreshBody_quiet {r : ℕ} (h : s.refreshBody r b = some t) : Quiet s t := by
  rw [State.refreshBody] at h
  split at h
  · next epoch hr =>
    cases h
    exact ⟨rfl, rfl, (take_cases hr).1, (take_cases hr).2⟩
  · cases h

theorem release_quiet {r : ℕ} (h : s.release r = some t) : Quiet s t := by
  rw [State.release] at h
  split at h
  · next epoch ok hr =>
    cases h
    exact ⟨rfl, rfl, .single (.release r _ ok hr), latched_of_eq rfl⟩
  · cases h

theorem refreshSession_quiet {w : ℕ} (h : s.refreshSession w = some t) : Quiet s t := by
  rw [State.refreshSession] at h
  split at h
  · cases h
    exact ⟨rfl, rfl, moves_tryRefresh s.g, latched_of_eq latch_tryRefresh⟩
  · cases h

theorem refreshDone_quiet {w : ℕ} (h : s.refreshDone w = some t) : Quiet s t := by
  rw [State.refreshDone] at h
  split at h
  · split at h
    · cases h
      exact ⟨rfl, rfl, .refl, latched_of_eq rfl⟩
    · cases h
  · cases h

theorem cleared_quiet {n : ℕ} {ok : Bool} (h : s.cleared n ok = some t) : Quiet s t := by
  rw [State.cleared] at h
  split at h
  · cases h
    exact ⟨rfl, rfl, .refl, latched_of_eq rfl⟩
  · cases h
    exact ⟨rfl, rfl, .refl, latched_of_eq rfl⟩
  · cases h

theorem clearSession_moves (s : State) : s.g.Moves s.clearSession.g := .single (.token none (by simp))

theorem commit_quiet {n : ℕ} (h : s.commit n = some t) : Quiet s t := by
  rw [State.commit] at h
  split at h
  · next accessToken merchant generation ok hn =>
    cases h
    split_ifs with hepoch
    · exact ⟨rfl, rfl, .refl, latched_of_eq rfl⟩
    · have hsession : generation = s.g.epoch := (not_not.mp hepoch).symm
      exact ⟨rfl, rfl, .single (.token _ (by simpa using hsession)), latched_setAccessToken s.g _⟩
  · cases h
    split_ifs
    · exact ⟨rfl, rfl, .refl, latched_of_eq rfl⟩
    · exact ⟨rfl, rfl, clearSession_moves s, latched_setAccessToken s.g none⟩
  · cases h

theorem finish_quiet (h : s.finish i = some t) : Quiet s t := by
  rw [State.finish] at h
  split at h
  · split at h
    · cases h
      split_ifs
      · exact ⟨rfl, rfl, .refl, latched_of_eq rfl⟩
      · exact ⟨rfl, rfl, clearSession_moves s, latched_setAccessToken s.g none⟩
    · cases h
  · cases h

/-- A step is one of a call, or it leaves the calls alone. -/
theorem step_cases (h : step s a = some t) : (∃ i, CallStep s i t) ∨ Quiet s t := by
  cases a with
  | apiFetch call options => exact .inl ⟨call, apiFetch_cases h⟩
  | fetched call outcome => exact .inl ⟨call, fetched_cases h⟩
  | refreshed call => exact .inl ⟨call, refreshed_cases h⟩
  | errorBody call body => exact .inl ⟨call, errorBody_cases h⟩
  | returned call => exact .inl ⟨call, returned_cases h⟩
  | body call body => exact .inl ⟨call, body_cases h⟩
  | refreshFetched refresh ok => exact .inr (refreshFetched_quiet h)
  | refreshBody refresh accessToken => exact .inr (refreshBody_quiet h)
  | release refresh => exact .inr (release_quiet h)
  | refreshSession waiter => exact .inr (refreshSession_quiet h)
  | refreshDone waiter => exact .inr (refreshDone_quiet h)
  | setSession accessToken merchant =>
    cases h
    exact .inr ⟨rfl, rfl, .single .reset, latched_of_eq rfl⟩
  | signOut =>
    cases h
    exact .inr ⟨rfl, rfl, .single .reset, latched_of_eq rfl⟩
  | cleared transition ok => exact .inr (cleared_quiet h)
  | commit transition => exact .inr (commit_quiet h)
  | finish call => exact .inr (finish_quiet h)
  | setOnSessionLost registered =>
    cases h
    exact .inr ⟨rfl, rfl, .single (.handler registered), latched_of_eq rfl⟩

end

end Redeemo.MerchantWeb.Transport
