import Redeemo.MerchantWeb.SessionIsolation

/-! The transitions of the merchant portal's session, and its hard logout.

    A transition commits only while it is the last one, so what the provider shows is decided by the transition
    that was begun last, in whatever order they settle. The latch lets the hard logout through once, until a token
    comes in. -/

namespace Redeemo.MerchantWeb.Transport
open Runs

/-- The merchant that a transition leaves. -/
def Kind.merchant : Kind → Option Merchant
  | .setSession _ merchant => some merchant
  | .signOut _ => none
  | .hardLogout => none

/-- The transition has written what it leaves, or has seen that it may not. -/
def Committed (s : State) (n : ℕ) (x : Transition) : Prop :=
  x.progress = .done ∨ x.kind = .hardLogout ∧ ∃ call, s.finishes call = .done n

/-- The provider shows this transition's merchant, and no token of an older session. -/
structure Shows (s : State) (x : Transition) : Prop where
  merchant : s.merchant = x.kind.merchant
  tok : ∀ t, s.tok = some t → t.session = s.g.epoch

/-- As long as `clear()` does not throw: the transitions are numbered by their epochs, and the last one counts. -/
structure LastWins (s : State) : Prop where
  counted : s.g.epoch = s.begun
  fresh : ∀ n, s.begun ≤ n → s.transitions n = none
  generation : ∀ n x, s.transitions n = some x → x.generation = n + 1
  clean : ∀ n x, s.transitions n = some x → x.progress ≠ .cleared false
  done : ∀ i n, s.finishes i = .done n → n < s.begun
  kept : ∀ n x, s.transitions n = some x → n + 1 = s.begun → Committed s n x → Shows s x

/-- Nothing is shown that was not, and no transition gets on. -/
structure Still (s t : State) : Prop where
  epoch : t.g.epoch = s.g.epoch
  tok : t.tok = s.tok
  merchant : t.merchant = s.merchant
  transitions : t.transitions = s.transitions
  begun : t.begun = s.begun
  finishes : ∀ i n, t.finishes i = .done n → s.finishes i = .done n ∨ n + 1 < s.begun

theorem lastWins_start : LastWins start where
  counted := rfl
  fresh := by simp [start]
  generation := by simp [start]
  clean := by simp [start]
  done := by simp [start]
  kept := by simp [start]

section
variable {s t : State} {a : Action} {i n : ℕ} {c : Context} {x : Transition}

theorem LastWins.still (h : LastWins s) (hs : Still s t) : LastWins t where
  counted := by rw [hs.epoch, hs.begun, h.counted]
  fresh := by
    rw [hs.begun, hs.transitions]
    exact h.fresh
  generation := by
    rw [hs.transitions]
    exact h.generation
  clean := by
    rw [hs.transitions]
    exact h.clean
  done i n hi := by
    rw [hs.begun]
    rcases hs.finishes i n hi with hi | hlt
    · exact h.done i n hi
    · omega
  kept n x hn hlast hc := by
    rw [hs.transitions] at hn
    rw [hs.begun] at hlast
    have hshows : Shows s x := by
      refine h.kept n x hn hlast ?_
      rcases hc with hdone | ⟨hkind, call, hcall⟩
      · exact .inl hdone
      · exact .inr ⟨hkind, call, (hs.finishes call n hcall).resolve_right hlast.not_lt⟩
    exact ⟨hs.merchant.trans hshows.merchant, by rw [hs.tok, hs.epoch]; exact hshows.tok⟩

theorem transitions_boundary (s : State) (kind : Kind) : (s.boundary kind).transitions =
    Function.update s.transitions s.begun (some ⟨kind, s.g.epoch + 1, .cancelling⟩) := rfl

theorem transitions_setProgress (s : State) (n : ℕ) (x : Transition) (progress : Progress) :
    (s.setProgress n x progress).transitions =
      Function.update s.transitions n (some { x with progress := progress }) := rfl

/-- A boundary: nothing has been committed in the new epoch. -/
theorem LastWins.boundary (h : LastWins s) (kind : Kind) : LastWins (s.boundary kind) := by
  have hcases : ∀ n x, (s.boundary kind).transitions n = some x →
      n = s.begun ∧ x = ⟨kind, s.g.epoch + 1, .cancelling⟩ ∨ n < s.begun ∧ s.transitions n = some x := by
    intro n x hn
    rw [transitions_boundary] at hn
    rcases eq_or_ne n s.begun with rfl | hne
    · rw [Function.update_self] at hn
      exact .inl ⟨rfl, (Option.some.inj hn).symm⟩
    · rw [Function.update_of_ne hne] at hn
      refine .inr ⟨?_, hn⟩
      by_contra hge
      rw [h.fresh n (by omega)] at hn
      cases hn
  refine ⟨congrArg (· + 1) h.counted, fun n hle => ?_, fun n x hn => ?_, fun n x hn => ?_,
    fun i n hi => Nat.lt_succ_of_lt (h.done i n hi), fun n x hn hlast hc => ?_⟩
  · have hle' : s.begun + 1 ≤ n := hle
    rw [transitions_boundary, Function.update_of_ne (by omega)]
    exact h.fresh n (by omega)
  · rcases hcases n x hn with ⟨rfl, rfl⟩ | ⟨-, hn⟩
    · exact congrArg (· + 1) h.counted
    · exact h.generation n x hn
  · rcases hcases n x hn with ⟨rfl, rfl⟩ | ⟨-, hn⟩
    · nofun
    · exact h.clean n x hn
  · have hlast' : n + 1 = s.begun + 1 := hlast
    rcases hcases n x hn with ⟨rfl, rfl⟩ | ⟨hlt, -⟩
    · rcases hc with hdone | ⟨hkind, call, hcall⟩
      · cases hdone
      · exact absurd (h.done call _ hcall) (lt_irrefl _)
    · omega

/-- A transition gets on; if that commits it and it is the last one, what it leaves is shown. -/
theorem LastWins.progress (h : LastWins s) {progress : Progress} (hn : s.transitions n = some x)
    (hclean : progress ≠ .cleared false) (hshows : progress = .done → n + 1 = s.begun → Shows s x) :
    LastWins (s.setProgress n x progress) := by
  have hcases : ∀ n' x', (s.setProgress n x progress).transitions n' = some x' →
      n' = n ∧ x' = { x with progress := progress } ∨ n' ≠ n ∧ s.transitions n' = some x' := by
    intro n' x' hn'
    rw [transitions_setProgress] at hn'
    rcases eq_or_ne n' n with rfl | hne
    · rw [Function.update_self] at hn'
      exact .inl ⟨rfl, (Option.some.inj hn').symm⟩
    · rw [Function.update_of_ne hne] at hn'
      exact .inr ⟨hne, hn'⟩
  refine ⟨h.counted, fun n' hle => ?_, fun n' x' hn' => ?_, fun n' x' hn' => ?_, h.done, fun n' x' hn' hlast hc => ?_⟩
  · have hne : n' ≠ n := by
      rintro rfl
      rw [h.fresh n' hle] at hn
      cases hn
    rw [transitions_setProgress, Function.update_of_ne hne]
    exact h.fresh n' hle
  · rcases hcases n' x' hn' with ⟨rfl, rfl⟩ | ⟨-, hn'⟩
    · exact h.generation n' x hn
    · exact h.generation n' x' hn'
  · rcases hcases n' x' hn' with ⟨rfl, rfl⟩ | ⟨-, hn'⟩
    · exact hclean
    · exact h.clean n' x' hn'
  · rcases hcases n' x' hn' with ⟨rfl, rfl⟩ | ⟨-, hn'⟩
    · rcases hc with hdone | hfinished
      · exact ⟨(hshows hdone hlast).merchant, (hshows hdone hlast).tok⟩
      · have hold : Shows s x := h.kept n' x hn hlast (.inr hfinished)
        exact ⟨hold.merchant, hold.tok⟩
    · have hold : Shows s x' := h.kept n' x' hn' hlast hc
      exact ⟨hold.merchant, hold.tok⟩

/-- The last transition writes what it leaves. -/
theorem LastWins.write (h : LastWins s) (hn : s.transitions n = some x) (hlast : n + 1 = s.begun)
    (hepoch : t.g.epoch = s.g.epoch) (htransitions : t.transitions = s.transitions) (hbegun : t.begun = s.begun)
    (hdone : ∀ i n, t.finishes i = .done n → n < s.begun) (hshows : Shows t x) : LastWins t where
  counted := by rw [hepoch, hbegun, h.counted]
  fresh := by
    rw [hbegun, htransitions]
    exact h.fresh
  generation := by
    rw [htransitions]
    exact h.generation
  clean := by
    rw [htransitions]
    exact h.clean
  done := by
    rw [hbegun]
    exact hdone
  kept n' x' hn' hlast' _ := by
    obtain rfl : n' = n := by omega
    rw [htransitions, hn] at hn'
    cases hn'
    exact hshows

theorem LastWins.lt (h : LastWins s) (hn : s.transitions n = some x) : n < s.begun := by
  by_contra hge
  rw [h.fresh n (by omega)] at hn
  cases hn

/-- A transition is the last one exactly if the epoch is its generation. -/
theorem LastWins.last_iff (h : LastWins s) (hn : s.transitions n = some x) :
    s.g.epoch = x.generation ↔ n + 1 = s.begun := by
  rw [h.counted, h.generation n x hn]
  exact eq_comm

theorem LastWins.cleared_ok (h : LastWins s) {ok : Bool} (hn : s.transitions n = some x)
    (hx : x.progress = .cleared ok) : ok = true := by
  cases ok with
  | true => rfl
  | false => exact absurd hx (h.clean n x hn)

/-! ### What the steps do to what is shown -/

/-- The variables alone are changed, in the same epoch. -/
theorem still_globals {g : Globals} (h : g.epoch = s.g.epoch) : Still s { s with g := g } :=
  ⟨h, rfl, rfl, rfl, rfl, fun _ _ hi => .inl hi⟩

theorem still_setCall (s : State) (i : ℕ) (y : Call) : Still s (s.setCall i y) :=
  ⟨rfl, rfl, rfl, rfl, rfl, fun _ _ hi => .inl hi⟩

/-- A finish that waits is none that is done. -/
theorem still_waiting (s : State) (i n : ℕ) :
    Still s { s with finishes := Function.update s.finishes i (.waiting n) } where
  epoch := rfl
  tok := rfl
  merchant := rfl
  transitions := rfl
  begun := rfl
  finishes j m hj := by
    dsimp only at hj
    rcases eq_or_ne j i with rfl | hne
    · rw [Function.update_self] at hj
      cases hj
    · rw [Function.update_of_ne hne] at hj
      exact .inl hj

theorem LastWins.sessionLost (h : LastWins s) (i : ℕ) : LastWins (s.sessionLost i) := by
  rw [State.sessionLost]
  split
  · next n hn => exact h.still (still_waiting s i n)
  · have hnew := (h.boundary .hardLogout).still (still_waiting (s.boundary .hardLogout) i s.begun)
    exact hnew.still ⟨rfl, rfl, rfl, rfl, rfl, fun _ _ hi => .inl hi⟩

theorem LastWins.terminal (h : LastWins s) (i : ℕ) (c : Context) : LastWins (s.terminal i c) := by
  rw [State.terminal]
  refine .still ?_ (still_setCall _ i _)
  have hforget : LastWins { s with g := s.g.setAccessToken none } := h.still (still_globals rfl)
  rw [State.triggerSessionLost]
  split_ifs
  · exact hforget
  · have hfire : LastWins { s with g := { s.g.setAccessToken none with sessionLostFired := true } } :=
      h.still (still_globals rfl)
    exact hfire.sessionLost i
  · exact hforget.still ⟨rfl, rfl, rfl, rfl, rfl, fun _ _ hi => .inl hi⟩

theorem LastWins.call (h : LastWins s) (hstep : CallStep s i t) : LastWins t := by
  cases hstep with
  | dispatch c isRetry _ _ => exact h.still ⟨rfl, rfl, rfl, rfl, rfl, fun _ _ hi => .inl hi⟩
  | join c _ _ => exact (h.still (still_globals epoch_tryRefresh)).still (still_setCall _ i _)
  | terminal c _ _ => exact h.terminal i c
  | settle c result _ _ => exact h.still (still_setCall s i _)
  | go c y status _ _ => exact h.still (still_setCall s i y)

theorem epoch_take {g : Globals} {r epoch : ℕ} {b : Option String} : (g.take r epoch b).epoch = g.epoch := by
  rw [Globals.take]
  split_ifs
  · rfl
  · split <;> rfl

/-- The provider takes over the token of the store, which is one of the current epoch. -/
theorem LastWins.refreshDone (hiso : Isolated s) (h : LastWins s) {w : ℕ} (hstep : s.refreshDone w = some t) :
    LastWins t := by
  rw [State.refreshDone] at hstep
  split at hstep
  · split at hstep
    · next epoch ok hr =>
      cases hstep
      refine ⟨h.counted, h.fresh, h.generation, h.clean, h.done, fun n x hn hlast hc => ?_⟩
      have hshows : Shows s x := h.kept n x hn hlast hc
      refine ⟨hshows.merchant, fun t ht => ?_⟩
      dsimp only at ht ⊢
      split_ifs at ht
      · exact hiso.globals.token t ht
      · exact hshows.tok t ht
    · cases hstep
  · cases hstep

theorem LastWins.cleared (h : LastWins s) {ok : Bool} (hok : ok ≠ false) (hstep : s.cleared n ok = some t) :
    LastWins t := by
  rw [Bool.ne_false_iff] at hok
  subst hok
  rw [State.cleared] at hstep
  split at hstep
  · next accessToken merchant generation hn =>
    cases hstep
    exact h.progress hn (by simp) (by simp)
  · next kind generation hn =>
    cases hstep
    exact h.progress hn (by simp) (by simp)
  · cases hstep

/-- The last transition shows what it leaves; one that is not gets done without a trace. -/
theorem LastWins.commit (h : LastWins s) (hstep : s.commit n = some t) : LastWins t := by
  rw [State.commit] at hstep
  split at hstep
  · next accessToken merchant generation ok hn =>
    cases hstep
    have hlast := h.last_iff hn
    split_ifs with hepoch
    · exact h.progress hn (by simp) fun _ hl => absurd (hlast.mpr hl) hepoch
    · have hl := hlast.mp (not_not.mp hepoch)
      have hwritten : LastWins { s.applyToken (some ⟨accessToken, generation⟩) with merchant := some merchant } :=
        h.write hn hl rfl rfl rfl h.done ⟨rfl, fun t ht => by cases ht; exact (not_not.mp hepoch).symm⟩
      exact hwritten.progress hn (by simp) fun _ _ => ⟨rfl, fun t ht => by cases ht; exact (not_not.mp hepoch).symm⟩
  · next bearer generation ok hn =>
    cases hstep
    have hlast := h.last_iff hn
    split_ifs with hepoch
    · exact h.progress hn (by simp) fun _ hl => absurd (hlast.mpr hl) hepoch.2
    · have hok : ok = true := h.cleared_ok hn rfl
      have hl := hlast.mp (not_not.mp fun hne => hepoch ⟨hok, hne⟩)
      have hwritten : LastWins s.clearSession := h.write hn hl rfl rfl rfl h.done ⟨rfl, fun _ ht => by cases ht⟩
      exact hwritten.progress hn (by simp) fun _ _ => ⟨rfl, fun _ ht => by cases ht⟩
  · cases hstep

theorem LastWins.finish (h : LastWins s) (hstep : s.finish i = some t) : LastWins t := by
  rw [State.finish] at hstep
  split at hstep
  · next n hi =>
    split at hstep
    · next generation ok hn =>
      cases hstep
      have hlast := h.last_iff hn
      have hdone : ∀ j m, Function.update s.finishes i (.done n) j = .done m →
          s.finishes j = .done m ∨ m = n := by
        intro j m hj
        rcases eq_or_ne j i with rfl | hne
        · rw [Function.update_self] at hj
          cases hj
          exact .inr rfl
        · rw [Function.update_of_ne hne] at hj
          exact .inl hj
      split_ifs with hepoch
      · refine h.still ⟨rfl, rfl, rfl, rfl, rfl, fun j m hj => (hdone j m hj).imp_right ?_⟩
        rintro rfl
        have hne : ¬ m + 1 = s.begun := fun hl => hepoch.2 (hlast.mpr hl)
        have hlt := h.lt hn
        omega
      · have hok : ok = true := h.cleared_ok hn rfl
        have hl := hlast.mp (not_not.mp fun hne => hepoch ⟨hok, hne⟩)
        refine h.write hn hl rfl rfl rfl (fun j m hj => ?_) ⟨rfl, fun _ ht => by cases ht⟩
        rcases hdone j m hj with hj | rfl
        · exact h.done j m hj
        · exact h.lt hn
    · cases hstep
  · cases hstep

/-- `clear()` does not throw. -/
def Action.clears : Action → Bool
  | .cleared _ ok => ok
  | _ => true

theorem LastWins.step (hiso : Isolated s) (h : LastWins s) (ha : a.clears = true) (hstep : step s a = some t) : LastWins t := by
  cases a with
  | apiFetch call options => exact h.call (apiFetch_cases hstep)
  | fetched call outcome => exact h.call (fetched_cases hstep)
  | refreshed call => exact h.call (refreshed_cases hstep)
  | errorBody call body => exact h.call (errorBody_cases hstep)
  | returned call => exact h.call (returned_cases hstep)
  | body call body => exact h.call (body_cases hstep)
  | refreshFetched refresh ok =>
    rw [Transport.step, State.refreshFetched] at hstep
    split at hstep
    · cases hstep
      exact h.still (still_globals rfl)
    · cases hstep
  | refreshBody refresh accessToken =>
    rw [Transport.step, State.refreshBody] at hstep
    split at hstep
    · cases hstep
      exact h.still (still_globals epoch_take)
    · cases hstep
  | release refresh =>
    rw [Transport.step, State.release] at hstep
    split at hstep
    · cases hstep
      exact h.still (still_globals rfl)
    · cases hstep
  | refreshSession waiter =>
    rw [Transport.step, State.refreshSession] at hstep
    split at hstep
    · cases hstep
      exact h.still ⟨epoch_tryRefresh, rfl, rfl, rfl, rfl, fun _ _ hi => .inl hi⟩
    · cases hstep
  | refreshDone waiter => exact h.refreshDone hiso hstep
  | setSession accessToken merchant =>
    cases hstep
    exact h.boundary _
  | signOut =>
    cases hstep
    exact h.boundary _
  | cleared transition ok => exact h.cleared (ne_of_eq_of_ne ha (by simp)) hstep
  | commit transition => exact h.commit hstep
  | finish call => exact h.finish hstep
  | setOnSessionLost registered =>
    cases hstep
    exact h.still (still_globals rfl)

end

/-! ### The main results -/

section
variable {s : State} {as : List Action}

/-- CORRECT: as long as `clear()` does not throw, every transition moves the epoch once, and when the transition that
    was begun last has committed the provider shows its merchant and no token of an older session, whichever
    transitions and refreshes have settled in between. -/
theorem last_transition_wins (hclears : ∀ a ∈ as, a.clears = true) (h : run step start as = some s) :
    s.g.epoch = s.begun ∧ ∀ n x, s.transitions n = some x → n + 1 = s.begun → Committed s n x →
      s.merchant = x.kind.merchant ∧ ∀ t, s.tok = some t → t.session = s.g.epoch := by
  have hboth : Isolated s ∧ LastWins s := by
    refine run_invariant_along (I := fun s => Isolated s ∧ LastWins s) (fun _ a => a.clears = true) ?_
      (along_of_forall hclears start) ⟨isolated_start, lastWins_start⟩ h
    intro s a t hs ha hstep
    exact ⟨hs.1.step s a t hstep, hs.2.step hs.1 ha hstep⟩
  refine ⟨hboth.2.counted, fun n x hn hlast hc => ?_⟩
  have hshows := hboth.2.kept n x hn hlast hc
  exact ⟨hshows.merchant, hshows.tok⟩

/-- A merchant signs in, and another after a call of the first has begun. -/
def switched : List Action :=
  [.setSession "token-1" ⟨"Salon", "LIVE"⟩, .cleared 0 true, .commit 0, .apiFetch 0 authed,
    .setSession "token-2" ⟨"Cafe", "LIVE"⟩, .fetched 0 (.status 200), .cleared 1 true, .commit 1]

theorem last_transition_wins_switched : ∃ s, run step start switched = some s ∧
    s.merchant = some ⟨"Cafe", "LIVE"⟩ ∧ ∀ t, s.tok = some t → t.session = 2 := by
  have h : run step start switched = some _ := rfl
  obtain ⟨-, hlast⟩ := last_transition_wins (by decide) h
  obtain ⟨hmerchant, htok⟩ := hlast 1 ⟨.setSession "token-2" ⟨"Cafe", "LIVE"⟩, 2, .done⟩ rfl rfl (.inl rfl)
  exact ⟨_, h, hmerchant, htok⟩

/-! ### The hard logout -/

theorem latched_call {t : State} {i : ℕ} (hstep : CallStep s i t) : Latched s.g t.g := by
  cases hstep with
  | dispatch c isRetry _ _ => exact latched_of_eq rfl
  | join c _ _ => exact latched_of_eq latch_tryRefresh
  | terminal c _ _ =>
    intro hfired
    have hforgotten : (s.g.setAccessToken none).sessionLostFired = true := hfired
    rw [State.terminal, State.triggerSessionLost, if_pos hforgotten]
    exact .inl hfired
  | settle c result _ _ => exact latched_of_eq rfl
  | go c y status _ _ => exact latched_of_eq rfl

theorem latched_step {t : State} {a : Action} (hstep : step s a = some t) : Latched s.g t.g := by
  rcases step_cases hstep with ⟨i, hcall⟩ | hquiet
  · exact latched_call hcall
  · exact hquiet.latched

/-- The hard logout goes through. -/
def Fires (s t : State) : Prop := s.g.sessionLostFired = false ∧ t.g.sessionLostFired = true

/-- CORRECT: between two hard logouts that go through, a token has come into the store, which had none. -/
theorem hard_logout_once {s₁ s₂ : State} {a : Action} {bs : List Action} (h : run step start as = some s)
    (ha : step s a = some s₁) (hfires : Fires s s₁) (hbs : run step s₁ bs = some s₂)
    (hagain : ∃ b s₃, step s₂ b = some s₃ ∧ Fires s₂ s₃) :
    ∃ us d vs u v, bs = us ++ d :: vs ∧ run step s₁ us = some u ∧ step u d = some v ∧
      truthy u.g.accessToken = none ∧ (truthy v.g.accessToken).isSome := by
  obtain ⟨b, s₃, -, hup, -⟩ := hagain
  obtain ⟨us, d, vs, u, v, he, hu, hfired, hd, hcleared⟩ :=
    exists_change (P := fun s => s.g.sessionLostFired = true) hfires.2 (by simp [hup]) hbs
  refine ⟨us, d, vs, u, v, he, hu, hd, ?_, (latched_step hd hfired).resolve_left hcleared⟩
  have hreach : run step start (as ++ a :: us) = some u :=
    run_append_eq_some.mpr ⟨s, h, run_cons_eq_some.mpr ⟨s₁, ha, hu⟩⟩
  by_contra htoken
  have hdown := (isolated_of_run hreach).globals.latch (Option.isSome_iff_ne_none.mpr htoken)
  rw [hdown] at hfired
  cases hfired

/-- A call that is refused, and its refresh fails. -/
def refused (call refresh : ℕ) : List Action :=
  [.apiFetch call authed, .fetched call (.status 401), .refreshFetched refresh none, .release refresh]

def signedIn (n : ℕ) : List Action := [.setSession "token" ⟨"Salon", "LIVE"⟩, .cleared n true, .commit n]

theorem hard_logout_once_refusedTwice : ∃ s s₁ s₂ : State,
    run step start (.setOnSessionLost true :: signedIn 0 ++ refused 0 0) = some s ∧
      step s (.refreshed 0) = some s₁ ∧ run step s₁ (signedIn 2 ++ refused 1 1) = some s₂ ∧
      ∃ us d vs u v, signedIn 2 ++ refused 1 1 = us ++ d :: vs ∧ run step s₁ us = some u ∧ step u d = some v ∧
        truthy u.g.accessToken = none ∧ (truthy v.g.accessToken).isSome := by
  refine ⟨_, _, _, rfl, rfl, rfl, ?_⟩
  have hs : run step start (.setOnSessionLost true :: signedIn 0 ++ refused 0 0) = some _ := rfl
  exact hard_logout_once (a := .refreshed 0) hs rfl ⟨rfl, rfl⟩ rfl ⟨.refreshed 1, _, rfl, rfl, rfl⟩

end

end Redeemo.MerchantWeb.Transport
