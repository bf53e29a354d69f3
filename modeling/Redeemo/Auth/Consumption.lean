import Redeemo.Auth.Challenges

/-! A challenge that is finished stays so.

    A call writes what it has read, some time after it has read it. As long as the challenge is then still the one
    that it has read, a challenge that was deleted is not brought back, no challenge loses its expiry, and a new code
    is not replaced by an old one. -/

namespace Redeemo.Challenges
open Runs Expiring
open MerchantSession (Delivery)

/-- The step writes the challenge, as a verification that has read `stored`. -/
inductive Concludes (stored : Challenge) : Phase → Event → Prop
  | wrong {d : Delivery} : d.executed = true → Concludes stored (.wrong stored) (.command d)
  | matched {d : Delivery} : d.executed = true → Concludes stored (.matched stored) (.command d)

/-- The step writes a new code. -/
inductive Reissues : Phase → Event → Prop
  | store {stored : Challenge} {code : String} {d : Delivery} : d.executed = true →
      Reissues (.admitted stored) (.store code d)

/-- A verification writes the challenge while it still has the HMAC that was read, a resend while it is still there
    and no other resend is about to email a code. -/
structure Current {ι : Type*} (key : String) (s : Pool ι Store Phase) (a : ι × Event) : Prop where
  concludes : ∀ stored, Concludes stored (s.proc a.1) a.2 →
    ∃ c, s.store.redis.get key = some c ∧ c.codeHmac = stored.codeHmac
  reissues : Reissues (s.proc a.1) a.2 →
    (∃ c, s.store.redis.get key = some c) ∧ ∀ j code, s.proc j ≠ .mailing code

/-- The command is the second one of a verification, or stores a new code. -/
def writes : Phase → Event → Bool
  | .wrong _, .command _ => true
  | .matched _, .command _ => true
  | .admitted _, .store _ _ => true
  | _, _ => false

/-- The challenge has the HMAC of the code, whether or not it has expired, or is finished. -/
def Accepts (hmac : String → String) (sessionChallenge key code : String) (s : Store) : Prop :=
  s.finished = true ∨
    ∃ e, s.redis.entries key = some e ∧ e.value.codeHmac = some (codeHmacOf hmac sessionChallenge code)

structure Sound {ι : Type*} (hmac : String → String) (sessionChallenge key : String) (s : Pool ι Store Phase) :
    Prop where
  timed : ∀ e, s.store.redis.entries key = some e → e.expiresAt ≠ ⊤
  ended : s.store.finished = true → s.store.redis.entries key = none
  mailing : ∀ i code, s.proc i = .mailing code → Accepts hmac sessionChallenge key code s.store
  emailed : ∀ code ∈ s.store.emailed, Accepts hmac sessionChallenge key code s.store

section
variable {ι : Type*} [DecidableEq ι] {hmac : String → String} {nodeEnv sessionChallenge key : String} {kind : Kind}
  {s s' : Pool ι Store Phase} {i : ι} {phase : Phase} {store : Store} {stored : Challenge} {r : Redis}

omit [DecidableEq ι] in
theorem Current.of_quiet {a : ι × Event} (h : writes (s.proc a.1) a.2 = false) : Current key s a := by
  constructor
  · intro stored hconcludes
    generalize s.proc a.1 = before, a.2 = e at h hconcludes
    cases hconcludes <;> cases h
  · intro hreissues
    generalize s.proc a.1 = before, a.2 = e at h hreissues
    cases hreissues
    cases h

/-- What a step must leave, where the mover is not about to email a code. -/
theorem Sound.of_step (hs : Sound hmac sessionChallenge key s) (hphase : ∀ code, phase ≠ .mailing code)
    (htimed : ∀ e, store.redis.entries key = some e → e.expiresAt ≠ ⊤)
    (hover : store.finished = true → store.redis.entries key = none)
    (haccepts : ∀ code, Accepts hmac sessionChallenge key code s.store → Accepts hmac sessionChallenge key code store)
    (hemailed : ∀ code ∈ store.emailed, Accepts hmac sessionChallenge key code s.store) :
    Sound hmac sessionChallenge key ⟨store, Function.update s.proc i phase⟩ := by
  refine ⟨htimed, hover, fun j code hj => ?_, fun code hcode => haccepts code (hemailed code hcode)⟩
  dsimp only at hj ⊢
  rcases eq_or_ne j i with rfl | hne
  · rw [Function.update_self] at hj
    exact absurd hj (hphase code)
  · rw [Function.update_of_ne hne] at hj
    exact haccepts code (hs.mailing j code hj)

/-- A step that leaves the challenge alone. -/
theorem Sound.aside (hs : Sound hmac sessionChallenge key s)
    (hphase : ∀ code, phase = .mailing code → s.proc i = .mailing code)
    (hentries : store.redis.entries = s.store.redis.entries) (hfinished : store.finished = s.store.finished)
    (hemailed : ∀ code ∈ store.emailed, Accepts hmac sessionChallenge key code s.store) :
    Sound hmac sessionChallenge key ⟨store, Function.update s.proc i phase⟩ := by
  have haccepts (code : String) (h : Accepts hmac sessionChallenge key code s.store) :
      Accepts hmac sessionChallenge key code store := by
    unfold Accepts
    rw [hentries, hfinished]
    exact h
  refine ⟨?_, ?_, fun j code hj => haccepts code ?_, fun code hcode => haccepts code (hemailed code hcode)⟩
  · dsimp only
    rw [hentries]
    exact hs.timed
  · dsimp only
    rw [hentries, hfinished]
    exact hs.ended
  · dsimp only at hj
    rcases eq_or_ne j i with rfl | hne
    · rw [Function.update_self] at hj
      exact hs.mailing j code (hphase code hj)
    · rw [Function.update_of_ne hne] at hj
      exact hs.mailing j code hj

/-- A step that deletes the challenge for good. -/
theorem Sound.deleted (hs : Sound hmac sessionChallenge key s) (hphase : ∀ code, phase ≠ .mailing code)
    (hentries : store.redis.entries key = none) (hfinished : store.finished = true)
    (hemailed : store.emailed = s.store.emailed) :
    Sound hmac sessionChallenge key ⟨store, Function.update s.proc i phase⟩ := by
  refine hs.of_step hphase (fun e he => ?_) (fun _ => hentries) (fun _ _ => .inl hfinished) fun code hcode => ?_
  · rw [hentries] at he
    cases he
  · rw [hemailed] at hcode
    exact hs.emailed code hcode

/-- An attempt that is written to the challenge as it was read. -/
theorem Sound.tried (hs : Sound hmac sessionChallenge key s) (hphase : ∀ code, phase ≠ .mailing code)
    (hheld : ∃ c, s.store.redis.get key = some c ∧ c.codeHmac = stored.codeHmac) :
    Sound hmac sessionChallenge key
      ⟨{ s.store with redis := s.store.redis.setKeepTtl key (wrongTry stored) }, Function.update s.proc i phase⟩ := by
  obtain ⟨c, hc, hsame⟩ := hheld
  obtain ⟨e, he, rfl, hlive⟩ := get_eq_some.mp hc
  refine hs.of_step hphase (fun e' he' => ?_) (fun hfinished => ?_) (fun code haccepts => ?_) hs.emailed
  · dsimp only at he'
    rw [entries_setKeepTtl_self] at he'
    cases he'
    rw [expiry, he]
    dsimp only
    rw [if_pos hlive]
    exact hs.timed e he
  · rw [hs.ended hfinished] at he
    cases he
  · refine haccepts.imp_right fun ⟨e', he', hhmac⟩ => ?_
    cases he.symm.trans he'
    exact ⟨_, entries_setKeepTtl_self, hsame.symm.trans hhmac⟩

/-- A new code, before it is emailed. -/
theorem Sound.reissued {code : String} (hs : Sound hmac sessionChallenge key s)
    (hpresent : ∃ c, s.store.redis.get key = some c) (hnone : ∀ j code, s.proc j ≠ .mailing code)
    (hphase : phase = .mailing code ∨ phase = .lost true) :
    Sound hmac sessionChallenge key
      ⟨{ s.store with redis := reissue hmac key sessionChallenge code stored s.store.redis, emailed := none },
        Function.update s.proc i phase⟩ := by
  obtain ⟨c, hc⟩ := hpresent
  obtain ⟨e, he, -, -⟩ := get_eq_some.mp hc
  refine ⟨fun e' he' => ?_, fun hfinished => ?_, fun j code' hj => ?_, fun code' hcode' => ?_⟩
  · dsimp only [reissue] at he'
    rw [entries_setEx_self] at he'
    cases he'
    exact WithTop.coe_ne_top
  · rw [hs.ended hfinished] at he
    cases he
  · dsimp only at hj
    rcases eq_or_ne j i with rfl | hne
    · rw [Function.update_self] at hj
      rcases hphase with rfl | rfl
      · cases hj
        exact .inr ⟨_, entries_setEx_self, rfl⟩
      · cases hj
    · rw [Function.update_of_ne hne] at hj
      exact absurd hj (hnone j code')
  · cases hcode'

omit [DecidableEq ι] in
theorem afterCommand_ne_mailing {d : Delivery} {code : String} (h : phase ≠ .mailing code) :
    afterCommand d phase ≠ .mailing code := by
  cases d with
  | delivered => exact h
  | lost executed => exact Phase.noConfusion

theorem sound_step {a : ι × Event} (hs : Sound hmac sessionChallenge (kind.key sessionChallenge) s)
    (hcurrent : Current (kind.key sessionChallenge) s a)
    (h : step hmac nodeEnv kind sessionChallenge s a = some s') :
    Sound hmac sessionChallenge (kind.key sessionChallenge) s' := by
  obtain ⟨store, phase, hn, rfl⟩ := poolStep_eq_some.mp h
  obtain ⟨i, e⟩ := a
  obtain ⟨hconcludes, hreissues⟩ := hcurrent
  dsimp only at hn hconcludes hreissues ⊢
  generalize hproc : s.proc i = before at hn hconcludes hreissues
  unfold next at hn
  split at hn
  · cases hn
    exact hs.aside (fun code hcode => hproc.trans hcode) rfl rfl hs.emailed
  · cases hn
    split
    · exact hs.aside (by simp) rfl rfl hs.emailed
    · exact hs.aside (by simp) rfl rfl hs.emailed
  · cases hn
    exact hs.aside (by simp) rfl rfl hs.emailed
  · cases hn
    split_ifs
    · exact hs.aside (by simp) rfl rfl hs.emailed
    · exact hs.aside (by simp) rfl rfl hs.emailed
  · -- A wrong code writes its attempt, or is the last one.
    rename_i stored d
    cases hn
    have hphase (code : String) : afterCommand d (.failed (some .OTP_INVALID)) ≠ .mailing code :=
      afterCommand_ne_mailing Phase.noConfusion
    cases hexecuted : d.executed with
    | false =>
      rw [Delivery.toRedis, hexecuted, Bool.false_and, Bool.or_false]
      exact hs.aside (fun code hcode => absurd hcode (hphase code)) rfl rfl hs.emailed
    | true =>
      rw [Delivery.toRedis, if_pos hexecuted, Bool.true_and, writeBack]
      by_cases hlast : stored.tries + 1 ≥ OTP_MAX_ATTEMPTS
      · rw [if_pos hlast, decide_eq_true hlast, Bool.or_true]
        exact hs.deleted hphase entries_del_self rfl rfl
      · rw [if_neg hlast, decide_eq_false hlast, Bool.or_false]
        exact hs.tried hphase (hconcludes stored (.wrong hexecuted))
  · -- The right code deletes the challenge.
    rename_i stored d
    cases hn
    have hphase (code : String) : afterCommand d .consumed ≠ .mailing code :=
      afterCommand_ne_mailing Phase.noConfusion
    cases hexecuted : d.executed with
    | false =>
      rw [Delivery.toRedis, hexecuted, Bool.or_false]
      exact hs.aside (fun code hcode => absurd hcode (hphase code)) rfl rfl hs.emailed
    | true =>
      rw [Delivery.toRedis, if_pos hexecuted, Bool.or_true]
      exact hs.deleted hphase entries_del_self rfl rfl
  · cases hn
    split
    · exact hs.aside (by simp) rfl rfl hs.emailed
    · exact hs.aside (by simp) rfl rfl hs.emailed
  · split_ifs at hn
    cases hn
    split
    · split
      · exact hs.aside (by simp) rfl rfl hs.emailed
      · exact hs.aside (by simp) rfl rfl hs.emailed
    · exact hs.aside (by simp) rfl rfl hs.emailed
  · cases hn
    split_ifs
    · exact hs.aside (by simp) rfl rfl hs.emailed
    · exact hs.aside (by simp) rfl rfl hs.emailed
  · -- A new code is stored.
    rename_i stored code d
    cases hn
    cases d with
    | delivered =>
      obtain ⟨hpresent, hnone⟩ := hreissues (.store rfl)
      exact hs.reissued hpresent hnone (.inl rfl)
    | lost executed =>
      cases executed with
      | true =>
        obtain ⟨hpresent, hnone⟩ := hreissues (.store rfl)
        exact hs.reissued hpresent hnone (.inr rfl)
      | false => exact hs.aside (by simp [afterCommand]) rfl rfl hs.emailed
  · -- It is emailed.
    rename_i code
    cases hn
    refine hs.aside (by simp) rfl rfl fun code' hcode' => ?_
    cases hcode'
    exact hs.mailing i code hproc
  · cases hn

/-- A right code is let through by a deletion that finds the challenge. -/
theorem concludes_of_consumed {a : ι × Event} (h : step hmac nodeEnv kind sessionChallenge s a = some s')
    (hbefore : s.proc a.1 ≠ .consumed) (hafter : s'.proc a.1 = .consumed) :
    ∃ stored, Concludes stored (s.proc a.1) a.2 := by
  obtain ⟨store, phase, hn, rfl⟩ := poolStep_eq_some.mp h
  obtain ⟨i, e⟩ := a
  dsimp only at hn hbefore hafter ⊢
  rw [Function.update_self] at hafter
  subst hafter
  generalize s.proc i = before at hn hbefore ⊢
  unfold next at hn
  split at hn
  · cases hn
    exact absurd rfl hbefore
  · obtain ⟨-, hphase⟩ := Prod.mk.inj (Option.some.inj hn)
    split at hphase <;> cases hphase
  · cases hn
  · obtain ⟨-, hphase⟩ := Prod.mk.inj (Option.some.inj hn)
    split_ifs at hphase
  · rename_i stored d
    obtain ⟨-, hphase⟩ := Prod.mk.inj (Option.some.inj hn)
    cases d <;> cases hphase
  · rename_i stored d
    obtain ⟨-, hphase⟩ := Prod.mk.inj (Option.some.inj hn)
    cases d with
    | delivered => exact ⟨stored, .matched rfl⟩
    | lost executed => cases hphase
  · exact absurd rfl hbefore
  · split_ifs at hn
    obtain ⟨-, hphase⟩ := Prod.mk.inj (Option.some.inj hn)
    split at hphase
    · split at hphase <;> cases hphase
    · cases hphase
  · obtain ⟨-, hphase⟩ := Prod.mk.inj (Option.some.inj hn)
    split_ifs at hphase
  · rename_i stored code d
    obtain ⟨-, hphase⟩ := Prod.mk.inj (Option.some.inj hn)
    cases d <;> cases hphase
  · cases hn
  · cases hn

/-! ### Runs -/

theorem sound_run {calls : ι → Call} {as : List (ι × Event)}
    (htimed : ∀ e, r.entries (kind.key sessionChallenge) = some e → e.expiresAt ≠ ⊤)
    (halong : Along (step hmac nodeEnv kind sessionChallenge) (Current (kind.key sessionChallenge)) (opened calls r) as)
    (h : run (step hmac nodeEnv kind sessionChallenge) (opened calls r) as = some s) :
    Sound hmac sessionChallenge (kind.key sessionChallenge) s := by
  refine run_invariant_along _ (fun s a s' hs hp hstep => sound_step hs hp hstep) halong ?_ h
  refine ⟨htimed, fun hfinished => ?_, fun i code hi => ?_, fun code hcode => ?_⟩
  · cases hfinished
  · dsimp only [opened] at hi
    cases hcall : calls i with
    | verify _ | resendMerchantVerification =>
      rw [hcall] at hi
      cases hi
  · cases hcode

/-- Throughout an interleaving of any number of verifications and resends of a challenge that write it only while it
    is still the one that they have read, its key has an expiry; once it is finished it is gone, and no code is let
    through any more; and the code that a resend has emailed is the one that the challenge accepts, until another
    resend writes, or the challenge is finished or expires. -/
theorem challenge_stays_finished {calls : ι → Call} {as : List (ι × Event)}
    (htimed : ∀ e, r.entries (kind.key sessionChallenge) = some e → e.expiresAt ≠ ⊤)
    (halong : Along (step hmac nodeEnv kind sessionChallenge) (Current (kind.key sessionChallenge)) (opened calls r) as)
    (h : run (step hmac nodeEnv kind sessionChallenge) (opened calls r) as = some s) :
    (∀ e, s.store.redis.entries (kind.key sessionChallenge) = some e → e.expiresAt ≠ ⊤) ∧
    (s.store.finished = true → s.store.redis.get (kind.key sessionChallenge) = none ∧
      ∀ a t, Current (kind.key sessionChallenge) s a → step hmac nodeEnv kind sessionChallenge s a = some t →
        s.proc a.1 ≠ .consumed → t.proc a.1 ≠ .consumed) ∧
    ∀ code ∈ s.store.emailed, s.store.finished = true ∨
      ∃ e, s.store.redis.entries (kind.key sessionChallenge) = some e ∧
        e.value.codeHmac = some (codeHmacOf hmac sessionChallenge code) := by
  have hsound := sound_run htimed halong h
  refine ⟨hsound.timed, fun hfinished => ⟨?_, fun a t hcurrent hstep hbefore hafter => ?_⟩, hsound.emailed⟩
  · exact get_eq_none (hsound.ended hfinished)
  · obtain ⟨stored, hconcludes⟩ := concludes_of_consumed hstep hbefore hafter
    obtain ⟨c, hc, -⟩ := hcurrent.concludes stored hconcludes
    rw [get_eq_none (hsound.ended hfinished)] at hc
    cases hc

end

/-! ### A wrong code that is written late -/

/-- The HMAC of code 42, and of all others. -/
def demoHmac (text : String) : String := if text = "c:42" then "aa" else "bb"

def mailed : Redis where
  entries key :=
    if key = Kind.merchantOtp.key "c" then some ⟨⟨"m", "d", "web", some "aa", some 0⟩, (600000 : ℕ)⟩ else none
  now := 0

def codes : ℕ → Call
  | 0 => .verify "13"
  | _ => .verify "42"

/-- The wrong code is compared before the right one consumes the challenge, and its attempt is written after. -/
def lateAttempt : List (ℕ × Event) :=
  [(0, .command .delivered), (1, .command .delivered), (0, .compare), (1, .compare), (1, .command .delivered),
    (1, .login (.ok ())), (0, .command .delivered)]

def secondLogin : List (ℕ × Event) := [(2, .command .delivered), (2, .compare), (2, .command .delivered)]

theorem finished_challenge_revived :
    ∃ s t, run (step demoHmac "production" .merchantOtp "c") (opened codes mailed) lateAttempt = some s ∧
      s.store.finished = true ∧ s.proc 1 = .returned ∧
      (∃ e, s.store.redis.entries (Kind.merchantOtp.key "c") = some e ∧ e.expiresAt = ⊤) ∧
      run (step demoHmac "production" .merchantOtp "c") s secondLogin = some t ∧ s.proc 2 = .verify "42" ∧
      t.proc 2 = .consumed :=
  ⟨_, _, rfl, rfl, rfl, ⟨_, rfl, rfl⟩, rfl, rfl, rfl⟩

/-! ### A code that is emailed anew -/

def unverified : Redis where
  entries key :=
    if key = Kind.merchantEmail.key "c" then some ⟨⟨"m", "d", "web", some "bb", some 4⟩, (86400000 : ℕ)⟩ else none
  now := 0

def resendThenGuess : ℕ → Call
  | 0 => .resendMerchantVerification
  | _ => .verify "13"

def oneResend : List (ℕ × Event) :=
  [(0, .command .delivered), (0, .admin (some false)), (0, .store "42" .delivered), (0, .email),
    (1, .command .delivered), (1, .compare), (1, .command .delivered)]

theorem challenge_stays_finished_oneResend :
    ∃ s, run (step demoHmac "production" .merchantEmail "c") (opened resendThenGuess unverified) oneResend = some s ∧
      s.proc 1 = .failed (some .OTP_INVALID) ∧ s.store.finished = false ∧
      ∃ e, s.store.redis.entries (Kind.merchantEmail.key "c") = some e ∧
        e.value.codeHmac = some (codeHmacOf demoHmac "c" "42") := by
  have halong : Along (step demoHmac "production" .merchantEmail "c") (Current (Kind.merchantEmail.key "c"))
      (opened resendThenGuess unverified) oneResend := by
    refine ⟨.of_quiet rfl, fun s hs => ?_⟩
    cases hs
    refine ⟨.of_quiet rfl, fun s hs => ?_⟩
    cases hs
    refine ⟨⟨fun stored hc => ?_, fun _ => ⟨⟨_, rfl⟩, fun j code => ?_⟩⟩, fun s hs => ?_⟩
    · cases hc
    · cases j with
      | zero | succ j => exact Phase.noConfusion
    cases hs
    refine ⟨.of_quiet rfl, fun s hs => ?_⟩
    cases hs
    refine ⟨.of_quiet rfl, fun s hs => ?_⟩
    cases hs
    refine ⟨.of_quiet rfl, fun s hs => ?_⟩
    cases hs
    refine ⟨⟨fun stored hc => ?_, fun hr => ?_⟩, fun _ _ => trivial⟩
    · cases hc
      exact ⟨_, rfl, rfl⟩
    · cases hr
  have htimed : ∀ e, unverified.entries (Kind.merchantEmail.key "c") = some e → e.expiresAt ≠ ⊤ := by
    intro e he
    cases he
    exact WithTop.coe_ne_top
  have hends : ∃ s, run (step demoHmac "production" .merchantEmail "c") (opened resendThenGuess unverified) oneResend =
      some s ∧ s.proc 1 = .failed (some .OTP_INVALID) ∧ s.store.finished = false ∧ s.store.emailed = some "42" :=
    ⟨_, rfl, rfl, rfl, rfl⟩
  obtain ⟨s, hrun, hfailed, hopen, hemailed⟩ := hends
  refine ⟨s, hrun, hfailed, hopen, ?_⟩
  rcases (challenge_stays_finished htimed halong hrun).2.2 "42" hemailed with hfinished | haccepted
  · rw [hopen] at hfinished
    cases hfinished
  · exact haccepted

end Redeemo.Challenges
