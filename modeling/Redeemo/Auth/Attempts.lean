import Redeemo.Auth.Challenges

/-! How many codes are compared with one challenge.

    The attempts in the stored challenge count the comparisons, as long as each code is compared with the challenge
    as it is stored then, while no other call has compared a code and is still to write its attempt. -/

namespace Redeemo.Challenges
open Runs Expiring
open MerchantSession (Delivery)

/-- The call has compared its code, and its attempt is not written. -/
def Pending : Phase → Prop
  | .wrong _ => True
  | .matched _ => True
  | .lost executed => executed = false
  | _ => False

def Verifying : Phase → Prop
  | .resend => False
  | .resendFound _ => False
  | .admitted _ => False
  | .mailing _ => False
  | .resent => False
  | _ => True

/-- A code is compared with the challenge as it is stored, and all comparisons before it are counted. -/
def Counted {ι : Type*} (key : String) (s : Pool ι Store Phase) (a : ι × Event) : Prop :=
  ∀ code stored, s.proc a.1 = .found code stored → a.2 = .compare →
    s.store.redis.get key = some stored ∧ ∀ j, ¬ Pending (s.proc j)

structure Bounded {ι : Type*} (key : String) (s : Pool ι Store Phase) : Prop where
  verifying : ∀ i, Verifying (s.proc i)
  total : s.store.compared.length ≤ OTP_MAX_ATTEMPTS
  few : ∀ e, s.store.redis.entries key = some e → e.value.tries < OTP_MAX_ATTEMPTS
  alone : ∀ i j, Pending (s.proc i) → Pending (s.proc j) → i = j
  wrong : ∀ i stored, s.proc i = .wrong stored → s.store.compared.length ≤ stored.tries + 1
  counted : (∀ i, ¬ Pending (s.proc i)) → ∀ e, s.store.redis.entries key = some e →
    s.store.compared.length ≤ e.value.tries

section
variable {ι : Type*} [DecidableEq ι] {hmac : String → String} {nodeEnv sessionChallenge key : String} {kind : Kind}
  {s s' : Pool ι Store Phase} {i : ι} {phase : Phase} {store : Store}

theorem Bounded.verifying_update (hs : Bounded key s) (h : Verifying phase) :
    ∀ j, Verifying (Function.update s.proc i phase j) :=
  (Function.forall_update_iff _ fun _ => Verifying).mpr ⟨h, fun j _ => hs.verifying j⟩

/-- A call that goes on without touching the challenge. -/
theorem Bounded.aside (hs : Bounded key s) (hentries : store.redis.entries key = s.store.redis.entries key)
    (hcompared : store.compared = s.store.compared) (hverifying : Verifying phase)
    (hpending : Pending phase ↔ Pending (s.proc i))
    (hwrong : ∀ stored, phase = .wrong stored → s.proc i = .wrong stored) :
    Bounded key ⟨store, Function.update s.proc i phase⟩ := by
  have hback (j : ι) : Pending (Function.update s.proc i phase j) ↔ Pending (s.proc j) := by
    rcases eq_or_ne j i with rfl | hne
    · rw [Function.update_self]
      exact hpending
    · rw [Function.update_of_ne hne]
  constructor
  · exact hs.verifying_update hverifying
  · dsimp only
    rw [hcompared]
    exact hs.total
  · intro e he
    exact hs.few e (hentries ▸ he)
  · intro j k hj hk
    exact hs.alone j k ((hback j).mp hj) ((hback k).mp hk)
  · intro j stored hj
    dsimp only at hj ⊢
    rw [hcompared]
    rcases eq_or_ne j i with rfl | hne
    · rw [Function.update_self] at hj
      exact hs.wrong j stored (hwrong stored hj)
    · rw [Function.update_of_ne hne] at hj
      exact hs.wrong j stored hj
  · intro hnone e he
    dsimp only
    rw [hcompared]
    exact hs.counted (fun j hj => hnone j ((hback j).mpr hj)) e (hentries ▸ he)

/-- A pending call ends, with its attempt written or the challenge deleted. -/
theorem Bounded.written (hs : Bounded key s) (hi : Pending (s.proc i)) (hcompared : store.compared = s.store.compared)
    (hverifying : Verifying phase) (hpending : ¬ Pending phase)
    (hentries : ∀ e, store.redis.entries key = some e →
      e.value.tries < OTP_MAX_ATTEMPTS ∧ s.store.compared.length ≤ e.value.tries) :
    Bounded key ⟨store, Function.update s.proc i phase⟩ := by
  have hnone : ∀ j, ¬ Pending (Function.update s.proc i phase j) :=
    (Function.forall_update_iff _ fun _ l => ¬ Pending l).mpr ⟨hpending, fun j hne hj => hne (hs.alone j i hj hi)⟩
  constructor
  · exact hs.verifying_update hverifying
  · dsimp only
    rw [hcompared]
    exact hs.total
  · exact fun e he => (hentries e he).1
  · exact fun j k hj _ => absurd hj (hnone j)
  · intro j stored hj
    refine absurd ?_ (hnone j)
    dsimp only at hj
    rw [hj]
    trivial
  · intro _ e he
    dsimp only
    rw [hcompared]
    exact (hentries e he).2

/-- The second command of a verification: the call stays pending if it was not executed. -/
theorem Bounded.concluded {f : Redis → Redis} {d : Delivery} {finished : Bool} (hs : Bounded key s)
    (hi : Pending (s.proc i)) (hverifying : Verifying phase) (hpending : ¬ Pending phase)
    (hentries : ∀ e, (f s.store.redis).entries key = some e →
      e.value.tries < OTP_MAX_ATTEMPTS ∧ s.store.compared.length ≤ e.value.tries) :
    Bounded key ⟨{ s.store with redis := Delivery.toRedis d f s.store.redis, finished := finished },
      Function.update s.proc i (afterCommand d phase)⟩ := by
  cases d with
  | delivered => exact hs.written hi rfl hverifying hpending hentries
  | lost executed =>
    cases executed with
    | true => exact hs.written hi rfl trivial (by simp [Pending, afterCommand]) hentries
    | false => exact hs.aside rfl rfl trivial (iff_of_true rfl hi) (by simp [afterCommand])

/-- A code is compared. -/
theorem Bounded.compared {stored : Challenge} {codeHmac : Option String} (hs : Bounded key s)
    (hstored : s.store.redis.get key = some stored) (hnone : ∀ j, ¬ Pending (s.proc j))
    (hphase : phase = .matched stored ∨ phase = .wrong stored) :
    Bounded key ⟨{ s.store with compared := codeHmac.toList ++ s.store.compared }, Function.update s.proc i phase⟩ := by
  obtain ⟨e, he, rfl, -⟩ := get_eq_some.mp hstored
  have hcount : s.store.compared.length ≤ e.value.tries := hs.counted hnone e he
  have hfew : e.value.tries < OTP_MAX_ATTEMPTS := hs.few e he
  have hlength : (codeHmac.toList ++ s.store.compared).length ≤ e.value.tries + 1 := by
    have := Option.length_toList_le (o := codeHmac)
    rw [List.length_append]
    omega
  have hmover (j : ι) (hj : Pending (Function.update s.proc i phase j)) : j = i := by
    by_contra hne
    rw [Function.update_of_ne hne] at hj
    exact hnone j hj
  have hpending : Pending (Function.update s.proc i phase i) := by
    rw [Function.update_self]
    rcases hphase with rfl | rfl <;> trivial
  constructor
  · refine hs.verifying_update ?_
    rcases hphase with rfl | rfl <;> trivial
  · exact hlength.trans hfew
  · exact hs.few
  · exact fun j k hj hk => (hmover j hj).trans (hmover k hk).symm
  · intro j stored' hj
    dsimp only at hj ⊢
    obtain rfl := hmover j (by rw [hj]; trivial)
    rw [Function.update_self] at hj
    rcases hphase with rfl | rfl
    · cases hj
    · cases hj
      exact hlength
  · exact fun hno => absurd hpending (hno i)

/-- What a wrong code leaves of the challenge counts its attempt. -/
theorem tries_writeBack {r : Redis} {stored : Challenge} {e : ExpiringEntry Challenge}
    (he : (writeBack key stored r).entries key = some e) :
    e.value.tries < OTP_MAX_ATTEMPTS ∧ e.value.tries = stored.tries + 1 := by
  unfold writeBack at he
  split_ifs at he with hlast
  · rw [entries_del_self] at he
    cases he
  · rw [entries_setKeepTtl_self] at he
    cases he
    exact ⟨Nat.lt_of_not_le hlast, rfl⟩

theorem bounded_step {a : ι × Event} (hs : Bounded (kind.key sessionChallenge) s)
    (hcounted : Counted (kind.key sessionChallenge) s a)
    (h : step hmac nodeEnv kind sessionChallenge s a = some s') : Bounded (kind.key sessionChallenge) s' := by
  obtain ⟨store, phase, hn, rfl⟩ := poolStep_eq_some.mp h
  obtain ⟨i, e⟩ := a
  dsimp only at hn ⊢
  have hverifying := hs.verifying i
  generalize hproc : s.proc i = before at hn hverifying
  unfold next at hn
  split at hn
  · cases hn
    exact hs.aside rfl rfl hverifying (by rw [hproc]) fun stored hw => hproc.trans hw
  · cases hn
    split
    · exact hs.aside rfl rfl trivial (by rw [hproc]; exact Iff.rfl) (by simp)
    · exact hs.aside rfl rfl trivial (by rw [hproc]; exact Iff.rfl) (by simp)
  · cases hn
    exact hs.aside rfl rfl trivial (by rw [hproc]; exact Iff.rfl) (by simp)
  · -- The code is compared with the challenge as it is stored.
    rename_i code stored
    cases hn
    obtain ⟨hstored, hnone⟩ := hcounted code stored hproc rfl
    refine hs.compared hstored hnone ?_
    split_ifs
    · exact .inl rfl
    · exact .inr rfl
  · -- The attempt is written.
    rename_i stored d
    cases hn
    have hpending : Pending (s.proc i) := by
      rw [hproc]
      trivial
    refine hs.concluded hpending trivial id fun e he => ?_
    obtain ⟨hfew, htries⟩ := tries_writeBack he
    exact ⟨hfew, htries ▸ hs.wrong i stored hproc⟩
  · -- The challenge is deleted.
    rename_i stored d
    cases hn
    have hpending : Pending (s.proc i) := by
      rw [hproc]
      trivial
    refine hs.concluded hpending trivial id fun e he => ?_
    rw [entries_del_self] at he
    cases he
  · cases hn
    split
    · exact hs.aside rfl rfl trivial (by rw [hproc]; exact Iff.rfl) (by simp)
    · exact hs.aside rfl rfl trivial (by rw [hproc]; exact Iff.rfl) (by simp)
  · exact hverifying.elim
  · exact hverifying.elim
  · exact hverifying.elim
  · exact hverifying.elim
  · cases hn

/-- Throughout an interleaving of any number of verifications of a challenge, where each code is compared with the
    challenge as it is stored then and no comparison before it is still to be counted, five codes at most are compared
    with the same HMAC. -/
theorem compared_at_most_five {calls : ι → Call} {r : Redis} {as : List (ι × Event)}
    (hcalls : ∀ i, ∃ code, calls i = .verify code)
    (hfew : ∀ e, r.entries (kind.key sessionChallenge) = some e → e.value.tries < OTP_MAX_ATTEMPTS)
    (halong : Along (step hmac nodeEnv kind sessionChallenge) (Counted (kind.key sessionChallenge)) (opened calls r) as)
    (h : run (step hmac nodeEnv kind sessionChallenge) (opened calls r) as = some s) (codeHmac : String) :
    s.store.compared.count codeHmac ≤ 5 := by
  have hinv : Bounded (kind.key sessionChallenge) s := by
    refine run_invariant_along _ (fun s a s' hs hp hstep => bounded_step hs hp hstep) halong ?_ h
    have hphase (i : ι) : ∃ code, (opened calls r).proc i = .verify code := by
      obtain ⟨code, hcode⟩ := hcalls i
      exact ⟨code, congrArg Call.start hcode⟩
    have hidle (i : ι) : ¬ Pending ((opened calls r).proc i) := by
      obtain ⟨code, hcode⟩ := hphase i
      rw [hcode]
      exact id
    constructor
    · intro i
      obtain ⟨code, hcode⟩ := hphase i
      rw [hcode]
      trivial
    · exact Nat.zero_le _
    · exact hfew
    · exact fun i j hi _ => absurd hi (hidle i)
    · intro i stored hi
      obtain ⟨code, hcode⟩ := hphase i
      cases hcode.symm.trans hi
    · exact fun _ e _ => Nat.zero_le _
  exact List.count_le_length.trans hinv.total

end

/-! ### Six guesses at once -/

/-- A challenge as a login stores it, with an HMAC of another code. -/
def issued : Redis where
  entries key :=
    if key = Kind.merchantOtp.key "c" then some ⟨⟨"m", "d", "web", some "aa", some 0⟩, (600000 : ℕ)⟩ else none
  now := 0

def guesses : ℕ → Call := fun i => .verify (Nat.repr i)

/-- Every call has read the challenge before the first attempt is written. -/
def allRead : List (ℕ × Event) :=
  (List.range 6).map (fun i => (i, Event.command .delivered)) ++ (List.range 6).map fun i => (i, Event.compare)

theorem compared_six_times :
    ∃ s, run (step id "production" .merchantOtp "c") (opened guesses issued) allRead = some s ∧
      s.store.compared.count "aa" = 6 := ⟨_, rfl, rfl⟩

/-- One guess, with its attempt. -/
def oneGuess : List (ℕ × Event) := [(0, .command .delivered), (0, .compare), (0, .command .delivered)]

theorem compared_at_most_five_oneGuess :
    ∃ s, run (step id "production" .merchantOtp "c") (opened guesses issued) oneGuess = some s ∧
      s.proc 0 = .failed (some .OTP_INVALID) ∧ s.store.compared.count "aa" ≤ 5 := by
  have halong : Along (step id "production" .merchantOtp "c") (Counted (Kind.merchantOtp.key "c"))
      (opened guesses issued) oneGuess := by
    refine ⟨fun code stored hfound => ?_, fun s hs => ?_⟩
    · cases hfound
    cases hs
    refine ⟨fun code stored hfound _ => ?_, fun s hs => ?_⟩
    · cases hfound
      refine ⟨rfl, fun j => ?_⟩
      cases j with
      | zero => exact id
      | succ j => exact id
    cases hs
    refine ⟨fun code stored hfound => ?_, fun _ _ => trivial⟩
    cases hfound
  have hfew : ∀ e, issued.entries (Kind.merchantOtp.key "c") = some e → e.value.tries < OTP_MAX_ATTEMPTS := by
    intro e he
    cases he
    exact (by decide : 0 < 5)
  have hends : ∃ s, run (step id "production" .merchantOtp "c") (opened guesses issued) oneGuess = some s ∧
      s.proc 0 = .failed (some .OTP_INVALID) := ⟨_, rfl, rfl⟩
  obtain ⟨s, hrun, hfailed⟩ := hends
  exact ⟨s, hrun, hfailed, compared_at_most_five (fun i => ⟨_, rfl⟩) hfew halong hrun "aa"⟩

end Redeemo.Challenges
