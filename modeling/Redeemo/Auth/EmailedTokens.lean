import Mathlib.Data.List.Nodup
import Redeemo.Merchant.Sessions

/-! Tokens that are emailed and set a password: claims, password resets, and the temporary tokens of a first login.

    A call that presents a token reads its key, hashes and writes the password, and then deletes the key. An issued
    claim token supersedes the one that the admin's pointer names: the pointer is read, that token is deleted, and
    the new token and the pointer are written, one after the other. Any number of calls run at once. -/

namespace Redeemo.EmailedTokens
open Runs Expiring
open MerchantSession (Delivery)

def PWD_RESET_TTL : ℕ := 3600

def CLAIM_TTL : ℕ := 7 * 24 * 3600

def TEMP_TOKEN_TTL : ℕ := 1800

inductive ResetRole
  | customer
  | merchant
  | admin
  deriving DecidableEq

inductive Purpose
  | claim
  | reset (role : ResetRole)
  /-- The first login of a branch user. -/
  | temp
  deriving DecidableEq

namespace Purpose

def ttl : Purpose → ℕ
  | .claim => CLAIM_TTL
  | .reset _ => PWD_RESET_TTL
  | .temp => TEMP_TOKEN_TTL

/-- The error where there is no such token. -/
def missing : Purpose → AppError
  | .claim => .CLAIM_TOKEN_EXPIRED
  | .reset _ => .RESET_TOKEN_EXPIRED
  | .temp => .ACTION_TOKEN_INVALID

end Purpose

/-- `merchant-claim:`, `pwd-reset:` with a role, `branch-temp:`; and `merchant-claim-current:`. -/
inductive Key
  | token (purpose : Purpose) (token : String)
  | merchantClaimCurrent (adminId : String)
  deriving DecidableEq

/-- The values are ids of accounts, and for a pointer the token. The clock is in milliseconds. -/
abbrev Redis := Expiring Key String

inductive Call
  | issueMerchantClaim (adminId : String)
  | forgotPassword (role : ResetRole)
  /-- By a branch user who has to change the password. -/
  | loginBranchUser
  | claimMerchantAccount (token newPassword : String)
  | resetPassword (role : ResetRole) (token newPassword : String)
  | changePasswordFirstLogin (tempToken newPassword : String)

inductive Phase
  | issue (purpose : Purpose)
  /-- The account is known. -/
  | granted (purpose : Purpose) (entityId : String)
  | issueClaim (adminId : String)
  | superseding (adminId priorToken : String)
  | storing (adminId : String) (priorToken : Option String)
  | pointing (adminId token : String)
  | present (purpose : Purpose) (token : String)
  | found (purpose : Purpose) (token entityId : String)
  /-- The password is written. -/
  | used (purpose : Purpose) (token entityId : String)
  | clearing (token adminId : String)
  | done
  | failed (e : Option AppError)
  deriving DecidableEq

section
variable (validatePasswordPolicy : String → Bool)

def present (purpose : Purpose) (token newPassword : String) : Phase :=
  if validatePasswordPolicy newPassword = true then .present purpose token
  else .failed (some .PASSWORD_POLICY_VIOLATION)

def Call.start : Call → Phase
  | .issueMerchantClaim adminId => .issueClaim adminId
  | .forgotPassword role => .issue (.reset role)
  | .loginBranchUser => .issue .temp
  | .claimMerchantAccount token newPassword => present validatePasswordPolicy .claim token newPassword
  | .resetPassword role token newPassword => present validatePasswordPolicy (.reset role) token newPassword
  | .changePasswordFirstLogin tempToken newPassword => present validatePasswordPolicy .temp tempToken newPassword

end

inductive Event
  | tick (ms : ℕ)
  | command (d : Delivery)
  /-- The account that is looked up. -/
  | account (entityId : Option String)
  /-- A new token is stored, as drawn. -/
  | store (token : String) (d : Delivery)
  /-- The update of the account. -/
  | update (d : Delivery)
  deriving DecidableEq

/-- Redis, and what has become of the tokens. -/
structure Store (ι : Type*) where
  redis : Redis
  /-- The tokens by which passwords were set, the last one first. -/
  changes : List (Purpose × String)
  /-- Those of them that are still to be deleted. -/
  undeleted : List (Purpose × String)
  /-- A claim token of the admin that is stored while the pointer is still to be written, and by which call. -/
  unpointed : String → Option (ι × String)
  /-- The tokens that were ever stored, or named by a pointer. -/
  known : Purpose → String → Prop

section
variable {ι : Type*}

/-- What a command does to the store. -/
def Delivery.toStore (d : Delivery) (f : Store ι → Store ι) (s : Store ι) : Store ι :=
  if d.executed = true then f s else s

/-- A reply that is lost is an error. -/
def afterCommand (d : Delivery) (phase : Phase) : Phase :=
  match d with
  | .delivered => phase
  | .lost _ => .failed none

/-- `SET … EX`. -/
def set (key : Key) (value : String) (seconds : ℕ) (r : Redis) : Redis := r.setEx key value (1000 * seconds)

namespace Store

def setToken (purpose : Purpose) (token entityId : String) (s : Store ι) : Store ι :=
  { s with
    redis := set (.token purpose token) entityId purpose.ttl s.redis
    known := fun p t => s.known p t ∨ p = purpose ∧ t = token }

def setClaim (i : ι) (adminId token : String) (s : Store ι) : Store ι :=
  { s.setToken .claim token adminId with
    unpointed := fun a => if a = adminId then some (i, token) else s.unpointed a }

def setPointer (adminId token : String) (s : Store ι) : Store ι :=
  { s with
    redis := set (.merchantClaimCurrent adminId) token CLAIM_TTL s.redis
    unpointed := fun a => if a = adminId then none else s.unpointed a }

def delPrior (priorToken : String) (s : Store ι) : Store ι :=
  { s with redis := s.redis.del (.token .claim priorToken) }

/-- The update of the account. -/
def setPassword (purpose : Purpose) (token : String) (s : Store ι) : Store ι :=
  { s with changes := (purpose, token) :: s.changes, undeleted := (purpose, token) :: s.undeleted }

def delUsed (purpose : Purpose) (token : String) (s : Store ι) : Store ι :=
  { s with
    redis := s.redis.del (.token purpose token)
    undeleted := s.undeleted.filter (· ≠ (purpose, token)) }

def delPointer (adminId : String) (s : Store ι) : Store ι :=
  { s with redis := s.redis.del (.merchantClaimCurrent adminId) }

end Store

/-- One step of a call. -/
def next (i : ι) (s : Store ι) : Phase → Event → Option (Store ι × Phase)
  | phase, .tick ms => some ({ s with redis := s.redis.advance ms }, phase)
  | .issue purpose, .account entityId =>
    some (s, match entityId with
      | none => .done
      | some entityId => .granted purpose entityId)
  | .granted purpose entityId, .store token d =>
    some (Delivery.toStore d (.setToken purpose token entityId) s, afterCommand d .done)
  | .issueClaim adminId, .command .delivered =>
    some (s, match s.redis.get (.merchantClaimCurrent adminId) with
      | none => .storing adminId none
      | some priorToken => .superseding adminId priorToken)
  | .issueClaim _, .command (.lost _) => some (s, .failed none)
  | .superseding adminId priorToken, .command d =>
    some (Delivery.toStore d (.delPrior priorToken) s, afterCommand d (.storing adminId (some priorToken)))
  | .storing adminId _, .store token d =>
    some (Delivery.toStore d (.setClaim i adminId token) s, afterCommand d (.pointing adminId token))
  | .pointing adminId token, .command d =>
    some (Delivery.toStore d (.setPointer adminId token) s, afterCommand d .done)
  | .present purpose token, .command .delivered =>
    some (s, match s.redis.get (.token purpose token) with
      | none => .failed (some purpose.missing)
      | some entityId => .found purpose token entityId)
  | .present _ _, .command (.lost _) => some (s, .failed none)
  | .found purpose token entityId, .update d =>
    some (Delivery.toStore d (.setPassword purpose token) s, afterCommand d (.used purpose token entityId))
  | .used purpose token entityId, .command d =>
    some (Delivery.toStore d (.delUsed purpose token) s,
      afterCommand d (if purpose = .claim then .clearing token entityId else .done))
  | .clearing _ adminId, .command d => some (Delivery.toStore d (.delPointer adminId) s, afterCommand d .done)
  | _, _ => none

variable [DecidableEq ι]

def step : Pool ι (Store ι) Phase → ι × Event → Option (Pool ι (Store ι) Phase) := poolStep next

/-- Any store at any time, and no call has begun. -/
def opened (validatePasswordPolicy : String → Bool) (calls : ι → Call) (r : Redis) : Pool ι (Store ι) Phase where
  store :=
    { redis := r
      changes := []
      undeleted := []
      unpointed := fun _ => none
      known := fun purpose token => r.entries (.token purpose token) ≠ none ∨
        purpose = .claim ∧ ∃ adminId e, r.entries (.merchantClaimCurrent adminId) = some e ∧ e.value = token }
  proc i := (calls i).start validatePasswordPolicy

end

/-! ### What a run must keep to -/

/-- A token is drawn at random. -/
def FreshDraw {ι : Type*} (s : Pool ι (Store ι) Phase) (a : ι × Event) : Prop :=
  ∀ token d, a.2 = .store token d → ∀ purpose, ¬ s.store.known purpose token

/-- A password is set by a token that was not deleted meanwhile, and that has not set another one; a claim token is
    stored while the pointer names no token but the one that was read, and every other token is pointed to; and the
    pointer is deleted while it names no token but the one that was used. -/
structure Orderly {ι : Type*} (s : Pool ι (Store ι) Phase) (a : ι × Event) : Prop where
  uses : ∀ purpose token entityId d, s.proc a.1 = .found purpose token entityId → a.2 = .update d →
    d.executed = true → s.store.redis.entries (.token purpose token) ≠ none ∧ (purpose, token) ∉ s.store.undeleted
  stores : ∀ adminId priorToken token d, s.proc a.1 = .storing adminId priorToken → a.2 = .store token d →
    d.executed = true → s.store.unpointed adminId = none ∧
      ∀ t ∈ s.store.redis.get (.merchantClaimCurrent adminId), priorToken = some t
  clears : ∀ token adminId d, s.proc a.1 = .clearing token adminId → a.2 = .command d → d.executed = true →
    ∀ t ∈ s.store.redis.get (.merchantClaimCurrent adminId), t = token

/-- The pointer names the token, and stays as long. -/
def Pointed (r : Redis) (adminId token : String) : Prop :=
  ∃ e, r.entries (.merchantClaimCurrent adminId) = some e ∧ e.value = token ∧
    ∀ e', r.entries (.token .claim token) = some e' → e'.expiresAt ≤ e.expiresAt

def Live (r : Redis) (adminId token : String) : Prop := r.get (.token .claim token) = some adminId

/-! ### What holds of the store -/

structure Sound {ι : Type*} (s : Store ι) : Prop where
  once : s.changes.Nodup
  spent : ∀ purpose token, (purpose, token) ∈ s.changes →
    s.redis.entries (.token purpose token) = none ∨ (purpose, token) ∈ s.undeleted
  changed : ∀ purpose token, (purpose, token) ∈ s.changes → s.known purpose token
  stored : ∀ purpose token, s.redis.entries (.token purpose token) ≠ none → s.known purpose token
  named : ∀ adminId e, s.redis.entries (.merchantClaimCurrent adminId) = some e → s.known .claim e.value
  pointed : ∀ adminId, s.unpointed adminId = none → ∀ token, Live s.redis adminId token → Pointed s.redis adminId token
  alone : ∀ adminId i token, s.unpointed adminId = some (i, token) → ∀ t, Live s.redis adminId t → t = token
  timely : ∀ adminId i token, s.unpointed adminId = some (i, token) →
    s.redis.Within (1000 * CLAIM_TTL) (.token .claim token)

/-- What is true of what a call has read, and of what it has stored. -/
def Holds {ι : Type*} (i : ι) (s : Store ι) : Phase → Prop
  | .issue purpose => purpose ≠ .claim
  | .granted purpose _ => purpose ≠ .claim
  | .superseding _ priorToken => s.known .claim priorToken
  | .storing _ priorToken => ∀ t ∈ priorToken, s.known .claim t ∧ s.redis.entries (.token .claim t) = none
  | .pointing adminId token => s.unpointed adminId = some (i, token) ∧ s.known .claim token
  | .found purpose token _ => s.known purpose token
  | .used purpose token _ => s.known purpose token
  | .clearing token _ => s.known .claim token ∧ s.redis.entries (.token .claim token) = none
  | _ => True

/-- Everything that an orderly step may do to the store. -/
inductive Moves {ι : Type*} (i : ι) (s : Store ι) : Store ι → Prop
  | stay : Moves i s s
  | tick (ms : ℕ) : Moves i s { s with redis := s.redis.advance ms }
  | issue (purpose : Purpose) (token entityId : String) (hclaim : purpose ≠ .claim) (hfresh : ¬ s.known purpose token) :
      Moves i s (s.setToken purpose token entityId)
  | supersede (priorToken : String) : Moves i s (s.delPrior priorToken)
  | issueClaim (adminId token : String) (hfresh : ¬ s.known .claim token) (hnone : s.unpointed adminId = none)
      (hlive : ∀ t, ¬ Live s.redis adminId t) : Moves i s (s.setClaim i adminId token)
  | point (adminId token : String) (hmine : s.unpointed adminId = some (i, token)) (hknown : s.known .claim token) :
      Moves i s (s.setPointer adminId token)
  | change (purpose : Purpose) (token : String) (hthere : s.redis.entries (.token purpose token) ≠ none)
      (hunused : (purpose, token) ∉ s.undeleted) : Moves i s (s.setPassword purpose token)
  | use (purpose : Purpose) (token : String) : Moves i s (s.delUsed purpose token)
  | clear (adminId : String) (hlive : s.unpointed adminId = none → ∀ t, ¬ Live s.redis adminId t) :
      Moves i s (s.delPointer adminId)

section
variable {ι : Type*} {i j : ι} {s s' : Store ι} {r : Redis} {phase phase' : Phase} {adminId token entityId : String}
  {purpose : Purpose} {key : Key} {ms ttl : ℕ}

theorem unpointed_setClaim (a : String) :
    (s.setClaim i adminId token).unpointed a = if a = adminId then some (i, token) else s.unpointed a := rfl

theorem redis_setPointer : (s.setPointer adminId token).redis =
    s.redis.setEx (.merchantClaimCurrent adminId) token (1000 * CLAIM_TTL) := rfl

theorem unpointed_setPointer (a : String) :
    (s.setPointer adminId token).unpointed a = if a = adminId then none else s.unpointed a := rfl

theorem redis_delPointer : (s.delPointer adminId).redis = s.redis.del (.merchantClaimCurrent adminId) := rfl

theorem live_advance (h : Live (r.advance ms) adminId token) : Live r adminId token := get_of_advance h

theorem live_del (h : Live (r.del key) adminId token) : Live r adminId token := get_of_del h

theorem live_setEx_of_ne {value : String} (hne : Key.token .claim token ≠ key) :
    Live (r.setEx key value ttl) adminId token ↔ Live r adminId token := by
  unfold Live
  rw [get_setEx_of_ne hne]

/-- A token that is stored for an admin is live for no other one. -/
theorem live_setEx_self {value : String} (h : Live (r.setEx (.token .claim token) value ttl) adminId token) :
    value = adminId := by
  rw [Live, get_setEx_self] at h
  exact Option.some.inj h

theorem Pointed.del (h : Pointed r adminId token) (hne : Key.merchantClaimCurrent adminId ≠ key) :
    Pointed (r.del key) adminId token := by
  obtain ⟨e, he, hvalue, hlater⟩ := h
  exact ⟨e, by rw [entries_del_of_ne hne, he], hvalue, fun e' he' => hlater e' (entries_del_eq_some he')⟩

theorem Pointed.setEx {value : String} (h : Pointed r adminId token) (hne : Key.merchantClaimCurrent adminId ≠ key)
    (htoken : Key.token .claim token ≠ key) : Pointed (r.setEx key value ttl) adminId token := by
  obtain ⟨e, he, hvalue, hlater⟩ := h
  refine ⟨e, by rw [entries_setEx_of_ne hne, he], hvalue, fun e' he' => ?_⟩
  rw [entries_setEx_of_ne htoken] at he'
  exact hlater e' he'

/-- The pointer is there as long as the token is. -/
theorem Pointed.get (h : Pointed r adminId token) (hlive : Live r adminId token) :
    r.get (.merchantClaimCurrent adminId) = some token := by
  obtain ⟨e, he, hvalue, hlater⟩ := h
  obtain ⟨e', he', -, hle⟩ := get_eq_some.mp hlive
  exact get_eq_some.mpr ⟨e, he, hvalue, hle.trans (hlater e' he')⟩

/-! ### Every move keeps the store sound -/

theorem sound_tick (hs : Sound s) : Sound { s with redis := s.redis.advance ms } where
  once := hs.once
  spent := hs.spent
  changed := hs.changed
  stored := hs.stored
  named := hs.named
  pointed a hnone t ht := hs.pointed a hnone t (live_advance ht)
  alone a j t hsome t' ht' := hs.alone a j t hsome t' (live_advance ht')
  timely a j t hsome := (hs.timely a j t hsome).advance

theorem sound_drop {undeleted : List (Purpose × String)} (hs : Sound s)
    (hkept : ∀ k ∈ s.undeleted, k ∈ undeleted ∨ k = (purpose, token)) :
    Sound { s with redis := s.redis.del (.token purpose token), undeleted := undeleted } where
  once := hs.once
  spent p t hmem := by
    rcases hs.spent p t hmem with hnone | hundeleted
    · exact .inl (entries_del_eq_none hnone)
    · rcases hkept _ hundeleted with hstill | heq
      · exact .inr hstill
      · cases heq
        exact .inl entries_del_self
  changed := hs.changed
  stored p t hsome := hs.stored p t fun hnone => hsome (entries_del_eq_none hnone)
  named a e he := hs.named a e (entries_del_eq_some he)
  pointed a hnone t ht := (hs.pointed a hnone t (live_del ht)).del (by simp)
  alone a j t hsome t' ht' := hs.alone a j t hsome t' (live_del ht')
  timely a j t hsome := (hs.timely a j t hsome).del

theorem sound_use (hs : Sound s) : Sound (s.delUsed purpose token) := by
  refine sound_drop hs fun k hk => ?_
  by_cases hused : k = (purpose, token)
  · exact .inr hused
  · exact .inl (List.mem_filter.mpr ⟨hk, decide_eq_true hused⟩)

/-- A token that was ever stored is not drawn again. -/
theorem token_ne_of_known {p : Purpose} {t : String} (hfresh : ¬ s.known purpose token) (hknown : s.known p t) :
    Key.token p t ≠ .token purpose token := by
  intro heq
  cases heq
  exact hfresh hknown

theorem spent_set {value : String} (hs : Sound s) (hfresh : ¬ s.known purpose token) {p : Purpose} {t : String}
    (hmem : (p, t) ∈ s.changes) :
    (s.redis.setEx (.token purpose token) value ttl).entries (.token p t) = none ∨ (p, t) ∈ s.undeleted := by
  rw [entries_setEx_of_ne (token_ne_of_known hfresh (hs.changed p t hmem))]
  exact hs.spent p t hmem

theorem stored_set {value : String} (hs : Sound s) {p : Purpose} {t : String}
    (hsome : (s.redis.setEx (.token purpose token) value ttl).entries (.token p t) ≠ none) :
    s.known p t ∨ p = purpose ∧ t = token := by
  by_cases heq : Key.token p t = .token purpose token
  · cases heq
    exact .inr ⟨rfl, rfl⟩
  · rw [entries_setEx_of_ne heq] at hsome
    exact .inl (hs.stored p t hsome)

theorem named_set {value : String} (hs : Sound s) {a : String} {e : ExpiringEntry String}
    (he : (s.redis.setEx (.token purpose token) value ttl).entries (.merchantClaimCurrent a) = some e) :
    s.known .claim e.value := by
  rw [entries_setEx_of_ne (by simp)] at he
  exact hs.named a e he

theorem sound_issue (hs : Sound s) (hclaim : purpose ≠ .claim) (hfresh : ¬ s.known purpose token) :
    Sound (s.setToken purpose token entityId) := by
  have hne (t : String) : Key.token .claim t ≠ .token purpose token := by
    intro heq
    cases heq
    exact hclaim rfl
  exact
    { once := hs.once
      spent := fun p t hmem => spent_set hs hfresh hmem
      changed := fun p t hmem => .inl (hs.changed p t hmem)
      stored := fun p t hsome => stored_set hs hsome
      named := fun a e he => .inl (named_set hs he)
      pointed := fun a hnone t ht =>
        (hs.pointed a hnone t ((live_setEx_of_ne (hne t)).mp ht)).setEx (by simp) (hne t)
      alone := fun a j t hsome t' ht' => hs.alone a j t hsome t' ((live_setEx_of_ne (hne t')).mp ht')
      timely := fun a j t hsome e he => by
        have he' : (s.redis.setEx (.token purpose token) entityId (1000 * purpose.ttl)).entries (.token .claim t) =
            some e := he
        rw [entries_setEx_of_ne (hne t)] at he'
        exact hs.timely a j t hsome e he' }

/-- A claim token is stored while the admin has no live one. -/
theorem sound_issueClaim (hs : Sound s) (hfresh : ¬ s.known .claim token) (hlive : ∀ t, ¬ Live s.redis adminId t) :
    Sound (s.setClaim i adminId token) where
  once := hs.once
  spent p t hmem := spent_set hs hfresh hmem
  changed p t hmem := .inl (hs.changed p t hmem)
  stored p t hsome := stored_set hs hsome
  named a e he := .inl (named_set hs he)
  pointed a hnone t ht := by
    rw [unpointed_setClaim] at hnone
    split_ifs at hnone with ha
    by_cases heq : t = token
    · subst heq
      exact absurd (live_setEx_self ht).symm ha
    · have hkey : Key.token .claim t ≠ .token .claim token := by simpa using heq
      exact (hs.pointed a hnone t ((live_setEx_of_ne hkey).mp ht)).setEx (by simp) hkey
  alone a j t hsome t' ht' := by
    have hback (hne : t' ≠ token) : Live s.redis a t' := (live_setEx_of_ne (by simpa using hne)).mp ht'
    rw [unpointed_setClaim] at hsome
    split_ifs at hsome with ha
    · subst ha
      cases hsome
      by_contra hne
      exact hlive t' (hback hne)
    · refine hs.alone a j t hsome t' (hback fun heq => ?_)
      subst heq
      exact ha (live_setEx_self ht').symm
  timely a j t hsome := by
    rw [unpointed_setClaim] at hsome
    split_ifs at hsome with ha
    · cases hsome
      intro e he
      cases (entries_setEx_self (s := s.redis) (k := Key.token .claim token)).symm.trans he
      exact le_rfl
    · exact (hs.timely a j t hsome).setEx

theorem sound_point (hs : Sound s) (hmine : s.unpointed adminId = some (i, token)) (hknown : s.known .claim token) :
    Sound (s.setPointer adminId token) where
  once := hs.once
  spent p t hmem := by
    rw [redis_setPointer, entries_setEx_of_ne (by simp)]
    exact hs.spent p t hmem
  changed := hs.changed
  stored p t hsome := by
    rw [redis_setPointer, entries_setEx_of_ne (by simp)] at hsome
    exact hs.stored p t hsome
  named a e he := by
    rw [redis_setPointer] at he
    by_cases ha : a = adminId
    · subst ha
      rw [entries_setEx_self] at he
      cases he
      exact hknown
    · rw [entries_setEx_of_ne (by simpa using ha)] at he
      exact hs.named a e he
  pointed a hnone t ht := by
    have ht' : Live s.redis a t := (live_setEx_of_ne (by simp)).mp ht
    by_cases ha : a = adminId
    · subst ha
      obtain rfl := hs.alone a i token hmine t ht'
      refine ⟨_, entries_setEx_self, rfl, fun e he => ?_⟩
      rw [redis_setPointer, entries_setEx_of_ne (by simp)] at he
      exact hs.timely a i t hmine e he
    · rw [unpointed_setPointer, if_neg ha] at hnone
      exact (hs.pointed a hnone t ht').setEx (by simpa using ha) (by simp)
  alone a j t hsome t' ht' := by
    rw [unpointed_setPointer] at hsome
    split_ifs at hsome
    exact hs.alone a j t hsome t' ((live_setEx_of_ne (by simp)).mp ht')
  timely a j t hsome := by
    rw [unpointed_setPointer] at hsome
    split_ifs at hsome
    intro e he
    rw [redis_setPointer, entries_setEx_of_ne (by simp)] at he
    exact hs.timely a j t hsome e he

theorem sound_change (hs : Sound s) (hthere : s.redis.entries (.token purpose token) ≠ none)
    (hunused : (purpose, token) ∉ s.undeleted) :
    Sound (s.setPassword purpose token) where
  once := List.nodup_cons.mpr ⟨fun hmem => (hs.spent purpose token hmem).elim hthere hunused, hs.once⟩
  spent p t hmem := by
    rcases List.mem_cons.mp hmem with heq | hmem
    · rw [heq]
      exact .inr (List.mem_cons_self ..)
    · exact (hs.spent p t hmem).imp_right (List.mem_cons_of_mem _)
  changed p t hmem := by
    rcases List.mem_cons.mp hmem with heq | hmem
    · cases heq
      exact hs.stored purpose token hthere
    · exact hs.changed p t hmem
  stored := hs.stored
  named := hs.named
  pointed := hs.pointed
  alone := hs.alone
  timely := hs.timely

theorem sound_clear (hs : Sound s) (hlive : s.unpointed adminId = none → ∀ t, ¬ Live s.redis adminId t) :
    Sound (s.delPointer adminId) where
  once := hs.once
  spent p t hmem := by
    rw [redis_delPointer, entries_del_of_ne (by simp)]
    exact hs.spent p t hmem
  changed := hs.changed
  stored p t hsome := hs.stored p t fun hnone => hsome (entries_del_eq_none hnone)
  named a e he := hs.named a e (entries_del_eq_some he)
  pointed a hnone t ht := by
    have ht' : Live s.redis a t := live_del ht
    refine (hs.pointed a hnone t ht').del fun heq => ?_
    cases heq
    exact hlive hnone t ht'
  alone a j t hsome t' ht' := hs.alone a j t hsome t' (live_del ht')
  timely a j t hsome := (hs.timely a j t hsome).del

theorem sound_moves (hs : Sound s) (h : Moves i s s') : Sound s' := by
  cases h with
  | stay => exact hs
  | tick ms => exact sound_tick hs
  | supersede priorToken => exact sound_drop hs fun k hk => .inl hk
  | use purpose token => exact sound_use hs
  | issue purpose token entityId hclaim hfresh => exact sound_issue hs hclaim hfresh
  | issueClaim adminId token hfresh hnone hlive => exact sound_issueClaim hs hfresh hlive
  | point adminId token hmine hknown => exact sound_point hs hmine hknown
  | change purpose token hthere hunused => exact sound_change hs hthere hunused
  | clear adminId hlive => exact sound_clear hs hlive

/-! ### What one call has read stays true while the others move -/

theorem known_moves (h : Moves i s s') (hknown : s.known purpose token) : s'.known purpose token := by
  cases h with
  | issue p t entityId hclaim hfresh => exact .inl hknown
  | issueClaim a t hfresh hnone hlive => exact .inl hknown
  | _ => exact hknown

/-- A deleted token stays so. -/
theorem gone_moves (h : Moves i s s') (hknown : s.known purpose token)
    (hnone : s.redis.entries (.token purpose token) = none) : s'.redis.entries (.token purpose token) = none := by
  cases h with
  | stay => exact hnone
  | tick ms => exact hnone
  | supersede t => exact entries_del_eq_none hnone
  | use p t => exact entries_del_eq_none hnone
  | issue p t entityId hclaim hfresh =>
    exact (entries_setEx_of_ne (token_ne_of_known hfresh hknown)).trans hnone
  | issueClaim a t hfresh hunpointed hlive =>
    exact (entries_setEx_of_ne (token_ne_of_known hfresh hknown)).trans hnone
  | point a t hmine hknown' => exact (entries_setEx_of_ne (by simp)).trans hnone
  | change p t hthere hunused => exact hnone
  | clear a hlive => exact entries_del_eq_none hnone

theorem unpointed_moves (h : Moves i s s') (hji : j ≠ i) (hmine : s.unpointed adminId = some (j, token)) :
    s'.unpointed adminId = some (j, token) := by
  cases h with
  | issueClaim a t hfresh hnone hlive =>
    rw [unpointed_setClaim]
    split_ifs with ha
    · subst ha
      cases hnone.symm.trans hmine
    · exact hmine
  | point a t hother hknown =>
    rw [unpointed_setPointer]
    split_ifs with ha
    · subst ha
      cases hother.symm.trans hmine
      exact absurd rfl hji
    · exact hmine
  | _ => exact hmine

theorem holds_moves (h : Moves i s s') (hji : j ≠ i) (hj : Holds j s phase) : Holds j s' phase := by
  cases phase with
  | issue purpose => exact hj
  | granted purpose entityId => exact hj
  | superseding adminId priorToken => exact known_moves h hj
  | storing adminId priorToken =>
    exact fun t ht => ⟨known_moves h (hj t ht).1, gone_moves h (hj t ht).1 (hj t ht).2⟩
  | pointing adminId token => exact ⟨unpointed_moves h hji hj.1, known_moves h hj.2⟩
  | found purpose token entityId => exact known_moves h hj
  | used purpose token entityId => exact known_moves h hj
  | clearing token adminId => exact ⟨known_moves h hj.1, gone_moves h hj.1 hj.2⟩
  | _ => trivial

/-! ### What one step does -/

theorem holds_start {policy : String → Bool} {call : Call} : Holds i s (call.start policy) := by
  cases call with
  | issueMerchantClaim adminId => trivial
  | forgotPassword role => exact Purpose.noConfusion
  | loginBranchUser => exact Purpose.noConfusion
  | _ =>
    rw [Call.start, present]
    split_ifs <;> trivial

theorem holds_tick (h : Holds i s phase) : Holds i { s with redis := s.redis.advance ms } phase := by
  cases phase <;> exact h

/-- A command that was executed moves the store, and its reply moves the call. -/
theorem moves_afterCommand {f : Store ι → Store ι} (d : Delivery) (hmoves : d.executed = true → Moves i s (f s))
    (hholds : d.executed = true → Holds i (f s) phase) :
    Moves i s (Delivery.toStore d f s) ∧ Holds i (Delivery.toStore d f s) (afterCommand d phase) := by
  cases d with
  | delivered => exact ⟨hmoves rfl, hholds rfl⟩
  | lost executed =>
    cases executed with
    | true => exact ⟨hmoves rfl, trivial⟩
    | false => exact ⟨.stay, trivial⟩

/-- The token that a pointer names is known. -/
theorem known_of_get (hs : Sound s) (h : s.redis.get (.merchantClaimCurrent adminId) = some token) :
    s.known .claim token := by
  obtain ⟨e, he, hvalue, -⟩ := get_eq_some.mp h
  exact hvalue ▸ hs.named adminId e he

theorem known_of_live (hs : Sound s) (h : s.redis.get (.token purpose token) = some entityId) :
    s.known purpose token := by
  obtain ⟨e, he, -, -⟩ := get_eq_some.mp h
  refine hs.stored purpose token ?_
  rw [he]
  exact Option.some_ne_none e

/-- Where the pointer names nothing but deleted tokens, no token is live. -/
theorem not_live_of_deleted (hs : Sound s) (hnone : s.unpointed adminId = none)
    (hdeleted : ∀ t ∈ s.redis.get (.merchantClaimCurrent adminId), s.redis.entries (.token .claim t) = none)
    (t : String) :
    ¬ Live s.redis adminId t := by
  intro hlive
  have hget : s.redis.get (.merchantClaimCurrent adminId) = some t := (hs.pointed adminId hnone t hlive).get hlive
  exact Option.some_ne_none _ (hlive.symm.trans (get_eq_none (hdeleted t hget)))

theorem next_ok [DecidableEq ι] {s : Pool ι (Store ι) Phase} {a : ι × Event} {store : Store ι} (hs : Sound s.store)
    (hi : Holds a.1 s.store (s.proc a.1)) (hfresh : FreshDraw s a) (horderly : Orderly s a)
    (h : next a.1 s.store (s.proc a.1) a.2 = some (store, phase)) :
    Moves a.1 s.store store ∧ Holds a.1 store phase := by
  unfold next at h
  split at h
  · rename_i ms hevent
    cases h
    exact ⟨.tick ms, holds_tick hi⟩
  · rename_i purpose entityId hphase hevent
    cases h
    rw [hphase] at hi
    refine ⟨.stay, ?_⟩
    cases entityId with
    | none => trivial
    | some entityId => exact hi
  · rename_i purpose entityId token d hphase hevent
    cases h
    rw [hphase] at hi
    exact moves_afterCommand d (fun _ => .issue purpose token entityId hi (hfresh token d hevent purpose))
      fun _ => trivial
  · rename_i adminId hphase hevent
    cases h
    refine ⟨.stay, ?_⟩
    cases hprior : s.store.redis.get (.merchantClaimCurrent adminId) with
    | none => exact fun t ht => absurd ht (Option.not_mem_none t)
    | some priorToken => exact known_of_get hs hprior
  · cases h
    exact ⟨.stay, trivial⟩
  · rename_i adminId priorToken d hphase hevent
    cases h
    rw [hphase] at hi
    refine moves_afterCommand d (fun _ => .supersede priorToken) fun _ t ht => ?_
    cases ht
    exact ⟨hi, entries_del_self⟩
  · -- No token of the admin is live: the pointer names none, or the one that was deleted.
    rename_i adminId priorToken token d hphase hevent
    cases h
    rw [hphase] at hi
    have hnew := hfresh token d hevent .claim
    refine moves_afterCommand d (fun hexecuted => ?_) fun _ => ⟨if_pos rfl, .inr ⟨rfl, rfl⟩⟩
    obtain ⟨hnone, hprior⟩ := horderly.stores adminId priorToken token d hphase hevent hexecuted
    exact .issueClaim adminId token hnew hnone (not_live_of_deleted hs hnone fun t ht => (hi t (hprior t ht)).2)
  · rename_i adminId token d hphase hevent
    cases h
    rw [hphase] at hi
    exact moves_afterCommand d (fun _ => .point adminId token hi.1 hi.2) fun _ => trivial
  · rename_i purpose token hphase hevent
    cases h
    refine ⟨.stay, ?_⟩
    cases hfound : s.store.redis.get (.token purpose token) with
    | none => trivial
    | some entityId => exact known_of_live hs hfound
  · cases h
    exact ⟨.stay, trivial⟩
  · rename_i purpose token entityId d hphase hevent
    cases h
    rw [hphase] at hi
    refine moves_afterCommand d (fun hexecuted => ?_) fun _ => hi
    obtain ⟨hthere, hunused⟩ := horderly.uses purpose token entityId d hphase hevent hexecuted
    exact .change purpose token hthere hunused
  · rename_i purpose token entityId d hphase hevent
    cases h
    rw [hphase] at hi
    refine moves_afterCommand d (fun _ => .use purpose token) fun _ => ?_
    split_ifs with hclaim
    · subst hclaim
      exact ⟨hi, entries_del_self⟩
    · trivial
  · -- The pointer names none, or the token that was deleted.
    rename_i token adminId d hphase hevent
    cases h
    rw [hphase] at hi
    refine moves_afterCommand d (fun hexecuted => ?_) fun _ => trivial
    refine .clear adminId fun hnone => not_live_of_deleted hs hnone fun t ht => ?_
    rw [horderly.clears token adminId d hphase hevent hexecuted t ht]
    exact hi.2
  · cases h

/-! ### Runs -/

/-- The store is sound, and every call may rely on what it has read. -/
structure Kept (s : Pool ι (Store ι) Phase) : Prop where
  sound : Sound s.store
  holds : ∀ i, Holds i s.store (s.proc i)

theorem kept_opened {policy : String → Bool} {calls : ι → Call}
    (hr : ∀ adminId t, Live r adminId t → Pointed r adminId t) :
    Kept (opened policy calls r) where
  sound :=
    { once := List.nodup_nil
      spent := fun _ _ hmem => absurd hmem List.not_mem_nil
      changed := fun _ _ hmem => absurd hmem List.not_mem_nil
      stored := fun _ _ hsome => .inl hsome
      named := fun a e he => .inr ⟨rfl, a, e, he, rfl⟩
      pointed := fun a _ t ht => hr a t ht
      alone := fun _ _ _ hsome => absurd hsome.symm (Option.some_ne_none _)
      timely := fun _ _ _ hsome => absurd hsome.symm (Option.some_ne_none _) }
  holds _ := holds_start

variable [DecidableEq ι]

theorem kept_step {s s' : Pool ι (Store ι) Phase} {a : ι × Event} (hs : Kept s) (hfresh : FreshDraw s a)
    (horderly : Orderly s a) (h : step s a = some s') : Kept s' := by
  obtain ⟨store, phase, hn, rfl⟩ := poolStep_eq_some.mp h
  obtain ⟨hmoves, hholds⟩ := next_ok hs.sound (hs.holds a.1) hfresh horderly hn
  refine ⟨sound_moves hs.sound hmoves,
    (Function.forall_update_iff _ fun j => Holds j store).mpr ⟨hholds, fun j hne => ?_⟩⟩
  exact holds_moves hmoves hne (hs.holds j)

omit [DecidableEq ι] in
/-- A token that is on its way to the pointer is the only one; the pointer names any other. -/
theorem Sound.live_unique {t t' : String} (hs : Sound s) (h : Live s.redis adminId t) (h' : Live s.redis adminId t') :
    t = t' := by
  cases hunpointed : s.unpointed adminId with
  | none =>
    have hget := (hs.pointed adminId hunpointed t h).get h
    exact Option.some.inj (hget.symm.trans ((hs.pointed adminId hunpointed t' h').get h'))
  | some mine =>
    obtain ⟨i, token⟩ := mine
    exact (hs.alone adminId i token hunpointed t h).trans (hs.alone adminId i token hunpointed t' h').symm

/-- Throughout an orderly interleaving of any number of calls, a token sets a password once at most, and an admin
    has one live claim token at most. -/
theorem tokens_once_and_superseded {policy : String → Bool} {calls : ι → Call} {as : List (ι × Event)}
    {s : Pool ι (Store ι) Phase} (hr : ∀ adminId t, Live r adminId t → Pointed r adminId t)
    (halong : Along step (fun s a => FreshDraw s a ∧ Orderly s a) (opened policy calls r) as)
    (h : run step (opened policy calls r) as = some s) :
    (∀ purpose token, s.store.changes.count (purpose, token) ≤ 1) ∧
    ∀ adminId t t', Live s.store.redis adminId t → Live s.store.redis adminId t' → t = t' := by
  have hkept : Kept s :=
    run_invariant_along (I := Kept) _ (fun s a s' hs ha hstep => kept_step hs ha.1 ha.2 hstep) halong (kept_opened hr) h
  refine ⟨fun purpose token => List.nodup_iff_count_le_one.mp hkept.sound.once _, fun adminId t t' ht ht' => ?_⟩
  exact hkept.sound.live_unique ht ht'

omit [DecidableEq ι] in
/-- Most commands have nothing to keep to. -/
theorem orderly_command {s : Pool ι (Store ι) Phase} {a : ι × Event} {d : Delivery} (ha : a.2 = .command d)
    (hclearing : ∀ token adminId, s.proc a.1 ≠ .clearing token adminId) : FreshDraw s a ∧ Orderly s a := by
  refine ⟨fun token d' hstore => ?_, ?_, ?_, fun token adminId d' hphase => absurd hphase (hclearing token adminId)⟩
  · cases ha.symm.trans hstore
  · intro purpose token entityId d' _ hupdate
    cases ha.symm.trans hupdate
  · intro adminId priorToken token d' _ hstore
    cases ha.symm.trans hstore

end

/-! ### Tokens that overlapping calls read -/

def demo : Redis := ⟨fun _ => none, 0⟩

/-- A reset link that is used twice at once. -/
def resets : List (Bool × Event) :=
  [(false, .command .delivered), (true, .command .delivered), (false, .update .delivered), (true, .update .delivered)]

/-- Two invitations of the same admin, sent at once. -/
def invitations : List (Bool × Event) :=
  [(false, .command .delivered), (true, .command .delivered), (false, .store "t1" .delivered),
    (true, .store "t2" .delivered), (false, .command .delivered), (true, .command .delivered)]

theorem token_used_twice_and_two_live :
    (∃ s, run step (opened (fun _ => true) (fun _ : Bool => .resetPassword .customer "t" "secret")
        (set (.token (.reset .customer) "t") "u" PWD_RESET_TTL demo)) resets = some s ∧
      s.store.changes.count (.reset .customer, "t") = 2) ∧
    ∃ s, run step (opened (fun _ => true) (fun _ : Bool => .issueMerchantClaim "m") demo) invitations = some s ∧
      Live s.store.redis "m" "t1" ∧ Live s.store.redis "m" "t2" :=
  ⟨⟨_, rfl, rfl⟩, ⟨_, rfl, rfl, rfl⟩⟩

/-- An invitation, and the claim. -/
def claimed : List (Bool × Event) :=
  [(false, .command .delivered), (false, .store "t" .delivered), (false, .command .delivered),
    (true, .command .delivered), (true, .update .delivered), (true, .command .delivered),
    (true, .command .delivered)]

def invited : Bool → Call
  | false => .issueMerchantClaim "m"
  | true => .claimMerchantAccount "t" "secret"

theorem tokens_once_and_superseded_claimed :
    ∃ s, run step (opened (fun _ => true) invited demo) claimed = some s ∧ s.store.changes = [(.claim, "t")] ∧
      s.store.changes.count (.claim, "t") ≤ 1 := by
  have halong : Along step (fun s a => FreshDraw s a ∧ Orderly s a) (opened (fun _ => true) invited demo) claimed := by
    refine ⟨orderly_command rfl fun _ _ => Phase.noConfusion, fun s hs => ?_⟩
    cases hs
    refine ⟨⟨fun token d h purpose => ?_, fun _ _ _ _ => Phase.noConfusion, fun a prior token d hphase _ _ => ?_,
      fun _ _ _ => Phase.noConfusion⟩, fun s hs => ?_⟩
    · rintro (hsome | ⟨-, a, e, he, -⟩)
      · exact hsome rfl
      · cases he
    · exact ⟨rfl, fun t ht => absurd ht (Option.not_mem_none t)⟩
    cases hs
    refine ⟨orderly_command rfl fun _ _ => Phase.noConfusion, fun s hs => ?_⟩
    cases hs
    refine ⟨orderly_command rfl fun _ _ => Phase.noConfusion, fun s hs => ?_⟩
    cases hs
    refine ⟨⟨fun token d h => Event.noConfusion h, fun purpose token entityId d hphase _ _ => ?_,
      fun _ _ _ _ => Phase.noConfusion, fun _ _ _ => Phase.noConfusion⟩, fun s hs => ?_⟩
    · cases hphase
      exact ⟨Option.some_ne_none _, List.not_mem_nil⟩
    cases hs
    refine ⟨orderly_command rfl fun _ _ => Phase.noConfusion, fun s hs => ?_⟩
    cases hs
    refine ⟨⟨fun token d h => Event.noConfusion h, fun _ _ _ _ => Phase.noConfusion,
      fun _ _ _ _ => Phase.noConfusion, fun token a d hphase _ _ t ht => ?_⟩, fun _ _ => trivial⟩
    cases hphase
    cases ht
    rfl
  have hends : ∃ s, run step (opened (fun _ => true) invited demo) claimed = some s ∧
      s.store.changes = [(.claim, "t")] := ⟨_, rfl, rfl⟩
  obtain ⟨s, hrun, hchanges⟩ := hends
  refine ⟨s, hrun, hchanges, ?_⟩
  exact (tokens_once_and_superseded (fun adminId t ht => absurd ht.symm (Option.some_ne_none _)) halong hrun).1 _ _

end Redeemo.EmailedTokens
