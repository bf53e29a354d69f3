import Redeemo.Auth.Challenges
import Redeemo.Lib.Records

/-! Whether a registration tells if the email is registered.

    A registration with the email of a verified account stores a decoy: a challenge that no code matches, of an
    account that does not exist. Whoever registers sees what becomes of the codes that follow. A wrong code does the
    same to both challenges; a resend renews the real one only. -/

namespace Redeemo.Registration
open Runs Expiring Records Challenges
open MerchantSession (hashesMatch)

structure MerchantAdmin where
  id : String
  email : String
  emailVerified : Bool
  deriving DecidableEq

inductive Email
  | merchantVerifyEmail (code : String)
  | merchantAccountExists
  deriving DecidableEq

structure Mail where
  address : String
  recipientId : String
  email : Email
  deriving DecidableEq

structure World where
  redis : Redis
  admins : List MerchantAdmin
  /-- The last one first. -/
  mail : List Mail

/-- The code of the last email. -/
def World.emailedCode (w : World) : Option String :=
  match w.mail with
  | ⟨_, _, .merchantVerifyEmail code⟩ :: _ => some code
  | _ => none

structure RegisterData where
  email : String
  password : String
  deviceId : String
  deviceType : String
  turnstileToken : String
  ipAddress : String

/-- What a registration draws, and what others do meanwhile. -/
structure Drawn where
  challenge : String
  code : String
  /-- 32 bytes in hexadecimal, for a decoy. -/
  randomHmac : String
  /-- The id of a new admin. -/
  adminId : String
  /-- The rows that other registrations have added since the email was looked up. -/
  meanwhile : List MerchantAdmin

/-- `email.trim().toLowerCase()`, of an address in ASCII. -/
def normalizeEmail (email : String) : String := String.ofList ((trim email).toList.map Char.toLower)

section
variable (hmac : String → String) (nodeEnv : String) (verifyTurnstile : String → String → Bool)
  (validatePasswordPolicy : String → Bool)

def storeMerchantVerifyChallenge (challenge adminId deviceId deviceType codeHmac : String) (r : Redis) : Redis :=
  r.setEx (RedisKey.merchantEmailVerify challenge) ⟨adminId, deviceId, deviceType, some codeHmac, some 0⟩
    (1000 * EMAIL_VERIFY_TTL)

/-- A challenge of the account, with the code emailed to it. -/
def challengeAccount (data : RegisterData) (drawn : Drawn) (adminId : String) (w : World) : World :=
  { w with
    redis := storeMerchantVerifyChallenge drawn.challenge adminId data.deviceId data.deviceType
      (codeHmacOf hmac drawn.challenge drawn.code) w.redis
    mail := ⟨normalizeEmail data.email, adminId, .merchantVerifyEmail drawn.code⟩ :: w.mail }

/-- A challenge of no account. -/
def challengeDecoy (data : RegisterData) (drawn : Drawn) (w : World) : World :=
  { w with
    redis := storeMerchantVerifyChallenge drawn.challenge "decoy" data.deviceId data.deviceType drawn.randomHmac
      w.redis }

/-- The transaction; `none` for `P2002`. -/
def createAdmin (adminId email : String) (admins : List MerchantAdmin) : Option (List MerchantAdmin) :=
  if admins.any (·.email = email) = true then none else some (admins ++ [⟨adminId, email, false⟩])

def register (data : RegisterData) (drawn : Drawn) (w : World) : World :=
  match w.admins.find? (·.email = normalizeEmail data.email) with
  | some existing =>
    if existing.emailVerified = true then
      let w := challengeDecoy data drawn w
      { w with mail := ⟨normalizeEmail data.email, existing.id, .merchantAccountExists⟩ :: w.mail }
    else challengeAccount hmac data drawn existing.id w
  | none =>
    match createAdmin drawn.adminId (normalizeEmail data.email) (w.admins ++ drawn.meanwhile) with
    | none => challengeDecoy data drawn { w with admins := w.admins ++ drawn.meanwhile }
    | some admins => challengeAccount hmac data drawn drawn.adminId { w with admins := admins }

/-- With the session challenge of the reply. -/
def registerMerchant (data : RegisterData) (drawn : Drawn) (w : World) : Except AppError (World × String) :=
  if verifyTurnstile data.turnstileToken data.ipAddress = false then .error .CAPTCHA_FAILED
  else if validatePasswordPolicy data.password = false then .error .PASSWORD_POLICY_VIOLATION
  else .ok (register hmac data drawn w, drawn.challenge)

def verifyEmailOf (adminId : String) (admins : List MerchantAdmin) : List MerchantAdmin :=
  admins.map fun admin => if admin.id = adminId then { admin with emailVerified := true } else admin

variable (sessionChallenge : String)

def verifyMerchantEmail (code : String) (w : World) : World × Except AppError Unit :=
  let key := RedisKey.merchantEmailVerify sessionChallenge
  match w.redis.get key with
  | none => (w, .error .VERIFICATION_TOKEN_INVALID)
  | some stored =>
    if isMatch hmac nodeEnv sessionChallenge stored code = true then
      match w.admins.find? (·.id = stored.adminId) with
      | none => ({ w with redis := w.redis.del key }, .error .INVALID_CREDENTIALS)
      | some admin => ({ w with redis := w.redis.del key, admins := verifyEmailOf admin.id w.admins }, .ok ())
    else ({ w with redis := writeBack key stored w.redis }, .error .OTP_INVALID)

/-- With the code that is drawn if there is an account to email it to. -/
def resendMerchantVerification (code : String) (w : World) : World × Except AppError Unit :=
  let key := RedisKey.merchantEmailVerify sessionChallenge
  match w.redis.get key with
  | none => (w, .ok ())
  | some stored =>
    match w.admins.find? (·.id = stored.adminId) with
    | none => (w, .ok ())
    | some admin =>
      if admin.emailVerified = true then (w, .ok ())
      else
        ({ w with
            redis := reissue hmac key sessionChallenge code stored w.redis
            mail := ⟨admin.email, stored.adminId, .merchantVerifyEmail code⟩ :: w.mail },
          .ok ())

inductive Op
  | tick (ms : ℕ)
  | verifyMerchantEmail (code : String)
  | resendMerchantVerification (code : String)
  deriving DecidableEq

/-- A call on the challenge and its outcome, or time that passes. -/
def perform (w : World) : Op → World × Option (Except AppError Unit)
  | .tick ms => ({ w with redis := w.redis.advance ms }, none)
  | .verifyMerchantEmail code =>
    let (w, outcome) := verifyMerchantEmail hmac nodeEnv sessionChallenge code w
    (w, some outcome)
  | .resendMerchantVerification code =>
    let (w, outcome) := resendMerchantVerification hmac sessionChallenge code w
    (w, some outcome)

def step (w : World) (op : Op) : Option World := some (perform hmac nodeEnv sessionChallenge w op).1

/-- What is seen from outside. -/
def outcomes : World → List Op → List (Except AppError Unit)
  | _, [] => []
  | w, op :: ops =>
    (perform hmac nodeEnv sessionChallenge w op).2.toList ++ outcomes (perform hmac nodeEnv sessionChallenge w op).1 ops

end

/-! ### How long a challenge lasts -/

/-- The wrong codes so far, and the milliseconds that are left. -/
structure Life where
  tries : ℕ
  left : ℕ
  deriving DecidableEq

def Life.new : Life := ⟨0, 1000 * EMAIL_VERIFY_TTL⟩

/-- What an operation makes of a challenge, one that a resend renews or one that it does not. -/
def Life.next (renewed : Bool) (life : Life) : Op → Option Life
  | .tick ms => if ms ≤ life.left then some { life with left := life.left - ms } else none
  | .verifyMerchantEmail _ =>
    if life.tries + 1 ≥ OTP_MAX_ATTEMPTS then none else some { life with tries := life.tries + 1 }
  | .resendMerchantVerification _ => some (if renewed = true then .new else life)

/-- What a wrong code, or a resend, is told. -/
def seen (life : Option Life) : Op → Option (Except AppError Unit)
  | .tick _ => none
  | .verifyMerchantEmail _ => some (.error (if life = none then .VERIFICATION_TOKEN_INVALID else .OTP_INVALID))
  | .resendMerchantVerification _ => some (.ok ())

def lifeOutcomes (renewed : Bool) : Option Life → List Op → List (Except AppError Unit)
  | _, [] => []
  | life, op :: ops => (seen life op).toList ++ lifeOutcomes renewed (life.bind (·.next renewed op)) ops

/-- A real challenge and a decoy, side by side. -/
def besides (p : Option Life × Option Life) (op : Op) : Option (Option Life × Option Life) :=
  some (p.1.bind (·.next true op), p.2.bind (·.next false op))

/-- A code does not come when the decoy is gone and the real challenge is still there. -/
def Hides (p : Option Life × Option Life) (op : Op) : Prop :=
  ∀ code, op = .verifyMerchantEmail code → p.2 = none → p.1 = none

/-- The real challenge lasts as long as the decoy. -/
def Lasts (p : Option Life × Option Life) : Prop :=
  ∀ decoy, p.2 = some decoy → decoy.left ≤ Life.new.left ∧
    ∃ real, p.1 = some real ∧ real.tries ≤ decoy.tries ∧ decoy.left ≤ real.left

section
variable {p q : Option Life × Option Life} {op : Op} {ops : List Op} {life : Option Life} {renewed : Bool}

theorem lasts_step (hp : Lasts p) (h : besides p op = some q) : Lasts q := by
  cases h
  intro decoy' hdecoy'
  obtain ⟨decoy, hdecoy, hnext⟩ := Option.bind_eq_some_iff.mp hdecoy'
  obtain ⟨hbound, real, hreal, htries, hleft⟩ := hp decoy hdecoy
  dsimp only
  rw [hreal, Option.bind_some]
  cases op with
  | tick ms =>
    rw [Life.next] at hnext ⊢
    split_ifs at hnext with hms
    cases hnext
    rw [if_pos (hms.trans hleft)]
    exact ⟨(Nat.sub_le _ _).trans hbound, _, rfl, htries, Nat.sub_le_sub_right hleft ms⟩
  | verifyMerchantEmail code =>
    rw [Life.next] at hnext ⊢
    split_ifs at hnext with hlast
    cases hnext
    rw [if_neg fun hfew => hlast (hfew.trans (Nat.succ_le_succ htries))]
    exact ⟨hbound, _, rfl, Nat.succ_le_succ htries, hleft⟩
  | resendMerchantVerification code =>
    cases hnext
    exact ⟨hbound, _, rfl, Nat.zero_le _, hbound⟩

theorem seen_eq_iff (hp : Lasts p) : seen p.1 op = seen p.2 op ↔ Hides p op := by
  cases op with
  | tick ms => simp [seen, Hides]
  | resendMerchantVerification code => simp [seen, Hides]
  | verifyMerchantEmail code =>
    have hback (hnone : p.1 = none) : p.2 = none := by
      by_contra hsome
      obtain ⟨decoy, hdecoy⟩ := Option.ne_none_iff_exists'.mp hsome
      obtain ⟨-, real, hreal, -⟩ := hp decoy hdecoy
      cases hnone.symm.trans hreal
    by_cases hreal : p.1 = none
    · simp [seen, Hides, hreal, hback hreal]
    · simp [seen, Hides, hreal]

/-- The two are told apart exactly where a code tells them apart. -/
theorem lifeOutcomes_eq_iff (hp : Lasts p) :
    lifeOutcomes true p.1 ops = lifeOutcomes false p.2 ops ↔ Along besides Hides p ops := by
  induction ops generalizing p with
  | nil => exact iff_of_true rfl trivial
  | cons op ops ih =>
    have hlasts : Lasts (p.1.bind (·.next true op), p.2.bind (·.next false op)) := lasts_step hp rfl
    have hrest := ih hlasts
    have hstep : Along besides Hides p (op :: ops) ↔ Hides p op ∧
        Along besides Hides (p.1.bind (·.next true op), p.2.bind (·.next false op)) ops := by
      refine and_congr_right fun _ => ⟨fun h => h _ rfl, fun h q hq => ?_⟩
      cases hq
      exact h
    rw [hstep, ← hrest, ← seen_eq_iff hp, lifeOutcomes, lifeOutcomes]
    cases op with
    | tick ms => simp [seen]
    | verifyMerchantEmail code => simp [seen]
    | resendMerchantVerification code => simp [seen]

end

/-! ### What becomes of the challenge -/

/-- The challenge of the account is there as long as this says. -/
def Tracks (key adminId : String) (r : Redis) : Option Life → Prop
  | none => r.get key = none
  | some life => ∃ e, r.entries key = some e ∧ e.expiresAt = (r.now + life.left : ℕ) ∧ e.value.tries = life.tries ∧
      e.value.adminId = adminId

/-- A challenge is renewed if its account is there and not verified, and not if there is no such account. -/
structure Tracked (renewed : Bool) (sessionChallenge adminId : String) (w : World) (life : Option Life) : Prop where
  challenge : Tracks (RedisKey.merchantEmailVerify sessionChallenge) adminId w.redis life
  account : (w.admins.find? (·.id = adminId)).map (·.emailVerified) = if renewed = true then some false else none

/-- A code that is submitted does not match. -/
def Wrong (hmac : String → String) (nodeEnv sessionChallenge : String) (w : World) (op : Op) : Prop :=
  ∀ code stored, op = .verifyMerchantEmail code →
    w.redis.get (RedisKey.merchantEmailVerify sessionChallenge) = some stored →
    isMatch hmac nodeEnv sessionChallenge stored code = false

section
variable {hmac : String → String} {nodeEnv sessionChallenge adminId key code : String} {renewed : Bool} {w w' : World}
  {life : Option Life} {op : Op} {ops : List Op} {r : Redis} {ms : ℕ} {l : Life} {stored : Challenge}

theorem Tracks.get (h : Tracks key adminId r (some l)) :
    ∃ stored, r.get key = some stored ∧ stored.tries = l.tries ∧ stored.adminId = adminId := by
  obtain ⟨e, he, hexpires, htries, hadmin⟩ := h
  refine ⟨e.value, get_eq_some.mpr ⟨e, he, rfl, ?_⟩, htries, hadmin⟩
  rw [hexpires]
  exact WithTop.coe_le_coe.mpr (Nat.le_add_right _ _)

theorem Tracks.tick (h : Tracks key adminId r life) :
    Tracks key adminId (r.advance ms) (life.bind (·.next renewed (.tick ms))) := by
  cases life with
  | none => exact get_advance h
  | some l =>
    obtain ⟨e, he, hexpires, htries, hadmin⟩ := h
    rw [Option.bind_some, Life.next]
    split_ifs with hms
    · refine ⟨e, he, ?_, htries, hadmin⟩
      rw [hexpires, advance]
      dsimp only
      rw [Nat.add_assoc, Nat.add_sub_cancel' hms]
    · rw [Tracks, Option.eq_none_iff_forall_ne_some]
      intro stored hget
      obtain ⟨e', he', -, hlive⟩ := get_eq_some.mp hget
      obtain rfl : e = e' := Option.some.inj (he.symm.trans he')
      rw [hexpires] at hlive
      exact hms (Nat.le_of_add_le_add_left (WithTop.coe_le_coe.mp hlive))

/-- A wrong code counts, and keeps the time that is left. -/
theorem Tracks.wrong (renewed : Bool) (code : String) (h : Tracks key adminId r (some l))
    (hget : r.get key = some stored) :
    Tracks key adminId (writeBack key stored r) (l.next renewed (.verifyMerchantEmail code)) := by
  obtain ⟨e, he, hexpires, htries, hadmin⟩ := h
  obtain ⟨e', he', rfl, hlive⟩ := get_eq_some.mp hget
  obtain rfl : e = e' := Option.some.inj (he.symm.trans he')
  rw [Life.next, writeBack, htries]
  split_ifs
  · exact get_del_self
  · refine ⟨_, entries_setKeepTtl_self, ?_, ?_, hadmin⟩
    · rw [expiry, he]
      dsimp only
      rw [if_pos hlive]
      exact hexpires
    · rw [← htries]
      rfl

theorem tracked_perform (h : Tracked renewed sessionChallenge adminId w life)
    (hwrong : Wrong hmac nodeEnv sessionChallenge w op) :
    Tracked renewed sessionChallenge adminId (perform hmac nodeEnv sessionChallenge w op).1
      (life.bind (·.next renewed op)) ∧ (perform hmac nodeEnv sessionChallenge w op).2 = seen life op := by
  cases op with
  | tick ms => exact ⟨⟨h.challenge.tick, h.account⟩, rfl⟩
  | verifyMerchantEmail code =>
    rw [perform, verifyMerchantEmail]
    cases life with
    | none =>
      have hnone : w.redis.get (RedisKey.merchantEmailVerify sessionChallenge) = none := h.challenge
      rw [hnone]
      exact ⟨h, rfl⟩
    | some l =>
      obtain ⟨stored, hget, -, -⟩ := h.challenge.get
      rw [hget]
      dsimp only
      rw [if_neg (by simp [hwrong code stored rfl hget])]
      exact ⟨⟨h.challenge.wrong renewed code hget, h.account⟩, rfl⟩
  | resendMerchantVerification code =>
    rw [perform, resendMerchantVerification]
    cases life with
    | none =>
      have hnone : w.redis.get (RedisKey.merchantEmailVerify sessionChallenge) = none := h.challenge
      rw [hnone]
      exact ⟨h, rfl⟩
    | some l =>
      obtain ⟨stored, hget, -, hadmin⟩ := h.challenge.get
      rw [hget]
      dsimp only
      rw [hadmin]
      have haccount := h.account
      cases renewed with
      | false =>
        rw [if_neg Bool.false_ne_true, Option.map_eq_none_iff] at haccount
        rw [haccount]
        exact ⟨h, rfl⟩
      | true =>
        rw [if_pos rfl, Option.map_eq_some_iff] at haccount
        obtain ⟨admin, hfound, hverified⟩ := haccount
        rw [hfound]
        dsimp only
        rw [if_neg (by simp [hverified])]
        exact ⟨⟨⟨_, entries_setEx_self, rfl, rfl, hadmin⟩, h.account⟩, rfl⟩

/-- While all codes are wrong, the outcomes are told by how long the challenge lasts. -/
theorem outcomes_eq (h : Tracked renewed sessionChallenge adminId w life)
    (halong : Along (step hmac nodeEnv sessionChallenge) (Wrong hmac nodeEnv sessionChallenge) w ops) :
    outcomes hmac nodeEnv sessionChallenge w ops = lifeOutcomes renewed life ops := by
  induction ops generalizing w life with
  | nil => rfl
  | cons op ops ih =>
    obtain ⟨htracked, hseen⟩ := tracked_perform h halong.1
    rw [outcomes, lifeOutcomes, hseen, ih htracked (halong.2 _ rfl)]

/-! ### Which codes are wrong -/

/-- The challenge holds the HMAC of the emailed code, one of these. -/
def Sealed (hmac : String → String) (sessionChallenge : String) (codes : Set String) (w : World) : Prop :=
  ∀ stored, w.redis.get (RedisKey.merchantEmailVerify sessionChallenge) = some stored →
    ∃ emailed ∈ codes, w.emailedCode = some emailed ∧ stored.codeHmac = some (codeHmacOf hmac sessionChallenge emailed)

/-- The challenge holds random bytes, and nobody's id. -/
structure Decoy (sessionChallenge randomHmac : String) (w : World) : Prop where
  challenge : ∀ stored, w.redis.get (RedisKey.merchantEmailVerify sessionChallenge) = some stored →
    stored.adminId = "decoy" ∧ stored.codeHmac = some randomHmac
  nobody : w.admins.find? (·.id = "decoy") = none

/-- What is asked of a code that is submitted: it is no bypass, and has the HMAC of no other code that is emailed. -/
def Proper (hmac : String → String) (nodeEnv sessionChallenge : String) (codes : Set String) : Op → Prop
  | .tick _ => True
  | .verifyMerchantEmail code => devBypass nodeEnv code = false ∧ ∀ y ∈ codes,
      hashesMatch (codeHmacOf hmac sessionChallenge code) (codeHmacOf hmac sessionChallenge y) = true → code = y
  | .resendMerchantVerification code => code ∈ codes

theorem get_writeBack {stored' : Challenge} (h : (writeBack key stored r).get key = some stored') :
    stored' = wrongTry stored := by
  unfold writeBack at h
  split_ifs at h
  · cases get_del_self.symm.trans h
  · obtain ⟨e, he, rfl, -⟩ := get_eq_some.mp h
    rw [entries_setKeepTtl_self] at he
    cases he
    rfl

/-- A code whose HMAC is not the one stored does not match. -/
theorem isMatch_eq_false {codeHmac : String} (hbypass : devBypass nodeEnv code = false)
    (hstored : stored.codeHmac = some codeHmac)
    (hother : hashesMatch (codeHmacOf hmac sessionChallenge code) codeHmac = false) :
    isMatch hmac nodeEnv sessionChallenge stored code = false := by
  rw [isMatch, comparedWith, hbypass, Bool.false_or, if_neg Bool.false_ne_true, hstored]
  by_cases hempty : codeHmac = ""
  · simp [hempty]
  · simp [hempty, hother]

theorem sealed_perform {codes : Set String} (h : Sealed hmac sessionChallenge codes w)
    (hproper : Proper hmac nodeEnv sessionChallenge codes op) (hwrong : Wrong hmac nodeEnv sessionChallenge w op) :
    Sealed hmac sessionChallenge codes (perform hmac nodeEnv sessionChallenge w op).1 := by
  cases op with
  | tick ms => exact fun stored hget => h stored (get_of_advance hget)
  | verifyMerchantEmail code =>
    rw [perform, verifyMerchantEmail]
    cases hfound : w.redis.get (RedisKey.merchantEmailVerify sessionChallenge) with
    | none => exact h
    | some stored =>
      dsimp only
      rw [if_neg (by simp [hwrong code stored rfl hfound])]
      intro stored' hget
      rw [get_writeBack hget]
      exact h stored hfound
  | resendMerchantVerification code =>
    rw [perform, resendMerchantVerification]
    cases hfound : w.redis.get (RedisKey.merchantEmailVerify sessionChallenge) with
    | none => exact h
    | some stored =>
      dsimp only
      split
      · exact h
      · split_ifs
        · exact h
        · intro stored' hget
          dsimp only at hget
          rw [reissue, get_setEx_self] at hget
          cases hget
          exact ⟨code, hproper, rfl, rfl⟩

theorem decoy_perform {randomHmac : String} (h : Decoy sessionChallenge randomHmac w)
    (hwrong : Wrong hmac nodeEnv sessionChallenge w op) :
    Decoy sessionChallenge randomHmac (perform hmac nodeEnv sessionChallenge w op).1 := by
  cases op with
  | tick ms => exact ⟨fun stored hget => h.challenge stored (get_of_advance hget), h.nobody⟩
  | verifyMerchantEmail code =>
    rw [perform, verifyMerchantEmail]
    cases hfound : w.redis.get (RedisKey.merchantEmailVerify sessionChallenge) with
    | none => exact h
    | some stored =>
      dsimp only
      rw [if_neg (by simp [hwrong code stored rfl hfound])]
      refine ⟨fun stored' hget => ?_, h.nobody⟩
      rw [get_writeBack hget]
      exact h.challenge stored hfound
  | resendMerchantVerification code =>
    rw [perform, resendMerchantVerification]
    cases hfound : w.redis.get (RedisKey.merchantEmailVerify sessionChallenge) with
    | none => exact h
    | some stored =>
      dsimp only
      rw [(h.challenge stored hfound).1, h.nobody]
      exact h

/-- Codes that are not the emailed one are wrong. -/
theorem wrong_of_sealed {codes : Set String} (h : Sealed hmac sessionChallenge codes w)
    (hproper : Proper hmac nodeEnv sessionChallenge codes op)
    (hemailed : ∀ code, op = .verifyMerchantEmail code → w.emailedCode ≠ some code) :
    Wrong hmac nodeEnv sessionChallenge w op := by
  rintro code stored rfl hget
  obtain ⟨emailed, hmem, hcode, hstored⟩ := h stored hget
  refine isMatch_eq_false hproper.1 hstored ?_
  by_contra hmatch
  have heq : code = emailed := hproper.2 emailed hmem (Bool.eq_true_of_not_eq_false hmatch)
  exact hemailed code rfl (heq ▸ hcode)

theorem wrong_of_decoy {randomHmac : String} (h : Decoy sessionChallenge randomHmac w)
    (hrandom : ∀ code, op = .verifyMerchantEmail code → devBypass nodeEnv code = false ∧
      hashesMatch (codeHmacOf hmac sessionChallenge code) randomHmac = false) :
    Wrong hmac nodeEnv sessionChallenge w op := by
  rintro code stored rfl hget
  exact isMatch_eq_false (hrandom code rfl).1 (h.challenge stored hget).2 (hrandom code rfl).2

theorem along_wrong_of_sealed {codes : Set String} (h : Sealed hmac sessionChallenge codes w)
    (hproper : ∀ op ∈ ops, Proper hmac nodeEnv sessionChallenge codes op)
    (hemailed : Along (step hmac nodeEnv sessionChallenge) (fun w op => ∀ code, op = .verifyMerchantEmail code →
      w.emailedCode ≠ some code) w ops) :
    Along (step hmac nodeEnv sessionChallenge) (Wrong hmac nodeEnv sessionChallenge) w ops := by
  refine (hemailed.and_forall hproper).imp h (fun v op v' hv hp hstep => ?_) fun v op hv hp => ?_
  · cases hstep
    exact sealed_perform hv hp.1 (wrong_of_sealed hv hp.1 hp.2)
  · exact wrong_of_sealed hv hp.1 hp.2

theorem along_wrong_of_decoy {randomHmac : String} (h : Decoy sessionChallenge randomHmac w)
    (hrandom : ∀ op ∈ ops, ∀ code, op = .verifyMerchantEmail code → devBypass nodeEnv code = false ∧
      hashesMatch (codeHmacOf hmac sessionChallenge code) randomHmac = false) :
    Along (step hmac nodeEnv sessionChallenge) (Wrong hmac nodeEnv sessionChallenge) w ops := by
  refine (along_of_forall hrandom w).imp h (fun v op v' hv hp hstep => ?_) fun v op hv hp => ?_
  · cases hstep
    exact decoy_perform hv (wrong_of_decoy hv hp)
  · exact wrong_of_decoy hv hp

/-! ### What a registration stores -/

theorem tracks_store {r : Redis} {challenge deviceId deviceType codeHmac : String} :
    Tracks (RedisKey.merchantEmailVerify challenge) adminId
      (storeMerchantVerifyChallenge challenge adminId deviceId deviceType codeHmac r) (some .new) :=
  ⟨_, entries_setEx_self, rfl, rfl, rfl⟩

theorem get_store {r : Redis} {challenge deviceId deviceType codeHmac : String}
    (h : (storeMerchantVerifyChallenge challenge adminId deviceId deviceType codeHmac r).get
      (RedisKey.merchantEmailVerify challenge) = some stored) :
    stored.adminId = adminId ∧ stored.codeHmac = some codeHmac := by
  rw [storeMerchantVerifyChallenge, get_setEx_self] at h
  cases h
  exact ⟨rfl, rfl⟩

variable (hmac) in
/-- The account of an email that is unused is new, and is sent a code. -/
theorem register_unused (data : RegisterData) (drawn : Drawn) {codes : Set String}
    (hunused : ∀ a ∈ w.admins ++ drawn.meanwhile, a.email ≠ normalizeEmail data.email)
    (hnew : ∀ a ∈ w.admins ++ drawn.meanwhile, a.id ≠ drawn.adminId) (hcode : drawn.code ∈ codes) :
    Tracked true drawn.challenge drawn.adminId (register hmac data drawn w) (some .new) ∧
      Sealed hmac drawn.challenge codes (register hmac data drawn w) := by
  have hlookup : w.admins.find? (·.email = normalizeEmail data.email) = none :=
    List.find?_eq_none.mpr fun a ha => by simpa using hunused a (List.mem_append_left _ ha)
  have hcreate : createAdmin drawn.adminId (normalizeEmail data.email) (w.admins ++ drawn.meanwhile) =
      some (w.admins ++ drawn.meanwhile ++ [⟨drawn.adminId, normalizeEmail data.email, false⟩]) := by
    refine if_neg fun hany => ?_
    obtain ⟨a, ha, hemail⟩ := List.any_eq_true.mp hany
    exact hunused a ha (of_decide_eq_true hemail)
  rw [register, hlookup]
  dsimp only
  rw [hcreate]
  refine ⟨⟨tracks_store, ?_⟩, fun stored hget => ⟨drawn.code, hcode, rfl, (get_store hget).2⟩⟩
  have hothers : (w.admins ++ drawn.meanwhile).find? (·.id = drawn.adminId) = none :=
    List.find?_eq_none.mpr fun a ha => by simpa using hnew a ha
  dsimp only [challengeAccount]
  rw [List.find?_append, hothers]
  simp

variable (hmac) in
/-- The challenge of an email whose account is verified is a decoy. -/
theorem register_verified (data : RegisterData) (drawn : Drawn) {existing : MerchantAdmin}
    (hlookup : w.admins.find? (·.email = normalizeEmail data.email) = some existing)
    (hverified : existing.emailVerified = true) (hnobody : ∀ a ∈ w.admins, a.id ≠ "decoy") :
    Tracked false drawn.challenge "decoy" (register hmac data drawn w) (some .new) ∧
      Decoy drawn.challenge drawn.randomHmac (register hmac data drawn w) := by
  have hnone : w.admins.find? (·.id = "decoy") = none :=
    List.find?_eq_none.mpr fun a ha => by simpa using hnobody a ha
  rw [register, hlookup]
  dsimp only
  rw [if_pos hverified]
  refine ⟨⟨tracks_store, ?_⟩, fun stored hget => get_store hget, hnone⟩
  rw [challengeDecoy, hnone]
  rfl

/-- Both replies are the same but for the challenge, which is drawn. -/
theorem registerMerchant_ok {verifyTurnstile : String → String → Bool} {validatePasswordPolicy : String → Bool}
    {data : RegisterData} {drawn : Drawn}
    (h : registerMerchant hmac verifyTurnstile validatePasswordPolicy data drawn w = .ok (w', sessionChallenge)) :
    w' = register hmac data drawn w ∧ sessionChallenge = drawn.challenge := by
  unfold registerMerchant at h
  split_ifs at h
  cases h
  exact ⟨rfl, rfl⟩

/-! ### Two runs -/

/-- A registration with an unused email and one with the email of a verified account cannot be told apart by any
    wrong codes and resends that follow, exactly if no code comes when the decoy is gone and resends have kept the
    real challenge. -/
theorem registration_hidden_iff {verifyTurnstile : String → String → Bool} {validatePasswordPolicy : String → Bool}
    {data data' : RegisterData} {drawn drawn' : Drawn} {fresh known : World} {c c' : String}
    (hfresh : registerMerchant hmac verifyTurnstile validatePasswordPolicy data drawn w = .ok (fresh, c))
    (hknown : registerMerchant hmac verifyTurnstile validatePasswordPolicy data' drawn' w = .ok (known, c'))
    (hunused : ∀ a ∈ w.admins ++ drawn.meanwhile, a.email ≠ normalizeEmail data.email)
    (hverified : ∃ a, w.admins.find? (·.email = normalizeEmail data'.email) = some a ∧ a.emailVerified = true)
    (hnew : ∀ a ∈ w.admins ++ drawn.meanwhile, a.id ≠ drawn.adminId) (hnobody : ∀ a ∈ w.admins, a.id ≠ "decoy")
    (hbypass : ∀ code, .verifyMerchantEmail code ∈ ops → devBypass nodeEnv code = false)
    (hemailed : Along (step hmac nodeEnv c) (fun w op => ∀ code, op = .verifyMerchantEmail code →
      w.emailedCode ≠ some code) fresh ops)
    (hcollide : ∀ x y, .verifyMerchantEmail x ∈ ops → y = drawn.code ∨ .resendMerchantVerification y ∈ ops →
      hashesMatch (codeHmacOf hmac c x) (codeHmacOf hmac c y) = true → x = y)
    (hrandom : ∀ code, .verifyMerchantEmail code ∈ ops →
      hashesMatch (codeHmacOf hmac c' code) drawn'.randomHmac = false) :
    outcomes hmac nodeEnv c fresh ops = outcomes hmac nodeEnv c' known ops ↔
      Along besides Hides (some .new, some .new) ops := by
  obtain ⟨rfl, rfl⟩ := registerMerchant_ok hfresh
  obtain ⟨rfl, rfl⟩ := registerMerchant_ok hknown
  obtain ⟨existing, hlookup, hexisting⟩ := hverified
  have hcode : drawn.code ∈ {y | y = drawn.code ∨ .resendMerchantVerification y ∈ ops} := .inl rfl
  obtain ⟨hreal, hsealed⟩ := register_unused hmac data drawn hunused hnew hcode
  obtain ⟨hfake, hdecoy⟩ := register_verified hmac data' drawn' hlookup hexisting hnobody
  have hproper : ∀ op ∈ ops, Proper hmac nodeEnv drawn.challenge
      {y | y = drawn.code ∨ .resendMerchantVerification y ∈ ops} op := by
    intro op hop
    cases op with
    | tick ms => trivial
    | verifyMerchantEmail code => exact ⟨hbypass code hop, fun y hy => hcollide code y hop hy⟩
    | resendMerchantVerification code => exact .inr hop
  have hguess : ∀ op ∈ ops, ∀ code, op = .verifyMerchantEmail code → devBypass nodeEnv code = false ∧
      hashesMatch (codeHmacOf hmac drawn'.challenge code) drawn'.randomHmac = false := by
    rintro op hop code rfl
    exact ⟨hbypass code hop, hrandom code hop⟩
  rw [outcomes_eq hreal (along_wrong_of_sealed hsealed hproper hemailed),
    outcomes_eq hfake (along_wrong_of_decoy hdecoy hguess)]
  refine lifeOutcomes_eq_iff (p := (some .new, some .new)) fun decoy hd => ?_
  cases hd
  exact ⟨le_rfl, _, rfl, le_rfl, le_rfl⟩

end

/-! ### A resend between wrong codes -/

/-- One verified account. -/
def oneAccount : World := ⟨⟨fun _ => none, 0⟩, [⟨"m", "owner@biz.com", true⟩], []⟩

def digits (c : Char) : String := String.ofList (List.replicate 64 c)

/-- Hashes of what is emailed, and of anything else. -/
def demoHmac (s : String) : String :=
  if s = "c:123456" then digits 'a' else if s = "c:654321" then digits 'b' else digits 'd'

def signup (email : String) : RegisterData := ⟨email, "secret", "d", "web", "", ""⟩

def drawnFor (challenge adminId : String) : Drawn := ⟨challenge, "123456", digits 'e', adminId, []⟩

def demoRegister (email challenge : String) : Except AppError (World × String) :=
  registerMerchant demoHmac (fun _ _ => true) (fun _ => true) (signup email) (drawnFor challenge "n") oneAccount

/-- Four wrong codes, a resend, and two more. -/
def resendAfterFour : List Op :=
  List.replicate 4 (.verifyMerchantEmail "000000") ++
    [.resendMerchantVerification "654321", .verifyMerchantEmail "000000", .verifyMerchantEmail "000000"]

theorem verified_account_revealed :
    ∃ fresh known, demoRegister "new@biz.com" "c" = .ok (fresh, "c") ∧
      demoRegister "owner@biz.com" "c'" = .ok (known, "c'") ∧
      (outcomes demoHmac "production" "c" fresh resendAfterFour).getLast? = some (.error .OTP_INVALID) ∧
      (outcomes demoHmac "production" "c'" known resendAfterFour).getLast? =
        some (.error .VERIFICATION_TOKEN_INVALID) :=
  ⟨_, _, rfl, rfl, rfl, rfl⟩

/-- A wrong code, a resend, and the code that it has replaced. -/
def resendAfterOne : List Op :=
  [.verifyMerchantEmail "000000", .resendMerchantVerification "654321", .verifyMerchantEmail "123456"]

theorem registration_hidden_iff_resendAfterOne :
    ∃ fresh known, demoRegister "new@biz.com" "c" = .ok (fresh, "c") ∧
      demoRegister "owner@biz.com" "c'" = .ok (known, "c'") ∧
      outcomes demoHmac "production" "c" fresh resendAfterOne =
        outcomes demoHmac "production" "c'" known resendAfterOne := by
  have halong : Along besides Hides (some .new, some .new) resendAfterOne := by
    refine ⟨fun code _ hnone => hnone, fun p hp => ?_⟩
    cases hp
    refine ⟨fun code heq => Op.noConfusion heq, fun p hp => ?_⟩
    cases hp
    refine ⟨fun code _ hnone => ?_, fun _ _ => trivial⟩
    cases hnone
  have hsubmitted (code : String) (h : .verifyMerchantEmail code ∈ resendAfterOne) :
      code = "000000" ∨ code = "123456" := by
    simpa [resendAfterOne] using h
  have hbypass : ∀ code, .verifyMerchantEmail code ∈ resendAfterOne → devBypass "production" code = false := by
    intro code h
    rcases hsubmitted code h with rfl | rfl <;> rfl
  have hcollide : ∀ x y, .verifyMerchantEmail x ∈ resendAfterOne →
      y = (drawnFor "c" "n").code ∨ .resendMerchantVerification y ∈ resendAfterOne →
      hashesMatch (codeHmacOf demoHmac "c" x) (codeHmacOf demoHmac "c" y) = true → x = y := by
    intro x y hx hy hmatch
    have hy' : y = "123456" ∨ y = "654321" := hy.imp id (by simp [resendAfterOne])
    rcases hsubmitted x hx with rfl | rfl
    · rcases hy' with rfl | rfl <;> cases hmatch
    · rcases hy' with rfl | rfl
      · rfl
      · cases hmatch
  have hrandom : ∀ code, .verifyMerchantEmail code ∈ resendAfterOne →
      hashesMatch (codeHmacOf demoHmac "c'" code) (drawnFor "c'" "n").randomHmac = false := by
    intro code h
    rcases hsubmitted code h with rfl | rfl <;> rfl
  have hends : ∃ fresh known, demoRegister "new@biz.com" "c" = .ok (fresh, "c") ∧
      demoRegister "owner@biz.com" "c'" = .ok (known, "c'") ∧
      Along (step demoHmac "production" "c") (fun w op => ∀ code, op = .verifyMerchantEmail code →
        w.emailedCode ≠ some code) fresh resendAfterOne := by
    refine ⟨_, _, rfl, rfl, fun code heq hsent => ?_, fun w hw => ?_⟩
    · cases heq
      have hcodes : some "123456" = some "000000" := hsent
      simp at hcodes
    cases hw
    refine ⟨fun code heq => Op.noConfusion heq, fun w hw => ?_⟩
    cases hw
    refine ⟨fun code heq hsent => ?_, fun _ _ => trivial⟩
    cases heq
    have hcodes : some "654321" = some "123456" := hsent
    simp at hcodes
  obtain ⟨fresh, known, hfresh, hknown, hemailed⟩ := hends
  have honly (a : MerchantAdmin) (ha : a ∈ oneAccount.admins) : a = ⟨"m", "owner@biz.com", true⟩ :=
    List.mem_singleton.mp ha
  refine ⟨fresh, known, hfresh, hknown, (registration_hidden_iff hfresh hknown (fun a ha => ?_) ⟨_, rfl, rfl⟩
    (fun a ha => ?_) (fun a ha => ?_) hbypass hemailed hcollide hrandom).mpr halong⟩
  · rw [honly a ha]
    decide
  · rw [honly a ha]
    decide
  · rw [honly a ha]
    decide

end Redeemo.Registration
