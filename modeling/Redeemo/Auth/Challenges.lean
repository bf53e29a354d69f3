import Redeemo.Merchant.Sessions

/-! One-time codes that are emailed, and the challenge that holds the HMAC of one.

    A verification reads the challenge, compares the code, and then writes the challenge back with one more attempt,
    or deletes it. Nothing in its second command looks at what the first has read. -/

namespace Redeemo.Challenges
open Runs
open MerchantSession (Delivery hashesMatch)

def EMAIL_VERIFY_TTL : ℕ := 24 * 3600

/-- The same for merchants and for admins. -/
def OTP_MAX_ATTEMPTS : ℕ := 5

def OTP_DEV_BYPASS_ENVS : List String := ["development", "test"]

def DEV_OTP_BYPASS_CODE : String := "000000"

/-- The JSON of a challenge. -/
structure Challenge where
  adminId : String
  deviceId : String
  deviceType : String
  codeHmac : Option String
  attempts : Option ℕ
  deriving DecidableEq

/-- `attempts ?? 0`. -/
def Challenge.tries (c : Challenge) : ℕ := c.attempts.getD 0

/-- The clock is in milliseconds. -/
abbrev Redis := Expiring String Challenge

namespace RedisKey

def otpChallenge (role token : String) : String := "otp-challenge:" ++ role ++ ":" ++ token

def merchantEmailVerify (challenge : String) : String := "merchant-email-verify:" ++ challenge

end RedisKey

inductive Kind
  | merchantOtp
  | merchantEmail
  | adminOtp
  deriving DecidableEq

namespace Kind

def key : Kind → String → String
  | .merchantOtp, sessionChallenge => RedisKey.otpChallenge "merchant" sessionChallenge
  | .merchantEmail, sessionChallenge => RedisKey.merchantEmailVerify sessionChallenge
  | .adminOtp, sessionChallenge => RedisKey.otpChallenge "admin" sessionChallenge

/-- The error where there is no challenge. -/
def missing : Kind → AppError
  | .merchantEmail => .VERIFICATION_TOKEN_INVALID
  | _ => .ACTION_TOKEN_INVALID

end Kind

section
/-! `hmac` is the HMAC under the server's key, in hexadecimal, and `nodeEnv` is `NODE_ENV`. -/

variable (hmac : String → String) (nodeEnv : String)

def codeHmacOf (sessionChallenge code : String) : String := hmac (sessionChallenge ++ ":" ++ code)

def devBypass (code : String) : Bool := nodeEnv ∈ OTP_DEV_BYPASS_ENVS ∧ code = DEV_OTP_BYPASS_CODE

/-- The HMAC that the code is compared with, if it is. -/
def comparedWith (stored : Challenge) (code : String) : Option String :=
  if devBypass nodeEnv code = true then none else stored.codeHmac.filter (· ≠ "")

def isMatch (sessionChallenge : String) (stored : Challenge) (code : String) : Bool :=
  devBypass nodeEnv code ||
    (comparedWith nodeEnv stored code).any fun codeHmac => hashesMatch (codeHmacOf hmac sessionChallenge code) codeHmac

def wrongTry (stored : Challenge) : Challenge := { stored with attempts := some (stored.tries + 1) }

/-- What a wrong code makes of the challenge. -/
def writeBack (key : String) (stored : Challenge) (r : Redis) : Redis :=
  if stored.tries + 1 ≥ OTP_MAX_ATTEMPTS then r.del key else r.setKeepTtl key (wrongTry stored)

def reissued (sessionChallenge code : String) (stored : Challenge) : Challenge :=
  { stored with codeHmac := some (codeHmacOf hmac sessionChallenge code), attempts := some 0 }

/-- What a new code makes of it. -/
def reissue (key sessionChallenge code : String) (stored : Challenge) (r : Redis) : Redis :=
  r.setEx key (reissued hmac sessionChallenge code stored) (1000 * EMAIL_VERIFY_TTL)

/-! ### Calls on one challenge -/

/-- Where a call is, and the challenge as it has read it. -/
inductive Phase
  | verify (code : String)
  | found (code : String) (stored : Challenge)
  | wrong (stored : Challenge)
  | matched (stored : Challenge)
  /-- The challenge is deleted by the right code; the account's part is still to come. -/
  | consumed
  | returned
  /-- `resendMerchantVerification`. -/
  | resend
  | resendFound (stored : Challenge)
  /-- The account is there, and not verified. -/
  | admitted (stored : Challenge)
  /-- The challenge has a new code, which is still to be emailed. -/
  | mailing (code : String)
  | resent
  | failed (e : Option AppError)
  /-- The reply to the second command was lost, the command executed or not. -/
  | lost (executed : Bool)
  deriving DecidableEq

inductive Call
  | verify (code : String)
  | resendMerchantVerification
  deriving DecidableEq

def Call.start : Call → Phase
  | .verify code => .verify code
  | .resendMerchantVerification => .resend

inductive Event
  | tick (ms : ℕ)
  | command (d : Delivery)
  /-- The code is compared. -/
  | compare
  /-- The rest of a login. -/
  | login (outcome : Except (Option AppError) Unit)
  /-- Whether there is an account, and whether its email is verified. -/
  | admin (emailVerified : Option Bool)
  /-- A new code, as drawn. -/
  | store (code : String) (d : Delivery)
  /-- The code is emailed, as far as it can be. -/
  | email
  deriving DecidableEq

/-- The challenge, and what has become of it. -/
structure Store where
  redis : Redis
  /-- The HMACs that codes were compared with. -/
  compared : List String
  /-- A right code has consumed the challenge, or the fifth wrong one destroyed it. -/
  finished : Bool
  /-- The code that was emailed, unless another has replaced it since. -/
  emailed : Option String

def Delivery.toRedis (d : Delivery) (f : Redis → Redis) (r : Redis) : Redis := if d.executed = true then f r else r

def afterCommand (d : Delivery) (phase : Phase) : Phase :=
  match d with
  | .delivered => phase
  | .lost executed => .lost executed

variable (kind : Kind) (sessionChallenge : String)

/-- One step of a call. -/
def next : Store → Phase → Event → Option (Store × Phase)
  | s, phase, .tick ms => some ({ s with redis := s.redis.advance ms }, phase)
  | s, .verify code, .command .delivered =>
    some (s, match s.redis.get (kind.key sessionChallenge) with
      | none => .failed (some kind.missing)
      | some stored => .found code stored)
  | s, .verify _, .command (.lost _) => some (s, .failed none)
  | s, .found code stored, .compare =>
    some ({ s with compared := (comparedWith nodeEnv stored code).toList ++ s.compared },
      if isMatch hmac nodeEnv sessionChallenge stored code = true then .matched stored else .wrong stored)
  | s, .wrong stored, .command d =>
    some ({ s with
        redis := Delivery.toRedis d (writeBack (kind.key sessionChallenge) stored) s.redis
        finished := s.finished || (d.executed && decide (stored.tries + 1 ≥ OTP_MAX_ATTEMPTS)) },
      afterCommand d (.failed (some .OTP_INVALID)))
  | s, .matched _, .command d =>
    some ({ s with
        redis := Delivery.toRedis d (·.del (kind.key sessionChallenge)) s.redis
        finished := s.finished || d.executed },
      afterCommand d .consumed)
  | s, .consumed, .login outcome =>
    some (s, match outcome with
      | .ok () => .returned
      | .error e => .failed e)
  | s, .resend, .command d =>
    if kind = .merchantEmail then
      some (s, match d with
        | .delivered =>
          match s.redis.get (kind.key sessionChallenge) with
          | none => .resent
          | some stored => .resendFound stored
        | .lost _ => .failed none)
    else none
  | s, .resendFound stored, .admin emailVerified =>
    some (s, if emailVerified = some false then .admitted stored else .resent)
  | s, .admitted stored, .store code d =>
    some ({ s with
        redis := Delivery.toRedis d (reissue hmac (kind.key sessionChallenge) sessionChallenge code stored) s.redis
        emailed := if d.executed = true then none else s.emailed },
      afterCommand d (.mailing code))
  | s, .mailing code, .email => some ({ s with emailed := some code }, .resent)
  | _, _, _ => none

def step {ι : Type*} [DecidableEq ι] : Pool ι Store Phase → ι × Event → Option (Pool ι Store Phase) :=
  poolStep fun _ => next hmac nodeEnv kind sessionChallenge

end

/-- A challenge as it was stored, and no call has begun. -/
def opened {ι : Type*} (calls : ι → Call) (r : Redis) : Pool ι Store Phase :=
  ⟨⟨r, [], false, none⟩, fun i => (calls i).start⟩

end Redeemo.Challenges
