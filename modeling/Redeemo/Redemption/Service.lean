import Redeemo.Redemption.Tables
import Redeemo.Shared.AtomicLimiter
import Redeemo.Shared.VoucherAvailability
import Redeemo.Subscription.Cycle

/-! `createRedemption`, run alone from start to end.

    Three stages: the eligibility gates, which read the database and never the PIN (`eligibility`);
    the limiter and the PIN compare; and the claim by voucher type (`claim`). `decrypt` is a
    parameter: any function of the stored PIN. The code the claim stores is drawn at random by the
    caller's process, here an argument. Audit logs and notifications are left out: they follow a
    committed redemption and nothing reads them. -/

namespace Redeemo.Redemption
open CycleWindows VoucherAvailability Limiter

/-! ### What the call reads -/

structure Voucher where
  status : VoucherStatus
  approvalStatus : ApprovalStatus
  type : VoucherType
  expiryDate : Option ℤ
  estimatedSaving : ℚ
  cooldownSeconds : Option ℤ
  merchantId : String
  /-- Of the voucher's merchant. -/
  merchantStatus : MerchantStatus
  availabilityWindows : List AvailabilityWindow

structure Branch where
  merchantId : String
  isActive : Bool
  lifecycleStatus : BranchLifecycleStatus
  /-- Encrypted. -/
  redemptionPin : Option String

structure Subscription where
  status : SubscriptionStatus
  cycleAnchorDate : ℤ

/-- The tables a call only reads, by id. -/
structure Catalog where
  voucher : String → Option Voucher
  branch : String → Option Branch
  subscription : String → Option Subscription
  phoneVerified : String → Option Bool

/-- The redemption tables and the Redis counters. -/
structure World where
  tables : Tables
  redis : Store

structure Request where
  voucherId : String
  branchId : String
  pin : String
  deriving DecidableEq

/-- How a call ends without a redemption. -/
inductive Failure
  | app (e : AppError)
  /-- A Prisma error that is not translated. -/
  | p2002 (e : P2002)
  /-- A plain `Error`. -/
  | thrown (message : String)
  /-- A failed Redis script. -/
  | redis
  deriving DecidableEq

/-! ### Eligibility -/

def require (p : Prop) [Decidable p] (e : AppError) : Except Failure Unit :=
  if p then .ok () else .error (.app e)

def orThrow {α : Type} : Except String α → Except Failure α
  | .ok a => .ok a
  | .error message => .error (.thrown message)

def orApp {α : Type} : Except AppError α → Except Failure α
  | .ok a => .ok a
  | .error e => .error (.app e)

def orElse {α : Type} (e : AppError) : Option α → Except Failure α
  | some a => .ok a
  | none => .error (.app e)

/-- The error of a window guard, with the start of the next occurrence. -/
def throwWithNext {α : Type} (windows : List AvailabilityWindow) (now : ℤ)
    (error : Option ℤ → AppError) : Except Failure α := do
  let next ← orThrow (getNextWindowOccurrence windows now)
  .error (.app (error (next.map (·.startsAt))))

/-- Guard 3, for TIME_LIMITED vouchers: the current occurrence. -/
def currentWindow (windows : List AvailabilityWindow) (now : ℤ) : Except Failure WindowOccurrence := do
  match ← orThrow (getCurrentWindowOccurrence windows now) with
  | some occ => .ok occ
  | none => throwWithNext windows now .VOUCHER_OUTSIDE_AVAILABILITY_WINDOW

/-- Only a TIME_LIMITED voucher has one. -/
def openWindow (voucher : Voucher) (now : ℤ) : Except Failure (Option WindowOccurrence) :=
  if voucher.type = .TIME_LIMITED then (currentWindow voucher.availabilityWindows now).map some
  else .ok none

/-- Guard 7, for TIME_LIMITED vouchers. -/
def windowGuard (windows : List AvailabilityWindow) (occ : WindowOccurrence)
    (redemptions : List VoucherRedemption) (now : ℤ) : Except Failure Unit :=
  if ∃ r ∈ redemptions, occ.startsAt ≤ r.redeemedAt ∧ r.redeemedAt < occ.endsAt then
    throwWithNext windows now .ALREADY_REDEEMED_THIS_WINDOW
  else .ok ()

/-- What the gates hand to the PIN step and to the claim. -/
structure Eligible where
  voucher : Voucher
  cycleStart : ℤ
  timeLimitedWindowStartsAt : Option ℤ
  effectiveCooldownMs : ℤ
  redemptionPin : String

/-- Guard 7 by type: the start of the current occurrence for a TIME_LIMITED voucher. -/
def typeGuard (voucher : Voucher) (pair : Pair) (cycleStart effectiveCooldownMs now : ℤ)
    (occ : Option WindowOccurrence) (t : Tables) : Except Failure (Option ℤ) :=
  match voucher.type, occ with
  | .TIME_LIMITED, some occ => do
    windowGuard voucher.availabilityWindows occ (t.redemptionsOf pair) now
    return some occ.startsAt
  | .REUSABLE, _ => do
    orApp (cooldownGuard (t.latestRedeemedAt pair) now effectiveCooldownMs)
    return none
  | _, _ => do
    orApp (cycleGuard cycleStart (t.cycleStates pair))
    return none

def eligibility (cat : Catalog) (t : Tables) (userId voucherId branchId : String) (now : ℤ) :
    Except Failure Eligible := do
  let voucher ← orElse .VOUCHER_NOT_FOUND (cat.voucher voucherId)
  require (voucher.status = .ACTIVE ∧ voucher.approvalStatus = .APPROVED ∧
    voucher.merchantStatus = .ACTIVE) .VOUCHER_NOT_FOUND
  require (∀ expiry ∈ voucher.expiryDate, now < expiry) .VOUCHER_NOT_FOUND
  let occ ← openWindow voucher now
  let branch ← orElse .BRANCH_UNAVAILABLE (cat.branch branchId)
  require (branch.isActive = true ∧ branch.lifecycleStatus ≠ .PENDING_CREATE) .BRANCH_UNAVAILABLE
  require (branch.merchantId = voucher.merchantId) .BRANCH_MERCHANT_MISMATCH
  let sub ← orElse .SUBSCRIPTION_REQUIRED (cat.subscription userId)
  require (sub.status = .ACTIVE ∨ sub.status = .TRIALLING) .SUBSCRIPTION_REQUIRED
  require (cat.phoneVerified userId = some true) .PHONE_NOT_VERIFIED
  let cycleStart := (getCurrentCycleWindow sub.cycleAnchorDate now).cycleStart
  let effectiveCooldownMs := effectiveCooldownSeconds voucher.cooldownSeconds * 1000
  let windowStartsAt ← typeGuard voucher (userId, voucherId) cycleStart effectiveCooldownMs now occ t
  let pin ← orElse .PIN_NOT_CONFIGURED branch.redemptionPin
  require (pin ≠ "") .PIN_NOT_CONFIGURED
  return ⟨voucher, cycleStart, windowStartsAt, effectiveCooldownMs, pin⟩

/-! ### The limiter and the PIN -/

def PIN_FAIL_LIMIT : ℕ := 5
def PIN_FAIL_WINDOW : ℕ := 15 * 60

def pinFailCount (userId branchId : String) : String := s!"pin:fail:{userId}:{branchId}"

/-- The slot an attempt reserves. -/
def pinLimit (failKey : String) : ConsumeInput := { abuserKeys := [⟨failKey, PIN_FAIL_LIMIT, PIN_FAIL_WINDOW⟩] }

/-- What `decrypt` and the compare may throw. -/
inductive DecryptFault
  | KeyNotAvailableError
  | EnvelopeParseError
  | GcmAuthError
  | unexpected
  deriving DecidableEq, Repr

def classifyPinDecryptError : DecryptFault → AppError
  | .KeyNotAvailableError => .KEY_NOT_AVAILABLE
  | .EnvelopeParseError => .REDEMPTION_PIN_UNREADABLE
  | .GcmAuthError => .REDEMPTION_PIN_UNREADABLE
  | .unexpected => .REDEMPTION_PIN_UNREADABLE

/-- `length` of a JavaScript string: UTF-16 code units. -/
def utf16Length (s : String) : ℕ := (s.toList.map fun c => if c.toNat < 65536 then 1 else 2).sum

/-- The PIN compare. `timingSafeEqual` throws on buffers of different sizes. -/
def pinMatches (decrypt : String → Except DecryptFault String) (redemptionPin pin : String) :
    Except DecryptFault Bool := do
  let decrypted ← decrypt redemptionPin
  if utf16Length decrypted ≠ utf16Length pin then return false
  else if pin.utf8ByteSize ≠ decrypted.utf8ByteSize then .error .unexpected
  else return pin = decrypted

/-- The reservation is given back after a fault. -/
def refund (redis : Store) (failKey : String) : Store :=
  let (v, redis) := redis.decr failKey
  if v < 0 then redis.del failKey else redis

def remainingAttempts (redis : Store) (failKey : String) : ℤ :=
  max 0 (PIN_FAIL_LIMIT - (redis.get failKey).getD PIN_FAIL_LIMIT)

/-! ### The claim -/

/-- The conditional `updateMany`, or `create` where it updates nothing. -/
def updateOrCreate (t : Tables) (pair : Pair) (cycleStart now : ℤ) : Except P2002 Tables :=
  let (count, t) := t.claimCycleState pair cycleStart now
  if count ≠ 1 then t.createCycleState pair (claimData cycleStart now) else .ok t

/-- The first transaction of a cycle voucher. -/
def claimOrCreate (t : Tables) (pair : Pair) (cycleStart : ℤ) (c : Call) : Except P2002 Tables := do
  let t ← updateOrCreate t pair cycleStart c.now
  t.createRedemption (redemptionData pair none c)

/-- The second one. -/
def claimAgain (t : Tables) (pair : Pair) (cycleStart : ℤ) (c : Call) : Except Failure Tables :=
  let (count, t) := t.claimCycleState pair cycleStart c.now
  if count ≠ 1 then .error (.app .ALREADY_REDEEMED)
  else match t.createRedemption (redemptionData pair none c) with
    | .ok t => .ok t
    | .error e => .error (.p2002 e)

def claimCycle (t : Tables) (pair : Pair) (cycleStart : ℤ) (c : Call) : Except Failure Tables :=
  match claimOrCreate t pair cycleStart c with
  | .ok t => .ok t
  | .error _ => claimAgain t pair cycleStart c

def claimReusable (t : Tables) (pair : Pair) (effectiveCooldownMs : ℤ) (c : Call) :
    Except Failure Tables := do
  orApp (cooldownGuard (t.latestRedeemedAt pair) c.now effectiveCooldownMs)
  match t.createRedemption (redemptionData pair none c) with
  | .ok t => .ok t
  | .error e => .error (.p2002 e)

def claimWindow (t : Tables) (pair : Pair) (windows : List AvailabilityWindow)
    (windowStartsAt : Option ℤ) (c : Call) : Except Failure Tables :=
  match t.createRedemption (redemptionData pair windowStartsAt c) with
  | .ok t => .ok t
  | .error e =>
    if "windowStartsAt" ∈ e.target then throwWithNext windows c.now .ALREADY_REDEEMED_THIS_WINDOW
    else .error (.p2002 e)

def claim (el : Eligible) (t : Tables) (pair : Pair) (c : Call) : Except Failure Tables :=
  match el.voucher.type with
  | .REUSABLE => claimReusable t pair el.effectiveCooldownMs c
  | .TIME_LIMITED => claimWindow t pair el.voucher.availabilityWindows el.timeLimitedWindowStartsAt c
  | _ => claimCycle t pair el.cycleStart c

/-! ### The call -/

/-- The compare and the claim, once a slot is reserved. -/
def redeemAdmitted (el : Eligible) (decrypt : String → Except DecryptFault String) (userId : String)
    (data : Request) (c : Call) (w : World) : Except Failure VoucherRedemption × World :=
  let failKey := pinFailCount userId data.branchId
  let pair := (userId, data.voucherId)
  match pinMatches decrypt el.redemptionPin data.pin with
  | .error fault =>
    (.error (.app (classifyPinDecryptError fault)), { w with redis := refund w.redis failKey })
  | .ok false => (.error (.app (.INVALID_PIN (remainingAttempts w.redis failKey))), w)
  | .ok true =>
    -- The counter is cleared before the claim.
    match claim el w.tables pair c with
    | .error e => (.error e, { w with redis := w.redis.del failKey })
    | .ok t => (.ok (redemptionData pair el.timeLimitedWindowStartsAt c), ⟨t, w.redis.del failKey⟩)

/-- The limiter, the PIN step and the claim of an eligible call. -/
def redeemWithPin (el : Eligible) (decrypt : String → Except DecryptFault String) (userId : String)
    (data : Request) (c : Call) (w : World) : Except Failure VoucherRedemption × World :=
  match consume w.redis (pinLimit (pinFailCount userId data.branchId)) with
  | (none, redis) => (.error .redis, { w with redis := redis })
  | (some (.blocked _ _ retryAfter), redis) =>
    (.error (.app (.PIN_RATE_LIMIT_EXCEEDED retryAfter)), { w with redis := redis })
  | (some .ok, redis) => redeemAdmitted el decrypt userId data c { w with redis := redis }

def createRedemption (cat : Catalog) (decrypt : String → Except DecryptFault String)
    (redemptionCode userId : String) (data : Request) (now : ℕ) (w : World) :
    Except Failure VoucherRedemption × World :=
  match eligibility cat w.tables userId data.voucherId data.branchId now with
  | .error e => (.error e, w)
  | .ok el =>
    redeemWithPin el decrypt userId data
      ⟨now, data.branchId, redemptionCode, el.voucher.estimatedSaving⟩ w

end Redeemo.Redemption
