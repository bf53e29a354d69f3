import Mathlib.Data.Rat.Defs
import Mathlib.Logic.Function.Basic
import Redeemo.Shared.Errors
import Redeemo.Shared.Schema

/-! The tables a redemption writes, and the statements `createRedemption` runs on them.

    A user has at most one cycle-state row for a voucher, so that table is a partial function of the
    two ids. Redemptions are a list, newest first; the two unique constraints are checked where a row
    is created. Statements that several processes interleave are named here one by one and put
    together in the transactions of `Claim`. -/

namespace Redeemo.Redemption

structure VoucherRedemption where
  userId : String
  voucherId : String
  branchId : String
  redemptionCode : String
  estimatedSaving : ℚ
  isValidated : Bool
  redeemedAt : ℤ
  /-- Only set for TIME_LIMITED vouchers. -/
  windowStartsAt : Option ℤ
  validatedAt : Option ℤ
  validationMethod : Option ValidationMethod
  /-- The branch user who validated it. -/
  validatedById : Option String
  deriving DecidableEq

/-- A row of `UserVoucherCycleState`, under its user and voucher. -/
structure CycleState where
  cycleStartDate : ℤ
  isRedeemedInCurrentCycle : Bool
  lastRedeemedAt : Option ℤ
  deriving DecidableEq, Repr

structure Tables where
  redemptions : List VoucherRedemption
  cycleStates : String × String → Option CycleState

/-- A violated unique constraint, with its columns. -/
structure P2002 where
  target : List String
  deriving DecidableEq, Repr

/-- The ids every statement of one call filters by. -/
abbrev Pair := String × String

namespace Tables

/-- A user's redemptions of a voucher. -/
def redemptionsOf (t : Tables) (pair : Pair) : List VoucherRedemption :=
  t.redemptions.filter fun r => (r.userId, r.voucherId) = pair

/-- `voucherRedemption.create`, under `@unique redemptionCode` and
    `@@unique([userId, voucherId, windowStartsAt])`, where NULLs are distinct. -/
def createRedemption (t : Tables) (data : VoucherRedemption) : Except P2002 Tables :=
  if ∃ r ∈ t.redemptions, r.redemptionCode = data.redemptionCode then .error ⟨["redemptionCode"]⟩
  else if data.windowStartsAt.isSome ∧
      ∃ r ∈ t.redemptionsOf (data.userId, data.voucherId), r.windowStartsAt = data.windowStartsAt then
    .error ⟨["userId", "voucherId", "windowStartsAt"]⟩
  else .ok { t with redemptions := data :: t.redemptions }

/-- `orderBy: { redeemedAt: 'desc' }`, first row. -/
def latestRedeemedAt (t : Tables) (pair : Pair) : Option ℤ :=
  ((t.redemptionsOf pair).map (·.redeemedAt)).max?

def setCycleState (t : Tables) (pair : Pair) (c : CycleState) : Tables :=
  { t with cycleStates := Function.update t.cycleStates pair (some c) }

/-- `userVoucherCycleState.create`. -/
def createCycleState (t : Tables) (pair : Pair) (c : CycleState) : Except P2002 Tables :=
  match t.cycleStates pair with
  | some _ => .error ⟨["userId", "voucherId"]⟩
  | none => .ok (t.setCycleState pair c)

end Tables

/-- What the claim takes from one call of a user for a voucher, besides the two ids. -/
structure Call where
  now : ℕ
  branchId : String
  redemptionCode : String
  estimatedSaving : ℚ

def redemptionData (pair : Pair) (windowStartsAt : Option ℤ) (c : Call) : VoucherRedemption :=
  { userId := pair.1
    voucherId := pair.2
    branchId := c.branchId
    redemptionCode := c.redemptionCode
    estimatedSaving := c.estimatedSaving
    isValidated := false
    redeemedAt := c.now
    windowStartsAt := windowStartsAt
    validatedAt := none
    validationMethod := none
    validatedById := none }

/-! ### The cycle claim -/

/-- The row is from an older cycle, or not redeemed in its cycle. -/
def claimWhere (cycleStart : ℤ) (c : CycleState) : Prop :=
  c.cycleStartDate < cycleStart ∨ c.isRedeemedInCurrentCycle = false

instance (cycleStart : ℤ) (c : CycleState) : Decidable (claimWhere cycleStart c) :=
  inferInstanceAs (Decidable (_ ∨ _))

def claimData (cycleStart now : ℤ) : CycleState := ⟨cycleStart, true, some now⟩

/-- `userVoucherCycleState.updateMany` with `claimWhere` and `claimData`: the number of rows
    updated. -/
def Tables.claimCycleState (t : Tables) (pair : Pair) (cycleStart now : ℤ) : ℕ × Tables :=
  match t.cycleStates pair with
  | none => (0, t)
  | some c => if claimWhere cycleStart c then (1, t.setCycleState pair (claimData cycleStart now))
    else (0, t)

/-- The check before the PIN on a cycle voucher. -/
def cycleGuard (cycleStart : ℤ) (cycleState : Option CycleState) : Except AppError Unit :=
  match cycleState with
  | none => .ok ()
  | some c =>
    if cycleStart ≤ c.cycleStartDate ∧ c.isRedeemedInCurrentCycle then .error .ALREADY_REDEEMED
    else .ok ()

/-! ### The cooldown -/

def DEFAULT_REUSABLE_COOLDOWN_SECONDS : ℤ := 4 * 60 * 60
def MIN_REUSABLE_COOLDOWN_SECONDS : ℤ := 30 * 60

def effectiveCooldownSeconds (cooldownSeconds : Option ℤ) : ℤ :=
  max (cooldownSeconds.getD DEFAULT_REUSABLE_COOLDOWN_SECONDS) MIN_REUSABLE_COOLDOWN_SECONDS

/-- The check on a REUSABLE voucher, before the PIN and again under the lock. -/
def cooldownGuard (latest : Option ℤ) (now effectiveCooldownMs : ℤ) : Except AppError Unit :=
  match latest with
  | none => .ok ()
  | some redeemedAt =>
    if now < redeemedAt + effectiveCooldownMs then
      .error (.REUSABLE_COOLDOWN_ACTIVE (redeemedAt + effectiveCooldownMs))
    else .ok ()

/-! ### Facts about the statements -/

/-- Before the PIN and in the claim the same rows pass. -/
theorem cycleGuard_ok_iff {cycleStart : ℤ} {cycleState : Option CycleState} :
    cycleGuard cycleStart cycleState = .ok () ↔ ∀ c ∈ cycleState, claimWhere cycleStart c := by
  cases cycleState with
  | none => simp [cycleGuard]
  | some c =>
    simp only [cycleGuard, Option.mem_def, Option.some.injEq, forall_eq', claimWhere]
    split_ifs with h
    · simp only [false_iff, not_or, not_lt, Bool.not_eq_false]
      exact h
    · simp only [true_iff]
      by_contra hn
      rw [not_or, not_lt, Bool.not_eq_false] at hn
      exact h hn

namespace Tables

variable {t t' : Tables} {data : VoucherRedemption} {pair : Pair}

theorem createRedemption_eq_ok (h : t.createRedemption data = .ok t') :
    t' = { t with redemptions := data :: t.redemptions } ∧
      (∀ r ∈ t.redemptions, r.redemptionCode ≠ data.redemptionCode) ∧
      (data.windowStartsAt.isSome = true →
        ∀ r ∈ t.redemptionsOf (data.userId, data.voucherId),
          r.windowStartsAt ≠ data.windowStartsAt) := by
  rw [createRedemption] at h
  split_ifs at h with hcode hkey
  cases h
  refine ⟨rfl, fun r hr he => hcode ⟨r, hr, he⟩, fun hs r hr he => hkey ⟨hs, r, hr, he⟩⟩

theorem redemptionsOf_cons {states : String × String → Option CycleState} :
    (⟨data :: t.redemptions, states⟩ : Tables).redemptionsOf pair =
      (if (data.userId, data.voucherId) = pair then [data] else []) ++ t.redemptionsOf pair := by
  by_cases h : (data.userId, data.voucherId) = pair
  · simp only [redemptionsOf, List.filter_cons, h, decide_true, if_true, List.singleton_append]
  · simp only [redemptionsOf, List.filter_cons, h, decide_false, if_false, List.nil_append,
      Bool.false_eq_true]

/-- A call's redemption is one of its own pair. -/
theorem redemptionsOf_redemptionData {states : String × String → Option CycleState}
    {key : Option ℤ} {c : Call} :
    (⟨redemptionData pair key c :: t.redemptions, states⟩ : Tables).redemptionsOf pair =
      redemptionData pair key c :: t.redemptionsOf pair := by
  have hp : ((redemptionData pair key c).userId, (redemptionData pair key c).voucherId) = pair := rfl
  rw [redemptionsOf_cons, if_pos hp, List.singleton_append]

theorem latestRedeemedAt_eq_none_iff : t.latestRedeemedAt pair = none ↔ t.redemptionsOf pair = [] := by
  rw [latestRedeemedAt, List.max?_eq_none_iff, List.map_eq_nil_iff]

theorem le_latestRedeemedAt {a : ℤ} (h : t.latestRedeemedAt pair = some a) :
    ∀ r ∈ t.redemptionsOf pair, r.redeemedAt ≤ a := by
  rw [latestRedeemedAt, List.max?_eq_some_iff, List.forall_mem_map] at h
  exact h.2

/-- The cooldown check on the latest redemption checks all of them. -/
theorem cooldownGuard_ok_iff {now ms : ℤ} : cooldownGuard (t.latestRedeemedAt pair) now ms = .ok () ↔
    ∀ r ∈ t.redemptionsOf pair, r.redeemedAt + ms ≤ now := by
  cases h : t.latestRedeemedAt pair with
  | none =>
    rw [latestRedeemedAt_eq_none_iff] at h
    simp [cooldownGuard, h]
  | some a =>
    have hle := le_latestRedeemedAt h
    rw [latestRedeemedAt, List.max?_eq_some_iff, List.mem_map] at h
    obtain ⟨⟨r, hr, hra⟩, -⟩ := h
    simp only [cooldownGuard]
    split_ifs with hlt
    · simp only [false_iff]
      intro hall
      have := hall r hr
      omega
    · simp only [true_iff]
      intro s hs
      have := hle s hs
      omega

end Tables

end Redeemo.Redemption
