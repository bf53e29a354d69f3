import Mathlib.Data.List.Sort
import Redeemo.Redemption.Service

/-! The list of favourite vouchers, in order of how soon they can be redeemed. -/

namespace Redeemo.Favourites
open CycleWindows Redemption VoucherAvailability

/-- Under an hour a window counts as closing. -/
def URGENT_THRESHOLD_MS : ℤ := 60 * 60000

def computeAvailableAgainAt (lastRedeemedAt cooldownSeconds : Option ℤ) : Option ℤ :=
  lastRedeemedAt.map fun t => t + effectiveCooldownSeconds cooldownSeconds * 1000

structure BucketInput where
  type : VoucherType
  status : VoucherStatus
  approvalStatus : ApprovalStatus
  merchantStatus : MerchantStatus
  expiryDate : Option ℤ
  cooldownSeconds : Option ℤ
  availabilityWindows : List AvailabilityWindow
  redeemedThisCycle : Bool
  lastRedeemedAt : Option ℤ
  now : ℤ

/-- By type, of a voucher that can be redeemed at all. -/
def typeBucket (input : BucketInput) : Except String ℕ :=
  match input.type with
  | .TIME_LIMITED => do
    match ← getCurrentWindowOccurrence input.availabilityWindows input.now with
    | some currentWindow =>
      let remaining := currentWindow.endsAt - input.now
      if 0 < remaining then return if remaining < URGENT_THRESHOLD_MS then 1 else 2
      else return 5
    | none => return 5
  | .REUSABLE =>
    return if ∃ availableAgainAt ∈ computeAvailableAgainAt input.lastRedeemedAt input.cooldownSeconds,
      input.now < availableAgainAt then 3 else 2
  | _ => return if input.redeemedThisCycle = true then 4 else 2

/-- From 1, urgent, to 7, expired. -/
def computeVoucherPriorityBucket (input : BucketInput) : Except String ℕ :=
  if ∃ expiry ∈ input.expiryDate, expiry ≤ input.now then .ok 7
  else if ¬ (input.status = .ACTIVE ∧ input.approvalStatus = .APPROVED) ∨ input.merchantStatus ≠ .ACTIVE then .ok 6
  else typeBucket input

/-! ### What the list feeds it -/

structure FavouriteVoucher where
  userId : String
  voucherId : String
  createdAt : ℤ

structure Item where
  id : String
  type : VoucherType
  estimatedSaving : ℚ
  expiresAt : Option ℤ
  status : VoucherStatus
  approvalStatus : ApprovalStatus
  isRedeemedInCurrentCycle : Bool
  merchantStatus : MerchantStatus
  favouritedAt : ℤ
  isUnavailable : Bool
  priorityBucket : ℕ
  deriving DecidableEq

variable (cat : Catalog) (t : Tables) (userId : String) (now : ℤ)

/-- The voucher is in the user's set for the current cycle. -/
def redeemedThisCycle (voucherId : String) : Bool :=
  (cat.subscription userId).any fun sub =>
    (t.cycleStates (userId, voucherId)).any fun state =>
      decide ((getCurrentCycleWindow sub.cycleAnchorDate now).cycleStart ≤ state.cycleStartDate) &&
        state.isRedeemedInCurrentCycle

/-- Looked up for REUSABLE vouchers only. -/
def lastRedeemedAt (voucherId : String) (v : Voucher) : Option ℤ :=
  if v.type = .REUSABLE then t.latestRedeemedAt (userId, voucherId) else none

def bucketInput (voucherId : String) (v : Voucher) : BucketInput where
  type := v.type
  status := v.status
  approvalStatus := v.approvalStatus
  merchantStatus := v.merchantStatus
  expiryDate := v.expiryDate
  cooldownSeconds := v.cooldownSeconds
  availabilityWindows := v.availabilityWindows
  redeemedThisCycle := redeemedThisCycle cat t userId now voucherId
  lastRedeemedAt := lastRedeemedAt t userId voucherId v
  now := now

def enrich (r : FavouriteVoucher) (v : Voucher) : Except String Item := do
  let priorityBucket ← computeVoucherPriorityBucket (bucketInput cat t userId now r.voucherId v)
  return {
    id := r.voucherId
    type := v.type
    estimatedSaving := v.estimatedSaving
    expiresAt := v.expiryDate
    status := v.status
    approvalStatus := v.approvalStatus
    isRedeemedInCurrentCycle := redeemedThisCycle cat t userId now r.voucherId
    merchantStatus := v.merchantStatus
    favouritedAt := r.createdAt
    isUnavailable := ¬ (v.status = .ACTIVE ∧ v.approvalStatus = .APPROVED) ∨ v.merchantStatus ≠ .ACTIVE
    priorityBucket := priorityBucket }

/-- A favourite is of a voucher that there is; seed and demo vouchers are not listed. -/
def listedRows (isTestData : String → Bool) (favourites : List FavouriteVoucher) : List (FavouriteVoucher × Voucher) :=
  ((favourites.filter fun r => r.userId = userId && !isTestData r.voucherId).insertionSort
    fun a b => b.createdAt ≤ a.createdAt).filterMap fun r => (cat.voucher r.voucherId).map fun v => (r, v)

structure Page where
  items : List Item
  total : ℕ
  page : ℕ
  limit : ℕ

def listFavouriteVouchers (isTestData : String → Bool) (favourites : List FavouriteVoucher) (page limit : ℕ) :
    Except String Page := do
  let rows := listedRows cat userId isTestData favourites
  let enriched ← rows.mapM fun r => enrich cat t userId now r.1 r.2
  let sorted := enriched.insertionSort fun a b => a.priorityBucket ≤ b.priorityBucket
  return ⟨(sorted.drop ((page - 1) * limit)).take limit, rows.length, page, limit⟩

end Redeemo.Favourites
