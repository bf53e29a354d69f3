import Redeemo.Favourites.Vouchers

/-! What the screens say about a voucher: `getCustomerVoucher`, and the cards of `getCustomerMerchant`.

    Both are derived from the rows that `createRedemption` reads, each in its own way. An instant stands for its ISO text.
    Of a voucher only what the state of its redemption depends on is shown here. -/

namespace Redeemo.VoucherScreens
open CycleWindows Favourites Redemption VoucherAvailability

def PRESENTATION_WINDOW_MS : ℤ := 2 * 60 * 60 * 1000

/-! ### Windows -/

def WindowOccurrence.Includes (occ : WindowOccurrence) (t : ℤ) : Prop := occ.startsAt ≤ t ∧ t < occ.endsAt

instance WindowOccurrence.decidableIncludes (occ : WindowOccurrence) (t : ℤ) :
    Decidable (WindowOccurrence.Includes occ t) :=
  inferInstanceAs (Decidable (occ.startsAt ≤ t ∧ t < occ.endsAt))

structure TimeLimitedPayload where
  availabilityWindows : List AvailabilityWindow
  currentWindow : Option WindowOccurrence
  nextWindow : Option WindowOccurrence
  redeemedWindow : Option WindowOccurrence
  deriving DecidableEq

/-- The current occurrence, or else the one that closed last, if the latest redemption lies in it. -/
def redeemedWindowAt (windows : List AvailabilityWindow) (currentWindow : Option WindowOccurrence)
    (lastRedeemedAt : Option ℤ) (now : ℤ) : Except String (Option WindowOccurrence) :=
  match lastRedeemedAt, currentWindow with
  | none, _ => .ok none
  | some last, some occ => .ok (if WindowOccurrence.Includes occ last then some occ else none)
  | some last, none => do
    let previous ← getMostRecentlyClosedWindowOccurrence windows now
    return previous.filter fun occ => WindowOccurrence.Includes occ last

def computeTimeLimitedPayload (type : VoucherType) (rawWindows : List AvailabilityWindow) (lastRedeemedAt : Option ℤ)
    (now : ℤ) : Except String TimeLimitedPayload :=
  if type = .TIME_LIMITED then do
    let currentWindow ← getCurrentWindowOccurrence rawWindows now
    let nextWindow ← getNextWindowOccurrence rawWindows now
    let redeemedWindow ← redeemedWindowAt rawWindows currentWindow lastRedeemedAt now
    return ⟨rawWindows, currentWindow, nextWindow, redeemedWindow⟩
  else .ok ⟨[], none, none, none⟩

/-- `orderBy: [{ dayOfWeek: 'asc' }, { openTime: 'asc' }]` -/
def ordered (windows : List AvailabilityWindow) : List AvailabilityWindow :=
  windows.insertionSort fun a b => a.dayOfWeek < b.dayOfWeek ∨ (a.dayOfWeek = b.dayOfWeek ∧ a.openTime ≤ b.openTime)

/-! ### What is read -/

structure Merchant where
  status : MerchantStatus
  isTestData : Bool

structure Shop where
  /-- Vouchers, branches, subscriptions and phones, by id. -/
  cat : Catalog
  merchants : String → Option Merchant
  /-- The ids of the vouchers, newest first. -/
  voucherIds : List String
  /-- Of a voucher. -/
  isTestData : String → Bool
  favourites : List FavouriteVoucher

/-- The vouchers joined with their merchants. -/
def Shop.catalog (shop : Shop) : Catalog :=
  { shop.cat with voucher := fun voucherId => do
      let voucher ← shop.cat.voucher voucherId
      let merchant ← shop.merchants voucher.merchantId
      return { voucher with merchantStatus := merchant.status } }

variable (shop : Shop) (t : Tables) (userId : Option String) (now : ℤ)

/-- Of an ACTIVE or TRIALLING subscription. -/
def cycleWindow : Option CycleWindow := do
  let userId ← userId
  let subscription ← shop.cat.subscription userId
  if subscription.status = .ACTIVE ∨ subscription.status = .TRIALLING then
    return getCurrentCycleWindow subscription.cycleAnchorDate now
  else none

/-- The most recent redemption of each of the vouchers. -/
def batchLastRedemptionsByVoucher (voucherIds : List String) (voucherId : String) : Option ℤ := do
  let userId ← userId
  if voucherId ∈ voucherIds then t.latestRedeemedAt (userId, voucherId) else none

def isFavourited (voucherId : String) : Bool :=
  userId.any fun userId => shop.favourites.any fun f => f.userId = userId && f.voucherId = voucherId

/-! ### The voucher -/

structure LastRedemption where
  code : String
  redeemedAt : ℤ
  branchId : String
  isValidated : Bool
  validatedAt : Option ℤ

structure VoucherDetail where
  id : String
  isRedeemedThisCycle : Bool
  isFavourited : Bool
  availableAgainAt : Option ℤ
  lastRedemption : Option LastRedemption
  windows : TimeLimitedPayload
  effectiveCooldownSeconds : Option ℤ

/-- Seed and demo vouchers are not found, nor are those of such merchants. -/
def findVoucher (voucherId : String) : Option Voucher := do
  let voucher ← shop.catalog.voucher voucherId
  let merchant ← shop.merchants voucher.merchantId
  if shop.isTestData voucherId = false ∧ merchant.isTestData = false then return voucher else none

/-- The flag of the voucher's cycle state, if the state is of the current cycle. -/
def isRedeemedThisCycle (voucherId : String) : Bool :=
  (cycleWindow shop userId now).any fun window => userId.any fun userId =>
    (t.cycleStates (userId, voucherId)).any fun cycleState =>
      cycleState.isRedeemedInCurrentCycle && decide (window.cycleStart ≤ cycleState.cycleStartDate)

/-- `findFirst`, by `redeemedAt` descending. -/
def findLatest (pair : Pair) (p : ℤ → Bool) : Option LastRedemption :=
  (((t.redemptionsOf pair).filter fun r => p r.redeemedAt).insertionSort fun a b =>
    b.redeemedAt ≤ a.redeemedAt).head?.map fun r => ⟨r.redemptionCode, r.redeemedAt, r.branchId, r.isValidated, r.validatedAt⟩

def cycleLastRedemption (voucherId : String) : Option LastRedemption := do
  let userId' ← userId
  let window ← cycleWindow shop userId now
  if isRedeemedThisCycle shop t userId now voucherId = true then
    findLatest t (userId', voucherId) fun redeemedAt => window.cycleStart ≤ redeemedAt && redeemedAt < window.cycleEnd
  else none

/-- On show for two hours, to subscribers. -/
def reusableLastRedemption (voucherId : String) : Option LastRedemption := do
  let userId' ← userId
  let _ ← cycleWindow shop userId now
  findLatest t (userId', voucherId) fun redeemedAt => now - PRESENTATION_WINDOW_MS ≤ redeemedAt

/-- Only an instant to come. -/
def reusableAvailableAgainAt (lastRedeemedAt cooldownSeconds : Option ℤ) : Option ℤ :=
  (computeAvailableAgainAt lastRedeemedAt cooldownSeconds).filter fun instant => now < instant

def getCustomerVoucher (voucherId : String) : Except Failure VoucherDetail := do
  let voucher ← orElse .VOUCHER_NOT_FOUND (findVoucher shop voucherId)
  require (voucher.status = .ACTIVE ∧ voucher.approvalStatus = .APPROVED ∧ voucher.merchantStatus = .ACTIVE)
    .VOUCHER_NOT_FOUND
  let lastRedeemedAt := batchLastRedemptionsByVoucher t userId [voucherId] voucherId
  let windows ← orThrow (computeTimeLimitedPayload voucher.type (ordered voucher.availabilityWindows) lastRedeemedAt now)
  return {
    id := voucherId
    isRedeemedThisCycle :=
      if voucher.type = .TIME_LIMITED ∨ voucher.type = .REUSABLE then false
      else isRedeemedThisCycle shop t userId now voucherId
    isFavourited := isFavourited shop userId voucherId
    availableAgainAt :=
      if voucher.type = .REUSABLE then reusableAvailableAgainAt now lastRedeemedAt voucher.cooldownSeconds
      else if voucher.type = .TIME_LIMITED then none
      else (cycleWindow shop userId now).map CycleWindow.cycleEnd
    lastRedemption :=
      if voucher.type = .REUSABLE then reusableLastRedemption shop t userId now voucherId
      else cycleLastRedemption shop t userId now voucherId
    windows := windows
    effectiveCooldownSeconds :=
      if voucher.type = .REUSABLE then some (effectiveCooldownSeconds voucher.cooldownSeconds) else none }

/-! ### The merchant's cards -/

structure VoucherCard where
  id : String
  isRedeemedThisCycle : Bool
  isFavourited : Bool
  windows : TimeLimitedPayload
  /-- Of a REUSABLE voucher: when it is available again. -/
  reusableState : Option (Option ℤ)

/-- The vouchers that a merchant's page lists, under their ids. -/
def merchantVouchers (merchantId : String) : List (String × Voucher) :=
  shop.voucherIds.filterMap fun voucherId => ((shop.catalog.voucher voucherId).filter fun voucher =>
    voucher.merchantId = merchantId ∧ voucher.status = .ACTIVE ∧ voucher.approvalStatus = .APPROVED ∧
      shop.isTestData voucherId = false).map fun voucher => (voucherId, voucher)

/-- Those of the vouchers that are redeemed in the current cycle. -/
def redeemedVoucherIdSet (voucherIds : List String) : List String :=
  match userId, cycleWindow shop userId now with
  | some userId, some window => voucherIds.filter fun voucherId =>
      (t.cycleStates (userId, voucherId)).any fun cycleState =>
        cycleState.isRedeemedInCurrentCycle && decide (window.cycleStart ≤ cycleState.cycleStartDate)
  | _, _ => []

def voucherCard (redeemedVoucherIds : List String) (lastRedemptionMap : String → Option ℤ) (v : String × Voucher) :
    Except String VoucherCard := do
  let windows ← computeTimeLimitedPayload v.2.type (ordered v.2.availabilityWindows) (lastRedemptionMap v.1) now
  return {
    id := v.1
    isRedeemedThisCycle :=
      if v.2.type = .TIME_LIMITED ∨ v.2.type = .REUSABLE then false else decide (v.1 ∈ redeemedVoucherIds)
    isFavourited := isFavourited shop userId v.1
    windows := windows
    reusableState :=
      if v.2.type = .REUSABLE then some (reusableAvailableAgainAt now (lastRedemptionMap v.1) v.2.cooldownSeconds)
      else none }

/-- The `vouchers` of `getCustomerMerchant`. -/
def getCustomerMerchantVouchers (merchantId : String) : Except Failure (List VoucherCard) := do
  let merchant ← orElse .MERCHANT_UNAVAILABLE ((shop.merchants merchantId).filter fun m => m.isTestData = false)
  require (merchant.status = .ACTIVE) .MERCHANT_UNAVAILABLE
  let vouchers := merchantVouchers shop merchantId
  let voucherIds := vouchers.map Prod.fst
  orThrow (vouchers.mapM (voucherCard shop userId now (redeemedVoucherIdSet shop t userId now voucherIds)
    (batchLastRedemptionsByVoucher t userId voucherIds)))

end Redeemo.VoucherScreens
