import Redeemo.Discovery.Tiles
import Redeemo.Lib.Paging

/-! The lists of favourite merchants and favourite branches.

    Both sort all that the user has before a page is cut out: what is unavailable last, what is open first, and
    otherwise the latest favourite first. A merchant is shown with the first of its branches, the main one if it is
    listed. -/

namespace Redeemo.Favourites
open Discovery (ratingOf roundTenth)
open OpenStatus (isOpenNow)

variable (db : Discovery.Database) (now : ℤ) (userId : String)

/-- A row with its merchant. -/
structure FavouriteMerchant where
  userId : String
  createdAt : ℤ
  merchant : Discovery.Merchant

/-- A row with its branch and the branch's merchant. -/
structure FavouriteBranch where
  userId : String
  createdAt : ℤ
  branch : Discovery.Branch
  merchant : Discovery.Merchant

/-- Unavailable last, open first. -/
def availableFirst {α : Type*} (isUnavailable isOpen : α → Bool) (a b : α) : Ordering :=
  if isUnavailable a ≠ isUnavailable b then if isUnavailable a then .gt else .lt
  else if isOpen a ≠ isOpen b then if isOpen a then .lt else .gt
  else .eq

instance transCmp_availableFirst {α : Type*} (isUnavailable isOpen : α → Bool) :
    Std.TransCmp (availableFirst isUnavailable isOpen) := by
  have _ : Std.TransCmp fun _ _ : α => Ordering.eq := Sorting.transCmp_eq
  have heq : availableFirst isUnavailable isOpen = Sorting.ahead (fun a => !isUnavailable a)
      (Sorting.ahead isOpen (fun _ _ => .eq) fun _ _ => .eq) (Sorting.ahead isOpen (fun _ _ => .eq) fun _ _ => .eq) := by
    funext a b
    cases ha : isUnavailable a <;> cases hb : isUnavailable b <;> cases hoa : isOpen a <;> cases hob : isOpen b <;>
      simp [availableFirst, Sorting.ahead, ha, hb, hoa, hob]
  rw [heq]
  exact Sorting.transCmp_ahead

structure ListPage (α : Type) where
  items : List α
  total : ℕ
  page : ℕ
  limit : ℕ

/-! ### Merchants -/

def listedBranch (b : Discovery.Branch) : Bool := b.isActive = true ∧ b.isTestData = false ∧ b.lifecycleStatus ≠ .PENDING_CREATE

/-- `orderBy: { isMainBranch: 'desc' }`. -/
def mainFirst (a b : Discovery.Branch) : Ordering := compare b.isMainBranch a.isMainBranch

/-- The branch of a merchant that is shown, of its branches as the query comes upon them. -/
def shownBranch (branches : List Discovery.Branch) : Option Discovery.Branch :=
  ((branches.filter listedBranch).mergeSort fun a b => mainFirst a b ≠ .gt).head?

structure MerchantBranch where
  id : String
  name : String
  addressLine1 : String
  latitude : Option ℚ
  longitude : Option ℚ
  deriving DecidableEq

structure MerchantItem where
  id : String
  businessName : String
  tradingName : Option String
  logoUrl : Option String
  bannerUrl : Option String
  status : MerchantStatus
  primaryCategoryId : Option String
  voucherCount : ℕ
  maxEstimatedSaving : ℚ
  avgRating : Option ℚ
  reviewCount : ℕ
  isOpen : Bool
  branch : Option MerchantBranch
  favouritedAt : ℤ
  isUnavailable : Bool

def merchantItem (branches : String → List Discovery.Branch) (r : FavouriteMerchant) : MerchantItem :=
  let m := r.merchant
  let branch := shownBranch (branches m.id)
  let rating := branch.bind fun b => ratingOf db b.id
  let isUnavailable := decide (m.status ≠ .ACTIVE)
  { id := m.id
    businessName := m.businessName
    tradingName := m.tradingName
    logoUrl := m.logoUrl
    bannerUrl := m.bannerUrl
    status := m.status
    primaryCategoryId := m.primaryCategoryId
    voucherCount := (m.vouchers db).length
    maxEstimatedSaving := (m.savings db).max?.getD 0
    avgRating := rating.bind fun r => r.avg.map roundTenth
    reviewCount := (rating.map Discovery.Rating.count).getD 0
    isOpen := !isUnavailable && branch.any fun b => isOpenNow b.openingHours now
    branch := branch.map fun b => ⟨b.id, b.name, b.details.addressLine1, b.latitude, b.longitude⟩
    favouritedAt := r.createdAt
    isUnavailable := isUnavailable }

def latestMerchant (a b : FavouriteMerchant) : Ordering := compare b.createdAt a.createdAt

def merchantWhere (r : FavouriteMerchant) : Bool := r.userId = userId ∧ r.merchant.isTestData = false

/-- The rows and each merchant's branches as the queries come upon them. -/
def listFavouriteMerchants (found : List FavouriteMerchant) (branches : String → List Discovery.Branch) (page limit : ℕ) :
    ListPage MerchantItem :=
  let rows := (found.filter (merchantWhere userId)).mergeSort fun a b => latestMerchant a b ≠ .gt
  let enriched := rows.map (merchantItem db now branches)
  let sorted := enriched.mergeSort fun a b =>
    availableFirst MerchantItem.isUnavailable MerchantItem.isOpen a b ≠ .gt
  ⟨(sorted.drop ((page - 1) * limit)).take limit, (found.filter (merchantWhere userId)).length, page, limit⟩

/-! ### Branches -/

structure BranchItem where
  id : String
  name : String
  isMainBranch : Bool
  addressLine1 : String
  addressLine2 : Option String
  city : String
  postcode : String
  position : Discovery.Branch.Position
  merchantId : String
  businessName : String
  tradingName : Option String
  logoUrl : Option String
  bannerUrl : Option String
  status : MerchantStatus
  primaryCategoryId : Option String
  voucherCount : ℕ
  maxEstimatedSaving : ℚ
  totalEstimatedSaving : ℚ
  avgRating : Option ℚ
  reviewCount : ℕ
  isOpen : Bool
  favouritedAt : ℤ
  isUnavailable : Bool

def branchItem (r : FavouriteBranch) : BranchItem :=
  let b := r.branch
  let m := r.merchant
  let rating := ratingOf db b.id
  let isUnavailable := !b.isActive || decide (m.status ≠ .ACTIVE)
  { id := b.id
    name := b.name
    isMainBranch := b.isMainBranch
    addressLine1 := b.details.addressLine1
    addressLine2 := b.details.addressLine2
    city := b.city
    postcode := b.details.postcode
    position := b.exposeBranchPosition
    merchantId := m.id
    businessName := m.businessName
    tradingName := m.tradingName
    logoUrl := m.logoUrl
    bannerUrl := m.bannerUrl
    status := m.status
    primaryCategoryId := m.primaryCategoryId
    voucherCount := (m.vouchers db).length
    maxEstimatedSaving := (m.savings db).max?.getD 0
    totalEstimatedSaving := (((m.savings db).sum * 100 + 1 / 2).floor : ℚ) / 100
    avgRating := rating.bind fun r => r.avg.map roundTenth
    reviewCount := (rating.map Discovery.Rating.count).getD 0
    isOpen := !isUnavailable && isOpenNow b.openingHours now
    favouritedAt := r.createdAt
    isUnavailable := isUnavailable }

def latestBranch (a b : FavouriteBranch) : Ordering := compare b.createdAt a.createdAt

def branchWhere (r : FavouriteBranch) : Bool :=
  r.userId = userId ∧ r.branch.isTestData = false ∧ r.branch.lifecycleStatus ≠ .PENDING_CREATE ∧
    r.merchant.isTestData = false

def listFavouriteBranches (found : List FavouriteBranch) (page limit : ℕ) : ListPage BranchItem :=
  let rows := (found.filter (branchWhere userId)).mergeSort fun a b => latestBranch a b ≠ .gt
  let enriched := rows.map (branchItem db now)
  let sorted := enriched.mergeSort fun a b => availableFirst BranchItem.isUnavailable BranchItem.isOpen a b ≠ .gt
  ⟨(sorted.drop ((page - 1) * limit)).take limit, (found.filter (branchWhere userId)).length, page, limit⟩

end Redeemo.Favourites
