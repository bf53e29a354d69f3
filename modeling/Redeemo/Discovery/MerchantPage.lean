import Redeemo.Discovery.MerchantSearch
import Redeemo.Discovery.VoucherScreens

/-! `getCustomerMerchant` and `getCustomerMerchantBranches`: a merchant's page, and the branches to redeem at.

    The page lists the inactive branches too, and shows one active branch in detail. -/

namespace Redeemo.Discovery
open OpeningHours (OpeningHoursInput)
open OpenStatus (isOpenNow)
open Redemption (Failure orElse require)

/-! ### Which branch is shown in detail -/

structure ResolvableBranch where
  id : String
  isActive : Bool
  isMainBranch : Bool
  lifecycleStatus : BranchLifecycleStatus
  latitude : Option ℚ
  longitude : Option ℚ
  createdAt : ℤ

inductive FallbackReason
  | used_candidate | candidate_inactive | candidate_not_found | no_candidate | all_suspended
  deriving DecidableEq, Repr

structure ResolveResult where
  resolvedBranchId : Option String
  fallbackReason : FallbackReason

namespace ResolvableBranch

def isSelectable (b : ResolvableBranch) : Bool := b.lifecycleStatus ≠ .PENDING_CREATE

def metresFrom (env : Platform) (lat lng : ℚ) (b : ResolvableBranch) : Option ℚ :=
  match b.latitude, b.longitude with
  | some blat, some blng => some (env.haversineMetres lat lng blat blng)
  | _, _ => none

/-- The first of the nearest. -/
def nearest (env : Platform) (lat lng : Option ℚ) (active : List ResolvableBranch) : Option (ResolvableBranch × ℚ) :=
  match lat, lng with
  | some lat, some lng => active.foldl (fun best b =>
      match b.metresFrom env lat lng, best with
      | none, _ => best
      | some d, none => some (b, d)
      | some d, some (b', d') => if d < d' then some (b, d) else some (b', d')) none
  | _, _ => none

/-- The nearest, or else the main branch, or else the oldest. -/
def pickColdOpen (env : Platform) (branches : List ResolvableBranch) (lat lng : Option ℚ) : Option String :=
  let active := branches.filter fun b => b.isActive && b.isSelectable
  ((((nearest env lat lng active).map Prod.fst).or (active.find? isMainBranch)).or
    (sort (fun a b => compare a.createdAt b.createdAt) active).head?).map id

def fallBack (reason : FallbackReason) : Option String → ResolveResult
  | none => ⟨none, .all_suspended⟩
  | some id => ⟨some id, reason⟩

def resolveSelectedBranch (env : Platform) (branches : List ResolvableBranch) (candidateBranchId : Option String)
    (lat lng : Option ℚ) : ResolveResult :=
  let fallback := pickColdOpen env branches lat lng
  match truthy candidateBranchId with
  | none => fallBack .no_candidate fallback
  | some candidate =>
    match branches.find? fun b => decide (b.id = candidate) && b.isSelectable with
    | none => fallBack .candidate_not_found fallback
    | some found =>
      if found.isActive then ⟨some candidate, .used_candidate⟩ else fallBack .candidate_inactive fallback

end ResolvableBranch

/-! ### What a branch shows -/

/-- `null` comes last. -/
def compareTimes : Option String → Option String → Ordering
  | some a, some b => compare a b
  | some _, none => .lt
  | none, some _ => .gt
  | none, none => .eq

namespace Branch

/-- `orderBy: [{ dayOfWeek: 'asc' }, { openTime: 'asc' }]` -/
def orderedHours (b : Branch) : List OpeningHoursInput :=
  sort (fun v w => (compare v.dayOfWeek w.dayOfWeek).then (compareTimes v.openTime w.openTime)) b.openingHours

/-- The photos that have been approved. -/
def photoUrls (b : Branch) : List String :=
  (sort (fun p q => compare p.sortOrder q.sortOrder) (b.photos.filter fun p => p.moderationStatus = .APPROVED)).map
    BranchPhoto.url

def exactMetres (env : Platform) (lat lng : Option ℚ) (b : Branch) : Option ℚ :=
  match lat, lng with
  | some lat, some lng => b.exactMetresFrom env lat lng
  | _, _ => none

/-- A position that is not exact is withheld from the resolver. -/
def resolvable (b : Branch) : ResolvableBranch where
  id := b.id
  isActive := b.isActive
  isMainBranch := b.isMainBranch
  lifecycleStatus := b.lifecycleStatus
  latitude := if b.hasExactPosition then b.latitude else none
  longitude := if b.hasExactPosition then b.longitude else none
  createdAt := b.createdAt

end Branch

/-- In the merchant's list, and as the nearest. -/
structure PageBranch where
  id : String
  name : String
  isMainBranch : Bool
  isActive : Bool
  addressLine1 : String
  addressLine2 : Option String
  city : String
  postcode : String
  position : Branch.Position
  phone : Option String
  email : Option String
  distance : Option ℚ
  isOpenNow : Bool
  avgRating : Option ℚ
  reviewCount : ℕ
  isFavourited : Bool
  openingHours : List OpeningHoursInput

structure NearestBranch where
  id : String
  name : String
  addressLine1 : String
  addressLine2 : Option String
  city : String
  postcode : String
  position : Branch.Position
  phone : Option String
  email : Option String
  distance : Option ℚ
  isOpenNow : Bool

structure SelectedBranch where
  card : PageBranch
  country : String
  websiteUrl : Option String
  logoUrl : Option String
  bannerUrl : Option String
  about : Option String
  photos : List String
  amenities : List String
  myReview : Option Review

structure MerchantPage where
  id : String
  businessName : String
  tradingName : Option String
  logoUrl : Option String
  bannerUrl : Option String
  description : Option String
  websiteUrl : Option String
  primaryCategory : Option TileCategory
  primaryDescriptorTag : Option Tag
  categories : List (String × String × Option String)
  vouchers : List VoucherScreens.VoucherCard
  subcategory : Option (String × String)
  descriptor : Option String
  highlights : List (String × String)
  avgRating : Option ℚ
  reviewCount : ℕ
  isFavourited : Bool
  distance : Option ℚ
  nearestBranch : Option NearestBranch
  isOpenNow : Bool
  openingHours : List OpeningHoursInput
  amenities : List String
  photos : List String
  branches : List PageBranch
  selectedBranch : Option SelectedBranch
  selectedBranchFallbackReason : FallbackReason

structure PageOptions where
  lat : Option ℚ
  lng : Option ℚ
  branchId : Option String

/-! ### `getCustomerMerchant` -/

variable (env : Platform) (db : Database) (shop : VoucherScreens.Shop) (t : Redemption.Tables) (now : ℤ)

/-- Seed and demo merchants are not found, and the others only while they are `ACTIVE`. -/
def findAvailable (merchantId : String) : Except Failure Merchant := do
  let m ← orElse .MERCHANT_UNAVAILABLE (db.merchants.find? fun m => m.id = merchantId ∧ m.isTestData = false)
  require (m.status = .ACTIVE) .MERCHANT_UNAVAILABLE
  return m

/-- The active ones first, of these the main branch, and then by age. -/
def comparePage (a b : Branch) : Ordering :=
  ((compare b.isActive a.isActive).then (compare b.isMainBranch a.isMainBranch)).then (compare a.createdAt b.createdAt)

def pageBranches (m : Merchant) : List Branch :=
  sort comparePage (db.branches.filter fun b =>
    b.merchantId = m.id ∧ b.isTestData = false ∧ b.lifecycleStatus ≠ .PENDING_CREATE)

def pageBranch (userId : Option String) (opts : PageOptions) (b : Branch) : PageBranch where
  id := b.id
  name := b.name
  isMainBranch := b.isMainBranch
  isActive := b.isActive
  addressLine1 := b.details.addressLine1
  addressLine2 := b.details.addressLine2
  city := b.city
  postcode := b.details.postcode
  position := b.exposeBranchPosition
  phone := b.details.phone
  email := b.details.email
  distance := b.exactMetres env opts.lat opts.lng
  isOpenNow := isOpenNow b.orderedHours now
  avgRating := (ratingOf db b.id).bind Rating.avg
  reviewCount := ((ratingOf db b.id).map Rating.count).getD 0
  isFavourited := IsFavourite db.favouriteBranches userId b.id
  openingHours := b.orderedHours

def nearestBranch (distance : Option ℚ) (b : Branch) : NearestBranch where
  id := b.id
  name := b.name
  addressLine1 := b.details.addressLine1
  addressLine2 := b.details.addressLine2
  city := b.city
  postcode := b.details.postcode
  position := b.exposeBranchPosition
  phone := b.details.phone
  email := b.details.email
  distance := distance
  isOpenNow := isOpenNow b.orderedHours now

/-- The user's own review, unless it is hidden. -/
def myReview (userId : Option String) (b : Branch) : Option Review :=
  (truthy userId).bind fun id => db.reviews.find? fun r => r.userId = id ∧ r.branchId = b.id ∧ r.isHidden = false

/-- What the branch leaves open, the merchant fills in. -/
def selectedBranch (userId : Option String) (opts : PageOptions) (m : Merchant) (gallery : List String) (b : Branch) :
    SelectedBranch where
  card := pageBranch env db now userId opts b
  country := b.details.country
  websiteUrl := b.details.websiteUrl.or m.websiteUrl
  logoUrl := b.details.logoUrl.or m.logoUrl
  bannerUrl := b.details.bannerUrl.or m.bannerUrl
  about := b.details.about.or m.description
  photos := if b.photoUrls = [] then gallery else b.photoUrls
  amenities := b.amenityIds
  myReview := myReview db userId b

/-- The nearest of the active branches, or else the first. -/
def nearestOf (opts : PageOptions) (active : List Branch) : Option Branch :=
  match nearestExact env opts.lat opts.lng active with
  | some n => active.find? fun b => b.id = n.1.id
  | none => active.head?

def merchantPage (userId : Option String) (opts : PageOptions) (m : Merchant)
    (vouchers : List VoucherScreens.VoucherCard) : MerchantPage :=
  let branches := pageBranches db m
  let active := branches.filter Branch.isActive
  let rating := ratingTotals db (active.map Branch.id)
  let distance := (nearestExact env opts.lat opts.lng active).map Prod.snd
  let nearest := nearestOf env opts active
  let nearestHours := (nearest.map Branch.orderedHours).getD []
  let gallery := active.flatMap Branch.photoUrls
  let resolved := ResolvableBranch.resolveSelectedBranch env (branches.map Branch.resolvable) opts.branchId opts.lat opts.lng
  let selected := resolved.resolvedBranchId.bind fun id => branches.find? fun b => b.id = id
  { id := m.id
    businessName := m.businessName
    tradingName := m.tradingName
    logoUrl := m.logoUrl
    bannerUrl := m.bannerUrl
    description := m.description
    websiteUrl := m.websiteUrl
    primaryCategory := (m.primaryCategory db).map tileCategory
    primaryDescriptorTag := m.primaryDescriptorTag db
    categories := (m.categories db).map fun c => (c.id, c.name, c.parentId)
    vouchers := vouchers
    subcategory := (m.subcategory db).map fun c => (c.id, c.name)
    descriptor := m.descriptor env db
    highlights := (m.visibleHighlights db).map fun h => (h.1.highlightTagId, h.2.label)
    avgRating := averageOf rating
    reviewCount := rating.2
    isFavourited := IsFavourite db.favouriteMerchants userId m.id
    distance := distance
    nearestBranch := nearest.map (nearestBranch now distance)
    isOpenNow := isOpenNow nearestHours now
    openingHours := nearestHours
    amenities := (nearest.map Branch.amenityIds).getD []
    photos := gallery
    branches := branches.map (pageBranch env db now userId opts)
    selectedBranch := selected.map (selectedBranch env db now userId opts m gallery)
    selectedBranchFallbackReason := resolved.fallbackReason }

/-- The voucher cards are those of `getCustomerMerchantVouchers`. -/
def getCustomerMerchant (merchantId : String) (userId : Option String) (opts : PageOptions) : Except Failure MerchantPage := do
  let m ← findAvailable db merchantId
  let vouchers ← VoucherScreens.getCustomerMerchantVouchers shop t (truthy userId) now merchantId
  return merchantPage env db now userId opts m vouchers

/-! ### `getCustomerMerchantBranches` -/

structure SelectorBranch where
  id : String
  name : String
  isMainBranch : Bool
  addressLine1 : String
  addressLine2 : Option String
  city : String
  postcode : String
  phone : Option String
  position : Branch.Position
  openingHours : List OpeningHoursInput

def selectorBranch (b : Branch) : SelectorBranch where
  id := b.id
  name := b.name
  isMainBranch := b.isMainBranch
  addressLine1 := b.details.addressLine1
  addressLine2 := b.details.addressLine2
  city := b.city
  postcode := b.details.postcode
  phone := b.details.phone
  position := b.exposeBranchPosition
  openingHours := b.orderedHours

def getCustomerMerchantBranches (merchantId : String) : Except Failure (List SelectorBranch) := do
  let m ← findAvailable db merchantId
  return (sort (fun a b => compare b.isMainBranch a.isMainBranch) (tileBranches db m)).map selectorBranch

end Redeemo.Discovery
