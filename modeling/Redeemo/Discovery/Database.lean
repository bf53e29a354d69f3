import Mathlib.Algebra.Order.Ring.Rat
import Redeemo.Branch.OpenStatus
import Redeemo.Branch.Tables
import Redeemo.Discovery.Ladder
import Redeemo.Shared.VoucherAvailability

/-! The tables that the customer's discovery screens read.

    A merchant comes with the join rows that belong to it alone, a branch with its opening hours and amenities. The rows
    of a table stand in the order in which the database returns them where a query asks for none. -/

namespace Redeemo.Discovery
open BranchLifecycle (CONFIRMED_LOCATION_SET)
open OpeningHours (OpeningHoursInput)
open VoucherAvailability (AvailabilityWindow)

inductive CategoryIntent
  | LOCAL | DESTINATION | MIXED
  deriving DecidableEq, Repr

inductive MerchantSuggestedTagStatus
  | PENDING | APPROVED | REJECTED
  deriving DecidableEq, Repr

/-! ### Rows -/

structure Locality where
  id : String
  name : String
  postTown : Option String
  ladDistrict : String
  adminCounty : Option String
  region : Option String
  country : String
  centerLat : ℚ
  centerLng : ℚ
  populationTier : PopulationTier

structure LocalityCatchmentEdge where
  sourceLocalityId : String
  targetLocalityId : String
  rank : ℕ

structure Category where
  id : String
  name : String
  parentId : Option String
  intentType : Option CategoryIntent
  ladderProfile : LadderProfile
  ladderProfileOverride : Option LadderProfile
  descriptorSuffix : Option String
  pinColour : Option String
  pinIcon : Option String

structure Tag where
  id : String
  label : String

structure MerchantHighlight where
  highlightTagId : String
  sortOrder : ℤ

structure MerchantSuggestedTag where
  tag : String
  status : MerchantSuggestedTagStatus

structure FeaturedMerchant where
  id : String
  startDate : ℤ
  endDate : ℤ
  radiusMiles : ℚ
  isActive : Bool

structure Merchant where
  id : String
  status : MerchantStatus
  isTestData : Bool
  businessName : String
  tradingName : Option String
  description : Option String
  websiteUrl : Option String
  logoUrl : Option String
  bannerUrl : Option String
  primaryCategoryId : Option String
  primaryDescriptorTagId : Option String
  /-- The rows of `MerchantCategory`, `MerchantTag`, `MerchantHighlight`, `MerchantSuggestedTag`, `FeaturedMerchant`. -/
  categoryIds : List String
  tagIds : List String
  highlights : List MerchantHighlight
  suggestedTags : List MerchantSuggestedTag
  featuredListings : List FeaturedMerchant

/-- Where a branch says it can be reached, and how it presents itself. -/
structure BranchDetails where
  addressLine1 : String
  addressLine2 : Option String
  postcode : String
  country : String
  phone : Option String
  email : Option String
  websiteUrl : Option String
  logoUrl : Option String
  bannerUrl : Option String
  about : Option String

structure BranchPhoto where
  url : String
  sortOrder : ℤ
  moderationStatus : PhotoModerationStatus

structure Branch where
  id : String
  merchantId : String
  name : String
  isMainBranch : Bool
  isActive : Bool
  isTestData : Bool
  deletedAt : Option ℤ
  lifecycleStatus : BranchLifecycleStatus
  createdAt : ℤ
  city : String
  latitude : Option ℚ
  longitude : Option ℚ
  locationConfidence : LocationConfidence
  localityId : Option String
  localityName : Option String
  postTown : Option String
  ladDistrict : Option String
  adminCounty : Option String
  region : Option String
  locationCountry : Option String
  details : BranchDetails
  openingHours : List OpeningHoursInput
  amenityIds : List String
  photos : List BranchPhoto

structure Voucher where
  id : String
  merchantId : String
  type : VoucherType
  status : VoucherStatus
  approvalStatus : ApprovalStatus
  isTestData : Bool
  title : String
  description : Option String
  estimatedSaving : ℚ
  expiryDate : Option ℤ
  cooldownSeconds : Option ℤ
  createdAt : ℤ
  availabilityWindows : List AvailabilityWindow

structure Review where
  userId : String
  branchId : String
  rating : ℤ
  isHidden : Bool

structure VoucherRedemption where
  voucherId : String
  userId : String
  branchId : String
  redeemedAt : ℤ

structure User where
  id : String
  city : Option String
  latitude : Option ℚ
  longitude : Option ℚ
  localityId : Option String

structure RedundantHighlight where
  subcategoryId : String
  highlightTagId : String

/-- Of a branch, or of a merchant. -/
structure Favourite where
  userId : String
  targetId : String

structure Database where
  merchants : List Merchant
  branches : List Branch
  vouchers : List Voucher
  reviews : List Review
  redemptions : List VoucherRedemption
  users : List User
  localities : List Locality
  catchmentEdges : List LocalityCatchmentEdge
  categories : List Category
  tags : List Tag
  redundantHighlights : List RedundantHighlight
  favouriteBranches : List Favourite
  favouriteMerchants : List Favourite

/-! ### What the queries compute with -/

/-- The floating-point sines, the collation of the runtime, and the database's comparisons that ignore case. -/
structure Platform where
  haversineMetres : ℚ → ℚ → ℚ → ℚ → ℚ
  localeCompare : String → String → Ordering
  toLowerCase : String → String
  contains : String → String → Bool
  startsWith : String → String → Bool
  equals : String → String → Bool

/-- What a test for truth lets through: neither `null` nor empty. -/
def truthy (s : Option String) : Option String := s.filter fun t => t ≠ ""

/-- `Array.prototype.sort`, which is stable. -/
def sort {α : Type*} (compareFn : α → α → Ordering) (l : List α) : List α := l.mergeSort fun a b => compareFn a b ≠ .gt

/-- `null` counts as `Number.POSITIVE_INFINITY`. -/
def compareMetres : Option ℚ → Option ℚ → Ordering
  | some a, some b => compare a b
  | some _, none => .lt
  | none, some _ => .gt
  | none, none => .eq

namespace Branch

def isBranchLocationConfirmed (b : Branch) : Bool := b.locationConfidence ∈ CONFIRMED_LOCATION_SET

structure Position where
  latitude : Option ℚ
  longitude : Option ℚ
  locationConfidence : LocationConfidence
  deriving DecidableEq

def exposeBranchPosition (b : Branch) : Position :=
  if b.isBranchLocationConfirmed then ⟨b.latitude, b.longitude, b.locationConfidence⟩
  else ⟨none, none, b.locationConfidence⟩

/-- The coordinates, where there are both. -/
def coordinates (b : Branch) : Option (ℚ × ℚ) :=
  match b.latitude, b.longitude with
  | some lat, some lng => some (lat, lng)
  | _, _ => none

def hasExactPosition (b : Branch) : Bool := b.isBranchLocationConfirmed && b.coordinates.isSome

/-- How far the branch lies from a point, by the coordinates as they stand. -/
def metresFrom (env : Platform) (lat lng : ℚ) (b : Branch) : Option ℚ :=
  b.coordinates.map fun p => env.haversineMetres lat lng p.1 p.2

/-- How far it lies, where the position is exact. -/
def exactMetresFrom (env : Platform) (lat lng : ℚ) (b : Branch) : Option ℚ :=
  if b.isBranchLocationConfirmed then b.metresFrom env lat lng else none

end Branch

section
variable {α : Type*} {compareFn : α → α → Ordering} {l : List α} {a : α}

theorem sort_perm : (sort compareFn l).Perm l := List.mergeSort_perm _ _

@[simp] theorem mem_sort : a ∈ sort compareFn l ↔ a ∈ l := sort_perm.mem_iff

@[simp] theorem length_sort : (sort compareFn l).length = l.length := sort_perm.length_eq

end

end Redeemo.Discovery
