import Redeemo.Discovery.Tiles
import Redeemo.Shared.Errors

/-! What a search asks for, and which branches match it.

    The query text is looked up as a tag and as a place first. A tag wins over a place, and a place stands in for the
    words: every branch matches it. -/

namespace Redeemo.Discovery
open BranchLifecycle (CONFIRMED_LOCATION_SET)
open Redemption (utf16Length)

inductive Scope
  | nearby | city | region | platform
  deriving DecidableEq, Repr

inductive SortBy
  | relevance | nearest | top_rated | highest_saving
  deriving DecidableEq, Repr

structure SearchParams where
  q : Option String
  categoryId : Option String
  subcategoryId : Option String
  lat : Option ℚ
  lng : Option ℚ
  minLat : Option ℚ
  maxLat : Option ℚ
  minLng : Option ℚ
  maxLng : Option ℚ
  maxDistanceMiles : Option ℚ
  minSaving : Option ℚ
  voucherTypes : List VoucherType
  amenityIds : List String
  tagIds : List String
  scope : Option Scope
  openNow : Bool
  featured : Bool
  topRated : Bool
  sortBy : SortBy
  limit : ℕ
  offset : ℕ
  userId : Option String

namespace SearchParams

def normalizedQ (params : SearchParams) : Option String := normalizeSearchQuery params.q

/-- Some predicate bounds the search. -/
def Bounded (params : SearchParams) : Prop :=
  params.normalizedQ.isSome ∨ (truthy params.categoryId).isSome ∨ (truthy params.subcategoryId).isSome ∨ params.minLat.isSome

instance decidableBounded (params : SearchParams) : Decidable params.Bounded := inferInstanceAs (Decidable
  (params.normalizedQ.isSome ∨ (truthy params.categoryId).isSome ∨ (truthy params.subcategoryId).isSome ∨
    params.minLat.isSome))

end SearchParams

/-! ### The query text -/

def singularize (env : Platform) (token : String) : Option String :=
  let endsIn (suffix : String) : Bool := suffix.toList <:+ (env.toLowerCase token).toList
  if utf16Length token < 5 then none
  else if endsIn "ss" ∨ endsIn "us" ∨ endsIn "is" then none
  else if endsIn "s" then some (String.ofList token.toList.dropLast)
  else none

def tokenVariants (env : Platform) (token : String) : List String := token :: (singularize env token).toList

variable (env : Platform) (db : Database) (now : ℤ)

def tryTagMatch (q : String) : Option Tag :=
  if utf16Length q < 2 then none
  else (tokenVariants env q).findSome? fun variant => db.tags.find? fun t => env.equals t.label variant

def POPULATION_TIER_ORDER : PopulationTier → ℕ
  | .METRO_CORE => 7
  | .CITY => 6
  | .LARGE_TOWN => 5
  | .TOWN => 4
  | .SMALL_TOWN => 3
  | .VILLAGE => 2
  | .HAMLET => 1
  | .UNKNOWN => 0

def PLACE_MATCH_PREFIX_THRESHOLD : ℕ := 6

def PLACE_PREFIX_ALLOWED_TIERS : List PopulationTier := [.METRO_CORE, .CITY, .LARGE_TOWN]

/-- The densest, and of those the first whose name is what was asked for. -/
def bestPlace (nameHit : Locality → Bool) (matched : List Locality) : Option Locality :=
  let score (l : Locality) : ℕ := POPULATION_TIER_ORDER l.populationTier * 10 + if nameHit l then 1 else 0
  (sort (fun a b => compare (score b) (score a)) (matched.take 10)).head?

def tryPlaceMatch (q : String) : Option Locality :=
  if utf16Length q < 2 then none
  else
    let exactMatches := db.localities.filter fun l => env.equals l.name q || l.postTown.any (env.equals · q)
    if exactMatches ≠ [] then bestPlace (fun l => env.toLowerCase l.name = env.toLowerCase q) exactMatches
    else if utf16Length q < PLACE_MATCH_PREFIX_THRESHOLD then none
    else bestPlace (fun l => (env.toLowerCase q).toList <+: (env.toLowerCase l.name).toList)
      (db.localities.filter fun l => (env.startsWith l.name q || l.postTown.any (env.startsWith · q)) &&
        l.populationTier ∈ PLACE_PREFIX_ALLOWED_TIERS)

/-- What the query text was found to be. -/
structure Lookups where
  placeMatch : Option Locality
  tagMatch : Option Tag
  tagMerchantIds : List String
  voucherMerchantIds : List String

def MIN_DESCRIPTION_MATCH_LENGTH : ℕ := 5

def includeDescription (q : String) : Bool := MIN_DESCRIPTION_MATCH_LENGTH ≤ utf16Length q

/-- The merchants with an approved suggestion of such a tag. -/
def suggestedTagMerchants (q : String) : List String :=
  (db.merchants.filter fun m => m.suggestedTags.any fun t => env.contains t.tag q ∧ t.status = .APPROVED).map Merchant.id

/-- The voucher can be seen, and its merchant is no test data. -/
def Voucher.Searchable (v : Voucher) : Prop :=
  v.status = .ACTIVE ∧ v.approvalStatus = .APPROVED ∧ v.isTestData = false ∧
    ∃ m ∈ db.merchants, m.id = v.merchantId ∧ m.isTestData = false

instance Voucher.decidableSearchable (v : Voucher) : Decidable (v.Searchable db) := inferInstanceAs (Decidable
  (v.status = .ACTIVE ∧ v.approvalStatus = .APPROVED ∧ v.isTestData = false ∧
    ∃ m ∈ db.merchants, m.id = v.merchantId ∧ m.isTestData = false))

def voucherMerchants (q : String) : List String :=
  (db.vouchers.filter fun v => v.Searchable db ∧
    (env.contains v.title q ∨ includeDescription q ∧ v.description.any (env.contains · q))).map Voucher.merchantId

/-- A tag wins over a place. -/
def lookups (normalizedQ : Option String) : Lookups :=
  match normalizedQ with
  | none => ⟨none, none, [], []⟩
  | some q =>
    let tagMatch := tryTagMatch env db q
    ⟨if tagMatch.isSome then none else tryPlaceMatch env db q, tagMatch, suggestedTagMerchants env db q,
      voucherMerchants env db q⟩

/-! ### The predicate -/

/-- Some field of the branch or its merchant contains the text. -/
def fieldContains (isMultiToken includeDescriptionMatch : Bool) (b : Branch) (m : Merchant) (v : String) : Bool :=
  env.contains m.businessName v || m.tradingName.any (env.contains · v) ||
    (m.primaryCategory db).any (fun c => env.contains c.name v) || (m.categories db).any (fun c => env.contains c.name v) ||
    (isMultiToken && ((m.tags db).any (fun t => env.contains t.label v) ||
      m.highlights.any (fun h => (findTag db h.highlightTagId).any fun t => env.contains t.label v))) ||
    (includeDescriptionMatch && m.description.any (env.contains · v)) || env.contains b.name v ||
    b.localityName.any (env.contains · v) || b.postTown.any (env.contains · v)

def fieldOrForToken (isMultiToken includeDescriptionMatch : Bool) (b : Branch) (m : Merchant) (token : String) : Bool :=
  (tokenVariants env token).any (fieldContains env db isMultiToken includeDescriptionMatch b m)

def textMatches (look : Lookups) (q : String) (b : Branch) (m : Merchant) : Bool :=
  let tokens := words q
  if 1 < tokens.length then
    tokens.all (fieldOrForToken env db true (includeDescription q) b m) || decide (m.id ∈ look.voucherMerchantIds)
  else
    fieldOrForToken env db false (includeDescription q) b m q || decide (m.id ∈ look.tagMerchantIds) ||
      decide (m.id ∈ look.voucherMerchantIds) ||
      look.tagMatch.any fun t => decide (t.id ∈ m.tagIds) || m.highlights.any fun h => h.highlightTagId = t.id

def inCategories (categoryIds : List String) (m : Merchant) : Bool :=
  m.primaryCategoryId.any (fun id => decide (id ∈ categoryIds)) || m.categoryIds.any fun id => decide (id ∈ categoryIds)

def withChildren (categoryId : String) : List String :=
  categoryId :: (db.categories.filter fun c => c.parentId = some categoryId).map Category.id

def hasTag (tagIds : List String) (m : Merchant) : Bool :=
  m.tagIds.any (fun id => decide (id ∈ tagIds)) || m.highlights.any (fun h => decide (h.highlightTagId ∈ tagIds)) ||
    m.primaryDescriptorTagId.any fun id => decide (id ∈ tagIds)

def isFeatured (m : Merchant) : Bool :=
  m.featuredListings.any fun f => f.isActive ∧ f.startDate ≤ now ∧ now ≤ f.endDate

/-- The four sides of the box, if all are given. -/
def SearchParams.box (params : SearchParams) : Option (ℚ × ℚ × ℚ × ℚ) := do
  return (← params.minLat, ← params.maxLat, ← params.minLng, ← params.maxLng)

def inBox (box : ℚ × ℚ × ℚ × ℚ) (b : Branch) : Bool :=
  b.isBranchLocationConfirmed && b.latitude.any (fun lat => box.1 ≤ lat ∧ lat ≤ box.2.1) &&
    b.longitude.any fun lng => box.2.2.1 ≤ lng ∧ lng ≤ box.2.2.2

/-- Shown to customers, branch and merchant. -/
def Listed (b : Branch) (m : Merchant) : Prop :=
  b.isActive ∧ b.isTestData = false ∧ b.lifecycleStatus ≠ .PENDING_CREATE ∧ m.status = .ACTIVE ∧ m.isTestData = false

instance decidableListed (b : Branch) (m : Merchant) : Decidable (Listed b m) := inferInstanceAs (Decidable
  (b.isActive ∧ b.isTestData = false ∧ b.lifecycleStatus ≠ .PENDING_CREATE ∧ m.status = .ACTIVE ∧ m.isTestData = false))

/-- The filters on merchants that both searches have. -/
def merchantFilters (params : SearchParams) (m : Merchant) : Bool :=
  (truthy params.categoryId).all (fun id => inCategories (withChildren db id) m) &&
    (truthy params.subcategoryId).all (fun id => inCategories [id] m) &&
    params.minSaving.all (fun s => s = 0 || (m.vouchers db).any fun v => s ≤ v.estimatedSaving) &&
    (params.voucherTypes = [] || (m.vouchers db).any fun v => decide (v.type ∈ params.voucherTypes)) &&
    (params.tagIds = [] || hasTag params.tagIds m) && (!params.featured || isFeatured now m)

/-- `where` of `searchBranches`. -/
def branchWhere (params : SearchParams) (look : Lookups) (b : Branch) (m : Merchant) : Bool :=
  Listed b m && (look.placeMatch.isSome || params.normalizedQ.all fun q => textMatches env db look q b m) &&
    merchantFilters db now params m && params.amenityIds.all (fun id => decide (id ∈ b.amenityIds)) &&
    params.box.all fun box => inBox box b

end Redeemo.Discovery
