import Redeemo.Discovery.MerchantRanking

/-! `searchMerchants` and `getCategoryMerchants`: a tile for each merchant.

    Who is listed, and in which order, is settled before a tile is made. Of the branches a tile shows the nearest whose
    position is exact. -/

namespace Redeemo.Discovery
open Fallible Listing
open OpenStatus (isOpenNow)

variable (env : Platform) (db : Database) (now : ℤ)

/-! ### `MERCHANT_TILE_SELECT` -/

def tileBranches (m : Merchant) : List Branch :=
  db.branches.filter fun b => b.merchantId = m.id ∧ b.isActive ∧ b.isTestData = false ∧ b.lifecycleStatus ≠ .PENDING_CREATE

/-- The sum of the ratings and their number, over some branches. -/
def ratingTotals (branchIds : List String) : ℚ × ℕ :=
  branchIds.foldl (fun total id =>
    match ratingOf db id with
    | some r => (total.1 + r.avg.getD 0 * r.count, total.2 + r.count)
    | none => total) (0, 0)

def averageOf (total : ℚ × ℕ) : Option ℚ := if 0 < total.2 then some (roundTenth (total.1 / total.2)) else none

/-- The row of a merchant, with its rating over all the branches. -/
def merchantRow (m : Merchant) : MerchantForRanking :=
  let total := ratingTotals db ((tileBranches db m).map Branch.id)
  ⟨m, tileBranches db m, averageOf total, total.2⟩

/-! ### Tiles -/

structure TileCategory where
  id : String
  name : String
  pinColour : Option String
  pinIcon : Option String
  descriptorSuffix : Option String
  parentId : Option String

def tileCategory (c : Category) : TileCategory := ⟨c.id, c.name, c.pinColour, c.pinIcon, c.descriptorSuffix, c.parentId⟩

structure MerchantTile where
  id : String
  businessName : String
  tradingName : Option String
  logoUrl : Option String
  bannerUrl : Option String
  primaryCategory : Option TileCategory
  primaryDescriptorTag : Option Tag
  subcategory : Option (String × String)
  descriptor : Option String
  highlights : List (String × String)
  avgRating : Option ℚ
  reviewCount : ℕ
  voucherCount : ℕ
  maxEstimatedSaving : Option ℚ
  isFavourited : Bool
  distance : Option ℚ
  nearestBranchId : Option String
  latitude : Option ℚ
  longitude : Option ℚ

/-- The first of the nearest branches with an exact position, and how far it lies from the user. -/
def nearestExact (lat lng : Option ℚ) (branches : List Branch) : Option (Branch × ℚ) :=
  match lat, lng with
  | some lat, some lng => branches.foldl (fun best b =>
      match b.exactMetresFrom env lat lng, best with
      | none, _ => best
      | some d, none => some (b, d)
      | some d, some (b', d') => if d < d' then some (b, d) else some (b', d')) none
  | _, _ => none

def enrichMerchantTile (lat lng : Option ℚ) (userId : Option String) (row : MerchantForRanking) : MerchantTile :=
  let m := row.merchant
  let nearest := nearestExact env lat lng row.branches
  { id := m.id
    businessName := m.businessName
    tradingName := m.tradingName
    logoUrl := m.logoUrl
    bannerUrl := m.bannerUrl
    primaryCategory := (m.primaryCategory db).map tileCategory
    primaryDescriptorTag := m.primaryDescriptorTag db
    subcategory := (m.subcategory db).map fun c => (c.id, c.name)
    descriptor := m.descriptor env db
    highlights := (m.visibleHighlights db).map fun h => (h.1.highlightTagId, h.2.label)
    avgRating := row.avgRating
    reviewCount := row.reviewCount
    voucherCount := (m.vouchers db).length
    maxEstimatedSaving := (m.savings db).max?
    isFavourited := IsFavourite db.favouriteMerchants userId m.id
    distance := nearest.map Prod.snd
    nearestBranchId := nearest.map fun n => n.1.id
    latitude := nearest.bind fun n => n.1.latitude
    longitude := nearest.bind fun n => n.1.longitude }

/-- A tile as a list shows it: with its tier, and what the second ranking says of the merchant. -/
structure ListedTile where
  tile : MerchantTile
  supplyTier : SupplyTier
  supplyRung : Option SupplyRung
  proximityBand : Option ProximityBand
  distanceMetres : Option ℚ
  contextBranchId : Option String

def mergeV2FieldsOntoTile (tile : MerchantTile) (supplyTier : SupplyTier) (v2Tile : Option RankedTile) : ListedTile where
  tile := tile
  supplyTier := supplyTier
  supplyRung := v2Tile.map RankedTile.supplyRung
  proximityBand := v2Tile.map RankedTile.proximityBand
  distanceMetres := v2Tile.bind RankedTile.distanceMetres
  contextBranchId := v2Tile.map RankedTile.contextBranchId

/-! ### The second ranking -/

structure V2RankAttempt where
  effLoc : Option EffectiveLocation
  result : Option RankMerchantsV2Result

/-- Where a request comes from, and what it asks for. -/
structure V2Context where
  userId : Option String
  lat : Option ℚ
  lng : Option ℚ
  categoryId : Option String
  subcategoryId : Option String

def v2Input (ctx : V2Context) (effLoc : EffectiveLocation) : RankInput where
  effLoc := effLoc
  ladderProfile := resolveLadderProfileForCategory db (truthy ctx.categoryId) (truthy ctx.subcategoryId)
  outgoingCatchmentTargetIds := getOutgoingCatchmentTargetIds db effLoc.locality.id
  categoryIntent := .MIXED
  targetCount := 500
  hardCap := 1000

def tryRankMerchantsV2 (merchants : List MerchantForRanking) (ctx : V2Context) : V2RankAttempt :=
  let effLoc := resolveEffectiveLocation env db ctx.lat ctx.lng none ctx.userId
  ⟨effLoc, effLoc.map fun e => (v2Input db ctx e).rankMerchantsV2 env merchants⟩

def V2RankAttempt.tileOf (v2 : V2RankAttempt) (merchantId : String) : Option RankedTile :=
  v2.result.bind fun r => r.tiles.find? fun t => t.merchantId = merchantId

/-! ### The response -/

structure MerchantsMeta where
  scope : Scope
  resolvedArea : String
  scopeExpanded : Bool
  counts : TierCounts
  emptyStateReason : EmptyStateReason
  rungCounts : SupplyRung → ℕ
  effectiveLocality : Option (String × String)

structure MerchantsResponse where
  merchants : List ListedTile
  total : ℕ
  meta' : MerchantsMeta

/-- What both functions make of the merchants they have ranked: the tiers that the scope keeps, a page of them, and a
    tile for each on the page. -/
def listMerchants (scope : Option Scope) (ctx : RankMerchantsContext) (counts : TierCounts) (v2 : V2RankAttempt)
    (sorted : List RankedMerchant) (limit offset : ℕ) (userId : Option String) : MerchantsResponse :=
  let resolution := resolveScopeForRanking scope ctx.intentType counts
  let filtered := sorted.filter fun m => m.supplyTier ∈ resolution.retainedTiers
  { merchants := (slice offset limit filtered).map fun m =>
      mergeV2FieldsOntoTile (enrichMerchantTile env db ctx.userLat ctx.userLng userId m.row) m.supplyTier
        (v2.tileOf m.row.merchant.id)
    total := filtered.length
    meta' := {
      scope := resolution.resolvedScope
      resolvedArea := buildResolvedArea resolution.resolvedScope ctx.profileCity
      scopeExpanded := resolution.scopeExpanded
      counts := counts
      emptyStateReason := buildEmptyStateReason filtered.length resolution.scopeExpanded
        (counts.nearbyCount + counts.cityCount + counts.distantCount)
      rungCounts := (v2.result.map RankMerchantsV2Result.rungCounts).getD EMPTY_RUNG_COUNTS
      effectiveLocality := v2.effLoc.map fun e => (e.locality.id, e.locality.name) } }

/-! ### `searchMerchants` -/

-- How the database orders texts.
variable (collate : String → String → Ordering)

def orderByBusinessName (merchants : List Merchant) : List Merchant :=
  sort (fun a b => collate a.businessName b.businessName) merchants

def merchantTextMatches (q : String) (m : Merchant) : Bool :=
  let shows (s : String) : Bool := env.contains s q
  shows m.businessName || m.tradingName.any shows || m.description.any shows ||
    (m.primaryCategory db).any (fun c => shows c.name) || (m.categories db).any (fun c => shows c.name) ||
    decide (m.id ∈ suggestedTagMerchants env db q)

/-- `where` of `searchMerchants`. -/
def merchantWhere (params : SearchParams) (m : Merchant) : Bool :=
  decide (m.status = .ACTIVE) && !m.isTestData && params.normalizedQ.all (fun q => merchantTextMatches env db q m) &&
    merchantFilters db now params m &&
    params.amenityIds.all (fun id => (tileBranches db m).any fun b => decide (id ∈ b.amenityIds)) &&
    params.box.all fun box => (tileBranches db m).any (inBox box)

def nearestExactMetres (lat lng : ℚ) (m : Merchant) : Option ℚ :=
  ((tileBranches db m).filterMap fun b => b.exactMetresFrom env lat lng).min?

def sortNearest (params : SearchParams) (merchants : List Merchant) : List Merchant :=
  match params.sortBy, params.lat, params.lng with
  | .nearest, some lat, some lng =>
    sort (fun a b => compareMetres (nearestExactMetres env db lat lng a) (nearestExactMetres env db lat lng b)) merchants
  | _, _, _ => merchants

/-- Within the radius, by an exact position. -/
def merchantWithinMiles (params : SearchParams) (m : Merchant) : Bool :=
  match params.maxDistanceMiles, params.lat, params.lng with
  | some miles, some lat, some lng =>
    miles = 0 || (nearestExactMetres env db lat lng m).any fun d => d ≤ miles * (160934 / 100)
  | _, _, _ => true

/-- The merchants that pass the filters. -/
def candidateMerchants (params : SearchParams) : List Merchant :=
  let sorted := sortNearest env db params (orderByBusinessName collate (db.merchants.filter (merchantWhere env db now params)))
  sorted.filter fun m => merchantWithinMiles env db params m &&
    (!params.openNow || (tileBranches db m).any fun b => isOpenNow b.openingHours now) &&
    (!params.topRated || decide (4 ≤ (merchantRow db m).avgRating.getD 0 ∧ 5 ≤ (merchantRow db m).reviewCount))

/-- `LOCAL`, or what the category says. -/
def intentOf (categoryId : Option String) : CategoryIntent :=
  (((truthy categoryId).bind (findCategory db)).map (resolveCategoryIntent db)).getD .LOCAL

def isRated (m : MerchantForRanking) : Bool := 4 ≤ m.avgRating.getD 0 ∧ 3 ≤ m.reviewCount

/-- `0` for a merchant without vouchers. -/
def maxSavingOf (m : Merchant) : ℚ := (m.savings db).max?.getD 0

/-- What the sort asked for makes of the ranking. -/
def sortOverride (sortBy : SortBy) (ranked : List RankedMerchant) : List RankedMerchant :=
  match sortBy with
  | .relevance => ranked
  | .nearest => ranked
  | .top_rated =>
    sort (fun a b => compare (b.row.avgRating.getD 0) (a.row.avgRating.getD 0)) (ranked.filter fun m => isRated m.row) ++
      ranked.filter fun m => !isRated m.row
  | .highest_saving => sort (fun a b => compare (maxSavingOf db b.row.merchant) (maxSavingOf db a.row.merchant)) ranked

def SearchParams.rankContext (params : SearchParams) : RankMerchantsContext where
  userLat := params.lat
  userLng := params.lng
  profileCity := resolveProfileCity db params.userId
  intentType := intentOf db params.categoryId

def SearchParams.v2Context (params : SearchParams) : V2Context where
  userId := params.userId
  lat := params.lat
  lng := params.lng
  categoryId := params.categoryId
  subcategoryId := params.subcategoryId

def searchMerchants (params : SearchParams) : Except AppError MerchantsResponse := do
  rejectIf (¬ params.Bounded) .SEARCH_QUERY_REQUIRED
  let rows := (candidateMerchants env db now collate params).map (merchantRow db)
  let ctx := params.rankContext db
  let ranking := ctx.rankMerchants env rows
  let v2 := tryRankMerchantsV2 env db rows params.v2Context
  return listMerchants env db params.scope ctx ranking.counts v2 (sortOverride db params.sortBy ranking.ordered)
    params.limit params.offset params.userId

/-! ### `getCategoryMerchants` -/

structure CategoryOptions where
  scope : Option Scope
  lat : Option ℚ
  lng : Option ℚ
  userId : Option String
  limit : ℕ
  offset : ℕ

def categoryMerchants (categoryId : String) : List Merchant :=
  orderByBusinessName collate (db.merchants.filter fun m =>
    m.status = .ACTIVE ∧ m.isTestData = false ∧ inCategories [categoryId] m)

def CategoryOptions.rankContext (options : CategoryOptions) (categoryId : String) : RankMerchantsContext where
  userLat := options.lat
  userLng := options.lng
  profileCity := resolveProfileCity db options.userId
  intentType := ((findCategory db categoryId).map (resolveCategoryIntent db)).getD .LOCAL

/-- A category with a parent is a subcategory. -/
def CategoryOptions.v2Context (options : CategoryOptions) (categoryId : String) : V2Context :=
  let isSubcategory := ((findCategory db categoryId).bind (parentOf db)).isSome
  { userId := options.userId
    lat := options.lat
    lng := options.lng
    categoryId := if isSubcategory then none else some categoryId
    subcategoryId := if isSubcategory then some categoryId else none }

def getCategoryMerchants (categoryId : String) (options : CategoryOptions) : MerchantsResponse :=
  let rows := (categoryMerchants db collate categoryId).map (merchantRow db)
  let ctx := options.rankContext db categoryId
  let ranking := ctx.rankMerchants env rows
  let v2 := tryRankMerchantsV2 env db rows (options.v2Context db categoryId)
  listMerchants env db options.scope ctx ranking.counts v2 ranking.ordered options.limit options.offset options.userId

end Redeemo.Discovery
