import Redeemo.Discovery.BranchSearch

/-! The two rankings of merchants that a search runs side by side.

    `rankMerchants` is the older one. It puts the merchants into three tiers, and decides which of them are listed and in
    which order. `rankMerchantsV2` walks the ladder of rungs, and adds to what a tile shows. -/

namespace Redeemo.Discovery

/-- A merchant's row with its branches, and the figures over all of them. -/
structure MerchantForRanking where
  merchant : Merchant
  branches : List Branch
  avgRating : Option ℚ
  reviewCount : ℕ

/-! ### `rankMerchants` -/

def NEARBY_RADIUS_MILES : ℚ := 2

def NEARBY_RADIUS_METRES : ℚ := NEARBY_RADIUS_MILES * (160934 / 100)

structure RankMerchantsContext where
  userLat : Option ℚ
  userLng : Option ℚ
  profileCity : Option String
  intentType : CategoryIntent

structure RankedMerchant where
  row : MerchantForRanking
  supplyTier : SupplyTier
  distanceMetres : Option ℚ

structure TierCounts where
  nearbyCount : ℕ
  cityCount : ℕ
  distantCount : ℕ

structure RankMerchantsResult where
  ordered : List RankedMerchant
  counts : TierCounts

/-- Those with three reviews come first, by their rating, and then the others by name. -/
def qualityComparator (env : Platform) (a b : MerchantForRanking) : Ordering :=
  if MIN_REVIEW_COUNT_FOR_RATING_SORT ≤ a.reviewCount then
    if MIN_REVIEW_COUNT_FOR_RATING_SORT ≤ b.reviewCount then compare (b.avgRating.getD 0) (a.avgRating.getD 0) else .lt
  else if MIN_REVIEW_COUNT_FOR_RATING_SORT ≤ b.reviewCount then .gt
  else env.localeCompare a.merchant.businessName b.merchant.businessName

namespace RankMerchantsContext
variable (env : Platform) (ctx : RankMerchantsContext)

/-- How far each active branch lies from the user, if both have coordinates. -/
def distances (branches : List Branch) : List ℚ :=
  match ctx.userLat, ctx.userLng with
  | some lat, some lng => (branches.filter Branch.isActive).filterMap (Branch.metresFrom env lat lng)
  | _, _ => []

def classifyTier (branches : List Branch) : SupplyTier :=
  if ∃ d ∈ ctx.distances env branches, d ≤ NEARBY_RADIUS_METRES then .NEARBY
  else if ∃ city ∈ truthy ctx.profileCity, ∃ b ∈ branches.filter Branch.isActive,
    env.toLowerCase b.city = env.toLowerCase city then .CITY
  else .DISTANT

def nearestDistanceMetres (branches : List Branch) : Option ℚ := (ctx.distances env branches).min?

def tag (m : MerchantForRanking) : RankedMerchant :=
  ⟨m, ctx.classifyTier env m.branches, ctx.nearestDistanceMetres env m.branches⟩

def compareNames (a b : RankedMerchant) : Ordering :=
  env.localeCompare a.row.merchant.businessName b.row.merchant.businessName

/-- The merchants, tier by tier. -/
def order (tagged : List RankedMerchant) : List RankedMerchant :=
  let tier (t : SupplyTier) := tagged.filter fun m => m.supplyTier = t
  let nearby := sort (fun a b => compareMetres a.distanceMetres b.distanceMetres) (tier .NEARBY)
  let byQuality := sort fun a b : RankedMerchant => qualityComparator env a.row b.row
  match ctx.intentType with
  | .LOCAL => nearby ++ (sort (compareNames env) (tier .CITY) ++ sort (compareNames env) (tier .DISTANT))
  | .DESTINATION => nearby ++ byQuality (tier .CITY ++ tier .DISTANT)
  | .MIXED => nearby ++ (sort (compareNames env) (tier .CITY) ++ byQuality (tier .DISTANT))

def rankMerchants (merchants : List MerchantForRanking) : RankMerchantsResult :=
  let tagged := merchants.map (ctx.tag env)
  let count (t : SupplyTier) := (tagged.filter fun m => m.supplyTier = t).length
  ⟨ctx.order env tagged, count .NEARBY, count .CITY, count .DISTANT⟩

end RankMerchantsContext

/-! ### The scope -/

def retainedSupply (counts : TierCounts) (tiers : List SupplyTier) : ℕ :=
  (if .NEARBY ∈ tiers then counts.nearbyCount else 0) + (if .CITY ∈ tiers then counts.cityCount else 0) +
    if .DISTANT ∈ tiers then counts.distantCount else 0

structure ScopeResolution where
  retainedTiers : List SupplyTier
  scopeExpanded : Bool
  resolvedScope : Scope

def resolveScopeForRanking (requested : Option Scope) (intent : CategoryIntent) (counts : TierCounts) : ScopeResolution :=
  let tiers := retainedTiers requested intent (retainedSupply counts)
  ⟨tiers, decide (tiers ≠ initialTiers requested intent), resolvedScope tiers⟩

/-! ### `rankMerchantsV2` -/

structure MerchantEntry where
  row : MerchantForRanking
  contextBranch : Branch
  bestRung : SupplyRung

structure RankedTile where
  merchantId : String
  businessName : String
  supplyRung : SupplyRung
  supplyTier : SupplyTier
  proximityBand : ProximityBand
  distanceMetres : Option ℚ
  contextBranchId : String

structure RankMerchantsV2Result where
  tiles : List RankedTile
  rungCounts : SupplyRung → ℕ

namespace RankInput
variable (env : Platform) (input : RankInput)

def metres (b : Branch) : Option ℚ := b.metresFrom env input.effLoc.lat input.effLoc.lng

/-- The branches with a rung on the ladder. -/
def candidateBranches (branches : List Branch) : List (Branch × SupplyRung) :=
  branches.filterMap fun b => (input.rungOf env b).map fun rung => (b, rung)

/-- The most specific rung first, then the nearest, then by id. -/
def compareContext (a b : Branch × SupplyRung) : Ordering :=
  ((compare (rungOrdinal a.2) (rungOrdinal b.2)).then (compareMetres (input.metres env a.1) (input.metres env b.1))).then
    (env.localeCompare a.1.id b.1.id)

def selectContextBranch (branches : List (Branch × SupplyRung)) : Option (Branch × SupplyRung) :=
  (sort (input.compareContext env) branches).head?

def entryOf (m : MerchantForRanking) : Option MerchantEntry :=
  (input.selectContextBranch env (input.candidateBranches env m.branches)).map fun b => ⟨m, b.1, b.2⟩

/-- `Infinity - Infinity` is not a number: a sort takes it for a tie, and does not come to the names. -/
def distanceComparator (a b : MerchantEntry) : Ordering :=
  let da := input.metres env a.contextBranch
  let db := input.metres env b.contextBranch
  if da = none ∧ db = none then .eq
  else (compareMetres da db).then (env.localeCompare a.row.merchant.businessName b.row.merchant.businessName)

/-- The comparator of a rung. -/
def entryComparator (rung : SupplyRung) (a b : MerchantEntry) : Ordering :=
  match input.categoryIntent with
  | .LOCAL => input.distanceComparator env a b
  | .DESTINATION => qualityComparator env a.row b.row
  | .MIXED => if rung = .NEARBY then input.distanceComparator env a b else qualityComparator env a.row b.row

def sortEntries (rung : SupplyRung) (arr : List MerchantEntry) : List MerchantEntry :=
  sort (input.entryComparator env rung) arr

def rankedTile (e : MerchantEntry) : RankedTile where
  merchantId := e.row.merchant.id
  businessName := e.row.merchant.businessName
  supplyRung := e.bestRung
  supplyTier := mapRungToLegacyTier e.bestRung
  proximityBand := getProximityBand e.bestRung input.effLoc.densityClass
  distanceMetres := input.metres env e.contextBranch
  contextBranchId := e.contextBranch.id

/-- Rung by rung, until there are enough tiles. `NEARBY` comes first, and after it the flag stays set. -/
def stitch (entries : List MerchantEntry) (rungs : List SupplyRung) (nearbyRungEvaluated : Bool)
    (tiles : List RankedTile) : List RankedTile :=
  match rungs with
  | [] => tiles
  | rung :: rungs =>
    if rungOrdinal input.maxRung < rungOrdinal rung then tiles
    else
      let sorted := input.sortEntries env rung (entries.filter fun e => e.bestRung = rung)
      let tiles := tiles ++ (sorted.take (input.hardCap - tiles.length)).map (input.rankedTile env)
      let nearbyRungEvaluated := nearbyRungEvaluated || rung = .NEARBY
      if input.targetCount ≤ tiles.length ∧ nearbyRungEvaluated then tiles
      else if input.hardCap ≤ tiles.length then tiles
      else stitch entries rungs nearbyRungEvaluated tiles

def rankMerchantsV2 (merchants : List MerchantForRanking) : RankMerchantsV2Result :=
  let tiles := input.stitch env (merchants.filterMap (input.entryOf env)) RUNG_ORDER false []
  ⟨tiles, fun rung => tiles.countP fun t => t.supplyRung = rung⟩

end RankInput

end Redeemo.Discovery
