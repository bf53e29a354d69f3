import Redeemo.Discovery.BranchRanking
import Redeemo.Discovery.Query
import Redeemo.Lib.Fallible

/-! `searchBranches`: a list of branches stitched together from three.

    The ranked branches come first, as far as the scope lets them through; then the confirmed branches that the ranking
    has dropped, if the request has words or a category; then those whose position is not confirmed. -/

namespace Redeemo.Discovery
open Fallible
open OpenStatus (isOpenNow)
open SupplyRung

/-! ### Scope -/

def NEARBY_TIER_RUNGS : List SupplyRung := [NEARBY]
def CITY_TIER_RUNGS : List SupplyRung := [CATCHMENT, POST_TOWN]
def DISTANT_TIER_RUNGS : List SupplyRung := [LAD, COUNTY, REGION, COUNTRY, NATIONAL]

def tiersToRungs (tiers : List SupplyTier) : List SupplyRung :=
  (if .NEARBY ∈ tiers then NEARBY_TIER_RUNGS else []) ++ (if .CITY ∈ tiers then CITY_TIER_RUNGS else []) ++
    if .DISTANT ∈ tiers then DISTANT_TIER_RUNGS else []

def rungSupplyForTiers (tiers : List SupplyTier) (rungCounts : SupplyRung → ℕ) : ℕ :=
  (tiersToRungs tiers).foldl (fun sum r => sum + rungCounts r) 0

def initialTiers (requested : Option Scope) (intent : CategoryIntent) : List SupplyTier :=
  match requested with
  | some .platform => [.NEARBY, .CITY, .DISTANT]
  | some .nearby => [.NEARBY]
  | some .city => [.NEARBY, .CITY]
  | some .region => [.NEARBY, .CITY]
  | none => if intent = .DESTINATION then [.NEARBY, .CITY, .DISTANT] else [.NEARBY, .CITY]

/-- One turn of the cascade: the next tier, if those so far have no supply. -/
def expand (next : SupplyTier) (supply : List SupplyTier → ℕ) (tiers : List SupplyTier) : List SupplyTier :=
  if tiers.length < 3 ∧ supply tiers = 0 ∧ next ∉ tiers then tiers ++ [next] else tiers

/-- The tiers that the cascade ends with. It adds `CITY` and then `DISTANT`. -/
def retainedTiers (requested : Option Scope) (intent : CategoryIntent) (supply : List SupplyTier → ℕ) : List SupplyTier :=
  expand .DISTANT supply (expand .CITY supply (initialTiers requested intent))

def resolvedScope (tiers : List SupplyTier) : Scope :=
  if .DISTANT ∈ tiers then .platform else if .CITY ∈ tiers then .city else .nearby

structure BranchScopeResolution where
  retainedRungs : List SupplyRung
  scopeExpanded : Bool
  resolvedScope : Scope

def resolveScopeForBranches (requested : Option Scope) (intent : CategoryIntent) (rungCounts : SupplyRung → ℕ) :
    BranchScopeResolution :=
  let tiers := retainedTiers requested intent fun tiers => rungSupplyForTiers tiers rungCounts
  ⟨tiersToRungs tiers, decide (tiers ≠ initialTiers requested intent), resolvedScope tiers⟩

inductive EmptyStateReason
  | none | expanded_to_wider | no_uk_supply
  deriving DecidableEq, Repr

def buildEmptyStateReason (total : ℕ) (scopeExpanded : Bool) (totalSupply : ℕ) : EmptyStateReason :=
  if totalSupply = 0 then .no_uk_supply else if total = 0 then .no_uk_supply
  else if scopeExpanded then .expanded_to_wider else .none

def buildResolvedArea (scope : Scope) (profileCity : Option String) : String :=
  match scope with
  | .nearby => "Nearby"
  | .city => profileCity.getD "Your city"
  | .region => "Wider area"
  | .platform => "United Kingdom"

/-! ### Candidates -/

variable (env : Platform) (db : Database) (now : ℤ)

/-- A row of the candidate query, with its merchant. -/
structure Candidate where
  branch : Branch
  merchant : Merchant

def candidateRows (params : SearchParams) : List Candidate :=
  let look := lookups env db params.normalizedQ
  (db.branches.filterMap fun b => (merchantOf db b).map (Candidate.mk b)).filter fun c =>
    branchWhere env db now params look c.branch c.merchant

/-- Within the radius, by an exact position. -/
def withinMiles (params : SearchParams) (c : Candidate) : Bool :=
  match params.maxDistanceMiles, params.lat, params.lng with
  | some miles, some lat, some lng =>
    miles = 0 || (c.branch.exactMetresFrom env lat lng).any fun d => d ≤ miles * (160934 / 100)
  | _, _, _ => true

def isTopRated (atLeast : ℕ) (branchId : String) : Bool :=
  (ratingOf db branchId).any fun r => 4 ≤ r.avg.getD 0 ∧ atLeast ≤ r.count

/-- What is left of them after the filters that the database does not compute. -/
def candidateBranches (params : SearchParams) : List Candidate :=
  (candidateRows env db now params).filter fun c =>
    (!params.openNow || isOpenNow c.branch.openingHours now) && withinMiles env params c &&
      (!params.topRated || isTopRated db 5 c.branch.id)

/-! ### The three lists -/

def effectiveLocation (params : SearchParams) : Option EffectiveLocation :=
  resolveEffectiveLocation env db params.lat params.lng (lookups env db params.normalizedQ).placeMatch params.userId

def categoryIntent (params : SearchParams) : CategoryIntent :=
  (((truthy params.categoryId).bind (findCategory db)).map (resolveCategoryIntent db)).getD .MIXED

def rankInput (params : SearchParams) (effLoc : EffectiveLocation) : RankInput where
  effLoc := effLoc
  ladderProfile := resolveLadderProfileForCategory db (truthy params.categoryId) (truthy params.subcategoryId)
  outgoingCatchmentTargetIds := getOutgoingCatchmentTargetIds db effLoc.locality.id
  categoryIntent := categoryIntent db params
  targetCount := max params.limit 50
  hardCap := 500

def rankable (candidates : List Candidate) : List Candidate := candidates.filter fun c => c.branch.isBranchLocationConfirmed

def nonRankable (candidates : List Candidate) : List Candidate :=
  candidates.filter fun c => c.branch.locationConfidence = .POSTCODE_CENTROID ∨ c.branch.locationConfidence = .NEEDS_REVIEW

/-- The ratings are left out of the ranking. -/
def rankableInput (c : Candidate) : RankableBranch := ⟨c.branch, c.merchant.businessName, none, 0⟩

/-- Without an effective location nothing is ranked. -/
def ranked (params : SearchParams) (candidates : List Candidate) : RankBranchesResult :=
  match effectiveLocation env db params with
  | none => ⟨[], EMPTY_RUNG_COUNTS⟩
  | some effLoc => (rankInput db params effLoc).rankBranchesV3 env ((rankable candidates).map rankableInput)

def maxSaving (merchantId : String) : ℚ :=
  (db.vouchers.filter fun v => v.merchantId = merchantId ∧ v.status = .ACTIVE ∧ v.approvalStatus = .APPROVED ∧
    v.isTestData = false).foldl (fun best v => max best v.estimatedSaving) 0

def averageRating (branchId : String) : ℚ := ((ratingOf db branchId).bind Rating.avg).getD 0

def sortRanked (sortBy : SortBy) (tiles : List RankedBranchTile) : List RankedBranchTile :=
  match sortBy with
  | .relevance => tiles
  | .nearest => sort (fun a b => ((compareMetres a.distanceMetres b.distanceMetres).then
      (env.localeCompare a.businessName b.businessName)).then (env.localeCompare a.id b.id)) tiles
  | .top_rated =>
    sort (fun a b => compare (averageRating db b.id) (averageRating db a.id)) (tiles.filter fun t => isTopRated db 3 t.id) ++
      tiles.filter fun t => !isTopRated db 3 t.id
  | .highest_saving => sort (fun a b => compare (maxSaving db b.merchantId) (maxSaving db a.merchantId)) tiles

def fallbackDistanceFor (params : SearchParams) (c : Candidate) : Option ℚ :=
  (effectiveLocation env db params).bind fun effLoc => c.branch.exactMetresFrom env effLoc.lat effLoc.lng

def compareNames (a b : Candidate) : Ordering :=
  ((env.localeCompare a.merchant.businessName b.merchant.businessName).then
    (env.localeCompare a.branch.name b.branch.name)).then (env.localeCompare a.branch.id b.branch.id)

/-- Without an effective location every candidate is in the tail. -/
def tailSorted (params : SearchParams) (candidates : List Candidate) : List Candidate :=
  sort (compareNames env) <| if (effectiveLocation env db params).isSome then nonRankable candidates else candidates

/-- The confirmed branches that were not ranked. -/
def textMatchFallback (params : SearchParams) (candidates : List Candidate) : List Candidate :=
  if (effectiveLocation env db params).isSome ∧ (params.normalizedQ.isSome ∨ params.categoryId.isSome) then
    sort (fun a b => (compareMetres (fallbackDistanceFor env db params a) (fallbackDistanceFor env db params b)).then
        (compareNames env a b)) <|
      (rankable candidates).filter fun c => c.branch.id ∉ (ranked env db params candidates).tiles.map RankedBranchTile.id
  else []

/-! ### The response -/

structure SearchMeta where
  rungCounts : SupplyRung → ℕ
  effectiveLocality : Option (String × String)
  scope : Scope
  scopeExpanded : Bool
  nearbyCount : ℕ
  cityCount : ℕ
  distantCount : ℕ
  emptyStateReason : EmptyStateReason
  resolvedArea : String
  searchChip : Option (Bool × String)

structure SearchResponse where
  branches : List BranchTile
  totalBranches : ℕ
  branchMeta : SearchMeta

def rankedInput (t : RankedBranchTile) : EnrichBranchInput := ⟨t.id, some t.supplyRung, some t.proximityBand, t.distanceMetres⟩

def fallbackInput (params : SearchParams) (c : Candidate) : EnrichBranchInput :=
  ⟨c.branch.id, none, some .NEAREST_ON_REDEEMO, fallbackDistanceFor env db params c⟩

def tailInput (c : Candidate) : EnrichBranchInput := ⟨c.branch.id, none, none, none⟩

def scopeResolution (params : SearchParams) (candidates : List Candidate) : BranchScopeResolution :=
  resolveScopeForBranches params.scope (categoryIntent db params) (ranked env db params candidates).rungCounts

/-- The ranked tiles whose rung is kept. -/
def scopedTiles (params : SearchParams) (candidates : List Candidate) : List RankedBranchTile :=
  (sortRanked env db params.sortBy (ranked env db params candidates).tiles).filter fun t =>
    t.supplyRung ∈ (scopeResolution env db params candidates).retainedRungs

def showWiderSupply (params : SearchParams) (candidates : List Candidate) : Bool :=
  (scopeResolution env db params candidates).resolvedScope = .platform || (scopedTiles env db params candidates).isEmpty

def allInputs (params : SearchParams) (candidates : List Candidate) : List EnrichBranchInput :=
  (scopedTiles env db params candidates).map rankedInput ++
    if showWiderSupply env db params candidates then
      (textMatchFallback env db params candidates).map (fallbackInput env db params) ++
        (tailSorted env db params candidates).map tailInput
    else []

def enrichCtx (params : SearchParams) : EnrichBranchCtx where
  userId := params.userId
  matchContextQuery := if (lookups env db params.normalizedQ).placeMatch.isSome then none else params.normalizedQ
  matchContextIncludeDescription := params.normalizedQ.any includeDescription

def searchMeta (params : SearchParams) (candidates : List Candidate) : SearchMeta :=
  let rungCounts := (ranked env db params candidates).rungCounts
  let resolution := scopeResolution env db params candidates
  let nearbyCount := rungCounts NEARBY
  let cityCount := rungCounts CATCHMENT + rungCounts POST_TOWN
  let distantCount := rungCounts LAD + rungCounts COUNTY + rungCounts REGION + rungCounts COUNTRY +
    rungCounts NATIONAL + (textMatchFallback env db params candidates).length + (tailSorted env db params candidates).length
  { rungCounts := rungCounts
    effectiveLocality := (effectiveLocation env db params).map fun e => (e.locality.id, e.locality.name)
    scope := resolution.resolvedScope
    scopeExpanded := resolution.scopeExpanded
    nearbyCount := nearbyCount
    cityCount := cityCount
    distantCount := distantCount
    emptyStateReason := buildEmptyStateReason (allInputs env db params candidates).length resolution.scopeExpanded
      (nearbyCount + cityCount + distantCount)
    resolvedArea := buildResolvedArea resolution.resolvedScope (resolveProfileCity db params.userId)
    searchChip := ((lookups env db params.normalizedQ).placeMatch.map fun l => (true, l.name)).or
      ((lookups env db params.normalizedQ).tagMatch.map fun t => (false, t.label)) }

def searchBranches (params : SearchParams) : Except AppError SearchResponse := do
  rejectIf (¬ params.Bounded) .SEARCH_QUERY_REQUIRED
  let candidates := candidateBranches env db now params
  let inputs := allInputs env db params candidates
  return {
    branches := enrichBranchTiles env db now ((inputs.drop params.offset).take params.limit) (enrichCtx env db params)
    totalBranches := inputs.length
    branchMeta := searchMeta env db params candidates }

end Redeemo.Discovery
