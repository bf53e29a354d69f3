import Redeemo.Discovery.SearchPages

/-! A search with words or a category loses nothing.

    Its counts add up to the candidates, and on the scope of the platform its pages show each of them once, whatever
    their size. A bounding box or a subcategory alone keeps to what the ranking admits. The size of a page sets the
    target at which the ranking stops; up to fifty tiles it makes no difference. -/

namespace Redeemo.Discovery
open Listing RankInput SupplyRung

section
variable {env : Platform} {db : Database} {now : ℤ} {params : SearchParams} {branches : List RankableBranch}
  {candidates : List Candidate}

/-! ### The first rung -/

theorem ladder_eq (input : RankInput) : input.ladder = NEARBY :: input.ladder.tail := by
  rw [ladder]
  cases input.maxRung <;> rfl

theorem mem_groups {input : RankInput} {collected : List Collected} {rungs : List SupplyRung} {c : Collected}
    (h : c ∈ (input.groups env collected rungs).flatten) : c.rung ∈ rungs := by
  rw [groups, ← List.flatMap_def] at h
  obtain ⟨r, hr, hc⟩ := List.mem_flatMap.mp h
  rw [of_decide_eq_true (List.mem_filter.mp ((sortWithinRung_perm _).subset hc)).2]
  exact hr

/-- The rung nearby is listed up to the cap, whatever the target. -/
theorem rungCounts_nearby (input : RankInput) (branches : List RankableBranch) :
    (input.rankBranchesV3 env branches).rungCounts NEARBY = min input.hardCap (input.countAt env branches NEARBY) := by
  have hd : input.ladder.Nodup := nodup_ladder
  rw [ladder_eq, List.nodup_cons] at hd
  have hall : ∀ c ∈ (input.sortWithinRung env NEARBY ((input.collect env branches).filter fun c => c.rung = NEARBY)).take
      (input.hardCap - 0), ((fun t => decide (t.supplyRung = NEARBY)) ∘ input.tileOf) c = true := fun c hc =>
    (List.mem_filter.mp ((sortWithinRung_perm _).subset (List.mem_of_mem_take hc))).2
  have hlen := length_sortWithinRung env input branches NEARBY
  rw [rankBranchesV3_counted, rankBranchesV3_tiles, picked, ladder_eq, groups, List.map_cons, cut_cons, List.countP_map,
    List.countP_append, List.countP_eq_length.mpr hall, List.length_take, hlen, Nat.sub_zero, Nat.zero_add]
  -- What follows stands at other rungs.
  split_ifs with hstop
  · rfl
  · rw [List.countP_eq_zero.mpr fun c hc hnearby => ?_, Nat.add_zero]
    have hmem := mem_groups ((cut_isPrefix _ _ (by omega)).subset hc)
    have hrung : c.rung = NEARBY := of_decide_eq_true hnearby
    rw [hrung] at hmem
    exact hd.1 hmem

theorem ranked_nearby (k k' : ℕ) : (ranked env db (params.page k 0) candidates).rungCounts NEARBY =
    (ranked env db (params.page k' 0) candidates).rungCounts NEARBY := by
  rw [ranked, ranked]
  have hsame : effectiveLocation env db (params.page k' 0) = effectiveLocation env db (params.page k 0) := rfl
  rw [hsame]
  split
  · rfl
  · rw [rungCounts_nearby, rungCounts_nearby]
    rfl

/-- Up to fifty tiles, the size of a page does not reach the ranking. -/
theorem rankInput_page {k : ℕ} (h : k ≤ 50) (effLoc : EffectiveLocation) :
    rankInput db (params.page k 0) effLoc = rankInput db (params.page 1 0) effLoc := by
  have hk : max (params.page k 0).limit 50 = 50 := max_eq_right h
  rw [rankInput, hk]
  rfl

theorem ranked_page {k : ℕ} (h : k ≤ 50) :
    ranked env db (params.page k 0) candidates = ranked env db (params.page 1 0) candidates := by
  rw [ranked, ranked]
  have hsame : effectiveLocation env db (params.page k 0) = effectiveLocation env db (params.page 1 0) := rfl
  rw [hsame]
  split
  · rfl
  · rw [rankInput_page h]

theorem allInputs_page {k : ℕ} (h : k ≤ 50) :
    allInputs env db (params.page k 0) candidates = allInputs env db (params.page 1 0) candidates := by
  simp only [allInputs, showWiderSupply, scopedTiles, scopeResolution, textMatchFallback, ranked_page h]
  rfl

theorem searchMeta_page {k : ℕ} (h : k ≤ 50) :
    searchMeta env db (params.page k 0) candidates = searchMeta env db (params.page 1 0) candidates := by
  simp only [searchMeta, scopeResolution, textMatchFallback, allInputs_page h, ranked_page h]
  rfl

theorem found_page {k : ℕ} (h : k ≤ 50) :
    found env db (params.page k 0) candidates = found env db (params.page 1 0) candidates := by
  simp only [found, rankedIds, ranked_page h]
  rfl

/-! ### The searches -/

variable (env db now params) in
/-- The candidates that a search with pages of `k` tiles finds. -/
def foundAt (k : ℕ) : List Candidate := found env db (params.page k 0) (candidateBranches env db now params)

variable (env db now params) in
/-- What a search shows and counts, over all sizes of a page. -/
structure Complete : Prop where
  counted : ∀ k i, 1 ≤ k → ∃ r, searchBranches env db now (params.page k i) = .ok r ∧
    r.branchMeta.nearbyCount + r.branchMeta.cityCount + r.branchMeta.distantCount = (foundAt env db now params k).length ∧
    (params.scope = some .platform → r.totalBranches = (foundAt env db now params k).length)
  listed : params.scope = some .platform → ∀ k n, 1 ≤ k → (foundAt env db now params k).length ≤ n * k →
    ((pagesOf env db now params k n).map BranchTile.id).Perm (ids (foundAt env db now params k))
  all : Rescues env db params → ∀ k, foundAt env db now params k = candidateBranches env db now params
  nearby : ∀ k k' r r', searchBranches env db now (params.page k 0) = .ok r →
    searchBranches env db now (params.page k' 0) = .ok r' → r.branchMeta.nearbyCount = r'.branchMeta.nearbyCount
  uniform : ∀ k k', k ≤ 50 → k' ≤ 50 → foundAt env db now params k = foundAt env db now params k' ∧
    ∀ r r', searchBranches env db now (params.page k 0) = .ok r → searchBranches env db now (params.page k' 0) = .ok r' →
      r.branchMeta = r'.branchMeta ∧ r.totalBranches = r'.totalBranches

theorem foundAt_of_rescues (h : Rescues env db params) (k : ℕ) :
    foundAt env db now params k = candidateBranches env db now params := by
  have hpage : Rescues env db (params.page k 0) := h
  rw [foundAt, found, if_pos hpage]

theorem listedIds_foundAt (hk : db.Keyed) (k : ℕ) :
    (listedIds env db (params.page k 0) (candidateBranches env db now params)).Perm (ids (foundAt env db now params k)) :=
  listedIds_perm (nodup_candidateBranches hk)

theorem length_listedIds (hk : db.Keyed) (k : ℕ) :
    (listedIds env db (params.page k 0) (candidateBranches env db now params)).length =
      (foundAt env db now params k).length := by
  rw [(listedIds_foundAt hk k).length_eq, ids, List.length_map]

/-- The inputs on the scope of the platform are as many as what is found. -/
theorem branchIds_platform (hk : db.Keyed) (hs : params.scope = some .platform) (k : ℕ) :
    ((allInputs env db (params.page k 0) (candidateBranches env db now params)).map EnrichBranchInput.branchId).Perm
      (ids (foundAt env db now params k)) := by
  have hpage : (params.page k 0).scope = some .platform := hs
  exact (allInputs_platform hpage).trans (listedIds_foundAt hk k)

theorem length_allInputs (hk : db.Keyed) (hs : params.scope = some .platform) (k : ℕ) :
    (allInputs env db (params.page k 0) (candidateBranches env db now params)).length =
      (foundAt env db now params k).length := by
  have hperm : ((allInputs env db (params.page k 0) (candidateBranches env db now params)).map
      EnrichBranchInput.branchId).Perm (ids (foundAt env db now params k)) := branchIds_platform hk hs k
  have hlen := hperm.length_eq
  rwa [List.length_map, ids, List.length_map] at hlen

theorem pagesOf_perm (hk : db.Keyed) (hb : params.Bounded) (hs : params.scope = some .platform) {k n : ℕ}
    (h : (foundAt env db now params k).length ≤ n * k) :
    ((pagesOf env db now params k n).map BranchTile.id).Perm (ids (foundAt env db now params k)) := by
  have hkeys : ((pagesOf env db now params k n).map BranchTile.key).map Prod.fst = _ :=
    congrArg (List.map Prod.fst) (pagesOf_keys hk hb k n)
  rw [pages_eq k n ((length_allInputs hk hs k).trans_le h), List.map_map, List.map_map] at hkeys
  refine .trans (.of_eq hkeys) (branchIds_platform hk hs k)

end

/-! ### A branch at sea -/

/-- Distances as they are along a meridian, and the texts as they stand. -/
def meridian : Platform where
  haversineMetres lat lng lat' lng' := max (lat - lat') (lat' - lat) * 111195 + max (lng - lng') (lng' - lng) * 111195
  localeCompare := compare
  toLowerCase s := s
  contains := includes
  startsWith s t := t.toList <+: s.toList
  equals s t := s = t

def huddersfield : Locality where
  id := "huddersfield"
  name := "Huddersfield"
  postTown := some "Huddersfield"
  ladDistrict := "Kirklees"
  adminCounty := none
  region := some "Yorkshire and The Humber"
  country := "England"
  centerLat := 536 / 10
  centerLng := -178 / 100
  populationTier := .CITY

def chippy : Merchant where
  id := "chippy"
  status := .ACTIVE
  isTestData := false
  businessName := "Chippy"
  tradingName := none
  description := none
  websiteUrl := none
  logoUrl := none
  bannerUrl := none
  primaryCategoryId := none
  primaryDescriptorTagId := none
  categoryIds := []
  tagIds := []
  highlights := []
  suggestedTags := []
  featuredListings := []

/-- A confirmed branch of the chippy that the gazetteer knows nothing about. -/
def branchAt (id : String) (latitude : ℚ) : Branch where
  id := id
  merchantId := "chippy"
  name := "Chippy"
  isMainBranch := false
  isActive := true
  isTestData := false
  deletedAt := none
  lifecycleStatus := .LIVE
  createdAt := 0
  city := "Huddersfield"
  latitude := some latitude
  longitude := some (-178 / 100)
  locationConfidence := .MANUALLY_CONFIRMED
  localityId := none
  localityName := none
  postTown := none
  ladDistrict := none
  adminCounty := none
  region := none
  locationCountry := none
  details := ⟨"1 Pier", none, "HD1 1AA", "GB", none, none, none, none, none, none⟩
  openingHours := []
  amenityIds := []
  photos := []

/-- The chippy has one branch in town, and one a degree further north. -/
def atSea : Database where
  merchants := [chippy]
  branches := [branchAt "town" (536 / 10), branchAt "sea" (546 / 10)]
  vouchers := []
  reviews := []
  redemptions := []
  users := []
  localities := [huddersfield]
  catchmentEdges := []
  categories := []
  tags := []
  redundantHighlights := []
  favouriteBranches := []
  favouriteMerchants := []

theorem keyed_atSea : atSea.Keyed := ⟨by decide⟩

/-- From Huddersfield, what lies in a box around both. -/
def aroundBoth : SearchParams where
  q := none
  categoryId := none
  subcategoryId := none
  lat := some (536 / 10)
  lng := some (-178 / 100)
  minLat := some 53
  maxLat := some 55
  minLng := some (-2)
  maxLng := some 0
  maxDistanceMiles := none
  minSaving := none
  voucherTypes := []
  amenityIds := []
  tagIds := []
  scope := some .platform
  openNow := false
  featured := false
  topRated := false
  sortBy := .relevance
  limit := 20
  offset := 0
  userId := none

end Redeemo.Discovery
