import Redeemo.Discovery.BranchSearch
import Redeemo.Lib.Rows

/-! The pages of a search.

    Every candidate becomes a tile of its own. The three lists share none of them, and together they hold all of them as
    long as the request has words or a category: a bounding box or a subcategory alone leaves out the confirmed branches
    that the ranking drops. -/

namespace Redeemo.Discovery
open Listing RankInput Rows SupplyRung

/-- The primary keys. -/
structure Database.Keyed (db : Database) : Prop where
  branches : Rows.Keyed Branch.id db.branches

/-- The request with which the page `i` of `k` tiles is fetched. -/
def SearchParams.page (params : SearchParams) (k i : ℕ) : SearchParams := { params with limit := k, offset := i * k }

section
variable {env : Platform} {db : Database} {now : ℤ} {params : SearchParams} {candidates : List Candidate} {c : Candidate}

/-! ### Candidates -/

theorem mem_candidateBranches (h : c ∈ candidateBranches env db now params) : c.branch ∈ db.branches ∧
    merchantOf db c.branch = some c.merchant ∧ Listed c.branch c.merchant := by
  rw [candidateBranches, candidateRows] at h
  obtain ⟨hrow, hwhere⟩ := List.mem_filter.mp (List.mem_of_mem_filter h)
  obtain ⟨b, hb, hm⟩ := List.mem_filterMap.mp hrow
  obtain ⟨m, hmerchant, rfl⟩ := Option.map_eq_some_iff.mp hm
  simp only [branchWhere, Bool.and_eq_true, decide_eq_true_eq] at hwhere
  exact ⟨hb, hmerchant, hwhere.1.1.1.1⟩

theorem nodup_candidateBranches (hk : db.Keyed) :
    ((candidateBranches env db now params).map fun c => c.branch.id).Nodup := by
  have hrows : ((db.branches.filterMap fun b => (merchantOf db b).map (Candidate.mk b)).map fun c => c.branch).Sublist
      db.branches := by
    rw [List.map_filterMap]
    induction db.branches with
    | nil => exact .slnil
    | cons b branches ih =>
      cases hm : merchantOf db b with
      | none => simpa [hm] using ih.cons _
      | some m => simpa [hm] using ih
  have hall : ((candidateBranches env db now params).map fun c => c.branch).Sublist db.branches :=
    ((List.filter_sublist.trans List.filter_sublist).map _).trans hrows
  have hids := hall.map Branch.id
  rw [List.map_map] at hids
  exact List.Nodup.sublist hids hk.branches

/-- The enrichment finds again what is listed. -/
theorem enrichable_listed (hk : db.Keyed) (hb : c.branch ∈ db.branches) (hm : merchantOf db c.branch = some c.merchant)
    (hlisted : Listed c.branch c.merchant) : enrichable db c.branch.id = some (c.branch, c.merchant) := by
  obtain ⟨-, htest, hpending, -, hmtest⟩ := hlisted
  have hfind : db.branches.find? (fun b => b.id = c.branch.id ∧ b.isTestData = false ∧
      b.lifecycleStatus ≠ .PENDING_CREATE) = some c.branch :=
    (Keyed.find_iff hk.branches fun b hb => hb.1).mpr ⟨hb, rfl, htest, hpending⟩
  rw [enrichable, hfind]
  simp [hm, hmtest]

theorem enrichable_candidate (hk : db.Keyed) (h : c ∈ candidateBranches env db now params) :
    enrichable db c.branch.id = some (c.branch, c.merchant) := by
  obtain ⟨hb, hm, hlisted⟩ := mem_candidateBranches h
  exact enrichable_listed hk hb hm hlisted

/-- What identifies a tile, and the rung it shows. -/
def BranchTile.key (t : BranchTile) : String × Option SupplyRung := (t.id, t.supplyRung)

def EnrichBranchInput.key (i : EnrichBranchInput) : String × Option SupplyRung := (i.branchId, i.supplyRung)

/-- Every input that the enrichment finds again becomes a tile. -/
theorem enrichBranchTiles_found {inputs : List EnrichBranchInput} {ctx : EnrichBranchCtx}
    (h : ∀ i ∈ inputs, ∃ c : Candidate, c.branch.id = i.branchId ∧
      enrichable db c.branch.id = some (c.branch, c.merchant)) :
    (enrichBranchTiles env db now inputs ctx).map BranchTile.key = inputs.map EnrichBranchInput.key := by
  rw [enrichBranchTiles, List.map_filterMap]
  induction inputs with
  | nil => rfl
  | cons i inputs ih =>
    obtain ⟨c, hid, hfound⟩ := h i List.mem_cons_self
    rw [hid] at hfound
    rw [List.filterMap_cons, hfound, List.map_cons, ih fun j hj => h j (List.mem_cons_of_mem _ hj)]
    simp [enrichBranchTile, BranchTile.key, EnrichBranchInput.key, hid]

variable (params) in
theorem enrichBranchTiles_keys (hk : db.Keyed) {inputs : List EnrichBranchInput} {ctx : EnrichBranchCtx}
    (h : ∀ i ∈ inputs, ∃ c ∈ candidateBranches env db now params, c.branch.id = i.branchId) :
    (enrichBranchTiles env db now inputs ctx).map BranchTile.key = inputs.map EnrichBranchInput.key := by
  refine enrichBranchTiles_found fun i hi => ?_
  obtain ⟨c, hc, hid⟩ := h i hi
  exact ⟨c, hid, enrichable_candidate hk hc⟩

/-! ### The three lists -/

theorem sortRanked_perm (sortBy : SortBy) (tiles : List RankedBranchTile) :
    (sortRanked env db sortBy tiles).Perm tiles := by
  cases sortBy with
  | relevance => exact .refl _
  | nearest => exact sort_perm
  | highest_saving => exact sort_perm
  | top_rated => exact (sort_perm.append_right _).trans (List.filter_append_perm _ _)

def rankedIds (env : Platform) (db : Database) (params : SearchParams) (candidates : List Candidate) : List String :=
  (ranked env db params candidates).tiles.map RankedBranchTile.id

def ids (candidates : List Candidate) : List String := candidates.map fun c => c.branch.id

theorem mem_ids {id : String} : id ∈ ids candidates ↔ ∃ c ∈ candidates, c.branch.id = id := List.mem_map

theorem ids_rankableInput : (candidates.map rankableInput).map (fun b => b.branch.id) = ids candidates := by
  rw [List.map_map]
  rfl

theorem ids_filter_sublist (p : Candidate → Bool) : (ids (candidates.filter p)).Sublist (ids candidates) :=
  List.filter_sublist.map _

theorem rankedIds_eq (params : SearchParams) (candidates : List Candidate) {effLoc : EffectiveLocation}
    (h : effectiveLocation env db params = some effLoc) : rankedIds env db params candidates =
      ((rankInput db params effLoc).picked env ((rankable candidates).map rankableInput)).map
        fun c => c.branch.branch.id := by
  rw [rankedIds, ranked, h]
  dsimp only
  rw [rankBranchesV3_tiles, List.map_map]
  rfl

theorem rankedIds_none (h : effectiveLocation env db params = none) : rankedIds env db params candidates = [] := by
  rw [rankedIds, ranked, h]
  rfl

theorem nodup_rankedIds (hd : (ids candidates).Nodup) : (rankedIds env db params candidates).Nodup := by
  cases h : effectiveLocation env db params with
  | none => simp [rankedIds_none h]
  | some effLoc =>
    rw [rankedIds_eq params candidates h]
    exact nodup_picked (ids_rankableInput ▸ hd.sublist (ids_filter_sublist _))

theorem rankedIds_subset : rankedIds env db params candidates ⊆ ids (rankable candidates) := by
  cases h : effectiveLocation env db params with
  | none => simp [rankedIds_none h]
  | some effLoc =>
    rw [rankedIds_eq params candidates h]
    intro id hid
    obtain ⟨c, hc, rfl⟩ := List.mem_map.mp hid
    obtain ⟨b, hb, -, hcb⟩ := mem_collect.mp (mem_collect_of_mem_picked hc)
    obtain ⟨candidate, hcandidate, rfl⟩ := List.mem_map.mp hb
    exact mem_ids.mpr ⟨candidate, hcandidate, by rw [hcb]; rfl⟩

/-- The ranked branches are those of the confirmed ones that the ranking lists. -/
theorem rankedIds_perm (hd : (ids candidates).Nodup) : (rankedIds env db params candidates).Perm
    (ids ((rankable candidates).filter fun c => c.branch.id ∈ rankedIds env db params candidates)) := by
  refine (List.perm_ext_iff_of_nodup (nodup_rankedIds hd)
    (hd.sublist ((ids_filter_sublist _).trans (ids_filter_sublist _)))).mpr fun id => ⟨fun hid => ?_, fun hid => ?_⟩
  · obtain ⟨c, hc, rfl⟩ := mem_ids.mp (rankedIds_subset hid)
    exact mem_ids.mpr ⟨c, List.mem_filter.mpr ⟨hc, decide_eq_true hid⟩, rfl⟩
  · obtain ⟨c, hc, rfl⟩ := mem_ids.mp hid
    exact of_decide_eq_true (List.mem_filter.mp hc).2

/-- A position is confirmed, or else it is a centroid or under review. -/
theorem rankable_append_perm (candidates : List Candidate) :
    (rankable candidates ++ nonRankable candidates).Perm candidates := by
  refine .trans (.of_eq ?_) (List.filter_append_perm (fun c => c.branch.isBranchLocationConfirmed) candidates)
  rw [rankable, nonRankable]
  congr 1
  refine List.filter_congr fun c _ => ?_
  rw [Branch.isBranchLocationConfirmed]
  cases c.branch.locationConfidence <;> decide

/-- The confirmed branches that the ranking drops are listed after all, or nothing is ranked. -/
def Rescues (env : Platform) (db : Database) (params : SearchParams) : Prop :=
  effectiveLocation env db params = none ∨ params.normalizedQ.isSome ∨ params.categoryId.isSome

instance decidableRescues (env : Platform) (db : Database) (params : SearchParams) : Decidable (Rescues env db params) :=
  @instDecidableOr _ _ (decidable_of_iff _ Option.isNone_iff_eq_none)
    (inferInstanceAs (Decidable (params.normalizedQ.isSome ∨ params.categoryId.isSome)))

/-- The candidates that the search finds: all of them, or those that are ranked and those not confirmed. -/
def found (env : Platform) (db : Database) (params : SearchParams) (candidates : List Candidate) : List Candidate :=
  if Rescues env db params then candidates
  else candidates.filter fun c =>
    !c.branch.isBranchLocationConfirmed || decide (c.branch.id ∈ rankedIds env db params candidates)

/-- The ids of the three lists, one after another. -/
def listedIds (env : Platform) (db : Database) (params : SearchParams) (candidates : List Candidate) : List String :=
  rankedIds env db params candidates ++ ids (textMatchFallback env db params candidates) ++
    ids (tailSorted env db params candidates)

theorem ids_perm {l l' : List Candidate} (h : l.Perm l') : (ids l).Perm (ids l') := h.map _

theorem ids_append (l l' : List Candidate) : ids (l ++ l') = ids l ++ ids l' := List.map_append

/-- Without an effective location the tail holds all. -/
theorem listedIds_perm_of_none (h : effectiveLocation env db params = none) :
    (listedIds env db params candidates).Perm (ids candidates) := by
  rw [listedIds, rankedIds_none h, textMatchFallback, tailSorted, h]
  simpa [ids] using ids_perm sort_perm

/-- The confirmed candidates that are not ranked. -/
def dropped (env : Platform) (db : Database) (params : SearchParams) (candidates : List Candidate) : List Candidate :=
  (rankable candidates).filter fun c => !decide (c.branch.id ∈ rankedIds env db params candidates)

theorem textMatchFallback_perm (h : (effectiveLocation env db params).isSome)
    (hwords : params.normalizedQ.isSome ∨ params.categoryId.isSome) :
    (textMatchFallback env db params candidates).Perm (dropped env db params candidates) := by
  rw [textMatchFallback, if_pos ⟨h, hwords⟩]
  refine sort_perm.trans (.of_eq (List.filter_congr fun c _ => ?_))
  rw [rankedIds, ← decide_not]

/-- With words or a category, those dropped come after those ranked. -/
theorem listedIds_perm_of_words (hd : (ids candidates).Nodup) (h : (effectiveLocation env db params).isSome)
    (hwords : params.normalizedQ.isSome ∨ params.categoryId.isSome) :
    (listedIds env db params candidates).Perm (ids candidates) := by
  have hconfirmed : (rankedIds env db params candidates ++ ids (textMatchFallback env db params candidates)).Perm
      (ids (rankable candidates)) := by
    refine ((rankedIds_perm hd).append (ids_perm (textMatchFallback_perm h hwords))).trans ?_
    rw [dropped, ← ids_append]
    exact ids_perm (List.filter_append_perm _ _)
  rw [listedIds, tailSorted, if_pos h]
  refine (hconfirmed.append (ids_perm sort_perm)).trans ?_
  rw [← ids_append]
  exact ids_perm (rankable_append_perm candidates)

/-- Without either, they are gone. -/
theorem listedIds_perm_of_browse (hd : (ids candidates).Nodup) (h : (effectiveLocation env db params).isSome)
    (hwords : ¬ (params.normalizedQ.isSome ∨ params.categoryId.isSome)) :
    (listedIds env db params candidates).Perm (ids (candidates.filter fun c =>
      !c.branch.isBranchLocationConfirmed || decide (c.branch.id ∈ rankedIds env db params candidates))) := by
  rw [listedIds, textMatchFallback, if_neg fun hc => hwords hc.2, tailSorted, if_pos h]
  refine .trans ?_ (ids_perm ((rankable_append_perm candidates).filter _))
  rw [List.filter_append, ids_append]
  refine .append ?_ (ids_perm ?_)
  · rw [ids, List.map_nil, List.append_nil]
    refine (rankedIds_perm hd).trans (.of_eq (congrArg ids (List.filter_congr fun c hc => ?_)))
    simp [(List.mem_filter.mp hc).2]
  · refine sort_perm.trans (.of_eq (List.filter_eq_self.mpr fun c hc => ?_).symm)
    have hunconfirmed := (List.mem_filter.mp hc).2
    rw [Branch.isBranchLocationConfirmed]
    rcases of_decide_eq_true hunconfirmed with h | h <;> rw [h] <;> rfl

theorem listedIds_perm (hd : (ids candidates).Nodup) :
    (listedIds env db params candidates).Perm (ids (found env db params candidates)) := by
  rw [found]
  cases h : effectiveLocation env db params with
  | none =>
    rw [if_pos (.inl h)]
    exact listedIds_perm_of_none h
  | some effLoc =>
    have hsome : (effectiveLocation env db params).isSome := by rw [h]; rfl
    split_ifs with hrescues
    · exact listedIds_perm_of_words hd hsome (hrescues.resolve_left (by rw [h]; exact nofun))
    · exact listedIds_perm_of_browse hd hsome fun hwords => hrescues (.inr hwords)

/-! ### Counts -/

theorem ranked_counted : (ranked env db params candidates).Counted := by
  rw [ranked]
  split
  · exact fun _ => rfl
  · exact rankBranchesV3_counted _

/-- Every tile is counted under one of the eight rungs. -/
theorem sum_rungCounts {w : RankBranchesResult} (h : w.Counted) : w.rungCounts NEARBY +
    (w.rungCounts CATCHMENT + w.rungCounts POST_TOWN) + (w.rungCounts LAD + w.rungCounts COUNTY + w.rungCounts REGION +
      w.rungCounts COUNTRY + w.rungCounts NATIONAL) = w.tiles.length := by
  simp only [h _]
  induction w.tiles with
  | nil => rfl
  | cons t tiles ih =>
    simp only [List.countP_cons, List.length_cons]
    cases t.supplyRung <;> simp <;> omega

theorem searchMeta_counts (params : SearchParams) (candidates : List Candidate) :
    (searchMeta env db params candidates).nearbyCount + (searchMeta env db params candidates).cityCount +
      (searchMeta env db params candidates).distantCount = (listedIds env db params candidates).length := by
  have hcounted : (ranked env db params candidates).Counted := ranked_counted
  have hsum := sum_rungCounts hcounted
  simp only [searchMeta, listedIds, rankedIds, ids, List.length_append, List.length_map]
  omega

/-! ### Pages -/

theorem mem_branchIds_allInputs {i : EnrichBranchInput} (h : i ∈ allInputs env db params candidates) :
    i.branchId ∈ listedIds env db params candidates := by
  rw [allInputs] at h
  rw [listedIds]
  rcases List.mem_append.mp h with hranked | hwider
  · obtain ⟨t, ht, rfl⟩ := List.mem_map.mp hranked
    have ht : t ∈ (ranked env db params candidates).tiles := (sortRanked_perm _ _).subset (List.mem_of_mem_filter ht)
    exact List.mem_append_left _ (List.mem_append_left _ (List.mem_map_of_mem ht))
  · split_ifs at hwider with hshow
    · rcases List.mem_append.mp hwider with hfallback | htail
      · obtain ⟨c, hc, rfl⟩ := List.mem_map.mp hfallback
        exact List.mem_append_left _ (List.mem_append_right _ (mem_ids.mpr ⟨c, hc, rfl⟩))
      · obtain ⟨c, hc, rfl⟩ := List.mem_map.mp htail
        exact List.mem_append_right _ (mem_ids.mpr ⟨c, hc, rfl⟩)
    · cases hwider

/-- What the lists hold are candidates. -/
theorem candidate_of_mem_allInputs (hd : (ids candidates).Nodup) {i : EnrichBranchInput}
    (h : i ∈ allInputs env db params candidates) : ∃ c ∈ candidates, c.branch.id = i.branchId := by
  obtain ⟨c, hc, hid⟩ := mem_ids.mp ((listedIds_perm hd).subset (mem_branchIds_allInputs h))
  refine ⟨c, ?_, hid⟩
  rw [found] at hc
  split_ifs at hc
  · exact hc
  · exact List.mem_of_mem_filter hc

/-- The tiles of any part of the lists are of candidates. -/
theorem candidate_of_mem_tiles (hk : db.Keyed) {inputs : List EnrichBranchInput} {ctx : EnrichBranchCtx}
    (hsub : inputs ⊆ allInputs env db params (candidateBranches env db now params)) {t : BranchTile}
    (h : t ∈ enrichBranchTiles env db now inputs ctx) : ∃ c ∈ candidateBranches env db now params, c.branch.id = t.id := by
  have hcandidates : ∀ i ∈ inputs, ∃ c ∈ candidateBranches env db now params, c.branch.id = i.branchId :=
    fun i hi => candidate_of_mem_allInputs (nodup_candidateBranches hk) (hsub hi)
  have ht : t.key ∈ (enrichBranchTiles env db now inputs ctx).map BranchTile.key := List.mem_map_of_mem h
  rw [enrichBranchTiles_keys params hk hcandidates] at ht
  obtain ⟨i, hi, hkey⟩ := List.mem_map.mp ht
  obtain ⟨c, hc, hid⟩ := hcandidates i hi
  exact ⟨c, hc, hid.trans (congrArg Prod.fst hkey)⟩

theorem tiersToRungs_all (r : SupplyRung) : r ∈ tiersToRungs [.NEARBY, .CITY, .DISTANT] := by
  cases r <;> decide

theorem retainedTiers_platform (intent : CategoryIntent) (supply : List SupplyTier → ℕ) :
    retainedTiers (some .platform) intent supply = [.NEARBY, .CITY, .DISTANT] := rfl

/-- On the scope of the platform the three lists are shown in full. -/
theorem allInputs_platform (h : params.scope = some .platform) :
    ((allInputs env db params candidates).map EnrichBranchInput.branchId).Perm (listedIds env db params candidates) := by
  have hresolution : scopeResolution env db params candidates =
      ⟨tiersToRungs [.NEARBY, .CITY, .DISTANT], false, .platform⟩ := by
    rw [scopeResolution, h, resolveScopeForBranches, retainedTiers_platform]
    rfl
  have hscoped : scopedTiles env db params candidates =
      sortRanked env db params.sortBy (ranked env db params candidates).tiles := by
    rw [scopedTiles, hresolution]
    exact List.filter_eq_self.mpr fun t _ => decide_eq_true (tiersToRungs_all t.supplyRung)
  have hshow : showWiderSupply env db params candidates = true := by
    rw [showWiderSupply, hresolution]
    rfl
  rw [allInputs, if_pos hshow, hscoped, listedIds, List.append_assoc, List.map_append, List.map_append]
  simp only [List.map_map]
  exact ((sortRanked_perm _ _).map _).append_right _

def pageOf (env : Platform) (db : Database) (now : ℤ) (params : SearchParams) (k i : ℕ) : List BranchTile :=
  match searchBranches env db now (params.page k i) with
  | .ok r => r.branches
  | .error _ => []

/-- The first `n` pages, one after another. -/
def pagesOf (env : Platform) (db : Database) (now : ℤ) (params : SearchParams) (k n : ℕ) : List BranchTile :=
  (List.range n).flatMap (pageOf env db now params k)

theorem searchBranches_page (hb : params.Bounded) (k i : ℕ) : searchBranches env db now (params.page k i) = .ok {
    branches := enrichBranchTiles env db now (slice (i * k) k
      (allInputs env db (params.page k 0) (candidateBranches env db now params))) (enrichCtx env db params)
    totalBranches := (allInputs env db (params.page k 0) (candidateBranches env db now params)).length
    branchMeta := searchMeta env db (params.page k 0) (candidateBranches env db now params) } := by
  have hpage : ¬ ¬ (params.page k i).Bounded := not_not.mpr hb
  rw [searchBranches, Fallible.rejectIf, if_neg hpage]
  rfl

theorem pagesOf_keys (hk : db.Keyed) (hb : params.Bounded) (k n : ℕ) :
    (pagesOf env db now params k n).map BranchTile.key = (pages k n
      (allInputs env db (params.page k 0) (candidateBranches env db now params))).map EnrichBranchInput.key := by
  rw [pagesOf, pages, List.map_flatMap, List.map_flatMap]
  refine List.flatMap_congr fun i _ => ?_
  rw [pageOf, searchBranches_page hb]
  refine enrichBranchTiles_keys params hk fun input hinput => ?_
  exact candidate_of_mem_allInputs (nodup_candidateBranches hk) (List.mem_of_mem_drop (List.mem_of_mem_take hinput))

end

end Redeemo.Discovery
