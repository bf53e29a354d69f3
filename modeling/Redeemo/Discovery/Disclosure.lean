import Redeemo.Discovery.LosesNothing
import Redeemo.Discovery.Positions
import Redeemo.Lib.Sorting

/-! Which searches tell something about a position that is not confirmed.

    Only the older ranking of merchants measures distances without asking whether the position is exact. It tells two
    states apart exactly if it puts a merchant into another tier, or two nearby ones into another order where the sort
    that was asked for leaves it to them. -/

namespace Redeemo.Discovery
open Fallible Listing Sorting
open scoped List

instance transCmp_compareMetres : Std.TransCmp compareMetres where
  eq_swap {a b} := by
    rcases a with _ | a
    · cases b <;> rfl
    · rcases b with _ | b
      · rfl
      · exact Std.OrientedOrd.eq_swap (α := ℚ)
  isLE_trans {a b c} hab hbc := by
    rcases a with _ | a
    · cases b with
      | none => exact hbc
      | some b => cases hab
    · rcases c with _ | c
      · rfl
      · cases b with
        | none => cases hbc
        | some b => exact Std.TransOrd.isLE_trans (α := ℚ) hab hbc

/-! ### The ranking as an order of merchants -/

section
variable (env : Platform) (ctx : RankMerchantsContext) (db : Database) (sortBy : SortBy)

def rankedOf (m : Merchant) : RankedMerchant := ctx.tag env (merchantRow db m)

def tierOf (m : Merchant) : SupplyTier := ctx.classifyTier env (tileBranches db m)

/-- By the positions as they are stored. -/
def compareNearest (m n : Merchant) : Ordering :=
  compareMetres (ctx.nearestDistanceMetres env (tileBranches db m)) (ctx.nearestDistanceMetres env (tileBranches db n))

def nearbyOf (ms : List Merchant) : List Merchant :=
  sort (compareNearest env ctx db) (ms.filter fun m => tierOf env ctx db m = .NEARBY)

/-- The merchants of the other tiers. No distance is compared among them. -/
def restOf (tier : Merchant → SupplyTier) (ms : List Merchant) : List Merchant :=
  let byName := sort fun m n : Merchant => env.localeCompare m.businessName n.businessName
  let byQuality := sort fun m n : Merchant => qualityComparator env (merchantRow db m) (merchantRow db n)
  let city := ms.filter fun m => tier m = .CITY
  let distant := ms.filter fun m => tier m = .DISTANT
  match ctx.intentType with
  | .LOCAL => byName city ++ byName distant
  | .DESTINATION => byQuality (city ++ distant)
  | .MIXED => byName city ++ byQuality distant

/-- What the sort that was asked for says of two merchants. -/
def overrideOrder (m n : Merchant) : Ordering :=
  match sortBy with
  | .relevance => .eq
  | .nearest => .eq
  | .top_rated => ahead (fun m => isRated (merchantRow db m))
      (fun m n => compare ((merchantRow db n).avgRating.getD 0) ((merchantRow db m).avgRating.getD 0)) (fun _ _ => .eq) m n
  | .highest_saving => compare (maxSavingOf db n) (maxSavingOf db m)

/-- The merchants in the order in which they are listed. -/
def listedOrder (ms : List Merchant) : List Merchant :=
  sort (overrideOrder db sortBy) (nearbyOf env ctx db ms ++ restOf env ctx db (tierOf env ctx db) ms)

instance transCmp_overrideOrder : Std.TransCmp (overrideOrder db sortBy) := by
  cases sortBy with
  | relevance => exact transCmp_eq
  | nearest => exact transCmp_eq
  | top_rated =>
    have heq : Std.TransCmp fun _ _ : Merchant => Ordering.eq := transCmp_eq
    have hrating : Std.TransCmp fun m n : Merchant =>
        compare ((merchantRow db n).avgRating.getD 0) ((merchantRow db m).avgRating.getD 0) :=
      transCmp_on (fun a b : ℚ => compare b a) fun m => (merchantRow db m).avgRating.getD 0
    exact transCmp_ahead
  | highest_saving => exact transCmp_on (fun a b : ℚ => compare b a) (maxSavingOf db)

instance transCmp_compareNearest : Std.TransCmp (compareNearest env ctx db) :=
  transCmp_on compareMetres fun m => ctx.nearestDistanceMetres env (tileBranches db m)

variable {env ctx db sortBy} {ms : List Merchant} {m n : Merchant}

theorem order_eq (ms : List Merchant) : ctx.order env (ms.map (rankedOf env ctx db)) =
    (nearbyOf env ctx db ms ++ restOf env ctx db (tierOf env ctx db) ms).map (rankedOf env ctx db) := by
  have hfilter : ∀ t : SupplyTier, (ms.map (rankedOf env ctx db)).filter (fun r => r.supplyTier = t) =
      (ms.filter fun m => tierOf env ctx db m = t).map (rankedOf env ctx db) := by
    intro t
    rw [List.filter_map]
    rfl
  rw [RankMerchantsContext.order, restOf, List.map_append, nearbyOf]
  simp only [hfilter]
  cases ctx.intentType with
  | LOCAL => simp only [sort_map, List.map_append]; rfl
  | DESTINATION => simp only [← List.map_append, sort_map]; rfl
  | MIXED => simp only [sort_map, List.map_append]; rfl

theorem sortOverride_eq {l : List Merchant} (hd : l.Nodup) : sortOverride db sortBy (l.map (rankedOf env ctx db)) =
    (sort (overrideOrder db sortBy) l).map (rankedOf env ctx db) := by
  cases sortBy with
  | relevance =>
    have hself : sort (overrideOrder db .relevance) l = l := mergeSort_eq_self l fun _ _ _ _ => nofun
    rw [hself]
    rfl
  | nearest =>
    have hself : sort (overrideOrder db .nearest) l = l := mergeSort_eq_self l fun _ _ _ _ => nofun
    rw [hself]
    rfl
  | top_rated =>
    have hrating : Std.TransCmp fun m n : Merchant =>
        compare ((merchantRow db n).avgRating.getD 0) ((merchantRow db m).avgRating.getD 0) :=
      transCmp_on (fun a b : ℚ => compare b a) fun m => (merchantRow db m).avgRating.getD 0
    have happend := mergeSort_filter_append
      (fun m n : Merchant => compare ((merchantRow db n).avgRating.getD 0) ((merchantRow db m).avgRating.getD 0))
      (fun m => isRated (merchantRow db m)) hd
    rw [sortOverride, List.filter_map, List.filter_map, sort_map, ← List.map_append]
    exact congrArg (List.map _) happend
  | highest_saving =>
    rw [sortOverride, sort_map]
    rfl

theorem perm_restOf (tier : Merchant → SupplyTier) : (restOf env ctx db tier ms).Perm
    (ms.filter (fun m => tier m = .CITY) ++ ms.filter fun m => tier m = .DISTANT) := by
  rw [restOf]
  cases ctx.intentType with
  | LOCAL => exact sort_perm.append sort_perm
  | DESTINATION => exact sort_perm
  | MIXED => exact sort_perm.append sort_perm

/-- The tiers share no merchant, and leave none out. -/
theorem perm_tiers (ms : List Merchant) :
    (nearbyOf env ctx db ms ++ restOf env ctx db (tierOf env ctx db) ms).Perm ms := by
  have hgroups := flatMap_filter_perm (tierOf env ctx db)
    (show [SupplyTier.NEARBY, .CITY, .DISTANT].Nodup by decide) ms
  have hall : ms.filter (fun m => tierOf env ctx db m ∈ [SupplyTier.NEARBY, .CITY, .DISTANT]) = ms := by
    refine List.filter_eq_self.mpr fun m _ => ?_
    cases tierOf env ctx db m <;> decide
  rw [hall] at hgroups
  refine (sort_perm.append (perm_restOf _)).trans (.trans (.of_eq ?_) hgroups)
  simp

theorem nodup_tiers (hd : ms.Nodup) : (nearbyOf env ctx db ms ++ restOf env ctx db (tierOf env ctx db) ms).Nodup :=
  (perm_tiers ms).nodup_iff.mpr hd

theorem perm_listedOrder (ms : List Merchant) : (listedOrder env ctx db sortBy ms).Perm ms := sort_perm.trans (perm_tiers ms)

theorem listed_eq (hd : ms.Nodup) :
    sortOverride db sortBy (ctx.rankMerchants env (ms.map (merchantRow db))).ordered =
      (listedOrder env ctx db sortBy ms).map (rankedOf env ctx db) := by
  rw [RankMerchantsContext.rankMerchants]
  dsimp only
  rw [List.map_map, show ctx.tag env ∘ merchantRow db = rankedOf env ctx db from rfl, order_eq,
    sortOverride_eq (nodup_tiers hd)]
  rfl

theorem pair_nearbyOf (h : [m, n] <+ ms) : [m, n] <+ nearbyOf env ctx db ms ↔
    (tierOf env ctx db m = .NEARBY ∧ tierOf env ctx db n = .NEARBY) ∧ compareNearest env ctx db m n ≠ .gt := by
  constructor
  · intro hs
    obtain ⟨hm, hn⟩ := mem_of_pair hs
    rw [nearbyOf, mem_sort, List.mem_filter, decide_eq_true_eq] at hm hn
    have hpair : [m, n] <+ ms.filter fun m => tierOf env ctx db m = .NEARBY :=
      pair_filter.mpr ⟨h, decide_eq_true hm.2, decide_eq_true hn.2⟩
    exact ⟨⟨hm.2, hn.2⟩, (pair_mergeSort_iff hpair).mp hs⟩
  · rintro ⟨⟨hm, hn⟩, hle⟩
    exact (pair_mergeSort_iff (pair_filter.mpr ⟨h, decide_eq_true hm, decide_eq_true hn⟩)).mpr hle

theorem mem_nearbyOf : m ∈ nearbyOf env ctx db ms ↔ m ∈ ms ∧ tierOf env ctx db m = .NEARBY := by
  rw [nearbyOf, mem_sort, List.mem_filter, decide_eq_true_eq]

theorem not_mem_restOf (h : tierOf env ctx db m = .NEARBY) : m ∉ restOf env ctx db (tierOf env ctx db) ms := by
  rw [(perm_restOf _).mem_iff, List.mem_append, List.mem_filter, List.mem_filter, h]
  simp

/-- Two nearby merchants that the sort leaves alone are listed by their distance. -/
theorem pair_listedOrder (hd : ms.Nodup) (h : [m, n] <+ ms) (hm : tierOf env ctx db m = .NEARBY)
    (hn : tierOf env ctx db n = .NEARBY) (htie : overrideOrder db sortBy m n = .eq) :
    [m, n] <+ listedOrder env ctx db sortBy ms ↔ compareNearest env ctx db m n ≠ .gt := by
  obtain ⟨hmem, hmem'⟩ := mem_of_pair h
  rw [listedOrder, sort, pair_mergeSort (nodup_tiers hd), (perm_tiers ms).mem_iff, (perm_tiers ms).mem_iff, htie,
    pair_append, pair_nearbyOf h]
  have hrest : ¬ [m, n] <+ restOf env ctx db (tierOf env ctx db) ms := fun hs => not_mem_restOf hm (mem_of_pair hs).1
  simp [hmem, hmem', hrest, hm, hn, not_mem_restOf hn]

end

/-! ### Two states -/

section
variable (env : Platform) (ctx : RankMerchantsContext) (sortBy : SortBy) (db db' : Database) (ms : List Merchant)

/-- The merchants are in the same tiers in both states, and those nearby compare alike where the sort leaves them. -/
structure SameStanding : Prop where
  tier : ∀ m ∈ ms, tierOf env ctx db m = tierOf env ctx db' m
  order : ∀ m n, [m, n] <+ ms → tierOf env ctx db m = .NEARBY → tierOf env ctx db n = .NEARBY →
    overrideOrder db sortBy m n = .eq → (compareNearest env ctx db m n ≠ .gt ↔ compareNearest env ctx db' m n ≠ .gt)

/-- The part of `searchMerchants` and `getCategoryMerchants` after the merchants are known. -/
def listing (scope : Option Scope) (v2 : V2RankAttempt) (userId : Option String) (limit offset : ℕ) : MerchantsResponse :=
  let ranking := ctx.rankMerchants env (ms.map (merchantRow db))
  listMerchants env db scope ctx ranking.counts v2 (sortOverride db sortBy ranking.ordered) limit offset userId

variable {env ctx sortBy db db' ms} {m n : Merchant} {scope : Option Scope} {v2 : V2RankAttempt} {userId : Option String}

theorem overrideOrder_redact (m n : Merchant) : overrideOrder db.redact sortBy m n = overrideOrder db sortBy m n := by
  cases sortBy with
  | relevance => rfl
  | nearest => rfl
  | top_rated =>
    rw [overrideOrder, overrideOrder]
    simp only [merchantRow_redact]
    rfl
  | highest_saving => rfl

theorem restOf_redact (tier : Merchant → SupplyTier) (ms : List Merchant) :
    restOf env ctx db.redact tier ms = restOf env ctx db tier ms := by
  rw [restOf, restOf]
  simp only [merchantRow_redact]
  rfl

/-- Away from the distances the tier is the same. -/
theorem tierOf_eq_of_nearby (h : db.SameButPositions db')
    (hn : tierOf env ctx db m = .NEARBY ↔ tierOf env ctx db' m = .NEARBY) : tierOf env ctx db m = tierOf env ctx db' m := by
  have hredact : ∀ d : Database, (∃ city ∈ truthy ctx.profileCity, ∃ b ∈ (tileBranches d.redact m).filter Branch.isActive,
      env.toLowerCase b.city = env.toLowerCase city) ↔ ∃ city ∈ truthy ctx.profileCity,
        ∃ b ∈ (tileBranches d m).filter Branch.isActive, env.toLowerCase b.city = env.toLowerCase city := by
    intro d
    rw [tileBranches_redact, filter_map_redact fun _ => rfl]
    simp only [List.mem_map, exists_exists_and_eq_and]
    rfl
  have hcity := (hredact db).symm.trans (h.redact_eq ▸ hredact db')
  rw [tierOf, tierOf, RankMerchantsContext.classifyTier, RankMerchantsContext.classifyTier] at hn ⊢
  simp only [hcity] at hn ⊢
  by_cases hfar : ∃ d ∈ ctx.distances env (tileBranches db m), d ≤ NEARBY_RADIUS_METRES
  · rw [hn.mp (if_pos hfar), if_pos hfar]
  · by_cases hfar' : ∃ d ∈ ctx.distances env (tileBranches db' m), d ≤ NEARBY_RADIUS_METRES
    · rw [hn.mpr (if_pos hfar'), if_pos hfar']
    · rw [if_neg hfar, if_neg hfar']

/-- What is listed depends on the standing of the merchants alone. -/
theorem listedOrder_eq (hd : ms.Nodup) (h : db.SameButPositions db') (hs : SameStanding env ctx sortBy db db' ms) :
    listedOrder env ctx db sortBy ms = listedOrder env ctx db' sortBy ms := by
  have hrest : restOf env ctx db (tierOf env ctx db) ms = restOf env ctx db' (tierOf env ctx db') ms := by
    rw [← restOf_redact, h.redact_eq, restOf_redact, restOf, restOf]
    have hfilter : ∀ t : SupplyTier, (ms.filter fun m => tierOf env ctx db m = t) =
        ms.filter fun m => tierOf env ctx db' m = t := fun t => List.filter_congr fun m hm => by rw [hs.tier m hm]
    simp only [hfilter]
  have hoverride : overrideOrder db' sortBy = overrideOrder db sortBy := by
    funext m n
    rw [← overrideOrder_redact, ← h.redact_eq, overrideOrder_redact]
  refine eq_of_pairs hd (perm_listedOrder ms) (perm_listedOrder ms) fun m n hpair => ?_
  obtain ⟨hm, hn⟩ := mem_of_pair hpair
  rw [listedOrder, listedOrder, sort, sort, hoverride, pair_mergeSort (nodup_tiers hd), pair_mergeSort (nodup_tiers hd),
    (perm_tiers ms).mem_iff, (perm_tiers ms).mem_iff, (perm_tiers ms).mem_iff, (perm_tiers ms).mem_iff]
  refine and_congr_right fun _ => and_congr_right fun _ => or_congr_right (and_congr_right fun htie => ?_)
  rw [pair_append, pair_append, ← hrest, mem_nearbyOf, mem_nearbyOf, pair_nearbyOf hpair, pair_nearbyOf hpair,
    ← hs.tier m hm, ← hs.tier n hn]
  refine or_congr_left (and_congr_right fun hnearby => ?_)
  exact hs.order m n hpair hnearby.1 hnearby.2 htie

/-- The row that a tile is made from is the same apart from the positions that it does not show. -/
theorem tile_eq (h : db.SameButPositions db') {lat lng : Option ℚ} (m : Merchant) :
    enrichMerchantTile env db lat lng userId (merchantRow db m) = enrichMerchantTile env db' lat lng userId (merchantRow db' m) := by
  have hredact : ∀ d : Database, enrichMerchantTile env d.redact lat lng userId (merchantRow d.redact m) =
      enrichMerchantTile env d lat lng userId (merchantRow d m) := by
    intro d
    rw [merchantRow_redact, enrichMerchantTile_redact]
  rw [← hredact, ← hredact db', h.redact_eq]

theorem count_eq (t : SupplyTier) (ms : List Merchant) :
    (((ms.map (merchantRow db)).map (ctx.tag env)).filter fun r => r.supplyTier = t).length =
      (ms.filter fun m => tierOf env ctx db m = t).length := by
  rw [List.map_map, List.filter_map, List.length_map]
  rfl

def tierCounts (env : Platform) (ctx : RankMerchantsContext) (db : Database) (ms : List Merchant) : TierCounts :=
  let count (t : SupplyTier) := (ms.filter fun m => tierOf env ctx db m = t).length
  ⟨count .NEARBY, count .CITY, count .DISTANT⟩

/-- The merchants that the scope keeps, in their order. -/
def keptOrder (env : Platform) (ctx : RankMerchantsContext) (sortBy : SortBy) (db : Database) (ms : List Merchant)
    (scope : Option Scope) : List Merchant :=
  (listedOrder env ctx db sortBy ms).filter fun m =>
    tierOf env ctx db m ∈ (resolveScopeForRanking scope ctx.intentType (tierCounts env ctx db ms)).retainedTiers

theorem listing_eq (hd : ms.Nodup) (limit offset : ℕ) : listing env ctx sortBy db ms scope v2 userId limit offset =
    listMerchants env db scope ctx (tierCounts env ctx db ms) v2
      ((listedOrder env ctx db sortBy ms).map (rankedOf env ctx db)) limit offset userId := by
  rw [listing, listed_eq hd, RankMerchantsContext.rankMerchants]
  simp only [count_eq]
  rfl

theorem listing_merchants (hd : ms.Nodup) (limit offset : ℕ) :
    (listing env ctx sortBy db ms scope v2 userId limit offset).merchants.map (fun t => (t.tile.id, t.supplyTier)) =
      (slice offset limit (keptOrder env ctx sortBy db ms scope)).map fun m => (m.id, tierOf env ctx db m) := by
  rw [listing_eq hd, listMerchants, List.filter_map, slice, slice, ← List.map_drop, ← List.map_take, List.map_map, List.map_map]
  rfl

theorem nearby_mem_retainedTiers (requested : Option Scope) (intent : CategoryIntent) (supply : List SupplyTier → ℕ) :
    .NEARBY ∈ retainedTiers requested intent supply := by
  have hexpand : ∀ next tiers, .NEARBY ∈ tiers → .NEARBY ∈ expand next supply tiers := by
    intro next tiers hmem
    rw [expand]
    split_ifs
    · exact List.mem_append_left _ hmem
    · exact hmem
  refine hexpand _ _ (hexpand _ _ ?_)
  rcases requested with _ | scope
  · cases intent <;> decide
  · cases scope <;> exact List.mem_cons_self

theorem nearby_keptOrder : (keptOrder env ctx sortBy db ms scope).filter (fun m => tierOf env ctx db m = .NEARBY) =
    (listedOrder env ctx db sortBy ms).filter fun m => tierOf env ctx db m = .NEARBY := by
  rw [keptOrder, List.filter_filter]
  refine List.filter_congr fun m _ => ?_
  by_cases hm : tierOf env ctx db m = .NEARBY
  · simp [hm, resolveScopeForRanking, nearby_mem_retainedTiers]
  · simp [hm]

theorem keptOrder_subset : keptOrder env ctx sortBy db ms scope ⊆ ms := fun _ hm =>
  (perm_listedOrder ms).subset (List.mem_of_mem_filter hm)

/-- The pages together show the nearby merchants, in their order. -/
theorem nearby_of_listing (hk : Rows.Keyed Merchant.id ms)
    (h : ∀ limit offset, listing env ctx sortBy db ms scope v2 userId limit offset =
      listing env ctx sortBy db' ms scope v2 userId limit offset) :
    (listedOrder env ctx db sortBy ms).filter (fun m => tierOf env ctx db m = .NEARBY) =
      (listedOrder env ctx db' sortBy ms).filter fun m => tierOf env ctx db' m = .NEARBY := by
  have hd : ms.Nodup := hk.of_map
  have hwhole : ∀ d, slice 0 ms.length (keptOrder env ctx sortBy d ms scope) = keptOrder env ctx sortBy d ms scope := by
    intro d
    refine List.take_of_length_le ((List.length_filter_le _ _).trans ?_)
    rw [(perm_listedOrder ms).length_eq]
  have hshown := congrArg (fun r => r.merchants.map fun t => (t.tile.id, t.supplyTier)) (h ms.length 0)
  simp only [listing_merchants hd, hwhole] at hshown
  have hids := congrArg (fun l => (l.filter fun s : String × SupplyTier => s.2 = .NEARBY).map Prod.fst) hshown
  simp only [List.filter_map, List.map_map] at hids
  have hkept := hk.eq_of_map_eq (fun _ hm => keptOrder_subset (List.mem_of_mem_filter hm))
    (fun _ hm => keptOrder_subset (List.mem_of_mem_filter hm)) hids
  exact nearby_keptOrder.symm.trans (hkept.trans nearby_keptOrder)

/-- Two states are listed alike, page by page, exactly if the merchants have the same standing in both. -/
theorem listing_iff (hk : Rows.Keyed Merchant.id ms) (h : db.SameButPositions db') :
    (∀ limit offset, listing env ctx sortBy db ms scope v2 userId limit offset =
      listing env ctx sortBy db' ms scope v2 userId limit offset) ↔ SameStanding env ctx sortBy db db' ms := by
  have hd : ms.Nodup := hk.of_map
  constructor
  · intro hall
    have hnearby := nearby_of_listing hk hall
    have htier : ∀ m ∈ ms, tierOf env ctx db m = .NEARBY ↔ tierOf env ctx db' m = .NEARBY := by
      intro m hm
      have hmem := congrArg (m ∈ ·) hnearby
      simpa [(perm_listedOrder ms).mem_iff, hm] using hmem
    have hsame : ∀ m ∈ ms, tierOf env ctx db m = tierOf env ctx db' m := fun m hm => tierOf_eq_of_nearby h (htier m hm)
    refine ⟨hsame, fun m n hpair hm hn htie => ?_⟩
    obtain ⟨hmem, hmem'⟩ := mem_of_pair hpair
    have hm' := (htier m hmem).mp hm
    have hn' := (htier n hmem').mp hn
    have htie' : overrideOrder db' sortBy m n = .eq := by
      rw [← overrideOrder_redact, ← h.redact_eq, overrideOrder_redact, htie]
    rw [← pair_listedOrder hd hpair hm hn htie, ← pair_listedOrder hd hpair hm' hn' htie']
    have hleft : [m, n] <+ listedOrder env ctx db sortBy ms ↔ [m, n] <+
        (listedOrder env ctx db sortBy ms).filter fun m => tierOf env ctx db m = .NEARBY := by
      simp [pair_filter, hm, hn]
    have hright : [m, n] <+ listedOrder env ctx db' sortBy ms ↔ [m, n] <+
        (listedOrder env ctx db' sortBy ms).filter fun m => tierOf env ctx db' m = .NEARBY := by
      simp [pair_filter, hm', hn']
    rw [hleft, hright, hnearby]
  · intro hs limit offset
    have hcounts : tierCounts env ctx db ms = tierCounts env ctx db' ms := by
      have hfilter : ∀ t : SupplyTier, (ms.filter fun m => tierOf env ctx db m = t) =
          ms.filter fun m => tierOf env ctx db' m = t := fun t => List.filter_congr fun m hm => by rw [hs.tier m hm]
      rw [tierCounts, tierCounts]
      simp only [hfilter]
    have horder := listedOrder_eq hd h hs
    have hkept : keptOrder env ctx sortBy db ms scope = keptOrder env ctx sortBy db' ms scope := by
      rw [keptOrder, keptOrder, hcounts, horder]
      refine List.filter_congr fun m hm => ?_
      rw [hs.tier m ((perm_listedOrder ms).subset hm)]
    have hlist : ∀ d, ((listedOrder env ctx d sortBy ms).map (rankedOf env ctx d)).filter (fun r => r.supplyTier ∈
        (resolveScopeForRanking scope ctx.intentType (tierCounts env ctx d ms)).retainedTiers) =
          (keptOrder env ctx sortBy d ms scope).map (rankedOf env ctx d) := fun d => List.filter_map
    rw [listing_eq hd, listing_eq hd, listMerchants, listMerchants, hlist, hlist, hkept, hcounts, List.length_map,
      List.length_map, slice, slice, ← List.map_drop, ← List.map_take, ← List.map_drop, ← List.map_take, List.map_map,
      List.map_map]
    have htiles : ∀ m ∈ slice offset limit (keptOrder env ctx sortBy db' ms scope),
        mergeV2FieldsOntoTile (enrichMerchantTile env db ctx.userLat ctx.userLng userId (merchantRow db m))
          (tierOf env ctx db m) (v2.tileOf m.id) =
        mergeV2FieldsOntoTile (enrichMerchantTile env db' ctx.userLat ctx.userLng userId (merchantRow db' m))
          (tierOf env ctx db' m) (v2.tileOf m.id) := by
      intro m hm
      rw [tile_eq h, hs.tier m (keptOrder_subset (List.mem_of_mem_drop (List.mem_of_mem_take hm)))]
    congr 1
    exact List.map_congr_left htiles

end

/-! ### Requests -/

inductive Request
  | searchMerchants (params : SearchParams)
  | searchBranches (params : SearchParams)
  | getCategoryMerchants (categoryId : String) (options : CategoryOptions)
  | getCustomerMerchant (merchantId : String) (userId : Option String) (opts : PageOptions)
  | getCustomerMerchantBranches (merchantId : String)

inductive Response
  | merchants (r : MerchantsResponse)
  | branches (r : SearchResponse)
  | page (p : MerchantPage)
  | selector (l : List SelectorBranch)

variable (env : Platform) (collate : String → String → Ordering) (db db' : Database) (shop : VoucherScreens.Shop)
  (t : Redemption.Tables) (now : ℤ)

def respond : Request → Except Redemption.Failure Response
  | .searchMerchants params => Response.merchants <$> Redemption.orApp (searchMerchants env db now collate params)
  | .searchBranches params => Response.branches <$> Redemption.orApp (searchBranches env db now params)
  | .getCategoryMerchants categoryId options => .ok (.merchants (getCategoryMerchants env db collate categoryId options))
  | .getCustomerMerchant merchantId userId opts =>
    Response.page <$> getCustomerMerchant env db shop t now merchantId userId opts
  | .getCustomerMerchantBranches merchantId => Response.selector <$> getCustomerMerchantBranches db merchantId

/-- The request for another page of the same list. -/
def Request.paged (limit offset : ℕ) : Request → Request
  | .searchMerchants params => .searchMerchants { params with limit := limit, offset := offset }
  | .searchBranches params => .searchBranches { params with limit := limit, offset := offset }
  | .getCategoryMerchants categoryId options => .getCategoryMerchants categoryId { options with limit := limit, offset := offset }
  | .getCustomerMerchant merchantId userId opts => .getCustomerMerchant merchantId userId opts
  | .getCustomerMerchantBranches merchantId => .getCustomerMerchantBranches merchantId

/-- No merchant that the request ranks has another standing in the other state. -/
def Undisclosed : Request → Prop
  | .searchMerchants params => params.Bounded →
    SameStanding env (params.rankContext db) params.sortBy db db' (candidateMerchants env db now collate params)
  | .getCategoryMerchants categoryId options =>
    SameStanding env (options.rankContext db categoryId) .relevance db db' (categoryMerchants db collate categoryId)
  | .searchBranches _ => True
  | .getCustomerMerchant _ _ _ => True
  | .getCustomerMerchantBranches _ => True

variable {env collate db db' shop t now}

theorem keyed_candidateMerchants (hk : Rows.Keyed Merchant.id db.merchants) (params : SearchParams) :
    Rows.Keyed Merchant.id (candidateMerchants env db now collate params) := by
  rw [candidateMerchants]
  refine List.Nodup.sublist (List.filter_sublist.map _) ?_
  have hwhere : Rows.Keyed Merchant.id (db.merchants.filter (merchantWhere env db now params)) :=
    List.Nodup.sublist (List.filter_sublist.map _) hk
  have hordered : Rows.Keyed Merchant.id (orderByBusinessName collate (db.merchants.filter (merchantWhere env db now params))) :=
    (sort_perm.map _).nodup_iff.mpr hwhere
  rw [sortNearest]
  split
  · exact (sort_perm.map _).nodup_iff.mpr hordered
  · exact hordered

theorem keyed_categoryMerchants (hk : Rows.Keyed Merchant.id db.merchants) (categoryId : String) :
    Rows.Keyed Merchant.id (categoryMerchants db collate categoryId) :=
  (sort_perm.map _).nodup_iff.mpr (List.Nodup.sublist (List.filter_sublist.map _) hk)

theorem searchMerchants_eq (params : SearchParams) (hb : params.Bounded) :
    searchMerchants env db now collate params = .ok (listing env (params.rankContext db) params.sortBy db
      (candidateMerchants env db now collate params) params.scope (tryRankMerchantsV2 env db
        ((candidateMerchants env db now collate params).map (merchantRow db)) params.v2Context)
      params.userId params.limit params.offset) := by
  rw [searchMerchants, rejectIf, if_neg (not_not.mpr hb)]
  rfl

theorem searchMerchants_refused (params : SearchParams) (hb : ¬ params.Bounded) :
    searchMerchants env db now collate params = .error .SEARCH_QUERY_REQUIRED := by
  rw [searchMerchants, rejectIf, if_pos hb]
  rfl

theorem tryRankMerchantsV2_eq (h : db.SameButPositions db') (ms : List Merchant) (ctx : V2Context) :
    tryRankMerchantsV2 env db (ms.map (merchantRow db)) ctx = tryRankMerchantsV2 env db' (ms.map (merchantRow db')) ctx := by
  have hredact : ∀ d : Database, tryRankMerchantsV2 env d.redact (ms.map (merchantRow d.redact)) ctx =
      tryRankMerchantsV2 env d (ms.map (merchantRow d)) ctx := by
    intro d
    have hrows : ms.map (merchantRow d.redact) = (ms.map (merchantRow d)).map MerchantForRanking.redact := by
      rw [List.map_map]
      exact List.map_congr_left fun m _ => merchantRow_redact m
    rw [hrows, tryRankMerchantsV2_redact]
  rw [← hredact, ← hredact db', h.redact_eq]

theorem searchMerchants_pages_iff (hk : Rows.Keyed Merchant.id db.merchants) (h : db.SameButPositions db')
    (params : SearchParams) (hb : params.Bounded) :
    (∀ limit offset, searchMerchants env db now collate { params with limit := limit, offset := offset } =
      searchMerchants env db' now collate { params with limit := limit, offset := offset }) ↔
    SameStanding env (params.rankContext db) params.sortBy db db' (candidateMerchants env db now collate params) := by
  have hms : candidateMerchants env db' now collate params = candidateMerchants env db now collate params := by
    rw [← candidateMerchants_redact, ← h.redact_eq, candidateMerchants_redact]
  have hctx : params.rankContext db' = params.rankContext db := by rw [h.rest]; rfl
  have hv2 := @tryRankMerchantsV2_eq env db db' h (candidateMerchants env db now collate params) params.v2Context
  have hpage : ∀ d limit offset, searchMerchants env d now collate { params with limit := limit, offset := offset } =
      .ok (listing env (params.rankContext d) params.sortBy d (candidateMerchants env d now collate params) params.scope
        (tryRankMerchantsV2 env d ((candidateMerchants env d now collate params).map (merchantRow d)) params.v2Context)
        params.userId limit offset) := fun d limit offset => searchMerchants_eq _ hb
  simp only [hpage, hms, hctx, ← hv2, Except.ok.injEq]
  exact listing_iff (keyed_candidateMerchants hk params) h

theorem getCategoryMerchants_pages_iff (hk : Rows.Keyed Merchant.id db.merchants) (h : db.SameButPositions db')
    (categoryId : String) (options : CategoryOptions) :
    (∀ limit offset, getCategoryMerchants env db collate categoryId { options with limit := limit, offset := offset } =
      getCategoryMerchants env db' collate categoryId { options with limit := limit, offset := offset }) ↔
    SameStanding env (options.rankContext db categoryId) .relevance db db' (categoryMerchants db collate categoryId) := by
  have hms : categoryMerchants db' collate categoryId = categoryMerchants db collate categoryId := by rw [h.rest]; rfl
  have hctx : options.rankContext db' categoryId = options.rankContext db categoryId := by rw [h.rest]; rfl
  have hv2ctx : options.v2Context db' categoryId = options.v2Context db categoryId := by rw [h.rest]; rfl
  have hv2 := @tryRankMerchantsV2_eq env db db' h (categoryMerchants db collate categoryId)
    (options.v2Context db categoryId)
  have hpage : ∀ d limit offset, getCategoryMerchants env d collate categoryId { options with limit := limit, offset := offset } =
      listing env (options.rankContext d categoryId) .relevance d (categoryMerchants d collate categoryId) options.scope
        (tryRankMerchantsV2 env d ((categoryMerchants d collate categoryId).map (merchantRow d))
          (options.v2Context d categoryId)) options.userId limit offset := fun _ _ _ => rfl
  simp only [hpage, hms, hctx, hv2ctx, ← hv2]
  exact listing_iff (keyed_categoryMerchants hk categoryId) h

theorem orApp_inj {α : Type} {x y : Except AppError α} : Redemption.orApp x = Redemption.orApp y ↔ x = y := by
  cases x <;> cases y <;> simp [Redemption.orApp]

theorem map_inj {ε α β : Type} {f : α → β} (hf : Function.Injective f) {x y : Except ε α} : f <$> x = f <$> y ↔ x = y := by
  cases x <;> cases y <;> simp [Functor.map, Except.map, hf.eq_iff]

/-- Positions that are not confirmed stay undisclosed, whatever page is asked for, exactly if no merchant that is ranked
    has another standing. -/
theorem positions_undisclosed_iff (hk : Rows.Keyed Merchant.id db.merchants) (h : db.SameButPositions db')
    (request : Request) :
    (∀ limit offset, respond env collate db shop t now (request.paged limit offset) =
      respond env collate db' shop t now (request.paged limit offset)) ↔ Undisclosed env collate db db' now request := by
  cases request with
  | searchMerchants params =>
    by_cases hb : params.Bounded
    · refine Iff.trans (forall₂_congr fun limit offset => ?_) ((searchMerchants_pages_iff hk h params hb).trans
        ⟨fun hs _ => hs, fun hs => hs hb⟩)
      rw [Request.paged, respond, respond, map_inj fun _ _ => Response.merchants.inj, orApp_inj]
    · refine iff_of_true (fun limit offset => ?_) fun hb' => absurd hb' hb
      have hrefused : ∀ d, searchMerchants env d now collate { params with limit := limit, offset := offset } =
          .error .SEARCH_QUERY_REQUIRED := fun d => searchMerchants_refused _ hb
      rw [Request.paged, respond, respond, hrefused, hrefused]
  | searchBranches params =>
    refine iff_of_true (fun limit offset => ?_) trivial
    rw [Request.paged, respond, respond, ← searchBranches_redact, h.redact_eq, searchBranches_redact]
  | getCategoryMerchants categoryId options =>
    refine Iff.trans (forall₂_congr fun limit offset => ?_) (getCategoryMerchants_pages_iff hk h categoryId options)
    rw [Request.paged, respond, respond, Except.ok.injEq, Response.merchants.injEq]
  | getCustomerMerchant merchantId userId opts =>
    refine iff_of_true (fun limit offset => ?_) trivial
    rw [Request.paged, respond, respond, ← getCustomerMerchant_redact, h.redact_eq, getCustomerMerchant_redact]
  | getCustomerMerchantBranches merchantId =>
    refine iff_of_true (fun limit offset => ?_) trivial
    rw [Request.paged, respond, respond, ← getCustomerMerchantBranches_redact, h.redact_eq,
      getCustomerMerchantBranches_redact]

/-! ### A branch in the middle of its postcode -/

/-- The chippy's branch stands where its postcode does. -/
def atCentroid (latitude : ℚ) : Database :=
  { atSea with branches := [{ branchAt "town" latitude with locationConfidence := .POSTCODE_CENTROID }] }

/-- Chippies, seen from Huddersfield. -/
def chippies : Request := .searchMerchants
  { aroundBoth with q := some "Chippy", minLat := none, maxLat := none, minLng := none, maxLng := none }

def noShop : VoucherScreens.Shop where
  cat := ⟨fun _ => none, fun _ => none, fun _ => none, fun _ => none⟩
  merchants _ := none
  voucherIds := []
  isTestData _ := false
  favourites := []

theorem sameButPositions_atCentroid (latitude latitude' : ℚ) :
    (atCentroid latitude).SameButPositions (atCentroid latitude') where
  branches := .cons (.inr ⟨rfl, rfl⟩) .nil
  rest := rfl

theorem positions_undisclosed_iff_chippies :
    (∀ limit offset, respond meridian compare (atCentroid (536 / 10)) noShop ⟨[], fun _ => none⟩ 0 (chippies.paged limit offset) =
      respond meridian compare (atCentroid (546 / 10)) noShop ⟨[], fun _ => none⟩ 0 (chippies.paged limit offset)) ↔
        Undisclosed meridian compare (atCentroid (536 / 10)) (atCentroid (546 / 10)) 0 chippies :=
  positions_undisclosed_iff (by decide) (sameButPositions_atCentroid _ _) chippies

/-- The merchant is counted as nearby, or not, by a position that nobody has confirmed. -/
theorem centroid_disclosed : ¬ ∀ (request : Request) (db db' : Database), Rows.Keyed Merchant.id db.merchants →
    db.SameButPositions db' →
    respond meridian compare db noShop ⟨[], fun _ => none⟩ 0 request =
      respond meridian compare db' noShop ⟨[], fun _ => none⟩ 0 request := by
  intro h
  have hsame := h chippies _ _ (by decide) (sameButPositions_atCentroid (536 / 10) (546 / 10))
  have hhere : ∃ r, respond meridian compare (atCentroid (536 / 10)) noShop ⟨[], fun _ => none⟩ 0 chippies =
      .ok (.merchants r) ∧ r.meta'.counts.nearbyCount = 1 := ⟨_, rfl, by decide +kernel⟩
  have hthere : ∃ r, respond meridian compare (atCentroid (546 / 10)) noShop ⟨[], fun _ => none⟩ 0 chippies =
      .ok (.merchants r) ∧ r.meta'.counts.nearbyCount = 0 := ⟨_, rfl, by decide +kernel⟩
  obtain ⟨r, hr, hn⟩ := hhere
  obtain ⟨r', hr', hn'⟩ := hthere
  rw [hr, hr', Except.ok.injEq, Response.merchants.injEq] at hsame
  rw [hsame, hn'] at hn
  cases hn

end Redeemo.Discovery
