import Redeemo.Discovery.LosesNothing
import Redeemo.Discovery.RankingLaws
import Redeemo.Lib.Paging

/-! `getInAreaBranches`: the branches on the map.

    Of the branches in the box the first by id are candidates, and the candidates are ranked from the middle of the box.
    So the map shows what is in view only as far as the middle is near a locality that the gazetteer knows, the
    ladder of the map goes up to the rung of each branch, and the best of a crowded view are among the candidates. -/

namespace Redeemo.Discovery
open Listing RankInput Rows Sorting SupplyRung

/-! ### The request -/

structure Bbox where
  minLat : ℚ
  maxLat : ℚ
  minLng : ℚ
  maxLng : ℚ

structure InAreaParams where
  bbox : Bbox
  categoryId : Option String
  lat : Option ℚ
  lng : Option ℚ
  userId : Option String
  limit : ℕ
  includeEmptyStateReason : Bool

structure InAreaResponse where
  branches : List BranchTile
  effectiveLocality : Option (String × String)
  rungCounts : SupplyRung → ℕ
  emptyStateReason : Option EmptyStateReason

variable (env : Platform) (db : Database) (now : ℤ) (params : InAreaParams)

def joinedBranches : List Candidate := db.branches.filterMap fun b => (merchantOf db b).map (Candidate.mk b)

/-- `where`, without the box. -/
def supplyWhere (c : Candidate) : Bool :=
  Listed c.branch c.merchant && (truthy params.categoryId).all (fun id => inCategories [id] c.merchant) &&
    c.branch.isBranchLocationConfirmed

def inAreaWhere (c : Candidate) : Bool :=
  supplyWhere params c && inBox (params.bbox.minLat, params.bbox.maxLat, params.bbox.minLng, params.bbox.maxLng) c.branch

/-- The branches in the box. -/
def inView : List Candidate := (joinedBranches db).filter (inAreaWhere params)

def CANDIDATE_CAP (limit : ℕ) : ℕ := max (limit * 4) 200

/-- `orderBy: { id: 'asc' }`. -/
def byId (a b : Candidate) : Ordering := compare a.branch.id b.branch.id

def inAreaCandidates : List Candidate := (sort byId (inView db params)).take (CANDIDATE_CAP params.limit)

def viewportEffLoc : Option EffectiveLocation :=
  resolveEffectiveLocation env db (some ((params.bbox.minLat + params.bbox.maxLat) / 2))
    (some ((params.bbox.minLng + params.bbox.maxLng) / 2)) none none

def inAreaRankInput (effLoc : EffectiveLocation) : RankInput where
  effLoc := effLoc
  ladderProfile := .MIXED_NORMAL
  outgoingCatchmentTargetIds := getOutgoingCatchmentTargetIds db effLoc.locality.id
  categoryIntent :=
    (((truthy params.categoryId).bind (findCategory db)).map (resolveCategoryIntent db)).getD .MIXED
  targetCount := params.limit
  hardCap := params.limit

def inAreaRanked : RankBranchesResult :=
  match viewportEffLoc env db params with
  | none => ⟨[], EMPTY_RUNG_COUNTS⟩
  | some effLoc =>
    if (inAreaCandidates db params).isEmpty then ⟨[], EMPTY_RUNG_COUNTS⟩
    else (inAreaRankInput db params effLoc).rankBranchesV3 env ((inAreaCandidates db params).map rankableInput)

/-- How far the branch is from the caller. -/
def displayDistance (branchId : String) : Option ℚ := do
  let lat ← params.lat
  let lng ← params.lng
  let cand ← (inAreaCandidates db params).find? fun c => c.branch.id = branchId
  cand.branch.exactMetresFrom env lat lng

def emptyStateReason : EmptyStateReason :=
  if ((joinedBranches db).filter (supplyWhere params)).length = 0 then .no_uk_supply else .none

def inAreaInputs : List EnrichBranchInput := (inAreaRanked env db params).tiles.map fun t =>
  ⟨t.id, some t.supplyRung, some t.proximityBand, displayDistance env db params t.id⟩

def getInAreaBranches : InAreaResponse where
  branches := enrichBranchTiles env db now (inAreaInputs env db params) ⟨params.userId, none, false⟩
  effectiveLocality := (viewportEffLoc env db params).map fun e => (e.locality.id, e.locality.name)
  rungCounts := (inAreaRanked env db params).rungCounts
  emptyStateReason := if params.includeEmptyStateReason then some (emptyStateReason db params) else none

/-! ### The property -/

def shownIds : List String := (getInAreaBranches env db now params).branches.map BranchTile.id

/-- The same request from somewhere else. -/
def InAreaParams.seenFrom (lat lng : Option ℚ) : InAreaParams := { params with lat := lat, lng := lng }

/-- The order in which `rankBranchesV3` puts all that is in view. -/
def viewOrder (effLoc : EffectiveLocation) : List String :=
  ({ inAreaRankInput db params effLoc with
      targetCount := (inView db params).length, hardCap := (inView db params).length }.rankBranchesV3 env
    ((inView db params).map rankableInput)).tiles.map RankedBranchTile.id

structure ShowsView : Prop where
  once : (shownIds env db now params).Nodup
  all : (inView db params).length ≤ params.limit → (shownIds env db now params).Perm (ids (inView db params))
  first : params.limit < (inView db params).length → (shownIds env db now params).length = params.limit ∧
    ∀ effLoc, viewportEffLoc env db params = some effLoc →
      shownIds env db now params = (viewOrder env db params effLoc).take params.limit
  still : ∀ lat lng, shownIds env db now (params.seenFrom lat lng) = shownIds env db now params

/-! ### How far the ranking reaches -/

/-- By rung, and on a rung by distance, name and id. -/
def rankOrder (a b : Collected) : Ordering :=
  (compare (rungOrdinal a.rung) (rungOrdinal b.rung)).then (compareDistance env a b)

/-- The branches in view whose rung is on the map's ladder. -/
def reached (effLoc : EffectiveLocation) : List Collected :=
  (inAreaRankInput db params effLoc).collect env ((inView db params).map rankableInput)

/-- How many branches in view have a smaller id. -/
def idsBefore (id : String) : ℕ := (inView db params).countP fun c => compare c.branch.id id = .lt

/-- Nothing is in view, or the middle of the box has a location from which every branch is in reach; in a view with more
    branches than the limit, as many as the limit are in reach, and those that rank first are among the first by id. -/
def InReach : Prop :=
  inView db params = [] ∨ ∃ effLoc, viewportEffLoc env db params = some effLoc ∧
    ((inView db params).length ≤ params.limit →
      ∀ c ∈ inView db params, ((inAreaRankInput db params effLoc).rungOf env c.branch).isSome = true) ∧
    (params.limit < (inView db params).length → params.limit ≤ (reached env db params effLoc).length ∧
      ∀ c ∈ reached env db params effLoc, before (rankOrder env) (reached env db params effLoc) c < params.limit →
        idsBefore db params c.branch.branch.id < CANDIDATE_CAP params.limit)

section
variable {env : Platform} {db : Database} {now : ℤ} {params : InAreaParams} {effLoc : EffectiveLocation} {c d : Candidate}
  {a b : Collected}

/-! ### Candidates -/

theorem mem_inView : c ∈ inView db params ↔
    c.branch ∈ db.branches ∧ merchantOf db c.branch = some c.merchant ∧ inAreaWhere params c = true := by
  rw [inView, List.mem_filter, joinedBranches, List.mem_filterMap]
  constructor
  · rintro ⟨⟨b, hb, hm⟩, hwhere⟩
    obtain ⟨m, hmerchant, rfl⟩ := Option.map_eq_some_iff.mp hm
    exact ⟨hb, hmerchant, hwhere⟩
  · rintro ⟨hb, hm, hwhere⟩
    exact ⟨⟨c.branch, hb, by rw [hm]; rfl⟩, hwhere⟩

theorem nodup_inView (hk : db.Keyed) : (ids (inView db params)).Nodup := by
  have hrows : ((joinedBranches db).map Candidate.branch).Sublist db.branches := by
    rw [joinedBranches, List.map_filterMap]
    induction db.branches with
    | nil => exact .slnil
    | cons b branches ih =>
      cases hm : merchantOf db b with
      | none => simpa [hm] using ih.cons _
      | some m => simpa [hm] using ih
  have hids := ((List.filter_sublist (p := inAreaWhere params)).map Candidate.branch).trans hrows |>.map Branch.id
  rw [List.map_map] at hids
  exact List.Nodup.sublist hids hk.branches

theorem eq_of_id (hk : db.Keyed) (hc : c ∈ inView db params) (hd : d ∈ inView db params)
    (h : c.branch.id = d.branch.id) : c = d := List.inj_on_of_nodup_map (nodup_inView hk) hc hd h

instance transCmp_byId : Std.TransCmp byId :=
  transCmp_on (compare : String → String → Ordering) fun c : Candidate => c.branch.id

variable (params) in
theorem untied_byId (hk : db.Keyed) : ∀ c ∈ inView db params, ∀ d ∈ inView db params, byId c d = .eq → c = d :=
  fun _ hc _ hd h => eq_of_id hk hc hd (Std.LawfulEqOrd.eq_of_compare h)

/-- The candidates are those in view that few enough come before, by id. -/
theorem inAreaCandidates_perm (hk : db.Keyed) : (inAreaCandidates db params).Perm
    ((inView db params).filter fun c => idsBefore db params c.branch.id < CANDIDATE_CAP params.limit) := by
  have hd : (inView db params).Nodup := (nodup_inView hk).of_map
  have hsorted : (sort byId (inView db params)).Nodup := sort_perm.nodup_iff.mpr hd
  refine (List.perm_ext_iff_of_nodup (hsorted.sublist (List.take_sublist _ _)) (hd.filter _)).mpr fun c => ?_
  have hmem := mem_take_mergeSort (k := CANDIDATE_CAP params.limit) (a := c) (untied_byId params hk)
  rw [List.mem_filter, decide_eq_true_eq]
  exact hmem

theorem inAreaCandidates_subset : inAreaCandidates db params ⊆ inView db params := fun _ hc =>
  mem_sort.mp (List.take_subset _ _ hc)

/-! ### The ranking -/

/-- What the map's ladder makes of some candidates. -/
def collected (env : Platform) (db : Database) (params : InAreaParams) (effLoc : EffectiveLocation) (cs : List Candidate) :
    List Collected := (inAreaRankInput db params effLoc).collect env (cs.map rankableInput)

theorem mem_collected {cs : List Candidate} : a ∈ collected env db params effLoc cs ↔
    ∃ c ∈ cs, (inAreaRankInput db params effLoc).rungOf env c.branch = some a.rung ∧
      a = ⟨rankableInput c, a.rung, c.branch.metresFrom env effLoc.lat effLoc.lng⟩ := by
  rw [collected, mem_collect]
  constructor
  · rintro ⟨r, hr, hrung, ha⟩
    obtain ⟨c, hc, rfl⟩ := List.mem_map.mp hr
    exact ⟨c, hc, hrung, ha⟩
  · rintro ⟨c, hc, hrung, ha⟩
    exact ⟨rankableInput c, List.mem_map_of_mem hc, hrung, ha⟩

theorem ids_collected_sublist (cs : List Candidate) :
    ((collected env db params effLoc cs).map fun a => a.branch.branch.id).Sublist (ids cs) := by
  have h := (collect_sublist env (inAreaRankInput db params effLoc) (cs.map rankableInput)).map fun b => b.branch.id
  rw [List.map_map, ids_rankableInput] at h
  exact h

theorem collected_filter (cs : List Candidate) (p : String → Bool) :
    collected env db params effLoc (cs.filter fun c => p c.branch.id) =
      (collected env db params effLoc cs).filter fun a => p a.branch.branch.id := by
  simp only [collected, collect, List.filterMap_map, List.filterMap_filter, List.filter_filterMap]
  refine List.filterMap_congr fun c _ => ?_
  cases hr : (inAreaRankInput db params effLoc).rungOf env c.branch with
  | none => simp [rankableInput, hr]
  | some rung => cases hp : p c.branch.id <;> simp [rankableInput, hr, hp, Option.filter]

theorem eq_of_collected_id (hk : db.Keyed) (ha : a ∈ reached env db params effLoc) (hb : b ∈ reached env db params effLoc)
    (h : a.branch.branch.id = b.branch.branch.id) : a = b := by
  have hd : ((reached env db params effLoc).map fun a => a.branch.branch.id).Nodup :=
    (nodup_inView hk).sublist (ids_collected_sublist _)
  exact List.inj_on_of_nodup_map hd ha hb h

theorem mem_inAreaRanked {t : RankedBranchTile} (h : t ∈ (inAreaRanked env db params).tiles) :
    ∃ c ∈ inAreaCandidates db params, c.branch.id = t.id := by
  rw [inAreaRanked] at h
  split at h
  · cases h
  · split_ifs at h
    · cases h
    · obtain ⟨b, hb, hid, -⟩ := mem_rankBranchesV3 h
      obtain ⟨c, hc, rfl⟩ := List.mem_map.mp hb
      exact ⟨c, hc, hid.symm⟩

theorem listed_of_inView (h : c ∈ inView db params) : Listed c.branch c.merchant := by
  have hwhere := (mem_inView.mp h).2.2
  simp only [inAreaWhere, supplyWhere, Bool.and_eq_true, decide_eq_true_eq] at hwhere
  exact hwhere.1.1.1

/-- The enrichment keeps what is ranked, in its order. -/
theorem shownIds_ranked (hk : db.Keyed) :
    shownIds env db now params = (inAreaRanked env db params).tiles.map RankedBranchTile.id := by
  have hkeys : (getInAreaBranches env db now params).branches.map BranchTile.key =
      (inAreaInputs env db params).map EnrichBranchInput.key := by
    refine enrichBranchTiles_found fun i hi => ?_
    obtain ⟨t, ht, rfl⟩ := List.mem_map.mp hi
    obtain ⟨c, hc, hid⟩ := mem_inAreaRanked ht
    have hview := inAreaCandidates_subset hc
    obtain ⟨hb, hm, -⟩ := mem_inView.mp hview
    exact ⟨c, hid, enrichable_listed hk hb hm (listed_of_inView hview)⟩
  have hids := congrArg (List.map Prod.fst) hkeys
  simp only [inAreaInputs, List.map_map] at hids
  exact hids

theorem shownIds_none (hk : db.Keyed) (h : viewportEffLoc env db params = none) : shownIds env db now params = [] := by
  rw [shownIds_ranked hk, inAreaRanked, h]
  rfl

theorem nodup_shownIds (hk : db.Keyed) : (shownIds env db now params).Nodup := by
  rw [shownIds_ranked hk, inAreaRanked]
  split
  · exact List.nodup_nil
  · split_ifs
    · exact List.nodup_nil
    · refine nodup_rankBranchesV3 ?_
      have hd : (ids (inAreaCandidates db params)).Nodup :=
        ((sort_perm.map _).nodup_iff.mpr (nodup_inView hk)).sublist ((List.take_sublist _ _).map _)
      rwa [ids_rankableInput]

section
variable [Std.TransCmp env.localeCompare]

instance transCmp_rankOrder : Std.TransCmp (rankOrder env) := by
  have hrung : Std.TransCmp fun a b : Collected => compare (rungOrdinal a.rung) (rungOrdinal b.rung) :=
    transCmp_on (compare : ℕ → ℕ → Ordering) fun a : Collected => rungOrdinal a.rung
  exact transCmp_then

omit [Std.TransCmp env.localeCompare] in
/-- The ratings are left out, so distance decides on every rung. -/
theorem comparator_unrated {input : RankInput} (hs : input.sortBy = none) (ha : a.branch.reviewCount = 0)
    (hb : b.branch.reviewCount = 0) (rung : SupplyRung) : input.comparator env rung a b = compareDistance env a b := by
  have hquality : compareQuality env a b = compareDistance env a b := by
    rw [compareQuality, ha, hb, if_neg (by decide), if_neg (by decide)]
  rw [comparator, hs]
  cases input.categoryIntent with
  | LOCAL => rfl
  | DESTINATION => exact hquality
  | MIXED =>
    dsimp only
    split_ifs
    · rfl
    · exact hquality

/-- Rung by rung, the branches stand in one order. -/
theorem pairwise_groups {input : RankInput} (hs : input.sortBy = none) {l : List Collected}
    (hl : ∀ a ∈ l, a.branch.reviewCount = 0) :
    (input.groups env l input.ladder).flatten.Pairwise fun a b => rankOrder env a b ≠ .gt := by
  have hmem : ∀ {rung a}, a ∈ input.sortWithinRung env rung (l.filter fun c => c.rung = rung) → a ∈ l ∧ a.rung = rung := by
    intro rung a ha
    obtain ⟨hal, hrung⟩ := List.mem_filter.mp ((sortWithinRung_perm _).subset ha)
    exact ⟨hal, of_decide_eq_true hrung⟩
  refine List.pairwise_flatten.mpr ⟨fun group hgroup => ?_, ?_⟩
  · obtain ⟨rung, -, rfl⟩ := List.mem_map.mp hgroup
    have : Std.TransCmp (input.comparator env rung) := transCmp_comparator rung
    refine (pairwise_mergeSort (input.comparator env rung) _).imp_of_mem fun {a b} ha hb hab => ?_
    obtain ⟨hal, har⟩ := hmem ha
    obtain ⟨hbl, hbr⟩ := hmem hb
    rw [comparator_unrated hs (hl a hal) (hl b hbl)] at hab
    have hsame : compare (rungOrdinal a.rung) (rungOrdinal b.rung) = .eq := by
      rw [har, hbr]
      exact compare_eq_iff_eq.mpr rfl
    rw [rankOrder, hsame]
    exact hab
  · rw [groups, List.pairwise_map]
    have hladder : input.ladder.Pairwise fun a b => rungOrdinal a < rungOrdinal b :=
      pairwise_rungOrder.sublist (List.takeWhile_sublist _)
    refine hladder.imp fun {rung rung'} hlt a ha b hb => ?_
    rw [rankOrder, (hmem ha).2, (hmem hb).2, compare_lt_iff_lt.mpr hlt]
    simp

variable (hids : ∀ b ∈ db.branches, ∀ b' ∈ db.branches, env.localeCompare b.id b'.id = .eq → b.id = b'.id)
include hids

omit [Std.TransCmp env.localeCompare] in
theorem untied_collected (hk : db.Keyed) {cs : List Candidate} (hcs : cs ⊆ inView db params) :
    ∀ a ∈ collected env db params effLoc cs, ∀ b ∈ collected env db params effLoc cs,
      rankOrder env a b = .eq → a = b := by
  intro a ha b hb h
  obtain ⟨c, hc, hrung, hac⟩ := mem_collected.mp ha
  obtain ⟨d, hd, hrung', hbd⟩ := mem_collected.mp hb
  have hid := compareDistance_eq (Ordering.then_eq_eq.mp h).2
  rw [hac, hbd] at hid
  obtain rfl : c = d := eq_of_id hk (hcs hc) (hcs hd)
    (hids _ (mem_inView.mp (hcs hc)).1 _ (mem_inView.mp (hcs hd)).1 hid)
  have hsame : a.rung = b.rung := Option.some.inj (hrung.symm.trans hrung')
  rw [hac, hbd, hsame]

/-- What the ranking picks are the first in its order. -/
theorem picked_eq (hk : db.Keyed) {cs : List Candidate} (hcs : cs ⊆ inView db params) (k : ℕ) :
    ({ inAreaRankInput db params effLoc with targetCount := k, hardCap := k }.picked env (cs.map rankableInput)) =
      (sort (rankOrder env) (collected env db params effLoc cs)).take k := by
  have hsorted : ((inAreaRankInput db params effLoc).groups env (collected env db params effLoc cs)
      (inAreaRankInput db params effLoc).ladder).flatten.Pairwise fun a b => rankOrder env a b ≠ .gt := by
    refine pairwise_groups rfl fun a ha => ?_
    obtain ⟨c, -, -, hac⟩ := mem_collected.mp ha
    rw [hac]
    rfl
  have hflat : ((inAreaRankInput db params effLoc).groups env (collected env db params effLoc cs)
      (inAreaRankInput db params effLoc).ladder).flatten =
        sort (rankOrder env) (collected env db params effLoc cs) := by
    rw [← List.mergeSort_of_pairwise (hsorted.imp fun h => decide_eq_true h)]
    have hp : ((inAreaRankInput db params effLoc).groups env (collected env db params effLoc cs)
        (inAreaRankInput db params effLoc).ladder).flatten.Perm (collected env db params effLoc cs) := groups_perm _
    exact mergeSort_eq_of_perm hp fun a ha b hb =>
      untied_collected hids hk hcs a (hp.subset ha) b (hp.subset hb)
  rw [← hflat, picked, cut_self _ (Nat.zero_le k), Nat.sub_zero]
  rfl

/-- The ids of a ranking, in its order. -/
def rankedOrder (env : Platform) (l : List Collected) : List String :=
  (sort (rankOrder env) l).map fun a => a.branch.branch.id

theorem viewOrder_eq (hk : db.Keyed) :
    viewOrder env db params effLoc = rankedOrder env (reached env db params effLoc) := by
  have hlen : (sort (rankOrder env) (collected env db params effLoc (inView db params))).length ≤
      (inView db params).length := by
    rw [length_sort]
    have h : ((collected env db params effLoc (inView db params)).map fun a => a.branch.branch.id).length ≤
        (ids (inView db params)).length := (ids_collected_sublist _).length_le
    simpa [ids] using h
  rw [viewOrder, rankBranchesV3_tiles, List.map_map, picked_eq hids hk (List.Subset.refl _), List.take_of_length_le hlen]
  rfl

/-- What is shown are the first of the candidates. -/
theorem shownIds_eq (hk : db.Keyed) (h : viewportEffLoc env db params = some effLoc) :
    shownIds env db now params =
      (rankedOrder env (collected env db params effLoc (inAreaCandidates db params))).take params.limit := by
  have hall : ((inAreaRankInput db params effLoc).rankBranchesV3 env
      ((inAreaCandidates db params).map rankableInput)).tiles.map RankedBranchTile.id =
        (rankedOrder env (collected env db params effLoc (inAreaCandidates db params))).take params.limit := by
    have hpicked : (inAreaRankInput db params effLoc).picked env ((inAreaCandidates db params).map rankableInput) =
        (sort (rankOrder env) (collected env db params effLoc (inAreaCandidates db params))).take params.limit :=
      picked_eq hids hk inAreaCandidates_subset params.limit
    rw [rankBranchesV3_tiles, List.map_map, rankedOrder, ← List.map_take, ← hpicked]
    rfl
  rw [shownIds_ranked hk, inAreaRanked, h]
  dsimp only
  split_ifs with hempty
  · rw [List.isEmpty_iff.mp hempty, collected, collect]
    simp [rankedOrder, sort]
  · exact hall

/-- Of the branches in view, the ranking leaves out those that are not candidates. -/
theorem sort_candidates (hk : db.Keyed) :
    sort (rankOrder env) (collected env db params effLoc (inAreaCandidates db params)) =
      (sort (rankOrder env) (reached env db params effLoc)).filter fun a =>
        idsBefore db params a.branch.branch.id < CANDIDATE_CAP params.limit := by
  have hp : (collected env db params effLoc (inAreaCandidates db params)).Perm
      ((reached env db params effLoc).filter fun a =>
        idsBefore db params a.branch.branch.id < CANDIDATE_CAP params.limit) := by
    rw [reached, ← collected, ← collected_filter (inView db params) fun id =>
      idsBefore db params id < CANDIDATE_CAP params.limit]
    exact ((inAreaCandidates_perm hk).map _).filterMap _
  rw [sort, sort, mergeSort_eq_of_perm hp (untied_collected hids hk inAreaCandidates_subset)]
  exact mergeSort_filter (untied_collected hids hk (List.Subset.refl _))

/-- In a crowded view. -/
theorem shown_first_iff (hk : db.Keyed) (h : viewportEffLoc env db params = some effLoc) :
    ((shownIds env db now params).length = params.limit ∧
        shownIds env db now params = (viewOrder env db params effLoc).take params.limit) ↔
      params.limit ≤ (reached env db params effLoc).length ∧
        ∀ c ∈ reached env db params effLoc, before (rankOrder env) (reached env db params effLoc) c < params.limit →
          idsBefore db params c.branch.branch.id < CANDIDATE_CAP params.limit := by
  have hfront : ∀ a, a ∈ (sort (rankOrder env) (reached env db params effLoc)).take params.limit ↔
      a ∈ reached env db params effLoc ∧
        before (rankOrder env) (reached env db params effLoc) a < params.limit := fun a =>
    mem_take_mergeSort (untied_collected hids hk (List.Subset.refl _))
  have hlen : ((viewOrder env db params effLoc).take params.limit).length = params.limit ↔
      params.limit ≤ (reached env db params effLoc).length := by
    rw [viewOrder_eq hids hk, rankedOrder, List.length_take, List.length_map, length_sort]
    exact min_eq_left_iff
  have hsame : shownIds env db now params = (viewOrder env db params effLoc).take params.limit ↔
      ∀ a ∈ (sort (rankOrder env) (reached env db params effLoc)).take params.limit,
        idsBefore db params a.branch.branch.id < CANDIDATE_CAP params.limit := by
    rw [shownIds_eq hids hk h, viewOrder_eq hids hk, rankedOrder, rankedOrder, sort_candidates hids hk, ← List.map_take,
      ← List.map_take]
    have hmem : ∀ a ∈ sort (rankOrder env) (reached env db params effLoc), a ∈ reached env db params effLoc :=
      fun a ha => mem_sort.mp ha
    have hinj : ∀ a ∈ reached env db params effLoc, ∀ b ∈ reached env db params effLoc,
        a.branch.branch.id = b.branch.branch.id → a = b := fun _ ha _ hb => eq_of_collected_id hk ha hb
    constructor
    · intro heq
      have hlists := Paging.map_inj_on hinj
        (fun a ha => hmem a (List.mem_of_mem_filter (List.take_subset _ _ ha)))
        (fun a ha => hmem a (List.take_subset _ _ ha)) heq
      simpa using take_filter_eq_iff.mp hlists
    · intro hall
      rw [take_filter_eq_iff.mpr (by simpa using hall)]
  constructor
  · rintro ⟨hlimit, hshown⟩
    refine ⟨hlen.mp (hshown ▸ hlimit), fun c hc hbefore => hsame.mp hshown c ((hfront c).mpr ⟨hc, hbefore⟩)⟩
  · rintro ⟨hlimit, hall⟩
    have hshown := hsame.mpr fun a ha => hall a ((hfront a).mp ha).1 ((hfront a).mp ha).2
    exact ⟨hshown ▸ hlen.mpr hlimit, hshown⟩

/-- In a view that is not crowded. -/
theorem shown_all_iff (hk : db.Keyed) (h : viewportEffLoc env db params = some effLoc)
    (hall : (inView db params).length ≤ params.limit) : (shownIds env db now params).Perm (ids (inView db params)) ↔
      ∀ c ∈ inView db params, ((inAreaRankInput db params effLoc).rungOf env c.branch).isSome = true := by
  have hcap : (inView db params).length ≤ CANDIDATE_CAP params.limit := by
    rw [CANDIDATE_CAP]
    omega
  have hcands : (inAreaCandidates db params).Perm (inView db params) := by
    rw [inAreaCandidates, List.take_of_length_le (by rwa [length_sort])]
    exact sort_perm
  have hsub : ((reached env db params effLoc).map fun a => a.branch.branch.id).Sublist (ids (inView db params)) :=
    ids_collected_sublist _
  have hshown : (shownIds env db now params).Perm
      ((reached env db params effLoc).map fun a => a.branch.branch.id) := by
    have hperm : (rankedOrder env (collected env db params effLoc (inAreaCandidates db params))).Perm
        ((reached env db params effLoc).map fun a => a.branch.branch.id) :=
      (sort_perm.trans ((hcands.map _).filterMap _)).map _
    have hids' : (ids (inView db params)).length ≤ params.limit := (List.length_map _).trans_le hall
    have hlen := hperm.length_eq.trans_le (hsub.length_le.trans hids')
    rw [shownIds_eq hids hk h, List.take_of_length_le hlen]
    exact hperm
  constructor
  · intro hperm c hc
    have hmem := (hperm.symm.trans hshown).subset (List.mem_map_of_mem hc)
    obtain ⟨a, ha, hid⟩ := List.mem_map.mp hmem
    obtain ⟨d, hd, hrung, had⟩ := mem_collected.mp ha
    rw [had] at hid
    obtain rfl : d = c := eq_of_id hk hd hc hid
    rw [hrung]
    rfl
  · intro hreach
    refine hshown.trans ((List.perm_ext_iff_of_nodup ((nodup_inView hk).sublist hsub) (nodup_inView hk)).mpr fun id =>
      ⟨fun hid => hsub.subset hid, fun hid => ?_⟩)
    obtain ⟨c, hc, rfl⟩ := mem_ids.mp hid
    obtain ⟨rung, hrung⟩ := Option.isSome_iff_exists.mp (hreach c hc)
    refine List.mem_map.mpr ⟨⟨rankableInput c, rung, c.branch.metresFrom env effLoc.lat effLoc.lng⟩, ?_, rfl⟩
    exact mem_collected.mpr ⟨c, hc, hrung, rfl⟩

/-- The map shows what is in view exactly as far as the ranking reaches: from the middle of the box a location is found;
    where no more branches are in view than the limit, every one of them has a rung on the map's ladder; and where there
    are more, as many as the limit have, and those of them that rank first are among the first by id. -/
theorem inArea_showsView_iff (hk : db.Keyed) (hlimit : 0 < params.limit) :
    ShowsView env db now params ↔ InReach env db params := by
  have hstill : ∀ lat lng, shownIds env db now (params.seenFrom lat lng) = shownIds env db now params := by
    intro lat lng
    rw [shownIds_ranked hk, shownIds_ranked hk]
    rfl
  constructor
  · intro h
    rcases List.eq_nil_or_concat (inView db params) with hnil | ⟨cs, c, hview⟩
    · exact .inl hnil
    · have hpos : 0 < (inView db params).length := by simp [hview]
      cases heff : viewportEffLoc env db params with
      | none =>
        have hshown : shownIds env db now params = [] := shownIds_none hk heff
        rcases Nat.lt_or_ge params.limit (inView db params).length with hlt | hge
        · have hlen := (h.first hlt).1
          rw [hshown, List.length_nil] at hlen
          omega
        · have hlen := (h.all hge).length_eq
          rw [hshown, List.length_nil, ids, List.length_map] at hlen
          omega
      | some effLoc =>
        refine .inr ⟨effLoc, heff, fun hle => (shown_all_iff hids hk heff hle).mp (h.all hle), fun hlt => ?_⟩
        obtain ⟨hlen, horder⟩ := h.first hlt
        exact (shown_first_iff hids hk heff).mp ⟨hlen, horder effLoc heff⟩
  · intro h
    refine ⟨nodup_shownIds hk, fun hle => ?_, fun hlt => ?_, hstill⟩
    · rcases h with hnil | ⟨effLoc, heff, hreach, -⟩
      · cases heff : viewportEffLoc env db params with
        | none =>
          rw [shownIds_none hk heff, hnil]
          exact .refl _
        | some effLoc =>
          refine (shown_all_iff hids hk heff hle).mpr fun c hc => ?_
          rw [hnil] at hc
          cases hc
      · exact (shown_all_iff hids hk heff hle).mpr (hreach hle)
    · rcases h with hnil | ⟨effLoc, heff, -, hfront⟩
      · rw [hnil, List.length_nil] at hlt
        omega
      · obtain ⟨hlen, horder⟩ := (shown_first_iff hids hk heff).mpr (hfront hlt)
        refine ⟨hlen, fun e he => ?_⟩
        obtain rfl := Option.some.inj (heff.symm.trans he)
        exact horder

end

end

/-! ### The chippy on the map -/

/-- The map between two latitudes. -/
def mapBetween (minLat maxLat : ℚ) : InAreaParams where
  bbox := ⟨minLat, maxLat, -278 / 100, -78 / 100⟩
  categoryId := none
  lat := none
  lng := none
  userId := none
  limit := 20
  includeEmptyStateReason := false

/-- The middle of the map. -/
def middle (minLat maxLat : ℚ) : EffectiveLocation :=
  EffectiveLocation.of ((minLat + maxLat) / 2) ((-278 / 100 + -78 / 100) / 2) huddersfield

/-- Near Huddersfield the map is Huddersfield's, and elsewhere nobody's. -/
theorem viewportEffLoc_atSea (minLat maxLat : ℚ) : viewportEffLoc meridian atSea (mapBetween minLat maxLat) =
    if Locality.Near (middle minLat maxLat).lat (middle minLat maxLat).lng huddersfield then some (middle minLat maxLat)
    else none := by
  have hlocation : viewportEffLoc meridian atSea (mapBetween minLat maxLat) =
      (findNearestLocality meridian atSea (middle minLat maxLat).lat (middle minLat maxLat).lng).map
        (EffectiveLocation.of (middle minLat maxLat).lat (middle minLat maxLat).lng) := rfl
  have hlocalities : atSea.localities = [huddersfield] := rfl
  rw [hlocation, findNearestLocality, hlocalities, List.filter_cons, List.filter_nil]
  simp only [decide_eq_true_eq]
  split_ifs
  · rfl
  · rfl

/-- In town. -/
theorem inArea_showsView_town : ShowsView meridian atSea 0 (mapBetween (535 / 10) (537 / 10)) := by
  have hcollation : Std.TransCmp meridian.localeCompare :=
    inferInstanceAs (Std.TransCmp (compare : String → String → Ordering))
  refine (inArea_showsView_iff (fun _ _ _ _ h => Std.LawfulEqOrd.eq_of_compare (α := String) h) keyed_atSea
    (by decide)).mpr ?_
  have hmiddle := (viewportEffLoc_atSea (535 / 10) (537 / 10)).trans (if_pos (by decide +kernel))
  exact .inr ⟨_, hmiddle, fun _ => by decide +kernel, fun hlt => absurd hlt (by decide +kernel)⟩

/-- The branch at sea is in view and left out: from a middle near Huddersfield the ladder of the map does not go up to it,
    and from a middle near no locality nothing is ranked. -/
theorem sea_not_shown : ¬ ShowsView meridian atSea 0 (mapBetween (530 / 10) (547 / 10)) ∧
    ¬ ShowsView meridian atSea 0 (mapBetween (545 / 10) (547 / 10)) := by
  have hcollation : Std.TransCmp meridian.localeCompare :=
    inferInstanceAs (Std.TransCmp (compare : String → String → Ordering))
  constructor
  · intro h
    have hle : (inView atSea (mapBetween (530 / 10) (547 / 10))).length ≤ 20 := by decide +kernel
    have hmiddle := (viewportEffLoc_atSea (530 / 10) (547 / 10)).trans (if_pos (by decide +kernel))
    have hreach := (shown_all_iff (fun _ _ _ _ h => Std.LawfulEqOrd.eq_of_compare (α := String) h) keyed_atSea
      hmiddle hle).mp (h.all hle)
    exact absurd hreach (by decide +kernel)
  · intro h
    have hone : (ids (inView atSea (mapBetween (545 / 10) (547 / 10)))).length = 1 := by decide +kernel
    have hmiddle := (viewportEffLoc_atSea (545 / 10) (547 / 10)).trans (if_neg (by decide +kernel))
    have hall := (h.all (by decide +kernel)).length_eq
    rw [shownIds_none keyed_atSea hmiddle, hone] at hall
    cases hall

end Redeemo.Discovery
