import Mathlib.Data.List.Perm.Basic
import Redeemo.Discovery.Location
import Redeemo.Lib.Listing

/-! `rankBranchesV3`: the confirmed branches, rung by rung, until there are enough of them. -/

namespace Redeemo.Discovery
open Listing SupplyRung

def MILES_TO_METRES : ℚ := 1609344 / 1000

def MIN_REVIEW_COUNT_FOR_RATING_SORT : ℕ := 3

/-- Both are there, and the same. -/
def Matches (a b : Option String) : Prop := ∃ s ∈ truthy a, truthy b = some s

instance decidableMatches (a b : Option String) : Decidable (Matches a b) :=
  inferInstanceAs (Decidable (∃ s ∈ truthy a, truthy b = some s))

def classifyRung (env : Platform) (b : Branch) (effLoc : EffectiveLocation) (nearbyRadiusMiles : ℚ)
    (outgoingCatchmentTargetIds : List String) : Option SupplyRung :=
  if ¬ b.isActive then none
  else if ¬ b.isBranchLocationConfirmed then none
  else if ∃ d ∈ b.metresFrom env effLoc.lat effLoc.lng, d ≤ nearbyRadiusMiles * MILES_TO_METRES then some NEARBY
  else if ∃ id ∈ truthy b.localityId, id = effLoc.locality.id ∨ id ∈ outgoingCatchmentTargetIds then some CATCHMENT
  else if Matches b.postTown effLoc.locality.postTown then some POST_TOWN
  else if Matches b.ladDistrict (some effLoc.locality.ladDistrict) then some LAD
  else if Matches b.adminCounty effLoc.locality.adminCounty then some COUNTY
  else if Matches b.region effLoc.locality.region then some REGION
  else if Matches b.locationCountry (some effLoc.locality.country) then some COUNTRY
  else some NATIONAL

/-- A branch and the merchant it belongs to, with the figures that the ranking is given. -/
structure RankableBranch where
  branch : Branch
  businessName : String
  avgRating : Option ℚ
  reviewCount : ℕ

/-- An order asked for in place of the one that the intent calls for. Popularity is that of the merchants. -/
inductive RankSortBy
  | distance
  | quality
  | popularity (popularityMap : String → Option ℚ)

structure RankInput where
  effLoc : EffectiveLocation
  ladderProfile : LadderProfile
  outgoingCatchmentTargetIds : List String
  categoryIntent : CategoryIntent
  targetCount : ℕ
  hardCap : ℕ
  sortBy : Option RankSortBy := none

structure Collected where
  branch : RankableBranch
  rung : SupplyRung
  distance : Option ℚ

structure RankedBranchTile where
  id : String
  merchantId : String
  businessName : String
  supplyRung : SupplyRung
  proximityBand : ProximityBand
  distanceMetres : Option ℚ

structure RankBranchesResult where
  tiles : List RankedBranchTile
  rungCounts : SupplyRung → ℕ

/-- The counts are those of the tiles. -/
def RankBranchesResult.Counted (w : RankBranchesResult) : Prop :=
  ∀ r, w.rungCounts r = w.tiles.countP fun t => t.supplyRung = r

def EMPTY_RUNG_COUNTS : SupplyRung → ℕ := fun _ => 0

namespace RankInput
variable (env : Platform) (input : RankInput)

def maxRung : SupplyRung := getMaxRung input.ladderProfile input.effLoc.densityClass

/-- The rung of a branch, if the ladder goes up that far. -/
def rungOf (b : Branch) : Option SupplyRung :=
  (classifyRung env b input.effLoc (getNearbyRadiusMiles input.ladderProfile input.effLoc.densityClass)
    input.outgoingCatchmentTargetIds).filter fun r => rungOrdinal r ≤ rungOrdinal input.maxRung

def collect (branches : List RankableBranch) : List Collected :=
  branches.filterMap fun b => (input.rungOf env b.branch).map fun rung =>
    ⟨b, rung, b.branch.metresFrom env input.effLoc.lat input.effLoc.lng⟩

def compareDistance (a b : Collected) : Ordering :=
  ((compareMetres a.distance b.distance).then (env.localeCompare a.branch.businessName b.branch.businessName)).then
    (env.localeCompare a.branch.branch.id b.branch.branch.id)

def compareQuality (a b : Collected) : Ordering :=
  if MIN_REVIEW_COUNT_FOR_RATING_SORT ≤ a.branch.reviewCount then
    if MIN_REVIEW_COUNT_FOR_RATING_SORT ≤ b.branch.reviewCount then
      (compare (b.branch.avgRating.getD 0) (a.branch.avgRating.getD 0)).then (compareDistance env a b)
    else .lt
  else if MIN_REVIEW_COUNT_FOR_RATING_SORT ≤ b.branch.reviewCount then .gt
  else compareDistance env a b

def comparePopularity (popularityMap : String → Option ℚ) (a b : Collected) : Ordering :=
  (compare ((popularityMap b.branch.branch.merchantId).getD 0) ((popularityMap a.branch.branch.merchantId).getD 0)).then
    (compareDistance env a b)

/-- The comparator of a rung. -/
def comparator (rung : SupplyRung) : Collected → Collected → Ordering :=
  match input.sortBy with
  | some (.popularity popularityMap) => comparePopularity env popularityMap
  | some .distance => compareDistance env
  | some .quality => compareQuality env
  | none =>
    match input.categoryIntent with
    | .LOCAL => compareDistance env
    | .DESTINATION => compareQuality env
    | .MIXED => if rung = NEARBY then compareDistance env else compareQuality env

def sortWithinRung (rung : SupplyRung) (arr : List Collected) : List Collected := sort (input.comparator env rung) arr

def tileOf (c : Collected) : RankedBranchTile where
  id := c.branch.branch.id
  merchantId := c.branch.branch.merchantId
  businessName := c.branch.businessName
  supplyRung := c.rung
  proximityBand := getProximityBand c.rung input.effLoc.densityClass
  distanceMetres := c.distance

/-- The inner loop: the branches of a rung, up to the cap. -/
def pushAll (sorted : List Collected) (w : RankBranchesResult) : RankBranchesResult :=
  match sorted with
  | [] => w
  | c :: cs =>
    if input.hardCap ≤ w.tiles.length then w
    else pushAll cs ⟨w.tiles ++ [input.tileOf c],
      Function.update w.rungCounts c.rung (w.rungCounts c.rung + 1)⟩

/-- The outer loop. `NEARBY` comes first, and after it the flag stays set. -/
def walk (collected : List Collected) (rungs : List SupplyRung) (nearbyRungEvaluated : Bool) (w : RankBranchesResult) :
    RankBranchesResult :=
  match rungs with
  | [] => w
  | rung :: rungs =>
    if rungOrdinal input.maxRung < rungOrdinal rung then w
    else
      let w := input.pushAll (input.sortWithinRung env rung (collected.filter fun c => c.rung = rung)) w
      let nearbyRungEvaluated := nearbyRungEvaluated || rung = NEARBY
      if input.targetCount ≤ w.tiles.length ∧ nearbyRungEvaluated then w
      else if input.hardCap ≤ w.tiles.length then w
      else walk collected rungs nearbyRungEvaluated w

def rankBranchesV3 (branches : List RankableBranch) : RankBranchesResult :=
  input.walk env (input.collect env branches) RUNG_ORDER false ⟨[], EMPTY_RUNG_COUNTS⟩

/-! ### What the walk lists -/

/-- The rungs that the walk looks at. -/
def ladder : List SupplyRung := RUNG_ORDER.takeWhile fun r => rungOrdinal r ≤ rungOrdinal input.maxRung

/-- The branches of each of them, sorted. -/
def groups (collected : List Collected) (rungs : List SupplyRung) : List (List Collected) :=
  rungs.map fun r => input.sortWithinRung env r (collected.filter fun c => c.rung = r)

/-- The branches that become tiles. -/
def picked (branches : List RankableBranch) : List Collected :=
  cut input.targetCount input.hardCap 0 (input.groups env (input.collect env branches) input.ladder)

variable {env input}
variable {w : RankBranchesResult} {sorted collected : List Collected} {branches : List RankableBranch} {b : Branch}
  {c : Collected} {r : SupplyRung}

theorem mem_ladder : r ∈ input.ladder ↔ rungOrdinal r ≤ rungOrdinal input.maxRung := by
  rw [ladder]
  cases input.maxRung <;> cases r <;> decide

theorem nodup_ladder : input.ladder.Nodup := nodup_rungOrder.sublist (List.takeWhile_sublist _)

theorem sortWithinRung_perm (arr : List Collected) : (input.sortWithinRung env r arr).Perm arr := sort_perm

variable (input) in
theorem pushAll_tiles (sorted : List Collected) (w : RankBranchesResult) : (input.pushAll sorted w).tiles =
    w.tiles ++ (sorted.take (input.hardCap - w.tiles.length)).map input.tileOf := by
  induction sorted generalizing w with
  | nil => simp [pushAll]
  | cons c cs ih =>
    rw [pushAll]
    split_ifs with hfull
    · simp [Nat.sub_eq_zero_of_le hfull]
    · obtain ⟨k, hk⟩ : ∃ k, input.hardCap - w.tiles.length = k + 1 := ⟨input.hardCap - w.tiles.length - 1, by omega⟩
      rw [ih, hk, List.take_succ_cons, List.map_cons]
      dsimp only
      rw [List.length_append, List.length_singleton, List.append_assoc, List.singleton_append,
        show input.hardCap - (w.tiles.length + 1) = k by omega]

variable (input) in
theorem pushAll_counted (sorted : List Collected) (h : w.Counted) : (input.pushAll sorted w).Counted := by
  induction sorted generalizing w with
  | nil => exact h
  | cons c cs ih =>
    rw [pushAll]
    split_ifs with hfull
    · exact h
    · refine ih fun r => ?_
      by_cases hr : r = c.rung
      · subst hr
        simp [h c.rung, tileOf]
      · simp [h r, hr, tileOf, Ne.symm hr]

theorem walk_tiles (rungs : List SupplyRung) (nearbyRungEvaluated : Bool) (w : RankBranchesResult)
    (h : nearbyRungEvaluated = true ∨ rungs.head? = some NEARBY) :
    (input.walk env collected rungs nearbyRungEvaluated w).tiles = w.tiles ++
      (cut input.targetCount input.hardCap w.tiles.length (input.groups env collected
        (rungs.takeWhile fun r => rungOrdinal r ≤ rungOrdinal input.maxRung))).map input.tileOf := by
  induction rungs generalizing nearbyRungEvaluated w with
  | nil => simp [walk, groups, cut]
  | cons rung rungs ih =>
    have hflag : (nearbyRungEvaluated || decide (rung = NEARBY)) = true := by
      rcases h with h | h
      · rw [h, Bool.true_or]
      · rw [List.head?_cons, Option.some.injEq] at h
        simp [h]
    rw [walk]
    by_cases habove : rungOrdinal input.maxRung < rungOrdinal rung
    · simp [habove, groups, cut]
    · have hpushed := pushAll_tiles input
        (input.sortWithinRung env rung (collected.filter fun c => c.rung = rung)) w
      rw [if_neg habove, List.takeWhile_cons_of_pos (by simpa using habove), groups, List.map_cons, cut_cons]
      dsimp only
      rw [hflag]
      have hlen := congrArg List.length hpushed
      rw [List.length_append, List.length_map] at hlen
      rw [← hlen]
      generalize input.pushAll (input.sortWithinRung env rung (collected.filter fun c => c.rung = rung)) w = w' at *
      by_cases hstop : input.targetCount ≤ w'.tiles.length ∨ input.hardCap ≤ w'.tiles.length
      · rw [if_pos hstop, List.append_nil, ← hpushed]
        split_ifs with ht hc
        · rfl
        · rfl
        · exact absurd hstop (not_or.mpr ⟨fun h => ht ⟨h, rfl⟩, hc⟩)
      · obtain ⟨ht, hc⟩ := not_or.mp hstop
        rw [if_neg hstop, if_neg fun h => ht h.1, if_neg hc, ih _ _ (.inl rfl), hpushed, List.map_append,
          List.append_assoc]
        rfl

theorem walk_counted (rungs : List SupplyRung) (nearbyRungEvaluated : Bool) (h : w.Counted) :
    (input.walk env collected rungs nearbyRungEvaluated w).Counted := by
  induction rungs generalizing nearbyRungEvaluated w with
  | nil => exact h
  | cons rung rungs ih =>
    rw [walk]
    dsimp only
    have hpushed := pushAll_counted input
      (input.sortWithinRung env rung (collected.filter fun c => c.rung = rung)) h
    split_ifs
    · exact h
    · exact hpushed
    · exact hpushed
    · exact ih _ hpushed

theorem rankBranchesV3_tiles (branches : List RankableBranch) :
    (input.rankBranchesV3 env branches).tiles = (input.picked env branches).map input.tileOf := by
  rw [rankBranchesV3, walk_tiles _ _ _ (.inr rfl)]
  rfl

theorem rankBranchesV3_counted (branches : List RankableBranch) : (input.rankBranchesV3 env branches).Counted :=
  walk_counted _ _ fun _ => rfl

/-! ### Which branches they are -/

theorem mem_collect : c ∈ input.collect env branches ↔ ∃ b ∈ branches, input.rungOf env b.branch = some c.rung ∧
    c = ⟨b, c.rung, b.branch.metresFrom env input.effLoc.lat input.effLoc.lng⟩ := by
  rw [collect, List.mem_filterMap]
  constructor
  · rintro ⟨b, hb, h⟩
    obtain ⟨r, hr, rfl⟩ := Option.map_eq_some_iff.mp h
    exact ⟨b, hb, hr, rfl⟩
  · rintro ⟨b, hb, hr, hc⟩
    exact ⟨b, hb, by rw [hr, hc]; rfl⟩

theorem rungOf_mem_ladder (h : input.rungOf env b = some r) : r ∈ input.ladder := by
  have hr := (Option.filter_eq_some_iff.mp h).2
  exact mem_ladder.mpr (of_decide_eq_true hr)

theorem rung_mem_ladder (h : c ∈ input.collect env branches) : c.rung ∈ input.ladder := by
  obtain ⟨b, -, hr, -⟩ := mem_collect.mp h
  exact rungOf_mem_ladder hr

theorem flatten_groups_perm (collected : List Collected) {rungs : List SupplyRung} (hd : rungs.Nodup) :
    (input.groups env collected rungs).flatten.Perm (collected.filter fun c => c.rung ∈ rungs) := by
  refine .trans ?_ (flatMap_filter_perm Collected.rung hd collected)
  rw [groups, ← List.flatMap_def]
  exact .flatMap_left rungs fun r _ => sortWithinRung_perm _

theorem groups_perm (branches : List RankableBranch) :
    (input.groups env (input.collect env branches) input.ladder).flatten.Perm (input.collect env branches) := by
  refine (flatten_groups_perm _ nodup_ladder).trans (.of_eq (List.filter_eq_self.mpr fun c hc => ?_))
  exact decide_eq_true (rung_mem_ladder hc)

theorem picked_isPrefix (branches : List RankableBranch) :
    input.picked env branches <+: (input.groups env (input.collect env branches) input.ladder).flatten :=
  cut_isPrefix _ _ (Nat.zero_le _)

theorem mem_collect_of_mem_picked (h : c ∈ input.picked env branches) : c ∈ input.collect env branches :=
  (groups_perm branches).subset ((picked_isPrefix branches).subset h)

variable (env input) in
theorem collect_sublist (branches : List RankableBranch) :
    ((input.collect env branches).map Collected.branch).Sublist branches := by
  rw [collect, List.map_filterMap]
  induction branches with
  | nil => exact .slnil
  | cons b branches ih =>
    cases hr : input.rungOf env b.branch with
    | none => simpa [hr] using ih.cons _
    | some r => simpa [hr] using ih

theorem nodup_collect (hd : (branches.map fun b => b.branch.id).Nodup) :
    ((input.collect env branches).map fun c => c.branch.branch.id).Nodup := by
  have h := (collect_sublist env input branches).map fun b => b.branch.id
  rw [List.map_map] at h
  exact hd.sublist h

/-- A branch that is ranked is ranked once. -/
theorem nodup_picked (hd : (branches.map fun b => b.branch.id).Nodup) :
    ((input.picked env branches).map fun c => c.branch.branch.id).Nodup :=
  (((groups_perm branches).map _).nodup_iff.mpr (nodup_collect hd)).sublist ((picked_isPrefix branches).sublist.map _)

variable (env input branches r) in
/-- How many branches stand at a more specific rung. -/
def countBelow : ℕ := (input.collect env branches).countP fun c => rungOrdinal c.rung < rungOrdinal r

variable (env input branches r) in
def countAt : ℕ := (input.collect env branches).countP fun c => c.rung = r

variable (env input branches r) in
theorem length_sortWithinRung : (input.sortWithinRung env r ((input.collect env branches).filter fun c => c.rung = r)).length =
    input.countAt env branches r := by
  rw [(sortWithinRung_perm _).length_eq, countAt, List.countP_eq_length_filter]

/-- The rungs in front of one on the ladder are those below it. -/
theorem mem_before_iff {pre post : List SupplyRung} {r' : SupplyRung} (hl : input.ladder = pre ++ r :: post)
    (hmem : r' ∈ input.ladder) : r' ∈ pre ↔ rungOrdinal r' < rungOrdinal r := by
  have hsorted : (pre ++ r :: post).Pairwise fun a b => rungOrdinal a < rungOrdinal b :=
    hl ▸ pairwise_rungOrder.sublist (List.takeWhile_sublist _)
  obtain ⟨-, hpost, hacross⟩ := List.pairwise_append.mp hsorted
  constructor
  · intro hpre
    exact hacross r' hpre r List.mem_cons_self
  · intro hbelow
    rcases List.mem_append.mp (hl ▸ hmem) with hpre | hrest
    · exact hpre
    · rcases List.mem_cons.mp hrest with he | hafter
      · exact absurd hbelow (by rw [he]; exact lt_irrefl _)
      · exact absurd (List.rel_of_pairwise_cons hpost hafter) (lt_asymm hbelow)

theorem length_groups_before {pre post : List SupplyRung} (hl : input.ladder = pre ++ r :: post) :
    (input.groups env (input.collect env branches) pre).flatten.length = input.countBelow env branches r := by
  have hd : (pre ++ r :: post).Nodup := hl ▸ nodup_ladder
  rw [(flatten_groups_perm _ hd.of_append_left).length_eq, countBelow, List.countP_eq_length_filter]
  congr 1
  exact List.filter_congr fun c hc => decide_eq_decide.mpr (mem_before_iff hl (rung_mem_ladder hc))

/-- All the branches of a rung are ranked exactly if those before it stay below the target, and leave room for them
    under the cap. -/
theorem forall_mem_picked_iff (hd : (branches.map fun b => b.branch.id).Nodup) (ht : 0 < input.targetCount)
    (hat : 0 < input.countAt env branches r) :
    (∀ c ∈ input.collect env branches, c.rung = r → c ∈ input.picked env branches) ↔
      input.countBelow env branches r < input.targetCount ∧
        input.countBelow env branches r + input.countAt env branches r ≤ input.hardCap := by
  obtain ⟨c, hc, hr⟩ := List.countP_pos_iff.mp hat
  obtain ⟨pre, post, hl⟩ := List.append_of_mem (of_decide_eq_true hr ▸ rung_mem_ladder hc)
  have hgroups : input.groups env (input.collect env branches) input.ladder =
      input.groups env (input.collect env branches) pre ++
        input.sortWithinRung env r ((input.collect env branches).filter fun c => c.rung = r) ::
          input.groups env (input.collect env branches) post := by
    rw [hl, groups, List.map_append, List.map_cons]
    rfl
  have hflat : (input.groups env (input.collect env branches) input.ladder).flatten.Nodup :=
    (groups_perm branches).nodup_iff.mpr (nodup_collect hd).of_map
  rw [hgroups] at hflat
  have hlen := length_sortWithinRung env input branches r
  have hne : input.sortWithinRung env r ((input.collect env branches).filter fun c => c.rung = r) ≠ [] :=
    List.length_pos_iff.mp (hlen ▸ hat)
  have hiff := forall_mem_cut_iff hflat hne ht (Nat.zero_le input.hardCap)
  rw [Nat.zero_add, length_groups_before hl, hlen, ← hgroups] at hiff
  refine Iff.trans ⟨fun h c hc => ?_, fun h c hc hr => ?_⟩ hiff
  · obtain ⟨hc, hr⟩ := List.mem_filter.mp ((sortWithinRung_perm _).subset hc)
    exact h c hc (of_decide_eq_true hr)
  · exact h c ((sortWithinRung_perm _).symm.subset (List.mem_filter.mpr ⟨hc, decide_eq_true hr⟩))

end RankInput

end Redeemo.Discovery
