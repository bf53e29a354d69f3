import Redeemo.Discovery.Disclosure

/-! What a ranking owes to the rows it is given, and what to their order.

    `rankBranchesV3` compares down to the id: the order of the rows leaves no trace. `rankMerchantsV2` stops at the name or
    at the rating, and the order of the rows decides between merchants that tie. -/

namespace Redeemo.Discovery
open Listing RankInput Rows Sorting SupplyRung

/-! ### `rankBranchesV3` -/

section
variable {env : Platform} {input : RankInput} {branches branches' : List RankableBranch} {a b c : Collected}
  {rung : SupplyRung}

instance transCmp_compareDistance [Std.TransCmp env.localeCompare] : Std.TransCmp (compareDistance env) := by
  have hmetres : Std.TransCmp fun a b : Collected => compareMetres a.distance b.distance :=
    transCmp_on compareMetres Collected.distance
  have hname : Std.TransCmp fun a b : Collected => env.localeCompare a.branch.businessName b.branch.businessName :=
    transCmp_on env.localeCompare fun c : Collected => c.branch.businessName
  have hid : Std.TransCmp fun a b : Collected => env.localeCompare a.branch.branch.id b.branch.branch.id :=
    transCmp_on env.localeCompare fun c : Collected => c.branch.branch.id
  have hfirst : Std.TransCmp fun a b : Collected => (compareMetres a.distance b.distance).then
      (env.localeCompare a.branch.businessName b.branch.businessName) := transCmp_then
  exact transCmp_then

def isReviewed (c : Collected) : Bool := MIN_REVIEW_COUNT_FOR_RATING_SORT ≤ c.branch.reviewCount

theorem compareQuality_eq : compareQuality env = ahead isReviewed
    (fun a b => (compare (b.branch.avgRating.getD 0) (a.branch.avgRating.getD 0)).then (compareDistance env a b))
    (compareDistance env) := by
  funext a b
  simp [compareQuality, ahead, isReviewed]

theorem transCmp_comparator [Std.TransCmp env.localeCompare] (rung : SupplyRung) :
    Std.TransCmp (input.comparator env rung) := by
  have hrating : Std.TransCmp fun a b : Collected => compare (b.branch.avgRating.getD 0) (a.branch.avgRating.getD 0) :=
    transCmp_on (fun x y : ℚ => compare y x) fun c : Collected => c.branch.avgRating.getD 0
  have hquality : Std.TransCmp (compareQuality env) := by
    rw [compareQuality_eq]
    have hrated : Std.TransCmp fun a b : Collected =>
        (compare (b.branch.avgRating.getD 0) (a.branch.avgRating.getD 0)).then (compareDistance env a b) := transCmp_then
    exact transCmp_ahead
  have hpopularity : ∀ popularityMap, Std.TransCmp (comparePopularity env popularityMap) := by
    intro popularityMap
    have hcount : Std.TransCmp fun a b : Collected => compare ((popularityMap b.branch.branch.merchantId).getD 0)
        ((popularityMap a.branch.branch.merchantId).getD 0) :=
      transCmp_on (fun x y : ℚ => compare y x) fun c : Collected => (popularityMap c.branch.branch.merchantId).getD 0
    exact transCmp_then
  rw [comparator]
  split
  · exact hpopularity _
  · infer_instance
  · exact hquality
  · split
    · infer_instance
    · exact hquality
    · split_ifs
      · infer_instance
      · exact hquality

/-- Branches that tie have ids that the collation does not tell apart. -/
theorem compareDistance_eq (h : compareDistance env a b = .eq) :
    env.localeCompare a.branch.branch.id b.branch.branch.id = .eq := (Ordering.then_eq_eq.mp h).2

theorem comparator_eq (h : input.comparator env rung a b = .eq) :
    env.localeCompare a.branch.branch.id b.branch.branch.id = .eq := by
  have hquality : compareQuality env a b = .eq → env.localeCompare a.branch.branch.id b.branch.branch.id = .eq := by
    intro h
    rw [compareQuality] at h
    split_ifs at h
    · exact compareDistance_eq (Ordering.then_eq_eq.mp h).2
    · exact compareDistance_eq h
  rw [comparator] at h
  rcases hs : input.sortBy with _ | sortBy
  · rw [hs] at h
    cases hi : input.categoryIntent with
    | LOCAL => rw [hi] at h; exact compareDistance_eq h
    | DESTINATION => rw [hi] at h; exact hquality h
    | MIXED =>
      rw [hi] at h
      dsimp only at h
      split_ifs at h
      · exact compareDistance_eq h
      · exact hquality h
  · rw [hs] at h
    cases sortBy with
    | distance => exact compareDistance_eq h
    | quality => exact hquality h
    | popularity popularityMap => exact compareDistance_eq (Ordering.then_eq_eq.mp h).2

/-- The rows of a rung come out the same however they went in. -/
theorem groups_eq [Std.TransCmp env.localeCompare] (hd : (branches.map fun b => b.branch.id).Nodup)
    (hids : ∀ a ∈ branches, ∀ b ∈ branches, env.localeCompare a.branch.id b.branch.id = .eq → a.branch.id = b.branch.id)
    (h : branches.Perm branches') (rungs : List SupplyRung) :
    input.groups env (input.collect env branches) rungs = input.groups env (input.collect env branches') rungs := by
  refine List.map_congr_left fun rung _ => ?_
  have : Std.TransCmp (input.comparator env rung) := transCmp_comparator rung
  refine mergeSort_eq_of_perm ((h.filterMap _).filter _) fun a ha b hb htie => ?_
  have ha' := List.mem_of_mem_filter ha
  have hb' := List.mem_of_mem_filter hb
  obtain ⟨x, hx, -, hax⟩ := mem_collect.mp ha'
  obtain ⟨y, hy, -, hby⟩ := mem_collect.mp hb'
  have htie := comparator_eq htie
  rw [hax, hby] at htie
  have hsame := hids x hx y hy htie
  have hkeyed : Keyed (fun c : Collected => c.branch.branch.id) (input.collect env branches) := nodup_collect hd
  refine hkeyed.eq ha' hb' ?_
  rw [hax, hby]
  exact hsame

/-- The counts are those of the tiles, and need no comparison of their own. -/
theorem RankBranchesResult.Counted.eq : ∀ {w w' : RankBranchesResult}, w.Counted → w'.Counted → w.tiles = w'.tiles → w = w'
  | ⟨tiles, counts⟩, ⟨tiles', counts'⟩, h, h', htiles => by
    have hcounts : counts = counts' := funext fun r => (h r).trans ((congrArg _ htiles).trans (h' r).symm)
    rw [show tiles = tiles' from htiles, hcounts]

theorem rankBranchesV3_perm [Std.TransCmp env.localeCompare] (hd : (branches.map fun b => b.branch.id).Nodup)
    (hids : ∀ a ∈ branches, ∀ b ∈ branches, env.localeCompare a.branch.id b.branch.id = .eq → a.branch.id = b.branch.id)
    (h : branches.Perm branches') : input.rankBranchesV3 env branches' = input.rankBranchesV3 env branches := by
  have htiles : (input.rankBranchesV3 env branches').tiles = (input.rankBranchesV3 env branches).tiles := by
    rw [rankBranchesV3_tiles, rankBranchesV3_tiles, picked, picked, groups_eq hd hids h]
  exact (rankBranchesV3_counted branches').eq (rankBranchesV3_counted branches) htiles

theorem mem_rankBranchesV3 {t : RankedBranchTile} (h : t ∈ (input.rankBranchesV3 env branches).tiles) :
    ∃ b ∈ branches, t.id = b.branch.id ∧ input.rungOf env b.branch = some t.supplyRung := by
  rw [rankBranchesV3_tiles] at h
  obtain ⟨c, hc, rfl⟩ := List.mem_map.mp h
  obtain ⟨b, hb, hr, hcb⟩ := mem_collect.mp (mem_collect_of_mem_picked hc)
  exact ⟨b, hb, by rw [hcb]; rfl, hr⟩

theorem active_of_rungOf {b : Branch} (h : input.rungOf env b = some rung) : b.isActive = true := by
  have hr := (Option.filter_eq_some_iff.mp h).1
  rw [classifyRung] at hr
  split_ifs at hr with ha
  all_goals simpa using ha

theorem nodup_rankBranchesV3 (hd : (branches.map fun b => b.branch.id).Nodup) :
    ((input.rankBranchesV3 env branches).tiles.map RankedBranchTile.id).Nodup := by
  rw [rankBranchesV3_tiles, List.map_map]
  exact nodup_picked hd

/-- The tiles climb the ladder. -/
theorem pairwise_rankBranchesV3 (branches : List RankableBranch) :
    (input.rankBranchesV3 env branches).tiles.Pairwise fun s t => rungOrdinal s.supplyRung ≤ rungOrdinal t.supplyRung := by
  rw [rankBranchesV3_tiles, List.pairwise_map]
  refine List.Pairwise.sublist (picked_isPrefix branches).sublist (List.pairwise_flatten.mpr ⟨?_, ?_⟩)
  · intro group hgroup
    obtain ⟨rung, -, rfl⟩ := List.mem_map.mp hgroup
    have hrung : ∀ c ∈ input.sortWithinRung env rung ((input.collect env branches).filter fun c => c.rung = rung),
        c.rung = rung := by
      intro c hc
      exact of_decide_eq_true (List.mem_filter.mp ((sortWithinRung_perm _).subset hc)).2
    refine List.pairwise_of_forall_mem_list fun c hc d hd => ?_
    rw [tileOf, tileOf, hrung c hc, hrung d hd]
  · rw [groups, List.pairwise_map]
    have hladder : input.ladder.Pairwise fun a b => rungOrdinal a < rungOrdinal b :=
      pairwise_rungOrder.sublist (List.takeWhile_sublist _)
    refine hladder.imp ?_
    intro rung rung' hlt c hc d hd
    have hcr := of_decide_eq_true (List.mem_filter.mp ((sortWithinRung_perm _).subset hc)).2
    have hdr := of_decide_eq_true (List.mem_filter.mp ((sortWithinRung_perm _).subset hd)).2
    rw [tileOf, tileOf, hcr, hdr]
    exact Nat.le_of_lt hlt

/-- A larger target or cap lists more, after what is listed anyway. -/
theorem isPrefix_rankBranchesV3 (branches : List RankableBranch) {targetCount hardCap : ℕ}
    (ht : input.targetCount ≤ targetCount) (hc : input.hardCap ≤ hardCap) : (input.rankBranchesV3 env branches).tiles <+:
      (({ input with targetCount := targetCount, hardCap := hardCap } : RankInput).rankBranchesV3 env branches).tiles := by
  rw [rankBranchesV3_tiles, rankBranchesV3_tiles]
  exact (cut_isPrefix_cut ht hc _ (Nat.zero_le _)).map _

variable (env input branches) in
/-- What is said of the ranking of some branches. -/
structure BranchesRanked : Prop where
  unordered : ∀ branches', branches.Perm branches' → input.rankBranchesV3 env branches' = input.rankBranchesV3 env branches
  once : ((input.rankBranchesV3 env branches).tiles.map RankedBranchTile.id).Nodup
  discoverable : ∀ t ∈ (input.rankBranchesV3 env branches).tiles, ∃ b ∈ branches, b.branch.id = t.id ∧
    b.branch.isActive = true ∧ b.branch.isBranchLocationConfirmed = true ∧ input.rungOf env b.branch = some t.supplyRung
  climbing : (input.rankBranchesV3 env branches).tiles.Pairwise fun s t =>
    rungOrdinal s.supplyRung ≤ rungOrdinal t.supplyRung
  growing : ∀ targetCount hardCap, input.targetCount ≤ targetCount → input.hardCap ≤ hardCap →
    (input.rankBranchesV3 env branches).tiles <+:
      (({ input with targetCount := targetCount, hardCap := hardCap } : RankInput).rankBranchesV3 env branches).tiles
  counted : (input.rankBranchesV3 env branches).Counted

/-- As long as the collation tells the ids apart. -/
theorem rankBranchesV3_ranked [Std.TransCmp env.localeCompare] (hd : (branches.map fun b => b.branch.id).Nodup)
    (hids : ∀ a ∈ branches, ∀ b ∈ branches, env.localeCompare a.branch.id b.branch.id = .eq → a.branch.id = b.branch.id) :
    BranchesRanked env input branches where
  unordered _ h := rankBranchesV3_perm hd hids h
  once := nodup_rankBranchesV3 hd
  discoverable t ht := by
    obtain ⟨b, hb, hid, hr⟩ := mem_rankBranchesV3 ht
    exact ⟨b, hb, hid.symm, active_of_rungOf hr, Branch.confirmed_of_rungOf hr, hr⟩
  climbing := pairwise_rankBranchesV3 branches
  growing _ _ ht hc := isPrefix_rankBranchesV3 branches ht hc
  counted := rankBranchesV3_counted branches

end

/-- The branches at sea, from Huddersfield. -/
theorem rankBranchesV3_ranked_atSea : BranchesRanked meridian
    ⟨EffectiveLocation.of (536 / 10) (-178 / 100) huddersfield, .MIXED_NORMAL, [], .LOCAL, 50, 500, none⟩
    [⟨branchAt "town" (536 / 10), "Chippy", none, 0⟩, ⟨branchAt "sea" (546 / 10), "Chippy", none, 0⟩] :=
  have : Std.TransCmp meridian.localeCompare := inferInstanceAs (Std.TransCmp (compare : String → String → Ordering))
  rankBranchesV3_ranked (by decide) fun _ _ _ _ h => Std.LawfulEqOrd.eq_of_compare (α := String) h

/-! ### `rankMerchantsV2` -/

section
variable {env : Platform} {input : RankInput} {rows rows' : List MerchantForRanking} {e e' : MerchantEntry}
  {rung : SupplyRung}

def entries (env : Platform) (input : RankInput) (rows : List MerchantForRanking) : List MerchantEntry :=
  rows.filterMap (input.entryOf env)

/-- The entries of a rung, sorted. -/
def entryGroup (env : Platform) (input : RankInput) (entries : List MerchantEntry) (rung : SupplyRung) : List MerchantEntry :=
  input.sortEntries env rung (entries.filter fun e => e.bestRung = rung)

theorem stitch_tiles (entries : List MerchantEntry) (rungs : List SupplyRung) (nearbyRungEvaluated : Bool)
    (tiles : List RankedTile) (h : nearbyRungEvaluated = true ∨ rungs.head? = some NEARBY) :
    input.stitch env entries rungs nearbyRungEvaluated tiles = tiles ++ (cut input.targetCount input.hardCap tiles.length
      ((rungs.takeWhile fun r => rungOrdinal r ≤ rungOrdinal input.maxRung).map (entryGroup env input entries))).map
        (input.rankedTile env) := by
  induction rungs generalizing nearbyRungEvaluated tiles with
  | nil => simp [stitch, cut]
  | cons rung rungs ih =>
    have hflag : (nearbyRungEvaluated || decide (rung = NEARBY)) = true := by
      rcases h with h | h
      · rw [h, Bool.true_or]
      · rw [List.head?_cons, Option.some.injEq] at h
        simp [h]
    rw [stitch]
    by_cases habove : rungOrdinal input.maxRung < rungOrdinal rung
    · simp [habove, cut]
    · rw [if_neg habove, List.takeWhile_cons_of_pos (by simpa using habove), List.map_cons, cut_cons]
      dsimp only
      rw [hflag, show input.sortEntries env rung (entries.filter fun e => e.bestRung = rung) =
        entryGroup env input entries rung from rfl]
      have hlen : (tiles ++ ((entryGroup env input entries rung).take (input.hardCap - tiles.length)).map
          (input.rankedTile env)).length =
            tiles.length + ((entryGroup env input entries rung).take (input.hardCap - tiles.length)).length := by
        rw [List.length_append, List.length_map]
      rw [← hlen, List.map_append, ← List.append_assoc]
      generalize tiles ++ ((entryGroup env input entries rung).take (input.hardCap - tiles.length)).map
        (input.rankedTile env) = tiles' at *
      by_cases hstop : input.targetCount ≤ tiles'.length ∨ input.hardCap ≤ tiles'.length
      · rw [if_pos hstop, List.map_nil, List.append_nil]
        split_ifs with ht hc
        · rfl
        · rfl
        · exact absurd hstop (not_or.mpr ⟨fun h => ht ⟨h, rfl⟩, hc⟩)
      · obtain ⟨ht, hc⟩ := not_or.mp hstop
        rw [if_neg hstop, if_neg fun h => ht h.1, if_neg hc, ih _ _ (.inl rfl)]

theorem rankMerchantsV2_tiles (rows : List MerchantForRanking) : (input.rankMerchantsV2 env rows).tiles =
    (cut input.targetCount input.hardCap 0 (input.ladder.map (entryGroup env input (entries env input rows)))).map
      (input.rankedTile env) := by
  rw [rankMerchantsV2]
  dsimp only
  rw [stitch_tiles _ _ _ _ (.inr rfl)]
  rfl

/-! ### Comparing entries -/

instance transCmp_compareContext [Std.TransCmp env.localeCompare] : Std.TransCmp (input.compareContext env) := by
  have hrung : Std.TransCmp fun a b : Branch × SupplyRung => compare (rungOrdinal a.2) (rungOrdinal b.2) :=
    transCmp_on (fun x y : ℕ => compare x y) fun b : Branch × SupplyRung => rungOrdinal b.2
  have hmetres : Std.TransCmp fun a b : Branch × SupplyRung => compareMetres (input.metres env a.1) (input.metres env b.1) :=
    transCmp_on compareMetres fun b : Branch × SupplyRung => input.metres env b.1
  have hid : Std.TransCmp fun a b : Branch × SupplyRung => env.localeCompare a.1.id b.1.id :=
    transCmp_on env.localeCompare fun b : Branch × SupplyRung => b.1.id
  have hfirst : Std.TransCmp fun a b : Branch × SupplyRung => (compare (rungOrdinal a.2) (rungOrdinal b.2)).then
      (compareMetres (input.metres env a.1) (input.metres env b.1)) := transCmp_then
  exact transCmp_then

/-- Those whose distance is known come first, and the others all tie. -/
theorem distanceComparator_eq : input.distanceComparator env = ahead (fun e => (input.metres env e.contextBranch).isSome)
    (fun a b => (compareMetres (input.metres env a.contextBranch) (input.metres env b.contextBranch)).then
      (env.localeCompare a.row.merchant.businessName b.row.merchant.businessName)) fun _ _ => .eq := by
  funext a b
  cases ha : input.metres env a.contextBranch <;> cases hb : input.metres env b.contextBranch <;>
    simp [distanceComparator, ahead, ha, hb, compareMetres]

theorem transCmp_entryComparator [Std.TransCmp env.localeCompare] (rung : SupplyRung) :
    Std.TransCmp (input.entryComparator env rung) := by
  have hmetres : Std.TransCmp fun a b : MerchantEntry =>
      compareMetres (input.metres env a.contextBranch) (input.metres env b.contextBranch) :=
    transCmp_on compareMetres fun e : MerchantEntry => input.metres env e.contextBranch
  have hname : Std.TransCmp fun a b : MerchantEntry =>
      env.localeCompare a.row.merchant.businessName b.row.merchant.businessName :=
    transCmp_on env.localeCompare fun e : MerchantEntry => e.row.merchant.businessName
  have hnothing : Std.TransCmp fun _ _ : MerchantEntry => Ordering.eq := transCmp_eq
  have hnear : Std.TransCmp fun a b : MerchantEntry =>
      (compareMetres (input.metres env a.contextBranch) (input.metres env b.contextBranch)).then
        (env.localeCompare a.row.merchant.businessName b.row.merchant.businessName) := transCmp_then
  have hdistance : Std.TransCmp (input.distanceComparator env) := by
    rw [distanceComparator_eq]
    exact transCmp_ahead
  have hquality : Std.TransCmp fun a b : MerchantEntry => qualityComparator env a.row b.row := by
    have hrating : Std.TransCmp fun a b : MerchantEntry => compare (b.row.avgRating.getD 0) (a.row.avgRating.getD 0) :=
      transCmp_on (fun x y : ℚ => compare y x) fun e : MerchantEntry => e.row.avgRating.getD 0
    have heq : (fun a b : MerchantEntry => qualityComparator env a.row b.row) =
        ahead (fun e => decide (MIN_REVIEW_COUNT_FOR_RATING_SORT ≤ e.row.reviewCount))
          (fun a b => compare (b.row.avgRating.getD 0) (a.row.avgRating.getD 0))
          (fun a b => env.localeCompare a.row.merchant.businessName b.row.merchant.businessName) := by
      funext a b
      simp [qualityComparator, ahead]
    rw [heq]
    exact transCmp_ahead
  have hcases : input.entryComparator env rung = input.distanceComparator env ∨
      input.entryComparator env rung = fun a b => qualityComparator env a.row b.row := by
    cases hi : input.categoryIntent with
    | LOCAL => exact .inl (funext₂ fun a b => by rw [entryComparator, hi])
    | DESTINATION => exact .inr (funext₂ fun a b => by rw [entryComparator, hi])
    | MIXED =>
      by_cases hr : rung = NEARBY
      · exact .inl (funext₂ fun a b => by rw [entryComparator, hi]; exact if_pos hr)
      · exact .inr (funext₂ fun a b => by rw [entryComparator, hi]; exact if_neg hr)
  rcases hcases with h | h
  · rw [h]
    exact hdistance
  · rw [h]
    exact hquality

/-! ### The branch that stands for a merchant -/

theorem mem_entries : e ∈ entries env input rows ↔ ∃ row ∈ rows, input.entryOf env row = some e := List.mem_filterMap

theorem entryOf_eq {row : MerchantForRanking} (h : input.entryOf env row = some e) : e.row = row ∧
    input.selectContextBranch env (input.candidateBranches env row.branches) = some (e.contextBranch, e.bestRung) := by
  obtain ⟨b, hb, rfl⟩ := Option.map_eq_some_iff.mp h
  exact ⟨rfl, hb⟩

theorem RankInput.mem_candidateBranches {branches : List Branch} {b : Branch} :
    (b, rung) ∈ input.candidateBranches env branches ↔ b ∈ branches ∧ input.rungOf env b = some rung := by
  rw [RankInput.candidateBranches, List.mem_filterMap]
  constructor
  · rintro ⟨b', hb', hr⟩
    obtain ⟨r', hr', heq⟩ := Option.map_eq_some_iff.mp hr
    obtain ⟨rfl, rfl⟩ := Prod.mk.inj heq
    exact ⟨hb', hr'⟩
  · rintro ⟨hb, hr⟩
    exact ⟨b, hb, by rw [hr]; rfl⟩

/-- It has the most specific rung, and at that rung it is the nearest. -/
theorem entry_best [Std.TransCmp env.localeCompare] (h : e ∈ entries env input rows) :
    e.row ∈ rows ∧ e.contextBranch ∈ e.row.branches ∧ input.rungOf env e.contextBranch = some e.bestRung ∧
      ∀ b ∈ e.row.branches, ∀ r, input.rungOf env b = some r → rungOrdinal e.bestRung < rungOrdinal r ∨
        e.bestRung = r ∧ compareMetres (input.metres env e.contextBranch) (input.metres env b) ≠ .gt := by
  obtain ⟨row, hrow, he⟩ := mem_entries.mp h
  obtain ⟨rfl, hselect⟩ := entryOf_eq he
  rw [selectContextBranch] at hselect
  have hfirst := RankInput.mem_candidateBranches.mp (mem_sort.mp (List.mem_of_head? hselect))
  refine ⟨hrow, hfirst.1, hfirst.2, fun b hb r hr => ?_⟩
  have hsorted := pairwise_mergeSort (input.compareContext env) (input.candidateBranches env e.row.branches)
  have hin : (b, r) ∈ sort (input.compareContext env) (input.candidateBranches env e.row.branches) :=
    mem_sort.mpr (RankInput.mem_candidateBranches.mpr ⟨hb, hr⟩)
  have hle : input.compareContext env (e.contextBranch, e.bestRung) (b, r) ≠ .gt := by
    obtain ⟨l, hl⟩ : ∃ l, sort (input.compareContext env) (input.candidateBranches env e.row.branches) =
        (e.contextBranch, e.bestRung) :: l := by
      cases hs : sort (input.compareContext env) (input.candidateBranches env e.row.branches) with
      | nil => rw [hs] at hselect; cases hselect
      | cons x l =>
        rw [hs] at hselect
        exact ⟨l, by rw [Option.some.inj hselect]⟩
    rw [sort] at hl hin
    rw [hl] at hsorted hin
    rcases List.mem_cons.mp hin with heq | hin
    · have hself : input.compareContext env (b, r) (b, r) = .eq := Std.ReflCmp.compare_self
      rw [← heq, hself]
      decide
    · exact List.rel_of_pairwise_cons hsorted hin
  simp only [compareContext, ← Ordering.isLE_iff_ne_gt, Ordering.isLE_then_iff_and] at hle
  obtain ⟨⟨hrung, hmetres⟩, -⟩ := hle
  rcases Nat.lt_or_eq_of_le (Nat.isLE_compare.mp hrung) with hlt | heq
  · exact .inl hlt
  · refine .inr ⟨rungOrdinal_injective heq, Ordering.isLE_iff_ne_gt.mp (hmetres.resolve_left fun hlt => ?_)⟩
    exact absurd (Nat.compare_eq_lt.mp hlt) (by simp only [heq]; exact lt_irrefl _)

/-! ### Rows in another order -/

/-- The same row, with its branches in some order. -/
structure SameRow (row row' : MerchantForRanking) : Prop where
  merchant : row'.merchant = row.merchant
  branches : row.branches.Perm row'.branches
  avgRating : row'.avgRating = row.avgRating
  reviewCount : row'.reviewCount = row.reviewCount

/-- The same merchants in some order, each with its branches in some order. -/
def SameRows (rows rows' : List MerchantForRanking) : Prop :=
  ∃ arranged, rows.Perm arranged ∧ List.Forall₂ SameRow arranged rows'

variable (env) in
/-- Within a row, the collation tells the branches apart by their ids. -/
def DistinctIds (row : MerchantForRanking) : Prop :=
  ∀ a ∈ row.branches, ∀ b ∈ row.branches, env.localeCompare a.id b.id = .eq → a = b

theorem candidateBranches_perm {branches branches' : List Branch} (h : branches.Perm branches') :
    (input.candidateBranches env branches).Perm (input.candidateBranches env branches') := h.filterMap _

/-- The branches of a row compare down to the id, so that their order does not matter. -/
theorem selectContextBranch_eq [Std.TransCmp env.localeCompare] {row row' : MerchantForRanking} (hd : DistinctIds env row)
    (h : SameRow row row') : input.selectContextBranch env (input.candidateBranches env row'.branches) =
      input.selectContextBranch env (input.candidateBranches env row.branches) := by
  refine (congrArg List.head? (mergeSort_eq_of_perm (candidateBranches_perm h.branches) fun a ha b hb htie => ?_)).symm
  obtain ⟨ha, hra⟩ := RankInput.mem_candidateBranches.mp ha
  obtain ⟨hb, hrb⟩ := RankInput.mem_candidateBranches.mp hb
  have hbranch : a.1 = b.1 := hd a.1 ha b.1 hb (Ordering.then_eq_eq.mp htie).2
  rw [hbranch, hrb] at hra
  exact Prod.ext hbranch (Option.some.inj hra).symm

/-- An entry without its row's branches, which nothing reads any more. -/
def MerchantEntry.bare (e : MerchantEntry) : MerchantEntry := { e with row := { e.row with branches := [] } }

theorem alike_bare (e : MerchantEntry) : e.Alike e.bare := ⟨rfl, rfl, rfl, rfl, rfl⟩

theorem entryOf_bare [Std.TransCmp env.localeCompare] {row row' : MerchantForRanking} (hd : DistinctIds env row)
    (h : SameRow row row') :
    (input.entryOf env row').map MerchantEntry.bare = (input.entryOf env row).map MerchantEntry.bare := by
  rw [entryOf, entryOf, Option.map_map, Option.map_map, selectContextBranch_eq hd h]
  congr 1
  funext b
  simp only [Function.comp_apply, MerchantEntry.bare, h.merchant, h.avgRating, h.reviewCount]

theorem entries_bare_perm [Std.TransCmp env.localeCompare] (hd : ∀ row ∈ rows, DistinctIds env row)
    (h : SameRows rows rows') : ((entries env input rows).map MerchantEntry.bare).Perm
      ((entries env input rows').map MerchantEntry.bare) := by
  obtain ⟨arranged, hperm, hsame⟩ := h
  rw [entries, entries, List.map_filterMap, List.map_filterMap]
  refine (hperm.filterMap _).trans (.of_eq ?_)
  have hd' : ∀ row ∈ arranged, DistinctIds env row := fun row hrow => hd row (hperm.symm.subset hrow)
  clear hperm
  induction hsame with
  | nil => rfl
  | cons hrow _ ih =>
    have hrest := ih fun row hrow => hd' row (List.mem_cons_of_mem _ hrow)
    rw [List.filterMap_cons, List.filterMap_cons, entryOf_bare (hd' _ List.mem_cons_self) hrow, hrest]

/-! ### Merchants that tie -/

variable {es es' : List MerchantEntry}

/-- How many merchants stand at a more specific rung. -/
def entriesBelow (entries : List MerchantEntry) (rung : SupplyRung) : ℕ :=
  entries.countP fun e => rungOrdinal e.bestRung < rungOrdinal rung

variable (env input es) in
/-- The ranking comes to the rung of a merchant, and those before it leave room under the cap. -/
def Reached (e : MerchantEntry) : Prop :=
  (e.bestRung = NEARBY ∨ entriesBelow es e.bestRung < input.targetCount) ∧ entriesBelow es e.bestRung +
    before (input.entryComparator env e.bestRung) (es.filter fun e' => e'.bestRung = e.bestRung) e < input.hardCap

variable (env input es) in
/-- No merchant that is reached ties with another at its rung. -/
def Untied : Prop := ∀ e ∈ es, Reached env input es e → ∀ e' ∈ es, e'.bestRung = e.bestRung →
  input.entryComparator env e.bestRung e e' = .eq → e'.row.merchant.id = e.row.merchant.id

theorem bestRung_mem_ladder (h : e ∈ entries env input rows) : e.bestRung ∈ input.ladder := by
  obtain ⟨row, -, he⟩ := mem_entries.mp h
  obtain ⟨-, hselect⟩ := entryOf_eq he
  exact rungOf_mem_ladder (RankInput.mem_candidateBranches.mp (mem_sort.mp (List.mem_of_head? hselect))).2

theorem entryGroup_perm : (entryGroup env input es rung).Perm (es.filter fun e => e.bestRung = rung) := sort_perm

theorem flatMap_entryGroup_perm {rungs : List SupplyRung} (hd : rungs.Nodup) :
    (rungs.flatMap (entryGroup env input es)).Perm (es.filter fun e => e.bestRung ∈ rungs) :=
  .trans (.flatMap_left rungs fun _ _ => entryGroup_perm) (flatMap_filter_perm MerchantEntry.bestRung hd es)

theorem length_entryGroups_before (hes : ∀ e ∈ es, e.bestRung ∈ input.ladder) {pre post : List SupplyRung}
    (hl : input.ladder = pre ++ rung :: post) :
    (pre.flatMap (entryGroup env input es)).length = entriesBelow es rung := by
  have hd : (pre ++ rung :: post).Nodup := hl ▸ nodup_ladder
  rw [(flatMap_entryGroup_perm hd.of_append_left).length_eq, entriesBelow, List.countP_eq_length_filter]
  congr 1
  exact List.filter_congr fun e he => decide_eq_decide.mpr (mem_before_iff hl (hes e he))

theorem first_iff {pre post : List SupplyRung} (hl : input.ladder = pre ++ rung :: post) : pre = [] ↔ rung = NEARBY := by
  constructor
  · intro hpre
    have hnot : ¬ rungOrdinal NEARBY < rungOrdinal rung := fun hlt => by
      have hin := (mem_before_iff hl (mem_ladder.mpr (Nat.zero_le _))).mpr hlt
      rw [hpre] at hin
      cases hin
    exact rungOrdinal_injective (Nat.le_zero.mp (Nat.le_of_not_lt hnot))
  · rintro rfl
    refine List.eq_nil_iff_forall_not_mem.mpr fun r hr => ?_
    have hlt := (mem_before_iff hl (hl ▸ List.mem_append_left _ hr)).mp hr
    exact Nat.not_lt_zero _ hlt

/-- Where a merchant's tile stands if its row came first. -/
theorem getElem?_entryGroups [Std.TransCmp env.localeCompare] (hes : ∀ e ∈ es, e.bestRung ∈ input.ladder)
    (hperm : es.Perm (e :: es')) (h : Reached env input es e) :
    (cut input.targetCount input.hardCap 0 (input.ladder.map (entryGroup env input (e :: es'))))[entriesBelow es e.bestRung +
      before (input.entryComparator env e.bestRung) (es.filter fun e' => e'.bestRung = e.bestRung) e]? = some e := by
  have hcmp : Std.TransCmp (input.entryComparator env e.bestRung) := transCmp_entryComparator _
  have he : e ∈ es := hperm.symm.subset List.mem_cons_self
  obtain ⟨pre, post, hl⟩ := List.append_of_mem (hes e he)
  have hlen : (pre.flatMap (entryGroup env input (e :: es'))).length = entriesBelow es e.bestRung := by
    rw [length_entryGroups_before (fun e' he' => hes e' (hperm.symm.subset he')) hl]
    exact (hperm.countP_eq _).symm
  have hfilter : ((e :: es').filter fun e' => e'.bestRung = e.bestRung) =
      e :: es'.filter fun e' => e'.bestRung = e.bestRung := List.filter_cons_of_pos (decide_eq_true rfl)
  have hplace : (entryGroup env input (e :: es') e.bestRung)[before (input.entryComparator env e.bestRung)
      (es.filter fun e' => e'.bestRung = e.bestRung) e]? = some e := by
    rw [before_perm (hperm.filter _), entryGroup, sortEntries, hfilter]
    exact getElem?_mergeSort_cons e _
  obtain ⟨hturn, hcap⟩ := h
  rw [hl, ← hlen, getElem?_cut, hplace]
  · rw [Nat.zero_add, hlen, first_iff hl]
    exact hturn
  · exact (List.getElem?_eq_some_iff.mp hplace).1
  · rw [Nat.zero_add, hlen]
    exact hcap

/-- Nothing that the ranking compares or shows reads the branches of a row. -/
theorem rankMerchantsV2_eq (rows : List MerchantForRanking) : input.rankMerchantsV2 env rows =
    let tiles := (cut input.targetCount input.hardCap 0 (input.ladder.map
      (entryGroup env input ((entries env input rows).map MerchantEntry.bare)))).map (input.rankedTile env)
    ⟨tiles, fun rung => tiles.countP fun t => t.supplyRung = rung⟩ := by
  rw [rankMerchantsV2, ← stitch_map alike_bare]
  dsimp only
  rw [stitch_tiles _ _ _ _ (.inr rfl)]
  rfl

theorem before_bare (e : MerchantEntry) : before (input.entryComparator env rung)
    ((es.map MerchantEntry.bare).filter fun e' => e'.bestRung = rung) e.bare =
      before (input.entryComparator env rung) (es.filter fun e' => e'.bestRung = rung) e := by
  rw [before, before, filter_rung_map alike_bare, List.countP_map]
  refine List.countP_congr fun e' _ => ?_
  rw [Function.comp_apply, entryComparator_map alike_bare]

theorem entriesBelow_bare : entriesBelow (es.map MerchantEntry.bare) rung = entriesBelow es rung := by
  rw [entriesBelow, List.countP_map]
  rfl

/-- Where no merchants tie, two arrangements of the entries list the same. -/
theorem cut_entryGroup_eq [Std.TransCmp env.localeCompare] (hk : Keyed (fun e => e.row.merchant.id) es)
    (hes : ∀ e ∈ es, e.bestRung ∈ input.ladder) (hu : Untied env input es)
    (h : (es.map MerchantEntry.bare).Perm (es'.map MerchantEntry.bare)) :
    cut input.targetCount input.hardCap 0 (input.ladder.map (entryGroup env input (es.map MerchantEntry.bare))) =
      cut input.targetCount input.hardCap 0 (input.ladder.map (entryGroup env input (es'.map MerchantEntry.bare))) := by
  have hes' : ∀ e ∈ es.map MerchantEntry.bare, e.bestRung ∈ input.ladder := by
    intro b hb
    obtain ⟨e, he, rfl⟩ := List.mem_map.mp hb
    exact hes e he
  refine cut_congr (fun rung _ => ?_) (Nat.zero_le _) fun pre rung post hl hturn => ?_
  · rw [entryGroup_perm.length_eq, entryGroup_perm.length_eq, (h.filter _).length_eq]
  · have hcmp : Std.TransCmp (input.entryComparator env rung) := transCmp_entryComparator _
    rw [Nat.zero_add, length_entryGroups_before hes' hl, entriesBelow_bare, first_iff hl] at hturn
    rw [Nat.zero_add, length_entryGroups_before hes' hl, entriesBelow_bare]
    refine take_mergeSort_congr (h.filter _) fun a ha hlt b hb htie => ?_
    obtain ⟨ha, har⟩ := List.mem_filter.mp ha
    obtain ⟨hb, hbr⟩ := List.mem_filter.mp hb
    obtain ⟨e, he, rfl⟩ := List.mem_map.mp ha
    obtain ⟨e', he', rfl⟩ := List.mem_map.mp hb
    obtain rfl : e.bestRung = rung := of_decide_eq_true har
    rw [before_bare] at hlt
    rw [entryComparator_map alike_bare] at htie
    have hsame := hu e he ⟨hturn, Nat.lt_sub_iff_add_lt'.mp hlt⟩ e' he' (of_decide_eq_true hbr) htie
    rw [hk.eq he he' hsame.symm]

/-! ### What the ranking shows -/

theorem keyed_entries (hk : Keyed (fun row => row.merchant.id) rows) :
    Keyed (fun e => e.row.merchant.id) (entries env input rows) := by
  have hrows : ((entries env input rows).map MerchantEntry.row).Sublist rows := by
    rw [entries, List.map_filterMap]
    clear hk
    induction rows with
    | nil => exact .slnil
    | cons row rows ih =>
      cases he : input.entryOf env row with
      | none => simpa [he] using ih.cons _
      | some e => simpa [he, (entryOf_eq he).1] using ih
  have h : (((entries env input rows).map MerchantEntry.row).map fun row => row.merchant.id).Nodup :=
    List.Nodup.sublist (hrows.map _) hk
  rwa [List.map_map] at h

theorem mem_rankMerchantsV2 {t : RankedTile} (h : t ∈ (input.rankMerchantsV2 env rows).tiles) :
    ∃ e ∈ entries env input rows, t = input.rankedTile env e := by
  rw [rankMerchantsV2_tiles] at h
  obtain ⟨e, he, rfl⟩ := List.mem_map.mp h
  have hflat := (cut_isPrefix input.targetCount (input.ladder.map (entryGroup env input (entries env input rows)))
    (Nat.zero_le _)).subset he
  rw [← List.flatMap_def] at hflat
  exact ⟨e, (List.mem_filter.mp ((flatMap_entryGroup_perm nodup_ladder).subset hflat)).1, rfl⟩

theorem nodup_rankMerchantsV2 (hk : Keyed (fun row => row.merchant.id) rows) :
    ((input.rankMerchantsV2 env rows).tiles.map RankedTile.merchantId).Nodup := by
  rw [rankMerchantsV2_tiles, List.map_map]
  have hpre := (cut_isPrefix input.targetCount (input.ladder.map (entryGroup env input (entries env input rows)))
    (Nat.zero_le input.hardCap)).sublist.map fun e => e.row.merchant.id
  refine List.Nodup.sublist hpre ?_
  rw [← List.flatMap_def, ((flatMap_entryGroup_perm nodup_ladder).map _).nodup_iff]
  exact (keyed_entries hk).sublist (List.filter_sublist.map _)

variable (env input) in
/-- The tile shows a branch of its merchant that no other has a more specific rung than, nor lies nearer at the same. -/
def ShowsBest (row : MerchantForRanking) (t : RankedTile) : Prop :=
  ∃ b ∈ row.branches, b.id = t.contextBranchId ∧ input.rungOf env b = some t.supplyRung ∧
    t.distanceMetres = input.metres env b ∧ ∀ b' ∈ row.branches, ∀ r, input.rungOf env b' = some r →
      rungOrdinal t.supplyRung < rungOrdinal r ∨
        t.supplyRung = r ∧ compareMetres t.distanceMetres (input.metres env b') ≠ .gt

variable (env input rows) in
/-- What is said of the ranking of some merchants. -/
structure MerchantsRanked : Prop where
  once : ((input.rankMerchantsV2 env rows).tiles.map RankedTile.merchantId).Nodup
  best : ∀ t ∈ (input.rankMerchantsV2 env rows).tiles, ∃ row ∈ rows, row.merchant.id = t.merchantId ∧ ShowsBest env input row t
  unordered : ∀ rows', SameRows rows rows' → input.rankMerchantsV2 env rows' = input.rankMerchantsV2 env rows

theorem rankMerchantsV2_best [Std.TransCmp env.localeCompare] {t : RankedTile}
    (h : t ∈ (input.rankMerchantsV2 env rows).tiles) :
    ∃ row ∈ rows, row.merchant.id = t.merchantId ∧ ShowsBest env input row t := by
  obtain ⟨e, he, rfl⟩ := mem_rankMerchantsV2 h
  obtain ⟨hrow, hb, hr, hbest⟩ := entry_best he
  exact ⟨e.row, hrow, rfl, e.contextBranch, hb, rfl, hr, rfl, hbest⟩

theorem rankMerchantsV2_unordered [Std.TransCmp env.localeCompare] (hk : Keyed (fun row => row.merchant.id) rows)
    (hd : ∀ row ∈ rows, DistinctIds env row) (hu : Untied env input (entries env input rows)) (h : SameRows rows rows') :
    input.rankMerchantsV2 env rows' = input.rankMerchantsV2 env rows := by
  rw [rankMerchantsV2_eq, rankMerchantsV2_eq,
    cut_entryGroup_eq (keyed_entries hk) (fun e he => bestRung_mem_ladder he) hu (entries_bare_perm hd h)]

theorem sameRow_refl (row : MerchantForRanking) : SameRow row row := ⟨rfl, .refl _, rfl, rfl⟩

theorem sameRows_of_perm (h : rows.Perm rows') : SameRows rows rows' :=
  ⟨rows', h, List.forall₂_same.mpr fun row _ => sameRow_refl row⟩

/-- The tile of a merchant whose row comes first. -/
theorem getElem?_rankMerchantsV2 [Std.TransCmp env.localeCompare] (he : e ∈ entries env input rows)
    (h : Reached env input (entries env input rows) e)
    (hu : ∀ rows', SameRows rows rows' → input.rankMerchantsV2 env rows' = input.rankMerchantsV2 env rows) :
    (input.rankMerchantsV2 env rows).tiles[entriesBelow (entries env input rows) e.bestRung +
      before (input.entryComparator env e.bestRung) ((entries env input rows).filter fun e' => e'.bestRung = e.bestRung) e]? =
        some (input.rankedTile env e) := by
  obtain ⟨row, hrow, hentry⟩ := mem_entries.mp he
  obtain ⟨front, back, rfl⟩ := List.append_of_mem hrow
  have hperm : (front ++ row :: back).Perm (row :: (front ++ back)) := List.perm_middle
  have hcons : entries env input (row :: (front ++ back)) = e :: entries env input (front ++ back) :=
    List.filterMap_cons_some hentry
  have hentries : (entries env input (front ++ row :: back)).Perm (e :: entries env input (front ++ back)) :=
    (hperm.filterMap _).trans (.of_eq hcons)
  have hplace := getElem?_entryGroups (fun e he => bestRung_mem_ladder he) hentries h
  rw [← hu _ (sameRows_of_perm hperm), rankMerchantsV2_tiles, List.getElem?_map, hcons, hplace]
  rfl

/-- Merchants that tie would change places with their rows. -/
theorem untied_of_unordered [Std.TransCmp env.localeCompare]
    (h : ∀ rows', SameRows rows rows' → input.rankMerchantsV2 env rows' = input.rankMerchantsV2 env rows) :
    Untied env input (entries env input rows) := by
  intro e he hreached e' he' hrung htie
  have hcmp : Std.TransCmp (input.entryComparator env e.bestRung) := transCmp_entryComparator _
  have hsame : before (input.entryComparator env e.bestRung)
      ((entries env input rows).filter fun x => x.bestRung = e.bestRung) e' =
        before (input.entryComparator env e.bestRung)
          ((entries env input rows).filter fun x => x.bestRung = e.bestRung) e := by
    refine List.countP_congr fun x _ => ?_
    rw [Std.TransCmp.congr_right htie]
  have hplace := getElem?_rankMerchantsV2 he hreached h
  have hreached' : Reached env input (entries env input rows) e' := by
    rw [Reached, hrung, hsame]
    exact hreached
  have hplace' := getElem?_rankMerchantsV2 he' hreached' h
  rw [hrung, hsame, hplace] at hplace'
  exact (congrArg RankedTile.merchantId (Option.some.inj hplace')).symm

/-- The order of the rows leaves no trace exactly if no merchant that is reached ties with another. -/
theorem rankMerchantsV2_ranked_iff [Std.TransCmp env.localeCompare] (hk : Keyed (fun row => row.merchant.id) rows)
    (hd : ∀ row ∈ rows, DistinctIds env row) :
    MerchantsRanked env input rows ↔ Untied env input (entries env input rows) := by
  constructor
  · intro h
    exact untied_of_unordered h.unordered
  · intro h
    exact ⟨nodup_rankMerchantsV2 hk, fun t ht => rankMerchantsV2_best ht, fun rows' => rankMerchantsV2_unordered hk hd h⟩

end

/-- A chippy in town with five reviews. -/
def ratedChippy (id : String) (avgRating : ℚ) : MerchantForRanking :=
  ⟨{ chippy with id := id }, [branchAt id (536 / 10)], some avgRating, 5⟩

/-- From Huddersfield, by quality. -/
def byQuality : RankInput :=
  ⟨EffectiveLocation.of (536 / 10) (-178 / 100) huddersfield, .MIXED_NORMAL, [], .DESTINATION, 50, 500, none⟩

theorem rankMerchantsV2_ranked_iff_ratedChippies :
    MerchantsRanked meridian byQuality [ratedChippy "high" 5, ratedChippy "low" 4] ↔
      Untied meridian byQuality (entries meridian byQuality [ratedChippy "high" 5, ratedChippy "low" 4]) := by
  have : Std.TransCmp meridian.localeCompare := inferInstanceAs (Std.TransCmp (compare : String → String → Ordering))
  refine rankMerchantsV2_ranked_iff (by decide) fun row hrow a ha b hb _ => ?_
  have hone : ∀ row ∈ [ratedChippy "high" 5, ratedChippy "low" 4], ∃ b, row.branches = [b] := by
    intro row hrow
    rcases List.mem_pair.mp hrow with rfl | rfl
    · exact ⟨_, rfl⟩
    · exact ⟨_, rfl⟩
  obtain ⟨branch, hbranches⟩ := hone row hrow
  rw [hbranches] at ha hb
  rw [List.mem_singleton.mp ha, List.mem_singleton.mp hb]

theorem entryOf_ratedChippy (id : String) (avgRating : ℚ) : byQuality.entryOf meridian (ratedChippy id avgRating) =
    some ⟨ratedChippy id avgRating, branchAt id (536 / 10), NEARBY⟩ := by
  have hrung : byQuality.rungOf meridian (branchAt "" (536 / 10)) = some NEARBY := by decide +kernel
  have hcandidates : byQuality.candidateBranches meridian [branchAt id (536 / 10)] = [(branchAt id (536 / 10), NEARBY)] :=
    List.filterMap_cons_some (congrArg (Option.map _) hrung)
  have hselect : byQuality.selectContextBranch meridian [(branchAt id (536 / 10), NEARBY)] =
      some (branchAt id (536 / 10), NEARBY) := by
    rw [selectContextBranch, sort, List.mergeSort_singleton, List.head?_cons]
  rw [entryOf, ratedChippy, hcandidates, hselect]
  rfl

/-- With the same rating, the row that comes first is listed first. -/
theorem equal_ratings_keep_row_order :
    ¬ MerchantsRanked meridian byQuality [ratedChippy "here" 4, ratedChippy "there" 4] := by
  intro h
  have : Std.TransCmp meridian.localeCompare := inferInstanceAs (Std.TransCmp (compare : String → String → Ordering))
  have hentries : entries meridian byQuality [ratedChippy "here" 4, ratedChippy "there" 4] =
      [⟨ratedChippy "here" 4, branchAt "here" (536 / 10), NEARBY⟩,
        ⟨ratedChippy "there" 4, branchAt "there" (536 / 10), NEARBY⟩] := by
    rw [entries, List.filterMap_cons_some (entryOf_ratedChippy _ _), List.filterMap_cons_some (entryOf_ratedChippy _ _),
      List.filterMap_nil]
  have huntied := untied_of_unordered h.unordered
  rw [hentries] at huntied
  have hsame := huntied _ List.mem_cons_self ⟨.inl rfl, by decide +kernel⟩ _ (List.mem_cons_of_mem _ List.mem_cons_self) rfl
    (by decide +kernel)
  exact absurd hsame (by decide)

end Redeemo.Discovery
