import Redeemo.Discovery.LosesNothing

/-! Which scopes a search honours.

    A rung that the scope keeps is shown in full as long as the rungs before it stay below the ranking's target, and all
    of them together within its cap. The other laws of the scope hold of every search: nothing beyond it is shown while it
    has supply, it widens until it has some, and a wider scope shows more. -/

namespace Redeemo.Discovery
open Listing RankInput SupplyRung

/-! ### The cascade -/

/-- How far a scope reaches. -/
inductive Reach
  | nearby | city | platform
  deriving DecidableEq

namespace Reach

def tiers : Reach → List SupplyTier
  | nearby => [.NEARBY]
  | city => [.NEARBY, .CITY]
  | platform => [.NEARBY, .CITY, .DISTANT]

def ofRequest (requested : Option Scope) (intent : CategoryIntent) : Reach :=
  match requested with
  | some .nearby => nearby
  | some .city => city
  | some .region => city
  | some .platform => platform
  | none => if intent = .DESTINATION then platform else city

/-- A reach without supply gives way to the next. -/
def widen (supply : List SupplyTier → ℕ) : Reach → Reach
  | nearby => if supply nearby.tiers ≠ 0 then nearby else if supply city.tiers ≠ 0 then city else platform
  | city => if supply city.tiers ≠ 0 then city else platform
  | platform => platform

end Reach

section
variable {env : Platform} {db : Database} {now : ℤ} {params : SearchParams} {candidates : List Candidate} {c : Candidate}
  {effLoc : EffectiveLocation} {r : SupplyRung} {supply : List SupplyTier → ℕ} {reach : Reach}

theorem initialTiers_eq (requested : Option Scope) (intent : CategoryIntent) :
    initialTiers requested intent = (Reach.ofRequest requested intent).tiers := by
  rcases requested with _ | requested
  · by_cases h : intent = .DESTINATION
    · simp [initialTiers, Reach.ofRequest, Reach.tiers, h]
    · simp [initialTiers, Reach.ofRequest, Reach.tiers, h]
  · cases requested <;> rfl

theorem retainedTiers_eq (requested : Option Scope) (intent : CategoryIntent) (supply : List SupplyTier → ℕ) :
    retainedTiers requested intent supply = (Reach.widen supply (Reach.ofRequest requested intent)).tiers := by
  rw [retainedTiers, initialTiers_eq]
  cases Reach.ofRequest requested intent with
  | nearby =>
    by_cases hn : supply Reach.nearby.tiers = 0
    · by_cases hc : supply Reach.city.tiers = 0
      · simp_all [expand, Reach.tiers, Reach.widen]
      · simp_all [expand, Reach.tiers, Reach.widen]
    · simp_all [expand, Reach.tiers, Reach.widen]
  | city =>
    by_cases hc : supply Reach.city.tiers = 0
    · simp_all [expand, Reach.tiers, Reach.widen]
    · simp_all [expand, Reach.tiers, Reach.widen]
  | platform => simp [expand, Reach.tiers, Reach.widen]

/-- Short of the platform, a reach that is widened no further has supply. -/
theorem supply_of_widen (h : Reach.widen supply reach ≠ .platform) : supply (Reach.widen supply reach).tiers ≠ 0 := by
  cases reach with
  | nearby =>
    rw [Reach.widen] at h ⊢
    split_ifs at h ⊢ with hn hc
    · exact hn
    · exact hc
    · exact absurd rfl h
  | city =>
    rw [Reach.widen] at h ⊢
    split_ifs at h ⊢ with hc
    · exact hc
    · exact absurd rfl h
  | platform => exact absurd rfl h

theorem widen_nearby_subset :
    (Reach.widen supply .nearby).tiers ⊆ (Reach.widen supply .city).tiers := by
  rw [Reach.widen, Reach.widen]
  split_ifs <;> decide

theorem tiers_subset_platform (reach : Reach) : reach.tiers ⊆ Reach.platform.tiers := by
  cases reach <;> decide

theorem mem_tiersToRungs {tiers : List SupplyTier} : r ∈ tiersToRungs tiers ↔ mapRungToLegacyTier r ∈ tiers := by
  rw [tiersToRungs, mapRungToLegacyTier]
  by_cases hn : SupplyTier.NEARBY ∈ tiers <;> by_cases hc : SupplyTier.CITY ∈ tiers <;>
    by_cases hd : SupplyTier.DISTANT ∈ tiers <;> cases r <;>
    simp [hn, hc, hd, NEARBY_TIER_RUNGS, CITY_TIER_RUNGS, DISTANT_TIER_RUNGS]

theorem rungSupply_eq_zero {tiers : List SupplyTier} {counts : SupplyRung → ℕ} :
    rungSupplyForTiers tiers counts = 0 ↔ ∀ r ∈ tiersToRungs tiers, counts r = 0 := by
  rw [rungSupplyForTiers]
  generalize tiersToRungs tiers = rungs
  have hfold : ∀ n, rungs.foldl (fun sum r => sum + counts r) n = 0 ↔ n = 0 ∧ ∀ r ∈ rungs, counts r = 0 := by
    induction rungs with
    | nil => simp
    | cons r rungs ih =>
      intro n
      rw [List.foldl_cons, ih, List.forall_mem_cons, Nat.add_eq_zero_iff, and_assoc]
  rw [hfold]
  simp

/-- The tiers of a reach go up the ladder without a gap. -/
theorem mem_tiersToRungs_of_le {r' : SupplyRung} (h : r ∈ tiersToRungs reach.tiers)
    (hle : rungOrdinal r' ≤ rungOrdinal r) : r' ∈ tiersToRungs reach.tiers := by
  rw [mem_tiersToRungs] at h ⊢
  revert h hle
  cases reach <;> cases r <;> cases r' <;> decide

/-! ### Supply -/

variable {input : RankInput} {branches : List RankableBranch} {col : Collected}

theorem countAt_pos_iff : 0 < input.countAt env branches r ↔ ∃ c ∈ input.collect env branches, c.rung = r := by
  rw [countAt, List.countP_pos_iff]
  exact exists_congr fun c => and_congr_right fun _ => decide_eq_true_iff

theorem rungCounts_pos_iff : 0 < (input.rankBranchesV3 env branches).rungCounts r ↔
    ∃ c ∈ input.picked env branches, c.rung = r := by
  rw [rankBranchesV3_counted, rankBranchesV3_tiles, List.countP_map, List.countP_pos_iff]
  exact exists_congr fun c => and_congr_right fun _ => decide_eq_true_iff

/-- At the first rung with branches, one is ranked. -/
theorem exists_picked_of_first (ht : 0 < input.targetCount) (hc : 0 < input.hardCap)
    (hat : 0 < input.countAt env branches r) (hbelow : input.countBelow env branches r = 0) :
    ∃ c ∈ input.picked env branches, c.rung = r := by
  obtain ⟨c, hcol, rfl⟩ := countAt_pos_iff.mp hat
  obtain ⟨pre, post, hl⟩ := List.append_of_mem (rung_mem_ladder hcol)
  have hlen : (input.groups env (input.collect env branches) pre).flatten.length = input.countBelow env branches c.rung :=
    length_groups_before hl
  have hsorted := length_sortWithinRung env input branches c.rung
  rw [hbelow] at hlen
  rw [picked, hl, groups, List.map_append, List.map_cons, ← groups, cut_append (by omega) (by omega), hlen,
    List.length_eq_zero_iff.mp hlen, List.nil_append, cut_cons]
  cases hg : input.sortWithinRung env c.rung ((input.collect env branches).filter fun c' => c'.rung = c.rung) with
  | nil =>
    rw [hg] at hsorted
    exact absurd hsorted hat.ne
  | cons first rest =>
    have hfirst : first ∈ input.sortWithinRung env c.rung
        ((input.collect env branches).filter fun c' => c'.rung = c.rung) := hg ▸ List.mem_cons_self
    refine ⟨first, List.mem_append_left _ ?_, ?_⟩
    · obtain ⟨k, hk⟩ := Nat.exists_eq_succ_of_ne_zero hc.ne'
      rw [hk]
      exact List.mem_cons_self
    · exact of_decide_eq_true (List.mem_filter.mp ((sortWithinRung_perm _).subset hfirst)).2

variable (env branches) in
/-- Tiers that go up the ladder without a gap have ranked supply if they have any. -/
theorem rungSupply_ranked (ht : 0 < input.targetCount) (hc : 0 < input.hardCap) (reach : Reach) :
    rungSupplyForTiers reach.tiers (input.rankBranchesV3 env branches).rungCounts = 0 ↔
      rungSupplyForTiers reach.tiers (input.countAt env branches) = 0 := by
  rw [rungSupply_eq_zero, rungSupply_eq_zero]
  constructor
  · intro h
    -- By induction on the rung: those below it are empty, so that it would be ranked first.
    have hstep : ∀ n, ∀ r ∈ tiersToRungs reach.tiers, rungOrdinal r = n → input.countAt env branches r = 0 := by
      intro n
      induction n using Nat.strong_induction_on with
      | _ n ih =>
        intro r hr hn
        by_contra hat
        have hbelow : input.countBelow env branches r = 0 := by
          rw [countBelow, List.countP_eq_zero]
          intro c hcol hlt
          have hlt := of_decide_eq_true hlt
          have hempty := ih _ (hn ▸ hlt) c.rung (mem_tiersToRungs_of_le hr hlt.le) rfl
          exact (countAt_pos_iff.mpr ⟨c, hcol, rfl⟩).ne' hempty
        have hpicked := exists_picked_of_first ht hc (Nat.pos_of_ne_zero hat) hbelow
        exact (rungCounts_pos_iff.mpr hpicked).ne' (h r hr)
    exact fun r hr => hstep _ r hr rfl
  · intro h r hr
    by_contra hranked
    obtain ⟨c, hpicked, hrung⟩ := rungCounts_pos_iff.mp (Nat.pos_of_ne_zero hranked)
    exact (countAt_pos_iff.mpr ⟨c, mem_collect_of_mem_picked hpicked, hrung⟩).ne' (h r hr)

/-- The cascade reads the same from the ranked branches as from all. -/
theorem retainedTiers_ranked (ht : 0 < input.targetCount) (hc : 0 < input.hardCap) (requested : Option Scope)
    (intent : CategoryIntent) :
    retainedTiers requested intent (fun tiers => rungSupplyForTiers tiers (input.rankBranchesV3 env branches).rungCounts) =
      retainedTiers requested intent fun tiers => rungSupplyForTiers tiers (input.countAt env branches) := by
  rw [retainedTiers_eq, retainedTiers_eq]
  congr 1
  have hn := rungSupply_ranked env branches ht hc .nearby
  have hcity := rungSupply_ranked env branches ht hc .city
  cases Reach.ofRequest requested intent with
  | nearby => simp only [Reach.widen, ne_eq, hn, hcity]
  | city => simp only [Reach.widen, ne_eq, hcity]
  | platform => rfl

/-! ### What the pages show -/

variable (env db now params) in
/-- A tile with this id and rung is on one of the pages. -/
def Shown (key : String × Option SupplyRung) : Prop :=
  ∃ n, key ∈ (pagesOf env db now params params.limit n).map BranchTile.key

theorem shown_iff (hk : db.Keyed) (hb : params.Bounded) (hl : 1 ≤ params.limit) {key : String × Option SupplyRung} :
    Shown env db now params key ↔
      key ∈ (allInputs env db params (candidateBranches env db now params)).map EnrichBranchInput.key := by
  have hsame : allInputs env db (params.page params.limit 0) (candidateBranches env db now params) =
      allInputs env db params (candidateBranches env db now params) := rfl
  constructor
  · rintro ⟨n, hn⟩
    rw [pagesOf_keys hk hb, hsame] at hn
    obtain ⟨i, hi, rfl⟩ := List.mem_map.mp hn
    exact List.mem_map_of_mem (mem_of_mem_pages hi)
  · intro h
    refine ⟨(allInputs env db params (candidateBranches env db now params)).length, ?_⟩
    rw [pagesOf_keys hk hb, hsame, pages_eq _ _ (Nat.le_mul_of_pos_right _ hl)]
    exact h

/-- The rung of a candidate, if the ladder goes up that far. -/
def rungAt (env : Platform) (db : Database) (params : SearchParams) (effLoc : EffectiveLocation) (c : Candidate) :
    Option SupplyRung :=
  (rankInput db params effLoc).rungOf env c.branch

theorem ranked_eq (he : effectiveLocation env db params = some effLoc) : ranked env db params candidates =
    (rankInput db params effLoc).rankBranchesV3 env ((rankable candidates).map rankableInput) := by
  rw [ranked, he]

theorem confirmed_of_rungAt (h : rungAt env db params effLoc c = some r) : c.branch.isBranchLocationConfirmed = true := by
  have hclassify := (Option.filter_eq_some_iff.mp h).1
  rw [classifyRung] at hclassify
  by_contra hno
  split_ifs at hclassify

/-- A candidate with a rung is collected at that rung. -/
theorem collected_of_rungAt (hc : c ∈ candidates) (h : rungAt env db params effLoc c = some r) :
    ∃ col ∈ (rankInput db params effLoc).collect env ((rankable candidates).map rankableInput),
      col.branch = rankableInput c ∧ col.rung = r := by
  have hrankable : c ∈ rankable candidates := List.mem_filter.mpr ⟨hc, confirmed_of_rungAt h⟩
  exact ⟨⟨rankableInput c, r, _⟩, mem_collect.mpr ⟨_, List.mem_map_of_mem hrankable, h, rfl⟩, rfl, rfl⟩

theorem rungAt_of_collected (h : col ∈ (rankInput db params effLoc).collect env ((rankable candidates).map rankableInput)) :
    ∃ c ∈ candidates, col.branch = rankableInput c ∧ rungAt env db params effLoc c = some col.rung := by
  obtain ⟨b, hb, hr, hcol⟩ := mem_collect.mp h
  obtain ⟨c, hc, rfl⟩ := List.mem_map.mp hb
  exact ⟨c, List.mem_of_mem_filter hc, by rw [hcol], hr⟩

/-- The tile of a collected branch is among the ranked exactly if the branch is picked. -/
theorem mem_ranked_iff (hd : (ids candidates).Nodup) (he : effectiveLocation env db params = some effLoc)
    (h : col ∈ (rankInput db params effLoc).collect env ((rankable candidates).map rankableInput)) :
    (∃ t ∈ (ranked env db params candidates).tiles, t.id = col.branch.branch.id) ↔
      col ∈ (rankInput db params effLoc).picked env ((rankable candidates).map rankableInput) := by
  rw [ranked_eq he, rankBranchesV3_tiles]
  constructor
  · rintro ⟨t, ht, hid⟩
    obtain ⟨col', hcol', rfl⟩ := List.mem_map.mp ht
    have hkeys : (((rankInput db params effLoc).collect env ((rankable candidates).map rankableInput)).map
        fun col => col.branch.branch.id).Nodup :=
      nodup_collect (ids_rankableInput ▸ hd.sublist (ids_filter_sublist _))
    rw [← List.inj_on_of_nodup_map hkeys (mem_collect_of_mem_picked hcol') h hid]
    exact hcol'
  · intro hpicked
    exact ⟨_, List.mem_map_of_mem hpicked, rfl⟩

/-! ### The scope and its pages -/

theorem mem_keys_iff {id : String} : (id, some r) ∈ (allInputs env db params candidates).map EnrichBranchInput.key ↔
    r ∈ (scopeResolution env db params candidates).retainedRungs ∧
      ∃ t ∈ (ranked env db params candidates).tiles, t.id = id ∧ t.supplyRung = r := by
  have hsorted : ∀ t, t ∈ scopedTiles env db params candidates ↔ t ∈ (ranked env db params candidates).tiles ∧
      t.supplyRung ∈ (scopeResolution env db params candidates).retainedRungs := by
    intro t
    rw [scopedTiles, List.mem_filter, (sortRanked_perm _ _).mem_iff, decide_eq_true_iff]
  constructor
  · intro h
    obtain ⟨i, hi, hkey⟩ := List.mem_map.mp h
    rw [allInputs] at hi
    rcases List.mem_append.mp hi with hranked | hwider
    · obtain ⟨t, ht, rfl⟩ := List.mem_map.mp hranked
      obtain ⟨hid, hrung⟩ := Prod.mk.inj hkey
      cases hrung
      obtain ⟨ht, hkept⟩ := (hsorted t).mp ht
      exact ⟨hkept, t, ht, hid, rfl⟩
    · -- The other two lists show no rung.
      split_ifs at hwider
      · rcases List.mem_append.mp hwider with hfallback | htail
        · obtain ⟨c, -, rfl⟩ := List.mem_map.mp hfallback
          exact absurd (Prod.mk.inj hkey).2 (Option.some_ne_none r).symm
        · obtain ⟨c, -, rfl⟩ := List.mem_map.mp htail
          exact absurd (Prod.mk.inj hkey).2 (Option.some_ne_none r).symm
      · cases hwider
  · rintro ⟨hkept, t, ht, rfl, rfl⟩
    have hscoped := (hsorted t).mpr ⟨ht, hkept⟩
    exact List.mem_map.mpr ⟨rankedInput t, List.mem_append_left _ (List.mem_map_of_mem hscoped), rfl⟩

variable (env db now params effLoc) in
/-- How many candidates stand at a rung. -/
def standingAt (r : SupplyRung) : ℕ :=
  (candidateBranches env db now params).countP fun c => rungAt env db params effLoc c = some r

variable (env db now params effLoc) in
def standingBelow (r : SupplyRung) : ℕ :=
  (candidateBranches env db now params).countP fun c =>
    (rungAt env db params effLoc c).any fun r' => rungOrdinal r' < rungOrdinal r

variable (env db now params effLoc) in
/-- The tiers that the scope keeps, widened past those at which no candidate stands. -/
def keptTiers : List SupplyTier :=
  retainedTiers params.scope (categoryIntent db params) fun tiers =>
    rungSupplyForTiers tiers (standingAt env db now params effLoc)

theorem countP_filterMap_map {α β γ : Type} {l : List α} {f : α → β} {g : β → Option γ} {p : γ → Bool} :
    ((l.map f).filterMap g).countP p = l.countP fun a => (g (f a)).any p := by
  induction l with
  | nil => rfl
  | cons a l ih =>
    rw [List.map_cons, List.filterMap_cons, List.countP_cons, ← ih]
    cases g (f a) with
    | none => simp
    | some c => rw [List.countP_cons, Option.any_some]

/-- Only the confirmed candidates have a rung. -/
theorem countP_collect (p : SupplyRung → Bool) :
    ((rankInput db params effLoc).collect env ((rankable candidates).map rankableInput)).countP (fun col => p col.rung) =
      candidates.countP fun c => (rungAt env db params effLoc c).any p := by
  rw [collect, countP_filterMap_map, rankable, List.countP_filter]
  refine List.countP_congr fun c _ => ?_
  cases h : rungAt env db params effLoc c with
  | none =>
    rw [rungAt] at h
    simp [rankableInput, h]
  | some r =>
    have hconfirmed := confirmed_of_rungAt h
    rw [rungAt] at h
    simp [rankableInput, h, hconfirmed]

theorem countAt_eq (r : SupplyRung) : (rankInput db params effLoc).countAt env
    ((rankable (candidateBranches env db now params)).map rankableInput) r = standingAt env db now params effLoc r := by
  rw [countAt, countP_collect fun r' => r' = r, standingAt]
  refine List.countP_congr fun c _ => ?_
  cases rungAt env db params effLoc c <;> simp

theorem countBelow_eq (r : SupplyRung) : (rankInput db params effLoc).countBelow env
    ((rankable (candidateBranches env db now params)).map rankableInput) r = standingBelow env db now params effLoc r :=
  countP_collect fun r' => rungOrdinal r' < rungOrdinal r

theorem retainedRungs_eq (he : effectiveLocation env db params = some effLoc) :
    (scopeResolution env db params (candidateBranches env db now params)).retainedRungs =
      tiersToRungs (keptTiers env db now params effLoc) := by
  have htarget : 0 < (rankInput db params effLoc).targetCount := Nat.lt_of_lt_of_le (by decide) (le_max_right _ _)
  have hcap : 0 < (rankInput db params effLoc).hardCap := Nat.succ_pos 499
  have hcounts : (rankInput db params effLoc).countAt env
      ((rankable (candidateBranches env db now params)).map rankableInput) = standingAt env db now params effLoc :=
    funext countAt_eq
  rw [scopeResolution, resolveScopeForBranches, ranked_eq he]
  dsimp only
  rw [retainedTiers_ranked htarget hcap, hcounts, keptTiers]

/-- The candidates at a rung are shown there, all of them, exactly if those below stay under the target and leave them
    room. -/
theorem forall_shown_iff (hk : db.Keyed) (hb : params.Bounded) (hl : 1 ≤ params.limit)
    (he : effectiveLocation env db params = some effLoc)
    (hr : r ∈ (scopeResolution env db params (candidateBranches env db now params)).retainedRungs)
    (hat : 0 < standingAt env db now params effLoc r) :
    (∀ c ∈ candidateBranches env db now params, rungAt env db params effLoc c = some r →
        Shown env db now params (c.branch.id, some r)) ↔
      standingBelow env db now params effLoc r < max params.limit 50 ∧
        standingBelow env db now params effLoc r + standingAt env db now params effLoc r ≤ 500 := by
  have hd : (ids (candidateBranches env db now params)).Nodup := nodup_candidateBranches hk
  have hdr : (((rankable (candidateBranches env db now params)).map rankableInput).map fun b => b.branch.id).Nodup :=
    ids_rankableInput ▸ hd.sublist (ids_filter_sublist _)
  have htarget : 0 < (rankInput db params effLoc).targetCount := Nat.lt_of_lt_of_le (by decide) (le_max_right _ _)
  have hpicked := forall_mem_picked_iff hdr htarget (countAt_eq r ▸ hat)
  rw [countAt_eq, countBelow_eq] at hpicked
  refine .trans ⟨fun hall col hcol hrung => ?_, fun hall c hc hrung => ?_⟩ hpicked
  · obtain ⟨c, hc, hbranch, hat⟩ := rungAt_of_collected hcol
    have hshown := hall c hc (hrung ▸ hat)
    obtain ⟨-, t, ht, hid, -⟩ := mem_keys_iff.mp ((shown_iff hk hb hl).mp hshown)
    refine (mem_ranked_iff hd he hcol).mp ⟨t, ht, ?_⟩
    rw [hid, hbranch]
    rfl
  · obtain ⟨col, hcol, hbranch, hcr⟩ := collected_of_rungAt hc hrung
    have hpick := hall col hcol hcr
    refine (shown_iff hk hb hl).mpr (mem_keys_iff.mpr ⟨hr, (rankInput db params effLoc).tileOf col, ?_, ?_, hcr⟩)
    · rw [ranked_eq he, rankBranchesV3_tiles]
      exact List.mem_map_of_mem hpick
    · rw [tileOf, hbranch]
      rfl

/-! ### What holds of every scope -/

/-- The rung that the ladder would classify a candidate under, however far up it is. -/
def classified (env : Platform) (db : Database) (params : SearchParams) (effLoc : EffectiveLocation) (c : Candidate) :
    Option SupplyRung :=
  classifyRung env c.branch effLoc
    (getNearbyRadiusMiles (rankInput db params effLoc).ladderProfile effLoc.densityClass)
    (rankInput db params effLoc).outgoingCatchmentTargetIds

theorem classified_of_rungAt (h : rungAt env db params effLoc c = some r) : classified env db params effLoc c = some r :=
  (Option.filter_eq_some_iff.mp h).1

/-- The reach that a request ends up with. -/
def reachOf (env : Platform) (db : Database) (params : SearchParams) (candidates : List Candidate) : Reach :=
  (Reach.ofRequest params.scope (categoryIntent db params)).widen fun tiers =>
    rungSupplyForTiers tiers (ranked env db params candidates).rungCounts

theorem scopeResolution_rungs (params : SearchParams) (candidates : List Candidate) :
    (scopeResolution env db params candidates).retainedRungs = tiersToRungs (reachOf env db params candidates).tiers := by
  rw [scopeResolution, resolveScopeForBranches]
  dsimp only
  rw [retainedTiers_eq, reachOf]

theorem resolvedScope_eq_platform_iff (params : SearchParams) (candidates : List Candidate) :
    (scopeResolution env db params candidates).resolvedScope = .platform ↔
      reachOf env db params candidates = .platform := by
  rw [scopeResolution, resolveScopeForBranches]
  dsimp only
  rw [retainedTiers_eq, ← reachOf]
  cases reachOf env db params candidates <;> decide

theorem exists_ranked_of_rungCounts (h : 0 < (ranked env db params candidates).rungCounts r) :
    ∃ t ∈ (ranked env db params candidates).tiles, t.supplyRung = r := by
  have hcounted : (ranked env db params candidates).Counted := ranked_counted
  rw [hcounted, List.countP_pos_iff] at h
  obtain ⟨t, ht, hr⟩ := h
  exact ⟨t, ht, of_decide_eq_true hr⟩

/-- Short of the platform, the rungs that are kept have ranked branches. -/
theorem exists_supply (h : reachOf env db params candidates ≠ .platform) :
    ∃ r ∈ (scopeResolution env db params candidates).retainedRungs, 0 < (ranked env db params candidates).rungCounts r := by
  have hsupply := supply_of_widen h
  rw [← reachOf, ne_eq, rungSupply_eq_zero] at hsupply
  simp only [not_forall, exists_prop] at hsupply
  obtain ⟨r, hr, hcount⟩ := hsupply
  exact ⟨r, scopeResolution_rungs params candidates ▸ hr, Nat.pos_of_ne_zero hcount⟩

/-- The other two lists are shown on the scope of the platform only. -/
theorem showWiderSupply_iff : showWiderSupply env db params candidates = true ↔
    reachOf env db params candidates = .platform := by
  rw [showWiderSupply, Bool.or_eq_true, decide_eq_true_iff, resolvedScope_eq_platform_iff]
  refine ⟨fun h => h.elim id fun hempty => ?_, .inl⟩
  by_contra hshort
  obtain ⟨r, hr, hcount⟩ := exists_supply hshort
  obtain ⟨t, ht, rfl⟩ := exists_ranked_of_rungCounts hcount
  have hmem : t ∈ scopedTiles env db params candidates :=
    List.mem_filter.mpr ⟨(sortRanked_perm _ _).symm.subset ht, decide_eq_true hr⟩
  rw [List.isEmpty_iff.mp hempty] at hmem
  exact absurd hmem List.not_mem_nil

theorem branchIds_iff {id : String} :
    id ∈ (allInputs env db params candidates).map EnrichBranchInput.branchId ↔
      (∃ t ∈ (ranked env db params candidates).tiles, t.id = id ∧
        t.supplyRung ∈ tiersToRungs (reachOf env db params candidates).tiers) ∨
      reachOf env db params candidates = .platform ∧
        (id ∈ ids (textMatchFallback env db params candidates) ∨ id ∈ ids (tailSorted env db params candidates)) := by
  have hsorted : ∀ t, t ∈ scopedTiles env db params candidates ↔ t ∈ (ranked env db params candidates).tiles ∧
      t.supplyRung ∈ tiersToRungs (reachOf env db params candidates).tiers := by
    intro t
    rw [scopedTiles, List.mem_filter, (sortRanked_perm _ _).mem_iff, decide_eq_true_iff, scopeResolution_rungs]
  rw [allInputs, List.map_append, List.mem_append, List.map_map]
  refine or_congr ?_ ?_
  · constructor
    · intro h
      obtain ⟨t, ht, rfl⟩ := List.mem_map.mp h
      obtain ⟨ht, hkept⟩ := (hsorted t).mp ht
      exact ⟨t, ht, rfl, hkept⟩
    · rintro ⟨t, ht, rfl, hkept⟩
      exact List.mem_map.mpr ⟨t, (hsorted t).mpr ⟨ht, hkept⟩, rfl⟩
  · by_cases hreach : reachOf env db params candidates = .platform
    · rw [if_pos (showWiderSupply_iff.mpr hreach), List.map_append, List.mem_append, List.map_map, List.map_map]
      exact (and_iff_right hreach).symm
    · rw [if_neg fun hshow => hreach (showWiderSupply_iff.mp hshow)]
      simp [hreach]

theorem exists_shown_iff (hk : db.Keyed) (hb : params.Bounded) (hl : 1 ≤ params.limit) {id : String} :
    (∃ rung, Shown env db now params (id, rung)) ↔
      id ∈ (allInputs env db params (candidateBranches env db now params)).map EnrichBranchInput.branchId := by
  simp only [shown_iff hk hb hl, List.mem_map]
  constructor
  · rintro ⟨rung, i, hi, hkey⟩
    exact ⟨i, hi, (Prod.mk.inj hkey).1⟩
  · rintro ⟨i, hi, rfl⟩
    exact ⟨i.supplyRung, i, hi, rfl⟩

/-- The same request on another scope. -/
def SearchParams.on (params : SearchParams) (scope : Scope) : SearchParams := { params with scope := some scope }

variable (env db now params) in
/-- On a scope, the branch is on one of the pages. -/
def ShownOn (scope : Scope) (id : String) : Prop := ∃ rung, Shown env db now (params.on scope) (id, rung)

variable (env db now params) in
def reachOn (scope : Scope) : Reach := reachOf env db (params.on scope) (candidateBranches env db now params)

theorem shownOn_iff (hk : db.Keyed) (hb : params.Bounded) (hl : 1 ≤ params.limit) {scope : Scope} {id : String} :
    ShownOn env db now params scope id ↔
      (∃ t ∈ (ranked env db params (candidateBranches env db now params)).tiles, t.id = id ∧
        t.supplyRung ∈ tiersToRungs (reachOn env db now params scope).tiers) ∨
      reachOn env db now params scope = .platform ∧
        (id ∈ ids (textMatchFallback env db params (candidateBranches env db now params)) ∨
          id ∈ ids (tailSorted env db params (candidateBranches env db now params))) := by
  have hbounded : (params.on scope).Bounded := hb
  have hlimit : 1 ≤ (params.on scope).limit := hl
  have hcandidates : candidateBranches env db now (params.on scope) = candidateBranches env db now params := rfl
  have hranked : ranked env db (params.on scope) = ranked env db params := rfl
  have hfallback : textMatchFallback env db (params.on scope) = textMatchFallback env db params := rfl
  have htail : tailSorted env db (params.on scope) = tailSorted env db params := rfl
  rw [ShownOn, exists_shown_iff hk hbounded hlimit, branchIds_iff, hcandidates, hranked, hfallback, htail, reachOn]

/-- What a narrower scope shows a wider one shows too. -/
theorem shownOn_of_subset (hk : db.Keyed) (hb : params.Bounded) (hl : 1 ≤ params.limit) {scope scope' : Scope}
    (hsub : (reachOn env db now params scope).tiers ⊆ (reachOn env db now params scope').tiers) {id : String}
    (h : ShownOn env db now params scope id) : ShownOn env db now params scope' id := by
  rw [shownOn_iff hk hb hl] at h ⊢
  refine h.imp ?_ ?_
  · rintro ⟨t, ht, hid, hkept⟩
    exact ⟨t, ht, hid, mem_tiersToRungs.mpr (hsub (mem_tiersToRungs.mp hkept))⟩
  · rintro ⟨hreach, hwider⟩
    refine ⟨?_, hwider⟩
    rw [hreach] at hsub
    have hdistant := hsub (by decide : SupplyTier.DISTANT ∈ Reach.platform.tiers)
    revert hdistant
    cases reachOn env db now params scope' <;> decide

theorem reachOn_eq (scope : Scope) : reachOn env db now params scope =
    (Reach.ofRequest (some scope) (categoryIntent db params)).widen fun tiers =>
      rungSupplyForTiers tiers (ranked env db params (candidateBranches env db now params)).rungCounts := rfl

theorem reachOn_nested : (reachOn env db now params .nearby).tiers ⊆ (reachOn env db now params .city).tiers ∧
    (reachOn env db now params .city).tiers ⊆ (reachOn env db now params .platform).tiers := by
  rw [reachOn_eq, reachOn_eq, reachOn_eq]
  exact ⟨widen_nearby_subset, tiers_subset_platform _⟩

/-- Each candidate is ranked at the rung it is classified under. -/
theorem classified_of_ranked (hd : (ids candidates).Nodup) (he : effectiveLocation env db params = some effLoc)
    (hc : c ∈ candidates) {t : RankedBranchTile} (ht : t ∈ (ranked env db params candidates).tiles)
    (hid : t.id = c.branch.id) : classified env db params effLoc c = some t.supplyRung := by
  rw [ranked_eq he, rankBranchesV3_tiles] at ht
  obtain ⟨col, hpicked, rfl⟩ := List.mem_map.mp ht
  obtain ⟨c', hc', hbranch, hrung⟩ := rungAt_of_collected (mem_collect_of_mem_picked hpicked)
  have hsame : c'.branch.id = c.branch.id := by
    rw [← hid, tileOf, hbranch]
    rfl
  rw [← List.inj_on_of_nodup_map hd hc' hc hsame]
  exact classified_of_rungAt hrung

theorem not_shown (hk : db.Keyed) (hb : params.Bounded) (hl : 1 ≤ params.limit)
    (he : effectiveLocation env db params = some effLoc) (hc : c ∈ candidateBranches env db now params)
    (hr : classified env db params effLoc c = some r)
    (hkept : r ∉ (scopeResolution env db params (candidateBranches env db now params)).retainedRungs)
    (rung : Option SupplyRung) : ¬ Shown env db now params (c.branch.id, rung) := by
  intro hshown
  rw [scopeResolution_rungs] at hkept
  rcases branchIds_iff.mp ((exists_shown_iff hk hb hl).mp ⟨rung, hshown⟩) with ⟨t, ht, hid, hmem⟩ | ⟨hreach, -⟩
  · have hclassified := classified_of_ranked (nodup_candidateBranches hk) he hc ht hid
    cases hr.symm.trans hclassified
    exact hkept hmem
  · rw [hreach] at hkept
    exact hkept (tiersToRungs_all r)

/-! ### The law -/

variable (env db now params effLoc) in
/-- A search shows what its scope keeps, and nothing beyond it. -/
structure ScopeHonoured : Prop where
  kept : ∀ c ∈ candidateBranches env db now params,
    ∀ r ∈ (scopeResolution env db params (candidateBranches env db now params)).retainedRungs,
      rungAt env db params effLoc c = some r → Shown env db now params (c.branch.id, some r)
  cut : (∃ r ∈ (scopeResolution env db params (candidateBranches env db now params)).retainedRungs,
      0 < (ranked env db params (candidateBranches env db now params)).rungCounts r) →
    ∀ c ∈ candidateBranches env db now params, ∀ r, classified env db params effLoc c = some r →
      r ∉ (scopeResolution env db params (candidateBranches env db now params)).retainedRungs →
        ∀ rung, ¬ Shown env db now params (c.branch.id, rung)
  supplied : (∃ r, 0 < (ranked env db params (candidateBranches env db now params)).rungCounts r) →
    ∃ r ∈ (scopeResolution env db params (candidateBranches env db now params)).retainedRungs,
      0 < (ranked env db params (candidateBranches env db now params)).rungCounts r
  nested : ∀ id, (ShownOn env db now params .nearby id → ShownOn env db now params .city id) ∧
    (ShownOn env db now params .city id → ShownOn env db now params .platform id)

variable (env db now params effLoc) in
/-- At each rung of the tiers that are kept, the candidates come before the ranking stops. -/
def Fits : Prop :=
  ∀ r ∈ tiersToRungs (keptTiers env db now params effLoc), 0 < standingAt env db now params effLoc r →
    standingBelow env db now params effLoc r < max params.limit 50 ∧
      standingBelow env db now params effLoc r + standingAt env db now params effLoc r ≤ 500

/-- The scope is honoured exactly if the candidates it keeps fit into the ranking. -/
theorem scopeHonoured_iff (hk : db.Keyed) (hb : params.Bounded) (hl : 1 ≤ params.limit)
    (he : effectiveLocation env db params = some effLoc) :
    ScopeHonoured env db now params effLoc ↔ Fits env db now params effLoc := by
  have hrungs : (scopeResolution env db params (candidateBranches env db now params)).retainedRungs =
      tiersToRungs (keptTiers env db now params effLoc) := retainedRungs_eq he
  constructor
  · intro h r hr hat
    rw [← hrungs] at hr
    exact (forall_shown_iff hk hb hl he hr hat).mp fun c hc => h.kept c hc r hr
  · intro h
    refine ⟨fun c hc r hr hrung => ?_, fun _ c hc r hr hkept => not_shown hk hb hl he hc hr hkept, fun hany => ?_,
      fun id => ⟨shownOn_of_subset hk hb hl reachOn_nested.1, shownOn_of_subset hk hb hl reachOn_nested.2⟩⟩
    · have hat : 0 < standingAt env db now params effLoc r :=
        List.countP_pos_iff.mpr ⟨c, hc, decide_eq_true hrung⟩
      exact (forall_shown_iff hk hb hl he hr hat).mpr (h r (hrungs ▸ hr) hat) c hc hrung
    · by_cases hreach : reachOf env db params (candidateBranches env db now params) = .platform
      · obtain ⟨r, hr⟩ := hany
        refine ⟨r, ?_, hr⟩
        rw [scopeResolution_rungs, hreach]
        exact tiersToRungs_all r
      · exact exists_supply hreach

end

/-! ### A crowded centre -/

/-- A branch of the chippy in the town's own locality. -/
def branchIn (id : String) (latitude : ℚ) : Branch := { branchAt id latitude with localityId := some "huddersfield" }

/-- So many branches in the centre, and one a degree further north. -/
def crowd (n : ℕ) : Database :=
  { atSea with branches := branchIn "north" (546 / 10) :: (List.range n).map fun i => branchIn (toString i) (536 / 10) }

def inHuddersfield : EffectiveLocation := EffectiveLocation.of (536 / 10) (-178 / 100) huddersfield

theorem located (n : ℕ) : effectiveLocation meridian (crowd n) (aroundBoth.on .city) = some inHuddersfield := by
  have hnear : [huddersfield].filter (fun l => Locality.Near (536 / 10) (-178 / 100) l) = [huddersfield] :=
    List.filter_eq_self.mpr fun l hl => by
      rw [List.mem_singleton.mp hl]
      decide +kernel
  have hfound : findNearestLocality meridian (crowd n) (536 / 10) (-178 / 100) = some huddersfield := by
    have hlocalities : (crowd n).localities = [huddersfield] := rfl
    rw [findNearestLocality, hlocalities, hnear]
    rfl
  have hlocation : effectiveLocation meridian (crowd n) (aroundBoth.on .city) =
    (findNearestLocality meridian (crowd n) (536 / 10) (-178 / 100)).map
      (EffectiveLocation.of (536 / 10) (-178 / 100)) := rfl
  rw [hlocation, hfound]
  rfl

theorem scopeHonoured_iff_crowd : ScopeHonoured meridian (crowd 1) 0 (aroundBoth.on .city) inHuddersfield ↔
    Fits meridian (crowd 1) 0 (aroundBoth.on .city) inHuddersfield :=
  scopeHonoured_iff ⟨by decide +kernel⟩ (by decide) (by decide) (located 1)

/-- Behind fifty branches nearby, the one in the town's catchment is on no page. -/
theorem city_hides_branch : (crowd 50).Keyed ∧ (aroundBoth.on .city).Bounded ∧
    effectiveLocation meridian (crowd 50) (aroundBoth.on .city) = some inHuddersfield ∧
    SupplyRung.CATCHMENT ∈ (scopeResolution meridian (crowd 50) (aroundBoth.on .city)
      (candidateBranches meridian (crowd 50) 0 (aroundBoth.on .city))).retainedRungs ∧
    ∃ c ∈ candidateBranches meridian (crowd 50) 0 (aroundBoth.on .city),
      rungAt meridian (crowd 50) (aroundBoth.on .city) inHuddersfield c = some .CATCHMENT ∧
        ¬ Shown meridian (crowd 50) 0 (aroundBoth.on .city) (c.branch.id, some .CATCHMENT) := by
  have hk : (crowd 50).Keyed := ⟨by decide +kernel⟩
  have hbelow : standingBelow meridian (crowd 50) 0 (aroundBoth.on .city) inHuddersfield .CATCHMENT = 50 := by
    decide +kernel
  have hat : standingAt meridian (crowd 50) 0 (aroundBoth.on .city) inHuddersfield .CATCHMENT = 1 := by
    decide +kernel
  have hkept : SupplyRung.CATCHMENT ∈ (scopeResolution meridian (crowd 50) (aroundBoth.on .city)
      (candidateBranches meridian (crowd 50) 0 (aroundBoth.on .city))).retainedRungs := by
    rw [retainedRungs_eq (located 50)]
    decide +kernel
  refine ⟨hk, by decide, located 50, hkept, ?_⟩
  by_contra hno
  have hall := (forall_shown_iff hk (by decide) (by decide) (located 50) hkept (by omega)).mp fun c hc hr =>
    by_contra fun hhidden => hno ⟨c, hc, hr, hhidden⟩
  rw [hbelow] at hall
  exact absurd hall.1 (by decide)

end Redeemo.Discovery
