import Redeemo.Discovery.MerchantPage

/-! What discovery makes of positions that are not confirmed.

    `redact` takes them out of the database. Whatever asks for an exact position finds the same without them: the search
    for branches, the second ranking of merchants, the tiles and a merchant's page. -/

namespace Redeemo.Discovery
open Listing

/-! ### States that differ in such positions -/

def Branch.SameButPosition (b b' : Branch) : Prop :=
  b' = b ∨ b.isBranchLocationConfirmed = false ∧ b' = { b with latitude := b'.latitude, longitude := b'.longitude }

/-- The states differ only in the coordinates of branches that are not confirmed. -/
structure Database.SameButPositions (db db' : Database) : Prop where
  branches : List.Forall₂ Branch.SameButPosition db.branches db'.branches
  rest : db' = { db with branches := db'.branches }

def Branch.redact (b : Branch) : Branch :=
  { b with
    latitude := if b.isBranchLocationConfirmed then b.latitude else none
    longitude := if b.isBranchLocationConfirmed then b.longitude else none }

def Database.redact (db : Database) : Database := { db with branches := db.branches.map Branch.redact }

namespace Branch
variable {env : Platform} {b b' : Branch} {lat lng : ℚ}

theorem redact_of_confirmed (h : b.isBranchLocationConfirmed = true) : b.redact = b := by
  rw [redact, if_pos h, if_pos h]

theorem redact_of_not_confirmed (h : b.isBranchLocationConfirmed = false) :
    b.redact = { b with latitude := none, longitude := none } := by
  simp [redact, h]

theorem SameButPosition.redact_eq (h : b.SameButPosition b') : b.redact = b'.redact := by
  rcases h with rfl | ⟨hb, h⟩
  · rfl
  · have hb' : b'.isBranchLocationConfirmed = false := by rw [h]; exact hb
    rw [redact_of_not_confirmed hb, redact_of_not_confirmed hb', h]

theorem exposeBranchPosition_redact (b : Branch) : b.redact.exposeBranchPosition = b.exposeBranchPosition := by
  cases h : b.isBranchLocationConfirmed with
  | true => rw [redact_of_confirmed h]
  | false => simp [redact_of_not_confirmed h, exposeBranchPosition, isBranchLocationConfirmed] at h ⊢; simp [h]

theorem exactMetresFrom_redact (b : Branch) : b.redact.exactMetresFrom env lat lng = b.exactMetresFrom env lat lng := by
  cases h : b.isBranchLocationConfirmed with
  | true => rw [redact_of_confirmed h]
  | false =>
    have hr : b.redact.isBranchLocationConfirmed = false := h
    rw [exactMetresFrom, exactMetresFrom, hr, h, if_neg Bool.false_ne_true, if_neg Bool.false_ne_true]

theorem hasExactPosition_redact (b : Branch) : b.redact.hasExactPosition = b.hasExactPosition := by
  cases h : b.isBranchLocationConfirmed with
  | true => rw [redact_of_confirmed h]
  | false =>
    have hr : b.redact.isBranchLocationConfirmed = false := h
    rw [hasExactPosition, hasExactPosition, hr, h, Bool.false_and, Bool.false_and]

theorem resolvable_redact (b : Branch) : b.redact.resolvable = b.resolvable := by
  cases h : b.isBranchLocationConfirmed with
  | true => rw [redact_of_confirmed h]
  | false =>
    have hb : b.hasExactPosition = false := by rw [hasExactPosition, h, Bool.false_and]
    rw [resolvable, resolvable, hasExactPosition_redact, hb, if_neg Bool.false_ne_true, if_neg Bool.false_ne_true,
      if_neg Bool.false_ne_true, if_neg Bool.false_ne_true]
    rfl

theorem inBox_redact (box : ℚ × ℚ × ℚ × ℚ) (b : Branch) : inBox box b.redact = inBox box b := by
  cases h : b.isBranchLocationConfirmed with
  | true => rw [redact_of_confirmed h]
  | false =>
    have hr : b.redact.isBranchLocationConfirmed = false := h
    rw [inBox, inBox, hr, h, Bool.false_and, Bool.false_and, Bool.false_and, Bool.false_and]

/-- A rung is given to confirmed branches only. -/
theorem confirmed_of_rungOf {input : RankInput} {r : SupplyRung} (h : input.rungOf env b = some r) :
    b.isBranchLocationConfirmed = true := by
  have hr := (Option.filter_eq_some_iff.mp h).1
  rw [classifyRung] at hr
  split_ifs at hr with _ hc
  all_goals simpa using hc

theorem rungOf_redact (input : RankInput) (b : Branch) : input.rungOf env b.redact = input.rungOf env b := by
  cases h : b.isBranchLocationConfirmed with
  | true => rw [redact_of_confirmed h]
  | false =>
    have hnone : ∀ b' : Branch, b'.isBranchLocationConfirmed = false → input.rungOf env b' = none := fun b' h' =>
      Option.eq_none_iff_forall_ne_some.mpr fun r hr => by rw [confirmed_of_rungOf hr] at h'; cases h'
    rw [hnone _ h, hnone _ (show b.redact.isBranchLocationConfirmed = false from h)]

end Branch

section
variable {env : Platform} {db : Database} {now : ℤ} {params : SearchParams} {lat lng : Option ℚ}

theorem Database.SameButPositions.redact_eq {db' : Database} (h : db.SameButPositions db') : db.redact = db'.redact := by
  have hbranches : db.branches.map Branch.redact = db'.branches.map Branch.redact :=
    List.forall₂_eq_eq_eq ▸ (List.forall₂_map_left_iff.mpr (List.forall₂_map_right_iff.mpr
      (h.branches.imp fun _ _ hb => hb.redact_eq)))
  rw [Database.redact, Database.redact, hbranches, h.rest]

theorem sort_map {α β : Type} (compareFn : β → β → Ordering) (f : α → β) (l : List α) :
    sort compareFn (l.map f) = (sort (fun a b => compareFn (f a) (f b)) l).map f := by
  rw [sort, sort, List.map_mergeSort]
  intro a _ b _
  rfl

theorem filter_map_redact {p : Branch → Bool} (hp : ∀ b, p b.redact = p b) (l : List Branch) :
    (l.map Branch.redact).filter p = (l.filter p).map Branch.redact := by
  rw [List.filter_map]
  congr 1
  exact List.filter_congr fun b _ => hp b

/-! ### `searchBranches` -/

def Candidate.redact (c : Candidate) : Candidate := ⟨c.branch.redact, c.merchant⟩

theorem candidateRows_redact (params : SearchParams) :
    candidateRows env db.redact now params = (candidateRows env db now params).map Candidate.redact := by
  have hrows : (db.redact.branches.filterMap fun b => (merchantOf db b).map (Candidate.mk b)) =
      (db.branches.filterMap fun b => (merchantOf db b).map (Candidate.mk b)).map Candidate.redact := by
    rw [Database.redact, List.filterMap_map, List.map_filterMap]
    refine List.filterMap_congr fun b _ => ?_
    rw [Function.comp_apply, Option.map_map]
    rfl
  have hwhere : ∀ c : Candidate, branchWhere env db.redact now params (lookups env db.redact params.normalizedQ)
      c.redact.branch c.redact.merchant =
        branchWhere env db now params (lookups env db params.normalizedQ) c.branch c.merchant := by
    intro c
    rw [branchWhere, branchWhere]
    congr 1
    cases params.box with
    | none => rfl
    | some box => exact Branch.inBox_redact box c.branch
  refine (congrArg (List.filter _) hrows).trans ?_
  rw [List.filter_map]
  congr 1
  exact List.filter_congr fun c _ => hwhere c

theorem withinMiles_redact (params : SearchParams) (c : Candidate) :
    withinMiles env params c.redact = withinMiles env params c := by
  rw [withinMiles, withinMiles]
  split
  · rw [Candidate.redact, Branch.exactMetresFrom_redact]
  · rfl

theorem candidateBranches_redact (params : SearchParams) :
    candidateBranches env db.redact now params = (candidateBranches env db now params).map Candidate.redact := by
  rw [candidateBranches, candidateRows_redact, candidateBranches, List.filter_map]
  congr 1
  refine List.filter_congr fun c _ => ?_
  rw [Function.comp_apply, withinMiles_redact]
  rfl

theorem rankable_redact (candidates : List Candidate) : rankable (candidates.map Candidate.redact) = rankable candidates := by
  rw [rankable, rankable, List.filter_map]
  refine (List.map_congr_left fun c hc => ?_).trans (List.map_id _)
  have hconfirmed : c.branch.isBranchLocationConfirmed = true := (List.mem_filter.mp hc).2
  rw [Candidate.redact, Branch.redact_of_confirmed hconfirmed]
  rfl

theorem ranked_redact (params : SearchParams) (candidates : List Candidate) :
    ranked env db.redact params (candidates.map Candidate.redact) = ranked env db params candidates := by
  rw [ranked, ranked, rankable_redact]
  rfl

theorem textMatchFallback_redact (params : SearchParams) (candidates : List Candidate) :
    textMatchFallback env db.redact params (candidates.map Candidate.redact) = textMatchFallback env db params candidates := by
  rw [textMatchFallback, textMatchFallback, rankable_redact, ranked_redact]
  rfl

theorem tailSorted_redact (params : SearchParams) (candidates : List Candidate) :
    tailSorted env db.redact params (candidates.map Candidate.redact) =
      (tailSorted env db params candidates).map Candidate.redact := by
  have hnon : nonRankable (candidates.map Candidate.redact) = (nonRankable candidates).map Candidate.redact := by
    rw [nonRankable, List.filter_map]
    rfl
  rw [tailSorted, tailSorted, hnon, ← apply_ite (List.map Candidate.redact), sort_map]
  rfl

theorem scopeResolution_redact (params : SearchParams) (candidates : List Candidate) :
    scopeResolution env db.redact params (candidates.map Candidate.redact) = scopeResolution env db params candidates := by
  rw [scopeResolution, scopeResolution, ranked_redact]
  rfl

theorem scopedTiles_redact (params : SearchParams) (candidates : List Candidate) :
    scopedTiles env db.redact params (candidates.map Candidate.redact) = scopedTiles env db params candidates := by
  rw [scopedTiles, scopedTiles, ranked_redact, scopeResolution_redact]
  rfl

theorem allInputs_redact (params : SearchParams) (candidates : List Candidate) :
    allInputs env db.redact params (candidates.map Candidate.redact) = allInputs env db params candidates := by
  have htail : ((tailSorted env db params candidates).map Candidate.redact).map tailInput =
      (tailSorted env db params candidates).map tailInput := by
    rw [List.map_map]
    rfl
  rw [allInputs, allInputs, showWiderSupply, showWiderSupply, scopedTiles_redact, scopeResolution_redact,
    textMatchFallback_redact, tailSorted_redact, htail]
  rfl

theorem searchMeta_redact (params : SearchParams) (candidates : List Candidate) :
    searchMeta env db.redact params (candidates.map Candidate.redact) = searchMeta env db params candidates := by
  rw [searchMeta, searchMeta, ranked_redact, scopeResolution_redact, textMatchFallback_redact, tailSorted_redact,
    allInputs_redact, List.length_map]
  rfl

theorem enrichBranchTiles_redact (inputs : List EnrichBranchInput) (ctx : EnrichBranchCtx) :
    enrichBranchTiles env db.redact now inputs ctx = enrichBranchTiles env db now inputs ctx := by
  rw [enrichBranchTiles, enrichBranchTiles]
  refine List.filterMap_congr fun input _ => ?_
  have hfound : enrichable db.redact input.branchId =
      (enrichable db input.branchId).map fun r => (r.1.redact, r.2) := by
    rw [enrichable, enrichable, Database.redact, List.find?_map]
    rw [show ((fun b : Branch => decide (b.id = input.branchId ∧ b.isTestData = false ∧
      b.lifecycleStatus ≠ .PENDING_CREATE)) ∘ Branch.redact) = fun b : Branch => decide (b.id = input.branchId ∧
        b.isTestData = false ∧ b.lifecycleStatus ≠ .PENDING_CREATE) from rfl]
    cases db.branches.find? fun b => decide (b.id = input.branchId ∧ b.isTestData = false ∧
      b.lifecycleStatus ≠ .PENDING_CREATE) with
    | none => rfl
    | some b =>
      change (merchantOf db b).bind _ = Option.map _ ((merchantOf db b).bind _)
      rw [Option.map_bind]
      congr 1
      funext m
      rw [Function.comp_apply]
      split_ifs <;> rfl
  rw [hfound, Option.map_map]
  congr 1
  funext r
  rw [Function.comp_apply, enrichBranchTile, enrichBranchTile, Branch.exposeBranchPosition_redact]
  rfl

theorem searchBranches_redact (params : SearchParams) :
    searchBranches env db.redact now params = searchBranches env db now params := by
  rw [searchBranches, searchBranches, candidateBranches_redact]
  dsimp only
  rw [allInputs_redact, searchMeta_redact, enrichBranchTiles_redact]
  rfl

/-! ### The branches of a merchant -/

theorem tileBranches_redact (m : Merchant) : tileBranches db.redact m = (tileBranches db m).map Branch.redact :=
  filter_map_redact (fun _ => rfl) db.branches

theorem filterMap_exactMetresFrom_redact (lat lng : ℚ) (l : List Branch) :
    (l.map Branch.redact).filterMap (Branch.exactMetresFrom env lat lng) =
      l.filterMap (Branch.exactMetresFrom env lat lng) := by
  rw [List.filterMap_map]
  exact List.filterMap_congr fun b _ => b.exactMetresFrom_redact

theorem redact_of_exactMetresFrom {b : Branch} {lat lng d : ℚ} (h : b.exactMetresFrom env lat lng = some d) :
    b.redact = b := by
  rw [Branch.exactMetresFrom] at h
  split_ifs at h with hc
  exact Branch.redact_of_confirmed hc

/-- The nearest branch is confirmed, and the same either way. -/
theorem nearestExact_redact (lat lng : Option ℚ) (l : List Branch) :
    nearestExact env lat lng (l.map Branch.redact) = nearestExact env lat lng l := by
  rcases lat with _ | lat
  · rfl
  rcases lng with _ | lng
  · rfl
  rw [nearestExact, nearestExact, List.foldl_map]
  congr 1
  funext best b
  rw [Branch.exactMetresFrom_redact]
  cases h : b.exactMetresFrom env lat lng with
  | none => rfl
  | some d => rw [redact_of_exactMetresFrom h]

theorem head?_map_redact (l : List Branch) : (l.map Branch.redact).head? = l.head?.map Branch.redact := by
  cases l <;> rfl

theorem map_id_redact (l : List Branch) : (l.map Branch.redact).map Branch.id = l.map Branch.id := by
  rw [List.map_map]
  rfl

/-! ### A merchant's page -/

theorem pageBranches_redact (m : Merchant) : pageBranches db.redact m = (pageBranches db m).map Branch.redact := by
  rw [pageBranches, Database.redact, filter_map_redact fun _ => rfl, sort_map]
  rfl

theorem exactMetres_redact (b : Branch) : b.redact.exactMetres env lat lng = b.exactMetres env lat lng := by
  rcases lat with _ | lat
  · rfl
  rcases lng with _ | lng
  · rfl
  exact b.exactMetresFrom_redact

theorem pageBranch_redact (userId : Option String) (opts : PageOptions) (b : Branch) :
    pageBranch env db.redact now userId opts b.redact = pageBranch env db now userId opts b := by
  rw [pageBranch, pageBranch, Branch.exposeBranchPosition_redact, exactMetres_redact]
  rfl

theorem nearestBranch_redact (distance : Option ℚ) (b : Branch) :
    nearestBranch now distance b.redact = nearestBranch now distance b := by
  rw [nearestBranch, nearestBranch, Branch.exposeBranchPosition_redact]
  rfl

theorem selectedBranch_redact (userId : Option String) (opts : PageOptions) (m : Merchant) (gallery : List String)
    (b : Branch) : selectedBranch env db.redact now userId opts m gallery b.redact =
      selectedBranch env db now userId opts m gallery b := by
  rw [selectedBranch, selectedBranch, pageBranch_redact]
  rfl

theorem nearestOf_redact (opts : PageOptions) (active : List Branch) :
    nearestOf env opts (active.map Branch.redact) = (nearestOf env opts active).map Branch.redact := by
  rw [nearestOf, nearestOf, nearestExact_redact]
  cases nearestExact env opts.lat opts.lng active with
  | none => exact head?_map_redact active
  | some n => exact List.find?_map

theorem merchantPage_redact (userId : Option String) (opts : PageOptions) (m : Merchant)
    (vouchers : List VoucherScreens.VoucherCard) :
    merchantPage env db.redact now userId opts m vouchers = merchantPage env db now userId opts m vouchers := by
  have hactive : ((pageBranches db m).map Branch.redact).filter Branch.isActive =
      ((pageBranches db m).filter Branch.isActive).map Branch.redact := filter_map_redact (fun _ => rfl) _
  have hresolvable : ((pageBranches db m).map Branch.redact).map Branch.resolvable =
      (pageBranches db m).map Branch.resolvable := by
    rw [List.map_map]
    exact List.map_congr_left fun b _ => b.resolvable_redact
  have hgallery : (((pageBranches db m).filter Branch.isActive).map Branch.redact).flatMap Branch.photoUrls =
      ((pageBranches db m).filter Branch.isActive).flatMap Branch.photoUrls := by
    rw [List.flatMap_map]
    rfl
  have hfind : ∀ id : Option String, (id.bind fun id => ((pageBranches db m).map Branch.redact).find? fun b => b.id = id) =
      (id.bind fun id => (pageBranches db m).find? fun b => b.id = id).map Branch.redact := by
    intro id
    rw [Option.map_bind]
    congr 1
    funext id
    exact List.find?_map
  have hnearest : ∀ {β : Type} (o : Option Branch) (f g : Branch → β), (∀ b, f b.redact = g b) →
      (o.map Branch.redact).map f = o.map g := by
    intro β o f g h
    rw [Option.map_map]
    exact congrArg (fun k => o.map k) (funext h)
  rw [merchantPage, merchantPage, pageBranches_redact, hactive, hresolvable, hgallery, hfind, nearestOf_redact,
    nearestExact_redact, map_id_redact,
    hnearest _ (nearestBranch now _) (nearestBranch now _) (nearestBranch_redact _),
    hnearest _ Branch.orderedHours Branch.orderedHours fun _ => rfl,
    hnearest _ Branch.amenityIds Branch.amenityIds fun _ => rfl,
    hnearest _ (selectedBranch env db.redact now userId opts m _) (selectedBranch env db now userId opts m _)
      (selectedBranch_redact userId opts m _), List.map_map]
  rw [show pageBranch env db.redact now userId opts ∘ Branch.redact = pageBranch env db now userId opts from
    funext (pageBranch_redact userId opts)]
  rfl

theorem getCustomerMerchant_redact (shop : VoucherScreens.Shop) (t : Redemption.Tables) (merchantId : String)
    (userId : Option String) (opts : PageOptions) :
    getCustomerMerchant env db.redact shop t now merchantId userId opts =
      getCustomerMerchant env db shop t now merchantId userId opts := by
  rw [getCustomerMerchant, getCustomerMerchant]
  simp only [merchantPage_redact]
  rfl

theorem getCustomerMerchantBranches_redact (merchantId : String) :
    getCustomerMerchantBranches db.redact merchantId = getCustomerMerchantBranches db merchantId := by
  have hrow : selectorBranch ∘ Branch.redact = selectorBranch := by
    funext b
    rw [Function.comp_apply, selectorBranch, selectorBranch, Branch.exposeBranchPosition_redact]
    rfl
  rw [getCustomerMerchantBranches, getCustomerMerchantBranches]
  simp only [tileBranches_redact, sort_map, List.map_map, hrow]
  rfl

/-! ### What the lists of merchants show -/

def MerchantForRanking.redact (row : MerchantForRanking) : MerchantForRanking :=
  { row with branches := row.branches.map Branch.redact }

theorem merchantRow_redact (m : Merchant) : merchantRow db.redact m = (merchantRow db m).redact := by
  rw [merchantRow, tileBranches_redact, map_id_redact]
  rfl

theorem enrichMerchantTile_redact (userId : Option String) (row : MerchantForRanking) :
    enrichMerchantTile env db.redact lat lng userId row.redact = enrichMerchantTile env db lat lng userId row := by
  have hnear : nearestExact env lat lng row.redact.branches = nearestExact env lat lng row.branches :=
    nearestExact_redact lat lng row.branches
  rw [enrichMerchantTile, enrichMerchantTile, hnear]
  rfl

/-! ### The second ranking of merchants -/

/-- The branches that stand for a merchant are confirmed. -/
theorem candidateBranches_of_redact (input : RankInput) (l : List Branch) :
    input.candidateBranches env (l.map Branch.redact) = input.candidateBranches env l := by
  rw [RankInput.candidateBranches, RankInput.candidateBranches, List.filterMap_map]
  refine List.filterMap_congr fun b _ => ?_
  rw [Function.comp_apply, Branch.rungOf_redact]
  cases h : input.rungOf env b with
  | none => rfl
  | some r => rw [Branch.redact_of_confirmed (Branch.confirmed_of_rungOf h)]

def MerchantEntry.redact (e : MerchantEntry) : MerchantEntry := { e with row := e.row.redact }

theorem entryOf_redact (input : RankInput) (row : MerchantForRanking) :
    input.entryOf env row.redact = (input.entryOf env row).map MerchantEntry.redact := by
  rw [RankInput.entryOf, RankInput.entryOf, Option.map_map]
  exact congrArg (fun l => Option.map _ (input.selectContextBranch env l)) (candidateBranches_of_redact input row.branches)

/-- What the sort and the tiles read of an entry is the same. -/
structure MerchantEntry.Alike (e e' : MerchantEntry) : Prop where
  merchant : e'.row.merchant = e.row.merchant
  avgRating : e'.row.avgRating = e.row.avgRating
  reviewCount : e'.row.reviewCount = e.row.reviewCount
  contextBranch : e'.contextBranch = e.contextBranch
  bestRung : e'.bestRung = e.bestRung

theorem alike_redact (e : MerchantEntry) : e.Alike e.redact := ⟨rfl, rfl, rfl, rfl, rfl⟩

section
variable {input : RankInput} {f : MerchantEntry → MerchantEntry}

theorem entryComparator_map (hf : ∀ e : MerchantEntry, e.Alike (f e)) (rung : SupplyRung) (a b : MerchantEntry) :
    input.entryComparator env rung (f a) (f b) = input.entryComparator env rung a b := by
  simp only [RankInput.entryComparator, RankInput.distanceComparator, qualityComparator, (hf a).merchant, (hf b).merchant,
    (hf a).avgRating, (hf b).avgRating, (hf a).reviewCount, (hf b).reviewCount, (hf a).contextBranch, (hf b).contextBranch]

theorem rankedTile_map (hf : ∀ e : MerchantEntry, e.Alike (f e)) (e : MerchantEntry) :
    input.rankedTile env (f e) = input.rankedTile env e := by
  simp only [RankInput.rankedTile, (hf e).merchant, (hf e).contextBranch, (hf e).bestRung]

theorem sortEntries_map (hf : ∀ e : MerchantEntry, e.Alike (f e)) (rung : SupplyRung) (arr : List MerchantEntry) :
    input.sortEntries env rung (arr.map f) = (input.sortEntries env rung arr).map f := by
  rw [RankInput.sortEntries, RankInput.sortEntries, sort_map]
  simp only [entryComparator_map hf]

theorem filter_rung_map (hf : ∀ e : MerchantEntry, e.Alike (f e)) (entries : List MerchantEntry) (rung : SupplyRung) :
    (entries.map f).filter (fun e => e.bestRung = rung) = (entries.filter fun e => e.bestRung = rung).map f := by
  rw [List.filter_map]
  congr 1
  exact List.filter_congr fun e _ => by rw [Function.comp_apply, (hf e).bestRung]

theorem stitch_map (hf : ∀ e : MerchantEntry, e.Alike (f e)) (entries : List MerchantEntry) (rungs : List SupplyRung)
    (nearbyRungEvaluated : Bool) (tiles : List RankedTile) :
    input.stitch env (entries.map f) rungs nearbyRungEvaluated tiles =
      input.stitch env entries rungs nearbyRungEvaluated tiles := by
  induction rungs generalizing nearbyRungEvaluated tiles with
  | nil => rfl
  | cons rung rungs ih =>
    have htile : input.rankedTile env ∘ f = input.rankedTile env := funext (rankedTile_map hf)
    rw [RankInput.stitch, RankInput.stitch, filter_rung_map hf, sortEntries_map hf]
    dsimp only
    rw [← List.map_take, List.map_map, htile]
    simp only [ih]

end

theorem rankMerchantsV2_redact (input : RankInput) (rows : List MerchantForRanking) :
    input.rankMerchantsV2 env (rows.map MerchantForRanking.redact) = input.rankMerchantsV2 env rows := by
  have hentries : (rows.map MerchantForRanking.redact).filterMap (input.entryOf env) =
      (rows.filterMap (input.entryOf env)).map MerchantEntry.redact := by
    rw [List.filterMap_map, List.map_filterMap]
    exact List.filterMap_congr fun row _ => entryOf_redact input row
  rw [RankInput.rankMerchantsV2, RankInput.rankMerchantsV2, hentries]
  simp only [stitch_map alike_redact]

theorem tryRankMerchantsV2_redact (rows : List MerchantForRanking) (ctx : V2Context) :
    tryRankMerchantsV2 env db.redact (rows.map MerchantForRanking.redact) ctx = tryRankMerchantsV2 env db rows ctx := by
  have hinput : ∀ e, (v2Input db.redact ctx e).rankMerchantsV2 env (rows.map MerchantForRanking.redact) =
      (v2Input db ctx e).rankMerchantsV2 env rows := fun e => rankMerchantsV2_redact _ rows
  rw [tryRankMerchantsV2, tryRankMerchantsV2]
  simp only [hinput]
  rfl

/-! ### Which merchants are listed -/

variable {collate : String → String → Ordering}

theorem nearestExactMetres_redact (lat lng : ℚ) (m : Merchant) :
    nearestExactMetres env db.redact lat lng m = nearestExactMetres env db lat lng m := by
  rw [nearestExactMetres, nearestExactMetres, tileBranches_redact, filterMap_exactMetresFrom_redact]

theorem any_tileBranches_redact {p : Branch → Bool} (hp : ∀ b, p b.redact = p b) (m : Merchant) :
    (tileBranches db.redact m).any p = (tileBranches db m).any p := by
  rw [tileBranches_redact, List.any_map]
  exact congrArg _ (funext hp)

theorem merchantWhere_redact (params : SearchParams) (m : Merchant) :
    merchantWhere env db.redact now params m = merchantWhere env db now params m := by
  have hamenity : ∀ id : String, ((tileBranches db.redact m).any fun b => decide (id ∈ b.amenityIds)) =
      (tileBranches db m).any fun b => decide (id ∈ b.amenityIds) := fun id => any_tileBranches_redact (fun _ => rfl) m
  have hbox : ∀ box, (tileBranches db.redact m).any (inBox box) = (tileBranches db m).any (inBox box) := fun box =>
    any_tileBranches_redact (Branch.inBox_redact box) m
  rw [merchantWhere, merchantWhere]
  simp only [hamenity, hbox]
  rfl

theorem sortNearest_redact (params : SearchParams) (l : List Merchant) :
    sortNearest env db.redact params l = sortNearest env db params l := by
  rw [sortNearest, sortNearest]
  split
  · simp only [nearestExactMetres_redact]
  · rfl

theorem merchantWithinMiles_redact (params : SearchParams) (m : Merchant) :
    merchantWithinMiles env db.redact params m = merchantWithinMiles env db params m := by
  rw [merchantWithinMiles, merchantWithinMiles]
  split
  · rw [nearestExactMetres_redact]
  · rfl

theorem candidateMerchants_redact (params : SearchParams) :
    candidateMerchants env db.redact now collate params = candidateMerchants env db now collate params := by
  have hwhere : merchantWhere env db.redact now params = merchantWhere env db now params :=
    funext (merchantWhere_redact params)
  rw [candidateMerchants, candidateMerchants, hwhere, sortNearest_redact]
  refine List.filter_congr fun m _ => ?_
  rw [merchantWithinMiles_redact, merchantRow_redact, any_tileBranches_redact fun _ => rfl]
  rfl

end

end Redeemo.Discovery
