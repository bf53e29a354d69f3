import Redeemo.Favourites.Lists
import Redeemo.Favourites.Vouchers

/-! The lists of favourites, page by page.

    A data set fixes what the database holds, its unique keys and its references; each query comes upon the rows in an
    order of its own. The lists are sorted before a page is cut out, so they lose nothing exactly if no two rows tie in
    all their sort keys, and if each merchant has one branch that comes first. -/

namespace Redeemo.Favourites
open Paging

variable {db : Discovery.Database} {now : ℤ} {userId : String} {k : ℕ}

/-! ### Branches -/

theorem listFavouriteBranches_eq (found : List FavouriteBranch) (k n : ℕ) :
    (listFavouriteBranches db now userId found (n + 1) k).items =
      (sortThenSlice latestBranch (fun a b => availableFirst BranchItem.isUnavailable BranchItem.isOpen
        (branchItem db now a) (branchItem db now b)) (found.filter (branchWhere userId)) k n).map (branchItem db now) := by
  rw [sortThenSlice, map_slice, map_sortBy (availableFirst BranchItem.isUnavailable BranchItem.isOpen)]
  rfl

structure BranchFavourites where
  rows : List FavouriteBranch
  unique : (rows.map fun r => (r.userId, r.branch.id)).Nodup

/-- The user's favourites that are listed. -/
def BranchFavourites.listed (f : BranchFavourites) (userId : String) : List FavouriteBranch :=
  f.rows.filter (branchWhere userId)

theorem listFavouriteBranches_lossless_iff (f : BranchFavourites) (hk : 0 < k) :
    Lossless (fun found : List FavouriteBranch => found.Perm f.rows)
        (fun found k n => (listFavouriteBranches db now userId found (n + 1) k).items) BranchItem.id
        ((f.listed userId).map fun r => r.branch.id) k ↔
      Untied latestBranch (fun a b => availableFirst BranchItem.isUnavailable BranchItem.isOpen
        (branchItem db now a) (branchItem db now b)) (f.listed userId) := by
  have hq : Std.TransCmp latestBranch := Sorting.transCmp_on (fun a b : ℤ => compare b a) FavouriteBranch.createdAt
  have hr : Std.TransCmp fun a b => availableFirst BranchItem.isUnavailable BranchItem.isOpen
      (branchItem db now a) (branchItem db now b) := Sorting.transCmp_on _ (branchItem db now)
  have hd : (f.listed userId).Nodup := f.unique.of_map.filter _
  rw [← lossless_sortThenSlice_iff hd hk]
  refine lossless_rows hd (fun found : List FavouriteBranch => found.filter (branchWhere userId)) (branchItem db now)
    perm_filter_iff (fun a ha b hb hab => ?_) (fun found _ k n => listFavouriteBranches_eq found k n)
    mem_of_sortThenSlice
  obtain ⟨ha, hpa⟩ := List.mem_filter.mp ha
  obtain ⟨hb, hpb⟩ := List.mem_filter.mp hb
  simp only [branchWhere, decide_eq_true_eq] at hpa hpb
  exact List.inj_on_of_nodup_map f.unique ha hb (Prod.ext (hpa.1.trans hpb.1.symm) hab)

/-! ### Merchants -/

structure MerchantFavourites where
  rows : List FavouriteMerchant
  /-- Of each merchant. -/
  branches : String → List Discovery.Branch
  unique : (rows.map fun r => (r.userId, r.merchant.id)).Nodup
  branch_unique : ∀ merchantId, ((branches merchantId).map Discovery.Branch.id).Nodup

namespace MerchantFavourites
variable (f : MerchantFavourites)

def listed (userId : String) : List FavouriteMerchant := f.rows.filter (merchantWhere userId)

/-- What the queries come upon: the rows, and the branches of each merchant, in some order. -/
def Found (s : List FavouriteMerchant × (String → List Discovery.Branch)) : Prop :=
  s.1.Perm f.rows ∧ ∀ merchantId, (s.2 merchantId).Perm (f.branches merchantId)

/-- One branch of the merchant comes before all its others, or none is listed. -/
def OneFirst (merchantId : String) : Prop :=
  ∀ b ∈ (f.branches merchantId).filter listedBranch, ∀ c ∈ (f.branches merchantId).filter listedBranch,
    b.isMainBranch = c.isMainBranch →
      (∀ d ∈ (f.branches merchantId).filter listedBranch, d.isMainBranch = true → b.isMainBranch = true) → b = c

end MerchantFavourites

instance transCmp_mainFirst : Std.TransCmp mainFirst :=
  Sorting.transCmp_on (fun a b : Bool => compare b a) Discovery.Branch.isMainBranch

theorem mainFirst_le_iff {b d : Discovery.Branch} :
    mainFirst b d ≠ .gt ↔ (d.isMainBranch = true → b.isMainBranch = true) := by
  rw [mainFirst]
  cases b.isMainBranch <;> cases d.isMainBranch <;> decide

/-- The shown branch is one that no other comes before. -/
theorem shownBranch_eq_some {bs : List Discovery.Branch} {b : Discovery.Branch} (h : shownBranch bs = some b) :
    b ∈ bs.filter listedBranch ∧ ∀ d ∈ bs.filter listedBranch, d.isMainBranch = true → b.isMainBranch = true := by
  have hp := sortBy_perm mainFirst (bs.filter listedBranch)
  have hs : (sortBy mainFirst (bs.filter listedBranch)).Pairwise fun a b => mainFirst a b ≠ .gt := sortBy_sorted _
  rw [shownBranch, ← sortBy, List.head?_eq_some_iff] at h
  obtain ⟨rest, hrest⟩ := h
  rw [hrest] at hp hs
  refine ⟨hp.subset List.mem_cons_self, fun d hd => ?_⟩
  rcases List.mem_cons.mp (hp.symm.subset hd) with rfl | hd
  · exact id
  · exact mainFirst_le_iff.mp (List.rel_of_pairwise_cons hs hd)

/-- Found at the front, a branch that no other comes before is shown. -/
theorem shownBranch_cons {bs : List Discovery.Branch} {b : Discovery.Branch} (hb : listedBranch b = true)
    (h : ∀ d ∈ bs.filter listedBranch, d.isMainBranch = true → b.isMainBranch = true) : shownBranch (b :: bs) = some b := by
  have hat : (sortBy mainFirst (b :: bs.filter listedBranch))[Sorting.before mainFirst (b :: bs.filter listedBranch) b]? =
      some b := Sorting.getElem?_mergeSort_cons b _
  have hself : mainFirst b b = .eq := Std.ReflCmp.compare_self
  have hnone : Sorting.before mainFirst (b :: bs.filter listedBranch) b = 0 := by
    refine List.countP_eq_zero.mpr fun d hd => ?_
    rw [decide_eq_true_eq]
    rcases List.mem_cons.mp hd with rfl | hd
    · simp [hself]
    · exact Std.OrientedCmp.not_lt_of_isLE (Ordering.isLE_iff_ne_gt.mpr (mainFirst_le_iff.mpr (h d hd)))
  rw [hnone] at hat
  rw [shownBranch, List.filter_cons_of_pos hb, List.head?_eq_getElem?]
  exact hat

theorem shownBranch_eq_none {bs : List Discovery.Branch} (h : shownBranch bs = none) : bs.filter listedBranch = [] := by
  rw [shownBranch, List.head?_eq_none_iff] at h
  have hp := sortBy_perm mainFirst (bs.filter listedBranch)
  rw [sortBy, h] at hp
  exact hp.symm.eq_nil

/-- The branch that is shown does not depend on the order of the branches exactly if one of them is first. -/
theorem shownBranch_const_iff (f : MerchantFavourites) (merchantId : String) :
    (∀ bs bs', bs.Perm (f.branches merchantId) → bs'.Perm (f.branches merchantId) →
      shownBranch bs = shownBranch bs') ↔ f.OneFirst merchantId := by
  have hlisted : ∀ {bs : List Discovery.Branch}, bs.Perm (f.branches merchantId) → ∀ {d},
      d ∈ bs.filter listedBranch ↔ d ∈ (f.branches merchantId).filter listedBranch := fun h _ =>
    (h.filter _).mem_iff
  constructor
  · intro h b hb c hc heq hmain
    have hshown : ∀ d ∈ (f.branches merchantId).filter listedBranch, d.isMainBranch = b.isMainBranch →
        ∃ bs : List Discovery.Branch, bs.Perm (f.branches merchantId) ∧ shownBranch bs = some d := by
      intro d hd hdb
      obtain ⟨rest, hrest⟩ := exists_front (List.mem_filter.mp hd).1
      refine ⟨d :: rest, hrest, shownBranch_cons (List.mem_filter.mp hd).2 fun e he => ?_⟩
      rw [hdb]
      exact hmain e ((hlisted hrest).mp (by
        rw [List.filter_cons_of_pos (List.mem_filter.mp hd).2]
        exact List.mem_cons_of_mem _ he))
    obtain ⟨bs, hbs, hb⟩ := hshown b hb rfl
    obtain ⟨bs', hbs', hc⟩ := hshown c hc heq.symm
    exact Option.some.inj (hb.symm.trans ((h bs bs' hbs hbs').trans hc))
  · intro h bs bs' hbs hbs'
    cases hb : shownBranch bs with
    | none =>
      have hempty := shownBranch_eq_none hb
      have hnil : bs'.filter listedBranch = [] := List.eq_nil_iff_forall_not_mem.mpr fun d hd => by
        have hd' := (hlisted hbs).mpr ((hlisted hbs').mp hd)
        rw [hempty] at hd'
        cases hd'
      simp [shownBranch, hnil]
    | some b =>
      cases hc : shownBranch bs' with
      | none =>
        have hempty := shownBranch_eq_none hc
        have hb' := (hlisted hbs').mpr ((hlisted hbs).mp (shownBranch_eq_some hb).1)
        rw [hempty] at hb'
        cases hb'
      | some c =>
        obtain ⟨hb, hbmain⟩ := shownBranch_eq_some hb
        obtain ⟨hc, hcmain⟩ := shownBranch_eq_some hc
        have hbc : b.isMainBranch = c.isMainBranch := by
          rw [Bool.eq_iff_iff]
          exact ⟨hcmain b ((hlisted hbs').mpr ((hlisted hbs).mp hb)), hbmain c ((hlisted hbs).mpr ((hlisted hbs').mp hc))⟩
        refine congrArg some (h b ((hlisted hbs).mp hb) c ((hlisted hbs').mp hc) hbc fun d hd => ?_)
        exact hbmain d ((hlisted hbs).mpr hd)

/-- All the favourite merchants in their order. -/
def sortedMerchants (db : Discovery.Database) (now : ℤ) (userId : String)
    (s : List FavouriteMerchant × (String → List Discovery.Branch)) : List MerchantItem :=
  (sortBy (fun a b => availableFirst MerchantItem.isUnavailable MerchantItem.isOpen (merchantItem db now s.2 a)
    (merchantItem db now s.2 b)) (sortBy latestMerchant (s.1.filter (merchantWhere userId)))).map (merchantItem db now s.2)

theorem listFavouriteMerchants_eq (s : List FavouriteMerchant × (String → List Discovery.Branch)) (k n : ℕ) :
    (listFavouriteMerchants db now userId s.1 s.2 (n + 1) k).items = slice k n (sortedMerchants db now userId s) := by
  rw [sortedMerchants, map_sortBy (availableFirst MerchantItem.isUnavailable MerchantItem.isOpen)]
  rfl

theorem merchantItem_congr {branches branches' : String → List Discovery.Branch} {r : FavouriteMerchant}
    (h : shownBranch (branches r.merchant.id) = shownBranch (branches' r.merchant.id)) :
    merchantItem db now branches r = merchantItem db now branches' r := by
  simp only [merchantItem, h]

theorem sortedMerchants_ids (db : Discovery.Database) (now : ℤ) (userId : String) (s : List FavouriteMerchant × (String → List Discovery.Branch)) :
    ((sortedMerchants db now userId s).map MerchantItem.id).Perm
      ((s.1.filter (merchantWhere userId)).map fun r => r.merchant.id) := by
  rw [sortedMerchants, List.map_map]
  exact ((sortBy_perm _ _).trans (sortBy_perm _ _)).map _

section
variable (f : MerchantFavourites)

theorem listedMerchants_nodup (userId : String) : ((f.listed userId).map fun r => r.merchant.id).Nodup := by
  refine (List.nodup_map_iff_inj_on (f.unique.of_map.filter _)).mpr fun a ha b hb hab => ?_
  obtain ⟨ha, hpa⟩ := List.mem_filter.mp ha
  obtain ⟨hb, hpb⟩ := List.mem_filter.mp hb
  simp only [merchantWhere, decide_eq_true_eq] at hpa hpb
  exact List.inj_on_of_nodup_map f.unique ha hb (Prod.ext (hpa.1.trans hpb.1.symm) hab)

theorem found_update {merchantId : String} {bs : List Discovery.Branch} (h : bs.Perm (f.branches merchantId)) :
    f.Found (f.rows, Function.update f.branches merchantId bs) := by
  refine ⟨List.Perm.refl _, fun other => ?_⟩
  by_cases hm : other = merchantId
  · subst hm
    simpa using h
  · simp [hm]

/-- One list under every order of a merchant's branches is one branch of the merchant. -/
theorem oneFirst_of_const (h : ∀ s s', f.Found s → f.Found s' →
    sortedMerchants db now userId s = sortedMerchants db now userId s') {r : FavouriteMerchant}
    (hr : r ∈ f.listed userId) : f.OneFirst r.merchant.id := by
  refine (shownBranch_const_iff f _).mp fun bs bs' hbs hbs' => ?_
  have hitem : ∀ bs : List Discovery.Branch, merchantItem db now (Function.update f.branches r.merchant.id bs) r ∈
      sortedMerchants db now userId (f.rows, Function.update f.branches r.merchant.id bs) := fun bs =>
    List.mem_map_of_mem ((sortBy_perm _ _).symm.subset ((sortBy_perm _ _).symm.subset hr))
  have hmem := hitem bs
  rw [h _ _ (found_update f hbs) (found_update f hbs')] at hmem
  have hnodup := (sortedMerchants_ids db now userId
    (f.rows, Function.update f.branches r.merchant.id bs')).nodup_iff.mpr (listedMerchants_nodup f userId)
  have hsame := congrArg MerchantItem.branch (List.inj_on_of_nodup_map hnodup hmem (hitem bs') rfl)
  simp only [merchantItem, Function.update_self] at hsame
  have hid := congrArg (Option.map MerchantBranch.id) hsame
  rw [Option.map_map, Option.map_map] at hid
  cases hb : shownBranch bs with
  | none =>
    rw [hb] at hid
    exact (Option.map_eq_none_iff.mp hid.symm).symm
  | some b =>
    rw [hb] at hid
    obtain ⟨c, hc, hcb⟩ := Option.map_eq_some_iff.mp hid.symm
    have hbm := hbs.subset (List.mem_filter.mp (shownBranch_eq_some hb).1).1
    have hcm := hbs'.subset (List.mem_filter.mp (shownBranch_eq_some hc).1).1
    rw [hc, List.inj_on_of_nodup_map (f.branch_unique _) hcm hbm hcb]

/-- Where each merchant has one branch that is first, the order of the branches does not matter. -/
theorem sortedMerchants_eq (hone : ∀ r ∈ f.listed userId, f.OneFirst r.merchant.id)
    {s : List FavouriteMerchant × (String → List Discovery.Branch)} (hs : f.Found s) :
    sortedMerchants db now userId s = sortedMerchants db now userId (s.1, f.branches) := by
  simp only [sortedMerchants]
  rw [map_sortBy (availableFirst MerchantItem.isUnavailable MerchantItem.isOpen),
    map_sortBy (availableFirst MerchantItem.isUnavailable MerchantItem.isOpen)]
  congr 1
  refine List.map_congr_left fun r hr => merchantItem_congr ?_
  have hr' := (hs.1.filter _).subset ((sortBy_perm _ _).subset hr)
  exact (shownBranch_const_iff f _).mpr (hone r hr') _ _ (hs.2 _) (List.Perm.refl _)

theorem listFavouriteMerchants_lossless_iff (hk : 0 < k) :
    Lossless f.Found (fun s k n => (listFavouriteMerchants db now userId s.1 s.2 (n + 1) k).items) MerchantItem.id
        ((f.listed userId).map fun r => r.merchant.id) k ↔
      (∀ r ∈ f.listed userId, f.OneFirst r.merchant.id) ∧
        Untied latestMerchant (fun a b => availableFirst MerchantItem.isUnavailable MerchantItem.isOpen
          (merchantItem db now f.branches a) (merchantItem db now f.branches b)) (f.listed userId) := by
  have hq : Std.TransCmp latestMerchant := Sorting.transCmp_on (fun a b : ℤ => compare b a) FavouriteMerchant.createdAt
  have hr : Std.TransCmp fun a b => availableFirst MerchantItem.isUnavailable MerchantItem.isOpen
      (merchantItem db now f.branches a) (merchantItem db now f.branches b) :=
    Sorting.transCmp_on _ (merchantItem db now f.branches)
  have hd : (f.listed userId).Nodup := f.unique.of_map.filter _
  simp only [listFavouriteMerchants_eq]
  rw [lossless_slice_iff (fun s hs => (sortedMerchants_ids db now userId s).trans ((hs.1.filter _).map _)) hk, ← const_iff_untied hd]
  constructor
  · intro h
    refine ⟨fun r hr => oneFirst_of_const f h hr, fun l l' hl hl' => ?_⟩
    obtain ⟨s, hs, rfl⟩ := (perm_filter_iff l).mp hl
    obtain ⟨s', hs', rfl⟩ := (perm_filter_iff l').mp hl'
    have hsame := h (s, f.branches) (s', f.branches) ⟨hs, fun _ => List.Perm.refl _⟩ ⟨hs', fun _ => List.Perm.refl _⟩
    have hinj : ∀ a ∈ f.listed userId, ∀ b ∈ f.listed userId,
        merchantItem db now f.branches a = merchantItem db now f.branches b → a = b := fun a ha b hb hab =>
      List.inj_on_of_nodup_map (listedMerchants_nodup f userId) ha hb (congrArg MerchantItem.id hab)
    refine map_inj_on hinj (fun a ha => ?_) (fun a ha => ?_) hsame
    · exact hl.subset ((resort_perm _).subset ha)
    · exact hl'.subset ((resort_perm _).subset ha)
  · rintro ⟨hone, hu⟩ s s' hs hs'
    rw [sortedMerchants_eq f hone hs, sortedMerchants_eq f hone hs', sortedMerchants, sortedMerchants,
      hu _ _ (hs.1.filter _) (hs'.1.filter _)]

end

/-! ### Vouchers -/

structure VoucherFavourites where
  catalog : Redemption.Catalog
  tables : Redemption.Tables
  isTestData : String → Bool
  rows : List FavouriteVoucher
  /-- That a row refers to. -/
  voucher : FavouriteVoucher → Redemption.Voucher
  voucher_eq : ∀ r ∈ rows, catalog.voucher r.voucherId = some (voucher r)
  readable : ∀ r ∈ rows, ∀ w ∈ (voucher r).availabilityWindows, w.Readable
  unique : (rows.map fun r => (r.userId, r.voucherId)).Nodup

def latestVoucher (a b : FavouriteVoucher) : Ordering := compare b.createdAt a.createdAt

theorem computeVoucherPriorityBucket_ok {input : BucketInput} (h : ∀ w ∈ input.availabilityWindows, w.Readable) :
    ∃ bucket, computeVoucherPriorityBucket input = .ok bucket := by
  rw [computeVoucherPriorityBucket]
  split_ifs
  · exact ⟨7, rfl⟩
  · exact ⟨6, rfl⟩
  · obtain ⟨current, hcurrent⟩ := VoucherAvailability.getCurrentWindowOccurrence_ok h input.now
    rw [typeBucket]
    split
    · rw [hcurrent]
      cases current with
      | none => exact ⟨5, rfl⟩
      | some w =>
        simp only [bind, Except.bind]
        split_ifs
        · exact ⟨1, rfl⟩
        · exact ⟨2, rfl⟩
        · exact ⟨5, rfl⟩
    · exact ⟨_, rfl⟩
    · exact ⟨_, rfl⟩

namespace VoucherFavourites
variable (f : VoucherFavourites)

def isListed (userId : String) (r : FavouriteVoucher) : Bool := r.userId = userId && !f.isTestData r.voucherId

def listed (userId : String) : List FavouriteVoucher := f.rows.filter (f.isListed userId)

def bucket (userId : String) (now : ℤ) (r : FavouriteVoucher) : ℕ :=
  (computeVoucherPriorityBucket (bucketInput f.catalog f.tables userId now r.voucherId (f.voucher r))).toOption.getD 0

def item (userId : String) (now : ℤ) (r : FavouriteVoucher) : Item :=
  let v := f.voucher r
  { id := r.voucherId
    type := v.type
    estimatedSaving := v.estimatedSaving
    expiresAt := v.expiryDate
    status := v.status
    approvalStatus := v.approvalStatus
    isRedeemedInCurrentCycle := redeemedThisCycle f.catalog f.tables userId now r.voucherId
    merchantStatus := v.merchantStatus
    favouritedAt := r.createdAt
    isUnavailable := ¬ (v.status = .ACTIVE ∧ v.approvalStatus = .APPROVED) ∨ v.merchantStatus ≠ .ACTIVE
    priorityBucket := f.bucket userId now r }

variable {f}

theorem enrich_eq {r : FavouriteVoucher} (hr : r ∈ f.rows) :
    enrich f.catalog f.tables userId now r (f.voucher r) = .ok (f.item userId now r) := by
  obtain ⟨bucket, hbucket⟩ := computeVoucherPriorityBucket_ok
    (show ∀ w ∈ (bucketInput f.catalog f.tables userId now r.voucherId (f.voucher r)).availabilityWindows, w.Readable from
      f.readable r hr)
  simp only [enrich, item, VoucherFavourites.bucket, hbucket]
  rfl

instance transCmp_latestVoucher : Std.TransCmp latestVoucher :=
  Sorting.transCmp_on (fun a b : ℤ => compare b a) FavouriteVoucher.createdAt

theorem listedRows_eq {found : List FavouriteVoucher} (h : found.Perm f.rows) :
    listedRows f.catalog userId f.isTestData found =
      (sortBy latestVoucher (found.filter (f.isListed userId))).map fun r => (r, f.voucher r) := by
  have hsort : ((found.filter (f.isListed userId)).insertionSort fun a b => b.createdAt ≤ a.createdAt) =
      sortBy latestVoucher (found.filter (f.isListed userId)) := by
    refine Sorting.insertionSort_eq_mergeSort (fun a b => ?_) _
    rw [latestVoucher, ne_eq, compare_gt_iff_gt, not_lt]
  rw [listedRows, ← List.filterMap_eq_map]
  refine (congrArg (List.filterMap _) hsort).trans (List.filterMap_congr fun r hr => ?_)
  have hr' := h.subset (List.mem_filter.mp ((sortBy_perm _ _).subset hr)).1
  rw [f.voucher_eq r hr']
  rfl

theorem listFavouriteVouchers_eq (now : ℤ) (userId : String) {found : List FavouriteVoucher} (h : found.Perm f.rows)
    (k n : ℕ) :
    ∃ p, listFavouriteVouchers f.catalog f.tables userId now f.isTestData found (n + 1) k = .ok p ∧
      p.items = (sortThenSlice latestVoucher (fun a b => compare (f.bucket userId now a) (f.bucket userId now b))
        (found.filter (f.isListed userId)) k n).map (f.item userId now) := by
  have hrows : ∀ r ∈ sortBy latestVoucher (found.filter (f.isListed userId)), r ∈ f.rows := fun r hr =>
    h.subset (List.mem_filter.mp ((sortBy_perm _ _).subset hr)).1
  have henrich : ((sortBy latestVoucher (found.filter (f.isListed userId))).map fun r => (r, f.voucher r)).mapM
      (fun r => enrich f.catalog f.tables userId now r.1 r.2) =
        .ok (((sortBy latestVoucher (found.filter (f.isListed userId))).map fun r => (r, f.voucher r)).map
          fun r => f.item userId now r.1) := by
    refine Fallible.mapM_eq_map fun r hr => ?_
    obtain ⟨r', hr', rfl⟩ := List.mem_map.mp hr
    exact enrich_eq (hrows r' hr')
  have hcmp : Std.TransCmp fun a b : Item => compare a.priorityBucket b.priorityBucket :=
    Sorting.transCmp_on (compare : ℕ → ℕ → Ordering) Item.priorityBucket
  have hsort : ∀ items : List Item, (items.insertionSort fun a b => a.priorityBucket ≤ b.priorityBucket) =
      sortBy (fun a b => compare a.priorityBucket b.priorityBucket) items := fun items =>
    Sorting.insertionSort_eq_mergeSort (fun a b => by rw [ne_eq, compare_gt_iff_gt, not_lt]) items
  rw [listFavouriteVouchers, listedRows_eq h, henrich]
  refine ⟨_, rfl, ?_⟩
  dsimp only
  rw [hsort, List.map_map, sortThenSlice, map_slice, Nat.add_sub_cancel]
  refine congrArg (slice k n) ?_
  exact (map_sortBy (fun a b : Item => compare a.priorityBucket b.priorityBucket) (f.item userId now) _).symm

end VoucherFavourites

/-- A list that is refused shows nothing. -/
def voucherItems (f : VoucherFavourites) (now : ℤ) (userId : String) (found : List FavouriteVoucher) (k n : ℕ) :
    List Item :=
  (listFavouriteVouchers f.catalog f.tables userId now f.isTestData found (n + 1) k).toOption.elim [] Page.items

theorem listFavouriteVouchers_lossless_iff (f : VoucherFavourites) (hk : 0 < k) :
    Lossless (fun found : List FavouriteVoucher => found.Perm f.rows) (voucherItems f now userId) Item.id
        ((f.listed userId).map FavouriteVoucher.voucherId) k ↔
      Untied latestVoucher (fun a b => compare (f.bucket userId now a) (f.bucket userId now b)) (f.listed userId) := by
  have hr : Std.TransCmp fun a b => compare (f.bucket userId now a) (f.bucket userId now b) :=
    Sorting.transCmp_on (compare : ℕ → ℕ → Ordering) (f.bucket userId now)
  have hd : (f.listed userId).Nodup := f.unique.of_map.filter _
  rw [← lossless_sortThenSlice_iff hd hk]
  refine lossless_rows hd (fun found : List FavouriteVoucher => found.filter (f.isListed userId)) (f.item userId now)
    perm_filter_iff (fun a ha b hb hab => ?_) (fun found hfound k n => ?_) mem_of_sortThenSlice
  · obtain ⟨ha, hpa⟩ := List.mem_filter.mp ha
    obtain ⟨hb, hpb⟩ := List.mem_filter.mp hb
    simp only [VoucherFavourites.isListed, Bool.and_eq_true, decide_eq_true_eq] at hpa hpb
    exact List.inj_on_of_nodup_map f.unique ha hb (Prod.ext (hpa.1.trans hpb.1.symm) hab)
  · obtain ⟨p, hp, hitems⟩ := VoucherFavourites.listFavouriteVouchers_eq now userId hfound k n
    rw [voucherItems, hp]
    exact hitems

end Redeemo.Favourites
