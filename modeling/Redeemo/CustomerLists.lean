import Redeemo.Favourites.Pages
import Redeemo.Reviews.Lists
import Redeemo.Savings.Service

/-! The lists that a customer reads page by page, all six of them.

    A listing is an operation with the data set that it lists and the arguments that it keeps from page to page; only
    the order in which each query comes upon the rows is free. -/

namespace Redeemo.CustomerLists
open Paging

/-! ### Savings -/

structure Redeemed where
  rows : List Savings.VoucherRedemption
  unique : (rows.map Savings.VoucherRedemption.id).Nodup

namespace Redeemed
variable (s : Redeemed) (userId : String) (month : Option String)

/-- A month that is refused lists nothing. -/
def isListed : Savings.VoucherRedemption → Bool := (Savings.redemptionsWhere userId month).getD fun _ => false

def listed : List Savings.VoucherRedemption := s.rows.filter (isListed userId month)

end Redeemed

def redemptionItems (userId : String) (month : Option String) (found : List Savings.VoucherRedemption) (k n : ℕ) :
    List Savings.RedemptionItem :=
  (Savings.getSavingsRedemptions found userId k (n * k) month).elim [] Savings.RedemptionPage.redemptions

theorem redemptionItems_eq (userId : String) (month : Option String) (found : List Savings.VoucherRedemption) (k n : ℕ) :
    redemptionItems userId month found k n =
      (sortThenSlice Savings.latestFirst (fun _ _ => .eq) (found.filter (Redeemed.isListed userId month)) k n).map
        Savings.redemptionItem := by
  rw [sortThenSlice, sortBy, Sorting.mergeSort_eq_self _ fun _ _ _ _ => by decide]
  simp only [redemptionItems, Savings.getSavingsRedemptions, Redeemed.isListed]
  cases Savings.redemptionsWhere userId month with
  | none => simp [slice, sortBy]
  | some p => rfl

theorem getSavingsRedemptions_lossless_iff (s : Redeemed) (userId : String) (month : Option String) {k : ℕ} (hk : 0 < k) :
    Lossless (fun found : List Savings.VoucherRedemption => found.Perm s.rows) (redemptionItems userId month)
        Savings.RedemptionItem.id ((s.listed userId month).map Savings.VoucherRedemption.id) k ↔
      Untied Savings.latestFirst (fun _ _ => .eq) (s.listed userId month) := by
  have hq : Std.TransCmp Savings.latestFirst :=
    Sorting.transCmp_on (fun a b : ℤ => compare b a) Savings.VoucherRedemption.redeemedAt
  have hr : Std.TransCmp fun _ _ : Savings.VoucherRedemption => Ordering.eq := Sorting.transCmp_eq
  have hd : (s.listed userId month).Nodup := s.unique.of_map.filter _
  rw [← lossless_sortThenSlice_iff hd hk]
  refine lossless_rows hd (fun found : List Savings.VoucherRedemption => found.filter (Redeemed.isListed userId month))
    Savings.redemptionItem perm_filter_iff (fun a ha b hb hab => ?_)
    (fun found _ k n => redemptionItems_eq userId month found k n) mem_of_sortThenSlice
  exact List.inj_on_of_nodup_map s.unique (List.mem_filter.mp ha).1 (List.mem_filter.mp hb).1 hab

/-! ### Listings -/

structure Reviewed where
  db : Reviews.Database
  branch : String → Reviews.ListedBranch
  unique : (db.reviews.map Reviews.Review.id).Nodup

inductive Listing
  | listMerchantReviews (s : Reviewed) (merchantId : String) (branchId requestingUserId : Option String)
  | listBranchReviews (s : Reviewed) (branchId : String) (requestingUserId : Option String)
  | getSavingsRedemptions (s : Redeemed) (userId : String) (month : Option String)
  | listFavouriteMerchants (f : Favourites.MerchantFavourites) (db : Discovery.Database) (now : ℤ) (userId : String)
  | listFavouriteBranches (f : Favourites.BranchFavourites) (db : Discovery.Database) (now : ℤ) (userId : String)
  | listFavouriteVouchers (f : Favourites.VoucherFavourites) (now : ℤ) (userId : String)

namespace Listing

/-- Pages 1, 2, 3, ... of size `k` are together the list that comes with a page size of at least the total, and that is
    each row once. -/
def Lossless (k : ℕ) : Listing → Prop
  | listMerchantReviews s merchantId branchId requestingUserId =>
    Paging.Lossless (fun found : List Reviews.Review => found.Perm s.db.reviews)
      (fun found k n => (Reviews.listMerchantReviews s.db s.branch merchantId branchId found k (n * k)
        requestingUserId).reviews)
      Reviews.FormattedReview.id
      ((Reviews.listed s.db (Reviews.merchantWhere s.branch merchantId branchId)).map Reviews.Review.id) k
  | listBranchReviews s branchId requestingUserId =>
    Paging.Lossless (fun found : List Reviews.Review => found.Perm s.db.reviews)
      (fun found k n => (Reviews.listBranchReviews s.db s.branch branchId found k (n * k) requestingUserId).reviews)
      Reviews.FormattedReview.id
      ((Reviews.listed s.db (Reviews.branchWhere s.branch branchId)).map Reviews.Review.id) k
  | getSavingsRedemptions s userId month =>
    Paging.Lossless (fun found : List Savings.VoucherRedemption => found.Perm s.rows) (redemptionItems userId month)
      Savings.RedemptionItem.id ((s.listed userId month).map Savings.VoucherRedemption.id) k
  | listFavouriteMerchants f db now userId =>
    Paging.Lossless f.Found (fun s k n => (Favourites.listFavouriteMerchants db now userId s.1 s.2 (n + 1) k).items)
      Favourites.MerchantItem.id ((f.listed userId).map fun r => r.merchant.id) k
  | listFavouriteBranches f db now userId =>
    Paging.Lossless (fun found : List Favourites.FavouriteBranch => found.Perm f.rows)
      (fun found k n => (Favourites.listFavouriteBranches db now userId found (n + 1) k).items) Favourites.BranchItem.id
      ((f.listed userId).map fun r => r.branch.id) k
  | listFavouriteVouchers f now userId =>
    Paging.Lossless (fun found : List Favourites.FavouriteVoucher => found.Perm f.rows)
      (Favourites.voucherItems f now userId) Favourites.Item.id
      ((f.listed userId).map Favourites.FavouriteVoucher.voucherId) k

/-- No two listed reviews tie in verification, rating and date, those that tie in rating and date share a page, and none
    of a later page belongs before one of an earlier. -/
def ReviewsInOrder (s : Reviewed) (p : Reviews.Review → Bool) (requestingUserId : Option String) (k : ℕ) : Prop :=
  Untied Reviews.highestRated (Reviews.shownFirst s.db requestingUserId) (Reviews.listed s.db p) ∧
    Unbroken Reviews.highestRated (Reviews.listed s.db p) k ∧
    Aligned Reviews.highestRated (Reviews.shownFirst s.db requestingUserId) (Reviews.listed s.db p) k

/-- What the sort keys of the rows have to be. Of the lists that are sorted before a page is cut out: no two rows tie in
    all of them; and a favourite merchant has one branch that comes first, or none. -/
def InOrder (k : ℕ) : Listing → Prop
  | listMerchantReviews s merchantId branchId requestingUserId =>
    ReviewsInOrder s (Reviews.merchantWhere s.branch merchantId branchId) requestingUserId k
  | listBranchReviews s branchId requestingUserId =>
    ReviewsInOrder s (Reviews.branchWhere s.branch branchId) requestingUserId k
  | getSavingsRedemptions s userId month => Untied Savings.latestFirst (fun _ _ => .eq) (s.listed userId month)
  | listFavouriteMerchants f db now userId =>
    (∀ r ∈ f.listed userId, f.OneFirst r.merchant.id) ∧
      Untied Favourites.latestMerchant (fun a b => Favourites.availableFirst Favourites.MerchantItem.isUnavailable
        Favourites.MerchantItem.isOpen (Favourites.merchantItem db now f.branches a)
        (Favourites.merchantItem db now f.branches b)) (f.listed userId)
  | listFavouriteBranches f db now userId =>
    Untied Favourites.latestBranch (fun a b => Favourites.availableFirst Favourites.BranchItem.isUnavailable
      Favourites.BranchItem.isOpen (Favourites.branchItem db now a) (Favourites.branchItem db now b)) (f.listed userId)
  | listFavouriteVouchers f now userId =>
    Untied Favourites.latestVoucher (fun a b => compare (f.bucket userId now a) (f.bucket userId now b))
      (f.listed userId)

end Listing

theorem lossless_iff_inOrder (l : Listing) {k : ℕ} (hk : 1 ≤ k) : l.Lossless k ↔ l.InOrder k := by
  cases l with
  | listMerchantReviews s merchantId branchId requestingUserId =>
    exact Reviews.listReviews_lossless_iff s.db s.unique _ hk requestingUserId
  | listBranchReviews s branchId requestingUserId =>
    exact Reviews.listReviews_lossless_iff s.db s.unique _ hk requestingUserId
  | getSavingsRedemptions s userId month => exact getSavingsRedemptions_lossless_iff s userId month hk
  | listFavouriteMerchants f db now userId => exact Favourites.listFavouriteMerchants_lossless_iff f hk
  | listFavouriteBranches f db now userId => exact Favourites.listFavouriteBranches_lossless_iff f hk
  | listFavouriteVouchers f now userId => exact Favourites.listFavouriteVouchers_lossless_iff f hk

/-! ### A verified review on a later page -/

/-- The better review is not verified, the other is. -/
def cafeReviews : List Reviews.Review :=
  [⟨"v1", "ann", "branch", none, 5, none, false, 1000, 1000⟩, ⟨"v2", "bob", "branch", some "r1", 4, none, false, 2000, 2000⟩]

def cafe : Reviewed where
  db := ⟨⟨fun _ => none, fun _ => none, fun _ => none, fun _ => none⟩, [], fun _ => none, fun _ => none, cafeReviews, [], [],
    ⟨fun id => id, fun _ => none, fun _ => none⟩⟩
  branch _ := ⟨"merchant", true, false, .LIVE, false⟩
  unique := by decide

theorem lossless_iff_inOrder_cafe : 1 ≤ 2 ∧
    ((Listing.listMerchantReviews cafe "merchant" none none).Lossless 2 ↔
      (Listing.listMerchantReviews cafe "merchant" none none).InOrder 2) :=
  ⟨by decide, lossless_iff_inOrder _ (by decide)⟩

/-- One page shows the verified review first; pages of one review each show it last. -/
theorem cafe_not_lossless : ¬ (Listing.listMerchantReviews cafe "merchant" none none).Lossless 1 := by
  intro h
  have hiff := Reviews.listReviews_lossless_iff cafe.db cafe.unique (Reviews.merchantWhere cafe.branch "merchant" none)
    (k := 1) (by decide) none
  have haligned := (hiff.mp h).2.2 cafeReviews[0] (by decide) cafeReviews[1] (by decide) (by decide)
  exact haligned (by decide)

end Redeemo.CustomerLists
