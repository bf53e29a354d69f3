import Redeemo.Lib.Paging
import Redeemo.Reviews.Service

/-! The reviews of a merchant and of a branch, a page at a time.

    The query sorts by rating and cuts the page out; what it brought is then sorted again, verified reviews first. -/

namespace Redeemo.Reviews

/-- What a review's filter asks of the branch. -/
structure ListedBranch where
  merchantId : String
  isActive : Bool
  isTestData : Bool
  lifecycleStatus : BranchLifecycleStatus
  merchantIsTestData : Bool

variable (db : Database) (branch : String → ListedBranch)

/-- An empty branch id is no filter. -/
def merchantWhere (merchantId : String) (branchId : Option String) (v : Review) : Bool :=
  let b := branch v.branchId
  v.isHidden = false ∧ (b.merchantId = merchantId ∧ b.isActive = true ∧ b.isTestData = false ∧
    b.lifecycleStatus ≠ .PENDING_CREATE ∧ b.merchantIsTestData = false) ∧
    ∀ id ∈ branchId.filter (· ≠ ""), v.branchId = id

def branchWhere (branchId : String) (v : Review) : Bool :=
  let b := branch v.branchId
  v.isHidden = false ∧ v.branchId = branchId ∧
    (b.isTestData = false ∧ b.lifecycleStatus ≠ .PENDING_CREATE ∧ b.merchantIsTestData = false)

/-- `orderBy: [{ rating: 'desc' }, { createdAt: 'desc' }]`. -/
def highestRated (a b : Review) : Ordering := (compare b.rating a.rating).then (compare b.createdAt a.createdAt)

def verifiedFirst (a b : FormattedReview) : Ordering :=
  if a.isVerified ≠ b.isVerified then if a.isVerified then .lt else .gt
  else compare b.createdAt a.createdAt

structure ReviewPage where
  reviews : List FormattedReview
  total : ℕ

/-- The page of the reviews that a filter leaves, of the table as a query comes upon it. -/
def listReviews (p : Review → Bool) (found : List Review) (limit offset : ℕ) (requestingUserId : Option String) :
    ReviewPage :=
  let reviews := (((found.filter p).mergeSort fun a b => highestRated a b ≠ .gt).drop offset).take limit
  let formatted := reviews.map (formatReview db requestingUserId)
  ⟨formatted.mergeSort fun a b => verifiedFirst a b ≠ .gt, (found.filter p).length⟩

def listMerchantReviews (merchantId : String) (branchId : Option String) (found : List Review) (limit offset : ℕ)
    (requestingUserId : Option String) : ReviewPage :=
  listReviews db (merchantWhere branch merchantId branchId) found limit offset requestingUserId

def listBranchReviews (branchId : String) (found : List Review) (limit offset : ℕ) (requestingUserId : Option String) :
    ReviewPage :=
  listReviews db (branchWhere branch branchId) found limit offset requestingUserId

/-! ### Pages -/

/-- The second order, on rows. -/
def shownFirst (requestingUserId : Option String) (a b : Review) : Ordering :=
  verifiedFirst (formatReview db requestingUserId a) (formatReview db requestingUserId b)

instance transCmp_highestRated : Std.TransCmp highestRated :=
  have _ : Std.TransCmp fun a b : Review => compare b.rating a.rating :=
    Sorting.transCmp_on (fun a b : ℤ => compare b a) Review.rating
  have _ : Std.TransCmp fun a b : Review => compare b.createdAt a.createdAt :=
    Sorting.transCmp_on (fun a b : ℤ => compare b a) Review.createdAt
  Sorting.transCmp_then

instance transCmp_shownFirst (requestingUserId : Option String) : Std.TransCmp (shownFirst db requestingUserId) := by
  have hcreated : Std.TransCmp fun a b : Review => compare b.createdAt a.createdAt :=
    Sorting.transCmp_on (fun a b : ℤ => compare b a) Review.createdAt
  have heq : shownFirst db requestingUserId = Sorting.ahead (fun v => v.redemptionId.isSome)
      (fun a b => compare b.createdAt a.createdAt) fun a b => compare b.createdAt a.createdAt := by
    funext a b
    cases ha : a.redemptionId.isSome <;> cases hb : b.redemptionId.isSome <;>
      simp [shownFirst, verifiedFirst, formatReview, Sorting.ahead, ha, hb]
  rw [heq]
  exact Sorting.transCmp_ahead

/-- The listed reviews, in the order of the table. -/
def listed (p : Review → Bool) : List Review := db.reviews.filter p

theorem listReviews_eq (p : Review → Bool) (found : List Review) (k n : ℕ) (requestingUserId : Option String) :
    (listReviews db p found k (n * k) requestingUserId).reviews =
      (Paging.sliceThenSort highestRated (shownFirst db requestingUserId) (found.filter p) k n).map
        (formatReview db requestingUserId) :=
  (Paging.map_sortBy verifiedFirst (formatReview db requestingUserId) _).symm

/-- The pages of a filtered review list lose nothing exactly if no two of its reviews tie in both orders, those that tie
    in rating and date share a page, and no review of a later page belongs before one of an earlier. -/
theorem listReviews_lossless_iff (hid : (db.reviews.map Review.id).Nodup) (p : Review → Bool) {k : ℕ} (hk : 0 < k)
    (requestingUserId : Option String) :
    Paging.Lossless (fun found : List Review => found.Perm db.reviews)
        (fun found k n => (listReviews db p found k (n * k) requestingUserId).reviews) FormattedReview.id
        ((listed db p).map Review.id) k ↔
      Paging.Untied highestRated (shownFirst db requestingUserId) (listed db p) ∧
        Paging.Unbroken highestRated (listed db p) k ∧
        Paging.Aligned highestRated (shownFirst db requestingUserId) (listed db p) k := by
  have hd : (listed db p).Nodup := hid.of_map.filter p
  have hinj : ∀ a ∈ listed db p, ∀ b ∈ listed db p, a.id = b.id → a = b := fun a ha b hb hab =>
    List.inj_on_of_nodup_map hid (List.mem_filter.mp ha).1 (List.mem_filter.mp hb).1 hab
  rw [← Paging.lossless_sliceThenSort_iff hd hk]
  exact Paging.lossless_rows hd (fun found : List Review => found.filter p) (formatReview db requestingUserId)
    Paging.perm_filter_iff hinj (fun found _ k n => listReviews_eq db p found k n requestingUserId)
    Paging.mem_of_sliceThenSort

end Redeemo.Reviews
