import Mathlib.Data.List.MinMax
import Redeemo.Lib.Rows
import Redeemo.Redemption.Service

/-! Reviews of branches, and the redemptions that verify them.

    A review is verified while it names a redemption. `upsertBranchReview` takes the one that the author names, keeps
    the one that the review has, or looks for the latest of the current cycle. -/

namespace Redeemo.Reviews
open CycleWindows Fallible Redemption

/-! ### Tables -/

structure Review where
  id : String
  userId : String
  branchId : String
  redemptionId : Option String
  rating : ℤ
  comment : Option String
  isHidden : Bool
  createdAt : ℤ
  updatedAt : ℤ
  deriving DecidableEq

structure ReviewHelpful where
  userId : String
  reviewId : String
  deriving DecidableEq

structure ReviewReport where
  reviewId : String
  reportedByUserId : String
  reason : String
  comment : Option String
  deriving DecidableEq

structure Names where
  branch : String → String
  firstName : String → Option String
  lastName : String → Option String

structure Database where
  catalog : Catalog
  /-- Under their ids. -/
  redemptions : List (String × VoucherRedemption)
  cycleStates : String × String → Option CycleState
  redis : Limiter.Store
  reviews : List Review
  helpfuls : List ReviewHelpful
  reports : List ReviewReport
  names : Names

/-- What a redemption sees of it. -/
def Database.world (db : Database) : World := ⟨⟨db.redemptions.map Prod.snd, db.cycleStates⟩, db.redis⟩

structure ReviewData where
  rating : ℤ
  comment : Option String
  redemptionId : Option String

/-- The instants of a call, and the id of the row that it may create. -/
structure Draws where
  checkedAt : ℤ
  linkedAt : ℤ
  writtenAt : ℤ
  reviewId : String

inductive Failure
  | app (e : AppError)
  | unique (target : List String)
  | foreignKey (field : String)
  deriving DecidableEq

/-! ### What a review is shown as -/

/-- An initial outside the basic plane is not cut in two here. -/
def buildDisplayName (firstName lastName : Option String) : String :=
  match firstName.filter (· ≠ ""), lastName.filter (· ≠ "") with
  | none, _ => "Anonymous"
  | some first, none => first
  | some first, some last => first ++ " " ++ String.ofList (last.toList.take 1) ++ "."

structure FormattedReview where
  id : String
  branchId : String
  branchName : String
  displayName : String
  rating : ℤ
  comment : Option String
  isVerified : Bool
  isOwnReview : Bool
  createdAt : ℤ
  updatedAt : ℤ
  helpfulCount : ℕ
  userMarkedHelpful : Bool
  deriving DecidableEq

def formatReview (db : Database) (requestingUserId : Option String) (v : Review) : FormattedReview where
  id := v.id
  branchId := v.branchId
  branchName := db.names.branch v.branchId
  displayName := buildDisplayName (db.names.firstName v.userId) (db.names.lastName v.userId)
  rating := v.rating
  comment := v.comment
  isVerified := v.redemptionId.isSome
  isOwnReview := requestingUserId = some v.userId
  createdAt := v.createdAt
  updatedAt := v.updatedAt
  helpfulCount := db.helpfuls.countP fun h => h.reviewId = v.id
  userMarkedHelpful := requestingUserId.any fun userId => decide (⟨userId, v.id⟩ ∈ db.helpfuls)

/-! ### Which redemption -/

namespace Database
variable (db : Database)

def getUserCycleWindowOrNull (userId : String) (now : ℤ) : Option CycleWindow :=
  (db.catalog.subscription userId).map fun sub => getCurrentCycleWindow sub.cycleAnchorDate now

/-- The merchant of the redeemed voucher. -/
def merchantOf (r : VoucherRedemption) : Option String := (db.catalog.voucher r.voucherId).map Voucher.merchantId

-- The order of ℤ that compiles.
local instance intPreorder : Preorder ℤ := Int.instLinearOrder.toPreorder

def autoLinkRedemption (userId branchId branchMerchantId : String) (now : ℤ) : Option String := do
  let window ← db.getUserCycleWindowOrNull userId now
  let newest ← List.argmax (fun r => r.2.redeemedAt) (db.redemptions.filter fun r =>
    r.2.userId = userId ∧ r.2.branchId = branchId ∧ db.merchantOf r.2 = some branchMerchantId ∧
      window.cycleStart ≤ r.2.redeemedAt ∧ r.2.redeemedAt < window.cycleEnd)
  return newest.1

/-- Of a redemption that the author names. -/
def checkRedemption (userId branchId branchMerchantId redemptionId : String) (now : ℤ) : Except AppError Unit := do
  let window ← orReject (db.getUserCycleWindowOrNull userId now) .REDEMPTION_NOT_FOUND
  let redemption ← orReject (db.redemptions.find? fun r => r.1 = redemptionId ∧ r.2.userId = userId ∧
    window.cycleStart ≤ r.2.redeemedAt ∧ r.2.redeemedAt < window.cycleEnd) .REDEMPTION_NOT_FOUND
  rejectIf (redemption.2.branchId ≠ branchId) .REDEMPTION_BRANCH_MISMATCH
  rejectIf (db.merchantOf redemption.2 ≠ some branchMerchantId) .REDEMPTION_MERCHANT_MISMATCH

/-- A branch that takes reviews. -/
def reviewable (branchId : String) : Option Branch :=
  (db.catalog.branch branchId).filter fun b => b.isActive && b.lifecycleStatus ≠ .PENDING_CREATE

/-- The branch, once the call may go on to write. -/
def checkUpsert (branchId userId : String) (data : ReviewData) (now : ℤ) : Except AppError Branch := do
  let branch ← orReject (db.reviewable branchId) .BRANCH_NOT_FOUND
  (match data.redemptionId.filter (· ≠ "") with
    | some redemptionId => db.checkRedemption userId branchId branch.merchantId redemptionId now
    | none => .ok ())
  return branch

/-- Explicit, else preserved, else linked here. -/
def resolvedRedemptionId (branchId userId branchMerchantId : String) (data : ReviewData) (existing : Option Review)
    (now : ℤ) : Option String :=
  match data.redemptionId.filter (· ≠ "") with
  | some redemptionId => some redemptionId
  | none =>
    match (existing.bind Review.redemptionId).filter (· ≠ "") with
    | some redemptionId => some redemptionId
    | none => db.autoLinkRedemption userId branchId branchMerchantId now

def findReview (userId branchId : String) : Option Review :=
  db.reviews.find? fun v => (v.userId, v.branchId) = (userId, branchId)

/-! ### Statements -/

/-- The constraints on `redemptionId`: unique, and the id of a redemption. -/
def checkLink (reviewId : String) (redemptionId : Option String) : Except Failure Unit := do
  rejectIf (redemptionId.isSome = true ∧ ∃ v ∈ db.reviews, v.id ≠ reviewId ∧ v.redemptionId = redemptionId)
    (.unique ["redemptionId"])
  rejectIf (∃ id ∈ redemptionId, id ∉ db.redemptions.map Prod.fst) (.foreignKey "redemptionId")

def createReview (v : Review) : Except Failure Database := do
  rejectIf (∃ w ∈ db.reviews, w.id = v.id) (.unique ["id"])
  rejectIf (∃ w ∈ db.reviews, (w.userId, w.branchId) = (v.userId, v.branchId)) (.unique ["userId", "branchId"])
  db.checkLink v.id v.redemptionId
  return { db with reviews := db.reviews ++ [v] }

/-- The row of `v`'s id becomes `v`. -/
def updateReview (v : Review) : Except Failure Database := do
  db.checkLink v.id v.redemptionId
  return { db with reviews := Rows.updateMany (fun w => w.id = v.id) (fun _ => v) db.reviews }

/-- What readers have left on a review. -/
def clearReactions (reviewId : String) : Database :=
  { db with
    helpfuls := db.helpfuls.filter fun h => h.reviewId ≠ reviewId
    reports := db.reports.filter fun r => r.reviewId ≠ reviewId }

end Database

/-! ### The calls -/

/-- The row that a call leaves: a review that was deleted starts anew. -/
def written (branchId userId : String) (data : ReviewData) (draws : Draws) (existing : Option Review)
    (redemptionId : Option String) : Review where
  id := (existing.map Review.id).getD draws.reviewId
  userId := userId
  branchId := branchId
  redemptionId := redemptionId
  rating := data.rating
  comment := data.comment
  isHidden := false
  createdAt :=
    match existing with
    | some v => if v.isHidden = true then draws.writtenAt else v.createdAt
    | none => draws.writtenAt
  updatedAt := draws.writtenAt

def orFail {α : Type} : Except AppError α → Except Failure α
  | .ok a => .ok a
  | .error e => .error (.app e)

def upsertBranchReview (db : Database) (branchId userId : String) (data : ReviewData) (draws : Draws) :
    Except Failure (FormattedReview × Database) := do
  let branch ← orFail (db.checkUpsert branchId userId data draws.checkedAt)
  let existing := db.findReview userId branchId
  let redemptionId := db.resolvedRedemptionId branchId userId branch.merchantId data existing draws.linkedAt
  let review := written branchId userId data draws existing redemptionId
  let db ← match existing with
    | some v => (if v.isHidden = true then db.clearReactions v.id else db).updateReview review
    | none => db.createReview review
  return (formatReview db (some userId) review, db)

def hide (now : ℤ) (v : Review) : Review := { v with isHidden := true, updatedAt := now }

def deleteBranchReview (db : Database) (reviewId userId : String) (now : ℤ) : Except AppError Database := do
  let review ← orReject (db.reviews.find? fun v => v.id = reviewId) .REVIEW_NOT_FOUND
  rejectIf (review.userId ≠ userId) .REVIEW_NOT_OWNED
  return { db with reviews := Rows.updateMany (fun v => v.id = reviewId) (hide now) db.reviews }

def reportReview (db : Database) (reviewId userId reason : String) (comment : Option String) :
    Except AppError (Bool × Database) := do
  let _ ← orReject (db.reviews.find? fun v => v.id = reviewId) .REVIEW_NOT_FOUND
  if ∃ r ∈ db.reports, (r.reviewId, r.reportedByUserId) = (reviewId, userId) then return (false, db)
  else return (true, { db with reports := db.reports ++ [⟨reviewId, userId, reason, comment⟩] })

def toggleHelpful (db : Database) (reviewId userId : String) : Except AppError (Bool × Database) := do
  let _ ← orReject (db.reviews.find? fun v => v.id = reviewId) .REVIEW_NOT_FOUND
  if ⟨userId, reviewId⟩ ∈ db.helpfuls then
    return (false, { db with helpfuls := db.helpfuls.filter fun h => h ≠ ⟨userId, reviewId⟩ })
  else return (true, { db with helpfuls := db.helpfuls ++ [⟨userId, reviewId⟩] })

/-- `createRedemption`; `id` is drawn by the database for the row. -/
def redeem (db : Database) (decrypt : String → Except DecryptFault String) (id redemptionCode userId : String)
    (data : Request) (now : ℕ) : Database :=
  let (result, world) := createRedemption db.catalog decrypt redemptionCode userId data now db.world
  { db with
    redemptions :=
      match result with
      | .ok row => (id, row) :: db.redemptions
      | .error _ => db.redemptions
    cycleStates := world.tables.cycleStates
    redis := world.redis }

/-! ### Any sequence of calls -/

/-- Whatever else happens to the tables that the calls only read: branches and vouchers stay their merchant's. -/
structure Change where
  apply : Catalog → Catalog
  voucher : ∀ cat id v, cat.voucher id = some v → ∃ v', (apply cat).voucher id = some v' ∧ v'.merchantId = v.merchantId
  branch : ∀ cat id b, cat.branch id = some b → ∃ b', (apply cat).branch id = some b' ∧ b'.merchantId = b.merchantId

inductive Act
  | upsertBranchReview (branchId userId : String) (data : ReviewData) (draws : Draws)
  | deleteBranchReview (reviewId userId : String) (now : ℤ)
  | reportReview (reviewId userId reason : String) (comment : Option String)
  | toggleHelpful (reviewId userId : String)
  | createRedemption (id redemptionCode userId : String) (data : Request) (now : ℕ)
  | change (c : Change)

/-- A call that fails writes nothing. No id is drawn twice, and none is empty. -/
def step (decrypt : String → Except DecryptFault String) (db : Database) : Act → Option Database
  | .upsertBranchReview branchId userId data draws =>
    if draws.reviewId ∈ db.reviews.map Review.id then none
    else match upsertBranchReview db branchId userId data draws with
      | .ok (_, db') => some db'
      | .error _ => some db
  | .deleteBranchReview reviewId userId now =>
    match deleteBranchReview db reviewId userId now with
    | .ok db' => some db'
    | .error _ => some db
  | .reportReview reviewId userId reason comment =>
    match reportReview db reviewId userId reason comment with
    | .ok (_, db') => some db'
    | .error _ => some db
  | .toggleHelpful reviewId userId =>
    match toggleHelpful db reviewId userId with
    | .ok (_, db') => some db'
    | .error _ => some db
  | .createRedemption id redemptionCode userId data now =>
    if id = "" ∨ id ∈ db.redemptions.map Prod.fst then none
    else some (redeem db decrypt id redemptionCode userId data now)
  | .change c => some { db with catalog := c.apply db.catalog }

/-- No review and no redemption yet. -/
def opened (catalog : Catalog) (redis : Limiter.Store) (names : Names) : Database where
  catalog := catalog
  redemptions := []
  cycleStates _ := none
  redis := redis
  reviews := []
  helpfuls := []
  reports := []
  names := names

end Redeemo.Reviews
