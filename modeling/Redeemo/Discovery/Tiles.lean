import Mathlib.Data.List.Infix
import Redeemo.Discovery.Location
import Redeemo.Lib.Records
import Redeemo.Redemption.Service

/-! `enrichBranchTiles`: what a branch looks like on a list.

    The queries that an enrichment batches are written out for each branch: what they select depends on it alone. -/

namespace Redeemo.Discovery
open OpenStatus (isOpenNow)
open Records (isWhiteSpace trim)

/-! ### Text -/

def includes (s t : String) : Bool := t.toList <:+: s.toList

/-- `split(/\s+/)`, without the empty pieces. -/
def words (s : String) : List String := ((s.toList.splitOnP isWhiteSpace).filter fun w => w ≠ []).map String.ofList

/-- The runs of white space collapse to one blank each, and those at the ends go. -/
def normalizeSearchQuery (raw : Option String) : Option String := do
  let ws := words (← raw)
  if ws = [] then none else some (" ".intercalate ws)

def descriptorSuffixFor (c : Category) : String := c.descriptorSuffix.getD c.name

/-- The tag ends in words that the suffix starts with. -/
def WordsOverlap (tagWords suffixWords : List String) : Prop :=
  ∃ n < min tagWords.length suffixWords.length, tagWords.drop (tagWords.length - (n + 1)) = suffixWords.take (n + 1)

instance decidableWordsOverlap (tagWords suffixWords : List String) : Decidable (WordsOverlap tagWords suffixWords) :=
  inferInstanceAs (Decidable (∃ n < min tagWords.length suffixWords.length,
    tagWords.drop (tagWords.length - (n + 1)) = suffixWords.take (n + 1)))

def buildDescriptor (env : Platform) (tagLabel : Option String) (suffix : String) : String :=
  match truthy tagLabel with
  | none => suffix
  | some label =>
    if includes (env.toLowerCase suffix) (env.toLowerCase label) then suffix
    else if includes (env.toLowerCase label) (env.toLowerCase suffix) then label
    else if WordsOverlap (words (env.toLowerCase label)) (words (env.toLowerCase suffix)) then label
    else label ++ " " ++ suffix

/-- What follows the name at the front of a text, whatever the case. -/
def afterName (env : Platform) (name s : String) : Option (List Char) :=
  let chars := s.toList
  if env.toLowerCase (String.ofList (chars.take name.length)) = env.toLowerCase name then some (chars.drop name.length)
  else none

def isDash (c : Char) : Bool := c = '-' || c = '–' || c = '—'

/-- `^name\s*[\-–—]\s*` -/
def stripDashed (env : Platform) (name s : String) : String :=
  match (afterName env name s).map fun rest => rest.dropWhile isWhiteSpace with
  | some (c :: rest) => if isDash c then String.ofList (rest.dropWhile isWhiteSpace) else s
  | _ => s

/-- `^name\s+` -/
def stripSpaced (env : Platform) (name s : String) : String :=
  match afterName env name s with
  | some (c :: rest) => if isWhiteSpace c then String.ofList (rest.dropWhile isWhiteSpace) else s
  | _ => s

def branchShortNameServer (env : Platform) (rawBranchName businessName : String) (tradingName : Option String) :
    String :=
  let candidates := ([tradingName.getD "", businessName].map trim).filter fun c => c ≠ ""
  let strip (name : String) : String := trim (stripSpaced env name (stripDashed env name rawBranchName))
  match (candidates.map strip).find? fun s => s ≠ rawBranchName ∧ s ≠ "" with
  | some stripped => stripped
  | none => rawBranchName

/-! ### Ratings -/

structure Rating where
  avg : Option ℚ
  count : ℕ

/-- `Math.round(x * 10) / 10` -/
def roundTenth (x : ℚ) : ℚ := ((x * 10 + 1 / 2).floor : ℚ) / 10

variable (env : Platform) (db : Database) (now : ℤ)

def reviewsOf (branchId : String) : List Review := db.reviews.filter fun r => r.branchId = branchId ∧ r.isHidden = false

/-- The group of a branch, if it has any rows. -/
def ratingOf (branchId : String) : Option Rating :=
  let rows := reviewsOf db branchId
  if rows = [] then none
  else some ⟨some ((rows.map fun r => (r.rating : ℚ)).sum / rows.length), rows.length⟩

/-! ### Cards -/

structure CategoryCard where
  id : String
  name : String
  pinColour : Option String
  pinIcon : Option String
  descriptorSuffix : Option String
  parentId : Option String
  intentType : Option CategoryIntent

/-- A subcategory without a colour has that of its parent. -/
def categoryCard (c : Category) : CategoryCard where
  id := c.id
  name := c.name
  pinColour := c.pinColour.or ((parentOf db c).bind Category.pinColour)
  pinIcon := c.pinIcon
  descriptorSuffix := c.descriptorSuffix
  parentId := c.parentId
  intentType := c.intentType

def findTag (id : String) : Option Tag := db.tags.find? fun t => t.id = id

namespace Merchant
variable (m : Merchant)

def categories : List Category := m.categoryIds.filterMap (findCategory db)

def primaryCategory : Option Category := m.primaryCategoryId.bind (findCategory db)

def primaryDescriptorTag : Option Tag := m.primaryDescriptorTagId.bind (findTag db)

def tags : List Tag := m.tagIds.filterMap (findTag db)

/-- The vouchers that the tiles count: `ACTIVE`, `APPROVED` and no test data. -/
def vouchers : List Voucher :=
  db.vouchers.filter fun v => v.merchantId = m.id ∧ v.status = .ACTIVE ∧ v.approvalStatus = .APPROVED ∧ v.isTestData = false

/-- `orderBy: { sortOrder: 'asc' }, take: 3` -/
def firstHighlights : List (MerchantHighlight × Tag) :=
  ((sort (fun a b => compare a.sortOrder b.sortOrder) m.highlights).take 3).filterMap fun h =>
    (findTag db h.highlightTagId).map (h, ·)

/-- The first category that is a subcategory, and not the primary one. -/
def subcategory : Option Category :=
  (m.categories db).find? fun c => c.parentId.isSome ∧ (m.primaryCategory db).map Category.id ≠ some c.id

def descriptor : Option String :=
  (m.primaryCategory db).map fun c =>
    buildDescriptor env ((m.primaryDescriptorTag db).map Tag.label) (descriptorSuffixFor c)

def IsRedundant (highlightTagId : String) : Prop :=
  ∃ id ∈ truthy m.primaryCategoryId, ∃ r ∈ db.redundantHighlights, r.subcategoryId = id ∧ r.highlightTagId = highlightTagId

instance decidableIsRedundant (highlightTagId : String) : Decidable (m.IsRedundant db highlightTagId) :=
  inferInstanceAs (Decidable (∃ id ∈ truthy m.primaryCategoryId, ∃ r ∈ db.redundantHighlights,
    r.subcategoryId = id ∧ r.highlightTagId = highlightTagId))

def visibleHighlights : List (MerchantHighlight × Tag) :=
  ((m.firstHighlights db).filter fun h => ¬ m.IsRedundant db h.1.highlightTagId).take 3

def savings : List ℚ := (m.vouchers db).map Voucher.estimatedSaving

end Merchant

structure MerchantCard where
  id : String
  businessName : String
  tradingName : Option String
  logoUrl : Option String
  bannerUrl : Option String
  primaryCategory : Option CategoryCard
  primaryDescriptorTag : Option Tag
  subcategory : Option CategoryCard
  descriptor : String
  highlights : List (String × String)
  voucherCount : ℕ
  maxEstimatedSaving : Option ℚ
  totalEstimatedSaving : Option ℚ

def merchantCard (m : Merchant) : MerchantCard where
  id := m.id
  businessName := m.businessName
  tradingName := m.tradingName
  logoUrl := m.logoUrl
  bannerUrl := m.bannerUrl
  primaryCategory := (m.primaryCategory db).map (categoryCard db)
  primaryDescriptorTag := m.primaryDescriptorTag db
  subcategory := (m.subcategory db).map (categoryCard db)
  descriptor := (m.descriptor env db).getD ""
  highlights := (m.visibleHighlights db).map fun h => (h.1.highlightTagId, h.2.label)
  voucherCount := (m.vouchers db).length
  maxEstimatedSaving := (m.savings db).max?
  totalEstimatedSaving := if m.savings db = [] then none else some (((m.savings db).sum * 100 + 1 / 2).floor / 100)

/-! ### The match line -/

/-- Some field of the branch or its merchant shows the word. -/
def contentShows (includeDescriptionMatch : Bool) (b : Branch) (m : Merchant) (t : String) : Bool :=
  let shows (s : String) : Bool := includes (env.toLowerCase s) t
  shows m.businessName || m.tradingName.any shows || (m.primaryCategory db).any (fun c => shows c.name) ||
    (m.categories db).any (fun c => shows c.name) || (m.tags db).any (fun t => shows t.label) ||
    (m.firstHighlights db).any (fun h => shows h.2.label) || shows b.name || b.localityName.any shows ||
    b.postTown.any shows || (includeDescriptionMatch && m.description.any shows)

def computeVoucherMatchContext (rawQuery : Option String) (includeDescriptionMatch : Bool) (b : Branch) (m : Merchant) :
    Option String := do
  let q := env.toLowerCase (trim (← rawQuery))
  let tokens := words q
  if Redemption.utf16Length q < 2 ∨ tokens = [] then none
  else if tokens.all (contentShows env db includeDescriptionMatch b m) then none
  else
    let vouchers := sort (fun a b => compare a.createdAt b.createdAt) (m.vouchers db)
    let byTitle := vouchers.find? fun v => tokens.all (includes (env.toLowerCase v.title))
    let byDescription := vouchers.find? fun v =>
      v.description.any fun d => env.toLowerCase d ≠ "" ∧ tokens.all (includes (env.toLowerCase d))
    let v ← byTitle.or (if includeDescriptionMatch then byDescription else none)
    return "Found in \"" ++ v.title ++ "\" voucher"

/-! ### Tiles -/

structure EnrichBranchInput where
  branchId : String
  supplyRung : Option SupplyRung
  proximityBand : Option ProximityBand
  distance : Option ℚ

structure EnrichBranchCtx where
  userId : Option String
  matchContextQuery : Option String
  matchContextIncludeDescription : Bool

structure BranchTile where
  id : String
  branchName : String
  branchLocalityId : Option String
  branchLocalityName : Option String
  branchPostTown : Option String
  branchCity : String
  position : Branch.Position
  isOpenNow : Bool
  distance : Option ℚ
  isFavourited : Bool
  avgRating : Option ℚ
  reviewCount : ℕ
  supplyRung : Option SupplyRung
  proximityBand : Option ProximityBand
  merchant : MerchantCard
  matchContext : Option String

def merchantOf (b : Branch) : Option Merchant := db.merchants.find? fun m => m.id = b.merchantId

def IsFavourite (favourites : List Favourite) (userId : Option String) (targetId : String) : Prop :=
  ∃ id ∈ truthy userId, ∃ f ∈ favourites, f.userId = id ∧ f.targetId = targetId

instance decidableIsFavourite (favourites : List Favourite) (userId : Option String) (targetId : String) :
    Decidable (IsFavourite favourites userId targetId) :=
  inferInstanceAs (Decidable (∃ id ∈ truthy userId, ∃ f ∈ favourites, f.userId = id ∧ f.targetId = targetId))

def enrichBranchTile (ctx : EnrichBranchCtx) (input : EnrichBranchInput) (b : Branch) (m : Merchant) : BranchTile where
  id := b.id
  branchName := branchShortNameServer env b.name m.businessName m.tradingName
  branchLocalityId := b.localityId
  branchLocalityName := b.localityName
  branchPostTown := b.postTown
  branchCity := b.city
  position := b.exposeBranchPosition
  isOpenNow := isOpenNow b.openingHours now
  distance := input.distance
  isFavourited := IsFavourite db.favouriteBranches ctx.userId b.id
  avgRating := (ratingOf db b.id).bind fun r => r.avg.map roundTenth
  reviewCount := ((ratingOf db b.id).map Rating.count).getD 0
  supplyRung := input.supplyRung
  proximityBand := input.proximityBand
  merchant := merchantCard env db m
  matchContext := computeVoucherMatchContext env db ctx.matchContextQuery ctx.matchContextIncludeDescription b m

/-- The rows that an enrichment fetches, with their merchants. -/
def enrichable (branchId : String) : Option (Branch × Merchant) := do
  let b ← db.branches.find? fun b => b.id = branchId ∧ b.isTestData = false ∧ b.lifecycleStatus ≠ .PENDING_CREATE
  let m ← merchantOf db b
  if m.isTestData then none else some (b, m)

def enrichBranchTiles (inputs : List EnrichBranchInput) (ctx : EnrichBranchCtx) : List BranchTile :=
  inputs.filterMap fun input => (enrichable db input.branchId).map fun r => enrichBranchTile env db now ctx input r.1 r.2

end Redeemo.Discovery
