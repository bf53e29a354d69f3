import Redeemo.Lib.Records
import Redeemo.Shared.Approvals
import Redeemo.Shared.LocationTrust
import Redeemo.Voucher.Tables

/-! Pending edits of a merchant, a branch or a voucher, and what an approval applies of them.

    `proposedChanges` is free JSON. Each kind has its own list of the columns that may be written, and no
    other key gets through; a voucher is changed or ended, and a branch may gain and lose photos. -/

namespace Redeemo.PendingEdits
open Fallible Records LocationTrust

inductive EditKind
  | merchant | branch | voucher
  deriving DecidableEq, Repr

def editKindOf : ApprovalType → Option EditKind
  | .MERCHANT_IDENTITY_EDIT => some .merchant
  | .BRANCH_IDENTITY_EDIT => some .branch
  | .VOUCHER_EDIT => some .voucher
  | _ => none

/-! ### The rows -/

inductive EditBody
  | merchant
  | branch (includesPhotos : Bool)
  | voucher (kind : VoucherEditKind)
  deriving DecidableEq, Repr

def EditBody.kind : EditBody → EditKind
  | .merchant => .merchant
  | .branch _ => .branch
  | .voucher _ => .voucher

structure PendingEdit where
  id : ℕ
  body : EditBody
  proposedChanges : Record
  status : PendingEditStatus
  reviewedBy : Option ℕ
  reviewNote : Option String
  reviewedAt : Option ℤ

/-- The live row, by its columns. -/
inductive Entity
  | merchant (columns : String → Json)
  | branch (columns : String → Json)
  | voucher (isRmv isMandatory : Bool) (status : VoucherStatus) (columns : String → Json)

structure BranchPhoto where
  id : String
  url : String
  moderationStatus : PhotoModerationStatus
  sortOrder : ℤ
  deriving DecidableEq, Repr

/-! ### What may be written -/

def MERCHANT_SENSITIVE_FIELDS : List String := ["businessName", "tradingName", "logoUrl", "bannerUrl", "description"]

def BRANCH_SENSITIVE_FIELDS : List String :=
  ["name", "about", "addressLine1", "addressLine2", "city", "postcode", "latitude", "longitude", "logoUrl", "bannerUrl"]

def BRANCH_LOCATION_SNAPSHOT_FIELDS : List String :=
  ["latitude", "longitude", "localityId", "localityName", "postTown", "ladDistrict", "adminCounty", "region",
    "locationCountry", "locationResolvedAt", "locationConfidence"]

def LOCATION_SUGGESTION_KEY : String := "__locationSuggestion"

def VOUCHER_EDITABLE_FIELDS : List String := ["title", "description", "estimatedSaving", "terms", "imageUrl"]

def pickAllowed (proposed : Record) (allow : List String) : Record :=
  allow.filterMap fun key => (proposed.get key).map fun v => (key, v)

/-- A string that may go into the column; a title is not blank. -/
def textField (picked : Record) (field : String) : Option (String × Json) :=
  (picked.text field).bind fun s => if field = "title" ∧ isBlank s = true then none else some (field, .string s)

/-- Strings of the wrong type are dropped; a bad saving fails. -/
def buildVoucherApplied (proposed : Record) : Except AppError Record := do
  let picked := pickAllowed proposed VOUCHER_EDITABLE_FIELDS
  let out := ["title", "description", "terms", "imageUrl"].filterMap (textField picked)
  match picked.get "estimatedSaving" with
  | none => return out
  | some (.number s) => do
    rejectIf (s ≤ 0) .SAVING_INVALID
    rejectIf (Vouchers.SAVING_COLUMN_MAX ≤ Vouchers.toScale2 s) .SAVING_INVALID
    return out ++ [("estimatedSaving", .number (Vouchers.toScale2 s))]
  | some _ => .error .SAVING_INVALID

structure PhotoChanges where
  addUrls : List String
  removeIds : List String
  deriving DecidableEq, Repr

def stringsOf (p : String → Bool) : Option Json → List String
  | some (.array items) => items.filterMap fun
    | .string s => if p s = true then some s else none
    | _ => none
  | _ => []

def parsePhotoChanges (proposed : Record) : PhotoChanges where
  addUrls := stringsOf (fun u => !isBlank u) (proposed.get "add")
  removeIds := stringsOf (fun id => id ≠ "") (proposed.get "remove")

/-- `applied[key] = v`. -/
def setKey (key : String) (v : Json) (applied : Record) : Record := applied.spread [(key, v)]

/-- A staged Google pin is taken if it passes against the freshly resolved postcode. -/
def applyLocationTrust (geo : Geography ℚ) (applied : Record) (rawSuggestion : Option Json) : Record :=
  match rawSuggestion with
  | some (.object s) =>
    match Record.num "latitude" s, Record.num "longitude" s, Record.text "placeId" s with
    | some googleLat, some googleLng, some placeId =>
      if placeId = "" then applied
      else match applied.text "locationConfidence", applied.text "postcode", applied.num "latitude",
          applied.num "longitude" with
        | some confidence, some postcode, some centroidLat, some centroidLng =>
          if confidence ≠ "POSTCODE_CENTROID" then applied
          else match crossCheckGoogleLocation geo googleLat googleLng (Record.text "postcode" s) postcode
              (some centroidLat) (some centroidLng) with
            | .ok _ => setKey "locationConfidence" (.string "ADDRESS_GEOCODED") <|
              setKey "googlePlaceId" (.string placeId) <| setKey "longitude" (.number googleLng) <|
                setKey "latitude" (.number googleLat) applied
            | .error _ => setKey "locationConfidence" (.string "NEEDS_REVIEW") applied
        | _, _, _, _ => applied
    | _, _, _ => applied
  | _ => applied

/-! ### The approval of an edit -/

/-- What an approval writes to the live row. -/
inductive EntityWrite
  | columns (data : Record)
  /-- The voucher's status becomes INACTIVE. -/
  | endVoucher

structure Plan where
  /-- `none` where there is nothing to write. -/
  write : Option EntityWrite
  photos : PhotoChanges

def setColumns (data : Record) (columns : String → Json) (c : String) : Json := (data.get c).getD (columns c)

def Entity.update : EntityWrite → Entity → Entity
  | .columns data, .merchant columns => .merchant (setColumns data columns)
  | .columns data, .branch columns => .branch (setColumns data columns)
  | .columns data, .voucher isRmv isMandatory status columns =>
    .voucher isRmv isMandatory status (setColumns data columns)
  | .endVoucher, .voucher isRmv isMandatory _ columns => .voucher isRmv isMandatory .INACTIVE columns
  | .endVoucher, e => e

def noPhotos : PhotoChanges := ⟨[], []⟩

/-- `if (Object.keys(applied).length > 0)`. -/
def writeOf (applied : Record) : Option EntityWrite := if applied = [] then none else some (.columns applied)

/-- What the approval of an edit will write, from the live row that its reference finds. -/
def plan (geo : Geography ℚ) (edit : PendingEdit) (live : Entity) : Except AppError Plan :=
  match edit.body, live with
  | .merchant, .merchant _ => .ok ⟨writeOf (pickAllowed edit.proposedChanges MERCHANT_SENSITIVE_FIELDS), noPhotos⟩
  | .merchant, _ => .error .MERCHANT_NOT_FOUND
  | .voucher .END, .voucher isRmv isMandatory status _ => do
    rejectIf (isRmv = true ∨ isMandatory = true) .VOUCHER_EDIT_NOT_ALLOWED
    rejectIf (status ≠ .ACTIVE) .VOUCHER_EDIT_NOT_ALLOWED
    return ⟨some .endVoucher, noPhotos⟩
  | .voucher .CHANGE, .voucher isRmv _ status _ => do
    rejectIf (isRmv = false) .VOUCHER_EDIT_NOT_ALLOWED
    rejectIf (status ≠ .ACTIVE) .VOUCHER_EDIT_NOT_ALLOWED
    let applied ← buildVoucherApplied edit.proposedChanges
    return ⟨writeOf applied, noPhotos⟩
  | .voucher _, _ => .error .VOUCHER_NOT_FOUND
  | .branch includesPhotos, .branch _ =>
    let proposed := edit.proposedChanges
    let applied := (pickAllowed proposed BRANCH_SENSITIVE_FIELDS).spread
      (pickAllowed proposed BRANCH_LOCATION_SNAPSHOT_FIELDS)
    .ok ⟨writeOf (applyLocationTrust geo applied (proposed.get LOCATION_SUGGESTION_KEY)),
      if includesPhotos = true then parsePhotoChanges proposed else noPhotos⟩
  | .branch _, _ => .error .BRANCH_NOT_FOUND

/-! ### Decisions -/

def PendingEdit.approve (adminId : ℕ) (now : ℤ) (edit : PendingEdit) : PendingEdit :=
  { edit with status := .APPROVED, reviewedBy := some adminId, reviewedAt := some now }

def PendingEdit.reject (adminId : ℕ) (reason : String) (now : ℤ) (edit : PendingEdit) : PendingEdit :=
  { edit with status := .REJECTED, reviewNote := some reason, reviewedBy := some adminId, reviewedAt := some now }

def PendingEdit.withdraw (now : ℤ) (edit : PendingEdit) : PendingEdit :=
  { edit with status := .WITHDRAWN, reviewedAt := some now }

def withdrawApproval (now : ℤ) (r : AdminApproval) : AdminApproval :=
  { r with
    status := .WITHDRAWN
    claimedById := none
    claimedAt := none
    actionedAt := some now
    comment := some "Merchant withdrew the request" }

/-- What `approveEdit` and `rejectEdit` check of the approval. -/
def checkEditApproval (approval : AdminApproval) : Except AppError EditKind := do
  let kind ← orReject (editKindOf approval.type) .APPROVAL_NOT_ACTIONABLE
  rejectIf (approval.status ≠ .PENDING) .APPROVAL_NOT_ACTIONABLE
  return kind

/-- And of the edit, which is looked up among the edits of the approval's kind. -/
def checkEdit (kind : EditKind) (referenceId : ℕ) (edit : PendingEdit) : Except AppError Unit := do
  rejectIf (edit.body.kind ≠ kind ∨ edit.id ≠ referenceId) .PENDING_EDIT_NOT_FOUND
  rejectIf (edit.status ≠ .PENDING) .PENDING_EDIT_NOT_ACTIONABLE

end Redeemo.PendingEdits
