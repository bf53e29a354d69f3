import Mathlib.Data.List.Perm.Subperm
import Mathlib.Data.List.ReduceOption
import Redeemo.Admin.Leads
import Redeemo.Invites.Identity
import Redeemo.Lib.Rows

/-! Which business an invite names: a merchant with the place or the name, or a lead with the name.

    A merchant that is not live is never shown to the inviter. The same search runs a second time without that
    restriction, for a stamp that the inviter does not see. -/

namespace Redeemo.Invites
open Records Leads

structure SubmitInviteInput where
  userId : String
  businessNameRaw : String
  localityRaw : Option String
  googlePlaceId : Option String
  note : Option String
  consentShareName : Bool
  ip : String
  userAgent : Option String

/-! ### Merchants -/

structure Merchant where
  id : String
  businessName : String
  status : MerchantStatus
  deriving DecidableEq

structure Branch where
  merchantId : String
  googlePlaceId : Option String
  isActive : Bool
  addressLine1 : String
  addressLine2 : Option String
  city : String
  postcode : String
  localityName : Option String
  postTown : Option String
  deriving DecidableEq

structure Businesses where
  merchants : List Merchant
  branches : List Branch
  keyed : Rows.Keyed Merchant.id merchants
  /-- Every branch has its merchant. -/
  owned : ∀ b ∈ branches, ∃ m ∈ merchants, m.id = b.merchantId

def noBusinesses : Businesses := ⟨[], [], List.nodup_nil, by simp⟩

variable (rt : Runtime)

def branchLocalityHaystack (b : Branch) : String :=
  rt.toLowerCase (" ".intercalate (([some b.addressLine1, b.addressLine2, some b.city, some b.postcode, b.localityName,
    b.postTown].reduceOption).filter (· ≠ "")))

def branchMatchesLocality (localityRaw : Option String) (b : Branch) : Bool :=
  let token := rt.toLowerCase (trim (localityRaw.getD ""))
  token = "" || contains (branchLocalityHaystack rt b) token

/-- The merchant of the first branch at the place, among those that may count. -/
def placeLane (db : Businesses) (googlePlaceId : Option String) (activeOnly : Bool) : Option Merchant := do
  let placeId ← given googlePlaceId
  let branch ← db.branches.find? fun b => b.googlePlaceId = some placeId && (!activeOnly || b.isActive)
  db.merchants.find? fun m => m.id = branch.merchantId

def activeBranches (db : Businesses) (m : Merchant) : List Branch :=
  db.branches.filter fun b => b.merchantId = m.id && b.isActive

/-- The first merchant of the name, if one of its active branches lies in the locality. -/
def nameLane (db : Businesses) (businessNameTrimmed : String) (localityRaw : Option String) (activeOnly : Bool) :
    Option Merchant := do
  let merchant ← db.merchants.find? fun m =>
    (!activeOnly || m.status = .ACTIVE) && rt.insensitive m.businessName businessNameTrimmed
  if activeBranches db merchant = [] then (if activeOnly = true then none else some merchant)
  else if (activeBranches db merchant).any (branchMatchesLocality rt localityRaw) = true then some merchant
  else none

/-- Live only, it does not go on from the place to the name once the place belongs to a merchant. -/
def findMatchingMerchant (db : Businesses) (input : SubmitInviteInput) (activeOnly : Bool) : Option Merchant :=
  match placeLane db input.googlePlaceId activeOnly with
  | some merchant => if activeOnly = true ∧ merchant.status ≠ .ACTIVE then none else some merchant
  | none => nameLane rt db (trim input.businessNameRaw) input.localityRaw activeOnly

/-! ### Leads -/

def leadLocationMatches (locationHint localityRaw : Option String) : Bool :=
  let hint := rt.toLowerCase (trim (locationHint.getD ""))
  let raw := rt.toLowerCase (trim (localityRaw.getD ""))
  hint = "" || raw = "" || contains hint raw || contains raw hint

variable {κ : Type*}

def openLeads (leads : List (κ × Lead)) (businessNameTrimmed : String) : List (κ × Lead) :=
  leads.filter fun l => isPipelineLane l.2.stage && rt.insensitive l.2.businessName businessNameTrimmed

def convertedLeads (leads : List (κ × Lead)) (businessNameTrimmed : String) : List (κ × Lead) :=
  leads.filter fun l => l.2.stage = .CONVERTED && rt.insensitive l.2.businessName businessNameTrimmed

/-- The first of the rows that the database answers with. -/
def locate (localityRaw : Option String) (candidates : List (κ × Lead)) : Option (κ × Lead) :=
  candidates.find? fun l => leadLocationMatches rt l.2.locationHint localityRaw

/-- Ten rows at most, which ones and in which order the database says. -/
def TakesTen [DecidableEq κ] (rows candidates : List (κ × Lead)) : Prop :=
  candidates.Subperm rows ∧ candidates.length = min 10 rows.length

instance [DecidableEq κ] (rows candidates : List (κ × Lead)) : Decidable (TakesTen rows candidates) :=
  inferInstanceAs (Decidable (_ ∧ _))

/-- The stamp of the rewards: no merchant is found, live or not, and no lead that has become one. -/
def rewardEligible (db : Businesses) (input : SubmitInviteInput) (openCandidates converted : List (κ × Lead)) : Bool :=
  (findMatchingMerchant rt db input false).isNone && (locate rt input.localityRaw converted).isNone &&
    ((locate rt input.localityRaw openCandidates).bind fun l => l.2.convertedMerchantId).isNone

end Redeemo.Invites
