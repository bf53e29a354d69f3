import Mathlib.Algebra.Order.Group.Int
import Redeemo.Shared.Schema

/-! `AdminApproval`: a request that waits for an admin, and the admin who reviews it.

    The row names what it is about by the type and id of its reference. -/

namespace Redeemo

structure AdminApproval where
  id : ℕ
  type : ApprovalType
  referenceId : ℕ
  referenceType : String
  status : ApprovalStatus
  comment : Option String
  adminUserId : Option ℕ
  actionedAt : Option ℤ
  claimedById : Option ℕ
  claimedAt : Option ℤ
  deriving DecidableEq, Repr

def ACTIONABLE_STATUSES : List ApprovalStatus := [.PENDING, .CHANGES_REQUESTED]

/-- A decision on an approval: the claim is let go of. -/
def AdminApproval.decide (status : ApprovalStatus) (comment : Option String) (adminId : ℕ) (now : ℤ)
    (r : AdminApproval) : AdminApproval :=
  { r with
    status := status
    comment := comment.or r.comment
    adminUserId := some adminId
    actionedAt := some now
    claimedById := none
    claimedAt := none }

end Redeemo
