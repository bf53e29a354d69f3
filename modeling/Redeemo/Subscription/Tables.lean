import Mathlib.Algebra.Order.Group.Int
import Redeemo.Shared.Schema

/-! `Subscription`: a user has one row at most, and a Stripe subscription belongs to one row at most.

    Dates are milliseconds since the epoch. -/

namespace Redeemo.Billing

structure Subscription where
  id : String
  userId : String
  planId : String
  stripeSubscriptionId : Option String
  stripeCustomerId : Option String
  status : SubscriptionStatus
  currentPeriodStart : ℤ
  currentPeriodEnd : ℤ
  cycleAnchorDate : ℤ
  promoCodeId : Option String
  deriving DecidableEq, Repr

/-- The unique constraints of the table. -/
structure Unique (rows : List Subscription) : Prop where
  id : ∀ a ∈ rows, ∀ b ∈ rows, a.id = b.id → a = b
  userId : ∀ a ∈ rows, ∀ b ∈ rows, a.userId = b.userId → a = b
  stripeSubscriptionId : ∀ a ∈ rows, ∀ b ∈ rows, a.stripeSubscriptionId = b.stripeSubscriptionId →
    a.stripeSubscriptionId ≠ none → a = b

end Redeemo.Billing
