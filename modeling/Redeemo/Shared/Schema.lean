/-! Enumerations of the database schema. -/

namespace Redeemo

inductive VoucherType
  | BOGO | SPEND_AND_SAVE | DISCOUNT_FIXED | DISCOUNT_PERCENT | FREEBIE | PACKAGE_DEAL
  | TIME_LIMITED | REUSABLE
  deriving DecidableEq, Repr

inductive VoucherStatus
  | DRAFT | PENDING_APPROVAL | ACTIVE | INACTIVE | EXPIRED
  deriving DecidableEq, Repr

inductive ApprovalStatus
  | PENDING | APPROVED | REJECTED | CHANGES_REQUESTED | WITHDRAWN
  deriving DecidableEq, Repr

inductive MerchantStatus
  | REGISTERED | PENDING_APPROVAL | ACTIVE | INACTIVE | SUSPENDED | DELETED
  deriving DecidableEq, Repr

inductive OnboardingStep
  | REGISTERED | BRANCH_ADDED | CONTRACT_SIGNED | RMV_CONFIGURED | SUBMITTED | UNDER_REVIEW | APPROVED
  | LIVE | SUSPENDED | NEEDS_CHANGES | REJECTED
  deriving DecidableEq, Repr

inductive VerificationStatus
  | NOT_SUBMITTED | PENDING | VERIFIED | REJECTED
  deriving DecidableEq, Repr

inductive ContractStatus
  | NOT_SIGNED | SIGNED
  deriving DecidableEq, Repr

inductive ApprovalType
  | MERCHANT_ONBOARDING | VOUCHER | MERCHANT_PROFILE_EDIT | MERCHANT_IDENTITY_EDIT
  | BRANCH_IDENTITY_EDIT | BRANCH_CREATE | BRANCH_CLOSE | VOUCHER_EDIT
  deriving DecidableEq, Repr

inductive PendingEditStatus
  | PENDING | APPROVED | REJECTED | WITHDRAWN
  deriving DecidableEq, Repr

inductive VoucherEditKind
  | CHANGE | END
  deriving DecidableEq, Repr

inductive PhotoModerationStatus
  | PENDING | APPROVED | FLAGGED
  deriving DecidableEq, Repr

inductive UserStatus
  | ACTIVE | INACTIVE | SUSPENDED | DELETED
  deriving DecidableEq, Repr

inductive MerchantRole
  | OWNER | BRANCH_MANAGER | STAFF
  deriving DecidableEq, Repr

inductive AdminRole
  | SUPER_ADMIN | OPERATIONS | FINANCE | CONTENT | SUPPORT | FIELD
  deriving DecidableEq, Repr

inductive LeadStage
  | LEAD | CONTACTED | VISIT_BOOKED | CONVERTED | LOST
  deriving DecidableEq, Repr

inductive LocationConfidence
  | MANUALLY_CONFIRMED | ADDRESS_GEOCODED | POSTCODE_CENTROID | NEEDS_REVIEW | MERCHANT_CONFIRMED
  deriving DecidableEq, Repr

inductive BranchLifecycleStatus
  | PENDING_CREATE | LIVE | PENDING_CLOSE | CLOSED
  deriving DecidableEq, Repr

inductive SubscriptionStatus
  | TRIALLING | ACTIVE | CANCELLED | EXPIRED | PAST_DUE
  deriving DecidableEq, Repr

inductive ValidationMethod
  | PIN | QR_SCAN | MANUAL
  deriving DecidableEq, Repr

end Redeemo
