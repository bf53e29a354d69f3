import Mathlib.Algebra.Order.Group.Int

/-! `AppError`: the codes the modelled functions throw, each with the details it carries. An instant
    among the details stands for its `toISOString()` text. -/

namespace Redeemo

inductive FieldCode
  | REQUIRED | INVALID | INCONSISTENT
  deriving DecidableEq, Repr

structure FieldError where
  field : String
  code : FieldCode
  message : String
  deriving DecidableEq, Repr

structure OnboardingChecklist where
  branch_created : Bool
  contract_signed : Bool
  rmv_configured : Bool
  deriving DecidableEq, Repr

inductive AppError
  | VOUCHER_NOT_FOUND
  | VOUCHER_OUTSIDE_AVAILABILITY_WINDOW (nextWindowAt : Option ℤ)
  | BRANCH_UNAVAILABLE
  | BRANCH_MERCHANT_MISMATCH
  | SUBSCRIPTION_REQUIRED
  | PHONE_NOT_VERIFIED
  | ALREADY_REDEEMED
  | ALREADY_REDEEMED_THIS_WINDOW (nextWindowAt : Option ℤ)
  | REUSABLE_COOLDOWN_ACTIVE (availableAgainAt : ℤ)
  | PIN_NOT_CONFIGURED
  | PIN_RATE_LIMIT_EXCEEDED (retryAfter : ℤ)
  | INVALID_PIN (remainingAttempts : ℤ)
  | KEY_NOT_AVAILABLE
  | REDEMPTION_PIN_UNREADABLE
  | REDEMPTION_NOT_FOUND
  | MERCHANT_MISMATCH
  | INSUFFICIENT_PERMISSIONS
  | ALREADY_VALIDATED
  | BRANCH_ACCESS_DENIED
  | MERCHANT_SUSPENDED
  | INVALID_AVAILABILITY_WINDOWS (reason : String)
  | OPENING_HOURS_INVALID (reason : String)
  | INVALID_CREDENTIALS
  | MULTI_MEMBERSHIP_UNSUPPORTED
  | MERCHANT_NOT_FOUND
  | MERCHANT_NOT_ACTIVE
  | MERCHANT_NOT_PRE_LIVE_FOR_FIELD
  | POSTCODE_REQUIRED
  | POSTCODE_NOT_FOUND
  | GAZETTEER_UNAVAILABLE
  | BRANCH_NOT_FOUND
  | BRANCH_NOT_PENDING_CREATE
  | BRANCH_CLOSE_REQUEST_EXISTS
  | BRANCH_CLOSE_REQUEST_NOT_FOUND
  | BRANCH_IS_MAIN
  | BRANCH_LAST_ACTIVE
  | NO_SENSITIVE_FIELDS
  | PENDING_EDIT_EXISTS
  | APPROVAL_NOT_FOUND
  | APPROVAL_NOT_ACTIONABLE
  | MAIN_BRANCH_LOCATION_UNCONFIRMED
  | WEBHOOK_SIGNATURE_INVALID
  | STRIPE_ERROR
  | PAYMENT_METHOD_REQUIRED
  | SUBSCRIPTION_ALREADY_ACTIVE
  | PLAN_NOT_FOUND
  | PROMO_CODE_INVALID
  | PROMO_CODE_EXHAUSTED
  | VOUCHER_NOT_EDITABLE
  | VOUCHER_NOT_SUBMITTABLE
  | VOUCHER_NOT_ACTIONABLE
  | VOUCHER_WITHDRAW_NOT_PENDING
  | VOUCHER_EDIT_NOT_ALLOWED
  | SAVING_INVALID
  | COOLDOWN_REUSABLE_ONLY
  | TIME_LIMITED_REQUIRES_WINDOW
  | MERCHANT_FIELDS_TOO_LARGE
  | VOUCHER_INCOMPLETE (fields : List FieldError)
  | VOUCHER_TYPE_NOT_ELIGIBLE
  | FLAGSHIP_RMV_LIMIT_REACHED
  | NO_RMV_TEMPLATE
  | RMV_NOT_FOUND
  | RMV_TEMPLATE_UNAVAILABLE
  | RMV_FIELD_NOT_ALLOWED
  | CATEGORY_CHANGE_BLOCKED
  | ONBOARDING_GATES_INCOMPLETE (checklist : OnboardingChecklist)
  /-- The same code, without the checklist. -/
  | ONBOARDING_GATES_INCOMPLETE_BARE
  | ALREADY_SUBMITTED
  | APPROVAL_ALREADY_CLAIMED
  | APPROVAL_NOT_CLAIMER
  | MERCHANT_NOT_SUSPENDED
  | VOUCHER_NOT_DELETABLE
  | PENDING_EDIT_NOT_FOUND
  | PENDING_EDIT_NOT_ACTIONABLE
  | VOUCHER_EDIT_INVALID_FIELD
  | BRANCH_LOCATION_ALREADY_CONFIRMED
  | MEMBER_NOT_FOUND
  | LAST_OWNER_PROTECTED
  | EMAIL_ALREADY_EXISTS
  | BRANCH_NOT_OWNED
  | REFRESH_TOKEN_INVALID
  | SESSION_REPLACED
  | ACCOUNT_INACTIVE
  | ACCOUNT_SUSPENDED
  | BRANCH_USER_DEACTIVATED
  | BRANCH_USER_NOT_FOUND
  | MULTIPLE_BRANCH_USERS
  | ACTION_TOKEN_INVALID
  | VERIFICATION_TOKEN_INVALID
  | OTP_INVALID
  | CAPTCHA_FAILED
  | PASSWORD_POLICY_VIOLATION
  | RESET_TOKEN_EXPIRED
  | CLAIM_TOKEN_EXPIRED
  | ADMIN_NOT_FOUND
  | ADMIN_SELF_ACTION_FORBIDDEN
  | LAST_SUPER_ADMIN_PROTECTED
  | LEAD_NOT_FOUND
  | LEAD_ANONYMISED
  | LEAD_ALREADY_CONVERTED
  | LEAD_STAGE_NOT_DIRECTLY_SETTABLE
  | LEAD_LOST_REASON_REQUIRED
  | SESSION_REVOKED
  | USER_NOT_FOUND
  | INVITE_BUSINESS_NAME_REQUIRED
  | INVITE_BUSINESS_NAME_INVALID
  | INVITE_NOTE_INVALID
  | INVITE_CAP_REACHED
  | INVITE_SUBMIT_CONTENTION
  | REDEMPTION_BRANCH_MISMATCH
  | REDEMPTION_MERCHANT_MISMATCH
  | REVIEW_NOT_FOUND
  | REVIEW_NOT_OWNED
  | CONTRACT_ALREADY_SIGNED
  | AGREEMENT_VERSION_MISMATCH
  | AGREEMENT_LEGAL_REVIEW_REQUIRED
  | AGREEMENT_SIGNER_INVALID
  | AGREEMENT_REVIEW_HASH_MISMATCH
  | STORAGE_NOT_ENABLED
  | IDENTITY_EDIT_REQUIRES_DRAFT
  | CATEGORY_NOT_FOUND
  | NOT_A_SUBCATEGORY
  | TAG_NOT_ELIGIBLE
  | SEARCH_QUERY_REQUIRED
  | MERCHANT_UNAVAILABLE
  deriving DecidableEq, Repr

end Redeemo
