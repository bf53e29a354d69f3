import Redeemo.Admin.ClaimStale
import Redeemo.Admin.LeadRetention
import Redeemo.Admin.Leads
import Redeemo.Admin.Team
import Redeemo.Agreement.Once
import Redeemo.Agreement.Preview
import Redeemo.Agreement.Signing
import Redeemo.Agreement.Versions
import Redeemo.Auth.Attempts
import Redeemo.Auth.Challenges
import Redeemo.Auth.Consumption
import Redeemo.Auth.EmailedTokens
import Redeemo.Auth.MobileSession
import Redeemo.Auth.Registration
import Redeemo.Auth.Revocation
import Redeemo.Auth.Rotation
import Redeemo.Auth.Sessions
import Redeemo.Branch.AdminRoutes
import Redeemo.Branch.Correspondence
import Redeemo.Branch.Deletion
import Redeemo.Branch.Disappears
import Redeemo.Branch.LastActive
import Redeemo.Branch.Lifecycle
import Redeemo.Branch.MainBranch
import Redeemo.Branch.OpenStatus
import Redeemo.Branch.OpeningHours
import Redeemo.Branch.PendingHours
import Redeemo.Branch.Pins
import Redeemo.Branch.ReviewQueue
import Redeemo.Branch.Visibility
import Redeemo.CustomerApp.Api
import Redeemo.CustomerApp.Isolation
import Redeemo.CustomerApp.SmartStatus
import Redeemo.CustomerApp.WindowState
import Redeemo.CustomerLists
import Redeemo.Discovery.BranchRanking
import Redeemo.Discovery.BranchSearch
import Redeemo.Discovery.Database
import Redeemo.Discovery.Disclosure
import Redeemo.Discovery.InArea
import Redeemo.Discovery.LosesNothing
import Redeemo.Discovery.MerchantPage
import Redeemo.Discovery.MerchantRanking
import Redeemo.Discovery.MerchantSearch
import Redeemo.Discovery.Positions
import Redeemo.Discovery.Query
import Redeemo.Discovery.RankingLaws
import Redeemo.Discovery.ScopeHonoured
import Redeemo.Discovery.ScreensTruthful
import Redeemo.Discovery.SearchPages
import Redeemo.Discovery.Tiles
import Redeemo.Discovery.VoucherScreens
import Redeemo.Edits.Apply
import Redeemo.Edits.Decisions
import Redeemo.Edits.Requests
import Redeemo.Favourites.Lists
import Redeemo.Favourites.Pages
import Redeemo.Favourites.Promises
import Redeemo.Insights.Eligibility
import Redeemo.Insights.Figures
import Redeemo.Insights.Gated
import Redeemo.Insights.Isolation
import Redeemo.Insights.Periods
import Redeemo.Insights.Service
import Redeemo.Insights.VoucherAnalytics
import Redeemo.Invites.Erasure
import Redeemo.Invites.Identity
import Redeemo.Invites.Matching
import Redeemo.Invites.Privacy
import Redeemo.Invites.Submit
import Redeemo.Lib.Bytes
import Redeemo.Lib.Calendar
import Redeemo.Lib.Csv
import Redeemo.Lib.Expiring
import Redeemo.Lib.Inbox
import Redeemo.Lib.Intervals
import Redeemo.Lib.JobQueue
import Redeemo.Lib.JsonText
import Redeemo.Lib.Paging
import Redeemo.Lib.Records
import Redeemo.Lib.Rows
import Redeemo.Lib.Runs
import Redeemo.Lib.Sorting
import Redeemo.Lib.Words
import Redeemo.Merchant.AvailabilityWindows
import Redeemo.Merchant.Categories
import Redeemo.Merchant.Coherence
import Redeemo.Merchant.Decisions
import Redeemo.Merchant.LastOwner
import Redeemo.Merchant.Logout
import Redeemo.Merchant.Onboarding
import Redeemo.Merchant.OnboardingReview
import Redeemo.Merchant.Sessions
import Redeemo.Merchant.Staff
import Redeemo.Merchant.WindowSearch
import Redeemo.MerchantWeb.SessionIsolation
import Redeemo.MerchantWeb.SessionTransitions
import Redeemo.MerchantWeb.SubmitValidity
import Redeemo.Queues.AlertDedup
import Redeemo.Queues.OneProducer
import Redeemo.Queues.Outbox
import Redeemo.Queues.Replay
import Redeemo.Queues.Scheduler
import Redeemo.Queues.Sweep
import Redeemo.Redemption.Alone
import Redeemo.Redemption.Claims
import Redeemo.Redemption.CycleClaim
import Redeemo.Redemption.PinLimit
import Redeemo.Redemption.PinOracle
import Redeemo.Redemption.Register
import Redeemo.Redemption.RegisterExact
import Redeemo.Redemption.RegisterRows
import Redeemo.Redemption.ReusableClaim
import Redeemo.Redemption.Service
import Redeemo.Redemption.Suspension
import Redeemo.Redemption.Tables
import Redeemo.Redemption.Verify
import Redeemo.Redemption.WindowClaim
import Redeemo.Reviews.Genuine
import Redeemo.Reviews.Lists
import Redeemo.Reviews.Service
import Redeemo.Savings.Service
import Redeemo.Savings.Views
import Redeemo.Shared.AbuserAccounting
import Redeemo.Shared.AtomicLimiter
import Redeemo.Shared.CsvExports
import Redeemo.Shared.Dates
import Redeemo.Shared.Encryption
import Redeemo.Shared.Keyring
import Redeemo.Shared.KeyringDuplicates
import Redeemo.Shared.LimiterRuns
import Redeemo.Shared.LimiterScript
import Redeemo.Shared.LimiterShim
import Redeemo.Shared.Localities
import Redeemo.Shared.LocationTrust
import Redeemo.Shared.LondonClock
import Redeemo.Shared.MerchantContext
import Redeemo.Shared.Storage
import Redeemo.Shared.StorageUrls
import Redeemo.Shared.WallTime
import Redeemo.Subscription.Cancellation
import Redeemo.Subscription.Create
import Redeemo.Subscription.Cycle
import Redeemo.Subscription.PromoCap
import Redeemo.Subscription.Renewal
import Redeemo.Subscription.Tables
import Redeemo.Subscription.Webhook
import Redeemo.Voucher.Activation
import Redeemo.Voucher.Flagship
import Redeemo.Voucher.GoLive
import Redeemo.Voucher.Operations
import Redeemo.Voucher.Queue
import Redeemo.Voucher.Review
import Redeemo.Voucher.Slots
import Redeemo.Voucher.SubmitContract
import Redeemo.Voucher.SubmitGate
import Redeemo.Voucher.SubmitValidation
import Redeemo.Voucher.Tables
import Redeemo.Voucher.TemplateLinks
import Redeemo.Voucher.Withdrawal
