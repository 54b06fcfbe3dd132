import MatchPlane.Library.Fallible
import MatchPlane.Library.Transaction
import MatchPlane.Library.Table
import MatchPlane.Library.Checked
import MatchPlane.Domain.Identifiers
import MatchPlane.Domain.Numeric
import MatchPlane.Domain.Matching
import MatchPlane.Engine.OrderBook
import MatchPlane.Library.OrderedMap
import MatchPlane.Engine.Effects
import MatchPlane.Engine.Invariant
import MatchPlane.Engine.Apply
import MatchPlane.Library.Greedy
import MatchPlane.Library.Sorting
import MatchPlane.Engine.Matching
import MatchPlane.Engine.Decide
import MatchPlane.Engine.Process
import MatchPlane.Engine.Sequenced
import MatchPlane.Library.Run
import MatchPlane.Engine.Runs
import MatchPlane.Engine.Priority
import MatchPlane.Engine.Snapshot
import MatchPlane.Protocol.Wire
import MatchPlane.Storage.Schema
import MatchPlane.Storage.Federation
import MatchPlane.Payments.Commission
import MatchPlane.Storage.Orders
import MatchPlane.Storage.Settlement
import MatchPlane.Storage.Matching
import MatchPlane.Storage.Journal
import MatchPlane.Storage.Commit
import MatchPlane.Storage.Calls
import MatchPlane.Storage.Frames
import MatchPlane.Storage.Submitted
import MatchPlane.Application.Orders
import MatchPlane.Domain.Binary64
import MatchPlane.Domain.Characters
import MatchPlane.Domain.Json
import MatchPlane.Library.Pairs
import MatchPlane.Domain.Documents
import MatchPlane.Library.Decimal
import MatchPlane.Payments.Provider
import MatchPlane.Payments.Money
import MatchPlane.Domain.Text
import MatchPlane.Library.Unicode
import MatchPlane.Domain.Instants
import MatchPlane.Domain.JavaScript
import MatchPlane.Engine.Settle
import MatchPlane.Engine.Live
import MatchPlane.Engine.History
import MatchPlane.Engine.Accounting
import MatchPlane.Engine.Expiry
import MatchPlane.Engine.Processed
import MatchPlane.Library.AddressBlocks
import MatchPlane.Library.JsonText
import MatchPlane.Library.CanonicalJson
import MatchPlane.Library.NumberTexts
import MatchPlane.Library.NumberLiterals
import MatchPlane.Library.JsonLiterals
import MatchPlane.Library.Occurrences
import MatchPlane.Library.Programs
import MatchPlane.Library.Regexes
import MatchPlane.Library.Statements
import MatchPlane.Marketplace.Schema
import MatchPlane.Marketplace.Catalog
import MatchPlane.Marketplace.Introductions
import MatchPlane.Marketplace.System
import MatchPlane.Marketplace.Frames
import MatchPlane.Marketplace.Moderation
import MatchPlane.Marketplace.Retries
import MatchPlane.Marketplace.Consent
import MatchPlane.Matcher.System
import MatchPlane.Storage.Recovery
import MatchPlane.Matcher.Log
import MatchPlane.Matcher.ExactlyOnce
import MatchPlane.Payments.Schema
import MatchPlane.Offline.Schema
import MatchPlane.Offline.Promotions
import MatchPlane.Offline.Listings
import MatchPlane.Offline.Deals
import MatchPlane.Offline.System
import MatchPlane.Offline.Frames
import MatchPlane.Offline.Moves
import MatchPlane.Offline.Billing
import MatchPlane.Offline.Completion
import MatchPlane.Offline.Keys
import MatchPlane.Offline.Revocation
import MatchPlane.Offline.Contacts
import MatchPlane.Payments.Exchange
import MatchPlane.Payments.Adapters
import MatchPlane.Payments.Addresses
import MatchPlane.Payments.Store
import MatchPlane.Payments.Webhooks
import MatchPlane.Payments.Effects
import MatchPlane.Payments.Service
import MatchPlane.Payments.Moves
import MatchPlane.Payments.Progress
import MatchPlane.Payments.Captures
import MatchPlane.Payments.Amounts
import MatchPlane.Payments.Api
import MatchPlane.Payments.Refunds
import MatchPlane.Payments.Applied
import MatchPlane.Payments.Drift
import MatchPlane.Payments.Echoes
import MatchPlane.Payments.Inbox
import MatchPlane.Payments.Modes
import MatchPlane.Payments.Notifications
import MatchPlane.Payments.RateDecimals
import MatchPlane.Payments.Rates
import MatchPlane.Payments.Redelivery
import MatchPlane.Payments.Responses
import MatchPlane.Payments.Reversals
import MatchPlane.Payments.Selection
import MatchPlane.Payments.Signed
import MatchPlane.Payments.WebMoney
import MatchPlane.Platform.Schema
import MatchPlane.Platform.Triggers
import MatchPlane.Platform.Bindings
import MatchPlane.Platform.Builds
import MatchPlane.Platform.Projections
import MatchPlane.Platform.Releases
import MatchPlane.Platform.Intake
import MatchPlane.Platform.Builder
import MatchPlane.Platform.Settled
import MatchPlane.Platform.Lifecycle
import MatchPlane.Platform.System
import MatchPlane.Platform.Consistent
import MatchPlane.Platform.Moves
import MatchPlane.Platform.Numbered
import MatchPlane.Platform.Live
import MatchPlane.Platform.Fenced
import MatchPlane.Platform.Closed
import MatchPlane.Router.LockFiles
import MatchPlane.Router.Contract
import MatchPlane.Router.Configurations
import MatchPlane.Platform.Enrollments
import MatchPlane.Platform.Routing
import MatchPlane.Platform.Revoked
import MatchPlane.Platform.Usable
import MatchPlane.Projection.Levels
import MatchPlane.Projection.Decimals
import MatchPlane.Projection.Failures
import MatchPlane.Projection.Offers
import MatchPlane.Projection.Published
import MatchPlane.Recommendation.Budgets
import MatchPlane.Recommendation.Identity
import MatchPlane.Recommendation.Decisions
import MatchPlane.Recommendation.Retrieval
import MatchPlane.Recommendation.Tokens
import MatchPlane.Router.Generations
import MatchPlane.Router.Lock
import MatchPlane.Router.StoreFiles
import MatchPlane.Router.Transactions
import MatchPlane.Router.Journal
import MatchPlane.Router.Lifecycle
import MatchPlane.Storage.Capacity
import MatchPlane.Storage.Outbox
import MatchPlane.Storage.Delivery
import MatchPlane.Storage.Transitions
