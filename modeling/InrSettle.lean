import InrSettle.Library.Transaction
import InrSettle.Library.Run
import InrSettle.Library.Machine
import InrSettle.Library.Text
import InrSettle.Library.Decimal
import InrSettle.Library.Table
import InrSettle.Domain.Settlement
import InrSettle.Domain.Artifact
import InrSettle.Domain.BatchCsv
import InrSettle.Domain.StrictJson
import InrSettle.Domain.Requirement
import InrSettle.Domain.Preflight
import InrSettle.Domain.RuleSet
import InrSettle.System.Artifacts
import InrSettle.Domain.Exceptions
import InrSettle.Domain.Payout
import InrSettle.Domain.Liquidity
import InrSettle.Domain.Money
import InrSettle.Domain.Reconciliation
import InrSettle.Domain.Return
import InrSettle.Store.Rows
import InrSettle.Store.Funding
import InrSettle.Store.Case
import InrSettle.Store.StatusEvents
import InrSettle.Service.Liquidity
import InrSettle.Service.Transition
import InrSettle.Service.Settlement
import InrSettle.Service.Quote
import InrSettle.Service.Payout
import InrSettle.Service.PayoutWebhook
import InrSettle.Service.Funding
import InrSettle.Service.Reconciliation
import InrSettle.Service.Finality
import InrSettle.Service.Return
import InrSettle.Service.ReturnReview
import InrSettle.Service.Webhook
import InrSettle.Service.Operator
import InrSettle.Funding.Moves
import InrSettle.Funding.Books
import InrSettle.Funding.Announcements
import InrSettle.Funding.Repayments
import InrSettle.System.Operations
import InrSettle.System.StoredDeliveries
import InrSettle.System.Turns
import InrSettle.System.Moves
import InrSettle.System.Steps
import InrSettle.System.ReturnSteps
import InrSettle.System.FundingSteps
import InrSettle.System.Runs
import InrSettle.System.Announcing
import InrSettle.System.Dispatch
import InrSettle.System.OpenExceptions
import InrSettle.System.PointOfNoReturn
import InrSettle.System.Attempts
import InrSettle.System.BatchRows
import InrSettle.System.BatchLines
import InrSettle.System.Transitions
import InrSettle.System.Reconciliations
import InrSettle.System.Market
import InrSettle.System.QuoteKept
import InrSettle.System.QuoteTable
import InrSettle.System.Quotes
import InrSettle.System.Requests
import InrSettle.Service.Idempotency
import InrSettle.System.Idempotency
import InrSettle.System.Returns
import InrSettle.System.ReturnTotals
import InrSettle.System.ReturnedMoney
import InrSettle.System.ReturnChecks
import InrSettle.System.Holdings
import InrSettle.System.Shares
import InrSettle.System.LenderRepayments
import InrSettle.System.Reservations
import InrSettle.System.Rupees
import InrSettle.Store.Webhook
import InrSettle.Service.WebhookEndpoint
import InrSettle.Service.WebhookDelivery
import InrSettle.Domain.Webhook
import InrSettle.System.Webhooks
import InrSettle.System.DeliveryLog
import InrSettle.System.FanOut
import InrSettle.System.Circuits
import InrSettle.System.OutOfService
import InrSettle.Domain.NameMatch
import InrSettle.Store.Verification
import InrSettle.Service.Verification
import InrSettle.System.Verifications
import InrSettle.System.VerifiedOnce
import InrSettle.Library.Json
import InrSettle.Library.JsText
import InrSettle.Library.JsNumber
import InrSettle.Library.JsBigInt
import InrSettle.Library.JsValue
import InrSettle.Library.JsRoundTrip
import InrSettle.Library.JsGrammar
import InrSettle.Library.JsReader
import InrSettle.Library.JsWhole
import InrSettle.Library.JsStored
import InrSettle.Library.JsAlike
import InrSettle.Library.JsConvert
import InrSettle.Library.JsonValue
import InrSettle.Domain.Destination
import InrSettle.Store.Beneficiary
import InrSettle.Service.Beneficiary
import InrSettle.System.Registry
import InrSettle.System.RegistrySteps
import InrSettle.System.DestinationChains
import InrSettle.System.DestinationVersions
import InrSettle.System.StatusFacts
import InrSettle.System.StatusSteps
import InrSettle.System.BeneficiaryStatus
import InrSettle.Library.Related
import InrSettle.System.SameVerifications
import InrSettle.System.SameRegistry
import InrSettle.System.Callbacks
import InrSettle.Service.WebhookSecret
import InrSettle.System.SecretRotation
import InrSettle.Domain.RateLimit
import InrSettle.System.RateLimiter
import InrSettle.Service.RequestTarget
import InrSettle.Library.Paging
import InrSettle.Service.Lists
import InrSettle.System.CursorPages
import InrSettle.Library.Refusal
import InrSettle.System.Refusals
import InrSettle.System.DrawdownRefusals
import InrSettle.System.ReturnRefusals
import InrSettle.Service.Receipt
import InrSettle.System.Receipts
import InrSettle.System.PayoutDeliveries
import InrSettle.System.PayoutRefusals
import InrSettle.System.AuthorizationRefusals
import InrSettle.System.OperatorRefusals
import InrSettle.System.Acknowledgements
import InrSettle.System.Announcements
import InrSettle.Library.Rounding
import InrSettle.Domain.Fx
import InrSettle.System.Conversions
import InrSettle.Service.Pricing
import InrSettle.System.StoredRates
import InrSettle.System.QuoteExpiries
import InrSettle.System.ExpiryRuns
import InrSettle.System.LimitedCalls
import InrSettle.Library.Chars
import InrSettle.Library.Csv
import InrSettle.Domain.Signature
import InrSettle.System.Signatures
import InrSettle.System.NameMatches
import InrSettle.System.RuleSetFiles
import InrSettle.System.Preflights
import InrSettle.System.WrittenRules
import InrSettle.Domain.RuleSetJson
import InrSettle.System.RuleSetRoundTrips
import InrSettle.Service.Preflight
import InrSettle.System.NamedDestinations
import InrSettle.Library.Preference
import InrSettle.Domain.Rail
import InrSettle.System.Rails
import InrSettle.Domain.MappingTable
import InrSettle.System.MappingFiles
import InrSettle.System.RefusedRequests
import InrSettle.Service.VerificationCallback
import InrSettle.System.StoredCallbacks
import InrSettle.Library.JsDate
import InrSettle.Service.PublicObject
import InrSettle.Service.EventDocument
import InrSettle.System.SameEvents
import InrSettle.Library.JsWellFormed
import InrSettle.Library.JsBytes
import InrSettle.Service.FieldEncryption
import InrSettle.System.FieldBindings
import InrSettle.Library.Files
import InrSettle.Service.ArtifactStore
import InrSettle.System.StoredArtifacts
import InrSettle.Domain.AuthorizedTerms
import InrSettle.System.FrozenTerms
import InrSettle.Domain.Fingerprint
import InrSettle.System.Fingerprints
import InrSettle.Library.JsMerged
import InrSettle.Service.CompositeExport
import InrSettle.System.Composites
import InrSettle.Service.ReferenceData
import InrSettle.System.ReferenceVersions
import InrSettle.Domain.Batch
import InrSettle.System.BatchOperations
import InrSettle.System.Batches
import InrSettle.System.BatchImports
import InrSettle.System.BatchCounts
import InrSettle.System.BatchEnds
import InrSettle.System.ApiBatches
import InrSettle.Library.Visits
import InrSettle.Domain.Internal
import InrSettle.Service.OpsRequests
import InrSettle.System.OpsRuns
import InrSettle.System.OpsReads
import InrSettle.Library.Markup
import InrSettle.Domain.ReceiptTemplate
import InrSettle.System.ReceiptPages
