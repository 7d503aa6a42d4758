import Delego.Shared.MachineInt
import Delego.Shared.Tx
import Delego.Shared.Run
import Delego.Shared.Book
import Delego.Soroban.Host
import Delego.Escrow.Types
import Delego.Escrow.Contract
import Delego.Escrow.Spec
import Delego.Escrow.Step
import Delego.Escrow.Fee
import Delego.Escrow.Invariant
import Delego.Escrow.Solvency
import Delego.Escrow.Lifecycle
import Delego.Escrow.Authorization
import Delego.Permissions.Contract
import Delego.Permissions.Spec
import Delego.Shared.Trace
import Delego.Permissions.Policy
import Delego.Permissions.Step
import Delego.Permissions.SpendRules
import Delego.Permissions.SpendCeiling
import Delego.Permissions.Revocation
import Delego.Permissions.Decrement
import Delego.Permissions.Preview
import Delego.Permissions.Metadata
import Delego.Registry.Contract
import Delego.Registry.Spec
import Delego.Registry.Step
import Delego.Registry.Index
import Delego.Registry.Authorization
import Delego.Escrow.Governance
import Delego.Escrow.AdminSafety
import Delego.Escrow.Whitelist
import Delego.Escrow.Settlement
import Delego.Escrow.Eligibility
import Delego.Escrow.Quorum
import Delego.Shared.Versioned
import Delego.Saga.Types
import Delego.Saga.Store
import Delego.Saga.Coordinator
import Delego.Saga.Record
import Delego.Saga.Step
import Delego.Saga.RecordInvariant
import Delego.Saga.Lease
import Delego.Saga.Progress
import Delego.Saga.Sequence
import Delego.Saga.Outcome
import Delego.Saga.Resume
import Delego.Shared.Replay
import Delego.Purchase.Types
import Delego.Purchase.Workflow
import Delego.Purchase.Serial
import Delego.Shared.Text
import Delego.Shared.Cipher
import Delego.Wallet.Vault
import Delego.Wallet.SeedPhrase
import Delego.Wallet.KeyVault
import Delego.Wallet.KeyCustody
import Delego.Shared.Number
import Delego.Shared.Json
import Delego.Payments.Routes
import Delego.Payments.Idempotency
import Delego.Checkout.Saga
import Delego.Checkout.Language
import Delego.Checkout.Deposits
import Delego.Wallet.SubmissionFailure
import Delego.Wallet.SingleEffect
import Delego.Wallet.Confirmation
import Delego.Shared.Calendar
import Delego.Wallet.SpendLimits
import Delego.Wallet.SpendWindow
import Delego.Wallet.Spending
import Delego.Wallet.SpendBound
import Delego.Wallet.SpendCounters
import Delego.Gateway.Auth
import Delego.Gateway.Rotation
import Delego.Gateway.SingleUse
import Delego.Gateway.FamilyRevocation
import Delego.Payments.Events
import Delego.Payments.Memos
import Delego.Wallet.SpendSummary
import Delego.Gateway.RateLimiter
import Delego.Gateway.RateWindows
import Delego.Notifications.WebSocket
import Delego.Payments.Arbiters
import Delego.Purchase.Reconcile
import Delego.Escrow.Payout
import Delego.Machine.Machine
import Delego.Machine.History
import Delego.Purchase.Restore
import Delego.Checkout.Workflow
import Delego.Shared.Pieces
import Delego.Messaging.ProcessedMessages
import Delego.Notifications.Dispatch
import Delego.Shared.Precision
import Delego.Payments.EscrowIds
import Delego.Payments.FeeEstimator
import Delego.Wallet.FailureKind
import Delego.Shared.Digits
import Delego.Utils.Currency
import Delego.Wallet.Stroops
import Delego.Utils.ParseBigIntString
import Delego.Payments.AmountConsistency
import Delego.Notifications.Email
import Delego.Shared.Pages
import Delego.Gateway.Delegations
import Delego.Shared.Replace
import Delego.Wallet.LimitIsolation
import Delego.Wallet.SequenceNumbers
import Delego.Wallet.SequenceSync
import Delego.Shared.Utf8
import Delego.Shared.JsonText
import Delego.Shared.JsonBlur
import Delego.Http.RequestBody
import Delego.Wallet.WeekKeys
import Delego.Registry.ExpiredResume
import Delego.Payments.ArbiterRetry
import Delego.Messaging.EventGuard
import Delego.Shared.Unwinding
import Delego.Gateway.BucketIsolation
import Delego.Saga.LeaseRetry
import Delego.Shared.JsonSchema
import Delego.Agents.ToolRegistry
import Delego.Gateway.DelegationOwnership
import Delego.Gateway.DelegationRoutes
import Delego.Gateway.DelegationSteps
import Delego.Gateway.RevokedDelegations
import Delego.Purchase.Snapshots
import Delego.Escrow.Liveness
import Delego.Shared.PathPattern
import Delego.Http.Unrouted
import Delego.Saga.Answers
import Delego.Checkout.Endpoints
import Delego.Checkout.SagaLookup
import Delego.Gateway.TenantIsolation
import Delego.Gateway.Sessions
import Delego.Escrow.EventLog
import Delego.Permissions.EventLog
import Delego.Saga.Postgres
import Delego.Shared.Lockstep
import Delego.Permissions.Isolation
import Delego.Registry.Isolation
import Delego.Saga.Fruitless
import Delego.Checkout.Refusals
import Delego.Payments.OnChain
import Delego.Saga.Recovery
import Delego.Saga.Restart
import Delego.Saga.RecoveryTurns
import Delego.Gateway.Minting
import Delego.Gateway.Continuity
