import ParentalCoord.Interleaving.Discipline
import ParentalCoord.Store.Entries
import ParentalCoord.Store.Table
import ParentalCoord.Store.Journal
import ParentalCoord.Exceptions
import ParentalCoord.Activities.Service
import ParentalCoord.Activities.History
import ParentalCoord.Activities.Consistency
import ParentalCoord.Activities.Discipline
import ParentalCoord.Activities.Guarantees
import ParentalCoord.Webhooks.Payload
import ParentalCoord.Expenses.Policy
import ParentalCoord.Expenses.Repository
import ParentalCoord.Expenses.Service
import ParentalCoord.Expenses.Consistency
import ParentalCoord.Expenses.Discipline
import ParentalCoord.Expenses.Guarantees
import ParentalCoord.Expenses.StaleReminder
import ParentalCoord.Store.JobQueue
import ParentalCoord.Webhooks.Attempt
import ParentalCoord.Webhooks.Repository
import ParentalCoord.Webhooks.Service
import ParentalCoord.Webhooks.Recovery
import ParentalCoord.Interleaving.Protocol
import ParentalCoord.Webhooks.Finality
import ParentalCoord.Webhooks.Snapshot
import ParentalCoord.Store.Backlog
import ParentalCoord.Webhooks.Relaying
import ParentalCoord.Notifications.Rules
import ParentalCoord.Notifications.FanOut
import ParentalCoord.Notifications.Recipients
import ParentalCoord.Notifications.Counterpart
import ParentalCoord.Net.Address
import ParentalCoord.Webhooks.Ssrf
import ParentalCoord.Webhooks.PublicAddress
import ParentalCoord.Webhooks.Ledger
import ParentalCoord.Webhooks.Retention
import ParentalCoord.Webhooks.Subscriptions
import ParentalCoord.Webhooks.Rotation
import ParentalCoord.Interleaving.Chronicle
import ParentalCoord.Webhooks.Streak
import ParentalCoord.Notifications.Dispatching
import ParentalCoord.Queues.JobIds
import ParentalCoord.Webhooks.Embedding
import ParentalCoord.Realtime.DeadSockets
import ParentalCoord.Webhooks.Cap
import ParentalCoord.Bonds.Membership
import ParentalCoord.Calendar
import ParentalCoord.Expenses.Editing
import ParentalCoord.Reports.BondReport
import ParentalCoord.Reports.Repository
import ParentalCoord.Reports.BondHealth
import ParentalCoord.Reports.Compliance
import ParentalCoord.Reports.Overdue
import ParentalCoord.Attachments.Objects
import ParentalCoord.Activities.Wiring
import ParentalCoord.Activities.EffectiveTimers
import ParentalCoord.Activities.TimerTargets
import ParentalCoord.Notifications.ExactlyOnce
import ParentalCoord.Expenses.Balance
import ParentalCoord.Attachments.Conversion
import ParentalCoord.Attachments.Atomicity
import ParentalCoord.Activities.Alone
import ParentalCoord.Activities.Flags
import ParentalCoord.Activities.Due
import ParentalCoord.Interleaving.Unhurried
import ParentalCoord.Activities.Sweep
import ParentalCoord.Activities.Landing
import ParentalCoord.Webhooks.Replay
import ParentalCoord.Webhooks.Bookkeeping
import ParentalCoord.Webhooks.Lockstep
import ParentalCoord.Numbers.Doubles
import ParentalCoord.Webhooks.RetryAfter
import ParentalCoord.Reports.Conservation
import ParentalCoord.Months
import ParentalCoord.Reports.Trend
import ParentalCoord.JsonText
import ParentalCoord.Realtime.Frames
import ParentalCoord.Realtime.Audience
import ParentalCoord.Realtime.Encoding
import ParentalCoord.Admin.Service
import ParentalCoord.Admin.WellFormed
import ParentalCoord.Admin.Upkeep
import ParentalCoord.Admin.Orderly
import ParentalCoord.Reports.PdfJobs
import ParentalCoord.Reports.PdfLifecycle
import ParentalCoord.Webhooks.EndpointLimiter
import ParentalCoord.Webhooks.Slots
import ParentalCoord.Webhooks.Limits
import ParentalCoord.Notifications.ActivityDates
import ParentalCoord.Notifications.Bodies
import ParentalCoord.Expenses.Dates
import ParentalCoord.Webhooks.Catalogue
import ParentalCoord.Store.Pages
import ParentalCoord.Webhooks.DeliveryLog
import ParentalCoord.CodeUnits
import ParentalCoord.Notifications.Canonical
import ParentalCoord.Base64
import ParentalCoord.Notifications.Amounts
import ParentalCoord.Webhooks.SecretCipher
import ParentalCoord.Interleaving.View
import ParentalCoord.Store.Paging
import ParentalCoord.Notifications.Inbox
import ParentalCoord.Notifications.Mailboxes
import ParentalCoord.Accounts.Service
import ParentalCoord.Accounts.Admission
import ParentalCoord.Accounts.Credentials
import ParentalCoord.Interleaving.Sum
import ParentalCoord.Expenses.Listing
import ParentalCoord.Expenses.Flags
import ParentalCoord.Interleaving.Vouching
import ParentalCoord.Expenses.Disclosure
import ParentalCoord.Activities.Disclosure
import ParentalCoord.Redacting
import ParentalCoord.Webhooks.Redaction
import ParentalCoord.Attachments.Confinement
import ParentalCoord.Webhooks.Authority
import ParentalCoord.Streaming
import ParentalCoord.Utf8
import ParentalCoord.Webhooks.Snippet
import ParentalCoord.Interleaving.Endless
import ParentalCoord.Activities.Settling
