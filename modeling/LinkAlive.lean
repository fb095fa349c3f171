import LinkAlive.Foundation.Table
import LinkAlive.Foundation.Transition
import LinkAlive.Foundation.Debounce
import LinkAlive.Foundation.Periodic
import LinkAlive.Domain.WindowedHistory
import LinkAlive.Worker.NotificationRules
import LinkAlive.Worker.OutboxDispatcher
import LinkAlive.Outbox.Summary
import LinkAlive.Worker.NotificationProcessor
import LinkAlive.Outbox.Secrets
import LinkAlive.Outbox.Retirement
import LinkAlive.Outbox.Recovery
import LinkAlive.Foundation.Keyspace
import LinkAlive.Monitoring.DestinationLimiter
import LinkAlive.Monitoring.LimiterSafety
import LinkAlive.Foundation.Sql
import LinkAlive.Retention.Plan
import LinkAlive.Retention.Redaction
import LinkAlive.Foundation.Batches
import LinkAlive.Retention.Runner
import LinkAlive.Retention.Resolution
import LinkAlive.Retention.Recovery
import LinkAlive.Accounts.Service
import LinkAlive.Accounts.System
import LinkAlive.Accounts.Administrators
import LinkAlive.Accounts.Passwords
import LinkAlive.Network.Cases
import LinkAlive.Network.Ledger
import LinkAlive.Network.Outages
import LinkAlive.Network.Slots
import LinkAlive.Network.Observations
import LinkAlive.Outbox.Attempts
import LinkAlive.Outbox.Turns
import LinkAlive.Outbox.DeadRows
import LinkAlive.Domain.Administration
import LinkAlive.Domain.EffectBrackets
import LinkAlive.Api.MonitorUpdates
import LinkAlive.Ledger.MonitorRows
import LinkAlive.Ledger.Administration
import LinkAlive.Retention.Deletion
import LinkAlive.Retention.SecondRun
import LinkAlive.Outbox.Orphans
import LinkAlive.Outbox.Bindings
import LinkAlive.Outbox.Collapse
import LinkAlive.Api.Staleness
import LinkAlive.Network.Schedule
import LinkAlive.Ledger.Incidents
import LinkAlive.Ledger.Chronology
import LinkAlive.Network.Chronology
import LinkAlive.Foundation.Triples
import LinkAlive.Monitoring.Checker
import LinkAlive.Foundation.Obligations
import LinkAlive.Monitoring.RequestLog
import LinkAlive.Monitoring.Discipline
import LinkAlive.Scheduler.Ticks
import LinkAlive.Foundation.Search
import LinkAlive.Foundation.Utf8
import LinkAlive.Monitoring.KeywordSearch
import LinkAlive.Network.Assessment
import LinkAlive.Network.Settings
import LinkAlive.Network.Freshness
import LinkAlive.Monitoring.Records
import LinkAlive.Network.CheckResults
import LinkAlive.Foundation.Paging
import LinkAlive.Outbox.Dispatch
import LinkAlive.Foundation.AddressText
import LinkAlive.Foundation.Bitwise
import LinkAlive.Monitoring.Addresses
import LinkAlive.Monitoring.AddressNumbers
import LinkAlive.Monitoring.PublicAddresses
import LinkAlive.Monitoring.AddressUrls
import LinkAlive.Monitoring.DestinationKeys
import LinkAlive.Monitoring.ReferenceCheck
import LinkAlive.Network.ReferenceUrls
import LinkAlive.Domain.DedupeKeys
import LinkAlive.Api.ManualChecks
import LinkAlive.Accounts.IdleTimeout
import LinkAlive.Api.MonitorList
import LinkAlive.Network.ObservationRows
import LinkAlive.Network.Summaries
import LinkAlive.Network.ObservationVersions
import LinkAlive.Outbox.IncidentViews
import LinkAlive.Outbox.CommonReads
import LinkAlive.Outbox.CommonCommits
import LinkAlive.Outbox.CommonSteps
import LinkAlive.Outbox.BindingEdits
import LinkAlive.Outbox.Origins
import LinkAlive.Foundation.Possibility
import LinkAlive.Liveness.Alone
import LinkAlive.Liveness.Notifications
import LinkAlive.Liveness.Checks
import LinkAlive.Store.Constraints
import LinkAlive.System.Integrity
import LinkAlive.Foundation.Base64
import LinkAlive.Foundation.Lines
import LinkAlive.Foundation.JsonText
import LinkAlive.Foundation.Lockstep
import LinkAlive.Delivery.Platform
import LinkAlive.Delivery.Message
import LinkAlive.Delivery.Envelope
import LinkAlive.Delivery.Columns
import LinkAlive.Delivery.Telegram
import LinkAlive.Delivery.Payload
import LinkAlive.Outbox.Snapshots
import LinkAlive.Delivery.Calls
import LinkAlive.Delivery.Records
import LinkAlive.Foundation.PollLoop
import LinkAlive.Worker.Health
import LinkAlive.Worker.Process
