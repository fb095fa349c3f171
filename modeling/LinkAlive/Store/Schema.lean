import LinkAlive.Foundation.Table
import LinkAlive.Domain.Notifications
import LinkAlive.Domain.StateMachine

/-!
# The database

The tables of `packages/database/prisma/schema.prisma` that the check and
notification pipelines read and write. Columns that none of the modelled functions
reads or writes (owner, host name, audit log, `created_at`, `updated_at`) are left
out, and so are the network-outage tables. `created_at` order is table order.

An outbox row is stored under its unique index (incident, channel, sequence), which
stands for its id; a delivery under (outbox, attempt); a check result under the
check it belongs to.
-/

namespace LinkAlive

open Relational

set_option autoImplicit false

abbrev MonitorId := Nat
abbrev CheckId := Nat
abbrev InstanceId := Nat

/-- An encrypted column. `secretTombstoneBytes` replaces a retired value and is not a
valid envelope. -/
inductive Sealed (Plain : Type)
  | envelope (plain : Plain)
  | tombstone
deriving DecidableEq, Repr

def Sealed.isTombstone {Plain : Type} : Sealed Plain → Bool
  | .envelope _ => false
  | .tombstone => true

structure ChannelConfig where
  botToken : String
  chatId : String
deriving DecidableEq, Repr

/-- The fields of a monitor, besides its URL, whose change is a configuration change. The
empty keyword stands for NULL. -/
structure MonitorConfig where
  method : HttpMethod
  intervalSec : Nat
  timeoutMs : Nat
  expectedStatusMin : Nat
  expectedStatusMax : Nat
  expectedKeyword : String
  followRedirects : Bool
  maxRedirects : Nat
  failureThreshold : Nat
  recoveryThreshold : Nat
deriving DecidableEq, Repr

structure MonitorRow where
  name : String
  displayUrl : String
  requestUrlEncrypted : Sealed String
  config : MonitorConfig
  lifecycleStatus : MonitorLifecycle
  healthState : MonitorHealth
  consecutiveFailures : Nat
  consecutiveSuccesses : Nat
  failureStreakStartedAt : Option Time
  failureStreakFirstErrorType : Option CheckErrorType
  lastCheckedAt : Option Time
  networkUnknownSince : Option Time
  lastSuccessAt : Option Time
  lastFailureAt : Option Time
  lastStatusCode : Option Nat
  lastTtfbMs : Option Nat
  lastTotalMs : Option Nat
  lastErrorType : Option CheckErrorType
  nextCheckAt : Option Time
  configVersion : Nat
  deletedAt : Option Time
deriving DecidableEq, Repr

structure CheckRow where
  monitorId : MonitorId
  scheduledAt : Time
  configVersion : Nat
  status : ScheduledCheckStatus
  leaseOwner : Option InstanceId
  leaseUntil : Option Time
  queueJobId : Option CheckId
  attemptCount : Nat
  failureReasonSafe : Option String
  enqueuedAt : Option Time
  startedAt : Option Time
  completedAt : Option Time
  canceledAt : Option Time
deriving DecidableEq, Repr

structure CheckResultRow where
  monitorId : MonitorId
  source : CheckSource
  outcome : CheckOutcome
  configVersion : Nat
  displayUrlSnapshot : String
  startedAt : Time
  finishedAt : Time
  statusCode : Option Nat
  ttfbMs : Option Nat
  totalMs : Nat
  errorType : Option CheckErrorType
  errorMessageSafe : Option String
  workerRegion : String
  redirectCount : Nat
  responseBytesRead : Nat
deriving DecidableEq, Repr

structure IncidentRow where
  monitorId : MonitorId
  configVersion : Nat
  status : IncidentStatus
  firstFailureAt : Time
  detectedAt : Time
  resolvedAt : Option Time
  canceledAt : Option Time
  firstErrorType : Option CheckErrorType
  lastErrorType : Option CheckErrorType
  closureReason : Option IncidentClosureReason
deriving DecidableEq, Repr

structure ChannelRow where
  displayName : String
  encryptedConfig : Sealed ChannelConfig
  verifiedAt : Option Time
  enabled : Bool
  deletedAt : Option Time
deriving DecidableEq, Repr

structure BindingRow where
  notifyOnDown : Bool
  notifyOnRecovery : Bool
deriving DecidableEq, Repr

/-- The row's unique index (incident, channel, sequence). -/
structure OutboxKey where
  incidentId : IncidentId
  channelId : ChannelId
  sequence : Nat
deriving DecidableEq, Repr

/-- Attempts are rows of the deliveries; their membership is decided here once. -/
instance decidableMemAttempts (attempt : OutboxKey × Nat) (attempts : List (OutboxKey × Nat)) :
    Decidable (attempt ∈ attempts) := inferInstance

/-- `createStableMessageId` hashes the dedupe key and appends the domain. -/
structure MessageId where
  dedupeKey : DedupeKey
  domain : String
deriving DecidableEq, Repr

/-- The JSON payload; absent optional members are `none`. -/
structure NotificationPayload where
  eventType : NotificationEventType
  monitorName : String
  displayUrl : String
  occurredAt : Time
  errorType : Option CheckErrorType
  errorMessageSafe : Option String
  statusCode : Option Nat
  ttfbMs : Option Nat
  notifyOnRecovery : Bool
  durationMs : Option Nat
  dashboardUrl : Option String
deriving DecidableEq, Repr

structure OutboxRow where
  monitorId : MonitorId
  eventType : NotificationEventType
  payloadSafe : NotificationPayload
  channelDisplayNameSnapshot : String
  encryptedConfigSnapshot : Sealed ChannelConfig
  status : NotificationOutboxStatus
  availableAt : Time
  leaseOwner : Option InstanceId
  leaseUntil : Option Time
  queueJobId : Option OutboxKey
  messageId : MessageId
  attemptCount : Nat
  maxAttempts : Nat
  lastErrorSafe : Option String
  enqueuedAt : Option Time
  processingAt : Option Time
  sentAt : Option Time
  failedAt : Option Time
  canceledAt : Option Time
deriving DecidableEq, Repr

structure DeliveryRow where
  status : NotificationDeliveryStatus
  messageId : MessageId
  providerMessageId : Option String
  errorSafe : Option String
  startedAt : Time
  finishedAt : Option Time
  sentAt : Option Time
deriving DecidableEq, Repr

structure Database where
  monitors : Table MonitorId MonitorRow
  checks : Table CheckId CheckRow
  results : Table CheckId CheckResultRow
  incidents : Table IncidentId IncidentRow
  channels : Table ChannelId ChannelRow
  bindings : Table (MonitorId × ChannelId) BindingRow
  outbox : Table OutboxKey OutboxRow
  deliveries : Table (OutboxKey × Nat) DeliveryRow

def Database.empty : Database where
  monitors := ∅
  checks := ∅
  results := ∅
  incidents := ∅
  channels := ∅
  bindings := ∅
  outbox := ∅
  deliveries := ∅

def MonitorRow.state (row : MonitorRow) : MonitorState where
  lifecycleStatus := row.lifecycleStatus
  healthState := row.healthState
  consecutiveFailures := row.consecutiveFailures
  consecutiveSuccesses := row.consecutiveSuccesses
  failureStreakStartedAt := row.failureStreakStartedAt
  failureStreakFirstErrorType := row.failureStreakFirstErrorType
  configVersion := row.configVersion

def MonitorRow.isActive (row : MonitorRow) : Bool :=
  row.lifecycleStatus = .active && row.deletedAt.isNone

def ChannelRow.isLive (row : ChannelRow) : Bool :=
  row.enabled && row.deletedAt.isNone

/-- PENDING, ENQUEUED and RUNNING occupy the monitor's slot. -/
def ScheduledCheckStatus.isActive : ScheduledCheckStatus → Bool
  | .pending | .enqueued | .running => true
  | .completed | .failed | .canceled => false

def NotificationOutboxStatus.isTerminal : NotificationOutboxStatus → Bool
  | .sent | .failed | .canceled => true
  | .pending | .enqueued | .processing | .retry => false

/-- The sequence-2 row of the same incident and channel. -/
def OutboxKey.followUp (key : OutboxKey) : OutboxKey :=
  { key with sequence := notificationSequence .recovery }

/-- The DOWN row of the same incident and channel. -/
def OutboxKey.down (key : OutboxKey) : OutboxKey :=
  { key with sequence := notificationSequence .down }

end LinkAlive
