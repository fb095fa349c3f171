import LinkAlive.Store.Schema
import LinkAlive.Foundation.Texts
import LinkAlive.Monitoring.Types

/-!
# Notification rules shared by the worker

`secret-lifecycle.ts`, `notification-order.ts` and `notification-payload.ts` of
`apps/worker/src`. The payload is typed, so parsing it back is the identity.
-/

namespace LinkAlive

set_option autoImplicit false

def downNotDeliveredRecoveryCancelReason : String :=
  "장애 알림이 전달되지 않아 복구 알림을 취소했습니다."

inductive PriorDownStatus | ready | wait | cancel
deriving DecidableEq, Repr

/-- Enforces that a recovery can never overtake its channel's DOWN event. -/
def recoveryPrerequisiteStatus : Option NotificationOutboxStatus → PriorDownStatus
  | some .sent => .ready
  | none | some .failed | some .canceled => .cancel
  | some _ => .wait

structure NotificationSecretState where
  status : NotificationOutboxStatus
  eventType : NotificationEventType
  lastErrorSafe : Option String
  payloadAllowsRecovery : Bool
  incidentStatus : Option IncidentStatus
deriving DecidableEq, Repr

def canceledUndelivered (status : NotificationOutboxStatus) (lastErrorSafe : Option String) :
    Bool :=
  status = .canceled && lastErrorSafe = some downNotDeliveredRecoveryCancelReason

/-- True only while a persisted destination can still be needed. -/
def shouldRetainNotificationSecret (state : NotificationSecretState) : Bool :=
  if !state.status.isTerminal then true
  else if state.eventType = .recovery && canceledUndelivered state.status state.lastErrorSafe then
    true
  else state.eventType = .down && state.status = .sent && state.payloadAllowsRecovery &&
    state.incidentStatus = some .opened

/-- `retiredNotificationSecretData` as an update of a row. -/
def OutboxRow.retired (row : OutboxRow) : OutboxRow :=
  { row with encryptedConfigSnapshot := .tombstone }

def OutboxRow.canceledUndelivered (row : OutboxRow) : Bool :=
  LinkAlive.canceledUndelivered row.status row.lastErrorSafe

def makeNotificationPayload (eventType : NotificationEventType) (monitorId : MonitorId)
    (monitor : MonitorRow) (incident : IncidentRow) (result : MonitorCheckResult)
    (appBaseUrl : Option String) (notifyOnRecovery : Bool) : NotificationPayload where
  eventType := eventType
  monitorName := sliceText monitor.name 160
  displayUrl := monitor.displayUrl
  occurredAt :=
    if eventType = .down then incident.detectedAt
    else incident.resolvedAt.getD result.finishedAt
  errorType := (result.errorType.or incident.lastErrorType).or incident.firstErrorType
  errorMessageSafe := result.errorMessageSafe
  statusCode := result.statusCode
  ttfbMs := result.ttfbMs
  notifyOnRecovery := notifyOnRecovery
  -- truncated subtraction is the source's `Math.max(0, …)`
  durationMs :=
    if eventType = .down then none
    else incident.resolvedAt.map fun resolvedAt => resolvedAt - incident.firstFailureAt
  dashboardUrl := appBaseUrl.map fun base => base ++ "/monitors/" ++ toString monitorId

def payloadAllowsRecovery (payload : NotificationPayload) : Bool := payload.notifyOnRecovery

/-- A row as `notificationOutbox.create` inserts it, with the column defaults. -/
def newOutboxRow (monitorId : MonitorId) (key : DedupeKey) (payload : NotificationPayload)
    (channelDisplayName : String) (encryptedConfig : Sealed ChannelConfig)
    (messageIdDomain : String) (databaseTime : Time) : OutboxRow where
  monitorId := monitorId
  eventType := key.eventType
  payloadSafe := payload
  channelDisplayNameSnapshot := channelDisplayName
  encryptedConfigSnapshot := encryptedConfig
  status := .pending
  availableAt := databaseTime
  leaseOwner := none
  leaseUntil := none
  queueJobId := none
  messageId := ⟨key, messageIdDomain⟩
  attemptCount := 0
  maxAttempts := 3
  lastErrorSafe := none
  enqueuedAt := none
  processingAt := none
  sentAt := none
  failedAt := none
  canceledAt := none

theorem retain_of_not_terminal {state : NotificationSecretState}
    (open_ : state.status.isTerminal = false) : shouldRetainNotificationSecret state = true := by
  simp [shouldRetainNotificationSecret, open_]

end LinkAlive
