import LinkAlive.Worker.CheckProcessor

/-!
# The notification worker

`apps/worker/src/notification-processor.ts`: `claim`, `markSent` with
`ensureRecoveryAfterLateDownSuccess`, and `markFailed`. Each of the three is a
transaction that first locks the outbox row. What it decides from plain reads is
kept in the transaction until it commits.
-/

namespace LinkAlive

open Relational

set_option autoImplicit false

/-- A claimed row as the worker holds it while it talks to the provider. -/
structure ClaimedNotification where
  key : OutboxKey
  row : OutboxRow
  deliveryAttempt : Nat
deriving DecidableEq, Repr

/-- The claim transaction after its locking read and its read of the channel. -/
structure ClaimTx where
  key : OutboxKey
  instanceId : InstanceId
  leaseMs : Nat
  now : Time
  channelLive : Bool

/-- The statuses that `claim` cancels or `markFailed` and `claim` cancel a recovery in. -/
def NotificationOutboxStatus.isWaiting : NotificationOutboxStatus → Bool
  | .pending | .retry | .enqueued => true
  | _ => false

inductive ClaimOutcome
  | ignored | disabled | prerequisiteMissing | exhausted | granted
deriving DecidableEq, Repr

/-- The branches of `claim`. -/
def claimOutcome (tx : ClaimTx) (row : OutboxRow)
    (downStatus : Option NotificationOutboxStatus) : ClaimOutcome :=
  if !tx.channelLive then .disabled
  else if !row.status.isWaiting &&
      !(row.status = .processing && leaseExpired tx.now row.leaseUntil) then .ignored
  else if (row.status = .pending || row.status = .retry) && decide (tx.now < row.availableAt) then
    .ignored
  else if row.eventType = .recovery && downStatus ≠ some .sent then .prerequisiteMissing
  else if row.maxAttempts ≤ row.attemptCount then .exhausted
  else .granted

/-- The row of a disabled channel: whatever it is, its secret is retired. -/
def OutboxRow.canceledByClaim (row : OutboxRow) (now : Time) : OutboxRow :=
  if row.status.isTerminal then row.retired
  else
    { row.retired with
      status := .canceled
      canceledAt := some now
      leaseOwner := none
      leaseUntil := none
      lastErrorSafe := some "알림 채널이 비활성화되었습니다." }

def OutboxRow.exhausted (row : OutboxRow) (now : Time) : OutboxRow :=
  { row.retired with
    status := .failed
    failedAt := some now
    leaseOwner := none
    leaseUntil := none
    lastErrorSafe := some "최대 알림 발송 횟수를 초과했습니다." }

/-- A waiting recovery whose DOWN was not delivered; its secret is kept for a late
success of the DOWN. -/
def OutboxRow.canceledAsUndelivered (row : OutboxRow) (now : Time) : OutboxRow :=
  { row with
    status := .canceled
    canceledAt := some now
    leaseOwner := none
    leaseUntil := none
    lastErrorSafe := some downNotDeliveredRecoveryCancelReason }

def OutboxRow.claimedFor (row : OutboxRow) (tx : ClaimTx) : OutboxRow :=
  { row with
    status := .processing
    attemptCount := row.attemptCount + 1
    processingAt := some tx.now
    leaseOwner := some tx.instanceId
    leaseUntil := some (tx.now + tx.leaseMs)
    lastErrorSafe := none }

def cancelUndeliveredRecovery (outbox : Table OutboxKey OutboxRow) (key : OutboxKey)
    (now : Time) : Table OutboxKey OutboxRow :=
  outbox.updateWhere
    (fun other row => other.incidentId = key.incidentId && other.channelId = key.channelId &&
      row.eventType = .recovery && row.status.isWaiting)
    fun _ row => row.canceledAsUndelivered now

/-- Attempts that are still open when the row is claimed again have an unknown outcome. -/
def abandonAttempts (deliveries : Table (OutboxKey × Nat) DeliveryRow) (key : OutboxKey)
    (now : Time) : Table (OutboxKey × Nat) DeliveryRow :=
  deliveries.updateWhere (fun other row => other.1 = key && row.status = .attempting) fun _ row =>
    { row with
      status := .unknown
      errorSafe := some "이전 발송 작업이 중단되어 전달 여부를 확인할 수 없습니다."
      finishedAt := some now }

def newDeliveryRow (row : OutboxRow) (now : Time) : DeliveryRow where
  status := .attempting
  messageId := row.messageId
  providerMessageId := none
  errorSafe := none
  startedAt := now
  finishedAt := none
  sentAt := none

/-- The status of the DOWN row that belongs to a recovery row; the schema's sequence check
makes DOWN the only event of an incident with its sequence. -/
def priorDownStatus (db : Database) (key : OutboxKey) : Option NotificationOutboxStatus :=
  (db.outbox.get key.down).map OutboxRow.status

def claimCommit (db : Database) (tx : ClaimTx) :
    Option (Database × Option ClaimedNotification) := do
  let row ← db.outbox.get tx.key
  match claimOutcome tx row (priorDownStatus db tx.key) with
  | .ignored => some (db, none)
  | .disabled =>
      some ({ db with outbox := db.outbox.updateKey tx.key fun row => row.canceledByClaim tx.now },
        none)
  | .prerequisiteMissing =>
      some ({ db with deliveries := abandonAttempts db.deliveries tx.key tx.now }, none)
  | .exhausted =>
      let failed := db.outbox.updateKey tx.key fun row => row.exhausted tx.now
      some ({ db with
        deliveries := abandonAttempts db.deliveries tx.key tx.now
        outbox :=
          if row.eventType = .down then cancelUndeliveredRecovery failed tx.key tx.now
          else failed }, none)
  | .granted => do
      let deliveries ← (abandonAttempts db.deliveries tx.key tx.now).insertNew
        (tx.key, row.attemptCount + 1) (newDeliveryRow row tx.now)
      some ({ db with
        deliveries := deliveries
        outbox := db.outbox.updateKey tx.key fun row => row.claimedFor tx },
        some ⟨tx.key, row.claimedFor tx, row.attemptCount + 1⟩)

/-- What `ensureRecoveryAfterLateDownSuccess` writes. -/
inductive LateRecovery
  | none
  | reactivate
  | create (row : OutboxRow)

def lateRecoveryRow (down : ClaimedNotification) (incident : IncidentRow) (resolvedAt : Time)
    (monitor : Option MonitorRow) (databaseTime : Time) : OutboxRow :=
  let dedupeKey := createNotificationDedupeKey down.key.incidentId down.key.channelId .recovery
  let original := down.row.payloadSafe
  newOutboxRow down.row.monitorId dedupeKey
    { eventType := .recovery
      monitorName := original.monitorName
      displayUrl := original.displayUrl
      occurredAt := resolvedAt
      errorType := incident.lastErrorType
      errorMessageSafe := original.errorMessageSafe
      statusCode := monitor.bind MonitorRow.lastStatusCode
      ttfbMs := monitor.bind MonitorRow.lastTtfbMs
      notifyOnRecovery := true
      durationMs := some (resolvedAt - incident.firstFailureAt)
      dashboardUrl := original.dashboardUrl }
    down.row.channelDisplayNameSnapshot down.row.encryptedConfigSnapshot
    down.row.messageId.domain databaseTime

/-- `ensureRecoveryAfterLateDownSuccess`, decided from one snapshot, with the incident
status that it returns. -/
def ensureRecoveryAfterLateDownSuccess (db : Database) (down : ClaimedNotification)
    (databaseTime : Time) : LateRecovery × Option IncidentStatus :=
  if down.row.eventType ≠ .down || !payloadAllowsRecovery down.row.payloadSafe then (.none, none)
  else
    match db.incidents.get down.key.incidentId with
    | none => (.none, none)
    | some incident =>
        match incident.resolvedAt with
        | none => (.none, some incident.status)
        | some resolvedAt =>
            if incident.status ≠ .resolved then (.none, some incident.status)
            else if !channelLive db down.key.channelId then (.none, some incident.status)
            else if !boundForRecovery db down.row.monitorId down.key.channelId then
              (.none, some incident.status)
            else
              match db.outbox.get down.key.followUp with
              | some existing =>
                  if existing.eventType = .recovery && existing.canceledUndelivered then
                    (.reactivate, some incident.status)
                  else (.none, some incident.status)
              | none =>
                  (.create (lateRecoveryRow down incident resolvedAt
                    (db.monitors.get down.row.monitorId) databaseTime), some incident.status)

/-- The `markSent` transaction: the row is locked and found not canceled or canceled, and
the snapshot of its plain reads is taken. -/
structure MarkSentTx where
  claimed : ClaimedNotification
  providerMessageId : Option String
  now : Time
  recovery : LateRecovery
  incidentStatus : Option IncidentStatus

def markSentBegin (db : Database) (claimed : ClaimedNotification)
    (providerMessageId : Option String) (now databaseTime : Time) : MarkSentTx :=
  let ensured := ensureRecoveryAfterLateDownSuccess db claimed databaseTime
  { claimed := claimed
    providerMessageId := providerMessageId
    now := now
    recovery := ensured.1
    incidentStatus := ensured.2 }

def OutboxRow.sent (row : OutboxRow) (now : Time) : OutboxRow :=
  { row with
    status := .sent
    sentAt := some now
    failedAt := none
    leaseOwner := none
    leaseUntil := none
    lastErrorSafe := none }

/-- A recovery that waits again because its DOWN was delivered after all. -/
def OutboxRow.reactivated (row : OutboxRow) (now : Time)
    (encryptedConfig : Sealed ChannelConfig) : OutboxRow :=
  { row with
    status := .pending
    availableAt := now
    canceledAt := none
    queueJobId := none
    enqueuedAt := none
    leaseOwner := none
    leaseUntil := none
    lastErrorSafe := none
    encryptedConfigSnapshot := encryptedConfig }

/-- The row of a confirmed attempt is needed further for the recovery of an open incident. -/
def MarkSentTx.retains (tx : MarkSentTx) : Bool :=
  shouldRetainNotificationSecret
    { status := .sent
      eventType := tx.claimed.row.eventType
      lastErrorSafe := none
      payloadAllowsRecovery := payloadAllowsRecovery tx.claimed.row.payloadSafe
      incidentStatus := tx.incidentStatus }

def MarkSentTx.rowWrite (tx : MarkSentTx) (row : OutboxRow) : OutboxRow :=
  if tx.retains then row.sent tx.now else (row.sent tx.now).retired

def MarkSentTx.recoveryWrite (tx : MarkSentTx) (outbox : Table OutboxKey OutboxRow) :
    Option (Table OutboxKey OutboxRow) :=
  match tx.recovery with
  | .none => some outbox
  | .reactivate =>
      some (outbox.updateKey tx.claimed.key.followUp fun row =>
        row.reactivated tx.now tx.claimed.row.encryptedConfigSnapshot)
  | .create row => outbox.insertNew tx.claimed.key.followUp row

def succeededDelivery (row : DeliveryRow) (providerMessageId : Option String) (now : Time) :
    DeliveryRow :=
  { row with
    status := .succeeded
    providerMessageId := providerMessageId
    errorSafe := none
    finishedAt := some now
    sentAt := some now }

/-- The commit of `markSent`. Any confirmed attempt wins over everything but CANCELED. -/
def markSentCommit (db : Database) (tx : MarkSentTx) : Option Database := do
  let row ← db.outbox.get tx.claimed.key
  let deliveries := db.deliveries.updateKey (tx.claimed.key, tx.claimed.deliveryAttempt)
    fun delivery => succeededDelivery delivery tx.providerMessageId tx.now
  if row.status = .canceled then some { db with deliveries := deliveries }
  else
    let outbox ← tx.recoveryWrite (db.outbox.updateKey tx.claimed.key tx.rowWrite)
    some { db with deliveries := deliveries, outbox := outbox }

/-- A thrown `NotificationProviderError`. -/
structure NotificationProviderError where
  retryable : Bool
  deliveryUncertain : Bool
  retryAfterMs : Option Nat
  safeMessage : String
deriving DecidableEq, Repr

def OutboxRow.awaitsRetry (row : OutboxRow) (availableAt : Time) (message : String) : OutboxRow :=
  { row with
    status := .retry
    availableAt := availableAt
    leaseOwner := none
    leaseUntil := none
    lastErrorSafe := some (sliceText message 1000) }

def OutboxRow.failedWith (row : OutboxRow) (now : Time) (message : String) : OutboxRow :=
  { row.retired with
    status := .failed
    failedAt := some now
    leaseOwner := none
    leaseUntil := none
    lastErrorSafe := some (sliceText message 1000) }

def failedDelivery (row : DeliveryRow) (error : NotificationProviderError) (now : Time) :
    DeliveryRow :=
  { row with
    status := if error.deliveryUncertain then .unknown else .failed
    errorSafe := some (sliceText error.safeMessage 1000)
    finishedAt := some now }

def mayRetry (claimed : ClaimedNotification) (error : NotificationProviderError) : Bool :=
  error.retryable && decide (claimed.deliveryAttempt < claimed.row.maxAttempts)

def OutboxRow.shows (row : OutboxRow) (claimed : ClaimedNotification) : Bool :=
  row.status = .processing && row.attemptCount = claimed.deliveryAttempt

/-- The report is about the current attempt of a DOWN row and leaves it FAILED. -/
def failsDown (db : Database) (claimed : ClaimedNotification)
    (error : NotificationProviderError) : Bool :=
  ((db.outbox.get claimed.key).any fun row => row.shows claimed) && !mayRetry claimed error &&
    claimed.row.eventType = .down

/-- `markFailed`; `retryDelayMs` is the random delay of `retry.ts`. -/
def markFailed (db : Database) (claimed : ClaimedNotification) (error : NotificationProviderError)
    (now : Time) (retryDelayMs : Nat) : Database :=
  let deliveries := db.deliveries.updateKey (claimed.key, claimed.deliveryAttempt)
    fun delivery => failedDelivery delivery error now
  let reported := db.outbox.updateWhere (fun key row => key = claimed.key && row.shows claimed)
    fun _ row =>
      if mayRetry claimed error then
        row.awaitsRetry (now + max (error.retryAfterMs.getD 0) retryDelayMs) error.safeMessage
      else row.failedWith now error.safeMessage
  { db with
    deliveries := deliveries
    outbox :=
      if failsDown db claimed error then
        cancelUndeliveredRecovery reported claimed.key now
      else reported }

end LinkAlive
