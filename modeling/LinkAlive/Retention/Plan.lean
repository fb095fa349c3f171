import LinkAlive.Retention.Tables

/-!
# The statements of a retention run

`packages/database/src/retention-plan.ts`. A select lists the ids of its rows in
`ORDER BY` order; the caller applies `LIMIT`. No other transaction runs, so there is
no locked row to skip.
-/

namespace LinkAlive

set_option autoImplicit false

open Relational Sql

/-- `ORDER BY time, id`. -/
def orderedBefore (left right : Nat × Nat) : Bool :=
  decide (left.1 < right.1 ∨ (left.1 = right.1 ∧ left.2 ≤ right.2))

/-- `SELECT id … WHERE keep ORDER BY time, id`. -/
def selectOrdered {Row : Type} (table : Table Nat Row) (keep : Nat → Row → Bool)
    (time : Row → Time) : List Nat :=
  let rows := (table.select keep).map fun entry => (time entry.2, entry.1)
  (rows.mergeSort orderedBefore).map Prod.snd

def selectDeletedMonitors (db : RetentionDatabase) : List MonitorId :=
  selectOrdered db.monitors
    (fun _ monitor => monitor.deletedAt.isSome && !monitor.requestUrlEncrypted.isTombstone)
    fun monitor => monitor.deletedAt.getD 0

def selectDeletedNotificationChannels (db : RetentionDatabase) : List ChannelId :=
  selectOrdered db.channels
    (fun _ channel => channel.deletedAt.isSome && !channel.encryptedConfig.isTombstone)
    fun channel => channel.deletedAt.getD 0

def openIncidentExists (db : RetentionDatabase) (outbox : StoredOutboxRow) : Truth :=
  existsIn db.incidents fun id incident =>
    Truth.all [equal (some id) outbox.incidentId, some (incident.status = .opened)]

def liveChannelExists (db : RetentionDatabase) (outbox : StoredOutboxRow) : Truth :=
  existsIn db.channels fun id channel =>
    Truth.all [some (id = outbox.channelId), some channel.enabled, some channel.deletedAt.isNone]

/-- `EXISTS` of a binding that asks for recovery notifications. -/
def recoveryBindingExists (db : RetentionDatabase) (outbox : StoredOutboxRow) : Truth :=
  existsIn db.bindings fun key binding =>
    Truth.all [equal (some key.1) outbox.monitorId, some (key.2 = outbox.channelId),
      some binding.notifyOnRecovery]

def standingDownExists (db : RetentionDatabase) (outbox : StoredOutboxRow) : Truth :=
  existsIn db.outbox fun _ down =>
    Truth.all [equal down.incidentId outbox.incidentId, some (down.channelId = outbox.channelId),
      some (down.eventType = .down), some (down.status ≠ .canceled)]

/-- The first `NOT (…)`: a sent DOWN whose recovery may still be created. -/
def awaitsRecovery (engine : SqlText) (db : RetentionDatabase) (outbox : StoredOutboxRow) : Truth :=
  Truth.all [some (outbox.eventType = .down), some (outbox.status = .sent),
    compare engine.collate (engine.unquotedMember "notifyOnRecovery" outbox.payloadSafe)
      (some "true"),
    openIncidentExists db outbox, liveChannelExists db outbox, recoveryBindingExists db outbox]

/-- The second `NOT (…)`: a canceled RECOVERY that a late success may reactivate. -/
def awaitsReactivation (engine : SqlText) (db : RetentionDatabase) (outbox : StoredOutboxRow) :
    Truth :=
  Truth.all [some (outbox.eventType = .recovery), some (outbox.status = .canceled),
    compare engine.collate outbox.lastErrorSafe (some downNotDeliveredRecoveryCancelReason),
    liveChannelExists db outbox, standingDownExists db outbox, recoveryBindingExists db outbox]

/-- The `WHERE` clause of `selectTerminalNotificationOutboxSql`. -/
def terminalNotificationOutboxWhere (engine : SqlText) (db : RetentionDatabase)
    (outbox : StoredOutboxRow) : Truth :=
  Truth.all [some outbox.status.isTerminal, some (!outbox.encryptedConfigSnapshot.isTombstone),
    (awaitsRecovery engine db outbox).negate, (awaitsReactivation engine db outbox).negate]

def selectTerminalNotificationOutbox (engine : SqlText) (db : RetentionDatabase) :
    List OutboxId :=
  selectOrdered db.outbox
    (fun _ outbox => (terminalNotificationOutboxWhere engine db outbox).isTrue)
    StoredOutboxRow.updatedAt

inductive RetentionRedactionStepKey
  | deletedMonitors | deletedNotificationChannels | terminalNotificationOutbox
deriving DecidableEq, Repr

def RetentionRedactionStepKey.all : List RetentionRedactionStepKey :=
  [.deletedMonitors, .deletedNotificationChannels, .terminalNotificationOutbox]

def RetentionRedactionStepKey.select (engine : SqlText) (db : RetentionDatabase) :
    RetentionRedactionStepKey → List Nat
  | .deletedMonitors => selectDeletedMonitors db
  | .deletedNotificationChannels => selectDeletedNotificationChannels db
  | .terminalNotificationOutbox => selectTerminalNotificationOutbox engine db

def MonitorRow.redacted (monitor : MonitorRow) : MonitorRow :=
  { monitor with requestUrlEncrypted := .tombstone }

def ChannelRow.redacted (channel : ChannelRow) : ChannelRow :=
  { channel with encryptedConfig := .tombstone }

def StoredOutboxRow.redacted (outbox : StoredOutboxRow) : StoredOutboxRow :=
  { outbox with encryptedConfigSnapshot := .tombstone }

def redactIds {Row : Type} (table : Table Nat Row) (change : Row → Row) (ids : List Nat) :
    Table Nat Row :=
  table.updateWhere (fun id _ => decide (id ∈ ids)) fun _ row => change row

/-- The `mutateSql` of a redaction step. -/
def RetentionRedactionStepKey.redact (db : RetentionDatabase) (ids : List Nat) :
    RetentionRedactionStepKey → RetentionDatabase
  | .deletedMonitors => { db with monitors := redactIds db.monitors MonitorRow.redacted ids }
  | .deletedNotificationChannels =>
      { db with channels := redactIds db.channels ChannelRow.redacted ids }
  | .terminalNotificationOutbox =>
      { db with outbox := redactIds db.outbox StoredOutboxRow.redacted ids }

def StoredOutboxRow.endedAt (outbox : StoredOutboxRow) : Time :=
  coalesce [outbox.sentAt, outbox.failedAt, outbox.canceledAt] outbox.updatedAt

def StoredDeliveryRow.endedAt (delivery : StoredDeliveryRow) : Time :=
  coalesce [delivery.finishedAt] delivery.createdAt

def StoredCheckRow.endedAt (check : StoredCheckRow) : Time :=
  coalesce [check.completedAt, check.canceledAt] check.updatedAt

def ScheduledCheckStatus.isFinal : ScheduledCheckStatus → Bool
  | .completed | .failed | .canceled => true
  | .pending | .enqueued | .running => false

/-- `COALESCE(resolved_at, canceled_at)` may be NULL. -/
def IncidentRow.closedAt (incident : IncidentRow) : Option Time :=
  incident.resolvedAt.or incident.canceledAt

def selectCheckResults (cutoff : Time) (db : RetentionDatabase) : List ResultId :=
  selectOrdered db.results (fun _ result => decide (result.finishedAt < cutoff))
    StoredResultRow.finishedAt

def selectScheduledChecks (cutoff : Time) (db : RetentionDatabase) : List CheckId :=
  selectOrdered db.checks
    (fun id check => check.status.isFinal && decide (check.endedAt < cutoff) &&
      db.results.every fun _ result => decide (result.scheduledCheckId ≠ some id))
    StoredCheckRow.endedAt

def selectNotificationDeliveries (cutoff : Time) (db : RetentionDatabase) : List DeliveryId :=
  selectOrdered db.deliveries
    (fun _ delivery =>
      (db.outbox.get delivery.outboxId).any fun outbox =>
        outbox.status.isTerminal && decide (delivery.endedAt < cutoff) &&
          decide (outbox.endedAt < cutoff))
    StoredDeliveryRow.endedAt

def selectNotificationOutbox (cutoff : Time) (db : RetentionDatabase) : List OutboxId :=
  selectOrdered db.outbox
    (fun id outbox => outbox.status.isTerminal && decide (outbox.endedAt < cutoff) &&
      db.deliveries.every fun _ delivery => decide (delivery.outboxId ≠ id))
    StoredOutboxRow.endedAt

def selectIncidents (cutoff : Time) (db : RetentionDatabase) : List IncidentId :=
  selectOrdered db.incidents
    (fun id incident => decide (incident.status ≠ .opened) &&
      incident.closedAt.any (fun closedAt => decide (closedAt < cutoff)) &&
        db.outbox.every fun _ outbox => decide (outbox.incidentId ≠ some id))
    fun incident => incident.closedAt.getD 0

def selectAuditLogs (cutoff : Time) (db : RetentionDatabase) : List AuditLogId :=
  selectOrdered db.auditLogs (fun _ audit => decide (audit.createdAt < cutoff))
    AuditLogRow.createdAt

inductive RetentionStepKey
  | checkResults | scheduledChecks | notificationDeliveries | notificationOutbox | incidents
  | auditLogs
deriving DecidableEq, Repr

def RetentionStepKey.all : List RetentionStepKey :=
  [.checkResults, .scheduledChecks, .notificationDeliveries, .notificationOutbox, .incidents,
    .auditLogs]

def RetentionStepKey.select (cutoff : Time) (db : RetentionDatabase) :
    RetentionStepKey → List Nat
  | .checkResults => selectCheckResults cutoff db
  | .scheduledChecks => selectScheduledChecks cutoff db
  | .notificationDeliveries => selectNotificationDeliveries cutoff db
  | .notificationOutbox => selectNotificationOutbox cutoff db
  | .incidents => selectIncidents cutoff db
  | .auditLogs => selectAuditLogs cutoff db

def deleteIds {Row : Type} (table : Table Nat Row) (ids : List Nat) : Table Nat Row :=
  table.deleteWhere fun id _ => decide (id ∈ ids)

/-- The `mutateSql` of a deletion step. -/
def RetentionStepKey.delete (db : RetentionDatabase) (ids : List Nat) :
    RetentionStepKey → RetentionDatabase
  | .checkResults => { db with results := deleteIds db.results ids }
  | .scheduledChecks => { db with checks := deleteIds db.checks ids }
  | .notificationDeliveries => { db with deliveries := deleteIds db.deliveries ids }
  | .notificationOutbox => { db with outbox := deleteIds db.outbox ids }
  | .incidents => { db with incidents := deleteIds db.incidents ids }
  | .auditLogs => { db with auditLogs := deleteIds db.auditLogs ids }

theorem mem_select_ordered {Row : Type} (table : Table Nat Row) (keep : Nat → Row → Bool)
    (time : Row → Time) (id : Nat) :
    id ∈ selectOrdered table keep time ↔
      ∃ row, table.get id = some row ∧ keep id row = true := by
  simp only [selectOrdered, List.mem_map, List.mem_mergeSort, Prod.exists]
  constructor
  · rintro ⟨stamp, key, ⟨found, row, member, same⟩, rfl⟩
    cases same
    exact ⟨row, (Table.mem_select table keep key row).1 member⟩
  · rintro ⟨row, found⟩
    exact ⟨time row, id, ⟨id, row, (Table.mem_select table keep id row).2 found, rfl⟩, rfl⟩

end LinkAlive
