import LinkAlive.Foundation.Sql
import LinkAlive.Worker.NotificationRules

/-!
# The tables of the retention command

The rows as `packages/database/src/retention-plan.ts` sees them: nullable columns
where the schema allows NULL, payloads as JSON, a primary key of its own for every
row. Ids are numbers; their order stands for the order of the stored UUIDs.
-/

namespace LinkAlive

set_option autoImplicit false

open Relational

inductive Json
  | null
  | bool (value : Bool)
  | number (literal : String)
  | string (text : String)
  | array (items : List Json)
  | object (members : List (String × Json))

def Json.member (name : String) : Json → Option Json
  | .object members => members.lookup name
  | _ => none

/-- `payloadAllowsRecovery` of the worker, on stored JSON. -/
def Json.allowsRecovery (payload : Json) : Bool :=
  match payload.member "notifyOnRecovery" with
  | some (.bool allowed) => allowed
  | _ => false

abbrev OutboxId := Nat
abbrev DeliveryId := Nat
abbrev ResultId := Nat
abbrev AuditLogId := Nat

structure StoredOutboxRow where
  monitorId : Option MonitorId
  incidentId : Option IncidentId
  channelId : ChannelId
  eventType : NotificationEventType
  sequence : Nat
  payloadSafe : Json
  channelDisplayNameSnapshot : String
  encryptedConfigSnapshot : Sealed ChannelConfig
  status : NotificationOutboxStatus
  attemptCount : Nat
  maxAttempts : Nat
  lastErrorSafe : Option String
  sentAt : Option Time
  failedAt : Option Time
  canceledAt : Option Time
  updatedAt : Time

structure StoredDeliveryRow where
  outboxId : OutboxId
  finishedAt : Option Time
  createdAt : Time

structure StoredCheckRow where
  monitorId : MonitorId
  configVersion : Nat
  status : ScheduledCheckStatus
  completedAt : Option Time
  canceledAt : Option Time
  updatedAt : Time

structure StoredResultRow where
  monitorId : Option MonitorId
  scheduledCheckId : Option CheckId
  configVersion : Option Nat
  finishedAt : Time

structure AuditLogRow where
  createdAt : Time

structure RetentionDatabase where
  monitors : Table MonitorId MonitorRow
  channels : Table ChannelId ChannelRow
  bindings : Table (MonitorId × ChannelId) BindingRow
  incidents : Table IncidentId IncidentRow
  outbox : Table OutboxId StoredOutboxRow
  deliveries : Table DeliveryId StoredDeliveryRow
  checks : Table CheckId StoredCheckRow
  results : Table ResultId StoredResultRow
  auditLogs : Table AuditLogId AuditLogRow

/-- The text functions of the database server: the collation of `=` on text columns and
the text that `JSON_UNQUOTE` gives a value that is not a string. -/
structure SqlText where
  collate : String → String → Bool
  collate_refl : ∀ text, collate text text = true
  jsonText : Json → String
  json_text_true : jsonText (.bool true) = "true"

/-- `JSON_UNQUOTE(JSON_EXTRACT(payload, '$.name'))`; NULL for a missing member. -/
def SqlText.unquotedMember (engine : SqlText) (name : String) (payload : Json) : Option String :=
  (payload.member name).map fun value =>
    match value with
    | .string text => text
    | other => engine.jsonText other

end LinkAlive
