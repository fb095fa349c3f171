import LinkAlive.Retention.Redaction
import LinkAlive.Retention.Resolution
import LinkAlive.Retention.Runner

/-!
# Retention and the recovery of an open incident

A resolution reads the DOWN events of its incident. The redaction select spares the
secret of a delivered DOWN of an open incident; the deletion of old outbox rows looks
at their age only.
-/

namespace LinkAlive

set_option autoImplicit false

open Relational Sql Batches

/-- The unique indexes, foreign keys and CHECK constraints that bear on a resolution.
Follow-up events are inserted when their incident closes, never before. -/
structure Consistent (db : RetentionDatabase) : Prop where
  indexed : ∀ first second left right, db.outbox.get first = some left →
    db.outbox.get second = some right → left.incidentId = right.incidentId →
      left.incidentId.isSome = true → left.channelId = right.channelId →
        left.sequence = right.sequence → first = second
  sequenced : ∀ id outbox, db.outbox.get id = some outbox →
    outbox.sequence = notificationSequence outbox.eventType
  owned : ∀ id outbox incidentId, db.outbox.get id = some outbox →
    outbox.incidentId = some incidentId → ∃ incident,
      db.incidents.get incidentId = some incident ∧ outbox.monitorId = some incident.monitorId
  attempts : ∀ id outbox, db.outbox.get id = some outbox →
    outbox.attemptCount ≤ outbox.maxAttempts ∧ outbox.maxAttempts ≤ 10
  oneOpen : ∀ first second left right, db.incidents.get first = some left →
    db.incidents.get second = some right → left.monitorId = right.monitorId →
      left.status = .opened → right.status = .opened → first = second
  unanswered : ∀ id outbox incidentId incident, db.outbox.get id = some outbox →
    outbox.incidentId = some incidentId → db.incidents.get incidentId = some incident →
      incident.status = .opened → outbox.eventType = .down

/-- A delivered DOWN event whose recovery is still to come. -/
structure AwaitingRecovery (db : RetentionDatabase) (id : OutboxId) (down : StoredOutboxRow)
    (incidentId : IncidentId) (incident : IncidentRow) : Prop where
  stored : db.outbox.get id = some down
  ofIncident : down.incidentId = some incidentId
  held : db.incidents.get incidentId = some incident
  opened : incident.status = .opened
  event : down.eventType = .down
  sent : down.status = .sent
  allows : down.payloadSafe.allowsRecovery = true
  sealed : down.encryptedConfigSnapshot.isTombstone = false
  live : ChannelLive db down
  bound : BoundForRecovery db down

structure Resolves (tx : PersistTx) (monitorId : MonitorId) (resolvedAt : Time) : Prop where
  monitor : tx.monitorId = monitorId
  effect : ∃ reason, tx.incidentEffect = .resolve resolvedAt reason
  fresh : tx.outbox.creates = []

def followUpAfter (reading : WorkerReading) (db : RetentionDatabase) (tx : PersistTx)
    (incidentId : IncidentId) (channelId : ChannelId) : Option OutboxRow :=
  (resolveAlone (db.worker reading) tx 0).bind fun after =>
    after.outbox.get ⟨incidentId, channelId, notificationSequence .recovery⟩

theorem indexed_some_iff {reading : WorkerReading} {outbox : StoredOutboxRow} {key : OutboxKey}
    {row : OutboxRow} :
    outbox.indexed reading = some (key, row) ↔
      ∃ incidentId monitorId, outbox.incidentId = some incidentId ∧
        outbox.monitorId = some monitorId ∧
        key = ⟨incidentId, outbox.channelId, outbox.sequence⟩ ∧
        row = outbox.workerRow reading incidentId monitorId := by
  unfold StoredOutboxRow.indexed
  split
  · rename_i incidentId monitorId incident monitor
    rw [incident, monitor]
    simp [eq_comm]
  · rename_i missing
    simp only [reduceCtorEq, false_iff, not_exists, not_and]
    intro incidentId monitorId incident monitor
    exact absurd monitor (missing incidentId monitorId incident)

theorem Consistent.get_worker {db : RetentionDatabase} (consistent : Consistent db)
    (reading : WorkerReading) {key : OutboxKey} {row : OutboxRow} :
    (db.worker reading).outbox.get key = some row ↔
      ∃ id outbox monitorId, db.outbox.get id = some outbox ∧
        outbox.incidentId = some key.incidentId ∧ outbox.monitorId = some monitorId ∧
        outbox.channelId = key.channelId ∧ outbox.sequence = key.sequence ∧
        row = outbox.workerRow reading key.incidentId monitorId := by
  simp only [RetentionDatabase.worker]
  rw [Table.get_reindex]
  · simp only [indexed_some_iff]
    constructor
    · rintro ⟨id, outbox, stored, incidentId, monitorId, incident, monitor, rfl, rfl⟩
      exact ⟨id, outbox, monitorId, stored, incident, monitor, rfl, rfl, rfl⟩
    · rintro ⟨id, outbox, monitorId, stored, incident, monitor, channel, sequence, rfl⟩
      refine ⟨id, outbox, stored, key.incidentId, monitorId, incident, monitor, ?_, rfl⟩
      rw [channel, sequence]
  · intro first second left right other leftRow rightRow storedLeft storedRight fromLeft fromRight
    obtain ⟨incidentId, monitorId, incident, -, rfl, -⟩ := indexed_some_iff.1 fromLeft
    obtain ⟨otherId, otherMonitor, otherIncident, -, same, -⟩ := indexed_some_iff.1 fromRight
    rw [OutboxKey.mk.injEq] at same
    obtain ⟨sameIncident, sameChannel, sameSequence⟩ := same
    refine consistent.indexed first second left right storedLeft storedRight ?_ ?_ sameChannel
      sameSequence
    · rw [incident, otherIncident, sameIncident]
    · rw [incident]
      rfl

theorem Consistent.answerable {db : RetentionDatabase} (consistent : Consistent db)
    (reading : WorkerReading) {incidentId : IncidentId} {incident : IncidentRow}
    (stored : db.incidents.get incidentId = some incident) (opened : incident.status = .opened) :
    Answerable (db.worker reading) incidentId where
  counted := by
    intro key row found
    obtain ⟨id, outbox, monitorId, held, -, -, -, -, rfl⟩ :=
      (consistent.get_worker reading).1 found
    obtain ⟨attempts, most⟩ := consistent.attempts id outbox held
    have small : outbox.attemptCount ≤ maxSafeInteger :=
      Nat.le_trans (Nat.le_trans attempts most) (by decide)
    exact decide_eq_true small
  sequenced := by
    intro key row found down
    obtain ⟨id, outbox, monitorId, held, -, -, -, sequence, rfl⟩ :=
      (consistent.get_worker reading).1 found
    have kind : outbox.eventType = .down := down
    rw [← sequence, consistent.sequenced id outbox held, kind]
  unanswered := by
    intro channelId
    rw [Option.eq_none_iff_forall_ne_some]
    intro row found
    obtain ⟨id, outbox, monitorId, held, ofIncident, -, -, sequence, -⟩ :=
      (consistent.get_worker reading).1 found
    have down := consistent.unanswered id outbox incidentId incident held ofIncident stored opened
    rw [consistent.sequenced id outbox held, down] at sequence
    cases sequence

theorem Consistent.open_incident {db : RetentionDatabase} (consistent : Consistent db)
    (reading : WorkerReading) {incidentId : IncidentId} {incident : IncidentRow}
    (stored : db.incidents.get incidentId = some incident) (opened : incident.status = .opened) :
    openIncident (db.worker reading) incident.monitorId = some (incidentId, incident) := by
  cases found : openIncident (db.worker reading) incident.monitorId with
  | none => exact absurd opened (open_incident_none found stored rfl)
  | some entry =>
      obtain ⟨other, row⟩ := entry
      obtain ⟨held, owner, isOpen⟩ := open_incident_some found
      have heldStored : db.incidents.get other = some row := held
      have same := consistent.oneOpen other incidentId row incident heldStored stored owner isOpen
        opened
      subst same
      rw [heldStored] at stored
      cases stored
      rfl

theorem channel_live_iff {reading : WorkerReading} {db : RetentionDatabase}
    {outbox : StoredOutboxRow} :
    channelLive (db.worker reading) outbox.channelId = true ↔ ChannelLive db outbox := by
  simp only [channelLive, RetentionDatabase.worker, ChannelLive]
  cases db.channels.get outbox.channelId with
  | none => simp
  | some channel => simp [ChannelRow.isLive]

theorem bound_for_recovery_iff {reading : WorkerReading} {db : RetentionDatabase}
    {outbox : StoredOutboxRow} {monitorId : MonitorId}
    (monitor : outbox.monitorId = some monitorId) :
    boundForRecovery (db.worker reading) monitorId outbox.channelId = true ↔
      BoundForRecovery db outbox := by
  simp only [boundForRecovery, RetentionDatabase.worker, BoundForRecovery, monitor,
    Option.some.injEq]
  constructor
  · intro bound
    split at bound
    · rename_i binding found
      exact ⟨monitorId, binding, rfl, found, bound⟩
    · cases bound
  · rintro ⟨_, binding, rfl, found, notifies⟩
    rw [found]
    exact notifies

def recoveryFor (reading : WorkerReading) (tx : PersistTx) (down : StoredOutboxRow)
    (incidentId : IncidentId) (incident : IncidentRow) (resolvedAt : Time) : OutboxRow :=
  (recoveryRow tx incidentId (incident.resolved resolvedAt)
    ⟨incidentId, down.channelId, down.sequence⟩
    (down.workerRow reading incidentId incident.monitorId) .recovery).2

theorem follow_up_after_iff {reading : WorkerReading} {db : RetentionDatabase}
    (consistent : Consistent db) {tx : PersistTx} {incidentId : IncidentId}
    {incident : IncidentRow} {resolvedAt : Time}
    (held : db.incidents.get incidentId = some incident) (opened : incident.status = .opened)
    (resolves : Resolves tx incident.monitorId resolvedAt) (channelId : ChannelId)
    (row : OutboxRow) :
    followUpAfter reading db tx incidentId channelId = some row ↔
      ∃ key down, (key, down) ∈ recoveryDownEvents (db.worker reading) incident.monitorId incidentId ∧
        answer tx incidentId (incident.resolved resolvedAt) (key, down) =
          some (⟨incidentId, channelId, notificationSequence .recovery⟩, row) := by
  obtain ⟨reason, effect⟩ := resolves.effect
  have found := consistent.open_incident reading held opened
  rw [← resolves.monitor] at found
  obtain ⟨after, resolved, follows⟩ := resolve_alone_answers 0 effect found resolves.fresh rfl
    (consistent.answerable reading held opened)
  rw [followUpAfter, resolved, Option.bind_some, follows, resolves.monitor]
  simp only [List.mem_filterMap, Prod.exists]

/-- A resolution answers a delivered DOWN event with a RECOVERY under its snapshot. -/
theorem awaiting_recovery_answered (reading : WorkerReading) {db : RetentionDatabase}
    (consistent : Consistent db) {id : OutboxId} {down : StoredOutboxRow}
    {incidentId : IncidentId} {incident : IncidentRow}
    (awaiting : AwaitingRecovery db id down incidentId incident) {tx : PersistTx}
    {resolvedAt : Time} (resolves : Resolves tx incident.monitorId resolvedAt) :
    followUpAfter reading db tx incidentId down.channelId =
      some (recoveryFor reading tx down incidentId incident resolvedAt) := by
  rw [follow_up_after_iff consistent awaiting.held awaiting.opened resolves]
  obtain ⟨owner, heldOwner, monitor⟩ :=
    consistent.owned id down incidentId awaiting.stored awaiting.ofIncident
  have same : owner = incident := by
    rw [awaiting.held] at heldOwner
    exact (Option.some.inj heldOwner).symm
  subst same
  refine ⟨⟨incidentId, down.channelId, down.sequence⟩,
    down.workerRow reading incidentId owner.monitorId, ?_, ?_⟩
  · refine mem_recovery_down_events.2 ⟨?_, rfl, awaiting.event, ?_, ?_⟩
    · exact (consistent.get_worker reading).2
        ⟨id, down, owner.monitorId, awaiting.stored, awaiting.ofIncident, monitor, rfl, rfl, rfl⟩
    · exact channel_live_iff.2 awaiting.live
    · exact (bound_for_recovery_iff monitor).2 awaiting.bound
  · have allows : payloadAllowsRecovery
        (down.workerRow reading incidentId owner.monitorId).payloadSafe = true :=
      (reading.payload_allows _).trans awaiting.allows
    have counted : isSafeInteger down.attemptCount = true :=
      (consistent.answerable reading awaiting.held awaiting.opened).counted _ _
        ((consistent.get_worker reading).2 ⟨id, down, owner.monitorId, awaiting.stored,
          awaiting.ofIncident, monitor, rfl, rfl, rfl⟩ : (db.worker reading).outbox.get
            ⟨incidentId, down.channelId, down.sequence⟩ = _)
    have plan : planRecoveryNotification .sent down.attemptCount =
        .ok (.createRecovery false) := by
      simp [planRecoveryNotification, counted, NotificationOutboxStatus.isUnsent]
    have status : (down.workerRow reading incidentId owner.monitorId).status = .sent :=
      awaiting.sent
    have attempts : (down.workerRow reading incidentId owner.monitorId).attemptCount =
        down.attemptCount := rfl
    simp only [answer, allows, if_true, status, attempts, plan]
    rfl

theorem no_follow_up (reading : WorkerReading) {db : RetentionDatabase}
    (consistent : Consistent db) {incidentId : IncidentId} {incident : IncidentRow}
    (held : db.incidents.get incidentId = some incident) (opened : incident.status = .opened)
    {channelId : ChannelId}
    (absent : ∀ id outbox, db.outbox.get id = some outbox →
      outbox.incidentId = some incidentId → outbox.channelId ≠ channelId) {tx : PersistTx}
    {resolvedAt : Time} (resolves : Resolves tx incident.monitorId resolvedAt) :
    followUpAfter reading db tx incidentId channelId = none := by
  rw [Option.eq_none_iff_forall_ne_some]
  intro row created
  obtain ⟨key, down, member, answered⟩ :=
    (follow_up_after_iff consistent held opened resolves channelId row).1 created
  have channel : channelId = key.channelId := by
    have keys := answer_key answered
    simp only [OutboxKey.mk.injEq, true_and, and_true] at keys
    exact keys
  obtain ⟨stored, own, -⟩ := mem_recovery_down_events.1 member
  obtain ⟨id, outbox, monitorId, heldRow, ofIncident, -, same, -⟩ :=
    (consistent.get_worker reading).1 stored
  exact absent id outbox heldRow (own ▸ ofIncident) (same.trans channel.symm)

theorem run_steps_database {Key : Type} (config : RetentionConfig)
    {worklist : Key → Worklist RetentionDatabase Nat} (lawful : ∀ key, (worklist key).Lawful)
    (keys : List Key) (db : RetentionDatabase) :
    (runSteps config worklist keys db).1 = keys.foldl (fun db key =>
      (worklist key).mutate db (((worklist key).select db).take config.reach)) db := by
  induction keys generalizing db with
  | nil => rfl
  | cons key rest ih =>
      simp only [runSteps, List.foldl_cons, ih, Worklist.run_state (lawful key)]
      rfl

def redactionStep (engine : SqlText) (config : RetentionConfig) (db : RetentionDatabase)
    (key : RetentionRedactionStepKey) : RetentionDatabase :=
  key.redact db ((key.select engine db).take config.reach)

def deletionStep (config : RetentionConfig) (db : RetentionDatabase) (key : RetentionStepKey) :
    RetentionDatabase :=
  key.delete db ((key.select (key.cutoff config) db).take config.reach)

def redactedDatabase (engine : SqlText) (config : RetentionConfig) (db : RetentionDatabase) :
    RetentionDatabase :=
  RetentionRedactionStepKey.all.foldl (redactionStep engine config) db

/-- The deliveries that the run deletes, judged on the state before the run. -/
def removedDeliveries (config : RetentionConfig) (db : RetentionDatabase) : List DeliveryId :=
  (selectNotificationDeliveries config.historyCutoff db).take config.reach

/-- The outbox rows that the run deletes: old terminal rows whose deliveries are all
deleted, as far as the batches reach. -/
def removedOutbox (config : RetentionConfig) (db : RetentionDatabase) : List OutboxId :=
  (selectNotificationOutbox config.historyCutoff
    { db with deliveries := deleteIds db.deliveries (removedDeliveries config db) }).take
      config.reach

theorem run_retention_database (engine : SqlText) (config : RetentionConfig)
    (db : RetentionDatabase) :
    (runRetention engine config db).database =
      RetentionStepKey.all.foldl (deletionStep config) (redactedDatabase engine config db) := by
  have phases : (runRetention engine config db).database =
      (runSteps config (RetentionStepKey.worklist config) RetentionStepKey.all
        (runSteps config (RetentionRedactionStepKey.worklist engine)
          RetentionRedactionStepKey.all db).1).1 := rfl
  rw [phases, run_steps_database config (redaction_lawful engine),
    run_steps_database config (deletion_lawful config)]
  rfl

section Frames

variable (config : RetentionConfig) (db : RetentionDatabase)

theorem deletion_step_channels (key : RetentionStepKey) :
    (deletionStep config db key).channels = db.channels := by
  cases key <;> rfl

theorem deletion_step_bindings (key : RetentionStepKey) :
    (deletionStep config db key).bindings = db.bindings := by
  cases key <;> rfl

theorem deletion_step_outbox {key : RetentionStepKey} (other : key ≠ .notificationOutbox) :
    (deletionStep config db key).outbox = db.outbox := by
  cases key <;> first | rfl | exact absurd rfl other

theorem deletion_step_deliveries {key : RetentionStepKey}
    (other : key ≠ .notificationDeliveries) :
    (deletionStep config db key).deliveries = db.deliveries := by
  cases key <;> first | rfl | exact absurd rfl other

theorem deletion_step_incidents {key : RetentionStepKey} (other : key ≠ .incidents) :
    (deletionStep config db key).incidents = db.incidents := by
  cases key <;> first | rfl | exact absurd rfl other

theorem redaction_step_incidents (engine : SqlText) (key : RetentionRedactionStepKey) :
    (redactionStep engine config db key).incidents = db.incidents := by
  cases key <;> rfl

theorem redaction_step_bindings (engine : SqlText) (key : RetentionRedactionStepKey) :
    (redactionStep engine config db key).bindings = db.bindings := by
  cases key <;> rfl

theorem redaction_step_deliveries (engine : SqlText) (key : RetentionRedactionStepKey) :
    (redactionStep engine config db key).deliveries = db.deliveries := by
  cases key <;> rfl

end Frames

theorem run_retention_channels (engine : SqlText) (config : RetentionConfig)
    (db : RetentionDatabase) :
    (runRetention engine config db).database.channels =
      (redactedDatabase engine config db).channels := by
  rw [run_retention_database]
  simp only [RetentionStepKey.all, List.foldl_cons, List.foldl_nil, deletion_step_channels]

theorem run_retention_bindings (engine : SqlText) (config : RetentionConfig)
    (db : RetentionDatabase) :
    (runRetention engine config db).database.bindings = db.bindings := by
  rw [run_retention_database]
  simp only [RetentionStepKey.all, List.foldl_cons, List.foldl_nil, deletion_step_bindings,
    redactedDatabase, RetentionRedactionStepKey.all, redaction_step_bindings]

theorem select_deliveries_congr {left right : RetentionDatabase} (cutoff : Time)
    (outbox : left.outbox = right.outbox) (deliveries : left.deliveries = right.deliveries) :
    selectNotificationDeliveries cutoff left = selectNotificationDeliveries cutoff right := by
  simp only [selectNotificationDeliveries, outbox, deliveries]

theorem select_outbox_congr {left right : RetentionDatabase} (cutoff : Time)
    (outbox : left.outbox = right.outbox) (deliveries : left.deliveries = right.deliveries) :
    selectNotificationOutbox cutoff left = selectNotificationOutbox cutoff right := by
  simp only [selectNotificationOutbox, outbox, deliveries]

theorem run_retention_outbox (engine : SqlText) (config : RetentionConfig)
    (db : RetentionDatabase) :
    (runRetention engine config db).database.outbox =
      deleteIds (redactedDatabase engine config db).outbox
        (removedOutbox config (redactedDatabase engine config db)) := by
  let redacted := redactedDatabase engine config db
  let first := [.checkResults, .scheduledChecks].foldl (deletionStep config) redacted
  let second := deletionStep config first .notificationDeliveries
  have firstOutbox : first.outbox = redacted.outbox := by
    simp only [first, List.foldl_cons, List.foldl_nil]
    rw [deletion_step_outbox config _ (by decide), deletion_step_outbox config _ (by decide)]
  have firstDeliveries : first.deliveries = redacted.deliveries := by
    simp only [first, List.foldl_cons, List.foldl_nil]
    rw [deletion_step_deliveries config _ (by decide),
      deletion_step_deliveries config _ (by decide)]
  have secondOutbox : second.outbox = redacted.outbox :=
    (deletion_step_outbox config first (by decide)).trans firstOutbox
  have secondDeliveries : second.deliveries =
      deleteIds redacted.deliveries (removedDeliveries config redacted) := by
    have step : second.deliveries = deleteIds first.deliveries
        ((selectNotificationDeliveries config.historyCutoff first).take config.reach) := rfl
    rw [step, select_deliveries_congr config.historyCutoff firstOutbox firstDeliveries,
      firstDeliveries]
    rfl
  have third : (deletionStep config second .notificationOutbox).outbox =
      deleteIds redacted.outbox (removedOutbox config redacted) := by
    have step : (deletionStep config second .notificationOutbox).outbox = deleteIds second.outbox
        ((selectNotificationOutbox config.historyCutoff second).take config.reach) := rfl
    have selected : selectNotificationOutbox config.historyCutoff second =
        selectNotificationOutbox config.historyCutoff { redacted with
          deliveries := deleteIds redacted.deliveries (removedDeliveries config redacted) } :=
      select_outbox_congr config.historyCutoff secondOutbox secondDeliveries
    rw [step, selected, secondOutbox]
    rfl
  rw [run_retention_database, ← third]
  simp only [RetentionStepKey.all, List.foldl_cons, List.foldl_nil]
  rw [deletion_step_outbox config _ (by decide), deletion_step_outbox config _ (by decide)]
  rfl

theorem incident_deletion (engine : SqlText) (config : RetentionConfig)
    (db : RetentionDatabase) : ∃ before : RetentionDatabase, before.incidents = db.incidents ∧
      before.outbox = (runRetention engine config db).database.outbox ∧
      (runRetention engine config db).database.incidents = deleteIds db.incidents
        ((selectIncidents config.historyCutoff before).take config.reach) := by
  let redacted := redactedDatabase engine config db
  let before := [.checkResults, .scheduledChecks, .notificationDeliveries,
    .notificationOutbox].foldl (deletionStep config) redacted
  have incidents : before.incidents = db.incidents := by
    simp only [before, redacted, redactedDatabase, RetentionRedactionStepKey.all,
      List.foldl_cons, List.foldl_nil]
    rw [deletion_step_incidents config _ (by decide), deletion_step_incidents config _ (by decide),
      deletion_step_incidents config _ (by decide), deletion_step_incidents config _ (by decide),
      redaction_step_incidents, redaction_step_incidents, redaction_step_incidents]
  have outbox : before.outbox = (runRetention engine config db).database.outbox := by
    rw [run_retention_database]
    simp only [RetentionStepKey.all, List.foldl_cons, List.foldl_nil]
    rw [deletion_step_outbox config _ (by decide), deletion_step_outbox config _ (by decide)]
    rfl
  have deleted : (runRetention engine config db).database.incidents = deleteIds before.incidents
      ((selectIncidents config.historyCutoff before).take config.reach) := by
    rw [run_retention_database]
    simp only [RetentionStepKey.all, List.foldl_cons, List.foldl_nil]
    rw [deletion_step_incidents config _ (by decide)]
    rfl
  exact ⟨before, incidents, outbox, incidents ▸ deleted⟩

theorem incident_after_source (engine : SqlText) (config : RetentionConfig)
    {db : RetentionDatabase} {id : IncidentId} {incident : IncidentRow}
    (stored : (runRetention engine config db).database.incidents.get id = some incident) :
    db.incidents.get id = some incident := by
  obtain ⟨before, -, -, deleted⟩ := incident_deletion engine config db
  rw [deleted, get_delete_ids] at stored
  exact stored.1

theorem incident_kept (engine : SqlText) (config : RetentionConfig) {db : RetentionDatabase}
    {incidentId : IncidentId} {incident : IncidentRow}
    (held : db.incidents.get incidentId = some incident)
    (needed : incident.status = .opened ∨ ∃ id row,
      (runRetention engine config db).database.outbox.get id = some row ∧
        row.incidentId = some incidentId) :
    (runRetention engine config db).database.incidents.get incidentId = some incident := by
  obtain ⟨before, incidents, outbox, deleted⟩ := incident_deletion engine config db
  rw [deleted, get_delete_ids]
  refine ⟨held, fun member => ?_⟩
  have selected := List.mem_of_mem_take member
  rw [selectIncidents, mem_select_ordered, incidents] at selected
  obtain ⟨row, found, closed⟩ := selected
  rw [held] at found
  cases found
  rw [Bool.and_eq_true, Bool.and_eq_true, Table.every_iff] at closed
  rcases needed with opened | ⟨id, row, stored, ofIncident⟩
  · simp [opened] at closed
  · rw [← outbox] at stored
    have other := closed.2 id row stored
    simp [ofIncident] at other

def beforeOutboxRedaction (engine : SqlText) (config : RetentionConfig)
    (db : RetentionDatabase) : RetentionDatabase :=
  redactionStep engine config (redactionStep engine config db .deletedMonitors)
    .deletedNotificationChannels

theorem before_outbox_redaction_frame (engine : SqlText) (config : RetentionConfig)
    (db : RetentionDatabase) :
    (beforeOutboxRedaction engine config db).outbox = db.outbox ∧
      (beforeOutboxRedaction engine config db).incidents = db.incidents ∧
      (beforeOutboxRedaction engine config db).bindings = db.bindings ∧
      ∃ ids, (beforeOutboxRedaction engine config db).channels =
        redactIds db.channels ChannelRow.redacted ids :=
  ⟨rfl, rfl, rfl, _, rfl⟩

theorem redacted_outbox (engine : SqlText) (config : RetentionConfig) (db : RetentionDatabase) :
    (redactedDatabase engine config db).outbox = redactIds db.outbox StoredOutboxRow.redacted
      ((selectTerminalNotificationOutbox engine (beforeOutboxRedaction engine config db)).take
        config.reach) := rfl

theorem redacted_channels (engine : SqlText) (config : RetentionConfig)
    (db : RetentionDatabase) :
    (redactedDatabase engine config db).channels =
      (beforeOutboxRedaction engine config db).channels := rfl

theorem redacted_deliveries (engine : SqlText) (config : RetentionConfig)
    (db : RetentionDatabase) :
    (redactedDatabase engine config db).deliveries = db.deliveries := by
  simp only [redactedDatabase, RetentionRedactionStepKey.all, List.foldl_cons, List.foldl_nil,
    redaction_step_deliveries]

theorem select_ordered_unread {Row : Type} (table : Table Nat Row) {keep : Nat → Row → Bool}
    {time : Row → Time} {change : Row → Row} (ids : List Nat)
    (keeps : ∀ id row, keep id (change row) = keep id row)
    (stamps : ∀ row, time (change row) = time row) :
    selectOrdered (redactIds table change ids) keep time = selectOrdered table keep time := by
  have all : selectOrdered (redactIds table change ids) keep time =
      (selectOrdered table keep time).filter fun _ => true := by
    apply select_ordered_filter
    intro id stamp
    simp only [get_redact_ids, Option.map_eq_some_iff, and_true]
    constructor
    · rintro ⟨_, ⟨row, found, rfl⟩, kept, same⟩
      refine ⟨row, found, ?_⟩
      split at kept
      · rename_i redacted
        rw [if_pos redacted] at same
        exact ⟨(keeps id row) ▸ kept, (stamps row) ▸ same⟩
      · rename_i fresh
        rw [if_neg fresh] at same
        exact ⟨kept, same⟩
    · rintro ⟨row, found, kept, same⟩
      refine ⟨_, ⟨row, found, rfl⟩, ?_⟩
      split
      · exact ⟨(keeps id row).trans kept, (stamps row).trans same⟩
      · exact ⟨kept, same⟩
  rw [all, List.filter_true]

/-- What a run deletes does not depend on the secrets it has redacted before. -/
theorem removed_outbox_redacted (engine : SqlText) (config : RetentionConfig)
    (db : RetentionDatabase) :
    removedOutbox config (redactedDatabase engine config db) = removedOutbox config db := by
  let redacted := redactedDatabase engine config db
  let ids := (selectTerminalNotificationOutbox engine
    (beforeOutboxRedaction engine config db)).take config.reach
  have outbox : redacted.outbox = redactIds db.outbox StoredOutboxRow.redacted ids :=
    redacted_outbox engine config db
  have deliveries : redacted.deliveries = db.deliveries := redacted_deliveries engine config db
  have sameDeliveries : removedDeliveries config redacted = removedDeliveries config db := by
    have keep : ∀ delivery : StoredDeliveryRow,
        (redacted.outbox.get delivery.outboxId).any (fun outbox =>
          outbox.status.isTerminal && decide (delivery.endedAt < config.historyCutoff) &&
            decide (outbox.endedAt < config.historyCutoff)) =
        (db.outbox.get delivery.outboxId).any (fun outbox =>
          outbox.status.isTerminal && decide (delivery.endedAt < config.historyCutoff) &&
            decide (outbox.endedAt < config.historyCutoff)) := by
      intro delivery
      rw [outbox, get_redact_ids, Option.any_map]
      congr 1
      funext row
      split <;> rfl
    simp only [removedDeliveries, selectNotificationDeliveries, keep, deliveries]
  have unread : ∀ rest : Table DeliveryId StoredDeliveryRow,
      selectNotificationOutbox config.historyCutoff { redacted with deliveries := rest } =
        selectNotificationOutbox config.historyCutoff { db with deliveries := rest } := by
    intro rest
    simp only [selectNotificationOutbox, outbox]
    exact select_ordered_unread db.outbox ids (fun _ _ => rfl) fun _ => rfl
  simp only [removedOutbox]
  rw [unread, sameDeliveries, deliveries]

/-- The redaction select spares a delivered DOWN event that awaits its recovery. -/
theorem awaiting_not_redacted (engine : SqlText) (config : RetentionConfig)
    {db : RetentionDatabase} {id : OutboxId} {down : StoredOutboxRow} {incidentId : IncidentId}
    {incident : IncidentRow} (awaiting : AwaitingRecovery db id down incidentId incident) :
    (redactedDatabase engine config db).outbox.get id = some down := by
  obtain ⟨outbox, incidents, bindings, ids, channels⟩ :=
    before_outbox_redaction_frame engine config db
  have stored : (beforeOutboxRedaction engine config db).outbox.get id = some down := by
    rw [outbox]
    exact awaiting.stored
  have spared : id ∉ selectTerminalNotificationOutbox engine
      (beforeOutboxRedaction engine config db) := by
    intro selected
    obtain ⟨-, -, recovery, -⟩ := (mem_select_terminal stored).1 selected
    refine awaits_recovery_false_iff.1 recovery ⟨awaiting.event, awaiting.sent,
      allowed_not_refuted engine awaiting.allows, ?_, ?_, ?_⟩
    · exact ⟨incidentId, incident, awaiting.ofIncident, incidents ▸ awaiting.held,
        awaiting.opened⟩
    · obtain ⟨channel, held, enabled, kept⟩ := awaiting.live
      unfold ChannelLive
      rw [channels, get_redact_ids, held]
      refine ⟨_, rfl, ?_, ?_⟩
      · split
        · exact enabled
        · exact enabled
      · split
        · exact kept
        · exact kept
    · obtain ⟨monitorId, binding, monitor, held, notifies⟩ := awaiting.bound
      exact ⟨monitorId, binding, monitor, bindings ▸ held, notifies⟩
  rw [redacted_outbox, get_redact_ids, awaiting.stored, Option.map_some, if_neg]
  exact fun member => spared (List.mem_of_mem_take member)

theorem outbox_after_source (engine : SqlText) (config : RetentionConfig)
    {db : RetentionDatabase} {id : OutboxId} {row : StoredOutboxRow}
    (stored : (runRetention engine config db).database.outbox.get id = some row) :
    id ∉ removedOutbox config db ∧
      ∃ earlier, db.outbox.get id = some earlier ∧ (row = earlier ∨ row = earlier.redacted) := by
  rw [run_retention_outbox, get_delete_ids, removed_outbox_redacted, redacted_outbox,
    get_redact_ids, Option.map_eq_some_iff] at stored
  obtain ⟨⟨earlier, held, same⟩, kept⟩ := stored
  refine ⟨kept, earlier, held, ?_⟩
  split at same
  · exact Or.inr same.symm
  · exact Or.inl same.symm

theorem Consistent.after_retention {db : RetentionDatabase} (consistent : Consistent db)
    (engine : SqlText) (config : RetentionConfig) :
    Consistent (runRetention engine config db).database where
  indexed first second left right storedLeft storedRight := by
    obtain ⟨-, earlier, held, same⟩ := outbox_after_source engine config storedLeft
    obtain ⟨-, other, heldOther, sameOther⟩ := outbox_after_source engine config storedRight
    have law := consistent.indexed first second earlier other held heldOther
    rcases same with rfl | rfl <;> rcases sameOther with rfl | rfl <;> exact law
  sequenced id outbox stored := by
    obtain ⟨-, earlier, held, same⟩ := outbox_after_source engine config stored
    have law := consistent.sequenced id earlier held
    rcases same with rfl | rfl <;> exact law
  owned id outbox incidentId stored ofIncident := by
    obtain ⟨-, earlier, held, same⟩ := outbox_after_source engine config stored
    have law := consistent.owned id earlier incidentId held
    have owner : ∃ incident, db.incidents.get incidentId = some incident ∧
        outbox.monitorId = some incident.monitorId := by
      rcases same with rfl | rfl <;> exact law ofIncident
    obtain ⟨incident, heldIncident, monitor⟩ := owner
    exact ⟨incident, incident_kept engine config heldIncident
      (Or.inr ⟨id, outbox, stored, ofIncident⟩), monitor⟩
  attempts id outbox stored := by
    obtain ⟨-, earlier, held, same⟩ := outbox_after_source engine config stored
    have law := consistent.attempts id earlier held
    rcases same with rfl | rfl <;> exact law
  oneOpen first second left right storedLeft storedRight :=
    consistent.oneOpen first second left right (incident_after_source engine config storedLeft)
      (incident_after_source engine config storedRight)
  unanswered id outbox incidentId incident stored ofIncident storedIncident opened := by
    obtain ⟨-, earlier, held, same⟩ := outbox_after_source engine config stored
    have heldIncident := incident_after_source engine config storedIncident
    have law := consistent.unanswered id earlier incidentId incident held
    rcases same with rfl | rfl <;> exact law ofIncident heldIncident opened

theorem AwaitingRecovery.after_retention {db : RetentionDatabase} {id : OutboxId}
    {down : StoredOutboxRow} {incidentId : IncidentId} {incident : IncidentRow}
    (awaiting : AwaitingRecovery db id down incidentId incident) (engine : SqlText)
    {config : RetentionConfig} (kept : id ∉ removedOutbox config db) :
    AwaitingRecovery (runRetention engine config db).database id down incidentId incident where
  stored := by
    rw [run_retention_outbox, get_delete_ids, removed_outbox_redacted]
    exact ⟨awaiting_not_redacted engine config awaiting, kept⟩
  ofIncident := awaiting.ofIncident
  held := incident_kept engine config awaiting.held (Or.inl awaiting.opened)
  opened := awaiting.opened
  event := awaiting.event
  sent := awaiting.sent
  allows := awaiting.allows
  sealed := awaiting.sealed
  live := by
    obtain ⟨-, -, -, ids, channels⟩ := before_outbox_redaction_frame engine config db
    obtain ⟨channel, held, enabled, live⟩ := awaiting.live
    unfold ChannelLive
    rw [run_retention_channels, redacted_channels, channels, get_redact_ids, held]
    refine ⟨_, rfl, ?_⟩
    split <;> exact ⟨enabled, live⟩
  bound := by
    obtain ⟨monitorId, binding, monitor, held, notifies⟩ := awaiting.bound
    exact ⟨monitorId, binding, monitor, run_retention_bindings engine config db ▸ held, notifies⟩

def agedDelivery (config : RetentionConfig) (db : RetentionDatabase) (delivery : StoredDeliveryRow) :
    Bool :=
  (db.outbox.get delivery.outboxId).any fun outbox =>
    outbox.status.isTerminal && decide (delivery.endedAt < config.historyCutoff) &&
      decide (outbox.endedAt < config.historyCutoff)

def deliveryGoes (config : RetentionConfig) (db : RetentionDatabase) (id : DeliveryId)
    (delivery : StoredDeliveryRow) : Bool :=
  agedDelivery config db delivery &&
    decide ((earlierRows db.deliveries (fun _ => agedDelivery config db)
      StoredDeliveryRow.endedAt id delivery).length < config.reach)

def agedOutbox (config : RetentionConfig) (db : RetentionDatabase) (id : OutboxId)
    (outbox : StoredOutboxRow) : Bool :=
  outbox.status.isTerminal && decide (outbox.endedAt < config.historyCutoff) &&
    db.deliveries.every fun deliveryId delivery =>
      decide (delivery.outboxId = id → deliveryGoes config db deliveryId delivery = true)

/-- An outbox row outlives a run when it is recent, a delivery of it stays, or the batches
of its step end before it. -/
def Outlives (config : RetentionConfig) (db : RetentionDatabase) (id : OutboxId)
    (outbox : StoredOutboxRow) : Prop :=
  agedOutbox config db id outbox = false ∨
    config.reach ≤ (earlierRows db.outbox (agedOutbox config db) StoredOutboxRow.endedAt id
      outbox).length

theorem mem_removed_deliveries {config : RetentionConfig} {db : RetentionDatabase}
    {id : DeliveryId} {delivery : StoredDeliveryRow} (stored : db.deliveries.get id = some delivery) :
    id ∈ removedDeliveries config db ↔ deliveryGoes config db id delivery = true := by
  rw [removedDeliveries, selectNotificationDeliveries, mem_take_select_ordered stored,
    deliveryGoes, Bool.and_eq_true, decide_eq_true_eq]
  rfl

theorem aged_outbox_eq (config : RetentionConfig) (db : RetentionDatabase) :
    agedOutbox config db = fun id outbox =>
      outbox.status.isTerminal && decide (outbox.endedAt < config.historyCutoff) &&
        (deleteIds db.deliveries (removedDeliveries config db)).every fun _ delivery =>
          decide (delivery.outboxId ≠ id) := by
  funext id outbox
  rw [agedOutbox]
  congr 1
  rw [Bool.eq_iff_iff, Table.every_iff, Table.every_iff]
  simp only [decide_eq_true_eq, get_delete_ids]
  constructor
  · rintro gone deliveryId delivery ⟨stored, stays⟩ own
    exact stays ((mem_removed_deliveries stored).2 (gone deliveryId delivery stored own))
  · intro none deliveryId delivery stored own
    by_contra stays
    exact none deliveryId delivery
      ⟨stored, fun gone => stays ((mem_removed_deliveries stored).1 gone)⟩ own

theorem removed_outbox_iff {config : RetentionConfig} {db : RetentionDatabase} {id : OutboxId}
    {outbox : StoredOutboxRow} (stored : db.outbox.get id = some outbox) :
    id ∉ removedOutbox config db ↔ Outlives config db id outbox := by
  have select : selectNotificationOutbox config.historyCutoff
      { db with deliveries := deleteIds db.deliveries (removedDeliveries config db) } =
        selectOrdered db.outbox (agedOutbox config db) StoredOutboxRow.endedAt := by
    rw [aged_outbox_eq]
    rfl
  rw [removedOutbox, select, mem_take_select_ordered stored, not_and_or, Bool.not_eq_true,
    Nat.not_lt, Outlives]

/-- After the run a resolution creates the RECOVERY that it would have created before. -/
def KeepsRecovery (reading : WorkerReading) (engine : SqlText) (config : RetentionConfig)
    (db : RetentionDatabase) (tx : PersistTx) (incidentId : IncidentId)
    (down : StoredOutboxRow) : Prop :=
  ∃ recovery,
    followUpAfter reading (runRetention engine config db).database tx incidentId down.channelId =
        some recovery ∧
      followUpAfter reading db tx incidentId down.channelId = some recovery ∧
      recovery.eventType = .recovery ∧
      recovery.encryptedConfigSnapshot = down.encryptedConfigSnapshot

/-- A run keeps the recovery of an open incident exactly when it keeps its DOWN event. -/
theorem keeps_recovery_iff_kept (reading : WorkerReading) (engine : SqlText)
    (config : RetentionConfig) {db : RetentionDatabase} (consistent : Consistent db)
    {id : OutboxId} {down : StoredOutboxRow} {incidentId : IncidentId} {incident : IncidentRow}
    (awaiting : AwaitingRecovery db id down incidentId incident) {tx : PersistTx}
    {resolvedAt : Time} (resolves : Resolves tx incident.monitorId resolvedAt) :
    KeepsRecovery reading engine config db tx incidentId down ↔
      id ∉ removedOutbox config db := by
  have after := consistent.after_retention engine config
  have before := awaiting_recovery_answered reading consistent awaiting resolves
  constructor
  · rintro ⟨recovery, created, -⟩ removed
    have held := incident_kept engine config awaiting.held (Or.inl awaiting.opened)
    rw [no_follow_up reading after held awaiting.opened ?_ resolves] at created
    · cases created
    · intro other row stored ofIncident channel
      obtain ⟨kept, earlier, heldRow, same⟩ := outbox_after_source engine config stored
      -- the DOWN event is the only row of its incident and channel while the incident is open
      have ofEarlier : earlier.incidentId = some incidentId := by
        rcases same with rfl | rfl <;> exact ofIncident
      have channelEarlier : earlier.channelId = down.channelId := by
        rcases same with rfl | rfl <;> exact channel
      have event := consistent.unanswered other earlier incidentId incident heldRow ofEarlier
        awaiting.held awaiting.opened
      have sequence : earlier.sequence = down.sequence := by
        rw [consistent.sequenced other earlier heldRow,
          consistent.sequenced id down awaiting.stored, event, awaiting.event]
      have only := consistent.indexed other id earlier down heldRow awaiting.stored
        (ofEarlier.trans awaiting.ofIncident.symm) (by rw [ofEarlier]; rfl) channelEarlier sequence
      exact kept (only ▸ removed)
  · intro kept
    have answered := awaiting_recovery_answered reading after
      (awaiting.after_retention engine kept) resolves
    exact ⟨_, answered, before, rfl, rfl⟩

/-- The deletion of old outbox rows does not ask whether the incident is still open: a run
keeps its recovery exactly when the DOWN event outlives the run. -/
theorem retention_keeps_recovery_iff (reading : WorkerReading) (engine : SqlText)
    (config : RetentionConfig) {db : RetentionDatabase} (consistent : Consistent db)
    {id : OutboxId} {down : StoredOutboxRow} {incidentId : IncidentId} {incident : IncidentRow}
    (awaiting : AwaitingRecovery db id down incidentId incident) {tx : PersistTx}
    {resolvedAt : Time} (resolves : Resolves tx incident.monitorId resolvedAt) :
    KeepsRecovery reading engine config db tx incidentId down ↔ Outlives config db id down := by
  rw [keeps_recovery_iff_kept reading engine config consistent awaiting resolves,
    removed_outbox_iff awaiting.stored]

namespace RetentionSample

def reading : WorkerReading where
  payload json :=
    { eventType := .down
      monitorName := "shop"
      displayUrl := "https://shop.example"
      occurredAt := 1000
      errorType := some .httpStatusMismatch
      errorMessageSafe := none
      statusCode := some 500
      ttfbMs := some 5
      notifyOnRecovery := json.allowsRecovery
      durationMs := none
      dashboardUrl := none }
  payload_allows _ := rfl
  messageIdDomain := "linkalive.example"

/-- The flag is set: the RECOVERY of the open incident is still to come. -/
def openDatabase : RetentionDatabase := database (.object [("notifyOnRecovery", .bool true)])

def down : StoredOutboxRow := sentDown (.object [("notifyOnRecovery", .bool true)])

def recovered : PersistTx where
  config := ⟨1, "local", 120000, none, "linkalive.example", false⟩
  checkId := 7
  check := ⟨1, 89000, 1, .running, some 1, some 200000, some 7, 1, none, some 89000, some 89000,
    none, none⟩
  monitor := monitor
  displayUrlSnapshot := "https://shop.example"
  result := ⟨.success, 89500, 90000, some 200, some 5, 10, none, none, 0, 0⟩
  databaseTime := 90010
  valid := true
  transition := some
    { applied := true
      ignoredReason := none
      previousHealthState := .down
      state := monitor.state
      healthChanged := true
      incidentEffect := .resolve 90000 .recovered }
  stage := .begun
  incident := .none
  outbox := .empty

theorem recovered_resolves : Resolves recovered incident.monitorId 90000 where
  monitor := rfl
  effect := ⟨.recovered, rfl⟩
  fresh := rfl

theorem get_single {Key Row : Type} [DecidableEq Key] {row other : Row} {id key : Key}
    (found : (Table.put ∅ id row).get key = some other) : key = id ∧ other = row := by
  rw [Table.get_put] at found
  split at found
  · rename_i same
    exact ⟨same, (Option.some.inj found).symm⟩
  · cases found

theorem open_incident_consistent : Consistent openDatabase where
  indexed first second left right storedLeft storedRight _ _ _ _ := by
    rw [(get_single storedLeft).1, (get_single storedRight).1]
  sequenced id outbox stored := by
    rw [(get_single stored).2]
    rfl
  owned id outbox incidentId stored ofIncident := by
    rw [(get_single stored).2] at ofIncident ⊢
    cases ofIncident
    exact ⟨incident, rfl, rfl⟩
  attempts id outbox stored := by
    rw [(get_single stored).2]
    exact ⟨by decide, by decide⟩
  oneOpen first second left right storedLeft storedRight _ _ _ := by
    rw [(get_single storedLeft).1, (get_single storedRight).1]
  unanswered id outbox incidentId incident stored _ _ _ := by
    rw [(get_single stored).2]
    rfl

theorem open_incident_awaits : AwaitingRecovery openDatabase 1 down 1 incident where
  stored := rfl
  ofIncident := rfl
  held := rfl
  opened := rfl
  event := rfl
  sent := rfl
  allows := rfl
  sealed := rfl
  live := ⟨channel, rfl, rfl, rfl⟩
  bound := ⟨1, ⟨true, true⟩, rfl, rfl, rfl⟩

end RetentionSample

theorem retention_keeps_recovery_iff_sample :
    KeepsRecovery RetentionSample.reading RetentionSample.engine ⟨1500, 1500, 10, 1⟩
        RetentionSample.openDatabase RetentionSample.recovered 1 RetentionSample.down ↔
      Outlives ⟨1500, 1500, 10, 1⟩ RetentionSample.openDatabase 1 RetentionSample.down :=
  retention_keeps_recovery_iff RetentionSample.reading RetentionSample.engine ⟨1500, 1500, 10, 1⟩
    RetentionSample.open_incident_consistent RetentionSample.open_incident_awaits
    RetentionSample.recovered_resolves

/-- The DOWN event was delivered at 2000, before the cutoff; its incident is still open. -/
theorem retention_drops_recovery :
    ¬ KeepsRecovery RetentionSample.reading RetentionSample.engine ⟨3000, 3000, 10, 1⟩
      RetentionSample.openDatabase RetentionSample.recovered 1 RetentionSample.down := by
  rw [keeps_recovery_iff_kept RetentionSample.reading RetentionSample.engine ⟨3000, 3000, 10, 1⟩
    RetentionSample.open_incident_consistent RetentionSample.open_incident_awaits
    RetentionSample.recovered_resolves,
    removed_outbox_iff RetentionSample.open_incident_awaits.stored]
  rintro (young | late)
  · exact absurd young (by decide)
  · exact absurd late (by decide)

end LinkAlive
