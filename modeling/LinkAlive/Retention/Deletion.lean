import LinkAlive.Retention.Recovery

/-!
# Deletion under the foreign keys

Every DELETE of a retention run against the `ON DELETE RESTRICT` keys of the schema:
a statement fails when a row outside it still refers to one of its rows. The command
selects the children first, so no statement fails, and between any two batches the
tables are consistent and still hold everything that is in use.
-/

namespace LinkAlive

set_option autoImplicit false

open Relational Sql Batches Worklist

/-- The composite key `(scheduled_check_id, monitor_id, config_version)`; with a NULL in it
a result refers to no check. -/
def StoredResultRow.scheduledIdentity (result : StoredResultRow) :
    Option (CheckId × MonitorId × Nat) := do
  let checkId ← result.scheduledCheckId
  let monitorId ← result.monitorId
  let configVersion ← result.configVersion
  return (checkId, monitorId, configVersion)

structure ForeignKeys (db : RetentionDatabase) : Prop where
  checkMonitors : ∀ id check, db.checks.get id = some check →
    ∃ monitor, db.monitors.get check.monitorId = some monitor
  resultMonitors : ∀ id result monitorId, db.results.get id = some result →
    result.monitorId = some monitorId → ∃ monitor, db.monitors.get monitorId = some monitor
  resultChecks : ∀ id result checkId monitorId configVersion, db.results.get id = some result →
    result.scheduledIdentity = some (checkId, monitorId, configVersion) →
      ∃ check, db.checks.get checkId = some check ∧ check.monitorId = monitorId ∧
        check.configVersion = configVersion
  incidentMonitors : ∀ id incident, db.incidents.get id = some incident →
    ∃ monitor, db.monitors.get incident.monitorId = some monitor
  bindingMonitors : ∀ key binding, db.bindings.get key = some binding →
    ∃ monitor, db.monitors.get key.1 = some monitor
  bindingChannels : ∀ key binding, db.bindings.get key = some binding →
    ∃ channel, db.channels.get key.2 = some channel
  outboxMonitors : ∀ id outbox monitorId, db.outbox.get id = some outbox →
    outbox.monitorId = some monitorId → ∃ monitor, db.monitors.get monitorId = some monitor
  outboxIncidents : ∀ id outbox incidentId, db.outbox.get id = some outbox →
    outbox.incidentId = some incidentId →
      ∃ incident, db.incidents.get incidentId = some incident
  outboxChannels : ∀ id outbox, db.outbox.get id = some outbox →
    ∃ channel, db.channels.get outbox.channelId = some channel
  deliveryOutbox : ∀ id delivery, db.deliveries.get id = some delivery →
    ∃ outbox, db.outbox.get delivery.outboxId = some outbox

inductive RetentionError
  | foreignKeyViolation
  | missedCandidates
deriving DecidableEq, Repr

/-- A row of a child table refers to one of the rows. -/
def RetentionStepKey.restricted (db : RetentionDatabase) (ids : List Nat) :
    RetentionStepKey → Bool
  | .checkResults | .notificationDeliveries | .auditLogs => false
  | .scheduledChecks =>
      !db.results.every fun _ result =>
        result.scheduledIdentity.all fun identity => decide (identity.1 ∉ ids)
  | .notificationOutbox =>
      !db.deliveries.every fun _ delivery => decide (delivery.outboxId ∉ ids)
  | .incidents =>
      !db.outbox.every fun _ outbox => outbox.incidentId.all fun id => decide (id ∉ ids)

/-- The rows that `WHERE id IN (?)` finds. -/
def countIds {Row : Type} (table : Table Nat Row) (ids : List Nat) : Nat :=
  (table.select fun id _ => decide (id ∈ ids)).length

def RetentionStepKey.affectedRows (db : RetentionDatabase) (ids : List Nat) :
    RetentionStepKey → Nat
  | .checkResults => countIds db.results ids
  | .scheduledChecks => countIds db.checks ids
  | .notificationDeliveries => countIds db.deliveries ids
  | .notificationOutbox => countIds db.outbox ids
  | .incidents => countIds db.incidents ids
  | .auditLogs => countIds db.auditLogs ids

/-- `mutateLockedCandidates` after its select: the DELETE and the check of its count. -/
def RetentionStepKey.mutateLockedCandidates (key : RetentionStepKey) (db : RetentionDatabase)
    (ids : List Nat) : Except RetentionError RetentionDatabase :=
  if key.restricted db ids then .error .foreignKeyViolation
  else if key.affectedRows db ids ≠ ids.length then .error .missedCandidates
  else .ok (key.delete db ids)

structure DeletedBatch where
  key : RetentionStepKey
  executed : Executed RetentionDatabase Nat

/-- The deletion loop of `runRetention`; an error ends the run. -/
def attemptSteps (config : RetentionConfig) : List RetentionStepKey → RetentionDatabase →
    Except RetentionError (RetentionDatabase × List (RetentionStepKey × Tally) × List DeletedBatch)
  | [], db => .ok (db, [], [])
  | key :: rest, db => do
      let (after, tally, journal) ← (key.worklist config).attempt key.mutateLockedCandidates
        config.batchSize config.maxBatchesPerStep db .start
      let (last, tallies, batches) ← attemptSteps config rest after
      return (last, (key, tally) :: tallies, journal.map (DeletedBatch.mk key) ++ batches)

/-- `runRetention` with the outcome of every DELETE. -/
def attemptRetention (engine : SqlText) (config : RetentionConfig) (db : RetentionDatabase) :
    Except RetentionError (RetentionCompletedResult × List DeletedBatch) := do
  let (redacted, secretRedactions) :=
    runSteps config (RetentionRedactionStepKey.worklist engine) RetentionRedactionStepKey.all db
  let (database, steps, batches) ← attemptSteps config RetentionStepKey.all redacted
  return ({ database, secretRedactions, steps }, batches)

def ClosedBefore (config : RetentionConfig) (db : RetentionDatabase) :
    RetentionStepKey → Nat → Prop
  | .checkResults, id => ∃ result, db.results.get id = some result ∧
      result.finishedAt < config.checkResultCutoff
  | .scheduledChecks, id => ∃ check, db.checks.get id = some check ∧
      check.status.isFinal = true ∧ check.endedAt < config.checkResultCutoff
  | .notificationDeliveries, id => ∃ delivery outbox, db.deliveries.get id = some delivery ∧
      db.outbox.get delivery.outboxId = some outbox ∧ outbox.status.isTerminal = true ∧
        delivery.endedAt < config.historyCutoff ∧ outbox.endedAt < config.historyCutoff
  | .notificationOutbox, id => ∃ outbox, db.outbox.get id = some outbox ∧
      outbox.status.isTerminal = true ∧ outbox.endedAt < config.historyCutoff
  | .incidents, id => ∃ incident closedAt, db.incidents.get id = some incident ∧
      incident.status ≠ .opened ∧ incident.closedAt = some closedAt ∧
        closedAt < config.historyCutoff
  | .auditLogs, id => ∃ audit, db.auditLogs.get id = some audit ∧
      audit.createdAt < config.historyCutoff

/-- What is still in use in a database is unchanged in another. -/
structure Spares (db state : RetentionDatabase) : Prop where
  incidents : ∀ id incident, db.incidents.get id = some incident → incident.status = .opened →
    state.incidents.get id = some incident
  checks : ∀ id check, db.checks.get id = some check → check.status.isFinal = false →
    state.checks.get id = some check
  outbox : ∀ id outbox, db.outbox.get id = some outbox → outbox.status.isTerminal = false →
    state.outbox.get id = some outbox
  deliveries : ∀ id delivery outbox, db.deliveries.get id = some delivery →
    db.outbox.get delivery.outboxId = some outbox → outbox.status.isTerminal = false →
      state.deliveries.get id = some delivery

/-- A batch that took only closed history and left the tables consistent. -/
structure SafeBatch (config : RetentionConfig) (db : RetentionDatabase) (batch : DeletedBatch) :
    Prop where
  keysBefore : ForeignKeys batch.executed.before
  keysAfter : ForeignKeys batch.executed.after
  closed : ∀ id ∈ batch.executed.ids, ClosedBefore config batch.executed.before batch.key id
  spares : Spares db batch.executed.after

theorem closed_before_of_select {config : RetentionConfig} {db : RetentionDatabase}
    {key : RetentionStepKey} {id : Nat} (selected : id ∈ key.select (key.cutoff config) db) :
    ClosedBefore config db key id := by
  cases key <;>
    simp only [RetentionStepKey.select, selectCheckResults, selectScheduledChecks,
      selectNotificationDeliveries, selectNotificationOutbox, selectIncidents, selectAuditLogs,
      mem_select_ordered, Bool.and_eq_true, decide_eq_true_eq, Option.any_eq_true] at selected
  case checkResults => exact selected
  case scheduledChecks =>
    obtain ⟨check, stored, ⟨final, aged⟩, -⟩ := selected
    exact ⟨check, stored, final, aged⟩
  case notificationDeliveries =>
    obtain ⟨delivery, stored, outbox, parent, ⟨terminal, aged⟩, ended⟩ := selected
    exact ⟨delivery, outbox, stored, parent, terminal, aged, ended⟩
  case notificationOutbox =>
    obtain ⟨outbox, stored, ⟨terminal, aged⟩, -⟩ := selected
    exact ⟨outbox, stored, terminal, aged⟩
  case incidents =>
    obtain ⟨incident, stored, ⟨closed, closedAt, found, aged⟩, -⟩ := selected
    exact ⟨incident, closedAt, stored, closed, found, aged⟩
  case auditLogs => exact selected

theorem scheduled_identity_check {result : StoredResultRow} {identity : CheckId × MonitorId × Nat}
    (found : result.scheduledIdentity = some identity) :
    result.scheduledCheckId = some identity.1 := by
  simp only [StoredResultRow.scheduledIdentity, Option.bind_eq_bind, Option.bind_eq_some_iff,
    Option.pure_def, Option.some.injEq] at found
  obtain ⟨checkId, refers, monitorId, -, version, -, rfl⟩ := found
  exact refers

/-- Children are selected before their parents: nothing refers to a selected row. -/
theorem selected_not_restricted {cutoff : Time} {db : RetentionDatabase}
    {key : RetentionStepKey} {ids : List Nat}
    (selected : ∀ id ∈ ids, id ∈ key.select cutoff db) : key.restricted db ids = false := by
  cases key <;>
    simp only [RetentionStepKey.select, selectScheduledChecks, selectNotificationOutbox,
      selectIncidents, mem_select_ordered, Bool.and_eq_true, Table.every_iff,
      decide_eq_true_eq] at selected <;>
    simp only [RetentionStepKey.restricted, Bool.not_eq_false', Table.every_iff,
      Option.all_eq_true, decide_eq_true_eq]
  case scheduledChecks =>
    intro key result stored identity found member
    obtain ⟨check, -, -, unused⟩ := selected identity.1 member
    exact unused key result stored (scheduled_identity_check found)
  case notificationOutbox =>
    intro key delivery stored member
    obtain ⟨outbox, -, -, unused⟩ := selected delivery.outboxId member
    exact unused key delivery stored rfl
  case incidents =>
    intro key outbox stored id found member
    obtain ⟨incident, -, -, unused⟩ := selected id member
    exact unused key outbox stored found

theorem count_ids_of_stored {Row : Type} {table : Table Nat Row} {ids : List Nat}
    (nodup : ids.Nodup) (stored : ∀ id ∈ ids, ∃ row, table.get id = some row) :
    countIds table ids = ids.length := by
  rw [countIds, ← List.length_map Prod.fst]
  refine (List.perm_ext_iff_of_nodup (Table.select_keys_nodup table _) nodup).2 ?_ |>.length_eq
  intro id
  simp only [List.mem_map, Prod.exists, Table.mem_select, decide_eq_true_eq]
  constructor
  · rintro ⟨_, row, ⟨-, member⟩, rfl⟩
    exact member
  · intro member
    obtain ⟨row, found⟩ := stored id member
    exact ⟨id, row, ⟨found, member⟩, rfl⟩

theorem select_nodup (key : RetentionStepKey) (cutoff : Time) (db : RetentionDatabase) :
    (key.select cutoff db).Nodup := by
  cases key <;>
    simp only [RetentionStepKey.select, selectCheckResults, selectScheduledChecks,
      selectNotificationDeliveries, selectNotificationOutbox, selectIncidents, selectAuditLogs,
      select_ordered_nodup]

theorem affected_rows_of_closed {config : RetentionConfig} {db : RetentionDatabase}
    {key : RetentionStepKey} {ids : List Nat} (nodup : ids.Nodup)
    (closed : ∀ id ∈ ids, ClosedBefore config db key id) :
    key.affectedRows db ids = ids.length := by
  cases key <;> refine count_ids_of_stored nodup fun id member => ?_
  case checkResults => exact (closed id member).imp fun _ found => found.1
  case scheduledChecks => exact (closed id member).imp fun _ found => found.1
  case notificationDeliveries =>
    obtain ⟨delivery, -, stored, -⟩ := closed id member
    exact ⟨delivery, stored⟩
  case notificationOutbox => exact (closed id member).imp fun _ found => found.1
  case incidents =>
    obtain ⟨incident, -, stored, -⟩ := closed id member
    exact ⟨incident, stored⟩
  case auditLogs => exact (closed id member).imp fun _ found => found.1

theorem get_of_deleted {Row : Type} {table : Table Nat Row} {ids : List Nat} {id : Nat} {row : Row}
    (stored : (deleteIds table ids).get id = some row) : table.get id = some row :=
  ((get_delete_ids table ids id row).1 stored).1

theorem ForeignKeys.delete {db : RetentionDatabase} (keys : ForeignKeys db)
    {key : RetentionStepKey} {ids : List Nat} (free : key.restricted db ids = false) :
    ForeignKeys (key.delete db ids) := by
  cases key
  case checkResults =>
    exact { keys with
      resultMonitors := fun id result monitorId stored =>
        keys.resultMonitors id result monitorId (get_of_deleted stored)
      resultChecks := fun id result checkId monitorId version stored =>
        keys.resultChecks id result checkId monitorId version (get_of_deleted stored) }
  case scheduledChecks =>
    simp only [RetentionStepKey.restricted, Bool.not_eq_false', Table.every_iff,
      Option.all_eq_true, decide_eq_true_eq] at free
    refine { keys with checkMonitors := ?_, resultChecks := ?_ }
    · exact fun id check stored => keys.checkMonitors id check (get_of_deleted stored)
    · intro id result checkId monitorId version stored identity
      obtain ⟨check, found, same⟩ :=
        keys.resultChecks id result checkId monitorId version stored identity
      have kept : checkId ∉ ids := free id result stored _ identity
      exact ⟨check, (get_delete_ids _ _ _ _).2 ⟨found, kept⟩, same⟩
  case notificationDeliveries =>
    exact { keys with
      deliveryOutbox := fun id delivery stored =>
        keys.deliveryOutbox id delivery (get_of_deleted stored) }
  case notificationOutbox =>
    simp only [RetentionStepKey.restricted, Bool.not_eq_false', Table.every_iff,
      decide_eq_true_eq] at free
    refine { keys with
      outboxMonitors := ?_, outboxIncidents := ?_, outboxChannels := ?_, deliveryOutbox := ?_ }
    · exact fun id outbox monitorId stored =>
        keys.outboxMonitors id outbox monitorId (get_of_deleted stored)
    · exact fun id outbox incidentId stored =>
        keys.outboxIncidents id outbox incidentId (get_of_deleted stored)
    · exact fun id outbox stored => keys.outboxChannels id outbox (get_of_deleted stored)
    · intro id delivery stored
      obtain ⟨outbox, found⟩ := keys.deliveryOutbox id delivery stored
      exact ⟨outbox, (get_delete_ids _ _ _ _).2 ⟨found, free id delivery stored⟩⟩
  case incidents =>
    simp only [RetentionStepKey.restricted, Bool.not_eq_false', Table.every_iff,
      Option.all_eq_true, decide_eq_true_eq] at free
    refine { keys with incidentMonitors := ?_, outboxIncidents := ?_ }
    · exact fun id incident stored => keys.incidentMonitors id incident (get_of_deleted stored)
    · intro id outbox incidentId stored refers
      obtain ⟨incident, found⟩ := keys.outboxIncidents id outbox incidentId stored refers
      exact ⟨incident, (get_delete_ids _ _ _ _).2 ⟨found, free id outbox stored _ refers⟩⟩
  case auditLogs => exact { keys with }

/-- Closed rows are none of those in use. -/
theorem Spares.delete {config : RetentionConfig} {db state : RetentionDatabase}
    (spares : Spares db state) {key : RetentionStepKey} {ids : List Nat}
    (closed : ∀ id ∈ ids, ClosedBefore config state key id) :
    Spares db (key.delete state ids) := by
  cases key
  case checkResults => exact { spares with }
  case scheduledChecks =>
    refine { spares with checks := fun id check stored active => ?_ }
    have held := spares.checks id check stored active
    refine (get_delete_ids _ _ _ _).2 ⟨held, fun member => ?_⟩
    obtain ⟨other, found, final, -⟩ := closed id member
    rw [held] at found
    cases found
    rw [active] at final
    cases final
  case notificationDeliveries =>
    refine { spares with deliveries := fun id delivery outbox stored parent pending => ?_ }
    have held := spares.deliveries id delivery outbox stored parent pending
    refine (get_delete_ids _ _ _ _).2 ⟨held, fun member => ?_⟩
    obtain ⟨other, row, found, heldRow, terminal, -⟩ := closed id member
    rw [held] at found
    cases found
    rw [spares.outbox _ outbox parent pending] at heldRow
    cases heldRow
    rw [pending] at terminal
    cases terminal
  case notificationOutbox =>
    refine { spares with outbox := fun id outbox stored pending => ?_ }
    have held := spares.outbox id outbox stored pending
    refine (get_delete_ids _ _ _ _).2 ⟨held, fun member => ?_⟩
    obtain ⟨other, found, terminal, -⟩ := closed id member
    rw [held] at found
    cases found
    rw [pending] at terminal
    cases terminal
  case incidents =>
    refine { spares with incidents := fun id incident stored opened => ?_ }
    have held := spares.incidents id incident stored opened
    refine (get_delete_ids _ _ _ _).2 ⟨held, fun member => ?_⟩
    obtain ⟨other, -, found, ended, -⟩ := closed id member
    rw [held] at found
    cases found
    exact ended opened
  case auditLogs => exact { spares with }

/-- Consistent tables that still hold what is in use in the database before the run. -/
structure Intact (db state : RetentionDatabase) : Prop where
  keys : ForeignKeys state
  spares : Spares db state

theorem delete_batch_succeeds (config : RetentionConfig) (key : RetentionStepKey)
    {db state : RetentionDatabase} {ids : List Nat} (intact : Intact db state)
    (batch : ids = ((key.worklist config).select state).take config.batchSize) :
    key.mutateLockedCandidates state ids = .ok ((key.worklist config).mutate state ids) ∧
      Intact db ((key.worklist config).mutate state ids) := by
  have selected : ∀ id ∈ ids, id ∈ key.select (key.cutoff config) state := by
    intro id member
    rw [batch] at member
    exact List.mem_of_mem_take member
  have nodup : ids.Nodup := by
    rw [batch]
    exact (select_nodup key (key.cutoff config) state).sublist (List.take_sublist _ _)
  have closed : ∀ id ∈ ids, ClosedBefore config state key id := fun id member =>
    closed_before_of_select (selected id member)
  have free := selected_not_restricted selected
  refine ⟨?_, intact.keys.delete free, intact.spares.delete closed⟩
  rw [RetentionStepKey.mutateLockedCandidates, free, affected_rows_of_closed nodup closed]
  simp [RetentionStepKey.worklist]

theorem get_of_redacted {Row : Type} {table : Table Nat Row} {change : Row → Row} {ids : List Nat}
    {id : Nat} {row : Row} (stored : (redactIds table change ids).get id = some row) :
    ∃ before, table.get id = some before ∧ row = if id ∈ ids then change before else before := by
  rw [get_redact_ids, Option.map_eq_some_iff] at stored
  obtain ⟨before, found, same⟩ := stored
  exact ⟨before, found, same.symm⟩

theorem redacted_get {Row : Type} {table : Table Nat Row} (change : Row → Row) (ids : List Nat)
    {id : Nat} (stored : ∃ row, table.get id = some row) :
    ∃ row, (redactIds table change ids).get id = some row := by
  obtain ⟨row, found⟩ := stored
  rw [get_redact_ids, found]
  exact ⟨_, rfl⟩

theorem ForeignKeys.redact {db : RetentionDatabase} (keys : ForeignKeys db)
    (key : RetentionRedactionStepKey) (ids : List Nat) : ForeignKeys (key.redact db ids) := by
  cases key
  case deletedMonitors =>
    exact { keys with
      checkMonitors := fun id check stored => redacted_get _ _ (keys.checkMonitors id check stored)
      resultMonitors := fun id result monitorId stored refers =>
        redacted_get _ _ (keys.resultMonitors id result monitorId stored refers)
      incidentMonitors := fun id incident stored =>
        redacted_get _ _ (keys.incidentMonitors id incident stored)
      bindingMonitors := fun key binding stored =>
        redacted_get _ _ (keys.bindingMonitors key binding stored)
      outboxMonitors := fun id outbox monitorId stored refers =>
        redacted_get _ _ (keys.outboxMonitors id outbox monitorId stored refers) }
  case deletedNotificationChannels =>
    exact { keys with
      bindingChannels := fun key binding stored =>
        redacted_get _ _ (keys.bindingChannels key binding stored)
      outboxChannels := fun id outbox stored =>
        redacted_get _ _ (keys.outboxChannels id outbox stored) }
  case terminalNotificationOutbox =>
    refine { keys with
      outboxMonitors := ?_, outboxIncidents := ?_, outboxChannels := ?_, deliveryOutbox := ?_ }
    · intro id outbox monitorId stored refers
      obtain ⟨before, found, rfl⟩ := get_of_redacted stored
      refine keys.outboxMonitors id before monitorId found ?_
      split at refers <;> exact refers
    · intro id outbox incidentId stored refers
      obtain ⟨before, found, rfl⟩ := get_of_redacted stored
      refine keys.outboxIncidents id before incidentId found ?_
      split at refers <;> exact refers
    · intro id outbox stored
      obtain ⟨before, found, rfl⟩ := get_of_redacted stored
      have held := keys.outboxChannels id before found
      split <;> exact held
    · exact fun id delivery stored => redacted_get _ _ (keys.deliveryOutbox id delivery stored)

/-- Only terminal rows are redacted. -/
theorem Intact.redaction_step {db state : RetentionDatabase} (intact : Intact db state)
    (engine : SqlText) (config : RetentionConfig) (key : RetentionRedactionStepKey) :
    Intact db (redactionStep engine config state key) := by
  refine ⟨intact.keys.redact key _, ?_⟩
  cases key
  case deletedMonitors => exact { intact.spares with }
  case deletedNotificationChannels => exact { intact.spares with }
  case terminalNotificationOutbox =>
    refine { intact.spares with outbox := fun id outbox stored pending => ?_ }
    have held := intact.spares.outbox id outbox stored pending
    have unselected : id ∉ (selectTerminalNotificationOutbox engine state).take config.reach := by
      intro member
      have terminal := ((mem_select_terminal held).1 (List.mem_of_mem_take member)).1
      rw [pending] at terminal
      cases terminal
    refine (get_redact_ids _ _ _ _).trans ?_
    rw [held, Option.map_some, Option.some.injEq]
    exact if_neg unselected

theorem Intact.redacted {db : RetentionDatabase} (keys : ForeignKeys db) (engine : SqlText)
    (config : RetentionConfig) : Intact db (redactedDatabase engine config db) := by
  have start : Intact db db :=
    ⟨keys, ⟨fun _ _ stored _ => stored, fun _ _ stored _ => stored, fun _ _ stored _ => stored,
      fun _ _ _ stored _ _ => stored⟩⟩
  simp only [redactedDatabase, RetentionRedactionStepKey.all, List.foldl_cons, List.foldl_nil]
  exact ((start.redaction_step engine config _).redaction_step engine config _).redaction_step
    engine config _

theorem attempt_steps_succeed (config : RetentionConfig) (keys : List RetentionStepKey)
    {db state : RetentionDatabase} (intact : Intact db state) :
    ∃ batches, attemptSteps config keys state =
        .ok ((runSteps config (RetentionStepKey.worklist config) keys state).1,
          (runSteps config (RetentionStepKey.worklist config) keys state).2, batches) ∧
      Chained state (batches.map DeletedBatch.executed)
        (runSteps config (RetentionStepKey.worklist config) keys state).1 ∧
      ∀ batch ∈ batches, SafeBatch config db batch := by
  induction keys generalizing state with
  | nil => exact ⟨[], rfl, .done state, by simp⟩
  | cons key rest ih =>
      have succeeds : ∀ (state : RetentionDatabase) (ids : List Nat), Intact db state →
          ids = ((key.worklist config).select state).take config.batchSize →
            key.mutateLockedCandidates state ids = .ok ((key.worklist config).mutate state ids) ∧
              Intact db ((key.worklist config).mutate state ids) :=
        fun _ _ holds batch => delete_batch_succeeds config key holds batch
      obtain ⟨journal, ran, chained, sound, after⟩ :=
        attempt_succeeds succeeds config.maxBatchesPerStep state .start intact
      obtain ⟨batches, others, chain, safe⟩ := ih after
      refine ⟨journal.map (DeletedBatch.mk key) ++ batches, ?_, ?_, ?_⟩
      · rw [attemptSteps, ran]
        simp only [bind, Except.bind, others, pure, Except.pure, runSteps]
      · rw [List.map_append, List.map_map]
        have same : DeletedBatch.executed ∘ DeletedBatch.mk key = id := rfl
        rw [same, List.map_id]
        exact chained.append chain
      · intro batch member
        rcases List.mem_append.1 member with early | late
        · obtain ⟨executed, logged, rfl⟩ := List.mem_map.1 early
          obtain ⟨holds, ids, moved⟩ := sound executed logged
          obtain ⟨-, next⟩ := delete_batch_succeeds config key holds ids
          have closed : ∀ id ∈ executed.ids, ClosedBefore config executed.before key id := by
            intro id selected
            rw [ids] at selected
            exact closed_before_of_select (List.mem_of_mem_take selected)
          rw [← moved] at next
          exact ⟨holds.keys, next.keys, closed, next.spares⟩
        · exact safe batch late

theorem RetentionSample.open_database_keys : ForeignKeys RetentionSample.openDatabase where
  checkMonitors id check stored := by cases stored
  resultMonitors id result monitorId stored := by cases stored
  resultChecks id result checkId monitorId version stored := by cases stored
  incidentMonitors id incident stored := by
    rw [(get_single stored).2]
    exact ⟨monitor, rfl⟩
  bindingMonitors key binding stored := by
    rw [(get_single stored).1]
    exact ⟨monitor, rfl⟩
  bindingChannels key binding stored := by
    rw [(get_single stored).1]
    exact ⟨channel, rfl⟩
  outboxMonitors id outbox monitorId stored refers := by
    rw [(get_single stored).2] at refers
    cases refers
    exact ⟨monitor, rfl⟩
  outboxIncidents id outbox incidentId stored refers := by
    rw [(get_single stored).2] at refers
    cases refers
    exact ⟨incident, rfl⟩
  outboxChannels id outbox stored := by
    rw [(get_single stored).2]
    exact ⟨channel, rfl⟩
  deliveryOutbox id delivery stored := by
    rw [(get_single stored).2]
    exact ⟨down, rfl⟩

end LinkAlive
