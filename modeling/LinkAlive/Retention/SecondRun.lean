import LinkAlive.Retention.Deletion
import Mathlib.Algebra.GroupWithZero.Nat

/-!
# A second retention run

A run that was not cut short by its batch limit has emptied every select it deletes
from, and nothing it does later fills one again. Its redaction, however, spares the
secret of a canceled RECOVERY for as long as a DOWN event stands, and the deletion that
follows may take that DOWN event away: this is what a second run still finds.
-/

namespace LinkAlive

set_option autoImplicit false

open Relational Sql Batches Worklist

/-- The ranges that `readRetentionConfig` accepts. -/
structure RetentionConfig.InRange (config : RetentionConfig) : Prop where
  batchSize : 1 ≤ config.batchSize ∧ config.batchSize ≤ 10000
  maxBatchesPerStep : 1 ≤ config.maxBatchesPerStep ∧ config.maxBatchesPerStep ≤ 1000

/-- No step of the run reports `limitReached`. -/
def RetentionCompletedResult.unlimited (config : RetentionConfig)
    (result : RetentionCompletedResult) : Bool :=
  (result.secretRedactions.all fun entry => !limitReached config entry.2) &&
    result.steps.all fun entry => !limitReached config entry.2

def RetentionCompletedResult.totalDeleted (result : RetentionCompletedResult) : Nat :=
  (result.steps.map fun entry => entry.2.mutated).sum

def RetentionCompletedResult.totalRedacted (result : RetentionCompletedResult) : Nat :=
  (result.secretRedactions.map fun entry => entry.2.mutated).sum

/-- A canceled RECOVERY whose secret was spared for a DOWN event that stands before the run
and is gone after it. -/
structure ReleasedRecovery (engine : SqlText) (before after : RetentionDatabase)
    (outbox : StoredOutboxRow) : Prop where
  event : outbox.eventType = .recovery
  canceled : outbox.status = .canceled
  sealed : outbox.encryptedConfigSnapshot.isTombstone = false
  reason : NotRefuted engine outbox.lastErrorSafe downNotDeliveredRecoveryCancelReason
  live : ChannelLive after outbox
  bound : BoundForRecovery after outbox
  stood : StandingDown before outbox
  gone : ¬ StandingDown after outbox

section Steps

variable {Key : Type} {config : RetentionConfig} {worklist : Key → Worklist RetentionDatabase Nat}

theorem run_steps_preserve (lawful : ∀ key, (worklist key).Lawful)
    {holds : RetentionDatabase → Prop} {keys : List Key}
    (kept : ∀ key ∈ keys, ∀ db, holds db →
      holds ((worklist key).mutate db (((worklist key).select db).take config.reach)))
    {db : RetentionDatabase} (start : holds db) : holds (runSteps config worklist keys db).1 := by
  rw [run_steps_database config lawful]
  induction keys generalizing db with
  | nil => exact start
  | cons key rest ih =>
      rw [List.foldl_cons]
      exact ih (fun later member => kept later (List.mem_cons_of_mem _ member))
        (kept key List.mem_cons_self db start)

theorem step_drained (lawful : ∀ key, (worklist key).Lawful) (ranges : config.InRange) (key : Key)
    (db : RetentionDatabase)
    (unlimited : limitReached config
      ((worklist key).run config.batchSize config.maxBatchesPerStep db .start).2 = false) :
    (worklist key).select
      ((worklist key).run config.batchSize config.maxBatchesPerStep db .start).1 = [] := by
  obtain ⟨more, used⟩ := Nat.exists_eq_add_of_le' ranges.maxBatchesPerStep.1
  rw [limitReached, decide_eq_false_iff_not, used] at unlimited
  rw [used]
  rcases run_ends (lawful key) config.batchSize more db .start with ⟨batches, full⟩ | drained
  · exact absurd ⟨by simpa [Tally.start] using batches, full⟩ unlimited
  · exact drained

/-- When no later step selects anew what an earlier one has drained, an unlimited run
drains every step. -/
theorem run_steps_drained (lawful : ∀ key, (worklist key).Lawful) (ranges : config.InRange)
    {keys : List Key}
    (quiet : keys.Pairwise fun first later => ∀ db ids, (worklist first).select db = [] →
      (worklist first).select ((worklist later).mutate db ids) = [])
    (db : RetentionDatabase)
    (unlimited : ∀ entry ∈ (runSteps config worklist keys db).2,
      limitReached config entry.2 = false) :
    ∀ key ∈ keys, (worklist key).select (runSteps config worklist keys db).1 = [] := by
  induction keys generalizing db with
  | nil => simp
  | cons key rest ih =>
      rw [List.pairwise_cons] at quiet
      intro other member
      rcases List.mem_cons.1 member with rfl | later
      · have drained := step_drained lawful ranges other db (unlimited _ List.mem_cons_self)
        exact run_steps_preserve lawful
          (fun later member db => quiet.1 later member db _) drained
      · exact ih quiet.2 _ (fun entry member => unlimited entry (List.mem_cons_of_mem _ member))
          other later

theorem run_steps_idle {keys : List Key} {db : RetentionDatabase}
    (drained : ∀ key ∈ keys, (worklist key).select db = []) :
    (runSteps config worklist keys db).1 = db ∧
      ∀ entry ∈ (runSteps config worklist keys db).2, entry.2.mutated = 0 := by
  induction keys with
  | nil => exact ⟨rfl, by simp [runSteps]⟩
  | cons key rest ih =>
      obtain ⟨same, count⟩ := run_drained (drained key List.mem_cons_self) config.batchSize
        config.maxBatchesPerStep .start
      obtain ⟨others, none⟩ := ih fun later member => drained later (List.mem_cons_of_mem _ member)
      rw [runSteps]
      simp only [same]
      refine ⟨others, ?_⟩
      intro entry member
      rcases List.mem_cons.1 member with rfl | later
      · exact count
      · exact none entry later

end Steps

theorem nil_of_subset {left right : List Nat} (subset : ∀ id ∈ left, id ∈ right)
    (empty : right = []) : left = [] := by
  rw [List.eq_nil_iff_forall_not_mem]
  intro id member
  rw [empty] at subset
  exact List.not_mem_nil (subset id member)

theorem select_deliveries_delete (cutoff : Time) (db : RetentionDatabase) (ids : List Nat) :
    ∀ id ∈ selectNotificationDeliveries cutoff { db with outbox := deleteIds db.outbox ids },
      id ∈ selectNotificationDeliveries cutoff db := by
  intro id selected
  rw [selectNotificationDeliveries, mem_select_ordered] at selected ⊢
  obtain ⟨delivery, stored, kept⟩ := selected
  rw [Option.any_eq_true] at kept
  obtain ⟨outbox, parent, holds⟩ := kept
  refine ⟨delivery, stored, ?_⟩
  rw [Option.any_eq_true]
  exact ⟨outbox, get_of_deleted parent, holds⟩

/-- Later deletions empty no select anew: they take parents, and a select asks for
children only that they are gone. -/
theorem deletions_quiet (config : RetentionConfig) :
    RetentionStepKey.all.Pairwise fun first later => ∀ db ids,
      (first.worklist config).select db = [] →
        (first.worklist config).select ((later.worklist config).mutate db ids) = [] := by
  have parent : ∀ (db : RetentionDatabase) (ids : List Nat),
      (RetentionStepKey.notificationDeliveries.worklist config).select db = [] →
        (RetentionStepKey.notificationDeliveries.worklist config).select
          ((RetentionStepKey.notificationOutbox.worklist config).mutate db ids) = [] := by
    intro db ids drained
    exact nil_of_subset (select_deliveries_delete config.historyCutoff db ids) drained
  simp only [RetentionStepKey.all, List.pairwise_cons, List.mem_cons, List.not_mem_nil, or_false,
    forall_eq_or_imp, forall_eq]
  exact ⟨⟨fun _ _ drained => drained, fun _ _ drained => drained, fun _ _ drained => drained,
      fun _ _ drained => drained, fun _ _ drained => drained⟩,
    ⟨fun _ _ drained => drained, fun _ _ drained => drained, fun _ _ drained => drained,
      fun _ _ drained => drained⟩,
    ⟨parent, fun _ _ drained => drained, fun _ _ drained => drained⟩,
    ⟨fun _ _ drained => drained, fun _ _ drained => drained⟩,
    fun _ _ drained => drained, by simp⟩

theorem redactions_quiet (engine : SqlText) :
    RetentionRedactionStepKey.all.Pairwise fun first later => ∀ db ids,
      (first.worklist engine).select db = [] →
        (first.worklist engine).select ((later.worklist engine).mutate db ids) = [] := by
  simp only [RetentionRedactionStepKey.all, List.pairwise_cons, List.mem_cons, List.not_mem_nil,
    or_false, forall_eq_or_imp, forall_eq]
  exact ⟨⟨fun _ _ drained => drained, fun _ _ drained => drained⟩, fun _ _ drained => drained,
    by simp⟩

theorem redaction_keeps_deletions_drained (config : RetentionConfig) (key : RetentionStepKey)
    (redaction : RetentionRedactionStepKey) (db : RetentionDatabase) (ids : List Nat)
    (drained : key.select (key.cutoff config) db = []) :
    key.select (key.cutoff config) (redaction.redact db ids) = [] := by
  cases redaction
  case deletedMonitors => cases key <;> exact drained
  case deletedNotificationChannels => cases key <;> exact drained
  case terminalNotificationOutbox =>
    refine nil_of_subset (fun id selected => ?_) drained
    cases key
    case checkResults => exact selected
    case scheduledChecks => exact selected
    case notificationDeliveries =>
      simp only [RetentionStepKey.select, selectNotificationDeliveries, mem_select_ordered,
        RetentionRedactionStepKey.redact, Option.any_eq_true] at selected ⊢
      obtain ⟨delivery, stored, outbox, parent, holds⟩ := selected
      obtain ⟨before, found, rfl⟩ := get_of_redacted parent
      refine ⟨delivery, stored, before, found, ?_⟩
      split at holds <;> exact holds
    case notificationOutbox =>
      simp only [RetentionStepKey.select, selectNotificationOutbox, mem_select_ordered,
        RetentionRedactionStepKey.redact] at selected ⊢
      obtain ⟨outbox, stored, holds⟩ := selected
      obtain ⟨before, found, rfl⟩ := get_of_redacted stored
      refine ⟨before, found, ?_⟩
      split at holds <;> exact holds
    case incidents =>
      simp only [RetentionStepKey.select, selectIncidents, mem_select_ordered,
        RetentionRedactionStepKey.redact, Bool.and_eq_true, Table.every_iff,
        decide_eq_true_eq] at selected ⊢
      obtain ⟨incident, stored, closed, unused⟩ := selected
      refine ⟨incident, stored, closed, fun other outbox found refers => ?_⟩
      have held : (redactIds db.outbox StoredOutboxRow.redacted ids).get other =
          some (if other ∈ ids then outbox.redacted else outbox) := by
        rw [get_redact_ids, found]
        rfl
      refine unused other _ held ?_
      split <;> exact refers
    case auditLogs => exact selected

section FirstRun

variable {engine : SqlText} {config : RetentionConfig} {db : RetentionDatabase}

theorem redacted_drained (ranges : config.InRange)
    (unlimited : (runRetention engine config db).unlimited config = true)
    (key : RetentionRedactionStepKey) :
    key.select engine (redactedDatabase engine config db) = [] := by
  rw [RetentionCompletedResult.unlimited, Bool.and_eq_true, List.all_eq_true] at unlimited
  have drained := run_steps_drained (redaction_lawful engine) ranges (redactions_quiet engine) db
    (fun entry member => by simpa using unlimited.1 entry member) key (by cases key <;> decide)
  rwa [run_steps_database config (redaction_lawful engine)] at drained

theorem deleted_drained (ranges : config.InRange)
    (unlimited : (runRetention engine config db).unlimited config = true) (key : RetentionStepKey) :
    key.select (key.cutoff config) (runRetention engine config db).database = [] := by
  rw [RetentionCompletedResult.unlimited, Bool.and_eq_true, List.all_eq_true,
    List.all_eq_true] at unlimited
  exact run_steps_drained (deletion_lawful config) ranges (deletions_quiet config) _
    (fun entry member => by simpa using unlimited.2 entry member) key (by cases key <;> decide)

theorem run_retention_monitors :
    (runRetention engine config db).database.monitors =
      (redactedDatabase engine config db).monitors := by
  have frame : ∀ (state : RetentionDatabase) (key : RetentionStepKey),
      (deletionStep config state key).monitors = state.monitors := by
    intro state key
    cases key <;> rfl
  rw [run_retention_database]
  simp only [RetentionStepKey.all, List.foldl_cons, List.foldl_nil, frame]

/-- Deletion leaves the two selects over monitors and channels as the redaction left them. -/
theorem owners_drained (ranges : config.InRange)
    (unlimited : (runRetention engine config db).unlimited config = true)
    {key : RetentionRedactionStepKey} (owner : key ≠ .terminalNotificationOutbox) :
    key.select engine (runRetention engine config db).database = [] := by
  have before := redacted_drained ranges unlimited key
  cases key
  case deletedMonitors =>
    simp only [RetentionRedactionStepKey.select, selectDeletedMonitors] at before ⊢
    rw [run_retention_monitors]
    exact before
  case deletedNotificationChannels =>
    simp only [RetentionRedactionStepKey.select, selectDeletedNotificationChannels] at before ⊢
    rw [run_retention_channels]
    exact before
  case terminalNotificationOutbox => exact absurd rfl owner

theorem run_retention_spares :
    Spares (redactedDatabase engine config db) (runRetention engine config db).database := by
  have start : Spares (redactedDatabase engine config db) (redactedDatabase engine config db) :=
    ⟨fun _ _ stored _ => stored, fun _ _ stored _ => stored, fun _ _ stored _ => stored,
      fun _ _ _ stored _ _ => stored⟩
  have kept : ∀ key ∈ RetentionStepKey.all, ∀ state,
      Spares (redactedDatabase engine config db) state →
        Spares (redactedDatabase engine config db) ((key.worklist config).mutate state
          (((key.worklist config).select state).take config.reach)) :=
    fun key _ state spares => spares.delete fun id member =>
      closed_before_of_select (List.mem_of_mem_take member)
  have run := run_steps_preserve (deletion_lawful config) kept start
  rw [run_steps_database config (deletion_lawful config)] at run
  rw [run_retention_database]
  exact run

/-- Secrets say nothing about which DOWN events stand. -/
theorem standing_down_redacted (outbox : StoredOutboxRow) :
    StandingDown (redactedDatabase engine config db) outbox ↔ StandingDown db outbox := by
  have same : standingDownExists (redactedDatabase engine config db) outbox =
      standingDownExists db outbox := by
    unfold standingDownExists
    rw [redacted_outbox, redactIds]
    exact exists_in_update _ _ _ fun id down => rfl
  rw [← standing_down_exists_iff, ← standing_down_exists_iff, same]

theorem second_select_iff (ranges : config.InRange)
    (unlimited : (runRetention engine config db).unlimited config = true) {id : OutboxId}
    {outbox : StoredOutboxRow}
    (stored : (runRetention engine config db).database.outbox.get id = some outbox) :
    id ∈ selectTerminalNotificationOutbox engine (runRetention engine config db).database ↔
      ReleasedRecovery engine db (runRetention engine config db).database outbox := by
  let redacted := redactedDatabase engine config db
  let after := (runRetention engine config db).database
  have channels : after.channels = redacted.channels := run_retention_channels engine config db
  have bindings : after.bindings = redacted.bindings := by
    rw [run_retention_bindings]
    rfl
  have live : ChannelLive redacted outbox ↔ ChannelLive after outbox := by
    simp only [ChannelLive, channels]
  have bound : BoundForRecovery redacted outbox ↔ BoundForRecovery after outbox := by
    simp only [BoundForRecovery, bindings]
  rw [mem_select_terminal stored]
  constructor
  · rintro ⟨terminal, sealed, recovery, reactivation⟩
    have held : redacted.outbox.get id = some outbox := by
      rw [run_retention_outbox] at stored
      exact get_of_deleted stored
    have spared : id ∉ selectTerminalNotificationOutbox engine redacted := by
      have drained := redacted_drained ranges unlimited .terminalNotificationOutbox
      rw [RetentionRedactionStepKey.select] at drained
      rw [drained]
      exact List.not_mem_nil
    rw [mem_select_terminal held] at spared
    have recoveryBefore : awaitsRecovery engine redacted outbox = some false := by
      rw [awaits_recovery_false_iff] at recovery ⊢
      rintro ⟨down, sent, flag, ⟨incidentId, incident, refers, found, opened⟩, isLive, isBound⟩
      exact recovery ⟨down, sent, flag, ⟨incidentId, incident, refers,
        run_retention_spares.incidents incidentId incident found opened, opened⟩,
        live.1 isLive, bound.1 isBound⟩
    have kept : ¬ awaitsReactivation engine redacted outbox = some false := fun reactivated =>
      spared ⟨terminal, sealed, recoveryBefore, reactivated⟩
    rw [awaits_reactivation_false_iff, not_not] at kept
    obtain ⟨event, canceled, reason, isLive, stood, isBound⟩ := kept
    refine ⟨event, canceled, sealed, reason, live.1 isLive, bound.1 isBound,
      (standing_down_redacted outbox).1 stood, fun stands => ?_⟩
    exact awaits_reactivation_false_iff.1 reactivation
      ⟨event, canceled, reason, live.1 isLive, stands, bound.1 isBound⟩
  · intro released
    refine ⟨by rw [released.canceled]; rfl, released.sealed, ?_, ?_⟩
    · rw [awaits_recovery_false_iff]
      rintro ⟨down, -⟩
      rw [released.event] at down
      cases down
    · rw [awaits_reactivation_false_iff]
      rintro ⟨-, -, -, -, stands, -⟩
      exact released.gone stands

end FirstRun

/-- The second run does nothing but redact the recoveries that the first one's deletion has
released. -/
structure SecondRunResidue (engine : SqlText) (config : RetentionConfig) (db : RetentionDatabase)
    (first second : RetentionCompletedResult) : Prop where
  deletesNothing : second.totalDeleted = 0
  owners : ∀ entry ∈ second.secretRedactions, entry.1 ≠ .terminalNotificationOutbox →
    entry.2.mutated = 0
  database : second.database = { first.database with
    outbox := redactIds first.database.outbox StoredOutboxRow.redacted
      ((selectTerminalNotificationOutbox engine first.database).take config.reach) }
  selected : ∀ id outbox, first.database.outbox.get id = some outbox →
    (id ∈ selectTerminalNotificationOutbox engine first.database ↔
      ReleasedRecovery engine db first.database outbox)
  redactsNothing : second.totalRedacted = 0 ↔
    ∀ id outbox, first.database.outbox.get id = some outbox →
      ¬ ReleasedRecovery engine db first.database outbox

theorem redactions_of_outbox (engine : SqlText) (config : RetentionConfig)
    {state : RetentionDatabase}
    (drained : ∀ key : RetentionRedactionStepKey, key ≠ .terminalNotificationOutbox →
      key.select engine state = []) :
    ∃ monitors channels outbox : Tally,
      runSteps config (RetentionRedactionStepKey.worklist engine) RetentionRedactionStepKey.all
          state =
        (RetentionRedactionStepKey.terminalNotificationOutbox.redact state
            ((selectTerminalNotificationOutbox engine state).take config.reach),
          [(.deletedMonitors, monitors), (.deletedNotificationChannels, channels),
            (.terminalNotificationOutbox, outbox)]) ∧
      monitors.mutated = 0 ∧ channels.mutated = 0 ∧
      outbox.mutated = ((selectTerminalNotificationOutbox engine state).take config.reach).length := by
  let work := RetentionRedactionStepKey.worklist engine
  have idle : ∀ key : RetentionRedactionStepKey, key ≠ .terminalNotificationOutbox →
      ((work key).run config.batchSize config.maxBatchesPerStep state .start).1 = state ∧
      ((work key).run config.batchSize config.maxBatchesPerStep state .start).2.mutated = 0 := by
    intro key owner
    have nothing : (work key).select state = [] := drained key owner
    exact run_drained nothing config.batchSize config.maxBatchesPerStep .start
  obtain ⟨monitorsKept, monitorCount⟩ := idle .deletedMonitors (by decide)
  obtain ⟨channelsKept, channelCount⟩ := idle .deletedNotificationChannels (by decide)
  have lawful := redaction_lawful engine .terminalNotificationOutbox
  have redacts := run_state lawful config.batchSize config.maxBatchesPerStep state .start
  have count := run_mutated lawful config.batchSize config.maxBatchesPerStep state .start
  refine ⟨_, _, _, ?_, monitorCount, channelCount,
    count.trans (by simp only [Tally.start, Nat.zero_add]; rfl)⟩
  simp only [RetentionRedactionStepKey.all, runSteps, work] at monitorsKept channelsKept ⊢
  rw [monitorsKept, channelsKept, redacts]
  rfl

/-- A run that no limit has cut short leaves to the next one the secrets of canceled
recoveries whose last standing DOWN event it has deleted, and nothing else. -/
theorem retention_second_run (engine : SqlText) {config : RetentionConfig}
    (ranges : config.InRange) {db : RetentionDatabase}
    (unlimited : (runRetention engine config db).unlimited config = true) :
    SecondRunResidue engine config db (runRetention engine config db)
      (runRetention engine config (runRetention engine config db).database) := by
  let state := (runRetention engine config db).database
  let ids := (selectTerminalNotificationOutbox engine state).take config.reach
  have owners : ∀ key : RetentionRedactionStepKey, key ≠ .terminalNotificationOutbox →
      key.select engine state = [] := fun key owner => owners_drained ranges unlimited owner
  obtain ⟨monitors, channels, outbox, redacted, noMonitor, noChannel, count⟩ :=
    redactions_of_outbox engine config owners
  obtain ⟨⟨last, steps⟩, ran⟩ : ∃ pair, runSteps config (RetentionStepKey.worklist config)
      RetentionStepKey.all (RetentionRedactionStepKey.terminalNotificationOutbox.redact state ids) =
        pair := ⟨_, rfl⟩
  have second : runRetention engine config state = ⟨last, [(.deletedMonitors, monitors),
      (.deletedNotificationChannels, channels), (.terminalNotificationOutbox, outbox)], steps⟩ := by
    simp only [runRetention, redacted]
    rw [ran]
  have drained : ∀ key ∈ RetentionStepKey.all, (key.worklist config).select
      (RetentionRedactionStepKey.terminalNotificationOutbox.redact state ids) = [] :=
    fun key _ => redaction_keeps_deletions_drained config key _ state _
      (deleted_drained ranges unlimited key)
  have idle : last = RetentionRedactionStepKey.terminalNotificationOutbox.redact state ids ∧
      ∀ entry ∈ steps, entry.2.mutated = 0 := by
    obtain ⟨same, nothing⟩ := run_steps_idle drained
    rw [ran] at same nothing
    exact ⟨same, nothing⟩
  have reached : 0 < config.reach :=
    Nat.mul_pos ranges.maxBatchesPerStep.1 ranges.batchSize.1
  rw [second]
  refine ⟨?_, ?_, idle.1, fun id row => second_select_iff ranges unlimited, ?_⟩
  · rw [RetentionCompletedResult.totalDeleted, List.sum_eq_zero_iff_forall_eq_nat]
    intro deleted member
    obtain ⟨entry, reported, rfl⟩ := List.mem_map.1 member
    exact idle.2 entry reported
  · intro entry member owner
    simp only [List.mem_cons, List.not_mem_nil, or_false] at member
    rcases member with rfl | rfl | rfl
    · exact noMonitor
    · exact noChannel
    · exact absurd rfl owner
  · have total : RetentionCompletedResult.totalRedacted ⟨last, [(.deletedMonitors, monitors),
        (.deletedNotificationChannels, channels), (.terminalNotificationOutbox, outbox)], steps⟩ =
          ids.length := by
      simp only [RetentionCompletedResult.totalRedacted, List.map_cons, List.map_nil,
        List.sum_cons, List.sum_nil, noMonitor, noChannel, count, Nat.zero_add, Nat.add_zero]
      rfl
    rw [total, List.length_eq_zero_iff, List.take_eq_nil_iff]
    constructor
    · rintro (none | empty) id row stored released
      · omega
      · have selected := (second_select_iff ranges unlimited stored).2 released
        rw [empty] at selected
        exact List.not_mem_nil selected
    · intro none
      refine .inr (List.eq_nil_iff_forall_not_mem.2 fun id selected => ?_)
      obtain ⟨row, stored, -⟩ := (mem_select_ordered _ _ _ id).1 selected
      exact none id row stored ((second_select_iff ranges unlimited stored).1 selected)

namespace RetentionSample

def resolved : IncidentRow :=
  { incident with status := .resolved, resolvedAt := some 1500, closureReason := some .recovered }

def failedDown : StoredOutboxRow :=
  { down with
    encryptedConfigSnapshot := .tombstone
    status := .failed
    sentAt := none
    failedAt := some 2000
    updatedAt := 2000 }

def canceledRecovery : StoredOutboxRow :=
  { down with
    eventType := .recovery
    sequence := 2
    status := .canceled
    attemptCount := 0
    lastErrorSafe := some downNotDeliveredRecoveryCancelReason
    sentAt := none
    canceledAt := some 4000
    updatedAt := 4000 }

def answeredDatabase : RetentionDatabase :=
  { openDatabase with
    incidents := Table.put ∅ 1 resolved
    outbox := Table.put (Table.put ∅ 1 failedDown) 2 canceledRecovery }

theorem get_answered {id : OutboxId} {outbox : StoredOutboxRow}
    (stored : answeredDatabase.outbox.get id = some outbox) :
    (id = 1 ∧ outbox = failedDown) ∨ (id = 2 ∧ outbox = canceledRecovery) := by
  simp only [answeredDatabase, Table.get_put, Table.get_empty] at stored
  split at stored
  · rename_i second
    exact .inr ⟨second, (Option.some.inj stored).symm⟩
  · split at stored
    · rename_i first
      exact .inl ⟨first, (Option.some.inj stored).symm⟩
    · cases stored

theorem answered_database_consistent : Consistent answeredDatabase where
  indexed first second left right storedLeft storedRight _ _ _ sequence := by
    rcases get_answered storedLeft with ⟨rfl, rfl⟩ | ⟨rfl, rfl⟩ <;>
      rcases get_answered storedRight with ⟨rfl, rfl⟩ | ⟨rfl, rfl⟩ <;>
      first | rfl | exact absurd sequence (by decide)
  sequenced id outbox stored := by
    rcases get_answered stored with ⟨-, rfl⟩ | ⟨-, rfl⟩ <;> rfl
  owned id outbox incidentId stored ofIncident := by
    rcases get_answered stored with ⟨-, rfl⟩ | ⟨-, rfl⟩ <;> cases ofIncident <;>
      exact ⟨resolved, rfl, rfl⟩
  attempts id outbox stored := by
    rcases get_answered stored with ⟨-, rfl⟩ | ⟨-, rfl⟩ <;> exact ⟨by decide, by decide⟩
  oneOpen first second left right storedLeft _ _ opened _ := by
    rw [(get_single storedLeft).2] at opened
    cases opened
  unanswered id outbox incidentId row stored ofIncident found opened := by
    rw [(get_single found).2] at opened
    cases opened

theorem answered_database_keys : ForeignKeys answeredDatabase where
  checkMonitors id check stored := by cases stored
  resultMonitors id result monitorId stored := by cases stored
  resultChecks id result checkId monitorId version stored := by cases stored
  incidentMonitors id row stored := by
    rw [(get_single stored).2]
    exact ⟨monitor, rfl⟩
  bindingMonitors := open_database_keys.bindingMonitors
  bindingChannels := open_database_keys.bindingChannels
  outboxMonitors id outbox monitorId stored refers := by
    rcases get_answered stored with ⟨-, rfl⟩ | ⟨-, rfl⟩ <;> cases refers <;> exact ⟨monitor, rfl⟩
  outboxIncidents id outbox incidentId stored refers := by
    rcases get_answered stored with ⟨-, rfl⟩ | ⟨-, rfl⟩ <;> cases refers <;> exact ⟨resolved, rfl⟩
  outboxChannels id outbox stored := by
    rcases get_answered stored with ⟨-, rfl⟩ | ⟨-, rfl⟩ <;> exact ⟨channel, rfl⟩
  deliveryOutbox id delivery stored := by
    rw [(get_single stored).2]
    exact ⟨failedDown, rfl⟩

def config : RetentionConfig := ⟨3000, 3000, 10, 1⟩

theorem config_in_range : config.InRange := ⟨by decide, by decide⟩

end RetentionSample

theorem retention_second_run_sample :
    SecondRunResidue RetentionSample.engine RetentionSample.config RetentionSample.answeredDatabase
      (runRetention RetentionSample.engine RetentionSample.config RetentionSample.answeredDatabase)
      (runRetention RetentionSample.engine RetentionSample.config
        (runRetention RetentionSample.engine RetentionSample.config
          RetentionSample.answeredDatabase).database) :=
  retention_second_run RetentionSample.engine RetentionSample.config_in_range (by decide +kernel)

/-- The first run spares the recovery's secret and deletes its DOWN event; the second run
redacts the recovery. -/
theorem second_run_redacts :
    ¬ ∀ (engine : SqlText) (config : RetentionConfig) (db : RetentionDatabase), config.InRange →
      Consistent db → ForeignKeys db → (runRetention engine config db).unlimited config = true →
      (runRetention engine config (runRetention engine config db).database).totalRedacted = 0 ∧
        (runRetention engine config (runRetention engine config db).database).totalDeleted = 0 := by
  intro idempotent
  have nothing := (idempotent RetentionSample.engine RetentionSample.config
    RetentionSample.answeredDatabase RetentionSample.config_in_range
    RetentionSample.answered_database_consistent RetentionSample.answered_database_keys
    (by decide +kernel)).1
  exact absurd nothing (by decide +kernel)

end LinkAlive
