import LinkAlive.System.Locks

/-!
# What statements and commits do to the check ledger

Rows of `scheduled_checks` are only ever moved while they are active: a terminal row is
never written again. Every statement is described by the move it makes on a row.
-/

namespace LinkAlive

open Relational

set_option autoImplicit false

def CheckRow.SameSlot (row other : CheckRow) : Prop :=
  row.monitorId = other.monitorId ∧ row.scheduledAt = other.scheduledAt ∧
    row.configVersion = other.configVersion

theorem CheckRow.SameSlot.rfl {row : CheckRow} : row.SameSlot row := ⟨Eq.refl _, Eq.refl _, Eq.refl _⟩

theorem CheckRow.SameSlot.trans {row other third : CheckRow} (first : row.SameSlot other)
    (second : other.SameSlot third) : row.SameSlot third :=
  ⟨first.1.trans second.1, first.2.1.trans second.2.1, first.2.2.trans second.2.2⟩

structure CheckRow.WellFormed (row : CheckRow) : Prop where
  leasePair : row.leaseOwner.isSome = row.leaseUntil.isSome
  leased : row.status = .enqueued ∨ row.status = .running → row.leaseUntil.isSome = true
  unfinished : row.status.isActive = true → row.completedAt = none
  notFailed : row.status ≠ .failed

structure CheckMove (row moved : CheckRow) : Prop where
  slot : moved.SameSlot row
  terminal : row.status.isActive = false → moved = row
  wellFormed : row.WellFormed → moved.WellFormed

theorem CheckMove.kept (row : CheckRow) : CheckMove row row :=
  ⟨.rfl, fun _ => rfl, fun valid => valid⟩

theorem CheckMove.active_before {row moved : CheckRow} (move : CheckMove row moved)
    (active : moved.status.isActive = true) : row.status.isActive = true := by
  cases before : row.status.isActive with
  | true => rfl
  | false =>
      rw [move.terminal before, before] at active
      cases active

theorem check_move_update_where {checks : Checks} {guard : CheckId → CheckRow → Bool}
    {change : CheckId → CheckRow → CheckRow}
    (moves : ∀ id row, checks.get id = some row → guard id row = true →
      CheckMove row (change id row)) {id : CheckId} {row : CheckRow}
    (found : checks.get id = some row) :
    ∃ moved, (checks.updateWhere guard change).get id = some moved ∧ CheckMove row moved := by
  rw [Table.get_update_where, found]
  refine ⟨_, rfl, ?_⟩
  by_cases selected : guard id row = true
  · simpa [selected] using moves id row found selected
  · simpa [selected] using CheckMove.kept row

theorem claim_for_dispatch_move {row : CheckRow} {now : Time} (owner : InstanceId)
    (leaseUntil : Time) (claimable : row.claimableForDispatch now = true) :
    CheckMove row { row with
      status := .pending
      leaseOwner := some owner
      leaseUntil := some leaseUntil
      attemptCount := row.attemptCount + 1
      failureReasonSafe := none } := by
  simp only [CheckRow.claimableForDispatch, Bool.and_eq_true, Bool.or_eq_true, decide_eq_true_eq,
    Option.isNone_iff_eq_none] at claimable
  refine ⟨.rfl, ?_, ?_⟩
  · intro terminal
    rcases claimable.2 with ⟨status, _⟩ | ⟨status | status, _⟩ <;>
      simp [status, ScheduledCheckStatus.isActive] at terminal
  · intro valid
    exact ⟨rfl, by simp, fun _ => claimable.1, by simp⟩

theorem claimed_by_move {row moved : CheckRow} {owner : InstanceId}
    (held : row.claimedBy owner = true) (slot : moved.SameSlot row)
    (pair : moved.leaseOwner.isSome = moved.leaseUntil.isSome)
    (leased : moved.status = .enqueued ∨ moved.status = .running →
      moved.leaseUntil.isSome = true)
    (unfinished : moved.completedAt = row.completedAt) (notFailed : moved.status ≠ .failed) :
    CheckMove row moved := by
  simp only [CheckRow.claimedBy, Bool.and_eq_true, decide_eq_true_eq,
    Option.isNone_iff_eq_none] at held
  refine ⟨slot, ?_, ?_⟩
  · intro terminal
    simp [held.1.2, ScheduledCheckStatus.isActive] at terminal
  · intro valid
    exact ⟨pair, leased, fun _ => unfinished.trans held.2, notFailed⟩

theorem mark_enqueued_move {row : CheckRow} {owner : InstanceId} (id : CheckId)
    (now leaseUntil : Time) (held : row.claimedBy owner = true) :
    CheckMove row { row with
      status := .enqueued
      queueJobId := some id
      enqueuedAt := some now
      leaseUntil := some leaseUntil } := by
  have owned : row.leaseOwner = some owner := by
    simp only [CheckRow.claimedBy, Bool.and_eq_true, decide_eq_true_eq] at held
    exact held.1.1
  exact claimed_by_move held .rfl (by simp [owned]) (by simp) rfl (by simp)

theorem release_dispatch_claim_move {row : CheckRow} {owner : InstanceId} (safeReason : String)
    (held : row.claimedBy owner = true) :
    CheckMove row { row with
      status := .pending
      leaseOwner := none
      leaseUntil := none
      failureReasonSafe := some safeReason } := by
  exact claimed_by_move held .rfl rfl (by simp) rfl (by simp)

theorem claim_check_move {row : CheckRow} {now : Time} (owner : InstanceId)
    (leaseUntil : Time) (claimable : row.claimableByWorker now = true) :
    CheckMove row { row with
      status := .running
      leaseOwner := some owner
      leaseUntil := some leaseUntil
      startedAt := some now } := by
  simp only [CheckRow.claimableByWorker, Bool.and_eq_true, Bool.or_eq_true, decide_eq_true_eq,
    Option.isNone_iff_eq_none] at claimable
  refine ⟨.rfl, ?_, ?_⟩
  · intro terminal
    rcases claimable.2 with (status | status) | ⟨status, _⟩ <;>
      simp [status, ScheduledCheckStatus.isActive] at terminal
  · intro valid
    exact ⟨rfl, by simp, fun _ => claimable.1, by simp⟩

theorem cancel_move {row moved : CheckRow} (active : row.status.isActive = true)
    (slot : moved.SameSlot row) (status : moved.status = .canceled)
    (owner : moved.leaseOwner = none) (until_ : moved.leaseUntil = none) :
    CheckMove row moved := by
  refine ⟨slot, ?_, ?_⟩
  · intro terminal
    rw [active] at terminal
    cases terminal
  · intro _
    exact ⟨by simp [owner, until_], by simp [status],
      by simp [status, ScheduledCheckStatus.isActive], by simp [status]⟩

theorem completed_move {row : CheckRow} {finishedAt : Time}
    (active : row.status.isActive = true) : CheckMove row (row.completed finishedAt) := by
  refine ⟨.rfl, ?_, ?_⟩
  · intro terminal
    rw [active] at terminal
    cases terminal
  · intro _
    exact ⟨rfl, by simp [CheckRow.completed],
      by simp [CheckRow.completed, ScheduledCheckStatus.isActive], by simp [CheckRow.completed]⟩

theorem new_check_row_well_formed (due : DueMonitor) (scheduledAt : Time) :
    (newCheckRow due scheduledAt).WellFormed :=
  ⟨rfl, by simp [newCheckRow], fun _ => rfl, by simp [newCheckRow]⟩

/-- The tables that the outbox side of the system never writes. -/
structure SameLedger (db other : Database) : Prop where
  monitors : other.monitors = db.monitors
  checks : other.checks = db.checks
  results : other.results = db.results
  incidents : other.incidents = db.incidents

theorem claim_commit_same_ledger {db after : Database} {tx : ClaimTx}
    {granted : Option ClaimedNotification} (written : claimCommit db tx = some (after, granted)) :
    SameLedger db after := by
  simp only [claimCommit, Option.bind_eq_bind, Option.bind_eq_some_iff] at written
  obtain ⟨row, _, written⟩ := written
  split at written
  · cases written
    exact ⟨rfl, rfl, rfl, rfl⟩
  · cases written
    exact ⟨rfl, rfl, rfl, rfl⟩
  · cases written
    exact ⟨rfl, rfl, rfl, rfl⟩
  · cases written
    exact ⟨rfl, rfl, rfl, rfl⟩
  · simp only [Option.bind_eq_some_iff] at written
    obtain ⟨deliveries, _, written⟩ := written
    cases written
    exact ⟨rfl, rfl, rfl, rfl⟩

theorem mark_sent_commit_same_ledger {db after : Database} {tx : MarkSentTx}
    (written : markSentCommit db tx = some after) : SameLedger db after := by
  simp only [markSentCommit, Option.bind_eq_bind, Option.bind_eq_some_iff] at written
  obtain ⟨row, _, written⟩ := written
  split at written
  · cases written
    exact ⟨rfl, rfl, rfl, rfl⟩
  · simp only [Option.bind_eq_some_iff] at written
    obtain ⟨outbox, _, written⟩ := written
    cases written
    exact ⟨rfl, rfl, rfl, rfl⟩

theorem mark_failed_same_ledger (db : Database) (claimed : ClaimedNotification)
    (error : NotificationProviderError) (now : Time) (retryDelayMs : Nat) :
    SameLedger db (markFailed db claimed error now retryDelayMs) := ⟨rfl, rfl, rfl, rfl⟩

theorem channel_commit_same_ledger (db : Database) (tx : ChannelTx) :
    SameLedger db (channelCommit db tx) := by
  unfold channelCommit ChannelTx.retireWrite
  split
  · exact ⟨rfl, rfl, rfl, rfl⟩
  · exact ⟨rfl, rfl, rfl, rfl⟩

theorem persist_commit_cases {db after : Database} {tx : PersistTx}
    (written : persistCommit db tx = some after) :
    ∃ results incidents outbox,
      db.results.insertNew tx.checkId (resultRow tx) = some results ∧
      tx.incident.apply db.incidents = some incidents ∧
      (db.outbox.updateWhere (fun _ _ => true) tx.rowWrite).insertAll tx.outbox.creates =
        some outbox ∧
      after = { db with
        results := results
        incidents := incidents
        outbox := outbox
        monitors := db.monitors.updateKey tx.monitorId tx.monitorWrite
        checks :=
          if tx.check.status = .canceled then db.checks
          else db.checks.updateKey tx.checkId fun row => row.completed tx.result.finishedAt } := by
  simp only [persistCommit, Option.bind_eq_bind, Option.bind_eq_some_iff] at written
  obtain ⟨results, inserted, incidents, applied, outbox, created, written⟩ := written
  cases written
  exact ⟨results, incidents, outbox, inserted, applied, created, rfl⟩

theorem persist_commit_row {db after : Database} {tx : PersistTx}
    (written : persistCommit db tx = some after) {key : OutboxKey} {row : OutboxRow}
    (found : db.outbox.get key = some row) :
    after.outbox.get key = some (tx.rowWrite key row) := by
  obtain ⟨_, _, outbox, _, _, inserted, rfl⟩ := persist_commit_cases written
  apply Table.insert_all_keeps inserted
  rw [Table.get_update_where, found]
  rfl

/-- What a monitor transaction does to the ledger: it writes its own monitor, and an
operation that runs `cancelRuntime` cancels the open incident and the active checks. -/
theorem monitor_commit_cases {db after : Database} {tx : MonitorTx}
    (written : monitorCommit db tx = some after) :
    after.results = db.results ∧ after.channels = db.channels ∧
    after.bindings = tx.bindingWrite db.bindings ∧
    after.incidents = (tx.runtimeWrite db).incidents ∧
    after.checks = (tx.runtimeWrite db).checks ∧
    after.outbox = (tx.runtimeWrite db).outbox ∧
    ((∃ input, tx.change = .create input ∧ db.monitors.get tx.id = none ∧
        after.monitors = db.monitors.put tx.id (newMonitorRow input tx.initialNextCheckAt)) ∨
      tx.change.isCreate = false ∧
        after.monitors = db.monitors.updateKey tx.id tx.monitorWrite) := by
  have runtime : (tx.runtimeWrite db).results = db.results ∧
      (tx.runtimeWrite db).channels = db.channels := by
    unfold MonitorTx.runtimeWrite
    split <;> exact ⟨rfl, rfl⟩
  unfold monitorCommit at written
  simp only at written
  split at written
  · rename_i input create
    simp only [Option.bind_eq_bind, Option.bind_eq_some_iff] at written
    obtain ⟨monitors, inserted, written⟩ := written
    cases written
    rw [Table.insert_new_eq_some] at inserted
    exact ⟨runtime.1, runtime.2, rfl, rfl, rfl, rfl, Or.inl ⟨input, create, inserted.1, inserted.2⟩⟩
  · rename_i notCreate
    cases written
    refine ⟨runtime.1, runtime.2, rfl, rfl, rfl, rfl, Or.inr ⟨?_, rfl⟩⟩
    cases change : tx.change with
    | create input => exact absurd change (notCreate input)
    | update => rfl
    | pause => rfl
    | resume => rfl
    | remove => rfl

theorem monitor_commit_deliveries {db after : Database} {tx : MonitorTx}
    (written : monitorCommit db tx = some after) :
    after.deliveries = (tx.runtimeWrite db).deliveries := by
  unfold monitorCommit at written
  dsimp only at written
  split at written
  · simp only [Option.bind_eq_bind, Option.bind_eq_some_iff] at written
    obtain ⟨monitors, -, written⟩ := written
    cases written
    rfl
  · cases written
    rfl

end LinkAlive
