import LinkAlive.Ledger.Invariant

/-!
# Commits and the ledger

A commit keeps the ledger consistent and writes only what belongs to the monitors that
its transaction has locked.
-/

namespace LinkAlive

open Relational

set_option autoImplicit false

structure LedgerCommit (db after : Database) (tx : Transaction) : Prop where
  consistent : LedgerConsistent after
  moves : ∀ id row, db.checks.get id = some row →
    ∃ next, after.checks.get id = some next ∧ CheckMove row next
  monitors : ∀ id, tx.locksMonitor id = false → after.monitors.get id = db.monitors.get id
  checks : ∀ id row, db.checks.get id = some row → tx.locksMonitor row.monitorId = false →
    after.checks.get id = some row
  results : ∀ id row, db.checks.get id = some row → tx.locksMonitor row.monitorId = false →
    after.results.get id = db.results.get id
  incidents : ∀ id row, db.incidents.get id = some row → tx.locksMonitor row.monitorId = false →
    after.incidents.get id = some row
  incidentsNew : ∀ id row, after.incidents.get id = some row →
    tx.locksMonitor row.monitorId = false → db.incidents.get id = some row

theorem SameLedger.commit {db after : Database} (same : SameLedger db after)
    (consistent : LedgerConsistent db) (tx : Transaction) : LedgerCommit db after tx := by
  obtain ⟨monitors, checks, results, incidents⟩ := same
  constructor
  · constructor
    · rw [checks]
      exact consistent.rows
    · rw [checks, monitors]
      exact consistent.active
    · rw [checks]
      exact consistent.single
    · rw [checks, results]
      exact consistent.results
    · rw [checks, results]
      exact consistent.completed
  · intro id row found
    rw [checks]
    exact ⟨row, found, .kept row⟩
  · intro id _
    rw [monitors]
  · intro id row found _
    rw [checks]
    exact found
  · intro id row _ _
    rw [results]
  · intro id row found _
    rw [incidents]
    exact found
  · intro id row found _
    rw [incidents] at found
    exact found

/-- The persist transaction never changes what decides about checks. -/
theorem monitor_write_configuration (tx : PersistTx) (row : MonitorRow) :
    (tx.monitorWrite row).isActive = row.isActive ∧
      (tx.monitorWrite row).configVersion = row.configVersion ∧
      (tx.monitorWrite row).lifecycleStatus = row.lifecycleStatus ∧
      (tx.monitorWrite row).config = row.config := by
  unfold PersistTx.monitorWrite
  split
  · exact ⟨rfl, rfl, rfl, rfl⟩
  · simp only
    split <;> split <;> exact ⟨rfl, rfl, rfl, rfl⟩

inductive IncidentWritten (incidents after : Table IncidentId IncidentRow)
    (write : IncidentWrite) (id : IncidentId) : Prop where
  | kept : after.get id = incidents.get id → IncidentWritten incidents after write id
  | created (row : IncidentRow) : write = .create id row → incidents.get id = none →
      after.get id = some row → IncidentWritten incidents after write id
  | touched (row : IncidentRow) (error : Option CheckErrorType) : write = .touch id error →
      incidents.get id = some row → after.get id = some { row with lastErrorType := error } →
        IncidentWritten incidents after write id
  | resolved (row : IncidentRow) (time : Time) : write = .resolve id time →
      incidents.get id = some row → after.get id = some (row.resolved time) →
        IncidentWritten incidents after write id

theorem incident_write_cases {write : IncidentWrite}
    {incidents after : Table IncidentId IncidentRow} (applied : write.apply incidents = some after)
    (id : IncidentId) : IncidentWritten incidents after write id := by
  cases write with
  | none =>
      cases applied
      exact .kept rfl
  | create target row =>
      simp only [IncidentWrite.apply, Table.insert_new_eq_some] at applied
      by_cases same : id = target
      · subst same
        exact .created row rfl applied.1 (by rw [applied.2, Table.get_put, if_pos rfl])
      · exact .kept (by rw [applied.2, Table.get_put, if_neg same])
  | touch target error =>
      cases applied
      by_cases same : id = target
      · subst same
        cases found : incidents.get id with
        | none => exact .kept (by rw [Table.get_update_key_self, found]; rfl)
        | some row =>
            exact .touched row error rfl found (by rw [Table.get_update_key_self, found]; rfl)
      · exact .kept (Table.get_update_key_other _ _ same)
  | resolve target time =>
      cases applied
      by_cases same : id = target
      · subst same
        cases found : incidents.get id with
        | none => exact .kept (by rw [Table.get_update_key_self, found]; rfl)
        | some row =>
            exact .resolved row time rfl found (by rw [Table.get_update_key_self, found]; rfl)
      · exact .kept (Table.get_update_key_other _ _ same)

theorem persist_commit_ledger {db after : Database} {tx : PersistTx}
    (consistent : LedgerConsistent db) (view : PersistView db tx)
    (concerns : IncidentView db.incidents tx)
    (written : persistCommit db tx = some after) : LedgerCommit db after (.persist tx) := by
  obtain ⟨results, incidents, outbox, inserted, applied, _, rfl⟩ := persist_commit_cases written
  rw [Table.insert_new_eq_some] at inserted
  obtain ⟨noResult, rfl⟩ := inserted
  obtain ⟨check, found, slot, active⟩ := view.check
  have lock : ∀ id, (Transaction.persist tx).locksMonitor id = false → id ≠ tx.monitorId := by
    intro id free same
    simp [Transaction.locksMonitor, same] at free
  have target : ∀ id row, db.incidents.get id = some row →
      (∃ error, tx.incident = .touch id error) ∨ (∃ time, tx.incident = .resolve id time) →
        row.monitorId = tx.monitorId := by
    intro id row stored write
    obtain ⟨opened, openStored, same, _⟩ := concerns.target write
    rw [stored, Option.some_inj] at openStored
    rw [openStored]
    exact same
  have moved : ChecksMoved db.checks (if tx.check.status = .canceled then db.checks
      else db.checks.updateKey tx.checkId fun row => row.completed tx.result.finishedAt) := by
    split
    · exact checks_moved_refl db.checks
    · rename_i notCanceled
      apply checks_moved_update_where
      intro id row stored selected
      rw [decide_eq_true_eq] at selected
      subst selected
      rw [found, Option.some_inj] at stored
      have readActive := view.status.resolve_right notCanceled
      rw [← stored]
      exact completed_move (active.trans readActive)
  constructor
  · apply consistent.moved moved
    · intro id row next stored _ nextActive
      obtain ⟨move⟩ : ∃ _ : CheckMove row next, True := by
        obtain ⟨other, otherStored, move⟩ := (moved id).2 row stored
        rename_i storedNext
        rw [storedNext, Option.some_inj] at otherStored
        exact ⟨otherStored ▸ move, trivial⟩
      obtain ⟨monitor, owner, isActive, version⟩ :=
        consistent.active id row stored (move.active_before nextActive)
      rw [Table.get_update_key]
      split
      · rw [owner]
        have kept := monitor_write_configuration tx monitor
        exact ⟨_, rfl, kept.1.trans isActive, kept.2.1.trans version⟩
      · exact ⟨monitor, owner, isActive, version⟩
    · intro id result stored
      rw [Table.get_put]
      split
      · rename_i same
        rw [same, noResult] at stored
        cases stored
      · exact stored
    · intro id result stored absent
      rw [Table.get_put] at stored
      split at stored
      · rename_i same
        subst same
        split
        · rename_i canceled
          refine ⟨check, found, ?_⟩
          rw [active, canceled]
          rfl
        · rw [Table.get_update_key_self, found]
          exact ⟨_, rfl, rfl⟩
      · rw [absent] at stored
        cases stored
    · intro id row next stored storedNext rowActive status
      rw [Table.get_put]
      split
      · exact ⟨_, rfl⟩
      · rename_i different
        exfalso
        have same : next = row := by
          split at storedNext
          · rw [stored, Option.some_inj] at storedNext
            exact storedNext.symm
          · rw [Table.get_update_key_other _ _ different, stored, Option.some_inj] at storedNext
            exact storedNext.symm
        rw [same] at status
        simp [status, ScheduledCheckStatus.isActive] at rowActive
  · intro id row stored
    exact (moved id).2 row stored
  · intro id free
    exact Table.get_update_key_other _ _ (lock id free)
  · intro id row stored free
    have different : id ≠ tx.checkId := by
      intro same
      subst same
      rw [found, Option.some_inj] at stored
      subst stored
      exact lock _ free slot.1
    split
    · exact stored
    · rw [Table.get_update_key_other _ _ different]
      exact stored
  · intro id row stored free
    have different : id ≠ tx.checkId := by
      intro same
      subst same
      rw [found, Option.some_inj] at stored
      subst stored
      exact lock _ free slot.1
    rw [Table.get_put, if_neg different]
  · intro id row stored free
    cases incident_write_cases applied id with
    | kept same => exact same.trans stored
    | created new write absent =>
        rw [stored] at absent
        cases absent
    | touched old error write =>
        exact absurd (target id row stored (.inl ⟨error, write⟩)) (lock _ free)
    | resolved old time write =>
        exact absurd (target id row stored (.inr ⟨time, write⟩)) (lock _ free)
  · intro id row stored free
    cases incident_write_cases applied id with
    | kept same =>
        rw [← same]
        exact stored
    | created new write absent newStored =>
        rw [stored, Option.some_inj] at newStored
        subst newStored
        exact absurd (concerns.created write).1 (lock _ free)
    | touched old error write oldStored nextStored =>
        rw [stored, Option.some_inj] at nextStored
        have owner := target id old oldStored (.inl ⟨error, write⟩)
        rw [nextStored] at free
        exact absurd owner (lock _ free)
    | resolved old time write oldStored nextStored =>
        rw [stored, Option.some_inj] at nextStored
        have owner := target id old oldStored (.inr ⟨time, write⟩)
        rw [nextStored] at free
        exact absurd owner (lock _ free)

theorem create_due_check_monitors {db after : Database} {now : Time} {due : DueMonitor}
    {id : CheckId} (created : createDueCheck db now due id = some after) {monitorId : MonitorId}
    (other : monitorId ≠ due.id) : after.monitors.get monitorId = db.monitors.get monitorId := by
  rcases create_due_check_cases created with rfl | ⟨scheduledAt, next, _, _, _, _, rfl⟩
  · rfl
  · exact Table.get_update_key_other _ _ other

theorem create_due_checks_monitors {db after : Database} {now : Time}
    {due : List (DueMonitor × CheckId)} (created : createDueChecks db now due = some after)
    {monitorId : MonitorId} (other : ∀ entry ∈ due, entry.1.id ≠ monitorId) :
    after.monitors.get monitorId = db.monitors.get monitorId := by
  induction due generalizing db with
  | nil =>
      cases created
      rfl
  | cons head rest ih =>
      simp only [createDueChecks, Option.bind_eq_bind, Option.bind_eq_some_iff] at created
      obtain ⟨middle, first, later⟩ := created
      have different : monitorId ≠ head.1.id := fun same =>
        other head List.mem_cons_self same.symm
      rw [ih later fun entry member => other entry (List.mem_cons_of_mem _ member)]
      exact create_due_check_monitors first different

theorem create_due_commit_ledger {db after : Database} {tx : CreateDueTx}
    (consistent : LedgerConsistent db) (views : ∀ entry ∈ tx.due, DueView db entry.1)
    (written : createDueChecks db tx.now tx.due = some after) :
    LedgerCommit db after (.createDue tx) := by
  have afterConsistent := create_due_checks_consistent consistent views written
  have kept := create_due_checks_kept written
  refine ⟨afterConsistent, ?_, ?_, ?_, ?_, ?_, ?_⟩
  · intro id row found
    exact ⟨row, kept.checks id row found, .kept row⟩
  · intro id free
    apply create_due_checks_monitors written
    intro entry member same
    simp only [Transaction.locksMonitor, List.any_eq_false, decide_eq_true_eq] at free
    exact free entry member same
  · intro id row found _
    exact kept.checks id row found
  · intro id row _ _
    rw [kept.results]
  · intro id row found _
    rw [kept.incidents]
    exact found
  · intro id row found _
    rw [kept.incidents] at found
    exact found

/-- An operation without `cancelRuntime` leaves an active monitor active and keeps its
version. -/
theorem monitor_write_keeps {tx : MonitorTx} {row : MonitorRow}
    (notCreate : tx.change.isCreate = false) (quiet : tx.change.cancels = none)
    (active : row.isActive = true) :
    (tx.monitorWrite row).isActive = true ∧
      (tx.monitorWrite row).configVersion = row.configVersion := by
  have deleted : row.deletedAt = none := by
    simp only [MonitorRow.isActive, Bool.and_eq_true, Option.isNone_iff_eq_none] at active
    exact active.2
  unfold MonitorTx.monitorWrite
  cases change : tx.change with
  | create => simp [change, MonitorChange.isCreate] at notCreate
  | update merged found =>
      cases found with
      | none => exact ⟨active, rfl⟩
      | some found => simp [change, MonitorChange.cancels] at quiet
  | pause => simp [change, MonitorChange.cancels] at quiet
  | resume =>
      exact ⟨by simp [MonitorRow.resumed, MonitorRow.reset, MonitorRow.isActive, deleted], rfl⟩
  | remove => simp [change, MonitorChange.cancels] at quiet

/-- The checks after an operation: untouched, or those of the monitor canceled. -/
theorem runtime_checks_moved (db : Database) (tx : MonitorTx) :
    ChecksMoved db.checks (tx.runtimeWrite db).checks := by
  unfold MonitorTx.runtimeWrite
  split
  · apply checks_moved_update_where
    intro id row _ selected
    rw [Bool.and_eq_true] at selected
    exact cancel_move selected.2 .rfl rfl rfl rfl
  · exact checks_moved_refl db.checks

theorem runtime_checks_idle {db : Database} {tx : MonitorTx}
    (cancels : tx.change.cancels.isSome = true) {id : CheckId} {row : CheckRow}
    (found : (tx.runtimeWrite db).checks.get id = some row) (same : row.monitorId = tx.id) :
    row.status.isActive = false := by
  obtain ⟨⟨reason, attempts⟩, change⟩ := Option.isSome_iff_exists.1 cancels
  simp only [MonitorTx.runtimeWrite, change, cancelRuntime, Table.get_update_where,
    Option.map_eq_some_iff] at found
  obtain ⟨before, stored, rfl⟩ := found
  by_cases selected : (before.monitorId = tx.id && before.status.isActive) = true
  · rw [if_pos (by simpa using selected)]
    rfl
  · rw [if_neg (by simpa using selected)] at same ⊢
    simpa [same] using selected

theorem runtime_other_checks {db : Database} {tx : MonitorTx} {id : CheckId} {row : CheckRow}
    (found : db.checks.get id = some row) (other : row.monitorId ≠ tx.id) :
    (tx.runtimeWrite db).checks.get id = some row := by
  unfold MonitorTx.runtimeWrite
  split
  · simp [cancelRuntime, found, other]
  · exact found

theorem runtime_other_incidents {db : Database} {tx : MonitorTx} {id : IncidentId}
    {row : IncidentRow} (other : row.monitorId ≠ tx.id) :
    (tx.runtimeWrite db).incidents.get id = some row ↔ db.incidents.get id = some row := by
  unfold MonitorTx.runtimeWrite
  split
  · simp only [cancelRuntime, Table.get_update_where, Option.map_eq_some_iff]
    constructor
    · rintro ⟨before, stored, rfl⟩
      by_cases selected : (before.monitorId = tx.id && before.status = .opened) = true
      · rw [if_pos selected] at other
        rw [Bool.and_eq_true, decide_eq_true_eq] at selected
        exact absurd selected.1 other
      · rw [if_neg selected]
        exact stored
    · intro stored
      exact ⟨row, stored, by simp [other]⟩
  · exact Iff.rfl

theorem monitor_commit_ledger {db after : Database} {tx : MonitorTx}
    (consistent : LedgerConsistent db) (written : monitorCommit db tx = some after) :
    LedgerCommit db after (.monitor tx) := by
  obtain ⟨results, _, _, incidents, checks, _, monitors⟩ := monitor_commit_cases written
  have moved : ChecksMoved db.checks after.checks := by
    rw [checks]
    exact runtime_checks_moved db tx
  have lock : ∀ id, (Transaction.monitor tx).locksMonitor id = false → id ≠ tx.id := by
    intro id free same
    simp [Transaction.locksMonitor, same] at free
  have otherMonitors : ∀ id, id ≠ tx.id → after.monitors.get id = db.monitors.get id := by
    intro id other
    rcases monitors with ⟨input, _, _, stored⟩ | ⟨_, stored⟩
    · rw [stored, Table.get_put, if_neg other]
    · rw [stored, Table.get_update_key_other _ _ other]
  refine ⟨?_, ?_, ?_, ?_, ?_, ?_, ?_⟩
  · apply consistent.moved moved
    · intro id row next found nextFound nextActive
      obtain ⟨move⟩ : ∃ _ : CheckMove row next, True := by
        obtain ⟨other, otherFound, move⟩ := (moved id).2 row found
        rw [nextFound, Option.some_inj] at otherFound
        exact ⟨otherFound ▸ move, trivial⟩
      obtain ⟨monitor, stored, isActive, version⟩ :=
        consistent.active id row found (move.active_before nextActive)
      by_cases own : row.monitorId = tx.id
      · rcases monitors with ⟨input, _, absent, _⟩ | ⟨notCreate, updated⟩
        · rw [own, absent] at stored
          cases stored
        · cases change : tx.change.cancels with
          | none =>
              have kept := monitor_write_keeps notCreate change isActive
              refine ⟨tx.monitorWrite monitor, ?_, kept.1, kept.2.trans version⟩
              rw [updated, own, Table.get_update_key_self, ← own, stored]
              rfl
          | some entry =>
              rw [checks] at nextFound
              have idle := runtime_checks_idle (by simp [change]) nextFound
                (move.slot.1.trans own)
              rw [nextActive] at idle
              cases idle
      · rw [otherMonitors _ own]
        exact ⟨monitor, stored, isActive, version⟩
    · intro id result found
      rw [results]
      exact found
    · intro id result found absent
      rw [results, absent] at found
      cases found
    · intro id row next found nextFound active status
      -- `cancelRuntime` cancels, it never completes
      exfalso
      rw [checks] at nextFound
      unfold MonitorTx.runtimeWrite at nextFound
      split at nextFound
      · simp only [cancelRuntime, Table.get_update_where, found, Option.map_some,
          Option.some_inj] at nextFound
        subst nextFound
        split at status
        · cases status
        · simp [status, ScheduledCheckStatus.isActive] at active
      · rw [found, Option.some_inj] at nextFound
        rw [nextFound, status] at active
        cases active
  · intro id row found
    exact (moved id).2 row found
  · intro id free
    exact otherMonitors id (lock id free)
  · intro id row found free
    rw [checks]
    exact runtime_other_checks found (lock _ free)
  · intro id row _ _
    rw [results]
  · intro id row found free
    rw [incidents]
    exact (runtime_other_incidents (lock _ free)).2 found
  · intro id row found free
    rw [incidents] at found
    exact (runtime_other_incidents (lock _ free)).1 found

end LinkAlive
