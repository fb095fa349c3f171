import LinkAlive.Ledger.Consistency

/-!
# The ledger invariant of the system

The tables are consistent, and what the worker processes remember about checks and
monitors is still true: a job's check is where it was, a stale job's check is not
active any more, and a persist transaction's reads are protected by the monitor lock.
-/

namespace LinkAlive

open Relational

set_option autoImplicit false

def JobView (db : Database) : CheckJob → Prop
  | .scheduled id check | .current id check _ | .running id check _ =>
      ∃ row, db.checks.get id = some row ∧ row.SameSlot check
  | .stale id => ∃ row, db.checks.get id = some row ∧ row.status.isActive = false

structure PersistView (db : Database) (tx : PersistTx) : Prop where
  monitor : db.monitors.get tx.monitorId = some tx.monitor
  check : ∃ row, db.checks.get tx.checkId = some row ∧ row.SameSlot tx.check ∧
    row.status.isActive = tx.check.status.isActive
  noResult : db.results.get tx.checkId = none
  status : tx.check.status.isActive = true ∨ tx.check.status = .canceled
  transition : persistTransition tx.check tx.monitor tx.result = some tx.transition

/-- The incident that a persist transaction writes is an open one of its monitor, or a new
one that it opens. -/
def IncidentView (incidents : Table IncidentId IncidentRow) (tx : PersistTx) : Prop :=
  match tx.incident with
  | .none => True
  | .create _ row => row.monitorId = tx.monitorId ∧ row.status = .opened
  | .touch id _ | .resolve id _ =>
      ∃ row, incidents.get id = some row ∧ row.monitorId = tx.monitorId ∧ row.status = .opened

/-- What an operation has found out about the monitor that it has locked. -/
def ChangeView (change : MonitorChange) (row : MonitorRow) : Prop :=
  match change with
  | .resume => row.lifecycleStatus ≠ .active
  | .update merged none => merged.config = row.config
  | _ => True

def TxView (db : Database) : Transaction → Prop
  | .persist tx => PersistView db tx ∧ IncidentView db.incidents tx ∧
      (tx.stage = .begun → tx.incident = .none ∧ tx.outbox = .empty)
  | .createDue tx => ∀ entry ∈ tx.due, DueView db entry.1
  | .monitor tx => ∀ row, db.monitors.get tx.id = some row → ChangeView tx.change row
  | .claim _ | .markSent _ | .channel _ => True

structure LedgerInvariant (s : System) : Prop where
  consistent : LedgerConsistent s.db
  jobs : ∀ job value, s.jobs.get job = some value → JobView s.db value
  views : ∀ t tx, s.txs.get t = some tx → TxView s.db tx
  exclusive : ∀ id, Exclusive (Transaction.locksMonitor id) s

theorem ledger_invariant_initial : LedgerInvariant System.initial := by
  constructor
  · constructor
    · intro id row found
      cases found
    · intro id row found
      cases found
    · intro id other row otherRow found
      cases found
    · intro id result found
      cases found
    · intro id row found
      cases found
  · intro job value found
    cases found
  · intro t tx found
    cases found
  · intro id t u tx ux found
    cases found

theorem IncidentView.created {incidents : Table IncidentId IncidentRow} {tx : PersistTx}
    (view : IncidentView incidents tx) {id : IncidentId} {row : IncidentRow}
    (write : tx.incident = .create id row) : row.monitorId = tx.monitorId ∧ row.status = .opened := by
  unfold IncidentView at view
  rw [write] at view
  exact view

theorem IncidentView.target {incidents : Table IncidentId IncidentRow} {tx : PersistTx}
    (view : IncidentView incidents tx) {id : IncidentId}
    (write : (∃ error, tx.incident = .touch id error) ∨ ∃ time, tx.incident = .resolve id time) :
    ∃ row, incidents.get id = some row ∧ row.monitorId = tx.monitorId ∧ row.status = .opened := by
  unfold IncidentView at view
  rcases write with ⟨error, write⟩ | ⟨time, write⟩ <;> rw [write] at view <;> exact view

theorem IncidentView.moved {incidents after : Table IncidentId IncidentRow} {tx next : PersistTx}
    (view : IncidentView incidents tx) (write : next.incident = tx.incident)
    (monitor : next.monitorId = tx.monitorId)
    (kept : ∀ id row, incidents.get id = some row → row.monitorId = tx.monitorId →
      after.get id = some row) : IncidentView after next := by
  have target : ∀ id, (∃ row, incidents.get id = some row ∧ row.monitorId = tx.monitorId ∧
      row.status = .opened) →
      ∃ row, after.get id = some row ∧ row.monitorId = next.monitorId ∧ row.status = .opened := by
    intro id found
    obtain ⟨row, stored, same, isOpen⟩ := found
    exact ⟨row, kept id row stored same, same.trans monitor.symm, isOpen⟩
  unfold IncidentView at view ⊢
  rw [write]
  cases incident : tx.incident with
  | none => trivial
  | create id row =>
      rw [incident] at view
      rw [monitor]
      exact view
  | touch id error =>
      rw [incident] at view
      exact target id view
  | resolve id time =>
      rw [incident] at view
      exact target id view

/-- `applyIncidentEffect` writes an incident that fits the view. -/
theorem apply_effect_incident_view {db : Database} {tx : PersistTx}
    (untouched : tx.incident = .none) (newIncidentId : IncidentId) :
    IncidentView db.incidents (applyIncidentEffect db tx newIncidentId) := by
  have nothing : IncidentView db.incidents { tx with stage := .done } := by
    simp [IncidentView, untouched]
  unfold applyIncidentEffect
  split
  · exact nothing
  · split
    · rename_i id row found
      exact ⟨row, open_incident_some found⟩
    · exact ⟨rfl, rfl⟩
  · split
    · rename_i id row found
      exact ⟨row, open_incident_some found⟩
    · exact nothing
  · split
    · rename_i id row found
      exact ⟨row, open_incident_some found⟩
    · exact nothing
  · exact nothing

section Views

variable {db after : Database}

theorem JobView.moved {value : CheckJob} (view : JobView db value)
    (moves : ∀ id row, db.checks.get id = some row →
      ∃ next, after.checks.get id = some next ∧ CheckMove row next) : JobView after value := by
  cases value with
  | stale id =>
      obtain ⟨row, found, terminal⟩ := view
      obtain ⟨next, stored, move⟩ := moves id row found
      refine ⟨next, stored, ?_⟩
      rw [move.terminal terminal]
      exact terminal
  | scheduled id check =>
      obtain ⟨row, found, same⟩ := view
      obtain ⟨next, stored, move⟩ := moves id row found
      exact ⟨next, stored, move.slot.trans same⟩
  | current id check monitor =>
      obtain ⟨row, found, same⟩ := view
      obtain ⟨next, stored, move⟩ := moves id row found
      exact ⟨next, stored, move.slot.trans same⟩
  | running id check monitor =>
      obtain ⟨row, found, same⟩ := view
      obtain ⟨next, stored, move⟩ := moves id row found
      exact ⟨next, stored, move.slot.trans same⟩

/-- A persist view survives what does not touch its monitor, its check's activity or its
check's result. -/
theorem PersistView.moved {tx : PersistTx} (view : PersistView db tx)
    (monitor : after.monitors.get tx.monitorId = db.monitors.get tx.monitorId)
    (check : ∀ row, db.checks.get tx.checkId = some row → row.SameSlot tx.check →
      ∃ next, after.checks.get tx.checkId = some next ∧ CheckMove row next ∧
        next.status.isActive = row.status.isActive)
    (result : after.results.get tx.checkId = db.results.get tx.checkId) : PersistView after tx := by
  obtain ⟨row, found, same, active⟩ := view.check
  obtain ⟨next, stored, move, nextActive⟩ := check row found same
  exact ⟨monitor.trans view.monitor, ⟨next, stored, move.slot.trans same, nextActive.trans active⟩,
    result.trans view.noResult, view.status, view.transition⟩

theorem PersistView.advanced {tx next : PersistTx} (view : PersistView db tx)
    (checkId : next.checkId = tx.checkId) (check : next.check = tx.check)
    (monitor : next.monitor = tx.monitor) (result : next.result = tx.result)
    (transition : next.transition = tx.transition) : PersistView db next := by
  obtain ⟨stored, row, noResult, status, computed⟩ := view
  constructor
  · simpa [PersistTx.monitorId, check, monitor] using stored
  · rw [checkId, check]
    exact row
  · rw [checkId]
    exact noResult
  · rw [check]
    exact status
  · rw [check, monitor, result, transition]
    exact computed

end Views

theorem persist_begin_view {db : Database} {id : CheckId} {original : MonitorRow}
    {config : CheckProcessorConfig} {result : MonitorCheckResult} {databaseTime : Time}
    {tx : PersistTx} (consistent : LedgerConsistent db)
    (started : persistBegin db id original config result databaseTime = some tx) :
    PersistView db tx := by
  simp only [persistBegin, Option.bind_eq_bind, Option.bind_eq_some_iff] at started
  obtain ⟨check, found, started⟩ := started
  split at started
  · cases started
  · rename_i noResult
    simp only [Option.bind_eq_some_iff] at started
    obtain ⟨monitor, stored, transition, computed, built⟩ := started
    cases built
    have absent : db.results.get id = none := by simpa using noResult
    refine ⟨stored, ⟨check, found, .rfl, rfl⟩, absent, ?_, computed⟩
    cases status : check.status with
    | completed =>
        obtain ⟨row, recorded⟩ := consistent.completed id check found status
        rw [absent] at recorded
        cases recorded
    | failed => exact absurd status (consistent.rows id check found).notFailed
    | canceled => exact Or.inr rfl
    | pending => exact Or.inl rfl
    | enqueued => exact Or.inl rfl
    | running => exact Or.inl rfl

theorem load_monitor_view {db : Database} {id : CheckId} {check : CheckRow} {loaded : CheckJob}
    (consistent : LedgerConsistent db) (view : JobView db (.scheduled id check))
    (found : loadMonitor db id check = some loaded) : JobView db loaded := by
  obtain ⟨row, stored, same⟩ := view
  simp only [loadMonitor, Option.bind_eq_bind, Option.bind_eq_some_iff] at found
  obtain ⟨monitor, read, found⟩ := found
  split at found
  · cases found
  · split at found
    · rename_i mismatch
      cases found
      refine ⟨row, stored, ?_⟩
      -- an active check would belong to the monitor as it is now
      cases active : row.status.isActive with
      | false => rfl
      | true =>
          obtain ⟨owner, current, isActive, version⟩ := consistent.active id row stored active
          rw [same.1, read, Option.some_inj] at current
          rw [← current, same.2.2] at version
          rw [← current] at isActive
          simp [version, isActive] at mismatch
    · cases found
      exact ⟨row, stored, same⟩

theorem load_check_view {db : Database} {data : CheckJobData} {loaded : CheckJob}
    (found : loadCheck db data = some loaded) : JobView db loaded := by
  simp only [loadCheck, Option.bind_eq_bind, Option.bind_eq_some_iff] at found
  obtain ⟨check, stored, found⟩ := found
  split at found
  · cases found
  · split at found
    · cases found
    · cases found
      exact ⟨check, stored, .rfl⟩

/-- A single statement moves rows and keeps their activity: a stale job finds its check
already canceled. -/
theorem ledger_statement_moves {s : System} {a : Action} {checks : Checks} {jobs : Jobs}
    (statement : LedgerStatement s a checks jobs) (invariant : LedgerInvariant s) (id : CheckId) :
    (s.db.checks.get id = none → checks.get id = none) ∧
      ∀ row, s.db.checks.get id = some row → ∃ next, checks.get id = some next ∧
        CheckMove row next ∧ next.status.isActive = row.status.isActive := by
  have updated : ∀ (guard : CheckId → CheckRow → Bool) (change : CheckId → CheckRow → CheckRow),
      (∀ key row, s.db.checks.get key = some row → guard key row = true →
        CheckMove row (change key row) ∧
          (change key row).status.isActive = row.status.isActive) →
      (s.db.checks.get id = none → (s.db.checks.updateWhere guard change).get id = none) ∧
        ∀ row, s.db.checks.get id = some row →
          ∃ next, (s.db.checks.updateWhere guard change).get id = some next ∧
            CheckMove row next ∧ next.status.isActive = row.status.isActive := by
    intro guard change moves
    refine ⟨?_, ?_⟩
    · intro absent
      simp [absent]
    · intro row found
      rw [Table.get_update_where, found]
      refine ⟨_, rfl, ?_⟩
      by_cases selected : guard id row = true
      · simpa [selected] using moves id row found selected
      · simpa [selected] using CheckMove.kept row
  have activeOf : ∀ {row : CheckRow} {moved : CheckRow}, CheckMove row moved →
      moved.status.isActive = true → moved.status.isActive = row.status.isActive := by
    intro row moved move active
    rw [active, move.active_before active]
  cases statement with
  | claimForDispatch target owner now leaseUntil =>
      apply updated
      intro key row found selected
      rw [Bool.and_eq_true] at selected
      have move := claim_for_dispatch_move owner leaseUntil selected.2
      exact ⟨move, activeOf move rfl⟩
  | markEnqueued target owner now leaseUntil =>
      apply updated
      intro key row found selected
      rw [Bool.and_eq_true] at selected
      have move := mark_enqueued_move target now leaseUntil selected.2
      exact ⟨move, activeOf move rfl⟩
  | releaseDispatchClaim target owner safeReason =>
      apply updated
      intro key row found selected
      rw [Bool.and_eq_true] at selected
      have move := release_dispatch_claim_move (sliceText safeReason 1000) selected.2
      exact ⟨move, activeOf move rfl⟩
  | loadCheck => exact ⟨fun absent => absent, fun row found => ⟨row, found, .kept row, rfl⟩⟩
  | loadMonitor => exact ⟨fun absent => absent, fun row found => ⟨row, found, .kept row, rfl⟩⟩
  | cancelStale job target now stale =>
      apply updated
      intro key row found selected
      rw [Bool.and_eq_true, decide_eq_true_eq] at selected
      obtain ⟨current, stored, terminal⟩ := invariant.jobs job _ stale
      rw [← selected.1, found, Option.some_inj] at stored
      rw [← stored, selected.2] at terminal
      cases terminal
  | claimCheck job target check monitor owner leaseMs now current =>
      apply updated
      intro key row found selected
      rw [Bool.and_eq_true] at selected
      have move := claim_check_move owner (now + leaseMs) selected.2
      exact ⟨move, activeOf move rfl⟩

end LinkAlive
