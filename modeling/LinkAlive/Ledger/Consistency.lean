import LinkAlive.Ledger.Effects

/-!
# Consistency of the check ledger

The invariant of the tables themselves: an active check belongs to an active monitor
and its current configuration, occupies the monitor's only slot and has no result; a
completed check has one.
-/

namespace LinkAlive

open Relational

set_option autoImplicit false

structure LedgerConsistent (db : Database) : Prop where
  rows : ∀ id row, db.checks.get id = some row → row.WellFormed
  active : ∀ id row, db.checks.get id = some row → row.status.isActive = true →
    ∃ monitor, db.monitors.get row.monitorId = some monitor ∧ monitor.isActive = true ∧
      monitor.configVersion = row.configVersion
  single : ∀ id other row otherRow, db.checks.get id = some row →
    db.checks.get other = some otherRow → row.status.isActive = true →
      otherRow.status.isActive = true → row.monitorId = otherRow.monitorId → id = other
  results : ∀ id result, db.results.get id = some result →
    ∃ row, db.checks.get id = some row ∧ row.status.isActive = false
  completed : ∀ id row, db.checks.get id = some row → row.status = .completed →
    ∃ result, db.results.get id = some result

def ChecksMoved (checks moved : Checks) : Prop :=
  ∀ id, (checks.get id = none → moved.get id = none) ∧
    ∀ row, checks.get id = some row → ∃ next, moved.get id = some next ∧ CheckMove row next

theorem checks_moved_refl (checks : Checks) : ChecksMoved checks checks :=
  fun _ => ⟨fun absent => absent, fun row found => ⟨row, found, .kept row⟩⟩

theorem checks_moved_update_where {checks : Checks} {guard : CheckId → CheckRow → Bool}
    {change : CheckId → CheckRow → CheckRow}
    (moves : ∀ id row, checks.get id = some row → guard id row = true →
      CheckMove row (change id row)) : ChecksMoved checks (checks.updateWhere guard change) := by
  intro id
  refine ⟨?_, ?_⟩
  · intro absent
    rw [Table.get_update_where, absent]
    rfl
  · intro row found
    exact check_move_update_where moves found

theorem ChecksMoved.source {checks moved : Checks} (move : ChecksMoved checks moved)
    {id : CheckId} {next : CheckRow} (found : moved.get id = some next) :
    ∃ row, checks.get id = some row ∧ CheckMove row next := by
  cases before : checks.get id with
  | none => simp [(move id).1 before] at found
  | some row =>
      obtain ⟨other, after, moves⟩ := (move id).2 row before
      rw [found, Option.some_inj] at after
      exact ⟨row, rfl, after ▸ moves⟩

/-- Moving rows keeps the ledger consistent, if the rows that stay active keep their
monitor and a row is completed only together with its result. -/
theorem LedgerConsistent.moved {db after : Database} (consistent : LedgerConsistent db)
    (moves : ChecksMoved db.checks after.checks)
    (monitors : ∀ id row next, db.checks.get id = some row → after.checks.get id = some next →
      next.status.isActive = true →
        ∃ monitor, after.monitors.get row.monitorId = some monitor ∧ monitor.isActive = true ∧
          monitor.configVersion = row.configVersion)
    (resultsKept : ∀ id result, db.results.get id = some result →
      after.results.get id = some result)
    (resultsNew : ∀ id result, after.results.get id = some result → db.results.get id = none →
      ∃ next, after.checks.get id = some next ∧ next.status.isActive = false)
    (completedNew : ∀ id row next, db.checks.get id = some row → after.checks.get id = some next →
      row.status.isActive = true → next.status = .completed →
        ∃ result, after.results.get id = some result) :
    LedgerConsistent after := by
  constructor
  · intro id next found
    obtain ⟨row, before, move⟩ := moves.source found
    exact move.wellFormed (consistent.rows id row before)
  · intro id next found active
    obtain ⟨row, before, move⟩ := moves.source found
    obtain ⟨monitor, stored, rest⟩ := monitors id row next before found active
    rw [move.slot.1, move.slot.2.2]
    exact ⟨monitor, stored, rest⟩
  · intro id other next otherNext found otherFound active otherActive same
    obtain ⟨row, before, move⟩ := moves.source found
    obtain ⟨otherRow, otherBefore, otherMove⟩ := moves.source otherFound
    apply consistent.single id other row otherRow before otherBefore
      (move.active_before active) (otherMove.active_before otherActive)
    rw [← move.slot.1, ← otherMove.slot.1, same]
  · intro id result found
    cases old : db.results.get id with
    | none => exact resultsNew id result found old
    | some oldResult =>
        obtain ⟨row, before, terminal⟩ := consistent.results id oldResult old
        obtain ⟨next, found', move⟩ := (moves id).2 row before
        refine ⟨next, found', ?_⟩
        rw [move.terminal terminal, terminal]
  · intro id next found status
    obtain ⟨row, before, move⟩ := moves.source found
    cases active : row.status.isActive with
    | true => exact completedNew id row next before found active status
    | false =>
        rw [move.terminal active] at status
        obtain ⟨result, stored⟩ := consistent.completed id row before status
        exact ⟨result, resultsKept id result stored⟩

def DueView (db : Database) (due : DueMonitor) : Prop :=
  ∃ monitor, db.monitors.get due.id = some monitor ∧ monitor.isActive = true ∧
    monitor.configVersion = due.configVersion

theorem due_monitor_view {db : Database} {now : Time} {id : MonitorId} {due : DueMonitor}
    (found : dueMonitor db now id = some due) : DueView db due := by
  simp only [dueMonitor, Option.bind_eq_bind, Option.bind_eq_some_iff] at found
  obtain ⟨monitor, stored, next, _, chosen⟩ := found
  split at chosen
  · rename_i guards
    rw [Bool.and_eq_true, Bool.and_eq_true] at guards
    cases chosen
    exact ⟨monitor, stored, guards.1.1, rfl⟩
  · cases chosen

theorem has_active_check_eq_false {checks : Checks} {id : MonitorId} :
    hasActiveCheck checks id = false ↔
      ∀ key row, checks.get key = some row → row.monitorId = id → row.status.isActive = false := by
  simp only [hasActiveCheck, Bool.not_eq_false', Table.every_iff, Bool.not_eq_true',
    Bool.and_eq_false_iff, decide_eq_false_iff_not]
  constructor
  · intro every key row found same
    exact (every key row found).resolve_left (by simp [same])
  · intro every key row found
    by_cases same : row.monitorId = id
    · exact Or.inr (every key row found same)
    · exact Or.inl same

theorem insert_check_cases {checks inserted : Checks} {id : CheckId} {row : CheckRow}
    (stored : insertCheck checks id row = some inserted) :
    checks.get id = none ∧ inserted = checks.put id row ∧
      (row.status.isActive = true → hasActiveCheck checks row.monitorId = false) := by
  unfold insertCheck at stored
  split at stored
  · rename_i unique
    rw [Bool.and_eq_true, Bool.not_eq_true', Bool.and_eq_false_iff] at unique
    rw [Table.insert_new_eq_some] at stored
    refine ⟨stored.1, stored.2, ?_⟩
    intro active
    exact unique.2.resolve_left (by simp [active])
  · cases stored

def MonitorRow.unscheduled (row : MonitorRow) : MonitorRow := { row with nextCheckAt := none }

/-- What the loop of `createDueChecks` does outside the new rows. -/
structure DueKept (db after : Database) : Prop where
  results : after.results = db.results
  incidents : after.incidents = db.incidents
  channels : after.channels = db.channels
  bindings : after.bindings = db.bindings
  outbox : after.outbox = db.outbox
  deliveries : after.deliveries = db.deliveries
  checks : ∀ id row, db.checks.get id = some row → after.checks.get id = some row
  monitors : ∀ id, (after.monitors.get id).map MonitorRow.unscheduled =
    (db.monitors.get id).map MonitorRow.unscheduled

theorem DueKept.monitor {db after : Database} (kept : DueKept db after) {id : MonitorId}
    {row : MonitorRow} (found : db.monitors.get id = some row) :
    ∃ next, after.monitors.get id = some next ∧ next.unscheduled = row.unscheduled := by
  have same := kept.monitors id
  rw [found] at same
  cases stored : after.monitors.get id with
  | none => simp [stored] at same
  | some next =>
      refine ⟨next, rfl, ?_⟩
      simpa [stored] using same

theorem unscheduled_state {row other : MonitorRow} (same : row.unscheduled = other.unscheduled) :
    row.isActive = other.isActive ∧ row.state = other.state ∧ row.config = other.config := by
  have active : row.unscheduled.isActive = other.unscheduled.isActive := by rw [same]
  have state : row.unscheduled.state = other.unscheduled.state := by rw [same]
  have config : row.unscheduled.config = other.unscheduled.config := by rw [same]
  exact ⟨active, state, config⟩

theorem DueKept.due_view {db after : Database} (kept : DueKept db after) {due : DueMonitor}
    (view : DueView db due) : DueView after due := by
  obtain ⟨monitor, stored, active, version⟩ := view
  obtain ⟨next, found, same⟩ := kept.monitor stored
  have states := unscheduled_state same
  have versions : next.configVersion = monitor.configVersion :=
    congrArg MonitorState.configVersion states.2.1
  exact ⟨next, found, states.1.trans active, versions.trans version⟩

theorem create_due_check_cases {db after : Database} {now : Time} {due : DueMonitor}
    {id : CheckId} (created : createDueCheck db now due id = some after) :
    after = db ∨ ∃ scheduledAt nextCheckAt,
      coalesceDueScheduledAt due.nextCheckAt due.intervalSec now = .ok (some scheduledAt) ∧
      calculateNextCheckAt scheduledAt due.intervalSec now = .ok nextCheckAt ∧
      db.checks.get id = none ∧ hasActiveCheck db.checks due.id = false ∧
      after = { db with
        checks := db.checks.put id (newCheckRow due scheduledAt)
        monitors := db.monitors.updateKey due.id fun monitor =>
          { monitor with nextCheckAt := some nextCheckAt } } := by
  unfold createDueCheck at created
  split at created
  · cases created
  · cases created
    exact Or.inl rfl
  · rename_i scheduledAt coalesced
    split at created
    · cases created
    · rename_i nextCheckAt computed
      simp only [Option.bind_eq_bind, Option.bind_eq_some_iff] at created
      obtain ⟨checks, stored, created⟩ := created
      cases created
      obtain ⟨absent, rfl, idle⟩ := insert_check_cases stored
      exact Or.inr ⟨scheduledAt, nextCheckAt, coalesced, computed, absent, idle rfl, rfl⟩

theorem due_kept_refl (db : Database) : DueKept db db :=
  ⟨rfl, rfl, rfl, rfl, rfl, rfl, fun _ _ found => found, fun _ => rfl⟩

theorem DueKept.trans {db middle after : Database} (first : DueKept db middle)
    (second : DueKept middle after) : DueKept db after :=
  ⟨second.results.trans first.results, second.incidents.trans first.incidents,
    second.channels.trans first.channels, second.bindings.trans first.bindings,
    second.outbox.trans first.outbox, second.deliveries.trans first.deliveries,
    fun id row found => second.checks id row (first.checks id row found),
    fun id => (second.monitors id).trans (first.monitors id)⟩

theorem create_due_check_kept {db after : Database} {now : Time} {due : DueMonitor}
    {id : CheckId} (created : createDueCheck db now due id = some after) : DueKept db after := by
  rcases create_due_check_cases created with rfl | ⟨scheduledAt, next, _, _, absent, _, rfl⟩
  · exact due_kept_refl after
  · refine ⟨rfl, rfl, rfl, rfl, rfl, rfl, ?_, ?_⟩
    · intro other row found
      rw [Table.get_put]
      split
      · rename_i same
        rw [same, absent] at found
        cases found
      · exact found
    · intro other
      rw [Table.get_update_key]
      split
      · cases db.monitors.get other <;> rfl
      · rfl

/-- The new row of a round occupies the free slot of an active monitor. -/
theorem create_due_check_consistent {db after : Database} {now : Time} {due : DueMonitor}
    {id : CheckId} (consistent : LedgerConsistent db) (view : DueView db due)
    (created : createDueCheck db now due id = some after) : LedgerConsistent after := by
  have kept := create_due_check_kept created
  rcases create_due_check_cases created with rfl | ⟨scheduledAt, next, _, _, absent, idle, rfl⟩
  · exact consistent
  have idleRows := has_active_check_eq_false.1 idle
  have noResult : db.results.get id = none := by
    cases stored : db.results.get id with
    | none => rfl
    | some result =>
        obtain ⟨row, found, _⟩ := consistent.results id result stored
        rw [absent] at found
        cases found
  constructor
  · intro other row found
    rw [Table.get_put] at found
    split at found
    · cases found
      exact new_check_row_well_formed due scheduledAt
    · exact consistent.rows other row found
  · intro other row found active
    rw [Table.get_put] at found
    split at found
    · cases found
      exact kept.due_view view
    · obtain ⟨monitor, stored, isActive, version⟩ := consistent.active other row found active
      obtain ⟨after, afterStored, same⟩ := kept.monitor stored
      have states := unscheduled_state same
      have versions : after.configVersion = monitor.configVersion :=
        congrArg MonitorState.configVersion states.2.1
      exact ⟨after, afterStored, states.1.trans isActive, versions.trans version⟩
  · intro first second row otherRow found otherFound active otherActive same
    rw [Table.get_put] at found otherFound
    split at found <;> split at otherFound
    · rename_i firstNew secondNew
      rw [firstNew, secondNew]
    · cases found
      have busy := idleRows second otherRow otherFound same.symm
      rw [otherActive] at busy
      cases busy
    · cases otherFound
      have busy := idleRows first row found same
      rw [active] at busy
      cases busy
    · exact consistent.single first second row otherRow found otherFound active otherActive same
  · intro other result found
    obtain ⟨row, stored, terminal⟩ := consistent.results other result found
    exact ⟨row, kept.checks other row stored, terminal⟩
  · intro other row found status
    rw [Table.get_put] at found
    split at found
    · cases found
      cases status
    · exact consistent.completed other row found status

/-- The loop of `createDueChecks`. -/
theorem create_due_checks_kept {db after : Database} {now : Time}
    {due : List (DueMonitor × CheckId)} (created : createDueChecks db now due = some after) :
    DueKept db after := by
  induction due generalizing db with
  | nil =>
      cases created
      exact due_kept_refl after
  | cons head rest ih =>
      simp only [createDueChecks, Option.bind_eq_bind, Option.bind_eq_some_iff] at created
      obtain ⟨middle, first, later⟩ := created
      exact (create_due_check_kept first).trans (ih later)

theorem create_due_checks_consistent {db after : Database} {now : Time}
    {due : List (DueMonitor × CheckId)} (consistent : LedgerConsistent db)
    (views : ∀ entry ∈ due, DueView db entry.1)
    (created : createDueChecks db now due = some after) : LedgerConsistent after := by
  induction due generalizing db with
  | nil =>
      cases created
      exact consistent
  | cons head rest ih =>
      obtain ⟨monitor, id⟩ := head
      simp only [createDueChecks, Option.bind_eq_bind, Option.bind_eq_some_iff] at created
      obtain ⟨middle, first, later⟩ := created
      have kept := create_due_check_kept first
      have middleConsistent := create_due_check_consistent consistent
        (views (monitor, id) List.mem_cons_self) first
      apply ih middleConsistent _ later
      intro entry member
      exact kept.due_view (views entry (List.mem_cons_of_mem _ member))

end LinkAlive
