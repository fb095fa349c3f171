import LinkAlive.Ledger.Health
import LinkAlive.Ledger.Writes

/-!
# Who writes a monitor row

A monitor row is written by four commits: the worker records a result, the scheduler
moves the slot, the service creates or administers the monitor. What the service reads
when it locks a row is still there when it commits.
-/

namespace LinkAlive

open Relational

set_option autoImplicit false

/-- What a step has done to a row that it leaves in the table. -/
inductive MonitorRowMove (s : System) (a : Action) (id : MonitorId) (next : MonitorRow) : Prop where
  | kept : s.db.monitors.get id = some next → MonitorRowMove s a id next
  | recorded (t : TxId) (tx : PersistTx) (row : MonitorRow) : a = .commit t →
      s.txs.get t = some (.persist tx) → tx.monitorId = id → s.db.monitors.get id = some row →
        next = tx.monitorWrite row → MonitorRowMove s a id next
  | rescheduled (t : TxId) (tx : CreateDueTx) (row : MonitorRow) : a = .commit t →
      s.txs.get t = some (.createDue tx) → s.db.monitors.get id = some row →
        next.unscheduled = row.unscheduled → (next ≠ row → next.nextCheckAt.isSome = true ∧
          (Transaction.createDue tx).locksMonitor id = true) → MonitorRowMove s a id next
  | created (t : TxId) (tx : MonitorTx) (input : MonitorInput) : a = .commit t →
      s.txs.get t = some (.monitor tx) → tx.id = id → tx.change = .create input →
        s.db.monitors.get id = none → next = newMonitorRow input tx.initialNextCheckAt →
          MonitorRowMove s a id next
  | administered (t : TxId) (tx : MonitorTx) (row : MonitorRow) : a = .commit t →
      s.txs.get t = some (.monitor tx) → tx.id = id → tx.change.isCreate = false →
        s.db.monitors.get id = some row → next = tx.monitorWrite row → MonitorRowMove s a id next

/-- The loop of `createDueChecks` gives a slot to every row that it writes. -/
theorem create_due_checks_slots {db after : Database} {now : Time}
    {due : List (DueMonitor × CheckId)} (created : createDueChecks db now due = some after)
    {id : MonitorId} {row next : MonitorRow} (before : db.monitors.get id = some row)
    (found : after.monitors.get id = some next) (written : next ≠ row) :
    next.nextCheckAt.isSome = true := by
  induction due generalizing db row with
  | nil =>
      cases created
      rw [before, Option.some.injEq] at found
      exact absurd found.symm written
  | cons head rest ih =>
      simp only [createDueChecks, Option.bind_eq_bind, Option.bind_eq_some_iff] at created
      obtain ⟨middle, first, later⟩ := created
      obtain ⟨between, stored, -⟩ := (create_due_check_kept first).monitor before
      by_cases same : next = between
      · subst same
        rcases create_due_check_cases first with rfl | ⟨scheduledAt, slot, _, _, _, _, rfl⟩
        · rw [before, Option.some.injEq] at stored
          exact absurd stored.symm written
        · dsimp only at stored
          rw [Table.get_update_key, before] at stored
          split at stored
          · cases stored
            rfl
          · cases stored
            exact absurd rfl written
      · exact ih later stored same

theorem step_monitor_row {s after : System} {a : Action} (stepped : Stepped s a after)
    {id : MonitorId} {next : MonitorRow} (found : after.db.monitors.get id = some next) :
    MonitorRowMove s a id next := by
  cases step_writes stepped with
  | nothing ledger _ =>
      rw [ledger.monitors] at found
      exact .kept found
  | checks checks jobs _ written =>
      rw [written] at found
      exact .kept found
  | channelCreated _ _ _ _ written =>
      rw [written] at found
      exact .kept found
  | channel t tx _ _ written =>
      rw [written, (channel_commit_same_ledger s.db tx).monitors] at found
      exact .kept found
  | persist t tx action inProgress written =>
      obtain ⟨_, _, _, _, _, _, same⟩ := persist_commit_cases written
      rw [same] at found
      dsimp only at found
      rw [Table.get_update_key] at found
      split at found
      · rename_i own
        obtain ⟨row, before, same⟩ := Option.map_eq_some_iff.1 found
        exact .recorded t tx row action inProgress own.symm before same.symm
      · exact .kept found
  | createDue t tx action inProgress written =>
      have kept := create_due_checks_kept written
      have same := kept.monitors id
      rw [found, Option.map_some] at same
      obtain ⟨row, before, unscheduled⟩ := Option.map_eq_some_iff.1 same.symm
      refine .rescheduled t tx row action inProgress before unscheduled.symm fun changed =>
        ⟨create_due_checks_slots written before found changed, ?_⟩
      cases locked : (Transaction.createDue tx).locksMonitor id with
      | true => rfl
      | false =>
          -- what the round has not locked it has not written
          have untouched : after.db.monitors.get id = s.db.monitors.get id := by
            apply create_due_checks_monitors written
            intro entry member own
            simp only [Transaction.locksMonitor, List.any_eq_false, decide_eq_true_eq] at locked
            exact locked entry member own
          rw [found, before, Option.some.injEq] at untouched
          exact absurd untouched changed
  | monitor t tx action inProgress written =>
      obtain ⟨_, _, _, _, _, _, monitors⟩ := monitor_commit_cases written
      rcases monitors with ⟨input, create, absent, stored⟩ | ⟨notCreate, stored⟩
      · rw [stored, Table.get_put] at found
        split at found
        · rename_i own
          cases found
          subst own
          exact .created t tx input action inProgress rfl create absent rfl
        · exact .kept found
      · rw [stored, Table.get_update_key] at found
        split at found
        · rename_i own
          obtain ⟨row, before, same⟩ := Option.map_eq_some_iff.1 found
          exact .administered t tx row action inProgress own.symm notCreate before same.symm
        · exact .kept found

theorem step_monitor_stays {s after : System} {a : Action} (stepped : Stepped s a after)
    {id : MonitorId} {row : MonitorRow} (found : s.db.monitors.get id = some row) :
    ∃ next, after.db.monitors.get id = some next := by
  have updated : ∀ (key : MonitorId) (change : MonitorRow → MonitorRow),
      ∃ next, (s.db.monitors.updateKey key change).get id = some next := by
    intro key change
    rw [Table.get_update_key, found]
    split
    · exact ⟨_, rfl⟩
    · exact ⟨row, rfl⟩
  cases step_writes stepped with
  | nothing ledger _ =>
      rw [ledger.monitors]
      exact ⟨row, found⟩
  | checks checks jobs _ written =>
      rw [written]
      exact ⟨row, found⟩
  | channelCreated _ _ _ _ written =>
      rw [written]
      exact ⟨row, found⟩
  | channel t tx _ _ written =>
      rw [written, (channel_commit_same_ledger s.db tx).monitors]
      exact ⟨row, found⟩
  | persist t tx _ _ written =>
      obtain ⟨_, _, _, _, _, _, same⟩ := persist_commit_cases written
      rw [same]
      exact updated tx.monitorId tx.monitorWrite
  | createDue t tx _ _ written =>
      obtain ⟨next, stored, _⟩ := (create_due_checks_kept written).monitor found
      exact ⟨next, stored⟩
  | monitor t tx _ _ written =>
      obtain ⟨_, _, _, _, _, _, monitors⟩ := monitor_commit_cases written
      rcases monitors with ⟨input, create, absent, stored⟩ | ⟨notCreate, stored⟩
      · rw [stored, Table.get_put]
        split
        · exact ⟨_, rfl⟩
        · exact ⟨row, found⟩
      · rw [stored]
        exact updated tx.id tx.monitorWrite

def MonitorChange.Reads (change : MonitorChange) (row : MonitorRow) : Prop :=
  match change with
  | .create _ => True
  | .update merged found => row.deletedAt = none ∧
      ∃ url, row.requestUrlEncrypted = .envelope url ∧
        found.isSome = (merged.target.requestUrl ≠ url || merged.config ≠ row.config)
  | .pause _ => row.deletedAt = none ∧ row.lifecycleStatus ≠ .paused
  | .resume => row.deletedAt = none ∧ row.lifecycleStatus ≠ .active
  | .remove _ => row.deletedAt = none

theorem monitor_change_reads {db : Database} {id : MonitorId} {request : MonitorRequest}
    {change : MonitorChange} (changed : monitorChange db id request = some change)
    (notCreate : change.isCreate = false) :
    ∃ row, db.monitors.get id = some row ∧ change.Reads row := by
  unfold monitorChange at changed
  cases request with
  | create input =>
      simp only [Option.ite_none_right_eq_some, Option.some.injEq] at changed
      rw [← changed.2] at notCreate
      cases notCreate
  | update patch =>
      simp only [Option.bind_eq_bind, Option.bind_eq_some_iff] at changed
      obtain ⟨row, stored, changed⟩ := changed
      refine ⟨row, stored, ?_⟩
      split at changed
      · cases changed
      · rename_i url envelope
        split at changed
        · cases changed
        · rename_i present
          cases changed
          simp only [Bool.or_eq_true, not_or, Option.isSome_iff_ne_none, ne_eq,
            Decidable.not_not] at present
          refine ⟨present.1, url, envelope, ?_⟩
          split
          · rename_i differs
            exact differs.symm
          · rename_i same
            exact (Bool.eq_false_iff.2 same).symm
  | pause =>
      simp only [Option.bind_eq_bind, Option.bind_eq_some_iff] at changed
      obtain ⟨row, stored, changed⟩ := changed
      simp only [Option.ite_none_left_eq_some, Bool.or_eq_true, not_or,
        Option.isSome_iff_ne_none, ne_eq, Decidable.not_not, decide_eq_true_eq,
        Option.some.injEq] at changed
      obtain ⟨allowed, rfl⟩ := changed
      exact ⟨row, stored, allowed⟩
  | resume =>
      simp only [Option.bind_eq_bind, Option.bind_eq_some_iff] at changed
      obtain ⟨row, stored, changed⟩ := changed
      simp only [Option.ite_none_left_eq_some, Bool.or_eq_true, not_or,
        Option.isSome_iff_ne_none, ne_eq, Decidable.not_not, decide_eq_true_eq,
        Option.some.injEq] at changed
      obtain ⟨allowed, rfl⟩ := changed
      exact ⟨row, stored, allowed⟩
  | remove =>
      simp only [Option.bind_eq_bind, Option.bind_eq_some_iff] at changed
      obtain ⟨row, stored, changed⟩ := changed
      simp only [Option.ite_none_left_eq_some, Option.isSome_iff_ne_none, ne_eq,
        Decidable.not_not, Option.some.injEq] at changed
      obtain ⟨allowed, rfl⟩ := changed
      exact ⟨row, stored, allowed⟩

/-- What a deletion leaves, and what the operations in progress have read. -/
structure LifecycleInvariant (s : System) : Prop where
  deleted : ∀ id row, s.db.monitors.get id = some row →
    (row.deletedAt.isSome = true ↔ row.lifecycleStatus = .deleted)
  version : ∀ id row, s.db.monitors.get id = some row → 1 ≤ row.configVersion
  reads : ∀ t tx, s.txs.get t = some (.monitor tx) → tx.change.isCreate = false →
    ∃ row, s.db.monitors.get tx.id = some row ∧ tx.change.Reads row

theorem persist_monitor_write_service (tx : PersistTx) (row : MonitorRow) :
    (tx.monitorWrite row).deletedAt = row.deletedAt ∧
      (tx.monitorWrite row).lifecycleStatus = row.lifecycleStatus ∧
      (tx.monitorWrite row).configVersion = row.configVersion := by
  unfold PersistTx.monitorWrite
  cases tx.transition with
  | none => exact ⟨rfl, rfl, rfl⟩
  | some transition =>
      dsimp only
      split <;> split <;> exact ⟨rfl, rfl, rfl⟩

theorem unscheduled_service {row other : MonitorRow} (same : row.unscheduled = other.unscheduled) :
    row.deletedAt = other.deletedAt ∧ row.lifecycleStatus = other.lifecycleStatus ∧
      row.configVersion = other.configVersion := by
  have deletedAt : row.unscheduled.deletedAt = other.unscheduled.deletedAt := by rw [same]
  have states := (unscheduled_state same).2.1
  exact ⟨deletedAt, congrArg MonitorState.lifecycleStatus states,
    congrArg MonitorState.configVersion states⟩

/-- An operation that has read a row leaves it deleted exactly when it removes it. -/
theorem monitor_write_deleted {tx : MonitorTx} {row : MonitorRow}
    (notCreate : tx.change.isCreate = false) (reads : tx.change.Reads row)
    (deleted : row.deletedAt.isSome = true ↔ row.lifecycleStatus = .deleted) :
    ((tx.monitorWrite row).deletedAt.isSome = true ↔
      (tx.monitorWrite row).lifecycleStatus = .deleted) := by
  unfold MonitorTx.monitorWrite
  unfold MonitorChange.Reads at reads
  cases change : tx.change with
  | create input => simp [change, MonitorChange.isCreate] at notCreate
  | update merged found =>
      cases found with
      | none => exact deleted
      | some found => exact deleted
  | pause found =>
      rw [change] at reads
      simp [MonitorRow.paused, MonitorRow.reset, reads.1]
  | resume =>
      rw [change] at reads
      simp [MonitorRow.resumed, MonitorRow.reset, reads.1]
  | remove found => simp [MonitorRow.removed]

theorem monitor_write_version (tx : MonitorTx) (row : MonitorRow) :
    row.configVersion ≤ (tx.monitorWrite row).configVersion := by
  unfold MonitorTx.monitorWrite
  split
  · exact Nat.le_refl _
  · exact Nat.le_refl _
  · exact Nat.le_succ _
  · exact Nat.le_refl _
  · exact Nat.le_refl _
  · exact Nat.le_refl _

theorem lifecycle_invariant_step {s after : System} {a : Action} (ledger : LedgerInvariant s)
    (invariant : LifecycleInvariant s) (taken : step s a = some after) :
    LifecycleInvariant after := by
  have stepped := step_cases taken
  constructor
  · intro id next found
    cases step_monitor_row stepped found with
    | kept before => exact invariant.deleted id next before
    | recorded t tx row _ _ _ before same =>
        have kept := persist_monitor_write_service tx row
        rw [same, kept.1, kept.2.1]
        exact invariant.deleted id row before
    | rescheduled t tx row _ _ before same _ =>
        have kept := unscheduled_service same
        rw [kept.1, kept.2.1]
        exact invariant.deleted id row before
    | created t tx input _ _ _ _ _ same =>
        rw [same]
        simp [newMonitorRow]
    | administered t tx row _ inProgress own notCreate before same =>
        obtain ⟨current, stored, reads⟩ := invariant.reads t tx inProgress notCreate
        rw [own, before, Option.some.injEq] at stored
        subst stored
        rw [same]
        exact monitor_write_deleted notCreate reads (invariant.deleted id row before)
  · intro id next found
    cases step_monitor_row stepped found with
    | kept before => exact invariant.version id next before
    | recorded t tx row _ _ _ before same =>
        rw [same, (persist_monitor_write_service tx row).2.2]
        exact invariant.version id row before
    | rescheduled t tx row _ _ before same _ =>
        rw [(unscheduled_service same).2.2]
        exact invariant.version id row before
    | created t tx input _ _ _ _ _ same =>
        rw [same]
        exact Nat.le_refl 1
    | administered t tx row _ _ _ _ before same =>
        rw [same]
        exact (invariant.version id row before).trans (monitor_write_version tx row)
  · intro t tx later notCreate
    cases step_tx_source stepped later with
    | stayed inProgress =>
        obtain ⟨row, stored, reads⟩ := invariant.reads t tx inProgress notCreate
        have present : (after.txs.get t).isSome = true := by rw [later]; rfl
        have kept := (step_undisturbed ledger stepped inProgress present).monitors tx.id
          (by simp [Transaction.locksMonitor])
        exact ⟨row, kept.trans stored, reads⟩
    | advanced before next isPersist => cases isPersist
    | begun jobs attempts unused begun same =>
        rw [same]
        cases begun with
        | monitor id request change now next changed free =>
            exact monitor_change_reads changed notCreate

theorem lifecycle_invariant_initial : LifecycleInvariant System.initial := by
  constructor
  · intro id row found
    cases found
  · intro id row found
    cases found
  · intro t tx found
    cases found

theorem lifecycle_invariant_reachable {s : System} (reachable : Reachable s) :
    LifecycleInvariant s := by
  apply reachable.invariant_with LedgerInvariant LifecycleInvariant
  · intro state holds
    exact ledger_invariant_reachable holds
  · exact lifecycle_invariant_initial
  · intro state label after ledger invariant taken
    exact lifecycle_invariant_step ledger invariant taken

end LinkAlive
