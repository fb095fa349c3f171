import LinkAlive.Api.Staleness
import LinkAlive.Ledger.MonitorRows
import LinkAlive.Network.Slots

/-!
# Scheduled monitors

A monitor has a next check exactly while it is active. The guards move the next check of
monitors that they have found active, or scheduled, and hold their locks until they commit.
-/

namespace LinkAlive.Network

set_option autoImplicit false

open Relational

def ActiveMonitor (db : Database) (id : MonitorId) : Prop :=
  ∃ row, db.monitors.get id = some row ∧ row.isActive = true

def Schedulable : MonitorChange → Prop
  | .create input => ∃ intervalMs, intervalToMilliseconds input.config.intervalSec = .ok intervalMs
  | .update merged _ =>
      ∃ intervalMs, intervalToMilliseconds merged.config.intervalSec = .ok intervalMs
  | .pause _ | .resume | .remove _ => True

structure RowScheduled (row : MonitorRow) : Prop where
  exactly : row.nextCheckAt.isSome = true ↔ row.isActive = true
  interval : ∃ intervalMs, intervalToMilliseconds row.config.intervalSec = .ok intervalMs

structure ScheduleInvariant (s : NetworkSystem) : Prop where
  guarded : GuardedLedger s
  lifecycle : LifecycleInvariant s.core
  rows : ∀ id row, s.core.db.monitors.get id = some row → RowScheduled row
  services : ∀ t tx, s.core.txs.get t = some (.monitor tx) → Schedulable tx.change
  inspections : ∀ i inspection id, s.inspections.get i = some inspection →
    id ∈ inspection.stage.resets → ActiveMonitor s.core.db id
  summaries : ∀ m summary id, s.summaries.get m = some summary → id ∈ summary.locked →
    ActiveMonitor s.core.db id

theorem ScheduleInvariant.scheduled {s : NetworkSystem} (inv : ScheduleInvariant s) :
    Scheduled s.core.db where
  exactly id row stored := (inv.rows id row stored).exactly
  deleted := inv.lifecycle.deleted
  intervals id row stored := (inv.rows id row stored).interval

theorem initial_next_check_interval {monitorId : String} {intervalSec : Nat} {now next : Time}
    (computed : calculateInitialNextCheckAt monitorId intervalSec now = .ok next) :
    ∃ intervalMs, intervalToMilliseconds intervalSec = .ok intervalMs := by
  simp only [calculateInitialNextCheckAt, bind, Except.bind] at computed
  split at computed
  · cases computed
  · rename_i intervalMs converted
    exact ⟨intervalMs, converted⟩

theorem schedules_schedulable {config : NetworkConfig} {db : Database} {tx : MonitorTx}
    (computed : schedules config db tx = true) : Schedulable tx.change := by
  unfold schedules at computed
  unfold Schedulable
  split
  · rename_i input create
    simp only [create] at computed
    split at computed
    · rename_i next calculated
      exact initial_next_check_interval calculated
    · cases computed
  · rename_i merged found update
    simp only [update] at computed
    split at computed
    · rename_i next calculated
      exact initial_next_check_interval calculated
    · cases computed
  · trivial
  · trivial
  · trivial

theorem RowScheduled.kept {row next : MonitorRow} (scheduled : RowScheduled row)
    (lifecycle : next.lifecycleStatus = row.lifecycleStatus)
    (deletedAt : next.deletedAt = row.deletedAt) (planned : next.nextCheckAt = row.nextCheckAt)
    (interval : next.config.intervalSec = row.config.intervalSec) : RowScheduled next := by
  constructor
  · rw [planned, MonitorRow.isActive, lifecycle, deletedAt]
    exact scheduled.exactly
  · rw [interval]
    exact scheduled.interval

theorem RowScheduled.monitor_write {tx : MonitorTx} {row : MonitorRow}
    (scheduled : RowScheduled row) (notCreate : tx.change.isCreate = false)
    (reads : tx.change.Reads row) (allowed : Schedulable tx.change) :
    RowScheduled (tx.monitorWrite row) := by
  unfold MonitorTx.monitorWrite
  cases change : tx.change with
  | create input => simp [change, MonitorChange.isCreate] at notCreate
  | update merged found =>
      rw [change] at reads allowed
      cases found with
      | none =>
          constructor
          · exact scheduled.exactly
          · exact allowed
      | some found =>
          constructor
          · have present : row.deletedAt = none := reads.1
            simp only [MonitorRow.reconfigured, MonitorRow.reset, MonitorRow.edited,
              MonitorRow.isActive, present]
            split
            · rename_i active
              simp [active]
            · rename_i idle
              simp [idle]
          · exact allowed
  | pause found =>
      constructor
      · simp [MonitorRow.paused, MonitorRow.isActive]
      · exact scheduled.interval
  | resume =>
      rw [change] at reads
      have present : row.deletedAt = none := reads.1
      constructor
      · simp [MonitorRow.resumed, MonitorRow.reset, MonitorRow.isActive, present]
      · exact scheduled.interval
  | remove found =>
      constructor
      · simp [MonitorRow.removed, MonitorRow.isActive]
      · exact scheduled.interval

theorem step_row_scheduled {s after : System} {a : LinkAlive.Action} (ledger : LedgerInvariant s)
    (lifecycle : LifecycleInvariant s)
    (rows : ∀ id row, s.db.monitors.get id = some row → RowScheduled row)
    (services : ∀ t tx, s.txs.get t = some (.monitor tx) → Schedulable tx.change)
    (stepped : LinkAlive.Stepped s a after) {id : MonitorId} {next : MonitorRow}
    (found : after.db.monitors.get id = some next) : RowScheduled next := by
  cases step_monitor_row stepped found with
  | kept before => exact rows id next before
  | recorded t tx row _ _ _ before same =>
      have service := persist_monitor_write_service tx row
      have schedule := persist_monitor_schedule tx row
      simp only [MonitorRow.schedule, Prod.mk.injEq] at schedule
      rw [same]
      exact (rows id row before).kept service.2.1 service.1 schedule.1 schedule.2.1
  | rescheduled t tx row _ inProgress before same written =>
      by_cases kept : next = row
      · rw [kept]
        exact rows id row before
      · obtain ⟨planned, locked⟩ := written kept
        have view : ∀ entry ∈ tx.due, DueView s.db entry.1 := ledger.views t _ inProgress
        simp only [Transaction.locksMonitor, List.any_eq_true, decide_eq_true_eq] at locked
        obtain ⟨entry, member, own⟩ := locked
        obtain ⟨monitor, stored, active, _⟩ := view entry member
        rw [own, before, Option.some.injEq] at stored
        subst stored
        have service := unscheduled_service same
        have config : next.unscheduled.config = row.unscheduled.config := by rw [same]
        constructor
        · rw [MonitorRow.isActive, service.1, service.2.1]
          exact iff_of_true planned active
        · rw [show next.config = row.config from config]
          exact (rows id row before).interval
  | created t tx input _ inProgress _ change _ same =>
      have allowed := services t tx inProgress
      rw [change] at allowed
      rw [same]
      constructor
      · simp [newMonitorRow, MonitorRow.isActive]
      · exact allowed
  | administered t tx row _ inProgress own notCreate before same =>
      obtain ⟨current, stored, reads⟩ := lifecycle.reads t tx inProgress notCreate
      rw [own, before, Option.some.injEq] at stored
      subst stored
      rw [same]
      exact (rows id row before).monitor_write notCreate reads (services t tx inProgress)

theorem step_unlocked_monitor {s after : System} {a : LinkAlive.Action} (ledger : LedgerInvariant s)
    (stepped : LinkAlive.Stepped s a after) {id : MonitorId}
    (free : ∀ t tx, s.txs.get t = some tx → tx.locksMonitor id = false) :
    after.db.monitors.get id = s.db.monitors.get id := by
  cases stepped with
  | committed t tx db attempts events inProgress commit =>
      exact (tx_commit_ledger ledger inProgress commit).monitors id (free t tx inProgress)
  | channel => rfl
  | ledger => rfl
  | began => rfl
  | advanced => rfl
  | failed => rw [(mark_failed_same_ledger _ _ _ _ _).monitors]
  | dispatcher => rfl
  | aborted => rfl

theorem write_inspection_active {s after : NetworkSystem} {i : InspectionId} {newId : OutageId}
    {inspection : Inspection} (taken : s.writeInspection i newId inspection = some after) :
    ∃ stage, after = s.setStage i inspection stage ∧
      ∀ id ∈ stage.resets, ActiveMonitor s.core.db id := by
  unfold NetworkSystem.writeInspection at taken
  split at taken
  · split at taken
    · cases taken
      exact ⟨_, rfl, fun id member => nomatch member⟩
    · simp only [Option.ite_none_right_eq_some, Option.some.injEq] at taken
      refine ⟨_, taken.2.symm, ?_⟩
      intro id member
      simp only [InspectionStage.resets, resetTargets, List.mem_map, Prod.exists,
        Table.mem_select, Bool.and_eq_true] at member
      obtain ⟨_, row, ⟨stored, active, _⟩, rfl⟩ := member
      exact ⟨row, stored, active⟩
  · cases taken

/-- A monitor that an inspection is about to reset was so before, or has just been found
active. -/
theorem step_resets {config : NetworkConfig} {s after : NetworkSystem} {a : Action}
    (taken : step config s a = some after) {i : InspectionId} {inspection : Inspection}
    {id : MonitorId} (found : after.inspections.get i = some inspection)
    (member : id ∈ inspection.stage.resets) :
    (∃ earlier, s.inspections.get i = some earlier ∧ id ∈ earlier.stage.resets) ∨
      ActiveMonitor s.core.db id := by
  cases inspection_source (step_cases taken) found with
  | kept _ stored => exact .inl ⟨inspection, stored, member⟩
  | begun => cases member
  | committed => cases member
  | advanced before stage stored advance =>
      cases advance with
      | written probe observer newId resets known outages monitors =>
          simp only [step, NetworkSystem.advance, stored, Option.bind_some] at taken
          obtain ⟨stage, same, active⟩ := write_inspection_active taken
          rw [same, NetworkSystem.setStage, Table.get_put, if_pos rfl] at found
          cases found
          exact .inr (active id member)
      | _ => cases member

theorem summary_targets_active {db : Database}
    (rows : ∀ id row, db.monitors.get id = some row → RowScheduled row) {tx : SummaryTx}
    {id : MonitorId} (member : id ∈ tx.targets db.monitors) : ActiveMonitor db id := by
  simp only [SummaryTx.targets, List.mem_map, Prod.exists, Table.mem_select, Bool.and_eq_true,
    Option.any_eq_true] at member
  obtain ⟨_, row, ⟨stored, _, next, planned, _⟩, rfl⟩ := member
  refine ⟨row, stored, (rows _ row stored).exactly.1 ?_⟩
  rw [planned]
  rfl

theorem get_schedule_at_source {monitors : Table MonitorId MonitorRow} {ids : List MonitorId}
    {time : Time} {id : MonitorId} {next : MonitorRow}
    (found : (scheduleAt monitors ids time).get id = some next) :
    ∃ row, monitors.get id = some row ∧ next.unscheduled = row.unscheduled ∧
      (next = row ∨ id ∈ ids ∧ next.nextCheckAt = some time) := by
  rw [get_schedule_at, Option.map_eq_some_iff] at found
  obtain ⟨row, stored, same⟩ := found
  refine ⟨row, stored, ?_⟩
  split at same
  · rename_i member
    rw [← same]
    exact ⟨rfl, .inr ⟨member, rfl⟩⟩
  · rw [same]
    exact ⟨rfl, .inl rfl⟩

/-- What an operation has read does not depend on the next check. -/
theorem reads_unscheduled {change : MonitorChange} {row next : MonitorRow}
    (reads : change.Reads row) (same : next.unscheduled = row.unscheduled) : change.Reads next := by
  have deletedAt : next.unscheduled.deletedAt = row.unscheduled.deletedAt := by rw [same]
  have status : next.unscheduled.lifecycleStatus = row.unscheduled.lifecycleStatus := by rw [same]
  have url : next.unscheduled.requestUrlEncrypted = row.unscheduled.requestUrlEncrypted := by
    rw [same]
  have config : next.unscheduled.config = row.unscheduled.config := by rw [same]
  simp only [MonitorRow.unscheduled] at deletedAt status url config
  unfold MonitorChange.Reads at reads ⊢
  rw [deletedAt, status, url, config]
  exact reads

theorem ScheduleInvariant.rescheduled {s after : NetworkSystem} (inv : ScheduleInvariant s)
    (guarded : GuardedLedger after) {ids : List MonitorId} {time : Time}
    (db : after.core.db = { s.core.db with monitors := scheduleAt s.core.db.monitors ids time })
    (txs : after.core.txs = s.core.txs) (active : ∀ id ∈ ids, ActiveMonitor s.core.db id)
    (inspections : ∀ i inspection id, after.inspections.get i = some inspection →
      id ∈ inspection.stage.resets → ActiveMonitor s.core.db id)
    (summaries : ∀ m summary id, after.summaries.get m = some summary → id ∈ summary.locked →
      ActiveMonitor s.core.db id) : ScheduleInvariant after := by
  have monitors : after.core.db.monitors = scheduleAt s.core.db.monitors ids time := by rw [db]
  have stays : ∀ id, ActiveMonitor s.core.db id → ActiveMonitor after.core.db id := by
    rintro id ⟨row, stored, isActive⟩
    rw [ActiveMonitor, monitors, get_schedule_at, stored, Option.map_some]
    split
    · exact ⟨_, rfl, isActive⟩
    · exact ⟨row, rfl, isActive⟩
  refine ⟨guarded, ⟨?_, ?_, ?_⟩, ?_, ?_, ?_, ?_⟩
  · intro id next found
    rw [monitors] at found
    obtain ⟨row, stored, same, _⟩ := get_schedule_at_source found
    have service := unscheduled_service same
    rw [service.1, service.2.1]
    exact inv.lifecycle.deleted id row stored
  · intro id next found
    rw [monitors] at found
    obtain ⟨row, stored, same, _⟩ := get_schedule_at_source found
    rw [(unscheduled_service same).2.2]
    exact inv.lifecycle.version id row stored
  · intro t tx inProgress notCreate
    rw [txs] at inProgress
    obtain ⟨row, stored, reads⟩ := inv.lifecycle.reads t tx inProgress notCreate
    rw [monitors, get_schedule_at, stored, Option.map_some]
    refine ⟨_, rfl, reads_unscheduled reads ?_⟩
    split <;> rfl
  · intro id next found
    rw [monitors] at found
    obtain ⟨row, stored, same, kept | ⟨member, planned⟩⟩ := get_schedule_at_source found
    · rw [kept]
      exact inv.rows id row stored
    · obtain ⟨current, here, isActive⟩ := active id member
      rw [stored, Option.some.injEq] at here
      subst here
      have service := unscheduled_service same
      have config : next.unscheduled.config = row.unscheduled.config := by rw [same]
      constructor
      · rw [planned, MonitorRow.isActive, service.1, service.2.1]
        exact iff_of_true rfl isActive
      · rw [show next.config = row.config from config]
        exact (inv.rows id row stored).interval
  · intro t tx inProgress
    rw [txs] at inProgress
    exact inv.services t tx inProgress
  · intro i inspection id found member
    exact stays id (inspections i inspection id found member)
  · intro m summary id found member
    exact stays id (summaries m summary id found member)

theorem ScheduleInvariant.of_same {s after : NetworkSystem} (inv : ScheduleInvariant s)
    (guarded : GuardedLedger after) (core : after.core = s.core)
    (inspections : ∀ i inspection id, after.inspections.get i = some inspection →
      id ∈ inspection.stage.resets → ActiveMonitor s.core.db id)
    (summaries : ∀ m summary id, after.summaries.get m = some summary → id ∈ summary.locked →
      ActiveMonitor s.core.db id) : ScheduleInvariant after := by
  refine ⟨guarded, ?_, ?_, ?_, ?_, ?_⟩
  · rw [core]
    exact inv.lifecycle
  · rw [core]
    exact inv.rows
  · rw [core]
    exact inv.services
  · rw [core]
    exact inspections
  · rw [core]
    exact summaries

theorem ScheduleInvariant.ledger_step {config : NetworkConfig} {s after : NetworkSystem}
    {core : System} {a : LinkAlive.Action} (inv : ScheduleInvariant s)
    (guarded : GuardedLedger after) (taken : LinkAlive.step s.core a = some core)
    (admitted : s.admits config core = true) (followed : s.follow core a = some after) :
    ScheduleInvariant after := by
  obtain ⟨frame, same⟩ := follow_frame followed
  have ledger := inv.guarded.ledger
  have stepped := LinkAlive.step_cases taken
  refine ⟨guarded, ?_, ?_, ?_, ?_, ?_⟩
  · rw [same]
    exact lifecycle_invariant_step ledger inv.lifecycle taken
  · rw [same]
    intro id next found
    exact step_row_scheduled ledger inv.lifecycle inv.rows inv.services stepped found
  · rw [same]
    intro t tx found
    cases step_tx_source stepped found with
    | stayed inProgress => exact inv.services t tx inProgress
    | advanced before next isPersist => cases isPersist
    | begun jobs attempts unused begun unwritten =>
        have admittedHere := (Table.every_iff _ _).1 admitted t _ found
        simp only [unused, Option.isSome_none, Bool.false_or, Bool.and_eq_true] at admittedHere
        exact schedules_schedulable admittedHere.2
  · rw [same, frame.inspections]
    intro i inspection id found member
    have free : ∀ t tx, s.core.txs.get t = some tx → tx.locksMonitor id = false :=
      fun t tx inProgress => inv.guarded.inspections i inspection t tx id found inProgress member
    rw [ActiveMonitor, step_unlocked_monitor ledger stepped free]
    exact inv.inspections i inspection id found member
  · rw [same, frame.summaries]
    intro m summary id found member
    have free : ∀ t tx, s.core.txs.get t = some tx → tx.locksMonitor id = false :=
      fun t tx inProgress => inv.guarded.summaries m summary t tx id found inProgress member
    rw [ActiveMonitor, step_unlocked_monitor ledger stepped free]
    exact inv.summaries m summary id found member

theorem schedule_invariant_step {config : NetworkConfig} {s after : NetworkSystem} {a : Action}
    (inv : ScheduleInvariant s) (taken : step config s a = some after) :
    ScheduleInvariant after := by
  have guarded := guarded_ledger_step inv.guarded taken
  have inspections : ∀ i inspection id, after.inspections.get i = some inspection →
      id ∈ inspection.stage.resets → ActiveMonitor s.core.db id := by
    intro i inspection id found member
    rcases step_resets taken found member with ⟨earlier, before, held⟩ | active
    · exact inv.inspections i earlier id before held
    · exact active
  have summaries : ∀ m summary id, after.summaries.get m = some summary →
      id ∈ summary.locked → ActiveMonitor s.core.db id := by
    intro m summary id found member
    cases summary_tx_source (step_cases taken) found with
    | kept _ stored => exact inv.summaries m summary id stored member
    | begun outageId _ _ viewed =>
        rw [SummaryTx.locked, summary_view_resets viewed] at member
        cases member
    | updated before _ stored => exact summary_targets_active inv.rows member
  cases step_cases taken with
  | ledger _ core _ stepped _ admitted followed =>
      exact inv.ledger_step guarded stepped admitted followed
  | committed i inspection probe observer newId resets outages stored stage written =>
      refine inv.rescheduled guarded rfl rfl ?_ inspections summaries
      intro id member
      apply inv.inspections i inspection id stored
      rw [stage]
      exact member
  | summaryDeferred m tx resets stored updated _ =>
      refine inv.rescheduled guarded rfl rfl ?_ inspections summaries
      intro id member
      apply inv.summaries m tx id stored
      rw [SummaryTx.locked, updated]
      exact member
  | summaryReported m tx resets stored updated _ =>
      refine inv.rescheduled guarded rfl rfl ?_ inspections summaries
      intro id member
      apply inv.summaries m tx id stored
      rw [SummaryTx.locked, updated]
      exact member
  | _ => exact inv.of_same guarded rfl inspections summaries

theorem schedule_invariant_initial : ScheduleInvariant NetworkSystem.initial where
  guarded := guarded_ledger_initial
  lifecycle := lifecycle_invariant_initial
  rows id row stored := by cases stored
  services t tx inProgress := by cases inProgress
  inspections i inspection id stored := by cases stored
  summaries m summary id stored := by cases stored

def ScheduledWhenActive (db : Database) : Prop :=
  ∀ id row, db.monitors.get id = some row →
    (row.nextCheckAt.isSome = true ↔ row.lifecycleStatus = .active ∧ row.deletedAt = none)

/-- A monitor is scheduled exactly when it is active, and all staleness computations
agree. -/
theorem scheduled_exactly_when_active {config : NetworkConfig} {s : NetworkSystem}
    (reachable : Reachable config s) :
    ScheduledWhenActive s.core.db ∧ ∀ now, StalenessAgrees s.core.db now := by
  have inv : ScheduleInvariant s := reachable.invariant ScheduleInvariant
    schedule_invariant_initial fun _ _ _ inv taken => schedule_invariant_step inv taken
  constructor
  · intro id row stored
    rw [(inv.rows id row stored).exactly, MonitorRow.isActive, Bool.and_eq_true,
      decide_eq_true_eq, Option.isNone_iff_eq_none]
  · exact fun now => staleness_agrees inv.scheduled now

/-- Monitor 1 six minutes after its first slot. -/
theorem scheduled_exactly_when_active_sample :
    ∃ s : NetworkSystem, (ScheduledWhenActive s.core.db ∧ ∀ now, StalenessAgrees s.core.db now) ∧
      staleIds s.core.db 430000 = .ok [1] := by
  obtain ⟨s, reachable, stale⟩ := Script.reachable (Script.createMonitor 61257)
    (fun s => decide (staleIds s.core.db 430000 = .ok [1])) (by decide +kernel)
  exact ⟨s, scheduled_exactly_when_active reachable, of_decide_eq_true stale⟩

end LinkAlive.Network
