import LinkAlive.Network.Cases
import LinkAlive.Ledger.Steps

/-!
# The ledger under the guards

The guards move the next check of monitors that nobody else has locked. This keeps the
ledger invariant, which therefore holds of every state of the network system.
-/

namespace LinkAlive.Network

set_option autoImplicit false

open Relational

theorem get_schedule_at (monitors : Table MonitorId MonitorRow) (ids : List MonitorId)
    (time : Time) (id : MonitorId) :
    (scheduleAt monitors ids time).get id = (monitors.get id).map fun monitor =>
      if id ∈ ids then { monitor with nextCheckAt := some time } else monitor := by
  simp [scheduleAt, Table.get_update_where]

theorem get_schedule_at_other {monitors : Table MonitorId MonitorRow} {ids : List MonitorId}
    {time : Time} {id : MonitorId} (other : id ∉ ids) :
    (scheduleAt monitors ids time).get id = monitors.get id := by
  simp [get_schedule_at, other]

/-- A guard moves the next checks of some monitors, or nothing. -/
theorem step_guards {config : NetworkConfig} {s after : NetworkSystem} {a : Action}
    (taken : step config s a = some after) (guard : ∀ b, a ≠ .core b) :
    s.clock ≤ after.clock ∧ (after.core = s.core ∨ ∃ ids time, after.core =
      { s.core with
        db := { s.core.db with monitors := scheduleAt s.core.db.monitors ids time } }) := by
  cases step_cases taken with
  | ledger b => exact absurd rfl (guard b)
  | ticked now later => exact ⟨later, .inl rfl⟩
  | committed i inspection probe observer newId resets outages =>
      exact ⟨Nat.le_refl _, .inr ⟨resets, probe.checkedAt, rfl⟩⟩
  | summaryDeferred m tx resets => exact ⟨Nat.le_refl _, .inr ⟨resets, tx.now, rfl⟩⟩
  | summaryReported m tx resets => exact ⟨Nat.le_refl _, .inr ⟨resets, tx.now, rfl⟩⟩
  | saved => exact ⟨Nat.le_refl _, .inl rfl⟩
  | inspected => exact ⟨Nat.le_refl _, .inl rfl⟩
  | advanced => exact ⟨Nat.le_refl _, .inl rfl⟩
  | aborted => exact ⟨Nat.le_refl _, .inl rfl⟩
  | delivered => exact ⟨Nat.le_refl _, .inl rfl⟩
  | restarted => exact ⟨Nat.le_refl _, .inl rfl⟩
  | assessed => exact ⟨Nat.le_refl _, .inl rfl⟩
  | summaryBegun => exact ⟨Nat.le_refl _, .inl rfl⟩
  | summaryReset => exact ⟨Nat.le_refl _, .inl rfl⟩
  | summaryAborted => exact ⟨Nat.le_refl _, .inl rfl⟩

theorem ledger_invariant_rescheduled {s : System} (invariant : LedgerInvariant s)
    {ids : List MonitorId} (time : Time)
    (apart : ∀ t tx id, s.txs.get t = some tx → id ∈ ids → tx.locksMonitor id = false) :
    LedgerInvariant
      { s with db := { s.db with monitors := scheduleAt s.db.monitors ids time } } where
  consistent := by
    refine invariant.consistent.moved (checks_moved_refl s.db.checks) ?_ ?_ ?_ ?_
    · intro id row next found after active
      have same : next = row := Option.some.inj (after.symm.trans found)
      rw [same] at active
      obtain ⟨monitor, stored, isActive, version⟩ := invariant.consistent.active id row found active
      dsimp only
      rw [get_schedule_at, stored, Option.map_some]
      split
      · exact ⟨_, rfl, isActive, version⟩
      · exact ⟨monitor, rfl, isActive, version⟩
    · intro id result found
      exact found
    · intro id result found absent
      rw [absent] at found
      cases found
    · intro id row next found after active status
      have same : next = row := Option.some.inj (after.symm.trans found)
      rw [same] at status
      exact invariant.consistent.completed id row found status
  jobs := invariant.jobs
  views t tx inProgress := by
    apply (invariant.views t tx inProgress).undisturbed
    constructor
    · intro id held
      apply get_schedule_at_other
      intro member
      rw [apart t tx id inProgress member] at held
      cases held
    · intro id row found _
      exact ⟨row, found, .kept row, rfl⟩
    · intro id row _ _
      rfl
    · intro id row found _
      exact found
    · intro id row found _
      exact found
  exclusive := invariant.exclusive

/-- A transaction holds the same monitors from its first statement on. -/
theorem step_monitor_locks {s after : System} {a : LinkAlive.Action}
    (stepped : LinkAlive.Stepped s a after) {t : TxId} {tx next : Transaction}
    (inProgress : s.txs.get t = some tx) (later : after.txs.get t = some next) (id : MonitorId) :
    next.locksMonitor id = tx.locksMonitor id := by
  cases step_tx_source stepped later with
  | stayed same => rw [Option.some.inj (same.symm.trans inProgress)]
  | advanced before moved isPersist earlier advance =>
      subst isPersist
      rw [inProgress] at earlier
      cases earlier
      have monitorId : moved.monitorId = before.monitorId :=
        congrArg CheckRow.monitorId (advance_kept advance).2.2.1
      simp only [Transaction.locksMonitor]
      rw [monitorId]
  | begun jobs attempts unused =>
      rw [inProgress] at unused
      cases unused

structure GuardedLedger (s : NetworkSystem) : Prop where
  ledger : LedgerInvariant s.core
  inspections : ∀ i inspection t tx id, s.inspections.get i = some inspection →
    s.core.txs.get t = some tx → id ∈ inspection.stage.resets → tx.locksMonitor id = false
  summaries : ∀ m summary t tx id, s.summaries.get m = some summary →
    s.core.txs.get t = some tx → id ∈ summary.locked → tx.locksMonitor id = false

theorem monitors_free_core {s : NetworkSystem} {ids : List MonitorId}
    (free : s.monitorsFree ids = true) {t : TxId} {tx : Transaction} {id : MonitorId}
    (inProgress : s.core.txs.get t = some tx) (member : id ∈ ids) :
    tx.locksMonitor id = false := by
  rw [NetworkSystem.monitorsFree, List.all_eq_true] at free
  have both := free id member
  rw [Bool.and_eq_true] at both
  exact System.free_iff.1 both.2 t tx inProgress

theorem advance_resets {s : NetworkSystem} {i : InspectionId} {inspection : Inspection}
    {a : Action} {stage : InspectionStage} (advance : Advance s i inspection a stage)
    {t : TxId} {tx : Transaction} {id : MonitorId} (inProgress : s.core.txs.get t = some tx)
    (member : id ∈ stage.resets) : tx.locksMonitor id = false := by
  cases advance with
  | written probe observer newId resets stage free monitors =>
      exact monitors_free_core monitors inProgress member
  | startProbe => cases member
  | finishProbe => cases member
  | superseded => cases member
  | opened => cases member
  | overtaken => cases member
  | locked => cases member

theorem summary_view_resets {net : NetworkDatabase} {db : Database} {now : Time}
    {outageId : OutageId} {tx : SummaryTx} (viewed : summaryView net db now outageId = some tx) :
    tx.resets = none := by
  simp only [summaryView, Option.bind_eq_bind, Option.bind_eq_some_iff] at viewed
  obtain ⟨outage, -, recoveredAt, -, viewed⟩ := viewed
  split at viewed
  · cases viewed
  · cases viewed
    rfl

theorem GuardedLedger.ledger_step {s after : NetworkSystem} (guarded : GuardedLedger s)
    {core : System} {a : LinkAlive.Action} {config : NetworkConfig}
    (taken : LinkAlive.step s.core a = some core) (admitted : s.admits config core = true)
    (followed : s.follow core a = some after) : GuardedLedger after := by
  obtain ⟨frame, same⟩ := follow_frame followed
  have waited : ∀ t tx, core.txs.get t = some tx →
      (∃ earlier, s.core.txs.get t = some earlier ∧
        ∀ id, tx.locksMonitor id = earlier.locksMonitor id) ∨
      (∀ i inspection id, s.inspections.get i = some inspection →
        id ∈ inspection.stage.resets → tx.locksMonitor id = false) ∧
      ∀ m summary id, s.summaries.get m = some summary → id ∈ summary.locked →
        tx.locksMonitor id = false := by
    intro t tx found
    have here := (Table.every_iff _ _).1 admitted t tx found
    rw [Bool.or_eq_true] at here
    rcases here with present | begun
    · obtain ⟨earlier, inProgress⟩ := Option.isSome_iff_exists.1 present
      exact Or.inl ⟨earlier, inProgress,
        step_monitor_locks (LinkAlive.step_cases taken) inProgress found⟩
    · simp only [Bool.and_eq_true, Table.every_iff, List.all_eq_true, Bool.not_eq_true'] at begun
      refine Or.inr ⟨?_, ?_⟩
      · intro i inspection id stored member
        exact begun.1.1 i inspection stored id member
      · intro m summary id stored member
        exact begun.1.2 m summary stored id member
  constructor
  · rw [same]
    exact ledger_invariant_step guarded.ledger taken
  · rw [same, frame.inspections]
    intro i inspection t tx id stored found member
    rcases waited t tx found with ⟨earlier, inProgress, locks⟩ | ⟨apart, -⟩
    · rw [locks]
      exact guarded.inspections i inspection t earlier id stored inProgress member
    · exact apart i inspection id stored member
  · rw [same, frame.summaries]
    intro m summary t tx id stored found member
    rcases waited t tx found with ⟨earlier, inProgress, locks⟩ | ⟨-, apart⟩
    · rw [locks]
      exact guarded.summaries m summary t earlier id stored inProgress member
    · exact apart m summary id stored member

theorem summary_ledger {s : NetworkSystem} (guarded : GuardedLedger s) {m : SummaryId}
    {tx : SummaryTx} {resets : List MonitorId} (stored : s.summaries.get m = some tx)
    (updated : tx.resets = some resets) : LedgerInvariant (s.afterSummary m tx resets).core := by
  apply ledger_invariant_rescheduled guarded.ledger
  intro t other id inProgress member
  apply guarded.summaries m tx t other id stored inProgress
  rw [SummaryTx.locked, updated]
  exact member

theorem inspection_ledger {s : NetworkSystem} (guarded : GuardedLedger s) {i : InspectionId}
    {inspection : Inspection} {probe : Probe} {observer : NetworkObserverRow} {newId : OutageId}
    {resets : List MonitorId} (active : Option OutageId)
    (outages : Table OutageId NetworkOutageRow) (stored : s.inspections.get i = some inspection)
    (stage : inspection.stage = .written probe observer newId resets) :
    LedgerInvariant (s.afterInspection i inspection probe active resets outages).core := by
  apply ledger_invariant_rescheduled guarded.ledger
  intro t other id inProgress member
  apply guarded.inspections i inspection t other id stored inProgress
  rw [stage]
  exact member

theorem guarded_ledger_step {config : NetworkConfig} {s after : NetworkSystem} {a : Action}
    (guarded : GuardedLedger s) (taken : step config s a = some after) : GuardedLedger after := by
  have stepped := step_cases taken
  have inspections : ∀ i inspection t tx id, after.inspections.get i = some inspection →
      s.core.txs.get t = some tx → id ∈ inspection.stage.resets →
        tx.locksMonitor id = false := by
    intro i inspection t tx id found inProgress member
    cases inspection_source stepped found with
    | kept _ stored => exact guarded.inspections i inspection t tx id stored inProgress member
    | begun => cases member
    | advanced before stage _ advance => exact advance_resets advance inProgress member
    | committed => cases member
  have summaries : ∀ m summary t tx id, after.summaries.get m = some summary →
      s.core.txs.get t = some tx → id ∈ summary.locked → tx.locksMonitor id = false := by
    intro m summary t tx id found inProgress member
    cases summary_tx_source stepped found with
    | kept _ stored => exact guarded.summaries m summary t tx id stored inProgress member
    | begun outageId _ _ viewed =>
        rw [SummaryTx.locked, summary_view_resets viewed] at member
        cases member
    | updated before _ stored free => exact monitors_free_core free inProgress member
  cases stepped with
  | ledger _ core _ stepped _ admitted followed =>
      exact guarded.ledger_step stepped admitted followed
  | committed i inspection probe observer newId resets outages stored stage written =>
      exact ⟨inspection_ledger guarded _ outages stored stage, inspections, summaries⟩
  | summaryDeferred m tx resets stored updated _ =>
      exact ⟨summary_ledger guarded stored updated, inspections, summaries⟩
  | summaryReported m tx resets stored updated _ =>
      exact ⟨summary_ledger guarded stored updated, inspections, summaries⟩
  | _ => exact ⟨guarded.ledger, inspections, summaries⟩

theorem guarded_ledger_initial : GuardedLedger NetworkSystem.initial where
  ledger := ledger_invariant_initial
  inspections i inspection t tx id stored := by cases stored
  summaries m summary t tx id stored := by cases stored

end LinkAlive.Network
