import LinkAlive.Foundation.Sql
import LinkAlive.Ledger.Steps
import LinkAlive.Ledger.Writes

/-!
# Who writes an incident

The worker creates, touches and resolves the open incident of a monitor; the service
cancels it. Every row of `incidents` comes from one of these writes, and each of them keeps
the CHECK constraints of the table as long as its time is not before the detection.
-/

namespace LinkAlive

open Relational

set_option autoImplicit false

/-- What a step has done to an incident that it leaves in the table. -/
inductive IncidentRowMove (s : System) (a : Action) (id : IncidentId) (next : IncidentRow) : Prop
    where
  | kept : s.db.incidents.get id = some next → IncidentRowMove s a id next
  | created (t : TxId) (tx : PersistTx) : a = .commit t → s.txs.get t = some (.persist tx) →
      tx.incident = .create id next → s.db.incidents.get id = none → IncidentRowMove s a id next
  | touched (t : TxId) (tx : PersistTx) (row : IncidentRow) (error : Option CheckErrorType) :
      a = .commit t → s.txs.get t = some (.persist tx) → tx.incident = .touch id error →
      s.db.incidents.get id = some row → row.monitorId = tx.monitorId → row.status = .opened →
        next = { row with lastErrorType := error } → IncidentRowMove s a id next
  | resolved (t : TxId) (tx : PersistTx) (row : IncidentRow) (time : Time) :
      a = .commit t → s.txs.get t = some (.persist tx) → tx.incident = .resolve id time →
      s.db.incidents.get id = some row → row.monitorId = tx.monitorId → row.status = .opened →
        next = row.resolved time → IncidentRowMove s a id next
  | canceled (t : TxId) (tx : MonitorTx) (row : IncidentRow) (reason : IncidentClosureReason)
      (found : List (OutboxKey × Nat)) : a = .commit t → s.txs.get t = some (.monitor tx) →
      tx.change.cancels = some (reason, found) → s.db.incidents.get id = some row →
      row.monitorId = tx.id → row.status = .opened → next = row.canceled tx.now reason →
        IncidentRowMove s a id next

theorem persist_incident_row {s : System} {t : TxId} {tx : PersistTx}
    {incidents : Table IncidentId IncidentRow} (concerns : IncidentView s.db.incidents tx)
    (inProgress : s.txs.get t = some (.persist tx))
    (applied : tx.incident.apply s.db.incidents = some incidents) {id : IncidentId}
    {next : IncidentRow} (found : incidents.get id = some next) :
    IncidentRowMove s (.commit t) id next := by
  cases incident_write_cases applied id with
  | kept same => exact .kept (same.symm.trans found)
  | created row write absent stored =>
      rw [found, Option.some_inj] at stored
      subst stored
      exact .created t tx rfl inProgress write absent
  | touched row error write before stored =>
      rw [found, Option.some_inj] at stored
      obtain ⟨opened, target, owner, isOpen⟩ := concerns.target (.inl ⟨error, write⟩)
      rw [before, Option.some_inj] at target
      subst target
      exact .touched t tx row error rfl inProgress write before owner isOpen stored
  | resolved row time write before stored =>
      rw [found, Option.some_inj] at stored
      obtain ⟨opened, target, owner, isOpen⟩ := concerns.target (.inr ⟨time, write⟩)
      rw [before, Option.some_inj] at target
      subst target
      exact .resolved t tx row time rfl inProgress write before owner isOpen stored

theorem runtime_incident_row {s : System} {t : TxId} {tx : MonitorTx}
    (inProgress : s.txs.get t = some (.monitor tx)) {id : IncidentId} {next : IncidentRow}
    (found : (tx.runtimeWrite s.db).incidents.get id = some next) :
    IncidentRowMove s (.commit t) id next := by
  unfold MonitorTx.runtimeWrite at found
  split at found
  · rename_i reason attempts cancels
    simp only [cancelRuntime, Table.get_update_where, Option.map_eq_some_iff] at found
    obtain ⟨row, before, stored⟩ := found
    split at stored
    · rename_i selected
      rw [Bool.and_eq_true, decide_eq_true_eq, decide_eq_true_eq] at selected
      exact .canceled t tx row reason attempts rfl inProgress cancels before selected.1 selected.2
        stored.symm
    · rw [← stored]
      exact .kept before
  · exact .kept found

theorem step_incident_row {s after : System} {a : Action} (ledger : LedgerInvariant s)
    (stepped : Stepped s a after) {id : IncidentId} {next : IncidentRow}
    (found : after.db.incidents.get id = some next) : IncidentRowMove s a id next := by
  cases step_writes stepped with
  | nothing ledger _ =>
      rw [ledger.incidents] at found
      exact .kept found
  | checks checks jobs _ written =>
      rw [written] at found
      exact .kept found
  | channelCreated _ _ _ _ written =>
      rw [written] at found
      exact .kept found
  | persist t tx action inProgress written =>
      subst action
      have view := ledger.views t _ inProgress
      obtain ⟨_, incidents, _, _, applied, _, same⟩ := persist_commit_cases written
      rw [same] at found
      exact persist_incident_row view.2.1 inProgress applied found
  | createDue t tx _ _ written =>
      rw [(create_due_checks_kept written).incidents] at found
      exact .kept found
  | monitor t tx action inProgress written =>
      subst action
      rw [(monitor_commit_cases written).2.2.2.1] at found
      exact runtime_incident_row inProgress found
  | channel t tx _ _ written =>
      rw [written, (channel_commit_same_ledger s.db tx).incidents] at found
      exact .kept found

section Constraints

open Sql

variable (row : IncidentRow)

def IncidentRow.configVersionCheck : Truth := some (decide (1 ≤ row.configVersion))

def IncidentRow.detectionOrderCheck : Truth := some (decide (row.firstFailureAt ≤ row.detectedAt))

/-- The two closed branches of `incidents_closure_check`. -/
def IncidentRow.closedCheck (status : IncidentStatus) (closedAt otherAt : Option Time)
    (reasons : List IncidentClosureReason) : Truth :=
  .all
    [some (decide (row.status = status)),
      (isNull closedAt).negate,
      compare (fun closed detected : Time => decide (detected ≤ closed)) closedAt
        (some row.detectedAt),
      isNull otherAt,
      row.closureReason.map fun reason => decide (reason ∈ reasons)]

def IncidentRow.closureCheck : Truth :=
  .either
    (.all
      [some (decide (row.status = .opened)), isNull row.resolvedAt, isNull row.canceledAt,
        isNull row.closureReason])
    (.either
      (row.closedCheck .resolved row.resolvedAt row.canceledAt [.recovered])
      (row.closedCheck .canceled row.canceledAt row.resolvedAt [.paused, .deleted, .configChanged]))

/-- No CHECK constraint of `incidents` rejects the row. -/
def IncidentRow.accepted : Bool :=
  [row.configVersionCheck, row.detectionOrderCheck, row.closureCheck].all fun check =>
    !check.rejects

end Constraints

structure IncidentRow.Chronological (row : IncidentRow) : Prop where
  detection : row.firstFailureAt ≤ row.detectedAt
  resolution : row.status = .resolved →
    ∃ time, row.resolvedAt = some time ∧ row.detectedAt ≤ time
  cancellation : row.status = .canceled →
    ∃ time, row.canceledAt = some time ∧ row.detectedAt ≤ time

inductive IncidentRow.Closure (row : IncidentRow) : Prop
  | opened : row.status = .opened → row.resolvedAt = none → row.canceledAt = none →
      row.closureReason = none → Closure row
  | resolved (time : Time) : row.status = .resolved → row.resolvedAt = some time →
      row.detectedAt ≤ time → row.canceledAt = none → row.closureReason = some .recovered →
        Closure row
  | canceled (time : Time) (reason : IncidentClosureReason) : row.status = .canceled →
      row.canceledAt = some time → row.detectedAt ≤ time → row.resolvedAt = none →
      row.closureReason = some reason → reason ≠ .recovered → Closure row

structure IncidentRow.Sound (row : IncidentRow) : Prop where
  version : 1 ≤ row.configVersion
  detection : row.firstFailureAt ≤ row.detectedAt
  closure : row.Closure

theorem IncidentRow.Sound.chronological {row : IncidentRow} (sound : row.Sound) :
    row.Chronological := by
  constructor
  · exact sound.detection
  · intro status
    cases sound.closure with
    | opened other => cases status.symm.trans other
    | resolved time _ resolvedAt later => exact ⟨time, resolvedAt, later⟩
    | canceled time reason other => cases status.symm.trans other
  · intro status
    cases sound.closure with
    | opened other => cases status.symm.trans other
    | resolved time other => cases status.symm.trans other
    | canceled time reason _ canceledAt later => exact ⟨time, canceledAt, later⟩

theorem IncidentRow.Sound.closure_check {row : IncidentRow} (sound : row.Sound) :
    row.closureCheck = some true := by
  simp only [IncidentRow.closureCheck, IncidentRow.closedCheck, Sql.Truth.either_eq_true,
    Sql.Truth.all_eq_true]
  cases sound.closure with
  | opened status resolvedAt canceledAt reason =>
      left
      simp [status, resolvedAt, canceledAt, reason, Sql.isNull]
  | resolved time status resolvedAt later canceledAt reason =>
      right
      left
      simp [status, resolvedAt, canceledAt, reason, Sql.isNull, later, Sql.Truth.negate]
  | canceled time why status canceledAt later resolvedAt reason administrative =>
      right
      right
      cases why with
      | recovered => exact absurd rfl administrative
      | paused =>
          simp [status, resolvedAt, canceledAt, reason, Sql.isNull, later, Sql.Truth.negate]
      | deleted =>
          simp [status, resolvedAt, canceledAt, reason, Sql.isNull, later, Sql.Truth.negate]
      | configChanged =>
          simp [status, resolvedAt, canceledAt, reason, Sql.isNull, later, Sql.Truth.negate]

theorem IncidentRow.Sound.accepted {row : IncidentRow} (sound : row.Sound) :
    row.accepted = true := by
  simp [IncidentRow.accepted, IncidentRow.configVersionCheck, IncidentRow.detectionOrderCheck,
    sound.closure_check, sound.version, sound.detection, Sql.Truth.rejects]

theorem IncidentRow.Closure.still_open {row : IncidentRow} (closure : row.Closure)
    (status : row.status = .opened) :
    row.resolvedAt = none ∧ row.canceledAt = none ∧ row.closureReason = none := by
  cases closure with
  | opened _ resolvedAt canceledAt reason => exact ⟨resolvedAt, canceledAt, reason⟩
  | resolved time other => cases status.symm.trans other
  | canceled time reason other => cases status.symm.trans other

theorem new_incident_sound {tx : PersistTx} {firstFailureAt detectedAt : Time}
    (version : 1 ≤ tx.monitor.configVersion) (detection : firstFailureAt ≤ detectedAt)
    (firstErrorType lastErrorType : Option CheckErrorType) :
    (newIncidentRow tx firstFailureAt detectedAt firstErrorType lastErrorType).Sound :=
  ⟨version, detection, .opened rfl rfl rfl rfl⟩

theorem IncidentRow.Sound.touched {row : IncidentRow} (sound : row.Sound)
    (status : row.status = .opened) (error : Option CheckErrorType) :
    ({ row with lastErrorType := error } : IncidentRow).Sound := by
  obtain ⟨resolvedAt, canceledAt, reason⟩ := sound.closure.still_open status
  exact ⟨sound.version, sound.detection, .opened status resolvedAt canceledAt reason⟩

theorem IncidentRow.Sound.resolved {row : IncidentRow} (sound : row.Sound)
    (status : row.status = .opened) {time : Time} (later : row.detectedAt ≤ time) :
    (row.resolved time).Sound := by
  obtain ⟨_, canceledAt, _⟩ := sound.closure.still_open status
  exact ⟨sound.version, sound.detection, .resolved time rfl rfl later canceledAt rfl⟩

theorem IncidentRow.Sound.canceled {row : IncidentRow} (sound : row.Sound)
    (status : row.status = .opened) {now : Time} (later : row.detectedAt ≤ now)
    {reason : IncidentClosureReason} (administrative : reason ≠ .recovered) :
    (row.canceled now reason).Sound := by
  obtain ⟨resolvedAt, _, _⟩ := sound.closure.still_open status
  exact ⟨sound.version, sound.detection,
    .canceled now reason rfl rfl later resolvedAt rfl administrative⟩

theorem cancels_administrative {change : MonitorChange} {reason : IncidentClosureReason}
    {found : List (OutboxKey × Nat)} (cancels : change.cancels = some (reason, found)) :
    reason ≠ .recovered := by
  unfold MonitorChange.cancels at cancels
  split at cancels <;> cases cancels <;> simp

end LinkAlive
