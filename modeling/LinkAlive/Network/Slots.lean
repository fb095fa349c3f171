import LinkAlive.Ledger.Writes
import LinkAlive.Network.Ledger
import LinkAlive.Network.Script

/-!
# Slots of scheduled checks

A slot of a monitor's configuration is used once a check has been created for it. The
next check of a monitor and its interval determine the slots that are still to come; no
used slot is among them, except where a guard sets the next check back.
-/

namespace LinkAlive.Network

set_option autoImplicit false

open Relational

def usedSlot (checks : Table CheckId CheckRow) (id : MonitorId) (configVersion : Nat)
    (scheduledAt : Time) : Bool :=
  !checks.every fun _ check => !(check.monitorId = id && check.scheduledAt = scheduledAt &&
    check.configVersion = configVersion)

def takesUsedSlot (checks : Table CheckId CheckRow) (now : Time) (due : DueMonitor) : Bool :=
  match coalesceDueScheduledAt due.nextCheckAt due.intervalSec now with
  | .ok (some scheduledAt) => usedSlot checks due.id due.configVersion scheduledAt
  | _ => false

/-- The loop of `createDueChecks` comes to an `INSERT` of a slot that is used. -/
def attemptsUsedSlot (db : Database) (now : Time) : List (DueMonitor × CheckId) → Bool
  | [] => false
  | (due, id) :: rest =>
      takesUsedSlot db.checks now due ||
        (createDueCheck db now due id).any fun next => attemptsUsedSlot next now rest

/-- A next check at this time puts a used slot of the monitor's configuration back on its
schedule: the slot is that time, or lies whole intervals after it. -/
def rewinds (db : Database) (time : Time) (id : MonitorId) : Bool :=
  (db.monitors.get id).any fun monitor => !db.checks.every fun _ check =>
    !(check.monitorId = id && check.configVersion = monitor.configVersion &&
      decide (check.scheduledAt ∈ Periodic.slots time (monitor.config.intervalSec * 1000)))

/-- A guard resets a monitor to a time that puts a used slot back on its schedule. -/
def rewindsSchedule (s : NetworkSystem) : Action → Bool
  | .commitInspection i =>
      match (s.inspections.get i).map Inspection.stage with
      | some (.written probe _ _ resets) => resets.any (rewinds s.core.db probe.checkedAt)
      | _ => false
  | .commitSummarize m =>
      (s.summaries.get m).any fun tx => tx.locked.any (rewinds s.core.db tx.now)
  | _ => false

theorem used_slot_iff {checks : Table CheckId CheckRow} {id : MonitorId} {configVersion : Nat}
    {scheduledAt : Time} :
    usedSlot checks id configVersion scheduledAt = true ↔ ∃ c check, checks.get c = some check ∧
      check.monitorId = id ∧ check.scheduledAt = scheduledAt ∧
        check.configVersion = configVersion := by
  rw [usedSlot, Bool.not_eq_true', Bool.eq_false_iff, ne_eq, Table.every_iff]
  simp only [not_forall, Bool.not_eq_true', Bool.not_eq_false, exists_prop, Bool.and_eq_true,
    decide_eq_true_eq, and_assoc]

theorem rewinds_eq_false {db : Database} {time : Time} {id : MonitorId} {monitor : MonitorRow}
    (stored : db.monitors.get id = some monitor) (kept : rewinds db time id = false)
    {c : CheckId} {check : CheckRow} (found : db.checks.get c = some check)
    (own : check.monitorId = id) (version : check.configVersion = monitor.configVersion) :
    check.scheduledAt ∉ Periodic.slots time (monitor.config.intervalSec * 1000) := by
  simp only [rewinds, stored, Option.any_some, Bool.not_eq_false', Table.every_iff,
    Bool.not_eq_true', Bool.and_eq_false_iff, decide_eq_false_iff_not] at kept
  rcases kept c check found with (other | older) | apart
  · exact absurd own other
  · exact absurd version older
  · exact apart

def MonitorRow.schedule (monitor : MonitorRow) : Option Time × Nat × Nat :=
  (monitor.nextCheckAt, monitor.config.intervalSec, monitor.configVersion)

/-- No used slot of the monitor's configuration is still to come. -/
def MonitorFresh (checks : Table CheckId CheckRow) (id : MonitorId) (monitor : MonitorRow) : Prop :=
  ∀ next, monitor.nextCheckAt = some next → ∀ c check, checks.get c = some check →
    check.monitorId = id → check.configVersion = monitor.configVersion →
      check.scheduledAt ∉ Periodic.slots next (monitor.config.intervalSec * 1000)

structure SlotsFresh (db : Database) : Prop where
  ahead : ∀ id monitor, db.monitors.get id = some monitor → MonitorFresh db.checks id monitor
  versions : ∀ c check, db.checks.get c = some check →
    ∃ monitor, db.monitors.get check.monitorId = some monitor ∧
      check.configVersion ≤ monitor.configVersion

structure ScheduleKept (db after : Database) : Prop where
  checks : ∀ c next, after.checks.get c = some next →
    ∃ check, db.checks.get c = some check ∧ next.SameSlot check
  monitors : ∀ id, (after.monitors.get id).map MonitorRow.schedule =
    (db.monitors.get id).map MonitorRow.schedule

theorem schedule_kept_of_same {db after : Database} (checks : after.checks = db.checks)
    (monitors : after.monitors = db.monitors) : ScheduleKept db after where
  checks c next found := ⟨next, checks ▸ found, .rfl⟩
  monitors id := by rw [monitors]

theorem ScheduleKept.monitor {db after : Database} (kept : ScheduleKept db after)
    {id : MonitorId} {monitor : MonitorRow} (found : after.monitors.get id = some monitor) :
    ∃ earlier, db.monitors.get id = some earlier ∧
      MonitorRow.schedule earlier = MonitorRow.schedule monitor := by
  have same := kept.monitors id
  rw [found, Option.map_some, eq_comm, Option.map_eq_some_iff] at same
  exact same

theorem MonitorFresh.kept {checks after : Table CheckId CheckRow} {id : MonitorId}
    {monitor moved : MonitorRow} (fresh : MonitorFresh checks id monitor)
    (same : MonitorRow.schedule moved = MonitorRow.schedule monitor)
    (slots : ∀ c next, after.get c = some next →
      ∃ check, checks.get c = some check ∧ next.SameSlot check) : MonitorFresh after id moved := by
  intro next planned c check found own version
  simp only [MonitorRow.schedule, Prod.mk.injEq] at same
  obtain ⟨row, earlier, slot⟩ := slots c check found
  rw [same.2.1, slot.2.1]
  refine fresh next (same.1.symm.trans planned) c row earlier (slot.1.symm.trans own) ?_
  exact slot.2.2.symm.trans (version.trans same.2.2)

theorem SlotsFresh.kept {db after : Database} (fresh : SlotsFresh db)
    (kept : ScheduleKept db after) : SlotsFresh after where
  ahead id monitor stored := by
    obtain ⟨earlier, before, same⟩ := kept.monitor stored
    exact (fresh.ahead id earlier before).kept same.symm kept.checks
  versions c check found := by
    obtain ⟨row, earlierCheck, slot⟩ := kept.checks c check found
    obtain ⟨earlier, before, older⟩ := fresh.versions c row earlierCheck
    have same := kept.monitors check.monitorId
    rw [slot.1, before, Option.map_some, Option.map_eq_some_iff] at same
    obtain ⟨monitor, stored, same⟩ := same
    simp only [MonitorRow.schedule, Prod.mk.injEq] at same
    rw [slot.1]
    exact ⟨monitor, stored, by rw [slot.2.2, same.2.2]; exact older⟩

def DueScheduled (db : Database) (due : DueMonitor) : Prop :=
  ∃ monitor, db.monitors.get due.id = some monitor ∧
    MonitorRow.schedule monitor = (some due.nextCheckAt, due.intervalSec, due.configVersion)

theorem due_monitor_scheduled {db : Database} {now : Time} {id : MonitorId} {due : DueMonitor}
    (found : dueMonitor db now id = some due) : DueScheduled db due ∧ due.id = id := by
  simp only [dueMonitor, Option.bind_eq_bind, Option.bind_eq_some_iff] at found
  obtain ⟨monitor, stored, next, planned, chosen⟩ := found
  split at chosen
  · cases chosen
    exact ⟨⟨monitor, stored, by rw [MonitorRow.schedule, planned]⟩, rfl⟩
  · cases chosen

theorem takes_used_slot_eq_false {db : Database} (fresh : SlotsFresh db) {due : DueMonitor}
    (view : DueScheduled db due) (now : Time) : takesUsedSlot db.checks now due = false := by
  obtain ⟨monitor, stored, same⟩ := view
  simp only [MonitorRow.schedule, Prod.mk.injEq] at same
  unfold takesUsedSlot
  split
  · rename_i scheduledAt coalesced
    rw [Bool.eq_false_iff]
    intro used
    obtain ⟨c, check, found, own, slot, version⟩ := used_slot_iff.1 used
    have apart := fresh.ahead due.id monitor stored due.nextCheckAt same.1 c check found own
      (version.trans same.2.2.symm)
    rw [slot, same.2.1] at apart
    exact apart (coalesce_due_cases coalesced).1
  · rfl

/-- A round uses a slot and moves the schedule behind it. -/
theorem create_due_check_fresh {db after : Database} {now : Time} {due : DueMonitor}
    {id : CheckId} (fresh : SlotsFresh db) (view : DueScheduled db due)
    (created : createDueCheck db now due id = some after) : SlotsFresh after := by
  rcases create_due_check_cases created with
    rfl | ⟨scheduledAt, next, coalesced, computed, absent, -, rfl⟩
  · exact fresh
  obtain ⟨monitor, stored, same⟩ := view
  simp only [MonitorRow.schedule, Prod.mk.injEq] at same
  have onSchedule := (coalesce_due_cases coalesced).1
  obtain ⟨-, behind, moved⟩ := next_check_at_cases computed
  have remaining : Periodic.slots next (due.intervalSec * 1000) ⊆
      Periodic.slots due.nextCheckAt (due.intervalSec * 1000) :=
    (Periodic.slots_subset moved).trans (Periodic.slots_subset onSchedule)
  constructor
  case ahead =>
    intro other row storedRow time planned c check found own version
    dsimp only at storedRow found
    rw [Table.get_update_key] at storedRow
    rw [Table.get_put] at found
    split at storedRow
    · rename_i sameMonitor
      subst sameMonitor
      rw [stored, Option.map_some, Option.some.injEq] at storedRow
      subst storedRow
      cases planned
      dsimp only at version
      rw [same.2.1]
      split at found
      · cases found
        exact Periodic.not_mem_slots_of_lt behind
      · have apart := fresh.ahead due.id monitor stored due.nextCheckAt same.1 c check found own
          version
        rw [same.2.1] at apart
        exact fun member => apart (remaining member)
    · rename_i apart
      split at found
      · cases found
        exact absurd own.symm apart
      · exact fresh.ahead other row storedRow time planned c check found own version
  case versions =>
    intro c check found
    have owner : ∃ row, db.monitors.get check.monitorId = some row ∧
        check.configVersion ≤ row.configVersion := by
      dsimp only at found
      rw [Table.get_put] at found
      split at found
      · cases found
        exact ⟨monitor, stored, Nat.le_of_eq same.2.2.symm⟩
      · exact fresh.versions c check found
    obtain ⟨row, held, older⟩ := owner
    dsimp only
    rw [Table.get_update_key, held]
    split
    · exact ⟨_, rfl, older⟩
    · exact ⟨row, rfl, older⟩

/-- The whole loop: each round finds its slot unused. -/
theorem create_due_checks_fresh {db : Database} {now : Time} {due : List (DueMonitor × CheckId)}
    (fresh : SlotsFresh db) (views : ∀ entry ∈ due, DueScheduled db entry.1)
    (distinct : (due.map fun entry => entry.1.id).Nodup) :
    attemptsUsedSlot db now due = false ∧
      ∀ after, createDueChecks db now due = some after → SlotsFresh after := by
  induction due generalizing db with
  | nil =>
      refine ⟨rfl, ?_⟩
      intro after created
      cases created
      exact fresh
  | cons head rest ih =>
      obtain ⟨monitor, id⟩ := head
      have view := views (monitor, id) List.mem_cons_self
      rw [List.map_cons, List.nodup_cons] at distinct
      have later : ∀ middle, createDueCheck db now monitor id = some middle →
          attemptsUsedSlot middle now rest = false ∧
            ∀ after, createDueChecks middle now rest = some after → SlotsFresh after := by
        intro middle created
        refine ih (create_due_check_fresh fresh view created) ?_ distinct.2
        intro entry member
        obtain ⟨row, stored, same⟩ := views entry (List.mem_cons_of_mem _ member)
        have other : entry.1.id ≠ monitor.id := by
          intro equal
          apply distinct.1
          rw [← equal]
          exact List.mem_map_of_mem member
        exact ⟨row, (create_due_check_monitors created other).trans stored, same⟩
      constructor
      · rw [attemptsUsedSlot, takes_used_slot_eq_false fresh view now, Bool.false_or]
        cases created : createDueCheck db now monitor id with
        | none => rfl
        | some middle => exact (later middle created).1
      · intro after created
        simp only [createDueChecks, Option.bind_eq_bind, Option.bind_eq_some_iff] at created
        obtain ⟨middle, first, created⟩ := created
        exact (later middle first).2 after created

theorem create_due_checks_new {db after : Database} {now : Time} {due : List (DueMonitor × CheckId)}
    (created : createDueChecks db now due = some after) {c : CheckId} {check : CheckRow}
    (found : after.checks.get c = some check) :
    db.checks.get c = some check ∨
      check.scheduledAt ≤ now ∧ ∃ entry ∈ due, entry.1.id = check.monitorId := by
  induction due generalizing db with
  | nil =>
      cases created
      exact Or.inl found
  | cons head rest ih =>
      obtain ⟨monitor, id⟩ := head
      simp only [createDueChecks, Option.bind_eq_bind, Option.bind_eq_some_iff] at created
      obtain ⟨middle, first, created⟩ := created
      rcases ih created with earlier | ⟨past, entry, member, own⟩
      · rcases create_due_check_cases first with rfl | ⟨scheduledAt, next, coalesced, -, -, -, rfl⟩
        · exact Or.inl earlier
        · dsimp only at earlier
          rw [Table.get_put] at earlier
          split at earlier
          · cases earlier
            exact Or.inr ⟨(coalesce_due_cases coalesced).2, (monitor, id),
              List.mem_cons_self, rfl⟩
          · exact Or.inl earlier
      · exact Or.inr ⟨past, entry, List.mem_cons_of_mem _ member, own⟩

/-- What holds of a transaction in progress: the slots of due monitors are still as they
were read, and a resumed schedule begins after every used slot. -/
def SlotView (db : Database) (clock : Time) : Transaction → Prop
  | .createDue tx => tx.now ≤ clock ∧ (tx.due.map fun entry => entry.1.id).Nodup ∧
      ∀ entry ∈ tx.due, DueScheduled db entry.1
  | .monitor tx => tx.change = .resume → tx.now < tx.initialNextCheckAt ∧
      ∀ c check, db.checks.get c = some check → check.monitorId = tx.id →
        check.scheduledAt ≤ tx.now
  | .persist _ | .claim _ | .markSent _ | .channel _ => True

theorem monitor_write_fresh {db : Database} {clock : Time} {tx : MonitorTx} {row : MonitorRow}
    (fresh : MonitorFresh db.checks tx.id row) (change : ChangeView tx.change row)
    (view : SlotView db clock (.monitor tx))
    (older : ∀ c check, db.checks.get c = some check → check.monitorId = tx.id →
      check.configVersion ≤ row.configVersion) :
    MonitorFresh db.checks tx.id (tx.monitorWrite row) ∧
      row.configVersion ≤ (tx.monitorWrite row).configVersion := by
  unfold MonitorTx.monitorWrite
  cases operation : tx.change with
  | create input => exact ⟨fresh, Nat.le_refl _⟩
  | update merged found =>
      cases found with
      | none =>
          rw [operation] at change
          have config : merged.config = row.config := change
          refine ⟨?_, Nat.le_refl _⟩
          intro next planned c check stored own version
          have apart := fresh next planned c check stored own version
          rw [← config] at apart
          exact apart
      | some found =>
          refine ⟨?_, Nat.le_succ _⟩
          intro next planned c check stored own version
          -- no check has the new version yet
          have above : check.configVersion = row.configVersion + 1 := version
          have below := older c check stored own
          omega
  | pause found =>
      refine ⟨?_, Nat.le_refl _⟩
      intro next planned
      cases planned
  | resume =>
      refine ⟨?_, Nat.le_refl _⟩
      intro next planned c check stored own version
      cases planned
      obtain ⟨future, past⟩ := view operation
      exact Periodic.not_mem_slots_of_lt (Nat.lt_of_le_of_lt (past c check stored own) future)
  | remove found =>
      refine ⟨?_, Nat.le_refl _⟩
      intro next planned
      cases planned

theorem monitor_commit_fresh {db after : Database} {clock : Time} {tx : MonitorTx}
    (fresh : SlotsFresh db)
    (change : ∀ row, db.monitors.get tx.id = some row → ChangeView tx.change row)
    (view : SlotView db clock (.monitor tx)) (written : monitorCommit db tx = some after) :
    SlotsFresh after := by
  obtain ⟨-, -, -, -, checks, -, monitors⟩ := monitor_commit_cases written
  have slots : ∀ c next, after.checks.get c = some next →
      ∃ check, db.checks.get c = some check ∧ next.SameSlot check := by
    intro c next found
    rw [checks] at found
    obtain ⟨check, stored, move⟩ := (runtime_checks_moved db tx).source found
    exact ⟨check, stored, move.slot⟩
  -- the rows after the commit, fresh with respect to the checks before it
  have rows : ∀ id next, after.monitors.get id = some next → MonitorFresh db.checks id next := by
    intro id next found
    rcases monitors with ⟨input, -, absent, stored⟩ | ⟨-, stored⟩
    · rw [stored, Table.get_put] at found
      split at found
      · rename_i same
        subst same
        intro time _ c check checkStored own _
        obtain ⟨monitor, owner, -⟩ := fresh.versions c check checkStored
        rw [own, absent] at owner
        cases owner
      · exact fresh.ahead id next found
    · rw [stored, Table.get_update_key] at found
      split at found
      · rename_i same
        subst same
        obtain ⟨row, before, rfl⟩ := Option.map_eq_some_iff.1 found
        refine (monitor_write_fresh (fresh.ahead _ row before) (change row before) view ?_).1
        intro c check checkStored own
        obtain ⟨monitor, owner, older⟩ := fresh.versions c check checkStored
        rw [own, before] at owner
        cases owner
        exact older
      · exact fresh.ahead id next found
  have versions : ∀ id row, db.monitors.get id = some row →
      (∀ c check, db.checks.get c = some check → check.monitorId = id →
        check.configVersion ≤ row.configVersion) →
      ∃ next, after.monitors.get id = some next ∧ row.configVersion ≤ next.configVersion := by
    intro id row before older
    rcases monitors with ⟨input, -, absent, stored⟩ | ⟨-, stored⟩
    · rw [stored, Table.get_put]
      split
      · rename_i same
        rw [same, absent] at before
        cases before
      · exact ⟨row, before, Nat.le_refl _⟩
    · rw [stored, Table.get_update_key]
      split
      · rename_i same
        subst same
        rw [before]
        exact ⟨_, rfl, (monitor_write_fresh (fresh.ahead _ row before) (change row before) view
          older).2⟩
      · exact ⟨row, before, Nat.le_refl _⟩
  constructor
  case ahead =>
    intro id next found
    exact (rows id next found).kept rfl slots
  case versions =>
    intro c check found
    obtain ⟨row, before, slot⟩ := slots c check found
    obtain ⟨monitor, owner, older⟩ := fresh.versions c row before
    have newest : ∀ other ox, db.checks.get other = some ox → ox.monitorId = row.monitorId →
        ox.configVersion ≤ monitor.configVersion := by
      intro other ox stored own
      obtain ⟨same, sameOwner, below⟩ := fresh.versions other ox stored
      rw [own, owner] at sameOwner
      cases sameOwner
      exact below
    obtain ⟨next, stored, higher⟩ := versions row.monitorId monitor owner newest
    rw [slot.1, slot.2.2]
    exact ⟨next, stored, Nat.le_trans older higher⟩

/-- What a step of the ledger does to the schedules. -/
inductive ScheduleMove (s : System) (a : LinkAlive.Action) (after : Database) : Prop where
  | kept : ScheduleKept s.db after → ScheduleMove s a after
  | created (t : TxId) (tx : CreateDueTx) : a = .commit t →
      s.txs.get t = some (.createDue tx) → createDueChecks s.db tx.now tx.due = some after →
        ScheduleMove s a after
  | administered (t : TxId) (tx : MonitorTx) : s.txs.get t = some (.monitor tx) →
      monitorCommit s.db tx = some after → ScheduleMove s a after

theorem persist_monitor_schedule (tx : PersistTx) (row : MonitorRow) :
    MonitorRow.schedule (tx.monitorWrite row) = MonitorRow.schedule row := by
  unfold PersistTx.monitorWrite
  split
  · rfl
  · dsimp only
    split <;> split <;> rfl

theorem persist_commit_schedule {db after : Database} {tx : PersistTx}
    (written : persistCommit db tx = some after) : ScheduleKept db after := by
  obtain ⟨results, incidents, outbox, -, -, -, rfl⟩ := persist_commit_cases written
  constructor
  · intro c next found
    dsimp only at found
    split at found
    · exact ⟨next, found, .rfl⟩
    · rw [Table.get_update_key] at found
      split at found
      · obtain ⟨check, stored, rfl⟩ := Option.map_eq_some_iff.1 found
        exact ⟨check, stored, .rfl⟩
      · exact ⟨next, found, .rfl⟩
  · intro id
    dsimp only
    rw [Table.get_update_key]
    split
    · rw [Option.map_map]
      congr 1
      funext row
      exact persist_monitor_schedule tx row
    · rfl

theorem same_ledger_schedule {db after : Database} (same : SameLedger db after) :
    ScheduleKept db after :=
  schedule_kept_of_same same.checks same.monitors

theorem step_schedule {s after : System} {a : LinkAlive.Action} (invariant : LedgerInvariant s)
    (stepped : LinkAlive.Stepped s a after) : ScheduleMove s a after.db := by
  cases step_writes stepped with
  | nothing ledger _ => exact .kept (same_ledger_schedule ledger)
  | channelCreated _ _ _ _ written =>
      rw [written]
      exact .kept (schedule_kept_of_same rfl rfl)
  | channel t tx _ _ written =>
      rw [written]
      exact .kept (same_ledger_schedule (channel_commit_same_ledger s.db tx))
  | persist t tx _ _ written => exact .kept (persist_commit_schedule written)
  | createDue t tx action inProgress written => exact .created t tx action inProgress written
  | monitor t tx _ inProgress written => exact .administered t tx inProgress written
  | checks checks jobs statement written =>
      rw [written]
      refine .kept ⟨?_, fun _ => rfl⟩
      intro c next found
      have moves := ledger_statement_moves statement invariant c
      cases before : s.db.checks.get c with
      | none =>
          dsimp only at found
          rw [moves.1 before] at found
          cases found
      | some check =>
          obtain ⟨moved, stored, move, -⟩ := moves.2 check before
          have same : next = moved := Option.some.inj (found.symm.trans stored)
          exact ⟨check, rfl, same ▸ move.slot⟩

/-- A check after a step of the ledger is not new, or a `createDueChecks` has created it. -/
theorem step_new_check {s after : System} {a : LinkAlive.Action} (invariant : LedgerInvariant s)
    (stepped : LinkAlive.Stepped s a after) {c : CheckId} {next : CheckRow}
    (found : after.db.checks.get c = some next) :
    (∃ check, s.db.checks.get c = some check ∧ next.SameSlot check) ∨
      ∃ t tx, a = .commit t ∧ s.txs.get t = some (.createDue tx) ∧ next.scheduledAt ≤ tx.now ∧
        (Transaction.createDue tx).locksMonitor next.monitorId = true := by
  cases step_schedule invariant stepped with
  | kept kept => exact Or.inl (kept.checks c next found)
  | created t tx action inProgress created =>
      rcases create_due_checks_new created found with earlier | ⟨past, entry, member, own⟩
      · exact Or.inl ⟨next, earlier, .rfl⟩
      · refine Or.inr ⟨t, tx, action, inProgress, past, ?_⟩
        simp only [Transaction.locksMonitor, List.any_eq_true, decide_eq_true_eq]
        exact ⟨entry, member, own⟩
  | administered t tx inProgress written =>
      rw [(monitor_commit_cases written).2.2.2.2.1] at found
      obtain ⟨check, stored, move⟩ := (runtime_checks_moved s.db tx).source found
      exact Or.inl ⟨check, stored, move.slot⟩

structure SlotInvariant (s : NetworkSystem) : Prop where
  guarded : GuardedLedger s
  fresh : SlotsFresh s.core.db
  past : ∀ c check, s.core.db.checks.get c = some check → check.scheduledAt ≤ s.clock
  views : ∀ t tx, s.core.txs.get t = some tx → SlotView s.core.db s.clock tx

theorem SlotInvariant.of_same {s after : NetworkSystem} (inv : SlotInvariant s)
    (core : after.core = s.core) (clock : after.clock = s.clock) (guarded : GuardedLedger after) :
    SlotInvariant after where
  guarded := guarded
  fresh := by
    rw [core]
    exact inv.fresh
  past := by
    rw [core, clock]
    exact inv.past
  views := by
    rw [core, clock]
    exact inv.views

theorem SlotView.later {db : Database} {clock now : Time} {tx : Transaction}
    (view : SlotView db clock tx) (later : clock ≤ now) : SlotView db now tx := by
  cases tx with
  | createDue tx => exact ⟨Nat.le_trans view.1 later, view.2⟩
  | monitor tx => exact view
  | persist => trivial
  | claim => trivial
  | markSent => trivial
  | channel => trivial

theorem SlotView.kept {db after : Database} {clock : Time} {tx : Transaction}
    (view : SlotView db clock tx)
    (monitors : ∀ id, tx.locksMonitor id = true → after.monitors.get id = db.monitors.get id)
    (checks : ∀ c next, after.checks.get c = some next → tx.locksMonitor next.monitorId = true →
      ∃ check, db.checks.get c = some check ∧ next.SameSlot check) :
    SlotView after clock tx := by
  cases tx with
  | createDue tx =>
      refine ⟨view.1, view.2.1, ?_⟩
      intro entry member
      obtain ⟨monitor, stored, same⟩ := view.2.2 entry member
      refine ⟨monitor, (monitors entry.1.id ?_).trans stored, same⟩
      simp only [Transaction.locksMonitor, List.any_eq_true, decide_eq_true_eq]
      exact ⟨entry, member, rfl⟩
  | monitor tx =>
      intro resumes
      obtain ⟨future, past⟩ := view resumes
      refine ⟨future, ?_⟩
      intro c next found own
      have held : (Transaction.monitor tx).locksMonitor next.monitorId = true := by
        simp [Transaction.locksMonitor, own]
      obtain ⟨check, stored, slot⟩ := checks c next found held
      rw [slot.2.1]
      exact past c check stored (slot.1.symm.trans own)
  | persist => trivial
  | claim => trivial
  | markSent => trivial
  | channel => trivial

theorem slot_view_stays {s after : System} {a : LinkAlive.Action} {clock : Time}
    (invariant : LedgerInvariant s) (stepped : LinkAlive.Stepped s a after) {t : TxId}
    {tx : Transaction} (inProgress : s.txs.get t = some tx)
    (stays : (after.txs.get t).isSome = true) (view : SlotView s.db clock tx) :
    SlotView after.db clock tx := by
  apply view.kept (step_undisturbed invariant stepped inProgress stays).monitors
  intro c next found held
  rcases step_new_check invariant stepped found with earlier | ⟨u, ux, rfl, creating, -, locked⟩
  · exact earlier
  · -- the check would have been created under the lock of another transaction
    have same : t = u := invariant.exclusive _ t u tx _ inProgress creating held locked
    rw [same, commit_ends stepped creating] at stays
    cases stays

theorem due_entries_ids {s : System} {now : Time} {chosen : List (MonitorId × CheckId)}
    {due : List (DueMonitor × CheckId)} (selected : s.dueEntries now chosen = some due) :
    (due.map fun entry => entry.1.id) = chosen.map Prod.fst := by
  induction chosen generalizing due with
  | nil =>
      cases selected
      rfl
  | cons head rest ih =>
      obtain ⟨id, checkId⟩ := head
      simp only [System.dueEntries, Option.bind_eq_bind, Option.bind_eq_some_iff] at selected
      obtain ⟨monitor, read, others, tail, taken⟩ := selected
      split at taken
      · cases taken
        rw [List.map_cons, List.map_cons, ih tail, (due_monitor_scheduled read).2]
      · cases taken

theorem slot_view_begins {s : System} {t : TxId} {a : LinkAlive.Action} {tx : Transaction}
    {jobs : Jobs} {attempts : Attempts} {clock : Time} {config : NetworkConfig}
    (begun : TxBegin s t a tx jobs attempts) (timed : timely clock s.txs a = true)
    (scheduled : ∀ service, tx = .monitor service → schedules config s.db service = true)
    (past : ∀ c check, s.db.checks.get c = some check → check.scheduledAt ≤ clock) :
    SlotView s.db clock tx := by
  cases begun with
  | createDue now chosen due selected =>
      simp only [timely, Bool.and_eq_true, decide_eq_true_eq] at timed
      refine ⟨timed.1, ?_, ?_⟩
      · rw [due_entries_ids selected]
        exact timed.2
      · intro entry member
        exact (due_monitor_scheduled (due_entries_mem selected entry member).1).1
  | monitor id request change now initialNextCheckAt changed free =>
      intro resumes
      dsimp only at resumes
      subst resumes
      have late : clock ≤ now := by
        cases request with
        | resume => simpa [timely] using timed
        | create input => simp [monitorChange] at changed
        | update patch =>
            simp only [timely, decide_eq_true_eq] at timed
            exact timed
        | pause =>
            simp only [timely, decide_eq_true_eq] at timed
            exact timed
        | remove =>
            simp only [timely, decide_eq_true_eq] at timed
            exact timed
      refine ⟨?_, fun c check stored _ => Nat.le_trans (past c check stored) late⟩
      have computed := scheduled _ rfl
      simp only [schedules, Option.any_eq_true] at computed
      obtain ⟨monitor, -, computed⟩ := computed
      split at computed
      · rename_i next calculated
        have same : next = initialNextCheckAt := of_decide_eq_true computed
        exact same ▸ initial_next_check_at_future calculated
      · cases computed
  | persist => trivial
  | channel => trivial
  | claim => trivial
  | markSent => trivial

/-- A step of the ledger keeps the used slots off the schedules. -/
theorem step_slots_fresh {s after : System} {a : LinkAlive.Action} {clock : Time}
    (invariant : LedgerInvariant s) (fresh : SlotsFresh s.db)
    (views : ∀ t tx, s.txs.get t = some tx → SlotView s.db clock tx)
    (stepped : LinkAlive.Stepped s a after) : SlotsFresh after.db := by
  cases step_schedule invariant stepped with
  | kept kept => exact fresh.kept kept
  | created t tx _ inProgress created =>
      obtain ⟨-, distinct, due⟩ := views t _ inProgress
      exact (create_due_checks_fresh fresh due distinct).2 after.db created
  | administered t tx inProgress written =>
      exact monitor_commit_fresh fresh (invariant.views t _ inProgress) (views t _ inProgress)
        written

theorem SlotInvariant.ledger_step {config : NetworkConfig} {s after : NetworkSystem} {core : System}
    {a : LinkAlive.Action} (inv : SlotInvariant s) (guarded : GuardedLedger after)
    (taken : LinkAlive.step s.core a = some core) (timed : timely s.clock s.core.txs a = true)
    (admitted : s.admits config core = true) (followed : s.follow core a = some after) :
    SlotInvariant after := by
  obtain ⟨frame, same⟩ := follow_frame followed
  have ledger := inv.guarded.ledger
  have stepped := LinkAlive.step_cases taken
  refine ⟨guarded, ?_, ?_, ?_⟩
  · rw [same]
    exact step_slots_fresh ledger inv.fresh inv.views stepped
  · rw [same, frame.clock]
    intro c next found
    rcases step_new_check ledger stepped found with
      ⟨check, stored, slot⟩ | ⟨t, tx, -, inProgress, past, -⟩
    · rw [slot.2.1]
      exact inv.past c check stored
    · exact Nat.le_trans past (inv.views t _ inProgress).1
  · rw [same, frame.clock]
    intro t tx found
    cases step_tx_source stepped found with
    | stayed inProgress =>
        exact slot_view_stays ledger stepped inProgress (Option.isSome_of_mem found)
          (inv.views t tx inProgress)
    | advanced before next isPersist =>
        subst isPersist
        trivial
    | begun jobs attempts unused begun unwritten =>
        have admittedHere := (Table.every_iff _ _).1 admitted t tx found
        simp only [unused, Option.isSome_none, Bool.false_or, Bool.and_eq_true] at admittedHere
        have scheduled : ∀ service, tx = .monitor service →
            schedules config s.core.db service = true := by
          rintro service rfl
          exact admittedHere.2
        rw [unwritten]
        exact slot_view_begins begun timed scheduled inv.past

/-- A reset that puts no used slot back on a schedule. -/
theorem SlotInvariant.rescheduled {s after : NetworkSystem} (inv : SlotInvariant s)
    (guarded : GuardedLedger after) {ids : List MonitorId} {time : Time}
    (db : after.core.db =
      { s.core.db with monitors := scheduleAt s.core.db.monitors ids time })
    (txs : after.core.txs = s.core.txs) (clock : after.clock = s.clock)
    (kept : ∀ id ∈ ids, rewinds s.core.db time id = false)
    (apart : ∀ t tx id, s.core.txs.get t = some tx → id ∈ ids → tx.locksMonitor id = false) :
    SlotInvariant after where
  guarded := guarded
  fresh := by
    rw [db]
    constructor
    case ahead =>
      intro id monitor stored
      dsimp only at stored
      rw [get_schedule_at, Option.map_eq_some_iff] at stored
      obtain ⟨earlier, before, rfl⟩ := stored
      split
      · rename_i member
        intro next planned c check found own version
        cases planned
        exact rewinds_eq_false before (kept id member) found own version
      · exact inv.fresh.ahead id earlier before
    case versions =>
      intro c check found
      obtain ⟨monitor, stored, older⟩ := inv.fresh.versions c check found
      dsimp only
      rw [get_schedule_at, stored, Option.map_some]
      split
      · exact ⟨_, rfl, older⟩
      · exact ⟨monitor, rfl, older⟩
  past := by
    rw [db, clock]
    exact inv.past
  views := by
    rw [db, txs, clock]
    intro t tx inProgress
    apply (inv.views t tx inProgress).kept
    · intro id held
      apply get_schedule_at_other
      intro member
      rw [apart t tx id inProgress member] at held
      cases held
    · intro c next found _
      exact ⟨next, found, .rfl⟩

theorem SlotInvariant.summary {s after : NetworkSystem} (inv : SlotInvariant s)
    (guarded : GuardedLedger after) {m : SummaryId} {tx : SummaryTx} {resets : List MonitorId}
    (stored : s.summaries.get m = some tx) (updated : tx.resets = some resets)
    (kept : rewindsSchedule s (.commitSummarize m) = false)
    (core : after.core = (s.afterSummary m tx resets).core) (clock : after.clock = s.clock) :
    SlotInvariant after := by
  simp only [rewindsSchedule, stored, Option.any_some, SummaryTx.locked, updated,
    Option.getD_some, List.any_eq_false] at kept
  apply inv.rescheduled guarded (by rw [core]; rfl) (by rw [core]; rfl) clock
  · intro id member
    exact Bool.eq_false_iff.2 (kept id member)
  · intro t other id inProgress member
    apply inv.guarded.summaries m tx t other id stored inProgress
    rw [SummaryTx.locked, updated]
    exact member

theorem slot_invariant_step {config : NetworkConfig} {s after : NetworkSystem} {a : Action}
    (inv : SlotInvariant s) (kept : rewindsSchedule s a = false)
    (taken : step config s a = some after) : SlotInvariant after := by
  have guarded := guarded_ledger_step inv.guarded taken
  cases step_cases taken with
  | ticked now later =>
      refine ⟨guarded, inv.fresh, ?_, ?_⟩
      · intro c check found
        exact Nat.le_trans (inv.past c check found) later
      · intro t tx found
        exact (inv.views t tx found).later later
  | ledger _ core _ stepped timed admitted followed =>
      exact inv.ledger_step guarded stepped timed admitted followed
  | saved => exact inv.of_same rfl rfl guarded
  | inspected => exact inv.of_same rfl rfl guarded
  | advanced => exact inv.of_same rfl rfl guarded
  | committed i inspection probe observer newId resets outages stored stage written =>
      simp only [rewindsSchedule, stored, Option.map_some, stage, List.any_eq_false] at kept
      apply inv.rescheduled guarded rfl rfl rfl
      · intro id member
        exact Bool.eq_false_iff.2 (kept id member)
      · intro t tx id inProgress member
        apply inv.guarded.inspections i inspection t tx id stored inProgress
        rw [stage]
        exact member
  | aborted => exact inv.of_same rfl rfl guarded
  | delivered => exact inv.of_same rfl rfl guarded
  | restarted => exact inv.of_same rfl rfl guarded
  | assessed => exact inv.of_same rfl rfl guarded
  | summaryBegun => exact inv.of_same rfl rfl guarded
  | summaryReset => exact inv.of_same rfl rfl guarded
  | summaryDeferred m tx resets stored updated _ =>
      exact inv.summary guarded stored updated kept rfl rfl
  | summaryReported m tx resets stored updated _ =>
      exact inv.summary guarded stored updated kept rfl rfl
  | summaryAborted => exact inv.of_same rfl rfl guarded

theorem slot_invariant_initial : SlotInvariant NetworkSystem.initial where
  guarded := guarded_ledger_initial
  fresh := by
    constructor
    · intro id monitor stored
      cases stored
    · intro c check found
      cases found
  past c check found := by cases found
  views t tx inProgress := by cases inProgress

/-- While no guard sets a schedule back to a used slot, `createDueChecks` finds every slot
that it inserts unused. -/
theorem slots_never_reused {config : NetworkConfig} {visited : List (NetworkSystem × Action)}
    {s : NetworkSystem} (run : Transition.Run (step config) NetworkSystem.initial visited s)
    (kept : Transition.Along (fun state action => rewindsSchedule state action = false) visited)
    {t : TxId} {tx : CreateDueTx} (inProgress : s.core.txs.get t = some (.createDue tx)) :
    attemptsUsedSlot s.core.db tx.now tx.due = false := by
  have inv : SlotInvariant s :=
    run.preserves (fun state action => rewindsSchedule state action = false) SlotInvariant
      slot_invariant_initial
      (fun _ _ _ holds allowed taken => slot_invariant_step holds allowed taken) kept
  obtain ⟨-, distinct, due⟩ := inv.views t _ inProgress
  exact (create_due_checks_fresh inv.fresh due distinct).1

namespace Script

/-- The check of the first slot falls into an outage, the check of the second one does not. -/
def suppressedCheck : List Action :=
  [.saveSettings references] ++ createMonitor 61257 ++ [.tick 61257] ++ startCheck 1 61257 ++
    [.inspect 1 1, .assess 1 1 (unanswered 61257), .startProbe 1, .finishProbe 1 offline,
      .openInspection 1] ++ record 1 1 ++ [.resumeAssess 1] ++
    persist 1 (inconclusiveNetworkResult (unanswered 61257)) 61257 ++ [.tick 121257]

/-- A check uses the second slot while the inspection that ends the outage is on its way. -/
def recovery (checkedAt : Time) : List Action :=
  suppressedCheck ++ startCheck 2 121257 ++ [.tick checkedAt, .inspect 2 1, .startProbe 2,
    .finishProbe 2 online] ++ persist 2 (LinkAlive.Script.checkResult .success 121257) checkedAt ++
    [.openInspection 2] ++ record 2 2 ++ [.core (.beginCreateDue 0 checkedAt [(1, 3)])]

end Script

/-- The outage ends after the second slot, and the scheduler takes up the reset. -/
theorem slots_never_reused_sample :
    ∃ visited s t tx, Transition.Run (step Script.config) NetworkSystem.initial visited s ∧
      s.core.txs.get t = some (.createDue tx) ∧
        attemptsUsedSlot s.core.db tx.now tx.due = false := by
  obtain ⟨visited, s, run, kept, creating⟩ := Script.run_avoiding (Script.recovery 121300)
    rewindsSchedule (fun s => (s.core.createDueTx 0).isSome) (by decide +kernel)
  obtain ⟨tx, found⟩ := Option.isSome_iff_exists.1 creating
  have inProgress := System.create_due_tx_eq_some.1 found
  exact ⟨visited, s, 0, tx, run, inProgress, slots_never_reused run kept inProgress⟩

/-- The outage ends in the millisecond of the second slot. -/
theorem slot_used_twice :
    ∃ config s t tx, Reachable config s ∧ s.core.txs.get t = some (.createDue tx) ∧
      attemptsUsedSlot s.core.db tx.now tx.due = true := by
  obtain ⟨s, reachable, creating⟩ := Script.reachable (Script.recovery 121257)
    (fun s => (s.core.createDueTx 0).any fun tx => attemptsUsedSlot s.core.db tx.now tx.due)
    (by decide +kernel)
  rw [Option.any_eq_true] at creating
  obtain ⟨tx, found, used⟩ := creating
  exact ⟨Script.config, s, 0, tx, reachable, System.create_due_tx_eq_some.1 found, used⟩

end LinkAlive.Network
