import LinkAlive.Ledger.Commits
import LinkAlive.System.Script
import Mathlib.Data.List.Chain

/-!
# A schedule over many ticks

What `createDueChecks` makes of one monitor in a sequence of ticks. Between two ticks anything
may happen as long as nobody moves the monitor's schedule: the slots stay those of the first
anchor, each missed one is skipped, and the next one lies less than an interval ahead.
-/

namespace LinkAlive

open Relational Periodic

set_option autoImplicit false

/-- A `createDueChecks` transaction: the rows of its locking select, with the ids of the checks
to insert, and the database before and after its loop. -/
structure DueTick where
  now : Time
  before : Database
  due : List (DueMonitor × CheckId)
  after : Database

structure DueTick.Processes (tick : DueTick) (id : MonitorId) : Prop where
  selected : ∀ entry ∈ tick.due, dueMonitor tick.before tick.now entry.1.id = some entry.1
  distinct : (tick.due.map fun entry => entry.1.id).Nodup
  includes : ∃ entry ∈ tick.due, entry.1.id = id
  committed : createDueChecks tick.before tick.now tick.due = some tick.after

/-- `nextCheckAt` and the interval of a monitor, in milliseconds. -/
def scheduleOf (db : Database) (id : MonitorId) : Option (Option Time × Nat) :=
  (db.monitors.get id).map fun row => (row.nextCheckAt, row.config.intervalSec * 1000)

def DueTick.created (tick : DueTick) (id : MonitorId) : List (CheckId × CheckRow) :=
  tick.after.checks.select fun check row =>
    row.monitorId = id && (tick.before.checks.get check).isNone

/-- Ticks that process one monitor while nobody else moves its schedule. That their times
increase is not asked: a monitor that is not due is not selected. -/
structure Ticking (id : MonitorId) (anchor : Time) (intervalMs : Nat) (ticks : List DueTick) :
    Prop where
  processes : ∀ tick ∈ ticks, tick.Processes id
  anchored : ∀ tick, ticks.head? = some tick →
    scheduleOf tick.before id = some (some anchor, intervalMs)
  undisturbed : ticks.IsChain fun earlier later =>
    scheduleOf later.before id = scheduleOf earlier.after id

structure OneSlot (id : MonitorId) (anchor : Time) (intervalMs : Nat) (tick : DueTick)
    (slot next : Time) : Prop where
  /-- One check has been created, for this slot. -/
  created : ∃ check row, tick.created id = [(check, row)] ∧ row.scheduledAt = slot
  onSchedule : slot % intervalMs = anchor % intervalMs
  past : slot ≤ tick.now
  latest : ∀ other, other % intervalMs = anchor % intervalMs → other ≤ tick.now → other ≤ slot
  /-- The schedule goes on with the only slot of the next interval. -/
  stored : scheduleOf tick.after id = some (some next, intervalMs)
  nextOnSchedule : next % intervalMs = anchor % intervalMs
  future : tick.now < next
  soon : next ≤ tick.now + intervalMs
  unique : ∀ other, other % intervalMs = anchor % intervalMs → tick.now < other →
    other ≤ tick.now + intervalMs → other = next

/-- The checks of a monitor that the loop does not process stay as they are. -/
theorem create_due_checks_foreign {db after : Database} {now : Time}
    {due : List (DueMonitor × CheckId)} (created : createDueChecks db now due = some after)
    {id : MonitorId} (foreign : ∀ entry ∈ due, entry.1.id ≠ id) {check : CheckId}
    {row : CheckRow} (found : after.checks.get check = some row) (own : row.monitorId = id) :
    db.checks.get check = some row := by
  induction due generalizing db with
  | nil =>
      cases created
      exact found
  | cons head rest ih =>
      simp only [createDueChecks, Option.bind_eq_bind, Option.bind_eq_some_iff] at created
      obtain ⟨middle, first, later⟩ := created
      have between := ih later fun entry member => foreign entry (List.mem_cons_of_mem _ member)
      rcases create_due_check_cases first with rfl | ⟨scheduledAt, next, _, _, _, _, rfl⟩
      · exact between
      · dsimp only at between
        rw [Table.get_put] at between
        split at between
        · cases between
          exact absurd own (foreign head List.mem_cons_self)
        · exact between

theorem create_due_check_due {db after : Database} {now : Time} {due : DueMonitor} {id : CheckId}
    (created : createDueCheck db now due id = some after) (begun : due.nextCheckAt ≤ now) :
    ∃ scheduledAt nextCheckAt,
      coalesceDueScheduledAt due.nextCheckAt due.intervalSec now = .ok (some scheduledAt) ∧
      calculateNextCheckAt scheduledAt due.intervalSec now = .ok nextCheckAt ∧
      db.checks.get id = none ∧
      after = { db with
        checks := db.checks.put id (newCheckRow due scheduledAt)
        monitors := db.monitors.updateKey due.id fun monitor =>
          { monitor with nextCheckAt := some nextCheckAt } } := by
  have answered : coalesceDueScheduledAt due.nextCheckAt due.intervalSec now ≠ .ok none := by
    intro early
    simp only [coalesceDueScheduledAt, bind, Except.bind, pure, Except.pure] at early
    split at early
    · cases early
    · rw [if_neg (Nat.not_lt.2 begun)] at early
      cases early
  unfold createDueCheck at created
  split at created
  · cases created
  · rename_i early
    exact absurd early answered
  · rename_i scheduledAt coalesced
    split at created
    · cases created
    · rename_i nextCheckAt computed
      simp only [Option.bind_eq_bind, Option.bind_eq_some_iff] at created
      obtain ⟨checks, stored, created⟩ := created
      cases created
      obtain ⟨absent, rfl, -⟩ := insert_check_cases stored
      exact ⟨scheduledAt, nextCheckAt, coalesced, computed, absent, rfl⟩

theorem create_due_checks_own {db after : Database} {now : Time}
    {due : List (DueMonitor × CheckId)} (created : createDueChecks db now due = some after)
    (distinct : (due.map fun entry => entry.1.id).Nodup) {entry : DueMonitor × CheckId}
    (member : entry ∈ due) (begun : entry.1.nextCheckAt ≤ now) :
    ∃ scheduledAt nextCheckAt,
      coalesceDueScheduledAt entry.1.nextCheckAt entry.1.intervalSec now =
        .ok (some scheduledAt) ∧
      calculateNextCheckAt scheduledAt entry.1.intervalSec now = .ok nextCheckAt ∧
      db.checks.get entry.2 = none ∧
      after.checks.get entry.2 = some (newCheckRow entry.1 scheduledAt) ∧
      after.monitors.get entry.1.id = (db.monitors.get entry.1.id).map (fun row =>
        { row with nextCheckAt := some nextCheckAt }) ∧
      ∀ check row, after.checks.get check = some row → row.monitorId = entry.1.id →
        db.checks.get check = none → check = entry.2 := by
  induction due generalizing db with
  | nil => cases member
  | cons head rest ih =>
      rw [List.map_cons, List.nodup_cons] at distinct
      simp only [createDueChecks, Option.bind_eq_bind, Option.bind_eq_some_iff] at created
      obtain ⟨middle, first, later⟩ := created
      rcases List.mem_cons.1 member with rfl | member
      · -- the rest of the loop processes other monitors
        have foreign : ∀ other ∈ rest, other.1.id ≠ entry.1.id := by
          intro other found same
          apply distinct.1
          rw [← same]
          exact List.mem_map_of_mem found
        obtain ⟨scheduledAt, nextCheckAt, coalesced, computed, absent, rfl⟩ :=
          create_due_check_due first begun
        refine ⟨scheduledAt, nextCheckAt, coalesced, computed, absent, ?_, ?_, ?_⟩
        · apply (create_due_checks_kept later).checks
          dsimp only
          rw [Table.get_put, if_pos rfl]
        · rw [create_due_checks_monitors later foreign]
          exact Table.get_update_key_self _ _ _
        · intro check row found own new
          have between := create_due_checks_foreign later foreign found own
          dsimp only at between
          rw [Table.get_put] at between
          split at between
          · rename_i same
            exact same
          · rw [new] at between
            cases between
      · have other : entry.1.id ≠ head.1.id := by
          intro same
          apply distinct.1
          rw [← same]
          exact List.mem_map_of_mem member
        obtain ⟨scheduledAt, nextCheckAt, coalesced, computed, absent, stored, moved, only⟩ :=
          ih later distinct.2 member
        refine ⟨scheduledAt, nextCheckAt, coalesced, computed, ?_, stored, ?_, ?_⟩
        · cases before : db.checks.get entry.2 with
          | none => rfl
          | some row =>
              rw [(create_due_check_kept first).checks _ row before] at absent
              cases absent
        · rw [moved, create_due_check_monitors first other]
        · intro check row found own new
          apply only check row found own
          cases between : middle.checks.get check with
          | none => rfl
          | some earlier =>
              have kept := (create_due_checks_kept later).checks check earlier between
              rw [found, Option.some.injEq] at kept
              subst kept
              have single : createDueChecks db now [head] = some middle := by
                simp [createDueChecks, first]
              have before := create_due_checks_foreign single
                (fun _ found => by
                  rw [List.mem_singleton.1 found]
                  exact other.symm) between own
              rw [new] at before
              cases before

theorem due_monitor_read {db : Database} {now : Time} {id : MonitorId} {due : DueMonitor}
    (found : dueMonitor db now id = some due) :
    due.nextCheckAt ≤ now ∧
      scheduleOf db id = some (some due.nextCheckAt, due.intervalSec * 1000) := by
  simp only [dueMonitor, Option.bind_eq_bind, Option.bind_eq_some_iff] at found
  obtain ⟨monitor, stored, next, planned, chosen⟩ := found
  split at chosen
  · rename_i allowed
    cases chosen
    simp only [Bool.and_eq_true, decide_eq_true_eq] at allowed
    refine ⟨allowed.1.2, ?_⟩
    simp only [scheduleOf, stored, Option.map_some, planned]
  · cases chosen

/-- A tick takes the last slot that is due and moves the schedule behind the present. -/
theorem tick_one_slot {id : MonitorId} {anchor : Time} {intervalMs : Nat} {tick : DueTick}
    (processes : tick.Processes id)
    (anchored : scheduleOf tick.before id = some (some anchor, intervalMs)) :
    anchor ≤ tick.now ∧ OneSlot id anchor intervalMs tick (latest anchor intervalMs tick.now)
      (latest anchor intervalMs tick.now + intervalMs) := by
  obtain ⟨entry, member, rfl⟩ := processes.includes
  obtain ⟨begun, read⟩ := due_monitor_read (processes.selected entry member)
  rw [anchored, Option.some.injEq, Prod.mk.injEq, Option.some.injEq] at read
  obtain ⟨rfl, rfl⟩ := read
  obtain ⟨scheduledAt, next, coalesced, computed, absent, stored, moved, only⟩ :=
    create_due_checks_own processes.committed processes.distinct member begun
  obtain ⟨positive, -, rfl⟩ := coalesce_due_latest coalesced
  have past : latest entry.1.nextCheckAt (entry.1.intervalSec * 1000) tick.now ≤ tick.now :=
    latest_le begun
  have ahead := lt_latest_add positive entry.1.nextCheckAt tick.now
  have advanced := next_check_at_advances computed past ahead
  subst advanced
  refine ⟨begun, ?_, latest_mod _ _ _, past, fun other => le_latest positive, ?_, ?_, ahead,
    Nat.add_le_add_right past _, fun other => next_slot_unique positive begun⟩
  · refine ⟨entry.2, _, Table.select_eq_singleton _ _ stored ?_ ?_, rfl⟩
    · simp [newCheckRow, absent]
    · intro check row found new
      simp only [Bool.and_eq_true, decide_eq_true_eq, Option.isNone_iff_eq_none] at new
      exact only check row found new.1 new.2
  · unfold scheduleOf at anchored ⊢
    rw [moved]
    obtain ⟨row, before, same⟩ := Option.map_eq_some_iff.1 anchored
    rw [before, Option.map_some, Option.map_some]
    simp only [Prod.mk.injEq] at same
    rw [same.2]
  · rw [Nat.add_mod_right, latest_mod]

def DueTick.slots (tick : DueTick) (id : MonitorId) : List Time :=
  (tick.created id).map fun entry => entry.2.scheduledAt

theorem OneSlot.slots_eq {id : MonitorId} {anchor slot next : Time} {intervalMs : Nat}
    {tick : DueTick} (one : OneSlot id anchor intervalMs tick slot next) :
    tick.slots id = [slot] := by
  obtain ⟨check, row, created, same⟩ := one.created
  rw [DueTick.slots, created, List.map_singleton, same]

theorem OneSlot.of_anchor {id : MonitorId} {first anchor slot next : Time} {intervalMs : Nat}
    {tick : DueTick} (one : OneSlot id anchor intervalMs tick slot next)
    (same : anchor % intervalMs = first % intervalMs) :
    OneSlot id first intervalMs tick slot next where
  created := one.created
  onSchedule := one.onSchedule.trans same
  past := one.past
  latest := fun other onSchedule => one.latest other (onSchedule.trans same.symm)
  stored := one.stored
  nextOnSchedule := one.nextOnSchedule.trans same
  future := one.future
  soon := one.soon
  unique := fun other onSchedule => one.unique other (onSchedule.trans same.symm)

theorem Ticking.tail {id : MonitorId} {anchor slot next : Time} {intervalMs : Nat}
    {tick : DueTick} {rest : List DueTick} (ticking : Ticking id anchor intervalMs (tick :: rest))
    (one : OneSlot id anchor intervalMs tick slot next) : Ticking id next intervalMs rest where
  processes := fun later member => ticking.processes later (List.mem_cons_of_mem _ member)
  anchored := by
    intro later first
    have kept := (List.isChain_cons.1 ticking.undisturbed).1 later first
    exact kept.trans one.stored
  undisturbed := (List.isChain_cons.1 ticking.undisturbed).2

theorem Ticking.slots_increase {id : MonitorId} {anchor : Time} {intervalMs : Nat}
    {ticks : List DueTick} (ticking : Ticking id anchor intervalMs ticks) :
    (∀ tick ∈ ticks, ∃ slot next, anchor ≤ slot ∧ OneSlot id anchor intervalMs tick slot next) ∧
      (ticks.flatMap fun tick => tick.slots id).Pairwise (· < ·) := by
  induction ticks generalizing anchor with
  | nil => exact ⟨fun tick member => absurd member List.not_mem_nil, List.Pairwise.nil⟩
  | cons tick rest ih =>
      obtain ⟨begun, one⟩ := tick_one_slot (ticking.processes tick List.mem_cons_self)
        (ticking.anchored tick rfl)
      obtain ⟨each, sorted⟩ := ih (ticking.tail one)
      -- the schedule of the rest begins behind this tick
      have behind : anchor ≤ latest anchor intervalMs tick.now + intervalMs :=
        Nat.le_of_lt (Nat.lt_of_le_of_lt begun one.future)
      constructor
      · intro later member
        rcases List.mem_cons.1 member with rfl | member
        · exact ⟨_, _, anchor_le_latest anchor intervalMs later.now, one⟩
        · obtain ⟨slot, next, after, slots⟩ := each later member
          exact ⟨slot, next, Nat.le_trans behind after, slots.of_anchor one.nextOnSchedule⟩
      · rw [List.flatMap_cons, one.slots_eq, List.singleton_append]
        refine List.Pairwise.cons ?_ sorted
        intro slot found
        obtain ⟨later, member, found⟩ := List.mem_flatMap.1 found
        obtain ⟨own, next, after, slots⟩ := each later member
        rw [slots.slots_eq, List.mem_singleton] at found
        subst found
        exact Nat.lt_of_le_of_lt one.past (Nat.lt_of_lt_of_le one.future after)

/-- A monitor is checked at the slots of its first anchor, each at most once and without
replay of what was missed; its first slot depends on the present through the interval bucket
only. -/
theorem schedule_keeps_slots :
    (∀ (id : MonitorId) (anchor : Time) (intervalMs : Nat) (ticks : List DueTick),
      Ticking id anchor intervalMs ticks →
        (∀ tick ∈ ticks, ∃ slot next, OneSlot id anchor intervalMs tick slot next) ∧
          (ticks.flatMap fun tick => tick.slots id).Pairwise (· < ·)) ∧
      ∀ (monitorId : String) (intervalSec : Nat), 1 ≤ intervalSec →
        isSafeInteger intervalSec = true → textLength (trimText monitorId) ≠ 0 →
          ∃ slotOf : Nat → Nat, ∀ now : Nat,
            calculateInitialNextCheckAt monitorId intervalSec now =
                .ok (slotOf (now / (intervalSec * 1000))) ∧
              now < slotOf (now / (intervalSec * 1000)) ∧
              10 * slotOf (now / (intervalSec * 1000)) < 10 * now + 11 * (intervalSec * 1000) := by
  constructor
  · intro id anchor intervalMs ticks ticking
    obtain ⟨each, sorted⟩ := ticking.slots_increase
    refine ⟨fun tick member => ?_, sorted⟩
    obtain ⟨slot, next, -, one⟩ := each tick member
    exact ⟨slot, next, one⟩
  · intro monitorId intervalSec positive safe named
    obtain ⟨jitter, short, computed⟩ := initial_next_check_at_bucket positive safe named
    refine ⟨fun bucket => bucket * (intervalSec * 1000) + intervalSec * 1000 + jitter, fun now => ?_⟩
    have division := Nat.div_add_mod' now (intervalSec * 1000)
    have remainder : now % (intervalSec * 1000) < intervalSec * 1000 :=
      Nat.mod_lt now (by omega)
    refine ⟨computed now, ?_, ?_⟩
    · dsimp only
      omega
    · dsimp only
      omega

private def duePreview : Database :=
  { Database.empty with
    monitors := (∅ : Table MonitorId MonitorRow).put 1
      (newMonitorRow (Script.monitorInput []) 0) }

private def dueTick (now nextCheckAt : Time) (check : CheckId) (before : Database) : DueTick where
  now := now
  before := before
  due := [(⟨1, nextCheckAt, 60, 1⟩, check)]
  after := (createDueChecks before now [(⟨1, nextCheckAt, 60, 1⟩, check)]).getD before

private def firstTick : DueTick := dueTick 200000 0 1 duePreview

private def secondTick : DueTick :=
  dueTick 300000 240000 2
    { firstTick.after with
      checks := firstTick.after.checks.updateWhere (fun _ _ => true) fun _ row =>
        { row with status := .completed } }

private theorem due_tick_processes {now nextCheckAt : Time} {check : CheckId} {before : Database}
    (selected : dueMonitor before now 1 = some ⟨1, nextCheckAt, 60, 1⟩)
    (created : (createDueChecks before now [(⟨1, nextCheckAt, 60, 1⟩, check)]).isSome = true) :
    (dueTick now nextCheckAt check before).Processes 1 where
  selected := by
    intro entry member
    rw [List.mem_singleton.1 member]
    exact selected
  distinct := by simp [dueTick]
  includes := ⟨_, List.mem_singleton_self _, rfl⟩
  committed := by
    obtain ⟨after, committed⟩ := Option.isSome_iff_exists.1 created
    change createDueChecks before now _ =
      some ((createDueChecks before now [(⟨1, nextCheckAt, 60, 1⟩, check)]).getD before)
    rw [committed, Option.getD_some]
    exact committed

theorem schedule_keeps_slots_two_ticks :
    (([firstTick, secondTick].flatMap fun tick => tick.slots 1).Pairwise (· < ·)) ∧
      ∃ slotOf : Nat → Nat,
        calculateInitialNextCheckAt "shop" 60 200000 = .ok (slotOf (200000 / 60000)) := by
  have ticking : Ticking 1 0 60000 [firstTick, secondTick] :=
    { processes := by
        intro tick member
        rcases List.mem_cons.1 member with rfl | member
        · exact due_tick_processes (by decide +kernel) (by decide +kernel)
        · rw [List.mem_singleton.1 member]
          exact due_tick_processes (by decide +kernel) (by decide +kernel)
      anchored := by
        intro tick first
        cases first
        decide +kernel
      undisturbed := by
        refine List.isChain_cons_cons.2 ⟨?_, List.isChain_singleton _⟩
        decide +kernel }
  obtain ⟨slotOf, computed⟩ := schedule_keeps_slots.2 "shop" 60 (by decide) (by decide) (by decide)
  exact ⟨(schedule_keeps_slots.1 1 0 60000 _ ticking).2, slotOf, (computed 200000).1⟩

end LinkAlive
