import LinkAlive.Store.Schema
import LinkAlive.Domain.Scheduling
import Mathlib.Data.Set.Card

/-!
# Stale monitors

Four computations of staleness: `isMonitorStale` of the domain package, the summary of
`apps/api/src/dashboard/dashboard.controller.ts`, the STALE list of
`apps/api/src/monitors/monitors.service.ts`, and `apps/web/lib/format.ts`. They treat an
unscheduled monitor differently and agree where exactly the active monitors are scheduled.
-/

namespace LinkAlive

open Relational

set_option autoImplicit false

def dashboardStale (monitor : MonitorRow) (now : Time) : Bool :=
  match monitor.nextCheckAt with
  | none => true
  | some nextCheckAt => nextCheckAt + max (monitor.config.intervalSec * 2000) (5 * 60000) < now

def warningStates : List MonitorHealth := [.suspect, .recovering, .pending]

structure DashboardSummary where
  total : Nat
  up : Nat
  suspect : Nat
  down : Nat
  paused : Nat
  pending : Nat
  recovering : Nat
  stale : Nat
  warning : Nat
deriving DecidableEq, Repr

def staleCandidates (db : Database) (now : Time) : List (MonitorId × MonitorRow) :=
  (db.monitors.select fun _ monitor => monitor.isActive).filter fun entry =>
    dashboardStale entry.2 now

/-- `DashboardController.summary` -/
def dashboardSummary (db : Database) (now : Time) : DashboardSummary :=
  let count (guard : MonitorRow → Bool) : Nat :=
    (db.monitors.select fun _ monitor => guard monitor).length
  let active (health : MonitorHealth) : Nat :=
    count fun monitor => monitor.isActive && monitor.healthState = health
  { total := count fun monitor => monitor.deletedAt.isNone
    up := active .up
    suspect := active .suspect
    down := active .down
    paused := count fun monitor => monitor.lifecycleStatus = .paused && monitor.deletedAt.isNone
    pending := active .pending
    recovering := active .recovering
    stale := (staleCandidates db now).length
    warning := count fun monitor => monitor.isActive &&
      (decide (monitor.healthState ∈ warningStates) || dashboardStale monitor now) }

inductive MonitorListState
  | up | suspect | down | recovering | pending | paused | stale
deriving DecidableEq, Repr

/-- The prefilter: every grace period is five minutes or longer. SQL compares with NULL as
with no earlier time. -/
def staleMonitorWhere (now : Time) (monitor : MonitorRow) : Bool :=
  monitor.lifecycleStatus = .active &&
    monitor.nextCheckAt.any fun nextCheckAt : Time => (nextCheckAt : Int) < (now : Int) - 300000

def buildMonitorListWhere (state : Option MonitorListState) (now : Time) (monitor : MonitorRow) :
    Bool :=
  let healthy (health : MonitorHealth) : Bool :=
    monitor.lifecycleStatus = .active && monitor.healthState = health
  monitor.deletedAt.isNone &&
    match state with
    | none => true
    | some .paused => monitor.lifecycleStatus = .paused
    | some .stale => staleMonitorWhere now monitor
    | some .down => healthy .down
    | some .recovering => healthy .recovering
    | some .up => healthy .up
    | some .suspect => healthy .suspect
    | some .pending => healthy .pending

def exactlyStale (now : Time) : List (MonitorId × MonitorRow) → Except RangeError (List MonitorId)
  | [] => .ok []
  | (id, monitor) :: rest => do
      let stale ← isMonitorStale monitor.nextCheckAt monitor.config.intervalSec now
      let others ← exactlyStale now rest
      return if stale then id :: others else others

/-- The ids of the STALE list before they are paged, the youngest first. -/
def staleIds (db : Database) (now : Time) : Except RangeError (List MonitorId) :=
  exactlyStale now
    (db.monitors.select fun _ monitor => buildMonitorListWhere (some .stale) now monitor).reverse

/-- `isMonitorStale` of the web client. -/
def webIsMonitorStale (monitor : MonitorRow) (now : Time) : Bool :=
  if monitor.lifecycleStatus ≠ .active then false
  else
    match monitor.nextCheckAt with
    | none => false
    | some nextCheckAt => nextCheckAt + max (monitor.config.intervalSec * 2) 300 * 1000 < now

/-- Exactly the active monitors are scheduled, a deleted one is not active, and the
intervals are allowed. -/
structure Scheduled (db : Database) : Prop where
  exactly : ∀ id row, db.monitors.get id = some row →
    (row.nextCheckAt.isSome = true ↔ row.isActive = true)
  deleted : ∀ id row, db.monitors.get id = some row →
    (row.deletedAt.isSome = true ↔ row.lifecycleStatus = .deleted)
  intervals : ∀ id row, db.monitors.get id = some row →
    ∃ intervalMs, intervalToMilliseconds row.config.intervalSec = .ok intervalMs

/-- The monitors that the domain's rule calls stale. -/
def staleMonitors (db : Database) (now : Time) : Set MonitorId :=
  { id | ∃ row, db.monitors.get id = some row ∧
    isMonitorStale row.nextCheckAt row.config.intervalSec now = .ok true }

/-- All computations select the monitors of the domain's rule, which never throws. -/
structure StalenessAgrees (db : Database) (now : Time) : Prop where
  decided : ∀ id row, db.monitors.get id = some row →
    ∃ stale, isMonitorStale row.nextCheckAt row.config.intervalSec now = .ok stale
  list : ∃ ids, staleIds db now = .ok ids ∧ ∀ id, id ∈ ids ↔ id ∈ staleMonitors db now
  dashboard : ∀ id, id ∈ (staleCandidates db now).map Prod.fst ↔ id ∈ staleMonitors db now
  count : (dashboardSummary db now).stale = (staleMonitors db now).ncard
  web : ∀ id, (∃ row, db.monitors.get id = some row ∧ webIsMonitorStale row now = true) ↔
    id ∈ staleMonitors db now

def MonitorRow.overdue (row : MonitorRow) (now : Time) : Bool :=
  row.nextCheckAt.any fun nextCheckAt =>
    nextCheckAt + max (row.config.intervalSec * 2000) 300000 < now

section Agreement

variable {db : Database} {id : MonitorId} {row : MonitorRow} {now : Time}

theorem overdue_iff : row.overdue now = true ↔ ∃ next, row.nextCheckAt = some next ∧
    next + max (row.config.intervalSec * 2000) 300000 < now := by
  simp only [MonitorRow.overdue, Option.any_eq_true, decide_eq_true_eq]

theorem is_monitor_stale_overdue (scheduled : Scheduled db)
    (stored : db.monitors.get id = some row) (now : Time) :
    isMonitorStale row.nextCheckAt row.config.intervalSec now = .ok (row.overdue now) := by
  obtain ⟨intervalMs, converted⟩ := scheduled.intervals id row stored
  unfold MonitorRow.overdue
  cases row.nextCheckAt with
  | none => rfl
  | some nextCheckAt => exact is_monitor_stale_some converted nextCheckAt now

theorem mem_stale_monitors (scheduled : Scheduled db) :
    id ∈ staleMonitors db now ↔ ∃ row, db.monitors.get id = some row ∧ row.overdue now = true := by
  constructor
  · rintro ⟨row, stored, stale⟩
    rw [is_monitor_stale_overdue scheduled stored, Except.ok.injEq] at stale
    exact ⟨row, stored, stale⟩
  · rintro ⟨row, stored, overdue⟩
    exact ⟨row, stored, by rw [is_monitor_stale_overdue scheduled stored, overdue]⟩

theorem overdue_active (scheduled : Scheduled db) (stored : db.monitors.get id = some row)
    (overdue : row.overdue now = true) : row.isActive = true := by
  obtain ⟨next, planned, _⟩ := overdue_iff.1 overdue
  apply (scheduled.exactly id row stored).1
  rw [planned]
  rfl

theorem list_where_overdue (scheduled : Scheduled db) (stored : db.monitors.get id = some row)
    (overdue : row.overdue now = true) : buildMonitorListWhere (some .stale) now row = true := by
  have active := overdue_active scheduled stored overdue
  obtain ⟨next, planned, late⟩ := overdue_iff.1 overdue
  have grace : 300000 ≤ max (row.config.intervalSec * 2000) 300000 := Nat.le_max_right _ _
  simp only [MonitorRow.isActive, Bool.and_eq_true] at active
  simp only [buildMonitorListWhere, staleMonitorWhere, Bool.and_eq_true, Option.any_eq_true]
  refine ⟨active.2, active.1, next, planned, ?_⟩
  have early : next + 300000 < now := Nat.lt_of_le_of_lt (Nat.add_le_add_left grace next) late
  rw [decide_eq_true_eq]
  exact Int.lt_sub_right_of_add_lt (by exact_mod_cast early)

theorem dashboard_stale_active (scheduled : Scheduled db) (stored : db.monitors.get id = some row)
    (active : row.isActive = true) : dashboardStale row now = row.overdue now := by
  obtain ⟨next, planned⟩ := Option.isSome_iff_exists.1 ((scheduled.exactly id row stored).2 active)
  simp only [dashboardStale, MonitorRow.overdue, planned, Option.any_some]

theorem web_stale_overdue (scheduled : Scheduled db) (stored : db.monitors.get id = some row) :
    webIsMonitorStale row now = row.overdue now := by
  have kept : row.isActive = true ↔ row.lifecycleStatus = .active := by
    rw [MonitorRow.isActive, Bool.and_eq_true, decide_eq_true_eq, Option.isNone_iff_eq_none]
    constructor
    · exact fun active => active.1
    · intro status
      refine ⟨status, ?_⟩
      cases deletedAt : row.deletedAt with
      | none => rfl
      | some time =>
          have deleted := (scheduled.deleted id row stored).1 (by rw [deletedAt]; rfl)
          cases status.symm.trans deleted
  have planned := scheduled.exactly id row stored
  unfold webIsMonitorStale MonitorRow.overdue
  by_cases status : row.lifecycleStatus = .active
  · rw [if_neg (fun different => different status)]
    cases row.nextCheckAt with
    | none => rfl
    | some next =>
        have window : max (row.config.intervalSec * 2) 300 * 1000 =
            max (row.config.intervalSec * 2000) 300000 := by
          omega
        simp only [window, Option.any_some]
  · rw [if_pos status]
    cases next : row.nextCheckAt with
    | none => rfl
    | some time =>
        rw [next] at planned
        exact absurd (kept.1 (planned.1 rfl)) status

theorem exactly_stale_filter (scheduled : Scheduled db) (rows : List (MonitorId × MonitorRow))
    (stored : ∀ entry ∈ rows, db.monitors.get entry.1 = some entry.2) (now : Time) :
    exactlyStale now rows =
      .ok ((rows.filter fun entry => entry.2.overdue now).map Prod.fst) := by
  induction rows with
  | nil => rfl
  | cons entry rest ih =>
      obtain ⟨id, monitor⟩ := entry
      have here := is_monitor_stale_overdue scheduled (stored (id, monitor) List.mem_cons_self) now
      have others := ih fun other member => stored other (List.mem_cons_of_mem _ member)
      simp only [exactlyStale, here, others, bind, Except.bind, pure, Except.pure,
        List.filter_cons]
      split <;> rfl

theorem staleness_agrees (scheduled : Scheduled db) (now : Time) : StalenessAgrees db now := by
  have candidates : ∀ id, id ∈ (staleCandidates db now).map Prod.fst ↔
      id ∈ staleMonitors db now := by
    intro id
    rw [mem_stale_monitors scheduled]
    simp only [staleCandidates, List.mem_map, List.mem_filter, Table.mem_select, Prod.exists]
    constructor
    · rintro ⟨_, row, ⟨⟨stored, active⟩, stale⟩, rfl⟩
      rw [dashboard_stale_active scheduled stored active] at stale
      exact ⟨row, stored, stale⟩
    · rintro ⟨row, stored, overdue⟩
      have active := overdue_active scheduled stored overdue
      refine ⟨id, row, ⟨⟨stored, active⟩, ?_⟩, rfl⟩
      rw [dashboard_stale_active scheduled stored active]
      exact overdue
  constructor
  · intro id row stored
    exact ⟨_, is_monitor_stale_overdue scheduled stored now⟩
  · refine ⟨_, exactly_stale_filter scheduled _ ?_ now, ?_⟩
    · rintro ⟨id, row⟩ member
      rw [List.mem_reverse, Table.mem_select] at member
      exact member.1
    · intro id
      rw [mem_stale_monitors scheduled]
      simp only [List.mem_map, List.mem_filter, List.mem_reverse, Table.mem_select, Prod.exists]
      constructor
      · rintro ⟨_, row, ⟨⟨stored, _⟩, overdue⟩, rfl⟩
        exact ⟨row, stored, overdue⟩
      · rintro ⟨row, stored, overdue⟩
        exact ⟨id, row, ⟨⟨stored, list_where_overdue scheduled stored overdue⟩, overdue⟩, rfl⟩
  · exact candidates
  · have distinct : ((staleCandidates db now).map Prod.fst).Nodup :=
      (List.filter_sublist.map Prod.fst).nodup (Table.select_keys_nodup _ _)
    have same : staleMonitors db now = ((staleCandidates db now).map Prod.fst).toFinset := by
      ext id
      rw [List.coe_toFinset, Set.mem_ofPred_eq, candidates id]
    rw [same, Set.ncard_coe_finset, List.toFinset_card_of_nodup distinct, List.length_map]
    rfl
  · intro id
    rw [mem_stale_monitors scheduled]
    constructor
    · rintro ⟨row, stored, stale⟩
      exact ⟨row, stored, by rw [← web_stale_overdue scheduled stored, stale]⟩
    · rintro ⟨row, stored, overdue⟩
      exact ⟨row, stored, by rw [web_stale_overdue scheduled stored, overdue]⟩

end Agreement

end LinkAlive
