import LinkAlive.Ledger.Chronology
import LinkAlive.Network.Schedule
import LinkAlive.Network.Script

/-!
# Incident chronology

Under one clock a result is measured after its job has claimed the check. The results of
a monitor are then applied in the order of their times, and no incident is closed before
it was detected.
-/

namespace LinkAlive.Network

set_option autoImplicit false

open Relational

def claimsAfter (claims : ClaimTimes) (s : NetworkSystem) : Action → ClaimTimes
  | .core a => claims.after s.clock a
  | _ => claims

def claimTimes (visited : List (NetworkSystem × Action)) : ClaimTimes :=
  visited.foldl (fun claims pair => claimsAfter claims pair.1 pair.2) fun _ => none

def measuredStep (claims : ClaimTimes) (s : NetworkSystem) : Action → Bool
  | .core a => measuredBy claims s.clock a
  | _ => true

def measuredFrom (claims : ClaimTimes) : List (NetworkSystem × Action) → Bool
  | [] => true
  | (s, a) :: rest => measuredStep claims s a && measuredFrom (claimsAfter claims s a) rest

/-- `checkUrl` and the platform failure of `process` read the shared clock for `finishedAt`
after the job's claim of its check, and before its persist transaction. -/
def Measured (visited : List (NetworkSystem × Action)) : Prop :=
  measuredFrom (fun _ => none) visited = true

theorem measured_from_append (claims : ClaimTimes)
    (visited later : List (NetworkSystem × Action)) :
    measuredFrom claims (visited ++ later) = (measuredFrom claims visited &&
      measuredFrom (visited.foldl (fun claims pair => claimsAfter claims pair.1 pair.2) claims)
        later) := by
  induction visited generalizing claims with
  | nil => rfl
  | cons head rest ih =>
      simp only [List.cons_append, measuredFrom, List.foldl_cons, ih, Bool.and_assoc]

theorem measured_concat {visited : List (NetworkSystem × Action)} {s : NetworkSystem}
    {a : Action} (measured : Measured (visited ++ [(s, a)])) :
    Measured visited ∧ measuredStep (claimTimes visited) s a = true := by
  rw [Measured, measured_from_append, Bool.and_eq_true] at measured
  refine ⟨measured.1, ?_⟩
  have last := measured.2
  rw [measuredFrom, Bool.and_eq_true] at last
  exact last.1

theorem claim_times_concat (visited : List (NetworkSystem × Action)) (s : NetworkSystem)
    (a : Action) : claimTimes (visited ++ [(s, a)]) = claimsAfter (claimTimes visited) s a := by
  simp [claimTimes]

def appliedTime (id : MonitorId) (s : NetworkSystem) : Action → Option Time
  | .core (.commit t) =>
      match s.core.txs.get t with
      | some (.persist tx) =>
          if tx.monitorId = id && tx.applies then some tx.result.finishedAt else none
      | _ => none
  | _ => none

/-- The times of the results that a run has applied to a monitor, in commit order. -/
def appliedTimes (visited : List (NetworkSystem × Action)) (id : MonitorId) : List Time :=
  visited.filterMap fun pair => appliedTime id pair.1 pair.2

theorem applied_time_cases {id : MonitorId} {s : NetworkSystem} {a : Action} {time : Time}
    (applied : appliedTime id s a = some time) :
    ∃ t tx, a = .core (.commit t) ∧ s.core.txs.get t = some (.persist tx) ∧ tx.monitorId = id ∧
      tx.applies = true ∧ time = tx.result.finishedAt := by
  unfold appliedTime at applied
  split at applied
  · rename_i t
    split at applied
    · rename_i tx inProgress
      simp only [Option.ite_none_right_eq_some, Bool.and_eq_true, decide_eq_true_eq,
        Option.some.injEq] at applied
      exact ⟨t, tx, rfl, inProgress, applied.1.1, applied.1.2, applied.2.symm⟩
    · cases applied
  · cases applied

structure AppliedInOrder (visited : List (NetworkSystem × Action)) (db : Database)
    (id : MonitorId) : Prop where
  order : (appliedTimes visited id).Pairwise (· ≤ ·)
  past : ∀ time ∈ appliedTimes visited id, CheckedSince db id time

/-- A step applies one more result, or keeps what was applied. -/
theorem AppliedInOrder.step {visited : List (NetworkSystem × Action)} {s : NetworkSystem}
    {a : Action} {db : Database} {id : MonitorId} (applied : AppliedInOrder visited s.core.db id)
    (stays : ∀ time, CheckedSince s.core.db id time → CheckedSince db id time)
    (moves : ∀ time, appliedTime id s a = some time →
      CheckedBy s.core.db id time ∧ CheckedSince db id time) :
    AppliedInOrder (visited ++ [(s, a)]) db id := by
  have grown : appliedTimes (visited ++ [(s, a)]) id =
      appliedTimes visited id ++ (appliedTime id s a).toList := by
    cases last : appliedTime id s a <;> simp [appliedTimes, last]
  constructor
  · rw [grown, List.pairwise_append]
    refine ⟨applied.order, ?_, ?_⟩
    · cases appliedTime id s a <;> simp
    · intro earlier member time last
      rw [Option.mem_toList] at last
      exact (applied.past earlier member).before (moves time last).1
  · intro time member
    rw [grown, List.mem_append] at member
    rcases member with earlier | last
    · exact stays time (applied.past time earlier)
    · rw [Option.mem_toList] at last
      exact (moves time last).2

theorem last_checked_rescheduled (db : Database) (ids : List MonitorId) (time : Time)
    (id : MonitorId) :
    lastChecked { db with monitors := scheduleAt db.monitors ids time } id = lastChecked db id := by
  simp only [lastChecked, get_schedule_at]
  cases db.monitors.get id with
  | none => rfl
  | some row =>
      simp only [Option.map_some, Option.bind_some]
      split <;> rfl

theorem times_rescheduled {claims : ClaimTimes} {clock : Time} {s : System}
    (times : TimesInvariant claims clock s) (ids : List MonitorId) (time : Time) :
    TimesInvariant claims clock
      { s with db := { s.db with monitors := scheduleAt s.db.monitors ids time } } := by
  have since : ∀ {id start}, CheckedSince s.db id start →
      CheckedSince { s.db with monitors := scheduleAt s.db.monitors ids time } id start := by
    intro id start
    rw [CheckedSince, CheckedSince, last_checked_rescheduled]
    exact fun same => same
  have by_ : ∀ {id bound}, CheckedBy s.db id bound →
      CheckedBy { s.db with monitors := scheduleAt s.db.monitors ids time } id bound := by
    intro id bound
    rw [CheckedBy, CheckedBy, last_checked_rescheduled]
    exact fun same => same
  constructor
  · exact fun id => by_ (times.past id)
  · intro id next started found streak
    obtain ⟨row, stored, same, _⟩ := get_schedule_at_source found
    apply since
    apply times.streaks id row started stored
    rw [← (unscheduled_times same).2]
    exact streak
  · intro id row found
    obtain ⟨sound, detected⟩ := times.incidents id row found
    exact ⟨sound, fun status => since (detected status)⟩
  · intro job id check monitor row running found active
    obtain ⟨claimed, same, before⟩ := times.jobs job id check monitor row running found active
    exact ⟨claimed, same, by_ before⟩
  · intro t tx inProgress
    obtain ⟨write, applied⟩ := times.persists t tx inProgress
    exact ⟨write, fun applies => ⟨by_ (applied applies).1, (applied applies).2⟩⟩
  · exact fun t tx inProgress notCreate => by_ (times.services t tx inProgress notCreate)

/-- What is known after a run of measured results. -/
structure Chronicle (visited : List (NetworkSystem × Action)) (s : NetworkSystem) : Prop where
  schedule : ScheduleInvariant s
  times : TimesInvariant (claimTimes visited) s.clock s.core
  applied : ∀ id, AppliedInOrder visited s.core.db id

theorem chronicle_guard_step {config : NetworkConfig} {visited : List (NetworkSystem × Action)}
    {s after : NetworkSystem} {a : Action} (chronicle : Chronicle visited s)
    (taken : step config s a = some after) (guard : ∀ b, a ≠ .core b) :
    Chronicle (visited ++ [(s, a)]) after := by
  obtain ⟨later, moved⟩ := step_guards taken guard
  have claims : claimTimes (visited ++ [(s, a)]) = claimTimes visited := by
    rw [claim_times_concat]
    cases a with
    | core b => exact absurd rfl (guard b)
    | _ => rfl
  have idle : ∀ id, appliedTime id s a = none := by
    intro id
    cases a with
    | core b => exact absurd rfl (guard b)
    | _ => rfl
  have last : ∀ id, lastChecked after.core.db id = lastChecked s.core.db id := by
    intro id
    rcases moved with same | ⟨ids, time, same⟩
    · rw [same]
    · rw [same]
      exact last_checked_rescheduled s.core.db ids time id
  refine ⟨schedule_invariant_step chronicle.schedule taken, ?_, ?_⟩
  · rw [claims]
    apply TimesInvariant.later _ later
    rcases moved with same | ⟨ids, time, same⟩
    · rw [same]
      exact chronicle.times
    · rw [same]
      exact times_rescheduled chronicle.times ids time
  · intro id
    apply (chronicle.applied id).step
    · intro time since
      rw [CheckedSince, last]
      exact since
    · intro time applied
      rw [idle] at applied
      cases applied

/-- A service transaction reads the clock once it holds its monitor. -/
theorem timely_service {clock : Time} {s core : System} {a : LinkAlive.Action}
    (timed : timely clock s.txs a = true) (stepped : LinkAlive.Stepped s a core) {t : TxId}
    {tx : MonitorTx} (found : core.txs.get t = some (.monitor tx))
    (notCreate : tx.change.isCreate = false) (unused : s.txs.get t = none) : clock ≤ tx.now := by
  cases step_tx_source stepped found with
  | stayed inProgress =>
      rw [unused] at inProgress
      cases inProgress
  | advanced before next isPersist => cases isPersist
  | begun jobs attempts fresh begun same =>
      cases begun with
      | monitor id request change now next changed free =>
          cases request with
          | create input =>
              simp only [monitorChange, Option.ite_none_right_eq_some, Option.some.injEq]
                at changed
              rw [← changed.2] at notCreate
              cases notCreate
          | update patch => exact of_decide_eq_true timed
          | pause => exact of_decide_eq_true timed
          | resume => exact of_decide_eq_true timed
          | remove => exact of_decide_eq_true timed

theorem chronicle_ledger_step {config : NetworkConfig} {visited : List (NetworkSystem × Action)}
    {s after : NetworkSystem} {b : LinkAlive.Action} (chronicle : Chronicle visited s)
    (taken : step config s (.core b) = some after)
    (measured : measuredBy (claimTimes visited) s.clock b = true) :
    Chronicle (visited ++ [(s, .core b)]) after := by
  have schedule := schedule_invariant_step chronicle.schedule taken
  have ledger := chronicle.schedule.guarded.ledger
  have times := chronicle.times
  simp only [step, NetworkSystem.ledger, Option.bind_eq_bind, Option.bind_eq_some_iff,
    Option.ite_none_right_eq_some, Bool.and_eq_true] at taken
  obtain ⟨core, stepped, ⟨timed, _⟩, followed⟩ := taken
  obtain ⟨frame, same⟩ := follow_frame followed
  have moved := LinkAlive.step_cases stepped
  refine ⟨schedule, ?_, ?_⟩
  · rw [claim_times_concat, same, frame.clock]
    exact times.step ledger chronicle.schedule.lifecycle moved measured
      fun t tx found notCreate unused => timely_service timed moved found notCreate unused
  · intro id
    rw [same]
    apply (chronicle.applied id).step
    · exact fun time since => since.stays times moved
    · intro time applied
      obtain ⟨t, tx, action, inProgress, rfl, applies, rfl⟩ := applied_time_cases applied
      cases action
      exact ⟨((times.persists t tx inProgress).2 applies).1,
        _, persist_last_checked ledger moved inProgress applies, Nat.le_refl _⟩

theorem chronicle_of_run {config : NetworkConfig} {visited : List (NetworkSystem × Action)}
    {s : NetworkSystem} (run : Transition.Run (step config) NetworkSystem.initial visited s)
    (measured : Measured visited) : Chronicle visited s := by
  induction run with
  | start =>
      refine ⟨schedule_invariant_initial, times_invariant_initial _ _, fun id => ⟨.nil, ?_⟩⟩
      intro time member
      cases member
  | @next middle last earlier a run taken ih =>
      obtain ⟨before, here⟩ := measured_concat measured
      by_cases core : ∃ b, a = .core b
      · obtain ⟨b, rfl⟩ := core
        exact chronicle_ledger_step (ih before) taken here
      · exact chronicle_guard_step (ih before) taken fun b same => core ⟨b, same⟩

/-- Results are applied in the order of their times, every incident is chronological, and
no CHECK constraint of `incidents` rejects what a persist transaction or `cancelRuntime`
writes. -/
structure IncidentChronology (visited : List (NetworkSystem × Action)) (s : NetworkSystem) :
    Prop where
  applied : ∀ id, (appliedTimes visited id).Pairwise (· ≤ ·)
  incidents : ∀ id row, s.core.db.incidents.get id = some row → row.Chronological
  persist : ∀ t tx incidents id row, s.core.txs.get t = some (.persist tx) →
    tx.incident.apply s.core.db.incidents = some incidents → incidents.get id = some row →
      row.accepted = true
  cancel : ∀ t tx id row, s.core.txs.get t = some (.monitor tx) →
    (tx.runtimeWrite s.core.db).incidents.get id = some row → row.accepted = true

/-- Incidents are chronological in every run whose results were measured under its clock. -/
theorem incidents_chronological {config : NetworkConfig}
    {visited : List (NetworkSystem × Action)} {s : NetworkSystem}
    (run : Transition.Run (step config) NetworkSystem.initial visited s)
    (measured : Measured visited) : IncidentChronology visited s := by
  obtain ⟨schedule, times, applied⟩ := chronicle_of_run run measured
  have ledger := schedule.guarded.ledger
  constructor
  · exact fun id => (applied id).order
  · exact fun id row found => (times.incidents id row found).1.chronological
  · intro t tx incidents id row inProgress written found
    have concerns := (ledger.views t _ inProgress).2.1
    have move := persist_incident_row concerns inProgress written found
    exact (incident_move_sound times move).accepted
  · intro t tx id row inProgress found
    have move := runtime_incident_row inProgress found
    exact (incident_move_sound times move).accepted

def outageScript : List Action :=
  Script.createMonitor 61257 ++ [.tick 70000] ++ Script.startCheck 1 70000 ++ [.tick 70500] ++
    Script.persist 1 (LinkAlive.Script.checkResult .targetFailure 70100) 70500 ++
    [.tick 130000] ++ Script.startCheck 2 130000 ++
    [.tick 130500,
      .core (.beginPersist 0 2 Script.guarded (LinkAlive.Script.checkResult .success 130100) 130500),
      .core (.applyEffect 0 2), .core (.resolve 0), .core (.resolve 0), .core (.resolve 0),
      .core (.commit 0)]

/-- The run that opens and resolves an outage. -/
theorem incidents_chronological_sample :
    ∃ visited s, IncidentChronology visited s ∧ appliedTimes visited 1 = [70110, 130110] ∧
      (s.core.db.incidents.get 1).any (fun row => row.status = .resolved) = true := by
  obtain ⟨visited, s, run, tested⟩ := Transition.run_of_replay_satisfies
    (show Transition.replaySatisfies (step Script.config) NetworkSystem.initial outageScript
      (fun visited s => measuredFrom (fun _ => none) visited &&
        decide (appliedTimes visited 1 = [70110, 130110]) &&
        (s.core.db.incidents.get 1).any fun row => row.status = .resolved) = true by decide +kernel)
  simp only [Bool.and_eq_true, decide_eq_true_eq] at tested
  exact ⟨visited, s, incidents_chronological run tested.1.1, tested.1.2, tested.2⟩

end LinkAlive.Network
