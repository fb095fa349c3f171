import LinkAlive.Ledger.Incidents
import LinkAlive.Ledger.MonitorRows

/-!
# The order of times in the ledger

What the ledger knows about time: the last check of a monitor, the streak and the open
incident that lie before it, and the results and operations in progress that lie after
it. A result that is still to be applied belongs to the only active check of its monitor,
which was claimed after the last check.
-/

namespace LinkAlive

open Relational

set_option autoImplicit false

def lastChecked (db : Database) (id : MonitorId) : Option Time :=
  (db.monitors.get id).bind MonitorRow.lastCheckedAt

def CheckedBy (db : Database) (id : MonitorId) (bound : Time) : Prop :=
  ∀ time, lastChecked db id = some time → time ≤ bound

def CheckedSince (db : Database) (id : MonitorId) (start : Time) : Prop :=
  ∃ time, lastChecked db id = some time ∧ start ≤ time

theorem CheckedSince.before {db : Database} {id : MonitorId} {start bound : Time}
    (since : CheckedSince db id start) (by_ : CheckedBy db id bound) : start ≤ bound := by
  obtain ⟨time, last, later⟩ := since
  exact Nat.le_trans later (by_ time last)

def PersistTx.applies (tx : PersistTx) : Bool := tx.transition.any StateTransitionResult.applied

theorem persist_monitor_last_checked (tx : PersistTx) (row : MonitorRow) :
    (tx.monitorWrite row).lastCheckedAt =
      if tx.applies then some tx.result.finishedAt else row.lastCheckedAt := by
  unfold PersistTx.monitorWrite PersistTx.applies
  cases tx.transition with
  | none => rfl
  | some transition =>
      simp only [Option.any_some]
      split
      · rfl
      · split <;> rfl

/-- A result that is not applied leaves the streak alone. -/
theorem persist_monitor_streak {tx : PersistTx} (applies : tx.applies = false)
    (row : MonitorRow) :
    (tx.monitorWrite row).failureStreakStartedAt = row.failureStreakStartedAt := by
  unfold PersistTx.applies at applies
  unfold PersistTx.monitorWrite
  cases returned : tx.transition with
  | none => rfl
  | some transition =>
      rw [returned, Option.any_some] at applies
      simp only [applies, Bool.false_eq_true, if_false]
      split <;> rfl

theorem monitor_write_times (tx : MonitorTx) (row : MonitorRow) :
    (tx.monitorWrite row).lastCheckedAt = row.lastCheckedAt ∧
      ((tx.monitorWrite row).failureStreakStartedAt = row.failureStreakStartedAt ∨
        (tx.monitorWrite row).failureStreakStartedAt = none) := by
  unfold MonitorTx.monitorWrite
  split
  · exact ⟨rfl, .inl rfl⟩
  · exact ⟨rfl, .inl rfl⟩
  · exact ⟨rfl, .inr rfl⟩
  · exact ⟨rfl, .inr rfl⟩
  · exact ⟨rfl, .inr rfl⟩
  · exact ⟨rfl, .inr rfl⟩

theorem unscheduled_times {row other : MonitorRow} (same : row.unscheduled = other.unscheduled) :
    row.lastCheckedAt = other.lastCheckedAt ∧
      row.failureStreakStartedAt = other.failureStreakStartedAt := by
  have checked : row.unscheduled.lastCheckedAt = other.unscheduled.lastCheckedAt := by rw [same]
  have streak : row.unscheduled.failureStreakStartedAt =
      other.unscheduled.failureStreakStartedAt := by rw [same]
  exact ⟨checked, streak⟩

theorem step_last_checked {s after : System} {a : Action} (stepped : Stepped s a after)
    (id : MonitorId) : lastChecked after.db id = lastChecked s.db id ∨
      ∃ t tx, a = .commit t ∧ s.txs.get t = some (.persist tx) ∧ tx.monitorId = id ∧
        tx.applies = true ∧ lastChecked after.db id = some tx.result.finishedAt := by
  cases found : after.db.monitors.get id with
  | none =>
      left
      cases before : s.db.monitors.get id with
      | none => simp [lastChecked, found, before]
      | some row =>
          obtain ⟨next, stored⟩ := step_monitor_stays stepped before
          rw [found] at stored
          cases stored
  | some next =>
      have last : lastChecked after.db id = next.lastCheckedAt := by simp [lastChecked, found]
      rw [last]
      cases step_monitor_row stepped found with
      | kept before => simp [lastChecked, before]
      | recorded t tx row committed inProgress own before same =>
          have checked := persist_monitor_last_checked tx row
          rw [← same] at checked
          cases applies : tx.applies with
          | true =>
              rw [applies, if_pos rfl] at checked
              exact .inr ⟨t, tx, committed, inProgress, own, applies, checked⟩
          | false =>
              rw [applies, if_neg (by simp)] at checked
              left
              simp [lastChecked, before, checked]
      | rescheduled t tx row _ _ before same =>
          left
          simp [lastChecked, before, (unscheduled_times same).1]
      | created t tx input _ _ _ _ absent same =>
          left
          simp [lastChecked, absent, same, newMonitorRow]
      | administered t tx row _ _ _ _ before same =>
          left
          simp [lastChecked, before, same, (monitor_write_times tx row).1]

theorem persist_applies_cases {db : Database} {tx : PersistTx} (view : PersistView db tx)
    (applies : tx.applies = true) :
    tx.check.status.isActive = true ∧ ∃ transition, tx.transition = some transition ∧
      transition.applied = true ∧
        applyCheckResult tx.monitor.state (transitionInput tx.check tx.monitor tx.result) =
          .ok transition := by
  obtain ⟨transition, returned, applied⟩ := Option.any_eq_true _ _ |>.1 applies
  rcases persist_transition_cases view.transition with ⟨_, nothing⟩ | ⟨other, valid, same, ok⟩
  · rw [nothing] at returned
    cases returned
  · rw [returned, Option.some_inj] at same
    subst same
    rw [persistValid, Bool.and_eq_true, Bool.and_eq_true] at valid
    exact ⟨valid.1.1, transition, returned, applied, ok⟩

theorem persist_effect_applies {tx : PersistTx} (effect : tx.incidentEffect ≠ .none) :
    tx.applies = true := by
  unfold PersistTx.incidentEffect at effect
  unfold PersistTx.applies
  cases returned : tx.transition with
  | none =>
      rw [returned] at effect
      exact absurd rfl effect
  | some transition =>
      rw [returned] at effect
      cases applied : transition.applied with
      | true => simp [applied]
      | false => simp [applied] at effect

/-- The write to `incidents` that a result of this time asks for. -/
def TimedWrite (tx : PersistTx) : IncidentWrite → Prop
  | .create _ row => tx.applies = true ∧ row.Sound ∧ row.detectedAt = tx.result.finishedAt
  | .resolve _ time => tx.applies = true ∧ time = tx.result.finishedAt
  | .none | .touch .. => True

theorem persist_timed {db : Database} {tx : PersistTx} (view : PersistView db tx)
    (applies : tx.applies = true)
    (streak : ∀ started, tx.monitor.failureStreakStartedAt = some started →
      started ≤ tx.result.finishedAt) :
    (∀ started, (tx.monitorWrite tx.monitor).failureStreakStartedAt = some started →
      started ≤ tx.result.finishedAt) ∧ tx.incidentEffect.timed tx.result.finishedAt := by
  obtain ⟨_, transition, returned, applied, ok⟩ := persist_applies_cases view applies
  have timed := apply_check_result_timed ok rfl streak
  constructor
  · rw [PersistTx.monitorWrite, returned]
    simp only [applied, if_true]
    exact timed.1
  · rw [PersistTx.incidentEffect, returned]
    simp only [applied, if_true]
    exact timed.2

theorem apply_effect_timed {db : Database} {tx : PersistTx} (untouched : tx.incident = .none)
    (version : 1 ≤ tx.monitor.configVersion)
    (timed : tx.applies = true → tx.incidentEffect.timed tx.result.finishedAt)
    (newIncidentId : IncidentId) :
    TimedWrite tx (applyIncidentEffect db tx newIncidentId).incident := by
  have nothing : TimedWrite tx tx.incident := by
    rw [untouched]
    trivial
  unfold applyIncidentEffect
  split
  · exact nothing
  · rename_i firstFailureAt detectedAt firstErrorType lastErrorType effect
    split
    · trivial
    · have applies : tx.applies = true := persist_effect_applies (by simp [effect])
      have times := timed applies
      rw [effect] at times
      exact ⟨applies, new_incident_sound version times.1 _ _, times.2⟩
  · split
    · trivial
    · exact nothing
  · rename_i resolvedAt reason effect
    split
    · have applies : tx.applies = true := persist_effect_applies (by simp [effect])
      have times := timed applies
      rw [effect] at times
      exact ⟨applies, times⟩
    · exact nothing
  · exact nothing

abbrev ClaimTimes := JobId → Option Time

def ClaimTimes.after (claims : ClaimTimes) (clock : Time) : Action → ClaimTimes
  | .claimCheck job _ _ _ => fun other => if other = job then some clock else claims other
  | _ => claims

def measuredBy (claims : ClaimTimes) (clock : Time) : Action → Bool
  | .beginPersist _ job _ result _ =>
      decide (result.finishedAt ≤ clock) &&
        (claims job).all fun claimed : Time => decide (claimed ≤ result.finishedAt)
  | _ => true

structure TimesInvariant (claims : ClaimTimes) (clock : Time) (s : System) : Prop where
  past : ∀ id, CheckedBy s.db id clock
  streaks : ∀ id row started, s.db.monitors.get id = some row →
    row.failureStreakStartedAt = some started → CheckedSince s.db id started
  incidents : ∀ id row, s.db.incidents.get id = some row →
    row.Sound ∧ (row.status = .opened → CheckedSince s.db row.monitorId row.detectedAt)
  jobs : ∀ job id check monitor row, s.jobs.get job = some (.running id check monitor) →
    s.db.checks.get id = some row → row.status.isActive = true →
      ∃ time, claims job = some time ∧ CheckedBy s.db row.monitorId time
  persists : ∀ t tx, s.txs.get t = some (.persist tx) → TimedWrite tx tx.incident ∧
    (tx.applies = true →
      CheckedBy s.db tx.monitorId tx.result.finishedAt ∧ tx.result.finishedAt ≤ clock)
  services : ∀ t tx, s.txs.get t = some (.monitor tx) → tx.change.isCreate = false →
    CheckedBy s.db tx.id tx.now

theorem times_invariant_initial (claims : ClaimTimes) (clock : Time) :
    TimesInvariant claims clock System.initial := by
  constructor
  · intro id time last
    cases last
  · intro id row started found
    cases found
  · intro id row found
    cases found
  · intro job id check monitor row found
    cases found
  · intro t tx found
    cases found
  · intro t tx found
    cases found

theorem TimesInvariant.later {claims : ClaimTimes} {clock now : Time} {s : System}
    (times : TimesInvariant claims clock s) (later : clock ≤ now) : TimesInvariant claims now s where
  past id time last := Nat.le_trans (times.past id time last) later
  streaks := times.streaks
  incidents := times.incidents
  jobs := times.jobs
  persists t tx inProgress := by
    obtain ⟨write, applied⟩ := times.persists t tx inProgress
    refine ⟨write, fun applies => ?_⟩
    obtain ⟨by_, past⟩ := applied applies
    exact ⟨by_, Nat.le_trans past later⟩
  services := times.services

section Step

variable {claims : ClaimTimes} {clock : Time} {s after : System} {a : Action}

theorem CheckedSince.stays (times : TimesInvariant claims clock s) (stepped : Stepped s a after)
    {id : MonitorId} {start : Time} (since : CheckedSince s.db id start) :
    CheckedSince after.db id start := by
  rcases step_last_checked stepped id with same | ⟨t, tx, _, inProgress, own, applies, last⟩
  · rw [CheckedSince, same]
    exact since
  · obtain ⟨by_, _⟩ := (times.persists t tx inProgress).2 applies
    rw [own] at by_
    exact ⟨_, last, since.before by_⟩

theorem CheckedBy.stays (ledger : LedgerInvariant s) (stepped : Stepped s a after) {t : TxId}
    {tx : Transaction} (inProgress : s.txs.get t = some tx)
    (stays : (after.txs.get t).isSome = true) {id : MonitorId} (held : tx.locksMonitor id = true)
    {bound : Time} (by_ : CheckedBy s.db id bound) : CheckedBy after.db id bound := by
  have kept := (step_undisturbed ledger stepped inProgress stays).monitors id held
  intro time last
  rw [lastChecked, kept] at last
  exact by_ time last

theorem persist_last_checked (ledger : LedgerInvariant s) {t : TxId} {tx : PersistTx}
    (stepped : Stepped s (.commit t) after) (inProgress : s.txs.get t = some (.persist tx))
    (applies : tx.applies = true) :
    lastChecked after.db tx.monitorId = some tx.result.finishedAt := by
  have view := (ledger.views t _ inProgress).1
  obtain ⟨_, _, _, _, _, _, same⟩ := persist_commit_cases (persist_committed stepped inProgress).2
  rw [lastChecked, same, Table.get_update_key_self, view.monitor, Option.map_some,
    Option.bind_some, persist_monitor_last_checked, applies, if_pos rfl]

theorem times_past_step (times : TimesInvariant claims clock s) (stepped : Stepped s a after)
    (id : MonitorId) : CheckedBy after.db id clock := by
  intro time last
  rcases step_last_checked stepped id with same | ⟨t, tx, _, inProgress, _, applies, moved⟩
  · rw [same] at last
    exact times.past id time last
  · rw [moved, Option.some_inj] at last
    rw [← last]
    exact ((times.persists t tx inProgress).2 applies).2

theorem times_streaks_step (ledger : LedgerInvariant s) (times : TimesInvariant claims clock s)
    (stepped : Stepped s a after) {id : MonitorId} {next : MonitorRow} {started : Time}
    (found : after.db.monitors.get id = some next)
    (streak : next.failureStreakStartedAt = some started) : CheckedSince after.db id started := by
  have kept : ∀ row, s.db.monitors.get id = some row →
      row.failureStreakStartedAt = some started → CheckedSince after.db id started := by
    intro row before same
    exact (times.streaks id row started before same).stays times stepped
  cases step_monitor_row stepped found with
  | kept before => exact kept next before streak
  | recorded t tx row committed inProgress own before same =>
      have view := (ledger.views t _ inProgress).1
      subst own
      rw [view.monitor, Option.some_inj] at before
      subst before
      cases applies : tx.applies with
      | true =>
          subst committed
          obtain ⟨by_, _⟩ := (times.persists t tx inProgress).2 applies
          have timed := persist_timed view applies fun started' since =>
            (times.streaks _ _ started' view.monitor since).before by_
          rw [same] at streak
          exact ⟨_, persist_last_checked ledger stepped inProgress applies,
            timed.1 started streak⟩
      | false =>
          apply kept _ view.monitor
          rw [← streak, same]
          exact (persist_monitor_streak applies tx.monitor).symm
  | rescheduled t tx row _ _ before same =>
      apply kept row before
      rw [← (unscheduled_times same).2]
      exact streak
  | created t tx input _ _ _ _ _ same =>
      rw [same] at streak
      cases streak
  | administered t tx row _ _ _ _ before same =>
      rw [same] at streak
      rcases (monitor_write_times tx row).2 with unchanged | cleared
      · exact kept row before (unchanged ▸ streak)
      · rw [cleared] at streak
        cases streak

theorem incident_move_sound (times : TimesInvariant claims clock s) {id : IncidentId}
    {next : IncidentRow} (move : IncidentRowMove s a id next) : next.Sound := by
  cases move with
  | kept before => exact (times.incidents id next before).1
  | created t tx _ inProgress write =>
      have timed := (times.persists t tx inProgress).1
      rw [write] at timed
      exact timed.2.1
  | touched t tx row error _ _ _ before _ isOpen same =>
      rw [same]
      exact (times.incidents id row before).1.touched isOpen error
  | resolved t tx row time _ inProgress write before owner isOpen same =>
      obtain ⟨sound, since⟩ := times.incidents id row before
      obtain ⟨timed, checked⟩ := times.persists t tx inProgress
      rw [write] at timed
      have detected := since isOpen
      rw [owner] at detected
      rw [same, timed.2]
      exact sound.resolved isOpen (detected.before (checked timed.1).1)
  | canceled t tx row reason attempts _ inProgress cancels before owner isOpen same =>
      obtain ⟨sound, since⟩ := times.incidents id row before
      have notCreate : tx.change.isCreate = false := by
        cases change : tx.change with
        | create input =>
            rw [change] at cancels
            cases cancels
        | update => rfl
        | pause => rfl
        | resume => rfl
        | remove => rfl
      have detected := since isOpen
      rw [owner] at detected
      rw [same]
      exact sound.canceled isOpen (detected.before (times.services t tx inProgress notCreate))
        (cancels_administrative cancels)

theorem times_incidents_step (ledger : LedgerInvariant s) (times : TimesInvariant claims clock s)
    (stepped : Stepped s a after) {id : IncidentId} {next : IncidentRow}
    (found : after.db.incidents.get id = some next) :
    next.Sound ∧
      (next.status = .opened → CheckedSince after.db next.monitorId next.detectedAt) := by
  have move := step_incident_row ledger stepped found
  refine ⟨incident_move_sound times move, fun status => ?_⟩
  cases move with
  | kept before => exact ((times.incidents id next before).2 status).stays times stepped
  | created t tx committed inProgress write =>
      subst committed
      obtain ⟨_, concerns, _⟩ := ledger.views t _ inProgress
      have timed := (times.persists t tx inProgress).1
      rw [write] at timed
      obtain ⟨applies, _, detectedAt⟩ := timed
      rw [(concerns.created write).1, detectedAt]
      exact ⟨_, persist_last_checked ledger stepped inProgress applies, Nat.le_refl _⟩
  | touched t tx row error _ _ _ before _ isOpen same =>
      rw [same]
      exact ((times.incidents id row before).2 isOpen).stays times stepped
  | resolved t tx row time _ _ _ _ _ _ same =>
      rw [same] at status
      cases status
  | canceled t tx row reason attempts _ _ _ _ _ _ same =>
      rw [same] at status
      cases status

/-- Where a job that runs its check comes from. -/
inductive RunningSource (s : System) (a : Action) (job : JobId) (id : CheckId) (check : CheckRow)
    (monitor : MonitorRow) : Prop
  | stayed : s.jobs.get job = some (.running id check monitor) →
      (∀ owner leaseMs now, a ≠ .claimCheck job owner leaseMs now) →
        RunningSource s a job id check monitor
  | claimed (owner : InstanceId) (leaseMs : Nat) (now : Time) :
      a = .claimCheck job owner leaseMs now → s.jobs.get job = some (.current id check monitor) →
        RunningSource s a job id check monitor

theorem loads_not_running {db : Database} :
    (∀ data loaded, loadCheck db data = some loaded →
      ∀ id check monitor, loaded ≠ .running id check monitor) ∧
    ∀ cid row loaded, loadMonitor db cid row = some loaded →
      ∀ id check monitor, loaded ≠ .running id check monitor := by
  constructor
  · rintro data loaded reads id check monitor rfl
    simp only [loadCheck, Option.bind_eq_bind, Option.bind_eq_some_iff] at reads
    obtain ⟨_, _, reads⟩ := reads
    split at reads
    · cases reads
    · split at reads <;> cases reads
  · rintro cid row loaded reads id check monitor rfl
    simp only [loadMonitor, Option.bind_eq_bind, Option.bind_eq_some_iff] at reads
    obtain ⟨_, _, reads⟩ := reads
    split at reads
    · cases reads
    · split at reads <;> cases reads

theorem step_running_source (stepped : Stepped s a after) {job : JobId} {id : CheckId}
    {check : CheckRow} {monitor : MonitorRow}
    (found : after.jobs.get job = some (.running id check monitor)) :
    RunningSource s a job id check monitor := by
  cases stepped with
  | ledger _ checks jobs statement =>
      cases statement with
      | claimForDispatch => exact .stayed found (by simp)
      | markEnqueued => exact .stayed found (by simp)
      | releaseDispatchClaim => exact .stayed found (by simp)
      | loadCheck other data read reads =>
          dsimp only at found
          rw [Table.get_put] at found
          split at found
          · rw [Option.some_inj] at found
            exact absurd found (loads_not_running.1 data read reads id check monitor)
          · exact .stayed found (by simp)
      | loadMonitor other cid row read scheduled reads =>
          dsimp only at found
          rw [Table.get_put] at found
          split at found
          · rw [Option.some_inj] at found
            exact absurd found (loads_not_running.2 cid row read reads id check monitor)
          · exact .stayed found (by simp)
      | cancelStale other cid now stale =>
          dsimp only at found
          rw [Table.get_remove] at found
          split at found
          · cases found
          · exact .stayed found (by simp)
      | claimCheck other cid row read owner leaseMs now current =>
          dsimp only at found
          by_cases own : job = other
          · subst own
            split at found
            · rw [Table.get_put, if_pos rfl] at found
              cases found
              exact .claimed owner leaseMs now rfl current
            · rw [Table.get_remove, if_pos rfl] at found
              cases found
          · have before : s.jobs.get job = some (.running id check monitor) := by
              split at found
              · rw [Table.get_put, if_neg own] at found
                exact found
              · rw [Table.get_remove, if_neg own] at found
                exact found
            refine .stayed before ?_
            intro owner' leaseMs' now' same
            cases same
            exact own rfl
  | began _ t tx jobs attempts begun =>
      cases begun with
      | persist other cid row original config result databaseTime =>
          dsimp only at found
          rw [Table.get_remove] at found
          split at found
          · cases found
          · exact .stayed found (by simp)
      | monitor => exact .stayed found (by simp)
      | channel => exact .stayed found (by simp)
      | createDue => exact .stayed found (by simp)
      | claim => exact .stayed found (by simp)
      | markSent => exact .stayed found (by simp)
  | advanced _ t tx next inProgress advance =>
      refine .stayed found ?_
      rintro owner leaseMs now rfl
      cases advance
  | dispatcher _ outbox dispatchers statement =>
      refine .stayed found ?_
      rintro owner leaseMs now rfl
      cases statement
  | channel => exact .stayed found (by simp)
  | failed => exact .stayed found (by simp)
  | committed => exact .stayed found (by simp)
  | aborted => exact .stayed found (by simp)

theorem ClaimTimes.after_other {job : JobId}
    (other : ∀ owner leaseMs now, a ≠ .claimCheck job owner leaseMs now) :
    claims.after clock a job = claims job := by
  unfold ClaimTimes.after
  split
  · rename_i claimed owner leaseMs now
    have different : job ≠ claimed := by
      rintro rfl
      exact other owner leaseMs now rfl
    exact if_neg different
  · rfl

theorem applied_check_completed (ledger : LedgerInvariant s) {t : TxId} {tx : PersistTx}
    (stepped : Stepped s (.commit t) after) (inProgress : s.txs.get t = some (.persist tx))
    (applies : tx.applies = true) {id : CheckId} {next : CheckRow}
    (found : after.db.checks.get id = some next) (own : next.monitorId = tx.monitorId) :
    next.status.isActive = false := by
  have view := (ledger.views t _ inProgress).1
  obtain ⟨row, stored, slot, same⟩ := view.check
  have readActive := (persist_applies_cases view applies).1
  obtain ⟨_, _, _, _, _, _, database⟩ :=
    persist_commit_cases (persist_committed stepped inProgress).2
  have checks : after.db.checks =
      s.db.checks.updateKey tx.checkId fun row => row.completed tx.result.finishedAt := by
    rw [database]
    apply if_neg
    intro canceled
    rw [canceled] at readActive
    cases readActive
  rw [checks] at found
  by_cases target : id = tx.checkId
  · rw [target, Table.get_update_key_self, stored, Option.map_some, Option.some_inj] at found
    rw [← found]
    rfl
  · rw [Table.get_update_key_other _ _ target] at found
    cases active : next.status.isActive with
    | false => rfl
    | true =>
        exact absurd (ledger.consistent.single id tx.checkId next row found stored active
          (same.trans readActive) (own.trans slot.1.symm)) target

theorem times_jobs_step (ledger : LedgerInvariant s) (times : TimesInvariant claims clock s)
    (stepped : Stepped s a after) {job : JobId} {id : CheckId} {check : CheckRow}
    {monitor : MonitorRow} {next : CheckRow}
    (running : after.jobs.get job = some (.running id check monitor))
    (found : after.db.checks.get id = some next) (active : next.status.isActive = true) :
    ∃ time, claims.after clock a job = some time ∧ CheckedBy after.db next.monitorId time := by
  cases step_running_source stepped running with
  | claimed owner leaseMs now same =>
      subst same
      exact ⟨clock, if_pos rfl, times_past_step times stepped next.monitorId⟩
  | stayed before other =>
      obtain ⟨row, stored, _⟩ := ledger.jobs job _ before
      obtain ⟨moved, storedNext, move⟩ := step_check_move ledger stepped stored
      rw [found, Option.some_inj] at storedNext
      subst storedNext
      obtain ⟨time, claimed, by_⟩ :=
        times.jobs job id check monitor row before stored (move.active_before active)
      rw [ClaimTimes.after_other other]
      refine ⟨time, claimed, ?_⟩
      rw [move.slot.1]
      rcases step_last_checked stepped row.monitorId with same | ⟨t, tx, rfl, inProgress, own,
        applies, _⟩
      · rw [CheckedBy, same]
        exact by_
      · have completed := applied_check_completed ledger stepped inProgress applies found
          (move.slot.1.trans own.symm)
        rw [active] at completed
        cases completed

theorem persist_begin_reads {db : Database} {id : CheckId} {original : MonitorRow}
    {config : CheckProcessorConfig} {result : MonitorCheckResult} {databaseTime : Time}
    {tx : PersistTx} (started : persistBegin db id original config result databaseTime = some tx) :
    tx.checkId = id ∧ tx.result = result := by
  simp only [persistBegin, Option.bind_eq_bind, Option.bind_eq_some_iff] at started
  obtain ⟨check, _, started⟩ := started
  split at started
  · cases started
  · simp only [Option.bind_eq_some_iff] at started
    obtain ⟨monitor, _, transition, _, built⟩ := started
    cases built
    exact ⟨rfl, rfl⟩

theorem times_persist_begins (ledger : LedgerInvariant s) (times : TimesInvariant claims clock s)
    {t : TxId} {tx : PersistTx} {jobs : Jobs} {attempts : Attempts}
    (begun : TxBegin s t a (.persist tx) jobs attempts) (measured : measuredBy claims clock a = true)
    (applies : tx.applies = true) :
    CheckedBy s.db tx.monitorId tx.result.finishedAt ∧ tx.result.finishedAt ≤ clock := by
  have view : PersistView s.db tx := (tx_begin_view ledger.consistent begun).1
  cases begun with
  | persist job id check original config result databaseTime _ running started free =>
      obtain ⟨checkId, same⟩ := persist_begin_reads started
      obtain ⟨row, stored, slot, activity⟩ := view.check
      have readActive := (persist_applies_cases view applies).1
      rw [checkId] at stored
      obtain ⟨time, claimed, by_⟩ :=
        times.jobs job id check original row running stored (activity.trans readActive)
      simp only [measuredBy, claimed, Option.all_some, Bool.and_eq_true, decide_eq_true_eq]
        at measured
      rw [slot.1] at by_
      rw [same]
      exact ⟨fun last found => Nat.le_trans (by_ last found) measured.2, measured.1⟩

theorem TimedWrite.moved {tx next : PersistTx} {write : IncidentWrite} (timed : TimedWrite tx write)
    (applies : next.applies = tx.applies) (result : next.result = tx.result) :
    TimedWrite next write := by
  unfold TimedWrite at timed ⊢
  rw [applies, result]
  exact timed

theorem times_persists_step (ledger : LedgerInvariant s) (lifecycle : LifecycleInvariant s)
    (times : TimesInvariant claims clock s) (measured : measuredBy claims clock a = true)
    (stepped : Stepped s a after) {t : TxId} {tx : PersistTx}
    (found : after.txs.get t = some (.persist tx)) :
    TimedWrite tx tx.incident ∧ (tx.applies = true →
      CheckedBy after.db tx.monitorId tx.result.finishedAt ∧ tx.result.finishedAt ≤ clock) := by
  cases step_tx_source stepped found with
  | stayed inProgress =>
      obtain ⟨write, applied⟩ := times.persists t tx inProgress
      refine ⟨write, fun applies => ?_⟩
      obtain ⟨by_, past⟩ := applied applies
      have held : (Transaction.persist tx).locksMonitor tx.monitorId = true := by
        simp [Transaction.locksMonitor]
      exact ⟨by_.stays ledger stepped inProgress (by rw [found]; rfl) held, past⟩
  | advanced before next isPersist inProgress advance same =>
      cases isPersist
      obtain ⟨write, applied⟩ := times.persists t before inProgress
      obtain ⟨_, _, check, _, result, transition⟩ := advance_kept advance
      have applies : tx.applies = before.applies := by
        rw [PersistTx.applies, PersistTx.applies, transition]
      have monitorId : tx.monitorId = before.monitorId := by
        rw [PersistTx.monitorId, PersistTx.monitorId, check]
      constructor
      · apply TimedWrite.moved _ applies result
        cases advance with
        | effect newIncidentId begun =>
            obtain ⟨view, _, fresh⟩ := ledger.views t _ inProgress
            apply apply_effect_timed (fresh begun).1 (lifecycle.version _ _ view.monitor)
            intro here
            apply (persist_timed view here _).2
            intro started since
            exact (times.streaks _ _ started view.monitor since).before (applied here).1
        | resolve _ resolved =>
            rw [(resolve_step_kept resolved).2.2.2.2.2.2]
            exact write
      · rw [applies, monitorId, result, same]
        exact applied
  | begun jobs attempts unused begun same =>
      constructor
      · cases begun with
        | persist job id check original config result databaseTime _ running started free =>
            rw [(persist_begin_fresh started).2.1]
            trivial
      · intro applies
        rw [same]
        exact times_persist_begins ledger times begun measured applies

theorem times_services_step (ledger : LedgerInvariant s) (times : TimesInvariant claims clock s)
    (stepped : Stepped s a after) {t : TxId} {tx : MonitorTx}
    (found : after.txs.get t = some (.monitor tx)) (notCreate : tx.change.isCreate = false)
    (served : s.txs.get t = none → clock ≤ tx.now) : CheckedBy after.db tx.id tx.now := by
  cases step_tx_source stepped found with
  | stayed inProgress =>
      have held : (Transaction.monitor tx).locksMonitor tx.id = true := by
        simp [Transaction.locksMonitor]
      exact (times.services t tx inProgress notCreate).stays ledger stepped inProgress
        (by rw [found]; rfl) held
  | advanced before next isPersist => cases isPersist
  | begun jobs attempts unused begun same =>
      intro time last
      exact Nat.le_trans (times_past_step times stepped tx.id time last) (served unused)

theorem TimesInvariant.step (ledger : LedgerInvariant s) (lifecycle : LifecycleInvariant s)
    (times : TimesInvariant claims clock s) (stepped : Stepped s a after)
    (measured : measuredBy claims clock a = true)
    (served : ∀ t tx, after.txs.get t = some (.monitor tx) → tx.change.isCreate = false →
      s.txs.get t = none → clock ≤ tx.now) : TimesInvariant (claims.after clock a) clock after where
  past := times_past_step times stepped
  streaks _ _ _ found streak := times_streaks_step ledger times stepped found streak
  incidents _ _ found := times_incidents_step ledger times stepped found
  jobs _ _ _ _ _ running found active := times_jobs_step ledger times stepped running found active
  persists _ _ found := times_persists_step ledger lifecycle times measured stepped found
  services t tx found notCreate :=
    times_services_step ledger times stepped found notCreate (served t tx found notCreate)

end Step

end LinkAlive
