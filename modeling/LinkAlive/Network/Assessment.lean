import LinkAlive.Ledger.Health
import LinkAlive.Network.Script

/-!
# The assessment of a failure

`assess` of `apps/worker/src/network-guard.ts` as one function of what it waits for, and what
a result that it holds back does to the ledger.
-/

namespace LinkAlive.Network

set_option autoImplicit false

open Relational

structure NetworkAssessment where
  result : MonitorCheckResult
  outageId : Option OutageId
deriving DecidableEq, Repr

/-- `assess`, where `retried` is what the retry answers and the snapshots are those of the
first inspection and of the confirming one. -/
def assess (result retried : MonitorCheckResult) (first second : Snapshot) : NetworkAssessment :=
  if !isNetworkFailure result then ⟨result, none⟩
  else
    match first.status with
    | .disabled => ⟨result, none⟩
    | .online =>
        if !isNetworkFailure retried then ⟨retried, none⟩
        else
          match second.status with
          | .online | .disabled => ⟨retried, none⟩
          | .unknown | .offline => ⟨inconclusiveNetworkResult retried, second.outageId⟩
    | .unknown | .offline => ⟨inconclusiveNetworkResult result, first.outageId⟩

/-- The failure is confirmed: the references were not asked, or they answered before the
retry and after it. -/
def Confirmed (retried : MonitorCheckResult) (first second : Snapshot) : Prop :=
  first.status = .disabled ∨
    first.status = .online ∧ isNetworkFailure retried = true ∧
      (second.status = .online ∨ second.status = .disabled)

/-- The stages of an assessment in the system end after the first inspection, or after the one
that confirms a second failure. -/
inductive Staged (worker : WorkerId) (result retried : MonitorCheckResult)
    (first second : Snapshot) (assessed : MonitorCheckResult) (outageId : Option OutageId) : Prop
  | judged : NetworkSystem.judge worker result first = .assessed assessed outageId →
      Staged worker result retried first second assessed outageId
  | confirmed : NetworkSystem.judge worker result first = .retrying worker result →
      isNetworkFailure retried = true →
      NetworkSystem.confirm retried second = .assessed assessed outageId →
      Staged worker result retried first second assessed outageId

structure Assessed (result retried : MonitorCheckResult) (first second : Snapshot)
    (assessment : NetworkAssessment) : Prop where
  advances : isNetworkFailure assessment.result = true → Confirmed retried first second
  unchanged : isNetworkFailure result = false → assessment = ⟨result, none⟩
  answered : isNetworkFailure result = true → first.status = .online →
    isNetworkFailure retried = false → assessment = ⟨retried, none⟩
  suppressed : assessment.result = result ∨ assessment.result = retried ∨
    ∃ failed ∈ [result, retried], isNetworkFailure failed = true ∧
      assessment.result =
        { failed with
          outcome := .inconclusive
          errorMessageSafe := assessment.result.errorMessageSafe }
  /-- The stages that the system goes through end with the same. -/
  staged : isNetworkFailure result = true → ∀ worker assessed outageId,
    Staged worker result retried first second assessed outageId →
      assessment = ⟨assessed, outageId⟩

@[simp] theorem inconclusive_no_failure (result : MonitorCheckResult) :
    isNetworkFailure (inconclusiveNetworkResult result) = false := by
  simp [isNetworkFailure, inconclusiveNetworkResult]

theorem assess_passed {result retried : MonitorCheckResult} {first second : Snapshot}
    (passed : isNetworkFailure result = false) :
    assess result retried first second = ⟨result, none⟩ := by
  simp [assess, passed]

theorem assess_answered {result retried : MonitorCheckResult} {first second : Snapshot}
    (failed : isNetworkFailure result = true) (online : first.status = .online)
    (passed : isNetworkFailure retried = false) :
    assess result retried first second = ⟨retried, none⟩ := by
  simp [assess, failed, online, passed]

theorem assess_advances {result retried : MonitorCheckResult} {first second : Snapshot}
    (advancing : isNetworkFailure (assess result retried first second).result = true) :
    Confirmed retried first second := by
  unfold assess at advancing
  split at advancing
  next passed => simp_all
  next =>
    split at advancing
    next disabled => exact .inl disabled
    next online =>
      split at advancing
      next passed => simp_all
      next failed =>
        have again : isNetworkFailure retried = true := by simpa using failed
        split at advancing
        next online' => exact .inr ⟨online, again, .inl online'⟩
        next disabled => exact .inr ⟨online, again, .inr disabled⟩
        all_goals simp at advancing
    all_goals simp at advancing

theorem assess_suppressed (result retried : MonitorCheckResult) (first second : Snapshot) :
    (assess result retried first second).result = result ∨
      (assess result retried first second).result = retried ∨
      ∃ failed ∈ [result, retried], isNetworkFailure failed = true ∧
        (assess result retried first second).result = inconclusiveNetworkResult failed := by
  unfold assess
  split
  next => exact .inl rfl
  next failed =>
    have failure : isNetworkFailure result = true := by simpa using failed
    split
    next => exact .inl rfl
    next =>
      split
      next => exact .inr (.inl rfl)
      next failed =>
        have again : isNetworkFailure retried = true := by simpa using failed
        split
        next => exact .inr (.inl rfl)
        next => exact .inr (.inl rfl)
        all_goals exact .inr (.inr ⟨retried, by simp, again, rfl⟩)
    all_goals exact .inr (.inr ⟨result, by simp, failure, rfl⟩)

theorem judge_assessed {worker : WorkerId} {result assessed retried : MonitorCheckResult}
    {first second : Snapshot} {outageId : Option OutageId}
    (failed : isNetworkFailure result = true)
    (judged : NetworkSystem.judge worker result first = .assessed assessed outageId) :
    assess result retried first second = ⟨assessed, outageId⟩ := by
  unfold NetworkSystem.judge at judged
  split at judged <;> cases judged <;> simp [assess, *]

theorem confirm_assessed {worker : WorkerId} {result retried assessed : MonitorCheckResult}
    {first second : Snapshot} {outageId : Option OutageId}
    (failed : isNetworkFailure result = true) (again : isNetworkFailure retried = true)
    (judged : NetworkSystem.judge worker result first = .retrying worker result)
    (confirmed : NetworkSystem.confirm retried second = .assessed assessed outageId) :
    assess result retried first second = ⟨assessed, outageId⟩ := by
  have online : first.status = .online := by
    unfold NetworkSystem.judge at judged
    split at judged <;> first | assumption | cases judged
  unfold NetworkSystem.confirm at confirmed
  split at confirmed <;> cases confirmed <;> simp [assess, *]

theorem assess_assessed (result retried : MonitorCheckResult) (first second : Snapshot) :
    Assessed result retried first second (assess result retried first second) where
  advances := assess_advances
  unchanged := assess_passed
  answered := assess_answered
  suppressed := by
    rcases assess_suppressed result retried first second with
      same | same | ⟨failed, member, failure, held⟩
    · exact .inl same
    · exact .inr (.inl same)
    · exact .inr (.inr ⟨failed, member, failure, held ▸ rfl⟩)
  staged failed worker assessed outageId stages := by
    cases stages with
    | judged judged => exact judge_assessed failed judged
    | confirmed judged again confirmed => exact confirm_assessed failed again judged confirmed

/-- The transaction asks for no change of an incident or of the outbox. -/
structure Idle (tx : PersistTx) : Prop where
  incident : tx.incident = .none
  outbox : tx.outbox = .empty
  transition : ∀ transition, tx.transition = some transition → transition.applied = false

theorem apply_inconclusive {state : MonitorState} {input : CheckTransitionInput}
    {transition : StateTransitionResult} (inconclusive : input.outcome = .inconclusive)
    (returned : applyCheckResult state input = .ok transition) : transition.applied = false := by
  cases apply_check_result_cases returned with
  | ignored reason _ => rfl
  | success _ _ _ outcome _ => rw [inconclusive] at outcome; cases outcome
  | failure _ _ _ outcome _ => rw [inconclusive] at outcome; cases outcome

theorem persist_begin_idle {db : Database} {id : CheckId} {original : MonitorRow}
    {config : CheckProcessorConfig} {result : MonitorCheckResult} {databaseTime : Time}
    {tx : PersistTx} (inconclusive : result.outcome = .inconclusive)
    (started : persistBegin db id original config result databaseTime = some tx) :
    Idle tx ∧ tx.result = result ∧ tx.checkId = id ∧ db.checks.get id = some tx.check := by
  obtain ⟨-, incident, outbox⟩ := persist_begin_fresh started
  simp only [persistBegin, Option.bind_eq_bind, Option.bind_eq_some_iff] at started
  obtain ⟨check, found, started⟩ := started
  split at started
  · cases started
  · simp only [Option.bind_eq_some_iff] at started
    obtain ⟨monitor, -, transition, computed, built⟩ := started
    cases built
    refine ⟨⟨incident, outbox, ?_⟩, rfl, rfl, found⟩
    intro returned same
    rcases persist_transition_cases computed with ⟨-, none⟩ | ⟨other, -, some, applied⟩
    · rw [none] at same
      cases same
    · rw [some, Option.some_inj] at same
      exact same ▸ apply_inconclusive inconclusive applied

theorem idle_effect {tx : PersistTx} (idle : Idle tx) (db : Database) (newIncidentId : IncidentId) :
    applyIncidentEffect db tx newIncidentId = { tx with stage := .done } := by
  have none : tx.incidentEffect = .none := by
    unfold PersistTx.incidentEffect
    split
    next transition some => rw [if_neg (by simp [idle.transition transition some])]
    next => rfl
  unfold applyIncidentEffect
  rw [none]

theorem idle_monitor_state {tx : PersistTx} (idle : Idle tx) (row : MonitorRow) :
    (tx.monitorWrite row).state = row.state := by
  unfold PersistTx.monitorWrite
  split
  next => rfl
  next transition some =>
    dsimp only
    rw [if_neg (by simp [idle.transition transition some])]
    split <;> rfl

/-- What the persist transaction of a held back result does: health, incidents and outbox
stay as they are, the result is recorded, and the check is completed unless it had been
canceled. -/
structure HeldBack (before after : Database) (id : CheckId) (check : CheckRow)
    (result : MonitorCheckResult) : Prop where
  health : ∀ monitorId, (after.monitors.get monitorId).map MonitorRow.state =
    (before.monitors.get monitorId).map MonitorRow.state
  incidents : after.incidents = before.incidents
  outbox : after.outbox = before.outbox
  recorded : ∃ row, after.results.get id = some row ∧ row.outcome = result.outcome
  completed : after.checks.get id = (before.checks.get id).map fun row =>
    if check.status = .canceled then row else row.completed result.finishedAt

theorem persist_held_back {begun during before after : Database} {id : CheckId}
    {original : MonitorRow} {config : CheckProcessorConfig} {result : MonitorCheckResult}
    {databaseTime : Time} {tx : PersistTx} {newIncidentId : IncidentId}
    (inconclusive : result.outcome = .inconclusive)
    (started : persistBegin begun id original config result databaseTime = some tx)
    (written : persistCommit before (applyIncidentEffect during tx newIncidentId) = some after) :
    HeldBack before after id tx.check result := by
  obtain ⟨idle, rfl, rfl, -⟩ := persist_begin_idle inconclusive started
  rw [idle_effect idle] at written
  obtain ⟨results, incidents, outbox, inserted, applied, created, rfl⟩ :=
    persist_commit_cases written
  refine ⟨?_, ?_, ?_, ?_, ?_⟩
  · intro monitorId
    rw [Table.get_update_key]
    split
    next same =>
      rw [Option.map_map]
      congr 1
      funext row
      have done : Idle { tx with stage := .done } :=
        ⟨idle.incident, idle.outbox, idle.transition⟩
      exact idle_monitor_state done row
    next => rfl
  · rw [idle.incident] at applied
    exact (Option.some.inj applied).symm
  · have same : before.outbox.updateWhere (fun _ _ => true)
        (PersistTx.rowWrite { tx with stage := .done }) = before.outbox := by
      apply Table.update_where_fixed
      intro key row
      simp [PersistTx.rowWrite, idle.outbox, OutboxWrites.empty]
    rw [same, idle.outbox] at created
    exact (Option.some.inj created).symm
  · obtain ⟨-, rfl⟩ := (Table.insert_new_eq_some _ _ _ _).1 inserted
    exact ⟨_, by rw [Table.get_put, if_pos rfl], rfl⟩
  · dsimp only
    split
    next canceled => simp
    next active => rw [Table.get_update_key, if_pos rfl]

/-- A failure of the network is confirmed or held back, and what is held back does not reach
the state of a monitor. -/
theorem host_outage_held_back (result retried : MonitorCheckResult) (first second : Snapshot) :
    Assessed result retried first second (assess result retried first second) ∧
      ∀ (begun during before after : Database) (id : CheckId) (original : MonitorRow)
        (config : CheckProcessorConfig) (databaseTime : Time) (tx : PersistTx)
        (newIncidentId : IncidentId),
        (assess result retried first second).result.outcome = .inconclusive →
          persistBegin begun id original config (assess result retried first second).result
            databaseTime = some tx →
          persistCommit before (applyIncidentEffect during tx newIncidentId) = some after →
            HeldBack before after id tx.check (assess result retried first second).result :=
  ⟨assess_assessed result retried first second,
    fun _ _ _ _ _ _ _ _ _ _ inconclusive started written =>
      persist_held_back inconclusive started written⟩

def offlineSnapshot : Snapshot := ⟨.offline, some 1, 20⟩

def sampleDatabase (status : ScheduledCheckStatus) : Database :=
  { Database.empty with
    monitors := Table.put ∅ 1 (newMonitorRow (LinkAlive.Script.monitorInput []) 0)
    checks := Table.put ∅ 1 { newCheckRow ⟨1, 0, 60, 1⟩ 0 with status := status } }

def persistSample (status : ScheduledCheckStatus) : Option (PersistTx × Database) :=
  let db := sampleDatabase status
  let assessment := assess (Script.unanswered 0) (Script.unanswered 0) offlineSnapshot offlineSnapshot
  (persistBegin db 1 (newMonitorRow (LinkAlive.Script.monitorInput []) 0) Script.guarded
    assessment.result 0).bind fun tx =>
      (persistCommit db (applyIncidentEffect db tx 1)).map fun after => (tx, after)

theorem persist_sample_cases {status : ScheduledCheckStatus} {tx : PersistTx} {after : Database}
    (persisted : persistSample status = some (tx, after)) :
    persistBegin (sampleDatabase status) 1 (newMonitorRow (LinkAlive.Script.monitorInput []) 0)
        Script.guarded (assess (Script.unanswered 0) (Script.unanswered 0) offlineSnapshot
          offlineSnapshot).result 0 = some tx ∧
      persistCommit (sampleDatabase status) (applyIncidentEffect (sampleDatabase status) tx 1) =
        some after := by
  unfold persistSample at persisted
  obtain ⟨begun, started, written⟩ := Option.bind_eq_some_iff.mp persisted
  obtain ⟨committed, stored, same⟩ := Option.map_eq_some_iff.mp written
  cases same
  exact ⟨started, stored⟩

theorem host_outage_held_back_running_check :
    ∃ tx after, persistSample .running = some (tx, after) ∧
      HeldBack (sampleDatabase .running) after 1 tx.check
        (inconclusiveNetworkResult (Script.unanswered 0)) := by
  have committed : (persistSample .running).isSome = true := by decide +kernel
  obtain ⟨⟨tx, after⟩, committed⟩ := Option.isSome_iff_exists.mp committed
  obtain ⟨started, written⟩ := persist_sample_cases committed
  exact ⟨tx, after, committed, (host_outage_held_back (Script.unanswered 0) (Script.unanswered 0)
    offlineSnapshot offlineSnapshot).2 _ _ _ _ _ _ _ _ _ _ (by decide) started written⟩

/-- A check that was canceled while it ran is not completed. -/
theorem held_back_canceled_check :
    ¬∀ (result retried : MonitorCheckResult) (first second : Snapshot)
        (begun during before after : Database) (id : CheckId) (original : MonitorRow)
        (config : CheckProcessorConfig) (databaseTime : Time) (tx : PersistTx)
        (newIncidentId : IncidentId),
        (assess result retried first second).result.outcome = .inconclusive →
          persistBegin begun id original config (assess result retried first second).result
            databaseTime = some tx →
          persistCommit before (applyIncidentEffect during tx newIncidentId) = some after →
            ∃ row, after.checks.get id = some row ∧ row.status = .completed := by
  intro completes
  have canceled : (persistSample .canceled).any (fun written =>
      (written.2.checks.get 1).any fun row => row.status = .canceled) = true := by decide +kernel
  rw [Option.any_eq_true] at canceled
  obtain ⟨⟨tx, after⟩, committed, stays⟩ := canceled
  obtain ⟨started, written⟩ := persist_sample_cases committed
  obtain ⟨row, stored, completed⟩ := completes _ _ _ _ _ _ _ _ _ _ _ _ _ _ (by decide) started
    written
  simp [stored, completed] at stays

end LinkAlive.Network
