import LinkAlive.Liveness.Notifications
import Mathlib.Data.Fintype.EquivFin
import LinkAlive.Ledger.Administration
import LinkAlive.Outbox.Origins
import LinkAlive.Retention.Resolution

/-!
# No check is stuck

Whatever has happened, a worker can still finish every active check with any result: the
check is never stale, the domain function returns for every row that the table can hold,
and no write of the persist transaction violates a unique key.
-/

namespace LinkAlive

open Relational Transition

set_option autoImplicit false

/-- A monitor as the columns of its table and `monitors_thresholds_check` allow it, now
and after one more check. -/
structure MonitorRow.Storable (row : MonitorRow) : Prop where
  columns : row.FitsColumns
  countable : row.consecutiveFailures < maxIntegerColumn ∧
    row.consecutiveSuccesses < maxIntegerColumn
  failureThreshold : 1 ≤ row.config.failureThreshold ∧ row.config.failureThreshold ≤ 10
  recoveryThreshold : 1 ≤ row.config.recoveryThreshold ∧ row.config.recoveryThreshold ≤ 10

instance (row : MonitorRow) : Decidable row.Storable :=
  decidable_of_iff ((row.consecutiveFailures ≤ maxIntegerColumn ∧
      row.consecutiveSuccesses ≤ maxIntegerColumn ∧ row.configVersion < maxIntegerColumn) ∧
    (row.consecutiveFailures < maxIntegerColumn ∧ row.consecutiveSuccesses < maxIntegerColumn) ∧
    (1 ≤ row.config.failureThreshold ∧ row.config.failureThreshold ≤ 10) ∧
    (1 ≤ row.config.recoveryThreshold ∧ row.config.recoveryThreshold ≤ 10))
    ⟨fun holds => ⟨holds.1, holds.2.1, holds.2.2.1, holds.2.2.2⟩,
      fun holds => ⟨holds.columns, holds.countable, holds.failureThreshold,
        holds.recoveryThreshold⟩⟩

theorem storable_threshold_safe {value : Nat} (range : 1 ≤ value ∧ value ≤ 10) :
    (!isSafeInteger value || decide (value < 1)) = false := by
  have safe : isSafeInteger value = true :=
    (is_safe_integer_of_column (range.2.trans (by decide))).1
  have positive : decide (value < 1) = false := decide_eq_false (Nat.not_lt.2 range.1)
  rw [safe, positive]
  rfl

theorem transition_input_valid {input : CheckTransitionInput}
    (failure : (!isSafeInteger input.failureThreshold ||
      decide (input.failureThreshold < 1)) = false)
    (recovery : (!isSafeInteger input.recoveryThreshold ||
      decide (input.recoveryThreshold < 1)) = false)
    (version : (!isSafeInteger input.configVersion || decide (input.configVersion < 1)) = false)
    {checkedAt : Time} (dated : input.checkedAt = some checkedAt) :
    assertTransitionInput input = .ok checkedAt := by
  unfold assertTransitionInput
  rw [failure, recovery, version, dated]
  rfl

/-- The domain function returns for the check of a monitor that the table can hold. -/
theorem storable_check_returns {check : CheckRow} {monitor : MonitorRow}
    (storable : monitor.Storable) (version : 1 ≤ monitor.configVersion)
    (current : check.configVersion = monitor.configVersion) (result : MonitorCheckResult) :
    ∃ transition, applyCheckResult monitor.state (transitionInput check monitor result) =
      .ok transition := by
  have stateValid := assert_state_of_fits storable.columns version
  have safeVersion := (is_safe_integer_of_column (Nat.le_of_lt storable.columns.2.2)).1
  have versionValid : (!isSafeInteger check.configVersion ||
      decide (check.configVersion < 1)) = false := by
    rw [current, safeVersion, decide_eq_false (Nat.not_lt.2 version)]
    rfl
  have inputValid : assertTransitionInput (transitionInput check monitor result) =
      .ok result.finishedAt :=
    transition_input_valid (storable_threshold_safe storable.failureThreshold)
      (storable_threshold_safe storable.recoveryThreshold) versionValid rfl
  exact apply_check_result_returns stateValid inputValid

/-- Ids are unbounded, so that there is always a new one. -/
theorem fresh_key {Row : Type} (table : Table Nat Row) : ∃ key, table.get key = none := by
  obtain ⟨key, fresh⟩ := Infinite.exists_notMem_finset table.keys.toFinset
  refine ⟨key, AList.lookup_eq_none.2 ?_⟩
  intro member
  exact fresh (List.mem_toFinset.2 (AList.mem_keys.1 member))

section Persist

variable {w : Workers} {now : Time} {s : System} {t : TxId} {tx : PersistTx}

theorem commit_persist_alone (alone : s.alone t) (inProgress : s.txs.get t = some (.persist tx))
    (finished : tx.stage = .done) {db : Database} (written : persistCommit s.db tx = some db) :
    PossibleAt w now s fun last => last.quiescent ∧ last.db = db := by
  have free : (tx.outbox.creates.all fun entry =>
      s.freeFor t (Transaction.locksChannel entry.1.channelId)) = true := by
    apply List.all_eq_true.2
    intro entry _
    exact alone_free_for alone
  have taken : step s (.commit t) =
      some (s.ended t db [.recorded tx.monitorId tx.checkId]) := by
    simp only [step, System.commit, inProgress, System.commitPersist, finished, free, if_true,
      written, Option.bind_eq_bind, Option.bind_some]
  have permitted : w.permits s (.commit t) := by
    simp only [Workers.permits, inProgress]
  exact commit_possible permitted taken ⟨alone_ended alone _ _, rfl⟩

theorem resolve_alone {fuel : Nat} {final : PersistTx} (alone : s.alone t)
    (inProgress : s.txs.get t = some (.persist tx))
    (looped : resolveLoop s.db fuel tx = some final) :
    PossibleAt w now s fun last => last.alone t ∧ last.txs.get t = some (.persist final) ∧
      last.db = s.db ∧ final.stage = .done := by
  induction fuel generalizing s tx with
  | zero => cases looped
  | succ fuel ih =>
      rw [resolveLoop] at looped
      split at looped
      · rename_i finished
        cases looped
        exact CanReach.here ⟨alone, inProgress, rfl, finished⟩
      · obtain ⟨next, resolved, rest⟩ := Option.bind_eq_some_iff.1 looped
        have locks : (fun key => s.freeFor t (Transaction.locksRow key)) = fun _ => true := by
          funext key
          exact alone_free_for alone
        let after : System := { s with txs := s.txs.put t (.persist next) }
        have taken : step s (.resolve t) = some after := by
          simp only [step, System.resolve, inProgress, locks, resolved, Option.bind_eq_bind,
            Option.bind_some, after]
        have still : after.alone t := by
          intro other different
          rw [Table.get_put, if_neg different]
          exact alone other different
        have stored : after.txs.get t = some (.persist next) := by
          rw [Table.get_put, if_pos rfl]
        have later : PossibleAt w now after fun last => last.alone t ∧
            last.txs.get t = some (.persist final) ∧ last.db = after.db ∧ final.stage = .done :=
          ih still stored rest
        exact CanReach.next taken ⟨rfl, trivial, fun _ member => by cases member⟩ later

theorem persist_commit_succeeds {db : Database} {tx : PersistTx}
    (unrecorded : db.results.get tx.checkId = none)
    (writable : ∃ incidents, tx.incident.apply db.incidents = some incidents)
    (distinct : (tx.outbox.creates.map Prod.fst).Nodup)
    (absent : ∀ entry ∈ tx.outbox.creates, db.outbox.get entry.1 = none) :
    ∃ after, persistCommit db tx = some after := by
  obtain ⟨incidents, applied⟩ := writable
  have inserts : ∃ outbox, (db.outbox.updateWhere (fun _ _ => true) tx.rowWrite).insertAll
      tx.outbox.creates = some outbox := by
    apply Table.insert_all_succeeds distinct
    intro entry member
    rw [Table.get_update_where, absent entry member]
    rfl
  obtain ⟨outbox, inserted⟩ := inserts
  have recorded := (Table.insert_new_eq_some _ _ _ (resultRow tx)).2 ⟨unrecorded, rfl⟩
  simp only [persistCommit, recorded, applied, inserted, Option.bind_eq_bind, Option.bind_some]
  exact ⟨_, rfl⟩

/-- The DOWN rows of a new incident have distinct keys. -/
theorem create_outbox_distinct (db : Database) (tx : PersistTx) (incidentId : IncidentId)
    (incident : IncidentRow) :
    ((createOutbox db tx incidentId incident).map Prod.fst).Nodup := by
  let down (key : MonitorId × ChannelId) : OutboxKey :=
    ⟨incidentId, key.2, notificationSequence .down⟩
  let chosen := db.bindings.select fun key binding =>
    key.1 = tx.monitorId && binding.notifyOnDown && channelLive db key.2
  have keys : (chosen.map Prod.fst).Nodup := Table.select_keys_nodup _ _
  have mapped : ((chosen.map Prod.fst).map down).Nodup := by
    apply keys.map_on
    intro first member second memberSecond same
    obtain ⟨⟨_, binding⟩, selected, rfl⟩ := List.mem_map.1 member
    obtain ⟨⟨_, other⟩, selectedOther, rfl⟩ := List.mem_map.1 memberSecond
    have own := ((Table.mem_select _ _ _ _).1 selected).2
    have ownOther := ((Table.mem_select _ _ _ _).1 selectedOther).2
    simp only [Bool.and_eq_true, decide_eq_true_eq] at own ownOther
    simp only [down, OutboxKey.mk.injEq, and_true, true_and] at same
    exact Prod.ext (own.1.1.trans ownOther.1.1.symm) same
  have distinct : (chosen.map fun event => down event.1).Nodup := by
    simpa [Function.comp_def] using mapped
  refine (filter_map_keys_sublist _
    (fun event : (MonitorId × ChannelId) × BindingRow => down event.1) ?_ chosen).nodup distinct
  intro event created built
  obtain ⟨channel, -, rfl⟩ := Option.map_eq_some_iff.1 built
  rfl

theorem open_incident_answerable (reachable : Reachable s) {incidentId : IncidentId}
    {incident : IncidentRow} (found : s.db.incidents.get incidentId = some incident)
    (isOpen : incident.status = .opened) : Answerable s.db incidentId := by
  have invariant := outbox_invariant_reachable reachable
  have attempts := attempt_invariant_reachable reachable
  constructor
  · intro key row stored
    have bounded := (attempts.rows key row stored).1.bounded
    have standard := ((origin_invariant_reachable reachable).rows key row stored).1
    rw [standard] at bounded
    exact decide_eq_true (bounded.trans (by decide))
  · intro key row stored down
    exact sequence_of_down (invariant.fits key row stored) down
  · intro channelId
    cases stored : s.db.outbox.get ⟨incidentId, channelId, notificationSequence .recovery⟩ with
    | none => rfl
    | some row =>
        have unresolved : incident.status ≠ .resolved := by
          rw [isOpen]
          simp
        have origins := origin_invariant_reachable reachable
        by_cases down : row.eventType = .down
        · have sequence := sequence_of_down (invariant.fits _ row stored) down
          cases sequence
        · obtain ⟨-, other, same, resolved⟩ := (origins.rows _ row stored).2 down
          rw [found, Option.some.injEq] at same
          rw [same] at unresolved
          exact absurd resolved unresolved

/-- From here the transaction comes to a commit that violates no unique key. -/
def PersistTx.Writable (db : Database) (tx waiting : PersistTx) : Prop :=
  ∃ incident outbox after,
    resolveLoop db (2 * db.outbox.size + 2) waiting =
      some { tx with stage := .done, incident := incident, outbox := outbox } ∧
    persistCommit db { tx with stage := .done, incident := incident, outbox := outbox } =
      some after

theorem finished_writable {db : Database} (unrecorded : db.results.get tx.checkId = none)
    (incident : IncidentWrite) (outbox : OutboxWrites)
    (applies : ∃ incidents, incident.apply db.incidents = some incidents)
    (distinct : (outbox.creates.map Prod.fst).Nodup)
    (absent : ∀ entry ∈ outbox.creates, db.outbox.get entry.1 = none) :
    PersistTx.Writable db tx
      { tx with stage := .done, incident := incident, outbox := outbox } := by
  let final : PersistTx := { tx with stage := .done, incident := incident, outbox := outbox }
  have written : ∃ after, persistCommit db final = some after :=
    persist_commit_succeeds unrecorded applies distinct absent
  obtain ⟨after, committed⟩ := written
  exact ⟨incident, outbox, after, rfl, committed⟩

theorem resolution_writable (reachable : Reachable s) {incidentId : IncidentId}
    {incident : IncidentRow} (found : s.db.incidents.get incidentId = some incident)
    (isOpen : incident.status = .opened) (unrecorded : s.db.results.get tx.checkId = none)
    (empty : tx.outbox.creates = []) (resolvedAt : Time) :
    PersistTx.Writable s.db tx { tx with
      stage := .resolving
        { incidentId := incidentId
          incident := incident.resolved resolvedAt
          todo := recoveryDownEvents s.db tx.monitorId incidentId
          phase := .first }
      incident := .resolve incidentId resolvedAt } := by
  let events := recoveryDownEvents s.db tx.monitorId incidentId
  let resolution : Resolution :=
    { incidentId := incidentId
      incident := incident.resolved resolvedAt
      todo := events
      phase := .first }
  let waiting : PersistTx :=
    { tx with stage := .resolving resolution, incident := .resolve incidentId resolvedAt }
  have answerable := open_incident_answerable reachable found isOpen
  have stored : ∀ event ∈ events, s.db.outbox.get event.1 = some event.2 ∧
      isSafeInteger event.2.attemptCount = true := by
    intro event member
    have holds := (mem_recovery_down_events.1 member).1
    exact ⟨holds, answerable.counted event.1 event.2 holds⟩
  have enough : 2 * events.length + 2 ≤ 2 * s.db.outbox.size + 2 := by
    have short : events.length ≤ s.db.outbox.size := Table.length_select_le _ _
    omega
  have loop : ∃ writes, resolveLoop s.db (2 * s.db.outbox.size + 2) waiting =
        some { waiting with stage := .done, outbox := writes } ∧
      writes.creates = waiting.outbox.creates ++
        events.filterMap (answer waiting resolution.incidentId resolution.incident) :=
    resolve_loop_answers events stored rfl rfl rfl enough
  obtain ⟨writes, finished, creates⟩ := loop
  have created : writes.creates =
      events.filterMap (answer waiting incidentId (incident.resolved resolvedAt)) := by
    rw [creates]
    change tx.outbox.creates ++ _ = _
    rw [empty, List.nil_append]
  let final : PersistTx := { waiting with stage := .done, outbox := writes }
  have distinct : (final.outbox.creates.map Prod.fst).Nodup := by
    change (writes.creates.map Prod.fst).Nodup
    rw [created]
    exact answers_distinct answerable waiting tx.monitorId _
  have absent : ∀ entry ∈ final.outbox.creates, s.db.outbox.get entry.1 = none := by
    intro entry member
    change entry ∈ writes.creates at member
    rw [created] at member
    obtain ⟨event, -, answered⟩ := List.mem_filterMap.1 member
    rw [answer_key answered]
    exact answerable.unanswered _
  have applies : ∃ incidents, final.incident.apply s.db.incidents = some incidents := ⟨_, rfl⟩
  have written : ∃ after, persistCommit s.db final = some after :=
    persist_commit_succeeds unrecorded applies distinct absent
  obtain ⟨after, committed⟩ := written
  exact ⟨_, writes, after, finished, committed⟩

/-- The effect of a transaction that nobody competes with can be written. -/
theorem effect_writable (reachable : Reachable s)
    (inProgress : s.txs.get t = some (.persist tx)) (begun : tx.stage = .begun)
    {newIncidentId : IncidentId} (fresh : s.db.incidents.get newIncidentId = none) :
    PersistTx.Writable s.db tx (applyIncidentEffect s.db tx newIncidentId) := by
  have view : TxView s.db (.persist tx) :=
    (ledger_invariant_reachable reachable).views t _ inProgress
  obtain ⟨persist, -, start⟩ := view
  obtain ⟨unwritten, empty⟩ := start begun
  have unrecorded := persist.noResult
  have none : tx.outbox.creates = [] := by
    rw [empty]
    rfl
  have noKeys : (tx.outbox.creates.map Prod.fst).Nodup := by
    rw [none]
    exact List.nodup_nil
  have noRows : ∀ entry ∈ tx.outbox.creates, s.db.outbox.get entry.1 = Option.none := by
    intro entry member
    rw [none] at member
    cases member
  have idle : PersistTx.Writable s.db tx { tx with stage := .done } := by
    have applies : ∃ incidents, tx.incident.apply s.db.incidents = some incidents := by
      rw [unwritten]
      exact ⟨_, rfl⟩
    exact finished_writable unrecorded tx.incident tx.outbox applies noKeys noRows
  have touched : ∀ id lastErrorType, PersistTx.Writable s.db tx
      { tx with stage := .done, incident := .touch id lastErrorType } := by
    intro id lastErrorType
    exact finished_writable unrecorded (.touch id lastErrorType) tx.outbox ⟨_, rfl⟩ noKeys noRows
  unfold applyIncidentEffect
  cases effect : tx.incidentEffect with
  | none => exact idle
  | cancel _ _ => exact idle
  | update lastErrorType =>
      cases found : openIncident s.db tx.monitorId with
      | none => exact idle
      | some entry => exact touched entry.1 lastErrorType
  | resolve resolvedAt _ =>
      cases found : openIncident s.db tx.monitorId with
      | none => exact idle
      | some entry =>
          obtain ⟨stored, -, isOpen⟩ := open_incident_some found
          exact resolution_writable reachable stored isOpen unrecorded none resolvedAt
  | opened firstFailureAt detectedAt firstErrorType lastErrorType =>
      cases found : openIncident s.db tx.monitorId with
      | some entry => exact touched entry.1 lastErrorType
      | none =>
          let incident := newIncidentRow tx firstFailureAt detectedAt firstErrorType lastErrorType
          let creates := createOutbox s.db tx newIncidentId incident
          let outbox : OutboxWrites := { tx.outbox with creates := creates }
          have inserted : s.db.incidents.insertNew newIncidentId incident =
              some (s.db.incidents.put newIncidentId incident) :=
            (Table.insert_new_eq_some _ _ _ _).2 ⟨fresh, rfl⟩
          have absent : ∀ entry ∈ creates, s.db.outbox.get entry.1 = Option.none := by
            intro entry member
            have owned := (outbox_invariant_reachable reachable).owned entry.1
            cases stored : s.db.outbox.get entry.1 with
            | none => rfl
            | some row =>
                obtain ⟨parent, known, -⟩ := owned row stored
                obtain ⟨_, _, _, -, -, -, -, key, -⟩ := create_outbox_row member
                rw [key, fresh] at known
                cases known
          exact finished_writable unrecorded (.create newIncidentId incident) outbox
            ⟨_, inserted⟩ (create_outbox_distinct s.db tx newIncidentId incident) absent

/-- A persist transaction that nobody competes with is committed. -/
theorem persist_alone (reachable : Reachable s) (alone : s.alone t)
    (inProgress : s.txs.get t = some (.persist tx)) (begun : tx.stage = .begun) :
    PossibleAt w now s fun last => last.quiescent ∧ ∃ incident outbox,
      persistCommit s.db { tx with stage := .done, incident := incident, outbox := outbox } =
        some last.db := by
  obtain ⟨newIncidentId, fresh⟩ := fresh_key s.db.incidents
  have writable := effect_writable reachable inProgress begun fresh
  obtain ⟨incident, outbox, db, looped, written⟩ := writable
  let effected : PersistTx := applyIncidentEffect s.db tx newIncidentId
  let after : System := { s with txs := s.txs.put t (.persist effected) }
  have taken : step s (.applyEffect t newIncidentId) = some after := by
    simp only [step, System.applyEffect, inProgress, begun, after, effected]
  have still : after.alone t := by
    intro other different
    rw [Table.get_put, if_neg different]
    exact alone other different
  have stored : after.txs.get t = some (.persist effected) := by
    rw [Table.get_put, if_pos rfl]
  have resolved : PossibleAt w now after fun last => last.alone t ∧ _ ∧ last.db = s.db ∧ _ :=
    resolve_alone still stored looped
  apply CanReach.next taken ⟨rfl, trivial, fun _ member => by cases member⟩
  apply resolved.trans
  intro middle ready
  obtain ⟨quiet, held, same, finished⟩ := ready
  have writes : persistCommit middle.db
      { tx with stage := .done, incident := incident, outbox := outbox } = some db := by
    rw [same]
    exact written
  apply (commit_persist_alone quiet held finished writes).weaken
  intro last ended
  refine ⟨ended.1, incident, outbox, ?_⟩
  rw [ended.2]
  exact written

end Persist

section Whole

variable {s : System} {id : CheckId} {check : CheckRow} {monitor : MonitorRow}

/-- The persist transaction of a check has begun and nothing else is in progress. -/
structure PersistStarted (before : Database) (id : CheckId) (check : CheckRow)
    (monitor : MonitorRow) (result : MonitorCheckResult) (last : System) (tx : PersistTx) :
    Prop where
  alone : last.alone 0
  inProgress : last.txs.get 0 = some (.persist tx)
  begun : tx.stage = .begun
  computed : tx.transition ≠ none
  checkId : tx.checkId = id
  slot : tx.check.SameSlot check
  running : tx.check.status = .running
  monitor : tx.monitor = monitor
  result : tx.result = result
  others : ∀ other, other ≠ id → last.db.checks.get other = before.checks.get other
  monitors : last.db.monitors = before.monitors

/-- The job of a worker has come to this point of its check; no transaction is in progress. -/
structure JobAt (db : Database) (job : CheckJob) (last : System) : Prop where
  quiescent : last.quiescent
  db : last.db = db
  job : last.jobs.get 0 = some job

section Start

variable {w : Workers} {now : Time} {db : Database} {row : CheckRow}

/-- A worker takes the job and reads its check. -/
theorem check_taken {n : Moment} (handed : CheckHanded w s now id check n) :
    Possible w n fun last => last.clock = now ∧
      JobAt n.system.db (.scheduled id (w.enqueuesCheck now id check)) last.system := by
  let scheduled : System :=
    { n.system with jobs := n.system.jobs.put 0 (.scheduled id (w.enqueuesCheck now id check)) }
  let jobs := n.queued.checkJobs.put id ⟨⟨id, check.configVersion⟩, .active⟩
  have took : Jobs.take n.queued.checkJobs id = some (⟨id, check.configVersion⟩, jobs) :=
    Jobs.take_eq_some.2 ⟨handed.job, rfl⟩
  have reads : step n.system (.loadCheck 0 ⟨id, check.configVersion⟩) = some scheduled := by
    have unfinished : (w.enqueuesCheck now id check).status ≠ .completed := by
      simp [Workers.enqueuesCheck]
    have sameVersion : ¬ (w.enqueuesCheck now id check).configVersion ≠ check.configVersion :=
      not_not.2 rfl
    simp only [step, System.loadCheck, loadCheck, handed.own, Option.bind_eq_bind,
      Option.bind_some, scheduled]
    rw [if_neg unfinished, if_neg sameVersion]
    rfl
  have ran : QueuedSystem.run { n.queued with checkJobs := jobs }
      (.loadCheck 0 ⟨id, check.configVersion⟩) =
        some { n.queued with system := scheduled, checkJobs := jobs } :=
    QueuedSystem.run_eq_some.2 ⟨scheduled, reads, rfl⟩
  have takes : n.queued.step (.takeCheck id 0) =
      some { n.queued with system := scheduled, checkJobs := jobs } := by
    simp only [QueuedSystem.step, QueuedSystem.takeCheck, took, Option.bind_eq_bind,
      Option.bind_some, ran, Option.getD_some]
  refine Possible.act takes trivial (Nat.le_of_eq handed.clock) (fun _ member => by cases member) ?_
  exact CanReach.here
    ⟨rfl, handed.quiescent, rfl, (Table.get_put _ _ _ _).trans (if_pos rfl)⟩

theorem monitor_loaded (point : JobAt db (.scheduled id row) s)
    (owner : db.monitors.get row.monitorId = some monitor) (unrecorded : db.results.get id = none)
    (live : monitor.isActive = true) (current : monitor.configVersion = row.configVersion) :
    PossibleAt w now s (JobAt db (.current id row monitor)) := by
  have fresh : (decide (monitor.configVersion ≠ row.configVersion) || !monitor.isActive) =
      false := by
    rw [live, current]
    simp
  have reads : step s (.loadMonitor 0) =
      some { s with jobs := s.jobs.put 0 (.current id row monitor) } := by
    simp only [step, System.loadMonitor, point.job, point.db, loadMonitor, owner, unrecorded,
      Option.isSome_none, Bool.false_eq_true, if_false, fresh, Option.bind_eq_bind,
      Option.bind_some]
  apply CanReach.next reads ⟨rfl, trivial, fun _ member => by cases member⟩
  exact CanReach.here ⟨point.quiescent, point.db, (Table.get_put _ _ _ _).trans (if_pos rfl)⟩

theorem check_claimed (point : JobAt db (.current id row monitor) s)
    (own : db.checks.get id = some row) (claimable : row.claimableByWorker now = true) :
    PossibleAt w now s (JobAt
      { db with
        checks := claimCheck db.checks id w.processor.instanceId now (now + w.processor.leaseMs) }
      (.running id row monitor)) := by
  have claims : step s (.claimCheck 0 w.processor.instanceId w.processor.leaseMs now) =
      some { s with
        db :=
          { s.db with
            checks :=
              claimCheck s.db.checks id w.processor.instanceId now (now + w.processor.leaseMs) }
        jobs := s.jobs.put 0 (.running id row monitor) } := by
    simp only [step, System.claimCheck, point.job, point.db, own, Option.any_some]
    rw [if_pos claimable]
  apply CanReach.next claims ⟨rfl, ⟨rfl, rfl⟩, fun time member => List.mem_singleton.1 member⟩
  refine CanReach.here ⟨point.quiescent, ?_, (Table.get_put _ _ _ _).trans (if_pos rfl)⟩
  dsimp only
  rw [point.db]

/-- The persist transaction of a running check begins, and its transition can be computed. -/
theorem persist_begun {m : Moment} {loaded : CheckRow} {result : MonitorCheckResult}
    {databaseTime : Time} (point : JobAt db (.running id loaded monitor) m.system)
    (own : db.checks.get id = some row) (running : row.status = .running)
    (owner : db.monitors.get row.monitorId = some monitor) (unrecorded : db.results.get id = none)
    (live : monitor.isActive = true) (current : monitor.configVersion = row.configVersion)
    (version : 1 ≤ monitor.configVersion) (storable : monitor.Storable)
    (past : m.clock ≤ result.startedAt) (ordered : result.startedAt ≤ result.finishedAt)
    (recorded : result.finishedAt ≤ databaseTime) :
    Possible w m fun last => last.clock = databaseTime ∧
      ∃ tx, PersistStarted db id row monitor result last.system tx := by
  obtain ⟨transition, computed⟩ := storable_check_returns storable version current.symm result
  have valid : persistValid row monitor = true := by
    rw [persistValid, live, current, running]
    simp [ScheduledCheckStatus.isActive]
  have outcome : persistTransition row monitor result = some (some transition) := by
    rw [persistTransition, if_pos valid, computed]
  let tx : PersistTx :=
    { config := w.processor
      checkId := id
      check := row
      monitor := monitor
      displayUrlSnapshot := monitor.displayUrl
      result := result
      databaseTime := databaseTime
      valid := persistValid row monitor
      transition := some transition
      stage := .begun
      incident := .none
      outbox := .empty }
  have begins : persistBegin db id monitor w.processor result databaseTime = some tx := by
    simp only [persistBegin, own, unrecorded, Option.isSome_none, Bool.false_eq_true, if_false,
      owner, outcome, Option.bind_eq_bind, Option.bind_some, tx]
  have starts : step m.system (.beginPersist 0 0 w.processor result databaseTime) =
      some { m.system with
        jobs := m.system.jobs.remove 0
        txs := m.system.txs.put 0 (.persist tx) } := by
    have unlocked : m.system.free (Transaction.locksMonitor tx.monitorId) = true :=
      quiescent_free point.quiescent
    simp only [step, System.beginPersist, point.job, point.db, begins, Option.bind_eq_bind,
      Option.bind_some]
    rw [if_pos unlocked]
    exact System.begin_eq_some.2 ⟨point.quiescent 0, rfl⟩
  have within : ∀ time ∈ Action.times (.beginPersist 0 0 w.processor result databaseTime),
      m.clock ≤ time ∧ time ≤ databaseTime := by
    intro time member
    simp only [Action.times, List.mem_cons, List.not_mem_nil, or_false] at member
    rcases member with rfl | rfl | rfl
    · exact ⟨past, ordered.trans recorded⟩
    · exact ⟨past.trans ordered, recorded⟩
    · exact ⟨past.trans (ordered.trans recorded), Nat.le_refl _⟩
  refine Possible.core starts rfl rfl (past.trans (ordered.trans recorded)) within ?_
  refine CanReach.here ⟨rfl, tx, ?_⟩
  constructor
  · exact quiescent_put point.quiescent 0 _
  · exact (Table.get_put _ _ _ _).trans (if_pos rfl)
  · rfl
  · exact Option.some_ne_none _
  · rfl
  · exact .rfl
  · exact running
  · rfl
  · rfl
  · intro other _
    exact congrArg (fun db : Database => db.checks.get other) point.db
  · exact congrArg Database.monitors point.db

/-- The worker that takes the job of a check comes to its persist transaction. -/
theorem persist_started {n : Moment} (reachable : n.queued.Reachable)
    (handed : CheckHanded w s now id check n)
    (owner : n.system.db.monitors.get check.monitorId = some monitor) (storable : monitor.Storable)
    (result : MonitorCheckResult) (databaseTime : Time) (started : now ≤ result.startedAt)
    (ordered : result.startedAt ≤ result.finishedAt) (recorded : result.finishedAt ≤ databaseTime) :
    Possible w n fun last => last.clock = databaseTime ∧
      ∃ tx, PersistStarted s.db id check monitor result last.system tx := by
  have reached := QueuedSystem.system_reachable reachable
  have consistent := (ledger_invariant_reachable reached).consistent
  have version := (lifecycle_invariant_reachable reached).version check.monitorId monitor owner
  let enqueued := w.enqueuesCheck now id check
  have unrecorded := no_result_of_active consistent handed.own rfl
  obtain ⟨other, same, live, current⟩ := consistent.active id enqueued handed.own rfl
  have same : monitor = other := Option.some.inj (owner.symm.trans same)
  subst same
  have finished := (consistent.rows id enqueued handed.own).unfinished rfl
  have claimable : enqueued.claimableByWorker now = true := by
    simp only [CheckRow.claimableByWorker, finished]
    rfl
  let held : CheckRow := { enqueued with
    status := .running
    leaseOwner := some w.processor.instanceId
    leaseUntil := some (now + w.processor.leaseMs)
    startedAt := some now }
  have claims : ∀ other, (claimCheck n.system.db.checks id w.processor.instanceId now
      (now + w.processor.leaseMs)).get other =
        if other = id then some held else n.system.db.checks.get other := by
    intro other
    rw [claimCheck, Table.get_update_where]
    split
    · rename_i own
      subst own
      rw [handed.own, Option.map_some, decide_eq_true rfl, Bool.true_and, if_pos claimable]
    · rename_i different
      simp only [different, decide_false, Bool.false_and, Bool.false_eq_true, if_false,
        Option.map_id']
  apply (check_taken handed).trans
  rintro taken ⟨clock, point⟩
  have loads : PossibleAt w now taken.system _ :=
    monitor_loaded point owner unrecorded live current
  apply (loads.lift (Nat.le_of_eq clock)).trans
  rintro loaded ⟨point, -, clock⟩
  have claimed : PossibleAt w now loaded.system _ := check_claimed point handed.own claimable
  apply (claimed.lift clock).trans
  rintro running ⟨point, -, clock⟩
  have stored := (claims id).trans (if_pos rfl)
  apply (persist_begun point stored rfl owner unrecorded live current version storable
    (clock.trans started) ordered recorded).weaken
  rintro last ⟨same, tx, begun⟩
  refine ⟨same, tx, { begun with slot := begun.slot, others := ?_, monitors := ?_ }⟩
  · intro other different
    rw [← handed.others other different, begun.others other different]
    exact (claims other).trans (if_neg different)
  · have same : n.system.db.monitors = s.db.monitors := by rw [handed.db]
    exact begun.monitors.trans same

end Start

structure CheckFinished (before after : Database) (id : CheckId) (check : CheckRow)
    (monitor : MonitorRow) (result : MonitorCheckResult) : Prop where
  completed : ∃ row, after.checks.get id = some row ∧ row.status = .completed ∧
    row.completedAt = some result.finishedAt
  recorded : ∃ row, after.results.get id = some row ∧ row.monitorId = check.monitorId ∧
    row.configVersion = check.configVersion ∧ row.outcome = result.outcome ∧
    row.finishedAt = result.finishedAt
  folded : ∃ row transition, after.monitors.get check.monitorId = some row ∧
    applyCheckResult monitor.state (transitionInput check monitor result) = .ok transition ∧
    row.state = transition.state ∧ row.config = monitor.config
  otherChecks : ∀ other, other ≠ id → after.checks.get other = before.checks.get other
  otherMonitors : ∀ other, other ≠ check.monitorId →
    after.monitors.get other = before.monitors.get other

theorem persist_commit_finishes {before : Database} {result : MonitorCheckResult}
    {tx : PersistTx} (started : PersistStarted before id check monitor result s tx)
    (reachable : Reachable s) {incident : IncidentWrite} {outbox : OutboxWrites}
    {after : Database} (written : persistCommit s.db
      { tx with stage := .done, incident := incident, outbox := outbox } = some after) :
    CheckFinished before after id check monitor result := by
  have view : TxView s.db (.persist tx) :=
    (ledger_invariant_reachable reachable).views 0 _ started.inProgress
  have read := view.1.monitor
  obtain ⟨row, stored, -, -⟩ := view.1.check
  obtain ⟨results, incidents, rows, inserted, -, -, rfl⟩ := persist_commit_cases written
  rw [Table.insert_new_eq_some] at inserted
  have own : tx.monitorId = check.monitorId := started.slot.1
  have live : tx.check.status ≠ .canceled := by
    rw [started.running]
    simp
  dsimp only at inserted
  constructor
  · refine ⟨row.completed tx.result.finishedAt, ?_, rfl, ?_⟩
    · dsimp only
      rw [if_neg live, ← started.checkId, Table.get_update_key_self, stored]
      rfl
    · rw [started.result]
      rfl
  · refine ⟨resultRow tx, ?_, own, started.slot.2.2, ?_, ?_⟩
    · dsimp only
      rw [inserted.2, ← started.checkId, Table.get_put, if_pos rfl]
      rfl
    · rw [← started.result]
      rfl
    · rw [← started.result]
      rfl
  · rcases persist_monitor_state view.1 with nothing | moved
    · exact absurd nothing.1 started.computed
    · obtain ⟨transition, -, applied, state⟩ := moved
      refine ⟨tx.monitorWrite tx.monitor, transition, ?_, ?_, state, ?_⟩
      · dsimp only
        rw [← own]
        change (s.db.monitors.updateKey tx.monitorId tx.monitorWrite).get tx.monitorId = _
        rw [Table.get_update_key_self, read]
        rfl
      · have version : tx.check.configVersion = check.configVersion := started.slot.2.2
        rw [started.monitor, started.result] at applied
        rw [← applied, transitionInput, transitionInput, version]
      · rw [← started.monitor]
        exact (monitor_write_configuration tx tx.monitor).2.2.2
  · intro other different
    dsimp only
    rw [if_neg live, Table.get_update_key, started.checkId, if_neg different]
    exact started.others other different
  · intro other different
    change (s.db.monitors.updateKey tx.monitorId tx.monitorWrite).get other = _
    rw [Table.get_update_key, own, if_neg different, started.monitors]

theorem check_finish_possible {w : Workers} {m : Moment} (reachable : m.queued.Reachable)
    (quiet : m.system.quiescent) (found : m.system.db.checks.get id = some check)
    (active : check.status.isActive = true)
    (owner : m.system.db.monitors.get check.monitorId = some monitor) (storable : monitor.Storable)
    {result : MonitorCheckResult} {databaseTime : Time} (past : m.clock ≤ result.startedAt)
    (turn : check.turn ≤ result.startedAt) (ordered : result.startedAt ≤ result.finishedAt)
    (recorded : result.finishedAt ≤ databaseTime) :
    Possible w m fun last => last.queued.Reachable ∧ last.system.quiescent ∧
      CheckFinished m.system.db last.system.db id check monitor result := by
  apply ((check_idle_possible w m id).reachable reachable).trans
  rintro idle ⟨⟨system, clock, released⟩, reachable⟩
  have invariant := QueuedSystem.queue_invariant_reachable reachable
  have reached := QueuedSystem.system_reachable reachable
  have consistent := (ledger_invariant_reachable reached).consistent
  rw [← system] at quiet found owner ⊢
  rw [← clock] at past
  have valid := consistent.rows id check found
  have unrecorded := no_result_of_active consistent found active
  have handed : Possible w idle (CheckHanded w idle.system result.startedAt id check) :=
    check_handed_possible invariant quiet released found valid active unrecorded turn past
  apply (handed.reachable reachable).trans
  rintro dispatched ⟨handed, reachable⟩
  have stored : dispatched.system.db.monitors.get check.monitorId = some monitor := by
    rw [handed.db]
    exact owner
  have begins := persist_started reachable handed stored storable result databaseTime
    (Nat.le_refl _) ordered recorded
  apply (begins.reachable reachable).trans
  rintro middle ⟨⟨clock, tx, started⟩, reachable⟩
  have persisted : PossibleAt w databaseTime middle.system _ :=
    persist_alone (QueuedSystem.system_reachable reachable) started.alone started.inProgress
      started.begun
  apply ((persisted.lift (Nat.le_of_eq clock)).reachable reachable).weaken
  rintro last ⟨⟨⟨quiet, incident, outbox, written⟩, -, -⟩, reached⟩
  exact ⟨reached, quiet,
    persist_commit_finishes started (QueuedSystem.system_reachable reachable) written⟩

/-- Whatever has happened, dispatchers and workers can finish an active check, whatever
its result: the result is recorded and folded into the state of its monitor. -/
theorem checks_never_stuck (w : Workers) {m : Moment} (reachable : m.queued.Reachable)
    (found : m.system.db.checks.get id = some check) (active : check.status.isActive = true)
    (owner : m.system.db.monitors.get check.monitorId = some monitor) (storable : monitor.Storable)
    (result : MonitorCheckResult) (databaseTime : Time) (past : m.clock ≤ result.startedAt)
    (turn : check.turn ≤ result.startedAt) (ordered : result.startedAt ≤ result.finishedAt)
    (recorded : result.finishedAt ≤ databaseTime) :
    Possible w m fun last => last.system.quiescent ∧
      CheckFinished m.system.db last.system.db id check monitor result := by
  apply (settled_moment w reachable).trans
  rintro idle ⟨quiet, same, reachable, clock⟩
  rw [← same] at found owner
  have finished : Possible w idle _ := check_finish_possible reachable quiet found active owner
    storable (clock.trans past) turn ordered recorded
  apply finished.weaken
  rintro last ⟨-, quiet, finish⟩
  rw [same] at finish
  exact ⟨quiet, finish⟩

/-- A check whose worker has disappeared in its persist transaction. -/
def unfinishedCheck : List QueueAction :=
  QueuedScript.core Script.setUp ++ QueuedScript.startCheck 1 1000 ++
    QueuedScript.core (Script.beginResult 0 1 .targetFailure 1000)

theorem checks_never_stuck_sample :
    ∃ q : QueuedSystem, ∃ check monitor, q.system.db.checks.get 1 = some check ∧
      check.status = .running ∧ q.system.db.monitors.get 1 = some monitor ∧
      monitor.healthState ≠ .down ∧
      Possible sampleWorkers ⟨q, 1010⟩ fun last => last.system.quiescent ∧
        CheckFinished q.system.db last.system.db 1 check monitor
          (Script.checkResult .targetFailure 90000) := by
  obtain ⟨q, reachable, tested⟩ := queued_reachable_of_script unfinishedCheck
    (fun q => (q.system.db.checks.get 1).any fun (check : CheckRow) =>
      check.status = .running && check.monitorId = 1 && check.turn ≤ 90000 &&
        (q.system.db.monitors.get 1).any fun (monitor : MonitorRow) =>
          monitor.healthState ≠ .down && decide monitor.Storable)
    (by decide +kernel)
  simp only [Bool.and_eq_true, Option.any_eq_true, decide_eq_true_eq] at tested
  obtain ⟨check, found, ⟨⟨running, own⟩, turn⟩, monitor, stored, healthy, storable⟩ := tested
  have active : check.status.isActive = true := by
    rw [running]
    rfl
  have owner : q.system.db.monitors.get check.monitorId = some monitor := by
    rw [own]
    exact stored
  exact ⟨q, check, monitor, found, running, stored, healthy,
    checks_never_stuck sampleWorkers (m := ⟨q, 1010⟩) reachable found active owner storable
      (Script.checkResult .targetFailure 90000) 90010 (show 1010 ≤ 90000 by decide) turn
      (by decide) (by decide)⟩

def SameMonitoring (before after : Database) : Prop :=
  ∀ id row, before.monitors.get id = some row → ∃ next, after.monitors.get id = some next ∧
    next.state = row.state ∧ next.config = row.config

theorem storable_kept {row earlier : MonitorRow} (storable : earlier.Storable)
    (state : row.state = earlier.state) (config : row.config = earlier.config) : row.Storable := by
  have failures : row.consecutiveFailures = earlier.consecutiveFailures :=
    congrArg MonitorState.consecutiveFailures state
  have successes : row.consecutiveSuccesses = earlier.consecutiveSuccesses :=
    congrArg MonitorState.consecutiveSuccesses state
  have version : row.configVersion = earlier.configVersion :=
    congrArg MonitorState.configVersion state
  obtain ⟨columns, countable, failure, recovery⟩ := storable
  constructor
  · rw [MonitorRow.FitsColumns, failures, successes, version]
    exact columns
  · rw [failures, successes]
    exact countable
  · rw [config]
    exact failure
  · rw [config]
    exact recovery

/-- A result that says nothing about the target leaves the state as it is. -/
theorem inconclusive_keeps_state {state : MonitorState} {input : CheckTransitionInput}
    {transition : StateTransitionResult} (outcome : input.outcome = .inconclusive)
    (returned : applyCheckResult state input = .ok transition) : transition.state = state := by
  have ignored : input.participates state.configVersion = false := by
    simp [CheckTransitionInput.participates, outcome]
  cases apply_check_result_cases returned with
  | ignored => rfl
  | success _ _ participates =>
      rw [ignored] at participates
      cases participates
  | failure _ _ participates =>
      rw [ignored] at participates
      cases participates

def activeChecks (db : Database) : List (CheckId × CheckRow) :=
  db.checks.select fun _ row => row.status.isActive

/-- A checker none of whose checks says anything about its target. -/
structure InconclusiveChecker where
  result : Time → MonitorCheckResult
  startedAt : ∀ now, (result now).startedAt = now
  ordered : ∀ now, now ≤ (result now).finishedAt
  outcome : ∀ now, (result now).outcome = .inconclusive

/-- A finished check leaves every monitor as it is folded with the next result. -/
theorem finish_keeps_monitoring {before middle after : Database} {result : MonitorCheckResult}
    (finish : CheckFinished middle after id check monitor result)
    (outcome : result.outcome = .inconclusive)
    (owner : middle.monitors.get check.monitorId = some monitor)
    (monitoring : SameMonitoring before middle) : SameMonitoring before after := by
  intro other row found
  obtain ⟨between, stored, state, config⟩ := monitoring other row found
  by_cases same : other = check.monitorId
  · obtain ⟨folded, transition, written, returned, foldedState, foldedConfig⟩ := finish.folded
    rw [same, owner, Option.some.injEq] at stored
    have kept := inconclusive_keeps_state outcome returned
    refine ⟨folded, by rw [same, written], ?_, ?_⟩
    · rw [foldedState, kept, stored, state]
    · rw [foldedConfig, stored, config]
  · exact ⟨between, by rw [finish.otherMonitors other same, stored], state, config⟩

/-- The columns of the monitors can hold one more check. -/
def AllStorable (db : Database) : Prop :=
  ∀ id row, db.monitors.get id = some row → row.Storable

theorem finish_keeps_storable {before after : Database} {result : MonitorCheckResult}
    (finish : CheckFinished before after id check monitor result)
    (outcome : result.outcome = .inconclusive)
    (owner : before.monitors.get check.monitorId = some monitor) (storable : AllStorable before) :
    AllStorable after := by
  intro other row stored
  by_cases same : other = check.monitorId
  · obtain ⟨folded, transition, written, returned, state, config⟩ := finish.folded
    rw [same, written, Option.some.injEq] at stored
    rw [inconclusive_keeps_state outcome returned] at state
    rw [← stored]
    exact storable_kept (storable _ _ owner) state config
  · rw [finish.otherMonitors other same] at stored
    exact storable other row stored

theorem checks_drain {w : Workers} {m : Moment} (checker : InconclusiveChecker)
    (reachable : m.queued.Reachable) (quiet : m.system.quiescent)
    (storable : AllStorable m.system.db) :
    Possible w m fun last => (last.queued.Reachable ∧ last.system.quiescent ∧
        SameMonitoring m.system.db last.system.db ∧ AllStorable last.system.db) ∧
      ∀ id row, last.system.db.checks.get id = some row → row.status.isActive = false := by
  apply CanReach.rounds (fun last => (activeChecks last.system.db).length)
  · rintro middle ⟨reachable, quiet, monitoring, storable⟩ unfinished
    push Not at unfinished
    obtain ⟨id, check, found, running⟩ := unfinished
    have active : check.status.isActive = true := by simpa using running
    have reached := QueuedSystem.system_reachable reachable
    obtain ⟨monitor, owner, -, -⟩ :=
      (ledger_invariant_reachable reached).consistent.active id check found active
    let now := max middle.clock check.turn
    have starts : now = (checker.result now).startedAt := (checker.startedAt now).symm
    have past : middle.clock ≤ (checker.result now).startedAt :=
      starts ▸ Nat.le_max_left middle.clock check.turn
    have turn : check.turn ≤ (checker.result now).startedAt :=
      starts ▸ Nat.le_max_right middle.clock check.turn
    have ordered : (checker.result now).startedAt ≤ (checker.result now).finishedAt :=
      starts ▸ checker.ordered now
    have finished : Possible w middle _ := check_finish_possible reachable quiet found active owner
      (storable _ _ owner) past turn ordered (Nat.le_refl _)
    apply finished.weaken
    rintro last ⟨reached, quiet, finish⟩
    have outcome := checker.outcome now
    refine ⟨⟨reached, quiet, finish_keeps_monitoring finish outcome owner monitoring,
      finish_keeps_storable finish outcome owner storable⟩, ?_⟩
    obtain ⟨completed, stored, status, -⟩ := finish.completed
    apply Table.select_shorter found active
    · intro next written
      rw [stored, Option.some.injEq] at written
      rw [← written, status]
      rfl
    · intro other next written waits
      by_cases same : other = id
      · rw [same, stored, Option.some.injEq] at written
        rw [← written, status] at waits
        cases waits
      · rw [finish.otherChecks other same] at written
        exact ⟨next, written, waits⟩
  · exact ⟨reachable, quiet, fun id row stored => ⟨row, stored, rfl, rfl⟩, storable⟩

/-- Whatever has happened, dispatchers and workers alone can still bring everything to its
end: every check is over and every notification is sent, failed or canceled, and no monitor
is in another state for it. -/
theorem system_drains (w : Workers) (checker : InconclusiveChecker) {m : Moment}
    (reachable : m.queued.Reachable) (storable : AllStorable m.system.db) :
    Possible w m fun last => last.system.quiescent ∧
      SameMonitoring m.system.db last.system.db ∧
      (∀ id row, last.system.db.checks.get id = some row → row.status.isActive = false) ∧
      ∀ key row, last.system.db.outbox.get key = some row → row.status.isTerminal = true := by
  apply (settled_moment w reachable).trans
  rintro idle ⟨quiet, same, reachable, -⟩
  rw [← same] at storable ⊢
  apply (checks_drain checker reachable quiet storable).trans
  rintro middle ⟨⟨reachable, quiet, monitoring, -⟩, inactive⟩
  apply (outbox_drains reachable quiet).weaken
  rintro last ⟨⟨-, silent, monitors, checks, -, -⟩, terminal⟩
  refine ⟨silent, ?_, ?_, terminal⟩
  · rw [SameMonitoring, monitors]
    exact monitoring
  · rw [checks]
    exact inactive

/-- A new check, while the notification of the last one is still being sent. -/
def busyScript : List QueueAction :=
  QueuedScript.core Script.setUp ++ QueuedScript.failingCheck 1 1000 ++
    QueuedScript.claimDown (Script.downKey 1) 1100 ++ QueuedScript.startCheck 2 61000

def inconclusiveChecker : InconclusiveChecker where
  result := Script.checkResult .inconclusive
  startedAt _ := rfl
  ordered now := Nat.le_add_right now 10
  outcome _ := rfl

theorem system_drains_sample :
    ∃ q : QueuedSystem, activeChecks q.system.db ≠ [] ∧ waitingRows q.system.db ≠ [] ∧
      Possible sampleWorkers ⟨q, 61000⟩ fun last => last.system.quiescent ∧
        SameMonitoring q.system.db last.system.db ∧
        (∀ id row, last.system.db.checks.get id = some row → row.status.isActive = false) ∧
        ∀ key row, last.system.db.outbox.get key = some row →
          row.status.isTerminal = true := by
  obtain ⟨q, reachable, tested⟩ := queued_reachable_of_script busyScript
    (fun q => !(activeChecks q.system.db).isEmpty && !(waitingRows q.system.db).isEmpty &&
      (q.system.db.monitors.select fun _ row => !decide row.Storable).isEmpty)
    (by decide +kernel)
  simp only [Bool.and_eq_true, Bool.not_eq_true', List.isEmpty_eq_false_iff,
    List.isEmpty_iff] at tested
  obtain ⟨⟨busy, waiting⟩, all⟩ := tested
  have storable : AllStorable q.system.db := by
    intro id row stored
    by_contra unfit
    have member : (id, row) ∈ q.system.db.monitors.select fun _ row => !decide row.Storable := by
      rw [Table.mem_select]
      exact ⟨stored, by simp [unfit]⟩
    rw [all] at member
    cases member
  exact ⟨q, busy, waiting,
    system_drains sampleWorkers inconclusiveChecker (m := ⟨q, 61000⟩) reachable storable⟩

end Whole

end LinkAlive
