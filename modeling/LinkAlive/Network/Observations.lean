import LinkAlive.Network.Ledger
import LinkAlive.Network.Script

/-!
# Observations of a summarized outage

A summary counts the observations of its outage. A result that is tied to the outage on
its way to the ledger is not among them, and a snapshot that still names the outage can
tie further results to it.
-/

namespace LinkAlive.Network

set_option autoImplicit false

open Relational

def observed (net : NetworkDatabase) (outageId : OutageId) (monitorId : MonitorId) : Bool :=
  (net.observations.get (outageId, monitorId)).isSome

def NetworkSystem.registered (s : NetworkSystem) (job : JobId) (outageId : OutageId) : Bool :=
  match s.core.jobs.get job with
  | some (.running _ check _) => observed s.net outageId check.monitorId
  | _ => false

def NetworkOutageRow.isSummarized (outage : NetworkOutageRow) : Bool :=
  outage.recoveredAt.isSome && outage.summarizedAt.isSome

/-- A summary reports while a worker holds a result of the outage whose monitor has no
observation yet, or a worker ties such a result to an outage that has been summarized. -/
def escapesSummary (s : NetworkSystem) (a : Action) : Bool :=
  match a with
  | .commitSummarize m => (s.summaries.get m).any fun tx => tx.reports &&
      !s.assessments.every fun job stage => match stage with
        | .assessed _ (some id) => decide (id ≠ tx.outageId) || s.registered job id
        | _ => true
  | a => match s.assessment a with
      | some (job, .assessed _ (some id)) =>
          (s.net.outages.get id).any NetworkOutageRow.isSummarized && !s.registered job id
      | _ => false

def ObservationsCounted (s : NetworkSystem) : Prop :=
  ∀ outageId counted, s.counted.get outageId = some counted →
    ∀ monitorId, observed s.net outageId monitorId = true ↔ monitorId ∈ counted

theorem mem_observations_of {net : NetworkDatabase} {outageId : OutageId} {monitorId : MonitorId} :
    monitorId ∈ (observationsOf net.observations outageId).map Prod.fst ↔
      observed net outageId monitorId = true := by
  rw [observed, Option.isSome_iff_exists]
  simp only [observationsOf, List.map_map, List.mem_map, Function.comp_apply]
  constructor
  · rintro ⟨⟨⟨id, monitor⟩, row⟩, member, rfl⟩
    obtain ⟨stored, same⟩ := (Table.mem_select _ _ _ _).1 member
    have own : id = outageId := of_decide_eq_true same
    exact ⟨row, own ▸ stored⟩
  · rintro ⟨row, stored⟩
    exact ⟨((outageId, monitorId), row), (Table.mem_select _ _ _ _).2 ⟨stored, by simp⟩, rfl⟩

theorem observed_recheck (net : NetworkDatabase) (tx : PersistTx) (outageId : OutageId)
    (monitorId : MonitorId) :
    observed { net with observations := recheckObservations net tx } outageId monitorId =
      observed net outageId monitorId := by
  simp [observed, recheckObservations, Table.get_update_where]

theorem observed_register {net : NetworkDatabase} {id outageId : OutageId} {monitorId : MonitorId}
    (tx : PersistTx) :
    observed { net with observations := registerObservation net.observations id tx } outageId
        monitorId = true ↔
      observed net outageId monitorId = true ∨
        registers tx = true ∧ id = outageId ∧ tx.monitorId = monitorId := by
  simp only [observed, registerObservation]
  split
  · rename_i creates
    rw [Bool.and_eq_true, Option.isNone_iff_eq_none] at creates
    rw [Table.get_put]
    split
    · rename_i same
      cases same
      simp [creates.1]
    · rename_i apart
      refine ⟨Or.inl, fun present => present.resolve_right ?_⟩
      rintro ⟨-, rfl, rfl⟩
      exact apart rfl
  · rename_i leaves
    refine ⟨Or.inl, ?_⟩
    rintro (present | ⟨registering, rfl, rfl⟩)
    · exact present
    · exact Option.isSome_iff_ne_none.2 (by simpa [registering] using leaves)

theorem observed_persist {net : NetworkDatabase} {registration : Option OutageId}
    {tx : PersistTx} {outageId : OutageId} {monitorId : MonitorId} :
    observed (persistObservations net registration tx) outageId monitorId = true ↔
      observed net outageId monitorId = true ∨
        registers tx = true ∧ registration = some outageId ∧ tx.monitorId = monitorId := by
  cases registration with
  | none =>
      have same : observed (persistObservations net none tx) outageId monitorId =
          observed net outageId monitorId := observed_recheck net tx outageId monitorId
      rw [same]
      simp
  | some id =>
      have same : observed (persistObservations net (some id) tx) outageId monitorId =
          observed { net with observations := registerObservation net.observations id tx } outageId
            monitorId := observed_recheck _ tx outageId monitorId
      rw [same, observed_register, Option.some.injEq]

structure OutageKept (outage next : NetworkOutageRow) : Prop where
  recovered : outage.recoveredAt.isSome = true → next.recoveredAt.isSome = true
  summarized : outage.summarizedAt.isSome = true → next.summarizedAt.isSome = true

theorem OutageKept.refl (outage : NetworkOutageRow) : OutageKept outage outage :=
  ⟨fun held => held, fun held => held⟩

theorem OutageKept.isSummarized {outage next : NetworkOutageRow} (kept : OutageKept outage next)
    (summarized : outage.isSummarized = true) : next.isSummarized = true := by
  rw [NetworkOutageRow.isSummarized, Bool.and_eq_true] at summarized ⊢
  exact ⟨kept.recovered summarized.1, kept.summarized summarized.2⟩

theorem outage_kept_recovered (outage : NetworkOutageRow) (checkedAt : Time) :
    OutageKept outage (outage.recovered checkedAt) := ⟨fun _ => rfl, fun held => held⟩

theorem outage_kept_canceled (outage : NetworkOutageRow) (checkedAt : Time) :
    OutageKept outage (outage.canceled checkedAt) := ⟨fun held => held, fun _ => rfl⟩

theorem outage_kept_summarized (outage : NetworkOutageRow) (now : Time) :
    OutageKept outage (outage.summarized now) := ⟨fun held => held, fun _ => rfl⟩

theorem outage_kept_update {outages : Table OutageId NetworkOutageRow}
    {change : NetworkOutageRow → NetworkOutageRow} (target : OutageId)
    (keeps : ∀ outage, OutageKept outage (change outage)) {id : OutageId}
    {outage : NetworkOutageRow} (stored : outages.get id = some outage) :
    ∃ next, (outages.updateKey target change).get id = some next ∧ OutageKept outage next := by
  rw [Table.get_update_key, stored]
  split
  · exact ⟨_, rfl, keeps outage⟩
  · exact ⟨outage, rfl, .refl outage⟩

theorem outage_write_keeps {write : OutageWrite} {outages next : Table OutageId NetworkOutageRow}
    {observerId : ObserverId} {probe : Probe} {newId : OutageId}
    (written : write.apply outages observerId probe newId = some next) {id : OutageId}
    {outage : NetworkOutageRow} (stored : outages.get id = some outage) :
    ∃ row, next.get id = some row ∧ OutageKept outage row := by
  cases write with
  | none =>
      cases written
      exact ⟨outage, stored, .refl outage⟩
  | create =>
      obtain ⟨fresh, rfl⟩ := (Table.insert_new_eq_some _ _ _ _).1 written
      refine ⟨outage, ?_, .refl outage⟩
      rw [Table.get_put, if_neg]
      · exact stored
      · rintro rfl
        rw [fresh] at stored
        cases stored
  | recover target =>
      simp only [OutageWrite.apply, Option.ite_none_right_eq_some, Option.some.injEq] at written
      obtain ⟨-, rfl⟩ := written
      exact outage_kept_update target (outage_kept_recovered · probe.checkedAt) stored
  | cancel target =>
      simp only [OutageWrite.apply, Option.ite_none_right_eq_some, Option.some.injEq] at written
      obtain ⟨-, rfl⟩ := written
      exact outage_kept_update target (outage_kept_canceled · probe.checkedAt) stored

theorem step_outage_kept {config : NetworkConfig} {s after : NetworkSystem} {a : Action}
    (taken : step config s a = some after) {id : OutageId} {outage : NetworkOutageRow}
    (stored : s.net.outages.get id = some outage) :
    ∃ next, after.net.outages.get id = some next ∧ OutageKept outage next := by
  have same : ∃ next, s.net.outages.get id = some next ∧ OutageKept outage next :=
    ⟨outage, stored, .refl outage⟩
  cases step_cases taken with
  | ledger _ core _ _ _ _ followed =>
      rw [(follow_frame followed).1.outages]
      exact same
  | committed i inspection probe observer newId resets outages _ _ written =>
      exact outage_write_keeps written stored
  | summaryReported m tx resets =>
      exact outage_kept_update tx.outageId (outage_kept_summarized · tx.now) stored
  | ticked => exact same
  | saved => exact same
  | inspected => exact same
  | advanced => exact same
  | aborted => exact same
  | delivered => exact same
  | restarted => exact same
  | assessed => exact same
  | summaryBegun => exact same
  | summaryReset => exact same
  | summaryDeferred => exact same
  | summaryAborted => exact same

/-- What an action of the ledger does to the guards' view of it. -/
structure FollowEffect (s after : NetworkSystem) (a : LinkAlive.Action) : Prop where
  assessments : ∀ job stage, after.assessments.get job = some stage →
    s.assessments.get job = some stage ∧ (∀ data, a ≠ .loadCheck job data) ∧
      ∀ t config result databaseTime, a ≠ .beginPersist t job config result databaseTime
  registrations : ∀ t outageId, after.registrations.get t = some outageId →
    (s.registrations.get t = some outageId ∧ a ≠ .abort t ∧
      (a = .commit t → ∀ tx, s.core.txs.get t ≠ some (.persist tx))) ∨
    ∃ job config result databaseTime, a = .beginPersist t job config result databaseTime ∧
      s.carried job result = some (some outageId) ∧ s.outageFree outageId = true
  observations : after.net = s.net ∨ ∃ t tx, a = .commit t ∧
    s.core.txs.get t = some (.persist tx) ∧
      after.net = persistObservations s.net (s.registrations.get t) tx

theorem follow_effect {s after : NetworkSystem} {core : System} {a : LinkAlive.Action}
    (followed : s.follow core a = some after) : FollowEffect s after a := by
  unfold NetworkSystem.follow at followed
  split at followed
  · rename_i job data
    cases followed
    refine ⟨?_, ?_, Or.inl rfl⟩
    · intro other stage found
      rw [Table.get_remove] at found
      split at found
      · cases found
      · rename_i apart
        exact ⟨found, fun _ same => by cases same; exact apart rfl, by simp⟩
    · intro t outageId found
      exact Or.inl ⟨found, by simp⟩
  · rename_i t job config result databaseTime
    simp only [Option.bind_eq_bind, Option.bind_eq_some_iff] at followed
    obtain ⟨outageId, carried, followed⟩ := followed
    have others : ∀ other stage, (s.assessments.remove job).get other = some stage →
        s.assessments.get other = some stage ∧
          (∀ data, LinkAlive.Action.beginPersist t job config result databaseTime ≠
            .loadCheck other data) ∧
          ∀ u otherConfig otherResult time,
            LinkAlive.Action.beginPersist t job config result databaseTime ≠
              .beginPersist u other otherConfig otherResult time := by
      intro other stage found
      rw [Table.get_remove] at found
      split at found
      · cases found
      · rename_i apart
        refine ⟨found, by simp, ?_⟩
        intro u otherConfig otherResult time same
        cases same
        exact apart rfl
    split at followed
    · cases followed
      exact ⟨others, fun u id found => Or.inl ⟨found, by simp⟩, Or.inl rfl⟩
    · rename_i id
      simp only [Option.ite_none_right_eq_some, Option.some.injEq, Bool.and_eq_true] at followed
      obtain ⟨⟨free, -⟩, rfl⟩ := followed
      refine ⟨others, ?_, Or.inl rfl⟩
      intro u outageId found
      rw [Table.get_put] at found
      split at found
      · rename_i same
        subst same
        cases found
        exact Or.inr ⟨job, config, result, databaseTime, rfl, carried, free⟩
      · exact Or.inl ⟨found, by simp⟩
  · rename_i t
    split at followed
    · rename_i tx inProgress
      cases followed
      refine ⟨fun job stage found => ⟨found, by simp⟩, ?_, Or.inr ⟨t, tx, rfl, inProgress, rfl⟩⟩
      intro u outageId found
      rw [Table.get_remove] at found
      split at found
      · cases found
      · rename_i apart
        refine Or.inl ⟨found, by simp, ?_⟩
        intro same
        cases same
        exact absurd rfl apart
    · rename_i notPersist
      cases followed
      refine ⟨fun job stage found => ⟨found, by simp⟩, ?_, Or.inl rfl⟩
      intro u outageId found
      refine Or.inl ⟨found, by simp, ?_⟩
      intro same
      cases same
      exact notPersist
  · rename_i t
    cases followed
    refine ⟨fun job stage found => ⟨found, by simp⟩, ?_, Or.inl rfl⟩
    intro u outageId found
    rw [Table.get_remove] at found
    split at found
    · cases found
    · rename_i apart
      refine Or.inl ⟨found, ?_, by simp⟩
      intro same
      cases same
      exact apart rfl
  · rename_i notLoad notPersist notCommit notAbort
    cases followed
    refine ⟨fun job stage found => ⟨found, notLoad job, fun t => notPersist t job⟩, ?_,
      Or.inl rfl⟩
    intro u outageId found
    exact Or.inl ⟨found, notAbort u, fun same => absurd same (notCommit u)⟩

theorem step_observations {config : NetworkConfig} {s after : NetworkSystem} {a : Action}
    (taken : step config s a = some after) :
    after.net.observations = s.net.observations ∨
      ∃ t tx, a = .core (.commit t) ∧ s.core.txs.get t = some (.persist tx) ∧
        after.net = persistObservations s.net (s.registrations.get t) tx := by
  cases step_cases taken with
  | ledger _ core _ _ _ _ followed =>
      rcases (follow_effect followed).observations with same | ⟨t, tx, rfl, inProgress, written⟩
      · exact Or.inl (congrArg NetworkDatabase.observations same)
      · exact Or.inr ⟨t, tx, rfl, inProgress, written⟩
  | ticked => exact Or.inl rfl
  | saved => exact Or.inl rfl
  | inspected => exact Or.inl rfl
  | advanced => exact Or.inl rfl
  | committed => exact Or.inl rfl
  | aborted => exact Or.inl rfl
  | delivered => exact Or.inl rfl
  | restarted => exact Or.inl rfl
  | assessed => exact Or.inl rfl
  | summaryBegun => exact Or.inl rfl
  | summaryReset => exact Or.inl rfl
  | summaryDeferred => exact Or.inl rfl
  | summaryReported => exact Or.inl rfl
  | summaryAborted => exact Or.inl rfl

theorem step_running_job {s after : System} {a : LinkAlive.Action}
    (stepped : LinkAlive.Stepped s a after) {job : JobId} {id : CheckId} {check : CheckRow}
    {monitor : MonitorRow} (running : s.jobs.get job = some (.running id check monitor))
    (loaded : ∀ data, a ≠ .loadCheck job data)
    (persisted : ∀ t config result databaseTime,
      a ≠ .beginPersist t job config result databaseTime) :
    after.jobs.get job = some (.running id check monitor) := by
  have others : ∀ {other : JobId} {value : CheckJob}, s.jobs.get other = some value →
      (∀ cid row read, value ≠ .running cid row read) → job ≠ other := by
    rintro other value found idle rfl
    rw [running] at found
    cases found
    exact idle _ _ _ rfl
  cases stepped with
  | ledger _ checks jobs statement =>
      cases statement with
      | claimForDispatch => exact running
      | markEnqueued => exact running
      | releaseDispatchClaim => exact running
      | loadCheck other data =>
          dsimp only
          rw [Table.get_put, if_neg]
          · exact running
          · rintro rfl
            exact loaded data rfl
      | loadMonitor other cid row read scheduled =>
          dsimp only
          rw [Table.get_put, if_neg (others scheduled (by simp))]
          exact running
      | cancelStale other cid now stale =>
          dsimp only
          rw [Table.get_remove, if_neg (others stale (by simp))]
          exact running
      | claimCheck other cid row read owner leaseMs now current =>
          dsimp only
          have apart := others current (by simp)
          split
          · rw [Table.get_put, if_neg apart]
            exact running
          · rw [Table.get_remove, if_neg apart]
            exact running
  | began _ t tx jobs attempts begun =>
      cases begun with
      | persist other cid row original config result databaseTime =>
          dsimp only
          rw [Table.get_remove, if_neg]
          · exact running
          · rintro rfl
            exact persisted _ _ _ _ rfl
      | monitor => exact running
      | channel => exact running
      | createDue => exact running
      | claim => exact running
      | markSent => exact running
  | channel => exact running
  | advanced => exact running
  | failed => exact running
  | dispatcher => exact running
  | committed => exact running
  | aborted => exact running

theorem step_persist_stays {s after : System} {a : LinkAlive.Action}
    (stepped : LinkAlive.Stepped s a after) {t : TxId} {tx : PersistTx}
    (inProgress : s.txs.get t = some (.persist tx)) (committed : a ≠ .commit t)
    (aborted : a ≠ .abort t) :
    ∃ next, after.txs.get t = some (.persist next) ∧ next.monitorId = tx.monitorId := by
  have same : ∃ next, s.txs.get t = some (.persist next) ∧ next.monitorId = tx.monitorId :=
    ⟨tx, inProgress, rfl⟩
  cases stepped with
  | began _ u ux jobs attempts begun unused =>
      dsimp only
      rw [Table.get_put, if_neg]
      · exact same
      · rintro rfl
        rw [unused] at inProgress
        cases inProgress
  | advanced _ u before next earlier advance =>
      dsimp only
      rw [Table.get_put]
      split
      · rename_i own
        subst own
        rw [earlier] at inProgress
        cases inProgress
        exact ⟨next, rfl, congrArg CheckRow.monitorId (advance_kept advance).2.2.1⟩
      · exact same
  | committed u =>
      dsimp only
      rw [Table.get_remove, if_neg]
      · exact same
      · rintro rfl
        exact committed rfl
  | aborted u =>
      dsimp only
      rw [Table.get_remove, if_neg]
      · exact same
      · rintro rfl
        exact aborted rfl
  | channel => exact same
  | ledger => exact same
  | failed => exact same
  | dispatcher => exact same

/-- What holds of an outage that a summary has reported: every result that is still tied to
it belongs to a monitor that was counted. -/
structure CountedOutage (s : NetworkSystem) (outageId : OutageId) (counted : List MonitorId) :
    Prop where
  summarized : ∃ outage, s.net.outages.get outageId = some outage ∧ outage.isSummarized = true
  observed : ∀ monitorId, observed s.net outageId monitorId = true ↔ monitorId ∈ counted
  holders : ∀ job result, s.assessments.get job = some (.assessed result (some outageId)) →
    s.registered job outageId = true
  registrations : ∀ t, s.registrations.get t = some outageId →
    ∃ tx, s.core.txs.get t = some (.persist tx) ∧
      Network.observed s.net outageId tx.monitorId = true

/-- What holds of a summary in progress, which has locked its outage. -/
structure SummaryView (s : NetworkSystem) (tx : SummaryTx) : Prop where
  recovered : ∃ outage, s.net.outages.get tx.outageId = some outage ∧
    outage.recoveredAt.isSome = true
  observed : ∀ monitorId, observed s.net tx.outageId monitorId = true ↔
    monitorId ∈ tx.observations.map Prod.fst
  apart : ∀ t outageId, s.registrations.get t = some outageId → outageId ≠ tx.outageId

structure ObservationInvariant (s : NetworkSystem) : Prop where
  guarded : GuardedLedger s
  running : ∀ job stage, s.assessments.get job = some stage →
    ∃ id check monitor, s.core.jobs.get job = some (.running id check monitor)
  persists : ∀ t outageId, s.registrations.get t = some outageId →
    ∃ tx, s.core.txs.get t = some (.persist tx)
  summaries : ∀ m tx, s.summaries.get m = some tx → SummaryView s tx
  counted : ∀ outageId counted, s.counted.get outageId = some counted →
    CountedOutage s outageId counted

theorem CountedOutage.moved {s after : NetworkSystem} {outageId : OutageId}
    {counted : List MonitorId} (law : CountedOutage s outageId counted)
    (kept : ∀ outage, s.net.outages.get outageId = some outage →
      ∃ next, after.net.outages.get outageId = some next ∧ OutageKept outage next)
    (same : ∀ monitorId, Network.observed after.net outageId monitorId = true ↔
      Network.observed s.net outageId monitorId = true)
    (holders : ∀ job result,
      after.assessments.get job = some (.assessed result (some outageId)) →
        s.registered job outageId = true ∧ after.core.jobs.get job = s.core.jobs.get job)
    (registrations : ∀ t, after.registrations.get t = some outageId →
      ∃ tx, after.core.txs.get t = some (.persist tx) ∧
        Network.observed s.net outageId tx.monitorId = true) :
    CountedOutage after outageId counted where
  summarized := by
    obtain ⟨outage, stored, summarized⟩ := law.summarized
    obtain ⟨next, found, keeps⟩ := kept outage stored
    exact ⟨next, found, keeps.isSummarized summarized⟩
  observed monitorId := (same monitorId).trans (law.observed monitorId)
  holders job result found := by
    obtain ⟨registered, jobs⟩ := holders job result found
    unfold NetworkSystem.registered at registered ⊢
    rw [jobs]
    split at registered
    · exact (same _).2 registered
    · cases registered
  registrations t found := by
    obtain ⟨tx, inProgress, present⟩ := registrations t found
    exact ⟨tx, inProgress, (same _).2 present⟩

theorem SummaryView.moved {s after : NetworkSystem} {tx next : SummaryTx} (view : SummaryView s tx)
    (outageId : next.outageId = tx.outageId) (observations : next.observations = tx.observations)
    (kept : ∀ outage, s.net.outages.get tx.outageId = some outage →
      ∃ row, after.net.outages.get tx.outageId = some row ∧ OutageKept outage row)
    (same : ∀ monitorId, Network.observed after.net tx.outageId monitorId = true ↔
      Network.observed s.net tx.outageId monitorId = true)
    (registrations : ∀ t id, after.registrations.get t = some id → id ≠ tx.outageId) :
    SummaryView after next where
  recovered := by
    obtain ⟨outage, stored, recovered⟩ := view.recovered
    obtain ⟨row, found, keeps⟩ := kept outage stored
    rw [outageId]
    exact ⟨row, found, keeps.recovered recovered⟩
  observed monitorId := by
    rw [outageId, observations]
    exact (same monitorId).trans (view.observed monitorId)
  apart := by
    rw [outageId]
    exact registrations

theorem NetworkSystem.registered_running {s : NetworkSystem} {job : JobId} {outageId : OutageId}
    {id : CheckId} {check : CheckRow} {monitor : MonitorRow}
    (running : s.core.jobs.get job = some (.running id check monitor))
    (registered : s.registered job outageId = true) :
    observed s.net outageId check.monitorId = true := by
  rw [NetworkSystem.registered, running] at registered
  exact registered

theorem persist_begin_monitor {s core : System} {t : TxId} {job : JobId}
    {config : CheckProcessorConfig} {result : MonitorCheckResult} {databaseTime : Time}
    (ledger : LedgerInvariant s)
    (taken : LinkAlive.step s (.beginPersist t job config result databaseTime) = some core) :
    ∃ id check monitor tx, s.jobs.get job = some (.running id check monitor) ∧
      core.txs.get t = some (.persist tx) ∧ tx.monitorId = check.monitorId := by
  simp only [LinkAlive.step, System.beginPersist] at taken
  split at taken
  · rename_i id check monitor running
    simp only [Option.bind_eq_bind, Option.bind_eq_some_iff] at taken
    obtain ⟨tx, started, taken⟩ := taken
    split at taken
    · obtain ⟨-, rfl⟩ := System.begin_eq_some.1 taken
      obtain ⟨row, stored, slot⟩ := ledger.jobs job _ running
      have read := (persist_begin_view ledger.consistent started).check
      have checkId : tx.checkId = id := by
        simp only [persistBegin, Option.bind_eq_bind, Option.bind_eq_some_iff] at started
        obtain ⟨check, -, started⟩ := started
        split at started
        · cases started
        · simp only [Option.bind_eq_some_iff] at started
          obtain ⟨owner, -, transition, -, built⟩ := started
          cases built
          rfl
      obtain ⟨other, found, same, -⟩ := read
      rw [checkId, stored, Option.some.injEq] at found
      subst found
      exact ⟨id, check, monitor, tx, running, by simp [Table.get_put],
        same.1.symm.trans slot.1⟩
    · cases taken
  · cases taken

section LedgerStep

variable {s after : NetworkSystem} {core : System} {a : LinkAlive.Action}

/-- An assessment that an action leaves belongs to a job that it leaves. -/
theorem follow_assessments (inv : ObservationInvariant s)
    (taken : LinkAlive.step s.core a = some core) (followed : s.follow core a = some after)
    {job : JobId} {stage : AssessStage} (found : after.assessments.get job = some stage) :
    s.assessments.get job = some stage ∧ after.core.jobs.get job = s.core.jobs.get job := by
  obtain ⟨earlier, loaded, persisted⟩ := (follow_effect followed).assessments job stage found
  obtain ⟨id, check, monitor, running⟩ := inv.running job stage earlier
  refine ⟨earlier, ?_⟩
  rw [(follow_frame followed).2, running]
  exact step_running_job (LinkAlive.step_cases taken) running loaded persisted

theorem follow_registrations (inv : ObservationInvariant s)
    (taken : LinkAlive.step s.core a = some core) (followed : s.follow core a = some after)
    {t : TxId} {outageId : OutageId} (found : after.registrations.get t = some outageId) :
    (∃ tx next, s.registrations.get t = some outageId ∧ s.core.txs.get t = some (.persist tx) ∧
      after.core.txs.get t = some (.persist next) ∧ next.monitorId = tx.monitorId) ∨
    ∃ job result id check monitor next, s.outageFree outageId = true ∧
      s.assessments.get job = some (.assessed result (some outageId)) ∧
      s.core.jobs.get job = some (.running id check monitor) ∧
      after.core.txs.get t = some (.persist next) ∧ next.monitorId = check.monitorId := by
  rw [(follow_frame followed).2]
  rcases (follow_effect followed).registrations t outageId found with
    ⟨earlier, notAborted, notCommitted⟩ | ⟨job, config, result, time, rfl, carried, free⟩
  · obtain ⟨tx, inProgress⟩ := inv.persists t outageId earlier
    have committed : a ≠ .commit t := fun same => notCommitted same tx inProgress
    obtain ⟨next, stays, same⟩ :=
      step_persist_stays (LinkAlive.step_cases taken) inProgress committed notAborted
    exact Or.inl ⟨tx, next, earlier, inProgress, stays, same⟩
  · obtain ⟨id, check, monitor, next, running, begun, same⟩ :=
      persist_begin_monitor inv.guarded.ledger taken
    refine Or.inr ⟨job, result, id, check, monitor, next, free, ?_, running, begun, same⟩
    unfold NetworkSystem.carried at carried
    split at carried
    · cases carried
    · rename_i assessed outage held
      split at carried
      · rename_i same
        rw [held, same, Option.some.inj carried]
      · cases carried
    · cases carried

theorem follow_observed (followed : s.follow core a = some after) {outageId : OutageId}
    (present : ∀ t tx, s.registrations.get t = some outageId →
      s.core.txs.get t = some (.persist tx) → observed s.net outageId tx.monitorId = true)
    (monitorId : MonitorId) :
    observed after.net outageId monitorId = true ↔ observed s.net outageId monitorId = true := by
  rcases (follow_effect followed).observations with same | ⟨t, tx, -, inProgress, same⟩
  · rw [same]
  · rw [same, observed_persist]
    refine ⟨?_, Or.inl⟩
    rintro (earlier | ⟨-, registered, rfl⟩)
    · exact earlier
    · exact present t tx registered inProgress

theorem ObservationInvariant.ledger_step (inv : ObservationInvariant s)
    (guarded : GuardedLedger after) (taken : LinkAlive.step s.core a = some core)
    (followed : s.follow core a = some after) : ObservationInvariant after := by
  obtain ⟨frame, -⟩ := follow_frame followed
  have outages : ∀ id outage, s.net.outages.get id = some outage →
      ∃ next, after.net.outages.get id = some next ∧ OutageKept outage next := by
    intro id outage stored
    rw [frame.outages]
    exact ⟨outage, stored, .refl outage⟩
  constructor
  case guarded => exact guarded
  case running =>
    intro job stage found
    obtain ⟨earlier, jobs⟩ := follow_assessments inv taken followed found
    rw [jobs]
    exact inv.running job stage earlier
  case persists =>
    intro t outageId found
    rcases follow_registrations inv taken followed found with
      ⟨-, next, -, -, stays, -⟩ | ⟨-, -, -, -, -, next, -, -, -, begun, -⟩
    · exact ⟨next, stays⟩
    · exact ⟨next, begun⟩
  case summaries =>
    rw [frame.summaries]
    intro m tx stored
    have view := inv.summaries m tx stored
    refine view.moved rfl rfl (outages tx.outageId) ?_ ?_
    · apply follow_observed followed
      intro t other registered
      exact absurd rfl (view.apart t tx.outageId registered)
    · intro t id found
      rcases follow_registrations inv taken followed found with
        ⟨-, -, earlier, -⟩ | ⟨-, -, -, -, -, -, free, -⟩
      · exact view.apart t id earlier
      · simp only [NetworkSystem.outageFree, Bool.and_eq_true, Table.every_iff,
          decide_eq_true_eq] at free
        exact (free.1.2 m tx stored).symm
  case counted =>
    rw [frame.counted]
    intro outageId counted stored
    have law := inv.counted outageId counted stored
    apply law.moved (outages outageId)
    · apply follow_observed followed
      intro t tx registered inProgress
      obtain ⟨other, held, present⟩ := law.registrations t registered
      rw [inProgress] at held
      cases held
      exact present
    · intro job result found
      obtain ⟨earlier, jobs⟩ := follow_assessments inv taken followed found
      exact ⟨law.holders job result earlier, jobs⟩
    · intro t found
      rcases follow_registrations inv taken followed found with
        ⟨tx, next, earlier, inProgress, stays, same⟩ |
        ⟨job, result, id, check, monitor, next, -, held, running, begun, same⟩
      · obtain ⟨other, present, observed⟩ := law.registrations t earlier
        rw [inProgress] at present
        cases present
        exact ⟨next, stays, same ▸ observed⟩
      · refine ⟨next, begun, ?_⟩
        rw [same]
        exact NetworkSystem.registered_running running (law.holders job result held)

end LedgerStep

theorem ObservationInvariant.of_same {s after : NetworkSystem} (inv : ObservationInvariant s)
    (guarded : GuardedLedger after)
    (outages : ∀ id outage, s.net.outages.get id = some outage →
      ∃ next, after.net.outages.get id = some next ∧ OutageKept outage next)
    (observations : after.net.observations = s.net.observations)
    (jobs : after.core.jobs = s.core.jobs) (txs : after.core.txs = s.core.txs)
    (assessments : after.assessments = s.assessments)
    (registrations : after.registrations = s.registrations)
    (summaries : ∀ m tx, after.summaries.get m = some tx → SummaryView s tx)
    (counted : ∀ id list, after.counted.get id = some list → CountedOutage s id list) :
    ObservationInvariant after := by
  have same : ∀ outageId monitorId, observed after.net outageId monitorId = true ↔
      observed s.net outageId monitorId = true := by
    intro outageId monitorId
    rw [observed, observed, observations]
  constructor
  case guarded => exact guarded
  case running =>
    rw [assessments, jobs]
    exact inv.running
  case persists =>
    rw [registrations, txs]
    exact inv.persists
  case summaries =>
    intro m tx stored
    have view := summaries m tx stored
    refine view.moved rfl rfl (outages tx.outageId) (same tx.outageId) ?_
    rw [registrations]
    exact view.apart
  case counted =>
    intro outageId list stored
    have law := counted outageId list stored
    apply law.moved (outages outageId) (same outageId)
    · rw [assessments, jobs]
      exact fun job result found => ⟨law.holders job result found, rfl⟩
    · rw [registrations, txs]
      exact law.registrations

theorem assessment_running {s : NetworkSystem} (inv : ObservationInvariant s) {a : Action}
    {job : JobId} {stage : AssessStage} (assessed : s.assessment a = some (job, stage)) :
    ∃ id check monitor, s.core.jobs.get job = some (.running id check monitor) := by
  unfold NetworkSystem.assessment at assessed
  split at assessed
  · rename_i other worker result
    simp only [Option.ite_none_right_eq_some, Bool.and_eq_true, Option.map_eq_some_iff,
      Prod.mk.injEq] at assessed
    obtain ⟨⟨running, -⟩, -, -, rfl, -⟩ := assessed
    unfold NetworkSystem.isRunning at running
    split at running
    · rename_i id check monitor held
      exact ⟨id, check, monitor, held⟩
    · cases running
  · split at assessed
    · rename_i held
      simp only [Option.map_eq_some_iff, Prod.mk.injEq] at assessed
      obtain ⟨-, -, rfl, -⟩ := assessed
      exact inv.running _ _ held
    · cases assessed
  · split at assessed
    · rename_i held
      simp only [Option.map_eq_some_iff, Prod.mk.injEq] at assessed
      obtain ⟨-, -, rfl, -⟩ := assessed
      exact inv.running _ _ held
    · cases assessed
  · split at assessed
    · rename_i held
      simp only [Option.map_eq_some_iff, Prod.mk.injEq] at assessed
      obtain ⟨-, -, rfl, -⟩ := assessed
      exact inv.running _ _ held
    · cases assessed
  · cases assessed

theorem assessment_registered {s : NetworkSystem} {a : Action} (kept : escapesSummary s a = false)
    {job : JobId} {result : MonitorCheckResult} {id : OutageId}
    (assessed : s.assessment a = some (job, .assessed result (some id)))
    {outage : NetworkOutageRow} (stored : s.net.outages.get id = some outage)
    (summarized : outage.isSummarized = true) : s.registered job id = true := by
  unfold escapesSummary at kept
  split at kept
  · cases assessed
  · simpa [assessed, stored, summarized] using kept

theorem ObservationInvariant.assess {s : NetworkSystem} (inv : ObservationInvariant s) {a : Action}
    (kept : escapesSummary s a = false) {job : JobId} {stage : AssessStage}
    (assessed : s.assessment a = some (job, stage)) :
    ObservationInvariant { s with assessments := s.assessments.put job stage } where
  guarded := ⟨inv.guarded.ledger, inv.guarded.inspections, inv.guarded.summaries⟩
  running other found stored := by
    dsimp only at stored
    rw [Table.get_put] at stored
    split at stored
    · rename_i same
      rw [same]
      exact assessment_running inv assessed
    · exact inv.running other found stored
  persists := inv.persists
  summaries m tx stored := by
    obtain ⟨recovered, observed, apart⟩ := inv.summaries m tx stored
    exact ⟨recovered, observed, apart⟩
  counted outageId list stored := by
    have law := inv.counted outageId list stored
    refine ⟨law.summarized, law.observed, ?_, law.registrations⟩
    intro other result found
    dsimp only at found
    rw [Table.get_put] at found
    split at found
    · rename_i same
      cases found
      obtain ⟨outage, present, summarized⟩ := law.summarized
      rw [same]
      exact assessment_registered kept assessed present summarized
    · exact law.holders other result found

theorem summary_view_begins {s : NetworkSystem} {outageId : OutageId} {tx : SummaryTx}
    (viewed : summaryView s.net s.core.db s.clock outageId = some tx)
    (free : s.outageFree outageId = true) : SummaryView s tx := by
  simp only [summaryView, Option.bind_eq_bind, Option.bind_eq_some_iff] at viewed
  obtain ⟨outage, stored, recoveredAt, recovered, viewed⟩ := viewed
  split at viewed
  · cases viewed
  · cases viewed
    refine ⟨⟨outage, stored, by rw [recovered]; rfl⟩, fun _ => mem_observations_of.symm, ?_⟩
    intro t id registered
    simp only [NetworkSystem.outageFree, Bool.and_eq_true, Table.every_iff,
      decide_eq_true_eq] at free
    exact free.2 t id registered

theorem ObservationInvariant.report {s : NetworkSystem} (inv : ObservationInvariant s)
    {m : SummaryId} {tx : SummaryTx} {resets : List MonitorId}
    (stored : s.summaries.get m = some tx) (reports : tx.reports = true)
    (kept : escapesSummary s (.commitSummarize m) = false) {after : NetworkSystem}
    (reported : after = { s.afterSummary m tx resets with
      net := tx.report s.net
      counted := s.counted.put tx.outageId (tx.observations.map Prod.fst) })
    (guarded : GuardedLedger after) : ObservationInvariant after := by
  subst reported
  have view := inv.summaries m tx stored
  have outages : ∀ id outage, s.net.outages.get id = some outage →
      ∃ next, (tx.report s.net).outages.get id = some next ∧ OutageKept outage next := by
    intro id outage found
    exact outage_kept_update tx.outageId (outage_kept_summarized · tx.now) found
  constructor
  case guarded => exact guarded
  case running => exact inv.running
  case persists => exact inv.persists
  case summaries =>
    intro other ux found
    simp only [NetworkSystem.afterSummary] at found
    rw [Table.get_remove] at found
    split at found
    · cases found
    · have otherView := inv.summaries other ux found
      exact otherView.moved rfl rfl (outages ux.outageId) (fun _ => Iff.rfl) otherView.apart
  case counted =>
    intro outageId list found
    dsimp only at found
    rw [Table.get_put] at found
    split at found
    · rename_i same
      cases found
      subst same
      constructor
      case summarized =>
        obtain ⟨outage, present, recovered⟩ := view.recovered
        simp only [SummaryTx.report]
        rw [Table.get_update_key_self, present]
        exact ⟨_, rfl, by simp [NetworkOutageRow.isSummarized, NetworkOutageRow.summarized,
          recovered]⟩
      case observed => exact view.observed
      case holders =>
        intro job result held
        simp only [escapesSummary, stored, Option.any_some, reports, Bool.true_and,
          Bool.not_eq_false', Table.every_iff] at kept
        have registered : s.registered job tx.outageId = true := by
          simpa using kept job _ held
        exact registered
      case registrations =>
        intro t registered
        exact absurd rfl (view.apart t tx.outageId registered)
    · have law := inv.counted outageId list found
      refine CountedOutage.moved law (outages outageId) (fun _ => Iff.rfl) ?_ law.registrations
      exact fun job result held => ⟨law.holders job result held, rfl⟩

theorem observation_invariant_step {config : NetworkConfig} {s after : NetworkSystem} {a : Action}
    (inv : ObservationInvariant s) (kept : escapesSummary s a = false)
    (taken : step config s a = some after) : ObservationInvariant after := by
  have guarded := guarded_ledger_step inv.guarded taken
  have outages : ∀ id outage, s.net.outages.get id = some outage →
      ∃ next, after.net.outages.get id = some next ∧ OutageKept outage next :=
    fun id outage stored => step_outage_kept taken stored
  have summaries : ∀ m tx, after.summaries.get m = some tx → SummaryView s tx := by
    intro m tx found
    cases summary_tx_source (step_cases taken) found with
    | kept _ stored => exact inv.summaries m tx stored
    | begun outageId _ _ viewed free => exact summary_view_begins viewed free
    | updated before _ stored =>
        obtain ⟨recovered, observed, apart⟩ := inv.summaries m before stored
        exact ⟨recovered, observed, apart⟩
  cases step_cases taken with
  | ledger _ core _ stepped _ _ followed => exact inv.ledger_step guarded stepped followed
  | assessed _ job stage assessed => exact inv.assess kept assessed
  | summaryReported m tx resets stored updated reports =>
      exact inv.report stored reports kept rfl guarded
  | _ => exact inv.of_same guarded outages rfl rfl rfl rfl rfl summaries inv.counted

theorem observation_invariant_initial : ObservationInvariant NetworkSystem.initial where
  guarded := guarded_ledger_initial
  running job stage found := by cases found
  persists t outageId found := by cases found
  summaries m tx stored := by cases stored
  counted outageId list stored := by cases stored

/-- While no result escapes, a summarized outage keeps exactly the observations that its
summary has counted. -/
theorem summaries_count_observations {config : NetworkConfig}
    {visited : List (NetworkSystem × Action)} {s : NetworkSystem}
    (run : Transition.Run (step config) NetworkSystem.initial visited s)
    (kept : Transition.Along (fun state action => escapesSummary state action = false) visited) :
    ObservationsCounted s := by
  have inv : ObservationInvariant s :=
    run.preserves (fun state action => escapesSummary state action = false) ObservationInvariant
      observation_invariant_initial
      (fun _ _ _ holds allowed taken => observation_invariant_step holds allowed taken) kept
  intro outageId counted stored
  exact (inv.counted outageId counted stored).observed

namespace Script

/-- One worker has just seen the outage that another one sees end; the first one runs a
check that gets no response. -/
def lateFailure : List Action :=
  [.saveSettings references] ++ createMonitor 61257 ++ [.tick 61257] ++ probe 1 2 offline ++
    record 1 1 ++ [.tick 61500] ++ probe 2 1 online ++ record 2 2 ++ [.tick 61600] ++
    startCheck 1 61600 ++ [.assess 1 2 (unanswered 61600)]

def summarize (m : SummaryId) (outageId : OutageId) : List Action :=
  [.beginSummarize m outageId, .resetPending m, .commitSummarize m]

def persistLate : List Action := persist 1 (inconclusiveNetworkResult (unanswered 61600)) 61600

end Script

/-- The result is registered before the summary, which reports two minutes after the end. -/
theorem summaries_count_observations_sample :
    ∃ visited s, Transition.Run (step Script.config) NetworkSystem.initial visited s ∧
      ObservationsCounted s ∧ s.counted.get 1 = some [1] := by
  obtain ⟨visited, s, run, kept, counted⟩ := Script.run_avoiding
    (Script.lateFailure ++ Script.persistLate ++ [.tick 181500] ++ Script.summarize 1 1)
    escapesSummary (fun s => s.counted.get 1 = some [1]) (by decide +kernel)
  exact ⟨visited, s, run, summaries_count_observations run kept, of_decide_eq_true counted⟩

/-- The summary reports while the result is on its way. -/
theorem observation_after_summary : ∃ config s, Reachable config s ∧ ¬ ObservationsCounted s := by
  obtain ⟨s, reachable, late⟩ := Script.reachable
    (Script.lateFailure ++ Script.summarize 1 1 ++ Script.persistLate)
    (fun s => s.counted.get 1 = some [] && observed s.net 1 1) (by decide +kernel)
  rw [Bool.and_eq_true, decide_eq_true_eq] at late
  refine ⟨Script.config, s, reachable, ?_⟩
  intro law
  have member := (law 1 [] late.1 1).1 late.2
  cases member

end LinkAlive.Network
