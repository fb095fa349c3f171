import LinkAlive.Network.System

/-!
# What a network step can do

The inversion lemma of the network step.
-/

namespace LinkAlive.Network

set_option autoImplicit false

open Relational

/-- Statements of an inspection that change its stage only. -/
inductive Advance (s : NetworkSystem) (i : InspectionId) (inspection : Inspection) :
    Action → InspectionStage → Prop where
  | startProbe (settings : Option NetworkSettingsRow) : inspection.stage = .reading settings →
      Advance s i inspection (.startProbe i) (.probing settings s.clock)
  | finishProbe (settings : Option NetworkSettingsRow) (startedAt : Time)
      (results : List MonitorCheckResult) : inspection.stage = .probing settings startedAt →
      Advance s i inspection (.finishProbe i results)
        (.probed ⟨settings, startedAt, probeStatus settings results, s.clock⟩)
  | superseded (probe : Probe) : inspection.stage = .probed probe →
      probe.superseded s.net.settings = true →
        Advance s i inspection (.openInspection i) (.finished ⟨.unknown, none, probe.checkedAt⟩)
  | opened (probe : Probe) : inspection.stage = .probed probe →
      probe.superseded s.net.settings = false →
        Advance s i inspection (.openInspection i)
          (.opened probe (s.net.observers.get inspection.observerId))
  | overtaken (probe : Probe) (view : Option NetworkObserverRow) :
      inspection.stage = .opened probe view → probe.overtaken (view.getD newObserver) = true →
        Advance s i inspection (.lockObserver i) (.finished (view.getD newObserver).snapshot)
  | locked (probe : Probe) (view : Option NetworkObserverRow) :
      inspection.stage = .opened probe view → s.observerFree inspection.observerId = true →
      (view.isSome = true ∨ s.net.observers.get inspection.observerId = none) →
        Advance s i inspection (.lockObserver i) (.locked probe (view.getD newObserver))
  | written (probe : Probe) (observer : NetworkObserverRow) (newId : OutageId)
      (resets : List MonitorId) : inspection.stage = .locked probe observer →
      (∀ id, (probe.outageWrite observer.activeOutageId).target = some id →
        s.outageFree id = true) →
      s.monitorsFree resets = true →
        Advance s i inspection (.writeInspection i newId) (.written probe observer newId resets)

def NetworkSystem.afterInspection (s : NetworkSystem) (i : InspectionId) (inspection : Inspection)
    (probe : Probe) (active : Option OutageId) (resets : List MonitorId)
    (outages : Table OutageId NetworkOutageRow) : NetworkSystem :=
  { s.setStage i inspection (.finished ⟨probe.status, active, probe.checkedAt⟩) with
    net :=
      { s.net with
        outages := outages
        observers := s.net.observers.put inspection.observerId (probe.observed active) }
    core :=
      { s.core with
        db := { s.core.db with
          monitors := scheduleAt s.core.db.monitors resets probe.checkedAt } } }

/-- The tables after the commit of a summary that does not report yet. -/
def NetworkSystem.afterSummary (s : NetworkSystem) (m : SummaryId) (tx : SummaryTx)
    (resets : List MonitorId) : NetworkSystem :=
  { s with
    summaries := s.summaries.remove m
    core := { s.core with
      db := { s.core.db with monitors := scheduleAt s.core.db.monitors resets tx.now } } }

inductive Stepped (config : NetworkConfig) (s : NetworkSystem) : Action → NetworkSystem → Prop where
  | ticked (now : Time) : s.clock ≤ now → Stepped config s (.tick now) { s with clock := now }
  | ledger (a : LinkAlive.Action) (core : System) (after : NetworkSystem) :
      LinkAlive.step s.core a = some core → timely s.clock s.core.txs a = true →
      s.admits config core = true → s.follow core a = some after →
        Stepped config s (.core a) after
  | saved (input settings : NetworkSettingsRow) :
      saveSettings s.net.settings input = some settings →
        Stepped config s (.saveSettings input)
          { s with net := { s.net with settings := some settings } }
  | inspected (i : InspectionId) (worker : WorkerId) (guards : Table WorkerId WorkerGuard) :
      s.inspections.get i = none →
        Stepped config s (.inspect i worker)
          { s with
            guards := guards
            inspections :=
              s.inspections.put i ⟨worker, config.observer worker, .reading s.net.settings⟩ }
  | advanced (i : InspectionId) (inspection : Inspection) (a : Action) (stage : InspectionStage) :
      s.inspections.get i = some inspection → Advance s i inspection a stage →
        Stepped config s a (s.setStage i inspection stage)
  | committed (i : InspectionId) (inspection : Inspection) (probe : Probe)
      (observer : NetworkObserverRow) (newId : OutageId) (resets : List MonitorId)
      (outages : Table OutageId NetworkOutageRow) : s.inspections.get i = some inspection →
      inspection.stage = .written probe observer newId resets →
      (probe.outageWrite observer.activeOutageId).apply s.net.outages inspection.observerId probe
        newId = some outages →
        Stepped config s (.commitInspection i)
          (s.afterInspection i inspection probe
            ((probe.outageWrite observer.activeOutageId).active newId observer.activeOutageId)
            resets outages)
  | aborted (i : InspectionId) (inspection : Inspection) (guards : Table WorkerId WorkerGuard) :
      s.inspections.get i = some inspection →
        Stepped config s (.abortInspection i)
          { s with inspections := s.inspections.remove i, guards := guards }
  | delivered (i : InspectionId) (inspection : Inspection) (snapshot : Snapshot) :
      s.inspections.get i = some inspection → inspection.stage = .finished snapshot →
        Stepped config s (.deliver i) (s.clearInFlight inspection.worker (some snapshot))
  | restarted (worker : WorkerId) :
      Stepped config s (.restart worker) { s with guards := s.guards.remove worker }
  | assessed (a : Action) (job : JobId) (stage : AssessStage) :
      s.assessment a = some (job, stage) →
        Stepped config s a { s with assessments := s.assessments.put job stage }
  | summaryBegun (m : SummaryId) (outageId : OutageId) (tx : SummaryTx) :
      summaryView s.net s.core.db s.clock outageId = some tx → s.outageFree outageId = true →
      s.summaries.get m = none →
        Stepped config s (.beginSummarize m outageId) { s with summaries := s.summaries.put m tx }
  | summaryReset (m : SummaryId) (tx : SummaryTx) : s.summaries.get m = some tx →
      s.monitorsFree (tx.targets s.core.db.monitors) = true →
        Stepped config s (.resetPending m)
          { s with
            summaries := s.summaries.put m
              { tx with resets := some (tx.targets s.core.db.monitors) } }
  | summaryDeferred (m : SummaryId) (tx : SummaryTx) (resets : List MonitorId) :
      s.summaries.get m = some tx → tx.resets = some resets → tx.reports = false →
        Stepped config s (.commitSummarize m) (s.afterSummary m tx resets)
  | summaryReported (m : SummaryId) (tx : SummaryTx) (resets : List MonitorId) :
      s.summaries.get m = some tx → tx.resets = some resets → tx.reports = true →
        Stepped config s (.commitSummarize m)
          { s.afterSummary m tx resets with
            net := tx.report s.net
            counted := s.counted.put tx.outageId (tx.observations.map Prod.fst) }
  | summaryAborted (m : SummaryId) :
      Stepped config s (.abortSummarize m) { s with summaries := s.summaries.remove m }

theorem advance_cases {s after : NetworkSystem} {i : InspectionId}
    {next : Inspection → Option NetworkSystem} (taken : s.advance i next = some after) :
    ∃ inspection, s.inspections.get i = some inspection ∧ next inspection = some after :=
  Option.bind_eq_some_iff.1 taken

theorem assessing_cases {config : NetworkConfig} {s after : NetworkSystem} {a : Action}
    (taken : s.assessing a = some after) : Stepped config s a after := by
  rw [NetworkSystem.assessing, Option.map_eq_some_iff] at taken
  obtain ⟨⟨job, stage⟩, next, rfl⟩ := taken
  exact .assessed a job stage next

theorem open_inspection_cases {config : NetworkConfig} {s after : NetworkSystem}
    {i : InspectionId} {inspection : Inspection} (stored : s.inspections.get i = some inspection)
    (taken : s.openInspection i inspection = some after) :
    Stepped config s (.openInspection i) after := by
  unfold NetworkSystem.openInspection at taken
  split at taken
  · rename_i probe stage
    cases taken
    split
    · rename_i superseded
      exact .advanced i inspection _ _ stored (.superseded probe stage superseded)
    · rename_i current
      exact .advanced i inspection _ _ stored
        (.opened probe stage (Bool.eq_false_iff.2 current))
  · cases taken

theorem lock_observer_cases {config : NetworkConfig} {s after : NetworkSystem}
    {i : InspectionId} {inspection : Inspection} (stored : s.inspections.get i = some inspection)
    (taken : s.lockObserver i inspection = some after) :
    Stepped config s (.lockObserver i) after := by
  unfold NetworkSystem.lockObserver at taken
  split at taken
  · rename_i probe view stage
    simp only [Option.ite_none_right_eq_some, Bool.and_eq_true, Bool.or_eq_true,
      Option.isNone_iff_eq_none] at taken
    obtain ⟨⟨free, present⟩, taken⟩ := taken
    cases taken
    split
    · rename_i overtaken
      exact .advanced i inspection _ _ stored (.overtaken probe view stage overtaken)
    · exact .advanced i inspection _ _ stored (.locked probe view stage free present)
  · cases taken

theorem write_inspection_cases {config : NetworkConfig} {s after : NetworkSystem}
    {i : InspectionId} {newId : OutageId} {inspection : Inspection}
    (stored : s.inspections.get i = some inspection)
    (taken : s.writeInspection i newId inspection = some after) :
    Stepped config s (.writeInspection i newId) after := by
  unfold NetworkSystem.writeInspection at taken
  split at taken
  · rename_i probe observer stage
    split at taken
    · rename_i none
      cases taken
      refine .advanced i inspection _ _ stored (.written probe observer newId [] stage ?_ rfl)
      intro id target
      rw [none] at target
      cases target
    · rename_i id target
      simp only [Option.ite_none_right_eq_some, Bool.and_eq_true] at taken
      obtain ⟨⟨free, monitors⟩, taken⟩ := taken
      cases taken
      refine .advanced i inspection _ _ stored
        (.written probe observer newId _ stage ?_ monitors)
      intro other same
      rw [target, Option.some.injEq] at same
      exact same ▸ free
  · cases taken

theorem commit_inspection_cases {config : NetworkConfig} {s after : NetworkSystem}
    {i : InspectionId} {inspection : Inspection} (stored : s.inspections.get i = some inspection)
    (taken : s.commitInspection i inspection = some after) :
    Stepped config s (.commitInspection i) after := by
  unfold NetworkSystem.commitInspection at taken
  split at taken
  · rename_i probe observer newId resets stage
    simp only [Option.bind_eq_bind, Option.bind_eq_some_iff, Option.some.injEq] at taken
    obtain ⟨outages, written, rfl⟩ := taken
    exact .committed i inspection probe observer newId resets outages stored stage written
  · cases taken

theorem abort_inspection_cases {config : NetworkConfig} {s after : NetworkSystem}
    {i : InspectionId} {inspection : Inspection} (stored : s.inspections.get i = some inspection)
    (taken : s.abortInspection i inspection = some after) :
    Stepped config s (.abortInspection i) after := by
  unfold NetworkSystem.abortInspection at taken
  split at taken
  · cases taken
  · dsimp only at taken
    split at taken <;> cases taken <;> exact .aborted i inspection _ stored

theorem commit_summarize_cases {config : NetworkConfig} {s after : NetworkSystem}
    {m : SummaryId} (taken : s.commitSummarize m = some after) :
    Stepped config s (.commitSummarize m) after := by
  simp only [NetworkSystem.commitSummarize, Option.bind_eq_bind, Option.bind_eq_some_iff] at taken
  obtain ⟨tx, inProgress, resets, updated, taken⟩ := taken
  split at taken
  · rename_i reports
    cases taken
    exact .summaryReported m tx resets inProgress updated reports
  · rename_i waits
    cases taken
    exact .summaryDeferred m tx resets inProgress updated (Bool.eq_false_iff.2 waits)

theorem step_cases {config : NetworkConfig} {s after : NetworkSystem} {a : Action}
    (taken : step config s a = some after) : Stepped config s a after := by
  cases a with
  | tick now =>
      simp only [step, Option.ite_none_right_eq_some, Option.some.injEq] at taken
      obtain ⟨later, rfl⟩ := taken
      exact .ticked now later
  | core a =>
      simp only [step, NetworkSystem.ledger, Option.bind_eq_bind, Option.bind_eq_some_iff,
        Option.ite_none_right_eq_some, Bool.and_eq_true] at taken
      obtain ⟨core, stepped, ⟨timed, admitted⟩, followed⟩ := taken
      exact .ledger a core after stepped timed admitted followed
  | saveSettings input =>
      simp only [step, Option.ite_none_right_eq_some, Option.map_eq_some_iff] at taken
      obtain ⟨-, settings, saved, rfl⟩ := taken
      exact .saved input settings saved
  | inspect i worker =>
      simp only [step, NetworkSystem.inspect, Option.ite_none_right_eq_some, Bool.and_eq_true,
        Option.isNone_iff_eq_none, Option.some.injEq] at taken
      obtain ⟨⟨-, fresh⟩, rfl⟩ := taken
      exact .inspected i worker _ fresh
  | startProbe i =>
      obtain ⟨inspection, stored, taken⟩ := advance_cases taken
      split at taken
      · rename_i settings stage
        cases taken
        exact .advanced i inspection _ _ stored (.startProbe settings stage)
      · cases taken
  | finishProbe i results =>
      obtain ⟨inspection, stored, taken⟩ := advance_cases taken
      split at taken
      · rename_i settings startedAt stage
        cases taken
        exact .advanced i inspection _ _ stored (.finishProbe settings startedAt results stage)
      · cases taken
  | openInspection i =>
      obtain ⟨inspection, stored, taken⟩ := advance_cases taken
      exact open_inspection_cases stored taken
  | lockObserver i =>
      obtain ⟨inspection, stored, taken⟩ := advance_cases taken
      exact lock_observer_cases stored taken
  | writeInspection i newId =>
      obtain ⟨inspection, stored, taken⟩ := advance_cases taken
      exact write_inspection_cases stored taken
  | commitInspection i =>
      obtain ⟨inspection, stored, taken⟩ := advance_cases taken
      exact commit_inspection_cases stored taken
  | abortInspection i =>
      obtain ⟨inspection, stored, taken⟩ := advance_cases taken
      exact abort_inspection_cases stored taken
  | deliver i =>
      obtain ⟨inspection, stored, taken⟩ := advance_cases taken
      unfold NetworkSystem.deliver at taken
      split at taken
      · rename_i snapshot stage
        simp only [Option.ite_none_right_eq_some, Option.some.injEq] at taken
        obtain ⟨-, rfl⟩ := taken
        exact .delivered i inspection snapshot stored stage
      · cases taken
  | restart worker =>
      cases taken
      exact .restarted worker
  | assess job worker result => exact assessing_cases taken
  | resumeAssess job => exact assessing_cases taken
  | retryAssess job retried => exact assessing_cases taken
  | confirmAssess job => exact assessing_cases taken
  | beginSummarize m outageId =>
      simp only [step, NetworkSystem.beginSummarize, Option.bind_eq_bind, Option.bind_eq_some_iff,
        Option.ite_none_right_eq_some, Bool.and_eq_true, Option.isNone_iff_eq_none,
        Option.some.injEq] at taken
      obtain ⟨tx, viewed, ⟨free, fresh⟩, rfl⟩ := taken
      exact .summaryBegun m outageId tx viewed free fresh
  | resetPending m =>
      simp only [step, NetworkSystem.resetPending, Option.bind_eq_bind, Option.bind_eq_some_iff,
        Option.ite_none_right_eq_some, Bool.and_eq_true, Option.some.injEq] at taken
      obtain ⟨tx, inProgress, ⟨-, free⟩, rfl⟩ := taken
      exact .summaryReset m tx inProgress free
  | commitSummarize m => exact commit_summarize_cases taken
  | abortSummarize m =>
      cases taken
      exact .summaryAborted m

/-- What an action of the ledger leaves alone. -/
structure FollowFrame (s after : NetworkSystem) : Prop where
  clock : after.clock = s.clock
  settings : after.net.settings = s.net.settings
  outages : after.net.outages = s.net.outages
  observers : after.net.observers = s.net.observers
  recoveries : after.net.recoveries = s.net.recoveries
  guards : after.guards = s.guards
  inspections : after.inspections = s.inspections
  summaries : after.summaries = s.summaries
  counted : after.counted = s.counted

theorem persist_observations_frame (net : NetworkDatabase) (outageId : Option OutageId)
    (tx : PersistTx) :
    (persistObservations net outageId tx).settings = net.settings ∧
      (persistObservations net outageId tx).outages = net.outages ∧
      (persistObservations net outageId tx).observers = net.observers ∧
      (persistObservations net outageId tx).recoveries = net.recoveries := by
  cases outageId <;> exact ⟨rfl, rfl, rfl, rfl⟩

theorem follow_frame {s after : NetworkSystem} {core : System} {a : LinkAlive.Action}
    (followed : s.follow core a = some after) : FollowFrame s after ∧ after.core = core := by
  unfold NetworkSystem.follow at followed
  split at followed
  · cases followed
    exact ⟨⟨rfl, rfl, rfl, rfl, rfl, rfl, rfl, rfl, rfl⟩, rfl⟩
  · simp only [Option.bind_eq_bind, Option.bind_eq_some_iff] at followed
    obtain ⟨outageId, -, followed⟩ := followed
    split at followed
    · cases followed
      exact ⟨⟨rfl, rfl, rfl, rfl, rfl, rfl, rfl, rfl, rfl⟩, rfl⟩
    · simp only [Option.ite_none_right_eq_some, Option.some.injEq] at followed
      obtain ⟨-, rfl⟩ := followed
      exact ⟨⟨rfl, rfl, rfl, rfl, rfl, rfl, rfl, rfl, rfl⟩, rfl⟩
  · split at followed
    · rename_i t _ tx _
      cases followed
      obtain ⟨settings, outages, observers, recoveries⟩ :=
        persist_observations_frame s.net (s.registrations.get t) tx
      exact ⟨⟨rfl, settings, outages, observers, recoveries, rfl, rfl, rfl, rfl⟩, rfl⟩
    · cases followed
      exact ⟨⟨rfl, rfl, rfl, rfl, rfl, rfl, rfl, rfl, rfl⟩, rfl⟩
  · cases followed
    exact ⟨⟨rfl, rfl, rfl, rfl, rfl, rfl, rfl, rfl, rfl⟩, rfl⟩
  · cases followed
    exact ⟨⟨rfl, rfl, rfl, rfl, rfl, rfl, rfl, rfl, rfl⟩, rfl⟩

def noted : Action → Option InspectionId
  | .inspect i _ | .openInspection i | .lockObserver i | .commitInspection i => some i
  | _ => none

/-- Where an inspection comes from that is there after a step. -/
inductive InspectionSource (config : NetworkConfig) (s : NetworkSystem) (a : Action)
    (i : InspectionId) : Inspection → Prop where
  | kept (inspection : Inspection) : s.inspections.get i = some inspection → noted a ≠ some i →
      InspectionSource config s a i inspection
  | begun (worker : WorkerId) : a = .inspect i worker →
      InspectionSource config s a i ⟨worker, config.observer worker, .reading s.net.settings⟩
  | advanced (inspection : Inspection) (stage : InspectionStage) :
      s.inspections.get i = some inspection → Advance s i inspection a stage →
        InspectionSource config s a i { inspection with stage := stage }
  | committed (inspection : Inspection) (probe : Probe) (observer : NetworkObserverRow)
      (newId : OutageId) (resets : List MonitorId) (snapshot : Snapshot) :
      s.inspections.get i = some inspection →
      inspection.stage = .written probe observer newId resets → a = .commitInspection i →
        InspectionSource config s a i { inspection with stage := .finished snapshot }

theorem advance_noted {s : NetworkSystem} {i j : InspectionId} {inspection : Inspection}
    {a : Action} {stage : InspectionStage} (advance : Advance s j inspection a stage)
    (other : i ≠ j) : noted a ≠ some i := by
  cases advance <;> simp [noted, Ne.symm other]

theorem inspection_source {config : NetworkConfig} {s after : NetworkSystem} {a : Action}
    (stepped : Stepped config s a after) {i : InspectionId} {inspection : Inspection}
    (found : after.inspections.get i = some inspection) :
    InspectionSource config s a i inspection := by
  cases stepped with
  | ledger a core after _ _ _ followed =>
      rw [(follow_frame followed).1.inspections] at found
      exact .kept inspection found (by simp [noted])
  | inspected j worker guards fresh =>
      dsimp only at found
      rw [Table.get_put] at found
      split at found
      next same =>
        cases found
        cases same
        exact .begun worker rfl
      next other => exact .kept inspection found (by simpa [noted] using Ne.symm other)
  | advanced j moved a stage stored advance =>
      simp only [NetworkSystem.setStage, Table.get_put] at found
      split at found
      next same =>
        cases found
        cases same
        exact .advanced moved stage stored advance
      next other => exact .kept inspection found (advance_noted advance other)
  | committed j moved probe observer newId resets outages stored stage =>
      simp only [NetworkSystem.afterInspection, NetworkSystem.setStage, Table.get_put] at found
      split at found
      next same =>
        cases found
        cases same
        exact .committed moved probe observer newId resets _ stored stage rfl
      next other => exact .kept inspection found (by simpa [noted] using Ne.symm other)
  | aborted j moved guards stored =>
      dsimp only at found
      rw [Table.get_remove] at found
      split at found
      next => cases found
      next => exact .kept inspection found (by simp [noted])
  | assessed a job stage next =>
      refine .kept inspection found ?_
      cases a <;> first | cases next | simp [noted]
  | _ => exact .kept inspection found (by simp [noted])

/-- Where a summary comes from that is in progress after a step. -/
inductive SummarySource (s after : NetworkSystem) (a : Action) (m : SummaryId) :
    SummaryTx → Prop where
  | kept (tx : SummaryTx) : s.summaries.get m = some tx → a ≠ .commitSummarize m →
      a ≠ .abortSummarize m → SummarySource s after a m tx
  | begun (outageId : OutageId) (tx : SummaryTx) : a = .beginSummarize m outageId →
      summaryView s.net s.core.db s.clock outageId = some tx → s.outageFree outageId = true →
      after = { s with summaries := s.summaries.put m tx } → SummarySource s after a m tx
  | updated (tx : SummaryTx) : a = .resetPending m → s.summaries.get m = some tx →
      s.monitorsFree (tx.targets s.core.db.monitors) = true →
      SummarySource s after a m { tx with resets := some (tx.targets s.core.db.monitors) }

theorem summary_tx_source {config : NetworkConfig} {s after : NetworkSystem} {a : Action}
    (stepped : Stepped config s a after) {m : SummaryId} {tx : SummaryTx}
    (found : after.summaries.get m = some tx) : SummarySource s after a m tx := by
  have removed : ∀ n, (s.summaries.remove n).get m = some tx →
      s.summaries.get m = some tx ∧ m ≠ n := by
    intro n stored
    rw [Table.get_remove] at stored
    split at stored
    · cases stored
    · rename_i other
      exact ⟨stored, other⟩
  cases stepped with
  | ledger _ core _ _ _ _ followed =>
      rw [(follow_frame followed).1.summaries] at found
      exact .kept tx found (by simp) (by simp)
  | advanced _ _ _ _ _ advance =>
      refine .kept tx found ?_ ?_ <;> cases advance <;> simp
  | assessed a job stage next =>
      refine .kept tx found ?_ ?_ <;> cases a <;> first | cases next | simp
  | summaryBegun n outageId begun viewed free unused =>
      dsimp only at found
      rw [Table.get_put] at found
      split at found
      next same =>
        cases found
        cases same
        exact .begun outageId tx rfl viewed free rfl
      next => exact .kept tx found (by simp) (by simp)
  | summaryReset n before stored free =>
      dsimp only at found
      rw [Table.get_put] at found
      split at found
      next same =>
        cases found
        cases same
        exact .updated before rfl stored free
      next => exact .kept tx found (by simp) (by simp)
  | summaryDeferred n =>
      obtain ⟨stored, other⟩ := removed n found
      exact .kept tx stored (by simp [Ne.symm other]) (by simp)
  | summaryReported n =>
      obtain ⟨stored, other⟩ := removed n found
      exact .kept tx stored (by simp [Ne.symm other]) (by simp)
  | summaryAborted n =>
      obtain ⟨stored, other⟩ := removed n found
      exact .kept tx stored (by simp) (by simp [Ne.symm other])
  | _ => exact .kept tx found (by simp) (by simp)

end LinkAlive.Network
