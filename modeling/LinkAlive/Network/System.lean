import LinkAlive.Network.Guard
import LinkAlive.System.Step
import LinkAlive.Domain.Scheduling

/-!
# The system with its network guards

The ledger system, the network tables, and the guards of the worker processes. One
clock is shared by all processes. The inspection and the summary are transactions of
their own; a persist transaction may carry the outage of its suppressed result.

An inspection fixes its view with its first plain read, before it locks its observer;
the upsert of an existing observer writes nothing, so what it reads after the lock is
the observer of its view.
-/

namespace LinkAlive.Network

set_option autoImplicit false

open Relational

abbrev WorkerId := Nat
abbrev InspectionId := Nat
abbrev SummaryId := Nat

structure NetworkConfig where
  observer : WorkerId → ObserverId
  text : MonitorId → String

inductive InspectionStage
  | reading (settings : Option NetworkSettingsRow)
  | probing (settings : Option NetworkSettingsRow) (startedAt : Time)
  | probed (probe : Probe)
  | opened (probe : Probe) (view : Option NetworkObserverRow)
  | locked (probe : Probe) (observer : NetworkObserverRow)
  | written (probe : Probe) (observer : NetworkObserverRow) (newId : OutageId)
      (resets : List MonitorId)
  | finished (snapshot : Snapshot)

structure Inspection where
  worker : WorkerId
  observerId : ObserverId
  stage : InspectionStage

/-- `cached` and `inFlight` of a guard. -/
structure WorkerGuard where
  cached : Option Snapshot
  inFlight : Option InspectionId

/-- The assessment of a job's result: it waits for an inspection, runs its retry, waits for
the confirming inspection, or is done. -/
inductive AssessStage
  | awaiting (worker : WorkerId) (result : MonitorCheckResult) (inspection : InspectionId)
  | retrying (worker : WorkerId) (result : MonitorCheckResult)
  | confirming (worker : WorkerId) (retried : MonitorCheckResult) (inspection : InspectionId)
  | assessed (result : MonitorCheckResult) (outageId : Option OutageId)

structure NetworkSystem where
  clock : Time
  core : System
  net : NetworkDatabase
  guards : Table WorkerId WorkerGuard
  inspections : Table InspectionId Inspection
  assessments : Table JobId AssessStage
  registrations : Table TxId OutageId
  summaries : Table SummaryId SummaryTx
  /-- The monitors whose observations a summary has counted; no step reads it. -/
  counted : Table OutageId (List MonitorId)

def NetworkSystem.initial : NetworkSystem where
  clock := 0
  core := .initial
  net := .empty
  guards := ∅
  inspections := ∅
  assessments := ∅
  registrations := ∅
  summaries := ∅
  counted := ∅

inductive Action
  | tick (now : Time)
  | core (a : LinkAlive.Action)
  | saveSettings (input : NetworkSettingsRow)
  | inspect (i : InspectionId) (worker : WorkerId)
  | startProbe (i : InspectionId)
  | finishProbe (i : InspectionId) (results : List MonitorCheckResult)
  | openInspection (i : InspectionId)
  | lockObserver (i : InspectionId)
  | writeInspection (i : InspectionId) (newId : OutageId)
  | commitInspection (i : InspectionId)
  | abortInspection (i : InspectionId)
  | deliver (i : InspectionId)
  | restart (worker : WorkerId)
  | assess (job : JobId) (worker : WorkerId) (result : MonitorCheckResult)
  | resumeAssess (job : JobId)
  | retryAssess (job : JobId) (retried : MonitorCheckResult)
  | confirmAssess (job : JobId)
  | beginSummarize (m : SummaryId) (outageId : OutageId)
  | resetPending (m : SummaryId)
  | commitSummarize (m : SummaryId)
  | abortSummarize (m : SummaryId)

def InspectionStage.locksObserver : InspectionStage → Bool
  | .locked _ _ | .written _ _ _ _ => true
  | _ => false

def InspectionStage.locksOutage (id : OutageId) : InspectionStage → Bool
  | .written probe observer _ _ => (probe.outageWrite observer.activeOutageId).target = some id
  | _ => false

def InspectionStage.resets : InspectionStage → List MonitorId
  | .written _ _ _ resets => resets
  | _ => []

def SummaryTx.locked (tx : SummaryTx) : List MonitorId := tx.resets.getD []

namespace NetworkSystem

def observerFree (s : NetworkSystem) (id : ObserverId) : Bool :=
  s.inspections.every fun _ inspection =>
    !(decide (inspection.observerId = id) && inspection.stage.locksObserver)

def outageFree (s : NetworkSystem) (id : OutageId) : Bool :=
  s.inspections.every (fun _ inspection => !inspection.stage.locksOutage id) &&
    s.summaries.every (fun _ tx => decide (tx.outageId ≠ id)) &&
    s.registrations.every fun _ outageId => decide (outageId ≠ id)

def monitorFree (s : NetworkSystem) (id : MonitorId) : Bool :=
  s.inspections.every (fun _ inspection => decide (id ∉ inspection.stage.resets)) &&
    s.summaries.every fun _ tx => decide (id ∉ tx.locked)

def monitorsFree (s : NetworkSystem) (ids : List MonitorId) : Bool :=
  ids.all fun id => s.monitorFree id && s.core.free (Transaction.locksMonitor id)

end NetworkSystem

/-- The slot that a service transaction writes is the one that it computes from its time. -/
def schedules (config : NetworkConfig) (db : Database) (tx : MonitorTx) : Bool :=
  let computed (intervalSec : Nat) : Bool :=
    match calculateInitialNextCheckAt (config.text tx.id) intervalSec tx.now with
    | .ok next => decide (next = tx.initialNextCheckAt)
    | .error _ => false
  match tx.change with
  | .create input => computed input.config.intervalSec
  | .update merged _ => computed merged.config.intervalSec
  | .resume => (db.monitors.get tx.id).any fun monitor => computed monitor.config.intervalSec
  | .pause _ | .remove _ => true

/-- A time that was read before the action. The service reads the clock once it holds the
lock of the monitor; `create` reads it before its transaction. -/
def timely (clock : Time) (txs : Table TxId Transaction) : LinkAlive.Action → Bool
  | .beginMonitor _ _ (.create _) now _ => now ≤ clock
  | .beginMonitor _ _ _ now _ => clock ≤ now
  | .commit t =>
      match txs.get t with
      | some (.monitor tx) => tx.now ≤ clock
      | _ => true
  | .beginCreateDue _ now chosen => now ≤ clock && (chosen.map Prod.fst).Nodup
  | .claimForDispatch _ _ now _ | .markEnqueued _ _ now _ | .cancelStale _ now
  | .claimCheck _ _ _ now | .beginChannel _ _ _ now | .beginClaim _ _ _ _ now
  | .beginMarkSent _ _ _ now _ | .markFailed _ _ now _ | .scan _ _ _ now _ => now ≤ clock
  | .beginPersist _ _ _ _ databaseTime => databaseTime ≤ clock
  | .createChannel _ _ _ | .releaseDispatchClaim _ _ _ | .loadCheck _ _ | .loadMonitor _
  | .applyEffect _ _ | .resolve _ | .compareDown _ | .dispatchCandidate _ | .finishDispatch _ _
  | .abort _ => true

namespace NetworkSystem

/-- The outage that a beginning persist transaction carries; the outer `none` is a result
that the assessment of the job has not produced. -/
def carried (s : NetworkSystem) (job : JobId) (result : MonitorCheckResult) :
    Option (Option OutageId) :=
  match s.assessments.get job with
  | none => some none
  | some (.assessed assessed outageId) => if assessed = result then some outageId else none
  | some _ => none

def follow (s : NetworkSystem) (core : System) : LinkAlive.Action → Option NetworkSystem
  | .loadCheck job _ => some { s with core := core, assessments := s.assessments.remove job }
  | .beginPersist t job _ result _ => do
      let outageId ← s.carried job result
      let next := { s with core := core, assessments := s.assessments.remove job }
      match outageId with
      | none => some next
      | some id =>
          if s.outageFree id && (s.net.outages.get id).isSome then
            some { next with registrations := s.registrations.put t id }
          else none
  | .commit t =>
      match s.core.txs.get t with
      | some (.persist tx) =>
          some { s with
            core := core
            net := persistObservations s.net (s.registrations.get t) tx
            registrations := s.registrations.remove t }
      | _ => some { s with core := core }
  | .abort t => some { s with core := core, registrations := s.registrations.remove t }
  | _ => some { s with core := core }

/-- A transaction that begins waits for the monitors that the guards have locked, and
writes the slot that it computes. -/
def admits (s : NetworkSystem) (config : NetworkConfig) (core : System) : Bool :=
  core.txs.every fun t tx => (s.core.txs.get t).isSome ||
    ((s.inspections.every fun _ inspection =>
        inspection.stage.resets.all fun id => !tx.locksMonitor id) &&
      (s.summaries.every fun _ summary => summary.locked.all fun id => !tx.locksMonitor id) &&
      match tx with
      | .monitor service => schedules config s.core.db service
      | _ => true)

def ledger (s : NetworkSystem) (config : NetworkConfig) (a : LinkAlive.Action) :
    Option NetworkSystem := do
  let core ← LinkAlive.step s.core a
  if timely s.clock s.core.txs a && s.admits config core then s.follow core a else none

def setStage (s : NetworkSystem) (i : InspectionId) (inspection : Inspection)
    (stage : InspectionStage) : NetworkSystem :=
  { s with inspections := s.inspections.put i { inspection with stage := stage } }

/-- `inspect` starts an inspection when none is in flight on its guard. -/
def inspect (s : NetworkSystem) (config : NetworkConfig) (i : InspectionId) (worker : WorkerId) :
    Option NetworkSystem :=
  let guard := (s.guards.get worker).getD ⟨none, none⟩
  if guard.inFlight.isNone && (s.inspections.get i).isNone then
    some { s with
      guards := s.guards.put worker { guard with inFlight := some i }
      inspections := s.inspections.put i ⟨worker, config.observer worker, .reading s.net.settings⟩ }
  else none

/-- The first plain read of the transaction: it fixes the view and compares the version. -/
def openInspection (s : NetworkSystem) (i : InspectionId) (inspection : Inspection) :
    Option NetworkSystem :=
  match inspection.stage with
  | .probed probe =>
      some (s.setStage i inspection
        (if probe.superseded s.net.settings then .finished ⟨.unknown, none, probe.checkedAt⟩
        else .opened probe (s.net.observers.get inspection.observerId)))
  | _ => none

/-- The upsert and the locking read. A new observer row is the transaction's own; its
insert fails when another one has committed since the view. -/
def lockObserver (s : NetworkSystem) (i : InspectionId) (inspection : Inspection) :
    Option NetworkSystem :=
  match inspection.stage with
  | .opened probe view =>
      if s.observerFree inspection.observerId &&
          (view.isSome || (s.net.observers.get inspection.observerId).isNone) then
        let observer := view.getD newObserver
        some (s.setStage i inspection
          (if probe.overtaken observer then .finished observer.snapshot
          else .locked probe observer))
      else none
  | _ => none

/-- The writes before the observer's own; the updates find the latest rows. -/
def writeInspection (s : NetworkSystem) (i : InspectionId) (newId : OutageId)
    (inspection : Inspection) : Option NetworkSystem :=
  match inspection.stage with
  | .locked probe observer =>
      match (probe.outageWrite observer.activeOutageId).target with
      | none => some (s.setStage i inspection (.written probe observer newId []))
      | some id =>
          let resets := resetTargets s.core.db.monitors s.net.observations id
          if s.outageFree id && s.monitorsFree resets then
            some (s.setStage i inspection (.written probe observer newId resets))
          else none
  | _ => none

def commitInspection (s : NetworkSystem) (i : InspectionId) (inspection : Inspection) :
    Option NetworkSystem :=
  match inspection.stage with
  | .written probe observer newId resets => do
      let write := probe.outageWrite observer.activeOutageId
      let active := write.active newId observer.activeOutageId
      let outages ← write.apply s.net.outages inspection.observerId probe newId
      some
        { s.setStage i inspection (.finished ⟨probe.status, active, probe.checkedAt⟩) with
          net :=
            { s.net with
              outages := outages
              observers := s.net.observers.put inspection.observerId (probe.observed active) }
          core :=
            { s.core with
              db := { s.core.db with
                monitors := scheduleAt s.core.db.monitors resets probe.checkedAt } } }
  | _ => none

def clearInFlight (s : NetworkSystem) (worker : WorkerId) (cached : Option Snapshot) :
    NetworkSystem :=
  { s with guards := s.guards.put worker ⟨cached, none⟩ }

def cachedOf (s : NetworkSystem) (worker : WorkerId) : Option Snapshot :=
  (s.guards.get worker).bind WorkerGuard.cached

def abortInspection (s : NetworkSystem) (i : InspectionId) (inspection : Inspection) :
    Option NetworkSystem :=
  match inspection.stage with
  | .finished _ => none
  | _ =>
      let ended := { s with inspections := s.inspections.remove i }
      if (s.guards.get inspection.worker).bind WorkerGuard.inFlight = some i then
        some (ended.clearInFlight inspection.worker (s.cachedOf inspection.worker))
      else some ended

def deliver (s : NetworkSystem) (i : InspectionId) (inspection : Inspection) :
    Option NetworkSystem :=
  match inspection.stage with
  | .finished snapshot =>
      if (s.guards.get inspection.worker).bind WorkerGuard.inFlight = some i then
        some (s.clearInFlight inspection.worker (some snapshot))
      else none
  | _ => none

def advance (s : NetworkSystem) (i : InspectionId)
    (next : Inspection → Option NetworkSystem) : Option NetworkSystem :=
  (s.inspections.get i).bind next

/-- `assess` once the first snapshot is there. -/
def judge (worker : WorkerId) (result : MonitorCheckResult) (snapshot : Snapshot) : AssessStage :=
  match snapshot.status with
  | .disabled => .assessed result none
  | .online => .retrying worker result
  | .unknown | .offline => .assessed (inconclusiveNetworkResult result) snapshot.outageId

/-- `assess` once the confirming snapshot is there. -/
def confirm (retried : MonitorCheckResult) (snapshot : Snapshot) : AssessStage :=
  match snapshot.status with
  | .online | .disabled => .assessed retried none
  | .unknown | .offline => .assessed (inconclusiveNetworkResult retried) snapshot.outageId

def outcome (s : NetworkSystem) (i : InspectionId) : Option Snapshot :=
  match (s.inspections.get i).map Inspection.stage with
  | some (.finished snapshot) => some snapshot
  | _ => none

def inFlightOf (s : NetworkSystem) (worker : WorkerId) : Option InspectionId :=
  (s.guards.get worker).bind WorkerGuard.inFlight

/-- The first stage of an assessment. Without an inspection in flight the cached snapshot
serves for a second; a guard that has neither starts an inspection first. -/
def assess (s : NetworkSystem) (worker : WorkerId) (result : MonitorCheckResult) :
    Option AssessStage :=
  if isNetworkFailure result then
    match s.inFlightOf worker with
    | some i => some (.awaiting worker result i)
    | none =>
        ((s.cachedOf worker).filter fun snapshot => s.clock < snapshot.checkedAt + 1000).map
          (judge worker result)
  else some (.assessed result none)

def retryAssess (s : NetworkSystem) (worker : WorkerId) (retried : MonitorCheckResult) :
    Option AssessStage :=
  if isNetworkFailure retried then (s.inFlightOf worker).map (.confirming worker retried)
  else some (.assessed retried none)

def isRunning (s : NetworkSystem) (job : JobId) : Bool :=
  match s.core.jobs.get job with
  | some (.running _ _ _) => true
  | _ => false

def assessment (s : NetworkSystem) : Action → Option (JobId × AssessStage)
  | .assess job worker result =>
      if s.isRunning job && (s.assessments.get job).isNone then
        (s.assess worker result).map fun stage => (job, stage)
      else none
  | .resumeAssess job =>
      match s.assessments.get job with
      | some (.awaiting worker result i) =>
          (s.outcome i).map fun snapshot => (job, judge worker result snapshot)
      | _ => none
  | .retryAssess job retried =>
      match s.assessments.get job with
      | some (.retrying worker _) =>
          (s.retryAssess worker retried).map fun stage => (job, stage)
      | _ => none
  | .confirmAssess job =>
      match s.assessments.get job with
      | some (.confirming _ retried i) =>
          (s.outcome i).map fun snapshot => (job, confirm retried snapshot)
      | _ => none
  | _ => none

def assessing (s : NetworkSystem) (a : Action) : Option NetworkSystem :=
  (s.assessment a).map fun next =>
    { s with assessments := s.assessments.put next.1 next.2 }

def beginSummarize (s : NetworkSystem) (m : SummaryId) (outageId : OutageId) :
    Option NetworkSystem := do
  let tx ← summaryView s.net s.core.db s.clock outageId
  if s.outageFree outageId && (s.summaries.get m).isNone then
    some { s with summaries := s.summaries.put m tx }
  else none

def resetPending (s : NetworkSystem) (m : SummaryId) : Option NetworkSystem := do
  let tx ← s.summaries.get m
  let targets := tx.targets s.core.db.monitors
  if tx.resets.isNone && s.monitorsFree targets then
    some { s with summaries := s.summaries.put m { tx with resets := some targets } }
  else none

def commitSummarize (s : NetworkSystem) (m : SummaryId) : Option NetworkSystem := do
  let tx ← s.summaries.get m
  let resets ← tx.resets
  let ended :=
    { s with
      summaries := s.summaries.remove m
      core := { s.core with
        db := { s.core.db with monitors := scheduleAt s.core.db.monitors resets tx.now } } }
  if tx.reports then
    some { ended with
      net := tx.report s.net
      counted := s.counted.put tx.outageId (tx.observations.map Prod.fst) }
  else some ended

end NetworkSystem

/-- `updateMany` under the version that the administrator has seen. -/
def saveSettings (settings : Option NetworkSettingsRow) (input : NetworkSettingsRow) :
    Option NetworkSettingsRow :=
  if settingsVersion settings = input.version then
    some { input with version := input.version + 1 }
  else none

def step (config : NetworkConfig) (s : NetworkSystem) : Action → Option NetworkSystem
  | .tick now => if s.clock ≤ now then some { s with clock := now } else none
  | .core a => s.ledger config a
  | .saveSettings input =>
      if input.channelIds.all (channelLive s.core.db) then
        (saveSettings s.net.settings input).map fun settings =>
          { s with net := { s.net with settings := some settings } }
      else none
  | .inspect i worker => s.inspect config i worker
  | .startProbe i => s.advance i fun inspection =>
      match inspection.stage with
      | .reading settings => some (s.setStage i inspection (.probing settings s.clock))
      | _ => none
  | .finishProbe i results => s.advance i fun inspection =>
      match inspection.stage with
      | .probing settings startedAt =>
          some (s.setStage i inspection
            (.probed ⟨settings, startedAt, probeStatus settings results, s.clock⟩))
      | _ => none
  | .openInspection i => s.advance i (s.openInspection i)
  | .lockObserver i => s.advance i (s.lockObserver i)
  | .writeInspection i newId => s.advance i (s.writeInspection i newId)
  | .commitInspection i => s.advance i (s.commitInspection i)
  | .abortInspection i => s.advance i (s.abortInspection i)
  | .deliver i => s.advance i (s.deliver i)
  | .restart worker => some { s with guards := s.guards.remove worker }
  | .beginSummarize m outageId => s.beginSummarize m outageId
  | .resetPending m => s.resetPending m
  | .commitSummarize m => s.commitSummarize m
  | .abortSummarize m => some { s with summaries := s.summaries.remove m }
  | a@(.assess _ _ _) | a@(.resumeAssess _) | a@(.retryAssess _ _) | a@(.confirmAssess _) =>
      s.assessing a

abbrev Reachable (config : NetworkConfig) : NetworkSystem → Prop :=
  Transition.Reachable (step config) NetworkSystem.initial

end LinkAlive.Network
