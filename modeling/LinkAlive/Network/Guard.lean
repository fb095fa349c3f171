import LinkAlive.Network.Rows
import LinkAlive.System.State

/-!
# The network guard

The decisions of `apps/worker/src/network-guard.ts`: what a probe found, what an
inspection writes, what a summary counts, and how a result is assessed.
-/

namespace LinkAlive.Network

set_option autoImplicit false

open Relational

/-- What an inspection hands to the checks that wait for it. -/
structure Snapshot where
  status : NetworkStatus
  outageId : Option OutageId
  checkedAt : Time
deriving DecidableEq, Repr

/-- A finished probe: the settings it read, when it began and ended, and its status. -/
structure Probe where
  settings : Option NetworkSettingsRow
  startedAt : Time
  status : NetworkStatus
  checkedAt : Time
deriving DecidableEq, Repr

def settingsVersion (settings : Option NetworkSettingsRow) : Nat :=
  (settings.map NetworkSettingsRow.version).getD 0

def probeEnabled (settings : Option NetworkSettingsRow) : Bool :=
  settings.any fun row => row.enabled && 2 ≤ row.urls.length

def probeStatus (settings : Option NetworkSettingsRow) (results : List MonitorCheckResult) :
    NetworkStatus :=
  if probeEnabled settings then referenceStatus results else .disabled

def Probe.superseded (probe : Probe) (current : Option NetworkSettingsRow) : Bool :=
  settingsVersion current ≠ settingsVersion probe.settings

/-- A later inspection has committed since the probe began. -/
def Probe.overtaken (probe : Probe) (observer : NetworkObserverRow) : Bool :=
  observer.checkedAt.any fun checkedAt => probe.startedAt < checkedAt

def NetworkObserverRow.snapshot (observer : NetworkObserverRow) : Snapshot where
  status := observer.status
  outageId := observer.activeOutageId
  checkedAt := observer.checkedAt.getD 0

/-- What an inspection does to `network_outages`. -/
inductive OutageWrite
  | none
  | create
  | recover (id : OutageId)
  | cancel (id : OutageId)
deriving DecidableEq, Repr

def Probe.outageWrite (probe : Probe) (activeOutageId : Option OutageId) : OutageWrite :=
  match probe.status, activeOutageId with
  | .offline, .none => .create
  | .online, .some id => .recover id
  | .disabled, .some id => .cancel id
  | _, _ => .none

def OutageWrite.target : OutageWrite → Option OutageId
  | .recover id | .cancel id => some id
  | .none | .create => Option.none

/-- The active outage after a write; `newId` is the id of a created one. -/
def OutageWrite.active (newId : OutageId) (activeOutageId : Option OutageId) :
    OutageWrite → Option OutageId
  | .none => activeOutageId
  | .create => some newId
  | .recover _ | .cancel _ => Option.none

def newOutage (observerId : ObserverId) (probe : Probe) : NetworkOutageRow where
  observerId := observerId
  startedAt := probe.startedAt
  recoveredAt := none
  canceledAt := none
  summarizedAt := none
  channelIds := (probe.settings.map NetworkSettingsRow.channelIds).getD []

def NetworkOutageRow.recovered (outage : NetworkOutageRow) (checkedAt : Time) :
    NetworkOutageRow :=
  { outage with recoveredAt := some checkedAt }

def NetworkOutageRow.canceled (outage : NetworkOutageRow) (checkedAt : Time) :
    NetworkOutageRow :=
  { outage with canceledAt := some checkedAt, summarizedAt := some checkedAt }

/-- `none` where the row to update is missing or the new id is in use. -/
def OutageWrite.apply (outages : Table OutageId NetworkOutageRow) (observerId : ObserverId)
    (probe : Probe) (newId : OutageId) : OutageWrite → Option (Table OutageId NetworkOutageRow)
  | .none => some outages
  | .create => outages.insertNew newId (newOutage observerId probe)
  | .recover id =>
      if (outages.get id).isSome then
        some (outages.updateKey id fun outage => outage.recovered probe.checkedAt)
      else Option.none
  | .cancel id =>
      if (outages.get id).isSome then
        some (outages.updateKey id fun outage => outage.canceled probe.checkedAt)
      else Option.none

def resetTargets (monitors : Table MonitorId MonitorRow)
    (observations : Table (OutageId × MonitorId) NetworkObservationRow) (outageId : OutageId) :
    List MonitorId :=
  (monitors.select fun id monitor => monitor.isActive &&
    (observations.get (outageId, id)).any fun observation => observation.recheckedAt.isNone).map
      Prod.fst

def scheduleAt (monitors : Table MonitorId MonitorRow) (ids : List MonitorId) (time : Time) :
    Table MonitorId MonitorRow :=
  monitors.updateWhere (fun id _ => decide (id ∈ ids)) fun _ monitor =>
    { monitor with nextCheckAt := some time }

def Probe.observed (probe : Probe) (activeOutageId : Option OutageId) : NetworkObserverRow where
  status := probe.status
  checkedAt := some probe.checkedAt
  activeOutageId := activeOutageId

def inFlight (checks : Table CheckId CheckRow) (recoveredAt : Time) : Bool :=
  !checks.every fun _ check =>
    !((check.status = .running || check.status = .enqueued) &&
      check.startedAt.any (fun startedAt => startedAt ≤ recoveredAt) &&
      check.completedAt.isNone)

def observationsOf (observations : Table (OutageId × MonitorId) NetworkObservationRow)
    (outageId : OutageId) : List (MonitorId × NetworkObservationRow) :=
  (observations.select fun key _ => key.1 = outageId).map fun entry => (entry.1.2, entry.2)

def isPending (monitors : Table MonitorId MonitorRow)
    (entry : MonitorId × NetworkObservationRow) : Bool :=
  entry.2.recheckedAt.isNone && (monitors.get entry.1).any fun monitor =>
    monitor.isActive && monitor.configVersion = entry.2.configVersion

def summaryCounts (observations : List (MonitorId × NetworkObservationRow)) (pending : Nat) :
    SummaryCounts :=
  let success := (observations.filter fun entry => entry.2.outcome = some .success).length
  let failed := (observations.filter fun entry => entry.2.outcome = some .targetFailure).length
  { success, failed, pending, skipped := observations.length - success - failed - pending }

/-- A summary transaction: its outage is locked, the rest comes from its view. `resets` is
set by its update of `monitors`. -/
structure SummaryTx where
  outageId : OutageId
  outage : NetworkOutageRow
  recoveredAt : Time
  now : Time
  observations : List (MonitorId × NetworkObservationRow)
  pending : List MonitorId
  channels : List (ChannelId × ChannelRow)
  resets : Option (List MonitorId)

/-- The locking read and the decisions of `summarize`; `none` where it returns. -/
def summaryView (net : NetworkDatabase) (db : Database) (now : Time) (outageId : OutageId) :
    Option SummaryTx := do
  let outage ← net.outages.get outageId
  let recoveredAt ← outage.recoveredAt
  if outage.summarizedAt.isSome || inFlight db.checks recoveredAt then none
  else
    let observations := observationsOf net.observations outageId
    some
      { outageId := outageId
        outage := outage
        recoveredAt := recoveredAt
        now := now
        observations := observations
        pending := (observations.filter (isPending db.monitors)).map Prod.fst
        channels := db.channels.select fun id channel =>
          decide (id ∈ outage.channelIds) && channel.isLive
        resets := none }

def SummaryTx.targets (tx : SummaryTx) (monitors : Table MonitorId MonitorRow) : List MonitorId :=
  (monitors.select fun id monitor => decide (id ∈ tx.pending) &&
    monitor.nextCheckAt.any fun nextCheckAt => tx.now < nextCheckAt).map Prod.fst

def SummaryTx.reports (tx : SummaryTx) : Bool :=
  tx.pending.isEmpty || tx.recoveredAt + 120000 ≤ tx.now

def SummaryTx.recovery (tx : SummaryTx) (channel : ChannelRow) : NetworkRecoveryRow where
  channelDisplayNameSnapshot := channel.displayName
  encryptedConfigSnapshot := channel.encryptedConfig
  networkStartedAt := tx.outage.startedAt
  occurredAt := tx.recoveredAt
  counts := summaryCounts tx.observations tx.pending.length

/-- The upserts of the notifications: rows that exist are left alone. -/
def SummaryTx.notify (tx : SummaryTx)
    (recoveries : Table (OutageId × ChannelId) NetworkRecoveryRow) :
    Table (OutageId × ChannelId) NetworkRecoveryRow :=
  tx.channels.foldl (fun table entry =>
    if (table.get (tx.outageId, entry.1)).isSome then table
    else table.put (tx.outageId, entry.1) (tx.recovery entry.2)) recoveries

def NetworkOutageRow.summarized (outage : NetworkOutageRow) (now : Time) : NetworkOutageRow :=
  { outage with summarizedAt := some now }

def SummaryTx.report (tx : SummaryTx) (net : NetworkDatabase) : NetworkDatabase :=
  { net with
    recoveries := tx.notify net.recoveries
    outages := net.outages.updateKey tx.outageId fun outage => outage.summarized tx.now }

/-- The transaction ties its suppressed result to the outage. -/
def registers (tx : PersistTx) : Bool :=
  tx.valid && tx.config.networkGuard && tx.result.outcome = .inconclusive

def registerObservation (observations : Table (OutageId × MonitorId) NetworkObservationRow)
    (outageId : OutageId) (tx : PersistTx) : Table (OutageId × MonitorId) NetworkObservationRow :=
  if registers tx && (observations.get (outageId, tx.monitorId)).isNone then
    observations.put (outageId, tx.monitorId) (newObservation tx.check.configVersion)
  else observations

/-- The transaction settles the observations of its monitor. -/
def rechecks (tx : PersistTx) : Bool :=
  tx.valid && tx.config.networkGuard &&
    (tx.result.outcome = .success || tx.result.outcome = .targetFailure)

def recheckObservations (net : NetworkDatabase) (tx : PersistTx) :
    Table (OutageId × MonitorId) NetworkObservationRow :=
  net.observations.updateWhere
    (fun key observation => rechecks tx && key.2 = tx.monitorId &&
      observation.recheckedAt.isNone && observation.configVersion = tx.check.configVersion &&
      (net.outages.get key.1).any fun outage =>
        outage.recoveredAt.any fun recoveredAt => recoveredAt ≤ tx.result.startedAt)
    fun _ observation =>
      { observation with
        recheckedAt := some tx.result.finishedAt
        outcome := some tx.result.outcome }

def persistObservations (net : NetworkDatabase) (outageId : Option OutageId) (tx : PersistTx) :
    NetworkDatabase :=
  let registered := match outageId with
    | some id => { net with observations := registerObservation net.observations id tx }
    | none => net
  { registered with observations := recheckObservations registered tx }

end LinkAlive.Network
