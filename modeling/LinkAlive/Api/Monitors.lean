import LinkAlive.Worker.NotificationProcessor

/-!
# The monitor service

`apps/api/src/monitors/monitors.service.ts`: create, update, pause, resume and remove,
with `cancelRuntime`. A request that is rejected (validation, ownership, a missing
monitor) changes nothing and is no step of the model. Each operation is a transaction
that locks its monitor; the reads that it decides from are taken when it begins.
-/

namespace LinkAlive

open Relational

set_option autoImplicit false

/-- A parsed URL: the request URL and the form that is shown. -/
structure StoredTarget where
  requestUrl : String
  displayUrl : String
deriving DecidableEq, Repr

structure MonitorInput where
  name : String
  target : StoredTarget
  config : MonitorConfig
  channelIds : List ChannelId
deriving DecidableEq, Repr

/-- `url` is the text of the request with the target that it parses to. -/
structure MonitorPatch where
  name : Option String
  url : Option (String × StoredTarget)
  method : Option HttpMethod
  intervalSec : Option Nat
  timeoutMs : Option Nat
  expectedStatusMin : Option Nat
  expectedStatusMax : Option Nat
  expectedKeyword : Option String
  followRedirects : Option Bool
  maxRedirects : Option Nat
  failureThreshold : Option Nat
  recoveryThreshold : Option Nat
  channelIds : Option (List ChannelId)
deriving DecidableEq, Repr

def mergeConfig (current : MonitorConfig) (patch : MonitorPatch) : MonitorConfig where
  method := patch.method.getD current.method
  intervalSec := patch.intervalSec.getD current.intervalSec
  timeoutMs := patch.timeoutMs.getD current.timeoutMs
  expectedStatusMin := patch.expectedStatusMin.getD current.expectedStatusMin
  expectedStatusMax := patch.expectedStatusMax.getD current.expectedStatusMax
  expectedKeyword := patch.expectedKeyword.getD current.expectedKeyword
  followRedirects := patch.followRedirects.getD current.followRedirects
  maxRedirects := patch.maxRedirects.getD current.maxRedirects
  failureThreshold := patch.failureThreshold.getD current.failureThreshold
  recoveryThreshold := patch.recoveryThreshold.getD current.recoveryThreshold

def mergeTarget (currentUrl : String) (current : MonitorRow) (patch : MonitorPatch) :
    StoredTarget :=
  match patch.url with
  | some (text, target) =>
      if text ≠ current.displayUrl then target else ⟨currentUrl, current.displayUrl⟩
  | none => ⟨currentUrl, current.displayUrl⟩

def mergePatch (currentUrl : String) (current : MonitorRow) (channelIds : List ChannelId)
    (patch : MonitorPatch) : MonitorInput where
  name := patch.name.getD current.name
  target := mergeTarget currentUrl current patch
  config := mergeConfig current.config patch
  channelIds := patch.channelIds.getD channelIds

def boundChannels (db : Database) (monitorId : MonitorId) : List ChannelId :=
  (db.bindings.select fun key _ => key.1 = monitorId).map fun entry => entry.1.2

def assertChannelIds (db : Database) (channelIds : List ChannelId) : Bool :=
  channelIds.all fun channelId => channelLive db channelId

/-- The deliveries that the first statement of `cancelRuntime` or of a channel retirement
finds: open attempts of rows in PROCESSING. -/
def openAttempts (db : Database) (concerns : OutboxKey → OutboxRow → Bool) :
    List (OutboxKey × Nat) :=
  (db.deliveries.select fun key delivery => delivery.status = .attempting &&
    (db.outbox.get key.1).any fun row => concerns key.1 row && row.status = .processing).map
      Prod.fst

def abandonDeliveries (deliveries : Table (OutboxKey × Nat) DeliveryRow)
    (found : List (OutboxKey × Nat)) (now : Time) (error : String) :
    Table (OutboxKey × Nat) DeliveryRow :=
  deliveries.updateWhere (fun key _ => key ∈ found) fun _ row =>
    { row with
      status := .unknown
      errorSafe := some error
      finishedAt := some now }

def OutboxRow.canceledByRuntime (row : OutboxRow) (now : Time) : OutboxRow :=
  { row with
    status := .canceled
    canceledAt := some now
    leaseOwner := none
    leaseUntil := none }

/-- The last two statements of `cancelRuntime` and of a channel retirement: cancel the
rows that are not terminal, then retire the secret of every terminal row. -/
def retireRows (outbox : Table OutboxKey OutboxRow) (concerns : OutboxKey → OutboxRow → Bool)
    (now : Time) : Table OutboxKey OutboxRow :=
  (outbox.updateWhere (fun key row => concerns key row && !row.status.isTerminal)
      fun _ row => row.canceledByRuntime now).updateWhere
    (fun key row => concerns key row && row.status.isTerminal) fun _ row => row.retired

def IncidentRow.canceled (row : IncidentRow) (now : Time) (reason : IncidentClosureReason) :
    IncidentRow :=
  { row with
    status := .canceled
    canceledAt := some now
    closureReason := some reason }

def CheckRow.canceledByRuntime (row : CheckRow) (now : Time) : CheckRow :=
  { row with
    status := .canceled
    canceledAt := some now
    leaseOwner := none
    leaseUntil := none }

def ofMonitor (monitorId : MonitorId) (_ : OutboxKey) (row : OutboxRow) : Bool :=
  row.monitorId = monitorId

def cancelRuntime (db : Database) (monitorId : MonitorId) (reason : IncidentClosureReason)
    (now : Time) (found : List (OutboxKey × Nat)) : Database :=
  { db with
    deliveries := abandonDeliveries db.deliveries found now
      "모니터 변경으로 발송 추적이 종료되어 전달 여부를 확인할 수 없습니다."
    incidents := db.incidents.updateWhere
      (fun _ row => row.monitorId = monitorId && row.status = .opened)
      fun _ row => row.canceled now reason
    checks := db.checks.updateWhere
      (fun _ row => row.monitorId = monitorId && row.status.isActive)
      fun _ row => row.canceledByRuntime now
    outbox := retireRows db.outbox (ofMonitor monitorId) now }

inductive MonitorRequest
  | create (input : MonitorInput)
  | update (patch : MonitorPatch)
  | pause
  | resume
  | remove

/-- The operation after its reads: an update knows its merged input and, when a
monitoring field changes, the open attempts that `cancelRuntime` found. -/
inductive MonitorChange
  | create (input : MonitorInput)
  | update (merged : MonitorInput) (found : Option (List (OutboxKey × Nat)))
  | pause (found : List (OutboxKey × Nat))
  | resume
  | remove (found : List (OutboxKey × Nat))

/-- A transaction of the service; except for `create` it holds the lock of the monitor.
`initialNextCheckAt` is the value of `calculateInitialNextCheckAt`. -/
structure MonitorTx where
  id : MonitorId
  now : Time
  initialNextCheckAt : Time
  change : MonitorChange

def MonitorChange.isCreate : MonitorChange → Bool
  | .create _ => true
  | _ => false

/-- The reads of an operation; `none` where it is rejected or has nothing to do. -/
def monitorChange (db : Database) (id : MonitorId) (request : MonitorRequest) :
    Option MonitorChange :=
  match request with
  | .create input =>
      if assertChannelIds db input.channelIds then some (.create input) else none
  | .update patch => do
      let current ← db.monitors.get id
      match current.requestUrlEncrypted with
      | .tombstone => none
      | .envelope currentUrl =>
          let merged := mergePatch currentUrl current (boundChannels db id) patch
          if current.deletedAt.isSome || !assertChannelIds db merged.channelIds then none
          else
            let monitoringChanged :=
              merged.target.requestUrl ≠ currentUrl || merged.config ≠ current.config
            some (.update merged
              (if monitoringChanged then some (openAttempts db (ofMonitor id)) else none))
  | .pause => do
      let current ← db.monitors.get id
      if current.deletedAt.isSome || current.lifecycleStatus = .paused then none
      else some (.pause (openAttempts db (ofMonitor id)))
  | .resume => do
      let current ← db.monitors.get id
      if current.deletedAt.isSome || current.lifecycleStatus = .active then none
      else some .resume
  | .remove => do
      let current ← db.monitors.get id
      if current.deletedAt.isSome then none else some (.remove (openAttempts db (ofMonitor id)))

/-- The reset that every administrative change of a monitor's state performs. -/
def MonitorRow.reset (row : MonitorRow) : MonitorRow :=
  { row with
    healthState := .pending
    consecutiveFailures := 0
    consecutiveSuccesses := 0
    failureStreakStartedAt := none
    failureStreakFirstErrorType := none }

def newMonitorRow (input : MonitorInput) (nextCheckAt : Time) : MonitorRow where
  name := input.name
  displayUrl := input.target.displayUrl
  requestUrlEncrypted := .envelope input.target.requestUrl
  config := input.config
  lifecycleStatus := .active
  healthState := .pending
  consecutiveFailures := 0
  consecutiveSuccesses := 0
  failureStreakStartedAt := none
  failureStreakFirstErrorType := none
  lastCheckedAt := none
  networkUnknownSince := none
  lastSuccessAt := none
  lastFailureAt := none
  lastStatusCode := none
  lastTtfbMs := none
  lastTotalMs := none
  lastErrorType := none
  nextCheckAt := some nextCheckAt
  configVersion := 1
  deletedAt := none

/-- The fields that `update` always writes. -/
def MonitorRow.edited (row : MonitorRow) (merged : MonitorInput) : MonitorRow :=
  { row with
    name := merged.name
    displayUrl := merged.target.displayUrl
    requestUrlEncrypted := .envelope merged.target.requestUrl
    config := merged.config }

/-- The fields that `update` writes in addition when a monitoring field changes. -/
def MonitorRow.reconfigured (row : MonitorRow) (initialNextCheckAt : Time) : MonitorRow :=
  { row.reset with
    configVersion := row.configVersion + 1
    nextCheckAt := if row.lifecycleStatus = .active then some initialNextCheckAt else none }

def MonitorRow.paused (row : MonitorRow) : MonitorRow :=
  { row.reset with
    lifecycleStatus := .paused
    nextCheckAt := none }

def MonitorRow.resumed (row : MonitorRow) (initialNextCheckAt : Time) : MonitorRow :=
  { row.reset with
    lifecycleStatus := .active
    nextCheckAt := some initialNextCheckAt }

def MonitorRow.removed (row : MonitorRow) (now : Time) : MonitorRow :=
  { row.reset with
    lifecycleStatus := .deleted
    nextCheckAt := none
    requestUrlEncrypted := .tombstone
    deletedAt := some now }

def newBindingRow : BindingRow where
  notifyOnDown := true
  notifyOnRecovery := true

/-- `createMany` of the distinct channel ids. -/
def insertBindings (bindings : Table (MonitorId × ChannelId) BindingRow) (monitorId : MonitorId)
    (channelIds : List ChannelId) : Table (MonitorId × ChannelId) BindingRow :=
  channelIds.foldl (fun table channelId => table.put (monitorId, channelId) newBindingRow) bindings

/-- `update` deletes every binding of the monitor and creates the new ones. -/
def replaceBindings (bindings : Table (MonitorId × ChannelId) BindingRow)
    (monitorId : MonitorId) (channelIds : List ChannelId) :
    Table (MonitorId × ChannelId) BindingRow :=
  insertBindings (bindings.deleteWhere fun key _ => key.1 = monitorId) monitorId channelIds

/-- The channels that a commit binds, whose rows the foreign key check locks. -/
def MonitorChange.bindsChannels : MonitorChange → List ChannelId
  | .create input => input.channelIds
  | .update merged _ => merged.channelIds
  | .pause _ | .resume | .remove _ => []

/-- The reason and the open attempts of an operation that runs `cancelRuntime`. -/
def MonitorChange.cancels : MonitorChange → Option (IncidentClosureReason × List (OutboxKey × Nat))
  | .update _ (some found) => some (.configChanged, found)
  | .pause found => some (.paused, found)
  | .remove found => some (.deleted, found)
  | .create _ | .update _ none | .resume => none

/-- The open attempts that the operation has already given up. -/
def MonitorChange.found (change : MonitorChange) : List (OutboxKey × Nat) :=
  match change.cancels with
  | some (_, found) => found
  | none => []

def MonitorTx.monitorWrite (tx : MonitorTx) (row : MonitorRow) : MonitorRow :=
  match tx.change with
  | .create _ => row
  | .update merged none => row.edited merged
  | .update merged (some _) => (row.edited merged).reconfigured tx.initialNextCheckAt
  | .pause _ => row.paused
  | .resume => row.resumed tx.initialNextCheckAt
  | .remove _ => row.removed tx.now

/-- `cancelRuntime`, for the operations that run it. -/
def MonitorTx.runtimeWrite (tx : MonitorTx) (db : Database) : Database :=
  match tx.change.cancels with
  | some (reason, found) => cancelRuntime db tx.id reason tx.now found
  | none => db

def MonitorTx.bindingWrite (tx : MonitorTx) (bindings : Table (MonitorId × ChannelId) BindingRow) :
    Table (MonitorId × ChannelId) BindingRow :=
  match tx.change with
  | .create input => insertBindings bindings tx.id input.channelIds
  | .update merged _ => replaceBindings bindings tx.id merged.channelIds
  | .pause _ | .resume | .remove _ => bindings

/-- The commit of an operation; `none` is a violation of the primary key of `monitors`. -/
def monitorCommit (db : Database) (tx : MonitorTx) : Option Database :=
  let retired := tx.runtimeWrite db
  match tx.change with
  | .create input => do
      let monitors ← db.monitors.insertNew tx.id (newMonitorRow input tx.initialNextCheckAt)
      some { retired with monitors := monitors, bindings := tx.bindingWrite db.bindings }
  | _ =>
      some { retired with
        monitors := db.monitors.updateKey tx.id tx.monitorWrite
        bindings := tx.bindingWrite db.bindings }

end LinkAlive
