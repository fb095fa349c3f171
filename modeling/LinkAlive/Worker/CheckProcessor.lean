import LinkAlive.Worker.NotificationRules
import LinkAlive.Scheduler.Store
import Mathlib.Data.List.MinMax

/-!
# The check worker

`apps/worker/src/check-processor.ts`. The worker's memory between two statements is
a value: `CheckJob` before the persist transaction, `PersistTx` inside it. A
transaction collects its writes and applies them when it commits; the rows it has
written are locked from the writing statement on. Network-outage rows are left out.
-/

namespace LinkAlive

open Relational

set_option autoImplicit false

structure CheckProcessorConfig where
  instanceId : InstanceId
  region : String
  leaseMs : Nat
  appBaseUrl : Option String
  messageIdDomain : String
  networkGuard : Bool

structure CheckJobData where
  scheduledCheckId : CheckId
  configVersion : Nat

/-- What `process` remembers: the check as it was read, then also its monitor. -/
inductive CheckJob
  | scheduled (id : CheckId) (check : CheckRow)
  | stale (id : CheckId)
  | current (id : CheckId) (check : CheckRow) (monitor : MonitorRow)
  | running (id : CheckId) (check : CheckRow) (monitor : MonitorRow)

/-- `process` reads the check; the ledger, not the queue payload, is authoritative. -/
def loadCheck (db : Database) (data : CheckJobData) : Option CheckJob := do
  let check ← db.checks.get data.scheduledCheckId
  if check.status = .completed then none
  else if check.configVersion ≠ data.configVersion then none
  else some (.scheduled data.scheduledCheckId check)

/-- `process` reads the monitor and the result of the check it has read. -/
def loadMonitor (db : Database) (id : CheckId) (check : CheckRow) : Option CheckJob := do
  let monitor ← db.monitors.get check.monitorId
  if (db.results.get id).isSome then none
  else if monitor.configVersion ≠ check.configVersion || !monitor.isActive then some (.stale id)
  else some (.current id check monitor)

def cancelStale (checks : Table CheckId CheckRow) (id : CheckId) (now : Time) :
    Table CheckId CheckRow :=
  checks.updateWhere (fun key row => key = id && row.status.isActive) fun _ row =>
    { row with
      status := .canceled
      canceledAt := some now
      leaseOwner := none
      leaseUntil := none
      failureReasonSafe := some "설정 변경 또는 모니터 중지로 검사가 취소되었습니다." }

def CheckRow.claimableByWorker (row : CheckRow) (now : Time) : Bool :=
  row.completedAt.isNone &&
    (row.status = .pending || row.status = .enqueued ||
      (row.status = .running && leaseExpired now row.leaseUntil))

def claimCheck (checks : Table CheckId CheckRow) (id : CheckId) (owner : InstanceId)
    (now leaseUntil : Time) : Table CheckId CheckRow :=
  checks.updateWhere (fun key row => key = id && row.claimableByWorker now) fun _ row =>
    { row with
      status := .running
      leaseOwner := some owner
      leaseUntil := some leaseUntil
      startedAt := some now }

/-- A write of the persist transaction to `incidents`. -/
inductive IncidentWrite
  | none
  | create (id : IncidentId) (row : IncidentRow)
  | touch (id : IncidentId) (lastErrorType : Option CheckErrorType)
  | resolve (id : IncidentId) (resolvedAt : Time)

def IncidentRow.resolved (row : IncidentRow) (resolvedAt : Time) : IncidentRow :=
  { row with
    status := .resolved
    resolvedAt := some resolvedAt
    closureReason := some .recovered }

def IncidentWrite.apply (incidents : Table IncidentId IncidentRow) :
    IncidentWrite → Option (Table IncidentId IncidentRow)
  | .none => some incidents
  | .create id row => incidents.insertNew id row
  | .touch id lastErrorType =>
      some (incidents.updateKey id fun row => { row with lastErrorType := lastErrorType })
  | .resolve id resolvedAt => some (incidents.updateKey id fun row => row.resolved resolvedAt)

/-- The writes of the persist transaction to `notification_outbox`. -/
structure OutboxWrites where
  cancels : List OutboxKey
  redacts : List OutboxKey
  creates : List (OutboxKey × OutboxRow)

def OutboxWrites.empty : OutboxWrites where
  cancels := []
  redacts := []
  creates := []

/-- What `createRecoveryOutbox` knows about a DOWN event once its plan is final. -/
structure RecoveryDecision where
  currentDownStatus : NotificationOutboxStatus
  currentDownLastError : Option String
  plan : RecoveryNotificationPlan

inductive ResolvePhase
  | first
  | reread
  | planned (decision : RecoveryDecision)

/-- The loop of `createRecoveryOutbox`: the resolved incident and the DOWN events, as
they were read, that are still to be handled. -/
structure Resolution where
  incidentId : IncidentId
  incident : IncidentRow
  todo : List (OutboxKey × OutboxRow)
  phase : ResolvePhase

inductive PersistStage
  | begun
  | resolving (resolution : Resolution)
  | done

/-- The persist transaction; it holds the lock of the monitor of its check. -/
structure PersistTx where
  config : CheckProcessorConfig
  checkId : CheckId
  check : CheckRow
  monitor : MonitorRow
  displayUrlSnapshot : String
  result : MonitorCheckResult
  databaseTime : Time
  valid : Bool
  transition : Option StateTransitionResult
  stage : PersistStage
  incident : IncidentWrite
  outbox : OutboxWrites

def PersistTx.monitorId (tx : PersistTx) : MonitorId := tx.check.monitorId

def transitionInput (check : CheckRow) (monitor : MonitorRow) (result : MonitorCheckResult) :
    CheckTransitionInput where
  source := .scheduled
  outcome := result.outcome
  configVersion := check.configVersion
  checkedAt := some result.finishedAt
  errorType := result.errorType
  failureThreshold := monitor.config.failureThreshold
  recoveryThreshold := monitor.config.recoveryThreshold

def persistValid (check : CheckRow) (monitor : MonitorRow) : Bool :=
  check.status.isActive && check.configVersion = monitor.configVersion && monitor.isActive

/-- The transition is computed for a valid check only; `none` at the outer level is a
thrown `RangeError`, which rolls the transaction back. -/
def persistTransition (check : CheckRow) (monitor : MonitorRow) (result : MonitorCheckResult) :
    Option (Option StateTransitionResult) :=
  if persistValid check monitor then
    match applyCheckResult monitor.state (transitionInput check monitor result) with
    | .ok transition => some (some transition)
    | .error _ => none
  else some none

/-- The start of the persist transaction: lock the monitor, read the check, its result
and the monitor, and apply the state machine. -/
def persistBegin (db : Database) (id : CheckId) (original : MonitorRow)
    (config : CheckProcessorConfig) (result : MonitorCheckResult) (databaseTime : Time) :
    Option PersistTx := do
  let check ← db.checks.get id
  if (db.results.get id).isSome then none
  else
    let monitor ← db.monitors.get check.monitorId
    let transition ← persistTransition check monitor result
    some
      { config := config
        checkId := id
        check := check
        monitor := monitor
        displayUrlSnapshot := original.displayUrl
        result := result
        databaseTime := databaseTime
        valid := persistValid check monitor
        transition := transition
        stage := .begun
        incident := .none
        outbox := .empty }

def channelLive (db : Database) (channelId : ChannelId) : Bool :=
  match db.channels.get channelId with
  | some channel => channel.isLive
  | none => false

def boundForRecovery (db : Database) (monitorId : MonitorId) (channelId : ChannelId) : Bool :=
  match db.bindings.get (monitorId, channelId) with
  | some binding => binding.notifyOnRecovery
  | none => false

/-- `createOutbox`: one DOWN row for each live bound channel. -/
def createOutbox (db : Database) (tx : PersistTx) (incidentId : IncidentId)
    (incident : IncidentRow) : List (OutboxKey × OutboxRow) :=
  let bindings := db.bindings.select fun key binding =>
    key.1 = tx.monitorId && binding.notifyOnDown && channelLive db key.2
  bindings.filterMap fun (key, binding) =>
    (db.channels.get key.2).map fun channel =>
      let dedupeKey := createNotificationDedupeKey incidentId key.2 .down
      (⟨incidentId, key.2, notificationSequence .down⟩,
        newOutboxRow tx.monitorId dedupeKey
          (makeNotificationPayload .down tx.monitorId tx.monitor incident tx.result
            tx.config.appBaseUrl binding.notifyOnRecovery)
          channel.displayName channel.encryptedConfig tx.config.messageIdDomain tx.databaseTime)

/-- The DOWN events that `createRecoveryOutbox` reads: those of live channels that are
bound to the monitor at that moment. -/
def recoveryDownEvents (db : Database) (monitorId : MonitorId) (incidentId : IncidentId) :
    List (OutboxKey × OutboxRow) :=
  db.outbox.select fun key row =>
    key.incidentId = incidentId && row.eventType = .down && channelLive db key.channelId &&
      boundForRecovery db monitorId key.channelId

theorem mem_recovery_down_events {db : Database} {monitorId : MonitorId}
    {incidentId : IncidentId} {key : OutboxKey} {row : OutboxRow} :
    (key, row) ∈ recoveryDownEvents db monitorId incidentId ↔
      db.outbox.get key = some row ∧ key.incidentId = incidentId ∧ row.eventType = .down ∧
        channelLive db key.channelId = true ∧
        boundForRecovery db monitorId key.channelId = true := by
  rw [recoveryDownEvents, Table.mem_select]
  simp only [Bool.and_eq_true, decide_eq_true_eq, and_assoc]

def openIncident (db : Database) (monitorId : MonitorId) : Option (IncidentId × IncidentRow) :=
  (db.incidents.select fun _ row => row.monitorId = monitorId && row.status = .opened).argmax
    fun entry => entry.2.detectedAt

theorem open_incident_some {db : Database} {monitorId : MonitorId} {id : IncidentId}
    {row : IncidentRow} (found : openIncident db monitorId = some (id, row)) :
    db.incidents.get id = some row ∧ row.monitorId = monitorId ∧ row.status = .opened := by
  have member := List.argmax_mem found
  rw [Table.mem_select, Bool.and_eq_true, decide_eq_true_eq, decide_eq_true_eq] at member
  exact member

theorem open_incident_none {db : Database} {monitorId : MonitorId}
    (found : openIncident db monitorId = none) {id : IncidentId} {row : IncidentRow}
    (stored : db.incidents.get id = some row) (same : row.monitorId = monitorId) :
    row.status ≠ .opened := by
  intro isOpen
  have empty := List.argmax_eq_none.1 found
  have member : (id, row) ∈ db.incidents.select fun _ row =>
      row.monitorId = monitorId && row.status = .opened := by
    rw [Table.mem_select]
    exact ⟨stored, by simp [same, isOpen]⟩
  rw [empty] at member
  cases member

def newIncidentRow (tx : PersistTx) (firstFailureAt detectedAt : Time)
    (firstErrorType lastErrorType : Option CheckErrorType) : IncidentRow where
  monitorId := tx.monitorId
  configVersion := tx.monitor.configVersion
  status := .opened
  firstFailureAt := firstFailureAt
  detectedAt := detectedAt
  resolvedAt := none
  canceledAt := none
  firstErrorType := firstErrorType
  lastErrorType := lastErrorType
  closureReason := none

def PersistTx.incidentEffect (tx : PersistTx) : IncidentEffect :=
  match tx.transition with
  | some transition => if transition.applied then transition.incidentEffect else .none
  | none => .none

/-- `applyIncidentEffect` up to the loop of `createRecoveryOutbox`. `newIncidentId` is the
id that an inserted incident receives. -/
def applyIncidentEffect (db : Database) (tx : PersistTx) (newIncidentId : IncidentId) :
    PersistTx :=
  match tx.incidentEffect with
  | .none => { tx with stage := .done }
  | .opened firstFailureAt detectedAt firstErrorType lastErrorType =>
      match openIncident db tx.monitorId with
      | some (id, _) => { tx with stage := .done, incident := .touch id lastErrorType }
      | none =>
          let incident := newIncidentRow tx firstFailureAt detectedAt firstErrorType lastErrorType
          { tx with
            stage := .done
            incident := .create newIncidentId incident
            outbox := { tx.outbox with creates := createOutbox db tx newIncidentId incident } }
  | .update lastErrorType =>
      match openIncident db tx.monitorId with
      | some (id, _) => { tx with stage := .done, incident := .touch id lastErrorType }
      | none => { tx with stage := .done }
  | .resolve resolvedAt _ =>
      match openIncident db tx.monitorId with
      | some (id, row) =>
          { tx with
            stage := .resolving
              { incidentId := id
                incident := row.resolved resolvedAt
                todo := recoveryDownEvents db tx.monitorId id
                phase := .first }
            incident := .resolve id resolvedAt }
      | none => { tx with stage := .done }
  | .cancel .. => { tx with stage := .done }

/-- The row that `createRecoveryOutbox` creates for a DOWN event. -/
def recoveryRow (tx : PersistTx) (incidentId : IncidentId) (incident : IncidentRow)
    (key : OutboxKey) (down : OutboxRow) (eventType : NotificationEventType) :
    OutboxKey × OutboxRow :=
  let dedupeKey := createNotificationDedupeKey incidentId key.channelId eventType
  (⟨incidentId, key.channelId, notificationSequence eventType⟩,
    newOutboxRow tx.monitorId dedupeKey
      (makeNotificationPayload eventType tx.monitorId tx.monitor incident tx.result
        tx.config.appBaseUrl true)
      down.channelDisplayNameSnapshot down.encryptedConfigSnapshot tx.config.messageIdDomain
      tx.databaseTime)

def RecoveryDecision.retains (decision : RecoveryDecision) (down : OutboxRow)
    (incidentStatus : IncidentStatus) : Bool :=
  shouldRetainNotificationSecret
    { status := decision.currentDownStatus
      eventType := down.eventType
      lastErrorSafe := decision.currentDownLastError
      payloadAllowsRecovery := payloadAllowsRecovery down.payloadSafe
      incidentStatus := some incidentStatus }

/-- The writes of a finished iteration: create the row of the plan, retire the secret of
the DOWN row unless it is still needed. -/
def finishDown (tx : PersistTx) (resolution : Resolution) (key : OutboxKey) (down : OutboxRow)
    (decision : RecoveryDecision) : OutboxWrites :=
  let creates :=
    if decision.plan = .skip then tx.outbox.creates
    else tx.outbox.creates ++ [recoveryRow tx resolution.incidentId resolution.incident key down
      decision.plan.eventType]
  let redacts :=
    if decision.retains down resolution.incident.status then tx.outbox.redacts
    else tx.outbox.redacts ++ [key]
  { tx.outbox with creates := creates, redacts := redacts }

def OutboxRow.replaceable (row : OutboxRow) : Bool :=
  row.attemptCount = 0 && row.status.isUnsent

/-- The plan of the first read. A DOWN event whose payload does not allow recovery is
handled like a skipped one. Replacing it runs the conditional cancel, which waits for
the lock of the row; a cancel that affects no row is followed by a second read. -/
def planDown (db : Database) (tx : PersistTx) (resolution : Resolution) (key : OutboxKey)
    (down : OutboxRow) (rowFree : OutboxKey → Bool) : Option PersistTx :=
  let planned (plan : RecoveryNotificationPlan) : Option PersistTx :=
    some { tx with stage := .resolving { resolution with
      phase := .planned ⟨down.status, down.lastErrorSafe, plan⟩ } }
  if !payloadAllowsRecovery down.payloadSafe then planned .skip
  else
    match planRecoveryNotification down.status down.attemptCount with
    | .error _ => none
    | .ok .replaceWithResolvedSummary =>
        if !rowFree key then none
        else if (db.outbox.get key).any OutboxRow.replaceable then
          some { tx with
            stage := .resolving { resolution with
              phase := .planned ⟨.canceled, down.lastErrorSafe, .replaceWithResolvedSummary⟩ }
            outbox := { tx.outbox with cancels := tx.outbox.cancels ++ [key] } }
        else some { tx with stage := .resolving { resolution with phase := .reread } }
    | .ok plan => planned plan

/-- One statement of the loop of `createRecoveryOutbox`. -/
def resolveStep (db : Database) (tx : PersistTx) (rowFree : OutboxKey → Bool) :
    Option PersistTx :=
  match tx.stage with
  | .begun | .done => none
  | .resolving resolution =>
      match resolution.todo with
      | [] => some { tx with stage := .done }
      | (key, down) :: rest =>
          match resolution.phase with
          | .first => planDown db tx resolution key down rowFree
          | .reread =>
              match db.outbox.get key with
              | none => none
              | some current =>
                  match planRecoveryNotification current.status current.attemptCount with
                  | .error _ => none
                  | .ok plan =>
                      some { tx with stage := .resolving { resolution with
                        phase := .planned ⟨current.status, current.lastErrorSafe, plan⟩ } }
          | .planned decision =>
              if !decision.retains down resolution.incident.status && !rowFree key then none
              else some { tx with
                stage := .resolving { resolution with todo := rest, phase := .first }
                outbox := finishDown tx resolution key down decision }

def Resolution.at (resolution : Resolution) (phase : ResolvePhase) : PersistStage :=
  .resolving { resolution with phase := phase }

/-- The branches of `resolveStep`. -/
inductive ResolveMove (db : Database) (tx : PersistTx) (resolution : Resolution)
    (rowFree : OutboxKey → Bool) : PersistTx → Prop
  | finished : resolution.todo = [] →
      ResolveMove db tx resolution rowFree { tx with stage := .done }
  | excluded (key : OutboxKey) (down : OutboxRow) (rest : List (OutboxKey × OutboxRow)) :
      resolution.todo = (key, down) :: rest → resolution.phase = .first →
      payloadAllowsRecovery down.payloadSafe = false →
        ResolveMove db tx resolution rowFree { tx with
          stage := resolution.at (.planned ⟨down.status, down.lastErrorSafe, .skip⟩) }
  | planned (key : OutboxKey) (down : OutboxRow) (rest : List (OutboxKey × OutboxRow))
      (plan : RecoveryNotificationPlan) :
      resolution.todo = (key, down) :: rest → resolution.phase = .first →
      payloadAllowsRecovery down.payloadSafe = true →
      planRecoveryNotification down.status down.attemptCount = .ok plan →
      plan ≠ .replaceWithResolvedSummary →
        ResolveMove db tx resolution rowFree { tx with
          stage := resolution.at (.planned ⟨down.status, down.lastErrorSafe, plan⟩) }
  | canceled (key : OutboxKey) (down row : OutboxRow) (rest : List (OutboxKey × OutboxRow)) :
      resolution.todo = (key, down) :: rest → resolution.phase = .first →
      payloadAllowsRecovery down.payloadSafe = true →
      planRecoveryNotification down.status down.attemptCount = .ok .replaceWithResolvedSummary →
      rowFree key = true → db.outbox.get key = some row → row.replaceable = true →
        ResolveMove db tx resolution rowFree { tx with
          stage := resolution.at
            (.planned ⟨.canceled, down.lastErrorSafe, .replaceWithResolvedSummary⟩)
          outbox := { tx.outbox with cancels := tx.outbox.cancels ++ [key] } }
  | missed (key : OutboxKey) (down : OutboxRow) (rest : List (OutboxKey × OutboxRow)) :
      resolution.todo = (key, down) :: rest → resolution.phase = .first →
      payloadAllowsRecovery down.payloadSafe = true →
      planRecoveryNotification down.status down.attemptCount = .ok .replaceWithResolvedSummary →
        ResolveMove db tx resolution rowFree { tx with stage := resolution.at .reread }
  | reread (key : OutboxKey) (down current : OutboxRow) (rest : List (OutboxKey × OutboxRow))
      (plan : RecoveryNotificationPlan) :
      resolution.todo = (key, down) :: rest → resolution.phase = .reread →
      db.outbox.get key = some current →
      planRecoveryNotification current.status current.attemptCount = .ok plan →
        ResolveMove db tx resolution rowFree { tx with
          stage := resolution.at (.planned ⟨current.status, current.lastErrorSafe, plan⟩) }
  | written (key : OutboxKey) (down : OutboxRow) (rest : List (OutboxKey × OutboxRow))
      (decision : RecoveryDecision) :
      resolution.todo = (key, down) :: rest → resolution.phase = .planned decision →
      (decision.retains down resolution.incident.status = false → rowFree key = true) →
        ResolveMove db tx resolution rowFree { tx with
          stage := .resolving { resolution with todo := rest, phase := .first }
          outbox := finishDown tx resolution key down decision }

theorem plan_down_cases {db : Database} {tx next : PersistTx} {resolution : Resolution}
    {key : OutboxKey} {down : OutboxRow} {rest : List (OutboxKey × OutboxRow)}
    {rowFree : OutboxKey → Bool} (todo : resolution.todo = (key, down) :: rest)
    (phase : resolution.phase = .first)
    (planned : planDown db tx resolution key down rowFree = some next) :
    ResolveMove db tx resolution rowFree next := by
  unfold planDown at planned
  simp only at planned
  split at planned
  · rename_i excluded
    cases planned
    exact .excluded key down rest todo phase (by simpa using excluded)
  · rename_i allows
    have allowed : payloadAllowsRecovery down.payloadSafe = true := by simpa using allows
    split at planned
    · cases planned
    · rename_i plan
      split at planned
      · cases planned
      · rename_i free
        split at planned
        · rename_i affected
          cases planned
          rw [Option.any_eq_true] at affected
          obtain ⟨row, found, replaceable⟩ := affected
          exact .canceled key down row rest todo phase allowed plan (by simpa using free) found
            replaceable
        · cases planned
          exact .missed key down rest todo phase allowed plan
    · rename_i plan different computed
      cases planned
      exact .planned key down rest plan todo phase allowed computed different

/-- The inversion lemma of `resolveStep`. -/
theorem resolve_step_cases {db : Database} {tx next : PersistTx} {rowFree : OutboxKey → Bool}
    (resolved : resolveStep db tx rowFree = some next) :
    ∃ resolution, tx.stage = .resolving resolution ∧
      ResolveMove db tx resolution rowFree next := by
  unfold resolveStep at resolved
  split at resolved
  · cases resolved
  · cases resolved
  · rename_i resolution stage
    refine ⟨resolution, stage, ?_⟩
    split at resolved
    · rename_i empty
      cases resolved
      exact .finished empty
    · rename_i key down rest todo
      split at resolved
      · rename_i phase
        exact plan_down_cases todo phase resolved
      · rename_i phase
        split at resolved
        · cases resolved
        · rename_i current found
          split at resolved
          · cases resolved
          · rename_i plan computed
            cases resolved
            exact .reread key down current rest plan todo phase found computed
      · rename_i decision phase
        split at resolved
        · cases resolved
        · rename_i unlocked
          cases resolved
          refine .written key down rest decision todo phase ?_
          intro forgets
          simpa [forgets] using unlocked

theorem resolve_first {db : Database} {tx : PersistTx} {resolution : Resolution}
    {key : OutboxKey} {down : OutboxRow} {rest : List (OutboxKey × OutboxRow)}
    (stage : tx.stage = .resolving resolution) (todo : resolution.todo = (key, down) :: rest)
    (phase : resolution.phase = .first) (rowFree : OutboxKey → Bool) :
    resolveStep db tx rowFree = planDown db tx resolution key down rowFree := by
  simp only [resolveStep, stage, todo, phase]

def resultRow (tx : PersistTx) : CheckResultRow where
  monitorId := tx.monitorId
  source := .scheduled
  outcome := tx.result.outcome
  configVersion := tx.check.configVersion
  displayUrlSnapshot := tx.displayUrlSnapshot
  startedAt := tx.result.startedAt
  finishedAt := tx.result.finishedAt
  statusCode := tx.result.statusCode
  ttfbMs := tx.result.ttfbMs
  totalMs := tx.result.totalMs
  errorType := tx.result.errorType
  errorMessageSafe := tx.result.errorMessageSafe.map fun message => sliceText message 1000
  workerRegion := tx.config.region
  redirectCount := tx.result.redirectCount
  responseBytesRead := tx.result.inspectedBodyBytes

def monitorUpdate (row : MonitorRow) (result : MonitorCheckResult)
    (transition : StateTransitionResult) : MonitorRow :=
  let success := result.outcome = .success
  { row with
    healthState := transition.state.healthState
    consecutiveFailures := transition.state.consecutiveFailures
    consecutiveSuccesses := transition.state.consecutiveSuccesses
    failureStreakStartedAt := transition.state.failureStreakStartedAt
    failureStreakFirstErrorType := transition.state.failureStreakFirstErrorType
    lastCheckedAt := some result.finishedAt
    networkUnknownSince := none
    lastStatusCode := result.statusCode
    lastTtfbMs := result.ttfbMs
    lastTotalMs := some result.totalMs
    lastErrorType := result.errorType
    lastSuccessAt := if success then some result.finishedAt else row.lastSuccessAt
    lastFailureAt := if success then row.lastFailureAt else some result.finishedAt }

def PersistTx.monitorWrite (tx : PersistTx) (row : MonitorRow) : MonitorRow :=
  match tx.transition with
  | none => row
  | some transition =>
      let noted :=
        if tx.config.networkGuard && tx.result.outcome = .inconclusive then
          { row with
            networkUnknownSince := some (row.networkUnknownSince.getD tx.result.startedAt) }
        else row
      if transition.applied then monitorUpdate noted tx.result transition else noted

def CheckRow.completed (row : CheckRow) (finishedAt : Time) : CheckRow :=
  { row with
    status := .completed
    completedAt := some finishedAt
    leaseOwner := none
    leaseUntil := none
    failureReasonSafe := none }

def OutboxRow.canceledByResolution (row : OutboxRow) (resolvedAt : Option Time) : OutboxRow :=
  { row with
    status := .canceled
    canceledAt := resolvedAt
    leaseOwner := none
    leaseUntil := none }

/-- `incident.resolvedAt` of the incident that the transaction resolves. -/
def PersistTx.resolvedAt (tx : PersistTx) : Option Time :=
  match tx.incident with
  | .resolve _ resolvedAt => some resolvedAt
  | _ => none

def PersistTx.rowWrite (tx : PersistTx) (key : OutboxKey) (row : OutboxRow) : OutboxRow :=
  let canceled :=
    if key ∈ tx.outbox.cancels then row.canceledByResolution tx.resolvedAt else row
  if key ∈ tx.outbox.redacts then canceled.retired else canceled

/-- The commit of the persist transaction. A check that was read as CANCELED keeps its
status; `none` is a unique-key violation. -/
def persistCommit (db : Database) (tx : PersistTx) : Option Database := do
  let results ← db.results.insertNew tx.checkId (resultRow tx)
  let incidents ← tx.incident.apply db.incidents
  let outbox ← (db.outbox.updateWhere (fun _ _ => true) tx.rowWrite).insertAll tx.outbox.creates
  some { db with
    results := results
    incidents := incidents
    outbox := outbox
    monitors := db.monitors.updateKey tx.monitorId tx.monitorWrite
    checks :=
      if tx.check.status = .canceled then db.checks
      else db.checks.updateKey tx.checkId fun row => row.completed tx.result.finishedAt }

end LinkAlive
