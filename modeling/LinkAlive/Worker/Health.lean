import LinkAlive.Domain.Types

/-!
# The health of a worker

`WorkerHealth` of `apps/worker/src/health.ts`. An inspection reads the counters first, then
waits for its probes, and reads the status of the process when they have answered. Every
method that asks for the time is given it. Differences of times are truncated, which is what
the source's comparisons with positive limits make of them.
-/

namespace LinkAlive.Runtime

set_option autoImplicit false

inductive ProcessStatus | starting | running | stopping
deriving DecidableEq, Repr

inductive OutboxPollStatus | pending | fresh | stale
deriving DecidableEq, Repr

inductive DependencyStatus | ok | unavailable | notChecked
deriving DecidableEq, Repr

inductive CheckPipelineStatus
  | idle | active | healthy | failing | stalled | unavailable | notChecked
deriving DecidableEq, Repr

structure HealthLimits where
  outboxStaleAfterMs : Nat
  checkPipelineStaleAfterMs : Nat
  checkFailureThreshold : Nat
deriving DecidableEq, Repr

structure WorkerHealth where
  limits : HealthLimits
  processStatus : ProcessStatus
  lastSuccessfulOutboxPollAt : Option Time
  activeCheckJobs : Nat
  consecutiveCheckProcessorFailures : Nat
  lastCheckStartedAt : Option Time
  lastCheckSucceededAt : Option Time
  lastCheckFailedAt : Option Time
deriving DecidableEq, Repr

def newWorkerHealth (limits : HealthLimits) : Except String WorkerHealth :=
  if limits.outboxStaleAfterMs = 0 then .error "outboxStaleAfterMs must be positive"
  else if limits.checkPipelineStaleAfterMs = 0 then
    .error "checkPipelineStaleAfterMs must be positive"
  else if limits.checkFailureThreshold = 0 then
    .error "checkFailureThreshold must be a positive integer"
  else
    .ok
      { limits := limits
        processStatus := .starting
        lastSuccessfulOutboxPollAt := none
        activeCheckJobs := 0
        consecutiveCheckProcessorFailures := 0
        lastCheckStartedAt := none
        lastCheckSucceededAt := none
        lastCheckFailedAt := none }

structure CheckActivitySnapshot where
  activeJobs : Nat
  consecutiveProcessorFailures : Nat
  lastStartedAgoMs : Option Nat
  lastSucceededAgoMs : Option Nat
  lastFailedAgoMs : Option Nat
deriving DecidableEq, Repr

structure WorkerHealthSnapshot where
  healthy : Bool
  process : ProcessStatus
  outboxPoll : OutboxPollStatus
  checkPipeline : CheckPipelineStatus
  checkActivity : CheckActivitySnapshot
  database : DependencyStatus
  producerRedis : DependencyStatus
  consumerRedis : DependencyStatus
deriving DecidableEq, Repr

namespace WorkerHealth

variable (h : WorkerHealth)

def markRunning : WorkerHealth :=
  if h.processStatus ≠ .stopping then { h with processStatus := .running } else h

def markOutboxPollSucceeded (now : Time) : WorkerHealth :=
  { h with lastSuccessfulOutboxPollAt := some now }

/-- The last failure is too long ago to count. -/
def forgets (startedAt : Time) : Bool :=
  h.lastCheckFailedAt.any fun failedAt => h.limits.checkPipelineStaleAfterMs < startedAt - failedAt

def markCheckStarted (startedAt : Time) : WorkerHealth :=
  { h with
    consecutiveCheckProcessorFailures :=
      if h.forgets startedAt then 0 else h.consecutiveCheckProcessorFailures
    activeCheckJobs := h.activeCheckJobs + 1
    lastCheckStartedAt := some startedAt }

def markCheckSucceeded (now : Time) : WorkerHealth :=
  { h with
    activeCheckJobs := h.activeCheckJobs - 1
    consecutiveCheckProcessorFailures := 0
    lastCheckSucceededAt := some now }

def markCheckFailed (now : Time) : WorkerHealth :=
  { h with
    activeCheckJobs := h.activeCheckJobs - 1
    consecutiveCheckProcessorFailures := h.consecutiveCheckProcessorFailures + 1
    lastCheckFailedAt := some now }

def markStopping : WorkerHealth := { h with processStatus := .stopping }

def outboxPoll (inspectedAt : Time) : OutboxPollStatus :=
  match h.lastSuccessfulOutboxPollAt with
  | none => .pending
  | some polledAt =>
      if inspectedAt - polledAt ≤ h.limits.outboxStaleAfterMs then .fresh else .stale

def checkActivitySnapshot (inspectedAt : Time) : CheckActivitySnapshot where
  activeJobs := h.activeCheckJobs
  consecutiveProcessorFailures := h.consecutiveCheckProcessorFailures
  lastStartedAgoMs := h.lastCheckStartedAt.map fun time => inspectedAt - time
  lastSucceededAgoMs := h.lastCheckSucceededAt.map fun time => inspectedAt - time
  lastFailedAgoMs := h.lastCheckFailedAt.map fun time => inspectedAt - time

end WorkerHealth

/-- What an inspection has read before it waits for its probes. -/
structure Inspection where
  inspectedAt : Time
  outboxPoll : OutboxPollStatus
  checkActivity : CheckActivitySnapshot
deriving DecidableEq, Repr

/-- The answers of the probes; `probeWithin` makes a late or failed one unavailable. -/
structure Probes where
  database : Bool
  producerRedis : Bool
  consumerRedis : Bool
  checkLedger : Bool
  hasStalledCheckWork : Bool
deriving DecidableEq, Repr

def probeStatus (answered : Bool) : DependencyStatus := if answered then .ok else .unavailable

def recently (limits : HealthLimits) (ago : Option Nat) : Bool :=
  ago.any fun value => value ≤ limits.checkPipelineStaleAfterMs

def checkPipeline (limits : HealthLimits) (activity : CheckActivitySnapshot) (probes : Probes) :
    CheckPipelineStatus :=
  if !probes.checkLedger then .unavailable
  else if probes.hasStalledCheckWork then .stalled
  else if limits.checkFailureThreshold ≤ activity.consecutiveProcessorFailures &&
      recently limits activity.lastFailedAgoMs then .failing
  else if 0 < activity.activeJobs then .active
  else if recently limits activity.lastStartedAgoMs || recently limits activity.lastSucceededAgoMs ||
      recently limits activity.lastFailedAgoMs then .healthy
  else .idle

def CheckPipelineStatus.sound : CheckPipelineStatus → Bool
  | .idle | .active | .healthy => true
  | _ => false

/-- The answer after the probes; `h` is the health at that time. -/
def probed (h : WorkerHealth) (inspection : Inspection) (probes : Probes) :
    WorkerHealthSnapshot :=
  let pipeline := checkPipeline h.limits inspection.checkActivity probes
  { healthy :=
      h.processStatus = .running && inspection.outboxPoll = .fresh && pipeline.sound &&
        probes.database && probes.producerRedis && probes.consumerRedis
    process := h.processStatus
    outboxPoll := inspection.outboxPoll
    checkPipeline := pipeline
    checkActivity := inspection.checkActivity
    database := probeStatus probes.database
    producerRedis := probeStatus probes.producerRedis
    consumerRedis := probeStatus probes.consumerRedis }

def WorkerHealth.inspection (h : WorkerHealth) (inspectedAt : Time) : Inspection :=
  ⟨inspectedAt, h.outboxPoll inspectedAt, h.checkActivitySnapshot inspectedAt⟩

def outboxPollFreshnessMs (pollIntervalMs : Nat) : Nat := max 30000 (pollIntervalMs * 5)

end LinkAlive.Runtime
