import LinkAlive.Worker.NotificationProcessor

/-!
# The outbox dispatcher

`apps/worker/src/outbox-dispatcher.ts`. Every statement is its own transaction; what a
dispatcher remembers between its statements about one candidate is `DispatchState`.
The queue belongs to the layer above: here a job for any row may arrive at any time.
-/

namespace LinkAlive

open Relational

set_option autoImplicit false

def OutboxRow.availableForDispatch (row : OutboxRow) (now : Time) : Bool :=
  decide (row.availableAt ≤ now) &&
    (((row.status = .pending || row.status = .retry) && leaseFree now row.leaseUntil) ||
      ((row.status = .enqueued || row.status = .processing) && leaseExpired now row.leaseUntil))

inductive DispatchStage
  | scanned
  | compared (down : Option NotificationOutboxStatus)
  | claimed
deriving DecidableEq, Repr

/-- One candidate of a `dispatch` call. -/
structure DispatchState where
  owner : InstanceId
  leaseMs : Nat
  now : Time
  key : OutboxKey
  eventType : NotificationEventType
  channelLive : Bool
  stage : DispatchStage
deriving DecidableEq, Repr

/-- `findMany` returns the row with its channel. -/
def scanCandidate (db : Database) (owner : InstanceId) (leaseMs : Nat) (now : Time)
    (key : OutboxKey) : Option DispatchState := do
  let row ← db.outbox.get key
  if row.availableForDispatch now then
    some
      { owner := owner
        leaseMs := leaseMs
        now := now
        key := key
        eventType := row.eventType
        channelLive := channelLive db key.channelId
        stage := .scanned }
  else none

/-- `findFirst` of the DOWN row of a recovery candidate. -/
def compareDown (db : Database) (state : DispatchState) : Option DispatchState :=
  if state.stage = .scanned && state.channelLive && state.eventType = .recovery then
    some { state with stage := .compared (priorDownStatus db state.key) }
  else none

inductive DispatchDecision
  | disabled | wait | undelivered (retain : Bool) | dispatch
deriving DecidableEq, Repr

/-- What the dispatcher does with the candidate; `none` where it still has to read DOWN. -/
def DispatchState.decision (state : DispatchState) : Option DispatchDecision :=
  match state.stage with
  | .scanned =>
      if !state.channelLive then some .disabled
      else if state.eventType = .recovery then none
      else some .dispatch
  | .compared down =>
      match recoveryPrerequisiteStatus down with
      | .wait => some .wait
      | .cancel => some (.undelivered (down = some .failed))
      | .ready => some .dispatch
  | .claimed => none

def OutboxRow.canceledByDispatcher (row : OutboxRow) (now : Time) (reason : String)
    (retainForLateDownSuccess : Bool) : OutboxRow :=
  let canceled :=
    { row with
      status := .canceled
      canceledAt := some now
      leaseOwner := none
      leaseUntil := none
      lastErrorSafe := some reason }
  if retainForLateDownSuccess then canceled else canceled.retired

def OutboxRow.claimedByDispatcher (row : OutboxRow) (state : DispatchState) : OutboxRow :=
  { row with
    status := .retry
    leaseOwner := some state.owner
    leaseUntil := some (state.now + state.leaseMs) }

def OutboxRow.dispatched (row : OutboxRow) (state : DispatchState) :
    DispatchDecision → OutboxRow
  | .disabled => row.canceledByDispatcher state.now "알림 채널이 비활성화되었습니다." false
  | .wait => { row with availableAt := state.now + 2000 }
  | .undelivered retain =>
      row.canceledByDispatcher state.now downNotDeliveredRecoveryCancelReason retain
  | .dispatch => row.claimedByDispatcher state

/-- The guarded update of a candidate. A dispatcher that claimed the row goes on to the
queue, every other one is finished with the candidate. -/
def dispatchCandidate (outbox : Table OutboxKey OutboxRow) (state : DispatchState) :
    Option (Table OutboxKey OutboxRow × Option DispatchState) := do
  let decision ← state.decision
  let affected := (outbox.get state.key).any fun row => row.availableForDispatch state.now
  some (outbox.updateWhere (fun key row => key = state.key && row.availableForDispatch state.now)
      fun _ row => row.dispatched state decision,
    if decision = .dispatch && affected then some { state with stage := .claimed } else none)

def OutboxRow.claimHeldBy (row : OutboxRow) (owner : InstanceId) : Bool :=
  row.leaseOwner = some owner && row.status = .retry

def OutboxRow.enqueuedBy (row : OutboxRow) (state : DispatchState) : OutboxRow :=
  { row with
    status := .enqueued
    queueJobId := some state.key
    enqueuedAt := some state.now
    leaseUntil := some (state.now + state.leaseMs) }

def OutboxRow.releasedBy (row : OutboxRow) (state : DispatchState) : OutboxRow :=
  { row with
    status := .retry
    availableAt := state.now + 2000
    leaseOwner := none
    leaseUntil := none
    lastErrorSafe := some "알림 큐에 작업을 등록하지 못했습니다." }

/-- The last statement about a claimed candidate, after the queue accepted or refused. -/
def finishDispatch (outbox : Table OutboxKey OutboxRow) (state : DispatchState)
    (accepted : Bool) : Table OutboxKey OutboxRow :=
  outbox.updateWhere (fun key row => key = state.key && row.claimHeldBy state.owner) fun _ row =>
    if accepted then row.enqueuedBy state else row.releasedBy state

end LinkAlive
