import LinkAlive.System.State

/-!
# The steps of the system

Every action is one statement outside a transaction, the begin of a transaction, one of
its later statements, or its commit or abort. `none` means that the action is not
possible: it waits for a lock, its program is not there, or it throws. The clock is
adversarial: every action brings its own `now`.
-/

namespace LinkAlive

open Relational

set_option autoImplicit false

inductive Action
  | createChannel (id : ChannelId) (displayName : String) (config : ChannelConfig)
  | beginMonitor (t : TxId) (id : MonitorId) (request : MonitorRequest)
      (now initialNextCheckAt : Time)
  | beginChannel (t : TxId) (id : ChannelId) (request : ChannelRequest) (now : Time)
  | beginCreateDue (t : TxId) (now : Time) (chosen : List (MonitorId × CheckId))
  | claimForDispatch (id : CheckId) (owner : InstanceId) (now leaseUntil : Time)
  | markEnqueued (id : CheckId) (owner : InstanceId) (now leaseUntil : Time)
  | releaseDispatchClaim (id : CheckId) (owner : InstanceId) (safeReason : String)
  | loadCheck (job : JobId) (data : CheckJobData)
  | loadMonitor (job : JobId)
  | cancelStale (job : JobId) (now : Time)
  | claimCheck (job : JobId) (instanceId : InstanceId) (leaseMs : Nat) (now : Time)
  | beginPersist (t : TxId) (job : JobId) (config : CheckProcessorConfig)
      (result : MonitorCheckResult) (databaseTime : Time)
  | applyEffect (t : TxId) (newIncidentId : IncidentId)
  | resolve (t : TxId)
  | beginClaim (t : TxId) (key : OutboxKey) (instanceId : InstanceId) (leaseMs : Nat) (now : Time)
  | beginMarkSent (t : TxId) (attempt : OutboxKey × Nat) (providerMessageId : Option String)
      (now databaseTime : Time)
  | markFailed (attempt : OutboxKey × Nat) (error : NotificationProviderError) (now : Time)
      (retryDelayMs : Nat)
  | scan (d : DispatcherId) (owner : InstanceId) (leaseMs : Nat) (now : Time) (key : OutboxKey)
  | compareDown (d : DispatcherId)
  | dispatchCandidate (d : DispatcherId)
  | finishDispatch (d : DispatcherId) (accepted : Bool)
  | commit (t : TxId)
  | abort (t : TxId)

namespace System

def begin (s : System) (t : TxId) (tx : Transaction) : Option System :=
  if (s.txs.get t).isNone then some { s with txs := s.txs.put t tx } else none

/-- The locked monitor must not be locked by another transaction; a created one is new. -/
def beginMonitor (s : System) (t : TxId) (id : MonitorId) (request : MonitorRequest)
    (now initialNextCheckAt : Time) : Option System := do
  let change ← monitorChange s.db id request
  if s.free (Transaction.locksMonitor id) &&
      change.found.all fun attempt => s.free fun tx => attempt ∈ tx.found then
    s.begin t (.monitor ⟨id, now, initialNextCheckAt, change⟩)
  else none

def beginChannel (s : System) (t : TxId) (id : ChannelId) (request : ChannelRequest)
    (now : Time) : Option System := do
  let change ← channelChange s.db id request
  if s.free (Transaction.locksChannel id) &&
      change.found.all fun attempt => s.free fun tx => attempt ∈ tx.found then
    s.begin t (.channel ⟨id, now, change⟩)
  else none

/-- `FOR UPDATE SKIP LOCKED` returns due monitors that nobody has locked. -/
def dueEntries (s : System) (now : Time) :
    List (MonitorId × CheckId) → Option (List (DueMonitor × CheckId))
  | [] => some []
  | (id, checkId) :: rest => do
      let monitor ← dueMonitor s.db now id
      let others ← s.dueEntries now rest
      if s.free (Transaction.locksMonitor id) then some ((monitor, checkId) :: others) else none

def beginCreateDue (s : System) (t : TxId) (now : Time) (chosen : List (MonitorId × CheckId)) :
    Option System := do
  let due ← s.dueEntries now chosen
  s.begin t (.createDue ⟨now, due⟩)

/-- A job that is loaded under a name in use stands for a worker that crashed. -/
def loadCheck (s : System) (job : JobId) (data : CheckJobData) : Option System := do
  let loaded ← LinkAlive.loadCheck s.db data
  some { s with jobs := s.jobs.put job loaded }

def loadMonitor (s : System) (job : JobId) : Option System :=
  match s.jobs.get job with
  | some (.scheduled id check) => do
      let loaded ← LinkAlive.loadMonitor s.db id check
      some { s with jobs := s.jobs.put job loaded }
  | _ => none

def cancelStale (s : System) (job : JobId) (now : Time) : Option System :=
  match s.jobs.get job with
  | some (.stale id) =>
      some { s with
        db := { s.db with checks := LinkAlive.cancelStale s.db.checks id now }
        jobs := s.jobs.remove job }
  | _ => none

def claimCheck (s : System) (job : JobId) (instanceId : InstanceId) (leaseMs : Nat)
    (now : Time) : Option System :=
  match s.jobs.get job with
  | some (.current id check monitor) =>
      some { s with
        db := { s.db with
          checks := LinkAlive.claimCheck s.db.checks id instanceId now (now + leaseMs) }
        jobs :=
          if (s.db.checks.get id).any fun row => row.claimableByWorker now then
            s.jobs.put job (.running id check monitor)
          else s.jobs.remove job }
  | _ => none

def beginPersist (s : System) (t : TxId) (job : JobId) (config : CheckProcessorConfig)
    (result : MonitorCheckResult) (databaseTime : Time) : Option System :=
  match s.jobs.get job with
  | some (.running id _ original) => do
      let tx ← persistBegin s.db id original config result databaseTime
      if s.free (Transaction.locksMonitor tx.monitorId) then
        begin { s with jobs := s.jobs.remove job } t (.persist tx)
      else none
  | _ => none

def applyEffect (s : System) (t : TxId) (newIncidentId : IncidentId) : Option System :=
  match s.txs.get t with
  | some (.persist tx) =>
      match tx.stage with
      | .begun =>
          some { s with
            txs := s.txs.put t (.persist (applyIncidentEffect s.db tx newIncidentId)) }
      | _ => none
  | _ => none

def resolve (s : System) (t : TxId) : Option System :=
  match s.txs.get t with
  | some (.persist tx) => do
      let next ← resolveStep s.db tx fun key => s.freeFor t (Transaction.locksRow key)
      some { s with txs := s.txs.put t (.persist next) }
  | _ => none

/-- A job for a row may arrive at any time; a missing row ends it. -/
def beginClaim (s : System) (t : TxId) (key : OutboxKey) (instanceId : InstanceId)
    (leaseMs : Nat) (now : Time) : Option System :=
  if (s.db.outbox.get key).isSome && s.free (Transaction.locksRow key) then
    s.begin t (.claim ⟨key, instanceId, leaseMs, now, channelLive s.db key.channelId⟩)
  else none

def beginMarkSent (s : System) (t : TxId) (attempt : OutboxKey × Nat)
    (providerMessageId : Option String) (now databaseTime : Time) : Option System := do
  let claimed ← s.attempts.get attempt
  if s.free (Transaction.locksRow claimed.key) then
    begin { s with attempts := s.attempts.remove attempt } t
      (.markSent (markSentBegin s.db claimed providerMessageId now databaseTime))
  else none

/-- `markFailed` decides nothing from a plain read, so that it is a single step; it locks
the row, the delivery and the recovery row that it cancels. -/
def markFailed (s : System) (attempt : OutboxKey × Nat) (error : NotificationProviderError)
    (now : Time) (retryDelayMs : Nat) : Option System := do
  let claimed ← s.attempts.get attempt
  if s.free (Transaction.locksRow claimed.key) &&
      (!failsDown s.db claimed error || s.free (Transaction.locksRow claimed.key.followUp)) &&
      s.free fun tx => (claimed.key, claimed.deliveryAttempt) ∈ tx.found then
    some { s with
      db := LinkAlive.markFailed s.db claimed error now retryDelayMs
      attempts := s.attempts.remove attempt }
  else none

def scan (s : System) (d : DispatcherId) (owner : InstanceId) (leaseMs : Nat) (now : Time)
    (key : OutboxKey) : Option System := do
  let state ← scanCandidate s.db owner leaseMs now key
  some { s with dispatchers := s.dispatchers.put d state }

def compareDown (s : System) (d : DispatcherId) : Option System := do
  let state ← s.dispatchers.get d
  let next ← LinkAlive.compareDown s.db state
  some { s with dispatchers := s.dispatchers.put d next }

def dispatchCandidate (s : System) (d : DispatcherId) : Option System := do
  let state ← s.dispatchers.get d
  let (outbox, next) ← LinkAlive.dispatchCandidate s.db.outbox state
  if s.free (Transaction.locksRow state.key) then
    some { s with
      db := { s.db with outbox := outbox }
      dispatchers :=
        match next with
        | some claimed => s.dispatchers.put d claimed
        | none => s.dispatchers.remove d }
  else none

def finishDispatch (s : System) (d : DispatcherId) (accepted : Bool) : Option System := do
  let state ← s.dispatchers.get d
  if state.stage = .claimed && s.free (Transaction.locksRow state.key) then
    some { s with
      db := { s.db with outbox := LinkAlive.finishDispatch s.db.outbox state accepted }
      dispatchers := s.dispatchers.remove d }
  else none

/-- Ends a transaction that has written `db`. -/
def ended (s : System) (t : TxId) (db : Database) (events : List Event) : System :=
  { s with
    db := db
    txs := s.txs.remove t
    history := s.history ++ events }

/-- The foreign key checks of the rows that a resolution inserts wait for channel locks. -/
def commitPersist (s : System) (t : TxId) (tx : PersistTx) : Option System :=
  match tx.stage with
  | .done =>
      if tx.outbox.creates.all fun entry =>
          s.freeFor t (Transaction.locksChannel entry.1.channelId) then do
        let db ← persistCommit s.db tx
        some (s.ended t db [.recorded tx.monitorId tx.checkId])
      else none
  | _ => none

def claimNeeds (s : System) (tx : ClaimTx) : Option OutboxKey :=
  (s.db.outbox.get tx.key).bind fun row =>
    if claimOutcome tx row (priorDownStatus s.db tx.key) = .exhausted && row.eventType = .down then
      some tx.key.followUp
    else none

def commitClaim (s : System) (t : TxId) (tx : ClaimTx) : Option System :=
  if (s.claimNeeds tx).all (fun key => s.freeFor t (Transaction.locksRow key)) &&
      s.freeFor t (fun other => other.found.any fun attempt => attempt.1 = tx.key) then do
    let (db, granted) ← claimCommit s.db tx
    match granted with
    | none => some (s.ended t db [])
    | some claimed =>
        some { s.ended t db [.granted claimed.key claimed.deliveryAttempt] with
          attempts := s.attempts.put (claimed.key, claimed.deliveryAttempt) claimed }
  else none

/-- The locks that the late-recovery branch of `markSent` waits for. -/
def lateRecoveryFree (s : System) (t : TxId) (tx : MarkSentTx) : Bool :=
  match tx.recovery with
  | .none => true
  | .reactivate => s.freeFor t (Transaction.locksRow tx.claimed.key.followUp)
  | .create row =>
      s.freeFor t (Transaction.locksMonitor row.monitorId) &&
        s.freeFor t (Transaction.locksChannel tx.claimed.key.channelId)

def commitMarkSent (s : System) (t : TxId) (tx : MarkSentTx) : Option System :=
  if s.freeFor t (fun other => (tx.claimed.key, tx.claimed.deliveryAttempt) ∈ other.found) &&
      s.lateRecoveryFree t tx then do
    let db ← markSentCommit s.db tx
    some (s.ended t db [])
  else none

def commitCreateDue (s : System) (t : TxId) (tx : CreateDueTx) : Option System := do
  let db ← createDueChecks s.db tx.now tx.due
  some (s.ended t db [])

/-- Every operation but an update of the name or the channels alone resets the monitor; a
new monitor starts reset. -/
def resets : MonitorChange → Bool
  | .update _ none => false
  | _ => true

def commitMonitor (s : System) (t : TxId) (tx : MonitorTx) : Option System :=
  if (tx.change.cancels.isNone || s.rowsFree t (ofMonitor tx.id)) &&
      tx.change.bindsChannels.all (fun id => s.freeFor t (Transaction.locksChannel id)) then do
    let db ← monitorCommit s.db tx
    some (s.ended t db (if resets tx.change then [.reset tx.id] else []))
  else none

def commitChannel (s : System) (t : TxId) (tx : ChannelTx) : Option System :=
  if tx.change.retires.isNone || s.rowsFree t (ofChannel tx.id) then
    some (s.ended t (channelCommit s.db tx) [])
  else none

def commit (s : System) (t : TxId) : Option System :=
  match s.txs.get t with
  | none => none
  | some (.persist tx) => s.commitPersist t tx
  | some (.claim tx) => s.commitClaim t tx
  | some (.markSent tx) => s.commitMarkSent t tx
  | some (.createDue tx) => s.commitCreateDue t tx
  | some (.monitor tx) => s.commitMonitor t tx
  | some (.channel tx) => s.commitChannel t tx

def abort (s : System) (t : TxId) : Option System :=
  if (s.txs.get t).isSome then some { s with txs := s.txs.remove t } else none

end System

def step (s : System) : Action → Option System
  | .createChannel id displayName config => do
      let channels ← s.db.channels.insertNew id (newChannelRow displayName config)
      some { s with db := { s.db with channels := channels } }
  | .beginMonitor t id request now initialNextCheckAt =>
      s.beginMonitor t id request now initialNextCheckAt
  | .beginChannel t id request now => s.beginChannel t id request now
  | .beginCreateDue t now chosen => s.beginCreateDue t now chosen
  | .claimForDispatch id owner now leaseUntil =>
      some { s with db := { s.db with
        checks := LinkAlive.claimForDispatch s.db.checks id owner now leaseUntil } }
  | .markEnqueued id owner now leaseUntil =>
      some { s with db := { s.db with
        checks := LinkAlive.markEnqueued s.db.checks id owner now leaseUntil } }
  | .releaseDispatchClaim id owner safeReason =>
      some { s with db := { s.db with
        checks := LinkAlive.releaseDispatchClaim s.db.checks id owner safeReason } }
  | .loadCheck job data => s.loadCheck job data
  | .loadMonitor job => s.loadMonitor job
  | .cancelStale job now => s.cancelStale job now
  | .claimCheck job instanceId leaseMs now => s.claimCheck job instanceId leaseMs now
  | .beginPersist t job config result databaseTime => s.beginPersist t job config result databaseTime
  | .applyEffect t newIncidentId => s.applyEffect t newIncidentId
  | .resolve t => s.resolve t
  | .beginClaim t key instanceId leaseMs now => s.beginClaim t key instanceId leaseMs now
  | .beginMarkSent t attempt providerMessageId now databaseTime =>
      s.beginMarkSent t attempt providerMessageId now databaseTime
  | .markFailed attempt error now retryDelayMs => s.markFailed attempt error now retryDelayMs
  | .scan d owner leaseMs now key => s.scan d owner leaseMs now key
  | .compareDown d => s.compareDown d
  | .dispatchCandidate d => s.dispatchCandidate d
  | .finishDispatch d accepted => s.finishDispatch d accepted
  | .commit t => s.commit t
  | .abort t => s.abort t

abbrev Reachable (s : System) : Prop := Transition.Reachable step System.initial s

end LinkAlive
