import LinkAlive.Ledger.Checks
import LinkAlive.Outbox.Dispatch
import LinkAlive.Scheduler.CheckDispatcher

/-!
# The system and its queues

A dispatcher puts a job into a queue before it marks its row as enqueued, and a worker
starts with a job that it has taken. A state without its queues takes a step of the system
or stays as it is.
-/

namespace LinkAlive

open Relational Jobs

set_option autoImplicit false

/-- The queue of the outbox dispatcher, whose jobs carry nothing but their row. -/
def notificationQueue {World : Type} (queue : QueuePort World OutboxKey OutboxKey) :
    NotificationQueuePort World where
  Job := queue.Job
  getJob := queue.getJob
  getState := queue.getState
  remove := queue.remove
  add outboxId := queue.add outboxId outboxId

theorem ensure_notification_job_eq {World : Type} (queue : QueuePort World OutboxKey OutboxKey)
    (outboxId : OutboxKey) :
    ensureNotificationJob (notificationQueue queue) outboxId =
      queue.ensureJob outboxId outboxId := by
  unfold ensureNotificationJob QueuePort.ensureJob
  congr 1
  funext existing
  cases existing <;> rfl

/-- What a dispatcher does to the jobs that the steps of the system are about. -/
theorem try_ensure_table (jobs : JobTable OutboxKey OutboxKey) (outboxId : OutboxKey) :
    tryEnsure (notificationQueue tablePort) outboxId jobs =
      (true, ensure jobs outboxId outboxId) := by
  rw [tryEnsure, ensure_notification_job_eq, ensure_job_table]

def CheckJobData.Current (data : CheckJobData) (db : Database) : Prop :=
  ∃ row, db.checks.get data.scheduledCheckId = some row ∧ row.configVersion = data.configVersion

structure QueuedSystem where
  system : System
  checkJobs : JobTable CheckId CheckJobData
  notificationJobs : JobTable OutboxKey OutboxKey
  turns : Table DispatcherId CheckTurn
  ensured : Table DispatcherId OutboxKey

def QueuedSystem.initial : QueuedSystem where
  system := .initial
  checkJobs := ∅
  notificationJobs := ∅
  turns := ∅
  ensured := ∅

inductive QueueAction
  | core (a : Action)
  | scan (d : DispatcherId) (owner : InstanceId) (leaseMs : Nat) (now : Time) (key : OutboxKey)
  | ensureNotificationJob (d : DispatcherId)
  | finishDispatch (d : DispatcherId) (accepted : Bool)
  | takeNotification (key : OutboxKey) (t : TxId) (instanceId : InstanceId) (leaseMs : Nat)
      (now : Time)
  | findDispatchCandidate (d : DispatcherId) (owner : InstanceId) (leaseMs : Nat) (now : Time)
      (id : CheckId)
  | claimForDispatch (d : DispatcherId)
  | ensureQueueJob (d : DispatcherId)
  | markEnqueued (d : DispatcherId)
  | releaseDispatchClaim (d : DispatcherId)
  | takeCheck (id : CheckId) (job : JobId)
  | notificationJob (key : OutboxKey) (event : JobEvent)
  | checkJob (id : CheckId) (event : JobEvent)

def Action.queued : Action → Bool
  | .claimForDispatch .. | .markEnqueued .. | .releaseDispatchClaim .. | .loadCheck ..
  | .beginClaim .. | .scan .. | .finishDispatch .. => true
  | _ => false

namespace QueuedSystem

def run (q : QueuedSystem) (a : Action) : Option QueuedSystem := do
  let system ← LinkAlive.step q.system a
  some { q with system := system }

def scan (q : QueuedSystem) (d : DispatcherId) (owner : InstanceId) (leaseMs : Nat) (now : Time)
    (key : OutboxKey) : Option QueuedSystem :=
  run { q with ensured := q.ensured.remove d } (.scan d owner leaseMs now key)

def ensureNotificationJob (q : QueuedSystem) (d : DispatcherId) : Option QueuedSystem := do
  let state ← q.system.dispatchers.get d
  if state.stage = .claimed then
    some { q with
      notificationJobs := ensure q.notificationJobs state.key state.key
      ensured := q.ensured.put d state.key }
  else none

/-- A refused job may have been put all the same. -/
def finishDispatch (q : QueuedSystem) (d : DispatcherId) (accepted : Bool) :
    Option QueuedSystem :=
  if accepted && (q.ensured.get d).isNone then none
  else run { q with ensured := q.ensured.remove d } (.finishDispatch d accepted)

def takeNotification (q : QueuedSystem) (key : OutboxKey) (t : TxId) (instanceId : InstanceId)
    (leaseMs : Nat) (now : Time) : Option QueuedSystem := do
  let (outboxId, jobs) ← take q.notificationJobs key
  run { q with notificationJobs := jobs } (.beginClaim t outboxId instanceId leaseMs now)

def findDispatchCandidate (q : QueuedSystem) (d : DispatcherId) (owner : InstanceId)
    (leaseMs : Nat) (now : Time) (id : CheckId) : Option QueuedSystem := do
  let turn ← LinkAlive.findDispatchCandidate q.system.db owner leaseMs now id
  some { q with turns := q.turns.put d turn }

def turnAt (q : QueuedSystem) (d : DispatcherId) (stage : CheckTurnStage) : Option CheckTurn :=
  (q.turns.get d).filter fun turn => turn.stage = stage

def claimForDispatch (q : QueuedSystem) (d : DispatcherId) : Option QueuedSystem := do
  let turn ← q.turnAt d .selected
  run
    { q with
      turns :=
        if turn.claims q.system.db then q.turns.put d { turn with stage := .claimed }
        else q.turns.remove d }
    (.claimForDispatch turn.scheduledCheckId turn.owner turn.now turn.leaseUntil)

def ensureQueueJob (q : QueuedSystem) (d : DispatcherId) : Option QueuedSystem := do
  let turn ← q.turnAt d .claimed
  some { q with
    checkJobs := ensure q.checkJobs turn.scheduledCheckId turn.data
    turns := q.turns.put d { turn with stage := .ensured } }

def markEnqueued (q : QueuedSystem) (d : DispatcherId) : Option QueuedSystem := do
  let turn ← q.turnAt d .ensured
  run { q with turns := q.turns.remove d }
    (.markEnqueued turn.scheduledCheckId turn.owner turn.now turn.leaseUntil)

/-- The job could not be ensured, or its row not be marked. -/
def releaseDispatchClaim (q : QueuedSystem) (d : DispatcherId) : Option QueuedSystem := do
  let turn ← (q.turns.get d).filter fun turn => turn.stage ≠ .selected
  run { q with turns := q.turns.remove d }
    (.releaseDispatchClaim turn.scheduledCheckId turn.owner notEnqueuedReason)

/-- The worker that takes the job reads its check; there may be nothing to do. -/
def takeCheck (q : QueuedSystem) (id : CheckId) (job : JobId) : Option QueuedSystem := do
  let (data, jobs) ← take q.checkJobs id
  let taken := { q with checkJobs := jobs }
  some ((run taken (.loadCheck job data)).getD taken)

def step (q : QueuedSystem) : QueueAction → Option QueuedSystem
  | .core a => if a.queued then none else q.run a
  | .scan d owner leaseMs now key => q.scan d owner leaseMs now key
  | .ensureNotificationJob d => q.ensureNotificationJob d
  | .finishDispatch d accepted => q.finishDispatch d accepted
  | .takeNotification key t instanceId leaseMs now =>
      q.takeNotification key t instanceId leaseMs now
  | .findDispatchCandidate d owner leaseMs now id => q.findDispatchCandidate d owner leaseMs now id
  | .claimForDispatch d => q.claimForDispatch d
  | .ensureQueueJob d => q.ensureQueueJob d
  | .markEnqueued d => q.markEnqueued d
  | .releaseDispatchClaim d => q.releaseDispatchClaim d
  | .takeCheck id job => q.takeCheck id job
  | .notificationJob key event => do
      let jobs ← happen q.notificationJobs key event
      some { q with notificationJobs := jobs }
  | .checkJob id event => do
      let jobs ← happen q.checkJobs id event
      some { q with checkJobs := jobs }

abbrev Reachable (q : QueuedSystem) : Prop := Transition.Reachable step initial q

variable {q after : QueuedSystem} {a : QueueAction}

theorem run_eq_some {label : Action} :
    q.run label = some after ↔
      ∃ system, LinkAlive.step q.system label = some system ∧
        after = { q with system := system } := by
  constructor
  · intro taken
    obtain ⟨system, stepped, same⟩ := Option.bind_eq_some_iff.1 taken
    exact ⟨system, stepped, (Option.some.inj same).symm⟩
  · rintro ⟨system, stepped, rfl⟩
    simp [run, stepped]

def offersCheck (q : QueuedSystem) (id : CheckId) (data : CheckJobData) : Prop :=
  ∃ d turn, q.turns.get d = some turn ∧ id = turn.scheduledCheckId ∧ data = turn.data

structure Moves (q after : QueuedSystem) : Prop where
  system : after.system = q.system ∨ ∃ a, LinkAlive.step q.system a = some after.system
  checkJobs : Changed q.offersCheck q.checkJobs after.checkJobs
  notificationJobs : Changed (fun key outboxId => outboxId = key) q.notificationJobs
    after.notificationJobs
  turns : ∀ d turn, after.turns.get d = some turn →
    (∃ before, q.turns.get d = some before ∧ turn.data = before.data) ∨
      turn.data.Current q.system.db

theorem turn_at_some {d : DispatcherId} {stage : CheckTurnStage} {turn : CheckTurn}
    (found : q.turnAt d stage = some turn) : q.turns.get d = some turn ∧ turn.stage = stage := by
  obtain ⟨stored, holds⟩ := Option.filter_eq_some_iff.1 found
  exact ⟨stored, of_decide_eq_true holds⟩

theorem run_moves {label : Action} {changed : QueuedSystem} (taken : changed.run label = some after)
    (system : changed.system = q.system)
    (checkJobs : Changed q.offersCheck q.checkJobs changed.checkJobs)
    (notificationJobs : Changed (fun key outboxId => outboxId = key) q.notificationJobs
      changed.notificationJobs)
    (turns : ∀ d turn, changed.turns.get d = some turn →
      ∃ before, q.turns.get d = some before ∧ turn.data = before.data) : Moves q after := by
  obtain ⟨next, stepped, rfl⟩ := run_eq_some.1 taken
  rw [system] at stepped
  exact ⟨Or.inr ⟨label, stepped⟩, checkJobs, notificationJobs,
    fun d turn stored => Or.inl (turns d turn stored)⟩

section Turns

variable {turns : Table DispatcherId CheckTurn} {d other : DispatcherId} {turn stored : CheckTurn}

theorem turn_removed (kept : (turns.remove d).get other = some stored) :
    ∃ before, turns.get other = some before ∧ stored.data = before.data := by
  rw [Table.get_remove] at kept
  split at kept
  · cases kept
  · exact ⟨stored, kept, rfl⟩

theorem turn_moved (found : turns.get d = some turn) {stage : CheckTurnStage}
    (kept : (turns.put d { turn with stage := stage }).get other = some stored) :
    ∃ before, turns.get other = some before ∧ stored.data = before.data := by
  rw [Table.get_put] at kept
  split at kept
  · rename_i same
    cases kept
    exact ⟨turn, by rw [same, found], rfl⟩
  · exact ⟨stored, kept, rfl⟩

end Turns

theorem step_moves (taken : q.step a = some after) : Moves q after := by
  have same : ∀ d turn, q.turns.get d = some turn →
      ∃ before, q.turns.get d = some before ∧ turn.data = before.data :=
    fun _ turn stored => ⟨turn, stored, rfl⟩
  cases a with
  | core label =>
      simp only [step] at taken
      split at taken
      · cases taken
      · exact run_moves taken rfl .kept .kept same
  | scan d owner leaseMs now key =>
      exact run_moves taken rfl .kept .kept same
  | ensureNotificationJob d =>
      obtain ⟨state, -, rest⟩ := Option.bind_eq_some_iff.1 taken
      split at rest
      · cases rest
        exact ⟨Or.inl rfl, .kept, .ensured _ _ rfl, fun d turn stored =>
          Or.inl (same d turn stored)⟩
      · cases rest
  | finishDispatch d accepted =>
      simp only [step, finishDispatch] at taken
      split at taken
      · cases taken
      · exact run_moves taken rfl .kept .kept same
  | takeNotification key t instanceId leaseMs now =>
      obtain ⟨⟨outboxId, jobs⟩, took, rest⟩ := Option.bind_eq_some_iff.1 taken
      exact run_moves rest rfl .kept (.taken key outboxId took) same
  | findDispatchCandidate d owner leaseMs now id =>
      obtain ⟨turn, selected, rest⟩ := Option.bind_eq_some_iff.1 taken
      cases rest
      refine ⟨Or.inl rfl, .kept, .kept, ?_⟩
      intro other stored found
      dsimp only at found
      rw [Table.get_put] at found
      split at found
      · cases found
        obtain ⟨check, present, rest⟩ := Option.bind_eq_some_iff.1 selected
        split at rest
        · cases rest
          exact Or.inr ⟨check, present, rfl⟩
        · cases rest
      · exact Or.inl ⟨stored, found, rfl⟩
  | claimForDispatch d =>
      obtain ⟨turn, atStage, rest⟩ := Option.bind_eq_some_iff.1 taken
      have found := (turn_at_some atStage).1
      refine run_moves rest rfl .kept .kept ?_
      intro other stored kept
      dsimp only at kept
      split at kept
      · exact turn_moved found kept
      · exact turn_removed kept
  | ensureQueueJob d =>
      obtain ⟨turn, atStage, rest⟩ := Option.bind_eq_some_iff.1 taken
      have found := (turn_at_some atStage).1
      cases rest
      refine ⟨Or.inl rfl, .ensured _ _ ⟨d, turn, found, rfl, rfl⟩, .kept, ?_⟩
      intro other stored kept
      exact Or.inl (turn_moved found kept)
  | markEnqueued d =>
      obtain ⟨turn, -, rest⟩ := Option.bind_eq_some_iff.1 taken
      refine run_moves rest rfl .kept .kept ?_
      intro other stored kept
      exact turn_removed kept
  | releaseDispatchClaim d =>
      obtain ⟨turn, -, rest⟩ := Option.bind_eq_some_iff.1 taken
      refine run_moves rest rfl .kept .kept ?_
      intro other stored kept
      exact turn_removed kept
  | takeCheck id job =>
      obtain ⟨⟨data, jobs⟩, took, rest⟩ := Option.bind_eq_some_iff.1 taken
      dsimp only at rest
      cases loaded : run { q with checkJobs := jobs } (.loadCheck job data) with
      | none =>
          rw [loaded] at rest
          cases rest
          exact ⟨Or.inl rfl, .taken id data took, .kept, fun d turn stored =>
            Or.inl (same d turn stored)⟩
      | some next =>
          rw [loaded] at rest
          cases rest
          exact run_moves loaded rfl (.taken id data took) .kept same
  | notificationJob key event =>
      obtain ⟨jobs, happened, rest⟩ := Option.bind_eq_some_iff.1 taken
      cases rest
      exact ⟨Or.inl rfl, .kept, .happened key event happened, fun d turn stored =>
        Or.inl (same d turn stored)⟩
  | checkJob id event =>
      obtain ⟨jobs, happened, rest⟩ := Option.bind_eq_some_iff.1 taken
      cases rest
      exact ⟨Or.inl rfl, .happened id event happened, .kept, fun d turn stored =>
        Or.inl (same d turn stored)⟩

theorem system_reachable (reachable : Reachable q) : LinkAlive.Reachable q.system := by
  apply reachable.invariant (fun state => LinkAlive.Reachable state.system)
  · exact ⟨[], .start⟩
  · intro state label after holds taken
    rcases (step_moves taken).system with same | ⟨a, stepped⟩
    · rw [same]
      exact holds
    · exact holds.step_closed stepped

structure QueueInvariant (q : QueuedSystem) : Prop where
  checkJobs : Carry q.checkJobs fun id data =>
    data.scheduledCheckId = id ∧ data.Current q.system.db
  notificationJobs : Carry q.notificationJobs fun key outboxId => outboxId = key
  turns : ∀ d turn, q.turns.get d = some turn → turn.data.Current q.system.db

theorem current_kept (reachable : LinkAlive.Reachable q.system)
    (system : after.system = q.system ∨ ∃ a, LinkAlive.step q.system a = some after.system)
    {data : CheckJobData} (current : data.Current q.system.db) : data.Current after.system.db := by
  rcases system with same | ⟨a, stepped⟩
  · rw [same]
    exact current
  · obtain ⟨row, found, version⟩ := current
    obtain ⟨next, stored, move⟩ :=
      step_check_move (ledger_invariant_reachable reachable) (step_cases stepped) found
    exact ⟨next, stored, move.slot.2.2.trans version⟩

theorem queue_invariant_reachable (reachable : Reachable q) : QueueInvariant q := by
  apply reachable.invariant_with (fun state => LinkAlive.Reachable state.system) QueueInvariant
  · exact fun state holds => system_reachable holds
  · constructor
    · intro id job found
      cases found
    · intro key job found
      cases found
    · intro d turn found
      cases found
  · intro state a after known invariant taken
    have moves := step_moves taken
    have kept : ∀ data : CheckJobData, data.Current state.system.db → data.Current after.system.db :=
      fun data current => current_kept known moves.system current
    constructor
    · have before := invariant.checkJobs.changed moves.checkJobs (by
        rintro id data ⟨d, turn, found, rfl, rfl⟩
        exact ⟨rfl, invariant.turns d turn found⟩)
      intro id job found
      obtain ⟨own, current⟩ := before id job found
      exact ⟨own, kept job.data current⟩
    · exact invariant.notificationJobs.changed moves.notificationJobs fun _ _ offer => offer
    · intro d turn found
      apply kept
      rcases moves.turns d turn found with ⟨before, stored, same⟩ | current
      · rw [same]
        exact invariant.turns d before stored
      · exact current

end QueuedSystem

namespace QueuedScript

def startCheck (id : CheckId) (now : Time) : List QueueAction :=
  [.core (.beginCreateDue 0 now [(1, id)]), .core (.commit 0),
    .findDispatchCandidate 0 3 300000 now id, .claimForDispatch 0, .ensureQueueJob 0,
    .markEnqueued 0, .takeCheck id id, .core (.loadMonitor id),
    .core (.claimCheck id Script.processorConfig.instanceId Script.processorConfig.leaseMs now)]

def core (actions : List Action) : List QueueAction := actions.map .core

def failingCheck (id : CheckId) (now : Time) : List QueueAction :=
  startCheck id now ++
    core (Script.beginResult 0 id .targetFailure now ++ [.commit 0]) ++ [.checkJob id .completed]

def recoveringCheck (id : CheckId) (now : Time) : List QueueAction :=
  startCheck id now ++ core (Script.beginResult 0 id .success now ++
    [.resolve 0, .resolve 0, .resolve 0, .commit 0]) ++ [.checkJob id .completed]

def claimDown (key : OutboxKey) (now : Time) : List QueueAction :=
  [.scan 0 4 60000 now key, .core (.dispatchCandidate 0), .ensureNotificationJob 0,
    .finishDispatch 0 true,
    .takeNotification key 0 Script.processorConfig.instanceId 60000 now, .core (.commit 0)]

end QueuedScript

theorem queued_reachable_of_script (actions : List QueueAction) (test : QueuedSystem → Bool)
    (passed : Transition.replaySatisfies QueuedSystem.step QueuedSystem.initial actions
      fun _ q => test q) : ∃ q : QueuedSystem, q.Reachable ∧ test q = true := by
  obtain ⟨visited, last, run, tested⟩ := Transition.run_of_replay_satisfies passed
  exact ⟨last, ⟨visited, run⟩, tested⟩

end LinkAlive
