import LinkAlive.Foundation.PollLoop
import LinkAlive.Foundation.Table
import LinkAlive.Foundation.Transition
import LinkAlive.Worker.Health

/-!
# The process of a worker

`apps/worker/src/index.ts`: the start, the two loops, the jobs of the queues and the shutdown,
with the answers of the health server. Everything that the process waits for is an action that
may come in any order.

BullMQ is not part of the source. What is assumed of its `Worker.close`, which `shutdown` calls,
is in two guards: `takesJobs`, as a closed queue hands out no more jobs, and `settled`, as its
promise is settled when no job runs any more.
-/

namespace LinkAlive.Runtime

open Relational PollLoop

set_option autoImplicit false

abbrev QueueJob := Nat

/-- How far `shutdown` has come. -/
inductive Shutdown
  | none
  /-- It waits for the health server. -/
  | server
  /-- It waits for the network poll, the jobs and the queues. -/
  | queues
  /-- The connections have been closed. -/
  | released
deriving DecidableEq, Repr

structure WorkerProcess where
  health : WorkerHealth
  /-- `start` waits for the health server. -/
  starting : Bool
  stopped : Bool
  outbox : Loop
  network : Loop
  /-- The jobs that run. -/
  checks : List QueueJob
  notifications : List QueueJob
  shutdown : Shutdown
  inspections : Table Nat Inspection
  /-- How the check jobs ended, the last one first; `true` is a success. -/
  finished : List Bool
  /-- When the outbox has been polled successfully. -/
  polls : List Time

inductive ProcessAction
  | listening (listens : Bool)
  /-- SIGTERM or SIGINT. -/
  | signal
  | checkStarted (job : QueueJob) (now : Time)
  | checkFinished (job : QueueJob) (succeeded : Bool) (now : Time)
  | notificationStarted (job : QueueJob)
  | notificationFinished (job : QueueJob)
  | outboxFinished (dispatched : Bool) (now : Time)
  | outboxFires (timer : Nat)
  | networkFinished
  | networkFires (timer : Nat)
  | serverClosed
  | queuesClosed
  | inspect (request : Nat) (now : Time)
  | answer (request : Nat) (probes : Probes)

namespace WorkerProcess

def launched (health : WorkerHealth) : WorkerProcess where
  health := health
  starting := true
  stopped := false
  outbox := .idle
  network := .idle
  checks := []
  notifications := []
  shutdown := .none
  inspections := ∅
  finished := []
  polls := []

def initial (limits : HealthLimits) : Except String WorkerProcess :=
  (newWorkerHealth limits).map launched

variable (p : WorkerProcess)

/-- `shutdown` up to its first `await`. -/
def beginShutdown : WorkerProcess :=
  if p.stopped then p
  else { p with
    stopped := true
    health := p.health.markStopping
    outbox := p.outbox.clear
    network := p.network.clear
    shutdown := .server }

/-- The rest of `start`. -/
def started (listens : Bool) : WorkerProcess :=
  if listens then { p with
    starting := false
    health := p.health.markRunning
    outbox := p.outbox.poll p.stopped
    network := p.network.poll p.stopped }
  else { p with starting := false }.beginShutdown

/-- The queues are not closed yet; assumed of BullMQ, that only such a queue starts a job. -/
def takesJobs : Bool := p.shutdown = .none || p.shutdown = .server

def checkFinished (job : QueueJob) (succeeded : Bool) (now : Time) : WorkerProcess :=
  { p with
    health := if succeeded then p.health.markCheckSucceeded now else p.health.markCheckFailed now
    checks := p.checks.erase job
    finished := succeeded :: p.finished }

/-- The end of `dispatchOutbox`. -/
def outboxFinished (dispatched : Bool) (now : Time) : WorkerProcess :=
  let polled := { p with outbox := p.outbox.finish p.stopped }
  if dispatched then { polled with
    health := p.health.markOutboxPollSucceeded now
    polls := now :: p.polls }
  else polled

/-- Nothing that `shutdown` waits for is left; it does not wait for a poll of the outbox. For the
jobs this is what BullMQ's `close` is assumed to wait for. -/
def settled : Bool :=
  p.checks.isEmpty && p.notifications.isEmpty && p.network.running = 0

/-- A process that does not run answers at once. -/
def inspect (request : Nat) (now : Time) : Option WorkerProcess :=
  if p.health.processStatus ≠ .running then some p
  else if (p.inspections.get request).isNone then
    some { p with inspections := p.inspections.put request (p.health.inspection now) }
  else none

end WorkerProcess

def processStep (p : WorkerProcess) : ProcessAction → Option WorkerProcess
  | .listening listens => if p.starting then some (p.started listens) else none
  | .signal => some p.beginShutdown
  | .checkStarted job now =>
      if p.takesJobs && job ∉ p.checks then
        some { p with health := p.health.markCheckStarted now, checks := job :: p.checks }
      else none
  | .checkFinished job succeeded now =>
      if job ∈ p.checks then some (p.checkFinished job succeeded now) else none
  | .notificationStarted job =>
      if p.takesJobs && job ∉ p.notifications then
        some { p with notifications := job :: p.notifications }
      else none
  | .notificationFinished job =>
      if job ∈ p.notifications then some { p with notifications := p.notifications.erase job }
      else none
  | .outboxFinished dispatched now =>
      if 0 < p.outbox.running then some (p.outboxFinished dispatched now) else none
  | .outboxFires timer =>
      if timer ∈ p.outbox.armed then some { p with outbox := p.outbox.fire timer p.stopped }
      else none
  | .networkFinished =>
      if 0 < p.network.running then some { p with network := p.network.finish p.stopped } else none
  | .networkFires timer =>
      if timer ∈ p.network.armed then some { p with network := p.network.fire timer p.stopped }
      else none
  | .serverClosed =>
      if p.shutdown = .server then some { p with shutdown := .queues } else none
  | .queuesClosed =>
      if p.shutdown = .queues && p.settled then some { p with shutdown := .released } else none
  | .inspect request now => p.inspect request now
  | .answer request _ =>
      if (p.inspections.get request).isSome then
        some { p with inspections := p.inspections.remove request }
      else none

def Running (limits : HealthLimits) (p : WorkerProcess) : Prop :=
  ∃ first, WorkerProcess.initial limits = .ok first ∧ Transition.Reachable processStep first p

/-- What a loop of the process is like, whatever it polls. -/
structure LoopFits (starting stopped : Bool) (status : ProcessStatus) (l : Loop) : Prop where
  single : l.Single
  early : starting = true → l.turns = 0
  quiet : stopped = true → l.armed = []
  alive : status = .running → l.turns = 1

structure ProcessInvariant (limits : HealthLimits) (p : WorkerProcess) : Prop where
  kept : p.health.limits = limits
  outbox : LoopFits p.starting p.stopped p.health.processStatus p.outbox
  network : LoopFits p.starting p.stopped p.health.processStatus p.network
  status : p.health.processStatus = .stopping ↔ p.stopped = true
  jobs : p.health.activeCheckJobs = p.checks.length
  streak : p.health.consecutiveCheckProcessorFailures ≤
    (p.finished.takeWhile fun succeeded => !succeeded).length
  closing : p.shutdown = .none ↔ p.stopped = false
  released : p.shutdown = .released → p.settled = true
  polled : ∀ time, p.health.lastSuccessfulOutboxPollAt = some time → time ∈ p.polls
  inspected : ∀ request inspection, p.inspections.get request = some inspection →
    inspection.outboxPoll = .fresh →
      ∃ polledAt ∈ p.polls, inspection.inspectedAt - polledAt ≤ limits.outboxStaleAfterMs

section Loops

variable {starting stopped : Bool} {status : ProcessStatus} {l : Loop} {timer : Nat}

theorem LoopFits.finish (fits : LoopFits starting stopped status l) (running : 0 < l.running)
    (halts : status = .stopping ↔ stopped = true) :
    LoopFits starting stopped status (l.finish stopped) := by
  refine
    { single := Loop.finish_single fits.single running stopped
      early := ?_
      quiet := ?_
      alive := ?_ }
  · intro early
    have none := fits.early early
    rw [Loop.turns] at none
    omega
  · intro halted
    rw [halted]
    exact fits.single.unarmed running
  · intro goes
    cases stopped with
    | true => rw [halts.2 rfl] at goes; cases goes
    | false => exact Loop.finish_turns fits.single running

theorem LoopFits.fire (fits : LoopFits starting stopped status l) (armed : timer ∈ l.armed) :
    LoopFits starting stopped status (l.fire timer stopped) := by
  cases stopped with
  | true =>
      rw [fits.quiet rfl] at armed
      cases armed
  | false =>
      refine
        { single := Loop.fire_single fits.single armed false
          early := ?_
          quiet := fun halted => by cases halted
          alive := fun _ => Loop.fire_turns fits.single armed }
      intro early
      have none := fits.early early
      have some_ := List.length_pos_of_mem armed
      rw [Loop.turns] at none
      omega

theorem LoopFits.clear (fits : LoopFits starting stopped status l) :
    LoopFits starting true .stopping l.clear := by
  have unarmed := Loop.clear_unarmed fits.single
  refine
    { single := Loop.clear_single fits.single
      early := ?_
      quiet := fun _ => unarmed
      alive := fun status => by cases status }
  intro early
  have none := fits.early early
  rw [Loop.turns] at none ⊢
  rw [unarmed, Loop.clear_running, List.length_nil]
  omega

theorem LoopFits.answered (fits : LoopFits starting stopped status l) :
    LoopFits false stopped status l :=
  { fits with early := fun early => by cases early }

theorem LoopFits.poll (fits : LoopFits true false status l) :
    LoopFits false false .running (l.poll false) where
  single := Loop.poll_single (fits.early rfl) false
  early := fun early => by cases early
  quiet := fun halted => by cases halted
  alive := fun _ => Loop.poll_turns (fits.early rfl)

end Loops

section Invariant

variable {limits : HealthLimits} {p after : WorkerProcess}

theorem initial_invariant {first : WorkerProcess}
    (created : WorkerProcess.initial limits = .ok first) : ProcessInvariant limits first := by
  cases health : newWorkerHealth limits with
  | error message =>
      rw [WorkerProcess.initial, health] at created
      cases created
  | ok fresh =>
      rw [WorkerProcess.initial, health] at created
      cases created
      rw [newWorkerHealth] at health
      split at health
      · cases health
      split at health
      · cases health
      split at health
      · cases health
      cases health
      have idle : LoopFits true false .starting .idle :=
        { single := Loop.idle_single
          early := fun _ => rfl
          quiet := fun stopped => by cases stopped
          alive := fun status => by cases status }
      exact
        { kept := rfl
          outbox := idle
          network := idle
          status := by constructor <;> exact fun absurd => by cases absurd
          jobs := rfl
          streak := Nat.le_refl _
          closing := by constructor <;> exact fun _ => rfl
          released := fun released => by cases released
          polled := fun _ polled => by cases polled
          inspected := fun _ _ found => by cases found }

theorem ProcessInvariant.unreleased (invariant : ProcessInvariant limits p) (goes : p.stopped = false) :
    p.shutdown ≠ .released := by
  intro released
  rw [invariant.closing.2 goes] at released
  cases released

/-- What `shutdown` has waited for. -/
theorem ProcessInvariant.drained (invariant : ProcessInvariant limits p)
    (released : p.shutdown = .released) :
    p.checks = [] ∧ p.notifications = [] ∧ p.network.running = 0 := by
  have settled := invariant.released released
  rw [WorkerProcess.settled, Bool.and_eq_true, Bool.and_eq_true, List.isEmpty_iff,
    List.isEmpty_iff, decide_eq_true_iff] at settled
  obtain ⟨⟨checks, notifications⟩, network⟩ := settled
  exact ⟨checks, notifications, network⟩

theorem begin_shutdown_invariant (invariant : ProcessInvariant limits p) :
    ProcessInvariant limits p.beginShutdown := by
  rw [WorkerProcess.beginShutdown]
  split
  case isTrue => exact invariant
  case isFalse running =>
    exact { invariant with
      outbox := invariant.outbox.clear
      network := invariant.network.clear
      status := by constructor <;> exact fun _ => rfl
      closing := by constructor <;> exact fun absurd => by cases absurd
      released := fun released => by cases released }

/-- `start` has got its answer; a process that has been stopped meanwhile polls nothing. -/
theorem started_invariant (invariant : ProcessInvariant limits p) (starting : p.starting = true)
    (listens : Bool) : ProcessInvariant limits (p.started listens) := by
  have answered : ProcessInvariant limits { p with starting := false } :=
    { invariant with
      outbox := invariant.outbox.answered
      network := invariant.network.answered }
  cases listens with
  | false => exact begin_shutdown_invariant answered
  | true =>
      change ProcessInvariant limits { p with
        starting := false
        health := p.health.markRunning
        outbox := p.outbox.poll p.stopped
        network := p.network.poll p.stopped }
      obtain stopped | goes := Bool.eq_false_or_eq_true p.stopped
      · have same : p.health.markRunning = p.health := by
          rw [WorkerHealth.markRunning, invariant.status.2 stopped]
          rfl
        have resting : ∀ l : Loop, l.poll p.stopped = l := by
          intro l
          rw [stopped, Loop.poll_stopped]
        rw [same, resting, resting]
        exact answered
      · have outbox := invariant.outbox
        have network := invariant.network
        rw [starting, goes] at outbox network
        have status : p.health.processStatus ≠ .stopping := by
          intro stopping
          rw [invariant.status.1 stopping] at goes
          cases goes
        rw [WorkerHealth.markRunning, if_pos status]
        exact { invariant with
          outbox := by
            change LoopFits false p.stopped .running (p.outbox.poll p.stopped)
            rw [goes]
            exact outbox.poll
          network := by
            change LoopFits false p.stopped .running (p.network.poll p.stopped)
            rw [goes]
            exact network.poll
          status := by
            change ProcessStatus.running = .stopping ↔ p.stopped = true
            rw [goes]
            constructor <;> exact fun absurd => by cases absurd
          released := fun released => absurd released (invariant.unreleased goes) }

theorem check_started_invariant (invariant : ProcessInvariant limits p) (job : QueueJob) (now : Time)
    (takes : p.takesJobs = true) :
    ProcessInvariant limits { p with
      health := p.health.markCheckStarted now
      checks := job :: p.checks } := by
  exact { invariant with
    jobs := by
      change p.health.activeCheckJobs + 1 = (job :: p.checks).length
      rw [List.length_cons, invariant.jobs]
    streak := by
      change (if p.health.forgets now then 0 else p.health.consecutiveCheckProcessorFailures) ≤ _
      split
      · exact Nat.zero_le _
      · exact invariant.streak
    released := by
      intro released
      change p.shutdown = .released at released
      rw [WorkerProcess.takesJobs, released] at takes
      cases takes }

theorem check_finished_invariant (invariant : ProcessInvariant limits p) (job : QueueJob)
    (succeeded : Bool) (now : Time) (runs : job ∈ p.checks) :
    ProcessInvariant limits (p.checkFinished job succeeded now) := by
  have shorter : p.health.activeCheckJobs - 1 = (p.checks.erase job).length := by
    rw [List.length_erase_of_mem runs, invariant.jobs]
  have waiting : p.shutdown ≠ .released := by
    intro released
    rw [(invariant.drained released).1] at runs
    cases runs
  rw [WorkerProcess.checkFinished]
  cases succeeded with
  | true =>
      rw [if_pos rfl]
      exact { invariant with
        jobs := shorter
        streak := Nat.zero_le _
        released := fun released => absurd released waiting }
  | false =>
      rw [if_neg Bool.false_ne_true]
      exact { invariant with
        jobs := shorter
        streak := by
          change p.health.consecutiveCheckProcessorFailures + 1 ≤
            ((false :: p.finished).takeWhile fun succeeded => !succeeded).length
          rw [List.takeWhile_cons_of_pos rfl, List.length_cons]
          exact Nat.succ_le_succ invariant.streak
        released := fun released => absurd released waiting }

theorem outbox_finished_invariant (invariant : ProcessInvariant limits p) (dispatched : Bool)
    (now : Time) (running : 0 < p.outbox.running) :
    ProcessInvariant limits (p.outboxFinished dispatched now) := by
  have loop := invariant.outbox.finish running invariant.status
  rw [WorkerProcess.outboxFinished]
  cases dispatched with
  | false =>
      rw [if_neg Bool.false_ne_true]
      exact { invariant with outbox := loop }
  | true =>
      rw [if_pos rfl]
      exact { invariant with
        outbox := loop
        polled := by
          intro time polled
          change some now = some time at polled
          rw [Option.some_inj] at polled
          rw [← polled]
          exact List.mem_cons_self
        inspected := by
          intro request inspection found fresh
          obtain ⟨polledAt, member, recent⟩ := invariant.inspected request inspection found fresh
          exact ⟨polledAt, List.mem_cons_of_mem _ member, recent⟩ }

/-- A poll that is fresh when an inspection begins has been made. -/
theorem inspect_invariant (invariant : ProcessInvariant limits p) {request : Nat} {now : Time}
    (taken : p.inspect request now = some after) : ProcessInvariant limits after := by
  rw [WorkerProcess.inspect] at taken
  split at taken
  · cases taken
    exact invariant
  split at taken
  · cases taken
    exact { invariant with
      inspected := by
        intro asked inspection found fresh
        rw [Table.get_put] at found
        split at found
        · rw [Option.some_inj] at found
          rw [← found] at fresh ⊢
          change p.health.outboxPoll now = .fresh at fresh
          change ∃ polledAt ∈ p.polls, now - polledAt ≤ limits.outboxStaleAfterMs
          rw [WorkerHealth.outboxPoll] at fresh
          split at fresh
          · cases fresh
          case h_2 polledAt polled =>
            split at fresh
            case isTrue recent =>
              rw [invariant.kept] at recent
              exact ⟨polledAt, invariant.polled polledAt polled, recent⟩
            case isFalse => cases fresh
        · exact invariant.inspected asked inspection found fresh }
  · cases taken

theorem takes_jobs_unreleased (takes : p.takesJobs = true) : p.shutdown ≠ .released := by
  intro released
  rw [WorkerProcess.takesJobs, released] at takes
  cases takes

theorem process_step_invariant {action : ProcessAction} (invariant : ProcessInvariant limits p)
    (stepped : processStep p action = some after) : ProcessInvariant limits after := by
  cases action with
  | listening listens =>
      rw [processStep, Option.ite_none_right_eq_some, Option.some_inj] at stepped
      rw [← stepped.2]
      exact started_invariant invariant stepped.1 listens
  | signal =>
      rw [processStep, Option.some_inj] at stepped
      rw [← stepped]
      exact begin_shutdown_invariant invariant
  | checkStarted job now =>
      rw [processStep, Option.ite_none_right_eq_some, Option.some_inj, Bool.and_eq_true] at stepped
      rw [← stepped.2]
      exact check_started_invariant invariant job now stepped.1.1
  | checkFinished job succeeded now =>
      rw [processStep, Option.ite_none_right_eq_some, Option.some_inj] at stepped
      rw [← stepped.2]
      exact check_finished_invariant invariant job succeeded now stepped.1
  | notificationStarted job =>
      rw [processStep, Option.ite_none_right_eq_some, Option.some_inj, Bool.and_eq_true] at stepped
      have waiting := takes_jobs_unreleased stepped.1.1
      rw [← stepped.2]
      exact { invariant with released := fun released => absurd released waiting }
  | notificationFinished job =>
      rw [processStep, Option.ite_none_right_eq_some, Option.some_inj] at stepped
      obtain ⟨runs, stepped⟩ := stepped
      rw [← stepped]
      exact { invariant with
        released := by
          intro released
          rw [(invariant.drained released).2.1] at runs
          cases runs }
  | outboxFinished dispatched now =>
      rw [processStep, Option.ite_none_right_eq_some, Option.some_inj] at stepped
      rw [← stepped.2]
      exact outbox_finished_invariant invariant dispatched now stepped.1
  | outboxFires timer =>
      rw [processStep, Option.ite_none_right_eq_some, Option.some_inj] at stepped
      rw [← stepped.2]
      exact { invariant with outbox := invariant.outbox.fire stepped.1 }
  | networkFinished =>
      rw [processStep, Option.ite_none_right_eq_some, Option.some_inj] at stepped
      obtain ⟨running, stepped⟩ := stepped
      rw [← stepped]
      exact { invariant with
        network := invariant.network.finish running invariant.status
        released := by
          intro released
          rw [(invariant.drained released).2.2] at running
          cases running }
  | networkFires timer =>
      rw [processStep, Option.ite_none_right_eq_some, Option.some_inj] at stepped
      obtain ⟨armed, stepped⟩ := stepped
      rw [← stepped]
      exact { invariant with
        network := invariant.network.fire armed
        released := by
          intro released
          obtain stopped | goes := Bool.eq_false_or_eq_true p.stopped
          · rw [invariant.network.quiet stopped] at armed
            cases armed
          · exact absurd released (invariant.unreleased goes) }
  | serverClosed =>
      rw [processStep, Option.ite_none_right_eq_some, Option.some_inj] at stepped
      obtain ⟨server, stepped⟩ := stepped
      rw [← stepped]
      exact { invariant with
        closing := by
          have stopped : p.stopped ≠ false := by
            intro goes
            rw [invariant.closing.2 goes] at server
            cases server
          constructor
          · exact fun absurd => by cases absurd
          · exact fun goes => absurd goes stopped
        released := fun released => by cases released }
  | queuesClosed =>
      rw [processStep, Option.ite_none_right_eq_some, Option.some_inj, Bool.and_eq_true,
        decide_eq_true_iff] at stepped
      obtain ⟨⟨queues, settled⟩, stepped⟩ := stepped
      rw [← stepped]
      exact { invariant with
        closing := by
          have stopped : p.stopped ≠ false := by
            intro goes
            rw [invariant.closing.2 goes] at queues
            cases queues
          constructor
          · exact fun absurd => by cases absurd
          · exact fun goes => absurd goes stopped
        released := fun _ => settled }
  | inspect request now => exact inspect_invariant invariant stepped
  | answer request probes =>
      rw [processStep, Option.ite_none_right_eq_some, Option.some_inj] at stepped
      rw [← stepped.2]
      exact { invariant with
        inspected := by
          intro asked inspection found fresh
          rw [Table.get_remove] at found
          split at found
          · cases found
          · exact invariant.inspected asked inspection found fresh }

theorem running_invariant (running : Running limits p) :
    ProcessInvariant limits p := by
  obtain ⟨first, created, reachable⟩ := running
  exact reachable.invariant (ProcessInvariant limits) (initial_invariant created)
    fun _ _ _ invariant stepped => process_step_invariant invariant stepped

theorem halted_step {action : ProcessAction} (invariant : ProcessInvariant limits p)
    (stopped : p.stopped = true) (stepped : processStep p action = some after) :
    after.stopped = true ∧ after.outbox.running ≤ p.outbox.running ∧
      after.network.running ≤ p.network.running := by
  have same : after.stopped = p.stopped → after.outbox = p.outbox → after.network = p.network →
      after.stopped = true ∧ after.outbox.running ≤ p.outbox.running ∧
        after.network.running ≤ p.network.running := by
    intro halts outbox network
    rw [halts, outbox, network]
    exact ⟨stopped, Nat.le_refl _, Nat.le_refl _⟩
  have fewer : ∀ l : Loop, (l.finish p.stopped).running ≤ l.running := by
    intro l
    rw [stopped]
    exact Nat.sub_le l.running 1
  cases action with
  | listening listens =>
      rw [processStep, Option.ite_none_right_eq_some, Option.some_inj] at stepped
      obtain ⟨-, rfl⟩ := stepped
      have resting : ∀ l : Loop, l.poll p.stopped = l := by
        intro l
        rw [stopped, Loop.poll_stopped]
      cases listens with
      | true => exact same rfl (resting p.outbox) (resting p.network)
      | false =>
          have shape : p.started false = { p with starting := false } := by
            change WorkerProcess.beginShutdown { p with starting := false } = _
            rw [WorkerProcess.beginShutdown, if_pos stopped]
          rw [shape] at same ⊢
          exact same rfl rfl rfl
  | signal =>
      rw [processStep, Option.some_inj, WorkerProcess.beginShutdown, if_pos stopped] at stepped
      rw [← stepped] at same ⊢
      exact same rfl rfl rfl
  | outboxFinished dispatched now =>
      rw [processStep, Option.ite_none_right_eq_some, Option.some_inj] at stepped
      obtain ⟨-, rfl⟩ := stepped
      cases dispatched <;> exact ⟨stopped, fewer p.outbox, Nat.le_refl _⟩
  | outboxFires timer =>
      rw [processStep, Option.ite_none_right_eq_some, invariant.outbox.quiet stopped] at stepped
      cases stepped.1
  | networkFinished =>
      rw [processStep, Option.ite_none_right_eq_some, Option.some_inj] at stepped
      obtain ⟨-, rfl⟩ := stepped
      exact ⟨stopped, Nat.le_refl _, fewer p.network⟩
  | networkFires timer =>
      rw [processStep, Option.ite_none_right_eq_some, invariant.network.quiet stopped] at stepped
      cases stepped.1
  | inspect request now =>
      rw [processStep, WorkerProcess.inspect, if_pos] at stepped
      · cases stepped
        exact same rfl rfl rfl
      · rw [invariant.status.2 stopped]
        decide
  | checkStarted _ _ | checkFinished _ _ _ | notificationStarted _ | notificationFinished _
  | serverClosed | queuesClosed | answer _ _ =>
      rw [processStep, Option.ite_none_right_eq_some, Option.some_inj] at stepped
      obtain ⟨-, rfl⟩ := stepped
      exact same rfl rfl rfl

theorem healthy_answer (invariant : ProcessInvariant limits p) {request : Nat}
    {inspection : Inspection} {probes : Probes}
    (found : p.inspections.get request = some inspection)
    (healthy : (probed p.health inspection probes).healthy = true) :
    p.stopped = false ∧ p.outbox.turns = 1 ∧ p.network.turns = 1 ∧
      (∃ polledAt ∈ p.polls,
        inspection.inspectedAt - polledAt ≤ limits.outboxStaleAfterMs) ∧
      probes.hasStalledCheckWork = false := by
  change (decide (p.health.processStatus = .running) && decide (inspection.outboxPoll = .fresh) &&
    (checkPipeline p.health.limits inspection.checkActivity probes).sound && probes.database &&
      probes.producerRedis && probes.consumerRedis) = true at healthy
  simp only [Bool.and_eq_true, decide_eq_true_iff] at healthy
  obtain ⟨⟨⟨⟨⟨running, fresh⟩, sound⟩, -⟩, -⟩, -⟩ := healthy
  have goes : p.stopped = false := by
    rw [← Bool.not_eq_true, ← invariant.status, running]
    decide
  have free : probes.hasStalledCheckWork = false := by
    rw [← Bool.not_eq_true]
    intro stalled
    rw [checkPipeline, if_pos stalled] at sound
    split at sound <;> cases sound
  exact ⟨goes, invariant.outbox.alive running, invariant.network.alive running,
    invariant.inspected request inspection found fresh, free⟩

end Invariant

/-- What the code promises about its process. -/
structure ProcessSound (limits : HealthLimits) (p : WorkerProcess) : Prop where
  /-- No two polls of the outbox, or of the network, overlap. -/
  once : p.outbox.running ≤ 1 ∧ p.network.running ≤ 1
  jobs : p.health.activeCheckJobs = p.checks.length
  /-- The counter of failures counts the last jobs that ended. -/
  streak : p.health.consecutiveCheckProcessorFailures ≤
    (p.finished.takeWhile fun succeeded => !succeeded).length
  halted : p.stopped = true → ∀ action after, processStep p action = some after →
    after.stopped = true ∧ after.outbox.running ≤ p.outbox.running ∧
      after.network.running ≤ p.network.running
  /-- The connections are closed after the jobs and the network poll have ended. -/
  drained : p.shutdown = .released →
    p.checks = [] ∧ p.notifications = [] ∧ p.network.running = 0
  healthy : ∀ request inspection probes, p.inspections.get request = some inspection →
    (probed p.health inspection probes).healthy = true →
      p.stopped = false ∧ p.outbox.turns = 1 ∧ p.network.turns = 1 ∧
        (∃ polledAt ∈ p.polls,
          inspection.inspectedAt - polledAt ≤ limits.outboxStaleAfterMs) ∧
        probes.hasStalledCheckWork = false

theorem worker_process_sound {limits : HealthLimits} {p : WorkerProcess}
    (running : Running limits p) : ProcessSound limits p := by
  have invariant := running_invariant running
  have outbox := invariant.outbox.single.one
  have network := invariant.network.single.one
  rw [Loop.turns] at outbox network
  exact
    { once := by constructor <;> omega
      jobs := invariant.jobs
      streak := invariant.streak
      halted := fun stopped _ _ stepped => halted_step invariant stopped stepped
      drained := invariant.drained
      healthy := fun _ _ _ found healthy => healthy_answer invariant found healthy }

def sampleLimits : HealthLimits := ⟨outboxPollFreshnessMs 2000, 600000, 3⟩

/-- An inspection during a check and a network poll, after a poll of the outbox. -/
def healthyScript : List ProcessAction :=
  [.listening true, .outboxFinished true 1000, .checkStarted 4 1500, .outboxFires 0,
    .inspect 7 2000]

def sampleProbes : Probes := ⟨true, true, true, true, false⟩

def sampleHealth : WorkerHealth := ⟨sampleLimits, .starting, none, 0, 0, none, none, none⟩

theorem worker_process_sound_sample :
    ∃ p, ProcessSound sampleLimits p ∧
      ∃ inspection, p.inspections.get 7 = some inspection ∧
        (probed p.health inspection sampleProbes).healthy = true := by
  obtain ⟨visited, p, run, tested⟩ := Transition.run_of_replay_satisfies
    (by decide +kernel : Transition.replaySatisfies processStep (.launched sampleHealth)
      healthyScript (fun _ p => (p.inspections.get 7).any fun inspection =>
        (probed p.health inspection sampleProbes).healthy) = true)
  rw [Option.any_eq_true] at tested
  exact ⟨p, worker_process_sound ⟨.launched sampleHealth, rfl, visited, run⟩, tested⟩

end LinkAlive.Runtime
