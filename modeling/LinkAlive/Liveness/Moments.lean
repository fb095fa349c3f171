import LinkAlive.Foundation.Possibility
import LinkAlive.System.Queues

/-!
# What dispatchers and workers can still do

Possible runs start with no request to the API and no round of the scheduler that creates
checks. A worker starts with a job that a dispatcher has put into its queue, and no clock
goes back. Connections may be lost, and a job whose worker is gone is handed out again.
-/

namespace LinkAlive

open Relational Transition

set_option autoImplicit false

/-- The processes that go on, as they are configured. -/
structure Workers where
  processor : CheckProcessorConfig
  notificationLeaseMs : Nat
  outboxOwner : InstanceId
  schedulerOwner : InstanceId
  schedulerLeaseMs : Nat

/-- The clock values that a statement brings. -/
def Action.times : Action → List Time
  | .beginMonitor _ _ _ now _ | .beginChannel _ _ _ now | .beginCreateDue _ now _
  | .claimForDispatch _ _ now _ | .markEnqueued _ _ now _ | .cancelStale _ now
  | .claimCheck _ _ _ now | .beginClaim _ _ _ _ now | .markFailed _ _ now _
  | .scan _ _ _ now _ => [now]
  | .beginPersist _ _ _ result databaseTime => [result.startedAt, result.finishedAt, databaseTime]
  | .beginMarkSent _ _ _ now databaseTime => [now, databaseTime]
  | .createChannel .. | .releaseDispatchClaim .. | .loadCheck .. | .loadMonitor .. | .applyEffect ..
  | .resolve .. | .compareDown .. | .dispatchCandidate .. | .finishDispatch .. | .commit ..
  | .abort .. => []

def QueueAction.times : QueueAction → List Time
  | .core a => a.times
  | .scan _ _ _ now _ | .takeNotification _ _ _ _ now | .findDispatchCandidate _ _ _ now _ => [now]
  | _ => []

namespace Workers

/-- The statements of dispatchers and workers, and the loss of a connection. -/
def permits (w : Workers) (s : System) : Action → Prop
  | .createChannel .. | .beginMonitor .. | .beginChannel .. | .beginCreateDue .. => False
  | .commit t =>
      match s.txs.get t with
      | some (.persist _) | some (.claim _) | some (.markSent _) => True
      | _ => False
  | .claimCheck _ instanceId leaseMs _ =>
      instanceId = w.processor.instanceId ∧ leaseMs = w.processor.leaseMs
  | .beginPersist _ _ config _ _ => config = w.processor
  | _ => True

def allows (w : Workers) (q : QueuedSystem) : QueueAction → Prop
  | .core a => w.permits q.system a
  | .scan _ owner leaseMs _ _ => owner = w.outboxOwner ∧ leaseMs = w.notificationLeaseMs
  | .takeNotification _ _ instanceId leaseMs _ =>
      instanceId = w.processor.instanceId ∧ leaseMs = w.notificationLeaseMs
  | .findDispatchCandidate _ owner leaseMs _ _ =>
      owner = w.schedulerOwner ∧ leaseMs = w.schedulerLeaseMs
  | _ => True

end Workers

/-- A state and the latest clock value that has been read. -/
structure Moment where
  queued : QueuedSystem
  clock : Time

namespace Moment

abbrev system (m : Moment) : System := m.queued.system

/-- A step at a time; its clock values lie between the last time and this one. -/
def step (m : Moment) (label : QueueAction × Time) : Option Moment :=
  if m.clock ≤ label.2 ∧ ∀ time ∈ label.1.times, m.clock ≤ time ∧ time ≤ label.2 then
    (m.queued.step label.1).map fun queued => ⟨queued, label.2⟩
  else none

end Moment

abbrev Possible (w : Workers) (m : Moment) (goal : Moment → Prop) : Prop :=
  CanReach Moment.step (fun m label => w.allows m.queued label.1) m goal

abbrev PossibleAt (w : Workers) (now : Time) (s : System) (goal : System → Prop) : Prop :=
  CanReach step (fun s a => a.queued = false ∧ w.permits s a ∧ ∀ time ∈ a.times, time = now) s goal

section Rules

variable {w : Workers} {m : Moment} {goal : Moment → Prop} {now : Time}

theorem Possible.act {a : QueueAction} {queued : QueuedSystem}
    (taken : m.queued.step a = some queued) (allowed : w.allows m.queued a) (past : m.clock ≤ now)
    (times : ∀ time ∈ a.times, m.clock ≤ time ∧ time ≤ now)
    (later : Possible w ⟨queued, now⟩ goal) : Possible w m goal := by
  have stepped : m.step (a, now) = some ⟨queued, now⟩ := by
    rw [Moment.step, if_pos ⟨past, times⟩, taken]
    rfl
  exact CanReach.next stepped allowed later

theorem Possible.core {a : Action} {after : System} (taken : LinkAlive.step m.system a = some after)
    (free : a.queued = false) (permitted : w.permits m.system a) (past : m.clock ≤ now)
    (times : ∀ time ∈ a.times, m.clock ≤ time ∧ time ≤ now)
    (later : Possible w ⟨{ m.queued with system := after }, now⟩ goal) : Possible w m goal := by
  have stepped : m.queued.step (.core a) = some { m.queued with system := after } := by
    rw [QueuedSystem.step, free]
    exact QueuedSystem.run_eq_some.2 ⟨after, taken, rfl⟩
  exact Possible.act stepped permitted past times later

theorem Possible.reachable (possible : Possible w m goal) (reached : m.queued.Reachable) :
    Possible w m fun last => goal last ∧ last.queued.Reachable := by
  refine possible.keeping ?_ reached
  intro m label after holds _ taken
  unfold Moment.step at taken
  split at taken
  · obtain ⟨queued, stepped, rfl⟩ := Option.map_eq_some_iff.1 taken
    exact holds.step_closed stepped
  · cases taken

theorem PossibleAt.lift {goal : System → Prop} (possible : PossibleAt w now m.system goal)
    (past : m.clock ≤ now) :
    Possible w m fun last =>
      goal last.system ∧ last.queued = { m.queued with system := last.system } ∧
        last.clock ≤ now := by
  have followed : Possible w m fun last => ∃ s, goal s ∧
      last.queued = { m.queued with system := s } ∧ last.clock ≤ now := by
    refine CanReach.simulate (fun s (last : Moment) =>
      last.queued = { m.queued with system := s } ∧ last.clock ≤ now) ?_ possible ⟨rfl, past⟩
    rintro s a after middle ⟨same, clock⟩ ⟨free, permitted, times⟩ taken
    have system : middle.system = s := by rw [Moment.system, same]
    rw [← system] at permitted taken
    apply Possible.core taken free permitted clock
    · intro time member
      rw [times time member]
      exact ⟨clock, Nat.le_refl _⟩
    · exact CanReach.here ⟨by rw [same], Nat.le_refl _⟩
  apply followed.weaken
  rintro last ⟨s, reached, same, clock⟩
  have system : last.system = s := by rw [Moment.system, same]
  rw [system]
  exact ⟨reached, same, clock⟩

end Rules

end LinkAlive
