import LinkAlive.Network.Cases
import LinkAlive.Network.Script

/-!
# Whether a confirming inspection is fresh

A trace of the network system notes when an inspection started, which inspection a finished
one reports on, and when the retried check of an assessment had failed. An assessment asks for
a forced inspection then, and a forced inspection shares the one that is in flight.
-/

namespace LinkAlive.Network.Freshness

set_option autoImplicit false

open Relational

/-- The retry of an assessment has failed: the result, the step, and the time. -/
structure Failure where
  retried : MonitorCheckResult
  position : Nat
  clock : Time

/-- Steps are numbered. No step of the network reads what the trace notes. -/
structure TracedSystem where
  network : NetworkSystem
  position : Nat
  started : Table InspectionId Nat
  /-- When the inspection started whose row an inspection has in its view. -/
  viewed : Table InspectionId Nat
  /-- When the inspection started that an inspection reports on. -/
  evidence : Table InspectionId Nat
  /-- When the inspection started that has written the row of an observer. -/
  recorded : Table ObserverId Nat
  failures : Table JobId Failure

def TracedSystem.initial : TracedSystem where
  network := .initial
  position := 0
  started := ∅
  viewed := ∅
  evidence := ∅
  recorded := ∅
  failures := ∅

inductive Action
  | network (a : Network.Action)
  | retryFails (job : JobId) (retried : MonitorCheckResult)

namespace TracedSystem

def startOf (s : TracedSystem) (i : InspectionId) : Nat := (s.started.get i).getD 0

def viewOf (s : TracedSystem) (i : InspectionId) : Nat := (s.viewed.get i).getD 0

def evidenceOf (s : TracedSystem) (i : InspectionId) : Nat := (s.evidence.get i).getD 0

def recordOf (s : TracedSystem) (o : ObserverId) : Nat := (s.recorded.get o).getD 0

def observerOf (s : TracedSystem) (i : InspectionId) : ObserverId :=
  ((s.network.inspections.get i).map Inspection.observerId).getD 0

/-- An id names one inspection; the result of a retry is the one that was noted. -/
def permits (s : TracedSystem) : Network.Action → Bool
  | .inspect i _ => (s.started.get i).isNone
  | .retryAssess job retried =>
      (s.failures.get job).map Failure.retried =
        if isNetworkFailure retried then some retried else none
  | _ => true

def note (s : TracedSystem) (after : NetworkSystem) (a : Network.Action) : TracedSystem :=
  let next := { s with network := after, position := s.position + 1 }
  match a with
  | .inspect i _ => { next with started := s.started.put i s.position }
  | .openInspection i => { next with viewed := s.viewed.put i (s.recordOf (s.observerOf i)) }
  | .lockObserver i => { next with evidence := s.evidence.put i (s.viewOf i) }
  | .commitInspection i =>
      { next with
        evidence := s.evidence.put i (s.startOf i)
        recorded := s.recorded.put (s.observerOf i) (s.startOf i) }
  | .assess job _ _ | .resumeAssess job => { next with failures := s.failures.remove job }
  | _ => next

/-- The retry of an assessment fails, before the confirming inspection is asked for. -/
def retryFails (s : TracedSystem) (job : JobId) (retried : MonitorCheckResult) :
    Option TracedSystem :=
  match s.network.assessments.get job with
  | some (.retrying _ _) =>
      if isNetworkFailure retried && (s.failures.get job).isNone then
        some { s with
          position := s.position + 1
          failures := s.failures.put job ⟨retried, s.position, s.network.clock⟩ }
      else none
  | _ => none

end TracedSystem

def step (config : NetworkConfig) (s : TracedSystem) : Action → Option TracedSystem
  | .network a =>
      if s.permits a then (Network.step config s.network a).map fun after => s.note after a else none
  | .retryFails job retried => s.retryFails job retried

def isFinished : InspectionStage → Bool
  | .finished _ => true
  | _ => false

/-- A retry fails while the guard has an inspection in flight, or while some inspection of the
same observer is in progress. -/
def retryOverlaps (config : NetworkConfig) (s : TracedSystem) : Action → Bool
  | .retryFails job _ =>
      match s.network.assessments.get job with
      | some (.retrying worker _) =>
          (s.network.inFlightOf worker).isSome ||
            !s.network.inspections.every fun _ inspection =>
              decide (inspection.observerId ≠ config.observer worker) || isFinished inspection.stage
      | _ => false
  | _ => false

/-- The inspection whose result confirms started after the retry had failed. -/
def startsAfter : Option Failure → Option Nat → Bool
  | some failure, some evidence => failure.position < evidence
  | _, _ => false

def confirmsFresh (s : TracedSystem) : Action → Bool
  | .network (.confirmAssess job) =>
      match s.network.assessments.get job with
      | some (.confirming _ _ i) =>
          (s.network.outcome i).all fun snapshot =>
            snapshot.status ≠ .online || startsAfter (s.failures.get job) (s.evidence.get i)
      | _ => true
  | _ => true

inductive Stepped (config : NetworkConfig) (s : TracedSystem) : Action → TracedSystem → Prop where
  | network (a : Network.Action) (after : NetworkSystem) : s.permits a = true →
      Network.step config s.network a = some after →
        Stepped config s (.network a) (s.note after a)
  | failed (job : JobId) (worker : WorkerId) (result retried : MonitorCheckResult) :
      s.network.assessments.get job = some (.retrying worker result) →
      s.failures.get job = none →
        Stepped config s (.retryFails job retried)
          { s with
            position := s.position + 1
            failures := s.failures.put job ⟨retried, s.position, s.network.clock⟩ }

theorem step_cases {config : NetworkConfig} {s after : TracedSystem} {a : Action}
    (taken : step config s a = some after) : Stepped config s a after := by
  cases a with
  | network a =>
      simp only [step, Option.ite_none_right_eq_some, Option.map_eq_some_iff] at taken
      obtain ⟨permitted, network, stepped, rfl⟩ := taken
      exact .network a network permitted stepped
  | retryFails job retried =>
      simp only [step, TracedSystem.retryFails] at taken
      split at taken
      next worker result stage =>
        simp only [Option.ite_none_right_eq_some, Bool.and_eq_true, Option.isNone_iff_eq_none,
          Option.some.injEq] at taken
        obtain ⟨⟨-, fresh⟩, rfl⟩ := taken
        exact .failed job worker result retried stage fresh
      next => cases taken

theorem in_flight_cleared {s : NetworkSystem} {worker other : WorkerId}
    {cached : Option Snapshot} {i : InspectionId}
    (found : (s.clearInFlight other cached).inFlightOf worker = some i) :
    s.inFlightOf worker = some i := by
  simp only [NetworkSystem.inFlightOf, NetworkSystem.clearInFlight, Table.get_put] at found ⊢
  split at found
  next => cases found
  next => exact found

/-- A guard's inspection in flight was in flight before, or it has just been started. -/
theorem step_in_flight {config : NetworkConfig} {s after : NetworkSystem} {a : Network.Action}
    (taken : Network.step config s a = some after) {worker : WorkerId} {i : InspectionId}
    (found : after.inFlightOf worker = some i) :
    s.inFlightOf worker = some i ∨ a = .inspect i worker := by
  have stepped := Network.step_cases taken
  cases stepped with
  | ledger a core after _ _ _ followed =>
      rw [NetworkSystem.inFlightOf, (follow_frame followed).1.guards] at found
      exact .inl found
  | inspected j other guards fresh =>
      simp only [Network.step, NetworkSystem.inspect, Option.ite_none_right_eq_some,
        Option.some.injEq] at taken
      obtain ⟨-, same⟩ := taken
      rw [← same] at found
      simp only [NetworkSystem.inFlightOf, Table.get_put] at found ⊢
      split at found
      next own =>
        cases found
        exact .inr (by rw [own])
      next => exact .inl found
  | aborted j inspection guards stored =>
      obtain ⟨other, otherStored, aborting⟩ := advance_cases taken
      unfold NetworkSystem.abortInspection at aborting
      split at aborting
      · cases aborting
      · dsimp only at aborting
        split at aborting
        · rw [Option.some_inj] at aborting
          rw [← aborting] at found
          exact .inl (in_flight_cleared found)
        · rw [Option.some_inj] at aborting
          rw [← aborting] at found
          exact .inl found
  | delivered j inspection snapshot stored stage => exact .inl (in_flight_cleared found)
  | restarted other =>
      simp only [NetworkSystem.inFlightOf, Table.get_remove] at found ⊢
      split at found
      next => cases found
      next => exact .inl found
  | _ => exact .inl found

def probeOf : InspectionStage → Option Probe
  | .probed probe | .opened probe _ | .locked probe _ | .written probe _ _ _ => some probe
  | .reading _ | .probing _ _ | .finished _ => none

section Notes

variable (s : TracedSystem) (after : NetworkSystem) {a : Network.Action} {i : InspectionId}

@[simp] theorem note_network : (s.note after a).network = after := by
  cases a <;> rfl

@[simp] theorem note_position : (s.note after a).position = s.position + 1 := by
  cases a <;> rfl

theorem note_start (other : ∀ worker, a ≠ .inspect i worker) :
    (s.note after a).startOf i = s.startOf i := by
  cases a with
  | inspect j worker =>
      have apart : i ≠ j := fun same => other worker (same ▸ rfl)
      simp [TracedSystem.note, TracedSystem.startOf, Table.get_put, apart]
  | _ => rfl

theorem note_view (other : a ≠ .openInspection i) :
    (s.note after a).viewOf i = s.viewOf i := by
  cases a with
  | openInspection j =>
      have apart : i ≠ j := fun same => other (same ▸ rfl)
      simp [TracedSystem.note, TracedSystem.viewOf, Table.get_put, apart]
  | _ => rfl

theorem note_evidence (lock : a ≠ .lockObserver i) (commit : a ≠ .commitInspection i) :
    (s.note after a).evidenceOf i = s.evidenceOf i := by
  cases a with
  | lockObserver j =>
      have apart : i ≠ j := fun same => lock (same ▸ rfl)
      simp [TracedSystem.note, TracedSystem.evidenceOf, Table.get_put, apart]
  | commitInspection j =>
      have apart : i ≠ j := fun same => commit (same ▸ rfl)
      simp [TracedSystem.note, TracedSystem.evidenceOf, Table.get_put, apart]
  | _ => rfl

theorem note_record {o : ObserverId}
    (other : ∀ j, a = .commitInspection j → s.observerOf j ≠ o) :
    (s.note after a).recordOf o = s.recordOf o := by
  cases a with
  | commitInspection j =>
      have apart : o ≠ s.observerOf j := fun same => other j rfl same.symm
      simp [TracedSystem.note, TracedSystem.recordOf, Table.get_put, apart]
  | _ => rfl

theorem note_unnoted (other : noted a ≠ some i) :
    (s.note after a).startOf i = s.startOf i ∧ (s.note after a).viewOf i = s.viewOf i ∧
      (s.note after a).evidenceOf i = s.evidenceOf i := by
  refine ⟨note_start s after ?_, note_view s after ?_, note_evidence s after ?_ ?_⟩
  · rintro worker rfl
    exact other rfl
  all_goals
    rintro rfl
    exact other rfl

end Notes

/-- What holds in each stage of an inspection that started after step `since`, which was taken
at time `clock`. -/
def StageFresh (since : Nat) (clock : Time) (view evidence : Nat) : InspectionStage → Prop
  | .reading _ | .locked _ _ | .written _ _ _ _ => True
  | .probing _ startedAt => clock ≤ startedAt
  | .probed probe => clock ≤ probe.startedAt
  | .opened probe row => clock ≤ probe.startedAt ∧ ∀ checkedAt,
      row.bind NetworkObserverRow.checkedAt = some checkedAt → checkedAt ≤ clock ∨ since < view
  | .finished snapshot => snapshot.status = .online → since < evidence

/-- Since step `since`: an inspection of the observer is over or started later, and the row of
the observer is older or was written by an inspection that started later. -/
structure FreshSince (s : TracedSystem) (o : ObserverId) (since : Nat) (clock : Time) : Prop where
  started : ∀ i inspection, s.network.inspections.get i = some inspection →
    inspection.observerId = o → isFinished inspection.stage = true ∨ since < s.startOf i
  stages : ∀ i inspection, s.network.inspections.get i = some inspection →
    inspection.observerId = o → since < s.startOf i →
      StageFresh since clock (s.viewOf i) (s.evidenceOf i) inspection.stage
  observer : ∀ row checkedAt, s.network.net.observers.get o = some row →
    row.checkedAt = some checkedAt → checkedAt ≤ clock ∨ since < s.recordOf o

theorem observer_of_stored {s : TracedSystem} {i : InspectionId} {inspection : Inspection}
    (stored : s.network.inspections.get i = some inspection) :
    s.observerOf i = inspection.observerId := by
  simp [TracedSystem.observerOf, stored]

theorem FreshSince.advance {s : TracedSystem} {o : ObserverId} {since : Nat} {clock : Time}
    (fresh : FreshSince s o since clock) (time : clock ≤ s.network.clock) (after : NetworkSystem)
    {i : InspectionId} {inspection : Inspection} {a : Network.Action} {stage : InspectionStage}
    (stored : s.network.inspections.get i = some inspection) (own : inspection.observerId = o)
    (later : since < s.startOf i) (advance : Advance s.network i inspection a stage) :
    StageFresh since clock ((s.note after a).viewOf i) ((s.note after a).evidenceOf i) stage := by
  have before := fresh.stages i inspection stored own later
  cases advance with
  | startProbe settings stage => exact time
  | finishProbe settings startedAt results stage =>
      rw [stage] at before
      exact before
  | superseded probe stage superseded =>
      intro online
      cases online
  | opened probe stage current =>
      rw [stage] at before
      refine ⟨before, fun checkedAt viewed => ?_⟩
      rw [own] at viewed
      obtain ⟨row, read, checked⟩ := Option.bind_eq_some_iff.1 viewed
      have view : (s.note after (.openInspection i)).viewOf i = s.recordOf o := by
        simp [TracedSystem.note, TracedSystem.viewOf, Table.get_put, observer_of_stored stored, own]
      rw [view]
      exact fresh.observer row checkedAt read checked
  | overtaken probe view stage overtaken =>
      rw [stage] at before
      obtain ⟨probed, viewed⟩ := before
      intro _
      have evidence : (s.note after (.lockObserver i)).evidenceOf i = s.viewOf i := by
        simp [TracedSystem.note, TracedSystem.evidenceOf, Table.get_put]
      rw [evidence]
      rw [Probe.overtaken, Option.any_eq_true] at overtaken
      obtain ⟨checkedAt, checked, since_⟩ := overtaken
      have newer : probe.startedAt < checkedAt := of_decide_eq_true since_
      have seen : view.bind NetworkObserverRow.checkedAt = some checkedAt := by
        cases view with
        | none => cases checked
        | some row => exact checked
      refine (viewed checkedAt seen).resolve_left fun older => ?_
      exact absurd (Nat.lt_of_lt_of_le newer (Nat.le_trans older probed)) (Nat.lt_irrefl _)
  | locked => trivial
  | written => trivial

theorem advance_unstarted {s : NetworkSystem} {i : InspectionId} {inspection : Inspection}
    {a : Network.Action} {stage : InspectionStage} (advance : Advance s i inspection a stage) :
    isFinished inspection.stage = false ∧ (∀ worker, a ≠ .inspect i worker) ∧
      ∀ j, a ≠ .commitInspection j := by
  cases advance <;> simp [isFinished, *]

theorem step_observer {config : NetworkConfig} {s after : NetworkSystem} {a : Network.Action}
    (stepped : Network.Stepped config s a after) (o : ObserverId) :
    after.net.observers.get o = s.net.observers.get o ∧
        (∀ i, a = .commitInspection i → ∃ inspection, s.inspections.get i = some inspection ∧
          inspection.observerId ≠ o) ∨
      ∃ i inspection probe active, a = .commitInspection i ∧
        s.inspections.get i = some inspection ∧ inspection.observerId = o ∧
        isFinished inspection.stage = false ∧ probeOf inspection.stage = some probe ∧
        after.net.observers.get o = some (probe.observed active) := by
  cases stepped with
  | ledger a core after _ _ _ followed =>
      rw [(follow_frame followed).1.observers]
      exact .inl ⟨rfl, fun i same => nomatch same⟩
  | committed i inspection probe observer newId resets outages stored stage =>
      by_cases own : inspection.observerId = o
      · refine .inr ⟨i, inspection, probe,
          (probe.outageWrite observer.activeOutageId).active newId observer.activeOutageId, rfl,
          stored, own, by rw [stage]; rfl, by rw [stage]; rfl, ?_⟩
        rw [← own]
        exact (Table.get_put _ _ _ _).trans (if_pos rfl)
      · refine .inl ⟨(Table.get_put _ _ _ _).trans (if_neg (Ne.symm own)), ?_⟩
        intro j same
        cases same
        exact ⟨inspection, stored, own⟩
  | advanced i inspection a stage stored advance =>
      exact .inl ⟨rfl, fun j same => absurd same ((advance_unstarted advance).2.2 j)⟩
  | assessed a job stage next =>
      refine .inl ⟨rfl, fun i same => ?_⟩
      subst same
      cases next
  | _ => exact .inl ⟨rfl, fun i same => nomatch same⟩

theorem FreshSince.step {config : NetworkConfig} {s : TracedSystem} {o : ObserverId}
    {since : Nat} {clock : Time} (fresh : FreshSince s o since clock)
    (time : clock ≤ s.network.clock) (past : since < s.position) {after : NetworkSystem}
    {a : Network.Action} (stepped : Network.Stepped config s.network a after) :
    FreshSince (s.note after a) o since clock := by
  refine ⟨?_, ?_, ?_⟩
  · intro i inspection found own
    rw [note_network] at found
    cases inspection_source stepped found with
    | kept _ stored other =>
        rw [(note_unnoted s after other).1]
        exact fresh.started i inspection stored own
    | begun worker same =>
        subst same
        right
        simpa [TracedSystem.note, TracedSystem.startOf, Table.get_put] using past
    | advanced before stage stored advance =>
        obtain ⟨unfinished, unstarted, -⟩ := advance_unstarted advance
        rw [note_start s after unstarted]
        exact .inr ((fresh.started i before stored own).resolve_left (by simp [unfinished]))
    | committed => exact .inl rfl
  · intro i inspection found own later
    rw [note_network] at found
    cases inspection_source stepped found with
    | kept _ stored other =>
        obtain ⟨start, view, evidence⟩ := note_unnoted s after other
        rw [start] at later
        rw [view, evidence]
        exact fresh.stages i inspection stored own later
    | begun worker same => trivial
    | advanced before stage stored advance =>
        rw [note_start s after (advance_unstarted advance).2.1] at later
        exact fresh.advance time after stored own later advance
    | committed before probe observer newId resets snapshot stored stage same =>
        intro _
        subst same
        have start : (s.note after (.commitInspection i)).startOf i = s.startOf i := rfl
        rw [start] at later
        simpa [TracedSystem.note, TracedSystem.evidenceOf, Table.get_put] using later
  · intro row checkedAt stored checked
    rw [note_network] at stored
    rcases step_observer stepped o with ⟨same, other⟩ | ⟨i, inspection, probe, active, rfl, found,
      own, unfinished, -, written⟩
    · rw [same] at stored
      rw [note_record s after ?_]
      · exact fresh.observer row checkedAt stored checked
      · intro j same
        obtain ⟨inspection, found, apart⟩ := other j same
        rwa [observer_of_stored found]
    · right
      have later := (fresh.started i inspection found own).resolve_left (by simp [unfinished])
      simpa [TracedSystem.note, TracedSystem.recordOf, Table.get_put, observer_of_stored found,
        own] using later

/-- The inspection that an assessment waits for after its retry has failed, or will join. -/
structure Waiting (config : NetworkConfig) (s : TracedSystem) (job : JobId) (failure : Failure) :
    Prop where
  retrying : ∀ worker result, s.network.assessments.get job = some (.retrying worker result) →
    FreshSince s (config.observer worker) failure.position failure.clock ∧
      ∀ i, s.network.inFlightOf worker = some i → failure.position < s.startOf i
  confirming : ∀ worker retried i,
    s.network.assessments.get job = some (.confirming worker retried i) →
      FreshSince s (config.observer worker) failure.position failure.clock ∧
        failure.position < s.startOf i ∧
        ∀ inspection, s.network.inspections.get i = some inspection →
          inspection.observerId = config.observer worker

structure TraceInvariant (config : NetworkConfig) (s : TracedSystem) : Prop where
  inFlight : ∀ worker i, s.network.inFlightOf worker = some i → (s.started.get i).isSome = true ∧
    ∀ inspection, s.network.inspections.get i = some inspection →
      inspection.observerId = config.observer worker
  probes : ∀ i inspection probe, s.network.inspections.get i = some inspection →
    probeOf inspection.stage = some probe → probe.checkedAt ≤ s.network.clock
  observers : ∀ o row checkedAt, s.network.net.observers.get o = some row →
    row.checkedAt = some checkedAt → checkedAt ≤ s.network.clock
  starts : ∀ i, s.startOf i ≤ s.position
  failures : ∀ job failure, s.failures.get job = some failure →
    failure.position < s.position ∧ failure.clock ≤ s.network.clock
  waiting : ∀ job failure, s.failures.get job = some failure → Waiting config s job failure

theorem trace_invariant_initial (config : NetworkConfig) : TraceInvariant config .initial where
  inFlight worker i found := by cases found
  probes i inspection probe found := by cases found
  observers o row checkedAt found := by cases found
  starts i := Nat.le_refl _
  failures job failure found := by cases found
  waiting job failure found := by cases found

theorem step_clock {config : NetworkConfig} {s after : NetworkSystem} {a : Network.Action}
    (stepped : Network.Stepped config s a after) : s.clock ≤ after.clock := by
  cases stepped with
  | ticked now later => exact later
  | ledger a core after _ _ _ followed => exact (follow_frame followed).1.clock.ge
  | _ => exact Nat.le_refl _

theorem advance_probe {s : NetworkSystem} {i : InspectionId} {inspection : Inspection}
    {a : Network.Action} {stage : InspectionStage} (advance : Advance s i inspection a stage)
    {probe : Probe} (has : probeOf stage = some probe) :
    probeOf inspection.stage = some probe ∨ probe.checkedAt = s.clock := by
  cases advance with
  | finishProbe settings startedAt results stage =>
      cases has
      exact .inr rfl
  | opened probe stage | locked probe view stage | written probe observer newId resets stage =>
      cases has
      exact .inl (congrArg probeOf stage)
  | _ => cases has

theorem source_observer {config : NetworkConfig} {s : NetworkSystem} {a : Network.Action}
    {i : InspectionId} {inspection : Inspection} (source : InspectionSource config s a i inspection) :
    (∃ worker, a = .inspect i worker ∧ inspection.observerId = config.observer worker) ∨
      ∃ before, s.inspections.get i = some before ∧ inspection.observerId = before.observerId := by
  cases source with
  | kept _ stored => exact .inr ⟨inspection, stored, rfl⟩
  | begun worker same => exact .inl ⟨worker, same, rfl⟩
  | advanced before stage stored => exact .inr ⟨before, stored, rfl⟩
  | committed before _ _ _ _ _ stored => exact .inr ⟨before, stored, rfl⟩

theorem outcome_stored {s : NetworkSystem} {i : InspectionId} {snapshot : Snapshot}
    (reported : s.outcome i = some snapshot) :
    ∃ inspection, s.inspections.get i = some inspection ∧
      inspection.stage = .finished snapshot := by
  unfold NetworkSystem.outcome at reported
  split at reported
  next other stage =>
    cases reported
    exact Option.map_eq_some_iff.1 stage
  next => cases reported

theorem follow_assessments {s after : NetworkSystem} {core : System} {a : LinkAlive.Action}
    (followed : s.follow core a = some after) {job : JobId} {stage : AssessStage}
    (found : after.assessments.get job = some stage) : s.assessments.get job = some stage := by
  have removed {other : JobId} (kept : (s.assessments.remove other).get job = some stage) :
      s.assessments.get job = some stage := by
    rw [Table.get_remove] at kept
    split at kept
    · cases kept
    · exact kept
  unfold NetworkSystem.follow at followed
  split at followed
  · cases followed
    exact removed found
  · simp only [Option.bind_eq_bind, Option.bind_eq_some_iff] at followed
    obtain ⟨outageId, -, followed⟩ := followed
    split at followed
    · cases followed
      exact removed found
    · simp only [Option.ite_none_right_eq_some, Option.some.injEq] at followed
      obtain ⟨-, rfl⟩ := followed
      exact removed found
  · split at followed <;> cases followed <;> exact found
  · cases followed
    exact found
  · cases followed
    exact found

theorem step_assessment {config : NetworkConfig} {s after : NetworkSystem} {a : Network.Action}
    (stepped : Network.Stepped config s a after) {job : JobId} {stage : AssessStage}
    (found : after.assessments.get job = some stage) :
    s.assessments.get job = some stage ∨ s.assessment a = some (job, stage) := by
  cases stepped with
  | ledger a core after _ _ _ followed => exact .inl (follow_assessments followed found)
  | assessed a other next taken =>
      dsimp only at found
      rw [Table.get_put] at found
      split at found
      next same =>
        cases found
        exact .inr (same ▸ taken)
      next => exact .inl found
  | _ => exact .inl found

theorem assessment_retrying {s : NetworkSystem} {a : Network.Action} {job : JobId}
    {worker : WorkerId} {result : MonitorCheckResult}
    (taken : s.assessment a = some (job, .retrying worker result)) :
    (∃ worker result, a = .assess job worker result) ∨ a = .resumeAssess job := by
  unfold NetworkSystem.assessment at taken
  split at taken
  next other w r =>
    simp only [Option.ite_none_right_eq_some, Option.map_eq_some_iff, Prod.mk.injEq] at taken
    obtain ⟨-, stage, -, rfl, -⟩ := taken
    exact .inl ⟨w, r, rfl⟩
  next other =>
    split at taken
    · simp only [Option.map_eq_some_iff, Prod.mk.injEq] at taken
      obtain ⟨snapshot, -, rfl, -⟩ := taken
      exact .inr rfl
    · cases taken
  next other retried =>
    split at taken
    · simp only [Option.map_eq_some_iff, Prod.mk.injEq] at taken
      obtain ⟨stage, retry, -, rfl⟩ := taken
      unfold NetworkSystem.retryAssess at retry
      split at retry
      · obtain ⟨i, -, impossible⟩ := Option.map_eq_some_iff.1 retry
        cases impossible
      · cases retry
    · cases taken
  next other =>
    split at taken
    · simp only [Option.map_eq_some_iff, Prod.mk.injEq] at taken
      obtain ⟨snapshot, -, -, confirmed⟩ := taken
      unfold NetworkSystem.confirm at confirmed
      split at confirmed <;> cases confirmed
    · cases taken
  next => cases taken

theorem judge_not_confirming {worker other : WorkerId} {result retried : MonitorCheckResult}
    {snapshot : Snapshot} {i : InspectionId} :
    NetworkSystem.judge worker result snapshot ≠ .confirming other retried i := by
  unfold NetworkSystem.judge
  split <;> exact fun impossible => nomatch impossible

theorem assessment_confirming {s : NetworkSystem} {a : Network.Action} {job : JobId}
    {worker : WorkerId} {retried : MonitorCheckResult} {i : InspectionId}
    (taken : s.assessment a = some (job, .confirming worker retried i)) :
    a = .retryAssess job retried ∧ s.inFlightOf worker = some i ∧
      isNetworkFailure retried = true ∧
      ∃ result, s.assessments.get job = some (.retrying worker result) := by
  unfold NetworkSystem.assessment at taken
  split at taken
  next other w r =>
    simp only [Option.ite_none_right_eq_some, Option.map_eq_some_iff, Prod.mk.injEq] at taken
    obtain ⟨-, stage, assessed, -, rfl⟩ := taken
    unfold NetworkSystem.assess at assessed
    split at assessed
    · split at assessed
      · cases assessed
      · obtain ⟨snapshot, -, judged⟩ := Option.map_eq_some_iff.1 assessed
        exact absurd judged judge_not_confirming
    · cases assessed
  next other =>
    split at taken
    · simp only [Option.map_eq_some_iff, Prod.mk.injEq] at taken
      obtain ⟨snapshot, -, -, judged⟩ := taken
      exact absurd judged judge_not_confirming
    · cases taken
  next other again =>
    split at taken
    next w result stage =>
      simp only [Option.map_eq_some_iff, Prod.mk.injEq] at taken
      obtain ⟨next, retry, rfl, rfl⟩ := taken
      unfold NetworkSystem.retryAssess at retry
      split at retry
      next failed =>
        obtain ⟨j, flying, same⟩ := Option.map_eq_some_iff.1 retry
        cases same
        exact ⟨rfl, flying, failed, result, stage⟩
      next => cases retry
    next => cases taken
  next other =>
    split at taken
    · simp only [Option.map_eq_some_iff, Prod.mk.injEq] at taken
      obtain ⟨snapshot, -, -, confirmed⟩ := taken
      unfold NetworkSystem.confirm at confirmed
      split at confirmed <;> cases confirmed
    · cases taken
  next => cases taken

theorem note_failures {s : TracedSystem} {after : NetworkSystem} {a : Network.Action}
    {job : JobId} {failure : Failure} (found : (s.note after a).failures.get job = some failure) :
    s.failures.get job = some failure ∧ (∀ worker result, a ≠ .assess job worker result) ∧
      a ≠ .resumeAssess job := by
  cases a with
  | assess other worker result =>
      simp only [TracedSystem.note, Table.get_remove] at found
      split at found
      · cases found
      · rename_i apart
        exact ⟨found, by simp [Ne.symm apart], by simp⟩
  | resumeAssess other =>
      simp only [TracedSystem.note, Table.get_remove] at found
      split at found
      · cases found
      · rename_i apart
        exact ⟨found, by simp, by simp [Ne.symm apart]⟩
  | _ => exact ⟨found, by simp, by simp⟩

/-- A start that lies behind a step has been noted, and an id is not used twice. -/
theorem start_kept {s : TracedSystem} (after : NetworkSystem) {a : Network.Action}
    {i : InspectionId} {since : Nat} (permitted : s.permits a = true)
    (later : since < s.startOf i) :
    since < (s.note after a).startOf i ∧ ∀ worker, a ≠ .inspect i worker := by
  have unstarted : ∀ worker, a ≠ .inspect i worker := by
    rintro worker rfl
    have absent : s.started.get i = none := by
      simpa [TracedSystem.permits] using permitted
    simp [TracedSystem.startOf, absent] at later
  rw [note_start s after unstarted]
  exact ⟨later, unstarted⟩

theorem Waiting.step {config : NetworkConfig} {s : TracedSystem} {job : JobId}
    {failure : Failure} (invariant : TraceInvariant config s)
    (stored : s.failures.get job = some failure) {a : Network.Action} {after : NetworkSystem}
    (permitted : s.permits a = true) (taken : Network.step config s.network a = some after)
    (unassessed : ∀ worker result, a ≠ .assess job worker result)
    (unresumed : a ≠ .resumeAssess job) : Waiting config (s.note after a) job failure := by
  have stepped := Network.step_cases taken
  have waiting := invariant.waiting job failure stored
  obtain ⟨past, time⟩ := invariant.failures job failure stored
  refine ⟨?_, ?_⟩
  · intro worker result found
    rw [note_network] at found
    rcases step_assessment stepped found with before | new
    · obtain ⟨fresh, flying⟩ := waiting.retrying worker result before
      refine ⟨fresh.step time past stepped, fun i inFlight => ?_⟩
      rw [note_network] at inFlight
      rcases step_in_flight taken inFlight with earlier | rfl
      · exact (start_kept after permitted (flying i earlier)).1
      · simpa [TracedSystem.note, TracedSystem.startOf, Table.get_put] using past
    · rcases assessment_retrying new with ⟨worker, result, same⟩ | same
      · exact absurd same (unassessed worker result)
      · exact absurd same unresumed
  · intro worker retried i found
    rw [note_network] at found
    rcases step_assessment stepped found with before | new
    · obtain ⟨fresh, later, own⟩ := waiting.confirming worker retried i before
      obtain ⟨start, unstarted⟩ := start_kept after permitted later
      refine ⟨fresh.step time past stepped, start, fun inspection stored => ?_⟩
      rw [note_network] at stored
      rcases source_observer (inspection_source stepped stored) with ⟨other, same, -⟩ |
        ⟨earlier, storedEarlier, same⟩
      · exact absurd same (unstarted other)
      · rw [same]
        exact own earlier storedEarlier
    · obtain ⟨rfl, flying, -, result, before⟩ := assessment_confirming new
      obtain ⟨fresh, started⟩ := waiting.retrying worker result before
      refine ⟨fresh.step time past stepped, started i flying, fun inspection stored => ?_⟩
      rw [note_network] at stored
      rcases source_observer (inspection_source stepped stored) with ⟨other, same, -⟩ |
        ⟨earlier, storedEarlier, same⟩
      · cases same
      · rw [same]
        exact (invariant.inFlight worker i flying).2 earlier storedEarlier

theorem note_started {s : TracedSystem} (after : NetworkSystem) {a : Network.Action}
    {i : InspectionId} (started : (s.started.get i).isSome = true) :
    ((s.note after a).started.get i).isSome = true := by
  cases a with
  | inspect j worker =>
      simp only [TracedSystem.note, Table.get_put]
      split
      · rfl
      · exact started
  | _ => exact started

theorem note_start_le {config : NetworkConfig} {s : TracedSystem}
    (invariant : TraceInvariant config s) (after : NetworkSystem) (a : Network.Action)
    (i : InspectionId) : (s.note after a).startOf i ≤ (s.note after a).position := by
  have before := invariant.starts i
  rw [note_position]
  cases a with
  | inspect j worker =>
      simp only [TracedSystem.startOf, TracedSystem.note, Table.get_put] at before ⊢
      split
      · exact Nat.le_succ _
      · exact Nat.le_succ_of_le before
  | _ => exact Nat.le_succ_of_le before

theorem trace_invariant_network {config : NetworkConfig} {s : TracedSystem}
    (invariant : TraceInvariant config s) {a : Network.Action} {after : NetworkSystem}
    (permitted : s.permits a = true) (taken : Network.step config s.network a = some after) :
    TraceInvariant config (s.note after a) := by
  have stepped := Network.step_cases taken
  have time := step_clock stepped
  refine ⟨?_, ?_, ?_, ?_, ?_, ?_⟩
  · intro worker i found
    rw [note_network] at found ⊢
    rcases step_in_flight taken found with before | rfl
    · obtain ⟨started, own⟩ := invariant.inFlight worker i before
      refine ⟨note_started after started, fun inspection stored => ?_⟩
      rcases source_observer (inspection_source stepped stored) with ⟨other, same, -⟩ |
        ⟨earlier, storedEarlier, same⟩
      · subst same
        have absent : s.started.get i = none := by
          simpa [TracedSystem.permits] using permitted
        rw [absent] at started
        cases started
      · rw [same]
        exact own earlier storedEarlier
    · refine ⟨by simp [TracedSystem.note, Table.get_put], fun inspection stored => ?_⟩
      cases inspection_source stepped stored with
      | kept _ _ other => exact absurd rfl other
      | begun worker same =>
          cases same
          rfl
      | advanced before stage stored advance =>
          exact absurd rfl ((advance_unstarted advance).2.1 worker)
      | committed _ _ _ _ _ _ _ _ same => cases same
  · intro i inspection probe stored has
    rw [note_network] at stored ⊢
    cases inspection_source stepped stored with
    | kept _ earlier => exact Nat.le_trans (invariant.probes i inspection probe earlier has) time
    | begun => cases has
    | advanced before stage earlier advance =>
        rcases advance_probe advance has with same | now
        · exact Nat.le_trans (invariant.probes i before probe earlier same) time
        · rw [now]
          exact time
    | committed => cases has
  · intro o row checkedAt stored checked
    rw [note_network] at stored ⊢
    rcases step_observer stepped o with ⟨same, -⟩ | ⟨i, inspection, probe, active, -, earlier, -, -,
      has, written⟩
    · rw [same] at stored
      exact Nat.le_trans (invariant.observers o row checkedAt stored checked) time
    · rw [written, Option.some_inj] at stored
      rw [← stored] at checked
      cases checked
      exact Nat.le_trans (invariant.probes i inspection probe earlier has) time
  · exact note_start_le invariant after a
  · intro job failure found
    obtain ⟨past, clock⟩ := invariant.failures job failure (note_failures found).1
    rw [note_position, note_network]
    exact ⟨Nat.lt_succ_of_lt past, Nat.le_trans clock time⟩
  · intro job failure found
    obtain ⟨stored, unassessed, unresumed⟩ := note_failures found
    exact Waiting.step invariant stored permitted taken unassessed unresumed

def TracedSystem.failedAt (s : TracedSystem) (job : JobId) (retried : MonitorCheckResult) :
    TracedSystem :=
  { s with
    position := s.position + 1
    failures := s.failures.put job ⟨retried, s.position, s.network.clock⟩ }

theorem FreshSince.failedAt {s : TracedSystem} {o : ObserverId} {since : Nat} {clock : Time}
    (fresh : FreshSince s o since clock) (job : JobId) (retried : MonitorCheckResult) :
    FreshSince (s.failedAt job retried) o since clock :=
  ⟨fresh.started, fresh.stages, fresh.observer⟩

theorem Waiting.failedAt {config : NetworkConfig} {s : TracedSystem} {other : JobId}
    {failure : Failure} (waiting : Waiting config s other failure) (job : JobId)
    (retried : MonitorCheckResult) : Waiting config (s.failedAt job retried) other failure where
  retrying worker result stage :=
    ⟨(waiting.retrying worker result stage).1.failedAt job retried,
      (waiting.retrying worker result stage).2⟩
  confirming worker again i stage :=
    ⟨(waiting.confirming worker again i stage).1.failedAt job retried,
      (waiting.confirming worker again i stage).2⟩

theorem fresh_since_now {config : NetworkConfig} {s : TracedSystem}
    (invariant : TraceInvariant config s) {o : ObserverId}
    (idle : ∀ i inspection, s.network.inspections.get i = some inspection →
      inspection.observerId = o → isFinished inspection.stage = true) :
    FreshSince s o s.position s.network.clock where
  started i inspection stored own := .inl (idle i inspection stored own)
  stages i _ _ _ later :=
    absurd (Nat.lt_of_lt_of_le later (invariant.starts i)) (Nat.lt_irrefl _)
  observer row checkedAt stored checked :=
    .inl (invariant.observers o row checkedAt stored checked)

theorem trace_invariant_failed {config : NetworkConfig} {s : TracedSystem}
    (invariant : TraceInvariant config s) {job : JobId} {worker : WorkerId}
    {result : MonitorCheckResult} (retried : MonitorCheckResult)
    (stage : s.network.assessments.get job = some (.retrying worker result))
    (apart : retryOverlaps config s (.retryFails job retried) = false) :
    TraceInvariant config (s.failedAt job retried) := by
  simp only [retryOverlaps, stage, Bool.or_eq_false_iff, Bool.not_eq_false', Table.every_iff,
    Bool.or_eq_true, decide_eq_true_eq] at apart
  obtain ⟨landed, idle⟩ := apart
  refine ⟨invariant.inFlight, invariant.probes, invariant.observers,
    fun i => Nat.le_succ_of_le (invariant.starts i), ?_, ?_⟩
  · intro other failure found
    simp only [TracedSystem.failedAt, Table.get_put] at found
    split at found
    · cases found
      exact ⟨Nat.lt_succ_self _, Nat.le_refl _⟩
    · obtain ⟨past, clock⟩ := invariant.failures other failure found
      exact ⟨Nat.lt_succ_of_lt past, clock⟩
  · intro other failure found
    simp only [TracedSystem.failedAt, Table.get_put] at found
    split at found
    next same =>
      cases found
      refine ⟨?_, ?_⟩
      · intro waiting again found
        have own : AssessStage.retrying waiting again = .retrying worker result :=
          Option.some.inj ((same ▸ found).symm.trans stage)
        cases own
        refine ⟨FreshSince.failedAt (fresh_since_now invariant fun i inspection stored own =>
          (idle i inspection stored).resolve_left (by simp [own])) job retried, ?_⟩
        intro i flying
        change s.network.inFlightOf worker = some i at flying
        rw [flying] at landed
        cases landed
      · intro waiting again i found
        have impossible : AssessStage.confirming waiting again i = .retrying worker result :=
          Option.some.inj ((same ▸ found).symm.trans stage)
        cases impossible
    next => exact (invariant.waiting other failure found).failedAt job retried

theorem trace_invariant_step {config : NetworkConfig} {s after : TracedSystem} {a : Action}
    (invariant : TraceInvariant config s) (apart : retryOverlaps config s a = false)
    (taken : step config s a = some after) : TraceInvariant config after := by
  cases step_cases taken with
  | network a network permitted moved => exact trace_invariant_network invariant permitted moved
  | failed job worker result retried stage fresh =>
      exact trace_invariant_failed invariant retried stage apart

def RetriesNoted (s : TracedSystem) : Prop :=
  ∀ job worker retried i, s.network.assessments.get job = some (.confirming worker retried i) →
    (s.failures.get job).isSome = true

/-- A new assessment or its resumption meets no confirming stage. -/
theorem assessment_restarts {config : NetworkConfig} {s after : NetworkSystem}
    {a : Network.Action} {job : JobId} {worker : WorkerId} {retried : MonitorCheckResult}
    {i : InspectionId} (taken : Network.step config s a = some after)
    (before : s.assessments.get job = some (.confirming worker retried i)) :
    (∀ worker result, a ≠ .assess job worker result) ∧ a ≠ .resumeAssess job := by
  constructor
  · rintro other result rfl
    simp [Network.step, NetworkSystem.assessing, NetworkSystem.assessment, before] at taken
  · rintro rfl
    simp [Network.step, NetworkSystem.assessing, NetworkSystem.assessment, before] at taken

theorem note_failures_kept {s : TracedSystem} (after : NetworkSystem) {a : Network.Action}
    {job : JobId} (unassessed : ∀ worker result, a ≠ .assess job worker result)
    (unresumed : a ≠ .resumeAssess job) :
    (s.note after a).failures.get job = s.failures.get job := by
  cases a with
  | assess other worker result =>
      have apart : job ≠ other := fun same => unassessed worker result (same ▸ rfl)
      simp [TracedSystem.note, Table.get_remove, apart]
  | resumeAssess other =>
      have apart : job ≠ other := fun same => unresumed (same ▸ rfl)
      simp [TracedSystem.note, Table.get_remove, apart]
  | _ => rfl

theorem retries_noted_step {config : NetworkConfig} {s after : TracedSystem} {a : Action}
    (noted : RetriesNoted s) (stepped : Stepped config s a after) : RetriesNoted after := by
  cases stepped with
  | network a network permitted taken =>
      intro job worker retried i found
      rw [note_network] at found
      rcases step_assessment (Network.step_cases taken) found with before | new
      · obtain ⟨unassessed, unresumed⟩ := assessment_restarts taken before
        rw [note_failures_kept network unassessed unresumed]
        exact noted job worker retried i before
      · obtain ⟨rfl, -, failed, -⟩ := assessment_confirming new
        change (s.failures.get job).isSome = true
        have same : (s.failures.get job).map Failure.retried = some retried := by
          simpa [TracedSystem.permits, failed] using permitted
        obtain ⟨failure, stored, -⟩ := Option.map_eq_some_iff.1 same
        rw [stored]
        rfl
  | failed job worker result retried stage fresh =>
      intro other waiting again i found
      simp only [Table.get_put]
      split
      · rfl
      · exact noted other waiting again i found

theorem confirms_fresh {config : NetworkConfig} {s : TracedSystem} {a : Action}
    (invariant : TraceInvariant config s) (noted : RetriesNoted s) :
    confirmsFresh s a = true := by
  unfold confirmsFresh
  split
  next job =>
    split
    next worker retried i stage =>
      rw [Option.all_eq_true_iff_get]
      intro finished
      obtain ⟨snapshot, reported⟩ := Option.isSome_iff_exists.1 finished
      simp only [reported, Option.get_some, Bool.or_eq_true, decide_eq_true_eq]
      by_cases online : snapshot.status = .online
      · right
        obtain ⟨failure, stored⟩ := Option.isSome_iff_exists.1 (noted job worker retried i stage)
        obtain ⟨fresh, later, own⟩ :=
          (invariant.waiting job failure stored).confirming worker retried i stage
        obtain ⟨inspection, found, ended⟩ := outcome_stored reported
        have evidence := fresh.stages i inspection found (own inspection found) later
        rw [ended] at evidence
        have proved := evidence online
        unfold TracedSystem.evidenceOf at proved
        rw [stored]
        cases given : s.evidence.get i with
        | none =>
            rw [given] at proved
            exact absurd proved (Nat.not_lt_zero _)
        | some start =>
            rw [given] at proved
            exact decide_eq_true proved
      · exact .inl online
    next => rfl
  next => rfl

/-- In a run in which no retry fails while the guard has an inspection in flight, or while an
inspection of its observer is in progress, every confirmation is fresh. -/
theorem confirmation_fresh {config : NetworkConfig} {visited : List (TracedSystem × Action)}
    {s : TracedSystem} (run : Transition.Run (step config) TracedSystem.initial visited s)
    (apart : Transition.Along (fun before a => retryOverlaps config before a = false) visited) :
    Transition.Along (fun before a => confirmsFresh before a = true) visited := by
  refine run.shows (fun before a => retryOverlaps config before a = false)
    (fun before => TraceInvariant config before ∧ RetriesNoted before)
    ⟨trace_invariant_initial config, fun job worker retried i found => nomatch found⟩ ?_ ?_ apart
  · intro before a after holds allowed taken
    exact ⟨trace_invariant_step holds.1 allowed taken,
      retries_noted_step holds.2 (step_cases taken)⟩
  · intro before a after holds _ _
    exact confirms_fresh holds.1 holds.2

/-- The references answered, and the check of a job got no response. -/
def failedCheck : List Network.Action :=
  [.saveSettings Script.references] ++ Script.createMonitor 61257 ++ [.tick 61257] ++
    Script.probe 1 1 Script.online ++ Script.record 1 1 ++ Script.startCheck 1 61257 ++
    [.assess 1 1 (Script.unanswered 61257), .tick 61300]

def failRetry : List Action :=
  [.retryFails 1 (Script.unanswered 61300)]

def confirmation : List Network.Action :=
  [.retryAssess 1 (Script.unanswered 61300), .startProbe 2, .finishProbe 2 Script.online,
    .openInspection 2] ++ Script.record 2 2 ++ [.confirmAssess 1]

/-- The guard's next inspection starts before the retry fails or after it. -/
def confirmedFailure (early : Bool) : List Action :=
  failedCheck.map .network ++ (if early then [] else failRetry) ++ [.network (.inspect 2 1)] ++
    (if early then failRetry else []) ++ confirmation.map .network

def returnedFailure (s : TracedSystem) (job : JobId) : Bool :=
  match s.network.assessments.get job with
  | some (.assessed result _) => isNetworkFailure result
  | _ => false

theorem confirmation_fresh_after_retry :
    ∃ visited s, Transition.Run (step Script.config) TracedSystem.initial visited s ∧
      returnedFailure s 1 = true ∧
      Transition.Along (fun before a => confirmsFresh before a = true) visited := by
  have passed : Transition.replaySatisfies (step Script.config) TracedSystem.initial
      (confirmedFailure false) (fun visited s =>
        (visited.all fun pair => !retryOverlaps Script.config pair.1 pair.2) &&
          returnedFailure s 1) = true := by decide +kernel
  obtain ⟨visited, s, run, apart, returned⟩ := Transition.run_avoiding_of_replay passed
  exact ⟨visited, s, run, returned, confirmation_fresh run apart⟩

/-- A tick has started an inspection before the retry fails, and the assessment joins it. -/
theorem confirmation_joins_earlier :
    ¬∀ (config : NetworkConfig) (visited : List (TracedSystem × Action)) (s : TracedSystem),
      Transition.Run (step config) TracedSystem.initial visited s →
      probeEnabled s.network.net.settings = true →
        Transition.Along (fun before a => confirmsFresh before a = true) visited := by
  intro fresh
  have passed : Transition.replaySatisfies (step Script.config) TracedSystem.initial
      (confirmedFailure true) (fun visited s =>
        (visited.any fun pair => !confirmsFresh pair.1 pair.2) &&
          probeEnabled s.network.net.settings) = true := by decide +kernel
  obtain ⟨visited, s, run, found⟩ := Transition.run_of_replay_satisfies passed
  rw [Bool.and_eq_true, List.any_eq_true] at found
  obtain ⟨⟨⟨before, a⟩, member, stale⟩, enabled⟩ := found
  have always := fresh Script.config visited s run enabled before a member
  simp [always] at stale

end LinkAlive.Network.Freshness
