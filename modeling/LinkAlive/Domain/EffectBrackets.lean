import LinkAlive.Domain.Administration
import LinkAlive.Domain.CheckHistory
import LinkAlive.Foundation.Brackets

/-!
# The incident effects of the whole domain package

Runs over `applyCheckResult`, `transitionLifecycle` and `resetForConfigChange` in any
order. An incident is the bracket of the effects: OPEN opens it, RESOLVE and CANCEL close
it, UPDATE needs it. The health state says at every moment whether it is open, which is
the invariant that the three functions keep together.
-/

namespace LinkAlive

open Brackets

set_option autoImplicit false

def IncidentEffect.kind : IncidentEffect → Kind
  | .none => .outside
  | .opened .. => .opening
  | .update _ => .inner
  | .resolve .. | .cancel .. => .closing

inductive DomainCall
  | applyCheckResult (input : CheckTransitionInput)
  | transitionLifecycle (lifecycleStatus : MonitorLifecycle) (changedAt : Option Time)
  | resetForConfigChange (changedAt : Option Time) (nextConfigVersion : Option Nat)

def DomainCall.run (state : MonitorState) :
    DomainCall → Except DomainError (MonitorState × IncidentEffect)
  | .applyCheckResult input =>
      match LinkAlive.applyCheckResult state input with
      | .ok result => .ok (result.state, result.incidentEffect)
      | .error error => .error (.rangeError error)
  | .transitionLifecycle lifecycleStatus changedAt => do
      let result ← LinkAlive.transitionLifecycle state lifecycleStatus changedAt
      return (result.state, result.incidentEffect)
  | .resetForConfigChange changedAt nextConfigVersion => do
      let result ← LinkAlive.resetForConfigChange state changedAt nextConfigVersion
      return (result.state, result.incidentEffect)

/-- Makes the calls in order and collects the effects; a call that throws ends the run. -/
def runCalls : MonitorState → List DomainCall →
    Except DomainError (MonitorState × List IncidentEffect)
  | state, [] => .ok (state, [])
  | state, call :: rest => do
      let (next, effect) ← call.run state
      let (final, effects) ← runCalls next rest
      return (final, effect :: effects)

/-- What the three functions keep true of a state. -/
structure MonitorState.WellFormed (state : MonitorState) : Prop where
  inactive : state.lifecycleStatus ≠ .active →
    state.healthState = .pending ∧ state.consecutiveFailures = 0 ∧
      state.consecutiveSuccesses = 0 ∧ state.failureStreakStartedAt = none ∧
      state.failureStreakFirstErrorType = none
  exclusive : ¬(0 < state.consecutiveFailures ∧ 0 < state.consecutiveSuccesses)
  streak : state.failureStreakStartedAt.isSome = true ↔ 0 < state.consecutiveFailures

/-- What one call does: the effect meets the incident that the health state shows and
leaves the one that the next health state shows. -/
structure CallStep (before after : MonitorState) (effect : IncidentEffect) : Prop where
  wellFormed : after.WellFormed
  meets : effect.kind.meets before.healthState.hasIncident
  leaves : effect.kind.leaves before.healthState.hasIncident = after.healthState.hasIncident
  irreversible : before.lifecycleStatus = .deleted → after.lifecycleStatus = .deleted
  version : before.configVersion ≤ after.configVersion

theorem pending_state_well_formed (configVersion : Nat) :
    (pendingState configVersion).WellFormed where
  inactive := fun inactive => absurd rfl inactive
  exclusive := by simp [pendingState]
  streak := by simp [pendingState]

theorem cleared_well_formed (state : MonitorState) : state.cleared.WellFormed where
  inactive := fun _ => ⟨rfl, rfl, rfl, rfl, rfl⟩
  exclusive := by simp [MonitorState.cleared]
  streak := by simp [MonitorState.cleared]

/-- The effects of a transition on a check result never cancel, and what they need is
what their kind needs. -/
theorem IncidentEffect.fits_kind {effect : IncidentEffect} {before after : Bool}
    (fits : effect.fits before after) :
    effect.kind.meets before ∧ effect.kind.leaves before = after := by
  cases effect with
  | none => exact ⟨trivial, fits.symm⟩
  | opened firstFailureAt detectedAt firstErrorType lastErrorType =>
      exact ⟨fits.1, fits.2.symm⟩
  | update lastErrorType => exact ⟨fits.1, by rw [fits.1, fits.2]; rfl⟩
  | resolve resolvedAt reason => exact ⟨fits.1, fits.2.symm⟩
  | cancel canceledAt reason => exact fits.elim

section Calls

variable {state : MonitorState}

theorem apply_check_result_step {input : CheckTransitionInput} {result : StateTransitionResult}
    (wellFormed : state.WellFormed) (returned : applyCheckResult state input = .ok result) :
    CallStep state result.state result.incidentEffect := by
  have kept := apply_check_result_keeps returned
  have fits := IncidentEffect.fits_kind (apply_check_result_fits returned)
  refine ⟨?_, fits.1, fits.2, fun deleted => kept.1.trans deleted, Nat.le_of_eq kept.2.1.symm⟩
  cases apply_check_result_cases returned with
  | ignored reason inert => exact wellFormed
  | success checkedAt active participates outcome valid =>
      refine ⟨fun inactive => absurd active inactive, ?_, ?_⟩ <;> simp [applied, applySuccess]
  | failure checkedAt active participates outcome valid =>
      refine ⟨fun inactive => absurd active inactive, ?_, ?_⟩ <;> simp [applied, applyFailure]

theorem transition_lifecycle_step {lifecycleStatus : MonitorLifecycle} {changedAt : Option Time}
    {result : AdministrativeTransitionResult} (wellFormed : state.WellFormed)
    (returned : transitionLifecycle state lifecycleStatus changedAt = .ok result) :
    CallStep state result.state result.incidentEffect := by
  cases transition_lifecycle_cases returned with
  | same same => exact ⟨wellFormed, trivial, rfl, fun deleted => deleted, Nat.le_refl _⟩
  | changed time dated different present =>
      have cleared := cleared_well_formed state
      refine ⟨⟨fun _ => ⟨rfl, rfl, rfl, rfl, rfl⟩, cleared.exclusive, cleared.streak⟩, ?_, ?_,
        fun deleted => absurd deleted present, Nat.le_refl _⟩ <;>
        cases incident : state.healthState.hasIncident
      · trivial
      · cases lifecycleStatus with
        | active =>
            -- a monitor that is not active has no incident
            have pending := (wellFormed.inactive different).1
            rw [pending] at incident
            cases incident
        | paused => rfl
        | deleted => rfl
      · rfl
      · cases lifecycleStatus with
        | active =>
            have pending := (wellFormed.inactive different).1
            rw [pending] at incident
            cases incident
        | paused => rfl
        | deleted => rfl

theorem reset_for_config_change_step {changedAt : Option Time} {nextConfigVersion : Option Nat}
    {result : AdministrativeTransitionResult}
    (returned : resetForConfigChange state changedAt nextConfigVersion = .ok result) :
    CallStep state result.state result.incidentEffect := by
  obtain ⟨time, version, -, -, newer, rfl⟩ := reset_for_config_change_cases returned
  have cleared := cleared_well_formed state
  refine ⟨⟨fun _ => ⟨rfl, rfl, rfl, rfl, rfl⟩, cleared.exclusive, cleared.streak⟩, ?_, ?_,
    fun deleted => deleted, Nat.le_of_lt newer⟩ <;>
    cases incident : state.healthState.hasIncident
  · trivial
  · rfl
  · rfl
  · rfl

theorem domain_call_step {call : DomainCall} {next : MonitorState} {effect : IncidentEffect}
    (wellFormed : state.WellFormed) (returned : call.run state = .ok (next, effect)) :
    CallStep state next effect := by
  cases call with
  | applyCheckResult input =>
      simp only [DomainCall.run] at returned
      split at returned
      · rename_i result found
        cases returned
        exact apply_check_result_step wellFormed found
      · cases returned
  | transitionLifecycle lifecycleStatus changedAt =>
      simp only [DomainCall.run, bind, Except.bind, pure, Except.pure] at returned
      split at returned
      · cases returned
      · rename_i result found
        cases returned
        exact transition_lifecycle_step wellFormed found
  | resetForConfigChange changedAt nextConfigVersion =>
      simp only [DomainCall.run, bind, Except.bind, pure, Except.pure] at returned
      split at returned
      · cases returned
      · rename_i result found
        cases returned
        exact reset_for_config_change_step found

end Calls

section Runs

variable {state final : MonitorState} {effects : List IncidentEffect} {calls : List DomainCall}

theorem run_calls_cons {call : DomainCall} {rest : List DomainCall}
    (returned : runCalls state (call :: rest) = .ok (final, effects)) :
    ∃ next effect later, call.run state = .ok (next, effect) ∧
      runCalls next rest = .ok (final, later) ∧ effects = effect :: later := by
  simp only [runCalls, bind, Except.bind, pure, Except.pure] at returned
  split at returned
  · cases returned
  rename_i pair first
  split at returned
  · cases returned
  rename_i tail second
  cases returned
  exact ⟨pair.1, pair.2, tail.2, first, second, rfl⟩

/-- A run of calls stops at every point in a state from which the rest is a run. -/
theorem run_calls_append {before after : List DomainCall}
    (returned : runCalls state (before ++ after) = .ok (final, effects)) :
    ∃ middle emitted later, runCalls state before = .ok (middle, emitted) ∧
      runCalls middle after = .ok (final, later) ∧ effects = emitted ++ later := by
  induction before generalizing state effects with
  | nil => exact ⟨state, [], effects, rfl, returned, rfl⟩
  | cons call before ih =>
      obtain ⟨next, effect, rest, first, second, rfl⟩ := run_calls_cons returned
      obtain ⟨middle, emitted, later, head, tail, rfl⟩ := ih second
      refine ⟨middle, effect :: emitted, later, ?_, tail, rfl⟩
      simp only [runCalls, bind, Except.bind, pure, Except.pure, first, head]

/-- The run lemma: the invariant of the states, the brackets of the effects and the two
orders, by induction over the calls. -/
theorem run_calls_bracketed (wellFormed : state.WellFormed)
    (returned : runCalls state calls = .ok (final, effects)) :
    final.WellFormed ∧
      Bracketed IncidentEffect.kind state.healthState.hasIncident effects ∧
      openAfter IncidentEffect.kind state.healthState.hasIncident effects =
        final.healthState.hasIncident ∧
      (state.lifecycleStatus = .deleted → final.lifecycleStatus = .deleted) ∧
      state.configVersion ≤ final.configVersion := by
  induction calls generalizing state effects with
  | nil =>
      cases returned
      exact ⟨wellFormed, trivial, rfl, fun deleted => deleted, Nat.le_refl _⟩
  | cons call rest ih =>
      obtain ⟨next, effect, later, first, second, rfl⟩ := run_calls_cons returned
      have stepped := domain_call_step wellFormed first
      obtain ⟨finalWellFormed, bracketed, closes, irreversible, version⟩ :=
        ih stepped.wellFormed second
      refine ⟨finalWellFormed, ⟨stepped.meets, ?_⟩, ?_, ?_, stepped.version.trans version⟩
      · rw [stepped.leaves]
        exact bracketed
      · rw [open_after_cons, stepped.leaves]
        exact closes
      · exact fun deleted => irreversible (stepped.irreversible deleted)

/-- The effects of any calls that return, from the initial state on, are well bracketed,
and the health state shows at every moment whether an incident is open. Every prefix of
the calls is a run of its own, so the statement about the last state holds of every state
on the way. -/
theorem domain_effects_well_bracketed (configVersion : Nat) (calls : List DomainCall)
    (final : MonitorState) (effects : List IncidentEffect)
    (returned : runCalls (pendingState configVersion) calls = .ok (final, effects)) :
    (∀ earlier effect later, effects = earlier ++ effect :: later →
      effect.kind.meets (openAfter IncidentEffect.kind false earlier)) ∧
    (∀ earlier first between second later,
      effects = earlier ++ first :: (between ++ second :: later) →
        first.kind = .opening → second.kind = .opening →
          (∀ effect ∈ between, effect.kind ≠ .opening) →
            closings IncidentEffect.kind between = 1) ∧
    openAfter IncidentEffect.kind false effects = final.healthState.hasIncident ∧
    final.WellFormed ∧
    ∀ before after, calls = before ++ after →
      ∃ middle emitted, runCalls (pendingState configVersion) before = .ok (middle, emitted) ∧
        (middle.lifecycleStatus = .deleted → final.lifecycleStatus = .deleted) ∧
        middle.configVersion ≤ final.configVersion := by
  have initial := pending_state_well_formed configVersion
  obtain ⟨wellFormed, bracketed, closes, -, -⟩ := run_calls_bracketed initial returned
  have closed : (pendingState configVersion).healthState.hasIncident = false := rfl
  rw [closed] at bracketed closes
  refine ⟨?_, ?_, closes, wellFormed, ?_⟩
  · intro earlier effect later split
    rw [split] at bracketed
    exact bracketed.meets
  · intro earlier first between second later split opens opensAgain unopened
    rw [split] at bracketed
    exact bracketed.closes_once opens opensAgain unopened
  · intro before after split
    rw [split] at returned
    obtain ⟨middle, emitted, later, head, tail, -⟩ := run_calls_append returned
    have middleWellFormed := (run_calls_bracketed initial head).1
    obtain ⟨-, -, -, irreversible, version⟩ := run_calls_bracketed middleWellFormed tail
    exact ⟨middle, emitted, head, irreversible, version⟩

end Runs

private def failedCheck (configVersion checkedAt : Nat) : DomainCall :=
  .applyCheckResult {
    source := .scheduled
    outcome := .targetFailure
    configVersion := configVersion
    checkedAt := some checkedAt
    errorType := some .networkError
    failureThreshold := 1
    recoveryThreshold := 1 }

/-- Two incidents, the first canceled by a pause and the second by a configuration change. -/
private def twoIncidents : List DomainCall :=
  [failedCheck 1 10, failedCheck 1 20, .transitionLifecycle .paused (some 30),
    .transitionLifecycle .active (some 40), failedCheck 1 50, .resetForConfigChange (some 60) none]

private theorem two_incidents_effects :
    runCalls (pendingState 1) twoIncidents =
      .ok (pendingState 2, [.opened 10 10 (some .networkError) (some .networkError),
        .update (some .networkError), .cancel 30 .paused, .none,
        .opened 50 50 (some .networkError) (some .networkError), .cancel 60 .configChanged]) := by
  decide

theorem domain_effects_well_bracketed_sample :
    closings IncidentEffect.kind [.update (some .networkError), .cancel 30 .paused, .none] = 1 :=
  (domain_effects_well_bracketed 1 twoIncidents _ _ two_incidents_effects).2.1
    [] (.opened 10 10 (some .networkError) (some .networkError))
    [.update (some .networkError), .cancel 30 .paused, .none]
    (.opened 50 50 (some .networkError) (some .networkError)) [.cancel 60 .configChanged]
    rfl rfl rfl (by decide)

end LinkAlive
