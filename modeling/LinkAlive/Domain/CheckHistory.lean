import LinkAlive.Domain.StateMachine
import LinkAlive.Foundation.Debounce

/-!
# The health-state machine as a condition on its history

A monitor that starts pending is the debouncing automaton over the results that
take part: a failure is a bad sample, a success a good one. Counters, health,
streak fields and effects of a run are therefore functions of the participating
inputs alone, and an incident is open exactly when the history raises the alarm.
-/

namespace LinkAlive

open Debounce

set_option autoImplicit false

def pendingState (configVersion : Nat) : MonitorState where
  lifecycleStatus := .active
  healthState := .pending
  consecutiveFailures := 0
  consecutiveSuccesses := 0
  failureStreakStartedAt := none
  failureStreakFirstErrorType := none
  configVersion := configVersion

/-- Calls `applyCheckResult` on the inputs in order and collects the effects. -/
def runChecks : MonitorState → List CheckTransitionInput →
    Except RangeError (MonitorState × List IncidentEffect)
  | state, [] => .ok (state, [])
  | state, input :: rest => do
      let result ← applyCheckResult state input
      let (final, effects) ← runChecks result.state rest
      return (final, result.incidentEffect :: effects)

def IncidentEffect.leavesOpen (isOpen : Bool) : IncidentEffect → Bool
  | .opened .. => true
  | .resolve .. | .cancel .. => false
  | .none | .update _ => isOpen

def incidentOpenAfter (effects : List IncidentEffect) : Bool :=
  effects.foldl IncidentEffect.leavesOpen false

def CheckTransitionInput.isFailure (input : CheckTransitionInput) : Bool :=
  input.outcome = .targetFailure

def participating (configVersion : Nat) (inputs : List CheckTransitionInput) :
    List CheckTransitionInput :=
  inputs.filter fun input => input.participates configVersion

def participatingEffects (configVersion : Nat) (inputs : List CheckTransitionInput)
    (effects : List IncidentEffect) : List IncidentEffect :=
  ((inputs.zip effects).filter fun pair => pair.1.participates configVersion).map Prod.snd

/-- The health state that belongs to an alarm and to the last participating input. -/
def healthOf (raised : Bool) (last : Option CheckTransitionInput) : MonitorHealth :=
  match last with
  | none => .pending
  | some input =>
      if input.isFailure then if raised then .down else .suspect
      else if raised then .recovering else .up

def historyState (failureThreshold recoveryThreshold configVersion : Nat)
    (history : List CheckTransitionInput) : MonitorState :=
  let automaton := Automaton.watch CheckTransitionInput.isFailure failureThreshold
    recoveryThreshold history
  let streak := history.rtakeWhile CheckTransitionInput.isFailure
  { lifecycleStatus := .active
    healthState := healthOf automaton.raised history.getLast?
    consecutiveFailures := automaton.bads
    consecutiveSuccesses := automaton.goods
    failureStreakStartedAt := streak.head?.bind CheckTransitionInput.checkedAt
    failureStreakFirstErrorType := streak.head?.bind CheckTransitionInput.errorType
    configVersion := configVersion }

def historyEffect (failureThreshold recoveryThreshold : Nat)
    (history : List CheckTransitionInput) (input : CheckTransitionInput) (checkedAt : Time) :
    IncidentEffect :=
  let before := Automaton.watch CheckTransitionInput.isFailure failureThreshold
    recoveryThreshold history
  let after := before.observe failureThreshold recoveryThreshold input.isFailure
  let streak := (history ++ [input]).rtakeWhile CheckTransitionInput.isFailure
  if input.isFailure then
    if before.raised then .update input.errorType
    else if after.raised then
      .opened ((streak.head?.bind CheckTransitionInput.checkedAt).getD checkedAt) checkedAt
        (streak.head?.bind CheckTransitionInput.errorType) input.errorType
    else .none
  else if before.raised && !after.raised then .resolve checkedAt .recovered
  else .none

section Step

variable {failureThreshold recoveryThreshold configVersion : Nat}
  {history : List CheckTransitionInput}

theorem has_incident_health_of (raised : Bool) (last : Option CheckTransitionInput)
    (quiet : last = none → raised = false) :
    (healthOf raised last).hasIncident = raised := by
  cases last with
  | none => simp [healthOf, MonitorHealth.hasIncident, quiet rfl]
  | some input =>
      cases failure : input.isFailure <;> cases raised <;>
        simp [healthOf, failure, MonitorHealth.hasIncident]

theorem history_state_has_incident (failureThreshold recoveryThreshold configVersion : Nat)
    (history : List CheckTransitionInput) :
    (historyState failureThreshold recoveryThreshold configVersion history).healthState.hasIncident =
      (Automaton.watch CheckTransitionInput.isFailure failureThreshold recoveryThreshold
        history).raised := by
  apply has_incident_health_of
  intro empty
  rw [List.getLast?_eq_none_iff] at empty
  subst empty
  rfl

theorem apply_success_history {input : CheckTransitionInput} {checkedAt : Time}
    (outcome : input.outcome = .success) :
    applySuccess (historyState failureThreshold recoveryThreshold configVersion history)
        recoveryThreshold checkedAt =
      (historyState failureThreshold recoveryThreshold configVersion (history ++ [input]),
        historyEffect failureThreshold recoveryThreshold history input checkedAt) := by
  have good : input.isFailure = false := by simp [CheckTransitionInput.isFailure, outcome]
  have incident := history_state_has_incident failureThreshold recoveryThreshold configVersion history
  have noStreak : (history ++ [input]).rtakeWhile CheckTransitionInput.isFailure = [] :=
    List.rtakeWhile_concat_neg _ _ _ (by simp [good])
  simp only [applySuccess, incident]
  simp only [historyState, historyEffect, Automaton.watch_concat, Automaton.observe, good,
    noStreak, healthOf, List.getLast?_concat]
  have enough := Nat.lt_or_ge ((Automaton.watch CheckTransitionInput.isFailure failureThreshold
    recoveryThreshold history).goods + 1) recoveryThreshold
  cases raised : (Automaton.watch CheckTransitionInput.isFailure failureThreshold
    recoveryThreshold history).raised with
  | false => simp
  | true =>
      rcases enough with short | long
      · simp [Nat.not_le.2 short]
      · simp [long]

/-- A failure continues the trailing streak, whose first input keeps its time and error. -/
theorem apply_failure_history {input : CheckTransitionInput} {checkedAt : Time}
    (failurePositive : 1 ≤ failureThreshold) (recoveryPositive : 1 ≤ recoveryThreshold)
    (outcome : input.outcome = .targetFailure) (valid : input.checkedAt = some checkedAt)
    (dated : ∀ earlier ∈ history, ∃ time, earlier.checkedAt = some time) :
    applyFailure (historyState failureThreshold recoveryThreshold configVersion history)
        failureThreshold checkedAt input.errorType =
      (historyState failureThreshold recoveryThreshold configVersion (history ++ [input]),
        historyEffect failureThreshold recoveryThreshold history input checkedAt) := by
  have bad : input.isFailure = true := by simp [CheckTransitionInput.isFailure, outcome]
  have incident := history_state_has_incident failureThreshold recoveryThreshold configVersion history
  have bads := (Automaton.watch_spec CheckTransitionInput.isFailure failurePositive
    recoveryPositive history).1
  have longer := List.rtakeWhile_concat_pos CheckTransitionInput.isFailure history input bad
  simp only [applyFailure, incident]
  simp only [historyState, historyEffect, Automaton.watch_concat, Automaton.observe, bad, longer,
    healthOf, List.getLast?_concat, bads]
  cases streak : history.rtakeWhile CheckTransitionInput.isFailure with
  | nil => simp [valid]
  | cons first rest =>
      have firstMember : first ∈ history := by
        apply (List.rtakeWhile_suffix CheckTransitionInput.isFailure history).subset
        simp [streak]
      obtain ⟨time, firstDated⟩ := dated first firstMember
      simp [firstDated]

theorem apply_check_result_history {input : CheckTransitionInput}
    {result : StateTransitionResult}
    (failurePositive : 1 ≤ failureThreshold) (recoveryPositive : 1 ≤ recoveryThreshold)
    (failureEq : input.failureThreshold = failureThreshold)
    (recoveryEq : input.recoveryThreshold = recoveryThreshold)
    (dated : ∀ earlier ∈ history, ∃ time, earlier.checkedAt = some time)
    (returned : applyCheckResult
      (historyState failureThreshold recoveryThreshold configVersion history) input = .ok result) :
    if input.participates configVersion then
      ∃ checkedAt, input.checkedAt = some checkedAt ∧
        result.state =
          historyState failureThreshold recoveryThreshold configVersion (history ++ [input]) ∧
        result.incidentEffect =
          historyEffect failureThreshold recoveryThreshold history input checkedAt
    else
      result.state = historyState failureThreshold recoveryThreshold configVersion history ∧
        result.incidentEffect = .none := by
  cases apply_check_result_cases returned with
  | ignored reason skipped =>
      have outside : input.participates configVersion = false := skipped rfl
      rw [if_neg (by simp [outside])]
      exact ⟨rfl, rfl⟩
  | success checkedAt _ inside outcome valid =>
      have inside' : input.participates configVersion = true := inside
      rw [if_pos inside', recoveryEq, apply_success_history outcome]
      exact ⟨checkedAt, valid, rfl, rfl⟩
  | failure checkedAt _ inside outcome valid =>
      have inside' : input.participates configVersion = true := inside
      rw [if_pos inside', failureEq,
        apply_failure_history failurePositive recoveryPositive outcome valid dated]
      exact ⟨checkedAt, valid, rfl, rfl⟩

end Step

end LinkAlive
