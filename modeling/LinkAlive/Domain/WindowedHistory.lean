import LinkAlive.Domain.CheckHistory

/-!
# The windowed-history specification of the health-state machine

A run of `applyCheckResult` from the reset state is characterised by conditions on
the participating results alone: lengths of trailing runs, and a window of failures
that no window of successes follows.
-/

namespace LinkAlive

open Debounce

set_option autoImplicit false

section Runs

variable {failureThreshold recoveryThreshold configVersion : Nat}

theorem run_checks_cons {state final : MonitorState} {input : CheckTransitionInput}
    {rest : List CheckTransitionInput} {effects : List IncidentEffect}
    (returned : runChecks state (input :: rest) = .ok (final, effects)) :
    ∃ result later, applyCheckResult state input = .ok result ∧
      runChecks result.state rest = .ok (final, later) ∧
      effects = result.incidentEffect :: later := by
  simp only [runChecks, bind, Except.bind, pure, Except.pure] at returned
  split at returned
  · cases returned
  rename_i result applied
  split at returned
  · cases returned
  rename_i outcome tail
  cases returned
  exact ⟨result, _, applied, tail, rfl⟩

theorem run_checks_append {state final : MonitorState} {front back : List CheckTransitionInput}
    {effects : List IncidentEffect}
    (returned : runChecks state (front ++ back) = .ok (final, effects)) :
    ∃ middle early late, runChecks state front = .ok (middle, early) ∧
      runChecks middle back = .ok (final, late) ∧ effects = early ++ late := by
  induction front generalizing state effects with
  | nil => exact ⟨state, [], effects, rfl, returned, rfl⟩
  | cons input rest ih =>
      obtain ⟨result, later, applied, tail, rfl⟩ := run_checks_cons returned
      obtain ⟨middle, early, late, head, last, rfl⟩ := ih tail
      refine ⟨middle, result.incidentEffect :: early, late, ?_, last, rfl⟩
      simp [runChecks, applied, head, bind, Except.bind, pure, Except.pure]

theorem run_checks_length {state final : MonitorState} {inputs : List CheckTransitionInput}
    {effects : List IncidentEffect} (returned : runChecks state inputs = .ok (final, effects)) :
    effects.length = inputs.length := by
  induction inputs generalizing state effects with
  | nil =>
      cases returned
      rfl
  | cons input rest ih =>
      obtain ⟨result, later, _, tail, rfl⟩ := run_checks_cons returned
      simp [ih tail]

theorem participating_concat (inputs : List CheckTransitionInput) (input : CheckTransitionInput) :
    participating configVersion (inputs ++ [input]) =
      if input.participates configVersion then participating configVersion inputs ++ [input]
      else participating configVersion inputs := by
  cases inside : input.participates configVersion <;> simp [participating, inside]

theorem incident_open_after_concat (effects : List IncidentEffect) (effect : IncidentEffect) :
    incidentOpenAfter (effects ++ [effect]) = effect.leavesOpen (incidentOpenAfter effects) := by
  simp [incidentOpenAfter]

/-- The effect of one more result turns the alarm of the history into the next one. -/
theorem history_effect_opens (history : List CheckTransitionInput)
    (input : CheckTransitionInput) (checkedAt : Time) (effects : List IncidentEffect)
    (agrees : incidentOpenAfter effects =
      (Automaton.watch CheckTransitionInput.isFailure failureThreshold recoveryThreshold
        history).raised) :
    incidentOpenAfter
        (effects ++ [historyEffect failureThreshold recoveryThreshold history input checkedAt]) =
      (Automaton.watch CheckTransitionInput.isFailure failureThreshold recoveryThreshold
        (history ++ [input])).raised := by
  rw [incident_open_after_concat, agrees, Automaton.watch_concat]
  simp only [historyEffect]
  generalize Automaton.watch CheckTransitionInput.isFailure failureThreshold recoveryThreshold
    history = automaton
  obtain ⟨raised, bads, goods⟩ := automaton
  cases failure : input.isFailure with
  | false =>
      by_cases enough : recoveryThreshold ≤ goods + 1 <;> cases raised <;>
        simp [Automaton.observe, enough, IncidentEffect.leavesOpen]
  | true =>
      by_cases enough : failureThreshold ≤ bads + 1 <;> cases raised <;>
        simp [Automaton.observe, enough, IncidentEffect.leavesOpen]

/-- The invariant of a run from the reset state. -/
structure FollowsHistory (failureThreshold recoveryThreshold configVersion : Nat)
    (inputs : List CheckTransitionInput) (final : MonitorState)
    (effects : List IncidentEffect) : Prop where
  state : final = historyState failureThreshold recoveryThreshold configVersion
    (participating configVersion inputs)
  dated : ∀ input ∈ participating configVersion inputs, ∃ time, input.checkedAt = some time
  alarm : incidentOpenAfter effects =
    (Automaton.watch CheckTransitionInput.isFailure failureThreshold recoveryThreshold
      (participating configVersion inputs)).raised

/-- One more call: its effect belongs to the history before it. -/
theorem follows_history_step {inputs : List CheckTransitionInput} {middle : MonitorState}
    {effects : List IncidentEffect} {input : CheckTransitionInput}
    {result : StateTransitionResult}
    (failurePositive : 1 ≤ failureThreshold) (recoveryPositive : 1 ≤ recoveryThreshold)
    (failureEq : input.failureThreshold = failureThreshold)
    (recoveryEq : input.recoveryThreshold = recoveryThreshold)
    (follows : FollowsHistory failureThreshold recoveryThreshold configVersion inputs middle
      effects)
    (returned : applyCheckResult middle input = .ok result) :
    FollowsHistory failureThreshold recoveryThreshold configVersion (inputs ++ [input])
        result.state (effects ++ [result.incidentEffect]) ∧
      if input.participates configVersion then
        ∃ checkedAt, input.checkedAt = some checkedAt ∧ result.incidentEffect =
          historyEffect failureThreshold recoveryThreshold (participating configVersion inputs)
            input checkedAt
      else result.incidentEffect = .none := by
  rw [follows.state] at returned
  have step := apply_check_result_history failurePositive recoveryPositive failureEq recoveryEq
    follows.dated returned
  by_cases inside : input.participates configVersion = true
  · rw [if_pos inside] at step ⊢
    obtain ⟨checkedAt, valid, state, effect⟩ := step
    refine ⟨⟨?_, ?_, ?_⟩, checkedAt, valid, effect⟩
    · rw [participating_concat, if_pos inside, state]
    · rw [participating_concat, if_pos inside]
      intro earlier member
      rcases List.mem_append.1 member with before | last
      · exact follows.dated earlier before
      · rw [List.mem_singleton.1 last]
        exact ⟨checkedAt, valid⟩
    · rw [participating_concat, if_pos inside, effect]
      exact history_effect_opens _ _ _ _ follows.alarm
  · rw [if_neg inside] at step ⊢
    refine ⟨⟨?_, ?_, ?_⟩, step.2⟩
    · rw [participating_concat, if_neg inside, step.1]
    · rw [participating_concat, if_neg inside]
      exact follows.dated
    · rw [participating_concat, if_neg inside, step.2, incident_open_after_concat]
      exact follows.alarm

theorem run_checks_follows_history (failurePositive : 1 ≤ failureThreshold)
    (recoveryPositive : 1 ≤ recoveryThreshold) {inputs : List CheckTransitionInput}
    (thresholds : ∀ input ∈ inputs, input.failureThreshold = failureThreshold ∧
      input.recoveryThreshold = recoveryThreshold)
    {final : MonitorState} {effects : List IncidentEffect}
    (returned : runChecks (pendingState configVersion) inputs = .ok (final, effects)) :
    FollowsHistory failureThreshold recoveryThreshold configVersion inputs final effects := by
  induction inputs using List.reverseRecOn generalizing final effects with
  | nil =>
      cases returned
      exact ⟨rfl, by simp [participating], rfl⟩
  | append_singleton inputs input ih =>
      obtain ⟨middle, early, late, head, last, rfl⟩ := run_checks_append returned
      obtain ⟨result, rest, call, done, rfl⟩ := run_checks_cons last
      cases done
      have follows := ih (fun earlier member => thresholds earlier (by simp [member])) head
      have equal := thresholds input (by simp)
      exact (follows_history_step failurePositive recoveryPositive equal.1 equal.2 follows call).1

theorem run_checks_participating {state final : MonitorState}
    {inputs : List CheckTransitionInput} {effects : List IncidentEffect}
    (active : state.lifecycleStatus = .active) (version : state.configVersion = configVersion)
    (returned : runChecks state inputs = .ok (final, effects)) :
    runChecks state (participating configVersion inputs) =
      .ok (final, participatingEffects configVersion inputs effects) := by
  induction inputs generalizing state effects with
  | nil =>
      cases returned
      rfl
  | cons input rest ih =>
      obtain ⟨result, later, call, tail, rfl⟩ := run_checks_cons returned
      have kept : result.state.lifecycleStatus = .active ∧
          result.state.configVersion = configVersion := by
        cases apply_check_result_cases call with
        | ignored => exact ⟨active, version⟩
        | success => exact ⟨active, version⟩
        | failure => exact ⟨active, version⟩
      have shorter := ih kept.1 kept.2 tail
      cases inside : input.participates configVersion with
      | true =>
          simp only [participating, participatingEffects] at shorter
          simp [participating, participatingEffects, inside, runChecks, call, shorter, bind,
            Except.bind, pure, Except.pure]
      | false =>
          have same : result.state = state := by
            cases apply_check_result_cases call with
            | ignored => rfl
            | success _ _ participates => simp [version, inside] at participates
            | failure _ _ participates => simp [version, inside] at participates
          rw [same] at shorter
          simpa [participating, participatingEffects, inside] using shorter

/-- A run returns when every input passes the assertions and no counter can leave the
safe integers. -/
theorem run_checks_returns {state : MonitorState} {inputs : List CheckTransitionInput}
    (versionPositive : 1 ≤ state.configVersion) (versionSafe : state.configVersion ≤ maxSafeInteger)
    (inputsValid : ∀ input ∈ inputs, ∃ time, assertTransitionInput input = .ok time)
    (failuresSafe : state.consecutiveFailures + inputs.length ≤ maxSafeInteger)
    (successesSafe : state.consecutiveSuccesses + inputs.length ≤ maxSafeInteger) :
    ∃ outcome, runChecks state inputs = .ok outcome := by
  induction inputs generalizing state with
  | nil => exact ⟨_, rfl⟩
  | cons input rest ih =>
      rw [List.length_cons] at failuresSafe successesSafe
      obtain ⟨time, inputValid⟩ := inputsValid input List.mem_cons_self
      have stateValid : assertState state = .ok () := by
        have failures : state.consecutiveFailures ≤ maxSafeInteger := by omega
        have successes : state.consecutiveSuccesses ≤ maxSafeInteger := by omega
        simp [assertState, isSafeInteger, versionSafe, failures, successes,
          Nat.pos_iff_ne_zero.1 versionPositive]
      obtain ⟨result, call⟩ := apply_check_result_returns stateValid inputValid
      have bounds : result.state.configVersion = state.configVersion ∧
          result.state.consecutiveFailures ≤ state.consecutiveFailures + 1 ∧
          result.state.consecutiveSuccesses ≤ state.consecutiveSuccesses + 1 := by
        cases apply_check_result_cases call with
        | ignored => exact ⟨rfl, Nat.le_succ _, Nat.le_succ _⟩
        | success => exact ⟨rfl, Nat.zero_le _, le_refl _⟩
        | failure => exact ⟨rfl, le_refl _, Nat.zero_le _⟩
      obtain ⟨sameVersion, fewFailures, fewSuccesses⟩ := bounds
      have versionKept : 1 ≤ result.state.configVersion := by omega
      have versionStillSafe : result.state.configVersion ≤ maxSafeInteger := by omega
      obtain ⟨outcome, tail⟩ := ih versionKept versionStillSafe
        (fun later member => inputsValid later (List.mem_cons_of_mem _ member))
        (by omega) (by omega)
      exact ⟨_, by simp [runChecks, call, tail, bind, Except.bind, pure, Except.pure]; rfl⟩

end Runs

def EndsIn (history : List CheckTransitionInput) (outcome : CheckOutcome) : Prop :=
  ∃ last, history.getLast? = some last ∧ last.outcome = outcome

/-- The windowed-history specification of a run from the reset state. The first four
groups speak of the participating history only; the last one says that the other
inputs emit nothing and can be deleted. -/
structure WindowedHistory (failureThreshold recoveryThreshold configVersion : Nat)
    (inputs : List CheckTransitionInput) (final : MonitorState)
    (effects : List IncidentEffect) : Prop where
  consecutiveFailures : final.consecutiveFailures =
    ((participating configVersion inputs).rtakeWhile CheckTransitionInput.isFailure).length
  consecutiveSuccesses : final.consecutiveSuccesses =
    ((participating configVersion inputs).rtakeWhile fun input => !input.isFailure).length
  incidentOpen : incidentOpenAfter effects = true ↔
    Raised CheckTransitionInput.isFailure failureThreshold recoveryThreshold
      (participating configVersion inputs)
  pending : final.healthState = .pending ↔ participating configVersion inputs = []
  up : final.healthState = .up ↔
    incidentOpenAfter effects = false ∧ EndsIn (participating configVersion inputs) .success
  suspect : final.healthState = .suspect ↔
    incidentOpenAfter effects = false ∧ EndsIn (participating configVersion inputs) .targetFailure
  recovering : final.healthState = .recovering ↔
    incidentOpenAfter effects = true ∧ EndsIn (participating configVersion inputs) .success
  down : final.healthState = .down ↔
    incidentOpenAfter effects = true ∧ EndsIn (participating configVersion inputs) .targetFailure
  opened : ∀ before input after, inputs = before ++ input :: after →
    ∀ firstFailureAt detectedAt firstErrorType lastErrorType,
      effects[before.length]? =
          some (.opened firstFailureAt detectedAt firstErrorType lastErrorType) →
        ∃ first, ((participating configVersion (before ++ [input])).rtakeWhile
            CheckTransitionInput.isFailure).head? = some first ∧
          first.checkedAt = some firstFailureAt ∧ first.errorType = firstErrorType ∧
          input.checkedAt = some detectedAt ∧ input.errorType = lastErrorType
  silent : ∀ before input after, inputs = before ++ input :: after →
    input.participates configVersion = false → effects[before.length]? = some .none
  deletion : runChecks (pendingState configVersion) (participating configVersion inputs) =
    .ok (final, participatingEffects configVersion inputs effects)

section Specification

variable {failureThreshold recoveryThreshold configVersion : Nat}

theorem health_of_specified (raised : Bool) (history : List CheckTransitionInput)
    (outcomes : ∀ input ∈ history, input.outcome = .success ∨ input.outcome = .targetFailure) :
    (healthOf raised history.getLast? = .pending ↔ history = []) ∧
    (healthOf raised history.getLast? = .up ↔ raised = false ∧ EndsIn history .success) ∧
    (healthOf raised history.getLast? = .suspect ↔
      raised = false ∧ EndsIn history .targetFailure) ∧
    (healthOf raised history.getLast? = .recovering ↔ raised = true ∧ EndsIn history .success) ∧
    (healthOf raised history.getLast? = .down ↔
      raised = true ∧ EndsIn history .targetFailure) := by
  have empty : history = [] ↔ history.getLast? = none := List.getLast?_eq_none_iff.symm
  rw [empty]
  cases ending : history.getLast? with
  | none => simp [healthOf, EndsIn, ending]
  | some last =>
      have member : last ∈ history := List.mem_of_getLast? ending
      rcases outcomes last member with outcome | outcome <;> cases raised <;>
        simp [healthOf, EndsIn, ending, CheckTransitionInput.isFailure, outcome]

theorem participating_outcomes (inputs : List CheckTransitionInput) :
    ∀ input ∈ participating configVersion inputs,
      input.outcome = .success ∨ input.outcome = .targetFailure := by
  intro input member
  have inside := List.of_mem_filter member
  simp only [CheckTransitionInput.participates, Bool.and_eq_true, Bool.or_eq_true,
    decide_eq_true_eq] at inside
  exact inside.2

theorem run_checks_at (failurePositive : 1 ≤ failureThreshold)
    (recoveryPositive : 1 ≤ recoveryThreshold)
    {before after : List CheckTransitionInput} {input : CheckTransitionInput}
    (thresholds : ∀ earlier ∈ before ++ input :: after,
      earlier.failureThreshold = failureThreshold ∧
        earlier.recoveryThreshold = recoveryThreshold)
    {final : MonitorState} {effects : List IncidentEffect}
    (returned : runChecks (pendingState configVersion) (before ++ input :: after) =
      .ok (final, effects)) :
    ∃ middle early result,
      FollowsHistory failureThreshold recoveryThreshold configVersion before middle early ∧
      applyCheckResult middle input = .ok result ∧
      effects[before.length]? = some result.incidentEffect := by
  obtain ⟨middle, early, late, head, last, rfl⟩ := run_checks_append returned
  obtain ⟨result, rest, call, _, rfl⟩ := run_checks_cons last
  have follows := run_checks_follows_history failurePositive recoveryPositive
    (fun earlier member => thresholds earlier (List.mem_append_left _ member)) head
  refine ⟨middle, early, result, follows, call, ?_⟩
  rw [← run_checks_length head]
  simp

/-- An effect that opens an incident names the first failure of the trailing streak. -/
theorem history_effect_opened {history : List CheckTransitionInput}
    {input : CheckTransitionInput} {checkedAt firstFailureAt detectedAt : Time}
    {firstErrorType lastErrorType : Option CheckErrorType}
    (dated : ∀ earlier ∈ history ++ [input], ∃ time, earlier.checkedAt = some time)
    (opens : historyEffect failureThreshold recoveryThreshold history input checkedAt =
      .opened firstFailureAt detectedAt firstErrorType lastErrorType) :
    ∃ first, ((history ++ [input]).rtakeWhile CheckTransitionInput.isFailure).head? = some first ∧
      first.checkedAt = some firstFailureAt ∧ first.errorType = firstErrorType ∧
      detectedAt = checkedAt ∧ input.errorType = lastErrorType := by
  cases failure : input.isFailure with
  | false =>
      simp only [historyEffect, failure, Bool.false_eq_true, if_false] at opens
      split at opens <;> cases opens
  | true =>
      have longer := List.rtakeWhile_concat_pos CheckTransitionInput.isFailure history input
        failure
      cases streak : (history ++ [input]).rtakeWhile CheckTransitionInput.isFailure with
      | nil => simp [longer] at streak
      | cons first rest =>
          have member : first ∈ history ++ [input] := by
            apply (List.rtakeWhile_suffix CheckTransitionInput.isFailure _).subset
            simp [streak]
          obtain ⟨time, firstDated⟩ := dated first member
          simp only [historyEffect, failure, if_true, streak, List.head?_cons,
            Option.bind_some, firstDated, Option.getD_some] at opens
          split at opens
          · cases opens
          · split at opens
            · cases opens
              exact ⟨first, rfl, firstDated, rfl, rfl, rfl⟩
            · cases opens

theorem windowed_history_of_run (failurePositive : 1 ≤ failureThreshold)
    (recoveryPositive : 1 ≤ recoveryThreshold) {inputs : List CheckTransitionInput}
    (thresholds : ∀ input ∈ inputs, input.failureThreshold = failureThreshold ∧
      input.recoveryThreshold = recoveryThreshold)
    {final : MonitorState} {effects : List IncidentEffect}
    (returned : runChecks (pendingState configVersion) inputs = .ok (final, effects)) :
    WindowedHistory failureThreshold recoveryThreshold configVersion inputs final effects := by
  have follows := run_checks_follows_history failurePositive recoveryPositive thresholds returned
  have automaton := Automaton.watch_spec CheckTransitionInput.isFailure failurePositive
    recoveryPositive (participating configVersion inputs)
  have health := health_of_specified (incidentOpenAfter effects)
    (participating configVersion inputs) (participating_outcomes inputs)
  have healthState : final.healthState = healthOf (incidentOpenAfter effects)
      (participating configVersion inputs).getLast? := by
    rw [follows.state, follows.alarm]
    rfl
  rw [← healthState] at health
  obtain ⟨pending, up, suspect, recovering, down⟩ := health
  refine ⟨?_, ?_, ?_, pending, up, suspect, recovering, down, ?_, ?_,
    run_checks_participating rfl rfl returned⟩
  · rw [follows.state]
    exact automaton.1
  · rw [follows.state]
    exact automaton.2.1
  · rw [follows.alarm]
    exact automaton.2.2
  · rintro before input after rfl firstFailureAt detectedAt firstErrorType lastErrorType found
    obtain ⟨middle, early, result, prior, call, here⟩ :=
      run_checks_at failurePositive recoveryPositive thresholds returned
    rw [here, Option.some_inj] at found
    have equal := thresholds input (by simp)
    have step := follows_history_step failurePositive recoveryPositive equal.1 equal.2 prior call
    obtain ⟨next, effect⟩ := step
    cases inside : input.participates configVersion with
    | false => simp [inside, found] at effect
    | true =>
        rw [if_pos inside] at effect
        obtain ⟨checkedAt, valid, effect⟩ := effect
        have dated := next.dated
        rw [participating_concat, if_pos inside] at dated ⊢
        rw [found] at effect
        obtain ⟨first, head, firstAt, firstError, detected, lastError⟩ :=
          history_effect_opened dated effect.symm
        exact ⟨first, head, firstAt, firstError, by rw [valid, detected], lastError⟩
  · rintro before input after rfl outside
    obtain ⟨middle, early, result, prior, call, here⟩ :=
      run_checks_at failurePositive recoveryPositive thresholds returned
    have equal := thresholds input (by simp)
    have step := follows_history_step failurePositive recoveryPositive equal.1 equal.2 prior call
    have silent := step.2
    rw [if_neg (by simp [outside])] at silent
    rw [here, silent]

/-- The machine equals its windowed-history specification. -/
theorem apply_check_result_windowed_history (failureThreshold recoveryThreshold configVersion : Nat)
    (inputs : List CheckTransitionInput)
    (failurePositive : 1 ≤ failureThreshold) (recoveryPositive : 1 ≤ recoveryThreshold)
    (thresholds : ∀ input ∈ inputs, input.failureThreshold = failureThreshold ∧
      input.recoveryThreshold = recoveryThreshold) :
    (1 ≤ configVersion → configVersion ≤ maxSafeInteger → inputs.length ≤ maxSafeInteger →
      (∀ input ∈ inputs, ∃ time, assertTransitionInput input = .ok time) →
      ∃ final effects, runChecks (pendingState configVersion) inputs = .ok (final, effects)) ∧
    ∀ final effects, runChecks (pendingState configVersion) inputs = .ok (final, effects) →
      WindowedHistory failureThreshold recoveryThreshold configVersion inputs final effects := by
  refine ⟨?_, fun final effects returned =>
    windowed_history_of_run failurePositive recoveryPositive thresholds returned⟩
  intro versionPositive versionSafe short valid
  have zeroFailures : (pendingState configVersion).consecutiveFailures = 0 := rfl
  have zeroSuccesses : (pendingState configVersion).consecutiveSuccesses = 0 := rfl
  have versionKept : (pendingState configVersion).configVersion = configVersion := rfl
  obtain ⟨⟨final, effects⟩, returned⟩ := run_checks_returns (versionKept ▸ versionPositive)
    (versionKept ▸ versionSafe) valid (by omega) (by omega)
  exact ⟨final, effects, returned⟩

def sampleResult (outcome : CheckOutcome) (checkedAt : Time) (errorType : Option CheckErrorType) :
    CheckTransitionInput where
  source := .scheduled
  outcome := outcome
  configVersion := 1
  checkedAt := some checkedAt
  errorType := errorType
  failureThreshold := 2
  recoveryThreshold := 2

/-- A timeout and a refused connection, with a platform error in between, open an incident
that one success does not close. -/
def sampleRun : List CheckTransitionInput :=
  [sampleResult .targetFailure 10 (some .connectTimeout),
    sampleResult .platformError 20 (some .platformError),
    sampleResult .targetFailure 30 (some .connectionRefused),
    sampleResult .success 40 none]

theorem apply_check_result_windowed_history_sample :
    ∃ final, runChecks (pendingState 1) sampleRun =
        .ok (final, [.none, .none, .opened 10 30 (some .connectTimeout) (some .connectionRefused),
          .none]) ∧
      WindowedHistory 2 2 1 sampleRun final
        [.none, .none, .opened 10 30 (some .connectTimeout) (some .connectionRefused), .none] ∧
      final.healthState = .recovering := by
  have spec := apply_check_result_windowed_history 2 2 1 sampleRun (by decide) (by decide)
    (by decide)
  exact ⟨_, rfl, spec.2 _ _ rfl, rfl⟩

end Specification

end LinkAlive
