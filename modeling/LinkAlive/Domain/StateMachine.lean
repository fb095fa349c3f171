import LinkAlive.Domain.Types

/-!
# The health-state machine

`packages/domain/src/state-machine.ts`. The functions do no I/O; a thrown
`RangeError` is the error branch of `Except`. The machine is described once, by
what an accepted success and an accepted failure do to the state, and every later
fact about it is derived from those two equations.
-/

namespace LinkAlive

set_option autoImplicit false

structure MonitorState where
  lifecycleStatus : MonitorLifecycle
  healthState : MonitorHealth
  consecutiveFailures : Nat
  consecutiveSuccesses : Nat
  failureStreakStartedAt : Option Time
  failureStreakFirstErrorType : Option CheckErrorType
  configVersion : Nat
deriving DecidableEq, Repr

/-- `checkedAt` is `none` for an invalid `Date`, whose `getTime()` is `NaN`. -/
structure CheckTransitionInput where
  source : CheckSource
  outcome : CheckOutcome
  configVersion : Nat
  checkedAt : Option Time
  errorType : Option CheckErrorType
  failureThreshold : Nat
  recoveryThreshold : Nat
deriving DecidableEq, Repr

inductive IgnoredCheckReason
  | lifecycleNotActive | nonScheduledSource | staleConfigVersion | nonTargetOutcome
deriving DecidableEq, Repr

inductive IncidentEffect
  | none
  | opened (firstFailureAt detectedAt : Time) (firstErrorType lastErrorType : Option CheckErrorType)
  | update (lastErrorType : Option CheckErrorType)
  | resolve (resolvedAt : Time) (reason : IncidentClosureReason)
  | cancel (canceledAt : Time) (reason : IncidentClosureReason)
deriving DecidableEq, Repr

structure StateTransitionResult where
  applied : Bool
  ignoredReason : Option IgnoredCheckReason
  previousHealthState : MonitorHealth
  state : MonitorState
  healthChanged : Bool
  incidentEffect : IncidentEffect
deriving DecidableEq, Repr

def assertState (state : MonitorState) : Except RangeError Unit :=
  if !isSafeInteger state.configVersion || state.configVersion < 1 then
    .error ⟨"configVersion must be a positive safe integer"⟩
  else if !isSafeInteger state.consecutiveFailures || !isSafeInteger state.consecutiveSuccesses then
    .error ⟨"consecutive counters must be non-negative safe integers"⟩
  else .ok ()

def assertTransitionInput (input : CheckTransitionInput) : Except RangeError Time :=
  if !isSafeInteger input.failureThreshold || input.failureThreshold < 1 then
    .error ⟨"failureThreshold must be a positive safe integer"⟩
  else if !isSafeInteger input.recoveryThreshold || input.recoveryThreshold < 1 then
    .error ⟨"recoveryThreshold must be a positive safe integer"⟩
  else if !isSafeInteger input.configVersion || input.configVersion < 1 then
    .error ⟨"result configVersion must be a positive safe integer"⟩
  else match input.checkedAt with
    | none => .error ⟨"checkedAt must be a valid date"⟩
    | some checkedAt => .ok checkedAt

def unchanged (state : MonitorState) (reason : IgnoredCheckReason) : StateTransitionResult where
  applied := false
  ignoredReason := some reason
  previousHealthState := state.healthState
  state := state
  healthChanged := false
  incidentEffect := .none

def MonitorHealth.hasIncident (health : MonitorHealth) : Bool :=
  health = .down || health = .recovering

/-- The success branch of `applyCheckResult`. -/
def applySuccess (state : MonitorState) (recoveryThreshold : Nat) (checkedAt : Time) :
    MonitorState × IncidentEffect :=
  let consecutiveSuccesses := state.consecutiveSuccesses + 1
  let isRecoveringFromIncident := state.healthState.hasIncident
  let recovered := isRecoveringFromIncident && decide (recoveryThreshold ≤ consecutiveSuccesses)
  ({ state with
      healthState :=
        if isRecoveringFromIncident then if recovered then .up else .recovering else .up
      consecutiveFailures := 0
      consecutiveSuccesses := consecutiveSuccesses
      failureStreakStartedAt := none
      failureStreakFirstErrorType := none },
    if recovered then .resolve checkedAt .recovered else .none)

/-- The failure branch of `applyCheckResult`. -/
def applyFailure (state : MonitorState) (failureThreshold : Nat) (checkedAt : Time)
    (errorType : Option CheckErrorType) : MonitorState × IncidentEffect :=
  let consecutiveFailures := state.consecutiveFailures + 1
  let failureStreakStartedAt :=
    if 0 < state.consecutiveFailures then state.failureStreakStartedAt.getD checkedAt
    else checkedAt
  let failureStreakFirstErrorType :=
    if 0 < state.consecutiveFailures then state.failureStreakFirstErrorType else errorType
  let alreadyIncident := state.healthState.hasIncident
  let entersDown := alreadyIncident || decide (failureThreshold ≤ consecutiveFailures)
  ({ state with
      healthState := if entersDown then .down else .suspect
      consecutiveFailures := consecutiveFailures
      consecutiveSuccesses := 0
      failureStreakStartedAt := some failureStreakStartedAt
      failureStreakFirstErrorType := failureStreakFirstErrorType },
    if alreadyIncident then .update errorType
    else if entersDown then
      .opened failureStreakStartedAt checkedAt failureStreakFirstErrorType errorType
    else .none)

def applied (state : MonitorState) (next : MonitorState × IncidentEffect) :
    StateTransitionResult where
  applied := true
  ignoredReason := none
  previousHealthState := state.healthState
  state := next.1
  healthChanged := state.healthState != next.1.healthState
  incidentEffect := next.2

/-- Applies the health-state rules for a single persisted check result. -/
def applyCheckResult (state : MonitorState) (input : CheckTransitionInput) :
    Except RangeError StateTransitionResult := do
  assertState state
  let checkedAt ← assertTransitionInput input
  if state.lifecycleStatus ≠ .active then return unchanged state .lifecycleNotActive
  if input.source ≠ .scheduled then return unchanged state .nonScheduledSource
  if input.configVersion ≠ state.configVersion then return unchanged state .staleConfigVersion
  match input.outcome with
  | .success => return applied state (applySuccess state input.recoveryThreshold checkedAt)
  | .targetFailure =>
      return applied state (applyFailure state input.failureThreshold checkedAt input.errorType)
  | .platformError | .inconclusive => return unchanged state .nonTargetOutcome

/-- A result that takes part in the state of a monitor with this configuration. -/
def CheckTransitionInput.participates (input : CheckTransitionInput) (configVersion : Nat) :
    Bool :=
  input.source = .scheduled && input.configVersion = configVersion &&
    (input.outcome = .success || input.outcome = .targetFailure)

/-- What a returning call means, branch by branch. -/
inductive CheckTransition (state : MonitorState) (input : CheckTransitionInput) :
    StateTransitionResult → Prop where
  | ignored (reason : IgnoredCheckReason) :
      (state.lifecycleStatus = .active → input.participates state.configVersion = false) →
      CheckTransition state input (unchanged state reason)
  | success (checkedAt : Time) : state.lifecycleStatus = .active →
      input.participates state.configVersion = true → input.outcome = .success →
      input.checkedAt = some checkedAt →
      CheckTransition state input
        (applied state (applySuccess state input.recoveryThreshold checkedAt))
  | failure (checkedAt : Time) : state.lifecycleStatus = .active →
      input.participates state.configVersion = true → input.outcome = .targetFailure →
      input.checkedAt = some checkedAt →
      CheckTransition state input
        (applied state (applyFailure state input.failureThreshold checkedAt input.errorType))

theorem assert_transition_input_valid {input : CheckTransitionInput} {checkedAt : Time}
    (passed : assertTransitionInput input = .ok checkedAt) :
    input.checkedAt = some checkedAt ∧ 1 ≤ input.failureThreshold ∧
      1 ≤ input.recoveryThreshold := by
  unfold assertTransitionInput at passed
  split at passed
  · cases passed
  · rename_i failure
    split at passed
    · cases passed
    · rename_i recovery
      split at passed
      · cases passed
      · simp only [Bool.or_eq_true, decide_eq_true_eq, not_or, Nat.not_lt] at failure recovery
        split at passed
        · cases passed
        · rename_i found
          cases passed
          exact ⟨found, failure.2, recovery.2⟩

/-- The inversion lemma of `applyCheckResult`: whatever it returns comes from one of
its three kinds of branches. -/
theorem apply_check_result_cases {state : MonitorState} {input : CheckTransitionInput}
    {result : StateTransitionResult} (returned : applyCheckResult state input = .ok result) :
    CheckTransition state input result := by
  simp only [applyCheckResult, bind, Except.bind, pure, Except.pure] at returned
  split at returned
  · cases returned
  split at returned
  · cases returned
  rename_i checkedAt asserted
  have valid := (assert_transition_input_valid asserted).1
  split at returned
  · rename_i inactive
    cases returned
    exact .ignored _ fun active => absurd active inactive
  rename_i active
  split at returned
  · rename_i source
    cases returned
    exact .ignored _ fun _ => by simp [CheckTransitionInput.participates, source]
  rename_i source
  split at returned
  · rename_i version
    cases returned
    exact .ignored _ fun _ => by simp [CheckTransitionInput.participates, version]
  rename_i version
  simp only [ne_eq, Decidable.not_not] at active source version
  split at returned <;> rename_i outcome <;> cases returned
  · exact .success checkedAt active
      (by simp [CheckTransitionInput.participates, source, version, outcome]) outcome valid
  · exact .failure checkedAt active
      (by simp [CheckTransitionInput.participates, source, version, outcome]) outcome valid
  · exact .ignored _ fun _ => by simp [CheckTransitionInput.participates, outcome]
  · exact .ignored _ fun _ => by simp [CheckTransitionInput.participates, outcome]

def IncidentEffect.fits (before after : Bool) : IncidentEffect → Prop
  | .none => after = before
  | .opened .. => before = false ∧ after = true
  | .update _ => before = true ∧ after = true
  | .resolve .. => before = true ∧ after = false
  | .cancel .. => False

theorem apply_success_fits (state : MonitorState) (recoveryThreshold : Nat) (checkedAt : Time) :
    (applySuccess state recoveryThreshold checkedAt).2.fits state.healthState.hasIncident
      (applySuccess state recoveryThreshold checkedAt).1.healthState.hasIncident := by
  simp only [applySuccess]
  cases incident : state.healthState.hasIncident with
  | false => simp [IncidentEffect.fits, MonitorHealth.hasIncident]
  | true =>
      by_cases enough : recoveryThreshold ≤ state.consecutiveSuccesses + 1 <;>
        simp [enough, IncidentEffect.fits, MonitorHealth.hasIncident]

theorem apply_failure_fits (state : MonitorState) (failureThreshold : Nat) (checkedAt : Time)
    (errorType : Option CheckErrorType) :
    (applyFailure state failureThreshold checkedAt errorType).2.fits
      state.healthState.hasIncident
      (applyFailure state failureThreshold checkedAt errorType).1.healthState.hasIncident := by
  simp only [applyFailure]
  cases incident : state.healthState.hasIncident with
  | true => simp [IncidentEffect.fits, MonitorHealth.hasIncident]
  | false =>
      by_cases enough : failureThreshold ≤ state.consecutiveFailures + 1 <;>
        simp [enough, IncidentEffect.fits, MonitorHealth.hasIncident]

theorem apply_check_result_fits {state : MonitorState} {input : CheckTransitionInput}
    {result : StateTransitionResult} (returned : applyCheckResult state input = .ok result) :
    result.incidentEffect.fits state.healthState.hasIncident
      result.state.healthState.hasIncident := by
  cases apply_check_result_cases returned with
  | ignored reason inert => rfl
  | success checkedAt active participates outcome valid => exact apply_success_fits _ _ _
  | failure checkedAt active participates outcome valid => exact apply_failure_fits _ _ _ _

/-- A transition keeps the lifecycle and the version; one that is not applied keeps
everything. -/
theorem apply_check_result_keeps {state : MonitorState} {input : CheckTransitionInput}
    {result : StateTransitionResult} (returned : applyCheckResult state input = .ok result) :
    result.state.lifecycleStatus = state.lifecycleStatus ∧
      result.state.configVersion = state.configVersion ∧
      (result.applied = true → state.lifecycleStatus = .active) ∧
      (result.applied = false → result.state = state ∧ result.incidentEffect = .none) := by
  cases apply_check_result_cases returned with
  | ignored reason inert => simp [unchanged]
  | success checkedAt active participates outcome valid => simp [applied, applySuccess, active]
  | failure checkedAt active participates outcome valid => simp [applied, applyFailure, active]

def IncidentEffect.timed (checkedAt : Time) : IncidentEffect → Prop
  | .opened firstFailureAt detectedAt _ _ => firstFailureAt ≤ detectedAt ∧ detectedAt = checkedAt
  | .resolve resolvedAt _ => resolvedAt = checkedAt
  | .none | .update _ | .cancel .. => True

/-- A failure streak that started before a check has started before the next state too. -/
theorem apply_failure_timed {state : MonitorState} {checkedAt : Time}
    (streak : ∀ started, state.failureStreakStartedAt = some started → started ≤ checkedAt)
    (failureThreshold : Nat) (errorType : Option CheckErrorType) :
    (∀ started, (applyFailure state failureThreshold checkedAt errorType).1.failureStreakStartedAt =
      some started → started ≤ checkedAt) ∧
      (applyFailure state failureThreshold checkedAt errorType).2.timed checkedAt := by
  have started : (if 0 < state.consecutiveFailures then
      state.failureStreakStartedAt.getD checkedAt else checkedAt) ≤ checkedAt := by
    split
    · cases since : state.failureStreakStartedAt with
      | none => exact Nat.le_refl checkedAt
      | some time => exact streak time since
    · exact Nat.le_refl checkedAt
  constructor
  · intro time same
    cases same
    exact started
  · unfold applyFailure
    dsimp only
    split
    · trivial
    · split
      · exact ⟨started, rfl⟩
      · trivial

theorem apply_check_result_timed {state : MonitorState} {input : CheckTransitionInput}
    {result : StateTransitionResult} {checkedAt : Time}
    (returned : applyCheckResult state input = .ok result) (time : input.checkedAt = some checkedAt)
    (streak : ∀ started, state.failureStreakStartedAt = some started → started ≤ checkedAt) :
    (∀ started, result.state.failureStreakStartedAt = some started → started ≤ checkedAt) ∧
      result.incidentEffect.timed checkedAt := by
  cases apply_check_result_cases returned with
  | ignored reason inert => exact ⟨streak, trivial⟩
  | success time' active participates outcome valid =>
      rw [time, Option.some_inj] at valid
      subst valid
      constructor
      · intro started same
        cases same
      · simp only [applied, applySuccess]
        split
        · rfl
        · trivial
  | failure time' active participates outcome valid =>
      rw [time, Option.some_inj] at valid
      subst valid
      exact apply_failure_timed streak _ _

/-- A call returns as soon as its two assertions pass. -/
theorem apply_check_result_returns {state : MonitorState} {input : CheckTransitionInput}
    {checkedAt : Time} (stateValid : assertState state = .ok ())
    (inputValid : assertTransitionInput input = .ok checkedAt) :
    ∃ result, applyCheckResult state input = .ok result := by
  simp only [applyCheckResult, bind, Except.bind, pure, Except.pure, stateValid, inputValid]
  split
  · exact ⟨_, rfl⟩
  split
  · exact ⟨_, rfl⟩
  split
  · exact ⟨_, rfl⟩
  split <;> exact ⟨_, rfl⟩

end LinkAlive
