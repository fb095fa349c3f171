import LinkAlive.Domain.StateMachine

/-!
# Administrative transitions of the domain package

`transitionLifecycle` and `resetForConfigChange` of `packages/domain/src/state-machine.ts`.
A date is `none` where its `getTime()` is `NaN`. Each function has one inversion lemma,
which says what it returns, and one that says when it does.
-/

namespace LinkAlive

set_option autoImplicit false

inductive DomainError
  | rangeError (error : RangeError)
  | error (message : String)
deriving DecidableEq, Repr

structure AdministrativeTransitionResult where
  state : MonitorState
  incidentEffect : IncidentEffect
deriving DecidableEq, Repr

def MonitorState.cleared (state : MonitorState) : MonitorState :=
  { state with
    healthState := .pending
    consecutiveFailures := 0
    consecutiveSuccesses := 0
    failureStreakStartedAt := none
    failureStreakFirstErrorType := none }

/-- The first checks of both transitions; what passes them has a valid date. -/
def assertChange (state : MonitorState) (changedAt : Option Time) : Except DomainError Time :=
  match assertState state, changedAt with
  | .error error, _ => .error (.rangeError error)
  | .ok (), none => .error (.rangeError ⟨"changedAt must be a valid date"⟩)
  | .ok (), some changedAt => .ok changedAt

def MonitorLifecycle.closureReason (lifecycleStatus : MonitorLifecycle) : IncidentClosureReason :=
  if lifecycleStatus = .deleted then .deleted else .paused

/-- Applies pause, resume, and soft-delete semantics. DELETED is irreversible. -/
def transitionLifecycle (state : MonitorState) (lifecycleStatus : MonitorLifecycle)
    (changedAt : Option Time) : Except DomainError AdministrativeTransitionResult := do
  let changedAt ← assertChange state changedAt
  if state.lifecycleStatus = .deleted ∧ lifecycleStatus ≠ .deleted then
    .error (.error "a deleted monitor cannot transition to another lifecycle state")
  else if state.lifecycleStatus = lifecycleStatus then
    .ok { state := state, incidentEffect := .none }
  else
    let hadOpenIncident := state.healthState.hasIncident
    let reason := lifecycleStatus.closureReason
    .ok {
      state := { state.cleared with lifecycleStatus := lifecycleStatus }
      incidentEffect :=
        if hadOpenIncident && lifecycleStatus ≠ .active then .cancel changedAt reason else .none }

/-- Resets health meaning after a URL/request/assertion change. The version is the next
one where none is given. -/
def resetForConfigChange (state : MonitorState) (changedAt : Option Time)
    (nextConfigVersion : Option Nat) : Except DomainError AdministrativeTransitionResult := do
  let changedAt ← assertChange state changedAt
  let nextConfigVersion := nextConfigVersion.getD (state.configVersion + 1)
  if !isSafeInteger nextConfigVersion || nextConfigVersion ≤ state.configVersion then
    .error (.rangeError ⟨"nextConfigVersion must be greater than configVersion"⟩)
  else
    let hadOpenIncident := state.healthState.hasIncident
    .ok {
      state := { state.cleared with configVersion := nextConfigVersion }
      incidentEffect := if hadOpenIncident then .cancel changedAt .configChanged else .none }

/-- What a returning `transitionLifecycle` means. -/
inductive LifecycleTransition (state : MonitorState) (lifecycleStatus : MonitorLifecycle)
    (changedAt : Option Time) : AdministrativeTransitionResult → Prop where
  | same : state.lifecycleStatus = lifecycleStatus →
      LifecycleTransition state lifecycleStatus changedAt ⟨state, .none⟩
  | changed (time : Time) : changedAt = some time → state.lifecycleStatus ≠ lifecycleStatus →
      state.lifecycleStatus ≠ .deleted →
      LifecycleTransition state lifecycleStatus changedAt
        ⟨{ state.cleared with lifecycleStatus := lifecycleStatus },
          if state.healthState.hasIncident && lifecycleStatus ≠ .active then
            .cancel time lifecycleStatus.closureReason
          else .none⟩

theorem assert_change_valid {state : MonitorState} {changedAt : Option Time} {time : Time}
    (passed : assertChange state changedAt = .ok time) :
    assertState state = .ok () ∧ changedAt = some time := by
  unfold assertChange at passed
  split at passed
  · cases passed
  · cases passed
  · rename_i asserted
    cases passed
    exact ⟨asserted, rfl⟩

theorem assert_change_returns {state : MonitorState} {time : Time}
    (asserted : assertState state = .ok ()) : assertChange state (some time) = .ok time := by
  simp only [assertChange, asserted]

/-- The inversion lemma of `transitionLifecycle`. -/
theorem transition_lifecycle_cases {state : MonitorState} {lifecycleStatus : MonitorLifecycle}
    {changedAt : Option Time} {result : AdministrativeTransitionResult}
    (returned : transitionLifecycle state lifecycleStatus changedAt = .ok result) :
    LifecycleTransition state lifecycleStatus changedAt result := by
  simp only [transitionLifecycle, bind, Except.bind] at returned
  split at returned
  · cases returned
  rename_i time asserted
  split at returned
  · cases returned
  rename_i leaves
  split at returned
  · rename_i same
    cases returned
    exact .same same
  · rename_i different
    cases returned
    refine .changed time (assert_change_valid asserted).2 different ?_
    intro deleted
    by_cases target : lifecycleStatus = .deleted
    · exact different (by rw [deleted, target])
    · exact leaves ⟨deleted, target⟩

theorem transition_lifecycle_returns {state : MonitorState} {lifecycleStatus : MonitorLifecycle}
    {time : Time} (asserted : assertState state = .ok ())
    (allowed : state.lifecycleStatus = .deleted → lifecycleStatus = .deleted) :
    ∃ result, transitionLifecycle state lifecycleStatus (some time) = .ok result := by
  have entered : ¬(state.lifecycleStatus = .deleted ∧ lifecycleStatus ≠ .deleted) :=
    fun leaves => leaves.2 (allowed leaves.1)
  simp only [transitionLifecycle, bind, Except.bind, assert_change_returns asserted, if_neg entered]
  split
  · exact ⟨_, rfl⟩
  · exact ⟨_, rfl⟩

/-- The inversion lemma of `resetForConfigChange`. -/
theorem reset_for_config_change_cases {state : MonitorState} {changedAt : Option Time}
    {nextConfigVersion : Option Nat} {result : AdministrativeTransitionResult}
    (returned : resetForConfigChange state changedAt nextConfigVersion = .ok result) :
    ∃ time version, changedAt = some time ∧
      version = nextConfigVersion.getD (state.configVersion + 1) ∧
      state.configVersion < version ∧
      result = ⟨{ state.cleared with configVersion := version },
        if state.healthState.hasIncident then .cancel time .configChanged else .none⟩ := by
  simp only [resetForConfigChange, bind, Except.bind] at returned
  split at returned
  · cases returned
  rename_i time asserted
  split at returned
  · cases returned
  rename_i accepted
  simp only [Bool.or_eq_true, decide_eq_true_eq, not_or, Nat.not_le] at accepted
  cases returned
  exact ⟨time, _, (assert_change_valid asserted).2, rfl, accepted.2, rfl⟩

theorem reset_for_config_change_returns {state : MonitorState} {time : Time}
    {nextConfigVersion : Nat} (asserted : assertState state = .ok ())
    (safe : isSafeInteger nextConfigVersion = true)
    (newer : state.configVersion < nextConfigVersion) :
    ∃ result, resetForConfigChange state (some time) (some nextConfigVersion) = .ok result := by
  have accepted : ¬(!isSafeInteger nextConfigVersion ||
      decide (nextConfigVersion ≤ state.configVersion)) = true := by
    simp [safe, Nat.not_le.2 newer]
  simp only [resetForConfigChange, bind, Except.bind, assert_change_returns asserted,
    Option.getD_some, if_neg accepted]
  exact ⟨_, rfl⟩

end LinkAlive
