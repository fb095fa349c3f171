import LinkAlive.Foundation.Transition

/-!
# What a system can still reach

A goal is possible if some run from the present state ends in it and takes only labels of
a certain kind. Possibility composes along runs, keeps what these labels keep, and is
proved by a measure where a goal needs many rounds.
-/

namespace Transition

set_option autoImplicit false

variable {State Label : Type}

def CanReach (step : State → Label → Option State) (allowed : State → Label → Prop)
    (first : State) (goal : State → Prop) : Prop :=
  ∃ visited last, Run step first visited last ∧ Along allowed visited ∧ goal last

namespace CanReach

variable {step : State → Label → Option State} {allowed : State → Label → Prop}
  {goal middle : State → Prop} {state after : State} {label : Label}

theorem here (holds : goal state) : CanReach step allowed state goal := by
  refine ⟨[], state, .start, ?_, holds⟩
  intro visited label member
  cases member

theorem trans (reach : CanReach step allowed state middle)
    (later : ∀ last, middle last → CanReach step allowed last goal) :
    CanReach step allowed state goal := by
  obtain ⟨before, between, head, headAllowed, reached⟩ := reach
  obtain ⟨behind, last, tail, tailAllowed, holds⟩ := later between reached
  refine ⟨before ++ behind, last, head.trans tail, ?_, holds⟩
  intro visited label member
  rcases List.mem_append.1 member with earlier | rest
  · exact headAllowed visited label earlier
  · exact tailAllowed visited label rest

theorem next (taken : step state label = some after) (permitted : allowed state label)
    (later : CanReach step allowed after goal) : CanReach step allowed state goal := by
  have single : CanReach step allowed state (· = after) := by
    refine ⟨[(state, label)], after, Run.start.next taken, ?_, rfl⟩
    intro visited other member
    cases List.mem_singleton.1 member
    exact permitted
  apply single.trans
  intro last same
  rw [same]
  exact later

theorem weaken {weaker : State → Prop} (reach : CanReach step allowed state goal)
    (implied : ∀ last, goal last → weaker last) : CanReach step allowed state weaker :=
  reach.trans fun last holds => here (implied last holds)

theorem keeping {invariant : State → Prop} (reach : CanReach step allowed state goal)
    (kept : ∀ state label after, invariant state → allowed state label →
      step state label = some after → invariant after) (holds : invariant state) :
    CanReach step allowed state fun last => goal last ∧ invariant last := by
  obtain ⟨visited, last, run, along, reached⟩ := reach
  exact ⟨visited, last, run, along, reached, run.preserves allowed invariant holds kept along⟩

theorem reachable {initial : State} (reach : CanReach step allowed state goal)
    (reached : Reachable step initial state) :
    CanReach step allowed state fun last => goal last ∧ Reachable step initial last :=
  reach.keeping (fun _ _ _ holds _ taken => holds.step_closed taken) reached

theorem simulate {Image ImageLabel : Type} {imageStep : Image → ImageLabel → Option Image}
    {imageAllowed : Image → ImageLabel → Prop} (related : State → Image → Prop)
    (follows : ∀ state label after image, related state image → allowed state label →
      step state label = some after → CanReach imageStep imageAllowed image (related after))
    (reach : CanReach step allowed state goal) {image : Image} (holds : related state image) :
    CanReach imageStep imageAllowed image fun last => ∃ state, goal state ∧ related state last := by
  obtain ⟨visited, last, run, along, reached⟩ := reach
  have followed : CanReach imageStep imageAllowed image (related last) := by
    clear reached
    induction run with
    | start => exact here holds
    | next earlier taken ih =>
        have before := ih along.of_append
        apply before.trans
        intro middle paired
        exact follows _ _ _ middle paired along.last taken
  exact followed.weaken fun final paired => ⟨last, reached, paired⟩

/-- The rule for goals that need many rounds: while the goal is not reached, a round that
keeps the invariant makes the measure smaller. -/
theorem rounds {invariant : State → Prop} (measure : State → Nat)
    (progress : ∀ state, invariant state → ¬ goal state →
      CanReach step allowed state fun last => invariant last ∧ measure last < measure state)
    (holds : invariant state) :
    CanReach step allowed state fun last => invariant last ∧ goal last := by
  generalize size : measure state = bound
  induction bound using Nat.strongRecOn generalizing state with
  | ind bound ih =>
      by_cases reached : goal state
      · exact here ⟨holds, reached⟩
      · apply (progress state holds reached).trans
        intro last following
        have smaller : measure last < bound := by omega
        exact ih (measure last) smaller following.1 rfl

end CanReach

end Transition
