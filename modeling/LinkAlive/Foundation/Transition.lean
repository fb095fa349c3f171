/-!
# Labelled transition systems

A system is a partial step function; `none` means that the label is not enabled
(a statement that waits for a lock, an impossible choice). A run records every
state it left together with the label it took there, so that a condition on the
steps of a run is a condition on its visited pairs.
-/

namespace Transition

set_option autoImplicit false

variable {State Label : Type}

inductive Run (step : State → Label → Option State) (first : State) :
    List (State × Label) → State → Prop where
  | start : Run step first [] first
  | next {last after : State} {visited : List (State × Label)} {label : Label} :
      Run step first visited last → step last label = some after →
        Run step first (visited ++ [(last, label)]) after

def Reachable (step : State → Label → Option State) (initial state : State) : Prop :=
  ∃ visited, Run step initial visited state

/-- Every visited pair of a run satisfies a condition. -/
def Along (allowed : State → Label → Prop) (visited : List (State × Label)) : Prop :=
  ∀ state label, (state, label) ∈ visited → allowed state label

namespace Along

variable {allowed : State → Label → Prop} {visited : List (State × Label)}

theorem of_append {more : List (State × Label)} (along : Along allowed (visited ++ more)) :
    Along allowed visited := by
  intro state label member
  exact along state label (List.mem_append_left _ member)

theorem last {state : State} {label : Label}
    (along : Along allowed (visited ++ [(state, label)])) : allowed state label :=
  along state label (by simp)

end Along

namespace Run

variable {step : State → Label → Option State}

/-- The induction rule of guarded runs: a property of the first state that every
allowed step preserves holds of the last state. -/
theorem preserves {first last : State} {visited : List (State × Label)}
    (run : Run step first visited last) (allowed : State → Label → Prop)
    (property : State → Prop) (initial : property first)
    (preserved : ∀ state label after, property state → allowed state label →
      step state label = some after → property after)
    (along : Along allowed visited) : property last := by
  induction run with
  | start => exact initial
  | next run taken ih =>
      exact preserved _ _ _ (ih along.of_append) along.last taken

/-- The rule for the steps of guarded runs: what an invariant shows of every allowed step
holds along the run. -/
theorem shows {first last : State} {visited : List (State × Label)}
    (run : Run step first visited last) (allowed : State → Label → Prop)
    (property : State → Prop) (initial : property first)
    (preserved : ∀ state label after, property state → allowed state label →
      step state label = some after → property after)
    {shown : State → Label → Prop} (shows : ∀ state label after, property state →
      allowed state label → step state label = some after → shown state label)
    (along : Along allowed visited) : Along shown visited := by
  induction run with
  | start =>
      intro state label member
      cases member
  | next run taken ih =>
      have before := run.preserves allowed property initial preserved along.of_append
      intro state label member
      rcases List.mem_append.1 member with earlier | final
      · exact ih along.of_append state label earlier
      · cases List.mem_singleton.1 final
        exact shows _ _ _ before along.last taken

theorem trans {first middle last : State} {before after : List (State × Label)}
    (head : Run step first before middle) (tail : Run step middle after last) :
    Run step first (before ++ after) last := by
  induction tail with
  | start => simpa using head
  | next _ taken ih => simpa [← List.append_assoc] using ih.next taken

theorem suffix {first last : State} {visited before window : List (State × Label)}
    (run : Run step first visited last) (split : visited = before ++ window) :
    ∃ middle, Run step first before middle ∧ Run step middle window last := by
  induction run generalizing window with
  | start =>
      obtain ⟨rfl, rfl⟩ := List.append_eq_nil_iff.1 split.symm
      exact ⟨_, .start, .start⟩
  | next run taken ih =>
      rcases List.eq_nil_or_concat window with rfl | ⟨init, final, rfl⟩
      · rw [List.append_nil] at split
        exact ⟨_, split ▸ run.next taken, .start⟩
      · rw [List.concat_eq_append, ← List.append_assoc] at split
        obtain ⟨same, lastPair⟩ := List.append_inj' split rfl
        obtain ⟨middle, head, tail⟩ := ih same
        cases lastPair
        rw [List.concat_eq_append]
        exact ⟨middle, head, tail.next taken⟩

theorem uncons {first last state : State} {label : Label} {rest : List (State × Label)}
    (run : Run step first ((state, label) :: rest) last) :
    state = first ∧ ∃ next, step first label = some next ∧ Run step next rest last := by
  have split : (state, label) :: rest = [(state, label)] ++ rest := rfl
  obtain ⟨next, head, tail⟩ := run.suffix split
  generalize single : [(state, label)] = visited at head
  cases head with
  | start => cases single
  | @next before _ earlier _ shorter taken =>
      have ends : ([] : List (State × Label)) ++ [(state, label)] = earlier ++ [(before, _)] := single
      obtain ⟨nothing, same⟩ := List.append_inj' ends rfl
      cases same
      subst nothing
      generalize empty : ([] : List (State × Label)) = visited at shorter
      cases shorter with
      | start => exact ⟨rfl, next, taken, tail⟩
      | next => simp at empty

end Run

theorem Reachable.step_closed {step : State → Label → Option State} {initial state after : State}
    {label : Label} (reachable : Reachable step initial state)
    (taken : step state label = some after) : Reachable step initial after := by
  obtain ⟨visited, run⟩ := reachable
  exact ⟨_, run.next taken⟩

theorem Reachable.invariant {step : State → Label → Option State} {initial state : State}
    (reachable : Reachable step initial state) (property : State → Prop)
    (base : property initial)
    (preserved : ∀ state label after, property state → step state label = some after →
      property after) : property state := by
  obtain ⟨visited, run⟩ := reachable
  exact run.preserves (fun _ _ => True) property base
    (fun state label after holds _ taken => preserved state label after holds taken)
    (fun _ _ _ => trivial)

theorem Reachable.invariant_with {step : State → Label → Option State} {initial state : State}
    (reachable : Reachable step initial state) (known property : State → Prop)
    (holdsKnown : ∀ state, Reachable step initial state → known state)
    (base : property initial)
    (preserved : ∀ state label after, known state → property state →
      step state label = some after → property after) : property state := by
  have both : Reachable step initial state ∧ property state := by
    refine reachable.invariant (fun state => Reachable step initial state ∧ property state)
      ⟨⟨[], .start⟩, base⟩ ?_
    intro state label after holds taken
    exact ⟨holds.1.step_closed taken,
      preserved state label after (holdsKnown state holds.1) holds.2 taken⟩
  exact both.2

def replay (step : State → Label → Option State) :
    State → List Label → Option (List (State × Label) × State)
  | state, [] => some ([], state)
  | state, label :: rest => do
      let after ← step state label
      let (visited, last) ← replay step after rest
      some ((state, label) :: visited, last)

theorem run_of_replay {step : State → Label → Option State} {first last : State}
    {labels : List Label} {visited : List (State × Label)}
    (replayed : replay step first labels = some (visited, last)) :
    Run step first visited last := by
  induction labels generalizing first visited with
  | nil =>
      cases replayed
      exact .start
  | cons label rest ih =>
      simp only [replay, Option.bind_eq_bind, Option.bind_eq_some_iff] at replayed
      obtain ⟨after, taken, ⟨tail, final⟩, replayedRest, same⟩ := replayed
      cases same
      have head : Run step first [(first, label)] after := Run.start.next taken
      exact head.trans (ih replayedRest)

/-- A test on the outcome of a concrete run, decided by execution. -/
def replaySatisfies (step : State → Label → Option State) (first : State) (labels : List Label)
    (test : List (State × Label) → State → Bool) : Bool :=
  match replay step first labels with
  | some (visited, last) => test visited last
  | none => false

theorem run_of_replay_satisfies {step : State → Label → Option State} {first : State}
    {labels : List Label} {test : List (State × Label) → State → Bool}
    (passed : replaySatisfies step first labels test = true) :
    ∃ visited last, Run step first visited last ∧ test visited last = true := by
  unfold replaySatisfies at passed
  cases replayed : replay step first labels with
  | none => simp [replayed] at passed
  | some outcome =>
      obtain ⟨visited, last⟩ := outcome
      simp only [replayed] at passed
      exact ⟨visited, last, run_of_replay replayed, passed⟩

/-- A concrete run none of whose steps is of a certain kind. -/
theorem run_avoiding_of_replay {step : State → Label → Option State} {first : State}
    {labels : List Label} {avoided : State → Label → Bool} {test : State → Bool}
    (passed : replaySatisfies step first labels (fun visited last =>
      (visited.all fun pair => !avoided pair.1 pair.2) && test last) = true) :
    ∃ visited last, Run step first visited last ∧
      Along (fun state label => avoided state label = false) visited ∧ test last = true := by
  obtain ⟨visited, last, run, tested⟩ := run_of_replay_satisfies passed
  rw [Bool.and_eq_true, List.all_eq_true] at tested
  refine ⟨visited, last, run, ?_, tested.2⟩
  intro state label member
  simpa using tested.1 (state, label) member

inductive Taker
  | both
  | leftRun
  | rightRun

/-- The labels that a run may take without the other, and a condition on the two states in
which both take a common one. -/
structure Weaving (State Label : Type) where
  leftAlone : State → Label → Bool
  rightAlone : State → Label → Bool
  agreed : State → State → Label → Bool

/-- The states of two runs that take the same labels, except for those that one takes alone. -/
inductive Woven (step : State → Label → Option State) (weaving : Weaving State Label)
    (first : State) : State → State → Prop where
  | start : Woven step weaving first first first
  | common {left right leftAfter rightAfter : State} {label : Label} :
      Woven step weaving first left right → weaving.agreed left right label = true →
        step left label = some leftAfter → step right label = some rightAfter →
          Woven step weaving first leftAfter rightAfter
  | leftAlone {left right leftAfter : State} {label : Label} :
      Woven step weaving first left right → weaving.leftAlone left label = true →
        step left label = some leftAfter → Woven step weaving first leftAfter right
  | rightAlone {left right rightAfter : State} {label : Label} :
      Woven step weaving first left right → weaving.rightAlone right label = true →
        step right label = some rightAfter → Woven step weaving first left rightAfter

theorem Woven.related {step : State → Label → Option State} {weaving : Weaving State Label}
    {first left right : State} (woven : Woven step weaving first left right)
    (relation : State → State → Prop) (initial : relation first first)
    (common : ∀ left right leftAfter rightAfter label, relation left right →
      weaving.agreed left right label = true → step left label = some leftAfter →
        step right label = some rightAfter → relation leftAfter rightAfter)
    (leftAlone : ∀ left right leftAfter label, relation left right →
      weaving.leftAlone left label = true → step left label = some leftAfter →
        relation leftAfter right)
    (rightAlone : ∀ left right rightAfter label, relation left right →
      weaving.rightAlone right label = true → step right label = some rightAfter →
        relation left rightAfter) :
    relation left right := by
  induction woven with
  | start => exact initial
  | common _ agreed leftTaken rightTaken ih =>
      exact common _ _ _ _ _ ih agreed leftTaken rightTaken
  | leftAlone _ alone taken ih => exact leftAlone _ _ _ _ ih alone taken
  | rightAlone _ alone taken ih => exact rightAlone _ _ _ _ ih alone taken

/-- Runs both programs from two states; `none` where a label is not enabled or not allowed. -/
def replayWoven (step : State → Label → Option State) (weaving : Weaving State Label) :
    State → State → List (Taker × Label) → Option (State × State)
  | left, right, [] => some (left, right)
  | left, right, (.both, label) :: rest =>
      if weaving.agreed left right label then
        match step left label, step right label with
        | some leftAfter, some rightAfter => replayWoven step weaving leftAfter rightAfter rest
        | _, _ => none
      else none
  | left, right, (.leftRun, label) :: rest =>
      if weaving.leftAlone left label then
        match step left label with
        | some leftAfter => replayWoven step weaving leftAfter right rest
        | none => none
      else none
  | left, right, (.rightRun, label) :: rest =>
      if weaving.rightAlone right label then
        match step right label with
        | some rightAfter => replayWoven step weaving left rightAfter rest
        | none => none
      else none

theorem woven_of_replay {step : State → Label → Option State} {weaving : Weaving State Label}
    {first left right leftLast rightLast : State} {labels : List (Taker × Label)}
    (woven : Woven step weaving first left right)
    (replayed : replayWoven step weaving left right labels = some (leftLast, rightLast)) :
    Woven step weaving first leftLast rightLast := by
  induction labels generalizing left right with
  | nil =>
      cases replayed
      exact woven
  | cons head rest ih =>
      obtain ⟨taker, label⟩ := head
      cases taker with
      | both =>
          rw [replayWoven] at replayed
          split at replayed
          · rename_i agreed
            split at replayed
            · rename_i leftAfter rightAfter leftTaken rightTaken
              exact ih (.common woven agreed leftTaken rightTaken) replayed
            · cases replayed
          · cases replayed
      | leftRun =>
          rw [replayWoven] at replayed
          split at replayed
          · rename_i alone
            split at replayed
            · rename_i leftAfter taken
              exact ih (.leftAlone woven alone taken) replayed
            · cases replayed
          · cases replayed
      | rightRun =>
          rw [replayWoven] at replayed
          split at replayed
          · rename_i alone
            split at replayed
            · rename_i rightAfter taken
              exact ih (.rightAlone woven alone taken) replayed
            · cases replayed
          · cases replayed

end Transition
