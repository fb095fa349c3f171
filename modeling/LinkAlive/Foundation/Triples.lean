/-!
# Triples for programs that throw

A program has a state that survives a thrown error, as the local variables around a `try`
block do. A triple says of every run from a state that meets the precondition that it returns
with the postcondition or throws with a postcondition of its own. The rules follow the
programs: one for each way of composing them. A frame says what a program leaves as it is.
-/

namespace Triples

set_option autoImplicit false

variable {Error State Value Other : Type}

structure Triple (pre : State → Prop) (program : EStateM Error State Value)
    (post : Value → State → Prop) (thrown : Error → State → Prop) : Prop where
  run : ∀ state, pre state →
    match program state with
    | .ok value after => post value after
    | .error error after => thrown error after

def failIf (condition : Bool) (error : Error) : EStateM Error State Unit :=
  if condition then throw error else pure ()

def orThrow : Except Error Value → EStateM Error State Value
  | .ok value => pure value
  | .error error => throw error

variable {pre : State → Prop} {program : EStateM Error State Value}
  {post : Value → State → Prop} {thrown : Error → State → Prop}

theorem Triple.weaken {stronger : State → Prop} {strongerPost : Value → State → Prop}
    {strongerThrown : Error → State → Prop}
    (triple : Triple pre program strongerPost strongerThrown)
    (before : ∀ state, stronger state → pre state)
    (returned : ∀ value state, strongerPost value state → post value state)
    (failed : ∀ error state, strongerThrown error state → thrown error state) :
    Triple stronger program post thrown := by
  constructor
  intro state holds
  have run := triple.run state (before state holds)
  cases outcome : program state with
  | ok value after =>
      rw [outcome] at run
      exact returned value after run
  | error error after =>
      rw [outcome] at run
      exact failed error after run

theorem Triple.trivial (program : EStateM Error State Value) :
    Triple pre program (fun _ _ => True) fun _ _ => True := by
  constructor
  intro state _
  cases program state with
  | ok value after => exact True.intro
  | error error after => exact True.intro

theorem Triple.pure {value : Value} (returned : ∀ state, pre state → post value state) :
    Triple pre (Pure.pure value : EStateM Error State Value) post thrown :=
  ⟨fun state holds => returned state holds⟩

theorem Triple.throw {error : Error} (failed : ∀ state, pre state → thrown error state) :
    Triple pre (MonadExcept.throw error : EStateM Error State Value) post thrown :=
  ⟨fun state holds => failed state holds⟩

theorem Triple.bind {middle : Value → State → Prop} {next : Value → EStateM Error State Other}
    {final : Other → State → Prop} (first : Triple pre program middle thrown)
    (rest : ∀ value, Triple (middle value) (next value) final thrown) :
    Triple pre (program >>= next) final thrown := by
  constructor
  intro state holds
  have run := first.run state holds
  change match EStateM.bind program next state with
    | .ok value after => final value after
    | .error error after => thrown error after
  unfold EStateM.bind
  cases outcome : program state with
  | ok value after =>
      rw [outcome] at run
      exact (rest value).run after run
  | error error after =>
      rw [outcome] at run
      exact run

/-- A program whose last step returns a value that was known before. -/
theorem Triple.returning {value : Other} {final : Other → State → Prop}
    (first : Triple pre program (fun _ => final value) thrown) :
    Triple pre (program >>= fun _ => Pure.pure value) final thrown :=
  first.bind fun _ => Triple.pure fun _ holds => holds

/-- After an error nothing else of a program runs. -/
theorem Triple.throw_bind {error : Error} {next : Value → EStateM Error State Other}
    {final : Other → State → Prop} (failed : ∀ state, pre state → thrown error state) :
    Triple pre (MonadExcept.throw error >>= next) final thrown :=
  ⟨fun state holds => failed state holds⟩

/-- A program whose last step throws an error that was known before. -/
theorem Triple.throwing {error : Error} {final : Other → State → Prop}
    (first : Triple pre program (fun _ => thrown error) thrown) :
    Triple pre (program >>= fun _ => MonadExcept.throw error) final thrown :=
  first.bind fun _ => Triple.throw fun _ holds => holds

theorem Triple.read {next : State → EStateM Error State Value}
    (rest : ∀ current, pre current →
      Triple (fun state => pre state ∧ state = current) (next current) post thrown) :
    Triple pre (get >>= next) post thrown :=
  ⟨fun state holds => (rest state holds).run state ⟨holds, rfl⟩⟩

theorem Triple.modify {update : State → State} {final : Unit → State → Prop}
    (returned : ∀ state, pre state → final () (update state)) :
    Triple pre (modify update : EStateM Error State Unit) final thrown :=
  ⟨fun state holds => returned state holds⟩

theorem Triple.modify_get {update : State → Value × State}
    (returned : ∀ state, pre state → post (update state).1 (update state).2) :
    Triple pre (modifyGet update : EStateM Error State Value) post thrown :=
  ⟨fun state holds => returned state holds⟩

theorem Triple.tryCatch {caught : Error → State → Prop}
    {handler : Error → EStateM Error State Value} (body : Triple pre program post caught)
    (handled : ∀ error, Triple (caught error) (handler error) post thrown) :
    Triple pre (tryCatch program handler) post thrown := by
  constructor
  intro state holds
  have run := body.run state holds
  change match EStateM.tryCatch program handler state with
    | .ok value after => post value after
    | .error error after => thrown error after
  unfold EStateM.tryCatch
  cases outcome : program state with
  | ok value after =>
      rw [outcome] at run
      exact run
  | error error after =>
      rw [outcome] at run
      exact (handled error).run after run

theorem Triple.try_finally {cleanUp : EStateM Error State Unit} {caught : Error → State → Prop}
    {final : Value → State → Prop} (body : Triple pre program post caught)
    (returned : ∀ value, Triple (post value) cleanUp (fun _ => final value) thrown)
    (failed : ∀ error, Triple (caught error) cleanUp (fun _ => thrown error) thrown) :
    Triple pre (tryFinally program cleanUp) final thrown := by
  constructor
  intro state holds
  have run := body.run state holds
  cases outcome : program state with
  | ok value after =>
      rw [outcome] at run
      have clean := (returned value).run after run
      cases cleaned : cleanUp after with
      | ok _ last | error _ last =>
          rw [cleaned] at clean
          simpa [tryFinally, tryFinally', Functor.map, EStateM.map, outcome, cleaned] using clean
  | error error after =>
      rw [outcome] at run
      have clean := (failed error).run after run
      cases cleaned : cleanUp after with
      | ok _ last | error _ last =>
          rw [cleaned] at clean
          simpa [tryFinally, tryFinally', Functor.map, EStateM.map, outcome, cleaned] using clean

theorem Triple.fail_if {condition : Bool} {error : Error} {final : Unit → State → Prop}
    (failed : ∀ state, pre state → condition = true → thrown error state)
    (passed : ∀ state, pre state → condition = false → final () state) :
    Triple pre (failIf condition error) final thrown := by
  constructor
  intro state holds
  cases met : condition with
  | true => exact failed state holds met
  | false => exact passed state holds met

theorem Triple.or_throw {result : Except Error Value}
    (returned : ∀ value state, result = .ok value → pre state → post value state)
    (failed : ∀ error state, result = .error error → pre state → thrown error state) :
    Triple pre (orThrow result) post thrown := by
  constructor
  intro state holds
  cases outcome : result with
  | ok value => exact returned value state outcome holds
  | error error => exact failed error state outcome holds

theorem Triple.for_each {Item : Type} {invariant : State → Prop} {items : List Item}
    {body : Item → EStateM Error State Unit}
    (turn : ∀ item, Triple invariant (body item) (fun _ => invariant) thrown) :
    Triple invariant (items.forM body) (fun _ => invariant) thrown := by
  induction items with
  | nil => exact Triple.pure fun _ holds => holds
  | cons item rest ih => exact (turn item).bind fun _ => ih

/-- The precondition's own facts may be used to choose the triple. -/
theorem Triple.given
    (triple : ∀ start, pre start → Triple (fun state => state = start) program post thrown) :
    Triple pre program post thrown :=
  ⟨fun state holds => (triple state holds).run state rfl⟩

theorem Triple.of_exists {Choice : Type} {holds : Choice → State → Prop}
    (each : ∀ choice, Triple (holds choice) program post thrown) :
    Triple (fun state => ∃ choice, holds choice state) program post thrown :=
  ⟨fun state found => found.elim fun choice held => (each choice).run state held⟩

theorem Triple.of_fact {fact : Prop} (triple : fact → Triple pre program post thrown) :
    Triple (fun state => fact ∧ pre state) program post thrown :=
  ⟨fun state holds => (triple holds.1).run state holds.2⟩

theorem Triple.returns (triple : Triple pre program post fun _ _ => False) {state : State}
    (holds : pre state) : ∃ value after, program state = .ok value after ∧ post value after := by
  have run := triple.run state holds
  cases outcome : program state with
  | ok value after =>
      rw [outcome] at run
      exact ⟨value, after, rfl, run⟩
  | error error after =>
      rw [outcome] at run
      exact run.elim

theorem get_bind (next : State → EStateM Error State Value) (state : State) :
    (get >>= next) state = next state state := rfl

theorem bind_returned {next : Value → EStateM Error State Other} {state after : State}
    {value : Value} (first : program state = .ok value after) :
    (program >>= next) state = next value after := by
  change EStateM.bind program next state = next value after
  unfold EStateM.bind
  rw [first]

theorem bind_thrown {next : Value → EStateM Error State Other} {state after : State}
    {error : Error} (first : program state = .error error after) :
    (program >>= next) state = .error error after := by
  change EStateM.bind program next state = .error error after
  unfold EStateM.bind
  rw [first]

structure Frame {Kept : Type} (measure : State → Kept) (program : EStateM Error State Value) :
    Prop where
  unchanged : ∀ start, Triple (fun state => measure state = start) program
    (fun _ after => measure after = start) fun _ after => measure after = start

namespace Frame

variable {Kept : Type} {measure : State → Kept}

theorem pure (value : Value) :
    Frame measure (Pure.pure value : EStateM Error State Value) :=
  ⟨fun _ => Triple.pure fun _ same => same⟩

theorem throw (error : Error) :
    Frame measure (MonadExcept.throw error : EStateM Error State Value) :=
  ⟨fun _ => Triple.throw fun _ same => same⟩

theorem bind {next : Value → EStateM Error State Other} (first : Frame measure program)
    (rest : ∀ value, Frame measure (next value)) : Frame measure (program >>= next) :=
  ⟨fun start => (first.unchanged start).bind fun value => (rest value).unchanged start⟩

theorem modify_get {update : State → Value × State}
    (same : ∀ state, measure (update state).2 = measure state) :
    Frame measure (modifyGet update : EStateM Error State Value) :=
  ⟨fun _ => Triple.modify_get fun state holds => (same state).trans holds⟩

theorem modify {update : State → State} (same : ∀ state, measure (update state) = measure state) :
    Frame measure (modify update : EStateM Error State Unit) :=
  ⟨fun _ => Triple.modify fun state holds => (same state).trans holds⟩

theorem read {next : State → EStateM Error State Value}
    (rest : ∀ current, Frame measure (next current)) : Frame measure (get >>= next) := by
  constructor
  intro start
  apply Triple.read
  intro current _
  exact ((rest current).unchanged start).weaken (fun _ holds => holds.1) (fun _ _ same => same)
    fun _ _ same => same

theorem or_throw (result : Except Error Value) :
    Frame measure (orThrow result : EStateM Error State Value) :=
  ⟨fun _ => Triple.or_throw (fun _ _ _ same => same) fun _ _ _ same => same⟩

theorem fail_if (condition : Bool) (error : Error) :
    Frame measure (failIf condition error : EStateM Error State Unit) :=
  ⟨fun _ => Triple.fail_if (fun _ same _ => same) fun _ same _ => same⟩

theorem try_catch {handler : Error → EStateM Error State Value} (body : Frame measure program)
    (handled : ∀ error, Frame measure (handler error)) :
    Frame measure (tryCatch program handler) :=
  ⟨fun start => (body.unchanged start).tryCatch fun error => (handled error).unchanged start⟩

theorem for_each {Item : Type} {items : List Item} {body : Item → EStateM Error State Unit}
    (turn : ∀ item, Frame measure (body item)) : Frame measure (items.forM body) :=
  ⟨fun start => Triple.for_each fun item => (turn item).unchanged start⟩

theorem keeps (frame : Frame measure program) (holds : Kept → Prop)
    (failed : ∀ error state, holds (measure state) → thrown error state) :
    Triple (fun state => holds (measure state)) program (fun _ after => holds (measure after))
      thrown := by
  apply Triple.given
  intro start held
  exact (frame.unchanged (measure start)).weaken (fun _ same => congrArg measure same)
    (fun _ _ same => same ▸ held) fun error state same => failed error state (same ▸ held)

theorem rule (frame : Frame measure program) (triple : Triple pre program post thrown)
    (holds : Kept → Prop) :
    Triple (fun state => pre state ∧ holds (measure state)) program
      (fun value after => post value after ∧ holds (measure after)) thrown := by
  constructor
  intro state both
  have run := triple.run state both.1
  have same := (frame.unchanged (measure state)).run state rfl
  cases outcome : program state with
  | ok value after =>
      rw [outcome] at run same
      exact ⟨run, same ▸ both.2⟩
  | error error after =>
      rw [outcome] at run
      exact run

theorem part {Part : Type} (frame : Frame measure program) (part : Kept → Part) :
    Frame (fun state => part (measure state)) program :=
  ⟨fun start => frame.keeps (fun kept => part kept = start) fun _ _ same => same⟩

end Frame

/-- `while (true)`: the body returns a result or goes on in a state that measures less. -/
def untilResult (body : EStateM Error State (Option Value)) (measure : State → Nat)
    (decreases : ∀ state after, body state = .ok none after → measure after < measure state) :
    EStateM Error State Value := fun state =>
  match turn : body state with
  | .ok (some value) after => .ok value after
  | .ok none after =>
      have := decreases state after turn
      untilResult body measure decreases after
  | .error error after => .error error after
termination_by state => measure state

theorem until_result_turn {body : EStateM Error State (Option Value)} {measure : State → Nat}
    {decreases : ∀ state after, body state = .ok none after → measure after < measure state}
    (state : State) :
    untilResult body measure decreases state =
      match body state with
      | .ok (some value) after => .ok value after
      | .ok none after => untilResult body measure decreases after
      | .error error after => .error error after := by
  rw [untilResult]
  split
  · rename_i same
    simp only [same]
  · rename_i same
    simp only [same]
  · rename_i same
    simp only [same]

theorem Triple.until_result {invariant : State → Prop}
    {body : EStateM Error State (Option Value)} {measure : State → Nat}
    {decreases : ∀ state after, body state = .ok none after → measure after < measure state}
    (turn : Triple invariant body
      (fun result after => result.elim (invariant after) fun value => post value after) thrown) :
    Triple invariant (untilResult body measure decreases) post thrown := by
  constructor
  intro state holds
  induction size : measure state using Nat.strongRecOn generalizing state with
  | ind bound ih =>
      have run := turn.run state holds
      cases outcome : body state with
      | error error after =>
          rw [outcome] at run
          rw [until_result_turn, outcome]
          exact run
      | ok result after =>
          rw [outcome] at run
          rw [until_result_turn, outcome]
          cases result with
          | some value => exact run
          | none =>
              have less := decreases state after outcome
              exact ih (measure after) (size ▸ less) after run rfl

end Triples
