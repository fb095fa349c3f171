/-!
# Bounded batches

A job that repeatedly takes the first rows of an ordered selection and mutates them,
until a batch comes back short or the number of batches is used up. When a mutation
takes exactly its rows out of the selection, the whole run is one mutation of the
first `batches × limit` rows.
-/

namespace Batches

set_option autoImplicit false

variable {State Id : Type}

structure Worklist (State Id : Type) where
  select : State → List Id
  mutate : State → List Id → State

/-- What one run of the loop reports. -/
structure Tally where
  batches : Nat
  mutated : Nat
  lastBatchSize : Nat
deriving DecidableEq, Repr

def Tally.start : Tally := ⟨0, 0, 0⟩

def Tally.add (tally : Tally) (count : Nat) : Tally :=
  ⟨tally.batches + 1, tally.mutated + count, count⟩

namespace Worklist

/-- One batch: the selected ids under a limit; nothing to do leaves the state alone. -/
def batch (work : Worklist State Id) (limit : Nat) (state : State) : State × Nat :=
  match (work.select state).take limit with
  | [] => (state, 0)
  | id :: rest => (work.mutate state (id :: rest), (id :: rest).length)

/-- At most `maxBatches` batches; a batch shorter than the limit is the last one. -/
def run (work : Worklist State Id) (limit : Nat) : Nat → State → Tally → State × Tally
  | 0, state, tally => (state, tally)
  | maxBatches + 1, state, tally =>
      let (after, count) := work.batch limit state
      if count < limit then (after, tally.add count)
      else work.run limit maxBatches after (tally.add count)

structure Lawful (work : Worklist State Id) : Prop where
  mutate_nil : ∀ state, work.mutate state [] = state
  mutate_mutate : ∀ state first second,
    work.mutate (work.mutate state first) second = work.mutate state (first ++ second)
  select_mutate : ∀ state count,
    work.select (work.mutate state ((work.select state).take count)) =
      (work.select state).drop count

theorem batch_eq {work : Worklist State Id} (lawful : work.Lawful) (limit : Nat) (state : State) :
    work.batch limit state =
      (work.mutate state ((work.select state).take limit),
        ((work.select state).take limit).length) := by
  unfold batch
  split
  · rename_i empty
    rw [empty, lawful.mutate_nil]
    rfl
  · rename_i id rest found
    rw [found]

theorem run_state {work : Worklist State Id} (lawful : work.Lawful) (limit maxBatches : Nat)
    (state : State) (tally : Tally) :
    (work.run limit maxBatches state tally).1 =
      work.mutate state ((work.select state).take (maxBatches * limit)) := by
  induction maxBatches generalizing state tally with
  | zero => simp [run, lawful.mutate_nil]
  | succ maxBatches ih =>
      have enough : (maxBatches + 1) * limit = limit + maxBatches * limit := by
        rw [Nat.add_mul, Nat.one_mul, Nat.add_comm]
      simp only [run, batch_eq lawful]
      split
      · rename_i short
        -- a short batch has taken the whole selection
        rw [List.length_take] at short
        have all : (work.select state).length ≤ limit := by omega
        rw [List.take_of_length_le all, List.take_of_length_le (by omega)]
      · rw [ih, lawful.mutate_mutate, lawful.select_mutate, enough, List.take_add]

theorem select_run {work : Worklist State Id} (lawful : work.Lawful) (limit maxBatches : Nat)
    (state : State) (tally : Tally) :
    work.select (work.run limit maxBatches state tally).1 =
      (work.select state).drop (maxBatches * limit) := by
  rw [run_state lawful, lawful.select_mutate]

/-- A run ends because a batch came back short, and then nothing is left, or because it
used up its batches and the last one was full. -/
theorem run_ends {work : Worklist State Id} (lawful : work.Lawful) (limit maxBatches : Nat)
    (state : State) (tally : Tally) :
    ((work.run limit (maxBatches + 1) state tally).2.batches = tally.batches + (maxBatches + 1) ∧
        (work.run limit (maxBatches + 1) state tally).2.lastBatchSize = limit) ∨
      work.select (work.run limit (maxBatches + 1) state tally).1 = [] := by
  induction maxBatches generalizing state tally with
  | zero =>
      rw [select_run lawful]
      simp only [run, batch_eq lawful]
      split
      · rename_i short
        rw [List.length_take] at short
        exact .inr (List.drop_of_length_le (by omega))
      · rename_i full
        rw [List.length_take] at full
        refine .inl ⟨rfl, ?_⟩
        simp only [Tally.add, List.length_take]
        omega
  | succ maxBatches ih =>
      rw [run]
      simp only [batch_eq lawful]
      split
      · rename_i short
        rw [List.length_take] at short
        rw [lawful.select_mutate]
        exact .inr (List.drop_of_length_le (by omega))
      · rcases ih (work.mutate state ((work.select state).take limit))
          (tally.add ((work.select state).take limit).length) with ⟨used, full⟩ | drained
        · refine .inl ⟨?_, full⟩
          have more : (tally.add ((work.select state).take limit).length).batches =
              tally.batches + 1 := rfl
          rw [used, more]
          omega
        · exact .inr drained

theorem run_drained {work : Worklist State Id} {state : State} (drained : work.select state = [])
    (limit maxBatches : Nat) (tally : Tally) :
    (work.run limit maxBatches state tally).1 = state ∧
      (work.run limit maxBatches state tally).2.mutated = tally.mutated := by
  induction maxBatches generalizing tally with
  | zero => exact ⟨rfl, rfl⟩
  | succ maxBatches ih =>
      have idle : work.batch limit state = (state, 0) := by simp [batch, drained]
      simp only [run, idle]
      split
      · exact ⟨rfl, rfl⟩
      · exact ih (tally.add 0)

theorem run_mutated {work : Worklist State Id} (lawful : work.Lawful) (limit maxBatches : Nat)
    (state : State) (tally : Tally) :
    (work.run limit maxBatches state tally).2.mutated =
      tally.mutated + ((work.select state).take (maxBatches * limit)).length := by
  induction maxBatches generalizing state tally with
  | zero => simp [run]
  | succ maxBatches ih =>
      have enough : (maxBatches + 1) * limit = limit + maxBatches * limit := by
        rw [Nat.add_mul, Nat.one_mul, Nat.add_comm]
      simp only [run, batch_eq lawful]
      split
      · rename_i short
        rw [List.length_take] at short
        simp only [Tally.add, List.length_take]
        omega
      · rw [ih, lawful.select_mutate, enough]
        simp only [Tally.add, List.length_take, List.length_drop]
        omega

structure Executed (State Id : Type) where
  before : State
  ids : List Id
  after : State

/-- The loop over a mutation that may fail, with a journal of what it executed. -/
def attempt {Error : Type} (work : Worklist State Id)
    (execute : State → List Id → Except Error State) (limit : Nat) :
    Nat → State → Tally → Except Error (State × Tally × List (Executed State Id))
  | 0, state, tally => .ok (state, tally, [])
  | maxBatches + 1, state, tally =>
      match (work.select state).take limit with
      | [] =>
          if 0 < limit then .ok (state, tally.add 0, [])
          else work.attempt execute limit maxBatches state (tally.add 0)
      | id :: rest => do
          let ids := id :: rest
          let after ← execute state ids
          if ids.length < limit then
            return (after, tally.add ids.length, [⟨state, ids, after⟩])
          let (last, total, journal) ←
            work.attempt execute limit maxBatches after (tally.add ids.length)
          return (last, total, ⟨state, ids, after⟩ :: journal)

/-- Every batch starts from the state that the one before it left. -/
inductive Chained : State → List (Executed State Id) → State → Prop
  | done (state : State) : Chained state [] state
  | batch {last : State} (executed : Executed State Id) {journal : List (Executed State Id)}
      (rest : Chained executed.after journal last) :
      Chained executed.before (executed :: journal) last

theorem Chained.append {first middle last : State} {front back : List (Executed State Id)}
    (chained : Chained first front middle) (others : Chained middle back last) :
    Chained first (front ++ back) last := by
  induction chained with
  | done => exact others
  | batch executed _ ih => exact .batch executed (ih others)

/-- When every batch succeeds in the states that an invariant describes, so does the run;
it does what the run without failures does. -/
theorem attempt_succeeds {Error : Type} {work : Worklist State Id}
    {execute : State → List Id → Except Error State} {limit : Nat} {holds : State → Prop}
    (succeeds : ∀ state ids, holds state → ids = (work.select state).take limit →
      execute state ids = .ok (work.mutate state ids) ∧ holds (work.mutate state ids))
    (maxBatches : Nat) (state : State) (tally : Tally) (start : holds state) :
    ∃ journal, work.attempt execute limit maxBatches state tally =
        .ok ((work.run limit maxBatches state tally).1,
          (work.run limit maxBatches state tally).2, journal) ∧
      Chained state journal (work.run limit maxBatches state tally).1 ∧
      (∀ executed ∈ journal, holds executed.before ∧
        executed.ids = (work.select executed.before).take limit ∧
        executed.after = work.mutate executed.before executed.ids) ∧
      holds (work.run limit maxBatches state tally).1 := by
  induction maxBatches generalizing state tally with
  | zero => exact ⟨[], rfl, .done state, by simp, start⟩
  | succ maxBatches ih =>
      have next := succeeds state _ start rfl
      rw [attempt, run, batch]
      split
      · dsimp only
        by_cases some_room : 0 < limit
        · rw [if_pos some_room, if_pos some_room]
          exact ⟨[], rfl, .done state, by simp, start⟩
        · rw [if_neg some_room, if_neg some_room]
          exact ih state (tally.add 0) start
      · rename_i id rest found
        rw [found] at next
        obtain ⟨executed, kept⟩ := next
        simp only [executed]
        dsimp only [bind, Except.bind, pure, Except.pure]
        by_cases short : (id :: rest).length < limit
        · rw [if_pos short, if_pos short]
          refine ⟨_, rfl, .batch ⟨state, _, _⟩ (.done _), ?_, kept⟩
          intro entry member
          rw [List.mem_singleton] at member
          subst member
          exact ⟨start, found.symm, rfl⟩
        · rw [if_neg short, if_neg short]
          obtain ⟨journal, ran, chained, sound, last⟩ :=
            ih (work.mutate state (id :: rest)) (tally.add (id :: rest).length) kept
          rw [ran]
          refine ⟨_, rfl, .batch ⟨state, _, _⟩ chained, ?_, last⟩
          intro entry member
          rcases List.mem_cons.1 member with rfl | later
          · exact ⟨start, found.symm, rfl⟩
          · exact sound entry later

end Worklist

end Batches
