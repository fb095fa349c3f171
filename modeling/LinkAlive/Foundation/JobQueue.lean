import LinkAlive.Foundation.Table

/-!
# A queue of named jobs

A producer chooses the id of a job. It leaves a job that is still to be done and replaces
one that has ended, so that there is never more than one job of an id. A worker that takes
a job holds it until the job ends or the lock of the worker is lost.
-/

namespace Jobs

open Relational

set_option autoImplicit false

inductive JobState
  | waiting | active | completed | failed
deriving DecidableEq, Repr

def JobState.ended : JobState → Bool
  | .completed | .failed => true
  | .waiting | .active => false

/-- The answer of `getState`. -/
def JobState.name : JobState → String
  | .waiting => "waiting"
  | .active => "active"
  | .completed => "completed"
  | .failed => "failed"

theorem name_ended (state : JobState) :
    (state.name = "completed" ∨ state.name = "failed") ↔ state.ended = true := by
  cases state <;> simp [JobState.name, JobState.ended]

structure Job (Data : Type) where
  data : Data
  state : JobState
deriving DecidableEq, Repr

abbrev JobTable (Id Data : Type) := Table Id (Job Data)

/-- A queue as its producer sees it; every call may fail and changes the world. -/
structure QueuePort (World Id Data : Type) where
  Job : Type
  getJob : Id → EStateM Unit World (Option Job)
  getState : Job → EStateM Unit World String
  remove : Job → EStateM Unit World Unit
  add : Id → Data → EStateM Unit World Unit

def QueuePort.ensureJob {World Id Data : Type} (queue : QueuePort World Id Data) (id : Id)
    (data : Data) : EStateM Unit World Unit := do
  match ← queue.getJob id with
  | none => queue.add id data
  | some existing =>
      let state ← queue.getState existing
      if state = "completed" ∨ state = "failed" then
        queue.remove existing
        queue.add id data
      else pure ()

/-- What becomes of a job while its producer does nothing. -/
inductive JobEvent
  | completed | failed | stalled | forgotten
deriving DecidableEq, Repr

/-- A worker ends its job or loses it to the other workers; an ended job is removed. -/
def JobEvent.next : JobEvent → JobState → Option (Option JobState)
  | .completed, .active => some (some .completed)
  | .failed, .active => some (some .failed)
  | .stalled, .active => some (some .waiting)
  | .forgotten, .completed => some none
  | .forgotten, .failed => some none
  | _, _ => none

section Table

variable {Id Data : Type} [DecidableEq Id] {jobs after : JobTable Id Data} {id : Id} {data : Data}

/-- What `ensureJob` does to a table of jobs. -/
def ensure (jobs : JobTable Id Data) (id : Id) (data : Data) : JobTable Id Data :=
  if (jobs.get id).any fun job => !job.state.ended then jobs else jobs.put id ⟨data, .waiting⟩

def take (jobs : JobTable Id Data) (id : Id) : Option (Data × JobTable Id Data) := do
  let job ← jobs.get id
  if job.state = .waiting then some (job.data, jobs.put id ⟨job.data, .active⟩) else none

def happen (jobs : JobTable Id Data) (id : Id) (event : JobEvent) :
    Option (JobTable Id Data) := do
  let job ← jobs.get id
  match ← event.next job.state with
  | some state => some (jobs.put id ⟨job.data, state⟩)
  | none => some (jobs.remove id)

/-- The queue over such a table, whose calls succeed; a job that is there is not added again. -/
def tablePort : QueuePort (JobTable Id Data) Id Data where
  Job := Id × Job Data
  getJob id jobs := .ok ((jobs.get id).map fun job => (id, job)) jobs
  getState job jobs := .ok job.2.state.name jobs
  remove job jobs := .ok () (jobs.remove job.1)
  add id data jobs := .ok () (if (jobs.get id).isSome then jobs else jobs.put id ⟨data, .waiting⟩)

theorem put_remove (jobs : JobTable Id Data) (id : Id) (job : Job Data) :
    (jobs.remove id).put id job = jobs.put id job := by
  have gone : id ∉ (List.kerase id jobs.entries).keys := List.notMem_keys_kerase id jobs.nodupKeys
  apply AList.ext
  change List.kinsert id job (List.kerase id jobs.entries) = List.kinsert id job jobs.entries
  rw [List.kinsert_def, List.kinsert_def, List.kerase_of_notMem_keys gone]

theorem ensure_job_table (jobs : JobTable Id Data) (id : Id) (data : Data) :
    tablePort.ensureJob id data jobs = .ok () (ensure jobs id data) := by
  cases found : jobs.get id with
  | none =>
      simp [QueuePort.ensureJob, tablePort, ensure, found, bind, EStateM.bind]
  | some job =>
      cases ended : job.state.ended with
      | true =>
          have name := (name_ended job.state).2 ended
          have gone : (jobs.remove id).get id = none := by
            rw [Table.get_remove, if_pos rfl]
          simp [QueuePort.ensureJob, tablePort, ensure, found, ended, name, gone, put_remove, bind,
            EStateM.bind]
      | false =>
          have name : ¬ (job.state.name = "completed" ∨ job.state.name = "failed") := by
            rw [name_ended, ended]
            exact Bool.false_ne_true
          simp [QueuePort.ensureJob, tablePort, ensure, found, ended, name, bind, EStateM.bind,
            pure, EStateM.pure]

def Carry (jobs : JobTable Id Data) (carried : Id → Data → Prop) : Prop :=
  ∀ id job, jobs.get id = some job → carried id job.data

variable {carried : Id → Data → Prop}

theorem Carry.put (carry : Carry jobs carried) (holds : carried id data) (state : JobState) :
    Carry (jobs.put id ⟨data, state⟩) carried := by
  intro other job stored
  rw [Table.get_put] at stored
  split at stored
  · rename_i same
    cases stored
    rw [same]
    exact holds
  · exact carry other job stored

theorem Carry.ensure (carry : Carry jobs carried) (holds : carried id data) :
    Carry (ensure jobs id data) carried := by
  unfold Jobs.ensure
  split
  · exact carry
  · exact carry.put holds .waiting

theorem take_eq_some :
    take jobs id = some (data, after) ↔
      jobs.get id = some ⟨data, .waiting⟩ ∧ after = jobs.put id ⟨data, .active⟩ := by
  constructor
  · intro taken
    obtain ⟨job, found, rest⟩ := Option.bind_eq_some_iff.1 taken
    split at rest
    · rename_i waiting
      cases rest
      refine ⟨?_, rfl⟩
      rw [found, ← waiting]
    · cases rest
  · rintro ⟨found, rfl⟩
    simp [take, found]

theorem Carry.take (carry : Carry jobs carried) (taken : take jobs id = some (data, after)) :
    Carry after carried := by
  obtain ⟨found, rfl⟩ := take_eq_some.1 taken
  exact carry.put (carry id _ found) .active

theorem Carry.happen (carry : Carry jobs carried) {event : JobEvent}
    (happened : happen jobs id event = some after) : Carry after carried := by
  obtain ⟨job, found, rest⟩ := Option.bind_eq_some_iff.1 happened
  obtain ⟨next, -, written⟩ := Option.bind_eq_some_iff.1 rest
  cases next with
  | some state =>
      cases written
      exact carry.put (carry id job found) state
  | none =>
      cases written
      intro other stored kept
      rw [Table.get_remove] at kept
      split at kept
      · cases kept
      · exact carry other stored kept

/-- What a step of a system does to its jobs, which its producers offer. -/
inductive Changed (offered : Id → Data → Prop) (jobs : JobTable Id Data) : JobTable Id Data → Prop
  | kept : Changed offered jobs jobs
  | ensured (id : Id) (data : Data) (offer : offered id data) :
      Changed offered jobs (ensure jobs id data)
  | taken (id : Id) (data : Data) {after : JobTable Id Data}
      (taken : take jobs id = some (data, after)) : Changed offered jobs after
  | happened (id : Id) (event : JobEvent) {after : JobTable Id Data}
      (happened : happen jobs id event = some after) : Changed offered jobs after

theorem Carry.changed {offered : Id → Data → Prop} (carry : Carry jobs carried)
    (changed : Changed offered jobs after)
    (offers : ∀ id data, offered id data → carried id data) : Carry after carried := by
  cases changed with
  | kept => exact carry
  | ensured id data offer => exact carry.ensure (offers id data offer)
  | taken id data taken => exact carry.take taken
  | happened id event happened => exact carry.happen happened

def Idle (jobs : JobTable Id Data) (id : Id) : Prop :=
  ∀ job, jobs.get id = some job → job.state ≠ .active

theorem idle_or_stalled (jobs : JobTable Id Data) (id : Id) :
    Idle jobs id ∨ ∃ after, happen jobs id .stalled = some after ∧ Idle after id := by
  by_cases idle : Idle jobs id
  · exact Or.inl idle
  · unfold Idle at idle
    push Not at idle
    obtain ⟨job, found, active⟩ := idle
    refine Or.inr ⟨jobs.put id ⟨job.data, .waiting⟩, ?_, ?_⟩
    · simp [happen, found, active, JobEvent.next]
    · intro other stored
      rw [Table.get_put, if_pos rfl] at stored
      cases stored
      simp

theorem ensure_waiting (carry : Carry jobs carried) (holds : carried id data)
    (idle : Idle jobs id) :
    ∃ offered, (ensure jobs id data).get id = some ⟨offered, .waiting⟩ ∧ carried id offered := by
  have carries := carry.ensure holds
  have stored : ∃ offered, (ensure jobs id data).get id = some ⟨offered, .waiting⟩ := by
    unfold ensure
    split
    · rename_i pending
      obtain ⟨job, found, unfinished⟩ := (Option.any_eq_true _ _).1 pending
      have notActive := idle job found
      have waiting : job.state = .waiting := by
        cases state : job.state with
        | waiting => rfl
        | active => exact absurd state notActive
        | completed => simp [state, JobState.ended] at unfinished
        | failed => simp [state, JobState.ended] at unfinished
      refine ⟨job.data, ?_⟩
      rw [found, ← waiting]
    · exact ⟨data, by rw [Table.get_put, if_pos rfl]⟩
  obtain ⟨offered, found⟩ := stored
  exact ⟨offered, found, carries id _ found⟩

end Table

end Jobs
