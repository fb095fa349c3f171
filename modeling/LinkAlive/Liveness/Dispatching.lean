import LinkAlive.Liveness.Alone

/-!
# From a row to its worker

A dispatcher without competitors comes to a row, decides about it, and puts its job into
the queue; a worker takes the job and claims the row.
-/

namespace LinkAlive

open Relational Transition

set_option autoImplicit false

section Notifications

variable {w : Workers} {m : Moment} {key : OutboxKey} {row : OutboxRow} {now : Time}

/-- What `findMany` returns of a row to a dispatcher. -/
def Workers.candidate (w : Workers) (now : Time) (db : Database) (key : OutboxKey)
    (row : OutboxRow) : DispatchState :=
  Dispatcher.candidate ⟨w.outboxOwner, w.notificationLeaseMs⟩ now db (key, row)

/-- A dispatcher has read all it needs about a row. -/
structure AtDecision (w : Workers) (m : Moment) (now : Time) (key : OutboxKey) (row : OutboxRow)
    (last : Moment) : Prop where
  clock : last.clock = now
  txs : last.system.txs = m.system.txs
  db : last.system.db = m.system.db
  jobs : last.queued.notificationJobs = m.queued.notificationJobs
  dispatcher : ∃ stage, last.system.dispatchers.get 0 =
      some { w.candidate now m.system.db key row with stage := stage } ∧
    ({ w.candidate now m.system.db key row with stage := stage } : DispatchState).decision =
      some (passDecision m.system.db (w.candidate now m.system.db key row))

theorem decided_possible (found : m.system.db.outbox.get key = some row)
    (available : row.availableForDispatch now = true) (past : m.clock ≤ now) :
    Possible w m (AtDecision w m now key row) := by
  let candidate : DispatchState := w.candidate now m.system.db key row
  have decided : ((compareDown m.system.db candidate).getD candidate).decision =
      some (passDecision m.system.db candidate) :=
    decision_compared (s := ⟨m.system.db, ()⟩) rfl
  obtain ⟨stage, compared⟩ := compared_candidate m.system.db candidate
  rw [compared] at decided
  let scanned : System :=
    { m.system with dispatchers := m.system.dispatchers.put 0 candidate }
  let queued : QueuedSystem :=
    { m.queued with system := scanned, ensured := m.queued.ensured.remove 0 }
  have scan : m.queued.step (.scan 0 w.outboxOwner w.notificationLeaseMs now key) =
      some queued := by
    have selected : scanCandidate m.system.db w.outboxOwner w.notificationLeaseMs now key =
        some candidate := by
      simp only [scanCandidate, found, Option.bind_eq_bind, Option.bind_some, available, if_true]
      rfl
    apply QueuedSystem.run_eq_some.2
    refine ⟨scanned, ?_, rfl⟩
    simp only [step, System.scan, selected, Option.bind_eq_bind, Option.bind_some, scanned]
  have timed : ∀ time ∈ QueueAction.times (.scan 0 w.outboxOwner w.notificationLeaseMs now key),
      m.clock ≤ time ∧ time ≤ now := by
    intro time member
    cases List.mem_singleton.1 member
    exact ⟨past, Nat.le_refl _⟩
  apply Possible.act scan ⟨rfl, rfl⟩ past timed
  have remembered : scanned.dispatchers.get 0 = some candidate := by
    rw [Table.get_put, if_pos rfl]
  cases next : compareDown m.system.db candidate with
  | none =>
      rw [next, Option.getD_none] at compared
      refine CanReach.here ⟨rfl, rfl, rfl, rfl, stage, ?_, decided⟩
      rw [← compared]
      exact remembered
  | some state =>
      rw [next, Option.getD_some] at compared
      have taken : step scanned (.compareDown 0) = some { scanned with
          dispatchers := scanned.dispatchers.put 0 state } := by
        have read : compareDown scanned.db candidate = some state := next
        simp only [step, System.compareDown, remembered, Option.bind_eq_bind, Option.bind_some,
          read]
      refine Possible.core taken rfl ?_ (Nat.le_refl _) ?_ ?_
      · trivial
      · intro time member
        cases member
      · refine CanReach.here ⟨rfl, rfl, rfl, rfl, stage, ?_, decided⟩
        rw [← compared]
        exact (Table.get_put _ _ _ _).trans (if_pos rfl)

theorem guarded_update {s : System} {state : DispatchState} {decision : DispatchDecision}
    (quiet : s.quiescent) (remembered : s.dispatchers.get 0 = some state)
    (decided : state.decision = some decision) (found : s.db.outbox.get state.key = some row)
    (available : row.availableForDispatch state.now = true) :
    step s (.dispatchCandidate 0) = some { s with
      db := { s.db with
        outbox := s.db.outbox.updateKey state.key fun row => row.dispatched state decision }
      dispatchers :=
        if decision = .dispatch then s.dispatchers.put 0 { state with stage := .claimed }
        else s.dispatchers.remove 0 } := by
  have written := dispatch_available decided found available
  have free : s.free (Transaction.locksRow state.key) = true := quiescent_free quiet
  simp only [step, System.dispatchCandidate, remembered, Option.bind_eq_bind, Option.bind_some,
    written, free, if_true]
  by_cases dispatch : decision = .dispatch
  · simp only [if_pos dispatch]
  · simp only [if_neg dispatch]

theorem settled_possible {decision : DispatchDecision} (quiet : m.system.quiescent)
    (found : m.system.db.outbox.get key = some row)
    (available : row.availableForDispatch now = true) (past : m.clock ≤ now)
    (decided : passDecision m.system.db (w.candidate now m.system.db key row) = decision)
    (other : decision ≠ .dispatch) :
    Possible w m fun last => last.system.quiescent ∧ last.system.db = { m.system.db with
      outbox := m.system.db.outbox.updateKey key fun stored =>
        stored.dispatched (w.candidate now m.system.db key row) decision } := by
  apply (decided_possible found available past).trans
  intro middle ready
  obtain ⟨stage, remembered, reached⟩ := ready.dispatcher
  rw [decided] at reached
  have quiet : middle.system.quiescent := fun t => by rw [ready.txs, quiet t]
  rw [← ready.db] at found
  have taken := guarded_update quiet remembered reached found available
  rw [if_neg other] at taken
  refine Possible.core taken rfl ?_ (Nat.le_of_eq ready.clock) ?_ ?_
  · trivial
  · intro time member
    cases member
  · refine CanReach.here ⟨quiet, ?_⟩
    rw [ready.db]
    cases decision with
    | dispatch => exact absurd rfl other
    | disabled => rfl
    | wait => rfl
    | undelivered retain => rfl

def Workers.enqueues (w : Workers) (now : Time) (key : OutboxKey) (row : OutboxRow) : OutboxRow :=
  { row with
    status := .enqueued
    leaseOwner := some w.outboxOwner
    leaseUntil := some (now + w.notificationLeaseMs)
    queueJobId := some key
    enqueuedAt := some now }

structure Enqueued (w : Workers) (s : System) (now : Time) (key : OutboxKey) (last : Moment) :
    Prop where
  clock : last.clock = now
  quiescent : last.system.quiescent
  db : last.system.db = { s.db with outbox := s.db.outbox.updateKey key (w.enqueues now key) }
  job : last.queued.notificationJobs.get key = some ⟨key, .waiting⟩

/-- A row that is dispatched comes into the queue, unless its job is there already. -/
theorem enqueued_possible (quiet : m.system.quiescent)
    (own : Jobs.Carry m.queued.notificationJobs fun key outboxId => outboxId = key)
    (idle : Jobs.Idle m.queued.notificationJobs key)
    (found : m.system.db.outbox.get key = some row)
    (available : row.availableForDispatch now = true) (past : m.clock ≤ now)
    (decided : passDecision m.system.db (w.candidate now m.system.db key row) = .dispatch) :
    Possible w m (Enqueued w m.system now key) := by
  apply (decided_possible found available past).trans
  intro middle ready
  obtain ⟨stage, remembered, reached⟩ := ready.dispatcher
  rw [decided] at reached
  have quiet : middle.system.quiescent := fun t => by rw [ready.txs, quiet t]
  rw [← ready.db] at found
  have taken := guarded_update quiet remembered reached found available
  rw [if_pos rfl] at taken
  have clock : middle.clock ≤ now := Nat.le_of_eq ready.clock
  have timeless : ∀ time ∈ ([] : List Time), middle.clock ≤ time ∧ time ≤ now :=
    fun _ member => by cases member
  refine Possible.core taken rfl ?_ clock timeless ?_
  · trivial
  -- the job
  let claimed : DispatchState := { w.candidate now m.system.db key row with stage := .claimed }
  let system : System := { middle.system with
    db := { middle.system.db with
      outbox := middle.system.db.outbox.updateKey key fun row => row.claimedByDispatcher claimed }
    dispatchers := middle.system.dispatchers.put 0 claimed }
  have holds : system.dispatchers.get 0 = some claimed := by
    rw [Table.get_put, if_pos rfl]
  let jobs := Jobs.ensure middle.queued.notificationJobs key key
  let ensured : QueuedSystem := { middle.queued with
    system := system
    notificationJobs := jobs
    ensured := middle.queued.ensured.put 0 key }
  have ensures : QueuedSystem.step { middle.queued with system := system }
      (.ensureNotificationJob 0) = some ensured := by
    simp only [QueuedSystem.step, QueuedSystem.ensureNotificationJob, holds, Option.bind_eq_bind,
      Option.bind_some]
    rfl
  refine Possible.act ensures trivial (Nat.le_refl _) (fun _ member => by cases member) ?_
  -- the mark
  let enqueued := m.system.db.outbox.updateKey key (w.enqueues now key)
  have accepted : finishDispatch system.db.outbox claimed true = enqueued := by
    have written := finish_claimed middle.system.db.outbox claimed true
    rw [ready.db] at written
    change finishDispatch (middle.system.db.outbox.updateKey key _) claimed true = _
    rw [ready.db]
    exact written
  let last : System := { system with
    db := { system.db with outbox := enqueued }
    dispatchers := system.dispatchers.remove 0 }
  have finishes : step system (.finishDispatch 0 true) = some last := by
    have free : system.free (Transaction.locksRow claimed.key) = true := quiescent_free quiet
    simp only [step, System.finishDispatch, holds, Option.bind_eq_bind, Option.bind_some, free,
      accepted]
    rfl
  have marks : ensured.step (.finishDispatch 0 true) = some { ensured with
      system := last
      ensured := ensured.ensured.remove 0 } := by
    have known : ensured.ensured.get 0 = some key := by
      rw [Table.get_put, if_pos rfl]
    simp only [QueuedSystem.step, QueuedSystem.finishDispatch, known, Option.isNone_some,
      Bool.and_false, Bool.false_eq_true, if_false]
    exact QueuedSystem.run_eq_some.2 ⟨last, finishes, rfl⟩
  refine Possible.act marks trivial (Nat.le_refl _) (fun _ member => by cases member) ?_
  refine CanReach.here ⟨rfl, quiet, ?_, ?_⟩
  · change ({ middle.system.db with outbox := enqueued } : Database) = _
    rw [ready.db]
  · change jobs.get key = _
    rw [← ready.jobs] at own idle
    obtain ⟨outboxId, waits, same⟩ := Jobs.ensure_waiting own rfl idle
    rw [same] at waits
    exact waits

theorem notification_idle_possible (w : Workers) (m : Moment) (key : OutboxKey) :
    Possible w m fun last => last.system = m.system ∧ last.clock = m.clock ∧
      Jobs.Idle last.queued.notificationJobs key := by
  rcases Jobs.idle_or_stalled m.queued.notificationJobs key with idle | ⟨jobs, stalled, idle⟩
  · exact CanReach.here ⟨rfl, rfl, idle⟩
  · have taken : m.queued.step (.notificationJob key .stalled) =
        some { m.queued with notificationJobs := jobs } := by
      simp only [QueuedSystem.step, stalled, Option.bind_eq_bind, Option.bind_some]
    refine Possible.act taken trivial (Nat.le_refl _) (fun _ member => by cases member) ?_
    exact CanReach.here ⟨rfl, rfl, idle⟩

def Workers.claim (w : Workers) (now : Time) (db : Database) (key : OutboxKey) : ClaimTx where
  key := key
  instanceId := w.processor.instanceId
  leaseMs := w.notificationLeaseMs
  now := now
  channelLive := channelLive db key.channelId

theorem claim_possible {db : Database} {granted : Option ClaimedNotification}
    (quiet : m.system.quiescent) (job : m.queued.notificationJobs.get key = some ⟨key, .waiting⟩)
    (found : m.system.db.outbox.get key = some row) (past : m.clock ≤ now)
    (written : claimCommit m.system.db (w.claim now m.system.db key) = some (db, granted)) :
    Possible w m fun last => last.system.quiescent ∧ last.system.db = db ∧ last.clock ≤ now ∧
      ∀ claimed, granted = some claimed →
        last.system.attempts.get (claimed.key, claimed.deliveryAttempt) = some claimed := by
  let tx : ClaimTx := w.claim now m.system.db key
  let begun : System := { m.system with txs := m.system.txs.put 0 (.claim tx) }
  have started : step m.system (.beginClaim 0 key w.processor.instanceId w.notificationLeaseMs now) =
      some begun := by
    simp only [step, System.beginClaim, found, Option.isSome_some, quiescent_free quiet,
      Bool.and_self, if_true]
    exact System.begin_eq_some.2 ⟨quiet 0, rfl⟩
  let jobs := m.queued.notificationJobs.put key ⟨key, .active⟩
  have taken : m.queued.step (.takeNotification key 0 w.processor.instanceId w.notificationLeaseMs
      now) = some { m.queued with system := begun, notificationJobs := jobs } := by
    have took : Jobs.take m.queued.notificationJobs key = some (key, jobs) :=
      Jobs.take_eq_some.2 ⟨job, rfl⟩
    simp only [QueuedSystem.step, QueuedSystem.takeNotification, took, Option.bind_eq_bind,
      Option.bind_some]
    exact QueuedSystem.run_eq_some.2 ⟨begun, started, rfl⟩
  have timed : ∀ time ∈ QueueAction.times (.takeNotification key 0 w.processor.instanceId
      w.notificationLeaseMs now), m.clock ≤ time ∧ time ≤ now := by
    intro time member
    cases List.mem_singleton.1 member
    exact ⟨past, Nat.le_refl _⟩
  refine Possible.act taken ⟨rfl, rfl⟩ past timed ?_
  have alone : begun.alone 0 := quiescent_put quiet 0 _
  have inProgress : begun.txs.get 0 = some (.claim tx) := by
    rw [Table.get_put, if_pos rfl]
  have ended : PossibleAt w now begun _ := claim_alone alone inProgress written
  apply (ended.lift (Nat.le_refl _)).weaken
  rintro last ⟨⟨quiet, same, attempts⟩, -, clock⟩
  exact ⟨quiet, same, clock, attempts⟩

end Notifications

def CheckRow.turn (row : CheckRow) : Time := row.leaseUntil.getD 0 + 1

theorem lease_over_of_turn {check : CheckRow} {now : Time} (turn : check.turn ≤ now) :
    check.leaseOver now := by
  intro leaseUntil lease
  rw [CheckRow.turn, lease, Option.getD_some] at turn
  exact turn

section Checks

variable {w : Workers} {m : Moment} {id : CheckId} {check : CheckRow} {now : Time}

def Workers.enqueuesCheck (w : Workers) (now : Time) (id : CheckId) (check : CheckRow) :
    CheckRow :=
  { check with
    status := .enqueued
    leaseOwner := some w.schedulerOwner
    leaseUntil := some (now + w.schedulerLeaseMs)
    queueJobId := some id
    attemptCount := check.attemptCount + 1
    failureReasonSafe := none
    enqueuedAt := some now }

structure CheckHanded (w : Workers) (s : System) (now : Time) (id : CheckId) (check : CheckRow)
    (last : Moment) : Prop where
  clock : last.clock = now
  quiescent : last.system.quiescent
  job : last.queued.checkJobs.get id = some ⟨⟨id, check.configVersion⟩, .waiting⟩
  own : last.system.db.checks.get id = some (w.enqueuesCheck now id check)
  others : ∀ other, other ≠ id → last.system.db.checks.get other = s.db.checks.get other
  db : last.system.db = { s.db with checks := last.system.db.checks }

theorem check_idle_possible (w : Workers) (m : Moment) (id : CheckId) :
    Possible w m fun last => last.system = m.system ∧ last.clock = m.clock ∧
      Jobs.Idle last.queued.checkJobs id := by
  rcases Jobs.idle_or_stalled m.queued.checkJobs id with idle | ⟨jobs, stalled, idle⟩
  · exact CanReach.here ⟨rfl, rfl, idle⟩
  · have taken : m.queued.step (.checkJob id .stalled) =
        some { m.queued with checkJobs := jobs } := by
      simp only [QueuedSystem.step, stalled, Option.bind_eq_bind, Option.bind_some]
    refine Possible.act taken trivial (Nat.le_refl _) (fun _ member => by cases member) ?_
    exact CanReach.here ⟨rfl, rfl, idle⟩

/-- What the claim and the mark of a dispatcher leave of the rows. -/
theorem dispatched_rows {checks : Checks} (found : checks.get id = some check)
    (claimable : check.claimableForDispatch now = true) (unfinished : check.completedAt = none)
    (other : CheckId) :
    (markEnqueued
      (claimForDispatch checks id w.schedulerOwner now (now + w.schedulerLeaseMs))
      id w.schedulerOwner now (now + w.schedulerLeaseMs)).get other =
        if other = id then some (w.enqueuesCheck now id check) else checks.get other := by
  rw [markEnqueued, claimForDispatch, Table.get_update_where, Table.get_update_where]
  split
  · rename_i own
    subst own
    simp only [found, Option.map_some, decide_true, claimable, Bool.and_self, if_true,
      CheckRow.claimedBy, unfinished, Option.isNone_none]
    rw [Workers.enqueuesCheck, unfinished]
  · rename_i different
    simp only [different, decide_false, Bool.false_and, Bool.false_eq_true, if_false,
      Option.map_id']

/-- An active check whose turn it is comes into the queue, unless its job is there already. -/
theorem check_handed_possible (invariant : m.queued.QueueInvariant) (quiet : m.system.quiescent)
    (idle : Jobs.Idle m.queued.checkJobs id) (found : m.system.db.checks.get id = some check)
    (valid : check.WellFormed) (active : check.status.isActive = true)
    (unrecorded : m.system.db.results.get id = none) (turn : check.turn ≤ now)
    (past : m.clock ≤ now) : Possible w m (CheckHanded w m.system now id check) := by
  obtain ⟨candidate, claimable⟩ := dispatched_after_lease valid active (lease_over_of_turn turn)
  let selected : CheckTurn :=
    { owner := w.schedulerOwner
      leaseMs := w.schedulerLeaseMs
      now := now
      scheduledCheckId := id
      configVersion := check.configVersion
      stage := .selected }
  let first : QueuedSystem := { m.queued with turns := m.queued.turns.put 0 selected }
  have finds : m.queued.step (.findDispatchCandidate 0 w.schedulerOwner w.schedulerLeaseMs now id) =
      some first := by
    have returned : findDispatchCandidate m.system.db w.schedulerOwner w.schedulerLeaseMs now id =
        some selected := by
      simp only [findDispatchCandidate, found, unrecorded, Option.isSome_none, candidate,
        Option.bind_eq_bind, Option.bind_some, if_true, selected]
    simp only [QueuedSystem.step, QueuedSystem.findDispatchCandidate, returned, Option.bind_eq_bind,
      Option.bind_some, first]
  have timed : ∀ time ∈ QueueAction.times (.findDispatchCandidate 0 w.schedulerOwner
      w.schedulerLeaseMs now id), m.clock ≤ time ∧ time ≤ now := by
    intro time member
    cases List.mem_singleton.1 member
    exact ⟨past, Nat.le_refl _⟩
  refine Possible.act finds ⟨rfl, rfl⟩ past timed ?_
  -- the claim
  let claimed : CheckTurn := { selected with stage := .claimed }
  let claims : Checks :=
    claimForDispatch m.system.db.checks id w.schedulerOwner now selected.leaseUntil
  let second : QueuedSystem := { first with
    system := { m.system with db := { m.system.db with checks := claims } }
    turns := first.turns.put 0 claimed }
  have claim : first.step (.claimForDispatch 0) = some second := by
    have remembered : first.turnAt 0 .selected = some selected := by
      rw [QueuedSystem.turnAt, Table.get_put, if_pos rfl]
      rfl
    have granted : selected.claims first.system.db = true := by
      change (m.system.db.checks.get id).any _ = true
      rw [found]
      exact claimable
    simp only [QueuedSystem.step, QueuedSystem.claimForDispatch, remembered, granted, if_true,
      Option.bind_eq_bind, Option.bind_some]
    exact QueuedSystem.run_eq_some.2 ⟨_, rfl, rfl⟩
  have timeless : ∀ clock, ∀ time ∈ ([] : List Time), clock ≤ time ∧ time ≤ now :=
    fun _ _ member => by cases member
  refine Possible.act claim trivial (Nat.le_refl _) (timeless _) ?_
  -- the job
  let ensured : CheckTurn := { selected with stage := .ensured }
  let jobs := Jobs.ensure m.queued.checkJobs id selected.data
  let third : QueuedSystem := { second with
    checkJobs := jobs
    turns := second.turns.put 0 ensured }
  have ensure : second.step (.ensureQueueJob 0) = some third := by
    have remembered : second.turnAt 0 .claimed = some claimed := by
      rw [QueuedSystem.turnAt, Table.get_put, if_pos rfl]
      rfl
    simp only [QueuedSystem.step, QueuedSystem.ensureQueueJob, remembered, Option.bind_eq_bind,
      Option.bind_some]
    rfl
  refine Possible.act ensure trivial (Nat.le_refl _) (timeless _) ?_
  -- the mark
  let marks : Checks := markEnqueued claims id w.schedulerOwner now selected.leaseUntil
  let last : QueuedSystem := { third with
    system := { m.system with db := { m.system.db with checks := marks } }
    turns := third.turns.remove 0 }
  have mark : third.step (.markEnqueued 0) = some last := by
    have remembered : third.turnAt 0 .ensured = some ensured := by
      rw [QueuedSystem.turnAt, Table.get_put, if_pos rfl]
      rfl
    simp only [QueuedSystem.step, QueuedSystem.markEnqueued, remembered, Option.bind_eq_bind,
      Option.bind_some]
    exact QueuedSystem.run_eq_some.2 ⟨_, rfl, rfl⟩
  refine Possible.act mark trivial (Nat.le_refl _) (timeless _) ?_
  have rows : ∀ other, marks.get other =
      if other = id then some (w.enqueuesCheck now id check) else m.system.db.checks.get other :=
    dispatched_rows found claimable (valid.unfinished active)
  refine CanReach.here ⟨rfl, quiet, ?_, ?_, ?_, rfl⟩
  · have offers : selected.data.scheduledCheckId = id ∧ selected.data.Current m.system.db :=
      ⟨rfl, check, found, rfl⟩
    obtain ⟨⟨other, version⟩, waits, own, row, stored, same⟩ :=
      Jobs.ensure_waiting invariant.checkJobs offers idle
    dsimp only at own stored same
    rw [own, found, Option.some.injEq] at stored
    rw [own, ← same, ← stored] at waits
    exact waits
  · exact (rows id).trans (if_pos rfl)
  · intro other different
    exact (rows other).trans (if_neg different)

end Checks

end LinkAlive
