import LinkAlive.Foundation.Paging
import LinkAlive.Monitoring.Types
import LinkAlive.Worker.OutboxDispatcher
import Mathlib.Data.Prod.Lex

/-!
# A whole call of `dispatch`

`dispatch` of `apps/worker/src/outbox-dispatcher.ts` for a dispatcher that is alone: its pages,
the handling of each candidate, and the queue. It is one pass over the rows that are available
when it starts.
-/

namespace LinkAlive

set_option autoImplicit false

open Paging Relational

/-- `NotificationQueuePort`; every call may fail and changes the world of the queue. -/
structure NotificationQueuePort (World : Type) where
  Job : Type
  getJob : OutboxKey → EStateM Unit World (Option Job)
  getState : Job → EStateM Unit World String
  remove : Job → EStateM Unit World Unit
  add : OutboxKey → EStateM Unit World Unit

def ensureNotificationJob {World : Type} (queue : NotificationQueuePort World)
    (outboxId : OutboxKey) : EStateM Unit World Unit := do
  match ← queue.getJob outboxId with
  | none => queue.add outboxId
  | some existing =>
      let state ← queue.getState existing
      if state = "completed" ∨ state = "failed" then
        queue.remove existing
        queue.add outboxId
      else pure ()

def tryEnsure {World : Type} (queue : NotificationQueuePort World) (outboxId : OutboxKey)
    (world : World) : Bool × World :=
  match ensureNotificationJob queue outboxId world with
  | .ok _ after => (true, after)
  | .error _ after => (false, after)

/-- The columns of the outbox that the order needs besides those of the model; `id` is the
primary key. -/
structure OutboxColumns (Id : Type) where
  createdAt : OutboxKey → Time
  id : OutboxKey → Id
  injective : Function.Injective id

section Dispatch

variable {Id : Type} [LinearOrder Id] (columns : OutboxColumns Id)

/-- `orderBy: availableAt, createdAt, id`. -/
def OutboxColumns.rank (entry : OutboxKey × OutboxRow) : Lex (Time × Lex (Time × Id)) :=
  toLex (entry.2.availableAt, toLex (columns.createdAt entry.1, columns.id entry.1))

/-- The rows that satisfy `availableForDispatch`, in order. -/
def availableRows (now : Time) (db : Database) : List (OutboxKey × OutboxRow) :=
  rankSort columns.rank (db.outbox.select fun _ row => row.availableForDispatch now)

structure Dispatcher where
  owner : InstanceId
  leaseMs : Nat

/-- What `findMany` returns of a row. -/
def Dispatcher.candidate (dispatcher : Dispatcher) (now : Time) (db : Database)
    (entry : OutboxKey × OutboxRow) : DispatchState where
  owner := dispatcher.owner
  leaseMs := dispatcher.leaseMs
  now := now
  key := entry.1
  eventType := entry.2.eventType
  channelLive := channelLive db entry.1.channelId
  stage := .scanned

structure DispatchWorld (World : Type) where
  db : Database
  queue : World

variable {World : Type} (queue : NotificationQueuePort World)

def handleCandidate (s : DispatchWorld World) (candidate : DispatchState) :
    Handled (DispatchWorld World) :=
  let compared := (compareDown s.db candidate).getD candidate
  let count := (s.db.outbox.get candidate.key).any fun row =>
    row.availableForDispatch candidate.now
  match dispatchCandidate s.db.outbox compared with
  | none => ⟨s, false, false⟩ -- there is always a decision by now
  | some (outbox, none) => ⟨{ s with db := { s.db with outbox := outbox } }, count, false⟩
  | some (outbox, some claimed) =>
      let (accepted, world) := tryEnsure queue candidate.key s.queue
      ⟨{ db := { s.db with outbox := finishDispatch outbox claimed accepted }, queue := world },
        true, accepted⟩

def dispatchFeed (dispatcher : Dispatcher) (now : Time) :
    Feed (DispatchWorld World) DispatchState where
  select s := (availableRows columns now s.db).map (dispatcher.candidate now s.db)
  handle := handleCandidate queue

def dispatchScanMultiplier : Nat := 5

def maxDispatchScan : Nat := 5000

def scanBudget (limit : Nat) : Nat :=
  max limit (min maxDispatchScan (limit * dispatchScanMultiplier))

/-- `dispatch`; what it has examined is not part of its answer. -/
def dispatch (dispatcher : Dispatcher) (now : Time) (limit : Monitoring.Numeral)
    (s : DispatchWorld World) : Tally (DispatchWorld World) DispatchState :=
  match limit.within 1 maxSafeInteger with
  | none => .start s
  | some limit =>
      (dispatchFeed columns queue dispatcher now).paged limit (scanBudget limit) (.start s)

def passDecision (db : Database) (candidate : DispatchState) : DispatchDecision :=
  if !candidate.channelLive then .disabled
  else if candidate.eventType = .recovery then
    match recoveryPrerequisiteStatus (priorDownStatus db candidate.key) with
    | .wait => .wait
    | .cancel => .undelivered (priorDownStatus db candidate.key = some .failed)
    | .ready => .dispatch
  else .dispatch

/-- The candidate's row is canceled or deferred, or else enqueued where the queue accepts its
job and released where it does not. -/
def settleCandidate (s : DispatchWorld World) (candidate : DispatchState) :
    DispatchWorld World × Bool :=
  match passDecision s.db candidate with
  | .dispatch =>
      let (accepted, world) := tryEnsure queue candidate.key s.queue
      let settled (row : OutboxRow) : OutboxRow :=
        let claimed := row.claimedByDispatcher candidate
        if accepted then claimed.enqueuedBy candidate else claimed.releasedBy candidate
      ({ db := { s.db with outbox := s.db.outbox.updateKey candidate.key settled }
         queue := world }, accepted)
  | decision =>
      ({ s with db := { s.db with
          outbox := s.db.outbox.updateKey candidate.key fun row =>
            row.dispatched candidate decision } }, false)

def singlePass (dispatcher : Dispatcher) (now : Time) (limit : Monitoring.Numeral)
    (s : DispatchWorld World) : Tally (DispatchWorld World) DispatchState :=
  match limit.within 1 maxSafeInteger with
  | none => .start s
  | some limit =>
      onePass (settleCandidate queue) limit (scanBudget limit)
        ((availableRows columns now s.db).map (dispatcher.candidate now s.db)) (.start s)

section Rows

variable {columns} {now : Time} {db : Database}

theorem mem_available_rows {entry : OutboxKey × OutboxRow} :
    entry ∈ availableRows columns now db ↔
      db.outbox.get entry.1 = some entry.2 ∧ entry.2.availableForDispatch now = true := by
  rw [availableRows, mem_rank_sort]
  exact Table.mem_select _ _ _ _

theorem available_rows_ranked : Ranked columns.rank (availableRows columns now db) := by
  have keys := db.outbox.select_keys_nodup fun _ row => row.availableForDispatch now
  refine rank_sort_ranked keys.of_map ?_
  rintro ⟨first, firstRow⟩ member ⟨second, secondRow⟩ memberSecond same
  have sameId : columns.id first = columns.id second :=
    congrArg (fun rank => (ofLex (ofLex rank).2).2) same
  have sameKey := columns.injective sameId
  subst sameKey
  have found := ((Table.mem_select _ _ _ _).1 member).1
  rw [((Table.mem_select _ _ _ _).1 memberSecond).1, Option.some.injEq] at found
  rw [found]

/-- A write that makes the first row unavailable leaves the others in their order. -/
theorem available_rows_update {key : OutboxKey} {row : OutboxRow}
    {rest : List (OutboxKey × OutboxRow)}
    (first : availableRows columns now db = (key, row) :: rest) {change : OutboxRow → OutboxRow}
    (gone : ∀ row : OutboxRow, (change row).availableForDispatch now = false) :
    availableRows columns now { db with outbox := db.outbox.updateKey key change } = rest := by
  have ranked : Ranked columns.rank ((key, row) :: rest) := first ▸ available_rows_ranked
  refine available_rows_ranked.ext (List.Pairwise.of_cons ranked) ?_
  rintro ⟨other, otherRow⟩
  have listed : (other, otherRow) ∈ (key, row) :: rest ↔
      db.outbox.get other = some otherRow ∧ otherRow.availableForDispatch now = true :=
    first ▸ mem_available_rows
  rw [List.mem_cons] at listed
  have fresh := (List.nodup_cons.1 ranked.nodup).1
  have member : (key, row) ∈ availableRows columns now db := first ▸ List.mem_cons_self
  have stored : db.outbox.get key = some row := (mem_available_rows.1 member).1
  rw [mem_available_rows]
  dsimp only
  rw [Table.get_update_key]
  by_cases same : other = key
  · subst same
    rw [if_pos rfl]
    constructor
    · rintro ⟨found, available⟩
      obtain ⟨before, -, rfl⟩ := Option.map_eq_some_iff.1 found
      rw [gone] at available
      cases available
    · intro member
      have found := (listed.1 (.inr member)).1
      rw [stored, Option.some.injEq] at found
      exact absurd (found ▸ member) fresh
  · rw [if_neg same, ← listed]
    constructor
    · rintro (head | member)
      · cases head
        exact absurd rfl same
      · exact member
    · exact .inr

end Rows

section Candidates

variable {columns} {queue} {dispatcher : Dispatcher} {now : Time} {s : DispatchWorld World}
  {candidate : DispatchState}

/-- The dispatcher remembers of a candidate what it has read about it. -/
theorem compared_candidate (db : Database) (candidate : DispatchState) :
    ∃ stage, (compareDown db candidate).getD candidate = { candidate with stage := stage } := by
  unfold compareDown
  split
  · exact ⟨_, rfl⟩
  · exact ⟨candidate.stage, rfl⟩

theorem decision_compared (stage : candidate.stage = .scanned) :
    ((compareDown s.db candidate).getD candidate).decision =
      some (passDecision s.db candidate) := by
  unfold compareDown passDecision
  by_cases live : candidate.channelLive = true
  · by_cases recovery : candidate.eventType = .recovery
    · simp only [stage, live, recovery, decide_true, Bool.and_self, if_true, Option.getD_some,
        DispatchState.decision, Bool.not_true, Bool.false_eq_true, if_false]
      cases recoveryPrerequisiteStatus (priorDownStatus s.db candidate.key) <;> rfl
    · simp [stage, live, recovery, DispatchState.decision]
  · simp [stage, live, DispatchState.decision]

theorem dispatch_available {outbox : Table OutboxKey OutboxRow} {state : DispatchState}
    {decision : DispatchDecision} {row : OutboxRow} (decided : state.decision = some decision)
    (stored : outbox.get state.key = some row)
    (available : row.availableForDispatch state.now = true) :
    dispatchCandidate outbox state =
      some (outbox.updateKey state.key fun row => row.dispatched state decision,
        if decision = .dispatch then some { state with stage := .claimed } else none) := by
  have written : outbox.updateWhere
      (fun key row => key = state.key && row.availableForDispatch state.now)
      (fun _ row => row.dispatched state decision) =
        outbox.updateKey state.key fun row => row.dispatched state decision := by
    refine Table.update_where_key outbox state.key _ ?_
    intro other found
    rw [stored, Option.some.injEq] at found
    exact found ▸ available
  unfold dispatchCandidate
  simp only [decided, stored, Option.any_some, available, Bool.and_true, decide_eq_true_eq, written,
    Option.bind_eq_bind, Option.bind_some]

/-- A claim and the last statement about it are one write. -/
theorem finish_claimed (outbox : Table OutboxKey OutboxRow) (state : DispatchState)
    (accepted : Bool) :
    finishDispatch (outbox.updateKey state.key fun row => row.claimedByDispatcher state) state
        accepted =
      outbox.updateKey state.key fun row =>
        if accepted then (row.claimedByDispatcher state).enqueuedBy state
        else (row.claimedByDispatcher state).releasedBy state := by
  unfold finishDispatch
  refine Table.update_key_where outbox state.key _ _ ?_
  intro row
  simp [OutboxRow.claimHeldBy, OutboxRow.claimedByDispatcher]

theorem handle_settles (stage : candidate.stage = .scanned) {row : OutboxRow}
    (stored : s.db.outbox.get candidate.key = some row)
    (available : row.availableForDispatch candidate.now = true) :
    handleCandidate queue s candidate =
      ⟨(settleCandidate queue s candidate).1, true, (settleCandidate queue s candidate).2⟩ := by
  have decided := decision_compared (s := s) stage
  obtain ⟨reached, compared⟩ := compared_candidate s.db candidate
  rw [compared] at decided
  have written := dispatch_available decided stored available
  unfold handleCandidate settleCandidate
  simp only [compared, written, stored, Option.any_some, available]
  cases decision : passDecision s.db candidate with
  | dispatch =>
      simp only [if_true]
      obtain ⟨accepted, world⟩ := tryEnsure queue candidate.key s.queue
      have finished := finish_claimed s.db.outbox candidate accepted
      have claimed : finishDispatch
          (s.db.outbox.updateKey candidate.key fun row => row.claimedByDispatcher candidate)
          { candidate with stage := .claimed } accepted =
        finishDispatch
          (s.db.outbox.updateKey candidate.key fun row => row.claimedByDispatcher candidate)
          candidate accepted := rfl
      rw [finished] at claimed
      exact congrArg (fun outbox => (⟨⟨{ s.db with outbox := outbox }, world⟩, true, accepted⟩ :
        Handled (DispatchWorld World))) claimed
  | disabled => rfl
  | wait => rfl
  | undelivered retain => rfl

theorem later_unavailable {row : OutboxRow} (later : now < row.availableAt) :
    row.availableForDispatch now = false := by
  unfold OutboxRow.availableForDispatch
  rw [decide_eq_false (Nat.not_le.2 later)]
  rfl

theorem settled_unavailable (candidate : DispatchState) (decision : DispatchDecision)
    (other : decision ≠ .dispatch) (row : OutboxRow) :
    (row.dispatched candidate decision).availableForDispatch candidate.now = false := by
  cases decision with
  | dispatch => exact absurd rfl other
  | disabled | undelivered retain =>
      simp [OutboxRow.dispatched, OutboxRow.canceledByDispatcher, OutboxRow.availableForDispatch,
        OutboxRow.retired, apply_ite]
  | wait => exact later_unavailable (Nat.lt_add_of_pos_right (by decide))

theorem enqueued_unavailable (candidate : DispatchState) (row : OutboxRow) :
    ((row.claimedByDispatcher candidate).enqueuedBy candidate).availableForDispatch
      candidate.now = false := by
  simp [OutboxRow.availableForDispatch, OutboxRow.enqueuedBy, leaseExpired]

theorem released_unavailable (candidate : DispatchState) (row : OutboxRow) :
    ((row.claimedByDispatcher candidate).releasedBy candidate).availableForDispatch
      candidate.now = false :=
  later_unavailable (Nat.lt_add_of_pos_right (by decide))

variable (queue dispatcher) in
theorem settle_leaves {entry : OutboxKey × OutboxRow} {rest : List (OutboxKey × OutboxRow)}
    (first : availableRows columns now s.db = entry :: rest) :
    let after := (settleCandidate queue s (dispatcher.candidate now s.db entry)).1.db
    availableRows columns now after = rest ∧ after.channels = s.db.channels := by
  unfold settleCandidate
  cases decision : passDecision s.db (dispatcher.candidate now s.db entry) with
  | dispatch =>
      refine ⟨available_rows_update first fun row => ?_, rfl⟩
      dsimp only
      split
      · exact enqueued_unavailable (dispatcher.candidate now s.db entry) row
      · exact released_unavailable (dispatcher.candidate now s.db entry) row
  | disabled | wait | undelivered retain =>
      refine ⟨available_rows_update first fun row => ?_, rfl⟩
      exact settled_unavailable (dispatcher.candidate now s.db entry) _ (by simp) row

theorem dispatch_feed_settles :
    (dispatchFeed columns queue dispatcher now).Settles (settleCandidate queue) where
  handles s candidate rest selected := by
    obtain ⟨entry, others, first, rfl, -⟩ := List.map_eq_cons_iff.1 selected
    have member : entry ∈ availableRows columns now s.db := first ▸ List.mem_cons_self
    obtain ⟨stored, available⟩ := mem_available_rows.1 member
    exact handle_settles rfl stored available
  leaves s candidate rest selected := by
    obtain ⟨entry, others, first, rfl, rfl⟩ := List.map_eq_cons_iff.1 selected
    obtain ⟨left, channels⟩ := settle_leaves queue dispatcher first
    change (availableRows columns now _).map (dispatcher.candidate now _) = _
    rw [left]
    apply List.map_congr_left
    intro other _
    simp only [Dispatcher.candidate, channelLive] at channels ⊢
    rw [channels]

/-- What a dispatcher that is alone has done with the rows that were available when it
started. -/
structure OnePass (columns : OutboxColumns Id) (queue : NotificationQueuePort World)
    (dispatcher : Dispatcher) (now : Time) (limit : Monitoring.Numeral) (s : DispatchWorld World)
    (tally : Tally (DispatchWorld World) DispatchState) : Prop where
  /-- The outbox, the queue and the count are those of the single pass. -/
  same : tally = singlePass columns queue dispatcher now limit s
  /-- The rows are examined in order, from the first. -/
  ordered : tally.examined <+: (availableRows columns now s.db).map (dispatcher.candidate now s.db)
  /-- No row is examined twice. -/
  once : (tally.examined.map DispatchState.key).Nodup
  /-- Unless a bound is reached every row has been examined. -/
  complete : ∀ bound, limit.within 1 maxSafeInteger = some bound →
    tally.dispatched < bound → tally.scanned < scanBudget bound →
      tally.examined =
        (availableRows columns now s.db).map (dispatcher.candidate now s.db)

theorem single_pass_examined (columns : OutboxColumns Id) (queue : NotificationQueuePort World)
    (dispatcher : Dispatcher) (now : Time) (limit : Monitoring.Numeral)
    (s : DispatchWorld World) :
    ∃ count, (singlePass columns queue dispatcher now limit s).examined =
      ((availableRows columns now s.db).map (dispatcher.candidate now s.db)).take count := by
  unfold singlePass
  cases limit.within 1 maxSafeInteger with
  | none => exact ⟨0, by simp [Tally.start]⟩
  | some bound =>
      obtain ⟨count, examined, -⟩ := one_pass_examined (settleCandidate queue) bound
        (scanBudget bound) ((availableRows columns now s.db).map (dispatcher.candidate now s.db))
        (.start s)
      exact ⟨count, by simpa [Tally.start] using examined⟩

theorem available_keys_nodup (columns : OutboxColumns Id) (now : Time) (db : Database) :
    ((availableRows columns now db).map Prod.fst).Nodup := by
  have keys := db.outbox.select_keys_nodup fun _ row => row.availableForDispatch now
  exact ((List.mergeSort_perm _ _).map Prod.fst).nodup_iff.2 keys

/-- However the pages are cut, `dispatch` is one pass. -/
theorem dispatch_one_pass (columns : OutboxColumns Id) (queue : NotificationQueuePort World)
    (dispatcher : Dispatcher) (now : Time) (limit : Monitoring.Numeral)
    (s : DispatchWorld World) :
    OnePass columns queue dispatcher now limit s
      (dispatch columns queue dispatcher now limit s) := by
  have same : dispatch columns queue dispatcher now limit s =
      singlePass columns queue dispatcher now limit s := by
    unfold dispatch singlePass
    cases limit.within 1 maxSafeInteger with
    | none => rfl
    | some bound => exact paged_eq_one_pass dispatch_feed_settles (.start s)
  obtain ⟨count, examined⟩ := single_pass_examined columns queue dispatcher now limit s
  refine ⟨same, ?_, ?_, ?_⟩
  · rw [same, examined]
    exact List.take_prefix _ _
  · rw [same, examined, List.map_take, List.map_map]
    exact (List.take_sublist _ _).nodup (available_keys_nodup columns now s.db)
  · intro bound within few cheap
    rw [same] at few cheap ⊢
    unfold singlePass at few cheap ⊢
    rw [within] at few cheap ⊢
    obtain ⟨count, examined, drained⟩ := one_pass_examined (settleCandidate queue) bound
      (scanBudget bound) ((availableRows columns now s.db).map (dispatcher.candidate now s.db))
      (.start s)
    have all := drained (by simp [Tally.goesOn, few, cheap])
    rw [examined, List.take_of_length_le all]
    rfl

end Candidates

end Dispatch

end LinkAlive
