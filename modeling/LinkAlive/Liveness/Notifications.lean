import LinkAlive.Liveness.Dispatching

/-!
# No notification is stuck

Whatever has happened, dispatchers and workers can still bring every outbox row to its
end, and deliver it as long as its channel is live and it has attempts left. A recovery
that waits for its DOWN row has its turn once that row has ended.
-/

namespace LinkAlive

open Relational Transition

set_option autoImplicit false

/-- A time at which nobody holds the row any more and it is due. -/
def OutboxRow.turn (row : OutboxRow) : Time := row.availableAt + row.leaseUntil.getD 0 + 1

theorem turn_due (row : OutboxRow) : row.availableAt ≤ row.turn := by
  rw [OutboxRow.turn, Nat.add_assoc]
  exact Nat.le_add_right _ _

theorem turn_free (row : OutboxRow) (lease : Time) (leased : row.leaseUntil = some lease) :
    lease < row.turn := by
  rw [OutboxRow.turn, leased, Option.getD_some]
  exact Nat.lt_succ_of_le (Nat.le_add_left _ _)

def Ended (db : Database) (key : OutboxKey) : Prop :=
  ∃ row, db.outbox.get key = some row ∧ row.status.isTerminal = true

def Delivered (db : Database) (key : OutboxKey) : Prop :=
  ∃ row, db.outbox.get key = some row ∧ row.status = .sent

def waitingRows (db : Database) : List (OutboxKey × OutboxRow) :=
  db.outbox.select fun _ row => !row.status.isTerminal

/-- Once its turn has come, a dispatcher finds the row. -/
theorem available_in_turn {row : OutboxRow} {now : Time} (held : row.Held)
    (waiting : row.status.isTerminal = false) (turn : row.turn ≤ now) :
    row.availableForDispatch now = true := by
  apply held.redispatchable.available now waiting ((turn_due row).trans turn)
  intro lease leased
  exact Nat.lt_of_lt_of_le (turn_free row lease leased) turn

theorem claim_enqueued {tx : ClaimTx} {row : OutboxRow} {down : Option NotificationOutboxStatus}
    (live : tx.channelLive = true) (enqueued : row.status = .enqueued)
    (ready : row.eventType = .recovery → down = some .sent) :
    claimOutcome tx row down =
      if row.maxAttempts ≤ row.attemptCount then .exhausted else .granted := by
  have delivered : (decide (row.eventType = .recovery) && decide (down ≠ some .sent)) = false := by
    by_cases recovery : row.eventType = .recovery
    · simp [ready recovery]
    · simp [recovery]
  have claimable : (!row.status.isWaiting &&
      !(row.status = .processing && leaseExpired tx.now row.leaseUntil)) = false := by
    rw [enqueued]
    rfl
  have due : ((row.status = .pending || row.status = .retry) &&
      decide (tx.now < row.availableAt)) = false := by
    rw [enqueued]
    rfl
  unfold claimOutcome
  simp only [live, claimable, due, delivered, Bool.not_true, Bool.false_eq_true, if_false]

theorem SameLedger.trans {db middle after : Database} (first : SameLedger db middle)
    (second : SameLedger middle after) : SameLedger db after :=
  ⟨second.monitors.trans first.monitors, second.checks.trans first.checks,
    second.results.trans first.results, second.incidents.trans first.incidents⟩

structure RowsAdvance (db after : Database) : Prop where
  kept : ∀ key row, db.outbox.get key = some row → ∃ next, after.outbox.get key = some next
  waiting : ∀ key next, after.outbox.get key = some next → next.status.isTerminal = false →
    ∃ row, db.outbox.get key = some row ∧ row.status.isTerminal = false
  ledger : SameLedger db after

theorem RowsAdvance.trans {db middle after : Database} (first : RowsAdvance db middle)
    (second : RowsAdvance middle after) : RowsAdvance db after := by
  constructor
  · intro key row before
    obtain ⟨between, stored⟩ := first.kept key row before
    exact second.kept key between stored
  · intro key next stored unfinished
    obtain ⟨between, earlier, open_⟩ := second.waiting key next stored unfinished
    exact first.waiting key between earlier open_
  · exact first.ledger.trans second.ledger

/-- Rows that are changed in their places advance, if none that has ended starts again. -/
theorem rows_advance_of_write {db after : Database} (change : OutboxKey → OutboxRow → OutboxRow)
    (written : ∀ key, after.outbox.get key = (db.outbox.get key).map (change key))
    (stays : ∀ key row, db.outbox.get key = some row → row.status.isTerminal = true →
      (change key row).status.isTerminal = true)
    (ledger : SameLedger db after) : RowsAdvance db after := by
  refine ⟨?_, ?_, ledger⟩
  · intro key row before
    rw [written, before]
    exact ⟨_, rfl⟩
  · intro key next stored unfinished
    rw [written, Option.map_eq_some_iff] at stored
    obtain ⟨row, before, same⟩ := stored
    refine ⟨row, before, ?_⟩
    cases terminal : row.status.isTerminal with
    | false => rfl
    | true =>
        have still := stays key row before terminal
        rw [same, unfinished] at still
        cases still

structure RowWritten (db after : Database) (key : OutboxKey) (next : OutboxRow) : Prop where
  own : after.outbox.get key = some next
  others : ∀ other, other ≠ key → after.outbox.get other = db.outbox.get other
  channels : after.channels = db.channels
  ledger : SameLedger db after

theorem row_written_of_update {db after : Database} {key : OutboxKey} {row : OutboxRow}
    (found : db.outbox.get key = some row) (change : OutboxRow → OutboxRow)
    (outbox : after.outbox = db.outbox.updateKey key change)
    (channels : after.channels = db.channels) (ledger : SameLedger db after) :
    RowWritten db after key (change row) := by
  refine ⟨?_, ?_, channels, ledger⟩
  · rw [outbox, Table.get_update_key_self, found]
    rfl
  · intro other different
    rw [outbox, Table.get_update_key_other _ _ different]

theorem RowWritten.trans {db middle after : Database} {key : OutboxKey} {first second : OutboxRow}
    (earlier : RowWritten db middle key first) (later : RowWritten middle after key second) :
    RowWritten db after key second where
  own := later.own
  others other different := (later.others other different).trans (earlier.others other different)
  channels := later.channels.trans earlier.channels
  ledger := earlier.ledger.trans later.ledger

theorem RowWritten.advance {db after : Database} {key : OutboxKey} {row next : OutboxRow}
    (written : RowWritten db after key next) (found : db.outbox.get key = some row)
    (waiting : row.status.isTerminal = false) : RowsAdvance db after := by
  refine ⟨?_, ?_, written.ledger⟩
  · intro other before stored
    by_cases same : other = key
    · rw [same]
      exact ⟨next, written.own⟩
    · exact ⟨before, by rw [written.others other same, stored]⟩
  · intro other later stored unfinished
    by_cases same : other = key
    · rw [same]
      exact ⟨row, found, waiting⟩
    · rw [written.others other same] at stored
      exact ⟨later, stored, unfinished⟩

/-- The row has come to its end while the others have advanced. -/
structure EndsRow (key : OutboxKey) (s last : System) : Prop where
  quiescent : last.quiescent
  ended : Ended last.db key
  advance : RowsAdvance s.db last.db

theorem update_key_map (outbox : Outbox) (key : OutboxKey) (change : OutboxRow → OutboxRow)
    (other : OutboxKey) :
    (outbox.updateKey key change).get other =
      (outbox.get other).map fun row => if other = key then change row else row := by
  rw [Table.get_update_key]
  split
  · rfl
  · rw [Option.map_id']

/-- `cancelUndeliveredRecovery` on one row. -/
def OutboxRow.undeliveredWith (row : OutboxRow) (down : OutboxKey) (now : Time)
    (key : OutboxKey) : OutboxRow :=
  if key.incidentId = down.incidentId && key.channelId = down.channelId &&
      row.eventType = .recovery && row.status.isWaiting then row.canceledAsUndelivered now
  else row

theorem cancel_undelivered_map (outbox : Outbox) (down : OutboxKey) (now : Time)
    (key : OutboxKey) :
    (cancelUndeliveredRecovery outbox down now).get key =
      (outbox.get key).map fun row => row.undeliveredWith down now key := by
  rw [cancelUndeliveredRecovery, Table.get_update_where]
  rfl

theorem undelivered_with_terminal {row : OutboxRow} (terminal : row.status.isTerminal = true)
    (down : OutboxKey) (now : Time) (key : OutboxKey) :
    (row.undeliveredWith down now key).status.isTerminal = true := by
  unfold OutboxRow.undeliveredWith
  split
  · rfl
  · exact terminal

section Ends

variable {w : Workers} {s : System} {m : Moment} {key : OutboxKey} {row : OutboxRow} {now : Time}

theorem ends_of_write {last : System} (final : OutboxRow → OutboxRow) (down : Bool) (now : Time)
    (found : s.db.outbox.get key = some row)
    (written : last.db.outbox = if down then
        cancelUndeliveredRecovery (s.db.outbox.updateKey key final) key now
      else s.db.outbox.updateKey key final)
    (ends : ∀ row, (final row).status.isTerminal = true) (quiet : last.quiescent)
    (ledger : SameLedger s.db last.db) : EndsRow key s last := by
  let own (other : OutboxKey) (row : OutboxRow) : OutboxRow :=
    if other = key then final row else row
  let change (other : OutboxKey) (row : OutboxRow) : OutboxRow :=
    if down then (own other row).undeliveredWith key now other else own other row
  have changed : ∀ other, last.db.outbox.get other =
      (s.db.outbox.get other).map (change other) := by
    intro other
    rw [written]
    cases down with
    | false => exact update_key_map _ _ _ _
    | true =>
        change (cancelUndeliveredRecovery _ key now).get other = _
        rw [cancel_undelivered_map, update_key_map, Option.map_map]
        rfl
  have terminal : ∀ other row, other = key ∨ row.status.isTerminal = true →
      (change other row).status.isTerminal = true := by
    intro other row which
    have first : (own other row).status.isTerminal = true := by
      by_cases same : other = key
      · simp only [own, if_pos same]
        exact ends row
      · simp only [own, if_neg same]
        exact which.resolve_left same
    cases down with
    | false => exact first
    | true => exact undelivered_with_terminal first key now other
  refine ⟨quiet, ?_, ?_⟩
  · refine ⟨change key row, ?_, terminal key row (Or.inl rfl)⟩
    rw [changed, found]
    rfl
  · apply rows_advance_of_write change changed _ ledger
    intro other row _ already
    exact terminal other row (Or.inr already)

theorem ends_dead (quiet : m.system.quiescent) (found : m.system.db.outbox.get key = some row)
    (waiting : row.status.isTerminal = false) (held : row.Held)
    (dead : channelLive m.system.db key.channelId = false) :
    Possible w m fun last => EndsRow key m.system last.system := by
  let now := max m.clock row.turn
  have available := available_in_turn held waiting (Nat.le_max_right m.clock row.turn)
  have decided : passDecision m.system.db (w.candidate now m.system.db key row) = .disabled := by
    have unread : (w.candidate now m.system.db key row).channelLive = false := dead
    simp [passDecision, unread]
  have settled := settled_possible quiet found available (Nat.le_max_left m.clock row.turn) decided
    (by simp)
  apply settled.weaken
  rintro last ⟨quiet, db⟩
  apply ends_of_write (fun row => row.dispatched (w.candidate now m.system.db key row) .disabled)
    false 0 found _ (fun _ => rfl) quiet
  · rw [db]
    exact ⟨rfl, rfl, rfl, rfl⟩
  · rw [db]
    rfl

theorem ends_undelivered (quiet : m.system.quiescent)
    (found : m.system.db.outbox.get key = some row) (waiting : row.status.isTerminal = false)
    (held : row.Held) (live : channelLive m.system.db key.channelId = true)
    (recovery : row.eventType = .recovery)
    (undelivered : recoveryPrerequisiteStatus (priorDownStatus m.system.db key) = .cancel) :
    Possible w m fun last => EndsRow key m.system last.system := by
  let now := max m.clock row.turn
  let retain : Bool := priorDownStatus m.system.db key = some .failed
  have available := available_in_turn held waiting (Nat.le_max_right m.clock row.turn)
  have decided : passDecision m.system.db (w.candidate now m.system.db key row) =
      .undelivered retain := by
    have read : (w.candidate now m.system.db key row).channelLive = true := live
    have event : (w.candidate now m.system.db key row).eventType = .recovery := recovery
    have prior : recoveryPrerequisiteStatus
        (priorDownStatus m.system.db (w.candidate now m.system.db key row).key) = .cancel :=
      undelivered
    simp only [passDecision, read, event, prior, Bool.not_true, Bool.false_eq_true, if_false,
      if_true]
    rfl
  have settled := settled_possible quiet found available (Nat.le_max_left m.clock row.turn) decided
    (by simp)
  apply settled.weaken
  rintro last ⟨quiet, db⟩
  have terminal : ∀ stored : OutboxRow, (stored.dispatched (w.candidate now m.system.db key row)
      (.undelivered retain)).status.isTerminal = true := by
    intro stored
    simp only [OutboxRow.dispatched, OutboxRow.canceledByDispatcher]
    split <;> rfl
  apply ends_of_write (fun stored => stored.dispatched (w.candidate now m.system.db key row)
    (.undelivered retain)) false 0 found _ terminal quiet
  · rw [db]
    exact ⟨rfl, rfl, rfl, rfl⟩
  · rw [db]
    rfl

theorem down_not_recovery (fits : row.Fits key.down) : row.eventType ≠ .recovery := by
  intro recovery
  have sequence : notificationSequence .down = notificationSequence row.eventType := fits.2
  rw [recovery] at sequence
  cases sequence

structure Handed (w : Workers) (s : System) (now : Time) (key : OutboxKey) (row : OutboxRow)
    (last : Moment) : Prop where
  reachable : last.queued.Reachable
  quiescent : last.system.quiescent
  clock : last.clock = now
  job : last.queued.notificationJobs.get key = some ⟨key, .waiting⟩
  written : RowWritten s.db last.system.db key (w.enqueues now key row)
  prior : row.eventType = .recovery →
    priorDownStatus last.system.db key = priorDownStatus s.db key

theorem handed_possible (reachable : m.queued.Reachable) (quiet : m.system.quiescent)
    (found : m.system.db.outbox.get key = some row) (waiting : row.status.isTerminal = false)
    (live : channelLive m.system.db key.channelId = true)
    (ready : row.eventType = .recovery → priorDownStatus m.system.db key = some .sent) :
    Possible w m (Handed w m.system (max m.clock row.turn) key row) := by
  let now := max m.clock row.turn
  have reached := QueuedSystem.system_reachable reachable
  obtain ⟨-, held⟩ := (attempt_invariant_reachable reached).rows key row found
  have fits := (outbox_invariant_reachable reached).fits
  have available := available_in_turn held waiting (Nat.le_max_right m.clock row.turn)
  apply ((notification_idle_possible w m key).reachable reachable).trans
  rintro middle ⟨⟨system, clock, idle⟩, reachable⟩
  have own := (QueuedSystem.queue_invariant_reachable reachable).notificationJobs
  rw [← system] at quiet found live ready
  have decided : passDecision middle.system.db (w.candidate now middle.system.db key row) =
      .dispatch := by
    have read : (w.candidate now middle.system.db key row).channelLive = true := live
    by_cases recovery : row.eventType = .recovery
    · have event : (w.candidate now middle.system.db key row).eventType = .recovery := recovery
      have prior : priorDownStatus middle.system.db
          (w.candidate now middle.system.db key row).key = some .sent := ready recovery
      simp [passDecision, read, event, prior, recoveryPrerequisiteStatus]
    · have event : (w.candidate now middle.system.db key row).eventType ≠ .recovery := recovery
      simp [passDecision, read, event]
  have past : middle.clock ≤ now := by
    rw [clock]
    exact Nat.le_max_left m.clock row.turn
  apply ((enqueued_possible quiet own idle found available past decided).reachable reachable).weaken
  rintro last ⟨enqueued, reachable⟩
  have written : RowWritten middle.system.db last.system.db key (w.enqueues now key row) := by
    apply row_written_of_update found (w.enqueues now key)
    · rw [enqueued.db]
    · rw [enqueued.db]
    · rw [enqueued.db]
      exact ⟨rfl, rfl, rfl, rfl⟩
  rw [system] at written found
  refine ⟨reachable, enqueued.quiescent, enqueued.clock, enqueued.job, written, ?_⟩
  intro recovery
  have different : key.down ≠ key := by
    intro same
    have ownFits := fits key row found
    rw [← same] at ownFits
    exact down_not_recovery ownFits recovery
  rw [priorDownStatus, priorDownStatus, written.others _ different]

theorem ends_exhausted {n : Moment} (handed : Handed w s now key row n)
    (live : channelLive s.db key.channelId = true)
    (ready : row.eventType = .recovery → priorDownStatus s.db key = some .sent)
    (spent : row.maxAttempts ≤ row.attemptCount) :
    Possible w n fun last => EndsRow key n.system last.system := by
  let enqueued := w.enqueues now key row
  have found : n.system.db.outbox.get key = some enqueued := handed.written.own
  have live : (w.claim now n.system.db key).channelLive = true := by
    change channelLive n.system.db key.channelId = true
    rw [channelLive, handed.written.channels]
    exact live
  have ready : enqueued.eventType = .recovery →
      priorDownStatus n.system.db (w.claim now n.system.db key).key = some .sent :=
    fun recovery => (handed.prior recovery).trans (ready recovery)
  have exhausted : claimOutcome (w.claim now n.system.db key) enqueued _ = .exhausted :=
    (claim_enqueued live rfl ready).trans (if_pos spent)
  have written : ∃ after, claimCommit n.system.db (w.claim now n.system.db key) =
        some (after, none) ∧
      after.outbox = if enqueued.eventType = .down then
          cancelUndeliveredRecovery
            (n.system.db.outbox.updateKey key fun other => other.exhausted now) key now
        else n.system.db.outbox.updateKey key fun other => other.exhausted now := by
    have stored : n.system.db.outbox.get (w.claim now n.system.db key).key = some enqueued := found
    simp only [claimCommit, stored, exhausted, Option.bind_eq_bind, Option.bind_some]
    exact ⟨_, rfl, rfl⟩
  obtain ⟨after, committed, outbox⟩ := written
  have past : n.clock ≤ now := Nat.le_of_eq handed.clock
  apply (claim_possible handed.quiescent handed.job found past committed).weaken
  rintro last ⟨quiet, db, -, -⟩
  apply ends_of_write (fun other => other.exhausted now) (enqueued.eventType = .down) now
    found _ (fun _ => rfl) quiet
  · rw [db]
    exact claim_commit_same_ledger committed
  · rw [db, outbox]
    by_cases down : enqueued.eventType = .down <;> simp [down]

structure InDelivery (w : Workers) (s : System) (now : Time) (key : OutboxKey) (row : OutboxRow)
    (last : Moment) : Prop where
  quiescent : last.system.quiescent
  clock : last.clock ≤ now
  written : RowWritten s.db last.system.db key
    (row.claimedFor (w.claim now s.db key))
  remembered : last.system.attempts.get (key, row.attemptCount + 1) =
    some ⟨key, row.claimedFor (w.claim now s.db key), row.attemptCount + 1⟩

/-- A worker that takes the job is granted the claim. -/
theorem granted_possible {n : Moment} (handed : Handed w s now key row n)
    (live : channelLive s.db key.channelId = true)
    (ready : row.eventType = .recovery → priorDownStatus s.db key = some .sent)
    (left : row.attemptCount < row.maxAttempts) :
    Possible w n (InDelivery w n.system now key (w.enqueues now key row)) := by
  let enqueued := w.enqueues now key row
  let tx : ClaimTx := w.claim now n.system.db key
  have found : n.system.db.outbox.get key = some enqueued := handed.written.own
  have reached := QueuedSystem.system_reachable handed.reachable
  obtain ⟨attempts, -⟩ := (attempt_invariant_reachable reached).rows key enqueued found
  have live : tx.channelLive = true := by
    change channelLive n.system.db key.channelId = true
    rw [channelLive, handed.written.channels]
    exact live
  have ready : enqueued.eventType = .recovery →
      priorDownStatus n.system.db tx.key = some .sent :=
    fun recovery => (handed.prior recovery).trans (ready recovery)
  have granted : claimOutcome tx enqueued _ = .granted :=
    (claim_enqueued live rfl ready).trans (if_neg (Nat.not_le.2 left))
  let attempt := (key, enqueued.attemptCount + 1)
  have fresh : (abandonAttempts n.system.db.deliveries key now).get attempt = none := by
    have absent : n.system.db.deliveries.get attempt = none := by
      cases stored : n.system.db.deliveries.get attempt with
      | none => rfl
      | some delivery =>
          have numbered := (attempts.numbered (enqueued.attemptCount + 1)).1 (by rw [stored]; rfl)
          omega
    exact (abandon_attempts_subsided n.system.db.deliveries key now).absent _ absent
  have inserted := (Table.insert_new_eq_some _ _ _ (newDeliveryRow enqueued now)).2 ⟨fresh, rfl⟩
  have written : claimCommit n.system.db tx = some ({ n.system.db with
      deliveries := (abandonAttempts n.system.db.deliveries key now).put attempt
        (newDeliveryRow enqueued now)
      outbox := n.system.db.outbox.updateKey key fun row => row.claimedFor tx },
      some ⟨key, enqueued.claimedFor tx, enqueued.attemptCount + 1⟩) := by
    have stored : n.system.db.outbox.get tx.key = some enqueued := found
    simp only [claimCommit, stored, granted, Option.bind_eq_bind, Option.bind_some]
    change Option.bind ((abandonAttempts n.system.db.deliveries key now).insertNew attempt
      (newDeliveryRow enqueued now)) _ = _
    rw [inserted]
    rfl
  have past : n.clock ≤ now := Nat.le_of_eq handed.clock
  apply (claim_possible handed.quiescent handed.job found past written).weaken
  rintro last ⟨quiet, db, clock, remembered⟩
  refine ⟨quiet, clock, ?_, remembered _ rfl⟩
  apply row_written_of_update found (fun row => row.claimedFor tx)
  · rw [db]
  · rw [db]
  · rw [db]
    exact ⟨rfl, rfl, rfl, rfl⟩

/-- A claimed row whose notification the provider refuses for good. -/
theorem ends_claimed {n : Moment} (claimed : InDelivery w s now key row n) :
    Possible w n fun last => EndsRow key n.system last.system := by
  let tx := w.claim now s.db key
  let notification : ClaimedNotification := ⟨key, row.claimedFor tx, row.attemptCount + 1⟩
  let error : NotificationProviderError := ⟨false, false, none, ""⟩
  have current : n.system.db.outbox.get key = some (row.claimedFor tx) := claimed.written.own
  have shown : (row.claimedFor tx).shows notification = true := by
    simp [notification, OutboxRow.shows, OutboxRow.claimedFor]
  have rejected : PossibleAt w now n.system _ :=
    mark_failed_alone claimed.quiescent claimed.remembered error 0
  apply (rejected.lift claimed.clock).weaken
  rintro last ⟨⟨quiet, db⟩, -, -⟩
  apply ends_of_write (fun row => row.failedWith now "") (failsDown n.system.db notification error)
    now current _ (fun _ => rfl) quiet
  · rw [db]
    exact mark_failed_same_ledger _ _ _ _ _
  · have written : n.system.db.outbox.updateWhere
        (fun other row => other = key && row.shows notification)
        (fun _ row => row.failedWith now "") =
          n.system.db.outbox.updateKey key fun row => row.failedWith now "" := by
      apply Table.update_where_key
      intro other stored
      rw [current, Option.some.injEq] at stored
      rw [← stored]
      exact shown
    rw [db]
    simp only [markFailed]
    change (if _ then cancelUndeliveredRecovery (n.system.db.outbox.updateWhere
        (fun other row => other = key && row.shows notification)
        (fun _ row => row.failedWith now "")) key now else n.system.db.outbox.updateWhere
        (fun other row => other = key && row.shows notification)
        (fun _ row => row.failedWith now "")) = _
    rw [written]

/-- A row whose turn it is ends with a claim, or with the attempt that it grants. -/
theorem ends_in_turn (reachable : m.queued.Reachable) (quiet : m.system.quiescent)
    (found : m.system.db.outbox.get key = some row) (waiting : row.status.isTerminal = false)
    (live : channelLive m.system.db key.channelId = true)
    (ready : row.eventType = .recovery → priorDownStatus m.system.db key = some .sent) :
    Possible w m fun last => EndsRow key m.system last.system := by
  apply (handed_possible reachable quiet found waiting live ready).trans
  intro middle handed
  have enqueued := handed.written.advance found waiting
  by_cases left : row.attemptCount < row.maxAttempts
  · apply (granted_possible handed live ready left).trans
    intro sending claimed
    have claim := claimed.written.advance handed.written.own rfl
    apply (ends_claimed claimed).weaken
    intro last ends
    exact ⟨ends.quiescent, ends.ended, enqueued.trans (claim.trans ends.advance)⟩
  · apply (ends_exhausted handed live ready (Nat.not_lt.1 left)).weaken
    intro last ends
    exact ⟨ends.quiescent, ends.ended, enqueued.trans ends.advance⟩

theorem prerequisite_cases (down : Option NotificationOutboxStatus) :
    down = some .sent ∨ recoveryPrerequisiteStatus down = .cancel ∨
      ∃ status, down = some status ∧ status.isTerminal = false := by
  cases down with
  | none => exact Or.inr (Or.inl rfl)
  | some status =>
      cases status with
      | sent => exact Or.inl rfl
      | failed => exact Or.inr (Or.inl rfl)
      | canceled => exact Or.inr (Or.inl rfl)
      | pending => exact Or.inr (Or.inr ⟨_, rfl, rfl⟩)
      | enqueued => exact Or.inr (Or.inr ⟨_, rfl, rfl⟩)
      | processing => exact Or.inr (Or.inr ⟨_, rfl, rfl⟩)
      | retry => exact Or.inr (Or.inr ⟨_, rfl, rfl⟩)

theorem ends_settled (reachable : m.queued.Reachable) (quiet : m.system.quiescent)
    (found : m.system.db.outbox.get key = some row) (waiting : row.status.isTerminal = false)
    (settled : row.eventType = .recovery → ∀ status, priorDownStatus m.system.db key = some status →
      status.isTerminal = true) : Possible w m fun last => EndsRow key m.system last.system := by
  have reached := QueuedSystem.system_reachable reachable
  obtain ⟨-, held⟩ := (attempt_invariant_reachable reached).rows key row found
  cases live : channelLive m.system.db key.channelId with
  | false => exact ends_dead quiet found waiting held live
  | true =>
      by_cases recovery : row.eventType = .recovery
      · rcases prerequisite_cases (priorDownStatus m.system.db key) with
          sent | undelivered | open_
        · exact ends_in_turn reachable quiet found waiting live fun _ => sent
        · exact ends_undelivered quiet found waiting held live recovery undelivered
        · obtain ⟨status, down, unfinished⟩ := open_
          rw [settled recovery status down] at unfinished
          cases unfinished
      · exact ends_in_turn reachable quiet found waiting live fun other => absurd other recovery

/-- Every row can be brought to its end, a recovery after its DOWN row. -/
theorem ends_possible (reachable : m.queued.Reachable) (quiet : m.system.quiescent)
    (found : m.system.db.outbox.get key = some row) (waiting : row.status.isTerminal = false) :
    Possible w m fun last => EndsRow key m.system last.system := by
  have fits := (outbox_invariant_reachable (QueuedSystem.system_reachable reachable)).fits
  by_cases settled : row.eventType = .recovery → ∀ status,
      priorDownStatus m.system.db key = some status → status.isTerminal = true
  · exact ends_settled reachable quiet found waiting settled
  · push Not at settled
    obtain ⟨recovery, status, prior, unfinished⟩ := settled
    rw [priorDownStatus, Option.map_eq_some_iff] at prior
    obtain ⟨down, stored, rfl⟩ := prior
    have downFirst : Possible w m fun last => EndsRow key.down m.system last.system := by
      apply ends_settled reachable quiet stored (Bool.eq_false_iff.2 unfinished)
      intro other
      exact absurd other (down_not_recovery (fits _ down stored))
    apply (downFirst.reachable reachable).trans
    intro middle first
    obtain ⟨ends, reachable⟩ := first
    obtain ⟨next, kept⟩ := ends.advance.kept key row found
    cases terminal : next.status.isTerminal with
    | true => exact CanReach.here ⟨ends.quiescent, ⟨next, kept, terminal⟩, ends.advance⟩
    | false =>
        have second : Possible w middle fun last => EndsRow key middle.system last.system := by
          apply ends_settled reachable ends.quiescent kept terminal
          intro _ status prior
          obtain ⟨downNext, downStored, downEnded⟩ := ends.ended
          rw [priorDownStatus, downStored, Option.map_some, Option.some.injEq] at prior
          rw [← prior]
          exact downEnded
        apply second.weaken
        intro last later
        exact ⟨later.quiescent, later.ended, ends.advance.trans later.advance⟩

theorem fewer_waiting {db after : Database} (advance : RowsAdvance db after)
    (found : db.outbox.get key = some row) (waiting : row.status.isTerminal = false)
    (ended : Ended after key) : (waitingRows after).length < (waitingRows db).length := by
  apply Table.select_shorter found
  · rw [waiting]
    rfl
  · intro next stored
    obtain ⟨final, storedFinal, terminal⟩ := ended
    rw [storedFinal, Option.some.injEq] at stored
    rw [← stored, terminal]
    rfl
  · intro other next stored open_
    have unfinished : next.status.isTerminal = false := by simpa using open_
    obtain ⟨earlier, present, waited⟩ := advance.waiting other next stored unfinished
    refine ⟨earlier, present, ?_⟩
    rw [waited]
    rfl

theorem outbox_drains (reachable : m.queued.Reachable) (quiet : m.system.quiescent) :
    Possible w m fun last => (last.queued.Reachable ∧ last.system.quiescent ∧
        SameLedger m.system.db last.system.db) ∧
      ∀ key row, last.system.db.outbox.get key = some row → row.status.isTerminal = true := by
  apply CanReach.rounds (fun last => (waitingRows last.system.db).length)
  · intro middle holds unfinished
    obtain ⟨reachable, quiet, ledger⟩ := holds
    push Not at unfinished
    obtain ⟨key, row, found, open_⟩ := unfinished
    have waiting : row.status.isTerminal = false := Bool.eq_false_iff.2 open_
    apply ((ends_possible reachable quiet found waiting).reachable reachable).weaken
    intro last reached
    obtain ⟨ends, reachable⟩ := reached
    refine ⟨⟨reachable, ends.quiescent, ?_⟩, ?_⟩
    · exact ledger.trans ends.advance.ledger
    · exact fewer_waiting ends.advance found waiting ends.ended
  · exact ⟨reachable, quiet, rfl, rfl, rfl, rfl⟩

theorem late_recovery_absent {db : Database} {claimed : ClaimedNotification}
    {databaseTime : Time} {recovery : OutboxRow}
    (creates : (ensureRecoveryAfterLateDownSuccess db claimed databaseTime).1 =
      .create recovery) : db.outbox.get claimed.key.followUp = none := by
  cases stored : db.outbox.get claimed.key.followUp with
  | none => rfl
  | some existing =>
      unfold ensureRecoveryAfterLateDownSuccess at creates
      split at creates
      · cases creates
      · split at creates
        · cases creates
        · split at creates
          · cases creates
          · split at creates
            · cases creates
            · split at creates
              · cases creates
              · split at creates
                · cases creates
                · rw [stored] at creates
                  dsimp only at creates
                  split at creates <;> cases creates

structure DeliversRow (key : OutboxKey) (s last : System) : Prop where
  quiescent : last.quiescent
  delivered : Delivered last.db key
  others : ∀ other row, other ≠ key → s.db.outbox.get other = some row →
    row.status.isTerminal = false → last.db.outbox.get other = some row
  channels : last.db.channels = s.db.channels

/-- A late recovery is written over no row that still waits, and not over the confirmed one. -/
theorem recovery_write_keeps {db : Database} {claimed : ClaimedNotification} {now : Time}
    {sent : Table OutboxKey OutboxRow}
    (sequence : claimed.row.eventType = .down →
      claimed.key.sequence = notificationSequence .down)
    (others : ∀ key, key ≠ claimed.key → sent.get key = db.outbox.get key) :
    ∃ outbox, (markSentBegin db claimed none now now).recoveryWrite sent = some outbox ∧
      outbox.get claimed.key = sent.get claimed.key ∧
      ∀ key row, key ≠ claimed.key → db.outbox.get key = some row →
        row.status.isTerminal = false → outbox.get key = some row := by
  let tx := markSentBegin db claimed none now now
  have apart : tx.recovery ≠ .none → claimed.key.followUp ≠ claimed.key := by
    intro recovers
    apply follow_up_ne
    apply sequence
    rcases ensure_recovery_cases db claimed now with none | late
    · exact absurd none recovers
    · exact late.1
  have kept : ∀ key row, key ≠ claimed.key → db.outbox.get key = some row →
      sent.get key = some row :=
    fun key row different stored => (others key different).trans stored
  cases recovery : tx.recovery with
  | none =>
      refine ⟨sent, by rw [MarkSentTx.recoveryWrite, recovery], rfl, ?_⟩
      intro key row different stored _
      exact kept key row different stored
  | reactivate =>
      have different := apart (by rw [recovery]; simp)
      have written : tx.recoveryWrite sent = some (sent.updateKey claimed.key.followUp fun row =>
          row.reactivated tx.now tx.claimed.row.encryptedConfigSnapshot) := by
        rw [MarkSentTx.recoveryWrite, recovery]
        rfl
      refine ⟨_, written, Table.get_update_key_other _ _ different.symm, ?_⟩
      intro key row elsewhere stored waiting
      rw [Table.get_update_key_other]
      · exact kept key row elsewhere stored
      · -- the row that comes back was canceled, so it does not wait
        intro same
        rcases ensure_recovery_cases db claimed now with none | ⟨-, revives | creates⟩
        · rw [show tx.recovery = .none from none] at recovery
          cases recovery
        · obtain ⟨-, existing, present, -, undelivered⟩ := revives
          rw [← same, stored, Option.some.injEq] at present
          rw [← present, OutboxRow.canceledUndelivered, canceledUndelivered,
            Bool.and_eq_true, decide_eq_true_eq] at undelivered
          rw [undelivered.1] at waiting
          cases waiting
        · obtain ⟨incident, resolvedAt, monitor, created⟩ := creates
          rw [show tx.recovery = _ from created] at recovery
          cases recovery
  | create late =>
      have different := apart (by rw [recovery]; simp)
      have absent : sent.get claimed.key.followUp = none :=
        (others _ different).trans (late_recovery_absent recovery)
      have written : tx.recoveryWrite sent = some (sent.put claimed.key.followUp late) := by
        rw [MarkSentTx.recoveryWrite, recovery]
        exact (Table.insert_new_eq_some _ _ _ _).2 ⟨absent, rfl⟩
      refine ⟨_, written, ?_, ?_⟩
      · rw [Table.get_put, if_neg different.symm]
      · intro key row elsewhere stored _
        have present := kept key row elsewhere stored
        rw [Table.get_put, if_neg]
        · exact present
        · intro same
          rw [same, absent] at present
          cases present

theorem delivers_claimed (w : Workers) (now : Time) {claimed : ClaimedNotification}
    {attempt : OutboxKey × Nat} (quiet : s.quiescent)
    (remembered : s.attempts.get attempt = some claimed)
    (found : s.db.outbox.get claimed.key = some row) (notCanceled : row.status ≠ .canceled)
    (sequence : claimed.row.eventType = .down →
      claimed.key.sequence = notificationSequence .down) :
    PossibleAt w now s (DeliversRow claimed.key s) := by
  let tx := markSentBegin s.db claimed none now now
  let sent := s.db.outbox.updateKey claimed.key tx.rowWrite
  have stored : sent.get claimed.key = some (tx.rowWrite row) := by
    rw [Table.get_update_key_self, found]
    rfl
  have elsewhere : ∀ key, key ≠ claimed.key → sent.get key = s.db.outbox.get key :=
    fun key different => Table.get_update_key_other _ tx.rowWrite different
  obtain ⟨outbox, written, own, others⟩ : ∃ outbox, tx.recoveryWrite sent = some outbox ∧ _ :=
    recovery_write_keeps sequence elsewhere
  have committed : ∃ after, markSentCommit s.db tx = some after ∧ after.outbox = outbox ∧
      after.channels = s.db.channels := by
    have start : s.db.outbox.get tx.claimed.key = some row := found
    simp only [markSentCommit, start, Option.bind_eq_bind, Option.bind_some, if_neg notCanceled]
    change ∃ after, (tx.recoveryWrite sent).bind _ = some after ∧ _
    rw [written]
    exact ⟨_, rfl, rfl, rfl⟩
  obtain ⟨after, commit, rows, channels⟩ := committed
  apply (mark_sent_alone quiet remembered none commit).weaken
  intro last reached
  obtain ⟨still, same⟩ := reached
  refine ⟨still, ⟨tx.rowWrite row, ?_, sent_write_status tx row⟩, ?_, ?_⟩
  · rw [same, rows]
    exact own.trans stored
  · intro other before different earlier waiting
    rw [same, rows]
    exact others other before different earlier waiting
  · rw [same, channels]

theorem delivers_in_turn (reachable : m.queued.Reachable) (quiet : m.system.quiescent)
    (found : m.system.db.outbox.get key = some row) (waiting : row.status.isTerminal = false)
    (live : channelLive m.system.db key.channelId = true)
    (ready : row.eventType = .recovery → priorDownStatus m.system.db key = some .sent)
    (left : row.attemptCount < row.maxAttempts) :
    Possible w m fun last => DeliversRow key m.system last.system := by
  have reached := QueuedSystem.system_reachable reachable
  have fits := (outbox_invariant_reachable reached).fits key row found
  apply (handed_possible reachable quiet found waiting live ready).trans
  intro middle handed
  apply (granted_possible handed live ready left).trans
  intro sending claimed
  have written := handed.written.trans claimed.written
  have confirmed : PossibleAt w (max m.clock row.turn) sending.system
      (DeliversRow key sending.system) := by
    apply delivers_claimed w _ claimed.quiescent claimed.remembered claimed.written.own
    · intro canceled
      cases canceled
    · intro down
      exact sequence_of_down fits down
  apply (confirmed.lift claimed.clock).weaken
  rintro last ⟨delivers, -, -⟩
  refine ⟨delivers.quiescent, delivers.delivered, ?_, delivers.channels.trans written.channels⟩
  intro other before different earlier open_
  apply delivers.others other before different _ open_
  rw [written.others other different]
  exact earlier

/-- The row can still get through: its channel is live, it has attempts left, and a recovery
comes after a DOWN row that is or can be delivered. -/
structure Deliverable (db : Database) (key : OutboxKey) (row : OutboxRow) : Prop where
  live : channelLive db key.channelId = true
  left : row.attemptCount < row.maxAttempts
  afterDown : row.eventType = .recovery → ∃ down, db.outbox.get key.down = some down ∧
    (down.status = .sent ∨
      down.status.isTerminal = false ∧ down.attemptCount < down.maxAttempts)

theorem delivers_possible (reachable : m.queued.Reachable) (quiet : m.system.quiescent)
    (found : m.system.db.outbox.get key = some row) (waiting : row.status.isTerminal = false)
    (deliverable : Deliverable m.system.db key row) :
    Possible w m fun last => last.system.quiescent ∧ Delivered last.system.db key := by
  obtain ⟨live, left, afterDown⟩ := deliverable
  have directly : (row.eventType = .recovery → priorDownStatus m.system.db key = some .sent) →
      Possible w m fun last => last.system.quiescent ∧ Delivered last.system.db key := by
    intro ready
    apply (delivers_in_turn reachable quiet found waiting live ready left).weaken
    intro last delivers
    exact ⟨delivers.quiescent, delivers.delivered⟩
  by_cases recovery : row.eventType = .recovery
  · obtain ⟨down, stored, sent | open_⟩ := afterDown recovery
    · apply directly
      intro _
      rw [priorDownStatus, stored, Option.map_some, sent]
    · -- the DOWN row is delivered first and leaves the recovery where it is
      obtain ⟨unfinished, downLeft⟩ := open_
      have fits := (outbox_invariant_reachable (QueuedSystem.system_reachable reachable)).fits
      have notRecovery := down_not_recovery (fits _ down stored)
      have downFirst : Possible w m fun last => DeliversRow key.down m.system last.system :=
        delivers_in_turn reachable quiet stored unfinished live
          (fun other => absurd other notRecovery) downLeft
      apply (downFirst.reachable reachable).trans
      intro middle first
      obtain ⟨delivers, reachable⟩ := first
      have different : key ≠ key.down := by
        intro same
        rw [← same, found, Option.some.injEq] at stored
        rw [← stored] at notRecovery
        exact notRecovery recovery
      have kept := delivers.others key row different found waiting
      have stillLive : channelLive middle.system.db key.channelId = true := by
        unfold channelLive at live ⊢
        rw [delivers.channels]
        exact live
      have prior : priorDownStatus middle.system.db key = some .sent := by
        obtain ⟨next, sent, status⟩ := delivers.delivered
        rw [priorDownStatus, sent, Option.map_some, status]
      apply (delivers_in_turn reachable delivers.quiescent kept waiting stillLive (fun _ => prior)
        left).weaken
      intro last second
      exact ⟨second.quiescent, second.delivered⟩
  · exact directly fun other => absurd other recovery

/-- The connections of all transactions can be lost; the queues stay as they are. -/
theorem settled_moment (w : Workers) (reachable : m.queued.Reachable) :
    Possible w m fun last => last.system.quiescent ∧ last.system.db = m.system.db ∧
      last.queued.Reachable ∧ last.clock ≤ m.clock := by
  have aborts : PossibleAt w m.clock m.system _ := aborts_possible w m.clock m.system
  apply ((aborts.lift (Nat.le_refl _)).reachable reachable).weaken
  rintro last ⟨⟨⟨quiet, same⟩, -, clock⟩, reached⟩
  exact ⟨quiet, same, reached, clock⟩

/-- Whatever has happened, dispatchers and workers can bring a row that is not terminal to its
end, and deliver one that can still get through. -/
theorem notifications_never_stuck (w : Workers) (reachable : m.queued.Reachable)
    (found : m.system.db.outbox.get key = some row) (waiting : row.status.isTerminal = false) :
    Possible w m (fun last => last.system.quiescent ∧ Ended last.system.db key) ∧
      (Deliverable m.system.db key row →
        Possible w m fun last => last.system.quiescent ∧ Delivered last.system.db key) := by
  have settled := settled_moment w reachable
  constructor
  · apply settled.trans
    rintro middle ⟨quiet, same, reachable, -⟩
    rw [← same] at found
    apply (ends_possible reachable quiet found waiting).weaken
    intro last ends
    exact ⟨ends.quiescent, ends.ended⟩
  · intro deliverable
    apply settled.trans
    rintro middle ⟨quiet, same, reachable, -⟩
    rw [← same] at found deliverable
    exact delivers_possible reachable quiet found waiting deliverable

end Ends

def sampleWorkers : Workers where
  processor := Script.processorConfig
  notificationLeaseMs := 60000
  outboxOwner := 4
  schedulerOwner := 3
  schedulerLeaseMs := 300000

/-- A recovery that waits for a DOWN row whose worker has disappeared. -/
def waitingRecovery : List QueueAction :=
  QueuedScript.core Script.setUp ++ QueuedScript.failingCheck 1 1000 ++
    QueuedScript.claimDown (Script.downKey 1) 1100 ++ QueuedScript.recoveringCheck 2 61000

theorem notifications_never_stuck_sample :
    ∃ q : QueuedSystem, ∃ row,
      q.system.db.outbox.get (Script.downKey 1).followUp = some row ∧
      row.eventType = .recovery ∧ row.status.isTerminal = false ∧
      priorDownStatus q.system.db (Script.downKey 1).followUp = some .processing ∧
      (q.notificationJobs.get (Script.downKey 1)).any (fun job => job.state = .active) = true ∧
      Possible sampleWorkers ⟨q, 61010⟩ fun last =>
        last.system.quiescent ∧ Delivered last.system.db (Script.downKey 1).followUp := by
  obtain ⟨q, reachable, tested⟩ := queued_reachable_of_script waitingRecovery
    (fun q => channelLive q.system.db 1 &&
      (q.notificationJobs.get (Script.downKey 1)).any (fun job => job.state = .active) &&
      (q.system.db.outbox.get (Script.downKey 1).followUp).any fun row =>
        row.eventType = .recovery && !row.status.isTerminal &&
          row.attemptCount < row.maxAttempts &&
          (q.system.db.outbox.get (Script.downKey 1).followUp.down).any fun down =>
            down.status = .processing && down.attemptCount < down.maxAttempts)
    (by decide +kernel)
  rw [Bool.and_eq_true, Bool.and_eq_true] at tested
  obtain ⟨⟨live, held⟩, tested⟩ := tested
  obtain ⟨row, found, tested⟩ := (Option.any_eq_true _ _).1 tested
  simp only [Bool.and_eq_true, Option.any_eq_true, decide_eq_true_eq, Bool.not_eq_true'] at tested
  obtain ⟨⟨⟨recovery, waiting⟩, left⟩, down, stored, processing, downLeft⟩ := tested
  have unfinished : down.status.isTerminal = false := by
    rw [processing]
    rfl
  have deliverable : Deliverable q.system.db (Script.downKey 1).followUp row :=
    ⟨live, left, fun _ => ⟨down, stored, Or.inr ⟨unfinished, downLeft⟩⟩⟩
  have prior : priorDownStatus q.system.db (Script.downKey 1).followUp = some .processing := by
    rw [priorDownStatus, stored, Option.map_some, processing]
  exact ⟨q, row, found, recovery, waiting, prior, held,
    (notifications_never_stuck sampleWorkers (m := ⟨q, 61010⟩) reachable found waiting).2
      deliverable⟩

end LinkAlive
