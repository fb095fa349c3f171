import LinkAlive.Ledger.History

/-!
# What a step does to an outbox row

The inversion lemma of `step` for one row of `notification_outbox`: every write site of
the four programs is a constructor, with the guard under which it writes. A row is
never deleted, and a row that another transaction has locked is never written.
-/

namespace LinkAlive

open Relational

set_option autoImplicit false

def OutboxRow.Fits (row : OutboxRow) (key : OutboxKey) : Prop :=
  (row.eventType = .down ∨ row.eventType = .recovery ∨ row.eventType = .resolvedSummary) ∧
    key.sequence = notificationSequence row.eventType

/-- The two statements of `retireRows` on a row that they concern. -/
def OutboxRow.retiredByRuntime (row : OutboxRow) (now : Time) : OutboxRow :=
  (if row.status.isTerminal then row else row.canceledByRuntime now).retired

inductive OutboxMove (s : System) (key : OutboxKey) (row : OutboxRow) :
    Action → OutboxRow → Prop
  | kept (a : Action) : OutboxMove s key row a row
  | dispatched (d : DispatcherId) (state : DispatchState) (decision : DispatchDecision) :
      s.dispatchers.get d = some state → key = state.key → state.decision = some decision →
      row.availableForDispatch state.now = true →
        OutboxMove s key row (.dispatchCandidate d) (row.dispatched state decision)
  | finished (d : DispatcherId) (state : DispatchState) (accepted : Bool) :
      s.dispatchers.get d = some state → key = state.key → row.claimHeldBy state.owner = true →
        OutboxMove s key row (.finishDispatch d accepted)
          (if accepted then row.enqueuedBy state else row.releasedBy state)
  | claimDisabled (t : TxId) (tx : ClaimTx) : s.txs.get t = some (.claim tx) → key = tx.key →
      OutboxMove s key row (.commit t) (row.canceledByClaim tx.now)
  | claimExhausted (t : TxId) (tx : ClaimTx) : s.txs.get t = some (.claim tx) → key = tx.key →
      claimOutcome tx row (priorDownStatus s.db tx.key) = .exhausted →
        OutboxMove s key row (.commit t) (row.exhausted tx.now)
  | claimGranted (t : TxId) (tx : ClaimTx) : s.txs.get t = some (.claim tx) → key = tx.key →
      claimOutcome tx row (priorDownStatus s.db tx.key) = .granted →
        OutboxMove s key row (.commit t) (row.claimedFor tx)
  | undeliveredByClaim (t : TxId) (tx : ClaimTx) (down : OutboxRow) :
      s.txs.get t = some (.claim tx) → key = tx.key.followUp →
      s.db.outbox.get tx.key = some down →
      claimOutcome tx down (priorDownStatus s.db tx.key) = .exhausted →
      down.eventType = .down → row.eventType = .recovery → row.status.isWaiting = true →
        OutboxMove s key row (.commit t) (row.canceledAsUndelivered tx.now)
  | undeliveredByFailure (attempt : OutboxKey × Nat) (claimed : ClaimedNotification)
      (error : NotificationProviderError) (now : Time) (retryDelayMs : Nat) :
      s.attempts.get attempt = some claimed → key = claimed.key.followUp →
      failsDown s.db claimed error = true → row.eventType = .recovery →
      row.status.isWaiting = true →
        OutboxMove s key row (.markFailed attempt error now retryDelayMs)
          (row.canceledAsUndelivered now)
  | reported (attempt : OutboxKey × Nat) (claimed : ClaimedNotification)
      (error : NotificationProviderError) (now : Time) (retryDelayMs : Nat) :
      s.attempts.get attempt = some claimed → key = claimed.key → row.shows claimed = true →
        OutboxMove s key row (.markFailed attempt error now retryDelayMs)
          (if mayRetry claimed error then
            row.awaitsRetry (now + max (error.retryAfterMs.getD 0) retryDelayMs) error.safeMessage
          else row.failedWith now error.safeMessage)
  | sent (t : TxId) (tx : MarkSentTx) : s.txs.get t = some (.markSent tx) →
      key = tx.claimed.key → row.status ≠ .canceled →
        OutboxMove s key row (.commit t) (tx.rowWrite row)
  | reactivated (t : TxId) (tx : MarkSentTx) (down : OutboxRow) :
      s.txs.get t = some (.markSent tx) → tx.recovery = .reactivate →
      key = tx.claimed.key.followUp → s.db.outbox.get tx.claimed.key = some down →
      down.status ≠ .canceled →
        OutboxMove s key row (.commit t)
          (row.reactivated tx.now tx.claimed.row.encryptedConfigSnapshot)
  | retiredByMonitor (t : TxId) (tx : MonitorTx) : s.txs.get t = some (.monitor tx) →
      tx.change.cancels.isSome = true → row.monitorId = tx.id →
        OutboxMove s key row (.commit t) (row.retiredByRuntime tx.now)
  | retiredByChannel (t : TxId) (tx : ChannelTx) : s.txs.get t = some (.channel tx) →
      tx.change.retires.isSome = true → key.channelId = tx.id →
        OutboxMove s key row (.commit t) (row.retiredByRuntime tx.now)
  | resolved (t : TxId) (tx : PersistTx) : s.txs.get t = some (.persist tx) → tx.stage = .done →
      OutboxMove s key row (.commit t) (tx.rowWrite key row)

def Unlocked (s after : System) (key : OutboxKey) : Prop :=
  ∀ u ux, s.txs.get u = some ux → (after.txs.get u).isSome = true →
    ux.locksRow key = false

/-- What the moves need to know about the rows. -/
structure OutboxSequenced (s : System) : Prop where
  rows : ∀ key row, s.db.outbox.get key = some row → row.Fits key
  late : ∀ t tx, s.txs.get t = some (.markSent tx) → tx.recovery ≠ .none →
    tx.claimed.key.sequence = notificationSequence .down
  exclusive : ∀ key, Exclusive (Transaction.locksRow key) s

theorem follow_up_ne {key : OutboxKey} (down : key.sequence = notificationSequence .down) :
    key.followUp ≠ key := by
  intro same
  have sequence := congrArg OutboxKey.sequence same
  rw [down] at sequence
  cases sequence

theorem follow_up_of_recovery {key down : OutboxKey} {row : OutboxRow} (fits : row.Fits key)
    (recovery : row.eventType = .recovery) (incident : key.incidentId = down.incidentId)
    (channel : key.channelId = down.channelId) : key = down.followUp := by
  have sequence := fits.2
  rw [recovery] at sequence
  cases key
  simp only at incident channel sequence
  subst incident channel sequence
  rfl

section Rows

variable {key : OutboxKey} {row : OutboxRow}

/-- The rows of `retireRows`. -/
theorem retire_rows_get (outbox : Outbox) (concerns : OutboxKey → OutboxRow → Bool) (now : Time)
    (stable : ∀ key row, concerns key (row.canceledByRuntime now) = concerns key row)
    (found : outbox.get key = some row) :
    (retireRows outbox concerns now).get key =
      some (if concerns key row then row.retiredByRuntime now else row) := by
  simp only [retireRows, Table.get_update_where, found, Option.map_some, Option.some_inj]
  cases concerned : concerns key row with
  | false => simp [concerned]
  | true =>
      cases terminal : row.status.isTerminal with
      | true => simp [concerned, terminal, OutboxRow.retiredByRuntime]
      | false =>
          have canceled : (row.canceledByRuntime now).status.isTerminal = true := rfl
          simp [concerned, terminal, canceled, OutboxRow.retiredByRuntime, stable]

theorem cancel_undelivered_get (outbox : Outbox) (down : OutboxKey) (now : Time)
    (found : outbox.get key = some row) (fits : row.Fits key) :
    (cancelUndeliveredRecovery outbox down now).get key =
      some (if key = down.followUp && row.eventType = .recovery && row.status.isWaiting then
        row.canceledAsUndelivered now else row) := by
  simp only [cancelUndeliveredRecovery, Table.get_update_where, found, Option.map_some,
    Option.some_inj]
  by_cases selected : (key.incidentId = down.incidentId && key.channelId = down.channelId &&
      row.eventType = .recovery && row.status.isWaiting) = true
  · rw [if_pos selected]
    simp only [Bool.and_eq_true, decide_eq_true_eq] at selected
    have same := follow_up_of_recovery fits selected.1.2 selected.1.1.1 selected.1.1.2
    rw [if_pos (by simp [same, selected.1.2, selected.2])]
  · rw [if_neg selected, if_neg]
    intro other
    apply selected
    simp only [Bool.and_eq_true, decide_eq_true_eq] at other ⊢
    rw [other.1.1]
    exact ⟨⟨⟨rfl, rfl⟩, other.1.2⟩, other.2⟩

end Rows

def RowAfter (s after : System) (a : Action) (key : OutboxKey) (row : OutboxRow) : Prop :=
  ∃ next, after.db.outbox.get key = some next ∧ OutboxMove s key row a next ∧
    (next = row ∨ Unlocked s after key)

theorem row_kept {s after : System} (a : Action) {key : OutboxKey} {row : OutboxRow}
    (found : s.db.outbox.get key = some row) (same : after.db.outbox = s.db.outbox) :
    RowAfter s after a key row := by
  refine ⟨row, ?_, .kept a, Or.inl rfl⟩
  rw [same]
  exact found

theorem unlocked_of_free {s after : System} {key : OutboxKey}
    (free : s.free (Transaction.locksRow key) = true) : Unlocked s after key := by
  intro u ux inProgress _
  exact System.free_iff.1 free u ux inProgress

theorem unlocked_of_free_for {s after : System} {t : TxId} {key : OutboxKey}
    (ended : after.txs.get t = none)
    (free : s.freeFor t (Transaction.locksRow key) = true) : Unlocked s after key := by
  intro u ux inProgress stays
  apply System.free_for_iff.1 free u ux inProgress
  intro same
  rw [same, ended] at stays
  cases stays

theorem unlocked_of_own {s after : System} {t : TxId} {tx : Transaction} {key : OutboxKey}
    (ended : after.txs.get t = none) (exclusive : Exclusive (Transaction.locksRow key) s)
    (inProgress : s.txs.get t = some tx) (held : tx.locksRow key = true) :
    Unlocked s after key := by
  intro u ux other stays
  cases lock : ux.locksRow key with
  | false => rfl
  | true =>
      rw [exclusive u t ux tx other inProgress lock held, ended] at stays
      cases stays

theorem dispatcher_row {s after : System} {a : Action} {outbox : Outbox}
    {dispatchers : Dispatchers} (statement : DispatchStatement s a outbox dispatchers)
    (written : after.db.outbox = outbox) {key : OutboxKey} {row : OutboxRow}
    (found : s.db.outbox.get key = some row) : RowAfter s after a key row := by
  cases statement with
  | scan => exact row_kept _ found written
  | compareDown => exact row_kept _ found written
  | dispatchCandidate d state _ next remembered dispatched free =>
      simp only [dispatchCandidate, Option.bind_eq_bind, Option.bind_eq_some_iff] at dispatched
      obtain ⟨decision, decided, dispatched⟩ := dispatched
      cases dispatched
      unfold RowAfter
      rw [written, Table.get_update_where, found]
      by_cases selected : (key = state.key && row.availableForDispatch state.now) = true
      · rw [Option.map_some, if_pos selected]
        rw [Bool.and_eq_true, decide_eq_true_eq] at selected
        refine ⟨_, rfl, .dispatched d state decision remembered selected.1 decided selected.2, ?_⟩
        rw [selected.1]
        exact Or.inr (unlocked_of_free free)
      · rw [Option.map_some, if_neg selected]
        exact ⟨row, rfl, .kept _, Or.inl rfl⟩
  | finishDispatch d state accepted remembered stage free =>
      unfold RowAfter
      rw [written, finishDispatch, Table.get_update_where, found]
      by_cases selected : (key = state.key && row.claimHeldBy state.owner) = true
      · rw [Option.map_some, if_pos selected]
        rw [Bool.and_eq_true, decide_eq_true_eq] at selected
        refine ⟨_, rfl, .finished d state accepted remembered selected.1 selected.2, ?_⟩
        rw [selected.1]
        exact Or.inr (unlocked_of_free free)
      · rw [Option.map_some, if_neg selected]
        exact ⟨row, rfl, .kept _, Or.inl rfl⟩

theorem OutboxRow.Fits.of_event {row next : OutboxRow} {key : OutboxKey} (fits : row.Fits key)
    (same : next.eventType = row.eventType) : next.Fits key := by
  rw [OutboxRow.Fits, same]
  exact fits

theorem mark_failed_row {s after : System} {attempt : OutboxKey × Nat}
    {claimed : ClaimedNotification} {error : NotificationProviderError} {now : Time}
    {retryDelayMs : Nat} (remembered : s.attempts.get attempt = some claimed)
    (written : after.db = markFailed s.db claimed error now retryDelayMs)
    (free : s.free (Transaction.locksRow claimed.key) = true)
    (followFree : failsDown s.db claimed error = true →
      s.free (Transaction.locksRow claimed.key.followUp) = true) {key : OutboxKey}
    {row : OutboxRow} (found : s.db.outbox.get key = some row) (fits : row.Fits key) :
    RowAfter s after (.markFailed attempt error now retryDelayMs) key row := by
  have reported : ∀ change : OutboxKey → OutboxRow → OutboxRow,
      (s.db.outbox.updateWhere (fun key row => key = claimed.key && row.shows claimed)
        change).get key =
        some (if key = claimed.key && row.shows claimed then change key row else row) := by
    intro change
    rw [Table.get_update_where, found]
    rfl
  unfold RowAfter
  rw [written, markFailed]
  by_cases shown : (key = claimed.key && row.shows claimed) = true
  · have own := shown
    rw [Bool.and_eq_true, decide_eq_true_eq] at own
    have move := OutboxMove.reported attempt claimed error now retryDelayMs remembered own.1 own.2
    refine ⟨_, ?_, move, ?_⟩
    · simp only
      split
      · rename_i fails
        have final : mayRetry claimed error = false := by
          simp only [failsDown, Bool.and_eq_true, Bool.not_eq_true'] at fails
          exact fails.1.2
        have failed := reported fun _ row =>
          if mayRetry claimed error then
            row.awaitsRetry (now + max (error.retryAfterMs.getD 0) retryDelayMs) error.safeMessage
          else row.failedWith now error.safeMessage
        rw [if_pos shown] at failed
        rw [cancel_undelivered_get _ _ _ failed (by
          apply fits.of_event
          split <;> rfl)]
        simp [final, OutboxRow.failedWith, NotificationOutboxStatus.isWaiting]
      · rw [reported, if_pos shown]
    · rw [own.1]
      exact Or.inr (unlocked_of_free free)
  · have kept := reported fun _ row =>
      if mayRetry claimed error then
        row.awaitsRetry (now + max (error.retryAfterMs.getD 0) retryDelayMs) error.safeMessage
      else row.failedWith now error.safeMessage
    rw [if_neg shown] at kept
    simp only
    split
    · rename_i fails
      rw [cancel_undelivered_get _ _ _ kept fits]
      by_cases selected : (key = claimed.key.followUp && row.eventType = .recovery &&
          row.status.isWaiting) = true
      · rw [if_pos selected]
        simp only [Bool.and_eq_true, decide_eq_true_eq] at selected
        refine ⟨_, rfl, .undeliveredByFailure attempt claimed error now retryDelayMs remembered
          selected.1.1 fails selected.1.2 selected.2, ?_⟩
        rw [selected.1.1]
        exact Or.inr (unlocked_of_free (followFree fails))
      · rw [if_neg selected]
        exact ⟨row, rfl, .kept _, Or.inl rfl⟩
    · exact ⟨row, kept, .kept _, Or.inl rfl⟩

/-- The branches of the claim transaction, as far as they write the outbox. -/
inductive ClaimWrite (db : Database) (tx : ClaimTx) (row : OutboxRow) :
    Outbox → Option ClaimedNotification → Prop
  | nothing : ClaimWrite db tx row db.outbox none
  | disabled : claimOutcome tx row (priorDownStatus db tx.key) = .disabled →
      ClaimWrite db tx row (db.outbox.updateKey tx.key fun row => row.canceledByClaim tx.now) none
  | exhausted : claimOutcome tx row (priorDownStatus db tx.key) = .exhausted →
      row.eventType ≠ .down →
      ClaimWrite db tx row (db.outbox.updateKey tx.key fun row => row.exhausted tx.now) none
  | exhaustedDown : claimOutcome tx row (priorDownStatus db tx.key) = .exhausted →
      row.eventType = .down →
      ClaimWrite db tx row
        (cancelUndeliveredRecovery (db.outbox.updateKey tx.key fun row => row.exhausted tx.now)
          tx.key tx.now) none
  | granted : claimOutcome tx row (priorDownStatus db tx.key) = .granted →
      ClaimWrite db tx row (db.outbox.updateKey tx.key fun row => row.claimedFor tx)
        (some ⟨tx.key, row.claimedFor tx, row.attemptCount + 1⟩)

theorem claim_commit_cases {db after : Database} {tx : ClaimTx}
    {granted : Option ClaimedNotification} (written : claimCommit db tx = some (after, granted)) :
    ∃ row, db.outbox.get tx.key = some row ∧ ClaimWrite db tx row after.outbox granted := by
  simp only [claimCommit, Option.bind_eq_bind, Option.bind_eq_some_iff] at written
  obtain ⟨row, found, written⟩ := written
  refine ⟨row, found, ?_⟩
  split at written
  · cases written
    exact .nothing
  · rename_i outcome
    cases written
    exact .disabled outcome
  · cases written
    exact .nothing
  · rename_i outcome
    cases written
    simp only
    split
    · rename_i down
      exact .exhaustedDown outcome down
    · rename_i other
      exact .exhausted outcome other
  · rename_i outcome
    simp only [Option.bind_eq_some_iff] at written
    obtain ⟨deliveries, _, written⟩ := written
    cases written
    exact .granted outcome

theorem claim_grant_cases {db after : Database} {tx : ClaimTx} {claimed : ClaimedNotification}
    (written : claimCommit db tx = some (after, some claimed)) :
    ∃ row, db.outbox.get tx.key = some row ∧
      claimOutcome tx row (priorDownStatus db tx.key) = .granted ∧
      claimed = ⟨tx.key, row.claimedFor tx, row.attemptCount + 1⟩ ∧
      after.outbox.get tx.key = some (row.claimedFor tx) := by
  obtain ⟨row, found, write⟩ := claim_commit_cases written
  generalize outbox : after.outbox = result at write
  cases write with
  | granted outcome =>
      refine ⟨row, found, outcome, rfl, ?_⟩
      rw [Table.get_update_key_self, found]
      rfl

theorem claim_row {s after : System} {t : TxId} {tx : ClaimTx} {db : Database}
    {granted : Option ClaimedNotification} (inProgress : s.txs.get t = some (.claim tx))
    (written : claimCommit s.db tx = some (db, granted)) (stored : after.db = db)
    (ended : after.txs.get t = none) (exclusive : ∀ key, Exclusive (Transaction.locksRow key) s)
    (needs : granted = none → ∀ key, s.claimNeeds tx = some key →
      s.freeFor t (Transaction.locksRow key) = true)
    {key : OutboxKey} {row : OutboxRow} (found : s.db.outbox.get key = some row)
    (fits : row.Fits key) : RowAfter s after (.commit t) key row := by
  obtain ⟨current, currentFound, write⟩ := claim_commit_cases written
  have own : (Transaction.claim tx).locksRow tx.key = true := by simp [Transaction.locksRow]
  have unlocked : key = tx.key → Unlocked s after key := by
    intro same
    rw [same]
    exact unlocked_of_own ended (exclusive tx.key) inProgress own
  have currentRow : key = tx.key → current = row := by
    intro same
    rw [same, currentFound, Option.some_inj] at found
    exact found
  have updated : ∀ change : OutboxRow → OutboxRow, db.outbox = s.db.outbox.updateKey tx.key change →
      OutboxMove s key row (.commit t) (change row) ∨ key ≠ tx.key →
      RowAfter s after (.commit t) key row := by
    intro change written move
    unfold RowAfter
    rw [stored, written, Table.get_update_key, found]
    by_cases same : key = tx.key
    · rw [if_pos same]
      exact ⟨change row, rfl, move.resolve_right (fun different => different same),
        Or.inr (unlocked same)⟩
    · rw [if_neg same]
      exact ⟨row, rfl, .kept _, Or.inl rfl⟩
  generalize outbox : db.outbox = result at write
  cases write with
  | nothing => exact row_kept _ found (by rw [stored, outbox])
  | disabled outcome =>
      apply updated _ outbox
      by_cases same : key = tx.key
      · exact Or.inl (.claimDisabled t tx inProgress same)
      · exact Or.inr same
  | exhausted outcome other =>
      apply updated _ outbox
      by_cases same : key = tx.key
      · rw [currentRow same] at outcome
        exact Or.inl (.claimExhausted t tx inProgress same outcome)
      · exact Or.inr same
  | granted outcome =>
      apply updated _ outbox
      by_cases same : key = tx.key
      · rw [currentRow same] at outcome
        exact Or.inl (.claimGranted t tx inProgress same outcome)
      · exact Or.inr same
  | exhaustedDown outcome down =>
      have first : (s.db.outbox.updateKey tx.key fun row => row.exhausted tx.now).get key =
          some (if key = tx.key then row.exhausted tx.now else row) := by
        rw [Table.get_update_key, found]
        split <;> rfl
      unfold RowAfter
      rw [stored, outbox]
      by_cases same : key = tx.key
      · rw [if_pos same] at first
        rw [cancel_undelivered_get _ _ _ first (fits.of_event rfl)]
        rw [currentRow same] at outcome
        refine ⟨_, ?_, .claimExhausted t tx inProgress same outcome, Or.inr (unlocked same)⟩
        simp [OutboxRow.exhausted, NotificationOutboxStatus.isWaiting]
      · rw [if_neg same] at first
        rw [cancel_undelivered_get _ _ _ first fits]
        by_cases selected : (key = tx.key.followUp && row.eventType = .recovery &&
            row.status.isWaiting) = true
        · rw [if_pos selected]
          simp only [Bool.and_eq_true, decide_eq_true_eq] at selected
          refine ⟨_, rfl, .undeliveredByClaim t tx current inProgress selected.1.1 currentFound
            outcome down selected.1.2 selected.2, Or.inr ?_⟩
          apply unlocked_of_free_for ended
          apply needs rfl
          simp [System.claimNeeds, currentFound, outcome, down, selected.1.1]
        · rw [if_neg selected]
          exact ⟨row, rfl, .kept _, Or.inl rfl⟩

/-- The branches of `markSent`, as far as they write the outbox. -/
theorem mark_sent_commit_cases {db after : Database} {tx : MarkSentTx}
    (written : markSentCommit db tx = some after) :
    ∃ row, db.outbox.get tx.claimed.key = some row ∧
      (row.status = .canceled ∧ after.outbox = db.outbox ∨
        row.status ≠ .canceled ∧
          tx.recoveryWrite (db.outbox.updateKey tx.claimed.key tx.rowWrite) =
            some after.outbox) := by
  simp only [markSentCommit, Option.bind_eq_bind, Option.bind_eq_some_iff] at written
  obtain ⟨row, found, written⟩ := written
  refine ⟨row, found, ?_⟩
  split at written
  · rename_i canceled
    cases written
    exact Or.inl ⟨canceled, rfl⟩
  · rename_i notCanceled
    simp only [Option.bind_eq_some_iff] at written
    obtain ⟨outbox, recovered, written⟩ := written
    cases written
    exact Or.inr ⟨notCanceled, recovered⟩

theorem mark_sent_row {s after : System} {t : TxId} {tx : MarkSentTx} {db : Database}
    (inProgress : s.txs.get t = some (.markSent tx)) (written : markSentCommit s.db tx = some db)
    (stored : after.db = db) (ended : after.txs.get t = none)
    (exclusive : ∀ key, Exclusive (Transaction.locksRow key) s)
    (apart : tx.recovery ≠ .none → tx.claimed.key.sequence = notificationSequence .down)
    (free : s.lateRecoveryFree t tx = true) {key : OutboxKey} {row : OutboxRow}
    (found : s.db.outbox.get key = some row) : RowAfter s after (.commit t) key row := by
  obtain ⟨current, currentFound, write⟩ := mark_sent_commit_cases written
  rcases write with ⟨_, same⟩ | ⟨notCanceled, recovered⟩
  · exact row_kept _ found (by rw [stored, same])
  · have first : (s.db.outbox.updateKey tx.claimed.key tx.rowWrite).get key =
        some (if key = tx.claimed.key then tx.rowWrite row else row) := by
      rw [Table.get_update_key, found]
      split <;> rfl
    have ownMove : key = tx.claimed.key → OutboxMove s key row (.commit t) (tx.rowWrite row) ∧
        Unlocked s after key := by
      intro same
      have sameRow : row = current := by
        rw [same, currentFound, Option.some_inj] at found
        exact found.symm
      refine ⟨.sent t tx inProgress same (by rw [sameRow]; exact notCanceled), ?_⟩
      rw [same]
      exact unlocked_of_own ended (exclusive _) inProgress (by simp [Transaction.locksRow])
    have plain : after.db.outbox.get key =
        some (if key = tx.claimed.key then tx.rowWrite row else row) →
        RowAfter s after (.commit t) key row := by
      intro result
      by_cases same : key = tx.claimed.key
      · rw [if_pos same] at result
        exact ⟨_, result, (ownMove same).1, Or.inr (ownMove same).2⟩
      · rw [if_neg same] at result
        exact ⟨row, result, .kept _, Or.inl rfl⟩
    unfold MarkSentTx.recoveryWrite at recovered
    unfold System.lateRecoveryFree at free
    cases recovery : tx.recovery with
    | none =>
        simp only [recovery, Option.some_inj] at recovered
        apply plain
        rw [stored, ← recovered]
        exact first
    | create late =>
        simp only [recovery] at recovered
        rw [Table.insert_new_eq_some] at recovered
        apply plain
        rw [stored, recovered.2, Table.get_put]
        split
        · rename_i same
          rw [← same, first] at recovered
          cases recovered.1
        · exact first
    | reactivate =>
        simp only [recovery, Option.some_inj] at recovered
        simp only [recovery] at free
        have different := follow_up_ne (apart (by simp [recovery]))
        by_cases follow : key = tx.claimed.key.followUp
        · have other : key ≠ tx.claimed.key := by
            rw [follow]
            exact different
          rw [if_neg other] at first
          unfold RowAfter
          rw [stored, ← recovered, ← follow, Table.get_update_key_self, first]
          refine ⟨_, rfl, .reactivated t tx current inProgress recovery follow currentFound
            notCanceled, Or.inr ?_⟩
          rw [← follow] at free
          exact unlocked_of_free_for ended free
        · apply plain
          rw [stored, ← recovered, Table.get_update_key_other _ _ follow]
          exact first

theorem monitor_row {s after : System} {t : TxId} {tx : MonitorTx} {db : Database}
    (inProgress : s.txs.get t = some (.monitor tx)) (written : monitorCommit s.db tx = some db)
    (stored : after.db = db) (ended : after.txs.get t = none)
    (free : tx.change.cancels.isSome = true → s.rowsFree t (ofMonitor tx.id) = true)
    {key : OutboxKey} {row : OutboxRow} (found : s.db.outbox.get key = some row) :
    RowAfter s after (.commit t) key row := by
  obtain ⟨_, _, _, _, _, outbox, _⟩ := monitor_commit_cases written
  cases cancels : tx.change.cancels with
  | none =>
      apply row_kept _ found
      rw [stored, outbox, runtime_write_quiet cancels]
  | some entry =>
      obtain ⟨reason, attempts⟩ := entry
      have result : after.db.outbox = retireRows s.db.outbox (ofMonitor tx.id) tx.now := by
        rw [stored, outbox, MonitorTx.runtimeWrite, cancels]
        rfl
      unfold RowAfter
      rw [result, retire_rows_get _ _ _ (fun _ _ => rfl) found]
      cases concerned : ofMonitor tx.id key row with
      | false => exact ⟨row, rfl, .kept _, Or.inl rfl⟩
      | true =>
          refine ⟨_, rfl, .retiredByMonitor t tx inProgress (by simp [cancels])
            (of_decide_eq_true concerned), Or.inr ?_⟩
          exact unlocked_of_free_for ended
            (System.rows_free_iff.1 (free (by simp [cancels])) key row found concerned)

theorem channel_row {s after : System} {t : TxId} {tx : ChannelTx}
    (inProgress : s.txs.get t = some (.channel tx)) (stored : after.db = channelCommit s.db tx)
    (ended : after.txs.get t = none)
    (free : tx.change.retires.isSome = true → s.rowsFree t (ofChannel tx.id) = true)
    {key : OutboxKey} {row : OutboxRow} (found : s.db.outbox.get key = some row) :
    RowAfter s after (.commit t) key row := by
  cases retires : tx.change.retires with
  | none =>
      apply row_kept _ found
      rw [stored, channelCommit, ChannelTx.retireWrite, retires]
  | some attempts =>
      have result : after.db.outbox = retireRows s.db.outbox (ofChannel tx.id) tx.now := by
        rw [stored, channelCommit, ChannelTx.retireWrite, retires]
      unfold RowAfter
      rw [result, retire_rows_get _ _ _ (fun _ _ => rfl) found]
      cases concerned : ofChannel tx.id key row with
      | false => exact ⟨row, rfl, .kept _, Or.inl rfl⟩
      | true =>
          refine ⟨_, rfl, .retiredByChannel t tx inProgress (by simp [retires])
            (of_decide_eq_true concerned), Or.inr ?_⟩
          exact unlocked_of_free_for ended
            (System.rows_free_iff.1 (free (by simp [retires])) key row found concerned)

theorem claim_commit_absent {db after : Database} {tx : ClaimTx}
    {granted : Option ClaimedNotification} (written : claimCommit db tx = some (after, granted))
    {key : OutboxKey} (absent : db.outbox.get key = none) : after.outbox.get key = none := by
  obtain ⟨row, _, write⟩ := claim_commit_cases written
  generalize outbox : after.outbox = result at write
  cases write <;> simp [cancelUndeliveredRecovery, Table.updateKey, absent]

theorem persist_row {s after : System} {t : TxId} {tx : PersistTx} {db : Database}
    (inProgress : s.txs.get t = some (.persist tx)) (finished : tx.stage = .done)
    (written : persistCommit s.db tx = some db) (stored : after.db = db)
    (ended : after.txs.get t = none) (exclusive : ∀ key, Exclusive (Transaction.locksRow key) s)
    {key : OutboxKey} {row : OutboxRow} (found : s.db.outbox.get key = some row) :
    RowAfter s after (.commit t) key row := by
  obtain ⟨_, _, outbox, _, _, inserted, database⟩ := persist_commit_cases written
  have updated : (s.db.outbox.updateWhere (fun _ _ => true) tx.rowWrite).get key =
      some (tx.rowWrite key row) := by
    rw [Table.get_update_where, found]
    rfl
  refine ⟨tx.rowWrite key row, ?_, .resolved t tx inProgress finished, ?_⟩
  · rw [stored, database]
    exact Table.insert_all_keeps inserted updated
  · cases held : (Transaction.persist tx).locksRow key with
    | true => exact Or.inr (unlocked_of_own ended (exclusive key) inProgress held)
    | false =>
        simp only [Transaction.locksRow, Bool.or_eq_false_iff, decide_eq_false_iff_not] at held
        left
        simp [PersistTx.rowWrite, held.1, held.2]

/-- The inversion lemma of `step` for an outbox row. -/
theorem step_outbox_row {s after : System} {a : Action} (sequenced : OutboxSequenced s)
    (stepped : Stepped s a after) {key : OutboxKey} {row : OutboxRow}
    (found : s.db.outbox.get key = some row) : RowAfter s after a key row := by
  have fits := sequenced.rows key row found
  cases stepped with
  | channel => exact row_kept _ found rfl
  | ledger => exact row_kept _ found rfl
  | began => exact row_kept _ found rfl
  | advanced => exact row_kept _ found rfl
  | aborted => exact row_kept _ found rfl
  | dispatcher _ outbox dispatchers statement => exact dispatcher_row statement rfl found
  | failed attempt claimed error now retryDelayMs remembered free followFree =>
      exact mark_failed_row remembered rfl free followFree found fits
  | committed t tx db attempts events inProgress commit =>
      have ended : (s.txs.remove t).get t = none := by simp [Table.get_remove]
      cases commit with
      | persist tx db finished written =>
          exact persist_row inProgress finished written rfl ended sequenced.exclusive found
      | claimIgnored tx db needs written =>
          exact claim_row inProgress written rfl ended sequenced.exclusive (fun _ => needs) found
            fits
      | claimGranted tx db claimed written =>
          exact claim_row inProgress written rfl ended sequenced.exclusive (by simp) found fits
      | markSent tx db free written =>
          exact mark_sent_row inProgress written rfl ended sequenced.exclusive
            (sequenced.late t tx inProgress) free found
      | createDue tx db written =>
          apply row_kept _ found
          exact (create_due_checks_kept written).outbox
      | monitor tx db free written => exact monitor_row inProgress written rfl ended free found
      | channel tx free => exact channel_row inProgress rfl ended free found

inductive OutboxNew (s : System) (key : OutboxKey) (row : OutboxRow) : Action → Prop
  | created (t : TxId) (tx : PersistTx) : s.txs.get t = some (.persist tx) → tx.stage = .done →
      (key, row) ∈ tx.outbox.creates → OutboxNew s key row (.commit t)
  | late (t : TxId) (tx : MarkSentTx) (down : OutboxRow) :
      s.txs.get t = some (.markSent tx) → tx.recovery = .create row →
      key = tx.claimed.key.followUp → s.db.outbox.get tx.claimed.key = some down →
      down.status ≠ .canceled → OutboxNew s key row (.commit t)

theorem step_outbox_new {s after : System} {a : Action} (stepped : Stepped s a after)
    {key : OutboxKey} {row : OutboxRow} (absent : s.db.outbox.get key = none)
    (found : after.db.outbox.get key = some row) : OutboxNew s key row a := by
  have nothing : after.db.outbox.get key = none → OutboxNew s key row a := by
    intro still
    rw [still] at found
    cases found
  cases stepped with
  | channel => exact nothing absent
  | ledger => exact nothing absent
  | began => exact nothing absent
  | advanced => exact nothing absent
  | aborted => exact nothing absent
  | dispatcher _ outbox dispatchers statement =>
      cases statement with
      | scan => exact nothing absent
      | compareDown => exact nothing absent
      | dispatchCandidate d state _ next remembered dispatched free =>
          simp only [dispatchCandidate, Option.bind_eq_bind, Option.bind_eq_some_iff] at dispatched
          obtain ⟨decision, _, dispatched⟩ := dispatched
          cases dispatched
          exact nothing (by simp [absent])
      | finishDispatch => exact nothing (by simp [finishDispatch, absent])
  | failed attempt claimed error now retryDelayMs remembered free followFree =>
      apply nothing
      simp only [markFailed]
      split <;> simp [cancelUndeliveredRecovery, absent]
  | committed t tx db attempts events inProgress commit =>
      cases commit with
      | persist tx db finished written =>
          obtain ⟨_, _, outbox, _, _, inserted, rfl⟩ := persist_commit_cases written
          rcases Table.insert_all_source inserted found with member | before
          · exact .created t tx inProgress finished member
          · simp [absent] at before
      | claimIgnored tx db needs written =>
          apply nothing
          exact claim_commit_absent written absent
      | claimGranted tx db claimed written =>
          apply nothing
          exact claim_commit_absent written absent
      | markSent tx db free written =>
          obtain ⟨down, downFound, write⟩ := mark_sent_commit_cases written
          rcases write with ⟨_, same⟩ | ⟨notCanceled, recovered⟩
          · apply nothing
            rw [same]
            exact absent
          · have first : (s.db.outbox.updateKey tx.claimed.key tx.rowWrite).get key = none := by
              simp [Table.updateKey, absent]
            unfold MarkSentTx.recoveryWrite at recovered
            split at recovered
            · rw [Option.some_inj] at recovered
              apply nothing
              rw [← recovered]
              exact first
            · rw [Option.some_inj] at recovered
              apply nothing
              rw [← recovered]
              simp [Table.updateKey, absent]
            · rename_i late create
              rw [Table.insert_new_eq_some] at recovered
              rw [recovered.2, Table.get_put] at found
              split at found
              · rename_i same
                cases found
                exact .late t tx down inProgress create same downFound notCanceled
              · rw [first] at found
                cases found
      | createDue tx db written =>
          apply nothing
          rw [(create_due_checks_kept written).outbox]
          exact absent
      | monitor tx db free written =>
          apply nothing
          rw [(monitor_commit_cases written).2.2.2.2.2.1, MonitorTx.runtimeWrite]
          split
          · simp [cancelRuntime, retireRows, absent]
          · exact absent
      | channel tx free =>
          apply nothing
          simp only [channelCommit, ChannelTx.retireWrite]
          split
          · exact absent
          · simp [retireRows, absent]

end LinkAlive
