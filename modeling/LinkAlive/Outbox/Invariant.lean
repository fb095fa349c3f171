import LinkAlive.Outbox.Moves

/-!
# The outbox invariant of the system

What the rows, the claims that the workers hold and the transactions in progress have in
common. A claim keeps the event of its row; a resolution reads DOWN rows of its incident
and writes only what it has locked.
-/

namespace LinkAlive

open Relational

set_option autoImplicit false

/-- The columns that no statement writes after the row has been created. -/
structure OutboxRow.SameEvent (row other : OutboxRow) : Prop where
  monitorId : row.monitorId = other.monitorId
  eventType : row.eventType = other.eventType
  payloadSafe : row.payloadSafe = other.payloadSafe
  channelDisplayNameSnapshot :
    row.channelDisplayNameSnapshot = other.channelDisplayNameSnapshot
  messageId : row.messageId = other.messageId
  maxAttempts : row.maxAttempts = other.maxAttempts

theorem OutboxRow.SameEvent.rfl {row : OutboxRow} : row.SameEvent row :=
  ⟨Eq.refl _, Eq.refl _, Eq.refl _, Eq.refl _, Eq.refl _, Eq.refl _⟩

theorem OutboxRow.SameEvent.trans {row other third : OutboxRow} (first : row.SameEvent other)
    (second : other.SameEvent third) : row.SameEvent third :=
  ⟨first.monitorId.trans second.monitorId, first.eventType.trans second.eventType,
    first.payloadSafe.trans second.payloadSafe,
    first.channelDisplayNameSnapshot.trans second.channelDisplayNameSnapshot,
    first.messageId.trans second.messageId, first.maxAttempts.trans second.maxAttempts⟩

section Writes

variable (row : OutboxRow)

theorem dispatched_same_event (state : DispatchState) (decision : DispatchDecision) :
    (row.dispatched state decision).SameEvent row := by
  cases decision with
  | disabled => exact ⟨rfl, rfl, rfl, rfl, rfl, rfl⟩
  | wait => exact ⟨rfl, rfl, rfl, rfl, rfl, rfl⟩
  | undelivered retain =>
      cases retain <;> exact ⟨rfl, rfl, rfl, rfl, rfl, rfl⟩
  | dispatch => exact ⟨rfl, rfl, rfl, rfl, rfl, rfl⟩

theorem canceled_by_claim_same_event (now : Time) : (row.canceledByClaim now).SameEvent row := by
  unfold OutboxRow.canceledByClaim
  split <;> exact ⟨rfl, rfl, rfl, rfl, rfl, rfl⟩

theorem sent_write_same_event (tx : MarkSentTx) : (tx.rowWrite row).SameEvent row := by
  unfold MarkSentTx.rowWrite
  split <;> exact ⟨rfl, rfl, rfl, rfl, rfl, rfl⟩

theorem retired_by_runtime_same_event (now : Time) :
    (row.retiredByRuntime now).SameEvent row := by
  unfold OutboxRow.retiredByRuntime
  split <;> exact ⟨rfl, rfl, rfl, rfl, rfl, rfl⟩

theorem persist_write_same_event (tx : PersistTx) (key : OutboxKey) :
    (tx.rowWrite key row).SameEvent row := by
  unfold PersistTx.rowWrite
  simp only
  split <;> split <;> exact ⟨rfl, rfl, rfl, rfl, rfl, rfl⟩

end Writes

theorem OutboxMove.same_event {s : System} {key : OutboxKey} {row next : OutboxRow} {a : Action}
    (move : OutboxMove s key row a next) : next.SameEvent row := by
  cases move with
  | kept => exact .rfl
  | dispatched d state decision => exact dispatched_same_event row state decision
  | finished d state accepted => cases accepted <;> exact ⟨rfl, rfl, rfl, rfl, rfl, rfl⟩
  | claimDisabled t tx => exact canceled_by_claim_same_event row tx.now
  | claimExhausted => exact ⟨rfl, rfl, rfl, rfl, rfl, rfl⟩
  | claimGranted => exact ⟨rfl, rfl, rfl, rfl, rfl, rfl⟩
  | undeliveredByClaim => exact ⟨rfl, rfl, rfl, rfl, rfl, rfl⟩
  | undeliveredByFailure => exact ⟨rfl, rfl, rfl, rfl, rfl, rfl⟩
  | reported => split <;> exact ⟨rfl, rfl, rfl, rfl, rfl, rfl⟩
  | sent t tx => exact sent_write_same_event row tx
  | reactivated => exact ⟨rfl, rfl, rfl, rfl, rfl, rfl⟩
  | retiredByMonitor t tx => exact retired_by_runtime_same_event row tx.now
  | retiredByChannel t tx => exact retired_by_runtime_same_event row tx.now
  | resolved t tx => exact persist_write_same_event row tx key

def ClaimView (outbox : Outbox) (claimed : ClaimedNotification) : Prop :=
  ∃ row, outbox.get claimed.key = some row ∧ row.SameEvent claimed.row

/-- What `ensureRecoveryAfterLateDownSuccess` has decided. -/
structure SentView (outbox : Outbox) (tx : MarkSentTx) : Prop where
  claim : ClaimView outbox tx.claimed
  down : tx.recovery ≠ .none → tx.claimed.row.eventType = .down
  reactivates : tx.recovery = .reactivate → ∃ row, outbox.get tx.claimed.key.followUp = some row ∧
    row.eventType = .recovery ∧ row.canceledUndelivered = true
  creates : ∀ row, tx.recovery = .create row → ∃ incident resolvedAt monitor databaseTime,
    row = lateRecoveryRow tx.claimed incident resolvedAt monitor databaseTime

def PersistTx.Targets (tx : PersistTx) (incidentId : IncidentId) : Prop :=
  (∃ row, tx.incident = .create incidentId row) ∨ ∃ time, tx.incident = .resolve incidentId time

/-- A row that a persist transaction is about to insert. -/
structure NewRowView (tx : PersistTx) (key : OutboxKey) (row : OutboxRow) : Prop where
  fits : row.Fits key
  pending : row.status = .pending
  unattempted : row.attemptCount = 0
  monitor : row.monitorId = tx.monitorId
  target : tx.Targets key.incidentId

structure ResolutionView (outbox : Outbox) (tx : PersistTx) (resolution : Resolution) : Prop where
  target : ∃ time, tx.incident = .resolve resolution.incidentId time
  rows : ∀ key down, (key, down) ∈ resolution.todo → key.incidentId = resolution.incidentId ∧
    down.eventType = .down ∧ ∃ row, outbox.get key = some row ∧ row.SameEvent down ∧
      (down.status.isTerminal = true → row.status.isTerminal = true)
  decided : ∀ key down rest decision, resolution.todo = (key, down) :: rest →
    resolution.phase = .planned decision → decision.currentDownStatus.isTerminal = true →
      key ∈ tx.outbox.cancels ∨
        ∃ row, outbox.get key = some row ∧ row.status.isTerminal = true

structure OutboxView (outbox : Outbox) (tx : PersistTx) : Prop where
  creates : ∀ key row, (key, row) ∈ tx.outbox.creates → NewRowView tx key row
  cancels : ∀ key, key ∈ tx.outbox.cancels → tx.Targets key.incidentId ∧
    ∃ row, outbox.get key = some row ∧ row.eventType = .down ∧ row.replaceable = true
  redacts : ∀ key, key ∈ tx.outbox.redacts → tx.Targets key.incidentId ∧
    ∃ row, outbox.get key = some row ∧ row.eventType = .down ∧
      (key ∈ tx.outbox.cancels ∨ row.status.isTerminal = true)
  todo : ∀ resolution, tx.stage = .resolving resolution → ResolutionView outbox tx resolution

def OutboxTxView (outbox : Outbox) : Transaction → Prop
  | .persist tx => OutboxView outbox tx
  | .markSent tx => SentView outbox tx
  | .claim _ | .createDue _ | .monitor _ | .channel _ => True

structure OutboxInvariant (s : System) : Prop where
  fits : ∀ key row, s.db.outbox.get key = some row → row.Fits key
  owned : ∀ key row, s.db.outbox.get key = some row →
    ∃ incident, s.db.incidents.get key.incidentId = some incident ∧
      incident.monitorId = row.monitorId
  claims : ∀ attempt claimed, s.attempts.get attempt = some claimed →
    ClaimView s.db.outbox claimed
  views : ∀ t tx, s.txs.get t = some tx → OutboxTxView s.db.outbox tx
  exclusive : ∀ key, Exclusive (Transaction.locksRow key) s

theorem sequence_of_down {row : OutboxRow} {key : OutboxKey} (fits : row.Fits key)
    (down : row.eventType = .down) : key.sequence = notificationSequence .down := by
  rw [← down]
  exact fits.2

theorem OutboxInvariant.late {s : System} (invariant : OutboxInvariant s) {t : TxId}
    {tx : MarkSentTx} (inProgress : s.txs.get t = some (.markSent tx))
    (recovers : tx.recovery ≠ .none) :
    tx.claimed.key.sequence = notificationSequence .down := by
  have view : SentView s.db.outbox tx := invariant.views t _ inProgress
  obtain ⟨row, found, same⟩ := view.claim
  apply sequence_of_down (invariant.fits _ row found)
  rw [same.eventType]
  exact view.down recovers

theorem OutboxInvariant.sequenced {s : System} (invariant : OutboxInvariant s) :
    OutboxSequenced s :=
  ⟨invariant.fits, fun _ _ inProgress recovers => invariant.late inProgress recovers,
    invariant.exclusive⟩

inductive TerminalMove (s : System) (key : OutboxKey) (row : OutboxRow) :
    Action → OutboxRow → Prop
  | same (a : Action) (next : OutboxRow) : next.status = row.status →
      next.lastErrorSafe = row.lastErrorSafe → next.attemptCount = row.attemptCount →
      (next.encryptedConfigSnapshot = row.encryptedConfigSnapshot ∨
        next.encryptedConfigSnapshot = .tombstone) → TerminalMove s key row a next
  | sent (t : TxId) (tx : MarkSentTx) : s.txs.get t = some (.markSent tx) →
      key = tx.claimed.key → row.status ≠ .canceled →
        TerminalMove s key row (.commit t) (tx.rowWrite row)
  | reactivated (t : TxId) (tx : MarkSentTx) (down : OutboxRow) :
      s.txs.get t = some (.markSent tx) → tx.recovery = .reactivate →
      key = tx.claimed.key.followUp → s.db.outbox.get tx.claimed.key = some down →
      down.status ≠ .canceled → row.eventType = .recovery → row.canceledUndelivered = true →
        TerminalMove s key row (.commit t)
          (row.reactivated tx.now tx.claimed.row.encryptedConfigSnapshot)

theorem available_not_terminal {row : OutboxRow} {now : Time}
    (available : row.availableForDispatch now = true) : row.status.isTerminal = false := by
  cases status : row.status <;>
    simp [OutboxRow.availableForDispatch, status] at available ⊢ <;> rfl

theorem waiting_not_terminal {status : NotificationOutboxStatus} (waiting : status.isWaiting = true) :
    status.isTerminal = false := by
  cases status <;> first | rfl | cases waiting

/-- Only a disabled channel lets a claim touch a row that is not waiting or processing. -/
theorem claim_outcome_not_terminal {tx : ClaimTx} {row : OutboxRow}
    {downStatus : Option NotificationOutboxStatus}
    (outcome : claimOutcome tx row downStatus = .exhausted ∨
      claimOutcome tx row downStatus = .granted) : row.status.isTerminal = false := by
  unfold claimOutcome at outcome
  split at outcome
  · simp at outcome
  · split at outcome
    · simp at outcome
    · rename_i claimable
      cases status : row.status <;>
        simp [status, NotificationOutboxStatus.isWaiting] at claimable ⊢ <;> rfl

theorem persist_write_terminal {tx : PersistTx} {key : OutboxKey} {row : OutboxRow}
    {outbox : Outbox} (view : OutboxView outbox tx) (found : outbox.get key = some row)
    (terminal : row.status.isTerminal = true) :
    tx.rowWrite key row = row ∨ tx.rowWrite key row = row.retired := by
  have notCanceled : key ∉ tx.outbox.cancels := by
    intro canceled
    obtain ⟨_, other, same, _, replaceable⟩ := view.cancels key canceled
    rw [found, Option.some_inj] at same
    rw [← same, OutboxRow.replaceable, Bool.and_eq_true] at replaceable
    cases status : row.status <;>
      simp [status, NotificationOutboxStatus.isTerminal, NotificationOutboxStatus.isUnsent]
        at terminal replaceable
  unfold PersistTx.rowWrite
  simp only [if_neg notCanceled]
  split
  · exact Or.inr rfl
  · exact Or.inl rfl

theorem terminal_row_move {s : System} (invariant : OutboxInvariant s) {key : OutboxKey}
    {row next : OutboxRow} {a : Action} (found : s.db.outbox.get key = some row)
    (move : OutboxMove s key row a next) (terminal : row.status.isTerminal = true) :
    TerminalMove s key row a next := by
  have active : ∀ {P : Prop}, row.status.isTerminal = false → P := by
    intro P open_
    rw [terminal] at open_
    cases open_
  have retired : ∀ a, TerminalMove s key row a row.retired := fun a =>
    .same a _ rfl rfl rfl (Or.inr rfl)
  have byRuntime : ∀ now, row.retiredByRuntime now = row.retired := by
    intro now
    rw [OutboxRow.retiredByRuntime, if_pos terminal]
  cases move with
  | kept a => exact .same a _ rfl rfl rfl (Or.inl rfl)
  | dispatched d state decision remembered target decided available =>
      exact active (available_not_terminal available)
  | finished d state accepted remembered target held =>
      simp only [OutboxRow.claimHeldBy, Bool.and_eq_true, decide_eq_true_eq] at held
      exact active (by rw [held.2]; rfl)
  | claimDisabled t tx =>
      rw [OutboxRow.canceledByClaim, if_pos terminal]
      exact retired _
  | claimExhausted t tx inProgress target outcome =>
      exact active (claim_outcome_not_terminal (Or.inl outcome))
  | claimGranted t tx inProgress target outcome =>
      exact active (claim_outcome_not_terminal (Or.inr outcome))
  | undeliveredByClaim t tx down inProgress target stored outcome event recovery waiting =>
      exact active (waiting_not_terminal waiting)
  | undeliveredByFailure attempt claimed error now delay remembered target fails event waiting =>
      exact active (waiting_not_terminal waiting)
  | reported attempt claimed error now delay remembered target shown =>
      simp only [OutboxRow.shows, Bool.and_eq_true, decide_eq_true_eq] at shown
      exact active (by rw [shown.1]; rfl)
  | sent t tx inProgress target notCanceled => exact .sent t tx inProgress target notCanceled
  | reactivated t tx down inProgress recovery target stored notCanceled =>
      have view : SentView s.db.outbox tx := invariant.views t _ inProgress
      obtain ⟨other, otherFound, event, undelivered⟩ := view.reactivates recovery
      rw [← target, found, Option.some_inj] at otherFound
      subst otherFound
      exact .reactivated t tx down inProgress recovery target stored notCanceled event undelivered
  | retiredByMonitor t tx =>
      rw [byRuntime]
      exact retired _
  | retiredByChannel t tx =>
      rw [byRuntime]
      exact retired _
  | resolved t tx inProgress finished =>
      have view : OutboxView s.db.outbox tx := invariant.views t _ inProgress
      rcases persist_write_terminal view found terminal with same | same
      · rw [same]
        exact .same _ _ rfl rfl rfl (Or.inl rfl)
      · rw [same]
        exact retired _

end LinkAlive
