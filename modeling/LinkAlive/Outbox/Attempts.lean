import LinkAlive.Outbox.Ordering

/-!
# The attempts of an outbox row

A claim that is granted inserts the delivery of the next attempt and gives the row a
lease; every other step only ends deliveries. The worker calls the provider once for a
granted claim, so that the granted claims of a run are its calls.
-/

namespace LinkAlive

open Relational

set_option autoImplicit false

abbrev Deliveries := Table (OutboxKey × Nat) DeliveryRow

def Event.attemptOf (key : OutboxKey) : Event → Option Nat
  | .granted other attempt => if other = key then some attempt else none
  | .reset _ | .recorded _ _ => none

def System.callsOf (s : System) (key : OutboxKey) : List Nat :=
  s.history.filterMap (Event.attemptOf key)

def System.grant (s : System) : Action → Option ClaimedNotification
  | .commit t =>
      match s.txs.get t with
      | some (.claim tx) => (claimCommit s.db tx).bind Prod.snd
      | _ => none
  | _ => none

/-- The attempts of a row, as the database and the calls of the provider show them. -/
structure RowAttempts (s : System) (key : OutboxKey) (row : OutboxRow) : Prop where
  numbered : ∀ attempt, (s.db.deliveries.get (key, attempt)).isSome = true ↔
    1 ≤ attempt ∧ attempt ≤ row.attemptCount
  message : ∀ attempt delivery, s.db.deliveries.get (key, attempt) = some delivery →
    delivery.messageId = row.messageId
  latest : ∀ attempt delivery, s.db.deliveries.get (key, attempt) = some delivery →
    delivery.status = .attempting → attempt = row.attemptCount
  bounded : row.attemptCount ≤ row.maxAttempts
  calls : s.callsOf key = List.range' 1 row.attemptCount

structure Redispatchable (row : OutboxRow) : Prop where
  leased : row.status = .enqueued ∨ row.status = .processing → row.leaseUntil.isSome = true
  available : ∀ now, row.status.isTerminal = false → row.availableAt ≤ now →
    (∀ lease, row.leaseUntil = some lease → lease < now) → row.availableForDispatch now = true

structure Subsided (before after : Deliveries) : Prop where
  absent : ∀ attempt, before.get attempt = none → after.get attempt = none
  stored : ∀ attempt delivery, before.get attempt = some delivery →
    ∃ next, after.get attempt = some next ∧ next.messageId = delivery.messageId ∧
      (next.status = .attempting → delivery.status = .attempting)

theorem Subsided.refl (deliveries : Deliveries) : Subsided deliveries deliveries :=
  ⟨fun _ absent => absent, fun _ delivery found => ⟨delivery, found, rfl, fun open_ => open_⟩⟩

theorem subsided_update (deliveries : Deliveries) (guard : OutboxKey × Nat → DeliveryRow → Bool)
    {change : OutboxKey × Nat → DeliveryRow → DeliveryRow}
    (message : ∀ attempt row, (change attempt row).messageId = row.messageId)
    (ends : ∀ attempt row, (change attempt row).status ≠ .attempting) :
    Subsided deliveries (deliveries.updateWhere guard change) := by
  constructor
  · intro attempt absent
    simp [absent]
  · intro attempt delivery found
    rw [Table.get_update_where, found, Option.map_some]
    by_cases selected : guard attempt delivery = true
    · rw [if_pos selected]
      exact ⟨_, rfl, message attempt delivery, fun open_ => absurd open_ (ends attempt delivery)⟩
    · rw [if_neg selected]
      exact ⟨delivery, rfl, rfl, fun open_ => open_⟩

theorem mark_failed_deliveries (db : Database) (claimed : ClaimedNotification)
    (error : NotificationProviderError) (now : Time) (retryDelayMs : Nat) :
    Subsided db.deliveries (markFailed db claimed error now retryDelayMs).deliveries := by
  have ends : ∀ row, (failedDelivery row error now).status ≠ .attempting := by
    intro row
    unfold failedDelivery
    simp only
    split <;> simp
  have failed : Subsided db.deliveries
      (db.deliveries.updateKey (claimed.key, claimed.deliveryAttempt) fun delivery =>
        failedDelivery delivery error now) :=
    subsided_update _ _ (fun _ _ => rfl) (fun _ row => ends row)
  exact failed

theorem abandon_attempts_subsided (deliveries : Deliveries) (key : OutboxKey) (now : Time) :
    Subsided deliveries (abandonAttempts deliveries key now) :=
  subsided_update _ _ (fun _ _ => rfl) (by simp)

theorem abandon_deliveries_subsided (deliveries : Deliveries) (found : List (OutboxKey × Nat))
    (now : Time) (error : String) :
    Subsided deliveries (abandonDeliveries deliveries found now error) :=
  subsided_update _ _ (fun _ _ => rfl) (by simp)

/-- The branches of the claim transaction, as far as they write deliveries. -/
theorem claim_commit_deliveries {db after : Database} {tx : ClaimTx}
    (written : claimCommit db tx = some (after, none)) :
    Subsided db.deliveries after.deliveries := by
  simp only [claimCommit, Option.bind_eq_bind, Option.bind_eq_some_iff] at written
  obtain ⟨row, _, written⟩ := written
  split at written
  · cases written
    exact .refl _
  · cases written
    exact .refl _
  · cases written
    exact abandon_attempts_subsided _ _ _
  · cases written
    exact abandon_attempts_subsided _ _ _
  · simp [Option.bind_eq_some_iff] at written

theorem mark_sent_deliveries {db after : Database} {tx : MarkSentTx}
    (written : markSentCommit db tx = some after) :
    Subsided db.deliveries after.deliveries := by
  have succeeded : Subsided db.deliveries
      (db.deliveries.updateKey (tx.claimed.key, tx.claimed.deliveryAttempt) fun delivery =>
        succeededDelivery delivery tx.providerMessageId tx.now) :=
    subsided_update _ _ (fun _ _ => rfl) (by simp [succeededDelivery])
  simp only [markSentCommit, Option.bind_eq_bind, Option.bind_eq_some_iff] at written
  obtain ⟨row, _, written⟩ := written
  split at written
  · cases written
    exact succeeded
  · simp only [Option.bind_eq_some_iff] at written
    obtain ⟨outbox, _, written⟩ := written
    cases written
    exact succeeded

theorem monitor_commit_subsided {db after : Database} {tx : MonitorTx}
    (written : monitorCommit db tx = some after) :
    Subsided db.deliveries after.deliveries := by
  rw [monitor_commit_deliveries written]
  unfold MonitorTx.runtimeWrite
  split
  · exact abandon_deliveries_subsided _ _ _ _
  · exact .refl _

theorem channel_commit_deliveries (db : Database) (tx : ChannelTx) :
    Subsided db.deliveries (channelCommit db tx).deliveries := by
  unfold channelCommit ChannelTx.retireWrite
  simp only
  split
  · exact .refl _
  · exact abandon_deliveries_subsided _ _ _ _

section Steps

variable {s after : System} {a : Action}

theorem grant_cases {claimed : ClaimedNotification} (granted : s.grant a = some claimed) :
    ∃ t tx db, a = .commit t ∧ s.txs.get t = some (.claim tx) ∧
      claimCommit s.db tx = some (db, some claimed) := by
  unfold System.grant at granted
  split at granted
  · rename_i t
    split at granted
    · rename_i tx inProgress
      rw [Option.bind_eq_some_iff] at granted
      obtain ⟨⟨db, outcome⟩, written, rfl⟩ := granted
      exact ⟨t, tx, db, rfl, inProgress, written⟩
    · cases granted
  · cases granted

structure GrantStep (s after : System) (tx : ClaimTx) (row : OutboxRow) : Prop where
  found : s.db.outbox.get tx.key = some row
  outcome : claimOutcome tx row (priorDownStatus s.db tx.key) = .granted
  outbox : after.db.outbox = s.db.outbox.updateKey tx.key fun row => row.claimedFor tx
  deliveries : after.db.deliveries = (abandonAttempts s.db.deliveries tx.key tx.now).put
    (tx.key, row.attemptCount + 1) (newDeliveryRow row tx.now)
  history : after.history = s.history ++ [.granted tx.key (row.attemptCount + 1)]

theorem claim_commit_granted {db after : Database} {tx : ClaimTx} {claimed : ClaimedNotification}
    (written : claimCommit db tx = some (after, some claimed)) :
    ∃ row, db.outbox.get tx.key = some row ∧
      claimOutcome tx row (priorDownStatus db tx.key) = .granted ∧
      claimed = ⟨tx.key, row.claimedFor tx, row.attemptCount + 1⟩ ∧
      after.outbox = db.outbox.updateKey tx.key (fun row => row.claimedFor tx) ∧
      after.deliveries = (abandonAttempts db.deliveries tx.key tx.now).put
        (tx.key, row.attemptCount + 1) (newDeliveryRow row tx.now) := by
  simp only [claimCommit, Option.bind_eq_bind, Option.bind_eq_some_iff] at written
  obtain ⟨row, found, written⟩ := written
  split at written
  · cases written
  · cases written
  · cases written
  · cases written
  · rename_i outcome
    simp only [Option.bind_eq_some_iff] at written
    obtain ⟨deliveries, inserted, written⟩ := written
    cases written
    rw [Table.insert_new_eq_some] at inserted
    exact ⟨row, found, outcome, rfl, rfl, inserted.2⟩

theorem grant_step (stepped : Stepped s a after) {claimed : ClaimedNotification}
    (granted : s.grant a = some claimed) :
    ∃ t tx row, a = .commit t ∧ s.txs.get t = some (.claim tx) ∧
      claimed = ⟨tx.key, row.claimedFor tx, row.attemptCount + 1⟩ ∧ GrantStep s after tx row := by
  obtain ⟨t, tx, db, rfl, inProgress, written⟩ := grant_cases granted
  obtain ⟨_, attempts, events, commit, rfl⟩ := commit_step_cases stepped inProgress
  cases commit with
  | claimIgnored _ _ _ ignored =>
      rw [written] at ignored
      cases ignored
  | claimGranted _ _ _ committed =>
      rw [written] at committed
      cases committed
      obtain ⟨row, found, outcome, rfl, outbox, deliveries⟩ := claim_commit_granted written
      exact ⟨t, tx, row, rfl, inProgress, rfl, found, outcome, outbox, deliveries, rfl⟩

structure QuietStep (s after : System) : Prop where
  deliveries : Subsided s.db.deliveries after.db.deliveries
  calls : ∀ key, after.callsOf key = s.callsOf key

theorem quiet_step (stepped : Stepped s a after) (quiet : s.grant a = none) :
    QuietStep s after := by
  have idle : ∀ next : System, next.db.deliveries = s.db.deliveries →
      next.history = s.history → QuietStep s next := by
    intro next deliveries history
    constructor
    · rw [deliveries]
      exact .refl _
    · intro key
      rw [System.callsOf, history]
      rfl
  cases stepped with
  | channel => exact idle _ rfl rfl
  | ledger => exact idle _ rfl rfl
  | began => exact idle _ rfl rfl
  | advanced => exact idle _ rfl rfl
  | dispatcher => exact idle _ rfl rfl
  | aborted => exact idle _ rfl rfl
  | failed attempt claimed error now =>
      exact ⟨mark_failed_deliveries s.db claimed error now _, fun _ => rfl⟩
  | committed t tx db attempts events inProgress commit =>
      have silent : (∀ key, events.filterMap (Event.attemptOf key) = []) →
          Subsided s.db.deliveries db.deliveries →
          QuietStep s
            { s with
              db := db
              txs := s.txs.remove t
              attempts := attempts
              history := s.history ++ events } := by
        intro nothing deliveries
        refine ⟨deliveries, ?_⟩
        intro key
        rw [System.callsOf, List.filterMap_append, nothing, List.append_nil]
        rfl
      cases commit with
      | persist tx db finished written =>
          apply silent (fun _ => rfl)
          obtain ⟨_, _, _, _, _, _, rfl⟩ := persist_commit_cases written
          exact .refl _
      | claimIgnored tx db needs written =>
          exact silent (fun _ => rfl) (claim_commit_deliveries written)
      | claimGranted tx db claimed written =>
          simp [System.grant, inProgress, written] at quiet
      | markSent tx db free written =>
          exact silent (fun _ => rfl) (mark_sent_deliveries written)
      | createDue tx db written =>
          apply silent (fun _ => rfl)
          rw [(create_due_checks_kept written).deliveries]
          exact .refl _
      | monitor tx db free written =>
          apply silent _ (monitor_commit_subsided written)
          intro key
          split <;> rfl
      | channel tx => exact silent (fun _ => rfl) (channel_commit_deliveries s.db tx)

end Steps

/-- A row that somebody works on has a lease, and no error of an earlier attempt. -/
structure OutboxRow.Held (row : OutboxRow) : Prop where
  leased : row.status = .enqueued ∨ row.status = .processing → row.leaseUntil.isSome = true
  silent : row.status = .processing → row.lastErrorSafe = none

theorem OutboxRow.Held.of_idle {row : OutboxRow}
    (idle : row.status.isTerminal = true ∨ row.status = .pending ∨ row.status = .retry) :
    row.Held := by
  cases status : row.status <;> simp [status, NotificationOutboxStatus.isTerminal] at idle <;>
    exact ⟨by simp [status], by simp [status]⟩

theorem OutboxRow.Held.of_terminal {row : OutboxRow} (terminal : row.status.isTerminal = true) :
    row.Held := .of_idle (Or.inl terminal)

theorem OutboxMove.held {s : System} {key : OutboxKey} {row next : OutboxRow} {a : Action}
    (move : OutboxMove s key row a next) (held : row.Held) : next.Held := by
  have byRuntime : ∀ now, (row.retiredByRuntime now).Held := by
    intro now
    apply OutboxRow.Held.of_terminal
    unfold OutboxRow.retiredByRuntime
    split
    · assumption
    · rfl
  cases move with
  | kept => exact held
  | dispatched d state decision =>
      cases decision with
      | disabled => exact .of_terminal rfl
      | wait => exact ⟨held.leased, held.silent⟩
      | undelivered retain => cases retain <;> exact .of_terminal rfl
      | dispatch => exact .of_idle (Or.inr (Or.inr rfl))
  | finished d state accepted =>
      cases accepted with
      | true => exact ⟨fun _ => rfl, by simp [OutboxRow.enqueuedBy]⟩
      | false => exact .of_idle (Or.inr (Or.inr rfl))
  | claimDisabled t tx =>
      apply OutboxRow.Held.of_terminal
      unfold OutboxRow.canceledByClaim
      split
      · assumption
      · rfl
  | claimExhausted => exact .of_terminal rfl
  | claimGranted => exact ⟨fun _ => rfl, fun _ => rfl⟩
  | undeliveredByClaim => exact .of_terminal rfl
  | undeliveredByFailure => exact .of_terminal rfl
  | reported =>
      split
      · exact .of_idle (Or.inr (Or.inr rfl))
      · exact .of_terminal rfl
  | sent t tx => exact .of_terminal (by rw [sent_write_status]; rfl)
  | reactivated => exact .of_idle (Or.inr (Or.inl rfl))
  | retiredByMonitor => exact byRuntime _
  | retiredByChannel => exact byRuntime _
  | resolved t tx =>
      unfold PersistTx.rowWrite
      simp only
      split <;> split
      · exact .of_terminal rfl
      · exact ⟨held.leased, held.silent⟩
      · exact .of_terminal rfl
      · exact held

theorem OutboxRow.Held.redispatchable {row : OutboxRow} (held : row.Held) :
    Redispatchable row := by
  refine ⟨held.leased, ?_⟩
  intro now open_ due expired
  have free : leaseFree now row.leaseUntil = true := by
    cases lease : row.leaseUntil with
    | none => rfl
    | some leaseUntil => exact decide_eq_true (expired leaseUntil lease)
  have lapsed : row.leaseUntil.isSome = true → leaseExpired now row.leaseUntil = true := by
    intro leased
    obtain ⟨leaseUntil, lease⟩ := Option.isSome_iff_exists.1 leased
    rw [lease]
    exact decide_eq_true (expired leaseUntil lease)
  cases status : row.status with
  | pending => simp [OutboxRow.availableForDispatch, status, due, free]
  | retry => simp [OutboxRow.availableForDispatch, status, due, free]
  | enqueued =>
      simp [OutboxRow.availableForDispatch, status, due, lapsed (held.leased (Or.inl status))]
  | processing =>
      simp [OutboxRow.availableForDispatch, status, due, lapsed (held.leased (Or.inr status))]
  | sent => simp [status, NotificationOutboxStatus.isTerminal] at open_
  | failed => simp [status, NotificationOutboxStatus.isTerminal] at open_
  | canceled => simp [status, NotificationOutboxStatus.isTerminal] at open_

theorem claim_ignored_outcome {db after : Database} {tx : ClaimTx} {row : OutboxRow}
    (written : claimCommit db tx = some (after, none)) (found : db.outbox.get tx.key = some row) :
    claimOutcome tx row (priorDownStatus db tx.key) ≠ .granted := by
  intro outcome
  simp [claimCommit, found, outcome, Option.bind_eq_some_iff] at written

theorem claim_granted_bound {tx : ClaimTx} {row : OutboxRow}
    {downStatus : Option NotificationOutboxStatus}
    (outcome : claimOutcome tx row downStatus = .granted) : row.attemptCount < row.maxAttempts := by
  unfold claimOutcome at outcome
  split at outcome
  · cases outcome
  · split at outcome
    · cases outcome
    · split at outcome
      · cases outcome
      · split at outcome
        · cases outcome
        · split at outcome
          · cases outcome
          · rename_i below
            exact Nat.lt_of_not_le below

theorem quiet_move {s after : System} {a : Action} (stepped : Stepped s a after)
    (quiet : s.grant a = none) {key : OutboxKey} {row next : OutboxRow}
    (found : s.db.outbox.get key = some row) (move : OutboxMove s key row a next) :
    next.attemptCount = row.attemptCount := by
  cases move with
  | kept => rfl
  | dispatched d state decision =>
      cases decision with
      | disabled => rfl
      | wait => rfl
      | undelivered retain => cases retain <;> rfl
      | dispatch => rfl
  | finished d state accepted => cases accepted <;> rfl
  | claimDisabled t tx =>
      unfold OutboxRow.canceledByClaim
      split <;> rfl
  | claimExhausted => rfl
  | claimGranted t tx inProgress target outcome =>
      exfalso
      obtain ⟨_, _, _, commit, _⟩ := commit_step_cases stepped inProgress
      cases commit with
      | claimIgnored _ _ _ written =>
          rw [target] at found
          exact claim_ignored_outcome written found outcome
      | claimGranted _ _ claimed written => simp [System.grant, inProgress, written] at quiet
  | undeliveredByClaim => rfl
  | undeliveredByFailure => rfl
  | reported => split <;> rfl
  | sent t tx =>
      unfold MarkSentTx.rowWrite
      split <;> rfl
  | reactivated => rfl
  | retiredByMonitor t tx =>
      unfold OutboxRow.retiredByRuntime
      split <;> rfl
  | retiredByChannel t tx =>
      unfold OutboxRow.retiredByRuntime
      split <;> rfl
  | resolved t tx =>
      unfold PersistTx.rowWrite
      simp only
      split <;> split <;> rfl

theorem new_row_unattempted {s : System} (invariant : OutboxInvariant s) {key : OutboxKey}
    {row : OutboxRow} {a : Action} (new : OutboxNew s key row a) :
    row.attemptCount = 0 ∧ row.status = .pending := by
  cases new with
  | created t tx inProgress finished member =>
      have view : OutboxView s.db.outbox tx := invariant.views t _ inProgress
      have fresh := view.creates key row member
      exact ⟨fresh.unattempted, fresh.pending⟩
  | late t tx down inProgress recovery =>
      have view : SentView s.db.outbox tx := invariant.views t _ inProgress
      obtain ⟨incident, resolvedAt, monitor, databaseTime, rfl⟩ := view.creates row recovery
      exact ⟨rfl, rfl⟩

/-- A row that does not exist has no attempts. -/
structure Unused (s : System) (key : OutboxKey) : Prop where
  deliveries : ∀ attempt, s.db.deliveries.get (key, attempt) = none
  calls : s.callsOf key = []

structure AttemptInvariant (s : System) : Prop where
  rows : ∀ key row, s.db.outbox.get key = some row → RowAttempts s key row ∧ row.Held
  unused : ∀ key, s.db.outbox.get key = none → Unused s key
  filed : ∀ attempt claimed, s.attempts.get attempt = some claimed →
    attempt = (claimed.key, claimed.deliveryAttempt)

theorem Subsided.isSome_eq {before after : Deliveries} (subsided : Subsided before after)
    (attempt : OutboxKey × Nat) : (after.get attempt).isSome = (before.get attempt).isSome := by
  cases stored : before.get attempt with
  | none => rw [subsided.absent attempt stored]
  | some delivery =>
      obtain ⟨next, found, _⟩ := subsided.stored attempt delivery stored
      rw [found]
      rfl

theorem Subsided.source {before after : Deliveries} (subsided : Subsided before after)
    {attempt : OutboxKey × Nat} {next : DeliveryRow} (found : after.get attempt = some next) :
    ∃ delivery, before.get attempt = some delivery ∧ next.messageId = delivery.messageId ∧
      (next.status = .attempting → delivery.status = .attempting) := by
  cases stored : before.get attempt with
  | none =>
      rw [subsided.absent attempt stored] at found
      cases found
  | some delivery =>
      obtain ⟨other, otherFound, same⟩ := subsided.stored attempt delivery stored
      rw [found, Option.some_inj] at otherFound
      subst otherFound
      exact ⟨delivery, rfl, same⟩

section Invariant

variable {s after : System} {a : Action} {key : OutboxKey} {row : OutboxRow}

theorem RowAttempts.quiet (attempts : RowAttempts s key row) (quiet : QuietStep s after)
    {next : OutboxRow} (same : next.SameEvent row) (count : next.attemptCount = row.attemptCount) :
    RowAttempts after key next := by
  constructor
  · intro attempt
    rw [quiet.deliveries.isSome_eq, count]
    exact attempts.numbered attempt
  · intro attempt delivery found
    obtain ⟨earlier, stored, message, _⟩ := quiet.deliveries.source found
    rw [message, same.messageId]
    exact attempts.message attempt earlier stored
  · intro attempt delivery found open_
    obtain ⟨earlier, stored, _, opened⟩ := quiet.deliveries.source found
    rw [count]
    exact attempts.latest attempt earlier stored (opened open_)
  · rw [count, same.maxAttempts]
    exact attempts.bounded
  · rw [quiet.calls, count]
    exact attempts.calls

theorem GrantStep.other {tx : ClaimTx} {claimed : OutboxRow} (step : GrantStep s after tx claimed)
    (other : key ≠ tx.key) :
    after.db.outbox.get key = s.db.outbox.get key ∧
      (∀ attempt, after.db.deliveries.get (key, attempt) = s.db.deliveries.get (key, attempt)) ∧
      after.callsOf key = s.callsOf key := by
  refine ⟨?_, ?_, ?_⟩
  · rw [step.outbox, Table.get_update_key_other _ _ other]
  · intro attempt
    have different : (key, attempt) ≠ (tx.key, claimed.attemptCount + 1) := by
      intro same
      exact other (congrArg Prod.fst same)
    rw [step.deliveries, Table.get_put, if_neg different]
    simp [abandonAttempts, other]
  · have silent : Event.attemptOf key (.granted tx.key (claimed.attemptCount + 1)) = none :=
      if_neg other.symm
    simp [System.callsOf, step.history, List.filterMap_append, silent]

theorem RowAttempts.granted {tx : ClaimTx} (step : GrantStep s after tx row)
    (attempts : RowAttempts s tx.key row) : RowAttempts after tx.key (row.claimedFor tx) := by
  have subsided := abandon_attempts_subsided s.db.deliveries tx.key tx.now
  have numbered : ∀ attempt, ((abandonAttempts s.db.deliveries tx.key tx.now).get
      (tx.key, attempt)).isSome = true ↔ 1 ≤ attempt ∧ attempt ≤ row.attemptCount := by
    intro attempt
    rw [subsided.isSome_eq]
    exact attempts.numbered attempt
  have stored : ∀ attempt delivery,
      after.db.deliveries.get (tx.key, attempt) = some delivery →
      attempt = row.attemptCount + 1 ∧ delivery = newDeliveryRow row tx.now ∨
        (abandonAttempts s.db.deliveries tx.key tx.now).get (tx.key, attempt) = some delivery := by
    intro attempt delivery found
    rw [step.deliveries, Table.get_put] at found
    split at found
    · rename_i same
      cases found
      exact Or.inl ⟨congrArg Prod.snd same, rfl⟩
    · exact Or.inr found
  constructor
  · intro attempt
    rw [step.deliveries, Table.get_put]
    change _ ↔ 1 ≤ attempt ∧ attempt ≤ row.attemptCount + 1
    by_cases newest : attempt = row.attemptCount + 1
    · simp [newest]
    · have other : (tx.key, attempt) ≠ (tx.key, row.attemptCount + 1) := by
        intro same
        exact newest (congrArg Prod.snd same)
      rw [if_neg other, numbered]
      omega
  · intro attempt delivery found
    rcases stored attempt delivery found with ⟨_, rfl⟩ | earlier
    · rfl
    · obtain ⟨before, beforeFound, message, _⟩ := subsided.source earlier
      rw [message]
      exact attempts.message attempt before beforeFound
  · intro attempt delivery found open_
    rcases stored attempt delivery found with ⟨newest, _⟩ | earlier
    · exact newest
    · -- the claim has given up every open attempt of the row
      exfalso
      simp only [abandonAttempts, Table.get_update_where, Option.map_eq_some_iff] at earlier
      obtain ⟨before, _, changed⟩ := earlier
      split at changed
      · subst changed
        cases open_
      · rename_i closed
        subst changed
        simp [open_] at closed
  · exact claim_granted_bound step.outcome
  · have called : Event.attemptOf tx.key (.granted tx.key (row.attemptCount + 1)) =
        some (row.attemptCount + 1) := if_pos rfl
    have before : s.history.filterMap (Event.attemptOf tx.key) =
        List.range' 1 row.attemptCount := attempts.calls
    rw [System.callsOf, step.history, List.filterMap_append, before]
    change _ = List.range' 1 (row.attemptCount + 1)
    rw [List.range'_1_concat]
    simp [called, Nat.add_comm]

theorem RowAttempts.of_unused (unused : Unused s key) (unattempted : row.attemptCount = 0) :
    RowAttempts s key row := by
  constructor
  · intro attempt
    rw [unused.deliveries, unattempted]
    simp
    omega
  · intro attempt delivery found
    rw [unused.deliveries] at found
    cases found
  · intro attempt delivery found
    rw [unused.deliveries] at found
    cases found
  · rw [unattempted]
    exact Nat.zero_le _
  · rw [unused.calls, unattempted]
    rfl

theorem RowAttempts.of_same (attempts : RowAttempts s key row)
    (deliveries : ∀ attempt,
      after.db.deliveries.get (key, attempt) = s.db.deliveries.get (key, attempt))
    (calls : after.callsOf key = s.callsOf key) : RowAttempts after key row := by
  constructor
  · intro attempt
    rw [deliveries]
    exact attempts.numbered attempt
  · intro attempt delivery found
    rw [deliveries] at found
    exact attempts.message attempt delivery found
  · intro attempt delivery found
    rw [deliveries] at found
    exact attempts.latest attempt delivery found
  · exact attempts.bounded
  · rw [calls]
    exact attempts.calls

/-- What a step does to the attempts of a row that does not exist yet. -/
theorem unused_step (stepped : Stepped s a after) (absent : s.db.outbox.get key = none)
    (unused : Unused s key) : Unused after key := by
  cases granted : s.grant a with
  | none =>
      have quiet := quiet_step stepped granted
      constructor
      · intro attempt
        exact quiet.deliveries.absent _ (unused.deliveries attempt)
      · rw [quiet.calls]
        exact unused.calls
  | some claimed =>
      obtain ⟨t, tx, row, _, _, _, step⟩ := grant_step stepped granted
      have other : key ≠ tx.key := by
        intro same
        rw [same, step.found] at absent
        cases absent
      obtain ⟨_, deliveries, calls⟩ := step.other other
      constructor
      · intro attempt
        rw [deliveries]
        exact unused.deliveries attempt
      · rw [calls]
        exact unused.calls

theorem attempts_row_step (invariant : OutboxInvariant s) (stepped : Stepped s a after)
    (attempts : RowAttempts s key row) (found : s.db.outbox.get key = some row) {next : OutboxRow}
    (stored : after.db.outbox.get key = some next) : RowAttempts after key next := by
  cases granted : s.grant a with
  | none =>
      obtain ⟨other, otherStored, move, _⟩ := step_outbox_row invariant.sequenced stepped found
      rw [stored, Option.some_inj] at otherStored
      subst otherStored
      exact attempts.quiet (quiet_step stepped granted) move.same_event
        (quiet_move stepped granted found move)
  | some claimed =>
      obtain ⟨t, tx, current, _, _, _, step⟩ := grant_step stepped granted
      by_cases own : key = tx.key
      · subst own
        rw [step.found, Option.some_inj] at found
        subst found
        rw [step.outbox, Table.get_update_key_self, step.found] at stored
        cases stored
        exact RowAttempts.granted step attempts
      · obtain ⟨outbox, deliveries, calls⟩ := step.other own
        rw [outbox, found, Option.some_inj] at stored
        subst stored
        exact attempts.of_same deliveries calls

theorem attempt_invariant_step (invariant : OutboxInvariant s) (ledger : AttemptInvariant s)
    (stepped : Stepped s a after) : AttemptInvariant after := by
  constructor
  · intro key next stored
    cases before : s.db.outbox.get key with
    | none =>
        have unused := unused_step stepped before (ledger.unused key before)
        obtain ⟨unattempted, pending⟩ :=
          new_row_unattempted invariant (step_outbox_new stepped before stored)
        exact ⟨.of_unused unused unattempted, .of_idle (Or.inr (Or.inl pending))⟩
    | some row =>
        obtain ⟨attempts, held⟩ := ledger.rows key row before
        obtain ⟨other, otherStored, move, _⟩ := step_outbox_row invariant.sequenced stepped before
        rw [stored, Option.some_inj] at otherStored
        subst otherStored
        exact ⟨attempts_row_step invariant stepped attempts before stored, move.held held⟩
  · intro key absent
    cases before : s.db.outbox.get key with
    | none => exact unused_step stepped before (ledger.unused key before)
    | some row =>
        obtain ⟨next, stored, _⟩ := step_outbox_row invariant.sequenced stepped before
        rw [absent] at stored
        cases stored
  · intro attempt claimed remembered
    rcases step_attempt_source stepped remembered with before | ⟨_, _, _, _, _, filed⟩
    · exact ledger.filed attempt claimed before
    · exact filed

end Invariant

theorem attempt_invariant_reachable {s : System} (reachable : Reachable s) :
    AttemptInvariant s := by
  apply reachable.invariant_with OutboxInvariant AttemptInvariant
  · intro state holds
    exact outbox_invariant_reachable holds
  · constructor
    · intro key row found
      cases found
    · intro key absent
      exact ⟨fun _ => rfl, rfl⟩
    · intro attempt claimed found
      cases found
  · intro state label after invariant ledger taken
    exact attempt_invariant_step invariant ledger (step_cases taken)

end LinkAlive
