import LinkAlive.Ledger.Incidents
import LinkAlive.Outbox.Retirement

/-!
# No lost recovery

The resolution, the dispatcher and a late `markSent` each decide from a status of the DOWN
row or of its recovery that they have read before. The recovery of a delivered DOWN is lost
when the status has changed in between, and only then.
-/

namespace LinkAlive

open Relational Transition

set_option autoImplicit false

def downOf (incidentId : IncidentId) (channelId : ChannelId) : OutboxKey where
  incidentId := incidentId
  channelId := channelId
  sequence := notificationSequence .down

section Kinds

variable (down : OutboxKey) (s : System)

def downSent : Bool := (s.db.outbox.get down).any fun row => row.status = .sent

/-- A resolution commits without a row for the DOWN, which it has read as undelivered and
which is SENT by now. -/
def resolvesPastDelivery : Action → Bool
  | .commit t =>
      match s.txs.get t with
      | some (.persist tx) =>
          match tx.incident with
          | .resolve incidentId _ =>
              incidentId = down.incidentId && downSent down s &&
                !tx.outbox.creates.any fun entry => entry.1 = down.followUp
          | _ => false
      | _ => false
  | _ => false

/-- A dispatcher cancels the recovery for a DOWN that it has read as undelivered and that is
SENT by now. -/
def cancelsPastDelivery : Action → Bool
  | .dispatchCandidate d =>
      (s.dispatchers.get d).any fun state =>
        (state.decision = some (.undelivered true) || state.decision = some (.undelivered false)) &&
          state.key = down.followUp && downSent down s &&
          (s.db.outbox.get down.followUp).any fun row => row.availableForDispatch state.now
  | _ => false

/-- A confirmed attempt of the DOWN commits without a recovery, which it has read as alive
and which is canceled by now. -/
def confirmsPastCancel : Action → Bool
  | .commit t =>
      match s.txs.get t with
      | some (.markSent tx) =>
          match tx.recovery with
          | .none =>
              tx.claimed.key = down &&
                ((s.db.outbox.get down).any fun row => row.status ≠ .canceled) &&
                (s.db.outbox.get down.followUp).any fun row => row.canceledUndelivered
          | _ => false
      | _ => false
  | _ => false

def losesRecovery (a : Action) : Bool :=
  resolvesPastDelivery down s a || cancelsPastDelivery down s a || confirmsPastCancel down s a

def cancelsRuntimeOf (incidentId : IncidentId) : Action → Bool
  | .commit t =>
      match s.txs.get t with
      | some (.monitor tx) =>
          tx.change.cancels.isSome && incidentsOf s.db.incidents tx.id incidentId
      | _ => false
  | _ => false

/-- From its DOWN row on, the channel is enabled and bound for recoveries, and the payload
allows one. -/
def RecoveryWanted : Prop :=
  ∀ row, s.db.outbox.get down = some row →
    channelLive s.db down.channelId = true ∧
      boundForRecovery s.db row.monitorId down.channelId = true ∧
      payloadAllowsRecovery row.payloadSafe = true

instance : Decidable (RecoveryWanted down s) :=
  decidable_of_iff ((s.db.outbox.get down).all fun row =>
      channelLive s.db down.channelId && boundForRecovery s.db row.monitorId down.channelId &&
        payloadAllowsRecovery row.payloadSafe) (by
    simp only [RecoveryWanted, Option.all_eq_true, Bool.and_eq_true, and_assoc])

/-- The channel does not want the recovery or the monitor stops running. -/
def leavesIncident (a : Action) : Bool :=
  !decide (RecoveryWanted down s) || cancelsRuntimeOf s down.incidentId a

end Kinds

section Sources

variable {s : System} {key : OutboxKey} {row next : OutboxRow} {a : Action}

theorem sent_row_source (move : OutboxMove s key row a next) (sent : next.status = .sent) :
    row.status = .sent ∨ ∃ t tx, a = .commit t ∧ s.txs.get t = some (.markSent tx) ∧
      key = tx.claimed.key ∧ row.status ≠ .canceled := by
  cases move with
  | kept => exact Or.inl sent
  | dispatched d state decision remembered target decided available =>
      cases decision with
      | disabled => cases sent
      | wait => exact Or.inl sent
      | undelivered retain => cases retain <;> cases sent
      | dispatch => cases sent
  | finished d state accepted => cases accepted <;> cases sent
  | claimDisabled t tx =>
      unfold OutboxRow.canceledByClaim at sent
      split at sent
      · exact Or.inl sent
      · cases sent
  | claimExhausted => cases sent
  | claimGranted => cases sent
  | undeliveredByClaim => cases sent
  | undeliveredByFailure => cases sent
  | reported => split at sent <;> cases sent
  | sent t tx inProgress target notCanceled =>
      exact Or.inr ⟨t, tx, rfl, inProgress, target, notCanceled⟩
  | reactivated => cases sent
  | retiredByMonitor t tx =>
      unfold OutboxRow.retiredByRuntime at sent
      split at sent
      · exact Or.inl sent
      · cases sent
  | retiredByChannel t tx =>
      unfold OutboxRow.retiredByRuntime at sent
      split at sent
      · exact Or.inl sent
      · cases sent
  | resolved t tx =>
      unfold PersistTx.rowWrite at sent
      simp only at sent
      split at sent <;> split at sent
      · cases sent
      · exact Or.inl sent
      · cases sent
      · exact Or.inl sent

/-- How a row comes to be canceled because its DOWN was not delivered. -/
inductive UndeliveredSource (s : System) (key : OutboxKey) (row : OutboxRow) : Action → Prop
  | before (a : Action) : row.canceledUndelivered = true → UndeliveredSource s key row a
  | dispatcher (d : DispatcherId) (state : DispatchState) (retain : Bool) :
      s.dispatchers.get d = some state → key = state.key →
      state.decision = some (.undelivered retain) →
      row.availableForDispatch state.now = true →
        UndeliveredSource s key row (.dispatchCandidate d)
  | claim (t : TxId) (tx : ClaimTx) (down : OutboxRow) : s.txs.get t = some (.claim tx) →
      key = tx.key.followUp → s.db.outbox.get tx.key = some down → down.eventType = .down →
      down.status.isTerminal = false → UndeliveredSource s key row (.commit t)
  | failure (attempt : OutboxKey × Nat) (claimed : ClaimedNotification) (down : OutboxRow)
      (error : NotificationProviderError) (now : Time) (retryDelayMs : Nat) :
      s.attempts.get attempt = some claimed → key = claimed.key.followUp →
      s.db.outbox.get claimed.key = some down → claimed.row.eventType = .down →
      down.status.isTerminal = false →
        UndeliveredSource s key row (.markFailed attempt error now retryDelayMs)
  | monitor (t : TxId) (tx : MonitorTx) : s.txs.get t = some (.monitor tx) →
      tx.change.cancels.isSome = true → row.monitorId = tx.id →
        UndeliveredSource s key row (.commit t)
  | channel (t : TxId) (tx : ChannelTx) : s.txs.get t = some (.channel tx) →
      tx.change.retires.isSome = true → key.channelId = tx.id →
        UndeliveredSource s key row (.commit t)
  | resolution (t : TxId) (tx : PersistTx) : s.txs.get t = some (.persist tx) →
      key ∈ tx.outbox.cancels → UndeliveredSource s key row (.commit t)

/-- The report of a failure that cancels the recovery is about an attempt in progress. -/
theorem fails_down_cases {db : Database} {claimed : ClaimedNotification}
    {error : NotificationProviderError} (fails : failsDown db claimed error = true) :
    ∃ down, db.outbox.get claimed.key = some down ∧ claimed.row.eventType = .down ∧
      down.status.isTerminal = false := by
  simp only [failsDown, Bool.and_eq_true, Option.any_eq_true, decide_eq_true_eq] at fails
  obtain ⟨⟨⟨down, found, shown⟩, _⟩, event⟩ := fails
  simp only [OutboxRow.shows, Bool.and_eq_true, decide_eq_true_eq] at shown
  refine ⟨down, found, event, ?_⟩
  rw [shown.1]
  rfl

theorem undelivered_row_source (move : OutboxMove s key row a next)
    (undelivered : next.canceledUndelivered = true) : UndeliveredSource s key row a := by
  obtain ⟨canceled, reason⟩ := undelivered_status undelivered
  cases move with
  | kept => exact .before a undelivered
  | dispatched d state decision remembered target decided available =>
      cases decision with
      | disabled =>
          simp [OutboxRow.dispatched, OutboxRow.canceledByDispatcher, OutboxRow.retired,
            downNotDeliveredRecoveryCancelReason] at reason
      | wait => exact .before _ undelivered
      | undelivered retain => exact .dispatcher d state retain remembered target decided available
      | dispatch => cases canceled
  | finished d state accepted => cases accepted <;> cases canceled
  | claimDisabled t tx =>
      unfold OutboxRow.canceledByClaim at undelivered reason
      split at undelivered
      · exact .before _ undelivered
      · rename_i active
        simp [active, downNotDeliveredRecoveryCancelReason] at reason
  | claimExhausted => cases canceled
  | claimGranted => cases canceled
  | undeliveredByClaim t tx down inProgress target found outcome event =>
      exact .claim t tx down inProgress target found event
        (claim_outcome_not_terminal (Or.inl outcome))
  | undeliveredByFailure attempt claimed error now delay remembered target fails =>
      obtain ⟨down, found, event, active⟩ := fails_down_cases fails
      exact .failure attempt claimed down error now delay remembered target found event active
  | reported => split at canceled <;> cases canceled
  | sent t tx =>
      rw [sent_write_status] at canceled
      cases canceled
  | reactivated => cases canceled
  | retiredByMonitor t tx inProgress cancels owned => exact .monitor t tx inProgress cancels owned
  | retiredByChannel t tx inProgress retires owned => exact .channel t tx inProgress retires owned
  | resolved t tx inProgress =>
      by_cases written : key ∈ tx.outbox.cancels
      · exact .resolution t tx inProgress written
      · apply UndeliveredSource.before
        unfold PersistTx.rowWrite at undelivered
        simp only [if_neg written] at undelivered
        split at undelivered
        · exact undelivered
        · exact undelivered

end Sources

theorem step_incident_resolved {s after : System} {a : Action} (ledger : LedgerInvariant s)
    (stepped : Stepped s a after) {id : IncidentId} {next : IncidentRow}
    (found : after.db.incidents.get id = some next) (resolved : next.status = .resolved) :
    s.db.incidents.get id = some next ∨ ∃ t tx time, a = .commit t ∧
      s.txs.get t = some (.persist tx) ∧ tx.incident = .resolve id time ∧
        next.resolvedAt = some time := by
  cases step_incident_row ledger stepped found with
  | kept before => exact Or.inl before
  | created t tx _ inProgress write =>
      have view := ledger.views t _ inProgress
      cases (view.2.1.created write).2.symm.trans resolved
  | touched t tx row error _ _ _ _ _ isOpen same =>
      have status : next.status = row.status := by rw [same]
      cases isOpen.symm.trans (status.symm.trans resolved)
  | resolved t tx row time committed inProgress write _ _ _ same =>
      exact Or.inr ⟨t, tx, time, committed, inProgress, write, by rw [same]; rfl⟩
  | canceled t tx row reason attempts _ _ _ _ _ _ same =>
      rw [same] at resolved
      cases resolved

theorem resolved_at_reachable {s : System} (reachable : Reachable s) {id : IncidentId}
    {incident : IncidentRow} (found : s.db.incidents.get id = some incident)
    (resolved : incident.status = .resolved) : incident.resolvedAt.isSome = true := by
  have all : ∀ id incident, s.db.incidents.get id = some incident → incident.status = .resolved →
      incident.resolvedAt.isSome = true := by
    apply reachable.invariant_with LedgerInvariant (fun state => ∀ id incident,
      state.db.incidents.get id = some incident → incident.status = .resolved →
        incident.resolvedAt.isSome = true)
    · intro state holds
      exact ledger_invariant_reachable holds
    · intro id incident found
      cases found
    · intro state a after ledger before taken id incident found resolved
      rcases step_incident_resolved ledger (step_cases taken) found resolved with old |
        ⟨_, _, time, _, _, _, set⟩
      · exact before id incident old resolved
      · rw [set]
        rfl
  exact all id incident found resolved

/-- A planned skip of an event whose payload allows recovery is about an undelivered DOWN. -/
def SkipView (tx : PersistTx) : Prop :=
  ∀ resolution key down rest decision, tx.stage = .resolving resolution →
    resolution.todo = (key, down) :: rest → resolution.phase = .planned decision →
      decision.plan = .skip → payloadAllowsRecovery down.payloadSafe = true →
        decision.currentDownStatus = .failed ∨ decision.currentDownStatus = .canceled

theorem skip_view_phase {next : PersistTx} {resolution : Resolution} {phase : ResolvePhase}
    (moved : next.stage = resolution.at phase)
    (skips : ∀ key down rest decision, resolution.todo = (key, down) :: rest →
      phase = .planned decision → decision.plan = .skip →
        payloadAllowsRecovery down.payloadSafe = true →
          decision.currentDownStatus = .failed ∨ decision.currentDownStatus = .canceled) :
    SkipView next := by
  intro other key down rest decision stored
  rw [moved] at stored
  cases stored
  exact skips key down rest decision

theorem resolve_step_skip_view {db : Database} {tx next : PersistTx}
    {rowFree : OutboxKey → Bool} (resolved : resolveStep db tx rowFree = some next) :
    SkipView next := by
  obtain ⟨resolution, stage, move⟩ := resolve_step_cases resolved
  cases move with
  | finished =>
      intro other key down rest decision stored
      cases stored
  | excluded key down rest todo phase excluded =>
      apply skip_view_phase rfl
      intro otherKey otherDown otherRest decision otherTodo _ _ allows
      rw [todo] at otherTodo
      cases otherTodo
      rw [excluded] at allows
      cases allows
  | planned key down rest plan todo phase allows computed different =>
      apply skip_view_phase rfl
      intro otherKey otherDown otherRest decision otherTodo same skip _
      cases same
      simp only at skip
      rw [skip] at computed
      exact plan_skips computed
  | canceled key down row rest todo phase allows computed free found replaceable =>
      apply skip_view_phase rfl
      intro otherKey otherDown otherRest decision otherTodo same _ _
      cases same
      exact Or.inr rfl
  | missed key down rest todo phase allows computed =>
      apply skip_view_phase rfl
      intro otherKey otherDown otherRest decision otherTodo same
      cases same
  | reread key down current rest plan todo phase found computed =>
      apply skip_view_phase rfl
      intro otherKey otherDown otherRest decision otherTodo same skip _
      cases same
      simp only at skip
      rw [skip] at computed
      exact plan_skips computed
  | written key down rest decision todo phase free =>
      intro other otherKey otherDown otherRest otherDecision stored _ planned
      cases stored
      cases planned

/-- The DOWN row is still to be handled by the resolution, or it has been followed by a row
or retired. -/
def Handles (down : OutboxKey) (tx : PersistTx) : Prop :=
  (∃ resolution read, tx.stage = .resolving resolution ∧ (down, read) ∈ resolution.todo) ∨
    (∃ row, (down.followUp, row) ∈ tx.outbox.creates) ∨ down ∈ tx.outbox.redacts

structure RecoveryInvariant (down : OutboxKey) (s : System) : Prop where
  kept : ∀ incident row, s.db.incidents.get down.incidentId = some incident →
    incident.status = .resolved → s.db.outbox.get down = some row → row.status = .sent →
      ∃ recovery, s.db.outbox.get down.followUp = some recovery ∧
        recovery.canceledUndelivered = false
  confirmations : ∀ t tx incident, s.txs.get t = some (.markSent tx) → tx.claimed.key = down →
    tx.recovery = .none → s.db.incidents.get down.incidentId = some incident →
      incident.status = .resolved → ∃ recovery, s.db.outbox.get down.followUp = some recovery
  resolutions : ∀ t tx time row, s.txs.get t = some (.persist tx) →
    tx.incident = .resolve down.incidentId time → s.db.outbox.get down = some row → Handles down tx
  skips : ∀ t tx, s.txs.get t = some (.persist tx) → SkipView tx

section Handled

variable {db : Database} {tx next : PersistTx} {down : OutboxKey}

theorem apply_effect_handles {row : OutboxRow} (idle : tx.incident = .none)
    (found : db.outbox.get down = some row) (event : row.eventType = .down)
    (live : channelLive db down.channelId = true)
    (bound : boundForRecovery db tx.monitorId down.channelId = true)
    (newIncidentId : IncidentId) {time : Time}
    (resolves : (applyIncidentEffect db tx newIncidentId).incident =
      .resolve down.incidentId time) :
    Handles down (applyIncidentEffect db tx newIncidentId) := by
  have silent : tx.incident ≠ .resolve down.incidentId time := by
    rw [idle]
    simp
  unfold applyIncidentEffect at resolves ⊢
  cases effect : tx.incidentEffect with
  | resolve resolvedAt reason =>
      simp only [effect] at resolves ⊢
      cases opened : openIncident db tx.monitorId with
      | none =>
          simp only [opened] at resolves
          exact absurd resolves silent
      | some entry =>
          obtain ⟨id, incident⟩ := entry
          simp only [opened] at resolves ⊢
          cases resolves
          exact Or.inl ⟨_, row, rfl, mem_recovery_down_events.2 ⟨found, rfl, event, live, bound⟩⟩
  | none =>
      simp only [effect] at resolves
      exact absurd resolves silent
  | opened =>
      simp only [effect] at resolves
      split at resolves <;> cases resolves
  | update =>
      simp only [effect] at resolves
      split at resolves
      · cases resolves
      · exact absurd resolves silent
  | cancel =>
      simp only [effect] at resolves
      exact absurd resolves silent

theorem apply_effect_first (newIncidentId : IncidentId) {resolution : Resolution}
    (stage : (applyIncidentEffect db tx newIncidentId).stage = .resolving resolution) :
    resolution.phase = .first := by
  unfold applyIncidentEffect at stage
  split at stage
  · cases stage
  · split at stage <;> cases stage
  · split at stage <;> cases stage
  · split at stage
    · cases stage
      rfl
    · cases stage
  · cases stage

theorem recovery_row_key {resolution : Resolution} {key : OutboxKey} {read : OutboxRow}
    {plan : RecoveryNotificationPlan} (incident : key.incidentId = resolution.incidentId) :
    (recoveryRow tx resolution.incidentId resolution.incident key read plan.eventType).1 =
      key.followUp := by
  rw [← incident]
  cases plan <;> rfl

theorem skipped_not_retained {decision : RecoveryDecision} {read : OutboxRow}
    {incidentStatus : IncidentStatus} (event : read.eventType = .down)
    (undelivered : decision.currentDownStatus = .failed ∨ decision.currentDownStatus = .canceled) :
    decision.retains read incidentStatus = false := by
  rcases undelivered with status | status <;>
    simp [RecoveryDecision.retains, shouldRetainNotificationSecret, status, event,
      NotificationOutboxStatus.isTerminal]

theorem resolve_step_handles {rowFree : OutboxKey → Bool} (outbox : OutboxView db.outbox tx)
    (skips : SkipView tx) {row : OutboxRow} (found : db.outbox.get down = some row)
    (allows : payloadAllowsRecovery row.payloadSafe = true) (handles : Handles down tx)
    (resolved : resolveStep db tx rowFree = some next) : Handles down next := by
  obtain ⟨resolution, stage, move⟩ := resolve_step_cases resolved
  have phased : ∀ phase, (∃ other read, tx.stage = .resolving other ∧ (down, read) ∈ other.todo) →
      ∃ other read, resolution.at phase = .resolving other ∧ (down, read) ∈ other.todo := by
    intro phase todo
    obtain ⟨other, read, stored, member⟩ := todo
    rw [stage] at stored
    cases stored
    exact ⟨_, read, rfl, member⟩
  cases move with
  | finished empty =>
      rcases handles with ⟨other, read, stored, member⟩ | written
      · rw [stage] at stored
        cases stored
        rw [empty] at member
        cases member
      · exact Or.inr written
  | excluded => exact handles.imp (phased _) id
  | planned => exact handles.imp (phased _) id
  | missed => exact handles.imp (phased _) id
  | reread => exact handles.imp (phased _) id
  | canceled => exact handles.imp (phased _) id
  | written key read rest decision todo phase free =>
      obtain ⟨incident, event, other, otherFound, same, _⟩ :=
        (outbox.todo resolution stage).rows key read (by rw [todo]; exact List.mem_cons_self)
      unfold Handles finishDown
      simp only
      rcases handles with ⟨pending, downRead, stored, member⟩ | ⟨new, created⟩ | redacted
      · rw [stage] at stored
        cases stored
        rw [todo] at member
        rcases List.mem_cons.1 member with head | later
        · cases head
          rw [found, Option.some_inj] at otherFound
          subst otherFound
          by_cases skip : decision.plan = .skip
          · right
            right
            rw [same.payloadSafe] at allows
            have undelivered := skips resolution down read rest decision stage todo phase skip allows
            rw [skipped_not_retained event undelivered, if_neg (by simp)]
            exact List.mem_append_right _ List.mem_cons_self
          · right
            left
            rw [if_neg skip]
            exact ⟨_, List.mem_append_right _ (List.mem_singleton.2
              (Prod.ext (recovery_row_key incident).symm rfl))⟩
        · exact Or.inl ⟨_, downRead, rfl, later⟩
      · right
        left
        split
        · exact ⟨new, created⟩
        · exact ⟨new, List.mem_append_left _ created⟩
      · right
        right
        split
        · exact redacted
        · exact List.mem_append_left _ redacted

end Handled

theorem down_sequence_event {key : OutboxKey} {row : OutboxRow} (fits : row.Fits key)
    (sequence : key.sequence = notificationSequence .down) : row.eventType = .down := by
  obtain ⟨event, same⟩ := fits
  exact @down_key_event key row ⟨event, by rw [← same]; exact sequence.symm⟩

theorem follow_up_sequence {key other : OutboxKey} (same : key = other.followUp) :
    key.sequence ≠ notificationSequence .down := by
  rw [same]
  simp [OutboxKey.followUp, notificationSequence]

theorem persist_created_row {db after : Database} {tx : PersistTx}
    (written : persistCommit db tx = some after) {key : OutboxKey} {row : OutboxRow}
    (member : (key, row) ∈ tx.outbox.creates) : after.outbox.get key = some row := by
  obtain ⟨_, _, outbox, _, _, inserted, rfl⟩ := persist_commit_cases written
  exact (Table.insert_all_stores inserted member).2

theorem retired_channel_not_live {db : Database} {tx : ChannelTx}
    (retires : tx.change.retires.isSome = true) :
    channelLive (channelCommit db tx) tx.id = false := by
  unfold channelLive channelCommit
  simp only [Table.get_update_key_self]
  cases found : db.channels.get tx.id with
  | none => rfl
  | some row =>
      simp only [Option.map_some, ChannelTx.channelWrite]
      cases change : tx.change with
      | remove attempts => simp [ChannelRow.isLive, ChannelRow.removed]
      | update patch attempts =>
          have disables : patch.enabled = some false := by
            rw [change] at retires
            unfold ChannelChange.retires at retires
            simp only at retires
            split at retires
            · rename_i off
              exact of_decide_eq_true off
            · cases retires
          simp only [ChannelRow.isLive, ChannelRow.patched, disables]
          split
          · rfl
          · split <;> rfl

section Steps

variable {s after : System} {a : Action} {down : OutboxKey}

/-- A resolution in progress keeps other transactions from opening its incident again. -/
theorem resolved_down_present (ledger : LedgerInvariant s) (invariant : OutboxInvariant s)
    (stepped : Stepped s a after) (sequence : down.sequence = notificationSequence .down)
    {t : TxId} {tx : PersistTx} {time : Time} (inProgress : s.txs.get t = some (.persist tx))
    (resolves : tx.incident = .resolve down.incidentId time)
    (stays : (after.txs.get t).isSome = true) {row : OutboxRow}
    (found : after.db.outbox.get down = some row) : ∃ old, s.db.outbox.get down = some old := by
  cases before : s.db.outbox.get down with
  | some old => exact ⟨old, rfl⟩
  | none =>
      exfalso
      obtain ⟨incident, incidentFound, owner, _⟩ :=
        (ledger.views t _ inProgress).2.1.target (Or.inr ⟨time, resolves⟩)
      cases step_outbox_new stepped before found with
      | late u ux other confirming create follow => exact follow_up_sequence follow sequence
      | created u ux committing finished member =>
          have view : OutboxView s.db.outbox ux := invariant.views u _ committing
          rcases (view.creates down row member).target with ⟨new, create⟩ | ⟨otherTime, resolve⟩
          · obtain ⟨_, written⟩ := persist_committed stepped committing
            obtain ⟨_, incidents, _, _, applied, _, _⟩ := persist_commit_cases written
            rw [create, IncidentWrite.apply, Table.insert_new_eq_some, incidentFound] at applied
            cases applied.1
          · obtain ⟨other, otherFound, otherOwner, _⟩ :=
              (ledger.views u _ committing).2.1.target (Or.inr ⟨otherTime, resolve⟩)
            rw [incidentFound, Option.some_inj] at otherFound
            rw [← otherFound, owner] at otherOwner
            have same := ledger.exclusive tx.monitorId t u _ _ inProgress committing
              (by simp [Transaction.locksMonitor]) (by simp [Transaction.locksMonitor, otherOwner])
            rw [same, commit_ends stepped committing] at stays
            cases stays

theorem recovery_resolutions_step (ledger : LedgerInvariant s) (ledgerAfter : LedgerInvariant after)
    (invariant : OutboxInvariant s) (recovery : RecoveryInvariant down s)
    (sequence : down.sequence = notificationSequence .down) (wanted : RecoveryWanted down s)
    (stepped : Stepped s a after) {t : TxId} {tx : PersistTx} {time : Time} {row : OutboxRow}
    (inProgress : after.txs.get t = some (.persist tx))
    (resolves : tx.incident = .resolve down.incidentId time)
    (found : after.db.outbox.get down = some row) : Handles down tx := by
  have kept : s.txs.get t = some (.persist tx) → Handles down tx := by
    intro before
    obtain ⟨old, stored⟩ := resolved_down_present ledger invariant stepped sequence before resolves
      (Option.isSome_of_mem inProgress) found
    exact recovery.resolutions t tx time old before resolves stored
  have view := (ledgerAfter.views t _ inProgress).2.1
  cases step_tx_source stepped inProgress with
  | stayed before => exact kept before
  | begun jobs attempts unused begun same =>
      cases begun with
      | persist job id check original config result databaseTime tx running started free =>
          rw [(persist_begin_fresh started).2.1] at resolves
          cases resolves
  | advanced ux next own before advance same =>
      cases own
      rw [same] at found
      cases advance with
      | effect newIncidentId begun =>
          obtain ⟨incident, incidentFound, owner, _⟩ := view.target (Or.inr ⟨time, resolves⟩)
          obtain ⟨other, otherFound, owned⟩ := invariant.owned down row found
          rw [same, otherFound, Option.some_inj] at incidentFound
          rw [incidentFound, owner] at owned
          obtain ⟨live, bound, _⟩ := wanted row found
          rw [← owned] at bound
          have monitor : (applyIncidentEffect s.db ux newIncidentId).monitorId = ux.monitorId := by
            unfold PersistTx.monitorId
            rw [(apply_effect_kept newIncidentId).2.2.1]
          rw [monitor] at bound
          exact apply_effect_handles ((ledger.views t _ before).2.2 begun).1 found
            (down_sequence_event (invariant.fits down row found) sequence) live bound
            newIncidentId resolves
      | resolve _ resolved =>
          have incident := (resolve_step_kept resolved).2.2.2.2.2.2
          rw [incident] at resolves
          have outbox : OutboxView s.db.outbox ux := invariant.views t _ before
          exact resolve_step_handles outbox (recovery.skips t ux before) found
            (wanted row found).2.2 (recovery.resolutions t ux time row before resolves found)
            resolved

theorem late_recovery_exists {db : Database} {claimed : ClaimedNotification} {databaseTime : Time}
    {incident : IncidentRow}
    (silent : (ensureRecoveryAfterLateDownSuccess db claimed databaseTime).1 = .none)
    (event : claimed.row.eventType = .down)
    (allows : payloadAllowsRecovery claimed.row.payloadSafe = true)
    (found : db.incidents.get claimed.key.incidentId = some incident)
    (resolved : incident.status = .resolved) (dated : incident.resolvedAt.isSome = true)
    (live : channelLive db claimed.key.channelId = true)
    (bound : boundForRecovery db claimed.row.monitorId claimed.key.channelId = true) :
    ∃ recovery, db.outbox.get claimed.key.followUp = some recovery := by
  obtain ⟨resolvedAt, dated⟩ := Option.isSome_iff_exists.1 dated
  cases stored : db.outbox.get claimed.key.followUp with
  | some recovery => exact ⟨recovery, rfl⟩
  | none =>
      simp [ensureRecoveryAfterLateDownSuccess, event, allows, found, resolved, dated, live, bound,
        stored] at silent

theorem outbox_row_kept (invariant : OutboxInvariant s) (stepped : Stepped s a after)
    {key : OutboxKey} (present : ∃ row, s.db.outbox.get key = some row) :
    ∃ row, after.db.outbox.get key = some row := by
  obtain ⟨row, found⟩ := present
  obtain ⟨next, stored, _⟩ := step_outbox_row invariant.sequenced stepped found
  exact ⟨next, stored⟩

/-- A resolution that commits while an attempt of the DOWN is being confirmed has a row for
the DOWN: it has not locked it. -/
theorem confirmed_resolution_creates (invariant : OutboxInvariant s)
    (recovery : RecoveryInvariant down s) {t u : TxId} {tx : MarkSentTx} {ux : PersistTx}
    {time : Time} (confirming : s.txs.get t = some (.markSent tx)) (target : tx.claimed.key = down)
    (committing : s.txs.get u = some (.persist ux)) (finished : ux.stage = .done)
    (resolves : ux.incident = .resolve down.incidentId time) :
    ∃ row, (down.followUp, row) ∈ ux.outbox.creates := by
  have view : SentView s.db.outbox tx := invariant.views t _ confirming
  obtain ⟨claimedRow, claimedFound, _⟩ := view.claim
  rw [target] at claimedFound
  rcases recovery.resolutions u ux time claimedRow committing resolves claimedFound with
    ⟨resolution, read, stage, _⟩ | created | redacted
  · rw [finished] at stage
    cases stage
  · exact created
  · have own : (Transaction.markSent tx).locksRow down = true := decide_eq_true target
    have other : (Transaction.persist ux).locksRow down = true := by
      simp [Transaction.locksRow, redacted]
    have same := invariant.exclusive down t u _ _ confirming committing own other
    rw [same, committing] at confirming
    cases confirming

theorem recovery_confirmations_step (ledger : LedgerInvariant s) (invariant : OutboxInvariant s)
    (dates : ∀ id incident, s.db.incidents.get id = some incident →
      incident.status = .resolved → incident.resolvedAt.isSome = true)
    (recovery : RecoveryInvariant down s) (sequence : down.sequence = notificationSequence .down)
    (wanted : RecoveryWanted down s) (stepped : Stepped s a after) {t : TxId} {tx : MarkSentTx}
    {incident : IncidentRow} (inProgress : after.txs.get t = some (.markSent tx))
    (target : tx.claimed.key = down) (silent : tx.recovery = .none)
    (found : after.db.incidents.get down.incidentId = some incident)
    (resolved : incident.status = .resolved) :
    ∃ row, after.db.outbox.get down.followUp = some row := by
  have kept : s.txs.get t = some (.markSent tx) →
      ∃ row, after.db.outbox.get down.followUp = some row := by
    intro confirming
    rcases step_incident_resolved ledger stepped found resolved with before |
      ⟨u, ux, time, rfl, committing, resolves, _⟩
    · exact outbox_row_kept invariant stepped
        (recovery.confirmations t tx incident confirming target silent before resolved)
    · obtain ⟨finished, written⟩ := persist_committed stepped committing
      obtain ⟨row, created⟩ := confirmed_resolution_creates invariant recovery confirming target
        committing finished resolves
      exact ⟨row, persist_created_row written created⟩
  cases step_tx_source stepped inProgress with
  | stayed before => exact kept before
  | advanced ux next own => cases own
  | begun jobs attempts unused begun same =>
      rw [same] at found ⊢
      cases begun with
      | markSent attempt claimed providerMessageId now databaseTime remembered free =>
          obtain ⟨row, stored, kind⟩ := invariant.claims attempt claimed remembered
          simp only [markSentBegin] at target silent
          rw [target] at stored
          obtain ⟨live, bound, allows⟩ := wanted row stored
          rw [kind.payloadSafe] at allows
          rw [kind.monitorId] at bound
          have event := down_sequence_event (invariant.fits down row stored) sequence
          subst target
          exact late_recovery_exists silent (kind.eventType.symm.trans event) allows found
            resolved (dates _ incident found resolved) live bound

theorem late_recovery_written {t : TxId} {tx : MarkSentTx} (invariant : OutboxInvariant s)
    (stepped : Stepped s (.commit t) after) (confirming : s.txs.get t = some (.markSent tx))
    (recovers : tx.recovery ≠ .none) {row : OutboxRow}
    (found : s.db.outbox.get tx.claimed.key = some row) (notCanceled : row.status ≠ .canceled) :
    ∃ next, after.db.outbox.get tx.claimed.key.followUp = some next ∧ next.status = .pending := by
  have view : SentView s.db.outbox tx := invariant.views t _ confirming
  obtain ⟨_, written⟩ := mark_sent_committed stepped confirming
  obtain ⟨current, currentFound, write⟩ := mark_sent_commit_cases written
  rw [found, Option.some_inj] at currentFound
  subst currentFound
  obtain ⟨_, recovered⟩ := write.resolve_left fun ignored => notCanceled ignored.1
  have different := follow_up_ne (invariant.late confirming recovers)
  unfold MarkSentTx.recoveryWrite at recovered
  cases late : tx.recovery with
  | none => exact absurd late recovers
  | create new =>
      obtain ⟨incident, resolvedAt, monitor, databaseTime, rfl⟩ := view.creates new late
      simp only [late] at recovered
      rw [Table.insert_new_eq_some] at recovered
      exact ⟨_, by rw [recovered.2, Table.get_put, if_pos rfl], rfl⟩
  | reactivate =>
      obtain ⟨old, oldFound, _⟩ := view.reactivates late
      simp only [late, Option.some_inj] at recovered
      refine ⟨old.reactivated tx.now tx.claimed.row.encryptedConfigSnapshot, ?_, rfl⟩
      rw [← recovered, Table.get_update_key_self, Table.get_update_key_other _ _ different, oldFound]
      rfl

theorem alive_recovery_kept (invariant : OutboxInvariant s)
    (sequence : down.sequence = notificationSequence .down) (wanted : RecoveryWanted down after)
    (careful : losesRecovery down s a = false)
    (lasting : cancelsRuntimeOf s down.incidentId a = false) (stepped : Stepped s a after)
    {row later old next : OutboxRow} (found : s.db.outbox.get down = some row)
    (sent : row.status = .sent) (laterFound : after.db.outbox.get down = some later)
    (oldFound : s.db.outbox.get down.followUp = some old) (alive : old.canceledUndelivered = false)
    (move : OutboxMove s down.followUp old a next) : next.canceledUndelivered = false := by
  cases undelivered : next.canceledUndelivered with
  | false => rfl
  | true =>
      exfalso
      have delivered : ∀ {key : OutboxKey} {other : OutboxRow}, down.followUp = key.followUp →
          key.sequence = notificationSequence .down → s.db.outbox.get key = some other →
          other.status.isTerminal = true := by
        intro key other follow first stored
        rw [← follow_up_injective (sequence.trans first.symm) follow, found, Option.some_inj]
          at stored
        rw [← stored, sent]
        rfl
      cases undelivered_row_source move undelivered with
      | before _ was =>
          rw [alive] at was
          cases was
      | dispatcher d state retain remembered target decided available =>
          cases retain <;>
            simp [losesRecovery, cancelsPastDelivery, resolvesPastDelivery, confirmsPastCancel,
              remembered, ← target, decided, downSent, found, sent, oldFound, available] at careful
      | claim t tx other inProgress follow stored event active =>
          have terminal := delivered follow (sequence_of_down (invariant.fits _ other stored) event)
            stored
          rw [terminal] at active
          cases active
      | failure attempt claimed other error now delay remembered follow stored event active =>
          obtain ⟨stillStored, claimedFound, same⟩ := invariant.claims attempt claimed remembered
          rw [stored, Option.some_inj] at claimedFound
          subst claimedFound
          have terminal := delivered follow
            (sequence_of_down (invariant.fits _ other stored) (same.eventType.trans event)) stored
          rw [terminal] at active
          cases active
      | monitor t tx inProgress cancels owned =>
          obtain ⟨incident, incidentFound, owner⟩ := invariant.owned _ old oldFound
          have concerns : incidentsOf s.db.incidents tx.id down.incidentId = true := by
            unfold incidentsOf
            rw [show s.db.incidents.get down.incidentId = some incident from incidentFound]
            exact decide_eq_true (owner.trans owned)
          simp [cancelsRuntimeOf, inProgress, cancels, concerns] at lasting
      | channel t tx inProgress retires same =>
          obtain ⟨db, attempts, events, commit, rfl⟩ := commit_step_cases stepped inProgress
          cases commit with
          | channel =>
              have live := (wanted later laterFound).1
              have channel : down.channelId = tx.id := same
              rw [channel, retired_channel_not_live retires] at live
              cases live
      | resolution t tx inProgress canceled =>
          have view : OutboxView s.db.outbox tx := invariant.views t _ inProgress
          obtain ⟨_, other, stored, event, _⟩ := view.cancels _ canceled
          exact follow_up_sequence rfl (sequence_of_down (invariant.fits _ other stored) event)

theorem recovery_kept_step (ledger : LedgerInvariant s) (invariant : OutboxInvariant s)
    (recovery : RecoveryInvariant down s) (sequence : down.sequence = notificationSequence .down)
    (wanted : RecoveryWanted down after) (careful : losesRecovery down s a = false)
    (lasting : cancelsRuntimeOf s down.incidentId a = false) (stepped : Stepped s a after)
    {incident : IncidentRow} {row : OutboxRow}
    (incidentFound : after.db.incidents.get down.incidentId = some incident)
    (resolved : incident.status = .resolved) (found : after.db.outbox.get down = some row)
    (sent : row.status = .sent) :
    ∃ next, after.db.outbox.get down.followUp = some next ∧ next.canceledUndelivered = false := by
  have pending : ∀ next : OutboxRow, next.status = .pending → next.canceledUndelivered = false := by
    intro next status
    simp [OutboxRow.canceledUndelivered, canceledUndelivered, status]
  cases before : s.db.outbox.get down with
  | none =>
      exfalso
      cases step_outbox_new stepped before found with
      | late t tx other inProgress create follow => exact follow_up_sequence follow sequence
      | created t tx inProgress finished member =>
          have view : OutboxView s.db.outbox tx := invariant.views t _ inProgress
          rw [(view.creates down row member).pending] at sent
          cases sent
  | some old =>
      obtain ⟨same, stored, move, _⟩ := step_outbox_row invariant.sequenced stepped before
      rw [found, Option.some_inj] at stored
      subst stored
      have source := sent_row_source move sent
      rcases step_incident_resolved ledger stepped incidentFound resolved with closed |
        ⟨t, tx, time, rfl, inProgress, resolves, _⟩
      · rcases source with delivered | ⟨t, tx, rfl, confirming, target, notCanceled⟩
        · obtain ⟨alive, aliveFound, isAlive⟩ :=
            recovery.kept incident old closed resolved before delivered
          obtain ⟨next, nextFound, nextMove, _⟩ :=
            step_outbox_row invariant.sequenced stepped aliveFound
          exact ⟨next, nextFound, alive_recovery_kept invariant sequence wanted careful lasting
            stepped before delivered found aliveFound isAlive nextMove⟩
        · by_cases silent : tx.recovery = .none
          · -- the recovery exists, and it was not canceled when the attempt was confirmed
            obtain ⟨alive, aliveFound⟩ :=
              recovery.confirmations t tx incident confirming target.symm silent closed resolved
            obtain ⟨next, nextFound, nextMove, _⟩ :=
              step_outbox_row invariant.sequenced stepped aliveFound
            refine ⟨next, nextFound, ?_⟩
            have isAlive : alive.canceledUndelivered = false := by
              simpa [losesRecovery, cancelsPastDelivery, resolvesPastDelivery, confirmsPastCancel,
                confirming, silent, ← target, before, notCanceled, aliveFound] using careful
            cases undelivered : next.canceledUndelivered with
            | false => rfl
            | true =>
                cases undelivered_row_source nextMove undelivered with
                | before _ was =>
                    rw [isAlive] at was
                    cases was
                | claim _ _ _ other =>
                    rw [confirming] at other
                    cases other
                | monitor _ _ other =>
                    rw [confirming] at other
                    cases other
                | channel _ _ other =>
                    rw [confirming] at other
                    cases other
                | resolution _ _ other =>
                    rw [confirming] at other
                    cases other
          · rw [target] at before
            obtain ⟨next, nextFound, status⟩ :=
              late_recovery_written invariant stepped confirming silent before notCanceled
            rw [← target] at nextFound
            exact ⟨next, nextFound, pending next status⟩
      · rcases source with delivered | ⟨u, ux, same, confirming, _⟩
        · obtain ⟨_, written⟩ := persist_committed stepped inProgress
          have created : (tx.outbox.creates.any fun entry => entry.1 = down.followUp) = true := by
            simpa [losesRecovery, resolvesPastDelivery, cancelsPastDelivery, confirmsPastCancel,
              inProgress, resolves, downSent, before, delivered] using careful
          rw [List.any_eq_true] at created
          obtain ⟨⟨key, new⟩, member, same⟩ := created
          have key_eq : key = down.followUp := of_decide_eq_true same
          subst key_eq
          have view : OutboxView s.db.outbox tx := invariant.views t _ inProgress
          exact ⟨new, persist_created_row written member,
            pending new (view.creates _ new member).pending⟩
        · cases same
          rw [inProgress] at confirming
          cases confirming

theorem recovery_invariant_step (ledger : LedgerInvariant s) (ledgerAfter : LedgerInvariant after)
    (invariant : OutboxInvariant s)
    (dates : ∀ id incident, s.db.incidents.get id = some incident →
      incident.status = .resolved → incident.resolvedAt.isSome = true)
    (recovery : RecoveryInvariant down s) (sequence : down.sequence = notificationSequence .down)
    (wanted : RecoveryWanted down s) (wantedAfter : RecoveryWanted down after)
    (careful : losesRecovery down s a = false)
    (lasting : cancelsRuntimeOf s down.incidentId a = false) (taken : step s a = some after) :
    RecoveryInvariant down after := by
  have stepped := step_cases taken
  constructor
  · intro incident row incidentFound resolved found sent
    exact recovery_kept_step ledger invariant recovery sequence wantedAfter careful lasting stepped
      incidentFound resolved found sent
  · intro t tx incident inProgress target silent found resolved
    exact recovery_confirmations_step ledger invariant dates recovery sequence wanted stepped
      inProgress target silent found resolved
  · intro t tx time row inProgress resolves found
    exact recovery_resolutions_step ledger ledgerAfter invariant recovery sequence wanted stepped
      inProgress resolves found
  · intro u ux found
    cases step_tx_source stepped found with
    | stayed before => exact recovery.skips u ux before
    | begun jobs attempts unused begun same =>
        cases begun with
        | persist job id check original config result databaseTime tx running started free =>
            intro resolution key down rest decision stage
            rw [(persist_begin_fresh started).1] at stage
            cases stage
    | advanced tx next own inProgress advance same =>
        cases own
        cases advance with
        | effect newIncidentId begun =>
            intro resolution key down rest decision stage _ planned
            rw [apply_effect_first newIncidentId stage] at planned
            cases planned
        | resolve _ resolved => exact resolve_step_skip_view resolved

end Steps

def RecoveryKept (incidentId : IncidentId) (channelId : ChannelId) (s : System) : Prop :=
  ∀ incident row, s.db.incidents.get incidentId = some incident → incident.status = .resolved →
    s.db.outbox.get (downOf incidentId channelId) = some row → row.status = .sent →
      ∃ recovery, s.db.outbox.get (downOf incidentId channelId).followUp = some recovery ∧
        recovery.canceledUndelivered = false

/-- The DOWN fails while the resolution still waits for it; a dispatcher that has read the
failure cancels the recovery after a late success of the DOWN. -/
def lostRecoveryScript : List Action :=
  let down := Script.downKey 1
  Script.setUp ++ Script.failingCheck 1 1 1000 ++ Script.claimRow down 2000 ++
    Script.claimRow down 4000 ++ Script.startCheck 2 1 61000 ++
    Script.beginResult 5 2 .success 61000 ++ [.resolve 5, .resolve 5, .resolve 5] ++
    Script.rejectAttempt down 2 61500 ++ [.commit 5, .scan 1 7 1000 62000 down.followUp,
      .compareDown 1] ++ Script.confirmAttempt down 1 62500 ++ [.dispatchCandidate 1]

end LinkAlive
