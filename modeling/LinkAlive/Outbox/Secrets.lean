import LinkAlive.Outbox.Ordering

/-!
# Secret snapshots

A row that can still be delivered needs its destination. Snapshots are copied from the
channel to the DOWN row and from the DOWN row to the row of the resolution, and a terminal
row loses its snapshot. A DOWN that became SENT after its snapshot was retired is the one
source of a recovery without a destination.
-/

namespace LinkAlive

open Relational Transition

set_option autoImplicit false

def readsRetiredDown (s : System) : Action → Bool
  | .applyEffect t _ =>
      match s.txs.get t with
      | some (.persist tx) =>
          match tx.incidentEffect, openIncident s.db tx.monitorId with
          | .resolve .., some (incidentId, _) =>
              (recoveryDownEvents s.db tx.monitorId incidentId).any fun entry =>
                entry.2.status = .sent && payloadAllowsRecovery entry.2.payloadSafe &&
                  entry.2.encryptedConfigSnapshot.isTombstone
          | _, _ => false
      | _ => false
  | _ => false

def OutboxRow.hasSecret (row : OutboxRow) : Prop :=
  row.encryptedConfigSnapshot.isTombstone = false

theorem retired_by_runtime_terminal (row : OutboxRow) (now : Time) :
    (row.retiredByRuntime now).status.isTerminal = true := by
  unfold OutboxRow.retiredByRuntime
  split
  · assumption
  · rfl

/-- A resolution leaves a row alone or leaves it terminal. -/
theorem persist_write_cases {tx : PersistTx} {key : OutboxKey} {row : OutboxRow}
    {outbox : Outbox} (view : OutboxView outbox tx) (found : outbox.get key = some row) :
    tx.rowWrite key row = row ∨ (tx.rowWrite key row).status.isTerminal = true := by
  unfold PersistTx.rowWrite
  simp only
  by_cases canceled : key ∈ tx.outbox.cancels
  · right
    rw [if_pos canceled]
    split <;> rfl
  · rw [if_neg canceled]
    split
    · rename_i redacted
      obtain ⟨_, other, same, _, reason⟩ := view.redacts key redacted
      rw [found, Option.some_inj] at same
      subst same
      exact Or.inr (reason.resolve_left canceled)
    · exact Or.inl rfl

theorem deliverable_row_source {s : System} (invariant : OutboxInvariant s) {key : OutboxKey}
    {row next : OutboxRow} {a : Action} (found : s.db.outbox.get key = some row)
    (move : OutboxMove s key row a next) (deliverable : next.status.isTerminal = false) :
    (row.status.isTerminal = false ∧
        next.encryptedConfigSnapshot = row.encryptedConfigSnapshot) ∨
      ∃ t tx, s.txs.get t = some (.markSent tx) ∧
        next.encryptedConfigSnapshot = tx.claimed.row.encryptedConfigSnapshot := by
  have terminal : ∀ {P : Prop}, next.status.isTerminal = true → P := by
    intro P ended
    rw [ended] at deliverable
    cases deliverable
  cases move with
  | kept => exact Or.inl ⟨deliverable, rfl⟩
  | dispatched d state decision remembered target decided available =>
      have before := available_not_terminal available
      cases decision with
      | disabled => exact terminal rfl
      | wait => exact Or.inl ⟨before, rfl⟩
      | undelivered retain => cases retain <;> exact terminal rfl
      | dispatch => exact Or.inl ⟨before, rfl⟩
  | finished d state accepted remembered target held =>
      simp only [OutboxRow.claimHeldBy, Bool.and_eq_true, decide_eq_true_eq] at held
      refine Or.inl ⟨by rw [held.2]; rfl, ?_⟩
      cases accepted <;> rfl
  | claimDisabled t tx =>
      unfold OutboxRow.canceledByClaim at terminal
      cases ended : row.status.isTerminal with
      | true =>
          rw [if_pos ended] at terminal
          exact terminal ended
      | false =>
          rw [if_neg (by simp [ended])] at terminal
          exact terminal rfl
  | claimExhausted => exact terminal rfl
  | claimGranted t tx inProgress target outcome =>
      exact Or.inl ⟨claim_outcome_not_terminal (Or.inr outcome), rfl⟩
  | undeliveredByClaim => exact terminal rfl
  | undeliveredByFailure => exact terminal rfl
  | reported attempt claimed error now delay remembered target shown =>
      simp only [OutboxRow.shows, Bool.and_eq_true, decide_eq_true_eq] at shown
      split at terminal
      · refine Or.inl ⟨by rw [shown.1]; rfl, ?_⟩
        split <;> rfl
      · exact terminal rfl
  | sent t tx => exact terminal (by rw [sent_write_status]; rfl)
  | reactivated t tx down inProgress => exact Or.inr ⟨t, tx, inProgress, rfl⟩
  | retiredByMonitor t tx => exact terminal (retired_by_runtime_terminal row tx.now)
  | retiredByChannel t tx => exact terminal (retired_by_runtime_terminal row tx.now)
  | resolved t tx inProgress finished =>
      have view : OutboxView s.db.outbox tx := invariant.views t _ inProgress
      rcases persist_write_cases view found with same | ended
      · rw [same] at deliverable ⊢
        exact Or.inl ⟨deliverable, rfl⟩
      · exact terminal ended

theorem step_channel_row {s after : System} {a : Action} (stepped : Stepped s a after)
    {id : ChannelId} {next : ChannelRow} (found : after.db.channels.get id = some next) :
    s.db.channels.get id = some next ∨
      (∃ displayName config, next = newChannelRow displayName config) ∨
      ∃ row tx, s.db.channels.get id = some row ∧ next = ChannelTx.channelWrite tx row := by
  cases step_writes stepped with
  | nothing _ channels =>
      rw [channels.channels] at found
      exact Or.inl found
  | checks checks jobs _ written =>
      rw [written] at found
      exact Or.inl found
  | channelCreated newId displayName config _ written =>
      rw [written, Table.get_put] at found
      split at found
      · cases found
        exact Or.inr (Or.inl ⟨displayName, config, rfl⟩)
      · exact Or.inl found
  | persist t tx _ _ written =>
      obtain ⟨_, _, _, _, _, _, same⟩ := persist_commit_cases written
      rw [same] at found
      exact Or.inl found
  | createDue t tx _ _ written =>
      rw [(create_due_checks_kept written).channels] at found
      exact Or.inl found
  | monitor t tx _ _ written =>
      rw [(monitor_commit_cases written).2.1] at found
      exact Or.inl found
  | channel t tx _ _ written =>
      rw [written] at found
      simp only [channelCommit, Table.get_update_key] at found
      split at found
      · rw [Option.map_eq_some_iff] at found
        obtain ⟨row, stored, same⟩ := found
        exact Or.inr (Or.inr ⟨row, tx, stored, same.symm⟩)
      · exact Or.inl found

theorem channel_secret_kept {tx : ChannelTx} {row : ChannelRow}
    (before : row.deletedAt = none → row.encryptedConfig.isTombstone = false)
    (stays : (tx.channelWrite row).deletedAt = none) :
    (tx.channelWrite row).encryptedConfig.isTombstone = false := by
  unfold ChannelTx.channelWrite at stays ⊢
  split
  · rename_i patch _ change
    rw [change] at stays
    unfold ChannelRow.patched at stays ⊢
    cases config : row.encryptedConfig with
    | tombstone =>
        rw [config] at stays before
        exact before stays
    | envelope plain =>
        simp only
        split
        · rfl
        · rfl
  · rename_i change
    rw [change] at stays
    cases stays

structure SecretView (tx : PersistTx) : Prop where
  creates : ∀ key row, (key, row) ∈ tx.outbox.creates → row.hasSecret
  todo : ∀ resolution key down, tx.stage = .resolving resolution →
    (key, down) ∈ resolution.todo → payloadAllowsRecovery down.payloadSafe = true →
      down.status ≠ .failed → down.status ≠ .canceled → down.hasSecret
  head : ∀ resolution key down rest, tx.stage = .resolving resolution →
    resolution.todo = (key, down) :: rest →
      (resolution.phase = .reread ∨
        ∃ decision, resolution.phase = .planned decision ∧ decision.plan ≠ .skip) →
      down.hasSecret

structure SecretInvariant (s : System) : Prop where
  channels : ∀ id row, s.db.channels.get id = some row → row.deletedAt = none →
    row.encryptedConfig.isTombstone = false
  rows : ∀ key row, s.db.outbox.get key = some row → row.status.isTerminal = false → row.hasSecret
  attempts : ∀ attempt claimed, s.attempts.get attempt = some claimed → claimed.row.hasSecret
  confirmations : ∀ t tx, s.txs.get t = some (.markSent tx) → tx.claimed.row.hasSecret
  txs : ∀ t tx, s.txs.get t = some (.persist tx) → SecretView tx

theorem secret_view_idle {tx : PersistTx}
    (creates : ∀ key row, (key, row) ∈ tx.outbox.creates → row.hasSecret)
    (idle : ∀ resolution, tx.stage ≠ .resolving resolution) : SecretView tx := by
  refine ⟨creates, ?_, ?_⟩
  · intro resolution key down stage
    exact absurd stage (idle resolution)
  · intro resolution key down rest stage
    exact absurd stage (idle resolution)

theorem create_outbox_secret {s : System} (secrets : SecretInvariant s) {tx : PersistTx}
    {incidentId : IncidentId} {incident : IncidentRow} {key : OutboxKey} {row : OutboxRow}
    (member : (key, row) ∈ createOutbox s.db tx incidentId incident) : row.hasSecret := by
  obtain ⟨channelId, channel, binding, found, live, _, _, _, rfl⟩ := create_outbox_row member
  rw [ChannelRow.isLive, Bool.and_eq_true, Option.isNone_iff_eq_none] at live
  exact secrets.channels channelId channel found live.2

/-- The read of a resolution, unless it finds a retired snapshot. -/
theorem apply_effect_secret_view {s : System} (secrets : SecretInvariant s) {t : TxId}
    {tx : PersistTx} (inProgress : s.txs.get t = some (.persist tx)) (empty : tx.outbox = .empty)
    (newIncidentId : IncidentId)
    (careful : readsRetiredDown s (.applyEffect t newIncidentId) = false) :
    SecretView (applyIncidentEffect s.db tx newIncidentId) := by
  have nothing : ∀ key row, (key, row) ∈ tx.outbox.creates → row.hasSecret := by
    intro key row member
    rw [empty] at member
    cases member
  unfold applyIncidentEffect
  split
  · exact secret_view_idle nothing (by simp)
  · split
    · exact secret_view_idle nothing (by simp)
    · apply secret_view_idle
      · intro key row member
        exact create_outbox_secret secrets member
      · simp
  · split <;> exact secret_view_idle nothing (by simp)
  · rename_i resolvedAt _ effect
    split
    · rename_i incidentId incident found
      refine ⟨nothing, ?_, ?_⟩
      · intro resolution key down stage member allows notFailed notCanceled
        cases stage
        cases terminal : down.status.isTerminal with
        | false => exact secrets.rows key down (mem_recovery_down_events.1 member).1 terminal
        | true =>
            have sent : down.status = .sent := by
              cases status : down.status <;> simp [status, NotificationOutboxStatus.isTerminal]
                at terminal notFailed notCanceled ⊢
            simp only [readsRetiredDown, inProgress, effect, found, List.any_eq_false] at careful
            simpa [sent, allows, OutboxRow.hasSecret] using careful _ member
      · intro resolution key down rest stage _ phase
        cases stage
        rcases phase with reread | ⟨decision, planned, _⟩
        · cases reread
        · cases planned
    · exact secret_view_idle nothing (by simp)
  · exact secret_view_idle nothing (by simp)

theorem secret_view_phase {tx : PersistTx} {resolution : Resolution} {phase : ResolvePhase}
    (outbox : OutboxWrites) (view : SecretView tx) (stage : tx.stage = .resolving resolution)
    (creates : outbox.creates = tx.outbox.creates)
    (head : ∀ key down rest, resolution.todo = (key, down) :: rest →
      (phase = .reread ∨ ∃ decision, phase = .planned decision ∧ decision.plan ≠ .skip) →
      down.hasSecret) :
    SecretView { tx with stage := resolution.at phase, outbox := outbox } := by
  refine ⟨?_, ?_, ?_⟩
  · intro key row member
    simp only [creates] at member
    exact view.creates key row member
  · intro other key down stored member
    cases stored
    exact view.todo resolution key down stage member
  · intro other key down rest stored
    cases stored
    exact head key down rest

/-- An event that is planned from its first read, other than by skipping it. -/
theorem planned_down_secret {tx : PersistTx} {resolution : Resolution} {key : OutboxKey}
    {down : OutboxRow} {rest : List (OutboxKey × OutboxRow)} {plan : RecoveryNotificationPlan}
    (view : SecretView tx) (stage : tx.stage = .resolving resolution)
    (todo : resolution.todo = (key, down) :: rest)
    (allows : payloadAllowsRecovery down.payloadSafe = true)
    (planned : planRecoveryNotification down.status down.attemptCount = .ok plan)
    (different : plan ≠ .skip) : down.hasSecret := by
  have recovers := plan_recovers planned different
  apply view.todo resolution key down stage _ allows recovers.1 recovers.2
  rw [todo]
  exact List.mem_cons_self

theorem resolve_step_secret_view {db : Database} {tx next : PersistTx}
    {rowFree : OutboxKey → Bool} (view : SecretView tx)
    (resolved : resolveStep db tx rowFree = some next) : SecretView next := by
  obtain ⟨resolution, stage, move⟩ := resolve_step_cases resolved
  cases move with
  | finished => exact secret_view_idle view.creates (by simp)
  | excluded key down rest todo phase excluded =>
      apply secret_view_phase tx.outbox view stage rfl
      intro otherKey otherDown otherRest _ planned
      rcases planned with reread | ⟨decision, same, different⟩
      · cases reread
      · cases same
        exact absurd rfl different
  | planned key down rest plan todo phase allows computed _ =>
      apply secret_view_phase tx.outbox view stage rfl
      intro otherKey otherDown otherRest otherTodo planned
      rw [todo] at otherTodo
      cases otherTodo
      rcases planned with reread | ⟨decision, same, different⟩
      · cases reread
      · cases same
        exact planned_down_secret view stage todo allows computed different
  | canceled key down row rest todo phase allows computed free found replaceable =>
      apply secret_view_phase { tx.outbox with cancels := tx.outbox.cancels ++ [key] } view stage rfl
      intro otherKey otherDown otherRest otherTodo _
      rw [todo] at otherTodo
      cases otherTodo
      exact planned_down_secret view stage todo allows computed (by simp)
  | missed key down rest todo phase allows computed =>
      apply secret_view_phase tx.outbox view stage rfl
      intro otherKey otherDown otherRest otherTodo _
      rw [todo] at otherTodo
      cases otherTodo
      exact planned_down_secret view stage todo allows computed (by simp)
  | reread key down current rest plan todo phase found computed =>
      apply secret_view_phase tx.outbox view stage rfl
      intro otherKey otherDown otherRest otherTodo _
      exact view.head resolution otherKey otherDown otherRest stage otherTodo (Or.inl phase)
  | written key down rest decision todo phase free =>
      refine ⟨?_, ?_, ?_⟩
      · intro other row member
        unfold finishDown at member
        simp only at member
        split at member
        · exact view.creates other row member
        · rename_i recovers
          rw [List.mem_append, List.mem_singleton] at member
          rcases member with before | last
          · exact view.creates other row before
          · rw [Prod.mk.injEq] at last
            rw [last.2]
            exact view.head resolution key down rest stage todo
              (Or.inr ⟨decision, phase, recovers⟩)
      · intro other otherKey otherDown stored member
        cases stored
        apply view.todo resolution otherKey otherDown stage
        rw [todo]
        exact List.mem_cons_of_mem _ member
      · intro other otherKey otherDown otherRest stored _ planned
        cases stored
        rcases planned with reread | ⟨_, same, _⟩
        · cases reread
        · cases same

theorem secret_rows_step {s after : System} {a : Action} (invariant : OutboxInvariant s)
    (secrets : SecretInvariant s) (stepped : Stepped s a after) {key : OutboxKey}
    {row : OutboxRow} (found : after.db.outbox.get key = some row)
    (deliverable : row.status.isTerminal = false) : row.hasSecret := by
  cases before : s.db.outbox.get key with
  | some old =>
      obtain ⟨next, stored, move, _⟩ := step_outbox_row invariant.sequenced stepped before
      rw [found, Option.some_inj] at stored
      subst stored
      rcases deliverable_row_source invariant before move deliverable with
        ⟨active, same⟩ | ⟨t, tx, inProgress, same⟩
      · rw [OutboxRow.hasSecret, same]
        exact secrets.rows key old before active
      · rw [OutboxRow.hasSecret, same]
        exact secrets.confirmations t tx inProgress
  | none =>
      cases step_outbox_new stepped before found with
      | created t tx inProgress finished member =>
          exact (secrets.txs t tx inProgress).creates key row member
      | late t tx down inProgress create =>
          have view : SentView s.db.outbox tx := invariant.views t _ inProgress
          obtain ⟨incident, resolvedAt, monitor, databaseTime, rfl⟩ := view.creates row create
          exact secrets.confirmations t tx inProgress

theorem claimed_row_secret {s : System} (secrets : SecretInvariant s) {tx : ClaimTx}
    {db : Database} {claimed : ClaimedNotification}
    (written : claimCommit s.db tx = some (db, some claimed)) : claimed.row.hasSecret := by
  obtain ⟨row, found, outcome, rfl, _⟩ := claim_grant_cases written
  exact secrets.rows tx.key row found (claim_outcome_not_terminal (Or.inr outcome))

theorem secret_attempts_step {s after : System} {a : Action} (secrets : SecretInvariant s)
    (stepped : Stepped s a after) {attempt : OutboxKey × Nat} {claimed : ClaimedNotification}
    (remembered : after.attempts.get attempt = some claimed) : claimed.row.hasSecret := by
  rcases step_attempt_source stepped remembered with before | ⟨t, tx, _, _, written, _⟩
  · exact secrets.attempts attempt claimed before
  · exact claimed_row_secret secrets written

theorem secret_confirmations_step {s after : System} {a : Action} (secrets : SecretInvariant s)
    (stepped : Stepped s a after) {t : TxId} {tx : MarkSentTx}
    (inProgress : after.txs.get t = some (.markSent tx)) : tx.claimed.row.hasSecret := by
  cases step_tx_source stepped inProgress with
  | stayed before => exact secrets.confirmations t tx before
  | advanced _ _ same => cases same
  | begun _ _ _ begun =>
      cases begun with
      | markSent attempt claimed providerMessageId now databaseTime remembered free =>
          exact secrets.attempts attempt claimed remembered

theorem secret_txs_step {s after : System} {a : Action} (ledger : LedgerInvariant s)
    (secrets : SecretInvariant s) (careful : readsRetiredDown s a = false)
    (stepped : Stepped s a after) {u : TxId} {ux : PersistTx}
    (found : after.txs.get u = some (.persist ux)) : SecretView ux := by
  cases step_tx_source stepped found with
  | stayed before => exact secrets.txs u ux before
  | begun _ _ _ begun =>
      cases begun with
      | persist job id check original config result databaseTime tx running started free =>
          obtain ⟨stage, _, empty⟩ := persist_begin_fresh started
          apply secret_view_idle
          · intro key row member
            rw [empty] at member
            cases member
          · simp [stage]
  | advanced tx next same inProgress advance =>
      cases same
      cases advance with
      | effect newIncidentId begun =>
          have empty := ((ledger.views u _ inProgress).2.2 begun).2
          exact apply_effect_secret_view secrets inProgress empty newIncidentId careful
      | resolve _ resolved => exact resolve_step_secret_view (secrets.txs u tx inProgress) resolved

theorem secret_invariant_step {s after : System} {a : Action} (ledger : LedgerInvariant s)
    (invariant : OutboxInvariant s) (secrets : SecretInvariant s)
    (careful : readsRetiredDown s a = false) (taken : step s a = some after) :
    SecretInvariant after := by
  have stepped := step_cases taken
  constructor
  · intro id next found stays
    rcases step_channel_row stepped found with same | ⟨displayName, config, rfl⟩ |
      ⟨row, tx, before, rfl⟩
    · exact secrets.channels id next same stays
    · rfl
    · exact channel_secret_kept (secrets.channels id row before) stays
  · intro key row found deliverable
    exact secret_rows_step invariant secrets stepped found deliverable
  · intro attempt claimed remembered
    exact secret_attempts_step secrets stepped remembered
  · intro t tx inProgress
    exact secret_confirmations_step secrets stepped inProgress
  · intro t tx inProgress
    exact secret_txs_step ledger secrets careful stepped inProgress

def DeliverableRowsKeepSecrets (s : System) : Prop :=
  ∀ key row, s.db.outbox.get key = some row →
    row.status = .pending ∨ row.status = .enqueued ∨ row.status = .retry ∨
      row.status = .processing →
    row.encryptedConfigSnapshot ≠ .tombstone

theorem deliverable_rows_keep_secrets {s : System} {visited : List (System × Action)}
    (run : Run step System.initial visited s)
    (careful : Along (fun state a => readsRetiredDown state a = false) visited) :
    DeliverableRowsKeepSecrets s := by
  have both : Reachable s ∧ SecretInvariant s := by
    apply run.preserves (fun state a => readsRetiredDown state a = false)
      (fun state => Reachable state ∧ SecretInvariant state)
    · refine ⟨⟨[], .start⟩, ?_, ?_, ?_, ?_, ?_⟩
      · intro id row found
        cases found
      · intro key row found
        cases found
      · intro attempt claimed found
        cases found
      · intro t tx found
        cases found
      · intro t tx found
        cases found
    · intro state a after holds harmless taken
      exact ⟨holds.1.step_closed taken, secret_invariant_step
        (ledger_invariant_reachable holds.1) (outbox_invariant_reachable holds.1) holds.2 harmless
        taken⟩
    · exact careful
  intro key row found deliverable retired
  have active : row.status.isTerminal = false := by
    rcases deliverable with status | status | status | status <;> rw [status] <;> rfl
  have kept := both.2.rows key row found active
  rw [OutboxRow.hasSecret, retired] at kept
  cases kept

/-- The second attempt of a DOWN fails for good and its snapshot is retired; then the
provider confirms the first one and the incident is resolved. -/
def retiredDownScript : List Action :=
  let down := Script.downKey 1
  Script.setUp ++ Script.failingCheck 1 1 1000 ++ Script.claimRow down 2000 ++
    Script.claimRow down 4000 ++ Script.rejectAttempt down 2 4100 ++
    Script.confirmAttempt down 1 4200 ++ Script.recoveringCheck 2 1 61000

theorem recovery_without_secret : ¬ ∀ s, Reachable s → DeliverableRowsKeepSecrets s := by
  intro always
  obtain ⟨s, reachable, tested⟩ := reachable_of_script retiredDownScript
    (fun s => (s.db.outbox.get (Script.downKey 1).followUp).any fun row =>
      row.status = .pending && row.encryptedConfigSnapshot = .tombstone) (by decide +kernel)
  simp only [Bool.and_eq_true, Option.any_eq_true, decide_eq_true_eq] at tested
  obtain ⟨row, found, pending, retired⟩ := tested
  exact always s reachable _ row found (Or.inl pending) retired

/-- The recovery of a DOWN that was delivered at once. -/
theorem deliverable_rows_keep_secrets_sample :
    ∃ s, DeliverableRowsKeepSecrets s ∧
      (s.db.outbox.get (Script.downKey 1).followUp).any (fun row => row.status = .pending) =
        true := by
  obtain ⟨visited, s, run, careful, tested⟩ := run_of_script
    (Script.setUp ++ Script.failingCheck 1 1 1000 ++ Script.claimRow (Script.downKey 1) 2000 ++
      Script.confirmAttempt (Script.downKey 1) 1 2500 ++ Script.recoveringCheck 2 1 61000)
    readsRetiredDown
    (fun s => (s.db.outbox.get (Script.downKey 1).followUp).any fun row => row.status = .pending)
    (by decide +kernel)
  exact ⟨s, deliverable_rows_keep_secrets run careful, tested⟩

end LinkAlive
