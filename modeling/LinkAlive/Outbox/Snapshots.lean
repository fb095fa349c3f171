import LinkAlive.Outbox.Secrets

/-!
# Where a snapshot comes from

The configuration in an outbox row is one that its channel has had: it is copied from the
channel when the row is created, or from the DOWN row of the same channel, and otherwise
only retired. The known configurations are a parameter; they grow with the run.
-/

namespace LinkAlive

open Relational

set_option autoImplicit false

abbrev KnownConfigs := ChannelId → ChannelConfig → Prop

def CopyOf (known : KnownConfigs) (channelId : ChannelId) (copy : Sealed ChannelConfig) : Prop :=
  ∀ config, copy = .envelope config → known channelId config

structure SnapshotView (known : KnownConfigs) (tx : PersistTx) : Prop where
  creates : ∀ key row, (key, row) ∈ tx.outbox.creates →
    CopyOf known key.channelId row.encryptedConfigSnapshot
  todo : ∀ resolution key down, tx.stage = .resolving resolution →
    (key, down) ∈ resolution.todo → CopyOf known key.channelId down.encryptedConfigSnapshot

structure SnapshotInvariant (known : KnownConfigs) (s : System) : Prop where
  rows : ∀ key row, s.db.outbox.get key = some row →
    CopyOf known key.channelId row.encryptedConfigSnapshot
  attempts : ∀ attempt claimed, s.attempts.get attempt = some claimed →
    CopyOf known claimed.key.channelId claimed.row.encryptedConfigSnapshot
  confirmations : ∀ t tx, s.txs.get t = some (.markSent tx) →
    CopyOf known tx.claimed.key.channelId tx.claimed.row.encryptedConfigSnapshot
  txs : ∀ t tx, s.txs.get t = some (.persist tx) → SnapshotView known tx

def ChannelsKnown (known : KnownConfigs) (s : System) : Prop :=
  ∀ id row, s.db.channels.get id = some row → CopyOf known id row.encryptedConfig

section Known

variable {known more : KnownConfigs}

theorem CopyOf.weaken (grows : ∀ id config, known id config → more id config) {id : ChannelId}
    {copy : Sealed ChannelConfig} (kept : CopyOf known id copy) : CopyOf more id copy :=
  fun config same => grows id config (kept config same)

theorem CopyOf.tombstone {id : ChannelId} : CopyOf known id .tombstone := by
  intro config same
  cases same

theorem SnapshotInvariant.weaken {s : System} (invariant : SnapshotInvariant known s)
    (grows : ∀ id config, known id config → more id config) : SnapshotInvariant more s where
  rows key row found := (invariant.rows key row found).weaken grows
  attempts attempt claimed remembered := (invariant.attempts attempt claimed remembered).weaken grows
  confirmations t tx inProgress := (invariant.confirmations t tx inProgress).weaken grows
  txs t tx inProgress :=
    ⟨fun key row member => ((invariant.txs t tx inProgress).creates key row member).weaken grows,
      fun resolution key down stage member =>
        ((invariant.txs t tx inProgress).todo resolution key down stage member).weaken grows⟩

end Known

theorem row_snapshot_source {s : System} {key : OutboxKey} {row next : OutboxRow} {a : Action}
    (move : OutboxMove s key row a next) :
    next.encryptedConfigSnapshot = row.encryptedConfigSnapshot ∨
      next.encryptedConfigSnapshot = .tombstone ∨
      ∃ t tx, s.txs.get t = some (.markSent tx) ∧ key = tx.claimed.key.followUp ∧
        next.encryptedConfigSnapshot = tx.claimed.row.encryptedConfigSnapshot := by
  have byRuntime : ∀ now, (row.retiredByRuntime now).encryptedConfigSnapshot = .tombstone := by
    intro now
    unfold OutboxRow.retiredByRuntime
    split <;> rfl
  cases move with
  | kept => exact Or.inl rfl
  | dispatched d state decision =>
      cases decision with
      | disabled => exact Or.inr (Or.inl rfl)
      | wait => exact Or.inl rfl
      | undelivered retain =>
          cases retain with
          | true => exact Or.inl rfl
          | false => exact Or.inr (Or.inl rfl)
      | dispatch => exact Or.inl rfl
  | finished d state accepted => cases accepted <;> exact Or.inl rfl
  | claimDisabled t tx =>
      unfold OutboxRow.canceledByClaim
      split <;> exact Or.inr (Or.inl rfl)
  | claimExhausted => exact Or.inr (Or.inl rfl)
  | claimGranted => exact Or.inl rfl
  | undeliveredByClaim => exact Or.inl rfl
  | undeliveredByFailure => exact Or.inl rfl
  | reported =>
      split
      · exact Or.inl rfl
      · exact Or.inr (Or.inl rfl)
  | sent t tx =>
      unfold MarkSentTx.rowWrite
      split
      · exact Or.inl rfl
      · exact Or.inr (Or.inl rfl)
  | reactivated t tx down inProgress recovery target =>
      exact Or.inr (Or.inr ⟨t, tx, inProgress, target, rfl⟩)
  | retiredByMonitor t tx => exact Or.inr (Or.inl (byRuntime tx.now))
  | retiredByChannel t tx => exact Or.inr (Or.inl (byRuntime tx.now))
  | resolved t tx =>
      unfold PersistTx.rowWrite
      dsimp only
      split
      · exact Or.inr (Or.inl rfl)
      · split <;> exact Or.inl rfl

section Views

variable {known : KnownConfigs}

theorem snapshot_view_idle {tx : PersistTx}
    (creates : ∀ key row, (key, row) ∈ tx.outbox.creates →
      CopyOf known key.channelId row.encryptedConfigSnapshot)
    (idle : ∀ resolution, tx.stage ≠ .resolving resolution) : SnapshotView known tx := by
  refine ⟨creates, ?_⟩
  intro resolution key down stage
  exact absurd stage (idle resolution)

theorem apply_effect_snapshot_view {s : System} (channels : ChannelsKnown known s)
    (invariant : SnapshotInvariant known s) {tx : PersistTx} (empty : tx.outbox = .empty)
    (newIncidentId : IncidentId) :
    SnapshotView known (applyIncidentEffect s.db tx newIncidentId) := by
  have nothing : ∀ key row, (key, row) ∈ tx.outbox.creates →
      CopyOf known key.channelId row.encryptedConfigSnapshot := by
    intro key row member
    rw [empty] at member
    cases member
  unfold applyIncidentEffect
  split
  · exact snapshot_view_idle nothing (by simp)
  · split
    · exact snapshot_view_idle nothing (by simp)
    · apply snapshot_view_idle
      · intro key row member
        obtain ⟨channelId, channel, binding, found, _, _, _, rfl, rfl⟩ := create_outbox_row member
        exact channels channelId channel found
      · simp
  · split <;> exact snapshot_view_idle nothing (by simp)
  · split
    · refine ⟨nothing, ?_⟩
      intro resolution key down stage member
      cases stage
      exact invariant.rows key down (mem_recovery_down_events.1 member).1
    · exact snapshot_view_idle nothing (by simp)
  · exact snapshot_view_idle nothing (by simp)

theorem resolve_step_snapshot_view {db : Database} {tx next : PersistTx}
    {rowFree : OutboxKey → Bool} (view : SnapshotView known tx)
    (resolved : resolveStep db tx rowFree = some next) : SnapshotView known next := by
  obtain ⟨resolution, stage, move⟩ := resolve_step_cases resolved
  -- the loop keeps what is left to do until an event is written
  have waiting : ∀ phase outbox, outbox.creates = tx.outbox.creates →
      SnapshotView known { tx with stage := resolution.at phase, outbox := outbox } := by
    intro phase outbox same
    constructor
    · intro key row member
      simp only [same] at member
      exact view.creates key row member
    · intro other key down stored member
      cases stored
      exact view.todo resolution key down stage member
  cases move with
  | finished => exact snapshot_view_idle view.creates (by simp)
  | excluded => exact waiting _ _ rfl
  | planned => exact waiting _ _ rfl
  | canceled => exact waiting _ _ rfl
  | missed => exact waiting _ _ rfl
  | reread => exact waiting _ _ rfl
  | written key down rest decision todo =>
      have head : (key, down) ∈ resolution.todo := by
        rw [todo]
        exact List.mem_cons_self
      constructor
      · intro other row member
        unfold finishDown at member
        simp only at member
        split at member
        · exact view.creates other row member
        · rw [List.mem_append, List.mem_singleton] at member
          rcases member with before | last
          · exact view.creates other row before
          · cases last
            exact view.todo resolution key down stage head
      · intro other otherKey otherDown stored member
        cases stored
        apply view.todo resolution otherKey otherDown stage
        rw [todo]
        exact List.mem_cons_of_mem _ member

end Views

section Steps

variable {known : KnownConfigs} {s after : System} {a : Action}

theorem snapshot_rows_step (invariant : OutboxInvariant s) (snapshots : SnapshotInvariant known s)
    (stepped : Stepped s a after) {key : OutboxKey} {row : OutboxRow}
    (found : after.db.outbox.get key = some row) :
    CopyOf known key.channelId row.encryptedConfigSnapshot := by
  cases before : s.db.outbox.get key with
  | some old =>
      obtain ⟨next, stored, move, _⟩ := step_outbox_row invariant.sequenced stepped before
      rw [found, Option.some_inj] at stored
      subst stored
      rcases row_snapshot_source move with same | gone | ⟨t, tx, inProgress, rfl, same⟩
      · rw [same]
        exact snapshots.rows key old before
      · rw [gone]
        exact .tombstone
      · rw [same]
        exact snapshots.confirmations t tx inProgress
  | none =>
      cases step_outbox_new stepped before found with
      | created t tx inProgress finished member =>
          exact (snapshots.txs t tx inProgress).creates key row member
      | late t tx down inProgress create target =>
          have view : SentView s.db.outbox tx := invariant.views t _ inProgress
          obtain ⟨incident, resolvedAt, monitor, databaseTime, rfl⟩ := view.creates row create
          rw [target]
          exact snapshots.confirmations t tx inProgress

theorem snapshot_attempts_step (snapshots : SnapshotInvariant known s) (stepped : Stepped s a after)
    {attempt : OutboxKey × Nat} {claimed : ClaimedNotification}
    (remembered : after.attempts.get attempt = some claimed) :
    CopyOf known claimed.key.channelId claimed.row.encryptedConfigSnapshot := by
  rcases step_attempt_source stepped remembered with before | ⟨t, tx, _, _, written, _⟩
  · exact snapshots.attempts attempt claimed before
  · obtain ⟨row, found, _, rfl, _⟩ := claim_grant_cases written
    exact snapshots.rows tx.key row found

theorem snapshot_txs_step (ledger : LedgerInvariant s) (channels : ChannelsKnown known s)
    (snapshots : SnapshotInvariant known s) (stepped : Stepped s a after) {u : TxId}
    {ux : PersistTx} (found : after.txs.get u = some (.persist ux)) : SnapshotView known ux := by
  cases step_tx_source stepped found with
  | stayed before => exact snapshots.txs u ux before
  | begun _ _ _ begun =>
      cases begun with
      | persist job id check original config result databaseTime tx running started free =>
          obtain ⟨stage, _, empty⟩ := persist_begin_fresh started
          apply snapshot_view_idle
          · intro key row member
            rw [empty] at member
            cases member
          · simp [stage]
  | advanced tx next same inProgress advance =>
      cases same
      cases advance with
      | effect newIncidentId begun =>
          have empty := ((ledger.views u _ inProgress).2.2 begun).2
          exact apply_effect_snapshot_view channels snapshots empty newIncidentId
      | resolve _ resolved =>
          exact resolve_step_snapshot_view (snapshots.txs u tx inProgress) resolved

theorem snapshot_invariant_step (ledger : LedgerInvariant s) (invariant : OutboxInvariant s)
    (channels : ChannelsKnown known s) (snapshots : SnapshotInvariant known s)
    (stepped : Stepped s a after) : SnapshotInvariant known after := by
  constructor
  · intro key row found
    exact snapshot_rows_step invariant snapshots stepped found
  · intro attempt claimed remembered
    exact snapshot_attempts_step snapshots stepped remembered
  · intro t tx inProgress
    cases step_tx_source stepped inProgress with
    | stayed before => exact snapshots.confirmations t tx before
    | advanced _ _ same => cases same
    | begun _ _ _ begun =>
        cases begun with
        | markSent attempt claimed providerMessageId now databaseTime remembered free =>
            exact snapshots.attempts attempt claimed remembered
  · intro t tx inProgress
    exact snapshot_txs_step ledger channels snapshots stepped inProgress

end Steps

end LinkAlive
