import LinkAlive.Ledger.MonitorRows
import LinkAlive.Store.Constraints
import LinkAlive.Outbox.Bindings
import LinkAlive.Outbox.Origins
import LinkAlive.Network.CheckResults
import LinkAlive.Network.Slots

/-!
# The schema is never violated

The constraints of the schema that no statement of the model checks: the CHECK constraints
on computed columns, the foreign keys, and the unique index on dedupe keys. They hold in
every reachable state, so that no write of the program is rejected for them.
-/

namespace LinkAlive

open Relational Transition

set_option autoImplicit false

inductive ChannelsMove (s : System) (a : Action) (channels : Table ChannelId ChannelRow) : Prop
  | kept : channels = s.db.channels → ChannelsMove s a channels
  | created (id : ChannelId) (displayName : String) (config : ChannelConfig) :
      s.db.channels.get id = none →
      channels = s.db.channels.put id (newChannelRow displayName config) →
        ChannelsMove s a channels
  | written (t : TxId) (tx : ChannelTx) : a = .commit t → s.txs.get t = some (.channel tx) →
      channels = s.db.channels.updateKey tx.id tx.channelWrite → ChannelsMove s a channels

inductive BindingsMove (s : System) (a : Action)
    (bindings : Table (MonitorId × ChannelId) BindingRow) : Prop
  | kept : bindings = s.db.bindings → BindingsMove s a bindings
  | bound (t : TxId) (tx : MonitorTx) : a = .commit t → s.txs.get t = some (.monitor tx) →
      bindings = tx.bindingWrite s.db.bindings → BindingsMove s a bindings
  | unbound (id : ChannelId) :
      bindings = s.db.bindings.deleteWhere (fun key _ => key.2 = id) → BindingsMove s a bindings

section Steps

variable {s after : System} {a : Action}

theorem step_channels (stepped : Stepped s a after) : ChannelsMove s a after.db.channels := by
  cases step_writes stepped with
  | nothing _ same => exact .kept same.channels
  | checks checks jobs _ written => exact .kept (by rw [written])
  | channelCreated id displayName config absent written =>
      exact .created id displayName config absent (by rw [written])
  | persist t tx _ _ written =>
      obtain ⟨_, _, _, _, _, _, same⟩ := persist_commit_cases written
      exact .kept (by rw [same])
  | createDue t tx _ _ written => exact .kept (create_due_checks_kept written).channels
  | monitor t tx _ _ written => exact .kept (monitor_commit_cases written).2.1
  | channel t tx action inProgress written =>
      exact .written t tx action inProgress (by rw [written]; rfl)

theorem step_bindings (stepped : Stepped s a after) : BindingsMove s a after.db.bindings := by
  cases step_writes stepped with
  | nothing _ same => exact .kept same.bindings
  | checks checks jobs _ written => exact .kept (by rw [written])
  | channelCreated id displayName config absent written => exact .kept (by rw [written])
  | persist t tx _ _ written =>
      obtain ⟨_, _, _, _, _, _, same⟩ := persist_commit_cases written
      exact .kept (by rw [same])
  | createDue t tx _ _ written => exact .kept (create_due_checks_kept written).bindings
  | monitor t tx action inProgress written =>
      exact .bound t tx action inProgress (monitor_commit_cases written).2.2.1
  | channel t tx _ _ written =>
      rw [written]
      simp only [channelCommit, ChannelTx.retireWrite]
      split
      · exact .kept rfl
      · exact .unbound tx.id rfl

theorem step_channel_stays (stepped : Stepped s a after) {id : ChannelId} {row : ChannelRow}
    (found : s.db.channels.get id = some row) : ∃ next, after.db.channels.get id = some next := by
  cases step_channels stepped with
  | kept same =>
      rw [same]
      exact ⟨row, found⟩
  | created newId displayName config _ same =>
      rw [same, Table.get_put]
      split
      · exact ⟨_, rfl⟩
      · exact ⟨row, found⟩
  | written t tx _ _ same =>
      rw [same, Table.get_update_key, found]
      split
      · exact ⟨_, rfl⟩
      · exact ⟨row, rfl⟩

end Steps

def ChannelExists (channels : Table ChannelId ChannelRow) (id : ChannelId) : Prop :=
  ∃ channel, channels.get id = some channel

structure RowReferences (channels : Table ChannelId ChannelRow) (key : OutboxKey)
    (row : OutboxRow) : Prop where
  channel : ChannelExists channels key.channelId
  lease : row.leaseOwner.isSome = row.leaseUntil.isSome
  dedupe : row.messageId.dedupeKey =
    createNotificationDedupeKey key.incidentId key.channelId row.eventType

/-- What a transaction is about to write fits the schema. -/
def TxReferences (db : Database) : Transaction → Prop
  | .persist tx =>
      (∀ key row, (key, row) ∈ tx.outbox.creates → RowReferences db.channels key row) ∧
        ∀ id incident, tx.incident = .create id incident → 1 ≤ incident.configVersion
  | .markSent tx => ∀ row, tx.recovery = .create row →
      RowReferences db.channels tx.claimed.key.followUp row
  | .monitor tx => ∀ id ∈ tx.change.bindsChannels, ChannelExists db.channels id
  | .channel tx => ∃ row, db.channels.get tx.id = some row ∧ row.deletedAt = none
  | .claim _ | .createDue _ => True

structure ReferenceInvariant (s : System) : Prop where
  checks : ∀ id row, s.db.checks.get id = some row →
    (∃ monitor, s.db.monitors.get row.monitorId = some monitor) ∧ 1 ≤ row.configVersion
  results : ∀ id result, s.db.results.get id = some result →
    ∃ check, s.db.checks.get id = some check ∧ check.monitorId = result.monitorId ∧
      check.configVersion = result.configVersion
  incidents : ∀ id row, s.db.incidents.get id = some row →
    (∃ monitor, s.db.monitors.get row.monitorId = some monitor) ∧ 1 ≤ row.configVersion
  bindings : ∀ monitorId channelId binding,
    s.db.bindings.get (monitorId, channelId) = some binding →
      (∃ monitor, s.db.monitors.get monitorId = some monitor) ∧
        ChannelExists s.db.channels channelId
  rows : ∀ key row, s.db.outbox.get key = some row → RowReferences s.db.channels key row
  channels : ∀ id row, s.db.channels.get id = some row → row.deletedAt.isSome = true →
    row.enabled = false
  txs : ∀ t tx, s.txs.get t = some tx → TxReferences s.db tx
  exclusive : ∀ id, Exclusive (Transaction.locksChannel id) s

section Kept

variable {s after : System} {a : Action}

theorem channel_exists_kept (stepped : Stepped s a after) {id : ChannelId}
    (known : ChannelExists s.db.channels id) : ChannelExists after.db.channels id := by
  obtain ⟨row, found⟩ := known
  exact step_channel_stays stepped found

theorem RowReferences.kept (stepped : Stepped s a after) {key : OutboxKey} {row : OutboxRow}
    (references : RowReferences s.db.channels key row) :
    RowReferences after.db.channels key row :=
  ⟨channel_exists_kept stepped references.channel, references.lease, references.dedupe⟩

/-- Every update of a row writes both columns of a lease or neither. -/
theorem OutboxMove.lease_pair {key : OutboxKey} {row next : OutboxRow}
    (move : OutboxMove s key row a next)
    (pair : row.leaseOwner.isSome = row.leaseUntil.isSome) :
    next.leaseOwner.isSome = next.leaseUntil.isSome := by
  cases move with
  | kept => exact pair
  | dispatched d state decision =>
      cases decision with
      | disabled => rfl
      | wait => exact pair
      | undelivered retain =>
          cases retain <;> rfl
      | dispatch => rfl
  | finished d state accepted _ _ held =>
      simp only [OutboxRow.claimHeldBy, Bool.and_eq_true, decide_eq_true_eq] at held
      cases accepted with
      | false => rfl
      | true =>
          change row.leaseOwner.isSome = true
          rw [held.1]
          rfl
  | claimDisabled t tx =>
      unfold OutboxRow.canceledByClaim
      split
      · exact pair
      · rfl
  | claimExhausted => rfl
  | claimGranted => rfl
  | undeliveredByClaim => rfl
  | undeliveredByFailure => rfl
  | reported attempt claimed error now retryDelayMs => split <;> rfl
  | sent t tx =>
      unfold MarkSentTx.rowWrite
      split <;> rfl
  | reactivated => rfl
  | retiredByMonitor t tx =>
      unfold OutboxRow.retiredByRuntime
      split
      · exact pair
      · rfl
  | retiredByChannel t tx =>
      unfold OutboxRow.retiredByRuntime
      split
      · exact pair
      · rfl
  | resolved t tx =>
      unfold PersistTx.rowWrite
      simp only
      split <;> split
      · rfl
      · exact pair
      · rfl
      · exact pair

end Kept

section Loop

variable {db : Database} {tx : PersistTx}

theorem create_outbox_references {incidentId : IncidentId} {incident : IncidentRow}
    {key : OutboxKey} {row : OutboxRow}
    (member : (key, row) ∈ createOutbox db tx incidentId incident) :
    RowReferences db.channels key row := by
  obtain ⟨channelId, channel, binding, found, -, -, -, rfl, rfl⟩ := create_outbox_row member
  exact ⟨⟨channel, found⟩, rfl, rfl⟩

theorem apply_effect_references (empty : tx.outbox = .empty) (untouched : tx.incident = .none)
    (version : 1 ≤ tx.monitor.configVersion) (newIncidentId : IncidentId) :
    TxReferences db (.persist (applyIncidentEffect db tx newIncidentId)) := by
  have nothing : ∀ key row, (key, row) ∈ tx.outbox.creates → RowReferences db.channels key row := by
    intro key row member
    rw [empty] at member
    cases member
  have noIncident : ∀ id incident, tx.incident = .create id incident →
      1 ≤ incident.configVersion := by
    intro id incident write
    rw [untouched] at write
    cases write
  have idle : ∀ write : IncidentWrite, (∀ id incident, write ≠ .create id incident) →
      ∀ id incident, write = .create id incident → 1 ≤ incident.configVersion := by
    intro write other id incident same
    exact absurd same (other id incident)
  unfold applyIncidentEffect
  split
  · exact ⟨nothing, noIncident⟩
  · split
    · exact ⟨nothing, idle _ (by simp)⟩
    · constructor
      · intro key row member
        exact create_outbox_references member
      · intro id incident same
        cases same
        exact version
  · split
    · exact ⟨nothing, idle _ (by simp)⟩
    · exact ⟨nothing, noIncident⟩
  · split
    · exact ⟨nothing, idle _ (by simp)⟩
    · exact ⟨nothing, noIncident⟩
  · exact ⟨nothing, noIncident⟩

theorem resolve_step_references {next : PersistTx} {rowFree : OutboxKey → Bool}
    (known : ∀ key row, db.outbox.get key = some row → ChannelExists db.channels key.channelId)
    (view : OutboxView db.outbox tx) (references : TxReferences db (.persist tx))
    (resolved : resolveStep db tx rowFree = some next) : TxReferences db (.persist next) := by
  obtain ⟨resolution, stage, move⟩ := resolve_step_cases resolved
  obtain ⟨creates, opens⟩ := references
  cases move with
  | finished => exact ⟨creates, opens⟩
  | excluded => exact ⟨creates, opens⟩
  | planned => exact ⟨creates, opens⟩
  | missed => exact ⟨creates, opens⟩
  | canceled => exact ⟨creates, opens⟩
  | reread => exact ⟨creates, opens⟩
  | written key down rest decision todo phase free =>
      refine ⟨?_, opens⟩
      intro other row member
      unfold finishDown at member
      simp only at member
      split at member
      · exact creates other row member
      · rw [List.mem_append, List.mem_singleton] at member
        rcases member with before | last
        · exact creates other row before
        · obtain ⟨own, -, stored, found, -⟩ := (view.todo resolution stage).rows key down
            (by rw [todo]; exact List.mem_cons_self)
          cases last
          exact ⟨known key stored found, rfl, rfl⟩

end Loop

theorem mark_sent_begin_references {s : System} (invariant : OutboxInvariant s)
    (known : ∀ key row, s.db.outbox.get key = some row →
      ChannelExists s.db.channels key.channelId)
    {attempt : OutboxKey × Nat} {claimed : ClaimedNotification}
    (remembered : s.attempts.get attempt = some claimed) (providerMessageId : Option String)
    (now databaseTime : Time) :
    TxReferences s.db
      (.markSent (markSentBegin s.db claimed providerMessageId now databaseTime)) := by
  have claim := invariant.claims attempt claimed remembered
  have view := mark_sent_begin_view claim providerMessageId now databaseTime
  intro row creates
  obtain ⟨incident, resolvedAt, monitor, time, rfl⟩ := view.creates row creates
  obtain ⟨down, found, -⟩ := claim
  exact ⟨known claimed.key down found, rfl, rfl⟩

theorem monitor_change_references {db : Database} {id : MonitorId} {request : MonitorRequest}
    {change : MonitorChange} (accepted : monitorChange db id request = some change) :
    ∀ channelId ∈ change.bindsChannels, ChannelExists db.channels channelId := by
  intro channelId member
  have live := List.all_eq_true.1 (monitor_change_binds accepted) channelId member
  unfold channelLive at live
  split at live
  · rename_i channel found
    exact ⟨channel, found⟩
  · cases live

/-- The slot of a check that `createDueChecks` inserts is the one of a due monitor. -/
theorem created_check_slot {db after : Database} {now : Time}
    {due : List (DueMonitor × CheckId)} (created : createDueChecks db now due = some after)
    {id : CheckId} {check : CheckRow} (absent : db.checks.get id = none)
    (found : after.checks.get id = some check) :
    ∃ entry ∈ due, check.monitorId = entry.1.id ∧
      check.configVersion = entry.1.configVersion := by
  induction due generalizing db with
  | nil =>
      cases created
      rw [absent] at found
      cases found
  | cons head rest ih =>
      simp only [createDueChecks, Option.bind_eq_bind, Option.bind_eq_some_iff] at created
      obtain ⟨middle, first, later⟩ := created
      cases stored : middle.checks.get id with
      | none =>
          obtain ⟨entry, member, slot⟩ := ih later stored
          exact ⟨entry, List.mem_cons_of_mem _ member, slot⟩
      | some row =>
          have kept : after.checks.get id = some row :=
            (create_due_checks_kept later).checks id row stored
          rw [found, Option.some.injEq] at kept
          rw [kept]
          refine ⟨head, List.mem_cons_self, ?_⟩
          rcases create_due_check_cases first with rfl | ⟨scheduledAt, next, -, -, -, -, rfl⟩
          · rw [absent] at stored
            cases stored
          · dsimp only at stored
            rw [Table.get_put] at stored
            split at stored
            · cases stored
              exact ⟨rfl, rfl⟩
            · rw [absent] at stored
              cases stored

section Steps

variable {s after : System} {a : Action}

theorem monitor_kept (stepped : Stepped s a after) {id : MonitorId}
    (known : ∃ monitor, s.db.monitors.get id = some monitor) :
    ∃ monitor, after.db.monitors.get id = some monitor := by
  obtain ⟨row, found⟩ := known
  exact step_monitor_stays stepped found

theorem step_added_check (ledger : LedgerInvariant s) (stepped : Stepped s a after)
    {id : CheckId} {check : CheckRow} (absent : s.db.checks.get id = none)
    (found : after.db.checks.get id = some check) :
    ∃ due, DueView s.db due ∧ check.monitorId = due.id ∧
      check.configVersion = due.configVersion := by
  have impossible : s.db.checks.get id = some check → ∃ due, DueView s.db due ∧
      check.monitorId = due.id ∧ check.configVersion = due.configVersion := by
    intro stored
    rw [absent] at stored
    cases stored
  cases step_writes stepped with
  | nothing same _ =>
      rw [same.checks] at found
      exact impossible found
  | checks checks jobs statement written =>
      rw [written] at found
      dsimp only at found
      rw [(ledger_statement_moves statement ledger id).1 absent] at found
      cases found
  | channelCreated _ _ _ _ written =>
      rw [written] at found
      exact impossible found
  | channel t tx _ _ written =>
      rw [written, (channel_commit_same_ledger s.db tx).checks] at found
      exact impossible found
  | persist t tx _ _ written =>
      obtain ⟨_, _, _, _, _, _, same⟩ := persist_commit_cases written
      rw [same] at found
      dsimp only at found
      split at found
      · exact impossible found
      · rw [Table.get_update_key] at found
        split at found
        · rw [absent] at found
          cases found
        · exact impossible found
  | createDue t tx _ inProgress written =>
      obtain ⟨entry, member, slot⟩ := created_check_slot written absent found
      have views : ∀ entry ∈ tx.due, DueView s.db entry.1 := ledger.views t _ inProgress
      exact ⟨entry.1, views entry member, slot⟩
  | monitor t tx _ _ written =>
      rw [(monitor_commit_cases written).2.2.2.2.1,
        (runtime_checks_moved s.db tx id).1 absent] at found
      cases found

theorem step_added_result (stepped : Stepped s a after) {id : CheckId} {result : CheckResultRow}
    (absent : s.db.results.get id = none) (found : after.db.results.get id = some result) :
    ∃ t tx, s.txs.get t = some (.persist tx) ∧ tx.checkId = id ∧ result = resultRow tx := by
  have impossible : s.db.results.get id = some result → ∃ t tx,
      s.txs.get t = some (.persist tx) ∧ tx.checkId = id ∧ result = resultRow tx := by
    intro stored
    rw [absent] at stored
    cases stored
  cases step_writes stepped with
  | nothing same _ =>
      rw [same.results] at found
      exact impossible found
  | checks checks jobs _ written =>
      rw [written] at found
      exact impossible found
  | channelCreated _ _ _ _ written =>
      rw [written] at found
      exact impossible found
  | channel t tx _ _ written =>
      rw [written, (channel_commit_same_ledger s.db tx).results] at found
      exact impossible found
  | createDue t tx _ _ written =>
      rw [(create_due_checks_kept written).results] at found
      exact impossible found
  | monitor t tx _ _ written =>
      rw [(monitor_commit_cases written).1] at found
      exact impossible found
  | persist t tx _ inProgress written =>
      obtain ⟨results, _, _, inserted, _, _, stored⟩ := persist_commit_cases written
      rw [Table.insert_new_eq_some] at inserted
      simp only [stored, inserted.2, Table.get_put] at found
      split at found
      · rename_i same
        cases found
        exact ⟨t, tx, inProgress, same.symm, rfl⟩
      · exact impossible found

theorem check_references_step (ledger : LedgerInvariant s) (lifecycle : LifecycleInvariant s)
    (invariant : ReferenceInvariant s) (stepped : Stepped s a after) {id : CheckId}
    {row : CheckRow} (found : after.db.checks.get id = some row) :
    (∃ monitor, after.db.monitors.get row.monitorId = some monitor) ∧ 1 ≤ row.configVersion := by
  cases before : s.db.checks.get id with
  | none =>
      obtain ⟨due, view, own, version⟩ := step_added_check ledger stepped before found
      obtain ⟨monitor, stored, -, same⟩ := view
      rw [own, version, ← same]
      exact ⟨monitor_kept stepped ⟨monitor, stored⟩, lifecycle.version due.id monitor stored⟩
  | some old =>
      obtain ⟨next, stored, move⟩ := step_check_move ledger stepped before
      rw [found, Option.some.injEq] at stored
      rw [stored]
      obtain ⟨known, version⟩ := invariant.checks id old before
      rw [move.slot.1, move.slot.2.2]
      exact ⟨monitor_kept stepped known, version⟩

theorem result_references_step (ledger : LedgerInvariant s) (invariant : ReferenceInvariant s)
    (stepped : Stepped s a after) {id : CheckId} {result : CheckResultRow}
    (found : after.db.results.get id = some result) :
    ∃ check, after.db.checks.get id = some check ∧ check.monitorId = result.monitorId ∧
      check.configVersion = result.configVersion := by
  have kept : ∀ check, s.db.checks.get id = some check → check.monitorId = result.monitorId →
      check.configVersion = result.configVersion → ∃ next, after.db.checks.get id = some next ∧
        next.monitorId = result.monitorId ∧ next.configVersion = result.configVersion := by
    intro check stored monitor version
    obtain ⟨next, later, move⟩ := step_check_move ledger stepped stored
    exact ⟨next, later, move.slot.1.trans monitor, move.slot.2.2.trans version⟩
  cases before : s.db.results.get id with
  | none =>
      obtain ⟨t, tx, inProgress, own, same⟩ := step_added_result stepped before found
      have view : TxView s.db (.persist tx) := ledger.views t _ inProgress
      obtain ⟨check, stored, slot, -⟩ := view.1.check
      rw [own] at stored
      rw [same] at kept ⊢
      exact kept check stored slot.1 slot.2.2
  | some old =>
      have stays := step_results_kept stepped before
      rw [found, Option.some.injEq] at stays
      rw [← stays] at before
      obtain ⟨check, stored, monitor, version⟩ := invariant.results id result before
      exact kept check stored monitor version

theorem incident_references_step (ledger : LedgerInvariant s) (invariant : ReferenceInvariant s)
    (stepped : Stepped s a after) {id : IncidentId} {row : IncidentRow}
    (found : after.db.incidents.get id = some row) :
    (∃ monitor, after.db.monitors.get row.monitorId = some monitor) ∧ 1 ≤ row.configVersion := by
  have kept : ∀ old, s.db.incidents.get id = some old → row.monitorId = old.monitorId →
      row.configVersion = old.configVersion →
        (∃ monitor, after.db.monitors.get row.monitorId = some monitor) ∧
          1 ≤ row.configVersion := by
    intro old stored monitor version
    obtain ⟨known, least⟩ := invariant.incidents id old stored
    rw [monitor, version]
    exact ⟨monitor_kept stepped known, least⟩
  cases step_incident_row ledger stepped found with
  | kept stored => exact kept row stored rfl rfl
  | created t tx _ inProgress opens =>
      have view : TxView s.db (.persist tx) := ledger.views t _ inProgress
      have references : TxReferences s.db (.persist tx) := invariant.txs t _ inProgress
      obtain ⟨owner, -⟩ := view.2.1.created opens
      rw [owner]
      exact ⟨monitor_kept stepped ⟨tx.monitor, view.1.monitor⟩, references.2 id row opens⟩
  | touched t tx old error _ _ _ stored _ _ same =>
      rw [same] at kept ⊢
      exact kept old stored rfl rfl
  | resolved t tx old time _ _ _ stored _ _ same =>
      rw [same] at kept ⊢
      exact kept old stored rfl rfl
  | canceled t tx old reason attempts _ _ _ stored _ _ same =>
      rw [same] at kept ⊢
      exact kept old stored rfl rfl

/-- The monitor of an operation exists once the operation has ended. -/
theorem monitor_commit_exists (lifecycle : LifecycleInvariant s) {t : TxId}
    (stepped : Stepped s (.commit t) after) {tx : MonitorTx}
    (inProgress : s.txs.get t = some (.monitor tx)) :
    ∃ monitor, after.db.monitors.get tx.id = some monitor := by
  cases create : tx.change.isCreate with
  | false =>
      obtain ⟨row, found, -⟩ := lifecycle.reads t tx inProgress create
      exact step_monitor_stays stepped found
  | true =>
      obtain ⟨-, written, -⟩ := monitor_committed stepped inProgress
      obtain ⟨-, -, -, -, -, -, monitors⟩ := monitor_commit_cases written
      rcases monitors with ⟨input, -, -, stored⟩ | ⟨notCreate, -⟩
      · rw [stored, Table.get_put, if_pos rfl]
        exact ⟨_, rfl⟩
      · rw [create] at notCreate
        cases notCreate

/-- A binding after an operation belongs to its monitor or was there before. -/
theorem binding_write_owner {tx : MonitorTx}
    {bindings : Table (MonitorId × ChannelId) BindingRow} {key : MonitorId × ChannelId}
    {binding : BindingRow} (stored : (tx.bindingWrite bindings).get key = some binding) :
    key.1 = tx.id ∨ bindings.get key = some binding := by
  have inserted : ∀ (table : Table (MonitorId × ChannelId) BindingRow) channelIds,
      (insertBindings table tx.id channelIds).get key = some binding →
        key.1 = tx.id ∨ table.get key = some binding := by
    intro table channelIds found
    rw [insert_bindings_get] at found
    split at found
    · rename_i own
      exact .inl own.1
    · exact .inr found
  unfold MonitorTx.bindingWrite at stored
  split at stored
  · exact inserted _ _ stored
  · rcases inserted _ _ stored with own | kept
    · exact .inl own
    · rw [Table.get_delete_where_eq_some] at kept
      exact .inr kept.1
  · exact .inr stored
  · exact .inr stored
  · exact .inr stored

theorem binding_references_step (lifecycle : LifecycleInvariant s)
    (invariant : ReferenceInvariant s) (stepped : Stepped s a after) {monitorId : MonitorId}
    {channelId : ChannelId} {binding : BindingRow}
    (found : after.db.bindings.get (monitorId, channelId) = some binding) :
    (∃ monitor, after.db.monitors.get monitorId = some monitor) ∧
      ChannelExists after.db.channels channelId := by
  have kept : s.db.bindings.get (monitorId, channelId) = some binding →
      (∃ monitor, after.db.monitors.get monitorId = some monitor) ∧
        ChannelExists after.db.channels channelId := by
    intro stored
    obtain ⟨monitor, channel⟩ := invariant.bindings monitorId channelId binding stored
    exact ⟨monitor_kept stepped monitor, channel_exists_kept stepped channel⟩
  cases step_bindings stepped with
  | kept same =>
      rw [same] at found
      exact kept found
  | unbound id same =>
      rw [same, Table.get_delete_where_eq_some] at found
      exact kept found.1
  | bound t tx committed inProgress same =>
      rw [same] at found
      have references : TxReferences s.db (.monitor tx) := invariant.txs t _ inProgress
      constructor
      · rcases binding_write_owner found with own | before
        · dsimp only at own
          subst committed
          rw [own]
          exact monitor_commit_exists lifecycle stepped inProgress
        · exact (kept before).1
      · rcases binding_write_get found with bound | before
        · exact channel_exists_kept stepped (references channelId bound)
        · exact (kept before).2

theorem row_references_step (outbox : OutboxInvariant s) (invariant : ReferenceInvariant s)
    (stepped : Stepped s a after) {key : OutboxKey} {row : OutboxRow}
    (found : after.db.outbox.get key = some row) : RowReferences after.db.channels key row := by
  cases before : s.db.outbox.get key with
  | none =>
      cases step_outbox_new stepped before found with
      | created t tx inProgress finished member =>
          have references : TxReferences s.db (.persist tx) := invariant.txs t _ inProgress
          exact (references.1 key row member).kept stepped
      | late t tx down inProgress create follow =>
          have references : TxReferences s.db (.markSent tx) := invariant.txs t _ inProgress
          rw [follow]
          exact (references row create).kept stepped
  | some old =>
      obtain ⟨next, stored, move, -⟩ := step_outbox_row outbox.sequenced stepped before
      rw [found, Option.some.injEq] at stored
      subst stored
      have references := (invariant.rows key old before).kept stepped
      have same := move.same_event
      refine ⟨references.channel, move.lease_pair references.lease, ?_⟩
      rw [same.messageId, same.eventType]
      exact references.dedupe

theorem channel_patched_deleted (row : ChannelRow) (patch : ChannelPatch) :
    (row.patched patch).deletedAt = row.deletedAt := by
  unfold ChannelRow.patched
  simp only
  split
  · rfl
  · split <;> rfl

theorem channel_references_step (invariant : ReferenceInvariant s) (stepped : Stepped s a after)
    {id : ChannelId} {row : ChannelRow} (found : after.db.channels.get id = some row)
    (deleted : row.deletedAt.isSome = true) : row.enabled = false := by
  cases step_channels stepped with
  | kept same =>
      rw [same] at found
      exact invariant.channels id row found deleted
  | created newId displayName config _ same =>
      rw [same, Table.get_put] at found
      split at found
      · cases found
        cases deleted
      · exact invariant.channels id row found deleted
  | written t tx _ inProgress same =>
      have references : TxReferences s.db (.channel tx) := invariant.txs t _ inProgress
      obtain ⟨current, stored, present⟩ := references
      rw [same, Table.get_update_key] at found
      split at found
      · rename_i own
        rw [own, stored, Option.map_some, Option.some.injEq] at found
        subst found
        unfold ChannelTx.channelWrite at deleted ⊢
        split
        · rename_i patch attempts change
          simp only [change] at deleted
          rw [channel_patched_deleted, present] at deleted
          cases deleted
        · rfl
      · exact invariant.channels id row found deleted

/-- What a transaction in progress is about to write still fits after another step. -/
theorem tx_references_kept (invariant : ReferenceInvariant s) (stepped : Stepped s a after)
    {t : TxId} {tx : Transaction} (inProgress : s.txs.get t = some tx)
    (stays : after.txs.get t = some tx) (references : TxReferences s.db tx) :
    TxReferences after.db tx := by
  cases tx with
  | persist tx =>
      refine ⟨?_, references.2⟩
      intro key row member
      exact (references.1 key row member).kept stepped
  | markSent tx =>
      intro row creates
      exact (references row creates).kept stepped
  | monitor tx =>
      intro id member
      exact channel_exists_kept stepped (references id member)
  | channel tx =>
      obtain ⟨row, found, present⟩ := references
      cases step_channels stepped with
      | kept same =>
          refine ⟨row, ?_, present⟩
          rw [same]
          exact found
      | created newId displayName config absent same =>
          refine ⟨row, ?_, present⟩
          rw [same, Table.get_put]
          split
          · rename_i own
            rw [own, absent] at found
            cases found
          · exact found
      | written u ux committed other same =>
          -- the lock of the channel leaves no room for another operation on it
          have different : tx.id ≠ ux.id := by
            intro own
            have held : (Transaction.channel tx).locksChannel ux.id = true := decide_eq_true own
            have lock : (Transaction.channel ux).locksChannel ux.id = true := decide_eq_true rfl
            have alone := invariant.exclusive ux.id t u _ _ inProgress other held lock
            subst committed
            rw [alone, commit_ends stepped other] at stays
            cases stays
          refine ⟨row, ?_, present⟩
          rw [same, Table.get_update_key, if_neg different]
          exact found
  | claim tx => trivial
  | createDue tx => trivial

theorem tx_references_begun (outbox : OutboxInvariant s) (invariant : ReferenceInvariant s)
    {t : TxId} {tx : Transaction} {jobs : Jobs} {attempts : Attempts}
    (begun : TxBegin s t a tx jobs attempts) : TxReferences s.db tx := by
  have known : ∀ key row, s.db.outbox.get key = some row →
      ChannelExists s.db.channels key.channelId :=
    fun key row found => (invariant.rows key row found).channel
  cases begun with
  | persist job id check original config result databaseTime tx running started free =>
      obtain ⟨-, untouched, empty⟩ := persist_begin_fresh started
      constructor
      · intro key row member
        rw [empty] at member
        cases member
      · intro id incident write
        rw [untouched] at write
        cases write
  | markSent attempt claimed providerMessageId now databaseTime remembered free =>
      exact mark_sent_begin_references outbox known remembered providerMessageId now databaseTime
  | monitor id request change now initialNextCheckAt accepted free =>
      exact monitor_change_references accepted
  | channel id request change now accepted free =>
      simp only [channelChange, Option.bind_eq_bind, Option.bind_eq_some_iff] at accepted
      obtain ⟨current, found, accepted⟩ := accepted
      split at accepted
      · cases accepted
      · rename_i present
        exact ⟨current, found, by simpa using present⟩
  | claim => trivial
  | createDue => trivial

theorem tx_references_advanced (ledger : LedgerInvariant s) (lifecycle : LifecycleInvariant s)
    (outbox : OutboxInvariant s) (invariant : ReferenceInvariant s) {t : TxId}
    {tx next : PersistTx} (inProgress : s.txs.get t = some (.persist tx))
    (advance : PersistAdvance s t tx a next) : TxReferences s.db (.persist next) := by
  have view : TxView s.db (.persist tx) := ledger.views t _ inProgress
  obtain ⟨persist, -, start⟩ := view
  cases advance with
  | effect newIncidentId begun =>
      obtain ⟨untouched, empty⟩ := start begun
      have version := lifecycle.version tx.monitorId tx.monitor persist.monitor
      exact apply_effect_references empty untouched version newIncidentId
  | resolve _ resolved =>
      have known : ∀ key row, s.db.outbox.get key = some row →
          ChannelExists s.db.channels key.channelId :=
        fun key row found => (invariant.rows key row found).channel
      exact resolve_step_references known (outbox.views t _ inProgress)
        (invariant.txs t _ inProgress) resolved

theorem channel_locks_step (stepped : Stepped s a after) {id : ChannelId}
    (exclusive : Exclusive (Transaction.locksChannel id) s) :
    Exclusive (Transaction.locksChannel id) after := by
  apply exclusive_step stepped exclusive
  · intro t tx jobs attempts begun held
    cases begun with
    | channel own request change now accepted free =>
        have same : own = id := of_decide_eq_true held
        rw [← same]
        exact free
    | monitor => cases held
    | createDue => cases held
    | persist => cases held
    | claim => cases held
    | markSent => cases held
  · intro t tx next inProgress advance held
    cases held

theorem reference_invariant_step (ledger : LedgerInvariant s) (lifecycle : LifecycleInvariant s)
    (outbox : OutboxInvariant s) (invariant : ReferenceInvariant s)
    (taken : step s a = some after) : ReferenceInvariant after := by
  have stepped := step_cases taken
  constructor
  · intro id row found
    exact check_references_step ledger lifecycle invariant stepped found
  · intro id result found
    exact result_references_step ledger invariant stepped found
  · intro id row found
    exact incident_references_step ledger invariant stepped found
  · intro monitorId channelId binding found
    exact binding_references_step lifecycle invariant stepped found
  · intro key row found
    exact row_references_step outbox invariant stepped found
  · intro id row found deleted
    exact channel_references_step invariant stepped found deleted
  · intro t tx found
    cases step_tx_source stepped found with
    | stayed before =>
        exact tx_references_kept invariant stepped before found (invariant.txs t tx before)
    | begun _ _ _ begun same =>
        rw [same]
        exact tx_references_begun outbox invariant begun
    | advanced tx next same inProgress advance unchanged =>
        subst same
        rw [unchanged]
        exact tx_references_advanced ledger lifecycle outbox invariant inProgress advance
  · intro id
    exact channel_locks_step stepped (invariant.exclusive id)

end Steps

theorem reference_invariant_reachable {s : System} (reachable : Reachable s) :
    ReferenceInvariant s := by
  apply reachable.invariant_with
    (fun state => LedgerInvariant state ∧ LifecycleInvariant state ∧ OutboxInvariant state)
    ReferenceInvariant
  · intro state holds
    exact ⟨ledger_invariant_reachable holds, lifecycle_invariant_reachable holds,
      outbox_invariant_reachable holds⟩
  · constructor
    · intro id row found
      cases found
    · intro id result found
      cases found
    · intro id row found
      cases found
    · intro monitorId channelId binding found
      cases found
    · intro key row found
      cases found
    · intro id row found
      cases found
    · intro t tx found
      cases found
    · intro id t u tx ux found
      cases found
  · intro state a after known invariant taken
    exact reference_invariant_step known.1 known.2.1 known.2.2 invariant taken

/-- The monitors that a round of the scheduler has locked have no active check: the locking
select has seen none, and only a round that holds the lock creates one. -/
def IdleRounds (s : System) : Prop :=
  ∀ t tx, s.txs.get t = some (.createDue tx) →
    ∀ entry ∈ tx.due, hasActiveCheck s.db.checks entry.1.id = false

theorem due_monitor_idle {db : Database} {now : Time} {id : MonitorId} {due : DueMonitor}
    (found : dueMonitor db now id = some due) : hasActiveCheck db.checks id = false := by
  simp only [dueMonitor, Option.bind_eq_bind, Option.bind_eq_some_iff] at found
  obtain ⟨monitor, -, next, -, chosen⟩ := found
  split at chosen
  · rename_i guards
    rw [Bool.and_eq_true, Bool.not_eq_true'] at guards
    exact guards.2
  · cases chosen

theorem idle_rounds_step {s after : System} {a : Action} (ledger : LedgerInvariant s)
    (idle : IdleRounds s) (taken : step s a = some after) : IdleRounds after := by
  have stepped := step_cases taken
  intro t tx later entry member
  cases step_tx_source stepped later with
  | advanced before next same => cases same
  | begun jobs attempts unused begun same =>
      rw [same]
      cases begun with
      | createDue now chosen due selected =>
          exact due_monitor_idle (due_entries_mem selected entry member).1
  | stayed inProgress =>
      have none := has_active_check_eq_false.1 (idle t tx inProgress entry member)
      rw [has_active_check_eq_false]
      intro id row found own
      rcases Network.step_new_check ledger stepped found with ⟨old, before, slot⟩ | created
      · -- an old check was inactive, and stays so
        obtain ⟨next, stored, move⟩ := step_check_move ledger stepped before
        rw [found, Option.some.injEq] at stored
        have inactive : old.status.isActive = false := by
          apply none id old before
          rw [← slot.1]
          exact own
        rw [stored, move.terminal inactive]
        exact inactive
      · -- a new one is the work of a round that holds the same lock
        obtain ⟨u, ux, action, committing, -, lock⟩ := created
        have held : (Transaction.createDue tx).locksMonitor row.monitorId = true := by
          simp only [Transaction.locksMonitor, List.any_eq_true, decide_eq_true_eq]
          exact ⟨entry, member, own.symm⟩
        have alone := ledger.exclusive row.monitorId t u _ _ inProgress committing held lock
        rw [action] at stepped
        rw [alone, commit_ends stepped committing] at later
        cases later

theorem idle_rounds_reachable {s : System} (reachable : Reachable s) : IdleRounds s := by
  apply reachable.invariant_with LedgerInvariant IdleRounds
  · intro state holds
    exact ledger_invariant_reachable holds
  · intro t tx inProgress
    cases inProgress
  · intro state a after ledger idle taken
    exact idle_rounds_step ledger idle taken

theorem create_due_checks_idle {db after : Database} {now : Time}
    {due : List (DueMonitor × CheckId)} (created : createDueChecks db now due = some after)
    {id : MonitorId} (others : ∀ entry ∈ due, entry.1.id ≠ id)
    (idle : hasActiveCheck db.checks id = false) : hasActiveCheck after.checks id = false := by
  induction due generalizing db with
  | nil =>
      cases created
      exact idle
  | cons head rest ih =>
      simp only [createDueChecks, Option.bind_eq_bind, Option.bind_eq_some_iff] at created
      obtain ⟨middle, first, later⟩ := created
      apply ih later
      · intro entry member
        exact others entry (List.mem_cons_of_mem _ member)
      · rcases create_due_check_cases first with rfl | ⟨scheduledAt, next, -, -, -, -, rfl⟩
        · exact idle
        · rw [has_active_check_eq_false] at idle ⊢
          intro key row found own
          dsimp only at found
          rw [Table.get_put] at found
          split at found
          · cases found
            exact absurd own (others head List.mem_cons_self)
          · exact idle key row found own

/-- `createDueChecks` never inserts a second active check: at each turn of the loop over the
rows of the select, which returns a monitor once, the monitor has none. -/
theorem create_due_never_refused {s : System} (reachable : Reachable s) {t : TxId}
    {tx : CreateDueTx} (inProgress : s.txs.get t = some (.createDue tx))
    (distinct : (tx.due.map fun entry => entry.1.id).Nodup)
    {done rest : List (DueMonitor × CheckId)} {entry : DueMonitor × CheckId}
    (turn : tx.due = done ++ entry :: rest) {db : Database}
    (written : createDueChecks s.db tx.now done = some db) :
    hasActiveCheck db.checks entry.1.id = false := by
  apply create_due_checks_idle written
  · intro other member same
    rw [turn, List.map_append, List.map_cons, List.nodup_append] at distinct
    exact distinct.2.2 other.1.id (List.mem_map_of_mem member) entry.1.id List.mem_cons_self same
  · apply idle_rounds_reachable reachable t tx inProgress
    rw [turn]
    exact List.mem_append_right done List.mem_cons_self

theorem result_texts_fit {s : System} (reachable : Reachable s) :
    ∀ id result message, s.db.results.get id = some result →
      result.errorMessageSafe = some message → textLength message ≤ 1000 := by
  apply reachable.invariant (fun state => ∀ id result message,
    state.db.results.get id = some result → result.errorMessageSafe = some message →
      textLength message ≤ 1000)
  · intro id result message found
    cases found
  · intro state a after fits taken id result message found text
    have stepped := step_cases taken
    cases before : state.db.results.get id with
    | some old =>
        have kept := step_results_kept stepped before
        rw [found, Option.some.injEq] at kept
        rw [kept] at text
        exact fits id old message before text
    | none =>
        obtain ⟨t, tx, -, -, rfl⟩ := step_added_result stepped before found
        simp only [resultRow, Option.map_eq_some_iff] at text
        obtain ⟨full, -, rfl⟩ := text
        exact slice_text_length full 1000

theorem delivery_numbered {s : System} (attempts : AttemptInvariant s) {key : OutboxKey}
    {attempt : Nat} {delivery : DeliveryRow}
    (found : s.db.deliveries.get (key, attempt) = some delivery) :
    ∃ row, s.db.outbox.get key = some row ∧ 1 ≤ attempt ∧ attempt ≤ row.attemptCount := by
  cases stored : s.db.outbox.get key with
  | none =>
      have absent := (attempts.unused key stored).deliveries attempt
      rw [found] at absent
      cases absent
  | some row =>
      have numbered := ((attempts.rows key row stored).1.numbered attempt).1
      rw [found] at numbered
      exact ⟨row, rfl, numbered rfl⟩

/-- No CHECK constraint on computed columns rejects a row. -/
structure ChecksHold (db : Database) : Prop where
  monitors : ∀ id row, db.monitors.get id = some row →
    row.stateCountsCheck = some true ∧ row.deletedLifecycleCheck = some true
  checks : ∀ id row, db.checks.get id = some row →
    row.configVersionCheck = some true ∧ row.leasePairCheck = some true
  incidents : ∀ id row, db.incidents.get id = some row → row.configVersionCheck = some true
  channels : ∀ id row, db.channels.get id = some row → row.deletedCheck = some true
  outbox : ∀ key row, db.outbox.get key = some row →
    row.sequenceCheck key = some true ∧ row.incidentCheck key = some true ∧
      row.monitorCheck = some true ∧ row.attemptsCheck = some true ∧
        row.leasePairCheck = some true
  deliveries : ∀ key attempt delivery, db.deliveries.get (key, attempt) = some delivery →
    deliveryAttemptCheck attempt = some true

/-- Every foreign key refers to a row. -/
structure ReferencesHold (db : Database) : Prop where
  checkMonitor : ∀ id row, db.checks.get id = some row →
    ∃ monitor, db.monitors.get row.monitorId = some monitor
  /-- `check_results_scheduled_identity_fkey`. -/
  resultIdentity : ∀ id result, db.results.get id = some result →
    ∃ check, db.checks.get id = some check ∧ check.monitorId = result.monitorId ∧
      check.configVersion = result.configVersion
  incidentMonitor : ∀ id row, db.incidents.get id = some row →
    ∃ monitor, db.monitors.get row.monitorId = some monitor
  binding : ∀ monitorId channelId binding,
    db.bindings.get (monitorId, channelId) = some binding →
      (∃ monitor, db.monitors.get monitorId = some monitor) ∧
        ChannelExists db.channels channelId
  outboxRow : ∀ key row, db.outbox.get key = some row →
    (∃ monitor, db.monitors.get row.monitorId = some monitor) ∧
      (∃ incident, db.incidents.get key.incidentId = some incident ∧
        incident.monitorId = row.monitorId) ∧ ChannelExists db.channels key.channelId
  delivery : ∀ key attempt delivery, db.deliveries.get (key, attempt) = some delivery →
    ∃ row, db.outbox.get key = some row ∧ attempt ≤ row.attemptCount

/-- `notification_outbox_dedupe_key` and the two indexes on generated columns. -/
structure UniquesHold (db : Database) : Prop where
  dedupe : ∀ key other row otherRow, db.outbox.get key = some row →
    db.outbox.get other = some otherRow →
      row.messageId.dedupeKey = otherRow.messageId.dedupeKey → key = other
  oneActive : ∀ id other row otherRow, db.checks.get id = some row →
    db.checks.get other = some otherRow → row.status.isActive = true →
      otherRow.status.isActive = true → row.monitorId = otherRow.monitorId → id = other
  oneOpen : ∀ id other row otherRow, db.incidents.get id = some row →
    db.incidents.get other = some otherRow → row.status = .opened →
      otherRow.status = .opened → row.monitorId = otherRow.monitorId → id = other

structure SchemaHolds (db : Database) : Prop where
  checks : ChecksHold db
  references : ReferencesHold db
  uniques : UniquesHold db

section Reachable

variable {s : System}

theorem checks_hold (reachable : Reachable s) : ChecksHold s.db := by
  have ledger := (ledger_invariant_reachable reachable).consistent
  have lifecycle := lifecycle_invariant_reachable reachable
  have outbox := outbox_invariant_reachable reachable
  have attempts := attempt_invariant_reachable reachable
  have origins := origin_invariant_reachable reachable
  have references := reference_invariant_reachable reachable
  constructor
  · intro id row found
    exact ⟨MonitorRow.state_counts_of_version (lifecycle.version id row found),
      MonitorRow.deleted_lifecycle_of_iff (lifecycle.deleted id row found)⟩
  · intro id row found
    exact ⟨congrArg some (decide_eq_true (references.checks id row found).2),
      lease_pair_check_iff.2 (ledger.rows id row found).leasePair⟩
  · intro id row found
    exact congrArg some (decide_eq_true (references.incidents id row found).2)
  · intro id row found
    have disabled := references.channels id row found
    rw [ChannelRow.deletedCheck, Sql.Truth.either_eq_true]
    cases deleted : row.deletedAt with
    | none => exact Or.inl rfl
    | some time =>
        rw [deleted] at disabled
        exact Or.inr (congrArg some (decide_eq_true (disabled rfl)))
  · intro key row found
    obtain ⟨event, sequence⟩ := outbox.fits key row found
    have most := (origins.rows key row found).1
    have bounded := (attempts.rows key row found).1.bounded
    have lease := (references.rows key row found).lease
    refine ⟨?_, ?_, ?_, OutboxRow.attempts_of_bounds most bounded, lease_pair_check_iff.2 lease⟩
    · rw [OutboxRow.sequenceCheck, sequence]
      rcases event with same | same | same <;> rw [same] <;> rfl
    · rw [OutboxRow.incidentCheck]
      rcases event with same | same | same <;> rw [same] <;> rfl
    · rw [OutboxRow.monitorCheck]
      rcases event with same | same | same <;> rw [same] <;> rfl
  · intro key attempt delivery found
    have numbered := delivery_numbered attempts found
    obtain ⟨row, -, least, -⟩ := numbered
    exact congrArg some (decide_eq_true least)

theorem references_hold (reachable : Reachable s) : ReferencesHold s.db := by
  have outbox := outbox_invariant_reachable reachable
  have attempts := attempt_invariant_reachable reachable
  have references := reference_invariant_reachable reachable
  constructor
  · intro id row found
    exact (references.checks id row found).1
  · exact references.results
  · intro id row found
    exact (references.incidents id row found).1
  · exact references.bindings
  · intro key row found
    obtain ⟨incident, stored, owner⟩ := outbox.owned key row found
    have monitor := (references.incidents key.incidentId incident stored).1
    rw [owner] at monitor
    exact ⟨monitor, ⟨incident, stored, owner⟩, (references.rows key row found).channel⟩
  · intro key attempt delivery found
    obtain ⟨row, stored, -, most⟩ := delivery_numbered attempts found
    exact ⟨row, stored, most⟩

theorem uniques_hold (reachable : Reachable s) : UniquesHold s.db := by
  have outbox := outbox_invariant_reachable reachable
  have references := reference_invariant_reachable reachable
  constructor
  · intro key other row otherRow found foundOther same
    have one := (references.rows key row found).dedupe
    have two := (references.rows other otherRow foundOther).dedupe
    rw [one, two] at same
    obtain ⟨-, sequence⟩ := outbox.fits key row found
    obtain ⟨-, otherSequence⟩ := outbox.fits other otherRow foundOther
    simp only [createNotificationDedupeKey, DedupeKey.mk.injEq] at same
    obtain ⟨incident, channel, event⟩ := same
    rw [event, ← otherSequence] at sequence
    cases key
    cases other
    simp only at incident channel sequence
    rw [incident, channel, sequence]
  · exact (ledger_invariant_reachable reachable).consistent.single
  · intro id other row otherRow found foundOther isOpen otherOpen same
    have healthy := (health_invariant_reachable reachable).healthy row.monitorId
    exact healthy.single id other ⟨row, found, rfl, isOpen⟩
      ⟨otherRow, foundOther, same.symm, otherOpen⟩

/-- In every reachable state the tables satisfy the schema. -/
theorem schema_holds (reachable : Reachable s) : SchemaHolds s.db :=
  ⟨checks_hold reachable, references_hold reachable, uniques_hold reachable⟩

end Reachable

/-- A state with rows in every table. -/
theorem schema_holds_sample :
    ∃ s : System, (s.db.outbox.get (Script.downKey 1).followUp).isSome = true ∧
      (s.db.deliveries.get (Script.downKey 1, 1)).isSome = true ∧
        (s.db.results.get 2).isSome = true ∧ SchemaHolds s.db := by
  obtain ⟨s, reachable, tested⟩ := reachable_of_script recoveredScript
    (fun s => (s.db.outbox.get (Script.downKey 1).followUp).isSome &&
      (s.db.deliveries.get (Script.downKey 1, 1)).isSome && (s.db.results.get 2).isSome)
    (by decide +kernel)
  rw [Bool.and_eq_true, Bool.and_eq_true] at tested
  exact ⟨s, tested.1.1, tested.1.2, tested.2, schema_holds reachable⟩

end LinkAlive
