import LinkAlive.Outbox.Orphans
import LinkAlive.Outbox.Secrets

/-!
# Bindings to live channels

The monitor service counts the live channels of a request when its transaction begins
and inserts the bindings later; it locks the monitor and not the channels. A channel
that is disabled or removed in between has its bindings deleted before the new ones are
there: the foreign key check waits for the channel's transaction and then asks only
whether the channel exists.
-/

namespace LinkAlive

open Relational Transition

set_option autoImplicit false

def BoundLive (db : Database) : Prop :=
  ∀ monitorId channelId binding, db.bindings.get (monitorId, channelId) = some binding →
    channelLive db channelId = true

def bindsDead (s : System) : Action → Bool
  | .commit t => (s.monitorTx t).any fun tx => !assertChannelIds s.db tx.change.bindsChannels
  | _ => false

/-- Every binding is live, and an update that leaves the channels of its monitor alone
passes the channel check. -/
structure LiveBindings (db : Database) : Prop where
  live : BoundLive db
  accepted : ∀ id currentUrl current (patch : MonitorPatch), patch.channelIds = none →
    assertChannelIds db (mergePatch currentUrl current (boundChannels db id) patch).channelIds =
      true

theorem insert_bindings_get (bindings : Table (MonitorId × ChannelId) BindingRow)
    (monitorId : MonitorId) (channelIds : List ChannelId) (key : MonitorId × ChannelId) :
    (insertBindings bindings monitorId channelIds).get key =
      if key.1 = monitorId ∧ key.2 ∈ channelIds then some newBindingRow else bindings.get key := by
  unfold insertBindings
  induction channelIds generalizing bindings with
  | nil => simp
  | cons channelId rest ih =>
      rw [List.foldl_cons, ih, Table.get_put]
      by_cases later : key.1 = monitorId ∧ key.2 ∈ rest
      · rw [if_pos later, if_pos ⟨later.1, List.mem_cons_of_mem _ later.2⟩]
      · rw [if_neg later]
        by_cases first : key = (monitorId, channelId)
        · subst first
          rw [if_pos rfl, if_pos ⟨rfl, List.mem_cons_self⟩]
        · rw [if_neg first]
          have unbound : ¬ (key.1 = monitorId ∧ key.2 ∈ channelId :: rest) := by
            rintro ⟨owner, member⟩
            rcases List.mem_cons.1 member with head | tail
            · exact first (Prod.ext owner head)
            · exact later ⟨owner, tail⟩
          rw [if_neg unbound]

/-- A binding after the commit is one of the operation's channels or was there before. -/
theorem binding_write_get {tx : MonitorTx} {bindings : Table (MonitorId × ChannelId) BindingRow}
    {key : MonitorId × ChannelId} {binding : BindingRow}
    (stored : (tx.bindingWrite bindings).get key = some binding) :
    key.2 ∈ tx.change.bindsChannels ∨ bindings.get key = some binding := by
  have inserted : ∀ (table : Table (MonitorId × ChannelId) BindingRow) channelIds,
      (insertBindings table tx.id channelIds).get key = some binding →
        key.2 ∈ channelIds ∨ table.get key = some binding := by
    intro table channelIds found
    rw [insert_bindings_get] at found
    split at found
    · rename_i own
      exact .inl own.2
    · exact .inr found
  unfold MonitorTx.bindingWrite at stored
  unfold MonitorChange.bindsChannels
  split at stored
  · exact inserted _ _ stored
  · rename_i merged found change
    rcases inserted _ _ stored with own | kept
    · exact .inl own
    · rw [Table.get_delete_where_eq_some] at kept
      exact .inr kept.1
  · exact .inr stored
  · exact .inr stored
  · exact .inr stored

theorem binding_write_binds (tx : MonitorTx)
    (bindings : Table (MonitorId × ChannelId) BindingRow) {channelId : ChannelId}
    (bound : channelId ∈ tx.change.bindsChannels) :
    (tx.bindingWrite bindings).get (tx.id, channelId) = some newBindingRow := by
  unfold MonitorChange.bindsChannels at bound
  unfold MonitorTx.bindingWrite
  split at bound
  · rw [insert_bindings_get, if_pos ⟨rfl, bound⟩]
  · rw [replaceBindings, insert_bindings_get, if_pos ⟨rfl, bound⟩]
  · cases bound
  · cases bound
  · cases bound

theorem bound_live_of_same {db other : Database} (same : SameChannels db other)
    (bound : BoundLive db) : BoundLive other := by
  intro monitorId channelId binding stored
  rw [same.bindings] at stored
  have live := bound monitorId channelId binding stored
  rw [channelLive, same.channels]
  exact live

/-- The commit of a monitor transaction leaves the bindings live exactly when the channels
it binds are. -/
theorem monitor_commit_bound_live_iff {db after : Database} {tx : MonitorTx}
    (written : monitorCommit db tx = some after) (bound : BoundLive db) :
    BoundLive after ↔ assertChannelIds db tx.change.bindsChannels = true := by
  obtain ⟨-, channels, bindings, -⟩ := monitor_commit_cases written
  have same : ∀ channelId, channelLive after channelId = channelLive db channelId := by
    intro channelId
    rw [channelLive, channels]
    rfl
  rw [assertChannelIds, List.all_eq_true]
  constructor
  · intro live channelId member
    rw [← same]
    refine live tx.id channelId newBindingRow ?_
    rw [bindings]
    exact binding_write_binds tx db.bindings member
  · intro checked monitorId channelId binding stored
    rw [bindings] at stored
    rw [same]
    rcases binding_write_get stored with own | kept
    · exact checked channelId own
    · exact bound monitorId channelId binding kept

/-- A patch that does not disable a live channel keeps it live. -/
theorem channel_write_live {tx : ChannelTx} {row : ChannelRow}
    (kept : tx.change.retires = none) (live : row.isLive = true) :
    (tx.channelWrite row).isLive = true := by
  unfold ChannelTx.channelWrite
  cases change : tx.change with
  | remove found =>
      rw [change] at kept
      cases kept
  | update patch found =>
      rw [change] at kept
      simp only [ChannelChange.retires, ite_eq_right_iff, reduceCtorEq, imp_false] at kept
      rw [ChannelRow.isLive, Bool.and_eq_true] at live
      have enabled : patch.enabled.getD row.enabled = true := by
        cases wanted : patch.enabled with
        | none => exact live.1
        | some value =>
            cases value with
            | true => rfl
            | false => exact absurd (by simp [ChannelPatch.disables, wanted]) kept
      unfold ChannelRow.patched
      dsimp only
      split
      · simp [ChannelRow.isLive, enabled, live.2]
      · split <;> simp [ChannelRow.isLive, enabled, live.2]

/-- A channel that is disabled or removed loses its bindings; any other change of a live
channel keeps it live. -/
theorem channel_commit_bound_live (db : Database) (tx : ChannelTx) (bound : BoundLive db) :
    BoundLive (channelCommit db tx) := by
  intro monitorId channelId binding stored
  cases retires : tx.change.retires with
  | some found =>
      simp only [channelCommit, ChannelTx.retireWrite, retires] at stored
      rw [Table.get_delete_where_eq_some, decide_eq_false_iff_not] at stored
      have live := bound monitorId channelId binding stored.1
      simp only [channelLive, channelCommit, Table.get_update_key, if_neg stored.2]
      exact live
  | none =>
      simp only [channelCommit, ChannelTx.retireWrite, retires] at stored
      have live := bound monitorId channelId binding stored
      simp only [channelLive, channelCommit, Table.get_update_key] at live ⊢
      by_cases same : channelId = tx.id
      · rw [if_pos same]
        cases channel : db.channels.get channelId with
        | none => simp [channel] at live
        | some row =>
            rw [channel] at live
            exact channel_write_live retires live
      · rw [if_neg same]
        exact live

theorem channel_created_live {db : Database} {id : ChannelId} {row : ChannelRow}
    (absent : db.channels.get id = none) {channelId : ChannelId}
    (live : channelLive db channelId = true) :
    channelLive { db with channels := db.channels.put id row } channelId = true := by
  have other : channelId ≠ id := by
    intro same
    rw [same, channelLive, absent] at live
    cases live
  simp only [channelLive, Table.get_put, if_neg other]
  exact live

theorem bound_live_step {s after : System} {a : Action} (stepped : Stepped s a after)
    (careful : bindsDead s a = false) (bound : BoundLive s.db) : BoundLive after.db := by
  cases step_writes stepped with
  | nothing _ same => exact bound_live_of_same same bound
  | checks checks jobs _ written =>
      rw [written]
      exact bound_live_of_same ⟨rfl, rfl⟩ bound
  | channelCreated id displayName config absent written =>
      rw [written]
      intro monitorId channelId binding stored
      exact channel_created_live absent (bound monitorId channelId binding stored)
  | persist t tx _ _ written =>
      obtain ⟨_, _, _, _, _, _, same⟩ := persist_commit_cases written
      rw [same]
      exact bound_live_of_same ⟨rfl, rfl⟩ bound
  | createDue t tx _ _ written =>
      have kept := create_due_checks_kept written
      exact bound_live_of_same ⟨kept.channels, kept.bindings⟩ bound
  | channel t tx _ _ written =>
      rw [written]
      exact channel_commit_bound_live s.db tx bound
  | monitor t tx action inProgress written =>
      subst action
      rw [bindsDead, System.monitor_tx_eq_some.2 inProgress, Option.any_some,
        Bool.not_eq_false'] at careful
      exact (monitor_commit_bound_live_iff written bound).2 careful

/-- Only a commit that binds a dead channel ends the rule. -/
theorem bound_live_step_iff {s after : System} {a : Action} (taken : step s a = some after)
    (bound : BoundLive s.db) : BoundLive after.db ↔ bindsDead s a = false := by
  have stepped := step_cases taken
  refine ⟨fun live => ?_, fun careful => bound_live_step stepped careful bound⟩
  cases a with
  | commit t =>
      cases inProgress : s.monitorTx t with
      | none => rw [bindsDead, inProgress, Option.any_none]
      | some tx =>
          obtain ⟨db, attempts, events, commit, rfl⟩ :=
            commit_step_cases stepped (System.monitor_tx_eq_some.1 inProgress)
          cases commit with
          | monitor _ _ _ written =>
              rw [bindsDead, inProgress, Option.any_some, Bool.not_eq_false']
              exact (monitor_commit_bound_live_iff written bound).1 live
  | _ => rfl

theorem live_bindings_of_bound {db : Database} (bound : BoundLive db) : LiveBindings db := by
  refine ⟨bound, ?_⟩
  intro id currentUrl current patch untouched
  have carried : (mergePatch currentUrl current (boundChannels db id) patch).channelIds =
      boundChannels db id := by
    simp [mergePatch, untouched]
  rw [carried, assertChannelIds, List.all_eq_true]
  intro channelId member
  obtain ⟨⟨⟨owner, channel⟩, binding⟩, selected, rfl⟩ := List.mem_map.1 member
  have stored := ((Table.mem_select _ _ _ _).1 selected).1
  exact bound owner channel binding stored

/-- Monitors are bound to live channels as long as no commit binds a channel that has been
disabled or removed since it was checked. -/
theorem monitors_bound_to_live_channels {visited : List (System × Action)} {s : System}
    (run : Run step System.initial visited s)
    (careful : Along (fun state a => bindsDead state a = false) visited) : LiveBindings s.db := by
  refine live_bindings_of_bound (run.preserves (fun state a => bindsDead state a = false)
    (fun state => BoundLive state.db) ?_ ?_ careful)
  · intro monitorId channelId binding stored
    cases stored
  · intro state a after bound harmless taken
    exact (bound_live_step_iff taken bound).2 harmless

/-- `assertChannelIds` has passed for the channels that an operation binds. -/
theorem monitor_change_binds {db : Database} {id : MonitorId} {request : MonitorRequest}
    {change : MonitorChange} (accepted : monitorChange db id request = some change) :
    assertChannelIds db change.bindsChannels = true := by
  unfold monitorChange at accepted
  cases request with
  | create input =>
      simp only [Option.ite_none_right_eq_some, Option.some.injEq] at accepted
      rw [← accepted.2]
      exact accepted.1
  | update patch =>
      simp only [Option.bind_eq_bind, Option.bind_eq_some_iff] at accepted
      obtain ⟨row, -, accepted⟩ := accepted
      split at accepted
      · cases accepted
      · split at accepted
        · cases accepted
        · rename_i present
          cases accepted
          simp only [Bool.or_eq_true, Bool.not_eq_true', not_or, Bool.not_eq_false] at present
          exact present.2
  | pause =>
      simp only [Option.bind_eq_bind, Option.bind_eq_some_iff] at accepted
      obtain ⟨row, -, accepted⟩ := accepted
      split at accepted
      · cases accepted
      · cases accepted
        rfl
  | resume =>
      simp only [Option.bind_eq_bind, Option.bind_eq_some_iff] at accepted
      obtain ⟨row, -, accepted⟩ := accepted
      split at accepted
      · cases accepted
      · cases accepted
        rfl
  | remove =>
      simp only [Option.bind_eq_bind, Option.bind_eq_some_iff] at accepted
      obtain ⟨row, -, accepted⟩ := accepted
      split at accepted
      · cases accepted
      · cases accepted
        rfl

def Transaction.retiresChannel : Transaction → Bool
  | .channel tx => tx.change.retires.isSome
  | _ => false

def retiresChannel (s : System) : Action → Bool
  | .commit t => (s.txs.get t).any Transaction.retiresChannel
  | _ => false

theorem live_stays {s after : System} {a : Action} (stepped : Stepped s a after)
    (quiet : retiresChannel s a = false) {id : ChannelId} (live : channelLive s.db id = true) :
    channelLive after.db id = true := by
  have same : after.db.channels = s.db.channels → channelLive after.db id = true := by
    intro channels
    rw [channelLive, channels]
    exact live
  cases step_writes stepped with
  | nothing _ channels => exact same channels.channels
  | checks checks jobs _ written => exact same (by rw [written])
  | persist t tx _ _ written =>
      obtain ⟨_, _, _, _, _, _, stored⟩ := persist_commit_cases written
      exact same (by rw [stored])
  | createDue t tx _ _ written => exact same (create_due_checks_kept written).channels
  | monitor t tx _ _ written => exact same (monitor_commit_cases written).2.1
  | channelCreated newId displayName config absent written =>
      rw [written]
      exact channel_created_live absent live
  | channel t tx action inProgress written =>
      subst action
      simp only [retiresChannel, inProgress, Option.any_some, Transaction.retiresChannel,
        Option.isSome_eq_false_iff, Option.isNone_iff_eq_none] at quiet
      rw [written]
      simp only [channelLive, channelCommit, Table.get_update_key] at live ⊢
      by_cases own : id = tx.id
      · rw [if_pos own]
        cases stored : s.db.channels.get id with
        | none => simp [stored] at live
        | some row =>
            rw [stored] at live
            exact channel_write_live quiet live
      · rw [if_neg own]
        exact live

def BindsLive (t : TxId) (s : System) : Prop :=
  ∀ tx, s.txs.get t = some (.monitor tx) →
    assertChannelIds s.db tx.change.bindsChannels = true

theorem binds_live_step {t : TxId} {s after : System} {a : Action} (binds : BindsLive t s)
    (quiet : retiresChannel s a = false) (taken : step s a = some after) :
    BindsLive t after := by
  have stepped := step_cases taken
  intro tx later
  cases step_tx_source stepped later with
  | stayed inProgress =>
      have checked := binds tx inProgress
      rw [assertChannelIds, List.all_eq_true] at checked ⊢
      intro channelId member
      exact live_stays stepped quiet (checked channelId member)
  | advanced before next same => cases same
  | begun jobs attempts unused begun same =>
      rw [same]
      cases begun with
      | monitor id request change now next changed free => exact monitor_change_binds changed

/-- What `assertChannelIds` has accepted when the transaction began is still live when it
commits, unless a channel has been disabled or removed in between. -/
theorem begun_binds_live {t : TxId} {id : MonitorId} {request : MonitorRequest}
    {now initialNextCheckAt : Time} {s begun last : System} {visited : List (System × Action)}
    (taken : step s (.beginMonitor t id request now initialNextCheckAt) = some begun)
    (run : Run step begun visited last)
    (quiet : Along (fun state a => retiresChannel state a = false) visited) :
    bindsDead last (.commit t) = false := by
  have unused : s.txs.get t = none := by
    cases step_cases taken with
    | began _ u tx jobs attempts begun unused =>
        cases begun
        exact unused
    | ledger _ checks jobs statement => cases statement
    | advanced _ u tx next other advance => cases advance
    | dispatcher _ outbox dispatchers statement => cases statement
  have before : BindsLive t s := by
    intro tx inProgress
    rw [unused] at inProgress
    cases inProgress
  have checked : BindsLive t begun := binds_live_step before rfl taken
  have kept : BindsLive t last := run.preserves
    (fun state a => retiresChannel state a = false) (BindsLive t) checked
    (fun _ _ _ binds still taken => binds_live_step binds still taken) quiet
  rw [bindsDead]
  cases inProgress : last.monitorTx t with
  | none => rfl
  | some tx =>
      rw [Option.any_some, kept tx (System.monitor_tx_eq_some.1 inProgress), Bool.not_true]

def disableChannel : ChannelRequest := .update ⟨none, none, none, some false⟩

def renameMonitor : MonitorRequest :=
  .update ⟨some "store", none, none, none, none, none, none, none, none, none, none, none, none⟩

def disabledDuringRename : List Action :=
  Script.setUp ++ [.beginMonitor 1 1 renameMonitor 1000 1000, .beginChannel 2 1 disableChannel 1000,
    .commit 2, .commit 1]

theorem monitor_bound_to_disabled_channel :
    ¬ ∀ s : System, Reachable s → s.quiescent → LiveBindings s.db := by
  intro always
  obtain ⟨s, reachable, tested⟩ := reachable_of_script disabledDuringRename
    (fun s => (s.free fun _ => true) && (s.db.bindings.get (1, 1)).isSome &&
      !channelLive s.db 1) (by decide +kernel)
  simp only [Bool.and_eq_true, Bool.not_eq_true', Option.isSome_iff_exists] at tested
  obtain ⟨⟨idle, binding, stored⟩, disabled⟩ := tested
  have live := (always s reachable (quiescent_of_free idle)).live 1 1 binding stored
  rw [disabled] at live
  cases live

/-- The channel is disabled first: the monitor loses it, and is renamed without it. -/
theorem monitors_bound_to_live_channels_sample :
    ∃ s : System, LiveBindings s.db ∧ channelLive s.db 1 = false ∧
      (s.db.monitors.get 1).any (fun row => row.name = "store") = true := by
  obtain ⟨visited, s, run, careful, tested⟩ := run_of_script
    (Script.setUp ++ [.beginChannel 2 1 disableChannel 1000, .commit 2,
      .beginMonitor 1 1 renameMonitor 1000 1000, .commit 1]) bindsDead
    (fun s => !channelLive s.db 1 && (s.db.monitors.get 1).any fun row => row.name = "store")
    (by decide +kernel)
  rw [Bool.and_eq_true, Bool.not_eq_true'] at tested
  exact ⟨s, monitors_bound_to_live_channels run careful, tested.1, tested.2⟩

end LinkAlive
