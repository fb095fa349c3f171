import LinkAlive.Ledger.Consistency

/-!
# What a step writes beside the outbox

One frame lemma for the tables of monitors, checks, results, incidents, channels and
bindings. A step leaves all of them alone, or it is one of six statements and commits that
write some of them.
-/

namespace LinkAlive

open Relational

set_option autoImplicit false

structure SameChannels (db other : Database) : Prop where
  channels : other.channels = db.channels
  bindings : other.bindings = db.bindings

theorem claim_commit_same_channels {db after : Database} {tx : ClaimTx}
    {granted : Option ClaimedNotification} (written : claimCommit db tx = some (after, granted)) :
    SameChannels db after := by
  simp only [claimCommit, Option.bind_eq_bind, Option.bind_eq_some_iff] at written
  obtain ⟨row, _, written⟩ := written
  split at written
  · cases written
    exact ⟨rfl, rfl⟩
  · cases written
    exact ⟨rfl, rfl⟩
  · cases written
    exact ⟨rfl, rfl⟩
  · cases written
    exact ⟨rfl, rfl⟩
  · simp only [Option.bind_eq_some_iff] at written
    obtain ⟨deliveries, _, written⟩ := written
    cases written
    exact ⟨rfl, rfl⟩

theorem mark_sent_commit_same_channels {db after : Database} {tx : MarkSentTx}
    (written : markSentCommit db tx = some after) : SameChannels db after := by
  simp only [markSentCommit, Option.bind_eq_bind, Option.bind_eq_some_iff] at written
  obtain ⟨row, _, written⟩ := written
  split at written
  · cases written
    exact ⟨rfl, rfl⟩
  · simp only [Option.bind_eq_some_iff] at written
    obtain ⟨outbox, _, written⟩ := written
    cases written
    exact ⟨rfl, rfl⟩

inductive StepWrites (s : System) (a : Action) (after : Database) : Prop where
  | nothing : SameLedger s.db after → SameChannels s.db after → StepWrites s a after
  | checks (checks : Checks) (jobs : Jobs) : LedgerStatement s a checks jobs →
      after = { s.db with checks := checks } → StepWrites s a after
  | channelCreated (id : ChannelId) (displayName : String) (config : ChannelConfig) :
      s.db.channels.get id = none →
      after = { s.db with
        channels := s.db.channels.put id (newChannelRow displayName config) } →
      StepWrites s a after
  | persist (t : TxId) (tx : PersistTx) : a = .commit t → s.txs.get t = some (.persist tx) →
      persistCommit s.db tx = some after → StepWrites s a after
  | createDue (t : TxId) (tx : CreateDueTx) : a = .commit t →
      s.txs.get t = some (.createDue tx) → createDueChecks s.db tx.now tx.due = some after →
      StepWrites s a after
  | monitor (t : TxId) (tx : MonitorTx) : a = .commit t → s.txs.get t = some (.monitor tx) →
      monitorCommit s.db tx = some after → StepWrites s a after
  | channel (t : TxId) (tx : ChannelTx) : a = .commit t → s.txs.get t = some (.channel tx) →
      after = channelCommit s.db tx → StepWrites s a after

theorem step_writes {s after : System} {a : Action} (stepped : Stepped s a after) :
    StepWrites s a after.db := by
  have unchanged : StepWrites s a s.db := .nothing ⟨rfl, rfl, rfl, rfl⟩ ⟨rfl, rfl⟩
  cases stepped with
  | channel id displayName config channels inserted =>
      rw [Table.insert_new_eq_some] at inserted
      exact .channelCreated id displayName config inserted.1 (by rw [inserted.2])
  | ledger _ checks jobs statement => exact .checks checks jobs statement rfl
  | began => exact unchanged
  | advanced => exact unchanged
  | failed => exact .nothing (mark_failed_same_ledger _ _ _ _ _) ⟨rfl, rfl⟩
  | dispatcher => exact .nothing ⟨rfl, rfl, rfl, rfl⟩ ⟨rfl, rfl⟩
  | aborted => exact unchanged
  | committed t tx db attempts events inProgress commit =>
      cases commit with
      | persist tx db finished written => exact .persist t tx rfl inProgress written
      | claimIgnored tx db needs written =>
          exact .nothing (claim_commit_same_ledger written) (claim_commit_same_channels written)
      | claimGranted tx db claimed written =>
          exact .nothing (claim_commit_same_ledger written) (claim_commit_same_channels written)
      | markSent tx db free written =>
          exact .nothing (mark_sent_commit_same_ledger written)
            (mark_sent_commit_same_channels written)
      | createDue tx db written => exact .createDue t tx rfl inProgress written
      | monitor tx db free written => exact .monitor t tx rfl inProgress written
      | channel tx => exact .channel t tx rfl inProgress rfl

end LinkAlive
