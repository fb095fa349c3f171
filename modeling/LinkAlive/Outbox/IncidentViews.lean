import LinkAlive.Outbox.Bindings

/-!
# What concerns an incident

The notifications of an incident depend on the ledger, on their own rows and on the
transactions about them, and not on the rows of other incidents. Two states that agree on
all that are alike for the incident: they may differ in the bindings, in the deliveries and
in everything that belongs to the notifications of other incidents.
-/

namespace LinkAlive

open Relational Transition

set_option autoImplicit false

def ofIncident (incidentId : IncidentId) (key : OutboxKey) : Bool := key.incidentId = incidentId

def PersistTx.bare (tx : PersistTx) : PersistTx :=
  { tx with stage := .begun, outbox := .empty }

def PersistTx.resolves (tx : PersistTx) (incidentId : IncidentId) : Bool :=
  match tx.incident with
  | .resolve id _ => id = incidentId
  | .none | .create .. | .touch .. => false

def PersistTx.shown (tx : PersistTx) (incidentId : IncidentId) : PersistTx :=
  if tx.resolves incidentId then tx else tx.bare

/-- An operation without what it has read of bindings and deliveries. -/
def MonitorChange.bare : MonitorChange → MonitorChange
  | .create input => .create input
  | .update merged found => .update { merged with channelIds := [] } (found.map fun _ => [])
  | .pause _ => .pause []
  | .resume => .resume
  | .remove _ => .remove []

def MonitorTx.bare (tx : MonitorTx) : MonitorTx := { tx with change := tx.change.bare }

def ChannelChange.bare : ChannelChange → ChannelChange
  | .update patch _ => .update patch []
  | .remove _ => .remove []

def ChannelTx.bare (tx : ChannelTx) : ChannelTx := { tx with change := tx.change.bare }

def MonitorTx.bindsOnly (tx : MonitorTx) (monitors : Table MonitorId MonitorRow) : Bool :=
  match tx.change with
  | .update merged none => (monitors.get tx.id).all fun row => row.edited merged = row
  | _ => false

/-- What a transaction means for an incident: nothing, where it is about the row of another
incident or about bindings only. -/
def Transaction.about (incidentId : IncidentId) (monitors : Table MonitorId MonitorRow) :
    Transaction → Option Transaction
  | .persist tx => some (.persist (tx.shown incidentId))
  | .claim tx => if ofIncident incidentId tx.key then some (.claim tx) else none
  | .markSent tx => if ofIncident incidentId tx.claimed.key then some (.markSent tx) else none
  | .createDue tx => some (.createDue tx)
  | .monitor tx => if tx.bindsOnly monitors then none else some (.monitor tx.bare)
  | .channel tx => some (.channel tx.bare)

namespace System

def about (s : System) (incidentId : IncidentId) (t : TxId) : Option Transaction :=
  (s.txs.get t).bind (Transaction.about incidentId s.db.monitors)

end System

def candidateOf (incidentId : IncidentId) (dispatchers : Dispatchers) (d : DispatcherId) :
    Option DispatchState :=
  (dispatchers.get d).filter fun state => ofIncident incidentId state.key

structure SameView (incidentId : IncidentId) (left right : Database) : Prop where
  monitors : left.monitors = right.monitors
  checks : left.checks = right.checks
  results : left.results = right.results
  incidents : left.incidents = right.incidents
  channels : left.channels = right.channels
  rows : left.outbox.part (ofIncident incidentId) = right.outbox.part (ofIncident incidentId)

structure Alike (incidentId : IncidentId) (left right : System) : Prop where
  db : SameView incidentId left.db right.db
  jobs : left.jobs = right.jobs
  attempts : ∀ attempt : OutboxKey × Nat, ofIncident incidentId attempt.1 = true →
    left.attempts.get attempt = right.attempts.get attempt
  dispatchers : ∀ d,
    candidateOf incidentId left.dispatchers d = candidateOf incidentId right.dispatchers d
  txs : ∀ t, left.about incidentId t = right.about incidentId t

section Equivalence

variable {incidentId : IncidentId}

theorem SameView.refl (db : Database) : SameView incidentId db db :=
  ⟨rfl, rfl, rfl, rfl, rfl, rfl⟩

theorem SameView.symm {left right : Database} (same : SameView incidentId left right) :
    SameView incidentId right left :=
  ⟨same.monitors.symm, same.checks.symm, same.results.symm, same.incidents.symm,
    same.channels.symm, same.rows.symm⟩

theorem SameView.trans {left middle right : Database} (first : SameView incidentId left middle)
    (second : SameView incidentId middle right) : SameView incidentId left right :=
  ⟨first.monitors.trans second.monitors, first.checks.trans second.checks,
    first.results.trans second.results, first.incidents.trans second.incidents,
    first.channels.trans second.channels, first.rows.trans second.rows⟩

theorem SameView.row {left right : Database} (same : SameView incidentId left right)
    {key : OutboxKey} (own : ofIncident incidentId key = true) :
    left.outbox.get key = right.outbox.get key :=
  Table.get_of_part same.rows own

theorem SameView.live {left right : Database} (same : SameView incidentId left right)
    (channelId : ChannelId) : channelLive left channelId = channelLive right channelId := by
  rw [channelLive, channelLive, same.channels]

theorem Alike.refl (s : System) : Alike incidentId s s :=
  ⟨.refl s.db, rfl, fun _ _ => rfl, fun _ => rfl, fun _ => rfl⟩

theorem Alike.symm {left right : System} (alike : Alike incidentId left right) :
    Alike incidentId right left where
  db := alike.db.symm
  jobs := alike.jobs.symm
  attempts attempt own := (alike.attempts attempt own).symm
  dispatchers d := (alike.dispatchers d).symm
  txs t := (alike.txs t).symm

theorem Alike.trans {left middle right : System} (first : Alike incidentId left middle)
    (second : Alike incidentId middle right) : Alike incidentId left right where
  db := first.db.trans second.db
  jobs := first.jobs.trans second.jobs
  attempts attempt own := (first.attempts attempt own).trans (second.attempts attempt own)
  dispatchers d := (first.dispatchers d).trans (second.dispatchers d)
  txs t := (first.txs t).trans (second.txs t)

end Equivalence

theorem about_stays {s after : System} {a : Action} (ledger : LedgerInvariant s)
    (stepped : Stepped s a after) (incidentId : IncidentId) {t : TxId} {tx : Transaction}
    (inProgress : s.txs.get t = some tx) (stays : after.txs.get t = some tx) :
    tx.about incidentId after.db.monitors = tx.about incidentId s.db.monitors := by
  have present : (after.txs.get t).isSome = true := by
    rw [stays]
    rfl
  have kept := (step_undisturbed ledger stepped inProgress present).monitors
  cases tx with
  | monitor tx =>
      have same : tx.bindsOnly after.db.monitors = tx.bindsOnly s.db.monitors := by
        unfold MonitorTx.bindsOnly
        rw [kept tx.id (decide_eq_true rfl)]
      rw [Transaction.about, Transaction.about, same]
  | persist tx => rfl
  | claim tx => rfl
  | markSent tx => rfl
  | createDue tx => rfl
  | channel tx => rfl

section Steps

variable {s after : System} {a : Action} (ledger : LedgerInvariant s) (stepped : Stepped s a after)
  (incidentId : IncidentId)

include ledger stepped

theorem about_kept {t : TxId} (same : after.txs.get t = s.txs.get t) :
    after.about incidentId t = s.about incidentId t := by
  rw [System.about, System.about, same]
  cases inProgress : s.txs.get t with
  | none => rfl
  | some tx => exact about_stays ledger stepped incidentId inProgress (same.trans inProgress)

theorem about_put {t : TxId} {tx : Transaction} (written : after.txs = s.txs.put t tx)
    (other : TxId) :
    after.about incidentId other =
      if other = t then tx.about incidentId after.db.monitors else s.about incidentId other := by
  split
  · rename_i same
    rw [System.about, written, Table.get_put, if_pos same]
    rfl
  · rename_i different
    apply about_kept ledger stepped
    rw [written, Table.get_put, if_neg different]

theorem about_remove {t : TxId} (written : after.txs = s.txs.remove t) (other : TxId) :
    after.about incidentId other = if other = t then none else s.about incidentId other := by
  split
  · rename_i same
    rw [System.about, written, Table.get_remove, if_pos same]
    rfl
  · rename_i different
    apply about_kept ledger stepped
    rw [written, Table.get_remove, if_neg different]

end Steps

section Writes

variable {incidentId : IncidentId} {key : OutboxKey} (foreign : ofIncident incidentId key = false)

include foreign

theorem part_update_key (outbox : Outbox) (change : OutboxRow → OutboxRow) :
    (outbox.updateKey key change).part (ofIncident incidentId) =
      outbox.part (ofIncident incidentId) := by
  apply Table.part_update_other
  intro other row same
  rw [of_decide_eq_true same]
  exact foreign

theorem part_update_at (outbox : Outbox) (guard : OutboxRow → Bool)
    (change : OutboxKey → OutboxRow → OutboxRow) :
    (outbox.updateWhere (fun other row => other = key && guard row) change).part
        (ofIncident incidentId) =
      outbox.part (ofIncident incidentId) := by
  apply Table.part_update_other
  intro other row same
  rw [Bool.and_eq_true, decide_eq_true_eq] at same
  rw [same.1]
  exact foreign

theorem part_cancel_undelivered (outbox : Outbox) (now : Time) :
    (cancelUndeliveredRecovery outbox key now).part (ofIncident incidentId) =
      outbox.part (ofIncident incidentId) := by
  apply Table.part_update_other
  intro other row same
  simp only [Bool.and_eq_true, decide_eq_true_eq] at same
  rw [ofIncident, same.1.1.1]
  exact foreign

theorem claim_commit_foreign {db after : Database} {tx : ClaimTx}
    {granted : Option ClaimedNotification} (target : tx.key = key)
    (written : claimCommit db tx = some (after, granted)) : SameView incidentId db after := by
  have ledger := claim_commit_same_ledger written
  have channels := claim_commit_same_channels written
  refine ⟨ledger.monitors.symm, ledger.checks.symm, ledger.results.symm, ledger.incidents.symm,
    channels.channels.symm, ?_⟩
  obtain ⟨row, -, write⟩ := claim_commit_cases written
  subst target
  generalize after.outbox = outbox at write
  cases write with
  | nothing => rfl
  | disabled => exact (part_update_key foreign _ _).symm
  | exhausted => exact (part_update_key foreign _ _).symm
  | exhaustedDown => rw [part_cancel_undelivered foreign, part_update_key foreign]
  | granted => exact (part_update_key foreign _ _).symm

theorem mark_sent_commit_foreign {db after : Database} {tx : MarkSentTx}
    (target : tx.claimed.key = key) (written : markSentCommit db tx = some after) :
    SameView incidentId db after := by
  have ledger := mark_sent_commit_same_ledger written
  have channels := mark_sent_commit_same_channels written
  refine ⟨ledger.monitors.symm, ledger.checks.symm, ledger.results.symm, ledger.incidents.symm,
    channels.channels.symm, ?_⟩
  obtain ⟨row, -, ⟨-, same⟩ | ⟨-, recovered⟩⟩ := mark_sent_commit_cases written
  · rw [same]
  · subst target
    have sent := part_update_key foreign db.outbox tx.rowWrite
    have followUp : ofIncident incidentId tx.claimed.key.followUp = false := foreign
    unfold MarkSentTx.recoveryWrite at recovered
    split at recovered
    · rw [← Option.some.inj recovered, sent]
    · rw [← Option.some.inj recovered, part_update_key followUp, sent]
    · obtain ⟨absent, same⟩ := (Table.insert_new_eq_some _ _ _ _).1 recovered
      rw [same, Table.part_put _ _ _ absent, followUp, sent]
      exact (List.append_nil _).symm

theorem mark_failed_foreign (db : Database) {claimed : ClaimedNotification}
    (target : claimed.key = key) (error : NotificationProviderError) (now : Time)
    (retryDelayMs : Nat) :
    SameView incidentId db (markFailed db claimed error now retryDelayMs) := by
  refine ⟨rfl, rfl, rfl, rfl, rfl, ?_⟩
  subst target
  simp only [markFailed]
  split
  · rw [part_cancel_undelivered foreign, part_update_at foreign]
  · rw [part_update_at foreign]

end Writes

theorem binds_only_commit (incidentId : IncidentId) {db after : Database} {tx : MonitorTx}
    (bindsOnly : tx.bindsOnly db.monitors = true) (written : monitorCommit db tx = some after) :
    SameView incidentId db after := by
  unfold MonitorTx.bindsOnly at bindsOnly
  split at bindsOnly
  · rename_i merged change
    have kept : db.monitors.updateKey tx.id tx.monitorWrite = db.monitors := by
      apply Table.update_key_fixed
      intro row stored
      rw [stored, Option.all_some, decide_eq_true_eq] at bindsOnly
      rw [MonitorTx.monitorWrite, change]
      exact bindsOnly
    unfold monitorCommit at written
    simp only [MonitorTx.runtimeWrite, MonitorChange.cancels, change, kept] at written
    cases written
    exact ⟨rfl, rfl, rfl, rfl, rfl, rfl⟩
  · cases bindsOnly

namespace System

/-- The step is about the notifications of another incident. -/
def notifiesOthers (s : System) (incidentId : IncidentId) : Action → Bool
  | .beginClaim _ key _ _ _ => !ofIncident incidentId key
  | .beginMarkSent _ attempt _ _ _ | .markFailed attempt _ _ _ => !ofIncident incidentId attempt.1
  | .scan d _ _ _ key =>
      !ofIncident incidentId key && (candidateOf incidentId s.dispatchers d).isNone
  | .compareDown d | .dispatchCandidate d | .finishDispatch d _ =>
      (candidateOf incidentId s.dispatchers d).isNone
  | .resolve t =>
      match s.txs.get t with
      | some (.persist tx) => !tx.resolves incidentId
      | _ => false
  | .commit t | .abort t =>
      match s.txs.get t with
      | some (.claim tx) => !ofIncident incidentId tx.key
      | some (.markSent tx) => !ofIncident incidentId tx.claimed.key
      | _ => false
  | _ => false

/-- The step belongs to an update of the monitor that changes its bindings and nothing else. -/
def editsBindings (s : System) (monitorId : MonitorId) : Action → Bool
  | .beginMonitor _ id request now initialNextCheckAt =>
      id = monitorId && (monitorChange s.db id request).any fun change =>
        MonitorTx.bindsOnly ⟨id, now, initialNextCheckAt, change⟩ s.db.monitors
  | .commit t | .abort t =>
      (s.monitorTx t).any fun tx => tx.id = monitorId && tx.bindsOnly s.db.monitors
  | _ => false

def Silent (s : System) (incidentId : IncidentId) (a : Action) : Prop :=
  s.notifiesOthers incidentId a = true ∨ ∃ monitorId, s.editsBindings monitorId a = true

end System

theorem silent_about {s : System} {incidentId : IncidentId} {a : Action} {t : TxId}
    (ends : a = .commit t ∨ a = .abort t) (silent : s.Silent incidentId a) :
    s.about incidentId t = none := by
  have others : s.notifiesOthers incidentId (.commit t) = true → s.about incidentId t = none := by
    intro notifies
    cases inProgress : s.txs.get t with
    | none => simp [System.notifiesOthers, inProgress] at notifies
    | some tx =>
        cases tx <;> simp [System.notifiesOthers, inProgress] at notifies
        · simp [System.about, inProgress, Transaction.about, notifies]
        · simp [System.about, inProgress, Transaction.about, notifies]
  have edits : ∀ monitorId, s.editsBindings monitorId (.commit t) = true →
      s.about incidentId t = none := by
    intro monitorId edited
    obtain ⟨tx, found, holds⟩ := (Option.any_eq_true _ _).1 edited
    rw [Bool.and_eq_true] at holds
    simp [System.about, System.monitor_tx_eq_some.1 found, Transaction.about, holds.2]
  rcases ends with rfl | rfl
  · exact silent.elim others fun some => some.elim edits
  · exact silent.elim others fun some => some.elim edits

theorem silent_begin {s : System} (attempts : AttemptInvariant s) {incidentId : IncidentId}
    {a : Action} {t : TxId} {tx : Transaction} {jobs : Jobs} {left : Attempts}
    (begun : TxBegin s t a tx jobs left) (silent : s.Silent incidentId a) :
    tx.about incidentId s.db.monitors = none ∧ jobs = s.jobs ∧
      ∀ attempt : OutboxKey × Nat, ofIncident incidentId attempt.1 = true →
        s.attempts.get attempt = left.get attempt := by
  cases begun with
  | monitor id request change now next changed =>
      refine ⟨?_, rfl, fun _ _ => rfl⟩
      rcases silent with notifies | ⟨monitorId, edits⟩
      · cases notifies
      · simp only [System.editsBindings, changed, Option.any_some, Bool.and_eq_true] at edits
        rw [Transaction.about, edits.2]
        rfl
  | channel => rcases silent with notifies | ⟨monitorId, edits⟩ <;> contradiction
  | createDue => rcases silent with notifies | ⟨monitorId, edits⟩ <;> contradiction
  | persist => rcases silent with notifies | ⟨monitorId, edits⟩ <;> contradiction
  | claim key row instanceId leaseMs now =>
      refine ⟨?_, rfl, fun _ _ => rfl⟩
      rcases silent with notifies | ⟨monitorId, edits⟩
      · rw [System.notifiesOthers, Bool.not_eq_true'] at notifies
        simp [Transaction.about, notifies]
      · cases edits
  | markSent attempt claimed providerMessageId now databaseTime remembered =>
      rcases silent with notifies | ⟨monitorId, edits⟩
      · rw [System.notifiesOthers, Bool.not_eq_true'] at notifies
        have filed := attempts.filed attempt claimed remembered
        refine ⟨?_, rfl, ?_⟩
        · rw [filed] at notifies
          simp [Transaction.about, markSentBegin, notifies]
        · intro other own
          rw [Table.get_remove, if_neg]
          rintro rfl
          rw [own] at notifies
          cases notifies
      · cases edits

/-- A statement of a resolution changes what the transaction writes of notifications only. -/
theorem resolve_step_bare {db : Database} {tx next : PersistTx} {rowFree : OutboxKey → Bool}
    (resolved : resolveStep db tx rowFree = some next) :
    next.bare = tx.bare ∧ next.incident = tx.incident := by
  obtain ⟨resolution, -, move⟩ := resolve_step_cases resolved
  cases move <;> exact ⟨rfl, rfl⟩

theorem resolves_of_incident {tx next : PersistTx} (same : next.incident = tx.incident)
    (incidentId : IncidentId) : next.resolves incidentId = tx.resolves incidentId := by
  rw [PersistTx.resolves, PersistTx.resolves, same]

theorem candidate_of_put (incidentId : IncidentId) (dispatchers : Dispatchers) (d : DispatcherId)
    (state : DispatchState) (other : DispatcherId) :
    candidateOf incidentId (dispatchers.put d state) other =
      if other = d then (some state).filter fun state => ofIncident incidentId state.key
      else candidateOf incidentId dispatchers other := by
  rw [candidateOf, Table.get_put]
  split <;> rfl

theorem candidate_of_remove (incidentId : IncidentId) (dispatchers : Dispatchers)
    (d other : DispatcherId) :
    candidateOf incidentId (dispatchers.remove d) other =
      if other = d then none else candidateOf incidentId dispatchers other := by
  rw [candidateOf, Table.get_remove]
  split <;> rfl

/-- A slot that shows nothing holds a candidate of another incident. -/
theorem candidate_foreign {incidentId : IncidentId} {dispatchers : Dispatchers} {d : DispatcherId}
    {state : DispatchState} (remembered : dispatchers.get d = some state)
    (silent : candidateOf incidentId dispatchers d = none) :
    ofIncident incidentId state.key = false := by
  rw [candidateOf, remembered, Option.filter_some] at silent
  split at silent
  · cases silent
  · rename_i foreign
    exact Bool.eq_false_iff.2 foreign

theorem silent_dispatch {s : System} {incidentId : IncidentId} {a : Action} {outbox : Outbox}
    {dispatchers : Dispatchers} (statement : DispatchStatement s a outbox dispatchers)
    (silent : s.notifiesOthers incidentId a = true) :
    outbox.part (ofIncident incidentId) = s.db.outbox.part (ofIncident incidentId) ∧
      ∀ d, candidateOf incidentId dispatchers d = candidateOf incidentId s.dispatchers d := by
  cases statement with
  | scan d owner leaseMs now key state scanned =>
      rw [System.notifiesOthers, Bool.and_eq_true, Bool.not_eq_true',
        Option.isNone_iff_eq_none] at silent
      simp only [scanCandidate, Option.bind_eq_bind, Option.bind_eq_some_iff,
        Option.ite_none_right_eq_some, Option.some.injEq] at scanned
      obtain ⟨row, -, -, rfl⟩ := scanned
      refine ⟨rfl, fun other => ?_⟩
      rw [candidate_of_put]
      split
      · rename_i same
        rw [same, silent.2, Option.filter_some, silent.1]
        rfl
      · rfl
  | compareDown d state next remembered compared =>
      rw [System.notifiesOthers, Option.isNone_iff_eq_none] at silent
      have foreign := candidate_foreign remembered silent
      simp only [compareDown, Option.ite_none_right_eq_some, Option.some.injEq] at compared
      obtain ⟨-, rfl⟩ := compared
      refine ⟨rfl, fun other => ?_⟩
      rw [candidate_of_put]
      split
      · rename_i same
        rw [same, silent, Option.filter_some, foreign]
        rfl
      · rfl
  | dispatchCandidate d state outbox next remembered dispatched =>
      rw [System.notifiesOthers, Option.isNone_iff_eq_none] at silent
      have foreign := candidate_foreign remembered silent
      simp only [dispatchCandidate, Option.bind_eq_bind, Option.bind_eq_some_iff,
        Option.some.injEq, Prod.mk.injEq] at dispatched
      obtain ⟨decision, -, rfl, rfl⟩ := dispatched
      refine ⟨part_update_at foreign _ _ _, fun other => ?_⟩
      split
      · rename_i claimed chosen
        rw [candidate_of_put]
        split at chosen
        · cases chosen
          split
          · rename_i same
            rw [same, silent, Option.filter_some, foreign]
            rfl
          · rfl
        · cases chosen
      · rw [candidate_of_remove]
        split
        · rename_i same
          rw [same, silent]
        · rfl
  | finishDispatch d state accepted remembered =>
      rw [System.notifiesOthers, Option.isNone_iff_eq_none] at silent
      have foreign := candidate_foreign remembered silent
      refine ⟨part_update_at foreign _ _ _, fun other => ?_⟩
      rw [candidate_of_remove]
      split
      · rename_i same
        rw [same, silent]
      · rfl

theorem silent_commit {s : System} {incidentId : IncidentId} {t : TxId} {tx : Transaction}
    {db : Database} {left : Attempts} {events : List Event}
    (commit : TxCommit s t tx db left events)
    (silent : tx.about incidentId s.db.monitors = none) :
    SameView incidentId s.db db ∧
      ∀ attempt : OutboxKey × Nat, ofIncident incidentId attempt.1 = true →
        s.attempts.get attempt = left.get attempt := by
  cases commit with
  | persist tx => cases silent
  | createDue tx => cases silent
  | channel tx => cases silent
  | monitor tx db free written =>
      rw [Transaction.about] at silent
      split at silent
      · rename_i bindsOnly
        exact ⟨binds_only_commit incidentId bindsOnly written, fun _ _ => rfl⟩
      · cases silent
  | markSent tx db free written =>
      rw [Transaction.about] at silent
      split at silent
      · cases silent
      · rename_i foreign
        exact ⟨mark_sent_commit_foreign (Bool.eq_false_iff.2 foreign) rfl written, fun _ _ => rfl⟩
  | claimIgnored tx db needs written =>
      rw [Transaction.about] at silent
      split at silent
      · cases silent
      · rename_i foreign
        exact ⟨claim_commit_foreign (Bool.eq_false_iff.2 foreign) rfl written, fun _ _ => rfl⟩
  | claimGranted tx db claimed written =>
      rw [Transaction.about] at silent
      split at silent
      · cases silent
      · rename_i foreign
        refine ⟨claim_commit_foreign (Bool.eq_false_iff.2 foreign) rfl written, ?_⟩
        obtain ⟨row, -, -, rfl, -⟩ := claim_grant_cases written
        intro attempt own
        rw [Table.get_put, if_neg]
        rintro rfl
        exact foreign own

theorem silent_step {s after : System} {incidentId : IncidentId} {a : Action}
    (ledger : LedgerInvariant s) (attempts : AttemptInvariant s) (stepped : Stepped s a after)
    (silent : s.Silent incidentId a) : Alike incidentId s after := by
  have kept : ∀ t, after.txs.get t = s.txs.get t →
      s.about incidentId t = after.about incidentId t :=
    fun t same => (about_kept ledger stepped incidentId same).symm
  have started := stepped
  cases stepped with
  | channel => rcases silent with notifies | ⟨monitorId, edits⟩ <;> contradiction
  | ledger _ checks jobs statement =>
      rcases silent with notifies | ⟨monitorId, edits⟩
      · cases statement <;> cases notifies
      · cases statement <;> cases edits
  | began _ t tx jobs left begun unused =>
      obtain ⟨silent, same, left⟩ := silent_begin attempts begun silent
      refine ⟨.refl s.db, same.symm, left, fun _ => rfl, fun other => ?_⟩
      rw [about_put ledger started incidentId rfl]
      split
      · rename_i own
        rw [silent, own, System.about, unused]
        rfl
      · rfl
  | advanced _ t tx next inProgress advance =>
      refine ⟨.refl s.db, rfl, fun _ _ => rfl, fun _ => rfl, fun other => ?_⟩
      rw [about_put ledger started incidentId rfl]
      split
      · rename_i own
        cases advance with
        | effect => rcases silent with notifies | ⟨monitorId, edits⟩ <;> contradiction
        | resolve _ resolved =>
            rcases silent with notifies | ⟨monitorId, edits⟩
            · simp only [System.notifiesOthers, inProgress, Bool.not_eq_true'] at notifies
              obtain ⟨bare, incident⟩ := resolve_step_bare resolved
              have foreign := resolves_of_incident incident incidentId
              rw [notifies] at foreign
              rw [own, System.about, inProgress, Option.bind_some, Transaction.about,
                Transaction.about, PersistTx.shown, PersistTx.shown, notifies, foreign,
                if_neg Bool.false_ne_true, if_neg Bool.false_ne_true, bare]
            · cases edits
      · rfl
  | failed attempt claimed error now retryDelayMs remembered =>
      rcases silent with notifies | ⟨monitorId, edits⟩
      · rw [System.notifiesOthers, Bool.not_eq_true'] at notifies
        have filed := attempts.filed attempt claimed remembered
        rw [filed] at notifies
        refine ⟨mark_failed_foreign notifies s.db rfl error now retryDelayMs, rfl, ?_,
          fun _ => rfl, fun t => kept t rfl⟩
        intro other own
        dsimp only
        rw [Table.get_remove, if_neg]
        rintro rfl
        rw [filed, notifies] at own
        cases own
      · cases edits
  | dispatcher _ outbox dispatchers statement =>
      rcases silent with notifies | ⟨monitorId, edits⟩
      · obtain ⟨rows, slots⟩ := silent_dispatch statement notifies
        exact ⟨⟨rfl, rfl, rfl, rfl, rfl, rows.symm⟩, rfl, fun _ _ => rfl,
          fun d => (slots d).symm, fun t => kept t rfl⟩
      · cases statement <;> cases edits
  | committed t tx db left events inProgress commit =>
      have none := silent_about (.inl rfl) silent
      rw [System.about, inProgress, Option.bind_some] at none
      obtain ⟨view, left⟩ := silent_commit commit none
      refine ⟨view, rfl, left, fun _ => rfl, fun other => ?_⟩
      rw [about_remove ledger started incidentId rfl]
      split
      · rename_i own
        rw [own, System.about, inProgress, Option.bind_some, none]
      · rfl
  | aborted t =>
      have none := silent_about (.inr rfl) silent
      refine ⟨.refl s.db, rfl, fun _ _ => rfl, fun _ => rfl, fun other => ?_⟩
      rw [about_remove ledger started incidentId rfl]
      split
      · rename_i own
        rw [own, none]
      · rfl

end LinkAlive
