import LinkAlive.Outbox.CommonReads

/-!
# Commits in two runs

Transactions that mean the same for an incident write the same about it when they are
committed in states that are alike.
-/

namespace LinkAlive

open Relational Transition

set_option autoImplicit false

section Writes

variable {incidentId : IncidentId} {left right : Outbox}
  (rows : left.part (ofIncident incidentId) = right.part (ofIncident incidentId))

include rows

theorem update_alike (guard : OutboxKey → OutboxRow → Bool)
    (change : OutboxKey → OutboxRow → OutboxRow) :
    (left.updateWhere guard change).part (ofIncident incidentId) =
      (right.updateWhere guard change).part (ofIncident incidentId) := by
  rw [Table.part_update_where, Table.part_update_where, rows]

theorem retire_rows_alike (concerns : OutboxKey → OutboxRow → Bool) (now : Time) :
    (retireRows left concerns now).part (ofIncident incidentId) =
      (retireRows right concerns now).part (ofIncident incidentId) :=
  update_alike (update_alike rows _ _) _ _

theorem insert_new_alike {key : OutboxKey} {row : OutboxRow} {next other : Outbox}
    (first : left.insertNew key row = some next) (second : right.insertNew key row = some other) :
    next.part (ofIncident incidentId) = other.part (ofIncident incidentId) := by
  obtain ⟨absent, rfl⟩ := (Table.insert_new_eq_some _ _ _ _).1 first
  obtain ⟨alsoAbsent, rfl⟩ := (Table.insert_new_eq_some _ _ _ _).1 second
  rw [Table.part_put _ _ _ absent, Table.part_put _ _ _ alsoAbsent, rows]

theorem insert_all_alike {created : List (OutboxKey × OutboxRow)} {next other : Outbox}
    (first : left.insertAll created = some next) (second : right.insertAll created = some other) :
    next.part (ofIncident incidentId) = other.part (ofIncident incidentId) := by
  rw [Table.part_insert_all first, Table.part_insert_all second, rows]

end Writes

theorem persist_rows_foreign {incidentId : IncidentId} {db after : Database} {tx : PersistTx}
    (view : OutboxView db.outbox tx) (foreign : tx.resolves incidentId = false)
    (present : (db.incidents.get incidentId).isSome = true)
    (written : persistCommit db tx = some after) :
    after.outbox.part (ofIncident incidentId) = db.outbox.part (ofIncident incidentId) := by
  obtain ⟨results, incidents, outbox, -, applied, inserted, rfl⟩ := persist_commit_cases written
  have elsewhere : ∀ key : OutboxKey, tx.Targets key.incidentId →
      ofIncident incidentId key = false := by
    intro key target
    apply decide_eq_false
    rintro rfl
    rcases target with ⟨row, creates⟩ | ⟨time, resolves⟩
    · rw [creates] at applied
      have absent := ((Table.insert_new_eq_some _ _ _ _).1 applied).1
      rw [absent] at present
      cases present
    · rw [PersistTx.resolves, resolves] at foreign
      exact absurd rfl (of_decide_eq_false foreign)
  have created : tx.outbox.creates.filter (fun entry => ofIncident incidentId entry.1) = [] := by
    rw [List.filter_eq_nil_iff]
    rintro ⟨key, row⟩ member
    rw [elsewhere key (view.creates key row member).target]
    exact Bool.false_ne_true
  dsimp only
  rw [Table.part_insert_all inserted, created, List.append_nil, Table.part_update_where]
  refine (List.map_congr_left ?_).trans (List.map_id _)
  rintro ⟨key, row⟩ member
  have own := (Table.mem_part.1 member).2
  have kept : key ∉ tx.outbox.cancels ∧ key ∉ tx.outbox.redacts := by
    constructor
    · intro cancels
      rw [elsewhere key (view.cancels key cancels).1] at own
      cases own
    · intro redacts
      rw [elsewhere key (view.redacts key redacts).1] at own
      cases own
  simp [PersistTx.rowWrite, kept.1, kept.2]

section Databases

variable {incidentId : IncidentId} {left right : Database} (same : SameView incidentId left right)

include same

theorem persist_commit_alike {tx other : PersistTx} {after otherAfter : Database}
    (shown : tx.shown incidentId = other.shown incidentId)
    (view : OutboxView left.outbox tx) (otherView : OutboxView right.outbox other)
    (present : (left.incidents.get incidentId).isSome = true)
    (first : persistCommit left tx = some after)
    (second : persistCommit right other = some otherAfter) :
    SameView incidentId after otherAfter := by
  have rows : after.outbox.part (ofIncident incidentId) =
      otherAfter.outbox.part (ofIncident incidentId) := by
    cases own : tx.resolves incidentId with
    | true =>
        have equal := eq_of_shown shown own
        subst equal
        obtain ⟨_, _, outbox, -, -, inserted, rfl⟩ := persist_commit_cases first
        obtain ⟨_, _, otherOutbox, -, -, alsoInserted, rfl⟩ := persist_commit_cases second
        exact insert_all_alike (update_alike same.rows _ _) inserted alsoInserted
    | false =>
        have otherForeign := (resolves_of_shown shown).symm.trans own
        rw [persist_rows_foreign view own present first, same.rows]
        rw [same.incidents] at present
        exact (persist_rows_foreign otherView otherForeign present second).symm
  have bare := bare_of_shown shown
  have checkId := field_of_bare PersistTx.checkId (fun _ => rfl) bare
  have check := field_of_bare PersistTx.check (fun _ => rfl) bare
  have result := field_of_bare PersistTx.result (fun _ => rfl) bare
  have incident := field_of_bare PersistTx.incident (fun _ => rfl) bare
  have newResult := field_of_bare resultRow (fun _ => rfl) bare
  have monitorId := field_of_bare PersistTx.monitorId (fun _ => rfl) bare
  have write := field_of_bare PersistTx.monitorWrite (fun _ => rfl) bare
  obtain ⟨results, incidents, outbox, inserted, applied, -, rfl⟩ := persist_commit_cases first
  obtain ⟨otherResults, otherIncidents, otherOutbox, alsoInserted, alsoApplied, -, rfl⟩ :=
    persist_commit_cases second
  rw [checkId, newResult, same.results, alsoInserted, Option.some.injEq] at inserted
  rw [incident, same.incidents, alsoApplied, Option.some.injEq] at applied
  refine ⟨?_, ?_, inserted.symm, applied.symm, same.channels, rows⟩
  · dsimp only
    rw [same.monitors, monitorId, write]
  · dsimp only
    rw [same.checks, check, checkId, result]

theorem create_due_check_alike {now : Time} {due : DueMonitor} {id : CheckId}
    {after otherAfter : Database} (first : createDueCheck left now due id = some after)
    (second : createDueCheck right now due id = some otherAfter) :
    SameView incidentId after otherAfter := by
  unfold createDueCheck at first second
  rw [← same.checks, ← same.monitors] at second
  split at first
  · cases first
  · rename_i late
    rw [late] at second
    cases first
    cases second
    exact same
  · rename_i scheduledAt coalesced
    rw [coalesced] at second
    dsimp only at second
    split at first
    · cases first
    · rename_i nextCheckAt computed
      rw [computed] at second
      simp only [Option.bind_eq_bind, Option.bind_eq_some_iff, Option.some.injEq] at first second
      obtain ⟨checks, stored, rfl⟩ := first
      obtain ⟨otherChecks, alsoStored, rfl⟩ := second
      rw [alsoStored, Option.some.injEq] at stored
      exact { same with checks := stored.symm, monitors := rfl }

theorem create_due_alike {now : Time} {due : List (DueMonitor × CheckId)}
    {after otherAfter : Database} (first : createDueChecks left now due = some after)
    (second : createDueChecks right now due = some otherAfter) :
    SameView incidentId after otherAfter := by
  induction due generalizing left right with
  | nil =>
      cases first
      cases second
      exact same
  | cons head rest ih =>
      obtain ⟨monitor, id⟩ := head
      simp only [createDueChecks, Option.bind_eq_bind, Option.bind_eq_some_iff] at first second
      obtain ⟨middle, created, first⟩ := first
      obtain ⟨otherMiddle, alsoCreated, second⟩ := second
      exact ih (create_due_check_alike same created alsoCreated) first second

theorem claim_commit_alike {tx : ClaimTx} (own : ofIncident incidentId tx.key = true)
    {after otherAfter : Database} {granted otherGranted : Option ClaimedNotification}
    (first : claimCommit left tx = some (after, granted))
    (second : claimCommit right tx = some (otherAfter, otherGranted)) :
    SameView incidentId after otherAfter ∧ granted = otherGranted := by
  have down : left.outbox.get tx.key.down = right.outbox.get tx.key.down := same.row own
  simp only [claimCommit, Option.bind_eq_bind, Option.bind_eq_some_iff,
    priorDownStatus] at first second
  obtain ⟨row, found, first⟩ := first
  obtain ⟨otherRow, alsoFound, second⟩ := second
  rw [← same.row own, found, Option.some.injEq] at alsoFound
  subst alsoFound
  rw [← down] at second
  split at first
  · rename_i outcome
    rw [outcome] at second
    cases first
    cases second
    exact ⟨same, rfl⟩
  · rename_i outcome
    rw [outcome] at second
    cases first
    cases second
    exact ⟨{ same with rows := update_alike same.rows _ _ }, rfl⟩
  · rename_i outcome
    rw [outcome] at second
    cases first
    cases second
    exact ⟨{ same with }, rfl⟩
  · rename_i outcome
    rw [outcome] at second
    cases first
    cases second
    refine ⟨{ same with rows := ?_ }, rfl⟩
    dsimp only
    split
    · exact update_alike (update_alike same.rows _ _) _ _
    · exact update_alike same.rows _ _
  · rename_i outcome
    rw [outcome] at second
    simp only [Option.bind_eq_some_iff, Option.some.injEq, Prod.mk.injEq] at first second
    obtain ⟨_, -, rfl, rfl⟩ := first
    obtain ⟨_, -, rfl, rfl⟩ := second
    exact ⟨{ same with rows := update_alike same.rows _ _ }, rfl⟩

theorem mark_sent_commit_alike {tx : MarkSentTx} (own : ofIncident incidentId tx.claimed.key = true)
    {after otherAfter : Database} (first : markSentCommit left tx = some after)
    (second : markSentCommit right tx = some otherAfter) :
    SameView incidentId after otherAfter := by
  simp only [markSentCommit, Option.bind_eq_bind, Option.bind_eq_some_iff] at first second
  obtain ⟨row, found, first⟩ := first
  obtain ⟨otherRow, alsoFound, second⟩ := second
  rw [← same.row own, found, Option.some.injEq] at alsoFound
  subst alsoFound
  split at first
  · rename_i canceled
    rw [if_pos canceled] at second
    cases first
    cases second
    exact { same with }
  · rename_i notCanceled
    rw [if_neg notCanceled] at second
    simp only [Option.bind_eq_some_iff, Option.some.injEq] at first second
    obtain ⟨outbox, recovered, rfl⟩ := first
    obtain ⟨otherOutbox, alsoRecovered, rfl⟩ := second
    refine { same with rows := ?_ }
    have sent := update_alike same.rows (fun key _ => key = tx.claimed.key) fun _ => tx.rowWrite
    unfold MarkSentTx.recoveryWrite at recovered alsoRecovered
    cases recovery : tx.recovery with
    | none =>
        rw [recovery] at recovered alsoRecovered
        rw [← Option.some.inj recovered, ← Option.some.inj alsoRecovered]
        exact sent
    | reactivate =>
        rw [recovery] at recovered alsoRecovered
        rw [← Option.some.inj recovered, ← Option.some.inj alsoRecovered]
        exact update_alike sent _ _
    | create late =>
        rw [recovery] at recovered alsoRecovered
        exact insert_new_alike sent recovered alsoRecovered

theorem mark_failed_alike {claimed : ClaimedNotification}
    (own : ofIncident incidentId claimed.key = true) (error : NotificationProviderError)
    (now : Time) (retryDelayMs : Nat) :
    SameView incidentId (markFailed left claimed error now retryDelayMs)
      (markFailed right claimed error now retryDelayMs) := by
  refine { same with rows := ?_ }
  have shown : failsDown left claimed error = failsDown right claimed error := by
    rw [failsDown, failsDown, same.row own]
  simp only [markFailed]
  rw [shown]
  by_cases fails : failsDown right claimed error = true
  · rw [if_pos fails, if_pos fails]
    exact update_alike (update_alike same.rows _ _) _ _
  · rw [if_neg fails, if_neg fails]
    exact update_alike same.rows _ _

end Databases

section Services

variable (incidentId : IncidentId)

theorem runtime_bare (tx : MonitorTx) (db : Database) :
    SameView incidentId (tx.runtimeWrite db) (tx.bare.runtimeWrite db) := by
  obtain ⟨id, now, next, change⟩ := tx
  cases change with
  | update merged found => cases found <;> exact ⟨rfl, rfl, rfl, rfl, rfl, rfl⟩
  | create => exact ⟨rfl, rfl, rfl, rfl, rfl, rfl⟩
  | pause => exact ⟨rfl, rfl, rfl, rfl, rfl, rfl⟩
  | resume => exact ⟨rfl, rfl, rfl, rfl, rfl, rfl⟩
  | remove => exact ⟨rfl, rfl, rfl, rfl, rfl, rfl⟩

theorem monitor_write_bare (tx : MonitorTx) : tx.bare.monitorWrite = tx.monitorWrite := by
  obtain ⟨id, now, next, change⟩ := tx
  cases change with
  | update merged found => cases found <;> rfl
  | create => rfl
  | pause => rfl
  | resume => rfl
  | remove => rfl

omit incidentId in
theorem monitor_commit_update (db : Database) {tx : MonitorTx}
    (notCreate : tx.change.isCreate = false) :
    monitorCommit db tx = some { tx.runtimeWrite db with
      monitors := db.monitors.updateKey tx.id tx.monitorWrite
      bindings := tx.bindingWrite db.bindings } := by
  unfold monitorCommit
  dsimp only
  split
  · rename_i input create
    rw [create] at notCreate
    cases notCreate
  · rfl

/-- The open attempts and the channels of an operation show nothing of the incident. -/
theorem monitor_commit_bare {db after : Database} {tx : MonitorTx}
    (written : monitorCommit db tx = some after) :
    ∃ bare, monitorCommit db tx.bare = some bare ∧ SameView incidentId after bare := by
  have updated : tx.change.isCreate = false → tx.bare.change.isCreate = false →
      ∃ bare, monitorCommit db tx.bare = some bare ∧ SameView incidentId after bare := by
    intro notCreate bareNotCreate
    rw [monitor_commit_update db notCreate] at written
    refine ⟨_, monitor_commit_update db bareNotCreate, ?_⟩
    rw [← Option.some.inj written]
    refine { runtime_bare incidentId tx db with monitors := ?_ }
    dsimp only
    rw [monitor_write_bare]
    rfl
  have shape : tx.bare.change = tx.change.bare := rfl
  cases change : tx.change with
  | create input =>
      have same : tx.bare = tx := by
        rw [MonitorTx.bare, change, MonitorChange.bare, ← change]
      exact ⟨after, same.symm ▸ written, .refl after⟩
  | update => exact updated (by rw [change]; rfl) (by rw [shape, change]; rfl)
  | pause => exact updated (by rw [change]; rfl) (by rw [shape, change]; rfl)
  | resume => exact updated (by rw [change]; rfl) (by rw [shape, change]; rfl)
  | remove => exact updated (by rw [change]; rfl) (by rw [shape, change]; rfl)

theorem channel_commit_bare (db : Database) (tx : ChannelTx) :
    SameView incidentId (channelCommit db tx) (channelCommit db tx.bare) := by
  obtain ⟨id, now, change⟩ := tx
  cases change with
  | update patch found =>
      unfold channelCommit ChannelTx.retireWrite
      simp only [ChannelTx.bare, ChannelChange.bare, ChannelChange.retires]
      by_cases disables : patch.disables = true
      · rw [if_pos disables, if_pos disables]
        exact ⟨rfl, rfl, rfl, rfl, rfl, rfl⟩
      · rw [if_neg disables, if_neg disables]
        exact ⟨rfl, rfl, rfl, rfl, rfl, rfl⟩
  | remove found => exact ⟨rfl, rfl, rfl, rfl, rfl, rfl⟩

end Services

section Databases

variable {incidentId : IncidentId} {left right : Database} (same : SameView incidentId left right)

include same

theorem runtime_alike (tx : MonitorTx) :
    SameView incidentId (tx.runtimeWrite left) (tx.runtimeWrite right) := by
  unfold MonitorTx.runtimeWrite
  split
  · unfold cancelRuntime
    refine { same with incidents := ?_, checks := ?_, rows := retire_rows_alike same.rows _ _ }
    · dsimp only
      rw [same.checks]
    · dsimp only
      rw [same.incidents]
  · exact same

theorem monitor_commit_alike {tx other : MonitorTx} (bare : tx.bare = other.bare)
    {after otherAfter : Database} (first : monitorCommit left tx = some after)
    (second : monitorCommit right other = some otherAfter) :
    SameView incidentId after otherAfter := by
  obtain ⟨middle, written, kept⟩ := monitor_commit_bare incidentId first
  obtain ⟨otherMiddle, alsoWritten, alsoKept⟩ := monitor_commit_bare incidentId second
  rw [← bare] at alsoWritten
  refine kept.trans (.trans ?_ alsoKept.symm)
  have runtime := runtime_alike same tx.bare
  cases create : tx.bare.change.isCreate with
  | false =>
      rw [monitor_commit_update _ create] at written alsoWritten
      rw [← Option.some.inj written, ← Option.some.inj alsoWritten]
      refine { runtime with monitors := ?_ }
      dsimp only
      rw [same.monitors]
  | true =>
      unfold monitorCommit at written alsoWritten
      dsimp only at written alsoWritten
      rw [← same.monitors] at alsoWritten
      split at written
      · rename_i input change
        rw [change] at alsoWritten
        simp only [Option.bind_eq_bind, Option.bind_eq_some_iff, Option.some.injEq]
          at written alsoWritten
        obtain ⟨monitors, inserted, rfl⟩ := written
        obtain ⟨otherMonitors, alsoInserted, rfl⟩ := alsoWritten
        rw [alsoInserted, Option.some.injEq] at inserted
        exact { runtime with monitors := inserted.symm }
      · rename_i notCreate
        cases change : tx.bare.change with
        | create input => exact absurd change (notCreate input)
        | _ =>
            rw [change] at create
            cases create

theorem channel_commit_alike {tx other : ChannelTx} (bare : tx.bare = other.bare) :
    SameView incidentId (channelCommit left tx) (channelCommit right other) := by
  refine (channel_commit_bare incidentId left tx).trans (.trans ?_
    (channel_commit_bare incidentId right other).symm)
  rw [← bare]
  unfold channelCommit ChannelTx.retireWrite
  split
  · refine { same with channels := ?_ }
    dsimp only
    rw [same.channels]
  · refine { same with channels := ?_, rows := retire_rows_alike same.rows _ _ }
    dsimp only
    rw [same.channels]

end Databases

inductive SameMeaning (incidentId : IncidentId) (monitors : Table MonitorId MonitorRow) :
    Transaction → Transaction → Prop where
  | silent {tx other : Transaction} : tx.about incidentId monitors = none →
      other.about incidentId monitors = none → SameMeaning incidentId monitors tx other
  | persist {tx other : PersistTx} : tx.shown incidentId = other.shown incidentId →
      SameMeaning incidentId monitors (.persist tx) (.persist other)
  | claim {tx : ClaimTx} : ofIncident incidentId tx.key = true →
      SameMeaning incidentId monitors (.claim tx) (.claim tx)
  | markSent {tx : MarkSentTx} : ofIncident incidentId tx.claimed.key = true →
      SameMeaning incidentId monitors (.markSent tx) (.markSent tx)
  | createDue {tx : CreateDueTx} : SameMeaning incidentId monitors (.createDue tx) (.createDue tx)
  | monitor {tx other : MonitorTx} : tx.bare = other.bare →
      SameMeaning incidentId monitors (.monitor tx) (.monitor other)
  | channel {tx other : ChannelTx} : tx.bare = other.bare →
      SameMeaning incidentId monitors (.channel tx) (.channel other)

theorem about_cases {incidentId : IncidentId} {monitors : Table MonitorId MonitorRow}
    {tx view : Transaction} (shows : tx.about incidentId monitors = some view) :
    (∃ persist, tx = .persist persist ∧ view = .persist (persist.shown incidentId)) ∨
    (∃ claim, tx = .claim claim ∧ view = .claim claim ∧ ofIncident incidentId claim.key = true) ∨
    (∃ sent, tx = .markSent sent ∧ view = .markSent sent ∧
      ofIncident incidentId sent.claimed.key = true) ∨
    (∃ due, tx = .createDue due ∧ view = .createDue due) ∨
    (∃ monitor, tx = .monitor monitor ∧ view = .monitor monitor.bare) ∨
    ∃ channel, tx = .channel channel ∧ view = .channel channel.bare := by
  cases tx with
  | persist persist => exact Or.inl ⟨persist, rfl, (Option.some.inj shows).symm⟩
  | claim claim =>
      simp only [Transaction.about, Option.ite_none_right_eq_some, Option.some.injEq] at shows
      exact Or.inr (Or.inl ⟨claim, rfl, shows.2.symm, shows.1⟩)
  | markSent sent =>
      simp only [Transaction.about, Option.ite_none_right_eq_some, Option.some.injEq] at shows
      exact Or.inr (Or.inr (Or.inl ⟨sent, rfl, shows.2.symm, shows.1⟩))
  | createDue due =>
      exact Or.inr (Or.inr (Or.inr (Or.inl ⟨due, rfl, (Option.some.inj shows).symm⟩)))
  | monitor monitor =>
      simp only [Transaction.about, Option.ite_none_left_eq_some, Option.some.injEq] at shows
      exact Or.inr (Or.inr (Or.inr (Or.inr (Or.inl ⟨monitor, rfl, shows.2.symm⟩))))
  | channel channel =>
      exact Or.inr (Or.inr (Or.inr (Or.inr (Or.inr ⟨channel, rfl, (Option.some.inj shows).symm⟩))))

theorem same_meaning {incidentId : IncidentId} {monitors : Table MonitorId MonitorRow}
    {tx other : Transaction}
    (same : tx.about incidentId monitors = other.about incidentId monitors) :
    SameMeaning incidentId monitors tx other := by
  cases shown : tx.about incidentId monitors with
  | none => exact .silent shown (same.symm.trans shown)
  | some view =>
      have alsoShown := same.symm.trans shown
      rcases about_cases shown with ⟨first, rfl, rfl⟩ | ⟨first, rfl, rfl, own⟩ |
        ⟨first, rfl, rfl, own⟩ | ⟨first, rfl, rfl⟩ | ⟨first, rfl, rfl⟩ | ⟨first, rfl, rfl⟩
      all_goals
        rcases about_cases alsoShown with ⟨second, rfl, equal⟩ | ⟨second, rfl, equal, -⟩ |
          ⟨second, rfl, equal, -⟩ | ⟨second, rfl, equal⟩ | ⟨second, rfl, equal⟩ |
          ⟨second, rfl, equal⟩
      all_goals try simp only [reduceCtorEq] at equal
      · exact .persist (Transaction.persist.inj equal)
      · exact Transaction.claim.inj equal ▸ .claim own
      · exact Transaction.markSent.inj equal ▸ .markSent own
      · exact Transaction.createDue.inj equal ▸ .createDue
      · exact .monitor (Transaction.monitor.inj equal)
      · exact .channel (Transaction.channel.inj equal)

section Common

variable {incidentId : IncidentId} {left right : System} (alike : Alike incidentId left right)

include alike

theorem commit_alike (outbox : OutboxInvariant left) (otherOutbox : OutboxInvariant right)
    (present : (left.db.incidents.get incidentId).isSome = true) {t : TxId}
    {tx other : Transaction} {db otherDb : Database} {rest otherRest : Attempts}
    {events otherEvents : List Event} (inProgress : left.txs.get t = some tx)
    (alsoInProgress : right.txs.get t = some other)
    (first : TxCommit left t tx db rest events)
    (second : TxCommit right t other otherDb otherRest otherEvents) :
    SameView incidentId db otherDb ∧
      ∀ attempt : OutboxKey × Nat, ofIncident incidentId attempt.1 = true →
        rest.get attempt = otherRest.get attempt := by
  have same := alike.txs t
  rw [System.about, System.about, inProgress, alsoInProgress, Option.bind_some, Option.bind_some,
    ← alike.db.monitors] at same
  cases same_meaning same with
  | silent silent alsoSilent =>
      obtain ⟨view, attempts⟩ := silent_commit first silent
      rw [alike.db.monitors] at alsoSilent
      obtain ⟨otherView, otherAttempts⟩ := silent_commit second alsoSilent
      refine ⟨view.symm.trans (alike.db.trans otherView), fun attempt own => ?_⟩
      rw [← attempts attempt own, alike.attempts attempt own, otherAttempts attempt own]
  | persist shown =>
      cases first with
      | persist tx db finished written =>
          cases second with
          | persist other otherDb alsoFinished alsoWritten =>
              have view := outbox.views t _ inProgress
              have otherView := otherOutbox.views t _ alsoInProgress
              exact ⟨persist_commit_alike alike.db shown view otherView present written
                alsoWritten, alike.attempts⟩
  | claim own =>
      cases first with
      | claimIgnored tx db needs written =>
          cases second with
          | claimIgnored _ otherDb _ alsoWritten =>
              exact ⟨(claim_commit_alike alike.db own written alsoWritten).1, alike.attempts⟩
          | claimGranted _ otherDb claimed alsoWritten =>
              cases (claim_commit_alike alike.db own written alsoWritten).2
      | claimGranted tx db claimed written =>
          cases second with
          | claimIgnored _ otherDb _ alsoWritten =>
              cases (claim_commit_alike alike.db own written alsoWritten).2
          | claimGranted _ otherDb otherClaimed alsoWritten =>
              obtain ⟨view, granted⟩ := claim_commit_alike alike.db own written alsoWritten
              refine ⟨view, fun attempt mine => ?_⟩
              rw [Option.some.inj granted, Table.get_put, Table.get_put,
                alike.attempts attempt mine]
  | markSent own =>
      cases first with
      | markSent tx db free written =>
          cases second with
          | markSent _ otherDb alsoFree alsoWritten =>
              exact ⟨mark_sent_commit_alike alike.db own written alsoWritten, alike.attempts⟩
  | createDue =>
      cases first with
      | createDue tx db written =>
          cases second with
          | createDue _ otherDb alsoWritten =>
              exact ⟨create_due_alike alike.db written alsoWritten, alike.attempts⟩
  | monitor bare =>
      cases first with
      | monitor tx db free written =>
          cases second with
          | monitor other otherDb alsoFree alsoWritten =>
              exact ⟨monitor_commit_alike alike.db bare written alsoWritten, alike.attempts⟩
  | channel bare =>
      cases first with
      | channel tx =>
          cases second with
          | channel other => exact ⟨channel_commit_alike alike.db bare, alike.attempts⟩

end Common

end LinkAlive
