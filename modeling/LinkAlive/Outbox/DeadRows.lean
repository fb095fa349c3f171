import LinkAlive.Outbox.Attempts
import LinkAlive.Outbox.Redactions

/-!
# Dead rows

A row that is terminal and not needed any more has lost its destination. Every statement
that makes a row terminal decides about the destination itself; what it keeps for an open
incident is left to the step that closes the incident.
-/

namespace LinkAlive

open Relational Transition

set_option autoImplicit false

/-- `shouldRetainNotificationSecret` on a row and the status of its incident. -/
def OutboxRow.retains (row : OutboxRow) (incidentStatus : IncidentStatus) : Bool :=
  shouldRetainNotificationSecret
    { status := row.status
      eventType := row.eventType
      lastErrorSafe := row.lastErrorSafe
      payloadAllowsRecovery := payloadAllowsRecovery row.payloadSafe
      incidentStatus := some incidentStatus }

def DeadRowsRedacted (s : System) : Prop :=
  ∀ key row incident, s.db.outbox.get key = some row →
    s.db.incidents.get key.incidentId = some incident → row.status.isTerminal = true →
      row.retains incident.status = false → row.encryptedConfigSnapshot = .tombstone

/-- A confirmed attempt keeps the destination for an incident that is no longer OPEN, or
that a resolution closes which has passed the row already. -/
def keepsForResolved (s : System) : Action → Bool
  | .commit t =>
      match s.txs.get t with
      | some (.markSent tx) =>
          tx.retains &&
            ((s.db.outbox.get tx.claimed.key).any fun row =>
              row.status ≠ .canceled && !row.encryptedConfigSnapshot.isTombstone) &&
            (((s.db.incidents.get tx.claimed.key.incidentId).any fun incident =>
                incident.status ≠ .opened) ||
              !s.free (Transaction.passesOver tx.claimed.key))
      | _ => false
  | _ => false

def leavesSecret (s : System) (a : Action) : Bool := leavesDelivered s a || keepsForResolved s a

structure DeadRowInvariant (s : System) : Prop where
  dead : DeadRowsRedacted s
  candidates : ∀ d state, s.dispatchers.get d = some state →
    (∃ row, s.db.outbox.get state.key = some row ∧ state.eventType = row.eventType) ∧
      ∀ down, state.stage = .compared down → state.eventType = .recovery
  resolutions : ∀ t tx, s.txs.get t = some (.persist tx) → ResolutionRedacts s.db.outbox tx

section Steps

variable {s after : System} {a : Action} {key : OutboxKey} {row next : OutboxRow}

/-- Why a terminal row still has its destination after a step. -/
inductive SecretSource (s : System) (key : OutboxKey) (row next : OutboxRow) : Action → Prop
  | before (a : Action) : row.status.isTerminal = true → row.hasSecret →
      next.status = row.status → next.lastErrorSafe = row.lastErrorSafe →
        SecretSource s key row next a
  | undelivered (a : Action) : next.eventType = .recovery → next.canceledUndelivered = true →
      SecretSource s key row next a
  | confirmed (t : TxId) (tx : MarkSentTx) : s.txs.get t = some (.markSent tx) →
      key = tx.claimed.key → row.status ≠ .canceled → tx.retains = true → row.hasSecret →
      next.status = .sent → SecretSource s key row next (.commit t)

theorem retired_no_secret (row : OutboxRow) : ¬ row.retired.hasSecret := by
  intro secret
  cases secret

theorem retired_by_runtime_no_secret (row : OutboxRow) (now : Time) :
    ¬ (row.retiredByRuntime now).hasSecret := retired_no_secret _

theorem secret_source (rows : DeadRowInvariant s)
    (found : s.db.outbox.get key = some row) (move : OutboxMove s key row a next)
    (terminal : next.status.isTerminal = true) (secret : next.hasSecret) :
    SecretSource s key row next a := by
  cases move with
  | kept => exact .before _ terminal secret rfl rfl
  | dispatched d state decision remembered target decided available =>
      cases decision with
      | disabled => cases secret
      | wait =>
          have open_ := available_not_terminal available
          have same : row.status.isTerminal = true := terminal
          rw [same] at open_
          cases open_
      | undelivered retain =>
          cases retain with
          | false => cases secret
          | true =>
              obtain ⟨⟨other, otherFound, event⟩, compared⟩ := rows.candidates d state remembered
              rw [← target, found, Option.some_inj] at otherFound
              subst otherFound
              apply SecretSource.undelivered
              · have recovery : state.eventType = .recovery := by
                  unfold DispatchState.decision at decided
                  split at decided
                  · split at decided
                    · cases decided
                    · split at decided <;> cases decided
                  · rename_i down stage
                    exact compared down stage
                  · cases decided
                exact event.symm.trans recovery
              · rfl
      | dispatch => cases terminal
  | finished d state accepted => cases accepted <;> cases terminal
  | claimDisabled t tx =>
      unfold OutboxRow.canceledByClaim at secret
      split at secret <;> cases secret
  | claimExhausted => cases secret
  | claimGranted => cases terminal
  | undeliveredByClaim t tx down inProgress target stored outcome event recovery waiting =>
      exact .undelivered _ recovery rfl
  | undeliveredByFailure attempt claimed error now delay remembered target fails event waiting =>
      exact .undelivered _ event rfl
  | reported =>
      split at terminal
      · cases terminal
      · rename_i final
        rw [if_neg final] at secret
        cases secret
  | sent t tx inProgress target notCanceled =>
      cases retains : tx.retains with
      | false =>
          rw [MarkSentTx.rowWrite, retains] at secret
          cases secret
      | true =>
          have same : tx.rowWrite row = row.sent tx.now := by
            rw [MarkSentTx.rowWrite, retains]
            rfl
          rw [same] at secret ⊢
          exact .confirmed t tx inProgress target notCanceled retains secret rfl
  | reactivated => cases terminal
  | retiredByMonitor t tx => exact absurd secret (retired_by_runtime_no_secret row tx.now)
  | retiredByChannel t tx => exact absurd secret (retired_by_runtime_no_secret row tx.now)
  | resolved t tx inProgress finished =>
      have redacts := rows.resolutions t tx inProgress
      by_cases redacted : key ∈ tx.outbox.redacts
      · unfold PersistTx.rowWrite at secret
        simp only [if_pos redacted] at secret
        exact absurd secret (retired_no_secret _)
      · have kept : key ∉ tx.outbox.cancels := by
          intro canceled
          rcases redacts.cancels key canceled with done | ⟨_, _, _, _, stage, _⟩
          · exact redacted done
          · rw [finished] at stage
            cases stage
        have same : tx.rowWrite key row = row := by
          unfold PersistTx.rowWrite
          simp only [if_neg kept, if_neg redacted]
        rw [same] at terminal secret ⊢
        exact .before _ terminal secret rfl rfl

theorem step_incident_closes (ledger : LedgerInvariant s) (stepped : Stepped s a after)
    {id : IncidentId} {incident later : IncidentRow}
    (found : s.db.incidents.get id = some incident) (opened : incident.status = .opened)
    (stored : after.db.incidents.get id = some later) :
    later.status = .opened ∨
      (∃ t tx time, a = .commit t ∧ s.txs.get t = some (.persist tx) ∧
        tx.incident = .resolve id time) ∨
      ∃ t tx, a = .commit t ∧ s.txs.get t = some (.monitor tx) ∧
        tx.change.cancels.isSome = true ∧ incident.monitorId = tx.id := by
  cases step_incident_row ledger stepped stored with
  | kept before =>
      rw [found, Option.some_inj] at before
      exact Or.inl (before ▸ opened)
  | created t tx _ _ _ absent =>
      rw [found] at absent
      cases absent
  | touched t tx row error _ _ _ before _ isOpen same =>
      rw [same]
      exact Or.inl isOpen
  | resolved t tx row time committed inProgress write =>
      exact Or.inr (Or.inl ⟨t, tx, time, committed, inProgress, write⟩)
  | canceled t tx row reason attempts committed inProgress cancels before owner =>
      rw [found, Option.some_inj] at before
      rw [before]
      exact Or.inr (Or.inr ⟨t, tx, committed, inProgress, by rw [cancels]; rfl, owner⟩)

theorem retains_iff (terminal : row.status.isTerminal = true) {incidentStatus : IncidentStatus} :
    row.retains incidentStatus = true ↔
      row.eventType = .recovery ∧ row.canceledUndelivered = true ∨
        row.eventType = .down ∧ row.status = .sent ∧
          payloadAllowsRecovery row.payloadSafe = true ∧ incidentStatus = .opened := by
  simp [OutboxRow.retains, shouldRetainNotificationSecret, terminal,
    OutboxRow.canceledUndelivered, and_assoc]

theorem mark_sent_retains {tx : MarkSentTx} (retains : tx.retains = true) :
    tx.claimed.row.eventType = .down ∧
      payloadAllowsRecovery tx.claimed.row.payloadSafe = true := by
  simp [MarkSentTx.retains, shouldRetainNotificationSecret, canceledUndelivered,
    NotificationOutboxStatus.isTerminal] at retains
  exact ⟨retains.1.1, retains.1.2⟩

theorem kept_for_open {t : TxId} {tx : MarkSentTx} {incident : IncidentRow}
    (inProgress : s.txs.get t = some (.markSent tx))
    (careful : keepsForResolved s (.commit t) = false) (target : key = tx.claimed.key)
    (found : s.db.outbox.get key = some row) (notCanceled : row.status ≠ .canceled)
    (retains : tx.retains = true) (secret : row.hasSecret)
    (incidentFound : s.db.incidents.get key.incidentId = some incident) :
    incident.status = .opened ∧ s.free (Transaction.passesOver key) = true := by
  subst target
  have holds : row.encryptedConfigSnapshot.isTombstone = false := secret
  simp only [keepsForResolved, inProgress, retains, found, incidentFound, Option.any_some,
    decide_not, notCanceled, holds, decide_false, Bool.not_false, Bool.and_self, Bool.true_and,
    Bool.or_eq_false_iff, Bool.not_eq_false', decide_eq_true_eq] at careful
  exact careful

/-- A delivered row whose incident is closed by this step loses its destination with it. -/
theorem closing_step_redacts (ledger : LedgerInvariant s) (invariant : OutboxInvariant s)
    (rows : DeadRowInvariant s) (stepped : Stepped s a after)
    (found : s.db.outbox.get key = some row) (delivered : row.isDelivered = true)
    {incident later : IncidentRow}
    (incidentFound : s.db.incidents.get key.incidentId = some incident)
    (opened : incident.status = .opened)
    (stored : after.db.incidents.get key.incidentId = some later)
    (closed : later.status ≠ .opened) (nextFound : after.db.outbox.get key = some next) :
    ¬ next.hasSecret := by
  rcases step_incident_closes ledger stepped incidentFound opened stored with still |
    ⟨t, tx, time, rfl, inProgress, resolves⟩ | ⟨t, tx, rfl, inProgress, cancels, owner⟩
  · exact absurd still closed
  · obtain ⟨finished, written⟩ := persist_committed stepped inProgress
    have retires := (rows.resolutions t tx inProgress).sent key row time resolves found delivered
    have redacted : key ∈ tx.outbox.redacts := by
      rcases retires_iff.1 retires with redacted | ⟨resolution, stage, _⟩
      · exact redacted
      · rw [finished] at stage
        cases stage
    rw [persist_commit_row written found] at nextFound
    cases nextFound
    unfold PersistTx.rowWrite
    simp only [if_pos redacted]
    exact retired_no_secret _
  · obtain ⟨_, written, _⟩ := monitor_committed stepped inProgress
    obtain ⟨other, otherFound, owned⟩ := invariant.owned key row found
    rw [incidentFound, Option.some_inj] at otherFound
    subst otherFound
    rw [runtime_canceled_row cancels written found (owned.symm.trans owner)] at nextFound
    cases nextFound
    exact retired_by_runtime_no_secret row tx.now

theorem DeadRowInvariant.needed (rows : DeadRowInvariant s) (found : s.db.outbox.get key = some row)
    (terminal : row.status.isTerminal = true) (secret : row.hasSecret) {incident : IncidentRow}
    (incidentFound : s.db.incidents.get key.incidentId = some incident) :
    row.retains incident.status = true := by
  cases retains : row.retains incident.status with
  | true => rfl
  | false =>
      have gone := rows.dead key row incident found incidentFound terminal retains
      rw [OutboxRow.hasSecret, gone] at secret
      cases secret

/-- What became of the row that a step leaves terminal with its destination. -/
theorem secret_row_source (invariant : OutboxInvariant s) (rows : DeadRowInvariant s)
    (stepped : Stepped s a after) (stored : after.db.outbox.get key = some next)
    (terminal : next.status.isTerminal = true) (secret : next.hasSecret) :
    ∃ row, s.db.outbox.get key = some row ∧ next.SameEvent row ∧
      SecretSource s key row next a := by
  cases before : s.db.outbox.get key with
  | none =>
      have pending := (new_row_unattempted invariant (step_outbox_new stepped before stored)).2
      rw [pending] at terminal
      cases terminal
  | some row =>
      obtain ⟨other, otherStored, move, _⟩ := step_outbox_row invariant.sequenced stepped before
      rw [stored, Option.some_inj] at otherStored
      subst otherStored
      exact ⟨row, rfl, move.same_event, secret_source rows before move terminal secret⟩

theorem dead_rows_step (ledger : LedgerInvariant s) (invariant : OutboxInvariant s)
    (rows : DeadRowInvariant s) (careful : keepsForResolved s a = false)
    (stepped : Stepped s a after) : DeadRowsRedacted after := by
  intro key next later stored laterFound terminal forgotten
  cases snapshot : next.encryptedConfigSnapshot with
  | tombstone => rfl
  | envelope config =>
      exfalso
      have secret : next.hasSecret := by
        rw [OutboxRow.hasSecret, snapshot]
        rfl
      have unneeded : ¬ next.retains later.status = true := by simp [forgotten]
      obtain ⟨row, found, same, source⟩ :=
        secret_row_source invariant rows stepped stored terminal secret
      obtain ⟨incident, incidentFound, _⟩ := invariant.owned key row found
      rw [retains_iff terminal] at unneeded
      cases source with
      | undelivered _ recovery undelivered => exact unneeded (Or.inl ⟨recovery, undelivered⟩)
      | before _ wasTerminal held status error =>
          have needed := rows.needed found wasTerminal held incidentFound
          rw [retains_iff wasTerminal] at needed
          rcases needed with ⟨recovery, undelivered⟩ | ⟨down, sent, allows, opened⟩
          · apply unneeded
            refine Or.inl ⟨same.eventType.trans recovery, ?_⟩
            rw [OutboxRow.canceledUndelivered, status, error]
            exact undelivered
          · have closed : later.status ≠ .opened := by
              intro still
              apply unneeded
              refine Or.inr ⟨same.eventType.trans down, status.trans sent, ?_, still⟩
              rw [same.payloadSafe]
              exact allows
            exact closing_step_redacts ledger invariant rows stepped found
              (delivered_iff.2 ⟨down, sent, held⟩) incidentFound opened laterFound closed stored
              secret
      | confirmed t tx inProgress target notCanceled retains held sent =>
          have opened := (kept_for_open inProgress careful target found notCanceled retains held
            incidentFound).1
          have unchanged := (mark_sent_commit_same_ledger
            (mark_sent_committed stepped inProgress).2).incidents
          rw [unchanged, incidentFound, Option.some_inj] at laterFound
          subst laterFound
          obtain ⟨claimedDown, claimedAllows⟩ := mark_sent_retains retains
          have view : SentView s.db.outbox tx := invariant.views t _ inProgress
          obtain ⟨claimed, claimedFound, sameClaim⟩ := view.claim
          rw [← target, found, Option.some_inj] at claimedFound
          subst claimedFound
          apply unneeded
          refine Or.inr ⟨?_, sent, ?_, opened⟩
          · rw [same.eventType, sameClaim.eventType]
            exact claimedDown
          · rw [same.payloadSafe, sameClaim.payloadSafe]
            exact claimedAllows

theorem resolution_redacts_kept (invariant : OutboxInvariant s) (rows : DeadRowInvariant s)
    (careful : keepsForResolved s a = false) (stepped : Stepped s a after) {t : TxId}
    {tx : PersistTx} (inProgress : s.txs.get t = some (.persist tx)) :
    ResolutionRedacts after.db.outbox tx := by
  have redacts := rows.resolutions t tx inProgress
  refine ⟨redacts.closed, redacts.cancels, ?_⟩
  intro key next time resolves stored delivered
  obtain ⟨down, sent, secret⟩ := delivered_iff.1 delivered
  have terminal : next.status.isTerminal = true := by
    rw [sent]
    rfl
  obtain ⟨row, found, same, source⟩ :=
    secret_row_source invariant rows stepped stored terminal secret
  cases source with
  | before _ _ held status =>
      apply redacts.sent key row time resolves found
      exact delivered_iff.2 ⟨same.eventType.symm.trans down, status.symm.trans sent, held⟩
  | undelivered _ recovery =>
      rw [down] at recovery
      cases recovery
  | confirmed u ux confirming target notCanceled retains held =>
      obtain ⟨incident, incidentFound, _⟩ := invariant.owned key row found
      have free := (kept_for_open confirming careful target found notCanceled retains held
        incidentFound).2
      have kept := System.free_iff.1 free t _ inProgress
      simpa [Transaction.passesOver, resolves] using kept

theorem candidates_step (invariant : OutboxInvariant s) (rows : DeadRowInvariant s)
    (stepped : Stepped s a after) {d : DispatcherId} {state : DispatchState}
    (remembered : after.dispatchers.get d = some state) :
    (∃ row, after.db.outbox.get state.key = some row ∧ state.eventType = row.eventType) ∧
      ∀ down, state.stage = .compared down → state.eventType = .recovery := by
  have kept : ∀ other, (∃ row, s.db.outbox.get state.key = some row ∧
      other = row.eventType) → ∃ row, after.db.outbox.get state.key = some row ∧
        other = row.eventType := by
    rintro other ⟨row, found, event⟩
    obtain ⟨next, stored, move, _⟩ := step_outbox_row invariant.sequenced stepped found
    exact ⟨next, stored, event.trans move.same_event.eventType.symm⟩
  have before : s.dispatchers.get d = some state →
      (∃ row, after.db.outbox.get state.key = some row ∧ state.eventType = row.eventType) ∧
        ∀ down, state.stage = .compared down → state.eventType = .recovery := by
    intro old
    obtain ⟨row, compared⟩ := rows.candidates d state old
    exact ⟨kept _ row, compared⟩
  cases stepped with
  | dispatcher _ outbox dispatchers statement =>
      cases statement with
      | scan other owner leaseMs now key scanned found =>
          rw [Table.get_put] at remembered
          split at remembered
          · cases remembered
            simp only [scanCandidate, Option.bind_eq_bind, Option.bind_eq_some_iff] at found
            obtain ⟨row, stored, built⟩ := found
            split at built
            · cases built
              exact ⟨kept _ ⟨row, stored, rfl⟩, by simp⟩
            · cases built
          · exact before remembered
      | compareDown other old next oldFound compared =>
          rw [Table.get_put] at remembered
          split at remembered
          · cases remembered
            obtain ⟨row, _⟩ := rows.candidates other old oldFound
            unfold compareDown at compared
            split at compared
            · rename_i guard
              cases compared
              simp only [Bool.and_eq_true, decide_eq_true_eq] at guard
              exact ⟨kept _ row, fun _ _ => guard.2⟩
            · cases compared
          · exact before remembered
      | dispatchCandidate other old written next oldFound dispatched =>
          cases next with
          | none =>
              simp only [Table.get_remove] at remembered
              split at remembered
              · cases remembered
              · exact before remembered
          | some claimed =>
              simp only [Table.get_put] at remembered
              split at remembered
              · cases remembered
                obtain ⟨row, _⟩ := rows.candidates other old oldFound
                simp only [dispatchCandidate, Option.bind_eq_bind,
                  Option.bind_eq_some_iff] at dispatched
                obtain ⟨decision, _, same⟩ := dispatched
                rw [Option.some_inj, Prod.mk.injEq] at same
                obtain ⟨_, same⟩ := same
                split at same
                · cases same
                  exact ⟨kept _ row, by simp⟩
                · cases same
              · exact before remembered
      | finishDispatch other old =>
          rw [Table.get_remove] at remembered
          split at remembered
          · cases remembered
          · exact before remembered
  | channel => exact before remembered
  | ledger => exact before remembered
  | began => exact before remembered
  | advanced => exact before remembered
  | failed => exact before remembered
  | committed => exact before remembered
  | aborted => exact before remembered

theorem dead_row_invariant_step (ledger : LedgerInvariant s) (invariant : OutboxInvariant s)
    (rows : DeadRowInvariant s) (careful : leavesSecret s a = false)
    (stepped : Stepped s a after) : DeadRowInvariant after := by
  rw [leavesSecret, Bool.or_eq_false_iff] at careful
  constructor
  · exact dead_rows_step ledger invariant rows careful.2 stepped
  · intro d state remembered
    exact candidates_step invariant rows stepped remembered
  · intro t tx later
    cases step_tx_source stepped later with
    | stayed before => exact resolution_redacts_kept invariant rows careful.2 stepped before
    | begun _ _ _ begun =>
        cases begun with
        | persist job id check original config result databaseTime _ running started free =>
            obtain ⟨stage, idle, empty⟩ := persist_begin_fresh started
            apply resolution_redacts_idle
            · simp [stage]
            · rw [empty]
              rfl
            · simp [idle]
    | advanced before next same inProgress advance unchanged =>
        cases same
        rw [unchanged]
        have view : OutboxView s.db.outbox before := invariant.views t _ inProgress
        cases advance with
        | effect newIncidentId begun =>
            obtain ⟨idle, empty⟩ := (ledger.views t _ inProgress).2.2 begun
            exact apply_effect_redacts newIncidentId inProgress idle empty careful.1
        | resolve _ resolved =>
            exact resolve_step_redacts view (rows.resolutions t before inProgress) resolved

end Steps

theorem dead_rows_redacted {visited : List (System × Action)} {s : System}
    (run : Run step System.initial visited s)
    (careful : Along (fun s a => leavesSecret s a = false) visited) : DeadRowsRedacted s := by
  have both : Reachable s ∧ DeadRowInvariant s := by
    apply run.preserves (fun s a => leavesSecret s a = false)
      (fun state => Reachable state ∧ DeadRowInvariant state) _ _ careful
    · refine ⟨⟨[], .start⟩, ?_, ?_, ?_⟩
      · intro key row incident found
        cases found
      · intro d state remembered
        cases remembered
      · intro t tx inProgress
        cases inProgress
    · intro state a after holds allowed taken
      exact ⟨holds.1.step_closed taken, dead_row_invariant_step (ledger_invariant_reachable holds.1)
        (outbox_invariant_reachable holds.1) holds.2 allowed (step_cases taken)⟩
  exact both.2.dead

/-- The DOWN is delivered, then the monitor is bound to another channel and recovers. -/
def reboundScript : List Action :=
  Script.setUp ++ [.createChannel 2 "backup" Script.channelConfig] ++
    Script.failingCheck 1 1 1000 ++ Script.claimRow (Script.downKey 1) 2000 ++
    Script.confirmAttempt (Script.downKey 1) 1 2500 ++
    Script.administer (Script.rebind [2]) 3000 ++ Script.startCheck 2 1 61000 ++
    Script.beginResult 0 2 .success 61000 ++ [.resolve 0, .commit 0]

theorem dead_row_keeps_secret : ¬ ∀ s, Reachable s → s.quiescent → DeadRowsRedacted s := by
  intro always
  obtain ⟨s, reachable, tested⟩ := reachable_of_script reboundScript
    (fun s => (s.free fun _ => true) &&
      (s.db.incidents.get 1).any (fun incident => incident.status = .resolved) &&
      (s.db.outbox.get (Script.downKey 1)).any fun row =>
        row.status.isTerminal && !row.retains .resolved &&
          !row.encryptedConfigSnapshot.isTombstone) (by decide +kernel)
  simp only [Bool.and_eq_true, decide_eq_true_eq, Option.any_eq_true, Bool.not_eq_true'] at tested
  obtain ⟨⟨idle, incident, incidentFound, resolved⟩, row, found, ⟨terminal, dead⟩, secret⟩ := tested
  rw [← resolved] at dead
  rw [always s reachable (quiescent_of_free idle) _ row incident found incidentFound terminal dead]
    at secret
  cases secret

/-- The delivered DOWN row loses its destination with the resolution. -/
theorem dead_rows_redacted_sample :
    ∃ s, DeadRowsRedacted s ∧ (s.db.outbox.get (Script.downKey 1)).any (fun row =>
      row.status = .sent && row.encryptedConfigSnapshot.isTombstone) = true := by
  obtain ⟨visited, s, run, careful, tested⟩ := run_of_script
    (Script.setUp ++ Script.failingCheck 1 1 1000 ++ Script.claimRow (Script.downKey 1) 2000 ++
      Script.confirmAttempt (Script.downKey 1) 1 2500 ++ Script.recoveringCheck 2 1 61000)
    leavesSecret
    (fun s => (s.db.outbox.get (Script.downKey 1)).any fun row =>
      row.status = .sent && row.encryptedConfigSnapshot.isTombstone)
    (by decide +kernel)
  exact ⟨s, dead_rows_redacted run careful, tested⟩

end LinkAlive
