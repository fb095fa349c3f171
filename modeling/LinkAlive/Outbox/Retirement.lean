import LinkAlive.Outbox.Secrets

/-!
# Retirement of a monitor's notifications

A pause, a configuration change and a removal cancel the rows of the monitor and retire
their secrets. An attempt that is still in flight may report afterwards. It cannot bring a
canceled row back; a DOWN that had failed before becomes SENT, and its recovery is the one
row that escapes the retirement.
-/

namespace LinkAlive

open Relational Transition

set_option autoImplicit false

/-- The conditions under which `ensureRecoveryAfterLateDownSuccess` writes a recovery. -/
def recoversLate (db : Database) (claimed : ClaimedNotification) : Bool :=
  claimed.row.eventType = .down && payloadAllowsRecovery claimed.row.payloadSafe &&
    ((db.incidents.get claimed.key.incidentId).any fun incident =>
      incident.status = .resolved && incident.resolvedAt.isSome) &&
    channelLive db claimed.key.channelId &&
    boundForRecovery db claimed.row.monitorId claimed.key.channelId &&
    (db.outbox.get claimed.key.followUp).all fun existing =>
      existing.eventType = .recovery && existing.canceledUndelivered

/-- An attempt of a DOWN that was not canceled is confirmed, and its incident is one of the
given ones and is to be followed by a recovery. -/
def confirmsLate (concerned : IncidentId → Bool) (s : System) : Action → Bool
  | .beginMarkSent _ attempt _ _ _ =>
      (s.attempts.get attempt).any fun claimed =>
        concerned claimed.key.incidentId && recoversLate s.db claimed &&
          (s.db.outbox.get claimed.key).any fun row => row.status ≠ .canceled
  | _ => false

def incidentsOf (incidents : Table IncidentId IncidentRow) (monitorId : MonitorId)
    (id : IncidentId) : Bool :=
  (incidents.get id).any fun row => row.monitorId = monitorId

theorem late_recovery_guard {db : Database} {claimed : ClaimedNotification} {databaseTime : Time}
    (recovers : (ensureRecoveryAfterLateDownSuccess db claimed databaseTime).1 ≠ .none) :
    recoversLate db claimed = true := by
  unfold ensureRecoveryAfterLateDownSuccess at recovers
  unfold recoversLate
  split at recovers
  · exact absurd rfl recovers
  · rename_i down
    simp only [ne_eq, Bool.or_eq_true, decide_eq_true_eq, Bool.not_eq_true', not_or,
      Decidable.not_not, Bool.not_eq_false] at down
    split at recovers
    · exact absurd rfl recovers
    · rename_i incident found
      split at recovers
      · exact absurd rfl recovers
      · rename_i resolvedAt resolved
        split at recovers
        · exact absurd rfl recovers
        · rename_i status
          split at recovers
          · exact absurd rfl recovers
          · rename_i live
            split at recovers
            · exact absurd rfl recovers
            · rename_i bound
              split at recovers
              · rename_i existing stored
                split at recovers
                · rename_i undelivered
                  simp_all
                · exact absurd rfl recovers
              · rename_i absent
                simp_all

/-- What a retirement leaves of the incidents of its monitor. -/
structure RetiredInvariant (concerned : IncidentId → Bool) (s : System) : Prop where
  closed : ∀ id, concerned id = true → ∃ row, s.db.incidents.get id = some row ∧
    row.status ≠ .opened
  rows : ∀ key row, concerned key.incidentId = true → s.db.outbox.get key = some row →
    row.status.isTerminal = true ∧ row.encryptedConfigSnapshot = .tombstone
  confirmations : ∀ t tx, s.txs.get t = some (.markSent tx) →
    concerned tx.claimed.key.incidentId = true → tx.recovery ≠ .none →
      ∃ row, s.db.outbox.get tx.claimed.key = some row ∧ row.status = .canceled

section Steps

variable {s after : System} {a : Action} {concerned : IncidentId → Bool}

theorem retired_closed_step (ledger : LedgerInvariant s) (retired : RetiredInvariant concerned s)
    (stepped : Stepped s a after) (id : IncidentId) (concerns : concerned id = true) :
    ∃ row, after.db.incidents.get id = some row ∧ row.status ≠ .opened := by
  obtain ⟨row, found, closed⟩ := retired.closed id concerns
  obtain ⟨next, stored, move⟩ := step_incident_move ledger stepped found
  refine ⟨next, stored, ?_⟩
  rw [move.closed closed]
  exact closed

/-- A persist transaction writes the rows of an open or a new incident. -/
theorem retired_not_targeted (ledger : LedgerInvariant s) (retired : RetiredInvariant concerned s)
    {t : TxId} {tx : PersistTx} (stepped : Stepped s (.commit t) after)
    (inProgress : s.txs.get t = some (.persist tx)) {id : IncidentId} (target : tx.Targets id) :
    concerned id = false := by
  cases concerns : concerned id with
  | false => rfl
  | true =>
      exfalso
      obtain ⟨row, found, closed⟩ := retired.closed id concerns
      rcases target with ⟨incident, create⟩ | ⟨time, resolve⟩
      · obtain ⟨_, written⟩ := persist_committed stepped inProgress
        obtain ⟨_, incidents, _, _, applied, _, _⟩ := persist_commit_cases written
        rw [create, IncidentWrite.apply, Table.insert_new_eq_some, found] at applied
        cases applied.1
      · obtain ⟨opened, openFound, _, isOpen⟩ :=
          (ledger.views t _ inProgress).2.1.target (Or.inr ⟨time, resolve⟩)
        rw [found, Option.some_inj] at openFound
        rw [← openFound] at isOpen
        exact closed isOpen

theorem retired_not_recovered (retired : RetiredInvariant concerned s) {t : TxId}
    {tx : MarkSentTx} (inProgress : s.txs.get t = some (.markSent tx)) {key : OutboxKey}
    {down : OutboxRow} (recovers : tx.recovery ≠ .none) (follow : key = tx.claimed.key.followUp)
    (found : s.db.outbox.get tx.claimed.key = some down) (notCanceled : down.status ≠ .canceled) :
    concerned key.incidentId = false := by
  cases concerns : concerned key.incidentId with
  | false => rfl
  | true =>
      rw [follow] at concerns
      obtain ⟨row, stored, canceled⟩ := retired.confirmations t tx inProgress concerns recovers
      rw [found, Option.some_inj] at stored
      rw [stored] at notCanceled
      exact absurd canceled notCanceled

theorem retired_rows_step (ledger : LedgerInvariant s) (invariant : OutboxInvariant s)
    (retired : RetiredInvariant concerned s) (stepped : Stepped s a after) {key : OutboxKey}
    {row : OutboxRow} (concerns : concerned key.incidentId = true)
    (found : after.db.outbox.get key = some row) :
    row.status.isTerminal = true ∧ row.encryptedConfigSnapshot = .tombstone := by
  cases before : s.db.outbox.get key with
  | some old =>
      obtain ⟨next, stored, move, _⟩ := step_outbox_row invariant.sequenced stepped before
      rw [found, Option.some_inj] at stored
      subst stored
      obtain ⟨terminal, tombstone⟩ := retired.rows key old concerns before
      cases terminal_row_move invariant before move terminal with
      | same _ _ status _ _ snapshot =>
          rw [status]
          exact ⟨terminal, snapshot.elim (fun kept => kept.trans tombstone) id⟩
      | sent t tx inProgress target notCanceled =>
          refine ⟨by rw [sent_write_status]; rfl, ?_⟩
          unfold MarkSentTx.rowWrite
          split
          · exact tombstone
          · rfl
      | reactivated t tx down inProgress recovery follow downFound notCanceled =>
          rw [retired_not_recovered retired inProgress (by simp [recovery]) follow downFound
            notCanceled] at concerns
          cases concerns
  | none =>
      cases step_outbox_new stepped before found with
      | created t tx inProgress finished member =>
          have view : OutboxView s.db.outbox tx := invariant.views t _ inProgress
          rw [retired_not_targeted ledger retired stepped inProgress
            (view.creates key row member).target] at concerns
          cases concerns
      | late t tx down inProgress create follow downFound notCanceled =>
          rw [retired_not_recovered retired inProgress (by simp [create]) follow downFound
            notCanceled] at concerns
          cases concerns

theorem retired_confirmation_kept (invariant : OutboxInvariant s)
    (retired : RetiredInvariant concerned s) (stepped : Stepped s a after) {t : TxId}
    {tx : MarkSentTx} (inProgress : s.txs.get t = some (.markSent tx))
    (concerns : concerned tx.claimed.key.incidentId = true) (recovers : tx.recovery ≠ .none) :
    ∃ row, after.db.outbox.get tx.claimed.key = some row ∧ row.status = .canceled := by
  obtain ⟨row, found, canceled⟩ := retired.confirmations t tx inProgress concerns recovers
  have down : row.eventType = .down := by
    have view : SentView s.db.outbox tx := invariant.views t _ inProgress
    obtain ⟨claimedRow, claimedFound, same⟩ := view.claim
    rw [found, Option.some_inj] at claimedFound
    rw [claimedFound]
    exact same.eventType.trans (view.down recovers)
  obtain ⟨next, stored, still, _⟩ := canceled_down_kept invariant stepped found down canceled
  exact ⟨next, stored, still⟩

theorem retired_confirmations_step (invariant : OutboxInvariant s)
    (retired : RetiredInvariant concerned s) (careful : confirmsLate concerned s a = false)
    (stepped : Stepped s a after) {t : TxId} {tx : MarkSentTx}
    (inProgress : after.txs.get t = some (.markSent tx))
    (concerns : concerned tx.claimed.key.incidentId = true) (recovers : tx.recovery ≠ .none) :
    ∃ row, after.db.outbox.get tx.claimed.key = some row ∧ row.status = .canceled := by
  cases step_tx_source stepped inProgress with
  | stayed before =>
      exact retired_confirmation_kept invariant retired stepped before concerns recovers
  | advanced before next same => cases same
  | begun jobs attempts unused begun unchanged =>
      cases begun with
      | markSent attempt claimed providerMessageId now databaseTime remembered free =>
          obtain ⟨row, found, _⟩ := invariant.claims attempt claimed remembered
          have late := late_recovery_guard recovers
          have harmless : concerned claimed.key.incidentId = true → row.status = .canceled := by
            simpa [confirmsLate, remembered, late, found] using careful
          rw [unchanged]
          exact ⟨row, found, harmless concerns⟩

theorem retired_invariant_step (ledger : LedgerInvariant s) (invariant : OutboxInvariant s)
    (retired : RetiredInvariant concerned s) (careful : confirmsLate concerned s a = false)
    (taken : step s a = some after) : RetiredInvariant concerned after := by
  have stepped := step_cases taken
  constructor
  · exact retired_closed_step ledger retired stepped
  · intro key row concerns found
    exact retired_rows_step ledger invariant retired stepped concerns found
  · intro t tx inProgress concerns recovers
    exact retired_confirmations_step invariant retired careful stepped inProgress concerns recovers

end Steps

theorem runtime_canceled_row {db after : Database} {tx : MonitorTx}
    (cancels : tx.change.cancels.isSome = true) (written : monitorCommit db tx = some after)
    {key : OutboxKey} {row : OutboxRow} (found : db.outbox.get key = some row)
    (owned : row.monitorId = tx.id) :
    after.outbox.get key = some (row.retiredByRuntime tx.now) := by
  obtain ⟨_, _, _, _, _, outbox, _⟩ := monitor_commit_cases written
  obtain ⟨⟨reason, attempts⟩, change⟩ := Option.isSome_iff_exists.1 cancels
  have result : after.outbox = retireRows db.outbox (ofMonitor tx.id) tx.now := by
    rw [outbox, MonitorTx.runtimeWrite, change]
    rfl
  have concerned : ofMonitor tx.id key row = true := decide_eq_true owned
  rw [result, retire_rows_get _ _ _ (fun _ _ => rfl) found, if_pos concerned]

theorem runtime_canceled_incident {db after : Database} {tx : MonitorTx}
    (cancels : tx.change.cancels.isSome = true) (written : monitorCommit db tx = some after)
    {id : IncidentId} {row : IncidentRow} (found : db.incidents.get id = some row)
    (owned : row.monitorId = tx.id) :
    ∃ next, after.incidents.get id = some next ∧ next.status ≠ .opened := by
  obtain ⟨next, stored, move⟩ := runtime_incident_move tx found
  rw [(monitor_commit_cases written).2.2.2.1]
  refine ⟨next, stored, ?_⟩
  intro opened
  exact runtime_incidents_idle cancels id ⟨next, stored, move.monitorId.trans owned, opened⟩

theorem monitor_committed {s after : System} {t : TxId} (stepped : Stepped s (.commit t) after)
    {tx : MonitorTx} (inProgress : s.txs.get t = some (.monitor tx)) :
    (tx.change.cancels.isSome = true → s.rowsFree t (ofMonitor tx.id) = true) ∧
      monitorCommit s.db tx = some after.db ∧ after.txs = s.txs.remove t := by
  obtain ⟨db, attempts, events, commit, rfl⟩ := commit_step_cases stepped inProgress
  cases commit with
  | monitor _ _ free written => exact ⟨free, written, rfl⟩

theorem retired_invariant_of_commit {s after : System} {t : TxId} {tx : MonitorTx}
    (invariant : OutboxInvariant s) (inProgress : s.txs.get t = some (.monitor tx))
    (cancels : tx.change.cancels.isSome = true) (stepped : Stepped s (.commit t) after) :
    RetiredInvariant (incidentsOf s.db.incidents tx.id) after := by
  obtain ⟨free, written, ended⟩ := monitor_committed stepped inProgress
  have owner : ∀ key row, incidentsOf s.db.incidents tx.id key.incidentId = true →
      s.db.outbox.get key = some row → row.monitorId = tx.id := by
    intro key row concerns found
    obtain ⟨incident, incidentFound, same⟩ := invariant.owned key row found
    rw [incidentsOf, incidentFound, Option.any_some, decide_eq_true_eq] at concerns
    exact same.symm.trans concerns
  constructor
  · intro id concerns
    rw [incidentsOf, Option.any_eq_true] at concerns
    obtain ⟨row, found, same⟩ := concerns
    exact runtime_canceled_incident cancels written found (of_decide_eq_true same)
  · intro key row concerns found
    cases before : s.db.outbox.get key with
    | none =>
        cases step_outbox_new stepped before found with
        | created u ux other =>
            rw [inProgress] at other
            cases other
        | late u ux down other =>
            rw [inProgress] at other
            cases other
    | some old =>
        have retired := runtime_canceled_row cancels written before (owner key old concerns before)
        rw [found, Option.some_inj] at retired
        subst retired
        exact ⟨retired_by_runtime_terminal old tx.now, rfl⟩
  · intro u ux confirming concerns recovers
    -- the retirement has waited for every transaction that had locked a row of the monitor
    rw [ended, Table.get_remove] at confirming
    split at confirming
    · cases confirming
    · rename_i different
      have view : SentView s.db.outbox ux := invariant.views u _ confirming
      obtain ⟨row, found, _⟩ := view.claim
      have unlocked := System.rows_free_iff.1 (free cancels) _ row found
        (decide_eq_true (owner _ row concerns found))
      have idle := System.free_for_iff.1 unlocked u _ confirming different
      simp [Transaction.locksRow] at idle

theorem step_grants {s after : System} {a : Action} (stepped : Stepped s a after) :
    ∃ events, after.history = s.history ++ events ∧
      ∀ key attempt, Event.granted key attempt ∈ events →
        ∃ row, s.db.outbox.get key = some row ∧ row.status.isTerminal = false := by
  have silent : after.history = s.history → ∃ events, after.history = s.history ++ events ∧
      ∀ key attempt, Event.granted key attempt ∈ events →
        ∃ row, s.db.outbox.get key = some row ∧ row.status.isTerminal = false := by
    intro same
    refine ⟨[], by simp [same], ?_⟩
    intro key attempt member
    cases member
  cases stepped with
  | channel => exact silent rfl
  | ledger => exact silent rfl
  | began => exact silent rfl
  | advanced => exact silent rfl
  | failed => exact silent rfl
  | dispatcher => exact silent rfl
  | aborted => exact silent rfl
  | committed t tx db attempts events inProgress commit =>
      refine ⟨events, rfl, ?_⟩
      intro key attempt member
      cases commit with
      | claimGranted tx db claimed written =>
          rw [List.mem_singleton] at member
          cases member
          obtain ⟨row, found, outcome, rfl, _⟩ := claim_grant_cases written
          exact ⟨row, found, claim_outcome_not_terminal (Or.inr outcome)⟩
      | persist => simp at member
      | claimIgnored => cases member
      | markSent => cases member
      | createDue => cases member
      | monitor =>
          split at member
          · simp at member
          · cases member
      | channel => cases member

/-- The rows of the incidents are finished and without a secret, and none of them has been
handed out since. -/
structure RetiredSince (concerned : IncidentId → Bool) (since s : System) : Prop where
  rows : ∀ key row, concerned key.incidentId = true → s.db.outbox.get key = some row →
    row.status.isTerminal = true ∧ row.encryptedConfigSnapshot = .tombstone
  claims : ∃ events, s.history = since.history ++ events ∧
    ∀ key attempt, Event.granted key attempt ∈ events → concerned key.incidentId = false

theorem retirement_is_final {s after later : System} {t : TxId} {tx : MonitorTx}
    {visited : List (System × Action)} (reachable : Reachable s)
    (inProgress : s.txs.get t = some (.monitor tx)) (cancels : tx.change.cancels.isSome = true)
    (committed : step s (.commit t) = some after) (run : Run step after visited later)
    (careful : Along (fun state a =>
      confirmsLate (incidentsOf s.db.incidents tx.id) state a = false) visited) :
    RetiredSince (incidentsOf s.db.incidents tx.id) after later := by
  have all : Reachable later ∧ RetiredInvariant (incidentsOf s.db.incidents tx.id) later ∧
      ∃ events, later.history = after.history ++ events ∧ ∀ key attempt,
        Event.granted key attempt ∈ events →
          incidentsOf s.db.incidents tx.id key.incidentId = false := by
    apply run.preserves
      (fun state a => confirmsLate (incidentsOf s.db.incidents tx.id) state a = false)
      (fun state => Reachable state ∧ RetiredInvariant (incidentsOf s.db.incidents tx.id) state ∧
        ∃ events, state.history = after.history ++ events ∧ ∀ key attempt,
          Event.granted key attempt ∈ events →
            incidentsOf s.db.incidents tx.id key.incidentId = false)
    · refine ⟨reachable.step_closed committed, retired_invariant_of_commit
        (outbox_invariant_reachable reachable) inProgress cancels (step_cases committed), [], ?_, ?_⟩
      · simp
      · intro key attempt member
        cases member
    · intro state a next holds harmless taken
      obtain ⟨reached, retired, events, history, silent⟩ := holds
      refine ⟨reached.step_closed taken, retired_invariant_step
        (ledger_invariant_reachable reached) (outbox_invariant_reachable reached) retired harmless
        taken, ?_⟩
      obtain ⟨more, appended, grants⟩ := step_grants (step_cases taken)
      refine ⟨events ++ more, by rw [appended, history, List.append_assoc], ?_⟩
      intro key attempt member
      rcases List.mem_append.1 member with before | new
      · exact silent key attempt before
      · cases concerns : incidentsOf s.db.incidents tx.id key.incidentId with
        | false => rfl
        | true =>
            obtain ⟨row, found, active⟩ := grants key attempt new
            rw [(retired.rows key row concerns found).1] at active
            cases active
    · exact careful
  exact ⟨all.2.1.rows, all.2.2⟩

def beginPause (now : Time) : List Action := [.beginMonitor 0 1 .pause now now]

/-- The DOWN has failed when the incident is resolved. Its first attempt is confirmed after
the pause. -/
def revivedScript : List Action :=
  let down := Script.downKey 1
  Script.setUp ++ Script.failingCheck 1 1 1000 ++ Script.claimRow down 2000 ++
    Script.claimRow down 4000 ++ Script.rejectAttempt down 2 4100 ++
    Script.recoveringCheck 2 1 61000 ++ beginPause 70000

theorem recovery_after_retirement :
    ¬ ∀ (s after later : System) (t : TxId) (tx : MonitorTx) (visited : List (System × Action)),
      Reachable s → s.txs.get t = some (.monitor tx) → tx.change.cancels.isSome = true →
      step s (.commit t) = some after → Run step after visited later → later.quiescent →
        RetiredSince (incidentsOf s.db.incidents tx.id) after later := by
  intro always
  obtain ⟨s, reachable, tested⟩ := reachable_of_script revivedScript
    (fun (s : System) => (s.monitorTx 0).any fun (tx : MonitorTx) => tx.change.cancels.isSome &&
      (step s (.commit 0)).any fun after =>
        replaySatisfies step after (Script.confirmAttempt (Script.downKey 1) 1 71000)
          fun _ (later : System) => (later.free fun _ => true) &&
            incidentsOf s.db.incidents tx.id (Script.downKey 1).followUp.incidentId &&
            (later.db.outbox.get (Script.downKey 1).followUp).any fun row =>
              row.status = .pending) (by decide +kernel)
  simp only [Option.any_eq_true, Bool.and_eq_true] at tested
  obtain ⟨tx, inProgress, cancels, after, committed, replayed⟩ := tested
  rw [System.monitor_tx_eq_some] at inProgress
  obtain ⟨visited, later, run, outcome⟩ := run_of_replay_satisfies replayed
  simp only [Bool.and_eq_true, Option.any_eq_true, decide_eq_true_eq] at outcome
  obtain ⟨⟨idle, concerns⟩, row, found, pending⟩ := outcome
  have retired := (always s after later 0 tx visited reachable inProgress cancels committed run
    (quiescent_of_free idle)).rows _ row concerns found
  rw [pending] at retired
  cases retired.1

/-- An attempt in flight reports its success after the pause; the DOWN stays canceled. -/
theorem retirement_is_final_sample :
    ∃ s after later : System, RetiredSince (incidentsOf s.db.incidents 1) after later ∧
      (later.db.outbox.get (Script.downKey 1)).any (fun row => row.status = .canceled) = true := by
  obtain ⟨s, reachable, tested⟩ := reachable_of_script
    (Script.setUp ++ Script.failingCheck 1 1 1000 ++ Script.claimRow (Script.downKey 1) 2000 ++
      beginPause 70000)
    (fun (s : System) => (s.monitorTx 0).any fun (tx : MonitorTx) =>
      tx.change.cancels.isSome && decide (tx.id = 1) && (step s (.commit 0)).any fun after =>
        replaySatisfies step after (Script.confirmAttempt (Script.downKey 1) 1 71000)
          fun visited (later : System) =>
            (visited.all fun pair =>
              !confirmsLate (incidentsOf s.db.incidents tx.id) pair.1 pair.2) &&
            (later.db.outbox.get (Script.downKey 1)).any fun row => row.status = .canceled)
    (by decide +kernel)
  simp only [Option.any_eq_true, Bool.and_eq_true, decide_eq_true_eq] at tested
  obtain ⟨tx, inProgress, ⟨cancels, own⟩, after, committed, replayed⟩ := tested
  rw [System.monitor_tx_eq_some] at inProgress
  obtain ⟨visited, later, run, outcome⟩ := run_of_replay_satisfies replayed
  rw [Bool.and_eq_true, List.all_eq_true] at outcome
  refine ⟨s, after, later, ?_, outcome.2⟩
  rw [← own]
  apply retirement_is_final reachable inProgress cancels committed run
  intro state action member
  simpa using outcome.1 (state, action) member

end LinkAlive
