import LinkAlive.Outbox.Steps

/-!
# Recovery ordering and the status graph

A recovery is handed to a provider only after its DOWN has been delivered, because the
claim checks it and a delivered row stays delivered.
-/

namespace LinkAlive

open Relational

set_option autoImplicit false

theorem claim_granted_recovery {tx : ClaimTx} {row : OutboxRow}
    {downStatus : Option NotificationOutboxStatus}
    (granted : claimOutcome tx row downStatus = .granted) (recovery : row.eventType = .recovery) :
    downStatus = some .sent := by
  unfold claimOutcome at granted
  split at granted
  · cases granted
  split at granted
  · cases granted
  split at granted
  · cases granted
  split at granted
  · cases granted
  rename_i prerequisite
  simp only [recovery, decide_true, Bool.true_and, ne_eq, decide_eq_true_eq,
    Decidable.not_not] at prerequisite
  exact prerequisite

theorem undelivered_status {row : OutboxRow} (undelivered : row.canceledUndelivered = true) :
    row.status = .canceled ∧ row.lastErrorSafe = some downNotDeliveredRecoveryCancelReason := by
  simpa only [OutboxRow.canceledUndelivered, canceledUndelivered, Bool.and_eq_true,
    decide_eq_true_eq] using undelivered

/-- The status graph below a terminal status. -/
structure StatusMove (s after : System) (a : Action) (key : OutboxKey) (row next : OutboxRow) :
    Prop where
  sent : row.status = .sent → next.status = .sent
  failed : row.status = .failed → next.status = .failed ∨ next.status = .sent
  canceled : row.status = .canceled → next.status = .canceled ∨
    (next.status = .pending ∧ row.eventType = .recovery ∧
      row.lastErrorSafe = some downNotDeliveredRecoveryCancelReason ∧
      ∃ t tx down, a = .commit t ∧ s.txs.get t = some (.markSent tx) ∧
        tx.claimed.key = key.down ∧ after.db.outbox.get key.down = some down ∧
        down.status = .sent)

theorem sent_write_status (tx : MarkSentTx) (row : OutboxRow) :
    (tx.rowWrite row).status = .sent := by
  unfold MarkSentTx.rowWrite
  split <;> rfl

theorem down_of_follow_up {key down : OutboxKey}
    (sequence : down.sequence = notificationSequence .down) (follow : key = down.followUp) :
    down = key.down := by
  cases down
  subst follow
  simp only at sequence
  subst sequence
  rfl

theorem confirmed_down_sent {s after : System} {t : TxId} {tx : MarkSentTx} {down : OutboxRow}
    (invariant : OutboxInvariant s) (stepped : Stepped s (.commit t) after)
    (inProgress : s.txs.get t = some (.markSent tx)) (recovers : tx.recovery ≠ .none)
    (found : s.db.outbox.get tx.claimed.key = some down) (notCanceled : down.status ≠ .canceled) :
    ∃ next, after.db.outbox.get tx.claimed.key = some next ∧ next.status = .sent := by
  obtain ⟨_, written⟩ := mark_sent_committed stepped inProgress
  obtain ⟨current, currentFound, write⟩ := mark_sent_commit_cases written
  rw [found, Option.some_inj] at currentFound
  subst currentFound
  obtain ⟨_, recovered⟩ := write.resolve_left fun ignored => notCanceled ignored.1
  have different := follow_up_ne (invariant.late inProgress recovers)
  have stored : (s.db.outbox.updateKey tx.claimed.key tx.rowWrite).get tx.claimed.key =
      some (tx.rowWrite down) := by
    rw [Table.get_update_key_self, found]
    rfl
  refine ⟨tx.rowWrite down, ?_, sent_write_status tx down⟩
  unfold MarkSentTx.recoveryWrite at recovered
  split at recovered
  · rw [Option.some_inj] at recovered
    rw [← recovered]
    exact stored
  · rw [Option.some_inj] at recovered
    rw [← recovered, Table.get_update_key_other _ _ different.symm]
    exact stored
  · rw [Table.insert_new_eq_some] at recovered
    rw [recovered.2, Table.get_put, if_neg different.symm]
    exact stored

theorem step_status_move {s after : System} {a : Action} (invariant : OutboxInvariant s)
    (stepped : Stepped s a after) {key : OutboxKey} {row : OutboxRow}
    (found : s.db.outbox.get key = some row) :
    ∃ next, after.db.outbox.get key = some next ∧ StatusMove s after a key row next := by
  obtain ⟨next, stored, move, _⟩ := step_outbox_row invariant.sequenced stepped found
  refine ⟨next, stored, ?_⟩
  cases terminal : row.status.isTerminal with
  | false =>
      have different : row.status ≠ .sent ∧ row.status ≠ .failed ∧ row.status ≠ .canceled := by
        refine ⟨?_, ?_, ?_⟩ <;> intro status <;> rw [status] at terminal <;> cases terminal
      exact ⟨fun status => absurd status different.1, fun status => absurd status different.2.1,
        fun status => absurd status different.2.2⟩
  | true =>
      cases terminal_row_move invariant found move terminal with
      | same _ _ status =>
          exact ⟨fun kept => status.trans kept, fun kept => Or.inl (status.trans kept),
            fun kept => Or.inl (status.trans kept)⟩
      | sent t tx inProgress target notCanceled =>
          have status := sent_write_status tx row
          exact ⟨fun _ => status, fun _ => Or.inr status,
            fun canceled => absurd canceled notCanceled⟩
      | reactivated t tx down inProgress recovery follow downFound notCanceled event undelivered =>
          obtain ⟨canceled, reason⟩ := undelivered_status undelivered
          have recovers : tx.recovery ≠ .none := by simp [recovery]
          have target := down_of_follow_up (invariant.late inProgress recovers) follow
          obtain ⟨confirmed, confirmedFound, sent⟩ :=
            confirmed_down_sent invariant stepped inProgress recovers downFound notCanceled
          rw [target] at confirmedFound
          refine ⟨?_, ?_, ?_⟩
          · intro status
            rw [canceled] at status
            cases status
          · intro status
            rw [canceled] at status
            cases status
          · intro _
            exact Or.inr ⟨rfl, event, reason, t, tx, confirmed, rfl, inProgress, target,
              confirmedFound, sent⟩

def GrantsFollowDown (s : System) : Prop :=
  ∀ key attempt, Event.granted key attempt ∈ s.history →
    ∃ row, s.db.outbox.get key = some row ∧ (row.eventType = .recovery →
      ∃ down, s.db.outbox.get key.down = some down ∧ down.status = .sent)

theorem granted_rows_kept {s after : System} {a : Action} (invariant : OutboxInvariant s)
    (stepped : Stepped s a after) {key : OutboxKey}
    (before : ∃ row, s.db.outbox.get key = some row ∧ (row.eventType = .recovery →
      ∃ down, s.db.outbox.get key.down = some down ∧ down.status = .sent)) :
    ∃ row, after.db.outbox.get key = some row ∧ (row.eventType = .recovery →
      ∃ down, after.db.outbox.get key.down = some down ∧ down.status = .sent) := by
  obtain ⟨row, found, follows⟩ := before
  obtain ⟨next, stored, move, _⟩ := step_outbox_row invariant.sequenced stepped found
  refine ⟨next, stored, ?_⟩
  intro recovery
  obtain ⟨down, downFound, sent⟩ := follows (move.same_event.eventType.symm.trans recovery)
  obtain ⟨later, laterFound, status⟩ := step_status_move invariant stepped downFound
  exact ⟨later, laterFound, status.sent sent⟩

theorem grants_follow_down_step {s after : System} {a : Action} (invariant : OutboxInvariant s)
    (stepped : Stepped s a after) (follows : GrantsFollowDown s) : GrantsFollowDown after := by
  intro key attempt member
  have old : Event.granted key attempt ∈ s.history →
      ∃ row, after.db.outbox.get key = some row ∧ (row.eventType = .recovery →
        ∃ down, after.db.outbox.get key.down = some down ∧ down.status = .sent) :=
    fun before => granted_rows_kept invariant stepped (follows key attempt before)
  have whole := stepped
  cases stepped with
  | committed t tx db attempts events inProgress commit =>
      rcases List.mem_append.1 member with before | new
      · exact old before
      · cases commit with
        | claimGranted tx db claimed written =>
            rw [List.mem_singleton] at new
            cases new
            obtain ⟨row, found, outcome, same, _⟩ := claim_grant_cases written
            apply granted_rows_kept invariant whole
            rw [same]
            refine ⟨row, found, ?_⟩
            intro recovery
            have sent := claim_granted_recovery outcome recovery
            rw [priorDownStatus, Option.map_eq_some_iff] at sent
            exact sent
        | persist => simp at new
        | claimIgnored => cases new
        | markSent => cases new
        | createDue => cases new
        | monitor =>
            split at new
            · simp at new
            · cases new
        | channel => cases new
  | channel => exact old member
  | ledger => exact old member
  | began => exact old member
  | advanced => exact old member
  | failed => exact old member
  | dispatcher => exact old member
  | aborted => exact old member

structure RecoveryOrder (s : System) : Prop where
  granted : ∀ key attempt row, Event.granted key attempt ∈ s.history →
    s.db.outbox.get key = some row → row.eventType = .recovery →
      ∃ down, s.db.outbox.get key.down = some down ∧ down.eventType = .down ∧
        down.status = .sent
  moves : ∀ a after key row, step s a = some after → s.db.outbox.get key = some row →
    ∃ next, after.db.outbox.get key = some next ∧ StatusMove s after a key row next

theorem down_key_event {key : OutboxKey} {row : OutboxRow} (fits : row.Fits key.down) :
    row.eventType = .down := by
  obtain ⟨event, sequence⟩ := fits
  rcases event with down | recovery | summary
  · exact down
  · rw [recovery] at sequence
    cases sequence
  · rw [summary] at sequence
    cases sequence

theorem recovery_follows_down {s : System} (reachable : Reachable s) : RecoveryOrder s := by
  have invariant := outbox_invariant_reachable reachable
  have follows : GrantsFollowDown s := by
    apply reachable.invariant_with OutboxInvariant GrantsFollowDown
    · intro state holds
      exact outbox_invariant_reachable holds
    · intro key attempt member
      cases member
    · intro state label after holds before taken
      exact grants_follow_down_step holds (step_cases taken) before
  constructor
  · intro key attempt row member found recovery
    obtain ⟨other, stored, order⟩ := follows key attempt member
    rw [found, Option.some_inj] at stored
    subst stored
    obtain ⟨down, downFound, sent⟩ := order recovery
    exact ⟨down, downFound, down_key_event (invariant.fits _ down downFound), sent⟩
  · intro a after key row taken found
    exact step_status_move invariant (step_cases taken) found

/-- The DOWN of a reactivated recovery has only now become SENT. -/
def ReactivatedWhenSent (s : System) : Prop :=
  ∀ a after key row next down, step s a = some after → s.db.outbox.get key = some row →
    after.db.outbox.get key = some next → row.status = .canceled → next.status ≠ .canceled →
      s.db.outbox.get key.down = some down → down.status ≠ .sent

/-- Three attempts of a DOWN: the last one fails, the first two are confirmed late. A
dispatcher that has read FAILED in between cancels the recovery once more. -/
def twiceConfirmedScript : List Action :=
  let down := Script.downKey 1
  Script.setUp ++ Script.failingCheck 1 1 1000 ++ Script.claimRow down 2000 ++
    Script.claimRow down 4000 ++ Script.claimRow down 6000 ++ Script.recoveringCheck 2 1 61000 ++
    [.scan 1 7 1000 70000 down.followUp] ++ Script.rejectAttempt down 3 70000 ++
    [.compareDown 1] ++ Script.confirmAttempt down 1 70000 ++
    [.dispatchCandidate 1, .beginMarkSent 0 (down, 2) none 71000 71000]

theorem reactivated_though_already_sent : ¬ ∀ s, Reachable s → ReactivatedWhenSent s := by
  intro always
  obtain ⟨s, reachable, tested⟩ := reachable_of_script twiceConfirmedScript
    (fun s => (step s (.commit 0)).any fun after =>
      (s.db.outbox.get (Script.downKey 1).followUp).any (fun row => row.status = .canceled) &&
        (after.db.outbox.get (Script.downKey 1).followUp).any (fun row => row.status ≠ .canceled) &&
        (s.db.outbox.get (Script.downKey 1).followUp.down).any fun row => row.status = .sent)
    (by decide +kernel)
  simp only [Option.any_eq_true, Bool.and_eq_true, decide_eq_true_eq] at tested
  obtain ⟨after, taken, ⟨⟨row, found, canceled⟩, next, stored, left⟩, down, downFound, sent⟩ :=
    tested
  exact always s reachable _ after _ row next down taken found stored canceled left downFound sent

/-- A recovery that has been handed out. -/
theorem recovery_follows_down_sample :
    ∃ s, RecoveryOrder s ∧ Event.granted (Script.downKey 1).followUp 1 ∈ s.history := by
  obtain ⟨s, reachable, tested⟩ := reachable_of_script
    (Script.setUp ++ Script.failingCheck 1 1 1000 ++ Script.claimRow (Script.downKey 1) 2000 ++
      Script.confirmAttempt (Script.downKey 1) 1 2500 ++ Script.recoveringCheck 2 1 61000 ++
      Script.claimRow (Script.downKey 1).followUp 62000)
    (fun s => s.history.contains (.granted (Script.downKey 1).followUp 1)) (by decide +kernel)
  exact ⟨s, recovery_follows_down reachable, by simpa using tested⟩

end LinkAlive
