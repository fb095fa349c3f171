import LinkAlive.Outbox.Attempts
import LinkAlive.System.Script

/-!
# When a row is claimed again

A new attempt starts only after the report of the previous one or after its lease. The
latest attempt of a row is accounted for in every run: it is running, it is over, or the
row is closed and will not be claimed again.
-/

namespace LinkAlive

open Relational

set_option autoImplicit false

/-- The time that a step compares with the lease of the row it may take over. -/
def System.leaseClock (s : System) : Action → Option Time
  | .dispatchCandidate d => (s.dispatchers.get d).map DispatchState.now
  | .commit t =>
      match s.txs.get t with
      | some (.claim tx) => some tx.now
      | _ => none
  | _ => none

def AttemptLedger (s : System) : Prop :=
  ∀ key row, s.db.outbox.get key = some row →
    RowAttempts s key row ∧ (s.callsOf key).length ≤ row.maxAttempts ∧ Redispatchable row

def Reported (visited : List (System × Action)) (attempt : OutboxKey × Nat) : Prop :=
  ∃ s error now delay, (s, Action.markFailed attempt error now delay) ∈ visited

def LeaseExpired (visited : List (System × Action)) (attempt : OutboxKey × Nat) : Prop :=
  ∃ s a row now, (s, a) ∈ visited ∧ s.db.outbox.get attempt.1 = some row ∧
    row.status = .processing ∧ row.attemptCount = attempt.2 ∧ s.leaseClock a = some now ∧
    leaseExpired now row.leaseUntil = true

/-- Every granted claim is the first one of its row or follows an attempt that is over. -/
def GrantedInTurn (visited : List (System × Action)) : Prop :=
  ∀ earlier later s a claimed, visited = earlier ++ (s, a) :: later →
    s.grant a = some claimed →
      claimed.deliveryAttempt = 1 ∨
        Reported earlier (claimed.key, claimed.deliveryAttempt - 1) ∨
        LeaseExpired (earlier ++ [(s, a)]) (claimed.key, claimed.deliveryAttempt - 1)

section Turns

variable {s after : System} {a : Action} {visited : List (System × Action)}

def Over (visited : List (System × Action)) (attempt : OutboxKey × Nat) : Prop :=
  Reported visited attempt ∨ LeaseExpired visited attempt

def OutboxRow.settled (row : OutboxRow) : Bool :=
  row.status.isTerminal && !row.canceledUndelivered

def Accounted (visited : List (System × Action)) (s : System) : Prop :=
  ∀ key row, s.db.outbox.get key = some row → row.attemptCount = 0 ∨ row.status = .processing ∨
    row.settled = true ∨ Over visited (key, row.attemptCount)

theorem Over.later {attempt : OutboxKey × Nat} (lapsed : Over visited attempt)
    (more : List (System × Action)) : Over (visited ++ more) attempt := by
  rcases lapsed with ⟨s, error, now, delay, member⟩ | ⟨s, a, row, now, member, rest⟩
  · exact Or.inl ⟨s, error, now, delay, List.mem_append_left _ member⟩
  · exact Or.inr ⟨s, a, row, now, List.mem_append_left _ member, rest⟩

theorem over_of_expired {key : OutboxKey} {row : OutboxRow} (now : Time)
    (found : s.db.outbox.get key = some row) (processing : row.status = .processing)
    (clock : s.leaseClock a = some now) (expired : leaseExpired now row.leaseUntil = true) :
    Over (visited ++ [(s, a)]) (key, row.attemptCount) :=
  Or.inr ⟨s, a, row, now, List.mem_append_right _ (List.mem_singleton.2 rfl), found, processing,
    rfl, clock, expired⟩

theorem available_processing {row : OutboxRow} {now : Time} (processing : row.status = .processing)
    (available : row.availableForDispatch now = true) : leaseExpired now row.leaseUntil = true := by
  simp [OutboxRow.availableForDispatch, processing] at available
  exact available.2

theorem claim_outcome_processing {tx : ClaimTx} {row : OutboxRow}
    {downStatus : Option NotificationOutboxStatus} (processing : row.status = .processing)
    (outcome : claimOutcome tx row downStatus = .exhausted ∨
      claimOutcome tx row downStatus = .granted) :
    leaseExpired tx.now row.leaseUntil = true := by
  unfold claimOutcome at outcome
  split at outcome
  · simp at outcome
  · split at outcome
    · simp at outcome
    · rename_i claimable
      simpa [processing, NotificationOutboxStatus.isWaiting] using claimable

theorem settled_of_canceled {row : OutboxRow} (canceled : row.status = .canceled)
    (reason : row.lastErrorSafe ≠ some downNotDeliveredRecoveryCancelReason) :
    row.settled = true := by
  simp [OutboxRow.settled, OutboxRow.canceledUndelivered, canceledUndelivered, canceled, reason,
    NotificationOutboxStatus.isTerminal]

theorem settled_of_sent {row : OutboxRow} (sent : row.status = .sent) : row.settled = true := by
  simp [OutboxRow.settled, OutboxRow.canceledUndelivered, canceledUndelivered, sent,
    NotificationOutboxStatus.isTerminal]

theorem settled_move (invariant : OutboxInvariant s) {key : OutboxKey} {row next : OutboxRow}
    (found : s.db.outbox.get key = some row) (move : OutboxMove s key row a next)
    (settled : row.settled = true) : next.settled = true := by
  have both := settled
  rw [OutboxRow.settled, Bool.and_eq_true, Bool.not_eq_true'] at both
  cases terminal_row_move invariant found move both.1 with
  | same _ _ status reason =>
      rw [OutboxRow.settled, OutboxRow.canceledUndelivered, status, reason]
      exact settled
  | sent t tx => exact settled_of_sent (sent_write_status tx row)
  | reactivated t tx down inProgress recovery target stored notCanceled event undelivered =>
      rw [both.2] at undelivered
      cases undelivered

theorem running_move (invariant : OutboxInvariant s) (ledger : AttemptInvariant s)
    {key : OutboxKey} {row next : OutboxRow} (found : s.db.outbox.get key = some row)
    (move : OutboxMove s key row a next) (processing : row.status = .processing) :
    next.status = .processing ∨ next.settled = true ∨
      Over (visited ++ [(s, a)]) (key, row.attemptCount) := by
  have silent := (ledger.rows key row found).2.silent processing
  have running : row.status.isTerminal = false := by
    rw [processing]
    rfl
  have byRuntime : ∀ now, (row.retiredByRuntime now).settled = true := by
    intro now
    rw [OutboxRow.retiredByRuntime, if_neg (by simp [running])]
    apply settled_of_canceled rfl
    change row.lastErrorSafe ≠ _
    simp [silent]
  have waits : row.status.isWaiting = true → False := by
    intro waiting
    rw [processing] at waiting
    cases waiting
  cases move with
  | kept => exact Or.inl processing
  | dispatched d state decision remembered target decided available =>
      right; right
      apply over_of_expired state.now found processing
      · simp [System.leaseClock, remembered]
      · exact available_processing processing available
  | finished d state accepted remembered target held =>
      simp [OutboxRow.claimHeldBy, processing] at held
  | claimDisabled t tx =>
      right; left
      rw [OutboxRow.canceledByClaim, if_neg (by simp [running])]
      have other : some "알림 채널이 비활성화되었습니다." ≠
          some downNotDeliveredRecoveryCancelReason := by decide
      exact settled_of_canceled rfl other
  | claimExhausted t tx inProgress target outcome =>
      right; right
      apply over_of_expired tx.now found processing
      · simp [System.leaseClock, inProgress]
      · exact claim_outcome_processing processing (Or.inl outcome)
  | claimGranted => exact Or.inl rfl
  | undeliveredByClaim t tx down inProgress target stored outcome event recovery waiting =>
      exact (waits waiting).elim
  | undeliveredByFailure attempt claimed error now delay remembered target fails event waiting =>
      exact (waits waiting).elim
  | reported attempt claimed error now delay remembered target shown =>
      right; right; left
      simp only [OutboxRow.shows, Bool.and_eq_true, decide_eq_true_eq] at shown
      rw [target, shown.2, ← ledger.filed attempt claimed remembered]
      exact ⟨s, error, now, delay, by simp⟩
  | sent t tx => exact Or.inr (Or.inl (settled_of_sent (sent_write_status tx row)))
  | reactivated t tx down inProgress recovery target =>
      have view : SentView s.db.outbox tx := invariant.views t _ inProgress
      obtain ⟨other, otherFound, _, undelivered⟩ := view.reactivates recovery
      rw [← target, found, Option.some_inj] at otherFound
      subst otherFound
      rw [(undelivered_status undelivered).1] at processing
      cases processing
  | retiredByMonitor => exact Or.inr (Or.inl (byRuntime _))
  | retiredByChannel => exact Or.inr (Or.inl (byRuntime _))
  | resolved t tx inProgress finished =>
      left
      have view : OutboxView s.db.outbox tx := invariant.views t _ inProgress
      have kept : key ∉ tx.outbox.cancels := by
        intro canceled
        obtain ⟨_, other, same, _, replaceable⟩ := view.cancels key canceled
        rw [found, Option.some_inj] at same
        subst same
        simp [OutboxRow.replaceable, processing, NotificationOutboxStatus.isUnsent] at replaceable
      unfold PersistTx.rowWrite
      simp only [if_neg kept]
      split <;> exact processing

theorem accounted_step (invariant : OutboxInvariant s) (ledger : AttemptInvariant s)
    (stepped : Stepped s a after) (accounted : Accounted visited s) :
    Accounted (visited ++ [(s, a)]) after := by
  intro key next stored
  cases before : s.db.outbox.get key with
  | none => exact Or.inl (new_row_unattempted invariant (step_outbox_new stepped before stored)).1
  | some row =>
      obtain ⟨other, otherStored, move, _⟩ := step_outbox_row invariant.sequenced stepped before
      rw [stored, Option.some_inj] at otherStored
      subst otherStored
      cases granted : s.grant a with
      | none =>
          rw [quiet_move stepped granted before move]
          rcases accounted key row before with zero | processing | settled | lapsed
          · exact Or.inl zero
          · exact Or.inr (running_move invariant ledger before move processing)
          · exact Or.inr (Or.inr (Or.inl (settled_move invariant before move settled)))
          · exact Or.inr (Or.inr (Or.inr (lapsed.later _)))
      | some claimed =>
          obtain ⟨t, tx, current, _, _, _, step⟩ := grant_step stepped granted
          by_cases own : key = tx.key
          · subst own
            rw [step.outbox, Table.get_update_key_self, before] at stored
            cases stored
            exact Or.inr (Or.inl rfl)
          · rw [(step.other own).1, before, Option.some_inj] at stored
            subst stored
            rcases accounted key row before with zero | processing | settled | lapsed
            · exact Or.inl zero
            · exact Or.inr (Or.inl processing)
            · exact Or.inr (Or.inr (Or.inl settled))
            · exact Or.inr (Or.inr (Or.inr (lapsed.later _)))

theorem grant_in_turn (accounted : Accounted visited s) (stepped : Stepped s a after)
    {claimed : ClaimedNotification} (granted : s.grant a = some claimed) :
    claimed.deliveryAttempt = 1 ∨
      Reported visited (claimed.key, claimed.deliveryAttempt - 1) ∨
      LeaseExpired (visited ++ [(s, a)]) (claimed.key, claimed.deliveryAttempt - 1) := by
  obtain ⟨t, tx, row, rfl, inProgress, rfl, step⟩ := grant_step stepped granted
  change row.attemptCount + 1 = 1 ∨ Reported visited (tx.key, row.attemptCount) ∨
    LeaseExpired (visited ++ [(s, .commit t)]) (tx.key, row.attemptCount)
  rcases accounted tx.key row step.found with zero | processing | settled | reported | expired
  · exact Or.inl (by rw [zero])
  · right; right
    exact ⟨s, .commit t, row, tx.now, by simp, step.found, processing, rfl,
      by simp [System.leaseClock, inProgress],
      claim_outcome_processing processing (Or.inr step.outcome)⟩
  · have open_ := claim_outcome_not_terminal (Or.inr step.outcome)
    simp [OutboxRow.settled, open_] at settled
  · exact Or.inr (Or.inl reported)
  · obtain ⟨state, label, other, now, member, rest⟩ := expired
    exact Or.inr (Or.inr ⟨state, label, other, now, List.mem_append_left _ member, rest⟩)

end Turns

theorem run_in_turn {visited : List (System × Action)} {s : System}
    (run : Transition.Run step System.initial visited s) :
    Accounted visited s ∧ GrantedInTurn visited := by
  induction run with
  | start =>
      constructor
      · intro key row found
        cases found
      · intro earlier later s a claimed split
        simp at split
  | @next last after visited label run taken ih =>
      have reachable : Reachable last := ⟨visited, run⟩
      have invariant := outbox_invariant_reachable reachable
      have ledger := attempt_invariant_reachable reachable
      have stepped := step_cases taken
      refine ⟨accounted_step invariant ledger stepped ih.1, ?_⟩
      intro earlier later s a claimed split granted
      rcases List.eq_nil_or_concat later with rfl | ⟨init, final, rfl⟩
      · obtain ⟨same, pair⟩ := List.append_inj' split rfl
        subst same
        cases pair
        exact grant_in_turn ih.1 stepped granted
      · rw [List.concat_eq_append, ← List.cons_append, ← List.append_assoc] at split
        obtain ⟨same, _⟩ := List.append_inj' split rfl
        exact ih.2 earlier init s a claimed same granted

theorem notification_attempt_ledger {visited : List (System × Action)} {s : System}
    (run : Transition.Run step System.initial visited s) :
    AttemptLedger s ∧ GrantedInTurn visited := by
  refine ⟨?_, (run_in_turn run).2⟩
  intro key row found
  obtain ⟨attempts, held⟩ := (attempt_invariant_reachable ⟨visited, run⟩).rows key row found
  refine ⟨attempts, ?_, held.redispatchable⟩
  rw [attempts.calls, List.length_range']
  exact attempts.bounded

/-- The first attempt of the DOWN row is taken over after its lease; then the first one
reports its failure and the second one is confirmed. -/
def takenOverScript : List Action :=
  Script.setUp ++ Script.failingCheck 10 1 0 ++ Script.claimRow (Script.downKey 10) 20 ++
    Script.claimRow (Script.downKey 10) 2000 ++ Script.rejectAttempt (Script.downKey 10) 1 2010 ++
    Script.confirmAttempt (Script.downKey 10) 2 2020

theorem notification_attempt_ledger_sample : ∃ visited s,
    Transition.Run step System.initial visited s ∧ s.callsOf (Script.downKey 10) = [1, 2] ∧
      AttemptLedger s ∧ GrantedInTurn visited := by
  have passed : Transition.replaySatisfies step System.initial takenOverScript
      (fun _ s => s.callsOf (Script.downKey 10) = [1, 2]) = true := by decide +kernel
  obtain ⟨visited, s, run, called⟩ := Transition.run_of_replay_satisfies passed
  exact ⟨visited, s, run, of_decide_eq_true called, notification_attempt_ledger run⟩

end LinkAlive
