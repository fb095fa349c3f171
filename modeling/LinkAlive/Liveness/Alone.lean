import LinkAlive.Liveness.Moments
import LinkAlive.Outbox.Attempts

/-!
# Programs that run alone

A transaction that nobody else competes with gets every lock, so that each program of a
dispatcher or a worker can be run to its end.
-/

namespace LinkAlive

open Relational Transition

set_option autoImplicit false

/-- Nothing but this transaction is in progress. -/
def System.alone (s : System) (t : TxId) : Prop := ∀ other, other ≠ t → s.txs.get other = none

section Locks

variable {s : System} {t : TxId} {locks : Transaction → Bool}

theorem quiescent_free (quiet : s.quiescent) : s.free locks = true := by
  apply System.free_iff.2
  intro other tx inProgress
  rw [quiet other] at inProgress
  cases inProgress

theorem alone_free_for (alone : s.alone t) : s.freeFor t locks = true := by
  apply System.free_for_iff.2
  intro other tx inProgress different
  rw [alone other different] at inProgress
  cases inProgress

theorem quiescent_put (quiet : s.quiescent) (t : TxId) (tx : Transaction) :
    ({ s with txs := s.txs.put t tx } : System).alone t := by
  intro other different
  rw [Table.get_put, if_neg different]
  exact quiet other

theorem alone_ended (alone : s.alone t) (db : Database) (events : List Event) :
    (s.ended t db events).quiescent := by
  intro other
  change (s.txs.remove t).get other = none
  rw [Table.get_remove]
  by_cases same : other = t
  · rw [if_pos same]
  · rw [if_neg same]
    exact alone other same

end Locks

theorem aborts_possible (w : Workers) (now : Time) (s : System) :
    PossibleAt w now s fun last => last.quiescent ∧ last.db = s.db := by
  have rounds : PossibleAt w now s fun last => last.db = s.db ∧ last.quiescent := by
    apply CanReach.rounds (fun state => state.txs.keys.length)
    · intro state kept busy
      have begun : ∃ t tx, state.txs.get t = some tx := by
        by_contra none
        apply busy
        intro t
        cases inProgress : state.txs.get t with
        | none => rfl
        | some tx => exact absurd ⟨t, tx, inProgress⟩ none
      obtain ⟨t, tx, inProgress⟩ := begun
      have taken : step state (.abort t) = some { state with txs := state.txs.remove t } := by
        simp only [step, System.abort, inProgress, Option.isSome_some, if_true]
      have member : t ∈ state.txs.keys := by
        apply AList.mem_keys.1
        apply AList.lookup_isSome.1
        change (state.txs.get t).isSome = true
        rw [inProgress]
        rfl
      have fewer : (state.txs.remove t).keys.length < state.txs.keys.length := by
        rw [Table.remove, AList.keys_erase, List.length_erase_of_mem member]
        have positive := List.length_pos_of_mem member
        omega
      have timeless : ∀ time ∈ (Action.abort t).times, time = now := fun _ member => by cases member
      exact CanReach.next taken ⟨rfl, trivial, timeless⟩ (CanReach.here ⟨kept, fewer⟩)
    · rfl
  apply rounds.weaken
  intro last reached
  exact ⟨reached.2, reached.1⟩

section Programs

variable {w : Workers} {now : Time} {s : System} {t : TxId} {db : Database}

/-- The last statement of a transaction brings no time. -/
theorem commit_possible {goal : System → Prop} {after : System} (own : w.permits s (.commit t))
    (committed : step s (.commit t) = some after) (holds : goal after) :
    PossibleAt w now s goal :=
  CanReach.next committed ⟨rfl, own, fun _ member => by cases member⟩ (CanReach.here holds)

theorem claim_alone (alone : s.alone t) {tx : ClaimTx}
    (inProgress : s.txs.get t = some (.claim tx)) {granted : Option ClaimedNotification}
    (written : claimCommit s.db tx = some (db, granted)) :
    PossibleAt w now s fun last => last.quiescent ∧ last.db = db ∧
      ∀ claimed, granted = some claimed →
        last.attempts.get (claimed.key, claimed.deliveryAttempt) = some claimed := by
  have needs : (s.claimNeeds tx).all
      (fun key => s.freeFor t (Transaction.locksRow key)) = true := by
    cases s.claimNeeds tx with
    | none => rfl
    | some key => exact alone_free_for alone
  have permitted : w.permits s (.commit t) := by
    simp only [Workers.permits, inProgress]
  have locked : s.freeFor t
      (fun other => other.found.any fun attempt => attempt.1 = tx.key) = true :=
    alone_free_for alone
  cases granted with
  | none =>
      have committed : step s (.commit t) = some (s.ended t db []) := by
        simp only [step, System.commit, inProgress, System.commitClaim, needs, locked,
          Bool.and_self, if_true, written, Option.bind_eq_bind, Option.bind_some]
      refine commit_possible permitted committed ⟨alone_ended alone _ _, rfl, ?_⟩
      intro claimed same
      cases same
  | some claimed =>
      have committed : step s (.commit t) =
          some { s.ended t db [.granted claimed.key claimed.deliveryAttempt] with
            attempts := s.attempts.put (claimed.key, claimed.deliveryAttempt) claimed } := by
        simp only [step, System.commit, inProgress, System.commitClaim, needs, locked,
          Bool.and_self, if_true, written, Option.bind_eq_bind, Option.bind_some]
      refine commit_possible permitted committed ⟨alone_ended alone db [], rfl, ?_⟩
      intro other same
      cases same
      exact (Table.get_put _ _ _ _).trans (if_pos rfl)

theorem mark_sent_alone (quiet : s.quiescent) {claimed : ClaimedNotification}
    {attempt : OutboxKey × Nat} (remembered : s.attempts.get attempt = some claimed)
    (providerMessageId : Option String)
    (written : markSentCommit s.db (markSentBegin s.db claimed providerMessageId now now) =
      some db) :
    PossibleAt w now s fun last => last.quiescent ∧ last.db = db := by
  let tx : MarkSentTx := markSentBegin s.db claimed providerMessageId now now
  let begun : System :=
    { s with txs := s.txs.put 0 (.markSent tx), attempts := s.attempts.remove attempt }
  have alone : begun.alone 0 := quiescent_put quiet 0 _
  have inProgress : begun.txs.get 0 = some (.markSent tx) := by
    rw [Table.get_put, if_pos rfl]
  have started : step s (.beginMarkSent 0 attempt providerMessageId now now) = some begun := by
    simp only [step, System.beginMarkSent, remembered, Option.bind_eq_bind, Option.bind_some,
      quiescent_free quiet, if_true]
    exact System.begin_eq_some.2 ⟨quiet 0, rfl⟩
  have late : begun.lateRecoveryFree 0 tx = true := by
    unfold System.lateRecoveryFree
    split
    · rfl
    · exact alone_free_for alone
    · rw [alone_free_for alone, alone_free_for alone]
      rfl
  have committed : step begun (.commit 0) = some (begun.ended 0 db []) := by
    simp only [step, System.commit, inProgress, System.commitMarkSent, alone_free_for alone, late,
      Bool.and_self, if_true]
    change (markSentCommit s.db tx).bind _ = _
    rw [written]
    rfl
  have permitted : w.permits begun (.commit 0) := by
    simp only [Workers.permits, inProgress]
  have timed : ∀ time ∈ (Action.beginMarkSent 0 attempt providerMessageId now now).times,
      time = now := by simp [Action.times]
  apply CanReach.next started ⟨rfl, trivial, timed⟩
  exact commit_possible permitted committed ⟨alone_ended alone _ _, rfl⟩

theorem mark_failed_alone (quiet : s.quiescent) {claimed : ClaimedNotification}
    {attempt : OutboxKey × Nat} (remembered : s.attempts.get attempt = some claimed)
    (error : NotificationProviderError) (retryDelayMs : Nat) :
    PossibleAt w now s fun last => last.quiescent ∧
      last.db = markFailed s.db claimed error now retryDelayMs := by
  have taken : step s (.markFailed attempt error now retryDelayMs) =
      some { s with
        db := markFailed s.db claimed error now retryDelayMs
        attempts := s.attempts.remove attempt } := by
    simp only [step, System.markFailed, remembered, Option.bind_eq_bind, Option.bind_some,
      quiescent_free quiet, Bool.or_true, Bool.and_self, if_true]
  have timed : ∀ time ∈ (Action.markFailed attempt error now retryDelayMs).times, time = now := by
    simp [Action.times]
  exact CanReach.next taken ⟨rfl, trivial, timed⟩ (CanReach.here ⟨quiet, rfl⟩)

end Programs

end LinkAlive
