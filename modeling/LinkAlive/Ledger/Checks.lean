import LinkAlive.Ledger.Steps
import LinkAlive.System.Script

/-!
# The ledger of scheduled checks

What holds of `scheduled_checks` and `check_results` in every reachable state, and that
terminal checks stay as they are in every later run.
-/

namespace LinkAlive

open Relational Transition

set_option autoImplicit false

def CheckRow.leaseOver (row : CheckRow) (now : Time) : Prop :=
  ∀ leaseUntil, row.leaseUntil = some leaseUntil → leaseUntil < now

structure CheckLedger (s : System) : Prop where
  singleActive : ∀ id other row otherRow, s.db.checks.get id = some row →
    s.db.checks.get other = some otherRow → row.monitorId = otherRow.monitorId →
      row.status.isActive = true → otherRow.status.isActive = true → id = other
  terminalForever : ∀ visited later, Run step s visited later →
    ∀ id row, s.db.checks.get id = some row →
      row.status = .completed ∨ row.status = .canceled → later.db.checks.get id = some row
  completedResult : ∀ id row, s.db.checks.get id = some row → row.status = .completed →
    ∃! result, s.db.results.get id = some result
  activeNoResult : ∀ id row, s.db.checks.get id = some row → row.status.isActive = true →
    s.db.results.get id = none
  leasePair : ∀ id row, s.db.checks.get id = some row →
    row.leaseOwner.isSome = row.leaseUntil.isSome
  leased : ∀ id row, s.db.checks.get id = some row →
    row.status = .enqueued ∨ row.status = .running → row.leaseUntil.isSome = true
  redispatched : ∀ id row now, s.db.checks.get id = some row → row.status.isActive = true →
    row.leaseOver now →
      row.isDispatchCandidate (s.db.results.get id).isSome now = true ∧
        row.claimableForDispatch now = true

theorem lease_free_of_over {row : CheckRow} {now : Time} (lapsed : row.leaseOver now) :
    leaseFree now row.leaseUntil = true := by
  unfold leaseFree
  split
  · rename_i leaseUntil lease
    exact decide_eq_true (lapsed leaseUntil lease)
  · rfl

theorem lease_expired_of_over {row : CheckRow} {now : Time} (lapsed : row.leaseOver now)
    (leased : row.leaseUntil.isSome = true) : leaseExpired now row.leaseUntil = true := by
  obtain ⟨leaseUntil, lease⟩ := Option.isSome_iff_exists.1 leased
  rw [lease]
  exact decide_eq_true (lapsed leaseUntil lease)

theorem dispatched_after_lease {row : CheckRow} {now : Time} (valid : row.WellFormed)
    (active : row.status.isActive = true) (lapsed : row.leaseOver now) :
    row.isDispatchCandidate false now = true ∧ row.claimableForDispatch now = true := by
  have unfinished := valid.unfinished active
  unfold CheckRow.isDispatchCandidate CheckRow.claimableForDispatch
  cases status : row.status with
  | pending => simp [unfinished, lease_free_of_over lapsed]
  | enqueued =>
      have expired := lease_expired_of_over lapsed (valid.leased (Or.inl status))
      simp [unfinished, expired]
  | running =>
      have expired := lease_expired_of_over lapsed (valid.leased (Or.inr status))
      simp [unfinished, expired]
  | completed => simp [status, ScheduledCheckStatus.isActive] at active
  | failed => simp [status, ScheduledCheckStatus.isActive] at active
  | canceled => simp [status, ScheduledCheckStatus.isActive] at active

theorem no_result_of_active {db : Database} (consistent : LedgerConsistent db) {id : CheckId}
    {row : CheckRow} (found : db.checks.get id = some row) (active : row.status.isActive = true) :
    db.results.get id = none := by
  cases stored : db.results.get id with
  | none => rfl
  | some result =>
      obtain ⟨other, same, terminal⟩ := consistent.results id result stored
      rw [found, Option.some_inj] at same
      rw [← same, active] at terminal
      cases terminal

theorem terminal_check_kept {s later : System} {visited : List (System × Action)}
    (reachable : Reachable s) (run : Run step s visited later) {id : CheckId} {row : CheckRow}
    (found : s.db.checks.get id = some row) (terminal : row.status.isActive = false) :
    later.db.checks.get id = some row := by
  have both : Reachable later ∧ later.db.checks.get id = some row := by
    apply run.preserves (fun _ _ => True)
      (fun state => Reachable state ∧ state.db.checks.get id = some row) ⟨reachable, found⟩
    · intro state label after holds _ taken
      obtain ⟨next, stored, move⟩ :=
        step_check_move (ledger_invariant_reachable holds.1) (step_cases taken) holds.2
      rw [move.terminal terminal] at stored
      exact ⟨holds.1.step_closed taken, stored⟩
    · intro _ _ _
      trivial
  exact both.2

theorem scheduled_check_ledger {s : System} (reachable : Reachable s) : CheckLedger s := by
  have consistent := (ledger_invariant_reachable reachable).consistent
  constructor
  · intro id other row otherRow found otherFound same active otherActive
    exact consistent.single id other row otherRow found otherFound active otherActive same
  · intro visited later run id row found status
    apply terminal_check_kept reachable run found
    rcases status with completed | canceled
    · rw [completed]
      rfl
    · rw [canceled]
      rfl
  · intro id row found completed
    obtain ⟨result, stored⟩ := consistent.completed id row found completed
    refine ⟨result, stored, ?_⟩
    intro other otherStored
    rw [stored, Option.some_inj] at otherStored
    exact otherStored.symm
  · intro id row found active
    exact no_result_of_active consistent found active
  · intro id row found
    exact (consistent.rows id row found).leasePair
  · intro id row found status
    exact (consistent.rows id row found).leased status
  · intro id row now found active lapsed
    rw [no_result_of_active consistent found active]
    exact dispatched_after_lease (consistent.rows id row found) active lapsed

/-- A completed check and, after it, a running one. -/
theorem scheduled_check_ledger_sample :
    ∃ s, CheckLedger s ∧
      ((s.db.checks.get 1).any (fun row => row.status = .completed) &&
        (s.db.checks.get 2).any fun row => row.status = .running) = true := by
  obtain ⟨s, reachable, tested⟩ := reachable_of_script
    (Script.setUp ++ Script.failingCheck 1 1 1000 ++ Script.startCheck 2 1 61000)
    (fun s => (s.db.checks.get 1).any (fun row => row.status = .completed) &&
      (s.db.checks.get 2).any fun row => row.status = .running) (by decide +kernel)
  exact ⟨s, scheduled_check_ledger reachable, tested⟩

end LinkAlive
