import LinkAlive.Foundation.Sql
import LinkAlive.Store.Schema

/-!
# The CHECK constraints of the schema

The constraints on columns that the program computes, as the migrations state them. Those
on validated input and on lengths of texts are not among them.
-/

namespace LinkAlive

open Sql

set_option autoImplicit false

/-- `lease_owner` and `lease_until` of one row. -/
def leasePairCheck (leaseOwner : Option InstanceId) (leaseUntil : Option Time) : Truth :=
  .either (.all [isNull leaseOwner, isNull leaseUntil])
    (.all [(isNull leaseOwner).negate, (isNull leaseUntil).negate])

theorem lease_pair_check_iff {leaseOwner : Option InstanceId} {leaseUntil : Option Time} :
    leasePairCheck leaseOwner leaseUntil = some true ↔
      leaseOwner.isSome = leaseUntil.isSome := by
  cases leaseOwner <;> cases leaseUntil <;>
    simp [leasePairCheck, isNull, Truth.all, Truth.both, Truth.either, Truth.negate]

def MonitorRow.stateCountsCheck (row : MonitorRow) : Truth :=
  .all
    [some (decide (0 ≤ row.consecutiveFailures)), some (decide (0 ≤ row.consecutiveSuccesses)),
      some (decide (1 ≤ row.configVersion))]

def MonitorRow.deletedLifecycleCheck (row : MonitorRow) : Truth :=
  .either
    (.all [some (decide (row.lifecycleStatus = .deleted)), (isNull row.deletedAt).negate])
    (.all [some (decide (row.lifecycleStatus ≠ .deleted)), isNull row.deletedAt])

/-- `scheduled_checks_lease_pair_check`. -/
def CheckRow.leasePairCheck (row : CheckRow) : Truth :=
  LinkAlive.leasePairCheck row.leaseOwner row.leaseUntil

/-- `notification_channels_deleted_check`. -/
def ChannelRow.deletedCheck (row : ChannelRow) : Truth :=
  .either (isNull row.deletedAt) (some (decide (row.enabled = false)))

/-- `notification_outbox_sequence_check`. -/
def OutboxRow.sequenceCheck (key : OutboxKey) (row : OutboxRow) : Truth :=
  .either
    (.all [some (decide (row.eventType ∈ [.down, .test, .networkRecovery])),
      some (decide (key.sequence = 1))])
    (.all [some (decide (row.eventType ∈ [.recovery, .resolvedSummary])),
      some (decide (key.sequence = 2))])

/-- `notification_outbox_incident_check`. -/
def OutboxRow.incidentCheck (key : OutboxKey) (row : OutboxRow) : Truth :=
  .either
    (.all [some (decide (row.eventType ∈ [.test, .networkRecovery])),
      isNull (some key.incidentId)])
    (.all [some (decide (row.eventType ∈ [.down, .recovery, .resolvedSummary])),
      (isNull (some key.incidentId)).negate])

/-- `notification_outbox_monitor_check`. -/
def OutboxRow.monitorCheck (row : OutboxRow) : Truth :=
  .either
    (.all [some (decide (row.eventType = .networkRecovery)), isNull (some row.monitorId)])
    (.all [some (decide (row.eventType ≠ .networkRecovery)),
      (isNull (some row.monitorId)).negate])

/-- `notification_outbox_attempts_check`. -/
def OutboxRow.attemptsCheck (row : OutboxRow) : Truth :=
  .all
    [some (decide (0 ≤ row.attemptCount)),
      some (decide (1 ≤ row.maxAttempts) && decide (row.maxAttempts ≤ 10)),
      some (decide (row.attemptCount ≤ row.maxAttempts))]

/-- `notification_outbox_lease_pair_check`. -/
def OutboxRow.leasePairCheck (row : OutboxRow) : Truth :=
  LinkAlive.leasePairCheck row.leaseOwner row.leaseUntil

/-- `notification_deliveries_attempt_check`. -/
def deliveryAttemptCheck (attempt : Nat) : Truth := some (decide (1 ≤ attempt))

theorem MonitorRow.state_counts_of_version {row : MonitorRow} (version : 1 ≤ row.configVersion) :
    row.stateCountsCheck = some true := by
  simp [stateCountsCheck, Truth.all, Truth.both, version]

theorem MonitorRow.deleted_lifecycle_of_iff {row : MonitorRow}
    (deleted : row.deletedAt.isSome = true ↔ row.lifecycleStatus = .deleted) :
    row.deletedLifecycleCheck = some true := by
  rw [deletedLifecycleCheck, Truth.either_eq_true]
  by_cases lifecycle : row.lifecycleStatus = .deleted
  · obtain ⟨time, stored⟩ := Option.isSome_iff_exists.1 (deleted.2 lifecycle)
    left
    rw [stored]
    simp [Truth.all, Truth.both, Truth.negate, isNull, lifecycle]
  · have kept : row.deletedAt = none := by
      cases stored : row.deletedAt with
      | none => rfl
      | some time => exact absurd (deleted.1 (by rw [stored]; rfl)) lifecycle
    right
    rw [kept]
    simp [Truth.all, Truth.both, isNull, lifecycle]

theorem OutboxRow.attempts_of_bounds {row : OutboxRow} (most : row.maxAttempts = 3)
    (bounded : row.attemptCount ≤ row.maxAttempts) : row.attemptsCheck = some true := by
  rw [attemptsCheck, most]
  rw [most] at bounded
  simp [Truth.all, Truth.both, bounded]

end LinkAlive
