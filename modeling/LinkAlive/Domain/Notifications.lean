import LinkAlive.Domain.Types

/-!
# Notification planning

`packages/domain/src/notifications.ts`. Identifiers are numbers here, so the dedupe
key is the structure whose parts the source joins into one string.
-/

namespace LinkAlive

set_option autoImplicit false

abbrev IncidentId := Nat
abbrev ChannelId := Nat

structure DedupeKey where
  incidentId : IncidentId
  channelId : ChannelId
  eventType : NotificationEventType
deriving DecidableEq, Repr

def createNotificationDedupeKey (incidentId : IncidentId) (channelId : ChannelId)
    (eventType : NotificationEventType) : DedupeKey where
  incidentId := incidentId
  channelId := channelId
  eventType := eventType

/-- Sequence is scoped to an incident/channel pair. -/
def notificationSequence : NotificationEventType → Nat
  | .down => 1
  | .recovery | .resolvedSummary => 2
  | .test | .networkRecovery => 1

inductive RecoveryNotificationPlan
  | createRecovery (waitForDownTerminalState : Bool)
  | replaceWithResolvedSummary
  | skip
deriving DecidableEq, Repr

def NotificationOutboxStatus.isUnsent : NotificationOutboxStatus → Bool
  | .pending | .enqueued => true
  | _ => false

def planRecoveryNotification (downStatus : NotificationOutboxStatus) (downAttemptCount : Nat) :
    Except RangeError RecoveryNotificationPlan :=
  if !isSafeInteger downAttemptCount then
    .error ⟨"downAttemptCount must be a non-negative safe integer"⟩
  else if downAttemptCount = 0 && downStatus.isUnsent then .ok .replaceWithResolvedSummary
  else if downStatus = .failed || downStatus = .canceled then .ok .skip
  else .ok (.createRecovery (downStatus ≠ .sent))

def RecoveryNotificationPlan.eventType : RecoveryNotificationPlan → NotificationEventType
  | .replaceWithResolvedSummary => .resolvedSummary
  | _ => .recovery

theorem plan_replaces {status : NotificationOutboxStatus} {attempts : Nat}
    (planned : planRecoveryNotification status attempts = .ok .replaceWithResolvedSummary) :
    attempts = 0 ∧ status.isUnsent = true := by
  unfold planRecoveryNotification at planned
  split at planned
  · cases planned
  · split at planned
    · rename_i unattempted
      simpa using unattempted
    · split at planned <;> cases planned

theorem plan_skips {status : NotificationOutboxStatus} {attempts : Nat}
    (planned : planRecoveryNotification status attempts = .ok .skip) :
    status = .failed ∨ status = .canceled := by
  unfold planRecoveryNotification at planned
  split at planned
  · cases planned
  · split at planned
    · cases planned
    · split at planned
      · rename_i undelivered
        simpa using undelivered
      · cases planned

theorem plan_recovers {status : NotificationOutboxStatus} {attempts : Nat}
    {plan : RecoveryNotificationPlan}
    (planned : planRecoveryNotification status attempts = .ok plan) (different : plan ≠ .skip) :
    status ≠ .failed ∧ status ≠ .canceled := by
  unfold planRecoveryNotification at planned
  split at planned
  · cases planned
  · split at planned
    · rename_i unattempted
      simp only [Bool.and_eq_true, decide_eq_true_eq] at unattempted
      constructor <;> intro status <;> simp [status, NotificationOutboxStatus.isUnsent] at unattempted
    · split at planned
      · cases planned
        exact absurd rfl different
      · rename_i delivered
        simpa using delivered

end LinkAlive
