/-!
# Runtime constants of the domain package

The string constants of `packages/domain/src/types.ts`. Times are milliseconds
since the epoch, the resolution of the `DATETIME(3)` columns.
-/

namespace LinkAlive

set_option autoImplicit false

abbrev Time := Nat

inductive MonitorLifecycle | active | paused | deleted
deriving DecidableEq, Repr

inductive MonitorHealth | pending | up | suspect | down | recovering
deriving DecidableEq, Repr

inductive HttpMethod | get | head
deriving DecidableEq, Repr

inductive CheckSource | scheduled | manual | test
deriving DecidableEq, Repr

inductive CheckOutcome | success | targetFailure | platformError | inconclusive
deriving DecidableEq, Repr

inductive CheckErrorType
  | dnsError | connectTimeout | connectionRefused | tlsError | ttfbTimeout | requestTimeout
  | redirectError | httpStatusMismatch | contentMismatch | responseLimitExceeded
  | networkError | platformError
deriving DecidableEq, Repr

inductive ScheduledCheckStatus | pending | enqueued | running | completed | failed | canceled
deriving DecidableEq, Repr

inductive IncidentStatus | opened | resolved | canceled
deriving DecidableEq, Repr

inductive IncidentClosureReason | recovered | paused | deleted | configChanged
deriving DecidableEq, Repr

inductive NotificationEventType | networkRecovery | down | recovery | resolvedSummary | test
deriving DecidableEq, Repr

inductive NotificationOutboxStatus
  | pending | enqueued | processing | retry | sent | failed | canceled
deriving DecidableEq, Repr

inductive NotificationDeliveryStatus | attempting | succeeded | failed | unknown
deriving DecidableEq, Repr

/-- A thrown `RangeError`, by its message. -/
structure RangeError where
  message : String
deriving DecidableEq, Repr

/-- `Number.MAX_SAFE_INTEGER` -/
def maxSafeInteger : Nat := 9007199254740991

/-- `Number.isSafeInteger` of a non-negative integer. -/
def isSafeInteger (value : Nat) : Bool := value ≤ maxSafeInteger

end LinkAlive
