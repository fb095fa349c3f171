import LinkAlive.Store.Schema
import LinkAlive.Domain.Scheduling

/-!
# The scheduler's statements

`apps/scheduler/src/store.ts`. `createDueChecks` is a transaction: its locking select
is `dueMonitor`, the loop over the locked rows is `createDueChecks`. The other methods
are single statements on `scheduled_checks`.
-/

namespace LinkAlive

open Relational

set_option autoImplicit false

def leaseExpired (now : Time) : Option Time → Bool
  | some leaseUntil => leaseUntil < now
  | none => false

def leaseFree (now : Time) : Option Time → Bool
  | some leaseUntil => leaseUntil < now
  | none => true

structure DueMonitor where
  id : MonitorId
  nextCheckAt : Time
  intervalSec : Nat
  configVersion : Nat
deriving DecidableEq, Repr

def hasActiveCheck (checks : Table CheckId CheckRow) (monitorId : MonitorId) : Bool :=
  !checks.every fun _ check => !(check.monitorId = monitorId && check.status.isActive)

/-- The row that the locking select returns for a monitor that is due. -/
def dueMonitor (db : Database) (now : Time) (id : MonitorId) : Option DueMonitor := do
  let monitor ← db.monitors.get id
  let nextCheckAt ← monitor.nextCheckAt
  if monitor.isActive && nextCheckAt ≤ now && !hasActiveCheck db.checks id then
    some ⟨id, nextCheckAt, monitor.config.intervalSec, monitor.configVersion⟩
  else none

/-- `INSERT` under the unique indexes of `scheduled_checks`: one row for a slot, one
active row for a monitor. -/
def insertCheck (checks : Table CheckId CheckRow) (id : CheckId) (row : CheckRow) :
    Option (Table CheckId CheckRow) :=
  if checks.every (fun _ other => !(other.monitorId = row.monitorId &&
        other.scheduledAt = row.scheduledAt && other.configVersion = row.configVersion)) &&
      !(row.status.isActive && hasActiveCheck checks row.monitorId) then
    checks.insertNew id row
  else none

def newCheckRow (due : DueMonitor) (scheduledAt : Time) : CheckRow where
  monitorId := due.id
  scheduledAt := scheduledAt
  configVersion := due.configVersion
  status := .pending
  leaseOwner := none
  leaseUntil := none
  queueJobId := none
  attemptCount := 0
  failureReasonSafe := none
  enqueuedAt := none
  startedAt := none
  completedAt := none
  canceledAt := none

/-- One round of the loop of `createDueChecks`; `none` is a thrown error. -/
def createDueCheck (db : Database) (now : Time) (due : DueMonitor) (id : CheckId) :
    Option Database :=
  match coalesceDueScheduledAt due.nextCheckAt due.intervalSec now with
  | .error _ => none
  | .ok none => some db
  | .ok (some scheduledAt) =>
      match calculateNextCheckAt scheduledAt due.intervalSec now with
      | .error _ => none
      | .ok nextCheckAt => do
          let checks ← insertCheck db.checks id (newCheckRow due scheduledAt)
          some { db with
            checks := checks
            monitors := db.monitors.updateKey due.id fun monitor =>
              { monitor with nextCheckAt := some nextCheckAt } }

def createDueChecks (db : Database) (now : Time) : List (DueMonitor × CheckId) → Option Database
  | [] => some db
  | (due, id) :: rest => do
      let next ← createDueCheck db now due id
      createDueChecks next now rest

/-- The filter of `findDispatchCandidates`. -/
def CheckRow.isDispatchCandidate (row : CheckRow) (hasResult : Bool) (now : Time) : Bool :=
  (row.status = .pending && leaseFree now row.leaseUntil) ||
    ((row.status = .enqueued || row.status = .running) && leaseExpired now row.leaseUntil &&
      !hasResult)

/-- The filter of `claimForDispatch`. -/
def CheckRow.claimableForDispatch (row : CheckRow) (now : Time) : Bool :=
  row.completedAt.isNone &&
    ((row.status = .pending && leaseFree now row.leaseUntil) ||
      ((row.status = .enqueued || row.status = .running) && leaseExpired now row.leaseUntil))

/-- The filter of `markEnqueued` and `releaseDispatchClaim`. -/
def CheckRow.claimedBy (row : CheckRow) (owner : InstanceId) : Bool :=
  row.leaseOwner = some owner && row.status = .pending && row.completedAt.isNone

def claimForDispatch (checks : Table CheckId CheckRow) (id : CheckId) (owner : InstanceId)
    (now leaseUntil : Time) : Table CheckId CheckRow :=
  checks.updateWhere (fun key row => key = id && row.claimableForDispatch now) fun _ row =>
    { row with
      status := .pending
      leaseOwner := some owner
      leaseUntil := some leaseUntil
      attemptCount := row.attemptCount + 1
      failureReasonSafe := none }

def markEnqueued (checks : Table CheckId CheckRow) (id : CheckId) (owner : InstanceId)
    (now leaseUntil : Time) : Table CheckId CheckRow :=
  checks.updateWhere (fun key row => key = id && row.claimedBy owner) fun _ row =>
    { row with
      status := .enqueued
      queueJobId := some id
      enqueuedAt := some now
      leaseUntil := some leaseUntil }

def releaseDispatchClaim (checks : Table CheckId CheckRow) (id : CheckId) (owner : InstanceId)
    (safeReason : String) : Table CheckId CheckRow :=
  checks.updateWhere (fun key row => key = id && row.claimedBy owner) fun _ row =>
    { row with
      status := .pending
      leaseOwner := none
      leaseUntil := none
      failureReasonSafe := some (sliceText safeReason 1000) }

end LinkAlive
