import LinkAlive.Foundation.JobQueue
import LinkAlive.Worker.CheckProcessor

/-!
# The check dispatcher

`apps/scheduler/src/check-dispatcher.ts`. Every statement on `scheduled_checks` is its own
transaction; what a `dispatch` call remembers about one candidate is `CheckTurn`.
-/

namespace LinkAlive

open Relational Jobs

set_option autoImplicit false

abbrev CheckQueuePort (World : Type) := QueuePort World CheckId CheckJobData

def ensureQueueJob {World : Type} (queue : CheckQueuePort World) (data : CheckJobData) :
    EStateM Unit World Unit :=
  queue.ensureJob data.scheduledCheckId data

inductive CheckTurnStage
  | selected | claimed | ensured
deriving DecidableEq, Repr

structure CheckTurn where
  owner : InstanceId
  leaseMs : Nat
  now : Time
  scheduledCheckId : CheckId
  configVersion : Nat
  stage : CheckTurnStage

def CheckTurn.leaseUntil (turn : CheckTurn) : Time := turn.now + turn.leaseMs

def CheckTurn.data (turn : CheckTurn) : CheckJobData where
  scheduledCheckId := turn.scheduledCheckId
  configVersion := turn.configVersion

/-- `findDispatchCandidates` returns the check. -/
def findDispatchCandidate (db : Database) (owner : InstanceId) (leaseMs : Nat) (now : Time)
    (id : CheckId) : Option CheckTurn := do
  let check ← db.checks.get id
  if check.isDispatchCandidate (db.results.get id).isSome now then
    some
      { owner := owner
        leaseMs := leaseMs
        now := now
        scheduledCheckId := id
        configVersion := check.configVersion
        stage := .selected }
  else none

/-- `claimForDispatch` answers whether it has updated the row. -/
def CheckTurn.claims (turn : CheckTurn) (db : Database) : Bool :=
  (db.checks.get turn.scheduledCheckId).any fun row => row.claimableForDispatch turn.now

def notEnqueuedReason : String := "검사 큐에 작업을 등록하지 못했습니다."

end LinkAlive
