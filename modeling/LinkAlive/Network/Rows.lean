import LinkAlive.Worker.NotificationRules

/-!
# Network observers and outages

The rows and the rules of `apps/worker/src/network-policy.ts` and of the guard. Workers
on one machine share an observer; an outage belongs to an observer; an observation ties
a monitor's suppressed result to an outage.
-/

namespace LinkAlive.Network

set_option autoImplicit false

open Relational

abbrev ObserverId := Nat
abbrev OutageId := Nat

inductive NetworkStatus
  | unknown | online | offline | disabled
deriving DecidableEq, Repr

structure NetworkSettingsRow where
  enabled : Bool
  urls : List String
  channelIds : List ChannelId
  version : Nat
deriving DecidableEq, Repr

structure NetworkObserverRow where
  status : NetworkStatus
  checkedAt : Option Time
  activeOutageId : Option OutageId
deriving DecidableEq, Repr

structure NetworkOutageRow where
  observerId : ObserverId
  startedAt : Time
  recoveredAt : Option Time
  canceledAt : Option Time
  summarizedAt : Option Time
  channelIds : List ChannelId
deriving DecidableEq, Repr

structure NetworkObservationRow where
  configVersion : Nat
  recheckedAt : Option Time
  outcome : Option CheckOutcome
deriving DecidableEq, Repr

/-- The counts of a summary, as the text of its notification reports them. -/
structure SummaryCounts where
  success : Nat
  failed : Nat
  pending : Nat
  skipped : Nat
deriving DecidableEq, Repr

/-- A NETWORK_RECOVERY row; its dedupe key is the outage and the channel. The source keeps
these rows in `notification_outbox`. Here they have a table of their own and stay as they were
created, so that no statement about `Database.outbox` is about them. -/
structure NetworkRecoveryRow where
  channelDisplayNameSnapshot : String
  encryptedConfigSnapshot : Sealed ChannelConfig
  networkStartedAt : Time
  occurredAt : Time
  counts : SummaryCounts
deriving DecidableEq, Repr

structure NetworkDatabase where
  settings : Option NetworkSettingsRow
  observers : Table ObserverId NetworkObserverRow
  outages : Table OutageId NetworkOutageRow
  observations : Table (OutageId × MonitorId) NetworkObservationRow
  recoveries : Table (OutageId × ChannelId) NetworkRecoveryRow

def NetworkDatabase.empty : NetworkDatabase where
  settings := none
  observers := ∅
  outages := ∅
  observations := ∅
  recoveries := ∅

def newObserver : NetworkObserverRow where
  status := .unknown
  checkedAt := none
  activeOutageId := none

def newObservation (configVersion : Nat) : NetworkObservationRow where
  configVersion := configVersion
  recheckedAt := none
  outcome := none

def networkErrors : List CheckErrorType :=
  [.dnsError, .connectTimeout, .connectionRefused, .ttfbTimeout, .requestTimeout, .networkError]

def isNetworkFailure (result : MonitorCheckResult) : Bool :=
  result.outcome = .targetFailure && result.statusCode.isNone &&
    result.errorType.any fun error => error ∈ networkErrors

/-- Any HTTP response proves connectivity. -/
def referenceStatus (results : List MonitorCheckResult) : NetworkStatus :=
  if results.any fun result => result.statusCode.isSome then .online
  else if 2 ≤ results.length && results.all isNetworkFailure then .offline
  else .unknown

def inconclusiveNetworkResult (result : MonitorCheckResult) : MonitorCheckResult :=
  { result with
    outcome := .inconclusive
    errorMessageSafe :=
      some "감시 PC의 외부 연결 이상이 의심되어 대상 상태를 확인할 수 없습니다." }

def NetworkOutageRow.isOpen (outage : NetworkOutageRow) : Bool :=
  outage.recoveredAt.isNone && outage.canceledAt.isNone

end LinkAlive.Network
