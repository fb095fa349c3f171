import LinkAlive.System.Step

/-!
# Scripts

The actions of one program from its first statement to its last, for concrete runs. A
run of several programs interleaves such lists.
-/

namespace LinkAlive

open Relational

set_option autoImplicit false

namespace Script

def channelConfig : ChannelConfig where
  botToken := "123:token"
  chatId := "-100"

/-- Both thresholds are one, so that one result opens or resolves an incident. -/
def monitorInput (channelIds : List ChannelId) : MonitorInput where
  name := "shop"
  target := ⟨"https://shop.example", "https://shop.example"⟩
  config :=
    { method := .get
      intervalSec := 60
      timeoutMs := 10000
      expectedStatusMin := 200
      expectedStatusMax := 299
      expectedKeyword := ""
      followRedirects := true
      maxRedirects := 5
      failureThreshold := 1
      recoveryThreshold := 1 }
  channelIds := channelIds

def processorConfig : CheckProcessorConfig where
  instanceId := 7
  region := "kr"
  leaseMs := 60000
  appBaseUrl := none
  messageIdDomain := "linkalive.local"
  networkGuard := false

def checkResult (outcome : CheckOutcome) (startedAt : Time) : MonitorCheckResult where
  outcome := outcome
  startedAt := startedAt
  finishedAt := startedAt + 10
  statusCode := if outcome = .success then some 200 else some 500
  ttfbMs := some 5
  totalMs := 10
  errorType := if outcome = .success then none else some .httpStatusMismatch
  errorMessageSafe := none
  redirectCount := 0
  inspectedBodyBytes := 0

def setUp : List Action :=
  [.createChannel 1 "ops" channelConfig,
    .beginMonitor 0 1 (.create (monitorInput [1])) 0 0, .commit 0]

def administer (request : MonitorRequest) (now : Time) : List Action :=
  [.beginMonitor 0 1 request now now, .commit 0]

def rebind (channelIds : List ChannelId) : MonitorRequest :=
  .update
    { name := none
      url := none
      method := none
      intervalSec := none
      timeoutMs := none
      expectedStatusMin := none
      expectedStatusMax := none
      expectedKeyword := none
      followRedirects := none
      maxRedirects := none
      failureThreshold := none
      recoveryThreshold := none
      channelIds := some channelIds }

def startCheck (id : CheckId) (configVersion : Nat) (now : Time) : List Action :=
  [.beginCreateDue 0 now [(1, id)], .commit 0, .loadCheck id ⟨id, configVersion⟩,
    .loadMonitor id, .claimCheck id processorConfig.instanceId processorConfig.leaseMs now]

def beginResult (t : TxId) (id : CheckId) (outcome : CheckOutcome) (now : Time) : List Action :=
  [.beginPersist t id processorConfig (checkResult outcome now) now, .applyEffect t id]

def failingCheck (id : CheckId) (configVersion : Nat) (now : Time) : List Action :=
  startCheck id configVersion now ++ beginResult 0 id .targetFailure now ++ [.commit 0]

/-- A check that resolves the open incident and finds one DOWN row, which it does not
replace. -/
def recoveringCheck (id : CheckId) (configVersion : Nat) (now : Time) : List Action :=
  startCheck id configVersion now ++ beginResult 0 id .success now ++
    [.resolve 0, .resolve 0, .resolve 0, .commit 0]

def downKey (incidentId : IncidentId) : OutboxKey := ⟨incidentId, 1, notificationSequence .down⟩

def claimRow (key : OutboxKey) (now : Time) : List Action :=
  [.beginClaim 0 key processorConfig.instanceId 1000 now, .commit 0]

def confirmAttempt (key : OutboxKey) (attempt : Nat) (now : Time) : List Action :=
  [.beginMarkSent 0 (key, attempt) none now now, .commit 0]

def rejectAttempt (key : OutboxKey) (attempt : Nat) (now : Time) : List Action :=
  [.markFailed (key, attempt) ⟨false, false, none, "rejected"⟩ now 2000]

end Script

namespace System

/-- The administrative transaction that is in progress under a name. -/
def monitorTx (s : System) (t : TxId) : Option MonitorTx :=
  (s.txs.get t).bind fun
    | .monitor tx => some tx
    | _ => none

theorem monitor_tx_eq_some {s : System} {t : TxId} {tx : MonitorTx} :
    s.monitorTx t = some tx ↔ s.txs.get t = some (.monitor tx) := by
  rw [monitorTx, Option.bind_eq_some_iff]
  constructor
  · rintro ⟨other, inProgress, same⟩
    cases other <;> cases same
    exact inProgress
  · intro inProgress
    exact ⟨.monitor tx, inProgress, rfl⟩

/-- The round of the scheduler that is in progress under a name. -/
def createDueTx (s : System) (t : TxId) : Option CreateDueTx :=
  (s.txs.get t).bind fun
    | .createDue tx => some tx
    | _ => none

theorem create_due_tx_eq_some {s : System} {t : TxId} {tx : CreateDueTx} :
    s.createDueTx t = some tx ↔ s.txs.get t = some (.createDue tx) := by
  rw [createDueTx, Option.bind_eq_some_iff]
  constructor
  · rintro ⟨other, inProgress, same⟩
    cases other <;> cases same
    exact inProgress
  · intro inProgress
    exact ⟨.createDue tx, inProgress, rfl⟩

end System

/-- The test of a script for a state without transactions. -/
theorem quiescent_of_free {s : System} (idle : s.free (fun _ => true) = true) : s.quiescent := by
  intro t
  cases inProgress : s.txs.get t with
  | none => rfl
  | some tx => exact absurd (System.free_iff.1 idle t tx inProgress) (by simp)

theorem reachable_of_script (actions : List Action) (test : System → Bool)
    (passed : Transition.replaySatisfies step System.initial actions fun _ s => test s) :
    ∃ s, Reachable s ∧ test s = true := by
  obtain ⟨visited, last, run, tested⟩ := Transition.run_of_replay_satisfies passed
  exact ⟨last, ⟨visited, run⟩, tested⟩

/-- A script none of whose steps is of a certain kind. -/
theorem run_of_script (actions : List Action) (avoided : System → Action → Bool)
    (test : System → Bool)
    (passed : Transition.replaySatisfies step System.initial actions fun visited s =>
      (visited.all fun pair => !avoided pair.1 pair.2) && test s) :
    ∃ visited s, Transition.Run step System.initial visited s ∧
      Transition.Along (fun s a => avoided s a = false) visited ∧ test s = true :=
  Transition.run_avoiding_of_replay passed

end LinkAlive
