import LinkAlive.Network.System
import LinkAlive.System.Script

/-!
# Scripts with network guards

The actions of a guard's inspection, for concrete runs.
-/

namespace LinkAlive.Network

open Relational

set_option autoImplicit false

namespace Script

def config : NetworkConfig where
  observer _ := 1
  text _ := "monitor"

def references : NetworkSettingsRow where
  enabled := true
  urls := ["https://one.example", "https://two.example"]
  channelIds := []
  version := 0

def unanswered (startedAt : Time) : MonitorCheckResult :=
  { LinkAlive.Script.checkResult .targetFailure startedAt with
    statusCode := none
    ttfbMs := none
    errorType := some .dnsError }

def online : List MonitorCheckResult := [LinkAlive.Script.checkResult .success 0, unanswered 0]

def offline : List MonitorCheckResult := [unanswered 0, unanswered 0]

def probe (i : InspectionId) (worker : WorkerId) (results : List MonitorCheckResult) :
    List Action :=
  [.inspect i worker, .startProbe i, .finishProbe i results, .openInspection i]

def record (i : InspectionId) (newId : OutageId) : List Action :=
  [.lockObserver i, .writeInspection i newId, .commitInspection i, .deliver i]

/-- A first inspection, which creates the observer. -/
def setUp : List Action := .saveSettings references :: (probe 1 1 online ++ record 1 1)

def guarded : CheckProcessorConfig :=
  { LinkAlive.Script.processorConfig with networkGuard := true }

/-- Channel 1 and monitor 1, whose first slot is this one. -/
def createMonitor (initialNextCheckAt : Time) : List Action :=
  [.core (.createChannel 1 "ops" LinkAlive.Script.channelConfig),
    .core (.beginMonitor 0 1 (.create (LinkAlive.Script.monitorInput [1])) 0 initialNextCheckAt),
    .core (.commit 0)]

/-- The scheduler creates a check of monitor 1, a worker claims and runs it. -/
def startCheck (id : CheckId) (now : Time) : List Action :=
  (LinkAlive.Script.startCheck id 1 now).map .core

def persist (id : CheckId) (result : MonitorCheckResult) (now : Time) : List Action :=
  [.core (.beginPersist 0 id guarded result now), .core (.applyEffect 0 id), .core (.commit 0)]

theorem reachable (actions : List Action) (test : NetworkSystem → Bool)
    (passed : Transition.replaySatisfies (step config) NetworkSystem.initial actions
      (fun _ s => test s) = true) : ∃ s, Reachable config s ∧ test s = true := by
  obtain ⟨visited, s, run, tested⟩ := Transition.run_of_replay_satisfies passed
  exact ⟨s, ⟨visited, run⟩, tested⟩

/-- A script none of whose steps is of a certain kind. -/
theorem run_avoiding (actions : List Action) (avoided : NetworkSystem → Action → Bool)
    (test : NetworkSystem → Bool)
    (passed : Transition.replaySatisfies (step config) NetworkSystem.initial actions
      (fun visited s => (visited.all fun pair => !avoided pair.1 pair.2) && test s) = true) :
    ∃ visited s, Transition.Run (step config) NetworkSystem.initial visited s ∧
      Transition.Along (fun s a => avoided s a = false) visited ∧ test s = true :=
  Transition.run_avoiding_of_replay passed

end Script

end LinkAlive.Network
