import LinkAlive.Network.Summaries

/-!
# Observations and configurations

An observation keeps the configuration version of the check that created it. A result that
is suppressed later in the same outage, under a newer configuration, finds the observation
there and leaves it as it is: the summaries then skip the monitor, and no later check settles
its observation.
-/

namespace LinkAlive.Network

set_option autoImplicit false

open Relational

/-- What a commit registers a suppressed result for: the outage, the monitor, and the version
of its configuration. -/
def NetworkSystem.registering (s : NetworkSystem) : Action → Option (OutageId × MonitorId × Nat)
  | .core (.commit t) =>
      match s.core.txs.get t with
      | some (.persist tx) =>
          if registers tx then
            (s.registrations.get t).map fun id => (id, tx.monitorId, tx.check.configVersion)
          else none
      | _ => none
  | _ => none

/-- This commit persists a second check of the configuration: it began after the outage, and
nothing has canceled it. -/
structure ChecksAgain (s : NetworkSystem) (a : Action) (outageId : OutageId)
    (monitorId : MonitorId) (version : Nat) : Prop where
  committed : ∃ t tx outage recoveredAt, a = .core (.commit t) ∧
    s.core.txs.get t = some (.persist tx) ∧ tx.config.networkGuard = true ∧
      tx.check.status ≠ .canceled ∧
      (tx.result.outcome = .success ∨ tx.result.outcome = .targetFailure) ∧
      tx.monitorId = monitorId ∧ tx.check.configVersion = version ∧
      s.net.outages.get outageId = some outage ∧ outage.recoveredAt = some recoveredAt ∧
      recoveredAt ≤ tx.result.startedAt

def NetworkSystem.isCurrent (s : NetworkSystem) (monitorId : MonitorId) (version : Nat) : Bool :=
  (s.core.db.monitors.get monitorId).any fun monitor =>
    monitor.isActive && monitor.configVersion = version

def SummaryTx.skipped (tx : SummaryTx) (monitors : Table MonitorId MonitorRow) : List MonitorId :=
  (tx.observations.filter (isSkipped monitors)).map Prod.fst

structure Followed (config : NetworkConfig) (s : NetworkSystem) (outageId : OutageId)
    (monitorId : MonitorId) (version : Nat) : Prop where
  counted : ∃ row, s.net.observations.get (outageId, monitorId) = some row ∧
    isSkipped s.core.db.monitors (monitorId, row) = false
  summarized : ∀ tx, summaryView s.net s.core.db s.clock outageId = some tx →
    monitorId ∈ tx.observations.map Prod.fst ∧ monitorId ∉ tx.skipped s.core.db.monitors ∧
      (tx.skipped s.core.db.monitors).length =
        (summaryCounts tx.observations tx.pending.length).skipped
  rechecked : ∀ a after, step config s a = some after →
    ChecksAgain s a outageId monitorId version →
      ∃ row, after.net.observations.get (outageId, monitorId) = some row ∧
        row.recheckedAt.isSome = true

def NetworkObservationRow.Follows (row : NetworkObservationRow) (version : Nat) : Prop :=
  row.configVersion = version ∨ row.recheckedAt.isSome = true

theorem ObservationKept.follows {row next : NetworkObservationRow} (kept : ObservationKept row next)
    {version : Nat} (follows : row.Follows version) : next.Follows version := by
  rcases follows with same | rechecked
  · exact Or.inl (kept.version.trans same)
  · exact Or.inr (kept.rechecked rechecked)

/-- A result that is not a second check changes no stored observation. -/
theorem persist_inconclusive {net : NetworkDatabase} (registration : Option OutageId)
    {tx : PersistTx} (registering : registers tx = true) {key : OutageId × MonitorId}
    {row : NetworkObservationRow} (stored : net.observations.get key = some row) :
    (persistObservations net registration tx).observations.get key = some row := by
  have idle : rechecks tx = false := by
    rw [registers, Bool.and_eq_true, decide_eq_true_eq] at registering
    simp [rechecks, registering.2]
  have settles : ∀ middle : NetworkDatabase, middle.observations.get key = some row →
      (recheckObservations middle tx).get key = some row := by
    intro middle held
    rw [recheckObservations, Table.get_update_where, held, idle]
    rfl
  cases registration with
  | none => exact settles net stored
  | some id => exact settles _ (register_stored id tx stored)

theorem persist_registers (net : NetworkDatabase) (outageId : OutageId) {tx : PersistTx}
    (registering : registers tx = true) :
    ∃ row, (persistObservations net (some outageId) tx).observations.get
        (outageId, tx.monitorId) = some row ∧
      (net.observations.get (outageId, tx.monitorId) = some row ∨
        net.observations.get (outageId, tx.monitorId) = none ∧
          row.configVersion = tx.check.configVersion) := by
  cases stored : net.observations.get (outageId, tx.monitorId) with
  | some row => exact ⟨row, persist_inconclusive (some outageId) registering stored, Or.inl rfl⟩
  | none =>
      have created : (registerObservation net.observations outageId tx).get
          (outageId, tx.monitorId) = some (newObservation tx.check.configVersion) := by
        rw [registerObservation, registering, stored]
        simp [Table.get_put]
      obtain ⟨next, found, kept⟩ := recheck_kept
        { net with observations := registerObservation net.observations outageId tx } tx created
      exact ⟨next, found, Or.inr ⟨rfl, kept.version⟩⟩

section Run

variable {config : NetworkConfig} {visited : List (NetworkSystem × Action)}
  {s after : NetworkSystem} {a : Action}

theorem registering_cases {outageId : OutageId} {monitorId : MonitorId} {version : Nat}
    (registered : s.registering a = some (outageId, monitorId, version)) :
    ∃ t tx, a = .core (.commit t) ∧ s.core.txs.get t = some (.persist tx) ∧
      registers tx = true ∧ s.registrations.get t = some outageId ∧ tx.monitorId = monitorId ∧
        tx.check.configVersion = version := by
  unfold NetworkSystem.registering at registered
  split at registered
  · rename_i t
    split at registered
    · rename_i tx inProgress
      simp only [Option.ite_none_right_eq_some, Option.map_eq_some_iff, Prod.mk.injEq]
        at registered
      obtain ⟨valid, id, found, rfl, monitor, configVersion⟩ := registered
      exact ⟨t, tx, rfl, inProgress, valid, found, monitor, configVersion⟩
    · cases registered
  · cases registered

theorem registering_current (run : Transition.Run (step config) NetworkSystem.initial visited s)
    (taken : step config s a = some after) {outageId : OutageId} {monitorId : MonitorId}
    {version : Nat} (registered : s.registering a = some (outageId, monitorId, version)) :
    after.isCurrent monitorId version = true := by
  obtain ⟨t, tx, rfl, inProgress, valid, -, rfl, rfl⟩ := registering_cases registered
  obtain ⟨view, judged⟩ := persist_read run inProgress
  obtain ⟨-, written⟩ := persist_commits taken inProgress
  obtain ⟨results, incidents, outbox, -, -, -, same⟩ := persist_commit_cases written
  obtain ⟨isActive, configVersion, -, -⟩ := monitor_write_configuration tx tx.monitor
  rw [registers, Bool.and_eq_true, Bool.and_eq_true, judged] at valid
  simp only [persistValid, Bool.and_eq_true, decide_eq_true_eq] at valid
  rw [NetworkSystem.isCurrent, same]
  dsimp only
  rw [Table.get_update_key_self, view.monitor, Option.map_some, Option.any_some, isActive,
    configVersion, valid.1.1.2, valid.1.1.1.2]
  simp

/-- An observation is counted exactly as long as it follows the configuration. -/
theorem not_skipped_iff {monitors : Table MonitorId MonitorRow} {monitorId : MonitorId}
    {row : NetworkObservationRow} {version : Nat} (settled : row.Settled)
    (current : (monitors.get monitorId).any (fun monitor =>
      monitor.isActive && monitor.configVersion = version) = true) :
    isSkipped monitors (monitorId, row) = false ↔ row.Follows version := by
  obtain ⟨monitor, stored, same⟩ := (Option.any_eq_true _ _).1 current
  rw [Bool.and_eq_true, decide_eq_true_eq] at same
  have pending : isPending monitors (monitorId, row) = true ↔
      row.recheckedAt = none ∧ version = row.configVersion := by
    rw [isPending, stored, Option.any_some, same.1, same.2]
    simp
  have skipped : isSkipped monitors (monitorId, row) = false ↔
      isPending monitors (monitorId, row) = true ∨
        row.outcome = some .success ∨ row.outcome = some .targetFailure := by
    rw [isSkipped]
    simp only [Bool.and_eq_false_iff, Bool.not_eq_false', decide_eq_false_iff_not, ne_eq,
      not_not, or_assoc]
  have checkedAgain : row.outcome = some .success ∨ row.outcome = some .targetFailure ↔
      row.recheckedAt.isSome = true := settled.symm
  rw [skipped, pending, checkedAgain]
  constructor
  · rintro (⟨-, same⟩ | checked)
    · exact Or.inl same.symm
    · exact Or.inr checked
  · rintro (same | checked)
    · cases checked : row.recheckedAt with
      | none => exact Or.inl ⟨rfl, same.symm⟩
      | some time => exact Or.inr rfl
    · exact Or.inr checked

theorem recheck_settles {net : NetworkDatabase} {tx : PersistTx} (rechecking : rechecks tx = true)
    {outageId : OutageId} {outage : NetworkOutageRow} {recoveredAt : Time}
    (stored : net.outages.get outageId = some outage)
    (recovered : outage.recoveredAt = some recoveredAt)
    (later : recoveredAt ≤ tx.result.startedAt) {row : NetworkObservationRow}
    (found : net.observations.get (outageId, tx.monitorId) = some row)
    (follows : row.Follows tx.check.configVersion) :
    ∃ next, (recheckObservations net tx).get (outageId, tx.monitorId) = some next ∧
      next.recheckedAt.isSome = true := by
  rw [recheckObservations, Table.get_update_where, found, Option.map_some]
  refine ⟨_, rfl, ?_⟩
  cases checked : row.recheckedAt with
  | some time =>
      simp [checked]
  | none =>
      have same : row.configVersion = tx.check.configVersion :=
        follows.resolve_right (by rw [checked]; exact Bool.false_ne_true)
      simp [rechecking, same, stored, recovered, later]

/-- An observation that follows the configuration does so in every later state. -/
theorem follows_run {later : List (NetworkSystem × Action)} {last : NetworkSystem}
    (run : Transition.Run (step config) after later last) {outageId : OutageId}
    {monitorId : MonitorId} {version : Nat}
    (first : ∃ row, after.net.observations.get (outageId, monitorId) = some row ∧
      row.Follows version) :
    ∃ row, last.net.observations.get (outageId, monitorId) = some row ∧ row.Follows version := by
  apply run.preserves (fun _ _ => True)
    (fun state => ∃ row, state.net.observations.get (outageId, monitorId) = some row ∧
      row.Follows version) first
  · rintro state label next ⟨row, stored, follows⟩ - taken
    obtain ⟨kept, found, keeps⟩ := step_observation_kept taken stored
    exact ⟨kept, found, keeps.follows follows⟩
  · exact fun _ _ _ => trivial

/-- An observation that follows the configuration is counted, and its next check settles it. -/
theorem followed_of_follows (run : Transition.Run (step config) NetworkSystem.initial visited s)
    {outageId : OutageId} {monitorId : MonitorId} {version : Nat}
    (current : s.isCurrent monitorId version = true) {row : NetworkObservationRow}
    (stored : s.net.observations.get (outageId, monitorId) = some row)
    (follows : row.Follows version) : Followed config s outageId monitorId version := by
  have settled := (summary_invariant_run run).settled _ row stored
  have counted : isSkipped s.core.db.monitors (monitorId, row) = false :=
    (not_skipped_iff settled current).2 follows
  constructor
  case counted => exact ⟨row, stored, counted⟩
  case summarized =>
    intro tx viewed
    obtain ⟨-, -, -, -, -, observations, pending, -⟩ := summary_view_reads viewed
    refine ⟨?_, ?_, ?_⟩
    · rw [observations]
      apply mem_observations_of.2
      rw [observed, stored]
      rfl
    · intro skipped
      obtain ⟨entry, member, rfl⟩ := List.mem_map.1 skipped
      obtain ⟨listed, skips⟩ := List.mem_filter.1 member
      rw [observations] at listed
      have same := mem_observations_entry listed
      rw [stored, Option.some.injEq] at same
      rw [same] at counted
      exact Bool.false_ne_true (counted.symm.trans skips)
    · rw [SummaryTx.skipped, pending, List.length_map, List.length_map]
      apply (summary_counts_skipped s.core.db.monitors _).symm
      intro entry listed
      rw [observations] at listed
      exact (summary_invariant_run run).settled _ _ (mem_observations_entry listed)
  case rechecked =>
    intro b next taken again
    obtain ⟨t, tx, outage, recoveredAt, rfl, inProgress, guarded, uncanceled, outcome, rfl, rfl,
      present, recovered, later⟩ := again
    obtain ⟨view, judged⟩ := persist_read run inProgress
    obtain ⟨written, -⟩ := persist_commits taken inProgress
    have valid : tx.valid = true := by
      rw [NetworkSystem.isCurrent, view.monitor, Option.any_some, Bool.and_eq_true,
        decide_eq_true_eq] at current
      rw [judged, persistValid, view.status.resolve_right uncanceled, current.1, current.2]
      simp
    have rechecking : rechecks tx = true := by
      rw [rechecks, valid, guarded]
      simpa using outcome
    rw [written]
    cases registration : s.registrations.get t with
    | none =>
        exact recheck_settles rechecking present recovered later stored follows
    | some id =>
        exact recheck_settles rechecking present recovered later (register_stored id tx stored)
          follows

/-- A registered result is followed through the rest of the run exactly when its registration
finds no unchecked observation of another version. -/
theorem observation_followed_iff
    (run : Transition.Run (step config) NetworkSystem.initial visited s)
    (taken : step config s a = some after) {outageId : OutageId} {monitorId : MonitorId}
    {version : Nat} (registered : s.registering a = some (outageId, monitorId, version)) :
    (∀ later last, Transition.Run (step config) after later last →
      last.isCurrent monitorId version = true →
        Followed config last outageId monitorId version) ↔
    ∀ row, s.net.observations.get (outageId, monitorId) = some row → row.Follows version := by
  obtain ⟨t, tx, rfl, inProgress, registering, held, rfl, rfl⟩ := registering_cases registered
  obtain ⟨written, -⟩ := persist_commits taken inProgress
  rw [held] at written
  have current := registering_current run taken registered
  constructor
  · intro followed row stored
    obtain ⟨found, present, counted⟩ := (followed [] after .start current).counted
    have kept := persist_inconclusive (some outageId) registering stored
    rw [← written, present, Option.some.injEq] at kept
    subst kept
    have settled := (summary_invariant_run (run.next taken)).settled _ found present
    exact (not_skipped_iff settled current).1 counted
  · intro follows later last continued isCurrent
    have first : ∃ row, after.net.observations.get (outageId, tx.monitorId) = some row ∧
        row.Follows tx.check.configVersion := by
      obtain ⟨row, found, origin⟩ := persist_registers s.net outageId registering
      rw [written]
      refine ⟨row, found, ?_⟩
      rcases origin with stored | ⟨-, same⟩
      · exact follows row stored
      · exact Or.inl same
    obtain ⟨row, stored, still⟩ := follows_run continued first
    exact followed_of_follows ((run.next taken).trans continued) isCurrent stored still

end Run

namespace Script

def retime : MonitorRequest :=
  .update
    { name := none
      url := none
      method := none
      intervalSec := none
      timeoutMs := some 5000
      expectedStatusMin := none
      expectedStatusMax := none
      expectedKeyword := none
      followRedirects := none
      maxRedirects := none
      failureThreshold := none
      recoveryThreshold := none
      channelIds := none }

/-- A check gets no response during an outage; its result is about to be registered. -/
def suppressed (id : CheckId) (configVersion : Nat) (now : Time) : List Action :=
  (LinkAlive.Script.startCheck id configVersion now).map .core ++ [.assess id 2 (unanswered now),
    .core (.beginPersist 0 id guarded (inconclusiveNetworkResult (unanswered now)) now),
    .core (.applyEffect 0 id)]

def firstSuppressed : List Action :=
  createMonitor 61257 ++ [.saveSettings references, .tick 61257] ++ probe 1 2 offline ++
    record 1 1 ++ suppressed 1 1 61257

/-- The monitor is changed while the outage goes on, and its next check is suppressed too. -/
def changed : List Action :=
  [.core (.commit 0), .tick 62000, .core (.beginMonitor 0 1 retime 62000 121257),
    .core (.commit 0), .tick 121257] ++ probe 2 2 offline ++ record 2 2 ++ suppressed 2 2 121257

def recovered : List Action := [.tick 125000] ++ probe 3 2 online ++ record 3 3

end Script

/-- The first suppressed result of an outage is followed. -/
theorem observation_followed_sample :
    ∃ visited s after, Transition.Run (step Script.config) NetworkSystem.initial visited s ∧
      step Script.config s (.core (.commit 0)) = some after ∧
      s.registering (.core (.commit 0)) = some (1, 1, 1) ∧
      ∀ later last, Transition.Run (step Script.config) after later last →
        last.isCurrent 1 1 = true → Followed Script.config last 1 1 1 := by
  have passed : Transition.replaySatisfies (step Script.config) NetworkSystem.initial
      Script.firstSuppressed (fun _ s =>
        decide (s.registering (.core (.commit 0)) = some (1, 1, 1)) &&
          decide (s.net.observations.get (1, 1) = none) &&
          (step Script.config s (.core (.commit 0))).isSome) = true := by decide +kernel
  obtain ⟨visited, s, run, tested⟩ := Transition.run_of_replay_satisfies passed
  simp only [Bool.and_eq_true, decide_eq_true_eq] at tested
  obtain ⟨⟨registered, absent⟩, committed⟩ := tested
  obtain ⟨after, taken⟩ := Option.isSome_iff_exists.1 committed
  refine ⟨visited, s, after, run, taken, registered, ?_⟩
  apply (observation_followed_iff run taken registered).2
  intro row stored
  rw [absent] at stored
  cases stored

/-- The second result is registered under version 2, and the monitor keeps this version. The
summary skips it all the same. -/
theorem observation_skipped :
    ∃ visited s after later last tx,
      Transition.Run (step Script.config) NetworkSystem.initial visited s ∧
        step Script.config s (.core (.commit 0)) = some after ∧
        s.registering (.core (.commit 0)) = some (1, 1, 2) ∧
        Transition.Run (step Script.config) after later last ∧
        Transition.Along (fun state _ => state.isCurrent 1 2 = true) later ∧
        last.isCurrent 1 2 = true ∧
        summaryView last.net last.core.db last.clock 1 = some tx ∧
        1 ∈ tx.skipped last.core.db.monitors := by
  have passed : Transition.replaySatisfies (step Script.config) NetworkSystem.initial
      (Script.firstSuppressed ++ Script.changed) (fun _ s =>
        decide (s.registering (.core (.commit 0)) = some (1, 1, 2)) &&
          (step Script.config s (.core (.commit 0))).any fun after =>
            Transition.replaySatisfies (step Script.config) after Script.recovered
              fun later last => (later.all fun pair => pair.1.isCurrent 1 2) &&
                last.isCurrent 1 2 &&
                (summaryView last.net last.core.db last.clock 1).any fun tx =>
                  decide (1 ∈ tx.skipped last.core.db.monitors)) = true := by decide +kernel
  obtain ⟨visited, s, run, tested⟩ := Transition.run_of_replay_satisfies passed
  rw [Bool.and_eq_true, decide_eq_true_eq] at tested
  obtain ⟨registered, committed⟩ := tested
  obtain ⟨after, taken, continues⟩ := (Option.any_eq_true _ _).1 committed
  obtain ⟨later, last, continued, summarized⟩ := Transition.run_of_replay_satisfies continues
  rw [Bool.and_eq_true, Bool.and_eq_true, List.all_eq_true] at summarized
  obtain ⟨⟨stays, current⟩, skipped⟩ := summarized
  obtain ⟨tx, viewed, member⟩ := (Option.any_eq_true _ _).1 skipped
  refine ⟨visited, s, after, later, last, tx, run, taken, registered, continued, ?_, current,
    viewed, of_decide_eq_true member⟩
  intro state label pair
  exact stays (state, label) pair

end LinkAlive.Network
