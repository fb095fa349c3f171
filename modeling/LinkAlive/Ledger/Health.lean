import LinkAlive.Ledger.Checks
import LinkAlive.Domain.CheckHistory

/-!
# Health and open incidents

A monitor has an open incident exactly while its health state says so. The worker
writes both from one transition; the service resets both in one transaction.
-/

namespace LinkAlive

open Relational

set_option autoImplicit false

def IsOpen (incidents : Table IncidentId IncidentRow) (monitorId : MonitorId)
    (id : IncidentId) : Prop :=
  ∃ row, incidents.get id = some row ∧ row.monitorId = monitorId ∧ row.status = .opened

def resetState (lifecycleStatus : MonitorLifecycle) (configVersion : Nat) : MonitorState :=
  { pendingState configVersion with lifecycleStatus := lifecycleStatus }

def MonitorState.IsReset (state : MonitorState) : Prop :=
  state = resetState state.lifecycleStatus state.configVersion

structure MonitorHealthy (db : Database) (monitorId : MonitorId) : Prop where
  single : ∀ id other, IsOpen db.incidents monitorId id → IsOpen db.incidents monitorId other →
    id = other
  agrees : ∀ row, db.monitors.get monitorId = some row →
    (row.healthState.hasIncident = true ↔ ∃ id, IsOpen db.incidents monitorId id)
  owned : ∀ id, IsOpen db.incidents monitorId id → (db.monitors.get monitorId).isSome = true
  inactive : ∀ row, db.monitors.get monitorId = some row → row.lifecycleStatus ≠ .active →
    row.state.IsReset

theorem MonitorHealthy.moved {db after : Database} {monitorId : MonitorId}
    (healthy : MonitorHealthy db monitorId)
    (monitor : (after.monitors.get monitorId).map MonitorRow.state =
      (db.monitors.get monitorId).map MonitorRow.state)
    (incidents : ∀ id, IsOpen after.incidents monitorId id ↔ IsOpen db.incidents monitorId id) :
    MonitorHealthy after monitorId := by
  have states : ∀ row, after.monitors.get monitorId = some row →
      ∃ before, db.monitors.get monitorId = some before ∧ before.state = row.state := by
    intro row found
    rw [found, Option.map_some] at monitor
    exact Option.map_eq_some_iff.1 monitor.symm
  constructor
  · intro id other opened otherOpened
    exact healthy.single id other ((incidents id).1 opened) ((incidents other).1 otherOpened)
  · intro row found
    obtain ⟨before, stored, same⟩ := states row found
    have health : before.healthState = row.healthState := congrArg MonitorState.healthState same
    rw [← health, healthy.agrees before stored]
    exact exists_congr fun id => (incidents id).symm
  · intro id opened
    have present := healthy.owned id ((incidents id).1 opened)
    have same := congrArg Option.isSome monitor
    rw [Option.isSome_map, Option.isSome_map] at same
    exact same.trans present
  · intro row found inactive
    obtain ⟨before, stored, same⟩ := states row found
    have lifecycle : before.lifecycleStatus = row.lifecycleStatus :=
      congrArg MonitorState.lifecycleStatus same
    rw [← same]
    apply healthy.inactive before stored
    rw [lifecycle]
    exact inactive

theorem monitor_healthy_of_reset {db : Database} {monitorId : MonitorId}
    (reset : ∀ row, db.monitors.get monitorId = some row → row.state.IsReset)
    (idle : ∀ id, ¬ IsOpen db.incidents monitorId id) : MonitorHealthy db monitorId := by
  constructor
  · intro id other opened
    exact absurd opened (idle id)
  · intro row found
    have health : row.healthState = .pending := congrArg MonitorState.healthState (reset row found)
    rw [health]
    constructor
    · intro incident
      cases incident
    · intro opened
      obtain ⟨id, opened⟩ := opened
      exact absurd opened (idle id)
  · intro id opened
    exact absurd opened (idle id)
  · intro row found _
    exact reset row found

/-- The write that `applyIncidentEffect` makes for an effect. -/
def IncidentWrite.realizes : IncidentWrite → IncidentEffect → Prop
  | .none, .none => True
  | .create .., .opened .. => True
  | .touch .., .update _ => True
  | .resolve .., .resolve .. => True
  | _, _ => False

theorem open_incident_eq_none {db : Database} {monitorId : MonitorId} :
    openIncident db monitorId = none ↔ ∀ id, ¬ IsOpen db.incidents monitorId id := by
  constructor
  · intro found id opened
    obtain ⟨row, stored, same, isOpen⟩ := opened
    exact open_incident_none found stored same isOpen
  · intro idle
    cases found : openIncident db monitorId with
    | none => rfl
    | some entry => exact absurd ⟨entry.2, open_incident_some found⟩ (idle entry.1)

theorem persist_transition_cases {check : CheckRow} {monitor : MonitorRow}
    {result : MonitorCheckResult} {transition : Option StateTransitionResult}
    (computed : persistTransition check monitor result = some transition) :
    (persistValid check monitor = false ∧ transition = none) ∨
      ∃ returned, persistValid check monitor = true ∧ transition = some returned ∧
        applyCheckResult monitor.state (transitionInput check monitor result) = .ok returned := by
  unfold persistTransition at computed
  split at computed
  · rename_i valid
    split at computed
    · rename_i returned applied
      rw [Option.some_inj] at computed
      exact Or.inr ⟨returned, valid, computed.symm, applied⟩
    · cases computed
  · rename_i invalid
    rw [Option.some_inj] at computed
    exact Or.inl ⟨by simpa using invalid, computed.symm⟩

theorem persist_monitor_state {db : Database} {tx : PersistTx} (view : PersistView db tx) :
    (tx.transition = none ∧ tx.monitorWrite tx.monitor = tx.monitor) ∨
      ∃ transition, tx.transition = some transition ∧
        applyCheckResult tx.monitor.state (transitionInput tx.check tx.monitor tx.result) =
          .ok transition ∧
        (tx.monitorWrite tx.monitor).state = transition.state := by
  rcases persist_transition_cases view.transition with ⟨_, nothing⟩ | ⟨transition, _, some_, ok⟩
  · left
    refine ⟨nothing, ?_⟩
    rw [PersistTx.monitorWrite, nothing]
  · right
    refine ⟨transition, some_, ok, ?_⟩
    have keeps := apply_check_result_keeps ok
    have lifecycle : transition.state.lifecycleStatus = tx.monitor.lifecycleStatus := keeps.1
    have version : transition.state.configVersion = tx.monitor.configVersion := keeps.2.1
    rw [PersistTx.monitorWrite, some_]
    simp only
    cases applied : transition.applied with
    | true =>
        rw [if_pos rfl]
        split <;> simp [monitorUpdate, MonitorRow.state, ← lifecycle, ← version]
    | false =>
        rw [(keeps.2.2.2 applied).1, if_neg (by simp)]
        split <;> rfl

theorem persist_effect_fits {db : Database} {tx : PersistTx} (view : PersistView db tx) :
    tx.incidentEffect.fits tx.monitor.healthState.hasIncident
      (tx.monitorWrite tx.monitor).healthState.hasIncident := by
  unfold PersistTx.incidentEffect
  rcases persist_monitor_state view with ⟨nothing, same⟩ | ⟨transition, some_, ok, state⟩
  · rw [nothing, same]
    rfl
  · have fits := apply_check_result_fits ok
    have health : (tx.monitorWrite tx.monitor).healthState = transition.state.healthState :=
      congrArg MonitorState.healthState state
    rw [some_, health]
    simp only
    split
    · exact fits
    · rename_i ignored
      rw [((apply_check_result_keeps ok).2.2.2 (by simpa using ignored)).2] at fits
      exact fits

def IncidentWrite.leavesOpen (incidents : Table IncidentId IncidentRow) (monitorId : MonitorId)
    (id : IncidentId) : IncidentWrite → Prop
  | .none | .touch .. => IsOpen incidents monitorId id
  | .create target row =>
      if id = target then row.monitorId = monitorId ∧ row.status = .opened
      else IsOpen incidents monitorId id
  | .resolve target _ => IsOpen incidents monitorId id ∧ id ≠ target

theorem is_open_after_write {incidents after : Table IncidentId IncidentRow}
    {write : IncidentWrite} (applied : write.apply incidents = some after)
    (monitorId : MonitorId) (id : IncidentId) :
    IsOpen after monitorId id ↔ write.leavesOpen incidents monitorId id := by
  cases write with
  | none =>
      cases applied
      exact Iff.rfl
  | create target row =>
      simp only [IncidentWrite.apply, Table.insert_new_eq_some] at applied
      simp only [IsOpen, applied.2, Table.get_put, IncidentWrite.leavesOpen]
      split
      · simp
      · exact Iff.rfl
  | touch target error =>
      cases applied
      simp only [IsOpen, Table.get_update_key, IncidentWrite.leavesOpen]
      split
      · cases incidents.get id <;> simp
      · exact Iff.rfl
  | resolve target time =>
      cases applied
      simp only [IsOpen, Table.get_update_key, IncidentWrite.leavesOpen]
      split
      · rename_i same
        cases incidents.get id <;> simp [same, IncidentRow.resolved]
      · rename_i different
        simp [different]

theorem write_moves_open_incident {incidents after : Table IncidentId IncidentRow}
    {write : IncidentWrite} {effect : IncidentEffect} {monitorId : MonitorId}
    {health next : Bool} (realizes : write.realizes effect) (fits : effect.fits health next)
    (single : ∀ id other, IsOpen incidents monitorId id → IsOpen incidents monitorId other →
      id = other)
    (agrees : health = true ↔ ∃ id, IsOpen incidents monitorId id)
    (created : ∀ id row, write = .create id row → row.monitorId = monitorId ∧ row.status = .opened)
    (resolved : ∀ id time, write = .resolve id time → IsOpen incidents monitorId id)
    (applied : write.apply incidents = some after) :
    (∀ id other, IsOpen after monitorId id → IsOpen after monitorId other → id = other) ∧
      (next = true ↔ ∃ id, IsOpen after monitorId id) := by
  have opens := is_open_after_write applied monitorId
  have sameOpen : (∀ id, IsOpen after monitorId id ↔ IsOpen incidents monitorId id) →
      next = health →
      (∀ id other, IsOpen after monitorId id → IsOpen after monitorId other → id = other) ∧
        (next = true ↔ ∃ id, IsOpen after monitorId id) := by
    intro same sameHealth
    refine ⟨?_, ?_⟩
    · intro id other first second
      exact single id other ((same id).1 first) ((same other).1 second)
    · rw [sameHealth, agrees]
      exact exists_congr fun id => (same id).symm
  cases write with
  | none =>
      cases effect with
      | none => exact sameOpen opens fits
      | _ => exact absurd realizes id
  | touch target error =>
      cases effect with
      | update lastErrorType => exact sameOpen opens (fits.2.trans fits.1.symm)
      | _ => exact absurd realizes id
  | create target row =>
      cases effect with
      | opened firstFailureAt detectedAt firstErrorType lastErrorType =>
          have idle : ∀ id, ¬ IsOpen incidents monitorId id := by
            intro id isOpen
            have busy := agrees.2 ⟨id, isOpen⟩
            rw [fits.1] at busy
            cases busy
          have only : ∀ id, IsOpen after monitorId id ↔ id = target := by
            intro id
            rw [opens, IncidentWrite.leavesOpen]
            split
            · rename_i same
              simp [same, created target row rfl]
            · rename_i different
              simp [idle id, different]
          refine ⟨?_, ?_⟩
          · intro id other first second
            rw [(only id).1 first, (only other).1 second]
          · simp only [fits.2, true_iff]
            exact ⟨target, (only target).2 rfl⟩
      | _ => exact absurd realizes id
  | resolve target time =>
      cases effect with
      | resolve resolvedAt reason =>
          have none_ : ∀ id, ¬ IsOpen after monitorId id := by
            intro id isOpen
            have before := (opens id).1 isOpen
            exact before.2 (single id target before.1 (resolved target time rfl))
          refine ⟨?_, ?_⟩
          · intro id other first
            exact absurd first (none_ id)
          · rw [fits.2]
            simp [none_]
      | _ => exact absurd realizes id

/-- The incident lookup of `applyIncidentEffect` suits the effect. -/
def EffectFinds (db : Database) (tx : PersistTx) : Prop :=
  match tx.incidentEffect with
  | .opened .. => openIncident db tx.monitorId = none
  | .update _ | .resolve .. => (openIncident db tx.monitorId).isSome = true
  | .none => True
  | .cancel .. => False

theorem effect_finds {db : Database} {tx : PersistTx} (healthy : MonitorHealthy db tx.monitorId)
    (view : PersistView db tx) : EffectFinds db tx := by
  have fits := persist_effect_fits view
  have agrees := healthy.agrees tx.monitor view.monitor
  have opened : tx.monitor.healthState.hasIncident = true →
      (openIncident db tx.monitorId).isSome = true := by
    intro incident
    rw [Option.isSome_iff_ne_none]
    intro idle
    obtain ⟨id, isOpen⟩ := agrees.1 incident
    exact open_incident_eq_none.1 idle id isOpen
  have idle : tx.monitor.healthState.hasIncident = false →
      openIncident db tx.monitorId = none := by
    intro noIncident
    apply open_incident_eq_none.2
    intro id isOpen
    rw [agrees.2 ⟨id, isOpen⟩] at noIncident
    cases noIncident
  unfold EffectFinds
  cases effect : tx.incidentEffect with
  | none => trivial
  | opened firstFailureAt detectedAt firstErrorType lastErrorType =>
      rw [effect] at fits
      exact idle fits.1
  | update lastErrorType =>
      rw [effect] at fits
      exact opened fits.1
  | resolve resolvedAt reason =>
      rw [effect] at fits
      exact opened fits.1
  | cancel canceledAt reason =>
      rw [effect] at fits
      exact fits

theorem apply_effect_realizes {db : Database} {tx : PersistTx} (finds : EffectFinds db tx)
    (untouched : tx.incident = .none) (newIncidentId : IncidentId) :
    (applyIncidentEffect db tx newIncidentId).incident.realizes
      (applyIncidentEffect db tx newIncidentId).incidentEffect := by
  have kept : (applyIncidentEffect db tx newIncidentId).incidentEffect = tx.incidentEffect := by
    unfold PersistTx.incidentEffect
    rw [(apply_effect_kept newIncidentId).2.2.2.2.2]
  rw [kept]
  unfold applyIncidentEffect
  unfold EffectFinds at finds
  cases effect : tx.incidentEffect with
  | none =>
      simp only
      rw [untouched]
      trivial
  | opened firstFailureAt detectedAt firstErrorType lastErrorType =>
      rw [effect] at finds
      simp only [finds]
      trivial
  | update lastErrorType =>
      rw [effect] at finds
      obtain ⟨entry, found⟩ := Option.isSome_iff_exists.1 finds
      simp only [found]
      trivial
  | resolve resolvedAt reason =>
      rw [effect] at finds
      obtain ⟨entry, found⟩ := Option.isSome_iff_exists.1 finds
      simp only [found]
      trivial
  | cancel canceledAt reason =>
      rw [effect] at finds
      exact absurd finds id

theorem persist_commit_healthy {db after : Database} {tx : PersistTx}
    (healthy : MonitorHealthy db tx.monitorId) (view : PersistView db tx)
    (concerns : IncidentView db.incidents tx) (realizes : tx.incident.realizes tx.incidentEffect)
    (written : persistCommit db tx = some after) : MonitorHealthy after tx.monitorId := by
  obtain ⟨results, incidents, outbox, _, applied, _, rfl⟩ := persist_commit_cases written
  have fits := persist_effect_fits view
  have agrees := healthy.agrees tx.monitor view.monitor
  have stored : (db.monitors.updateKey tx.monitorId tx.monitorWrite).get tx.monitorId =
      some (tx.monitorWrite tx.monitor) := by
    rw [Table.get_update_key_self, view.monitor]
    rfl
  have only : ∀ row, (db.monitors.updateKey tx.monitorId tx.monitorWrite).get tx.monitorId =
      some row → row = tx.monitorWrite tx.monitor := by
    intro row found
    rw [stored, Option.some_inj] at found
    exact found.symm
  have inactive : (tx.monitorWrite tx.monitor).lifecycleStatus ≠ .active →
      (tx.monitorWrite tx.monitor).state.IsReset := by
    intro notActive
    rw [(monitor_write_configuration tx tx.monitor).2.2.1] at notActive
    have before := healthy.inactive tx.monitor view.monitor notActive
    rcases persist_transition_cases view.transition with ⟨_, nothing⟩ | ⟨_, valid, _, _⟩
    · rw [PersistTx.monitorWrite, nothing]
      exact before
    · simp only [persistValid, MonitorRow.isActive, Bool.and_eq_true, decide_eq_true_eq] at valid
      exact absurd valid.2.1 notActive
  have openSet := write_moves_open_incident realizes fits healthy.single agrees
    (fun id row write => concerns.created write)
    (fun id time write => concerns.target (Or.inr ⟨time, write⟩)) applied
  constructor
  · exact openSet.1
  · intro row found
    rw [only row found]
    exact openSet.2
  · intro id _
    exact Option.isSome_of_mem stored
  · intro row found
    rw [only row found]
    exact inactive

theorem runtime_incidents_idle {db : Database} {tx : MonitorTx}
    (cancels : tx.change.cancels.isSome = true) (id : IncidentId) :
    ¬ IsOpen (tx.runtimeWrite db).incidents tx.id id := by
  intro opened
  obtain ⟨row, found, same, isOpen⟩ := opened
  obtain ⟨⟨reason, attempts⟩, change⟩ := Option.isSome_iff_exists.1 cancels
  simp only [MonitorTx.runtimeWrite, change, cancelRuntime, Table.get_update_where,
    Option.map_eq_some_iff] at found
  obtain ⟨before, _, rfl⟩ := found
  by_cases selected : (before.monitorId = tx.id && before.status = .opened) = true
  · rw [if_pos selected] at isOpen
    cases isOpen
  · rw [if_neg selected] at same isOpen
    simp [same, isOpen] at selected

theorem runtime_write_quiet {db : Database} {tx : MonitorTx} (quiet : tx.change.cancels = none) :
    tx.runtimeWrite db = db := by
  rw [MonitorTx.runtimeWrite, quiet]

theorem monitor_write_resets {tx : MonitorTx} (notCreate : tx.change.isCreate = false)
    (resets : System.resets tx.change = true) (row : MonitorRow) :
    (tx.monitorWrite row).state.IsReset := by
  unfold MonitorTx.monitorWrite
  cases change : tx.change with
  | create input => simp [change, MonitorChange.isCreate] at notCreate
  | update merged found =>
      cases found with
      | none => simp [change, System.resets] at resets
      | some found => rfl
  | pause found => rfl
  | resume => rfl
  | remove found => rfl

/-- An operation that does not reset a monitor leaves its state alone. -/
theorem monitor_write_state {tx : MonitorTx} (keeps : System.resets tx.change = false)
    (row : MonitorRow) : (tx.monitorWrite row).state = row.state := by
  unfold MonitorTx.monitorWrite
  cases change : tx.change with
  | update merged found =>
      cases found with
      | none => rfl
      | some found => simp [change, System.resets] at keeps
  | _ => simp [change, System.resets] at keeps

theorem monitor_commit_healthy {db after : Database} {tx : MonitorTx}
    (healthy : MonitorHealthy db tx.id) (view : TxView db (.monitor tx))
    (written : monitorCommit db tx = some after) : MonitorHealthy after tx.id := by
  obtain ⟨_, _, _, incidents, _, _, monitors⟩ := monitor_commit_cases written
  rcases monitors with ⟨input, create, absent, stored⟩ | ⟨notCreate, stored⟩
  · have quiet : tx.change.cancels = none := by rw [create]; rfl
    apply monitor_healthy_of_reset
    · intro row found
      rw [stored, Table.get_put, if_pos rfl] at found
      cases found
      rfl
    · intro id opened
      rw [incidents, runtime_write_quiet quiet] at opened
      have present := healthy.owned id opened
      rw [absent] at present
      cases present
  · cases resets : System.resets tx.change with
    | false =>
        have quiet : tx.change.cancels = none := by
          cases change : tx.change with
          | update merged found =>
              cases found with
              | none => rfl
              | some found => simp [change, System.resets] at resets
          | _ => simp [change, System.resets] at resets
        apply healthy.moved
        · rw [stored, Table.get_update_key_self, Option.map_map]
          exact Option.map_congr fun row _ => monitor_write_state resets row
        · intro id
          rw [incidents, runtime_write_quiet quiet]
    | true =>
        apply monitor_healthy_of_reset
        · intro row found
          rw [stored, Table.get_update_key_self, Option.map_eq_some_iff] at found
          obtain ⟨before, _, rfl⟩ := found
          exact monitor_write_resets notCreate resets before
        · intro id opened
          cases cancels : tx.change.cancels with
          | some entry =>
              rw [incidents] at opened
              exact runtime_incidents_idle (by simp [cancels]) id opened
          | none =>
              -- only a resume resets without `cancelRuntime`
              have resume : tx.change = .resume := by
                cases change : tx.change with
                | create input => simp [change, MonitorChange.isCreate] at notCreate
                | update merged found =>
                    cases found with
                    | none => simp [change, System.resets] at resets
                    | some found => simp [change, MonitorChange.cancels] at cancels
                | pause found => simp [change, MonitorChange.cancels] at cancels
                | resume => rfl
                | remove found => simp [change, MonitorChange.cancels] at cancels
              rw [incidents, runtime_write_quiet cancels] at opened
              obtain ⟨row, found⟩ := Option.isSome_iff_exists.1 (healthy.owned id opened)
              have inactive := view row found
              rw [resume] at inactive
              have reset := healthy.inactive row found inactive
              have health : row.healthState = .pending :=
                congrArg MonitorState.healthState reset
              have incident := (healthy.agrees row found).2 ⟨id, opened⟩
              rw [health] at incident
              cases incident

theorem DueKept.healthy {db after : Database} (kept : DueKept db after)
    {monitorId : MonitorId} (healthy : MonitorHealthy db monitorId) :
    MonitorHealthy after monitorId := by
  apply healthy.moved
  · have same := kept.monitors monitorId
    cases before : db.monitors.get monitorId with
    | none => simpa [before] using same
    | some row =>
        obtain ⟨next, stored, unscheduled⟩ := kept.monitor before
        rw [stored, Option.map_some, Option.map_some, (unscheduled_state unscheduled).2.1]
  · intro id
    rw [kept.incidents]

theorem SameLedger.healthy {db after : Database} (same : SameLedger db after)
    {monitorId : MonitorId} (healthy : MonitorHealthy db monitorId) :
    MonitorHealthy after monitorId := by
  apply healthy.moved
  · rw [same.monitors]
  · intro id
    rw [same.incidents]

theorem LedgerCommit.healthy {db after : Database} {tx : Transaction}
    (commit : LedgerCommit db after tx) {monitorId : MonitorId}
    (free : tx.locksMonitor monitorId = false) (healthy : MonitorHealthy db monitorId) :
    MonitorHealthy after monitorId := by
  apply healthy.moved
  · rw [commit.monitors monitorId free]
  · intro id
    constructor
    · intro opened
      obtain ⟨row, found, same, isOpen⟩ := opened
      exact ⟨row, commit.incidentsNew id row found (by rw [same]; exact free), same, isOpen⟩
    · intro opened
      obtain ⟨row, found, same, isOpen⟩ := opened
      exact ⟨row, commit.incidents id row found (by rw [same]; exact free), same, isOpen⟩

structure HealthInvariant (s : System) : Prop where
  healthy : ∀ monitorId, MonitorHealthy s.db monitorId
  realizes : ∀ t tx, s.txs.get t = some (.persist tx) → tx.stage ≠ .begun →
    tx.incident.realizes tx.incidentEffect

theorem tx_commit_healthy {s : System} {t : TxId} {tx : Transaction} {db : Database}
    {attempts : Attempts} {events : List Event} (ledger : LedgerInvariant s)
    (health : HealthInvariant s) (inProgress : s.txs.get t = some tx)
    (commit : TxCommit s t tx db attempts events) (monitorId : MonitorId) :
    MonitorHealthy db monitorId := by
  have view := ledger.views t tx inProgress
  have frame := tx_commit_ledger ledger inProgress commit
  cases lock : tx.locksMonitor monitorId with
  | false => exact frame.healthy lock (health.healthy monitorId)
  | true =>
      cases commit with
      | persist tx db finished written =>
          have own : tx.monitorId = monitorId := by simpa [Transaction.locksMonitor] using lock
          rw [← own]
          exact persist_commit_healthy (health.healthy _) view.1 view.2.1
            (health.realizes t tx inProgress (by simp [finished])) written
      | createDue tx db written =>
          have kept := create_due_checks_kept written
          exact kept.healthy (health.healthy monitorId)
      | monitor tx db _ written =>
          have own : tx.id = monitorId := by simpa [Transaction.locksMonitor] using lock
          rw [← own]
          exact monitor_commit_healthy (health.healthy _) view written
      | _ => simp [Transaction.locksMonitor] at lock

theorem persist_advance_realizes {s : System} {t : TxId} {a : Action} {tx next : PersistTx}
    (ledger : LedgerInvariant s) (health : HealthInvariant s)
    (inProgress : s.txs.get t = some (.persist tx)) (advance : PersistAdvance s t tx a next) :
    next.incident.realizes next.incidentEffect := by
  have view := ledger.views t _ inProgress
  cases advance with
  | effect newIncidentId begun =>
      exact apply_effect_realizes (effect_finds (health.healthy _) view.1) (view.2.2 begun).1
        newIncidentId
  | resolve _ resolved =>
      have kept := resolve_step_kept resolved
      obtain ⟨resolution, stage⟩ := (resolve_step_stage resolved).1
      have before := health.realizes t tx inProgress (by simp [stage])
      rw [kept.2.2.2.2.2.2, PersistTx.incidentEffect, kept.2.2.2.2.2.1]
      exact before

theorem health_invariant_step {s after : System} {a : Action} (ledger : LedgerInvariant s)
    (health : HealthInvariant s) (taken : step s a = some after) : HealthInvariant after := by
  have stepped := step_cases taken
  have realizes : ∀ t tx, after.txs.get t = some (.persist tx) → tx.stage ≠ .begun →
      tx.incident.realizes tx.incidentEffect := by
    intro t tx found stage
    cases step_tx_source stepped found with
    | stayed before => exact health.realizes t tx before stage
    | advanced before next own inProgress advance same =>
        cases own
        exact persist_advance_realizes ledger health inProgress advance
    | begun jobs attempts unused begun same =>
        cases begun with
        | persist job id check original config result databaseTime tx running started free =>
            exact absurd (persist_begin_fresh started).1 stage
  refine ⟨?_, realizes⟩
  intro id
  cases stepped with
  | channel _ _ _ channels =>
      have same : SameLedger s.db { s.db with channels := channels } := ⟨rfl, rfl, rfl, rfl⟩
      exact same.healthy (health.healthy id)
  | ledger => exact (health.healthy id).moved rfl fun _ => Iff.rfl
  | began => exact health.healthy id
  | advanced => exact health.healthy id
  | failed => exact (mark_failed_same_ledger _ _ _ _ _).healthy (health.healthy id)
  | dispatcher _ outbox =>
      have same : SameLedger s.db { s.db with outbox := outbox } := ⟨rfl, rfl, rfl, rfl⟩
      exact same.healthy (health.healthy id)
  | committed t tx db attempts events inProgress commit =>
      exact tx_commit_healthy ledger health inProgress commit id
  | aborted => exact health.healthy id

theorem health_invariant_initial : HealthInvariant System.initial := by
  constructor
  · intro monitorId
    apply monitor_healthy_of_reset
    · intro row found
      cases found
    · intro id opened
      obtain ⟨row, found, _⟩ := opened
      cases found
  · intro t tx found
    cases found

theorem health_invariant_reachable {s : System} (reachable : Reachable s) : HealthInvariant s := by
  apply reachable.invariant_with LedgerInvariant HealthInvariant
  · intro state holds
    exact ledger_invariant_reachable holds
  · exact health_invariant_initial
  · intro state label after ledger health taken
    exact health_invariant_step ledger health taken

structure HealthAgreement (s : System) : Prop where
  atMostOne : ∀ monitorId id other, IsOpen s.db.incidents monitorId id →
    IsOpen s.db.incidents monitorId other → id = other
  openIff : ∀ monitorId row, s.db.monitors.get monitorId = some row →
    ((∃ id, IsOpen s.db.incidents monitorId id) ↔
      row.healthState = .down ∨ row.healthState = .recovering)
  inactive : ∀ monitorId row, s.db.monitors.get monitorId = some row →
    row.lifecycleStatus ≠ .active →
      (∀ id, ¬ IsOpen s.db.incidents monitorId id) ∧ row.healthState = .pending ∧
        row.consecutiveFailures = 0 ∧ row.consecutiveSuccesses = 0
  effectFinds : ∀ t tx, s.txs.get t = some (.persist tx) → EffectFinds s.db tx

theorem health_agrees_with_incidents {s : System} (reachable : Reachable s) :
    HealthAgreement s := by
  have ledger := ledger_invariant_reachable reachable
  have health := health_invariant_reachable reachable
  constructor
  · intro monitorId
    exact (health.healthy monitorId).single
  · intro monitorId row found
    rw [← (health.healthy monitorId).agrees row found]
    simp [MonitorHealth.hasIncident]
  · intro monitorId row found inactive
    have reset := (health.healthy monitorId).inactive row found inactive
    have pending : row.healthState = .pending := congrArg MonitorState.healthState reset
    refine ⟨?_, pending, congrArg MonitorState.consecutiveFailures reset,
      congrArg MonitorState.consecutiveSuccesses reset⟩
    intro id opened
    have incident := ((health.healthy monitorId).agrees row found).2 ⟨id, opened⟩
    rw [pending] at incident
    cases incident
  · intro t tx inProgress
    exact effect_finds (health.healthy tx.monitorId) (ledger.views t _ inProgress).1

/-- A monitor with an open incident while the resolving transaction is in progress. -/
theorem health_agrees_with_incidents_sample :
    ∃ s, HealthAgreement s ∧
      (match s.txs.get 0 with
        | some (.persist tx) => tx.incidentEffect = .resolve 61010 .recovered
        | _ => False) := by
  obtain ⟨s, reachable, tested⟩ := reachable_of_script
    (Script.setUp ++ Script.failingCheck 1 1 1000 ++ Script.startCheck 2 1 61000 ++
      Script.beginResult 0 2 .success 61000)
    (fun s => match s.txs.get 0 with
      | some (.persist tx) => tx.incidentEffect = .resolve 61010 .recovered
      | _ => false) (by decide +kernel)
  refine ⟨s, health_agrees_with_incidents reachable, ?_⟩
  split at tested
  · exact of_decide_eq_true tested
  · cases tested

end LinkAlive
