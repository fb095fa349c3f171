import LinkAlive.Ledger.MonitorRows
import LinkAlive.Network.Observations

/-!
# Rows of observations

No step removes an observation or changes its version. A second check settles it; only a
registration creates one, under the version that its monitor has at that moment.
-/

namespace LinkAlive.Network

set_option autoImplicit false

open Relational

structure ObservationKept (row next : NetworkObservationRow) : Prop where
  version : next.configVersion = row.configVersion
  rechecked : row.recheckedAt.isSome = true → next.recheckedAt.isSome = true

theorem ObservationKept.refl (row : NetworkObservationRow) : ObservationKept row row :=
  ⟨rfl, fun held => held⟩

theorem register_stored {observations : Table (OutageId × MonitorId) NetworkObservationRow}
    (outageId : OutageId) (tx : PersistTx) {key : OutageId × MonitorId}
    {row : NetworkObservationRow} (stored : observations.get key = some row) :
    (registerObservation observations outageId tx).get key = some row := by
  unfold registerObservation
  split
  · rename_i creates
    rw [Bool.and_eq_true, Option.isNone_iff_eq_none] at creates
    rw [Table.get_put, if_neg]
    · exact stored
    · rintro rfl
      rw [creates.2] at stored
      cases stored
  · exact stored

theorem recheck_kept (net : NetworkDatabase) (tx : PersistTx) {key : OutageId × MonitorId}
    {row : NetworkObservationRow} (stored : net.observations.get key = some row) :
    ∃ next, (recheckObservations net tx).get key = some next ∧ ObservationKept row next := by
  rw [recheckObservations, Table.get_update_where, stored]
  refine ⟨_, rfl, ?_⟩
  dsimp only
  split
  · exact ⟨rfl, fun _ => rfl⟩
  · exact .refl row

theorem persist_observation_kept {net : NetworkDatabase} (registration : Option OutageId)
    (tx : PersistTx) {key : OutageId × MonitorId} {row : NetworkObservationRow}
    (stored : net.observations.get key = some row) :
    ∃ next, (persistObservations net registration tx).observations.get key = some next ∧
      ObservationKept row next := by
  cases registration with
  | none => exact recheck_kept net tx stored
  | some id => exact recheck_kept _ tx (register_stored id tx stored)

theorem step_observation_kept {config : NetworkConfig} {s after : NetworkSystem} {a : Action}
    (taken : step config s a = some after) {key : OutageId × MonitorId}
    {row : NetworkObservationRow} (stored : s.net.observations.get key = some row) :
    ∃ next, after.net.observations.get key = some next ∧ ObservationKept row next := by
  rcases step_observations taken with same | ⟨t, tx, -, -, written⟩
  · rw [same]
    exact ⟨row, stored, .refl row⟩
  · rw [written]
    exact persist_observation_kept (s.registrations.get t) tx stored

theorem apply_effect_valid (db : Database) (tx : PersistTx) (newIncidentId : IncidentId) :
    (applyIncidentEffect db tx newIncidentId).valid = tx.valid := by
  unfold applyIncidentEffect
  split
  · rfl
  · split <;> rfl
  · split <;> rfl
  · split <;> rfl
  · rfl

theorem advance_valid {s : System} {t : TxId} {tx next : PersistTx} {a : LinkAlive.Action}
    (advance : PersistAdvance s t tx a next) : next.valid = tx.valid := by
  cases advance with
  | effect newIncidentId => exact apply_effect_valid s.db tx newIncidentId
  | resolve _ resolved =>
      obtain ⟨resolution, -, move⟩ := resolve_step_cases resolved
      cases move <;> rfl

/-- A persist transaction judges its result by the rows that it has read. -/
def ValidRead (s : System) : Prop :=
  ∀ t tx, s.txs.get t = some (.persist tx) → tx.valid = persistValid tx.check tx.monitor

theorem valid_read_step {s after : System} {a : LinkAlive.Action} (read : ValidRead s)
    (stepped : LinkAlive.Stepped s a after) : ValidRead after := by
  intro t tx found
  cases step_tx_source stepped found with
  | stayed same => exact read t tx same
  | advanced before next isPersist earlier advance =>
      cases isPersist
      obtain ⟨-, -, check, monitor, -, -⟩ := advance_kept advance
      rw [advance_valid advance, check, monitor]
      exact read t before earlier
  | begun jobs attempts unused begun =>
      cases begun with
      | persist job id check original config result databaseTime _ running started =>
          simp only [persistBegin, Option.bind_eq_bind, Option.bind_eq_some_iff] at started
          obtain ⟨row, -, started⟩ := started
          split at started
          · cases started
          · simp only [Option.bind_eq_some_iff] at started
            obtain ⟨monitor, -, transition, -, built⟩ := started
            cases built
            rfl

theorem core_step {config : NetworkConfig} {s after : NetworkSystem} {a : LinkAlive.Action}
    (taken : step config s (.core a) = some after) :
    ∃ core, LinkAlive.step s.core a = some core ∧ after.core = core := by
  simp only [step, NetworkSystem.ledger, Option.bind_eq_bind, Option.bind_eq_some_iff,
    Option.ite_none_right_eq_some] at taken
  obtain ⟨core, stepped, -, followed⟩ := taken
  exact ⟨core, stepped, (follow_frame followed).2⟩

theorem network_valid_read_step {config : NetworkConfig} {s after : NetworkSystem} {a : Action}
    (read : ValidRead s.core) (taken : step config s a = some after) : ValidRead after.core := by
  cases a with
  | core b =>
      obtain ⟨core, stepped, same⟩ := core_step taken
      rw [same]
      exact valid_read_step read (LinkAlive.step_cases stepped)
  | _ =>
      rcases (step_guards taken (by simp)).2 with same | ⟨ids, time, same⟩
      · rw [same]
        exact read
      · rw [same]
        exact read

theorem persist_commits {config : NetworkConfig} {s after : NetworkSystem} {t : TxId}
    {tx : PersistTx} (taken : step config s (.core (.commit t)) = some after)
    (inProgress : s.core.txs.get t = some (.persist tx)) :
    after.net = persistObservations s.net (s.registrations.get t) tx ∧
      persistCommit s.core.db tx = some after.core.db := by
  simp only [step, NetworkSystem.ledger, Option.bind_eq_bind, Option.bind_eq_some_iff,
    Option.ite_none_right_eq_some] at taken
  obtain ⟨core, stepped, -, followed⟩ := taken
  simp only [NetworkSystem.follow, inProgress, Option.some.injEq] at followed
  subst followed
  refine ⟨rfl, ?_⟩
  obtain ⟨db, attempts, events, commit, rfl⟩ :=
    commit_step_cases (LinkAlive.step_cases stepped) inProgress
  cases commit with
  | persist _ _ finished written => exact written

section Run

variable {config : NetworkConfig} {visited : List (NetworkSystem × Action)} {s : NetworkSystem}

theorem persist_read (run : Transition.Run (step config) NetworkSystem.initial visited s)
    {t : TxId} {tx : PersistTx} (inProgress : s.core.txs.get t = some (.persist tx)) :
    PersistView s.core.db tx ∧ tx.valid = persistValid tx.check tx.monitor := by
  have reachable : Reachable config s := ⟨visited, run⟩
  have guarded : GuardedLedger s := reachable.invariant GuardedLedger guarded_ledger_initial
    fun _ _ _ holds taken => guarded_ledger_step holds taken
  have read : ValidRead s.core := by
    apply reachable.invariant fun state => ValidRead state.core
    · intro u ux found
      cases found
    · exact fun _ _ _ holds taken => network_valid_read_step holds taken
  exact ⟨(guarded.ledger.views t (.persist tx) inProgress).1, read t tx inProgress⟩

end Run

theorem ledger_monitor_version {s after : System} {a : LinkAlive.Action}
    (stepped : LinkAlive.Stepped s a after) {id : MonitorId} {row : MonitorRow}
    (stored : s.db.monitors.get id = some row) :
    ∃ next, after.db.monitors.get id = some next ∧ row.configVersion ≤ next.configVersion := by
  obtain ⟨next, found⟩ := step_monitor_stays stepped stored
  refine ⟨next, found, ?_⟩
  cases step_monitor_row stepped found with
  | kept before =>
      rw [stored, Option.some.injEq] at before
      rw [before]
  | recorded t tx earlier _ _ _ before same =>
      rw [stored, Option.some.injEq] at before
      rw [same, (persist_monitor_write_service tx earlier).2.2, before]
  | rescheduled t tx earlier _ _ before same _ =>
      rw [stored, Option.some.injEq] at before
      rw [(unscheduled_service same).2.2, before]
  | created t tx input _ _ _ _ absent _ =>
      rw [stored] at absent
      cases absent
  | administered t tx earlier _ _ _ _ before same =>
      rw [stored, Option.some.injEq] at before
      rw [same, before]
      exact monitor_write_version tx earlier

theorem step_monitor_version {config : NetworkConfig} {s after : NetworkSystem} {a : Action}
    (taken : step config s a = some after) {id : MonitorId} {row : MonitorRow}
    (stored : s.core.db.monitors.get id = some row) :
    ∃ next, after.core.db.monitors.get id = some next ∧
      row.configVersion ≤ next.configVersion := by
  cases a with
  | core b =>
      obtain ⟨core, stepped, same⟩ := core_step taken
      rw [same]
      exact ledger_monitor_version (LinkAlive.step_cases stepped) stored
  | _ =>
      rcases (step_guards taken (by simp)).2 with same | ⟨ids, time, same⟩
      · rw [same]
        exact ⟨row, stored, Nat.le_refl _⟩
      · rw [same]
        dsimp only
        rw [get_schedule_at, stored]
        refine ⟨_, rfl, ?_⟩
        split <;> exact Nat.le_refl _

/-- What later states keep of a state: its observations and monitors, under versions that
do not go down. -/
structure Grown (earlier s : NetworkSystem) : Prop where
  observations : ∀ key row, earlier.net.observations.get key = some row →
    ∃ next, s.net.observations.get key = some next ∧ ObservationKept row next
  monitors : ∀ id row, earlier.core.db.monitors.get id = some row →
    ∃ next, s.core.db.monitors.get id = some next ∧ row.configVersion ≤ next.configVersion

theorem ObservationKept.trans {row middle next : NetworkObservationRow}
    (first : ObservationKept row middle) (second : ObservationKept middle next) :
    ObservationKept row next where
  version := second.version.trans first.version
  rechecked held := second.rechecked (first.rechecked held)

theorem Grown.refl (s : NetworkSystem) : Grown s s where
  observations _ row stored := ⟨row, stored, .refl row⟩
  monitors _ row stored := ⟨row, stored, Nat.le_refl _⟩

theorem Grown.step {config : NetworkConfig} {earlier s after : NetworkSystem} {a : Action}
    (grown : Grown earlier s) (taken : step config s a = some after) : Grown earlier after where
  observations key row stored := by
    obtain ⟨middle, present, first⟩ := grown.observations key row stored
    obtain ⟨next, found, second⟩ := step_observation_kept taken present
    exact ⟨next, found, first.trans second⟩
  monitors id row stored := by
    obtain ⟨middle, present, first⟩ := grown.monitors id row stored
    obtain ⟨next, found, second⟩ := step_monitor_version taken present
    exact ⟨next, found, first.trans second⟩

theorem persist_observation_source {net : NetworkDatabase} {registration : Option OutageId}
    {tx : PersistTx} {key : OutageId × MonitorId} {next : NetworkObservationRow}
    (found : (persistObservations net registration tx).observations.get key = some next) :
    (∃ row, net.observations.get key = some row ∧ next.configVersion = row.configVersion) ∨
      registers tx = true ∧ key.2 = tx.monitorId ∧
        next.configVersion = tx.check.configVersion := by
  have rechecked : ∀ middle : NetworkDatabase,
      (recheckObservations middle tx).get key = some next →
        ∃ row, middle.observations.get key = some row ∧
          next.configVersion = row.configVersion := by
    intro middle held
    rw [recheckObservations, Table.get_update_where, Option.map_eq_some_iff] at held
    obtain ⟨row, present, rfl⟩ := held
    refine ⟨row, present, ?_⟩
    split <;> rfl
  cases registration with
  | none => exact Or.inl (rechecked net found)
  | some id =>
      obtain ⟨row, present, version⟩ := rechecked _ found
      dsimp only at present
      unfold registerObservation at present
      split at present
      · rename_i creates
        rw [Bool.and_eq_true] at creates
        rw [Table.get_put] at present
        split at present
        · rename_i own
          cases present
          exact Or.inr ⟨creates.1, congrArg Prod.snd own, version⟩
        · exact Or.inl ⟨row, present, version⟩
      · exact Or.inl ⟨row, present, version⟩

def VersionsBounded (s : NetworkSystem) : Prop :=
  ∀ outageId monitorId row, s.net.observations.get (outageId, monitorId) = some row →
    ∃ monitor, s.core.db.monitors.get monitorId = some monitor ∧
      row.configVersion ≤ monitor.configVersion

theorem versions_bounded_step {config : NetworkConfig} {visited : List (NetworkSystem × Action)}
    {s after : NetworkSystem} {a : Action}
    (run : Transition.Run (step config) NetworkSystem.initial visited s)
    (bounded : VersionsBounded s) (taken : step config s a = some after) :
    VersionsBounded after := by
  have stays : ∀ {outageId monitorId row version},
      s.net.observations.get (outageId, monitorId) = some row → version = row.configVersion →
        ∃ monitor, after.core.db.monitors.get monitorId = some monitor ∧
          version ≤ monitor.configVersion := by
    intro outageId monitorId row version present same
    obtain ⟨monitor, stored, bound⟩ := bounded outageId monitorId row present
    obtain ⟨later, kept, grows⟩ := step_monitor_version taken stored
    exact ⟨later, kept, same ▸ bound.trans grows⟩
  intro outageId monitorId next found
  rcases step_observations taken with same | ⟨t, tx, rfl, inProgress, written⟩
  · rw [same] at found
    exact stays found rfl
  · rw [written] at found
    rcases persist_observation_source found with ⟨row, present, same⟩ | ⟨valid, own, same⟩
    · exact stays present same
    · -- a registration judges its check by the row of the monitor that it has locked
      obtain ⟨view, judged⟩ := persist_read run inProgress
      rw [registers, Bool.and_eq_true, Bool.and_eq_true, judged] at valid
      simp only [persistValid, Bool.and_eq_true, decide_eq_true_eq] at valid
      obtain ⟨later, kept, grows⟩ := step_monitor_version taken view.monitor
      dsimp only at own
      rw [own, same, valid.1.1.1.2]
      exact ⟨later, kept, grows⟩

theorem versions_bounded_run {config : NetworkConfig} {visited : List (NetworkSystem × Action)}
    {s : NetworkSystem}
    (run : Transition.Run (step config) NetworkSystem.initial visited s) :
    VersionsBounded s := by
  induction run with
  | start =>
      intro outageId monitorId row stored
      cases stored
  | next run taken ih => exact versions_bounded_step run ih taken

theorem Grown.pending {earlier s : NetworkSystem} (grown : Grown earlier s)
    (bounded : VersionsBounded earlier) {outageId : OutageId} {monitorId : MonitorId}
    {before row : NetworkObservationRow} {monitor : MonitorRow}
    (present : earlier.net.observations.get (outageId, monitorId) = some before)
    (stored : earlier.core.db.monitors.get monitorId = some monitor)
    (isActive : monitor.isActive = true)
    (found : s.net.observations.get (outageId, monitorId) = some row)
    (awaiting : isPending s.core.db.monitors (monitorId, row) = true) :
    isPending earlier.core.db.monitors (monitorId, before) = true := by
  obtain ⟨kept, same, observation⟩ := grown.observations _ _ present
  rw [found, Option.some.injEq] at same
  subst same
  obtain ⟨later, held, grows⟩ := grown.monitors _ _ stored
  obtain ⟨own, same, bound⟩ := bounded outageId monitorId before present
  rw [stored, Option.some.injEq] at same
  subst same
  simp only [isPending, held, stored, Option.any_some, Bool.and_eq_true,
    decide_eq_true_eq] at awaiting ⊢
  obtain ⟨unchecked, -, current⟩ := awaiting
  have version := observation.version
  refine ⟨?_, isActive, by omega⟩
  rw [Option.isNone_iff_eq_none, ← Option.not_isSome_iff_eq_none] at unchecked ⊢
  exact fun checked => unchecked (observation.rechecked checked)

end LinkAlive.Network
