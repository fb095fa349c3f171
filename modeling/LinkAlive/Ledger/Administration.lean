import LinkAlive.Ledger.MonitorRows
import LinkAlive.Api.MonitorUpdates
import LinkAlive.Domain.Administration
import LinkAlive.System.Script

/-!
# The service and the domain transitions

The service writes a pause, a resume, a removal and a configuration change field by
field. The state that it leaves and the incident that it cancels are those that
`transitionLifecycle` and `resetForConfigChange` give for the row that it has locked.
-/

namespace LinkAlive

open Relational

set_option autoImplicit false

/-- The requests of a run have passed the schemas of the service. -/
def Action.Normal (library : UrlLibrary) : Action → Prop
  | .beginMonitor _ _ (.create input) _ _ => input.Normal library
  | .beginMonitor _ _ (.update patch) _ _ => patch.Normal library
  | _ => True

def MonitorChange.Normal (library : UrlLibrary) : MonitorChange → Prop
  | .create input | .update input _ => input.Normal library
  | .pause _ | .resume | .remove _ => True

structure NormalInvariant (library : UrlLibrary) (s : System) : Prop where
  rows : ∀ id row, s.db.monitors.get id = some row → row.Normal library
  changes : ∀ t tx, s.txs.get t = some (.monitor tx) → tx.change.Normal library

section Normal

variable {library : UrlLibrary}

theorem persist_monitor_write_normal {row : MonitorRow} (normal : row.Normal library)
    (tx : PersistTx) : (tx.monitorWrite row).Normal library := by
  obtain ⟨name, keyword, target⟩ := normal
  unfold PersistTx.monitorWrite
  cases tx.transition with
  | none => exact ⟨name, keyword, target⟩
  | some transition =>
      dsimp only
      split <;> split <;> exact ⟨name, keyword, target⟩

theorem unscheduled_normal {row other : MonitorRow} (normal : row.Normal library)
    (same : other.unscheduled = row.unscheduled) : other.Normal library := by
  have kept : row.unscheduled.Normal library := ⟨normal.name, normal.keyword, normal.target⟩
  rw [← same] at kept
  exact ⟨kept.name, kept.keyword, kept.target⟩

theorem new_monitor_row_normal {input : MonitorInput} (normal : input.Normal library)
    (next : Time) : (newMonitorRow input next).Normal library where
  name := normal.name
  keyword := normal.keyword
  target url stored := by
    cases stored
    exact normal.target

theorem edited_normal {row : MonitorRow} {merged : MonitorInput} (normal : merged.Normal library) :
    (row.edited merged).Normal library where
  name := normal.name
  keyword := normal.keyword
  target url stored := by
    cases stored
    exact normal.target

theorem monitor_write_normal {tx : MonitorTx} {row : MonitorRow} (normal : row.Normal library)
    (change : tx.change.Normal library) : (tx.monitorWrite row).Normal library := by
  unfold MonitorTx.monitorWrite
  unfold MonitorChange.Normal at change
  split
  · exact normal
  · rename_i merged updates
    rw [updates] at change
    exact edited_normal change
  · rename_i merged found updates
    rw [updates] at change
    have edited : (row.edited merged).Normal library := edited_normal change
    exact ⟨edited.name, edited.keyword, edited.target⟩
  · exact ⟨normal.name, normal.keyword, normal.target⟩
  · exact ⟨normal.name, normal.keyword, normal.target⟩
  · refine ⟨normal.name, normal.keyword, ?_⟩
    intro url stored
    cases stored

theorem monitor_change_normal {db : Database} {id : MonitorId} {request : MonitorRequest}
    {change : MonitorChange} {t : TxId} {now next : Time}
    (rows : ∀ row, db.monitors.get id = some row → row.Normal library)
    (accepted : (Action.beginMonitor t id request now next).Normal library)
    (changed : monitorChange db id request = some change) : change.Normal library := by
  unfold monitorChange at changed
  cases request with
  | create input =>
      simp only [Option.ite_none_right_eq_some, Option.some.injEq] at changed
      rw [← changed.2]
      exact accepted
  | update patch =>
      simp only [Option.bind_eq_bind, Option.bind_eq_some_iff] at changed
      obtain ⟨row, stored, changed⟩ := changed
      split at changed
      · cases changed
      · rename_i url envelope
        split at changed
        · cases changed
        · cases changed
          exact merge_patch_normal (rows row stored) accepted envelope
  | pause =>
      simp only [Option.bind_eq_bind, Option.bind_eq_some_iff, Option.ite_none_left_eq_some,
        Option.some.injEq] at changed
      obtain ⟨row, -, -, rfl⟩ := changed
      trivial
  | resume =>
      simp only [Option.bind_eq_bind, Option.bind_eq_some_iff, Option.ite_none_left_eq_some,
        Option.some.injEq] at changed
      obtain ⟨row, -, -, rfl⟩ := changed
      trivial
  | remove =>
      simp only [Option.bind_eq_bind, Option.bind_eq_some_iff, Option.ite_none_left_eq_some,
        Option.some.injEq] at changed
      obtain ⟨row, -, -, rfl⟩ := changed
      trivial

theorem normal_invariant_step {s after : System} {a : Action}
    (invariant : NormalInvariant library s) (accepted : a.Normal library)
    (taken : step s a = some after) : NormalInvariant library after := by
  have stepped := step_cases taken
  constructor
  · intro id next found
    cases step_monitor_row stepped found with
    | kept before => exact invariant.rows id next before
    | recorded t tx row _ _ _ before same =>
        rw [same]
        exact persist_monitor_write_normal (invariant.rows id row before) tx
    | rescheduled t tx row _ _ before same _ =>
        exact unscheduled_normal (invariant.rows id row before) same
    | created t tx input _ inProgress _ create _ same =>
        have change := invariant.changes t tx inProgress
        rw [create] at change
        rw [same]
        exact new_monitor_row_normal change _
    | administered t tx row _ inProgress _ _ before same =>
        rw [same]
        exact monitor_write_normal (invariant.rows id row before)
          (invariant.changes t tx inProgress)
  · intro t tx later
    cases step_tx_source stepped later with
    | stayed inProgress => exact invariant.changes t tx inProgress
    | advanced before next isPersist => cases isPersist
    | begun jobs attempts unused begun same =>
        cases begun with
        | monitor id request change now next changed free =>
            exact monitor_change_normal (invariant.rows id) accepted changed

theorem normal_invariant_run {s : System} {visited : List (System × Action)}
    (run : Transition.Run step System.initial visited s)
    (accepted : Transition.Along (fun _ a => a.Normal library) visited) :
    NormalInvariant library s := by
  refine run.preserves _ (NormalInvariant library) ⟨?_, ?_⟩ ?_ accepted
  · intro id row found
    cases found
  · intro t tx found
    cases found
  · intro state label after invariant normal taken
    exact normal_invariant_step invariant normal taken

end Normal

def IncidentEffect.CarriedOut (before after : Table IncidentId IncidentRow)
    (monitorId : MonitorId) : IncidentEffect → Prop
  | .none => ∀ id, after.get id = before.get id
  | .cancel canceledAt reason =>
      ∃ id row, before.get id = some row ∧ row.monitorId = monitorId ∧ row.status = .opened ∧
        after.get id = some (row.canceled canceledAt reason) ∧
          ∀ other, other ≠ id → after.get other = before.get other
  | .opened .. | .update _ | .resolve .. => False

/-- The largest value of an `INTEGER` column. -/
def maxIntegerColumn : Nat := 2147483647

/-- The counters and the version of a row that the table can hold, now and after one more
configuration change. -/
def MonitorRow.FitsColumns (row : MonitorRow) : Prop :=
  row.consecutiveFailures ≤ maxIntegerColumn ∧ row.consecutiveSuccesses ≤ maxIntegerColumn ∧
    row.configVersion < maxIntegerColumn

/-- A step from `row` to `next` does what the domain function returns for the row's state,
and the domain function returns for every row that the table can hold. -/
def Refines (before after : Database) (id : MonitorId) (row next : MonitorRow)
    (outcome : Except DomainError AdministrativeTransitionResult) : Prop :=
  (∀ result, outcome = .ok result →
    next.state = result.state ∧
      result.incidentEffect.CarriedOut before.incidents after.incidents id) ∧
  (row.FitsColumns → ∃ result, outcome = .ok result)

/-- A step leaves the monitoring side of a monitor alone. -/
structure Untouched (before after : Database) (row next : MonitorRow) : Prop where
  state : next.state = row.state
  config : next.config = row.config
  requestUrl : next.requestUrlEncrypted = row.requestUrlEncrypted
  displayUrl : next.displayUrl = row.displayUrl
  nextCheckAt : next.nextCheckAt = row.nextCheckAt
  incidents : after.incidents = before.incidents
  checks : after.checks = before.checks
  outbox : after.outbox = before.outbox
  deliveries : after.deliveries = before.deliveries

/-- What an operation does, by the domain function that it stands for. -/
def MonitorTx.RefinesDomain (tx : MonitorTx) (before after : Database) (row next : MonitorRow) :
    Prop :=
  match tx.change with
  | .create _ => False
  | .update _ none => Untouched before after row next
  | .update _ (some _) =>
      Refines before after tx.id row next
        (resetForConfigChange row.state (some tx.now) (some (row.configVersion + 1)))
  | .pause _ =>
      Refines before after tx.id row next (transitionLifecycle row.state .paused (some tx.now))
  | .resume =>
      Refines before after tx.id row next (transitionLifecycle row.state .active (some tx.now))
  | .remove _ =>
      Refines before after tx.id row next (transitionLifecycle row.state .deleted (some tx.now))

theorem is_safe_integer_of_column {value : Nat} (fits : value ≤ maxIntegerColumn) :
    isSafeInteger value = true ∧ isSafeInteger (value + 1) = true := by
  have small : maxIntegerColumn + 1 ≤ maxSafeInteger := by decide
  have next : value + 1 ≤ maxSafeInteger := (Nat.succ_le_succ fits).trans small
  exact ⟨decide_eq_true ((Nat.le_succ value).trans next), decide_eq_true next⟩

theorem assert_state_of_fits {row : MonitorRow} (fits : row.FitsColumns)
    (version : 1 ≤ row.configVersion) : assertState row.state = .ok () := by
  obtain ⟨failures, successes, bounded⟩ := fits
  have safeVersion := (is_safe_integer_of_column (Nat.le_of_lt bounded)).1
  have safeFailures := (is_safe_integer_of_column failures).1
  have safeSuccesses := (is_safe_integer_of_column successes).1
  simp [assertState, MonitorRow.state, safeVersion, safeFailures, safeSuccesses,
    Nat.not_lt.2 version]

section Cancel

variable {db : Database} {id : MonitorId} {row : MonitorRow}

/-- `cancelRuntime` cancels the open incident, if the health state shows one. -/
theorem cancel_runtime_carried (healthy : MonitorHealthy db id)
    (stored : db.monitors.get id = some row) (reason : IncidentClosureReason) (now : Time)
    (found : List (OutboxKey × Nat)) :
    (if row.healthState.hasIncident then IncidentEffect.cancel now reason else .none).CarriedOut
      db.incidents (cancelRuntime db id reason now found).incidents id := by
  have others : ∀ other, (∀ incident, db.incidents.get other = some incident →
      ¬(incident.monitorId = id ∧ incident.status = .opened)) →
      (cancelRuntime db id reason now found).incidents.get other = db.incidents.get other := by
    intro other apart
    simp only [cancelRuntime, Table.get_update_where]
    cases held : db.incidents.get other with
    | none => rfl
    | some incident =>
        have skipped := apart incident held
        simp only [Option.map_some, Bool.and_eq_true, decide_eq_true_eq, if_neg skipped]
  cases incident : row.healthState.hasIncident with
  | false =>
      intro other
      apply others
      intro incidentRow held isOpen
      have shown := (healthy.agrees row stored).2 ⟨other, incidentRow, held, isOpen⟩
      rw [incident] at shown
      cases shown
  | true =>
      obtain ⟨openId, openRow, held, same, isOpen⟩ := (healthy.agrees row stored).1 incident
      refine ⟨openId, openRow, held, same, isOpen, ?_, ?_⟩
      · simp [cancelRuntime, held, same, isOpen]
      · intro other different
        apply others
        intro incidentRow otherHeld otherOpen
        exact different (healthy.single other openId ⟨incidentRow, otherHeld, otherOpen⟩
          ⟨openRow, held, same, isOpen⟩)

theorem refines_lifecycle {after : Database} {next : MonitorRow} {status : MonitorLifecycle}
    {now : Time} (version : 1 ≤ row.configVersion) (different : row.lifecycleStatus ≠ status)
    (present : row.lifecycleStatus ≠ .deleted)
    (state : next.state = { row.state.cleared with lifecycleStatus := status })
    (carried : (if row.healthState.hasIncident && status ≠ .active then
      IncidentEffect.cancel now status.closureReason else .none).CarriedOut
        db.incidents after.incidents id) :
    Refines db after id row next (transitionLifecycle row.state status (some now)) := by
  constructor
  · intro result returned
    cases transition_lifecycle_cases returned with
    | same same => exact absurd same different
    | changed time dated _ _ =>
        cases dated
        exact ⟨state, carried⟩
  · intro fits
    exact transition_lifecycle_returns (assert_state_of_fits fits version)
      fun deleted => absurd deleted present

theorem refines_config_change {after : Database} {next : MonitorRow} {now : Time}
    (version : 1 ≤ row.configVersion)
    (state : next.state = { row.state.cleared with configVersion := row.configVersion + 1 })
    (carried : (if row.healthState.hasIncident then
      IncidentEffect.cancel now .configChanged else .none).CarriedOut
        db.incidents after.incidents id) :
    Refines db after id row next
      (resetForConfigChange row.state (some now) (some (row.configVersion + 1))) := by
  constructor
  · intro result returned
    obtain ⟨time, _, dated, rfl, _, rfl⟩ := reset_for_config_change_cases returned
    cases dated
    exact ⟨state, carried⟩
  · intro fits
    have safe := (is_safe_integer_of_column (Nat.le_of_lt fits.2.2)).2
    exact reset_for_config_change_returns (assert_state_of_fits fits version) safe
      (Nat.lt_succ_self _)

end Cancel

theorem monitor_commit_refines {library : UrlLibrary} {db after : Database} {tx : MonitorTx}
    {row : MonitorRow} (healthy : MonitorHealthy db tx.id) (normal : row.Normal library)
    (change : tx.change.Normal library) (view : ChangeView tx.change row)
    (version : 1 ≤ row.configVersion)
    (deleted : row.deletedAt.isSome = true ↔ row.lifecycleStatus = .deleted)
    (stored : db.monitors.get tx.id = some row) (reads : tx.change.Reads row)
    (notCreate : tx.change.isCreate = false) (written : monitorCommit db tx = some after) :
    ∃ next, after.monitors.get tx.id = some next ∧ tx.RefinesDomain db after row next := by
  obtain ⟨_, _, _, incidents, checks, outbox, monitors⟩ := monitor_commit_cases written
  rcases monitors with ⟨input, create, _, _⟩ | ⟨_, monitors⟩
  · rw [create] at notCreate
    cases notCreate
  have present : ∀ {P : Prop}, row.deletedAt = none → (row.lifecycleStatus ≠ .deleted → P) → P := by
    intro P kept use
    refine use fun gone => ?_
    rw [← deleted, kept] at gone
    cases gone
  refine ⟨tx.monitorWrite row, by rw [monitors, Table.get_update_key_self, stored]; rfl, ?_⟩
  unfold MonitorTx.RefinesDomain
  unfold MonitorChange.Reads at reads
  have cancels : ∀ reason found, tx.change.cancels = some (reason, found) →
      (if row.healthState.hasIncident then IncidentEffect.cancel tx.now reason
        else .none).CarriedOut db.incidents after.incidents tx.id := by
    intro reason found runs
    rw [incidents, MonitorTx.runtimeWrite, runs]
    exact cancel_runtime_carried healthy stored reason tx.now found
  cases sort : tx.change with
  | create input => simp [sort, MonitorChange.isCreate] at notCreate
  | update merged found =>
      rw [sort] at reads change view
      obtain ⟨-, url, envelope, differs⟩ := reads
      cases found with
      | some attempts =>
          apply refines_config_change version
          · simp only [MonitorTx.monitorWrite, sort]
            rfl
          · exact cancels .configChanged attempts (by rw [sort]; rfl)
      | none =>
          have quiet : tx.runtimeWrite db = db := runtime_write_quiet (by rw [sort]; rfl)
          rw [quiet] at incidents checks outbox
          have deliveries := monitor_commit_deliveries written
          rw [quiet] at deliveries
          have sameUrl : merged.target.requestUrl = url := by
            have equal := differs.symm
            simp only [Option.isSome_none, Bool.or_eq_false_iff, decide_eq_false_iff_not,
              ne_eq, Decidable.not_not] at equal
            exact equal.1
          have sameTarget : merged.target = ⟨url, row.displayUrl⟩ := by
            have target := change.target
            rw [sameUrl, normal.target url envelope, Option.some.injEq] at target
            exact target.symm
          refine ⟨?_, ?_, ?_, ?_, ?_, incidents, checks, outbox, deliveries⟩ <;>
            simp only [MonitorTx.monitorWrite, sort, MonitorRow.edited]
          · rfl
          · exact view
          · rw [sameUrl, envelope]
          · rw [sameTarget]
  | pause found =>
      rw [sort] at reads
      refine present reads.1 fun kept => refines_lifecycle version reads.2 kept ?_ ?_
      · simp only [MonitorTx.monitorWrite, sort]
        rfl
      · simpa [MonitorLifecycle.closureReason] using cancels .paused found (by rw [sort]; rfl)
  | resume =>
      rw [sort] at reads
      refine present reads.1 fun kept => refines_lifecycle version reads.2 kept ?_ ?_
      · simp only [MonitorTx.monitorWrite, sort]
        rfl
      · have quiet : tx.runtimeWrite db = db := runtime_write_quiet (by rw [sort]; rfl)
        rw [incidents, quiet]
        simp [IncidentEffect.CarriedOut]
  | remove found =>
      rw [sort] at reads
      refine present reads fun kept => refines_lifecycle version kept kept ?_ ?_
      · simp only [MonitorTx.monitorWrite, sort]
        rfl
      · simpa [MonitorLifecycle.closureReason] using cancels .deleted found (by rw [sort]; rfl)

/-- An operation that finds the status already there returns the row, as the domain
function does. -/
theorem refines_same_lifecycle {db : Database} {id : MonitorId} {row : MonitorRow}
    (version : 1 ≤ row.configVersion) (now : Time) :
    Refines db db id row row (transitionLifecycle row.state row.lifecycleStatus (some now)) := by
  constructor
  · intro result returned
    cases transition_lifecycle_cases returned with
    | same => exact ⟨rfl, fun _ => rfl⟩
    | changed time dated different => exact absurd rfl different
  · intro fits
    exact transition_lifecycle_returns (assert_state_of_fits fits version) fun deleted => deleted

theorem update_request_change {library : UrlLibrary} {db : Database} {id : MonitorId}
    {row : MonitorRow} {patch : MonitorPatch} {merged : MonitorInput} {changed : Bool}
    (normal : row.Normal library) (stored : db.monitors.get id = some row)
    (present : row.deletedAt = none) (accepted : patch.Normal library)
    (updated : updateMonitor library row (boundChannels db id) patch = some (merged, changed))
    (live : assertChannelIds db merged.channelIds = true) :
    monitorChange db id (.update patch) =
        some (.update merged (if changed then some (openAttempts db (ofMonitor id)) else none)) ∧
      (changed = false ↔ row.requestUrlEncrypted = .envelope merged.target.requestUrl ∧
        merged.config = row.config) ∧
      (patch.Echoes (toMonitorView row (boundChannels db id)) → changed = false) := by
  obtain ⟨url, envelope, rfl, rfl⟩ := update_monitor_cases normal accepted updated
  refine ⟨?_, ?_, ?_⟩
  · simp only [monitorChange, stored, Option.bind_eq_bind, Option.bind_some, envelope, present,
      live, Option.isSome_none, Bool.not_true, Bool.or_self, Bool.false_eq_true, if_false]
  · simp only [envelope, Bool.or_eq_false_iff, decide_eq_false_iff_not, ne_eq, Decidable.not_not,
      Sealed.envelope.injEq]
    exact and_congr_left fun _ => eq_comm
  · intro echoes
    simp only [mergePatch, merge_target_echo echoes, merge_config_echo echoes, ne_eq,
      not_true_eq_false, decide_false, Bool.or_self]

/-- In every state that requests in normal form lead to: an operation of the service that
commits does what the domain function gives for the locked row, one that finds its status
already there does as much, and an update changes the monitoring exactly when a merged
field differs from the stored one, which none does that the view has shown. -/
theorem administrative_changes_refine_domain (library : UrlLibrary) {s : System}
    {visited : List (System × Action)} (run : Transition.Run step System.initial visited s)
    (accepted : Transition.Along (fun _ a => a.Normal library) visited) :
    (∀ t tx after, s.txs.get t = some (.monitor tx) → tx.change.isCreate = false →
      step s (.commit t) = some after →
        ∃ row next, s.db.monitors.get tx.id = some row ∧
          after.db.monitors.get tx.id = some next ∧
            tx.RefinesDomain s.db after.db row next) ∧
    (∀ id row now, s.db.monitors.get id = some row →
      Refines s.db s.db id row row
        (transitionLifecycle row.state row.lifecycleStatus (some now))) ∧
    (∀ id row patch merged changed, s.db.monitors.get id = some row → row.deletedAt = none →
      patch.Normal library →
      updateMonitor library row (boundChannels s.db id) patch = some (merged, changed) →
      assertChannelIds s.db merged.channelIds = true →
        monitorChange s.db id (.update patch) =
          some (.update merged
            (if changed then some (openAttempts s.db (ofMonitor id)) else none)) ∧
        (changed = false ↔ row.requestUrlEncrypted = .envelope merged.target.requestUrl ∧
          merged.config = row.config) ∧
        (patch.Echoes (toMonitorView row (boundChannels s.db id)) → changed = false)) := by
  have reachable : Reachable s := ⟨visited, run⟩
  have ledger := ledger_invariant_reachable reachable
  have health := health_invariant_reachable reachable
  have lifecycle := lifecycle_invariant_reachable reachable
  have normal := normal_invariant_run run accepted
  refine ⟨?_, ?_, ?_⟩
  · intro t tx after inProgress notCreate taken
    obtain ⟨row, stored, reads⟩ := lifecycle.reads t tx inProgress notCreate
    obtain ⟨db, attempts, events, commit, rfl⟩ :=
      commit_step_cases (step_cases taken) inProgress
    cases commit with
    | monitor _ _ _ written =>
        obtain ⟨next, found, refines⟩ := monitor_commit_refines (health.healthy tx.id)
          (normal.rows tx.id row stored) (normal.changes t tx inProgress)
          (ledger.views t _ inProgress row stored) (lifecycle.version tx.id row stored)
          (lifecycle.deleted tx.id row stored) stored reads notCreate written
        exact ⟨row, next, stored, found, refines⟩
  · intro id row now stored
    exact refines_same_lifecycle (lifecycle.version id row stored) now
  · intro id row patch merged changed stored present clean updated live
    exact update_request_change (normal.rows id row stored) stored present clean updated live

private def shopUrls : UrlLibrary where
  Url := { text : String // trimText text = text }
  parse text := some ⟨trimText text, trim_text_twice text⟩
  serialize url := url.val
  protocol _ := "https:"
  hostname _ := "shop.example"
  search _ := ""
  withoutHash url := url
  withoutCredentials url := url
  withSearch url _ := url
  isIP _ := false
  parse_serialize url := by
    obtain ⟨text, trimmed⟩ := url
    simp only [trimmed]
  without_hash_twice _ := rfl
  protocol_without_hash _ := rfl
  hostname_without_hash _ := rfl
  trim_serialize url _ := url.property

private def shopInput : MonitorInput :=
  { Script.monitorInput [1] with
    target := ⟨"https://shop.example/", "https://shop.example/"⟩ }

private theorem shop_input_normal : shopInput.Normal shopUrls where
  name := by decide +kernel
  keyword := by decide +kernel
  target := by decide +kernel

/-- The service gets another request than the creation of the shop and a pause. -/
private def otherRequest (_ : System) : Action → Bool
  | .beginMonitor _ _ (.create input) _ _ => input ≠ shopInput
  | .beginMonitor _ _ (.update _) _ _ => true
  | _ => false

private theorem normal_of_shop_request {s : System} {a : Action} (known : otherRequest s a = false) :
    a.Normal shopUrls := by
  cases a with
  | beginMonitor t id request now next =>
      cases request with
      | create input =>
          have same : input = shopInput := by simpa [otherRequest] using known
          rw [same]
          exact shop_input_normal
      | update patch => cases known
      | pause => trivial
      | resume => trivial
      | remove => trivial
  | _ => trivial

private def pauseDuringIncident : List Action :=
  [.createChannel 1 "ops" Script.channelConfig, .beginMonitor 0 1 (.create shopInput) 0 0,
    .commit 0] ++ Script.failingCheck 1 1 1000 ++ [.beginMonitor 0 1 .pause 2000 2000]

/-- The pause of a monitor that is down. -/
theorem administrative_changes_refine_domain_sample :
    ∃ s tx after row next, s.monitorTx 0 = some tx ∧ step s (.commit 0) = some after ∧
      tx.RefinesDomain s.db after.db row next := by
  obtain ⟨visited, s, run, along, tested⟩ := run_of_script pauseDuringIncident otherRequest
    (fun s => (s.monitorTx 0).any (fun tx => !tx.change.isCreate) &&
      (step s (.commit 0)).isSome) (by decide +kernel)
  rw [Bool.and_eq_true, Option.any_eq_true, Option.isSome_iff_exists] at tested
  obtain ⟨⟨tx, inProgress, notCreate⟩, after, taken⟩ := tested
  have accepted : Transition.Along (fun _ a => a.Normal shopUrls) visited := by
    intro state label member
    exact normal_of_shop_request (along state label member)
  obtain ⟨row, next, -, -, refines⟩ :=
    (administrative_changes_refine_domain shopUrls run accepted).1 0 tx after
      (System.monitor_tx_eq_some.1 inProgress) (by simpa using notCreate) taken
  exact ⟨s, tx, after, row, next, inProgress, taken, refines⟩

end LinkAlive
