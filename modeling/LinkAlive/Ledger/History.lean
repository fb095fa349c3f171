import LinkAlive.Ledger.Health
import LinkAlive.Ledger.Writes
import LinkAlive.Domain.WindowedHistory

/-!
# Results and the state of a monitor

The history of a run lists the resets of monitors and the recorded results in commit
order. The state of a monitor is the fold of `applyCheckResult` over the results that
were recorded for completed checks since its last reset.
-/

namespace LinkAlive

open Relational

set_option autoImplicit false

def Event.resets (monitorId : MonitorId) : Event → Bool
  | .reset id => id = monitorId
  | .recorded .. | .granted .. => false

def Event.records (checkId : CheckId) : Event → Bool
  | .recorded _ id => id = checkId
  | .reset _ | .granted .. => false

def Event.concerns (monitorId : MonitorId) : Event → Bool
  | .reset id => id = monitorId
  | .recorded id _ => id = monitorId
  | .granted .. => false

def storedInput (row : MonitorRow) (result : CheckResultRow) : CheckTransitionInput where
  source := result.source
  outcome := result.outcome
  configVersion := result.configVersion
  checkedAt := some result.finishedAt
  errorType := result.errorType
  failureThreshold := row.config.failureThreshold
  recoveryThreshold := row.config.recoveryThreshold

/-- The input of an event that recorded a result for a completed check of the current
configuration of a monitor. -/
def countedInput (db : Database) (monitorId : MonitorId) (row : MonitorRow) :
    Event → Option CheckTransitionInput
  | .recorded id checkId =>
      if id = monitorId then do
        let check ← db.checks.get checkId
        let result ← db.results.get checkId
        if check.status = .completed && check.configVersion = row.configVersion then
          some (storedInput row result)
        else none
      else none
  | .reset _ | .granted .. => none

def sinceReset (history : List Event) (monitorId : MonitorId) : List Event :=
  history.rtakeWhile fun event => !event.resets monitorId

/-- The results that count for the state of a monitor, in commit order. -/
def System.countedInputs (s : System) (monitorId : MonitorId) (row : MonitorRow) :
    List CheckTransitionInput :=
  (sinceReset s.history monitorId).filterMap (countedInput s.db monitorId row)

def FoldsResults (s : System) (monitorId : MonitorId) (row : MonitorRow) : Prop :=
  ∃ effects, runChecks (resetState row.lifecycleStatus row.configVersion)
    (s.countedInputs monitorId row) = .ok (row.state, effects)

theorem since_reset_append {history events : List Event} {monitorId : MonitorId}
    (silent : ∀ event ∈ events, event.resets monitorId = false) :
    sinceReset (history ++ events) monitorId = sinceReset history monitorId ++ events := by
  induction events using List.reverseRecOn with
  | nil => simp
  | append_singleton events event ih =>
      have passes : event.resets monitorId = false := silent event (by simp)
      rw [← List.append_assoc, sinceReset, List.rtakeWhile_concat_pos _ _ _ (by simp [passes])]
      rw [← List.append_assoc, ← ih fun other member => silent other (by simp [member])]
      rfl

theorem since_reset_reset (history : List Event) (monitorId : MonitorId) :
    sinceReset (history ++ [.reset monitorId]) monitorId = [] := by
  rw [sinceReset, List.rtakeWhile_concat_neg]
  simp [Event.resets]

theorem mem_of_since_reset {history : List Event} {monitorId : MonitorId} {event : Event}
    (member : event ∈ sinceReset history monitorId) : event ∈ history :=
  (List.rtakeWhile_suffix _ _).subset member

theorem concerns_of_resets {event : Event} {monitorId : MonitorId}
    (silent : event.concerns monitorId = false) : event.resets monitorId = false := by
  cases event with
  | reset id => exact silent
  | recorded => rfl
  | granted => rfl

theorem counted_input_of_silent {event : Event} {monitorId : MonitorId}
    (silent : event.concerns monitorId = false) (db : Database) (row : MonitorRow) :
    countedInput db monitorId row event = none := by
  cases event with
  | reset => rfl
  | recorded id checkId =>
      have other : ¬ id = monitorId := by simpa [Event.concerns] using silent
      simp [countedInput, other]
  | granted => rfl

/-- A persist transaction without an effect writes nothing but the result and the check. -/
def PersistTx.Quiet (tx : PersistTx) : Prop :=
  tx.incidentEffect = .none →
    tx.outbox = .empty ∧ ∀ resolution, tx.stage ≠ .resolving resolution

structure HistoryInvariant (s : System) : Prop where
  counted : ∀ checkId, s.history.countP (Event.records checkId) =
    if (s.db.results.get checkId).isSome then 1 else 0
  folds : ∀ monitorId row, s.db.monitors.get monitorId = some row → FoldsResults s monitorId row
  quiet : ∀ t tx, s.txs.get t = some (.persist tx) → tx.Quiet

theorem HistoryInvariant.recorded {s : System} (invariant : HistoryInvariant s)
    {monitorId : MonitorId} {checkId : CheckId}
    (member : Event.recorded monitorId checkId ∈ s.history) :
    ∃ result, s.db.results.get checkId = some result := by
  have counted := invariant.counted checkId
  cases stored : s.db.results.get checkId with
  | some result => exact ⟨result, rfl⟩
  | none =>
      rw [stored, if_neg (by simp), List.countP_eq_zero] at counted
      have never := counted _ member
      simp [Event.records] at never

theorem step_results_kept {s after : System} {a : Action} (stepped : Stepped s a after)
    {checkId : CheckId} {result : CheckResultRow}
    (found : s.db.results.get checkId = some result) :
    after.db.results.get checkId = some result := by
  cases step_writes stepped with
  | nothing ledger _ =>
      rw [ledger.results]
      exact found
  | checks checks jobs _ written =>
      rw [written]
      exact found
  | channelCreated _ _ _ _ written =>
      rw [written]
      exact found
  | channel t tx _ _ written =>
      rw [written, (channel_commit_same_ledger s.db tx).results]
      exact found
  | persist t tx _ _ written =>
      obtain ⟨results, _, _, inserted, _, _, stored⟩ := persist_commit_cases written
      rw [Table.insert_new_eq_some] at inserted
      simp only [stored, inserted.2, Table.get_put]
      split
      · rename_i same
        rw [same, inserted.1] at found
        cases found
      · exact found
  | createDue t tx _ _ written =>
      rw [(create_due_checks_kept written).results]
      exact found
  | monitor t tx _ _ written =>
      rw [(monitor_commit_cases written).1]
      exact found

theorem counted_input_kept {s after : System} {a : Action} (ledger : LedgerInvariant s)
    (invariant : HistoryInvariant s) (stepped : Stepped s a after) {event : Event}
    (member : event ∈ s.history) {monitorId : MonitorId} {row next : MonitorRow}
    (config : next.config = row.config) (version : next.configVersion = row.configVersion) :
    countedInput after.db monitorId next event = countedInput s.db monitorId row event := by
  cases event with
  | reset => rfl
  | granted => rfl
  | recorded id checkId =>
      obtain ⟨result, stored⟩ := invariant.recorded member
      obtain ⟨check, found, terminal⟩ := ledger.consistent.results checkId result stored
      obtain ⟨later, laterFound, move⟩ := step_check_move ledger stepped found
      rw [move.terminal terminal] at laterFound
      have same : storedInput next result = storedInput row result := by
        simp [storedInput, config]
      simp [countedInput, found, laterFound, stored, step_results_kept stepped stored,
        same, version]

theorem folds_results_kept {s after : System} {a : Action} (ledger : LedgerInvariant s)
    (invariant : HistoryInvariant s) (stepped : Stepped s a after) {monitorId : MonitorId}
    {events : List Event} (grown : after.history = s.history ++ events)
    (silent : ∀ event ∈ events, event.concerns monitorId = false) {row next : MonitorRow}
    (found : s.db.monitors.get monitorId = some row) (state : next.state = row.state)
    (config : next.config = row.config) : FoldsResults after monitorId next := by
  obtain ⟨effects, folded⟩ := invariant.folds monitorId row found
  have version : next.configVersion = row.configVersion :=
    congrArg MonitorState.configVersion state
  have lifecycle : next.lifecycleStatus = row.lifecycleStatus :=
    congrArg MonitorState.lifecycleStatus state
  have inputs : after.countedInputs monitorId next = s.countedInputs monitorId row := by
    unfold System.countedInputs
    rw [grown, since_reset_append fun event member => concerns_of_resets (silent event member),
      List.filterMap_append]
    have nothing : events.filterMap (countedInput after.db monitorId next) = [] := by
      rw [List.filterMap_eq_nil_iff]
      intro event member
      exact counted_input_of_silent (silent event member) after.db next
    rw [nothing, List.append_nil]
    apply List.filterMap_congr
    intro event member
    exact counted_input_kept ledger invariant stepped (mem_of_since_reset member) config version
  refine ⟨effects, ?_⟩
  rw [inputs, lifecycle, version, state]
  exact folded

theorem run_checks_concat {state middle : MonitorState} {inputs : List CheckTransitionInput}
    {effects : List IncidentEffect} {input : CheckTransitionInput}
    {transition : StateTransitionResult} (returned : runChecks state inputs = .ok (middle, effects))
    (last : applyCheckResult middle input = .ok transition) :
    runChecks state (inputs ++ [input]) =
      .ok (transition.state, effects ++ [transition.incidentEffect]) := by
  induction inputs generalizing state effects with
  | nil =>
      cases returned
      simp [runChecks, bind, Except.bind, pure, Except.pure, last]
  | cons first rest ih =>
      obtain ⟨result, later, applied, tail, rfl⟩ := run_checks_cons returned
      simp [runChecks, bind, Except.bind, pure, Except.pure, applied, ih tail]

theorem persist_active_transition {db : Database} {tx : PersistTx} (view : PersistView db tx)
    (consistent : LedgerConsistent db) (active : tx.check.status.isActive = true) :
    tx.check.configVersion = tx.monitor.configVersion ∧
      ∃ transition, tx.transition = some transition := by
  obtain ⟨row, found, slot, same⟩ := view.check
  obtain ⟨monitor, stored, isActive, version⟩ :=
    consistent.active tx.checkId row found (same.trans active)
  rw [slot.1, ← PersistTx.monitorId, view.monitor, Option.some_inj] at stored
  have versions : tx.check.configVersion = tx.monitor.configVersion := by
    rw [stored, version, slot.2.2]
  refine ⟨versions, ?_⟩
  rcases persist_transition_cases view.transition with ⟨invalid, _⟩ | ⟨transition, _, some_, _⟩
  · rw [← stored] at isActive
    simp [persistValid, active, versions, isActive] at invalid
  · exact ⟨transition, some_⟩

/-- A check that was not active any more when the transaction began gets no transition. -/
theorem persist_inactive_transition {db : Database} {tx : PersistTx} (view : PersistView db tx)
    (inactive : tx.check.status.isActive = false) : tx.transition = none := by
  rcases persist_transition_cases view.transition with ⟨_, nothing⟩ | ⟨_, valid, _, _⟩
  · exact nothing
  · simp [persistValid, inactive] at valid

/-- The commit of a persist transaction appends the input of its transition to the results
that count, or nothing. -/
theorem persist_commit_folds {s after : System} {t : TxId} {tx : PersistTx}
    (ledger : LedgerInvariant s) (invariant : HistoryInvariant s)
    (stepped : Stepped s (.commit t) after) (inProgress : s.txs.get t = some (.persist tx))
    (written : persistCommit s.db tx = some after.db)
    (grown : after.history = s.history ++ [.recorded tx.monitorId tx.checkId]) :
    FoldsResults after tx.monitorId (tx.monitorWrite tx.monitor) := by
  have view := (ledger.views t _ inProgress).1
  obtain ⟨effects, folded⟩ := invariant.folds tx.monitorId tx.monitor view.monitor
  have kept := monitor_write_configuration tx tx.monitor
  obtain ⟨row, found, slot, same⟩ := view.check
  obtain ⟨results, incidents, outbox, inserted, _, _, database⟩ := persist_commit_cases written
  rw [Table.insert_new_eq_some] at inserted
  have stored : after.db.results.get tx.checkId = some (resultRow tx) := by
    simp [database, inserted.2, Table.get_put]
  have inputs : after.countedInputs tx.monitorId (tx.monitorWrite tx.monitor) =
      s.countedInputs tx.monitorId tx.monitor ++
        [Event.recorded tx.monitorId tx.checkId].filterMap
          (countedInput after.db tx.monitorId (tx.monitorWrite tx.monitor)) := by
    unfold System.countedInputs
    rw [grown, since_reset_append (by simp [Event.resets]), List.filterMap_append]
    congr 1
    apply List.filterMap_congr
    intro event member
    exact counted_input_kept ledger invariant stepped (mem_of_since_reset member) kept.2.2.2
      kept.2.1
  unfold FoldsResults
  rw [inputs, kept.2.2.1, kept.2.1]
  rcases view.status with active | canceled
  · obtain ⟨version, transition, some_⟩ :=
      persist_active_transition view ledger.consistent active
    have check : after.db.checks.get tx.checkId = some (row.completed tx.result.finishedAt) := by
      have notCanceled : ¬ tx.check.status = .canceled := by
        intro canceled
        rw [canceled] at active
        cases active
      rw [database]
      simp only [if_neg notCanceled]
      rw [Table.get_update_key_self, found]
      rfl
    have checkVersion : (row.completed tx.result.finishedAt).configVersion =
        (tx.monitorWrite tx.monitor).configVersion := by
      rw [kept.2.1, ← version]
      exact slot.2.2
    have input : countedInput after.db tx.monitorId (tx.monitorWrite tx.monitor)
        (.recorded tx.monitorId tx.checkId) =
          some (transitionInput tx.check tx.monitor tx.result) := by
      simp only [countedInput, if_pos, check, stored, checkVersion, Option.bind_eq_bind,
        Option.bind_some, decide_true, Bool.and_true]
      rw [if_pos (by simp [CheckRow.completed])]
      simp [storedInput, transitionInput, resultRow, kept.2.2.2]
    rcases persist_monitor_state view with ⟨nothing, _⟩ | ⟨other, otherSome, ok, state⟩
    · rw [some_] at nothing
      cases nothing
    · refine ⟨effects ++ [other.incidentEffect], ?_⟩
      rw [List.filterMap_cons_some input, List.filterMap_nil, state]
      exact run_checks_concat folded ok
  · have nothing := persist_inactive_transition view (by rw [canceled]; rfl)
    have unchanged : tx.monitorWrite tx.monitor = tx.monitor := by
      rw [PersistTx.monitorWrite, nothing]
    have check : after.db.checks.get tx.checkId = some row := by
      rw [database]
      simp only [if_pos canceled]
      exact found
    have notCompleted : row.status ≠ .completed := by
      intro completed
      obtain ⟨result, recorded⟩ := ledger.consistent.completed tx.checkId row found completed
      rw [view.noResult] at recorded
      cases recorded
    have silent : countedInput after.db tx.monitorId (tx.monitorWrite tx.monitor)
        (.recorded tx.monitorId tx.checkId) = none := by
      simp [countedInput, check, stored, notCompleted]
    refine ⟨effects, ?_⟩
    rw [List.filterMap_cons_none silent, List.filterMap_nil, List.append_nil, unchanged]
    exact folded

theorem reset_folds {s after : System} {monitorId : MonitorId}
    (grown : after.history = s.history ++ [.reset monitorId]) {row : MonitorRow}
    (reset : row.state.IsReset) : FoldsResults after monitorId row := by
  refine ⟨[], ?_⟩
  unfold System.countedInputs
  rw [grown, since_reset_reset, List.filterMap_nil, runChecks]
  exact congrArg (fun state => Except.ok (state, [])) reset.symm

/-- What a step does to the state of a monitor, with the events that it appends. -/
inductive MonitorMove (s after : System) (events : List Event) (monitorId : MonitorId)
    (next : MonitorRow) : Prop
  | kept (row : MonitorRow) : (∀ event ∈ events, event.concerns monitorId = false) →
      s.db.monitors.get monitorId = some row → next.state = row.state →
      next.config = row.config → MonitorMove s after events monitorId next
  | reset : events = [.reset monitorId] → next.state.IsReset →
      MonitorMove s after events monitorId next
  | recorded (t : TxId) (tx : PersistTx) : s.txs.get t = some (.persist tx) →
      Stepped s (.commit t) after → tx.monitorId = monitorId →
      events = [.recorded tx.monitorId tx.checkId] → persistCommit s.db tx = some after.db →
      next = tx.monitorWrite tx.monitor → MonitorMove s after events monitorId next

theorem monitor_write_config {tx : MonitorTx} {row : MonitorRow}
    (keeps : System.resets tx.change = false) (view : ChangeView tx.change row) :
    (tx.monitorWrite row).config = row.config := by
  unfold MonitorTx.monitorWrite
  cases change : tx.change with
  | update merged found =>
      cases found with
      | none =>
          rw [change] at view
          exact view
      | some found => simp [change, System.resets] at keeps
  | _ => simp [change, System.resets] at keeps

theorem monitor_commit_move {s after : System} {tx : MonitorTx}
    (view : TxView s.db (.monitor tx)) (written : monitorCommit s.db tx = some after.db)
    {next : MonitorRow} (found : after.db.monitors.get tx.id = some next) :
    MonitorMove s after (if System.resets tx.change then [.reset tx.id] else []) tx.id next := by
  obtain ⟨_, _, _, _, _, _, monitors⟩ := monitor_commit_cases written
  rcases monitors with ⟨input, create, _, stored⟩ | ⟨notCreate, stored⟩
  · rw [stored, Table.get_put, if_pos rfl] at found
    cases found
    exact .reset (by rw [create]; rfl) rfl
  · rw [stored, Table.get_update_key_self, Option.map_eq_some_iff] at found
    obtain ⟨row, before, rfl⟩ := found
    cases resets : System.resets tx.change with
    | true => exact .reset rfl (monitor_write_resets notCreate resets row)
    | false =>
        exact .kept row (by simp) before (monitor_write_state resets row)
          (monitor_write_config resets (view row before))

theorem tx_commit_monitor_move {s after : System} {t : TxId} {tx : Transaction} {db : Database}
    {attempts : Attempts} {events : List Event} (ledger : LedgerInvariant s)
    (stepped : Stepped s (.commit t) after) (inProgress : s.txs.get t = some tx)
    (commit : TxCommit s t tx db attempts events) (stored : after.db = db) {monitorId : MonitorId}
    {next : MonitorRow} (found : after.db.monitors.get monitorId = some next) :
    MonitorMove s after events monitorId next := by
  have frame := tx_commit_ledger ledger inProgress commit
  have view := ledger.views t _ inProgress
  have untouched : tx.locksMonitor monitorId = false →
      (∀ event ∈ events, event.concerns monitorId = false) →
      MonitorMove s after events monitorId next := by
    intro free silent
    rw [stored, frame.monitors monitorId free] at found
    exact .kept next silent found rfl rfl
  cases commit with
  | persist tx db finished written =>
      by_cases own : tx.monitorId = monitorId
      · obtain ⟨_, _, _, _, _, _, database⟩ := persist_commit_cases written
        rw [← stored] at written
        refine .recorded t tx inProgress stepped own rfl written ?_
        rw [stored, database, ← own] at found
        simp only [Table.get_update_key_self, view.1.monitor, Option.map_some,
          Option.some_inj] at found
        exact found.symm
      · apply untouched
        · simpa [Transaction.locksMonitor] using own
        · simpa [Event.concerns] using own
  | createDue tx db written =>
      have kept := create_due_checks_kept written
      have same := kept.monitors monitorId
      rw [← stored, found, Option.map_some] at same
      obtain ⟨row, before, unscheduled⟩ := Option.map_eq_some_iff.1 same.symm
      have states := unscheduled_state unscheduled
      exact .kept row (by simp) before states.2.1.symm states.2.2.symm
  | monitor tx db _ written =>
      by_cases own : tx.id = monitorId
      · subst own
        rw [← stored] at written
        exact monitor_commit_move view written found
      · apply untouched
        · simpa [Transaction.locksMonitor] using own
        · intro event member
          split at member
          · rw [List.mem_singleton] at member
            simpa [member, Event.concerns] using own
          · cases member
  | claimIgnored => exact untouched rfl (by simp)
  | claimGranted => exact untouched rfl (by simp [Event.concerns])
  | markSent => exact untouched rfl (by simp)
  | channel => exact untouched rfl (by simp)

/-- A step appends some events; what it does to each monitor is one of three things. -/
theorem step_monitor_move {s after : System} {a : Action} (ledger : LedgerInvariant s)
    (stepped : Stepped s a after) :
    ∃ events, after.history = s.history ++ events ∧
      ∀ monitorId next, after.db.monitors.get monitorId = some next →
        MonitorMove s after events monitorId next := by
  have nothing : after.history = s.history → after.db.monitors = s.db.monitors →
      ∃ events, after.history = s.history ++ events ∧
        ∀ monitorId next, after.db.monitors.get monitorId = some next →
          MonitorMove s after events monitorId next := by
    intro same monitors
    refine ⟨[], by simp [same], ?_⟩
    intro monitorId next found
    rw [monitors] at found
    exact .kept next (by simp) found rfl rfl
  have whole := stepped
  cases stepped with
  | committed t tx db attempts events inProgress commit =>
      refine ⟨events, rfl, ?_⟩
      intro monitorId next found
      exact tx_commit_monitor_move ledger whole inProgress commit rfl found
  | channel => exact nothing rfl rfl
  | ledger => exact nothing rfl rfl
  | began => exact nothing rfl rfl
  | advanced => exact nothing rfl rfl
  | failed => exact nothing rfl rfl
  | dispatcher => exact nothing rfl rfl
  | aborted => exact nothing rfl rfl

theorem tx_commit_counted {s : System} {t : TxId} {tx : Transaction} {db : Database}
    {attempts : Attempts} {events : List Event} (commit : TxCommit s t tx db attempts events)
    (checkId : CheckId) (counted : s.history.countP (Event.records checkId) =
      if (s.db.results.get checkId).isSome then 1 else 0) :
    (s.history ++ events).countP (Event.records checkId) =
      if (db.results.get checkId).isSome then 1 else 0 := by
  have unchanged : db.results = s.db.results →
      (∀ event ∈ events, event.records checkId = false) →
      (s.history ++ events).countP (Event.records checkId) =
        if (db.results.get checkId).isSome then 1 else 0 := by
    intro same silent
    have none_ : events.countP (Event.records checkId) = 0 := by
      rw [List.countP_eq_zero]
      intro event member
      simp [silent event member]
    rw [List.countP_append, none_, same]
    exact counted
  cases commit with
  | persist tx db finished written =>
      obtain ⟨results, _, _, inserted, _, _, rfl⟩ := persist_commit_cases written
      rw [Table.insert_new_eq_some] at inserted
      rw [List.countP_append, counted, inserted.2, Table.get_put]
      by_cases same : checkId = tx.checkId
      · rw [same, inserted.1]
        simp [Event.records]
      · have other : ¬ tx.checkId = checkId := fun equal => same equal.symm
        simp [Event.records, same, other]
  | createDue tx db written =>
      apply unchanged
      · exact (create_due_checks_kept written).results
      · simp
  | monitor tx db _ written =>
      apply unchanged
      · exact (monitor_commit_cases written).1
      · intro event member
        split at member
        · rw [List.mem_singleton] at member
          rw [member]
          rfl
        · cases member
  | claimIgnored tx db _ written =>
      exact unchanged (claim_commit_same_ledger written).results (by simp)
  | claimGranted tx db claimed written =>
      exact unchanged (claim_commit_same_ledger written).results (by simp [Event.records])
  | markSent tx db _ written =>
      exact unchanged (mark_sent_commit_same_ledger written).results (by simp)
  | channel tx => exact unchanged (channel_commit_same_ledger s.db tx).results (by simp)

theorem persist_advance_quiet {s : System} {t : TxId} {a : Action} {tx next : PersistTx}
    (quiet : tx.Quiet) (advance : PersistAdvance s t tx a next) : next.Quiet := by
  have transition := (advance_kept advance).2.2.2.2.2
  have effects : next.incidentEffect = tx.incidentEffect := by
    unfold PersistTx.incidentEffect
    rw [transition]
  intro silent
  rw [effects] at silent
  obtain ⟨empty, idle⟩ := quiet silent
  cases advance with
  | effect newIncidentId begun =>
      unfold applyIncidentEffect
      rw [silent]
      exact ⟨empty, by simp⟩
  | resolve _ resolved =>
      obtain ⟨resolution, stage⟩ := (resolve_step_stage resolved).1
      exact absurd stage (idle resolution)

theorem history_invariant_step {s after : System} {a : Action} (ledger : LedgerInvariant s)
    (invariant : HistoryInvariant s) (taken : step s a = some after) : HistoryInvariant after := by
  have stepped := step_cases taken
  have folds : ∀ monitorId row, after.db.monitors.get monitorId = some row →
      FoldsResults after monitorId row := by
    intro monitorId next found
    obtain ⟨events, grown, moves⟩ := step_monitor_move ledger stepped
    cases moves monitorId next found with
    | kept row silent before state config =>
        exact folds_results_kept ledger invariant stepped grown silent before state config
    | reset only reset =>
        rw [only] at grown
        exact reset_folds grown reset
    | recorded t tx inProgress committed own only written same =>
        rw [only] at grown
        rw [same, ← own]
        exact persist_commit_folds ledger invariant committed inProgress written grown
  have quiet : ∀ t tx, after.txs.get t = some (.persist tx) → tx.Quiet := by
    intro t tx found
    cases step_tx_source stepped found with
    | stayed before => exact invariant.quiet t tx before
    | advanced before next own inProgress advance same =>
        cases own
        exact persist_advance_quiet (invariant.quiet t before inProgress) advance
    | begun jobs attempts unused begun same =>
        cases begun with
        | persist job id check original config result databaseTime tx running started free =>
            obtain ⟨stage, _, outbox⟩ := persist_begin_fresh started
            intro _
            exact ⟨outbox, by simp [stage]⟩
  refine ⟨?_, folds, quiet⟩
  cases stepped with
  | committed t tx db attempts events inProgress commit =>
      intro checkId
      exact tx_commit_counted commit checkId (invariant.counted checkId)
  | channel => exact invariant.counted
  | ledger => exact invariant.counted
  | began => exact invariant.counted
  | advanced => exact invariant.counted
  | failed => exact invariant.counted
  | dispatcher => exact invariant.counted
  | aborted => exact invariant.counted

theorem history_invariant_reachable {s : System} (reachable : Reachable s) :
    HistoryInvariant s := by
  apply reachable.invariant_with LedgerInvariant HistoryInvariant
  · intro state holds
    exact ledger_invariant_reachable holds
  · constructor
    · intro checkId
      rfl
    · intro monitorId row found
      cases found
    · intro t tx found
      cases found
  · intro state label after ledger invariant taken
    exact history_invariant_step ledger invariant taken

/-- The check of a transaction has been canceled or belongs to an older configuration. -/
def StaleCheck (db : Database) (checkId : CheckId) : Prop :=
  ∀ check, db.checks.get checkId = some check → check.status = .canceled ∨
    ∀ monitor, db.monitors.get check.monitorId = some monitor →
      check.configVersion ≠ monitor.configVersion

structure ExactlyOnce (s : System) : Prop where
  oneResult : ∀ checkId, s.history.countP (Event.records checkId) =
    if (s.db.results.get checkId).isSome then 1 else 0
  resultForever : ∀ visited later, Transition.Run step s visited later → ∀ checkId result,
    s.db.results.get checkId = some result → later.db.results.get checkId = some result
  oneTransition : ∀ a after monitorId row next, step s a = some after →
    s.db.monitors.get monitorId = some row → after.db.monitors.get monitorId = some next →
      next.state ≠ row.state →
        after.history = s.history ++ [.reset monitorId] ∨
          ∃ checkId, s.db.results.get checkId = none ∧
            after.history = s.history ++ [.recorded monitorId checkId]
  folds : ∀ monitorId row, s.db.monitors.get monitorId = some row → FoldsResults s monitorId row
  staleInert : ∀ t tx after, s.txs.get t = some (.persist tx) →
    step s (.commit t) = some after → StaleCheck s.db tx.checkId →
      after.db.monitors = s.db.monitors ∧ after.db.incidents = s.db.incidents ∧
        after.db.outbox = s.db.outbox

/-- The commit for a stale check writes the result and nothing that the result decides. -/
theorem stale_commit_inert {s after : System} {t : TxId} {tx : PersistTx}
    (ledger : LedgerInvariant s) (health : HealthInvariant s) (invariant : HistoryInvariant s)
    (inProgress : s.txs.get t = some (.persist tx)) (taken : step s (.commit t) = some after)
    (stale : StaleCheck s.db tx.checkId) :
    after.db.monitors = s.db.monitors ∧ after.db.incidents = s.db.incidents ∧
      after.db.outbox = s.db.outbox := by
  have view := (ledger.views t _ inProgress).1
  obtain ⟨check, found, slot, active⟩ := view.check
  have nothing : tx.transition = none := by
    cases readActive : tx.check.status.isActive with
    | false => exact persist_inactive_transition view readActive
    | true =>
        have version := (persist_active_transition view ledger.consistent readActive).1
        rcases stale check found with canceled | older
        · rw [canceled, readActive] at active
          cases active
        · rw [slot.1, slot.2.2] at older
          exact absurd version (older tx.monitor view.monitor)
  have silent : tx.incidentEffect = .none := by rw [PersistTx.incidentEffect, nothing]
  have empty := (invariant.quiet t tx inProgress silent).1
  obtain ⟨finished, written⟩ := persist_committed (step_cases taken) inProgress
  have untouched : tx.incident = .none := by
    have realizes := health.realizes t tx inProgress (by simp [finished])
    rw [silent] at realizes
    cases write : tx.incident with
    | none => rfl
    | _ =>
        rw [write] at realizes
        exact absurd realizes id
  have sameRows : ∀ key row, tx.rowWrite key row = row := by
    simp [PersistTx.rowWrite, empty, OutboxWrites.empty]
  have sameMonitors : ∀ row, tx.monitorWrite row = row := by
    simp [PersistTx.monitorWrite, nothing]
  have monitors : s.db.monitors.updateKey tx.monitorId tx.monitorWrite = s.db.monitors :=
    Table.update_where_fixed _ _ fun _ => sameMonitors
  obtain ⟨results, incidents, outbox, _, applied, inserted, database⟩ :=
    persist_commit_cases written
  rw [untouched, IncidentWrite.apply, Option.some_inj] at applied
  rw [empty, Table.update_where_fixed _ _ sameRows] at inserted
  rw [database]
  refine ⟨monitors, applied.symm, ?_⟩
  simpa [OutboxWrites.empty, Table.insertAll] using inserted.symm

theorem scheduled_checks_applied_once {s : System} (reachable : Reachable s) : ExactlyOnce s := by
  have ledger := ledger_invariant_reachable reachable
  have invariant := history_invariant_reachable reachable
  constructor
  · exact invariant.counted
  · intro visited later run checkId result found
    apply run.preserves (fun _ _ => True)
      (fun state => state.db.results.get checkId = some result) found
    · intro state label after stored _ taken
      exact step_results_kept (step_cases taken) stored
    · intro _ _ _
      trivial
  · intro a after monitorId row next taken before found changed
    obtain ⟨events, grown, moves⟩ := step_monitor_move ledger (step_cases taken)
    cases moves monitorId next found with
    | kept other silent stored state config =>
        rw [before, Option.some_inj] at stored
        rw [← stored] at state
        exact absurd state changed
    | reset only reset =>
        rw [only] at grown
        exact Or.inl grown
    | recorded t tx inProgress committed own only written same =>
        have view := (ledger.views t _ inProgress).1
        rw [only, own] at grown
        exact Or.inr ⟨tx.checkId, view.noResult, grown⟩
  · exact invariant.folds
  · intro t tx after inProgress taken stale
    exact stale_commit_inert ledger (health_invariant_reachable reachable) invariant inProgress
      taken stale

/-- Two results that count, after one for a check that an update of the monitor canceled. -/
theorem scheduled_checks_applied_once_sample :
    ∃ s, ExactlyOnce s ∧ (s.history.countP (Event.records 1) = 1 ∧
      ((s.db.monitors.get 1).any fun row => (s.countedInputs 1 row).length = 2) = true) := by
  obtain ⟨s, reachable, tested⟩ := reachable_of_script
    (Script.setUp ++ Script.startCheck 1 1 1000 ++ Script.administer .pause 1500 ++
      Script.beginResult 0 1 .targetFailure 2000 ++ [.commit 0] ++
      Script.administer .resume 3000 ++ Script.failingCheck 2 1 61000 ++
      Script.recoveringCheck 3 1 121000)
    (fun s => decide (s.history.countP (Event.records 1) = 1) &&
      (s.db.monitors.get 1).any fun row => (s.countedInputs 1 row).length = 2) (by decide +kernel)
  rw [Bool.and_eq_true, decide_eq_true_eq] at tested
  exact ⟨s, scheduled_checks_applied_once reachable, tested⟩

end LinkAlive
