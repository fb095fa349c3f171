import LinkAlive.Ledger.Commits

/-!
# The ledger invariant along runs

A step leaves alone what another transaction has locked, so that the views of the
transactions in progress survive it. The invariant of reachable states follows.
-/

namespace LinkAlive

open Relational

set_option autoImplicit false

/-- Nothing that belongs to the monitors that a transaction has locked has changed, except
for the leases of its active checks. -/
structure Undisturbed (db after : Database) (tx : Transaction) : Prop where
  monitors : ∀ id, tx.locksMonitor id = true → after.monitors.get id = db.monitors.get id
  checks : ∀ id row, db.checks.get id = some row → tx.locksMonitor row.monitorId = true →
    ∃ next, after.checks.get id = some next ∧ CheckMove row next ∧
      next.status.isActive = row.status.isActive
  results : ∀ id row, db.checks.get id = some row → tx.locksMonitor row.monitorId = true →
    after.results.get id = db.results.get id
  incidents : ∀ id row, db.incidents.get id = some row → tx.locksMonitor row.monitorId = true →
    after.incidents.get id = some row
  incidentsNew : ∀ id row, after.incidents.get id = some row →
    tx.locksMonitor row.monitorId = true → db.incidents.get id = some row

theorem SameLedger.undisturbed {db after : Database} (same : SameLedger db after)
    (tx : Transaction) : Undisturbed db after tx := by
  constructor
  · intro id _
    rw [same.monitors]
  · intro id row found _
    rw [same.checks]
    exact ⟨row, found, .kept row, rfl⟩
  · intro id row _ _
    rw [same.results]
  · intro id row found _
    rw [same.incidents]
    exact found
  · intro id row found _
    rw [same.incidents] at found
    exact found

theorem LedgerCommit.undisturbed {db after : Database} {tx other : Transaction}
    (commit : LedgerCommit db after tx)
    (apart : ∀ id, other.locksMonitor id = true → tx.locksMonitor id = false) :
    Undisturbed db after other := by
  constructor
  · intro id held
    exact commit.monitors id (apart id held)
  · intro id row found held
    exact ⟨row, commit.checks id row found (apart _ held), .kept row, rfl⟩
  · intro id row found held
    exact commit.results id row found (apart _ held)
  · intro id row found held
    exact commit.incidents id row found (apart _ held)
  · intro id row found held
    exact commit.incidentsNew id row found (apart _ held)

theorem TxView.undisturbed {db after : Database} {tx : Transaction} (view : TxView db tx)
    (kept : Undisturbed db after tx) : TxView after tx := by
  cases tx with
  | persist tx =>
      obtain ⟨read, incident, begun⟩ := view
      have own : (Transaction.persist tx).locksMonitor tx.monitorId = true := by
        simp [Transaction.locksMonitor]
      obtain ⟨row, stored, slot, _⟩ := read.check
      have held : (Transaction.persist tx).locksMonitor row.monitorId = true := by
        rw [slot.1]
        exact own
      refine ⟨?_, ?_, begun⟩
      · apply read.moved (kept.monitors _ own)
        · intro other found same
          rw [found, Option.some_inj] at stored
          subst stored
          exact kept.checks tx.checkId other found held
        · exact kept.results tx.checkId row stored held
      · apply incident.moved rfl rfl
        intro id open_ found same
        apply kept.incidents id open_ found
        rw [same]
        exact own
  | createDue tx =>
      intro entry member
      obtain ⟨monitor, stored, active, version⟩ := view entry member
      have held : (Transaction.createDue tx).locksMonitor entry.1.id = true := by
        simp only [Transaction.locksMonitor, List.any_eq_true, decide_eq_true_eq]
        exact ⟨entry, member, rfl⟩
      exact ⟨monitor, (kept.monitors _ held).trans stored, active, version⟩
  | monitor tx =>
      intro row stored
      have held : (Transaction.monitor tx).locksMonitor tx.id = true := by
        simp [Transaction.locksMonitor]
      rw [kept.monitors _ held] at stored
      exact view row stored
  | claim => trivial
  | markSent => trivial
  | channel => trivial

theorem tx_commit_ledger {s : System} {t : TxId} {tx : Transaction} {db : Database}
    {attempts : Attempts} {events : List Event} (invariant : LedgerInvariant s)
    (inProgress : s.txs.get t = some tx) (commit : TxCommit s t tx db attempts events) :
    LedgerCommit s.db db tx := by
  have view := invariant.views t tx inProgress
  cases commit with
  | persist tx db _ written =>
      exact persist_commit_ledger invariant.consistent view.1 view.2.1 written
  | claimIgnored tx db _ written =>
      exact (claim_commit_same_ledger written).commit invariant.consistent _
  | claimGranted tx db claimed written =>
      exact (claim_commit_same_ledger written).commit invariant.consistent _
  | markSent tx db _ written =>
      exact (mark_sent_commit_same_ledger written).commit invariant.consistent _
  | createDue tx db written => exact create_due_commit_ledger invariant.consistent view written
  | monitor tx db _ written => exact monitor_commit_ledger invariant.consistent written
  | channel tx =>
      exact (channel_commit_same_ledger s.db tx).commit invariant.consistent _

/-- Statements of the scheduler and the worker do not touch what they have not written. -/
theorem ledger_statement_undisturbed {s : System} {a : Action} {checks : Checks} {jobs : Jobs}
    (statement : LedgerStatement s a checks jobs) (invariant : LedgerInvariant s)
    (tx : Transaction) : Undisturbed s.db { s.db with checks := checks } tx := by
  constructor
  · intro id _
    rfl
  · intro id row found _
    exact (ledger_statement_moves statement invariant id).2 row found
  · intro id row _ _
    rfl
  · intro id row found _
    exact found
  · intro id row found _
    exact found

theorem step_undisturbed {s after : System} {a : Action} (invariant : LedgerInvariant s)
    (stepped : Stepped s a after) {t : TxId} {tx : Transaction}
    (inProgress : s.txs.get t = some tx) (stays : (after.txs.get t).isSome = true) :
    Undisturbed s.db after.db tx := by
  have unchanged : Undisturbed s.db s.db tx :=
    SameLedger.undisturbed ⟨rfl, rfl, rfl, rfl⟩ tx
  cases stepped with
  | channel _ _ _ channels =>
      have same : SameLedger s.db { s.db with channels := channels } := ⟨rfl, rfl, rfl, rfl⟩
      exact same.undisturbed tx
  | ledger _ checks jobs statement => exact ledger_statement_undisturbed statement invariant tx
  | began => exact unchanged
  | advanced => exact unchanged
  | failed => exact (mark_failed_same_ledger _ _ _ _ _).undisturbed tx
  | dispatcher _ outbox =>
      have same : SameLedger s.db { s.db with outbox := outbox } := ⟨rfl, rfl, rfl, rfl⟩
      exact same.undisturbed tx
  | committed u ux db attempts events committing commit =>
      apply (tx_commit_ledger invariant committing commit).undisturbed
      intro id held
      cases lock : ux.locksMonitor id with
      | false => rfl
      | true =>
          have same : t = u := invariant.exclusive id t u tx ux inProgress committing held lock
          rw [same, Table.get_remove, if_pos rfl] at stays
          cases stays
  | aborted => exact unchanged

theorem monitor_change_view {db : Database} {id : MonitorId} {request : MonitorRequest}
    {change : MonitorChange} (changed : monitorChange db id request = some change)
    {row : MonitorRow} (stored : db.monitors.get id = some row) : ChangeView change row := by
  unfold monitorChange at changed
  cases request with
  | create input =>
      simp only at changed
      split at changed <;> cases changed
      trivial
  | update patch =>
      simp only [stored, Option.bind_eq_bind, Option.bind_some] at changed
      split at changed
      · cases changed
      · split at changed
        · cases changed
        · cases changed
          split
          · trivial
          · rename_i unchanged
            simp only [ne_eq, Bool.or_eq_true, decide_eq_true_eq, not_or, Decidable.not_not]
              at unchanged
            exact unchanged.2
  | pause =>
      simp only [stored, Option.bind_eq_bind, Option.bind_some] at changed
      split at changed <;> cases changed
      trivial
  | resume =>
      simp only [stored, Option.bind_eq_bind, Option.bind_some] at changed
      split at changed
      · cases changed
      · rename_i allowed
        cases changed
        intro active
        simp [active] at allowed
  | remove =>
      simp only [stored, Option.bind_eq_bind, Option.bind_some] at changed
      split at changed <;> cases changed
      trivial

theorem tx_begin_view {s : System} {t : TxId} {a : Action} {tx : Transaction} {jobs : Jobs}
    {attempts : Attempts} (consistent : LedgerConsistent s.db)
    (begun : TxBegin s t a tx jobs attempts) : TxView s.db tx := by
  cases begun with
  | monitor id request change now next changed free =>
      intro row stored
      exact monitor_change_view changed stored
  | channel => trivial
  | createDue now chosen due selected =>
      intro entry member
      exact due_monitor_view (due_entries_mem selected entry member).1
  | persist job id check original config result databaseTime tx running started free =>
      obtain ⟨_, incident, outbox⟩ := persist_begin_fresh started
      exact ⟨persist_begin_view consistent started, by simp [IncidentView, incident],
        fun _ => ⟨incident, outbox⟩⟩
  | claim => trivial
  | markSent => trivial

theorem resolve_step_stage {db : Database} {tx next : PersistTx} {rowFree : OutboxKey → Bool}
    (resolved : resolveStep db tx rowFree = some next) :
    (∃ resolution, tx.stage = .resolving resolution) ∧ next.stage ≠ .begun := by
  obtain ⟨resolution, stage, move⟩ := resolve_step_cases resolved
  refine ⟨⟨resolution, stage⟩, ?_⟩
  cases move <;> simp [Resolution.at]

theorem apply_effect_stage {db : Database} {tx : PersistTx} (newIncidentId : IncidentId) :
    (applyIncidentEffect db tx newIncidentId).stage ≠ .begun := by
  unfold applyIncidentEffect
  split
  · simp
  · split <;> simp
  · split <;> simp
  · split <;> simp
  · simp

theorem persist_advance_view {s : System} {t : TxId} {a : Action} {tx next : PersistTx}
    (view : TxView s.db (.persist tx)) (advance : PersistAdvance s t tx a next) :
    TxView s.db (.persist next) := by
  obtain ⟨read, incident, begun⟩ := view
  obtain ⟨_, checkId, check, monitor, result, transition⟩ := advance_kept advance
  refine ⟨read.advanced checkId check monitor result transition, ?_⟩
  cases advance with
  | effect newIncidentId stage =>
      have untouched := (begun stage).1
      refine ⟨apply_effect_incident_view untouched newIncidentId, ?_⟩
      intro again
      exact absurd again (apply_effect_stage newIncidentId)
  | resolve _ resolved =>
      have write := (resolve_step_kept resolved).2.2.2.2.2.2
      have monitorId : next.monitorId = tx.monitorId := by rw [PersistTx.monitorId, check]; rfl
      refine ⟨incident.moved write monitorId fun _ _ found _ => found, ?_⟩
      intro again
      exact absurd again (resolve_step_stage resolved).2

theorem ledger_statement_jobs {s : System} {a : Action} {checks : Checks} {jobs : Jobs}
    (statement : LedgerStatement s a checks jobs) (invariant : LedgerInvariant s) :
    ∀ job value, jobs.get job = some value → JobView { s.db with checks := checks } value := by
  have moved : ∀ job value, s.jobs.get job = some value →
      JobView { s.db with checks := checks } value := by
    intro job value found
    apply (invariant.jobs job value found).moved
    intro id row stored
    obtain ⟨next, after, move, _⟩ :=
      (ledger_statement_moves statement invariant id).2 row stored
    exact ⟨next, after, move⟩
  have put : ∀ target loaded, JobView { s.db with checks := checks } loaded → ∀ job value,
      (s.jobs.put target loaded).get job = some value →
        JobView { s.db with checks := checks } value := by
    intro target loaded view job value found
    rw [Table.get_put] at found
    split at found
    · cases found
      exact view
    · exact moved job value found
  have removed : ∀ target job value, (s.jobs.remove target).get job = some value →
      JobView { s.db with checks := checks } value := by
    intro target job value found
    rw [Table.get_remove] at found
    split at found
    · cases found
    · exact moved job value found
  cases statement with
  | claimForDispatch => exact moved
  | markEnqueued => exact moved
  | releaseDispatchClaim => exact moved
  | loadCheck job data loaded found => exact put job loaded (load_check_view found)
  | loadMonitor job id check loaded scheduled found =>
      exact put job loaded
        (load_monitor_view invariant.consistent (invariant.jobs job _ scheduled) found)
  | cancelStale job => exact removed job
  | claimCheck job id check monitor owner leaseMs now current =>
      intro other value found
      split at found
      · have view : JobView { s.db with
            checks := claimCheck s.db.checks id owner now (now + leaseMs) }
            (.current id check monitor) := moved job _ current
        exact put job (.running id check monitor) view other value found
      · exact removed job other value found

theorem ledger_statement_consistent {s : System} {a : Action} {checks : Checks} {jobs : Jobs}
    (statement : LedgerStatement s a checks jobs) (invariant : LedgerInvariant s) :
    LedgerConsistent { s.db with checks := checks } := by
  have moves := ledger_statement_moves statement invariant
  have moved : ChecksMoved s.db.checks checks := by
    intro id
    refine ⟨(moves id).1, ?_⟩
    intro row found
    obtain ⟨next, after, move, _⟩ := (moves id).2 row found
    exact ⟨next, after, move⟩
  have activity : ∀ id row next, s.db.checks.get id = some row → checks.get id = some next →
      next.status.isActive = row.status.isActive := by
    intro id row next found after
    obtain ⟨other, stored, _, active⟩ := (moves id).2 row found
    rw [after, Option.some_inj] at stored
    rw [stored]
    exact active
  apply invariant.consistent.moved moved
  · intro id row next found after active
    rw [activity id row next found after] at active
    exact invariant.consistent.active id row found active
  · intro id result found
    exact found
  · intro id result found absent
    have present : s.db.results.get id = some result := found
    rw [present] at absent
    cases absent
  · intro id row next found after active status
    have same := activity id row next found after
    rw [active, status] at same
    cases same

theorem ledger_invariant_step {s after : System} {a : Action} (invariant : LedgerInvariant s)
    (taken : step s a = some after) : LedgerInvariant after := by
  have stepped := step_cases taken
  have views : ∀ t tx, after.txs.get t = some tx → TxView after.db tx := by
    intro t tx later
    cases step_tx_source stepped later with
    | stayed inProgress =>
        have undisturbed := step_undisturbed invariant stepped inProgress (Option.isSome_of_mem later)
        exact (invariant.views t tx inProgress).undisturbed undisturbed
    | advanced before next same inProgress advance unchanged =>
        rw [same, unchanged]
        exact persist_advance_view (invariant.views t _ inProgress) advance
    | begun jobs attempts unused begun unchanged =>
        rw [unchanged]
        exact tx_begin_view invariant.consistent begun
  have exclusive : ∀ id, Exclusive (Transaction.locksMonitor id) after := fun id =>
    monitor_exclusive_step id stepped (invariant.exclusive id)
  have ledgerOnly : SameLedger s.db after.db → LedgerConsistent after.db ∧
      ∀ job value, s.jobs.get job = some value → JobView after.db value := by
    intro same
    have commit := same.commit invariant.consistent (.createDue ⟨0, []⟩)
    exact ⟨commit.consistent, fun job value found =>
      (invariant.jobs job value found).moved commit.moves⟩
  cases stepped with
  | channel =>
      obtain ⟨consistent, jobs⟩ := ledgerOnly ⟨rfl, rfl, rfl, rfl⟩
      exact ⟨consistent, jobs, views, exclusive⟩
  | ledger _ checks jobs statement =>
      exact ⟨ledger_statement_consistent statement invariant,
        ledger_statement_jobs statement invariant, views, exclusive⟩
  | began _ t tx jobs attempts begun unused =>
      refine ⟨invariant.consistent, ?_, views, exclusive⟩
      intro job value found
      cases begun with
      | persist running =>
          rw [Table.get_remove] at found
          split at found
          · cases found
          · exact invariant.jobs job value found
      | monitor => exact invariant.jobs job value found
      | channel => exact invariant.jobs job value found
      | createDue => exact invariant.jobs job value found
      | claim => exact invariant.jobs job value found
      | markSent => exact invariant.jobs job value found
  | advanced => exact ⟨invariant.consistent, invariant.jobs, views, exclusive⟩
  | failed attempt claimed error now retryDelayMs =>
      obtain ⟨consistent, jobs⟩ := ledgerOnly (mark_failed_same_ledger _ _ _ _ _)
      exact ⟨consistent, jobs, views, exclusive⟩
  | dispatcher =>
      obtain ⟨consistent, jobs⟩ := ledgerOnly ⟨rfl, rfl, rfl, rfl⟩
      exact ⟨consistent, jobs, views, exclusive⟩
  | committed t tx db attempts events inProgress commit =>
      have ledger := tx_commit_ledger invariant inProgress commit
      refine ⟨ledger.consistent, ?_, views, exclusive⟩
      intro job value found
      exact (invariant.jobs job value found).moved ledger.moves
  | aborted => exact ⟨invariant.consistent, invariant.jobs, views, exclusive⟩

theorem step_check_move {s after : System} {a : Action} (invariant : LedgerInvariant s)
    (stepped : Stepped s a after) {id : CheckId} {row : CheckRow}
    (found : s.db.checks.get id = some row) :
    ∃ next, after.db.checks.get id = some next ∧ CheckMove row next := by
  cases stepped with
  | channel => exact ⟨row, found, .kept row⟩
  | ledger _ checks jobs statement =>
      obtain ⟨next, stored, move, _⟩ :=
        (ledger_statement_moves statement invariant id).2 row found
      exact ⟨next, stored, move⟩
  | began => exact ⟨row, found, .kept row⟩
  | advanced => exact ⟨row, found, .kept row⟩
  | failed => exact ⟨row, found, .kept row⟩
  | dispatcher => exact ⟨row, found, .kept row⟩
  | committed t tx db attempts events inProgress commit =>
      exact (tx_commit_ledger invariant inProgress commit).moves id row found
  | aborted => exact ⟨row, found, .kept row⟩

theorem ledger_invariant_reachable {s : System} (reachable : Reachable s) : LedgerInvariant s := by
  apply reachable.invariant LedgerInvariant ledger_invariant_initial
  intro state label after invariant taken
  exact ledger_invariant_step invariant taken

end LinkAlive
