import LinkAlive.Outbox.IncidentViews

/-!
# What steps read of an incident

Two states that are alike for an incident begin the same transactions about it, and its
statements and dispatchers come to the same results. The one thing that they read beyond the
views are the bindings: a resolution reads them for its DOWN rows, and the late success of a
DOWN row reads the one of its channel.
-/

namespace LinkAlive

open Relational Transition

set_option autoImplicit false

def PersistTx.recovers (tx : PersistTx) (db : Database) (incidentId : IncidentId) : Bool :=
  match tx.incidentEffect with
  | .resolve .. => (openIncident db tx.monitorId).any fun entry => entry.1 = incidentId
  | _ => false

def ClaimedNotification.isLate (claimed : ClaimedNotification) (db : Database)
    (incidentId : IncidentId) : Bool :=
  ofIncident incidentId claimed.key && claimed.row.eventType = .down &&
    (db.incidents.get incidentId).any fun incident => incident.status = .resolved

def sameBinding (left right : Database) (monitorId : MonitorId) (channelId : ChannelId) : Bool :=
  boundForRecovery left monitorId channelId = boundForRecovery right monitorId channelId

/-- Where the step asks for a recovery of the incident, both states have the same binding. -/
def sameReads (incidentId : IncidentId) (left right : System) : Action → Bool
  | .applyEffect t _ =>
      match left.txs.get t with
      | some (.persist tx) => !tx.recovers left.db incidentId ||
          (left.db.outbox.part (ofIncident incidentId)).all fun entry =>
            entry.2.eventType ≠ .down ||
              sameBinding left.db right.db tx.monitorId entry.1.channelId
      | _ => true
  | .beginMarkSent _ attempt _ _ _ =>
      (left.attempts.get attempt).all fun claimed => !claimed.isLate left.db incidentId ||
        sameBinding left.db right.db claimed.row.monitorId claimed.key.channelId
  | _ => true

section Reads

variable {incidentId : IncidentId} {left right : Database} (same : SameView incidentId left right)

include same

theorem load_check_alike (data : CheckJobData) : loadCheck left data = loadCheck right data := by
  rw [loadCheck, loadCheck, same.checks]

theorem load_monitor_alike (id : CheckId) (check : CheckRow) :
    loadMonitor left id check = loadMonitor right id check := by
  rw [loadMonitor, loadMonitor, same.monitors, same.results]

theorem persist_begin_alike (id : CheckId) (original : MonitorRow) (config : CheckProcessorConfig)
    (result : MonitorCheckResult) (databaseTime : Time) :
    persistBegin left id original config result databaseTime =
      persistBegin right id original config result databaseTime := by
  rw [persistBegin, persistBegin, same.checks, same.results, same.monitors]

/-- An operation sees the same monitor; the channels and the open attempts may differ. -/
theorem monitor_change_alike {id : MonitorId} {request : MonitorRequest}
    {change other : MonitorChange} (first : monitorChange left id request = some change)
    (second : monitorChange right id request = some other) : change.bare = other.bare := by
  unfold monitorChange at first second
  rw [← same.monitors] at second
  cases request with
  | create input =>
      simp only [Option.ite_none_right_eq_some, Option.some.injEq] at first second
      rw [← first.2, ← second.2]
  | update patch =>
      simp only [Option.bind_eq_bind, Option.bind_eq_some_iff] at first second
      obtain ⟨current, stored, first⟩ := first
      obtain ⟨again, found, second⟩ := second
      rw [stored, Option.some.injEq] at found
      subst found
      split at first
      · cases first
      · rename_i url envelope
        rw [envelope] at second
        dsimp only at first second
        rw [Option.ite_none_left_eq_some] at first second
        rw [← Option.some.inj first.2, ← Option.some.inj second.2]
        simp only [MonitorChange.bare, Option.map_if]
        rfl
  | pause =>
      simp only [Option.bind_eq_bind, Option.bind_eq_some_iff, Option.ite_none_left_eq_some,
        Option.some.injEq] at first second
      obtain ⟨_, -, -, rfl⟩ := first
      obtain ⟨_, -, -, rfl⟩ := second
      rfl
  | resume =>
      simp only [Option.bind_eq_bind, Option.bind_eq_some_iff, Option.ite_none_left_eq_some,
        Option.some.injEq] at first second
      obtain ⟨_, -, -, rfl⟩ := first
      obtain ⟨_, -, -, rfl⟩ := second
      rfl
  | remove =>
      simp only [Option.bind_eq_bind, Option.bind_eq_some_iff, Option.ite_none_left_eq_some,
        Option.some.injEq] at first second
      obtain ⟨_, -, -, rfl⟩ := first
      obtain ⟨_, -, -, rfl⟩ := second
      rfl

omit same in
theorem channel_change_alike {id : ChannelId} {request : ChannelRequest}
    {change other : ChannelChange} (first : channelChange left id request = some change)
    (second : channelChange right id request = some other) : change.bare = other.bare := by
  simp only [channelChange, Option.bind_eq_bind, Option.bind_eq_some_iff,
    Option.ite_none_left_eq_some] at first second
  obtain ⟨current, stored, -, first⟩ := first
  obtain ⟨again, found, -, second⟩ := second
  cases request with
  | update patch =>
      simp only [Option.ite_none_left_eq_some] at first second
      rw [← Option.some.inj first.2, ← Option.some.inj second.2]
      rfl
  | remove =>
      rw [← Option.some.inj first, ← Option.some.inj second]
      rfl

theorem due_monitor_alike (now : Time) (id : MonitorId) :
    dueMonitor left now id = dueMonitor right now id := by
  rw [dueMonitor, dueMonitor, same.monitors, same.checks]

theorem open_incident_alike (monitorId : MonitorId) :
    openIncident left monitorId = openIncident right monitorId := by
  rw [openIncident, openIncident, same.incidents]

theorem ensure_recovery_alike {claimed : ClaimedNotification}
    (own : ofIncident incidentId claimed.key = true)
    (bound : claimed.isLate left incidentId = true →
      sameBinding left right claimed.row.monitorId claimed.key.channelId = true)
    (databaseTime : Time) :
    ensureRecoveryAfterLateDownSuccess left claimed databaseTime =
      ensureRecoveryAfterLateDownSuccess right claimed databaseTime := by
  have followUp : left.outbox.get claimed.key.followUp = right.outbox.get claimed.key.followUp :=
    same.row own
  unfold ensureRecoveryAfterLateDownSuccess
  rw [← same.incidents, ← same.live, ← followUp, ← same.monitors]
  split
  · rfl
  · rename_i wanted
    split
    · rfl
    · rename_i incident stored
      split
      · rfl
      · split
        · rfl
        · rename_i resolved
          have target : claimed.key.incidentId = incidentId := of_decide_eq_true own
          have late : claimed.isLate left incidentId = true := by
            rw [target] at stored
            simp only [Bool.or_eq_true, decide_eq_true_eq, not_or, ne_eq,
              Decidable.not_not] at wanted
            rw [ne_eq, Decidable.not_not] at resolved
            simp [ClaimedNotification.isLate, own, stored, wanted.1, resolved]
          rw [of_decide_eq_true (bound late)]

theorem mark_sent_begin_alike {claimed : ClaimedNotification}
    (own : ofIncident incidentId claimed.key = true)
    (bound : claimed.isLate left incidentId = true →
      sameBinding left right claimed.row.monitorId claimed.key.channelId = true)
    (providerMessageId : Option String) (now databaseTime : Time) :
    markSentBegin left claimed providerMessageId now databaseTime =
      markSentBegin right claimed providerMessageId now databaseTime := by
  rw [markSentBegin, markSentBegin, ensure_recovery_alike same own bound]

end Reads

theorem binds_only_bare (tx : MonitorTx) (monitors : Table MonitorId MonitorRow) :
    tx.bare.bindsOnly monitors = tx.bindsOnly monitors := by
  obtain ⟨id, now, next, change⟩ := tx
  cases change with
  | update merged found => cases found <;> rfl
  | create => rfl
  | pause => rfl
  | resume => rfl
  | remove => rfl

/-- What an operation means depends on its bare form only. -/
theorem about_of_bare {tx other : MonitorTx} (same : tx.bare = other.bare)
    (incidentId : IncidentId) (monitors : Table MonitorId MonitorRow) :
    (Transaction.monitor tx).about incidentId monitors =
      (Transaction.monitor other).about incidentId monitors := by
  rw [Transaction.about, Transaction.about, ← binds_only_bare tx, ← binds_only_bare other, same]

section Common

variable {incidentId : IncidentId} {left right : System} (alike : Alike incidentId left right)

include alike

theorem ledger_alike {a : Action} {checks otherChecks : Checks} {jobs otherJobs : Jobs}
    (first : LedgerStatement left a checks jobs)
    (second : LedgerStatement right a otherChecks otherJobs) :
    checks = otherChecks ∧ jobs = otherJobs := by
  have sameChecks := alike.db.checks
  have sameJobs := alike.jobs
  cases first with
  | claimForDispatch id owner now leaseUntil =>
      cases second
      rw [sameChecks, sameJobs]
      exact ⟨rfl, rfl⟩
  | markEnqueued id owner now leaseUntil =>
      cases second
      rw [sameChecks, sameJobs]
      exact ⟨rfl, rfl⟩
  | releaseDispatchClaim id owner safeReason =>
      cases second
      rw [sameChecks, sameJobs]
      exact ⟨rfl, rfl⟩
  | loadCheck job data loaded found =>
      cases second with
      | loadCheck _ _ other also =>
          rw [load_check_alike alike.db, also, Option.some.injEq] at found
          rw [sameChecks, sameJobs, found]
          exact ⟨rfl, rfl⟩
  | loadMonitor job id check loaded scheduled found =>
      cases second with
      | loadMonitor _ otherId otherCheck other also alsoFound =>
          rw [sameJobs, also, Option.some.injEq, CheckJob.scheduled.injEq] at scheduled
          obtain ⟨rfl, rfl⟩ := scheduled
          rw [load_monitor_alike alike.db, alsoFound, Option.some.injEq] at found
          rw [sameChecks, sameJobs, found]
          exact ⟨rfl, rfl⟩
  | cancelStale job id now stale =>
      cases second with
      | cancelStale _ otherId _ also =>
          rw [sameJobs, also, Option.some.injEq, CheckJob.stale.injEq] at stale
          rw [sameChecks, sameJobs, stale]
          exact ⟨rfl, rfl⟩
  | claimCheck job id check monitor owner leaseMs now current =>
      cases second with
      | claimCheck _ otherId otherCheck otherMonitor _ _ _ also =>
          rw [sameJobs, also, Option.some.injEq, CheckJob.current.injEq] at current
          obtain ⟨rfl, rfl, rfl⟩ := current
          rw [sameChecks, sameJobs]
          exact ⟨rfl, rfl⟩

/-- The scheduler chooses the same monitors in both states. -/
theorem due_entries_alike {now : Time} {chosen : List (MonitorId × CheckId)}
    {due other : List (DueMonitor × CheckId)} (first : left.dueEntries now chosen = some due)
    (second : right.dueEntries now chosen = some other) : due = other := by
  induction chosen generalizing due other with
  | nil =>
      cases first
      cases second
      rfl
  | cons head rest ih =>
      obtain ⟨id, checkId⟩ := head
      simp only [System.dueEntries, Option.bind_eq_bind, Option.bind_eq_some_iff,
        Option.ite_none_right_eq_some, Option.some.injEq] at first second
      obtain ⟨monitor, isDue, entries, selected, -, rfl⟩ := first
      obtain ⟨again, alsoDue, others, alsoSelected, -, rfl⟩ := second
      rw [due_monitor_alike alike.db, alsoDue, Option.some.injEq] at isDue
      rw [isDue, ih selected alsoSelected]

theorem begin_alike (attempts : AttemptInvariant left) (otherAttempts : AttemptInvariant right)
    {t : TxId} {a : Action} {tx other : Transaction} {jobs otherJobs : Jobs}
    {rest otherRest : Attempts} (first : TxBegin left t a tx jobs rest)
    (second : TxBegin right t a other otherJobs otherRest)
    (agreed : sameReads incidentId left right a = true) :
    tx.about incidentId left.db.monitors = other.about incidentId right.db.monitors ∧
      jobs = otherJobs ∧ ∀ attempt : OutboxKey × Nat, ofIncident incidentId attempt.1 = true →
        rest.get attempt = otherRest.get attempt := by
  rw [← alike.db.monitors]
  cases first with
  | monitor id request change now next changed =>
      cases second with
      | monitor _ _ otherChange _ _ alsoChanged =>
          have bare := monitor_change_alike alike.db changed alsoChanged
          refine ⟨about_of_bare ?_ incidentId _, alike.jobs, alike.attempts⟩
          rw [MonitorTx.bare, MonitorTx.bare]
          dsimp only
          rw [bare]
  | channel id request change now changed =>
      cases second with
      | channel _ _ otherChange _ alsoChanged =>
          have bare := channel_change_alike changed alsoChanged
          refine ⟨?_, alike.jobs, alike.attempts⟩
          simp only [Transaction.about, ChannelTx.bare, bare]
  | createDue now chosen due selected =>
      cases second with
      | createDue _ _ otherDue alsoSelected =>
          rw [due_entries_alike alike selected alsoSelected]
          exact ⟨rfl, alike.jobs, alike.attempts⟩
  | persist job id check original config result databaseTime tx running started =>
      cases second with
      | persist _ otherId otherCheck otherOriginal _ _ _ otherTx alsoRunning alsoStarted =>
          rw [alike.jobs, alsoRunning, Option.some.injEq, CheckJob.running.injEq] at running
          obtain ⟨rfl, rfl, rfl⟩ := running
          rw [persist_begin_alike alike.db, alsoStarted, Option.some.injEq] at started
          rw [started, alike.jobs]
          exact ⟨rfl, rfl, alike.attempts⟩
  | claim key row instanceId leaseMs now =>
      cases second with
      | claim _ otherRow =>
          rw [alike.db.live]
          exact ⟨rfl, alike.jobs, alike.attempts⟩
  | markSent attempt claimed providerMessageId now databaseTime remembered =>
      cases second with
      | markSent _ otherClaimed _ _ _ alsoRemembered =>
          have filed := attempts.filed attempt claimed remembered
          have alsoFiled := otherAttempts.filed attempt otherClaimed alsoRemembered
          refine ⟨?_, alike.jobs, ?_⟩
          · cases own : ofIncident incidentId attempt.1 with
            | false =>
                have key : claimed.key = attempt.1 := by rw [filed]
                have otherKey : otherClaimed.key = attempt.1 := by rw [alsoFiled]
                simp [Transaction.about, markSentBegin, key, otherKey, own]
            | true =>
                rw [alike.attempts attempt own, alsoRemembered, Option.some.injEq] at remembered
                subst remembered
                have key : ofIncident incidentId otherClaimed.key = true := by
                  rw [alsoFiled] at own
                  exact own
                have leftRemembered : left.attempts.get attempt = some otherClaimed := by
                  rw [alike.attempts attempt own, alsoRemembered]
                simp only [sameReads, leftRemembered, Option.all_some, Bool.or_eq_true,
                  Bool.not_eq_true'] at agreed
                rw [mark_sent_begin_alike alike.db key fun late =>
                  agreed.resolve_left (by simp [late])]
          · intro other own
            rw [Table.get_remove, Table.get_remove, alike.attempts other own]

end Common

section Shown

variable {incidentId : IncidentId} {tx other : PersistTx}

theorem shown_of_other (foreign : tx.resolves incidentId = false) :
    tx.shown incidentId = tx.bare := by
  rw [PersistTx.shown, foreign, if_neg Bool.false_ne_true]

theorem shown_of_own (own : tx.resolves incidentId = true) : tx.shown incidentId = tx := by
  rw [PersistTx.shown, own, if_pos rfl]

theorem shown_bare : (tx.shown incidentId).bare = tx.bare := by
  unfold PersistTx.shown
  split <;> rfl

theorem field_of_bare {Field : Type} (field : PersistTx → Field)
    (kept : ∀ tx : PersistTx, field tx.bare = field tx) (same : tx.bare = other.bare) :
    field tx = field other := by
  rw [← kept tx, same, kept]

/-- Transactions that mean the same agree outside of their notifications. -/
theorem bare_of_shown (same : tx.shown incidentId = other.shown incidentId) :
    tx.bare = other.bare := by
  rw [← shown_bare, same, shown_bare]

theorem resolves_of_shown (same : tx.shown incidentId = other.shown incidentId) :
    tx.resolves incidentId = other.resolves incidentId :=
  resolves_of_incident (congrArg PersistTx.incident (bare_of_shown same)) incidentId

theorem eq_of_shown (same : tx.shown incidentId = other.shown incidentId)
    (own : tx.resolves incidentId = true) : tx = other := by
  have alsoOwn := (resolves_of_shown same).symm.trans own
  rw [shown_of_own own, shown_of_own alsoOwn] at same
  exact same

end Shown

theorem down_events_alike {incidentId : IncidentId} {left right : Database}
    (same : SameView incidentId left right) {monitorId : MonitorId}
    (bound : ∀ key row, (key, row) ∈ left.outbox.part (ofIncident incidentId) →
      row.eventType = .down → sameBinding left right monitorId key.channelId = true) :
    recoveryDownEvents left monitorId incidentId =
      recoveryDownEvents right monitorId incidentId := by
  have own : ∀ (db : Database) (key : OutboxKey) (row : OutboxRow),
      (decide (key.incidentId = incidentId) && row.eventType = .down &&
        channelLive db key.channelId && boundForRecovery db monitorId key.channelId) = true →
          ofIncident incidentId key = true := by
    intro db key row met
    simp only [Bool.and_eq_true] at met
    exact met.1.1.1
  rw [recoveryDownEvents, recoveryDownEvents, Table.select_of_part _ (own left),
    Table.select_of_part _ (own right), ← same.rows]
  apply List.filter_congr
  rintro ⟨key, row⟩ member
  dsimp only
  rw [same.live]
  by_cases down : row.eventType = .down
  · rw [of_decide_eq_true (bound key row member down)]
  · simp [down]

theorem apply_effect_alike {incidentId : IncidentId} {left right : Database}
    (same : SameView incidentId left right) {tx : PersistTx}
    (bound : tx.recovers left incidentId = true →
      ∀ key row, (key, row) ∈ left.outbox.part (ofIncident incidentId) →
        row.eventType = .down → sameBinding left right tx.monitorId key.channelId = true)
    (newIncidentId : IncidentId) :
    (applyIncidentEffect left tx newIncidentId).shown incidentId =
      (applyIncidentEffect right tx newIncidentId).shown incidentId := by
  unfold applyIncidentEffect
  rw [← open_incident_alike same]
  split
  · rfl
  · split
    · rfl
    · rw [shown_of_other rfl, shown_of_other rfl]
      rfl
  · split <;> rfl
  · rename_i resolvedAt startedAt effect
    split
    · rename_i id row found
      by_cases own : id = incidentId
      · subst own
        have reads : tx.recovers left id = true := by
          rw [PersistTx.recovers, effect, found, Option.any_some]
          exact decide_eq_true rfl
        rw [down_events_alike same (bound reads)]
      · have foreign : ∀ next : PersistTx, next.incident = .resolve id resolvedAt →
            next.resolves incidentId = false := by
          intro next written
          rw [PersistTx.resolves, written]
          exact decide_eq_false own
        rw [shown_of_other (foreign _ rfl), shown_of_other (foreign _ rfl)]
        rfl
    · rfl
  · rfl

/-- A row that is locked elsewhere makes the loop wait and does nothing else. -/
theorem resolve_step_unlocked {db : Database} {tx next : PersistTx} {rowFree : OutboxKey → Bool}
    (resolved : resolveStep db tx rowFree = some next) :
    resolveStep db tx (fun _ => true) = some next := by
  unfold resolveStep at resolved ⊢
  cases stage : tx.stage with
  | begun => simp only [stage, reduceCtorEq] at resolved
  | done => simp only [stage, reduceCtorEq] at resolved
  | resolving resolution =>
      simp only [stage] at resolved ⊢
      cases todo : resolution.todo with
      | nil =>
          simp only [todo] at resolved ⊢
          exact resolved
      | cons head rest =>
          obtain ⟨key, down⟩ := head
          simp only [todo] at resolved ⊢
          cases phase : resolution.phase with
          | first =>
              simp only [phase, planDown] at resolved ⊢
              split at resolved
              · rename_i excluded
                rw [if_pos excluded]
                exact resolved
              · rename_i allowed
                rw [if_neg allowed]
                cases plan : planRecoveryNotification down.status down.attemptCount with
                | error => simp only [plan, reduceCtorEq] at resolved
                | ok plan' =>
                    rw [plan] at resolved
                    cases plan' with
                    | replaceWithResolvedSummary =>
                        dsimp only at resolved ⊢
                        rw [Option.ite_none_left_eq_some] at resolved
                        exact resolved.2
                    | skip => exact resolved
                    | createRecovery => exact resolved
          | reread =>
              simp only [phase] at resolved ⊢
              exact resolved
          | planned decision =>
              simp only [phase] at resolved ⊢
              rw [Option.ite_none_left_eq_some] at resolved
              simpa using resolved.2

theorem resolve_step_reads {left right : Database} {tx : PersistTx}
    (rows : ∀ resolution key down, tx.stage = .resolving resolution →
      (key, down) ∈ resolution.todo → left.outbox.get key = right.outbox.get key)
    (rowFree : OutboxKey → Bool) : resolveStep left tx rowFree = resolveStep right tx rowFree := by
  unfold resolveStep
  cases stage : tx.stage with
  | begun => rfl
  | done => rfl
  | resolving resolution =>
      dsimp only
      cases todo : resolution.todo with
      | nil => rfl
      | cons head rest =>
          obtain ⟨key, down⟩ := head
          have found := rows resolution key down stage (by simp [todo])
          cases resolution.phase with
          | first =>
              dsimp only [planDown]
              rw [found]
          | reread =>
              dsimp only
              rw [found]
          | planned => rfl

theorem scan_key {db : Database} {owner : InstanceId} {leaseMs : Nat} {now : Time}
    {key : OutboxKey} {state : DispatchState}
    (scanned : scanCandidate db owner leaseMs now key = some state) : state.key = key := by
  simp only [scanCandidate, Option.bind_eq_bind, Option.bind_eq_some_iff,
    Option.ite_none_right_eq_some, Option.some.injEq] at scanned
  obtain ⟨row, -, -, rfl⟩ := scanned
  rfl

theorem bare_of_begun {tx : PersistTx} (stage : tx.stage = .begun) (empty : tx.outbox = .empty) :
    tx.bare = tx := by
  rw [PersistTx.bare, ← stage, ← empty]

section Common

variable {incidentId : IncidentId} {left right : System} (alike : Alike incidentId left right)

include alike

theorem shown_alike {t : TxId} {tx other : PersistTx}
    (inProgress : left.txs.get t = some (.persist tx))
    (alsoInProgress : right.txs.get t = some (.persist other)) :
    tx.shown incidentId = other.shown incidentId := by
  have same := alike.txs t
  rw [System.about, System.about, inProgress, alsoInProgress] at same
  simpa [Transaction.about] using same

theorem advance_alike (ledger : LedgerInvariant left) (otherLedger : LedgerInvariant right)
    (outbox : OutboxInvariant left) {t : TxId} {a : Action} {tx other next otherNext : PersistTx}
    (inProgress : left.txs.get t = some (.persist tx))
    (alsoInProgress : right.txs.get t = some (.persist other))
    (first : PersistAdvance left t tx a next) (second : PersistAdvance right t other a otherNext)
    (agreed : sameReads incidentId left right a = true) :
    next.shown incidentId = otherNext.shown incidentId := by
  have same := shown_alike alike inProgress alsoInProgress
  cases first with
  | effect newIncidentId stage =>
      cases second with
      | effect _ otherStage =>
          have view := (ledger.views t (.persist tx) inProgress).2.2 stage
          have otherView := (otherLedger.views t (.persist other) alsoInProgress).2.2 otherStage
          have bare := bare_of_shown same
          rw [bare_of_begun stage view.2, bare_of_begun otherStage otherView.2] at bare
          subst bare
          apply apply_effect_alike alike.db
          intro recovers key row member down
          simp only [sameReads, inProgress, recovers, Bool.not_true, Bool.false_or,
            List.all_eq_true, Bool.or_eq_true, decide_eq_true_eq] at agreed
          exact (agreed (key, row) member).resolve_left (absurd down)
  | resolve _ resolved =>
      cases second with
      | resolve _ alsoResolved =>
          cases own : tx.resolves incidentId with
          | true =>
              have equal := eq_of_shown same own
              subst equal
              have view : OutboxView left.db.outbox tx := outbox.views t (.persist tx) inProgress
              have reads : ∀ resolution key down, tx.stage = .resolving resolution →
                  (key, down) ∈ resolution.todo →
                    left.db.outbox.get key = right.db.outbox.get key := by
                intro resolution key down stage member
                apply alike.db.row
                have loop := view.todo resolution stage
                obtain ⟨time, target⟩ := loop.target
                rw [PersistTx.resolves, target] at own
                have keyed := (loop.rows key down member).1
                exact decide_eq_true (keyed.trans (of_decide_eq_true own))
              have unlocked := resolve_step_unlocked resolved
              rw [resolve_step_reads reads, resolve_step_unlocked alsoResolved,
                Option.some.injEq] at unlocked
              rw [unlocked]
          | false =>
              have otherForeign := (resolves_of_shown same).symm.trans own
              obtain ⟨bare, incident⟩ := resolve_step_bare resolved
              obtain ⟨otherBare, otherIncident⟩ := resolve_step_bare alsoResolved
              rw [shown_of_other ((resolves_of_incident incident incidentId).trans own),
                shown_of_other ((resolves_of_incident otherIncident incidentId).trans otherForeign),
                bare, otherBare, bare_of_shown same]

theorem candidate_alike {d : DispatcherId} {state other : DispatchState}
    (remembered : left.dispatchers.get d = some state)
    (alsoRemembered : right.dispatchers.get d = some other) :
    ofIncident incidentId state.key = true ∧ other = state ∨
      candidateOf incidentId left.dispatchers d = none ∧
        candidateOf incidentId right.dispatchers d = none := by
  have same := alike.dispatchers d
  cases own : ofIncident incidentId state.key with
  | true =>
      rw [candidateOf, candidateOf, remembered, alsoRemembered, Option.filter_some, own,
        if_pos rfl, Option.filter_some] at same
      split at same
      · exact Or.inl ⟨rfl, (Option.some.inj same).symm⟩
      · cases same
  | false =>
      have silent : candidateOf incidentId left.dispatchers d = none := by
        rw [candidateOf, remembered, Option.filter_some, own]
        rfl
      exact Or.inr ⟨silent, same.symm.trans silent⟩

theorem scan_alike {key : OutboxKey} (own : ofIncident incidentId key = true) (owner : InstanceId)
    (leaseMs : Nat) (now : Time) :
    scanCandidate left.db owner leaseMs now key = scanCandidate right.db owner leaseMs now key := by
  rw [scanCandidate, scanCandidate, alike.db.row own, alike.db.live]

theorem compare_alike {state : DispatchState} (own : ofIncident incidentId state.key = true) :
    compareDown left.db state = compareDown right.db state := by
  have down : left.db.outbox.get state.key.down = right.db.outbox.get state.key.down :=
    alike.db.row own
  rw [compareDown, compareDown, priorDownStatus, priorDownStatus, down]

theorem dispatch_alike {a : Action} {outbox otherOutbox : Outbox}
    {dispatchers otherDispatchers : Dispatchers}
    (first : DispatchStatement left a outbox dispatchers)
    (second : DispatchStatement right a otherOutbox otherDispatchers) :
    outbox.part (ofIncident incidentId) = otherOutbox.part (ofIncident incidentId) ∧
      ∀ d, candidateOf incidentId dispatchers d = candidateOf incidentId otherDispatchers d := by
  have quiet : left.notifiesOthers incidentId a = true →
      right.notifiesOthers incidentId a = true →
        outbox.part (ofIncident incidentId) = otherOutbox.part (ofIncident incidentId) ∧
          ∀ d, candidateOf incidentId dispatchers d =
            candidateOf incidentId otherDispatchers d := by
    intro silent alsoSilent
    obtain ⟨rows, slots⟩ := silent_dispatch first silent
    obtain ⟨otherRows, otherSlots⟩ := silent_dispatch second alsoSilent
    refine ⟨rows.trans (alike.db.rows.trans otherRows.symm), fun d => ?_⟩
    rw [slots, otherSlots, alike.dispatchers]
  cases first with
  | scan d owner leaseMs now key state scanned =>
      cases second with
      | scan _ _ _ _ _ other alsoScanned =>
          refine ⟨alike.db.rows, fun slot => ?_⟩
          rw [candidate_of_put, candidate_of_put, alike.dispatchers]
          cases own : ofIncident incidentId key with
          | true =>
              rw [scan_alike alike own, alsoScanned, Option.some.injEq] at scanned
              rw [scanned]
          | false =>
              have keyed : state.key = key := scan_key scanned
              have otherKeyed : other.key = key := scan_key alsoScanned
              rw [Option.filter_some, Option.filter_some, keyed, otherKeyed, own]
              rfl
  | compareDown d state next remembered compared =>
      cases second with
      | compareDown _ other otherNext alsoRemembered alsoCompared =>
          rcases candidate_alike alike remembered alsoRemembered with ⟨own, rfl⟩ | ⟨none, alsoNone⟩
          · rw [compare_alike alike own, alsoCompared, Option.some.injEq] at compared
            refine ⟨alike.db.rows, fun slot => ?_⟩
            rw [candidate_of_put, candidate_of_put, alike.dispatchers, compared]
          · apply quiet
            · rw [System.notifiesOthers, none]
              rfl
            · rw [System.notifiesOthers, alsoNone]
              rfl
  | dispatchCandidate d state outbox next remembered dispatched =>
      cases second with
      | dispatchCandidate _ other otherOutbox otherNext alsoRemembered alsoDispatched =>
          rcases candidate_alike alike remembered alsoRemembered with ⟨own, rfl⟩ | ⟨none, alsoNone⟩
          · simp only [dispatchCandidate, Option.bind_eq_bind, Option.bind_eq_some_iff,
              Option.some.injEq, Prod.mk.injEq] at dispatched alsoDispatched
            obtain ⟨decision, decided, rfl, rfl⟩ := dispatched
            obtain ⟨otherDecision, alsoDecided, rfl, rfl⟩ := alsoDispatched
            rw [decided, Option.some.injEq] at alsoDecided
            subst alsoDecided
            refine ⟨?_, fun slot => ?_⟩
            · rw [Table.part_update_where, Table.part_update_where, alike.db.rows]
            · rw [← alike.db.row own]
              split
              · rw [candidate_of_put, candidate_of_put, alike.dispatchers]
              · rw [candidate_of_remove, candidate_of_remove, alike.dispatchers]
          · apply quiet
            · rw [System.notifiesOthers, none]
              rfl
            · rw [System.notifiesOthers, alsoNone]
              rfl
  | finishDispatch d state accepted remembered =>
      cases second with
      | finishDispatch _ other _ alsoRemembered =>
          rcases candidate_alike alike remembered alsoRemembered with ⟨own, rfl⟩ | ⟨none, alsoNone⟩
          · refine ⟨?_, fun slot => ?_⟩
            · rw [finishDispatch, finishDispatch, Table.part_update_where,
                Table.part_update_where, alike.db.rows]
            · rw [candidate_of_remove, candidate_of_remove, alike.dispatchers]
          · apply quiet
            · rw [System.notifiesOthers, none]
              rfl
            · rw [System.notifiesOthers, alsoNone]
              rfl

end Common

end LinkAlive
