import LinkAlive.Outbox.Invariant

/-!
# The outbox invariant along runs

The views of the transactions in progress survive the steps of the others: events of
rows are never rewritten, locked rows are never written, and a delivered, failed or
canceled DOWN row stays terminal.
-/

namespace LinkAlive

open Relational

set_option autoImplicit false

/-- What a step does to an incident that exists. -/
structure IncidentMove (row next : IncidentRow) : Prop where
  monitorId : next.monitorId = row.monitorId
  closed : row.status ≠ .opened → next = row

theorem IncidentMove.kept (row : IncidentRow) : IncidentMove row row := ⟨rfl, fun _ => rfl⟩

theorem persist_incident_move {db after : Database} {tx : PersistTx}
    (concerns : IncidentView db.incidents tx) (written : persistCommit db tx = some after)
    {id : IncidentId} {row : IncidentRow} (found : db.incidents.get id = some row) :
    ∃ next, after.incidents.get id = some next ∧ IncidentMove row next := by
  obtain ⟨_, incidents, _, _, applied, _, rfl⟩ := persist_commit_cases written
  have moved : ∀ next : IncidentRow, next.monitorId = row.monitorId →
      (∃ error, tx.incident = .touch id error) ∨ (∃ time, tx.incident = .resolve id time) →
        IncidentMove row next := by
    intro next monitorId write
    obtain ⟨opened, openFound, _, isOpen⟩ := concerns.target write
    rw [found, Option.some_inj] at openFound
    subst openFound
    exact ⟨monitorId, fun closed => absurd isOpen closed⟩
  cases incident_write_cases applied id with
  | kept same => exact ⟨row, same.trans found, .kept row⟩
  | created new write absent =>
      rw [found] at absent
      cases absent
  | touched old error write oldFound nextFound =>
      rw [found, Option.some_inj] at oldFound
      subst oldFound
      exact ⟨_, nextFound, moved _ rfl (.inl ⟨error, write⟩)⟩
  | resolved old time write oldFound nextFound =>
      rw [found, Option.some_inj] at oldFound
      subst oldFound
      exact ⟨_, nextFound, moved _ rfl (.inr ⟨time, write⟩)⟩

theorem runtime_incident_move {db : Database} (tx : MonitorTx) {id : IncidentId}
    {row : IncidentRow} (found : db.incidents.get id = some row) :
    ∃ next, (tx.runtimeWrite db).incidents.get id = some next ∧ IncidentMove row next := by
  unfold MonitorTx.runtimeWrite
  split
  · simp only [cancelRuntime, Table.get_update_where, found, Option.map_some]
    refine ⟨_, rfl, ?_⟩
    split
    · rename_i selected
      rw [Bool.and_eq_true, decide_eq_true_eq, decide_eq_true_eq] at selected
      exact ⟨rfl, fun closed => absurd selected.2 closed⟩
    · exact .kept row
  · exact ⟨row, found, .kept row⟩

theorem step_incident_move {s after : System} {a : Action} (ledger : LedgerInvariant s)
    (stepped : Stepped s a after) {id : IncidentId} {row : IncidentRow}
    (found : s.db.incidents.get id = some row) :
    ∃ next, after.db.incidents.get id = some next ∧ IncidentMove row next := by
  have same : after.db.incidents = s.db.incidents →
      ∃ next, after.db.incidents.get id = some next ∧ IncidentMove row next := by
    intro unchanged
    rw [unchanged]
    exact ⟨row, found, .kept row⟩
  cases step_writes stepped with
  | nothing unwritten _ => exact same unwritten.incidents
  | checks checks jobs _ written => exact same (by rw [written])
  | channelCreated _ _ _ _ written => exact same (by rw [written])
  | channel t tx _ _ written =>
      exact same (by rw [written, (channel_commit_same_ledger s.db tx).incidents])
  | createDue t tx _ _ written => exact same (create_due_checks_kept written).incidents
  | persist t tx _ inProgress written =>
      have view := ledger.views t _ inProgress
      exact persist_incident_move view.2.1 written found
  | monitor t tx _ _ written =>
      rw [(monitor_commit_cases written).2.2.2.1]
      exact runtime_incident_move tx found

theorem terminal_stays {s : System} {key : OutboxKey} {row next : OutboxRow} {a : Action}
    (move : TerminalMove s key row a next) (event : row.eventType ≠ .recovery)
    (terminal : row.status.isTerminal = true) : next.status.isTerminal = true := by
  cases move with
  | same _ _ status =>
      rw [status]
      exact terminal
  | sent t tx =>
      unfold MarkSentTx.rowWrite
      split <;> rfl
  | reactivated t tx down inProgress recovery target stored notCanceled recoveryEvent =>
      exact absurd recoveryEvent event

section Kept

variable {s after : System} {a : Action} {t : TxId}

theorem claim_view_kept (invariant : OutboxInvariant s) (stepped : Stepped s a after)
    {claimed : ClaimedNotification} (view : ClaimView s.db.outbox claimed) :
    ClaimView after.db.outbox claimed := by
  obtain ⟨row, found, same⟩ := view
  obtain ⟨next, stored, move, _⟩ := step_outbox_row invariant.sequenced stepped found
  exact ⟨next, stored, move.same_event.trans same⟩

theorem locked_row_kept (invariant : OutboxInvariant s) (stepped : Stepped s a after)
    {tx : Transaction} (inProgress : s.txs.get t = some tx)
    (stays : (after.txs.get t).isSome = true) {key : OutboxKey}
    (held : tx.locksRow key = true) {row : OutboxRow} (found : s.db.outbox.get key = some row) :
    after.db.outbox.get key = some row := by
  obtain ⟨next, stored, _, untouched⟩ := step_outbox_row invariant.sequenced stepped found
  rcases untouched with same | unlocked
  · rw [← same]
    exact stored
  · have free := unlocked t tx inProgress stays
    rw [held] at free
    cases free

theorem terminal_down_kept (invariant : OutboxInvariant s) (stepped : Stepped s a after)
    {key : OutboxKey} {row : OutboxRow} (found : s.db.outbox.get key = some row)
    (down : row.eventType = .down) :
    ∃ next, after.db.outbox.get key = some next ∧ next.SameEvent row ∧
      (row.status.isTerminal = true → next.status.isTerminal = true) := by
  obtain ⟨next, stored, move, _⟩ := step_outbox_row invariant.sequenced stepped found
  refine ⟨next, stored, move.same_event, ?_⟩
  intro terminal
  apply terminal_stays (terminal_row_move invariant found move terminal) _ terminal
  simp [down]

theorem canceled_down_kept (invariant : OutboxInvariant s) (stepped : Stepped s a after)
    {key : OutboxKey} {row : OutboxRow}
    (found : s.db.outbox.get key = some row) (down : row.eventType = .down)
    (canceled : row.status = .canceled) :
    ∃ next, after.db.outbox.get key = some next ∧ next.status = .canceled ∧
      next.attemptCount = row.attemptCount := by
  obtain ⟨next, stored, move, _⟩ := step_outbox_row invariant.sequenced stepped found
  have terminal : row.status.isTerminal = true := by
    rw [canceled]
    rfl
  cases terminal_row_move invariant found move terminal with
  | same _ _ status _ attempts => exact ⟨next, stored, status.trans canceled, attempts⟩
  | sent t tx inProgress target notCanceled => exact absurd canceled notCanceled
  | reactivated t tx _ inProgress recovery target downFound notCanceled event =>
      rw [down] at event
      cases event

theorem outbox_view_kept (invariant : OutboxInvariant s) (stepped : Stepped s a after)
    {tx : PersistTx} (inProgress : s.txs.get t = some (.persist tx))
    (stays : (after.txs.get t).isSome = true) : OutboxView after.db.outbox tx := by
  have view : OutboxView s.db.outbox tx := invariant.views t _ inProgress
  constructor
  · exact view.creates
  · intro key canceled
    obtain ⟨target, row, found, down, replaceable⟩ := view.cancels key canceled
    have held : (Transaction.persist tx).locksRow key = true := by
      simp [Transaction.locksRow, canceled]
    exact ⟨target, row, locked_row_kept invariant stepped inProgress stays held found, down,
      replaceable⟩
  · intro key redacted
    obtain ⟨target, row, found, down, reason⟩ := view.redacts key redacted
    have held : (Transaction.persist tx).locksRow key = true := by
      simp [Transaction.locksRow, redacted]
    exact ⟨target, row, locked_row_kept invariant stepped inProgress stays held found, down,
      reason⟩
  · intro resolution stage
    have loop := view.todo resolution stage
    constructor
    · exact loop.target
    · intro key down member
      obtain ⟨incident, event, row, found, same, terminal⟩ := loop.rows key down member
      obtain ⟨next, stored, nextSame, stays⟩ :=
        terminal_down_kept invariant stepped found (same.eventType.trans event)
      exact ⟨incident, event, next, stored, nextSame.trans same,
        fun read => stays (terminal read)⟩
    · intro key down rest decision todo phase read
      rcases loop.decided key down rest decision todo phase read with canceled | terminal
      · exact Or.inl canceled
      · obtain ⟨row, found, terminal⟩ := terminal
        obtain ⟨_, event, other, otherFound, same, _⟩ :=
          loop.rows key down (by rw [todo]; exact List.mem_cons_self)
        rw [found, Option.some_inj] at otherFound
        subst otherFound
        obtain ⟨next, stored, _, stays⟩ :=
          terminal_down_kept invariant stepped found (same.eventType.trans event)
        exact Or.inr ⟨next, stored, stays terminal⟩

theorem follow_up_injective {key other : OutboxKey} (down : key.sequence = other.sequence)
    (same : key.followUp = other.followUp) : key = other := by
  cases key
  cases other
  simp only [OutboxKey.followUp, OutboxKey.mk.injEq] at same down ⊢
  exact ⟨same.1, same.2.1, down⟩

theorem sent_view_kept (invariant : OutboxInvariant s) (stepped : Stepped s a after)
    {tx : MarkSentTx} (inProgress : s.txs.get t = some (.markSent tx))
    (stays : (after.txs.get t).isSome = true) : SentView after.db.outbox tx := by
  have view : SentView s.db.outbox tx := invariant.views t _ inProgress
  constructor
  · exact claim_view_kept invariant stepped view.claim
  · exact view.down
  · intro recovery
    obtain ⟨row, found, event, undelivered⟩ := view.reactivates recovery
    obtain ⟨next, stored, move, untouched⟩ := step_outbox_row invariant.sequenced stepped found
    have canceled : row.status = .canceled := by
      simp only [OutboxRow.canceledUndelivered, canceledUndelivered, Bool.and_eq_true,
        decide_eq_true_eq] at undelivered
      exact undelivered.1
    have terminal : row.status.isTerminal = true := by
      rw [canceled]
      rfl
    have event' := move.same_event.eventType.trans event
    cases terminal_row_move invariant found move terminal with
    | same _ _ status reason =>
        refine ⟨next, stored, event', ?_⟩
        rw [OutboxRow.canceledUndelivered, status, reason]
        exact undelivered
    | sent u ux committing target notCanceled => exact absurd canceled notCanceled
    | reactivated u ux down committing otherRecovery target =>
        -- only one transaction at a time may have locked the DOWN row
        exfalso
        have first := invariant.late inProgress (by simp [recovery])
        have second := invariant.late committing (by simp [otherRecovery])
        have sameKey := follow_up_injective (first.trans second.symm) target
        have own : (Transaction.markSent tx).locksRow tx.claimed.key = true := by
          simp [Transaction.locksRow]
        have other : (Transaction.markSent ux).locksRow tx.claimed.key = true := by
          simp [Transaction.locksRow, sameKey]
        have sameTx := invariant.exclusive _ t u _ _ inProgress committing own other
        rw [sameTx, commit_ends stepped committing] at stays
        cases stays
  · exact view.creates

theorem outbox_tx_view_kept (invariant : OutboxInvariant s) (stepped : Stepped s a after)
    {tx : Transaction} (inProgress : s.txs.get t = some tx)
    (stays : (after.txs.get t).isSome = true) : OutboxTxView after.db.outbox tx := by
  cases tx with
  | persist tx => exact outbox_view_kept invariant stepped inProgress stays
  | markSent tx => exact sent_view_kept invariant stepped inProgress stays
  | claim => trivial
  | createDue => trivial
  | monitor => trivial
  | channel => trivial

end Kept

theorem create_outbox_row {db : Database} {tx : PersistTx} {incidentId : IncidentId}
    {incident : IncidentRow} {key : OutboxKey} {row : OutboxRow}
    (member : (key, row) ∈ createOutbox db tx incidentId incident) :
    ∃ channelId channel binding, db.channels.get channelId = some channel ∧
      channel.isLive = true ∧ db.bindings.get (tx.monitorId, channelId) = some binding ∧
      binding.notifyOnDown = true ∧ key = ⟨incidentId, channelId, notificationSequence .down⟩ ∧
      row = newOutboxRow tx.monitorId (createNotificationDedupeKey incidentId channelId .down)
        (makeNotificationPayload .down tx.monitorId tx.monitor incident tx.result
          tx.config.appBaseUrl binding.notifyOnRecovery)
        channel.displayName channel.encryptedConfig tx.config.messageIdDomain tx.databaseTime := by
  simp only [createOutbox, List.mem_filterMap, Option.map_eq_some_iff] at member
  obtain ⟨⟨⟨monitorId, channelId⟩, binding⟩, selected, channel, found, built⟩ := member
  cases built
  rw [Table.mem_select] at selected
  obtain ⟨bound, guards⟩ := selected
  simp only [Bool.and_eq_true, decide_eq_true_eq, channelLive, found] at guards
  rw [guards.1.1] at bound
  exact ⟨channelId, channel, binding, found, guards.2, bound, guards.1.2, rfl, rfl⟩

/-- A view of a transaction that has collected nothing and reads nothing. -/
theorem outbox_view_empty (outbox : Outbox) {tx : PersistTx} (empty : tx.outbox = .empty)
    (idle : ∀ resolution, tx.stage ≠ .resolving resolution) : OutboxView outbox tx := by
  constructor
  · intro key row member
    rw [empty] at member
    cases member
  · intro key member
    rw [empty] at member
    cases member
  · intro key member
    rw [empty] at member
    cases member
  · intro resolution stage
    exact absurd stage (idle resolution)

theorem apply_effect_outbox_view {db : Database} {tx : PersistTx} (empty : tx.outbox = .empty)
    (newIncidentId : IncidentId) :
    OutboxView db.outbox (applyIncidentEffect db tx newIncidentId) := by
  unfold applyIncidentEffect
  split
  · exact outbox_view_empty _ empty (by simp)
  · split
    · exact outbox_view_empty _ empty (by simp)
    · constructor
      · intro key row member
        obtain ⟨channelId, channel, binding, _, _, _, _, rfl, rfl⟩ := create_outbox_row member
        exact ⟨⟨Or.inl rfl, rfl⟩, rfl, rfl, rfl, Or.inl ⟨_, rfl⟩⟩
      · intro key member
        simp only [empty] at member
        cases member
      · intro key member
        simp only [empty] at member
        cases member
      · intro resolution stage
        cases stage
  · split <;> exact outbox_view_empty _ empty (by simp)
  · split
    · rename_i id row found
      have fresh : OutboxView db.outbox { tx with stage := .done } :=
        outbox_view_empty _ empty (by simp)
      constructor
      · intro key row member
        simp only [empty] at member
        cases member
      · intro key member
        simp only [empty] at member
        cases member
      · intro key member
        simp only [empty] at member
        cases member
      · intro resolution stage
        cases stage
        constructor
        · exact ⟨_, rfl⟩
        · intro key down member
          obtain ⟨stored, incident, event, _⟩ := mem_recovery_down_events.1 member
          exact ⟨incident, event, down, stored, .rfl, fun terminal => terminal⟩
        · intro key down rest decision todo phase
          cases phase
    · exact outbox_view_empty _ empty (by simp)
  · exact outbox_view_empty _ empty (by simp)

section Loop

variable {db : Database} {tx : PersistTx} {resolution : Resolution}

/-- A statement of the loop that only changes the phase. -/
theorem outbox_view_phase (view : OutboxView db.outbox tx)
    (stage : tx.stage = .resolving resolution) {phase : ResolvePhase}
    (decided : ∀ key down rest decision, resolution.todo = (key, down) :: rest →
      phase = .planned decision → decision.currentDownStatus.isTerminal = true →
        key ∈ tx.outbox.cancels ∨
          ∃ row, db.outbox.get key = some row ∧ row.status.isTerminal = true) :
    OutboxView db.outbox { tx with stage := resolution.at phase } := by
  have loop := view.todo resolution stage
  constructor
  · intro key row member
    obtain ⟨fits, pending, unattempted, monitor, target⟩ := view.creates key row member
    exact ⟨fits, pending, unattempted, monitor, target⟩
  · exact view.cancels
  · exact view.redacts
  · intro other same
    cases same
    exact ⟨loop.target, loop.rows, decided⟩

theorem recovery_row_view (loop : ResolutionView db.outbox tx resolution) (key : OutboxKey)
    (down : OutboxRow) (plan : RecoveryNotificationPlan) :
    NewRowView tx (recoveryRow tx resolution.incidentId resolution.incident key down
        plan.eventType).1
      (recoveryRow tx resolution.incidentId resolution.incident key down plan.eventType).2 := by
  have event : plan.eventType = .recovery ∨ plan.eventType = .resolvedSummary := by
    cases plan with
    | replaceWithResolvedSummary => exact Or.inr rfl
    | createRecovery => exact Or.inl rfl
    | skip => exact Or.inl rfl
  refine ⟨⟨Or.inr event, rfl⟩, rfl, rfl, rfl, ?_⟩
  exact Or.inr loop.target

theorem outbox_view_written (view : OutboxView db.outbox tx)
    (stage : tx.stage = .resolving resolution) {key : OutboxKey} {down : OutboxRow}
    {rest : List (OutboxKey × OutboxRow)} {decision : RecoveryDecision}
    (todo : resolution.todo = (key, down) :: rest) (phase : resolution.phase = .planned decision) :
    OutboxView db.outbox { tx with
      stage := .resolving { resolution with todo := rest, phase := .first }
      outbox := finishDown tx resolution key down decision } := by
  have loop := view.todo resolution stage
  obtain ⟨read, event, row, found, same, _⟩ :=
    loop.rows key down (by rw [todo]; exact List.mem_cons_self)
  constructor
  · intro other new member
    have shaped : NewRowView tx other new := by
      unfold finishDown at member
      simp only at member
      split at member
      · exact view.creates other new member
      · rw [List.mem_append, List.mem_singleton] at member
        rcases member with before | last
        · exact view.creates other new before
        · have shape := recovery_row_view loop key down decision.plan
          rw [← last] at shape
          exact shape
    obtain ⟨fits, pending, unattempted, monitor, target⟩ := shaped
    exact ⟨fits, pending, unattempted, monitor, target⟩
  · intro other member
    exact view.cancels other member
  · intro other member
    unfold finishDown at member
    simp only at member
    split at member
    · exact view.redacts other member
    · rename_i forgets
      rw [List.mem_append, List.mem_singleton] at member
      rcases member with before | last
      · exact view.redacts other before
      · subst last
        refine ⟨Or.inr (by rw [read]; exact loop.target), row, found,
          same.eventType.trans event, ?_⟩
        have terminal : decision.currentDownStatus.isTerminal = true := by
          cases status : decision.currentDownStatus.isTerminal with
          | true => rfl
          | false => exact absurd (retain_of_not_terminal status) forgets
        rcases loop.decided other down rest decision todo phase terminal with canceled | current
        · exact Or.inl canceled
        · obtain ⟨stored, storedFound, isTerminal⟩ := current
          rw [found, Option.some_inj] at storedFound
          rw [storedFound]
          exact Or.inr isTerminal
  · intro other same
    cases same
    constructor
    · exact loop.target
    · intro otherKey otherDown member
      exact loop.rows otherKey otherDown (by rw [todo]; exact List.mem_cons_of_mem _ member)
    · intro otherKey otherDown otherRest otherDecision _ otherPhase
      cases otherPhase

theorem resolve_step_outbox_view {next : PersistTx} {rowFree : OutboxKey → Bool}
    (view : OutboxView db.outbox tx) (resolved : resolveStep db tx rowFree = some next) :
    OutboxView db.outbox next := by
  obtain ⟨resolution, stage, move⟩ := resolve_step_cases resolved
  have loop := view.todo resolution stage
  have asRead : ∀ key down rest, resolution.todo = (key, down) :: rest →
      down.status.isTerminal = true →
        ∃ row, db.outbox.get key = some row ∧ row.status.isTerminal = true := by
    intro key down rest todo terminal
    obtain ⟨_, _, row, found, _, stays⟩ :=
      loop.rows key down (by rw [todo]; exact List.mem_cons_self)
    exact ⟨row, found, stays terminal⟩
  cases move with
  | finished =>
      constructor
      · intro key row member
        obtain ⟨fits, pending, unattempted, monitor, target⟩ := view.creates key row member
        exact ⟨fits, pending, unattempted, monitor, target⟩
      · exact view.cancels
      · exact view.redacts
      · intro other same
        cases same
  | excluded key down rest todo phase excluded =>
      apply outbox_view_phase view stage
      intro otherKey otherDown otherRest decision otherTodo same terminal
      cases same
      rw [todo] at otherTodo
      cases otherTodo
      exact Or.inr (asRead key down rest todo terminal)
  | planned key down rest plan todo phase allows computed different =>
      apply outbox_view_phase view stage
      intro otherKey otherDown otherRest decision otherTodo same terminal
      cases same
      rw [todo] at otherTodo
      cases otherTodo
      exact Or.inr (asRead key down rest todo terminal)
  | missed key down rest todo phase allows plan =>
      apply outbox_view_phase view stage
      intro otherKey otherDown otherRest decision otherTodo same
      cases same
  | reread key down current rest plan todo phase found computed =>
      apply outbox_view_phase view stage
      intro otherKey otherDown otherRest decision otherTodo same terminal
      cases same
      rw [todo] at otherTodo
      cases otherTodo
      exact Or.inr ⟨current, found, terminal⟩
  | written key down rest decision todo phase free =>
      exact outbox_view_written view stage todo phase
  | canceled key down row rest todo phase allows plan free found replaceable =>
      obtain ⟨read, event, stored, storedFound, same, _⟩ :=
        loop.rows key down (by rw [todo]; exact List.mem_cons_self)
      rw [found, Option.some_inj] at storedFound
      subst storedFound
      constructor
      · intro other new member
        obtain ⟨fits, pending, unattempted, monitor, target⟩ := view.creates other new member
        exact ⟨fits, pending, unattempted, monitor, target⟩
      · intro other member
        simp only [List.mem_append, List.mem_singleton] at member
        rcases member with before | last
        · exact view.cancels other before
        · subst last
          exact ⟨Or.inr (by rw [read]; exact loop.target), row, found,
            same.eventType.trans event, replaceable⟩
      · intro other member
        obtain ⟨target, redacted, redactedFound, redactedDown, reason⟩ := view.redacts other member
        refine ⟨target, redacted, redactedFound, redactedDown, ?_⟩
        exact reason.imp_left fun before => List.mem_append_left _ before
      · intro other same
        cases same
        refine ⟨loop.target, loop.rows, ?_⟩
        intro otherKey otherDown otherRest decision otherTodo _ _
        rw [Resolution.at] at *
        simp only at otherTodo
        rw [todo] at otherTodo
        cases otherTodo
        exact Or.inl (List.mem_append_right _ List.mem_cons_self)

end Loop

theorem ensure_recovery_cases (db : Database) (claimed : ClaimedNotification)
    (databaseTime : Time) :
    (ensureRecoveryAfterLateDownSuccess db claimed databaseTime).1 = .none ∨
      claimed.row.eventType = .down ∧
        (((ensureRecoveryAfterLateDownSuccess db claimed databaseTime).1 = .reactivate ∧
            ∃ row, db.outbox.get claimed.key.followUp = some row ∧ row.eventType = .recovery ∧
              row.canceledUndelivered = true) ∨
          ∃ incident resolvedAt monitor,
            (ensureRecoveryAfterLateDownSuccess db claimed databaseTime).1 =
              .create (lateRecoveryRow claimed incident resolvedAt monitor databaseTime)) := by
  unfold ensureRecoveryAfterLateDownSuccess
  split
  · exact Or.inl rfl
  · rename_i down
    have event : claimed.row.eventType = .down := by
      simp only [ne_eq, Bool.or_eq_true, decide_eq_true_eq, Bool.not_eq_true', not_or,
        Decidable.not_not] at down
      exact down.1
    split
    · exact Or.inl rfl
    · rename_i incident _
      split
      · exact Or.inl rfl
      · rename_i resolvedAt _
        split
        · exact Or.inl rfl
        · split
          · exact Or.inl rfl
          · split
            · exact Or.inl rfl
            · split
              · rename_i existing found
                split
                · rename_i undelivered
                  rw [Bool.and_eq_true, decide_eq_true_eq] at undelivered
                  exact Or.inr ⟨event, Or.inl ⟨rfl, existing, found, undelivered⟩⟩
                · exact Or.inl rfl
              · exact Or.inr ⟨event, Or.inr ⟨incident, resolvedAt, _, rfl⟩⟩

theorem mark_sent_begin_view {db : Database} {claimed : ClaimedNotification}
    (view : ClaimView db.outbox claimed) (providerMessageId : Option String)
    (now databaseTime : Time) :
    SentView db.outbox (markSentBegin db claimed providerMessageId now databaseTime) := by
  have cases_ := ensure_recovery_cases db claimed databaseTime
  refine ⟨view, ?_, ?_, ?_⟩
  · intro recovers
    rcases cases_ with nothing | ⟨down, _⟩
    · exact absurd nothing recovers
    · exact down
  · intro reactivates
    rcases cases_ with nothing | ⟨_, ⟨_, row⟩ | ⟨_, _, _, create⟩⟩
    · cases nothing.symm.trans reactivates
    · exact row
    · cases create.symm.trans reactivates
  · intro row creates
    rcases cases_ with nothing | ⟨_, ⟨reactivates, _⟩ | ⟨incident, resolvedAt, monitor, create⟩⟩
    · cases nothing.symm.trans creates
    · cases reactivates.symm.trans creates
    · have same := create.symm.trans creates
      simp only [LateRecovery.create.injEq] at same
      exact ⟨incident, resolvedAt, monitor, databaseTime, same.symm⟩

theorem tx_begin_outbox_view {s : System} {t : TxId} {a : Action} {tx : Transaction} {jobs : Jobs}
    {attempts : Attempts} (invariant : OutboxInvariant s)
    (begun : TxBegin s t a tx jobs attempts) : OutboxTxView s.db.outbox tx := by
  cases begun with
  | persist job id check original config result databaseTime tx running started free =>
      obtain ⟨stage, _, empty⟩ := persist_begin_fresh started
      exact outbox_view_empty _ empty (by simp [stage])
  | markSent attempt claimed providerMessageId now databaseTime remembered free =>
      exact mark_sent_begin_view (invariant.claims attempt claimed remembered) _ _ _
  | monitor => trivial
  | channel => trivial
  | createDue => trivial
  | claim => trivial

theorem new_row_owned {s after : System} {a : Action} (ledger : LedgerInvariant s)
    (invariant : OutboxInvariant s) (stepped : Stepped s a after) {key : OutboxKey}
    {row : OutboxRow} (new : OutboxNew s key row a) :
    row.Fits key ∧ ∃ incident, after.db.incidents.get key.incidentId = some incident ∧
      incident.monitorId = row.monitorId := by
  cases new with
  | created t tx inProgress finished member =>
      have view : OutboxView s.db.outbox tx := invariant.views t _ inProgress
      have concerns := (ledger.views t _ inProgress).2.1
      obtain ⟨fits, _, _, monitor, target⟩ := view.creates key row member
      refine ⟨fits, ?_⟩
      rcases target with ⟨incident, create⟩ | ⟨time, resolve⟩
      · obtain ⟨_, written⟩ := persist_committed stepped inProgress
        obtain ⟨_, incidents, _, _, applied, _, database⟩ := persist_commit_cases written
        rw [create, IncidentWrite.apply, Table.insert_new_eq_some] at applied
        refine ⟨incident, ?_, (concerns.created create).1.trans monitor.symm⟩
        simp [database, applied.2, Table.get_put]
      · obtain ⟨incident, found, owner, _⟩ := concerns.target (Or.inr ⟨time, resolve⟩)
        obtain ⟨next, stored, move⟩ := step_incident_move ledger stepped found
        exact ⟨next, stored, move.monitorId.trans (owner.trans monitor.symm)⟩
  | late t tx down inProgress create follow found notCanceled =>
      have view : SentView s.db.outbox tx := invariant.views t _ inProgress
      obtain ⟨incident, resolvedAt, monitor, databaseTime, rfl⟩ := view.creates row create
      refine ⟨⟨Or.inr (Or.inl rfl), by rw [follow]; rfl⟩, ?_⟩
      obtain ⟨claimedRow, claimedFound, same⟩ := view.claim
      obtain ⟨owner, ownerFound, owned⟩ := invariant.owned _ claimedRow claimedFound
      obtain ⟨next, stored, move⟩ := step_incident_move ledger stepped ownerFound
      refine ⟨next, ?_, move.monitorId.trans (owned.trans same.monitorId)⟩
      rw [follow]
      exact stored

theorem step_claims {s after : System} {a : Action} (invariant : OutboxInvariant s)
    (stepped : Stepped s a after) {attempt : OutboxKey × Nat} {claimed : ClaimedNotification}
    (remembered : after.attempts.get attempt = some claimed) :
    ClaimView after.db.outbox claimed := by
  rcases step_attempt_source stepped remembered with before | ⟨t, tx, rfl, _, written, _⟩
  · exact claim_view_kept invariant stepped (invariant.claims attempt claimed before)
  · obtain ⟨row, _, _, same, stored⟩ := claim_grant_cases written
    rw [same]
    exact ⟨row.claimedFor tx, stored, .rfl⟩

theorem outbox_invariant_step {s after : System} {a : Action} (ledger : LedgerInvariant s)
    (invariant : OutboxInvariant s) (taken : step s a = some after) : OutboxInvariant after := by
  have stepped := step_cases taken
  have rows : ∀ key row, after.db.outbox.get key = some row → row.Fits key ∧
      ∃ incident, after.db.incidents.get key.incidentId = some incident ∧
        incident.monitorId = row.monitorId := by
    intro key row found
    cases before : s.db.outbox.get key with
    | none => exact new_row_owned ledger invariant stepped (step_outbox_new stepped before found)
    | some old =>
        obtain ⟨next, stored, move, _⟩ := step_outbox_row invariant.sequenced stepped before
        rw [found, Option.some_inj] at stored
        subst stored
        obtain ⟨incident, incidentFound, owner⟩ := invariant.owned key old before
        obtain ⟨later, laterFound, incidentMove⟩ :=
          step_incident_move ledger stepped incidentFound
        have same := move.same_event
        exact ⟨(invariant.fits key old before).of_event same.eventType, later, laterFound,
          incidentMove.monitorId.trans (owner.trans same.monitorId.symm)⟩
  have kept : ∀ t tx, s.txs.get t = some tx → (after.txs.get t).isSome = true →
      OutboxTxView after.db.outbox tx := fun t tx inProgress stays =>
    outbox_tx_view_kept invariant stepped inProgress stays
  refine ⟨fun key row found => (rows key row found).1, fun key row found => (rows key row found).2,
    fun attempt claimed remembered => step_claims invariant stepped remembered, ?_,
    fun key => row_exclusive_step key stepped (invariant.exclusive key)⟩
  intro u ux found
  cases step_tx_source stepped found with
  | stayed before => exact kept u ux before (Option.isSome_of_mem found)
  | begun _ _ _ begun same =>
      rw [same]
      exact tx_begin_outbox_view invariant begun
  | advanced tx next same inProgress advance unchanged =>
      subst same
      have view : OutboxView s.db.outbox tx := invariant.views u _ inProgress
      rw [unchanged]
      cases advance with
      | effect newIncidentId begun =>
          have empty := ((ledger.views u _ inProgress).2.2 begun).2
          exact apply_effect_outbox_view empty newIncidentId
      | resolve _ resolved => exact resolve_step_outbox_view view resolved

theorem outbox_invariant_reachable {s : System} (reachable : Reachable s) : OutboxInvariant s := by
  apply reachable.invariant_with LedgerInvariant OutboxInvariant
  · intro state holds
    exact ledger_invariant_reachable holds
  · constructor
    · intro key row found
      cases found
    · intro key row found
      cases found
    · intro attempt claimed found
      cases found
    · intro t tx found
      cases found
    · intro key t u tx ux found
      cases found
  · intro state label after ledger invariant taken
    exact outbox_invariant_step ledger invariant taken

end LinkAlive
