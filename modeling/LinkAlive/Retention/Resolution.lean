import LinkAlive.Retention.Tables
import LinkAlive.Worker.CheckProcessor

/-!
# A resolution on the stored tables

`createRecoveryOutbox` run to its end while no other transaction is in progress, on
the worker's view of the stored rows. Checks, results and deliveries are not read by
it and are left out of the view.
-/

namespace LinkAlive

set_option autoImplicit false

open Relational

/-- How the worker reads stored columns: it parses the payload, and messages of its own
rows carry the configured domain. -/
structure WorkerReading where
  payload : Json → NotificationPayload
  payload_allows : ∀ json, payloadAllowsRecovery (payload json) = json.allowsRecovery
  messageIdDomain : String

def StoredOutboxRow.workerRow (reading : WorkerReading) (row : StoredOutboxRow)
    (incidentId : IncidentId) (monitorId : MonitorId) : OutboxRow where
  monitorId := monitorId
  eventType := row.eventType
  payloadSafe := reading.payload row.payloadSafe
  channelDisplayNameSnapshot := row.channelDisplayNameSnapshot
  encryptedConfigSnapshot := row.encryptedConfigSnapshot
  status := row.status
  availableAt := row.updatedAt
  leaseOwner := none
  leaseUntil := none
  queueJobId := none
  messageId :=
    ⟨createNotificationDedupeKey incidentId row.channelId row.eventType, reading.messageIdDomain⟩
  attemptCount := row.attemptCount
  maxAttempts := row.maxAttempts
  lastErrorSafe := row.lastErrorSafe
  enqueuedAt := none
  processingAt := none
  sentAt := row.sentAt
  failedAt := row.failedAt
  canceledAt := row.canceledAt

def StoredOutboxRow.indexed (reading : WorkerReading) (row : StoredOutboxRow) :
    Option (OutboxKey × OutboxRow) :=
  match row.incidentId, row.monitorId with
  | some incidentId, some monitorId =>
      some (⟨incidentId, row.channelId, row.sequence⟩,
        row.workerRow reading incidentId monitorId)
  | _, _ => none

def RetentionDatabase.worker (reading : WorkerReading) (db : RetentionDatabase) : Database where
  monitors := db.monitors
  checks := ∅
  results := ∅
  incidents := db.incidents
  channels := db.channels
  bindings := db.bindings
  outbox := db.outbox.reindex fun _ row => row.indexed reading
  deliveries := ∅

/-- The loop of `createRecoveryOutbox`; every row lock is free. -/
def resolveLoop (db : Database) : Nat → PersistTx → Option PersistTx
  | 0, _ => none
  | fuel + 1, tx =>
      match tx.stage with
      | .done => some tx
      | _ => (resolveStep db tx fun _ => true).bind (resolveLoop db fuel)

def resolveAlone (db : Database) (tx : PersistTx) (newIncidentId : IncidentId) :
    Option Database :=
  let begun := applyIncidentEffect db tx newIncidentId
  (resolveLoop db (2 * db.outbox.size + 2) begun).bind (persistCommit db)

def answer (tx : PersistTx) (incidentId : IncidentId) (incident : IncidentRow)
    (event : OutboxKey × OutboxRow) : Option (OutboxKey × OutboxRow) :=
  if payloadAllowsRecovery event.2.payloadSafe then
    match planRecoveryNotification event.2.status event.2.attemptCount with
    | .ok .skip | .error _ => none
    | .ok plan => some (recoveryRow tx incidentId incident event.1 event.2 plan.eventType)
  else none

theorem resolve_planned (db : Database) {tx : PersistTx} {resolution : Resolution}
    {key : OutboxKey} {down : OutboxRow} {rest : List (OutboxKey × OutboxRow)}
    {decision : RecoveryDecision}
    (stage : tx.stage = .resolving { resolution with phase := .planned decision })
    (todo : resolution.todo = (key, down) :: rest) :
    resolveStep db tx (fun _ => true) =
      some { tx with
        stage := .resolving { resolution with todo := rest, phase := .first }
        outbox := finishDown tx { resolution with phase := .planned decision } key down
          decision } := by
  simp only [resolveStep, stage, todo, Bool.not_true, Bool.and_false, Bool.false_eq_true, if_false]

theorem resolve_loop_step {db : Database} {tx next : PersistTx} {resolution : Resolution}
    {fuel : Nat} (stage : tx.stage = .resolving resolution)
    (taken : resolveStep db tx (fun _ => true) = some next) :
    resolveLoop db (fuel + 1) tx = resolveLoop db fuel next := by
  simp only [resolveLoop, stage, taken, Option.bind_some]

theorem plan_down_alone {db : Database} (tx : PersistTx) (resolution : Resolution)
    {key : OutboxKey} {down : OutboxRow} (stored : db.outbox.get key = some down)
    (counted : isSafeInteger down.attemptCount = true) :
    ∃ decision cancels, planDown db tx resolution key down (fun _ => true) =
        some { tx with
          stage := .resolving { resolution with phase := .planned decision }
          outbox := { tx.outbox with cancels := cancels } } ∧
      (if decision.plan = .skip then []
        else [recoveryRow tx resolution.incidentId resolution.incident key down
          decision.plan.eventType]) =
        [(key, down)].filterMap (answer tx resolution.incidentId resolution.incident) := by
  unfold planDown
  simp only [List.filterMap_cons, List.filterMap_nil, answer]
  cases allows : payloadAllowsRecovery down.payloadSafe with
  | false =>
      exact ⟨⟨down.status, down.lastErrorSafe, .skip⟩, tx.outbox.cancels, by simp, by simp⟩
  | true =>
      simp only [Bool.not_true, Bool.false_eq_true, if_false, if_true]
      cases outcome : planRecoveryNotification down.status down.attemptCount with
      | error _ =>
          simp only [planRecoveryNotification, counted, Bool.not_true, Bool.false_eq_true,
            if_false] at outcome
          split at outcome
          · cases outcome
          · split at outcome <;> cases outcome
      | ok plan =>
          cases plan with
          | replaceWithResolvedSummary =>
              have unsent := plan_replaces outcome
              have replaceable : (db.outbox.get key).any OutboxRow.replaceable = true := by
                rw [stored]
                simp [OutboxRow.replaceable, unsent]
              simp only [replaceable, if_true]
              exact ⟨_, _, rfl, by simp⟩
          | skip => exact ⟨⟨down.status, down.lastErrorSafe, .skip⟩, tx.outbox.cancels, rfl, rfl⟩
          | createRecovery waits =>
              exact ⟨⟨down.status, down.lastErrorSafe, .createRecovery waits⟩, tx.outbox.cancels,
                rfl, by simp⟩

theorem finish_down_creates (tx : PersistTx) (resolution : Resolution) (key : OutboxKey)
    (down : OutboxRow) (decision : RecoveryDecision) :
    (finishDown tx resolution key down decision).creates = tx.outbox.creates ++
      (if decision.plan = .skip then []
        else [recoveryRow tx resolution.incidentId resolution.incident key down
          decision.plan.eventType]) := by
  unfold finishDown
  split <;> simp

/-- The run lemma of the loop: every event is answered in its turn. -/
theorem resolve_loop_answers {db : Database} (events : List (OutboxKey × OutboxRow))
    (stored : ∀ event ∈ events, db.outbox.get event.1 = some event.2 ∧
      isSafeInteger event.2.attemptCount = true)
    {tx : PersistTx} {resolution : Resolution} (stage : tx.stage = .resolving resolution)
    (todo : resolution.todo = events) (phase : resolution.phase = .first) {fuel : Nat}
    (enough : 2 * events.length + 2 ≤ fuel) :
    ∃ writes, resolveLoop db fuel tx = some { tx with stage := .done, outbox := writes } ∧
      writes.creates = tx.outbox.creates ++
        events.filterMap (answer tx resolution.incidentId resolution.incident) := by
  induction events generalizing tx resolution fuel with
  | nil =>
      obtain ⟨fuel, rfl⟩ := Nat.exists_eq_add_of_le enough
      refine ⟨tx.outbox, ?_, by simp⟩
      have finished : resolveStep db tx (fun _ => true) = some { tx with stage := .done } := by
        simp only [resolveStep, stage, todo]
      have next : 2 * ([] : List (OutboxKey × OutboxRow)).length + 2 + fuel = fuel + 1 + 1 := by
        simp only [List.length_nil]
        omega
      rw [next]
      simp [resolveLoop, stage, finished]
  | cons event rest ih =>
      obtain ⟨key, down⟩ := event
      obtain ⟨here, counted⟩ := stored (key, down) List.mem_cons_self
      obtain ⟨decision, cancels, planned, created⟩ :=
        plan_down_alone tx resolution here counted
      obtain ⟨fuel, rfl⟩ := Nat.exists_eq_add_of_le enough
      have unfolded : 2 * ((key, down) :: rest).length + 2 + fuel =
          (2 * rest.length + 2 + fuel) + 1 + 1 := by
        simp only [List.length_cons]
        omega
      rw [← resolve_first stage todo phase] at planned
      let waiting : PersistTx := { tx with
        stage := .resolving { resolution with phase := .planned decision }
        outbox := { tx.outbox with cancels := cancels } }
      let next : Resolution := { resolution with todo := rest, phase := .first }
      let handled : PersistTx := { tx with
        stage := .resolving next
        outbox := finishDown waiting { resolution with phase := .planned decision } key down
          decision }
      have written : resolveStep db waiting (fun _ => true) = some handled :=
        resolve_planned db rfl todo
      have later : ∃ writes, resolveLoop db (2 * rest.length + 2 + fuel) handled =
            some { handled with stage := .done, outbox := writes } ∧
          writes.creates = handled.outbox.creates ++
            rest.filterMap (answer handled next.incidentId next.incident) :=
        ih (fun other member => stored other (List.mem_cons_of_mem _ member)) rfl rfl rfl
          (Nat.le_add_right _ _)
      obtain ⟨writes, finished, creates⟩ := later
      refine ⟨writes, ?_, ?_⟩
      · have step : resolveStep db tx (fun _ => true) = some waiting := planned
        rw [unfolded, resolve_loop_step stage step, resolve_loop_step rfl written]
        exact finished
      · have split : ((key, down) :: rest).filterMap
              (answer tx resolution.incidentId resolution.incident) =
            [(key, down)].filterMap (answer tx resolution.incidentId resolution.incident) ++
              rest.filterMap (answer tx resolution.incidentId resolution.incident) := by
          rw [← List.filterMap_append]
          rfl
        have here : handled.outbox.creates = tx.outbox.creates ++
            [(key, down)].filterMap (answer tx resolution.incidentId resolution.incident) := by
          rw [← created]
          exact finish_down_creates waiting _ key down decision
        rw [creates, here, split, List.append_assoc]
        rfl

theorem answer_key {tx : PersistTx} {incidentId : IncidentId} {incident : IncidentRow}
    {event created : OutboxKey × OutboxRow}
    (answered : answer tx incidentId incident event = some created) :
    created.1 = ⟨incidentId, event.1.channelId, notificationSequence .recovery⟩ := by
  unfold answer at answered
  split at answered
  · split at answered
    · cases answered
    · cases answered
    · rename_i plan _ _
      cases answered
      cases plan <;> rfl
  · cases answered

theorem filter_map_keys_sublist {Event Key Row : Type} (f : Event → Option (Key × Row))
    (key : Event → Key) (keyed : ∀ event created, f event = some created → created.1 = key event)
    (events : List Event) : List.Sublist ((events.filterMap f).map Prod.fst) (events.map key) := by
  induction events with
  | nil => exact .slnil
  | cons event rest ih =>
      rw [List.filterMap_cons, List.map_cons]
      cases outcome : f event with
      | none => exact ih.cons _
      | some created =>
          rw [List.map_cons, keyed event created outcome]
          exact ih.cons_cons _

/-- The stored rows let a resolution answer every DOWN event of an incident. -/
structure Answerable (db : Database) (incidentId : IncidentId) : Prop where
  counted : ∀ key row, db.outbox.get key = some row → isSafeInteger row.attemptCount = true
  sequenced : ∀ key row, db.outbox.get key = some row → row.eventType = .down →
    key.sequence = notificationSequence .down
  unanswered : ∀ channelId,
    db.outbox.get ⟨incidentId, channelId, notificationSequence .recovery⟩ = none

theorem answers_distinct {db : Database} {incidentId : IncidentId}
    (answerable : Answerable db incidentId) (tx : PersistTx) (monitorId : MonitorId)
    (incident : IncidentRow) :
    (((recoveryDownEvents db monitorId incidentId).filterMap
      (answer tx incidentId incident)).map Prod.fst).Nodup := by
  let events := recoveryDownEvents db monitorId incidentId
  let follow : OutboxKey → OutboxKey := fun key =>
    ⟨incidentId, key.channelId, notificationSequence .recovery⟩
  have keys : (events.map Prod.fst).Nodup := Table.select_keys_nodup _ _
  have distinct : (events.map fun event => follow event.1).Nodup := by
    have mapped : ((events.map Prod.fst).map follow).Nodup := by
      refine keys.map_on ?_
      rintro ⟨_, channel, sequence⟩ first ⟨_, otherChannel, otherSequence⟩ second same
      obtain ⟨⟨_, row⟩, member, rfl⟩ := List.mem_map.1 first
      obtain ⟨⟨_, other⟩, memberOther, rfl⟩ := List.mem_map.1 second
      obtain ⟨stored, own, down, -⟩ := mem_recovery_down_events.1 member
      obtain ⟨storedOther, ownOther, downOther, -⟩ := mem_recovery_down_events.1 memberOther
      have one := answerable.sequenced _ _ stored down
      have two := answerable.sequenced _ _ storedOther downOther
      simp only [follow, OutboxKey.mk.injEq, and_true, true_and] at same own ownOther one two ⊢
      exact ⟨own.trans ownOther.symm, same, one.trans two.symm⟩
    simpa [Function.comp_def] using mapped
  exact (filter_map_keys_sublist _ (fun event : OutboxKey × OutboxRow => follow event.1)
    (fun _ _ answered => answer_key answered) events).nodup distinct

theorem resolve_alone_answers {db : Database} {tx : PersistTx} (newIncidentId : IncidentId)
    {incidentId : IncidentId} {incident : IncidentRow} {resolvedAt : Time}
    {closureReason : IncidentClosureReason}
    (effect : tx.incidentEffect = .resolve resolvedAt closureReason)
    (found : openIncident db tx.monitorId = some (incidentId, incident))
    (fresh : tx.outbox.creates = []) (unrecorded : db.results.get tx.checkId = none)
    (answerable : Answerable db incidentId) :
    ∃ after, resolveAlone db tx newIncidentId = some after ∧
      ∀ channelId row,
        after.outbox.get ⟨incidentId, channelId, notificationSequence .recovery⟩ = some row ↔
          ((⟨incidentId, channelId, notificationSequence .recovery⟩, row) : OutboxKey × OutboxRow) ∈
            (recoveryDownEvents db tx.monitorId incidentId).filterMap
              (answer tx incidentId (incident.resolved resolvedAt)) := by
  let events := recoveryDownEvents db tx.monitorId incidentId
  let resolution : Resolution :=
    { incidentId := incidentId
      incident := incident.resolved resolvedAt
      todo := events
      phase := .first }
  let begun : PersistTx :=
    { tx with stage := .resolving resolution, incident := .resolve incidentId resolvedAt }
  have applied : applyIncidentEffect db tx newIncidentId = begun := by
    simp only [applyIncidentEffect, effect, found]
    rfl
  have stored : ∀ event ∈ events, db.outbox.get event.1 = some event.2 ∧
      isSafeInteger event.2.attemptCount = true := by
    rintro ⟨key, row⟩ member
    have holds := (mem_recovery_down_events.1 member).1
    exact ⟨holds, answerable.counted key row holds⟩
  have enough : 2 * events.length + 2 ≤ 2 * db.outbox.size + 2 := by
    have short : events.length ≤ db.outbox.size := Table.length_select_le _ _
    omega
  have loop : ∃ writes, resolveLoop db (2 * db.outbox.size + 2) begun =
        some { begun with stage := .done, outbox := writes } ∧
      writes.creates = begun.outbox.creates ++
        events.filterMap (answer begun resolution.incidentId resolution.incident) :=
    resolve_loop_answers events stored rfl rfl rfl enough
  obtain ⟨writes, finished, creates⟩ := loop
  have created : writes.creates =
      events.filterMap (answer tx incidentId (incident.resolved resolvedAt)) := by
    rw [creates]
    change tx.outbox.creates ++ _ = _
    rw [fresh, List.nil_append]
    rfl
  let done : PersistTx := { begun with stage := .done, outbox := writes }
  let written := db.outbox.updateWhere (fun _ _ => true) done.rowWrite
  have absent : ∀ channelId,
      written.get ⟨incidentId, channelId, notificationSequence .recovery⟩ = none := by
    intro channelId
    simp only [written, Table.get_update_where, answerable.unanswered, Option.map_none]
  have follows : ∀ entry ∈ writes.creates, ∃ channelId,
      entry.1 = ⟨incidentId, channelId, notificationSequence .recovery⟩ := by
    intro entry member
    rw [created] at member
    obtain ⟨event, -, answered⟩ := List.mem_filterMap.1 member
    exact ⟨_, answer_key answered⟩
  have inserts : ∃ outbox, written.insertAll writes.creates = some outbox := by
    apply Table.insert_all_succeeds
    · rw [created]
      exact answers_distinct answerable tx tx.monitorId _
    · intro entry member
      obtain ⟨channelId, key⟩ := follows entry member
      rw [key]
      exact absent channelId
  obtain ⟨outbox, inserted⟩ := inserts
  have result : db.results.insertNew tx.checkId (resultRow done) =
      some (db.results.put tx.checkId (resultRow done)) :=
    (Table.insert_new_eq_some _ _ _ _).2 ⟨unrecorded, rfl⟩
  have committed : ∃ after, persistCommit db done = some after ∧ after.outbox = outbox := by
    unfold persistCommit
    have own : done.checkId = tx.checkId := rfl
    rw [own, result]
    simp only [Option.bind_eq_bind, Option.bind_some]
    change ∃ after, (written.insertAll writes.creates).bind _ = some after ∧ _
    rw [inserted]
    exact ⟨_, rfl, rfl⟩
  obtain ⟨after, commit, same⟩ := committed
  refine ⟨after, ?_, ?_⟩
  · simp only [resolveAlone, applied, finished, Option.bind_some]
    exact commit
  · intro channelId row
    rw [same, ← created]
    constructor
    · intro stored
      rcases Table.insert_all_source inserted stored with member | earlier
      · exact member
      · rw [absent] at earlier
        cases earlier
    · intro member
      exact (Table.insert_all_stores inserted member).2

end LinkAlive
