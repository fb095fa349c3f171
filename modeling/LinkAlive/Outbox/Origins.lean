import LinkAlive.Outbox.Recovery

/-!
# Where outbox rows come from

A DOWN row is written by the commit that opens its incident. A recovery or a summary
belongs to a resolved incident and takes over from a DOWN row of the same channel that
asked for it; an open or canceled incident has none.
-/

namespace LinkAlive

open Relational Transition

set_option autoImplicit false

def TakesOverDown (outbox : Outbox) (key : OutboxKey) (row : OutboxRow) : Prop :=
  ∃ down, outbox.get key.down = some down ∧ down.eventType = .down ∧
    payloadAllowsRecovery down.payloadSafe = true ∧
      row.channelDisplayNameSnapshot = down.channelDisplayNameSnapshot

def FollowsDown (outbox : Outbox) (key : OutboxKey) (row : OutboxRow) : Prop :=
  ∃ down, outbox.get key.down = some down ∧ down.eventType = .down ∧
    down.monitorId = row.monitorId ∧ payloadAllowsRecovery down.payloadSafe = true ∧
      row.channelDisplayNameSnapshot = down.channelDisplayNameSnapshot

def Resolved (incidents : Table IncidentId IncidentRow) (incidentId : IncidentId) : Prop :=
  ∃ incident, incidents.get incidentId = some incident ∧ incident.status = .resolved

def OutboxRow.standard (row : OutboxRow) : Prop := row.maxAttempts = 3

/-- A row that a persist transaction is about to insert, by the effect that asks for it. -/
structure NewRowOrigin (outbox : Outbox) (tx : PersistTx) (key : OutboxKey) (row : OutboxRow) :
    Prop where
  standard : row.standard
  opening : row.eventType = .down → ∃ incident, tx.incident = .create key.incidentId incident
  following : row.eventType ≠ .down →
    (∃ time, tx.incident = .resolve key.incidentId time) ∧ TakesOverDown outbox key row

/-- What a resolution has decided about the row that it is about to answer. -/
def AnswersWanted (tx : PersistTx) : Prop :=
  ∀ resolution key down rest, tx.stage = .resolving resolution →
    resolution.todo = (key, down) :: rest →
      (resolution.phase = .reread ∨
        ∃ decision, resolution.phase = .planned decision ∧ decision.plan ≠ .skip) →
      payloadAllowsRecovery down.payloadSafe = true

structure PersistOrigin (outbox : Outbox) (tx : PersistTx) : Prop where
  creates : ∀ key row, (key, row) ∈ tx.outbox.creates → NewRowOrigin outbox tx key row
  wanted : AnswersWanted tx

def LateOrigin (db : Database) (tx : MarkSentTx) : Prop :=
  ∀ row, tx.recovery = .create row → row.standard ∧ row.eventType = .recovery ∧
    TakesOverDown db.outbox tx.claimed.key.followUp row ∧
      Resolved db.incidents tx.claimed.key.incidentId

def TxOrigin (db : Database) : Transaction → Prop
  | .persist tx => PersistOrigin db.outbox tx
  | .markSent tx => LateOrigin db tx
  | .claim _ | .createDue _ | .monitor _ | .channel _ => True

structure OriginInvariant (s : System) : Prop where
  rows : ∀ key row, s.db.outbox.get key = some row → row.standard ∧
    (row.eventType ≠ .down →
      TakesOverDown s.db.outbox key row ∧ Resolved s.db.incidents key.incidentId)
  txs : ∀ t tx, s.txs.get t = some tx → TxOrigin s.db tx

section Kept

variable {s after : System} {a : Action}

theorem follows_down_kept (invariant : OutboxInvariant s) (stepped : Stepped s a after)
    {key : OutboxKey} {row : OutboxRow} (follows : TakesOverDown s.db.outbox key row) :
    TakesOverDown after.db.outbox key row := by
  obtain ⟨down, found, event, allows, name⟩ := follows
  obtain ⟨next, stored, move, -⟩ := step_outbox_row invariant.sequenced stepped found
  have same := move.same_event
  refine ⟨next, stored, same.eventType.trans event, ?_, ?_⟩
  · rw [payloadAllowsRecovery, same.payloadSafe]
    exact allows
  · rw [same.channelDisplayNameSnapshot]
    exact name

theorem resolved_kept (ledger : LedgerInvariant s) (stepped : Stepped s a after)
    {incidentId : IncidentId} (resolved : Resolved s.db.incidents incidentId) :
    Resolved after.db.incidents incidentId := by
  obtain ⟨incident, found, status⟩ := resolved
  obtain ⟨next, stored, move⟩ := step_incident_move ledger stepped found
  have closed : incident.status ≠ .opened := by
    rw [status]
    simp
  exact ⟨next, stored, by rw [move.closed closed, status]⟩

theorem tx_origin_kept (ledger : LedgerInvariant s) (invariant : OutboxInvariant s)
    (stepped : Stepped s a after) {tx : Transaction} (origin : TxOrigin s.db tx) :
    TxOrigin after.db tx := by
  cases tx with
  | persist tx =>
      have before : PersistOrigin s.db.outbox tx := origin
      have later : PersistOrigin after.db.outbox tx := by
        constructor
        · intro key row member
          have new := before.creates key row member
          refine ⟨new.standard, new.opening, ?_⟩
          intro event
          have follows := new.following event
          exact ⟨follows.1, follows_down_kept invariant stepped follows.2⟩
        · exact before.wanted
      exact later
  | markSent tx =>
      have before : LateOrigin s.db tx := origin
      have later : LateOrigin after.db tx := by
        intro row creates
        obtain ⟨standard, event, follows, resolved⟩ := before row creates
        exact ⟨standard, event, follows_down_kept invariant stepped follows,
          resolved_kept ledger stepped resolved⟩
      exact later
  | claim tx => trivial
  | createDue tx => trivial
  | monitor tx => trivial
  | channel tx => trivial

end Kept

section Loop

variable {db : Database} {tx : PersistTx} {resolution : Resolution}

theorem persist_origin_idle {outbox : Outbox} {tx : PersistTx} (empty : tx.outbox = .empty)
    (idle : ∀ resolution, tx.stage ≠ .resolving resolution) : PersistOrigin outbox tx := by
  constructor
  · intro key row member
    rw [empty] at member
    cases member
  · intro resolution key down rest stage
    exact absurd stage (idle resolution)

theorem apply_effect_origin (empty : tx.outbox = .empty) (newIncidentId : IncidentId) :
    PersistOrigin db.outbox (applyIncidentEffect db tx newIncidentId) := by
  unfold applyIncidentEffect
  split
  · exact persist_origin_idle empty (by simp)
  · split
    · exact persist_origin_idle empty (by simp)
    · constructor
      · intro key row member
        obtain ⟨channelId, channel, binding, -, -, -, -, rfl, rfl⟩ := create_outbox_row member
        exact ⟨rfl, fun _ => ⟨_, rfl⟩, fun other => absurd rfl other⟩
      · intro resolution key down rest stage
        cases stage
  · split <;> exact persist_origin_idle empty (by simp)
  · split
    · constructor
      · intro key row member
        simp only [empty] at member
        cases member
      · intro resolution key down rest stage todo phase
        cases stage
        rcases phase with reread | ⟨decision, planned, -⟩
        · cases reread
        · cases planned
    · exact persist_origin_idle empty (by simp)
  · exact persist_origin_idle empty (by simp)

/-- A statement of the loop that only changes the phase. -/
theorem persist_origin_phase (origin : PersistOrigin db.outbox tx) {phase : ResolvePhase}
    {key : OutboxKey} {down : OutboxRow} {rest : List (OutboxKey × OutboxRow)}
    (todo : resolution.todo = (key, down) :: rest)
    (wanted : (phase = .reread ∨ ∃ decision, phase = .planned decision ∧ decision.plan ≠ .skip) →
      payloadAllowsRecovery down.payloadSafe = true) (cancels : List OutboxKey) :
    PersistOrigin db.outbox { tx with
      stage := resolution.at phase
      outbox := { tx.outbox with cancels := cancels } } := by
  constructor
  · intro other row member
    obtain ⟨standard, opening, following⟩ := origin.creates other row member
    exact ⟨standard, opening, following⟩
  · intro other otherKey otherDown otherRest stage same asked
    cases stage
    dsimp only at same asked
    rw [todo] at same
    cases same
    exact wanted asked

theorem recovery_row_origin (loop : ResolutionView db.outbox tx resolution) {key : OutboxKey}
    {down : OutboxRow} {rest : List (OutboxKey × OutboxRow)}
    (todo : resolution.todo = (key, down) :: rest)
    (allows : payloadAllowsRecovery down.payloadSafe = true)
    (sequenced : ∀ row, db.outbox.get key = some row → row.Fits key)
    (plan : RecoveryNotificationPlan) :
    let created := recoveryRow tx resolution.incidentId resolution.incident key down plan.eventType
    NewRowOrigin db.outbox tx created.1 created.2 := by
  obtain ⟨own, event, row, found, same, -⟩ :=
    loop.rows key down (by rw [todo]; exact List.mem_cons_self)
  have isDown : row.eventType = .down := same.eventType.trans event
  have sequence := sequence_of_down (sequenced row found) isDown
  have different : plan.eventType ≠ .down := by
    cases plan <;> simp [RecoveryNotificationPlan.eventType]
  refine ⟨rfl, fun opening => absurd opening different, fun _ => ⟨loop.target, ?_⟩⟩
  refine ⟨row, ?_, isDown, ?_, same.channelDisplayNameSnapshot.symm⟩
  · have origin : (⟨resolution.incidentId, key.channelId,
        notificationSequence plan.eventType⟩ : OutboxKey).down = key := by
      rw [OutboxKey.down, ← own, ← sequence]
    change db.outbox.get (⟨resolution.incidentId, key.channelId,
      notificationSequence plan.eventType⟩ : OutboxKey).down = some row
    rw [origin]
    exact found
  · rw [payloadAllowsRecovery, same.payloadSafe]
    exact allows

theorem resolve_step_origin {next : PersistTx} {rowFree : OutboxKey → Bool}
    (fits : ∀ key row, db.outbox.get key = some row → row.Fits key)
    (view : OutboxView db.outbox tx) (origin : PersistOrigin db.outbox tx)
    (resolved : resolveStep db tx rowFree = some next) : PersistOrigin db.outbox next := by
  obtain ⟨resolution, stage, move⟩ := resolve_step_cases resolved
  cases move with
  | finished =>
      constructor
      · intro key row member
        obtain ⟨standard, opening, following⟩ := origin.creates key row member
        exact ⟨standard, opening, following⟩
      · intro other key down rest same
        cases same
  | excluded key down rest todo phase excluded =>
      apply persist_origin_phase origin todo
      intro asked
      rcases asked with reread | ⟨decision, planned, notSkip⟩
      · cases reread
      · cases planned
        exact absurd rfl notSkip
  | planned key down rest plan todo phase allows =>
      exact persist_origin_phase origin todo (fun _ => allows) tx.outbox.cancels
  | missed key down rest todo phase allows =>
      exact persist_origin_phase origin todo (fun _ => allows) tx.outbox.cancels
  | canceled key down row rest todo phase allows =>
      exact persist_origin_phase origin todo (fun _ => allows) _
  | reread key down current rest plan todo phase =>
      apply persist_origin_phase origin todo
      intro _
      exact origin.wanted resolution key down rest stage todo (Or.inl phase)
  | written key down rest decision todo phase free =>
      constructor
      · intro other row member
        have shaped : NewRowOrigin db.outbox tx other row := by
          unfold finishDown at member
          simp only at member
          split at member
          · exact origin.creates other row member
          · rename_i notSkip
            rw [List.mem_append, List.mem_singleton] at member
            rcases member with before | last
            · exact origin.creates other row before
            · have allows := origin.wanted resolution key down rest stage todo
                (Or.inr ⟨decision, phase, notSkip⟩)
              have shape := recovery_row_origin (view.todo resolution stage) todo allows
                (fits key) decision.plan
              rw [← last] at shape
              exact shape
        obtain ⟨standard, opening, following⟩ := shaped
        exact ⟨standard, opening, following⟩
      · intro other otherKey otherDown otherRest same _ asked
        cases same
        rcases asked with reread | ⟨otherDecision, planned, -⟩
        · cases reread
        · cases planned

end Loop

theorem late_recovery_conditions {db : Database} {claimed : ClaimedNotification}
    {databaseTime : Time} {row : OutboxRow}
    (creates : (ensureRecoveryAfterLateDownSuccess db claimed databaseTime).1 = .create row) :
    claimed.row.eventType = .down ∧ payloadAllowsRecovery claimed.row.payloadSafe = true ∧
      Resolved db.incidents claimed.key.incidentId := by
  unfold ensureRecoveryAfterLateDownSuccess at creates
  split at creates
  · cases creates
  · rename_i wanted
    simp only [ne_eq, Bool.or_eq_true, decide_eq_true_eq, Bool.not_eq_true', not_or,
      Decidable.not_not, Bool.not_eq_false] at wanted
    split at creates
    · cases creates
    · rename_i incident found
      split at creates
      · cases creates
      · split at creates
        · cases creates
        · rename_i resolved
          exact ⟨wanted.1, wanted.2, incident, found, Decidable.not_not.1 resolved⟩

theorem mark_sent_begin_origin {s : System} (invariant : OutboxInvariant s)
    {attempt : OutboxKey × Nat} {claimed : ClaimedNotification}
    (remembered : s.attempts.get attempt = some claimed) (providerMessageId : Option String)
    (now databaseTime : Time) :
    LateOrigin s.db (markSentBegin s.db claimed providerMessageId now databaseTime) := by
  have claim := invariant.claims attempt claimed remembered
  have view := mark_sent_begin_view claim providerMessageId now databaseTime
  intro row creates
  obtain ⟨event, allows, resolved⟩ := late_recovery_conditions creates
  obtain ⟨incident, resolvedAt, monitor, time, rfl⟩ := view.creates row creates
  obtain ⟨down, found, same⟩ := claim
  have isDown : down.eventType = .down := same.eventType.trans event
  have sequence := sequence_of_down (invariant.fits _ down found) isDown
  have origin : claimed.key.followUp.down = claimed.key := by
    rw [OutboxKey.down, OutboxKey.followUp, ← sequence]
  refine ⟨rfl, rfl, ⟨down, ?_, isDown, ?_, same.channelDisplayNameSnapshot.symm⟩, resolved⟩
  · change s.db.outbox.get claimed.key.followUp.down = some down
    rw [origin]
    exact found
  · rw [payloadAllowsRecovery, same.payloadSafe]
    exact allows

section Steps

variable {s after : System} {a : Action}

/-- The incident of a row that follows a DOWN row is resolved once the row is there. -/
theorem new_follow_up_resolved (ledger : LedgerInvariant s) (stepped : Stepped s a after)
    {t : TxId} {tx : PersistTx} (committed : a = .commit t)
    (inProgress : s.txs.get t = some (.persist tx)) {incidentId : IncidentId} {time : Time}
    (target : tx.incident = .resolve incidentId time) :
    Resolved after.db.incidents incidentId := by
  subst committed
  obtain ⟨incident, found, -, -⟩ :=
    (ledger.views t _ inProgress).2.1.target (Or.inr ⟨time, target⟩)
  obtain ⟨-, written⟩ := persist_committed stepped inProgress
  obtain ⟨_, incidents, _, _, applied, _, database⟩ := persist_commit_cases written
  rw [target, IncidentWrite.apply, Option.some.injEq] at applied
  refine ⟨incident.resolved time, ?_, rfl⟩
  rw [database]
  dsimp only
  rw [← applied, Table.get_update_key_self, found]
  rfl

theorem origin_rows_step (ledger : LedgerInvariant s) (invariant : OutboxInvariant s)
    (origins : OriginInvariant s) (stepped : Stepped s a after) {key : OutboxKey}
    {row : OutboxRow} (found : after.db.outbox.get key = some row) :
    row.standard ∧ (row.eventType ≠ .down →
      TakesOverDown after.db.outbox key row ∧ Resolved after.db.incidents key.incidentId) := by
  cases before : s.db.outbox.get key with
  | none =>
      cases step_outbox_new stepped before found with
      | created t tx inProgress finished member =>
          have origin : PersistOrigin s.db.outbox tx := origins.txs t _ inProgress
          obtain ⟨standard, -, following⟩ := origin.creates key row member
          refine ⟨standard, ?_⟩
          intro event
          obtain ⟨⟨time, target⟩, follows⟩ := following event
          exact ⟨follows_down_kept invariant stepped follows,
            new_follow_up_resolved ledger stepped rfl inProgress target⟩
      | late t tx down inProgress create follow stored notCanceled =>
          have origin : LateOrigin s.db tx := origins.txs t _ inProgress
          obtain ⟨standard, -, follows, resolved⟩ := origin row create
          subst follow
          refine ⟨standard, fun _ => ⟨follows_down_kept invariant stepped follows, ?_⟩⟩
          exact resolved_kept ledger stepped resolved
  | some old =>
      obtain ⟨next, stored, move, -⟩ := step_outbox_row invariant.sequenced stepped before
      rw [found, Option.some.injEq] at stored
      subst stored
      have same := move.same_event
      obtain ⟨standard, follows⟩ := origins.rows key old before
      refine ⟨same.maxAttempts.trans standard, ?_⟩
      intro event
      rw [same.eventType] at event
      obtain ⟨down, resolved⟩ := follows event
      have kept := follows_down_kept invariant stepped down
      refine ⟨?_, resolved_kept ledger stepped resolved⟩
      obtain ⟨other, otherFound, isDown, allows, name⟩ := kept
      exact ⟨other, otherFound, isDown, allows, same.channelDisplayNameSnapshot.trans name⟩

theorem origin_invariant_step (ledger : LedgerInvariant s) (invariant : OutboxInvariant s)
    (origins : OriginInvariant s) (taken : step s a = some after) : OriginInvariant after := by
  have stepped := step_cases taken
  refine ⟨fun key row found => origin_rows_step ledger invariant origins stepped found, ?_⟩
  intro u ux found
  cases step_tx_source stepped found with
  | stayed before => exact tx_origin_kept ledger invariant stepped (origins.txs u ux before)
  | begun _ _ _ begun same =>
      rw [same]
      cases begun with
      | persist job id check original config result databaseTime tx running started free =>
          obtain ⟨stage, -, empty⟩ := persist_begin_fresh started
          exact persist_origin_idle empty (by simp [stage])
      | markSent attempt claimed providerMessageId now databaseTime remembered free =>
          exact mark_sent_begin_origin invariant remembered providerMessageId now databaseTime
      | monitor => trivial
      | channel => trivial
      | createDue => trivial
      | claim => trivial
  | advanced tx next same inProgress advance unchanged =>
      subst same
      rw [unchanged]
      have view : OutboxView s.db.outbox tx := invariant.views u _ inProgress
      have origin : PersistOrigin s.db.outbox tx := origins.txs u _ inProgress
      cases advance with
      | effect newIncidentId begun =>
          have empty := ((ledger.views u _ inProgress).2.2 begun).2
          exact apply_effect_origin empty newIncidentId
      | resolve _ resolved => exact resolve_step_origin invariant.fits view origin resolved

end Steps

theorem origin_invariant_reachable {s : System} (reachable : Reachable s) : OriginInvariant s := by
  apply reachable.invariant_with (fun state => LedgerInvariant state ∧ OutboxInvariant state)
    OriginInvariant
  · intro state holds
    exact ⟨ledger_invariant_reachable holds, outbox_invariant_reachable holds⟩
  · constructor
    · intro key row found
      cases found
    · intro t tx found
      cases found
  · intro state a after known origins taken
    exact origin_invariant_step known.1 known.2 origins taken

/-- What the invariant says of a whole state and of every step from it. -/
structure NotificationOrigins (s : System) : Prop where
  /-- A recovery or a summary has its DOWN row, of the same monitor, and its incident is over. -/
  followUps : ∀ key row, s.db.outbox.get key = some row → row.eventType ≠ .down →
    FollowsDown s.db.outbox key row ∧ Resolved s.db.incidents key.incidentId
  /-- An incident that is open or was canceled has nothing but DOWN rows. -/
  unresolved : ∀ key row incident, s.db.outbox.get key = some row →
    s.db.incidents.get key.incidentId = some incident → incident.status ≠ .resolved →
      row.eventType = .down
  /-- A DOWN row is written together with its incident. -/
  openings : ∀ a after key row, step s a = some after → s.db.outbox.get key = none →
    after.db.outbox.get key = some row → row.eventType = .down →
      s.db.incidents.get key.incidentId = none ∧
        ∃ incident, after.db.incidents.get key.incidentId = some incident ∧
          incident.status = .opened ∧ incident.monitorId = row.monitorId

theorem opening_incident {s after : System} {t : TxId} {tx : PersistTx}
    (stepped : Stepped s (.commit t) after) (inProgress : s.txs.get t = some (.persist tx))
    {incidentId : IncidentId} {incident : IncidentRow}
    (opens : tx.incident = .create incidentId incident) :
    s.db.incidents.get incidentId = none ∧ after.db.incidents.get incidentId = some incident := by
  obtain ⟨-, written⟩ := persist_committed stepped inProgress
  obtain ⟨_, incidents, _, _, applied, _, database⟩ := persist_commit_cases written
  rw [opens, IncidentWrite.apply, Table.insert_new_eq_some] at applied
  refine ⟨applied.1, ?_⟩
  rw [database]
  dsimp only
  rw [applied.2, Table.get_put, if_pos rfl]

theorem follows_down_of_takes_over {s : System} (invariant : OutboxInvariant s) {key : OutboxKey}
    {row : OutboxRow} (found : s.db.outbox.get key = some row)
    (takesOver : TakesOverDown s.db.outbox key row) : FollowsDown s.db.outbox key row := by
  obtain ⟨down, stored, event, allows, name⟩ := takesOver
  obtain ⟨incident, present, owner⟩ := invariant.owned key row found
  obtain ⟨other, otherPresent, downOwner⟩ := invariant.owned key.down down stored
  have same : incident = other := Option.some.inj (present.symm.trans otherPresent)
  subst same
  exact ⟨down, stored, event, downOwner.symm.trans owner, allows, name⟩

/-- Every outbox row of a reachable state comes from its incident. -/
theorem notifications_have_origins {s : System} (reachable : Reachable s) :
    NotificationOrigins s := by
  have ledger := ledger_invariant_reachable reachable
  have invariant := outbox_invariant_reachable reachable
  have origins := origin_invariant_reachable reachable
  constructor
  · intro key row found event
    obtain ⟨takesOver, resolved⟩ := (origins.rows key row found).2 event
    exact ⟨follows_down_of_takes_over invariant found takesOver, resolved⟩
  · intro key row incident found stored unresolved
    by_contra other
    obtain ⟨-, resolvedIncident, same, resolved⟩ := (origins.rows key row found).2 other
    rw [stored, Option.some.injEq] at same
    rw [same] at unresolved
    exact unresolved resolved
  · intro a after key row taken absent found down
    have stepped := step_cases taken
    cases step_outbox_new stepped absent found with
    | created t tx inProgress finished member =>
        have origin : PersistOrigin s.db.outbox tx := origins.txs t _ inProgress
        have view : OutboxView s.db.outbox tx := invariant.views t _ inProgress
        obtain ⟨incident, opens⟩ := (origin.creates key row member).opening down
        obtain ⟨fresh, stored⟩ := opening_incident stepped inProgress opens
        obtain ⟨owner, status⟩ := (ledger.views t _ inProgress).2.1.created opens
        exact ⟨fresh, incident, stored, status,
          owner.trans (view.creates key row member).monitor.symm⟩
    | late t tx downRow inProgress create follow stored notCanceled =>
        have origin : LateOrigin s.db tx := origins.txs t _ inProgress
        have event := (origin row create).2.1
        rw [down] at event
        cases event

def recoveredScript : List Action :=
  Script.setUp ++ Script.failingCheck 1 1 1000 ++ Script.claimRow (Script.downKey 1) 1100 ++
    Script.confirmAttempt (Script.downKey 1) 1 1200 ++ Script.recoveringCheck 2 1 61000

theorem notifications_have_origins_sample :
    ∃ s row, s.db.outbox.get (Script.downKey 1).followUp = some row ∧ row.eventType = .recovery ∧
      NotificationOrigins s := by
  obtain ⟨s, reachable, tested⟩ := reachable_of_script recoveredScript
    (fun s => (s.db.outbox.get (Script.downKey 1).followUp).any fun row =>
      row.eventType = .recovery)
    (by decide +kernel)
  obtain ⟨row, found, recovery⟩ := (Option.any_eq_true _ _).1 tested
  exact ⟨s, row, found, of_decide_eq_true recovery, notifications_have_origins reachable⟩

def NotifiedOnDown (db : Database) (monitorId : MonitorId) (channelId : ChannelId)
    (channel : ChannelRow) (binding : BindingRow) : Prop :=
  db.channels.get channelId = some channel ∧ channel.isLive = true ∧
    db.bindings.get (monitorId, channelId) = some binding ∧ binding.notifyOnDown = true

structure OpeningRow (channel : ChannelRow) (binding : BindingRow) (row : OutboxRow) : Prop where
  event : row.eventType = .down
  pending : row.status = .pending
  unattempted : row.attemptCount = 0
  destination : row.encryptedConfigSnapshot = channel.encryptedConfig
  name : row.channelDisplayNameSnapshot = channel.displayName
  recovery : payloadAllowsRecovery row.payloadSafe = binding.notifyOnRecovery

theorem create_outbox_notifies {db : Database} {tx : PersistTx} (incidentId : IncidentId)
    (incident : IncidentRow) {channelId : ChannelId} {channel : ChannelRow} {binding : BindingRow}
    (notified : NotifiedOnDown db tx.monitorId channelId channel binding) :
    ∃ row, (⟨incidentId, channelId, notificationSequence .down⟩, row) ∈
        createOutbox db tx incidentId incident ∧ OpeningRow channel binding row := by
  obtain ⟨found, live, bound, wanted⟩ := notified
  have selected : ((tx.monitorId, channelId), binding) ∈ db.bindings.select fun key binding =>
      key.1 = tx.monitorId && binding.notifyOnDown && channelLive db key.2 := by
    rw [Table.mem_select]
    exact ⟨bound, by simp [wanted, channelLive, found, live]⟩
  let row := newOutboxRow tx.monitorId (createNotificationDedupeKey incidentId channelId .down)
    (makeNotificationPayload .down tx.monitorId tx.monitor incident tx.result
      tx.config.appBaseUrl binding.notifyOnRecovery)
    channel.displayName channel.encryptedConfig tx.config.messageIdDomain tx.databaseTime
  refine ⟨row, ?_, ⟨rfl, rfl, rfl, rfl, rfl, rfl⟩⟩
  apply List.mem_filterMap.2
  refine ⟨((tx.monitorId, channelId), binding), selected, ?_⟩
  dsimp only
  rw [found]
  rfl

/-- A persist transaction that is ready to commit stays as it is until it ends. -/
theorem finished_tx_stays {s after : System} {a : Action} (stepped : Stepped s a after) {t : TxId}
    {tx : PersistTx} (inProgress : s.txs.get t = some (.persist tx)) (finished : tx.stage = .done)
    (open_ : a ≠ .commit t ∧ a ≠ .abort t) : after.txs.get t = some (.persist tx) := by
  cases stepped with
  | channel => exact inProgress
  | ledger => exact inProgress
  | failed => exact inProgress
  | dispatcher => exact inProgress
  | began _ u ux jobs attempts begun unused =>
      rw [Table.get_put, if_neg]
      · exact inProgress
      · intro same
        rw [← same, inProgress] at unused
        cases unused
  | advanced _ u before next other advance =>
      rw [Table.get_put, if_neg]
      · exact inProgress
      · intro same
        rw [← same, inProgress] at other
        cases other
        cases advance with
        | effect newIncidentId begun =>
            rw [finished] at begun
            cases begun
        | resolve _ resolved =>
            obtain ⟨resolution, stage, -⟩ := resolve_step_cases resolved
            rw [finished] at stage
            cases stage
  | committed u ux db attempts events other commit =>
      change (s.txs.remove u).get t = _
      rw [Table.get_remove, if_neg]
      · exact inProgress
      · intro same
        exact open_.1 (by rw [same])
  | aborted u =>
      change (s.txs.remove u).get t = _
      rw [Table.get_remove, if_neg]
      · exact inProgress
      · intro same
        exact open_.2 (by rw [same])

theorem effect_opens {db : Database} {tx : PersistTx} {newIncidentId incidentId : IncidentId}
    {incident : IncidentRow} (untouched : tx.incident = .none)
    (opens : (applyIncidentEffect db tx newIncidentId).incident = .create incidentId incident) :
    incidentId = newIncidentId ∧ (applyIncidentEffect db tx newIncidentId).stage = .done ∧
      (applyIncidentEffect db tx newIncidentId).outbox.creates =
        createOutbox db tx newIncidentId incident ∧
      (applyIncidentEffect db tx newIncidentId).monitorId = tx.monitorId := by
  have idle : ∀ {P : Prop}, tx.incident = .create incidentId incident → P := by
    intro P same
    rw [untouched] at same
    cases same
  unfold applyIncidentEffect at opens ⊢
  split at opens
  · exact idle opens
  · split at opens
    · cases opens
    · cases opens
      exact ⟨rfl, rfl, rfl, rfl⟩
  · split at opens
    · cases opens
    · exact idle opens
  · split at opens
    · cases opens
    · exact idle opens
  · exact idle opens

structure OpeningNotifies (before after : Database) (monitorId : MonitorId)
    (incidentId : IncidentId) : Prop where
  /-- Every row is the DOWN row of a channel that was live and bound. -/
  sound : ∀ key row, after.outbox.get key = some row → key.incidentId = incidentId →
    key.sequence = notificationSequence .down ∧ ∃ channel binding,
      NotifiedOnDown before monitorId key.channelId channel binding ∧
        OpeningRow channel binding row
  /-- Every such channel has one. -/
  complete : ∀ channelId channel binding,
    NotifiedOnDown before monitorId channelId channel binding →
      ∃ row, after.outbox.get ⟨incidentId, channelId, notificationSequence .down⟩ = some row ∧
        OpeningRow channel binding row

/-- Whatever runs between the statement that applies the effect and the commit, the opening
notifies exactly the channels that were live and bound when the effect was applied. -/
theorem opening_notifies_bound_channels {s begun last after : System} {t : TxId}
    {newIncidentId : IncidentId} {tx : PersistTx} {incident : IncidentRow}
    {visited : List (System × Action)} (reachable : Reachable s)
    (applied : step s (.applyEffect t newIncidentId) = some begun)
    (inProgress : begun.txs.get t = some (.persist tx))
    (opens : tx.incident = .create newIncidentId incident) (run : Run step begun visited last)
    (pending : Along (fun _ a => a ≠ .commit t ∧ a ≠ .abort t) visited)
    (committed : step last (.commit t) = some after) :
    OpeningNotifies s.db after.db tx.monitorId newIncidentId := by
  have effect : ∃ read, tx = applyIncidentEffect s.db read newIncidentId ∧
      read.incident = .none := by
    have stepped := step_cases applied
    cases stepped with
    | ledger _ _ _ statement => cases statement
    | began _ _ _ _ _ begin_ => cases begin_
    | dispatcher _ _ _ statement => cases statement
    | advanced _ u read next stored advance =>
        cases advance with
        | effect _ stage =>
            rw [Table.get_put, if_pos rfl] at inProgress
            cases inProgress
            have ledger := ledger_invariant_reachable reachable
            exact ⟨read, rfl, ((ledger.views t _ stored).2.2 stage).1⟩
  obtain ⟨read, same, untouched⟩ := effect
  have opened := opens
  rw [same] at opened
  obtain ⟨-, finished, creates, monitor⟩ := effect_opens untouched opened
  rw [← same] at finished creates monitor
  have kept : last.txs.get t = some (.persist tx) := by
    apply run.preserves _ (fun state => state.txs.get t = some (.persist tx)) inProgress _ pending
    intro state a next stored open_ taken
    exact finished_tx_stays (step_cases taken) stored finished open_
  have reached : Reachable last := by
    obtain ⟨earlier, first⟩ := reachable.step_closed applied
    exact ⟨_, first.trans run⟩
  have stepped := step_cases committed
  obtain ⟨fresh, -⟩ := opening_incident stepped kept opens
  obtain ⟨-, written⟩ := persist_committed stepped kept
  obtain ⟨_, _, outbox, _, _, inserted, database⟩ := persist_commit_cases written
  rw [creates] at inserted
  have rows : after.db.outbox = outbox := by rw [database]
  have absent : ∀ key, key.incidentId = newIncidentId →
      (last.db.outbox.updateWhere (fun _ _ => true) tx.rowWrite).get key = none := by
    intro key own
    rw [Table.get_update_where]
    cases stored : last.db.outbox.get key with
    | none => rfl
    | some row =>
        obtain ⟨owner, present, -⟩ := (outbox_invariant_reachable reached).owned key row stored
        rw [own, fresh] at present
        cases present
  constructor
  · intro key row found own
    rw [rows] at found
    rcases Table.insert_all_source inserted found with member | earlier
    · obtain ⟨channelId, channel, binding, stored, live, bound, wanted, rfl, rfl⟩ :=
        create_outbox_row member
      rw [monitor]
      exact ⟨rfl, channel, binding, ⟨stored, live, bound, wanted⟩, rfl, rfl, rfl, rfl, rfl, rfl⟩
    · rw [absent key own] at earlier
      cases earlier
  · intro channelId channel binding notified
    rw [monitor] at notified
    obtain ⟨row, member, opening⟩ :=
      create_outbox_notifies newIncidentId incident notified
    refine ⟨row, ?_, opening⟩
    rw [rows]
    exact (Table.insert_all_stores inserted member).2

/-- Transaction 0 is about to open the incident of monitor 1. -/
def beforeOpening : List Action :=
  Script.setUp ++ Script.startCheck 1 1 1000 ++
    [.beginPersist 0 1 Script.processorConfig (Script.checkResult .targetFailure 1000) 1000]

def opensIncident (s : System) (t : TxId) (incidentId : IncidentId) : Option PersistTx :=
  match s.txs.get t with
  | some (.persist tx) =>
      match tx.incident with
      | .create id _ => if id = incidentId then some tx else none
      | _ => none
  | _ => none

theorem opens_incident_eq_some {s : System} {t : TxId} {incidentId : IncidentId} {tx : PersistTx}
    (opens : opensIncident s t incidentId = some tx) :
    s.txs.get t = some (.persist tx) ∧ ∃ incident, tx.incident = .create incidentId incident := by
  unfold opensIncident at opens
  split at opens
  · rename_i stored inProgress
    split at opens
    · rename_i id incident write
      split at opens
      · rename_i same
        cases opens
        exact ⟨inProgress, incident, by rw [write, same]⟩
      · cases opens
    · cases opens
  · cases opens

def disabling : Action := .beginChannel 1 1 (.update ⟨none, none, none, some false⟩) 1500

/-- Channel 1 is disabled between the effect and the commit. -/
theorem opening_notifies_bound_channels_sample :
    ∃ before after : Database, channelLive before 1 = true ∧ channelLive after 1 = false ∧
      OpeningNotifies before after 1 1 := by
  obtain ⟨s, reachable, tested⟩ := reachable_of_script beforeOpening
    (fun s => channelLive s.db 1 && (step s (.applyEffect 0 1)).any fun begun =>
      ((opensIncident begun 0 1).any fun tx => tx.monitorId = 1) &&
        (step begun disabling).any fun requested => (step requested (.commit 1)).any fun last =>
          (step last (.commit 0)).any fun after => !channelLive after.db 1)
    (by decide +kernel)
  rw [Bool.and_eq_true, Option.any_eq_true] at tested
  obtain ⟨live, begun, applied, tested⟩ := tested
  rw [Bool.and_eq_true, Option.any_eq_true, Option.any_eq_true] at tested
  obtain ⟨⟨tx, opens, monitor⟩, requested, first, tested⟩ := tested
  obtain ⟨last, second, tested⟩ := (Option.any_eq_true _ _).1 tested
  obtain ⟨after, committed, dead⟩ := (Option.any_eq_true _ _).1 tested
  obtain ⟨inProgress, incident, opens⟩ := opens_incident_eq_some opens
  have run : Run step begun ([] ++ [(begun, disabling)] ++ [(requested, .commit 1)]) last :=
    (Run.start.next first).next second
  have pending : Along (fun _ a => a ≠ Action.commit 0 ∧ a ≠ Action.abort 0)
      ([] ++ [(begun, disabling)] ++ [(requested, .commit 1)]) := by
    intro state a member
    rcases List.mem_append.1 member with early | late
    · cases List.mem_singleton.1 early
      exact ⟨by simp [disabling], by simp [disabling]⟩
    · cases List.mem_singleton.1 late
      exact ⟨by simp, by simp⟩
  have notified := opening_notifies_bound_channels reachable applied inProgress opens run pending
    committed
  rw [of_decide_eq_true monitor] at notified
  exact ⟨s.db, after.db, live, by simpa using dead, notified⟩

end LinkAlive
