import LinkAlive.Retention.Plan

/-!
# The redaction select against the retain rule

The worker decides with booleans whether a terminal row keeps its secret; the
retention command decides the same with a `WHERE` clause. A comparison with NULL
makes a whole `NOT (…)` NULL, so a row can be dropped by the select although the
worker's rule has retired it.
-/

namespace LinkAlive

set_option autoImplicit false

open Relational Sql

/-- `shouldRetainNotificationSecret` on a stored row and its incident's current status. -/
def StoredOutboxRow.retains (db : RetentionDatabase) (outbox : StoredOutboxRow) : Bool :=
  shouldRetainNotificationSecret
    { status := outbox.status
      eventType := outbox.eventType
      lastErrorSafe := outbox.lastErrorSafe
      payloadAllowsRecovery := outbox.payloadSafe.allowsRecovery
      incidentStatus := (outbox.incidentId.bind db.incidents.get).map IncidentRow.status }

def IncidentOpen (db : RetentionDatabase) (outbox : StoredOutboxRow) : Prop :=
  ∃ id incident, outbox.incidentId = some id ∧ db.incidents.get id = some incident ∧
    incident.status = .opened

def ChannelLive (db : RetentionDatabase) (outbox : StoredOutboxRow) : Prop :=
  ∃ channel, db.channels.get outbox.channelId = some channel ∧ channel.enabled = true ∧
    channel.deletedAt = none

def BoundForRecovery (db : RetentionDatabase) (outbox : StoredOutboxRow) : Prop :=
  ∃ monitorId binding, outbox.monitorId = some monitorId ∧
    db.bindings.get (monitorId, outbox.channelId) = some binding ∧
      binding.notifyOnRecovery = true

def StandingDown (db : RetentionDatabase) (outbox : StoredOutboxRow) : Prop :=
  ∃ incidentId id down, outbox.incidentId = some incidentId ∧ db.outbox.get id = some down ∧
    down.incidentId = some incidentId ∧ down.channelId = outbox.channelId ∧
      down.eventType = .down ∧ down.status ≠ .canceled

theorem open_incident_exists_iff {db : RetentionDatabase} {outbox : StoredOutboxRow} :
    openIncidentExists db outbox = some true ↔ IncidentOpen db outbox := by
  simp only [openIncidentExists, exists_in_eq_true, Truth.all_eq_true, List.mem_cons,
    List.not_mem_nil, or_false, forall_eq_or_imp, forall_eq, equal_eq_true, Option.some.injEq,
    decide_eq_true_eq, exists_eq_left', IncidentOpen]
  constructor
  · rintro ⟨id, incident, found, same, isOpen⟩
    exact ⟨id, incident, same, found, isOpen⟩
  · rintro ⟨id, incident, same, found, isOpen⟩
    exact ⟨id, incident, found, same, isOpen⟩

theorem live_channel_exists_iff {db : RetentionDatabase} {outbox : StoredOutboxRow} :
    liveChannelExists db outbox = some true ↔ ChannelLive db outbox := by
  simp only [liveChannelExists, exists_in_eq_true, Truth.all_eq_true, List.mem_cons,
    List.not_mem_nil, or_false, forall_eq_or_imp, forall_eq, Option.some.injEq,
    decide_eq_true_eq, Option.isNone_iff_eq_none, ChannelLive]
  constructor
  · rintro ⟨id, channel, found, rfl, enabled, kept⟩
    exact ⟨channel, found, enabled, kept⟩
  · rintro ⟨channel, found, enabled, kept⟩
    exact ⟨outbox.channelId, channel, found, rfl, enabled, kept⟩

theorem recovery_binding_exists_iff {db : RetentionDatabase} {outbox : StoredOutboxRow} :
    recoveryBindingExists db outbox = some true ↔ BoundForRecovery db outbox := by
  simp only [recoveryBindingExists, exists_in_eq_true, Truth.all_eq_true, List.mem_cons,
    List.not_mem_nil, or_false, forall_eq_or_imp, forall_eq, equal_eq_true, Option.some.injEq,
    decide_eq_true_eq, exists_eq_left', BoundForRecovery]
  constructor
  · rintro ⟨⟨monitorId, channelId⟩, binding, found, monitor, rfl, notifies⟩
    exact ⟨monitorId, binding, monitor, found, notifies⟩
  · rintro ⟨monitorId, binding, monitor, found, notifies⟩
    exact ⟨(monitorId, outbox.channelId), binding, found, monitor, rfl, notifies⟩

theorem standing_down_exists_iff {db : RetentionDatabase} {outbox : StoredOutboxRow} :
    standingDownExists db outbox = some true ↔ StandingDown db outbox := by
  simp only [standingDownExists, exists_in_eq_true, Truth.all_eq_true, List.mem_cons,
    List.not_mem_nil, or_false, forall_eq_or_imp, forall_eq, equal_eq_true, Option.some.injEq,
    decide_eq_true_eq, StandingDown]
  constructor
  · rintro ⟨id, down, found, ⟨incidentId, ofDown, ofRow⟩, channel, kind, standing⟩
    exact ⟨incidentId, id, down, ofRow, found, ofDown, channel, kind, standing⟩
  · rintro ⟨incidentId, id, down, ofRow, found, ofDown, channel, kind, standing⟩
    exact ⟨id, down, found, ⟨incidentId, ofDown, ofRow⟩, channel, kind, standing⟩

theorem exists_in_false_iff {Key Row : Type} [DecidableEq Key] {table : Table Key Row}
    {condition : Key → Row → Truth} {holds : Prop}
    (iff : existsIn table condition = some true ↔ holds) :
    existsIn table condition = some false ↔ ¬ holds := by
  rw [exists_in_eq_false, ← exists_in_eq_true, iff]

/-- A comparison that is not FALSE: NULL, or equal under the collation. -/
def NotRefuted (engine : SqlText) (column : Option String) (text : String) : Prop :=
  ∀ value, column = some value → engine.collate value text = true

theorem compare_false_iff {engine : SqlText} {column : Option String} {text : String} :
    compare engine.collate column (some text) = some false ↔ ¬ NotRefuted engine column text := by
  cases column with
  | none => simp [NotRefuted]
  | some value => simp [NotRefuted]

theorem awaits_recovery_false_iff {engine : SqlText} {db : RetentionDatabase}
    {outbox : StoredOutboxRow} :
    awaitsRecovery engine db outbox = some false ↔
      ¬ (outbox.eventType = .down ∧ outbox.status = .sent ∧
        NotRefuted engine (engine.unquotedMember "notifyOnRecovery" outbox.payloadSafe) "true" ∧
        IncidentOpen db outbox ∧ ChannelLive db outbox ∧ BoundForRecovery db outbox) := by
  rw [awaitsRecovery, Truth.all_eq_false]
  simp only [List.mem_cons, List.not_mem_nil, or_false, Option.some.injEq]
  rw [eq_comm, @eq_comm Bool false, @eq_comm Truth (some false), @eq_comm Truth (some false),
    @eq_comm Truth (some false), @eq_comm Truth (some false), compare_false_iff,
    openIncidentExists, exists_in_false_iff open_incident_exists_iff,
    liveChannelExists, exists_in_false_iff live_channel_exists_iff,
    recoveryBindingExists, exists_in_false_iff recovery_binding_exists_iff]
  simp only [decide_eq_false_iff_not]
  tauto

theorem awaits_reactivation_false_iff {engine : SqlText} {db : RetentionDatabase}
    {outbox : StoredOutboxRow} :
    awaitsReactivation engine db outbox = some false ↔
      ¬ (outbox.eventType = .recovery ∧ outbox.status = .canceled ∧
        NotRefuted engine outbox.lastErrorSafe downNotDeliveredRecoveryCancelReason ∧
        ChannelLive db outbox ∧ StandingDown db outbox ∧ BoundForRecovery db outbox) := by
  rw [awaitsReactivation, Truth.all_eq_false]
  simp only [List.mem_cons, List.not_mem_nil, or_false, Option.some.injEq]
  rw [eq_comm, @eq_comm Bool false, @eq_comm Truth (some false), @eq_comm Truth (some false),
    @eq_comm Truth (some false), @eq_comm Truth (some false), compare_false_iff,
    liveChannelExists, exists_in_false_iff live_channel_exists_iff,
    standingDownExists, exists_in_false_iff standing_down_exists_iff,
    recoveryBindingExists, exists_in_false_iff recovery_binding_exists_iff]
  simp only [decide_eq_false_iff_not]
  tauto

theorem mem_select_terminal {engine : SqlText} {db : RetentionDatabase} {id : OutboxId}
    {outbox : StoredOutboxRow} (stored : db.outbox.get id = some outbox) :
    id ∈ selectTerminalNotificationOutbox engine db ↔
      outbox.status.isTerminal = true ∧ outbox.encryptedConfigSnapshot.isTombstone = false ∧
        awaitsRecovery engine db outbox = some false ∧
        awaitsReactivation engine db outbox = some false := by
  rw [selectTerminalNotificationOutbox, mem_select_ordered]
  simp only [stored, Option.some.injEq, exists_eq_left', Truth.is_true_iff,
    terminalNotificationOutboxWhere, Truth.all_eq_true, List.mem_cons, List.not_mem_nil, or_false,
    forall_eq_or_imp, forall_eq, Truth.negate_eq_true, Bool.not_eq_true']

theorem incident_status_opened_iff {db : RetentionDatabase} {outbox : StoredOutboxRow} :
    (outbox.incidentId.bind db.incidents.get).map IncidentRow.status = some .opened ↔
      IncidentOpen db outbox := by
  simp only [Option.map_eq_some_iff, Option.bind_eq_some_iff, IncidentOpen]
  constructor
  · rintro ⟨incident, ⟨id, same, found⟩, isOpen⟩
    exact ⟨id, incident, same, found, isOpen⟩
  · rintro ⟨id, incident, same, found, isOpen⟩
    exact ⟨incident, ⟨id, same, found⟩, isOpen⟩

theorem retains_terminal_iff {db : RetentionDatabase} {outbox : StoredOutboxRow}
    (terminal : outbox.status.isTerminal = true) :
    outbox.retains db = true ↔
      (outbox.eventType = .recovery ∧ outbox.status = .canceled ∧
        outbox.lastErrorSafe = some downNotDeliveredRecoveryCancelReason) ∨
      (outbox.eventType = .down ∧ outbox.status = .sent ∧
        outbox.payloadSafe.allowsRecovery = true ∧ IncidentOpen db outbox) := by
  rw [← incident_status_opened_iff]
  simp only [StoredOutboxRow.retains, shouldRetainNotificationSecret, canceledUndelivered,
    terminal, Bool.not_true, Bool.false_eq_true, if_false, Bool.and_eq_true, decide_eq_true_eq]
  split
  · rename_i kept
    simp [kept]
  · rename_i other
    simp only [Bool.and_eq_true, decide_eq_true_eq]
    tauto

/-- The worker's boolean flag reaches the select as the text `true`. -/
theorem allowed_not_refuted (engine : SqlText) {payload : Json}
    (allows : payload.allowsRecovery = true) :
    NotRefuted engine (engine.unquotedMember "notifyOnRecovery" payload) "true" := by
  intro value found
  unfold Json.allowsRecovery at allows
  split at allows
  · rename_i allowed member
    subst allows
    simp only [SqlText.unquotedMember, member, Option.map_some, engine.json_text_true,
      Option.some.injEq] at found
    subst found
    exact engine.collate_refl _
  · cases allows

/-- The select returns every row whose secret the worker's rule has retired, and what
it returns beyond that lost a channel, a binding or a standing DOWN. -/
structure RedactionImplementsRule (engine : SqlText) (db : RetentionDatabase) : Prop where
  complete : ∀ id outbox, db.outbox.get id = some outbox → outbox.status.isTerminal = true →
    outbox.encryptedConfigSnapshot.isTombstone = false → outbox.retains db = false →
      id ∈ selectTerminalNotificationOutbox engine db
  justified : ∀ id outbox, db.outbox.get id = some outbox →
    id ∈ selectTerminalNotificationOutbox engine db → outbox.retains db = true →
      ¬ ChannelLive db outbox ∨ ¬ BoundForRecovery db outbox ∨
        (outbox.eventType = .recovery ∧ outbox.status = .canceled ∧ ¬ StandingDown db outbox)

/-- A row that an exception of the select covers although the worker's rule does not:
the compared column is NULL, or equal in the collation only. -/
def Overlooked (engine : SqlText) (db : RetentionDatabase) (outbox : StoredOutboxRow) : Prop :=
  (outbox.eventType = .down ∧ outbox.status = .sent ∧
    outbox.payloadSafe.allowsRecovery = false ∧
    NotRefuted engine (engine.unquotedMember "notifyOnRecovery" outbox.payloadSafe) "true" ∧
    IncidentOpen db outbox ∧ ChannelLive db outbox ∧ BoundForRecovery db outbox) ∨
  (outbox.eventType = .recovery ∧ outbox.status = .canceled ∧
    outbox.lastErrorSafe ≠ some downNotDeliveredRecoveryCancelReason ∧
    NotRefuted engine outbox.lastErrorSafe downNotDeliveredRecoveryCancelReason ∧
    ChannelLive db outbox ∧ StandingDown db outbox ∧ BoundForRecovery db outbox)

theorem overlooked_not_selected {engine : SqlText} {db : RetentionDatabase} {id : OutboxId}
    {outbox : StoredOutboxRow} (stored : db.outbox.get id = some outbox)
    (overlooked : Overlooked engine db outbox) :
    id ∉ selectTerminalNotificationOutbox engine db := by
  intro selected
  obtain ⟨-, -, recovery, reactivation⟩ := (mem_select_terminal stored).1 selected
  rcases overlooked with ⟨down, sent, -, flag, isOpen, live, bound⟩ |
    ⟨kind, canceled, -, reason, live, standing, bound⟩
  · exact awaits_recovery_false_iff.1 recovery ⟨down, sent, flag, isOpen, live, bound⟩
  · exact awaits_reactivation_false_iff.1 reactivation
      ⟨kind, canceled, reason, live, standing, bound⟩

theorem overlooked_not_retained {engine : SqlText} {db : RetentionDatabase}
    {outbox : StoredOutboxRow} (overlooked : Overlooked engine db outbox) :
    outbox.status.isTerminal = true ∧ outbox.retains db = false := by
  rcases overlooked with ⟨down, sent, disallowed, -⟩ | ⟨kind, canceled, other, -⟩
  · have terminal : outbox.status.isTerminal = true := by rw [sent]; rfl
    refine ⟨terminal, Bool.eq_false_iff.2 fun retained => ?_⟩
    rcases (retains_terminal_iff terminal).1 retained with ⟨recovery, -⟩ | ⟨-, -, allows, -⟩
    · rw [down] at recovery
      cases recovery
    · rw [disallowed] at allows
      cases allows
  · have terminal : outbox.status.isTerminal = true := by rw [canceled]; rfl
    refine ⟨terminal, Bool.eq_false_iff.2 fun retained => ?_⟩
    rcases (retains_terminal_iff terminal).1 retained with ⟨-, -, reason⟩ | ⟨down, -⟩
    · exact other reason
    · rw [kind] at down
      cases down

theorem overlooked_of_not_selected {engine : SqlText} {db : RetentionDatabase} {id : OutboxId}
    {outbox : StoredOutboxRow} (stored : db.outbox.get id = some outbox)
    (terminal : outbox.status.isTerminal = true)
    (live : outbox.encryptedConfigSnapshot.isTombstone = false)
    (retired : outbox.retains db = false)
    (missed : id ∉ selectTerminalNotificationOutbox engine db) :
    Overlooked engine db outbox := by
  have forgotten : ¬ outbox.retains db = true := by simp [retired]
  rw [retains_terminal_iff terminal] at forgotten
  rw [mem_select_terminal stored, awaits_recovery_false_iff, awaits_reactivation_false_iff]
    at missed
  unfold Overlooked
  by_cases down : outbox.eventType = .down ∧ outbox.status = .sent ∧
      NotRefuted engine (engine.unquotedMember "notifyOnRecovery" outbox.payloadSafe) "true" ∧
      IncidentOpen db outbox ∧ ChannelLive db outbox ∧ BoundForRecovery db outbox
  · obtain ⟨kind, sent, flag, isOpen, rest⟩ := down
    have disallowed : outbox.payloadSafe.allowsRecovery = false := by
      rw [← Bool.not_eq_true]
      intro allows
      exact forgotten (Or.inr ⟨kind, sent, allows, isOpen⟩)
    exact Or.inl ⟨kind, sent, disallowed, flag, isOpen, rest⟩
  · have covered := not_not.1 fun uncovered => missed ⟨terminal, live, down, uncovered⟩
    obtain ⟨kind, canceled, reason, rest⟩ := covered
    have other : outbox.lastErrorSafe ≠ some downNotDeliveredRecoveryCancelReason :=
      fun same => forgotten (Or.inl ⟨kind, canceled, same⟩)
    exact Or.inr ⟨kind, canceled, other, reason, rest⟩

/-- The SQL implements the worker's rule on exactly the states that overlook no row. -/
theorem redaction_implements_rule_iff (engine : SqlText) (db : RetentionDatabase) :
    RedactionImplementsRule engine db ↔
      ∀ id outbox, db.outbox.get id = some outbox →
        outbox.encryptedConfigSnapshot.isTombstone = false → ¬ Overlooked engine db outbox := by
  constructor
  · intro implements id outbox stored live overlooked
    obtain ⟨terminal, retired⟩ := overlooked_not_retained overlooked
    exact overlooked_not_selected stored overlooked
      (implements.complete id outbox stored terminal live retired)
  · intro none
    constructor
    case complete =>
      intro id outbox stored terminal live retired
      by_contra missed
      exact none id outbox stored live
        (overlooked_of_not_selected stored terminal live retired missed)
    case justified =>
      intro id outbox stored selected retained
      obtain ⟨terminal, -, recovery, reactivation⟩ := (mem_select_terminal stored).1 selected
      rw [awaits_recovery_false_iff] at recovery
      rw [awaits_reactivation_false_iff] at reactivation
      rcases (retains_terminal_iff terminal).1 retained with
        ⟨kind, canceled, reason⟩ | ⟨down, sent, allows, isOpen⟩
      · have same : NotRefuted engine outbox.lastErrorSafe
            downNotDeliveredRecoveryCancelReason := by
          intro value found
          rw [reason, Option.some.injEq] at found
          exact found ▸ engine.collate_refl _
        by_contra complete
        simp only [not_or, not_and, not_not] at complete
        exact reactivation ⟨kind, canceled, same, complete.1, complete.2.2 kind canceled,
          complete.2.1⟩
      · have flag := allowed_not_refuted engine allows
        by_contra complete
        simp only [not_or, not_not] at complete
        exact recovery ⟨down, sent, flag, isOpen, complete.1, complete.2.1⟩

namespace RetentionSample

def monitor : MonitorRow where
  name := "shop"
  displayUrl := "https://shop.example"
  requestUrlEncrypted := .envelope "https://shop.example"
  config := ⟨.get, 60, 10000, 200, 299, "", true, 5, 1, 1⟩
  lifecycleStatus := .active
  healthState := .down
  consecutiveFailures := 1
  consecutiveSuccesses := 0
  failureStreakStartedAt := some 1000
  failureStreakFirstErrorType := some .httpStatusMismatch
  lastCheckedAt := some 1000
  networkUnknownSince := none
  lastSuccessAt := none
  lastFailureAt := some 1000
  lastStatusCode := some 500
  lastTtfbMs := some 5
  lastTotalMs := some 10
  lastErrorType := some .httpStatusMismatch
  nextCheckAt := some 61000
  configVersion := 1
  deletedAt := none

def incident : IncidentRow where
  monitorId := 1
  configVersion := 1
  status := .opened
  firstFailureAt := 1000
  detectedAt := 1000
  resolvedAt := none
  canceledAt := none
  firstErrorType := some .httpStatusMismatch
  lastErrorType := some .httpStatusMismatch
  closureReason := none

def channel : ChannelRow where
  displayName := "ops"
  encryptedConfig := .envelope ⟨"123:token", "-100"⟩
  verifiedAt := some 500
  enabled := true
  deletedAt := none

def sentDown (payload : Json) : StoredOutboxRow where
  monitorId := some 1
  incidentId := some 1
  channelId := 1
  eventType := .down
  sequence := 1
  payloadSafe := payload
  channelDisplayNameSnapshot := "ops"
  encryptedConfigSnapshot := channel.encryptedConfig
  status := .sent
  attemptCount := 1
  maxAttempts := 3
  lastErrorSafe := none
  sentAt := some 2000
  failedAt := none
  canceledAt := none
  updatedAt := 2000

def delivery : StoredDeliveryRow where
  outboxId := 1
  finishedAt := some 2000
  createdAt := 1900

def database (payload : Json) : RetentionDatabase where
  monitors := Table.put ∅ 1 monitor
  channels := Table.put ∅ 1 channel
  bindings := Table.put ∅ (1, 1) ⟨true, true⟩
  incidents := Table.put ∅ 1 incident
  outbox := Table.put ∅ 1 (sentDown payload)
  deliveries := Table.put ∅ 1 delivery
  checks := ∅
  results := ∅
  auditLogs := ∅

def engine : SqlText where
  collate left right := decide (left = right)
  collate_refl _ := by simp
  jsonText
    | .bool true => "true"
    | .bool false => "false"
    | .number literal => literal
    | .array _ => "[…]"
    | .object _ => "{…}"
    | _ => "null"
  json_text_true := rfl

end RetentionSample

/-- A payload without the flag: the comparison with NULL hides a retired secret. -/
theorem redaction_misses_null :
    ¬ RedactionImplementsRule RetentionSample.engine
      (RetentionSample.database (.object [("eventType", .string "DOWN")])) := by
  intro implements
  have selected := implements.complete 1
    (RetentionSample.sentDown (.object [("eventType", .string "DOWN")])) rfl rfl rfl rfl
  refine overlooked_not_selected rfl (Or.inl ⟨rfl, rfl, rfl, ?_, ?_, ?_, ?_⟩) selected
  · intro value found
    cases found
  · exact ⟨1, RetentionSample.incident, rfl, rfl, rfl⟩
  · exact ⟨RetentionSample.channel, rfl, rfl, rfl⟩
  · exact ⟨1, ⟨true, true⟩, rfl, rfl, rfl⟩

end LinkAlive
