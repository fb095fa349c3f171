import LinkAlive.Domain.Notifications
import LinkAlive.Foundation.AddressText
import LinkAlive.Foundation.Percent

/-!
# Dedupe keys

The texts of `packages/domain/src/notifications.ts` and `network-guard.ts` under the unique
key of the outbox, with the identifiers as the strings that they are. Every key is a list of
segments between colons.
-/

namespace LinkAlive.DedupeKeys

set_option autoImplicit false

open AddressText Percent

def eventTypeText : NotificationEventType → String
  | .networkRecovery => "NETWORK_RECOVERY"
  | .down => "DOWN"
  | .recovery => "RECOVERY"
  | .resolvedSummary => "RESOLVED_SUMMARY"
  | .test => "TEST"

structure NotificationDedupeParts where
  incidentId : String
  channelId : String
  eventType : { eventType : NotificationEventType // eventType ≠ .test }
deriving DecidableEq

def requireIdentifier (value name : String) : Except RangeError String :=
  let normalized := trimText value
  if textLength normalized = 0 then .error ⟨name ++ " cannot be empty"⟩ else .ok normalized

def createNotificationDedupeKey (parts : NotificationDedupeParts) : Except RangeError String := do
  let incidentId ← requireIdentifier parts.incidentId "incidentId"
  let channelId ← requireIdentifier parts.channelId "channelId"
  return "incident:" ++ encodeURIComponent incidentId ++ ":channel:" ++
    encodeURIComponent channelId ++ ":event:" ++ eventTypeText parts.eventType

structure TestDedupeParts where
  channelId : String
  requestId : String
deriving DecidableEq, Repr

def createTestNotificationDedupeKey (options : TestDedupeParts) : Except RangeError String := do
  let channelId ← requireIdentifier options.channelId "channelId"
  let requestId ← requireIdentifier options.requestId "requestId"
  return "channel:" ++ encodeURIComponent channelId ++ ":test:" ++ encodeURIComponent requestId

/-- The key of `summarize`, which takes the identifiers as they are. -/
def networkRecoveryKey (outageId channelId : String) : String :=
  "network:" ++ outageId ++ ":channel:" ++ channelId ++ ":recovery"

theorem event_type_text_injective : Function.Injective eventTypeText := by
  intro first second same
  cases first <;> cases second <;> first | rfl | exact absurd same (by decide)

theorem colon_not_mem_event_type (eventType : NotificationEventType) :
    ':' ∉ (eventTypeText eventType).toList := by
  cases eventType <;> decide +kernel

def incidentSegments (incidentId channelId : String) (eventType : NotificationEventType) :
    List (List Char) :=
  ["incident".toList, (encodeURIComponent incidentId).toList, "channel".toList,
    (encodeURIComponent channelId).toList, "event".toList, (eventTypeText eventType).toList]

def testSegments (channelId requestId : String) : List (List Char) :=
  ["channel".toList, (encodeURIComponent channelId).toList, "test".toList,
    (encodeURIComponent requestId).toList]

theorem incident_segments_free (incidentId channelId : String)
    (eventType : NotificationEventType) :
    ∀ text ∈ incidentSegments incidentId channelId eventType, ':' ∉ text := by
  intro text member
  simp only [incidentSegments, List.mem_cons, List.not_mem_nil, or_false] at member
  rcases member with rfl | rfl | rfl | rfl | rfl | rfl
  · decide +kernel
  · exact colon_not_mem_encoded incidentId
  · decide +kernel
  · exact colon_not_mem_encoded channelId
  · decide +kernel
  · exact colon_not_mem_event_type eventType

theorem test_segments_free (channelId requestId : String) :
    ∀ text ∈ testSegments channelId requestId, ':' ∉ text := by
  intro text member
  simp only [testSegments, List.mem_cons, List.not_mem_nil, or_false] at member
  rcases member with rfl | rfl | rfl | rfl
  · decide +kernel
  · exact colon_not_mem_encoded channelId
  · decide +kernel
  · exact colon_not_mem_encoded requestId

theorem incident_text (incidentId channelId : String) (eventType : NotificationEventType) :
    ("incident:" ++ encodeURIComponent incidentId ++ ":channel:" ++
        encodeURIComponent channelId ++ ":event:" ++ eventTypeText eventType).toList =
      joined ':' (incidentSegments incidentId channelId eventType) := by
  simp [incidentSegments, joined_cons_cons]

theorem test_text (channelId requestId : String) :
    ("channel:" ++ encodeURIComponent channelId ++ ":test:" ++
        encodeURIComponent requestId).toList =
      joined ':' (testSegments channelId requestId) := by
  simp [testSegments, joined_cons_cons]

@[simp] theorem text_length_eq_zero (text : String) : textLength text = 0 ↔ text = "" := by
  constructor
  · intro empty
    rw [← String.toList_eq_nil_iff]
    cases shape : text.toList with
    | nil => rfl
    | cons char rest =>
        rw [textLength, shape, List.map_cons, List.sum_cons] at empty
        split at empty <;> omega
  · rintro rfl
    rfl

theorem require_identifier_ok_iff {value name identifier : String} :
    requireIdentifier value name = .ok identifier ↔
      trimText value ≠ "" ∧ trimText value = identifier := by
  simp only [requireIdentifier, text_length_eq_zero]
  split
  · simp_all
  · simp_all

theorem require_identifier_error {value name : String} (blank : trimText value = "") :
    requireIdentifier value name = .error ⟨name ++ " cannot be empty"⟩ := by
  simp [requireIdentifier, blank]

theorem incident_key_ok_iff {parts : NotificationDedupeParts} {key : String} :
    createNotificationDedupeKey parts = .ok key ↔
      (trimText parts.incidentId ≠ "" ∧ trimText parts.channelId ≠ "") ∧
        key.toList = joined ':' (incidentSegments (trimText parts.incidentId)
          (trimText parts.channelId) parts.eventType) := by
  by_cases blank : trimText parts.incidentId = ""
  · simp [createNotificationDedupeKey, require_identifier_error blank, blank, Bind.bind,
      Except.bind]
  by_cases channelless : trimText parts.channelId = ""
  · simp [createNotificationDedupeKey, require_identifier_error channelless,
      require_identifier_ok_iff.2 ⟨blank, rfl⟩, channelless, Bind.bind, Except.bind]
  rw [createNotificationDedupeKey, require_identifier_ok_iff.2 ⟨blank, rfl⟩,
    require_identifier_ok_iff.2 ⟨channelless, rfl⟩]
  simp only [Bind.bind, Except.bind, Pure.pure, Except.pure, Except.ok.injEq, blank, channelless,
    ne_eq, not_false_eq_true, and_self, true_and]
  rw [← incident_text, String.toList_inj]
  exact eq_comm

theorem test_key_ok_iff {options : TestDedupeParts} {key : String} :
    createTestNotificationDedupeKey options = .ok key ↔
      (trimText options.channelId ≠ "" ∧ trimText options.requestId ≠ "") ∧
        key.toList = joined ':' (testSegments (trimText options.channelId)
          (trimText options.requestId)) := by
  by_cases channelless : trimText options.channelId = ""
  · simp [createTestNotificationDedupeKey, require_identifier_error channelless, channelless,
      Bind.bind, Except.bind]
  by_cases blank : trimText options.requestId = ""
  · simp [createTestNotificationDedupeKey, require_identifier_error blank,
      require_identifier_ok_iff.2 ⟨channelless, rfl⟩, blank, Bind.bind, Except.bind]
  rw [createTestNotificationDedupeKey, require_identifier_ok_iff.2 ⟨channelless, rfl⟩,
    require_identifier_ok_iff.2 ⟨blank, rfl⟩]
  simp only [Bind.bind, Except.bind, Pure.pure, Except.pure, Except.ok.injEq, blank, channelless,
    ne_eq, not_false_eq_true, and_self, true_and]
  rw [← test_text, String.toList_inj]
  exact eq_comm

theorem incident_keys_eq_iff {first second : NotificationDedupeParts} {key other : String}
    (created : createNotificationDedupeKey first = .ok key)
    (again : createNotificationDedupeKey second = .ok other) :
    key = other ↔
      trimText first.incidentId = trimText second.incidentId ∧
        trimText first.channelId = trimText second.channelId ∧
          first.eventType = second.eventType := by
  rw [incident_key_ok_iff] at created again
  rw [← String.toList_inj, created.2, again.2]
  constructor
  · intro same
    have segments := joined_injective (List.cons_ne_nil _ _) (List.cons_ne_nil _ _)
      (incident_segments_free _ _ _) (incident_segments_free _ _ _) same
    simp only [List.cons.injEq, String.toList_inj, and_true, true_and] at segments
    exact ⟨encode_injective segments.1, encode_injective segments.2.1,
      Subtype.ext (event_type_text_injective segments.2.2)⟩
  · rintro ⟨incidents, channels, events⟩
    rw [incidents, channels, events]

theorem test_keys_eq_iff {first second : TestDedupeParts} {key other : String}
    (created : createTestNotificationDedupeKey first = .ok key)
    (again : createTestNotificationDedupeKey second = .ok other) :
    key = other ↔
      trimText first.channelId = trimText second.channelId ∧
        trimText first.requestId = trimText second.requestId := by
  rw [test_key_ok_iff] at created again
  rw [← String.toList_inj, created.2, again.2]
  constructor
  · intro same
    have segments := joined_injective (List.cons_ne_nil _ _) (List.cons_ne_nil _ _)
      (test_segments_free _ _) (test_segments_free _ _) same
    simp only [List.cons.injEq, String.toList_inj, and_true, true_and] at segments
    exact ⟨encode_injective segments.1, encode_injective segments.2⟩
  · rintro ⟨channels, requests⟩
    rw [channels, requests]

/-- The three kinds of keys already differ in their first characters. -/
theorem incident_key_head {parts : NotificationDedupeParts} {key : String}
    (created : createNotificationDedupeKey parts = .ok key) : key.toList.head? = some 'i' := by
  rw [(incident_key_ok_iff.1 created).2]
  rfl

theorem test_key_head {options : TestDedupeParts} {key : String}
    (created : createTestNotificationDedupeKey options = .ok key) :
    key.toList.head? = some 'c' := by
  rw [(test_key_ok_iff.1 created).2]
  rfl

theorem network_key_head (outageId channelId : String) :
    (networkRecoveryKey outageId channelId).toList.head? = some 'n' := by
  simp [networkRecoveryKey]

theorem dedupe_keys_injective_and_disjoint :
    (∀ (first second : NotificationDedupeParts) (key other : String),
      createNotificationDedupeKey first = .ok key →
        createNotificationDedupeKey second = .ok other →
          (key = other ↔
            trimText first.incidentId = trimText second.incidentId ∧
              trimText first.channelId = trimText second.channelId ∧
                first.eventType = second.eventType)) ∧
    (∀ (first second : TestDedupeParts) (key other : String),
      createTestNotificationDedupeKey first = .ok key →
        createTestNotificationDedupeKey second = .ok other →
          (key = other ↔
            trimText first.channelId = trimText second.channelId ∧
              trimText first.requestId = trimText second.requestId)) ∧
    (∀ (parts : NotificationDedupeParts) (options : TestDedupeParts) (key other : String),
      createNotificationDedupeKey parts = .ok key →
        createTestNotificationDedupeKey options = .ok other → key ≠ other) ∧
    (∀ (parts : NotificationDedupeParts) (key outageId channelId : String),
      createNotificationDedupeKey parts = .ok key →
        key ≠ networkRecoveryKey outageId channelId) ∧
    (∀ (options : TestDedupeParts) (key outageId channelId : String),
      createTestNotificationDedupeKey options = .ok key →
        key ≠ networkRecoveryKey outageId channelId) := by
  refine ⟨fun _ _ _ _ created again => incident_keys_eq_iff created again,
    fun _ _ _ _ created again => test_keys_eq_iff created again, ?_, ?_, ?_⟩
  · rintro parts options key other incident test rfl
    exact absurd ((incident_key_head incident).symm.trans (test_key_head test)) (by decide)
  · rintro parts key outageId channelId incident rfl
    exact absurd ((incident_key_head incident).symm.trans (network_key_head outageId channelId))
      (by decide)
  · rintro options key outageId channelId test rfl
    exact absurd ((test_key_head test).symm.trans (network_key_head outageId channelId))
      (by decide)

/-- Delimiters inside the identifiers keep two incidents apart. -/
theorem dedupe_keys_of_delimiters :
    "incident:a%3Achannel:channel:c%25:event:DOWN" = "incident:a:channel:c%25:event:DOWN" ↔
      trimText " a:channel" = trimText "a" ∧ trimText "c%" = trimText "c%" ∧
        (⟨.down, by decide⟩ : { eventType : NotificationEventType // eventType ≠ .test }) =
          ⟨.down, by decide⟩ :=
  dedupe_keys_injective_and_disjoint.1 ⟨" a:channel", "c%", ⟨.down, by decide⟩⟩
    ⟨"a", "c%", ⟨.down, by decide⟩⟩ _ _ (by decide +kernel) (by decide +kernel)

/-- The parts of a key whose identifiers are numbers, under names for them. -/
def DedupeKey.parts (incidents : IncidentId → String) (channels : ChannelId → String)
    (key : DedupeKey) (sent : key.eventType ≠ .test) : NotificationDedupeParts where
  incidentId := incidents key.incidentId
  channelId := channels key.channelId
  eventType := ⟨key.eventType, sent⟩

theorem ledger_keys_eq_iff {incidents : IncidentId → String} {channels : ChannelId → String}
    (incidentNames : Function.Injective fun incident => trimText (incidents incident))
    (channelNames : Function.Injective fun channel => trimText (channels channel))
    {key other : DedupeKey} (sent : key.eventType ≠ .test) (again : other.eventType ≠ .test)
    {text second : String}
    (created : createNotificationDedupeKey (DedupeKey.parts incidents channels key sent) = .ok text)
    (recreated :
      createNotificationDedupeKey (DedupeKey.parts incidents channels other again) = .ok second) :
    text = second ↔ key = other := by
  rw [incident_keys_eq_iff created recreated]
  constructor
  · rintro ⟨sameIncident, sameChannel, sameEvent⟩
    have events : key.eventType = other.eventType := congrArg Subtype.val sameEvent
    have incident : key.incidentId = other.incidentId := incidentNames sameIncident
    have channel : key.channelId = other.channelId := channelNames sameChannel
    cases key
    cases other
    simp_all
  · rintro rfl
    exact ⟨rfl, rfl, rfl⟩

end LinkAlive.DedupeKeys
