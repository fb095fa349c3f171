import Mathlib.Algebra.Order.Round
import Mathlib.Data.Rat.Floor
import LinkAlive.Delivery.Telegram
import LinkAlive.Domain.DedupeKeys

/-!
# From a claimed row to the provider

`apps/worker/src/notification-payload.ts`, `retry.ts`, and the part of
`notification-processor.ts` between the claim of a row and the report about it: the stored
payload is read, the destination decrypted, and the provider called once.
-/

namespace LinkAlive.Delivery

open DedupeKeys

set_option autoImplicit false

def errorTypeText : CheckErrorType → String
  | .dnsError => "DNS_ERROR"
  | .connectTimeout => "CONNECT_TIMEOUT"
  | .connectionRefused => "CONNECTION_REFUSED"
  | .tlsError => "TLS_ERROR"
  | .ttfbTimeout => "TTFB_TIMEOUT"
  | .requestTimeout => "REQUEST_TIMEOUT"
  | .redirectError => "REDIRECT_ERROR"
  | .httpStatusMismatch => "HTTP_STATUS_MISMATCH"
  | .contentMismatch => "CONTENT_MISMATCH"
  | .responseLimitExceeded => "RESPONSE_LIMIT_EXCEEDED"
  | .networkError => "NETWORK_ERROR"
  | .platformError => "PLATFORM_ERROR"

def nullable {Number Value : Type} (json : Value → JsonValue Number) (value : Option Value) :
    JsonValue Number :=
  (value.map json).getD .null

section Payloads

variable (numbers : NumberLibrary) (dates : DateLibrary)

/-- The object that `makeNotificationPayload` stores. -/
def payloadJson (payload : NotificationPayload) : JsonValue numbers.Number :=
  .object ([
    ("eventType", .string (eventTypeText payload.eventType)),
    ("monitorName", .string payload.monitorName),
    ("displayUrl", .string payload.displayUrl),
    ("occurredAt", .string (dates.toISOString payload.occurredAt)),
    ("errorType", nullable .string (payload.errorType.map errorTypeText)),
    ("errorMessageSafe", nullable .string payload.errorMessageSafe),
    ("statusCode", nullable .number (payload.statusCode.map numbers.ofNat)),
    ("ttfbMs", nullable .number (payload.ttfbMs.map numbers.ofNat)),
    ("notifyOnRecovery", .bool payload.notifyOnRecovery)] ++
    (payload.durationMs.map fun time => ("durationMs", .number (numbers.ofNat time))).toList ++
    (payload.dashboardUrl.map fun url => ("dashboardUrl", .string url)).toList)

def textOr (data : JsonValue numbers.Number) (key fallback : String) : String :=
  ((data.field key).bind JsonValue.string?).getD fallback

def nullableString (data : JsonValue numbers.Number) (key : String) : Option String :=
  (data.field key).bind JsonValue.string?

def nullableNumber (data : JsonValue numbers.Number) (key : String) : Option numbers.Number :=
  ((data.field key).bind JsonValue.number?).filter numbers.isFinite

/-- `now` is the time that a payload without one is given. -/
def parseNotificationPayload (data : JsonValue numbers.Number)
    (eventType : NotificationEventType) (now : Int) : SafeNotificationPayload numbers where
  eventType := eventType
  monitorName := textOr numbers data "monitorName" "이름 없는 모니터"
  displayUrl := textOr numbers data "displayUrl" "(URL 숨김)"
  occurredAt := .text (textOr numbers data "occurredAt" (dates.toISOString now))
  errorType := nullableString numbers data "errorType"
  errorMessageSafe := nullableString numbers data "errorMessageSafe"
  statusCode := nullableNumber numbers data "statusCode"
  ttfbMs := nullableNumber numbers data "ttfbMs"
  durationMs := nullableNumber numbers data "durationMs"
  dashboardUrl := nullableString numbers data "dashboardUrl"
  networkStartedAt := nullableString numbers data "networkStartedAt"

def safePayload (payload : NotificationPayload) (eventType : NotificationEventType) :
    SafeNotificationPayload numbers where
  eventType := eventType
  monitorName := payload.monitorName
  displayUrl := payload.displayUrl
  occurredAt := .text (dates.toISOString payload.occurredAt)
  errorType := payload.errorType.map errorTypeText
  errorMessageSafe := payload.errorMessageSafe
  statusCode := payload.statusCode.map numbers.ofNat
  ttfbMs := payload.ttfbMs.map numbers.ofNat
  durationMs := payload.durationMs.map numbers.ofNat
  dashboardUrl := payload.dashboardUrl
  networkStartedAt := none

end Payloads

def NumberLibrary.WholeFinite (numbers : NumberLibrary) : Prop :=
  ∀ value, numbers.isFinite (numbers.ofNat value) = true

section Stored

variable {numbers : NumberLibrary} {dates : DateLibrary}

theorem nullable_string_read {data : JsonValue numbers.Number} {key : String}
    {value : Option String} (found : data.field key = some (nullable .string value)) :
    nullableString numbers data key = value := by
  rw [nullableString, found]
  cases value <;> rfl

theorem nullable_number_read (whole : numbers.WholeFinite) {data : JsonValue numbers.Number}
    {key : String} {value : Option Nat}
    (found : data.field key = some (nullable .number (value.map numbers.ofNat))) :
    nullableNumber numbers data key = value.map numbers.ofNat := by
  rw [nullableNumber, found]
  cases value with
  | none => rfl
  | some value => exact Option.filter_some_pos (whole value)

section Optional

variable (payload : NotificationPayload)

theorem duration_read (whole : numbers.WholeFinite) :
    nullableNumber numbers (payloadJson numbers dates payload) "durationMs" =
      payload.durationMs.map numbers.ofNat := by
  rw [payloadJson]
  cases payload.durationMs with
  | none => cases payload.dashboardUrl <;> rfl
  | some time =>
      have finite : Option.filter numbers.isFinite (some (numbers.ofNat time)) =
          some (numbers.ofNat time) := Option.filter_some_pos (whole time)
      cases payload.dashboardUrl <;> exact finite

theorem dashboard_read :
    nullableString numbers (payloadJson numbers dates payload) "dashboardUrl" =
      payload.dashboardUrl := by
  rw [payloadJson]
  cases payload.durationMs <;> cases payload.dashboardUrl <;> rfl

theorem network_left_out :
    nullableString numbers (payloadJson numbers dates payload) "networkStartedAt" = none := by
  rw [payloadJson]
  cases payload.durationMs <;> cases payload.dashboardUrl <;> rfl

end Optional

/-- The stored payload is read back as it was, whatever the clock of the worker shows. -/
theorem parse_notification_payload_json (whole : numbers.WholeFinite)
    (payload : NotificationPayload) (eventType : NotificationEventType) (now : Int) :
    parseNotificationPayload numbers dates (payloadJson numbers dates payload) eventType now =
      safePayload numbers dates payload eventType := by
  have errorType : nullableString numbers (payloadJson numbers dates payload) "errorType" =
      payload.errorType.map errorTypeText := nullable_string_read rfl
  have message : nullableString numbers (payloadJson numbers dates payload) "errorMessageSafe" =
      payload.errorMessageSafe := nullable_string_read rfl
  have status : nullableNumber numbers (payloadJson numbers dates payload) "statusCode" =
      payload.statusCode.map numbers.ofNat := nullable_number_read whole rfl
  have ttfb : nullableNumber numbers (payloadJson numbers dates payload) "ttfbMs" =
      payload.ttfbMs.map numbers.ofNat := nullable_number_read whole rfl
  rw [parseNotificationPayload, safePayload, errorType, message, status, ttfb,
    duration_read payload whole, dashboard_read, network_left_out]
  rfl

/-- `payloadAllowsRecovery` on the stored value. -/
def valueAllowsRecovery {Number : Type} (value : JsonValue Number) : Bool :=
  match value.field "notifyOnRecovery" with
  | some (.bool allowed) => allowed
  | _ => false

theorem value_allows_recovery (payload : NotificationPayload) :
    valueAllowsRecovery (payloadJson numbers dates payload) = payloadAllowsRecovery payload := rfl

end Stored

/-- `random` is what `Math.random` draws; the products are exact here. -/
def retryDelayMs (attempt : Nat) (random : ℚ) : Nat :=
  let safeAttempt := max 1 (min 10 attempt)
  let base : Nat := min 60000 (2000 * 2 ^ (safeAttempt - 1))
  (round (base * (3 / 4 + random / 2) : ℚ)).toNat

theorem retry_base_bounds (attempt : Nat) :
    2000 ≤ min 60000 (2000 * 2 ^ (max 1 (min 10 attempt) - 1)) ∧
      min 60000 (2000 * 2 ^ (max 1 (min 10 attempt) - 1)) ≤ 60000 := by
  have power : 1 ≤ 2 ^ (max 1 (min 10 attempt) - 1) := Nat.one_le_two_pow
  omega

/-- A retry waits for one and a half to seventy-five seconds. -/
theorem retry_delay_bounds (attempt : Nat) {random : ℚ} (drawn : 0 ≤ random ∧ random ≤ 1) :
    1500 ≤ retryDelayMs attempt random ∧ retryDelayMs attempt random ≤ 75000 := by
  obtain ⟨least, most⟩ := retry_base_bounds attempt
  rw [retryDelayMs, round_eq]
  generalize min 60000 (2000 * 2 ^ (max 1 (min 10 attempt) - 1)) = base at least most ⊢
  have least : (2000 : ℚ) ≤ base := by exact_mod_cast least
  have most : (base : ℚ) ≤ 60000 := by exact_mod_cast most
  have low : (1500 : Int) ≤ ⌊(base : ℚ) * (3 / 4 + random / 2) + 1 / 2⌋ := by
    rw [Int.le_floor]
    push_cast
    nlinarith [drawn.1]
  have high : ⌊(base : ℚ) * (3 / 4 + random / 2) + 1 / 2⌋ < (75001 : Int) := by
    rw [Int.floor_lt]
    push_cast
    nlinarith [drawn.1, drawn.2]
  omega

/-- What a worker is deployed with; a message id is the text of its column. -/
structure Provider extends Vault where
  dates : DateLibrary
  urls : UrlLibrary
  messageIdText : MessageId → String

def Provider.platform (provider : Provider) : Platform :=
  ⟨provider.numbers, provider.dates, provider.urls⟩

def internalError : ProviderError where
  code := "NOTIFICATION_INTERNAL_ERROR"
  retryable := false
  deliveryUncertain := false
  retryAfterMs := none
  safeMessage := "알림을 안전하게 처리하지 못했습니다."

def isControlChar (char : Char) : Bool :=
  decide (char.toNat < 0x20) || decide (char.toNat = 0x7F)

def maxProviderMessageIdLength : Nat := 512

def normalizeProviderMessageId (value : Option String) : Option String := do
  let text ← value
  let normalized := trimText (String.ofList (text.toList.filter fun char => !isControlChar char))
  if normalized = "" then none
  else some (String.ofList (normalized.toList.take maxProviderMessageIdLength))

theorem provider_message_id_fits {value : Option String} {stored : String}
    (normalized : normalizeProviderMessageId value = some stored) :
    stored.length ≤ maxProviderMessageIdLength := by
  rw [normalizeProviderMessageId, Option.bind_eq_bind, Option.bind_eq_some_iff] at normalized
  obtain ⟨text, -, kept⟩ := normalized
  dsimp only at kept
  split at kept
  · cases kept
  · rw [Option.some_inj] at kept
    rw [← kept, String.length_ofList]
    exact List.length_take_le _ _

section Provide

variable (provider : Provider) (row : OutboxRow)

/-- `process` between the claim and the report, on the bytes of the column. -/
def provideColumn (column : Bytes) (now : Int) (outcome : FetchOutcome) :
    Except ProviderError SendResult × List TelegramEvent :=
  let payload := parseNotificationPayload provider.numbers provider.dates
    (payloadJson provider.numbers provider.dates row.payloadSafe) row.eventType now
  match decryptJson provider.toVault column with
  | none => (.error internalError, [])
  | some channelConfig =>
      match telegramDestination channelConfig with
      | .error error => (.error error, [])
      | .ok destination =>
          send provider.json provider.dates provider.urls payload destination
            (provider.messageIdText row.messageId) outcome

def provide (outcome : FetchOutcome) : Except ProviderError SendResult × List TelegramEvent :=
  match content row.encryptedConfigSnapshot with
  | none => (.error internalError, [])
  | some destination =>
      send provider.json provider.dates provider.urls
        (safePayload provider.numbers provider.dates row.payloadSafe row.eventType) destination
        (provider.messageIdText row.messageId) outcome

def messageOf : Units :=
  renderNotification provider.platform
    (safePayload provider.numbers provider.dates row.payloadSafe row.eventType)

end Provide

section Provided

variable {provider : Provider} {row : OutboxRow} {outcome : FetchOutcome}

theorem provide_column (texts : provider.json.KeepsTexts) (whole : provider.numbers.WholeFinite)
    {column : Bytes} (stored : StoredAs provider.gcm provider.key (configText provider.toVault)
      row.encryptedConfigSnapshot column) (now : Int) :
    provideColumn provider row column now outcome = provide provider row outcome := by
  have read := worker_destination texts stored
  rw [provideColumn, provide, parse_notification_payload_json whole]
  cases secret : content row.encryptedConfigSnapshot with
  | none =>
      rw [secret, Option.map_none, Option.map_eq_none_iff] at read
      rw [read]
  | some destination =>
      rw [secret, Option.map_some, Option.map_eq_some_iff] at read
      obtain ⟨value, decrypted, found⟩ := read
      rw [decrypted]
      dsimp only
      rw [found]

theorem provide_request {url chatId : String} {text : Units}
    (requested : .request url chatId text ∈ (provide provider row outcome).2) :
    ∃ destination, content row.encryptedConfigSnapshot = some destination ∧
      url = requestUrl destination ∧ chatId = destination.chatId ∧ text = messageOf provider row := by
  rw [provide] at requested
  split at requested
  · cases requested
  · rename_i destination secret
    cases checked : validateDestination destination with
    | some error =>
        rw [send_malformed checked] at requested
        cases requested
    | none =>
        obtain ⟨after, events, others⟩ := send_request checked
        rw [events, List.mem_cons] at requested
        rcases requested with first | later
        · cases first
          exact ⟨destination, secret, rfl, rfl, rfl⟩
        · exact absurd later (others url chatId text)

theorem provide_accepted {result : SendResult}
    (accepted : (provide provider row outcome).1 = .ok result) :
    ∃ destination, content row.encryptedConfigSnapshot = some destination ∧
      .request (requestUrl destination) destination.chatId (messageOf provider row) ∈
        (provide provider row outcome).2 := by
  rw [provide] at accepted ⊢
  split at accepted
  · cases accepted
  · rename_i destination secret
    refine ⟨destination, secret, ?_⟩
    cases checked : validateDestination destination with
    | some error =>
        rw [send_malformed checked] at accepted
        cases accepted
    | none =>
        obtain ⟨after, events, _⟩ := send_request checked
        rw [events]
        exact List.mem_cons_self

end Provided

end LinkAlive.Delivery
