import LinkAlive.Delivery.Columns
import LinkAlive.Delivery.Message

/-!
# The Telegram adapter

`packages/notifications/src/telegram.ts`. What `fetch` and the response do is the argument
of the model: the request is refused or times out, or there is a response with a status, two
headers and a body that comes in chunks and ends or fails. The model keeps a log of what is
done with them.
-/

namespace LinkAlive.Delivery

set_option autoImplicit false

def maxRetryAfterMs : Nat := 15 * 60000
def maxTelegramErrorBodyBytes : Nat := 64 * 1024

structure ResponseBody where
  chunks : List Bytes
  /-- The stream ends; otherwise it fails behind the chunks. -/
  complete : Bool
deriving DecidableEq, Repr

structure TelegramResponse where
  status : Nat
  retryAfter : Option String
  contentLength : Option String
  body : Option ResponseBody
deriving DecidableEq, Repr

def TelegramResponse.ok (response : TelegramResponse) : Bool :=
  200 ≤ response.status && response.status ≤ 299

/-- What comes of `fetch`. -/
inductive FetchOutcome
  | rejected (timedOut : Bool)
  | answered (response : TelegramResponse)
deriving DecidableEq, Repr

inductive TelegramEvent
  | request (url chatId : String) (text : Units)
  | read (size : Nat)
  /-- The body has ended or failed. -/
  | ended
  | canceled
  | released
deriving DecidableEq, Repr

structure SendResult where
  messageId : String
  providerMessageId : Option String
deriving DecidableEq, Repr

def isTokenChar (char : Char) : Bool := char.isAlphanum || char = '_' || char = '-'

/-- `/^\d{6,12}:[A-Za-z0-9_-]{20,}$/` -/
def botTokenValid (token : String) : Bool :=
  let digits := token.toList.takeWhile Char.isDigit
  let rest := token.toList.dropWhile Char.isDigit
  6 ≤ digits.length && digits.length ≤ 12 && rest.head? = some ':' &&
    20 ≤ (rest.drop 1).length && (rest.drop 1).all isTokenChar

/-- `/^-?\d{1,20}$|^@[A-Za-z][A-Za-z0-9_]{4,31}$/` -/
def chatIdValid (chatId : String) : Bool :=
  match chatId.toList with
  | '@' :: first :: rest =>
      first.isAlpha && 4 ≤ rest.length && rest.length ≤ 31 &&
        rest.all fun char => char.isAlphanum || char = '_'
  | '-' :: digits => 1 ≤ digits.length && digits.length ≤ 20 && digits.all Char.isDigit
  | digits => 1 ≤ digits.length && digits.length ≤ 20 && digits.all Char.isDigit

/-- The error that `validateDestination` throws, if it does. -/
def validateDestination (destination : ChannelConfig) : Option ProviderError :=
  if !botTokenValid destination.botToken then
    some {
      code := "INVALID_TELEGRAM_CONFIG"
      retryable := false
      deliveryUncertain := false
      retryAfterMs := none
      safeMessage := "Telegram bot 설정이 올바르지 않습니다." }
  else if !chatIdValid destination.chatId then
    some {
      code := "INVALID_TELEGRAM_DESTINATION"
      retryable := false
      deliveryUncertain := false
      retryAfterMs := none
      safeMessage := "Telegram 채팅 대상이 올바르지 않습니다." }
  else none

def apiRoot : String := "https://api.telegram.org/bot"
def apiMethod : String := "/sendMessage"

def requestUrl (destination : ChannelConfig) : String :=
  apiRoot ++ destination.botToken ++ apiMethod

def uncertainMessage : String := "Telegram 응답을 확인하지 못해 전달 여부가 불확실합니다."

def fetchError (timedOut : Bool) : ProviderError where
  code := if timedOut then "TELEGRAM_TIMEOUT" else "TELEGRAM_NETWORK_ERROR"
  retryable := true
  deliveryUncertain := timedOut
  retryAfterMs := none
  safeMessage := if timedOut then uncertainMessage else "Telegram 제공자와 통신하지 못했습니다."

def isTransient (status : Nat) : Bool := status = 429 || 500 ≤ status

def statusError (status : Nat) (retryAfterMs : Option Nat) : ProviderError where
  code := "TELEGRAM_HTTP_" ++ toString status
  retryable := isTransient status
  deliveryUncertain := false
  retryAfterMs := retryAfterMs
  safeMessage :=
    if isTransient status then "Telegram 제공자가 일시적으로 요청을 처리하지 못했습니다."
    else "Telegram 제공자가 메시지를 거절했습니다."

def invalidResponse : ProviderError where
  code := "TELEGRAM_INVALID_RESPONSE"
  retryable := true
  deliveryUncertain := true
  retryAfterMs := none
  safeMessage := uncertainMessage

section Adapter

variable {numbers : NumberLibrary} (json : JsonLibrary numbers)

def retryDelay (seconds : numbers.Number) : Option Nat :=
  if !numbers.isFinite seconds || numbers.isNegative seconds then none
  else some (min maxRetryAfterMs (numbers.milliseconds seconds))

/-- `parseRetryAfterMs`; whatever is neither a number nor a text is NaN. -/
def parseRetryAfterMs (value : Option (JsonValue numbers.Number)) : Option Nat :=
  match value with
  | some (.number seconds) => retryDelay seconds
  | some (.string text) =>
      if trimText text = "" then none else retryDelay (numbers.read text)
  | _ => none

/-- The loop of `readBoundedTelegramError`, with what it has read and decoded. -/
def readErrorBody (bytesRead : Nat) (decoder : Utf8.State) (text : Units) :
    List Bytes → Bool → Option (JsonValue numbers.Number) × List TelegramEvent
  | [], false => (none, [.ended, .canceled])
  | [], true =>
      match json.parse (text ++ (Utf8.decode decoder [] false).1) with
      | some value => (some value, [.ended])
      | none => (none, [.ended, .canceled])
  | chunk :: rest, complete =>
      if maxTelegramErrorBodyBytes < bytesRead + chunk.length then
        (none, [.read chunk.length, .canceled])
      else
        let (units, decoder) := Utf8.decode decoder chunk true
        let (value, events) :=
          readErrorBody (bytesRead + chunk.length) decoder (text ++ units) rest complete
        (value, .read chunk.length :: events)

def cancelBody (response : TelegramResponse) : List TelegramEvent :=
  if response.body.isSome then [.canceled] else []

/-- A missing header is read like an empty one, as zero. -/
def declaresTooMuch (numbers : NumberLibrary) (response : TelegramResponse) : Bool :=
  let declaredLength := numbers.read (response.contentLength.getD "")
  numbers.isFinite declaredLength && numbers.exceeds declaredLength maxTelegramErrorBodyBytes

def readBoundedTelegramError (response : TelegramResponse) :
    Option (JsonValue numbers.Number) × List TelegramEvent :=
  if declaresTooMuch numbers response then (none, cancelBody response)
  else
    match response.body with
    | none => (none, [])
    | some body =>
        let (value, events) := readErrorBody json 0 Utf8.fresh [] body.chunks body.complete
        (value, events ++ [.released])

/-- `response.json()`, where there is a value. -/
def readJson (response : TelegramResponse) : Option (JsonValue numbers.Number) :=
  match response.body with
  | none => json.parse []
  | some body =>
      if body.complete then json.parse (Utf8.decode Utf8.fresh body.chunks.flatten false).1
      else none

def readAll (response : TelegramResponse) : List TelegramEvent :=
  match response.body with
  | none => []
  | some body => body.chunks.map (fun chunk => .read chunk.length) ++ [.ended]

def bodyRetryAfter (errorBody : Option (JsonValue numbers.Number)) : Option Nat :=
  parseRetryAfterMs
    ((errorBody.bind fun value => value.field "parameters").bind fun value =>
      value.field "retry_after")

/-- The identifier of an accepted message; the outer `none` is the rejection of the body. -/
def acceptedMessage (body : Option (JsonValue numbers.Number)) : Option (Option String) :=
  match body.bind fun value => value.field "ok" with
  | some (.bool true) =>
      match (body.bind fun value => value.field "result").bind fun value =>
        value.field "message_id" with
      | some (.number value) => some (some (numbers.text value))
      | some (.string value) => some (some value)
      | _ => some none
  | _ => none

/-- What `send` does with a response. -/
def answer (messageId : String) (response : TelegramResponse) :
    Except ProviderError SendResult × List TelegramEvent :=
  if response.ok then
    match acceptedMessage (readJson json response) with
    | some providerMessageId => (.ok ⟨messageId, providerMessageId⟩, readAll response)
    | none => (.error invalidResponse, readAll response)
  else
    let headerDelay := @parseRetryAfterMs numbers (response.retryAfter.map .string)
    if response.status = 429 && headerDelay.isNone then
      let (errorBody, events) := readBoundedTelegramError json response
      (.error (statusError response.status (bodyRetryAfter errorBody)), events)
    else (.error (statusError response.status headerDelay), cancelBody response)

def deliver (dates : DateLibrary) (urls : UrlLibrary) (payload : SafeNotificationPayload numbers)
    (destination : ChannelConfig) (messageId : String) (outcome : FetchOutcome) :
    Except ProviderError SendResult × List TelegramEvent :=
  let request : TelegramEvent := .request (requestUrl destination) destination.chatId
    (renderNotification ⟨numbers, dates, urls⟩ payload)
  match outcome with
  | .rejected timedOut => (.error (fetchError timedOut), [request])
  | .answered response =>
      ((answer json messageId response).1, request :: (answer json messageId response).2)

/-- `TelegramNotificationAdapter.send`. -/
def send (dates : DateLibrary) (urls : UrlLibrary) (payload : SafeNotificationPayload numbers)
    (destination : ChannelConfig) (messageId : String) (outcome : FetchOutcome) :
    Except ProviderError SendResult × List TelegramEvent :=
  match validateDestination destination with
  | some error => (.error error, [])
  | none => deliver json dates urls payload destination messageId outcome

end Adapter

theorem token_char {token : String} (valid : botTokenValid token = true) :
    ∀ char ∈ token.toList, isTokenChar char = true ∨ char = ':' := by
  have parts : token.toList.takeWhile Char.isDigit ++ token.toList.dropWhile Char.isDigit =
      token.toList := List.takeWhile_append_dropWhile
  intro char member
  simp only [botTokenValid, Bool.and_eq_true, decide_eq_true_eq] at valid
  obtain ⟨⟨⟨-, colon⟩, -⟩, secret⟩ := valid
  rw [← parts, List.mem_append] at member
  rcases member with digit | later
  · have isDigit : char.isDigit = true := List.all_eq_true.1 List.all_takeWhile char digit
    left
    rw [isTokenChar, Char.isAlphanum, isDigit]
    simp
  · cases shape : token.toList.dropWhile Char.isDigit with
    | nil =>
        rw [shape] at later
        cases later
    | cons first rest =>
        rw [shape] at colon later secret
        rcases List.mem_cons.1 later with same | inside
        · rw [same]
          exact .inr (Option.some.inj colon)
        · exact .inl (List.all_eq_true.1 secret char inside)

/-- The characters of a request's URL; none of them starts a query, a fragment, user
information or an escape. -/
def isUrlChar (char : Char) : Bool := char.isAlphanum || char ∈ [':', '/', '.', '_', '-']

theorem request_url_segments {destination : ChannelConfig}
    (valid : validateDestination destination = none) :
    (requestUrl destination).toList.splitOn '/' =
        ["https:".toList, [], "api.telegram.org".toList,
          "bot".toList ++ destination.botToken.toList, "sendMessage".toList] ∧
      ∀ char ∈ (requestUrl destination).toList, isUrlChar char = true := by
  have token : botTokenValid destination.botToken = true := by
    rw [validateDestination] at valid
    split at valid
    case isTrue => cases valid
    case isFalse kept => simpa using kept
  have chars := token_char token
  have url : (requestUrl destination).toList =
      apiRoot.toList ++ destination.botToken.toList ++ apiMethod.toList := by
    rw [requestUrl, String.toList_append, String.toList_append]
  constructor
  · have slash : '/' ∉ "bot".toList ++ destination.botToken.toList := by
      intro member
      rcases List.mem_append.1 member with constant | inside
      · exact absurd constant (by decide)
      · rcases chars '/' inside with member | same
        · exact absurd member (by decide)
        · exact absurd same (by decide)
    have root : apiRoot.toList = "https:".toList ++ '/' :: ([] ++ '/' ::
        ("api.telegram.org".toList ++ '/' :: "bot".toList)) := by decide
    have method : apiMethod.toList = '/' :: "sendMessage".toList := by decide
    rw [url, root, method]
    simp only [List.append_assoc, List.cons_append, List.nil_append]
    rw [List.splitOn_append_cons_self_of_not_mem (by decide), ← List.nil_append ('/' :: _),
      List.splitOn_append_cons_self_of_not_mem (by decide),
      List.splitOn_append_cons_self_of_not_mem (by decide), ← List.append_assoc,
      List.splitOn_append_cons_self_of_not_mem slash, List.splitOn_eq_singleton (by decide)]
  · intro char member
    have start : apiRoot.toList.all isUrlChar = true := by decide
    have path : apiMethod.toList.all isUrlChar = true := by decide
    rw [url] at member
    rcases List.mem_append.1 member with earlier | after
    · rcases List.mem_append.1 earlier with before | inside
      · exact List.all_eq_true.1 start char before
      · rcases chars char inside with plain | same
        · rw [isTokenChar, Bool.or_eq_true, Bool.or_eq_true, decide_eq_true_eq,
            decide_eq_true_eq] at plain
          rw [isUrlChar]
          rcases plain with (letter | same) | same
          · rw [letter]
            rfl
          · rw [same]
            rfl
          · rw [same]
            rfl
        · rw [same]
          rfl
    · exact List.all_eq_true.1 path char after

def readEvent (chunk : Bytes) : TelegramEvent := .read chunk.length

/-- A body is read chunk by chunk from its start until it ends or is canceled. With `bounded`
no chunk is read once more than the limit has been read. -/
structure Handled (body : ResponseBody) (bounded : Bool) (events : List TelegramEvent) : Prop where
  log : ∃ count ending, events = (body.chunks.take count).map readEvent ++ ending ∧
    (∀ event ∈ ending, event ∈ [.ended, .canceled, .released]) ∧
    (.ended ∈ ending ∨ .canceled ∈ ending) ∧
    (bounded = true →
      (body.chunks.take (count - 1)).flatten.length ≤ maxTelegramErrorBodyBytes)

section Bodies

variable {numbers : NumberLibrary} {json : JsonLibrary numbers}

/-- What the loop finds depends on the bytes only, not on the chunks. -/
theorem read_error_body_value (bytesRead : Nat) (decoder : Utf8.State) (text : Units)
    (chunks : List Bytes) (complete : Bool)
    (within : bytesRead ≤ maxTelegramErrorBodyBytes) :
    (readErrorBody json bytesRead decoder text chunks complete).1 =
      if complete = true ∧ bytesRead + chunks.flatten.length ≤ maxTelegramErrorBodyBytes then
        json.parse (text ++ (Utf8.decode decoder chunks.flatten false).1)
      else none := by
  induction chunks generalizing bytesRead decoder text with
  | nil =>
      cases complete with
      | false => rfl
      | true =>
          rw [List.flatten_nil, List.length_nil, if_pos ⟨rfl, within⟩, readErrorBody]
          cases json.parse (text ++ (Utf8.decode decoder [] false).1) <;> rfl
  | cons chunk rest induction =>
      rw [readErrorBody, List.flatten_cons, List.length_append]
      by_cases long : maxTelegramErrorBodyBytes < bytesRead + chunk.length
      · have beyond : ¬(complete = true ∧
            bytesRead + (chunk.length + rest.flatten.length) ≤ maxTelegramErrorBodyBytes) := by
          rintro ⟨-, short⟩
          omega
        rw [if_pos long, if_neg beyond]
      · rw [if_neg long]
        have whole := (Utf8.decode_append decoder chunk rest.flatten false).1
        have next := induction (bytesRead + chunk.length) (Utf8.decode decoder chunk true).2
          (text ++ (Utf8.decode decoder chunk true).1) (Nat.le_of_not_lt long)
        rw [List.append_assoc, whole, Nat.add_assoc] at next
        exact next

theorem read_error_body_log (bytesRead : Nat) (decoder : Utf8.State) (text : Units)
    (chunks : List Bytes) (complete : Bool)
    (within : bytesRead ≤ maxTelegramErrorBodyBytes) :
    ∃ count ending, (readErrorBody json bytesRead decoder text chunks complete).2 =
        (chunks.take count).map readEvent ++ ending ∧
      (∀ event ∈ ending, event ∈ [TelegramEvent.ended, .canceled]) ∧ ending ≠ [] ∧
      bytesRead + (chunks.take (count - 1)).flatten.length ≤ maxTelegramErrorBodyBytes := by
  induction chunks generalizing bytesRead decoder text with
  | nil =>
      cases complete with
      | false => exact ⟨0, [.ended, .canceled], rfl, by simp, by simp, by simpa using within⟩
      | true =>
          rw [readErrorBody]
          cases json.parse (text ++ (Utf8.decode decoder [] false).1) with
          | none => exact ⟨0, [.ended, .canceled], rfl, by simp, by simp, by simpa using within⟩
          | some value => exact ⟨0, [.ended], rfl, by simp, by simp, by simpa using within⟩
  | cons chunk rest induction =>
      rw [readErrorBody]
      by_cases long : maxTelegramErrorBodyBytes < bytesRead + chunk.length
      · rw [if_pos long]
        exact ⟨1, [.canceled], rfl, by simp, by simp, by simpa using within⟩
      · rw [if_neg long]
        obtain ⟨count, ending, log, closing, filled, bound⟩ :=
          induction (bytesRead + chunk.length) (Utf8.decode decoder chunk true).2
            (text ++ (Utf8.decode decoder chunk true).1) (Nat.le_of_not_lt long)
        refine ⟨count + 1, ending, congrArg (List.cons (readEvent chunk)) log, closing, filled, ?_⟩
        rw [Nat.add_sub_cancel]
        cases count with
        | zero => simpa using within
        | succ count =>
            rw [List.take_succ_cons, List.flatten_cons, List.length_append]
            rw [Nat.add_sub_cancel] at bound
            omega

theorem ended_or_canceled {ending : List TelegramEvent}
    (closing : ∀ event ∈ ending, event ∈ [TelegramEvent.ended, .canceled])
    (filled : ending ≠ []) : .ended ∈ ending ∨ .canceled ∈ ending := by
  cases ending with
  | nil => exact absurd rfl filled
  | cons first rest =>
      have kind := closing first List.mem_cons_self
      simp only [List.mem_cons, List.not_mem_nil, or_false] at kind
      rcases kind with rfl | rfl
      · exact .inl List.mem_cons_self
      · exact .inr List.mem_cons_self

theorem cancel_body_handled {response : TelegramResponse} {body : ResponseBody}
    (found : response.body = some body) : Handled body true (cancelBody response) := by
  rw [cancelBody, found]
  exact ⟨0, [.canceled], rfl, by simp, by simp, fun _ => Nat.zero_le _⟩

theorem read_all_handled {response : TelegramResponse} {body : ResponseBody}
    (found : response.body = some body) : Handled body false (readAll response) := by
  rw [readAll, found]
  refine ⟨body.chunks.length, [.ended], ?_, by simp, by simp, fun bounded => by cases bounded⟩
  rw [List.take_length]
  rfl

theorem read_bounded_handled {response : TelegramResponse} {body : ResponseBody}
    (found : response.body = some body) :
    Handled body true (readBoundedTelegramError json response).2 := by
  rw [readBoundedTelegramError]
  split
  · exact cancel_body_handled found
  · rw [found]
    obtain ⟨count, ending, log, closing, filled, bound⟩ :=
      @read_error_body_log numbers json 0 Utf8.fresh [] body.chunks body.complete (Nat.zero_le _)
    refine ⟨count, ending ++ [.released], ?_, ?_, ?_, ?_⟩
    · change (readErrorBody json 0 Utf8.fresh [] body.chunks body.complete).2 ++ _ = _
      rw [log, List.append_assoc]
    · intro event member
      rcases List.mem_append.1 member with inside | last
      · have kind := closing event inside
        simp only [List.mem_cons, List.not_mem_nil, or_false] at kind ⊢
        exact kind.imp_right .inl
      · simp only [List.mem_cons, List.not_mem_nil, or_false] at last ⊢
        exact .inr (.inr last)
    · rcases ended_or_canceled closing filled with ended | canceled
      · exact .inl (List.mem_append_left _ ended)
      · exact .inr (List.mem_append_left _ canceled)
    · intro _
      rw [Nat.zero_add] at bound
      exact bound

theorem answer_handled {messageId : String} {response : TelegramResponse} {body : ResponseBody}
    (found : response.body = some body) :
    Handled body (!response.ok) (answer json messageId response).2 := by
  rw [answer]
  cases ok : response.ok with
  | true =>
      rw [if_pos rfl]
      split <;> exact read_all_handled found
  | false =>
      rw [if_neg Bool.false_ne_true]
      dsimp only
      split
      · exact read_bounded_handled found
      · exact cancel_body_handled found

end Bodies

structure SameBytes (first second : TelegramResponse) : Prop where
  status : first.status = second.status
  retryAfter : first.retryAfter = second.retryAfter
  contentLength : first.contentLength = second.contentLength
  body : first.body.map (fun body => (body.chunks.flatten, body.complete)) =
    second.body.map fun body => (body.chunks.flatten, body.complete)

/-- The provider may do better next time. -/
def FetchOutcome.transient : FetchOutcome → Bool
  | .rejected _ => true
  | .answered response => response.ok || isTransient response.status

/-- The provider may have delivered the message. -/
def FetchOutcome.uncertain : FetchOutcome → Bool
  | .rejected timedOut => timedOut
  | .answered response => response.ok

def safeMessages : List String :=
  [uncertainMessage, "Telegram 제공자와 통신하지 못했습니다.",
    "Telegram 제공자가 일시적으로 요청을 처리하지 못했습니다.",
    "Telegram 제공자가 메시지를 거절했습니다."]

section Results

variable {numbers : NumberLibrary} {json : JsonLibrary numbers}

theorem retry_delay_bounded {seconds : numbers.Number} {delay : Nat}
    (found : retryDelay seconds = some delay) : delay ≤ maxRetryAfterMs := by
  rw [retryDelay] at found
  split at found
  · cases found
  · cases found
    exact Nat.min_le_left _ _

theorem retry_after_bounded {value : Option (JsonValue numbers.Number)} {delay : Nat}
    (found : parseRetryAfterMs value = some delay) : delay ≤ maxRetryAfterMs := by
  unfold parseRetryAfterMs at found
  split at found
  · exact retry_delay_bounded found
  · split at found
    · cases found
    · exact retry_delay_bounded found
  · cases found

theorem read_json_same {first second : TelegramResponse} (same : SameBytes first second) :
    readJson json first = readJson json second := by
  have body := same.body
  rw [readJson, readJson]
  cases front : first.body with
  | none =>
      cases back : second.body with
      | none => rfl
      | some other => rw [front, back] at body; cases body
  | some source =>
      cases back : second.body with
      | none => rw [front, back] at body; cases body
      | some other =>
          rw [front, back, Option.map_some, Option.map_some, Option.some.injEq,
            Prod.mk.injEq] at body
          dsimp only
          rw [body.1, body.2]

theorem read_bounded_same {first second : TelegramResponse} (same : SameBytes first second) :
    (readBoundedTelegramError json first).1 = (readBoundedTelegramError json second).1 := by
  have body := same.body
  have declared : declaresTooMuch numbers first = declaresTooMuch numbers second := by
    rw [declaresTooMuch, declaresTooMuch, same.contentLength]
  rw [readBoundedTelegramError, readBoundedTelegramError, declared]
  split
  · rfl
  · cases front : first.body with
    | none =>
        cases back : second.body with
        | none => rfl
        | some other => rw [front, back] at body; cases body
    | some source =>
        cases back : second.body with
        | none => rw [front, back] at body; cases body
        | some other =>
            rw [front, back, Option.map_some, Option.map_some, Option.some.injEq,
              Prod.mk.injEq] at body
            change (readErrorBody json 0 Utf8.fresh [] source.chunks source.complete).1 =
              (readErrorBody json 0 Utf8.fresh [] other.chunks other.complete).1
            rw [read_error_body_value _ _ _ _ _ (Nat.zero_le _),
              read_error_body_value _ _ _ _ _ (Nat.zero_le _), body.1, body.2]

/-- The result does not depend on the chunks. -/
theorem answer_same {first second : TelegramResponse} (same : SameBytes first second)
    (messageId : String) :
    (answer json messageId first).1 = (answer json messageId second).1 := by
  have ok : first.ok = second.ok := by rw [TelegramResponse.ok, TelegramResponse.ok, same.status]
  rw [answer, answer, ok, read_json_same same, same.status, same.retryAfter]
  split
  · split <;> rfl
  · dsimp only
    split
    · change Except.error (statusError second.status
        (bodyRetryAfter (readBoundedTelegramError json first).1)) = _
      rw [read_bounded_same same]
    · rfl

theorem answer_error {messageId : String} {response : TelegramResponse} {error : ProviderError}
    (failed : (answer json messageId response).1 = .error error) :
    error.retryable = (response.ok || isTransient response.status) ∧
      error.deliveryUncertain = response.ok ∧
      (∀ delay, error.retryAfterMs = some delay → delay ≤ maxRetryAfterMs) ∧
      error.safeMessage ∈ safeMessages := by
  rw [answer] at failed
  cases ok : response.ok with
  | true =>
      rw [ok, if_pos rfl] at failed
      split at failed
      · cases failed
      · cases failed
        exact ⟨rfl, rfl, by simp [invalidResponse], by decide⟩
  | false =>
      rw [ok, if_neg Bool.false_ne_true] at failed
      have message : ∀ delay, (statusError response.status delay).safeMessage ∈ safeMessages := by
        intro delay
        rw [statusError]
        dsimp only
        split <;> decide
      dsimp only at failed
      split at failed
      · cases failed
        exact ⟨rfl, rfl, fun delay found => retry_after_bounded found, message _⟩
      · cases failed
        exact ⟨rfl, rfl, fun delay found => retry_after_bounded found, message _⟩

theorem answer_ok {messageId : String} {response : TelegramResponse} {result : SendResult}
    (accepted : (answer json messageId response).1 = .ok result) :
    response.ok = true ∧ result.messageId = messageId ∧
      acceptedMessage (readJson json response) = some result.providerMessageId := by
  rw [answer] at accepted
  cases ok : response.ok with
  | true =>
      rw [ok, if_pos rfl] at accepted
      split at accepted
      case h_1 providerMessageId found =>
        cases accepted
        exact ⟨rfl, rfl, found⟩
      case h_2 => cases accepted
  | false =>
      rw [ok, if_neg Bool.false_ne_true] at accepted
      dsimp only at accepted
      split at accepted <;> cases accepted

end Results

/-- What a sender may rely on, whatever the network and the provider do. -/
structure SendContract {numbers : NumberLibrary} (json : JsonLibrary numbers)
    (dates : DateLibrary) (urls : UrlLibrary) (payload : SafeNotificationPayload numbers)
    (destination : ChannelConfig) (messageId : String) (outcome : FetchOutcome) : Prop where
  /-- Nothing is sent to a malformed destination, ever. -/
  malformed : ∀ error, validateDestination destination = some error →
    send json dates urls payload destination messageId outcome = (.error error, []) ∧
      error.retryable = false
  /-- There is one request, and it comes first. -/
  request : validateDestination destination = none →
    ∃ after, (send json dates urls payload destination messageId outcome).2 =
        .request (requestUrl destination) destination.chatId
          (renderNotification ⟨numbers, dates, urls⟩ payload) :: after ∧
      ∀ url chatId text, .request url chatId text ∉ after
  /-- It goes to the method of the bot: the token adds no path, query, fragment or host. -/
  target : validateDestination destination = none →
    (requestUrl destination).toList.splitOn '/' =
        ["https:".toList, [], "api.telegram.org".toList,
          "bot".toList ++ destination.botToken.toList, "sendMessage".toList] ∧
      ∀ char ∈ (requestUrl destination).toList, isUrlChar char = true
  /-- The body of the response is not left open, and that of an error is not read for long. -/
  handled : ∀ response body, validateDestination destination = none →
    outcome = .answered response → response.body = some body →
      Handled body (!response.ok) ((send json dates urls payload destination messageId outcome).2.drop 1)
  /-- The result does not tell a well-formed destination or a payload. -/
  secretless : ∀ otherPayload other, validateDestination destination = none →
    validateDestination other = none →
      (send json dates urls otherPayload other messageId outcome).1 =
        (send json dates urls payload destination messageId outcome).1
  /-- It does not depend on how the body is cut into chunks. -/
  chunks : ∀ response other, outcome = .answered response → SameBytes response other →
    (send json dates urls payload destination messageId (.answered other)).1 =
      (send json dates urls payload destination messageId outcome).1
  errors : ∀ error, validateDestination destination = none →
    (send json dates urls payload destination messageId outcome).1 = .error error →
      error.retryable = outcome.transient ∧ error.deliveryUncertain = outcome.uncertain ∧
        (∀ delay, error.retryAfterMs = some delay → delay ≤ maxRetryAfterMs) ∧
        error.safeMessage ∈ safeMessages
  accepted : ∀ result, (send json dates urls payload destination messageId outcome).1 = .ok result →
    ∃ response, outcome = .answered response ∧ response.ok = true ∧
      result.messageId = messageId ∧
        acceptedMessage (readJson json response) = some result.providerMessageId

section Contract

variable {numbers : NumberLibrary} {json : JsonLibrary numbers} {dates : DateLibrary}
  {urls : UrlLibrary} {payload : SafeNotificationPayload numbers} {destination : ChannelConfig}
  {messageId : String} {outcome : FetchOutcome}

theorem send_valid (valid : validateDestination destination = none) :
    send json dates urls payload destination messageId outcome =
      deliver json dates urls payload destination messageId outcome := by
  rw [send, valid]

theorem send_malformed {error : ProviderError}
    (malformed : validateDestination destination = some error) :
    send json dates urls payload destination messageId outcome = (.error error, []) := by
  rw [send, malformed]

theorem validation_final {error : ProviderError}
    (malformed : validateDestination destination = some error) : error.retryable = false := by
  rw [validateDestination] at malformed
  split at malformed
  · cases malformed
    rfl
  split at malformed
  · cases malformed
    rfl
  · cases malformed

theorem handled_no_request {body : ResponseBody} {bounded : Bool} {events : List TelegramEvent}
    (handled : Handled body bounded events) (url chatId : String) (text : Units) :
    .request url chatId text ∉ events := by
  obtain ⟨count, ending, rfl, closing, -, -⟩ := handled.log
  intro member
  rcases List.mem_append.1 member with reading | last
  · obtain ⟨chunk, -, same⟩ := List.mem_map.1 reading
    cases same
  · have kind := closing _ last
    simp at kind

theorem answer_no_request (response : TelegramResponse) (url chatId : String) (text : Units) :
    .request url chatId text ∉ (answer json messageId response).2 := by
  cases found : response.body with
  | some body => exact handled_no_request (answer_handled found) url chatId text
  | none =>
      have empty : (answer json messageId response).2 = [] := by
        rw [answer]
        split
        · split <;> rw [readAll, found]
        · dsimp only
          split
          · rw [readBoundedTelegramError, found, cancelBody, found]
            split <;> rfl
          · rw [cancelBody, found]
            rfl
      rw [empty]
      exact List.not_mem_nil

theorem send_request (valid : validateDestination destination = none) :
    ∃ after, (send json dates urls payload destination messageId outcome).2 =
        .request (requestUrl destination) destination.chatId
          (renderNotification ⟨numbers, dates, urls⟩ payload) :: after ∧
      ∀ url chatId text, .request url chatId text ∉ after := by
  rw [send_valid valid]
  cases outcome with
  | rejected timedOut => exact ⟨[], rfl, fun _ _ _ => List.not_mem_nil⟩
  | answered response => exact ⟨_, rfl, answer_no_request response⟩

end Contract

theorem telegram_send_contract {numbers : NumberLibrary} (json : JsonLibrary numbers)
    (dates : DateLibrary) (urls : UrlLibrary) (payload : SafeNotificationPayload numbers)
    (destination : ChannelConfig) (messageId : String) (outcome : FetchOutcome) :
    SendContract json dates urls payload destination messageId outcome := by
  constructor
  · intro error malformed
    exact ⟨send_malformed malformed, validation_final malformed⟩
  · exact send_request
  · exact request_url_segments
  · intro response body valid answered found
    rw [send_valid valid, answered]
    exact answer_handled found
  · intro otherPayload other valid fine
    rw [send_valid valid, send_valid fine]
    cases outcome <;> rfl
  · intro response other answered same
    rw [answered]
    cases checked : validateDestination destination with
    | some error => rw [send_malformed checked, send_malformed checked]
    | none =>
        rw [send_valid checked, send_valid checked]
        exact (answer_same same messageId).symm
  · intro error valid failed
    rw [send_valid valid] at failed
    cases outcome with
    | rejected timedOut =>
        cases failed
        refine ⟨rfl, rfl, fun delay found => (by cases found), ?_⟩
        cases timedOut <;> decide
    | answered response => exact answer_error failed
  · intro result accepted
    cases checked : validateDestination destination with
    | some error =>
        rw [send_malformed checked] at accepted
        cases accepted
    | none =>
        rw [send_valid checked] at accepted
        cases outcome with
        | rejected timedOut => cases accepted
        | answered response =>
            obtain ⟨ok, same, found⟩ := answer_ok accepted
            exact ⟨response, rfl, ok, same, found⟩

end LinkAlive.Delivery
