import LinkAlive.Delivery.Platform
import LinkAlive.Foundation.Lines
import LinkAlive.Monitoring.UrlPolicy

/-!
# Rendered notifications

`packages/notifications/src/message.ts`. The text has one line for each row, whatever a
monitor's name, URL or error message contains: a reader who cuts it at line feeds and the
first `: ` of a line finds the rows that were rendered, and nothing else.
-/

namespace LinkAlive.Delivery

set_option autoImplicit false

def maxNameLength : Nat := 160
def maxSafeMessageLength : Nat := 500
def maxTelegramLength : Nat := 4096

def isControl (unit : Nat) : Bool :=
  unit ≤ 0x08 || unit = 0x0B || unit = 0x0C || (0x0E ≤ unit && unit ≤ 0x1F) || unit = 0x7F

def isBreak (unit : Nat) : Bool := unit = 0x0D || unit = newline || unit = 0x09

/-- `\s`, which is also what `trim` removes. -/
def isBlankUnit (unit : Nat) : Bool :=
  (0x09 ≤ unit && unit ≤ 0x0D) || (0x2000 ≤ unit && unit ≤ 0x200A) ||
    unit ∈ [0x20, 0xA0, 0x1680, 0x2028, 0x2029, 0x202F, 0x205F, 0x3000, 0xFEFF]

def space : Nat := 0x20

def trimUnits (units : Units) : Units := (units.dropWhile isBlankUnit).rdropWhile isBlankUnit

def cleanText (value : Option String) (maxLength : Nat) : Units :=
  match value with
  | none => []
  | some value =>
      let printable := (codeUnits value).map fun unit => if isControl unit then space else unit
      let oneLine := Lines.replaceRuns isBreak 1 space printable
      (trimUnits (Lines.replaceRuns isBlankUnit 2 space oneLine)).take maxLength

def bareUrl (urls : UrlLibrary) (value : String) : Option Units := do
  let url ← urls.parse value
  if urls.protocol url ∉ ["http:", "https:"] then none
  else
    let bare := urls.withoutHash (urls.withSearch (urls.withoutCredentials url) "")
    some ((codeUnits (urls.serialize bare)).take 2000)

def hiddenUrl : Units := codeUnits "(URL 숨김)"

def sanitizeDisplayUrl (urls : UrlLibrary) (value : String) : Units :=
  (bareUrl urls value).getD hiddenUrl

def safeDashboardUrl (urls : UrlLibrary) (value : Option String) : Option Units :=
  value.bind (bareUrl urls)

def eventLabel : NotificationEventType → String
  | .networkRecovery => "감시 PC 외부 연결 복구"
  | .down => "장애 발생"
  | .recovery => "복구 완료"
  | .resolvedSummary => "장애 및 복구 요약"
  | .test => "시험 알림"

/-- A `string | Date`; a date without a time is invalid. -/
inductive DateInput
  | text (value : String)
  | date (time : Option Int)
deriving DecidableEq, Repr

def DateInput.getTime (dates : DateLibrary) : DateInput → Option Int
  | .text value => dates.read value
  | .date time => time

def formatDate (dates : DateLibrary) (value : DateInput) : Units :=
  match value.getTime dates with
  | none => codeUnits "확인 불가"
  | some time => codeUnits (dates.formatToParts time).text

def durationText (seconds : Nat) : String :=
  if seconds < 60 then toString seconds ++ "초"
  else
    let minutes := seconds / 60
    if minutes < 60 then toString minutes ++ "분 " ++ toString (seconds % 60) ++ "초"
    else toString (minutes / 60) ++ "시간 " ++ toString (minutes % 60) ++ "분"

def formatDuration (numbers : NumberLibrary) (durationMs : Option numbers.Number) :
    Option String := do
  let duration ← durationMs
  if !numbers.isFinite duration || numbers.isNegative duration then none
  else some (durationText (numbers.roundSeconds duration))

structure SafeNotificationPayload (numbers : NumberLibrary) where
  eventType : NotificationEventType
  monitorName : String
  displayUrl : String
  occurredAt : DateInput
  errorType : Option String
  errorMessageSafe : Option String
  statusCode : Option numbers.Number
  ttfbMs : Option numbers.Number
  durationMs : Option numbers.Number
  dashboardUrl : Option String
  networkStartedAt : Option String

structure Platform where
  numbers : NumberLibrary
  dates : DateLibrary
  urls : UrlLibrary

structure Platform.OneLine (platform : Platform) : Prop where
  numbers : platform.numbers.OneLine
  dates : platform.dates.OneLine
  urls : ∀ url, newline ∉ codeUnits (platform.urls.serialize url)

section Render

variable (platform : Platform) (payload : SafeNotificationPayload platform.numbers)

def renderedName : Units :=
  let name := cleanText (some payload.monitorName) maxNameLength
  if name = [] then codeUnits "이름 없는 모니터" else name

def networkRows : List (Units × Units) :=
  match payload.networkStartedAt with
  | none => []
  | some started =>
      if payload.eventType = .networkRecovery && started ≠ "" then
        [(codeUnits "연결 이상 감지", formatDate platform.dates (.text started))]
      else []

def textRow (key : String) (value : Units) : List (Units × Units) :=
  if value = [] then [] else [(codeUnits key, value)]

def statusRows : List (Units × Units) :=
  match payload.statusCode with
  | none => []
  | some status => [(codeUnits "HTTP 상태", codeUnits (platform.numbers.text status))]

def ttfbRows : List (Units × Units) :=
  match payload.ttfbMs with
  | none => []
  | some ttfb =>
      if platform.numbers.isFinite ttfb then
        [(codeUnits "응답 시간", codeUnits (toString (platform.numbers.round ttfb).toNat ++ "ms"))]
      else []

def durationRows : List (Units × Units) :=
  match formatDuration platform.numbers payload.durationMs with
  | none => []
  | some duration =>
      [(codeUnits (if payload.eventType = .networkRecovery then "연결 확인 불가 시간"
        else "장애 지속"), codeUnits duration)]

def messageRows : List (Units × Units) :=
  [(codeUnits (if payload.eventType = .networkRecovery then "감시 PC" else "모니터"),
      renderedName platform payload),
    (codeUnits "대상", sanitizeDisplayUrl platform.urls payload.displayUrl),
    (codeUnits "시각", formatDate platform.dates payload.occurredAt)] ++
    networkRows platform payload ++ textRow "오류 유형" (cleanText payload.errorType 80) ++
    textRow "설명" (cleanText payload.errorMessageSafe maxSafeMessageLength) ++
    statusRows platform payload ++ ttfbRows platform payload ++ durationRows platform payload

def rowLine (row : Units × Units) : Units := row.1 ++ codeUnits ": " ++ row.2

def dashboardRow : Option (Units × Units) :=
  match safeDashboardUrl platform.urls payload.dashboardUrl with
  | none => none
  | some url => if url = [] then none else some (codeUnits "관리 화면", url)

def dashboardLines : List Units :=
  match dashboardRow platform payload with
  | none => []
  | some row => [[], rowLine row]

def headerLine : Units := codeUnits "LinkAlive " ++ codeUnits (eventLabel payload.eventType)

def textLines : List Units :=
  headerLine platform payload :: [] :: ((messageRows platform payload).map rowLine ++
    dashboardLines platform payload)

def messageText : Units := [newline].intercalate (textLines platform payload)

def truncationNotice : Units := codeUnits "… 내용이 길어 관리 화면에서 확인해 주세요."

def truncateTelegram (text : Units) : Units :=
  if text.length ≤ maxTelegramLength then text
  else text.take (maxTelegramLength - 2000) ++ newline :: truncationNotice

/-- The `telegramText` of `renderNotification`. -/
def renderNotification : Units := truncateTelegram (messageText platform payload)

end Render

theorem clean_text_one_line (value : Option String) (maxLength : Nat) :
    newline ∉ cleanText value maxLength := by
  cases value with
  | none => exact List.not_mem_nil
  | some value =>
      intro member
      have trimmed := List.mem_of_mem_take member
      have kept := (List.dropWhile_sublist isBlankUnit).mem
        ((List.rdropWhile_prefix isBlankUnit _).sublist.mem trimmed)
      rcases Lines.mem_replace_runs kept with same | earlier
      · exact absurd same (by decide)
      · rcases Lines.replace_from_outside earlier with same | outside
        · exact absurd same (by decide)
        · exact absurd outside (by decide)

theorem bare_url_one_line {platform : Platform} (oneLine : platform.OneLine) {value : String}
    {url : Units} (kept : bareUrl platform.urls value = some url) : newline ∉ url := by
  rw [bareUrl, Option.bind_eq_bind, Option.bind_eq_some_iff] at kept
  obtain ⟨parsed, -, kept⟩ := kept
  split at kept
  · cases kept
  · cases kept
    exact fun member => oneLine.urls _ (List.mem_of_mem_take member)

theorem one_line_append {first second : String} (front : newline ∉ codeUnits first)
    (back : newline ∉ codeUnits second) : newline ∉ codeUnits (first ++ second) := by
  rw [newline_mem_code_units] at front back ⊢
  rw [String.toList_append, List.mem_append]
  exact not_or.2 ⟨front, back⟩

theorem decimal_one_line (number : Nat) : newline ∉ codeUnits (toString number) := by
  rw [newline_mem_code_units]
  intro member
  have digit := Nat.isDigit_of_mem_toDigits (by decide) (by decide)
    (show Char.ofNat newline ∈ Nat.toDigits 10 number by simpa using member)
  exact absurd digit (by decide)

theorem duration_one_line (seconds : Nat) : newline ∉ codeUnits (durationText seconds) := by
  rw [durationText]
  split
  · exact one_line_append (decimal_one_line _) (by decide)
  dsimp only
  split
  · exact one_line_append (one_line_append (one_line_append (decimal_one_line _) (by decide))
      (decimal_one_line _)) (by decide)
  · exact one_line_append (one_line_append (one_line_append (decimal_one_line _) (by decide))
      (decimal_one_line _)) (by decide)

structure ReadableRow (row : Units × Units) : Prop where
  keyLine : newline ∉ row.1
  keyColon : 0x3A ∉ row.1
  valueLine : newline ∉ row.2

theorem readable_row {key : String} (line : newline ∉ codeUnits key)
    (colon : 0x3A ∉ codeUnits key) {value : Units} (oneLine : newline ∉ value) :
    ReadableRow (codeUnits key, value) :=
  ⟨line, colon, oneLine⟩

section Readable

variable {platform : Platform} {payload : SafeNotificationPayload platform.numbers}

theorem date_one_line (oneLine : platform.OneLine) (value : DateInput) :
    newline ∉ formatDate platform.dates value := by
  rw [formatDate]
  split
  · decide
  · exact oneLine.dates _

theorem display_url_one_line (oneLine : platform.OneLine) (value : String) :
    newline ∉ sanitizeDisplayUrl platform.urls value := by
  rw [sanitizeDisplayUrl]
  cases kept : bareUrl platform.urls value with
  | none => decide
  | some url => exact bare_url_one_line oneLine kept

theorem name_one_line : newline ∉ renderedName platform payload := by
  rw [renderedName]
  split
  · decide
  · exact clean_text_one_line _ _

theorem text_row_readable {key : String} (line : newline ∉ codeUnits key)
    (colon : 0x3A ∉ codeUnits key) {value : Units} (oneLine : newline ∉ value) :
    ∀ row ∈ textRow key value, ReadableRow row := by
  intro row member
  rw [textRow] at member
  split at member
  · cases member
  · rw [List.mem_singleton.1 member]
    exact readable_row line colon oneLine

theorem network_rows_readable (oneLine : platform.OneLine) :
    ∀ row ∈ networkRows platform payload, ReadableRow row := by
  intro row member
  rw [networkRows] at member
  split at member
  · cases member
  split at member
  · rw [List.mem_singleton.1 member]
    exact readable_row (by decide) (by decide) (date_one_line oneLine _)
  · cases member

theorem status_rows_readable (oneLine : platform.OneLine) :
    ∀ row ∈ statusRows platform payload, ReadableRow row := by
  intro row member
  rw [statusRows] at member
  split at member
  · cases member
  · rw [List.mem_singleton.1 member]
    exact readable_row (by decide) (by decide) (oneLine.numbers _)

theorem ttfb_rows_readable : ∀ row ∈ ttfbRows platform payload, ReadableRow row := by
  intro row member
  rw [ttfbRows] at member
  split at member
  · cases member
  split at member
  · rw [List.mem_singleton.1 member]
    exact readable_row (by decide) (by decide)
      (one_line_append (decimal_one_line _) (by decide))
  · cases member

theorem duration_rows_readable : ∀ row ∈ durationRows platform payload, ReadableRow row := by
  intro row member
  rw [durationRows] at member
  split at member
  case h_1 => cases member
  case h_2 duration formatted =>
    rw [List.mem_singleton.1 member]
    rw [formatDuration, Option.bind_eq_bind, Option.bind_eq_some_iff] at formatted
    obtain ⟨measured, -, formatted⟩ := formatted
    split at formatted
    · cases formatted
    · cases formatted
      split
      · exact readable_row (by decide) (by decide) (duration_one_line _)
      · exact readable_row (by decide) (by decide) (duration_one_line _)

theorem message_rows_readable (oneLine : platform.OneLine) :
    ∀ row ∈ messageRows platform payload, ReadableRow row := by
  intro row member
  simp only [messageRows, List.mem_append, List.mem_cons, List.not_mem_nil, or_false] at member
  rcases member with
    ((((((same | same | same) | network) | type) | description) | status) | ttfb) | duration
  · rw [same]
    split
    · exact readable_row (by decide) (by decide) name_one_line
    · exact readable_row (by decide) (by decide) name_one_line
  · rw [same]
    exact readable_row (by decide) (by decide) (display_url_one_line oneLine _)
  · rw [same]
    exact readable_row (by decide) (by decide) (date_one_line oneLine _)
  · exact network_rows_readable oneLine row network
  · exact text_row_readable (by decide) (by decide) (clean_text_one_line _ _) row type
  · exact text_row_readable (by decide) (by decide) (clean_text_one_line _ _) row description
  · exact status_rows_readable oneLine row status
  · exact ttfb_rows_readable row ttfb
  · exact duration_rows_readable row duration

end Readable

structure NotificationText where
  label : Units
  rows : List (Units × Units)
  dashboard : Option (Units × Units)
deriving DecidableEq, Repr

def readRow (line : Units) : Option (Units × Units) :=
  let value := line.dropWhile fun unit => unit ≠ 0x3A
  if (codeUnits ": ").isPrefixOf value then
    some (line.takeWhile fun unit => unit ≠ 0x3A, value.drop 2)
  else none

/-- A text is read line by line: the label, an empty line, the rows up to the next empty line,
and one more row behind that. -/
def readNotification (text : Units) : Option NotificationText :=
  match text.splitOn newline with
  | first :: [] :: lines =>
      if (codeUnits "LinkAlive ").isPrefixOf first then do
        let rows ← (lines.takeWhile fun line => line ≠ []).mapM readRow
        match lines.dropWhile fun line => line ≠ [] with
        | [] => some ⟨first.drop 10, rows, none⟩
        | [[], last] => (readRow last).map fun row => ⟨first.drop 10, rows, some row⟩
        | _ => none
      else none
  | _ => none

def messageContents (platform : Platform) (payload : SafeNotificationPayload platform.numbers) :
    NotificationText where
  label := codeUnits (eventLabel payload.eventType)
  rows := messageRows platform payload
  dashboard := dashboardRow platform payload

theorem read_row_line {row : Units × Units} (readable : ReadableRow row) :
    readRow (rowLine row) = some row := by
  have before : ∀ unit ∈ row.1, decide (unit ≠ 0x3A) = true := by
    intro unit member
    refine decide_eq_true ?_
    rintro rfl
    exact readable.keyColon member
  have line : rowLine row = row.1 ++ 0x3A :: space :: row.2 := by
    rw [rowLine, List.append_assoc]
    rfl
  rw [readRow, line]
  rw [List.dropWhile_append_of_pos before, List.takeWhile_append_of_pos before]
  rw [List.dropWhile_cons_of_neg (by simp), List.takeWhile_cons_of_neg (by simp), List.append_nil]
  rfl

theorem row_line_ne_nil (row : Units × Units) : rowLine row ≠ [] := by
  rw [rowLine, List.append_assoc]
  exact List.append_ne_nil_of_right_ne_nil _ (List.append_ne_nil_of_left_ne_nil (by decide) _)

theorem read_rows {rows : List (Units × Units)} (readable : ∀ row ∈ rows, ReadableRow row) :
    (rows.map rowLine).mapM readRow = some rows := by
  induction rows with
  | nil => rfl
  | cons row rows induction =>
      rw [List.map_cons, List.mapM_cons, read_row_line (readable row List.mem_cons_self),
        induction fun other member => readable other (List.mem_cons_of_mem _ member)]
      rfl

section Reading

variable {platform : Platform} {payload : SafeNotificationPayload platform.numbers}

theorem dashboard_row_readable (oneLine : platform.OneLine) {row : Units × Units}
    (found : dashboardRow platform payload = some row) : ReadableRow row := by
  rw [dashboardRow] at found
  split at found
  case h_1 => cases found
  case h_2 url safe =>
    split at found
    · cases found
    · cases found
      rw [safeDashboardUrl, Option.bind_eq_some_iff] at safe
      obtain ⟨value, -, kept⟩ := safe
      exact readable_row (by decide) (by decide) (bare_url_one_line oneLine kept)

theorem row_line_one_line {row : Units × Units} (readable : ReadableRow row) :
    newline ∉ rowLine row := by
  rw [rowLine, List.mem_append, List.mem_append]
  rintro ((key | colon) | value)
  · exact readable.keyLine key
  · exact absurd colon (by decide)
  · exact readable.valueLine value

theorem header_one_line : newline ∉ headerLine platform payload := by
  rw [headerLine, List.mem_append]
  rintro (title | label)
  · exact absurd title (by decide)
  · cases event : payload.eventType <;> rw [event] at label <;> exact absurd label (by decide)

theorem text_lines_free (oneLine : platform.OneLine) :
    ∀ line ∈ textLines platform payload, newline ∉ line := by
  intro line member
  rw [textLines, List.mem_cons, List.mem_cons, List.mem_append, List.mem_map] at member
  rcases member with rfl | rfl | ⟨row, among, rfl⟩ | last
  · exact header_one_line
  · exact List.not_mem_nil
  · exact row_line_one_line (message_rows_readable oneLine row among)
  · rw [dashboardLines] at last
    split at last
    case h_1 => cases last
    case h_2 row found =>
      simp only [List.mem_cons, List.not_mem_nil, or_false] at last
      rcases last with rfl | rfl
      · exact List.not_mem_nil
      · exact row_line_one_line (dashboard_row_readable oneLine found)

theorem read_message_text (oneLine : platform.OneLine) :
    readNotification (messageText platform payload) = some (messageContents platform payload) := by
  have split : (messageText platform payload).splitOn newline = textLines platform payload :=
    List.splitOn_intercalate newline (text_lines_free oneLine) (List.cons_ne_nil _ _)
  have filled : ∀ line ∈ (messageRows platform payload).map rowLine,
      decide (line ≠ []) = true := by
    intro line member
    obtain ⟨row, -, rfl⟩ := List.mem_map.1 member
    exact decide_eq_true (row_line_ne_nil row)
  have title : (codeUnits "LinkAlive ").isPrefixOf (headerLine platform payload) = true :=
    List.isPrefixOf_iff_prefix.2 (List.prefix_append _ _)
  have label : (headerLine platform payload).drop 10 = codeUnits (eventLabel payload.eventType) :=
    List.drop_left' (by decide)
  rw [readNotification, split, textLines]
  dsimp only
  rw [if_pos title, List.takeWhile_append_of_pos filled, List.dropWhile_append_of_pos filled,
    dashboardLines, messageContents, label]
  cases found : dashboardRow platform payload with
  | none =>
      dsimp only
      rw [List.takeWhile_nil, List.append_nil, read_rows (message_rows_readable oneLine)]
      rfl
  | some row =>
      have last := read_row_line (dashboard_row_readable oneLine found)
      dsimp only
      rw [List.takeWhile_cons_of_neg (by simp), List.append_nil,
        List.dropWhile_cons_of_neg (by simp), read_rows (message_rows_readable oneLine)]
      change Option.map _ (readRow (rowLine row)) = _
      rw [last]
      rfl

end Reading

/-- What a reader finds in the text that is sent for a payload. -/
structure ReadsBack (platform : Platform) (payload : SafeNotificationPayload platform.numbers)
    (text : Units) : Prop where
  bounded : text.length ≤ maxTelegramLength
  /-- A text that fits is read back. -/
  whole : (messageText platform payload).length ≤ maxTelegramLength →
    readNotification text = some (messageContents platform payload)
  /-- One that is cut shows its first lines, the one of the monitor among them, the beginning
  of the next line and the notice. -/
  cut : maxTelegramLength < (messageText platform payload).length →
    ∃ shown last next, 3 ≤ shown ∧
      text.splitOn newline =
        (textLines platform payload).take shown ++ [last, truncationNotice] ∧
        (textLines platform payload)[shown]? = some next ∧ last <+: next

section Sent

variable {platform : Platform} {payload : SafeNotificationPayload platform.numbers}

theorem clean_text_length (value : Option String) (maxLength : Nat) :
    (cleanText value maxLength).length ≤ maxLength := by
  cases value with
  | none => exact Nat.zero_le _
  | some value => exact List.length_take_le _ _

theorem header_length : (headerLine platform payload).length ≤ 40 := by
  rw [headerLine, List.length_append]
  cases payload.eventType <;> decide

theorem name_length : (renderedName platform payload).length ≤ maxNameLength := by
  rw [renderedName]
  split
  · decide
  · exact clean_text_length _ _

theorem name_line :
    ∃ line, (textLines platform payload)[2]? = some line ∧ line.length ≤ 200 := by
  refine ⟨_, rfl, ?_⟩
  have name : (renderedName platform payload).length ≤ maxNameLength := name_length
  rw [maxNameLength] at name
  split
  · rw [rowLine, List.length_append, List.length_append]
    have key : (codeUnits "감시 PC").length = 5 := by decide
    have colon : (codeUnits ": ").length = 2 := by decide
    dsimp only
    omega
  · rw [rowLine, List.length_append, List.length_append]
    have key : (codeUnits "모니터").length = 3 := by decide
    have colon : (codeUnits ": ").length = 2 := by decide
    dsimp only
    omega

/-- The part that is left of a long text goes beyond the line of the monitor. -/
theorem cut_shows_name {shown : Nat} {last next : Units}
    (long : maxTelegramLength < (messageText platform payload).length)
    (split : ((messageText platform payload).take 2096).splitOn newline =
      (textLines platform payload).take shown ++ [last])
    (found : (textLines platform payload)[shown]? = some next) (start : last <+: next) :
    3 ≤ shown := by
  have size : ((messageText platform payload).take 2096).length = 2096 := by
    rw [List.length_take]
    rw [maxTelegramLength] at long
    omega
  have joined : [newline].intercalate
      (((messageText platform payload).take 2096).splitOn newline) =
        (messageText platform payload).take 2096 := List.intercalate_splitOn newline
  rw [← joined, split] at size
  have header : (headerLine platform payload).length ≤ 40 := header_length
  by_contra few
  match shown, few with
  | 0, _ =>
      cases found
      have short := start.length_le
      rw [List.take_zero, List.nil_append, List.intercalate_singleton] at size
      omega
  | 1, _ =>
      cases found
      have short := start.length_le
      change ([newline].intercalate [headerLine platform payload, last]).length = _ at size
      rw [List.intercalate_cons_cons, List.intercalate_singleton, List.length_append,
        List.length_append, List.length_singleton] at size
      rw [List.length_nil] at short
      omega
  | 2, _ =>
      obtain ⟨line, third, bound⟩ : ∃ line, (textLines platform payload)[2]? = some line ∧
          line.length ≤ 200 := name_line
      rw [third, Option.some.injEq] at found
      have short := start.length_le
      rw [← found] at short
      change ([newline].intercalate [headerLine platform payload, [], last]).length = _ at size
      rw [List.intercalate_cons_cons, List.intercalate_cons_cons, List.intercalate_singleton] at size
      simp only [List.length_append, List.length_singleton, List.length_nil] at size
      omega
  | shown + 3, few => exact few (Nat.le_add_left _ _)

end Sent

/-- Every notification is sent as a text of allowed length that is read back line by line. -/
theorem notification_reads_back (platform : Platform) (oneLine : platform.OneLine)
    (payload : SafeNotificationPayload platform.numbers) :
    ReadsBack platform payload (renderNotification platform payload) := by
  constructor
  · rw [renderNotification, truncateTelegram]
    split
    case isTrue fits => exact fits
    case isFalse =>
      have notice : (newline :: truncationNotice).length ≤ 2000 := by decide
      have taken := List.length_take_le (maxTelegramLength - 2000) (messageText platform payload)
      rw [List.length_append]
      rw [maxTelegramLength] at taken ⊢
      omega
  · intro fits
    rw [renderNotification, truncateTelegram, if_pos fits]
    exact read_message_text oneLine
  · intro long
    have lines : textLines platform payload ≠ [] := List.cons_ne_nil _ _
    obtain ⟨shown, last, next, split, found, start⟩ :=
      Lines.split_take newline lines (text_lines_free oneLine) 2096
    refine ⟨shown, last, next, cut_shows_name long split found start, ?_, found, start⟩
    have notice : newline ∉ truncationNotice := by decide
    rw [renderNotification, truncateTelegram, if_neg (Nat.not_le.2 long),
      List.splitOn_append_cons_self, List.splitOn_eq_singleton notice]
    change ((messageText platform payload).take 2096).splitOn newline ++ _ = _
    rw [messageText, split, List.append_assoc]
    rfl

def healthUrl : String := "https://example.com/health"
def healthUrlWithKey : String := "https://example.com/health?apiKey=secret"

def healthUrls : UrlLibrary where
  Url := Bool
  parse text :=
    if text = healthUrl then some false else if text = healthUrlWithKey then some true else none
  serialize query := if query then healthUrlWithKey else healthUrl
  protocol _ := "https:"
  hostname _ := "example.com"
  search query := if query then "?apiKey=secret" else ""
  withoutHash url := url
  withoutCredentials url := url
  withSearch _ search := search = "?apiKey=secret"
  isIP _ := false
  parse_serialize := by decide
  without_hash_twice _ := rfl
  protocol_without_hash _ := rfl
  hostname_without_hash _ := rfl
  trim_serialize := by decide +kernel

def samplePlatform : Platform where
  numbers := wholeNumbers
  dates := {
    read text := if text = "2026-09-09T04:20:09.760Z" then some 1788927609760 else none
    toISOString _ := "2026-09-09T04:20:09.760Z"
    formatToParts _ := ⟨"2026", "09", "09", "13", "20", "09"⟩ }
  urls := healthUrls

theorem sample_platform_one_line : samplePlatform.OneLine where
  numbers := decimal_one_line
  dates _ := by
    change newline ∉ codeUnits (DateParts.mk "2026" "09" "09" "13" "20" "09").text
    decide
  urls := by
    change ∀ query : Bool, newline ∉ codeUnits (healthUrls.serialize query)
    decide

/-- A monitor whose name imitates another row. -/
def forgingPayload : SafeNotificationPayload samplePlatform.numbers where
  eventType := .down
  monitorName := "shop\n설명: 복구 완료"
  displayUrl := healthUrlWithKey
  occurredAt := .text "2026-09-09T04:20:09.760Z"
  errorType := some "TIMEOUT"
  errorMessageSafe := none
  statusCode := some (503 : Nat)
  ttfbMs := none
  durationMs := none
  dashboardUrl := none
  networkStartedAt := none

/-- The name stays one row, and the query is not shown. -/
theorem notification_reads_back_sample :
    readNotification (renderNotification samplePlatform forgingPayload) =
      some {
        label := codeUnits "장애 발생"
        rows := [
          (codeUnits "모니터", codeUnits "shop 설명: 복구 완료"),
          (codeUnits "대상", codeUnits "https://example.com/health"),
          (codeUnits "시각", codeUnits "2026-09-09 13:20:09 (KST)"),
          (codeUnits "오류 유형", codeUnits "TIMEOUT"),
          (codeUnits "HTTP 상태", codeUnits "503")]
        dashboard := none } := by
  have reads := notification_reads_back samplePlatform sample_platform_one_line forgingPayload
  rw [reads.whole (by decide +kernel)]
  decide +kernel

end LinkAlive.Delivery
