import LinkAlive.Api.Monitors
import LinkAlive.Monitoring.UrlPolicy

/-!
# What an update compares

`MonitorsService.update` from the request to its decision whether a monitoring field has
changed: the texts are trimmed and checked by `monitorInputSchema`, the URL is parsed and
stored in its normal form, and the merged fields are compared with the stored ones.
-/

namespace LinkAlive

open Relational

set_option autoImplicit false

def maxStoredUrlLength : Nat := 2048

namespace UrlLibrary

variable (library : UrlLibrary)

def toDisplayUrl (rawUrl : String) : Option String := do
  let url ← library.parse rawUrl
  let anonymous := library.withoutCredentials url
  let search := if 0 < textLength (library.search anonymous) then "?masked" else ""
  some (library.serialize (library.withoutHash (library.withSearch anonymous search)))

/-- `storedTarget`; `none` is its rejection of a long URL. -/
def storedTarget (parsedUrl : library.Url) : Option StoredTarget := do
  let requestUrl := library.serialize parsedUrl
  let displayUrl ← library.toDisplayUrl requestUrl
  if maxStoredUrlLength < textLength requestUrl || maxStoredUrlLength < textLength displayUrl then
    none
  else some ⟨requestUrl, displayUrl⟩

def target (text : String) : Option StoredTarget := do
  let parsedUrl ← library.parseMonitorUrl text
  library.storedTarget parsedUrl

variable {library}

/-- Parsing the stored form of a URL gives the same target again. -/
theorem target_request_url {text : String} {target : StoredTarget}
    (found : library.target text = some target) : library.target target.requestUrl = some target := by
  simp only [UrlLibrary.target, Option.bind_eq_bind, Option.bind_eq_some_iff] at found ⊢
  obtain ⟨url, parsed, stored⟩ := found
  have shape := stored
  simp only [storedTarget, Option.bind_eq_bind, Option.bind_eq_some_iff] at shape
  obtain ⟨displayUrl, -, shape⟩ := shape
  split at shape
  · cases shape
  · cases shape
    exact ⟨url, parse_monitor_url_serialize parsed, stored⟩

theorem trim_request_url {text : String} {target : StoredTarget}
    (found : library.target text = some target) :
    trimText target.requestUrl = target.requestUrl := by
  simp only [UrlLibrary.target, parseMonitorUrl, storedTarget, Option.bind_eq_bind,
    Option.bind_eq_some_iff] at found
  obtain ⟨url, ⟨raw, -, parsed⟩, displayUrl, -, stored⟩ := found
  split at parsed
  · cases parsed
  rename_i protocol
  split at parsed
  · cases parsed
  split at parsed
  · cases parsed
  cases parsed
  split at stored
  · cases stored
  · cases stored
    apply library.trim_serialize
    rw [library.protocol_without_hash]
    exact Decidable.not_not.1 protocol

end UrlLibrary

/-- `merged.expectedKeyword || null` -/
def keywordColumn (keyword : String) : Option String := if keyword = "" then none else some keyword

/-- `expectedKeyword ?? ''` -/
def keywordText (column : Option String) : String := column.getD ""

/-- A keyword text stands for its column: what is read back is what was written. -/
@[simp] theorem keyword_text_column (keyword : String) :
    keywordText (keywordColumn keyword) = keyword := by
  unfold keywordText keywordColumn
  split
  · rename_i empty
    exact empty.symm
  · rfl

/-- The input of `monitorInputSchema`, with every member given. -/
structure MonitorDraft where
  name : String
  url : String
  config : MonitorConfig
  channelIds : List ChannelId

def MonitorDraft.trimmed (draft : MonitorDraft) : MonitorDraft where
  name := trimText draft.name
  url := trimText draft.url
  config := { draft.config with expectedKeyword := trimText draft.config.expectedKeyword }
  channelIds := draft.channelIds

def minMonitorIntervalSeconds : Nat := 5

def maxMonitorIntervalSeconds : Nat := 86400

/-- The bounds of the fields and `validateMonitorCombination`. Ids are UUIDs by their type. -/
def MonitorDraft.valid (draft : MonitorDraft) : Bool :=
  let config := draft.config
  let between (low high value : Nat) : Bool := low ≤ value && value ≤ high
  between 1 160 (textLength draft.name) && between 1 2048 (textLength draft.url) &&
    between minMonitorIntervalSeconds maxMonitorIntervalSeconds config.intervalSec &&
    between 1000 30000 config.timeoutMs &&
    between 100 599 config.expectedStatusMin && between 100 599 config.expectedStatusMax &&
    textLength config.expectedKeyword ≤ 512 && config.maxRedirects ≤ 5 &&
    between 1 10 config.failureThreshold && between 1 10 config.recoveryThreshold &&
    draft.channelIds.length ≤ 20 && config.expectedStatusMin ≤ config.expectedStatusMax &&
    !(config.method = .head && config.expectedKeyword ≠ "")

/-- `parseInput(monitorInputSchema, draft)`; `none` is a validation error. -/
def parseMonitorInput (draft : MonitorDraft) : Option MonitorDraft :=
  if draft.trimmed.valid then some draft.trimmed else none

/-- `decryptedUrl`; a retired URL does not decrypt. -/
def MonitorRow.currentUrl (row : MonitorRow) : Option String :=
  match row.requestUrlEncrypted with
  | .envelope url => some url
  | .tombstone => none

/-- The URL of a request, unless it is missing, empty or the displayed one. -/
def requestedUrl (currentUrl : String) (current : MonitorRow) (patch : MonitorPatch) : String :=
  match patch.url with
  | some (text, _) => if text ≠ "" ∧ text ≠ current.displayUrl then text else currentUrl
  | none => currentUrl

def mergeDraft (currentUrl : String) (current : MonitorRow) (channelIds : List ChannelId)
    (patch : MonitorPatch) : MonitorDraft where
  name := patch.name.getD current.name
  url := requestedUrl currentUrl current patch
  config := mergeConfig current.config patch
  channelIds := patch.channelIds.getD channelIds

/-- `MonitorsService.update` up to the comparison of the monitoring fields: the merged
input and whether one of them has changed; `none` where the request is rejected. -/
def updateMonitor (library : UrlLibrary) (current : MonitorRow) (channelIds : List ChannelId)
    (patch : MonitorPatch) : Option (MonitorInput × Bool) := do
  let currentUrl ← current.currentUrl
  let merged ← parseMonitorInput (mergeDraft currentUrl current channelIds patch)
  let target ← library.target merged.url
  let monitoringChanged :=
    target.requestUrl ≠ currentUrl || merged.config ≠ current.config
  some (⟨merged.name, target, merged.config, merged.channelIds⟩, monitoringChanged)

/-- The members of `toMonitorView` that a client may send back. -/
structure MonitorView where
  name : String
  url : String
  method : HttpMethod
  intervalSec : Nat
  timeoutMs : Nat
  expectedStatusMin : Nat
  expectedStatusMax : Nat
  expectedKeyword : Option String
  followRedirects : Bool
  maxRedirects : Nat
  failureThreshold : Nat
  recoveryThreshold : Nat
  channelIds : List ChannelId
deriving DecidableEq, Repr

def toMonitorView (monitor : MonitorRow) (channelIds : List ChannelId) : MonitorView where
  name := monitor.name
  url := monitor.displayUrl
  method := monitor.config.method
  intervalSec := monitor.config.intervalSec
  timeoutMs := monitor.config.timeoutMs
  expectedStatusMin := monitor.config.expectedStatusMin
  expectedStatusMax := monitor.config.expectedStatusMax
  expectedKeyword := keywordColumn monitor.config.expectedKeyword
  followRedirects := monitor.config.followRedirects
  maxRedirects := monitor.config.maxRedirects
  failureThreshold := monitor.config.failureThreshold
  recoveryThreshold := monitor.config.recoveryThreshold
  channelIds := channelIds

/-- Every monitoring field that the request sends is the one that the view shows; the
request cannot carry `null`, so that a missing keyword is sent as an empty one. -/
structure MonitorPatch.Echoes (patch : MonitorPatch) (view : MonitorView) : Prop where
  url : ∀ text target, patch.url = some (text, target) → text = view.url
  method : ∀ value, patch.method = some value → value = view.method
  intervalSec : ∀ value, patch.intervalSec = some value → value = view.intervalSec
  timeoutMs : ∀ value, patch.timeoutMs = some value → value = view.timeoutMs
  expectedStatusMin : ∀ value, patch.expectedStatusMin = some value →
    value = view.expectedStatusMin
  expectedStatusMax : ∀ value, patch.expectedStatusMax = some value →
    value = view.expectedStatusMax
  expectedKeyword : ∀ value, patch.expectedKeyword = some value →
    value = keywordText view.expectedKeyword
  followRedirects : ∀ value, patch.followRedirects = some value → value = view.followRedirects
  maxRedirects : ∀ value, patch.maxRedirects = some value → value = view.maxRedirects
  failureThreshold : ∀ value, patch.failureThreshold = some value → value = view.failureThreshold
  recoveryThreshold : ∀ value, patch.recoveryThreshold = some value →
    value = view.recoveryThreshold

/-- A row as the service has written it: its texts are trimmed and its URL is a stored
target. -/
structure MonitorRow.Normal (library : UrlLibrary) (row : MonitorRow) : Prop where
  name : trimText row.name = row.name
  keyword : trimText row.config.expectedKeyword = row.config.expectedKeyword
  target : ∀ url, row.requestUrlEncrypted = .envelope url →
    library.target url = some ⟨url, row.displayUrl⟩

/-- An input that `parseInput`, `validateTarget` and `storedTarget` have returned. -/
structure MonitorInput.Normal (library : UrlLibrary) (input : MonitorInput) : Prop where
  name : trimText input.name = input.name
  keyword : trimText input.config.expectedKeyword = input.config.expectedKeyword
  target : library.target input.target.requestUrl = some input.target

/-- A request that `monitorPatchSchema` has returned, its URL with the target it stands
for. -/
structure MonitorPatch.Normal (library : UrlLibrary) (patch : MonitorPatch) : Prop where
  name : ∀ name, patch.name = some name → trimText name = name
  keyword : ∀ keyword, patch.expectedKeyword = some keyword → trimText keyword = keyword
  url : ∀ text target, patch.url = some (text, target) →
    text ≠ "" ∧ trimText text = text ∧ library.target text = some target

section Merge

variable {library : UrlLibrary} {row : MonitorRow} {patch : MonitorPatch} {currentUrl : String}
  {channelIds : List ChannelId}

/-- The requested URL is trimmed and stands for the merged target: the displayed URL is
replaced by the stored one, whose target is the stored one again. -/
theorem requested_url_target (normal : row.Normal library) (accepted : patch.Normal library)
    (stored : row.requestUrlEncrypted = .envelope currentUrl) :
    trimText (requestedUrl currentUrl row patch) = requestedUrl currentUrl row patch ∧
      library.target (requestedUrl currentUrl row patch) =
        some (mergeTarget currentUrl row patch) := by
  have kept := normal.target currentUrl stored
  have trimmed := UrlLibrary.trim_request_url kept
  dsimp only at trimmed
  unfold requestedUrl mergeTarget
  cases sent : patch.url with
  | none => exact ⟨trimmed, kept⟩
  | some pair =>
      obtain ⟨text, target⟩ := pair
      obtain ⟨present, clean, found⟩ := accepted.url text target sent
      by_cases shown : text = row.displayUrl
      · simp only [shown, ne_eq, not_true_eq_false, and_false, if_false]
        exact ⟨trimmed, kept⟩
      · simp only [ne_eq, present, shown, not_false_eq_true, and_self, if_true]
        exact ⟨clean, found⟩

theorem merge_draft_trimmed (normal : row.Normal library) (accepted : patch.Normal library)
    (stored : row.requestUrlEncrypted = .envelope currentUrl) :
    (mergeDraft currentUrl row channelIds patch).trimmed =
      mergeDraft currentUrl row channelIds patch := by
  have clean : ∀ (sent : Option String) (current : String), trimText current = current →
      (∀ value, sent = some value → trimText value = value) →
        trimText (sent.getD current) = sent.getD current := by
    intro sent current kept new
    cases sent with
    | none => exact kept
    | some value => exact new value rfl
  have name := clean patch.name row.name normal.name accepted.name
  have keyword := clean patch.expectedKeyword row.config.expectedKeyword normal.keyword
    accepted.keyword
  have url := (requested_url_target normal accepted stored).1
  simp only [MonitorDraft.trimmed, mergeDraft, mergeConfig, name, keyword, url]

/-- An update that is accepted merges what `mergePatch` merges and compares it with the
stored fields. -/
theorem update_monitor_cases (normal : row.Normal library) (accepted : patch.Normal library)
    {merged : MonitorInput} {changed : Bool}
    (updated : updateMonitor library row channelIds patch = some (merged, changed)) :
    ∃ url, row.requestUrlEncrypted = .envelope url ∧
      merged = mergePatch url row channelIds patch ∧
      changed = (merged.target.requestUrl ≠ url || merged.config ≠ row.config) := by
  simp only [updateMonitor, parseMonitorInput, Option.bind_eq_bind, Option.bind_eq_some_iff,
    Option.ite_none_right_eq_some, Option.some.injEq, Prod.mk.injEq] at updated
  obtain ⟨url, current, draft, ⟨-, rfl⟩, target, found, rfl, rfl⟩ := updated
  have stored : row.requestUrlEncrypted = .envelope url := by
    unfold MonitorRow.currentUrl at current
    split at current
    · rename_i other same
      cases current
      exact same
    · cases current
  rw [merge_draft_trimmed normal accepted stored] at found ⊢
  have merged := (requested_url_target normal accepted stored).2
  have same : target = mergeTarget url row patch := by
    change library.target (requestedUrl url row patch) = some target at found
    rw [merged, Option.some.injEq] at found
    exact found.symm
  subst same
  exact ⟨url, stored, rfl, rfl⟩

theorem merge_config_echo (echoes : patch.Echoes (toMonitorView row channelIds)) :
    mergeConfig row.config patch = row.config := by
  have kept : ∀ {Value : Type} (sent : Option Value) (shown : Value),
      (∀ value, sent = some value → value = shown) → sent.getD shown = shown := by
    intro Value sent shown same
    cases sent with
    | none => rfl
    | some value => exact same value rfl
  have keyword : ∀ value, patch.expectedKeyword = some value →
      value = row.config.expectedKeyword := by
    intro value sent
    rw [echoes.expectedKeyword value sent]
    exact keyword_text_column _
  have method := kept patch.method row.config.method echoes.method
  have intervalSec := kept patch.intervalSec row.config.intervalSec echoes.intervalSec
  have timeoutMs := kept patch.timeoutMs row.config.timeoutMs echoes.timeoutMs
  have statusMin := kept patch.expectedStatusMin row.config.expectedStatusMin
    echoes.expectedStatusMin
  have statusMax := kept patch.expectedStatusMax row.config.expectedStatusMax
    echoes.expectedStatusMax
  have followRedirects := kept patch.followRedirects row.config.followRedirects
    echoes.followRedirects
  have maxRedirects := kept patch.maxRedirects row.config.maxRedirects echoes.maxRedirects
  have failureThreshold := kept patch.failureThreshold row.config.failureThreshold
    echoes.failureThreshold
  have recoveryThreshold := kept patch.recoveryThreshold row.config.recoveryThreshold
    echoes.recoveryThreshold
  simp only [mergeConfig, method, intervalSec, timeoutMs, statusMin, statusMax,
    kept _ _ keyword, followRedirects, maxRedirects, failureThreshold, recoveryThreshold]

/-- Sending back what the view shows keeps the stored URL, whatever the view masks. -/
theorem merge_target_echo (echoes : patch.Echoes (toMonitorView row channelIds)) :
    mergeTarget currentUrl row patch = ⟨currentUrl, row.displayUrl⟩ := by
  unfold mergeTarget
  cases sent : patch.url with
  | none => rfl
  | some pair =>
      have shown : pair.1 = row.displayUrl := echoes.url pair.1 pair.2 sent
      simp [shown]

theorem merge_patch_normal (normal : row.Normal library) (accepted : patch.Normal library)
    (stored : row.requestUrlEncrypted = .envelope currentUrl) :
    (mergePatch currentUrl row channelIds patch).Normal library := by
  have clean : (mergeDraft currentUrl row channelIds patch).trimmed =
      mergeDraft currentUrl row channelIds patch := merge_draft_trimmed normal accepted stored
  have merged := (requested_url_target normal accepted stored).2
  exact ⟨congrArg MonitorDraft.name clean,
    congrArg (fun draft : MonitorDraft => draft.config.expectedKeyword) clean,
    UrlLibrary.target_request_url merged⟩

end Merge

end LinkAlive
