import LinkAlive.Foundation.Texts
import LinkAlive.Monitoring.Errors
import LinkAlive.Monitoring.Types

/-!
# URLs that may be checked

`parseMonitorUrl` and `displayUrl` of `packages/monitoring/src/url-policy.ts`. The `URL` class
of the platform and `isIP` are a parameter.
-/

namespace LinkAlive

set_option autoImplicit false

/-- The platform's `URL` objects and `isIP`, with the laws of the URL standard that the
service relies on: a serialized URL parses to itself, and clearing the fragment changes
neither the protocol nor the host and happens once. An HTTP URL is serialized without
blanks. -/
structure UrlLibrary where
  Url : Type
  parse : String → Option Url
  serialize : Url → String
  protocol : Url → String
  hostname : Url → String
  search : Url → String
  withoutHash : Url → Url
  withoutCredentials : Url → Url
  withSearch : Url → String → Url
  isIP : String → Bool
  parse_serialize : ∀ url, parse (serialize url) = some url
  without_hash_twice : ∀ url, withoutHash (withoutHash url) = withoutHash url
  protocol_without_hash : ∀ url, protocol (withoutHash url) = protocol url
  hostname_without_hash : ∀ url, hostname (withoutHash url) = hostname url
  trim_serialize : ∀ url, protocol url ∈ ["http:", "https:"] →
    trimText (serialize url) = serialize url

/-- The host name without the brackets of an address and without one final dot. -/
def normalizedHostname (hostname : String) : String :=
  let chars := hostname.toList
  let opened := if chars.head? = some '[' then chars.drop 1 else chars
  let bare := if opened.getLast? = some ']' then opened.dropLast else opened
  let rooted := if bare.getLast? = some '.' then bare.dropLast else bare
  String.ofList (rooted.map Char.toLower)

/-- The labels of a host name that is no address have an allowed length. -/
def hostnameAllowed (hostname : String) : Bool :=
  textLength hostname ≤ 253 &&
    (hostname.toList.splitOnP fun char => char = '.').all fun label =>
      0 < label.length && label.length ≤ 63

namespace UrlLibrary

variable (library : UrlLibrary)

/-- `parseMonitorUrl`; `none` is its `UrlPolicyError`. -/
def parseMonitorUrl (input : String) : Option library.Url := do
  let url ← library.parse input
  let hostname := normalizedHostname (library.hostname url)
  if library.protocol url ∉ ["http:", "https:"] then none
  else if library.hostname url = "" then none
  else if !library.isIP hostname && !hostnameAllowed hostname then none
  else some (library.withoutHash url)

variable {library}

theorem parse_monitor_url_serialize {input : String} {url : library.Url}
    (parsed : library.parseMonitorUrl input = some url) :
    library.parseMonitorUrl (library.serialize url) = some url := by
  simp only [parseMonitorUrl, Option.bind_eq_bind, Option.bind_eq_some_iff] at parsed ⊢
  obtain ⟨raw, -, parsed⟩ := parsed
  split at parsed
  · cases parsed
  rename_i protocol
  split at parsed
  · cases parsed
  rename_i hostname
  split at parsed
  · cases parsed
  rename_i labels
  cases parsed
  refine ⟨library.withoutHash raw, library.parse_serialize _, ?_⟩
  rw [library.protocol_without_hash, library.hostname_without_hash, library.without_hash_twice,
    if_neg protocol, if_neg hostname, if_neg labels]

end UrlLibrary

namespace Monitoring

/-- `parseMonitorUrl` with the failures that it throws. -/
def parseMonitorUrl (library : UrlLibrary) (input : String) : Except CheckFailure library.Url :=
  match library.parse input with
  | none => .error (.urlPolicyError "올바른 HTTP 또는 HTTPS URL이 아닙니다.")
  | some url =>
      let hostname := normalizedHostname (library.hostname url)
      if library.protocol url ∉ ["http:", "https:"] then
        .error (.urlPolicyError "HTTP와 HTTPS URL만 검사할 수 있습니다.")
      else if library.hostname url = "" then
        .error (.urlPolicyError "URL에 호스트 이름이 필요합니다.")
      else if !library.isIP hostname && !hostnameAllowed hostname then
        .error (.urlPolicyError "도메인 이름의 길이가 올바르지 않습니다.")
      else .ok (library.withoutHash url)

/-- Without its messages it is the `parseMonitorUrl` of the services. -/
theorem parse_monitor_url_to_option (library : UrlLibrary) (input : String) :
    (parseMonitorUrl library input).toOption = library.parseMonitorUrl input := by
  unfold parseMonitorUrl UrlLibrary.parseMonitorUrl
  cases library.parse input with
  | none => rfl
  | some url =>
      simp only [Option.bind_eq_bind, Option.bind_some]
      repeat' split
      all_goals rfl

def displayUrl (library : UrlLibrary) (input : String) : String :=
  match library.parse input with
  | some url =>
      library.serialize (library.withoutHash (library.withSearch (library.withoutCredentials url) ""))
  | none => "(invalid URL)"

/-- `url.hostname` without the brackets of an address. -/
def bareHostname (hostname : String) : String :=
  let chars := hostname.toList
  let opened := if chars.head? = some '[' then chars.drop 1 else chars
  String.ofList (if opened.getLast? = some ']' then opened.dropLast else opened)

structure SafeDestination (library : UrlLibrary) where
  url : library.Url
  addresses : List ResolvedAddress

end Monitoring

end LinkAlive
