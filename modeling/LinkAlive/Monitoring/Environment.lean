import LinkAlive.Foundation.Triples
import LinkAlive.Monitoring.Keyword
import LinkAlive.Monitoring.UrlPolicy
import Mathlib.Data.Rat.Floor

/-!
# What a check runs on

The configuration of `checkUrl` in `packages/monitoring/src/checker.ts`, its dependencies and
its variables. Every dependency is an effect on a world that stands for everything outside the
check, its timer included; a promise is what the effect comes to. The local variables of
`checkUrl` are the state of a program that may throw. The log holds what the check has asked
of the limiter and of the transport, with leases and responses numbered in the order in which
they come.
-/

namespace LinkAlive.Monitoring

open Triples

set_option autoImplicit false

def minTimeoutMs : Nat := 500

def maxTimeoutMs : Nat := 30000

def defaultTimeoutMs : Nat := 10000

def maxHeaderBytes : Nat := 32768

def maxKeywordBytes : Nat := 4096

def defaultMaxRedirects : Nat := 5

def redirectStatuses : List Nat := [301, 302, 303, 307, 308]

structure NormalizedConfig where
  url : String
  method : HttpMethod
  timeoutMs : Nat
  expectedStatusMin : Nat
  expectedStatusMax : Nat
  expectedKeyword : Option String
  followRedirects : Bool
  maxRedirects : Nat
  source : CheckSource
  configVersion : Option Numeral
deriving DecidableEq, Repr

def methodOf (text : String) : Option HttpMethod :=
  if text = "GET" then some .get else if text = "HEAD" then some .head else none

def statusRange : Numeral → Numeral → Option (Nat × Nat)
  | .integer low, .integer high =>
      if 100 ≤ low ∧ high ≤ 599 ∧ low ≤ high then some (low.toNat, high.toNat) else none
  | _, _ => none

def keywordOf (expectedKeyword : Option String) : Option String :=
  expectedKeyword.filter fun keyword => trimText keyword ≠ ""

def orPolicyError {Value : Type} (value : Option Value) (message : String) :
    Except CheckFailure Value :=
  match value with
  | some value => .ok value
  | none => .error (.urlPolicyError message)

def policyCheck (holds : Bool) (message : String) : Except CheckFailure Unit :=
  if holds then .ok () else .error (.urlPolicyError message)

def normalizeConfig (config : MonitorCheckConfig) : Except CheckFailure NormalizedConfig := do
  let expectedKeyword := keywordOf config.expectedKeyword
  let method ← orPolicyError (methodOf (config.method.getD "GET"))
    "GET 또는 HEAD 방식만 사용할 수 있습니다."
  let timeoutMs ← orPolicyError
    ((config.timeoutMs.getD (.integer defaultTimeoutMs)).within minTimeoutMs maxTimeoutMs)
    s!"전체 제한 시간은 {minTimeoutMs}~{maxTimeoutMs}ms여야 합니다."
  let (expectedStatusMin, expectedStatusMax) ← orPolicyError
    (statusRange (config.expectedStatusMin.getD (.integer 200))
      (config.expectedStatusMax.getD (.integer 299)))
    "기대 HTTP 상태 코드 범위가 올바르지 않습니다."
  let maxRedirects ← orPolicyError
    ((config.maxRedirects.getD (.integer defaultMaxRedirects)).within 0 defaultMaxRedirects)
    s!"리다이렉트는 최대 {defaultMaxRedirects}회까지 허용됩니다."
  policyCheck (method ≠ .head || expectedKeyword.isNone)
    "HEAD 검사에는 응답 키워드를 설정할 수 없습니다."
  policyCheck (expectedKeyword.all fun keyword => keyword.utf8ByteSize ≤ maxKeywordBytes)
    s!"응답 키워드는 {maxKeywordBytes}바이트 이하여야 합니다."
  return {
    url := config.url, method, timeoutMs, expectedStatusMin, expectedStatusMax, expectedKeyword
    followRedirects := config.followRedirects.getD true
    maxRedirects
    source := config.source.getD .scheduled
    configVersion := config.configVersion }

theorem or_policy_error_ok {Value : Type} {value : Option Value} {message : String}
    {found : Value} (ok : orPolicyError value message = .ok found) : value = some found := by
  cases value with
  | none => cases ok
  | some value => exact congrArg some (Except.ok.inj ok)

theorem except_bind_ok {Failure First Second : Type} {first : Except Failure First}
    {next : First → Except Failure Second} {last : Second} (ok : first >>= next = .ok last) :
    ∃ middle, first = .ok middle ∧ next middle = .ok last := by
  cases first with
  | error failure => cases ok
  | ok middle => exact ⟨middle, rfl, ok⟩

/-- A configuration that is accepted is the request with its defaults, within the bounds. -/
theorem normalize_config_ok {input : MonitorCheckConfig} {config : NormalizedConfig}
    (ok : normalizeConfig input = .ok config) :
    statusRange (input.expectedStatusMin.getD (.integer 200))
        (input.expectedStatusMax.getD (.integer 299)) =
        some (config.expectedStatusMin, config.expectedStatusMax) ∧
      (input.maxRedirects.getD (.integer defaultMaxRedirects)).within 0 defaultMaxRedirects =
        some config.maxRedirects := by
  unfold normalizeConfig at ok
  obtain ⟨method, -, ok⟩ := except_bind_ok ok
  obtain ⟨timeoutMs, -, ok⟩ := except_bind_ok ok
  obtain ⟨⟨expectedStatusMin, expectedStatusMax⟩, status, ok⟩ := except_bind_ok ok
  obtain ⟨maxRedirects, redirects, ok⟩ := except_bind_ok ok
  obtain ⟨-, -, ok⟩ := except_bind_ok ok
  obtain ⟨-, -, ok⟩ := except_bind_ok ok
  cases ok
  exact ⟨or_policy_error_ok status, or_policy_error_ok redirects⟩

/-- The configuration of the result when the request is rejected. -/
def fallbackConfig (input : MonitorCheckConfig) : NormalizedConfig where
  url := input.url
  method := if input.method = some "HEAD" then .head else .get
  timeoutMs := defaultTimeoutMs
  expectedStatusMin := 200
  expectedStatusMax := 299
  expectedKeyword := none
  followRedirects := true
  maxRedirects := defaultMaxRedirects
  source := input.source.getD .scheduled
  configVersion := input.configVersion

abbrev Effect (World Value : Type) := World → Except Rejection Value × World

structure DestinationLease (World : Type) where
  release : Effect World Unit

structure TransportBody (World : Type) where
  read : World → BodyStream × World
  destroy : World → World

structure TransportResponse (World : Type) where
  statusCode : Nat
  headers : Headers
  body : TransportBody World
  close : Effect World Unit

structure TransportRequest where
  cookie : Option String
  method : HttpMethod
  headersTimeoutMs : Nat
  bodyTimeoutMs : Nat
  maxHeaderBytes : Nat
deriving DecidableEq, Repr

/-- The cookie jar, which reads the clock and may throw. -/
structure CookieLibrary (World : Type) where
  CookieJar : Type
  fresh : CookieJar
  getCookieStringSync : CookieJar → String → World → Except Rejection String × CookieJar
  setCookieSync : CookieJar → String → String → World → Except Rejection Unit × CookieJar

/-- The dependencies of `createHttpChecker` and the platform. `newUrl` is the constructor of a
URL with a base, `aborted` the state of the signal. -/
structure Environment (World : Type) where
  urls : UrlLibrary
  newUrl : String → urls.Url → Option urls.Url
  cookies : CookieLibrary World
  textDecoder : TextDecoder
  decompress : Decompressor → BodyStream → BodyStream
  aborted : World → Bool
  now : World → Time × World
  monotonicNow : World → Rat × World
  resolve : String → Effect World (List ResolvedAddress)
  acquire : Option (SafeDestination urls → Effect World (DestinationLease World))
  request : SafeDestination urls → TransportRequest → Effect World (TransportResponse World)

/-- What the limiter and the transport are asked, and what they answer. -/
inductive Event (library : UrlLibrary) where
  | acquired (lease : Nat) (destination : SafeDestination library)
  | acquireFailed (destination : SafeDestination library)
  | requested (destination : SafeDestination library) (cookie : String)
  | responded (response : Nat)
  | closed (response : Nat) (fulfilled : Bool)
  | released (lease : Nat) (fulfilled : Bool)

variable {World : Type}

/-- The world and the variables of `checkUrl`. -/
structure Session (env : Environment World) where
  world : World
  log : List (Event env.urls)
  leases : Nat
  responses : Nat
  cookies : env.cookies.CookieJar
  visited : List (String × String)
  currentUrl : String
  statusCode : Option Nat
  ttfbMs : Option Nat
  redirects : Nat
  inspectedBodyBytes : Nat
  response : Option (Nat × TransportResponse World)
  destinationLease : Option (Nat × DestinationLease World)

def Session.start (env : Environment World) (world : World) (url : String) : Session env where
  world := world
  log := []
  leases := 0
  responses := 0
  cookies := env.cookies.fresh
  visited := []
  currentUrl := url
  statusCode := none
  ttfbMs := none
  redirects := 0
  inspectedBodyBytes := 0
  response := none
  destinationLease := none

abbrev Program (env : Environment World) := EStateM Rejection (Session env)

section Programs

variable {env : Environment World} {Value : Type}

def perform (effect : World → Value × World) : Program env Value :=
  modifyGet fun session =>
    let (value, world) := effect session.world
    (value, { session with world })

def settle (effect : Effect World Value) : Program env (Except Rejection Value) := perform effect

def record (event : Event env.urls) : Program env Unit :=
  modify fun session => { session with log := session.log ++ [event] }

end Programs

end LinkAlive.Monitoring
