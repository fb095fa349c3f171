import LinkAlive.Monitoring.Addresses
import LinkAlive.Monitoring.Records

/-!
# Reference checks

`NodeDnsResolver` of `packages/monitoring/src/url-policy.ts` and `checkReferenceUrls` of
`packages/monitoring/src/reference-check.ts` with its default runner, and the addresses that
the transport of such a check may connect to: the transport is pinned to the addresses of
its destination and may take any of them.
-/

namespace LinkAlive.Monitoring

open Triples

set_option autoImplicit false

variable {World : Type}

/-- `lookup` of `node:dns`, which the signals may interrupt: no entries stand for a rejection. -/
structure DnsLookup (World : Type) where
  entries : String → World → Option (List ResolvedAddress) × World
  aborted : World → Bool

/-- `NodeDnsResolver.resolve` -/
def nodeDnsResolver (isIP : String → Option AddressFamily) (lookup : DnsLookup World)
    (hostname : String) : Effect World (List ResolvedAddress) := fun world =>
  match isIP hostname with
  | some family => (.ok [⟨hostname, family⟩], world)
  | none =>
      match lookup.entries hostname world with
      | (some entries, world) => (.ok entries, world)
      | (none, world) =>
          (.error (.failure (.checkFailure .targetFailure .dnsError
            (if lookup.aborted world then "DNS 조회 시간이 초과되었습니다."
              else "도메인 이름을 조회할 수 없습니다."))), world)

/-- The dependencies of `createHttpChecker()`: its own resolver and no limiter. -/
def Environment.withDefaults (env : Environment World) (isIP : String → Option AddressFamily)
    (lookup : DnsLookup World) : Environment World :=
  { env with resolve := nodeDnsResolver isIP lookup, acquire := none }

def referenceConfig (url : String) : MonitorCheckConfig where
  url := url
  method := some "HEAD"
  timeoutMs := some (.integer 5000)
  expectedStatusMin := some (.integer 100)
  expectedStatusMax := some (.integer 599)
  expectedKeyword := none
  followRedirects := some false
  maxRedirects := some (.integer 0)
  source := some .test
  configVersion := none

def uncompletedResult (url : String) (startedAt finishedAt : Time) : MonitorCheckResult where
  source := .test
  outcome := .platformError
  configVersion := none
  startedAt := startedAt
  finishedAt := finishedAt
  statusCode := none
  ttfbMs := none
  totalMs := finishedAt - startedAt
  errorType := some .platformError
  errorMessageSafe := some "연결 테스트를 완료하지 못했습니다. 잠시 후 다시 시도해 주세요."
  finalUrlDisplay := url
  redirectCount := 0
  inspectedBodyBytes := 0

/-- What `checkReferenceUrls` does with one URL. -/
def checkReferenceUrl {env : Environment World} (url : String) :
    Program env MonitorCheckResult := do
  let startedAt ← perform env.now
  tryCatch (checkUrl (referenceConfig url)) fun _ => do
    let finishedAt ← perform env.now
    return uncompletedResult url startedAt finishedAt

/-- The checks run at the same time. Each has variables of its own and meets the world as the
others leave it, so each comes with the world that it starts in. -/
def checkReferenceUrls (env : Environment World) (probes : List (String × World)) :
    List (EStateM.Result Rejection (Session env) MonitorCheckResult) :=
  probes.map fun probe =>
    (checkReferenceUrl probe.1).run (Session.start env probe.2 probe.1)

def requestedAddresses {library : UrlLibrary} (log : List (Event library)) :
    List ResolvedAddress :=
  log.flatMap fun event =>
    match event with
    | .requested destination _ => destination.addresses
    | _ => []

def finalSession {env : Environment World} {Value : Type} :
    EStateM.Result Rejection (Session env) Value → Session env
  | .ok _ session => session
  | .error _ session => session

def contactedAddresses (env : Environment World) (probes : List (String × World)) :
    List ResolvedAddress :=
  (checkReferenceUrls env probes).flatMap fun outcome =>
    requestedAddresses (finalSession outcome).log

def answered (env : Environment World) (url : String) (world : World) : List ResolvedAddress :=
  match parseMonitorUrl env.urls url with
  | .error _ => []
  | .ok found =>
      match (env.resolve (bareHostname (env.urls.hostname found)) world).1 with
      | .ok addresses => addresses.eraseDups
      | .error _ => []

variable {env : Environment World} {Value : Type}

abbrev requested (session : Session env) : List ResolvedAddress := requestedAddresses session.log

theorem requested_concat {library : UrlLibrary} (log : List (Event library))
    (event : Event library) :
    requestedAddresses (log ++ [event]) = requestedAddresses log ++ requestedAddresses [event] :=
  List.flatMap_append

theorem requested_frame {program : Program env Value} (frame : Frame Session.books program) :
    Frame requested program :=
  frame.part fun books => requestedAddresses books.log

theorem record_requested {event : Event env.urls} (silent : requestedAddresses [event] = []) :
    Frame requested (record event : Program env Unit) :=
  Frame.modify fun session => by
    change requestedAddresses (session.log ++ [event]) = requestedAddresses session.log
    rw [requested_concat, silent, List.append_nil]

theorem release_requested (lease : Option (Nat × DestinationLease World)) :
    Frame requested (releaseDestinationLease lease : Program env Unit) := by
  unfold releaseDestinationLease
  split
  · exact Frame.pure _
  · refine (requested_frame (perform_frame _)).bind fun outcome => ?_
    cases outcome with
    | ok => exact record_requested rfl
    | error error => exact (record_requested rfl).bind fun _ => Frame.throw _

theorem close_response_requested (number : Nat) (response : TransportResponse World) :
    Frame requested (closeResponse number response : Program env (Except Rejection Unit)) :=
  (requested_frame (perform_frame _)).bind fun _ =>
    (record_requested rfl).bind fun _ => Frame.pure _

theorem disconnect_requested : Frame requested (disconnect : Program env Unit) := by
  have closed : Frame requested (closeCurrent : Program env Unit) := by
    unfold closeCurrent
    refine Frame.read fun current => ?_
    split
    · exact Frame.pure _
    · refine (close_response_requested _ _).bind fun outcome => ?_
      exact (Frame.or_throw _).bind fun _ => Frame.modify fun _ => rfl
  unfold disconnect
  refine closed.bind fun _ => Frame.read fun current => ?_
  exact (release_requested _).bind fun _ => Frame.modify fun _ => rfl

theorem accept_requested (config : NormalizedConfig) (startedAt : Time) (startedTick : Rat)
    (response : TransportResponse World) :
    Frame requested
      (acceptResponse config startedAt startedTick response : Program env MonitorCheckResult) := by
  unfold acceptResponse
  refine (Frame.fail_if _ _).bind fun _ => ?_
  refine (requested_frame (check_keyword_frame config response)).bind fun _ => ?_
  refine disconnect_requested.bind fun _ => ?_
  refine (requested_frame (perform_frame _)).bind fun finishedAt => ?_
  refine (requested_frame (perform_frame _)).bind fun tick => ?_
  exact Frame.read fun session => Frame.pure _

theorem close_quietly_requested : Frame requested (closeQuietly : Program env Unit) := by
  unfold closeQuietly
  refine Frame.read fun current => ?_
  split
  · exact Frame.pure _
  · refine (requested_frame (destroy_frame _)).bind fun _ => ?_
    exact (close_response_requested _ _).bind fun _ => Frame.pure _

theorem clean_up_requested : Frame requested (cleanUp : Program env Unit) := by
  have released : Frame requested (releaseQuietly : Program env Unit) := by
    unfold releaseQuietly
    refine Frame.read fun current => ?_
    split
    · exact Frame.pure _
    · exact (requested_frame (perform_frame _)).bind fun _ => record_requested rfl
  exact close_quietly_requested.bind fun _ => released

theorem result_from_failure_requested (failure : CheckFailure) (config : NormalizedConfig)
    (startedAt : Time) (startedTick : Rat) :
    Frame requested
      (resultFromFailure failure config startedAt startedTick :
        Program env MonitorCheckResult) := by
  unfold resultFromFailure
  refine (requested_frame (perform_frame _)).bind fun finishedAt => ?_
  refine (requested_frame (perform_frame _)).bind fun tick => ?_
  exact Frame.read fun session => Frame.pure _

theorem failed_requested (config : NormalizedConfig) (startedAt : Time) (startedTick : Rat)
    (error : Rejection) :
    Frame requested
      (failedResult config startedAt startedTick error : Program env MonitorCheckResult) := by
  have superseded : Frame requested (supersedeError error : Program env Rejection) := by
    unfold supersedeError
    refine Frame.read fun current => ?_
    split
    · exact Frame.pure _
    · refine Frame.bind ?_ fun effective => Frame.bind (Frame.modify fun _ => rfl) fun _ =>
        Frame.pure _
      exact Frame.try_catch ((release_requested _).bind fun _ => Frame.pure _)
        fun _ => Frame.pure _
  unfold failedResult
  refine close_quietly_requested.bind fun _ => ?_
  refine Frame.bind (Frame.modify fun _ => rfl) fun _ => ?_
  refine superseded.bind fun effective => Frame.read fun session => ?_
  exact result_from_failure_requested _ _ _ _

/-- The variables when the first turn begins. -/
structure Fresh (url : String) (world : World) (session : Session env) : Prop where
  world : session.world = world
  currentUrl : session.currentUrl = url
  visited : session.visited = []
  cookies : session.cookies = env.cookies.fresh
  log : session.log = []

theorem resolve_evaluated {url : String} {found : env.urls.Url}
    (parsed : parseMonitorUrl env.urls url = .ok found) (session : Session env) :
    (resolveSafeDestination url : Program env (SafeDestination env.urls)) session =
      match env.resolve (bareHostname (env.urls.hostname found)) session.world with
      | (.error error, world) => .error error { session with world }
      | (.ok [], world) =>
          .error (.failure (.checkFailure .targetFailure .dnsError
            "도메인 이름에 연결 가능한 주소가 없습니다.")) { session with world }
      | (.ok (first :: rest), world) =>
          .ok ⟨found, (first :: rest).eraseDups⟩ { session with world } := by
  unfold resolveSafeDestination
  rw [parsed]
  cases outcome : env.resolve (bareHostname (env.urls.hostname found)) session.world with
  | mk result world =>
      have settled : (settle (env.resolve (bareHostname (env.urls.hostname found))) :
          Program env (Except Rejection (List ResolvedAddress))) session =
            .ok result { session with world } := by
        change EStateM.Result.ok (env.resolve _ session.world).1
          { session with world := (env.resolve _ session.world).2 } = _
        rw [outcome]
      simp only [Except.mapError, orThrow, bind, EStateM.bind, pure, EStateM.pure, settled]
      match result with
      | .error error => rfl
      | .ok [] => rfl
      | .ok (first :: rest) => rfl

theorem resolve_first (url : String) (world : World) :
    Triple (Fresh url world) (resolveSafeDestination url : Program env (SafeDestination env.urls))
      (fun destination session => destination.addresses = answered env url world ∧
        session.visited = [] ∧ session.cookies = env.cookies.fresh ∧ requested session = [])
      fun _ session => requested session = answered env url world := by
  constructor
  rintro session ⟨rfl, -, visited, cookies, log⟩
  have silent : requested session = [] := by rw [requested, log]; rfl
  cases parsed : parseMonitorUrl env.urls url with
  | error failure =>
      have thrown : (resolveSafeDestination url : Program env (SafeDestination env.urls)) session =
          .error (.failure failure) session := by
        unfold resolveSafeDestination
        rw [parsed]
        rfl
      rw [thrown, answered, parsed]
      exact silent
  | ok found =>
      rw [resolve_evaluated parsed, answered, parsed]
      dsimp only
      cases env.resolve (bareHostname (env.urls.hostname found)) session.world with
      | mk result after =>
          match result with
          | .error error => exact silent
          | .ok [] => exact silent
          | .ok (first :: rest) => exact ⟨rfl, visited, cookies, silent⟩

def EmptyJarAnswers (env : Environment World) : Prop :=
  ∀ url world,
    (env.cookies.getCookieStringSync env.cookies.fresh url world).1 = .ok ""

theorem enter_first (jar : EmptyJarAnswers env) (destination : SafeDestination env.urls)
    (final : List ResolvedAddress) :
    Triple
      (fun session : Session env =>
        session.visited = [] ∧ session.cookies = env.cookies.fresh ∧ requested session = [])
      (enterDestination destination : Program env String)
      (fun _ session => requested session = [])
      fun _ session => requested session = final := by
  have asked : Triple
      (fun session : Session env =>
        session.visited = [] ∧ session.cookies = env.cookies.fresh ∧ requested session = [])
      (modifyGet fun session =>
        let answer := env.cookies.getCookieStringSync session.cookies
          (env.urls.serialize destination.url) session.world
        (answer.1, { session with cookies := answer.2 }) :
          Program env (Except Rejection String))
      (fun cookie session => cookie = .ok "" ∧ session.visited = [] ∧ requested session = [])
      fun _ session => requested session = final := by
    apply Triple.modify_get
    rintro session ⟨visited, cookies, silent⟩
    refine ⟨?_, visited, silent⟩
    rw [cookies]
    exact jar _ _
  have found : Triple
      (fun session : Session env => session.visited = [] ∧ requested session = [])
      (orThrow (.ok "") : Program env String)
      (fun _ session => session.visited = [] ∧ requested session = [])
      fun _ session => requested session = final :=
    Triple.or_throw (fun _ _ _ holds => holds) fun _ _ failed => nomatch failed
  unfold enterDestination
  refine asked.bind fun outcome => ?_
  apply Triple.of_fact
  rintro rfl
  refine found.bind fun cookie => ?_
  apply Triple.read
  rintro current ⟨unvisited, -⟩
  have first : Triple
      (fun session => (session.visited = [] ∧ requested session = []) ∧ session = current)
      (failIf ((env.urls.serialize destination.url, cookie) ∈ current.visited)
        (.failure (.redirectPolicyError "리다이렉트 순환이 감지되었습니다.")) : Program env Unit)
      (fun _ session => requested session = []) fun _ session => requested session = final := by
    apply Triple.fail_if
    · intro _ _ again
      rw [unvisited] at again
      cases again
    · exact fun _ holds _ => holds.1.2
  refine first.bind fun _ => ?_
  apply Triple.returning
  exact Triple.modify fun _ silent => silent

theorem protect_first (unlimited : env.acquire = none) (destination : SafeDestination env.urls)
    (final : List ResolvedAddress) :
    Triple (fun session => requested session = [])
      (protectDestination destination : Program env Unit) (fun _ session => requested session = [])
      fun _ session => requested session = final := by
  unfold protectDestination
  rw [unlimited]
  exact Triple.modify fun _ silent => silent

theorem send_first (config : NormalizedConfig) (startedTick : Rat)
    (destination : SafeDestination env.urls) (cookie : String) :
    Triple (fun session => requested session = [])
      (sendRequest config startedTick destination cookie :
        Program env (TransportResponse World))
      (fun _ session => requested session = destination.addresses)
      fun _ session => requested session = destination.addresses := by
  have ticked : Triple (fun session => requested session = [])
      (perform env.monotonicNow : Program env Rat) (fun _ session => requested session = [])
      fun _ session => requested session = destination.addresses :=
    Triple.modify_get fun _ silent => silent
  have recorded : Triple (fun session => requested session = [])
      (record (.requested destination cookie) : Program env Unit)
      (fun _ session => requested session = destination.addresses)
      fun _ session => requested session = destination.addresses := by
    apply Triple.modify
    intro session silent
    change requestedAddresses (session.log ++ [.requested destination cookie]) = _
    rw [requested_concat, show requestedAddresses session.log = [] from silent]
    exact List.append_nil destination.addresses
  have responded (response : TransportResponse World) :
      Frame requested (modify fun session => { session with
        log := session.log ++ [.responded session.responses]
        responses := session.responses + 1
        response := some (session.responses, response)
        statusCode := some response.statusCode } : Program env Unit) := by
    apply Frame.modify
    intro session
    change requestedAddresses (session.log ++ [.responded session.responses]) = _
    rw [requested_concat]
    exact List.append_nil _
  have steady {Value : Type} {program : Program env Value} (frame : Frame requested program) :=
    frame.unchanged destination.addresses
  unfold sendRequest
  refine ticked.bind fun tick => ?_
  refine recorded.bind fun _ => ?_
  refine (steady (requested_frame (perform_frame _))).bind fun outcome => ?_
  refine (steady (Frame.or_throw _)).bind fun response => ?_
  refine (steady (responded response)).bind fun _ => ?_
  refine (steady (requested_frame (perform_frame _))).bind fun later => ?_
  refine Triple.bind (steady ?_) fun _ => ?_
  · exact Frame.modify fun _ => rfl
  refine (steady (Frame.fail_if _ _)).bind fun _ => ?_
  exact steady (Frame.pure _)

theorem hop_requests {url : String} {config : NormalizedConfig} (unlimited : env.acquire = none)
    (jar : EmptyJarAnswers env) (redirectless : config.followRedirects = false) (world : World)
    (startedAt : Time) (startedTick : Rat) :
    Triple (Fresh url world)
      (hop config startedAt startedTick : Program env (Option MonitorCheckResult))
      (fun result session => result.isSome = true ∧ requested session = answered env url world)
      fun _ session => requested session = answered env url world := by
  unfold hop
  apply Triple.read
  intro current fresh
  rw [fresh.currentUrl]
  refine Triple.bind ((resolve_first url world).weaken (fun _ holds => holds.1)
    (fun _ _ resolved => resolved) fun _ _ failed => failed) fun destination => ?_
  apply Triple.of_fact
  intro addresses
  rw [← addresses]
  refine (enter_first jar destination destination.addresses).bind fun cookie => ?_
  refine (protect_first unlimited destination destination.addresses).bind fun _ => ?_
  refine (send_first config startedTick destination cookie).bind fun response => ?_
  have direct : redirectLocation config response = none := by
    simp [redirectLocation, redirectless]
  rw [direct]
  refine ((accept_requested config startedAt startedTick response).unchanged _).bind
    fun result => ?_
  exact Triple.pure fun _ same => ⟨rfl, same⟩

def referenceNormalized (url : String) : NormalizedConfig where
  url := url
  method := .head
  timeoutMs := 5000
  expectedStatusMin := 100
  expectedStatusMax := 599
  expectedKeyword := none
  followRedirects := false
  maxRedirects := 0
  source := .test
  configVersion := none

theorem reference_normalized (url : String) :
    normalizeConfig (referenceConfig url) = .ok (referenceNormalized url) := by
  rfl

/-- The world when the host name is resolved: the clocks have been read before. -/
def resolvingWorld (env : Environment World) (world : World) : World :=
  (env.monotonicNow (env.now (env.now world).2).2).2

theorem perform_fresh {url : String} {thrown : Rejection → Session env → Prop}
    (effect : World → Value × World) (world : World) :
    Triple (Fresh url world) (perform effect : Program env Value)
      (fun _ => Fresh url (effect world).2) thrown := by
  apply Triple.modify_get
  rintro session ⟨rfl, currentUrl, visited, cookies, log⟩
  exact ⟨rfl, currentUrl, visited, cookies, log⟩

/-- The requests of a check have gone to these addresses, however it ends. -/
abbrev Requests (before : Session env → Prop) (program : Program env Value)
    (addresses : List ResolvedAddress) : Prop :=
  Triple before program (fun _ session => requested session = addresses)
    fun _ session => requested session = addresses

theorem loop_requests (url : String) (unlimited : env.acquire = none)
    (jar : EmptyJarAnswers env) (world : World) (startedAt : Time) (startedTick : Rat) :
    Requests (Fresh url world)
      (checkLoop (referenceNormalized url) startedAt startedTick : Program env MonitorCheckResult)
      (answered env url world) := by
  constructor
  intro session fresh
  have turn := (hop_requests unlimited jar
    (rfl : (referenceNormalized url).followRedirects = false) world startedAt startedTick).run
      session fresh
  rw [checkLoop, until_result_turn]
  cases outcome : hop (referenceNormalized url) startedAt startedTick session with
  | error error after =>
      rw [outcome] at turn
      exact turn
  | ok result after =>
      rw [outcome] at turn
      cases result with
      | none => exact absurd turn.1 Bool.false_ne_true
      | some result => exact turn.2

theorem check_url_requests (url : String) (unlimited : env.acquire = none)
    (jar : EmptyJarAnswers env) (world : World) :
    Requests (Fresh url world) (checkUrl (referenceConfig url) : Program env MonitorCheckResult)
      (answered env url
        (env.monotonicNow (env.now world).2).2) := by
  unfold checkUrl
  refine (perform_fresh _ world).bind fun startedAt => ?_
  refine (perform_fresh _ _).bind fun startedTick => ?_
  rw [reference_normalized]
  have looped := loop_requests url unlimited jar (env.monotonicNow (env.now world).2).2
    startedAt startedTick
  have caught := looped.tryCatch fun error =>
    (failed_requested (referenceNormalized url) startedAt startedTick error).unchanged _
  exact caught.try_finally (fun _ => clean_up_requested.unchanged _)
    fun _ => clean_up_requested.unchanged _

theorem check_reference_url_requests (url : String) (unlimited : env.acquire = none)
    (jar : EmptyJarAnswers env) (world : World) :
    requested (finalSession ((checkReferenceUrl url).run (Session.start env world url))) =
      answered env url (resolvingWorld env world) := by
  have requests : Requests (Fresh url world)
      (checkReferenceUrl url : Program env MonitorCheckResult)
      (answered env url (resolvingWorld env world)) := by
    unfold checkReferenceUrl
    refine (perform_fresh _ world).bind fun startedAt => ?_
    refine (check_url_requests url unlimited jar (env.now world).2).tryCatch fun error => ?_
    refine ((requested_frame (perform_frame env.now)).unchanged _).bind fun finishedAt => ?_
    exact (Frame.pure _).unchanged _
  have run := requests.run (Session.start env world url) ⟨rfl, rfl, rfl, rfl, rfl⟩
  change requested (finalSession (checkReferenceUrl url (Session.start env world url))) = _
  cases outcome : checkReferenceUrl url (Session.start env world url) with
  | ok result session | error error session =>
      rw [outcome] at run
      exact run

end LinkAlive.Monitoring
