import LinkAlive.Monitoring.Environment

/-!
# The HTTP checker

`createHttpChecker` of `packages/monitoring/src/checker.ts`, function by function. The loop of
`checkUrl` ends because every turn that goes on counts one more redirect and the count is
checked before.
-/

namespace LinkAlive.Monitoring

open Triples

set_option autoImplicit false

variable {World : Type} {env : Environment World}

def asLimiterError (message : String) : Rejection → Rejection
  | .failure (.destinationLimiterError safeMessage) =>
      .failure (.destinationLimiterError safeMessage)
  | _ => .failure (.destinationLimiterError message)

def acquireDestinationLease
    (acquire : SafeDestination env.urls → Effect World (DestinationLease World))
    (destination : SafeDestination env.urls) : Program env Unit := do
  match ← settle (acquire destination) with
  | .ok lease =>
      modify fun session => { session with
        log := session.log ++ [.acquired session.leases destination]
        leases := session.leases + 1
        destinationLease := some (session.leases, lease) }
  | .error error =>
      record (.acquireFailed destination)
      throw (asLimiterError
        "검사 보호 제한을 확인할 수 없어 이번 검사를 시작하지 않았습니다." error)

def releaseDestinationLease (lease : Option (Nat × DestinationLease World)) :
    Program env Unit := do
  match lease with
  | none => pure ()
  | some (number, lease) =>
      match ← settle lease.release with
      | .ok () => record (.released number true)
      | .error error =>
          record (.released number false)
          throw (asLimiterError
            "검사 보호 제한을 안전하게 해제하지 못해 결과를 확정하지 않았습니다." error)

def resolveSafeDestination (input : String) : Program env (SafeDestination env.urls) := do
  let url ← orThrow ((parseMonitorUrl env.urls input).mapError Rejection.failure)
  let addresses ← orThrow (← settle (env.resolve (bareHostname (env.urls.hostname url))))
  failIf addresses.isEmpty
    (.failure (.checkFailure .targetFailure .dnsError
      "도메인 이름에 연결 가능한 주소가 없습니다."))
  return ⟨url, addresses.eraseDups⟩

def enterDestination (destination : SafeDestination env.urls) : Program env String := do
  let canonical := env.urls.serialize destination.url
  let cookie ← orThrow (← modifyGet fun session =>
    let (cookie, cookies) := env.cookies.getCookieStringSync session.cookies canonical session.world
    (cookie, { session with cookies }))
  failIf ((canonical, cookie) ∈ (← get).visited)
    (.failure (.redirectPolicyError "리다이렉트 순환이 감지되었습니다."))
  modify fun session =>
    { session with visited := (canonical, cookie) :: session.visited, currentUrl := canonical }
  return cookie

def protectDestination (destination : SafeDestination env.urls) : Program env Unit :=
  match env.acquire with
  | none => modify fun session => { session with destinationLease := none }
  | some acquire => acquireDestinationLease acquire destination

/-- `Math.max(0, Math.round(ms))` -/
def roundedMs (ms : Rat) : Nat := (ms + 1 / 2).floor.toNat

def requestOptions (config : NormalizedConfig) (elapsed : Rat) (cookie : String) :
    TransportRequest :=
  let remaining := max 1 (config.timeoutMs - elapsed).floor.toNat
  { cookie := if cookie = "" then none else some cookie
    method := config.method
    headersTimeoutMs := min 5000 remaining
    bodyTimeoutMs := remaining
    maxHeaderBytes }

def sendRequest (config : NormalizedConfig) (startedTick : Rat)
    (destination : SafeDestination env.urls) (cookie : String) :
    Program env (TransportResponse World) := do
  let elapsed := (← perform env.monotonicNow) - startedTick
  record (.requested destination cookie)
  let response ← orThrow
    (← settle (env.request destination (requestOptions config elapsed cookie)))
  modify fun session => { session with
    log := session.log ++ [.responded session.responses]
    responses := session.responses + 1
    response := some (session.responses, response)
    statusCode := some response.statusCode }
  let tick ← perform env.monotonicNow
  modify fun session => { session with ttfbMs := some (roundedMs (tick - startedTick)) }
  failIf (maxHeaderBytes < approximateHeaderBytes response.headers)
    (.failure (.checkFailure .targetFailure .responseLimitExceeded
      "응답 헤더 크기 제한을 초과했습니다."))
  return response

def destroyBody (response : TransportResponse World) : Program env Unit :=
  modify fun session => { session with world := response.body.destroy session.world }

def closeResponse (number : Nat) (response : TransportResponse World) :
    Program env (Except Rejection Unit) := do
  let outcome ← settle response.close
  record (.closed number outcome.isOk)
  return outcome

/-- `await response.close()`, and the variable is cleared. -/
def closeCurrent : Program env Unit := do
  match (← get).response with
  | none => pure ()
  | some (number, response) =>
      orThrow (← closeResponse number response)
      modify fun session => { session with response := none }

def disconnect : Program env Unit := do
  closeCurrent
  releaseDestinationLease (← get).destinationLease
  modify fun session => { session with destinationLease := none }

def storeCookies (canonical : String) (values : List String) : Program env Unit :=
  values.forM fun value => do
    orThrow (← modifyGet fun session =>
      let (outcome, cookies) :=
        env.cookies.setCookieSync session.cookies value canonical session.world
      (outcome, { session with cookies }))

def followRedirect (config : NormalizedConfig) (destination : SafeDestination env.urls)
    (response : TransportResponse World) (location : String) : Program env Unit := do
  failIf (config.maxRedirects ≤ (← get).redirects)
    (.failure (.redirectPolicyError "허용된 리다이렉트 횟수를 초과했습니다."))
  let next ← orThrow (match env.newUrl location destination.url with
    | some next => .ok next
    | none => .error (.failure (.redirectPolicyError "리다이렉트 주소가 올바르지 않습니다.")))
  storeCookies (env.urls.serialize destination.url) (setCookieValues response.headers)
  destroyBody response
  disconnect
  modify fun session => { session with
    currentUrl := env.urls.serialize next
    redirects := session.redirects + 1 }

def redirectLocation (config : NormalizedConfig) (response : TransportResponse World) :
    Option String :=
  if config.followRedirects ∧ response.statusCode ∈ redirectStatuses then
    (firstHeader response.headers "location").filter fun location => location ≠ ""
  else none

def inspectKeyword (response : TransportResponse World) (keyword : String) :
    Program env Inspection := do
  orThrow ((assertEncodedContentLength response.headers).mapError Rejection.failure)
  let decompressor ← orThrow
    ((decompressorFor (contentEncoding response.headers)).mapError Rejection.failure)
  let source ← perform response.body.read
  destroyBody response
  orThrow (inspectBody env.textDecoder (codeUnits keyword)
    (decodedBody env.decompress decompressor source))

def checkKeyword (config : NormalizedConfig) (response : TransportResponse World) :
    Program env Unit :=
  match config.expectedKeyword with
  | none => destroyBody response
  | some keyword => do
      let inspection ← inspectKeyword response keyword
      modify fun session => { session with inspectedBodyBytes := inspection.inspected }
      failIf (!inspection.found)
        (.failure (.checkFailure .targetFailure .contentMismatch
          "제한된 응답 본문에서 기대 키워드를 찾지 못했습니다."))

def acceptResponse (config : NormalizedConfig) (startedAt : Time) (startedTick : Rat)
    (response : TransportResponse World) : Program env MonitorCheckResult := do
  let statusCode := response.statusCode
  failIf (statusCode < config.expectedStatusMin || config.expectedStatusMax < statusCode)
    (.failure (.checkFailure .targetFailure .httpStatusMismatch
      s!"기대 범위를 벗어난 HTTP 상태 코드({statusCode})를 받았습니다."))
  checkKeyword config response
  disconnect
  let finishedAt ← perform env.now
  let tick ← perform env.monotonicNow
  let session ← get
  return {
    source := config.source
    outcome := .success
    configVersion := config.configVersion
    startedAt
    finishedAt
    statusCode := session.statusCode
    ttfbMs := session.ttfbMs
    totalMs := roundedMs (tick - startedTick)
    errorType := none
    errorMessageSafe := none
    finalUrlDisplay := displayUrl env.urls session.currentUrl
    redirectCount := session.redirects
    inspectedBodyBytes := session.inspectedBodyBytes }

/-- `resultFromFailure`; it reads the clocks before it reads the variables. -/
def resultFromFailure (failure : CheckFailure) (config : NormalizedConfig) (startedAt : Time)
    (startedTick : Rat) : Program env MonitorCheckResult := do
  let finishedAt ← perform env.now
  let tick ← perform env.monotonicNow
  let session ← get
  return {
    source := config.source
    outcome := failure.outcome
    configVersion := config.configVersion
    startedAt
    finishedAt
    statusCode := session.statusCode
    ttfbMs := session.ttfbMs
    totalMs := roundedMs (tick - startedTick)
    errorType := some failure.errorType
    errorMessageSafe := some failure.safeMessage
    finalUrlDisplay := displayUrl env.urls session.currentUrl
    redirectCount := session.redirects
    inspectedBodyBytes := session.inspectedBodyBytes }

def hop (config : NormalizedConfig) (startedAt : Time) (startedTick : Rat) :
    Program env (Option MonitorCheckResult) := do
  let destination ← resolveSafeDestination (← get).currentUrl
  let cookie ← enterDestination destination
  protectDestination destination
  let response ← sendRequest config startedTick destination cookie
  match redirectLocation config response with
  | some location =>
      followRedirect config destination response location
      return none
  | none => return some (← acceptResponse config startedAt startedTick response)

/-- The variables that the requests, the clean-up and the end of the loop depend on. -/
structure Books (library : UrlLibrary) where
  log : List (Event library)
  leases : Nat
  responses : Nat
  visited : List (String × String)
  redirects : Nat
  response : Option Nat
  lease : Option Nat

def Session.books (session : Session env) : Books env.urls where
  log := session.log
  leases := session.leases
  responses := session.responses
  visited := session.visited
  redirects := session.redirects
  response := session.response.map Prod.fst
  lease := session.destinationLease.map Prod.fst

section Frames

variable {Value : Type}

theorem perform_frame (effect : World → Value × World) :
    Frame Session.books (perform effect : Program env Value) :=
  Frame.modify_get fun _ => rfl

theorem resolve_frame (input : String) :
    Frame Session.books (resolveSafeDestination input : Program env (SafeDestination env.urls)) :=
  (Frame.or_throw _).bind fun _ =>
    (perform_frame _).bind fun _ =>
      (Frame.or_throw _).bind fun _ => (Frame.fail_if _ _).bind fun _ => Frame.pure _

theorem destroy_frame (response : TransportResponse World) :
    Frame Session.books (destroyBody response : Program env Unit) :=
  Frame.modify fun _ => rfl

theorem store_cookies_frame (canonical : String) (values : List String) :
    Frame Session.books (storeCookies canonical values : Program env Unit) :=
  Frame.for_each fun _ => Frame.bind (Frame.modify_get fun _ => rfl) fun _ => Frame.or_throw _

theorem inspect_keyword_frame (response : TransportResponse World) (keyword : String) :
    Frame Session.books (inspectKeyword response keyword : Program env Inspection) := by
  unfold inspectKeyword
  refine (Frame.or_throw _).bind fun _ => ?_
  refine (Frame.or_throw _).bind fun decompressor => ?_
  refine (perform_frame _).bind fun source => ?_
  exact (destroy_frame response).bind fun _ => Frame.or_throw _

theorem check_keyword_frame (config : NormalizedConfig) (response : TransportResponse World) :
    Frame Session.books (checkKeyword config response : Program env Unit) := by
  unfold checkKeyword
  split
  · exact destroy_frame response
  · refine (inspect_keyword_frame response _).bind fun inspection => ?_
    exact Frame.bind (Frame.modify fun _ => rfl) fun _ => Frame.fail_if _ _

theorem enter_redirects (destination : SafeDestination env.urls) :
    Frame Session.redirects (enterDestination destination : Program env String) := by
  unfold enterDestination
  refine Frame.bind (Frame.modify_get fun _ => rfl) fun outcome => ?_
  refine (Frame.or_throw _).bind fun cookie => Frame.read fun current => ?_
  refine (Frame.fail_if _ _).bind fun _ => ?_
  exact Frame.bind (Frame.modify fun _ => rfl) fun _ => Frame.pure _

theorem settle_redirects (effect : Effect World Value) :
    Frame Session.redirects (settle effect : Program env (Except Rejection Value)) :=
  (perform_frame effect).part Books.redirects

theorem record_redirects (event : Event env.urls) :
    Frame Session.redirects (record event : Program env Unit) :=
  Frame.modify fun _ => rfl

theorem protect_redirects (destination : SafeDestination env.urls) :
    Frame Session.redirects (protectDestination destination : Program env Unit) := by
  unfold protectDestination
  split
  · exact Frame.modify fun _ => rfl
  · refine (settle_redirects _).bind fun outcome => ?_
    cases outcome with
    | ok lease => exact Frame.modify fun _ => rfl
    | error error => exact (record_redirects _).bind fun _ => Frame.throw _

theorem send_redirects (config : NormalizedConfig) (startedTick : Rat)
    (destination : SafeDestination env.urls) (cookie : String) :
    Frame Session.redirects (sendRequest config startedTick destination cookie :
      Program env (TransportResponse World)) := by
  unfold sendRequest
  refine ((perform_frame _).part Books.redirects).bind fun tick => ?_
  refine (record_redirects _).bind fun _ => ?_
  refine (settle_redirects _).bind fun outcome => ?_
  refine (Frame.or_throw _).bind fun response => ?_
  refine Frame.bind (Frame.modify fun _ => rfl) fun _ => ?_
  refine ((perform_frame _).part Books.redirects).bind fun tick => ?_
  refine Frame.bind (Frame.modify fun _ => rfl) fun _ => ?_
  exact (Frame.fail_if _ _).bind fun _ => Frame.pure _

theorem release_redirects (lease : Option (Nat × DestinationLease World)) :
    Frame Session.redirects (releaseDestinationLease lease : Program env Unit) := by
  unfold releaseDestinationLease
  split
  · exact Frame.pure _
  · refine (settle_redirects _).bind fun outcome => ?_
    cases outcome with
    | ok => exact record_redirects _
    | error error => exact (record_redirects _).bind fun _ => Frame.throw _

theorem close_redirects : Frame Session.redirects (closeCurrent : Program env Unit) := by
  unfold closeCurrent
  refine Frame.read fun current => ?_
  split
  · exact Frame.pure _
  · refine Frame.bind ?_ fun outcome => ?_
    · exact (settle_redirects _).bind fun _ => (record_redirects _).bind fun _ => Frame.pure _
    · exact (Frame.or_throw _).bind fun _ => Frame.modify fun _ => rfl

theorem disconnect_redirects : Frame Session.redirects (disconnect : Program env Unit) := by
  unfold disconnect
  refine close_redirects.bind fun _ => Frame.read fun current => ?_
  exact (release_redirects _).bind fun _ => Frame.modify fun _ => rfl

theorem follow_redirect_counts (config : NormalizedConfig)
    (destination : SafeDestination env.urls) (response : TransportResponse World)
    (location : String) (redirects : Nat) :
    Triple (fun session => session.redirects = redirects)
      (followRedirect config destination response location : Program env Unit)
      (fun _ after => redirects < config.maxRedirects ∧ after.redirects = redirects + 1)
      fun _ _ => True := by
  have steady {Value : Type} {program : Program env Value}
      (frame : Frame Session.redirects program) :
      Triple (fun session => redirects < config.maxRedirects ∧ session.redirects = redirects)
        program (fun _ after => redirects < config.maxRedirects ∧ after.redirects = redirects)
        fun _ _ => True :=
    frame.keeps (fun count => redirects < config.maxRedirects ∧ count = redirects)
      fun _ _ _ => trivial
  unfold followRedirect
  apply Triple.read
  intro current _
  have allowed : Triple (fun session => session.redirects = redirects ∧ session = current)
      (failIf (config.maxRedirects ≤ current.redirects)
        (.failure (.redirectPolicyError "허용된 리다이렉트 횟수를 초과했습니다.")) :
        Program env Unit)
      (fun _ session => redirects < config.maxRedirects ∧ session.redirects = redirects)
      fun _ _ => True := by
    apply Triple.fail_if
    · exact fun _ _ _ => trivial
    · rintro state ⟨same, rfl⟩ within
      have fewer := of_decide_eq_false within
      exact ⟨by omega, same⟩
  refine allowed.bind fun _ => ?_
  refine (steady (Frame.or_throw _)).bind fun next => ?_
  refine (steady ((store_cookies_frame _ _).part Books.redirects)).bind fun _ => ?_
  refine (steady ((destroy_frame response).part Books.redirects)).bind fun _ => ?_
  refine (steady disconnect_redirects).bind fun _ => ?_
  apply Triple.modify
  rintro state ⟨within, same⟩
  exact ⟨within, by simp [same]⟩

end Frames

theorem hop_redirected (config : NormalizedConfig) (startedAt : Time) (startedTick : Rat)
    (session after : Session env) (turn : hop config startedAt startedTick session = .ok none after) :
    config.maxRedirects - after.redirects < config.maxRedirects - session.redirects := by
  have steady {Value : Type} {program : Program env Value}
      (frame : Frame Session.redirects program) :
      Triple (fun state => state.redirects = session.redirects) program
        (fun _ after => after.redirects = session.redirects) fun _ _ => True :=
    frame.keeps (fun count => count = session.redirects) fun _ _ _ => trivial
  have counted : Triple (fun state => state.redirects = session.redirects)
      (hop config startedAt startedTick : Program env (Option MonitorCheckResult))
      (fun result after => result = none →
        session.redirects < config.maxRedirects ∧ after.redirects = session.redirects + 1)
      fun _ _ => True := by
    unfold hop
    apply Triple.read
    intro current _
    refine Triple.bind ((steady ((resolve_frame _).part Books.redirects)).weaken
      (fun _ holds => holds.1) (fun _ _ same => same) fun _ _ _ => trivial) fun destination => ?_
    refine (steady (enter_redirects destination)).bind fun cookie => ?_
    refine (steady (protect_redirects destination)).bind fun _ => ?_
    refine (steady (send_redirects config startedTick destination cookie)).bind fun response => ?_
    split
    · refine (follow_redirect_counts config destination response _ session.redirects).bind
        fun _ => ?_
      exact Triple.pure fun _ counted _ => counted
    · refine (Triple.trivial _).bind fun result => ?_
      apply Triple.pure
      intro _ _ absurd
      cases absurd
  have run := counted.run session rfl
  rw [turn] at run
  obtain ⟨within, more⟩ := run rfl
  omega

def checkLoop (config : NormalizedConfig) (startedAt : Time) (startedTick : Rat) :
    Program env MonitorCheckResult :=
  untilResult (hop config startedAt startedTick)
    (fun session => config.maxRedirects - session.redirects)
    (hop_redirected config startedAt startedTick)

/-- `if (response)` with its body and its close; a rejection is ignored. -/
def closeQuietly : Program env Unit := do
  match (← get).response with
  | none => pure ()
  | some (number, response) =>
      destroyBody response
      let _ ← closeResponse number response
      pure ()

def releaseQuietly : Program env Unit := do
  match (← get).destinationLease with
  | none => pure ()
  | some (number, lease) =>
      let outcome ← settle lease.release
      record (.released number outcome.isOk)

def supersedeError (error : Rejection) : Program env Rejection := do
  match (← get).destinationLease with
  | none => pure error
  | some lease =>
      let effectiveError ← tryCatch
        (do
          releaseDestinationLease (some lease)
          pure error)
        fun releaseError => pure releaseError
      modify fun session => { session with destinationLease := none }
      pure effectiveError

def policyError (redirects : Nat) : Rejection → Rejection
  | .failure (.urlPolicyError message) =>
      if 0 < redirects then
        .failure (.redirectPolicyError "리다이렉트 대상 URL을 검사할 수 없습니다.")
      else .failure (.urlPolicyError message)
  | error => error

/-- The `catch` clause. -/
def failedResult (config : NormalizedConfig) (startedAt : Time) (startedTick : Rat)
    (error : Rejection) : Program env MonitorCheckResult := do
  closeQuietly
  modify fun session => { session with response := none }
  let effectiveError ← supersedeError error
  let session ← get
  resultFromFailure
    (classifyUnknownError (policyError session.redirects effectiveError)
      (env.aborted session.world))
    config startedAt startedTick

/-- The `finally` clause. -/
def cleanUp : Program env Unit := do
  closeQuietly
  releaseQuietly

def checkUrl (input : MonitorCheckConfig) : Program env MonitorCheckResult := do
  let startedAt ← perform env.now
  let startedTick ← perform env.monotonicNow
  match normalizeConfig input with
  | .error failure => resultFromFailure failure (fallbackConfig input) startedAt startedTick
  | .ok config =>
      tryFinally
        (tryCatch (checkLoop config startedAt startedTick)
          (failedResult config startedAt startedTick))
        cleanUp

end LinkAlive.Monitoring
