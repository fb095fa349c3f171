import LinkAlive.Monitoring.Discipline
import LinkAlive.Monitoring.KeywordSearch

/-!
# Results that the ledger can record

What the columns of `check_results` demand of a result, and that every result of `checkUrl`
meets it while its clock goes forward, its transport answers with status codes, and a failure
of the checker that is thrown by a dependency is itself consistent. The numbers of a result
that may not be negative are natural numbers.
-/

namespace LinkAlive

set_option autoImplicit false

/-- A result that may be recorded; `range` are the status codes that are expected. -/
structure MonitorCheckResult.Recordable (range : Option (Nat × Nat))
    (result : MonitorCheckResult) : Prop where
  finished : result.startedAt ≤ result.finishedAt
  status : ∀ code, result.statusCode = some code → 100 ≤ code ∧ code ≤ 999
  redirects : result.redirectCount ≤ 5
  success : result.outcome = .success → result.errorType = none ∧
    ∃ low high code, range = some (low, high) ∧ result.statusCode = some code ∧
      low ≤ code ∧ code ≤ high
  target : result.outcome = .targetFailure →
    ∃ error, result.errorType = some error ∧ error ≠ .platformError
  platform : result.outcome = .platformError ↔ result.errorType = some .platformError

namespace Monitoring

open Triples

/-- A failure whose outcome and error type fit together. -/
structure CheckFailure.Consistent (failure : CheckFailure) : Prop where
  success : failure.outcome ≠ .success
  target : failure.outcome = .targetFailure → failure.errorType ≠ .platformError
  platform : failure.outcome = .platformError ↔ failure.errorType = .platformError

def Rejection.Consistent : Rejection → Prop
  | .failure thrown => thrown.Consistent
  | .unknown _ _ => True

theorem classify_consistent {error : Rejection} (consistent : error.Consistent) (aborted : Bool) :
    (classifyUnknownError error aborted).Consistent := by
  cases error with
  | failure failure => exact consistent
  | unknown errorClass codes =>
      rcases classify_unknown errorClass codes aborted with ⟨target, error⟩ | ⟨platform, error⟩
      · exact ⟨by simp [target], fun _ => error, by simp [target, error]⟩
      · exact ⟨by simp [platform], by simp [platform], by simp [platform, error]⟩

theorem url_policy_consistent (message : String) :
    (CheckFailure.urlPolicyError message).Consistent := by
  constructor <;> simp [CheckFailure.outcome, CheckFailure.errorType]

theorem redirect_policy_consistent (message : String) :
    (CheckFailure.redirectPolicyError message).Consistent := by
  constructor <;> simp [CheckFailure.outcome, CheckFailure.errorType]

theorem limiter_error_consistent (message : String) (error : Rejection) :
    (asLimiterError message error).Consistent := by
  unfold asLimiterError
  split <;> constructor <;> simp [CheckFailure.outcome, CheckFailure.errorType]

theorem target_failure_consistent {errorType : CheckErrorType} (message : String)
    (apart : errorType ≠ .platformError) :
    (CheckFailure.checkFailure .targetFailure errorType message).Consistent := by
  constructor <;> simp [CheckFailure.outcome, CheckFailure.errorType, apart]

theorem policy_error_consistent {error : Rejection} (consistent : error.Consistent)
    (redirects : Nat) : (policyError redirects error).Consistent := by
  unfold policyError
  split
  · split
    · exact redirect_policy_consistent _
    · exact url_policy_consistent _
  · exact consistent

theorem parse_monitor_url_consistent {library : UrlLibrary} {input : String}
    {failure : CheckFailure} (failed : parseMonitorUrl library input = .error failure) :
    failure.Consistent := by
  unfold parseMonitorUrl at failed
  split at failed
  · cases failed
    exact url_policy_consistent _
  · dsimp only at failed
    repeat' split at failed
    all_goals cases failed
    all_goals exact url_policy_consistent _

theorem or_policy_error_consistent {Value : Type} {value : Option Value} {message : String}
    {failure : CheckFailure} (failed : orPolicyError value message = .error failure) :
    failure.Consistent := by
  unfold orPolicyError at failed
  split at failed
  · cases failed
  · cases failed
    exact url_policy_consistent _

theorem policy_check_consistent {holds : Bool} {message : String} {failure : CheckFailure}
    (failed : policyCheck holds message = .error failure) : failure.Consistent := by
  unfold policyCheck at failed
  split at failed
  · cases failed
  · cases failed
    exact url_policy_consistent _

theorem except_bind_error {Failure First Second : Type} {first : Except Failure First}
    {next : First → Except Failure Second} {failure : Failure}
    (failed : first >>= next = .error failure) :
    first = .error failure ∨ ∃ middle, first = .ok middle ∧ next middle = .error failure := by
  cases first with
  | error other =>
      cases failed
      exact .inl rfl
  | ok middle => exact .inr ⟨middle, rfl, failed⟩

theorem normalize_config_consistent {input : MonitorCheckConfig} {failure : CheckFailure}
    (failed : normalizeConfig input = .error failure) : failure.Consistent := by
  unfold normalizeConfig at failed
  rcases except_bind_error failed with early | ⟨method, -, failed⟩
  · exact or_policy_error_consistent early
  rcases except_bind_error failed with early | ⟨timeoutMs, -, failed⟩
  · exact or_policy_error_consistent early
  rcases except_bind_error failed with early | ⟨⟨low, high⟩, -, failed⟩
  · exact or_policy_error_consistent early
  rcases except_bind_error failed with early | ⟨maxRedirects, -, failed⟩
  · exact or_policy_error_consistent early
  rcases except_bind_error failed with early | ⟨-, -, failed⟩
  · exact policy_check_consistent early
  rcases except_bind_error failed with early | ⟨-, -, failed⟩
  · exact policy_check_consistent early
  cases failed

theorem decompressor_consistent {encoding : String} {failure : CheckFailure}
    (failed : decompressorFor encoding = .error failure) : failure.Consistent := by
  unfold decompressorFor at failed
  repeat' split at failed
  all_goals cases failed
  exact target_failure_consistent _ (by decide)

theorem content_length_consistent {headers : Headers} {failure : CheckFailure}
    (failed : assertEncodedContentLength headers = .error failure) : failure.Consistent := by
  unfold assertEncodedContentLength at failed
  dsimp only at failed
  repeat' split at failed
  all_goals cases failed
  exact target_failure_consistent _ (by decide)

theorem mapped_consistent {Value : Type} {result : Except CheckFailure Value}
    (consistent : ∀ failure, result = .error failure → failure.Consistent) :
    ∀ error, result.mapError Rejection.failure = .error error → error.Consistent := by
  intro error failed
  cases result with
  | ok value => cases failed
  | error failure =>
      cases failed
      exact consistent failure rfl

def BodyStream.FailsWith (fair : Rejection → Prop) (body : BodyStream) : Prop :=
  ∀ error aborted, body.ending = .failed error aborted → fair error

theorem limit_encoded_consistent {reads : List BodyRead} {ending : BodyEnd}
    (consistent : ∀ error aborted, ending = .failed error aborted → error.Consistent)
    (bytesRead : Nat) : (limitEncoded bytesRead reads ending).FailsWith Rejection.Consistent := by
  induction reads generalizing bytesRead with
  | nil => exact consistent
  | cons read rest induction =>
      simp only [limitEncoded]
      split
      · intro error aborted failed
        cases failed
        exact target_failure_consistent _ (by decide)
      · exact induction _

theorem body_failure_consistent {error : Rejection} (consistent : error.Consistent)
    (aborted : Bool) : (bodyFailure error aborted).Consistent := by
  unfold bodyFailure
  split
  · exact consistent
  · split
    · trivial
    · exact target_failure_consistent _ (by decide)

theorem inspect_reads_consistent {decoder : TextDecoder} {keyword : List Nat}
    {reads : List BodyRead} {ending : BodyEnd}
    (consistent : ∀ error aborted, ending = .failed error aborted → error.Consistent)
    {loop : InspectionState decoder} {error : Rejection}
    (failed : inspectReads decoder keyword reads ending loop = .error error) :
    error.Consistent := by
  induction reads generalizing loop with
  | nil =>
      cases ending with
      | complete => cases failed
      | failed cause aborted =>
          cases failed
          exact body_failure_consistent (consistent cause aborted rfl) aborted
  | cons read rest induction =>
      simp only [inspectReads] at failed
      split at failed
      · cases failed
        have timeout : overallTimeout.Consistent := trivial
        exact body_failure_consistent timeout true
      · split at failed
        · cases failed
        · split at failed
          · cases failed
          · split at failed
            · cases failed
            · exact induction failed

section Dependencies

variable {World : Type} (clock : World → Time) (fair : Rejection → Prop)

/-- The clock does not go back, and a rejection is of this kind. -/
structure Effect.Behaves {Value : Type} (effect : Effect World Value) : Prop where
  forward : ∀ world, clock world ≤ clock (effect world).2
  fair : ∀ world error, (effect world).1 = .error error → fair error

structure TransportResponse.Behaves (response : TransportResponse World) : Prop where
  status : 100 ≤ response.statusCode ∧ response.statusCode ≤ 999
  read : ∀ world, clock world ≤ clock (response.body.read world).2
  body : ∀ world, (response.body.read world).1.FailsWith fair
  destroy : ∀ world, clock world ≤ clock (response.body.destroy world)
  close : response.close.Behaves clock fair

/-- The dependencies of a check: clocks go forward, the transport answers with status codes of
three digits, and what is thrown is of this kind. What the limiter rejects with becomes a
failure of the checker. -/
structure Environment.Behaves (env : Environment World) : Prop where
  now : ∀ world, clock world ≤ (env.now world).1 ∧ (env.now world).1 ≤ clock (env.now world).2
  monotonicNow : ∀ world, clock world ≤ clock (env.monotonicNow world).2
  resolve : ∀ hostname, (env.resolve hostname).Behaves clock fair
  acquire : ∀ acquire, env.acquire = some acquire → ∀ destination world,
    clock world ≤ clock (acquire destination world).2
  lease : ∀ acquire, env.acquire = some acquire → ∀ destination world lease,
    (acquire destination world).1 = .ok lease → ∀ later, clock later ≤ clock (lease.release later).2
  request : ∀ destination options, (env.request destination options).Behaves clock fair
  response : ∀ destination options world response,
    (env.request destination options world).1 = .ok response → response.Behaves clock fair
  decompress : ∀ decompressor body, body.FailsWith fair →
    (env.decompress decompressor body).FailsWith fair
  getCookie : ∀ jar url world error,
    (env.cookies.getCookieStringSync jar url world).1 = .error error → fair error
  setCookie : ∀ jar value url world error,
    (env.cookies.setCookieSync jar value url world).1 = .error error → fair error

end Dependencies

section Sessions

variable {World : Type} {env : Environment World} {clock : World → Time} {low : Time}
  {maxRedirects : Nat} {kept : Option Nat → Nat → Prop} {Value : Type}

def Reportable (maxRedirects : Nat) (code : Option Nat) (redirects : Nat) : Prop :=
  (∀ value, code = some value → 100 ≤ value ∧ value ≤ 999) ∧ redirects ≤ maxRedirects

/-- The clock has not gone back behind `low`, and the open response and the lease behave. `kept`
is what is known of the status code and the redirects. -/
structure Steady (clock : World → Time) (low : Time) (kept : Option Nat → Nat → Prop)
    (session : Session env) : Prop where
  time : low ≤ clock session.world
  known : kept session.statusCode session.redirects
  response : ∀ number response, session.response = some (number, response) →
    response.Behaves clock Rejection.Consistent
  lease : ∀ number lease, session.destinationLease = some (number, lease) →
    ∀ world, clock world ≤ clock (lease.release world).2

/-- How a program of the check may throw. -/
def Fails (clock : World → Time) (low : Time) (maxRedirects : Nat) (error : Rejection)
    (session : Session env) : Prop :=
  error.Consistent ∧ Steady clock low (Reportable maxRedirects) session

theorem Steady.weaken {session : Session env} {other : Option Nat → Nat → Prop}
    (steady : Steady clock low kept session)
    (implies : kept session.statusCode session.redirects →
      other session.statusCode session.redirects) : Steady clock low other session :=
  ⟨steady.time, implies steady.known, steady.response, steady.lease⟩

theorem Steady.moved {session : Session env} (steady : Steady clock low kept session)
    {world : World} (later : clock session.world ≤ clock world) :
    Steady clock low kept { session with world := world } :=
  ⟨le_trans steady.time later, steady.known, steady.response, steady.lease⟩

theorem perform_steady {effect : World → Value × World}
    (forward : ∀ world, clock world ≤ clock (effect world).2)
    (thrown : Rejection → Session env → Prop) :
    Triple (Steady clock low kept) (perform effect : Program env Value)
      (fun value session => (∃ world, (effect world).1 = value) ∧ Steady clock low kept session)
      thrown :=
  Triple.modify_get fun session steady => ⟨⟨session.world, rfl⟩, steady.moved (forward _)⟩

theorem record_steady (event : Event env.urls) (thrown : Rejection → Session env → Prop) :
    Triple (Steady clock low kept) (record event : Program env Unit)
      (fun _ => Steady clock low kept) thrown :=
  Triple.modify fun _ steady => ⟨steady.time, steady.known, steady.response, steady.lease⟩

theorem destroy_steady {response : TransportResponse World}
    (behaves : response.Behaves clock Rejection.Consistent)
    (thrown : Rejection → Session env → Prop) :
    Triple (Steady clock low kept) (destroyBody response : Program env Unit)
      (fun _ => Steady clock low kept) thrown :=
  Triple.modify fun _ steady => steady.moved (behaves.destroy _)

theorem close_response_steady {number : Nat} {response : TransportResponse World}
    (close : response.close.Behaves clock Rejection.Consistent)
    {thrown : Rejection → Session env → Prop} :
    Triple (Steady clock low kept)
      (closeResponse number response : Program env (Except Rejection Unit))
      (fun outcome session => (∃ world, (response.close world).1 = outcome) ∧
        Steady clock low kept session)
      thrown := by
  unfold closeResponse
  refine (perform_steady close.forward _).bind fun outcome => ?_
  refine Triple.of_fact fun answered => ?_
  apply Triple.returning
  exact (record_steady _ _).weaken (fun _ steady => steady)
    (fun _ _ steady => ⟨answered, steady⟩) fun _ _ fails => fails

variable (reportable : ∀ code redirects, kept code redirects →
  Reportable maxRedirects code redirects)

include reportable

theorem Steady.fails {session : Session env} (steady : Steady clock low kept session)
    {error : Rejection} (consistent : error.Consistent) :
    Fails clock low maxRedirects error session :=
  ⟨consistent, steady.weaken (reportable _ _)⟩

theorem or_throw_steady {result : Except Rejection Value}
    (consistent : ∀ error, result = .error error → error.Consistent) :
    Triple (Steady clock low kept) (orThrow result : Program env Value)
      (fun value session => result = .ok value ∧ Steady clock low kept session)
      (Fails clock low maxRedirects) :=
  Triple.or_throw (fun _ _ ok steady => ⟨ok, steady⟩)
    fun error _ failed steady => steady.fails reportable (consistent error failed)

theorem fail_if_steady {condition : Bool} {failure : CheckFailure}
    (consistent : failure.Consistent) :
    Triple (Steady clock low kept) (failIf condition (.failure failure) : Program env Unit)
      (fun _ => Steady clock low kept) (Fails clock low maxRedirects) :=
  Triple.fail_if (fun _ steady _ => steady.fails reportable consistent) fun _ steady _ => steady

theorem release_steady {lease : Option (Nat × DestinationLease World)}
    (forward : ∀ number held, lease = some (number, held) →
      ∀ world, clock world ≤ clock (held.release world).2) :
    Triple (Steady clock low kept) (releaseDestinationLease lease : Program env Unit)
      (fun _ => Steady clock low kept) (Fails clock low maxRedirects) := by
  unfold releaseDestinationLease
  match lease with
  | none => exact Triple.pure fun _ steady => steady
  | some (number, held) =>
      refine (perform_steady (forward number held rfl) _).bind fun outcome => ?_
      refine Triple.of_fact fun _ => ?_
      cases outcome with
      | ok => exact record_steady _ _
      | error error =>
          apply Triple.throwing
          refine (record_steady _ _).weaken (fun _ steady => steady) (fun _ _ steady => ?_)
            fun _ _ fails => fails
          exact steady.fails reportable (limiter_error_consistent _ error)

theorem close_steady :
    Triple (Steady clock low kept) (closeCurrent : Program env Unit)
      (fun _ => Steady clock low kept) (Fails clock low maxRedirects) := by
  unfold closeCurrent
  apply Triple.read
  intro current steady
  cases found : current.response with
  | none => exact Triple.pure fun _ holds => holds.1
  | some pair =>
      obtain ⟨number, response⟩ := pair
      have close := (steady.response number response found).close
      refine Triple.bind ((close_response_steady close).weaken (fun _ holds => holds.1)
        (fun _ _ steady => steady) fun _ _ fails => fails) fun outcome => ?_
      refine Triple.of_fact fun ⟨world, answered⟩ => ?_
      refine (or_throw_steady reportable fun error failed =>
        close.fair world error (answered.trans failed)).bind fun _ => ?_
      refine Triple.of_fact fun _ => ?_
      apply Triple.modify
      intro session steady
      exact ⟨steady.time, steady.known, by simp, steady.lease⟩

theorem disconnect_steady :
    Triple (Steady clock low kept) (disconnect : Program env Unit)
      (fun _ => Steady clock low kept) (Fails clock low maxRedirects) := by
  unfold disconnect
  refine (close_steady reportable).bind fun _ => ?_
  apply Triple.read
  intro current steady
  refine Triple.bind ((release_steady reportable steady.lease).weaken
    (fun _ holds => holds.1) (fun _ _ steady => steady) fun _ _ fails => fails) fun _ => ?_
  apply Triple.modify
  intro session steady
  exact ⟨steady.time, steady.known, steady.response, by simp⟩

end Sessions

section Turns

variable {World : Type} {env : Environment World} {clock : World → Time} {low : Time}
  {maxRedirects : Nat} {kept : Option Nat → Nat → Prop} {Value : Type}
  (behaves : env.Behaves clock Rejection.Consistent)
  (reportable : ∀ code redirects, kept code redirects → Reportable maxRedirects code redirects)

include behaves reportable

theorem resolve_steady (input : String) :
    Triple (Steady clock low kept)
      (resolveSafeDestination input : Program env (SafeDestination env.urls))
      (fun _ => Steady clock low kept) (Fails clock low maxRedirects) := by
  unfold resolveSafeDestination
  refine (or_throw_steady reportable
    (mapped_consistent fun _ => parse_monitor_url_consistent)).bind fun url => ?_
  refine Triple.of_fact fun _ => ?_
  have resolver := behaves.resolve (bareHostname (env.urls.hostname url))
  refine (perform_steady resolver.forward _).bind fun outcome => ?_
  refine Triple.of_fact fun ⟨world, answered⟩ => ?_
  refine (or_throw_steady reportable fun error failed =>
    resolver.fair world error (answered.trans failed)).bind fun addresses => ?_
  refine Triple.of_fact fun _ => ?_
  refine (fail_if_steady reportable (target_failure_consistent _ (by decide))).bind fun _ => ?_
  exact Triple.pure fun _ steady => steady

theorem enter_steady (destination : SafeDestination env.urls) :
    Triple (Steady clock low kept) (enterDestination destination : Program env String)
      (fun _ => Steady clock low kept) (Fails clock low maxRedirects) := by
  have cookies : Triple (Steady clock low kept)
      (modifyGet fun session : Session env =>
        let answer := env.cookies.getCookieStringSync session.cookies
          (env.urls.serialize destination.url) session.world
        (answer.1, { session with cookies := answer.2 }) :
          Program env (Except Rejection String))
      (fun outcome session => (∀ error, outcome = .error error → error.Consistent) ∧
        Steady clock low kept session)
      (Fails clock low maxRedirects) := by
    apply Triple.modify_get
    intro session steady
    exact ⟨behaves.getCookie _ _ _,
      steady.time, steady.known, steady.response, steady.lease⟩
  unfold enterDestination
  refine cookies.bind fun outcome => ?_
  refine Triple.of_fact fun consistent => ?_
  refine (or_throw_steady reportable consistent).bind fun cookie => ?_
  refine Triple.of_fact fun _ => ?_
  apply Triple.read
  intro current _
  have unseen : Triple (fun session => Steady clock low kept session ∧ session = current)
      (failIf ((env.urls.serialize destination.url, cookie) ∈ current.visited)
        (.failure (.redirectPolicyError "리다이렉트 순환이 감지되었습니다.")) : Program env Unit)
      (fun _ => Steady clock low kept) (Fails clock low maxRedirects) :=
    (fail_if_steady reportable (redirect_policy_consistent _)).weaken (fun _ holds => holds.1)
      (fun _ _ steady => steady) fun _ _ fails => fails
  refine unseen.bind fun _ => ?_
  apply Triple.returning
  apply Triple.modify
  intro session steady
  exact ⟨steady.time, steady.known, steady.response, steady.lease⟩

theorem protect_steady (destination : SafeDestination env.urls) :
    Triple (Steady clock low kept) (protectDestination destination : Program env Unit)
      (fun _ => Steady clock low kept) (Fails clock low maxRedirects) := by
  unfold protectDestination
  cases limiter : env.acquire with
  | none =>
      apply Triple.modify
      intro session steady
      exact ⟨steady.time, steady.known, steady.response, by simp⟩
  | some acquire =>
      unfold acquireDestinationLease
      refine (perform_steady (behaves.acquire acquire limiter destination) _).bind
        fun outcome => ?_
      refine Triple.of_fact fun ⟨world, answered⟩ => ?_
      cases outcome with
      | ok lease =>
          apply Triple.modify
          intro session steady
          refine ⟨steady.time, steady.known, steady.response, fun number held same => ?_⟩
          cases same
          exact behaves.lease acquire limiter destination world lease answered
      | error error =>
          apply Triple.throwing
          refine (record_steady _ _).weaken (fun _ steady => steady) (fun _ _ steady => ?_)
            fun _ _ fails => fails
          exact steady.fails reportable (limiter_error_consistent _ error)

def Answered (maxRedirects : Nat) (statusCode : Nat) (code : Option Nat) (redirects : Nat) : Prop :=
  code = some statusCode ∧ Reportable maxRedirects code redirects

theorem send_steady (config : NormalizedConfig) (startedTick : Rat)
    (destination : SafeDestination env.urls) (cookie : String) :
    Triple (Steady clock low kept)
      (sendRequest config startedTick destination cookie :
        Program env (TransportResponse World))
      (fun response session => response.Behaves clock Rejection.Consistent ∧
        Steady clock low (Answered maxRedirects response.statusCode) session)
      (Fails clock low maxRedirects) := by
  unfold sendRequest
  refine (perform_steady behaves.monotonicNow _).bind fun tick => ?_
  refine Triple.of_fact fun _ => ?_
  refine (record_steady _ _).bind fun _ => ?_
  have request := behaves.request destination
    (requestOptions config (tick - startedTick) cookie)
  refine (perform_steady request.forward _).bind fun outcome => ?_
  refine Triple.of_fact fun ⟨world, answered⟩ => ?_
  refine (or_throw_steady reportable fun error failed =>
    request.fair world error (answered.trans failed)).bind fun response => ?_
  refine Triple.of_fact fun received => ?_
  have response_behaves := behaves.response destination _ world response
    (answered.trans received)
  have opened : Triple (Steady clock low kept)
      (modify fun session => { session with
        log := session.log ++ [.responded session.responses]
        responses := session.responses + 1
        response := some (session.responses, response)
        statusCode := some response.statusCode } : Program env Unit)
      (fun _ => Steady clock low (Answered maxRedirects response.statusCode))
      (Fails clock low maxRedirects) := by
    apply Triple.modify
    intro session steady
    have before := reportable _ _ steady.known
    refine ⟨steady.time, ⟨rfl, fun value same => ?_, before.2⟩, fun number other same => ?_,
      steady.lease⟩
    · cases same
      exact response_behaves.status
    · cases same
      exact response_behaves
  have answered_reportable : ∀ code redirects,
      Answered maxRedirects response.statusCode code redirects →
        Reportable maxRedirects code redirects := fun _ _ answered => answered.2
  refine opened.bind fun _ => ?_
  refine (perform_steady behaves.monotonicNow _).bind fun tick => ?_
  refine Triple.of_fact fun _ => ?_
  have measured : Triple (Steady clock low (Answered maxRedirects response.statusCode))
      (modify fun session => { session with ttfbMs := some (roundedMs (tick - startedTick)) } :
        Program env Unit)
      (fun _ => Steady clock low (Answered maxRedirects response.statusCode))
      (Fails clock low maxRedirects) :=
    Triple.modify fun _ steady => ⟨steady.time, steady.known, steady.response, steady.lease⟩
  refine measured.bind fun _ => ?_
  refine (fail_if_steady answered_reportable
    (target_failure_consistent _ (by decide))).bind fun _ => ?_
  exact Triple.pure fun _ steady => ⟨response_behaves, steady⟩

theorem store_cookies_steady (canonical : String) (values : List String) :
    Triple (Steady clock low kept) (storeCookies canonical values : Program env Unit)
      (fun _ => Steady clock low kept) (Fails clock low maxRedirects) := by
  unfold storeCookies
  apply Triple.for_each
  intro value
  have cookies : Triple (Steady clock low kept)
      (modifyGet fun session : Session env =>
        let answer := env.cookies.setCookieSync session.cookies value canonical session.world
        (answer.1, { session with cookies := answer.2 }) : Program env (Except Rejection Unit))
      (fun outcome session => (∀ error, outcome = .error error → error.Consistent) ∧
        Steady clock low kept session)
      (Fails clock low maxRedirects) := by
    apply Triple.modify_get
    intro session steady
    exact ⟨behaves.setCookie _ _ _ _,
      steady.time, steady.known, steady.response, steady.lease⟩
  refine cookies.bind fun outcome => ?_
  refine Triple.of_fact fun consistent => ?_
  exact (or_throw_steady reportable consistent).weaken (fun _ steady => steady)
    (fun _ _ steady => steady.2) fun _ _ fails => fails

omit reportable in
/-- A redirect is followed only while there is room for one more. -/
theorem follow_steady (config : NormalizedConfig) (destination : SafeDestination env.urls)
    {response : TransportResponse World}
    (answers : response.Behaves clock Rejection.Consistent) (location : String) :
    Triple (Steady clock low (Reportable config.maxRedirects))
      (followRedirect config destination response location : Program env Unit)
      (fun _ => Steady clock low (Reportable config.maxRedirects))
      (Fails clock low config.maxRedirects) := by
  let room (code : Option Nat) (redirects : Nat) : Prop :=
    Reportable config.maxRedirects code redirects ∧ redirects < config.maxRedirects
  have reportable : ∀ code redirects, room code redirects →
      Reportable config.maxRedirects code redirects := fun _ _ known => known.1
  unfold followRedirect
  apply Triple.read
  intro current _
  have allowed : Triple
      (fun session => Steady clock low (Reportable config.maxRedirects) session ∧
        session = current)
      (failIf (config.maxRedirects ≤ current.redirects)
        (.failure (.redirectPolicyError "허용된 리다이렉트 횟수를 초과했습니다.")) :
        Program env Unit)
      (fun _ => Steady clock low room) (Fails clock low config.maxRedirects) := by
    apply Triple.fail_if
    · intro session holds _
      exact holds.1.fails (fun _ _ known => known) (redirect_policy_consistent _)
    · rintro session ⟨steady, rfl⟩ within
      exact steady.weaken fun known => ⟨known, Nat.lt_of_not_le (of_decide_eq_false within)⟩
  refine allowed.bind fun _ => ?_
  refine (or_throw_steady reportable ?_).bind fun next => ?_
  · intro error failed
    split at failed
    · cases failed
    · cases failed
      exact redirect_policy_consistent _
  refine Triple.of_fact fun _ => ?_
  refine (store_cookies_steady behaves reportable _ _).bind fun _ => ?_
  refine (destroy_steady answers _).bind fun _ => ?_
  refine (disconnect_steady reportable).bind fun _ => ?_
  apply Triple.modify
  intro session steady
  exact ⟨steady.time, ⟨steady.known.1.1, steady.known.2⟩, steady.response, steady.lease⟩

theorem inspect_steady {response : TransportResponse World}
    (answers : response.Behaves clock Rejection.Consistent)
    (keyword : String) :
    Triple (Steady clock low kept) (inspectKeyword response keyword : Program env Inspection)
      (fun _ => Steady clock low kept) (Fails clock low maxRedirects) := by
  unfold inspectKeyword
  refine (or_throw_steady reportable
    (mapped_consistent fun _ failed => content_length_consistent failed)).bind fun _ => ?_
  refine Triple.of_fact fun _ => ?_
  refine (or_throw_steady reportable
    (mapped_consistent fun _ failed => decompressor_consistent failed)).bind
      fun decompressor => ?_
  refine Triple.of_fact fun _ => ?_
  refine (perform_steady answers.read _).bind fun source => ?_
  refine Triple.of_fact fun ⟨world, read⟩ => ?_
  refine (destroy_steady answers _).bind fun _ => ?_
  have consistent : source.FailsWith Rejection.Consistent := read ▸ answers.body world
  have decoded : (decodedBody env.decompress decompressor source).FailsWith
      Rejection.Consistent := by
    unfold decodedBody
    split
    · exact consistent
    · exact behaves.decompress _ _ (limit_encoded_consistent consistent 0)
  exact (or_throw_steady reportable fun error failed =>
    inspect_reads_consistent decoded failed).weaken (fun _ steady => steady)
    (fun _ _ steady => steady.2) fun _ _ fails => fails

theorem check_keyword_steady (config : NormalizedConfig) {response : TransportResponse World}
    (answers : response.Behaves clock Rejection.Consistent) :
    Triple (Steady clock low kept) (checkKeyword config response : Program env Unit)
      (fun _ => Steady clock low kept) (Fails clock low maxRedirects) := by
  unfold checkKeyword
  split
  · exact destroy_steady answers _
  · refine (inspect_steady behaves reportable answers _).bind fun inspection => ?_
    have counted : Triple (Steady clock low kept)
        (modify fun session => { session with inspectedBodyBytes := inspection.inspected } :
          Program env Unit)
        (fun _ => Steady clock low kept) (Fails clock low maxRedirects) :=
      Triple.modify fun _ steady => ⟨steady.time, steady.known, steady.response, steady.lease⟩
    exact counted.bind fun _ =>
      fail_if_steady reportable (target_failure_consistent _ (by decide))

end Turns

section Results

variable {World : Type} {env : Environment World} {clock : World → Time} {low startedAt : Time}
  {config : NormalizedConfig} {kept : Option Nat → Nat → Prop} {range : Option (Nat × Nat)}
  (behaves : env.Behaves clock Rejection.Consistent)

include behaves

theorem now_steady (thrown : Rejection → Session env → Prop) :
    Triple (Steady clock low kept) (perform env.now : Program env Time)
      (fun finishedAt session => low ≤ finishedAt ∧ Steady clock low kept session) thrown := by
  apply Triple.modify_get
  intro session steady
  obtain ⟨after, later⟩ := behaves.now session.world
  exact ⟨le_trans steady.time after, steady.moved (le_trans after later)⟩

variable (started : startedAt ≤ low)

include started

theorem result_from_failure_recordable {maxRedirects : Nat} (few : maxRedirects ≤ 5)
    {failure : CheckFailure} (consistent : failure.Consistent) (startedTick : Rat) :
    Triple (Steady clock low (Reportable maxRedirects))
      (resultFromFailure failure config startedAt startedTick : Program env MonitorCheckResult)
      (fun result session => result.Recordable range ∧
        Steady clock low (Reportable maxRedirects) session)
      Never := by
  unfold resultFromFailure
  refine (now_steady behaves _).bind fun finishedAt => ?_
  refine Triple.of_fact fun finished => ?_
  refine (perform_steady behaves.monotonicNow _).bind fun tick => ?_
  refine Triple.of_fact fun _ => ?_
  apply Triple.read
  intro current _
  apply Triple.pure
  rintro session ⟨steady, rfl⟩
  refine ⟨?_, steady⟩
  exact
    { finished := le_trans started finished
      status := steady.known.1
      redirects := le_trans steady.known.2 few
      success := fun success => absurd success consistent.success
      target := fun target => ⟨failure.errorType, rfl, consistent.target target⟩
      platform := by simpa using consistent.platform }

variable (few : config.maxRedirects ≤ 5)

include few

theorem accept_recordable (startedTick : Rat) {response : TransportResponse World}
    (answers : response.Behaves clock Rejection.Consistent) :
    Triple (Steady clock low (Answered config.maxRedirects response.statusCode))
      (acceptResponse config startedAt startedTick response : Program env MonitorCheckResult)
      (fun result session =>
        result.Recordable (some (config.expectedStatusMin, config.expectedStatusMax)) ∧
          Steady clock low (Reportable config.maxRedirects) session)
      (Fails clock low config.maxRedirects) := by
  have reportable : ∀ code redirects,
      Answered config.maxRedirects response.statusCode code redirects →
        Reportable config.maxRedirects code redirects := fun _ _ answered => answered.2
  unfold acceptResponse
  have expected : Triple (Steady clock low (Answered config.maxRedirects response.statusCode))
      (failIf (response.statusCode < config.expectedStatusMin ||
          config.expectedStatusMax < response.statusCode)
        (.failure (.checkFailure .targetFailure .httpStatusMismatch
          s!"기대 범위를 벗어난 HTTP 상태 코드({response.statusCode})를 받았습니다.")) :
        Program env Unit)
      (fun _ session => (config.expectedStatusMin ≤ response.statusCode ∧
          response.statusCode ≤ config.expectedStatusMax) ∧
        Steady clock low (Answered config.maxRedirects response.statusCode) session)
      (Fails clock low config.maxRedirects) := by
    apply Triple.fail_if
    · intro session steady _
      exact steady.fails reportable (target_failure_consistent _ (by decide))
    · intro session steady within
      simp only [Bool.or_eq_false_iff, decide_eq_false_iff_not, Nat.not_lt] at within
      exact ⟨within, steady⟩
  refine expected.bind fun _ => ?_
  refine Triple.of_fact fun within => ?_
  refine (check_keyword_steady behaves reportable config answers).bind fun _ => ?_
  refine (disconnect_steady reportable).bind fun _ => ?_
  refine (now_steady behaves _).bind fun finishedAt => ?_
  refine Triple.of_fact fun finished => ?_
  refine (perform_steady behaves.monotonicNow _).bind fun tick => ?_
  refine Triple.of_fact fun _ => ?_
  apply Triple.read
  intro current _
  apply Triple.pure
  rintro session ⟨steady, rfl⟩
  refine ⟨?_, steady.weaken fun known => known.2⟩
  exact
    { finished := le_trans started finished
      status := steady.known.2.1
      redirects := le_trans steady.known.2.2 few
      success := fun _ => ⟨rfl, _, _, _, rfl, steady.known.1, within.1, within.2⟩
      target := by simp
      platform := by simp }

theorem hop_recordable (startedTick : Rat) :
    Triple (Steady clock low (Reportable config.maxRedirects))
      (hop config startedAt startedTick : Program env (Option MonitorCheckResult))
      (fun result session => result.elim (Steady clock low (Reportable config.maxRedirects) session)
        fun value =>
          value.Recordable (some (config.expectedStatusMin, config.expectedStatusMax)) ∧
            Steady clock low (Reportable config.maxRedirects) session)
      (Fails clock low config.maxRedirects) := by
  have reportable : ∀ code redirects, Reportable config.maxRedirects code redirects →
      Reportable config.maxRedirects code redirects := fun _ _ known => known
  unfold hop
  apply Triple.read
  intro current _
  refine Triple.bind ((resolve_steady behaves reportable _).weaken (fun _ holds => holds.1)
    (fun _ _ steady => steady) fun _ _ fails => fails) fun destination => ?_
  refine (enter_steady behaves reportable destination).bind fun cookie => ?_
  refine (protect_steady behaves reportable destination).bind fun _ => ?_
  refine (send_steady behaves reportable config startedTick destination cookie).bind
    fun response => ?_
  refine Triple.of_fact fun answers => ?_
  split
  · refine Triple.bind ((follow_steady behaves config destination answers _).weaken
      (fun _ steady => steady.weaken fun known => known.2) (fun _ _ steady => steady)
      fun _ _ fails => fails) fun _ => ?_
    exact Triple.pure fun _ steady => steady
  · refine (accept_recordable behaves started few startedTick answers).bind fun result => ?_
    exact Triple.pure fun _ recordable => recordable

end Results

section CleanUp

variable {World : Type} {env : Environment World} {clock : World → Time} {low startedAt : Time}
  {config : NormalizedConfig} {kept : Option Nat → Nat → Prop} {range : Option (Nat × Nat)}

theorem close_quietly_steady :
    Triple (Steady clock low kept) (closeQuietly : Program env Unit)
      (fun _ => Steady clock low kept) Never := by
  unfold closeQuietly
  apply Triple.read
  intro current steady
  cases found : current.response with
  | none => exact Triple.pure fun _ holds => holds.1
  | some pair =>
      obtain ⟨number, response⟩ := pair
      have answers := steady.response number response found
      refine Triple.bind ((destroy_steady answers _).weaken (fun _ holds => holds.1)
        (fun _ _ steady => steady) fun _ _ never => never) fun _ => ?_
      refine (close_response_steady answers.close).bind fun _ => ?_
      exact Triple.pure fun _ steady => steady.2

theorem release_quietly_steady :
    Triple (Steady clock low kept) (releaseQuietly : Program env Unit)
      (fun _ => Steady clock low kept) Never := by
  unfold releaseQuietly
  apply Triple.read
  intro current steady
  cases found : current.destinationLease with
  | none => exact Triple.pure fun _ holds => holds.1
  | some pair =>
      obtain ⟨number, lease⟩ := pair
      refine Triple.bind ((perform_steady (steady.lease number lease found) _).weaken
        (fun _ holds => holds.1) (fun _ _ steady => steady) fun _ _ never => never)
        fun outcome => ?_
      exact Triple.of_fact fun _ => record_steady _ _

theorem clean_up_steady :
    Triple (Steady clock low kept) (cleanUp : Program env Unit)
      (fun _ => Steady clock low kept) Never :=
  close_quietly_steady.bind fun _ => release_quietly_steady

theorem supersede_steady {maxRedirects : Nat} {error : Rejection}
    (consistent : error.Consistent) :
    Triple (Steady clock low (Reportable maxRedirects))
      (supersedeError error : Program env Rejection)
      (fun effective session =>
        effective.Consistent ∧ Steady clock low (Reportable maxRedirects) session)
      Never := by
  unfold supersedeError
  apply Triple.read
  intro current steady
  cases found : current.destinationLease with
  | none => exact Triple.pure fun _ holds => ⟨consistent, holds.1⟩
  | some lease =>
      have released : Triple
          (fun session => Steady clock low (Reportable maxRedirects) session ∧
            session = current)
          (releaseDestinationLease (some lease) : Program env Unit)
          (fun _ => Steady clock low (Reportable maxRedirects))
          (Fails clock low maxRedirects) :=
        (release_steady (fun _ _ known => known) fun number held same =>
          steady.lease number held (found.trans same)).weaken (fun _ holds => holds.1)
          (fun _ _ steady => steady) fun _ _ fails => fails
      have superseded : Triple
          (fun session => Steady clock low (Reportable maxRedirects) session ∧
            session = current)
          (tryCatch
            (do
              releaseDestinationLease (some lease)
              pure error)
            fun releaseError => pure releaseError : Program env Rejection)
          (Fails clock low maxRedirects) Never := by
        refine Triple.tryCatch (released.bind fun _ => ?_) fun releaseError => ?_
        · exact Triple.pure fun _ steady => ⟨consistent, steady⟩
        · exact Triple.pure fun _ fails => fails
      refine superseded.bind fun effective => ?_
      apply Triple.returning
      apply Triple.modify
      rintro session ⟨consistent, steady⟩
      exact ⟨consistent, steady.time, steady.known, steady.response, by simp⟩

variable (behaves : env.Behaves clock Rejection.Consistent) (started : startedAt ≤ low)
  (few : config.maxRedirects ≤ 5)

include behaves started few

theorem failed_result_recordable (startedTick : Rat) (error : Rejection) :
    Triple (Fails clock low config.maxRedirects error)
      (failedResult config startedAt startedTick error : Program env MonitorCheckResult)
      (fun result session => result.Recordable range ∧
        Steady clock low (Reportable config.maxRedirects) session)
      Never := by
  refine Triple.of_fact fun consistent => ?_
  unfold failedResult
  refine close_quietly_steady.bind fun _ => ?_
  have cleared : Triple (Steady clock low (Reportable config.maxRedirects))
      (modify fun session => { session with response := none } : Program env Unit)
      (fun _ => Steady clock low (Reportable config.maxRedirects)) Never :=
    Triple.modify fun _ steady => ⟨steady.time, steady.known, by simp, steady.lease⟩
  refine cleared.bind fun _ => ?_
  refine (supersede_steady consistent).bind fun effective => ?_
  refine Triple.of_fact fun consistent => ?_
  apply Triple.read
  intro current _
  have reported := classify_consistent
    (policy_error_consistent consistent current.redirects) (env.aborted current.world)
  exact (result_from_failure_recordable behaves started few reported startedTick).weaken
    (fun _ holds => holds.1) (fun _ _ recordable => recordable) fun _ _ never => never

end CleanUp

/-- The status codes that are expected, if the request says so correctly. -/
def MonitorCheckConfig.expectedRange (input : MonitorCheckConfig) : Option (Nat × Nat) :=
  statusRange (input.expectedStatusMin.getD (.integer 200))
    (input.expectedStatusMax.getD (.integer 299))

theorem within_few {numeral : Numeral} {low high value : Nat}
    (within : numeral.within low high = some value) : value ≤ high := by
  unfold Numeral.within at within
  split at within
  · split at within
    · cases within
      omega
    · cases within
  · cases within

/-- While its dependencies behave, every result of `checkUrl` may be recorded. -/
theorem check_url_recordable {World : Type} {env : Environment World} {clock : World → Time}
    (behaves : env.Behaves clock Rejection.Consistent) (world : World)
    (input : MonitorCheckConfig) :
    ∃ result session, checkUrl input (Session.start env world input.url) = .ok result session ∧
      result.Recordable input.expectedRange := by
  have checked : Triple (Steady clock (clock world) (Reportable 0))
      (checkUrl input : Program env MonitorCheckResult)
      (fun result _ => result.Recordable input.expectedRange) Never := by
    unfold checkUrl
    have start : Triple (Steady clock (clock world) (Reportable 0))
        (perform env.now : Program env Time)
        (fun startedAt => Steady clock startedAt (Reportable 0)) Never := by
      apply Triple.modify_get
      intro session steady
      obtain ⟨after, later⟩ := behaves.now session.world
      exact ⟨later, steady.known, steady.response, steady.lease⟩
    refine start.bind fun startedAt => ?_
    refine (perform_steady behaves.monotonicNow _).bind fun startedTick => ?_
    refine Triple.of_fact fun _ => ?_
    cases normalized : normalizeConfig input with
    | error failure =>
        exact (result_from_failure_recordable behaves (le_refl startedAt) (Nat.zero_le 5)
          (normalize_config_consistent normalized) startedTick).weaken (fun _ steady => steady)
          (fun _ _ recordable => recordable.1) fun _ _ never => never
    | ok config =>
        obtain ⟨range, redirects⟩ := normalize_config_ok normalized
        have few := within_few redirects
        have expected : input.expectedRange =
          some (config.expectedStatusMin, config.expectedStatusMax) := range
        rw [expected]
        have looped : Triple (Steady clock startedAt (Reportable 0))
            (checkLoop config startedAt startedTick : Program env MonitorCheckResult)
            (fun result session =>
              result.Recordable (some (config.expectedStatusMin, config.expectedStatusMax)) ∧
                Steady clock startedAt (Reportable config.maxRedirects) session)
            (Fails clock startedAt config.maxRedirects) :=
          (Triple.until_result
            (hop_recordable behaves (le_refl startedAt) few startedTick)).weaken
            (fun _ steady => steady.weaken fun known => ⟨known.1, le_trans known.2 (Nat.zero_le _)⟩)
            (fun _ _ recordable => recordable) fun _ _ fails => fails
        have caught := looped.tryCatch
          (failed_result_recordable behaves (le_refl startedAt) few startedTick)
        have finished := caught.try_finally (fun result => Triple.of_fact fun recordable =>
            clean_up_steady.weaken (fun _ steady => steady)
              (fun _ _ _ => recordable) fun _ _ never => never)
          fun _ => ⟨fun _ impossible => impossible.elim⟩
        exact finished
  refine checked.returns ⟨le_refl _, ⟨?_, le_refl 0⟩, ?_, ?_⟩
  all_goals simp [Session.start]

end Monitoring

end LinkAlive
