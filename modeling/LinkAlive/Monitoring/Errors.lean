import LinkAlive.Domain.Types

/-!
# Failures of a check

`packages/monitoring/src/errors.ts` and the classification of every other thrown value in
`checker.ts`. A failure keeps neither the thrown value nor its message.
-/

namespace LinkAlive.Monitoring

set_option autoImplicit false

/-- `CheckFailure` and its three subclasses. -/
inductive CheckFailure where
  | checkFailure (outcome : CheckOutcome) (errorType : CheckErrorType) (safeMessage : String)
  | urlPolicyError (safeMessage : String)
  | redirectPolicyError (safeMessage : String)
  | destinationLimiterError (safeMessage : String)
deriving DecidableEq, Repr

namespace CheckFailure

def outcome : CheckFailure → CheckOutcome
  | .checkFailure outcome _ _ => outcome
  | .urlPolicyError _ => .inconclusive
  | .redirectPolicyError _ => .targetFailure
  | .destinationLimiterError _ => .platformError

def errorType : CheckFailure → CheckErrorType
  | .checkFailure _ errorType _ => errorType
  | .urlPolicyError _ => .dnsError
  | .redirectPolicyError _ => .redirectError
  | .destinationLimiterError _ => .platformError

def safeMessage : CheckFailure → String
  | .checkFailure _ _ safeMessage | .urlPolicyError safeMessage
  | .redirectPolicyError safeMessage | .destinationLimiterError safeMessage => safeMessage

end CheckFailure

/-- The classes of `undici` errors that the classification asks for. -/
inductive ErrorClass | headersTimeout | connectTimeout | other
deriving DecidableEq, Repr

/-- What is thrown, or what a promise is rejected with: a failure of the checker or any other
value, with the `code` of it and of its chain of causes as long as these are objects. -/
inductive Rejection where
  | failure (failure : CheckFailure)
  | unknown (errorClass : ErrorClass) (codes : List (Option String))
deriving DecidableEq, Repr

def Rejection.IsLimiterError : Rejection → Prop
  | .failure (.destinationLimiterError _) => True
  | _ => False

def nestedErrorCode (codes : List (Option String)) : Option String := (codes.take 5).findSome? id

def tlsErrorCodes : List String :=
  ["CERT_HAS_EXPIRED", "CERT_NOT_YET_VALID", "DEPTH_ZERO_SELF_SIGNED_CERT",
    "SELF_SIGNED_CERT_IN_CHAIN", "UNABLE_TO_GET_ISSUER_CERT", "UNABLE_TO_VERIFY_LEAF_SIGNATURE"]

def networkErrorCodes : List String :=
  ["UND_ERR_SOCKET", "ECONNRESET", "ECONNABORTED", "EHOSTUNREACH", "ENETUNREACH", "ENETDOWN",
    "EPIPE"]

def isTlsErrorCode (code : String) : Bool :=
  "ERR_TLS".toList.isPrefixOf code.toList || "ERR_SSL".toList.isPrefixOf code.toList ||
    code ∈ tlsErrorCodes

def classifyUnknownError (error : Rejection) (aborted : Bool) : CheckFailure :=
  match error with
  | .failure failure => failure
  | .unknown errorClass codes =>
      let code := nestedErrorCode codes
      if aborted ∨ code = some "ABORT_ERR" then
        .checkFailure .targetFailure .requestTimeout "전체 요청 제한 시간이 초과되었습니다."
      else if errorClass = .headersTimeout ∨ code = some "UND_ERR_HEADERS_TIMEOUT" then
        .checkFailure .targetFailure .ttfbTimeout "첫 응답 바이트 제한 시간이 초과되었습니다."
      else if errorClass = .connectTimeout ∨ code = some "UND_ERR_CONNECT_TIMEOUT" ∨
          code = some "ETIMEDOUT" then
        .checkFailure .targetFailure .connectTimeout "대상 서버 연결 시간이 초과되었습니다."
      else if code = some "ECONNREFUSED" then
        .checkFailure .targetFailure .connectionRefused "대상 서버가 연결을 거절했습니다."
      else if code.any isTlsErrorCode then
        .checkFailure .targetFailure .tlsError "TLS 연결 또는 인증서 검증에 실패했습니다."
      else if code = some "UND_ERR_HEADERS_OVERFLOW" ∨ code = some "HPE_HEADER_OVERFLOW" then
        .checkFailure .targetFailure .responseLimitExceeded "응답 헤더 크기 제한을 초과했습니다."
      else if code = some "UND_ERR_BODY_TIMEOUT" then
        .checkFailure .targetFailure .requestTimeout
          "응답 본문 처리 제한 시간이 초과되었습니다."
      else if code.any fun code => code ∈ networkErrorCodes then
        .checkFailure .targetFailure .networkError "대상 서버와의 네트워크 요청에 실패했습니다."
      else
        .checkFailure .platformError .platformError "검사 처리 중 내부 오류가 발생했습니다."

theorem classify_limiter_error {error : Rejection} (limiter : error.IsLimiterError)
    (aborted : Bool) : (classifyUnknownError error aborted).outcome = .platformError := by
  unfold Rejection.IsLimiterError at limiter
  split at limiter
  · rfl
  · exact limiter.elim

/-- A failure of another value names either the target or the platform, each with error types
of its own. -/
theorem classify_unknown (errorClass : ErrorClass) (codes : List (Option String))
    (aborted : Bool) :
    let failure := classifyUnknownError (.unknown errorClass codes) aborted
    failure.outcome = .targetFailure ∧ failure.errorType ≠ .platformError ∨
      failure.outcome = .platformError ∧ failure.errorType = .platformError := by
  simp only [classifyUnknownError]
  repeat' split
  all_goals simp [CheckFailure.outcome, CheckFailure.errorType]

end LinkAlive.Monitoring
