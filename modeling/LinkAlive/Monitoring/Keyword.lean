import LinkAlive.Foundation.Texts
import Mathlib.Data.List.Infix
import LinkAlive.Monitoring.Errors
import LinkAlive.Monitoring.Types

/-!
# The keyword in a response body

`inspectKeyword` of `packages/monitoring/src/checker.ts` and what it calls. A body is what its
iterator delivers: some chunks and then an end. The check's own timer aborts a body that
would never end, so the chunks are finitely many. The decompressors of `zlib` and the
`TextDecoder` are parameters.
-/

namespace LinkAlive.Monitoring

set_option autoImplicit false

def maxBodyBytes : Nat := 65536

def maxEncodedBodyBytes : Nat := 262144

/-- A chunk, and whether the signal was aborted when it came. -/
structure BodyRead where
  bytes : List UInt8
  aborted : Bool
deriving DecidableEq, Repr

inductive BodyEnd where
  | complete
  | failed (error : Rejection) (aborted : Bool)
deriving DecidableEq, Repr

structure BodyStream where
  reads : List BodyRead
  ending : BodyEnd
deriving DecidableEq, Repr

inductive Decompressor | gunzip | inflate | brotli
deriving DecidableEq, Repr

/-- A decoder of UTF-8 that replaces what is malformed; with the flag it keeps an unfinished
character for the next call. -/
structure TextDecoder where
  State : Type
  fresh : State
  decode : State → List UInt8 → Bool → List Nat × State

def contentEncoding (headers : Headers) : String :=
  lowerText (trimText ((firstHeader headers "content-encoding").getD ""))

def decompressorFor (encoding : String) : Except CheckFailure (Option Decompressor) :=
  if encoding = "" ∨ encoding = "identity" then .ok none
  else if encoding = "gzip" ∨ encoding = "x-gzip" then .ok (some .gunzip)
  else if encoding = "deflate" then .ok (some .inflate)
  else if encoding = "br" then .ok (some .brotli)
  else
    .error (.checkFailure .targetFailure .networkError "지원하지 않는 응답 압축 형식입니다.")

def encodedLimitExceeded : CheckFailure :=
  .checkFailure .targetFailure .responseLimitExceeded "압축 응답의 전송 크기 제한을 초과했습니다."

/-- `BigInt` of decimal digits. -/
def decimalValue (digits : List Char) : Nat :=
  digits.foldl (fun value digit => 10 * value + (digit.toNat - '0'.toNat)) 0

/-- `assertEncodedContentLength`, which is called for the encodings that are decompressed. -/
def assertEncodedContentLength (headers : Headers) : Except CheckFailure Unit :=
  let raw := (trimText ((firstHeader headers "content-length").getD "")).toList
  if contentEncoding headers ∉ ["gzip", "x-gzip", "deflate", "br"] then .ok ()
  else if raw = [] ∨ !raw.all Char.isDigit then .ok ()
  else if maxEncodedBodyBytes < decimalValue raw then .error encodedLimitExceeded
  else .ok ()

/-- `EncodedBodyLimitTransform`: the stream fails at the chunk that exceeds the limit. -/
def limitEncoded (bytesRead : Nat) : List BodyRead → BodyEnd → BodyStream
  | [], ending => ⟨[], ending⟩
  | read :: rest, ending =>
      let bytesRead := bytesRead + read.bytes.length
      if maxEncodedBodyBytes < bytesRead then
        ⟨[], .failed (.failure encodedLimitExceeded) read.aborted⟩
      else
        let limited := limitEncoded bytesRead rest ending
        { limited with reads := read :: limited.reads }

/-- `decoded`: the source, or what is left of it behind the limiter and the decompressor. -/
def decodedBody (decompress : Decompressor → BodyStream → BodyStream)
    (decompressor : Option Decompressor) (source : BodyStream) : BodyStream :=
  match decompressor with
  | none => source
  | some decompressor => decompress decompressor (limitEncoded 0 source.reads source.ending)

def includes (text keyword : List Nat) : Bool := decide (keyword <:+: text)

/-- `text.slice(-count)`; a slice from `-0` is the whole text. -/
def lastUnits (count : Nat) (text : List Nat) : List Nat :=
  if count = 0 then text else text.drop (text.length - count)

/-- The reason with which the timer aborts the signal. -/
def overallTimeout : Rejection := .unknown .other []

/-- What the `catch` clause of the inspection throws. -/
def bodyFailure (error : Rejection) (aborted : Bool) : Rejection :=
  match error with
  | .failure failure => .failure failure
  | .unknown errorClass codes =>
      if aborted then .unknown errorClass codes
      else
        .failure (.checkFailure .targetFailure .networkError
          "응답 본문을 안전하게 처리할 수 없습니다.")

/-- The variables of the inspection's loop. -/
structure InspectionState (decoder : TextDecoder) where
  inspected : Nat
  overlap : List Nat
  state : decoder.State

/-- Whether the keyword was found, and how many bytes were inspected. -/
structure Inspection where
  found : Bool
  inspected : Nat
deriving DecidableEq, Repr

section Loop

variable (decoder : TextDecoder) (keyword : List Nat)

def inspectTail (loop : InspectionState decoder) : Inspection :=
  let tail := loop.overlap ++ (decoder.decode loop.state [] false).1
  ⟨includes tail keyword, loop.inspected⟩

def inspectReads : List BodyRead → BodyEnd → InspectionState decoder → Except Rejection Inspection
  | [], .complete, loop => .ok (inspectTail decoder keyword loop)
  | [], .failed error aborted, _ => .error (bodyFailure error aborted)
  | read :: rest, ending, loop =>
      if read.aborted then .error (bodyFailure overallTimeout true)
      else if maxBodyBytes ≤ loop.inspected then .ok (inspectTail decoder keyword loop)
      else
        let bounded := read.bytes.take (maxBodyBytes - loop.inspected)
        let inspected := loop.inspected + bounded.length
        let (decoded, state) :=
          decoder.decode loop.state bounded (decide (inspected < maxBodyBytes))
        let text := loop.overlap ++ decoded
        if includes text keyword then .ok ⟨true, inspected⟩
        else
          let next := ⟨inspected, lastUnits (keyword.length - 1) text, state⟩
          if bounded.length < read.bytes.length ∨ maxBodyBytes ≤ inspected then
            .ok (inspectTail decoder keyword next)
          else inspectReads rest ending next

def inspectBody (body : BodyStream) : Except Rejection Inspection :=
  inspectReads decoder keyword body.reads body.ending ⟨0, [], decoder.fresh⟩

end Loop

end LinkAlive.Monitoring
