import LinkAlive.Domain.Types

/-!
# Requests and results of a check

The interfaces of `packages/monitoring/src/types.ts`. What a dependency answers is data here;
what it does is in the environment of a check.
-/

namespace LinkAlive

set_option autoImplicit false

/-- The outcome of one HTTP check, as far as it is recorded. -/
structure MonitorCheckResult where
  outcome : CheckOutcome
  startedAt : Time
  finishedAt : Time
  statusCode : Option Nat
  ttfbMs : Option Nat
  totalMs : Nat
  errorType : Option CheckErrorType
  errorMessageSafe : Option String
  redirectCount : Nat
  inspectedBodyBytes : Nat
deriving DecidableEq, Repr

namespace Monitoring

/-- A number: an integer or any other, `NaN` and the infinities included. -/
inductive Numeral where
  | integer (value : Int)
  | other
deriving DecidableEq, Repr

def Numeral.within (low high : Nat) : Numeral → Option Nat
  | .integer value => if (low : Int) ≤ value ∧ value ≤ high then some value.toNat else none
  | .other => none

structure MonitorCheckConfig where
  url : String
  method : Option String
  timeoutMs : Option Numeral
  expectedStatusMin : Option Numeral
  expectedStatusMax : Option Numeral
  expectedKeyword : Option String
  followRedirects : Option Bool
  maxRedirects : Option Numeral
  source : Option CheckSource
  configVersion : Option Numeral
deriving DecidableEq, Repr

structure MonitorCheckResult extends LinkAlive.MonitorCheckResult where
  source : CheckSource
  configVersion : Option Numeral
  finalUrlDisplay : String
deriving DecidableEq, Repr

inductive AddressFamily | ipv4 | ipv6
deriving DecidableEq, Repr

structure ResolvedAddress where
  address : String
  family : AddressFamily
deriving DecidableEq, Repr

inductive HeaderValue where
  | single (value : String)
  | several (values : List String)
  | undefined
deriving DecidableEq, Repr

abbrev Headers := List (String × HeaderValue)

/-- `headers[name]`, for a name in lower case. -/
def firstHeader (headers : Headers) (name : String) : Option String :=
  match headers.lookup name with
  | some (.single value) => some value
  | some (.several values) => values.head?
  | some .undefined | none => none

def setCookieValues (headers : Headers) : List String :=
  match headers.lookup "set-cookie" with
  | some (.single value) => if value = "" then [] else [value]
  | some (.several values) => values
  | some .undefined | none => []

/-- The bytes of the lines that one header stands for, each with its colon, blank and line
end. -/
def headerBytes (name : String) (value : HeaderValue) : Nat :=
  let line (item : String) : Nat := name.utf8ByteSize + item.utf8ByteSize + 4
  match value with
  | .single value => line value
  | .several values => values.foldl (fun sum item => sum + line item) 0
  | .undefined => line ""

def approximateHeaderBytes (headers : Headers) : Nat :=
  headers.foldl (fun total header => total + headerBytes header.1 header.2) 2

end Monitoring

end LinkAlive
