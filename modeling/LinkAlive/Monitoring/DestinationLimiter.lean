import LinkAlive.Foundation.Keyspace
import LinkAlive.Foundation.Transition

/-!
# The distributed destination limiter

The two Lua scripts of `packages/monitoring/src/destination-limiter.ts`. A script
runs atomically and reads one clock. A subject owns two keys, its active key (a
sorted set of tokens scored by the end of their leases) and its rate key (a
counter); the suffixes `:active` and `:rate` keep the two apart, so each kind has
a keyspace of its own, addressed by the subject.
-/

namespace LinkAlive

set_option autoImplicit false

open Relational Expiring

def windowMs : Nat := 60000

/-- The limits that every client passes to `ACQUIRE_SCRIPT`. -/
structure DestinationLimits where
  maxConcurrent : Nat
  maxPerWindow : Nat
  leaseMs : Nat

/-- The three integers of the reply: status, reason, time to wait. -/
structure AcquireReply where
  status : Nat
  reason : Nat
  retryAfter : Int
  deriving DecidableEq, Repr

def AcquireReply.granted : AcquireReply := ⟨1, 0, 0⟩

structure LimiterKeys (Subject Token : Type) where
  active : Keyspace Subject (Table Token Nat)
  rate : Keyspace Subject Nat

namespace LimiterKeys

variable {Subject Token : Type} [DecidableEq Subject] [DecidableEq Token]

def empty : LimiterKeys Subject Token where
  active := fun _ => none
  rate := fun _ => none

/-- The first loop's body: a reply ends the script. -/
def checkSubject (limits : DestinationLimits) (now : Nat) (keys : LimiterKeys Subject Token)
    (subject : Subject) : LimiterKeys Subject Token × Option AcquireReply :=
  let active := zremRangeByScore keys.active now subject now
  if limits.maxConcurrent ≤ zcard active now subject then
    let retryAfter : Nat :=
      match lowestScore active now subject with
      | some oldest => max 1 (oldest - now)
      | none => 1
    ({ keys with active }, some ⟨0, 1, retryAfter⟩)
  else
    let rateCount := counter keys.rate now subject
    let rateTtl := pttl keys.rate now subject
    let unlimited := decide (0 < rateCount ∧ rateTtl < 0)
    let rate := if unlimited then pexpire keys.rate now subject windowMs else keys.rate
    let rateTtl := if unlimited then (windowMs : Int) else rateTtl
    if limits.maxPerWindow ≤ rateCount then
      ({ active, rate }, some ⟨0, 2, max 1 rateTtl⟩)
    else ({ active, rate }, none)

def checkSubjects (limits : DestinationLimits) (now : Nat) :
    LimiterKeys Subject Token → List Subject → LimiterKeys Subject Token × Option AcquireReply
  | keys, [] => (keys, none)
  | keys, subject :: rest =>
      match checkSubject limits now keys subject with
      | (checked, some reply) => (checked, some reply)
      | (checked, none) => checkSubjects limits now checked rest

/-- The second loop's body. -/
def admitSubject (limits : DestinationLimits) (now : Nat) (token : Token)
    (keys : LimiterKeys Subject Token) (subject : Subject) : LimiterKeys Subject Token :=
  let active := zadd keys.active now subject (now + limits.leaseMs) token
  let active := pexpire active now subject (limits.leaseMs + 1000)
  let rate := incr keys.rate now subject
  let rate :=
    if counter rate now subject = 1 ∨ pttl rate now subject < 0 then
      pexpire rate now subject windowMs
    else rate
  { active, rate }

def acquireScript (limits : DestinationLimits) (now : Nat) (token : Token)
    (keys : LimiterKeys Subject Token) (subjects : List Subject) :
    LimiterKeys Subject Token × AcquireReply :=
  match checkSubjects limits now keys subjects with
  | (checked, some reply) => (checked, reply)
  | (checked, none) =>
      (subjects.foldl (admitSubject limits now token) checked, AcquireReply.granted)

/-- The body of `RELEASE_SCRIPT`; deleting a set that is empty removes no token. -/
def releaseSubject (now : Nat) (token : Token) (keys : LimiterKeys Subject Token)
    (subject : Subject) : LimiterKeys Subject Token :=
  let active := zrem keys.active now subject token
  let active := if zcard active now subject = 0 then del active subject else active
  { keys with active }

def releaseScript (now : Nat) (token : Token) (keys : LimiterKeys Subject Token)
    (subjects : List Subject) : LimiterKeys Subject Token :=
  subjects.foldl (releaseSubject now token) keys

/-- The tokens that a command at `now` finds in a subject's active key. -/
def tokens (keys : LimiterKeys Subject Token) (now : Nat) (subject : Subject) : Table Token Nat :=
  members keys.active now subject

/-- The tokens whose lease has not expired, whether or not their key has. -/
def unexpired (keys : LimiterKeys Subject Token) (now : Nat) (subject : Subject) :
    List (Token × Nat) :=
  match keys.active subject with
  | none => []
  | some entry => entry.value.select fun _ score => decide (now < score)

def count (keys : LimiterKeys Subject Token) (now : Nat) (subject : Subject) : Nat :=
  counter keys.rate now subject

end LimiterKeys

/-- The server: its keys and the last clock reading. -/
structure LimiterServer (Subject Token : Type) where
  now : Nat
  keys : LimiterKeys Subject Token

/-- One script execution by some client; `destinationSubjects` collects a set. -/
inductive LimiterCall (Subject Token : Type) where
  | acquire (now : Nat) (token : Token) (subjects : List Subject)
  | release (now : Nat) (token : Token) (subjects : List Subject)

namespace LimiterCall

variable {Subject Token : Type}

def now : LimiterCall Subject Token → Nat
  | acquire now _ _ => now
  | release now _ _ => now

def subjects : LimiterCall Subject Token → List Subject
  | acquire _ _ subjects => subjects
  | release _ _ subjects => subjects

end LimiterCall

namespace LimiterServer

variable {Subject Token : Type} [DecidableEq Subject] [DecidableEq Token]

def initial : LimiterServer Subject Token := ⟨0, .empty⟩

def execute (limits : DestinationLimits) (keys : LimiterKeys Subject Token) :
    LimiterCall Subject Token → LimiterKeys Subject Token
  | .acquire now token subjects => (keys.acquireScript limits now token subjects).1
  | .release now token subjects => keys.releaseScript now token subjects

/-- Any client may run a script next; the clock never goes back. -/
def step (limits : DestinationLimits) (server : LimiterServer Subject Token)
    (call : LimiterCall Subject Token) : Option (LimiterServer Subject Token) :=
  if server.now ≤ call.now ∧ call.subjects.Nodup then
    some ⟨call.now, execute limits server.keys call⟩
  else none

def grants (limits : DestinationLimits) (subject : Subject) :
    LimiterServer Subject Token × LimiterCall Subject Token → Bool
  | (server, .acquire now token subjects) =>
      decide (subject ∈ subjects) &&
        decide ((server.keys.acquireScript limits now token subjects).2 = .granted)
  | (_, .release _ _ _) => false

def rateAlive (subject : Subject) :
    LimiterServer Subject Token × LimiterCall Subject Token → Bool
  | (server, call) => (live server.keys.rate call.now subject).isSome

end LimiterServer

end LinkAlive
