import Mathlib.Logic.Function.Basic
import LinkAlive.Domain.Types
import LinkAlive.Foundation.Table
import LinkAlive.Foundation.Transition

/-!
# Manual checks of one target

`LocalCheckRateLimiter` of `apps/api/src/monitors/monitors.service.ts`. A call of `run` keeps
the entry object that it found, so the entries live on a heap; what runs between the
start of an operation and its `finally` are other calls and other settlements.
-/

namespace LinkAlive.ManualChecks

set_option autoImplicit false

open Relational Transition

def MANUAL_CHECK_WINDOW_MS : Nat := 60000

def MANUAL_CHECKS_PER_WINDOW : Nat := 5

structure RateLimitEntry where
  windowStartedAt : Time
  count : Nat
  inFlight : Bool
deriving DecidableEq, Repr

structure EntryRef where
  key : String
  number : Nat
deriving DecidableEq, Repr

structure LocalCheckRateLimiter where
  entries : Table String EntryRef
  objects : EntryRef → RateLimitEntry
  allocated : Nat

/-- `now - entry.windowStartedAt >= MANUAL_CHECK_WINDOW_MS` -/
def RateLimitEntry.windowPassed (entry : RateLimitEntry) (now : Time) : Bool :=
  entry.windowStartedAt + MANUAL_CHECK_WINDOW_MS ≤ now

namespace LocalCheckRateLimiter

def write (limiter : LocalCheckRateLimiter) (ref : EntryRef) (entry : RateLimitEntry) :
    LocalCheckRateLimiter :=
  { limiter with objects := Function.update limiter.objects ref entry }

def renew (limiter : LocalCheckRateLimiter) (key : String) (now : Time) :
    LocalCheckRateLimiter × EntryRef :=
  let ref : EntryRef := ⟨key, limiter.allocated⟩
  ({ limiter.write ref ⟨now, 0, false⟩ with
      entries := limiter.entries.put key ref
      allocated := limiter.allocated + 1 }, ref)

def current (limiter : LocalCheckRateLimiter) (key : String) (now : Time) :
    LocalCheckRateLimiter × EntryRef :=
  match limiter.entries.get key with
  | none => limiter.renew key now
  | some ref =>
      if (limiter.objects ref).windowPassed now then limiter.renew key now else (limiter, ref)

/-- `run` up to the operation; without an entry the call is answered by 429. -/
def enter (limiter : LocalCheckRateLimiter) (key : String) (now : Time) :
    LocalCheckRateLimiter × Option EntryRef :=
  let (limiter, ref) := limiter.current key now
  let entry := limiter.objects ref
  if entry.inFlight || MANUAL_CHECKS_PER_WINDOW ≤ entry.count then (limiter, none)
  else (limiter.write ref { entry with count := entry.count + 1, inFlight := true }, some ref)

def collect (limiter : LocalCheckRateLimiter) (now : Time) : LocalCheckRateLimiter :=
  if 1000 < limiter.entries.size then
    { limiter with
      entries := limiter.entries.deleteWhere fun _ candidate =>
        !(limiter.objects candidate).inFlight && (limiter.objects candidate).windowPassed now }
  else limiter

/-- The `finally` of `run`, with the `now` of its start. -/
def settle (limiter : LocalCheckRateLimiter) (ref : EntryRef) (now : Time) :
    LocalCheckRateLimiter :=
  (limiter.write ref { limiter.objects ref with inFlight := false }).collect now

end LocalCheckRateLimiter

/-- A call whose operation has not settled. -/
structure RunningCall where
  key : String
  ref : EntryRef
  now : Time
deriving DecidableEq, Repr

/-- The start of an operation, for the statements only. -/
structure Start where
  ref : EntryRef
  time : Time
deriving DecidableEq, Repr

structure Server where
  limiter : LocalCheckRateLimiter
  running : Table Nat RunningCall
  calls : Nat
  clock : Time
  starts : List Start

def initial : Server where
  limiter := ⟨∅, fun _ => ⟨0, 0, false⟩, 0⟩
  running := ∅
  calls := 0
  clock := 0
  starts := []

/-- `checkNow` and `test` call `run` with the key of their host; an operation settles with a
result or an error. -/
inductive Action
  | call (key : String) (now : Time)
  | settle (number : Nat) (now : Time)
deriving DecidableEq, Repr

def Server.call (server : Server) (key : String) (now : Time) : Server :=
  match server.limiter.enter key now with
  | (limiter, none) => { server with limiter, clock := now }
  | (limiter, some ref) =>
      { limiter
        running := server.running.put server.calls ⟨key, ref, now⟩
        calls := server.calls + 1
        clock := now
        starts := server.starts ++ [⟨ref, now⟩] }

def Server.settle (server : Server) (number : Nat) (now : Time) : Option Server :=
  (server.running.get number).map fun call =>
    { server with
      limiter := server.limiter.settle call.ref call.now
      running := server.running.remove number
      clock := now }

def step (server : Server) : Action → Option Server
  | .call key now => if server.clock ≤ now then some (server.call key now) else none
  | .settle number now => if server.clock ≤ now then server.settle number now else none

def Server.live (server : Server) (key : String) (now : Time) (ref : EntryRef) : Prop :=
  server.limiter.entries.get key = some ref ∧
    (server.limiter.objects ref).windowPassed now = false

def Server.unwindowed (server : Server) (key : String) (now : Time) : Prop :=
  ∀ ref, server.limiter.entries.get key = some ref →
    (server.limiter.objects ref).windowPassed now = true

def RateLimitEntry.refuses (entry : RateLimitEntry) : Bool :=
  entry.inFlight || MANUAL_CHECKS_PER_WINDOW ≤ entry.count

def RateLimitEntry.started (entry : RateLimitEntry) : RateLimitEntry :=
  { entry with count := entry.count + 1, inFlight := true }

def Server.begun (server : Server) (limiter : LocalCheckRateLimiter) (ref : EntryRef)
    (key : String) (now : Time) : Server where
  limiter := limiter.write ref (limiter.objects ref).started
  running := server.running.put server.calls ⟨key, ref, now⟩
  calls := server.calls + 1
  clock := now
  starts := server.starts ++ [⟨ref, now⟩]

theorem current_live {server : Server} {key : String} {now : Time} {ref : EntryRef}
    (live : server.live key now ref) :
    server.limiter.current key now = (server.limiter, ref) := by
  simp [LocalCheckRateLimiter.current, live.1, live.2]

theorem current_unwindowed {server : Server} {key : String} {now : Time}
    (unwindowed : server.unwindowed key now) :
    server.limiter.current key now = server.limiter.renew key now := by
  unfold LocalCheckRateLimiter.current
  cases found : server.limiter.entries.get key with
  | none => rfl
  | some ref => simp [unwindowed ref found]

theorem live_or_unwindowed (server : Server) (key : String) (now : Time) :
    (∃ ref, server.live key now ref) ∨ server.unwindowed key now := by
  cases found : server.limiter.entries.get key with
  | none =>
      refine .inr ?_
      intro ref other
      rw [found] at other
      cases other
  | some ref =>
      cases passed : (server.limiter.objects ref).windowPassed now with
      | false => exact .inl ⟨ref, found, passed⟩
      | true =>
          refine .inr ?_
          intro other same
          rw [found] at same
          cases same
          exact passed

inductive Stepped (server : Server) : Action → Server → Prop
  | refused {key : String} {now : Time} {ref : EntryRef} (later : server.clock ≤ now)
      (live : server.live key now ref) (refuses : (server.limiter.objects ref).refuses = true) :
      Stepped server (.call key now) { server with clock := now }
  | joined {key : String} {now : Time} {ref : EntryRef} (later : server.clock ≤ now)
      (live : server.live key now ref) (admits : (server.limiter.objects ref).refuses = false) :
      Stepped server (.call key now) (server.begun server.limiter ref key now)
  | opened {key : String} {now : Time} (later : server.clock ≤ now)
      (unwindowed : server.unwindowed key now) :
      Stepped server (.call key now)
        (server.begun (server.limiter.renew key now).1 ⟨key, server.limiter.allocated⟩ key now)
  | settled {number : Nat} {now : Time} {call : RunningCall} (later : server.clock ≤ now)
      (running : server.running.get number = some call) :
      Stepped server (.settle number now)
        { server with
          limiter := server.limiter.settle call.ref call.now
          running := server.running.remove number
          clock := now }

theorem step_cases {server after : Server} {action : Action}
    (taken : step server action = some after) : Stepped server action after := by
  cases action with
  | call key now =>
      simp only [step, Option.ite_none_right_eq_some, Option.some.injEq] at taken
      obtain ⟨later, rfl⟩ := taken
      rcases live_or_unwindowed server key now with ⟨ref, live⟩ | unwindowed
      · cases refuses : (server.limiter.objects ref).refuses with
        | true =>
            have same : server.call key now = { server with clock := now } := by
              unfold RateLimitEntry.refuses at refuses
              simp only [Server.call, LocalCheckRateLimiter.enter, current_live live, refuses,
                if_true]
            rw [same]
            exact .refused later live refuses
        | false =>
            have same : server.call key now = server.begun server.limiter ref key now := by
              unfold RateLimitEntry.refuses at refuses
              simp only [Server.call, LocalCheckRateLimiter.enter, current_live live, refuses,
                Bool.false_eq_true, if_false]
              rfl
            rw [same]
            exact .joined later live refuses
      · have same : server.call key now =
            server.begun (server.limiter.renew key now).1 ⟨key, server.limiter.allocated⟩ key
              now := by
          simp [Server.call, LocalCheckRateLimiter.enter, current_unwindowed unwindowed,
            LocalCheckRateLimiter.renew, LocalCheckRateLimiter.write, MANUAL_CHECKS_PER_WINDOW,
            Server.begun, RateLimitEntry.started]
        rw [same]
        exact .opened later unwindowed
  | settle number now =>
      simp only [step, Option.ite_none_right_eq_some, Server.settle,
        Option.map_eq_some_iff] at taken
      obtain ⟨later, call, running, rfl⟩ := taken
      exact .settled later running

def LocalCheckRateLimiter.windowEnd (limiter : LocalCheckRateLimiter) (ref : EntryRef) : Time :=
  (limiter.objects ref).windowStartedAt + MANUAL_CHECK_WINDOW_MS

structure ReferenceInvariant (server : Server) : Prop where
  entryKey : ∀ key ref, server.limiter.entries.get key = some ref → ref.key = key
  entryOld : ∀ key ref, server.limiter.entries.get key = some ref →
    ref.number < server.limiter.allocated
  callKey : ∀ number call, server.running.get number = some call → call.ref.key = call.key
  callOld : ∀ number call, server.running.get number = some call →
    call.ref.number < server.limiter.allocated
  callNumber : ∀ number call, server.running.get number = some call → number < server.calls
  callTime : ∀ number call, server.running.get number = some call → call.now ≤ server.clock
  inFlight : ∀ ref, (server.limiter.objects ref).inFlight = true ↔
    ∃ number call, server.running.get number = some call ∧ call.ref = ref
  onePerEntry : ∀ first second call other, server.running.get first = some call →
    server.running.get second = some other → call.ref = other.ref → first = second

structure WindowInvariant (server : Server) : Prop where
  entryOpen : ∀ key ref, server.limiter.entries.get key = some ref →
    (server.limiter.objects ref).windowStartedAt ≤ server.clock
  startOld : ∀ start ∈ server.starts, start.ref.number < server.limiter.allocated
  counted : ∀ ref, (server.starts.filter fun start => start.ref = ref).length =
    (server.limiter.objects ref).count
  bounded : ∀ ref, (server.limiter.objects ref).count ≤ MANUAL_CHECKS_PER_WINDOW
  within : ∀ start ∈ server.starts,
    (server.limiter.objects start.ref).windowStartedAt ≤ start.time ∧
      start.time < server.limiter.windowEnd start.ref
  /-- Only the entry of the map can count further starts of its key. -/
  past : ∀ start ∈ server.starts, server.limiter.entries.get start.ref.key = some start.ref ∨
    server.limiter.windowEnd start.ref ≤ server.clock ∧
      ∀ ref, server.limiter.entries.get start.ref.key = some ref →
        server.limiter.windowEnd start.ref ≤ (server.limiter.objects ref).windowStartedAt
  apart : ∀ first ∈ server.starts, ∀ second ∈ server.starts, first.ref.key = second.ref.key →
    first.ref = second.ref ∨
      server.limiter.windowEnd first.ref ≤
        (server.limiter.objects second.ref).windowStartedAt ∨
      server.limiter.windowEnd second.ref ≤ (server.limiter.objects first.ref).windowStartedAt

theorem reference_invariant_initial : ReferenceInvariant initial where
  entryKey _ _ found := nomatch found
  entryOld _ _ found := nomatch found
  callKey _ _ found := nomatch found
  callOld _ _ found := nomatch found
  callNumber _ _ found := nomatch found
  callTime _ _ found := nomatch found
  inFlight ref := by simp [initial]
  onePerEntry _ _ _ _ found := nomatch found

theorem window_invariant_initial : WindowInvariant initial where
  entryOpen _ _ found := nomatch found
  startOld _ member := nomatch member
  counted _ := rfl
  bounded _ := Nat.zero_le _
  within _ member := nomatch member
  past _ member := nomatch member
  apart _ member := nomatch member

section settle

variable (limiter : LocalCheckRateLimiter) (ref : EntryRef) (now : Time)

theorem collect_objects : (limiter.collect now).objects = limiter.objects := by
  unfold LocalCheckRateLimiter.collect
  split <;> rfl

theorem settle_objects (other : EntryRef) : (limiter.settle ref now).objects other =
    if other = ref then { limiter.objects ref with inFlight := false }
    else limiter.objects other := by
  rw [LocalCheckRateLimiter.settle, collect_objects]
  exact Function.update_apply _ _ _ _

theorem settle_same_window (other : EntryRef) :
    ((limiter.settle ref now).objects other).windowStartedAt =
        (limiter.objects other).windowStartedAt ∧
      ((limiter.settle ref now).objects other).count = (limiter.objects other).count := by
  rw [settle_objects]
  split
  · rename_i same
    rw [same]
    exact ⟨rfl, rfl⟩
  · exact ⟨rfl, rfl⟩

@[simp] theorem settle_window (other : EntryRef) :
    ((limiter.settle ref now).objects other).windowStartedAt =
      (limiter.objects other).windowStartedAt := (settle_same_window limiter ref now other).1

@[simp] theorem settle_count (other : EntryRef) :
    ((limiter.settle ref now).objects other).count = (limiter.objects other).count :=
  (settle_same_window limiter ref now other).2

@[simp] theorem settle_window_end (other : EntryRef) :
    (limiter.settle ref now).windowEnd other = limiter.windowEnd other := by
  rw [LocalCheckRateLimiter.windowEnd, settle_window, LocalCheckRateLimiter.windowEnd]

@[simp] theorem settle_allocated : (limiter.settle ref now).allocated = limiter.allocated := by
  unfold LocalCheckRateLimiter.settle LocalCheckRateLimiter.collect
  split <;> rfl

variable {limiter ref now}

theorem collect_entry {key : String} {entry : EntryRef}
    (found : (limiter.collect now).entries.get key = some entry) :
    limiter.entries.get key = some entry := by
  unfold LocalCheckRateLimiter.collect at found
  split at found
  · exact ((Table.get_delete_where_eq_some _ _ _ _).1 found).1
  · exact found

/-- The collection drops no entry whose window lasts, and none in flight. -/
theorem collect_keeps {key : String} {entry : EntryRef}
    (found : limiter.entries.get key = some entry) :
    (limiter.collect now).entries.get key = some entry ∨
      (limiter.objects entry).inFlight = false ∧ limiter.windowEnd entry ≤ now := by
  unfold LocalCheckRateLimiter.collect
  split
  · cases dropped : !(limiter.objects entry).inFlight &&
        (limiter.objects entry).windowPassed now with
    | true =>
        rw [Bool.and_eq_true, Bool.not_eq_true'] at dropped
        exact .inr ⟨dropped.1, of_decide_eq_true dropped.2⟩
    | false => exact .inl ((Table.get_delete_where_eq_some _ _ _ _).2 ⟨found, dropped⟩)
  · exact .inl found

theorem settle_entry {key : String} {entry : EntryRef}
    (found : (limiter.settle ref now).entries.get key = some entry) :
    limiter.entries.get key = some entry := by
  unfold LocalCheckRateLimiter.settle at found
  have written := collect_entry found
  exact written

theorem settle_keeps {key : String} {entry : EntryRef}
    (found : limiter.entries.get key = some entry) :
    (limiter.settle ref now).entries.get key = some entry ∨
      ((limiter.settle ref now).objects entry).inFlight = false ∧
        limiter.windowEnd entry ≤ now := by
  have written : (limiter.settle ref now).objects entry =
      (limiter.write ref { limiter.objects ref with inFlight := false }).objects entry :=
    congrFun (collect_objects _ now) entry
  rw [written, ← settle_window_end limiter ref now entry, LocalCheckRateLimiter.windowEnd, written]
  exact collect_keeps found

end settle

def Server.later (server : Server) (now : Time) : Server := { server with clock := now }

/-- A new window of a key, before its first operation. -/
def Server.renewed (server : Server) (key : String) : Server :=
  { server with limiter := (server.limiter.renew key server.clock).1 }

theorem renew_objects (limiter : LocalCheckRateLimiter) (key : String) (now : Time)
    (ref : EntryRef) : (limiter.renew key now).1.objects ref =
      if ref = ⟨key, limiter.allocated⟩ then ⟨now, 0, false⟩ else limiter.objects ref := by
  simp [LocalCheckRateLimiter.renew, LocalCheckRateLimiter.write, Function.update_apply]

theorem renew_entry (limiter : LocalCheckRateLimiter) (key : String) (now : Time)
    (other : String) : (limiter.renew key now).1.entries.get other =
      if other = key then some ⟨key, limiter.allocated⟩ else limiter.entries.get other := by
  simp [LocalCheckRateLimiter.renew, Table.get_put]

/-- An entry that was made before a renewal is not changed by it. -/
theorem renew_old {limiter : LocalCheckRateLimiter} {key : String} {now : Time} {ref : EntryRef}
    (old : ref.number < limiter.allocated) :
    (limiter.renew key now).1.objects ref = limiter.objects ref := by
  rw [renew_objects, if_neg]
  rintro rfl
  exact absurd old (Nat.lt_irrefl _)

namespace ReferenceInvariant

variable {server : Server}

theorem later (holds : ReferenceInvariant server) {now : Time} (later : server.clock ≤ now) :
    ReferenceInvariant (server.later now) :=
  { holds with
    callTime := fun number call found => Nat.le_trans (holds.callTime number call found) later }

theorem renewed (holds : ReferenceInvariant server) (key : String) :
    ReferenceInvariant (server.renewed key) where
  entryKey other ref found := by
    change (server.limiter.renew key server.clock).1.entries.get other = some ref at found
    rw [renew_entry] at found
    split at found
    · rename_i same
      cases found
      exact same.symm
    · exact holds.entryKey other ref found
  entryOld other ref found := by
    change (server.limiter.renew key server.clock).1.entries.get other = some ref at found
    change ref.number < server.limiter.allocated + 1
    rw [renew_entry] at found
    split at found
    · cases found
      exact Nat.lt_succ_self _
    · exact Nat.lt_succ_of_lt (holds.entryOld other ref found)
  callKey := holds.callKey
  callOld number call found := Nat.lt_succ_of_lt (holds.callOld number call found)
  callNumber := holds.callNumber
  callTime := holds.callTime
  inFlight ref := by
    change ((server.limiter.renew key server.clock).1.objects ref).inFlight = true ↔ _
    rw [renew_objects]
    split
    · rename_i fresh
      simp only [Bool.false_eq_true, false_iff]
      rintro ⟨number, call, found, same⟩
      have old := holds.callOld number call found
      rw [same, fresh] at old
      exact absurd old (Nat.lt_irrefl _)
    · exact holds.inFlight ref
  onePerEntry := holds.onePerEntry

theorem begun (holds : ReferenceInvariant server) {key : String} {ref : EntryRef} {now : Time}
    (later : server.clock ≤ now) (found : server.limiter.entries.get key = some ref)
    (admits : (server.limiter.objects ref).refuses = false) :
    ReferenceInvariant (server.begun server.limiter ref key now) := by
  have idle : (server.limiter.objects ref).inFlight = false := (Bool.or_eq_false_iff.1 admits).1
  have unused : ∀ number call, server.running.get number = some call → call.ref ≠ ref := by
    intro number call running same
    have busy := (holds.inFlight ref).2 ⟨number, call, running, same⟩
    rw [idle] at busy
    cases busy
  have running : ∀ number call, (server.begun server.limiter ref key now).running.get number =
      some call → number = server.calls ∧ call = ⟨key, ref, now⟩ ∨
        number ≠ server.calls ∧ server.running.get number = some call := by
    intro number call stored
    rw [Server.begun, Table.get_put] at stored
    split at stored
    · rename_i same
      exact .inl ⟨same, (Option.some.inj stored).symm⟩
    · rename_i other
      exact .inr ⟨other, stored⟩
  exact {
    entryKey := holds.entryKey
    entryOld := holds.entryOld
    callKey := by
      intro number call stored
      rcases running number call stored with ⟨-, rfl⟩ | ⟨-, earlier⟩
      · exact holds.entryKey key ref found
      · exact holds.callKey number call earlier
    callOld := by
      intro number call stored
      rcases running number call stored with ⟨-, rfl⟩ | ⟨-, earlier⟩
      · exact holds.entryOld key ref found
      · exact holds.callOld number call earlier
    callNumber := by
      intro number call stored
      rcases running number call stored with ⟨rfl, -⟩ | ⟨-, earlier⟩
      · exact Nat.lt_succ_self _
      · exact Nat.lt_succ_of_lt (holds.callNumber number call earlier)
    callTime := by
      intro number call stored
      rcases running number call stored with ⟨-, rfl⟩ | ⟨-, earlier⟩
      · exact Nat.le_refl _
      · exact Nat.le_trans (holds.callTime number call earlier) later
    inFlight := by
      intro other
      change (Function.update server.limiter.objects ref _ other).inFlight = true ↔ _
      by_cases same : other = ref
      · subst same
        rw [Function.update_self]
        refine iff_of_true rfl ⟨server.calls, ⟨key, other, now⟩, ?_, rfl⟩
        rw [Server.begun, Table.get_put, if_pos rfl]
      · rw [Function.update_of_ne same, holds.inFlight other]
        constructor
        · rintro ⟨number, call, stored, uses⟩
          refine ⟨number, call, ?_, uses⟩
          have used := holds.callNumber number call stored
          rw [Server.begun, Table.get_put, if_neg (Nat.ne_of_lt used), stored]
        · rintro ⟨number, call, stored, uses⟩
          rcases running number call stored with ⟨-, rfl⟩ | ⟨-, earlier⟩
          · exact absurd uses.symm same
          · exact ⟨number, call, earlier, uses⟩
    onePerEntry := by
      intro first second call other stored again same
      rcases running first call stored with ⟨rfl, rfl⟩ | ⟨-, earlier⟩ <;>
        rcases running second other again with ⟨rfl, rfl⟩ | ⟨-, before⟩
      · rfl
      · exact absurd same.symm (unused second other before)
      · exact absurd same (unused first call earlier)
      · exact holds.onePerEntry first second call other earlier before same }

theorem settled (holds : ReferenceInvariant server) {number : Nat} {now : Time}
    {call : RunningCall} (later : server.clock ≤ now)
    (running : server.running.get number = some call) :
    ReferenceInvariant { server with
      limiter := server.limiter.settle call.ref call.now
      running := server.running.remove number
      clock := now } := by
  have earlier : ∀ other again, (server.running.remove number).get other = some again →
      other ≠ number ∧ server.running.get other = some again := by
    intro other again stored
    rw [Table.get_remove] at stored
    split at stored
    · cases stored
    · rename_i different
      exact ⟨different, stored⟩
  exact {
    entryKey := fun key ref found => holds.entryKey key ref (settle_entry found)
    entryOld := by
      intro key ref found
      rw [settle_allocated]
      exact holds.entryOld key ref (settle_entry found)
    callKey := fun other again stored => holds.callKey other again (earlier other again stored).2
    callOld := by
      intro other again stored
      rw [settle_allocated]
      exact holds.callOld other again (earlier other again stored).2
    callNumber := fun other again stored =>
      holds.callNumber other again (earlier other again stored).2
    callTime := fun other again stored =>
      Nat.le_trans (holds.callTime other again (earlier other again stored).2) later
    inFlight := by
      intro ref
      rw [settle_objects]
      split
      · rename_i same
        simp only [Bool.false_eq_true, false_iff]
        rintro ⟨other, again, stored, uses⟩
        obtain ⟨different, kept⟩ := earlier other again stored
        exact different (holds.onePerEntry other number again call kept running (uses.trans same))
      · rename_i different
        rw [holds.inFlight ref]
        constructor
        · rintro ⟨other, again, stored, uses⟩
          refine ⟨other, again, ?_, uses⟩
          rw [Table.get_remove, if_neg, stored]
          rintro rfl
          rw [running, Option.some.injEq] at stored
          exact different (uses.symm.trans (congrArg RunningCall.ref stored.symm))
        · rintro ⟨other, again, stored, uses⟩
          exact ⟨other, again, (earlier other again stored).2, uses⟩
    onePerEntry := fun first second again other stored more same =>
      holds.onePerEntry first second again other (earlier first again stored).2
        (earlier second other more).2 same }

end ReferenceInvariant

namespace WindowInvariant

variable {server : Server}

theorem later (holds : WindowInvariant server) {now : Time} (later : server.clock ≤ now) :
    WindowInvariant (server.later now) :=
  { holds with
    entryOpen := fun key ref found => Nat.le_trans (holds.entryOpen key ref found) later
    past := fun start member => (holds.past start member).imp_right
      (And.imp_left fun closed => Nat.le_trans closed later) }

theorem renewed (holds : WindowInvariant server) (references : ReferenceInvariant server)
    {key : String} (unwindowed : server.unwindowed key server.clock) :
    WindowInvariant (server.renewed key) := by
  have kept : ∀ start ∈ server.starts, (server.renewed key).limiter.objects start.ref =
      server.limiter.objects start.ref :=
    fun start member => renew_old (holds.startOld start member)
  have keptEnd : ∀ start ∈ server.starts, (server.renewed key).limiter.windowEnd start.ref =
      server.limiter.windowEnd start.ref := by
    intro start member
    rw [LocalCheckRateLimiter.windowEnd, kept start member, LocalCheckRateLimiter.windowEnd]
  have entry : ∀ other, (server.renewed key).limiter.entries.get other =
      if other = key then some ⟨key, server.limiter.allocated⟩
      else server.limiter.entries.get other :=
    renew_entry server.limiter key server.clock
  have object : ∀ ref, (server.renewed key).limiter.objects ref =
      if ref = ⟨key, server.limiter.allocated⟩ then ⟨server.clock, 0, false⟩
      else server.limiter.objects ref :=
    renew_objects server.limiter key server.clock
  exact {
    entryOpen := by
      intro other ref found
      rw [object]
      split
      · exact Nat.le_refl _
      · rename_i old
        rw [entry] at found
        split at found
        · exact absurd (Option.some.inj found).symm old
        · exact holds.entryOpen other ref found
    startOld := fun start member => Nat.lt_succ_of_lt (holds.startOld start member)
    counted := by
      intro ref
      rw [object]
      split
      · rename_i fresh
        have none : server.starts.filter (fun start => start.ref = ref) = [] := by
          refine List.filter_eq_nil_iff.2 ?_
          intro start member same
          have old := holds.startOld start member
          rw [of_decide_eq_true same, fresh] at old
          exact absurd old (Nat.lt_irrefl _)
        exact congrArg List.length none
      · exact holds.counted ref
    bounded := by
      intro ref
      rw [object]
      split
      · exact Nat.zero_le _
      · exact holds.bounded ref
    within := by
      intro start member
      rw [kept start member, keptEnd start member]
      exact holds.within start member
    past := by
      intro start member
      rw [entry, keptEnd start member]
      by_cases same : start.ref.key = key
      · -- every earlier window of the key has passed
        have closed : server.limiter.windowEnd start.ref ≤ server.clock := by
          rcases holds.past start member with current | before
          · exact of_decide_eq_true (unwindowed start.ref (same ▸ current))
          · exact before.1
        refine .inr ⟨closed, ?_⟩
        intro ref found
        rw [if_pos same] at found
        cases found
        rw [object, if_pos rfl]
        exact closed
      · rw [if_neg same]
        refine (holds.past start member).imp_right (And.imp_right ?_)
        intro before ref found
        have old := references.entryOld _ _ found
        rw [object, if_neg]
        · exact before ref found
        · rintro rfl
          exact absurd old (Nat.lt_irrefl _)
    apart := by
      intro first member second among
      rw [keptEnd first member, keptEnd second among, kept first member, kept second among]
      exact holds.apart first member second among }

theorem begun (holds : WindowInvariant server) (references : ReferenceInvariant server)
    {key : String} {ref : EntryRef} {now : Time} (later : server.clock ≤ now)
    (live : server.live key now ref) (admits : (server.limiter.objects ref).refuses = false) :
    WindowInvariant (server.begun server.limiter ref key now) := by
  have room : (server.limiter.objects ref).count < MANUAL_CHECKS_PER_WINDOW := by
    simpa using (Bool.or_eq_false_iff.1 admits).2
  have owner : ref.key = key := references.entryKey key ref live.1
  have written : ∀ other, (server.begun server.limiter ref key now).limiter.objects other =
      if other = ref then (server.limiter.objects ref).started
      else server.limiter.objects other :=
    fun other => Function.update_apply _ _ _ _
  have window : ∀ other, ((server.begun server.limiter ref key now).limiter.objects
      other).windowStartedAt = (server.limiter.objects other).windowStartedAt := by
    intro other
    rw [written]
    split
    · rename_i same
      rw [same]
      rfl
    · rfl
  have windowEnd : ∀ other, (server.begun server.limiter ref key now).limiter.windowEnd other =
      server.limiter.windowEnd other := by
    intro other
    rw [LocalCheckRateLimiter.windowEnd, window, LocalCheckRateLimiter.windowEnd]
  have members : ∀ start, start ∈ server.starts ++ [⟨ref, now⟩] ↔
      start ∈ server.starts ∨ start = ⟨ref, now⟩ := by
    intro start
    rw [List.mem_append, List.mem_singleton]
  exact {
    entryOpen := by
      intro other current found
      rw [window]
      exact Nat.le_trans (holds.entryOpen other current found) later
    startOld := by
      intro start member
      rcases (members start).1 member with earlier | rfl
      · exact holds.startOld start earlier
      · exact references.entryOld key ref live.1
    counted := by
      intro other
      rw [written]
      change ((server.starts ++ [(⟨ref, now⟩ : Start)]).filter
        fun start => start.ref = other).length = _
      rw [List.filter_append, List.length_append, holds.counted other]
      split
      · rename_i same
        simp [same, RateLimitEntry.started]
      · rename_i different
        simp [Ne.symm different]
    bounded := by
      intro other
      rw [written]
      split
      · exact room
      · exact holds.bounded other
    within := by
      intro start member
      rw [window, windowEnd]
      rcases (members start).1 member with earlier | rfl
      · exact holds.within start earlier
      · exact ⟨Nat.le_trans (holds.entryOpen key ref live.1) later,
          Nat.lt_of_not_le (of_decide_eq_false live.2)⟩
    past := by
      intro start member
      rw [windowEnd]
      rcases (members start).1 member with earlier | rfl
      · refine (holds.past start earlier).imp_right (And.imp ?_ ?_)
        · exact fun closed => Nat.le_trans closed later
        · intro before current found
          rw [window]
          exact before current found
      · exact .inl (owner.symm ▸ live.1)
    apart := by
      -- the new start belongs to the entry of the map, after which no other one counts
      have fresh : ∀ start ∈ server.starts, start.ref.key = ref.key → start.ref = ref ∨
          server.limiter.windowEnd start.ref ≤ (server.limiter.objects ref).windowStartedAt := by
        intro start earlier same
        rw [owner] at same
        rcases holds.past start earlier with current | before
        · rw [same, live.1] at current
          exact .inl (Option.some.inj current).symm
        · exact .inr (before.2 ref (same ▸ live.1))
      intro first member second among same
      rw [windowEnd, windowEnd, window, window]
      rcases (members first).1 member with earlier | rfl <;>
        rcases (members second).1 among with before | rfl
      · exact holds.apart first earlier second before same
      · exact (fresh first earlier same).imp_right .inl
      · exact (fresh second before same.symm).imp Eq.symm .inr
      · exact .inl rfl }

theorem settled (holds : WindowInvariant server) (references : ReferenceInvariant server)
    {number : Nat} {now : Time} {call : RunningCall} (later : server.clock ≤ now)
    (running : server.running.get number = some call) :
    WindowInvariant { server with
      limiter := server.limiter.settle call.ref call.now
      running := server.running.remove number
      clock := now } where
  entryOpen key ref found := by
    rw [settle_window]
    exact Nat.le_trans (holds.entryOpen key ref (settle_entry found)) later
  startOld start member := by
    rw [settle_allocated]
    exact holds.startOld start member
  counted ref := by
    rw [settle_count]
    exact holds.counted ref
  bounded ref := by
    rw [settle_count]
    exact holds.bounded ref
  within start member := by
    rw [settle_window, settle_window_end]
    exact holds.within start member
  past start member := by
    rw [settle_window_end]
    rcases holds.past start member with current | before
    · by_cases kept : (server.limiter.settle call.ref call.now).entries.get start.ref.key =
          some start.ref
      · exact .inl kept
      · have closed := ((settle_keeps current).resolve_left kept).2
        refine .inr ⟨Nat.le_trans closed
          (Nat.le_trans (references.callTime number call running) later), ?_⟩
        intro ref found
        have entry := settle_entry found
        rw [current, Option.some.injEq] at entry
        exact absurd (entry ▸ found) kept
    · refine .inr ⟨Nat.le_trans before.1 later, ?_⟩
      intro ref found
      rw [settle_window]
      exact before.2 ref (settle_entry found)
  apart first member second among := by
    rw [settle_window_end, settle_window_end, settle_window, settle_window]
    exact holds.apart first member second among

end WindowInvariant

structure Invariant (server : Server) : Prop where
  references : ReferenceInvariant server
  windows : WindowInvariant server

theorem invariant_initial : Invariant initial :=
  ⟨reference_invariant_initial, window_invariant_initial⟩

theorem invariant_step {server after : Server} {action : Action} (holds : Invariant server)
    (taken : step server action = some after) : Invariant after := by
  cases step_cases taken with
  | refused later live refuses => exact ⟨holds.references.later later, holds.windows.later later⟩
  | joined later live admits =>
      exact ⟨holds.references.begun later live.1 admits,
        holds.windows.begun holds.references later live admits⟩
  | @opened key now later unwindowed =>
      have references := (holds.references.later later).renewed key
      have windows := (holds.windows.later later).renewed (holds.references.later later) unwindowed
      have fresh : ((server.later now).renewed key).limiter.objects
          ⟨key, server.limiter.allocated⟩ = ⟨now, 0, false⟩ :=
        (renew_objects _ _ _ _).trans (if_pos rfl)
      have live : ((server.later now).renewed key).live key now
          ⟨key, server.limiter.allocated⟩ := by
        refine ⟨(renew_entry _ _ _ _).trans (if_pos rfl), ?_⟩
        rw [fresh]
        exact decide_eq_false (Nat.not_le_of_lt (Nat.lt_add_of_pos_right (by decide)))
      have admits : (((server.later now).renewed key).limiter.objects
          ⟨key, server.limiter.allocated⟩).refuses = false := by
        rw [fresh]
        rfl
      exact ⟨references.begun (Nat.le_refl _) live.1 admits,
        windows.begun references (Nat.le_refl _) live admits⟩
  | settled later running =>
      exact ⟨holds.references.settled later running,
        holds.windows.settled holds.references later running⟩

def Server.Exclusive (server : Server) : Prop :=
  ∀ first second call other, server.running.get first = some call →
    server.running.get second = some other → call.key = other.key → first = second

/-- At most five operations of a key start in a window that the limiter counts. -/
def Server.WindowsBounded (server : Server) : Prop :=
  ∀ start ∈ server.starts,
    (server.starts.filter fun other => other.ref.key = start.ref.key &&
      (server.limiter.objects start.ref).windowStartedAt ≤ other.time &&
        other.time < server.limiter.windowEnd start.ref).length ≤ MANUAL_CHECKS_PER_WINDOW

def Server.rejects (server : Server) : Action → Bool
  | .call key now => (server.limiter.enter key now).2.isNone
  | .settle _ _ => false

/-- A call that finds its key's window passed while the operation that it counted is still
in flight. -/
def Server.abandons (server : Server) : Action → Bool
  | .call key now =>
      match server.limiter.entries.get key with
      | none => false
      | some ref =>
          (server.limiter.objects ref).windowPassed now && (server.limiter.objects ref).inFlight
  | .settle _ _ => false

/-- Every operation in flight is counted by the entry of its key. -/
def Server.Attached (server : Server) : Prop :=
  ∀ number call, server.running.get number = some call →
    server.limiter.entries.get call.key = some call.ref

theorem Invariant.exclusive {server : Server} (holds : Invariant server)
    (attached : server.Attached) : server.Exclusive := by
  intro first second call other stored again same
  have entry := attached first call stored
  have another := attached second other again
  rw [same, another, Option.some.injEq] at entry
  exact holds.references.onePerEntry first second call other stored again entry.symm

theorem Invariant.windows_bounded {server : Server} (holds : Invariant server) :
    server.WindowsBounded := by
  intro start member
  have kept : ∀ other ∈ server.starts,
      (other.ref.key = start.ref.key &&
        (server.limiter.objects start.ref).windowStartedAt ≤ other.time &&
          other.time < server.limiter.windowEnd start.ref) = true →
        (other.ref = start.ref : Bool) = true := by
    intro other among inside
    simp only [Bool.and_eq_true, decide_eq_true_eq] at inside
    obtain ⟨⟨sameKey, begins⟩, ends⟩ := inside
    have own := holds.windows.within other among
    rcases holds.windows.apart other among start member sameKey with same | before | behind
    · exact decide_eq_true same
    · exact absurd (Nat.le_trans before begins) (Nat.not_le_of_lt own.2)
    · exact absurd (Nat.le_trans behind own.1) (Nat.not_le_of_lt ends)
  calc _ ≤ (server.starts.filter fun other => other.ref = start.ref).length :=
        by
          rw [← List.countP_eq_length_filter, ← List.countP_eq_length_filter]
          exact List.countP_mono_left kept
    _ = (server.limiter.objects start.ref).count := holds.windows.counted start.ref
    _ ≤ MANUAL_CHECKS_PER_WINDOW := holds.windows.bounded start.ref

theorem attached_step {server after : Server} {action : Action} (holds : Invariant server)
    (attached : server.Attached) (taken : step server action = some after)
    (orderly : server.abandons action = false) : after.Attached := by
  cases step_cases taken with
  | refused later live refuses => exact attached
  | @joined key now ref later live admits =>
      intro number call stored
      rw [Server.begun, Table.get_put] at stored
      split at stored
      · cases stored
        exact live.1
      · exact attached number call stored
  | @opened key now later unwindowed =>
      intro number call stored
      change (server.limiter.renew key now).1.entries.get call.key = some call.ref
      rw [renew_entry]
      rw [Server.begun, Table.get_put] at stored
      split at stored
      · cases stored
        exact if_pos rfl
      · have entry := attached number call stored
        rw [if_neg, entry]
        rintro rfl
        -- the replaced entry would be the one of an operation in flight
        have busy := (holds.references.inFlight call.ref).2 ⟨number, call, stored, rfl⟩
        rw [Server.abandons, entry] at orderly
        simp only [unwindowed call.ref entry, busy, Bool.and_self, Bool.true_eq_false] at orderly
  | @settled number now call later running =>
      intro other again stored
      rw [Table.get_remove] at stored
      split at stored
      · cases stored
      · rename_i different
        have entry := attached other again stored
        have busy := (holds.references.inFlight again.ref).2 ⟨other, again, stored, rfl⟩
        have apart : again.ref ≠ call.ref := fun same =>
          different (holds.references.onePerEntry other number again call stored running same)
        refine (settle_keeps entry).resolve_right ?_
        intro dropped
        rw [settle_objects, if_neg apart, busy] at dropped
        cases dropped.1

/-- A call that abandons an operation starts another one beside it. -/
theorem not_exclusive_of_abandons {server after : Server} {action : Action}
    (holds : Invariant server) (taken : step server action = some after)
    (abandons : server.abandons action = true) : ¬ after.Exclusive := by
  intro exclusive
  cases action with
  | settle number now => cases abandons
  | call key now =>
      cases found : server.limiter.entries.get key with
      | none =>
          rw [Server.abandons, found] at abandons
          cases abandons
      | some ref =>
          simp only [Server.abandons, found, Bool.and_eq_true] at abandons
          obtain ⟨number, call, running, same⟩ := (holds.references.inFlight ref).1 abandons.2
          have owner : call.key = key := by
            rw [← holds.references.callKey number call running, same]
            exact holds.references.entryKey key ref found
          cases step_cases taken with
          | refused later live refuses =>
              rw [live.1, Option.some.injEq] at found
              rw [← found, live.2] at abandons
              cases abandons.1
          | joined later live admits =>
              rw [live.1, Option.some.injEq] at found
              rw [← found, live.2] at abandons
              cases abandons.1
          | opened later unwindowed =>
              have used := holds.references.callNumber number call running
              have kept : (server.begun (server.limiter.renew key now).1
                  ⟨key, server.limiter.allocated⟩ key now).running.get number = some call := by
                rw [Server.begun, Table.get_put, if_neg (Nat.ne_of_lt used), running]
              have added : (server.begun (server.limiter.renew key now).1
                  ⟨key, server.limiter.allocated⟩ key now).running.get server.calls =
                    some ⟨key, ⟨key, server.limiter.allocated⟩, now⟩ := by
                rw [Server.begun, Table.get_put, if_pos rfl]
              exact Nat.ne_of_lt used (exclusive number server.calls call _ kept added owner)

/-- A rejected call changes nothing but the time. -/
theorem rejected_step {server after : Server} {action : Action}
    (taken : step server action = some after) (rejected : server.rejects action = true) :
    ∃ now, after = server.later now := by
  cases step_cases taken with
  | refused later live refuses => exact ⟨_, rfl⟩
  | @joined key now ref later live admits =>
      unfold RateLimitEntry.refuses at admits
      simp [Server.rejects, LocalCheckRateLimiter.enter, current_live live, admits] at rejected
  | opened later unwindowed =>
      simp [Server.rejects, LocalCheckRateLimiter.enter, current_unwindowed unwindowed,
        LocalCheckRateLimiter.renew, LocalCheckRateLimiter.write, MANUAL_CHECKS_PER_WINDOW]
        at rejected
  | settled later running => cases rejected

theorem invariant_run {visited : List (Server × Action)} {last : Server}
    (run : Run step initial visited last) : Invariant last :=
  run.preserves (fun _ _ => True) Invariant invariant_initial
    (fun _ _ _ holds _ taken => invariant_step holds taken) (fun _ _ _ => trivial)

/-- Operations of one key overlap in a run exactly when some call abandons one. -/
theorem exclusive_run_iff {visited : List (Server × Action)} {last : Server}
    (run : Run step initial visited last) :
    Along (fun server _ => server.Exclusive) visited ∧ last.Exclusive ↔
      Along (fun server action => server.abandons action = false) visited := by
  constructor
  · intro exclusive
    induction run with
    | start =>
        intro server action member
        cases member
    | @next middle after visited action run taken ih =>
        have earlier := ih ⟨exclusive.1.of_append, exclusive.1.last⟩
        intro server other member
        rcases List.mem_append.1 member with before | final
        · exact earlier server other before
        · cases List.mem_singleton.1 final
          cases abandons : middle.abandons action with
          | false => rfl
          | true =>
              exact absurd exclusive.2
                (not_exclusive_of_abandons (invariant_run run) taken abandons)
  · intro orderly
    have initially : Invariant initial ∧ initial.Attached :=
      ⟨invariant_initial, fun _ _ stored => nomatch stored⟩
    have preserved : ∀ server action after, Invariant server ∧ server.Attached →
        server.abandons action = false → step server action = some after →
          Invariant after ∧ after.Attached :=
      fun server action after holds quiet taken =>
        ⟨invariant_step holds.1 taken, attached_step holds.1 holds.2 taken quiet⟩
    have shown : Along (fun server _ => server.Exclusive) visited :=
      run.shows _ _ initially preserved (fun _ _ _ holds _ _ => holds.1.exclusive holds.2) orderly
    have final := run.preserves _ _ initially preserved orderly
    exact ⟨shown, final.1.exclusive final.2⟩

/-- In every run the windows are bounded and rejected calls change nothing; operations of a
key stay apart exactly in the runs without a call that abandons one. -/
theorem manual_checks_overlap_iff {visited : List (Server × Action)} {last : Server}
    (run : Run step initial visited last) :
    (Along (fun server _ => server.Exclusive) visited ∧ last.Exclusive ↔
        Along (fun server action => server.abandons action = false) visited) ∧
      last.WindowsBounded ∧
      ∀ action after, step last action = some after → last.rejects action = true →
        after.running = last.running ∧ after.starts = last.starts ∧
          after.limiter = last.limiter := by
  refine ⟨exclusive_run_iff run, (invariant_run run).windows_bounded, ?_⟩
  intro action after taken rejected
  obtain ⟨now, rfl⟩ := rejected_step taken rejected
  exact ⟨rfl, rfl, rfl⟩

/-- The first operation takes a minute, and a second call starts another one beside it. -/
def longOperation : List Action :=
  [.call "target:status.example" 0, .call "target:status.example" 60000]

theorem manual_checks_overlap_iff_long_operation :
    ∃ visited last, Run step initial visited last ∧
      (Along (fun server _ => server.Exclusive) visited ∧ last.Exclusive ↔
        Along (fun server action => server.abandons action = false) visited) ∧
      last.WindowsBounded := by
  have passed : replaySatisfies step initial longOperation (fun _ _ => true) = true := by
    decide +kernel
  obtain ⟨visited, last, run, -⟩ := run_of_replay_satisfies passed
  exact ⟨visited, last, run, (manual_checks_overlap_iff run).1,
    (manual_checks_overlap_iff run).2.1⟩

theorem manual_checks_overlap :
    ¬ ∀ (visited : List (Server × Action)) (last : Server),
      Run step initial visited last → last.Exclusive := by
  intro exclusive
  have passed : replaySatisfies step initial longOperation (fun _ last =>
      (last.running.get 0).map RunningCall.key = some "target:status.example" &&
        (last.running.get 1).map RunningCall.key = some "target:status.example") = true := by
    decide +kernel
  obtain ⟨visited, last, run, tested⟩ := run_of_replay_satisfies passed
  simp only [Bool.and_eq_true, decide_eq_true_eq, Option.map_eq_some_iff] at tested
  obtain ⟨⟨call, first, firstKey⟩, ⟨other, second, secondKey⟩⟩ := tested
  have same := exclusive visited last run 0 1 call other first second
    (firstKey.trans secondKey.symm)
  cases same

end LinkAlive.ManualChecks
