import LinkAlive.Foundation.Obligations
import LinkAlive.Monitoring.Checker
import Mathlib.Data.List.Nodup

/-!
# The log of a check

What the log of a check says about its leases, its responses and its requests, and the rule
that every entry of it obeys.
-/

namespace LinkAlive.Monitoring

open Obligations

set_option autoImplicit false

section Entries

variable {library : UrlLibrary}

abbrev Guard (library : UrlLibrary) := Nat × SafeDestination library

def Event.acquires : Event library → Option (Guard library)
  | .acquired lease destination => some (lease, destination)
  | _ => none

def Event.responds : Event library → Option Nat
  | .responded response => some response
  | _ => none

def Event.requests : Event library → Option (String × String)
  | .requested destination cookie => some (library.serialize destination.url, cookie)
  | _ => none

def Event.frees : Event library → Guard library → Bool
  | .released lease fulfilled, guard => lease = guard.1 && fulfilled
  | _, _ => false

def Event.triesToRelease : Event library → Guard library → Bool
  | .released lease _, guard => lease = guard.1
  | _, _ => false

def Event.triesToClose : Event library → Nat → Bool
  | .closed response _, opened => response = opened
  | _, _ => false

def Event.limiterFailed : Event library → Bool
  | .acquireFailed _ | .released _ false => true
  | _ => false

end Entries

section Log

variable {library : UrlLibrary} (log : List (Event library))

def held : List (Guard library) := pending Event.acquires Event.frees log

def unreleased : List (Guard library) := pending Event.acquires Event.triesToRelease log

def unclosed : List Nat := pending Event.responds Event.triesToClose log

def requestStates : List (String × String) := log.filterMap Event.requests

def leaseNumbers : List Nat := (log.filterMap Event.acquires).map Prod.fst

def responseNumbers : List Nat := log.filterMap Event.responds

def limiterFailed : Bool := log.any Event.limiterFailed

/-- What may happen after the log: a new lease while none is held, a new response, and a
request that is new and, where leases are `required`, made with the lease of its destination. -/
def Permitted (required : Bool) (log : List (Event library)) : Event library → Prop
  | .acquired lease _ => held log = [] ∧ lease ∉ leaseNumbers log
  | .requested destination cookie =>
      (required = true → ∃ lease, held log = [(lease, destination)]) ∧
        (library.serialize destination.url, cookie) ∉ requestStates log
  | .responded response => response ∉ responseNumbers log
  | _ => True

end Log

variable {library : UrlLibrary} {required : Bool} {log : List (Event library)}

@[simp] theorem request_states_concat (event : Event library) :
    requestStates (log ++ [event]) = requestStates log ++ event.requests.toList := by
  cases event <;> simp [requestStates, Event.requests]

@[simp] theorem lease_numbers_concat (event : Event library) :
    leaseNumbers (log ++ [event]) = leaseNumbers log ++ (event.acquires.map Prod.fst).toList := by
  cases event <;> simp [leaseNumbers, Event.acquires]

@[simp] theorem response_numbers_concat (event : Event library) :
    responseNumbers (log ++ [event]) = responseNumbers log ++ event.responds.toList := by
  cases event <;> simp [responseNumbers, Event.responds]

@[simp] theorem limiter_failed_concat (event : Event library) :
    limiterFailed (log ++ [event]) = (limiterFailed log || event.limiterFailed) := by
  simp [limiterFailed]

@[simp] theorem held_concat (event : Event library) :
    held (log ++ [event]) = pendingAfter Event.acquires Event.frees (held log) event :=
  pending_concat log event

@[simp] theorem unreleased_concat (event : Event library) :
    unreleased (log ++ [event]) =
      pendingAfter Event.acquires Event.triesToRelease (unreleased log) event :=
  pending_concat log event

@[simp] theorem unclosed_concat (event : Event library) :
    unclosed (log ++ [event]) =
      pendingAfter Event.responds Event.triesToClose (unclosed log) event :=
  pending_concat log event

theorem held_at_most_one (obeys : Obeys (Permitted required) log) : (held log).length ≤ 1 := by
  induction obeys with
  | nil => exact Nat.zero_le 1
  | @snoc earlier event _ permits ih =>
      rw [held_concat]
      cases event with
      | acquired lease destination =>
          rw [permits.1]
          exact Nat.le_refl 1
      | acquireFailed | requested | responded | closed | released =>
          exact le_trans (List.length_filter_le _ _) ih

theorem request_states_nodup (obeys : Obeys (Permitted required) log) :
    (requestStates log).Nodup := by
  induction obeys with
  | nil => exact List.nodup_nil
  | @snoc earlier event _ permits ih =>
      rw [request_states_concat]
      cases event with
      | requested destination cookie =>
          have fresh : (library.serialize destination.url, cookie) ∉ requestStates earlier :=
            permits.2
          rw [Event.requests, Option.toList_some, ← List.concat_eq_append]
          exact ih.concat fresh
      | acquired | acquireFailed | responded | closed | released =>
          simpa only [Event.requests, Option.toList_none, List.append_nil] using ih

end LinkAlive.Monitoring
