import LinkAlive.Domain.Types
import LinkAlive.Foundation.Periodic
import LinkAlive.Foundation.Texts

/-!
# Schedule arithmetic

The slot functions of `packages/domain/src/scheduling.ts` and its staleness. Dates are
valid by their type; truncated subtraction agrees with the source because the functions treat a
negative elapsed time like an elapsed time of zero or return early. The jitter ratio is
its default, a tenth: intervals are whole seconds, so the product is exact.
-/

namespace LinkAlive

set_option autoImplicit false

def intervalToMilliseconds (intervalSec : Nat) : Except RangeError Nat :=
  if !isSafeInteger intervalSec || intervalSec < 1 then
    .error ⟨"intervalSec must be a positive safe integer"⟩
  else .ok (intervalSec * 1000)

def fnv1a (value : String) : Nat :=
  (codeUnits value).foldl (fun hash unit => (hash ^^^ unit) * 0x01000193 % 0x100000000) 0x811c9dc5

def stableJitterMs (monitorId : String) (intervalSec : Nat) : Except RangeError Nat := do
  let intervalMs ← intervalToMilliseconds intervalSec
  if textLength (trimText monitorId) = 0 then throw ⟨"monitorId cannot be empty"⟩
  let windowMs := intervalMs / 10
  return if windowMs = 0 then 0 else fnv1a monitorId % windowMs

def calculateInitialNextCheckAt (monitorId : String) (intervalSec : Nat) (now : Time) :
    Except RangeError Time := do
  let intervalMs ← intervalToMilliseconds intervalSec
  let bucketStart := now / intervalMs * intervalMs + intervalMs
  let jitter ← stableJitterMs monitorId intervalSec
  return bucketStart + jitter

/-- The first future slot of the original schedule. -/
def calculateNextCheckAt (scheduledAt : Time) (intervalSec : Nat) (now : Time) :
    Except RangeError Time := do
  let intervalMs ← intervalToMilliseconds intervalSec
  let intervalsToAdvance := max 1 ((now - scheduledAt) / intervalMs + 1)
  return scheduledAt + intervalsToAdvance * intervalMs

/-- The most recent due slot after downtime, if any is due. -/
def coalesceDueScheduledAt (nextCheckAt : Time) (intervalSec : Nat) (now : Time) :
    Except RangeError (Option Time) := do
  let intervalMs ← intervalToMilliseconds intervalSec
  if now < nextCheckAt then return none
  return some (nextCheckAt + (now - nextCheckAt) / intervalMs * intervalMs)

def staleAfter (nextCheckAt : Time) (intervalSec : Nat) : Except RangeError Time := do
  let intervalMs ← intervalToMilliseconds intervalSec
  let graceMs := max (intervalMs * 2) (5 * 60000)
  return nextCheckAt + graceMs

def isMonitorStale (nextCheckAt : Option Time) (intervalSec : Nat) (now : Time) :
    Except RangeError Bool :=
  match nextCheckAt with
  | none => .ok false
  | some nextCheckAt => do
      let limit ← staleAfter nextCheckAt intervalSec
      return decide (limit < now)

theorem interval_to_milliseconds_cases {intervalSec intervalMs : Nat}
    (converted : intervalToMilliseconds intervalSec = .ok intervalMs) :
    intervalMs = intervalSec * 1000 ∧ 0 < intervalMs := by
  unfold intervalToMilliseconds at converted
  split at converted
  · cases converted
  · rename_i allowed
    cases converted
    simp only [Bool.or_eq_true, decide_eq_true_eq, not_or, Nat.not_lt] at allowed
    exact ⟨rfl, by omega⟩

/-- The first slot of a new schedule lies in the future. -/
theorem initial_next_check_at_future {monitorId : String} {intervalSec now next : Nat}
    (computed : calculateInitialNextCheckAt monitorId intervalSec now = .ok next) :
    now < next := by
  simp only [calculateInitialNextCheckAt, bind, Except.bind, pure, Except.pure] at computed
  split at computed
  · cases computed
  · rename_i intervalMs converted
    split at computed
    · cases computed
    · rename_i jitter _
      cases computed
      have positive := (interval_to_milliseconds_cases converted).2
      have division := Nat.div_add_mod now intervalMs
      have remainder := Nat.mod_lt now positive
      rw [Nat.mul_comm] at division
      omega

theorem coalesce_due_cases {nextCheckAt now scheduledAt intervalSec : Nat}
    (coalesced : coalesceDueScheduledAt nextCheckAt intervalSec now = .ok (some scheduledAt)) :
    scheduledAt ∈ Periodic.slots nextCheckAt (intervalSec * 1000) ∧ scheduledAt ≤ now := by
  simp only [coalesceDueScheduledAt, bind, Except.bind, pure, Except.pure] at coalesced
  split at coalesced
  · cases coalesced
  · rename_i intervalMs converted
    split at coalesced
    · cases coalesced
    · rename_i early
      cases coalesced
      have due : nextCheckAt ≤ now := Nat.le_of_not_lt early
      have length := (interval_to_milliseconds_cases converted).1
      have below := Nat.div_mul_le_self (now - nextCheckAt) intervalMs
      refine ⟨⟨(now - nextCheckAt) / intervalMs, by rw [length]⟩, ?_⟩
      omega

theorem next_check_at_cases {scheduledAt now next intervalSec : Nat}
    (computed : calculateNextCheckAt scheduledAt intervalSec now = .ok next) :
    now < next ∧ scheduledAt < next ∧
      next ∈ Periodic.slots scheduledAt (intervalSec * 1000) := by
  simp only [calculateNextCheckAt, bind, Except.bind, pure, Except.pure] at computed
  split at computed
  · cases computed
  · rename_i intervalMs converted
    cases computed
    obtain ⟨length, positive⟩ := interval_to_milliseconds_cases converted
    have division := Nat.div_add_mod (now - scheduledAt) intervalMs
    have remainder := Nat.mod_lt (now - scheduledAt) positive
    have steps : max 1 ((now - scheduledAt) / intervalMs + 1) =
        (now - scheduledAt) / intervalMs + 1 := Nat.max_eq_right (Nat.le_add_left 1 _)
    rw [steps]
    refine ⟨?_, ?_, ⟨(now - scheduledAt) / intervalMs + 1, by rw [length]⟩⟩
    · rw [Nat.add_mul, Nat.one_mul, Nat.mul_comm]
      omega
    · rw [Nat.add_mul, Nat.one_mul]
      omega

theorem coalesce_due_latest {nextCheckAt now scheduledAt intervalSec : Nat}
    (coalesced : coalesceDueScheduledAt nextCheckAt intervalSec now = .ok (some scheduledAt)) :
    0 < intervalSec * 1000 ∧ nextCheckAt ≤ now ∧
      scheduledAt = Periodic.latest nextCheckAt (intervalSec * 1000) now := by
  simp only [coalesceDueScheduledAt, bind, Except.bind, pure, Except.pure] at coalesced
  split at coalesced
  · cases coalesced
  · rename_i intervalMs converted
    obtain ⟨rfl, positive⟩ := interval_to_milliseconds_cases converted
    split at coalesced
    · cases coalesced
    · rename_i early
      cases coalesced
      exact ⟨positive, Nat.le_of_not_lt early, rfl⟩

theorem next_check_at_advances {scheduledAt now next intervalSec : Nat}
    (computed : calculateNextCheckAt scheduledAt intervalSec now = .ok next)
    (past : scheduledAt ≤ now) (last : now < scheduledAt + intervalSec * 1000) :
    next = scheduledAt + intervalSec * 1000 := by
  simp only [calculateNextCheckAt, bind, Except.bind, pure, Except.pure] at computed
  split at computed
  · cases computed
  · rename_i intervalMs converted
    cases computed
    obtain ⟨rfl, -⟩ := interval_to_milliseconds_cases converted
    have none : (now - scheduledAt) / (intervalSec * 1000) = 0 :=
      Nat.div_eq_of_lt (by omega)
    rw [none, Nat.zero_add, Nat.max_self, Nat.one_mul]

theorem interval_to_milliseconds_ok {intervalSec : Nat} (positive : 1 ≤ intervalSec)
    (safe : isSafeInteger intervalSec = true) :
    intervalToMilliseconds intervalSec = .ok (intervalSec * 1000) := by
  unfold intervalToMilliseconds
  rw [if_neg]
  simp only [safe, Bool.not_true, Bool.false_or, decide_eq_true_eq]
  omega

/-- The jitter of a monitor does not depend on the time and stays below a tenth of the
interval. -/
theorem stable_jitter_ok {monitorId : String} {intervalSec : Nat} (positive : 1 ≤ intervalSec)
    (safe : isSafeInteger intervalSec = true)
    (named : textLength (trimText monitorId) ≠ 0) :
    ∃ jitter, stableJitterMs monitorId intervalSec = .ok jitter ∧ jitter < intervalSec * 100 := by
  have window : intervalSec * 1000 / 10 = intervalSec * 100 := by omega
  have wide : intervalSec * 100 ≠ 0 := by omega
  refine ⟨fnv1a monitorId % (intervalSec * 100), ?_, Nat.mod_lt _ (by omega)⟩
  simp only [stableJitterMs, interval_to_milliseconds_ok positive safe, if_neg named, bind,
    Except.bind, pure, Except.pure, window, if_neg wide]

/-- The first slot lies in the next bucket of the wall clock, less than a tenth of the
interval behind its start. -/
theorem initial_next_check_at_bucket {monitorId : String} {intervalSec : Nat}
    (positive : 1 ≤ intervalSec) (safe : isSafeInteger intervalSec = true)
    (named : textLength (trimText monitorId) ≠ 0) :
    ∃ jitter, jitter < intervalSec * 100 ∧ ∀ now,
      calculateInitialNextCheckAt monitorId intervalSec now =
        .ok (now / (intervalSec * 1000) * (intervalSec * 1000) + intervalSec * 1000 + jitter) := by
  obtain ⟨jitter, stable, short⟩ := stable_jitter_ok positive safe named
  refine ⟨jitter, short, fun now => ?_⟩
  simp only [calculateInitialNextCheckAt, interval_to_milliseconds_ok positive safe, stable, bind,
    Except.bind, pure, Except.pure]

theorem is_monitor_stale_some {intervalSec intervalMs : Nat}
    (converted : intervalToMilliseconds intervalSec = .ok intervalMs) (nextCheckAt now : Time) :
    isMonitorStale (some nextCheckAt) intervalSec now =
      .ok (decide (nextCheckAt + max (intervalSec * 2000) 300000 < now)) := by
  have length : intervalMs * 2 = intervalSec * 2000 := by
    rw [(interval_to_milliseconds_cases converted).1, Nat.mul_assoc]
  simp only [isMonitorStale, staleAfter, converted, bind, Except.bind, pure, Except.pure, length]

end LinkAlive
