import Mathlib.Data.List.Basic

/-!
# A loop that arms itself again

A poll runs, and when it has finished it arms a timer for the next one, unless the process has
been stopped. The handle of the last timer is kept in a variable; stopping clears that timer.
Timers are numbered in the order in which they are created.
-/

namespace PollLoop

set_option autoImplicit false

structure Loop where
  /-- The polls that run. -/
  running : Nat
  /-- The timers that have neither fired nor been cleared. -/
  armed : List Nat
  handle : Option Nat
  created : Nat
deriving DecidableEq, Repr

namespace Loop

def idle : Loop := ⟨0, [], none, 0⟩

def turns (l : Loop) : Nat := l.running + l.armed.length

def poll (l : Loop) (stopped : Bool) : Loop :=
  if stopped then l else { l with running := l.running + 1 }

def finish (l : Loop) (stopped : Bool) : Loop :=
  if stopped then { l with running := l.running - 1 }
  else
    { running := l.running - 1
      armed := l.armed ++ [l.created]
      handle := some l.created
      created := l.created + 1 }

def fire (l : Loop) (timer : Nat) (stopped : Bool) : Loop :=
  { l with armed := l.armed.erase timer }.poll stopped

def clear (l : Loop) : Loop :=
  match l.handle with
  | none => l
  | some timer => { l with armed := l.armed.erase timer }

/-- There is one turn at most, and the variable keeps the timer that is armed. -/
structure Single (l : Loop) : Prop where
  one : l.turns ≤ 1
  kept : ∀ timer ∈ l.armed, l.handle = some timer

theorem idle_single : idle.Single :=
  ⟨Nat.zero_le _, fun _ member => absurd member List.not_mem_nil⟩

section Operations

variable {l : Loop} {timer : Nat}

/-- A poll that runs is the only turn. -/
theorem Single.unarmed (single : l.Single) (running : 0 < l.running) : l.armed = [] := by
  have one := single.one
  rw [turns] at one
  exact List.eq_nil_of_length_eq_zero (by omega)

theorem Single.only (single : l.Single) (armed : timer ∈ l.armed) :
    l.armed = [timer] ∧ l.running = 0 := by
  have one := single.one
  have some_ := List.length_pos_of_mem armed
  rw [turns] at one
  obtain ⟨first, shape⟩ := List.length_eq_one_iff.1 (show l.armed.length = 1 by omega)
  rw [shape, List.mem_singleton] at armed
  rw [shape, armed]
  exact ⟨rfl, by omega⟩

theorem poll_stopped : l.poll true = l := rfl

theorem poll_single (idle : l.turns = 0) (stopped : Bool) : (l.poll stopped).Single := by
  rw [turns] at idle
  have armed : l.armed = [] := List.eq_nil_of_length_eq_zero (by omega)
  have kept : ∀ timer ∈ l.armed, l.handle = some timer := by
    rw [armed]
    exact fun _ member => absurd member List.not_mem_nil
  cases stopped with
  | true => exact ⟨by rw [poll_stopped, turns]; omega, kept⟩
  | false =>
      refine ⟨?_, kept⟩
      change l.running + 1 + l.armed.length ≤ 1
      omega

theorem finish_single (single : l.Single) (running : 0 < l.running) (stopped : Bool) :
    (l.finish stopped).Single := by
  have armed := single.unarmed running
  have one := single.one
  rw [turns, armed, List.length_nil] at one
  cases stopped with
  | true =>
      constructor
      · change l.running - 1 + l.armed.length ≤ 1
        rw [armed, List.length_nil]
        omega
      · exact single.kept
  | false =>
      constructor
      · change l.running - 1 + (l.armed ++ [l.created]).length ≤ 1
        rw [armed, List.nil_append, List.length_singleton]
        omega
      · intro timer member
        change timer ∈ l.armed ++ [l.created] at member
        rw [armed, List.nil_append, List.mem_singleton] at member
        rw [member]
        rfl

theorem fire_single (single : l.Single) (armed : timer ∈ l.armed) (stopped : Bool) :
    (l.fire timer stopped).Single := by
  obtain ⟨shape, resting⟩ := single.only armed
  apply poll_single
  change l.running + (l.armed.erase timer).length = 0
  rw [resting, shape, List.erase_cons_head]
  rfl

/-- Clearing the kept timer leaves none. -/
theorem clear_unarmed (single : l.Single) : l.clear.armed = [] := by
  cases shape : l.armed with
  | nil =>
      rw [clear]
      split
      · exact shape
      · change l.armed.erase _ = []
        rw [shape]
        rfl
  | cons timer rest =>
      have member : timer ∈ l.armed := by
        rw [shape]
        exact List.mem_cons_self
      obtain ⟨only, -⟩ := single.only member
      rw [clear, single.kept timer member]
      change l.armed.erase timer = []
      rw [only, List.erase_cons_head]

theorem clear_running : l.clear.running = l.running := by
  rw [clear]
  split <;> rfl

theorem clear_single (single : l.Single) : l.clear.Single := by
  have armed := clear_unarmed single
  have one := single.one
  constructor
  · rw [turns] at one ⊢
    rw [armed, clear_running, List.length_nil]
    omega
  · rw [armed]
    exact fun _ member => absurd member List.not_mem_nil

theorem poll_turns (idle : l.turns = 0) : (l.poll false).turns = 1 := by
  rw [turns] at idle
  change l.running + 1 + l.armed.length = 1
  omega

theorem finish_turns (single : l.Single) (running : 0 < l.running) :
    (l.finish false).turns = 1 := by
  have armed := single.unarmed running
  have one := single.one
  rw [turns, armed, List.length_nil] at one
  change l.running - 1 + (l.armed ++ [l.created]).length = 1
  rw [armed, List.nil_append, List.length_singleton]
  omega

theorem fire_turns (single : l.Single) (armed : timer ∈ l.armed) :
    (l.fire timer false).turns = 1 := by
  obtain ⟨shape, resting⟩ := single.only armed
  apply poll_turns
  change l.running + (l.armed.erase timer).length = 0
  rw [resting, shape, List.erase_cons_head]
  rfl

end Operations

end Loop

end PollLoop
