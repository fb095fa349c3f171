import Mathlib.Data.Set.Basic
import Mathlib.Data.Nat.ModEq

/-!
# Periodic schedules

The slots of a schedule that repeats from its next slot on. Moving a schedule along its
own slots only drops slots, so a slot that it does not meet now is never met again.
-/

namespace Periodic

set_option autoImplicit false

def slots (next period : Nat) : Set Nat := {slot | ∃ count, slot = next + count * period}

variable {next later slot period : Nat}

theorem le_of_mem_slots (member : slot ∈ slots next period) : next ≤ slot := by
  obtain ⟨count, rfl⟩ := member
  exact Nat.le_add_right next _

theorem mem_slots_iff : slot ∈ slots next period ↔ next ≤ slot ∧ period ∣ slot - next := by
  constructor
  · intro member
    refine ⟨le_of_mem_slots member, ?_⟩
    obtain ⟨count, rfl⟩ := member
    rw [Nat.add_sub_cancel_left]
    exact Nat.dvd_mul_left period count
  · rintro ⟨after, count, same⟩
    refine ⟨count, ?_⟩
    rw [Nat.mul_comm, ← same, Nat.add_sub_of_le after]

instance (slot next period : Nat) : Decidable (slot ∈ slots next period) :=
  decidable_of_iff (next ≤ slot ∧ period ∣ slot - next) mem_slots_iff.symm

/-- A schedule that has moved along its slots keeps a part of them. -/
theorem slots_subset (moved : later ∈ slots next period) :
    slots later period ⊆ slots next period := by
  obtain ⟨first, rfl⟩ := moved
  rintro slot ⟨count, rfl⟩
  exact ⟨first + count, by rw [Nat.add_mul, Nat.add_assoc]⟩

theorem not_mem_slots_of_lt (before : slot < next) : slot ∉ slots next period :=
  fun member => Nat.not_lt.2 (le_of_mem_slots member) before

variable {anchor now other : Nat}

/-- Two times of one schedule that lie less than a period apart are the same. -/
theorem eq_of_residue (same : slot % period = other % period) (before : slot ≤ other)
    (near : other < slot + period) : slot = other := by
  have divides : period ∣ other - slot := (Nat.modEq_iff_dvd' before).1 same
  have short : other - slot < period := by omega
  have none := Nat.eq_zero_of_dvd_of_lt divides short
  omega

/-- The last slot of a schedule that is not in the future. -/
def latest (anchor period now : Nat) : Nat := anchor + (now - anchor) / period * period

@[simp] theorem latest_mod (anchor period now : Nat) :
    latest anchor period now % period = anchor % period := Nat.add_mul_mod_self_right _ _ _

theorem latest_le (begun : anchor ≤ now) : latest anchor period now ≤ now := by
  have below := Nat.div_mul_le_self (now - anchor) period
  unfold latest
  omega

theorem anchor_le_latest (anchor period now : Nat) : anchor ≤ latest anchor period now :=
  Nat.le_add_right anchor _

theorem lt_latest_add (positive : 0 < period) (anchor now : Nat) :
    now < latest anchor period now + period := by
  have division := Nat.div_add_mod (now - anchor) period
  have remainder := Nat.mod_lt (now - anchor) positive
  rw [Nat.mul_comm] at division
  unfold latest
  omega

/-- No other time of the schedule lies between the last slot and the present. -/
theorem le_latest (positive : 0 < period) (onSchedule : other % period = anchor % period)
    (past : other ≤ now) : other ≤ latest anchor period now := by
  rcases Nat.le_total other (latest anchor period now) with earlier | later
  · exact earlier
  · have near := lt_latest_add positive anchor now
    have same := eq_of_residue ((latest_mod anchor period now).trans onSchedule.symm) later
      (Nat.lt_of_le_of_lt past near)
    exact Nat.le_of_eq same.symm

theorem next_slot_unique (positive : 0 < period) (begun : anchor ≤ now)
    (onSchedule : other % period = anchor % period) (future : now < other)
    (soon : other ≤ now + period) : other = latest anchor period now + period := by
  have residue : (latest anchor period now + period) % period = other % period := by
    rw [Nat.add_mod_right, latest_mod, onSchedule]
  have above := lt_latest_add positive anchor now
  have below : latest anchor period now ≤ now := latest_le begun
  rcases Nat.le_total (latest anchor period now + period) other with later | earlier
  · exact (eq_of_residue residue later (by omega)).symm
  · exact eq_of_residue residue.symm earlier (by omega)

end Periodic
