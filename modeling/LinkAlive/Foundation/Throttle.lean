import Mathlib.Data.List.Chain
import Mathlib.Data.List.Induction

/-!
# Throttled records

A record of the latest event that is renewed at most once per interval: an event renews it
only when the record is at least an interval old. The record lags the latest event by less
than the interval, so a deadline after the record comes early by less than that.
-/

namespace Throttle

set_option autoImplicit false

def note (interval noted time : Nat) : Nat := if noted + interval ≤ time then time else noted

def noted (interval first : Nat) (times : List Nat) : Nat := times.foldl (note interval) first

/-- Every event comes less than `span` after the record of the events before it. -/
def Timely (interval span first : Nat) (times : List Nat) : Prop :=
  ∀ earlier time later, times = earlier ++ time :: later →
    time < noted interval first earlier + span

/-- Every event comes less than `span` after the event before it. -/
def Spaced (span first : Nat) (times : List Nat) : Prop :=
  (first :: times).IsChain fun earlier later => later < earlier + span

variable {interval span first time : Nat} {times : List Nat}

theorem noted_concat : noted interval first (times ++ [time]) =
    note interval (noted interval first times) time := by
  simp [noted]

theorem lt_note_add (positive : 0 < interval) : time < note interval first time + interval := by
  unfold note
  split <;> omega

theorem timely_nil : Timely interval span first [] := by
  intro earlier time later split
  simp at split

theorem timely_concat : Timely interval span first (times ++ [time]) ↔
    Timely interval span first times ∧ time < noted interval first times + span := by
  constructor
  · intro timely
    constructor
    · intro earlier event later split
      exact timely earlier event (later ++ [time]) (by simp [split])
    · exact timely times time [] rfl
  · intro timely earlier event later split
    cases later using List.reverseRecOn with
    | nil =>
        obtain ⟨same, last⟩ := List.append_inj' split rfl
        cases last
        exact same ▸ timely.2
    | append_singleton later last =>
        rw [← List.cons_append, ← List.append_assoc] at split
        exact timely.1 earlier event later (List.append_inj' split rfl).1

theorem timely_cons : Timely interval span first (time :: times) ↔
    time < first + span ∧ Timely interval span (note interval first time) times := by
  constructor
  · intro timely
    refine ⟨timely [] time times rfl, ?_⟩
    intro earlier event later split
    exact timely (time :: earlier) event later (by simp [split])
  · intro timely earlier event later split
    cases earlier with
    | nil =>
        cases split
        exact timely.1
    | cons again earlier =>
        cases split
        exact timely.2 earlier event later rfl

/-- The record lags the latest event by less than the interval. -/
theorem timely_of_lagging {record : Nat} (positive : 0 < interval)
    (lagging : first < record + interval)
    (spaced : (first :: times).IsChain fun earlier later => later + interval ≤ earlier + span) :
    Timely interval span record times := by
  induction times generalizing first record with
  | nil => exact timely_nil
  | cons time times induction =>
      have gap : time + interval ≤ first + span := by simpa using spaced.rel
      rw [timely_cons]
      exact ⟨by omega, induction (lt_note_add positive) spaced.tail⟩

theorem timely_of_spaced (positive : 0 < interval)
    (spaced : (first :: times).IsChain fun earlier later => later + interval ≤ earlier + span) :
    Timely interval span first times :=
  timely_of_lagging positive (Nat.lt_add_of_pos_right positive) spaced

end Throttle
