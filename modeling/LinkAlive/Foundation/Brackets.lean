import Mathlib.Data.List.Basic

/-!
# Bracketed sequences

A sequence of events in which something is opened, used and closed again, one thing at a
time. What an event does to the bracket is its kind; the sequence is bracketed when every
event meets the bracket that its kind needs.
-/

namespace Brackets

set_option autoImplicit false

inductive Kind | opening | inner | closing | outside
deriving DecidableEq, Repr

def Kind.leaves (isOpen : Bool) : Kind → Bool
  | .opening => true
  | .closing => false
  | .inner | .outside => isOpen

/-- The bracket that an event needs; an outside event may happen at any time. -/
def Kind.meets (isOpen : Bool) : Kind → Prop
  | .opening => isOpen = false
  | .inner | .closing => isOpen = true
  | .outside => True

variable {Event : Type} (kind : Event → Kind)

def openAfter (isOpen : Bool) (events : List Event) : Bool :=
  events.foldl (fun before event => (kind event).leaves before) isOpen

def Bracketed (isOpen : Bool) : List Event → Prop
  | [] => True
  | event :: rest =>
      (kind event).meets isOpen ∧ Bracketed ((kind event).leaves isOpen) rest

def closings (events : List Event) : Nat :=
  events.countP fun event => kind event = .closing

variable {kind} {isOpen : Bool} {events earlier later : List Event} {event : Event}

@[simp] theorem open_after_nil : openAfter kind isOpen [] = isOpen := rfl

@[simp] theorem open_after_cons :
    openAfter kind isOpen (event :: later) =
      openAfter kind ((kind event).leaves isOpen) later := rfl

theorem bracketed_append :
    Bracketed kind isOpen (earlier ++ later) ↔
      Bracketed kind isOpen earlier ∧ Bracketed kind (openAfter kind isOpen earlier) later := by
  induction earlier generalizing isOpen with
  | nil => simp [Bracketed]
  | cons event earlier ih =>
      simp only [List.cons_append, Bracketed, open_after_cons, ih, and_assoc]

theorem Bracketed.meets (bracketed : Bracketed kind isOpen (earlier ++ event :: later)) :
    (kind event).meets (openAfter kind isOpen earlier) := by
  rw [bracketed_append] at bracketed
  exact bracketed.2.1

/-- While nothing is opened, a bracket that is open is closed at most once, and once
exactly when it ends closed; a closed one stays closed. -/
theorem Bracketed.closings_eq (bracketed : Bracketed kind isOpen events)
    (unopened : ∀ event ∈ events, kind event ≠ .opening) :
    closings kind events + (openAfter kind isOpen events).toNat = isOpen.toNat := by
  induction events generalizing isOpen with
  | nil => simp [closings]
  | cons event rest ih =>
      obtain ⟨meets, bracketedRest⟩ := bracketed
      have restUnopened : ∀ event ∈ rest, kind event ≠ .opening :=
        fun event member => unopened event (List.mem_cons_of_mem _ member)
      have counted := ih bracketedRest restUnopened
      have notOpening := unopened event List.mem_cons_self
      simp only [closings, List.countP_cons, open_after_cons] at counted ⊢
      cases sort : kind event with
      | opening => exact absurd sort notOpening
      | inner =>
          simp only [sort, Kind.leaves] at counted ⊢
          simpa using counted
      | outside =>
          simp only [sort, Kind.leaves] at counted ⊢
          simpa using counted
      | closing =>
          simp only [sort, Kind.leaves, Kind.meets] at counted meets ⊢
          simp only [meets, decide_true, if_true, Bool.toNat_true]
          simp only [Bool.toNat_false] at counted
          omega

theorem Bracketed.closes_once {between : List Event} {first second : Event}
    (bracketed : Bracketed kind isOpen (earlier ++ first :: (between ++ second :: later)))
    (opens : kind first = .opening) (opensAgain : kind second = .opening)
    (unopened : ∀ event ∈ between, kind event ≠ .opening) : closings kind between = 1 := by
  obtain ⟨_, _, tail⟩ := bracketed_append.1 bracketed
  simp only [opens, Kind.leaves] at tail
  have counted := (bracketed_append.1 tail).1.closings_eq unopened
  have closed : openAfter kind true between = false := by
    have meets := tail.meets
    rwa [opensAgain] at meets
  simpa [closed] using counted

end Brackets
