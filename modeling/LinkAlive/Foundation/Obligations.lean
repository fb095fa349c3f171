import Mathlib.Data.List.Basic

/-!
# Histories with obligations

A history grows at its end. It obeys a rule when each event is permitted by the events before
it. Some events open an item that a later event settles; the pending items of a history are
those that are opened and not settled since.
-/

namespace Obligations

set_option autoImplicit false

variable {Event Item : Type}

inductive Obeys (permitted : List Event → Event → Prop) : List Event → Prop
  | nil : Obeys permitted []
  | snoc {history : List Event} {event : Event} (obeys : Obeys permitted history)
      (permits : permitted history event) : Obeys permitted (history ++ [event])

theorem Obeys.permits {permitted : List Event → Event → Prop} {history : List Event}
    (obeys : Obeys permitted history) {before after : List Event} {event : Event}
    (split : history = before ++ event :: after) : permitted before event := by
  induction obeys generalizing after with
  | nil => simp at split
  | @snoc earlier last _ permits ih =>
      rcases List.eq_nil_or_concat after with rfl | ⟨later, final, rfl⟩
      · obtain ⟨rfl, same⟩ := List.append_inj' split rfl
        cases same
        exact permits
      · have shorter : earlier ++ [last] = (before ++ event :: later) ++ [final] := by
          rw [split, List.concat_eq_append, List.append_assoc, List.cons_append]
        exact ih (List.append_inj' shorter rfl).1

/-- What a history has been up to some point obeys the rule too. -/
theorem Obeys.earlier {permitted : List Event → Event → Prop} {history : List Event}
    (obeys : Obeys permitted history) {before after : List Event}
    (split : history = before ++ after) : Obeys permitted before := by
  induction obeys generalizing after with
  | nil =>
      obtain ⟨rfl, -⟩ := List.append_eq_nil_iff.1 split.symm
      exact .nil
  | @snoc earlier last obeys permits ih =>
      rcases List.eq_nil_or_concat after with rfl | ⟨later, final, rfl⟩
      · rw [List.append_nil] at split
        subst split
        exact .snoc obeys permits
      · have shorter : earlier ++ [last] = (before ++ later) ++ [final] := by
          rw [split, List.concat_eq_append, List.append_assoc]
        exact ih (List.append_inj' shorter rfl).1

section Pending

variable (opens : Event → Option Item) (settles : Event → Item → Bool)

def pendingAfter (items : List Item) (event : Event) : List Item :=
  match opens event with
  | some item => item :: items
  | none => items.filter fun item => !settles event item

def pending (history : List Event) : List Item := history.foldl (pendingAfter opens settles) []

variable {opens settles}

@[simp] theorem pending_nil : pending opens settles [] = [] := rfl

@[simp] theorem pending_concat (history : List Event) (event : Event) :
    pending opens settles (history ++ [event]) =
      pendingAfter opens settles (pending opens settles history) event := by
  simp [pending, List.foldl_append]

theorem mem_pending_after {items : List Item} {item : Item} {event : Event}
    (found : item ∈ pendingAfter opens settles items event) :
    opens event = some item ∨
      item ∈ items ∧ (opens event = none → settles event item = false) := by
  unfold pendingAfter at found
  cases opened : opens event with
  | some other =>
      rw [opened] at found
      rcases List.mem_cons.1 found with rfl | found
      · exact .inl rfl
      · exact .inr ⟨found, fun quiet => nomatch quiet⟩
  | none =>
      rw [opened] at found
      obtain ⟨found, unsettled⟩ := List.mem_filter.1 found
      exact .inr ⟨found, fun _ => by simpa using unsettled⟩

theorem pending_of_unsettled {item : Item} {items : List Item} {later : List Event}
    (member : item ∈ items) (unsettled : ∀ event ∈ later, settles event item = false) :
    item ∈ later.foldl (pendingAfter opens settles) items := by
  induction later generalizing items with
  | nil => exact member
  | cons event later ih =>
      apply ih
      · unfold pendingAfter
        split
        · exact List.mem_cons_of_mem _ member
        · exact List.mem_filter.2 ⟨member, by simp [unsettled event List.mem_cons_self]⟩
      · exact fun next found => unsettled next (List.mem_cons_of_mem _ found)

/-- In a history that ends without pending items every item is settled after it was
opened. -/
theorem settled_of_none_pending {history before after : List Event} {event : Event} {item : Item}
    (none : pending opens settles history = []) (split : history = before ++ event :: after)
    (opened : opens event = some item) : ∃ later ∈ after, settles later item = true := by
  by_contra unsettled
  have kept : ∀ later ∈ after, settles later item = false := by
    intro later member
    cases settled : settles later item with
    | false => rfl
    | true => exact absurd ⟨later, member, settled⟩ unsettled
  have first : item ∈ pendingAfter opens settles (pending opens settles before) event := by
    simp [pendingAfter, opened]
  have last : item ∈ after.foldl (pendingAfter opens settles)
      (pendingAfter opens settles (pending opens settles before) event) :=
    pending_of_unsettled first kept
  have whole : pending opens settles history = after.foldl (pendingAfter opens settles)
      (pendingAfter opens settles (pending opens settles before) event) := by
    rw [split]
    simp [pending, List.foldl_append]
  rw [← whole, none] at last
  cases last

end Pending

end Obligations
