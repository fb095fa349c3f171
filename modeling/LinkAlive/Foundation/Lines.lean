import Mathlib.Data.List.Infix

/-!
# Lines of text

A list cut into lines at a separator: what is left of the lines when the list is cut off
somewhere, and the replacement of whole runs of elements, which keeps a separator out.
-/

namespace LinkAlive.Lines

set_option autoImplicit false

variable {α : Type}

/-- A run that is long enough becomes one element. -/
def closeRun (least : Nat) (replacement : α) (run : List α) : List α :=
  if run.length < least then run else [replacement]

def replaceFrom (p : α → Bool) (least : Nat) (replacement : α) : List α → List α → List α
  | run, [] => closeRun least replacement run
  | run, first :: rest =>
      if p first then replaceFrom p least replacement (run ++ [first]) rest
      else closeRun least replacement run ++ first :: replaceFrom p least replacement [] rest

/-- Every longest run of at least so many elements becomes one element. -/
def replaceRuns (p : α → Bool) (least : Nat) (replacement : α) (source : List α) : List α :=
  replaceFrom p least replacement [] source

section Runs

variable {p : α → Bool} {least : Nat} {replacement : α}

theorem mem_close_run {x : α} {run : List α} (member : x ∈ closeRun least replacement run) :
    x = replacement ∨ x ∈ run := by
  rw [closeRun] at member
  split at member
  · exact .inr member
  · exact .inl (List.mem_singleton.1 member)

/-- An element of a run is left only where runs of one element are. -/
theorem mem_replace_from {x : α} {run source : List α} (inRun : ∀ y ∈ run, p y = true)
    (member : x ∈ replaceFrom p least replacement run source) :
    x = replacement ∨ x ∈ run ∨ x ∈ source := by
  induction source generalizing run with
  | nil => exact (mem_close_run member).imp_right .inl
  | cons first rest induction =>
      rw [replaceFrom] at member
      split at member
      case isTrue inside =>
          have longer : ∀ y ∈ run ++ [first], p y = true := by
            intro y among
            rcases List.mem_append.1 among with earlier | last
            · exact inRun y earlier
            · rw [List.mem_singleton.1 last]
              exact inside
          rcases induction longer member with same | among | later
          · exact .inl same
          · rcases List.mem_append.1 among with earlier | last
            · exact .inr (.inl earlier)
            · exact .inr (.inr (List.mem_cons.2 (.inl (List.mem_singleton.1 last))))
          · exact .inr (.inr (List.mem_cons_of_mem _ later))
      case isFalse outside =>
          rcases List.mem_append.1 member with closed | later
          · exact (mem_close_run closed).imp_right .inl
          · rcases List.mem_cons.1 later with same | later
            · exact .inr (.inr (List.mem_cons.2 (.inl same)))
            · rcases induction (List.forall_mem_nil _) later with same | none | later
              · exact .inl same
              · cases none
              · exact .inr (.inr (List.mem_cons_of_mem _ later))

theorem mem_replace_runs {x : α} {source : List α}
    (member : x ∈ replaceRuns p least replacement source) : x = replacement ∨ x ∈ source := by
  rcases mem_replace_from (List.forall_mem_nil _) member with same | none | later
  · exact .inl same
  · cases none
  · exact .inr later

/-- Where every run is replaced, nothing of a run is left. -/
theorem replace_from_outside {x : α} {run source : List α}
    (member : x ∈ replaceFrom p 1 replacement run source) : x = replacement ∨ p x = false := by
  have closed : ∀ run : List α, x ∈ closeRun 1 replacement run → x = replacement := by
    intro run among
    cases run with
    | nil => cases among
    | cons => exact List.mem_singleton.1 among
  induction source generalizing run with
  | nil => exact .inl (closed run member)
  | cons first rest induction =>
      rw [replaceFrom] at member
      split at member
      case isTrue => exact induction member
      case isFalse outside =>
          rcases List.mem_append.1 member with before | later
          · exact .inl (closed run before)
          · rcases List.mem_cons.1 later with same | later
            · rw [same]
              exact .inr (Bool.eq_false_iff.2 outside)
            · exact induction later

end Runs

variable [BEq α] [LawfulBEq α]

/-- A list that is cut off shows its first lines, and a beginning of the next one. -/
theorem split_take (separator : α) {lines : List (List α)} (nonempty : lines ≠ [])
    (free : ∀ line ∈ lines, separator ∉ line) (count : Nat) :
    ∃ shown last next, (([separator].intercalate lines).take count).splitOn separator =
      lines.take shown ++ [last] ∧ lines[shown]? = some next ∧ last <+: next := by
  induction lines generalizing count with
  | nil => exact absurd rfl nonempty
  | cons first rest induction =>
      have clear : separator ∉ first := free first List.mem_cons_self
      by_cases short : count ≤ first.length
      · refine ⟨0, first.take count, first, ?_, rfl, List.take_prefix _ _⟩
        have within : ([separator].intercalate (first :: rest)).take count = first.take count := by
          cases rest with
          | nil => rw [List.intercalate_singleton]
          | cons second rest =>
              rw [List.intercalate_cons_cons, List.append_assoc, List.take_append_of_le_length short]
        have alone : separator ∉ first.take count := fun member => clear (List.mem_of_mem_take member)
        rw [within, List.splitOn_eq_singleton alone]
        rfl
      · cases rest with
        | nil =>
            refine ⟨0, first, first, ?_, rfl, List.prefix_refl _⟩
            rw [List.intercalate_singleton, List.take_of_length_le (Nat.le_of_not_le short),
              List.splitOn_eq_singleton clear]
            rfl
        | cons second rest =>
            have others : ∀ line ∈ second :: rest, separator ∉ line :=
              fun line member => free line (List.mem_cons_of_mem _ member)
            obtain ⟨shown, last, next, split, found, start⟩ :=
              induction (List.cons_ne_nil _ _) others (count - (first.length + 1))
            refine ⟨shown + 1, last, next, ?_, found, start⟩
            have before : first.length < count := Nat.lt_of_not_le short
            have cut : ([separator].intercalate (first :: second :: rest)).take count =
                first ++ separator ::
                  ([separator].intercalate (second :: rest)).take (count - (first.length + 1)) := by
              obtain ⟨more, rfl⟩ : ∃ more, count = first.length + (more + 1) :=
                ⟨count - (first.length + 1), by omega⟩
              have left : first.length + (more + 1) - (first.length + 1) = more := by omega
              rw [left, List.intercalate_cons_cons, List.append_assoc,
                List.take_length_add_append, List.singleton_append, List.take_succ_cons]
            rw [cut, List.splitOn_append_cons_self_of_not_mem clear, split]
            rfl

end LinkAlive.Lines
