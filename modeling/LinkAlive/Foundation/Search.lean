import Mathlib.Data.List.Infix

/-!
# Searching a text piece by piece

A pattern is looked for in pieces that arrive one after the other. Of what was seen only an
overlap is kept; one unit less than the pattern is long is enough.
-/

namespace LinkAlive

set_option autoImplicit false

variable {Letter : Type} {pattern seen overlap piece : List Letter} {width : Nat}

/-- The overlap is an end of what was seen, and at least `width` units of it. -/
structure Window (width : Nat) (seen overlap : List Letter) : Prop where
  suffix : overlap <:+ seen
  wide : min width seen.length ≤ overlap.length

theorem Window.nil : Window width ([] : List Letter) [] :=
  ⟨List.suffix_rfl, Nat.min_le_right _ _⟩

theorem Window.append (window : Window width seen overlap) (piece : List Letter) :
    Window width (seen ++ piece) (overlap ++ piece) where
  suffix := by
    obtain ⟨front, rfl⟩ := window.suffix
    exact ⟨front, by simp⟩
  wide := by
    have wide := window.wide
    simp only [List.length_append]
    omega

theorem Window.shorten (window : Window width seen overlap) {kept : List Letter}
    (suffix : kept <:+ overlap) (wide : min width overlap.length ≤ kept.length) :
    Window width seen kept where
  suffix := suffix.trans window.suffix
  wide := by
    have whole := window.wide
    omega

/-- An occurrence that starts in what was seen and reaches into the piece starts in the
overlap. -/
theorem Window.infix_iff (window : Window (pattern.length - 1) seen overlap)
    (absent : ¬pattern <:+: seen) :
    pattern <:+: overlap ++ piece ↔ pattern <:+: seen ++ piece := by
  constructor
  · intro found
    exact found.trans (window.append piece).suffix.isInfix
  · rintro ⟨before, after, occurrence⟩
    obtain ⟨rest, whole, -⟩ | ⟨reach, reached, rfl⟩ :=
      List.append_eq_append_iff.mp occurrence
    · exact absurd ⟨before, rest, whole.symm⟩ absent
    · obtain ⟨start, rfl, rfl⟩ | ⟨gap, rfl, rfl⟩ := List.append_eq_append_iff.mp reached
      · -- The pattern starts with an end of what was seen; it is not the whole pattern.
        have started : start.length ≤ (start ++ reach).length - 1 := by
          cases reach with
          | nil => exact absurd ⟨before, [], by simp⟩ absent
          | cons => simp
        have wide := window.wide
        have kept : start <:+ overlap :=
          List.suffix_of_suffix_length_le (List.suffix_append before start) window.suffix
            (by simp only [List.length_append] at started wide; omega)
        obtain ⟨front, rfl⟩ := kept
        exact ⟨front, after, by simp⟩
      · exact ⟨overlap ++ gap, after, by simp⟩

end LinkAlive
