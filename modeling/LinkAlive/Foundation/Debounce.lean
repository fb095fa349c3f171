import Mathlib.Data.List.DropRight
import Mathlib.Tactic.Common

/-!
# Debouncing automata

A stream of samples is watched through a two-sided threshold: `trip` consecutive
bad samples raise an alarm and `clear` consecutive good samples lower it again.
The automaton keeps two counters and a flag; the specification is a condition on
the whole history and mentions neither.
-/

namespace Debounce

set_option autoImplicit false

variable {Sample : Type}

/-- A run of `count` consecutive samples with a property, anywhere in the list. -/
def HasRun (test : Sample → Bool) (count : Nat) (samples : List Sample) : Prop :=
  ∃ window, window <:+: samples ∧ window.length = count ∧ ∀ sample ∈ window, test sample = true

/-- Some `trip` consecutive bad samples have no `clear` consecutive good samples
after them. -/
def Raised (bad : Sample → Bool) (trip clear : Nat) (samples : List Sample) : Prop :=
  ∃ before window after, samples = before ++ window ++ after ∧ window.length = trip ∧
    (∀ sample ∈ window, bad sample = true) ∧ ¬HasRun (fun sample => !bad sample) clear after

/-- A trailing run is at least as long as any suffix that has the property. -/
theorem le_trailing_run_iff (test : Sample → Bool) (count : Nat) (samples : List Sample) :
    count ≤ (samples.rtakeWhile test).length ↔
      ∃ window, window <:+ samples ∧ window.length = count ∧
        ∀ sample ∈ window, test sample = true := by
  constructor
  · intro bound
    have dropped := List.drop_suffix ((samples.rtakeWhile test).length - count)
      (samples.rtakeWhile test)
    refine ⟨_, dropped.trans (List.rtakeWhile_suffix test samples), ?_, ?_⟩
    · rw [List.length_drop]
      omega
    · intro sample member
      exact List.mem_rtakeWhile_imp (List.mem_of_mem_drop member)
  · rintro ⟨window, suffix, rfl, holds⟩
    induction samples using List.reverseRecOn generalizing window with
    | nil => simp [List.suffix_nil.1 suffix]
    | append_singleton samples last ih =>
        rcases List.suffix_concat_iff.1 suffix with rfl | ⟨shorter, rfl, earlier⟩
        · simp
        · have lastHolds := holds last (by simp)
          have bound := ih shorter earlier (fun sample member => holds sample (by simp [member]))
          rw [List.rtakeWhile_concat, if_pos lastHolds]
          simpa using bound

theorem has_run_concat (test : Sample → Bool) (count : Nat) (samples : List Sample)
    (last : Sample) :
    HasRun test count (samples ++ [last]) ↔
      count ≤ ((samples ++ [last]).rtakeWhile test).length ∨ HasRun test count samples := by
  rw [le_trailing_run_iff]
  constructor
  · rintro ⟨window, inside, length, holds⟩
    rcases List.infix_concat_iff.1 inside with suffix | earlier
    · exact Or.inl ⟨window, suffix, length, holds⟩
    · exact Or.inr ⟨window, earlier, length, holds⟩
  · rintro (⟨window, suffix, length, holds⟩ | ⟨window, inside, length, holds⟩)
    · exact ⟨window, suffix.isInfix, length, holds⟩
    · exact ⟨window, List.infix_concat_iff.2 (Or.inr inside), length, holds⟩

theorem not_has_run_nil (test : Sample → Bool) {count : Nat} (positive : 1 ≤ count) :
    ¬HasRun test count ([] : List Sample) := by
  rintro ⟨window, inside, length, -⟩
  rw [List.infix_nil.1 inside] at length
  simp at length
  omega

theorem concat_split {samples front after : List Sample} {last : Sample}
    (split : samples ++ [last] = front ++ after) :
    (after = [] ∧ front = samples ++ [last]) ∨
      ∃ shorter, after = shorter ++ [last] ∧ samples = front ++ shorter := by
  rcases List.suffix_concat_iff.1 ⟨front, split.symm⟩ with rfl | ⟨shorter, rfl, -⟩
  · exact Or.inl ⟨rfl, by simpa using split.symm⟩
  · rw [← List.append_assoc] at split
    exact Or.inr ⟨shorter, rfl, List.append_cancel_right split⟩

/-- A bad last sample raises the alarm when it completes a run, and never lowers it. -/
theorem raised_concat_bad {bad : Sample → Bool} {trip clear : Nat}
    (clearPositive : 1 ≤ clear) {samples : List Sample} {last : Sample}
    (lastBad : bad last = true) :
    Raised bad trip clear (samples ++ [last]) ↔
      Raised bad trip clear samples ∨
        trip ≤ ((samples ++ [last]).rtakeWhile bad).length := by
  constructor
  · rintro ⟨before, window, after, split, length, windowBad, quiet⟩
    rcases concat_split split with ⟨rfl, whole⟩ | ⟨shorter, rfl, earlier⟩
    · exact Or.inr ((le_trailing_run_iff _ _ _).2 ⟨window, ⟨before, whole⟩, length, windowBad⟩)
    · refine Or.inl ⟨before, window, shorter, earlier, length, windowBad, ?_⟩
      intro run
      exact quiet ((has_run_concat _ _ _ _).2 (Or.inr run))
  · rintro (⟨before, window, after, rfl, length, windowBad, quiet⟩ | completed)
    · refine ⟨before, window, after ++ [last], by simp, length, windowBad, ?_⟩
      intro run
      rcases (has_run_concat _ _ _ _).1 run with trailing | earlier
      · rw [List.rtakeWhile_concat_neg _ _ _ (by simp [lastBad]), List.length_nil] at trailing
        omega
      · exact quiet earlier
    · obtain ⟨window, ⟨before, split⟩, length, windowBad⟩ := (le_trailing_run_iff _ _ _).1 completed
      exact ⟨before, window, [], by simp [split], length, windowBad,
        not_has_run_nil _ clearPositive⟩

theorem trailing_good_after_window {bad : Sample → Bool} {count : Nat}
    {before window after : List Sample} (nonempty : window ≠ [])
    (windowBad : ∀ sample ∈ window, bad sample = true)
    (trailing : count ≤
      ((before ++ window ++ after).rtakeWhile fun sample => !bad sample).length) :
    HasRun (fun sample => !bad sample) count after := by
  obtain ⟨good, suffix, length, allGood⟩ := (le_trailing_run_iff _ _ _).1 trailing
  have disjoint : ∀ sample ∈ good, sample ∉ window := by
    intro sample inGood inWindow
    simpa [windowBad sample inWindow] using allGood sample inGood
  rcases List.suffix_or_suffix_of_suffix suffix (List.suffix_append (before ++ window) after)
    with inside | ⟨overlap, rfl⟩
  · exact ⟨good, inside.isInfix, length, allGood⟩
  · -- what sticks out to the left of `after` would share a sample with the window
    have overlapSuffix : overlap <:+ before ++ window := by
      obtain ⟨front, whole⟩ := suffix
      rw [← List.append_assoc] at whole
      exact ⟨front, List.append_cancel_right whole⟩
    by_cases none : overlap = []
    · subst none
      exact ⟨after, List.infix_rfl, by simpa using length, by simpa using allGood⟩
    · rcases List.suffix_or_suffix_of_suffix overlapSuffix (List.suffix_append before window)
        with smaller | larger
      · obtain ⟨sample, member⟩ := List.exists_mem_of_ne_nil overlap none
        exact absurd (smaller.subset member) (disjoint sample (by simp [member]))
      · obtain ⟨sample, member⟩ := List.exists_mem_of_ne_nil window nonempty
        exact absurd member (disjoint sample (by simp [larger.subset member]))

/-- A good last sample lowers the alarm when it completes a run, and never raises it. -/
theorem raised_concat_good {bad : Sample → Bool} {trip clear : Nat} (tripPositive : 1 ≤ trip)
    {samples : List Sample} {last : Sample} (lastGood : bad last = false) :
    Raised bad trip clear (samples ++ [last]) ↔
      Raised bad trip clear samples ∧
        ¬clear ≤ ((samples ++ [last]).rtakeWhile fun sample => !bad sample).length := by
  constructor
  · rintro ⟨before, window, after, split, length, windowBad, quiet⟩
    have nonempty : window ≠ [] := by
      rintro rfl
      rw [List.length_nil] at length
      omega
    rcases concat_split split with ⟨rfl, whole⟩ | ⟨shorter, rfl, earlier⟩
    · -- the window would end in the good sample
      rcases List.suffix_concat_iff.1 ⟨before, whole⟩ with rfl | ⟨front, rfl, -⟩
      · exact absurd rfl nonempty
      · have lastBad := windowBad last (by simp)
        simp [lastGood] at lastBad
    · refine ⟨⟨before, window, shorter, earlier, length, windowBad, ?_⟩, ?_⟩
      · intro run
        exact quiet ((has_run_concat _ _ _ _).2 (Or.inr run))
      · intro trailing
        rw [split] at trailing
        exact quiet (trailing_good_after_window nonempty windowBad trailing)
  · rintro ⟨⟨before, window, after, rfl, length, windowBad, quiet⟩, short⟩
    refine ⟨before, window, after ++ [last], by simp, length, windowBad, ?_⟩
    intro run
    rcases (has_run_concat _ _ _ _).1 run with trailing | earlier
    · obtain ⟨good, suffix, goodLength, allGood⟩ := (le_trailing_run_iff _ _ _).1 trailing
      apply short
      refine (le_trailing_run_iff _ _ _).2 ⟨good, suffix.trans ?_, goodLength, allGood⟩
      exact ⟨before ++ window, by simp⟩
    · exact quiet earlier

/-- The automaton: the flag and the lengths of the two trailing runs. -/
structure Automaton where
  raised : Bool
  bads : Nat
  goods : Nat
deriving DecidableEq, Repr

namespace Automaton

def idle : Automaton where
  raised := false
  bads := 0
  goods := 0

def observe (trip clear : Nat) (automaton : Automaton) (isBad : Bool) : Automaton :=
  if isBad then
    { raised := automaton.raised || decide (trip ≤ automaton.bads + 1)
      bads := automaton.bads + 1
      goods := 0 }
  else
    { raised := automaton.raised && !decide (clear ≤ automaton.goods + 1)
      bads := 0
      goods := automaton.goods + 1 }

def watch (bad : Sample → Bool) (trip clear : Nat) (samples : List Sample) : Automaton :=
  samples.foldl (fun automaton sample => automaton.observe trip clear (bad sample)) idle

theorem watch_concat (bad : Sample → Bool) (trip clear : Nat) (samples : List Sample)
    (last : Sample) :
    watch bad trip clear (samples ++ [last]) =
      (watch bad trip clear samples).observe trip clear (bad last) := by
  simp [watch]

theorem watch_spec (bad : Sample → Bool) {trip clear : Nat} (tripPositive : 1 ≤ trip)
    (clearPositive : 1 ≤ clear) (samples : List Sample) :
    (watch bad trip clear samples).bads = (samples.rtakeWhile bad).length ∧
      (watch bad trip clear samples).goods =
        (samples.rtakeWhile fun sample => !bad sample).length ∧
      ((watch bad trip clear samples).raised = true ↔ Raised bad trip clear samples) := by
  induction samples using List.reverseRecOn with
  | nil =>
      refine ⟨rfl, rfl, ?_⟩
      simp only [watch, List.foldl_nil, idle, Bool.false_eq_true, false_iff]
      rintro ⟨before, window, after, split, length, -⟩
      simp only [List.nil_eq, List.append_eq_nil_iff] at split
      rw [split.1.2, List.length_nil] at length
      omega
  | append_singleton samples last ih =>
      obtain ⟨bads, goods, raised⟩ := ih
      rw [watch_concat]
      cases quality : bad last with
      | true =>
          rw [raised_concat_bad clearPositive quality, ← raised,
            List.rtakeWhile_concat_pos _ _ _ quality,
            List.rtakeWhile_concat_neg _ _ _ (by simp [quality])]
          simp [observe, bads]
      | false =>
          rw [raised_concat_good tripPositive quality, ← raised,
            List.rtakeWhile_concat_neg bad _ _ (by simp [quality]),
            List.rtakeWhile_concat_pos _ _ _ (by simp [quality])]
          simp [observe, goods]

end Automaton

end Debounce
