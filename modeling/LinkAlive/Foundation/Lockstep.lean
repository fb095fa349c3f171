import Mathlib.Data.Option.Defs
import Mathlib.Data.List.Basic

/-!
# Two machines in lockstep

Two partial step functions on the same inputs, and a relation of their states that a step of
both keeps: they accept the same inputs, and their states stay related.
-/

namespace LinkAlive.Lockstep

set_option autoImplicit false

variable {Abstract Concrete Input : Type}

theorem rel_bind {α β γ δ : Type} {before : α → β → Prop} {after : γ → δ → Prop}
    {first : Option α} {second : Option β} {f : α → Option γ} {g : β → Option δ}
    (related : Option.Rel before first second)
    (next : ∀ a b, before a b → Option.Rel after (f a) (g b)) :
    Option.Rel after (first.bind f) (second.bind g) := by
  cases related with
  | none => exact .none
  | some related => exact next _ _ related

theorem rel_weaken {α β : Type} {before after : α → β → Prop} {first : Option α}
    {second : Option β} (related : Option.Rel before first second)
    (weaker : ∀ a b, before a b → after a b) : Option.Rel after first second := by
  cases related with
  | none => exact .none
  | some related => exact .some (weaker _ _ related)

/-- Runs of related machines from related states end alike. -/
theorem run_related {related : Abstract → Concrete → Prop} {allowed : Input → Prop}
    {abstractStep : Abstract → Input → Option Abstract}
    {concreteStep : Concrete → Input → Option Concrete}
    (step : ∀ a c input, related a c → allowed input →
      Option.Rel related (abstractStep a input) (concreteStep c input))
    {inputs : List Input} (all : ∀ input ∈ inputs, allowed input) {a : Abstract} {c : Concrete}
    (start : related a c) :
    Option.Rel related (inputs.foldlM abstractStep a) (inputs.foldlM concreteStep c) := by
  induction inputs generalizing a c with
  | nil => exact .some start
  | cons input inputs induction =>
      rw [List.foldlM_cons, List.foldlM_cons]
      apply rel_bind (step a c input start (all input List.mem_cons_self))
      intro next result agree
      exact induction (fun other member => all other (List.mem_cons_of_mem _ member)) agree

end LinkAlive.Lockstep
