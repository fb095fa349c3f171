import LinkAlive.Foundation.Table

/-!
# Three-valued logic

The truth value of an SQL condition: TRUE, FALSE, or NULL for a comparison with a
missing value. `WHERE` and `EXISTS` keep the rows whose condition is TRUE, so a
condition and its negation can both drop a row.
-/

namespace Sql

set_option autoImplicit false

open Relational

/-- `none` is NULL. -/
abbrev Truth := Option Bool

namespace Truth

def isTrue (truth : Truth) : Bool := truth == some true

def negate (truth : Truth) : Truth := truth.map not

/-- `AND`: FALSE wins over NULL. -/
def both : Truth → Truth → Truth
  | some false, _ | _, some false => some false
  | some true, some true => some true
  | _, _ => none

/-- A conjunction as it is written, left to right. -/
def all : List Truth → Truth
  | [] => some true
  | head :: rest => both head (all rest)

/-- `OR`: TRUE wins over NULL. -/
def either : Truth → Truth → Truth
  | some true, _ | _, some true => some true
  | some false, some false => some false
  | _, _ => none

/-- A CHECK constraint rejects a row for which its condition is FALSE only. -/
def rejects (truth : Truth) : Bool := truth == some false

@[simp] theorem is_true_some (holds : Bool) : isTrue (some holds) = holds := by
  cases holds <;> rfl

@[simp] theorem is_true_none : isTrue none = false := rfl

theorem is_true_iff {truth : Truth} : truth.isTrue = true ↔ truth = some true := by
  simp [isTrue]

@[simp] theorem negate_eq_true {truth : Truth} : truth.negate = some true ↔ truth = some false := by
  simp [negate]

theorem both_eq_true {left right : Truth} :
    both left right = some true ↔ left = some true ∧ right = some true := by
  rcases left with _ | _ | _ <;> rcases right with _ | _ | _ <;> simp [both]

theorem both_eq_false {left right : Truth} :
    both left right = some false ↔ left = some false ∨ right = some false := by
  rcases left with _ | _ | _ <;> rcases right with _ | _ | _ <;> simp [both]

theorem either_eq_true {left right : Truth} :
    either left right = some true ↔ left = some true ∨ right = some true := by
  rcases left with _ | _ | _ <;> rcases right with _ | _ | _ <;> simp [either]

theorem all_eq_true {conditions : List Truth} :
    all conditions = some true ↔ ∀ condition ∈ conditions, condition = some true := by
  induction conditions with
  | nil => simp [all]
  | cons head rest ih => simp [all, both_eq_true, ih]

theorem all_eq_false {conditions : List Truth} :
    all conditions = some false ↔ some false ∈ conditions := by
  induction conditions with
  | nil => simp [all]
  | cons head rest ih =>
      rw [all, both_eq_false, ih, List.mem_cons]
      exact or_congr eq_comm Iff.rfl

end Truth

def compare {Value : Type} (test : Value → Value → Bool) :
    Option Value → Option Value → Truth
  | some left, some right => some (test left right)
  | _, _ => none

def equal {Value : Type} [DecidableEq Value] (left right : Option Value) : Truth :=
  compare (fun left right => decide (left = right)) left right

@[simp] theorem compare_some {Value : Type} (test : Value → Value → Bool) (left right : Value) :
    compare test (some left) (some right) = some (test left right) := rfl

@[simp] theorem compare_none_left {Value : Type} (test : Value → Value → Bool)
    (right : Option Value) : compare test none right = none := by
  cases right <;> rfl

theorem equal_eq_true {Value : Type} [DecidableEq Value] {left right : Option Value} :
    equal left right = some true ↔ ∃ value, left = some value ∧ right = some value := by
  rcases left with _ | left <;> rcases right with _ | right <;>
    simp [equal, compare, eq_comm]

def isNull {Value : Type} (column : Option Value) : Truth := some column.isNone

section Subqueries

variable {Key Row : Type} [DecidableEq Key]

/-- `EXISTS (SELECT 1 … WHERE)`; it is never NULL. -/
def existsIn (table : Table Key Row) (condition : Key → Row → Truth) : Truth :=
  some (table.entries.any fun entry => (condition entry.1 entry.2).isTrue)

theorem exists_in_eq_true {table : Table Key Row} {condition : Key → Row → Truth} :
    existsIn table condition = some true ↔
      ∃ key row, table.get key = some row ∧ condition key row = some true := by
  simp only [existsIn, Option.some.injEq, List.any_eq_true, Truth.is_true_iff]
  constructor
  · rintro ⟨⟨key, row⟩, member, holds⟩
    exact ⟨key, row, (Table.mem_entries_iff table key row).1 member, holds⟩
  · rintro ⟨key, row, found, holds⟩
    exact ⟨⟨key, row⟩, (Table.mem_entries_iff table key row).2 found, holds⟩

theorem exists_in_eq_false {table : Table Key Row} {condition : Key → Row → Truth} :
    existsIn table condition = some false ↔
      ¬ ∃ key row, table.get key = some row ∧ condition key row = some true := by
  rw [← exists_in_eq_true, existsIn, Option.some_inj, Option.some_inj, Bool.not_eq_true]

omit [DecidableEq Key] in
theorem exists_in_update (table : Table Key Row) (guard : Key → Row → Bool)
    (change : Key → Row → Row) {condition : Key → Row → Truth}
    (unread : ∀ key row, condition key (change key row) = condition key row) :
    existsIn (table.updateWhere guard change) condition = existsIn table condition := by
  simp only [existsIn, Table.updateWhere, List.any_map, Function.comp_def]
  congr 2
  funext entry
  split
  · rw [unread]
  · rfl

end Subqueries

/-- `COALESCE` with a last argument that is never NULL. -/
def coalesce {Value : Type} (columns : List (Option Value)) (default : Value) : Value :=
  (columns.findSome? id).getD default

end Sql
