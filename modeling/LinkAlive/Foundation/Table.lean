import Mathlib.Data.List.AList

/-!
# Keyed tables

A table is an association list with distinct keys, so the primary key can never
be violated by a value of the type. Every statement is characterised by what it
does to one key; proofs about a store read rows with `get` and never look at the
order of the entries.
-/

namespace Relational

set_option autoImplicit false

abbrev Table (Key Row : Type) := AList (fun _ : Key => Row)

namespace Table

variable {Key Row : Type} [DecidableEq Key]

def get (table : Table Key Row) (key : Key) : Option Row := table.lookup key

@[simp] theorem get_empty (key : Key) : get (∅ : Table Key Row) key = none := rfl

theorem mem_entries_iff (table : Table Key Row) (key : Key) (row : Row) :
    (⟨key, row⟩ : Sigma fun _ : Key => Row) ∈ table.entries ↔ table.get key = some row := by
  rw [get, AList.lookup, ← Option.mem_def, List.mem_dlookup_iff table.nodupKeys]

/-- `SELECT … WHERE`, oldest row first. -/
def select (table : Table Key Row) (guard : Key → Row → Bool) : List (Key × Row) :=
  ((table.entries.filter fun entry => guard entry.1 entry.2).map
    fun entry => (entry.1, entry.2)).reverse

theorem mem_select (table : Table Key Row) (guard : Key → Row → Bool) (key : Key) (row : Row) :
    (key, row) ∈ table.select guard ↔ table.get key = some row ∧ guard key row = true := by
  rw [← mem_entries_iff]
  simp only [select, List.mem_reverse, List.mem_map, List.mem_filter]
  constructor
  · rintro ⟨⟨entryKey, entryRow⟩, ⟨member, holds⟩, same⟩
    cases same
    exact ⟨member, holds⟩
  · rintro ⟨member, holds⟩
    exact ⟨⟨key, row⟩, ⟨member, holds⟩, rfl⟩

omit [DecidableEq Key] in
/-- A selection names every key once. -/
theorem select_keys_nodup (table : Table Key Row) (guard : Key → Row → Bool) :
    ((table.select guard).map Prod.fst).Nodup := by
  have keys : (table.entries.map Sigma.fst).Nodup := table.nodupKeys
  have part : ((table.entries.filter fun entry => guard entry.1 entry.2).map Sigma.fst).Nodup :=
    (List.filter_sublist.map Sigma.fst).nodup keys
  simpa [select, List.map_reverse, Function.comp_def] using part

theorem select_eq_singleton (table : Table Key Row) (guard : Key → Row → Bool) {key : Key}
    {row : Row} (found : table.get key = some row) (holds : guard key row = true)
    (only : ∀ other otherRow, table.get other = some otherRow → guard other otherRow = true →
      other = key) : table.select guard = [(key, row)] := by
  have members : ∀ entry, entry ∈ table.select guard ↔ entry ∈ [(key, row)] := by
    rintro ⟨other, otherRow⟩
    rw [mem_select, List.mem_singleton, Prod.mk.injEq]
    constructor
    · rintro ⟨stored, met⟩
      have same := only other otherRow stored met
      subst same
      rw [found, Option.some.injEq] at stored
      exact ⟨rfl, stored.symm⟩
    · rintro ⟨rfl, rfl⟩
      exact ⟨found, holds⟩
  have distinct := (table.select_keys_nodup guard).of_map
  exact List.perm_singleton.1
    ((List.perm_ext_iff_of_nodup distinct (List.nodup_singleton _)).2 members)

def every (table : Table Key Row) (test : Key → Row → Bool) : Bool :=
  table.entries.all fun entry => test entry.1 entry.2

theorem every_iff (table : Table Key Row) (test : Key → Row → Bool) :
    table.every test = true ↔ ∀ key row, table.get key = some row → test key row = true := by
  simp only [every, List.all_eq_true]
  constructor
  · intro all key row found
    exact all ⟨key, row⟩ ((mem_entries_iff table key row).2 found)
  · rintro all ⟨key, row⟩ member
    exact all key row ((mem_entries_iff table key row).1 member)

/-- `UPDATE … SET change WHERE guard`. Primary keys are never assigned. -/
def updateWhere (table : Table Key Row) (guard : Key → Row → Bool)
    (change : Key → Row → Row) : Table Key Row where
  entries := table.entries.map fun entry =>
    ⟨entry.1, if guard entry.1 entry.2 then change entry.1 entry.2 else entry.2⟩
  nodupKeys := List.NodupKeys.map₂
    (fun key row => if guard key row then change key row else row) _ table.nodupKeys

@[simp] theorem get_update_where (table : Table Key Row) (guard : Key → Row → Bool)
    (change : Key → Row → Row) (key : Key) :
    (table.updateWhere guard change).get key =
      (table.get key).map fun row => if guard key row then change key row else row := by
  exact List.dlookup_map₂
    (f := fun key row => if guard key row then change key row else row) key

omit [DecidableEq Key] in
theorem update_where_fixed (table : Table Key Row) (guard : Key → Row → Bool)
    {change : Key → Row → Row} (fixed : ∀ key row, change key row = row) :
    table.updateWhere guard change = table := by
  apply AList.ext
  change table.entries.map _ = table.entries
  have same : (fun entry : Sigma fun _ : Key => Row =>
      (⟨entry.1, if guard entry.1 entry.2 then change entry.1 entry.2 else entry.2⟩ :
        Sigma fun _ : Key => Row)) = id := by
    funext entry
    simp [fixed]
  rw [same, List.map_id]

omit [DecidableEq Key] in
theorem update_where_none (table : Table Key Row) {guard : Key → Row → Bool}
    (change : Key → Row → Row) (never : ∀ key row, guard key row = false) :
    table.updateWhere guard change = table := by
  apply AList.ext
  simp [updateWhere, never]

omit [DecidableEq Key] in
/-- A change that is made twice is made once, for the rows of either update. -/
theorem update_where_twice (table : Table Key Row) (first second : Key → Bool)
    {change : Key → Row → Row}
    (idempotent : ∀ key row, change key (change key row) = change key row) :
    (table.updateWhere (fun key _ => first key) change).updateWhere
        (fun key _ => second key) change =
      table.updateWhere (fun key _ => first key || second key) change := by
  apply AList.ext
  simp only [updateWhere, List.map_map]
  congr 1
  funext entry
  simp only [Function.comp_apply]
  by_cases earlier : first entry.1 = true <;> by_cases later : second entry.1 = true <;>
    simp [earlier, later, idempotent]

/-- `UPDATE … SET change WHERE id = target`. -/
def updateKey (table : Table Key Row) (target : Key) (change : Row → Row) : Table Key Row :=
  table.updateWhere (fun key _ => key = target) fun _ row => change row

@[simp] theorem get_update_key_self (table : Table Key Row) (target : Key) (change : Row → Row) :
    (table.updateKey target change).get target = (table.get target).map change := by
  simp [updateKey]

theorem get_update_key_other (table : Table Key Row) {target key : Key} (change : Row → Row)
    (other : key ≠ target) : (table.updateKey target change).get key = table.get key := by
  simp [updateKey, other]

theorem get_update_key (table : Table Key Row) (target key : Key) (change : Row → Row) :
    (table.updateKey target change).get key =
      if key = target then (table.get key).map change else table.get key := by
  by_cases same : key = target
  · subst same
    simp
  · simp [get_update_key_other table change same, same]

theorem update_where_key (table : Table Key Row) (target : Key) {guard : Row → Bool}
    (change : Row → Row) (holds : ∀ row, table.get target = some row → guard row = true) :
    table.updateWhere (fun key row => key = target && guard row) (fun _ row => change row) =
      table.updateKey target change := by
  apply AList.ext
  apply List.map_congr_left
  rintro ⟨key, row⟩ member
  by_cases same : key = target
  · subst same
    have stored := holds row ((mem_entries_iff table key row).1 member)
    simp [stored]
  · simp [same]

theorem update_key_fixed (table : Table Key Row) {target : Key} {change : Row → Row}
    (fixed : ∀ row, table.get target = some row → change row = row) :
    table.updateKey target change = table := by
  apply AList.ext
  change table.entries.map _ = table.entries
  refine (List.map_congr_left ?_).trans (List.map_id _)
  rintro ⟨key, row⟩ member
  by_cases same : key = target
  · subst same
    simp [fixed row ((mem_entries_iff table key row).1 member)]
  · simp [same]

/-- Two writes of one row are one write, when the first always meets the guard of the second. -/
theorem update_key_where (table : Table Key Row) (target : Key) {guard : Row → Bool}
    (first second : Row → Row) (met : ∀ row, guard (first row) = true) :
    (table.updateKey target first).updateWhere (fun key row => key = target && guard row)
        (fun _ row => second row) =
      table.updateKey target fun row => second (first row) := by
  apply AList.ext
  simp only [updateKey, updateWhere, List.map_map]
  apply List.map_congr_left
  rintro ⟨key, row⟩ _
  by_cases same : key = target
  · simp [same, met]
  · simp [same]

def put (table : Table Key Row) (key : Key) (row : Row) : Table Key Row :=
  AList.insert key row table

theorem get_put (table : Table Key Row) (target key : Key) (row : Row) :
    (table.put target row).get key = if key = target then some row else table.get key := by
  by_cases same : key = target
  · subst same
    simp [put, get]
  · simp [put, get, AList.lookup_insert_ne same, same]

def remove (table : Table Key Row) (key : Key) : Table Key Row := AList.erase key table

theorem get_remove (table : Table Key Row) (target key : Key) :
    (table.remove target).get key = if key = target then none else table.get key := by
  by_cases same : key = target
  · subst same
    simp [remove, get]
  · simp [remove, get, AList.lookup_erase_ne same, same]

def deleteWhere (table : Table Key Row) (guard : Key → Row → Bool) : Table Key Row where
  entries := table.entries.filter fun entry => !guard entry.1 entry.2
  nodupKeys := (List.filter_sublist.map Sigma.fst).nodup table.nodupKeys

theorem get_delete_where_eq_some (table : Table Key Row) (guard : Key → Row → Bool)
    (key : Key) (row : Row) :
    (table.deleteWhere guard).get key = some row ↔
      table.get key = some row ∧ guard key row = false := by
  rw [← mem_entries_iff, ← mem_entries_iff]
  simp [deleteWhere, List.mem_filter]

/-- `SELECT COUNT(*)`. -/
def size (table : Table Key Row) : Nat := table.entries.length

omit [DecidableEq Key] in
theorem size_delete_where_le (table : Table Key Row) (guard : Key → Row → Bool) :
    (table.deleteWhere guard).size ≤ table.size :=
  List.length_filter_le _ _

theorem size_remove_le (table : Table Key Row) (key : Key) :
    (table.remove key).size ≤ table.size :=
  (List.kerase_sublist key table.entries).length_le

theorem size_put_le (table : Table Key Row) (key : Key) (row : Row) :
    (table.put key row).size ≤ table.size + 1 := by
  have kept : (List.kerase key table.entries).length ≤ table.entries.length :=
    size_remove_le table key
  simpa [size, put, AList.insert, List.kinsert] using kept

omit [DecidableEq Key] in
theorem filter_select (table : Table Key Row) (guard other : Key → Row → Bool) :
    (table.select guard).filter (fun entry => other entry.1 entry.2) =
      table.select fun key row => guard key row && other key row := by
  simp only [select, List.filter_reverse, List.filter_map, List.filter_filter]
  congr 2
  apply List.filter_congr
  intro entry _
  simp [Bool.and_comm]

omit [DecidableEq Key] in
theorem length_select_le (table : Table Key Row) (guard : Key → Row → Bool) :
    (table.select guard).length ≤ table.size := by
  simpa [select, size] using List.length_filter_le _ table.entries

theorem select_shorter {before after : Table Key Row} {guard : Key → Row → Bool} {target : Key}
    {row : Row} (found : before.get target = some row) (chosen : guard target row = true)
    (gone : ∀ next, after.get target = some next → guard target next = false)
    (source : ∀ key next, after.get key = some next → guard key next = true →
      ∃ earlier, before.get key = some earlier ∧ guard key earlier = true) :
    (after.select guard).length < (before.select guard).length := by
  let old := (before.select guard).map Prod.fst
  let left := (after.select guard).map Prod.fst
  have member : target ∈ old :=
    List.mem_map.2 ⟨(target, row), (mem_select _ _ _ _).2 ⟨found, chosen⟩, rfl⟩
  have inside : left ⊆ old.erase target := by
    intro key remaining
    obtain ⟨⟨_, next⟩, selected, rfl⟩ := List.mem_map.1 remaining
    obtain ⟨stored, holds⟩ := (mem_select _ _ _ _).1 selected
    obtain ⟨earlier, present, held⟩ := source _ next stored holds
    apply (List.mem_erase_of_ne _).2
    · exact List.mem_map.2 ⟨(_, earlier), (mem_select _ _ _ _).2 ⟨present, held⟩, rfl⟩
    · intro same
      dsimp only at same stored holds
      rw [same] at stored holds
      rw [gone next stored] at holds
      cases holds
  have distinct : left.Nodup := select_keys_nodup _ _
  have short := (List.subperm_of_subset distinct inside).length_le
  have positive := List.length_pos_of_mem member
  rw [List.length_erase_of_mem member] at short
  simp only [old, left, List.length_map] at short positive
  omega

/-- `INSERT` under the primary key; `none` is a unique-key violation. -/
def insertNew (table : Table Key Row) (key : Key) (row : Row) : Option (Table Key Row) :=
  if (table.get key).isNone then some (table.put key row) else none

theorem insert_new_eq_some (table next : Table Key Row) (key : Key) (row : Row) :
    table.insertNew key row = some next ↔ table.get key = none ∧ next = table.put key row := by
  simp only [insertNew, Option.isNone_iff_eq_none]
  split <;> simp_all [eq_comm]

/-- Several `INSERT`s of one transaction; the first violation aborts them all. -/
def insertAll (table : Table Key Row) : List (Key × Row) → Option (Table Key Row)
  | [] => some table
  | (key, row) :: rest => (table.insertNew key row).bind fun next => next.insertAll rest

theorem insert_all_cons (table next : Table Key Row) (key : Key) (row : Row)
    (rest : List (Key × Row)) :
    table.insertAll ((key, row) :: rest) = some next ↔
      table.get key = none ∧ (table.put key row).insertAll rest = some next := by
  simp only [insertAll, Option.bind_eq_some_iff, insert_new_eq_some]
  constructor
  · rintro ⟨middle, ⟨absent, rfl⟩, tail⟩
    exact ⟨absent, tail⟩
  · rintro ⟨absent, tail⟩
    exact ⟨_, ⟨absent, rfl⟩, tail⟩

theorem insert_all_keeps {table next : Table Key Row} {rows : List (Key × Row)}
    (inserted : table.insertAll rows = some next) {key : Key} {row : Row}
    (found : table.get key = some row) : next.get key = some row := by
  induction rows generalizing table with
  | nil =>
      cases inserted
      exact found
  | cons head rest ih =>
      obtain ⟨headKey, headRow⟩ := head
      rw [insert_all_cons] at inserted
      apply ih inserted.2
      rw [get_put]
      split
      · rename_i same
        rw [same, inserted.1] at found
        cases found
      · exact found

theorem insert_all_stores {table next : Table Key Row} {rows : List (Key × Row)}
    (inserted : table.insertAll rows = some next) {key : Key} {row : Row}
    (member : (key, row) ∈ rows) : table.get key = none ∧ next.get key = some row := by
  induction rows generalizing table with
  | nil => cases member
  | cons head rest ih =>
      obtain ⟨headKey, headRow⟩ := head
      rw [insert_all_cons] at inserted
      rcases List.mem_cons.1 member with same | later
      · cases same
        exact ⟨inserted.1, insert_all_keeps inserted.2 (by simp [get_put])⟩
      · have stored := ih inserted.2 later
        rw [get_put] at stored
        refine ⟨?_, stored.2⟩
        by_cases same : key = headKey
        · simp [same] at stored
        · simpa [same] using stored.1

theorem insert_all_source {table next : Table Key Row} {rows : List (Key × Row)}
    (inserted : table.insertAll rows = some next) {key : Key} {row : Row}
    (found : next.get key = some row) : (key, row) ∈ rows ∨ table.get key = some row := by
  induction rows generalizing table with
  | nil =>
      cases inserted
      exact Or.inr found
  | cons head rest ih =>
      obtain ⟨headKey, headRow⟩ := head
      rw [insert_all_cons] at inserted
      rcases ih inserted.2 with later | earlier
      · exact Or.inl (List.mem_cons_of_mem _ later)
      · rw [get_put] at earlier
        by_cases same : key = headKey
        · rw [if_pos same] at earlier
          cases earlier
          subst same
          exact Or.inl List.mem_cons_self
        · rw [if_neg same] at earlier
          exact Or.inr earlier

/-- Distinct new keys never violate the unique index. -/
theorem insert_all_succeeds {table : Table Key Row} {rows : List (Key × Row)}
    (distinct : (rows.map Prod.fst).Nodup) (absent : ∀ entry ∈ rows, table.get entry.1 = none) :
    ∃ next, table.insertAll rows = some next := by
  induction rows generalizing table with
  | nil => exact ⟨table, rfl⟩
  | cons head rest ih =>
      obtain ⟨key, row⟩ := head
      obtain ⟨fresh, distinctRest⟩ := List.nodup_cons.1 distinct
      have absentRest : ∀ entry ∈ rest, (table.put key row).get entry.1 = none := by
        intro entry member
        rw [get_put, if_neg]
        · exact absent entry (List.mem_cons_of_mem _ member)
        · intro same
          exact fresh (List.mem_map.2 ⟨entry, member, same⟩)
      obtain ⟨next, inserted⟩ := ih distinctRest absentRest
      exact ⟨next, (insert_all_cons table next key row rest).2
        ⟨absent (key, row) List.mem_cons_self, inserted⟩⟩

def part (table : Table Key Row) (own : Key → Bool) : List (Key × Row) :=
  table.select fun key _ => own key

theorem mem_part {table : Table Key Row} {own : Key → Bool} {key : Key} {row : Row} :
    (key, row) ∈ table.part own ↔ table.get key = some row ∧ own key = true :=
  mem_select table _ key row

theorem get_of_part {left right : Table Key Row} {own : Key → Bool}
    (same : left.part own = right.part own) {key : Key} (held : own key = true) :
    left.get key = right.get key := by
  apply Option.ext
  intro row
  have shown : (key, row) ∈ left.part own ↔ (key, row) ∈ right.part own := by rw [same]
  rw [mem_part, mem_part] at shown
  simpa [held] using shown

omit [DecidableEq Key] in
theorem select_of_part (table : Table Key Row) {own : Key → Bool} {guard : Key → Row → Bool}
    (within : ∀ key row, guard key row = true → own key = true) :
    table.select guard = (table.part own).filter fun entry => guard entry.1 entry.2 := by
  have both : guard = fun key row => own key && guard key row := by
    funext key row
    cases met : guard key row with
    | false => simp
    | true => simp [within key row met]
  rw [part, filter_select, ← both]

omit [DecidableEq Key] in
theorem part_update_where (table : Table Key Row) (own : Key → Bool) (guard : Key → Row → Bool)
    (change : Key → Row → Row) :
    (table.updateWhere guard change).part own = (table.part own).map fun entry =>
      (entry.1, if guard entry.1 entry.2 then change entry.1 entry.2 else entry.2) := by
  simp only [part, select, updateWhere, List.filter_map, List.map_reverse, List.map_map,
    Function.comp_def]

theorem part_update_other (table : Table Key Row) {own : Key → Bool} {guard : Key → Row → Bool}
    (change : Key → Row → Row) (other : ∀ key row, guard key row = true → own key = false) :
    (table.updateWhere guard change).part own = table.part own := by
  rw [part_update_where]
  refine (List.map_congr_left ?_).trans (List.map_id _)
  rintro ⟨key, row⟩ member
  cases met : guard key row with
  | false => rfl
  | true =>
      have held := (mem_part.1 member).2
      rw [other key row met] at held
      cases held

theorem part_put (table : Table Key Row) (own : Key → Bool) {key : Key} (row : Row)
    (absent : table.get key = none) :
    (table.put key row).part own =
      table.part own ++ if own key then [(key, row)] else [] := by
  have unused : List.kerase key table.entries = table.entries := by
    apply List.kerase_of_notMem_keys
    rw [← List.dlookup_eq_none]
    exact absent
  simp only [part, select, put, AList.insert, List.kinsert, unused, List.filter_cons]
  split <;> simp

theorem part_insert_all {table next : Table Key Row} {rows : List (Key × Row)}
    (inserted : table.insertAll rows = some next) (own : Key → Bool) :
    next.part own = table.part own ++ rows.filter fun entry => own entry.1 := by
  induction rows generalizing table with
  | nil =>
      cases inserted
      simp
  | cons head rest ih =>
      obtain ⟨key, row⟩ := head
      rw [insert_all_cons] at inserted
      rw [ih inserted.2, part_put table own row inserted.1, List.append_assoc, List.filter_cons]
      cases own key <;> rfl

/-- `INSERT`s that leave the rows of keys in use as they are. -/
def upsertAll (table : Table Key Row) (rows : List (Key × Row)) : Table Key Row :=
  rows.foldl
    (fun next entry => if (next.get entry.1).isSome then next else next.put entry.1 entry.2) table

theorem upsert_all_cons (table : Table Key Row) (head : Key × Row) (rest : List (Key × Row)) :
    table.upsertAll (head :: rest) =
      (if (table.get head.1).isSome then table else table.put head.1 head.2).upsertAll rest := rfl

theorem upsert_all_keeps {table : Table Key Row} (rows : List (Key × Row)) {key : Key} {row : Row}
    (found : table.get key = some row) : (table.upsertAll rows).get key = some row := by
  induction rows generalizing table with
  | nil => exact found
  | cons head rest ih =>
      rw [upsert_all_cons]
      apply ih
      split
      · exact found
      · rename_i absent
        rw [get_put, if_neg]
        · exact found
        · intro same
          rw [← same, found] at absent
          exact absent rfl

theorem upsert_all_stores {table : Table Key Row} {rows : List (Key × Row)} {key : Key}
    {row : Row} (member : (key, row) ∈ rows) :
    ((table.upsertAll rows).get key).isSome = true := by
  induction rows generalizing table with
  | nil => cases member
  | cons head rest ih =>
      rw [upsert_all_cons]
      rcases List.mem_cons.1 member with rfl | later
      · split
        · rename_i present
          obtain ⟨stored, found⟩ := Option.isSome_iff_exists.1 present
          exact Option.isSome_of_eq_some (upsert_all_keeps rest found)
        · have found : (table.put key row).get key = some row := by rw [get_put, if_pos rfl]
          exact Option.isSome_of_eq_some (upsert_all_keeps rest found)
      · exact ih later

theorem upsert_all_source {table : Table Key Row} {rows : List (Key × Row)} {key : Key}
    {row : Row} (found : (table.upsertAll rows).get key = some row) :
    table.get key = some row ∨ (key, row) ∈ rows := by
  induction rows generalizing table with
  | nil => exact Or.inl found
  | cons head rest ih =>
      rw [upsert_all_cons] at found
      rcases ih found with earlier | later
      · split at earlier
        · exact Or.inl earlier
        · rw [get_put] at earlier
          split at earlier
          · rename_i own
            cases earlier
            exact Or.inr (own ▸ List.mem_cons_self)
          · exact Or.inl earlier
      · exact Or.inr (List.mem_cons_of_mem _ later)

section Reindex

variable {Other Image : Type} [DecidableEq Other]

def reindex (table : Table Key Row) (rekey : Key → Row → Option (Other × Image)) :
    Table Other Image :=
  table.entries.foldr
    (fun entry rest =>
      match rekey entry.1 entry.2 with
      | some (key, row) => rest.put key row
      | none => rest) ∅

theorem get_reindex (table : Table Key Row) (rekey : Key → Row → Option (Other × Image))
    (unique : ∀ first second firstRow secondRow key firstImage secondImage,
      table.get first = some firstRow → table.get second = some secondRow →
        rekey first firstRow = some (key, firstImage) →
          rekey second secondRow = some (key, secondImage) → first = second)
    (key : Other) (image : Image) :
    (table.reindex rekey).get key = some image ↔
      ∃ source row, table.get source = some row ∧ rekey source row = some (key, image) := by
  have folded : ∀ entries : List (Sigma fun _ : Key => Row), (∀ entry ∈ entries,
      entry ∈ table.entries) →
      (Table.get (entries.foldr
        (fun entry rest =>
          match rekey entry.1 entry.2 with
          | some (key, row) => rest.put key row
          | none => rest) (∅ : Table Other Image)) key = some image ↔
        ∃ entry ∈ entries, rekey entry.1 entry.2 = some (key, image)) := by
    intro entries part
    induction entries with
    | nil => simp
    | cons entry rest ih =>
        have later := ih fun other member => part other (List.mem_cons_of_mem _ member)
        have stored := (mem_entries_iff table entry.1 entry.2).1 (part entry List.mem_cons_self)
        simp only [List.foldr_cons, List.mem_cons, exists_eq_or_imp]
        split
        · rename_i found row rekeyed
          rw [get_put]
          by_cases same : key = found
          · subst same
            rw [if_pos rfl, rekeyed]
            constructor
            · intro eq
              cases eq
              exact Or.inl rfl
            · rintro (eq | ⟨other, member, image⟩)
              · cases eq
                rfl
              · -- two rows with one new key are the same row
                have storedOther := (mem_entries_iff table other.1 other.2).1
                  (part other (List.mem_cons_of_mem _ member))
                have sameSource := unique _ _ _ _ _ _ _ stored storedOther rekeyed image
                rw [← sameSource, stored, Option.some_inj] at storedOther
                rw [← sameSource, ← storedOther, rekeyed] at image
                cases image
                rfl
          · rw [if_neg same, later, rekeyed]
            constructor
            · exact Or.inr
            · rintro (eq | found)
              · cases eq
                exact absurd rfl same
              · exact found
        · rename_i unkeyed
          rw [later, unkeyed]
          simp
  rw [reindex, folded table.entries fun _ member => member]
  constructor
  · rintro ⟨⟨source, row⟩, member, rekeyed⟩
    exact ⟨source, row, (mem_entries_iff table source row).1 member, rekeyed⟩
  · rintro ⟨source, row, stored, rekeyed⟩
    exact ⟨⟨source, row⟩, (mem_entries_iff table source row).2 stored, rekeyed⟩

end Reindex

end Table

end Relational
