import LinkAlive.Foundation.Batches
import LinkAlive.Retention.Plan

/-!
# The retention command

`runRetention` of `packages/database/src/retention-runner.ts` after it has acquired
the advisory lock, with the two cutoffs that the database computed. Every step is a
worklist of bounded batches, so a step as a whole redacts or deletes the first
`maxBatchesPerStep × batchSize` rows of its select.
-/

namespace LinkAlive

set_option autoImplicit false

open Relational Sql Batches

structure RetentionConfig where
  checkResultCutoff : Time
  historyCutoff : Time
  batchSize : Nat
  maxBatchesPerStep : Nat

def RetentionConfig.reach (config : RetentionConfig) : Nat :=
  config.maxBatchesPerStep * config.batchSize

def RetentionStepKey.cutoff (config : RetentionConfig) : RetentionStepKey → Time
  | .checkResults | .scheduledChecks => config.checkResultCutoff
  | .notificationDeliveries | .notificationOutbox | .incidents | .auditLogs =>
      config.historyCutoff

def RetentionRedactionStepKey.worklist (engine : SqlText) (key : RetentionRedactionStepKey) :
    Worklist RetentionDatabase Nat where
  select db := key.select engine db
  mutate db ids := key.redact db ids

def RetentionStepKey.worklist (config : RetentionConfig) (key : RetentionStepKey) :
    Worklist RetentionDatabase Nat where
  select db := key.select (key.cutoff config) db
  mutate db ids := key.delete db ids

def limitReached (config : RetentionConfig) (tally : Tally) : Bool :=
  decide (tally.batches = config.maxBatchesPerStep ∧ tally.lastBatchSize = config.batchSize)

def runSteps {Key : Type} (config : RetentionConfig)
    (worklist : Key → Worklist RetentionDatabase Nat) :
    List Key → RetentionDatabase → RetentionDatabase × List (Key × Tally)
  | [], db => (db, [])
  | key :: rest, db =>
      let (after, tally) :=
        (worklist key).run config.batchSize config.maxBatchesPerStep db .start
      let (last, tallies) := runSteps config worklist rest after
      (last, (key, tally) :: tallies)

structure RetentionCompletedResult where
  database : RetentionDatabase
  secretRedactions : List (RetentionRedactionStepKey × Tally)
  steps : List (RetentionStepKey × Tally)

def runRetention (engine : SqlText) (config : RetentionConfig) (db : RetentionDatabase) :
    RetentionCompletedResult :=
  let (redacted, secretRedactions) :=
    runSteps config (RetentionRedactionStepKey.worklist engine) RetentionRedactionStepKey.all db
  let (database, steps) :=
    runSteps config (RetentionStepKey.worklist config) RetentionStepKey.all redacted
  { database, secretRedactions, steps }

theorem mem_take_of_sorted {Entry : Type} {before : Entry → Entry → Bool} {list : List Entry}
    (reflexive : ∀ entry, before entry entry = true)
    (antisymmetric : ∀ first second, before first second = true → before second first = true →
      first = second)
    (sorted : list.Pairwise fun first second => before first second = true) (nodup : list.Nodup)
    {entry : Entry} (member : entry ∈ list) (count : Nat) :
    entry ∈ list.take count ↔ (list.filter fun other => !before entry other).length < count := by
  obtain ⟨front, back, rfl⟩ := List.append_of_mem member
  have apart := (List.nodup_append.1 nodup).2.2
  have ordered := List.pairwise_append.1 sorted
  have frontKept : front.filter (fun other => !before entry other) = front := by
    rw [List.filter_eq_self]
    intro other earlier
    rw [Bool.not_eq_true', ← Bool.not_eq_true]
    intro later
    have forward := ordered.2.2 other earlier entry List.mem_cons_self
    exact apart other earlier entry List.mem_cons_self (antisymmetric other entry forward later)
  have backDropped : (entry :: back).filter (fun other => !before entry other) = [] := by
    rw [List.filter_eq_nil_iff]
    intro other later
    rcases List.mem_cons.1 later with rfl | behind
    · simp [reflexive]
    · simp [List.rel_of_pairwise_cons ordered.2.1 behind]
  rw [List.filter_append, frontKept, backDropped, List.append_nil]
  by_cases reached : front.length < count
  · obtain ⟨extra, rfl⟩ : ∃ extra, count = front.length + (extra + 1) :=
      ⟨count - front.length - 1, by omega⟩
    simp [List.take_append]
  · have short : (front ++ entry :: back).take count = front.take count := by
      rw [List.take_append_of_le_length (by omega)]
    rw [short]
    refine iff_of_false (fun early => ?_) reached
    exact apart entry (List.mem_of_mem_take early) entry List.mem_cons_self rfl

section Selections

variable {Row : Type}

/-- The pairs that `ORDER BY time, id` sorts. -/
def orderedRows (table : Table Nat Row) (keep : Nat → Row → Bool) (time : Row → Time) :
    List (Nat × Nat) :=
  ((table.select keep).map fun entry => (time entry.2, entry.1)).mergeSort orderedBefore

theorem select_ordered_eq (table : Table Nat Row) (keep : Nat → Row → Bool) (time : Row → Time) :
    selectOrdered table keep time = (orderedRows table keep time).map Prod.snd := rfl

theorem mem_ordered_rows {table : Table Nat Row} {keep : Nat → Row → Bool} {time : Row → Time}
    {entry : Nat × Nat} :
    entry ∈ orderedRows table keep time ↔
      ∃ row, table.get entry.2 = some row ∧ keep entry.2 row = true ∧ time row = entry.1 := by
  simp only [orderedRows, List.mem_mergeSort, List.mem_map, Prod.exists, Table.mem_select]
  constructor
  · rintro ⟨id, row, ⟨found, kept⟩, rfl⟩
    exact ⟨row, found, kept, rfl⟩
  · rintro ⟨row, found, kept, stamp⟩
    exact ⟨entry.2, row, ⟨found, kept⟩, by rw [stamp]⟩

theorem ordered_rows_sorted (table : Table Nat Row) (keep : Nat → Row → Bool)
    (time : Row → Time) :
    (orderedRows table keep time).Pairwise fun left right => orderedBefore left right = true := by
  apply List.pairwise_mergeSort
  · intro first second third
    simp only [orderedBefore, decide_eq_true_eq]
    omega
  · intro first second
    simp only [orderedBefore, Bool.or_eq_true, decide_eq_true_eq]
    omega

theorem select_ordered_nodup (table : Table Nat Row) (keep : Nat → Row → Bool)
    (time : Row → Time) : (selectOrdered table keep time).Nodup := by
  rw [select_ordered_eq, orderedRows]
  refine ((List.mergeSort_perm _ _).map Prod.snd).nodup_iff.2 ?_
  simpa [Function.comp_def] using Table.select_keys_nodup table keep

theorem ordered_rows_nodup (table : Table Nat Row) (keep : Nat → Row → Bool)
    (time : Row → Time) : (orderedRows table keep time).Nodup :=
  List.Nodup.of_map Prod.snd (select_ordered_nodup table keep time)

/-- An ordered selection is determined by its rows: dropping some of them from the table
or from the condition drops them from the selection and keeps the order. -/
theorem select_ordered_filter {table next : Table Nat Row} {keep keepNext : Nat → Row → Bool}
    {time : Row → Time} (kept : Nat → Bool)
    (same : ∀ id stamp,
      (∃ row, next.get id = some row ∧ keepNext id row = true ∧ time row = stamp) ↔
        (∃ row, table.get id = some row ∧ keep id row = true ∧ time row = stamp) ∧
          kept id = true) :
    selectOrdered next keepNext time = (selectOrdered table keep time).filter kept := by
  rw [select_ordered_eq, select_ordered_eq, List.filter_map]
  congr 1
  refine List.Perm.eq_of_pairwise ?_ (ordered_rows_sorted next keepNext time)
    ((ordered_rows_sorted table keep time).filter _) ?_
  · intro left right _ _
    simp only [orderedBefore, decide_eq_true_eq, Prod.ext_iff]
    omega
  · rw [List.perm_ext_iff_of_nodup (ordered_rows_nodup _ _ _)
      ((ordered_rows_nodup _ _ _).filter _)]
    rintro ⟨stamp, id⟩
    rw [List.mem_filter, mem_ordered_rows, mem_ordered_rows]
    exact same id stamp

def earlierRows (table : Table Nat Row) (keep : Nat → Row → Bool) (time : Row → Time) (id : Nat)
    (row : Row) : List (Nat × Row) :=
  table.select fun other otherRow =>
    keep other otherRow && !orderedBefore (time row, id) (time otherRow, other)

theorem length_earlier_rows (table : Table Nat Row) (keep : Nat → Row → Bool)
    (time : Row → Time) (id : Nat) (row : Row) :
    (earlierRows table keep time id row).length =
      ((orderedRows table keep time).filter fun entry =>
        !orderedBefore (time row, id) entry).length := by
  rw [orderedRows, ((List.mergeSort_perm _ _).filter _).length_eq, List.filter_map,
    List.length_map, earlierRows, ← Table.filter_select]
  rfl

/-- `LIMIT` reaches a row exactly when fewer rows stand before it. -/
theorem mem_take_select_ordered {table : Table Nat Row} {keep : Nat → Row → Bool}
    {time : Row → Time} {id : Nat} {row : Row} (stored : table.get id = some row) (count : Nat) :
    id ∈ (selectOrdered table keep time).take count ↔
      keep id row = true ∧ (earlierRows table keep time id row).length < count := by
  rw [length_earlier_rows, select_ordered_eq, ← List.map_take, List.mem_map]
  have ranked : ∀ entry ∈ orderedRows table keep time,
      (entry ∈ (orderedRows table keep time).take count ↔
        ((orderedRows table keep time).filter fun other =>
          !orderedBefore entry other).length < count) := by
    intro entry member
    refine mem_take_of_sorted ?_ ?_ (ordered_rows_sorted table keep time)
      (ordered_rows_nodup table keep time) member count
    · intro first
      simp [orderedBefore]
    · intro first second
      simp only [orderedBefore, decide_eq_true_eq, Prod.ext_iff]
      omega
  constructor
  · rintro ⟨⟨stamp, other⟩, member, rfl⟩
    obtain ⟨found, same, kept, rfl⟩ := mem_ordered_rows.1 (List.mem_of_mem_take member)
    rw [stored, Option.some.injEq] at same
    subst same
    exact ⟨kept, (ranked _ (List.mem_of_mem_take member)).1 member⟩
  · rintro ⟨kept, few⟩
    have member : (time row, id) ∈ orderedRows table keep time :=
      mem_ordered_rows.2 ⟨row, stored, kept, rfl⟩
    exact ⟨(time row, id), (ranked _ member).2 few, rfl⟩

end Selections

theorem filter_not_mem_take {ids : List Nat} (nodup : ids.Nodup) (count : Nat) :
    ids.filter (fun id => decide (id ∉ ids.take count)) = ids.drop count := by
  have split := List.take_append_drop count ids
  have apart : (ids.take count ++ ids.drop count).Nodup := by rwa [split]
  conv_lhs => arg 2; rw [← split]
  rw [List.filter_append]
  have none : (ids.take count).filter (fun id => decide (id ∉ ids.take count)) = [] := by
    rw [List.filter_eq_nil_iff]
    intro id member
    simp [member]
  have every : (ids.drop count).filter (fun id => decide (id ∉ ids.take count)) =
      ids.drop count := by
    rw [List.filter_eq_self]
    intro id member
    have fresh : id ∉ ids.take count := fun earlier =>
      (List.nodup_append.1 apart).2.2 id earlier id member rfl
    simpa using fresh
  rw [none, every, List.nil_append]

theorem get_delete_ids {Row : Type} (table : Table Nat Row) (ids : List Nat) (id : Nat)
    (row : Row) :
    (deleteIds table ids).get id = some row ↔ table.get id = some row ∧ id ∉ ids := by
  rw [deleteIds, Table.get_delete_where_eq_some, decide_eq_false_iff_not]

theorem delete_ids_nil {Row : Type} (table : Table Nat Row) : deleteIds table [] = table := by
  apply AList.ext
  simp [deleteIds, Table.deleteWhere]

theorem delete_ids_append {Row : Type} (table : Table Nat Row) (first second : List Nat) :
    deleteIds (deleteIds table first) second = deleteIds table (first ++ second) := by
  apply AList.ext
  simp only [deleteIds, Table.deleteWhere, List.filter_filter]
  congr 1
  funext entry
  simp [Bool.and_comm]

theorem select_ordered_delete {Row : Type} (table : Table Nat Row) (keep : Nat → Row → Bool)
    (time : Row → Time) (count : Nat) :
    selectOrdered (deleteIds table ((selectOrdered table keep time).take count)) keep time =
      (selectOrdered table keep time).drop count := by
  rw [← filter_not_mem_take (select_ordered_nodup table keep time) count]
  apply select_ordered_filter
  intro id stamp
  simp only [get_delete_ids, decide_eq_true_eq]
  constructor
  · rintro ⟨row, ⟨found, fresh⟩, kept⟩
    exact ⟨⟨row, found, kept⟩, fresh⟩
  · rintro ⟨⟨row, found, kept⟩, fresh⟩
    exact ⟨row, ⟨found, fresh⟩, kept⟩

theorem deletion_lawful (config : RetentionConfig) (key : RetentionStepKey) :
    (key.worklist config).Lawful where
  mutate_nil db := by
    cases key <;> simp only [RetentionStepKey.worklist, RetentionStepKey.delete, delete_ids_nil]
  mutate_mutate db first second := by
    cases key <;>
      simp only [RetentionStepKey.worklist, RetentionStepKey.delete, delete_ids_append]
  select_mutate db count := by
    cases key
    case checkResults => exact select_ordered_delete db.results _ _ count
    case scheduledChecks => exact select_ordered_delete db.checks _ _ count
    case notificationDeliveries => exact select_ordered_delete db.deliveries _ _ count
    case notificationOutbox => exact select_ordered_delete db.outbox _ _ count
    case incidents =>
      simp only [RetentionStepKey.worklist, RetentionStepKey.select, RetentionStepKey.delete,
        selectIncidents]
      exact select_ordered_delete db.incidents _ _ count
    case auditLogs => exact select_ordered_delete db.auditLogs _ _ count

theorem get_redact_ids {Row : Type} (table : Table Nat Row) (change : Row → Row)
    (ids : List Nat) (id : Nat) :
    (redactIds table change ids).get id =
      (table.get id).map fun row => if id ∈ ids then change row else row := by
  simp [redactIds]

theorem redact_ids_nil {Row : Type} (table : Table Nat Row) (change : Row → Row) :
    redactIds table change [] = table :=
  Table.update_where_none table _ fun _ _ => rfl

theorem redact_ids_append {Row : Type} (table : Table Nat Row) {change : Row → Row}
    (idempotent : ∀ row, change (change row) = change row) (first second : List Nat) :
    redactIds (redactIds table change first) change second =
      redactIds table change (first ++ second) := by
  have either : ∀ id : Nat, decide (id ∈ first ++ second) =
      (decide (id ∈ first) || decide (id ∈ second)) := by
    intro id
    simp
  simp only [redactIds, either]
  exact Table.update_where_twice table (fun id => decide (id ∈ first))
    (fun id => decide (id ∈ second)) fun _ row => idempotent row

theorem select_ordered_redact {Row : Type} (table : Table Nat Row)
    {keep keepNext : Nat → Row → Bool} (time : Row → Time) {change : Row → Row} (count : Nat)
    (redacted : ∀ id row, keepNext id (change row) = false)
    (unread : ∀ id row, keepNext id row = keep id row) :
    selectOrdered (redactIds table change ((selectOrdered table keep time).take count))
        keepNext time =
      (selectOrdered table keep time).drop count := by
  rw [← filter_not_mem_take (select_ordered_nodup table keep time) count]
  apply select_ordered_filter
  intro id stamp
  simp only [get_redact_ids, Option.map_eq_some_iff, decide_eq_true_eq]
  constructor
  · rintro ⟨_, ⟨row, found, rfl⟩, kept, same⟩
    split at kept
    · rw [redacted] at kept
      cases kept
    · rename_i fresh
      rw [if_neg fresh] at same
      exact ⟨⟨row, found, (unread id row).symm.trans kept, same⟩, fresh⟩
  · rintro ⟨⟨row, found, kept, same⟩, fresh⟩
    refine ⟨row, ⟨row, found, ?_⟩, (unread id row).trans kept, same⟩
    rw [if_neg fresh]

/-- The redaction select reads no secret but that of the row itself. -/
theorem terminal_where_redact (engine : SqlText) (db : RetentionDatabase) (ids : List Nat)
    (outbox : StoredOutboxRow) :
    terminalNotificationOutboxWhere engine
        { db with outbox := redactIds db.outbox StoredOutboxRow.redacted ids } outbox =
      terminalNotificationOutboxWhere engine db outbox := by
  have standing : standingDownExists
      { db with outbox := redactIds db.outbox StoredOutboxRow.redacted ids } outbox =
        standingDownExists db outbox := by
    unfold standingDownExists redactIds
    dsimp only
    apply exists_in_update
    intro id down
    rfl
  simp only [terminalNotificationOutboxWhere, awaitsReactivation, standing]
  rfl

theorem redaction_lawful (engine : SqlText) (key : RetentionRedactionStepKey) :
    (key.worklist engine).Lawful where
  mutate_nil db := by
    cases key <;>
      simp only [RetentionRedactionStepKey.worklist, RetentionRedactionStepKey.redact,
        redact_ids_nil]
  mutate_mutate db first second := by
    cases key <;>
      simp only [RetentionRedactionStepKey.worklist, RetentionRedactionStepKey.redact]
    case deletedMonitors => rw [@redact_ids_append _ db.monitors MonitorRow.redacted (fun _ => rfl)]
    case deletedNotificationChannels =>
      rw [@redact_ids_append _ db.channels ChannelRow.redacted (fun _ => rfl)]
    case terminalNotificationOutbox =>
      rw [@redact_ids_append _ db.outbox StoredOutboxRow.redacted (fun _ => rfl)]
  select_mutate db count := by
    cases key <;>
      simp only [RetentionRedactionStepKey.worklist, RetentionRedactionStepKey.redact,
        RetentionRedactionStepKey.select, selectDeletedMonitors,
        selectDeletedNotificationChannels, selectTerminalNotificationOutbox]
    case deletedMonitors =>
      refine select_ordered_redact db.monitors _ count ?_ fun _ _ => rfl
      intro id monitor
      simp [MonitorRow.redacted, Sealed.isTombstone]
    case deletedNotificationChannels =>
      refine select_ordered_redact db.channels _ count ?_ fun _ _ => rfl
      intro id channel
      simp [ChannelRow.redacted, Sealed.isTombstone]
    case terminalNotificationOutbox =>
      refine select_ordered_redact db.outbox _ count ?_ ?_
      · intro id outbox
        rw [terminal_where_redact, ← Bool.not_eq_true, Truth.is_true_iff,
          terminalNotificationOutboxWhere, Truth.all_eq_true]
        simp [StoredOutboxRow.redacted, Sealed.isTombstone]
      · intro id outbox
        rw [terminal_where_redact]

end LinkAlive
