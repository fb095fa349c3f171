import LinkAlive.System.Cases

/-!
# Lock exclusion

A lock is held by at most one transaction. What a transaction has read of a resource
that it locks therefore stays true until it ends.
-/

namespace LinkAlive

open Relational

set_option autoImplicit false

def Exclusive (locks : Transaction → Bool) (s : System) : Prop :=
  ∀ t u tx ux, s.txs.get t = some tx → s.txs.get u = some ux → locks tx = true →
    locks ux = true → t = u

theorem exclusive_put {locks : Transaction → Bool} {s after : System} {t : TxId}
    {tx : Transaction} (exclusive : Exclusive locks s) (written : after.txs = s.txs.put t tx)
    (acquired : locks tx = true → s.freeFor t locks = true) : Exclusive locks after := by
  have alone : locks tx = true → ∀ other ox, s.txs.get other = some ox → other ≠ t →
      locks ox = false := fun held => System.free_for_iff.1 (acquired held)
  intro u v ux vx foundU foundV heldU heldV
  rw [written, Table.get_put] at foundU foundV
  by_cases sameU : u = t <;> by_cases sameV : v = t
  · rw [sameU, sameV]
  · rw [if_pos sameU] at foundU
    rw [if_neg sameV] at foundV
    cases foundU
    simp [alone heldU v vx foundV sameV] at heldV
  · rw [if_neg sameU] at foundU
    rw [if_pos sameV] at foundV
    cases foundV
    simp [alone heldV u ux foundU sameU] at heldU
  · rw [if_neg sameU] at foundU
    rw [if_neg sameV] at foundV
    exact exclusive u v ux vx foundU foundV heldU heldV

theorem exclusive_remove {locks : Transaction → Bool} {s after : System} {t : TxId}
    (exclusive : Exclusive locks s) (written : after.txs = s.txs.remove t) :
    Exclusive locks after := by
  intro u v ux vx foundU foundV heldU heldV
  rw [written, Table.get_remove] at foundU foundV
  split at foundU
  · cases foundU
  split at foundV
  · cases foundV
  exact exclusive u v ux vx foundU foundV heldU heldV

theorem exclusive_step {locks : Transaction → Bool} {s after : System} {a : Action}
    (stepped : Stepped s a after) (exclusive : Exclusive locks s)
    (began : ∀ t tx jobs attempts, TxBegin s t a tx jobs attempts → locks tx = true →
      s.free locks = true)
    (advanced : ∀ t tx next, s.txs.get t = some (.persist tx) → PersistAdvance s t tx a next →
      locks (.persist next) = true →
        locks (.persist tx) = true ∨ s.freeFor t locks = true) : Exclusive locks after := by
  cases stepped with
  | channel => exact exclusive
  | ledger => exact exclusive
  | began _ t tx jobs attempts begun =>
      apply exclusive_put exclusive rfl
      intro held
      have free := System.free_iff.1 (began t tx jobs attempts begun held)
      exact System.free_for_iff.2 fun other ox found _ => free other ox found
  | advanced _ t tx next inProgress advance =>
      apply exclusive_put exclusive rfl
      intro held
      rcases advanced t tx next inProgress advance held with before | free
      · apply System.free_for_iff.2
        intro other ox found different
        cases lock : locks ox with
        | false => rfl
        | true => exact absurd (exclusive other t ox _ found inProgress lock before) different
      · exact free
  | failed => exact exclusive
  | dispatcher => exact exclusive
  | committed => exact exclusive_remove exclusive rfl
  | aborted => exact exclusive_remove exclusive rfl

section Advance

variable {db : Database} {tx next : PersistTx}

theorem apply_effect_kept (newIncidentId : IncidentId) :
    (applyIncidentEffect db tx newIncidentId).config = tx.config ∧
      (applyIncidentEffect db tx newIncidentId).checkId = tx.checkId ∧
      (applyIncidentEffect db tx newIncidentId).check = tx.check ∧
      (applyIncidentEffect db tx newIncidentId).monitor = tx.monitor ∧
      (applyIncidentEffect db tx newIncidentId).result = tx.result ∧
      (applyIncidentEffect db tx newIncidentId).transition = tx.transition := by
  unfold applyIncidentEffect
  split
  · simp
  · split <;> simp
  · split <;> simp
  · split <;> simp
  · simp

/-- What the loop of a resolution leaves alone. -/
theorem resolve_step_kept {rowFree : OutboxKey → Bool}
    (resolved : resolveStep db tx rowFree = some next) :
    next.config = tx.config ∧ next.checkId = tx.checkId ∧ next.check = tx.check ∧
      next.monitor = tx.monitor ∧ next.result = tx.result ∧ next.transition = tx.transition ∧
      next.incident = tx.incident := by
  obtain ⟨resolution, _, move⟩ := resolve_step_cases resolved
  cases move <;> exact ⟨rfl, rfl, rfl, rfl, rfl, rfl, rfl⟩

theorem resolve_step_locks {rowFree : OutboxKey → Bool} {key : OutboxKey}
    (resolved : resolveStep db tx rowFree = some next)
    (held : (Transaction.persist next).locksRow key = true) :
    (Transaction.persist tx).locksRow key = true ∨ rowFree key = true := by
  obtain ⟨resolution, _, move⟩ := resolve_step_cases resolved
  simp only [Transaction.locksRow, Bool.or_eq_true, decide_eq_true_eq] at held ⊢
  cases move with
  | finished => exact Or.inl held
  | excluded => exact Or.inl held
  | planned => exact Or.inl held
  | missed => exact Or.inl held
  | reread => exact Or.inl held
  | canceled target down row rest todo phase allows plan free found replaceable =>
      simp only [List.mem_append, List.mem_singleton] at held
      rcases held with (before | rfl) | redacted
      · exact Or.inl (Or.inl before)
      · exact Or.inr free
      · exact Or.inl (Or.inr redacted)
  | written target down rest decision todo phase free =>
      unfold finishDown at held
      simp only at held
      cases retains : decision.retains down resolution.incident.status with
      | true =>
          rw [retains, if_pos rfl] at held
          exact Or.inl held
      | false =>
          rw [retains, if_neg (by simp), List.mem_append, List.mem_singleton] at held
          rcases held with canceled | before | rfl
          · exact Or.inl (Or.inl canceled)
          · exact Or.inl (Or.inr before)
          · exact Or.inr (free retains)

theorem apply_effect_rows (newIncidentId : IncidentId) :
    (applyIncidentEffect db tx newIncidentId).outbox.cancels = tx.outbox.cancels ∧
      (applyIncidentEffect db tx newIncidentId).outbox.redacts = tx.outbox.redacts := by
  unfold applyIncidentEffect
  split
  · exact ⟨rfl, rfl⟩
  · split <;> exact ⟨rfl, rfl⟩
  · split <;> exact ⟨rfl, rfl⟩
  · split <;> exact ⟨rfl, rfl⟩
  · exact ⟨rfl, rfl⟩

end Advance

theorem advance_kept {s : System} {t : TxId} {tx next : PersistTx} {a : Action}
    (advance : PersistAdvance s t tx a next) :
    next.config = tx.config ∧ next.checkId = tx.checkId ∧ next.check = tx.check ∧
      next.monitor = tx.monitor ∧ next.result = tx.result ∧ next.transition = tx.transition := by
  cases advance with
  | effect newIncidentId => exact apply_effect_kept newIncidentId
  | resolve _ resolved =>
      have kept := resolve_step_kept resolved
      exact ⟨kept.1, kept.2.1, kept.2.2.1, kept.2.2.2.1, kept.2.2.2.2.1, kept.2.2.2.2.2.1⟩

theorem due_entries_mem {s : System} {now : Time} {chosen : List (MonitorId × CheckId)}
    {due : List (DueMonitor × CheckId)} (selected : s.dueEntries now chosen = some due) :
    ∀ entry ∈ due, dueMonitor s.db now entry.1.id = some entry.1 ∧
      s.free (Transaction.locksMonitor entry.1.id) = true := by
  induction chosen generalizing due with
  | nil =>
      cases selected
      simp
  | cons head rest ih =>
      obtain ⟨id, checkId⟩ := head
      simp only [System.dueEntries, Option.bind_eq_bind, Option.bind_eq_some_iff] at selected
      obtain ⟨monitor, dueRow, others, tail, taken⟩ := selected
      split at taken
      · rename_i unlocked
        cases taken
        have sameId : monitor.id = id := by
          simp only [dueMonitor, Option.bind_eq_bind, Option.bind_eq_some_iff] at dueRow
          obtain ⟨row, _, next, _, chosenRow⟩ := dueRow
          split at chosenRow
          · cases chosenRow
            rfl
          · cases chosenRow
        intro entry member
        rcases List.mem_cons.1 member with rfl | later
        · rw [sameId]
          exact ⟨dueRow, unlocked⟩
        · exact ih tail entry later
      · cases taken

theorem monitor_exclusive_step {s after : System} {a : Action} (id : MonitorId)
    (stepped : Stepped s a after) (exclusive : Exclusive (Transaction.locksMonitor id) s) :
    Exclusive (Transaction.locksMonitor id) after := by
  apply exclusive_step stepped exclusive
  · intro t tx jobs attempts begun held
    cases begun with
    | monitor other request change now next changed free =>
        have same : other = id := by simpa [Transaction.locksMonitor] using held
        rw [← same]
        exact free
    | channel => simp [Transaction.locksMonitor] at held
    | createDue now chosen due selected =>
        simp only [Transaction.locksMonitor, List.any_eq_true, decide_eq_true_eq] at held
        obtain ⟨entry, member, same⟩ := held
        rw [← same]
        exact (due_entries_mem selected entry member).2
    | persist job checkId check original config result databaseTime tx running started free =>
        have same : tx.monitorId = id := by simpa [Transaction.locksMonitor] using held
        rw [← same]
        exact free
    | claim => simp [Transaction.locksMonitor] at held
    | markSent => simp [Transaction.locksMonitor] at held
  · intro t tx next inProgress advance held
    have kept := (advance_kept advance).2.2.1
    left
    simp only [Transaction.locksMonitor, PersistTx.monitorId, kept] at held ⊢
    exact held

theorem persist_begin_fresh {db : Database} {id : CheckId} {original : MonitorRow}
    {config : CheckProcessorConfig} {result : MonitorCheckResult} {databaseTime : Time}
    {tx : PersistTx} (started : persistBegin db id original config result databaseTime = some tx) :
    tx.stage = .begun ∧ tx.incident = .none ∧ tx.outbox = .empty := by
  simp only [persistBegin, Option.bind_eq_bind, Option.bind_eq_some_iff] at started
  obtain ⟨check, _, started⟩ := started
  split at started
  · cases started
  · simp only [Option.bind_eq_some_iff] at started
    obtain ⟨monitor, _, transition, _, built⟩ := started
    cases built
    exact ⟨rfl, rfl, rfl⟩

theorem row_exclusive_step {s after : System} {a : Action} (key : OutboxKey)
    (stepped : Stepped s a after) (exclusive : Exclusive (Transaction.locksRow key) s) :
    Exclusive (Transaction.locksRow key) after := by
  apply exclusive_step stepped exclusive
  · intro t tx jobs attempts begun held
    cases begun with
    | claim target row instanceId leaseMs now found free =>
        have same : target = key := by simpa [Transaction.locksRow] using held
        rw [← same]
        exact free
    | markSent attempt claimed providerMessageId now databaseTime remembered free =>
        have same : claimed.key = key := of_decide_eq_true held
        rw [← same]
        exact free
    | persist job checkId check original config result databaseTime tx running started free =>
        have empty := (persist_begin_fresh started).2.2
        simp [Transaction.locksRow, empty, OutboxWrites.empty] at held
    | monitor => simp [Transaction.locksRow] at held
    | channel => simp [Transaction.locksRow] at held
    | createDue => simp [Transaction.locksRow] at held
  · intro t tx next inProgress advance held
    cases advance with
    | effect newIncidentId begun =>
        left
        simp only [Transaction.locksRow] at held ⊢
        rw [(apply_effect_rows newIncidentId).1, (apply_effect_rows newIncidentId).2] at held
        exact held
    | resolve _ resolved => exact resolve_step_locks resolved held

end LinkAlive
