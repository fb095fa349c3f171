import LinkAlive.Outbox.Attempts
import LinkAlive.Outbox.Retirement

/-!
# Attempts of canceled rows

`cancelRuntime` and the retirement of a channel give up open attempts in their first
statement and cancel the rows in a later one. The first statement looks for rows in
PROCESSING: it misses an attempt that is claimed after it, and the attempt of a row that
the dispatcher has taken out of PROCESSING because its lease had expired.
-/

namespace LinkAlive

open Relational Transition

set_option autoImplicit false

def Transaction.cancelsRow (key : OutboxKey) (row : OutboxRow) : Transaction → Bool
  | .monitor tx => tx.change.cancels.isSome && ofMonitor tx.id key row
  | .channel tx => tx.change.retires.isSome && ofChannel tx.id key row
  | .persist _ | .claim _ | .markSent _ | .createDue _ => false

/-- The open attempts of the rows that the operation would cancel now, as far as its first
statement has not given them up. -/
def System.overlookedAttempts (s : System) (tx : Transaction) : List (OutboxKey × Nat) :=
  (s.db.deliveries.select fun attempt delivery =>
    delivery.status = .attempting && decide (attempt ∉ tx.found) &&
      (s.db.outbox.get attempt.1).any fun row =>
        tx.cancelsRow attempt.1 row && !row.status.isTerminal).map Prod.fst

def overlooks (s : System) : Action → Bool
  | .commit t => (s.txs.get t).any fun tx => !(s.overlookedAttempts tx).isEmpty
  | _ => false

def OpenAt (deliveries : Deliveries) (attempt : OutboxKey × Nat) : Prop :=
  ∃ delivery, deliveries.get attempt = some delivery ∧ delivery.status = .attempting

def CanceledRow (db : Database) (key : OutboxKey) : Prop :=
  ∃ row, db.outbox.get key = some row ∧ row.status = .canceled

/-- Once no transaction is in progress, the rows that the commit has canceled, and that are
still canceled, have no open attempt. -/
def ClosesAttempts (s after : System) (tx : Transaction) : Prop :=
  ∀ visited later, Run step after visited later → later.quiescent →
    ∀ key row, s.db.outbox.get key = some row → tx.cancelsRow key row = true →
      row.status.isTerminal = false → (∀ state a, (state, a) ∈ visited → CanceledRow state.db key) →
      CanceledRow later.db key → ∀ number, ¬ OpenAt later.db.deliveries (key, number)

/-- The rows that operations of the run have canceled, and that have been canceled since, have
no open attempt. -/
def NoOrphans (visited : List (System × Action)) (s : System) : Prop :=
  ∀ earlier later before t tx key row, visited = earlier ++ (before, .commit t) :: later →
    before.txs.get t = some tx → before.db.outbox.get key = some row →
      tx.cancelsRow key row = true → row.status.isTerminal = false →
      (∀ state a, (state, a) ∈ later → CanceledRow state.db key) → CanceledRow s.db key →
        ∀ number, ¬ OpenAt s.db.deliveries (key, number)

theorem mem_overlooked_attempts {s : System} {tx : Transaction} {attempt : OutboxKey × Nat} :
    attempt ∈ s.overlookedAttempts tx ↔
      ∃ delivery row, s.db.deliveries.get attempt = some delivery ∧
        delivery.status = .attempting ∧ attempt ∉ tx.found ∧
        s.db.outbox.get attempt.1 = some row ∧ tx.cancelsRow attempt.1 row = true ∧
        row.status.isTerminal = false := by
  simp only [System.overlookedAttempts, List.mem_map, Prod.exists, Table.mem_select,
    Bool.and_eq_true, decide_eq_true_eq, Option.any_eq_true, Bool.not_eq_true']
  constructor
  · rintro ⟨key, number, delivery, ⟨stored, ⟨isOpen, missed⟩, row, found, cancels, active⟩, rfl⟩
    exact ⟨delivery, row, stored, isOpen, missed, found, cancels, active⟩
  · rintro ⟨delivery, row, stored, isOpen, missed, found, cancels, active⟩
    exact ⟨attempt.1, attempt.2, delivery, ⟨stored, ⟨isOpen, missed⟩, row, found, cancels, active⟩,
      rfl⟩

theorem retired_by_runtime_canceled {row : OutboxRow} (active : row.status.isTerminal = false)
    (now : Time) : (row.retiredByRuntime now).status = .canceled := by
  simp [OutboxRow.retiredByRuntime, active, OutboxRow.canceledByRuntime, OutboxRow.retired]

theorem abandoned_open_iff (deliveries : Deliveries) (found : List (OutboxKey × Nat)) (now : Time)
    (error : String) (attempt : OutboxKey × Nat) :
    OpenAt (abandonDeliveries deliveries found now error) attempt ↔
      OpenAt deliveries attempt ∧ attempt ∉ found := by
  simp only [OpenAt, abandonDeliveries, Table.get_update_where, Option.map_eq_some_iff,
    decide_eq_true_eq]
  constructor
  · rintro ⟨_, ⟨delivery, stored, rfl⟩, isOpen⟩
    by_cases given : attempt ∈ found
    · rw [if_pos given] at isOpen
      cases isOpen
    · rw [if_neg given] at isOpen
      exact ⟨⟨delivery, stored, isOpen⟩, given⟩
  · rintro ⟨⟨delivery, stored, isOpen⟩, kept⟩
    exact ⟨delivery, ⟨delivery, stored, by rw [if_neg kept]⟩, isOpen⟩

theorem cancel_committed {s after : System} {t : TxId} {tx : Transaction}
    (stepped : Stepped s (.commit t) after) (inProgress : s.txs.get t = some tx) {key : OutboxKey}
    {row : OutboxRow} (stored : s.db.outbox.get key = some row)
    (cancels : tx.cancelsRow key row = true) (active : row.status.isTerminal = false) :
    CanceledRow after.db key ∧ ∀ attempt, OpenAt after.db.deliveries attempt ↔
      OpenAt s.db.deliveries attempt ∧ attempt ∉ tx.found := by
  obtain ⟨db, attempts, events, commit, rfl⟩ := commit_step_cases stepped inProgress
  cases commit with
  | persist => cases cancels
  | claimIgnored => cases cancels
  | claimGranted => cases cancels
  | markSent => cases cancels
  | createDue => cases cancels
  | monitor tx db free written =>
      rw [Transaction.cancelsRow, Bool.and_eq_true, ofMonitor, decide_eq_true_eq] at cancels
      refine ⟨⟨_, runtime_canceled_row cancels.1 written stored cancels.2,
        retired_by_runtime_canceled active tx.now⟩, fun attempt => ?_⟩
      obtain ⟨⟨reason, found⟩, change⟩ := Option.isSome_iff_exists.1 cancels.1
      have given : (Transaction.monitor tx).found = found := by
        rw [Transaction.found, MonitorChange.found, change]
      dsimp only
      rw [monitor_commit_deliveries written, MonitorTx.runtimeWrite, change, given]
      exact abandoned_open_iff _ _ _ _ attempt
  | channel tx free =>
      rw [Transaction.cancelsRow, Bool.and_eq_true] at cancels
      obtain ⟨found, change⟩ := Option.isSome_iff_exists.1 cancels.1
      have given : (Transaction.channel tx).found = found := by
        rw [Transaction.found, ChannelChange.found, change]
        rfl
      have written : (channelCommit s.db tx).outbox =
          retireRows s.db.outbox (ofChannel tx.id) tx.now := by
        rw [channelCommit, ChannelTx.retireWrite, change]
      refine ⟨⟨row.retiredByRuntime tx.now, ?_, retired_by_runtime_canceled active tx.now⟩,
        fun attempt => ?_⟩
      · dsimp only
        rw [written, retire_rows_get _ _ _ (fun _ _ => rfl) stored, if_pos cancels.2]
      · dsimp only
        rw [given, channelCommit, ChannelTx.retireWrite, change]
        exact abandoned_open_iff _ _ _ _ attempt

theorem Subsided.opens {before after : Deliveries} (quiet : Subsided before after)
    {attempt : OutboxKey × Nat} (opened : OpenAt after attempt) : OpenAt before attempt := by
  obtain ⟨next, stored, isOpen⟩ := opened
  cases earlier : before.get attempt with
  | none =>
      rw [quiet.absent _ earlier] at stored
      cases stored
  | some delivery =>
      obtain ⟨other, kept, -, stays⟩ := quiet.stored _ delivery earlier
      rw [stored] at kept
      cases kept
      exact ⟨delivery, earlier, stays isOpen⟩

theorem canceled_row_opens_none {s after : System} {a : Action} (stepped : Stepped s a after)
    {key : OutboxKey} (canceled : CanceledRow s.db key) {number : Nat}
    (opened : OpenAt after.db.deliveries (key, number)) : OpenAt s.db.deliveries (key, number) := by
  cases granted : s.grant a with
  | none => exact (quiet_step stepped granted).deliveries.opens opened
  | some claimed =>
      obtain ⟨t, tx, row, -, -, -, grant⟩ := grant_step stepped granted
      have other : (key, number) ≠ (tx.key, row.attemptCount + 1) := by
        intro same
        obtain ⟨held, found, status⟩ := canceled
        rw [Prod.mk.injEq] at same
        rw [same.1, grant.found] at found
        cases found
        have waiting := claim_outcome_not_terminal (Or.inr grant.outcome)
        rw [status] at waiting
        cases waiting
      apply (abandon_attempts_subsided s.db.deliveries tx.key tx.now).opens
      obtain ⟨next, stored, isOpen⟩ := opened
      rw [grant.deliveries, Table.get_put, if_neg other] at stored
      exact ⟨next, stored, isOpen⟩

/-- A run that rolls back whatever is in progress. -/
theorem abort_all (s : System) :
    ∃ visited last, Run step s visited last ∧ last.quiescent ∧ last.db = s.db ∧
      ∀ state a, (state, a) ∈ visited → state.db = s.db := by
  generalize size : s.txs.keys.length = count
  induction count generalizing s with
  | zero =>
      refine ⟨[], s, .start, fun t => ?_, rfl, by simp⟩
      refine AList.lookup_eq_none.2 fun member => ?_
      have key := AList.mem_keys.1 member
      rw [List.length_eq_zero_iff.1 size] at key
      cases key
  | succ count ih =>
      obtain ⟨t, member⟩ : ∃ t, t ∈ s.txs.keys :=
        List.exists_mem_of_length_pos (by omega)
      obtain ⟨tx, inProgress⟩ := Option.isSome_iff_exists.1 (AList.lookup_isSome.2 member)
      have taken : step s (.abort t) = some { s with txs := s.txs.remove t } := by
        have present : (s.txs.get t).isSome = true := by rw [Table.get, inProgress]; rfl
        simp only [step, System.abort, present, if_true]
      have fewer : (s.txs.remove t).keys.length = count := by
        rw [Table.remove, AList.keys_erase, List.length_erase_of_mem member]
        omega
      obtain ⟨visited, last, run, quiescent, same, kept⟩ := ih { s with txs := s.txs.remove t } fewer
      have first : Run step s [(s, .abort t)] { s with txs := s.txs.remove t } :=
        Run.start.next taken
      refine ⟨_, last, first.trans run, quiescent, same, ?_⟩
      intro state a visitedPair
      rcases List.mem_append.1 visitedPair with start | rest
      · rw [List.mem_singleton] at start
        cases start
        rfl
      · exact kept state a rest

theorem no_open_attempt {s after later : System} {t : TxId} {tx : Transaction}
    {visited : List (System × Action)} (stepped : Stepped s (.commit t) after)
    (inProgress : s.txs.get t = some tx) (none : s.overlookedAttempts tx = [])
    (run : Run step after visited later) {key : OutboxKey} {row : OutboxRow}
    (found : s.db.outbox.get key = some row) (cancels : tx.cancelsRow key row = true)
    (active : row.status.isTerminal = false)
    (canceled : ∀ state a, (state, a) ∈ visited → CanceledRow state.db key) (number : Nat) :
    ¬ OpenAt later.db.deliveries (key, number) := by
  obtain ⟨-, remain⟩ := cancel_committed stepped inProgress found cancels active
  refine run.preserves (fun state _ => CanceledRow state.db key)
    (fun state => ¬ OpenAt state.db.deliveries (key, number)) ?_ ?_ canceled
  · intro opened
    obtain ⟨⟨delivery, stored, isOpen⟩, missed⟩ := (remain (key, number)).1 opened
    have overlooked := mem_overlooked_attempts.2
      ⟨delivery, row, stored, isOpen, missed, found, cancels, active⟩
    rw [none] at overlooked
    exact List.not_mem_nil overlooked
  · intro state a next closed isCanceled taken opened
    exact closed (canceled_row_opens_none (step_cases taken) isCanceled opened)

/-- A commit of `cancelRuntime` or of a channel retirement leaves no orphan exactly when, at
that moment, every open attempt of a row that it cancels has been given up by its first
statement. -/
theorem cancellation_closes_attempts_iff {s after : System} {t : TxId} {tx : Transaction}
    (inProgress : s.txs.get t = some tx) (committed : step s (.commit t) = some after) :
    ClosesAttempts s after tx ↔ s.overlookedAttempts tx = [] := by
  have stepped := step_cases committed
  constructor
  · intro closes
    rw [List.eq_nil_iff_forall_not_mem]
    rintro ⟨key, number⟩ overlooked
    obtain ⟨delivery, row, stored, isOpen, missed, found, cancels, active⟩ :=
      mem_overlooked_attempts.1 overlooked
    obtain ⟨canceled, remain⟩ := cancel_committed stepped inProgress found cancels active
    obtain ⟨visited, last, run, quiescent, same, kept⟩ := abort_all after
    have left : OpenAt after.db.deliveries (key, number) :=
      (remain _).2 ⟨⟨delivery, stored, isOpen⟩, missed⟩
    refine closes visited last run quiescent key row found cancels active ?_ ?_ number ?_
    · intro state a member
      rw [kept state a member]
      exact canceled
    · rw [same]
      exact canceled
    · rw [same]
      exact left
  · intro none visited later run _ key row found cancels active canceled _ number
    exact no_open_attempt stepped inProgress none run found cancels active canceled number

theorem no_orphaned_attempts {visited : List (System × Action)} {s : System}
    (run : Run step System.initial visited s)
    (careful : Along (fun state a => overlooks state a = false) visited) : NoOrphans visited s := by
  intro earlier later before t tx key row split inProgress found cancels active canceled _ number
  obtain ⟨middle, -, rest⟩ := run.suffix split
  obtain ⟨rfl, after, committed, tail⟩ := rest.uncons
  have none : before.overlookedAttempts tx = [] := by
    have harmless := careful before (.commit t) (by rw [split]; simp)
    simpa [overlooks, inProgress] using harmless
  exact no_open_attempt (step_cases committed) inProgress none tail found cancels active canceled
    number

def claimDuringPause : List Action :=
  Script.setUp ++ Script.failingCheck 1 1 1000 ++ [.beginMonitor 1 1 .pause 2000 2000] ++
    Script.claimRow (Script.downKey 1) 2000

def hasOrphan (key : OutboxKey) (s : System) : Bool :=
  ((s.db.outbox.get key).any fun row => row.status = .canceled) &&
    (s.db.deliveries.get (key, 1)).any fun delivery => delivery.status = .attempting

theorem claimed_attempt_orphaned :
    ¬ ∀ (visited : List (System × Action)) (s : System), Run step System.initial visited s →
      s.quiescent → NoOrphans visited s := by
  intro never
  obtain ⟨before, ⟨earlier, run⟩, tested⟩ := reachable_of_script claimDuringPause
    (fun s => (s.monitorTx 1).any fun tx =>
      ((s.db.outbox.get (Script.downKey 1)).any fun row =>
        (Transaction.monitor tx).cancelsRow (Script.downKey 1) row && !row.status.isTerminal) &&
      (step s (.commit 1)).any fun after =>
        (after.free fun _ => true) && hasOrphan (Script.downKey 1) after) (by decide +kernel)
  simp only [Option.any_eq_true, Bool.and_eq_true, Bool.not_eq_true'] at tested
  obtain ⟨tx, inProgress, ⟨row, found, cancels, active⟩, after, committed, idle, orphan⟩ := tested
  rw [System.monitor_tx_eq_some] at inProgress
  simp only [hasOrphan, Bool.and_eq_true, Option.any_eq_true, decide_eq_true_eq] at orphan
  obtain ⟨canceled, opened⟩ := orphan
  exact never _ after (run.next committed) (quiescent_of_free idle) earlier [] before 1 _ _ row rfl
    inProgress found cancels active (by simp) canceled 1 opened

/-- Claimed before the pause begins, the attempt is given up with it. -/
theorem no_orphaned_attempts_sample :
    ∃ visited s, NoOrphans visited s ∧
      ((s.db.outbox.get (Script.downKey 1)).any fun row => row.status = .canceled) = true ∧
      hasOrphan (Script.downKey 1) s = false := by
  obtain ⟨visited, s, run, careful, tested⟩ := run_of_script
    (Script.setUp ++ Script.failingCheck 1 1 1000 ++ Script.claimRow (Script.downKey 1) 2000 ++
      Script.administer .pause 2500) overlooks
    (fun s => ((s.db.outbox.get (Script.downKey 1)).any fun row => row.status = .canceled) &&
      !hasOrphan (Script.downKey 1) s) (by decide +kernel)
  rw [Bool.and_eq_true, Bool.not_eq_true'] at tested
  exact ⟨visited, s, no_orphaned_attempts run careful, tested.1, tested.2⟩

end LinkAlive
