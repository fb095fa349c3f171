import LinkAlive.Outbox.Recovery

/-!
# What a resolution makes of a DOWN row

A resolution reads the DOWN rows of its incident once and then answers them one by one.
A row that nobody writes in between is answered by the plan of the values that were read.
An unattempted row in RETRY is not unsent to that plan.
-/

namespace LinkAlive

open Relational Transition

set_option autoImplicit false

/-- A row of the incident and channel of `key` that a step inserts. -/
structure Inserted (db after : Database) (key other : OutboxKey) (row : OutboxRow) : Prop where
  stored : after.outbox.get other = some row
  absent : db.outbox.get other = none
  incident : other.incidentId = key.incidentId
  channel : other.channelId = key.channelId

/-- Exactly one row is inserted for the incident and channel, with this event type. -/
def InsertsOne (db after : Database) (key : OutboxKey) (eventType : NotificationEventType) : Prop :=
  ∃ created row, Inserted db after key created row ∧ row.eventType = eventType ∧
    ∀ other otherRow, Inserted db after key other otherRow → other = created

def InsertsNothing (db after : Database) (key : OutboxKey) : Prop :=
  ∀ other row, ¬ Inserted db after key other row

/-- The rule for the DOWN row of one channel at the commit of a resolution. -/
structure CollapseRule (db after : Database) (key : OutboxKey) (down : OutboxRow) : Prop where
  unattempted : down.status.isTerminal = false → down.attemptCount = 0 →
    (∃ row, after.outbox.get key = some row ∧ row.status = .canceled) ∧
      InsertsOne db after key .resolvedSummary
  attempted : (down.status.isTerminal = false ∧ 0 < down.attemptCount) ∨ down.status = .sent →
    InsertsOne db after key .recovery
  undelivered : down.status = .failed ∨ down.status = .canceled → InsertsNothing db after key

def endsTx (t : TxId) : Action → Bool
  | .commit u | .abort u => u = t
  | _ => false

/-- A resolution from its read of the DOWN rows to its commit, for a channel that wants
recoveries and a DOWN row that nobody else writes. -/
structure UndisturbedResolution (t : TxId) (tx : PersistTx) (newIncidentId : IncidentId)
    (key : OutboxKey) (down : OutboxRow) (first read last after : System)
    (visited : List (System × Action)) : Prop where
  reachable : Reachable first
  inProgress : first.txs.get t = some (.persist tx)
  reads : step first (.applyEffect t newIncidentId) = some read
  resolves : ∃ time, (applyIncidentEffect first.db tx newIncidentId).incident =
    .resolve key.incidentId time
  found : first.db.outbox.get key = some down
  event : down.eventType = .down
  live : channelLive first.db key.channelId = true
  bound : boundForRecovery first.db tx.monitorId key.channelId = true
  allows : payloadAllowsRecovery down.payloadSafe = true
  run : Run step read visited last
  running : Along (fun _ a => endsTx t a = false) visited
  undisturbed : Along (fun s _ => s.db.outbox.get key = some down) visited
  kept : last.db.outbox.get key = some down
  commits : step last (.commit t) = some after

/-- How far a resolution has come with a DOWN row that stays as it was read. -/
inductive Answering (key : OutboxKey) (down : OutboxRow) (tx : PersistTx) : Prop
  | waiting (resolution : Resolution) : tx.stage = .resolving resolution →
      (key, down) ∈ resolution.todo → (resolution.todo.map Prod.fst).Nodup →
      (∀ rest, resolution.todo = (key, down) :: rest → resolution.phase = .first) →
      key ∉ tx.outbox.cancels → (∀ row, (key.followUp, row) ∉ tx.outbox.creates) →
        Answering key down tx
  | planned (resolution : Resolution) (rest : List (OutboxKey × OutboxRow))
      (decision : RecoveryDecision) : tx.stage = .resolving resolution →
      resolution.todo = (key, down) :: rest → key ∉ rest.map Prod.fst →
      resolution.phase = .planned decision →
      planRecoveryNotification down.status down.attemptCount = .ok decision.plan →
      (key ∈ tx.outbox.cancels ↔ decision.plan = .replaceWithResolvedSummary) →
      (∀ row, (key.followUp, row) ∉ tx.outbox.creates) → Answering key down tx
  | answered (plan : RecoveryNotificationPlan) : tx.stage ≠ .begun →
      (∀ resolution, tx.stage = .resolving resolution → key ∉ resolution.todo.map Prod.fst) →
      planRecoveryNotification down.status down.attemptCount = .ok plan →
      (key ∈ tx.outbox.cancels ↔ plan = .replaceWithResolvedSummary) →
      (∀ row, (key.followUp, row) ∈ tx.outbox.creates →
        plan ≠ .skip ∧ row.eventType = plan.eventType) →
      (plan ≠ .skip → ∃ row, (key.followUp, row) ∈ tx.outbox.creates) → Answering key down tx

section Turns

variable {db : Database} {tx next : PersistTx} {resolution : Resolution} {key : OutboxKey}
  {down : OutboxRow} {rowFree : OutboxKey → Bool}

theorem plan_own_turn (stored : db.outbox.get key = some down)
    (allows : payloadAllowsRecovery down.payloadSafe = true)
    (planned : planDown db tx resolution key down rowFree = some next) :
    ∃ decision, planRecoveryNotification down.status down.attemptCount = .ok decision.plan ∧
      next.stage = resolution.at (.planned decision) ∧
      next.outbox.creates = tx.outbox.creates ∧
      next.outbox.cancels = if decision.plan = .replaceWithResolvedSummary then
        tx.outbox.cancels ++ [key] else tx.outbox.cancels := by
  unfold planDown at planned
  simp only [allows, Bool.not_true, Bool.false_eq_true, if_false] at planned
  split at planned
  · cases planned
  · rename_i replaces
    have unsent := plan_replaces replaces
    have replaceable : (db.outbox.get key).any OutboxRow.replaceable = true := by
      rw [stored]
      simp [OutboxRow.replaceable, unsent]
    split at planned
    · cases planned
    · cases planned
      exact ⟨_, replaces, rfl, rfl, rfl⟩
  · rename_i plan different computed
    cases planned
    exact ⟨⟨down.status, down.lastErrorSafe, plan⟩, computed, rfl, rfl, (if_neg different).symm⟩

/-- A statement of the loop that is not about the row. -/
structure OtherTurn (tx next : PersistTx) (resolution : Resolution) (key : OutboxKey) : Prop where
  cancels : key ∈ next.outbox.cancels ↔ key ∈ tx.outbox.cancels
  creates : ∀ row, (key.followUp, row) ∈ next.outbox.creates ↔
    (key.followUp, row) ∈ tx.outbox.creates
  stage : next.stage = .done ∧ resolution.todo = [] ∨ ∃ later, next.stage = .resolving later ∧
    (later.todo = resolution.todo ∨
      ∃ entry, resolution.todo = entry :: later.todo ∧ later.phase = .first)

theorem other_turn (outbox : OutboxView db.outbox tx)
    (fits : ∀ key row, db.outbox.get key = some row → row.Fits key)
    (sequence : key.sequence = notificationSequence .down)
    (stage : tx.stage = .resolving resolution)
    (different : ∀ other read rest, resolution.todo = (other, read) :: rest → other ≠ key)
    (move : ResolveMove db tx resolution rowFree next) : OtherTurn tx next resolution key := by
  have phased : ∀ phase, OtherTurn tx { tx with stage := resolution.at phase } resolution key :=
    fun phase => ⟨Iff.rfl, fun _ => Iff.rfl, .inr ⟨_, rfl, .inl rfl⟩⟩
  cases move with
  | finished empty => exact ⟨Iff.rfl, fun _ => Iff.rfl, .inl ⟨rfl, empty⟩⟩
  | excluded => exact phased _
  | planned => exact phased _
  | missed => exact phased _
  | reread => exact phased _
  | canceled other read row rest todo =>
      refine ⟨?_, fun _ => Iff.rfl, .inr ⟨_, rfl, .inl rfl⟩⟩
      have distinct : key ≠ other := (different other read rest todo).symm
      simp [distinct]
  | written other read rest decision todo =>
      refine ⟨Iff.rfl, ?_, .inr ⟨_, rfl, .inr ⟨_, todo, rfl⟩⟩⟩
      intro row
      obtain ⟨incident, event, stored, found, same, _⟩ :=
        (outbox.todo resolution stage).rows other read (by rw [todo]; exact List.mem_cons_self)
      have aside : key.followUp ≠ (recoveryRow tx resolution.incidentId resolution.incident other
          read decision.plan.eventType).1 := by
        rw [recovery_row_key incident]
        intro together
        have first := sequence_of_down (fits other stored found) (same.eventType.trans event)
        exact different other read rest todo
          (follow_up_injective (first.trans sequence.symm) together.symm)
      unfold finishDown
      simp only
      split
      · exact Iff.rfl
      · rw [List.mem_append, List.mem_singleton]
        constructor
        · rintro (before | last)
          · exact before
          · exact absurd (congrArg Prod.fst last) aside
        · exact .inl

theorem finish_own_turn (incident : key.incidentId = resolution.incidentId)
    {rest : List (OutboxKey × OutboxRow)} {decision : RecoveryDecision}
    (left : key ∉ rest.map Prod.fst)
    (computed : planRecoveryNotification down.status down.attemptCount = .ok decision.plan)
    (cancels : key ∈ tx.outbox.cancels ↔ decision.plan = .replaceWithResolvedSummary)
    (creates : ∀ row, (key.followUp, row) ∉ tx.outbox.creates) :
    Answering key down { tx with
      stage := .resolving { resolution with todo := rest, phase := .first }
      outbox := finishDown tx resolution key down decision } := by
  have target : (recoveryRow tx resolution.incidentId resolution.incident key down
      decision.plan.eventType).1 = key.followUp := recovery_row_key incident
  refine .answered decision.plan (by simp) ?_ computed cancels ?_ ?_
  · intro later same
    cases same
    exact left
  · intro row member
    unfold finishDown at member
    simp only at member
    split at member
    · exact absurd member (creates row)
    · rename_i follows
      rw [List.mem_append, List.mem_singleton] at member
      rcases member with before | last
      · exact absurd before (creates row)
      · refine ⟨follows, ?_⟩
        have same : row = (recoveryRow tx resolution.incidentId resolution.incident key down
          decision.plan.eventType).2 := congrArg Prod.snd last
        rw [same]
        rfl
  · intro follows
    unfold finishDown
    simp only [if_neg follows]
    exact ⟨_, List.mem_append_right _ (List.mem_singleton.2 (Prod.ext target.symm rfl))⟩

theorem resolve_step_answering (outbox : OutboxView db.outbox tx)
    (fits : ∀ key row, db.outbox.get key = some row → row.Fits key)
    (stored : db.outbox.get key = some down) (event : down.eventType = .down)
    (allows : payloadAllowsRecovery down.payloadSafe = true) (answering : Answering key down tx)
    (resolved : resolveStep db tx rowFree = some next) : Answering key down next := by
  have sequence := sequence_of_down (fits key down stored) event
  obtain ⟨resolution, stage, move⟩ := resolve_step_cases resolved
  cases answering with
  | waiting same known todo nodup phase cancels creates =>
      rw [stage] at known
      cases known
      by_cases own : ∃ rest, resolution.todo = (key, down) :: rest
      · obtain ⟨rest, head⟩ := own
        have first := phase rest head
        rw [resolve_first stage head first] at resolved
        obtain ⟨decision, computed, planned, created, canceled⟩ :=
          plan_own_turn stored allows resolved
        have left : key ∉ rest.map Prod.fst := by
          rw [head, List.map_cons, List.nodup_cons] at nodup
          exact nodup.1
        refine .planned _ rest decision planned head left rfl computed ?_ ?_
        · rw [canceled]
          split
          · rename_i replaces
            simp [replaces]
          · rename_i keeps
            exact iff_of_false cancels keeps
        · rw [created]
          exact creates
      · have different : ∀ other read rest, resolution.todo = (other, read) :: rest →
            other ≠ key := by
          rintro other read rest head rfl
          rw [head, List.map_cons, List.nodup_cons] at nodup
          rw [head, List.mem_cons] at todo
          rcases todo with here | later
          · cases here
            exact own ⟨rest, head⟩
          · exact nodup.1 (List.mem_map.2 ⟨_, later, rfl⟩)
        have turn := other_turn outbox fits sequence stage different move
        have silent : ∀ row, (key.followUp, row) ∉ next.outbox.creates := by
          intro row created
          exact creates row ((turn.creates row).1 created)
        have keeps : key ∉ next.outbox.cancels := fun canceled => cancels (turn.cancels.1 canceled)
        rcases turn.stage with ⟨_, empty⟩ | ⟨later, nextStage, same | ⟨entry, split, first⟩⟩
        · rw [empty] at todo
          cases todo
        · rw [← same] at todo nodup own
          exact .waiting later nextStage todo nodup (fun rest head => absurd ⟨rest, head⟩ own) keeps
            silent
        · rw [split, List.map_cons, List.nodup_cons] at nodup
          rw [split, List.mem_cons] at todo
          refine .waiting later nextStage ?_ nodup.2 (fun _ _ => first) keeps silent
          rcases todo with here | there
          · exact absurd ⟨later.todo, by rw [split, here]⟩ own
          · exact there
  | planned same rest decision known todo left phase computed cancels creates =>
      rw [stage] at known
      cases known
      obtain ⟨incident, _⟩ := (outbox.todo resolution stage).rows key down
        (by rw [todo]; exact List.mem_cons_self)
      cases move with
      | finished empty =>
          rw [todo] at empty
          cases empty
      | excluded _ _ _ _ other => cases phase.symm.trans other
      | planned _ _ _ _ _ other => cases phase.symm.trans other
      | missed _ _ _ _ other => cases phase.symm.trans other
      | reread _ _ _ _ _ _ other => cases phase.symm.trans other
      | canceled _ _ _ _ _ other => cases phase.symm.trans other
      | written other read otherRest made head decided =>
          cases phase.symm.trans decided
          cases todo.symm.trans head
          exact finish_own_turn incident left computed cancels creates
  | answered plan started todo computed cancels creates follows =>
      have left := todo resolution stage
      have different : ∀ other read rest, resolution.todo = (other, read) :: rest →
          other ≠ key := by
        rintro other read rest head rfl
        rw [head] at left
        exact left List.mem_cons_self
      have turn := other_turn outbox fits sequence stage different move
      refine .answered plan ?_ ?_ computed (turn.cancels.trans cancels) ?_ ?_
      · rcases turn.stage with ⟨done, _⟩ | ⟨later, nextStage, _⟩
        · simp [done]
        · simp [nextStage]
      · intro other known
        rcases turn.stage with ⟨done, _⟩ | ⟨later, nextStage, same | ⟨entry, split, _⟩⟩
        · rw [done] at known
          cases known
        · rw [nextStage] at known
          cases known
          rw [same]
          exact left
        · rw [nextStage] at known
          cases known
          rw [split] at left
          exact fun member => left (List.mem_cons_of_mem _ member)
      · intro row created
        exact creates row ((turn.creates row).1 created)
      · intro answers
        obtain ⟨row, created⟩ := follows answers
        exact ⟨row, (turn.creates row).2 created⟩

end Turns

/-- Only a granted claim makes a row PROCESSING. -/
theorem processing_move {s : System} {key : OutboxKey} {row next : OutboxRow} {a : Action}
    (move : OutboxMove s key row a next)
    (before : row.status = .processing → 0 < row.attemptCount)
    (processing : next.status = .processing) : 0 < next.attemptCount := by
  cases move with
  | kept => exact before processing
  | dispatched d state decision =>
      cases decision with
      | disabled => cases processing
      | wait => exact before processing
      | undelivered retain => cases retain <;> cases processing
      | dispatch => cases processing
  | finished d state accepted => cases accepted <;> cases processing
  | claimDisabled t tx =>
      unfold OutboxRow.canceledByClaim at processing ⊢
      split at processing
      · rename_i terminal
        rw [if_pos terminal]
        exact before processing
      · cases processing
  | claimExhausted => cases processing
  | claimGranted => exact Nat.succ_pos _
  | undeliveredByClaim => cases processing
  | undeliveredByFailure => cases processing
  | reported => split at processing <;> cases processing
  | sent t tx =>
      rw [sent_write_status] at processing
      cases processing
  | reactivated => cases processing
  | retiredByMonitor t tx =>
      unfold OutboxRow.retiredByRuntime at processing ⊢
      split at processing
      · rename_i terminal
        rw [if_pos terminal]
        exact before processing
      · cases processing
  | retiredByChannel t tx =>
      unfold OutboxRow.retiredByRuntime at processing ⊢
      split at processing
      · rename_i terminal
        rw [if_pos terminal]
        exact before processing
      · cases processing
  | resolved t tx =>
      unfold PersistTx.rowWrite at processing ⊢
      by_cases canceled : key ∈ tx.outbox.cancels
      · simp only [if_pos canceled] at processing
        split at processing <;> cases processing
      · simp only [if_neg canceled] at processing ⊢
        split
        · rename_i redacted
          rw [if_pos redacted] at processing
          exact before processing
        · rename_i untouched
          rw [if_neg untouched] at processing
          exact before processing

section Window

variable {s after : System} {a : Action} {t : TxId} {tx : PersistTx} {key : OutboxKey}
  {down : OutboxRow}

theorem persist_continues (stepped : Stepped s a after)
    (inProgress : s.txs.get t = some (.persist tx)) (running : endsTx t a = false) :
    after.txs.get t = some (.persist tx) ∨
      ∃ next, after.txs.get t = some (.persist next) ∧ PersistAdvance s t tx a next := by
  cases stepped with
  | channel => exact .inl inProgress
  | ledger => exact .inl inProgress
  | failed => exact .inl inProgress
  | dispatcher => exact .inl inProgress
  | began _ u other jobs attempts begun unused =>
      left
      rw [Table.get_put, if_neg, inProgress]
      rintro rfl
      rw [inProgress] at unused
      cases unused
  | advanced _ u other next known advance =>
      rw [Table.get_put]
      split
      · rename_i own
        subst own
        rw [inProgress] at known
        cases known
        exact .inr ⟨next, rfl, advance⟩
      · exact .inl inProgress
  | committed u =>
      left
      rw [Table.get_remove, if_neg, inProgress]
      rintro rfl
      simp [endsTx] at running
  | aborted u =>
      left
      rw [Table.get_remove, if_neg, inProgress]
      rintro rfl
      simp [endsTx] at running

theorem apply_effect_answering {db : Database} (idle : tx.incident = .none)
    (empty : tx.outbox = .empty) (found : db.outbox.get key = some down)
    (event : down.eventType = .down) (live : channelLive db key.channelId = true)
    (bound : boundForRecovery db tx.monitorId key.channelId = true) (newIncidentId : IncidentId)
    {time : Time}
    (resolves : (applyIncidentEffect db tx newIncidentId).incident = .resolve key.incidentId time) :
    Answering key down (applyIncidentEffect db tx newIncidentId) := by
  obtain ⟨resolution, stage, todo⟩ : ∃ resolution,
      (applyIncidentEffect db tx newIncidentId).stage = .resolving resolution ∧
        resolution.todo = recoveryDownEvents db tx.monitorId key.incidentId ∧
        (applyIncidentEffect db tx newIncidentId).outbox = tx.outbox := by
    have silent : tx.incident ≠ .resolve key.incidentId time := by
      rw [idle]
      simp
    unfold applyIncidentEffect at resolves ⊢
    split at resolves
    · exact absurd resolves silent
    · split at resolves <;> cases resolves
    · split at resolves
      · cases resolves
      · exact absurd resolves silent
    · split at resolves
      · cases resolves
        exact ⟨_, rfl, rfl, rfl⟩
      · exact absurd resolves silent
    · exact absurd resolves silent
  have first := apply_effect_first newIncidentId stage
  refine .waiting resolution stage ?_ ?_ (fun _ _ => first) ?_ ?_
  · rw [todo.1]
    exact mem_recovery_down_events.2 ⟨found, rfl, event, live, bound⟩
  · rw [todo.1]
    exact Table.select_keys_nodup _ _
  · rw [todo.2, empty]
    exact List.not_mem_nil
  · intro row
    rw [todo.2, empty]
    exact List.not_mem_nil

theorem answering_step (reachable : Reachable s) (found : s.db.outbox.get key = some down)
    (event : down.eventType = .down) (allows : payloadAllowsRecovery down.payloadSafe = true)
    (inProgress : s.txs.get t = some (.persist tx)) (answering : Answering key down tx)
    (running : endsTx t a = false) (stepped : Stepped s a after) :
    ∃ next, after.txs.get t = some (.persist next) ∧ Answering key down next := by
  have invariant := outbox_invariant_reachable reachable
  rcases persist_continues stepped inProgress running with same | ⟨next, later, advance⟩
  · exact ⟨tx, same, answering⟩
  · refine ⟨next, later, ?_⟩
    cases advance with
    | effect newIncidentId begun =>
        exfalso
        cases answering with
        | waiting resolution stage => cases begun.symm.trans stage
        | planned resolution rest decision stage => cases begun.symm.trans stage
        | answered plan started => exact started begun
    | resolve _ resolved =>
        have view : OutboxView s.db.outbox tx := invariant.views t _ inProgress
        exact resolve_step_answering view invariant.fits found event allows answering resolved

theorem processing_attempted (reachable : Reachable s) (found : s.db.outbox.get key = some down)
    (processing : down.status = .processing) : 0 < down.attemptCount := by
  have all : ∀ key row, s.db.outbox.get key = some row → row.status = .processing →
      0 < row.attemptCount := by
    apply reachable.invariant_with OutboxInvariant (fun state => ∀ key row,
      state.db.outbox.get key = some row → row.status = .processing → 0 < row.attemptCount)
    · intro state holds
      exact outbox_invariant_reachable holds
    · intro key row found
      cases found
    · intro state a after invariant before taken key next stored claimed
      have stepped := step_cases taken
      cases old : state.db.outbox.get key with
      | some row =>
          obtain ⟨_, same, move, _⟩ := step_outbox_row invariant.sequenced stepped old
          rw [stored, Option.some_inj] at same
          subst same
          exact processing_move move (before key row old) claimed
      | none =>
          cases step_outbox_new stepped old stored with
          | created u ux committing finished member =>
              have view : OutboxView state.db.outbox ux := invariant.views u _ committing
              cases claimed.symm.trans (view.creates key next member).pending
          | late u ux other committing create =>
              have view : SentView state.db.outbox ux := invariant.views u _ committing
              obtain ⟨incident, resolvedAt, monitor, databaseTime, rfl⟩ := view.creates next create
              cases claimed
  exact all key down found processing

theorem undisturbed_answered {newIncidentId : IncidentId} {first read last : System}
    {visited : List (System × Action)}
    (window : UndisturbedResolution t tx newIncidentId key down first read last after visited) :
    Reachable last ∧ ∃ done, last.txs.get t = some (.persist done) ∧ Answering key down done := by
  obtain ⟨reachable, inProgress, reads, ⟨time, resolves⟩, found, event, live, bound, allows, run,
    running, undisturbed, -, -⟩ := window
  apply run.preserves
    (fun s a => endsTx t a = false ∧ s.db.outbox.get key = some down)
    (fun s => Reachable s ∧ ∃ done, s.txs.get t = some (.persist done) ∧ Answering key down done)
  · refine ⟨reachable.step_closed reads, ?_⟩
    change first.applyEffect t newIncidentId = some read at reads
    simp only [System.applyEffect, inProgress] at reads
    split at reads
    · rename_i begun
      cases reads
      obtain ⟨idle, empty⟩ := ((ledger_invariant_reachable reachable).views t _ inProgress).2.2 begun
      exact ⟨_, by simp [Table.get_put], apply_effect_answering idle empty found event live bound
        newIncidentId resolves⟩
    · cases reads
  · rintro s a next ⟨known, current, here, answering⟩ ⟨goesOn, stored⟩ taken
    exact ⟨known.step_closed taken, answering_step known stored event allows here answering goesOn
      (step_cases taken)⟩
  · intro s a member
    exact ⟨running s a member, undisturbed s a member⟩

/-- What the commit does is what the plan says. -/
structure PlanCarriedOut (db after : Database) (key : OutboxKey)
    (plan : RecoveryNotificationPlan) : Prop where
  canceled : plan = .replaceWithResolvedSummary →
    ∃ row, after.outbox.get key = some row ∧ row.status = .canceled
  inserted : ∀ other row, Inserted db after key other row →
    other = key.followUp ∧ plan ≠ .skip ∧ row.eventType = plan.eventType
  answered : plan ≠ .skip → ∃ row, Inserted db after key key.followUp row

theorem answered_commit {db written : Database} {plan : RecoveryNotificationPlan}
    (view : OutboxView db.outbox tx) (committed : persistCommit db tx = some written)
    (found : db.outbox.get key = some down) (sequence : key.sequence = notificationSequence .down)
    (cancels : key ∈ tx.outbox.cancels ↔ plan = .replaceWithResolvedSummary)
    (creates : ∀ row, (key.followUp, row) ∈ tx.outbox.creates →
      plan ≠ .skip ∧ row.eventType = plan.eventType)
    (follows : plan ≠ .skip → ∃ row, (key.followUp, row) ∈ tx.outbox.creates) :
    PlanCarriedOut db written key plan := by
  have source : ∀ other row, Inserted db written key other row →
      (other, row) ∈ tx.outbox.creates := by
    intro other row new
    obtain ⟨_, _, outbox, _, _, inserted, rfl⟩ := persist_commit_cases committed
    rcases Table.insert_all_source inserted new.stored with member | earlier
    · exact member
    · simp [new.absent] at earlier
  constructor
  · intro replaces
    refine ⟨_, persist_commit_row committed found, ?_⟩
    unfold PersistTx.rowWrite
    simp only [if_pos (cancels.2 replaces)]
    split <;> rfl
  · intro other row new
    have member := source other row new
    have same : other = key.followUp := by
      have fits := (view.creates other row member).fits.2
      have position : other.sequence = 1 ∨ other.sequence = 2 := by
        rw [fits]
        cases row.eventType <;> simp [notificationSequence]
      rcases position with first | second
      · have own : other = key := by
          cases other
          cases key
          simp only [OutboxKey.mk.injEq]
          exact ⟨new.incident, new.channel, first.trans sequence.symm⟩
        have absent := new.absent
        rw [own, found] at absent
        cases absent
      · cases other
        simp only [OutboxKey.followUp, OutboxKey.mk.injEq]
        exact ⟨new.incident, new.channel, second⟩
    rw [same] at member
    exact ⟨same, creates row member⟩
  · intro answers
    obtain ⟨row, member⟩ := follows answers
    refine ⟨row, persist_created_row committed member, ?_, rfl, rfl⟩
    obtain ⟨_, _, outbox, _, _, inserted, rfl⟩ := persist_commit_cases committed
    simpa using (Table.insert_all_stores inserted member).1

theorem PlanCarriedOut.one {db written : Database} {plan : RecoveryNotificationPlan}
    (done : PlanCarriedOut db written key plan) (answers : plan ≠ .skip) :
    InsertsOne db written key plan.eventType := by
  obtain ⟨row, new⟩ := done.answered answers
  exact ⟨_, row, new, (done.inserted _ row new).2.2,
    fun other otherRow also => (done.inserted other otherRow also).1⟩

theorem InsertsOne.eventType_eq {db written : Database} {first second : NotificationEventType}
    (one : InsertsOne db written key first) (other : InsertsOne db written key second) :
    first = second := by
  obtain ⟨created, row, new, event, _⟩ := one
  obtain ⟨_, otherRow, otherNew, otherEvent, only⟩ := other
  have same := new.stored
  rw [only created row new, otherNew.stored, Option.some_inj] at same
  rw [← event, ← otherEvent, same]

/-- A resolution answers the DOWN row of a channel as the rule says, except that a row which
waits in RETRY without an attempt is left for later and followed by a recovery. -/
theorem down_row_collapses {newIncidentId : IncidentId} {first read last : System}
    {visited : List (System × Action)}
    (window : UndisturbedResolution t tx newIncidentId key down first read last after visited) :
    CollapseRule last.db after.db key down ↔
      ¬ (down.status = .retry ∧ down.attemptCount = 0) := by
  obtain ⟨reachable, done, inProgress, answering⟩ := undisturbed_answered window
  have invariant := outbox_invariant_reachable reachable
  have sequence := sequence_of_down (invariant.fits key down window.kept) window.event
  obtain ⟨finished, written⟩ := persist_committed (step_cases window.commits) inProgress
  obtain ⟨plan, computed, out⟩ : ∃ plan,
      planRecoveryNotification down.status down.attemptCount = .ok plan ∧
        PlanCarriedOut last.db after.db key plan := by
    cases answering with
    | waiting resolution stage => cases finished.symm.trans stage
    | planned resolution rest decision stage => cases finished.symm.trans stage
    | answered plan _ _ computed cancels creates follows =>
        exact ⟨plan, computed, answered_commit (invariant.views t _ inProgress) written window.kept
          sequence cancels creates follows⟩
  constructor
  · rintro rule ⟨retried, unattempted⟩
    have recovers : plan = .createRecovery true := by
      unfold planRecoveryNotification at computed
      simp only [retried, unattempted] at computed
      cases computed
      rfl
    have summary := (rule.unattempted (by rw [retried]; rfl) unattempted).2
    rw [recovers] at out
    cases summary.eventType_eq (out.one (by simp))
  · intro unlike
    constructor
    · intro active unattempted
      have unsent : down.status.isUnsent = true := by
        cases status : down.status with
        | pending => rfl
        | enqueued => rfl
        | retry => exact absurd ⟨status, unattempted⟩ unlike
        | processing =>
            have attempted := processing_attempted reachable window.kept status
            omega
        | sent =>
            rw [status] at active
            cases active
        | failed =>
            rw [status] at active
            cases active
        | canceled =>
            rw [status] at active
            cases active
      have replaces : plan = .replaceWithResolvedSummary := by
        unfold planRecoveryNotification at computed
        simp only [unattempted, unsent] at computed
        cases computed
        rfl
      rw [replaces] at out
      exact ⟨out.canceled rfl, out.one (by simp)⟩
    · intro answerable
      cases plan with
      | createRecovery waits => exact out.one (by simp)
      | replaceWithResolvedSummary =>
          have unsent := plan_replaces computed
          rcases answerable with ⟨_, attempted⟩ | sent
          · omega
          · rw [sent] at unsent
            cases unsent.2
      | skip =>
          rcases plan_skips computed with status | status <;>
            simp [status, NotificationOutboxStatus.isTerminal] at answerable
    · intro undelivered other row new
      have recovers := plan_recovers computed (out.inserted other row new).2.1
      rcases undelivered with failed | canceled
      · exact recovers.1 failed
      · exact recovers.2 canceled

end Window

namespace System

def persistTx (s : System) (t : TxId) : Option PersistTx :=
  (s.txs.get t).bind fun
    | .persist tx => some tx
    | _ => none

theorem persist_tx_eq_some {s : System} {t : TxId} {tx : PersistTx} :
    s.persistTx t = some tx ↔ s.txs.get t = some (.persist tx) := by
  rw [persistTx, Option.bind_eq_some_iff]
  constructor
  · rintro ⟨other, inProgress, same⟩
    cases other <;> cases same
    exact inProgress
  · intro inProgress
    exact ⟨.persist tx, inProgress, rfl⟩

end System

def IncidentWrite.resolves (id : IncidentId) : IncidentWrite → Bool
  | .resolve other _ => other = id
  | _ => false

def answersDown (script : List Action) (test : OutboxRow → Database → Bool) (first : System) :
    Bool :=
  let key := Script.downKey 1
  (first.persistTx 0).any fun tx => (first.db.outbox.get key).any fun down =>
    (applyIncidentEffect first.db tx 2).incident.resolves 1 && down.eventType = .down &&
      channelLive first.db 1 && boundForRecovery first.db tx.monitorId 1 &&
      payloadAllowsRecovery down.payloadSafe &&
      (step first (.applyEffect 0 2)).any fun read =>
        replaySatisfies step read script fun visited last =>
          (visited.all fun pair => !endsTx 0 pair.2 &&
            decide (pair.1.db.outbox.get key = some down)) &&
          decide (last.db.outbox.get key = some down) &&
          (step last (.commit 0)).any fun after => test down after.db

theorem undisturbed_of_script (before script : List Action) (test : OutboxRow → Database → Bool)
    (passed : replaySatisfies step System.initial before fun _ first =>
      answersDown script test first) :
    ∃ t tx newIncidentId key down first read last after visited,
      UndisturbedResolution t tx newIncidentId key down first read last after visited ∧
        test down after.db = true ∧ key = Script.downKey 1 := by
  obtain ⟨first, reachable, tested⟩ := reachable_of_script before _ passed
  simp only [answersDown, Option.any_eq_true, Bool.and_eq_true, decide_eq_true_eq] at tested
  obtain ⟨tx, inProgress, down, found, ⟨⟨⟨⟨resolves, event⟩, live⟩, bound⟩, allows⟩, read, reads,
    replayed⟩ := tested
  obtain ⟨visited, last, run, tested⟩ := run_of_replay_satisfies replayed
  simp only [Bool.and_eq_true, decide_eq_true_eq, Option.any_eq_true, List.all_eq_true,
    Bool.not_eq_true'] at tested
  obtain ⟨⟨calm, kept⟩, after, commits, tested⟩ := tested
  rw [System.persist_tx_eq_some] at inProgress
  have target : ∃ time, (applyIncidentEffect first.db tx 2).incident = .resolve 1 time := by
    cases write : (applyIncidentEffect first.db tx 2).incident with
    | resolve id time =>
        rw [write] at resolves
        exact ⟨time, by rw [of_decide_eq_true resolves]⟩
    | none =>
        rw [write] at resolves
        cases resolves
    | create =>
        rw [write] at resolves
        cases resolves
    | touch =>
        rw [write] at resolves
        cases resolves
  exact ⟨0, tx, 2, Script.downKey 1, down, first, read, last, after, visited,
    ⟨reachable, inProgress, reads, target, found, event, live, bound, allows, run,
      fun state a member => (calm (state, a) member).1,
      fun state a member => (calm (state, a) member).2, kept, commits⟩, tested, rfl⟩

/-- Up to the read of the DOWN rows by the transaction that resolves incident 1. -/
def resolvedAfter (dispatch : List Action) : List Action :=
  Script.setUp ++ Script.failingCheck 1 1 1000 ++ dispatch ++ Script.startCheck 2 1 61000 ++
    [.beginPersist 0 2 Script.processorConfig (Script.checkResult .success 61000) 61000]

/-- The queue does not accept the job of the DOWN row, so that the dispatcher puts it back. -/
def rejectedDispatch : List Action :=
  [.scan 1 7 1000 2000 (Script.downKey 1), .dispatchCandidate 1, .finishDispatch 1 false]

theorem retried_down_not_collapsed :
    ¬ ∀ (t : TxId) (tx : PersistTx) (newIncidentId : IncidentId) (key : OutboxKey)
      (down : OutboxRow) (first read last after : System) (visited : List (System × Action)),
      UndisturbedResolution t tx newIncidentId key down first read last after visited →
        CollapseRule last.db after.db key down := by
  intro always
  obtain ⟨t, tx, newIncidentId, key, down, first, read, last, after, visited, window, tested, rfl⟩ :=
    undisturbed_of_script (resolvedAfter rejectedDispatch) [.resolve 0, .resolve 0, .resolve 0]
      (fun down after => !down.status.isTerminal && decide (down.attemptCount = 0) &&
        (after.outbox.get (Script.downKey 1)).all fun row => row.status ≠ .canceled)
      (by decide +kernel)
  simp only [Bool.and_eq_true, Bool.not_eq_true', decide_eq_true_eq, Option.all_eq_true] at tested
  obtain ⟨⟨active, unattempted⟩, stays⟩ := tested
  have rule := always t tx newIncidentId _ down first read last after visited window
  obtain ⟨⟨row, stored, canceled⟩, -⟩ := rule.unattempted active unattempted
  exact stays row stored canceled

/-- A DOWN row that no dispatcher has touched is replaced. -/
theorem down_row_collapses_sample :
    ∃ db after key down, CollapseRule db after key down ∧ down.status = .pending ∧
      (after.outbox.get key).any (fun row => row.status = .canceled) = true := by
  obtain ⟨t, tx, newIncidentId, key, down, first, read, last, after, visited, window, tested, rfl⟩ :=
    undisturbed_of_script (resolvedAfter []) [.resolve 0, .resolve 0, .resolve 0]
      (fun down after => decide (down.status = .pending) &&
        (after.outbox.get (Script.downKey 1)).any fun row => row.status = .canceled)
      (by decide +kernel)
  simp only [Bool.and_eq_true, decide_eq_true_eq] at tested
  refine ⟨last.db, after.db, _, down, (down_row_collapses window).2 ?_, tested.1, tested.2⟩
  rintro ⟨retried, -⟩
  cases tested.1.symm.trans retried

end LinkAlive
