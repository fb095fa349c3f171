import LinkAlive.Outbox.Ordering

/-!
# The resolved summary

A resolution replaces a DOWN that nobody has attempted by a summary. The replacement is
exclusive when the summary is planned together with the conditional cancel. A plan that
the second read makes is not: no cancel goes with it.
-/

namespace LinkAlive

open Relational Transition

set_option autoImplicit false

/-- The second read finds the DOWN row replaceable again. -/
def rereadsReplaceable (s : System) : Action → Bool
  | .resolve t =>
      match s.txs.get t with
      | some (.persist tx) =>
          match tx.stage with
          | .resolving ⟨_, _, (key, _) :: _, .reread⟩ =>
              (s.db.outbox.get key).any OutboxRow.replaceable
          | _ => false
      | _ => false
  | _ => false

structure SummaryView (tx : PersistTx) : Prop where
  creates : ∀ key row, (key, row) ∈ tx.outbox.creates → row.eventType = .resolvedSummary →
    key.down ∈ tx.outbox.cancels
  planned : ∀ resolution key down rest decision, tx.stage = .resolving resolution →
    resolution.todo = (key, down) :: rest → resolution.phase = .planned decision →
      decision.plan = .replaceWithResolvedSummary → key ∈ tx.outbox.cancels

structure SummaryInvariant (s : System) : Prop where
  replaced : ∀ key row, s.db.outbox.get key = some row → row.eventType = .resolvedSummary →
    ∃ down, s.db.outbox.get key.down = some down ∧ down.status = .canceled ∧
      down.attemptCount = 0
  txs : ∀ t tx, s.txs.get t = some (.persist tx) → SummaryView tx

theorem summary_view_empty {tx : PersistTx} (creates : ∀ key row, (key, row) ∈ tx.outbox.creates →
    row.eventType ≠ .resolvedSummary)
    (first : ∀ resolution, tx.stage = .resolving resolution → resolution.phase = .first) :
    SummaryView tx := by
  constructor
  · intro key row member summary
    exact absurd summary (creates key row member)
  · intro resolution key down rest decision stage _ phase
    rw [first resolution stage] at phase
    cases phase

theorem apply_effect_summary_view {db : Database} {tx : PersistTx} (empty : tx.outbox = .empty)
    (newIncidentId : IncidentId) : SummaryView (applyIncidentEffect db tx newIncidentId) := by
  have nothing : ∀ key row, (key, row) ∈ tx.outbox.creates →
      row.eventType ≠ .resolvedSummary := by
    intro key row member
    rw [empty] at member
    cases member
  unfold applyIncidentEffect
  split
  · exact summary_view_empty nothing (by simp)
  · split
    · exact summary_view_empty nothing (by simp)
    · apply summary_view_empty
      · intro key row member
        obtain ⟨channelId, channel, binding, _, _, _, _, rfl, rfl⟩ := create_outbox_row member
        simp [newOutboxRow, createNotificationDedupeKey]
      · intro resolution stage
        cases stage
  · split <;> exact summary_view_empty nothing (by simp)
  · split
    · apply summary_view_empty
      · exact nothing
      · intro resolution stage
        cases stage
        rfl
    · exact summary_view_empty nothing (by simp)
  · exact summary_view_empty nothing (by simp)

/-- Only the conditional cancel and the second read plan a summary. -/
theorem resolve_step_summary_view {db : Database} {tx next : PersistTx}
    {rowFree : OutboxKey → Bool} (outbox : OutboxView db.outbox tx)
    (fits : ∀ key row, db.outbox.get key = some row → row.Fits key) (view : SummaryView tx)
    (careful : ∀ resolution key down rest current, tx.stage = .resolving resolution →
      resolution.phase = .reread → resolution.todo = (key, down) :: rest →
      db.outbox.get key = some current → current.replaceable = false)
    (resolved : resolveStep db tx rowFree = some next) : SummaryView next := by
  obtain ⟨resolution, stage, move⟩ := resolve_step_cases resolved
  have phased : ∀ phase, (∀ decision, phase = .planned decision →
      decision.plan ≠ .replaceWithResolvedSummary) →
      SummaryView { tx with stage := resolution.at phase } := by
    intro phase harmless
    refine ⟨view.creates, ?_⟩
    intro other key down rest decision same _ planned replace
    cases same
    exact absurd replace (harmless decision planned)
  cases move with
  | finished =>
      refine ⟨view.creates, ?_⟩
      intro other key down rest decision same
      cases same
  | excluded key down rest todo phase excluded =>
      apply phased
      intro decision same
      cases same
      simp
  | planned key down rest plan todo phase allows computed different =>
      apply phased
      intro decision same
      cases same
      exact different
  | missed =>
      apply phased
      intro decision same
      cases same
  | reread key down current rest plan todo phase found computed =>
      apply phased
      intro decision same
      cases same
      intro replace
      have kept := careful resolution key down rest current stage phase todo found
      simp only at replace
      rw [replace] at computed
      have unattempted := plan_replaces computed
      simp [OutboxRow.replaceable, unattempted.1, unattempted.2] at kept
  | canceled key down row rest todo phase allows plan free found replaceable =>
      constructor
      · intro other new member summary
        exact List.mem_append_left _ (view.creates other new member summary)
      · intro other otherKey otherDown otherRest decision same otherTodo _ _
        cases same
        have head := todo.symm.trans otherTodo
        simp only [List.cons.injEq, Prod.mk.injEq] at head
        rw [← head.1.1]
        exact List.mem_append_right _ List.mem_cons_self
  | written key down rest decision todo phase free =>
      obtain ⟨incident, event, row, found, same, _⟩ :=
        (outbox.todo resolution stage).rows key down (by rw [todo]; exact List.mem_cons_self)
      constructor
      · intro other new member summary
        unfold finishDown at member ⊢
        simp only at member ⊢
        split at member
        · exact view.creates other new member summary
        · rw [List.mem_append, List.mem_singleton] at member
          rcases member with before | last
          · exact view.creates other new before summary
          · rw [Prod.mk.injEq] at last
            have replace : decision.plan = .replaceWithResolvedSummary := by
              rw [last.2] at summary
              cases plan : decision.plan with
              | replaceWithResolvedSummary => rfl
              | createRecovery wait => simp [plan, recoveryRow, newOutboxRow,
                  createNotificationDedupeKey, RecoveryNotificationPlan.eventType] at summary
              | skip => simp [plan, recoveryRow, newOutboxRow, createNotificationDedupeKey,
                  RecoveryNotificationPlan.eventType] at summary
            have target : other.down = key := by
              rw [last.1]
              have sequence := sequence_of_down (fits key row found) (same.eventType.trans event)
              cases key
              simp only at incident sequence
              subst incident sequence
              rfl
            rw [target]
            exact view.planned resolution key down rest decision stage todo phase replace
      · intro other otherKey otherDown otherRest otherDecision same _ otherPhase
        cases same
        cases otherPhase

theorem summary_replaced_step {s after : System} {a : Action} (invariant : OutboxInvariant s)
    (summary : SummaryInvariant s) (stepped : Stepped s a after) {key : OutboxKey}
    {row : OutboxRow} (found : after.db.outbox.get key = some row)
    (event : row.eventType = .resolvedSummary) :
    ∃ down, after.db.outbox.get key.down = some down ∧ down.status = .canceled ∧
      down.attemptCount = 0 := by
  cases before : s.db.outbox.get key with
  | some old =>
      obtain ⟨next, stored, move, _⟩ := step_outbox_row invariant.sequenced stepped before
      rw [found, Option.some_inj] at stored
      subst stored
      obtain ⟨down, downFound, canceled, unattempted⟩ :=
        summary.replaced key old before (move.same_event.eventType.symm.trans event)
      obtain ⟨later, laterFound, laterCanceled, attempts⟩ := canceled_down_kept invariant stepped
        downFound (down_key_event (invariant.fits _ down downFound)) canceled
      exact ⟨later, laterFound, laterCanceled, attempts.trans unattempted⟩
  | none =>
      cases step_outbox_new stepped before found with
      | created t tx inProgress finished member =>
          have view : OutboxView s.db.outbox tx := invariant.views t _ inProgress
          have canceled := (summary.txs t tx inProgress).creates key row member event
          obtain ⟨_, down, downFound, _, replaceable⟩ := view.cancels key.down canceled
          obtain ⟨_, written⟩ := persist_committed stepped inProgress
          refine ⟨_, persist_commit_row written downFound, ?_⟩
          simp only [OutboxRow.replaceable, Bool.and_eq_true, decide_eq_true_eq] at replaceable
          unfold PersistTx.rowWrite
          simp only [if_pos canceled]
          split <;> exact ⟨rfl, replaceable.1⟩
      | late t tx down inProgress create follow downFound notCanceled =>
          have view : SentView s.db.outbox tx := invariant.views t _ inProgress
          obtain ⟨incident, resolvedAt, monitor, databaseTime, rfl⟩ := view.creates row create
          cases event

theorem summary_invariant_step {s after : System} {a : Action} (ledger : LedgerInvariant s)
    (invariant : OutboxInvariant s) (summary : SummaryInvariant s)
    (careful : rereadsReplaceable s a = false) (taken : step s a = some after) :
    SummaryInvariant after := by
  have stepped := step_cases taken
  refine ⟨fun key row found event =>
    summary_replaced_step invariant summary stepped found event, ?_⟩
  intro u ux found
  cases step_tx_source stepped found with
  | stayed before => exact summary.txs u ux before
  | begun jobs attempts unused begun same =>
      cases begun with
      | persist job id check original config result databaseTime tx running started free =>
          obtain ⟨stage, _, empty⟩ := persist_begin_fresh started
          apply summary_view_empty
          · intro key row member
            rw [empty] at member
            cases member
          · simp [stage]
  | advanced tx next own inProgress advance same =>
      cases own
      have view : OutboxView s.db.outbox tx := invariant.views u _ inProgress
      cases advance with
      | effect newIncidentId begun =>
          exact apply_effect_summary_view ((ledger.views u _ inProgress).2.2 begun).2 newIncidentId
      | resolve _ resolved =>
          apply resolve_step_summary_view view invariant.fits (summary.txs u tx inProgress) _
            resolved
          intro resolution key down rest current stage phase todo currentFound
          obtain ⟨incidentId, incident, _, _⟩ := resolution
          simp only at phase todo
          subst phase todo
          simpa [rereadsReplaceable, inProgress, stage, currentFound] using careful

def SummaryReplacesDown (s : System) : Prop :=
  ∀ key row, s.db.outbox.get key = some row → row.eventType = .resolvedSummary →
    (∃ down, s.db.outbox.get key.down = some down ∧ down.status = .canceled ∧
      down.attemptCount = 0) ∧
    ∀ down, s.db.outbox.get key.down = some down → ¬ (row.status = .sent ∧ down.status = .sent)

theorem summary_replaces_down {s : System} {visited : List (System × Action)}
    (run : Run step System.initial visited s)
    (careful : Along (fun state a => rereadsReplaceable state a = false) visited) :
    SummaryReplacesDown s := by
  have both : Reachable s ∧ SummaryInvariant s := by
    apply run.preserves (fun state a => rereadsReplaceable state a = false)
      (fun state => Reachable state ∧ SummaryInvariant state)
    · refine ⟨⟨[], .start⟩, ?_, ?_⟩
      · intro key row found
        cases found
      · intro t tx found
        cases found
    · intro state a after holds harmless taken
      exact ⟨holds.1.step_closed taken, summary_invariant_step
        (ledger_invariant_reachable holds.1) (outbox_invariant_reachable holds.1) holds.2 harmless
        taken⟩
    · exact careful
  intro key row found event
  obtain ⟨down, downFound, canceled, unattempted⟩ := both.2.replaced key row found event
  refine ⟨⟨down, downFound, canceled, unattempted⟩, ?_⟩
  intro other otherFound sent
  rw [downFound, Option.some_inj] at otherFound
  rw [← otherFound, canceled] at sent
  cases sent.2

/-- The dispatcher takes the DOWN row to RETRY while the resolution cancels it and to
ENQUEUED before the second read. Both messages are sent. -/
def accompaniedScript : List Action :=
  let down := Script.downKey 1
  Script.setUp ++ Script.failingCheck 1 1 1000 ++ Script.startCheck 2 1 61000 ++
    Script.beginResult 5 2 .success 61000 ++
    [.scan 1 7 1000 61000 down, .dispatchCandidate 1, .resolve 5, .finishDispatch 1 true,
      .resolve 5, .resolve 5, .resolve 5, .commit 5] ++
    Script.claimRow down 62000 ++ Script.confirmAttempt down 1 62500 ++
    Script.claimRow down.followUp 63000 ++ Script.confirmAttempt down.followUp 1 63500

theorem summary_accompanies_down :
    ¬ ∀ s, Reachable s → s.quiescent → SummaryReplacesDown s := by
  intro always
  obtain ⟨s, reachable, tested⟩ := reachable_of_script accompaniedScript
    (fun s => (s.free fun _ => true) &&
      (s.db.outbox.get (Script.downKey 1).followUp).any (fun row =>
        row.eventType = .resolvedSummary && row.status = .sent) &&
      (s.db.outbox.get (Script.downKey 1).followUp.down).any fun down => down.status = .sent)
    (by decide +kernel)
  simp only [Bool.and_eq_true, Option.any_eq_true, decide_eq_true_eq] at tested
  obtain ⟨⟨idle, row, found, event, sent⟩, down, downFound, downSent⟩ := tested
  exact (always s reachable (quiescent_of_free idle) _ row found event).2 down downFound
    ⟨sent, downSent⟩

/-- A DOWN that is still pending is replaced by its summary. -/
theorem summary_replaces_down_sample :
    ∃ s, SummaryReplacesDown s ∧
      (s.db.outbox.get (Script.downKey 1).followUp).any (fun row =>
        row.eventType = .resolvedSummary) = true := by
  obtain ⟨visited, s, run, careful, tested⟩ := run_of_script
    (Script.setUp ++ Script.failingCheck 1 1 1000 ++ Script.recoveringCheck 2 1 61000)
    rereadsReplaceable
    (fun s => (s.db.outbox.get (Script.downKey 1).followUp).any fun row =>
      row.eventType = .resolvedSummary) (by decide +kernel)
  exact ⟨s, summary_replaces_down run careful, tested⟩

end LinkAlive
