import LinkAlive.Outbox.Recovery

/-!
# What a resolution retires

A resolution retires the DOWN rows that it has read, once they are terminal. A row that it
does not read, or that it has passed while an attempt was running, keeps its destination.
-/

namespace LinkAlive

open Relational Transition

set_option autoImplicit false

def retiresWhenSent (read : OutboxRow) : Bool :=
  read.status.isTerminal ||
    (payloadAllowsRecovery read.payloadSafe &&
      match planRecoveryNotification read.status read.attemptCount with
      | .ok .replaceWithResolvedSummary => true
      | _ => false)

def ResolvePhase.retires (phase : ResolvePhase) (read : OutboxRow) : Bool :=
  match phase with
  | .first => retiresWhenSent read
  | .reread => true
  | .planned decision => decision.currentDownStatus.isTerminal

def Resolution.retires (resolution : Resolution) (key : OutboxKey) : Bool :=
  match resolution.todo with
  | [] => false
  | (head, read) :: rest =>
      (head = key && resolution.phase.retires read) ||
        rest.any fun entry => entry.1 = key && retiresWhenSent entry.2

/-- The row has been retired or will be, if it is SENT in the end. -/
def PersistTx.retires (tx : PersistTx) (key : OutboxKey) : Bool :=
  key ∈ tx.outbox.redacts ||
    match tx.stage with
    | .resolving resolution => resolution.retires key
    | .begun | .done => false

def Transaction.passesOver (key : OutboxKey) : Transaction → Bool
  | .persist tx =>
      match tx.incident with
      | .resolve incidentId _ => incidentId = key.incidentId && !tx.retires key
      | _ => false
  | _ => false

def OutboxRow.isDelivered (row : OutboxRow) : Bool :=
  row.eventType = .down && row.status = .sent && !row.encryptedConfigSnapshot.isTombstone

/-- A resolution begins that does not read a delivered DOWN row of its incident: the
channel is not bound for recoveries or not live. -/
def leavesDelivered (s : System) : Action → Bool
  | .applyEffect t _ =>
      match s.txs.get t with
      | some (.persist tx) =>
          match tx.incidentEffect, openIncident s.db tx.monitorId with
          | .resolve .., some (incidentId, _) =>
              !s.db.outbox.every fun key row =>
                !(key.incidentId = incidentId && row.isDelivered) ||
                  (channelLive s.db key.channelId && boundForRecovery s.db tx.monitorId key.channelId)
          | _, _ => false
      | _ => false
  | _ => false

theorem retires_iff {tx : PersistTx} {key : OutboxKey} :
    tx.retires key = true ↔ key ∈ tx.outbox.redacts ∨
      ∃ resolution, tx.stage = .resolving resolution ∧ resolution.retires key = true := by
  unfold PersistTx.retires
  cases stage : tx.stage <;> simp

theorem resolution_retires_iff {resolution : Resolution} {key head : OutboxKey}
    {read : OutboxRow} {rest : List (OutboxKey × OutboxRow)}
    (todo : resolution.todo = (head, read) :: rest) :
    resolution.retires key = true ↔ head = key ∧ resolution.phase.retires read = true ∨
      ∃ later, (key, later) ∈ rest ∧ retiresWhenSent later = true := by
  simp only [Resolution.retires, todo, Bool.or_eq_true, Bool.and_eq_true, decide_eq_true_eq,
    List.any_eq_true]
  constructor
  · rintro (own | ⟨⟨other, later⟩, member, rfl, retires⟩)
    · exact Or.inl own
    · exact Or.inr ⟨later, member, retires⟩
  · rintro (own | ⟨later, member, retires⟩)
    · exact Or.inl own
    · exact Or.inr ⟨(key, later), member, rfl, retires⟩

/-- At the first statement about a row nothing but the read rows counts. -/
theorem resolution_retires_first {resolution : Resolution} {key : OutboxKey}
    (phase : resolution.phase = .first) :
    resolution.retires key = true ↔
      ∃ read, (key, read) ∈ resolution.todo ∧ retiresWhenSent read = true := by
  cases todo : resolution.todo with
  | nil => simp [Resolution.retires, todo]
  | cons entry rest =>
      obtain ⟨head, read⟩ := entry
      rw [resolution_retires_iff todo, phase]
      constructor
      · rintro (⟨rfl, retires⟩ | ⟨later, member, retires⟩)
        · exact ⟨read, List.mem_cons_self, retires⟩
        · exact ⟨later, List.mem_cons_of_mem _ member, retires⟩
      · rintro ⟨later, member, retires⟩
        rcases List.mem_cons.1 member with same | member
        · cases same
          exact Or.inl ⟨rfl, retires⟩
        · exact Or.inr ⟨later, member, retires⟩

theorem closed_not_retained {decision : RecoveryDecision} {read : OutboxRow}
    {incidentStatus : IncidentStatus} (event : read.eventType = .down)
    (terminal : decision.currentDownStatus.isTerminal = true)
    (closed : incidentStatus ≠ .opened) : decision.retains read incidentStatus = false := by
  simp [RecoveryDecision.retains, shouldRetainNotificationSecret, terminal, event, closed]

theorem retires_excluded {read : OutboxRow}
    (excluded : payloadAllowsRecovery read.payloadSafe = false)
    (retires : retiresWhenSent read = true) : read.status.isTerminal = true := by
  simpa [retiresWhenSent, excluded] using retires

theorem retires_planned {read : OutboxRow} {plan : RecoveryNotificationPlan}
    (computed : planRecoveryNotification read.status read.attemptCount = .ok plan)
    (different : plan ≠ .replaceWithResolvedSummary) (retires : retiresWhenSent read = true) :
    read.status.isTerminal = true := by
  unfold retiresWhenSent at retires
  rw [computed] at retires
  cases plan with
  | replaceWithResolvedSummary => exact absurd rfl different
  | skip => simpa using retires
  | createRecovery => simpa using retires

/-- A row that the loop has canceled is retired by the statement that follows. -/
def Retiring (tx : PersistTx) (key : OutboxKey) : Prop :=
  key ∈ tx.outbox.redacts ∨ ∃ resolution read rest decision, tx.stage = .resolving resolution ∧
    resolution.todo = (key, read) :: rest ∧ resolution.phase = .planned decision ∧
      decision.currentDownStatus.isTerminal = true

structure ResolutionRedacts (outbox : Outbox) (tx : PersistTx) : Prop where
  closed : ∀ resolution, tx.stage = .resolving resolution →
    resolution.incident.status ≠ .opened
  cancels : ∀ key, key ∈ tx.outbox.cancels → Retiring tx key
  sent : ∀ key row time, tx.incident = .resolve key.incidentId time →
    outbox.get key = some row → row.isDelivered = true → tx.retires key = true

theorem delivered_iff {row : OutboxRow} :
    row.isDelivered = true ↔ row.eventType = .down ∧ row.status = .sent ∧ row.hasSecret := by
  simp [OutboxRow.isDelivered, OutboxRow.hasSecret, and_assoc]

section Resolutions

variable {db : Database} {tx next : PersistTx}

theorem finish_down_redacts {resolution : Resolution} {head : OutboxKey} {read : OutboxRow}
    {decision : RecoveryDecision} {key : OutboxKey} (event : read.eventType = .down)
    (closed : resolution.incident.status ≠ .opened)
    (before : key ∈ tx.outbox.redacts ∨
      head = key ∧ decision.currentDownStatus.isTerminal = true) :
    key ∈ (finishDown tx resolution head read decision).redacts := by
  unfold finishDown
  simp only
  rcases before with redacted | ⟨rfl, terminal⟩
  · split
    · exact redacted
    · exact List.mem_append_left _ redacted
  · rw [closed_not_retained event terminal closed, if_neg (by simp)]
    exact List.mem_append_right _ List.mem_cons_self

theorem resolve_step_retires {rowFree : OutboxKey → Bool} (view : OutboxView db.outbox tx)
    (redacts : ResolutionRedacts db.outbox tx) {key : OutboxKey} {row : OutboxRow}
    (found : db.outbox.get key = some row) (sent : row.status = .sent)
    (retires : tx.retires key = true) (resolved : resolveStep db tx rowFree = some next) :
    next.retires key = true := by
  obtain ⟨resolution, stage, move⟩ := resolve_step_cases resolved
  rcases retires_iff.1 retires with redacted | ⟨other, otherStage, planned⟩
  · apply retires_iff.2
    left
    cases move with
    | written head read rest decision todo phase free =>
        obtain ⟨_, event, _⟩ :=
          (view.todo resolution stage).rows head read (by rw [todo]; exact List.mem_cons_self)
        exact finish_down_redacts event (redacts.closed resolution stage) (Or.inl redacted)
    | _ => exact redacted
  · rw [stage] at otherStage
    cases otherStage
    -- the plan of the head decides, or the row comes later in the loop
    have phased : ∀ (phase : ResolvePhase) (outbox : OutboxWrites) head read rest,
        resolution.todo = (head, read) :: rest →
        (head = key → resolution.phase.retires read = true → phase.retires read = true) →
        PersistTx.retires { tx with stage := resolution.at phase, outbox := outbox } key = true := by
      intro phase outbox head read rest todo moves
      rw [resolution_retires_iff todo] at planned
      apply retires_iff.2
      right
      have sameTodo : ({ resolution with phase := phase } : Resolution).todo =
        (head, read) :: rest := todo
      refine ⟨_, rfl, (resolution_retires_iff sameTodo).2 ?_⟩
      rcases planned with ⟨own, before⟩ | later
      · exact Or.inl ⟨own, moves own before⟩
      · exact Or.inr later
    cases move with
    | finished empty => simp [Resolution.retires, empty] at planned
    | excluded head read rest todo phase excluded =>
        apply phased _ _ head read rest todo
        intro _ before
        rw [phase] at before
        exact retires_excluded excluded before
    | planned head read rest plan todo phase allows computed different =>
        apply phased _ _ head read rest todo
        intro _ before
        rw [phase] at before
        exact retires_planned computed different before
    | canceled head read current rest todo phase =>
        apply phased _ _ head read rest todo
        intro _ _
        rfl
    | missed head read rest todo phase =>
        apply phased _ _ head read rest todo
        intro _ _
        rfl
    | reread head read current rest plan todo phase currentFound =>
        apply phased _ _ head read rest todo
        intro own _
        rw [own, found, Option.some_inj] at currentFound
        subst currentFound
        simp [ResolvePhase.retires, sent, NotificationOutboxStatus.isTerminal]
    | written head read rest decision todo phase free =>
        obtain ⟨_, event, _⟩ :=
          (view.todo resolution stage).rows head read (by rw [todo]; exact List.mem_cons_self)
        rw [resolution_retires_iff todo, phase] at planned
        apply retires_iff.2
        rcases planned with ⟨own, terminal⟩ | later
        · left
          exact finish_down_redacts event (redacts.closed resolution stage)
            (Or.inr ⟨own, terminal⟩)
        · right
          exact ⟨_, rfl, (resolution_retires_first rfl).2 later⟩

theorem resolve_step_cancels {rowFree : OutboxKey → Bool} (view : OutboxView db.outbox tx)
    (redacts : ResolutionRedacts db.outbox tx)
    (resolved : resolveStep db tx rowFree = some next) {key : OutboxKey}
    (canceled : key ∈ next.outbox.cancels) : Retiring next key := by
  obtain ⟨resolution, stage, move⟩ := resolve_step_cases resolved
  -- only the statement after the plan finds a row that is still to be retired
  have redacted : (∀ decision, resolution.phase ≠ .planned decision) →
      key ∈ tx.outbox.cancels → key ∈ tx.outbox.redacts := by
    intro different before
    rcases redacts.cancels key before with done | ⟨other, _, _, decision, stored, _, planned, _⟩
    · exact done
    · rw [stage] at stored
      cases stored
      exact absurd planned (different decision)
  cases move with
  | finished empty =>
      rcases redacts.cancels key canceled with done | ⟨other, _, _, _, stored, todo, _⟩
      · exact Or.inl done
      · rw [stage] at stored
        cases stored
        rw [empty] at todo
        cases todo
  | excluded head read rest todo phase => exact Or.inl (redacted (by simp [phase]) canceled)
  | planned head read rest plan todo phase => exact Or.inl (redacted (by simp [phase]) canceled)
  | missed head read rest todo phase => exact Or.inl (redacted (by simp [phase]) canceled)
  | reread head read current rest plan todo phase =>
      exact Or.inl (redacted (by simp [phase]) canceled)
  | canceled head read current rest todo phase =>
      rcases List.mem_append.1 canceled with before | new
      · exact Or.inl (redacted (by simp [phase]) before)
      · rw [List.mem_singleton] at new
        subst new
        exact Or.inr ⟨_, read, rest, _, rfl, todo, rfl, rfl⟩
  | written head read rest decision todo phase free =>
      obtain ⟨_, event, _⟩ :=
        (view.todo resolution stage).rows head read (by rw [todo]; exact List.mem_cons_self)
      left
      apply finish_down_redacts event (redacts.closed resolution stage)
      rcases redacts.cancels key canceled with done |
        ⟨other, _, _, otherDecision, stored, otherTodo, planned, terminal⟩
      · exact Or.inl done
      · rw [stage] at stored
        cases stored
        rw [todo] at otherTodo
        cases otherTodo
        rw [phase] at planned
        cases planned
        exact Or.inr ⟨rfl, terminal⟩

theorem resolve_step_redacts {rowFree : OutboxKey → Bool} (view : OutboxView db.outbox tx)
    (redacts : ResolutionRedacts db.outbox tx)
    (resolved : resolveStep db tx rowFree = some next) : ResolutionRedacts db.outbox next := by
  constructor
  · intro other stored
    obtain ⟨resolution, stage, move⟩ := resolve_step_cases resolved
    have closed := redacts.closed resolution stage
    cases move with
    | finished => cases stored
    | _ =>
        cases stored
        exact closed
  · intro key canceled
    exact resolve_step_cancels view redacts resolved canceled
  · intro key row time resolves found delivered
    obtain ⟨_, _, _, _, _, _, same⟩ := resolve_step_kept resolved
    rw [same] at resolves
    exact resolve_step_retires view redacts found (delivered_iff.1 delivered).2.1
      (redacts.sent key row time resolves found delivered) resolved

theorem resolution_redacts_idle (outbox : Outbox)
    (idle : ∀ resolution, tx.stage ≠ .resolving resolution)
    (nothing : tx.outbox.cancels = []) (unresolved : ∀ id time, tx.incident ≠ .resolve id time) :
    ResolutionRedacts outbox tx := by
  constructor
  · intro resolution stage
    exact absurd stage (idle resolution)
  · intro key canceled
    rw [nothing] at canceled
    cases canceled
  · intro key row time resolves
    exact absurd resolves (unresolved _ _)

end Resolutions

theorem apply_effect_redacts {s : System} {t : TxId} {tx : PersistTx} (newIncidentId : IncidentId)
    (inProgress : s.txs.get t = some (.persist tx)) (idle : tx.incident = .none)
    (empty : tx.outbox = .empty)
    (careful : leavesDelivered s (.applyEffect t newIncidentId) = false) :
    ResolutionRedacts s.db.outbox (applyIncidentEffect s.db tx newIncidentId) := by
  have nothing : tx.outbox.cancels = [] := by
    rw [empty]
    rfl
  unfold applyIncidentEffect
  cases effect : tx.incidentEffect with
  | none => exact resolution_redacts_idle _ (by simp) nothing (by simp [idle])
  | cancel => exact resolution_redacts_idle _ (by simp) nothing (by simp [idle])
  | opened =>
      simp only
      split
      · exact resolution_redacts_idle _ (by simp) nothing (by simp)
      · exact resolution_redacts_idle _ (by simp) nothing (by simp)
  | update =>
      simp only
      split
      · exact resolution_redacts_idle _ (by simp) nothing (by simp)
      · exact resolution_redacts_idle _ (by simp) nothing (by simp [idle])
  | resolve resolvedAt reason =>
      simp only
      split
      · rename_i id incident opened
        simp only [leavesDelivered, inProgress, effect, opened, Bool.not_eq_false',
          Table.every_iff] at careful
        constructor
        · intro resolution stage
          cases stage
          simp [IncidentRow.resolved]
        · intro key canceled
          simp [nothing] at canceled
        · intro key row time resolves found delivered
          cases resolves
          obtain ⟨event, sent, _⟩ := delivered_iff.1 delivered
          have read := careful key row found
          simp only [delivered, decide_true, Bool.and_true, Bool.not_true, Bool.false_or,
            Bool.and_eq_true] at read
          apply retires_iff.2
          refine Or.inr ⟨_, rfl, (resolution_retires_first rfl).2 ⟨row, ?_, ?_⟩⟩
          · exact mem_recovery_down_events.2 ⟨found, rfl, event, read.1, read.2⟩
          · simp [retiresWhenSent, sent, NotificationOutboxStatus.isTerminal]
      · exact resolution_redacts_idle _ (by simp) nothing (by simp [idle])

end LinkAlive
