import LinkAlive.Delivery.Payload
import LinkAlive.Foundation.Obligations
import LinkAlive.Outbox.Attempts

/-!
# The calls of the provider

The system of transactions together with what its workers say to the provider: between a
granted claim and the report about it a worker calls the provider once, and the report says
what the provider answered. What the tables then say about a notification is compared with
the calls that were made.
-/

namespace LinkAlive.Delivery

open Relational Obligations

set_option autoImplicit false

structure Call where
  claimed : ClaimedNotification
  answer : Except ProviderError SendResult
  events : List TelegramEvent

namespace Call

def attempt (call : Call) : OutboxKey × Nat := (call.claimed.key, call.claimed.deliveryAttempt)

def accepted (call : Call) : Bool := call.answer.isOk

end Call

structure Deployment where
  system : System
  calls : List Call

def Deployment.initial : Deployment := ⟨System.initial, []⟩

def Deployment.callOf (d : Deployment) (attempt : OutboxKey × Nat) : Option Call :=
  d.calls.find? fun call => call.attempt = attempt

/-- The reports are not free any more: a worker reports what it was answered. -/
inductive WorkerAction
  | other (a : Action)
  | provide (attempt : OutboxKey × Nat) (outcome : FetchOutcome)
  | confirm (t : TxId) (attempt : OutboxKey × Nat) (now databaseTime : Time)
  | reject (attempt : OutboxKey × Nat) (now : Time) (random : ℚ)

def isReport : Action → Bool
  | .beginMarkSent .. | .markFailed .. => true
  | _ => false

section Steps

variable (provider : Provider)

def Deployment.provideStep (d : Deployment) (attempt : OutboxKey × Nat) (outcome : FetchOutcome) :
    Option Deployment := do
  let claimed ← d.system.attempts.get attempt
  if (d.callOf attempt).isSome then none
  else
    let (answer, events) := provide provider claimed.row outcome
    some { d with calls := d.calls ++ [⟨claimed, answer, events⟩] }

/-- The system's part of a step of a worker. -/
def Deployment.report (d : Deployment) : WorkerAction → Option Action
  | .other a => if isReport a then none else some a
  | .provide .. => none
  | .confirm t attempt now databaseTime => do
      let call ← d.callOf attempt
      match call.answer with
      | .ok result =>
          some (.beginMarkSent t attempt (normalizeProviderMessageId result.providerMessageId) now
            databaseTime)
      | .error _ => none
  | .reject attempt now random => do
      let call ← d.callOf attempt
      match call.answer with
      | .ok _ => none
      | .error error =>
          if 0 ≤ random ∧ random < 1 then
            some (.markFailed attempt error.toNotificationProviderError now
              (retryDelayMs attempt.2 random))
          else none

def workerStep (d : Deployment) (action : WorkerAction) : Option Deployment :=
  match action with
  | .provide attempt outcome => d.provideStep provider attempt outcome
  | action => do
      let a ← d.report action
      let system ← step d.system a
      some { d with system := system }

end Steps

abbrev Deployed (provider : Provider) (d : Deployment) : Prop :=
  Transition.Reachable (workerStep provider) Deployment.initial d

def Accepted (calls : List Call) (attempt : OutboxKey × Nat) : Prop :=
  ∃ call ∈ calls, call.attempt = attempt ∧ call.accepted = true

def Refused (calls : List Call) (attempt : OutboxKey × Nat) (error : NotificationProviderError) :
    Prop :=
  ∃ call ∈ calls, call.attempt = attempt ∧
    ∃ thrown : ProviderError, call.answer = .error thrown ∧
      thrown.toNotificationProviderError = error

/-- A report says what the provider answered. -/
def Justified (calls : List Call) : Action → Prop
  | .beginMarkSent _ attempt _ _ _ => Accepted calls attempt
  | .markFailed attempt error _ _ => Refused calls attempt error
  | _ => True

inductive WorkerStepped (provider : Provider) (d : Deployment) : Deployment → Prop
  | system (a : Action) (system : System) : Justified d.calls a → step d.system a = some system →
      WorkerStepped provider d { d with system := system }
  | provided (attempt : OutboxKey × Nat) (claimed : ClaimedNotification) (outcome : FetchOutcome) :
      d.system.attempts.get attempt = some claimed → d.callOf attempt = none →
        WorkerStepped provider d { d with calls := d.calls ++
          [⟨claimed, (provide provider claimed.row outcome).1,
            (provide provider claimed.row outcome).2⟩] }

section Cases

variable {provider : Provider} {d after : Deployment}

theorem call_of_some {attempt : OutboxKey × Nat} {call : Call}
    (found : d.callOf attempt = some call) : call ∈ d.calls ∧ call.attempt = attempt := by
  have same := List.find?_some found
  exact ⟨List.mem_of_find?_eq_some found, of_decide_eq_true same⟩

theorem report_justified {action : WorkerAction} {a : Action} (reported : d.report action = some a) :
    Justified d.calls a := by
  cases action with
  | other a =>
      rw [Deployment.report] at reported
      split at reported
      · cases reported
      · rename_i quiet
        cases reported
        cases a <;> trivial
  | provide => cases reported
  | confirm t attempt now databaseTime =>
      rw [Deployment.report, Option.bind_eq_bind, Option.bind_eq_some_iff] at reported
      obtain ⟨call, found, reported⟩ := reported
      obtain ⟨member, same⟩ := call_of_some found
      cases answer : call.answer with
      | error error =>
          rw [answer] at reported
          cases reported
      | ok result =>
          rw [answer] at reported
          cases reported
          exact ⟨call, member, same, by rw [Call.accepted, answer]; rfl⟩
  | reject attempt now random =>
      rw [Deployment.report, Option.bind_eq_bind, Option.bind_eq_some_iff] at reported
      obtain ⟨call, found, reported⟩ := reported
      obtain ⟨member, same⟩ := call_of_some found
      cases answer : call.answer with
      | ok result =>
          rw [answer] at reported
          cases reported
      | error error =>
          rw [answer] at reported
          dsimp only at reported
          split at reported
          · cases reported
            exact ⟨call, member, same, error, answer, rfl⟩
          · cases reported

theorem worker_step_cases {action : WorkerAction}
    (taken : workerStep provider d action = some after) : WorkerStepped provider d after := by
  have ordinary : ((d.report action).bind fun a => (step d.system a).bind fun system =>
      some { d with system := system }) = some after → WorkerStepped provider d after := by
    intro taken
    rw [Option.bind_eq_some_iff] at taken
    obtain ⟨a, reported, taken⟩ := taken
    rw [Option.bind_eq_some_iff] at taken
    obtain ⟨system, stepped, taken⟩ := taken
    cases taken
    exact .system a system (report_justified reported) stepped
  cases action with
  | other a => exact ordinary taken
  | confirm t attempt now databaseTime => exact ordinary taken
  | reject attempt now random => exact ordinary taken
  | provide attempt outcome =>
      rw [workerStep, Deployment.provideStep, Option.bind_eq_bind, Option.bind_eq_some_iff] at taken
      obtain ⟨claimed, remembered, taken⟩ := taken
      split at taken
      · cases taken
      · rename_i uncalled
        cases taken
        rw [Bool.not_eq_true, Option.isSome_eq_false_iff, Option.isNone_iff_eq_none] at uncalled
        exact .provided attempt claimed outcome remembered uncalled

/-- The tables of a deployment are those of a run of the system. -/
theorem deployed_reachable (deployed : Deployed provider d) : Reachable d.system := by
  apply deployed.invariant (fun d => Reachable d.system)
  · exact ⟨[], .start⟩
  · intro d action after reachable taken
    cases worker_step_cases taken with
    | system a system justified stepped => exact reachable.step_closed stepped
    | provided => exact reachable

end Cases

inductive StatusSource (s : System) (attempt : OutboxKey × Nat) (next : DeliveryRow) :
    Action → Prop
  | kept (a : Action) (delivery : DeliveryRow) : s.db.deliveries.get attempt = some delivery →
      delivery.status = next.status → StatusSource s attempt next a
  | open_ (a : Action) : next.status = .attempting ∨ next.status = .unknown →
      StatusSource s attempt next a
  | confirmed (t : TxId) (tx : MarkSentTx) : s.txs.get t = some (.markSent tx) →
      attempt = (tx.claimed.key, tx.claimed.deliveryAttempt) → next.status = .succeeded →
        StatusSource s attempt next (.commit t)
  | refused (other : OutboxKey × Nat) (claimed : ClaimedNotification)
      (error : NotificationProviderError) (now : Time) (retryDelayMs : Nat) :
      s.attempts.get other = some claimed → attempt = (claimed.key, claimed.deliveryAttempt) →
      error.deliveryUncertain = false → next.status = .failed →
        StatusSource s attempt next (.markFailed other error now retryDelayMs)

section Sources

variable {s after : System} {a : Action}

theorem update_source {deliveries : Deliveries} {guard : OutboxKey × Nat → DeliveryRow → Bool}
    {change : OutboxKey × Nat → DeliveryRow → DeliveryRow} {attempt : OutboxKey × Nat}
    {next : DeliveryRow} (stored : (deliveries.updateWhere guard change).get attempt = some next) :
    ∃ delivery, deliveries.get attempt = some delivery ∧
      (next = delivery ∨ guard attempt delivery = true ∧ next = change attempt delivery) := by
  rw [Table.get_update_where, Option.map_eq_some_iff] at stored
  obtain ⟨delivery, found, rfl⟩ := stored
  refine ⟨delivery, found, ?_⟩
  by_cases selected : guard attempt delivery = true
  · rw [if_pos selected]
    exact Or.inr ⟨selected, rfl⟩
  · rw [if_neg selected]
    exact Or.inl rfl

theorem abandoned_source {guard : OutboxKey × Nat → DeliveryRow → Bool}
    {change : OutboxKey × Nat → DeliveryRow → DeliveryRow}
    (unknown : ∀ attempt delivery, (change attempt delivery).status = .unknown)
    {attempt : OutboxKey × Nat} {next : DeliveryRow}
    (stored : (s.db.deliveries.updateWhere guard change).get attempt = some next) :
    StatusSource s attempt next a := by
  obtain ⟨delivery, found, rfl | ⟨_, rfl⟩⟩ := update_source stored
  · exact .kept a _ found rfl
  · exact .open_ a (Or.inr (unknown attempt delivery))

theorem claim_status_source {tx : ClaimTx} {db : Database} {granted : Option ClaimedNotification}
    (written : claimCommit s.db tx = some (db, granted)) {attempt : OutboxKey × Nat}
    {next : DeliveryRow} (stored : db.deliveries.get attempt = some next) :
    StatusSource s attempt next a := by
  have abandoned : (abandonAttempts s.db.deliveries tx.key tx.now).get attempt = some next →
      StatusSource s attempt next a := abandoned_source fun _ _ => rfl
  simp only [claimCommit, Option.bind_eq_bind, Option.bind_eq_some_iff] at written
  obtain ⟨row, _, written⟩ := written
  split at written
  · cases written
    exact .kept a next stored rfl
  · cases written
    exact .kept a next stored rfl
  · cases written
    exact abandoned stored
  · cases written
    exact abandoned stored
  · simp only [Option.bind_eq_some_iff] at written
    obtain ⟨deliveries, inserted, written⟩ := written
    cases written
    rw [Table.insert_new_eq_some] at inserted
    rw [inserted.2, Table.get_put] at stored
    split at stored
    · cases stored
      exact .open_ a (Or.inl rfl)
    · exact abandoned stored

theorem confirmed_status_source {t : TxId} {tx : MarkSentTx} {db : Database}
    (inProgress : s.txs.get t = some (.markSent tx)) (written : markSentCommit s.db tx = some db)
    {attempt : OutboxKey × Nat} {next : DeliveryRow}
    (stored : db.deliveries.get attempt = some next) :
    StatusSource s attempt next (.commit t) := by
  have succeeded : (s.db.deliveries.updateKey (tx.claimed.key, tx.claimed.deliveryAttempt)
      fun delivery => succeededDelivery delivery tx.providerMessageId tx.now).get attempt =
        some next → StatusSource s attempt next (.commit t) := by
    intro stored
    obtain ⟨delivery, found, rfl | ⟨target, rfl⟩⟩ := update_source stored
    · exact .kept _ _ found rfl
    · exact .confirmed t tx inProgress (of_decide_eq_true target) rfl
  simp only [markSentCommit, Option.bind_eq_bind, Option.bind_eq_some_iff] at written
  obtain ⟨row, _, written⟩ := written
  split at written
  · cases written
    exact succeeded stored
  · simp only [Option.bind_eq_some_iff] at written
    obtain ⟨outbox, _, written⟩ := written
    cases written
    exact succeeded stored

theorem step_delivery_status (stepped : Stepped s a after) {attempt : OutboxKey × Nat}
    {next : DeliveryRow} (stored : after.db.deliveries.get attempt = some next) :
    StatusSource s attempt next a := by
  cases stepped with
  | channel => exact .kept _ next stored rfl
  | ledger => exact .kept _ next stored rfl
  | began => exact .kept _ next stored rfl
  | advanced => exact .kept _ next stored rfl
  | dispatcher => exact .kept _ next stored rfl
  | aborted => exact .kept _ next stored rfl
  | failed other claimed error now retryDelayMs remembered =>
      change (s.db.deliveries.updateKey _ _).get attempt = _ at stored
      obtain ⟨delivery, found, rfl | ⟨target, rfl⟩⟩ := update_source stored
      · exact .kept _ _ found rfl
      · by_cases uncertain : error.deliveryUncertain = true
        · exact .open_ _ (Or.inr (if_pos uncertain))
        · exact .refused other claimed error now retryDelayMs remembered
            (of_decide_eq_true target) (Bool.not_eq_true _ ▸ uncertain) (if_neg uncertain)
  | committed t tx db attempts events inProgress commit =>
      cases commit with
      | persist tx db finished written =>
          obtain ⟨_, _, _, _, _, _, rfl⟩ := persist_commit_cases written
          exact .kept _ next stored rfl
      | claimIgnored tx db needs written => exact claim_status_source written stored
      | claimGranted tx db claimed written => exact claim_status_source written stored
      | markSent tx db free written => exact confirmed_status_source inProgress written stored
      | createDue tx db written =>
          rw [(create_due_checks_kept written).deliveries] at stored
          exact .kept _ next stored rfl
      | monitor tx db free written =>
          rw [monitor_commit_deliveries written] at stored
          unfold MonitorTx.runtimeWrite at stored
          split at stored
          · exact abandoned_source (fun _ _ => rfl) stored
          · exact .kept _ next stored rfl
      | channel tx =>
          unfold channelCommit ChannelTx.retireWrite at stored
          simp only at stored
          split at stored
          · exact .kept _ next stored rfl
          · exact abandoned_source (fun _ _ => rfl) stored

theorem delivery_kept (stepped : Stepped s a after) {attempt : OutboxKey × Nat}
    (placed : (s.db.deliveries.get attempt).isSome = true) :
    (after.db.deliveries.get attempt).isSome = true := by
  cases granted : s.grant a with
  | none =>
      rw [(quiet_step stepped granted).deliveries.isSome_eq]
      exact placed
  | some claimed =>
      obtain ⟨t, tx, row, rfl, inProgress, rfl, grant⟩ := grant_step stepped granted
      rw [grant.deliveries, Table.get_put]
      split
      · rfl
      · rw [(abandon_attempts_subsided _ _ _).isSome_eq]
        exact placed

theorem sent_move {key : OutboxKey} {row next : OutboxRow} (move : OutboxMove s key row a next)
    (sent : next.status = .sent) :
    row.status = .sent ∨ ∃ t tx, s.txs.get t = some (.markSent tx) ∧ key = tx.claimed.key := by
  have retired : ∀ now, next = row.retiredByRuntime now → row.status = .sent := by
    rintro now rfl
    unfold OutboxRow.retiredByRuntime at sent
    split at sent
    · exact sent
    · cases sent
  cases move with
  | kept => exact Or.inl sent
  | dispatched d state decision =>
      cases decision with
      | wait => exact Or.inl sent
      | disabled => cases sent
      | undelivered retain => cases retain <;> cases sent
      | dispatch => cases sent
  | finished d state accepted =>
      split at sent <;> cases sent
  | claimDisabled t tx =>
      unfold OutboxRow.canceledByClaim at sent
      split at sent
      · exact Or.inl sent
      · cases sent
  | claimExhausted => cases sent
  | claimGranted => cases sent
  | undeliveredByClaim => cases sent
  | undeliveredByFailure => cases sent
  | reported => split at sent <;> cases sent
  | sent t tx inProgress target => exact Or.inr ⟨t, tx, inProgress, target⟩
  | reactivated => cases sent
  | retiredByMonitor t tx => exact Or.inl (retired tx.now rfl)
  | retiredByChannel t tx => exact Or.inl (retired tx.now rfl)
  | resolved t tx =>
      unfold PersistTx.rowWrite at sent
      by_cases canceled : key ∈ tx.outbox.cancels
      · simp only [if_pos canceled] at sent
        split at sent <;> cases sent
      · simp only [if_neg canceled] at sent
        split at sent <;> exact Or.inl sent

end Sources

def Permitted (before : List Call) (call : Call) : Prop :=
  (∀ earlier ∈ before, earlier.attempt ≠ call.attempt) ∧
    (call.claimed.row.eventType = .recovery → ∃ earlier ∈ before,
      earlier.claimed.key = call.claimed.key.down ∧ earlier.accepted = true)

def AcceptedRow (calls : List Call) (key : OutboxKey) : Prop :=
  ∃ call ∈ calls, call.claimed.key = key ∧ call.accepted = true

structure TablesMatch (calls : List Call) (s : System) : Prop where
  confirmed : ∀ t tx, s.txs.get t = some (.markSent tx) →
    Accepted calls (tx.claimed.key, tx.claimed.deliveryAttempt)
  sent : ∀ key row, s.db.outbox.get key = some row → row.status = .sent → AcceptedRow calls key
  succeeded : ∀ attempt delivery, s.db.deliveries.get attempt = some delivery →
    delivery.status = .succeeded → Accepted calls attempt
  failed : ∀ attempt delivery, s.db.deliveries.get attempt = some delivery →
    delivery.status = .failed →
      ∃ error, Refused calls attempt error ∧ error.deliveryUncertain = false
  placed : ∀ attempt claimed, s.attempts.get attempt = some claimed →
    (s.db.deliveries.get attempt).isSome = true
  recovering : ∀ attempt claimed, s.attempts.get attempt = some claimed →
    claimed.row.eventType = .recovery → AcceptedRow calls claimed.key.down

structure CallsFiled (provider : Provider) (calls : List Call) (s : System) : Prop where
  provided : ∀ call ∈ calls, ∃ outcome,
    (call.answer, call.events) = provide provider call.claimed.row outcome
  rows : ∀ call ∈ calls, ClaimView s.db.outbox call.claimed
  deliveries : ∀ call ∈ calls, (s.db.deliveries.get call.attempt).isSome = true

section Invariant

variable {provider : Provider} {calls : List Call} {s after : System} {a : Action}

theorem accepted_row {attempt : OutboxKey × Nat} (answered : Accepted calls attempt) :
    AcceptedRow calls attempt.1 := by
  obtain ⟨call, member, same, accepted⟩ := answered
  exact ⟨call, member, congrArg Prod.fst same, accepted⟩

theorem confirmed_step (matched : TablesMatch calls s) (filed : AttemptInvariant s)
    (justified : Justified calls a) (stepped : Stepped s a after) {t : TxId} {tx : MarkSentTx}
    (inProgress : after.txs.get t = some (.markSent tx)) :
    Accepted calls (tx.claimed.key, tx.claimed.deliveryAttempt) := by
  cases step_tx_source stepped inProgress with
  | stayed before => exact matched.confirmed t tx before
  | advanced before next other => cases other
  | begun jobs attempts unused begun =>
      cases begun with
      | markSent attempt claimed providerMessageId now databaseTime remembered =>
          have same : attempt = (claimed.key, claimed.deliveryAttempt) :=
            filed.filed attempt claimed remembered
          rw [Justified, same] at justified
          exact justified

theorem sent_step (invariant : OutboxInvariant s) (matched : TablesMatch calls s)
    (stepped : Stepped s a after) {key : OutboxKey} {next : OutboxRow}
    (stored : after.db.outbox.get key = some next) (sent : next.status = .sent) :
    AcceptedRow calls key := by
  cases before : s.db.outbox.get key with
  | none =>
      obtain ⟨-, pending⟩ := new_row_unattempted invariant (step_outbox_new stepped before stored)
      rw [pending] at sent
      cases sent
  | some row =>
      obtain ⟨other, otherStored, move, _⟩ := step_outbox_row invariant.sequenced stepped before
      rw [stored, Option.some_inj] at otherStored
      subst otherStored
      rcases sent_move move sent with already | ⟨t, tx, inProgress, rfl⟩
      · exact matched.sent key row before already
      · exact accepted_row (matched.confirmed t tx inProgress)

theorem tables_match_step (invariant : OutboxInvariant s) (filed : AttemptInvariant s)
    (matched : TablesMatch calls s) (justified : Justified calls a)
    (stepped : Stepped s a after) : TablesMatch calls after := by
  constructor
  · intro t tx inProgress
    exact confirmed_step matched filed justified stepped inProgress
  · intro key row stored sent
    exact sent_step invariant matched stepped stored sent
  · intro attempt delivery stored succeeded
    cases step_delivery_status stepped stored with
    | kept _ earlier found same => exact matched.succeeded attempt earlier found (same.trans succeeded)
    | open_ _ status =>
        rw [succeeded] at status
        rcases status with other | other <;> cases other
    | confirmed t tx inProgress target =>
        rw [target]
        exact matched.confirmed t tx inProgress
    | refused _ _ _ _ _ _ _ _ status =>
        rw [succeeded] at status
        cases status
  · intro attempt delivery stored failed
    cases step_delivery_status stepped stored with
    | kept _ earlier found same => exact matched.failed attempt earlier found (same.trans failed)
    | open_ _ status =>
        rw [failed] at status
        rcases status with other | other <;> cases other
    | confirmed _ _ _ _ status =>
        rw [failed] at status
        cases status
    | refused other claimed error now delay remembered target certain =>
        have same : other = (claimed.key, claimed.deliveryAttempt) :=
          filed.filed other claimed remembered
        rw [Justified, same, ← target] at justified
        exact ⟨error, justified, certain⟩
  · intro attempt claimed remembered
    rcases step_attempt_source stepped remembered with before | ⟨t, tx, rfl, _, written, rfl⟩
    · exact delivery_kept stepped (matched.placed attempt claimed before)
    · obtain ⟨row, _, _, rfl, _, deliveries⟩ := claim_commit_granted written
      rw [deliveries, Table.get_put, if_pos rfl]
      rfl
  · intro attempt claimed remembered recovery
    rcases step_attempt_source stepped remembered with before | ⟨t, tx, rfl, _, written, rfl⟩
    · exact matched.recovering attempt claimed before recovery
    · obtain ⟨row, _, outcome, rfl, _, _⟩ := claim_commit_granted written
      obtain ⟨down, found, sent⟩ :=
        Option.map_eq_some_iff.1 (claim_granted_recovery outcome recovery)
      exact matched.sent _ down found sent

theorem calls_filed_step (invariant : OutboxInvariant s) (filed : CallsFiled provider calls s)
    (stepped : Stepped s a after) : CallsFiled provider calls after := by
  refine ⟨filed.provided, ?_, ?_⟩
  · intro call member
    exact claim_view_kept invariant stepped (filed.rows call member)
  · intro call member
    exact delivery_kept stepped (filed.deliveries call member)

end Invariant

structure DeploymentInvariant (provider : Provider) (d : Deployment) : Prop where
  obeys : Obeys Permitted d.calls
  matched : TablesMatch d.calls d.system
  filed : CallsFiled provider d.calls d.system

section Deployments

variable {provider : Provider} {d after : Deployment}

theorem Accepted.grown {calls : List Call} {attempt : OutboxKey × Nat}
    (accepted : Accepted calls attempt) (more : List Call) : Accepted (calls ++ more) attempt := by
  obtain ⟨call, member, result⟩ := accepted
  exact ⟨call, List.mem_append_left _ member, result⟩

theorem Refused.grown {calls : List Call} {attempt : OutboxKey × Nat}
    {error : NotificationProviderError} (refused : Refused calls attempt error)
    (more : List Call) : Refused (calls ++ more) attempt error := by
  obtain ⟨call, member, result⟩ := refused
  exact ⟨call, List.mem_append_left _ member, result⟩

theorem AcceptedRow.grown {calls : List Call} {key : OutboxKey} (accepted : AcceptedRow calls key)
    (more : List Call) : AcceptedRow (calls ++ more) key := by
  obtain ⟨call, member, result⟩ := accepted
  exact ⟨call, List.mem_append_left _ member, result⟩

theorem TablesMatch.grown {calls : List Call} {s : System} (matched : TablesMatch calls s)
    (more : List Call) : TablesMatch (calls ++ more) s where
  confirmed t tx inProgress := (matched.confirmed t tx inProgress).grown more
  sent key row found sent := (matched.sent key row found sent).grown more
  succeeded attempt delivery found status :=
    (matched.succeeded attempt delivery found status).grown more
  failed attempt delivery found status := by
    obtain ⟨error, refused, certain⟩ := matched.failed attempt delivery found status
    exact ⟨error, refused.grown more, certain⟩
  placed := matched.placed
  recovering attempt claimed remembered recovery :=
    (matched.recovering attempt claimed remembered recovery).grown more

theorem not_called {attempt : OutboxKey × Nat} (uncalled : d.callOf attempt = none) :
    ∀ call ∈ d.calls, call.attempt ≠ attempt := by
  intro call member same
  have absent := List.find?_eq_none.1 uncalled call member
  exact absent (decide_eq_true same)

theorem deployment_invariant_step (invariant : OutboxInvariant d.system)
    (attempts : AttemptInvariant d.system) (holds : DeploymentInvariant provider d)
    (stepped : WorkerStepped provider d after) : DeploymentInvariant provider after := by
  cases stepped with
  | system a system justified taken =>
      have stepped := step_cases taken
      exact ⟨holds.obeys, tables_match_step invariant attempts holds.matched justified stepped,
        calls_filed_step invariant holds.filed stepped⟩
  | provided attempt claimed outcome remembered uncalled =>
      have filed : attempt = (claimed.key, claimed.deliveryAttempt) :=
        attempts.filed attempt claimed remembered
      refine ⟨.snoc holds.obeys ⟨?_, ?_⟩, holds.matched.grown _, ?_⟩
      · intro earlier member same
        exact not_called uncalled earlier member (same.trans filed.symm)
      · intro recovery
        exact holds.matched.recovering attempt claimed remembered recovery
      · constructor
        · intro call member
          rcases List.mem_append.1 member with before | last
          · exact holds.filed.provided call before
          · rw [List.mem_singleton.1 last]
            exact ⟨outcome, rfl⟩
        · intro call member
          rcases List.mem_append.1 member with before | last
          · exact holds.filed.rows call before
          · rw [List.mem_singleton.1 last]
            exact invariant.claims attempt claimed remembered
        · intro call member
          rcases List.mem_append.1 member with before | last
          · exact holds.filed.deliveries call before
          · rw [List.mem_singleton.1 last, Call.attempt, ← filed]
            exact holds.matched.placed attempt claimed remembered

theorem deployment_invariant_reachable (deployed : Deployed provider d) :
    DeploymentInvariant provider d := by
  apply deployed.invariant_with (fun d => Reachable d.system) (DeploymentInvariant provider)
  · intro state holds
    exact deployed_reachable holds
  · refine ⟨.nil, ⟨?_, ?_, ?_, ?_, ?_, ?_⟩, ⟨?_, ?_, ?_⟩⟩
    case refine_7 | refine_8 | refine_9 =>
      intro call made
      cases made
    all_goals
      intro _ _ found
      cases found
  · intro state action after reachable holds taken
    exact deployment_invariant_step (outbox_invariant_reachable reachable)
      (attempt_invariant_reachable reachable) holds (worker_step_cases taken)

end Deployments

end LinkAlive.Delivery
