import LinkAlive.Delivery.Calls
import LinkAlive.Outbox.Snapshots
import LinkAlive.System.Script

/-!
# What was said to the provider

Whole runs of a deployment: the records agree with the answers of the provider, recoveries
are sent after their DOWN has been accepted, and every message goes where its channel was
configured to send it.
-/

namespace LinkAlive.Delivery

open Relational Obligations Transition

set_option autoImplicit false

section Log

variable {calls : List Call}

theorem calls_distinct (obeys : Obeys Permitted calls) : (calls.map Call.attempt).Nodup := by
  induction obeys with
  | nil => exact List.nodup_nil
  | @snoc earlier call _ permits distinct =>
      rw [List.map_append, List.map_singleton, List.nodup_append]
      refine ⟨distinct, List.nodup_singleton _, ?_⟩
      intro attempt member last only same
      obtain ⟨other, among, rfl⟩ := List.mem_map.1 member
      exact permits.1 other among (same.trans (List.mem_singleton.1 only))

theorem calls_bounded (obeys : Obeys Permitted calls) {key : OutboxKey} {bound : Nat}
    (numbered : ∀ call ∈ calls, call.claimed.key = key →
      1 ≤ call.claimed.deliveryAttempt ∧ call.claimed.deliveryAttempt ≤ bound) :
    (calls.filter fun call => call.claimed.key = key).length ≤ bound := by
  have distinct : ((calls.filter fun call => call.claimed.key = key).map Call.attempt).Nodup :=
    (calls_distinct obeys).sublist (List.filter_sublist.map _)
  have among : (calls.filter fun call => call.claimed.key = key).map Call.attempt ⊆
      (List.range' 1 bound).map fun number => (key, number) := by
    intro attempt member
    obtain ⟨call, selected, rfl⟩ := List.mem_map.1 member
    obtain ⟨made, own⟩ := List.mem_filter.1 selected
    have same : call.claimed.key = key := of_decide_eq_true own
    have range := numbered call made same
    refine List.mem_map.2 ⟨call.claimed.deliveryAttempt, ?_, ?_⟩
    · rw [List.mem_range'_1]
      omega
    · rw [Call.attempt, same]
  have size := (List.subperm_of_subset distinct among).length_le
  rw [List.length_map, List.length_map, List.length_range'] at size
  exact size

end Log

structure RecordsTell (provider : Provider) (d : Deployment) : Prop where
  /-- A row is SENT only if the provider accepted its message. -/
  sent : ∀ key row, d.system.db.outbox.get key = some row → row.status = .sent →
    ∃ call ∈ d.calls, call.claimed.key = key ∧ call.accepted = true ∧
      ∃ url chatId, .request url chatId (messageOf provider row) ∈ call.events
  succeeded : ∀ attempt delivery, d.system.db.deliveries.get attempt = some delivery →
    delivery.status = .succeeded → Accepted d.calls attempt
  /-- A FAILED attempt is one that the provider certainly did not accept. -/
  failed : ∀ attempt delivery, d.system.db.deliveries.get attempt = some delivery →
    delivery.status = .failed →
      ∃ error, Refused d.calls attempt error ∧ error.deliveryUncertain = false
  /-- An accepted message is never recorded as a failure. -/
  accepted : ∀ call ∈ d.calls, call.accepted = true →
    ∃ delivery, d.system.db.deliveries.get call.attempt = some delivery ∧ delivery.status ≠ .failed
  /-- All messages for a row are the same. -/
  messages : ∀ call ∈ d.calls, ∃ row, d.system.db.outbox.get call.claimed.key = some row ∧
    ∀ url chatId text, .request url chatId text ∈ call.events → text = messageOf provider row
  bounded : ∀ key row, d.system.db.outbox.get key = some row →
    (d.calls.filter fun call => call.claimed.key = key).length ≤ row.attemptCount ∧
      row.attemptCount ≤ row.maxAttempts

section Reading

variable {provider : Provider} {d : Deployment}

theorem message_of_same {row other : OutboxRow} (same : row.SameEvent other) :
    messageOf provider row = messageOf provider other := by
  rw [messageOf, messageOf, same.payloadSafe, same.eventType]

theorem call_request (filed : CallsFiled provider d.calls d.system) {call : Call}
    (made : call ∈ d.calls) {url chatId : String} {text : Units}
    (requested : .request url chatId text ∈ call.events) :
    ∃ destination, content call.claimed.row.encryptedConfigSnapshot = some destination ∧
      url = requestUrl destination ∧ chatId = destination.chatId ∧
        text = messageOf provider call.claimed.row := by
  obtain ⟨outcome, provided⟩ := filed.provided call made
  have events : call.events = (provide provider call.claimed.row outcome).2 :=
    congrArg Prod.snd provided
  rw [events] at requested
  exact provide_request requested

theorem call_accepted (filed : CallsFiled provider d.calls d.system) {call : Call}
    (made : call ∈ d.calls) (accepted : call.accepted = true) :
    ∃ url chatId, .request url chatId (messageOf provider call.claimed.row) ∈ call.events := by
  obtain ⟨outcome, provided⟩ := filed.provided call made
  have answer : call.answer = (provide provider call.claimed.row outcome).1 :=
    congrArg Prod.fst provided
  have events : call.events = (provide provider call.claimed.row outcome).2 :=
    congrArg Prod.snd provided
  rw [Call.accepted, answer] at accepted
  cases result : (provide provider call.claimed.row outcome).1 with
  | error error =>
      rw [result] at accepted
      cases accepted
  | ok value =>
      obtain ⟨destination, -, requested⟩ := provide_accepted result
      rw [events]
      exact ⟨_, _, requested⟩

theorem accepted_not_failed (holds : DeploymentInvariant provider d) {call : Call}
    (made : call ∈ d.calls) (accepted : call.accepted = true) {delivery : DeliveryRow}
    (found : d.system.db.deliveries.get call.attempt = some delivery) :
    delivery.status ≠ .failed := by
  intro failed
  obtain ⟨error, ⟨other, among, same, thrown, answer, -⟩, -⟩ :=
    holds.matched.failed call.attempt delivery found failed
  have one : other = call :=
    List.inj_on_of_nodup_map (calls_distinct holds.obeys) among made same
  rw [Call.accepted, ← one, answer] at accepted
  cases accepted

end Reading

theorem records_tell_answers {provider : Provider} {d : Deployment}
    (deployed : Deployed provider d) : RecordsTell provider d := by
  have holds := deployment_invariant_reachable deployed
  have attempts := attempt_invariant_reachable (deployed_reachable deployed)
  constructor
  · intro key row found sent
    obtain ⟨call, made, rfl, accepted⟩ := holds.matched.sent key row found sent
    obtain ⟨url, chatId, requested⟩ := call_accepted holds.filed made accepted
    obtain ⟨stored, there, same⟩ := holds.filed.rows call made
    rw [found, Option.some_inj] at there
    rw [there, message_of_same same]
    exact ⟨call, made, rfl, accepted, url, chatId, requested⟩
  · exact holds.matched.succeeded
  · exact holds.matched.failed
  · intro call made accepted
    obtain ⟨delivery, found⟩ := Option.isSome_iff_exists.1 (holds.filed.deliveries call made)
    exact ⟨delivery, found, accepted_not_failed holds made accepted found⟩
  · intro call made
    obtain ⟨row, found, same⟩ := holds.filed.rows call made
    refine ⟨row, found, ?_⟩
    intro url chatId text requested
    obtain ⟨-, -, -, -, rfl⟩ := call_request holds.filed made requested
    exact (message_of_same same).symm
  · intro key row found
    obtain ⟨recorded, -⟩ := attempts.rows key row found
    refine ⟨calls_bounded holds.obeys ?_, recorded.bounded⟩
    rintro call made rfl
    exact (recorded.numbered _).1 (holds.filed.deliveries call made)

/-- In the order of the calls, the accepted DOWN comes first. -/
theorem recovery_called_after_down {provider : Provider} {d : Deployment}
    (deployed : Deployed provider d) {before after : List Call} {call : Call}
    (split : d.calls = before ++ call :: after) (recovery : call.claimed.row.eventType = .recovery) :
    ∃ earlier ∈ before, earlier.claimed.key = call.claimed.key.down ∧ earlier.accepted = true :=
  ((deployment_invariant_reachable deployed).obeys.permits split).2 recovery

def ConfiguredBefore (visited : List (Deployment × WorkerAction)) (before : List Call)
    (id : ChannelId) (config : ChannelConfig) : Prop :=
  ∃ pair ∈ visited, pair.1.calls <+: before ∧
    ∃ row, pair.1.system.db.channels.get id = some row ∧ row.encryptedConfig = .envelope config

/-- The copies in the tables and the requests go back to configurations. -/
structure DestinationsKnown (visited : List (Deployment × WorkerAction)) (d : Deployment) :
    Prop where
  earlier : ∀ pair ∈ visited, pair.1.calls <+: d.calls
  snapshots : SnapshotInvariant (ConfiguredBefore visited d.calls) d.system
  requests : ∀ before call after, d.calls = before ++ call :: after → ∀ url chatId text,
    .request url chatId text ∈ call.events → ∃ config,
      ConfiguredBefore visited before call.claimed.key.channelId config ∧
        url = requestUrl config ∧ chatId = config.chatId

section Destinations

variable {provider : Provider} {visited : List (Deployment × WorkerAction)} {last after : Deployment}
  {label : WorkerAction}

theorem configured_later {before : List Call} {id : ChannelId} {config : ChannelConfig}
    (configured : ConfiguredBefore visited before id config) (pair : Deployment × WorkerAction)
    {more : List Call} (grown : before <+: more) :
    ConfiguredBefore (visited ++ [pair]) more id config := by
  obtain ⟨earlier, member, calls, row⟩ := configured
  exact ⟨earlier, List.mem_append_left _ member, calls.trans grown, row⟩

theorem destinations_step (reachable : Reachable last.system)
    (known : DestinationsKnown visited last) (stepped : WorkerStepped provider last after) :
    DestinationsKnown (visited ++ [(last, label)]) after := by
  have grown : last.calls <+: after.calls := by
    cases stepped with
    | system => exact List.prefix_refl _
    | provided => exact List.prefix_append _ _
  have earlier : ∀ pair ∈ visited ++ [(last, label)], pair.1.calls <+: after.calls := by
    intro pair member
    rcases List.mem_append.1 member with before | now
    · exact (known.earlier pair before).trans grown
    · rw [List.mem_singleton.1 now]
      exact grown
  have snapshots : SnapshotInvariant (ConfiguredBefore (visited ++ [(last, label)]) after.calls)
      last.system :=
    known.snapshots.weaken fun _ _ configured => configured_later configured _ grown
  have channels : ChannelsKnown (ConfiguredBefore (visited ++ [(last, label)]) after.calls)
      last.system := by
    intro id row found config same
    exact ⟨(last, label), by simp, grown, row, found, same⟩
  cases stepped with
  | system a system justified taken =>
      refine ⟨earlier, ?_, ?_⟩
      · exact snapshot_invariant_step (ledger_invariant_reachable reachable)
          (outbox_invariant_reachable reachable) channels snapshots (step_cases taken)
      · intro before call rest split url chatId text requested
        obtain ⟨config, configured, target⟩ :=
          known.requests before call rest split url chatId text requested
        exact ⟨config, configured_later configured _ (List.prefix_refl _), target⟩
  | provided attempt claimed outcome remembered uncalled =>
      refine ⟨earlier, snapshots, ?_⟩
      intro before call rest split url chatId text requested
      rcases List.eq_nil_or_concat rest with rfl | ⟨others, final, rfl⟩
      · obtain ⟨rfl, same⟩ := List.append_inj' split rfl
        cases same
        obtain ⟨config, secret, rfl, rfl, -⟩ := provide_request requested
        have copy := known.snapshots.attempts attempt claimed remembered
        refine ⟨config, configured_later (copy config ?_) _ (List.prefix_refl _), rfl, rfl⟩
        cases stored : claimed.row.encryptedConfigSnapshot with
        | tombstone =>
            rw [stored] at secret
            cases secret
        | envelope plain =>
            rw [stored] at secret
            cases secret
            rfl
      · have inner : last.calls = before ++ call :: others := by
          rw [List.concat_eq_append, ← List.cons_append, ← List.append_assoc] at split
          exact (List.append_inj' split rfl).1
        obtain ⟨config, configured, target⟩ :=
          known.requests before call others inner url chatId text requested
        exact ⟨config, configured_later configured _ (List.prefix_refl _), target⟩

theorem destinations_known (run : Run (workerStep provider) Deployment.initial visited last) :
    DestinationsKnown visited last := by
  induction run with
  | start =>
      refine ⟨?_, ⟨?_, ?_, ?_, ?_⟩, ?_⟩
      case refine_1 =>
        intro pair member
        cases member
      case refine_6 =>
        intro before call after split
        cases before <;> cases split
      all_goals
        intro _ _ found
        cases found
  | next run taken induction =>
      exact destinations_step (deployed_reachable ⟨_, run⟩) induction (worker_step_cases taken)

end Destinations

/-- Every message goes where its channel was configured to send it, before the call. -/
theorem requests_go_where_configured {provider : Provider}
    {visited : List (Deployment × WorkerAction)} {d : Deployment}
    (run : Run (workerStep provider) Deployment.initial visited d) {before after : List Call}
    {call : Call} (split : d.calls = before ++ call :: after) {url chatId : String} {text : Units}
    (requested : .request url chatId text ∈ call.events) :
    ∃ config, ConfiguredBefore visited before call.claimed.key.channelId config ∧
      url = requestUrl config ∧ chatId = config.chatId :=
  (destinations_known run).requests before call after split url chatId text requested

def acceptedText : String := "\x7b\"ok\":true,\"result\":\x7b\"message_id\":77\x7d\x7d"

def acceptedJson : JsonLibrary wholeNumbers where
  stringify _ := acceptedText
  parse units :=
    if units = codeUnits acceptedText then
      some (.object [("ok", .bool true), ("result", .object [("message_id", .number (77 : Nat))])])
    else none

def sampleProvider : Provider where
  numbers := wholeNumbers
  json := acceptedJson
  gcm := maskGcm
  key := (113 : UInt8)
  dates := samplePlatform.dates
  urls := healthUrls
  messageIdText _ := "<linkalive-1@linkalive.local>"

def acceptance : FetchOutcome :=
  .answered ⟨200, none, none, some ⟨[Utf8.encode acceptedText], true⟩⟩

def others (actions : List Action) : List WorkerAction := actions.map .other

def deliverRow (key : OutboxKey) (attempt : Nat) (outcome : FetchOutcome) (now : Time) :
    List WorkerAction :=
  others (Script.claimRow key now) ++
    [.provide (key, attempt) outcome, .confirm 0 (key, attempt) (now + 500) (now + 500),
      .other (.commit 0)]

/-- The first call for the DOWN times out, the second is accepted; the recovery follows. The
channel is moved to another chat after the incident has been opened. -/
def deliveringScript : List WorkerAction :=
  let down := Script.downKey 1
  others ([.createChannel 1 "ops" firstConfig,
      .beginMonitor 0 1 (.create (Script.monitorInput [1])) 0 0, .commit 0] ++
    Script.failingCheck 1 1 1000 ++
    [.beginChannel 0 1 (.update ⟨none, none, some "@operators", none⟩) 1500, .commit 0] ++
    Script.claimRow down 2000) ++
    [.provide (down, 1) (.rejected true), .reject (down, 1) 2500 (1 / 2)] ++
    deliverRow down 2 acceptance 6000 ++
    others (Script.recoveringCheck 2 1 61000) ++
    deliverRow down.followUp 1 acceptance 62000

theorem deployed_of_script {provider : Provider} (actions : List WorkerAction)
    (test : Deployment → Bool)
    (passed : replaySatisfies (workerStep provider) Deployment.initial actions
      fun _ d => test d) :
    ∃ visited d, Run (workerStep provider) Deployment.initial visited d ∧ test d = true := by
  obtain ⟨visited, d, run, tested⟩ := run_of_replay_satisfies passed
  exact ⟨visited, d, run, tested⟩

theorem records_tell_answers_sample :
    ∃ d, RecordsTell sampleProvider d ∧ d.calls.map Call.accepted = [false, true, true] ∧
      (d.system.db.outbox.get (Script.downKey 1).followUp).any (fun row =>
        row.status = .sent) = true := by
  obtain ⟨visited, d, run, tested⟩ := deployed_of_script deliveringScript
    (fun d => d.calls.map Call.accepted = [false, true, true] &&
      (d.system.db.outbox.get (Script.downKey 1).followUp).any fun row => row.status = .sent)
    (by decide +kernel : replaySatisfies (workerStep sampleProvider) _ _ _ = true)
  rw [Bool.and_eq_true, decide_eq_true_eq] at tested
  exact ⟨d, records_tell_answers ⟨visited, run⟩, tested⟩

theorem recovery_called_after_down_sample :
    ∃ (before : List Call) (call : Call), call.claimed.key = (Script.downKey 1).followUp ∧
      ∃ earlier ∈ before, earlier.claimed.key = call.claimed.key.down ∧
        earlier.accepted = true := by
  obtain ⟨visited, d, run, tested⟩ := deployed_of_script deliveringScript
    (fun d => d.calls.any fun call =>
      call.claimed.key = (Script.downKey 1).followUp && call.claimed.row.eventType = .recovery)
    (by decide +kernel : replaySatisfies (workerStep sampleProvider) _ _ _ = true)
  simp only [List.any_eq_true, Bool.and_eq_true, decide_eq_true_eq] at tested
  obtain ⟨call, made, follow, recovery⟩ := tested
  obtain ⟨before, after, split⟩ := List.append_of_mem made
  exact ⟨before, call, follow, recovery_called_after_down ⟨visited, run⟩ split recovery⟩

def TelegramEvent.target : TelegramEvent → Option (String × String × Units)
  | .request url chatId text => some (url, chatId, text)
  | _ => none

/-- The recovery, too, goes to the chat that the channel had when the incident was opened. -/
theorem requests_go_where_configured_sample :
    ∃ visited d before config, Run (workerStep sampleProvider) Deployment.initial visited d ∧
      before <+: d.calls ∧ ConfiguredBefore visited before 1 config ∧
        config.chatId = "-100123" := by
  obtain ⟨visited, d, run, tested⟩ := deployed_of_script deliveringScript
    (fun d => d.calls.any fun call => call.claimed.key = (Script.downKey 1).followUp &&
      call.events.any fun event => event.target.any fun target => target.2.1 = "-100123")
    (by decide +kernel : replaySatisfies (workerStep sampleProvider) _ _ _ = true)
  simp only [List.any_eq_true, Bool.and_eq_true, decide_eq_true_eq, Option.any_eq_true] at tested
  obtain ⟨call, made, follow, event, requested, ⟨url, chatId, text⟩, target, chat⟩ := tested
  obtain ⟨before, after, split⟩ := List.append_of_mem made
  cases event <;> cases target
  obtain ⟨config, configured, -, same⟩ := requests_go_where_configured run split requested
  rw [follow] at configured
  have earlier : before <+: d.calls := ⟨call :: after, split.symm⟩
  exact ⟨visited, d, before, config, run, earlier, configured, same.symm.trans chat⟩

end LinkAlive.Delivery
