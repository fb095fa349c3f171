import LinkAlive.Network.ObservationRows

/-!
# One summary for an outage

Several workers summarize the same outages. The lock of the outage keeps the other
summaries, the inspections and the new observations away from it while a summary is in
progress, so what a summary has seen of the outage is still there when it commits. The
channels and the monitors may change in the meantime; they are the ones of its snapshot.
-/

namespace LinkAlive.Network

set_option autoImplicit false

open Relational

def NetworkSystem.reportsOn (s : NetworkSystem) (outageId : OutageId) : Action → Bool
  | .commitSummarize m =>
      (s.summaries.get m).any fun tx => decide (tx.outageId = outageId) && tx.reports
  | _ => false

def endsSummary (m : SummaryId) : Action → Bool
  | .commitSummarize other | .abortSummarize other => decide (other = m)
  | _ => false

def SummaryCounts.total (counts : SummaryCounts) : Nat :=
  counts.success + counts.failed + counts.pending + counts.skipped

def AwaitsRecheck (s : NetworkSystem) (outageId : OutageId) : Prop :=
  ∃ monitorId row, s.net.observations.get (outageId, monitorId) = some row ∧
    isPending s.core.db.monitors (monitorId, row) = true

/-- What the commit of a summary does: `snapshot` is the state of its first plain read. The
counts are natural numbers, so that a subtraction below zero would spoil their total. It
waits for the observations that are pending in the snapshot, and so for those that are
pending at the commit, unless the monitor has been resumed in between. -/
structure Reported (snapshot s after : NetworkSystem) (outageId : OutageId)
    (outage : NetworkOutageRow) (recoveredAt : Time) : Prop where
  seen : snapshot.net.outages.get outageId = some outage
  recovered : outage.recoveredAt = some recoveredAt
  unsummarized : s.net.outages.get outageId = some outage ∧ outage.summarizedAt = none
  summarized : ∃ now, after.net.outages.get outageId = some (outage.summarized now)
  fresh : ∀ channelId, s.net.recoveries.get (outageId, channelId) = none
  created : ∀ channelId, (after.net.recoveries.get (outageId, channelId)).isSome = true ↔
    channelId ∈ outage.channelIds ∧ channelLive snapshot.core.db channelId = true
  counts : ∀ channelId row, after.net.recoveries.get (outageId, channelId) = some row →
    row.counts.total = (observationsOf snapshot.net.observations outageId).length
  observations : (observationsOf s.net.observations outageId).length =
    (observationsOf snapshot.net.observations outageId).length
  waited : AwaitsRecheck snapshot outageId → recoveredAt + 120000 ≤ s.clock
  stillWaited : (∃ monitorId row monitor,
    s.net.observations.get (outageId, monitorId) = some row ∧
      isPending s.core.db.monitors (monitorId, row) = true ∧
      snapshot.core.db.monitors.get monitorId = some monitor ∧ monitor.isActive = true) →
    recoveredAt + 120000 ≤ s.clock

def NetworkObservationRow.Settled (row : NetworkObservationRow) : Prop :=
  row.recheckedAt.isSome = true ↔
    row.outcome = some .success ∨ row.outcome = some .targetFailure

def isSkipped (monitors : Table MonitorId MonitorRow)
    (entry : MonitorId × NetworkObservationRow) : Bool :=
  !isPending monitors entry && entry.2.outcome ≠ some .success &&
    entry.2.outcome ≠ some .targetFailure

theorem length_filter_cons {Item : Type} (test : Item → Bool) (item : Item) (rest : List Item) :
    ((item :: rest).filter test).length = (test item).toNat + (rest.filter test).length := by
  rw [List.filter_cons]
  cases test item with
  | true => simp [Nat.add_comm]
  | false => simp

theorem one_kind (monitors : Table MonitorId MonitorRow)
    {entry : MonitorId × NetworkObservationRow} (settled : entry.2.Settled) :
    (decide (entry.2.outcome = some .success)).toNat +
      (decide (entry.2.outcome = some .targetFailure)).toNat +
      (isPending monitors entry).toNat + (isSkipped monitors entry).toNat = 1 := by
  have idle : entry.2.outcome = some .success ∨ entry.2.outcome = some .targetFailure →
      isPending monitors entry = false := by
    intro counted
    rw [isPending, ← Option.not_isSome, settled.2 counted]
    rfl
  rw [isSkipped]
  by_cases success : entry.2.outcome = some .success
  · rw [idle (Or.inl success), success]
    rfl
  · by_cases failed : entry.2.outcome = some .targetFailure
    · rw [idle (Or.inr failed), failed]
      rfl
    · simp only [success, failed, ne_eq, not_false_eq_true, decide_true, decide_false,
        Bool.and_true]
      cases isPending monitors entry <;> rfl

/-- The four kinds of observations, by the predicates of the code. -/
theorem observations_partition {observations : List (MonitorId × NetworkObservationRow)}
    (monitors : Table MonitorId MonitorRow) (settled : ∀ entry ∈ observations, entry.2.Settled) :
    (observations.filter fun entry => entry.2.outcome = some .success).length +
      (observations.filter fun entry => entry.2.outcome = some .targetFailure).length +
      (observations.filter (isPending monitors)).length +
      (observations.filter (isSkipped monitors)).length = observations.length := by
  induction observations with
  | nil => rfl
  | cons entry rest ih =>
      have shorter := ih fun other member => settled other (List.mem_cons_of_mem _ member)
      have own := one_kind monitors (settled entry List.mem_cons_self)
      simp only [length_filter_cons, List.length_cons]
      omega

theorem summary_counts_total {observations : List (MonitorId × NetworkObservationRow)}
    (monitors : Table MonitorId MonitorRow) (settled : ∀ entry ∈ observations, entry.2.Settled) :
    (summaryCounts observations (observations.filter (isPending monitors)).length).total =
      observations.length := by
  have parts := observations_partition monitors settled
  simp only [summaryCounts, SummaryCounts.total]
  omega

theorem summary_counts_skipped {observations : List (MonitorId × NetworkObservationRow)}
    (monitors : Table MonitorId MonitorRow) (settled : ∀ entry ∈ observations, entry.2.Settled) :
    (summaryCounts observations (observations.filter (isPending monitors)).length).skipped =
      (observations.filter (isSkipped monitors)).length := by
  have parts := observations_partition monitors settled
  simp only [summaryCounts]
  omega

def SummaryTx.notices (tx : SummaryTx) : List ((OutageId × ChannelId) × NetworkRecoveryRow) :=
  tx.channels.map fun entry => ((tx.outageId, entry.1), tx.recovery entry.2)

theorem notify_upserts (tx : SummaryTx)
    (recoveries : Table (OutageId × ChannelId) NetworkRecoveryRow) :
    tx.notify recoveries = recoveries.upsertAll tx.notices := by
  rw [SummaryTx.notices, Table.upsertAll, List.foldl_map]
  rfl

theorem mem_notices {tx : SummaryTx} {outageId : OutageId} {channelId : ChannelId}
    {row : NetworkRecoveryRow} :
    ((outageId, channelId), row) ∈ tx.notices ↔
      tx.outageId = outageId ∧ ∃ channel, (channelId, channel) ∈ tx.channels ∧
        tx.recovery channel = row := by
  simp only [SummaryTx.notices, List.mem_map, Prod.mk.injEq, Prod.exists]
  constructor
  · rintro ⟨id, channel, member, ⟨same, rfl⟩, built⟩
    exact ⟨same, channel, member, built⟩
  · rintro ⟨same, channel, member, built⟩
    exact ⟨channelId, channel, member, ⟨same, rfl⟩, built⟩

/-- Where nobody has been notified, the notified channels are those of the summary. -/
theorem notify_fresh {tx : SummaryTx}
    {recoveries : Table (OutageId × ChannelId) NetworkRecoveryRow}
    (fresh : ∀ channelId, recoveries.get (tx.outageId, channelId) = none)
    {channelId : ChannelId} {row : NetworkRecoveryRow}
    (found : (tx.notify recoveries).get (tx.outageId, channelId) = some row) :
    ∃ channel, (channelId, channel) ∈ tx.channels ∧ tx.recovery channel = row := by
  rw [notify_upserts] at found
  rcases Table.upsert_all_source found with earlier | own
  · rw [fresh] at earlier
    cases earlier
  · exact (mem_notices.1 own).2

theorem notify_other {tx : SummaryTx}
    {recoveries : Table (OutageId × ChannelId) NetworkRecoveryRow} {outageId : OutageId}
    (other : tx.outageId ≠ outageId) (channelId : ChannelId) :
    (tx.notify recoveries).get (outageId, channelId) = recoveries.get (outageId, channelId) := by
  apply Option.ext
  intro row
  rw [notify_upserts]
  constructor
  · intro found
    rcases Table.upsert_all_source found with earlier | own
    · exact earlier
    · exact absurd (mem_notices.1 own).1 other
  · exact Table.upsert_all_keeps _

structure SummaryLaw (s : NetworkSystem) (tx : SummaryTx) : Prop where
  stored : s.net.outages.get tx.outageId = some tx.outage
  recovered : tx.outage.recoveredAt = some tx.recoveredAt
  unsummarized : tx.outage.summarizedAt = none
  past : tx.now ≤ s.clock
  observed : ∀ monitorId, observed s.net tx.outageId monitorId = true ↔
    monitorId ∈ tx.observations.map Prod.fst
  settled : ∀ entry ∈ tx.observations, entry.2.Settled
  inspections : ∀ i inspection, s.inspections.get i = some inspection →
    inspection.stage.locksOutage tx.outageId = false
  registrations : ∀ t id, s.registrations.get t = some id → id ≠ tx.outageId

structure SummaryInvariant (s : NetworkSystem) : Prop where
  summaries : ∀ m tx, s.summaries.get m = some tx → SummaryLaw s tx
  distinct : ∀ m n tx ux, s.summaries.get m = some tx → s.summaries.get n = some ux →
    tx.outageId = ux.outageId → m = n
  settled : ∀ key row, s.net.observations.get key = some row → row.Settled
  recoveries : ∀ outageId channelId row, s.net.recoveries.get (outageId, channelId) = some row →
    ∃ outage, s.net.outages.get outageId = some outage ∧ outage.summarizedAt.isSome = true

/-- What a step leaves of an outage that a summary has locked. -/
structure Undisturbed (s after : NetworkSystem) (outageId : OutageId) : Prop where
  clock : s.clock ≤ after.clock
  outage : after.net.outages.get outageId = s.net.outages.get outageId
  observed : ∀ monitorId, observed after.net outageId monitorId = true ↔
    observed s.net outageId monitorId = true
  inspections : ∀ i inspection, after.inspections.get i = some inspection →
    inspection.stage.locksOutage outageId = false
  registrations : ∀ t id, after.registrations.get t = some id → id ≠ outageId

theorem outage_free_summary {s : NetworkSystem} {m : SummaryId} {tx : SummaryTx}
    (stored : s.summaries.get m = some tx) {id : OutageId} (free : s.outageFree id = true) :
    tx.outageId ≠ id := by
  simp only [NetworkSystem.outageFree, Bool.and_eq_true, Table.every_iff,
    decide_eq_true_eq] at free
  exact free.1.2 m tx stored

theorem outage_write_other {write : OutageWrite} {outages next : Table OutageId NetworkOutageRow}
    {observerId : ObserverId} {probe : Probe} {newId id : OutageId}
    (written : write.apply outages observerId probe newId = some next)
    (other : write.target ≠ some id) {outage : NetworkOutageRow}
    (stored : outages.get id = some outage) : next.get id = some outage := by
  cases write with
  | none =>
      cases written
      exact stored
  | create =>
      obtain ⟨fresh, rfl⟩ := (Table.insert_new_eq_some _ _ _ _).1 written
      rw [Table.get_put, if_neg]
      · exact stored
      · rintro rfl
        rw [fresh] at stored
        cases stored
  | recover target =>
      simp only [OutageWrite.apply, Option.ite_none_right_eq_some, Option.some.injEq] at written
      obtain ⟨-, rfl⟩ := written
      rw [Table.get_update_key_other _ _ fun same => other (congrArg some same.symm)]
      exact stored
  | cancel target =>
      simp only [OutageWrite.apply, Option.ite_none_right_eq_some, Option.some.injEq] at written
      obtain ⟨-, rfl⟩ := written
      rw [Table.get_update_key_other _ _ fun same => other (congrArg some same.symm)]
      exact stored

theorem advance_locks_outage {s : NetworkSystem} {i : InspectionId} {inspection : Inspection}
    {a : Action} {stage : InspectionStage} (advance : Advance s i inspection a stage)
    {id : OutageId} (locks : stage.locksOutage id = true) : s.outageFree id = true := by
  cases advance with
  | written probe observer newId resets _ free _ => exact free id (of_decide_eq_true locks)
  | startProbe => cases locks
  | finishProbe => cases locks
  | superseded => cases locks
  | opened => cases locks
  | overtaken => cases locks
  | locked => cases locks

/-- A summary keeps everybody else away from its outage until it ends. -/
theorem step_undisturbed {config : NetworkConfig} {s after : NetworkSystem} {a : Action}
    (inv : SummaryInvariant s) (taken : step config s a = some after) {m : SummaryId}
    {tx : SummaryTx} (stored : s.summaries.get m = some tx) (goesOn : endsSummary m a = false) :
    Undisturbed s after tx.outageId := by
  have law := inv.summaries m tx stored
  have same : Undisturbed s s tx.outageId :=
    ⟨Nat.le_refl _, rfl, fun _ => Iff.rfl, law.inspections, law.registrations⟩
  have elsewhere : ∀ n ux, s.summaries.get n = some ux → endsSummary n a = true →
      tx.outageId ≠ ux.outageId := by
    intro n ux found ends shared
    rw [inv.distinct m n tx ux stored found shared, ends] at goesOn
    cases goesOn
  have stepped := step_cases taken
  have inspections : ∀ i inspection, after.inspections.get i = some inspection →
      inspection.stage.locksOutage tx.outageId = false := by
    intro i inspection found
    cases inspection_source stepped found with
    | kept _ before => exact law.inspections i inspection before
    | begun => rfl
    | advanced before stage _ advance =>
        apply Bool.eq_false_iff.2
        intro locks
        exact outage_free_summary stored (advance_locks_outage advance locks) rfl
    | committed => rfl
  cases stepped with
  | ticked now later => exact { same with clock := later }
  | ledger _ core _ _ _ _ followed =>
      obtain ⟨frame, -⟩ := follow_frame followed
      refine ⟨Nat.le_of_eq frame.clock.symm, by rw [frame.outages], ?_, inspections, ?_⟩
      · apply follow_observed followed
        intro t other registered
        exact absurd rfl (law.registrations t tx.outageId registered)
      · intro t id found
        rcases (follow_effect followed).registrations t id found with
          ⟨earlier, -⟩ | ⟨-, -, -, -, -, -, free⟩
        · exact law.registrations t id earlier
        · exact (outage_free_summary stored free).symm
  | committed i inspection probe observer newId resets outages found stage written =>
      have apart : (probe.outageWrite observer.activeOutageId).target ≠ some tx.outageId := by
        have unlocked := law.inspections i inspection found
        rw [stage] at unlocked
        exact of_decide_eq_false unlocked
      refine ⟨Nat.le_refl _, ?_, fun _ => Iff.rfl, inspections, law.registrations⟩
      rw [law.stored]
      exact outage_write_other written apart law.stored
  | summaryReported n ux resets found =>
      have apart := elsewhere n ux found (decide_eq_true rfl)
      refine { same with outage := ?_ }
      exact Table.get_update_key_other _ _ apart
  | _ => exact { same with inspections := inspections }

theorem summary_view_reads {net : NetworkDatabase} {db : Database} {now : Time}
    {outageId : OutageId} {tx : SummaryTx} (viewed : summaryView net db now outageId = some tx) :
    tx.outageId = outageId ∧ net.outages.get outageId = some tx.outage ∧
      tx.outage.recoveredAt = some tx.recoveredAt ∧ tx.outage.summarizedAt = none ∧
      tx.now = now ∧ tx.observations = observationsOf net.observations outageId ∧
      tx.pending = (tx.observations.filter (isPending db.monitors)).map Prod.fst ∧
      tx.channels = db.channels.select fun id channel =>
        decide (id ∈ tx.outage.channelIds) && channel.isLive := by
  simp only [summaryView, Option.bind_eq_bind, Option.bind_eq_some_iff] at viewed
  obtain ⟨outage, stored, recoveredAt, recovered, viewed⟩ := viewed
  split at viewed
  · cases viewed
  · rename_i waiting
    cases viewed
    rw [Bool.or_eq_true, not_or, Bool.not_eq_true, Option.isSome_eq_false_iff,
      Option.isNone_iff_eq_none] at waiting
    exact ⟨rfl, stored, recovered, waiting.1, rfl, rfl, rfl, rfl⟩

/-- A summary in progress has just begun or was in progress before. -/
theorem summary_source {config : NetworkConfig} {s after : NetworkSystem} {a : Action}
    (taken : step config s a = some after) {m : SummaryId} {tx : SummaryTx}
    (found : after.summaries.get m = some tx) :
    (endsSummary m a = false ∧ ∃ earlier, s.summaries.get m = some earlier ∧
      tx = { earlier with resets := tx.resets }) ∨
    (a = .beginSummarize m tx.outageId ∧ after = { s with summaries := s.summaries.put m tx } ∧
      summaryView s.net s.core.db s.clock tx.outageId = some tx ∧
      s.outageFree tx.outageId = true) := by
  cases summary_tx_source (step_cases taken) found with
  | kept _ stored uncommitted unaborted =>
      refine Or.inl ⟨?_, tx, stored, rfl⟩
      cases a with
      | commitSummarize other => exact decide_eq_false fun same => uncommitted (same ▸ rfl)
      | abortSummarize other => exact decide_eq_false fun same => unaborted (same ▸ rfl)
      | _ => rfl
  | updated before same stored => exact Or.inl ⟨by rw [same]; rfl, before, stored, rfl⟩
  | begun outageId _ same viewed free begun =>
      obtain ⟨own, -⟩ := summary_view_reads viewed
      rw [own]
      exact Or.inr ⟨same, begun, viewed, free⟩

theorem SummaryLaw.moved {s after : NetworkSystem} {tx next : SummaryTx} (law : SummaryLaw s tx)
    (undisturbed : Undisturbed s after tx.outageId)
    (same : next = { tx with resets := next.resets }) : SummaryLaw after next := by
  rw [same]
  constructor
  · exact undisturbed.outage.trans law.stored
  · exact law.recovered
  · exact law.unsummarized
  · exact Nat.le_trans law.past undisturbed.clock
  · exact fun monitorId => (undisturbed.observed monitorId).trans (law.observed monitorId)
  · exact law.settled
  · exact undisturbed.inspections
  · exact undisturbed.registrations

theorem mem_observations_entry {net : NetworkDatabase} {outageId : OutageId}
    {entry : MonitorId × NetworkObservationRow}
    (member : entry ∈ observationsOf net.observations outageId) :
    net.observations.get (outageId, entry.1) = some entry.2 := by
  obtain ⟨⟨key, row⟩, selected, rfl⟩ := List.mem_map.1 member
  obtain ⟨stored, same⟩ := (Table.mem_select _ _ _ _).1 selected
  have own : key.1 = outageId := of_decide_eq_true same
  rw [← own]
  exact stored

theorem SummaryLaw.begins {s : NetworkSystem} {tx : SummaryTx} (inv : SummaryInvariant s)
    (viewed : summaryView s.net s.core.db s.clock tx.outageId = some tx)
    (free : s.outageFree tx.outageId = true) : SummaryLaw s tx := by
  obtain ⟨-, stored, recovered, unsummarized, now, observations, -, -⟩ := summary_view_reads viewed
  simp only [NetworkSystem.outageFree, Bool.and_eq_true, Table.every_iff, Bool.not_eq_true',
    decide_eq_true_eq] at free
  constructor
  · exact stored
  · exact recovered
  · exact unsummarized
  · exact Nat.le_of_eq now
  · intro monitorId
    rw [observations]
    exact mem_observations_of.symm
  · intro entry member
    rw [observations] at member
    exact inv.settled _ _ (mem_observations_entry member)
  · exact free.1.1
  · exact free.2

theorem persist_settled {net : NetworkDatabase} {registration : Option OutageId} {tx : PersistTx}
    (settled : ∀ key row, net.observations.get key = some row → row.Settled)
    {key : OutageId × MonitorId} {row : NetworkObservationRow}
    (found : (persistObservations net registration tx).observations.get key = some row) :
    row.Settled := by
  have registered : ∀ id row,
      (registerObservation net.observations id tx).get key = some row → row.Settled := by
    intro id row stored
    unfold registerObservation at stored
    split at stored
    · rw [Table.get_put] at stored
      split at stored
      · cases stored
        constructor
        · intro checked
          cases checked
        · rintro (counted | counted) <;> cases counted
      · exact settled key row stored
    · exact settled key row stored
  have rechecked : ∀ middle : NetworkDatabase,
      (∀ row, middle.observations.get key = some row → row.Settled) →
      (recheckObservations middle tx).get key = some row → row.Settled := by
    intro middle before stored
    rw [recheckObservations, Table.get_update_where, Option.map_eq_some_iff] at stored
    obtain ⟨earlier, present, rfl⟩ := stored
    split
    · rename_i updated
      simp only [rechecks, Bool.and_eq_true, Bool.or_eq_true, decide_eq_true_eq] at updated
      obtain ⟨⟨⟨⟨⟨-, outcome⟩, -⟩, -⟩, -⟩, -⟩ := updated
      exact ⟨fun _ => outcome.imp (congrArg some) (congrArg some), fun _ => rfl⟩
    · exact before earlier present
  cases registration with
  | none => exact rechecked net (settled key) found
  | some id => exact rechecked _ (registered id) found

/-- A step that is not the commit of a summary notifies nobody. -/
theorem step_recoveries {config : NetworkConfig} {s after : NetworkSystem} {a : Action}
    (taken : step config s a = some after) {outageId : OutageId}
    (silent : s.reportsOn outageId a = false) (channelId : ChannelId) :
    after.net.recoveries.get (outageId, channelId) =
      s.net.recoveries.get (outageId, channelId) := by
  cases step_cases taken with
  | ledger _ core _ _ _ _ followed => rw [(follow_frame followed).1.recoveries]
  | summaryReported m tx resets stored updated reports =>
      apply notify_other
      rw [NetworkSystem.reportsOn, stored, Option.any_some, reports, Bool.and_true] at silent
      exact of_decide_eq_false silent
  | ticked => rfl
  | saved => rfl
  | inspected => rfl
  | advanced => rfl
  | committed => rfl
  | aborted => rfl
  | delivered => rfl
  | restarted => rfl
  | assessed => rfl
  | summaryBegun => rfl
  | summaryReset => rfl
  | summaryDeferred => rfl
  | summaryAborted => rfl

theorem reports_on_cases {config : NetworkConfig} {s after : NetworkSystem} {a : Action}
    (taken : step config s a = some after) {outageId : OutageId}
    (reports : s.reportsOn outageId a = true) :
    ∃ m tx resets, a = .commitSummarize m ∧ s.summaries.get m = some tx ∧
      tx.outageId = outageId ∧ tx.reports = true ∧
      after = { s.afterSummary m tx resets with
        net := tx.report s.net
        counted := s.counted.put tx.outageId (tx.observations.map Prod.fst) } := by
  unfold NetworkSystem.reportsOn at reports
  split at reports
  · rename_i m
    obtain ⟨tx, stored, holds⟩ := (Option.any_eq_true _ _).1 reports
    rw [Bool.and_eq_true, decide_eq_true_eq] at holds
    simp only [step, NetworkSystem.commitSummarize, stored, Option.bind_eq_bind, Option.bind_some,
      Option.bind_eq_some_iff, holds.2, if_true, Option.some.injEq] at taken
    obtain ⟨resets, -, rfl⟩ := taken
    exact ⟨m, tx, resets, rfl, stored, holds.1, holds.2, rfl⟩
  · cases reports

/-- A commit finds its outage not summarized and nobody notified. -/
theorem SummaryInvariant.unnotified {s : NetworkSystem} (inv : SummaryInvariant s) {m : SummaryId}
    {tx : SummaryTx} (stored : s.summaries.get m = some tx) (channelId : ChannelId) :
    s.net.recoveries.get (tx.outageId, channelId) = none := by
  have law := inv.summaries m tx stored
  rw [Option.eq_none_iff_forall_ne_some]
  intro row found
  obtain ⟨outage, present, summarized⟩ := inv.recoveries tx.outageId channelId row found
  rw [law.stored, Option.some.injEq] at present
  rw [← present, law.unsummarized] at summarized
  cases summarized

theorem step_settled {config : NetworkConfig} {s after : NetworkSystem} {a : Action}
    (taken : step config s a = some after)
    (settled : ∀ key row, s.net.observations.get key = some row → row.Settled)
    {key : OutageId × MonitorId} {row : NetworkObservationRow}
    (found : after.net.observations.get key = some row) : row.Settled := by
  rcases step_observations taken with same | ⟨t, tx, -, -, written⟩
  · rw [same] at found
    exact settled key row found
  · rw [written] at found
    exact persist_settled settled found

theorem summary_invariant_step {config : NetworkConfig} {s after : NetworkSystem} {a : Action}
    (inv : SummaryInvariant s) (taken : step config s a = some after) :
    SummaryInvariant after := by
  constructor
  case summaries =>
    intro m tx found
    rcases summary_source taken found with
      ⟨goesOn, earlier, stored, same⟩ | ⟨-, rfl, viewed, free⟩
    · have undisturbed := step_undisturbed inv taken stored goesOn
      exact (inv.summaries m earlier stored).moved undisturbed same
    · have law := SummaryLaw.begins inv viewed free
      exact law.moved ⟨Nat.le_refl _, rfl, fun _ => Iff.rfl, law.inspections, law.registrations⟩ rfl
  case distinct =>
    have begun : ∀ {n ux outageId}, s.summaries.get n = some ux →
        s.outageFree outageId = true → ux.outageId ≠ outageId :=
      fun stored free => outage_free_summary stored free
    intro m n tx ux found held shared
    rcases summary_source taken found with
      ⟨-, earlier, stored, same⟩ | ⟨action, -, -, free⟩
    · rcases summary_source taken held with
        ⟨-, other, present, sameOther⟩ | ⟨-, -, -, freeOther⟩
      · rw [same, sameOther] at shared
        exact inv.distinct m n earlier other stored present shared
      · rw [← shared] at freeOther
        rw [same] at freeOther
        exact absurd rfl (begun stored freeOther)
    · rcases summary_source taken held with
        ⟨-, other, present, sameOther⟩ | ⟨actionOther, -⟩
      · rw [shared, sameOther] at free
        exact absurd rfl (begun present free)
      · rw [action] at actionOther
        exact (Action.beginSummarize.inj actionOther).1
  case settled =>
    intro key row found
    exact step_settled taken inv.settled found
  case recoveries =>
    intro outageId channelId row found
    by_cases reports : s.reportsOn outageId a = true
    · obtain ⟨m, tx, resets, -, stored, rfl, -, rfl⟩ := reports_on_cases taken reports
      refine ⟨tx.outage.summarized tx.now, ?_, rfl⟩
      simp only [SummaryTx.report]
      rw [Table.get_update_key_self, (inv.summaries m tx stored).stored, Option.map_some]
    · rw [step_recoveries taken (Bool.eq_false_iff.2 reports)] at found
      obtain ⟨outage, stored, summarized⟩ := inv.recoveries outageId channelId row found
      obtain ⟨next, present, kept⟩ := step_outage_kept taken stored
      exact ⟨next, present, kept.summarized summarized⟩

theorem summary_invariant_initial : SummaryInvariant NetworkSystem.initial where
  summaries m tx stored := by cases stored
  distinct m n tx ux stored := by cases stored
  settled key row stored := by cases stored
  recoveries outageId channelId row stored := by cases stored

section Run

variable {config : NetworkConfig} {visited : List (NetworkSystem × Action)} {s : NetworkSystem}

theorem summary_invariant_run
    (run : Transition.Run (step config) NetworkSystem.initial visited s) : SummaryInvariant s :=
  Transition.Reachable.invariant ⟨visited, run⟩ SummaryInvariant summary_invariant_initial
    fun _ _ _ inv taken => summary_invariant_step inv taken

structure Since (visited : List (NetworkSystem × Action)) (m : SummaryId) (outageId : OutageId)
    (snapshot : NetworkSystem) : Prop where
  begun : ∃ before since, visited = before ++ (snapshot, .beginSummarize m outageId) :: since ∧
    ∀ pair ∈ since, endsSummary m pair.2 = false

/-- A summary in progress shows the state in which it began. -/
theorem summary_snapshot (run : Transition.Run (step config) NetworkSystem.initial visited s)
    {m : SummaryId} {tx : SummaryTx} (stored : s.summaries.get m = some tx) :
    ∃ snapshot, Since visited m tx.outageId snapshot ∧ Grown snapshot s ∧
      VersionsBounded snapshot ∧ summaryView snapshot.net snapshot.core.db snapshot.clock tx.outageId =
        some { tx with resets := none } := by
  induction run generalizing tx with
  | start => cases stored
  | @next last after visited a run taken ih =>
      rcases summary_source taken stored with
        ⟨goesOn, earlier, present, same⟩ | ⟨rfl, -, viewed, -⟩
      · obtain ⟨snapshot, ⟨before, since, split, inProgress⟩, grown, bounded, viewed⟩ := ih present
        rw [same]
        refine ⟨snapshot, ⟨before, since ++ [(last, a)], by simp [split], ?_⟩, grown.step taken,
          bounded, viewed⟩
        intro pair member
        rcases List.mem_append.1 member with earlier | final
        · exact inProgress pair earlier
        · rw [List.mem_singleton.1 final]
          exact goesOn
      · have fresh : tx.resets = none := summary_view_resets viewed
        refine ⟨last, ⟨visited, [], rfl, fun _ nothing => by cases nothing⟩,
          (Grown.refl last).step taken, versions_bounded_run run, ?_⟩
        rw [viewed, ← fresh]

theorem observations_nodup (net : NetworkDatabase) (outageId : OutageId) :
    ((observationsOf net.observations outageId).map Prod.fst).Nodup := by
  have keys := net.observations.select_keys_nodup fun key _ => decide (key.1 = outageId)
  have own : ∀ key ∈ (net.observations.select fun key _ => decide (key.1 = outageId)).map Prod.fst,
      key.1 = outageId := by
    intro key member
    obtain ⟨⟨other, row⟩, selected, rfl⟩ := List.mem_map.1 member
    exact of_decide_eq_true ((Table.mem_select _ _ _ _).1 selected).2
  have distinct := keys.map_on fun first held second present same =>
    Prod.ext ((own first held).trans (own second present).symm) same
  simpa [observationsOf, Function.comp_def] using distinct

/-- The observations that a summary has locked have the same monitors as in its snapshot. -/
theorem observations_length {net : NetworkDatabase} {outageId : OutageId}
    {observations : List (MonitorId × NetworkObservationRow)}
    (same : ∀ monitorId, observed net outageId monitorId = true ↔
      monitorId ∈ observations.map Prod.fst)
    (distinct : (observations.map Prod.fst).Nodup) :
    (observationsOf net.observations outageId).length = observations.length := by
  have members : ∀ monitorId, monitorId ∈ (observationsOf net.observations outageId).map Prod.fst ↔
      monitorId ∈ observations.map Prod.fst :=
    fun monitorId => mem_observations_of.trans (same monitorId)
  have perm := (List.perm_ext_iff_of_nodup (observations_nodup net outageId) distinct).2 members
  simpa using perm.length_eq

theorem reported_of_commit (run : Transition.Run (step config) NetworkSystem.initial visited s)
    {m : SummaryId} {tx : SummaryTx} (resets : List MonitorId)
    (stored : s.summaries.get m = some tx) (reports : tx.reports = true) :
    ∃ snapshot, Since visited m tx.outageId snapshot ∧
      Reported snapshot s
        { s.afterSummary m tx resets with
          net := tx.report s.net
          counted := s.counted.put tx.outageId (tx.observations.map Prod.fst) }
        tx.outageId tx.outage tx.recoveredAt := by
  have inv := summary_invariant_run run
  have law := inv.summaries m tx stored
  obtain ⟨snapshot, since, grown, bounded, viewed⟩ := summary_snapshot run stored
  obtain ⟨-, seen, -, -, -, observations, pending, channels⟩ := summary_view_reads viewed
  dsimp only at seen observations pending channels
  have waits : AwaitsRecheck snapshot tx.outageId → tx.recoveredAt + 120000 ≤ s.clock := by
    rintro ⟨monitorId, row, present, awaiting⟩
    have member : monitorId ∈ tx.pending := by
      rw [pending, observations]
      refine List.mem_map.2 ⟨(monitorId, row), List.mem_filter.2 ⟨?_, awaiting⟩, rfl⟩
      refine List.mem_map.2 ⟨((tx.outageId, monitorId), row), ?_, rfl⟩
      exact (Table.mem_select _ _ _ _).2 ⟨present, decide_eq_true rfl⟩
    rw [SummaryTx.reports, Bool.or_eq_true, List.isEmpty_iff] at reports
    rcases reports with nothing | late
    · rw [nothing] at member
      cases member
    · exact Nat.le_trans (of_decide_eq_true late) law.past
  refine ⟨snapshot, since, ?_⟩
  constructor
  case seen => exact seen
  case recovered => exact law.recovered
  case unsummarized => exact ⟨law.stored, law.unsummarized⟩
  case summarized =>
    refine ⟨tx.now, ?_⟩
    simp only [SummaryTx.report]
    rw [Table.get_update_key_self, law.stored, Option.map_some]
  case fresh => exact inv.unnotified stored
  case created =>
    intro channelId
    have listed : (∃ channel, (channelId, channel) ∈ tx.channels) ↔
        channelId ∈ tx.outage.channelIds ∧ channelLive snapshot.core.db channelId = true := by
      simp only [channels, Table.mem_select, Bool.and_eq_true, decide_eq_true_eq]
      constructor
      · rintro ⟨channel, found, chosen, live⟩
        rw [channelLive, found]
        exact ⟨chosen, live⟩
      · rintro ⟨chosen, live⟩
        unfold channelLive at live
        split at live
        · rename_i channel found
          exact ⟨channel, found, chosen, live⟩
        · cases live
    rw [← listed]
    constructor
    · intro present
      obtain ⟨row, found⟩ := Option.isSome_iff_exists.1 present
      obtain ⟨channel, member, -⟩ := notify_fresh (inv.unnotified stored) found
      exact ⟨channel, member⟩
    · rintro ⟨channel, member⟩
      simp only [SummaryTx.report]
      rw [notify_upserts]
      exact Table.upsert_all_stores (mem_notices.2 ⟨rfl, channel, member, rfl⟩)
  case counts =>
    intro channelId row found
    obtain ⟨channel, -, built⟩ := notify_fresh (inv.unnotified stored) found
    have settled : ∀ entry ∈ observationsOf snapshot.net.observations tx.outageId,
        entry.2.Settled := by
      rw [← observations]
      exact law.settled
    rw [← built, SummaryTx.recovery]
    dsimp only
    rw [pending, List.length_map, observations]
    exact summary_counts_total snapshot.core.db.monitors settled
  case observations =>
    rw [← observations]
    apply observations_length law.observed
    rw [observations]
    exact observations_nodup snapshot.net tx.outageId
  case waited => exact waits
  case stillWaited =>
    rintro ⟨monitorId, row, monitor, found, awaiting, seen, isActive⟩
    -- the lock of the outage has kept new observations away since the snapshot
    have registered : observed s.net tx.outageId monitorId = true := by
      rw [observed, found]
      rfl
    obtain ⟨⟨id, before⟩, member, rfl⟩ :=
      List.mem_map.1 ((law.observed monitorId).1 registered)
    rw [observations] at member
    have present := mem_observations_entry member
    exact waits ⟨id, before, present, grown.pending bounded present seen isActive found awaiting⟩

/-- The commits of summaries of one outage: none as long as it is not summarized, one then. -/
theorem reports_at_most_once
    (run : Transition.Run (step config) NetworkSystem.initial visited s) (outageId : OutageId) :
    visited.countP (fun pair => pair.1.reportsOn outageId pair.2) ≤ 1 ∧
      (visited.countP (fun pair => pair.1.reportsOn outageId pair.2) ≠ 0 →
        ∃ outage, s.net.outages.get outageId = some outage ∧
          outage.summarizedAt.isSome = true) := by
  induction run with
  | start => simp
  | @next last after visited a run taken ih =>
      obtain ⟨bound, summarized⟩ := ih
      rw [List.countP_append, List.countP_singleton]
      by_cases reports : last.reportsOn outageId a = true
      · obtain ⟨m, tx, resets, -, stored, rfl, reporting, rfl⟩ := reports_on_cases taken reports
        have law := (summary_invariant_run run).summaries m tx stored
        obtain ⟨snapshot, -, reported⟩ := reported_of_commit run resets stored reporting
        have none : visited.countP (fun pair => pair.1.reportsOn tx.outageId pair.2) = 0 := by
          by_contra some
          obtain ⟨outage, present, held⟩ := summarized some
          rw [law.stored, Option.some.injEq] at present
          rw [← present, law.unsummarized] at held
          cases held
        rw [none, if_pos reports]
        refine ⟨Nat.le_refl _, fun _ => ?_⟩
        obtain ⟨now, found⟩ := reported.summarized
        exact ⟨_, found, rfl⟩
      · rw [if_neg reports, Nat.add_zero]
        refine ⟨bound, fun some => ?_⟩
        obtain ⟨outage, present, held⟩ := summarized some
        obtain ⟨next, found, kept⟩ := step_outage_kept taken present
        exact ⟨next, found, kept.summarized held⟩

/-- Every outage is summarized at most once. The commit of its summary notifies the channels
that its snapshot shows as live and chosen, and no other step notifies any. -/
theorem one_summary_per_outage
    (run : Transition.Run (step config) NetworkSystem.initial visited s) (outageId : OutageId) :
    visited.countP (fun pair => pair.1.reportsOn outageId pair.2) ≤ 1 ∧
      ∀ a after, step config s a = some after →
        (s.reportsOn outageId a = true → ∃ m snapshot outage recoveredAt,
          a = .commitSummarize m ∧ Since visited m outageId snapshot ∧
            Reported snapshot s after outageId outage recoveredAt) ∧
        (s.reportsOn outageId a = false → ∀ channelId,
          after.net.recoveries.get (outageId, channelId) =
            s.net.recoveries.get (outageId, channelId)) := by
  refine ⟨(reports_at_most_once run outageId).1, ?_⟩
  intro a after taken
  refine ⟨?_, step_recoveries taken⟩
  intro reports
  obtain ⟨m, tx, resets, rfl, stored, rfl, reporting, rfl⟩ := reports_on_cases taken reports
  obtain ⟨snapshot, since, reported⟩ := reported_of_commit run resets stored reporting
  exact ⟨m, snapshot, tx.outage, tx.recoveredAt, rfl, since, reported⟩

end Run

namespace Script

/-- One worker ties a result to an outage that another one has seen end. The outage has chosen
channel 1. -/
def chosenChannel : List Action :=
  createMonitor 61257 ++ [.saveSettings { references with channelIds := [1] }] ++
    [.tick 61257] ++ probe 1 2 offline ++ record 1 1 ++ [.tick 61500] ++ probe 2 1 online ++
    record 2 2 ++ [.tick 61600] ++ startCheck 1 61600 ++ [.assess 1 2 (unanswered 61600)] ++
    persistLate

end Script

/-- The monitor is not checked again; the summary reports it as pending two minutes after the
end. -/
theorem one_summary_sample :
    ∃ visited s after snapshot outage recoveredAt,
      Transition.Run (step Script.config) NetworkSystem.initial visited s ∧
        step Script.config s (.commitSummarize 1) = some after ∧
        Reported snapshot s after 1 outage recoveredAt ∧
        (after.net.recoveries.get (1, 1)).map NetworkRecoveryRow.counts = some ⟨0, 0, 1, 0⟩ := by
  have passed : Transition.replaySatisfies (step Script.config) NetworkSystem.initial
      (Script.chosenChannel ++ [.tick 181500, .beginSummarize 1 1, .resetPending 1])
      (fun _ s => s.reportsOn 1 (.commitSummarize 1) &&
        (step Script.config s (.commitSummarize 1)).any fun after =>
          (after.net.recoveries.get (1, 1)).map NetworkRecoveryRow.counts =
            some ⟨0, 0, 1, 0⟩) = true := by decide +kernel
  obtain ⟨visited, s, run, tested⟩ := Transition.run_of_replay_satisfies passed
  rw [Bool.and_eq_true] at tested
  obtain ⟨reports, committed⟩ := tested
  obtain ⟨after, taken, notified⟩ := (Option.any_eq_true _ _).1 committed
  obtain ⟨-, steps⟩ := one_summary_per_outage run 1
  obtain ⟨m, snapshot, outage, recoveredAt, -, -, reported⟩ := (steps _ after taken).1 reports
  exact ⟨visited, s, after, snapshot, outage, recoveredAt, run, taken, reported,
    of_decide_eq_true notified⟩

end LinkAlive.Network
