import LinkAlive.Network.Cases
import LinkAlive.Network.Script

/-!
# One open outage for an observer

An inspection decides about the outage that its view calls active, and commits under the
lock of its observer. The view is older than the lock: another inspection of the same
observer may have committed in between.
-/

namespace LinkAlive.Network

set_option autoImplicit false

open Relational

def activeOutage (net : NetworkDatabase) (observerId : ObserverId) : Option OutageId :=
  (net.observers.get observerId).bind NetworkObserverRow.activeOutageId

/-- At most one outage of the observer is open, the observer calls it active, and no outage
is both recovered and canceled. -/
structure OneOpenOutage (net : NetworkDatabase) (observerId : ObserverId) : Prop where
  atMostOne : ∀ first second left right, net.outages.get first = some left →
    net.outages.get second = some right → left.observerId = observerId →
      right.observerId = observerId → left.isOpen = true → right.isOpen = true → first = second
  active : ∀ id, activeOutage net observerId = some id ↔
    ∃ outage, net.outages.get id = some outage ∧ outage.observerId = observerId ∧
      outage.isOpen = true
  settled : ∀ id outage, net.outages.get id = some outage → outage.observerId = observerId →
    outage.recoveredAt = none ∨ outage.canceledAt = none

/-- The outage of the view is still the active one; or there is none any more and the view's
outage ended in the way in which the inspection would end it. -/
def viewHolds (net : NetworkDatabase) (inspection : Inspection) : Bool :=
  match inspection.stage with
  | .written probe observer _ _ =>
      decide (observer.activeOutageId = activeOutage net inspection.observerId) ||
        ((activeOutage net inspection.observerId).isNone &&
          match probe.outageWrite observer.activeOutageId with
          | .recover id => (net.outages.get id).any fun outage => outage.canceledAt.isNone
          | .cancel id => (net.outages.get id).any fun outage => outage.recoveredAt.isNone
          | .none | .create => false)
  | _ => true

def staleView (s : NetworkSystem) : Action → Bool
  | .commitInspection i => (s.inspections.get i).any fun inspection => !viewHolds s.net inspection
  | _ => false

def InspectionStage.viewed : InspectionStage → Option OutageId
  | .opened _ view => view.bind NetworkObserverRow.activeOutageId
  | .locked _ observer | .written _ observer _ _ => observer.activeOutageId
  | .reading _ | .probing _ _ | .probed _ | .finished _ => none

/-- The observer's active outage is its open one, and ended outages ended in one way. -/
structure OutagesAgree (active : ObserverId → Option OutageId)
    (outages : Table OutageId NetworkOutageRow) : Prop where
  active : ∀ observerId id, active observerId = some id ↔
    ∃ outage, outages.get id = some outage ∧ outage.observerId = observerId ∧
      outage.isOpen = true
  settled : ∀ id outage, outages.get id = some outage →
    outage.recoveredAt = none ∨ outage.canceledAt = none

structure OutageInvariant (s : NetworkSystem) : Prop where
  agree : OutagesAgree (activeOutage s.net) s.net.outages
  views : ∀ i inspection id, s.inspections.get i = some inspection →
    inspection.stage.viewed = some id → ∃ outage, s.net.outages.get id = some outage ∧
      outage.observerId = inspection.observerId

theorem OutagesAgree.oneOpen {net : NetworkDatabase}
    (agree : OutagesAgree (activeOutage net) net.outages) (observerId : ObserverId) :
    OneOpenOutage net observerId where
  atMostOne first second left right storedLeft storedRight ownLeft ownRight openLeft openRight := by
    have firstActive := (agree.active observerId first).2 ⟨left, storedLeft, ownLeft, openLeft⟩
    have secondActive :=
      (agree.active observerId second).2 ⟨right, storedRight, ownRight, openRight⟩
    rw [firstActive] at secondActive
    exact Option.some.inj secondActive
  active := agree.active observerId
  settled id outage stored _ := agree.settled id outage stored

section Commit

variable {active : ObserverId → Option OutageId} {outages : Table OutageId NetworkOutageRow}
  {observerId : ObserverId}

/-- The observer's row names another outage; the others keep theirs. -/
def reassign (active : ObserverId → Option OutageId) (observerId : ObserverId)
    (next : Option OutageId) (other : ObserverId) : Option OutageId :=
  if other = observerId then next else active other

theorem reassign_same (active : ObserverId → Option OutageId) (observerId : ObserverId) :
    reassign active observerId (active observerId) = active := by
  funext other
  unfold reassign
  split
  · rename_i same
    rw [same]
  · rfl

theorem OutagesAgree.create (agree : OutagesAgree active outages) (idle : active observerId = none)
    {newId : OutageId} (fresh : outages.get newId = none) {outage : NetworkOutageRow}
    (own : outage.observerId = observerId) (ongoing : outage.isOpen = true) :
    OutagesAgree (reassign active observerId (some newId)) (outages.put newId outage) where
  active other id := by
    unfold reassign
    split
    · rename_i same
      subst same
      constructor
      · intro named
        cases named
        exact ⟨outage, by simp [Table.get_put], own, ongoing⟩
      · rintro ⟨row, stored, ofOther, isOpen⟩
        rw [Table.get_put] at stored
        split at stored
        · rename_i same
          rw [same]
        · have named := (agree.active other id).2 ⟨row, stored, ofOther, isOpen⟩
          rw [idle] at named
          cases named
    · rename_i apart
      rw [agree.active other id]
      constructor
      · rintro ⟨row, stored, rest⟩
        refine ⟨row, ?_, rest⟩
        rw [Table.get_put, if_neg]
        · exact stored
        · rintro rfl
          rw [fresh] at stored
          cases stored
      · rintro ⟨row, stored, ofOther, isOpen⟩
        rw [Table.get_put] at stored
        split at stored
        · cases stored
          exact absurd (ofOther.symm.trans own) apart
        · exact ⟨row, stored, ofOther, isOpen⟩
  settled id row stored := by
    rw [Table.get_put] at stored
    split at stored
    · cases stored
      simp only [NetworkOutageRow.isOpen, Bool.and_eq_true, Option.isNone_iff_eq_none] at ongoing
      exact Or.inl ongoing.1
    · exact agree.settled id row stored

theorem OutagesAgree.close (agree : OutagesAgree active outages) {target : OutageId}
    {outage : NetworkOutageRow} (stored : outages.get target = some outage)
    (own : outage.observerId = observerId)
    (current : active observerId = some target ∨ active observerId = none)
    {change : NetworkOutageRow → NetworkOutageRow}
    (ended : (change outage).isOpen = false)
    (once : (change outage).recoveredAt = none ∨ (change outage).canceledAt = none) :
    OutagesAgree (reassign active observerId none) (outages.updateKey target change) where
  active other id := by
    have others : ∀ row, (outages.updateKey target change).get id = some row → row.isOpen = true →
        id ≠ target ∧ outages.get id = some row := by
      intro row found isOpen
      rw [Table.get_update_key] at found
      split at found
      · rename_i same
        subst same
        rw [stored, Option.map_some, Option.some.injEq] at found
        rw [← found, ended] at isOpen
        cases isOpen
      · rename_i apart
        exact ⟨apart, found⟩
    unfold reassign
    split
    · rename_i same
      subst same
      constructor
      · intro named
        cases named
      · rintro ⟨row, found, ofOther, isOpen⟩
        obtain ⟨apart, found⟩ := others row found isOpen
        have named := (agree.active other id).2 ⟨row, found, ofOther, isOpen⟩
        rcases current with same | none
        · rw [same] at named
          exact absurd (Option.some.inj named).symm apart
        · rw [none] at named
          cases named
    · rename_i apart
      rw [agree.active other id]
      constructor
      · rintro ⟨row, found, ofOther, isOpen⟩
        refine ⟨row, ?_, ofOther, isOpen⟩
        rw [Table.get_update_key_other]
        · exact found
        · rintro rfl
          rw [stored] at found
          cases found
          exact apart (ofOther.symm.trans own)
      · rintro ⟨row, found, ofOther, isOpen⟩
        exact ⟨row, (others row found isOpen).2, ofOther, isOpen⟩
  settled id row found := by
    rw [Table.get_update_key] at found
    split at found
    · rename_i same
      subst same
      rw [stored, Option.map_some, Option.some.injEq] at found
      exact found ▸ once
    · exact agree.settled id row found

omit active outages observerId in
theorem outage_write_reads (probe : Probe) (snapshot : Option OutageId) :
    match probe.outageWrite snapshot with
    | .none => True
    | .create => snapshot = none
    | .recover id | .cancel id => snapshot = some id := by
  cases status : probe.status <;> cases snapshot <;> simp [Probe.outageWrite, status]

omit active outages observerId in
theorem outage_write_target {probe : Probe} {snapshot : Option OutageId} {id : OutageId}
    (target : (probe.outageWrite snapshot).target = some id) : snapshot = some id := by
  have reads := outage_write_reads probe snapshot
  cases write : probe.outageWrite snapshot <;> rw [write] at target reads <;> cases target
  · exact reads
  · exact reads

theorem OutagesAgree.inspection (agree : OutagesAgree active outages) {probe : Probe}
    {snapshot : Option OutageId} {newId : OutageId} {next : Table OutageId NetworkOutageRow}
    (own : ∀ id, snapshot = some id → ∃ outage, outages.get id = some outage ∧
      outage.observerId = observerId)
    (holds : snapshot = active observerId ∨ (active observerId = none ∧
      match probe.outageWrite snapshot with
      | .recover id => (outages.get id).any (fun outage => outage.canceledAt.isNone) = true
      | .cancel id => (outages.get id).any (fun outage => outage.recoveredAt.isNone) = true
      | .none | .create => False))
    (written : (probe.outageWrite snapshot).apply outages observerId probe newId = some next) :
    OutagesAgree (reassign active observerId ((probe.outageWrite snapshot).active newId snapshot))
      next := by
  -- the row that the write ends, with what its view or the latest row says about it
  have ending : ∀ id, (probe.outageWrite snapshot).target = some id → ∃ outage,
      outages.get id = some outage ∧ outage.observerId = observerId ∧
        (active observerId = some id ∨ active observerId = none) := by
    intro id target
    have viewed := outage_write_target target
    obtain ⟨outage, stored, owner⟩ := own id viewed
    refine ⟨outage, stored, owner, ?_⟩
    rcases holds with same | ⟨none, -⟩
    · exact Or.inl (same.symm.trans viewed)
    · exact Or.inr none
  have unsettled : ∀ id outage, active observerId = some id → outages.get id = some outage →
      outage.recoveredAt = none ∧ outage.canceledAt = none := by
    intro id outage named stored
    obtain ⟨row, held, -, isOpen⟩ := (agree.active observerId id).1 named
    rw [stored] at held
    cases held
    simpa [NetworkOutageRow.isOpen] using isOpen
  have reads := outage_write_reads probe snapshot
  cases write : probe.outageWrite snapshot with
  | none =>
      rw [write] at written holds
      cases written
      have same : snapshot = active observerId := holds.resolve_right fun impossible => impossible.2
      rw [OutageWrite.active, same, reassign_same]
      exact agree
  | create =>
      rw [write] at written holds reads
      obtain ⟨fresh, rfl⟩ := (Table.insert_new_eq_some _ _ _ _).1 written
      have same : snapshot = active observerId := holds.resolve_right fun impossible => impossible.2
      have idle : active observerId = none := same.symm.trans reads
      exact agree.create idle fresh rfl rfl
  | recover id =>
      rw [write] at written holds ending reads
      obtain ⟨outage, stored, owner, current⟩ := ending id rfl
      simp only [OutageWrite.apply, stored, Option.isSome_some, if_true, Option.some.injEq]
        at written
      subst written
      have kept : outage.canceledAt = none := by
        rcases current with named | none
        · exact (unsettled id outage named stored).2
        · rcases holds with same | ⟨-, notCanceled⟩
          · have viewed := reads.symm.trans (same.trans none)
            cases viewed
          · simpa [stored] using notCanceled
      exact agree.close stored owner current rfl (Or.inr kept)
  | cancel id =>
      rw [write] at written holds ending reads
      obtain ⟨outage, stored, owner, current⟩ := ending id rfl
      simp only [OutageWrite.apply, stored, Option.isSome_some, if_true, Option.some.injEq]
        at written
      subst written
      have kept : outage.recoveredAt = none := by
        rcases current with named | none
        · exact (unsettled id outage named stored).1
        · rcases holds with same | ⟨-, notRecovered⟩
          · have viewed := reads.symm.trans (same.trans none)
            cases viewed
          · simpa [stored] using notRecovered
      have ended : (outage.canceled probe.checkedAt).isOpen = false := by
        simp [NetworkOutageRow.isOpen, NetworkOutageRow.canceled]
      exact agree.close stored owner current ended (Or.inl kept)

end Commit

theorem OutageInvariant.of_same {s after : NetworkSystem} (inv : OutageInvariant s)
    (outages : after.net.outages = s.net.outages)
    (observers : after.net.observers = s.net.observers)
    (views : ∀ i inspection id, after.inspections.get i = some inspection →
      inspection.stage.viewed = some id → ∃ outage, s.net.outages.get id = some outage ∧
        outage.observerId = inspection.observerId) : OutageInvariant after where
  agree := by
    have same : activeOutage after.net = activeOutage s.net := by
      funext observerId
      rw [activeOutage, activeOutage, observers]
    rw [same, outages]
    exact inv.agree
  views := by
    rw [outages]
    exact views

theorem advance_viewed {s : NetworkSystem} (inv : OutageInvariant s) {i : InspectionId}
    {inspection : Inspection} (stored : s.inspections.get i = some inspection) {a : Action}
    {stage : InspectionStage} (advance : Advance s i inspection a stage) {id : OutageId}
    (viewed : stage.viewed = some id) :
    ∃ outage, s.net.outages.get id = some outage ∧
      outage.observerId = inspection.observerId := by
  cases advance with
  | startProbe => cases viewed
  | finishProbe => cases viewed
  | superseded => cases viewed
  | opened probe _ _ =>
      obtain ⟨outage, held, owner, -⟩ :=
        (inv.agree.active inspection.observerId id).1 viewed
      exact ⟨outage, held, owner⟩
  | overtaken => cases viewed
  | locked probe view stage free present =>
      apply inv.views i inspection id stored
      rw [stage]
      cases view with
      | none => cases viewed
      | some observer => exact viewed
  | written probe observer newId resets stage free monitors =>
      apply inv.views i inspection id stored
      rw [stage]
      exact viewed

theorem viewed_before {config : NetworkConfig} {s after : NetworkSystem} {a : Action}
    (inv : OutageInvariant s) (stepped : Stepped config s a after) {i : InspectionId}
    {inspection : Inspection} {id : OutageId} (found : after.inspections.get i = some inspection)
    (viewed : inspection.stage.viewed = some id) :
    ∃ outage, s.net.outages.get id = some outage ∧
      outage.observerId = inspection.observerId := by
  cases inspection_source stepped found with
  | kept _ stored => exact inv.views i inspection id stored viewed
  | begun => cases viewed
  | advanced before stage stored advance => exact advance_viewed inv stored advance viewed
  | committed => cases viewed

theorem outage_write_kept {write : OutageWrite} {outages next : Table OutageId NetworkOutageRow}
    {observerId : ObserverId} {probe : Probe} {newId : OutageId}
    (written : write.apply outages observerId probe newId = some next) {id : OutageId}
    {outage : NetworkOutageRow} (stored : outages.get id = some outage) :
    ∃ row, next.get id = some row ∧ row.observerId = outage.observerId := by
  have updated : ∀ target (change : NetworkOutageRow → NetworkOutageRow),
      (∀ row, (change row).observerId = row.observerId) →
        ∃ row, (outages.updateKey target change).get id = some row ∧
          row.observerId = outage.observerId := by
    intro target change keeps
    rw [Table.get_update_key, stored]
    split
    · exact ⟨_, rfl, keeps outage⟩
    · exact ⟨outage, rfl, rfl⟩
  cases write with
  | none =>
      cases written
      exact ⟨outage, stored, rfl⟩
  | create =>
      obtain ⟨fresh, rfl⟩ := (Table.insert_new_eq_some _ _ _ _).1 written
      refine ⟨outage, ?_, rfl⟩
      rw [Table.get_put, if_neg]
      · exact stored
      · rintro rfl
        rw [fresh] at stored
        cases stored
  | recover target =>
      simp only [OutageWrite.apply, Option.ite_none_right_eq_some, Option.some.injEq] at written
      obtain ⟨-, rfl⟩ := written
      exact updated target _ fun _ => rfl
  | cancel target =>
      simp only [OutageWrite.apply, Option.ite_none_right_eq_some, Option.some.injEq] at written
      obtain ⟨-, rfl⟩ := written
      exact updated target _ fun _ => rfl

theorem OutageInvariant.commit {s : NetworkSystem} (inv : OutageInvariant s) {i : InspectionId}
    {inspection : Inspection} {probe : Probe} {observer : NetworkObserverRow} {newId : OutageId}
    {resets : List MonitorId} {outages : Table OutageId NetworkOutageRow}
    (stored : s.inspections.get i = some inspection)
    (stage : inspection.stage = .written probe observer newId resets)
    (written : (probe.outageWrite observer.activeOutageId).apply s.net.outages
      inspection.observerId probe newId = some outages)
    (holds : viewHolds s.net inspection = true) {after : NetworkSystem}
    (same : after = s.afterInspection i inspection probe
      ((probe.outageWrite observer.activeOutageId).active newId observer.activeOutageId) resets
        outages)
    (views : ∀ other held id, after.inspections.get other = some held →
      held.stage.viewed = some id → ∃ outage, s.net.outages.get id = some outage ∧
        outage.observerId = held.observerId) : OutageInvariant after where
  agree := by
    have actives : activeOutage (s.afterInspection i inspection probe
        ((probe.outageWrite observer.activeOutageId).active newId observer.activeOutageId) resets
          outages).net =
        reassign (activeOutage s.net) inspection.observerId
          ((probe.outageWrite observer.activeOutageId).active newId observer.activeOutageId) := by
      funext other
      simp only [activeOutage, NetworkSystem.afterInspection, Table.get_put, reassign]
      split <;> rfl
    rw [same, actives]
    apply inv.agree.inspection
    · intro id viewed
      apply inv.views i inspection id stored
      rw [stage]
      exact viewed
    · rw [viewHolds, stage] at holds
      simp only [Bool.or_eq_true, decide_eq_true_eq, Bool.and_eq_true,
        Option.isNone_iff_eq_none] at holds
      rcases holds with same | ⟨idle, ended⟩
      · exact Or.inl same
      · refine Or.inr ⟨idle, ?_⟩
        cases write : probe.outageWrite observer.activeOutageId <;> rw [write] at ended
        · cases ended
        · cases ended
        · exact ended
        · exact ended
    · exact written
  views other held id found viewed := by
    obtain ⟨outage, before, owner⟩ := views other held id found viewed
    obtain ⟨row, kept, unmoved⟩ := outage_write_kept written before
    rw [same]
    exact ⟨row, kept, unmoved.trans owner⟩

theorem OutageInvariant.report {s : NetworkSystem} (inv : OutageInvariant s) {m : SummaryId}
    (tx : SummaryTx) (resets : List MonitorId) (counted : Table OutageId (List MonitorId)) :
    OutageInvariant
      { s.afterSummary m tx resets with net := tx.report s.net, counted := counted } := by
  have rows : ∀ id row, (tx.report s.net).outages.get id = some row → ∃ earlier,
      s.net.outages.get id = some earlier ∧ row.observerId = earlier.observerId ∧
        row.isOpen = earlier.isOpen ∧ row.recoveredAt = earlier.recoveredAt ∧
        row.canceledAt = earlier.canceledAt := by
    intro id row found
    simp only [SummaryTx.report] at found
    rw [Table.get_update_key] at found
    split at found
    · obtain ⟨earlier, held, rfl⟩ := Option.map_eq_some_iff.1 found
      exact ⟨earlier, held, rfl, rfl, rfl, rfl⟩
    · exact ⟨row, found, rfl, rfl, rfl, rfl⟩
  have kept : ∀ id row, s.net.outages.get id = some row → ∃ next,
      (tx.report s.net).outages.get id = some next ∧ next.observerId = row.observerId ∧
        next.isOpen = row.isOpen := by
    intro id row held
    simp only [SummaryTx.report]
    rw [Table.get_update_key, held]
    split
    · exact ⟨_, rfl, rfl, rfl⟩
    · exact ⟨row, rfl, rfl, rfl⟩
  constructor
  case agree =>
    constructor
    case active =>
      intro observerId id
      have before := inv.agree.active observerId id
      refine before.trans ⟨?_, ?_⟩
      · rintro ⟨row, held, owner, isOpen⟩
        obtain ⟨next, found, same, stillOpen⟩ := kept id row held
        exact ⟨next, found, same.trans owner, stillOpen.trans isOpen⟩
      · rintro ⟨row, found, owner, isOpen⟩
        obtain ⟨earlier, held, same, wasOpen, -⟩ := rows id row found
        exact ⟨earlier, held, same.symm.trans owner, wasOpen.symm.trans isOpen⟩
    case settled =>
      intro id row found
      obtain ⟨earlier, held, -, -, recovered, canceled⟩ := rows id row found
      rw [recovered, canceled]
      exact inv.agree.settled id earlier held
  case views =>
    intro i inspection id stored viewed
    obtain ⟨row, held, owner⟩ := inv.views i inspection id stored viewed
    obtain ⟨next, found, same, -⟩ := kept id row held
    exact ⟨next, found, same.trans owner⟩

theorem outage_invariant_step {config : NetworkConfig} {s after : NetworkSystem} {a : Action}
    (inv : OutageInvariant s) (fresh : staleView s a = false)
    (taken : step config s a = some after) : OutageInvariant after := by
  have stepped := step_cases taken
  have views : ∀ i inspection id, after.inspections.get i = some inspection →
      inspection.stage.viewed = some id → ∃ outage, s.net.outages.get id = some outage ∧
        outage.observerId = inspection.observerId :=
    fun _ _ _ found viewed => viewed_before inv stepped found viewed
  cases stepped with
  | ledger _ core after _ _ _ followed =>
      have frame := (follow_frame followed).1
      exact inv.of_same frame.outages frame.observers views
  | committed i inspection probe observer newId resets outages stored stage written =>
      have holds : viewHolds s.net inspection = true := by
        simpa [staleView, stored] using fresh
      exact inv.commit stored stage written holds rfl views
  | summaryReported m tx resets _ _ _ => exact inv.report tx resets _
  | _ => exact inv.of_same rfl rfl views

theorem outage_invariant_initial : OutageInvariant NetworkSystem.initial where
  agree := by
    constructor
    · intro observerId id
      constructor
      · intro named
        cases named
      · rintro ⟨outage, stored, -⟩
        cases stored
    · intro id outage stored
      cases stored
  views i inspection id stored := by cases stored

/-- While every inspection commits under a view that holds, each observer has at most one
open outage, and names it. -/
theorem one_open_outage {config : NetworkConfig} {visited : List (NetworkSystem × Action)}
    {s : NetworkSystem} (run : Transition.Run (step config) NetworkSystem.initial visited s)
    (fresh : Transition.Along (fun state action => staleView state action = false) visited)
    (observerId : ObserverId) : OneOpenOutage s.net observerId := by
  have inv : OutageInvariant s :=
    run.preserves (fun state action => staleView state action = false) OutageInvariant
      outage_invariant_initial
      (fun _ _ _ holds allowed taken => outage_invariant_step holds allowed taken) fresh
  exact inv.agree.oneOpen observerId

namespace Script

/-- One worker finds the outage, then the other one, and one of them its end. -/
def oneAfterTheOther : List Action :=
  setUp ++ probe 2 1 offline ++ record 2 2 ++ probe 3 2 offline ++ record 3 3 ++
    probe 4 1 online ++ record 4 4

/-- Both workers read the observer before either of them locks it. -/
def bothAtOnce : List Action :=
  setUp ++ probe 2 1 offline ++ probe 3 2 offline ++ record 2 2 ++ record 3 3

end Script

theorem one_open_outage_sample :
    ∃ visited s, Transition.Run (step Script.config) NetworkSystem.initial visited s ∧
      OneOpenOutage s.net 1 := by
  obtain ⟨visited, s, run, fresh, -⟩ :=
    Script.run_avoiding Script.oneAfterTheOther staleView (fun _ => true) (by decide +kernel)
  exact ⟨visited, s, run, one_open_outage run fresh 1⟩

/-- Both inspections create an outage. -/
theorem two_open_outages :
    ∃ config s observerId, Reachable config s ∧ ¬ OneOpenOutage s.net observerId := by
  obtain ⟨s, reachable, both⟩ := Script.reachable Script.bothAtOnce
    (fun s => [2, 3].all fun id => (s.net.outages.get id).any
      fun (outage : NetworkOutageRow) => decide (outage.observerId = 1) && outage.isOpen)
    (by decide +kernel)
  simp only [List.all_cons, List.all_nil, Bool.and_true, Bool.and_eq_true, Option.any_eq_true,
    decide_eq_true_eq] at both
  obtain ⟨⟨first, storedFirst, ownFirst, openFirst⟩,
    ⟨second, storedSecond, ownSecond, openSecond⟩⟩ := both
  refine ⟨_, s, 1, reachable, ?_⟩
  intro law
  have same : 2 = 3 :=
    law.atMostOne 2 3 first second storedFirst storedSecond ownFirst ownSecond openFirst openSecond
  cases same

end LinkAlive.Network
