import LinkAlive.Outbox.CommonSteps

/-!
# Edits of bindings during an incident

Two runs take the same steps, except that one of them also edits the channels of the monitor
while its incident is open. The rows of the incident are the same in both, as long as the
edits have left the channels alone whose bindings are read again: by the resolution, for its
DOWN rows, and by the late success of a DOWN row. Those two do not keep to the snapshot that
the incident took when it was opened.
-/

namespace LinkAlive

open Relational Transition

set_option autoImplicit false

namespace System

def incidentOpen (s : System) (incidentId : IncidentId) (monitorId : MonitorId) : Bool :=
  (s.db.incidents.get incidentId).any fun row =>
    row.monitorId = monitorId && row.status = .opened

def editsDuring (s : System) (incidentId : IncidentId) (monitorId : MonitorId) (a : Action) :
    Bool :=
  s.incidentOpen incidentId monitorId && s.editsBindings monitorId a

/-- A step about the notifications of other incidents, once the incident is there. -/
def stepsElsewhere (s : System) (incidentId : IncidentId) (a : Action) : Bool :=
  (s.db.incidents.get incidentId).isSome && s.notifiesOthers incidentId a

def channelsLive (s : System) : Bool := s.db.channels.every fun _ channel => channel.isLive

end System

/-- The edits are added while all channels stay enabled. -/
def onlyEdits (incidentId : IncidentId) (monitorId : MonitorId) : Weaving System Action where
  leftAlone _ _ := false
  rightAlone s a := s.channelsLive && s.editsDuring incidentId monitorId a
  agreed left right _ := left.channelsLive && right.channelsLive

/-- The edits are added and the bindings that are read again are the same. -/
def unreadEdits (incidentId : IncidentId) (monitorId : MonitorId) : Weaving System Action where
  leftAlone _ _ := false
  rightAlone s a := s.editsDuring incidentId monitorId a
  agreed left right a := sameReads incidentId left right a

/-- Besides, each run may go on with the notifications of other incidents, which the edits do
change. -/
def carefulEdits (incidentId : IncidentId) (monitorId : MonitorId) : Weaving System Action where
  leftAlone s a := s.stepsElsewhere incidentId a
  rightAlone s a := s.stepsElsewhere incidentId a || s.editsDuring incidentId monitorId a
  agreed left right a := sameReads incidentId left right a

def OutboxRow.notice (row : OutboxRow) :
    NotificationEventType × Sealed ChannelConfig × NotificationOutboxStatus :=
  (row.eventType, row.encryptedConfigSnapshot, row.status)

section Runs

variable {first left right leftAfter rightAfter : System} {incidentId : IncidentId}
  {monitorId : MonitorId} {a : Action}

/-- What the two runs have in common. -/
structure Paired (incidentId : IncidentId) (left right : System) : Prop where
  leftReachable : Reachable left
  rightReachable : Reachable right
  alike : left = right ∨
    (left.db.incidents.get incidentId).isSome = true ∧ Alike incidentId left right

theorem incident_stays {s after : System} (reachable : Reachable s) (taken : step s a = some after)
    (present : (s.db.incidents.get incidentId).isSome = true) :
    (after.db.incidents.get incidentId).isSome = true := by
  obtain ⟨row, stored⟩ := Option.isSome_iff_exists.1 present
  obtain ⟨next, found, -⟩ :=
    step_incident_move (ledger_invariant_reachable reachable) (step_cases taken) stored
  rw [found]
  rfl

theorem Paired.common (paired : Paired incidentId left right)
    (agreed : sameReads incidentId left right a = true) (taken : step left a = some leftAfter)
    (alsoTaken : step right a = some rightAfter) : Paired incidentId leftAfter rightAfter := by
  refine ⟨paired.leftReachable.step_closed taken, paired.rightReachable.step_closed alsoTaken, ?_⟩
  rcases paired.alike with rfl | ⟨present, alike⟩
  · rw [taken, Option.some.injEq] at alsoTaken
    exact Or.inl alsoTaken
  · exact Or.inr ⟨incident_stays paired.leftReachable taken present,
      common_step alike (sound_of_reachable paired.leftReachable)
        (sound_of_reachable paired.rightReachable) present (step_cases taken)
        (step_cases alsoTaken) agreed⟩

theorem Paired.alone {s after : System} (reachable : Reachable s)
    (present : (s.db.incidents.get incidentId).isSome = true) (silent : s.Silent incidentId a)
    (taken : step s a = some after) :
    (after.db.incidents.get incidentId).isSome = true ∧ Alike incidentId s after :=
  ⟨incident_stays reachable taken present,
    silent_step (ledger_invariant_reachable reachable) (attempt_invariant_reachable reachable)
      (step_cases taken) silent⟩

theorem Paired.leftAlone (paired : Paired incidentId left right)
    (elsewhere : left.stepsElsewhere incidentId a = true) (taken : step left a = some leftAfter) :
    Paired incidentId leftAfter right := by
  rw [System.stepsElsewhere, Bool.and_eq_true] at elsewhere
  obtain ⟨later, moved⟩ := Paired.alone paired.leftReachable elsewhere.1 (Or.inl elsewhere.2) taken
  refine ⟨paired.leftReachable.step_closed taken, paired.rightReachable, Or.inr ⟨later, ?_⟩⟩
  rcases paired.alike with rfl | ⟨-, alike⟩
  · exact moved.symm
  · exact moved.symm.trans alike

theorem Paired.rightAlone (paired : Paired incidentId left right)
    (alone : (right.stepsElsewhere incidentId a ||
      right.editsDuring incidentId monitorId a) = true)
    (taken : step right a = some rightAfter) : Paired incidentId left rightAfter := by
  have silent : (right.db.incidents.get incidentId).isSome = true ∧
      right.Silent incidentId a := by
    rw [Bool.or_eq_true, System.stepsElsewhere, System.editsDuring, Bool.and_eq_true,
      Bool.and_eq_true] at alone
    rcases alone with ⟨present, elsewhere⟩ | ⟨isOpen, edits⟩
    · exact ⟨present, Or.inl elsewhere⟩
    · obtain ⟨row, stored, -⟩ := (Option.any_eq_true _ _).1 isOpen
      exact ⟨Option.isSome_iff_exists.2 ⟨row, stored⟩, Or.inr ⟨monitorId, edits⟩⟩
  obtain ⟨-, moved⟩ := Paired.alone paired.rightReachable silent.1 silent.2 taken
  refine ⟨paired.leftReachable, paired.rightReachable.step_closed taken, Or.inr ?_⟩
  rcases paired.alike with rfl | ⟨present, alike⟩
  · exact ⟨silent.1, moved⟩
  · exact ⟨present, alike.trans moved⟩

theorem paired_of_woven {weaving : Weaving System Action} (reachable : Reachable first)
    (woven : Woven step weaving first left right)
    (agreed : ∀ left right a, weaving.agreed left right a = true →
      sameReads incidentId left right a = true)
    (leftAlone : ∀ s a, weaving.leftAlone s a = true → s.stepsElsewhere incidentId a = true)
    (rightAlone : ∀ s a, weaving.rightAlone s a = true →
      (s.stepsElsewhere incidentId a || s.editsDuring incidentId monitorId a) = true) :
    Paired incidentId left right := by
  apply woven.related (Paired incidentId)
  · exact ⟨reachable, reachable, Or.inl rfl⟩
  · exact fun _ _ _ _ _ paired same taken alsoTaken =>
      paired.common (agreed _ _ _ same) taken alsoTaken
  · exact fun _ _ _ _ paired alone taken => paired.leftAlone (leftAlone _ _ alone) taken
  · exact fun _ _ _ _ paired alone taken => paired.rightAlone (rightAlone _ _ alone) taken

theorem Paired.same_row (paired : Paired incidentId left right) {key : OutboxKey}
    (own : key.incidentId = incidentId) : left.db.outbox.get key = right.db.outbox.get key := by
  rcases paired.alike with same | ⟨-, alike⟩
  · rw [same]
  · exact alike.db.row (decide_eq_true own)

/-- Edits that leave alone the bindings that are read again change no row of the incident. -/
theorem binding_edits_affect_next_incident (reachable : Reachable first)
    (woven : Woven step (carefulEdits incidentId monitorId) first left right) {key : OutboxKey}
    (own : key.incidentId = incidentId) : left.db.outbox.get key = right.db.outbox.get key := by
  have paired : Paired incidentId left right :=
    paired_of_woven reachable woven (fun _ _ _ same => same) (fun _ _ alone => alone)
      (fun _ _ alone => alone)
  exact paired.same_row own

/-- An edit during an incident, of bindings that are not read again, only affects the next
incident. -/
theorem edits_wait_for_next_incident (reachable : Reachable first)
    (woven : Woven step (unreadEdits incidentId monitorId) first left right) {key : OutboxKey}
    (own : key.incidentId = incidentId) :
    (left.db.outbox.get key).map OutboxRow.notice =
      (right.db.outbox.get key).map OutboxRow.notice := by
  have paired : Paired incidentId left right := by
    apply paired_of_woven reachable woven
    · exact fun left right a same => same
    · intro s a alone
      cases alone
    · intro s a alone
      exact Bool.or_eq_true_iff.2 (Or.inr alone)
  rw [paired.same_row own]

end Runs

namespace Script

/-- Both runs take these steps. -/
def together (actions : List Action) : List (Taker × Action) :=
  actions.map fun a => (.both, a)

/-- Only the second run takes these. -/
def added (actions : List Action) : List (Taker × Action) :=
  actions.map fun a => (.rightRun, a)

/-- Monitor 1 is bound to some of the channels 1 and 2, and its incident 1 is open. -/
def downOn (channelIds : List ChannelId) : List Action :=
  [.createChannel 1 "ops" channelConfig, .createChannel 2 "dev" channelConfig,
    .beginMonitor 0 1 (.create (monitorInput channelIds)) 0 0, .commit 0] ++ failingCheck 1 1 0

/-- A check that resolves the incident with one DOWN row that nobody has tried to send. -/
def recoverUnsent : List Action :=
  startCheck 2 1 60000 ++ beginResult 0 2 .success 60000 ++
    [.resolve 0, .resolve 0, .resolve 0, .commit 0]

def recoverBothUnsent : List Action :=
  startCheck 2 1 60000 ++ beginResult 0 2 .success 60000 ++
    [.resolve 0, .resolve 0, .resolve 0, .resolve 0, .resolve 0, .commit 0]

end Script

theorem woven_of_script (weaving : Weaving System Action) (labels : List (Taker × Action))
    (test : System → System → Bool)
    (passed : ((replayWoven step weaving System.initial System.initial labels).any fun pair =>
      test pair.1 pair.2) = true) :
    ∃ left right, Woven step weaving System.initial left right ∧ test left right = true := by
  obtain ⟨⟨left, right⟩, replayed, tested⟩ := (Option.any_eq_true _ _).1 passed
  exact ⟨left, right, woven_of_replay .start replayed, tested⟩

/-- Both channels got the DOWN event. Both runs then bind channel 1 alone; the second one binds
channel 2 instead before the incident is resolved. -/
theorem binding_edit_moves_recovery :
    ¬ ∀ (incidentId : IncidentId) (monitorId : MonitorId) (first left right : System),
      Reachable first → Woven step (onlyEdits incidentId monitorId) first left right →
        ∀ key : OutboxKey, key.incidentId = incidentId →
          (left.db.outbox.get key).map OutboxRow.notice =
            (right.db.outbox.get key).map OutboxRow.notice := by
  intro always
  have reachable : Reachable System.initial := ⟨[], .start⟩
  obtain ⟨left, right, woven, tested⟩ := woven_of_script (onlyEdits 1 1)
    (Script.together (Script.downOn [1, 2] ++ Script.administer (Script.rebind [1]) 1000) ++
      Script.added (Script.administer (Script.rebind [2]) 2000) ++
      Script.together Script.recoverUnsent)
    (fun left right => (left.db.outbox.get ⟨1, 1, 2⟩).isSome &&
      (right.db.outbox.get ⟨1, 1, 2⟩).isNone) (by decide +kernel)
  rw [Bool.and_eq_true, Option.isNone_iff_eq_none] at tested
  have same := always 1 1 _ left right reachable woven ⟨1, 1, 2⟩ rfl
  rw [tested.2] at same
  rw [Option.map_none, Option.map_eq_none_iff] at same
  rw [same] at tested
  cases tested.1

/-- The second run adds channel 2 during the incident, which only the next incident notices. -/
theorem binding_edits_sample :
    ∃ left right : System, left.db.bindings.get (1, 2) = none ∧
      (right.db.bindings.get (1, 2)).isSome = true ∧
      (left.db.outbox.get ⟨1, 1, 2⟩).isSome = true ∧
      left.db.outbox.get ⟨1, 1, 2⟩ = right.db.outbox.get ⟨1, 1, 2⟩ := by
  have reachable : Reachable System.initial := ⟨[], .start⟩
  obtain ⟨left, right, woven, tested⟩ := woven_of_script (carefulEdits 1 1)
    (Script.together (Script.downOn [1]) ++
      Script.added (Script.administer (Script.rebind [1, 2]) 2000) ++
      Script.together Script.recoverUnsent)
    (fun left right => (left.db.bindings.get (1, 2)).isNone &&
      (right.db.bindings.get (1, 2)).isSome && (left.db.outbox.get ⟨1, 1, 2⟩).isSome)
    (by decide +kernel)
  rw [Bool.and_eq_true, Bool.and_eq_true, Option.isNone_iff_eq_none] at tested
  exact ⟨left, right, tested.1.1, tested.1.2, tested.2,
    binding_edits_affect_next_incident reachable woven rfl⟩

/-- Channel 2 is taken away and bound again while the incident is open; both channels get their
recovery. -/
theorem edits_wait_for_next_incident_sample :
    ∃ left right : System, (left.db.outbox.get ⟨1, 2, 2⟩).isSome = true ∧
      (left.db.outbox.get ⟨1, 2, 2⟩).map OutboxRow.notice =
        (right.db.outbox.get ⟨1, 2, 2⟩).map OutboxRow.notice := by
  have reachable : Reachable System.initial := ⟨[], .start⟩
  obtain ⟨left, right, woven, tested⟩ := woven_of_script (unreadEdits 1 1)
    (Script.together (Script.downOn [1, 2]) ++
      Script.added (Script.administer (Script.rebind [1]) 1000) ++
      Script.added (Script.administer (Script.rebind [1, 2]) 2000) ++
      Script.together Script.recoverBothUnsent)
    (fun left _ => (left.db.outbox.get ⟨1, 2, 2⟩).isSome) (by decide +kernel)
  exact ⟨left, right, tested, edits_wait_for_next_incident reachable woven rfl⟩

end LinkAlive
