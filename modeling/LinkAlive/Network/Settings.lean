import LinkAlive.Network.Cases
import LinkAlive.Network.Script

/-!
# Saving the network settings

`save` of `apps/api/src/network/network.service.ts`, statement by statement, among the
inspections of any number of guards. The upsert writes only where the row is missing; the row
is locked by its insert or by its update, until the transaction ends. A plain read locks
nothing, and so an inspection may compare the version before a save commits and write after.
-/

namespace LinkAlive.Network.Settings

set_option autoImplicit false

open Relational

abbrev SaveId := Nat

/-- A `save` after its upsert and its count of the channels. -/
structure SaveTx where
  input : NetworkSettingsRow
  created : Bool
  updated : Bool

def SaveTx.locks (tx : SaveTx) : Bool := tx.created || tx.updated

structure SettingsSystem where
  network : NetworkSystem
  saves : Table SaveId SaveTx
  /-- What has been saved, in this order; no step reads it. -/
  saved : List NetworkSettingsRow

def SettingsSystem.initial : SettingsSystem where
  network := .initial
  saves := ∅
  saved := []

inductive Action
  | network (a : Network.Action)
  | beginSave (t : SaveId) (input : NetworkSettingsRow)
  | updateSave (t : SaveId)
  | commitSave (t : SaveId)
  | abortSave (t : SaveId)

namespace SettingsSystem

def version (s : SettingsSystem) : Nat := settingsVersion s.network.net.settings

def rowFree (s : SettingsSystem) (t : SaveId) : Bool :=
  s.saves.every fun other tx => decide (other = t) || !tx.locks

/-- An insert waits for the lock; an unusable channel is a thrown exception. -/
def beginSave (s : SettingsSystem) (t : SaveId) (input : NetworkSettingsRow) :
    Option SettingsSystem :=
  let missing := s.network.net.settings.isNone
  if (s.saves.get t).isNone && (!missing || s.rowFree t) &&
      input.channelIds.all (channelLive s.network.core.db) then
    some { s with saves := s.saves.put t ⟨input, missing, false⟩ }
  else none

/-- `updateMany` reads the latest row; an update of no row is a thrown exception. A row that
the transaction has created has the version of a missing one. -/
def updateSave (s : SettingsSystem) (t : SaveId) : Option SettingsSystem := do
  let tx ← s.saves.get t
  if !tx.updated && s.rowFree t then
    if s.version = tx.input.version then
      some { s with saves := s.saves.put t { tx with updated := true } }
    else some { s with saves := s.saves.remove t }
  else none

def setSettings (s : NetworkSystem) (settings : NetworkSettingsRow) : NetworkSystem :=
  { s with net := { s.net with settings := some settings } }

def commitSave (s : SettingsSystem) (t : SaveId) : Option SettingsSystem := do
  let tx ← s.saves.get t
  if tx.updated then
    some {
      network := setSettings s.network { tx.input with version := tx.input.version + 1 }
      saves := s.saves.remove t
      saved := s.saved ++ [tx.input] }
  else none

end SettingsSystem

def step (config : NetworkConfig) (s : SettingsSystem) : Action → Option SettingsSystem
  | .network (.saveSettings _) => none
  | .network a => (Network.step config s.network a).map fun network => { s with network := network }
  | .beginSave t input => s.beginSave t input
  | .updateSave t => s.updateSave t
  | .commitSave t => s.commitSave t
  | .abortSave t => some { s with saves := s.saves.remove t }

inductive Stepped (config : NetworkConfig) (s : SettingsSystem) : Action → SettingsSystem → Prop where
  | network (a : Network.Action) (after : NetworkSystem) : (∀ input, a ≠ .saveSettings input) →
      Network.Stepped config s.network a after →
        Stepped config s (.network a) { s with network := after }
  | begun (t : SaveId) (input : NetworkSettingsRow) : s.saves.get t = none →
      (s.network.net.settings = none → s.rowFree t = true) →
        Stepped config s (.beginSave t input)
          { s with saves := s.saves.put t ⟨input, s.network.net.settings.isNone, false⟩ }
  | updated (t : SaveId) (tx : SaveTx) : s.saves.get t = some tx → s.rowFree t = true →
      s.version = tx.input.version →
        Stepped config s (.updateSave t)
          { s with saves := s.saves.put t { tx with updated := true } }
  | conflicted (t : SaveId) :
      Stepped config s (.updateSave t) { s with saves := s.saves.remove t }
  | committed (t : SaveId) (tx : SaveTx) : s.saves.get t = some tx → tx.updated = true →
      Stepped config s (.commitSave t)
        { network := SettingsSystem.setSettings s.network
            { tx.input with version := tx.input.version + 1 }
          saves := s.saves.remove t
          saved := s.saved ++ [tx.input] }
  | aborted (t : SaveId) : Stepped config s (.abortSave t) { s with saves := s.saves.remove t }

theorem step_cases {config : NetworkConfig} {s after : SettingsSystem} {a : Action}
    (taken : step config s a = some after) : Stepped config s a after := by
  cases a with
  | network a =>
      unfold step at taken
      split at taken
      next => cases taken
      next a' other same =>
        cases same
        obtain ⟨network, stepped, rfl⟩ := Option.map_eq_some_iff.1 taken
        exact .network a network (fun input same => other input (same ▸ rfl))
          (Network.step_cases stepped)
      all_goals (rename_i impossible; cases impossible)
  | beginSave t input =>
      simp only [step, SettingsSystem.beginSave, Option.ite_none_right_eq_some, Bool.and_eq_true,
        Bool.or_eq_true, Option.isNone_iff_eq_none, Option.some.injEq] at taken
      obtain ⟨⟨⟨fresh, free⟩, -⟩, rfl⟩ := taken
      refine .begun t input fresh fun missing => ?_
      simpa [missing] using free
  | updateSave t =>
      simp only [step, SettingsSystem.updateSave, Option.bind_eq_bind, Option.bind_eq_some_iff,
        Option.ite_none_right_eq_some, Bool.and_eq_true] at taken
      obtain ⟨tx, found, ⟨-, free⟩, taken⟩ := taken
      split at taken
      next same =>
        cases taken
        exact .updated t tx found free same
      next =>
        cases taken
        exact .conflicted t
  | commitSave t =>
      simp only [step, SettingsSystem.commitSave, Option.bind_eq_bind, Option.bind_eq_some_iff,
        Option.ite_none_right_eq_some, Option.some.injEq] at taken
      obtain ⟨tx, found, updated, rfl⟩ := taken
      exact .committed t tx found updated
  | abortSave t =>
      cases taken
      exact .aborted t

/-- One save at a time holds the row; the update of a save was made under the version that is
still the latest; and every save that committed was made under an older one. -/
structure SavesInvariant (s : SettingsSystem) : Prop where
  exclusive : ∀ t other tx otherTx, s.saves.get t = some tx → s.saves.get other = some otherTx →
    tx.locks = true → otherTx.locks = true → other = t
  based : ∀ t tx, s.saves.get t = some tx → tx.updated = true → tx.input.version = s.version
  older : ∀ input ∈ s.saved, input.version < s.version
  increasing : s.saved.Pairwise fun earlier later => earlier.version < later.version

theorem saves_invariant_initial : SavesInvariant .initial where
  exclusive t other tx otherTx found := by cases found
  based t tx found := by cases found
  older input member := by cases member
  increasing := List.Pairwise.nil

theorem row_free_iff {s : SettingsSystem} {t : SaveId} :
    s.rowFree t = true ↔ ∀ other tx, s.saves.get other = some tx → tx.locks = true → other = t := by
  simp only [SettingsSystem.rowFree, Table.every_iff, Bool.or_eq_true, decide_eq_true_eq,
    Bool.not_eq_true']
  constructor
  · intro free other tx found locked
    exact (free other tx found).resolve_right (by simp [locked])
  · intro free other tx found
    cases locked : tx.locks with
    | false => exact .inr rfl
    | true => exact .inl (free other tx found locked)

theorem network_step_settings {config : NetworkConfig} {s after : NetworkSystem}
    {a : Network.Action} (stepped : Network.Stepped config s a after)
    (other : ∀ input, a ≠ .saveSettings input) : after.net.settings = s.net.settings := by
  cases stepped with
  | ledger a core after _ _ _ followed => exact (follow_frame followed).1.settings
  | saved input => exact absurd rfl (other input)
  | _ => rfl

theorem SavesInvariant.remove {s : SettingsSystem} (invariant : SavesInvariant s) (t : SaveId) :
    SavesInvariant { s with saves := s.saves.remove t } where
  exclusive first second tx otherTx found otherFound := by
    rw [Table.get_remove] at found otherFound
    split at found
    · cases found
    · split at otherFound
      · cases otherFound
      · exact invariant.exclusive first second tx otherTx found otherFound
  based other tx found := by
    rw [Table.get_remove] at found
    split at found
    · cases found
    · exact invariant.based other tx found
  older := invariant.older
  increasing := invariant.increasing

/-- A transaction that locks the row writes it while nobody else does. -/
theorem SavesInvariant.put {s : SettingsSystem} (invariant : SavesInvariant s) {t : SaveId}
    {tx : SaveTx} (free : tx.locks = true → s.rowFree t = true)
    (based : tx.updated = true → tx.input.version = s.version) :
    SavesInvariant { s with saves := s.saves.put t tx } where
  exclusive first second firstTx secondTx found otherFound locked otherLocked := by
    rw [Table.get_put] at found otherFound
    split at found <;> split at otherFound
    · simp_all
    · rename_i same _
      cases found
      exact (row_free_iff.1 (free locked) second secondTx otherFound otherLocked).trans same.symm
    · rename_i _ same
      cases otherFound
      exact same.trans (row_free_iff.1 (free otherLocked) first firstTx found locked).symm
    · exact invariant.exclusive first second firstTx secondTx found otherFound locked otherLocked
  based other otherTx found := by
    rw [Table.get_put] at found
    split at found
    · cases found
      exact based
    · exact invariant.based other otherTx found
  older := invariant.older
  increasing := invariant.increasing

/-- A save that commits held the row alone, and the next version is its own. -/
theorem SavesInvariant.commit {s : SettingsSystem} (invariant : SavesInvariant s) {t : SaveId}
    {tx : SaveTx} (found : s.saves.get t = some tx) (updated : tx.updated = true) :
    SavesInvariant
      { network := SettingsSystem.setSettings s.network
          { tx.input with version := tx.input.version + 1 }
        saves := s.saves.remove t
        saved := s.saved ++ [tx.input] } := by
  have based := invariant.based t tx found updated
  have locked : tx.locks = true := by simp [SaveTx.locks, updated]
  refine ⟨(invariant.remove t).exclusive, ?_, ?_, ?_⟩
  · intro other otherTx otherFound otherUpdated
    rw [Table.get_remove] at otherFound
    split at otherFound
    · cases otherFound
    · rename_i apart
      have same := invariant.exclusive t other tx otherTx found otherFound locked
        (by simp [SaveTx.locks, otherUpdated])
      exact absurd same apart
  · intro input member
    change input.version < tx.input.version + 1
    rcases List.mem_append.1 member with earlier | last
    · have older := invariant.older input earlier
      omega
    · rw [List.mem_singleton.1 last]
      exact Nat.lt_succ_self _
  · refine List.pairwise_append.2 ⟨invariant.increasing, List.pairwise_singleton _ _, ?_⟩
    intro earlier member last final
    rw [List.mem_singleton.1 final, based]
    exact invariant.older earlier member

theorem saves_invariant_step {config : NetworkConfig} {s after : SettingsSystem} {a : Action}
    (invariant : SavesInvariant s) (stepped : Stepped config s a after) :
    SavesInvariant after := by
  cases stepped with
  | network a network other moved =>
      have same := network_step_settings moved other
      have version : SettingsSystem.version { s with network := network } = s.version :=
        congrArg settingsVersion same
      refine ⟨invariant.exclusive, ?_, ?_, invariant.increasing⟩
      · rw [version]
        exact invariant.based
      · rw [version]
        exact invariant.older
  | begun t input fresh free =>
      refine invariant.put (fun locked => free ?_) fun updated => nomatch updated
      simpa [SaveTx.locks] using locked
  | updated t tx found free same => exact invariant.put (fun _ => free) fun _ => same.symm
  | conflicted t => exact invariant.remove t
  | committed t tx found updated => exact invariant.commit found updated
  | aborted t => exact invariant.remove t

def comparedProbe : InspectionStage → Option Probe
  | .opened probe _ | .locked probe _ | .written probe _ _ _ => some probe
  | .reading _ | .probing _ _ | .probed _ | .finished _ => none

def interrupts (s : SettingsSystem) : Action → Bool
  | .commitSave _ =>
      !s.network.inspections.every fun _ inspection => (comparedProbe inspection.stage).isNone
  | _ => false

def commitsOlder (s : SettingsSystem) : Action → Bool
  | .network (.commitInspection i) => (s.network.inspections.get i).any fun inspection =>
      (comparedProbe inspection.stage).any fun probe => settingsVersion probe.settings < s.version
  | _ => false

/-- A save that commits makes the version greater, and no other step changes it. -/
def Advances (before after : SettingsSystem) : Action → Prop
  | .commitSave _ => before.version < after.version
  | _ => after.version = before.version

def ComparedLatest (s : SettingsSystem) : Prop :=
  ∀ i inspection probe, s.network.inspections.get i = some inspection →
    comparedProbe inspection.stage = some probe → settingsVersion probe.settings = s.version

/-- A stage that an inspection takes carries the probe it has compared already, or compares it
now. -/
theorem advance_compared {s : NetworkSystem} {i : InspectionId} {inspection : Inspection}
    {a : Network.Action} {stage : InspectionStage} (advance : Advance s i inspection a stage)
    {probe : Probe} (compared : comparedProbe stage = some probe) :
    comparedProbe inspection.stage = some probe ∨
      settingsVersion probe.settings = settingsVersion s.net.settings := by
  cases advance with
  | opened probe _ current =>
      cases compared
      have same : settingsVersion s.net.settings = settingsVersion probe.settings := by
        simpa [Probe.superseded] using current
      exact .inr same.symm
  | locked probe view stage =>
      cases compared
      exact .inl (congrArg comparedProbe stage)
  | written probe observer newId resets stage =>
      cases compared
      exact .inl (congrArg comparedProbe stage)
  | _ => cases compared

theorem compared_latest_network {config : NetworkConfig} {s after : NetworkSystem}
    {a : Network.Action} (stepped : Network.Stepped config s a after)
    (latest : ∀ i inspection probe, s.inspections.get i = some inspection →
      comparedProbe inspection.stage = some probe →
        settingsVersion probe.settings = settingsVersion s.net.settings)
    {i : InspectionId} {inspection : Inspection} {probe : Probe}
    (found : after.inspections.get i = some inspection)
    (compared : comparedProbe inspection.stage = some probe) :
    settingsVersion probe.settings = settingsVersion s.net.settings := by
  cases inspection_source stepped found with
  | kept _ stored => exact latest i inspection probe stored compared
  | begun worker => cases compared
  | advanced before stage stored advance =>
      rcases advance_compared advance compared with earlier | now
      · exact latest i before probe stored earlier
      · exact now
  | committed => cases compared

theorem compared_latest_step {config : NetworkConfig} {s after : SettingsSystem} {a : Action}
    (latest : ComparedLatest s) (stepped : Stepped config s a after)
    (quiet : interrupts s a = false) : ComparedLatest after := by
  cases stepped with
  | network a network other moved =>
      intro i inspection probe found compared
      have same := compared_latest_network moved latest found compared
      exact same.trans (congrArg settingsVersion (network_step_settings moved other)).symm
  | committed t tx found updated =>
      have unread : ∀ i inspection, s.network.inspections.get i = some inspection →
          (comparedProbe inspection.stage).isNone = true := by
        simpa [interrupts, Table.every_iff] using quiet
      intro i inspection probe stored compared
      have absent := unread i inspection stored
      rw [compared] at absent
      cases absent
  | _ => exact latest

/-- In every run the version grows with each save, and no two saves were made under one
version. While no save commits between an inspection's comparison and its end, no inspection
commits that has probed under an older version. -/
theorem superseded_probe_rejected {config : NetworkConfig}
    {visited : List (SettingsSystem × Action)} {s : SettingsSystem}
    (run : Transition.Run (step config) SettingsSystem.initial visited s) :
    Transition.Along (fun before a => ∀ after, step config before a = some after →
        Advances before after a) visited ∧
      (s.saved.map NetworkSettingsRow.version).Nodup ∧
      (Transition.Along (fun before a => interrupts before a = false) visited →
        Transition.Along (fun before a => commitsOlder before a = false) visited) := by
  have saves (before : SettingsSystem) (a : Action) (after : SettingsSystem)
      (invariant : SavesInvariant before) (_ : True) (taken : step config before a = some after) :
      SavesInvariant after := saves_invariant_step invariant (step_cases taken)
  refine ⟨?_, ?_, ?_⟩
  · refine run.shows (fun _ _ => True) SavesInvariant saves_invariant_initial saves ?_
      fun _ _ _ => trivial
    intro before a _ invariant _ _ after taken
    cases step_cases taken with
    | network a network other moved =>
        exact congrArg settingsVersion (network_step_settings moved other)
    | committed t tx found updated =>
        change before.version < tx.input.version + 1
        rw [invariant.based t tx found updated]
        exact Nat.lt_succ_self _
    | _ => rfl
  · have invariant := run.preserves (fun _ _ => True) SavesInvariant saves_invariant_initial saves
      fun _ _ _ => trivial
    exact List.pairwise_map.2 (invariant.increasing.imp fun older => older.ne)
  · refine run.shows (fun before a => interrupts before a = false) ComparedLatest ?_
      (fun before a after latest quiet taken =>
        compared_latest_step latest (step_cases taken) quiet) ?_
    · intro i inspection probe found
      cases found
    · intro before a after latest quiet taken
      unfold commitsOlder
      split
      next i =>
        rw [Bool.eq_false_iff, ne_eq, Option.any_eq_true]
        rintro ⟨inspection, found, older⟩
        rw [Option.any_eq_true] at older
        obtain ⟨probe, compared, older⟩ := older
        have same := latest i inspection probe found compared
        exact absurd (of_decide_eq_true older) (by rw [same]; exact Nat.lt_irrefl _)
      next => rfl

def save (t : SaveId) (input : NetworkSettingsRow) : List Action :=
  [.beginSave t input, .updateSave t, .commitSave t]

def savedTwice (between : Bool) : List Action :=
  let second := save 2 { Script.references with version := 1 }
  save 1 Script.references ++ (Script.probe 1 1 Script.online).map .network ++
    (if between then second else []) ++ (Script.record 1 1).map .network ++
    (if between then [] else second)

theorem superseded_probe_rejected_saved_after :
    ∃ visited s, Transition.Run (step Script.config) SettingsSystem.initial visited s ∧
      s.saved.length = 2 ∧ (s.saved.map NetworkSettingsRow.version).Nodup ∧
      Transition.Along (fun before a => commitsOlder before a = false) visited := by
  have passed : Transition.replaySatisfies (step Script.config) SettingsSystem.initial
      (savedTwice false) (fun visited s => (visited.all fun pair => !interrupts pair.1 pair.2) &&
        decide (s.saved.length = 2)) = true := by decide +kernel
  obtain ⟨visited, s, run, quiet, saved⟩ := Transition.run_avoiding_of_replay passed
  obtain ⟨-, distinct, rejected⟩ := superseded_probe_rejected run
  exact ⟨visited, s, run, of_decide_eq_true saved, distinct, rejected quiet⟩

/-- An inspection that has compared version 1 commits under version 2. -/
theorem superseded_probe_commits :
    ¬∀ (config : NetworkConfig) (visited : List (SettingsSystem × Action)) (s : SettingsSystem),
      Transition.Run (step config) SettingsSystem.initial visited s →
        Transition.Along (fun before a => commitsOlder before a = false) visited := by
  intro rejected
  have passed : Transition.replaySatisfies (step Script.config) SettingsSystem.initial
      (savedTwice true) (fun visited _ => visited.any fun pair => commitsOlder pair.1 pair.2) =
        true := by decide +kernel
  obtain ⟨visited, s, run, found⟩ := Transition.run_of_replay_satisfies passed
  obtain ⟨⟨before, a⟩, member, older⟩ := List.any_eq_true.1 found
  have never := rejected Script.config visited s run before a member
  rw [never] at older
  cases older

end LinkAlive.Network.Settings
