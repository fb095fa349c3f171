import LinkAlive.Outbox.CommonCommits

/-!
# Steps that two runs have in common

Two states that are alike for an incident stay alike when both take the same step, as long as
the bindings that the step reads are the same.
-/

namespace LinkAlive

open Relational Transition

set_option autoImplicit false

section Kinds

variable {s r after : System} {a : Action} (stepped : Stepped r a after)

include stepped

theorem ledger_again {checks : Checks} {jobs : Jobs} (statement : LedgerStatement s a checks jobs) :
    ∃ otherChecks otherJobs, LedgerStatement r a otherChecks otherJobs ∧
      after = { r with db := { r.db with checks := otherChecks }, jobs := otherJobs } := by
  cases stepped with
  | ledger _ checks jobs other => exact ⟨checks, jobs, other, rfl⟩
  | channel => cases statement
  | began _ t tx jobs attempts begun => cases begun <;> cases statement
  | advanced _ t tx next inProgress advance => cases advance <;> cases statement
  | failed => cases statement
  | dispatcher _ outbox dispatchers other => cases other <;> cases statement
  | committed => cases statement
  | aborted => cases statement

theorem begin_again {t : TxId} {tx : Transaction} {jobs : Jobs} {attempts : Attempts}
    (begun : TxBegin s t a tx jobs attempts) :
    ∃ other otherJobs otherAttempts, TxBegin r t a other otherJobs otherAttempts ∧
      r.txs.get t = none ∧
      after = { r with
        txs := r.txs.put t other
        jobs := otherJobs
        attempts := otherAttempts } := by
  cases stepped with
  | began _ u other otherJobs otherAttempts alsoBegun unused =>
      have same : u = t := by cases begun <;> cases alsoBegun <;> rfl
      subst same
      exact ⟨other, otherJobs, otherAttempts, alsoBegun, unused, rfl⟩
  | channel => cases begun
  | ledger _ checks jobs statement => cases statement <;> cases begun
  | advanced _ t tx next inProgress advance => cases advance <;> cases begun
  | failed => cases begun
  | dispatcher _ outbox dispatchers statement => cases statement <;> cases begun
  | committed => cases begun
  | aborted => cases begun

theorem advance_again {t : TxId} {tx next : PersistTx} (advance : PersistAdvance s t tx a next) :
    ∃ other otherNext, r.txs.get t = some (.persist other) ∧
      PersistAdvance r t other a otherNext ∧
      after = { r with txs := r.txs.put t (.persist otherNext) } := by
  cases stepped with
  | advanced _ u other otherNext inProgress alsoAdvance =>
      have same : u = t := by cases advance <;> cases alsoAdvance <;> rfl
      subst same
      exact ⟨other, otherNext, inProgress, alsoAdvance, rfl⟩
  | channel => cases advance
  | ledger _ checks jobs statement => cases statement <;> cases advance
  | began _ t tx jobs attempts begun => cases begun <;> cases advance
  | failed => cases advance
  | dispatcher _ outbox dispatchers statement => cases statement <;> cases advance
  | committed => cases advance
  | aborted => cases advance

theorem dispatch_again {outbox : Outbox} {dispatchers : Dispatchers}
    (statement : DispatchStatement s a outbox dispatchers) :
    ∃ otherOutbox otherDispatchers, DispatchStatement r a otherOutbox otherDispatchers ∧
      after = { r with
        db := { r.db with outbox := otherOutbox }
        dispatchers := otherDispatchers } := by
  cases stepped with
  | dispatcher _ otherOutbox otherDispatchers other =>
      exact ⟨otherOutbox, otherDispatchers, other, rfl⟩
  | channel => cases statement
  | ledger _ checks jobs other => cases other <;> cases statement
  | began _ t tx jobs attempts begun => cases begun <;> cases statement
  | advanced _ t tx next inProgress advance => cases advance <;> cases statement
  | failed => cases statement
  | committed => cases statement
  | aborted => cases statement

end Kinds

/-- A state of a run, with what holds of it. -/
structure Sound (s : System) : Prop where
  ledger : LedgerInvariant s
  outbox : OutboxInvariant s
  attempts : AttemptInvariant s

theorem sound_of_reachable {s : System} (reachable : Reachable s) : Sound s :=
  ⟨ledger_invariant_reachable reachable, outbox_invariant_reachable reachable,
    attempt_invariant_reachable reachable⟩

theorem common_step {incidentId : IncidentId} {left right leftAfter rightAfter : System}
    {a : Action} (alike : Alike incidentId left right) (sound : Sound left)
    (otherSound : Sound right) (present : (left.db.incidents.get incidentId).isSome = true)
    (first : Stepped left a leftAfter) (second : Stepped right a rightAfter)
    (agreed : sameReads incidentId left right a = true) :
    Alike incidentId leftAfter rightAfter := by
  have started := first
  have alsoStarted := second
  have kept : ∀ t, leftAfter.txs.get t = left.txs.get t → rightAfter.txs.get t = right.txs.get t →
      leftAfter.about incidentId t = rightAfter.about incidentId t := by
    intro t same otherSame
    rw [about_kept sound.ledger started incidentId same,
      about_kept otherSound.ledger alsoStarted incidentId otherSame, alike.txs]
  cases first with
  | channel id displayName config channels inserted =>
      cases second with
      | channel _ _ _ otherChannels alsoInserted =>
          rw [alike.db.channels, alsoInserted, Option.some.injEq] at inserted
          exact ⟨{ alike.db with channels := inserted.symm }, alike.jobs, alike.attempts,
            alike.dispatchers, fun t => kept t rfl rfl⟩
      | ledger _ checks jobs statement => cases statement
      | began _ t tx jobs attempts begun => cases begun
      | advanced _ t tx next inProgress advance => cases advance
      | dispatcher _ outbox dispatchers statement => cases statement
  | ledger _ checks jobs statement =>
      obtain ⟨otherChecks, otherJobs, other, rfl⟩ := ledger_again second statement
      obtain ⟨sameChecks, sameJobs⟩ := ledger_alike alike statement other
      exact ⟨{ alike.db with checks := sameChecks }, sameJobs, alike.attempts,
        alike.dispatchers, fun t => kept t rfl rfl⟩
  | began _ t tx jobs attempts begun unused =>
      obtain ⟨other, otherJobs, otherAttempts, alsoBegun, alsoUnused, rfl⟩ :=
        begin_again second begun
      obtain ⟨sameTx, sameJobs, sameAttempts⟩ :=
        begin_alike alike sound.attempts otherSound.attempts begun alsoBegun agreed
      refine ⟨alike.db, sameJobs, sameAttempts, alike.dispatchers, fun u => ?_⟩
      rw [about_put sound.ledger started incidentId rfl,
        about_put otherSound.ledger alsoStarted incidentId rfl, alike.txs]
      dsimp only
      rw [sameTx]
  | advanced _ t tx next inProgress advance =>
      obtain ⟨other, otherNext, alsoInProgress, alsoAdvance, rfl⟩ := advance_again second advance
      have shown := advance_alike alike sound.ledger otherSound.ledger sound.outbox inProgress
        alsoInProgress advance alsoAdvance agreed
      refine ⟨alike.db, alike.jobs, alike.attempts, alike.dispatchers, fun u => ?_⟩
      rw [about_put sound.ledger started incidentId rfl,
        about_put otherSound.ledger alsoStarted incidentId rfl, alike.txs, Transaction.about,
        Transaction.about, shown]
  | failed attempt claimed error now retryDelayMs remembered =>
      cases second with
      | failed _ other _ _ _ alsoRemembered =>
          have filed := sound.attempts.filed attempt claimed remembered
          have alsoFiled := otherSound.attempts.filed attempt other alsoRemembered
          refine ⟨?_, alike.jobs, ?_, alike.dispatchers, fun t => kept t rfl rfl⟩
          · cases own : ofIncident incidentId claimed.key with
            | true =>
                have mine : ofIncident incidentId attempt.1 = true := by
                  rw [filed]
                  exact own
                rw [alike.attempts attempt mine, alsoRemembered, Option.some.injEq] at remembered
                subst remembered
                exact mark_failed_alike alike.db own error now retryDelayMs
            | false =>
                have key : other.key = claimed.key := by
                  rw [filed] at alsoFiled
                  exact (congrArg Prod.fst alsoFiled).symm
                have foreign : ofIncident incidentId other.key = false := by
                  rw [key]
                  exact own
                exact (mark_failed_foreign own left.db rfl error now retryDelayMs).symm.trans
                  (alike.db.trans
                    (mark_failed_foreign foreign right.db rfl error now retryDelayMs))
          · intro again own
            dsimp only
            rw [Table.get_remove, Table.get_remove, alike.attempts again own]
      | ledger _ checks jobs statement => cases statement
      | began _ t tx jobs attempts begun => cases begun
      | advanced _ t tx next inProgress advance => cases advance
      | dispatcher _ outbox dispatchers statement => cases statement
  | dispatcher _ outbox dispatchers statement =>
      obtain ⟨otherOutbox, otherDispatchers, other, rfl⟩ := dispatch_again second statement
      obtain ⟨rows, slots⟩ := dispatch_alike alike statement other
      exact ⟨{ alike.db with rows := rows }, alike.jobs, alike.attempts, slots,
        fun t => kept t rfl rfl⟩
  | committed t tx db attempts events inProgress commit =>
      cases second with
      | committed _ other otherDb otherAttempts otherEvents alsoInProgress alsoCommit =>
          obtain ⟨view, sameAttempts⟩ := commit_alike alike sound.outbox otherSound.outbox present
            inProgress alsoInProgress commit alsoCommit
          refine ⟨view, alike.jobs, sameAttempts, alike.dispatchers, fun u => ?_⟩
          rw [about_remove sound.ledger started incidentId rfl,
            about_remove otherSound.ledger alsoStarted incidentId rfl, alike.txs]
      | ledger _ checks jobs statement => cases statement
      | began _ t tx jobs attempts begun => cases begun
      | advanced _ t tx next inProgress advance => cases advance
      | dispatcher _ outbox dispatchers statement => cases statement
  | aborted t =>
      cases second with
      | aborted =>
          refine ⟨alike.db, alike.jobs, alike.attempts, alike.dispatchers, fun u => ?_⟩
          rw [about_remove sound.ledger started incidentId rfl,
            about_remove otherSound.ledger alsoStarted incidentId rfl, alike.txs]
      | ledger _ checks jobs statement => cases statement
      | began _ t tx jobs attempts begun => cases begun
      | advanced _ t tx next inProgress advance => cases advance
      | dispatcher _ outbox dispatchers statement => cases statement

end LinkAlive
