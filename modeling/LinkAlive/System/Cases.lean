import LinkAlive.System.Step

/-!
# What a step can do

The inversion lemma of `step`. Steps are grouped by the components they change, so that
an invariant about some components has a case for each group that can touch them.
-/

namespace LinkAlive

open Relational

set_option autoImplicit false

abbrev Checks := Table CheckId CheckRow
abbrev Jobs := Table JobId CheckJob
abbrev Attempts := Table (OutboxKey × Nat) ClaimedNotification
abbrev Dispatchers := Table DispatcherId DispatchState
abbrev Outbox := Table OutboxKey OutboxRow

/-- Single statements of the scheduler and the check worker. -/
inductive LedgerStatement (s : System) : Action → Checks → Jobs → Prop where
  | claimForDispatch (id : CheckId) (owner : InstanceId) (now leaseUntil : Time) :
      LedgerStatement s (.claimForDispatch id owner now leaseUntil)
        (claimForDispatch s.db.checks id owner now leaseUntil) s.jobs
  | markEnqueued (id : CheckId) (owner : InstanceId) (now leaseUntil : Time) :
      LedgerStatement s (.markEnqueued id owner now leaseUntil)
        (markEnqueued s.db.checks id owner now leaseUntil) s.jobs
  | releaseDispatchClaim (id : CheckId) (owner : InstanceId) (safeReason : String) :
      LedgerStatement s (.releaseDispatchClaim id owner safeReason)
        (releaseDispatchClaim s.db.checks id owner safeReason) s.jobs
  | loadCheck (job : JobId) (data : CheckJobData) (loaded : CheckJob) :
      loadCheck s.db data = some loaded →
        LedgerStatement s (.loadCheck job data) s.db.checks (s.jobs.put job loaded)
  | loadMonitor (job : JobId) (id : CheckId) (check : CheckRow) (loaded : CheckJob) :
      s.jobs.get job = some (.scheduled id check) → loadMonitor s.db id check = some loaded →
        LedgerStatement s (.loadMonitor job) s.db.checks (s.jobs.put job loaded)
  | cancelStale (job : JobId) (id : CheckId) (now : Time) : s.jobs.get job = some (.stale id) →
      LedgerStatement s (.cancelStale job now) (cancelStale s.db.checks id now)
        (s.jobs.remove job)
  | claimCheck (job : JobId) (id : CheckId) (check : CheckRow) (monitor : MonitorRow)
      (owner : InstanceId) (leaseMs : Nat) (now : Time) :
      s.jobs.get job = some (.current id check monitor) →
        LedgerStatement s (.claimCheck job owner leaseMs now)
          (claimCheck s.db.checks id owner now (now + leaseMs))
          (if (s.db.checks.get id).any fun row => row.claimableByWorker now then
            s.jobs.put job (.running id check monitor)
          else s.jobs.remove job)

inductive TxBegin (s : System) (t : TxId) :
    Action → Transaction → Jobs → Attempts → Prop where
  | monitor (id : MonitorId) (request : MonitorRequest) (change : MonitorChange)
      (now initialNextCheckAt : Time) : monitorChange s.db id request = some change →
      s.free (Transaction.locksMonitor id) = true →
        TxBegin s t (.beginMonitor t id request now initialNextCheckAt)
          (.monitor ⟨id, now, initialNextCheckAt, change⟩) s.jobs s.attempts
  | channel (id : ChannelId) (request : ChannelRequest) (change : ChannelChange) (now : Time) :
      channelChange s.db id request = some change →
      s.free (Transaction.locksChannel id) = true →
        TxBegin s t (.beginChannel t id request now) (.channel ⟨id, now, change⟩) s.jobs s.attempts
  | createDue (now : Time) (chosen : List (MonitorId × CheckId))
      (due : List (DueMonitor × CheckId)) :
      s.dueEntries now chosen = some due →
        TxBegin s t (.beginCreateDue t now chosen) (.createDue ⟨now, due⟩) s.jobs s.attempts
  | persist (job : JobId) (id : CheckId) (check : CheckRow) (original : MonitorRow)
      (config : CheckProcessorConfig) (result : MonitorCheckResult) (databaseTime : Time)
      (tx : PersistTx) : s.jobs.get job = some (.running id check original) →
      persistBegin s.db id original config result databaseTime = some tx →
      s.free (Transaction.locksMonitor tx.monitorId) = true →
        TxBegin s t (.beginPersist t job config result databaseTime) (.persist tx)
          (s.jobs.remove job) s.attempts
  | claim (key : OutboxKey) (row : OutboxRow) (instanceId : InstanceId) (leaseMs : Nat)
      (now : Time) : s.db.outbox.get key = some row →
      s.free (Transaction.locksRow key) = true →
        TxBegin s t (.beginClaim t key instanceId leaseMs now)
          (.claim ⟨key, instanceId, leaseMs, now, channelLive s.db key.channelId⟩)
          s.jobs s.attempts
  | markSent (attempt : OutboxKey × Nat) (claimed : ClaimedNotification)
      (providerMessageId : Option String) (now databaseTime : Time) :
      s.attempts.get attempt = some claimed →
      s.free (Transaction.locksRow claimed.key) = true →
        TxBegin s t (.beginMarkSent t attempt providerMessageId now databaseTime)
          (.markSent (markSentBegin s.db claimed providerMessageId now databaseTime))
          s.jobs (s.attempts.remove attempt)

inductive PersistAdvance (s : System) (t : TxId) (tx : PersistTx) : Action → PersistTx → Prop where
  | effect (newIncidentId : IncidentId) : tx.stage = .begun →
      PersistAdvance s t tx (.applyEffect t newIncidentId)
        (applyIncidentEffect s.db tx newIncidentId)
  | resolve (next : PersistTx) :
      resolveStep s.db tx (fun key => s.freeFor t (Transaction.locksRow key)) = some next →
        PersistAdvance s t tx (.resolve t) next

inductive DispatchStatement (s : System) : Action → Outbox → Dispatchers → Prop where
  | scan (d : DispatcherId) (owner : InstanceId) (leaseMs : Nat) (now : Time) (key : OutboxKey)
      (state : DispatchState) : scanCandidate s.db owner leaseMs now key = some state →
      DispatchStatement s (.scan d owner leaseMs now key) s.db.outbox (s.dispatchers.put d state)
  | compareDown (d : DispatcherId) (state next : DispatchState) :
      s.dispatchers.get d = some state → compareDown s.db state = some next →
      DispatchStatement s (.compareDown d) s.db.outbox (s.dispatchers.put d next)
  | dispatchCandidate (d : DispatcherId) (state : DispatchState) (outbox : Outbox)
      (next : Option DispatchState) : s.dispatchers.get d = some state →
      dispatchCandidate s.db.outbox state = some (outbox, next) →
      s.free (Transaction.locksRow state.key) = true →
        DispatchStatement s (.dispatchCandidate d) outbox (match next with
          | some claimed => s.dispatchers.put d claimed
          | none => s.dispatchers.remove d)
  | finishDispatch (d : DispatcherId) (state : DispatchState) (accepted : Bool) :
      s.dispatchers.get d = some state → state.stage = .claimed →
      s.free (Transaction.locksRow state.key) = true →
        DispatchStatement s (.finishDispatch d accepted)
          (finishDispatch s.db.outbox state accepted) (s.dispatchers.remove d)

inductive TxCommit (s : System) (t : TxId) : Transaction → Database → Attempts → List Event → Prop
    where
  | persist (tx : PersistTx) (db : Database) : tx.stage = .done → persistCommit s.db tx = some db →
      TxCommit s t (.persist tx) db s.attempts [.recorded tx.monitorId tx.checkId]
  | claimIgnored (tx : ClaimTx) (db : Database) :
      (∀ key, s.claimNeeds tx = some key → s.freeFor t (Transaction.locksRow key) = true) →
      claimCommit s.db tx = some (db, none) → TxCommit s t (.claim tx) db s.attempts []
  | claimGranted (tx : ClaimTx) (db : Database) (claimed : ClaimedNotification) :
      claimCommit s.db tx = some (db, some claimed) →
        TxCommit s t (.claim tx) db
          (s.attempts.put (claimed.key, claimed.deliveryAttempt) claimed)
          [.granted claimed.key claimed.deliveryAttempt]
  | markSent (tx : MarkSentTx) (db : Database) : s.lateRecoveryFree t tx = true →
      markSentCommit s.db tx = some db → TxCommit s t (.markSent tx) db s.attempts []
  | createDue (tx : CreateDueTx) (db : Database) : createDueChecks s.db tx.now tx.due = some db →
      TxCommit s t (.createDue tx) db s.attempts []
  | monitor (tx : MonitorTx) (db : Database) :
      (tx.change.cancels.isSome = true → s.rowsFree t (ofMonitor tx.id) = true) →
      monitorCommit s.db tx = some db →
        TxCommit s t (.monitor tx) db s.attempts
          (if System.resets tx.change then [.reset tx.id] else [])
  | channel (tx : ChannelTx) :
      (tx.change.retires.isSome = true → s.rowsFree t (ofChannel tx.id) = true) →
        TxCommit s t (.channel tx) (channelCommit s.db tx) s.attempts []

/-- Every step is of one of these kinds. -/
inductive Stepped (s : System) : Action → System → Prop where
  | channel (id : ChannelId) (displayName : String) (config : ChannelConfig)
      (channels : Table ChannelId ChannelRow) :
      s.db.channels.insertNew id (newChannelRow displayName config) = some channels →
        Stepped s (.createChannel id displayName config)
          { s with db := { s.db with channels := channels } }
  | ledger (a : Action) (checks : Checks) (jobs : Jobs) : LedgerStatement s a checks jobs →
      Stepped s a { s with db := { s.db with checks := checks }, jobs := jobs }
  | began (a : Action) (t : TxId) (tx : Transaction) (jobs : Jobs) (attempts : Attempts) :
      TxBegin s t a tx jobs attempts → s.txs.get t = none →
        Stepped s a { s with txs := s.txs.put t tx, jobs := jobs, attempts := attempts }
  | advanced (a : Action) (t : TxId) (tx next : PersistTx) : s.txs.get t = some (.persist tx) →
      PersistAdvance s t tx a next → Stepped s a { s with txs := s.txs.put t (.persist next) }
  | failed (attempt : OutboxKey × Nat) (claimed : ClaimedNotification)
      (error : NotificationProviderError) (now : Time) (retryDelayMs : Nat) :
      s.attempts.get attempt = some claimed → s.free (Transaction.locksRow claimed.key) = true →
      (failsDown s.db claimed error = true →
        s.free (Transaction.locksRow claimed.key.followUp) = true) →
        Stepped s (.markFailed attempt error now retryDelayMs)
          { s with
            db := markFailed s.db claimed error now retryDelayMs
            attempts := s.attempts.remove attempt }
  | dispatcher (a : Action) (outbox : Outbox) (dispatchers : Dispatchers) :
      DispatchStatement s a outbox dispatchers →
        Stepped s a { s with db := { s.db with outbox := outbox }, dispatchers := dispatchers }
  | committed (t : TxId) (tx : Transaction) (db : Database) (attempts : Attempts)
      (events : List Event) : s.txs.get t = some tx → TxCommit s t tx db attempts events →
        Stepped s (.commit t)
          { s with
            db := db
            txs := s.txs.remove t
            attempts := attempts
            history := s.history ++ events }
  | aborted (t : TxId) : Stepped s (.abort t) { s with txs := s.txs.remove t }

namespace System

theorem begin_eq_some {s after : System} {t : TxId} {tx : Transaction} :
    s.begin t tx = some after ↔
      s.txs.get t = none ∧ after = { s with txs := s.txs.put t tx } := by
  simp only [begin, Option.isNone_iff_eq_none]
  constructor
  · intro begun
    split at begun
    · rename_i unused
      cases begun
      exact ⟨unused, rfl⟩
    · cases begun
  · rintro ⟨unused, rfl⟩
    rw [if_pos unused]

theorem begin_monitor_cases {s after : System} {t : TxId} {id : MonitorId}
    {request : MonitorRequest} {now next : Time}
    (taken : s.beginMonitor t id request now next = some after) :
    Stepped s (.beginMonitor t id request now next) after := by
  simp only [beginMonitor, Option.bind_eq_bind, Option.bind_eq_some_iff] at taken
  obtain ⟨change, changed, taken⟩ := taken
  split at taken
  · rename_i guards
    rw [Bool.and_eq_true] at guards
    obtain ⟨unused, rfl⟩ := begin_eq_some.1 taken
    exact .began _ t _ _ _ (.monitor id request change now next changed guards.1) unused
  · cases taken

theorem begin_channel_cases {s after : System} {t : TxId} {id : ChannelId}
    {request : ChannelRequest} {now : Time}
    (taken : s.beginChannel t id request now = some after) :
    Stepped s (.beginChannel t id request now) after := by
  simp only [beginChannel, Option.bind_eq_bind, Option.bind_eq_some_iff] at taken
  obtain ⟨change, changed, taken⟩ := taken
  split at taken
  · rename_i guards
    rw [Bool.and_eq_true] at guards
    obtain ⟨unused, rfl⟩ := begin_eq_some.1 taken
    exact .began _ t _ _ _ (.channel id request change now changed guards.1) unused
  · cases taken

theorem begin_create_due_cases {s after : System} {t : TxId} {now : Time}
    {chosen : List (MonitorId × CheckId)} (taken : s.beginCreateDue t now chosen = some after) :
    Stepped s (.beginCreateDue t now chosen) after := by
  simp only [beginCreateDue, Option.bind_eq_bind, Option.bind_eq_some_iff] at taken
  obtain ⟨due, selected, taken⟩ := taken
  obtain ⟨unused, rfl⟩ := begin_eq_some.1 taken
  exact .began _ t _ _ _ (.createDue now chosen due selected) unused

theorem begin_persist_cases {s after : System} {t : TxId} {job : JobId}
    {config : CheckProcessorConfig} {result : MonitorCheckResult} {databaseTime : Time}
    (taken : s.beginPersist t job config result databaseTime = some after) :
    Stepped s (.beginPersist t job config result databaseTime) after := by
  unfold beginPersist at taken
  split at taken
  · rename_i id check original running
    simp only [Option.bind_eq_bind, Option.bind_eq_some_iff] at taken
    obtain ⟨tx, started, taken⟩ := taken
    split at taken
    · rename_i unlocked
      obtain ⟨unused, rfl⟩ := begin_eq_some.1 taken
      exact .began _ t _ _ _ (.persist job id check original config result databaseTime tx running
        started unlocked) unused
    · cases taken
  · cases taken

theorem begin_claim_cases {s after : System} {t : TxId} {key : OutboxKey}
    {instanceId : InstanceId} {leaseMs : Nat} {now : Time}
    (taken : s.beginClaim t key instanceId leaseMs now = some after) :
    Stepped s (.beginClaim t key instanceId leaseMs now) after := by
  unfold beginClaim at taken
  split at taken
  · rename_i guards
    rw [Bool.and_eq_true, Option.isSome_iff_exists] at guards
    obtain ⟨⟨row, found⟩, unlocked⟩ := guards
    obtain ⟨unused, rfl⟩ := begin_eq_some.1 taken
    exact .began _ t _ _ _ (.claim key row instanceId leaseMs now found unlocked) unused
  · cases taken

theorem begin_mark_sent_cases {s after : System} {t : TxId} {attempt : OutboxKey × Nat}
    {providerMessageId : Option String} {now databaseTime : Time}
    (taken : s.beginMarkSent t attempt providerMessageId now databaseTime = some after) :
    Stepped s (.beginMarkSent t attempt providerMessageId now databaseTime) after := by
  simp only [beginMarkSent, Option.bind_eq_bind, Option.bind_eq_some_iff] at taken
  obtain ⟨claimed, remembered, taken⟩ := taken
  split at taken
  · rename_i unlocked
    obtain ⟨unused, rfl⟩ := begin_eq_some.1 taken
    exact .began _ t _ _ _ (.markSent attempt claimed providerMessageId now databaseTime
      remembered unlocked) unused
  · cases taken

theorem advance_cases {s after : System} {t : TxId} {a : Action}
    (taken : step s a = some after)
    (shape : a = .resolve t ∨ ∃ newIncidentId, a = .applyEffect t newIncidentId) :
    Stepped s a after := by
  rcases shape with rfl | ⟨newIncidentId, rfl⟩
  · change s.resolve t = some after at taken
    unfold resolve at taken
    split at taken
    · rename_i tx inProgress
      simp only [Option.bind_eq_bind, Option.bind_eq_some_iff] at taken
      obtain ⟨next, resolved, taken⟩ := taken
      cases taken
      exact .advanced _ t tx next inProgress (.resolve next resolved)
    · cases taken
  · change s.applyEffect t newIncidentId = some after at taken
    unfold applyEffect at taken
    split at taken
    · rename_i tx inProgress
      split at taken
      · rename_i begun
        cases taken
        exact .advanced _ t tx _ inProgress (.effect newIncidentId begun)
      · cases taken
    · cases taken

theorem mark_failed_cases {s after : System} {attempt : OutboxKey × Nat}
    {error : NotificationProviderError} {now : Time} {retryDelayMs : Nat}
    (taken : s.markFailed attempt error now retryDelayMs = some after) :
    Stepped s (.markFailed attempt error now retryDelayMs) after := by
  simp only [markFailed, Option.bind_eq_bind, Option.bind_eq_some_iff] at taken
  obtain ⟨claimed, remembered, taken⟩ := taken
  split at taken
  · rename_i guards
    simp only [Bool.and_eq_true, Bool.or_eq_true, Bool.not_eq_true'] at guards
    cases taken
    refine .failed attempt claimed error now retryDelayMs remembered guards.1.1 ?_
    intro fails
    exact guards.1.2.resolve_left (by simp [fails])
  · cases taken

theorem ledger_cases {s after : System} {job : JobId} {a : Action}
    (taken : step s a = some after)
    (shape : (∃ data, a = .loadCheck job data) ∨ a = .loadMonitor job ∨
      (∃ now, a = .cancelStale job now) ∨
      ∃ instanceId leaseMs now, a = .claimCheck job instanceId leaseMs now) :
    Stepped s a after := by
  rcases shape with ⟨data, rfl⟩ | rfl | ⟨now, rfl⟩ | ⟨instanceId, leaseMs, now, rfl⟩
  · change s.loadCheck job data = some after at taken
    simp only [loadCheck, Option.bind_eq_bind, Option.bind_eq_some_iff] at taken
    obtain ⟨loaded, found, taken⟩ := taken
    cases taken
    exact .ledger _ _ _ (.loadCheck job data loaded found)
  · change s.loadMonitor job = some after at taken
    unfold loadMonitor at taken
    split at taken
    · rename_i id check scheduled
      simp only [Option.bind_eq_bind, Option.bind_eq_some_iff] at taken
      obtain ⟨loaded, found, taken⟩ := taken
      cases taken
      exact .ledger _ _ _ (.loadMonitor job id check loaded scheduled found)
    · cases taken
  · change s.cancelStale job now = some after at taken
    unfold cancelStale at taken
    split at taken
    · rename_i id stale
      cases taken
      exact .ledger _ _ _ (.cancelStale job id now stale)
    · cases taken
  · change s.claimCheck job instanceId leaseMs now = some after at taken
    unfold claimCheck at taken
    split at taken
    · rename_i id check monitor current
      cases taken
      exact .ledger _ _ _ (.claimCheck job id check monitor instanceId leaseMs now current)
    · cases taken

theorem dispatcher_cases {s after : System} {d : DispatcherId} {a : Action}
    (taken : step s a = some after)
    (shape : (∃ owner leaseMs now key, a = .scan d owner leaseMs now key) ∨ a = .compareDown d ∨
      a = .dispatchCandidate d ∨ ∃ accepted, a = .finishDispatch d accepted) :
    Stepped s a after := by
  rcases shape with ⟨owner, leaseMs, now, key, rfl⟩ | rfl | rfl | ⟨accepted, rfl⟩
  · change s.scan d owner leaseMs now key = some after at taken
    simp only [scan, Option.bind_eq_bind, Option.bind_eq_some_iff] at taken
    obtain ⟨state, scanned, taken⟩ := taken
    cases taken
    exact .dispatcher _ _ _ (.scan d owner leaseMs now key state scanned)
  · change s.compareDown d = some after at taken
    simp only [compareDown, Option.bind_eq_bind, Option.bind_eq_some_iff] at taken
    obtain ⟨state, remembered, next, compared, taken⟩ := taken
    cases taken
    exact .dispatcher _ _ _ (.compareDown d state next remembered compared)
  · change s.dispatchCandidate d = some after at taken
    simp only [dispatchCandidate, Option.bind_eq_bind, Option.bind_eq_some_iff] at taken
    obtain ⟨state, remembered, ⟨outbox, next⟩, dispatched, taken⟩ := taken
    split at taken
    · rename_i unlocked
      cases taken
      exact .dispatcher _ _ _ (.dispatchCandidate d state outbox next remembered dispatched
        unlocked)
    · cases taken
  · change s.finishDispatch d accepted = some after at taken
    simp only [finishDispatch, Option.bind_eq_bind, Option.bind_eq_some_iff] at taken
    obtain ⟨state, remembered, taken⟩ := taken
    split at taken
    · rename_i guards
      rw [Bool.and_eq_true, decide_eq_true_eq] at guards
      cases taken
      exact .dispatcher _ _ _ (.finishDispatch d state accepted remembered guards.1 guards.2)
    · cases taken

theorem commit_cases {s after : System} {t : TxId} (taken : s.commit t = some after) :
    Stepped s (.commit t) after := by
  unfold commit at taken
  split at taken
  · cases taken
  · rename_i tx inProgress
    unfold commitPersist at taken
    split at taken
    · rename_i finished
      split at taken
      · simp only [Option.bind_eq_bind, Option.bind_eq_some_iff] at taken
        obtain ⟨db, written, taken⟩ := taken
        cases taken
        exact .committed t _ db _ _ inProgress (.persist tx db finished written)
      · cases taken
    · cases taken
  · rename_i tx inProgress
    unfold commitClaim at taken
    split at taken
    · rename_i guards
      rw [Bool.and_eq_true, Option.all_eq_true] at guards
      simp only [Option.bind_eq_bind, Option.bind_eq_some_iff] at taken
      obtain ⟨⟨db, granted⟩, claimed, taken⟩ := taken
      cases granted with
      | none =>
          cases taken
          exact .committed t _ db _ _ inProgress (.claimIgnored tx db guards.1 claimed)
      | some notification =>
          cases taken
          exact .committed t _ db _ _ inProgress (.claimGranted tx db notification claimed)
    · cases taken
  · rename_i tx inProgress
    unfold commitMarkSent at taken
    split at taken
    · rename_i guards
      rw [Bool.and_eq_true] at guards
      simp only [Option.bind_eq_bind, Option.bind_eq_some_iff] at taken
      obtain ⟨db, written, taken⟩ := taken
      cases taken
      exact .committed t _ db _ _ inProgress (.markSent tx db guards.2 written)
    · cases taken
  · rename_i tx inProgress
    simp only [commitCreateDue, Option.bind_eq_bind, Option.bind_eq_some_iff] at taken
    obtain ⟨db, written, taken⟩ := taken
    cases taken
    exact .committed t _ db _ _ inProgress (.createDue tx db written)
  · rename_i tx inProgress
    unfold commitMonitor at taken
    split at taken
    · rename_i guards
      rw [Bool.and_eq_true, Bool.or_eq_true] at guards
      simp only [Option.bind_eq_bind, Option.bind_eq_some_iff] at taken
      obtain ⟨db, written, taken⟩ := taken
      cases taken
      refine .committed t _ db _ _ inProgress (.monitor tx db ?_ written)
      intro retires
      exact guards.1.resolve_left (by simpa [Option.isNone_iff_eq_none,
        Option.isSome_iff_ne_none] using retires)
    · cases taken
  · rename_i tx inProgress
    unfold commitChannel at taken
    split at taken
    · rename_i guards
      rw [Bool.or_eq_true] at guards
      cases taken
      refine .committed t _ _ _ _ inProgress (.channel tx ?_)
      intro retires
      exact guards.resolve_left (by simpa [Option.isNone_iff_eq_none,
        Option.isSome_iff_ne_none] using retires)
    · cases taken

end System

/-- The inversion lemma of `step`. -/
theorem step_cases {s after : System} {a : Action} (taken : step s a = some after) :
    Stepped s a after := by
  cases a with
  | createChannel id displayName config =>
      simp only [step, Option.bind_eq_bind, Option.bind_eq_some_iff] at taken
      obtain ⟨channels, inserted, taken⟩ := taken
      cases taken
      exact .channel id displayName config channels inserted
  | claimForDispatch id owner now leaseUntil =>
      cases taken
      exact .ledger _ _ _ (.claimForDispatch id owner now leaseUntil)
  | markEnqueued id owner now leaseUntil =>
      cases taken
      exact .ledger _ _ _ (.markEnqueued id owner now leaseUntil)
  | releaseDispatchClaim id owner safeReason =>
      cases taken
      exact .ledger _ _ _ (.releaseDispatchClaim id owner safeReason)
  | beginMonitor => exact System.begin_monitor_cases taken
  | beginChannel => exact System.begin_channel_cases taken
  | beginCreateDue => exact System.begin_create_due_cases taken
  | beginPersist => exact System.begin_persist_cases taken
  | beginClaim => exact System.begin_claim_cases taken
  | beginMarkSent => exact System.begin_mark_sent_cases taken
  | loadCheck job data => exact System.ledger_cases taken (Or.inl ⟨data, rfl⟩)
  | loadMonitor job => exact System.ledger_cases taken (Or.inr (Or.inl rfl))
  | cancelStale job now => exact System.ledger_cases taken (Or.inr (Or.inr (Or.inl ⟨now, rfl⟩)))
  | claimCheck job instanceId leaseMs now =>
      exact System.ledger_cases taken (Or.inr (Or.inr (Or.inr ⟨instanceId, leaseMs, now, rfl⟩)))
  | applyEffect t newIncidentId =>
      exact System.advance_cases taken (Or.inr ⟨newIncidentId, rfl⟩)
  | resolve t => exact System.advance_cases taken (Or.inl rfl)
  | markFailed => exact System.mark_failed_cases taken
  | scan d owner leaseMs now key =>
      exact System.dispatcher_cases taken (Or.inl ⟨owner, leaseMs, now, key, rfl⟩)
  | compareDown d => exact System.dispatcher_cases taken (Or.inr (Or.inl rfl))
  | dispatchCandidate d => exact System.dispatcher_cases taken (Or.inr (Or.inr (Or.inl rfl)))
  | finishDispatch d accepted =>
      exact System.dispatcher_cases taken (Or.inr (Or.inr (Or.inr ⟨accepted, rfl⟩)))
  | commit t => exact System.commit_cases taken
  | abort t =>
      change s.abort t = some after at taken
      unfold System.abort at taken
      split at taken
      · cases taken
        exact .aborted t
      · cases taken

theorem commit_step_cases {s after : System} {t : TxId} (stepped : Stepped s (.commit t) after)
    {tx : Transaction} (inProgress : s.txs.get t = some tx) :
    ∃ db attempts events, TxCommit s t tx db attempts events ∧
      after = { s with
        db := db
        txs := s.txs.remove t
        attempts := attempts
        history := s.history ++ events } := by
  cases stepped with
  | committed _ other db attempts events committing commit =>
      rw [inProgress, Option.some_inj] at committing
      subst committing
      exact ⟨db, attempts, events, commit, rfl⟩
  | ledger _ checks jobs statement => cases statement
  | began _ _ tx jobs attempts begun => cases begun
  | advanced _ _ tx next other advance => cases advance
  | dispatcher _ outbox dispatchers statement => cases statement

theorem persist_committed {s after : System} {t : TxId} (stepped : Stepped s (.commit t) after)
    {tx : PersistTx} (inProgress : s.txs.get t = some (.persist tx)) :
    tx.stage = .done ∧ persistCommit s.db tx = some after.db := by
  obtain ⟨db, attempts, events, commit, rfl⟩ := commit_step_cases stepped inProgress
  cases commit with
  | persist _ _ finished written => exact ⟨finished, written⟩

theorem mark_sent_committed {s after : System} {t : TxId} (stepped : Stepped s (.commit t) after)
    {tx : MarkSentTx} (inProgress : s.txs.get t = some (.markSent tx)) :
    s.lateRecoveryFree t tx = true ∧ markSentCommit s.db tx = some after.db := by
  obtain ⟨db, attempts, events, commit, rfl⟩ := commit_step_cases stepped inProgress
  cases commit with
  | markSent _ _ free written => exact ⟨free, written⟩

theorem commit_ends {s after : System} {t : TxId} (stepped : Stepped s (.commit t) after)
    {tx : Transaction} (inProgress : s.txs.get t = some tx) : after.txs.get t = none := by
  obtain ⟨db, attempts, events, _, rfl⟩ := commit_step_cases stepped inProgress
  simp [Table.get_remove]

/-- A claim that a worker holds has just been granted or was held before. -/
theorem step_attempt_source {s after : System} {a : Action} (stepped : Stepped s a after)
    {attempt : OutboxKey × Nat} {claimed : ClaimedNotification}
    (remembered : after.attempts.get attempt = some claimed) :
    s.attempts.get attempt = some claimed ∨
      ∃ t tx, a = .commit t ∧ s.txs.get t = some (.claim tx) ∧
        claimCommit s.db tx = some (after.db, some claimed) ∧
        attempt = (claimed.key, claimed.deliveryAttempt) := by
  have removed : ∀ other, (s.attempts.remove other).get attempt = some claimed →
      s.attempts.get attempt = some claimed := by
    intro other found
    rw [Table.get_remove] at found
    split at found
    · cases found
    · exact found
  cases stepped with
  | channel => exact Or.inl remembered
  | ledger => exact Or.inl remembered
  | advanced => exact Or.inl remembered
  | dispatcher => exact Or.inl remembered
  | aborted => exact Or.inl remembered
  | failed other => exact Or.inl (removed other remembered)
  | began _ t tx jobs attempts begun unused =>
      cases begun with
      | markSent other => exact Or.inl (removed other remembered)
      | persist => exact Or.inl remembered
      | monitor => exact Or.inl remembered
      | channel => exact Or.inl remembered
      | createDue => exact Or.inl remembered
      | claim => exact Or.inl remembered
  | committed t tx db attempts events inProgress commit =>
      cases commit with
      | claimGranted tx db granted written =>
          rw [Table.get_put] at remembered
          split at remembered
          · rename_i filed
            cases remembered
            exact Or.inr ⟨t, tx, rfl, inProgress, written, filed⟩
          · exact Or.inl remembered
      | persist => exact Or.inl remembered
      | claimIgnored => exact Or.inl remembered
      | markSent => exact Or.inl remembered
      | createDue => exact Or.inl remembered
      | monitor => exact Or.inl remembered
      | channel => exact Or.inl remembered

inductive TxSource (s after : System) (t : TxId) (a : Action) (tx : Transaction) : Prop where
  | stayed : s.txs.get t = some tx → TxSource s after t a tx
  | advanced (before next : PersistTx) : tx = .persist next →
      s.txs.get t = some (.persist before) → PersistAdvance s t before a next →
        after.db = s.db → TxSource s after t a tx
  | begun (jobs : Jobs) (attempts : Attempts) : s.txs.get t = none →
      TxBegin s t a tx jobs attempts → after.db = s.db → TxSource s after t a tx

theorem step_tx_source {s after : System} {a : Action} (stepped : Stepped s a after) {t : TxId}
    {tx : Transaction} (later : after.txs.get t = some tx) : TxSource s after t a tx := by
  cases stepped with
  | channel => exact .stayed later
  | ledger => exact .stayed later
  | began _ u ux jobs attempts begun unused =>
      rw [Table.get_put] at later
      split at later
      · rename_i own
        cases later
        subst own
        exact .begun jobs attempts unused begun rfl
      · exact .stayed later
  | advanced _ u before next inProgress advance =>
      rw [Table.get_put] at later
      split at later
      · rename_i own
        cases later
        subst own
        exact .advanced before next rfl inProgress advance rfl
      · exact .stayed later
  | failed => exact .stayed later
  | dispatcher => exact .stayed later
  | committed u =>
      rw [Table.get_remove] at later
      split at later
      · cases later
      · exact .stayed later
  | aborted u =>
      rw [Table.get_remove] at later
      split at later
      · cases later
      · exact .stayed later

end LinkAlive
