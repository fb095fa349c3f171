import LinkAlive.Accounts.Administrators

/-!
# Passwords and sessions

A password update revokes the sessions of its account under the lock of the account
row. A login reads the hash, verifies the password for a while and then starts its
session; nothing looks at the hash again.
-/

namespace LinkAlive.Accounts

set_option autoImplicit false

open Relational

/-- A session that the session query accepts was started by a login that verified the
password against the hash of the last password update, so of every update or a later one. -/
def SessionsFollowPassword (config : SessionConfig) (s : AccountSystem) : Prop :=
  ∀ payload session, findSession config s.db payload s.clock = some session →
    ∀ earlier hash later, s.history.hashes payload.sub = earlier ++ hash :: later →
      ∃ verified, s.history.verified.get payload.sid = some verified ∧ verified ∈ hash :: later

/-- A session starts although the hash that its login verified is no longer stored. -/
def staleLogin (s : AccountSystem) : Action → Bool
  | .startSession l _ =>
      match s.logins.get l with
      | some (.starting id account _) =>
          (s.db.accounts.get id).any fun row => decide (row.passwordHash ≠ account.passwordHash)
      | _ => false
  | _ => false

def OpenSession (sessions : Table SessionId LoginSessionRow) (id : SessionId)
    (accountId : AccountId) : Prop :=
  ∃ session, sessions.get id = some session ∧ session.accountId = accountId ∧
    session.revokedAt = none

theorem open_of_touch {sessions : Table SessionId LoginSessionRow} {target id : SessionId}
    {accountId : AccountId} {now : Time}
    (isOpen : OpenSession (touchSession sessions target now) id accountId) :
    OpenSession sessions id accountId := by
  obtain ⟨session, stored, owner, unrevoked⟩ := isOpen
  rw [touchSession, Table.get_update_where, Option.map_eq_some_iff] at stored
  obtain ⟨earlier, held, rfl⟩ := stored
  refine ⟨earlier, held, ?_, ?_⟩
  · split at owner <;> exact owner
  · split at unrevoked <;> exact unrevoked

theorem open_of_revoke {sessions : Table SessionId LoginSessionRow}
    {guard : SessionId → LoginSessionRow → Bool} {id : SessionId} {accountId : AccountId}
    {now : Time} (isOpen : OpenSession (revokeWhere sessions guard now) id accountId) :
    OpenSession sessions id accountId ∧ ∃ session, guard id session = false := by
  obtain ⟨session, stored, owner, unrevoked⟩ := isOpen
  rw [revokeWhere, Table.get_update_where, Option.map_eq_some_iff] at stored
  obtain ⟨earlier, held, same⟩ := stored
  split at same
  · subst same
    cases unrevoked
  · rename_i skipped
    subst same
    refine ⟨⟨earlier, held, owner, unrevoked⟩, earlier, ?_⟩
    simpa [unrevoked] using skipped

theorem open_of_delete {sessions : Table SessionId LoginSessionRow}
    {guard : SessionId → LoginSessionRow → Bool} {id : SessionId} {accountId : AccountId}
    (isOpen : OpenSession (sessions.deleteWhere guard) id accountId) :
    OpenSession sessions id accountId := by
  obtain ⟨session, stored, rest⟩ := isOpen
  exact ⟨session, ((Table.get_delete_where_eq_some _ _ _ _).1 stored).1, rest⟩

structure PasswordInvariant (s : AccountSystem) : Prop where
  exclusive : LocksExclusive s
  written : ∀ t tx row patch passwordHash, s.txs.get t = some tx → tx.leaves = some row →
    tx.request = .update patch passwordHash → ∃ current, s.db.accounts.get tx.id = some current ∧
      row.passwordHash = passwordHash.getD current.passwordHash
  caught : ∀ t tx row sessions revokedAt id, s.txs.get t = some tx →
    tx.stage = .revoked row sessions revokedAt → OpenSession s.db.sessions id tx.id →
      id ∈ sessions
  latest : ∀ id account hash, s.db.accounts.get id = some account →
    (s.history.hashes id).getLast? = some hash → account.passwordHash = hash
  started : ∀ id accountId hash, OpenSession s.db.sessions id accountId →
    (s.history.hashes accountId).getLast? = some hash →
      s.history.verified.get id = some hash

theorem hashes_append (history : AccountHistory) (entries : List (AccountId × String))
    (id : AccountId) :
    AccountHistory.hashes
        { history with passwordUpdates := history.passwordUpdates ++ entries } id =
      history.hashes id ++ (entries.filter fun entry => decide (entry.1 = id)).map Prod.snd := by
  simp [AccountHistory.hashes]

theorem PasswordInvariant.of_sessions {s after : AccountSystem} (inv : PasswordInvariant s)
    (txs : after.txs = s.txs) (accounts : after.db.accounts = s.db.accounts)
    (history : after.history = s.history)
    (opens : ∀ id accountId, OpenSession after.db.sessions id accountId →
      OpenSession s.db.sessions id accountId) : PasswordInvariant after where
  exclusive := inv.exclusive.of_txs txs
  written := by
    rw [txs, accounts]
    exact inv.written
  caught := by
    rw [txs]
    intro t tx row sessions revokedAt id inProgress stage isOpen
    exact inv.caught t tx row sessions revokedAt id inProgress stage (opens id tx.id isOpen)
  latest := by
    rw [accounts, history]
    exact inv.latest
  started := by
    rw [history]
    intro id accountId hash isOpen
    exact inv.started id accountId hash (opens id accountId isOpen)

theorem PasswordInvariant.of_rollback {s : AccountSystem} (inv : PasswordInvariant s)
    (t : TxId) :
    PasswordInvariant { s with txs := s.txs.deleteWhere fun key _ => decide (key = t) } where
  exclusive := inv.exclusive.delete t
  written other tx row patch passwordHash stored := by
    have held := ((Table.get_delete_where_eq_some _ _ _ _).1 stored).1
    exact inv.written other tx row patch passwordHash held
  caught other tx row sessions revokedAt id stored := by
    have held := ((Table.get_delete_where_eq_some _ _ _ _).1 stored).1
    exact inv.caught other tx row sessions revokedAt id held
  latest := inv.latest
  started := inv.started

/-- A transaction that is put in place of itself or begins; its locks are its own. -/
theorem PasswordInvariant.of_put {s : AccountSystem} (inv : PasswordInvariant s) (t : TxId)
    {tx : AccountTx}
    (alone : tx.locks = true → ∀ other held, s.txs.get other = some held → other ≠ t →
      held.locks = true → held.id ≠ tx.id)
    (written : ∀ row patch passwordHash, tx.leaves = some row →
      tx.request = .update patch passwordHash → ∃ current,
        s.db.accounts.get tx.id = some current ∧
          row.passwordHash = passwordHash.getD current.passwordHash)
    (caught : ∀ row sessions revokedAt id, tx.stage = .revoked row sessions revokedAt →
      OpenSession s.db.sessions id tx.id → id ∈ sessions) :
    PasswordInvariant { s with txs := s.txs.put t tx } where
  exclusive := inv.exclusive.put t alone
  written other held row patch passwordHash stored := by
    dsimp only at stored ⊢
    rw [Table.get_put] at stored
    split at stored
    · cases stored
      exact written row patch passwordHash
    · exact inv.written other held row patch passwordHash stored
  caught other held row sessions revokedAt id stored := by
    dsimp only at stored ⊢
    rw [Table.get_put] at stored
    split at stored
    · cases stored
      exact caught row sessions revokedAt id
    · exact inv.caught other held row sessions revokedAt id stored
  latest := inv.latest
  started := inv.started

theorem PasswordInvariant.of_write {s : AccountSystem} (inv : PasswordInvariant s) {t : TxId}
    {tx written : AccountTx} (free : s.accountFree tx.id = true)
    (wrote : tx.write s.db.accounts = some written) :
    PasswordInvariant { s with txs := s.txs.put t written } := by
  unfold AccountTx.write at wrote
  split at wrote
  · rename_i row stage stored
    split at wrote
    · rename_i patch passwordHash request
      cases wrote
      apply inv.of_put t
      · intro _ other held inProgress _ locks
        exact account_free_iff.1 free other held inProgress locks
      · intro written patch' passwordHash' leaves request'
        rw [request] at request'
        cases request'
        cases leaves
        exact ⟨row, stored, rfl⟩
      · intro _ _ _ _ stage'
        cases stage'
    · cases wrote
      apply inv.of_put t
      · intro _ other held inProgress _ locks
        exact account_free_iff.1 free other held inProgress locks
      · intro _ _ _ leaves
        cases leaves
      · intro _ _ _ _ stage'
        cases stage'
  · cases wrote

theorem PasswordInvariant.of_revoke {s : AccountSystem} (inv : PasswordInvariant s) {t : TxId}
    {tx revoked : AccountTx} (inProgress : s.txs.get t = some tx) {now : Time}
    (found : tx.revoke s.db.sessions now = some revoked) :
    PasswordInvariant { s with txs := s.txs.put t revoked } := by
  unfold AccountTx.revoke at found
  split at found
  · rename_i patch passwordHash row request stage
    split at found
    · cases found
      have locks : tx.locks = true := by simp [AccountTx.locks, stage]
      apply inv.of_put t
      · intro _ other held stored apart heldLocks same
        exact apart (inv.exclusive other t held tx stored inProgress heldLocks locks same)
      · intro written patch' passwordHash' leaves request'
        cases leaves
        exact inv.written t tx row patch' passwordHash' inProgress
          (by simp [AccountTx.leaves, stage]) request'
      · intro written sessions revokedAt id stage' isOpen
        cases stage'
        obtain ⟨session, stored, owner, unrevoked⟩ := isOpen
        refine List.mem_map.2 ⟨(id, session), (Table.mem_select _ _ _ _).2 ⟨stored, ?_⟩, rfl⟩
        simp [owner, unrevoked]
    · cases found
  · cases found

theorem PasswordInvariant.of_start {s after : AccountSystem} (inv : PasswordInvariant s)
    {config : SessionConfig} {id : AccountId} {verified : AccountRow} {now : Time}
    {sessionId : SessionId}
    (fresh : ∀ row, s.db.accounts.get id = some row → row.passwordHash = verified.passwordHash)
    (started : s.startSession config id verified now sessionId = some after) :
    PasswordInvariant after := by
  simp only [AccountSystem.startSession, Option.ite_none_right_eq_some, Option.map_eq_some_iff,
    Bool.and_eq_true, Option.isSome_iff_exists] at started
  obtain ⟨⟨free, row, stored⟩, sessions, inserted, rfl⟩ := started
  rw [Table.insert_new_eq_some] at inserted
  obtain ⟨unused, rfl⟩ := inserted
  have opened : ∀ other accountId,
      OpenSession (s.db.sessions.put sessionId (newSession config id now)) other accountId →
        (other = sessionId ∧ accountId = id) ∨
          (other ≠ sessionId ∧ OpenSession s.db.sessions other accountId) := by
    rintro other accountId ⟨session, found, owner, unrevoked⟩
    rw [Table.get_put] at found
    split at found
    · rename_i same
      cases found
      exact Or.inl ⟨same, owner.symm⟩
    · rename_i apart
      exact Or.inr ⟨apart, session, found, owner, unrevoked⟩
  constructor
  case exclusive => exact inv.exclusive
  case written =>
    intro t tx left patch passwordHash inProgress leaves request
    have apart := account_free_iff.1 free t tx inProgress (leaves_locks leaves)
    dsimp only
    rw [Table.get_update_key_other _ _ apart]
    exact inv.written t tx left patch passwordHash inProgress leaves request
  case caught =>
    intro t tx left found revokedAt other inProgress stage isOpen
    have locks : tx.locks = true := by simp [AccountTx.locks, stage]
    rcases opened other tx.id isOpen with ⟨-, same⟩ | ⟨-, earlier⟩
    · exact absurd same (account_free_iff.1 free t tx inProgress locks)
    · exact inv.caught t tx left found revokedAt other inProgress stage earlier
  case latest =>
    intro other account hash found last
    dsimp only at found
    rw [Table.get_update_key] at found
    split at found
    · obtain ⟨earlier, held, rfl⟩ := Option.map_eq_some_iff.1 found
      exact inv.latest other earlier hash held last
    · exact inv.latest other account hash found last
  case started =>
    intro other accountId hash isOpen last
    dsimp only
    rw [Table.get_put]
    rcases opened other accountId isOpen with ⟨rfl, rfl⟩ | ⟨apart, earlier⟩
    · rw [if_pos rfl, ← fresh row stored]
      exact congrArg some (inv.latest accountId row hash stored last)
    · rw [if_neg apart]
      exact inv.started other accountId hash earlier last

theorem hashes_of_commit (history : AccountHistory) (tx : AccountTx) (id : AccountId) :
    AccountHistory.hashes
        { history with passwordUpdates := history.passwordUpdates ++ tx.passwordUpdates } id =
      if id = tx.id then
        match tx.request with
        | .update _ (some hash) => history.hashes id ++ [hash]
        | _ => history.hashes id
      else history.hashes id := by
  rw [hashes_append, AccountTx.passwordUpdates]
  cases tx.request with
  | remove => simp
  | update patch passwordHash =>
      cases passwordHash with
      | none => simp
      | some hash =>
          by_cases own : id = tx.id
          · simp [own]
          · simp [own, Ne.symm own]

theorem ends_sessions_false {passwordHash : Option String} {current updated : AccountRow}
    (keeps : endsSessions passwordHash current updated = false) : passwordHash = none := by
  rw [endsSessions, Bool.or_eq_false_iff] at keeps
  simpa using keeps.1

theorem PasswordInvariant.latest_commit {s : AccountSystem} (inv : PasswordInvariant s)
    {t : TxId} {tx : AccountTx} {db : AccountsDatabase} (inProgress : s.txs.get t = some tx)
    {row account : AccountRow} {patch : AccountPatch} {passwordHash : Option String}
    (request : tx.request = .update patch passwordHash) (leaves : tx.leaves = some row)
    (accounts : db.accounts = s.db.accounts.put tx.id row) {hash : String}
    (stored : db.accounts.get tx.id = some account)
    (last : (AccountHistory.hashes
      { s.history with
        passwordUpdates := s.history.passwordUpdates ++ tx.passwordUpdates } tx.id).getLast? =
          some hash) : account.passwordHash = hash := by
  obtain ⟨current, held, written⟩ := inv.written t tx row patch passwordHash inProgress leaves
    request
  rw [accounts, Table.get_put, if_pos rfl, Option.some.injEq] at stored
  subst stored
  rw [hashes_of_commit, if_pos rfl, request] at last
  cases passwordHash with
  | none =>
      have before := inv.latest tx.id current hash held last
      exact written.trans before
  | some given =>
      rw [List.getLast?_concat, Option.some.injEq] at last
      exact written.trans last

theorem PasswordInvariant.of_commit {s : AccountSystem} (inv : PasswordInvariant s) {t : TxId}
    {tx : AccountTx} (inProgress : s.txs.get t = some tx) {db : AccountsDatabase}
    (done : tx.commit s.db = some db) :
    PasswordInvariant
      { s with
        db := db
        txs := s.txs.deleteWhere fun key _ => decide (key = t)
        history :=
          { s.history with
            passwordUpdates := s.history.passwordUpdates ++ tx.passwordUpdates } } := by
  have remaining : ∀ other held,
      (s.txs.deleteWhere fun key _ => decide (key = t)).get other = some held →
        s.txs.get other = some held ∧ (held.locks = true → held.id ≠ tx.id) := by
    intro other held stored
    obtain ⟨stored, apart⟩ := (Table.get_delete_where_eq_some _ _ _ _).1 stored
    refine ⟨stored, fun locks same => ?_⟩
    rw [inv.exclusive other t held tx stored inProgress locks (commit_locks done) same] at apart
    simp at apart
  -- the sessions that stay open were open, and are of other accounts if there is a new hash
  have opens : ∀ id accountId, OpenSession db.sessions id accountId →
      OpenSession s.db.sessions id accountId ∧
        (accountId = tx.id → ∀ patch hash, tx.request ≠ .update patch (some hash)) := by
    intro id accountId isOpen
    cases commit_cases done with
    | updated patch passwordHash row request stage keeps =>
        refine ⟨isOpen, fun _ patch' hash request' => ?_⟩
        rw [request, ends_sessions_false keeps] at request'
        cases request'
    | revoked patch passwordHash row sessions revokedAt request stage =>
        obtain ⟨earlier, _, skipped⟩ := open_of_revoke isOpen
        refine ⟨earlier, fun own _ _ _ => ?_⟩
        have found := inv.caught t tx row sessions revokedAt id inProgress stage (own ▸ earlier)
        simp [found] at skipped
    | removed request stage =>
        refine ⟨open_of_delete isOpen, fun _ patch hash request' => ?_⟩
        rw [request] at request'
        cases request'
  have hashesKept : ∀ id accountId, OpenSession db.sessions id accountId →
      AccountHistory.hashes
          { s.history with
            passwordUpdates := s.history.passwordUpdates ++ tx.passwordUpdates } accountId =
        s.history.hashes accountId := by
    intro id accountId isOpen
    rw [hashes_of_commit]
    split
    · rename_i own
      split
      · rename_i patch hash request
        exact absurd request ((opens id accountId isOpen).2 own patch hash)
      · rfl
    · rfl
  constructor
  case exclusive =>
    intro first second left right storedLeft storedRight
    exact inv.exclusive first second left right (remaining first left storedLeft).1
      (remaining second right storedRight).1
  case written =>
    intro other held row patch passwordHash stored leaves request
    obtain ⟨stored, apart⟩ := remaining other held stored
    dsimp only
    rw [commit_other_account done (apart (leaves_locks leaves))]
    exact inv.written other held row patch passwordHash stored leaves request
  case caught =>
    intro other held row sessions revokedAt id stored stage isOpen
    exact inv.caught other held row sessions revokedAt id (remaining other held stored).1 stage
      (opens id held.id isOpen).1
  case latest =>
    intro id account hash stored last
    by_cases own : id = tx.id
    · subst own
      cases commit_cases done with
      | updated patch passwordHash row request stage keeps =>
          exact inv.latest_commit inProgress request (by simp [AccountTx.leaves, stage]) rfl
            stored last
      | revoked patch passwordHash row sessions revokedAt request stage =>
          exact inv.latest_commit inProgress request (by simp [AccountTx.leaves, stage]) rfl
            stored last
      | removed request stage =>
          dsimp only at stored
          rw [Table.get_delete_where_eq_some] at stored
          simp at stored
    · dsimp only at stored last
      rw [commit_other_account done own] at stored
      rw [hashes_of_commit, if_neg own] at last
      exact inv.latest id account hash stored last
  case started =>
    intro id accountId hash isOpen last
    dsimp only at last
    rw [hashesKept id accountId isOpen] at last
    exact inv.started id accountId hash (opens id accountId isOpen).1 last

theorem PasswordInvariant.step {scheme : PasswordScheme} {config : SessionConfig}
    {s after : AccountSystem} {a : Action} (inv : PasswordInvariant s)
    (fresh : staleLogin s a = false) (taken : step scheme config s a = some after) :
    PasswordInvariant after := by
  cases step_cases taken with
  | idle _ _ db txs history =>
      exact inv.of_sessions txs (by rw [db]) history (fun _ _ isOpen => db ▸ isOpen)
  | started l id account now sessionId next logins starting started =>
      have current : ∀ row, s.db.accounts.get id = some row →
          row.passwordHash = account.passwordHash := by
        intro row stored
        simpa [staleLogin, starting, stored] using fresh
      have next := inv.of_start current started
      exact next.of_sessions rfl rfl rfl fun _ _ isOpen => isOpen
  | touched => exact inv.of_sessions rfl rfl rfl fun _ _ isOpen => open_of_touch isOpen
  | loggedOut => exact inv.of_sessions rfl rfl rfl fun _ _ isOpen => (open_of_revoke isOpen).1
  | begun t _ tx stage unused _ =>
      have unlocked : tx.locks = false := by simp [AccountTx.locks, stage]
      apply inv.of_put t
      · intro locks
        rw [unlocked] at locks
        cases locks
      · intro row _ _ leaves
        have locks := leaves_locks leaves
        rw [unlocked] at locks
        cases locks
      · intro _ _ _ _ stage'
        rw [stage] at stage'
        cases stage'
  | written t tx written inProgress free wrote => exact inv.of_write free wrote
  | revoked t tx revoked inProgress found => exact inv.of_revoke inProgress found
  | committed t tx db inProgress done => exact inv.of_commit inProgress done
  | rolledBack t => exact inv.of_rollback t

theorem PasswordInvariant.initial (db : AccountsDatabase) :
    PasswordInvariant (AccountSystem.initial db) := by
  constructor <;> simp [AccountSystem.initial, AccountHistory.hashes, LocksExclusive]

theorem PasswordInvariant.follows {s : AccountSystem} (inv : PasswordInvariant s)
    (config : SessionConfig) : SessionsFollowPassword config s := by
  intro payload session found earlier hash later hashes
  rw [findSession, Option.filter_eq_some_iff] at found
  obtain ⟨stored, accepted⟩ := found
  simp only [LoginSessionRow.accepts, Bool.and_eq_true, decide_eq_true_eq,
    Option.isNone_iff_eq_none] at accepted
  have isOpen : OpenSession s.db.sessions payload.sid payload.sub :=
    ⟨session, stored, accepted.1.1.1, accepted.1.1.2⟩
  have last : (s.history.hashes payload.sub).getLast? =
      some ((hash :: later).getLast (by simp)) := by
    rw [hashes, List.getLast?_append_of_ne_nil _ (by simp), List.getLast?_eq_some_getLast]
  exact ⟨_, inv.started payload.sid payload.sub _ isOpen last, List.getLast_mem _⟩

/-- While no session starts under a hash that is no longer stored, a password update ends
every session obtained before it. -/
theorem sessions_follow_password (scheme : PasswordScheme) (config : SessionConfig)
    {db : AccountsDatabase} {visited : List (AccountSystem × Action)} {s : AccountSystem}
    (run : Transition.Run (step scheme config) (AccountSystem.initial db) visited s)
    (fresh : Transition.Along (fun state action => staleLogin state action = false) visited) :
    SessionsFollowPassword config s := by
  have inv : PasswordInvariant s :=
    run.preserves (fun state action => staleLogin state action = false) PasswordInvariant
      (PasswordInvariant.initial db)
      (fun _ _ _ holds allowed taken => holds.step allowed taken) fresh
  exact inv.follows config

namespace Sample

def setPassword (password : String) : AccountPatch where
  username := none
  password := some password
  role := none
  enabled := none

/-- Lee gives Kim's account a new password. -/
def changePassword (password : String) : List Action :=
  [.beginUpdate 1 2 1 (setPassword password) (some password)] ++ finish 1

def verify (password : String) : List Action := [.findAccount 1 "kim" password]

def start (id : SessionId) : List Action := [.beginStart 1, .startSession 1 id]

def loginAfterUpdate : List Action :=
  authenticate 2 ⟨2, 2⟩ ++ changePassword "third" ++ verify "third" ++ start 3

def loginAcrossUpdate : List Action :=
  authenticate 2 ⟨2, 2⟩ ++ verify "first" ++ changePassword "third" ++ start 3

end Sample

theorem sessions_follow_password_sample :
    ∃ visited s, Transition.Run (step Sample.scheme Sample.config)
        (AccountSystem.initial Sample.database) visited s ∧
      SessionsFollowPassword Sample.config s := by
  obtain ⟨visited, s, run, fresh, -⟩ := @Transition.run_avoiding_of_replay _ _
    (step Sample.scheme Sample.config) (AccountSystem.initial Sample.database)
    Sample.loginAfterUpdate staleLogin (fun _ => true) (by decide +kernel)
  exact ⟨visited, s, run, sessions_follow_password Sample.scheme Sample.config run fresh⟩

/-- A login that verified the old password starts its session after the update. -/
theorem session_survives_password_update :
    ∃ scheme config db s, Reachable scheme config db s ∧ ¬ SessionsFollowPassword config s := by
  obtain ⟨visited, s, run, outcome⟩ := @Transition.run_of_replay_satisfies _ _
    (step Sample.scheme Sample.config) (AccountSystem.initial Sample.database)
    Sample.loginAcrossUpdate
    (fun _ s => (findSession Sample.config s.db ⟨1, 3⟩ s.clock).isSome &&
      s.history.hashes 1 = ["third"] && s.history.verified.get 3 = some "first")
    (by decide +kernel)
  simp only [Bool.and_eq_true, decide_eq_true_eq, Option.isSome_iff_exists] at outcome
  obtain ⟨⟨⟨session, accepted⟩, hashes⟩, verified⟩ := outcome
  refine ⟨Sample.scheme, Sample.config, Sample.database, s, ⟨visited, run⟩, fun follows => ?_⟩
  obtain ⟨other, held, member⟩ := follows ⟨1, 3⟩ session accepted [] "third" [] hashes
  rw [verified, Option.some.injEq] at held
  subst held
  simp at member

end LinkAlive.Accounts
