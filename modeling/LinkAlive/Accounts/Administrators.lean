import LinkAlive.Accounts.System

/-!
# The last administrator

The guard of the account service counts the active administrators of a snapshot. Two
transactions that take away different administrators lock different rows, so neither
sees the other in its count.
-/

namespace LinkAlive.Accounts

set_option autoImplicit false

open Relational

def HasActiveAdmin (db : AccountsDatabase) : Prop :=
  ∃ id account, db.accounts.get id = some account ∧ account.isActiveAdmin = true

def OtherAdmin (accounts : Table AccountId AccountRow) (id : AccountId) : Prop :=
  ∃ other account, other ≠ id ∧ accounts.get other = some account ∧ account.isActiveAdmin = true

/-- A commit takes one of the last two active administrators away while another transaction,
whose guard has counted both, takes the other one away. -/
def takesBoth (s : AccountSystem) : Action → Bool
  | .commit t =>
      (s.txs.get t).any fun tx =>
        tx.takesAway s.db.accounts && activeAdmins s.db.accounts ≤ 2 &&
          !s.txs.every fun _ other => other.id = tx.id || !other.takesAway s.db.accounts
  | _ => false

/-- More active administrators than there are ids: one has none of these. -/
theorem admin_outside {accounts : Table AccountId AccountRow} (ids : List AccountId)
    (more : ids.length < activeAdmins accounts) :
    ∃ id account, id ∉ ids ∧ accounts.get id = some account ∧ account.isActiveAdmin = true := by
  have nodup := Table.select_keys_nodup accounts fun _ account => account.isActiveAdmin
  by_contra all
  have covered : ((accounts.select fun _ account => account.isActiveAdmin).map Prod.fst) ⊆ ids := by
    intro id member
    by_contra outside
    obtain ⟨⟨_, account⟩, found, rfl⟩ := List.mem_map.1 member
    obtain ⟨stored, active⟩ := (Table.mem_select _ _ _ _).1 found
    exact all ⟨_, account, outside, stored, active⟩
  have short := (List.subperm_of_subset nodup covered).length_le
  rw [List.length_map] at short
  exact absurd more (Nat.not_lt.2 short)

theorem other_admin_of_count {accounts : Table AccountId AccountRow} (id : AccountId)
    (several : 1 < activeAdmins accounts) : OtherAdmin accounts id := by
  obtain ⟨other, account, outside, stored, active⟩ := admin_outside [id] several
  exact ⟨other, account, fun same => outside (List.mem_singleton.2 same), stored, active⟩

section Lowering

variable {tx : AccountTx} {first second : AccountRow}

/-- What a request does to an active administrator does not depend on the row. -/
theorem lowers_of_active (before : first.isActiveAdmin = true)
    (after : second.isActiveAdmin = true) : tx.lowers first = tx.lowers second := by
  rw [AccountTx.lowers, AccountTx.lowers, before, after, Bool.true_and, Bool.true_and]
  cases tx.request with
  | remove => rfl
  | update patch passwordHash =>
      rw [AccountRow.isActiveAdmin, Bool.and_eq_true, decide_eq_true_iff] at before after
      simp only [AccountPatch.lowers, AccountPatch.nextRole, AccountPatch.nextEnabled, before,
        after]

theorem lowers_active (lowers : tx.lowers first = true) : first.isActiveAdmin = true := by
  rw [AccountTx.lowers, Bool.and_eq_true] at lowers
  exact lowers.1

theorem takes_away_iff {accounts : Table AccountId AccountRow} :
    tx.takesAway accounts = true ↔
      ∃ account, accounts.get tx.id = some account ∧ tx.lowers account = true := by
  rw [AccountTx.takesAway, Option.any_eq_true]

end Lowering

structure AdminInvariant (s : AccountSystem) : Prop where
  held : HasActiveAdmin s.db
  exclusive : LocksExclusive s
  written : ∀ t tx row patch passwordHash, s.txs.get t = some tx → tx.leaves = some row →
    tx.request = .update patch passwordHash → ∃ current, s.db.accounts.get tx.id = some current ∧
      row.isActiveAdmin = !patch.lowers current
  others : ∀ t tx, s.txs.get t = some tx → tx.takesAway s.db.accounts = true →
    OtherAdmin s.db.accounts tx.id

section Invariant

variable {s after : AccountSystem} {t : TxId} {tx : AccountTx} {db : AccountsDatabase}

theorem AdminInvariant.of_accounts (inv : AdminInvariant s) (txs : after.txs = s.txs)
    (accounts : after.db.accounts = s.db.accounts) : AdminInvariant after where
  held := by
    rw [HasActiveAdmin, accounts]
    exact inv.held
  exclusive := inv.exclusive.of_txs txs
  written := by
    rw [txs, accounts]
    exact inv.written
  others := by
    rw [txs, accounts]
    exact inv.others

theorem AdminInvariant.delete (inv : AdminInvariant s) (t : TxId) :
    AdminInvariant { s with txs := s.txs.deleteWhere fun key _ => decide (key = t) } where
  held := inv.held
  exclusive := inv.exclusive.delete t
  written other held row patch passwordHash stored :=
    inv.written other held row patch passwordHash
      ((Table.get_delete_where_eq_some _ _ _ _).1 stored).1
  others other held stored :=
    inv.others other held ((Table.get_delete_where_eq_some _ _ _ _).1 stored).1

theorem AdminInvariant.put (inv : AdminInvariant s) (t : TxId)
    (alone : tx.locks = true → ∀ other held, s.txs.get other = some held → other ≠ t →
      held.locks = true → held.id ≠ tx.id)
    (written : ∀ row patch passwordHash, tx.leaves = some row →
      tx.request = .update patch passwordHash → ∃ current,
        s.db.accounts.get tx.id = some current ∧ row.isActiveAdmin = !patch.lowers current)
    (others : tx.takesAway s.db.accounts = true → OtherAdmin s.db.accounts tx.id) :
    AdminInvariant { s with txs := s.txs.put t tx } where
  held := inv.held
  exclusive := inv.exclusive.put t alone
  written other held row patch passwordHash stored := by
    dsimp only at stored
    rw [Table.get_put] at stored
    split at stored
    · cases stored
      exact written row patch passwordHash
    · exact inv.written other held row patch passwordHash stored
  others other held stored := by
    dsimp only at stored
    rw [Table.get_put] at stored
    split at stored
    · cases stored
      exact others
    · exact inv.others other held stored

theorem AdminInvariant.write (inv : AdminInvariant s) (inProgress : s.txs.get t = some tx)
    {written : AccountTx} (free : s.accountFree tx.id = true)
    (wrote : tx.write s.db.accounts = some written) :
    AdminInvariant { s with txs := s.txs.put t written } := by
  have others := inv.others t tx inProgress
  rw [AccountTx.write] at wrote
  split at wrote
  case h_2 => cases wrote
  case h_1 row stage stored =>
    split at wrote
    case h_1 patch passwordHash request =>
      cases wrote
      apply inv.put t
      · intro _ other held stored _ locks
        exact account_free_iff.1 free other held stored locks
      · intro left patch' passwordHash' leaves request'
        rw [request] at request'
        cases request'
        cases leaves
        exact ⟨row, stored, apply_is_active_admin patch passwordHash row⟩
      · exact others
    case h_2 =>
      cases wrote
      apply inv.put t
      · intro _ other held stored _ locks
        exact account_free_iff.1 free other held stored locks
      · intro _ _ _ leaves
        cases leaves
      · exact others

theorem AdminInvariant.revoke (inv : AdminInvariant s) (inProgress : s.txs.get t = some tx)
    {revoked : AccountTx} {now : Time} (found : tx.revoke s.db.sessions now = some revoked) :
    AdminInvariant { s with txs := s.txs.put t revoked } := by
  have others := inv.others t tx inProgress
  rw [AccountTx.revoke] at found
  split at found
  case h_2 => cases found
  case h_1 patch passwordHash row request stage =>
    split at found
    case isFalse => cases found
    case isTrue =>
      cases found
      have locks : tx.locks = true := by
        rw [AccountTx.locks, stage]
        rfl
      have leaves : tx.leaves = some row := by
        rw [AccountTx.leaves, stage]
      apply inv.put t
      · intro _ other held stored apart heldLocks same
        exact apart (inv.exclusive other t held tx stored inProgress heldLocks locks same)
      · intro left patch' passwordHash' same request'
        cases same
        exact inv.written t tx row patch' passwordHash' inProgress leaves request'
      · exact others

/-- A login only writes the time of the login to an account that nobody has locked. -/
theorem AdminInvariant.start (inv : AdminInvariant s) {config : SessionConfig} {id : AccountId}
    {account : AccountRow} {now : Time} {sessionId : SessionId}
    (started : s.startSession config id account now sessionId = some after) :
    AdminInvariant after := by
  simp only [AccountSystem.startSession, Option.ite_none_right_eq_some, Option.map_eq_some_iff,
    Bool.and_eq_true] at started
  obtain ⟨⟨free, -⟩, sessions, -, rfl⟩ := started
  let login (other : AccountId) (row : AccountRow) : AccountRow :=
    if other = id then row.loggedIn now else row
  have logins : ∀ other, (s.db.accounts.updateKey id (AccountRow.loggedIn now)).get other =
      (s.db.accounts.get other).map (login other) := by
    intro other
    rw [Table.get_update_key]
    by_cases same : other = id
    · simp only [login, if_pos same]
    · simp only [login, if_neg same, Option.map_id']
  have active : ∀ other row, (login other row).isActiveAdmin = row.isActiveAdmin := by
    intro other row
    simp only [login]
    split <;> rfl
  have stays : ∀ other, OtherAdmin s.db.accounts other →
      OtherAdmin (s.db.accounts.updateKey id (AccountRow.loggedIn now)) other := by
    rintro other ⟨admin, row, apart, stored, isActive⟩
    refine ⟨admin, login admin row, apart, ?_, (active admin row).trans isActive⟩
    rw [logins, stored, Option.map_some]
  constructor
  case held =>
    obtain ⟨admin, row, stored, isActive⟩ := inv.held
    refine ⟨admin, login admin row, ?_, (active admin row).trans isActive⟩
    dsimp only
    rw [logins, stored, Option.map_some]
  case exclusive => exact inv.exclusive
  case written =>
    intro t tx row patch passwordHash inProgress leaves request
    have apart := account_free_iff.1 free t tx inProgress (leaves_locks leaves)
    dsimp only
    rw [Table.get_update_key_other _ _ apart]
    exact inv.written t tx row patch passwordHash inProgress leaves request
  case others =>
    intro t tx inProgress takes
    apply stays
    apply inv.others t tx inProgress
    rw [takes_away_iff] at takes ⊢
    obtain ⟨row, stored, lowers⟩ := takes
    dsimp only at stored
    rw [logins, Option.map_eq_some_iff] at stored
    obtain ⟨earlier, found, rfl⟩ := stored
    have before := lowers_active lowers
    rw [active] at before
    refine ⟨earlier, found, ?_⟩
    rw [lowers_of_active before (lowers_active lowers)]
    exact lowers

/-- The account of a commit is an active administrator afterwards if it was one before and the
request does not take it away. -/
theorem AdminInvariant.committed_account (inv : AdminInvariant s)
    (inProgress : s.txs.get t = some tx) (done : tx.commit s.db = some db)
    {current : AccountRow} (stored : s.db.accounts.get tx.id = some current)
    (active : current.isActiveAdmin = true) :
    (db.accounts.get tx.id).any AccountRow.isActiveAdmin = !tx.lowers current := by
  have updated : ∀ row patch passwordHash, tx.leaves = some row →
      tx.request = .update patch passwordHash → row.isActiveAdmin = !tx.lowers current := by
    intro row patch passwordHash leaves request
    obtain ⟨found, held, written⟩ := inv.written t tx row patch passwordHash inProgress leaves
      request
    rw [stored, Option.some_inj] at held
    rw [written, ← held, AccountTx.lowers, request, active, Bool.true_and]
  cases commit_cases done with
  | updated patch passwordHash row request stage ends =>
      have same := updated row patch passwordHash (by rw [AccountTx.leaves, stage]) request
      dsimp only
      rw [Table.get_put, if_pos rfl, Option.any_some, same]
  | revoked patch passwordHash row sessions revokedAt request stage =>
      have same := updated row patch passwordHash (by rw [AccountTx.leaves, stage]) request
      dsimp only
      rw [Table.get_put, if_pos rfl, Option.any_some, same]
  | removed request stage =>
      have gone : (s.db.accounts.deleteWhere fun id _ => decide (id = tx.id)).get tx.id = none := by
        apply Option.eq_none_iff_forall_ne_some.2
        intro row found
        have kept := ((Table.get_delete_where_eq_some _ _ _ _).1 found).2
        rw [decide_eq_true rfl] at kept
        cases kept
      dsimp only
      rw [gone, AccountTx.lowers, request, active]
      rfl

theorem other_admin_committed (done : tx.commit s.db = some db) {id : AccountId}
    (other : ∃ admin account, admin ≠ id ∧ admin ≠ tx.id ∧
      s.db.accounts.get admin = some account ∧ account.isActiveAdmin = true) :
    OtherAdmin db.accounts id := by
  obtain ⟨admin, account, apart, foreign, stored, active⟩ := other
  exact ⟨admin, account, apart, (commit_other_account done foreign).trans stored, active⟩

theorem AdminInvariant.commit_taking (inv : AdminInvariant s)
    (inProgress : s.txs.get t = some tx) (done : tx.commit s.db = some db)
    (apart : takesBoth s (.commit t) = false) (takes : tx.takesAway s.db.accounts = true) :
    HasActiveAdmin db ∧ ∀ other held, s.txs.get other = some held →
      held.takesAway db.accounts = true → OtherAdmin db.accounts held.id := by
  constructor
  · obtain ⟨admin, account, foreign, stored, active⟩ := inv.others t tx inProgress takes
    exact ⟨admin, account, (commit_other_account done foreign).trans stored, active⟩
  · intro other held stored takesLater
    obtain ⟨current, found, lowers⟩ := takes_away_iff.1 takes
    obtain ⟨row, written, lowersLater⟩ := takes_away_iff.1 takesLater
    have inactive := inv.committed_account inProgress done found (lowers_active lowers)
    rw [lowers] at inactive
    have foreign : held.id ≠ tx.id := by
      intro same
      rw [← same, written, Option.any_some, lowers_active lowersLater] at inactive
      cases inactive
    have earlier : held.takesAway s.db.accounts = true :=
      takes_away_iff.2 ⟨row, (commit_other_account done foreign).symm.trans written, lowersLater⟩
    -- a third administrator: otherwise the two transactions take the last two away
    have several : 2 < activeAdmins s.db.accounts := by
      by_contra few
      have small : decide (activeAdmins s.db.accounts ≤ 2) = true :=
        decide_eq_true (Nat.not_lt.1 few)
      simp only [takesBoth, inProgress, Option.any_some, takes, small, Bool.true_and,
        Bool.not_eq_false', Table.every_iff] at apart
      have same := apart other held stored
      rw [decide_eq_false foreign, earlier] at same
      cases same
    obtain ⟨admin, account, outside, stays, active⟩ := admin_outside [held.id, tx.id] several
    rw [List.mem_cons, List.mem_singleton, not_or] at outside
    exact other_admin_committed done ⟨admin, account, outside.1, outside.2, stays, active⟩

theorem AdminInvariant.commit_keeping (inv : AdminInvariant s)
    (inProgress : s.txs.get t = some tx) (done : tx.commit s.db = some db)
    (keeps : tx.takesAway s.db.accounts = false) :
    HasActiveAdmin db ∧ ∀ other held, s.txs.get other = some held →
      held.takesAway db.accounts = true → OtherAdmin db.accounts held.id := by
  have stays : ∀ id account, s.db.accounts.get id = some account →
      account.isActiveAdmin = true →
        ∃ after, db.accounts.get id = some after ∧ after.isActiveAdmin = true := by
    intro id account stored active
    by_cases own : id = tx.id
    · rw [own] at stored ⊢
      have same := inv.committed_account inProgress done stored active
      rw [AccountTx.takesAway, stored, Option.any_some] at keeps
      rw [keeps, Bool.not_false, Option.any_eq_true] at same
      exact same
    · exact ⟨account, (commit_other_account done own).trans stored, active⟩
  constructor
  · obtain ⟨id, account, stored, active⟩ := inv.held
    obtain ⟨after, written, still⟩ := stays id account stored active
    exact ⟨id, after, written, still⟩
  · intro other held stored takesLater
    have before : OtherAdmin s.db.accounts held.id := by
      by_cases earlier : held.takesAway s.db.accounts = true
      · exact inv.others other held stored earlier
      · -- the account has become an active administrator by this commit
        obtain ⟨row, written, lowers⟩ := takes_away_iff.1 takesLater
        obtain ⟨id, account, found, active⟩ := inv.held
        refine ⟨id, account, ?_, found, active⟩
        rintro rfl
        apply earlier
        rw [takes_away_iff]
        refine ⟨account, found, ?_⟩
        rw [lowers_of_active active (lowers_active lowers)]
        exact lowers
    obtain ⟨id, account, apart, found, active⟩ := before
    obtain ⟨after, written, still⟩ := stays id account found active
    exact ⟨id, after, apart, written, still⟩

theorem AdminInvariant.commit (inv : AdminInvariant s) (inProgress : s.txs.get t = some tx)
    (done : tx.commit s.db = some db) (apart : takesBoth s (.commit t) = false)
    (history : AccountHistory) :
    AdminInvariant { s with
      db := db
      txs := s.txs.deleteWhere fun key _ => decide (key = t)
      history := history } := by
  have both : HasActiveAdmin db ∧ ∀ other held, s.txs.get other = some held →
      held.takesAway db.accounts = true → OtherAdmin db.accounts held.id := by
    cases takes : tx.takesAway s.db.accounts with
    | true => exact inv.commit_taking inProgress done apart takes
    | false => exact inv.commit_keeping inProgress done takes
  have remaining : ∀ other held,
      (s.txs.deleteWhere fun key _ => decide (key = t)).get other = some held →
        s.txs.get other = some held ∧ other ≠ t := by
    intro other held stored
    obtain ⟨stored, different⟩ := (Table.get_delete_where_eq_some _ _ _ _).1 stored
    exact ⟨stored, of_decide_eq_false different⟩
  constructor
  case held => exact both.1
  case exclusive => exact inv.exclusive.delete t
  case written =>
    intro other held row patch passwordHash stored leaves request
    obtain ⟨stored, different⟩ := remaining other held stored
    have foreign : held.id ≠ tx.id := by
      intro same
      exact different (inv.exclusive other t held tx stored inProgress (leaves_locks leaves)
        (commit_locks done) same)
    dsimp only
    rw [commit_other_account done foreign]
    exact inv.written other held row patch passwordHash stored leaves request
  case others =>
    intro other held stored
    exact both.2 other held (remaining other held stored).1

theorem AdminInvariant.step {scheme : PasswordScheme} {config : SessionConfig} {a : Action}
    (inv : AdminInvariant s) (apart : takesBoth s a = false)
    (taken : step scheme config s a = some after) : AdminInvariant after := by
  cases step_cases taken with
  | idle _ _ db txs history => exact inv.of_accounts txs (by rw [db])
  | started l id account now sessionId next logins _ started =>
      have next := inv.start started
      exact next.of_accounts rfl rfl
  | touched => exact inv.of_accounts rfl rfl
  | loggedOut => exact inv.of_accounts rfl rfl
  | begun t _ tx stage _ guarded =>
      have unlocked : tx.locks = false := by
        rw [AccountTx.locks, stage]
        rfl
      apply inv.put t
      · intro locks
        rw [unlocked] at locks
        cases locks
      · intro row _ _ leaves
        rw [leaves_locks leaves] at unlocked
        cases unlocked
      · exact fun takes => other_admin_of_count tx.id (guarded takes)
  | written t tx written inProgress free wrote => exact inv.write inProgress free wrote
  | revoked t tx revoked inProgress found => exact inv.revoke inProgress found
  | committed t tx db inProgress done => exact inv.commit inProgress done apart _
  | rolledBack t => exact inv.delete t

end Invariant

/-- Some administrator stays active while no two transactions take the last two away at the
same time. -/
theorem active_admin_remains (scheme : PasswordScheme) (config : SessionConfig)
    {db : AccountsDatabase} (held : HasActiveAdmin db) {visited : List (AccountSystem × Action)}
    {s : AccountSystem}
    (run : Transition.Run (step scheme config) (AccountSystem.initial db) visited s)
    (apart : Transition.Along (fun state action => takesBoth state action = false) visited) :
    HasActiveAdmin s.db := by
  have initially : AdminInvariant (AccountSystem.initial db) :=
    { held := held
      exclusive := fun _ _ _ _ stored => by cases stored
      written := fun _ _ _ _ _ stored => by cases stored
      others := fun _ _ stored => by cases stored }
  have inv : AdminInvariant s :=
    run.preserves (fun state action => takesBoth state action = false) AdminInvariant initially
      (fun _ _ _ holds allowed taken => holds.step allowed taken) apart
  exact inv.held

namespace Sample

def scheme : PasswordScheme where
  verify password hash := password = hash

def config : SessionConfig where
  sessionIdleTimeoutMinutes := 30
  sessionAbsoluteTimeoutHours := 12

def administrator (username passwordHash : String) : AccountRow where
  username := username
  passwordHash := passwordHash
  role := .admin
  enabled := true
  lastLoginAt := none

def database : AccountsDatabase where
  accounts :=
    (Table.put ∅ 1 (administrator "kim" "first")).put 2 (administrator "lee" "second")
  sessions := (Table.put ∅ 1 ⟨1, 40000000, 0, none⟩).put 2 ⟨2, 40000000, 0, none⟩

def authenticate (r : RequestId) (payload : SessionPayload) : List Action :=
  [.findSession r payload, .loadAccount r]

def disable : AccountPatch where
  username := none
  password := none
  role := none
  enabled := some false

def finish (t : TxId) : List Action := [.write t, .revoke t, .commit t]

/-- Kim disables Lee; afterwards Lee's request to disable Kim is refused. -/
def oneAfterTheOther : List Action :=
  authenticate 1 ⟨1, 1⟩ ++ authenticate 2 ⟨2, 2⟩ ++ [.beginUpdate 1 1 2 disable none] ++
    finish 1 ++ [.beginUpdate 2 2 1 disable none]

/-- Kim and Lee disable each other at the same time. -/
def eachOther : List Action :=
  authenticate 1 ⟨1, 1⟩ ++ authenticate 2 ⟨2, 2⟩ ++
    [.beginUpdate 1 1 2 disable none, .beginUpdate 2 2 1 disable none] ++ finish 1 ++ finish 2

theorem database_has_active_admin : HasActiveAdmin database :=
  ⟨1, administrator "kim" "first", by decide, rfl⟩

end Sample

theorem active_admin_remains_sample :
    ∃ visited s, Transition.Run (step Sample.scheme Sample.config)
        (AccountSystem.initial Sample.database) visited s ∧ HasActiveAdmin s.db := by
  obtain ⟨visited, s, run, apart, -⟩ := @Transition.run_avoiding_of_replay _ _
    (step Sample.scheme Sample.config) (AccountSystem.initial Sample.database)
    Sample.oneAfterTheOther takesBoth (fun _ => true) (by decide +kernel)
  exact ⟨visited, s, run,
    active_admin_remains Sample.scheme Sample.config Sample.database_has_active_admin run apart⟩

/-- Both counts see two administrators; no administrator is left. -/
theorem no_active_admin_left :
    ∃ scheme config db s, HasActiveAdmin db ∧ Reachable scheme config db s ∧
      ¬ HasActiveAdmin s.db := by
  obtain ⟨visited, s, run, none⟩ := @Transition.run_of_replay_satisfies _ _
    (step Sample.scheme Sample.config) (AccountSystem.initial Sample.database) Sample.eachOther
    (fun _ s => s.db.accounts.every fun _ account => !account.isActiveAdmin) (by decide +kernel)
  refine ⟨_, _, _, s, Sample.database_has_active_admin, ⟨visited, run⟩, ?_⟩
  rintro ⟨id, account, stored, active⟩
  rw [Table.every_iff] at none
  have inactive := none id account stored
  simp [active] at inactive

end LinkAlive.Accounts
