import LinkAlive.Accounts.Service
import LinkAlive.Foundation.Transition

/-!
# Concurrent account requests

Logins, authenticated requests and the transactions of the account service, statement by
statement. A transaction reads from the snapshot of its first statement; its write takes
the row lock of the account and finds the latest committed row; others see its writes
when it commits. It may be rolled back at any time (a unique violation, a deadlock, a
lost connection).
-/

namespace LinkAlive.Accounts

set_option autoImplicit false

open Relational

abbrev TxId := Nat
abbrev LoginId := Nat
abbrev RequestId := Nat

inductive AccountRequest
  | update (patch : AccountPatch) (passwordHash : Option String)
  | remove
deriving DecidableEq, Repr

inductive AccountStage
  | checked
  | updated (row : AccountRow)
  | revoked (row : AccountRow) (sessions : List SessionId) (revokedAt : Time)
  | deleted
deriving DecidableEq, Repr

/-- A transaction of `update` or `remove`; `current` comes from its snapshot. -/
structure AccountTx where
  id : AccountId
  request : AccountRequest
  current : AccountRow
  stage : AccountStage
deriving DecidableEq, Repr

def AccountTx.locks (tx : AccountTx) : Bool := tx.stage ≠ .checked

def AccountTx.locksSession (tx : AccountTx) (id : SessionId) : Bool :=
  match tx.stage with
  | .revoked _ sessions _ => decide (id ∈ sessions)
  | _ => false

/-- The request, carried out on this row, takes an active administrator away. -/
def AccountTx.lowers (tx : AccountTx) (account : AccountRow) : Bool :=
  account.isActiveAdmin &&
    match tx.request with
    | .update patch _ => patch.lowers account
    | .remove => true

/-- The account of the transaction is an active administrator that its request takes away. -/
def AccountTx.takesAway (tx : AccountTx) (accounts : Table AccountId AccountRow) : Bool :=
  (accounts.get tx.id).any tx.lowers

/-- A login whose password matched `account`; then also the time `start` took. -/
inductive LoginStage
  | verified (id : AccountId) (account : AccountRow)
  | starting (id : AccountId) (account : AccountRow) (now : Time)
deriving DecidableEq, Repr

inductive RequestStage
  | sessionFound (payload : SessionPayload) (session : LoginSessionRow) (now : Time)
  | authenticated (payload : SessionPayload) (session : LoginSessionRow) (now : Time)
      (user : AuthenticatedUser)
deriving DecidableEq, Repr

/-- What happened, for statements about runs: the committed password updates in order,
and the hash that the login of a session was verified against. -/
structure AccountHistory where
  passwordUpdates : List (AccountId × String)
  verified : Table SessionId String

def AccountHistory.hashes (history : AccountHistory) (id : AccountId) : List String :=
  (history.passwordUpdates.filter fun entry => decide (entry.1 = id)).map Prod.snd

structure AccountSystem where
  clock : Time
  db : AccountsDatabase
  txs : Table TxId AccountTx
  logins : Table LoginId LoginStage
  requests : Table RequestId RequestStage
  history : AccountHistory

def AccountSystem.initial (db : AccountsDatabase) : AccountSystem where
  clock := 0
  db := db
  txs := ∅
  logins := ∅
  requests := ∅
  history := ⟨[], ∅⟩

inductive Action
  | tick (now : Time)
  | findAccount (l : LoginId) (username password : String)
  | beginStart (l : LoginId)
  | startSession (l : LoginId) (id : SessionId)
  | findSession (r : RequestId) (payload : SessionPayload)
  | loadAccount (r : RequestId)
  | touch (r : RequestId)
  | logout (r : RequestId)
  | beginUpdate (t : TxId) (r : RequestId) (id : AccountId) (patch : AccountPatch)
      (passwordHash : Option String)
  | beginRemove (t : TxId) (r : RequestId) (id : AccountId)
  | write (t : TxId)
  | revoke (t : TxId)
  | commit (t : TxId)
  | rollback (t : TxId)
deriving DecidableEq, Repr

def AccountSystem.accountFree (s : AccountSystem) (id : AccountId) : Bool :=
  s.txs.every fun _ tx => !(decide (tx.id = id) && tx.locks)

def AccountSystem.sessionFree (s : AccountSystem) (id : SessionId) : Bool :=
  s.txs.every fun _ tx => !tx.locksSession id

/-- The unique index on usernames would accept the row. -/
def AccountSystem.usernameFree (s : AccountSystem) (tx : AccountTx) : Bool :=
  match tx.stage with
  | .updated row =>
      s.db.accounts.every (fun id account =>
        decide (id = tx.id) || decide (account.username ≠ row.username)) &&
      s.txs.every fun _ other =>
        match other.stage with
        | .updated account | .revoked account _ _ => decide (account.username ≠ row.username)
        | _ => true
  | _ => true

def AccountSystem.administrator (s : AccountSystem) (r : RequestId) : Option AccountId :=
  match s.requests.get r with
  | some (.authenticated _ _ _ user) => if user.role = .admin then some user.id else none
  | _ => none

/-- The transaction of `start` after its time was taken; it runs no plain read. -/
def AccountSystem.startSession (s : AccountSystem) (config : SessionConfig) (id : AccountId)
    (verified : AccountRow) (now : Time) (sessionId : SessionId) : Option AccountSystem :=
  if s.accountFree id && (s.db.accounts.get id).isSome then
    (s.db.sessions.insertNew sessionId (newSession config id now)).map fun sessions =>
      { s with
        db :=
          { accounts := s.db.accounts.updateKey id (AccountRow.loggedIn now)
            sessions := sessions }
        history :=
          { s.history with
            verified := s.history.verified.put sessionId verified.passwordHash } }
  else none

/-- `tx.account.update` and `tx.account.delete` lock the latest row; without one they fail. -/
def AccountTx.write (tx : AccountTx) (accounts : Table AccountId AccountRow) :
    Option AccountTx :=
  match tx.stage, accounts.get tx.id with
  | .checked, some row =>
      match tx.request with
      | .update patch passwordHash =>
          some { tx with stage := .updated (patch.apply passwordHash row) }
      | .remove => some { tx with stage := .deleted }
  | _, _ => none

/-- `tx.loginSession.updateMany` finds the sessions that are committed by now. -/
def AccountTx.revoke (tx : AccountTx) (sessions : Table SessionId LoginSessionRow)
    (now : Time) : Option AccountTx :=
  match tx.request, tx.stage with
  | .update _ passwordHash, .updated row =>
      if endsSessions passwordHash tx.current row then
        let found := sessions.select fun _ session =>
          decide (session.accountId = tx.id) && session.revokedAt.isNone
        some { tx with stage := .revoked row (found.map Prod.fst) now }
      else none
  | _, _ => none

/-- The committed tables after the transaction; `none` while statements remain. -/
def AccountTx.commit (tx : AccountTx) (db : AccountsDatabase) : Option AccountsDatabase :=
  match tx.request, tx.stage with
  | .update _ passwordHash, .updated row =>
      if endsSessions passwordHash tx.current row then none
      else some { db with accounts := db.accounts.put tx.id row }
  | .update _ _, .revoked row sessions revokedAt =>
      some
        { accounts := db.accounts.put tx.id row
          sessions := revokeWhere db.sessions (fun id _ => decide (id ∈ sessions)) revokedAt }
  | .remove, .deleted =>
      some
        { accounts := db.accounts.deleteWhere fun id _ => decide (id = tx.id)
          sessions := db.sessions.deleteWhere fun _ session =>
            decide (session.accountId = tx.id) }
  | _, _ => none

def AccountTx.passwordUpdates (tx : AccountTx) : List (AccountId × String) :=
  match tx.request with
  | .update _ (some hash) => [(tx.id, hash)]
  | _ => []

def step (scheme : PasswordScheme) (config : SessionConfig) (s : AccountSystem) :
    Action → Option AccountSystem
  | .tick now => if s.clock ≤ now then some { s with clock := now } else none
  | .findAccount l username password => do
      let (id, account) ← verifyLogin scheme s.db username password
      some { s with logins := s.logins.put l (.verified id account) }
  | .beginStart l =>
      match s.logins.get l with
      | some (.verified id account) =>
          some { s with logins := s.logins.put l (.starting id account s.clock) }
      | _ => none
  | .startSession l sessionId =>
      match s.logins.get l with
      | some (.starting id account now) =>
          (s.startSession config id account now sessionId).map fun after =>
            { after with logins := s.logins.deleteWhere fun key _ => decide (key = l) }
      | _ => none
  | .findSession r payload => do
      let session ← findSession config s.db payload s.clock
      some { s with requests := s.requests.put r (.sessionFound payload session s.clock) }
  | .loadAccount r =>
      match s.requests.get r with
      | some (.sessionFound payload session now) => do
          let account ← s.db.accounts.get session.accountId
          let user ← account.authenticated session.accountId
          some { s with requests := s.requests.put r (.authenticated payload session now user) }
      | _ => none
  | .touch r =>
      match s.requests.get r with
      | some (.authenticated payload session now _) =>
          if s.sessionFree payload.sid && session.stale now then
            some { s with
              db := { s.db with sessions := touchSession s.db.sessions payload.sid now } }
          else none
      | _ => none
  | .logout r =>
      match s.requests.get r with
      | some (.authenticated payload _ _ _) =>
          if s.sessionFree payload.sid then
            some { s with
              db :=
                { s.db with
                  sessions := revokeWhere s.db.sessions
                    (fun id _ => decide (id = payload.sid)) s.clock } }
          else none
      | _ => none
  | .beginUpdate t r id patch passwordHash => do
      let actorId ← s.administrator r
      if (s.txs.get t).isNone && scheme.hashes patch.password passwordHash then
        match checkUpdate s.db.accounts id patch actorId with
        | .ok current =>
            some { s with
              txs := s.txs.put t ⟨id, .update patch passwordHash, current, .checked⟩ }
        | .error _ => some s
      else none
  | .beginRemove t r id => do
      let actorId ← s.administrator r
      if (s.txs.get t).isNone then
        match checkRemove s.db.accounts id actorId with
        | .ok current => some { s with txs := s.txs.put t ⟨id, .remove, current, .checked⟩ }
        | .error _ => some s
      else none
  | .write t => do
      let tx ← s.txs.get t
      if s.accountFree tx.id then
        let written ← tx.write s.db.accounts
        if s.usernameFree written then some { s with txs := s.txs.put t written } else none
      else none
  | .revoke t => do
      let tx ← s.txs.get t
      let revoked ← tx.revoke s.db.sessions s.clock
      some { s with txs := s.txs.put t revoked }
  | .commit t => do
      let tx ← s.txs.get t
      let db ← tx.commit s.db
      some { s with
        db := db
        txs := s.txs.deleteWhere fun key _ => decide (key = t)
        history :=
          { s.history with
            passwordUpdates := s.history.passwordUpdates ++ tx.passwordUpdates } }
  | .rollback t =>
      some { s with txs := s.txs.deleteWhere fun key _ => decide (key = t) }

abbrev Reachable (scheme : PasswordScheme) (config : SessionConfig) (db : AccountsDatabase) :
    AccountSystem → Prop :=
  Transition.Reachable (step scheme config) (AccountSystem.initial db)

/-- A step by the components that invariants speak about. -/
inductive Stepped (config : SessionConfig) (s : AccountSystem) : Action → AccountSystem → Prop where
  | idle (a : Action) (after : AccountSystem) : after.db = s.db → after.txs = s.txs →
      after.history = s.history → Stepped config s a after
  | started (l : LoginId) (id : AccountId) (account : AccountRow) (now : Time)
      (sessionId : SessionId) (after : AccountSystem) (logins : Table LoginId LoginStage) :
      s.logins.get l = some (.starting id account now) →
      s.startSession config id account now sessionId = some after →
        Stepped config s (.startSession l sessionId) { after with logins := logins }
  | touched (r : RequestId) (id : SessionId) (now : Time) : s.sessionFree id = true →
      Stepped config s (.touch r)
        { s with db := { s.db with sessions := touchSession s.db.sessions id now } }
  | loggedOut (r : RequestId) (id : SessionId) : s.sessionFree id = true →
      Stepped config s (.logout r)
        { s with
          db :=
            { s.db with
              sessions := revokeWhere s.db.sessions (fun key _ => decide (key = id)) s.clock } }
  | begun (t : TxId) (a : Action) (tx : AccountTx) : tx.stage = .checked →
      s.txs.get t = none →
      (tx.takesAway s.db.accounts = true → 1 < activeAdmins s.db.accounts) →
        Stepped config s a { s with txs := s.txs.put t tx }
  | written (t : TxId) (tx written : AccountTx) : s.txs.get t = some tx →
      s.accountFree tx.id = true → tx.write s.db.accounts = some written →
        Stepped config s (.write t) { s with txs := s.txs.put t written }
  | revoked (t : TxId) (tx revoked : AccountTx) : s.txs.get t = some tx →
      tx.revoke s.db.sessions s.clock = some revoked →
        Stepped config s (.revoke t) { s with txs := s.txs.put t revoked }
  | committed (t : TxId) (tx : AccountTx) (db : AccountsDatabase) : s.txs.get t = some tx →
      tx.commit s.db = some db →
        Stepped config s (.commit t)
          { s with
            db := db
            txs := s.txs.deleteWhere fun key _ => decide (key = t)
            history :=
              { s.history with
                passwordUpdates := s.history.passwordUpdates ++ tx.passwordUpdates } }
  | rolledBack (t : TxId) :
      Stepped config s (.rollback t)
        { s with txs := s.txs.deleteWhere fun key _ => decide (key = t) }

inductive Committed (tx : AccountTx) (db : AccountsDatabase) : AccountsDatabase → Prop where
  | updated (patch : AccountPatch) (passwordHash : Option String) (row : AccountRow) :
      tx.request = .update patch passwordHash → tx.stage = .updated row →
      endsSessions passwordHash tx.current row = false →
        Committed tx db { db with accounts := db.accounts.put tx.id row }
  | revoked (patch : AccountPatch) (passwordHash : Option String) (row : AccountRow)
      (sessions : List SessionId) (revokedAt : Time) :
      tx.request = .update patch passwordHash → tx.stage = .revoked row sessions revokedAt →
        Committed tx db
          { accounts := db.accounts.put tx.id row
            sessions := revokeWhere db.sessions (fun id _ => decide (id ∈ sessions)) revokedAt }
  | removed : tx.request = .remove → tx.stage = .deleted →
      Committed tx db
        { accounts := db.accounts.deleteWhere fun id _ => decide (id = tx.id)
          sessions := db.sessions.deleteWhere fun _ session =>
            decide (session.accountId = tx.id) }

theorem commit_cases {tx : AccountTx} {db after : AccountsDatabase}
    (done : tx.commit db = some after) : Committed tx db after := by
  unfold AccountTx.commit at done
  split at done
  case h_1 patch passwordHash row request stage =>
    split at done
    · cases done
    · rename_i stays
      cases done
      exact .updated patch passwordHash row request stage (Bool.eq_false_iff.2 stays)
  case h_2 patch passwordHash row sessions revokedAt request stage =>
    cases done
    exact .revoked patch passwordHash row sessions revokedAt request stage
  case h_3 request stage =>
    cases done
    exact .removed request stage
  case h_4 => cases done

theorem commit_other_account {tx : AccountTx} {db after : AccountsDatabase}
    (done : tx.commit db = some after) {other : AccountId} (apart : other ≠ tx.id) :
    after.accounts.get other = db.accounts.get other := by
  cases commit_cases done with
  | updated => simp [Table.get_put, apart]
  | revoked => simp [Table.get_put, apart]
  | removed =>
      apply Option.ext
      intro account
      rw [Table.get_delete_where_eq_some]
      simp [apart]

theorem guard_passed {accounts : Table AccountId AccountRow} {tx : AccountTx}
    {current : AccountRow} {goes : Bool} (found : accounts.get tx.id = some current)
    (guarded : lastAdministrator accounts current goes = false)
    (covers : tx.lowers current = true → goes = true) (takes : tx.takesAway accounts = true) :
    1 < activeAdmins accounts := by
  rw [AccountTx.takesAway, found, Option.any_some] at takes
  have active : current.isActiveAdmin = true := by
    rw [AccountTx.lowers, Bool.and_eq_true] at takes
    exact takes.1
  rw [lastAdministrator, active, covers takes, Bool.true_and, Bool.true_and,
    decide_eq_false_iff_not] at guarded
  exact Nat.lt_of_not_le guarded

theorem check_update_guard {accounts : Table AccountId AccountRow} {id actorId : AccountId}
    {patch : AccountPatch} {current : AccountRow}
    (checked : checkUpdate accounts id patch actorId = .ok current) :
    accounts.get id = some current ∧
      lastAdministrator accounts current (patch.lowers current) = false := by
  rw [checkUpdate] at checked
  split at checked
  · cases checked
  split at checked
  · cases checked
  split at checked
  · cases checked
  case h_2 row found _ guarded =>
    cases checked
    exact ⟨found, Bool.eq_false_iff.2 guarded⟩

theorem check_remove_guard {accounts : Table AccountId AccountRow} {id actorId : AccountId}
    {current : AccountRow} (checked : checkRemove accounts id actorId = .ok current) :
    accounts.get id = some current ∧ lastAdministrator accounts current true = false := by
  rw [checkRemove] at checked
  split at checked
  · cases checked
  split at checked
  · cases checked
  split at checked
  · cases checked
  case h_2 row found guarded =>
    cases checked
    exact ⟨found, Bool.eq_false_iff.2 guarded⟩

theorem begin_cases {config : SessionConfig} {s after : AccountSystem} {t : TxId} {a : Action}
    {checked : Except AccountError AccountRow} {makeTx : AccountRow → AccountTx}
    (stage : ∀ current, (makeTx current).stage = .checked) (fresh : s.txs.get t = none)
    (taken : (match checked with
      | .ok current => some { s with txs := s.txs.put t (makeTx current) }
      | .error _ => some s) = some after)
    (guarded : ∀ current, checked = .ok current →
      (makeTx current).takesAway s.db.accounts = true → 1 < activeAdmins s.db.accounts) :
    Stepped config s a after := by
  cases checked with
  | ok current =>
      cases taken
      exact .begun t a _ (stage current) fresh (guarded current rfl)
  | error reason =>
      cases taken
      exact .idle a _ rfl rfl rfl

theorem step_cases {scheme : PasswordScheme} {config : SessionConfig} {s after : AccountSystem}
    {a : Action} (taken : step scheme config s a = some after) : Stepped config s a after := by
  cases a with
  | tick now =>
      simp only [step, Option.ite_none_right_eq_some, Option.some.injEq] at taken
      obtain ⟨-, rfl⟩ := taken
      exact .idle _ _ rfl rfl rfl
  | findAccount l username password =>
      simp only [step, Option.bind_eq_bind, Option.bind_eq_some_iff, Option.some.injEq] at taken
      obtain ⟨_, -, rfl⟩ := taken
      exact .idle _ _ rfl rfl rfl
  | beginStart l =>
      simp only [step] at taken
      split at taken
      · cases taken
        exact .idle _ _ rfl rfl rfl
      · cases taken
  | startSession l sessionId =>
      simp only [step] at taken
      split at taken
      · rename_i id account now starting
        rw [Option.map_eq_some_iff] at taken
        obtain ⟨next, inserted, rfl⟩ := taken
        exact .started l id account now sessionId next _ starting inserted
      · cases taken
  | findSession r payload =>
      simp only [step, Option.bind_eq_bind, Option.bind_eq_some_iff, Option.some.injEq] at taken
      obtain ⟨_, -, rfl⟩ := taken
      exact .idle _ _ rfl rfl rfl
  | loadAccount r =>
      simp only [step] at taken
      split at taken
      · simp only [Option.bind_eq_bind, Option.bind_eq_some_iff, Option.some.injEq] at taken
        obtain ⟨_, -, _, -, rfl⟩ := taken
        exact .idle _ _ rfl rfl rfl
      · cases taken
  | touch r =>
      simp only [step] at taken
      split at taken
      · simp only [Option.ite_none_right_eq_some, Bool.and_eq_true, Option.some.injEq] at taken
        obtain ⟨⟨free, -⟩, rfl⟩ := taken
        exact .touched r _ _ free
      · cases taken
  | logout r =>
      simp only [step] at taken
      split at taken
      · simp only [Option.ite_none_right_eq_some, Option.some.injEq] at taken
        obtain ⟨free, rfl⟩ := taken
        exact .loggedOut r _ free
      · cases taken
  | beginUpdate t r id patch passwordHash =>
      simp only [step, Option.bind_eq_bind, Option.bind_eq_some_iff, Option.ite_none_right_eq_some,
        Bool.and_eq_true, Option.isNone_iff_eq_none] at taken
      obtain ⟨actorId, -, ⟨fresh, -⟩, taken⟩ := taken
      refine begin_cases (fun _ => rfl) fresh taken ?_
      intro current checked
      obtain ⟨found, guarded⟩ := check_update_guard checked
      exact guard_passed found guarded fun lowers => (Bool.and_eq_true_iff.1 lowers).2
  | beginRemove t r id =>
      simp only [step, Option.bind_eq_bind, Option.bind_eq_some_iff, Option.ite_none_right_eq_some,
        Option.isNone_iff_eq_none] at taken
      obtain ⟨actorId, -, fresh, taken⟩ := taken
      refine begin_cases (fun _ => rfl) fresh taken ?_
      intro current checked
      obtain ⟨found, guarded⟩ := check_remove_guard checked
      exact guard_passed found guarded fun _ => rfl
  | write t =>
      simp only [step, Option.bind_eq_bind, Option.bind_eq_some_iff, Option.ite_none_right_eq_some,
        Option.some.injEq] at taken
      obtain ⟨tx, inProgress, free, written, wrote, -, rfl⟩ := taken
      exact .written t tx written inProgress free wrote
  | revoke t =>
      simp only [step, Option.bind_eq_bind, Option.bind_eq_some_iff, Option.some.injEq] at taken
      obtain ⟨tx, inProgress, revoked, found, rfl⟩ := taken
      exact .revoked t tx revoked inProgress found
  | commit t =>
      simp only [step, Option.bind_eq_bind, Option.bind_eq_some_iff, Option.some.injEq] at taken
      obtain ⟨tx, inProgress, db, done, rfl⟩ := taken
      exact .committed t tx db inProgress done
  | rollback t =>
      cases taken
      exact .rolledBack t

def AccountTx.leaves (tx : AccountTx) : Option AccountRow :=
  match tx.stage with
  | .updated row | .revoked row _ _ => some row
  | _ => none

theorem leaves_locks {tx : AccountTx} {row : AccountRow} (leaves : tx.leaves = some row) :
    tx.locks = true := by
  simp only [AccountTx.leaves] at leaves
  cases stage : tx.stage <;> simp [stage, AccountTx.locks] at leaves ⊢

theorem account_free_iff {s : AccountSystem} {id : AccountId} :
    s.accountFree id = true ↔
      ∀ t tx, s.txs.get t = some tx → tx.locks = true → tx.id ≠ id := by
  rw [AccountSystem.accountFree, Table.every_iff]
  simp only [Bool.not_eq_true', Bool.and_eq_false_iff, decide_eq_false_iff_not]
  constructor
  · intro free t tx inProgress locks
    exact (free t tx inProgress).resolve_right (by simp [locks])
  · intro free t tx inProgress
    cases locks : tx.locks with
    | false => exact Or.inr rfl
    | true => exact Or.inl (free t tx inProgress locks)

theorem commit_locks {tx : AccountTx} {db after : AccountsDatabase}
    (done : tx.commit db = some after) : tx.locks = true := by
  cases commit_cases done with
  | updated _ _ _ _ stage => simp [AccountTx.locks, stage]
  | revoked _ _ _ _ _ _ stage => simp [AccountTx.locks, stage]
  | removed _ stage => simp [AccountTx.locks, stage]

def LocksExclusive (s : AccountSystem) : Prop :=
  ∀ first second left right, s.txs.get first = some left → s.txs.get second = some right →
    left.locks = true → right.locks = true → left.id = right.id → first = second

section Exclusive

variable {s after : AccountSystem}

theorem LocksExclusive.of_txs (exclusive : LocksExclusive s) (txs : after.txs = s.txs) :
    LocksExclusive after := by
  rw [LocksExclusive, txs]
  exact exclusive

theorem LocksExclusive.delete (exclusive : LocksExclusive s) (t : TxId) :
    LocksExclusive { s with txs := s.txs.deleteWhere fun key _ => decide (key = t) } := by
  intro first second left right storedLeft storedRight
  have heldLeft := ((Table.get_delete_where_eq_some _ _ _ _).1 storedLeft).1
  have heldRight := ((Table.get_delete_where_eq_some _ _ _ _).1 storedRight).1
  exact exclusive first second left right heldLeft heldRight

/-- A transaction that is put in place of itself or begins; its locks are its own. -/
theorem LocksExclusive.put (exclusive : LocksExclusive s) (t : TxId) {tx : AccountTx}
    (alone : tx.locks = true → ∀ other held, s.txs.get other = some held → other ≠ t →
      held.locks = true → held.id ≠ tx.id) :
    LocksExclusive { s with txs := s.txs.put t tx } := by
  intro first second left right storedLeft storedRight locksLeft locksRight same
  dsimp only at storedLeft storedRight
  rw [Table.get_put] at storedLeft storedRight
  split at storedLeft <;> split at storedRight
  · rename_i firstSame secondSame
    rw [firstSame, secondSame]
  · rename_i _ apart
    cases storedLeft
    exact absurd same.symm (alone locksLeft second right storedRight apart locksRight)
  · rename_i apart _
    cases storedRight
    exact absurd same (alone locksRight first left storedLeft apart locksLeft)
  · exact exclusive first second left right storedLeft storedRight locksLeft locksRight same

end Exclusive

end LinkAlive.Accounts
