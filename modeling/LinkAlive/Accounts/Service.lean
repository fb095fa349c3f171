import LinkAlive.Store.Schema

/-!
# Accounts and login sessions

The rows and the decisions of `apps/api/src/accounts/accounts.service.ts` and
`apps/api/src/auth/sessions.service.ts`. A username stands for its collation class.
-/

namespace LinkAlive.Accounts

set_option autoImplicit false

open Relational

abbrev AccountId := Nat
abbrev SessionId := Nat

inductive AccountRole
  | admin | user
deriving DecidableEq, Repr

structure AccountRow where
  username : String
  passwordHash : String
  role : AccountRole
  enabled : Bool
  lastLoginAt : Option Time
deriving DecidableEq, Repr

structure LoginSessionRow where
  accountId : AccountId
  expiresAt : Time
  lastSeenAt : Time
  revokedAt : Option Time
deriving DecidableEq, Repr

structure AccountsDatabase where
  accounts : Table AccountId AccountRow
  sessions : Table SessionId LoginSessionRow

/-- `verifyAccountPassword`; `hashAccountPassword` draws a salt, so a password has many
hashes. -/
structure PasswordScheme where
  verify : String → String → Bool

/-- A hash that `hashAccountPassword` may return for the password of a patch. -/
def PasswordScheme.hashes (scheme : PasswordScheme) :
    Option String → Option String → Bool
  | none, none => true
  | some password, some hash => scheme.verify password hash
  | _, _ => false

structure AccountPatch where
  username : Option String
  password : Option String
  role : Option AccountRole
  enabled : Option Bool
deriving DecidableEq, Repr

inductive AccountError
  | notFound | ownAccount | ownRemoval | lastAdministrator
deriving DecidableEq, Repr

def AccountError.message : AccountError → String
  | .notFound => "계정을 찾을 수 없습니다."
  | .ownAccount => "현재 로그인한 관리자 계정의 권한이나 상태는 변경할 수 없습니다."
  | .ownRemoval => "현재 로그인한 계정은 삭제할 수 없습니다."
  | .lastAdministrator => "활성 관리자 계정은 최소 한 개가 필요합니다."

def AccountRow.isActiveAdmin (account : AccountRow) : Bool :=
  account.role = .admin && account.enabled

/-- `tx.account.count({ where: { role: ADMIN, enabled: true } })`. -/
def activeAdmins (accounts : Table AccountId AccountRow) : Nat :=
  (accounts.select fun _ account => account.isActiveAdmin).length

def AccountPatch.nextRole (patch : AccountPatch) (current : AccountRow) : AccountRole :=
  patch.role.getD current.role

def AccountPatch.nextEnabled (patch : AccountPatch) (current : AccountRow) : Bool :=
  patch.enabled.getD current.enabled

/-- The account would not be an active administrator any more. -/
def AccountPatch.lowers (patch : AccountPatch) (current : AccountRow) : Bool :=
  patch.nextRole current ≠ .admin || !patch.nextEnabled current

/-- An active administrator may go only while another one is counted. -/
def lastAdministrator (accounts : Table AccountId AccountRow) (current : AccountRow)
    (goes : Bool) : Bool :=
  current.isActiveAdmin && goes && activeAdmins accounts ≤ 1

/-- The checks of `update` before its write. -/
def checkUpdate (accounts : Table AccountId AccountRow) (id : AccountId) (patch : AccountPatch)
    (actorId : AccountId) : Except AccountError AccountRow :=
  match accounts.get id with
  | none => .error .notFound
  | some current =>
      if id = actorId && patch.lowers current then .error .ownAccount
      else if lastAdministrator accounts current (patch.lowers current) then
        .error .lastAdministrator
      else .ok current

/-- The checks of `remove` before its write. -/
def checkRemove (accounts : Table AccountId AccountRow) (id : AccountId) (actorId : AccountId) :
    Except AccountError AccountRow :=
  if id = actorId then .error .ownRemoval
  else
    match accounts.get id with
    | none => .error .notFound
    | some current =>
        if lastAdministrator accounts current true then .error .lastAdministrator
        else .ok current

/-- The assignments of `tx.account.update` in `update`. -/
def AccountPatch.apply (patch : AccountPatch) (passwordHash : Option String)
    (account : AccountRow) : AccountRow :=
  { account with
    username := patch.username.getD account.username
    passwordHash := passwordHash.getD account.passwordHash
    role := patch.role.getD account.role
    enabled := patch.enabled.getD account.enabled }

theorem apply_is_active_admin (patch : AccountPatch) (passwordHash : Option String)
    (account : AccountRow) :
    (patch.apply passwordHash account).isActiveAdmin = !patch.lowers account := by
  by_cases admin : patch.role.getD account.role = .admin <;>
    simp [AccountRow.isActiveAdmin, AccountPatch.apply, AccountPatch.lowers,
      AccountPatch.nextRole, AccountPatch.nextEnabled, admin]

/-- `update` ends the sessions of an account with a new password and of an account that
it disables. -/
def endsSessions (passwordHash : Option String) (current updated : AccountRow) : Bool :=
  passwordHash.isSome || (current.enabled && !updated.enabled)

structure SessionConfig where
  sessionIdleTimeoutMinutes : Nat
  sessionAbsoluteTimeoutHours : Nat

def sessionTouchIntervalMs : Nat := 60000

/-- `lastSeenAt > sessionCutoff(now)`, without a subtraction that could go below zero. -/
def SessionConfig.recentlySeen (config : SessionConfig) (now lastSeenAt : Time) : Bool :=
  now < lastSeenAt + config.sessionIdleTimeoutMinutes * 60000

/-- The signed content of the session cookie. -/
structure SessionPayload where
  sub : AccountId
  sid : SessionId
deriving DecidableEq, Repr

/-- The filter of the session query of `authenticate`. -/
def LoginSessionRow.accepts (config : SessionConfig) (payload : SessionPayload) (now : Time)
    (session : LoginSessionRow) : Bool :=
  session.accountId = payload.sub && session.revokedAt.isNone && now < session.expiresAt &&
    config.recentlySeen now session.lastSeenAt

def findSession (config : SessionConfig) (db : AccountsDatabase) (payload : SessionPayload)
    (now : Time) : Option LoginSessionRow :=
  (db.sessions.get payload.sid).filter (LoginSessionRow.accepts config payload now)

/-- The row that `start` inserts. -/
def newSession (config : SessionConfig) (accountId : AccountId) (now : Time) :
    LoginSessionRow where
  accountId := accountId
  expiresAt := now + config.sessionAbsoluteTimeoutHours * 3600000
  lastSeenAt := now
  revokedAt := none

def AccountRow.loggedIn (now : Time) (account : AccountRow) : AccountRow :=
  { account with lastLoginAt := some now }

def LoginSessionRow.revoked (now : Time) (session : LoginSessionRow) : LoginSessionRow :=
  { session with revokedAt := some now }

/-- `UPDATE login_sessions SET revoked_at = now WHERE guard AND revoked_at IS NULL`. -/
def revokeWhere (sessions : Table SessionId LoginSessionRow)
    (guard : SessionId → LoginSessionRow → Bool) (now : Time) :
    Table SessionId LoginSessionRow :=
  sessions.updateWhere (fun id session => guard id session && session.revokedAt.isNone)
    fun _ session => session.revoked now

def LoginSessionRow.stale (now : Time) (session : LoginSessionRow) : Bool :=
  session.lastSeenAt + sessionTouchIntervalMs ≤ now

def touchSession (sessions : Table SessionId LoginSessionRow) (id : SessionId) (now : Time) :
    Table SessionId LoginSessionRow :=
  sessions.updateWhere
    (fun key session => key = id && session.revokedAt.isNone && session.stale now)
    fun _ session => { session with lastSeenAt := now }

structure AuthenticatedUser where
  id : AccountId
  username : String
  role : AccountRole
deriving DecidableEq, Repr

def AccountRow.authenticated (id : AccountId) (account : AccountRow) : Option AuthenticatedUser :=
  if account.enabled then some ⟨id, account.username, account.role⟩ else none

def verifyLogin (scheme : PasswordScheme) (db : AccountsDatabase) (username password : String) :
    Option (AccountId × AccountRow) :=
  ((db.accounts.select fun _ account => account.username = username).head?).filter fun entry =>
    entry.2.enabled && scheme.verify password entry.2.passwordHash

end LinkAlive.Accounts
