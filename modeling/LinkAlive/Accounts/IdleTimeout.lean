import LinkAlive.Accounts.Passwords
import LinkAlive.Foundation.Throttle

/-!
# The idle timeout of a session

`authenticate` reads when the session was seen last, but writes it at most once a minute. The
requests of one cookie come one after the other here; between them the other requests and the
transactions of the account service run.
-/

namespace LinkAlive.Accounts

set_option autoImplicit false

open Relational Transition

/-- `authenticate` from its query to its answer. -/
def authenticate (config : SessionConfig) (db : AccountsDatabase) (payload : SessionPayload)
    (now : Time) : AccountsDatabase × Option AuthenticatedUser :=
  match findSession config db payload now with
  | none => (db, none)
  | some session =>
      match (db.accounts.get session.accountId).bind
          (AccountRow.authenticated session.accountId) with
      | none => (db, none)
      | some user =>
          if session.stale now then
            ({ db with sessions := touchSession db.sessions payload.sid now }, some user)
          else (db, some user)

/-- A request with the cookie and its answer. -/
structure Visit where
  time : Time
  user : Option AuthenticatedUser
deriving DecidableEq, Repr

structure WatchedSystem where
  system : AccountSystem
  visits : List Visit

inductive Event
  | action (a : Action)
  | request
deriving DecidableEq, Repr

/-- The action is a concurrent request of the cookie that touches the session, or a login
that draws the same identifier. -/
def AccountSystem.interferes (s : AccountSystem) (sid : SessionId) : Action → Bool
  | .touch r =>
      match s.requests.get r with
      | some (.authenticated payload _ _ _) => payload.sid = sid
      | _ => false
  | .startSession _ id => id = sid
  | _ => false

def watchedStep (scheme : PasswordScheme) (config : SessionConfig) (payload : SessionPayload)
    (watched : WatchedSystem) : Event → Option WatchedSystem
  | .action a =>
      if watched.system.interferes payload.sid a then none
      else (step scheme config watched.system a).map fun after => { watched with system := after }
  | .request =>
      let served := authenticate config watched.system.db payload watched.system.clock
      some
        { system := { watched.system with db := served.1 }
          visits := watched.visits ++ [⟨watched.system.clock, served.2⟩] }

def AccountSystem.keeps (s : AccountSystem) (payload : SessionPayload) : Bool :=
  (s.db.sessions.get payload.sid).any fun session =>
    session.accountId = payload.sub && session.revokedAt.isNone && s.clock < session.expiresAt &&
      (s.db.accounts.get session.accountId).any AccountRow.enabled

/-- Where a request meets a session that is not kept, nothing is claimed. -/
def requestsKeep (payload : SessionPayload) (watched : WatchedSystem) : Event → Prop
  | .request => watched.system.keeps payload = true
  | .action _ => True

def SessionConfig.idleTimeoutMs (config : SessionConfig) : Nat :=
  config.sessionIdleTimeoutMinutes * 60000

def WatchedSystem.times (watched : WatchedSystem) : List Time := watched.visits.map Visit.time

def WatchedSystem.welcomed (watched : WatchedSystem) : Prop :=
  ∀ visit ∈ watched.visits, visit.user.isSome = true

def LoginSessionRow.recent (config : SessionConfig) (now : Time) (session : LoginSessionRow) :
    Prop :=
  now < session.lastSeenAt + config.idleTimeoutMs

def LoginSessionRow.seen (now : Time) (session : LoginSessionRow) : LoginSessionRow :=
  { session with
    lastSeenAt := Throttle.note sessionTouchIntervalMs session.lastSeenAt now }

section request

variable {config : SessionConfig} {s : AccountSystem} {payload : SessionPayload}
  {session : LoginSessionRow}

theorem kept_session (stored : s.db.sessions.get payload.sid = some session)
    (keeps : s.keeps payload = true) :
    session.accountId = payload.sub ∧ session.revokedAt = none ∧ s.clock < session.expiresAt ∧
      ∃ account, s.db.accounts.get session.accountId = some account ∧ account.enabled = true := by
  simpa [AccountSystem.keeps, stored, Option.any_eq_true, and_assoc] using keeps

theorem find_recent (stored : s.db.sessions.get payload.sid = some session)
    (keeps : s.keeps payload = true) (recent : session.recent config s.clock) :
    findSession config s.db payload s.clock = some session := by
  obtain ⟨owner, unrevoked, unexpired, -⟩ := kept_session stored keeps
  have seen : config.recentlySeen s.clock session.lastSeenAt = true := decide_eq_true recent
  rw [findSession, stored, Option.filter_some, if_pos]
  simp [LoginSessionRow.accepts, owner, unrevoked, unexpired, seen]

theorem find_idle (stored : s.db.sessions.get payload.sid = some session)
    (idle : ¬ session.recent config s.clock) :
    findSession config s.db payload s.clock = none := by
  have unseen : config.recentlySeen s.clock session.lastSeenAt = false := decide_eq_false idle
  rw [findSession, stored, Option.filter_some, if_neg]
  simp [LoginSessionRow.accepts, unseen]

theorem authenticate_recent (stored : s.db.sessions.get payload.sid = some session)
    (keeps : s.keeps payload = true) (recent : session.recent config s.clock) :
    (authenticate config s.db payload s.clock).2.isSome = true ∧
      (authenticate config s.db payload s.clock).1.sessions.get payload.sid =
        some (session.seen s.clock) := by
  obtain ⟨-, unrevoked, -, account, held, enabled⟩ := kept_session stored keeps
  have user : (s.db.accounts.get session.accountId).bind
      (AccountRow.authenticated session.accountId) =
        some ⟨session.accountId, account.username, account.role⟩ := by
    rw [held]
    exact if_pos enabled
  simp only [authenticate, find_recent stored keeps recent, user]
  cases stale : session.stale s.clock with
  | true =>
      have noted : session.seen s.clock = { session with lastSeenAt := s.clock } := by
        rw [LoginSessionRow.seen, Throttle.note, if_pos (of_decide_eq_true stale)]
      refine ⟨rfl, ?_⟩
      simp [touchSession, stored, unrevoked, stale, noted]
  | false =>
      have noted : session.seen s.clock = session := by
        rw [LoginSessionRow.seen, Throttle.note, if_neg (of_decide_eq_false stale)]
      exact ⟨rfl, noted.symm ▸ stored⟩

theorem authenticate_idle (stored : s.db.sessions.get payload.sid = some session)
    (idle : ¬ session.recent config s.clock) :
    authenticate config s.db payload s.clock = (s.db, none) := by
  simp only [authenticate, find_idle stored idle]

end request

theorem touch_other {sessions : Table SessionId LoginSessionRow} {target sid : SessionId}
    {now : Time} (apart : target ≠ sid) :
    (touchSession sessions target now).get sid = sessions.get sid := by
  simp [touchSession, Ne.symm apart]

theorem revoke_kept {sessions : Table SessionId LoginSessionRow}
    {guard : SessionId → LoginSessionRow → Bool} {sid : SessionId} {now : Time}
    {session : LoginSessionRow}
    (stored : (revokeWhere sessions guard now).get sid = some session)
    (unrevoked : session.revokedAt = none) : sessions.get sid = some session := by
  rw [revokeWhere, Table.get_update_where, Option.map_eq_some_iff] at stored
  obtain ⟨earlier, held, same⟩ := stored
  split at same
  · subst same
    cases unrevoked
  · rw [held, same]

theorem touch_target {scheme : PasswordScheme} {config : SessionConfig} {s after : AccountSystem}
    {r : RequestId} (taken : step scheme config s (.touch r) = some after) :
    ∃ payload session now user, s.requests.get r = some (.authenticated payload session now user) ∧
      after.db.sessions = touchSession s.db.sessions payload.sid now := by
  simp only [step] at taken
  split at taken
  · rename_i payload session now user found
    rw [Option.ite_none_right_eq_some, Option.some.injEq] at taken
    exact ⟨payload, session, now, user, found, taken.2 ▸ rfl⟩
  · cases taken

theorem step_session_kept {scheme : PasswordScheme} {config : SessionConfig}
    {s after : AccountSystem} {a : Action} (taken : step scheme config s a = some after)
    {sid : SessionId} (apart : s.interferes sid a = false) {session : LoginSessionRow}
    (stored : after.db.sessions.get sid = some session) (unrevoked : session.revokedAt = none) :
    s.db.sessions.get sid = some session := by
  cases step_cases taken with
  | idle a after db txs history => exact db ▸ stored
  | started l id account now sessionId after logins starting inserted =>
      have other : sessionId ≠ sid := of_decide_eq_false apart
      rw [AccountSystem.startSession, Option.ite_none_right_eq_some,
        Option.map_eq_some_iff] at inserted
      obtain ⟨-, sessions, created, rfl⟩ := inserted
      obtain ⟨-, rfl⟩ := (Table.insert_new_eq_some _ _ _ _).1 created
      rwa [Table.get_put, if_neg other.symm] at stored
  | touched r id now free =>
      obtain ⟨payload, found, time, user, request, sessions⟩ := touch_target taken
      have other : payload.sid ≠ sid := by
        simpa [AccountSystem.interferes, request] using apart
      rwa [sessions, touch_other other] at stored
  | loggedOut r id free => exact revoke_kept stored unrevoked
  | begun t a tx stage fresh _ => exact stored
  | written t tx written inProgress free wrote => exact stored
  | revoked t tx revoked inProgress found => exact stored
  | committed t tx db inProgress done =>
      cases commit_cases done with
      | updated => exact stored
      | revoked => exact revoke_kept stored unrevoked
      | removed => exact ((Table.get_delete_where_eq_some _ _ _ _).1 stored).1
  | rolledBack t => exact stored

def Started (scheme : PasswordScheme) (config : SessionConfig) (payload : SessionPayload)
    (login : Time) (watched : WatchedSystem) : Prop :=
  watched.visits = [] ∧ ∃ s l account,
    s.logins.get l = some (.starting payload.sub account login) ∧
      step scheme config s (.startSession l payload.sid) = some watched.system

structure Followed (config : SessionConfig) (payload : SessionPayload) (login : Time)
    (watched : WatchedSystem) : Prop where
  timely : watched.welcomed ↔
    Throttle.Timely sessionTouchIntervalMs config.idleTimeoutMs login watched.times
  seen : watched.welcomed → ∀ session,
    watched.system.db.sessions.get payload.sid = some session → session.revokedAt = none →
      session.lastSeenAt = Throttle.noted sessionTouchIntervalMs login watched.times

section runs

variable {scheme : PasswordScheme} {config : SessionConfig} {payload : SessionPayload}
  {login : Time}

theorem followed_started {watched : WatchedSystem}
    (started : Started scheme config payload login watched) :
    Followed config payload login watched := by
  obtain ⟨none, s, l, account, starting, taken⟩ := started
  have times : watched.times = [] := by rw [WatchedSystem.times, none, List.map_nil]
  constructor
  · rw [times]
    refine iff_of_true ?_ Throttle.timely_nil
    rw [WatchedSystem.welcomed, none]
    exact List.forall_mem_nil _
  · intro _ session stored _
    simp only [step, starting, Option.map_eq_some_iff, AccountSystem.startSession,
      Option.ite_none_right_eq_some] at taken
    obtain ⟨after, ⟨-, sessions, inserted, rfl⟩, same⟩ := taken
    obtain ⟨-, rfl⟩ := (Table.insert_new_eq_some _ _ _ _).1 inserted
    rw [← same, Table.get_put, if_pos rfl, Option.some.injEq] at stored
    rw [← stored, times]
    rfl

theorem welcomed_concat {watched : WatchedSystem} {system : AccountSystem} {visit : Visit} :
    WatchedSystem.welcomed ⟨system, watched.visits ++ [visit]⟩ ↔
      watched.welcomed ∧ visit.user.isSome = true := by
  simp [WatchedSystem.welcomed, or_imp, forall_and]

theorem times_concat {watched : WatchedSystem} {system : AccountSystem} {visit : Visit} :
    WatchedSystem.times ⟨system, watched.visits ++ [visit]⟩ = watched.times ++ [visit.time] := by
  simp [WatchedSystem.times]

theorem followed_request {watched : WatchedSystem}
    (followed : Followed config payload login watched)
    (keeps : watched.system.keeps payload = true) :
    Followed config payload login
      { system := { watched.system with
          db := (authenticate config watched.system.db payload watched.system.clock).1 }
        visits := watched.visits ++ [⟨watched.system.clock,
          (authenticate config watched.system.db payload watched.system.clock).2⟩] } := by
  obtain ⟨session, stored, -⟩ := (Option.any_eq_true _ _).1 keeps
  have unrevoked := (kept_session stored keeps).2.1
  constructor
  · rw [welcomed_concat, times_concat, Throttle.timely_concat, ← followed.timely]
    refine and_congr_right ?_
    intro welcomed
    rw [← followed.seen welcomed session stored unrevoked]
    by_cases recent : session.recent config watched.system.clock
    · exact iff_of_true (authenticate_recent stored keeps recent).1 recent
    · rw [authenticate_idle stored recent]
      exact iff_of_false Bool.false_ne_true recent
  · rw [welcomed_concat, times_concat, Throttle.noted_concat]
    intro welcomed later found _
    have noted := followed.seen welcomed.1 session stored unrevoked
    have recent : session.recent config watched.system.clock := by
      by_contra idle
      have answered := welcomed.2
      rw [authenticate_idle stored idle] at answered
      cases answered
    have seen := (authenticate_recent stored keeps recent).2
    rw [seen, Option.some.injEq] at found
    rw [← found, ← noted]
    rfl

theorem followed_step {watched after : WatchedSystem} {event : Event}
    (followed : Followed config payload login watched) (kept : requestsKeep payload watched event)
    (taken : watchedStep scheme config payload watched event = some after) :
    Followed config payload login after := by
  cases event with
  | action a =>
      simp only [watchedStep, Option.ite_none_left_eq_some, Option.map_eq_some_iff] at taken
      obtain ⟨apart, next, moved, rfl⟩ := taken
      refine ⟨followed.timely, ?_⟩
      intro welcomed session stored unrevoked
      exact followed.seen welcomed session
        (step_session_kept moved (Bool.eq_false_iff.2 apart) stored unrevoked) unrevoked
  | request =>
      cases taken
      exact followed_request followed kept

/-- While the session is kept, every request authenticates exactly when each comes less than the
idle timeout after the last noted one; requests closer by a minute than the timeout do. -/
theorem session_idles {watched last : WatchedSystem} {visited : List (WatchedSystem × Event)}
    (started : Started scheme config payload login watched)
    (run : Run (watchedStep scheme config payload) watched visited last)
    (kept : Along (requestsKeep payload) visited) :
    (last.welcomed ↔
        Throttle.Timely sessionTouchIntervalMs config.idleTimeoutMs login last.times) ∧
      ((login :: last.times).IsChain (fun earlier later =>
          later + sessionTouchIntervalMs ≤ earlier + config.idleTimeoutMs) → last.welcomed) := by
  have followed : Followed config payload login last :=
    run.preserves (requestsKeep payload) (Followed config payload login)
      (followed_started started)
      (fun _ _ _ holds allowed taken => followed_step holds allowed taken) kept
  refine ⟨followed.timely, ?_⟩
  intro spaced
  exact followed.timely.2 (Throttle.timely_of_spaced (by decide) spaced)

end runs

instance (payload : SessionPayload) (watched : WatchedSystem) (event : Event) :
    Decidable (requestsKeep payload watched event) :=
  match event with
  | .request => inferInstanceAs (Decidable (watched.system.keeps payload = true))
  | .action _ => inferInstanceAs (Decidable True)

namespace Sample

/-- Kim's login at time zero up to the start of session 3. -/
def verified : Option AccountSystem :=
  (replay (step scheme config) (AccountSystem.initial database)
    (verify "first" ++ [.beginStart 1])).map Prod.snd

def loggedIn : Option WatchedSystem :=
  verified.bind fun s => (step scheme config s (.startSession 1 3)).map fun system => ⟨system, []⟩

def requestsAt (times : List Time) : List Event :=
  times.flatMap fun time => [.action (.tick time), .request]

def watch (times : List Time) : Option (List (WatchedSystem × Event) × WatchedSystem) :=
  loggedIn.bind fun watched => replay (watchedStep scheme config ⟨1, 3⟩) watched (requestsAt times)

theorem logged_in_started {watched : WatchedSystem} (login : loggedIn = some watched) :
    Started scheme config ⟨1, 3⟩ 0 watched := by
  simp only [loggedIn, Option.bind_eq_some_iff, Option.map_eq_some_iff] at login
  obtain ⟨s, reached, system, taken, rfl⟩ := login
  have starting : (verified.map fun s => s.logins.get 1) =
      some (some (.starting 1 (administrator "kim" "first") 0)) := by decide +kernel
  rw [reached, Option.map_some, Option.some.injEq] at starting
  exact ⟨rfl, s, 1, _, starting, taken⟩

theorem watched_run {times : List Time} {welcome : Bool}
    (passed : (watch times).any (fun outcome =>
      outcome.1.all (fun pair => decide (requestsKeep ⟨1, 3⟩ pair.1 pair.2)) &&
        decide (outcome.2.times = times) &&
          decide (outcome.2.visits.all (fun visit => visit.user.isSome) = welcome)) = true) :
    ∃ watched visited last, Started scheme config ⟨1, 3⟩ 0 watched ∧
      Run (watchedStep scheme config ⟨1, 3⟩) watched visited last ∧
      Along (requestsKeep ⟨1, 3⟩) visited ∧ last.times = times ∧
      (last.welcomed ↔ welcome = true) := by
  obtain ⟨outcome, reached, tested⟩ := (Option.any_eq_true _ _).1 passed
  simp only [Bool.and_eq_true, decide_eq_true_eq, List.all_eq_true] at tested
  obtain ⟨⟨kept, times⟩, answers⟩ := tested
  obtain ⟨watched, login, replayed⟩ := Option.bind_eq_some_iff.1 reached
  refine ⟨watched, outcome.1, outcome.2, logged_in_started login, run_of_replay replayed, ?_,
    times, ?_⟩
  · intro state event member
    exact kept (state, event) member
  · rw [← answers, WatchedSystem.welcomed, List.all_eq_true]

end Sample

theorem session_idles_sample : ∃ watched visited last,
    Run (watchedStep Sample.scheme Sample.config ⟨1, 3⟩) watched visited last ∧
      last.times = [59999, 1799999] ∧ last.welcomed := by
  obtain ⟨watched, visited, last, started, run, kept, times, -⟩ :=
    @Sample.watched_run [59999, 1799999] true (by decide +kernel)
  refine ⟨watched, visited, last, run, times, ?_⟩
  exact (session_idles started run kept).2 (by rw [times]; decide)

/-- A request after 59999 ms is not noted; another one 1799999 ms later, less than the timeout
of 30 minutes, is refused. -/
theorem spaced_request_refused :
    ¬ ∀ (scheme : PasswordScheme) (config : SessionConfig) (payload : SessionPayload)
      (login : Time) (watched last : WatchedSystem) (visited : List (WatchedSystem × Event)),
      Started scheme config payload login watched →
        Run (watchedStep scheme config payload) watched visited last →
          Along (requestsKeep payload) visited →
            Throttle.Spaced config.idleTimeoutMs login last.times → last.welcomed := by
  intro sliding
  obtain ⟨watched, visited, last, started, run, kept, times, answers⟩ :=
    @Sample.watched_run [59999, 1859998] false (by decide +kernel)
  have spaced : Throttle.Spaced Sample.config.idleTimeoutMs 0 last.times := by
    rw [times]
    unfold Throttle.Spaced
    decide
  have welcomed := sliding Sample.scheme Sample.config ⟨1, 3⟩ 0 watched last visited started run
    kept spaced
  exact Bool.false_ne_true (answers.1 welcomed)

end LinkAlive.Accounts
