import LinkAlive.Monitoring.RequestLog

/-!
# The discipline of `checkUrl`

Whatever the dependencies do, `checkUrl` returns a result, every request is made under the
lease of its destination, everything that was opened has been closed or tried to be, and a
failure of the limiter makes the result a platform error. The proof follows the program: a
stage says how far the current turn has come, and what an error leaves to the clean-up is the
same at every stage.
-/

namespace LinkAlive.Monitoring

open Obligations Triples

set_option autoImplicit false

section Books

variable {library : UrlLibrary} {required : Bool} {config : NormalizedConfig}

/-- Holds at every point of a run, also where an error is thrown. -/
structure Orderly (required : Bool) (config : NormalizedConfig) (books : Books library) :
    Prop where
  obeys : Obeys (Permitted required) books.log
  leases : ∀ lease ∈ leaseNumbers books.log, lease < books.leases
  responses : ∀ response ∈ responseNumbers books.log, response < books.responses
  unreleased : ∀ guard ∈ unreleased books.log, books.lease = some guard.1
  unclosed : ∀ response ∈ unclosed books.log, books.response = some response
  requests : (requestStates books.log).length ≤ books.redirects + 1
  redirects : books.redirects ≤ config.maxRedirects

/-- How far a turn has come: the leases that are held, the open response and the number of
requests that it has made. The limiter has not failed. -/
structure Stage (required : Bool) (config : NormalizedConfig) (guards : List (Guard library))
    (response : Option Nat) (sent : Nat) (books : Books library) : Prop where
  orderly : Orderly required config books
  visited : ∀ state ∈ requestStates books.log, state ∈ books.visited
  unfailed : limiterFailed books.log = false
  held : held books.log = guards
  lease : books.lease = guards.head?.map Prod.fst
  response : books.response = response
  sent : (requestStates books.log).length ≤ books.redirects + sent

/-- What a thrown error leaves to the `catch` clause. -/
def Thrown (required : Bool) (config : NormalizedConfig) (error : Rejection)
    (books : Books library) : Prop :=
  Orderly required config books ∧ (limiterFailed books.log = true → error.IsLimiterError)

variable {books : Books library} {guards : List (Guard library)} {response : Option Nat}
  {sent : Nat}

theorem Stage.thrown (stage : Stage required config guards response sent books)
    (error : Rejection) : Thrown required config error books :=
  ⟨stage.orderly, fun failed => absurd failed (by simp [stage.unfailed])⟩

theorem Stage.entered (stage : Stage required config guards response sent books)
    (state : String × String) :
    Stage required config guards response sent
      { books with visited := state :: books.visited } where
  orderly := { stage.orderly with }
  visited := fun other found => List.mem_cons_of_mem _ (stage.visited other found)
  unfailed := stage.unfailed
  held := stage.held
  lease := stage.lease
  response := stage.response
  sent := stage.sent

theorem Stage.without_lease (stage : Stage required config [] response sent books) :
    Stage required config [] response sent { books with lease := none } := by
  have none : books.lease = none := stage.lease
  rw [← none]
  exact stage

/-- An event is entered in the books: it is permitted, it counts the lease or the response that
it opens, and nothing that it leaves pending is lost. -/
structure Entry (required : Bool) (event : Event library) (books next : Books library) :
    Prop where
  log : next.log = books.log ++ [event]
  permitted : Permitted required books.log event
  acquires : ∀ guard, event.acquires = some guard →
    guard.1 < next.leases ∧ next.lease = some guard.1
  responds : ∀ response, event.responds = some response →
    response < next.responses ∧ next.response = some response
  unreleased : ∀ guard ∈ unreleased books.log, event.triesToRelease guard = false →
    next.lease = some guard.1
  unclosed : ∀ response ∈ unclosed books.log, event.triesToClose response = false →
    next.response = some response
  leases : books.leases ≤ next.leases
  responses : books.responses ≤ next.responses
  redirects : next.redirects = books.redirects
  visited : next.visited = books.visited

variable {event : Event library} {next : Books library}

theorem Entry.orderly (entry : Entry required event books next)
    (orderly : Orderly required config books)
    (requests : (requestStates next.log).length ≤ books.redirects + 1) :
    Orderly required config next where
  obeys := by
    rw [entry.log]
    exact .snoc orderly.obeys entry.permitted
  leases := by
    intro lease found
    rw [entry.log, lease_numbers_concat, List.mem_append, Option.mem_toList] at found
    rcases found with found | found
    · exact lt_of_lt_of_le (orderly.leases lease found) entry.leases
    · obtain ⟨guard, acquired, rfl⟩ := Option.map_eq_some_iff.1 found
      exact (entry.acquires guard acquired).1
  responses := by
    intro response found
    rw [entry.log, response_numbers_concat, List.mem_append, Option.mem_toList] at found
    rcases found with found | found
    · exact lt_of_lt_of_le (orderly.responses response found) entry.responses
    · exact (entry.responds response found).1
  unreleased := by
    intro guard found
    rw [entry.log, unreleased_concat] at found
    rcases mem_pending_after found with acquired | ⟨pending, unsettled⟩
    · exact (entry.acquires guard acquired).2
    · refine entry.unreleased guard pending ?_
      cases event with
      | acquired => rfl
      | acquireFailed | requested | responded | closed | released => exact unsettled rfl
  unclosed := by
    intro response found
    rw [entry.log, unclosed_concat] at found
    rcases mem_pending_after found with responded | ⟨pending, unsettled⟩
    · exact (entry.responds response responded).2
    · refine entry.unclosed response pending ?_
      cases event with
      | responded => rfl
      | acquired | acquireFailed | requested | closed | released => exact unsettled rfl
  requests := by
    rw [entry.redirects]
    exact requests
  redirects := by
    rw [entry.redirects]
    exact orderly.redirects

theorem Entry.unrequested (entry : Entry required event books next)
    (quiet : event.requests = none) : requestStates next.log = requestStates books.log := by
  rw [entry.log, request_states_concat, quiet, Option.toList_none, List.append_nil]

theorem Entry.stage (entry : Entry required event books next)
    (stage : Stage required config guards response sent books) (quiet : event.requests = none)
    (unfailed : event.limiterFailed = false) {left : List (Guard library)}
    (held : held next.log = left) (lease : next.lease = left.head?.map Prod.fst)
    {opened : Option Nat} (response : next.response = opened) :
    Stage required config left opened sent next where
  orderly := by
    apply entry.orderly stage.orderly
    rw [entry.unrequested quiet]
    exact stage.orderly.requests
  visited := by
    rw [entry.unrequested quiet, entry.visited]
    exact stage.visited
  unfailed := by rw [entry.log, limiter_failed_concat, stage.unfailed, unfailed, Bool.or_self]
  held := held
  lease := lease
  response := response
  sent := by
    rw [entry.unrequested quiet, entry.redirects]
    exact stage.sent

theorem Entry.of_quiet (permitted : Permitted required books.log event)
    (acquires : event.acquires = none) (responds : event.responds = none)
    {lease response : Option Nat}
    (unreleased : ∀ guard ∈ Monitoring.unreleased books.log, event.triesToRelease guard = false →
      lease = some guard.1)
    (unclosed : ∀ number ∈ Monitoring.unclosed books.log, event.triesToClose number = false →
      response = some number) :
    Entry required event books
      { books with log := books.log ++ [event], lease := lease, response := response } where
  log := rfl
  permitted := permitted
  acquires := fun _ acquired => nomatch acquires.symm.trans acquired
  responds := fun _ responded => nomatch responds.symm.trans responded
  unreleased := unreleased
  unclosed := unclosed
  leases := le_rfl
  responses := le_rfl
  redirects := rfl
  visited := rfl

/-- An event that opens, closes and releases nothing. -/
theorem Orderly.plain_entry (orderly : Orderly required config books)
    (permitted : Permitted required books.log event) (acquires : event.acquires = none)
    (responds : event.responds = none) :
    Entry required event books { books with log := books.log ++ [event] } :=
  .of_quiet permitted acquires responds (fun guard pending _ => orderly.unreleased guard pending)
    fun number pending _ => orderly.unclosed number pending

theorem Stage.acquired (stage : Stage required config [] none sent books)
    (destination : SafeDestination library) :
    Stage required config [(books.leases, destination)] none sent
      { books with
        log := books.log ++ [.acquired books.leases destination]
        leases := books.leases + 1
        lease := some books.leases } := by
  have entry : Entry required (.acquired books.leases destination) books
      { books with
        log := books.log ++ [.acquired books.leases destination]
        leases := books.leases + 1
        lease := some books.leases } :=
    { log := rfl
      permitted := ⟨stage.held, fun found => Nat.lt_irrefl _ (stage.orderly.leases _ found)⟩
      acquires := by
        rintro guard ⟨⟩
        exact ⟨Nat.lt_succ_self _, rfl⟩
      responds := fun _ responded => nomatch responded
      unreleased := by
        intro guard pending _
        have same := stage.orderly.unreleased guard pending
        rw [stage.lease] at same
        cases same
      unclosed := fun number pending _ => stage.orderly.unclosed number pending
      leases := Nat.le_succ _
      responses := le_rfl
      redirects := rfl
      visited := rfl }
  refine entry.stage stage rfl rfl ?_ rfl stage.response
  rw [held_concat, stage.held]
  rfl

theorem Stage.acquire_failed (stage : Stage required config guards response sent books)
    (destination : SafeDestination library) {error : Rejection} (limiter : error.IsLimiterError) :
    Thrown required config error
      { books with log := books.log ++ [.acquireFailed destination] } := by
  refine ⟨?_, fun _ => limiter⟩
  have entry : Entry required (.acquireFailed destination) books _ :=
    stage.orderly.plain_entry trivial rfl rfl
  apply entry.orderly stage.orderly
  rw [entry.unrequested rfl]
  exact stage.orderly.requests

theorem Stage.requested (stage : Stage required config guards response 0 books)
    {destination : SafeDestination library} {cookie : String}
    (guarded : required = true → ∃ lease, guards = [(lease, destination)])
    (fresh : (library.serialize destination.url, cookie) ∉ requestStates books.log)
    (entered : (library.serialize destination.url, cookie) ∈ books.visited) :
    Stage required config guards response 1
      { books with log := books.log ++ [.requested destination cookie] } := by
  have permitted : Permitted required books.log (.requested destination cookie) := by
    refine ⟨?_, fresh⟩
    rw [stage.held]
    exact guarded
  have entry := stage.orderly.plain_entry permitted rfl rfl
  have counted : (requestStates (books.log ++ [.requested destination cookie])).length ≤
      books.redirects + 1 := by
    rw [request_states_concat, List.length_append]
    exact Nat.succ_le_succ stage.sent
  constructor
  · exact entry.orderly stage.orderly counted
  · intro state found
    rw [request_states_concat, List.mem_append] at found
    rcases found with found | found
    · exact stage.visited state found
    · rw [List.mem_singleton.1 found]
      exact entered
  · rw [limiter_failed_concat, stage.unfailed]
    rfl
  · rw [held_concat, stage.held]
    exact List.filter_eq_self.2 fun _ _ => rfl
  · exact stage.lease
  · exact stage.response
  · exact counted

theorem Stage.responded (stage : Stage required config guards none sent books) :
    Stage required config guards (some books.responses) sent
      { books with
        log := books.log ++ [.responded books.responses]
        responses := books.responses + 1
        response := some books.responses } := by
  have entry : Entry required (.responded books.responses) books
      { books with
        log := books.log ++ [.responded books.responses]
        responses := books.responses + 1
        response := some books.responses } :=
    { log := rfl
      permitted := fun found => Nat.lt_irrefl _ (stage.orderly.responses _ found)
      acquires := fun _ acquired => nomatch acquired
      responds := by
        rintro number ⟨⟩
        exact ⟨Nat.lt_succ_self _, rfl⟩
      unreleased := fun guard pending _ => stage.orderly.unreleased guard pending
      unclosed := by
        intro number pending _
        have same := stage.orderly.unclosed number pending
        rw [stage.response] at same
        cases same
      leases := le_rfl
      responses := Nat.le_succ _
      redirects := rfl
      visited := rfl }
  refine entry.stage stage rfl rfl ?_ stage.lease rfl
  rw [held_concat, stage.held]
  exact List.filter_eq_self.2 fun _ _ => rfl

theorem Orderly.close_entry (orderly : Orderly required config books) {number : Nat}
    (opened : books.response = some number) (fulfilled : Bool) (left : Option Nat) :
    Entry required (.closed number fulfilled) books
      { books with log := books.log ++ [.closed number fulfilled], response := left } := by
  refine Entry.of_quiet ?_ rfl rfl ?_ ?_
  · trivial
  · exact fun guard pending _ => orderly.unreleased guard pending
  · intro response pending untried
    have same := orderly.unclosed response pending
    rw [opened, Option.some_inj] at same
    exact absurd same (of_decide_eq_false untried)

theorem Orderly.release_entry (orderly : Orderly required config books) {number : Nat}
    (kept : books.lease = some number) (fulfilled : Bool) (left : Option Nat) :
    Entry required (.released number fulfilled) books
      { books with log := books.log ++ [.released number fulfilled], lease := left } := by
  refine Entry.of_quiet ?_ rfl rfl ?_ ?_
  · trivial
  · intro guard pending untried
    have same := orderly.unreleased guard pending
    rw [kept, Option.some_inj] at same
    exact absurd same (of_decide_eq_false untried)
  · exact fun response pending _ => orderly.unclosed response pending

theorem Orderly.closed (orderly : Orderly required config books) {number : Nat}
    (opened : books.response = some number) (fulfilled : Bool) (left : Option Nat) :
    Orderly required config
      { books with log := books.log ++ [.closed number fulfilled], response := left } := by
  have entry : Entry required _ books _ := orderly.close_entry opened fulfilled left
  apply entry.orderly orderly
  rw [entry.unrequested rfl]
  exact orderly.requests

theorem Orderly.released (orderly : Orderly required config books) {number : Nat}
    (kept : books.lease = some number) (fulfilled : Bool) (left : Option Nat) :
    Orderly required config
      { books with log := books.log ++ [.released number fulfilled], lease := left } := by
  have entry : Entry required _ books _ := orderly.release_entry kept fulfilled left
  apply entry.orderly orderly
  rw [entry.unrequested rfl]
  exact orderly.requests

theorem Stage.closed {number : Nat}
    (stage : Stage required config guards (some number) sent books) :
    Stage required config guards none sent
      { books with log := books.log ++ [.closed number true], response := none } := by
  have entry := stage.orderly.close_entry stage.response true none
  refine entry.stage stage rfl rfl ?_ stage.lease rfl
  rw [held_concat, stage.held]
  exact List.filter_eq_self.2 fun _ _ => rfl

theorem Stage.released {guard : Guard library}
    (stage : Stage required config [guard] response sent books) :
    Stage required config [] response sent
      { books with log := books.log ++ [.released guard.1 true], lease := none } := by
  have entry := stage.orderly.release_entry stage.lease true none
  have freed : Monitoring.held (books.log ++ [.released guard.1 true]) = [] := by
    rw [held_concat, stage.held]
    simp [pendingAfter, Event.acquires, Event.frees]
  exact entry.stage stage rfl rfl freed rfl stage.response

theorem Stage.redirected (stage : Stage required config [] none 1 books)
    (allowed : books.redirects < config.maxRedirects) :
    Stage required config [] none 0 { books with redirects := books.redirects + 1 } where
  orderly :=
    { stage.orderly with
      requests := Nat.le_succ_of_le stage.orderly.requests
      redirects := allowed }
  visited := stage.visited
  unfailed := stage.unfailed
  held := stage.held
  lease := stage.lease
  response := stage.response
  sent := stage.sent

end Books

section Turn

variable {World : Type} {env : Environment World} {config : NormalizedConfig}
  {guards : List (Guard env.urls)} {response : Option Nat} {sent : Nat} {Value : Type}

abbrev At (config : NormalizedConfig) (guards : List (Guard env.urls)) (response : Option Nat)
    (sent : Nat) (session : Session env) : Prop :=
  Stage env.acquire.isSome config guards response sent session.books

abbrev Broken (config : NormalizedConfig) (error : Rejection) (session : Session env) : Prop :=
  Thrown env.acquire.isSome config error session.books

theorem quiet_stage {program : Program env Value} (frame : Frame Session.books program) :
    Triple (At config guards response sent) program (fun _ => At config guards response sent)
      (Broken config) :=
  frame.keeps (Stage env.acquire.isSome config guards response sent)
    fun error _ stage => stage.thrown error

def Entered (destination : SafeDestination env.urls) (cookie : String)
    (books : Books env.urls) : Prop :=
  (env.urls.serialize destination.url, cookie) ∉ requestStates books.log ∧
    (env.urls.serialize destination.url, cookie) ∈ books.visited

theorem enter_stage (destination : SafeDestination env.urls) :
    Triple (At config guards response sent)
      (enterDestination destination : Program env String)
      (fun cookie session =>
        At config guards response sent session ∧ Entered destination cookie session.books)
      (Broken config) := by
  unfold enterDestination
  refine (quiet_stage (Frame.modify_get fun _ => rfl)).bind fun outcome => ?_
  refine (quiet_stage (Frame.or_throw _)).bind fun cookie => ?_
  apply Triple.read
  intro current _
  have unseen : Triple
      (fun session => At config guards response sent session ∧ session = current)
      (failIf ((env.urls.serialize destination.url, cookie) ∈ current.visited)
        (.failure (.redirectPolicyError "리다이렉트 순환이 감지되었습니다.")) : Program env Unit)
      (fun _ session => At config guards response sent session ∧
        (env.urls.serialize destination.url, cookie) ∉ session.visited)
      (Broken config) := by
    apply Triple.fail_if
    · exact fun session holds _ => holds.1.thrown _
    · rintro session ⟨stage, rfl⟩ unseen
      exact ⟨stage, of_decide_eq_false unseen⟩
  refine unseen.bind fun _ => ?_
  apply Triple.returning
  apply Triple.modify
  rintro session ⟨stage, new⟩
  refine ⟨stage.entered _, ?_, List.mem_cons_self⟩
  exact fun found => new (stage.visited _ found)

theorem as_limiter_error (message : String) (error : Rejection) :
    (asLimiterError message error).IsLimiterError := by
  unfold asLimiterError
  split
  · trivial
  · trivial

/-- With a limiter the next request is made under a lease of its destination. -/
def Guarded (env : Environment World) (destination : SafeDestination env.urls)
    (guards : List (Guard env.urls)) : Prop :=
  env.acquire.isSome = true → ∃ lease, guards = [(lease, destination)]

theorem entered_stage {program : Program env Value} (frame : Frame Session.books program)
    (destination : SafeDestination env.urls) (cookie : String) :
    Triple
      (fun session =>
        At config guards response sent session ∧ Entered destination cookie session.books)
      program
      (fun _ session =>
        At config guards response sent session ∧ Entered destination cookie session.books)
      (Broken config) :=
  frame.keeps
    (fun books => Stage env.acquire.isSome config guards response sent books ∧
      Entered destination cookie books)
    fun error _ holds => holds.1.thrown error

theorem protect_stage (destination : SafeDestination env.urls) (cookie : String) :
    Triple
      (fun session => At config [] none 0 session ∧ Entered destination cookie session.books)
      (protectDestination destination : Program env Unit)
      (fun _ session => ∃ guards, Guarded env destination guards ∧
        At config guards none 0 session ∧ Entered destination cookie session.books)
      (Broken config) := by
  unfold protectDestination
  cases limiter : env.acquire with
  | none =>
      apply Triple.modify
      rintro session ⟨stage, entered⟩
      refine ⟨[], fun present => absurd present (by simp [limiter]), ?_, entered⟩
      exact stage.without_lease
  | some acquire =>
      unfold acquireDestinationLease
      refine (entered_stage (perform_frame _) destination cookie).bind fun outcome => ?_
      cases outcome with
      | ok lease =>
          apply Triple.modify
          rintro session ⟨stage, unseen, visited⟩
          refine ⟨[(session.leases, destination)], fun _ => ⟨_, rfl⟩, stage.acquired destination,
            ?_, visited⟩
          have kept : requestStates (session.log ++ [.acquired session.leases destination]) =
              requestStates session.log := by simp [Event.requests]
          exact fun found => unseen (kept ▸ found)
      | error error =>
          apply Triple.throwing
          apply Triple.modify
          rintro session ⟨stage, -⟩
          exact stage.acquire_failed destination (as_limiter_error _ error)

theorem send_stage (startedTick : Rat) (destination : SafeDestination env.urls)
    (cookie : String) (guarded : Guarded env destination guards) :
    Triple
      (fun session => At config guards none 0 session ∧ Entered destination cookie session.books)
      (sendRequest config startedTick destination cookie :
        Program env (TransportResponse World))
      (fun _ session => ∃ number, At config guards (some number) 1 session)
      (Broken config) := by
  have recorded : Triple
      (fun session => At config guards none 0 session ∧ Entered destination cookie session.books)
      (record (.requested destination cookie) : Program env Unit)
      (fun _ => At config guards none 1) (Broken config) := by
    apply Triple.modify
    rintro session ⟨stage, fresh, entered⟩
    exact stage.requested guarded fresh entered
  unfold sendRequest
  refine (entered_stage (perform_frame _) destination cookie).bind fun tick => ?_
  refine recorded.bind fun _ => ?_
  refine (quiet_stage (perform_frame _)).bind fun outcome => ?_
  refine (quiet_stage (Frame.or_throw _)).bind fun response => ?_
  have opened : Triple (At config guards none 1)
      (modify fun session => { session with
        log := session.log ++ [.responded session.responses]
        responses := session.responses + 1
        response := some (session.responses, response)
        statusCode := some response.statusCode } : Program env Unit)
      (fun _ session => ∃ number, At config guards (some number) 1 session)
      (Broken config) := by
    apply Triple.modify
    intro session stage
    exact ⟨session.responses, stage.responded⟩
  refine opened.bind fun _ => ?_
  apply Triple.of_exists
  intro number
  refine (quiet_stage (perform_frame _)).bind fun tick => ?_
  refine Triple.bind (quiet_stage (Frame.modify fun _ => rfl)) fun _ => ?_
  apply Triple.returning
  exact (quiet_stage (Frame.fail_if _ _)).weaken (fun _ stage => stage)
    (fun _ _ stage => ⟨number, stage⟩) fun _ _ broken => broken

theorem close_response_stage {number : Nat} (response : TransportResponse World) :
    Triple (At config guards (some number) sent)
      (closeResponse number response : Program env (Except Rejection Unit))
      (fun outcome session => match outcome with
        | .ok () => Stage env.acquire.isSome config guards none sent
            { session.books with response := none }
        | .error error => Broken config error session)
      (Broken config) := by
  unfold closeResponse
  refine (quiet_stage (perform_frame _)).bind fun outcome => ?_
  apply Triple.returning
  apply Triple.modify
  intro session stage
  cases outcome with
  | ok closed => exact stage.closed
  | error error =>
      have kept : session.books.response = some number := stage.response
      have orderly := stage.orderly.closed kept false session.books.response
      refine ⟨orderly, fun failed => ?_⟩
      have unfailed : limiterFailed (session.log ++ [.closed number false]) = false := by
        rw [limiter_failed_concat]
        exact Bool.or_eq_false_iff.2 ⟨stage.unfailed, rfl⟩
      exact absurd failed (Bool.eq_false_iff.1 unfailed)

theorem close_stage {number : Nat} :
    Triple (At config guards (some number) sent) (closeCurrent : Program env Unit)
      (fun _ => At config guards none sent) (Broken config) := by
  unfold closeCurrent
  apply Triple.read
  intro current stage
  have opened : current.response.map Prod.fst = some number := stage.response
  cases found : current.response with
  | none =>
      rw [found] at opened
      cases opened
  | some pair =>
      obtain ⟨_, response⟩ := pair
      rw [found] at opened
      cases opened
      refine Triple.bind ((close_response_stage response).weaken (fun _ holds => holds.1)
        (fun _ _ left => left) fun _ _ broken => broken) fun outcome => ?_
      cases outcome with
      | ok closed =>
          exact Triple.bind (Triple.pure fun _ left => left)
            fun _ => Triple.modify fun _ left => left
      | error error => exact Triple.throw_bind fun _ broken => broken

/-- Releasing nothing does nothing; a lease whose release fails is a limiter error. -/
theorem release_stage (current : Session env) (stage : At config guards none sent current) :
    Triple (fun session => At config guards none sent session ∧ session = current)
      (releaseDestinationLease current.destinationLease : Program env Unit)
      (fun _ session => Stage env.acquire.isSome config [] none sent
        { session.books with lease := none })
      (Broken config) := by
  have kept : current.destinationLease.map Prod.fst = guards.head?.map Prod.fst := stage.lease
  have few := held_at_most_one stage.orderly.obeys
  rw [stage.held] at few
  unfold releaseDestinationLease
  match guards, current.destinationLease, kept, few with
  | [], none, _, _ =>
      exact Triple.pure fun session holds => holds.1.without_lease
  | [guard], some (number, lease), kept, _ =>
      cases kept
      refine Triple.bind ((quiet_stage (perform_frame lease.release)).weaken
        (fun _ holds => holds.1) (fun _ _ stage => stage) fun _ _ broken => broken)
        fun outcome => ?_
      cases outcome with
      | ok released =>
          apply Triple.modify
          intro session stage
          exact stage.released
      | error error =>
          apply Triple.throwing
          apply Triple.modify
          intro session stage
          have orderly := stage.orderly.released stage.lease false session.books.lease
          exact ⟨orderly, fun _ => as_limiter_error _ error⟩

theorem disconnect_stage {number : Nat} :
    Triple (At config guards (some number) sent) (disconnect : Program env Unit)
      (fun _ => At config [] none sent) (Broken config) := by
  unfold disconnect
  refine close_stage.bind fun _ => ?_
  apply Triple.read
  intro current stage
  refine (release_stage current stage).bind fun _ => ?_
  exact Triple.modify fun session left => left

theorem follow_stage (destination : SafeDestination env.urls)
    (response : TransportResponse World) (location : String) {number : Nat} :
    Triple (At config guards (some number) 1)
      (followRedirect config destination response location : Program env Unit)
      (fun _ => At config [] none 0) (Broken config) := by
  have steady {guards : List (Guard env.urls)} {response : Option Nat} {Value : Type}
      {program : Program env Value} (frame : Frame Session.books program) :
      Triple (fun session => At config guards response 1 session ∧
          session.redirects < config.maxRedirects) program
        (fun _ session => At config guards response 1 session ∧
          session.redirects < config.maxRedirects) (Broken config) :=
    (frame.part Books.redirects).rule (quiet_stage frame) fun count =>
      count < config.maxRedirects
  unfold followRedirect
  apply Triple.read
  intro current _
  have allowed : Triple
      (fun session => At config guards (some number) 1 session ∧ session = current)
      (failIf (config.maxRedirects ≤ current.redirects)
        (.failure (.redirectPolicyError "허용된 리다이렉트 횟수를 초과했습니다.")) :
        Program env Unit)
      (fun _ session => At config guards (some number) 1 session ∧
        session.redirects < config.maxRedirects)
      (Broken config) := by
    apply Triple.fail_if
    · exact fun session holds _ => holds.1.thrown _
    · rintro session ⟨stage, rfl⟩ within
      exact ⟨stage, Nat.lt_of_not_le (of_decide_eq_false within)⟩
  refine allowed.bind fun _ => ?_
  refine (steady (Frame.or_throw _)).bind fun next => ?_
  refine (steady (store_cookies_frame _ _)).bind fun _ => ?_
  refine (steady (destroy_frame response)).bind fun _ => ?_
  refine Triple.bind (disconnect_redirects.rule disconnect_stage fun count =>
    count < config.maxRedirects) fun _ => ?_
  apply Triple.modify
  rintro session ⟨stage, within⟩
  exact stage.redirected within

/-- A result is returned with everything closed and released, and a failure of the limiter has
made it a platform error. -/
structure Settled (required : Bool) (config : NormalizedConfig) {library : UrlLibrary}
    (result : MonitorCheckResult) (books : Books library) : Prop where
  orderly : Orderly required config books
  response : books.response = none
  lease : books.lease = none
  platform : limiterFailed books.log = true → result.outcome = .platformError

theorem accept_stage (startedAt : Time) (startedTick : Rat) (response : TransportResponse World)
    {number : Nat} :
    Triple (At config guards (some number) 1)
      (acceptResponse config startedAt startedTick response : Program env MonitorCheckResult)
      (fun result session => Settled env.acquire.isSome config result session.books)
      (Broken config) := by
  unfold acceptResponse
  refine (quiet_stage (Frame.fail_if _ _)).bind fun _ => ?_
  refine (quiet_stage (check_keyword_frame config response)).bind fun _ => ?_
  refine disconnect_stage.bind fun _ => ?_
  refine (quiet_stage (perform_frame _)).bind fun finishedAt => ?_
  refine (quiet_stage (perform_frame _)).bind fun tick => ?_
  apply Triple.read
  intro current _
  apply Triple.pure
  rintro session ⟨stage, -⟩
  exact
    { orderly := stage.orderly
      response := stage.response
      lease := stage.lease
      platform := fun failed => absurd failed (Bool.eq_false_iff.1 stage.unfailed) }

theorem hop_stage (startedAt : Time) (startedTick : Rat) :
    Triple (At config [] none 0)
      (hop config startedAt startedTick : Program env (Option MonitorCheckResult))
      (fun result session => result.elim (At config [] none 0 session)
        fun value => Settled env.acquire.isSome config value session.books)
      (Broken config) := by
  unfold hop
  apply Triple.read
  intro current _
  refine Triple.bind ((quiet_stage (resolve_frame _)).weaken (fun _ holds => holds.1)
    (fun _ _ stage => stage) fun _ _ broken => broken) fun destination => ?_
  refine (enter_stage destination).bind fun cookie => ?_
  refine (protect_stage destination cookie).bind fun _ => ?_
  apply Triple.of_exists
  intro guards
  apply Triple.of_fact
  intro guarded
  refine (send_stage startedTick destination cookie guarded).bind fun response => ?_
  apply Triple.of_exists
  intro number
  split
  · apply Triple.returning
    exact follow_stage destination response _
  · refine (accept_stage startedAt startedTick response).bind fun result => ?_
    exact Triple.pure fun _ settled => settled

end Turn

section CleanUp

variable {World : Type} {env : Environment World} {config : NormalizedConfig} {Value : Type}

abbrev Never (_ : Rejection) (_ : Session env) : Prop := False

theorem perform_keeps (effect : World → Value × World) (holds : Books env.urls → Prop) :
    Triple (fun session => holds session.books) (perform effect : Program env Value)
      (fun _ session => holds session.books) Never :=
  Triple.modify_get fun _ held => held

theorem Thrown.closed {required : Bool} {library : UrlLibrary} {books : Books library}
    {error : Rejection} (thrown : Thrown required config error books) {number : Nat}
    (opened : books.response = some number) (fulfilled : Bool) :
    Thrown required config error
      { books with log := books.log ++ [.closed number fulfilled], response := none } := by
  refine ⟨thrown.1.closed opened fulfilled none, fun failed => thrown.2 ?_⟩
  rw [limiter_failed_concat] at failed
  simpa [Event.limiterFailed] using failed

theorem close_quietly_thrown (error : Rejection) :
    Triple (Broken config error) (closeQuietly : Program env Unit)
      (fun _ session => Thrown env.acquire.isSome config error
        { session.books with response := none })
      Never := by
  unfold closeQuietly
  apply Triple.read
  intro current _
  cases found : current.response with
  | none =>
      apply Triple.pure
      rintro session ⟨thrown, rfl⟩
      have none : session.books.response = none := congrArg (Option.map Prod.fst) found
      rw [← none]
      exact thrown
  | some pair =>
      obtain ⟨number, response⟩ := pair
      have opened : current.books.response = some number := congrArg (Option.map Prod.fst) found
      have start : Triple (fun session => Broken config error session ∧ session = current)
          (destroyBody response : Program env Unit)
          (fun _ session => Broken config error session ∧ session.books.response = some number)
          Never := by
        apply Triple.modify
        rintro session ⟨thrown, rfl⟩
        exact ⟨thrown, opened⟩
      refine start.bind fun _ => ?_
      apply Triple.returning
      unfold closeResponse
      refine (perform_keeps response.close fun books => Thrown env.acquire.isSome config error books ∧
        books.response = some number).bind fun outcome => ?_
      apply Triple.returning
      apply Triple.modify
      rintro session ⟨thrown, opened⟩
      exact thrown.closed opened outcome.isOk

def Closing (required : Bool) (config : NormalizedConfig) {library : UrlLibrary}
    (error : Rejection) (books : Books library) : Prop :=
  Thrown required config error books ∧ books.response = none

section Closing

variable {required : Bool} {library : UrlLibrary} {books : Books library} {error : Rejection}
  {number : Nat}

theorem Closing.released (closing : Closing required config error books)
    (kept : books.lease = some number) :
    Closing required config error
      { books with log := books.log ++ [.released number true], lease := none } := by
  refine ⟨⟨closing.1.1.released kept true none, fun failed => closing.1.2 ?_⟩, closing.2⟩
  rw [limiter_failed_concat] at failed
  simpa [Event.limiterFailed] using failed

theorem Closing.release_failed (closing : Closing required config error books)
    (kept : books.lease = some number) {releaseError : Rejection}
    (limiter : releaseError.IsLimiterError) :
    Closing required config releaseError
      { books with log := books.log ++ [.released number false], lease := none } :=
  ⟨⟨closing.1.1.released kept false none, fun _ => limiter⟩, closing.2⟩

end Closing

theorem supersede_thrown (error : Rejection) :
    Triple (fun session => Closing env.acquire.isSome config error session.books)
      (supersedeError error : Program env Rejection)
      (fun effective session =>
        Closing env.acquire.isSome config effective session.books ∧ session.books.lease = none)
      Never := by
  unfold supersedeError
  apply Triple.read
  intro current _
  cases found : current.destinationLease with
  | none =>
      apply Triple.pure
      rintro session ⟨closing, rfl⟩
      exact ⟨closing, congrArg (Option.map Prod.fst) found⟩
  | some pair =>
      obtain ⟨number, lease⟩ := pair
      have kept : current.books.lease = some number := congrArg (Option.map Prod.fst) found
      have settled : Triple
          (fun session =>
            Closing env.acquire.isSome config error session.books ∧ session = current)
          (settle lease.release : Program env (Except Rejection Unit))
          (fun _ session => Closing env.acquire.isSome config error session.books ∧
            session.books.lease = some number)
          fun releaseError session => Closing env.acquire.isSome config releaseError
            { session.books with lease := none } := by
        apply Triple.modify_get
        rintro session ⟨closing, rfl⟩
        exact ⟨closing, kept⟩
      have released : Triple
          (fun session =>
            Closing env.acquire.isSome config error session.books ∧ session = current)
          (releaseDestinationLease (some (number, lease)) : Program env Unit)
          (fun _ session => Closing env.acquire.isSome config error
            { session.books with lease := none })
          fun releaseError session => Closing env.acquire.isSome config releaseError
            { session.books with lease := none } := by
        refine settled.bind fun outcome => ?_
        cases outcome with
        | ok done =>
            apply Triple.modify
            rintro session ⟨closing, kept⟩
            exact closing.released kept
        | error rejection =>
            apply Triple.throwing
            apply Triple.modify
            rintro session ⟨closing, kept⟩
            exact closing.release_failed kept (as_limiter_error _ rejection)
      have superseded : Triple
          (fun session =>
            Closing env.acquire.isSome config error session.books ∧ session = current)
          (tryCatch
            (do
              releaseDestinationLease (some (number, lease))
              pure error)
            fun releaseError => pure releaseError : Program env Rejection)
          (fun effective session => Closing env.acquire.isSome config effective
            { session.books with lease := none })
          Never :=
        Triple.tryCatch (Triple.returning released) fun releaseError =>
          Triple.pure fun _ closing => closing
      refine superseded.bind fun effective => ?_
      apply Triple.returning
      apply Triple.modify
      intro session closing
      exact ⟨closing, rfl⟩

theorem policy_error_limiter {error : Rejection} (limiter : error.IsLimiterError)
    (redirects : Nat) : (policyError redirects error).IsLimiterError := by
  unfold Rejection.IsLimiterError at limiter
  split at limiter
  · trivial
  · exact limiter.elim

theorem result_from_failure_settled (failure : CheckFailure) (fallback : NormalizedConfig)
    (startedAt : Time) (startedTick : Rat) :
    Triple
      (fun session => Orderly env.acquire.isSome config session.books ∧
        session.books.response = none ∧ session.books.lease = none ∧
        (limiterFailed session.books.log = true → failure.outcome = .platformError))
      (resultFromFailure failure fallback startedAt startedTick : Program env MonitorCheckResult)
      (fun result session => Settled env.acquire.isSome config result session.books)
      Never := by
  unfold resultFromFailure
  have steady {Value : Type} (effect : World → Value × World) := perform_keeps effect
    fun books : Books env.urls => Orderly env.acquire.isSome config books ∧ books.response = none ∧
      books.lease = none ∧ (limiterFailed books.log = true → failure.outcome = .platformError)
  refine (steady _).bind fun finishedAt => ?_
  refine (steady _).bind fun tick => ?_
  apply Triple.read
  intro current _
  apply Triple.pure
  rintro session ⟨⟨orderly, response, lease, platform⟩, -⟩
  exact ⟨orderly, response, lease, platform⟩

theorem failed_result_settled (startedAt : Time) (startedTick : Rat) (error : Rejection) :
    Triple (Broken config error)
      (failedResult config startedAt startedTick error : Program env MonitorCheckResult)
      (fun result session => Settled env.acquire.isSome config result session.books)
      Never := by
  unfold failedResult
  have cleared : Triple
      (fun session => Thrown env.acquire.isSome config error
        { session.books with response := none })
      (modify fun session => { session with response := none } : Program env Unit)
      (fun _ session => Closing env.acquire.isSome config error session.books) Never :=
    Triple.modify fun _ thrown => ⟨thrown, rfl⟩
  refine (close_quietly_thrown error).bind fun _ => ?_
  refine cleared.bind fun _ => ?_
  refine (supersede_thrown error).bind fun effective => ?_
  apply Triple.read
  intro current _
  refine (result_from_failure_settled _ config startedAt startedTick).weaken ?_
    (fun _ _ settled => settled) fun _ _ impossible => impossible
  rintro session ⟨⟨⟨⟨orderly, limiter⟩, closed⟩, released⟩, rfl⟩
  refine ⟨orderly, closed, released, fun failed => ?_⟩
  exact classify_limiter_error (policy_error_limiter (limiter failed) session.redirects) _

/-- Nothing is left for the `finally` clause. -/
theorem clean_up_settled (result : MonitorCheckResult) :
    Triple (fun session => Settled env.acquire.isSome config result session.books)
      (cleanUp : Program env Unit)
      (fun _ session => Settled env.acquire.isSome config result session.books) Never := by
  have closed : Triple (fun session => Settled env.acquire.isSome config result session.books)
      (closeQuietly : Program env Unit)
      (fun _ session => Settled env.acquire.isSome config result session.books) Never := by
    unfold closeQuietly
    apply Triple.read
    intro current settled
    have none : current.response = none := Option.map_eq_none_iff.1 settled.response
    rw [none]
    exact Triple.pure fun _ holds => holds.1
  unfold cleanUp
  refine closed.bind fun _ => ?_
  unfold releaseQuietly
  apply Triple.read
  intro current settled
  have none : current.destinationLease = none := Option.map_eq_none_iff.1 settled.lease
  rw [none]
  exact Triple.pure fun _ holds => holds.1

end CleanUp

def allowedRequests (input : MonitorCheckConfig) : Nat :=
  match input.maxRedirects.getD (.integer defaultMaxRedirects) with
  | .integer maxRedirects => (maxRedirects + 1).toNat
  | .other => 0

theorem normalize_max_redirects {input : MonitorCheckConfig} {config : NormalizedConfig}
    (normalized : normalizeConfig input = .ok config) :
    allowedRequests input = config.maxRedirects + 1 := by
  have within := (normalize_config_ok normalized).2
  unfold allowedRequests
  cases given : input.maxRedirects.getD (.integer defaultMaxRedirects) with
  | other =>
      rw [given] at within
      cases within
  | integer maxRedirects =>
      rw [given] at within
      simp only [Numeral.within, Option.ite_none_right_eq_some, Option.some.injEq] at within
      obtain ⟨⟨low, -⟩, same⟩ := within
      change (maxRedirects + 1).toNat = config.maxRedirects + 1
      omega

structure Disciplined {World : Type} (env : Environment World) (input : MonitorCheckConfig)
    (result : MonitorCheckResult) (log : List (Event env.urls)) : Prop where
  /-- With a limiter every request is made under the one lease of its destination. -/
  guarded : env.acquire.isSome = true → ∀ before destination cookie after,
    log = before ++ .requested destination cookie :: after →
      ∃ lease, held before = [(lease, destination)]
  /-- At most one lease is held at any time. -/
  exclusive : ∀ before after, log = before ++ after → (held before).length ≤ 1
  /-- Leases are numbered apart, and for each a release is tried after it was acquired. -/
  released : ∀ before lease destination after,
    log = before ++ .acquired lease destination :: after →
      lease ∉ leaseNumbers before ∧ ∃ fulfilled, .released lease fulfilled ∈ after
  /-- Responses are numbered apart, and for each a close is tried after it has come. -/
  closed : ∀ before response after, log = before ++ .responded response :: after →
    response ∉ responseNumbers before ∧ ∃ fulfilled, .closed response fulfilled ∈ after
  bounded : (requestStates log).length ≤ allowedRequests input
  /-- No URL is requested twice with the same cookies. -/
  fresh : (requestStates log).Nodup
  platform : limiterFailed log = true → result.outcome = .platformError

theorem Disciplined.of_nil {World : Type} (env : Environment World) (input : MonitorCheckConfig)
    (result : MonitorCheckResult) : Disciplined env input result [] where
  guarded := by simp
  exclusive := by
    intro before after split
    obtain ⟨rfl, -⟩ := List.append_eq_nil_iff.1 split.symm
    exact Nat.zero_le 1
  released := by simp
  closed := by simp
  bounded := Nat.zero_le _
  fresh := List.nodup_nil
  platform := by simp [limiterFailed]

theorem Settled.disciplined {World : Type} {env : Environment World} {config : NormalizedConfig}
    {input : MonitorCheckConfig} {result : MonitorCheckResult} {session : Session env}
    (settled : Settled env.acquire.isSome config result session.books)
    (normalized : normalizeConfig input = .ok config) :
    Disciplined env input result session.log where
  guarded := by
    intro limiter before destination cookie after split
    exact (settled.orderly.obeys.permits split).1 limiter
  exclusive := fun before after split => held_at_most_one (settled.orderly.obeys.earlier split)
  released := by
    intro before lease destination after split
    refine ⟨(settled.orderly.obeys.permits split).2, ?_⟩
    have none : unreleased session.log = [] := by
      rw [List.eq_nil_iff_forall_not_mem]
      intro guard pending
      have kept := settled.orderly.unreleased guard pending
      rw [settled.lease] at kept
      cases kept
    obtain ⟨event, later, tried⟩ := settled_of_none_pending none split rfl
    cases event with
    | released other fulfilled =>
        have same : other = lease := of_decide_eq_true tried
        exact ⟨fulfilled, same ▸ later⟩
    | acquired | acquireFailed | requested | responded | closed => cases tried
  closed := by
    intro before response after split
    refine ⟨settled.orderly.obeys.permits split, ?_⟩
    have none : unclosed session.log = [] := by
      rw [List.eq_nil_iff_forall_not_mem]
      intro other pending
      have kept := settled.orderly.unclosed other pending
      rw [settled.response] at kept
      cases kept
    obtain ⟨event, later, tried⟩ := settled_of_none_pending none split rfl
    cases event with
    | closed other fulfilled =>
        have same : other = response := of_decide_eq_true tried
        exact ⟨fulfilled, same ▸ later⟩
    | acquired | acquireFailed | requested | responded | released => cases tried
  bounded := by
    rw [normalize_max_redirects normalized]
    exact le_trans settled.orderly.requests (Nat.succ_le_succ settled.orderly.redirects)
  fresh := request_states_nodup settled.orderly.obeys
  platform := settled.platform

theorem start_stage {World : Type} {env : Environment World} (config : NormalizedConfig)
    (world : World) (url : String) : At config [] none 0 (Session.start env world url) where
  orderly :=
    { obeys := .nil
      leases := by
        intro lease found
        cases found
      responses := by
        intro response found
        cases found
      unreleased := by
        intro guard found
        cases found
      unclosed := by
        intro response found
        cases found
      requests := Nat.zero_le _
      redirects := Nat.zero_le _ }
  visited := by
    intro state found
    cases found
  unfailed := rfl
  held := rfl
  lease := rfl
  response := rfl
  sent := Nat.zero_le _

/-- Whatever its dependencies do, `checkUrl` returns a result and has kept the discipline. -/
theorem check_url_disciplined {World : Type} (env : Environment World) (world : World)
    (input : MonitorCheckConfig) :
    ∃ result session, checkUrl input (Session.start env world input.url) = .ok result session ∧
      Disciplined env input result session.log := by
  have checked : Triple
      (fun session : Session env =>
        session.books = (Session.start env world input.url).books)
      (checkUrl input)
      (fun result session => Disciplined env input result session.log) Never := by
    have steady {Value : Type} (effect : World → Value × World) := perform_keeps effect
      fun books : Books env.urls => books = (Session.start env world input.url).books
    unfold checkUrl
    refine (steady _).bind fun startedAt => ?_
    refine (steady _).bind fun startedTick => ?_
    cases normalized : normalizeConfig input with
    | error failure =>
        unfold resultFromFailure
        refine (steady _).bind fun finishedAt => ?_
        refine (steady _).bind fun tick => ?_
        apply Triple.read
        intro current _
        apply Triple.pure
        rintro session ⟨books, -⟩
        have unused : session.log = [] := congrArg Books.log books
        rw [unused]
        exact Disciplined.of_nil env input _
    | ok config =>
        have looped : Triple
            (fun session : Session env =>
              session.books = (Session.start env world input.url).books)
            (checkLoop config startedAt startedTick)
            (fun result session => Settled env.acquire.isSome config result session.books)
            (Broken config) :=
          (Triple.until_result (hop_stage startedAt startedTick)).weaken
            (fun session books => by
              change Stage _ config [] none 0 session.books
              rw [books]
              exact start_stage config world input.url)
            (fun _ _ settled => settled) fun _ _ broken => broken
        have caught := looped.tryCatch (failed_result_settled startedAt startedTick)
        have finished := caught.try_finally clean_up_settled
          fun _ => ⟨fun _ impossible => impossible.elim⟩
        exact finished.weaken (fun _ books => books)
          (fun _ _ settled => settled.disciplined normalized) fun _ _ impossible => impossible
  exact checked.returns rfl

end LinkAlive.Monitoring
