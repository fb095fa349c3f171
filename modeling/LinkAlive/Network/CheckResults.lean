import LinkAlive.Ledger.Incidents
import LinkAlive.Monitoring.Records
import LinkAlive.Network.Assessment

/-!
# The rows of `check_results`

The CHECK constraints of the table, the results that a check of the worker can end with, and
that the row of every such result is accepted.
-/

namespace LinkAlive

set_option autoImplicit false

/-- `CHAR_LENGTH(TRIM(text)) > 0`, where `TRIM` takes away blanks only. -/
def nonBlankCheck (text : String) : Sql.Truth :=
  some (decide (0 < ((text.toList.dropWhile (· == ' ')).rdropWhile (· == ' ')).length))

/-- `scheduled_checks_config_version_check`. -/
def CheckRow.configVersionCheck (row : CheckRow) : Sql.Truth :=
  some (decide (1 ≤ row.configVersion))

section Constraints

open Sql

variable (scheduledCheckId : CheckId) (row : CheckResultRow)

def CheckResultRow.sourceLedgerCheck : Truth :=
  let monitor := isNull (some row.monitorId)
  let check := isNull (some scheduledCheckId)
  let version := isNull (some row.configVersion)
  .either
    (.all [some (decide (row.source = .scheduled)), monitor.negate, check.negate, version.negate])
    (.either
      (.all [some (decide (row.source = .manual)), monitor.negate, check, version.negate])
      (.all [some (decide (row.source = .test)), monitor, check, version]))

def CheckResultRow.displaySnapshotCheck : Truth := nonBlankCheck row.displayUrlSnapshot

def CheckResultRow.timingCheck : Truth :=
  .all
    [some (decide (row.startedAt ≤ row.finishedAt)), some (decide (0 ≤ row.totalMs)),
      .either (isNull row.ttfbMs) (row.ttfbMs.map fun ttfbMs => decide (0 ≤ ttfbMs))]

def CheckResultRow.statusCodeCheck : Truth :=
  .either (isNull row.statusCode)
    (row.statusCode.map fun code => decide (100 ≤ code) && decide (code ≤ 999))

def CheckResultRow.countsCheck : Truth :=
  .all
    [some (decide (0 ≤ row.redirectCount) && decide (row.redirectCount ≤ 5)),
      .either (isNull (some row.responseBytesRead)) (some (decide (0 ≤ row.responseBytesRead)))]

def CheckResultRow.configVersionCheck : Truth :=
  .either (isNull (some row.configVersion)) (some (decide (1 ≤ row.configVersion)))

def CheckResultRow.successErrorCheck : Truth :=
  .either (some (decide (row.outcome ≠ .success))) (isNull row.errorType)

def CheckResultRow.targetErrorCheck : Truth :=
  .either (some (decide (row.outcome ≠ .targetFailure)))
    (.all [(isNull row.errorType).negate, (equal row.errorType (some .platformError)).negate])

def CheckResultRow.platformErrorCheck : Truth :=
  .either (some (decide (row.outcome ≠ .platformError)))
    (equal row.errorType (some .platformError))

/-- No CHECK constraint of `check_results` rejects the row. -/
def CheckResultRow.accepted : Bool :=
  [row.sourceLedgerCheck scheduledCheckId, row.displaySnapshotCheck, row.timingCheck,
    row.statusCodeCheck, row.countsCheck, row.configVersionCheck, row.successErrorCheck,
    row.targetErrorCheck, row.platformErrorCheck].all fun check => !check.rejects

end Constraints

section Rows

variable {range : Option (Nat × Nat)} {tx : PersistTx}

theorem MonitorCheckResult.Recordable.success_check
    (recordable : tx.result.Recordable range) :
    (resultRow tx).successErrorCheck = some true := by
  rw [CheckResultRow.successErrorCheck, Sql.Truth.either_eq_true]
  by_cases success : tx.result.outcome = .success
  · have none : (resultRow tx).errorType = none := (recordable.success success).1
    right
    simp [none, Sql.isNull]
  · left
    exact congrArg some (decide_eq_true success)

theorem MonitorCheckResult.Recordable.target_check
    (recordable : tx.result.Recordable range) :
    (resultRow tx).targetErrorCheck = some true := by
  rw [CheckResultRow.targetErrorCheck, Sql.Truth.either_eq_true]
  by_cases target : tx.result.outcome = .targetFailure
  · obtain ⟨error, found, apart⟩ := recordable.target target
    have errorType : (resultRow tx).errorType = some error := found
    right
    simp [errorType, Sql.isNull, Sql.equal, Sql.Truth.negate, Sql.Truth.all, Sql.Truth.both, apart]
  · left
    exact congrArg some (decide_eq_true target)

theorem MonitorCheckResult.Recordable.platform_check
    (recordable : tx.result.Recordable range) :
    (resultRow tx).platformErrorCheck = some true := by
  rw [CheckResultRow.platformErrorCheck, Sql.Truth.either_eq_true]
  by_cases platform : tx.result.outcome = .platformError
  · have errorType : (resultRow tx).errorType = some .platformError :=
      recordable.platform.1 platform
    right
    simp [errorType, Sql.equal]
  · left
    exact congrArg some (decide_eq_true platform)

theorem MonitorCheckResult.Recordable.status_check
    (recordable : tx.result.Recordable range) :
    (resultRow tx).statusCodeCheck = some true := by
  rw [CheckResultRow.statusCodeCheck, Sql.Truth.either_eq_true]
  cases found : tx.result.statusCode with
  | none =>
      left
      simp [resultRow, found, Sql.isNull]
  | some code =>
      obtain ⟨low, high⟩ := recordable.status code found
      right
      simp [resultRow, found, low, high]

theorem timing_check (ordered : tx.result.startedAt ≤ tx.result.finishedAt) :
    (resultRow tx).timingCheck = some true := by
  have ttfb : Sql.Truth.either (Sql.isNull tx.result.ttfbMs)
      (tx.result.ttfbMs.map fun ttfbMs => decide (0 ≤ ttfbMs)) = some true := by
    cases tx.result.ttfbMs <;> rfl
  rw [CheckResultRow.timingCheck, Sql.Truth.all_eq_true]
  intro condition member
  simp only [List.mem_cons, List.not_mem_nil, or_false] at member
  rcases member with rfl | rfl | rfl
  · exact congrArg some (decide_eq_true ordered)
  · simp
  · exact ttfb

theorem MonitorCheckResult.Recordable.accepted (recordable : tx.result.Recordable range)
    (version : tx.check.configVersionCheck.rejects = false)
    (display : (nonBlankCheck tx.displayUrlSnapshot).rejects = false) :
    (resultRow tx).accepted tx.checkId = true := by
  have few : (resultRow tx).redirectCount ≤ 5 := recordable.redirects
  have counts : (resultRow tx).countsCheck = some true := by
    simp [CheckResultRow.countsCheck, Sql.Truth.all, Sql.Truth.both, Sql.Truth.either, Sql.isNull,
      few]
  have positive : 1 ≤ tx.check.configVersion := by
    simpa [CheckRow.configVersionCheck, Sql.Truth.rejects] using version
  have versioned : (resultRow tx).configVersionCheck = some true :=
    Sql.Truth.either_eq_true.2 (.inr (congrArg some (decide_eq_true positive)))
  have source : (resultRow tx).sourceLedgerCheck tx.checkId = some true := rfl
  have shown : ((resultRow tx).displaySnapshotCheck).rejects = false := display
  simp only [CheckResultRow.accepted, List.all_cons, List.all_nil, source, shown,
    timing_check recordable.finished, recordable.status_check, counts, versioned,
    recordable.success_check, recordable.target_check, recordable.platform_check]
  decide

end Rows

namespace Network

open Monitoring

/-- `platformFailure`; it reads the clock after `startedAt` was read. -/
def platformFailure (configVersion : Nat) (startedAt finishedAt : Time) :
    Monitoring.MonitorCheckResult where
  source := .scheduled
  outcome := .platformError
  configVersion := some (.integer configVersion)
  startedAt := startedAt
  finishedAt := finishedAt
  statusCode := none
  ttfbMs := none
  totalMs := finishedAt - startedAt
  errorType := some .platformError
  errorMessageSafe := some "검사 설정을 안전하게 읽지 못했습니다."
  finalUrlDisplay := "(URL 숨김)"
  redirectCount := 0
  inspectedBodyBytes := 0

theorem platform_failure_recordable {startedAt finishedAt : Time} (later : startedAt ≤ finishedAt)
    (configVersion : Nat) (range : Option (Nat × Nat)) :
    (platformFailure configVersion startedAt finishedAt).Recordable range where
  finished := later
  status := by simp [platformFailure]
  redirects := Nat.zero_le 5
  success := by simp [platformFailure]
  target := by simp [platformFailure]
  platform := by simp [platformFailure]

theorem inconclusive_recordable {range : Option (Nat × Nat)} {result : MonitorCheckResult}
    (recordable : result.Recordable range) (failed : isNetworkFailure result = true) :
    (inconclusiveNetworkResult result).Recordable range where
  finished := recordable.finished
  status := recordable.status
  redirects := recordable.redirects
  success := by simp [inconclusiveNetworkResult]
  target := by simp [inconclusiveNetworkResult]
  platform := by
    simp only [isNetworkFailure, Bool.and_eq_true, decide_eq_true_eq] at failed
    obtain ⟨error, found, apart⟩ := recordable.target failed.1.1
    simp [inconclusiveNetworkResult, found, apart]

theorem assess_recordable {range : Option (Nat × Nat)} {result retried : MonitorCheckResult}
    (first second : Snapshot) (recordable : result.Recordable range)
    (again : retried.Recordable range) :
    (assess result retried first second).result.Recordable range := by
  rcases assess_suppressed result retried first second with
    same | same | ⟨failed, member, failure, held⟩
  · rw [same]
    exact recordable
  · rw [same]
    exact again
  · rw [held]
    rcases List.mem_pair.1 member with rfl | rfl
    · exact inconclusive_recordable recordable failure
    · exact inconclusive_recordable again failure

/-- What `process` can end with for a check: a result of the checker, the failure of the
platform when the checker has thrown, or what the guard makes of such results. -/
inductive Produced {World : Type} (env : Environment World) (input : MonitorCheckConfig) :
    MonitorCheckResult → Prop
  | checked (world : World) (result : Monitoring.MonitorCheckResult) (session : Session env) :
      checkUrl input (Session.start env world input.url) = .ok result session →
        Produced env input result.toMonitorCheckResult
  | failed (configVersion : Nat) (startedAt finishedAt : Time) : startedAt ≤ finishedAt →
      Produced env input (platformFailure configVersion startedAt finishedAt).toMonitorCheckResult
  | assessed (result retried : MonitorCheckResult) (first second : Snapshot) :
      Produced env input result → Produced env input retried →
        Produced env input (assess result retried first second).result

theorem Produced.recordable {World : Type} {env : Environment World} {clock : World → Time}
    (behaves : env.Behaves clock Rejection.Consistent) {input : MonitorCheckConfig}
    {result : MonitorCheckResult} (produced : Produced env input result) :
    result.Recordable input.expectedRange := by
  induction produced with
  | checked world result session returned =>
      obtain ⟨other, final, run, recordable⟩ := check_url_recordable behaves world input
      rw [returned] at run
      cases run
      exact recordable
  | failed configVersion startedAt finishedAt later =>
      exact platform_failure_recordable later configVersion _
  | assessed result retried first second _ _ recordable again =>
      exact assess_recordable first second recordable again

/-- Every result that is produced while the dependencies behave may be recorded, and the row
that records it is accepted. -/
theorem produced_result_accepted {World : Type} {env : Environment World} {clock : World → Time}
    (behaves : env.Behaves clock Rejection.Consistent) {input : MonitorCheckConfig}
    {result : MonitorCheckResult} (produced : Produced env input result) :
    result.Recordable input.expectedRange ∧
      ∀ tx : PersistTx, tx.result = result → tx.check.configVersionCheck.rejects = false →
        (nonBlankCheck tx.displayUrlSnapshot).rejects = false →
          (resultRow tx).accepted tx.checkId = true := by
  have recordable := produced.recordable behaves
  refine ⟨recordable, ?_⟩
  rintro tx rfl version display
  exact recordable.accepted version display

def sampleConfig : MonitorCheckConfig where
  url := "http://a.example/"
  method := none
  timeoutMs := none
  expectedStatusMin := none
  expectedStatusMax := none
  expectedKeyword := none
  followRedirects := none
  maxRedirects := none
  source := none
  configVersion := some (.integer 1)

def sampleNormalized : NormalizedConfig where
  url := "http://a.example/"
  method := .get
  timeoutMs := 10000
  expectedStatusMin := 200
  expectedStatusMax := 299
  expectedKeyword := none
  followRedirects := true
  maxRedirects := 5
  source := .scheduled
  configVersion := some (.integer 1)

theorem sample_normalized : normalizeConfig sampleConfig = .ok sampleNormalized := by
  decide +kernel

theorem sample_parsed : parseMonitorUrl sampleUrls "http://a.example/" = .ok () := by
  unfold parseMonitorUrl
  have allowed : hostnameAllowed (normalizedHostname "a.example") = true := by decide +kernel
  simp [sampleUrls, allowed]

def resolvingEnvironment (answer : Except Rejection (List ResolvedAddress)) : Environment Unit :=
  { sampleEnvironment (sampleResponse cutBody) with resolve := fun _ world => (answer, world) }

theorem resolving_behaves (fair : Rejection → Prop)
    {answer : Except Rejection (List ResolvedAddress)}
    (answered : ∀ error, answer = .error error → fair error) :
    (resolvingEnvironment answer).Behaves (fun _ => 0) fair where
  now _ := ⟨le_refl 0, le_refl 0⟩
  monotonicNow _ := le_refl 0
  resolve _ := ⟨fun _ => le_refl 0, fun _ error failed => answered error failed⟩
  acquire _ none := nomatch none
  lease _ none := nomatch none
  request _ _ := ⟨fun _ => le_refl 0, fun _ _ failed => nomatch failed⟩
  response _ _ _ response received := by
    cases received
    exact
      { status := by decide
        read := fun _ => le_refl 0
        body := fun _ error aborted failed => nomatch failed
        destroy := fun _ => le_refl 0
        close := ⟨fun _ => le_refl 0, fun _ _ failed => nomatch failed⟩ }
  decompress _ _ fair := fair
  getCookie _ _ _ _ failed := nomatch failed
  setCookie _ _ _ _ _ failed := nomatch failed

def sampleAnswer : Except Rejection (List ResolvedAddress) := .ok [⟨"93.184.215.14", .ipv4⟩]

def spoofedAnswer : Except Rejection (List ResolvedAddress) :=
  .error (.failure (.checkFailure .success .dnsError "응답했습니다."))

abbrev sampleStart (answer : Except Rejection (List ResolvedAddress)) :
    Session (resolvingEnvironment answer) :=
  Session.start (resolvingEnvironment answer) () "http://a.example/"

theorem sample_resolved (answer : Except Rejection (List ResolvedAddress))
    (session : Session (resolvingEnvironment answer)) :
    (resolveSafeDestination "http://a.example/" :
        Program (resolvingEnvironment answer) (SafeDestination sampleUrls)) session =
      match answer with
      | .error error => .error error session
      | .ok [] => .error (.failure (.checkFailure .targetFailure .dnsError
          "도메인 이름에 연결 가능한 주소가 없습니다.")) session
      | .ok (first :: rest) => .ok ⟨(), (first :: rest).eraseDups⟩ session := by
  have parsed : parseMonitorUrl (resolvingEnvironment answer).urls "http://a.example/" = .ok () :=
    sample_parsed
  unfold resolveSafeDestination
  rw [parsed]
  match answer with
  | .error error => rfl
  | .ok [] => rfl
  | .ok (first :: rest) => rfl

theorem sample_turn : ∃ result session,
    hop sampleNormalized 0 0 (sampleStart sampleAnswer) = .ok (some result) session ∧
      result.outcome = .success ∧ result.statusCode = some 200 ∧
      session.response = none ∧ session.destinationLease = none := by
  have resolved : (resolveSafeDestination (sampleStart sampleAnswer).currentUrl :
      Program (resolvingEnvironment sampleAnswer) (SafeDestination sampleUrls))
        (sampleStart sampleAnswer) = .ok ⟨(), _⟩ (sampleStart sampleAnswer) :=
    sample_resolved sampleAnswer (sampleStart sampleAnswer)
  unfold hop
  rw [Triples.get_bind, Triples.bind_returned resolved]
  exact ⟨_, _, rfl, rfl, rfl, rfl, rfl⟩

theorem spoofed_turn :
    hop sampleNormalized 0 0 (sampleStart spoofedAnswer) =
      .error (.failure (.checkFailure .success .dnsError "응답했습니다."))
        (sampleStart spoofedAnswer) := by
  have unresolved : (resolveSafeDestination (sampleStart spoofedAnswer).currentUrl :
      Program (resolvingEnvironment spoofedAnswer) (SafeDestination sampleUrls))
        (sampleStart spoofedAnswer) = .error _ (sampleStart spoofedAnswer) :=
    sample_resolved spoofedAnswer (sampleStart spoofedAnswer)
  unfold hop
  rw [Triples.get_bind, Triples.bind_thrown unresolved]

/-- Nothing is left to close or to release. -/
theorem clean_up_idle {World : Type} {env : Environment World} {session : Session env}
    (response : session.response = none) (lease : session.destinationLease = none) :
    cleanUp session = .ok () session := by
  have closed : closeQuietly session = .ok () session := by
    unfold closeQuietly
    rw [Triples.get_bind, response]
    rfl
  unfold cleanUp releaseQuietly
  rw [Triples.bind_returned closed, Triples.get_bind, lease]
  rfl

theorem sample_run : ∃ result session,
    checkUrl sampleConfig (sampleStart sampleAnswer) = .ok result session ∧
      result.outcome = .success ∧ result.statusCode = some 200 := by
  obtain ⟨result, session, turn, success, status, response, lease⟩ := sample_turn
  have looped : checkLoop sampleNormalized 0 0 (sampleStart sampleAnswer) = .ok result session := by
    unfold checkLoop
    rw [Triples.until_result_turn, turn]
  have finished : tryFinally (tryCatch (checkLoop sampleNormalized 0 0)
      (failedResult sampleNormalized 0 0)) cleanUp (sampleStart sampleAnswer) =
        .ok result session := by
    simp [tryFinally, tryFinally', tryCatch, tryCatchThe, MonadExceptOf.tryCatch,
      EStateM.tryCatch, looped, Functor.map, EStateM.map, clean_up_idle response lease]
  unfold checkUrl
  rw [sample_normalized]
  exact ⟨result, session, finished, success, status⟩

theorem spoofed_run : ∃ result session,
    checkUrl sampleConfig (sampleStart spoofedAnswer) = .ok result session ∧
      result.outcome = .success ∧ result.errorType = some .dnsError := by
  have looped : checkLoop sampleNormalized 0 0 (sampleStart spoofedAnswer) =
      .error (.failure (.checkFailure .success .dnsError "응답했습니다."))
        (sampleStart spoofedAnswer) := by
    unfold checkLoop
    rw [Triples.until_result_turn, spoofed_turn]
  have finished : ∃ result session,
      tryFinally (tryCatch (checkLoop sampleNormalized 0 0) (failedResult sampleNormalized 0 0))
          cleanUp (sampleStart spoofedAnswer) = .ok result session ∧
        result.outcome = .success ∧ result.errorType = some .dnsError := by
    simp only [tryFinally, tryFinally', tryCatch, tryCatchThe, MonadExceptOf.tryCatch,
      EStateM.tryCatch, looped, Functor.map, EStateM.map]
    exact ⟨_, _, rfl, rfl, rfl⟩
  unfold checkUrl
  rw [sample_normalized]
  exact finished

theorem produced_result_accepted_sample : ∃ result,
    Produced (resolvingEnvironment sampleAnswer) sampleConfig result ∧
      result.outcome = .success ∧ result.statusCode = some 200 ∧
      result.Recordable sampleConfig.expectedRange ∧
      ∀ tx : PersistTx, tx.result = result → tx.check.configVersionCheck.rejects = false →
        (nonBlankCheck tx.displayUrlSnapshot).rejects = false →
          (resultRow tx).accepted tx.checkId = true := by
  obtain ⟨result, session, run, success, status⟩ := sample_run
  have produced := Produced.checked () result session run
  have behaves := resolving_behaves Rejection.Consistent (fun _ failed => nomatch failed :
    ∀ error, sampleAnswer = .error error → error.Consistent)
  exact ⟨_, produced, success, status, produced_result_accepted behaves produced⟩

/-- A dependency may throw a failure of the checker that says SUCCESS; its error type makes the
ledger reject the row. -/
theorem produced_result_rejected :
    (resolvingEnvironment spoofedAnswer).Behaves (fun _ => 0) (fun _ => True) ∧
      ∃ result, Produced (resolvingEnvironment spoofedAnswer) sampleConfig result ∧
        ¬ (result.outcome = .success → result.errorType = none) ∧
        ∀ tx : PersistTx, tx.result = result → (resultRow tx).accepted tx.checkId = false := by
  obtain ⟨result, session, run, success, error⟩ := spoofed_run
  refine ⟨resolving_behaves _ fun _ _ => trivial, _, .checked () result session run, ?_, ?_⟩
  · intro fits
    rw [fits success] at error
    cases error
  · rintro tx same
    have outcome : (resultRow tx).outcome = .success := by
      change tx.result.outcome = .success
      rw [same]
      exact success
    have errorType : (resultRow tx).errorType = some .dnsError := by
      change tx.result.errorType = some .dnsError
      rw [same]
      exact error
    have rejected : (resultRow tx).successErrorCheck.rejects = true := by
      simp [CheckResultRow.successErrorCheck, outcome, errorType, Sql.isNull, Sql.Truth.either,
        Sql.Truth.rejects]
    simp [CheckResultRow.accepted, rejected]

end Network

end LinkAlive
