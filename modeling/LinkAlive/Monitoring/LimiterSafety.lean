import LinkAlive.Monitoring.DestinationLimiter

/-!
# Safety of the distributed limiter

The check phase only shrinks what a subject stores; the update phase runs when
every subject has room and adds exactly one token and one count to each. From
these two facts the bounds of a subject are an invariant of every run, whatever
the clients do with their tokens.
-/

namespace LinkAlive

set_option autoImplicit false

open Relational Expiring Transition

section Scripts

variable {Subject Token : Type} [DecidableEq Subject] [DecidableEq Token]

/-- Nothing was added: sorted sets lost members, deadlines and counts stayed. -/
structure LimiterKeys.Shrunk (before after : LimiterKeys Subject Token) : Prop where
  active : ∀ subject entry, after.active subject = some entry →
    ∃ earlier, before.active subject = some earlier ∧ entry.expireAt = earlier.expireAt ∧
      entry.value.size ≤ earlier.value.size ∧
      ∀ token score, entry.value.get token = some score → earlier.value.get token = some score
  rate : ∀ subject, (after.rate subject).map Entry.value = (before.rate subject).map Entry.value

omit [DecidableEq Subject] in
theorem LimiterKeys.Shrunk.refl (keys : LimiterKeys Subject Token) : keys.Shrunk keys where
  active _ entry stored := ⟨entry, stored, rfl, Nat.le_refl _, fun _ _ found => found⟩
  rate _ := rfl

omit [DecidableEq Subject] in
theorem LimiterKeys.Shrunk.trans {first second third : LimiterKeys Subject Token}
    (left : first.Shrunk second) (right : second.Shrunk third) : first.Shrunk third where
  active subject entry stored := by
    obtain ⟨middle, storedMiddle, sameDeadline, smaller, sub⟩ := right.active subject entry stored
    obtain ⟨earlier, storedEarlier, deadline, size, part⟩ :=
      left.active subject middle storedMiddle
    exact ⟨earlier, storedEarlier, sameDeadline.trans deadline, Nat.le_trans smaller size,
      fun token score found => part token score (sub token score found)⟩
  rate subject := (right.rate subject).trans (left.rate subject)

/-- What the check phase leaves visible at its own time: expired tokens may go. -/
structure LimiterKeys.Housekept (now : Nat) (before after : LimiterKeys Subject Token) : Prop where
  shrunk : before.Shrunk after
  part : ∀ subject token score, (after.tokens now subject).get token = some score →
    (before.tokens now subject).get token = some score
  kept : ∀ subject token score, (before.tokens now subject).get token = some score →
    now < score → (after.tokens now subject).get token = some score
  smaller : ∀ subject, (after.tokens now subject).size ≤ (before.tokens now subject).size
  counted : ∀ subject, after.count now subject = before.count now subject

omit [DecidableEq Subject] in
theorem LimiterKeys.Housekept.refl (now : Nat) (keys : LimiterKeys Subject Token) :
    keys.Housekept now keys where
  shrunk := .refl keys
  part _ _ _ found := found
  kept _ _ _ found _ := found
  smaller _ := Nat.le_refl _
  counted _ := rfl

omit [DecidableEq Subject] in
theorem LimiterKeys.Housekept.trans {now : Nat} {first second third : LimiterKeys Subject Token}
    (left : first.Housekept now second) (right : second.Housekept now third) :
    first.Housekept now third where
  shrunk := left.shrunk.trans right.shrunk
  part subject token score found :=
    left.part subject token score (right.part subject token score found)
  kept subject token score found fresh :=
    right.kept subject token score (left.kept subject token score found fresh) fresh
  smaller subject := Nat.le_trans (right.smaller subject) (left.smaller subject)
  counted subject := (right.counted subject).trans (left.counted subject)

/-- `ZREMRANGEBYSCORE` alone. -/
theorem purge_housekept (now : Nat) (keys : LimiterKeys Subject Token) (subject : Subject) :
    keys.Housekept now { keys with active := zremRangeByScore keys.active now subject now } where
  shrunk := {
    active := by
      intro other entry stored
      refine store_members_shrinks (Table.size_delete_where_le _ _) ?_ stored
      intro token score found
      exact ((Table.get_delete_where_eq_some _ _ _ _).1 found).1
    rate := fun _ => rfl }
  part := by
    intro other token score found
    by_cases same : other = subject
    · subst same
      simp only [LimiterKeys.tokens, zremRangeByScore, members_store] at found
      exact ((Table.get_delete_where_eq_some _ _ _ _).1 found).1
    · simp only [LimiterKeys.tokens, zremRangeByScore] at found
      rwa [members_congr (store_members_other keys.active now _ same) now] at found
  kept := by
    intro other token score found fresh
    by_cases same : other = subject
    · subst same
      simp only [LimiterKeys.tokens, zremRangeByScore, members_store]
      exact (Table.get_delete_where_eq_some _ _ _ _).2 ⟨found, by simpa using fresh⟩
    · simp only [LimiterKeys.tokens, zremRangeByScore]
      rwa [members_congr (store_members_other keys.active now _ same) now]
  smaller := by
    intro other
    by_cases same : other = subject
    · subst same
      simp only [LimiterKeys.tokens, zremRangeByScore, members_store]
      exact Table.size_delete_where_le _ _
    · simp only [LimiterKeys.tokens, zremRangeByScore]
      rw [members_congr (store_members_other keys.active now _ same) now]
  counted _ := rfl

/-- A counter that lost its deadline gets one; its value stays. -/
theorem renewed_housekept (now ttl : Nat) (keys : LimiterKeys Subject Token) (subject : Subject) :
    keys.Housekept now { keys with rate := pexpire keys.rate now subject ttl } where
  shrunk := {
    active := (LimiterKeys.Shrunk.refl keys).active
    rate := fun other => pexpire_stored_value keys.rate now subject other ttl }
  part _ _ _ found := found
  kept _ _ _ found _ := found
  smaller _ := Nat.le_refl _
  counted other := by
    simp only [LimiterKeys.count, counter, lookup_pexpire]

theorem check_subject_cases (limits : DestinationLimits) (now : Nat)
    (keys : LimiterKeys Subject Token) (subject : Subject) :
    keys.Housekept now (keys.checkSubject limits now subject).1 ∧
      match (keys.checkSubject limits now subject).2 with
      | some reply => reply.status = 0
      | none =>
          ((keys.checkSubject limits now subject).1.tokens now subject).size < limits.maxConcurrent ∧
            (keys.checkSubject limits now subject).1.count now subject < limits.maxPerWindow := by
  have purged := purge_housekept now keys subject
  have renewed := purged.trans (renewed_housekept now windowMs _ subject)
  unfold LimiterKeys.checkSubject
  by_cases full :
    limits.maxConcurrent ≤ zcard (zremRangeByScore keys.active now subject now) now subject
  · simp only [full, if_true]
    exact ⟨purged, trivial⟩
  · simp only [full, if_false]
    by_cases unlimited : 0 < counter keys.rate now subject ∧ pttl keys.rate now subject < 0
    · simp only [unlimited, and_self, decide_true, if_true]
      split
      · exact ⟨renewed, rfl⟩
      · rename_i room
        refine ⟨renewed, Nat.lt_of_not_le full, ?_⟩
        simp only [LimiterKeys.count, counter, lookup_pexpire]
        exact Nat.lt_of_not_le room
    · simp only [unlimited, decide_false]
      split
      · exact ⟨purged, rfl⟩
      · rename_i room
        exact ⟨purged, Nat.lt_of_not_le full, Nat.lt_of_not_le room⟩

/-- The check phase: it rejects, or every subject has room for one more token. -/
theorem check_subjects_cases (limits : DestinationLimits) (now : Nat)
    (subjects : List Subject) (keys : LimiterKeys Subject Token) :
    keys.Housekept now (keys.checkSubjects limits now subjects).1 ∧
      match (keys.checkSubjects limits now subjects).2 with
      | some reply => reply.status = 0
      | none => ∀ subject ∈ subjects,
          ((keys.checkSubjects limits now subjects).1.tokens now subject).size < limits.maxConcurrent ∧
            (keys.checkSubjects limits now subjects).1.count now subject < limits.maxPerWindow := by
  induction subjects generalizing keys with
  | nil => exact ⟨.refl now keys, by simp [LimiterKeys.checkSubjects]⟩
  | cons subject rest ih =>
      have head := check_subject_cases limits now keys subject
      unfold LimiterKeys.checkSubjects
      rcases checked : keys.checkSubject limits now subject with ⟨after, reply⟩
      rw [checked] at head
      cases reply with
      | some reply => exact head
      | none =>
          have tail := ih after
          refine ⟨head.1.trans tail.1, ?_⟩
          simp only
          cases outcome : (after.checkSubjects limits now rest).2 with
          | some reply =>
              rw [outcome] at tail
              exact tail.2
          | none =>
              rw [outcome] at tail
              intro other member
              rcases List.mem_cons.1 member with rfl | later
              · -- later rounds take no room away from a subject that passed
                exact ⟨Nat.lt_of_le_of_lt (tail.1.smaller other) head.2.1,
                  (tail.1.counted other).symm ▸ head.2.2⟩
              · exact tail.2 other later

theorem admit_subject_other (limits : DestinationLimits) (now : Nat) (token : Token)
    (keys : LimiterKeys Subject Token) {subject other : Subject} (distinct : other ≠ subject) :
    (keys.admitSubject limits now token subject).active other = keys.active other ∧
      (keys.admitSubject limits now token subject).rate other = keys.rate other := by
  constructor
  · simp only [LimiterKeys.admitSubject, zadd, pexpire_other _ _ _ distinct,
      write_other _ _ _ distinct]
  · simp only [LimiterKeys.admitSubject]
    rw [ite_apply]
    split
    · rw [pexpire_other _ _ _ distinct, incr_other _ _ distinct]
    · exact incr_other _ _ distinct

/-- One token more, and a deadline one second past the end of its lease. -/
theorem admit_subject_active (limits : DestinationLimits) (now : Nat) (token : Token)
    (keys : LimiterKeys Subject Token) (subject : Subject) :
    (keys.admitSubject limits now token subject).active subject =
      some { value := (keys.tokens now subject).put token (now + limits.leaseMs)
             expireAt := some (now + (limits.leaseMs + 1000)) } := by
  simp only [LimiterKeys.admitSubject, zadd, LimiterKeys.tokens]
  rw [pexpire_self (live_write_self keys.active now subject _)]

theorem admit_subject_rate (limits : DestinationLimits) (now : Nat) (token : Token)
    (keys : LimiterKeys Subject Token) (subject : Subject) :
    ((keys.admitSubject limits now token subject).rate subject).map Entry.value =
      some (keys.count now subject + 1) := by
  simp only [LimiterKeys.admitSubject, LimiterKeys.count]
  rw [ite_apply]
  split
  · rw [pexpire_stored_value, incr_self]
  · exact incr_self keys.rate now subject

theorem admit_other (limits : DestinationLimits) (now : Nat) (token : Token)
    (subjects : List Subject) {other : Subject} (absent : other ∉ subjects)
    (keys : LimiterKeys Subject Token) :
    (subjects.foldl (LimiterKeys.admitSubject limits now token) keys).active other =
        keys.active other ∧
      (subjects.foldl (LimiterKeys.admitSubject limits now token) keys).rate other =
        keys.rate other := by
  induction subjects generalizing keys with
  | nil => exact ⟨rfl, rfl⟩
  | cons subject rest ih =>
      obtain ⟨distinct, later⟩ := not_or.1 (fun found => absent (List.mem_cons.2 found))
      have head := admit_subject_other limits now token keys distinct
      have tail := ih later (keys.admitSubject limits now token subject)
      exact ⟨tail.1.trans head.1, tail.2.trans head.2⟩

theorem admit_member (limits : DestinationLimits) (now : Nat) (token : Token)
    (subjects : List Subject) (nodup : subjects.Nodup) {subject : Subject}
    (member : subject ∈ subjects) (keys : LimiterKeys Subject Token) :
    (subjects.foldl (LimiterKeys.admitSubject limits now token) keys).active subject =
        some { value := (keys.tokens now subject).put token (now + limits.leaseMs)
               expireAt := some (now + (limits.leaseMs + 1000)) } ∧
      ((subjects.foldl (LimiterKeys.admitSubject limits now token) keys).rate subject).map
        Entry.value = some (keys.count now subject + 1) := by
  induction subjects generalizing keys with
  | nil => cases member
  | cons head rest ih =>
      obtain ⟨fresh, nodupRest⟩ := List.nodup_cons.1 nodup
      rw [List.foldl_cons]
      by_cases same : subject = head
      · subst same
        have others := admit_other limits now token rest fresh
          (keys.admitSubject limits now token subject)
        rw [others.1, others.2]
        exact ⟨admit_subject_active limits now token keys subject,
          admit_subject_rate limits now token keys subject⟩
      · have later : subject ∈ rest := (List.mem_cons.1 member).resolve_left same
        have first := admit_subject_other limits now token keys same
        have tail := ih nodupRest later (keys.admitSubject limits now token head)
        have sameTokens : (keys.admitSubject limits now token head).tokens now subject =
            keys.tokens now subject := members_congr first.1 now
        have sameCount : (keys.admitSubject limits now token head).count now subject =
            keys.count now subject := by
          simp only [LimiterKeys.count, counter, lookup_congr first.2]
        rw [sameTokens, sameCount] at tail
        exact tail

/-- `ACQUIRE_SCRIPT` rejects after housekeeping, or admits its token everywhere. -/
theorem acquire_cases (limits : DestinationLimits) (now : Nat) (token : Token)
    (keys : LimiterKeys Subject Token) (subjects : List Subject) :
    ((keys.acquireScript limits now token subjects).2.status = 0 ∧
      keys.Housekept now (keys.acquireScript limits now token subjects).1) ∨
    ((keys.acquireScript limits now token subjects).2 = AcquireReply.granted ∧
      ∃ checked, keys.Housekept now checked ∧
        (∀ subject ∈ subjects, (checked.tokens now subject).size < limits.maxConcurrent ∧
          checked.count now subject < limits.maxPerWindow) ∧
        (keys.acquireScript limits now token subjects).1 =
          subjects.foldl (LimiterKeys.admitSubject limits now token) checked) := by
  have checks := check_subjects_cases limits now subjects keys
  unfold LimiterKeys.acquireScript
  rcases phase : keys.checkSubjects limits now subjects with ⟨checked, reply⟩
  rw [phase] at checks
  cases reply with
  | some reply => exact Or.inl ⟨checks.2, checks.1⟩
  | none => exact Or.inr ⟨rfl, checked, checks.1, checks.2, rfl⟩

theorem release_subject_tokens (now : Nat) (token : Token) (keys : LimiterKeys Subject Token)
    (subject other : Subject) :
    (keys.releaseSubject now token subject).tokens now other =
      if other = subject then (keys.tokens now other).remove token
      else keys.tokens now other := by
  simp only [LimiterKeys.releaseSubject, LimiterKeys.tokens]
  by_cases same : other = subject
  · subst same
    rw [if_pos rfl]
    split
    · rename_i emptied
      -- the deleted set was empty already
      rw [zcard, zrem, members_store] at emptied
      have none : (members keys.active now other).remove token = ∅ :=
        AList.ext (List.length_eq_zero_iff.1 emptied)
      rw [none]
      simp [members, lookup, live]
    · exact members_store keys.active now other _
  · rw [if_neg same]
    split
    · rw [members_congr (del_other _ same) now, zrem,
        members_congr (store_members_other keys.active now _ same) now]
    · rw [zrem, members_congr (store_members_other keys.active now _ same) now]

theorem release_subject_shrunk (now : Nat) (token : Token) (keys : LimiterKeys Subject Token)
    (subject : Subject) : keys.Shrunk (keys.releaseSubject now token subject) where
  active := by
    intro other entry stored
    have removal : zrem keys.active now subject token other = some entry := by
      simp only [LimiterKeys.releaseSubject] at stored
      split at stored
      · by_cases same : other = subject
        · subst same
          simp at stored
        · rwa [del_other _ same] at stored
      · exact stored
    refine store_members_shrinks (Table.size_remove_le _ _) ?_ removal
    intro member score found
    rw [Table.get_remove] at found
    split at found
    · cases found
    · exact found
  rate _ := rfl

theorem release_script_shrunk (now : Nat) (token : Token) (subjects : List Subject)
    (keys : LimiterKeys Subject Token) : keys.Shrunk (keys.releaseScript now token subjects) := by
  induction subjects generalizing keys with
  | nil => exact .refl keys
  | cons subject rest ih =>
      exact (release_subject_shrunk now token keys subject).trans
        (ih (keys.releaseSubject now token subject))

theorem release_script_tokens (now : Nat) (token : Token) (subjects : List Subject)
    (nodup : subjects.Nodup) (keys : LimiterKeys Subject Token) (subject : Subject) :
    (keys.releaseScript now token subjects).tokens now subject =
      if subject ∈ subjects then (keys.tokens now subject).remove token
      else keys.tokens now subject := by
  induction subjects generalizing keys with
  | nil => simp [LimiterKeys.releaseScript]
  | cons head rest ih =>
      obtain ⟨fresh, nodupRest⟩ := List.nodup_cons.1 nodup
      have tail := ih nodupRest (keys.releaseSubject now token head)
      have first := release_subject_tokens now token keys head subject
      change ((keys.releaseSubject now token head).releaseScript now token rest).tokens now
        subject = _
      rw [tail, first]
      by_cases same : subject = head
      · subst same
        simp [fresh]
      · simp [same]

theorem release_script_rate (now : Nat) (token : Token) (subjects : List Subject)
    (keys : LimiterKeys Subject Token) :
    (keys.releaseScript now token subjects).rate = keys.rate := by
  induction subjects generalizing keys with
  | nil => rfl
  | cons subject rest ih => exact ih (keys.releaseSubject now token subject)

/-- The bounds of every subject at a clock reading. -/
structure LimitsKept (limits : DestinationLimits) (now : Nat)
    (keys : LimiterKeys Subject Token) : Prop where
  sized : ∀ subject entry, keys.active subject = some entry →
    entry.value.size ≤ limits.maxConcurrent
  guarded : ∀ subject entry, keys.active subject = some entry →
    ∀ token score, entry.value.get token = some score →
      ∀ deadline, entry.expireAt = some deadline → score ≤ deadline
  recent : ∀ subject entry, keys.active subject = some entry →
    ∀ token score, entry.value.get token = some score → score ≤ now + limits.leaseMs
  counted : ∀ subject entry, keys.rate subject = some entry → entry.value ≤ limits.maxPerWindow

omit [DecidableEq Subject] in
theorem LimitsKept.shrunk {limits : DestinationLimits} {now later : Nat}
    {before after : LimiterKeys Subject Token} (kept : LimitsKept limits now before)
    (ordered : now ≤ later) (less : before.Shrunk after) : LimitsKept limits later after where
  sized subject entry stored := by
    obtain ⟨earlier, found, -, smaller, -⟩ := less.active subject entry stored
    exact Nat.le_trans smaller (kept.sized subject earlier found)
  guarded subject entry stored token score holds deadline expires := by
    obtain ⟨earlier, found, sameDeadline, -, part⟩ := less.active subject entry stored
    exact kept.guarded subject earlier found token score (part token score holds) deadline
      (sameDeadline.symm.trans expires)
  recent subject entry stored token score holds := by
    obtain ⟨earlier, found, -, -, part⟩ := less.active subject entry stored
    have bound := kept.recent subject earlier found token score (part token score holds)
    omega
  counted subject entry stored := by
    have same := less.rate subject
    rw [stored] at same
    obtain ⟨earlier, found, value⟩ := Option.map_eq_some_iff.1 same.symm
    exact value ▸ kept.counted subject earlier found

/-- Admission into room: the bounds survive the update phase. -/
theorem LimitsKept.admitted {limits : DestinationLimits} {now : Nat}
    {checked : LimiterKeys Subject Token} (kept : LimitsKept limits now checked) (token : Token)
    {subjects : List Subject} (nodup : subjects.Nodup)
    (room : ∀ subject ∈ subjects, (checked.tokens now subject).size < limits.maxConcurrent ∧
      checked.count now subject < limits.maxPerWindow) :
    LimitsKept limits now
      (subjects.foldl (LimiterKeys.admitSubject limits now token) checked) := by
  have scores : ∀ subject member score,
      ((checked.tokens now subject).put token (now + limits.leaseMs)).get member = some score →
        score ≤ now + limits.leaseMs := by
    intro subject member score found
    rw [Table.get_put] at found
    split at found
    · cases found
      exact Nat.le_refl _
    · obtain ⟨entry, alive, holds⟩ := members_of_stored found
      exact kept.recent subject entry (live_eq_some.1 alive).1 member score holds
  constructor
  case sized =>
    intro subject entry stored
    by_cases member : subject ∈ subjects
    · rw [(admit_member limits now token subjects nodup member checked).1] at stored
      cases stored
      have grown := Table.size_put_le (checked.tokens now subject) token (now + limits.leaseMs)
      have below := (room subject member).1
      simp only
      omega
    · rw [(admit_other limits now token subjects member checked).1] at stored
      exact kept.sized subject entry stored
  case guarded =>
    intro subject entry stored member score holds deadline expires
    by_cases named : subject ∈ subjects
    · rw [(admit_member limits now token subjects nodup named checked).1] at stored
      cases stored
      cases expires
      have bound := scores subject member score holds
      omega
    · rw [(admit_other limits now token subjects named checked).1] at stored
      exact kept.guarded subject entry stored member score holds deadline expires
  case recent =>
    intro subject entry stored member score holds
    by_cases named : subject ∈ subjects
    · rw [(admit_member limits now token subjects nodup named checked).1] at stored
      cases stored
      exact scores subject member score holds
    · rw [(admit_other limits now token subjects named checked).1] at stored
      exact kept.recent subject entry stored member score holds
  case counted =>
    intro subject entry stored
    by_cases member : subject ∈ subjects
    · have counts := (admit_member limits now token subjects nodup member checked).2
      rw [stored] at counts
      have value : entry.value = checked.count now subject + 1 := by simpa using counts
      have below := (room subject member).2
      omega
    · rw [(admit_other limits now token subjects member checked).2] at stored
      exact kept.counted subject entry stored

theorem limits_kept_step {limits : DestinationLimits} {server after : LimiterServer Subject Token}
    {call : LimiterCall Subject Token} (kept : LimitsKept limits server.now server.keys)
    (taken : LimiterServer.step limits server call = some after) :
    LimitsKept limits after.now after.keys := by
  unfold LimiterServer.step at taken
  split at taken
  · rename_i enabled
    obtain ⟨ordered, nodup⟩ := enabled
    cases taken
    cases call with
    | acquire now token subjects =>
        rcases acquire_cases limits now token server.keys subjects with
          ⟨-, housekept⟩ | ⟨-, checked, housekept, room, granted⟩
        · exact kept.shrunk ordered housekept.shrunk
        · simp only [LimiterServer.execute, LimiterCall.now]
          rw [granted]
          exact (kept.shrunk ordered housekept.shrunk).admitted token nodup room
    | release now token subjects =>
        exact kept.shrunk ordered (release_script_shrunk now token subjects server.keys)
  · cases taken

theorem limits_kept_run {limits : DestinationLimits}
    {visited : List (LimiterServer Subject Token × LimiterCall Subject Token)}
    {last : LimiterServer Subject Token}
    (run : Run (LimiterServer.step limits) LimiterServer.initial visited last) :
    LimitsKept limits last.now last.keys := by
  refine Reachable.invariant ⟨visited, run⟩
    (fun server => LimitsKept limits server.now server.keys) ?_ ?_
  · constructor <;> intro subject entry stored <;> cases stored
  · intro server call after kept taken
    exact limits_kept_step kept taken

/-- One call against the stored counter of a subject: a grant adds one, and while
the key is alive nothing else changes it. -/
theorem step_rate_value {limits : DestinationLimits} {server after : LimiterServer Subject Token}
    {call : LimiterCall Subject Token} (subject : Subject)
    (taken : LimiterServer.step limits server call = some after) :
    (after.keys.rate subject).map Entry.value =
      if LimiterServer.grants limits subject (server, call) then
        some (server.keys.count call.now subject + 1)
      else (server.keys.rate subject).map Entry.value := by
  unfold LimiterServer.step at taken
  split at taken
  · rename_i enabled
    cases taken
    cases call with
    | acquire now token subjects =>
        simp only [LimiterServer.execute, LimiterServer.grants, LimiterCall.now]
        rcases acquire_cases limits now token server.keys subjects with
          ⟨rejected, housekept⟩ | ⟨granted, checked, housekept, room, admitted⟩
        · have refused : (server.keys.acquireScript limits now token subjects).2 ≠ .granted := by
            intro same
            rw [same] at rejected
            cases rejected
          simpa [refused] using housekept.shrunk.rate subject
        · rw [admitted]
          by_cases member : subject ∈ subjects
          · have counts := (admit_member limits now token subjects enabled.2 member checked).2
            simpa [member, granted, housekept.counted subject] using counts
          · have others := (admit_other limits now token subjects member checked).2
            simpa [member, others] using housekept.shrunk.rate subject
    | release now token subjects =>
        simp only [LimiterServer.execute, LimiterServer.grants]
        rw [release_script_rate]
        rfl
  · cases taken

/-- The counter of a subject covers every grant of a stretch of calls in which its
rate key was never found missing after the first call. -/
theorem window_counted {limits : DestinationLimits} (subject : Subject)
    {first last : LimiterServer Subject Token}
    {window : List (LimiterServer Subject Token × LimiterCall Subject Token)}
    (run : Run (LimiterServer.step limits) first window last)
    (alive : ∀ visit ∈ window.tail, LimiterServer.rateAlive subject visit = true) :
    (window.filter (LimiterServer.grants limits subject)).length ≤
      ((last.keys.rate subject).map Entry.value).getD 0 := by
  induction run with
  | start => exact Nat.zero_le _
  | @next server after earlier call run taken ih =>
      have value := step_rate_value subject taken
      rw [List.filter_append, List.length_append]
      cases earlier with
      | nil =>
          by_cases granted : LimiterServer.grants limits subject (server, call) = true
          · rw [if_pos granted] at value
            simp [granted, value]
          · simp [granted]
      | cons head rest =>
          have before := ih fun visit member => alive visit (by
            simpa using Or.inl member)
          have here : LimiterServer.rateAlive subject (server, call) = true :=
            alive (server, call) (by simp)
          obtain ⟨entry, found⟩ := Option.isSome_iff_exists.1 here
          have stored := (live_eq_some.1 found).1
          rw [stored] at before
          by_cases granted : LimiterServer.grants limits subject (server, call) = true
          · have counter : server.keys.count call.now subject = entry.value := by
              simp [LimiterKeys.count, Expiring.counter, lookup_of_live found]
            rw [if_pos granted, counter] at value
            have one : ([(server, call)].filter (LimiterServer.grants limits subject)).length = 1 := by
              simp [granted]
            rw [one, value]
            exact Nat.succ_le_succ before
          · rw [if_neg granted, stored] at value
            simpa [value, granted] using before

/-- Whatever the clients do: bounded leases, bounded lifetimes of rate keys, no
token lost to an expiring key, rejection without effect, exact release. -/
theorem destination_limits_hold (limits : DestinationLimits)
    {visited : List (LimiterServer Subject Token × LimiterCall Subject Token)}
    {last : LimiterServer Subject Token}
    (run : Run (LimiterServer.step limits) LimiterServer.initial visited last) :
    (∀ subject now, (last.keys.unexpired now subject).length ≤ limits.maxConcurrent) ∧
    (∀ subject before window, visited = before ++ window →
      (∀ visit ∈ window.tail, LimiterServer.rateAlive subject visit = true) →
        (window.filter (LimiterServer.grants limits subject)).length ≤ limits.maxPerWindow) ∧
    (∀ subject entry now, last.keys.active subject = some entry → entry.expired now = true →
      ∀ token score, entry.value.get token = some score → score ≤ now) ∧
    (∀ now token subjects, (last.keys.acquireScript limits now token subjects).2.status = 0 →
      ∀ subject,
        (∀ other score,
          (((last.keys.acquireScript limits now token subjects).1).tokens now subject).get other =
              some score →
            (last.keys.tokens now subject).get other = some score) ∧
        ((last.keys.acquireScript limits now token subjects).1).count now subject =
          last.keys.count now subject) ∧
    (∀ now token subjects, subjects.Nodup → ∀ subject,
      (last.keys.releaseScript now token subjects).tokens now subject =
        (if subject ∈ subjects then (last.keys.tokens now subject).remove token
          else last.keys.tokens now subject) ∧
      (last.keys.releaseScript now token subjects).rate subject = last.keys.rate subject) := by
  have kept := limits_kept_run run
  refine ⟨?concurrent, ?window, ?expiry, ?rejected, ?released⟩
  case concurrent =>
    intro subject now
    unfold LimiterKeys.unexpired
    split
    · exact Nat.zero_le _
    · rename_i entry stored
      exact Nat.le_trans (Table.length_select_le _ _) (kept.sized subject entry stored)
  case window =>
    intro subject before window split alive
    obtain ⟨middle, -, stretch⟩ := run.suffix split
    refine Nat.le_trans (window_counted subject stretch alive) ?_
    cases stored : last.keys.rate subject with
    | none => exact Nat.zero_le _
    | some entry => exact kept.counted subject entry stored
  case expiry =>
    intro subject entry now stored expired token score holds
    unfold Entry.expired at expired
    split at expired
    · cases expired
    · rename_i deadline expires
      have passed : deadline < now := of_decide_eq_true expired
      have bound := kept.guarded subject entry stored token score holds deadline expires
      omega
  case rejected =>
    intro now token subjects refused subject
    rcases acquire_cases limits now token last.keys subjects with
      ⟨-, housekept⟩ | ⟨granted, -⟩
    · exact ⟨housekept.part subject, housekept.counted subject⟩
    · rw [granted] at refused
      cases refused
  case released =>
    intro now token subjects nodup subject
    exact ⟨release_script_tokens now token subjects nodup last.keys subject,
      congrFun (release_script_rate now token subjects last.keys) subject⟩

end Scripts

/-- Two clients share a host: the second waits for the first one's release, and the
next window's count starts after the rate key is gone. -/
theorem destination_limits_hold_sample :
    ∃ (visited : List (LimiterServer String Nat × LimiterCall String Nat))
      (last : LimiterServer String Nat),
      Run (LimiterServer.step ⟨1, 2, 31000⟩) LimiterServer.initial visited last ∧
      (last.keys.tokens 62001 "host:b").get 3 = some 93001 ∧
      last.keys.count 62001 "host:b" = 1 ∧
      (last.keys.unexpired 62001 "host:b").length ≤ 1 := by
  let limits : DestinationLimits := ⟨1, 2, 31000⟩
  have passed : replaySatisfies (LimiterServer.step limits) LimiterServer.initial
      [.acquire 1000 1 ["host:a", "ip4:192.0.2.1"], .acquire 1500 2 ["host:b", "ip4:192.0.2.1"],
        .release 1800 1 ["host:a", "ip4:192.0.2.1"], .acquire 2000 2 ["host:b"],
        .acquire 62001 3 ["host:b", "ip4:192.0.2.1"]]
      (fun _ last => decide ((last.keys.tokens 62001 "host:b").get 3 = some 93001 ∧
        last.keys.count 62001 "host:b" = 1)) = true := by decide +kernel
  obtain ⟨visited, last, run, outcome⟩ := run_of_replay_satisfies passed
  obtain ⟨token, count⟩ := of_decide_eq_true outcome
  exact ⟨visited, last, run, token, count,
    (destination_limits_hold limits run).1 "host:b" 62001⟩

end LinkAlive
