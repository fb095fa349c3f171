import LinkAlive.Foundation.Table

/-!
# Keys with a time to live

A keyspace stores a value and an optional deadline under each key. A key whose
deadline has passed reads as absent although its entry is still there: the
server drops it lazily, and the next write replaces it. Sorted sets are tables
from a member to its score.
-/

namespace Expiring

set_option autoImplicit false

open Relational

structure Entry (Value : Type) where
  value : Value
  expireAt : Option Nat

abbrev Keyspace (Key Value : Type) := Key → Option (Entry Value)

section Keys

variable {Key Value : Type}

/-- A key outlives its deadline by no millisecond, but does live through it. -/
def Entry.expired (entry : Entry Value) (now : Nat) : Bool :=
  match entry.expireAt with
  | none => false
  | some deadline => decide (deadline < now)

def live (space : Keyspace Key Value) (now : Nat) (key : Key) : Option (Entry Value) :=
  (space key).filter fun entry => !entry.expired now

def lookup (space : Keyspace Key Value) (now : Nat) (key : Key) : Option Value :=
  (live space now key).map Entry.value

/-- `PTTL`: -2 for a missing key, -1 for a key without a deadline. -/
def pttl (space : Keyspace Key Value) (now : Nat) (key : Key) : Int :=
  match live space now key with
  | none => -2
  | some entry =>
      match entry.expireAt with
      | none => -1
      | some deadline => (deadline - now : Nat)

theorem live_eq_some {space : Keyspace Key Value} {now : Nat} {key : Key} {entry : Entry Value} :
    live space now key = some entry ↔ space key = some entry ∧ entry.expired now = false := by
  simp [live, Option.filter_eq_some_iff]

theorem live_congr {first second : Keyspace Key Value} {key : Key}
    (same : first key = second key) (now : Nat) : live first now key = live second now key := by
  simp only [live, same]

theorem lookup_congr {first second : Keyspace Key Value} {key : Key}
    (same : first key = second key) (now : Nat) : lookup first now key = lookup second now key := by
  simp only [lookup, live_congr same]

theorem lookup_of_live {space : Keyspace Key Value} {now : Nat} {key : Key} {entry : Entry Value}
    (found : live space now key = some entry) : lookup space now key = some entry.value := by
  simp [lookup, found]

section Writes

variable [DecidableEq Key]

def write (space : Keyspace Key Value) (now : Nat) (key : Key) (value : Value) :
    Keyspace Key Value :=
  Function.update space key
    (some { value, expireAt := (live space now key).bind Entry.expireAt })

def pexpire (space : Keyspace Key Value) (now : Nat) (key : Key) (ttl : Nat) :
    Keyspace Key Value :=
  match live space now key with
  | none => space
  | some entry => Function.update space key (some { entry with expireAt := some (now + ttl) })

def del (space : Keyspace Key Value) (key : Key) : Keyspace Key Value :=
  Function.update space key none

@[simp] theorem write_self (space : Keyspace Key Value) (now : Nat) (key : Key) (value : Value) :
    write space now key value key =
      some { value, expireAt := (live space now key).bind Entry.expireAt } := by
  simp [write]

theorem write_other (space : Keyspace Key Value) (now : Nat) {key other : Key} (value : Value)
    (distinct : other ≠ key) : write space now key value other = space other := by
  simp [write, distinct]

/-- A write revives nothing that its deadline has ended. -/
theorem live_write_self (space : Keyspace Key Value) (now : Nat) (key : Key) (value : Value) :
    live (write space now key value) now key =
      some { value, expireAt := (live space now key).bind Entry.expireAt } := by
  rw [live_eq_some]
  refine ⟨write_self space now key value, ?_⟩
  cases found : live space now key with
  | none => rfl
  | some entry => exact (live_eq_some.1 found).2

theorem pexpire_self {space : Keyspace Key Value} {now : Nat} {key : Key} {entry : Entry Value}
    (found : live space now key = some entry) (ttl : Nat) :
    pexpire space now key ttl key = some { entry with expireAt := some (now + ttl) } := by
  simp [pexpire, found]

theorem pexpire_other (space : Keyspace Key Value) (now : Nat) {key other : Key} (ttl : Nat)
    (distinct : other ≠ key) : pexpire space now key ttl other = space other := by
  unfold pexpire
  cases live space now key with
  | none => rfl
  | some entry => simp [distinct]

theorem lookup_pexpire (space : Keyspace Key Value) (now : Nat) (key other : Key) (ttl : Nat) :
    lookup (pexpire space now key ttl) now other = lookup space now other := by
  by_cases same : other = key
  · subst same
    cases found : live space now other with
    | none => simp [pexpire, found]
    | some entry =>
        have renewed : live (pexpire space now other ttl) now other =
            some { entry with expireAt := some (now + ttl) } := by
          rw [live_eq_some]
          exact ⟨pexpire_self found ttl, by simp [Entry.expired]⟩
        rw [lookup_of_live renewed, lookup_of_live found]
  · exact lookup_congr (pexpire_other space now ttl same) now

theorem pexpire_stored_value (space : Keyspace Key Value) (now : Nat) (key other : Key)
    (ttl : Nat) : (pexpire space now key ttl other).map Entry.value =
      (space other).map Entry.value := by
  by_cases same : other = key
  · subst same
    cases found : live space now other with
    | none => rw [pexpire, found]
    | some entry => rw [pexpire_self found, (live_eq_some.1 found).1]; rfl
  · rw [pexpire_other space now ttl same]

@[simp] theorem del_self (space : Keyspace Key Value) (key : Key) : del space key key = none := by
  simp [del]

theorem del_other (space : Keyspace Key Value) {key other : Key} (distinct : other ≠ key) :
    del space key other = space other := by
  simp [del, distinct]

end Writes

end Keys

section Counters

variable {Key : Type}

/-- `GET` of a counter; a missing key counts zero. -/
def counter (space : Keyspace Key Nat) (now : Nat) (key : Key) : Nat :=
  (lookup space now key).getD 0

variable [DecidableEq Key]

def incr (space : Keyspace Key Nat) (now : Nat) (key : Key) : Keyspace Key Nat :=
  write space now key (counter space now key + 1)

theorem incr_other (space : Keyspace Key Nat) (now : Nat) {key other : Key}
    (distinct : other ≠ key) : incr space now key other = space other :=
  write_other space now _ distinct

theorem incr_self (space : Keyspace Key Nat) (now : Nat) (key : Key) :
    (incr space now key key).map Entry.value = some (counter space now key + 1) := by
  simp [incr]

end Counters

section SortedSets

variable {Key Member : Type} [DecidableEq Key] [DecidableEq Member]

def members (space : Keyspace Key (Table Member Nat)) (now : Nat) (key : Key) :
    Table Member Nat :=
  (lookup space now key).getD ∅

/-- Stores what is left of a sorted set; an empty one takes its key with it. -/
def storeMembers (space : Keyspace Key (Table Member Nat)) (now : Nat) (key : Key)
    (rest : Table Member Nat) : Keyspace Key (Table Member Nat) :=
  if rest.size = 0 then del space key else write space now key rest

def zadd (space : Keyspace Key (Table Member Nat)) (now : Nat) (key : Key) (score : Nat)
    (member : Member) : Keyspace Key (Table Member Nat) :=
  write space now key ((members space now key).put member score)

def zrem (space : Keyspace Key (Table Member Nat)) (now : Nat) (key : Key) (member : Member) :
    Keyspace Key (Table Member Nat) :=
  storeMembers space now key ((members space now key).remove member)

/-- `ZREMRANGEBYSCORE key -inf bound`. -/
def zremRangeByScore (space : Keyspace Key (Table Member Nat)) (now : Nat) (key : Key)
    (bound : Nat) : Keyspace Key (Table Member Nat) :=
  storeMembers space now key
    ((members space now key).deleteWhere fun _ score => decide (score ≤ bound))

def zcard (space : Keyspace Key (Table Member Nat)) (now : Nat) (key : Key) : Nat :=
  (members space now key).size

/-- The score of `ZRANGE key 0 0 WITHSCORES`. -/
def lowestScore (space : Keyspace Key (Table Member Nat)) (now : Nat) (key : Key) : Option Nat :=
  ((members space now key).entries.map Sigma.snd).min?

omit [DecidableEq Key] [DecidableEq Member] in
theorem members_congr {first second : Keyspace Key (Table Member Nat)} {key : Key}
    (same : first key = second key) (now : Nat) :
    members first now key = members second now key := by
  simp only [members, lookup_congr same]

omit [DecidableEq Member] in
theorem members_write (space : Keyspace Key (Table Member Nat)) (now : Nat) (key : Key)
    (table : Table Member Nat) : members (write space now key table) now key = table := by
  simp [members, lookup_of_live (live_write_self space now key table)]

omit [DecidableEq Key] in
theorem members_of_stored {space : Keyspace Key (Table Member Nat)} {now : Nat} {key : Key}
    {member : Member} {score : Nat} (found : (members space now key).get member = some score) :
    ∃ entry, live space now key = some entry ∧ entry.value.get member = some score := by
  unfold members lookup at found
  cases alive : live space now key with
  | none => simp [alive] at found
  | some entry => exact ⟨entry, rfl, by simpa [alive] using found⟩

omit [DecidableEq Member] in
theorem store_members_other (space : Keyspace Key (Table Member Nat)) (now : Nat)
    {key other : Key} (rest : Table Member Nat) (distinct : other ≠ key) :
    storeMembers space now key rest other = space other := by
  unfold storeMembers
  split
  · exact del_other space distinct
  · exact write_other space now rest distinct

omit [DecidableEq Member] in
theorem members_store (space : Keyspace Key (Table Member Nat)) (now : Nat) (key : Key)
    (rest : Table Member Nat) : members (storeMembers space now key rest) now key = rest := by
  unfold storeMembers
  split
  · rename_i empty
    have none : rest = ∅ := AList.ext (List.length_eq_zero_iff.1 empty)
    simp [members, lookup, live, none]
  · exact members_write space now key rest

omit [DecidableEq Member] in
/-- What a sorted-set removal stores keeps the deadline of the key. -/
theorem store_members_entry {space : Keyspace Key (Table Member Nat)} {now : Nat} {key : Key}
    {rest : Table Member Nat} {entry : Entry (Table Member Nat)}
    (stored : storeMembers space now key rest key = some entry) :
    entry.value = rest ∧ entry.expireAt = (live space now key).bind Entry.expireAt := by
  unfold storeMembers at stored
  split at stored
  · simp at stored
  · rw [write_self] at stored
    cases stored
    exact ⟨rfl, rfl⟩

/-- A removal stores a part of what was there under the deadline it had. -/
theorem store_members_shrinks {space : Keyspace Key (Table Member Nat)} {now : Nat} {key other : Key}
    {rest : Table Member Nat} (smaller : rest.size ≤ (members space now key).size)
    (kept : ∀ member score, rest.get member = some score →
      (members space now key).get member = some score)
    {entry : Entry (Table Member Nat)}
    (stored : storeMembers space now key rest other = some entry) :
    ∃ earlier, space other = some earlier ∧ entry.expireAt = earlier.expireAt ∧
      entry.value.size ≤ earlier.value.size ∧
      ∀ member score, entry.value.get member = some score →
        earlier.value.get member = some score := by
  by_cases same : other = key
  · subst same
    obtain ⟨value, deadline⟩ := store_members_entry stored
    cases alive : live space now other with
    | none =>
        have empty : members space now other = ∅ := by simp [members, lookup, alive]
        have none : rest.size = 0 := by
          rw [empty] at smaller
          exact Nat.le_zero.1 smaller
        simp [storeMembers, none] at stored
    | some earlier =>
        have found : members space now other = earlier.value := by
          simp [members, lookup_of_live alive]
        rw [found] at smaller kept
        rw [alive] at deadline
        exact ⟨earlier, (live_eq_some.1 alive).1, deadline, value ▸ smaller, value ▸ kept⟩
  · rw [store_members_other space now rest same] at stored
    exact ⟨entry, stored, rfl, Nat.le_refl _, fun _ _ found => found⟩

end SortedSets

end Expiring
