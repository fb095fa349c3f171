import LinkAlive.Worker.OutboxDispatcher
import LinkAlive.Api.Channels
import LinkAlive.Foundation.Transition

/-!
# The whole system

The database, the transactions in progress, and what the worker processes remember
between two statements. A transaction that is in progress keeps its writes to itself;
the locks it holds are a function of what it has done so far.
-/

namespace LinkAlive

open Relational

set_option autoImplicit false

abbrev TxId := Nat
abbrev JobId := Nat
abbrev DispatcherId := Nat

/-- `createDueChecks` after its locking select, with the ids of the rows to insert. -/
structure CreateDueTx where
  now : Time
  due : List (DueMonitor × CheckId)

inductive Transaction
  | persist (tx : PersistTx)
  | claim (tx : ClaimTx)
  | markSent (tx : MarkSentTx)
  | createDue (tx : CreateDueTx)
  | monitor (tx : MonitorTx)
  | channel (tx : ChannelTx)

namespace Transaction

def locksMonitor (id : MonitorId) : Transaction → Bool
  | .persist tx => tx.monitorId = id
  | .createDue tx => tx.due.any fun entry => entry.1.id = id
  | .monitor tx => tx.id = id
  | .claim _ | .markSent _ | .channel _ => false

def locksChannel (id : ChannelId) : Transaction → Bool
  | .channel tx => tx.id = id
  | _ => false

/-- Rows are locked by `SELECT … FOR UPDATE` and by the updates of the resolution. A
retirement locks its rows when it commits. -/
def locksRow (key : OutboxKey) : Transaction → Bool
  | .persist tx => key ∈ tx.outbox.cancels || key ∈ tx.outbox.redacts
  | .claim tx => tx.key = key
  | .markSent tx => tx.claimed.key = key
  | .createDue _ | .monitor _ | .channel _ => false

/-- The open attempts that a retirement has given up. -/
def found : Transaction → List (OutboxKey × Nat)
  | .monitor tx => tx.change.found
  | .channel tx => tx.change.found
  | _ => []

end Transaction

/-- What a run has done, for statements about runs; no step reads it. -/
inductive Event
  | reset (monitorId : MonitorId)
  | recorded (monitorId : MonitorId) (checkId : CheckId)
  | granted (key : OutboxKey) (attempt : Nat)
deriving DecidableEq, Repr

structure System where
  db : Database
  txs : Table TxId Transaction
  jobs : Table JobId CheckJob
  attempts : Table (OutboxKey × Nat) ClaimedNotification
  dispatchers : Table DispatcherId DispatchState
  history : List Event

def System.initial : System where
  db := .empty
  txs := ∅
  jobs := ∅
  attempts := ∅
  dispatchers := ∅
  history := []

namespace System

def free (s : System) (locks : Transaction → Bool) : Bool :=
  s.txs.every fun _ tx => !locks tx

def freeFor (s : System) (t : TxId) (locks : Transaction → Bool) : Bool :=
  s.txs.every fun other tx => other = t || !locks tx

def rowsFree (s : System) (t : TxId) (concerns : OutboxKey → OutboxRow → Bool) : Bool :=
  s.db.outbox.every fun key row => !concerns key row || s.freeFor t (Transaction.locksRow key)

def quiescent (s : System) : Prop := ∀ t, s.txs.get t = none

theorem free_iff {s : System} {locks : Transaction → Bool} :
    s.free locks = true ↔ ∀ t tx, s.txs.get t = some tx → locks tx = false := by
  simp [free, Table.every_iff]

theorem free_for_iff {s : System} {t : TxId} {locks : Transaction → Bool} :
    s.freeFor t locks = true ↔
      ∀ other tx, s.txs.get other = some tx → other ≠ t → locks tx = false := by
  simp only [freeFor, Table.every_iff, Bool.or_eq_true, decide_eq_true_eq, Bool.not_eq_true']
  constructor
  · intro every other tx found different
    exact (every other tx found).resolve_left different
  · intro every other tx found
    by_cases same : other = t
    · exact Or.inl same
    · exact Or.inr (every other tx found same)

theorem rows_free_iff {s : System} {t : TxId} {concerns : OutboxKey → OutboxRow → Bool} :
    s.rowsFree t concerns = true ↔
      ∀ key row, s.db.outbox.get key = some row → concerns key row = true →
        s.freeFor t (Transaction.locksRow key) = true := by
  simp only [rowsFree, Table.every_iff, Bool.or_eq_true, Bool.not_eq_true']
  constructor
  · intro every key row found concerned
    exact (every key row found).resolve_left (by simp [concerned])
  · intro every key row found
    cases concerned : concerns key row with
    | false => exact Or.inl rfl
    | true => exact Or.inr (every key row found concerned)

end System

end LinkAlive
