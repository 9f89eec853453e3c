import CloudKeeper.Object.Key
/-!
One lock for each object, so that cycles of one object never overlap and cycles of different objects
never wait for each other. A call fetches the lock of its key, waits for it in order of arrival, and
leaves it at the end. A lock is taken out of the table only while no other call uses it.
-/
namespace CloudKeeper

/-- The lock of a key: the call that holds it, the calls that wait for it in order of arrival, and all calls that
use it. The users are the references to it that `KeyLocks::evict` counts. -/
structure KeyLock where
  holder : Option Nat := none
  waiting : List Nat := []
  users : List Nat := []
  deriving DecidableEq, Repr, Inhabited

/-- All locks that were ever made, by number, and the table of those that are in use (`KeyLocks`). -/
structure Locks where
  table : SortedMap Key Nat := .empty
  locks : List KeyLock := []
  deriving Repr

namespace Locks

/-- The lock of a number. -/
def get (l : Locks) (n : Nat) : KeyLock := (l.locks[n]?).getD {}

/-- The locks with one of them changed. -/
def modify (l : Locks) (n : Nat) (change : KeyLock → KeyLock) : Locks :=
  { l with locks := l.locks.set n (change (l.get n)) }

/-- A call fetches the lock of a key from the table (`KeyLocks::get`); a key without one gets a new lock. -/
def fetch (l : Locks) (call : Nat) (key : Key) : Locks × Nat :=
  match l.table.get? key with
  | some n => (l.modify n fun lock => { lock with users := lock.users ++ [call] }, n)
  | none =>
    let n := l.locks.length
    ({ table := l.table.insert key n, locks := l.locks ++ [{ users := [call] }] }, n)

/-- A call asks for a lock: it gets it if it is free, else it waits. -/
def request (l : Locks) (call n : Nat) : Locks :=
  l.modify n fun lock =>
    match lock.holder, lock.waiting with
    | none, [] => { lock with holder := some call }
    | _, _ => { lock with waiting := lock.waiting ++ [call] }

/-- Whether a call holds a lock. -/
def holds (l : Locks) (call n : Nat) : Bool :=
  (l.get n).holder == some call

/-- A call takes the lock of a key out of the table, if no other call uses it (`KeyLocks::evict`). -/
def evict (l : Locks) (call : Nat) (key : Key) (n : Nat) : Locks :=
  if l.table.get? key = some n ∧ (l.get n).users = [call] then { l with table := l.table.erase key }
  else l

/-- The holder of a lock gives it to the call that has waited longest. -/
def release (l : Locks) (n : Nat) : Locks :=
  l.modify n fun lock => { lock with holder := lock.waiting.head?, waiting := lock.waiting.tail }

/-- A call no longer uses a lock. -/
def leave (l : Locks) (call n : Nat) : Locks :=
  l.modify n fun lock => { lock with users := lock.users.erase call }

/-- The end of a call of `Reconciler::reconcile`: it evicts the lock if the object is gone, gives it on and leaves
it. -/
def finish (l : Locks) (call : Nat) (key : Key) (n : Nat) (gone : Bool) : Locks :=
  ((if gone then l.evict call key n else l).release n).leave call n

end Locks

end CloudKeeper
