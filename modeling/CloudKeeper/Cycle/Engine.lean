import CloudKeeper.Cycle.Reconcile
import CloudKeeper.Store.Basic
/-!
What cycles act on: the store, and the table of identifiers that could not be recorded. Circumstances
say how an action turns out where that is not for the state to decide.
-/
namespace CloudKeeper

open Time (Timestamp)

/-- The store and the remembered identifiers: all that a `Reconciler` changes, apart from its locks. -/
structure Engine (S : Type) where
  store : Store S := {}
  unrecorded : SortedMap Key String := .empty

/-- How a store operation turns out: the current time, the outcome of a snapshot write, and an error
with which the store refuses to act at all. -/
structure Circumstances where
  now : Timestamp
  write : WriteOutcome
  refusal : Option StoreError := none
  deriving DecidableEq, Repr

namespace Engine

variable {S : Type}

/-- Lets the store act, unless it refuses. -/
def onStore {α : Type} (e : Engine S) (refusal : Option StoreError)
    (operation : Store S → Store S × Except StoreError α) : Engine S × Except StoreError α :=
  match refusal with
  | some error => (e, .error error)
  | none =>
    let (store, result) := operation e.store
    ({ e with store }, result)

/-- The engine after an action on the object of a key, and the reply. A store that refuses to read shows
no object. -/
def perform [Spec S] (e : Engine S) (c : Circumstances) (key : Key) :
    (action : Action S) → Engine S × action.Reply
  | .read => (e, if c.refusal.isSome then none else e.store.get? key)
  | .recordId id => e.onStore c.refusal fun s => s.setExternalId c.write key id
  | .clearId => e.onStore c.refusal fun s => s.clearExternalId c.write key
  | .publish state => e.onStore c.refusal fun s => s.setCondition c.now key state
  | .remove => e.onStore c.refusal fun s => s.remove c.write key
  | .recall => (e, e.unrecorded.get? key)
  | .remember id => ({ e with unrecorded := e.unrecorded.insert key id }, ())
  | .discard => ({ e with unrecorded := e.unrecorded.erase key }, ())

end Engine

end CloudKeeper
