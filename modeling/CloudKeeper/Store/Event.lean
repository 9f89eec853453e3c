import CloudKeeper.Object.Key
/-!
The announcements of a store. All of them are kept in the order they were made, newest first; a
subscriber has a place in that order and can still read the latest 1024, the capacity of its channel.
-/
namespace CloudKeeper

/-- What has happened to an object. -/
inductive Change
  | applied
  | deletionRequested
  | removed
  deriving DecidableEq, Repr

/-- The written name of a change. -/
def Change.name : Change → String
  | .applied => "Applied"
  | .deletionRequested => "DeletionRequested"
  | .removed => "Removed"

/-- An announcement (`StoreEvent`). -/
structure Event where
  change : Change
  key : Key
  deriving DecidableEq, Repr

namespace Event

/-- The number of announcements that a subscriber can be behind without losing any (`EVENT_CAPACITY`). -/
def capacity : Nat := 1024

/-- What a subscriber finds: the number of announcements it has lost, and those it can read, oldest
first. -/
structure Pending where
  lost : Nat
  events : List Event
  deriving DecidableEq, Repr

/-- What a subscriber finds that has read or lost the first `seen` announcements: what the receiver of
`MemoryStore::subscribe` yields, a report of what was lost first. -/
def pending (sent : List Event) (seen : Nat) : Pending :=
  let behind := sent.length - seen
  ⟨behind - capacity, (sent.take (min behind capacity)).reverse⟩

/-- Nothing is lost while a subscriber is at most the capacity behind. -/
theorem lost_eq_zero {sent : List Event} {seen : Nat} (close : sent.length ≤ seen + capacity) :
    (pending sent seen).lost = 0 := by
  simp only [pending]
  omega

/-- Every announcement is either lost or found, once the subscriber has a place in the order. -/
theorem lost_add_length {sent : List Event} {seen : Nat} (place : seen ≤ sent.length) :
    (pending sent seen).lost + (pending sent seen).events.length + seen = sent.length := by
  simp only [pending, List.length_reverse, List.length_take]
  omega

end Event

end CloudKeeper
