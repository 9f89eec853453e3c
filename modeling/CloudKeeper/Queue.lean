import CloudKeeper.Backoff
import CloudKeeper.Error
import CloudKeeper.SortedMap
import CloudKeeper.Time.Instant
/-!
The work queue hands each key to one worker at a time. A key that is triggered while it is handed out
gets one more run afterwards; a key whose cycle failed is held back until its backoff window ends.
Timers trigger keys again; each belongs to a generation of its key's entry, and only the timer of the
present generation has an effect.
-/
namespace CloudKeeper

open Time (Duration Instant)

/-- What the queue knows about a key (`Entry`). -/
structure QueueEntry where
  /-- The key has been sent to the ready channel and not been taken from it. -/
  queued : Bool := false
  /-- The key is handed out. -/
  inFlight : Bool := false
  /-- The key has been triggered since it was handed out. -/
  dirty : Bool := false
  /-- The end of the backoff window. -/
  notBefore : Option Instant := none
  failures : UInt32 := 0
  /-- The generation of the latest timer. -/
  generation : UInt64 := 0
  deriving DecidableEq, Repr

/-- A timer that triggers a key. -/
structure QueueTimer where
  key : Key
  generation : UInt64
  due : Instant
  deriving DecidableEq, Repr

/-- The queue (`WorkQueue`): what it knows about each key, the ready channel with the oldest send first, the timers
that have not fired, and the backoff of failures. -/
structure WorkQueue where
  entries : SortedMap Key QueueEntry := .empty
  ready : List Key := []
  timers : List QueueTimer := []
  backoff : Backoff
  deriving Repr

/-- What the queue does about a failed cycle, the answer of `WorkQueue::failed`. -/
inductive Retry
  /-- The key waits for its next trigger. -/
  | parked
  | after (delay : Duration)
  /-- The end of the backoff window lies beyond the clock: here `WorkQueue::failed` panics. -/
  | overflow
  deriving DecidableEq, Repr

namespace WorkQueue

/-- Whether the queue knows the key (`WorkQueue::is_tracked`). -/
def isTracked (q : WorkQueue) (key : Key) : Bool := q.entries.contains key

/-- The number of failures of a key since its last success (`WorkQueue::failures`). -/
def failures (q : WorkQueue) (key : Key) : UInt32 :=
  match q.entries.get? key with
  | some entry => entry.failures
  | none => 0

/-- The number of keys that the queue knows (`WorkQueue::len`). -/
def size (q : WorkQueue) : Nat := q.entries.size

/-- The queue with the entry of a key replaced. -/
def put (q : WorkQueue) (key : Key) (entry : QueueEntry) : WorkQueue :=
  { q with entries := q.entries.insert key entry }

/-- Sends a key to the ready channel, unless it is there or handed out (`WorkQueue::enqueue`). -/
def enqueue (q : WorkQueue) (key : Key) (entry : QueueEntry) : WorkQueue :=
  if entry.inFlight then q.put key { entry with dirty := true }
  else if entry.queued then q.put key entry
  else { q.put key { entry with queued := true } with ready := q.ready ++ [key] }

/-- Sets a timer of a new generation for a key (`WorkQueue::arm`). -/
def arm (q : WorkQueue) (now : Instant) (key : Key) (entry : QueueEntry) (delay : Duration) :
    WorkQueue :=
  let generation := entry.generation + 1
  { q.put key { entry with generation } with
    timers := q.timers ++ [⟨key, generation, now.timerDue delay⟩] }

/-- Whether the backoff window of an entry is open. -/
def QueueEntry.isHeldBack (entry : QueueEntry) (now : Instant) : Bool :=
  match entry.notBefore with
  | some t => now.before t
  | none => false

/-- Triggers a key (`WorkQueue::add`). Within its backoff window the trigger is left to the timer that ends the
window. -/
def add (q : WorkQueue) (now : Instant) (key : Key) : WorkQueue :=
  let entry := (q.entries.get? key).getD {}
  if QueueEntry.isHeldBack entry now then q.put key entry else q.enqueue key entry

/-- What a timer does when it fires (`WorkQueue::fire`). -/
def fire (q : WorkQueue) (timer : QueueTimer) : WorkQueue :=
  match q.entries.get? timer.key with
  | none => q
  | some entry =>
    if entry.generation = timer.generation then q.enqueue timer.key { entry with notBefore := none }
    else q

/-- Hands out a key if it is waiting to be handed out (`WorkQueue::start`). -/
def start (q : WorkQueue) (key : Key) : Option WorkQueue :=
  match q.entries.get? key with
  | none => none
  | some entry =>
    if entry.queued then some (q.put key { entry with queued := false, inFlight := true }) else none

/-- Takes sends from the ready channel until one can be handed out. -/
def nextFrom (q : WorkQueue) : List Key → WorkQueue × Option Key
  | [] => ({ q with ready := [] }, none)
  | key :: rest =>
    match q.start key with
    | some started => ({ started with ready := rest }, some key)
    | none => nextFrom q rest

/-- Hands out the next key, if one is ready (`WorkQueue::next`). Sends of keys that have been forgotten or handed
out since are dropped. -/
def next (q : WorkQueue) : WorkQueue × Option Key :=
  q.nextFrom q.ready

/-- Reports that the cycle of a key succeeded (`WorkQueue::done`); the key gets its next run after a delay, or at
once if it was triggered meanwhile. -/
def done (q : WorkQueue) (now : Instant) (key : Key) (delay : Duration) : WorkQueue :=
  match q.entries.get? key with
  | none => q
  | some entry =>
    let ended := { entry with inFlight := false, failures := 0, notBefore := none }
    if entry.dirty || delay.isZero then
      q.enqueue key { ended with dirty := false, generation := entry.generation + 1 }
    else q.arm now key ended delay

/-- The number of failures after one more; it does not leave its word. -/
def oneMore (failures : UInt32) : UInt32 :=
  if failures = 0xFFFFFFFF then failures else failures + 1

/-- Holds a key back for a delay, at the end of which it is triggered: the last part of `WorkQueue::failed`. -/
def holdBack (q : WorkQueue) (now : Instant) (key : Key) (entry : QueueEntry) (delay : Duration) :
    WorkQueue × Retry :=
  match now.after? delay with
  | none => (q.put key { entry with dirty := false }, .overflow)
  | some t => (q.arm now key { entry with dirty := false, notBefore := some t } delay, .after delay)

/-- Reports that the cycle of a key failed (`WorkQueue::failed`). A transient failure is retried after the backoff's
delay and a poisonous one after its ceiling; after a permanent one the key waits for a trigger, and has had one if
it was triggered meanwhile. -/
def failed (q : WorkQueue) (now : Instant) (key : Key) (errorClass : ErrorClass) :
    WorkQueue × Retry :=
  match q.entries.get? key with
  | none => (q, .parked)
  | some entry =>
    let ended := { entry with inFlight := false, failures := oneMore entry.failures }
    match errorClass with
    | .transient => q.holdBack now key ended (q.backoff.delay ended.failures)
    | .poison => q.holdBack now key ended q.backoff.max
    | .permanent =>
      let parked := { ended with generation := entry.generation + 1, notBefore := none }
      if entry.dirty then (q.enqueue key { parked with dirty := false }, .parked)
      else (q.put key parked, .parked)

/-- Stops tracking a key (`WorkQueue::forget`). Sends and timers of it that are under way find no entry. -/
def forget (q : WorkQueue) (key : Key) : WorkQueue :=
  { q with entries := q.entries.erase key }

/-- The timer that is due first, of several the one that was set first. -/
def earliest? (q : WorkQueue) : Option QueueTimer :=
  q.timers.foldl (fun best timer =>
    match best with
    | none => some timer
    | some b => if timer.due.before b.due then some timer else some b) none

/-- Fires a timer that has been set. -/
def expire (q : WorkQueue) (timer : QueueTimer) : WorkQueue :=
  { q with timers := q.timers.erase timer }.fire timer

/-- Fires timers that are due, the earliest first, at most a number of them. -/
def expireDue (now : Instant) : Nat → WorkQueue → WorkQueue
  | 0, q => q
  | n + 1, q =>
    match q.earliest? with
    | some timer => if timer.due.due now then expireDue now n (q.expire timer) else q
    | none => q

/-- Fires all timers that are due; none of them sets another. -/
def settle (q : WorkQueue) (now : Instant) : WorkQueue :=
  expireDue now q.timers.length q

end WorkQueue

end CloudKeeper
