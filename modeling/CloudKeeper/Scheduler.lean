import CloudKeeper.Config
import CloudKeeper.Cycle.Reconcile
import CloudKeeper.Queue
import CloudKeeper.Store.Event
/-!
The scheduler of a kind: announcements of the store trigger keys, and the result of a cycle decides
when its key runs again. A subscriber that has lost announcements triggers every key there is.
-/
namespace CloudKeeper.Scheduler

open Time (Duration Instant)

/-- The queue after an announcement, which `Scheduler::run` has received. -/
def receive (now : Instant) (q : WorkQueue) (event : Event) : WorkQueue :=
  match event.change with
  | .applied | .deletionRequested => q.add now event.key
  | .removed => q.forget event.key

/-- The queue after all keys have been triggered (`Scheduler::resync`). -/
def resync (now : Instant) (keys : List Key) (q : WorkQueue) : WorkQueue :=
  keys.foldl (fun q key => q.add now key) q

/-- The queue after all that a subscriber finds, given the keys in the store. One that lags lists the store first,
as `Scheduler::run` does. -/
def receiveAll (now : Instant) (keys : List Key) (q : WorkQueue) (pending : Event.Pending) :
    WorkQueue :=
  pending.events.foldl (receive now) (if pending.lost = 0 then q else resync now keys q)

/-- The queue after a worker has reported the result of a cycle (`worker`). -/
def report (config : SchedulerConfig) (now : Instant) (q : WorkQueue) (key : Key)
    (result : CycleResult) : WorkQueue :=
  match result with
  | .ok outcome =>
    match outcome.requeue with
    | .poll => q.done now key config.pollInterval
    | .immediately => q.done now key .zero
    | .forget => q.forget key
  | .error e => (q.failed now key e.errorClass).1

/-- The number of workers that `Scheduler::run` starts, at least one. -/
def workers (config : SchedulerConfig) : Nat := max config.concurrency.toNat 1

end CloudKeeper.Scheduler
