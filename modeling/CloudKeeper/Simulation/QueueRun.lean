import CloudKeeper.Queue
/-!
The work queue under test, in virtual time: the clock jumps from timer to timer while someone waits.
-/
namespace CloudKeeper.Simulation

open Time (Duration Instant)

/-- A queue and the clock. -/
structure QueueRun where
  queue : WorkQueue
  clock : Instant := .zero
  deriving Repr

/-- A step on a queue. -/
inductive QueueStep
  | add (key : Key)
  | next (waitMs : Nat)
  | done (key : Key) (delay : Duration)
  | failed (key : Key) (errorClass : ErrorClass)
  | forget (key : Key)
  | sleep (ms : Nat)
  deriving Repr

/-- The result of a step. -/
inductive QueueResult
  | done
  | key (key : Key)
  | timeout
  | retry (r : Retry)
  deriving Repr

namespace QueueRun

/-- Fires the timers up to a point in time, one after another, each at its own time, and moves the clock
there; stops early where a key can be handed out and one is wanted. -/
def runUntil (goal : Instant) (wanted : Bool) : Nat → QueueRun → QueueRun × Option Key
  | 0, r => (r, none)
  | fuel + 1, r =>
    let (queue, taken) := if wanted then r.queue.next else (r.queue, none)
    match taken with
    | some key => ({ r with queue }, some key)
    | none =>
      match queue.earliest? with
      | some timer =>
        if timer.due.due goal then
          let clock := if r.clock.before timer.due then timer.due else r.clock
          runUntil goal wanted fuel ⟨queue.expire timer, clock⟩
        else (⟨queue, goal⟩, none)
      | none => (⟨queue, goal⟩, none)

/-- The steps that it takes to fire all timers and to look once more. -/
def fuel (r : QueueRun) : Nat := r.queue.timers.length + 2

/-- Carries out a step, and then fires what is due. -/
def step (r : QueueRun) (s : QueueStep) : QueueRun × QueueResult :=
  let (r, result) : QueueRun × QueueResult :=
    match s with
    | .add key => ({ r with queue := r.queue.add r.clock key }, .done)
    | .next waitMs =>
      match runUntil (r.clock.plusMillis waitMs) true r.fuel r with
      | (r, some key) => (r, .key key)
      | (r, none) => (r, .timeout)
    | .done key delay => ({ r with queue := r.queue.done r.clock key delay }, .done)
    | .failed key errorClass =>
      let (queue, retry) := r.queue.failed r.clock key errorClass
      ({ r with queue }, .retry retry)
    | .forget key => ({ r with queue := r.queue.forget key }, .done)
    | .sleep ms => ((runUntil (r.clock.plusMillis ms) false r.fuel r).1, .done)
  ({ r with queue := r.queue.settle r.clock }, result)

end QueueRun

end CloudKeeper.Simulation
