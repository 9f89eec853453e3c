import CloudKeeper.Scheduler
import CloudKeeper.Simulation.Bench
import CloudKeeper.Simulation.Line
/-!
A scheduler under test, in virtual time: its event loop, its workers and its queue, over a world of
scripted answers. Announcements reach the queue before a worker takes the next key, unless there are
more than the event loop reads in one turn.
-/
namespace CloudKeeper.Simulation

open Time (Instant)

/-- A scheduler at work: the bench its cycles run on, its queue, the number of announcements it has
read, and the cycles under way. -/
structure SchedulerRun (S : Type) where
  config : SchedulerConfig
  bench : Bench S
  queue : WorkQueue
  seen : Nat := 0
  tasks : List (Task S) := []
  started : Bool := false

namespace SchedulerRun

variable {S : Type} [Spec S]

/-- The present time. -/
def clock (r : SchedulerRun S) : Instant := r.bench.clock

/-- Subscribes and triggers every object there is. -/
def start (r : SchedulerRun S) : SchedulerRun S :=
  if r.started then r
  else
    let store := r.bench.world.store
    { r with
      started := true
      seen := store.sent.length
      queue := Scheduler.resync r.clock store.keys r.queue }

/-- Whether the event loop has announcements to read. -/
def hasEvents (r : SchedulerRun S) : Bool :=
  r.started && !r.bench.cancelled && r.seen < r.bench.world.store.sent.length

/-- Reads the announcements of one turn. To have lost some counts as one. -/
def readEvents (r : SchedulerRun S) : SchedulerRun S :=
  let store := r.bench.world.store
  let pending := Event.pending store.sent r.seen
  let read := { pending with events := pending.events.take (burst - min pending.lost 1) }
  { r with
    seen := r.seen + read.lost + read.events.length
    queue := Scheduler.receiveAll r.clock store.keys r.queue read }

/-- Takes the cycles that have ended from those under way and reports their results. -/
def reportEnded (r : SchedulerRun S) : SchedulerRun S :=
  r.tasks.foldl (fun r t =>
    match t.phase with
    | .ended result => { r with queue := Scheduler.report r.config r.clock r.queue t.key result }
    | _ => { r with tasks := r.tasks ++ [t] }) { r with tasks := [] }

/-- Hands a key to a worker, if one is idle and a key is ready. -/
def handOut (r : SchedulerRun S) : Option (SchedulerRun S) :=
  if r.started && !r.bench.cancelled && r.tasks.length < Scheduler.workers r.config then
    match r.queue.next with
    | (queue, some key) =>
      let (bench, tasks) := Bench.launch (r.bench, r.tasks) key
      some ({ r with queue, bench, tasks }.reportEnded)
    | (_, none) => none
  else none

/-- Hands out at most a number of keys. -/
def handOutSome : Nat → SchedulerRun S → SchedulerRun S
  | 0, r => r
  | n + 1, r =>
    match r.handOut with
    | some r => handOutSome n r
    | none => r

/-- A worker's turn. It calls the next worker and sets the timers of its cycles. -/
def workerTurn (line : Line) (r : SchedulerRun S) : Line × SchedulerRun S :=
  let idle := Scheduler.workers r.config - r.tasks.length
  let after := handOutSome (share idle) r
  let timers := List.replicate (after.queue.timers.length - r.queue.timers.length) Turn.timer
  if after.queue.ready.isEmpty then (line.join timers, after)
  else if idle = 1 then ((line.join timers).stepAside .worker, after)
  else (line.join (.worker :: timers), after)

/-- Lets the event loop and the workers take turns until all announcements have been read. -/
def catchUp : Nat → Line → SchedulerRun S → SchedulerRun S
  | 0, _, r => r
  | fuel + 1, line, r =>
    if !r.hasEvents then r
    else
      match line.next? with
      | none => r
      | some (.events, line) => catchUp fuel (line.stepAside .events).wake r.readEvents
      | some (.worker, line) =>
        let (line, r) := workerTurn line r
        catchUp fuel line r
      | some (.timer, line) => catchUp fuel line r

/-- The bound on the things that happen at one time or within one wait. -/
def bound : Nat := 1000000

/-- One thing that can happen at the present time, if there is one: announcements are read first, then
cycles go on, then timers fire, and last a key is handed out. -/
def happen (r : SchedulerRun S) : Option (SchedulerRun S) :=
  if r.hasEvents then some (catchUp bound { turns := [.events] } r)
  else
    match r.bench.resumeFirst r.tasks with
    | some (bench, tasks) => some ({ r with bench, tasks }.reportEnded)
    | none =>
      match r.queue.earliest? with
      | some timer =>
        if timer.due.due r.clock then some { r with queue := r.queue.expire timer } else r.handOut
      | none => r.handOut

/-- Lets everything happen that is due. -/
def settle : Nat → SchedulerRun S → SchedulerRun S
  | 0, r => r
  | fuel + 1, r =>
    match r.happen with
    | some r => settle fuel r
    | none => r

/-- When the next thing is due. -/
def nextDue (r : SchedulerRun S) : Option Instant :=
  Bench.earlier (Bench.nextEnd r.tasks)
    (Bench.earlier (r.queue.earliest?.map (·.due)) r.bench.cancelAt)

/-- Lets time pass up to a point, everything happening at its time. -/
def runUntil (goal : Instant) : Nat → SchedulerRun S → SchedulerRun S
  | 0, r => r
  | fuel + 1, r =>
    let r := settle bound r
    let next := (r.nextDue).filter (·.due goal)
    match next with
    | some t => runUntil goal fuel { r with bench := r.bench.moveTo t }
    | none => settle bound { r with bench := r.bench.moveTo goal }

/-- Lets some milliseconds pass. -/
def sleep (r : SchedulerRun S) (ms : Nat) : SchedulerRun S :=
  r.start.runUntil (r.clock.plusMillis ms) bound

/-- Starts the scheduler if it has not been started, and lets everything happen that is due. -/
def pause (r : SchedulerRun S) : SchedulerRun S :=
  settle bound r.start

/-- Fires the shutdown. -/
def cancel (r : SchedulerRun S) : SchedulerRun S :=
  settle bound { r.start with bench := { r.bench with cancelled := true } }

/-- Whether all workers have stopped. -/
def isStopped (r : SchedulerRun S) : Bool :=
  r.bench.cancelled && r.tasks.isEmpty

end SchedulerRun

end CloudKeeper.Simulation
