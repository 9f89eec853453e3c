import CloudKeeper.Cycle.Engine
import CloudKeeper.Kind.Service
import CloudKeeper.Live.Clock
import CloudKeeper.Live.Files
import CloudKeeper.Live.Transport
import CloudKeeper.Locks
import CloudKeeper.Manifest.Sync
import CloudKeeper.Scheduler
import Std.Sync.Mutex
/-!
A kind at work: its store, its queue, and workers that run cycles against the service over the network.
All of its state stands behind one lock, which no remote call holds.
-/
namespace CloudKeeper.Live

/-- All that changes of a kind at work. -/
structure SiteState (S : Type) where
  engine : Engine S
  queue : WorkQueue
  locks : Locks := {}
  tickets : Nat := 0
  working : Nat := 0

/-- A kind at work. -/
structure Site (S : Type) where
  service : Service S
  base : String
  timeoutMs : Nat
  config : SchedulerConfig
  stop : Std.CancellationToken
  state : Std.Mutex (SiteState S)

namespace Site

variable {S : Type} [Spec S]

/-- A kind at work over an opened store (`launch`), all of whose keys are triggered. -/
def open_ (service : Service S) (base : String) (config : Config) (stop : Std.CancellationToken)
    (store : Store S) : IO (Site S) := do
  let queue := Scheduler.resync (← instant) store.keys { backoff := config.scheduler.backoff }
  let state ← Std.Mutex.new { engine := { store }, queue : SiteState S }
  let timeoutMs := config.requestTimeout.toMillis
  return { service, base, timeoutMs, config := config.scheduler, stop, state }

/-- Lets the engine act. The file is written first, and how that went is what the engine goes by. -/
def act {α : Type} (site : Site S) (action : Circumstances → Engine S → Engine S × α) : IO α := do
  let now ← timestamp
  site.state.atomically do
    let s ← get
    let (engine, a) := action ⟨now, .written, none⟩ s.engine
    let outcome ← match engine.store.snapshot with
      | none => pure .written
      | some file => if s.engine.store.snapshot = some file then pure .written else save file
    match outcome with
    | .written =>
      set { s with engine }
      return a
    | failed =>
      let (engine, a) := action ⟨now, failed, none⟩ s.engine
      set { s with engine }
      return a

/-- The reply to a remote call. -/
def reply (site : Site S) (call : RemoteCall S) : IO call.Reply := do
  if ← site.stop.isCancelled then return none
  match site.service.ask call with
  | .send request =>
    match ← exchange site.base site.timeoutMs site.stop request with
    | none => return none
    | some result => return some (site.service.outcome site.base call fun _ => result)
  | _ => return some (site.service.outcome site.base call fun _ => .unreachable)

/-- Runs a cycle. -/
def run (site : Site S) (key : Key) : Cycle S CycleResult → IO CycleResult
  | .done result => return result
  | .step action next => do
    let reply ← site.act fun c engine => engine.perform c key action
    site.run key (next reply)
  | .call call next => do
    let reply ← site.reply call
    site.run key (next reply)

/-- Waits until a call holds the lock of its key. -/
partial def await (site : Site S) (ticket lock : Nat) : IO Unit := do
  let held ← site.state.atomically do return (← get).locks.holds ticket lock
  if !held then
    IO.sleep 5
    site.await ticket lock

/-- Runs one cycle of a key that has been handed out, and reports its result (`worker`). -/
def work (site : Site S) (key : Key) : IO Unit := do
  let (ticket, lock) ← site.state.atomically do
    let s ← get
    let (locks, lock) := s.locks.fetch s.tickets key
    set { s with locks := locks.request s.tickets lock, tickets := s.tickets + 1 }
    return (s.tickets, lock)
  site.await ticket lock
  let result ← site.run key (reconcile site.service.toKind)
  let now ← instant
  let gone := match result with
    | .ok .deleted | .ok .gone => true
    | _ => false
  site.state.atomically do
    modify fun s =>
      { s with
        locks := s.locks.finish ticket key lock gone
        queue := Scheduler.report site.config now s.queue key result
        working := s.working - 1 }

/-- Reads the announcements, fires the timers that are due, and hands out a key if a worker is idle. -/
def nextKey (site : Site S) : IO (Option Key) := do
  let now ← instant
  site.state.atomically do
    let s ← get
    let store := s.engine.store
    let queue := Scheduler.receiveAll now store.keys s.queue (Event.pending store.sent 0)
    let queue := queue.settle now
    let engine := { s.engine with store := { store with sent := [] } }
    if s.working < Scheduler.workers site.config then
      let (queue, key) := queue.next
      set { s with engine, queue, working := s.working + key.toList.length }
      return key
    else
      set { s with engine, queue }
      return none

/-- Waits until no worker is busy. -/
partial def drain (site : Site S) : IO Unit := do
  if (← site.state.atomically do return (← get).working) ≠ 0 then
    IO.sleep 10
    site.drain

/-- Schedules the kind until the shutdown (`Scheduler::run`). -/
partial def serve (site : Site S) : IO Unit := do
  if ← site.stop.isCancelled then site.drain
  else
    match ← site.nextKey with
    | some key =>
      let _ ← IO.asTask (site.work key) .dedicated
      site.serve
    | none =>
      IO.sleep 20
      site.serve

/-- Brings the store in line with the entries of a manifest (`sync_kind`). -/
def declare (site : Site S) (entries : List (ManifestEntry S)) : IO SyncReport :=
  site.act fun c engine =>
    let (store, report) := Sync.run (Store.author c.write c.now) site.service.name entries engine.store
    ({ engine with store }, report)

end Site

end CloudKeeper.Live
