import CloudKeeper.Proofs.Scheduler.Queue
import CloudKeeper.Proofs.Store.Announcement
/-!
A controller: a store and its announcements, the event loop that reads them, the queue with its timers,
and workers that run cycles, in any number. Authors, the event loop, workers and timers take their turns
in any order. The event loop subscribes and then lists the store, and lists it again when it has lost
announcements; between two keys of a list the others have their turns. The cycles of one key exclude each
other, though the key may have been handed out more than once. Every write succeeds.
-/
namespace CloudKeeper

open Time (Instant Timestamp)

variable {S : Type}

/-- What an action shows a cycle of the author's wish, given what it has seen before. -/
def Action.shown (before : Option (S × Bool)) : (action : Action S) → action.Reply → Option (S × Bool)
  | .read, some o => some o.intent
  | .read, none | .recordId _, _ | .clearId, _ | .publish _, _ | .remove, _ | .recall, _
  | .remember _, _ | .discard, _ => before

/-- What the event loop of `Scheduler::run` is about to do. -/
inductive Watch
  | listing
  /-- To trigger these keys. -/
  | triggering (keys : List Key)
  /-- To read the next announcement. -/
  | reading
  deriving DecidableEq, Repr

/-- A cycle under way. -/
structure Ongoing (S : Type) where
  cycle : Cycle S CycleResult
  /-- The author's wish as the cycle has read it. -/
  read : Option (S × Bool) := none
  /-- A trigger of the key has been left to a backoff timer since the cycle began. -/
  passedOver : Bool := false

/-- The end of the latest cycle of a key. -/
structure Report (S : Type) where
  read : Option (S × Bool)
  passedOver : Bool
  ending : Ending

/-- A controller: a running `Scheduler` with its store. -/
structure Controller (S : Type) where
  engine : Engine S
  queue : WorkQueue
  /-- The number of announcements that the event loop has read or lost. -/
  seen : Nat
  watch : Watch := .listing
  now : Instant := .zero
  /-- The keys that have been handed out and whose cycles have not begun. -/
  waiting : List Key := []
  running : Key → Option (Ongoing S) := fun _ => none
  reports : Key → Option (Report S) := fun _ => none
  /-- The keys whose removal the event loop has read while they were handed out. -/
  crossed : Key → Bool := fun _ => false

/-- Whose turn it is. -/
inductive Turn (S : Type)
  | apply (key : Key) (spec : S)
  | requestDeletion (key : Key) (now : Timestamp)
  | watch
  | handOut
  | begin (key : Key)
  | act (key : Key) (now : Timestamp)
  | answer (key : Key) (now : Timestamp) (reply : (call : RemoteCall S) → call.Reply)
  | fire (timer : QueueTimer)
  | wait (nanos : Nat)

namespace Controller

/-- A controller that has subscribed to a store and not listed it yet. -/
def start (config : SchedulerConfig) (store : Store S) : Controller S :=
  { engine := { store }, queue := { backoff := config.backoff }, seen := store.sent.length }

/-- The author's wish for a key, if there is an object. -/
def intent? (c : Controller S) (key : Key) : Option (S × Bool) := c.engine.store.objects.intent? key

/-- The announcements that the event loop has neither read nor been told to be lost, newest first. -/
def unread (c : Controller S) : List Event :=
  c.engine.store.sent.take (c.engine.store.sent.length - c.seen)

/-- A key is handed out to a worker. -/
def InHands (c : Controller S) (key : Key) : Prop :=
  key ∈ c.waiting ∨ (c.running key).isSome

instance (c : Controller S) (key : Key) : Decidable (c.InHands key) :=
  inferInstanceAs (Decidable (_ ∨ _))

/-- The event loop has come to the end of the announcements. -/
def Quiet (c : Controller S) : Prop :=
  c.watch = .reading ∧ c.seen = c.engine.store.sent.length

instance (c : Controller S) : Decidable c.Quiet := inferInstanceAs (Decidable (_ ∧ _))

/-- The latest cycle of a key failed for good, and it had read the present wish of the author. -/
def Parked (c : Controller S) (key : Key) : Prop :=
  ∃ report, c.reports key = some report ∧ report.ending = .parked ∧ report.read = c.intent? key

/-- Something keeps an eye on a key: a worker, the ready channel, a timer, or the next change of the
author's wish. -/
def Covered (c : Controller S) (key : Key) : Prop :=
  c.InHands key ∨ c.queue.Queued key ∨ c.queue.Armed key ∨ c.Parked key

/-- Only an announcement could bring a key back. Its latest cycle failed for good over an earlier wish
while a trigger was left to a backoff timer, or was to be retried at a time beyond the clock. -/
structure Stranded (c : Controller S) (key : Key) : Prop where
  unhanded : ¬c.InHands key
  unqueued : ¬c.queue.Queued key
  unarmed : ¬c.queue.Armed key
  because : ∃ report, c.reports key = some report ∧
    (report.ending = .parked ∧ report.read ≠ c.intent? key ∧ report.passedOver = true ∨
      report.ending = .overflowed)

/-- Replaces the cycle of a key. -/
def put (c : Controller S) (key : Key) (ongoing : Option (Ongoing S)) : Controller S :=
  { c with running := fun other => if other = key then ongoing else c.running other }

/-- The cycles under way after a trigger of a key. -/
def passOver (c : Controller S) (key : Key) : Key → Option (Ongoing S) := fun other =>
  if other = key ∧ c.queue.holdsBack c.now key = true then
    (c.running other).map fun ongoing => { ongoing with passedOver := true }
  else c.running other

theorem put_own {c : Controller S} {key : Key} {ongoing : Option (Ongoing S)} :
    (c.put key ongoing).running key = ongoing :=
  if_pos rfl

theorem passOver_other {c : Controller S} {key other : Key} (apart : other ≠ key) :
    c.passOver key other = c.running other :=
  if_neg fun same => apart same.1

/-- Triggers a key. -/
def trigger (c : Controller S) (key : Key) : Controller S :=
  { c with queue := c.queue.add c.now key, running := c.passOver key }

/-- Follows an announcement. -/
def receive (c : Controller S) (event : Event) : Controller S :=
  let queue := Scheduler.receive c.now c.queue event
  match event.change with
  | .applied | .deletionRequested => { c with queue, running := c.passOver event.key }
  | .removed =>
    { c with queue, crossed := fun other =>
      c.crossed other || decide (other = event.key ∧ c.InHands event.key) }

/-- The event loop's turn. -/
def look (c : Controller S) : Controller S :=
  match c.watch with
  | .listing => { c with watch := .triggering c.engine.store.keys }
  | .triggering [] => { c with watch := .reading }
  | .triggering (key :: keys) => { c.trigger key with watch := .triggering keys }
  | .reading =>
    let pending := Event.pending c.engine.store.sent c.seen
    if pending.lost = 0 then
      match pending.events with
      | [] => c
      | event :: _ => { c.receive event with seen := c.seen + 1 }
    else { c with seen := c.seen + pending.lost, watch := .listing }

/-- The controller after the report of a cycle that has ended. -/
def ended (config : SchedulerConfig) (c : Controller S) (key : Key) (ongoing : Ongoing S)
    (result : CycleResult) : Controller S :=
  let report : Report S :=
    ⟨ongoing.read, ongoing.passedOver, Scheduler.ending c.now c.queue key result⟩
  { c with
    queue := Scheduler.report config c.now c.queue key result
    reports := fun other => if other = key then some report else c.reports other }.put key none

variable [Spec S]

/-- Goes on with the cycle of a key. If it ends, its result is reported at once. -/
def goOn (config : SchedulerConfig) (c : Controller S) (key : Key) (now : Timestamp)
    (ongoing : Ongoing S) : Controller S :=
  match c.engine.settle { now, write := .written } key ongoing.cycle with
  | (engine, .done result) => { c with engine }.ended config key ongoing result
  | (engine, cycle) => { c with engine }.put key (some { ongoing with cycle })

/-- The controller after a turn; one that does not fit changes nothing. -/
def step (kind : Kind S) (config : SchedulerConfig) (c : Controller S) : Turn S → Controller S
  | .apply key spec =>
    { c with engine := { c.engine with store := (c.engine.store.apply .written key spec).1 } }
  | .requestDeletion key now =>
    { c with engine := { c.engine with
      store := (c.engine.store.requestDeletion .written now key).1 } }
  | .watch => c.look
  | .handOut =>
    match c.queue.next with
    | (queue, some key) => { c with queue, waiting := key :: c.waiting }
    | (queue, none) => { c with queue }
  | .begin key =>
    if key ∈ c.waiting ∧ (c.running key).isNone then
      { c with waiting := c.waiting.erase key }.put key (some { cycle := reconcile kind })
    else c
  | .act key now =>
    match c.running key with
    | some { cycle := .step action next, read, passedOver } =>
      let (engine, reply) := c.engine.perform { now, write := .written } key action
      { c with engine }.goOn config key now
        { cycle := next reply, read := action.shown read reply, passedOver }
    | _ => c
  | .answer key now reply =>
    match c.running key with
    | some { cycle := .call call next, read, passedOver } =>
      c.goOn config key now { cycle := next (reply call), read, passedOver }
    | _ => c
  | .fire timer =>
    if timer ∈ c.queue.timers ∧ timer.due.due c.now then { c with queue := c.queue.expire timer }
    else c
  | .wait nanos => { c with now := ⟨c.now.nanos + nanos⟩ }

/-- The controller after turns. -/
def run (kind : Kind S) (config : SchedulerConfig) (c : Controller S) (turns : List (Turn S)) :
    Controller S :=
  turns.foldl (step kind config) c

end Controller

end CloudKeeper
