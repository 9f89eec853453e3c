import CloudKeeper.Locks
import CloudKeeper.Simulation.World
import CloudKeeper.Time.Instant
/-!
Cycles under test, in virtual time. The remote side is scripted: each call takes the next answer queued
for its object and operation, waits, lets the answer's steps act on the store, and then answers. Calls
are logged. Time moves only when every cycle waits.
-/
namespace CloudKeeper.Simulation

open Time (Instant)

/-- A scripted answer: how long it takes, what happens to the store meanwhile, and what it says. -/
structure Answer (S : Type) where
  delayMs : Nat := 0
  during : List (StoreStep S) := []
  error : Option ClientError := none
  resource : Option RemoteResource := none
  id : Option String := none

/-- An answer queued for an operation on the object of a name. -/
structure Queued (S : Type) where
  name : String
  operation : Operation
  answer : Answer S

/-- A call that has been made. -/
structure LoggedCall where
  at_ : Nat
  operation : Operation
  name : String
  argument : Option Json.Value
  deriving Repr

/-- The remote side. -/
inductive RemoteSide (S : Type)
  /-- Scripted; without lookups, these find nothing and are not logged. -/
  | scripted (lookups : Bool)
  /-- Answering at once by a rule. -/
  | ruled (answer : (c : RemoteCall S) → Except ClientError c.Answer)

/-- Cycles under test: the world they act on, the script, the log with the latest call first, the clock,
and the calls that run. -/
structure Bench (S : Type) where
  kind : Kind S
  remote : RemoteSide S
  world : World S
  script : List (Queued S) := []
  /-- How many identifiers have been made up for the object of a name. -/
  madeUp : SortedMap String Nat := .empty
  log : List LoggedCall := []
  clock : Instant := .zero
  cancelled : Bool := false
  cancelAt : Option Instant := none
  inFlight : Nat := 0
  peak : Nat := 0
  locks : Locks := {}
  tickets : Nat := 0

/-- Where a cycle stands. -/
inductive Phase (S : Type)
  /-- It waits for the lock of its object. -/
  | waiting
  | calling (c : RemoteCall S) (answer : Answer S) (due : Instant)
      (next : c.Reply → Cycle S CycleResult)
  | ended (result : CycleResult)

/-- A cycle that has been started. -/
structure Task (S : Type) where
  ticket : Nat
  key : Key
  lock : Nat
  phase : Phase S

/-- What a call is logged with. -/
def argument {S : Type} [Spec S] : RemoteCall S → Option Json.Value
  | .observe _ id => some (.string id)
  | .create o => some (Spec.toJson o.spec)
  | .update o r => some (.array [.string r.id, Spec.toJson o.spec])
  | .delete _ id => some (.string id)
  | .lookup _ => none

/-- Takes the next answer queued for an operation on the object of a name. -/
def takeAnswer {S : Type} (name : String) (operation : Operation) :
    List (Queued S) → Answer S × List (Queued S)
  | [] => ({}, [])
  | q :: rest =>
    if q.name = name ∧ q.operation = operation then (q.answer, rest)
    else
      let (answer, left) := takeAnswer name operation rest
      (answer, q :: left)

namespace Bench

variable {S : Type} [Spec S]

/-- Logs a call and takes its answer. -/
def begin (b : Bench S) (c : RemoteCall S) : Bench S × Answer S :=
  let name := c.object.key.name
  let (answer, script) := takeAnswer name c.operation b.script
  let entry : LoggedCall := ⟨b.clock.toMillis, c.operation, name, argument c⟩
  ({ b with
      script
      log := entry :: b.log
      inFlight := b.inFlight + 1
      peak := max b.peak (b.inFlight + 1) }, answer)

/-- What a scripted answer says. A create call that is given no identifier makes one up. -/
def reply (b : Bench S) (answer : Answer S) (c : RemoteCall S) :
    Bench S × Except ClientError c.Answer :=
  match answer.error, c with
  | some e, _ => (b, .error e)
  | none, .observe .. =>
    (b, .ok (match answer.resource with
      | some r => .present r
      | none => .absent))
  | none, .create o =>
    match answer.id with
    | some id => (b, .ok id)
    | none =>
      let n := (b.madeUp.get? o.key.name).getD 0 + 1
      ({ b with madeUp := b.madeUp.insert o.key.name n },
        .ok (o.key.name ++ "-" ++ String.ofList (Decimal.text n)))
  | none, .update .. => (b, .ok ())
  | none, .delete .. => (b, .ok ())
  | none, .lookup _ => (b, .ok answer.id)

/-- Ends a call: the answer's steps act on the store, then it says what it says. -/
def finish (b : Bench S) (answer : Answer S) (c : RemoteCall S) :
    Bench S × Except ClientError c.Answer :=
  let b := { b with world := b.world.steps answer.during, inFlight := b.inFlight - 1 }
  b.reply answer c

/-- The answer to a call for which there is no need to wait, unless it must be logged. -/
def instant? (b : Bench S) (c : RemoteCall S) : Option (Except ClientError c.Answer) :=
  match b.remote with
  | .ruled answer => some (answer c)
  | .scripted true => none
  | .scripted false =>
    match c with
    | .lookup _ => some (.ok none)
    | _ => none

/-- Runs a cycle until it waits for a call or ends. -/
def advance (b : Bench S) (key : Key) : Cycle S CycleResult → Bench S × Phase S
  | .done result => (b, .ended result)
  | .step action next =>
    let (world, reply) := b.world.perform key action
    { b with world }.advance key (next reply)
  | .call c next =>
    if b.cancelled then b.advance key (next none)
    else
      match b.instant? c with
      | some reply => b.advance key (next (some reply))
      | none =>
        let (b, answer) := b.begin c
        if answer.delayMs = 0 then
          let (b, reply) := b.finish answer c
          b.advance key (next (some reply))
        else (b, .calling c answer (b.clock.plusMillis answer.delayMs) next)

/-- Starts a cycle: it fetches the lock of its object and asks for it. -/
def start (b : Bench S) (key : Key) : Bench S × Task S :=
  let ticket := b.tickets
  let (locks, lock) := b.locks.fetch ticket key
  ({ b with locks := locks.request ticket lock, tickets := ticket + 1 },
    ⟨ticket, key, lock, .waiting⟩)

/-- Whether a cycle can go on at the present time. -/
def canRun (b : Bench S) (t : Task S) : Bool :=
  match t.phase with
  | .waiting => b.locks.holds t.ticket t.lock
  | .calling _ _ due _ => b.cancelled || due.due b.clock
  | .ended _ => false

/-- Whether a result means that there is no object any more. -/
def isGone : CycleResult → Bool
  | .ok .deleted | .ok .gone => true
  | _ => false

/-- Gives the lock of a cycle on if the cycle has ended. -/
def settle (b : Bench S) (t : Task S) (phase : Phase S) : Bench S × Task S :=
  let b := match phase with
    | .ended result => { b with locks := b.locks.finish t.ticket t.key t.lock (isGone result) }
    | _ => b
  (b, { t with phase })

/-- Lets a cycle that can go on run until it waits or ends. A shutdown ends a call that runs. -/
def resume (b : Bench S) (t : Task S) : Bench S × Task S :=
  match t.phase with
  | .waiting =>
    let (b, phase) := b.advance t.key (reconcile b.kind)
    b.settle t phase
  | .calling c answer _ next =>
    if b.cancelled then
      let (b, phase) := { b with inFlight := b.inFlight - 1 }.advance t.key (next none)
      b.settle t phase
    else
      let (b, reply) := b.finish answer c
      let (b, phase) := b.advance t.key (next (some reply))
      b.settle t phase
  | .ended _ => (b, t)

/-- Lets the first of some cycles that can go on do so. -/
def resumeFirst (b : Bench S) : List (Task S) → Option (Bench S × List (Task S))
  | [] => none
  | t :: rest =>
    if b.canRun t then
      let (b, t) := b.resume t
      some (b, t :: rest)
    else (b.resumeFirst rest).map fun r => (r.1, t :: r.2)

/-- The earlier of two points in time, if there are any. -/
def earlier : Option Instant → Option Instant → Option Instant
  | some s, some t => some (if t.before s then t else s)
  | s, none => s
  | none, t => t

/-- When the first of the running calls ends. -/
def nextEnd (tasks : List (Task S)) : Option Instant :=
  tasks.foldl (fun best t =>
    match t.phase with
    | .calling _ _ due _ => earlier best (some due)
    | _ => best) none

/-- Moves the clock, never backwards, and cancels if the time for that has come. -/
def moveTo (b : Bench S) (t : Instant) : Bench S :=
  let clock := if b.clock.before t then t else b.clock
  match b.cancelAt with
  | some at_ =>
    if at_.due clock then { b with clock, cancelled := true, cancelAt := none } else { b with clock }
  | none => { b with clock }

/-- Runs cycles to their ends, moving the clock whenever all of them wait. -/
def runAll : Nat → Bench S → List (Task S) → Bench S × List (Task S)
  | 0, b, tasks => (b, tasks)
  | fuel + 1, b, tasks =>
    match b.resumeFirst tasks with
    | some (b, tasks) => runAll fuel b tasks
    | none =>
      match nextEnd tasks with
      | none => (b, tasks)
      | some t => runAll fuel (b.moveTo ((earlier (some t) b.cancelAt).getD t)) tasks

/-- The results of cycles that have ended. -/
def results (tasks : List (Task S)) : List CycleResult :=
  tasks.filterMap fun t =>
    match t.phase with
    | .ended result => some result
    | _ => none

/-- Starts a cycle and lets it run until it waits, with those started before it. -/
def launch (state : Bench S × List (Task S)) (key : Key) : Bench S × List (Task S) :=
  let (b, t) := state.1.start key
  if b.canRun t then
    let (b, t) := b.resume t
    (b, state.2 ++ [t])
  else (b, state.2 ++ [t])

/-- Runs cycles of some keys side by side; those of one key wait their turn. A cycle waits at most once
for its lock and three times for a call. -/
def concurrently (b : Bench S) (keys : List Key) : Bench S × List CycleResult :=
  let (b, tasks) := keys.foldl launch (b, [])
  let (b, tasks) := runAll (10 * keys.length + 10) b tasks
  (b, results tasks)

/-- The calls logged so far, by time and then by name; after this the log is empty. -/
def takeLog (b : Bench S) : Bench S × List LoggedCall :=
  let before (x y : LoggedCall) : Bool :=
    x.at_ < y.at_ || (x.at_ == y.at_ && (compare x.name y.name).isLE)
  ({ b with log := [] }, b.log.reverse.mergeSort before)

/-- Puts answers at the end of the script. -/
def addAnswers (b : Bench S) (name : String) (operation : Operation) (answers : List (Answer S)) :
    Bench S :=
  { b with script := b.script ++ answers.map fun a => ⟨name, operation, a⟩ }

end Bench

end CloudKeeper.Simulation
