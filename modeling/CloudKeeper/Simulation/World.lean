import CloudKeeper.Cycle.Engine
import CloudKeeper.Manifest.Sync
/-!
A store under test. Outcomes can be queued for each of its operations: an operation takes the next
outcome queued for it, which is an error that it returns instead of acting, or leave to act. Snapshot
writes turn out as the files in the directory let them.
-/
namespace CloudKeeper.Simulation

open Time (Timestamp)

/-- The operations of a store for which outcomes can be queued. -/
inductive StoreMethod
  | get
  | apply
  | requestDeletion
  | setExternalId
  | clearExternalId
  | setCondition
  | remove
  deriving DecidableEq, Repr

/-- An outcome queued for an operation. -/
structure Fault where
  method : StoreMethod
  outcome : Option StoreError
  deriving DecidableEq, Repr

/-- Takes the next outcome queued for an operation: the error to return, if any. -/
def takeFault (method : StoreMethod) : List Fault → Option StoreError × List Fault
  | [] => (none, [])
  | fault :: rest =>
    if fault.method = method then (fault.outcome, rest)
    else
      let (outcome, left) := takeFault method rest
      (outcome, fault :: left)

/-- The operation that an action of a cycle is. -/
def methodOf {S : Type} : Action S → Option StoreMethod
  | .read => some .get
  | .recordId _ => some .setExternalId
  | .clearId => some .clearExternalId
  | .publish _ => some .setCondition
  | .remove => some .remove
  | .recall | .remember _ | .discard => none

/-- An engine with queued outcomes. The stamp is the calendar time that is written down; `seen` is the
number of announcements that have been read. -/
structure World (S : Type) where
  engine : Engine S := {}
  faults : List Fault := []
  stamp : Timestamp
  seen : Nat := 0

/-- A step of an author or of a test on the store. -/
inductive StoreStep (S : Type)
  | apply (key : Key) (spec : S)
  /-- An application whose parameters do not decode. -/
  | unreadable (error : Json.DecodeError)
  | requestDeletion (key : Key)
  | setExternalId (key : Key) (id : String)
  | clearExternalId (key : Key)
  | setCondition (key : Key) (state : ConditionState) (since : Timestamp)
  | remove (key : Key)
  | get (key : Key)
  | list
  | fail (faults : List Fault)

/-- The result of a step. -/
inductive StepResult (S : Type)
  | done
  | failed (error : StoreError)
  | unreadable (error : Json.DecodeError)
  | changed (yes : Bool)
  | object (o : Option (Declared S))
  | keys (keys : List Key)

namespace World

variable {S : Type} [Spec S]

/-- The store beneath. -/
def store (w : World S) : Store S := w.engine.store

/-- How a snapshot write turns out. -/
def write (w : World S) : WriteOutcome :=
  match w.store.snapshot with
  | some snapshot => snapshot.outcome
  | none => .written

/-- Lets the store carry out an operation, unless an error is queued for it. -/
def operate {α : Type} (w : World S) (method : StoreMethod)
    (operation : Store S → Store S × Except StoreError α) : World S × Except StoreError α :=
  let (refusal, faults) := takeFault method w.faults
  let (engine, result) := w.engine.onStore refusal operation
  ({ w with engine, faults }, result)

/-- The world after an action of a cycle, and the reply. -/
def perform (w : World S) (key : Key) (action : Action S) : World S × action.Reply :=
  let (refusal, faults) := match methodOf action with
    | some method => takeFault method w.faults
    | none => (none, w.faults)
  let (engine, reply) := w.engine.perform ⟨w.stamp, w.write, refusal⟩ key action
  ({ w with engine, faults }, reply)

/-- Runs a program that makes no remote calls. -/
def run {α : Type} (w : World S) (key : Key) : Cycle S α → World S × α
  | .done a => (w, a)
  | .step action next =>
    let (w, reply) := w.perform key action
    w.run key (next reply)
  | .call _ next => w.run key (next none)

/-- Reads the object of a key through the queued outcomes. -/
def read (w : World S) (key : Key) : World S × Option (Declared S) :=
  w.perform key .read

/-- The author of the store under test. -/
def author : Author (World S) S where
  apply w key spec := w.operate .apply fun s => s.apply w.write key spec
  keys w := w.store.keys
  get? w key := w.read key
  requestDeletion w key := w.operate .requestDeletion fun s => s.requestDeletion w.write w.stamp key

/-- The result of an operation that has no value. -/
def resultOf : Except StoreError Unit → StepResult S
  | .ok () => .done
  | .error e => .failed e

/-- Carries out a step. -/
def step (w : World S) : StoreStep S → World S × StepResult S
  | .apply key spec =>
    let (w, result) := author.apply w key spec
    (w, resultOf result)
  | .unreadable e => (w, .unreadable e)
  | .requestDeletion key =>
    let (w, result) := author.requestDeletion w key
    (w, resultOf result)
  | .setExternalId key id =>
    let (w, result) := w.operate .setExternalId fun s => s.setExternalId w.write key id
    (w, resultOf result)
  | .clearExternalId key =>
    let (w, result) := w.operate .clearExternalId fun s => s.clearExternalId w.write key
    (w, resultOf result)
  | .setCondition key state since =>
    match w.operate .setCondition fun s => s.setCondition since key state with
    | (w, .ok changed) => (w, .changed changed)
    | (w, .error e) => (w, .failed e)
  | .remove key =>
    let (w, result) := w.operate .remove fun s => s.remove w.write key
    (w, resultOf result)
  | .get key =>
    let (w, o) := w.read key
    (w, .object o)
  | .list => (w, .keys w.store.keys)
  | .fail faults => ({ w with faults := w.faults ++ faults }, .done)

/-- Carries out steps whose results do not matter. -/
def steps (w : World S) (list : List (StoreStep S)) : World S :=
  list.foldl (fun w s => (w.step s).1) w

/-- The announcements that have not been read; after this they have. -/
def drain (w : World S) : World S × Event.Pending :=
  ({ w with seen := w.store.sent.length }, Event.pending w.store.sent w.seen)

/-- The world with its snapshot's files changed. -/
def withFiles (w : World S) (change : Snapshot → Snapshot) : World S :=
  { w with engine := { w.engine with
      store := { w.store with snapshot := w.store.snapshot.map change } } }

/-- The world after its store has been opened again, if its file lets it. A store in memory is lost. -/
def reopen (w : World S) : World S × Except StoreError Unit :=
  match w.store.snapshot with
  | none => ({ w with engine := {}, seen := 0 }, .ok ())
  | some snapshot =>
    match Store.ofSnapshot? snapshot with
    | .ok store => ({ w with engine := { store }, seen := 0 }, .ok ())
    | .error e => (w, .error e)

end World

end CloudKeeper.Simulation
