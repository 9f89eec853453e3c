import CloudKeeper.Cycle.Engine
import CloudKeeper.Cycle.Reconcile
/-!
Runs of cycles over one engine. Each key has at most one cycle at a time; cycles of different keys, and
authors, take their turns in any order, so an author can act between any two steps of a cycle and while
a remote call is out. What a call answers and how a write turns out is given move by move.
-/
namespace CloudKeeper

variable {S : Type}

instance : DecidableEq CycleResult
  | .ok a, .ok b => decidable_of_iff (a = b) ⟨congrArg _, Except.ok.inj⟩
  | .error a, .error b => decidable_of_iff (a = b) ⟨congrArg _, Except.error.inj⟩
  | .ok _, .error _ | .error _, .ok _ => isFalse nofun

/-- Something that a cycle has learned: the reply to a remote call, or what came of recording an
identifier. -/
inductive Incident (S : Type)
  | answered (key : Key) (call : RemoteCall S) (reply : call.Reply)
  | recorded (key : Key) (id : String) (result : Except StoreError Unit)

/-- What an action adds to the log. -/
def Incident.ofAction (key : Key) : (action : Action S) → action.Reply → List (Incident S)
  | .recordId id, result => [.recorded key id result]
  | _, _ => []

/-- Cycles at work: the engine they share, the cycle of each key that is under way, and what has happened,
the latest first. -/
structure Works (S : Type) where
  engine : Engine S := {}
  running : Key → Option (Cycle S CycleResult) := fun _ => none
  log : List (Incident S) := []

/-- One move of an author or of a cycle. -/
inductive Move (S : Type)
  | apply (key : Key) (spec : S) (write : WriteOutcome)
  | requestDeletion (key : Key) (now : Time.Timestamp) (write : WriteOutcome)
  | begin (key : Key)
  | act (key : Key) (now : Time.Timestamp) (write : WriteOutcome)
  /-- A remote call is answered, or given up because of a shutdown. -/
  | answer (key : Key) (reply : (call : RemoteCall S) → call.Reply)
  | finish (key : Key)

namespace Works

/-- The works with the cycle of a key replaced. -/
def put (w : Works S) (key : Key) (cycle : Option (Cycle S CycleResult)) : Works S :=
  { w with running := fun other => if other = key then cycle else w.running other }

variable [Spec S]

/-- An operation of an author on the store. -/
def author (w : Works S) (operation : Store S → Store S × Except StoreError Unit) : Works S :=
  { w with engine := { w.engine with store := (operation w.engine.store).1 } }

/-- The works after a move; one that does not fit changes nothing. -/
def step (kind : Kind S) (w : Works S) : Move S → Works S
  | .apply key spec write => w.author fun s => s.apply write key spec
  | .requestDeletion key now write => w.author fun s => s.requestDeletion write now key
  | .begin key =>
    match w.running key with
    | none => w.put key (some (reconcile kind))
    | some _ => w
  | .act key now write =>
    match w.running key with
    | some (.step action next) =>
      let (engine, reply) := w.engine.perform { now, write } key action
      { w with engine, log := Incident.ofAction key action reply ++ w.log }.put key (some (next reply))
    | _ => w
  | .answer key reply =>
    match w.running key with
    | some (.call call next) =>
      { w with log := .answered key call (reply call) :: w.log }.put key (some (next (reply call)))
    | _ => w
  | .finish key =>
    match w.running key with
    | some (.done _) => w.put key none
    | _ => w

/-- The works after a run of moves. -/
def run (kind : Kind S) (w : Works S) (moves : List (Move S)) : Works S :=
  moves.foldl (step kind) w

/-- No cycle of the key is under way, or it has come to its end. -/
def AtRest (w : Works S) (key : Key) : Prop :=
  ∀ cycle, w.running key = some cycle → ∃ result, cycle = .done result

/-- The cycle of the key waits for the reply to a remote call. -/
def InCall (w : Works S) (key : Key) : Prop :=
  ∃ call next, w.running key = some (.call call next)

/-- The cycle of the key has come to its end with a result. -/
def Reports (w : Works S) (key : Key) (result : CycleResult) : Prop :=
  w.running key = some (.done result)

omit [Spec S] in
instance (w : Works S) (key : Key) : Decidable (w.InCall key) :=
  match runs : w.running key with
  | some (.call call next) => isTrue ⟨call, next, runs⟩
  | some (.done _) | some (.step ..) | none =>
    isFalse (by rintro ⟨_, _, calls⟩; cases runs.symm.trans calls)

omit [Spec S] in
instance (w : Works S) (key : Key) (result : CycleResult) : Decidable (w.Reports key result) :=
  match runs : w.running key with
  | some (.done own) =>
    if same : own = result then isTrue (runs.trans (same ▸ rfl))
    else isFalse fun reports => same (by cases runs.symm.trans reports; rfl)
  | some (.call ..) | some (.step ..) | none => isFalse fun reports => by cases runs.symm.trans reports

end Works

end CloudKeeper
