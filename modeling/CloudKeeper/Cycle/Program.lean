import CloudKeeper.Remote
/-!
A cycle of one object as a program: a tree of steps, each of which asks the surroundings for something
and goes on with the reply. Store operations can fail and remote calls can be answered by anything or
be given up, so whatever holds for every path of the tree holds for every run.
-/
namespace CloudKeeper

/-- What a cycle asks of the store and of the table of remembered identifiers, always about the object
it is for. -/
inductive Action (S : Type)
  /-- The declared object (`DesiredStore::get`). -/
  | read
  /-- To record an identifier (`DesiredStore::set_external_id`). -/
  | recordId (id : String)
  /-- To take the recorded identifier back (`DesiredStore::clear_external_id`). -/
  | clearId
  /-- To publish a state (`DesiredStore::set_condition`). -/
  | publish (state : ConditionState)
  /-- To remove the object (`DesiredStore::remove`). -/
  | remove
  /-- The identifier that is remembered because it could not be recorded (`IdentityTracker::unrecorded`). -/
  | recall
  /-- To remember an identifier that could not be recorded. -/
  | remember (id : String)
  /-- To forget the remembered identifier (`IdentityTracker::discard`). -/
  | discard
  deriving DecidableEq, Repr

/-- The reply to an action. -/
abbrev Action.Reply {S : Type} : Action S → Type
  | .read => Option (Declared S)
  | .recordId _ => Except StoreError Unit
  | .clearId => Except StoreError Unit
  | .publish _ => Except StoreError Bool
  | .remove => Except StoreError Unit
  | .recall => Option String
  | .remember _ => Unit
  | .discard => Unit

/-- The reply to a remote call: an answer or an error, or `none` if the call was given up because the
process is shutting down. -/
abbrev RemoteCall.Reply {S : Type} (c : RemoteCall S) : Type :=
  Option (Except ClientError c.Answer)

/-- A program that ends with a value. -/
inductive Cycle (S α : Type)
  | done (a : α)
  | step (action : Action S) (next : action.Reply → Cycle S α)
  | call (call : RemoteCall S) (next : call.Reply → Cycle S α)

namespace Cycle

variable {S α β : Type}

/-- One program after another. -/
def bind : Cycle S α → (α → Cycle S β) → Cycle S β
  | .done a, f => f a
  | .step action next, f => .step action fun reply => (next reply).bind f
  | .call c next, f => .call c fun reply => (next reply).bind f

/-- Publishes a state and goes on whatever becomes of it (`ConditionPublisher::publish`). -/
def publishing (state : ConditionState) (next : Cycle S α) : Cycle S α :=
  .step (.publish state) fun _ => next

end Cycle

end CloudKeeper
