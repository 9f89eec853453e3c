import CloudKeeper.Error
import CloudKeeper.Object.Declared
/-!
The remote side of an object: what a service shows of a resource, the five calls the engine may make,
and what the engine has to know about a kind of resource.
-/
namespace CloudKeeper

/-- A resource as its service shows it. The state is the service's own label. -/
structure RemoteResource where
  id : String
  state : String
  attributes : List (String × Json.Value) := []
  deriving Repr

namespace RemoteResource

/-- An attribute. -/
def attribute? (r : RemoteResource) (name : String) : Option Json.Value :=
  Json.Value.member? name r.attributes

/-- An attribute as text (`RemoteResource::str_attribute`); one that is missing or no text reads as the empty
text. -/
def text (r : RemoteResource) (name : String) : String :=
  ((r.attribute? name).bind Json.Value.string?).getD ""

/-- An attribute as an unsigned integer (`RemoteResource::u64_attribute`). -/
def uint64? (r : RemoteResource) (name : String) : Option UInt64 :=
  (r.attribute? name).bind Json.Value.uint64?

end RemoteResource

/-- What an observe call finds. -/
inductive Observation
  | absent
  | present (resource : RemoteResource)
  deriving Repr

/-- Where a resource is in its life: usable, still changing, or settled in a state that is not
usable. -/
inductive Readiness
  | ready
  | transitional
  | failed
  deriving DecidableEq, Repr

/-- The written name of a readiness. -/
def Readiness.name : Readiness → String
  | .ready => "Ready"
  | .transitional => "Transitional"
  | .failed => "Failed"

/-- What to do when a recorded resource is gone. -/
inductive AbsentPolicy
  | recreate
  | fail
  deriving DecidableEq, Repr

/-- What to do when deletion is requested and no resource is known. -/
inductive DeletePolicy
  | finalize
  | fail
  deriving DecidableEq, Repr

/-- How a kind treats the two ambiguous cases (`KindPolicy`). -/
structure Policy where
  onAbsent : AbsentPolicy := .recreate
  onDeleteWithoutId : DeletePolicy := .finalize
  deriving DecidableEq, Repr

/-- The written name of the policy for a resource that is gone. -/
def AbsentPolicy.name : AbsentPolicy → String
  | .recreate => "Recreate"
  | .fail => "Fail"

/-- The written name of the policy for a deletion without a resource. -/
def DeletePolicy.name : DeletePolicy → String
  | .finalize => "Finalize"
  | .fail => "Fail"

/-- What the engine has to know about a kind of resource: what an `ExternalClient` says without a call. -/
structure Kind (S : Type) where
  name : String
  policy : Policy := {}
  /-- Refuses parameters that can never make a valid request. -/
  validate : S → Except String Unit := fun _ => .ok ()
  readiness : RemoteResource → Readiness
  /-- Compares the parameters with the attributes that can be changed. -/
  isUpToDate : S → RemoteResource → Bool

/-- A call to the service of a kind: the methods of an `ExternalClient` that ask the service, with their
arguments. -/
inductive RemoteCall (S : Type)
  | observe (object : Declared S) (id : String)
  | create (object : Declared S)
  | update (object : Declared S) (resource : RemoteResource)
  | delete (object : Declared S) (id : String)
  | lookup (object : Declared S)

namespace RemoteCall

variable {S : Type}

/-- What a call answers when it succeeds. -/
abbrev Answer : RemoteCall S → Type
  | .observe .. => Observation
  | .create .. => String
  | .update .. => Unit
  | .delete .. => Unit
  | .lookup .. => Option String

/-- The operation that a call is. -/
def operation : RemoteCall S → Operation
  | .observe .. => .observe
  | .create .. => .create
  | .update .. => .update
  | .delete .. => .delete
  | .lookup .. => .lookup

/-- The object that a call is about. -/
def object : RemoteCall S → Declared S
  | .observe o _ => o
  | .create o => o
  | .update o _ => o
  | .delete o _ => o
  | .lookup o => o

/-- Whether a call may change the remote side. -/
def isMutating (c : RemoteCall S) : Bool :=
  match c.operation with
  | .create | .update | .delete => true
  | .observe | .lookup => false

end RemoteCall

end CloudKeeper
