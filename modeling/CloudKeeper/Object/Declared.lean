import CloudKeeper.Object.Key
import CloudKeeper.Object.Condition
/-!
Declared objects: what their author wants, the identifier recorded for the remote resource, what is
known about it, and whether its deletion is requested.
-/
namespace CloudKeeper

/-- What the engine asks of the type of declared parameters (`Spec`): a comparison, and a JSON form. -/
class Spec (S : Type) where
  same : S → S → Bool
  toJson : S → Json.Value
  decoder : Json.Decoder S

instance : Spec Json.Value where
  same := Json.Value.same
  toJson := id
  decoder := Json.Decoder.any

/-- A declared object (`DeclaredObject`). The identifier is kept as it was read; an empty one counts as none. -/
structure Declared (S : Type) where
  key : Key
  spec : S
  recordedId : Option String := none
  conditions : List Condition := []
  deletionRequested : Option Time.Timestamp := none
  deriving Repr

namespace Declared

variable {S : Type}

/-- The identifier of the remote resource, if one is recorded and is not empty (`DeclaredObject::external_id`). -/
def externalId (o : Declared S) : Option String :=
  o.recordedId.filter fun id => !id.isEmpty

/-- Whether the object's deletion is requested (`DeclaredObject::is_deletion_requested`). -/
def isDeletionRequested (o : Declared S) : Bool :=
  o.deletionRequested.isSome

/-- The condition of a type (`DeclaredObject::condition`). -/
def condition? (o : Declared S) (type : ConditionType) : Option Condition :=
  o.conditions.find? fun c => c.state.type == type

/-- The object after a state has been published on it (`DeclaredObject::set_condition`). -/
def withState (o : Declared S) (state : ConditionState) (now : Time.Timestamp) : Declared S :=
  { o with conditions := publish state now o.conditions }

/-- Whether publishing a state changes the object. -/
def stateChanges (o : Declared S) (state : ConditionState) : Bool :=
  publishChanges state o.conditions

/-- The object as a JSON value. An absent identifier or deletion time is left out. -/
def toJson [Spec S] (o : Declared S) : Json.Value :=
  .object <|
    [("key", o.key.toJson), ("spec", Spec.toJson o.spec)]
    ++ (o.recordedId.map fun id => ("externalId", Json.Value.string id)).toList
    ++ [("conditions", .array (o.conditions.map Condition.toJson))]
    ++ (o.deletionRequested.map fun t => ("deletionRequested", Json.Value.string t.text)).toList

/-- How an object is read. -/
def decoder [Spec S] : Json.Decoder (Declared S) :=
  ((Json.Record.make Declared.mk)
    |>.field "key" Key.decoder
    |>.field "spec" Spec.decoder
    |>.field "externalId" (Json.Decoder.optional Json.Decoder.string) (some none)
    |>.field "conditions" (Json.Decoder.list Condition.decoder) (some [])
    |>.field "deletionRequested"
      (Json.Decoder.optional (Json.Decoder.notation? Time.Timestamp.read?)) (some none)).decoder

end Declared

end CloudKeeper
