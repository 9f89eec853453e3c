import CloudKeeper.Json.Decoder
import CloudKeeper.Time.Timestamp
/-!
Conditions tell what is known about a declared object: whether its resource is ready, and whether it
is in sync. A condition is a state together with the time since which it holds.
-/
namespace CloudKeeper

/-- What a condition is about. -/
inductive ConditionType
  | ready
  | synced
  deriving DecidableEq, Repr

/-- Whether the condition holds. -/
inductive ConditionStatus
  | holds
  | fails
  | unknown
  deriving DecidableEq, Repr

/-- Why the condition has its status. -/
inductive Reason
  | available
  | creating
  | deleting
  | unavailable
  | reconcileSuccess
  | reconcileError
  deriving DecidableEq, Repr

/-- The written name of a condition type. -/
def ConditionType.name : ConditionType → String
  | .ready => "Ready"
  | .synced => "Synced"

/-- The written name of a status. -/
def ConditionStatus.name : ConditionStatus → String
  | .holds => "True"
  | .fails => "False"
  | .unknown => "Unknown"

/-- The written name of a reason (`Reason::fmt`). -/
def Reason.name : Reason → String
  | .available => "Available"
  | .creating => "Creating"
  | .deleting => "Deleting"
  | .unavailable => "Unavailable"
  | .reconcileSuccess => "ReconcileSuccess"
  | .reconcileError => "ReconcileError"

/-- Condition types by name. -/
def ConditionType.names : List (String × ConditionType) :=
  [ConditionType.ready, .synced].map fun t => (t.name, t)

/-- Statuses by name. -/
def ConditionStatus.names : List (String × ConditionStatus) :=
  [ConditionStatus.holds, .fails, .unknown].map fun s => (s.name, s)

/-- Reasons by name. -/
def Reason.names : List (String × Reason) :=
  [Reason.available, .creating, .deleting, .unavailable, .reconcileSuccess, .reconcileError].map
    fun r => (r.name, r)

/-- All that a condition says, apart from since when: what `Condition::same_state` compares. -/
structure ConditionState where
  type : ConditionType
  status : ConditionStatus
  reason : Reason
  message : Option String := none
  deriving DecidableEq, Repr

namespace ConditionState

/-- The resource can be used (`Condition::available`). -/
def available : ConditionState := ⟨.ready, .holds, .available, none⟩

/-- The resource is being made (`Condition::creating`). -/
def creating : ConditionState := ⟨.ready, .fails, .creating, none⟩

/-- The resource is being deleted (`Condition::deleting`). -/
def deleting : ConditionState := ⟨.ready, .fails, .deleting, none⟩

/-- The resource cannot be used (`Condition::unavailable`). -/
def unavailable : ConditionState := ⟨.ready, .fails, .unavailable, none⟩

/-- The last cycle succeeded (`Condition::reconcile_success`). -/
def reconcileSuccess : ConditionState := ⟨.synced, .holds, .reconcileSuccess, none⟩

/-- The last cycle failed (`Condition::reconcile_error`). -/
def reconcileError (message : String) : ConditionState :=
  ⟨.synced, .fails, .reconcileError, some message⟩

/-- The state with a message (`Condition::with_message`). -/
def withMessage (state : ConditionState) (message : String) : ConditionState :=
  ⟨state.type, state.status, state.reason, some message⟩

end ConditionState

/-- A state and the time since which it holds. -/
structure Condition where
  state : ConditionState
  since : Time.Timestamp
  deriving DecidableEq, Repr

namespace Condition

/-- The condition as a JSON value. -/
def toJson (c : Condition) : Json.Value :=
  .object <|
    [("type", .string c.state.type.name), ("status", .string c.state.status.name),
      ("reason", .string c.state.reason.name)]
    ++ (c.state.message.map fun m => ("message", Json.Value.string m)).toList
    ++ [("lastTransitionTime", .string c.since.text)]

/-- How a condition is read. -/
def decoder : Json.Decoder Condition :=
  ((Json.Record.make fun type status reason message since =>
      Condition.mk (ConditionState.mk type status reason message) since)
    |>.field "type" (Json.Decoder.enumeration ConditionType.names)
    |>.field "status" (Json.Decoder.enumeration ConditionStatus.names)
    |>.field "reason" (Json.Decoder.enumeration Reason.names)
    |>.field "message" (Json.Decoder.optional Json.Decoder.string) (some none)
    |>.field "lastTransitionTime" (Json.Decoder.notation? Time.Timestamp.read?)).decoder

end Condition

/-- Publishes a state in a list of conditions, one for each type (`DeclaredObject::set_condition`): an equal state
changes nothing, any other takes the place of the condition of its type or is added at the end. -/
def publish (state : ConditionState) (now : Time.Timestamp) : List Condition → List Condition
  | [] => [⟨state, now⟩]
  | c :: rest =>
    if c.state.type = state.type then
      if c.state = state then c :: rest else ⟨state, now⟩ :: rest
    else c :: publish state now rest

/-- Whether publishing a state changes a list of conditions, the answer of `DeclaredObject::set_condition`. -/
def publishChanges (state : ConditionState) : List Condition → Bool
  | [] => true
  | c :: rest =>
    if c.state.type = state.type then !decide (c.state = state) else publishChanges state rest

end CloudKeeper
