import CloudKeeper.Object.Key
/-!
What can go wrong in a remote call, in the store and in a cycle, with the text of each error and the
class that decides how it is retried.
-/
namespace CloudKeeper

/-- Why a remote call failed. -/
inductive ClientError
  | transport (text : String)
  | status (code : Nat) (body : String)
  | notFound
  | decode (text : String)
  | invalid (text : String)
  deriving DecidableEq, Repr

/-- Why a store operation failed. -/
inductive StoreError
  | notFound (key : Key)
  | conflict (key : Key) (existing attempted : String)
  | persist (text : String)
  deriving DecidableEq, Repr

/-- The remote operations. -/
inductive Operation
  | observe
  | create
  | update
  | delete
  | lookup
  deriving DecidableEq, Repr

/-- How a failed cycle is retried: with growing delays, not before a change, or at the slowest rate. -/
inductive ErrorClass
  | transient
  | permanent
  | poison
  deriving DecidableEq, Repr

/-- Why a cycle failed. -/
inductive ReconcileError
  | client (operation : Operation) (source : ClientError)
  | store (source : StoreError)
  | identityLost (externalId : String) (source : StoreError)
  | validation (text : String)
  | externalResourceMissing (externalId : String)
  | missingIdentity
  | cancelled
  deriving DecidableEq, Repr

/-- The text of a failed remote call, as `ClientError` displays itself. -/
def ClientError.message : ClientError → String
  | .transport text => "transport: " ++ text
  | .status code body => "remote returned status " ++ String.ofList (Decimal.text code) ++ ": " ++ body
  | .notFound => "remote resource not found"
  | .decode text => "malformed response: " ++ text
  | .invalid text => "invalid request: " ++ text

/-- The text of a failed store operation, as `StoreError` displays itself. -/
def StoreError.message : StoreError → String
  | .notFound key => "not found: " ++ key.text
  | .conflict key existing attempted =>
    "identity conflict on " ++ key.text ++ ": " ++ existing ++ " is recorded, refusing " ++ attempted
  | .persist text => "persist: " ++ text

/-- The written name of an operation (`Operation::fmt`). -/
def Operation.name : Operation → String
  | .observe => "observe"
  | .create => "create"
  | .update => "update"
  | .delete => "delete"
  | .lookup => "lookup"

namespace ReconcileError

/-- The text of a failed cycle, as `ReconcileError` displays itself. -/
def message : ReconcileError → String
  | .client operation source => operation.name ++ " failed: " ++ source.message
  | .store source => source.message
  | .identityLost externalId source =>
    "created remote resource " ++ externalId ++ " but could not record it: " ++ source.message
  | .validation text => "invalid spec: " ++ text
  | .externalResourceMissing externalId =>
    "remote resource " ++ externalId ++ " no longer exists and this kind does not recreate"
  | .missingIdentity => "deletion requested but no external ID is recorded"
  | .cancelled => "reconcile cancelled"

/-- The error that caused this one, as text (`ReconcileError::source`). A store error stands for itself. -/
def cause : ReconcileError → Option String
  | .client _ source => some source.message
  | .identityLost _ source => some source.message
  | _ => none

/-- How the cycle is retried (`ReconcileError::class`). A malformed response is poison; what only a change of the
declared state can mend is permanent; all else is transient. -/
def errorClass : ReconcileError → ErrorClass
  | .client _ (.decode _) => .poison
  | .client _ (.invalid _) => .permanent
  | .client _ _ => .transient
  | .store (.conflict ..) => .permanent
  | .store _ => .transient
  | .identityLost _ (.conflict ..) => .permanent
  | .identityLost _ _ => .transient
  | .validation _ => .permanent
  | .externalResourceMissing _ => .permanent
  | .missingIdentity => .permanent
  | .cancelled => .transient

end ReconcileError

end CloudKeeper
