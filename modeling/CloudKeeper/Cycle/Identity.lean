import CloudKeeper.Cycle.Program
/-!
Recording the identifier of a remote resource. One that cannot be written is remembered, so that the
next cycle tries again before it creates anything; one that contradicts the recorded identifier is
not.
-/
namespace CloudKeeper.Identity

variable {S α : Type}

/-- Records an identifier and tells the continuation whether that succeeded (`IdentityTracker::set`). -/
def set (id : String) (next : Except StoreError Unit → Cycle S α) : Cycle S α :=
  .step (.recordId id) fun
    | .ok () => .step .discard fun _ => next (.ok ())
    | .error (.conflict key existing attempted) => next (.error (.conflict key existing attempted))
    | .error e => .step (.remember id) fun _ => next (.error e)

/-- Takes the recorded identifier back (`IdentityTracker::clear`). -/
def clear (next : Except StoreError Unit → Cycle S α) : Cycle S α :=
  .step .clearId next

end CloudKeeper.Identity
