import CloudKeeper.Cycle.Identity
/-!
One cycle of a declared object. It reads the object, decides between recovering, creating, observing,
updating and deleting, and makes at most one call that changes the remote side. What happened is
published as conditions and told as an outcome.
-/
namespace CloudKeeper

/-- What a successful cycle did. -/
inductive Outcome
  /-- A resource was created and its identifier recorded. -/
  | created
  /-- The identifier of a resource created earlier was recorded. -/
  | recovered
  /-- The resource is still changing. -/
  | pending
  | available
  /-- The resource settled in a state that is not usable. -/
  | unavailable
  | updated
  /-- The recorded resource is gone, and its identifier has been taken back. -/
  | recreate
  /-- The resource is deleted and the object removed. -/
  | deleted
  /-- There is no such object. -/
  | gone
  deriving DecidableEq, Repr

/-- When the object should get its next cycle. -/
inductive Requeue
  | poll
  | immediately
  | forget
  deriving DecidableEq, Repr

/-- The next cycle after an outcome (`Outcome::requeue`). -/
def Outcome.requeue : Outcome → Requeue
  | .recovered | .recreate => .immediately
  | .deleted | .gone => .forget
  | .created | .pending | .available | .unavailable | .updated => .poll

/-- The result of a cycle. -/
abbrev CycleResult := Except ReconcileError Outcome

namespace Reconcile

variable {S : Type}

/-- A cycle that ends well. -/
def finish (outcome : Outcome) : Cycle S CycleResult := .done (.ok outcome)

/-- A cycle that fails. -/
def fail (error : ReconcileError) : Cycle S CycleResult := .done (.error error)

/-- Records the identifier of a resource that exists (`Reconciler::record`); one that cannot be recorded ends the
cycle. -/
def record (id : String) (next : Cycle S CycleResult) : Cycle S CycleResult :=
  Identity.set id fun
    | .ok () => next
    | .error e => fail (.identityLost id e)

/-- Makes a call and goes on with its answer (`Reconciler::call`); an error or a shutdown ends the cycle. -/
def calling (c : RemoteCall S) (next : c.Answer → Cycle S CycleResult) : Cycle S CycleResult :=
  .call c fun
    | none => fail .cancelled
    | some (.error e) => fail (.client c.operation e)
    | some (.ok answer) => next answer

/-- Goes on only if the parameters can make a valid request. -/
def validated (kind : Kind S) (spec : S) (next : Cycle S CycleResult) : Cycle S CycleResult :=
  match kind.validate spec with
  | .ok () => next
  | .error text => fail (.validation text)

/-- Creates the resource of an object that has no recorded identifier (`Reconciler::create`). A resource that was
created before is recorded first: one whose identifier is remembered, or one that the service finds. -/
def create (kind : Kind S) (o : Declared S) : Cycle S CycleResult :=
  .step .recall fun
    | some id => record id (finish .recovered)
    | none =>
      validated kind o.spec <|
        calling (.lookup o) fun
          | some id => record id (finish .recovered)
          | none =>
            calling (.create o) fun id =>
              record id (.publishing .creating (.publishing .reconcileSuccess (finish .created)))

/-- The text that says which state a resource settled in. -/
def settledText (r : RemoteResource) : String := "remote state is " ++ r.state

/-- The text that says that a resource is gone. -/
def goneText (id : String) : String := "remote resource " ++ id ++ " no longer exists"

/-- Goes on after a resource has been found: `Reconciler::observe`, once there is an observation. -/
def found (kind : Kind S) (o : Declared S) (r : RemoteResource) : Cycle S CycleResult :=
  match kind.readiness r with
  | .transitional => finish .pending
  | .failed =>
    .publishing (ConditionState.unavailable.withMessage (settledText r))
      (.publishing .reconcileSuccess (finish .unavailable))
  | .ready =>
    if kind.isUpToDate o.spec r then
      .publishing .available (.publishing .reconcileSuccess (finish .available))
    else
      validated kind o.spec <|
        calling (.update o r) fun _ => .publishing .reconcileSuccess (finish .updated)

/-- Goes on after the recorded resource turned out to be gone (`Reconciler::absent`). -/
def absent (kind : Kind S) (id : String) : Cycle S CycleResult :=
  match kind.policy.onAbsent with
  | .fail => fail (.externalResourceMissing id)
  | .recreate =>
    Identity.clear fun
      | .error e => fail (.store e)
      | .ok () =>
        .publishing (ConditionState.unavailable.withMessage (goneText id)) (finish .recreate)

/-- Observes the recorded resource (`Reconciler::observe`). -/
def observe (kind : Kind S) (o : Declared S) (id : String) : Cycle S CycleResult :=
  .call (.observe o id) fun
    | none => fail .cancelled
    | some (.error .notFound) => absent kind id
    | some (.error e) => fail (.client .observe e)
    | some (.ok .absent) => absent kind id
    | some (.ok (.present r)) => found kind o r

/-- Removes the object, of which nothing is left on the remote side: the end of `Reconciler::finalize`. -/
def release : Cycle S CycleResult :=
  .step .remove fun
    | .error e => fail (.store e)
    | .ok () => .step .discard fun _ => finish .deleted

/-- Deletes a resource and then removes the object. A resource that is gone counts as deleted. -/
def delete (o : Declared S) (id : String) : Cycle S CycleResult :=
  .publishing .deleting <|
    .call (.delete o id) fun
      | none => fail .cancelled
      | some (.error .notFound) => release
      | some (.error e) => fail (.client .delete e)
      | some (.ok _) => release

/-- Removes an object for which no resource is known. -/
def releaseUnknown (kind : Kind S) : Cycle S CycleResult :=
  match kind.policy.onDeleteWithoutId with
  | .fail => fail .missingIdentity
  | .finalize => release

/-- Carries out a requested deletion (`Reconciler::finalize`): of the recorded resource, else the remembered one,
else the one that the service finds. -/
def finalize (kind : Kind S) (o : Declared S) : Cycle S CycleResult :=
  match o.externalId with
  | some id => delete o id
  | none =>
    .step .recall fun
      | some id => delete o id
      | none =>
        calling (.lookup o) fun
          | some id => delete o id
          | none => releaseUnknown kind

/-- The cycle of an object, up to its result (`Reconciler::reconcile_locked`). -/
def body (kind : Kind S) : Cycle S CycleResult :=
  .step .read fun
    | none => finish .gone
    | some o =>
      if o.isDeletionRequested then finalize kind o
      else
        match o.externalId with
        | some id => observe kind o id
        | none => create kind o

/-- Publishes the failure of a cycle, as `Reconciler::reconcile` does. An object that is not there has no
conditions, and a shutdown is no failure of the object. -/
def noted (result : CycleResult) : Cycle S CycleResult :=
  match result with
  | .ok _ => .done result
  | .error (.store (.notFound _)) => .done result
  | .error .cancelled => .done result
  | .error e => .publishing (.reconcileError e.message) (.done result)

end Reconcile

/-- One cycle of a declared object: `Reconciler::reconcile`, inside the lock of its key. -/
def reconcile {S : Type} (kind : Kind S) : Cycle S CycleResult :=
  (Reconcile.body kind).bind Reconcile.noted

end CloudKeeper
