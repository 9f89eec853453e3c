import CloudKeeper.Cycle.Engine
import CloudKeeper.Cycle.Reconcile
import CloudKeeper.Proofs.Store.Intent
/-!
A cycle asks for its object to be forgotten only when there is no such object: its reading found none, or
it has removed it and then done nothing but tidy up the table of unrecorded identifiers.
-/
namespace CloudKeeper

variable {S α : Type}

/-- A cycle whose object is not to get another one. -/
def CycleResult.Forgets (result : CycleResult) : Prop :=
  ∃ outcome, result = .ok outcome ∧ outcome.requeue = .forget

theorem CycleResult.not_forgets_error {e : ReconcileError} : ¬CycleResult.Forgets (.error e) := by
  rintro ⟨_, ⟨⟩, _⟩

namespace Action

/-- Whether an action is about the table of unrecorded identifiers, and not about the store. -/
def isAside : Action S → Bool
  | .recall | .remember _ | .discard => true
  | .read | .recordId _ | .clearId | .publish _ | .remove => false

/-- Whether an action leaves no object of its key, given its reply and whether there was none before. -/
def clears (gone : Bool) : (action : Action S) → action.Reply → Bool
  | .read, o => o.isNone
  | .remove, result => result.isOk
  | .recall, _ | .remember _, _ | .discard, _ => gone
  | .recordId _, _ | .clearId, _ | .publish _, _ => false

private theorem clears_aside {action : Action S} (aside : action.isAside = true) (gone : Bool)
    (reply : action.Reply) : action.clears gone reply = gone := by
  cases action <;> first | rfl | cases aside

private theorem clears_store {action : Action S} (store : ¬action.isAside = true) (gone : Bool)
    (reply : action.Reply) : action.clears gone reply = action.clears false reply := by
  cases action <;> first | rfl | exact absurd rfl store

end Action

namespace Cycle

/-- However a cycle goes on, it asks for forgetting only when the object is known to be gone. -/
def Earns : Bool → Cycle S CycleResult → Prop
  | gone, .done result => result.Forgets → gone = true
  | gone, .step action next => ∀ reply, Earns (action.clears gone reply) (next reply)
  | _, .call _ next => ∀ reply, Earns false (next reply)

private theorem earns_fail {gone : Bool} (e : ReconcileError) :
    (Reconcile.fail e : Cycle S CycleResult).Earns gone :=
  fun forgets => absurd forgets CycleResult.not_forgets_error

private theorem earns_finish {gone : Bool} {outcome : Outcome} (stays : outcome.requeue ≠ .forget) :
    (Reconcile.finish outcome : Cycle S CycleResult).Earns gone := by
  rintro ⟨_, ⟨⟩, forgets⟩
  exact absurd forgets stays

private theorem earns_publishing {gone : Bool} {state : ConditionState} {next : Cycle S CycleResult}
    (earns : next.Earns false) : (publishing state next).Earns gone :=
  fun _ => earns

private theorem earns_record {gone : Bool} {id : String} {next : Cycle S CycleResult}
    (earns : next.Earns false) : (Reconcile.record id next).Earns gone := by
  rintro ((_ | _ | _) | _)
  · exact fun _ => earns_fail _
  · exact earns_fail _
  · exact fun _ => earns_fail _
  · exact fun _ => earns

private theorem earns_calling {gone : Bool} {c : RemoteCall S} {next : c.Answer → Cycle S CycleResult}
    (earns : ∀ answer, (next answer).Earns false) : (Reconcile.calling c next).Earns gone := by
  rintro (_ | _ | answer)
  · exact earns_fail _
  · exact earns_fail _
  · exact earns answer

private theorem earns_validated {gone : Bool} {kind : Kind S} {spec : S} {next : Cycle S CycleResult}
    (earns : next.Earns gone) : (Reconcile.validated kind spec next).Earns gone := by
  unfold Reconcile.validated
  split
  · exact earns
  · exact earns_fail _

private theorem earns_create {gone : Bool} (kind : Kind S) (o : Declared S) :
    (Reconcile.create kind o).Earns gone := by
  have recovers : ∀ {gone id}, (Reconcile.record id (Reconcile.finish .recovered) :
      Cycle S CycleResult).Earns gone := earns_record (earns_finish nofun)
  rintro (_ | id)
  · refine earns_validated (earns_calling ?_)
    rintro (_ | id)
    · refine earns_calling fun id => earns_record ?_
      exact earns_publishing (earns_publishing (earns_finish nofun))
    · exact recovers
  · exact recovers

private theorem earns_found (kind : Kind S) (o : Declared S) (r : RemoteResource) :
    (Reconcile.found kind o r).Earns false := by
  unfold Reconcile.found
  cases kind.readiness r with
  | transitional => exact earns_finish nofun
  | failed => exact earns_publishing (earns_publishing (earns_finish nofun))
  | ready =>
    dsimp only
    split
    · exact earns_publishing (earns_publishing (earns_finish nofun))
    · exact earns_validated (earns_calling fun _ => earns_publishing (earns_finish nofun))

private theorem earns_absent (kind : Kind S) (id : String) : (Reconcile.absent kind id).Earns false := by
  unfold Reconcile.absent
  cases kind.policy.onAbsent with
  | fail => exact earns_fail _
  | recreate =>
    rintro (_ | _)
    · exact earns_fail _
    · exact earns_publishing (earns_finish nofun)

private theorem earns_observe {gone : Bool} (kind : Kind S) (o : Declared S) (id : String) :
    (Reconcile.observe kind o id).Earns gone := by
  rintro (_ | e | _ | r)
  · exact earns_fail _
  · cases e with
    | notFound => exact earns_absent kind id
    | _ => exact earns_fail _
  · exact earns_absent kind id
  · exact earns_found kind o r

private theorem earns_release {gone : Bool} : (Reconcile.release : Cycle S CycleResult).Earns gone := by
  rintro (_ | _)
  · exact earns_fail _
  · exact fun _ _ => rfl

private theorem earns_delete {gone : Bool} (o : Declared S) (id : String) :
    (Reconcile.delete o id).Earns gone := by
  rintro _ (_ | e | _)
  · exact earns_fail _
  · cases e with
    | notFound => exact earns_release
    | _ => exact earns_fail _
  · exact earns_release

private theorem earns_finalize {gone : Bool} (kind : Kind S) (o : Declared S) :
    (Reconcile.finalize kind o).Earns gone := by
  unfold Reconcile.finalize
  split
  · exact earns_delete o _
  · rintro (_ | id)
    · refine earns_calling ?_
      rintro (_ | id)
      · unfold Reconcile.releaseUnknown
        cases kind.policy.onDeleteWithoutId with
        | fail => exact earns_fail _
        | finalize => exact earns_release
      · exact earns_delete o id
    · exact earns_delete o id

private theorem earns_body {gone : Bool} (kind : Kind S) : (Reconcile.body kind).Earns gone := by
  rintro (_ | o)
  · exact fun _ => rfl
  · dsimp only
    split
    · exact earns_finalize kind o
    · split
      · exact earns_observe kind o _
      · exact earns_create kind o

/-- Publishing a failure does not change what a cycle asks for. -/
private theorem earns_noted {gone : Bool} {c : Cycle S CycleResult} (earns : c.Earns gone) :
    (c.bind Reconcile.noted).Earns gone := by
  induction c generalizing gone with
  | done result =>
    unfold bind Reconcile.noted
    split
    · exact earns
    · exact earns
    · exact earns
    · exact fun _ forgets => absurd forgets CycleResult.not_forgets_error
  | step action next ih => exact fun reply => ih reply (earns reply)
  | call c next ih => exact fun reply => ih reply (earns reply)

theorem reconcile_earns {gone : Bool} (kind : Kind S) : (reconcile kind).Earns gone :=
  earns_noted (earns_body kind)

end Cycle

namespace Engine

variable [Spec S] (e : Engine S) (now : Time.Timestamp) (key : Key) (action : Action S)

private theorem perform_aside (c : Circumstances) (aside : action.isAside = true) :
    (e.perform c key action).1.store = e.store := by
  cases action <;> first | rfl | cases aside

/-- Whatever a cycle does with the store is told. -/
theorem perform_tells :
    e.store.Tells key (e.perform { now, write := .written } key action).1.store := by
  have silent : e.store.Tells key e.store := .inl ⟨rfl, fun _ => rfl⟩
  cases action with
  | recordId id => exact (StoreCall.setExternalId key id).perform_tells e.store
  | clearId => exact (StoreCall.clearExternalId key).perform_tells e.store
  | publish state => exact (StoreCall.setCondition key now state).perform_tells e.store
  | remove => exact (StoreCall.remove key).perform_tells e.store
  | _ => exact silent

variable {e key action} in
/-- When the reply to an action says that there is no object, there is none. -/
theorem perform_clears {gone : Bool} {write : WriteOutcome}
    (known : gone = true → e.store.objects.intent? key = none)
    (clears : action.clears gone (e.perform { now, write } key action).2 = true) :
    (e.perform { now, write } key action).1.store.objects.intent? key = none := by
  by_cases aside : action.isAside = true
  · rw [perform_aside e key action _ aside]
    rw [Action.clears_aside aside] at clears
    exact known clears
  · cases action with
    | read =>
      change (e.store.objects.get? key).isNone = true at clears
      exact Option.map_eq_none_iff.2 (Option.isNone_iff_eq_none.1 clears)
    | remove =>
      have removed : ((StoreCall.remove key).perform e.store write).1.objects.get? key = none :=
        StoreCall.perform_leaves (StoreCall.effect_removes e.store.objects key) write
      exact Option.map_eq_none_iff.2 removed
    | _ => first | exact absurd rfl aside | cases clears

/-- Goes on with a cycle as far as it does not need the store or a remote call. -/
def settle (c : Circumstances) (key : Key) : Cycle S α → Engine S → Engine S × Cycle S α
  | .step action next, e =>
    if action.isAside then
      let (e, reply) := e.perform c key action
      settle c key (next reply) e
    else (e, .step action next)
  | cycle, e => (e, cycle)

theorem settle_store (c : Circumstances) (cycle : Cycle S α) :
    (settle c key cycle e).1.store = e.store := by
  induction cycle generalizing e with
  | done a => rfl
  | call remote next ih => rfl
  | step action next ih =>
    unfold settle
    split
    case isTrue aside => exact (ih _ _).trans (perform_aside e key action c aside)
    case isFalse => rfl

/-- Going on does not change what a cycle has earned, and one that has not ended still has it to earn. -/
theorem settle_earns {gone : Bool} (c : Circumstances) {cycle : Cycle S CycleResult}
    (earns : cycle.Earns gone) :
    (∀ result, (settle c key cycle e).2 = .done result → result.Forgets → gone = true) ∧
      ((∀ result, (settle c key cycle e).2 ≠ .done result) → (settle c key cycle e).2.Earns false) := by
  induction cycle generalizing e with
  | done result =>
    constructor
    · intro _ same
      cases same
      exact earns
    · intro goesOn
      exact absurd rfl (goesOn result)
  | call remote next ih => exact ⟨nofun, fun _ => earns⟩
  | step action next ih =>
    unfold settle
    split
    case isTrue aside =>
      have earned := earns (e.perform c key action).2
      rw [Action.clears_aside aside] at earned
      exact ih _ _ earned
    case isFalse store =>
      refine ⟨nofun, fun _ reply => ?_⟩
      have earned := earns reply
      rw [Action.clears_store store] at earned
      exact earned

end Engine

end CloudKeeper
