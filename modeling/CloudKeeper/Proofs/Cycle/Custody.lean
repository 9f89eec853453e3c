import CloudKeeper.Cycle.Engine
import CloudKeeper.Proofs.Store.Identifier
import CloudKeeper.Proofs.Store.Intent
/-!
Where the engine keeps the identifier of a remote resource: on the object, where it was recorded, or in
the table of those that could not be recorded. Each action of a cycle does to these two places one thing
that can be told without the rest of the store, and authors never touch them.
-/
namespace CloudKeeper

open Time (Timestamp)

/-- The identifiers that the engine keeps for one key. -/
structure Custody where
  recorded : Option String
  unrecorded : Option String
  deriving DecidableEq, Repr

namespace Custody

variable {S : Type}

/-- An identifier is kept, in either place. -/
def Holds (h : Custody) (id : String) : Prop := h.recorded = some id ∨ h.unrecorded = some id

/-- No identifier is kept in both places at once, be it the same or another. -/
def Single (h : Custody) : Prop := h.recorded = none ∨ h.unrecorded = none

/-- What an action can do to the identifiers, given its reply. -/
def After (h : Custody) : (action : Action S) → action.Reply → Custody → Prop
  | .read, o, h' => h' = h ∧ h.recorded = o.bind Declared.externalId
  | .recordId id, .ok (), h' => h' = ⟨some id, h.unrecorded⟩
  | .recordId id, .error (.conflict _ existing _), h' =>
    h' = h ∧ h.recorded = some existing ∧ existing ≠ id
  | .recordId _, .error _, h' => h' = h
  | .clearId, _, h' => h' = ⟨none, h.unrecorded⟩
  | .publish _, _, h' => h' = h
  | .remove, _, h' => h' = ⟨none, h.unrecorded⟩
  | .recall, id, h' => h' = h ∧ id = h.unrecorded
  | .remember id, _, h' => h' = ⟨h.recorded, some id⟩
  | .discard, _, h' => h' = ⟨h.recorded, none⟩

end Custody

/-- The operation of the store that an action is, if it is one. -/
def Action.storeCall? {S : Type} (key : Key) (now : Timestamp) : Action S → Option (StoreCall S)
  | .recordId id => some (.setExternalId key id)
  | .clearId => some (.clearExternalId key)
  | .publish state => some (.setCondition key now state)
  | .remove => some (.remove key)
  | .read | .recall | .remember _ | .discard => none

theorem Action.storeCall_key {S : Type} {action : Action S} {key : Key} {now : Timestamp}
    {call : StoreCall S} (acts : action.storeCall? key now = some call) : call.key = key := by
  cases action <;> cases acts <;> rfl

/-- Only the removal of an object changes what its author wants. -/
theorem Action.spares_wishes {S : Type} {action : Action S} {key : Key} {now : Timestamp}
    {call : StoreCall S} (stays : action ≠ .remove) (acts : action.storeCall? key now = some call) :
    call.SparesWishes := by
  cases action with
  | remove => exact absurd rfl stays
  | recordId | clearId | publish =>
    cases acts
    trivial
  | read | «recall» | remember | discard => cases acts

namespace Engine

variable {S : Type}

/-- The identifiers that the engine keeps for a key. -/
def custody (e : Engine S) (key : Key) : Custody :=
  ⟨e.store.objects.recordedId? key, e.unrecorded.get? key⟩

variable [Spec S]

/-- An action is one operation of the store on the object, or leaves the store alone. -/
theorem perform_store (e : Engine S) (now : Timestamp) (write : WriteOutcome) (key : Key)
    (action : Action S) :
    (e.perform { now, write } key action).1.store =
      match action.storeCall? key now with
      | some call => (call.perform e.store write).1
      | none => e.store := by
  cases action <;> rfl

/-- An action of a cycle, but for the removal of the object, leaves the wishes of authors alone. -/
theorem perform_intent (e : Engine S) (now : Timestamp) (write : WriteOutcome) (key other : Key)
    (action : Action S) (stays : action ≠ .remove) :
    (e.perform { now, write } key action).1.store.objects.intent? other =
      e.store.objects.intent? other := by
  rw [perform_store]
  split
  next call acts =>
    exact StoreCall.perform_spares_wishes (Action.spares_wishes stays acts) e.store write other
  next => rfl

/-- An action of a cycle does to the identifiers of its key what its reply tells. -/
theorem perform_custody (e : Engine S) (c : Circumstances) (key : Key) (action : Action S)
    (acts : c.refusal = none) :
    (e.custody key).After action (e.perform c key action).2 ((e.perform c key action).1.custody key) := by
  obtain ⟨now, write, refusal⟩ := c
  cases acts
  cases action with
  | recordId id =>
    have recorded := StoreCall.setExternalId_recorded e.store write key id
    simp only [perform, onStore, Custody.After, custody]
    generalize e.store.setExternalId write key id = outcome at recorded ⊢
    obtain ⟨store, (missing | ⟨named, existing, attempted⟩ | why) | _⟩ := outcome
    · exact congrArg (Custody.mk · _) recorded
    · exact ⟨congrArg (Custody.mk · _) recorded.1, recorded.2⟩
    · exact congrArg (Custody.mk · _) recorded
    · exact congrArg (Custody.mk · _) recorded
  | clearId =>
    exact congrArg (Custody.mk · _)
      (StoreCall.perform_leaves (StoreCall.effect_clears e.store.objects key) write)
  | publish state =>
    exact congrArg (Custody.mk · _)
      (StoreCall.perform_spares (c := .setCondition key now state) trivial e.store write key)
  | remove =>
    exact congrArg (Custody.mk · _) (SortedMap.recordedId_of_get
      (StoreCall.perform_leaves (StoreCall.effect_removes e.store.objects key) write))
  | remember id =>
    refine congrArg (Custody.mk _) ?_
    exact (SortedMap.get?_insert ..).trans (if_pos rfl)
  | discard =>
    refine congrArg (Custody.mk _) ?_
    exact (SortedMap.get?_erase ..).trans (if_pos rfl)
  | _ => exact ⟨rfl, rfl⟩

/-- An action leaves the object of another key alone, and what is remembered for it. -/
theorem perform_other (e : Engine S) (c : Circumstances) {key other : Key} (apart : other ≠ key)
    (action : Action S) :
    (e.perform c key action).1.store.get? other = e.store.get? other ∧
      (e.perform c key action).1.unrecorded.get? other = e.unrecorded.get? other := by
  obtain ⟨now, write, refusal⟩ := c
  constructor
  · cases refusal with
    | some refusal => cases action <;> rfl
    | none =>
      rw [perform_store]
      split
      next call acts =>
        have away : other ≠ call.key := Action.storeCall_key acts ▸ apart
        exact StoreCall.perform_leaves (StoreCall.effect_frame call e.store.objects away) write
      next => rfl
  · cases action with
    | remember id => exact (SortedMap.get?_insert ..).trans (if_neg apart)
    | discard => exact (SortedMap.get?_erase ..).trans (if_neg apart)
    | _ => cases refusal <;> rfl

/-- An action of a cycle leaves the identifiers of other keys alone. -/
theorem perform_custody_other (e : Engine S) (c : Circumstances) {key other : Key}
    (apart : other ≠ key) (action : Action S) :
    (e.perform c key action).1.custody other = e.custody other := by
  obtain ⟨object, unrecorded⟩ := e.perform_other c apart action
  simp only [Store.get?] at object
  rw [custody, SortedMap.recordedId?, object, unrecorded, custody, SortedMap.recordedId?]

end Engine

end CloudKeeper
