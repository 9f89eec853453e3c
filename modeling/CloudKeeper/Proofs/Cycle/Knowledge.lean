import CloudKeeper.Proofs.Cycle.Course
import CloudKeeper.Proofs.Cycle.Custody
/-!
What a cycle knows of the resource of its object, from the object that it read, the identifier that it
recalled and the replies of the service. Its actions rest on this: an identifier that it records or
remembers is one that it knows, and it removes the object only when it knows that there is no resource.
-/
namespace CloudKeeper

variable {S : Type}

namespace Deed

/-- Where the resource can be, as far as deeds tell: nothing, nowhere, or under one identifier only. -/
def known : List (Deed S) → Option (Option String)
  | [] => none
  | .acted .read (some o) :: _ => o.externalId.map some
  | .acted .recall (some id) :: _ => some (some id)
  | .acted _ _ :: past => known past
  | .called (.lookup _) (some (.ok found)) :: _ => some found
  | .called (.create _) (some (.ok id)) :: _ => some (some id)
  | .called (.delete _ _) (some (.ok ())) :: _ => some none
  | .called (.delete _ _) (some (.error .notFound)) :: _ => some none
  | .called _ _ :: _ => none

end Deed

open Deed (known)

variable {kind : Kind S} {past : List (Deed S)} {id : String}

namespace Course

/-- An identifier that is recorded is known. -/
theorem known_recorded {reply : (Action.recordId (S := S) id).Reply}
    (course : Course kind (.acted (.recordId id) reply :: past)) : known past = some (some id) := by
  cases course.1 <;> rfl

/-- An identifier that is remembered is known. -/
theorem known_remembered (course : Course kind (.acted (.remember id) () :: past)) :
    known past = some (some id) := by
  obtain ⟨due, course⟩ := course
  cases due with
  | remember refused =>
    have recorded := course.known_recorded
    exact recorded

/-- An object is removed when nothing is left of its resource. -/
theorem known_removed {reply : (Action.remove (S := S)).Reply}
    (course : Course kind (.acted .remove reply :: past)) : known past = some none := by
  cases course.1 <;> rfl

/-- A cycle that reports its object deleted knows that nothing is left of the resource. -/
theorem known_deleted (course : Course kind past)
    (earned : CycleResult.Earned past (.ok .deleted)) : known past = some none := by
  cases earned with
  | deleted =>
    have removed := course.2.known_removed
    exact removed
  | other loose stays => exact absurd rfl stays.2

end Course

namespace RemoteCall.Warranted

variable {c : RemoteCall S} {o : Declared S}

/-- A call is about the object that the cycle has read. -/
theorem about_read (warranted : c.Warranted kind past) : .acted .read (some c.object) ∈ past := by
  cases warranted <;> simp [RemoteCall.object]

/-- A resource that is deleted is the one known. -/
theorem known_delete (warranted : (RemoteCall.delete o id).Warranted kind past) :
    known past = some (some id) := by
  cases warranted with
  | delete_recorded unwanted recorded => exact congrArg (Option.map some) recorded
  | delete_remembered => rfl
  | delete_found => rfl

end RemoteCall.Warranted

namespace Custody

/-- The identifiers kept are those that the cycle has been told of. -/
def Agrees (h : Custody) : List (Deed S) → Prop
  | .acted .read o :: _ => h.recorded = o.bind Declared.externalId
  | .acted .recall id :: past => h.unrecorded = id ∧ Agrees h past
  | .called _ _ :: past => Agrees h past
  | _ => True

theorem Agrees.acted {h h' : Custody} {action : Action S} {reply : action.Reply}
    (agrees : h.Agrees past) (after : h.After action reply h') :
    h'.Agrees (.acted action reply :: past) := by
  cases action with
  | read => exact after.1 ▸ after.2
  | «recall» => exact after.1 ▸ ⟨after.2.symm, agrees⟩
  | _ => trivial

/-- A resource is created only when no identifier is kept. -/
theorem Agrees.nothing {h : Custody} {o : Declared S} (agrees : h.Agrees past)
    (warranted : (RemoteCall.create o).Warranted kind past) : h = ⟨none, none⟩ := by
  cases warranted with
  | create wanted unrecorded valid =>
    obtain ⟨unremembered, recorded⟩ := agrees
    obtain ⟨own, aside⟩ := h
    cases recorded.trans unrecorded
    cases unremembered
    rfl

/-- Whatever is kept of a resource, and whatever the cycle knows of it, is true. The resource is given by
where it can be. -/
structure Traces (h : Custody) (confined : Option String → Prop) (past : List (Deed S)) : Prop where
  held : ∀ id, h.Holds id → confined (some id)
  known : ∀ found, known past = some found → confined found

theorem Traces.acted {h h' : Custody} {confined : Option String → Prop} {action : Action S}
    {reply : action.Reply} (traces : h.Traces confined past)
    (course : Course kind (.acted action reply :: past)) (after : h.After action reply h') :
    h'.Traces confined (.acted action reply :: past) := by
  cases action with
  | read =>
    obtain ⟨rfl, recorded⟩ := after
    refine ⟨traces.held, fun found tells => ?_⟩
    cases reply with
    | none => exact traces.known found tells
    | some o =>
      obtain ⟨id, own, rfl⟩ := Option.map_eq_some_iff.1 tells
      exact traces.held id (.inl (recorded.trans own))
  | «recall» =>
    obtain ⟨rfl, recalled⟩ := after
    refine ⟨traces.held, fun found tells => ?_⟩
    cases reply with
    | none => exact traces.known found tells
    | some id =>
      cases tells
      exact traces.held id (.inr recalled.symm)
  | recordId id =>
    have known := traces.known _ course.known_recorded
    refine ⟨fun kept holds => ?_, traces.known⟩
    obtain (e | _) := reply
    · have same : h' = h := by
        cases e with
        | conflict => exact after.1
        | _ => exact after
      exact traces.held kept (same ▸ holds)
    · cases after
      rcases holds with recorded | unrecorded
      · cases recorded
        exact known
      · exact traces.held kept (.inr unrecorded)
  | remember id =>
    have known := traces.known _ course.known_remembered
    cases after
    refine ⟨fun kept holds => ?_, traces.known⟩
    rcases holds with recorded | unrecorded
    · exact traces.held kept (.inl recorded)
    · cases unrecorded
      exact known
  | publish state =>
    cases after
    exact ⟨traces.held, traces.known⟩
  | clearId =>
    cases after
    exact ⟨fun kept holds => traces.held kept (.inr (holds.resolve_left nofun)), traces.known⟩
  | remove =>
    cases after
    exact ⟨fun kept holds => traces.held kept (.inr (holds.resolve_left nofun)), traces.known⟩
  | discard =>
    cases after
    exact ⟨fun kept holds => traces.held kept (.inl (holds.resolve_right nofun)), traces.known⟩

end Custody

end CloudKeeper
