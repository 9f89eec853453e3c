import CloudKeeper.Proofs.Store.View
/-!
Stores that differ in nothing but conditions, neither in memory nor in their files: they look the same to a view
that leaves conditions out. No operation looks at a condition, so this is a view that every operation goes by.
-/
namespace CloudKeeper

open Time (Timestamp)

variable {S : Type}

namespace Declared

variable {o o' : Declared S} {conditions : List Condition}

/-- The object with other conditions. -/
def dressed (o : Declared S) (conditions : List Condition) : Declared S := { o with conditions }

@[simp] theorem dressed_externalId : (o.dressed conditions).externalId = o.externalId := rfl

/-- An object that differs from one in nothing but conditions is this one with other conditions. -/
theorem eq_dressed (same : o.bare = o'.bare) : ∃ conditions, o' = o.dressed conditions := by
  obtain ⟨key, spec, recordedId, conditions, deletionRequested⟩ := o
  obtain ⟨key', spec', recordedId', conditions', deletionRequested'⟩ := o'
  simp only [bare, mk.injEq, true_and] at same
  obtain ⟨rfl, rfl, rfl, rfl⟩ := same
  exact ⟨conditions', rfl⟩

end Declared

/-- Objects without their conditions. -/
def View.bare : View S where
  of := Declared.bare
  spec_eq := congrArg Declared.spec
  externalId_eq := congrArg Declared.externalId
  requested_eq := congrArg Declared.isDeletionRequested
  wanting same spec deletionRequested :=
    congrArg (fun o : Declared S => { o with spec, deletionRequested }) same
  recording same recordedId := congrArg (fun o : Declared S => { o with recordedId }) same
  stating same _ _ := same

/-- Objects that differ in nothing but conditions have the very same identifier recorded. -/
theorem View.bare_records : (View.bare : View S).Records := fun _ _ => congrArg Declared.recordedId

namespace Store

/-- To publish changes nothing but conditions. -/
theorem setCondition_bare (s : Store S) (now : Timestamp) (key : Key) (state : ConditionState) :
    ∃ objects, objects.map Declared.bare = s.objects.map Declared.bare ∧
      (s.setCondition now key state).1 = { s with objects } := by
  unfold setCondition
  cases found : s.get? key with
  | none => exact ⟨s.objects, rfl, rfl⟩
  | some o =>
    have stands : (s.objects.map Declared.bare).get? key = some (o.withState state now).bare := by
      rw [SortedMap.get?_map]
      exact congrArg (Option.map Declared.bare) found
    refine ⟨s.objects.insert key (o.withState state now), ?_, rfl⟩
    rw [SortedMap.map_insert, SortedMap.insert_of_get stands]

end Store

end CloudKeeper
