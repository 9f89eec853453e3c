import CloudKeeper.Object.Declared
/-!
What publishing a state does to the conditions of an object. The condition of its type then shows the
state, the conditions of other types stay as they are, and publishing what is shown already changes
nothing.
-/
namespace CloudKeeper

open Time (Timestamp)

variable {state other : ConditionState} {conditions : List Condition}

/-- A state that has been published is shown by the condition of its type. -/
theorem find_publish_own (state : ConditionState) (now : Timestamp) (conditions : List Condition) :
    ((publish state now conditions).find? fun c => c.state.type == state.type).map Condition.state =
      some state := by
  induction conditions with
  | nil => simp [publish]
  | cons c rest ih =>
    simp only [publish]
    split
    case isTrue own =>
      split
      case isTrue same => simp [same]
      case isFalse => simp
    case isFalse apart => simpa [apart] using ih

/-- Conditions of other types stay as they are. -/
theorem find_publish_other {type : ConditionType} (apart : state.type ≠ type) (now : Timestamp)
    (conditions : List Condition) :
    (publish state now conditions).find? (fun c => c.state.type == type) =
      conditions.find? fun c => c.state.type == type := by
  induction conditions with
  | nil => simp [publish, apart]
  | cons c rest ih =>
    simp only [publish]
    split
    case isTrue own =>
      split
      · rfl
      · simp [own, apart]
    case isFalse => simp only [List.find?_cons, ih]

/-- What does not change the conditions leaves them as they are. -/
theorem publish_of_unchanged (unchanged : publishChanges state conditions = false) (now : Timestamp) :
    publish state now conditions = conditions := by
  induction conditions with
  | nil => cases unchanged
  | cons c rest ih =>
    simp only [publishChanges] at unchanged
    simp only [publish]
    split
    case isTrue own =>
      simp only [own, if_true, Bool.not_eq_false', decide_eq_true_eq] at unchanged
      rw [if_pos unchanged]
    case isFalse apart =>
      rw [if_neg apart] at unchanged
      rw [ih unchanged]

/-- A state that has just been published is not changed by being published again. -/
theorem publish_settles (state : ConditionState) (now : Timestamp) (conditions : List Condition) :
    publishChanges state (publish state now conditions) = false := by
  induction conditions with
  | nil => simp [publish, publishChanges]
  | cons c rest ih =>
    simp only [publish]
    split
    case isTrue own =>
      split
      case isTrue same => simp [publishChanges, same]
      case isFalse => simp [publishChanges]
    case isFalse apart => simpa [publishChanges, apart] using ih

/-- Whether a state changes the conditions is not touched by states of other types. -/
theorem publishChanges_publish (apart : state.type ≠ other.type) (now : Timestamp)
    (conditions : List Condition) :
    publishChanges other (publish state now conditions) = publishChanges other conditions := by
  induction conditions with
  | nil => simp [publish, publishChanges, apart]
  | cons c rest ih =>
    simp only [publish]
    split
    case isTrue own =>
      split
      · rfl
      · simp [publishChanges, own, apart]
    case isFalse => simp only [publishChanges, ih]

/-- Conditions on which some states have been published, the latest first, each at some time. -/
inductive Published : List ConditionState → List Condition → List Condition → Prop
  | nil {conditions : List Condition} : Published [] conditions conditions
  | cons {states : List ConditionState} {before after : List Condition} (state : ConditionState)
    (now : Timestamp) (earlier : Published states before after) :
    Published (state :: states) before (publish state now after)

namespace Published

variable {states : List ConditionState} {before after : List Condition}

/-- A condition whose type has not been published stays as it is. -/
theorem find_other {type : ConditionType} (published : Published states before after)
    (apart : ∀ state ∈ states, state.type ≠ type) :
    (after.find? fun c => c.state.type == type) = before.find? fun c => c.state.type == type := by
  induction published with
  | nil => rfl
  | cons state now earlier ih =>
    rw [find_publish_other (apart state List.mem_cons_self)]
    exact ih fun other member => apart other (List.mem_cons_of_mem _ member)

/-- The state published last of a type is the one shown. -/
theorem find_own {later : List ConditionState} (published : Published (later ++ state :: states) before after)
    (apart : ∀ other ∈ later, other.type ≠ state.type) :
    (after.find? fun c => c.state.type == state.type).map Condition.state = some state := by
  induction later generalizing after with
  | nil =>
    cases published with
    | cons _ now earlier => exact find_publish_own state now _
  | cons other later ih =>
    cases published with
    | cons _ now earlier =>
      rw [find_publish_other (apart other List.mem_cons_self)]
      exact ih earlier fun state member => apart state (List.mem_cons_of_mem _ member)

end Published

end CloudKeeper
