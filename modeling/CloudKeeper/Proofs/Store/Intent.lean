import CloudKeeper.Proofs.Store.Effect
/-!
What the author wants of an object, as far as the store knows. While writes succeed, nothing changes it
without an announcement, and the latest announcement of an object tells whether there is one.
-/
namespace CloudKeeper

variable {S : Type}

/-- What the author wants of an object: its parameters, and whether it is to be deleted. -/
def Declared.intent (o : Declared S) : S × Bool := (o.spec, o.isDeletionRequested)

/-- What the author wants of the object of a key, if there is one. -/
def SortedMap.intent? (objects : SortedMap Key (Declared S)) (key : Key) : Option (S × Bool) :=
  (objects.get? key).map Declared.intent

namespace SortedMap

variable {before after : SortedMap Key (Declared S)} {key other : Key}

theorem intent_insert (objects : SortedMap Key (Declared S)) (key : Key) (o : Declared S) :
    (objects.insert key o).intent? key = some o.intent := by
  rw [intent?, get?_insert, if_pos rfl]
  rfl

theorem intent_of_get (same : after.get? key = before.get? key) :
    after.intent? key = before.intent? key := by
  rw [intent?, same, intent?]

theorem intent_of_bare (same : (after.get? key).map Declared.bare = (before.get? key).map Declared.bare) :
    after.intent? key = before.intent? key := by
  have intents := congrArg (Option.map Declared.intent) same
  rw [Option.map_map, Option.map_map] at intents
  exact intents

/-- Putting an object in the place of one of which the author wants the same changes nothing. -/
private theorem intent_kept {o changed : Declared S} (found : before.get? key = some o)
    (same : changed.intent = o.intent) :
    (before.insert key changed).intent? other = before.intent? other := by
  rw [intent?, get?_insert, intent?]
  by_cases own : other = key
  · rw [if_pos own, own, found, Option.map_some, Option.map_some, same]
  · rw [if_neg own]

end SortedMap

/-- What is done about a key changes no wish without an announcement of that key, and after the
announcement of a removal there is no object. -/
def Store.Tells (before : Store S) (key : Key) (after : Store S) : Prop :=
  (after.sent = before.sent ∧ ∀ other, after.objects.intent? other = before.objects.intent? other) ∨
    ∃ event, event.key = key ∧ after.sent = event :: before.sent ∧
      (∀ other, other ≠ key → after.objects.intent? other = before.objects.intent? other) ∧
      (event.change = .removed → after.objects.intent? key = none)

namespace StoreCall

variable [Spec S]

/-- Whether an operation only records what the engine knows about an object. -/
def SparesWishes : StoreCall S → Prop
  | .setExternalId .. | .clearExternalId _ | .setCondition .. => True
  | .apply .. | .requestDeletion .. | .remove _ => False

private theorem effect_spares_wishes {c : StoreCall S} (spares : c.SparesWishes)
    (objects : SortedMap Key (Declared S)) (key : Key) :
    (c.effect objects).Leaves fun after => after.intent? key = objects.intent? key := by
  cases c with
  | setExternalId own id =>
    simp only [effect]
    split
    · exact rfl
    · split
      · exact rfl
      next o found =>
        split
        · exact rfl
        · let recorded := objects.insert own { o with recordedId := some id }
          have kept : recorded.intent? key = objects.intent? key := SortedMap.intent_kept found rfl
          have again : recorded.get? own = some { o with recordedId := some id } :=
            (SortedMap.get?_insert ..).trans (if_pos rfl)
          have unwritten : (recorded.insert own { o with recordedId := none }).intent? key =
            recorded.intent? key := SortedMap.intent_kept again rfl
          exact ⟨kept, unwritten.trans kept⟩
  | clearExternalId own =>
    simp only [effect]
    split
    · exact rfl
    next o found =>
      split
      · exact ⟨SortedMap.intent_kept found rfl, SortedMap.intent_kept found rfl⟩
      · exact rfl
  | setCondition own now state =>
    simp only [effect]
    split
    · exact rfl
    next o found => exact SortedMap.intent_kept found rfl
  | apply => exact spares.elim
  | requestDeletion => exact spares.elim
  | remove => exact spares.elim

/-- Identifiers and published states leave the wishes of authors alone, however the write turns out. -/
theorem perform_spares_wishes {c : StoreCall S} (spares : c.SparesWishes) (s : Store S)
    (write : WriteOutcome) (key : Key) :
    (c.perform s write).1.objects.intent? key = s.objects.intent? key :=
  perform_leaves (effect_spares_wishes spares s.objects key) write

/-- What is written without an announcement leaves the author's wish alone, and an announcement is about
the key of its operation. -/
private theorem commit_tells {c : StoreCall S} {objects changed unwritten : SortedMap Key (Declared S)}
    {event : Option Event} (commits : c.effect objects = .commit changed unwritten event) :
    match event with
    | none => ∀ key, changed.intent? key = objects.intent? key
    | some event => event.key = c.key ∧ (event.change = .removed → changed.intent? c.key = none) := by
  cases c with
  | apply key spec =>
    simp only [effect] at commits
    split at commits
    · cases commits
      refine ⟨rfl, fun removed => ?_⟩
      cases removed
    · split at commits <;> cases commits
      refine ⟨rfl, fun removed => ?_⟩
      cases removed
  | requestDeletion key now =>
    simp only [effect] at commits
    split at commits
    · cases commits
    · split at commits <;> cases commits
      refine ⟨rfl, fun removed => ?_⟩
      cases removed
  | setExternalId key id =>
    simp only [effect] at commits
    split at commits
    · cases commits
    · split at commits
      · cases commits
      case h_2 o found =>
        split at commits <;> cases commits
        exact fun other => SortedMap.intent_kept found rfl
  | clearExternalId key =>
    simp only [effect] at commits
    split at commits
    · cases commits
    case h_2 o found =>
      split at commits <;> cases commits
      exact fun other => SortedMap.intent_kept found rfl
  | setCondition key now state =>
    simp only [effect] at commits
    split at commits <;> cases commits
  | remove key =>
    simp only [effect] at commits
    split at commits <;> cases commits
    refine ⟨rfl, fun _ => ?_⟩
    rw [StoreCall.key, SortedMap.intent?, SortedMap.get?_erase, if_pos rfl, Option.map_none]

/-- Every operation whose write succeeds tells what it does. -/
theorem perform_tells (c : StoreCall S) (s : Store S) : s.Tells c.key (c.perform s .written).1 := by
  have others : ∀ other, other ≠ c.key →
      (c.perform s .written).1.objects.intent? other = s.objects.intent? other :=
    fun other apart => SortedMap.intent_of_get (perform_leaves (effect_frame c s.objects apart) .written)
  have performed := perform_eq c s .written
  cases does : c.effect s.objects with
  | answer answered result =>
    rw [does] at performed
    rw [performed]
    exact .inl ⟨rfl, fun key => SortedMap.intent_of_bare (answer_keeps_bare does key)⟩
  | commit changed unwritten event =>
    obtain ⟨files, written⟩ := Store.persist_written { s with objects := changed }
    rw [does, Effect.run, written] at performed
    have tells := commit_tells does
    rw [performed] at others ⊢
    cases event with
    | none => exact .inl ⟨rfl, tells⟩
    | some event => exact .inr ⟨event, tells.1, rfl, others, tells.2⟩

end StoreCall

end CloudKeeper
