import CloudKeeper.Proofs.Store.Effect
/-!
What the operations of a store do to the identifier that is recorded on an object. Only recording puts
one there, only taking it back and removing the object make it disappear, and a write that fails leaves
none that was not there before.
-/
namespace CloudKeeper

/-- The identifier recorded on the object of a key. -/
def SortedMap.recordedId? {S : Type} (objects : SortedMap Key (Declared S)) (key : Key) :
    Option String :=
  (objects.get? key).bind Declared.externalId

namespace SortedMap

variable {S : Type} {objects : SortedMap Key (Declared S)} {key : Key}

theorem recordedId_insert (o : Declared S) :
    (objects.insert key o).recordedId? key = o.externalId := by
  rw [recordedId?, get?_insert, if_pos rfl, Option.bind_some]

theorem recordedId_of_get {o : Option (Declared S)} (found : objects.get? key = o) :
    objects.recordedId? key = o.bind Declared.externalId := by
  rw [recordedId?, found]

theorem recordedId_kept {o : Option (Declared S)} {changed : Declared S}
    (found : objects.get? key = o) (same : changed.externalId = o.bind Declared.externalId) :
    (objects.insert key changed).recordedId? key = objects.recordedId? key := by
  rw [recordedId_insert, recordedId_of_get found, same]

/-- An empty text counts as no identifier. -/
theorem recordedId_ne_empty (objects : SortedMap Key (Declared S)) (key : Key) :
    objects.recordedId? key ≠ some "" := by
  intro records
  obtain ⟨o, -, recorded⟩ := Option.bind_eq_some_iff.1 records
  cases (Option.filter_eq_some_iff.1 recorded).2

theorem recordedId_of_bare {before after : SortedMap Key (Declared S)}
    (same : (after.get? key).map Declared.bare = (before.get? key).map Declared.bare) :
    after.recordedId? key = before.recordedId? key := by
  have identifiers := congrArg (Option.bind · Declared.externalId) same
  rw [Option.bind_map, Option.bind_map] at identifiers
  exact identifiers

end SortedMap

namespace StoreCall

variable {S : Type} [Spec S]

omit [Spec S] in
theorem externalId_recorded {o : Declared S} {id : String} (given : ¬id.isEmpty = true) :
    { o with recordedId := some id : Declared S }.externalId = some id := by
  rw [Declared.externalId, Option.filter_some, if_pos]
  rw [Bool.not_eq_true] at given
  rw [given]
  rfl

/-- Recording an identifier records it, finds it recorded, is refused because of another one, or leaves
things as they are. -/
theorem setExternalId_recorded (s : Store S) (write : WriteOutcome) (key : Key) (id : String) :
    match s.setExternalId write key id with
    | (after, .ok ()) => after.objects.recordedId? key = some id
    | (after, .error (.conflict _ existing _)) =>
      after.objects.recordedId? key = s.objects.recordedId? key ∧
        s.objects.recordedId? key = some existing ∧ existing ≠ id
    | (after, .error _) => after.objects.recordedId? key = s.objects.recordedId? key := by
  have performed := perform_cases (.setExternalId key id) s write
  generalize performs : s.setExternalId write key id = outcome
  change StoreCall.perform s write (.setExternalId key id) = outcome at performs
  rw [performs] at performed
  simp only [effect] at performed
  by_cases empty : id.isEmpty = true
  · simp only [empty, ↓reduceIte] at performed
    subst performed
    rfl
  · simp only [if_neg empty] at performed
    cases found : s.objects.get? key with
    | none =>
      rw [found] at performed
      subst performed
      rfl
    | some o =>
      have before : s.objects.recordedId? key = o.externalId := SortedMap.recordedId_of_get found
      simp only [found] at performed
      cases recorded : o.externalId with
      | some existing =>
        rw [recorded] at before
        simp only [recorded] at performed
        subst performed
        by_cases same : existing = id
        · subst same
          simp only [↓reduceIte]
          exact before
        · rw [if_neg same]
          exact ⟨rfl, before, same⟩
      | none =>
        rw [recorded] at before
        simp only [recorded] at performed
        obtain ⟨files, written | ⟨why, failed⟩⟩ := performed
        · subst written
          exact (SortedMap.recordedId_insert _).trans (externalId_recorded empty)
        · subst failed
          exact (SortedMap.recordedId_insert _).trans before.symm

/-- Taking an identifier back leaves none recorded, even if the write fails. -/
theorem effect_clears (objects : SortedMap Key (Declared S)) (key : Key) :
    ((clearExternalId key).effect objects).Leaves fun after => after.recordedId? key = none := by
  simp only [effect]
  cases found : objects.get? key with
  | none => exact SortedMap.recordedId_of_get found
  | some o =>
    by_cases recorded : o.recordedId.isSome = true
    · simp only [recorded, ↓reduceIte]
      exact ⟨SortedMap.recordedId_insert _, SortedMap.recordedId_insert _⟩
    · simp only [if_neg recorded]
      refine (SortedMap.recordedId_of_get found).trans ?_
      rw [Option.bind_some, Declared.externalId, Option.not_isSome_iff_eq_none.1 recorded]
      rfl

/-- Whether an operation is one of an author, or publishes a state. -/
def SparesIds : StoreCall S → Prop
  | .apply .. | .requestDeletion .. | .setCondition .. => True
  | .setExternalId .. | .clearExternalId _ | .remove _ => False

/-- Authors and published states leave the recorded identifier alone. -/
theorem effect_spares (objects : SortedMap Key (Declared S)) {c : StoreCall S}
    (spares : c.SparesIds) :
    (c.effect objects).Leaves fun after => after.recordedId? c.key = objects.recordedId? c.key := by
  cases c with
  | apply key spec =>
    simp only [effect]
    cases found : objects.get? key with
    | none => exact ⟨SortedMap.recordedId_kept found rfl, SortedMap.recordedId_kept found rfl⟩
    | some o =>
      by_cases changes : (!Spec.same o.spec spec || o.isDeletionRequested) = true
      · simp only [changes, ↓reduceIte]
        exact ⟨SortedMap.recordedId_kept found rfl, SortedMap.recordedId_kept found rfl⟩
      · simp only [if_neg changes]
        rfl
  | requestDeletion key now =>
    simp only [effect]
    cases found : objects.get? key with
    | none => rfl
    | some o =>
      by_cases requested : o.isDeletionRequested = true
      · simp only [requested, ↓reduceIte]
        rfl
      · simp only [if_neg requested]
        exact ⟨SortedMap.recordedId_kept found rfl, SortedMap.recordedId_kept found rfl⟩
  | setCondition key now state =>
    simp only [effect]
    cases found : objects.get? key with
    | none => rfl
    | some o => exact SortedMap.recordedId_kept found rfl
  | setExternalId key id => exact spares.elim
  | clearExternalId key => exact spares.elim
  | remove key => exact spares.elim

/-- Authors and published states leave every recorded identifier alone. -/
theorem perform_spares {c : StoreCall S} (spares : c.SparesIds) (s : Store S) (write : WriteOutcome)
    (key : Key) : (c.perform s write).1.objects.recordedId? key = s.objects.recordedId? key := by
  by_cases own : key = c.key
  · subst own
    exact perform_leaves (effect_spares s.objects spares) write
  · have kept := perform_leaves (effect_frame c s.objects own) write
    rw [SortedMap.recordedId?, kept, SortedMap.recordedId?]

/-- An identifier stays recorded until it is taken back or its object is removed; no operation puts another
one in its place. -/
theorem effect_keeps_recorded {objects : SortedMap Key (Declared S)} {key : Key} {id : String}
    (c : StoreCall S) (recorded : objects.recordedId? key = some id) :
    (c.effect objects).Leaves fun after => after.recordedId? key = some id ∨
      ((c = .clearExternalId key ∨ c = .remove key) ∧ after.recordedId? key = none) := by
  by_cases own : key = c.key
  · subst own
    have spared (spares : c.SparesIds) : (c.effect objects).Leaves fun after =>
        after.recordedId? c.key = some id ∨
          ((c = .clearExternalId c.key ∨ c = .remove c.key) ∧ after.recordedId? c.key = none) :=
      (effect_spares objects spares).mono fun after same => .inl (same.trans recorded)
    cases c with
    | apply key spec => exact spared trivial
    | requestDeletion key now => exact spared trivial
    | setCondition key now state => exact spared trivial
    | clearExternalId key =>
      exact (effect_clears objects key).mono fun after cleared => .inr ⟨.inl rfl, cleared⟩
    | remove key =>
      refine (effect_removes objects key).mono fun after removed => .inr ⟨.inr rfl, ?_⟩
      exact SortedMap.recordedId_of_get removed
    | setExternalId key other =>
      simp only [effect]
      split
      · exact .inl recorded
      · split
        · exact .inl recorded
        next o found =>
          have existing := (SortedMap.recordedId_of_get found).symm.trans recorded
          rw [Option.bind_some] at existing
          rw [existing]
          exact .inl recorded
  · refine (effect_frame c objects own).mono fun after same => .inl ?_
    rw [SortedMap.recordedId?, same]
    exact recorded

/-- What is recorded after a write that failed was recorded before it. -/
theorem unwritten_recorded {c : StoreCall S} {objects changed unwritten : SortedMap Key (Declared S)}
    {event : Option Event} {key : Key} {id : String}
    (commits : c.effect objects = .commit changed unwritten event)
    (recorded : unwritten.recordedId? key = some id) : objects.recordedId? key = some id := by
  by_cases own : key = c.key
  · subst own
    have spared (spares : c.SparesIds) : objects.recordedId? c.key = some id := by
      have leaves := effect_spares objects spares
      rw [commits] at leaves
      exact leaves.2.symm.trans recorded
    have bare (none_ : unwritten.recordedId? c.key = none) : objects.recordedId? c.key = some id :=
      nomatch none_.symm.trans recorded
    cases c with
    | apply key spec => exact spared trivial
    | requestDeletion key now => exact spared trivial
    | setCondition key now state => exact spared trivial
    | clearExternalId key =>
      have leaves := effect_clears objects key
      rw [commits] at leaves
      exact bare leaves.2
    | remove key =>
      have leaves := effect_removes objects key
      rw [commits] at leaves
      exact bare (SortedMap.recordedId_of_get leaves.2)
    | setExternalId key other =>
      simp only [effect] at commits
      split at commits
      · cases commits
      · split at commits
        · cases commits
        · split at commits <;> cases commits
          exact bare (SortedMap.recordedId_insert _)
  · have leaves := effect_frame c objects own
    rw [commits] at leaves
    rw [← recorded, SortedMap.recordedId?, SortedMap.recordedId?, leaves.2]

end StoreCall

end CloudKeeper
