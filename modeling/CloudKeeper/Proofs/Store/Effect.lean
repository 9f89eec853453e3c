import CloudKeeper.Store.Basic
/-!
What the operations of a store do, said once for all of them. An operation answers without writing
anything, or it changes the objects in memory, writes the snapshot and, only if the write succeeds,
makes an announcement. Which of the two it does depends on memory alone, never on the file.
-/
namespace CloudKeeper

open Time (Timestamp)

/-- An object without its conditions, which no write is made for. -/
def Declared.bare {S : Type} (o : Declared S) : Declared S := { o with conditions := [] }

/-- An operation of a store, a method of `DesiredStore` that changes it. -/
inductive StoreCall (S : Type)
  | apply (key : Key) (spec : S)
  | requestDeletion (key : Key) (now : Timestamp)
  | setExternalId (key : Key) (id : String)
  | clearExternalId (key : Key)
  | setCondition (key : Key) (now : Timestamp) (state : ConditionState)
  | remove (key : Key)

/-- What an operation does to a store. -/
inductive Effect (S : Type)
  /-- It answers, with these objects in memory and nothing written. -/
  | answer (objects : SortedMap Key (Declared S)) (result : Except StoreError Unit)
  /-- It writes these objects and makes the announcement if there is one; after a failed write the
  others are left in memory. -/
  | commit (objects unwritten : SortedMap Key (Declared S)) (event : Option Event)

namespace StoreCall

variable {S : Type} [Spec S]

/-- The key an operation is about. -/
def key : StoreCall S → Key
  | .apply key _ | .requestDeletion key _ | .setExternalId key _ | .clearExternalId key
  | .setCondition key .. | .remove key => key

/-- Carries out an operation; whether a condition changed is left out of the result. -/
def perform (s : Store S) (write : WriteOutcome) : StoreCall S → Store S × Except StoreError Unit
  | .apply key spec => s.apply write key spec
  | .requestDeletion key now => s.requestDeletion write now key
  | .setExternalId key id => s.setExternalId write key id
  | .clearExternalId key => s.clearExternalId write key
  | .setCondition key now state =>
    ((s.setCondition now key state).1, (s.setCondition now key state).2.map fun _ => ())
  | .remove key => s.remove write key

/-- The store after operations, each with the outcome of its write. -/
def after (s : Store S) (calls : List (StoreCall S × WriteOutcome)) : Store S :=
  calls.foldl (fun s call => (call.1.perform s call.2).1) s

/-- The object that an application leaves in the place of one. -/
def applied (o : Declared S) (spec : S) : Declared S :=
  { o with spec := if Spec.same o.spec spec then o.spec else spec, deletionRequested := none }

/-- What an operation does, as far as the objects in memory decide it. -/
def effect (objects : SortedMap Key (Declared S)) : StoreCall S → Effect S
  | .apply key spec =>
    match objects.get? key with
    | none =>
      let objects := objects.insert key { key, spec }
      .commit objects objects (some ⟨.applied, key⟩)
    | some o =>
      if !Spec.same o.spec spec || o.isDeletionRequested then
        let objects := objects.insert key (applied o spec)
        .commit objects objects (some ⟨.applied, key⟩)
      else .answer objects (.ok ())
  | .requestDeletion key now =>
    match objects.get? key with
    | none => .answer objects (.error (.notFound key))
    | some o =>
      if o.isDeletionRequested then .answer objects (.ok ())
      else
        let objects := objects.insert key { o with deletionRequested := some now }
        .commit objects objects (some ⟨.deletionRequested, key⟩)
  | .setExternalId key id =>
    if id.isEmpty then
      .answer objects (.error (.persist ("refusing to record an empty external ID for " ++ key.text)))
    else
      match objects.get? key with
      | none => .answer objects (.error (.notFound key))
      | some o =>
        match o.externalId with
        | some existing =>
          .answer objects (if existing = id then .ok () else .error (.conflict key existing id))
        | none =>
          let recorded := objects.insert key { o with recordedId := some id }
          .commit recorded (recorded.insert key { o with recordedId := none }) none
  | .clearExternalId key =>
    match objects.get? key with
    | none => .answer objects (.error (.notFound key))
    | some o =>
      if o.recordedId.isSome then
        let objects := objects.insert key { o with recordedId := none }
        .commit objects objects none
      else .answer objects (.ok ())
  | .setCondition key now state =>
    match objects.get? key with
    | none => .answer objects (.error (.notFound key))
    | some o => .answer (objects.insert key (o.withState state now)) (.ok ())
  | .remove key =>
    match objects.get? key with
    | none => .answer objects (.ok ())
    | some _ => .commit (objects.erase key) (objects.erase key) (some ⟨.removed, key⟩)

end StoreCall

namespace Effect

variable {S : Type} [Spec S]

/-- Carries out an effect. -/
def run (s : Store S) (write : WriteOutcome) : Effect S → Store S × Except StoreError Unit
  | .answer objects result => ({ s with objects }, result)
  | .commit objects unwritten event =>
    match { s with objects : Store S }.persist write with
    | (s, .ok ()) => ({ s with sent := event.toList ++ s.sent }, .ok ())
    | (s, .error e) => ({ s with objects := unwritten }, .error e)

/-- What an effect answers when its write, if there is one, succeeds. -/
def verdict : Effect S → Except StoreError Unit
  | .answer _ result => result
  | .commit .. => .ok ()

/-- The objects that an effect leaves in memory when its write, if there is one, succeeds. -/
def kept : Effect S → SortedMap Key (Declared S)
  | .answer objects _ => objects
  | .commit objects _ _ => objects

/-- Whatever an effect leaves in memory has a property, whether or not its write succeeds. -/
def Leaves (property : SortedMap Key (Declared S) → Prop) : Effect S → Prop
  | .answer objects _ => property objects
  | .commit objects unwritten _ => property objects ∧ property unwritten

omit [Spec S] in
theorem Leaves.mono {weak strong : SortedMap Key (Declared S) → Prop} {effect : Effect S}
    (leaves : effect.Leaves strong) (weaker : ∀ objects, strong objects → weak objects) :
    effect.Leaves weak := by
  cases effect with
  | answer objects result => exact weaker objects leaves
  | commit objects unwritten event => exact ⟨weaker objects leaves.1, weaker unwritten leaves.2⟩

/-- Whether an effect writes the snapshot. -/
def writes : Effect S → Bool
  | .answer .. => false
  | .commit .. => true

end Effect

namespace Store

variable {S : Type} [Spec S]

/-- A write touches nothing but the files, whether it succeeds or not, and fails in one way only. -/
theorem persist_cases (s : Store S) (write : WriteOutcome) :
    ∃ files, s.persist write = ({ s with snapshot := files }, .ok ()) ∨
      ∃ why, s.persist write = ({ s with snapshot := files }, .error (.persist why)) := by
  unfold persist
  cases s.snapshot with
  | none => exact ⟨s.snapshot, .inl rfl⟩
  | some snapshot =>
    cases write with
    | written => exact ⟨_, .inl rfl⟩
    | temporaryFailed why => exact ⟨_, .inr ⟨_, rfl⟩⟩
    | replaceFailed why => exact ⟨_, .inr ⟨_, rfl⟩⟩

/-- A write that nothing hinders succeeds, with a file or without. -/
theorem persist_written (s : Store S) :
    ∃ files, s.persist .written = ({ s with snapshot := files }, .ok ()) := by
  unfold persist
  cases s.snapshot with
  | none => exact ⟨s.snapshot, rfl⟩
  | some snapshot => exact ⟨_, rfl⟩

private theorem persistAndAnnounce_eq (s : Store S) (write : WriteOutcome) (change : Change)
    (key : Key) :
    s.persistAndAnnounce write change key =
      (Effect.commit s.objects s.objects (some ⟨change, key⟩)).run s write := by
  simp only [persistAndAnnounce, Effect.run]
  obtain ⟨files, done | ⟨e, failed⟩⟩ := s.persist_cases write
  · rw [done]
    rfl
  · rw [failed]

end Store

namespace StoreCall

variable {S : Type} [Spec S]

/-- Every operation carries out its effect. -/
theorem perform_eq (c : StoreCall S) (s : Store S) (write : WriteOutcome) :
    c.perform s write = (c.effect s.objects).run s write := by
  cases c with
  | apply key spec =>
    simp only [perform, Store.apply, effect, Store.get?]
    cases s.objects.get? key with
    | none => exact Store.persistAndAnnounce_eq ..
    | some o =>
      by_cases changes : (!Spec.same o.spec spec || o.isDeletionRequested) = true
      · simp only [changes, ↓reduceIte, Store.persistAndAnnounce_eq, applied]
        cases Spec.same o.spec spec <;> rfl
      · simp only [if_neg changes, Effect.run]
  | requestDeletion key now =>
    simp only [perform, Store.requestDeletion, effect, Store.get?]
    cases s.objects.get? key with
    | none => rfl
    | some o =>
      by_cases requested : o.isDeletionRequested = true
      · simp only [requested, ↓reduceIte, Effect.run]
      · simp only [if_neg requested, Store.persistAndAnnounce_eq]
        rfl
  | setExternalId key id =>
    simp only [perform, Store.setExternalId, effect, Store.get?]
    by_cases empty : id.isEmpty = true
    · simp only [empty, ↓reduceIte, Effect.run]
    · simp only [if_neg empty]
      cases s.objects.get? key with
      | none => rfl
      | some o =>
        dsimp only
        cases o.externalId with
        | some existing =>
          simp only [Effect.run]
          split <;> rfl
        | none =>
          simp only [Effect.run, Store.put]
          obtain ⟨files, done | ⟨e, failed⟩⟩ := Store.persist_cases { s with
            objects := s.objects.insert key { o with recordedId := some id } } write
          · rw [done]
            rfl
          · rw [failed]
  | clearExternalId key =>
    simp only [perform, Store.clearExternalId, effect, Store.get?]
    cases s.objects.get? key with
    | none => rfl
    | some o =>
      by_cases recorded : o.recordedId.isSome = true
      · simp only [recorded, ↓reduceIte, Effect.run, Store.put]
        obtain ⟨files, done | ⟨e, failed⟩⟩ := Store.persist_cases { s with
          objects := s.objects.insert key { o with recordedId := none } } write
        · rw [done]
          rfl
        · rw [failed]
      · simp only [if_neg recorded, Effect.run]
  | setCondition key now state =>
    simp only [perform, Store.setCondition, effect, Store.get?]
    cases s.objects.get? key <;> rfl
  | remove key =>
    simp only [perform, Store.remove, effect, Store.get?]
    cases s.objects.get? key with
    | none => rfl
    | some o => exact Store.persistAndAnnounce_eq ..

/-- An operation leaves in memory what its effect does; a write that fails is a failure to persist. -/
theorem perform_cases (c : StoreCall S) (s : Store S) (write : WriteOutcome) :
    match c.effect s.objects with
    | .answer objects result => c.perform s write = ({ s with objects }, result)
    | .commit objects unwritten event => ∃ files,
      c.perform s write = ({ objects, sent := event.toList ++ s.sent, snapshot := files }, .ok ()) ∨
        ∃ why, c.perform s write =
          ({ s with objects := unwritten, snapshot := files }, .error (.persist why)) := by
  rw [perform_eq]
  cases c.effect s.objects with
  | answer objects result => rfl
  | commit objects unwritten event =>
    obtain ⟨files, written | ⟨why, failed⟩⟩ := Store.persist_cases { s with objects } write
    · refine ⟨files, .inl ?_⟩
      rw [Effect.run, written]
    · refine ⟨files, .inr ⟨why, ?_⟩⟩
      rw [Effect.run, failed]

/-- An operation whose write succeeds answers what memory decides. -/
theorem perform_written (c : StoreCall S) (s : Store S) :
    (c.perform s .written).2 = (c.effect s.objects).verdict := by
  rw [perform_eq]
  cases c.effect s.objects with
  | answer objects result => rfl
  | commit objects unwritten event =>
    obtain ⟨files, written⟩ := Store.persist_written { s with objects }
    rw [Effect.run, written]
    rfl

/-- An operation whose write succeeds leaves in memory what its effect does. -/
theorem perform_kept (c : StoreCall S) (s : Store S) :
    (c.perform s .written).1.objects = (c.effect s.objects).kept := by
  rw [perform_eq]
  cases c.effect s.objects with
  | answer objects result => rfl
  | commit objects unwritten event =>
    obtain ⟨files, written⟩ := Store.persist_written { s with objects }
    rw [Effect.run, written]
    rfl

/-- What every effect of an operation leaves in memory, the operation leaves in the store. -/
theorem perform_leaves {property : SortedMap Key (Declared S) → Prop} {c : StoreCall S} {s : Store S}
    (leaves : (c.effect s.objects).Leaves property) (write : WriteOutcome) :
    property (c.perform s write).1.objects := by
  have performed := perform_cases c s write
  cases does : c.effect s.objects with
  | answer objects result =>
    rw [does] at performed leaves
    rw [performed]
    exact leaves
  | commit objects unwritten event =>
    rw [does] at performed leaves
    obtain ⟨files, written | ⟨why, failed⟩⟩ := performed
    · rw [written]
      exact leaves.1
    · rw [failed]
      exact leaves.2

/-- What an operation can put under its key: an object with the key and the parameters that stand there,
unless the operation is an application. -/
structure Puts (c : StoreCall S) (objects : SortedMap Key (Declared S)) (o : Declared S) : Prop where
  key : o.key = c.key ∨ ∃ before, objects.get? c.key = some before ∧ o.key = before.key
  spec : c = .apply c.key o.spec ∨ ∃ before, objects.get? c.key = some before ∧ o.spec = before.spec

omit [Spec S] in
private theorem Puts.of_same {c : StoreCall S} {objects : SortedMap Key (Declared S)}
    {before o : Declared S} (found : objects.get? c.key = some before) (key : o.key = before.key)
    (spec : o.spec = before.spec) : c.Puts objects o :=
  ⟨.inr ⟨before, found, key⟩, .inr ⟨before, found, spec⟩⟩

private theorem puts_applied {objects : SortedMap Key (Declared S)} {key : Key} {o : Declared S}
    (found : objects.get? key = some o) (spec : S) :
    (StoreCall.apply key spec).Puts objects (applied o spec) := by
  refine ⟨.inr ⟨o, found, rfl⟩, ?_⟩
  by_cases same : Spec.same o.spec spec = true
  · exact .inr ⟨o, found, if_pos same⟩
  · exact .inl (congrArg (StoreCall.apply key) (if_neg same).symm)

/-- What is kept by putting the objects in that an operation puts under its key, and by taking its object
out, is left in memory by the operation. -/
theorem effect_leaves {objects : SortedMap Key (Declared S)}
    {property : SortedMap Key (Declared S) → Prop} (c : StoreCall S) (kept : property objects)
    (put : ∀ changed o, property changed → c.Puts objects o → property (changed.insert c.key o))
    (taken : property (objects.erase c.key)) : (c.effect objects).Leaves property := by
  cases c with
  | apply key spec =>
    simp only [effect]
    cases found : objects.get? key with
    | none =>
      have fresh : (StoreCall.apply key spec).Puts objects { key, spec } := ⟨.inl rfl, .inl rfl⟩
      exact ⟨put _ _ kept fresh, put _ _ kept fresh⟩
    | some o =>
      by_cases changes : (!Spec.same o.spec spec || o.isDeletionRequested) = true
      · simp only [changes, ↓reduceIte]
        exact ⟨put _ _ kept (puts_applied found spec), put _ _ kept (puts_applied found spec)⟩
      · simp only [if_neg changes]
        exact kept
  | requestDeletion key now =>
    simp only [effect]
    cases found : objects.get? key with
    | none => exact kept
    | some o =>
      by_cases requested : o.isDeletionRequested = true
      · simp only [requested, ↓reduceIte]
        exact kept
      · simp only [if_neg requested]
        exact ⟨put _ _ kept (.of_same found rfl rfl), put _ _ kept (.of_same found rfl rfl)⟩
  | setExternalId key id =>
    simp only [effect]
    by_cases empty : id.isEmpty = true
    · simp only [empty, ↓reduceIte]
      exact kept
    · simp only [if_neg empty]
      cases found : objects.get? key with
      | none => exact kept
      | some o =>
        dsimp only
        cases o.externalId with
        | some existing => exact kept
        | none =>
          have recorded := put _ { o with recordedId := some id } kept (.of_same found rfl rfl)
          exact ⟨recorded, put _ { o with recordedId := none } recorded (.of_same found rfl rfl)⟩
  | clearExternalId key =>
    simp only [effect]
    cases found : objects.get? key with
    | none => exact kept
    | some o =>
      by_cases recorded : o.recordedId.isSome = true
      · simp only [recorded, ↓reduceIte]
        exact ⟨put _ _ kept (.of_same found rfl rfl), put _ _ kept (.of_same found rfl rfl)⟩
      · simp only [if_neg recorded]
        exact kept
  | setCondition key now state =>
    simp only [effect]
    cases found : objects.get? key with
    | none => exact kept
    | some o => exact put _ _ kept (.of_same found rfl rfl)
  | remove key =>
    simp only [effect]
    cases objects.get? key with
    | none => exact kept
    | some o => exact ⟨taken, taken⟩

/-- What is true of all parameters that are stored and declared for a key stays true of those that are
stored. -/
theorem effect_specs {objects : SortedMap Key (Declared S)} {key : Key} {property : S → Prop}
    (c : StoreCall S) (stored : ∀ o, objects.get? key = some o → property o.spec)
    (declared : ∀ spec, c = .apply key spec → property spec) :
    (c.effect objects).Leaves fun after => ∀ o, after.get? key = some o → property o.spec := by
  refine effect_leaves c stored (fun changed o kept puts other found => ?_) fun o found => ?_
  · rw [SortedMap.get?_insert] at found
    split at found
    case isTrue own =>
      cases found
      rcases puts.spec with applies | ⟨before, stands, same⟩
      · exact declared _ (applies.trans (congrArg (StoreCall.apply · o.spec) own.symm))
      · rw [same]
        exact stored before (own ▸ stands)
    case isFalse => exact kept other found
  · rw [SortedMap.get?_erase] at found
    split at found
    · cases found
    · exact stored o found

/-- An operation touches no object but that of its key. -/
theorem effect_frame (c : StoreCall S) (objects : SortedMap Key (Declared S)) {other : Key}
    (apart : other ≠ c.key) :
    (c.effect objects).Leaves fun after => after.get? other = objects.get? other := by
  refine effect_leaves c rfl (fun changed o kept _ => ?_) ?_
  · rw [SortedMap.get?_insert, if_neg apart]
    exact kept
  · rw [SortedMap.get?_erase, if_neg apart]

/-- Removing an object leaves none, whether or not the write succeeds. -/
theorem effect_removes (objects : SortedMap Key (Declared S)) (key : Key) :
    ((remove key).effect objects).Leaves fun after => after.get? key = none := by
  simp only [effect]
  cases found : objects.get? key with
  | none => exact found
  | some o =>
    have erased : (objects.erase key).get? key = none := by rw [SortedMap.get?_erase, if_pos rfl]
    exact ⟨erased, erased⟩

/-- An operation that does not write changes nothing but conditions. -/
theorem answer_keeps_bare {c : StoreCall S} {objects answered : SortedMap Key (Declared S)}
    {result : Except StoreError Unit} (answers : c.effect objects = .answer answered result)
    (key : Key) : (answered.get? key).map Declared.bare = (objects.get? key).map Declared.bare := by
  cases c with
  | setCondition own now state =>
    simp only [effect] at answers
    split at answers
    · cases answers
      rfl
    case h_2 o found =>
      cases answers
      rw [SortedMap.get?_insert]
      split
      case isTrue same =>
        rw [same, found]
        rfl
      case isFalse => rfl
  | apply own spec =>
    simp only [effect] at answers
    split at answers
    · cases answers
    · split at answers <;> cases answers
      rfl
  | requestDeletion own now =>
    simp only [effect] at answers
    split at answers
    · cases answers
      rfl
    · split at answers <;> cases answers
      rfl
  | setExternalId own id =>
    simp only [effect] at answers
    split at answers
    · cases answers
      rfl
    · split at answers
      · cases answers
        rfl
      · split at answers <;> cases answers
        rfl
  | clearExternalId own =>
    simp only [effect] at answers
    split at answers
    · cases answers
      rfl
    · split at answers <;> cases answers
      rfl
  | remove own =>
    simp only [effect] at answers
    split at answers <;> cases answers
    rfl

end StoreCall

end CloudKeeper
