import CloudKeeper.Proofs.SortedMap
import CloudKeeper.Proofs.Store.Effect
/-!
Stores that look the same. A view leaves something out of an object, but nothing that an operation goes by,
and objects that look the same still do when the same is changed about them. So an operation does to the one
store what it does to the other, and they look the same afterwards, in memory and in their files. Taking an
identifier back is the exception: it goes by what is recorded, empty or not, which a view may leave out. It is
treated alike where the recorded identifiers are known to be the very same.
-/
namespace CloudKeeper

open Time (Timestamp)

/-- What is seen of an object: at least all that decides what becomes of it. -/
structure View (S : Type) where
  of : Declared S → Declared S
  spec_eq {o o' : Declared S} : of o = of o' → o.spec = o'.spec
  externalId_eq {o o' : Declared S} : of o = of o' → o.externalId = o'.externalId
  requested_eq {o o' : Declared S} : of o = of o' → o.isDeletionRequested = o'.isDeletionRequested
  wanting {o o' : Declared S} (same : of o = of o') (spec : S) (deletionRequested : Option Timestamp) :
    of { o with spec, deletionRequested } = of { o' with spec, deletionRequested }
  recording {o o' : Declared S} (same : of o = of o') (recordedId : Option String) :
    of { o with recordedId } = of { o' with recordedId }
  stating {o o' : Declared S} (same : of o = of o') (state : ConditionState) (now : Timestamp) :
    of (o.withState state now) = of (o'.withState state now)

variable {S : Type} {view : View S} {settled : Key → Prop}

/-- Objects that look the same have the very same identifier recorded. -/
def View.Records (view : View S) : Prop :=
  ∀ ⦃o o' : Declared S⦄, view.of o = view.of o' → o.recordedId = o'.recordedId

/-- Objects that look the same; those of settled keys have the very same identifier recorded. -/
structure SortedMap.SameBy (view : View S) (settled : Key → Prop)
    (objects objects' : SortedMap Key (Declared S)) : Prop where
  seen : objects.map view.of = objects'.map view.of
  recorded : ∀ key, settled key →
    (objects.get? key).map Declared.recordedId = (objects'.get? key).map Declared.recordedId

namespace SortedMap.SameBy

variable {objects objects' : SortedMap Key (Declared S)}

/-- A key has no object in either, or two that look the same. -/
theorem cases (same : objects.SameBy view settled objects') (key : Key) :
    (objects.get? key = none ∧ objects'.get? key = none) ∨
      ∃ o o', objects.get? key = some o ∧ objects'.get? key = some o' ∧ view.of o = view.of o' ∧
        (settled key → o.recordedId = o'.recordedId) := by
  have seen : (objects.get? key).map view.of = (objects'.get? key).map view.of := by
    rw [← get?_map, ← get?_map, same.seen]
  cases found : objects.get? key with
  | none =>
    rw [found] at seen
    exact .inl ⟨rfl, Option.map_eq_none_iff.1 seen.symm⟩
  | some o =>
    rw [found] at seen
    obtain ⟨o', found', looks⟩ := Option.map_eq_some_iff.1 seen.symm
    refine .inr ⟨o, o', rfl, found', looks.symm, fun known => ?_⟩
    have recorded := same.recorded key known
    rw [found, found'] at recorded
    exact Option.some.inj recorded

theorem insert (same : objects.SameBy view settled objects') (key : Key) {o o' : Declared S}
    (looks : view.of o = view.of o') (recorded : settled key → o.recordedId = o'.recordedId) :
    (objects.insert key o).SameBy view settled (objects'.insert key o') where
  seen := by rw [map_insert, map_insert, same.seen, looks]
  recorded other known := by
    rw [get?_insert, get?_insert]
    by_cases own : other = key
    · subst own
      rw [if_pos rfl, if_pos rfl]
      exact congrArg some (recorded known)
    · rw [if_neg own, if_neg own]
      exact same.recorded other known

theorem erase (same : objects.SameBy view settled objects') (key : Key) :
    (objects.erase key).SameBy view settled (objects'.erase key) where
  seen := by rw [map_erase, map_erase, same.seen]
  recorded other known := by
    rw [get?_erase, get?_erase]
    split
    · rfl
    · exact same.recorded other known

theorem settle {more : Key → Prop} (same : objects.SameBy view settled objects')
    (known : ∀ key, more key → settled key ∨ view.Records) : objects.SameBy view more objects' := by
  refine ⟨same.seen, fun key member => ?_⟩
  rcases known key member with own | records
  · exact same.recorded key own
  · rcases same.cases key with ⟨found, found'⟩ | ⟨o, o', found, found', looks, -⟩
    · rw [found, found']
    · rw [found, found']
      exact congrArg some (records looks)

end SortedMap.SameBy

/-! ## What an operation does -/

/-- Effects that look the same. -/
inductive Effect.SameBy (view : View S) (settled : Key → Prop) : Effect S → Effect S → Prop
  | answer {objects objects' : SortedMap Key (Declared S)} (result : Except StoreError Unit)
      (same : objects.SameBy view settled objects') :
      SameBy view settled (.answer objects result) (.answer objects' result)
  | commit {objects objects' unwritten unwritten' : SortedMap Key (Declared S)} (event : Option Event)
      (same : objects.SameBy view settled objects') (left : unwritten.SameBy view settled unwritten') :
      SameBy view settled (.commit objects unwritten event) (.commit objects' unwritten' event)

theorem Effect.SameBy.ite {p : Prop} [Decidable p] {yes yes' no no' : Effect S}
    (then_ : yes.SameBy view settled yes') (else_ : no.SameBy view settled no') :
    (if p then yes else no).SameBy view settled (if p then yes' else no') := by
  split
  · exact then_
  · exact else_

variable [Spec S]

/-- An operation has the same effect on objects that look the same. -/
theorem StoreCall.effect_sameBy {objects objects' : SortedMap Key (Declared S)}
    (same : objects.SameBy view settled objects') (call : StoreCall S)
    (clears : ∀ key, call = .clearExternalId key → settled key) :
    (call.effect objects).SameBy view settled (call.effect objects') := by
  cases call with
  | apply key spec =>
    rcases same.cases key with ⟨found, found'⟩ | ⟨o, o', found, found', looks, recorded⟩
    · simp only [effect, found, found']
      have put := same.insert key (o := { key, spec }) rfl fun _ => rfl
      exact .commit _ put put
    · simp only [effect, found, found', applied, view.spec_eq looks, view.requested_eq looks]
      have put := same.insert key (view.wanting looks (if Spec.same o'.spec spec then o'.spec else spec) none)
        recorded
      exact .ite (.commit _ put put) (.answer _ same)
  | requestDeletion key now =>
    rcases same.cases key with ⟨found, found'⟩ | ⟨o, o', found, found', looks, recorded⟩
    · simp only [effect, found, found']
      exact .answer _ same
    · simp only [effect, found, found', view.requested_eq looks]
      have requested : view.of { o with deletionRequested := some now } =
          view.of { o' with deletionRequested := some now } :=
        (view.wanting looks o.spec (some now)).trans (by rw [view.spec_eq looks])
      have put := same.insert key requested recorded
      exact .ite (.answer _ same) (.commit _ put put)
  | setExternalId key id =>
    rcases same.cases key with ⟨found, found'⟩ | ⟨o, o', found, found', looks, -⟩
    · simp only [effect, found, found']
      exact .ite (.answer _ same) (.answer _ same)
    · simp only [effect, found, found', view.externalId_eq looks]
      refine .ite (.answer _ same) ?_
      cases o'.externalId with
      | some existing => exact .answer _ same
      | none =>
        have put := same.insert key (view.recording looks (some id)) fun _ => rfl
        exact .commit _ put (put.insert key (view.recording looks none) fun _ => rfl)
  | clearExternalId key =>
    rcases same.cases key with ⟨found, found'⟩ | ⟨o, o', found, found', looks, recorded⟩
    · simp only [effect, found, found']
      exact .answer _ same
    · simp only [effect, found, found', recorded (clears key rfl)]
      have put := same.insert key (view.recording looks none) fun _ => rfl
      exact .ite (.commit _ put put) (.answer _ same)
  | setCondition key now state =>
    rcases same.cases key with ⟨found, found'⟩ | ⟨o, o', found, found', looks, recorded⟩
    · simp only [effect, found, found']
      exact .answer _ same
    · simp only [effect, found, found']
      exact .answer _ (same.insert key (view.stating looks state now) recorded)
  | remove key =>
    rcases same.cases key with ⟨found, found'⟩ | ⟨o, o', found, found', -⟩
    · simp only [effect, found, found']
      exact .answer _ same
    · simp only [effect, found, found']
      exact .commit _ (same.erase key) (same.erase key)

/-! ## Stores -/

/-- What stand at a path are these objects: it is what is written of them, or it is read as them. -/
def Contents.Tells (data : List UInt8) (objects : List (Declared S)) : Prop :=
  data = Text.Utf8.ofString (Snapshot.text objects) ∨
    Json.decodeOctets (Json.Decoder.list Declared.decoder) data = .ok objects

/-- What stands at two paths looks the same. -/
inductive Contents.SameBy (view : View S) : Contents → Contents → Prop
  | same (contents : Contents) : SameBy view contents contents
  | tell {data data' : List UInt8} {objects objects' : List (Declared S)} (tells : Tells data objects)
      (tells' : Tells data' objects') (seen : objects.map view.of = objects'.map view.of) :
      SameBy view (.octets data) (.octets data')

/-- Files at one path that look the same. -/
structure Snapshot.SameBy (view : View S) (file file' : Snapshot) : Prop where
  path : file.path = file'.path
  target : Contents.SameBy view file.target file'.target
  temporary : Contents.SameBy view file.temporary file'.temporary

/-- Stores that look the same. -/
structure Store.SameBy (view : View S) (settled : Key → Prop) (s s' : Store S) : Prop where
  objects : s.objects.SameBy view settled s'.objects
  sent : s.sent = s'.sent
  file : Option.Rel (Snapshot.SameBy view) s.snapshot s'.snapshot

namespace Store.SameBy

variable {s s' : Store S}

/-- Stores that look the same write files that look the same, and the writes end alike. -/
theorem persist (same : s.SameBy view settled s') (write : WriteOutcome) :
    (s.persist write).1.SameBy view settled (s'.persist write).1 ∧
      (s.persist write).2 = (s'.persist write).2 := by
  obtain ⟨objects, sent, snapshot⟩ := s
  obtain ⟨objects', sent', snapshot'⟩ := s'
  obtain ⟨alike, rfl, file⟩ := same
  have values : objects.values.map view.of = objects'.values.map view.of := by
    rw [← SortedMap.values_map, ← SortedMap.values_map, alike.seen]
  have written := Contents.SameBy.tell (.inl rfl) (.inl rfl) values
  cases file with
  | none => exact ⟨⟨alike, rfl, .none⟩, rfl⟩
  | @some file file' agrees =>
    obtain ⟨path, target, temporary⟩ := file
    obtain ⟨path', target', temporary'⟩ := file'
    obtain ⟨rfl, targets, temporaries⟩ := agrees
    cases write with
    | written => exact ⟨⟨alike, rfl, .some ⟨rfl, written, .same _⟩⟩, rfl⟩
    | temporaryFailed why => exact ⟨⟨alike, rfl, .some ⟨rfl, targets, temporaries⟩⟩, rfl⟩
    | replaceFailed why => exact ⟨⟨alike, rfl, .some ⟨rfl, targets, written⟩⟩, rfl⟩

/-- Effects that look the same leave stores that look the same, and answer the same. -/
theorem run (same : s.SameBy view settled s') {effect effect' : Effect S}
    (alike : effect.SameBy view settled effect') (write : WriteOutcome) :
    (effect.run s write).1.SameBy view settled (effect'.run s' write).1 ∧
      (effect.run s write).2 = (effect'.run s' write).2 := by
  cases alike with
  | answer result objects => exact ⟨⟨objects, same.sent, same.file⟩, rfl⟩
  | @commit objects objects' unwritten unwritten' event alike left =>
    have stored : Store.SameBy view settled { s with objects } { s' with objects := objects' } :=
      ⟨alike, same.sent, same.file⟩
    obtain ⟨after, ends⟩ := stored.persist write
    simp only [Effect.run]
    generalize { s with objects : Store S }.persist write = ended at after ends
    generalize { s' with objects := objects' : Store S }.persist write = ended' at after ends
    obtain ⟨t, result⟩ := ended
    obtain ⟨t', result'⟩ := ended'
    cases ends
    cases result with
    | ok => exact ⟨⟨after.objects, congrArg (event.toList ++ ·) after.sent, after.file⟩, rfl⟩
    | error e => exact ⟨⟨left, after.sent, after.file⟩, rfl⟩

/-- An operation treats stores that look the same alike. -/
theorem perform (same : s.SameBy view settled s') (call : StoreCall S)
    (clears : ∀ key, call = .clearExternalId key → settled key) (write : WriteOutcome) :
    (call.perform s write).1.SameBy view settled (call.perform s' write).1 ∧
      (call.perform s write).2 = (call.perform s' write).2 := by
  rw [call.perform_eq, call.perform_eq]
  exact same.run (call.effect_sameBy same.objects clears) write

theorem settle {more : Key → Prop} (same : s.SameBy view settled s')
    (known : ∀ key, more key → settled key ∨ view.Records) : s.SameBy view more s' :=
  ⟨same.objects.settle known, same.sent, same.file⟩

end Store.SameBy

end CloudKeeper
