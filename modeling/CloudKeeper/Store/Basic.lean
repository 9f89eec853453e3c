import CloudKeeper.Store.Event
import CloudKeeper.Store.Snapshot
/-!
The store of declared objects. Authors apply parameters and request deletion, and every change of
theirs is announced; the engine records identifiers, publishes conditions and removes objects. All but
conditions is written to the snapshot before it is acknowledged. The outcome of a write is given, so
every pattern of failures can be spoken about.
-/
namespace CloudKeeper

open Time (Timestamp)

/-- A store (`MemoryStore`): the objects, all announcements so far with the newest first, and the file if there is
one. -/
structure Store (S : Type) where
  objects : SortedMap Key (Declared S) := .empty
  sent : List Event := []
  snapshot : Option Snapshot := none

namespace Store

variable {S : Type}

/-- An empty store in memory (`MemoryStore::new`). -/
def inMemory : Store S := {}

/-- The store of a snapshot's objects (`MemoryStore::open`); of objects with one key the last is kept. -/
def ofSnapshot? [Spec S] (snapshot : Snapshot) : Except StoreError (Store S) := do
  let objects ← snapshot.objects?
  return { objects := .ofList (objects.map fun o => (o.key, o)), snapshot := some snapshot }

/-- The object of a key (`MemoryStore::get`). -/
def get? (s : Store S) (key : Key) : Option (Declared S) := s.objects.get? key

/-- The keys of all objects, sorted (`MemoryStore::list`). -/
def keys (s : Store S) : List Key := s.objects.keys

/-- The store with an object put in the place of the one of its key. -/
def put (s : Store S) (key : Key) (o : Declared S) : Store S :=
  { s with objects := s.objects.insert key o }

/-- The store with an announcement made (`MemoryStore::emit`). -/
def announce (s : Store S) (change : Change) (key : Key) : Store S :=
  { s with sent := ⟨change, key⟩ :: s.sent }

/-- Writes the snapshot, if there is a file (`MemoryStore::persist`). -/
def persist [Spec S] (s : Store S) (write : WriteOutcome) : Store S × Except StoreError Unit :=
  match s.snapshot with
  | none => (s, .ok ())
  | some snapshot =>
    let data := Text.Utf8.ofString (Snapshot.text s.objects.values)
    let (snapshot, result) := snapshot.write data write
    ({ s with snapshot := some snapshot }, result)

/-- Writes the snapshot and, only if that succeeds, makes an announcement: how `MemoryStore::apply`,
`request_deletion` and `remove` end. -/
def persistAndAnnounce [Spec S] (s : Store S) (write : WriteOutcome) (change : Change) (key : Key) :
    Store S × Except StoreError Unit :=
  match s.persist write with
  | (s, .ok ()) => (s.announce change key, .ok ())
  | (s, .error e) => (s, .error e)

/-- Declares an object, or changes its parameters and takes back a request to delete it (`MemoryStore::apply`).
Nothing is written or announced when nothing changes. -/
def apply [Spec S] (s : Store S) (write : WriteOutcome) (key : Key) (spec : S) :
    Store S × Except StoreError Unit :=
  match s.get? key with
  | none => (s.put key { key, spec }).persistAndAnnounce write .applied key
  | some o =>
    let differs := !Spec.same o.spec spec
    if differs || o.isDeletionRequested then
      (s.put key
        { o with spec := if differs then spec else o.spec, deletionRequested := none }).persistAndAnnounce
        write .applied key
    else (s, .ok ())

/-- Requests the deletion of an object (`MemoryStore::request_deletion`); a second request changes nothing. -/
def requestDeletion [Spec S] (s : Store S) (write : WriteOutcome) (now : Timestamp) (key : Key) :
    Store S × Except StoreError Unit :=
  match s.get? key with
  | none => (s, .error (.notFound key))
  | some o =>
    if o.isDeletionRequested then (s, .ok ())
    else
      (s.put key { o with deletionRequested := some now }).persistAndAnnounce write
        .deletionRequested key

/-- Records the identifier of an object's resource (`MemoryStore::set_external_id`). It is written once: another
identifier is refused, and one whose write fails is taken back. -/
def setExternalId [Spec S] (s : Store S) (write : WriteOutcome) (key : Key) (id : String) :
    Store S × Except StoreError Unit :=
  if id.isEmpty then
    (s, .error (.persist ("refusing to record an empty external ID for " ++ key.text)))
  else
    match s.get? key with
    | none => (s, .error (.notFound key))
    | some o =>
      match o.externalId with
      | some existing =>
        if existing = id then (s, .ok ()) else (s, .error (.conflict key existing id))
      | none =>
        match (s.put key { o with recordedId := some id }).persist write with
        | (s, .ok ()) => (s, .ok ())
        | (s, .error e) => (s.put key { o with recordedId := none }, .error e)

/-- Takes back the identifier of an object's resource (`MemoryStore::clear_external_id`). -/
def clearExternalId [Spec S] (s : Store S) (write : WriteOutcome) (key : Key) :
    Store S × Except StoreError Unit :=
  match s.get? key with
  | none => (s, .error (.notFound key))
  | some o =>
    if o.recordedId.isSome then (s.put key { o with recordedId := none }).persist write
    else (s, .ok ())

/-- Publishes a state of an object and tells whether it changed (`MemoryStore::set_condition`). Conditions alone
cause no write. -/
def setCondition (s : Store S) (now : Timestamp) (key : Key) (state : ConditionState) :
    Store S × Except StoreError Bool :=
  match s.get? key with
  | none => (s, .error (.notFound key))
  | some o => (s.put key (o.withState state now), .ok (o.stateChanges state))

/-- Removes an object (`MemoryStore::remove`); one that is not there counts as removed. -/
def remove [Spec S] (s : Store S) (write : WriteOutcome) (key : Key) :
    Store S × Except StoreError Unit :=
  match s.get? key with
  | none => (s, .ok ())
  | some _ =>
    { s with objects := s.objects.erase key : Store S }.persistAndAnnounce write .removed key

end Store

end CloudKeeper
