import CloudKeeper.Manifest.Basic
import CloudKeeper.Store.Basic
/-!
Bringing a store in line with the entries of a manifest: every entry is applied, and every other object
of the kind gets its deletion requested. A store is reached through an author's four operations, which
may fail.
-/
namespace CloudKeeper

/-- How an author reaches the store of a kind, inside a larger state: the operations of a `DesiredStore` that an
author uses. -/
structure Author (σ S : Type) where
  apply : σ → Key → S → σ × Except StoreError Unit
  keys : σ → List Key
  get? : σ → Key → σ × Option (Declared S)
  requestDeletion : σ → Key → σ × Except StoreError Unit

/-- An author of a part of a larger state. -/
def Author.within {σ τ S : Type} (author : Author σ S) (part : τ → σ) (put : τ → σ → τ) :
    Author τ S where
  apply t key spec :=
    let (s, result) := author.apply (part t) key spec
    (put t s, result)
  keys t := author.keys (part t)
  get? t key :=
    let (s, object) := author.get? (part t) key
    (put t s, object)
  requestDeletion t key :=
    let (s, result) := author.requestDeletion (part t) key
    (put t s, result)

/-- The author of a plain store, given how its writes turn out. -/
def Store.author {S : Type} [Spec S] (write : WriteOutcome) (now : Time.Timestamp) :
    Author (Store S) S where
  apply s key spec := s.apply write key spec
  keys s := s.keys
  get? s key := (s, s.get? key)
  requestDeletion s key := s.requestDeletion write now key

/-- What a sync did: entries applied, deletions requested, operations that failed. -/
structure SyncReport where
  declared : Nat := 0
  pruned : Nat := 0
  failed : Nat := 0
  deriving DecidableEq, Repr

namespace Sync

variable {σ S : Type}

/-- Applies an entry: the first loop of `sync_kind`. -/
def declare (author : Author σ S) (kind : String) (state : σ × SyncReport) (entry : ManifestEntry S) :
    σ × SyncReport :=
  match author.apply state.1 ⟨kind, entry.name⟩ entry.spec with
  | (s, .ok ()) => (s, { state.2 with declared := state.2.declared + 1 })
  | (s, .error _) => (s, { state.2 with failed := state.2.failed + 1 })

/-- Requests the deletion of an object that is not listed, unless that has been done: the second loop of
`sync_kind`. An object that has gone meanwhile is no failure. -/
def prune (author : Author σ S) (kind : String) (names : List String) (state : σ × SyncReport)
    (key : Key) : σ × SyncReport :=
  if key.kind ≠ kind ∨ key.name ∈ names then state
  else
    match author.get? state.1 key with
    | (s, none) => (s, state.2)
    | (s, some o) =>
      if o.isDeletionRequested then (s, state.2)
      else
        match author.requestDeletion s key with
        | (s, .ok ()) => (s, { state.2 with pruned := state.2.pruned + 1 })
        | (s, .error (.notFound _)) => (s, state.2)
        | (s, .error _) => (s, { state.2 with failed := state.2.failed + 1 })

/-- Brings the objects of a kind in line with the entries (`sync_kind`). -/
def run (author : Author σ S) (kind : String) (entries : List (ManifestEntry S)) (s : σ) :
    σ × SyncReport :=
  let declared := entries.foldl (declare author kind) (s, {})
  (author.keys declared.1).foldl (prune author kind (entries.map (·.name))) declared

end Sync

end CloudKeeper
