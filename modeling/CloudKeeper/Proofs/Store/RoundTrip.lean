import CloudKeeper.Proofs.Store.Durability
/-!
A store and its snapshot say the same. What is written for the objects of a store is read back as these
objects, and a store that has been opened on it has nothing else to write. This holds of every kind,
whatever texts, numbers, lists and times the objects hold.
-/
namespace CloudKeeper

open Text (Utf8.ofString)

/-- A store with a file, which holds the given objects, each under its key. -/
def Store.holding {S : Type} (file : Snapshot) (objects : List (Declared S)) : Store S :=
  { objects := .ofList (objects.map fun o => (o.key, o)), snapshot := some file }

/-- Every map in which objects stand under their own keys is held by such a store. -/
theorem Store.holding_values {S : Type} [Spec S] {objects : SortedMap Key (Declared S)}
    (keyed : objects.Keyed) (file : Snapshot) : (holding file objects.values).objects = objects := by
  rw [holding, keyed.values_map]
  exact objects.ofList_entries

/-- Whatever objects a store with such parameters holds, and whatever stood in its file, what it writes
opens as a store with the same objects, which writes the same text. -/
def Snapshot.RoundTrips (S : Type) [Spec S] : Prop :=
  ∀ (file : Snapshot) (objects : List (Declared S)),
    let s := Store.holding file objects
    ∃ written reopened, s.persist .written = ({ s with snapshot := some written }, .ok ()) ∧
      written.target = .octets (Utf8.ofString (Snapshot.text s.objects.values)) ∧
      Store.ofSnapshot? written = .ok reopened ∧ reopened.objects = s.objects ∧
      reopened.persist .written = (reopened, .ok ())

variable {S : Type} [Spec S]

private theorem roundTrips_of_lawful [LawfulSpec S] : Snapshot.RoundTrips S := by
  intro file objects s
  have keyed : s.objects.Keyed := SortedMap.keyed_ofList objects
  let written : Snapshot := { file with
    target := .octets (Utf8.ofString (Snapshot.text s.objects.values)), temporary := .missing }
  have opens : written.load? = .ok s.objects := Snapshot.load?_of_text keyed written rfl
  refine ⟨written, { objects := s.objects, snapshot := some written }, rfl, rfl, ?_, rfl, rfl⟩
  rw [Snapshot.ofSnapshot?_eq, opens]
  rfl

/-- The snapshots of volumes, floating addresses and machines are read back as they were written, and
written again as they were read. -/
theorem snapshots_round_trip :
    Snapshot.RoundTrips VolumeSpec ∧ Snapshot.RoundTrips FloatingIpSpec ∧
      Snapshot.RoundTrips VirtualMachineSpec :=
  ⟨roundTrips_of_lawful, roundTrips_of_lawful, roundTrips_of_lawful⟩

end CloudKeeper
