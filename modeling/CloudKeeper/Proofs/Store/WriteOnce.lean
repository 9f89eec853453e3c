import CloudKeeper.Proofs.Store.Durability
import CloudKeeper.Proofs.Store.Identifier
import CloudKeeper.Time.Epoch
/-!
The identifier of a remote resource is written once, and then it is in the file. While one is recorded
no operation puts another in its place; a write that fails takes the identifier it was made for back, and
every other write writes memory as a whole. So what memory shows as recorded the file shows as well,
whatever writes fail in between.
-/
namespace CloudKeeper

variable {S : Type} [Spec S]

/-- With a file behind the store, a write succeeds exactly if nothing hinders it. -/
theorem Store.persist_ok_iff {s : Store S} {file : Snapshot} (has : s.snapshot = some file)
    (write : WriteOutcome) : (s.persist write).2 = .ok () ↔ write = .written := by
  simp only [persist, has]
  cases write with
  | written => exact ⟨fun _ => rfl, fun _ => rfl⟩
  | temporaryFailed why => simp [Snapshot.write]
  | replaceFailed why => simp [Snapshot.write]

/-- What a commit leaves in memory, and as its result, if the store has a file: its objects if they could
be written, and else what is left after a failure. -/
theorem Effect.run_commit {s : Store S} {file : Snapshot} (has : s.snapshot = some file)
    (changed unwritten : SortedMap Key (Declared S)) (event : Option Event) (write : WriteOutcome) :
    let after := (commit changed unwritten event).run s write
    after.1.objects = (if write = .written then changed else unwritten) ∧
      (after.2 = .ok () ↔ write = .written) := by
  have outcome := Store.persist_ok_iff (s := { s with objects := changed }) has write
  obtain ⟨files, written | ⟨why, failed⟩⟩ := Store.persist_cases { s with objects := changed } write
  · rw [written] at outcome
    rw [if_pos (outcome.1 rfl)]
    simp only [run, written]
    exact ⟨trivial, fun _ => outcome.1 rfl, fun _ => trivial⟩
  · rw [failed] at outcome
    have hindered : write ≠ .written := by
      intro unhindered
      cases outcome.2 unhindered
    rw [if_neg hindered]
    simp only [run, failed]
    refine ⟨trivial, fun succeeds => ?_, fun unhindered => absurd unhindered hindered⟩
    cases succeeds

namespace StoreCall

variable {s : Store S} {file : SortedMap Key (Declared S)} {key : Key} {id : String}

/-- What a store promises about the identifier of one key. -/
structure RecordsOnce (s : Store S) (key : Key) : Prop where
  accepts : ∀ id write, ((setExternalId key id).perform s write).2 = .ok () ↔
    id ≠ "" ∧ (s.objects.get? key).isSome ∧
      (s.objects.recordedId? key = some id ∨ s.objects.recordedId? key = none ∧ write = .written)
  /-- An identifier that is refused leaves the recorded one as it is. -/
  refuses : ∀ id write e, ((setExternalId key id).perform s write).2 = .error e →
    ((setExternalId key id).perform s write).1.objects.recordedId? key = s.objects.recordedId? key
  /-- Nothing but taking it back and removing the object ends that an identifier is recorded. -/
  keeps : ∀ (c : StoreCall S) write id, s.objects.recordedId? key = some id →
    (c.perform s write).1.objects.recordedId? key = some id ∨
      ((c = .clearExternalId key ∨ c = .remove key) ∧
        (c.perform s write).1.objects.recordedId? key = none)

private theorem accepts_iff {files : Snapshot} (has : s.snapshot = some files) (key : Key) (id : String)
    (write : WriteOutcome) : ((setExternalId key id).perform s write).2 = .ok () ↔
      id ≠ "" ∧ (s.objects.get? key).isSome ∧
        (s.objects.recordedId? key = some id ∨ s.objects.recordedId? key = none ∧ write = .written) := by
  rw [perform_eq]
  simp only [effect, SortedMap.recordedId?]
  by_cases empty : id = ""
  · simp [empty, Effect.run]
  · rw [if_neg fun isEmpty => empty (String.isEmpty_iff.1 isEmpty)]
    cases s.objects.get? key with
    | none => simp [Effect.run]
    | some o =>
      rw [Option.bind_some]
      dsimp only
      cases o.externalId with
      | some existing => by_cases same : existing = id <;> simp [same, empty, Effect.run]
      | none => simpa [empty] using (Effect.run_commit has _ _ none write).2

private theorem refused_recorded (s : Store S) (write : WriteOutcome) {e : StoreError}
    (refused : ((setExternalId key id).perform s write).2 = .error e) :
    ((setExternalId key id).perform s write).1.objects.recordedId? key =
      s.objects.recordedId? key := by
  have recorded := setExternalId_recorded s write key id
  simp only [perform] at refused ⊢
  generalize s.setExternalId write key id = outcome at recorded refused ⊢
  obtain ⟨after, (missing | ⟨named, existing, attempted⟩ | why) | _⟩ := outcome
  · exact recorded
  · exact recorded.1
  · exact recorded
  · cases refused

theorem recordsOnce {files : Snapshot} (has : s.snapshot = some files) (key : Key) :
    RecordsOnce s key where
  accepts := accepts_iff has key
  refuses _ write _ := refused_recorded s write
  keeps c write _ recorded := perform_leaves (effect_keeps_recorded c recorded) write

/-- What memory shows as recorded for a key, the file shows. -/
def Anchored (objects file : SortedMap Key (Declared S)) (key : Key) : Prop :=
  ∀ id, objects.recordedId? key = some id → file.recordedId? key = some id

/-- No operation records in memory what is not in the file, whether or not its write succeeds. -/
theorem anchored_perform {files : Snapshot} (has : s.snapshot = some files)
    (anchored : Anchored s.objects file key) (c : StoreCall S) (write : WriteOutcome) :
    Anchored (c.perform s write).1.objects (c.filed write s.objects file) key := by
  intro id recorded
  rw [perform_eq] at recorded
  rw [filed]
  cases does : c.effect s.objects with
  | answer answered result =>
    rw [does] at recorded
    have same := SortedMap.recordedId_of_bare (answer_keeps_bare does key)
    exact anchored id (same.symm.trans recorded)
  | commit changed unwritten event =>
    rw [does, (Effect.run_commit has changed unwritten event write).1] at recorded
    dsimp only
    split at recorded
    case isTrue unhindered =>
      rw [if_pos unhindered]
      exact recorded
    case isFalse hindered =>
      rw [if_neg hindered]
      exact anchored id (unwritten_recorded does recorded)

theorem anchored_after [LawfulSpec S] (backed : Backed s file) (anchored : Anchored s.objects file key)
    (calls : List (StoreCall S × WriteOutcome)) :
    Anchored (after s calls).objects (filedAfter s file calls) key := by
  induction calls generalizing s file with
  | nil => exact anchored
  | cons call rest ih =>
    refine ih (backed_perform backed call.1 call.2) ?_
    obtain ⟨-, files, has, -⟩ := backed
    exact anchored_perform has anchored call.1 call.2

/-- An identifier that is recorded stays so while nobody takes it back or removes the object. -/
theorem recorded_after (recorded : s.objects.recordedId? key = some id)
    {calls : List (StoreCall S × WriteOutcome)}
    (kept : ∀ call ∈ calls, call.1 ≠ .clearExternalId key ∧ call.1 ≠ .remove key) :
    (after s calls).objects.recordedId? key = some id := by
  induction calls generalizing s with
  | nil => exact recorded
  | cons call rest ih =>
    refine ih ?_ fun later member => kept later (List.mem_cons_of_mem _ member)
    rcases perform_leaves (effect_keeps_recorded call.1 recorded) call.2 with still | ⟨ends, -⟩
    · exact still
    · have spares := kept call List.mem_cons_self
      exact absurd ends (not_or.2 spares)

/-- The objects in memory at the last write that succeeded, or else those that the file held at first. -/
def lastWritten (s : Store S) (first : SortedMap Key (Declared S)) :
    List (StoreCall S × WriteOutcome) → SortedMap Key (Declared S)
  | [] => first
  | (c, write) :: rest =>
    let after := (c.perform s write).1
    if (c.effect s.objects).writes = true ∧ write = .written then lastWritten after after.objects rest
    else lastWritten after first rest

/-- What is said to be in the file is what memory held when it was written. -/
private theorem filedAfter_eq (s : Store S) (file : SortedMap Key (Declared S))
    (calls : List (StoreCall S × WriteOutcome)) : filedAfter s file calls = lastWritten s file calls := by
  induction calls generalizing s file with
  | nil => rfl
  | cons call rest ih =>
    obtain ⟨c, write⟩ := call
    rw [filedAfter, ih, lastWritten, filed]
    cases does : c.effect s.objects with
    | answer answered result => rw [if_neg fun writes => Bool.false_ne_true writes.1]
    | commit changed unwritten event =>
      by_cases unhindered : write = .written
      · subst unhindered
        obtain ⟨files, written⟩ := Store.persist_written { s with objects := changed }
        rw [if_pos ⟨rfl, rfl⟩, perform_eq, does, Effect.run, written]
        rfl
      · rw [if_neg fun writes => unhindered writes.2]
        dsimp only
        rw [if_neg unhindered]

/-- The identifier of an object is written once and durable. Open a store and let any operations change
it, each with a write that succeeds or fails. Then an identifier is accepted, refused and kept as it
should be; the file opens as the objects that memory held at the last write that succeeded; and an
identifier that was accepted, and has not been taken back since, is in the file. -/
theorem identifier_written_once_and_durable [LawfulSpec S] (snapshot : Snapshot) (opened : Store S)
    (opens : Store.ofSnapshot? snapshot = .ok opened) (calls : List (StoreCall S × WriteOutcome))
    (key : Key) :
    RecordsOnce (after opened calls) key ∧
    ∃ file reopened, (after opened calls).snapshot = some file ∧
      Store.ofSnapshot? file = .ok reopened ∧
      reopened.objects = lastWritten opened opened.objects calls ∧
      ∀ before id write later, calls = before ++ (setExternalId key id, write) :: later →
        ((setExternalId key id).perform (after opened before) write).2 = .ok () →
        (∀ call ∈ later, call.1 ≠ .clearExternalId key ∧ call.1 ≠ .remove key) →
        reopened.objects.recordedId? key = some id := by
  have start : Backed opened opened.objects := opened_backed opens
  obtain ⟨-, file, has, loads⟩ := backed_after start calls
  have reopens : Store.ofSnapshot? file = .ok
      { objects := filedAfter opened opened.objects calls, snapshot := some file } := by
    rw [Snapshot.ofSnapshot?_eq, loads]
    rfl
  refine ⟨recordsOnce has key, file, _, has, reopens, filedAfter_eq .., ?_⟩
  intro before id write later splits accepted kept
  have recorded : ((setExternalId key id).perform (after opened before) write).1.objects.recordedId? key =
      some id := by
    have records := setExternalId_recorded (after opened before) write key id
    simp only [perform] at accepted ⊢
    generalize (after opened before).setExternalId write key id = outcome at accepted records ⊢
    obtain ⟨store, result⟩ := outcome
    cases accepted
    exact records
  have still : (after opened calls).objects.recordedId? key = some id := by
    rw [splits, after, List.foldl_append]
    exact recorded_after recorded kept
  exact anchored_after start (fun _ shown => shown) calls id still

/-- An address on a new file. Recording its identifier fails once and is tried again; the identifier is
in the file then, and stays there when the deletion of the address is requested but cannot be written. -/
theorem identifier_written_once_and_durable_address :
    let key : Key := ⟨"floating_ip", "web"⟩
    let spec : FloatingIpSpec := { projectId := "p", isp := "BGP", bandwidth := 1 }
    let file : Snapshot := { path := "state.json" }
    let opened : Store FloatingIpSpec := { snapshot := some file }
    let before := [(StoreCall.apply key spec, .written), (.setExternalId key "ip-1", .replaceFailed "full")]
    let later := [(StoreCall.requestDeletion key .epoch, WriteOutcome.temporaryFailed "full")]
    let calls := before ++ (.setExternalId key "ip-1", .written) :: later
    Store.ofSnapshot? file = .ok opened ∧ RecordsOnce (after opened calls) key ∧
      ∃ file reopened, (after opened calls).snapshot = some file ∧
        Store.ofSnapshot? file = .ok reopened ∧
        reopened.objects = lastWritten opened opened.objects calls ∧
        reopened.objects.recordedId? key = some "ip-1" := by
  intro key spec file opened before later calls
  obtain ⟨once, stored, reopened, has, reopens, written, durable⟩ :=
    identifier_written_once_and_durable file opened rfl calls key
  refine ⟨rfl, once, stored, reopened, has, reopens, written, ?_⟩
  refine durable before "ip-1" .written later rfl (accepted_of_isOk (by decide)) ?_
  intro call member
  cases List.mem_singleton.1 member
  exact ⟨nofun, nofun⟩

end StoreCall

end CloudKeeper
