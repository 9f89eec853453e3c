import CloudKeeper.Proofs.Kind.Format
import CloudKeeper.Proofs.Store.Effect
/-!
What is found again when a store is opened a second time. A snapshot that was written is read back as the
objects it was written for, so a store that is opened anew shows the objects of the last write that
succeeded. An operation that answers without writing vouches for nothing more than that.
-/
namespace CloudKeeper

open Json (Decoder)

variable {S : Type} [Spec S]

namespace Snapshot

/-- The objects in the file, each under its key. -/
def load? (file : Snapshot) : Except StoreError (SortedMap Key (Declared S)) :=
  file.objects?.map fun objects => .ofList (objects.map fun o => (o.key, o))

/-- A store is opened on what its file holds. -/
theorem ofSnapshot?_eq (file : Snapshot) : Store.ofSnapshot? file =
    file.load?.map fun objects : SortedMap Key (Declared S) =>
      { objects, snapshot := some file : Store S } := by
  rw [Store.ofSnapshot?, load?]
  cases file.objects? (S := S) <;> rfl

/-- What was written is read back, whatever the objects. -/
theorem objects?_of_text [LawfulSpec S] (file : Snapshot) (objects : List (Declared S))
    (written : file.target = .octets (Text.Utf8.ofString (text objects))) :
    file.objects? = .ok objects := by
  have exact_ : (Json.Value.array (objects.map Declared.toJson)).Exact :=
    Json.Value.itemsExact_iff.2 fun v member => by
      obtain ⟨o, -, rfl⟩ := List.mem_map.1 member
      exact o.toJson_exact
  have decodes := Decoder.list_inverts Declared.decoder_inverts (.text Json.depthLimit) objects
    (Nat.le_refl 127)
  have reads : Json.decodeOctets (Decoder.list Declared.decoder)
      (Text.Utf8.ofString (text objects)) = .ok objects := by
    rw [Json.decodeOctets, text, Json.Text.ofOctets_toPrettyText _ exact_, Json.decodeText]
    simp only [decodes, bind, Except.bind, ↓reduceIte]
    rfl
  simp only [objects?, written, reads]

end Snapshot

/-- Every object is stored under its own key. -/
def SortedMap.Keyed (objects : SortedMap Key (Declared S)) : Prop :=
  ∀ key o, objects.get? key = some o → o.key = key

namespace SortedMap

omit [Spec S] in
private theorem Keyed.insert {objects : SortedMap Key (Declared S)} (keyed : objects.Keyed)
    {key : Key} {o : Declared S} (own : o.key = key) : (objects.insert key o).Keyed := by
  intro other found
  rw [get?_insert]
  split
  case isTrue same =>
    rintro ⟨⟩
    exact own.trans same.symm
  case isFalse => exact keyed other found

omit [Spec S] in
private theorem Keyed.erase {objects : SortedMap Key (Declared S)} (keyed : objects.Keyed)
    (key : Key) : (objects.erase key).Keyed := by
  intro other found
  rw [get?_erase]
  split
  case isTrue => rintro ⟨⟩
  case isFalse => exact keyed other found

omit [Spec S] in
theorem keyed_ofList (objects : List (Declared S)) :
    (ofList (objects.map fun o => (o.key, o))).Keyed := by
  have more : ∀ (l : List (Declared S)) (before : SortedMap Key (Declared S)), before.Keyed →
      ((l.map fun o => (o.key, o)).foldl (fun m pair => m.insert pair.1 pair.2) before).Keyed := by
    intro l
    induction l with
    | nil => intro before keyed; exact keyed
    | cons o rest ih => intro before keyed; exact ih _ (keyed.insert rfl)
  refine more objects .empty ?_
  intro key o found
  cases found

omit [Spec S] in
theorem Keyed.values_map {objects : SortedMap Key (Declared S)} (keyed : objects.Keyed) :
    (objects.values.map fun o => (o.key, o)) = objects.entries := by
  rw [values, List.map_map]
  refine (List.map_congr_left fun e member => ?_).trans (List.map_id _)
  have own := keyed e.1 e.2 ((mem_entries_iff objects e.1 e.2).1 member)
  exact Prod.ext own rfl

end SortedMap

/-- A file that was written for objects under their own keys opens as these. -/
theorem Snapshot.load?_of_text [LawfulSpec S] {objects : SortedMap Key (Declared S)}
    (keyed : objects.Keyed) (file : Snapshot)
    (written : file.target = .octets (Text.Utf8.ofString (text objects.values))) :
    file.load? = .ok objects := by
  simp only [load?, objects?_of_text file objects.values written, Except.map, keyed.values_map]
  exact congrArg Except.ok objects.ofList_entries

namespace StoreCall

/-- Every operation leaves objects under their own keys in memory, whether or not its write succeeds. -/
private theorem effect_keyed {objects : SortedMap Key (Declared S)} (keyed : objects.Keyed)
    (c : StoreCall S) : (c.effect objects).Leaves SortedMap.Keyed := by
  refine effect_leaves c keyed (fun changed o kept own => kept.insert ?_) (keyed.erase c.key)
  rcases own.key with own | ⟨before, found, same⟩
  · exact own
  · exact same.trans (keyed c.key before found)

/-- The objects in the file after an operation, given those in it before. -/
def filed (c : StoreCall S) (write : WriteOutcome) (objects file : SortedMap Key (Declared S)) :
    SortedMap Key (Declared S) :=
  match c.effect objects with
  | .answer .. => file
  | .commit changed .. => if write = .written then changed else file

/-- The objects in the file after a run of operations: those of the last write that succeeded. -/
def filedAfter : Store S → SortedMap Key (Declared S) → List (StoreCall S × WriteOutcome) →
    SortedMap Key (Declared S)
  | _, file, [] => file
  | s, file, (c, write) :: rest =>
    filedAfter (c.perform s write).1 (c.filed write s.objects file) rest

/-- A store and the objects in its file: every object stands under its own key, and the file opens. -/
def Backed (s : Store S) (file : SortedMap Key (Declared S)) : Prop :=
  s.objects.Keyed ∧ ∃ snapshot, s.snapshot = some snapshot ∧ snapshot.load? = .ok file

private theorem persist_backed [LawfulSpec S] {s : Store S} {snapshot : Snapshot}
    {file : SortedMap Key (Declared S)} (keyed : s.objects.Keyed) (has : s.snapshot = some snapshot)
    (opens : snapshot.load? = .ok file) (write : WriteOutcome) :
    ∃ snapshot', (s.persist write).1 = { s with snapshot := some snapshot' } ∧
      snapshot'.load? = .ok (if write = .written then s.objects else file) ∧
      ((s.persist write).2 = .ok () ↔ write = .written) := by
  simp only [Store.persist, has]
  cases write with
  | written =>
    refine ⟨_, rfl, ?_, fun _ => rfl, fun _ => rfl⟩
    rw [if_pos rfl]
    exact Snapshot.load?_of_text keyed _ rfl
  | temporaryFailed why =>
    refine ⟨snapshot, rfl, opens, fun succeeds => ?_, fun succeeds => ?_⟩ <;> cases succeeds
  | replaceFailed why =>
    refine ⟨_, rfl, opens, fun succeeds => ?_, fun succeeds => ?_⟩ <;> cases succeeds

/-- What an effect leaves in memory, in the file and as its result, for a store with a file. -/
private theorem run_backed [LawfulSpec S] {s : Store S} {file changed unwritten}
    (backed : Backed s file) (keyed : changed.Keyed ∧ unwritten.Keyed) (event : Option Event)
    (write : WriteOutcome) :
    let after := (Effect.commit changed unwritten event).run s write
    if write = .written then Backed after.1 changed ∧ after.1.objects = changed
    else Backed after.1 file ∧ ∃ e, after.2 = .error e := by
  obtain ⟨-, snapshot, has, opens⟩ := backed
  obtain ⟨snapshot', files, opens', outcome⟩ :=
    persist_backed (s := { s with objects := changed }) keyed.1 has opens write
  simp only [Effect.run]
  generalize Store.persist { s with objects := changed } write = persisted at files outcome ⊢
  obtain ⟨stored, result⟩ := persisted
  cases files
  cases result with
  | ok =>
    have succeeds : write = .written := outcome.1 rfl
    rw [if_pos succeeds] at opens' ⊢
    exact ⟨⟨keyed.1, snapshot', rfl, opens'⟩, rfl⟩
  | error e =>
    have fails : ¬write = .written := by
      intro succeeds
      cases outcome.2 succeeds
    rw [if_neg fails] at opens' ⊢
    exact ⟨⟨keyed.2, snapshot', rfl, opens'⟩, e, rfl⟩

/-- An operation keeps the file in step with what is said to be in it. -/
theorem backed_perform [LawfulSpec S] {s : Store S} {file : SortedMap Key (Declared S)}
    (backed : Backed s file) (c : StoreCall S) (write : WriteOutcome) :
    Backed (c.perform s write).1 (c.filed write s.objects file) := by
  have keyed := effect_keyed backed.1 c
  rw [perform_eq, filed]
  cases does : c.effect s.objects with
  | answer answered result =>
    rw [does] at keyed
    exact ⟨keyed, backed.2⟩
  | commit changed unwritten event =>
    rw [does] at keyed
    have ran := run_backed backed keyed event write
    dsimp only at ran ⊢
    split at ran
    case isTrue succeeds =>
      rw [if_pos succeeds]
      exact ran.1
    case isFalse fails =>
      rw [if_neg fails]
      exact ran.1

/-- What is true of all parameters that are stored, filed and declared for a key stays true of those in the
file. -/
theorem filed_specs {objects file : SortedMap Key (Declared S)} {key : Key} {property : S → Prop}
    (c : StoreCall S) (write : WriteOutcome) (filed : ∀ o, file.get? key = some o → property o.spec)
    (stored : ∀ o, objects.get? key = some o → property o.spec)
    (declared : ∀ spec, c = .apply key spec → property spec) :
    ∀ o, (c.filed write objects file).get? key = some o → property o.spec := by
  have leaves := effect_specs c stored declared
  unfold StoreCall.filed
  cases does : c.effect objects with
  | answer answered result => exact filed
  | commit changed unwritten event =>
    rw [does] at leaves
    dsimp only
    split
    · exact leaves.1
    · exact filed

/-- After an operation the file is as it was, or it has what memory has. -/
theorem filed_cases (c : StoreCall S) (s : Store S) (write : WriteOutcome) (file : SortedMap Key (Declared S)) :
    c.filed write s.objects file = file ∨ c.filed write s.objects file = (c.perform s write).1.objects := by
  rw [filed, perform_eq]
  cases c.effect s.objects with
  | answer answered result => exact .inl rfl
  | commit changed unwritten event =>
    by_cases written : write = .written
    · obtain ⟨files, persisted⟩ := Store.persist_written { s with objects := changed }
      subst written
      refine .inr ?_
      simp only [Effect.run, persisted, ↓reduceIte]
    · exact .inl (if_neg written)

theorem backed_after [LawfulSpec S] {s : Store S} {file : SortedMap Key (Declared S)}
    (backed : Backed s file) (calls : List (StoreCall S × WriteOutcome)) :
    Backed (after s calls) (filedAfter s file calls) := by
  induction calls generalizing s file with
  | nil => exact backed
  | cons call rest ih => exact ih (backed_perform backed call.1 call.2)

end StoreCall

/-- What has to survive of an object: its parameters, its identifier if it has one, and whether its
deletion is requested. -/
def Declared.standing (o : Declared S) : S × Option String × Bool :=
  (o.spec, o.externalId, o.isDeletionRequested)

/-- What has to survive of the object of a key, if there is one. -/
def SortedMap.standing? (objects : SortedMap Key (Declared S)) (key : Key) :
    Option (S × Option String × Bool) :=
  (objects.get? key).map Declared.standing

namespace StoreCall

omit [Spec S] in
private theorem standing_of_bare {before after : SortedMap Key (Declared S)} {key : Key}
    (same : (after.get? key).map Declared.bare = (before.get? key).map Declared.bare) :
    after.standing? key = before.standing? key := by
  have standings := congrArg (Option.map Declared.standing) same
  rw [Option.map_map, Option.map_map] at standings
  exact standings

/-- A write that succeeds keeps what memory holds in the file. -/
theorem filed_standing {s : Store S} {file : SortedMap Key (Declared S)}
    (agree : ∀ key, file.standing? key = s.objects.standing? key) (c : StoreCall S) (key : Key) :
    (c.filed .written s.objects file).standing? key =
      (c.perform s .written).1.objects.standing? key := by
  simp only [perform_eq, filed]
  cases does : c.effect s.objects with
  | answer answered result =>
    exact (agree key).trans (standing_of_bare (answer_keeps_bare does key)).symm
  | commit changed unwritten event =>
    obtain ⟨files, written⟩ := Store.persist_written { s with objects := changed }
    simp only [Effect.run, written, ↓reduceIte]

/-- While every write succeeds, the file holds what memory holds. -/
private theorem filedAfter_standing {s : Store S} {file : SortedMap Key (Declared S)}
    (agree : ∀ key, file.standing? key = s.objects.standing? key)
    {calls : List (StoreCall S × WriteOutcome)} (succeed : ∀ call ∈ calls, call.2 = .written)
    (key : Key) :
    (filedAfter s file calls).standing? key = (after s calls).objects.standing? key := by
  induction calls generalizing s file with
  | nil => exact agree key
  | cons call rest ih =>
    obtain ⟨c, write⟩ := call
    obtain rfl : write = .written := succeed _ List.mem_cons_self
    exact ih (filed_standing agree c) fun call member => succeed call (List.mem_cons_of_mem _ member)

/-- A store that has been opened has its objects in its file. -/
theorem opened_backed {snapshot : Snapshot} {opened : Store S}
    (opens : Store.ofSnapshot? snapshot = .ok opened) : Backed opened opened.objects := by
  rw [Snapshot.ofSnapshot?_eq] at opens
  cases loads : snapshot.load? (S := S) with
  | error e =>
    rw [loads] at opens
    cases opens
  | ok objects =>
    rw [loads] at opens
    cases opens
    refine ⟨?_, snapshot, rfl, loads⟩
    rw [Snapshot.load?] at loads
    cases reads : snapshot.objects? (S := S) with
    | error e =>
      rw [reads] at loads
      cases loads
    | ok list =>
      rw [reads] at loads
      cases loads
      exact SortedMap.keyed_ofList list

/-- What is left of a store whose process stops: the store as it stands, or one whose memory an operation
has changed while its write was cut short. -/
inductive Stops (s : Store S) : Store S → Prop
  | between : Stops s s
  | cutShort (c : StoreCall S) {write : WriteOutcome} (cut : write ≠ .written) :
    Stops s (c.perform s write).1

/-- A process that stops leaves the file as it was. -/
theorem Backed.stopped [LawfulSpec S] {s stopped : Store S} {file : SortedMap Key (Declared S)}
    (backed : Backed s file) (stops : Stops s stopped) : Backed stopped file := by
  cases stops with
  | between => exact backed
  | @cutShort c write cut =>
    have kept : c.filed write s.objects file = file := by
      unfold StoreCall.filed
      cases c.effect s.objects with
      | answer => rfl
      | commit => exact if_neg cut
    exact kept ▸ backed_perform backed c write

/-- A store that is opened again shows what is in its file. -/
theorem Backed.reopened {s reopened : Store S} {file : SortedMap Key (Declared S)} {snapshot : Snapshot}
    (backed : Backed s file) (has : s.snapshot = some snapshot)
    (opens : Store.ofSnapshot? snapshot = .ok reopened) : reopened.objects = file := by
  obtain ⟨-, own, has', loads⟩ := backed
  cases has.symm.trans has'
  rw [Snapshot.ofSnapshot?_eq, loads] at opens
  cases opens
  rfl

/-- An accepted change is durable if the operation that accepts it writes the snapshot, or else if the
last write that succeeded was made when the object already stood as it does now. Open a store, let any
operations change it, each with a write that succeeds or fails, and let one more be accepted: its file
then opens, and shows the object as memory does in exactly these cases. While no write has failed it
always does. -/
theorem accepted_change_durable_iff [LawfulSpec S] (snapshot : Snapshot) (opened : Store S)
    (opens : Store.ofSnapshot? snapshot = .ok opened) (calls : List (StoreCall S × WriteOutcome))
    (c : StoreCall S) (write : WriteOutcome)
    (accepted : (c.perform (after opened calls) write).2 = .ok ()) :
    ∃ file reopened, (c.perform (after opened calls) write).1.snapshot = some file ∧
      Store.ofSnapshot? file = .ok reopened ∧
      (reopened.objects.standing? c.key =
          (c.perform (after opened calls) write).1.objects.standing? c.key ↔
        (c.effect (after opened calls).objects).writes = true ∨
          (filedAfter opened opened.objects calls).standing? c.key =
            (after opened calls).objects.standing? c.key) ∧
      ((∀ call ∈ calls, call.2 = .written) → reopened.objects.standing? c.key =
        (c.perform (after opened calls) write).1.objects.standing? c.key) := by
  have start : Backed opened opened.objects := opened_backed opens
  have before := backed_after start calls
  obtain ⟨-, file, has, loads⟩ := backed_perform before c write
  have reopens : Store.ofSnapshot? file = .ok
      { objects := c.filed write (after opened calls).objects
          (filedAfter opened opened.objects calls), snapshot := some file } := by
    rw [Snapshot.ofSnapshot?_eq, loads]
    rfl
  have durable : (c.filed write (after opened calls).objects
      (filedAfter opened opened.objects calls)).standing? c.key =
        (c.perform (after opened calls) write).1.objects.standing? c.key ↔
      (c.effect (after opened calls).objects).writes = true ∨
        (filedAfter opened opened.objects calls).standing? c.key =
          (after opened calls).objects.standing? c.key := by
    rw [perform_eq] at accepted ⊢
    rw [filed]
    cases does : c.effect (after opened calls).objects with
    | answer answered result =>
      have kept : answered.standing? c.key = (after opened calls).objects.standing? c.key :=
        standing_of_bare (answer_keeps_bare does c.key)
      simp only [Effect.run, Effect.writes, kept, Bool.false_eq_true, false_or]
    | commit changed unwritten event =>
      have ran := run_backed before (does ▸ effect_keyed before.1 c) event write
      rw [does] at accepted
      dsimp only at ran
      split at ran
      case isTrue succeeds =>
        simp only [if_pos succeeds, ran.2, Effect.writes, true_or]
      case isFalse fails =>
        obtain ⟨-, e, failed⟩ := ran
        rw [failed] at accepted
        cases accepted
  refine ⟨file, _, has, reopens, durable, fun succeed => durable.2 (.inr ?_)⟩
  exact filedAfter_standing (fun _ => rfl) succeed c.key

theorem accepted_of_isOk {result : Except StoreError Unit} (ok : result.isOk = true) :
    result = .ok () := by
  cases result with
  | ok => rfl
  | error e => cases ok

/-- An address that is declared twice on a new file, where the first write fails. -/
theorem accepted_change_durable_iff_address :
    let key : Key := ⟨"floating_ip", "web"⟩
    let spec : FloatingIpSpec := { projectId := "p", isp := "BGP", bandwidth := 1 }
    let file : Snapshot := { path := "state.json" }
    let opened : Store FloatingIpSpec := { snapshot := some file }
    let calls := [(StoreCall.apply key spec, WriteOutcome.temporaryFailed "full")]
    let again := (StoreCall.apply key spec).perform (after opened calls) .written
    Store.ofSnapshot? file = .ok opened ∧ again.2 = .ok () ∧
      ∃ file reopened, again.1.snapshot = some file ∧ Store.ofSnapshot? file = .ok reopened ∧
        (reopened.objects.standing? key = again.1.objects.standing? key ↔
          ((StoreCall.apply key spec).effect (after opened calls).objects).writes = true ∨
            (filedAfter opened opened.objects calls).standing? key =
              (after opened calls).objects.standing? key) ∧
        ((∀ call ∈ calls, call.2 = .written) →
          reopened.objects.standing? key = again.1.objects.standing? key) := by
  intro key spec file opened calls again
  have accepted : again.2 = .ok () := accepted_of_isOk (by decide)
  exact ⟨rfl, accepted, accepted_change_durable_iff file opened rfl calls (.apply key spec) .written
    accepted⟩

/-- An address that is declared twice on a new file, where the first write fails: the second declaration
is accepted, and a store that is opened then does not know the address. -/
theorem accepted_declaration_is_lost :
    let key : Key := ⟨"floating_ip", "web"⟩
    let spec : FloatingIpSpec := { projectId := "p", isp := "BGP", bandwidth := 1 }
    let file : Snapshot := { path := "state.json" }
    let opened : Store FloatingIpSpec := { snapshot := some file }
    let declared := (StoreCall.apply key spec).perform opened (.temporaryFailed "full")
    let redeclared := (StoreCall.apply key spec).perform declared.1 .written
    Store.ofSnapshot? file = .ok opened ∧ redeclared.2.isOk ∧
      redeclared.1.objects.standing? key = some (spec, none, false) ∧
      redeclared.1.snapshot = some file ∧ opened.objects.standing? key = none := by
  intro key spec file opened declared redeclared
  exact ⟨rfl, by decide, by decide, by decide, by decide⟩

end StoreCall

end CloudKeeper
