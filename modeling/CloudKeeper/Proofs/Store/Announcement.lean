import CloudKeeper.Kind.Family
import CloudKeeper.Proofs.Store.Intent
import CloudKeeper.Time.Epoch
/-!
Which changes of an author are announced. The test whether anything changes looks at memory, and memory
keeps a change whose write failed. So a change is announced by the call that makes it or not at all:
repeating a call that failed finds nothing to do, answers that all is well, and announces nothing.
-/
namespace CloudKeeper

/-- Parameters whose comparison finds everything the same as itself. -/
class ReflexiveSpec (S : Type) [Spec S] : Prop where
  same_self : ∀ spec : S, Spec.same spec spec = true

instance : ReflexiveSpec VolumeSpec := ⟨fun _ => decide_eq_true rfl⟩
instance : ReflexiveSpec FloatingIpSpec := ⟨fun _ => decide_eq_true rfl⟩
instance : ReflexiveSpec VirtualMachineSpec := ⟨fun _ => decide_eq_true rfl⟩

variable {S : Type}

namespace StoreCall

/-- The announcement of the change that an operation makes, for the operations that have one. -/
def announcement : StoreCall S → Option Event
  | .apply key _ => some ⟨.applied, key⟩
  | .requestDeletion key _ => some ⟨.deletionRequested, key⟩
  | .remove key => some ⟨.removed, key⟩
  | .setExternalId .. | .clearExternalId _ | .setCondition .. => none

/-- Whether one operation asks again for what another has asked for. A deletion can be requested again
at another time. -/
def Repeats : StoreCall S → StoreCall S → Prop
  | .requestDeletion key _, again => ∃ now, again = .requestDeletion key now
  | first, again => again = first

variable [Spec S]

/-- No operation of a run changes what the author wants of an object. -/
def Steady (key : Key) : Store S → List (StoreCall S × WriteOutcome) → Prop
  | _, [] => True
  | s, (c, write) :: rest =>
    (c.perform s write).1.objects.intent? key = s.objects.intent? key
      ∧ Steady key (c.perform s write).1 rest

omit [Spec S] in
private theorem announcement_key {c : StoreCall S} {event : Event}
    (announces : c.announcement = some event) : event.key = c.key := by
  cases c <;> cases announces <;> rfl

/-- A write announces what belongs to its operation. It is made only for a change: the object that it
leaves in memory, written or not, is no longer what its author wanted before. -/
private theorem commit_announces [ReflexiveSpec S] {objects changed unwritten} {event : Option Event}
    (c : StoreCall S) (commits : c.effect objects = .commit changed unwritten event) :
    event = c.announcement ∧
      (event ≠ none → unwritten = changed ∧ changed.intent? c.key ≠ objects.intent? c.key) := by
  cases c with
  | apply key spec =>
    simp only [effect] at commits
    cases found : objects.get? key with
    | none =>
      simp only [found] at commits
      cases commits
      refine ⟨rfl, fun _ => ⟨rfl, ?_⟩⟩
      rw [StoreCall.key, SortedMap.intent_insert, SortedMap.intent?, found]
      exact Option.some_ne_none _
    | some o =>
      simp only [found] at commits
      split at commits
      case isTrue changes =>
        cases commits
        refine ⟨rfl, fun _ => ⟨rfl, fun same => ?_⟩⟩
        rw [StoreCall.key, SortedMap.intent_insert, SortedMap.intent?, found] at same
        simp only [Option.map_some, Option.some.injEq, Declared.intent, applied,
          Prod.mk.injEq] at same
        obtain ⟨specs, flags⟩ := same
        rw [← flags] at changes
        split at specs
        case isTrue alike =>
          rw [alike] at changes
          exact absurd changes Bool.false_ne_true
        case isFalse differ =>
          rw [specs] at differ
          exact differ (ReflexiveSpec.same_self _)
      case isFalse => cases commits
  | requestDeletion key now =>
    simp only [effect] at commits
    cases found : objects.get? key with
    | none =>
      rw [found] at commits
      cases commits
    | some o =>
      simp only [found] at commits
      split at commits
      case isTrue => cases commits
      case isFalse fresh =>
        cases commits
        refine ⟨rfl, fun _ => ⟨rfl, fun same => fresh ?_⟩⟩
        rw [StoreCall.key, SortedMap.intent_insert, SortedMap.intent?, found] at same
        exact (congrArg Prod.snd (Option.some.inj same)).symm
  | setExternalId key id =>
    simp only [effect] at commits
    split at commits
    · cases commits
    · split at commits
      · cases commits
      · split at commits <;> cases commits
        exact ⟨rfl, fun announced => absurd rfl announced⟩
  | clearExternalId key =>
    simp only [effect] at commits
    split at commits
    · cases commits
    · split at commits <;> cases commits
      exact ⟨rfl, fun announced => absurd rfl announced⟩
  | setCondition key now state =>
    simp only [effect] at commits
    split at commits <;> cases commits
  | remove key =>
    simp only [effect] at commits
    cases found : objects.get? key with
    | none =>
      rw [found] at commits
      cases commits
    | some o =>
      rw [found] at commits
      cases commits
      refine ⟨rfl, fun _ => ⟨rfl, fun same => ?_⟩⟩
      rw [StoreCall.key, SortedMap.intent?, SortedMap.intent?, SortedMap.get?_erase, if_pos rfl,
        found] at same
      exact Option.some_ne_none _ same.symm

/-- An operation that announces something has made a change that its key can be told by, and has
succeeded; otherwise it announces nothing. -/
private theorem perform_sent [ReflexiveSpec S] (c : StoreCall S) (s : Store S) (write : WriteOutcome) :
    (c.perform s write).1.sent = s.sent ∨
      ∃ event, c.announcement = some event ∧ (c.perform s write).1.sent = event :: s.sent ∧
        (c.perform s write).1.objects.intent? c.key ≠ s.objects.intent? c.key := by
  rw [perform_eq]
  cases does : c.effect s.objects with
  | answer objects result => exact .inl rfl
  | commit changed unwritten event =>
    obtain ⟨announced, change⟩ := commit_announces c does
    simp only [Effect.run]
    obtain ⟨files, written | ⟨e, unwritten⟩⟩ :=
      Store.persist_cases { s with objects := changed } write
    · rw [written]
      cases event with
      | none => exact .inl rfl
      | some event => exact .inr ⟨event, announced.symm, rfl, (change (Option.some_ne_none _)).2⟩
    · rw [unwritten]
      exact .inl rfl

/-- A run that leaves alone what the author wants of an object announces nothing about it. -/
private theorem steady_announces_nothing [ReflexiveSpec S] {key : Key}
    {calls : List (StoreCall S × WriteOutcome)} {s : Store S} (steady : Steady key s calls) :
    (after s calls).objects.intent? key = s.objects.intent? key ∧
      ∃ news, (after s calls).sent = news ++ s.sent ∧ ∀ event ∈ news, event.key ≠ key := by
  induction calls generalizing s with
  | nil => exact ⟨rfl, [], rfl, fun event member => absurd member List.not_mem_nil⟩
  | cons call rest ih =>
    obtain ⟨c, write⟩ := call
    obtain ⟨kept, later⟩ := steady
    obtain ⟨intent, news, sent, others⟩ := ih later
    refine ⟨intent.trans kept, ?_⟩
    rcases perform_sent c s write with silent | ⟨event, announces, told, changed⟩
    · rw [silent] at sent
      exact ⟨news, sent, others⟩
    · rw [told] at sent
      refine ⟨news ++ [event], ?_, ?_⟩
      · rw [List.append_assoc]
        exact sent
      · intro e member same
        rcases List.mem_append.1 member with early | last
        · exact others e early same
        · rw [List.mem_singleton.1 last, announcement_key announces] at same
          rw [same] at changed
          exact changed kept

omit [Spec S] in
private theorem get_of_intent {objects : SortedMap Key (Declared S)} {key : Key} {o : Declared S}
    (kept : objects.intent? key = some o.intent) :
    ∃ now, objects.get? key = some now ∧ now.spec = o.spec ∧
      now.isDeletionRequested = o.isDeletionRequested := by
  obtain ⟨now, found, intent⟩ := Option.map_eq_some_iff.1 kept
  exact ⟨now, found, congrArg Prod.fst intent, congrArg Prod.snd intent⟩

/-- Once an operation with an announcement has changed its object, asking for the same again finds
nothing left to do, as long as the author's wish has not changed. -/
private theorem repeated_answers [ReflexiveSpec S] {objects changed unwritten later} {event : Event}
    {c again : StoreCall S} (commits : c.effect objects = .commit changed unwritten (some event))
    (repeats : c.Repeats again) (kept : later.intent? c.key = changed.intent? c.key) :
    again.effect later = .answer later (.ok ()) := by
  cases c with
  | apply key spec =>
    cases repeats
    simp only [effect] at commits
    have settled : ∃ o : Declared S, later.intent? key = some o.intent ∧
        Spec.same o.spec spec = true ∧ o.isDeletionRequested = false := by
      cases found : objects.get? key with
      | none =>
        rw [found] at commits
        cases commits
        rw [StoreCall.key, SortedMap.intent_insert] at kept
        exact ⟨_, kept, ReflexiveSpec.same_self _, rfl⟩
      | some o =>
        simp only [found] at commits
        split at commits
        case isFalse => cases commits
        case isTrue =>
          cases commits
          rw [StoreCall.key, SortedMap.intent_insert] at kept
          refine ⟨_, kept, ?_, rfl⟩
          by_cases alike : Spec.same o.spec spec = true
          · rw [applied, if_pos alike]
            exact alike
          · rw [applied, if_neg alike]
            exact ReflexiveSpec.same_self _
    obtain ⟨o, intent, alike, unrequested⟩ := settled
    obtain ⟨now, found, specs, flags⟩ := get_of_intent intent
    simp only [effect, found, specs, flags, alike, unrequested, Bool.not_true, Bool.or_self,
      Bool.false_eq_true, ↓reduceIte]
  | requestDeletion key now =>
    obtain ⟨retried, rfl⟩ := repeats
    simp only [effect] at commits
    split at commits
    · cases commits
    · split at commits <;> cases commits
      rw [StoreCall.key, SortedMap.intent_insert] at kept
      obtain ⟨now, found, -, requested⟩ := get_of_intent kept
      simp only [effect, found, if_pos (show now.isDeletionRequested = true from requested)]
  | remove key =>
    cases repeats
    simp only [effect] at commits
    split at commits <;> cases commits
    rw [StoreCall.key, SortedMap.intent?, SortedMap.intent?, SortedMap.get?_erase, if_pos rfl] at kept
    simp only [effect, Option.map_eq_none_iff.1 kept]
  | setExternalId key id => exact absurd (commit_announces _ commits).1 (Option.some_ne_none _)
  | clearExternalId key => exact absurd (commit_announces _ commits).1 (Option.some_ne_none _)
  | setCondition key now state => exact absurd (commit_announces _ commits).1 (Option.some_ne_none _)

private theorem commit_outcome (s : Store S) (write : WriteOutcome)
    (changed : SortedMap Key (Declared S)) (event : Event) (c : StoreCall S)
    (commits : c.effect s.objects = .commit changed changed (some event)) :
    (c.perform s write).1.objects = changed ∧
      ((c.perform s write).2 = .ok () ∧ (c.perform s write).1.sent = event :: s.sent ∨
        (c.perform s write).2 ≠ .ok () ∧ (c.perform s write).1.sent = s.sent) := by
  rw [perform_eq, commits, Effect.run]
  obtain ⟨files, written | ⟨e, failed⟩⟩ := Store.persist_cases { s with objects := changed } write
  · rw [written]
    exact ⟨rfl, .inl ⟨rfl, rfl⟩⟩
  · rw [failed]
    refine ⟨rfl, .inr ⟨fun succeeds => ?_, rfl⟩⟩
    cases succeeds

/-- A change of the author is announced by the call that makes it or by none. Take any operation that
declares an object or changes it, requests its deletion or drops it, whether its write succeeds or not;
let others follow that leave the author's wish for the object alone; then repeat the operation. It is
accepted in any case, and the change has been announced if and only if the first call had already
succeeded. -/
theorem change_announced_iff_first_call_succeeded [ReflexiveSpec S] (s : Store S) (c : StoreCall S)
    (write : WriteOutcome) (event : Event) (announces : c.announcement = some event)
    (changes : (c.perform s write).1.objects.intent? c.key ≠ s.objects.intent? c.key)
    (between : List (StoreCall S × WriteOutcome))
    (steady : Steady c.key (c.perform s write).1 between) (again : StoreCall S)
    (repeats : c.Repeats again) (retry : WriteOutcome) :
    (again.perform (after (c.perform s write).1 between) retry).2 = .ok () ∧
      ((∃ news, (again.perform (after (c.perform s write).1 between) retry).1.sent = news ++ s.sent
        ∧ event ∈ news) ↔ (c.perform s write).2 = .ok ()) := by
  obtain ⟨kept, others, sent, unrelated⟩ := steady_announces_nothing steady
  cases does : c.effect s.objects with
  | answer answered result =>
    rw [perform_eq, does] at changes
    exact absurd (SortedMap.intent_of_bare (answer_keeps_bare does c.key)) changes
  | commit changed unwritten announced =>
    obtain rfl : announced = some event := (commit_announces c does).1.trans announces
    obtain ⟨rfl, -⟩ := (commit_announces c does).2 (Option.some_ne_none event)
    obtain ⟨memory, told⟩ := commit_outcome s write unwritten event c does
    rw [memory] at kept
    have idle : again.perform (after (c.perform s write).1 between) retry =
        (after (c.perform s write).1 between, .ok ()) := by
      rw [perform_eq, repeated_answers does repeats kept]
      rfl
    rw [idle, sent]
    refine ⟨rfl, ?_⟩
    rcases told with ⟨succeeded, announced⟩ | ⟨failed, unannounced⟩
    · refine ⟨fun _ => succeeded, fun _ => ⟨others ++ [event], ?_, ?_⟩⟩
      · rw [announced, List.append_assoc]
        rfl
      · exact List.mem_append_right _ (List.mem_singleton_self event)
    · constructor
      · rintro ⟨news, split, member⟩
        rw [unannounced] at split
        rw [← List.append_cancel_right split] at member
        exact absurd (announcement_key announces) (unrelated event member)
      · intro succeeded
        exact absurd succeeded failed

/-- An address that is declared twice, where the first write fails and a condition is published in
between. -/
theorem change_announced_iff_first_call_succeeded_address :
    let key : Key := ⟨"floating_ip", "web"⟩
    let spec : FloatingIpSpec := { projectId := "p", isp := "BGP", bandwidth := 1 }
    let s : Store FloatingIpSpec := { snapshot := some { path := "state.json" } }
    let failed := (StoreCall.apply key spec).perform s (.temporaryFailed "full")
    let between := [(StoreCall.setCondition key .epoch .creating, WriteOutcome.written)]
    failed.1.objects.intent? key ≠ s.objects.intent? key ∧ Steady key failed.1 between ∧
      ((StoreCall.apply key spec).perform (after failed.1 between) .written).2 = .ok () ∧
      ((∃ news, ((StoreCall.apply key spec).perform (after failed.1 between) .written).1.sent =
        news ++ s.sent ∧ ⟨.applied, key⟩ ∈ news) ↔ failed.2 = .ok ()) := by
  intro key spec s failed between
  have changes : failed.1.objects.intent? key ≠ s.objects.intent? key := by decide
  have steady : Steady key failed.1 between := ⟨by decide, trivial⟩
  exact ⟨changes, steady, change_announced_iff_first_call_succeeded s (.apply key spec)
    (.temporaryFailed "full") ⟨.applied, key⟩ rfl changes between steady (.apply key spec) rfl .written⟩

/-- An address that is declared, whose deletion is requested and that is removed, each of the three
failing once and then being repeated. All three repetitions are accepted; nothing was announced. -/
theorem repeated_changes_go_unannounced :
    let key : Key := ⟨"floating_ip", "web"⟩
    let spec : FloatingIpSpec := { projectId := "p", isp := "BGP", bandwidth := 1 }
    let s : Store FloatingIpSpec := { snapshot := some { path := "state.json" } }
    let full := WriteOutcome.temporaryFailed "full"
    let declared := (StoreCall.apply key spec).perform s full
    let redeclared := (StoreCall.apply key spec).perform declared.1 .written
    let requested := (StoreCall.requestDeletion key .epoch).perform redeclared.1 full
    let rerequested := (StoreCall.requestDeletion key .epoch).perform requested.1 .written
    let removed := (StoreCall.remove key).perform rerequested.1 full
    let reremoved := (StoreCall.remove key).perform removed.1 .written
    declared.1.objects.intent? key = some (spec, false) ∧
      requested.1.objects.intent? key = some (spec, true) ∧
      removed.1.objects.intent? key = none ∧
      redeclared.2.isOk ∧ rerequested.2.isOk ∧ reremoved.2.isOk ∧
      reremoved.1.sent = [] := by
  decide

end StoreCall

end CloudKeeper
