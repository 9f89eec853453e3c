import CloudKeeper.Cycle.Reconcile
/-!
The order in which a cycle may do things. Each deed of a cycle is due because of the deeds before it, and
which deeds may precede which is told here without the program; that the program keeps to it is shown by
one walk along its paths, whatever the store, the table of unrecorded identifiers and the service reply.
-/
namespace CloudKeeper

variable {S : Type}

/-- Something that a cycle has done, with the reply. -/
inductive Deed (S : Type)
  | acted (action : Action S) (reply : action.Reply)
  | called (call : RemoteCall S) (reply : call.Reply)

namespace Deed

/-- The operations of the remote calls among deeds. -/
def operations : List (Deed S) → List Operation
  | [] => []
  | .acted _ _ :: past => operations past
  | .called call _ :: past => call.operation :: operations past

/-- Neither has the object been removed, nor does a resource that was just created wait for its identifier
to be recorded. -/
structure Loose (past : List (Deed S)) : Prop where
  unremoved : .acted .remove (.ok ()) ∉ past
  unowed : ∀ o id earlier, past ≠ .called (.create o) (some (.ok id)) :: earlier

end Deed

/-- When a cycle acts on the store or the table of unrecorded identifiers: what it has done before, the
latest first, and what it does then. -/
inductive Action.Due : List (Deed S) → Action S → Prop
  | read : Due [] .read
  | recall {o : Declared S} (unrecorded : o.externalId = none) :
    Due [.acted .read (some o)] .recall
  | record_remembered {id : String} {past : List (Deed S)} :
    Due (.acted .recall (some id) :: past) (.recordId id)
  | record_found {o : Declared S} {id : String} {past : List (Deed S)} :
    Due (.called (.lookup o) (some (.ok (some id))) :: past) (.recordId id)
  | record_created {o : Declared S} {id : String} {past : List (Deed S)} :
    Due (.called (.create o) (some (.ok id)) :: past) (.recordId id)
  | discard_recorded {id : String} {past : List (Deed S)} :
    Due (.acted (.recordId id) (.ok ()) :: past) .discard
  | remember {id : String} {e : StoreError} {past : List (Deed S)}
    (refused : ∀ key existing attempted, e ≠ .conflict key existing attempted) :
    Due (.acted (.recordId id) (.error e) :: past) (.remember id)
  | clear_absent {o : Declared S} {id : String} {past : List (Deed S)} :
    Due (.called (.observe o id) (some (.ok .absent)) :: past) .clearId
  | clear_notFound {o : Declared S} {id : String} {past : List (Deed S)} :
    Due (.called (.observe o id) (some (.error .notFound)) :: past) .clearId
  | remove_deleted {o : Declared S} {id : String} {past : List (Deed S)} :
    Due (.called (.delete o id) (some (.ok ())) :: past) .remove
  | remove_notFound {o : Declared S} {id : String} {past : List (Deed S)} :
    Due (.called (.delete o id) (some (.error .notFound)) :: past) .remove
  | remove_unknown {o : Declared S} {past : List (Deed S)} :
    Due (.called (.lookup o) (some (.ok none)) :: past) .remove
  | discard_removed {past : List (Deed S)} :
    Due (.acted .remove (.ok ()) :: past) .discard
  | publish {state : ConditionState} {past : List (Deed S)} (loose : Deed.Loose past) :
    Due past (.publish state)

/-- When a cycle makes a remote call: what it has done before, the latest first, and what it calls then.
All that it has done is told, so nothing else comes before a call. -/
inductive RemoteCall.Warranted (kind : Kind S) : List (Deed S) → RemoteCall S → Prop
  | observe {o : Declared S} {id : String} (wanted : o.isDeletionRequested = false)
    (recorded : o.externalId = some id) : Warranted kind [.acted .read (some o)] (.observe o id)
  | update {o : Declared S} {id : String} {r : RemoteResource} (wanted : o.isDeletionRequested = false)
    (recorded : o.externalId = some id) (ready : kind.readiness r = .ready)
    (outdated : kind.isUpToDate o.spec r = false) (valid : kind.validate o.spec = .ok ()) :
    Warranted kind [.called (.observe o id) (some (.ok (.present r))), .acted .read (some o)]
      (.update o r)
  | lookup {o : Declared S} (unrecorded : o.externalId = none)
    (valid : o.isDeletionRequested = false → kind.validate o.spec = .ok ()) :
    Warranted kind [.acted .recall none, .acted .read (some o)] (.lookup o)
  | create {o : Declared S} (wanted : o.isDeletionRequested = false) (unrecorded : o.externalId = none)
    (valid : kind.validate o.spec = .ok ()) :
    Warranted kind
      [.called (.lookup o) (some (.ok none)), .acted .recall none, .acted .read (some o)] (.create o)
  | delete_recorded {o : Declared S} {id : String} {published : Except StoreError Bool}
    (unwanted : o.isDeletionRequested = true) (recorded : o.externalId = some id) :
    Warranted kind [.acted (.publish .deleting) published, .acted .read (some o)] (.delete o id)
  | delete_remembered {o : Declared S} {id : String} {published : Except StoreError Bool}
    (unwanted : o.isDeletionRequested = true) (unrecorded : o.externalId = none) :
    Warranted kind
      [.acted (.publish .deleting) published, .acted .recall (some id), .acted .read (some o)]
      (.delete o id)
  | delete_found {o : Declared S} {id : String} {published : Except StoreError Bool}
    (unwanted : o.isDeletionRequested = true) (unrecorded : o.externalId = none) :
    Warranted kind
      [.acted (.publish .deleting) published, .called (.lookup o) (some (.ok (some id))),
        .acted .recall none, .acted .read (some o)] (.delete o id)

/-- How a cycle ends, given what it has done. -/
inductive CycleResult.Earned : List (Deed S) → CycleResult → Prop
  | gone : Earned [.acted .read none] (.ok .gone)
  | deleted {past : List (Deed S)} :
    Earned (.acted .discard () :: .acted .remove (.ok ()) :: past) (.ok .deleted)
  | other {result : CycleResult} {past : List (Deed S)} (loose : Deed.Loose past)
    (stays : result ≠ .ok .gone ∧ result ≠ .ok .deleted) : Earned past result

/-- A deed is due after those before it. -/
def Deed.Lawful (kind : Kind S) (past : List (Deed S)) : Deed S → Prop
  | .acted action _ => action.Due past
  | .called call _ => call.Warranted kind past

/-- Deeds of one cycle, the latest first. -/
def Course (kind : Kind S) : List (Deed S) → Prop
  | [] => True
  | deed :: past => deed.Lawful kind past ∧ Course kind past

namespace Cycle

/-- However a cycle goes on after what it has done, it does what is due. -/
def Along (kind : Kind S) : List (Deed S) → Cycle S CycleResult → Prop
  | past, .done result => result.Earned past
  | past, .step action next =>
    action.Due past ∧ ∀ reply, Along kind (.acted action reply :: past) (next reply)
  | past, .call c next =>
    c.Warranted kind past ∧ ∀ reply, Along kind (.called c reply :: past) (next reply)

end Cycle

namespace Deed.Loose

variable {past : List (Deed S)}

theorem nil : Loose ([] : List (Deed S)) :=
  ⟨List.not_mem_nil, fun _ _ _ => nofun⟩

/-- A deed that neither removes the object nor creates a resource leaves nothing to be done. -/
theorem acted (loose : Loose past) (action : Action S) (reply : action.Reply)
    (unremoved : Deed.acted action reply ≠ .acted .remove (.ok ())) :
    Loose (.acted action reply :: past) where
  unremoved member := (List.mem_cons.1 member).elim (fun same => unremoved same.symm) loose.unremoved
  unowed _ _ _ := nofun

theorem called (loose : Loose past) (c : RemoteCall S) (reply : c.Reply)
    (unowed : ∀ o id, Deed.called c reply ≠ .called (.create o) (some (.ok id))) :
    Loose (.called c reply :: past) where
  unremoved member := (List.mem_cons.1 member).elim nofun loose.unremoved
  unowed o id _ same := unowed o id (List.cons.inj same).1

end Deed.Loose

namespace Cycle

open Deed (Loose)

variable {kind : Kind S} {past : List (Deed S)}

private theorem along_fail (loose : Loose past) (e : ReconcileError) :
    (Reconcile.fail e : Cycle S CycleResult).Along kind past :=
  .other loose ⟨nofun, nofun⟩

private theorem along_finish (loose : Loose past) {outcome : Outcome}
    (stays : outcome.requeue ≠ .forget) : (Reconcile.finish outcome).Along kind past := by
  refine .other loose ⟨?_, ?_⟩
  · rintro ⟨⟩
    exact stays rfl
  · rintro ⟨⟩
    exact stays rfl

private theorem along_publishing (loose : Loose past) {state : ConditionState}
    {next : Cycle S CycleResult}
    (along : ∀ reply, Loose (.acted (.publish state) reply :: past) →
      next.Along kind (.acted (.publish state) reply :: past)) :
    (publishing state next).Along kind past :=
  ⟨.publish loose, fun reply => along reply (loose.acted (.publish state) reply nofun)⟩

/-- A resource is recorded when it was obtained, whatever was done before. -/
private theorem along_record {id : String} (due : (Action.recordId id).Due past)
    (unremoved : .acted .remove (.ok ()) ∉ past) {next : Cycle S CycleResult}
    (along : ∀ past, Loose past → next.Along kind past) :
    (Reconcile.record id next).Along kind past := by
  have after : ∀ reply, Loose (.acted (.recordId id) reply :: past) := fun reply =>
    ⟨fun member => (List.mem_cons.1 member).elim nofun unremoved, fun _ _ _ => nofun⟩
  refine ⟨due, ?_⟩
  rintro (e | _)
  · cases e with
    | conflict named existing attempted => exact along_fail (after _) _
    | notFound missing =>
      exact ⟨.remember nofun, fun _ => along_fail ((after _).acted (.remember id) () nofun) _⟩
    | persist why =>
      exact ⟨.remember nofun, fun _ => along_fail ((after _).acted (.remember id) () nofun) _⟩
  · exact ⟨.discard_recorded, fun _ => along _ ((after _).acted .discard () nofun)⟩

/-- A call that fails or is given up ends the cycle. -/
private theorem along_calling {c : RemoteCall S} (warranted : c.Warranted kind past)
    (loose : Loose past) {next : c.Answer → Cycle S CycleResult}
    (along : ∀ answer, (next answer).Along kind (.called c (some (.ok answer)) :: past)) :
    (Reconcile.calling c next).Along kind past := by
  refine ⟨warranted, ?_⟩
  rintro (_ | e | answer)
  · exact along_fail (loose.called c none (by rintro _ _ ⟨⟩)) _
  · exact along_fail (loose.called c (some (.error e)) (by rintro _ _ ⟨⟩)) _
  · exact along answer

private theorem along_validated {spec : S} {next : Cycle S CycleResult} (loose : Loose past)
    (along : kind.validate spec = .ok () → next.Along kind past) :
    (Reconcile.validated kind spec next).Along kind past := by
  unfold Reconcile.validated
  split
  case h_1 valid => exact along valid
  case h_2 => exact along_fail loose _

section Paths

variable {o : Declared S}

private theorem loose_read : Loose [.acted .read (some o)] :=
  Loose.nil.acted .read (some o) nofun

private theorem loose_recall (id : Option String) :
    Loose [.acted .recall id, .acted .read (some o)] :=
  loose_read.acted .recall id nofun

private theorem loose_lookup (found : Option String) :
    Loose [.called (.lookup o) (some (.ok found)), .acted .recall none, .acted .read (some o)] :=
  (loose_recall none).called (.lookup o) _ fun _ _ => nofun

private theorem along_create (wanted : o.isDeletionRequested = false)
    (unrecorded : o.externalId = none) :
    (Reconcile.create kind o).Along kind [.acted .read (some o)] := by
  refine ⟨.recall unrecorded, ?_⟩
  rintro (_ | id)
  · refine along_validated (loose_recall none) fun valid => ?_
    refine along_calling (.lookup unrecorded fun _ => valid) (loose_recall none) ?_
    rintro (_ | id)
    · refine along_calling (.create wanted unrecorded valid) (loose_lookup none) fun id => ?_
      refine along_record .record_created ?_ fun past loose => ?_
      · exact fun member => (List.mem_cons.1 member).elim nofun (loose_lookup none).unremoved
      · exact along_publishing loose fun _ loose => along_publishing loose fun _ loose =>
          along_finish loose nofun
    · exact along_record .record_found (loose_lookup (some id)).unremoved fun past loose =>
        along_finish loose nofun
  · exact along_record .record_remembered (loose_recall (some id)).unremoved fun past loose =>
      along_finish loose nofun

private theorem along_absent (loose : Loose past) (due : Action.clearId.Due past) (id : String) :
    (Reconcile.absent kind id).Along kind past := by
  unfold Reconcile.absent
  cases kind.policy.onAbsent with
  | fail => exact along_fail loose _
  | recreate =>
    refine ⟨due, ?_⟩
    rintro (e | _)
    · exact along_fail (loose.acted .clearId (.error e) nofun) _
    · exact along_publishing (loose.acted .clearId (.ok ()) nofun) fun _ loose =>
        along_finish loose nofun

private theorem along_observe {id : String} (wanted : o.isDeletionRequested = false)
    (recorded : o.externalId = some id) :
    (Reconcile.observe kind o id).Along kind [.acted .read (some o)] := by
  have observed : ∀ reply, Loose [.called (.observe o id) reply, .acted .read (some o)] :=
    fun reply => loose_read.called (.observe o id) reply fun _ _ => nofun
  refine ⟨.observe wanted recorded, ?_⟩
  rintro (_ | e | _ | r)
  · exact along_fail (observed none) _
  · cases e with
    | notFound => exact along_absent (observed _) .clear_notFound id
    | _ => exact along_fail (observed _) _
  · exact along_absent (observed _) .clear_absent id
  · have loose := observed (some (.ok (.present r)))
    simp only
    unfold Reconcile.found
    cases ready : kind.readiness r with
    | transitional => exact along_finish loose nofun
    | failed =>
      exact along_publishing loose fun _ loose => along_publishing loose fun _ loose =>
        along_finish loose nofun
    | ready =>
      dsimp only
      split
      case isTrue =>
        exact along_publishing loose fun _ loose => along_publishing loose fun _ loose =>
          along_finish loose nofun
      case isFalse outdated =>
        refine along_validated loose fun valid => ?_
        refine along_calling (.update wanted recorded ready (Bool.eq_false_iff.2 outdated) valid) loose
          fun _ => ?_
        exact along_publishing (loose.called (.update o r) _ fun _ _ => nofun) fun _ loose =>
          along_finish loose nofun

private theorem along_release (loose : Loose past) (due : Action.remove.Due past) :
    Reconcile.release.Along kind past := by
  refine ⟨due, ?_⟩
  rintro (e | _)
  · exact along_fail (loose.acted .remove (.error e) nofun) _
  · exact ⟨.discard_removed, fun _ => .deleted⟩

private theorem along_delete {id : String} (loose : Loose past)
    (warranted : ∀ published, (RemoteCall.delete o id).Warranted kind
      (.acted (.publish .deleting) published :: past)) :
    (Reconcile.delete o id).Along kind past := by
  refine ⟨.publish loose, fun published => ⟨warranted published, ?_⟩⟩
  have deleted : ∀ reply, Loose
      (.called (.delete o id) reply :: .acted (.publish .deleting) published :: past) :=
    fun reply => (loose.acted (.publish .deleting) published nofun).called
      (.delete o id) reply fun _ _ => nofun
  rintro (_ | e | _)
  · exact along_fail (deleted none) _
  · cases e with
    | notFound => exact along_release (deleted _) .remove_notFound
    | _ => exact along_fail (deleted _) _
  · exact along_release (deleted _) .remove_deleted

private theorem along_finalize (unwanted : o.isDeletionRequested = true) :
    (Reconcile.finalize kind o).Along kind [.acted .read (some o)] := by
  unfold Reconcile.finalize
  cases recorded : o.externalId with
  | some id => exact along_delete loose_read fun _ => .delete_recorded unwanted recorded
  | none =>
    refine ⟨.recall recorded, ?_⟩
    rintro (_ | id)
    · refine along_calling (.lookup recorded fun wanted => ?_) (loose_recall none) ?_
      · cases unwanted.symm.trans wanted
      rintro (_ | id)
      · simp only
        unfold Reconcile.releaseUnknown
        cases kind.policy.onDeleteWithoutId with
        | fail => exact along_fail (loose_lookup none) _
        | finalize => exact along_release (loose_lookup none) .remove_unknown
      · exact along_delete (loose_lookup (some id)) fun _ => .delete_found unwanted recorded
    · exact along_delete (loose_recall (some id)) fun _ => .delete_remembered unwanted recorded

private theorem along_body : (Reconcile.body kind).Along kind [] := by
  refine ⟨.read, ?_⟩
  rintro (_ | o)
  · exact .gone
  · dsimp only
    split
    case isTrue unwanted => exact along_finalize unwanted
    case isFalse wanted =>
      have wanted := Bool.eq_false_iff.2 wanted
      cases recorded : o.externalId with
      | some id => exact along_observe wanted recorded
      | none => exact along_create wanted recorded

end Paths

/-- The failure of a cycle is published while nothing else is to be done. -/
private theorem along_noted {c : Cycle S CycleResult} (along : c.Along kind past) :
    (c.bind Reconcile.noted).Along kind past := by
  induction c generalizing past with
  | done result =>
    unfold bind Reconcile.noted
    split
    · exact along
    · exact along
    · exact along
    · cases along with
      | other loose =>
        exact along_publishing loose fun _ loose => .other loose ⟨nofun, nofun⟩
  | step action next ih => exact ⟨along.1, fun reply => ih reply (along.2 reply)⟩
  | call c next ih => exact ⟨along.1, fun reply => ih reply (along.2 reply)⟩

/-- Every path of a cycle does only what is due. -/
theorem reconcile_along (kind : Kind S) : (reconcile kind).Along kind [] :=
  along_noted along_body

end Cycle

namespace Course

variable {kind : Kind S} {past : List (Deed S)}

theorem lawful {later : List (Deed S)} {deed : Deed S} (course : Course kind (later ++ deed :: past)) :
    deed.Lawful kind past := by
  induction later with
  | nil => exact course.1
  | cons _ later ih => exact ih course.2

/-- A cycle makes at most two calls, of which only the last may change the remote side. -/
theorem operations (course : Course kind past) : (Deed.operations past).reverse ∈
    [[], [.observe], [.observe, .update], [.lookup], [.lookup, .create], [.delete],
      [.lookup, .delete]] := by
  induction past with
  | nil => exact List.mem_cons_self
  | cons deed past ih =>
    cases deed with
    | acted action reply => exact ih course.2
    | called c reply =>
      -- a warrant tells all that came before the call
      cases course.1 <;> simp [Deed.operations, RemoteCall.operation]

/-- A resource that was created is recorded before anything else is done. -/
theorem created {later : List (Deed S)} {o : Declared S} {id : String}
    (course : Course kind (later ++ .called (.create o) (some (.ok id)) :: past)) :
    later = [] ∨ ∃ between reply, later = between ++ [.acted (.recordId id) reply] := by
  rcases List.eq_nil_or_concat later with rfl | ⟨between, deed, rfl⟩
  · exact .inl rfl
  · rw [List.concat_append] at course
    cases deed with
    | acted action reply =>
      cases course.lawful with
      | record_created => exact .inr ⟨between, reply, List.concat_eq_append⟩
      | publish loose => exact absurd rfl (loose.unowed o id past)
    | called c reply => cases course.lawful

end Course

end CloudKeeper
