import CloudKeeper.Kind.FloatingIp
import CloudKeeper.Proofs.Cycle.Custody
import CloudKeeper.Proofs.Cycle.Run
import CloudKeeper.Proofs.Cycle.Solo
import CloudKeeper.Time.Epoch
/-!
What a failed cycle leaves behind. Unless it was the store that failed, all that the cycle has done on this
side is to publish: that a deletion is under way, if it came to that, and why it failed. A cycle that starts
after a shutdown has been called for makes no call, and takes back nothing that only an answer could have
told it to.
-/
namespace CloudKeeper

variable {S : Type}

/-- Whether it was the store that failed. -/
def ReconcileError.isOfStore : ReconcileError → Bool
  | .store _ | .identityLost .. => true
  | .client .. | .validation _ | .externalResourceMissing _ | .missingIdentity | .cancelled => false

/-- What is published about a failure. A shutdown is no failure of the object. -/
def ReconcileError.notice (error : ReconcileError) : List ConditionState :=
  if error = .cancelled then [] else [.reconcileError error.message]

namespace Deed

/-- Whether a deed is the call that deletes the resource, made or given up. -/
def isDeletion : Deed S → Bool
  | .called (.delete ..) _ => true
  | _ => false

/-- Whether a deed takes back an identifier or removes the object. -/
def isWithdrawal : Deed S → Bool
  | .acted .clearId _ | .acted .remove _ => true
  | _ => false

/-- What is published before a resource is deleted. -/
def warning (past : List (Deed S)) : List ConditionState :=
  if past.any isDeletion then [.deleting] else []

/-- All that has changed on this side is what some states say. -/
structure Told (past : List (Deed S)) (states : List ConditionState) : Prop where
  mild : ∀ deed ∈ past, deed.isMild = true
  published : Deed.published past = states

/-- Nothing has changed on this side, and the deletion of the resource has not been tried. -/
structure Clean (past : List (Deed S)) : Prop extends Told past [] where
  undeleted : past.any isDeletion = false

namespace Clean

variable {past : List (Deed S)}

theorem told (clean : Clean past) : Told past (warning past) := by
  have none : warning past = [] := by simp only [warning, clean.undeleted, Bool.false_eq_true, if_false]
  exact none ▸ clean.toTold

theorem nil : Clean ([] : List (Deed S)) :=
  ⟨⟨fun _ member => absurd member List.not_mem_nil, rfl⟩, rfl⟩

theorem read (clean : Clean past) (o : Option (Declared S)) : Clean (.acted .read o :: past) :=
  ⟨⟨List.forall_mem_cons.2 ⟨rfl, clean.mild⟩, clean.published⟩, clean.undeleted⟩

theorem recalled (clean : Clean past) (id : Option String) : Clean (.acted .recall id :: past) :=
  ⟨⟨List.forall_mem_cons.2 ⟨rfl, clean.mild⟩, clean.published⟩, clean.undeleted⟩

theorem called (clean : Clean past) {c : RemoteCall S} (apart : c.operation ≠ .delete) (reply : c.Reply) :
    Clean (.called c reply :: past) := by
  refine ⟨⟨List.forall_mem_cons.2 ⟨rfl, clean.mild⟩, clean.published⟩, ?_⟩
  cases c with
  | delete => exact absurd rfl apart
  | _ => exact clean.undeleted

end Clean

/-- The deletion of a resource is told before it is tried. -/
theorem Told.deleting {past : List (Deed S)} (clean : Clean past) (o : Declared S) (id : String)
    (published : Except StoreError Bool) (reply : (RemoteCall.delete o id).Reply) :
    let later := .called (.delete o id) reply :: .acted (.publish .deleting) published :: past
    Told later (warning later) where
  mild := List.forall_mem_cons.2 ⟨rfl, List.forall_mem_cons.2 ⟨rfl, clean.mild⟩⟩
  published := congrArg (ConditionState.deleting :: ·) clean.published

theorem Told.failure {past : List (Deed S)} (told : Told past (warning past))
    (why : String) (reply : Except StoreError Bool) :
    Told (.acted (.publish (.reconcileError why)) reply :: past)
      (.reconcileError why :: warning past) :=
  ⟨List.forall_mem_cons.2 ⟨rfl, told.mild⟩, congrArg (_ :: ·) told.published⟩

end Deed

namespace Cycle

open Deed (Clean Told warning)

/-- A failure that is not the store's has changed nothing but what is told. -/
def Unharmed (past : List (Deed S)) (result : CycleResult) : Prop :=
  ∀ error, result = .error error → error.isOfStore = false → Told past (warning past)

variable {kind : Kind S} {o : Declared S} {past : List (Deed S)}

private theorem unharmed_fail (told : Told past (warning past)) (error : ReconcileError) :
    (Reconcile.fail error : Cycle S CycleResult).Ends Unharmed past :=
  fun _ _ _ => told

private theorem unharmed_store {error : ReconcileError} (ofStore : error.isOfStore = true) :
    (Reconcile.fail error : Cycle S CycleResult).Ends Unharmed past := by
  rintro other ⟨⟩ notStore
  cases ofStore.symm.trans notStore

private theorem unharmed_finish (outcome : Outcome) :
    (Reconcile.finish outcome : Cycle S CycleResult).Ends Unharmed past :=
  nofun

private theorem unharmed_record {id : String} {next : Cycle S CycleResult}
    (goesOn : ∀ past, next.Ends Unharmed past) : (Reconcile.record id next).Ends Unharmed past := by
  rintro (e | _)
  · cases e with
    | conflict => exact unharmed_store rfl
    | notFound => exact fun _ => unharmed_store rfl
    | persist => exact fun _ => unharmed_store rfl
  · exact fun _ => goesOn _

private theorem unharmed_validated {spec : S} {next : Cycle S CycleResult} (clean : Clean past)
    (goesOn : next.Ends Unharmed past) : (Reconcile.validated kind spec next).Ends Unharmed past := by
  unfold Reconcile.validated
  split
  · exact goesOn
  · exact unharmed_fail clean.told _

private theorem unharmed_calling {c : RemoteCall S} {next : c.Answer → Cycle S CycleResult}
    (clean : Clean past) (apart : c.operation ≠ .delete)
    (goesOn : ∀ answer, Clean (.called c (some (.ok answer)) :: past) →
      (next answer).Ends Unharmed (.called c (some (.ok answer)) :: past)) :
    (Reconcile.calling c next).Ends Unharmed past := by
  rintro (_ | e | answer)
  · exact unharmed_fail (clean.called apart none).told _
  · exact unharmed_fail (clean.called apart (some (.error e))).told _
  · exact goesOn answer (clean.called apart _)

private theorem unharmed_create (clean : Clean past) :
    (Reconcile.create kind o).Ends Unharmed past := by
  rintro (_ | id)
  · refine unharmed_validated (clean.recalled none) (unharmed_calling (clean.recalled none) nofun ?_)
    rintro (_ | id) clean
    · refine unharmed_calling clean nofun fun id _ => unharmed_record fun past => ?_
      exact fun _ _ => unharmed_finish .created
    · exact unharmed_record fun past => unharmed_finish .recovered
  · exact unharmed_record fun past => unharmed_finish .recovered

private theorem unharmed_absent (clean : Clean past) (id : String) :
    (Reconcile.absent kind id).Ends Unharmed past := by
  unfold Reconcile.absent
  cases kind.policy.onAbsent with
  | fail => exact unharmed_fail clean.told _
  | recreate =>
    rintro (e | _)
    · exact unharmed_store rfl
    · exact fun _ => unharmed_finish .recreate

private theorem unharmed_found (clean : Clean past) (r : RemoteResource) :
    (Reconcile.found kind o r).Ends Unharmed past := by
  unfold Reconcile.found
  cases kind.readiness r with
  | transitional => exact unharmed_finish .pending
  | failed => exact fun _ _ => unharmed_finish .unavailable
  | ready =>
    dsimp only
    split
    · exact fun _ _ => unharmed_finish .available
    · refine unharmed_validated clean (unharmed_calling clean nofun fun _ _ => ?_)
      exact fun _ => unharmed_finish .updated

private theorem unharmed_observe (clean : Clean past) (id : String) :
    (Reconcile.observe kind o id).Ends Unharmed past := by
  have observed : ∀ reply, Clean (.called (.observe o id) reply :: past) := clean.called nofun
  rintro (_ | e | _ | r)
  · exact unharmed_fail (observed none).told _
  · cases e with
    | notFound => exact unharmed_absent (observed _) id
    | _ => exact unharmed_fail (observed _).told _
  · exact unharmed_absent (observed _) id
  · exact unharmed_found (observed _) r

private theorem unharmed_release : (Reconcile.release : Cycle S CycleResult).Ends Unharmed past := by
  rintro (e | _)
  · exact unharmed_store rfl
  · exact fun _ => unharmed_finish .deleted

private theorem unharmed_delete (clean : Clean past) (id : String) :
    (Reconcile.delete o id).Ends Unharmed past := by
  have told := Told.deleting clean o id
  intro published
  rintro (_ | e | _)
  · exact unharmed_fail (told published none) _
  · cases e with
    | notFound => exact unharmed_release
    | _ => exact unharmed_fail (told published _) _
  · exact unharmed_release

private theorem unharmed_finalize (clean : Clean past) :
    (Reconcile.finalize kind o).Ends Unharmed past := by
  unfold Reconcile.finalize
  cases o.externalId with
  | some id => exact unharmed_delete clean id
  | none =>
    rintro (_ | id)
    · refine unharmed_calling (clean.recalled none) nofun ?_
      rintro (_ | id) clean
      · simp only
        unfold Reconcile.releaseUnknown
        cases kind.policy.onDeleteWithoutId with
        | fail => exact unharmed_fail clean.told _
        | finalize => exact unharmed_release
      · exact unharmed_delete clean id
    · exact unharmed_delete (clean.recalled (some id)) id

private theorem unharmed_body : (Reconcile.body kind).Ends Unharmed [] := by
  rintro (_ | o)
  · exact unharmed_finish .gone
  · have clean := Clean.nil.read (some o)
    dsimp only
    split
    · exact unharmed_finalize clean
    · cases o.externalId with
      | some id => exact unharmed_observe clean id
      | none => exact unharmed_create clean

/-- Every failure that is not the store's has changed nothing on this side but what it has published. -/
theorem reconcile_told (kind : Kind S) :
    (reconcile kind).Ends (fun past result => ∀ error, result = .error error →
      error.isOfStore = false → Told past (error.notice ++ warning past)) [] := by
  refine unharmed_body.bind fun past result unharmed => ?_
  unfold Reconcile.noted
  split
  · exact nofun
  · rintro _ ⟨⟩ ⟨⟩
  · rintro _ ⟨⟩ _
    exact unharmed _ rfl rfl
  case h_4 e missing cancelled =>
    rintro reply _ ⟨⟩ notStore
    rw [ReconcileError.notice, if_neg cancelled]
    exact (unharmed e rfl notStore).failure e.message reply

end Cycle

/-- An engine after a cycle that has failed: all that is different are conditions of the object, and what
they show is why it failed and whether it tried to delete the resource. -/
structure Engine.Annotated (before : Engine S) (key : Key) (error : ReconcileError) (deleted : Bool)
    (after : Engine S) : Prop where
  unrecorded : after.unrecorded = before.unrecorded
  sent : after.store.sent = before.store.sent
  snapshot : after.store.snapshot = before.store.snapshot
  others : ∀ other, other ≠ key → after.store.get? other = before.store.get? other
  own : ∃ o o', before.store.get? key = some o ∧ after.store.get? key = some o' ∧ o'.bare = o.bare ∧
    (if error = .cancelled then o'.condition? .synced = o.condition? .synced
      else (o'.condition? .synced).map Condition.state = some (.reconcileError error.message)) ∧
    (if deleted then (o'.condition? .ready).map Condition.state = some .deleting
      else o'.condition? .ready = o.condition? .ready)

namespace Published

variable {past : List (Deed S)} {error : ReconcileError} {before after : List Condition}

/-- The cause of a failure is the last that is said on whether the object is in sync. -/
theorem failure_synced (published : Published (error.notice ++ Deed.warning past) before after) :
    if error = .cancelled then
      (after.find? fun c => c.state.type == .synced) = before.find? fun c => c.state.type == .synced
    else (after.find? fun c => c.state.type == .synced).map Condition.state =
      some (.reconcileError error.message) := by
  have apart : ∀ state ∈ Deed.warning past, state.type ≠ .synced := by
    intro state member
    unfold Deed.warning at member
    split at member
    · cases List.mem_singleton.1 member
      exact nofun
    · exact absurd member List.not_mem_nil
  unfold ReconcileError.notice at published
  split
  case isTrue cancelled =>
    rw [if_pos cancelled] at published
    exact published.find_other apart
  case isFalse failed =>
    rw [if_neg failed] at published
    have latest : Published ([] ++ .reconcileError error.message :: Deed.warning past) before after :=
      published
    exact latest.find_own nofun

/-- Whether the object is ready is told anew only before its resource is deleted. -/
theorem failure_ready (published : Published (error.notice ++ Deed.warning past) before after) :
    if past.any Deed.isDeletion then
      (after.find? fun c => c.state.type == .ready).map Condition.state = some .deleting
    else (after.find? fun c => c.state.type == .ready) = before.find? fun c => c.state.type == .ready := by
  have apart : ∀ state ∈ error.notice, state.type ≠ .ready := by
    intro state member
    unfold ReconcileError.notice at member
    split at member
    · exact absurd member List.not_mem_nil
    · cases List.mem_singleton.1 member
      exact nofun
  unfold Deed.warning at published
  split
  case isTrue deleted =>
    rw [if_pos deleted] at published
    exact published.find_own apart
  case isFalse undeleted =>
    rw [if_neg undeleted, List.append_nil] at published
    exact published.find_other apart

end Published

namespace Deed

variable {kind : Kind S} {past : List (Deed S)}

/-- A cycle takes back an identifier and removes an object only on the word of the service. -/
theorem withdrawals_answered (course : Course kind past)
    (unanswered : ∀ c reply, Deed.called c reply ∈ past → reply = none) :
    ∀ deed ∈ past, deed.isWithdrawal = false := by
  intro deed member
  obtain ⟨later, earlier, split⟩ := List.append_of_mem member
  rw [split] at course unanswered
  have before : ∀ c reply rest, earlier = .called c reply :: rest → reply = none :=
    fun c reply rest same => unanswered c reply (by simp [same])
  have due := course.lawful
  cases deed with
  | called c reply => rfl
  | acted action reply =>
    cases due with
    | clear_absent | clear_notFound | remove_deleted | remove_notFound | remove_unknown =>
      cases before _ _ _ rfl
    | _ => rfl

end Deed

namespace Surroundings

variable {s : Surroundings S} {past : List (Deed S)}

theorem stopped_later (stopped : s.stopped [] = true) (past : List (Deed S)) :
    s.stopped past = true := by
  induction past with
  | nil => exact stopped
  | cons deed past ih => exact s.lasts deed past ih

/-- After a shutdown has been called for no call is made. -/
theorem made_of_stopped (stopped : s.stopped [] = true) (past : List (Deed S)) : s.made past = [] := by
  induction past with
  | nil => rfl
  | cons deed past ih =>
    cases deed with
    | acted action reply => exact ih
    | called c reply => simp only [made, stopped_later stopped past, if_true, ih]

theorem Replied.unanswered (replied : s.Replied past) (stopped : s.stopped [] = true) (c : RemoteCall S)
    (reply : c.Reply) (member : .called c reply ∈ past) : reply = none := by
  obtain ⟨later, earlier, split⟩ := List.append_of_mem member
  rw [replied later c reply earlier split, Surroundings.reply, if_pos (stopped_later stopped earlier)]

end Surroundings

/-- Nothing that is wanted or recorded is lost: every object stands as its author wants it, and an identifier
that was recorded still is. -/
def Engine.Keeps (before after : Engine S) : Prop :=
  ∀ key, after.store.objects.intent? key = before.store.objects.intent? key ∧
    ∀ id, before.store.objects.recordedId? key = some id →
      after.store.objects.recordedId? key = some id

namespace Engine

variable [Spec S] {before e : Engine S}

private theorem Keeps.perform (keeps : before.Keeps e) (now : Time.Timestamp) (write : WriteOutcome)
    (key : Key) {action : Action S} (stays : ∀ reply, (Deed.acted action reply).isWithdrawal = false) :
    before.Keeps (e.perform { now, write } key action).1 := by
  intro other
  obtain ⟨wanted, recorded⟩ := keeps other
  constructor
  · refine (e.perform_intent now write key other action ?_).trans wanted
    rintro rfl
    cases stays (.ok ())
  intro id held
  rw [perform_store]
  split
  case h_2 => exact recorded id held
  case h_1 call acts =>
    rcases StoreCall.perform_leaves (StoreCall.effect_keeps_recorded call (recorded id held)) write with
      kept | ⟨clears | removes, -⟩
    · exact kept
    · cases action with
      | clearId => cases stays (.ok ())
      | _ => cases acts <;> cases clears
    · cases action with
      | remove => cases stays (.ok ())
      | _ => cases acts <;> cases removes

/-- Deeds that withdraw nothing keep all that is wanted and recorded. -/
theorem Keeps.run {s : Surroundings S} {key : Key} {α : Type} {past : List (Deed S)}
    (keeps : before.Keeps e) (c : Cycle S α)
    (stays : ∀ deed ∈ (s.run key c e past).past, deed.isWithdrawal = false) :
    before.Keeps (s.run key c e past).engine := by
  induction c generalizing e past with
  | done a => exact keeps
  | call c next ih => exact ih _ keeps stays
  | step action next ih =>
    refine ih _ (keeps.perform _ _ key fun reply => ?_) stays
    have own := stays _ (s.mem_run_past key (next _) _ List.mem_cons_self)
    cases action <;> exact own

end Engine

/-- A cycle that nobody interferes with, whatever the service answers. When it fails without the store
having failed, all that is different afterwards are conditions of its object: why it failed is told unless
it was shut down, and that the object is being deleted exactly if the deletion was tried. A cycle that starts
after a shutdown has been called for makes no call, takes back no identifier and removes no object. -/
theorem Surroundings.failure_only_annotates [Spec S] (s : Surroundings S) (kind : Kind S) (key : Key)
    (e : Engine S) :
    let ended := s.run key (reconcile kind) e []
    (∀ error, ended.result = .error error → error.isOfStore = false →
      e.Annotated key error (ended.past.any Deed.isDeletion) ended.engine) ∧
    (s.stopped [] = true →
      s.made ended.past = [] ∧ (∀ deed ∈ ended.past, deed.isWithdrawal = false) ∧
        e.Keeps ended.engine) := by
  refine ⟨fun error fails notStore => ?_, fun stopped => ?_⟩
  · have told := (Cycle.reconcile_told kind).run s key e error fails notStore
    have marked := (Engine.Marked.refl e key).run told.mild
    rw [told.published] at marked
    refine ⟨marked.unrecorded, marked.sent, marked.snapshot, marked.others, ?_⟩
    cases declared : e.store.get? key with
    | none =>
      rw [s.run_undeclared kind declared] at fails
      cases fails
    | some o =>
      obtain ⟨conditions, own, published⟩ := marked.own o declared
      exact ⟨o, _, rfl, own, rfl, published.failure_synced, published.failure_ready⟩
  · have nothing : Course kind [] := trivial
    have course := (run_course nothing (Cycle.reconcile_along kind) s key e).1
    have replied := (Replied.nil s).run key (reconcile kind) e
    have unanswered := replied.unanswered stopped
    have stays := Deed.withdrawals_answered course unanswered
    exact ⟨made_of_stopped stopped _, stays, Engine.Keeps.run (fun _ => ⟨rfl, fun _ => id⟩) _ stays⟩

/-- An address is to be deleted, and its service refuses. The address is then shown to be deleted, and stays
as it was declared. Nor is anything called or withdrawn when a shutdown has been called for before. -/
theorem Surroundings.failure_only_annotates_address :
    let key : Key := ⟨"floating_ip", "web"⟩
    let o : Declared FloatingIpSpec :=
      { key, spec := { projectId := "p", isp := "BGP", bandwidth := 1 }, recordedId := some "ip-1"
        deletionRequested := some .epoch }
    let cycle := reconcile FloatingIp.service.toKind
    let e : Engine FloatingIpSpec := { store := { objects := .ofList [(key, o)] } }
    let refusing : Surroundings FloatingIpSpec :=
      { now := fun _ => .epoch, write := fun _ => .written
        answer := fun _ _ => some (.error (.transport "refused")) }
    let stopped := { refusing with stopped := fun _ => true, lasts := fun _ _ _ => rfl }
    let error : ReconcileError := .client .delete (.transport "refused")
    (refusing.run key cycle e []).result = .error error ∧
      e.Annotated key error true (refusing.run key cycle e []).engine ∧
      (stopped.run key cycle e []).result = .error .cancelled ∧
      e.Annotated key .cancelled true (stopped.run key cycle e []).engine ∧
      stopped.made (stopped.run key cycle e []).past = [] ∧
      e.Keeps (stopped.run key cycle e []).engine := by
  intro key o cycle e refusing stopped error
  have fails : (refusing.run key cycle e []).result = .error error := by decide
  have tried : (refusing.run key cycle e []).past.any Deed.isDeletion = true := by decide
  have cancels : (stopped.run key cycle e []).result = .error .cancelled := by decide
  have dropped : (stopped.run key cycle e []).past.any Deed.isDeletion = true := by decide
  have annotated := (failure_only_annotates refusing FloatingIp.service.toKind key e).1 error fails rfl
  have shut := failure_only_annotates stopped FloatingIp.service.toKind key e
  obtain ⟨silent, -, kept⟩ := shut.2 rfl
  refine ⟨fails, tried ▸ annotated, cancels, ?_, silent, kept⟩
  exact dropped ▸ shut.1 .cancelled cancels rfl

end CloudKeeper
