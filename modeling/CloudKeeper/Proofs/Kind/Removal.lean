import CloudKeeper.Proofs.Cycle.Failure
import CloudKeeper.Proofs.Kind.Absence
/-!
When the engine drops an object whose deletion is requested. Its resource is deleted over HTTP, and the
object goes unless the status of the answer tells of a failure. That is more than the statuses that confirm
a deletion: an answer that tells neither of success nor of a failure drops the object as well.
-/
namespace CloudKeeper

variable {S : Type}

namespace Http.Response

/-- The status confirms that the resource is deleted, or that there is none. -/
def Confirms (r : Response) : Prop := (200 ≤ r.status ∧ r.status < 300) ∨ r.status = 404

/-- The status tells neither of success nor of a failure. -/
def Evades (r : Response) : Prop := r.status < 200 ∨ (300 ≤ r.status ∧ r.status < 400)

instance (r : Response) : Decidable r.Confirms := inferInstanceAs (Decidable (_ ∨ _))

instance (r : Response) : Decidable r.Evades := inferInstanceAs (Decidable (_ ∨ _))

/-- A status that evades confirms nothing. -/
theorem Evades.not_confirms {r : Response} (evades : r.Evades) : ¬r.Confirms := by
  unfold Evades at evades
  unfold Confirms
  omega

/-- What `check` lets pass, or takes for a resource that is gone, confirms or evades. -/
theorem confirms_or_evades {r : Response} : r.Confirms ∨ r.Evades ↔ r.status < 400 ∨ r.status = 404 := by
  unfold Confirms Evades
  omega

end Http.Response

namespace Upshot

/-- The object has been removed, though it may be that this could not be written. -/
structure Drops (ended : Upshot S CycleResult) (key : Key) : Prop where
  gone : ended.engine.store.get? key = none
  result : ended.result = .ok .deleted ∨ ∃ why, ended.result = .error (.store (.persist why))

/-- The cycle has failed, and but for conditions the object and all that is known of its resource are as
before. -/
structure Retains (ended : Upshot S CycleResult) (before : Engine S) (key : Key) (o : Declared S) :
    Prop where
  fails : ended.FailsAs .transient
  object : ∃ o', ended.engine.store.get? key = some o' ∧ o'.bare = o.bare
  unrecorded : ended.engine.unrecorded = before.unrecorded
  snapshot : ended.engine.store.snapshot = before.store.snapshot

/-- The object is removed if a response confirms the deletion of its resource, and stays otherwise. -/
structure GoesByConfirmation (ended : Upshot S CycleResult) (before : Engine S) (key : Key)
    (o : Declared S) (given : Http.Response) : Prop where
  dropped : ended.engine.store.get? key = none ↔ given.Confirms
  kept : ¬given.Confirms → ended.Retains before key o

/-- What becomes of an object with the response to the deletion of its resource, if there is one. -/
structure Settled (ended : Upshot S CycleResult) (before : Engine S) (key : Key) (o : Declared S)
    (response : Option Http.Response) : Prop where
  confirmed : ∀ given, response = some given →
    (ended.GoesByConfirmation before key o given ↔ ¬given.Evades)
  evaded : ∀ given, response = some given → given.Evades → ended.Drops key
  silent : response = none → ended.Retains before key o

variable {ended : Upshot S CycleResult} {before : Engine S} {key : Key} {o : Declared S}

theorem Drops.settled {given : Http.Response} (drops : ended.Drops key)
    (passes : given.Confirms ∨ given.Evades) : ended.Settled before key o (some given) where
  confirmed := by
    rintro _ ⟨⟩
    refine ⟨fun goes evades => evades.not_confirms (goes.dropped.1 drops.gone), fun clear => ?_⟩
    have confirms := passes.resolve_right clear
    exact ⟨⟨fun _ => confirms, fun _ => drops.gone⟩, fun unconfirmed => absurd confirms unconfirmed⟩
  evaded _ _ _ := drops
  silent := nofun

theorem Retains.settled {response : Option Http.Response} (retains : ended.Retains before key o)
    (fails : ∀ given, response = some given → ¬(given.Confirms ∨ given.Evades)) :
    ended.Settled before key o response where
  confirmed given is := by
    have unconfirmed : ¬given.Confirms := fun confirms => fails given is (.inl confirms)
    have clear : ¬given.Evades := fun evades => fails given is (.inr evades)
    obtain ⟨o', held, -⟩ := retains.object
    have stays : ended.engine.store.get? key ≠ none := held ▸ Option.some_ne_none o'
    refine ⟨fun _ => clear, fun _ => ⟨⟨fun gone => absurd gone stays, fun confirms => ?_⟩, fun _ => retains⟩⟩
    exact absurd confirms unconfirmed
  evaded given is evades := absurd (.inr evades) (fails given is)
  silent _ := retains

end Upshot

namespace Service

/-- The resource to delete, as far as it is known: the one that is recorded, else the one that is
remembered, else the one that the service finds. -/
def known? (service : Service S) (base : String) (exchange : List (Deed S) → Http.Request → Http.Exchange)
    (e : Engine S) (key : Key) (o : Declared S) : Option String :=
  match o.externalId, e.unrecorded.get? key with
  | some id, _ | none, some id => some id
  | none, none =>
    match service.outcome base (.lookup o) (exchange [.acted .recall none, .acted .read (some o)]) with
    | .ok found => found
    | .error _ => none

/-- How the service of a kind deletes a resource: at the path of the resource, and only a status that tells
of a failure fails. -/
structure Deletes (service : Service S) (item : S → String → String) : Prop where
  asks : ∀ o id, service.ask (.delete o id) = .refused Http.unbuildable ∨
    ∃ request, service.ask (.delete o id) = .send request ∧ request.method = .delete ∧
      request.path = item o.spec id
  reads : ∀ o id response, service.read (.delete o id) response =
    Except.map (fun _ => ()) (Http.Response.check response)

/-- Every cycle of an object whose deletion is requested and whose resource is known asks for the deletion
of this resource, and does nothing but settle the object by the response. -/
def SettlesDeletions [Spec S] (service : Service S) (item : S → String → String) : Prop :=
  ∀ (base : String) (now : List (Deed S) → Time.Timestamp) (write : List (Deed S) → WriteOutcome)
    (exchange : List (Deed S) → Http.Request → Http.Exchange) (key : Key) (e : Engine S)
    (o : Declared S) (id : String),
    e.store.get? key = some o → o.isDeletionRequested = true →
    service.known? base exchange e key o = some id →
    let ended := (service.overHttp base now write exchange).run key (reconcile service.toKind) e []
    (∀ request, service.ask (.delete o id) = .send request →
      request.method = .delete ∧ request.path = item o.spec id) ∧
    ∃ later reply earlier, ended.past = later ++ .called (.delete o id) reply :: earlier ∧
      ended.Settled e key o (service.response? base (.delete o id) (exchange earlier))

/-- What the response to the deletion of a resource makes of the call. -/
inductive Disposes : Option Http.Response → Except ClientError Unit → Prop
  | silent (why : String) : Disposes none (.error (.transport why))
  | deleted {response : Http.Response} (succeeds : response.status < 400) :
    Disposes (some response) (.ok ())
  | gone {response : Http.Response} (notFound : response.status = 404) :
    Disposes (some response) (.error .notFound)
  | refused {response : Http.Response} (apart : response.status ≠ 404) (fails : 400 ≤ response.status)
    (text : String) : Disposes (some response) (.error (.status response.status text))

namespace Deletes

variable {service : Service S} {item : S → String → String}

private theorem disposes_read (deletes : service.Deletes item) (o : Declared S) (id : String)
    (response : Http.Response) :
    Disposes (some response) (service.read (.delete o id) response) := by
  rw [deletes.reads, Http.Response.check]
  split
  case isTrue notFound => exact .gone notFound
  case isFalse apart =>
    split
    case isTrue fails => exact .refused apart fails _
    case isFalse below => exact .deleted (Nat.not_le.1 below)

/-- What becomes of the call that deletes a resource is told by the response. -/
theorem disposes (deletes : service.Deletes item) (base : String) (o : Declared S) (id : String)
    (exchange : Http.Request → Http.Exchange) :
    Disposes (service.response? base (.delete o id) exchange)
      (service.outcome base (.delete o id) exchange) := by
  cases sends : service.response? base (.delete o id) exchange with
  | none =>
    rcases deletes.asks o id with refused | ⟨request, asks, -⟩
    · simp only [outcome, refused]
      exact .silent _
    · obtain ⟨why, silent⟩ := outcome_unanswered asks sends
      exact silent ▸ .silent why
  | some response =>
    rcases deletes.asks o id with refused | ⟨request, asks, -⟩
    · simp only [response?, refused] at sends
      cases sends
    simp only [response?, asks] at sends
    simp only [outcome, asks]
    cases url : request.url? base with
    | none =>
      rw [url] at sends
      cases sends
    | some url' =>
      simp only [url, Option.bind_some] at sends ⊢
      cases becomes : exchange request <;> rw [becomes] at sends <;> cases sends
      exact deletes.disposes_read o id response

end Deletes

end Service

/-- A removal fails only if it cannot be written. -/
private theorem StoreCall.remove_result [Spec S] (s : Store S) (write : WriteOutcome) (key : Key) :
    (s.remove write key).2 = .ok () ∨ ∃ why, (s.remove write key).2 = .error (.persist why) := by
  have performed := perform_cases (.remove key) s write
  simp only [perform, effect] at performed
  cases found : s.objects.get? key with
  | none =>
    rw [found] at performed
    exact .inl (congrArg Prod.snd performed)
  | some o =>
    rw [found] at performed
    obtain ⟨files, written | ⟨why, failed⟩⟩ := performed
    · exact .inl (congrArg Prod.snd written)
    · exact .inr ⟨why, congrArg Prod.snd failed⟩

section Runs

variable [Spec S] {s : Surroundings S} {kind : Kind S} {key : Key} {e : Engine S} {past : List (Deed S)}
  {o : Declared S} {id : String}

/-- To publish a state on an object that is not there brings none about. -/
private theorem Engine.publish_absent (absent : e.store.get? key = none) (c : Circumstances)
    (state : ConditionState) : (e.perform c key (.publish state)).1.store.get? key = none := by
  obtain ⟨now, write, refusal⟩ := c
  cases refusal with
  | some error => exact absent
  | none =>
    simp only [perform, onStore, Store.setCondition, absent]

private theorem release_run :
    (s.run key (Reconcile.release.bind Reconcile.noted) e past).Drops key := by
  have gone := StoreCall.perform_leaves (StoreCall.effect_removes e.store.objects key) (s.write past)
  have result := StoreCall.remove_result e.store (s.write past) key
  simp only [StoreCall.perform] at gone
  simp only [Reconcile.release, Cycle.bind, Surroundings.run, Engine.perform, Engine.onStore]
  generalize e.store.remove (s.write past) key = removed at gone result ⊢
  obtain ⟨store, outcome⟩ := removed
  rcases result with rfl | ⟨why, rfl⟩
  · exact ⟨gone, .inl rfl⟩
  · have absent : store.get? key = none := gone
    exact ⟨Engine.publish_absent absent _ _, .inr ⟨why, rfl⟩⟩

/-- A cycle of an object whose deletion is requested carries it out. -/
private theorem requested_run (found : e.store.get? key = some o) (requested : o.isDeletionRequested = true)
    (past : List (Deed S)) :
    s.run key (reconcile kind) e past =
      s.run key ((Reconcile.finalize kind o).bind Reconcile.noted) e (.acted .read (some o) :: past) := by
  have reads : ∀ c, (e.perform ⟨s.now past, c, none⟩ key .read) = (e, some o) :=
    fun c => congrArg (e, ·) found
  simp only [reconcile, Reconcile.body, Cycle.bind, Surroundings.run, reads, requested, if_true]

/-- A failed cycle whose failure is not the store's leaves the object as it was. -/
private theorem retained_run (found : e.store.get? key = some o) {error : ReconcileError}
    (fails : (s.run key (reconcile kind) e []).result = .error error) (notStore : error.isOfStore = false)
    (transient : error.errorClass = .transient) :
    (s.run key (reconcile kind) e []).Retains e key o := by
  have told := (Cycle.reconcile_told kind).run s key e error fails notStore
  have marked := (Engine.Marked.refl e key).run told.mild
  obtain ⟨conditions, held, -⟩ := marked.own o found
  exact ⟨⟨error, fails, transient⟩, ⟨_, held, rfl⟩, marked.unrecorded, marked.snapshot⟩

end Runs

section Settlement

variable [Spec S] {service : Service S} {item : S → String → String} {base : String}
  {now : List (Deed S) → Time.Timestamp} {write : List (Deed S) → WriteOutcome}
  {exchange : List (Deed S) → Http.Request → Http.Exchange} {key : Key} {e : Engine S} {o : Declared S}
  {id : String}

/-- A cycle that knows the resource of an object whose deletion is requested comes to delete it. -/
private theorem Service.known_run (now : List (Deed S) → Time.Timestamp)
    (write : List (Deed S) → WriteOutcome) (found : e.store.get? key = some o)
    (requested : o.isDeletionRequested = true) (known : service.known? base exchange e key o = some id) :
    let s := service.overHttp base now write exchange
    ∃ earlier, s.run key (reconcile service.toKind) e [] =
      s.run key ((Reconcile.delete o id).bind Reconcile.noted) e earlier := by
  intro s
  rw [requested_run found requested, Reconcile.finalize]
  unfold known? at known
  cases recorded : o.externalId with
  | some own =>
    rw [recorded] at known
    cases known
    exact ⟨_, rfl⟩
  | none =>
    rw [recorded] at known
    have recalls : ∀ past, e.perform ⟨s.now past, s.write past, none⟩ key .recall =
      (e, e.unrecorded.get? key) := fun _ => rfl
    cases remembered : e.unrecorded.get? key with
    | some own =>
      rw [remembered] at known
      cases known
      simp only [Cycle.bind, Surroundings.run, recalls, remembered]
      exact ⟨_, rfl⟩
    | none =>
      rw [remembered] at known
      simp only [Cycle.bind, Surroundings.run, recalls, remembered, Reconcile.calling, s, overHttp_reply]
      cases looks : service.outcome base (.lookup o)
          (exchange [.acted .recall none, .acted .read (some o)]) with
      | error why =>
        rw [looks] at known
        cases known
      | ok looked =>
        rw [looks] at known
        cases known
        exact ⟨_, rfl⟩

/-- Whether the deletion of a resource ends with the object being dropped is told by the response. -/
private theorem Service.Deletes.delete_run (deletes : service.Deletes item) (earlier : List (Deed S)) :
    let s := service.overHttp base now write exchange
    let ended := s.run key ((Reconcile.delete o id).bind Reconcile.noted) e earlier
    ∃ later reply before, ended.past = later ++ .called (.delete o id) reply :: before ∧
      let response := service.response? base (.delete o id) (exchange before)
      (ended.Drops key ∧ ∃ given, response = some given ∧ (given.Confirms ∨ given.Evades)) ∨
        ((∃ why, ended.result = .error (.client .delete why) ∧
            (ReconcileError.client .delete why).errorClass = .transient) ∧
          ∀ given, response = some given → ¬(given.Confirms ∨ given.Evades)) := by
  intro s ended
  simp only [ended, Reconcile.delete, Cycle.publishing, Cycle.bind, Surroundings.run, s, overHttp_reply,
    Http.Response.confirms_or_evades]
  generalize e.perform _ key (.publish .deleting) = published
  have disposes := deletes.disposes base o id (exchange (.acted (.publish .deleting) published.2 :: earlier))
  obtain ⟨later, split⟩ := s.run_past key _ _ _
  refine ⟨later, _, _, split, ?_⟩
  generalize service.outcome base (.delete o id) _ = outcome at disposes ⊢
  generalize service.response? base (.delete o id) _ = response at disposes ⊢
  cases disposes with
  | silent why =>
    refine .inr ⟨⟨_, rfl, rfl⟩, fun given arrives => ?_⟩
    cases arrives
  | deleted succeeds => exact .inl ⟨release_run, _, rfl, .inl succeeds⟩
  | gone notFound => exact .inl ⟨release_run, _, rfl, .inr notFound⟩
  | refused apart fails text =>
    refine .inr ⟨⟨_, rfl, rfl⟩, ?_⟩
    rintro _ ⟨⟩
    omega

/-- The response to the deletion of the resource settles the object. -/
private theorem Service.Deletes.settles (deletes : service.Deletes item) :
    service.SettlesDeletions item := by
  intro base now write exchange key e o id found requested known ended
  refine ⟨fun request sends => ?_, ?_⟩
  · rcases deletes.asks o id with refused | ⟨asked, own, removes⟩
    · cases refused.symm.trans sends
    · cases own.symm.trans sends
      exact removes
  obtain ⟨earlier, runs⟩ := known_run now write found requested known
  obtain ⟨later, reply, before, split, becomes⟩ := deletes.delete_run earlier
  refine ⟨later, reply, before, (congrArg Upshot.past runs).trans split, ?_⟩
  rcases becomes with ⟨drops, given, response, passes⟩ | ⟨⟨why, fails, transient⟩, refuses⟩
  · rw [response]
    rw [← runs] at drops
    exact drops.settled passes
  · refine Upshot.Retains.settled (retained_run found ?_ rfl transient) refuses
    rw [runs]
    exact fails

end Settlement

theorem Volume.service_deletes (deployment : String) :
    (Volume.service deployment).Deletes (fun spec => Volume.item spec.projectId) where
  asks _ _ := .inr ⟨_, rfl, rfl, rfl⟩
  reads _ _ _ := rfl

theorem FloatingIp.service_deletes : FloatingIp.service.Deletes fun _ => FloatingIp.item where
  asks o id := by
    -- a project that no header can name is asked for nothing
    simp only [service, ask, withScope]
    split
    · exact .inr ⟨_, rfl, rfl, rfl⟩
    · exact .inl rfl
  reads _ _ _ := rfl

theorem VirtualMachine.service_deletes : VirtualMachine.service.Deletes fun _ => VirtualMachine.item where
  asks _ _ := .inr ⟨_, rfl, rfl, rfl⟩
  reads _ _ _ := rfl

/-- Whatever the deletion of a resource is answered, for an object whose deletion is requested and whose
resource is recorded, remembered or found. The object is removed if and only if the status confirms the
deletion, and otherwise the cycle fails and leaves all but conditions as it was, exactly unless the status
evades. One that evades has the object removed. -/
theorem deletion_settled_by_status (deployment : String) :
    (Volume.service deployment).SettlesDeletions (fun spec => Volume.item spec.projectId) ∧
      FloatingIp.service.SettlesDeletions (fun _ => FloatingIp.item) ∧
      VirtualMachine.service.SettlesDeletions (fun _ => VirtualMachine.item) :=
  ⟨(Volume.service_deletes deployment).settles, FloatingIp.service_deletes.settles,
    VirtualMachine.service_deletes.settles⟩

section Address

/-- An address whose deletion is requested. -/
private def leaving : Declared FloatingIpSpec where
  key := ⟨"floating_ip", "web"⟩
  spec := { projectId := "p", isp := "BGP", bandwidth := 1 }
  recordedId := some "ip-1"
  deletionRequested := some .epoch

/-- The engine that holds it. -/
private def holding : Engine FloatingIpSpec :=
  { store := { objects := .ofList [(leaving.key, leaving)] } }

/-- The cycle of the address when every request is answered by a status. -/
private def cycled (status : Nat) : Upshot FloatingIpSpec CycleResult :=
  (FloatingIp.service.overHttp "http://net" (fun _ => .epoch) (fun _ => .written)
    fun _ _ => .answered ⟨status, []⟩).run leaving.key (reconcile FloatingIp.service.toKind) holding []

/-- The address is removed when its service says that it is deleted or gone, stays when the service is out of
order, and is removed as well when the service sends elsewhere. -/
theorem deletion_settled_by_status_address :
    (cycled 204).GoesByConfirmation holding leaving.key leaving ⟨204, []⟩ ∧
      (cycled 404).GoesByConfirmation holding leaving.key leaving ⟨404, []⟩ ∧
      (cycled 503).GoesByConfirmation holding leaving.key leaving ⟨503, []⟩ ∧
      (cycled 302).Drops leaving.key := by
  have found : holding.store.get? leaving.key = some leaving := (SortedMap.get?_insert ..).trans (if_pos rfl)
  have settled (status : Nat) : (cycled status).Settled holding leaving.key leaving (some ⟨status, []⟩) := by
    obtain ⟨_, later, reply, earlier, _, settled⟩ := (deletion_settled_by_status "lab").2.1 "http://net"
      (fun _ => .epoch) (fun _ => .written) (fun _ _ => .answered ⟨status, []⟩) leaving.key holding leaving
      "ip-1" found rfl rfl
    exact settled
  refine ⟨((settled 204).confirmed _ rfl).2 ?_, ((settled 404).confirmed _ rfl).2 ?_,
    ((settled 503).confirmed _ rfl).2 ?_, (settled 302).evaded _ rfl ?_⟩ <;> decide

/-- A deletion that is answered by a status that sends elsewhere confirms nothing, yet the object is removed
as if its resource were gone. -/
theorem address_dropped_unconfirmed :
    (cycled 302).result = .ok .deleted ∧ (cycled 302).engine.store.get? leaving.key = none ∧
      ¬(⟨302, []⟩ : Http.Response).Confirms ∧
      ¬(cycled 302).GoesByConfirmation holding leaving.key leaving ⟨302, []⟩ := by
  have removed : (cycled 302).engine.store.get? leaving.key = none := by decide
  have unconfirmed : ¬(⟨302, []⟩ : Http.Response).Confirms := by decide
  exact ⟨by decide, removed, unconfirmed, fun goes => unconfirmed (goes.dropped.1 removed)⟩

end Address

end CloudKeeper
