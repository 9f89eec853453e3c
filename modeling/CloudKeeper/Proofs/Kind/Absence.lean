import CloudKeeper.Kind.Family
import CloudKeeper.Proofs.Cycle.Solo
import CloudKeeper.Time.Epoch
/-!
When the engine takes back the identifier of a resource. The service is asked for the resource over HTTP,
and the status of the answer decides: that the resource is not there has to be said by the status. No other
answer, no body and no request that fails takes the identifier back.
-/
namespace CloudKeeper

open Json (Decoder)

variable {S α : Type}

/-- A cycle has failed with an error of a class. -/
def Upshot.FailsAs (ended : Upshot S CycleResult) (errorClass : ErrorClass) : Prop :=
  ∃ error, ended.result = .error error ∧ error.errorClass = errorClass

namespace Service

/-- The response to the request that a call is, if it can be sent and is answered. -/
def response? (service : Service S) (base : String) (call : RemoteCall S)
    (exchange : Http.Request → Http.Exchange) : Option Http.Response :=
  match service.ask call with
  | .known _ | .refused _ => none
  | .send request =>
    (request.url? base).bind fun _ =>
      match exchange request with
      | .answered response => some response
      | .unreachable | .timedOut | .cut => none

/-- Surroundings in which every call goes over HTTP. What becomes of a request may depend on all that has
been done. -/
def overHttp (service : Service S) (base : String) (now : List (Deed S) → Time.Timestamp)
    (write : List (Deed S) → WriteOutcome)
    (exchange : List (Deed S) → Http.Request → Http.Exchange) : Surroundings S :=
  .undisturbed now write fun past call => some (service.outcome base call (exchange past))

theorem overHttp_reply (service : Service S) (base : String) (now : List (Deed S) → Time.Timestamp)
    (write : List (Deed S) → WriteOutcome) (exchange : List (Deed S) → Http.Request → Http.Exchange)
    (past : List (Deed S)) (call : RemoteCall S) :
    (service.overHttp base now write exchange).reply past call =
      some (service.outcome base call (exchange past)) :=
  rfl

/-- How the service of a kind shows a resource: the path at which it does, and the envelope in which. -/
structure Shows (service : Service S) (item : S → String → String) (envelope : Decoder α) : Prop where
  recreates : service.policy.onAbsent = .recreate
  asks : ∀ o id, service.ask (.observe o id) = .refused Http.unbuildable ∨
    ∃ request, service.ask (.observe o id) = .send request ∧ request.method = .get ∧
      request.path = item o.spec id
  reads : ∃ resource : α → RemoteResource, ∀ o id response, service.read (.observe o id) response =
    if response.isNotFound then .ok .absent
    else do return .present (resource (← (← response.check).decode envelope))

/-- What the response to the request for a resource makes of the call. -/
inductive Tells (envelope : Decoder α) : Option Http.Response → Except ClientError Observation → Prop
  | silent (why : String) : Tells envelope none (.error (.transport why))
  | gone {response : Http.Response} (notFound : response.status = 404) :
    Tells envelope (some response) (.ok .absent)
  | refused {response : Http.Response} (apart : response.status ≠ 404) (fails : 400 ≤ response.status)
    (text : String) : Tells envelope (some response) (.error (.status response.status text))
  | malformed {response : Http.Response} (succeeds : response.status < 400)
    (undecoded : ∀ shown, Json.decodeOctets envelope response.body ≠ .ok shown) (why : String) :
    Tells envelope (some response) (.error (.decode why))
  | shown {response : Http.Response} {shown : α} (succeeds : response.status < 400)
    (decoded : Json.decodeOctets envelope response.body = .ok shown) (r : RemoteResource) :
    Tells envelope (some response) (.ok (.present r))

namespace Shows

variable {service : Service S} {item : S → String → String} {envelope : Decoder α}

private theorem tells_read (shows : service.Shows item envelope) (o : Declared S) (id : String)
    (response : Http.Response) :
    Tells envelope (some response) (service.read (.observe o id) response) := by
  obtain ⟨resource, reads⟩ := shows.reads
  rw [reads]
  by_cases gone : response.status = 404
  · simp only [Http.Response.isNotFound, gone, beq_self_eq_true, if_true]
    exact .gone gone
  simp only [Http.Response.isNotFound, Http.Response.check, beq_iff_eq, gone, if_false]
  split
  case isTrue fails => exact .refused gone fails _
  case isFalse below =>
    have succeeds : response.status < 400 := by omega
    simp only [bind, Except.bind, Http.Response.decode]
    cases decoded : Json.decodeOctets envelope response.body with
    | ok shown => exact .shown succeeds decoded _
    | error e =>
      refine .malformed succeeds (fun shown same => ?_) _
      cases decoded.symm.trans same

/-- What becomes of the call that asks for a resource is told by the response. -/
theorem tells (shows : service.Shows item envelope) (base : String) (o : Declared S) (id : String)
    (exchange : Http.Request → Http.Exchange) :
    Tells envelope (service.response? base (.observe o id) exchange)
      (service.outcome base (.observe o id) exchange) := by
  simp only [response?, outcome]
  rcases shows.asks o id with refused | ⟨request, sends, -⟩
  · simp only [refused]
    exact .silent _
  simp only [sends]
  cases request.url? base with
  | none => exact .silent _
  | some url =>
    simp only [Option.bind_some]
    cases exchange request with
    | answered response => exact shows.tells_read o id response
    | unreachable => exact .silent _
    | timedOut => exact .silent _
    | cut => exact .silent _

end Shows

end Service

namespace Cycle

variable {kind : Kind S} {o : Declared S}

/-- Whatever a resource that was found needs, the object keeps its identifier. -/
private theorem isMild_found (r : RemoteResource) : (Reconcile.found kind o r).IsMild := by
  unfold Reconcile.found
  cases kind.readiness r with
  | transitional => trivial
  | failed => exact ⟨rfl, fun _ => ⟨rfl, fun _ => trivial⟩⟩
  | ready =>
    dsimp only
    split
    · exact ⟨rfl, fun _ => ⟨rfl, fun _ => trivial⟩⟩
    · unfold Reconcile.validated
      split
      · rintro (_ | e | _)
        · trivial
        · trivial
        · exact ⟨rfl, fun _ => trivial⟩
      · trivial

/-- What a cycle fails with because of a deed: a call that has failed, other than by finding nothing. -/
private def trouble? : Deed S → Option ReconcileError
  | .called c (some (.error why)) => if why = .notFound then none else some (.client c.operation why)
  | _ => none

/-- No deed is a reason to fail. -/
private def Untroubled (past : List (Deed S)) : Prop := ∀ deed ∈ past, trouble? deed = none

/-- A deed that is a reason to fail is why the cycle has failed. -/
private def Heeds (past : List (Deed S)) (result : CycleResult) : Prop :=
  ∀ deed ∈ past, ∀ error, trouble? deed = some error → result = .error error

section Heeds

variable {past : List (Deed S)}

private theorem Untroubled.cons (untroubled : Untroubled past) {deed : Deed S}
    (fine : trouble? deed = none) : Untroubled (deed :: past) :=
  List.forall_mem_cons.2 ⟨fine, untroubled⟩

private theorem Untroubled.heeds (untroubled : Untroubled past) (result : CycleResult) :
    Heeds past result := by
  intro deed member error troubles
  cases (untroubled deed member).symm.trans troubles

private theorem Untroubled.failed (untroubled : Untroubled past) {c : RemoteCall S} {why : ClientError}
    {reply : c.Reply} (error : reply = some (.error why)) :
    Heeds (.called c reply :: past) (.error (.client c.operation why)) := by
  subst error
  intro deed member error troubles
  rcases List.mem_cons.1 member with rfl | member
  · simp only [trouble?] at troubles
    split at troubles <;> cases troubles
    rfl
  · cases (untroubled deed member).symm.trans troubles

private theorem heeds_publishing (untroubled : Untroubled past) (state : ConditionState)
    {next : Cycle S CycleResult} (goesOn : ∀ past, Untroubled past → next.Ends Heeds past) :
    (publishing state next).Ends Heeds past :=
  fun _ => goesOn _ (untroubled.cons rfl)

private theorem heeds_finish (outcome : Outcome) (past : List (Deed S)) (untroubled : Untroubled past) :
    (Reconcile.finish outcome).Ends Heeds past :=
  untroubled.heeds _

private theorem heeds_success (outcome : Outcome) (past : List (Deed S)) (untroubled : Untroubled past) :
    (publishing .reconcileSuccess (Reconcile.finish outcome)).Ends Heeds past :=
  heeds_publishing untroubled _ (heeds_finish outcome)

private theorem heeds_found (untroubled : Untroubled past) (r : RemoteResource) :
    (Reconcile.found kind o r).Ends Heeds past := by
  unfold Reconcile.found
  cases kind.readiness r with
  | transitional => exact untroubled.heeds _
  | failed => exact heeds_publishing untroubled _ (heeds_success .unavailable)
  | ready =>
    dsimp only
    split
    · exact heeds_publishing untroubled _ (heeds_success .available)
    · unfold Reconcile.validated
      split
      · rintro (_ | why | _)
        · exact Untroubled.heeds (untroubled.cons rfl) _
        · exact untroubled.failed rfl
        · exact heeds_success .updated _ (untroubled.cons rfl)
      · exact untroubled.heeds _

private theorem heeds_absent (untroubled : Untroubled past) (id : String) :
    (Reconcile.absent kind id).Ends Heeds past := by
  unfold Reconcile.absent
  cases kind.policy.onAbsent with
  | fail => exact untroubled.heeds _
  | recreate =>
    rintro (_ | _)
    · exact Untroubled.heeds (untroubled.cons rfl) _
    · exact heeds_publishing (untroubled.cons rfl) _ (heeds_finish .recreate)

private theorem heeds_observe (untroubled : Untroubled past) (id : String) :
    (Reconcile.observe kind o id).Ends Heeds past := by
  rintro (_ | why | _ | r)
  · exact Untroubled.heeds (untroubled.cons rfl) _
  · cases why with
    | notFound => exact heeds_absent (untroubled.cons rfl) id
    | _ => exact untroubled.failed rfl
  · exact heeds_absent (untroubled.cons rfl) id
  · exact heeds_found (untroubled.cons rfl) r

/-- A call that fails while a resource is looked after fails the cycle. -/
private theorem observe_heeds (kind : Kind S) (o : Declared S) (untroubled : Untroubled past) (id : String) :
    ((Reconcile.observe kind o id).bind Reconcile.noted).Ends Heeds past := by
  refine (heeds_observe untroubled id).bind fun past result heeds => ?_
  unfold Reconcile.noted
  split
  · exact heeds
  · exact heeds
  · exact heeds
  · exact fun reply => List.forall_mem_cons.2 ⟨nofun, heeds⟩

end Heeds

end Cycle

/-- How a cycle of a key ends whose object has a recorded identifier, given the response to the request for
the resource, if there was one. -/
structure Upshot.Judged (ended : Upshot S CycleResult) (key : Key) (o : Declared S)
    (envelope : Decoder α) (response : Option Http.Response) : Prop where
  cleared : ∃ o', ended.engine.store.get? key = some o' ∧
    (o'.recordedId = none ↔ ∃ given, response = some given ∧ given.status = 404) ∧
    ((¬∃ given, response = some given ∧ given.status = 404) → o'.bare = o.bare)
  silent : response = none → ended.FailsAs .transient
  refused : ∀ given, response = some given → 400 ≤ given.status → given.status ≠ 404 →
    ended.FailsAs .transient
  malformed : ∀ given, response = some given → given.status < 400 →
    (∀ shown, Json.decodeOctets envelope given.body ≠ .ok shown) → ended.FailsAs .poison

/-- Every cycle of an object with a recorded identifier asks for the resource first and is judged by the
response. It also fails if any other request of it is not answered. -/
def Service.JudgedByStatus [Spec S] (service : Service S) (item : S → String → String)
    (envelope : Decoder α) : Prop :=
  ∀ (base : String) (now : List (Deed S) → Time.Timestamp) (write : List (Deed S) → WriteOutcome)
    (exchange : List (Deed S) → Http.Request → Http.Exchange) (key : Key) (e : Engine S)
    (o : Declared S) (id : String),
    e.store.get? key = some o → o.isDeletionRequested = false → o.externalId = some id →
    let ended := (service.overHttp base now write exchange).run key (reconcile service.toKind) e []
    (∀ request, service.ask (.observe o id) = .send request →
      request.method = .get ∧ request.path = item o.spec id) ∧
    ended.Judged key o envelope
      (service.response? base (.observe o id) (exchange [.acted .read (some o)])) ∧
    ∀ later call reply earlier request, ended.past = later ++ .called call reply :: earlier →
      service.ask call = .send request → service.response? base call (exchange earlier) = none →
      ended.FailsAs .transient

section Runs

variable [Spec S] {s : Surroundings S} {key : Key} {e : Engine S} {past : List (Deed S)} {o : Declared S}
  {id : String}

omit [Spec S] in
private theorem recordedId_of_externalId (recorded : o.externalId = some id) : o.recordedId ≠ none := by
  intro none
  simp only [Declared.externalId, none, Option.filter_none] at recorded
  cases recorded

/-- To take an identifier back changes nothing else of the object, whether or not it can be written. -/
private theorem StoreCall.effect_forgets {objects : SortedMap Key (Declared S)}
    (found : objects.get? key = some o) (recorded : o.externalId = some id) :
    ((clearExternalId key).effect objects).Leaves fun after =>
      after.get? key = some { o with recordedId := none } := by
  have held : o.recordedId.isSome = true :=
    Option.isSome_iff_ne_none.2 (recordedId_of_externalId recorded)
  have put : (objects.insert key { o with recordedId := none }).get? key =
      some { o with recordedId := none } := (SortedMap.get?_insert ..).trans (if_pos rfl)
  simp only [effect, found, held, if_true]
  exact ⟨put, put⟩

private theorem absent_run {kind : Kind S} (recreates : kind.policy.onAbsent = .recreate)
    (found : e.store.get? key = some o) (recorded : o.externalId = some id) :
    ∃ o', (s.run key ((Reconcile.absent kind id).bind Reconcile.noted) e past).engine.store.get? key =
      some o' ∧ o'.bare = { o with recordedId := none : Declared S }.bare := by
  have forgotten := StoreCall.perform_leaves
    (StoreCall.effect_forgets found recorded) (s.write past)
  simp only [Reconcile.absent, recreates, Identity.clear, Cycle.bind, Surroundings.run]
  refine Engine.bare_run (Cycle.isMild_noted ?_) forgotten
  split
  · trivial
  · exact ⟨rfl, fun _ => trivial⟩

/-- An object of which nothing but conditions changes keeps its identifier. -/
private theorem mild_run {c : Cycle S CycleResult} (mild : c.IsMild) {response : Option Http.Response}
    (found : e.store.get? key = some o) (recorded : o.externalId = some id)
    (apart : ∀ given, response = some given → given.status ≠ 404) :
    ∃ o', (s.run key (c.bind Reconcile.noted) e past).engine.store.get? key = some o' ∧
      (o'.recordedId = none ↔ ∃ given, response = some given ∧ given.status = 404) ∧
      ((¬∃ given, response = some given ∧ given.status = 404) → o'.bare = o.bare) := by
  obtain ⟨o', held, bare⟩ := Engine.bare_run (Cycle.isMild_noted mild) found
  have same : o'.bare.recordedId = o.bare.recordedId := congrArg Declared.recordedId bare
  refine ⟨o', held, ⟨fun cleared => ?_, fun ⟨given, response, gone⟩ => ?_⟩, fun _ => bare⟩
  · exact absurd (same.symm.trans cleared) (recordedId_of_externalId recorded)
  · exact absurd gone (apart given response)

private theorem failed_run (operation : Operation) (why : ClientError) :
    (s.run key ((Reconcile.fail (.client operation why)).bind Reconcile.noted) e past).result =
      .error (.client operation why) :=
  rfl

end Runs

/-- A request that is not answered is a transport error. -/
theorem Service.outcome_unanswered {service : Service S} {base : String} {call : RemoteCall S}
    {exchange : Http.Request → Http.Exchange} {request : Http.Request}
    (sends : service.ask call = .send request) (unanswered : service.response? base call exchange = none) :
    ∃ why, service.outcome base call exchange = .error (.transport why) := by
  simp only [response?, sends] at unanswered
  simp only [outcome, sends]
  cases url : request.url? base with
  | none => exact ⟨_, rfl⟩
  | some url' =>
    simp only [url, Option.bind_some] at unanswered
    cases becomes : exchange request with
    | answered response =>
      rw [becomes] at unanswered
      cases unanswered
    | unreachable => exact ⟨_, rfl⟩
    | timedOut => exact ⟨_, rfl⟩
    | cut => exact ⟨_, rfl⟩

section Judgement

variable [Spec S] {service : Service S} {base : String} {now : List (Deed S) → Time.Timestamp}
  {write : List (Deed S) → WriteOutcome} {exchange : List (Deed S) → Http.Request → Http.Exchange}
  {key : Key} {e : Engine S} {o : Declared S} {id : String}

/-- The response to the first request says how the cycle ends. -/
private theorem Service.Shows.judges {item : S → String → String} {envelope : Decoder α}
    (shows : service.Shows item envelope) (found : e.store.get? key = some o)
    (wanted : o.isDeletionRequested = false) (recorded : o.externalId = some id) :
    ((service.overHttp base now write exchange).run key (reconcile service.toKind) e []).Judged key o envelope
      (service.response? base (.observe o id) (exchange [.acted .read (some o)])) := by
  have told := shows.tells base o id (exchange [.acted .read (some o)])
  have fails : ∀ error, (Reconcile.fail error : Cycle S CycleResult).IsMild := fun _ => trivial
  rw [Surroundings.run_recorded _ _ found wanted recorded]
  simp only [Reconcile.observe, Cycle.bind, Surroundings.run, Surroundings.reply, overHttp, Surroundings.undisturbed,
    Bool.false_eq_true, if_false]
  generalize service.outcome base (.observe o id) (exchange [.acted .read (some o)]) = outcome at told ⊢
  generalize service.response? base (.observe o id) (exchange [.acted .read (some o)]) = response at told ⊢
  cases told with
  | silent why =>
    refine ⟨mild_run (fails _) found recorded (by simp), fun _ => ?_, by simp, by simp⟩
    exact ⟨_, failed_run .observe _, rfl⟩
  | @gone response notFound =>
    obtain ⟨o', held, bare⟩ := absent_run shows.recreates found recorded
    have cleared : o'.bare.recordedId = none := congrArg Declared.recordedId bare
    have gone : ∃ given, some response = some given ∧ given.status = 404 := ⟨_, rfl, notFound⟩
    refine ⟨⟨o', held, ⟨fun _ => gone, fun _ => cleared⟩, fun apart => absurd gone apart⟩, by simp, ?_, ?_⟩
    · rintro given ⟨⟩ _ apart
      exact absurd notFound apart
    · rintro given ⟨⟩ below
      omega
  | refused apart refuses text =>
    refine ⟨mild_run (fails _) found recorded ?_, by simp, fun _ _ _ _ => ?_, ?_⟩
    · rintro given ⟨⟩
      exact apart
    · exact ⟨_, failed_run .observe _, rfl⟩
    · rintro given ⟨⟩ below
      omega
  | malformed succeeds undecoded why =>
    refine ⟨mild_run (fails _) found recorded ?_, by simp, ?_, fun _ _ _ _ => ?_⟩
    · rintro given ⟨⟩
      omega
    · rintro given ⟨⟩ above
      omega
    · exact ⟨_, failed_run .observe _, rfl⟩
  | shown succeeds decoded r =>
    refine ⟨mild_run (Cycle.isMild_found r) found recorded ?_, by simp, ?_, ?_⟩
    · rintro given ⟨⟩
      omega
    · rintro given ⟨⟩ above
      omega
    · rintro given ⟨⟩ _ undecoded
      exact absurd decoded (undecoded _)

/-- A request that is not answered fails the cycle. -/
private theorem Service.unanswered_fails (found : e.store.get? key = some o)
    (wanted : o.isDeletionRequested = false) (recorded : o.externalId = some id)
    {later earlier : List (Deed S)} {call : RemoteCall S} {reply : call.Reply} {request : Http.Request}
    (split : ((service.overHttp base now write exchange).run key (reconcile service.toKind) e []).past =
      later ++ .called call reply :: earlier)
    (sends : service.ask call = .send request)
    (unanswered : service.response? base call (exchange earlier) = none) :
    ((service.overHttp base now write exchange).run key (reconcile service.toKind) e []).FailsAs
      .transient := by
  let s := service.overHttp base now write exchange
  have replied := (Surroundings.Replied.nil s).run key (reconcile service.toKind) e later call reply
    earlier split
  obtain ⟨why, fails⟩ := outcome_unanswered sends unanswered
  cases replied.trans (congrArg some fails)
  have untroubled : Cycle.Untroubled [Deed.acted .read (some o)] :=
    List.forall_mem_cons.2 ⟨rfl, fun _ member => absurd member List.not_mem_nil⟩
  have heeds := (Cycle.observe_heeds service.toKind o untroubled id).run s key e
  rw [← s.run_recorded service.toKind found wanted recorded] at heeds
  exact ⟨_, heeds _ (split ▸ List.mem_append_right later List.mem_cons_self) _ rfl, rfl⟩

private theorem Service.Shows.judged {item : S → String → String} {envelope : Decoder α}
    (shows : service.Shows item envelope) : service.JudgedByStatus item envelope := by
  intro base now write exchange key e o id found wanted recorded
  refine ⟨fun request sends => ?_, shows.judges found wanted recorded, ?_⟩
  · rcases shows.asks o id with refused | ⟨asked, own, gets⟩
    · cases refused.symm.trans sends
    · cases own.symm.trans sends
      exact gets
  · intro later call reply earlier request split sends unanswered
    exact unanswered_fails found wanted recorded split sends unanswered

end Judgement

end CloudKeeper
