import CloudKeeper.Proofs.Cycle.Healing
import CloudKeeper.Proofs.Kind.Absence
import CloudKeeper.Proofs.Scheduler.Queue
/-!
A floating IP whose project no header can name. Nothing is ever sent for it, because no request about it
can be built; but the error of that is one of the transport, like that of a request that has been lost. So
every cycle that comes to a call fails as if the service could not be reached, changes nothing but
conditions, and is retried when its backoff window ends, however often that has happened before.
-/
namespace CloudKeeper

open Time (Instant Timestamp)

variable {S : Type}

namespace Service

/-- No request about an object can be built, and no resource is ever looked up for it. -/
structure Refuses (service : Service S) (o : Declared S) : Prop where
  lookup : service.ask (.lookup o) = .known none
  asks : ∀ call : RemoteCall S, call.object = o → call.operation ≠ .lookup →
    service.ask call = .refused Http.unbuildable

namespace Refuses

variable {service : Service S} {o : Declared S}

theorem outcome (refuses : service.Refuses o) (base : String) (exchange : Http.Request → Http.Exchange)
    (call : RemoteCall S) (about : call.object = o) (bound : call.operation ≠ .lookup) :
    service.outcome base call exchange = .error Http.unbuildable := by
  simp only [Service.outcome, refuses.asks call about bound]

theorem observes (refuses : service.Refuses o) (base : String) (exchange : Http.Request → Http.Exchange)
    (id : String) : service.outcome base (.observe o id) exchange = .error Http.unbuildable :=
  refuses.outcome base exchange _ rfl (by rintro ⟨⟩)

theorem creates (refuses : service.Refuses o) (base : String) (exchange : Http.Request → Http.Exchange) :
    service.outcome base (.create o) exchange = .error Http.unbuildable :=
  refuses.outcome base exchange _ rfl (by rintro ⟨⟩)

theorem deletes (refuses : service.Refuses o) (base : String) (exchange : Http.Request → Http.Exchange)
    (id : String) : service.outcome base (.delete o id) exchange = .error Http.unbuildable :=
  refuses.outcome base exchange _ rfl (by rintro ⟨⟩)

theorem finds_nothing (refuses : service.Refuses o) (base : String)
    (exchange : Http.Request → Http.Exchange) : service.outcome base (.lookup o) exchange = .ok none := by
  simp only [Service.outcome, refuses.lookup]

theorem unsent (refuses : service.Refuses o) {call : RemoteCall S} (about : call.object = o) (request : Http.Request) :
    service.ask call ≠ .send request := by
  intro sends
  by_cases bound : call.operation = .lookup
  · cases call with
    | lookup o' =>
      cases about
      cases refuses.lookup.symm.trans sends
    | _ => cases bound
  · cases (refuses.asks call about bound).symm.trans sends

end Refuses

end Service

/-- Where a cycle of an object comes to: the first call of it that needs a request, if there is one. -/
inductive Engine.ComesTo (e : Engine S) (kind : Kind S) (key : Key) (o : Declared S) : Operation → Prop
  | observe {id : String} (wanted : o.isDeletionRequested = false) (recorded : o.externalId = some id) :
    ComesTo e kind key o .observe
  | create (wanted : o.isDeletionRequested = false) (unrecorded : o.externalId = none)
    (unremembered : e.unrecorded.get? key = none) (valid : kind.validate o.spec = .ok ()) :
    ComesTo e kind key o .create
  | delete_recorded {id : String} (unwanted : o.isDeletionRequested = true)
    (recorded : o.externalId = some id) : ComesTo e kind key o .delete
  | delete_remembered {id : String} (unwanted : o.isDeletionRequested = true)
    (unrecorded : o.externalId = none) (remembered : e.unrecorded.get? key = some id) :
    ComesTo e kind key o .delete

/-- A deed has sent nothing to the service and has changed nothing on this side but conditions. -/
def Deed.IsIdle (service : Service S) : Deed S → Prop
  | .acted action _ => action.isMild = true
  | .called call _ => ∀ request, service.ask call ≠ .send request

section Cycles

variable [Spec S] {service : Service S} {base : String} {now : List (Deed S) → Timestamp}
  {write : List (Deed S) → WriteOutcome} {exchange : List (Deed S) → Http.Request → Http.Exchange}
  {key : Key} {e : Engine S} {o : Declared S} {operation : Operation} {past : List (Deed S)}

/-- The cycle of an object about which no request can be built fails at the first call that it comes to. -/
private theorem cycle_fails (refuses : service.Refuses o) (found : e.store.get? key = some o)
    (comes : e.ComesTo service.toKind key o operation) :
    let ended := (service.overHttp base now write exchange).run key (reconcile service.toKind) e past
    ended.result = .error (.client operation Http.unbuildable) ∧
      ∃ own, ended.past = own ++ past ∧ ∀ deed ∈ own, deed.IsIdle service := by
  intro ended
  cases comes with
  | @observe id wanted recorded =>
    have does : ended = _ := Surroundings.run_recorded _ _ found wanted recorded past
    simp only [Reconcile.observe, Cycle.bind, Surroundings.run, Service.overHttp_reply, refuses.observes] at does
    rw [does]
    refine ⟨rfl, [_, _, _], rfl, ?_⟩
    simp only [List.forall_mem_cons]
    exact ⟨rfl, refuses.unsent rfl, rfl, List.forall_mem_nil _⟩
  | create wanted unrecorded unremembered valid =>
    have does : ended = _ := Surroundings.run_unrecorded _ _ found wanted unrecorded past
    simp only [Reconcile.create, Cycle.bind, Surroundings.run, Engine.perform, unremembered, Reconcile.validated, valid,
      Reconcile.calling, Service.overHttp_reply, refuses.finds_nothing, refuses.creates] at does
    rw [does]
    refine ⟨rfl, [_, _, _, _, _], rfl, ?_⟩
    simp only [List.forall_mem_cons]
    exact ⟨rfl, refuses.unsent rfl, refuses.unsent rfl, rfl, rfl, List.forall_mem_nil _⟩
  | @delete_recorded id unwanted recorded =>
    have does : ended = _ := Surroundings.run_unwanted _ _ found unwanted past
    simp only [Reconcile.finalize, recorded, Reconcile.delete, Cycle.publishing, Cycle.bind, Surroundings.run,
      Service.overHttp_reply, refuses.deletes] at does
    rw [does]
    refine ⟨rfl, [_, _, _, _], rfl, ?_⟩
    simp only [List.forall_mem_cons]
    exact ⟨rfl, refuses.unsent rfl, rfl, rfl, List.forall_mem_nil _⟩
  | @delete_remembered id unwanted unrecorded remembered =>
    have does : ended = _ := Surroundings.run_unwanted _ _ found unwanted past
    simp only [Reconcile.finalize, unrecorded, Engine.perform, remembered, Reconcile.delete, Cycle.publishing,
      Cycle.bind, Surroundings.run, Service.overHttp_reply, refuses.deletes] at does
    rw [does]
    refine ⟨rfl, [_, _, _, _, _], rfl, ?_⟩
    simp only [List.forall_mem_cons]
    exact ⟨rfl, refuses.unsent rfl, rfl, rfl, rfl, List.forall_mem_nil _⟩

omit [Spec S] in
/-- To publish states does not change what a cycle comes to. -/
private theorem comes_marked {after : Engine S} {states : List ConditionState} {kind : Kind S}
    (marked : e.Marked key states after) (found : e.store.get? key = some o)
    (comes : e.ComesTo kind key o operation) :
    ∃ o', after.store.get? key = some o' ∧ o'.spec = o.spec ∧ after.ComesTo kind key o' operation := by
  obtain ⟨conditions, held, -⟩ := marked.own o found
  refine ⟨_, held, rfl, ?_⟩
  have same := marked.unrecorded
  cases comes with
  | observe wanted recorded => exact .observe wanted recorded
  | create wanted unrecorded unremembered valid =>
    exact .create wanted unrecorded (same ▸ unremembered) valid
  | delete_recorded unwanted recorded => exact .delete_recorded unwanted recorded
  | delete_remembered unwanted unrecorded remembered =>
    exact .delete_remembered unwanted unrecorded (same ▸ remembered)

omit [Spec S] in
private theorem mild_of_idle {deed : Deed S} (idle : deed.IsIdle service) : deed.isMild = true := by
  cases deed with
  | acted action reply => exact idle
  | called call reply => rfl

/-- What any number of cycles of a key, one after another, have come to: the last of them has failed because
no request could be built, and nothing has been sent or changed but conditions. -/
structure Upshot.Unsent (ended : Upshot S CycleResult) (service : Service S) (start : Engine S) (key : Key)
    (operation : Operation) : Prop where
  fails : ended.result = .error (.client operation Http.unbuildable)
  idle : ∀ deed ∈ ended.past, deed.IsIdle service
  marked : start.Marked key (Deed.published ended.past) ended.engine

section Repeated

variable {spec : S} {start : Engine S} (refuses : ∀ o, o.spec = spec → service.Refuses o)
  (found : start.store.get? key = some o) (same : o.spec = spec)
  (comes : start.ComesTo service.toKind key o operation)

include refuses found same comes

private theorem cycle_unsent (marked : start.Marked key (Deed.published past) e)
    (idle : ∀ deed ∈ past, deed.IsIdle service) :
    ((service.overHttp base now write exchange).run key (reconcile service.toKind) e past).Unsent service
      start key operation := by
  obtain ⟨o', held, still, goesOn⟩ := comes_marked marked found comes
  obtain ⟨fails, own, split, more⟩ := cycle_fails (refuses o' (still.trans same)) held goesOn
  have idles := split ▸ List.forall_mem_append.2 ⟨more, idle⟩
  exact ⟨fails, idles, marked.run fun deed member => mild_of_idle (idles deed member)⟩

private theorem cycles_unsent (n : Nat) (marked : start.Marked key (Deed.published past) e)
    (idle : ∀ deed ∈ past, deed.IsIdle service) :
    ((service.overHttp base now write exchange).cycleAfter service.toKind key n e past).Unsent service
      start key operation := by
  induction n generalizing e past with
  | zero => exact cycle_unsent refuses found same comes marked idle
  | succ n ih =>
    have first : ((service.overHttp base now write exchange).run key (reconcile service.toKind) e
        past).Unsent service start key operation := cycle_unsent refuses found same comes marked idle
    exact ih first.marked first.idle

end Repeated

end Cycles

/-- A cycle that ends in this way is tried again by itself: a timer is set that triggers its key, unless
the backoff window would end beyond the clock. -/
def CycleResult.IsRetried (result : CycleResult) : Prop :=
  ∀ (config : SchedulerConfig) (now : Instant) (q : WorkQueue) (key : Key) (entry : QueueEntry)
    (ends : Instant), q.entries.get? key = some entry →
    now.after? (q.backoff.delay (WorkQueue.oneMore entry.failures)) = some ends →
    (Scheduler.report config now q key result).Armed key

private theorem isRetried_of_transient {error : ReconcileError} (transient : error.errorClass = .transient) :
    CycleResult.IsRetried (.error error) := by
  intro config now q key entry ends found within
  simp only [Scheduler.report, transient, WorkQueue.failed, found]
  rcases WorkQueue.holdBack_cases q now key _ _ with ⟨beyond, -⟩ | ⟨_, -, does⟩
  · cases beyond.symm.trans within
  · rw [does]
    exact WorkQueue.arm_armed

/-- A floating IP in a project that no header can name is refused every request. -/
theorem FloatingIp.refuses {o : Declared FloatingIpSpec}
    (illegal : Http.isHeaderValue o.spec.projectId = false) : FloatingIp.service.Refuses o where
  lookup := rfl
  asks call about bound := by
    subst about
    cases call with
    | lookup => exact absurd rfl bound
    | _ => exact if_neg (Bool.eq_false_iff.1 illegal)

/-- **A request that cannot be built for a floating IP is taken for one that was lost.** In a project that
no header can name, whether the parameters are valid or not: no call but the lookup, which needs none, has
a request, and all of them fail as transport errors. Any number of cycles that come to such a call send
nothing, change nothing but conditions, and each of them fails so and is retried. -/
theorem FloatingIp.unbuildable_is_retried {spec : FloatingIpSpec}
    (illegal : Http.isHeaderValue spec.projectId = false) :
    (∀ call : RemoteCall FloatingIpSpec, call.object.spec = spec → call.operation ≠ .lookup →
      (∀ request, FloatingIp.service.ask call ≠ .send request) ∧ ∀ base exchange,
        FloatingIp.service.outcome base call exchange = .error Http.unbuildable) ∧
    (∀ (base : String) (now : List (Deed FloatingIpSpec) → Timestamp)
      (write : List (Deed FloatingIpSpec) → WriteOutcome)
      (exchange : List (Deed FloatingIpSpec) → Http.Request → Http.Exchange) (key : Key)
      (e : Engine FloatingIpSpec) (o : Declared FloatingIpSpec) (operation : Operation) (n : Nat),
      e.store.get? key = some o → o.spec = spec →
      e.ComesTo FloatingIp.service.toKind key o operation →
      ((FloatingIp.service.overHttp base now write exchange).cycleAfter FloatingIp.service.toKind key n
        e []).Unsent FloatingIp.service e key operation) ∧
    ∀ operation, ReconcileError.errorClass (.client operation Http.unbuildable) = .transient ∧
      CycleResult.IsRetried (.error (.client operation Http.unbuildable)) := by
  have refuses : ∀ o : Declared FloatingIpSpec, o.spec = spec → FloatingIp.service.Refuses o := by
    rintro o rfl
    exact FloatingIp.refuses illegal
  refine ⟨fun call about bound => ⟨?_, ?_⟩, ?_, fun operation => ⟨rfl, isRetried_of_transient rfl⟩⟩
  · exact (refuses _ about).unsent rfl
  · exact fun base exchange => (refuses _ about).outcome base exchange call rfl bound
  · intro base now write exchange key e o operation n found same comes
    exact cycles_unsent refuses found same comes n (.refl e key) (List.forall_mem_nil _)

/-- An address in a project with a line break in its name, which is valid: the seventh cycle still tries to
create it, and a queue that retries tries an eighth time. -/
theorem FloatingIp.unbuildable_is_retried_address :
    let key : Key := ⟨"floating_ip", "web"⟩
    let o : Declared FloatingIpSpec := { key, spec := { projectId := "a\nb", isp := "BGP", bandwidth := 10 } }
    let e : Engine FloatingIpSpec := { store := { objects := .ofList [(key, o)] } }
    let s := FloatingIp.service.overHttp "http://net" (fun _ => .epoch) (fun _ => .written)
      fun _ _ => .answered ⟨200, []⟩
    let ended := s.cycleAfter FloatingIp.service.toKind key 6 e []
    Http.isHeaderValue o.spec.projectId = false ∧ FloatingIp.validate o.spec = .ok () ∧
      ended.result = .error (.client .create (.transport "builder error")) ∧
      CycleResult.IsRetried ended.result := by
  intro key o e s ended
  have illegal : Http.isHeaderValue o.spec.projectId = false := by decide
  have valid : FloatingIp.validate o.spec = .ok () := by cbv
  obtain ⟨-, cycles, retries⟩ := FloatingIp.unbuildable_is_retried illegal
  have found : e.store.get? key = some o := (SortedMap.get?_insert ..).trans (if_pos rfl)
  have unsent := cycles "http://net" (fun _ => .epoch) (fun _ => .written) (fun _ _ => .answered ⟨200, []⟩)
    key e o .create 6 found rfl (.create rfl rfl rfl valid)
  have fails : ended.result = .error (.client .create Http.unbuildable) := unsent.fails
  exact ⟨illegal, valid, fails, fails ▸ (retries .create).2⟩

/-- The request to create that address cannot be built, which is neither an invalid request nor permanent. -/
theorem FloatingIp.unbuildable_is_no_invalid_request :
    let o : Declared FloatingIpSpec :=
      { key := ⟨"floating_ip", "web"⟩, spec := { projectId := "a\nb", isp := "BGP", bandwidth := 10 } }
    FloatingIp.validate o.spec = .ok () ∧ Http.isHeaderValue o.spec.projectId = false ∧
      ∃ why, FloatingIp.service.outcome "http://net" (.create o) (fun _ => .unreachable) = .error why ∧
        (∀ text, why ≠ .invalid text) ∧ ReconcileError.errorClass (.client .create why) ≠ .permanent :=
  ⟨by cbv, by decide, _, rfl, nofun, nofun⟩

end CloudKeeper
