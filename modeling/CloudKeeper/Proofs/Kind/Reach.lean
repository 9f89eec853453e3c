import CloudKeeper.Kind.Family
import CloudKeeper.Proofs.Cycle.Knowledge
import CloudKeeper.Proofs.Cycle.Redeclaration
import CloudKeeper.Proofs.Cycle.Wanted
import CloudKeeper.Time.Epoch
/-!
Whether a resource can still be reached after its object has been declared anew. Volumes and floating IPs are
asked for in a project, and every request names the project of the parameters that its cycle has read, not
that in which the resource was made. So a resource stays within reach as long as no author changes the
project, and exactly so long: the next cycle after such a change asks for the resource where it is not.
-/
namespace CloudKeeper

variable {S : Type}

/-- The identifier of the resource that a call is for, if it is for one. -/
def RemoteCall.target? : RemoteCall S → Option String
  | .observe _ id | .delete _ id => some id
  | .update _ r => some r.id
  | .create _ | .lookup _ => none

/-- How requests say in which project a resource is. -/
structure Addressing (S : Type) where
  /-- The project that parameters name. -/
  project : S → String
  /-- Whether requests can name a project. -/
  nameable : String → Bool
  /-- A request makes a resource in a project. -/
  makes : String → Http.Request → Prop
  /-- A request is for the resource of an identifier in a project. -/
  reaches : String → String → Http.Request → Prop

theorem RemoteCall.not_lookup_of_target {c : RemoteCall S} {id : String} (target : c.target? = some id) :
    c.operation ≠ .lookup := by
  cases c with
  | create | lookup => cases target
  | observe | update | delete => simp [RemoteCall.operation]

/-- A service is spoken to in this way: but for lookups, a request goes to the project of the parameters that
its call is about, and is sent if that can be named. -/
structure Addressing.Fits [Spec S] (a : Addressing S) (service : Service S) : Prop where
  sends : ∀ c, c.operation ≠ .lookup →
    ((∃ request, service.ask c = .send request) ↔ a.nameable (a.project c.object.spec) = true)
  makes : ∀ o request, service.ask (.create o) = .send request → a.makes (a.project o.spec) request
  reaches : ∀ c id request, c.target? = some id → service.ask c = .send request →
    a.reaches (a.project c.object.spec) id request
  apart : ∀ {p p' id request}, a.reaches p id request → a.reaches p' id request → p = p'
  same : ∀ spec spec', Spec.same spec spec' = true → a.project spec = a.project spec'

namespace Works

/-- The call that the cycle of a key waits for, with its request if it is sent. -/
def asking? (w : Works S) (service : Service S) (key : Key) : Option (RemoteCall S × Http.Request) :=
  match w.running key with
  | some (.call c _) =>
    match service.ask c with
    | .send request => some (c, request)
    | .known _ | .refused _ => none
  | _ => none

/-- A resource with an identifier has been made for a key by a request of some kind, and the identifier has
been recorded. -/
def Made (w : Works S) (service : Service S) (key : Key) (id : String) (makes : Http.Request → Prop) :
    Prop :=
  (∃ o request, service.ask (.create o) = .send request ∧ makes request ∧
    .answered key (.create o) (some (.ok id)) ∈ w.log) ∧ .recorded key id (.ok ()) ∈ w.log

section Declared

variable [Spec S] {kind : Kind S} {w : Works S} {key : Key} {property : S → Prop} {past : List (Deed S)}

/-- The parameters that stand declared for a key, and those that its cycle has read, have a property. -/
structure Bears (kind : Kind S) (w : Works S) (key : Key) (property : S → Prop) (past : List (Deed S)) :
    Prop where
  underway : w.Underway kind key past
  stored : ∀ o, w.engine.store.get? key = some o → property o.spec
  read : ∀ o, .acted .read (some o) ∈ past → property o.spec

private theorem stored_step (kind : Kind S) {move : Move S}
    (stored : ∀ o, w.engine.store.get? key = some o → property o.spec)
    (declared : ∀ spec write, move = .apply key spec write → property spec) :
    ∀ o, (w.step kind move).engine.store.get? key = some o → property o.spec := by
  rw [step_store]
  split
  next call write makes =>
    refine StoreCall.perform_leaves (StoreCall.effect_specs call stored fun spec same => ?_) write
    obtain ⟨own, -, applies⟩ := storeCall_move makes
    cases same
    exact declared spec write ((applies spec rfl).trans (congrArg (Move.apply · spec write) own.symm))
  next => exact stored

/-- What a cycle reads is what is stored. -/
private theorem stored_of_read {o : Declared S} {action : Action S} {now : Time.Timestamp}
    {write : WriteOutcome}
    (reads : Deed.acted .read (some o) = .acted action (w.engine.perform { now, write } key action).2) :
    w.engine.store.get? key = some o := by
  cases action with
  | read =>
    simp only [Deed.acted.injEq, heq_eq_eq, true_and] at reads
    exact reads.symm
  | _ => cases reads

/-- Parameters come from authors alone, so if those have the property, what is stored and read has it too. -/
theorem Bears.step (bears : w.Bears kind key property past) (move : Move S)
    (declared : ∀ spec write, move = .apply key spec write → property spec) :
    ∃ past', (w.step kind move).Bears kind key property past' := by
  have stored := stored_step kind bears.stored declared
  obtain ⟨past', underway, ⟨seen, rfl⟩ | ⟨-, -, rfl⟩⟩ := bears.underway.step move
  · refine ⟨_, underway, stored, fun o member => ?_⟩
    rcases List.mem_append.1 member with own | earlier
    · generalize w.deed? key move = deed at seen own
      cases seen with
      | acted => exact bears.stored o (stored_of_read (List.mem_singleton.1 own))
      | answered => cases List.mem_singleton.1 own
      | authored => cases own
      | nothing => cases own
    · exact bears.read o earlier
  · exact ⟨[], underway, stored, fun _ member => absurd member List.not_mem_nil⟩

theorem Bears.run (bears : w.Bears kind key property past) {moves : List (Move S)}
    (declared : ∀ spec write, .apply key spec write ∈ moves → property spec) :
    ∃ past', (w.run kind moves).Bears kind key property past' := by
  induction moves generalizing w past with
  | nil => exact ⟨past, bears⟩
  | cons move rest ih =>
    obtain ⟨past', bears⟩ := bears.step move fun spec write same =>
      declared spec write (same ▸ List.mem_cons_self)
    exact ih bears fun spec write member => declared spec write (List.mem_cons_of_mem _ member)

omit [Spec S] in
/-- A call that is out is about parameters that have the property. -/
theorem Bears.asking {service : Service S} (bears : w.Bears service.toKind key property past)
    {c : RemoteCall S} {request : Http.Request} (asks : w.asking? service key = some (c, request)) :
    property c.object.spec ∧ service.ask c = .send request := by
  unfold asking? at asks
  split at asks
  next call next runs =>
    split at asks
    next sent sends =>
      cases asks
      exact ⟨bears.read _ (bears.underway.warranted runs).about_read, sends⟩
    next => cases asks
    next => cases asks
  next => cases asks

/-- Nothing that has happened is taken out of the log. -/
private theorem log_step (kind : Kind S) (w : Works S) (move : Move S) :
    w.log ⊆ (w.step kind move).log := by
  cases move with
  | apply => exact List.Subset.refl _
  | requestDeletion => exact List.Subset.refl _
  | act =>
    simp only [Works.step]
    split
    · exact List.subset_append_right ..
    · exact List.Subset.refl _
  | answer =>
    simp only [Works.step]
    split
    · exact List.subset_cons_self ..
    · exact List.Subset.refl _
  | begin =>
    simp only [Works.step]
    split <;> exact List.Subset.refl _
  | finish =>
    simp only [Works.step]
    split <;> exact List.Subset.refl _

private theorem log_run (kind : Kind S) (w : Works S) (moves : List (Move S)) :
    w.log ⊆ (w.run kind moves).log := by
  induction moves generalizing w with
  | nil => exact List.Subset.refl _
  | cons move rest ih => exact List.Subset.trans (log_step kind w move) (ih _)

omit [Spec S] in
private theorem Made.later {after : Works S} {service : Service S} {id : String}
    {makes : Http.Request → Prop} (made : w.Made service key id makes) (grows : w.log ⊆ after.log) :
    after.Made service key id makes := by
  obtain ⟨⟨o, request, asks, inside, answered⟩, recorded⟩ := made
  exact ⟨⟨o, request, asks, inside, grows answered⟩, grows recorded⟩

/-- A declaration that is written changes the parameters and nothing else of an object that is wanted. -/
private theorem redeclared {spec : S} {h : Custody} (wants : w.engine.Wants key spec h) (wish : S) :
    ∃ declared, (declared = wish ∨ Spec.same declared wish = true) ∧
      (w.step kind (.apply key wish .written)).engine.Wants key declared h := by
  obtain ⟨-, declared, compares, intent⟩ := StoreCall.apply_wish w.engine.store key wish
  have kept := StoreCall.perform_spares (c := .apply key wish) trivial w.engine.store .written key
  exact ⟨declared, compares, (congrArg (Custody.mk · _) kept).trans wants.custody, intent⟩

/-- A cycle of an object that is wanted first asks for the resource that is recorded. -/
private theorem observes (kind : Kind S) {o : Declared S} {id : String} (idle : w.running key = none)
    (found : w.engine.store.get? key = some o) (wanted : o.isDeletionRequested = false)
    (recorded : o.externalId = some id) (now : Time.Timestamp) (write : WriteOutcome) :
    ∃ next, (w.run kind [.begin key, .act key now write]).running key =
      some (.call (.observe o id) next) := by
  simp only [run, List.foldl_cons, List.foldl_nil, Works.step, idle, put, if_true, reconcile,
    Reconcile.body, Cycle.bind, Engine.perform, found, Option.isSome_none, Bool.false_eq_true, if_false]
  simp only [wanted, recorded, Bool.false_eq_true, if_false, Reconcile.observe, Cycle.bind]
  exact ⟨_, rfl⟩

end Declared

end Works

/-- Where nothing is found a resource is made under an identifier, and all is written. -/
private def granting (id : String) : Surroundings S :=
  .undisturbed (fun _ => .epoch) (fun _ => .written) fun _ => fun
    | .lookup _ => some (.ok none)
    | .create _ => some (.ok id)
    | .observe .. | .update .. | .delete .. => none

namespace Works

variable [Spec S] {w : Works S} {key : Key}

/-- A cycle of an object for which no identifier is kept makes a resource and records it. -/
private theorem makes {service : Service S} {spec : S} (idle : w.running key = none)
    (wants : w.engine.Wants key spec ⟨none, none⟩) (valid : service.validate spec = .ok ()) (id : String)
    (given : id ≠ "") {within : Http.Request → Prop}
    (sends : ∀ o : Declared S, o.spec = spec →
      ∃ request, service.ask (.create o) = .send request ∧ within request) :
    ∃ moves, (∀ own spec write, .apply own spec write ∉ moves) ∧
      let after := w.run service.toKind moves
      after.running key = none ∧ after.engine.Wants key spec ⟨some id, none⟩ ∧
        after.Made service key id within := by
  let begun := w.step service.toKind (.begin key)
  have begins : begun = w.put key (some (reconcile service.toKind)) := by
    simp only [begun, Works.step, idle]
  have runs : begun.running key = some (reconcile service.toKind) := begins ▸ if_pos rfl
  have engine : begun.engine = w.engine := begins ▸ rfl
  obtain ⟨moves, own, ends, becomes, logged⟩ := (granting id).run_moves service.toKind
    (reconcile service.toKind) runs fun _ member => absurd member List.not_mem_nil
  obtain ⟨o, found, same, -⟩ := wants.declared
  obtain ⟨held, wants, _, _, made⟩ := (granting id).run_created (fun _ => rfl) wants rfl rfl valid found []
    rfl rfl given
  rw [engine, made] at ends becomes logged
  have finishes : w.run service.toKind (.begin key :: (moves ++ [.finish key])) =
      (begun.run service.toKind moves).put key none := by
    simp only [run, List.foldl_cons, List.foldl_append, List.foldl_nil]
    change (begun.run service.toKind moves).step service.toKind (.finish key) = _
    simp only [Works.step, ends]
    rfl
  refine ⟨.begin key :: (moves ++ [.finish key]), fun own' spec write member => ?_, ?_⟩
  · rcases List.mem_append.1 ((List.mem_cons.1 member).resolve_left (by simp)) with member | member
    · exact own _ _ _ member
    · cases List.mem_singleton.1 member
  · rw [finishes]
    obtain ⟨request, asks, inside⟩ := sends o same
    refine ⟨if_pos rfl, becomes ▸ wants, ⟨o, request, asks, inside, ?_⟩, ?_⟩
    · exact logged (.called (.create o) (some (.ok id))) (by simp) List.mem_cons_self
    · exact logged (.acted (.recordId id) (.ok ())) (by simp) List.mem_cons_self

end Works

/-- The requests of the cycles of an object follow the project that authors declare, not the resource. -/
structure Service.ReachFollowsProject [Spec S] (service : Service S) (a : Addressing S) : Prop where
  /-- While all that is declared names one project, or such as no request can name, every resource is made in
  that project, and every request for a resource goes there. -/
  kept : ∀ (w : Works S) (key : Key) (project : String) (moves : List (Move S)) (c : RemoteCall S)
    (request : Http.Request), w.running key = none →
    (∀ o, w.engine.store.get? key = some o → a.project o.spec = project) →
    (∀ spec write, .apply key spec write ∈ moves →
      a.nameable (a.project spec) = true → a.project spec = project) →
    (w.run service.toKind moves).asking? service key = some (c, request) →
    (∀ o, c = .create o → a.makes project request) ∧
      ∀ id, c.target? = some id → a.reaches project id request
  /-- Once an author has declared another project, a resource that was made and recorded before is asked for
  where it is not. -/
  lost : ∀ (w : Works S) (key : Key) (o : Declared S) (wish : S), w.running key = none →
    w.engine.store.get? key = some o → o.isDeletionRequested = false →
    w.engine.custody key = ⟨none, none⟩ → service.validate o.spec = .ok () →
    a.nameable (a.project o.spec) = true → a.nameable (a.project wish) = true →
    a.project wish ≠ a.project o.spec →
    ∃ moves id c request, (∀ spec write, .apply key spec write ∈ moves → spec = wish) ∧
      (w.run service.toKind moves).Made service key id (a.makes (a.project o.spec)) ∧
      (w.run service.toKind moves).asking? service key = some (c, request) ∧ c.target? = some id ∧
      a.reaches (a.project wish) id request ∧ ¬a.reaches (a.project o.spec) id request

namespace Addressing.Fits

variable [Spec S] {service : Service S} {a : Addressing S} {w : Works S} {key : Key}

/-- A request that is sent goes to a project that can be named. -/
private theorem named {c : RemoteCall S} {request : Http.Request} (fits : a.Fits service)
    (bound : c.operation ≠ .lookup) (sends : service.ask c = .send request) :
    a.nameable (a.project c.object.spec) = true :=
  (fits.sends c bound).1 ⟨request, sends⟩

/-- While authors keep the project, so do the requests. -/
private theorem stays {project : String} {c : RemoteCall S} {request : Http.Request}
    {moves : List (Move S)} (fits : a.Fits service) (idle : w.running key = none)
    (stored : ∀ o, w.engine.store.get? key = some o → a.project o.spec = project)
    (declared : ∀ spec write, .apply key spec write ∈ moves →
      a.nameable (a.project spec) = true → a.project spec = project)
    (asks : (w.run service.toKind moves).asking? service key = some (c, request)) :
    (∀ o, c = .create o → a.makes project request) ∧
      ∀ id, c.target? = some id → a.reaches project id request := by
  have bears : w.Bears service.toKind key
      (fun spec => a.nameable (a.project spec) = true → a.project spec = project) [] :=
    ⟨.inl ⟨idle, rfl⟩, fun o held _ => stored o held, fun _ member => absurd member List.not_mem_nil⟩
  obtain ⟨past, bears⟩ := bears.run declared
  obtain ⟨kept, sends⟩ := bears.asking asks
  constructor
  · rintro o rfl
    exact kept (fits.named (by simp [RemoteCall.operation]) sends) ▸ fits.makes o request sends
  · intro id target
    exact kept (fits.named (RemoteCall.not_lookup_of_target target) sends) ▸
      fits.reaches c id request target sends

/-- A declaration alone moves the requests for a resource to the project that it names. -/
private theorem moves_away {spec wish : S} (fits : a.Fits service) (idle : w.running key = none)
    (wants : w.engine.Wants key spec ⟨none, none⟩) (valid : service.validate spec = .ok ())
    (nameable : a.nameable (a.project spec) = true) (names : a.nameable (a.project wish) = true) :
    ∃ moves id c request, (∀ declared write, .apply key declared write ∈ moves → declared = wish) ∧
      (w.run service.toKind moves).Made service key id (a.makes (a.project spec)) ∧
      (w.run service.toKind moves).asking? service key = some (c, request) ∧ c.target? = some id ∧
      a.reaches (a.project wish) id request := by
  have creates : ∀ o : Declared S, o.spec = spec →
      ∃ request, service.ask (.create o) = .send request ∧ a.makes (a.project spec) request := by
    rintro o rfl
    obtain ⟨request, sends⟩ := (fits.sends (.create o) (by simp [RemoteCall.operation])).2 nameable
    exact ⟨request, sends, fits.makes o request sends⟩
  obtain ⟨moves, own, rest, stands, made⟩ := Works.makes idle wants valid "id" (by decide) creates
  let edited := (w.run service.toKind moves).step service.toKind (.apply key wish .written)
  let asks := edited.run service.toKind [.begin key, .act key .epoch .written]
  have ends : w.run service.toKind (moves ++ [.apply key wish .written, .begin key,
      .act key .epoch .written]) = asks := List.foldl_append ..
  obtain ⟨declared, compares, wants⟩ : ∃ declared, (declared = wish ∨ Spec.same declared wish = true) ∧
    edited.engine.Wants key declared _ := Works.redeclared stands wish
  obtain ⟨o, found, rfl, wanted, recorded⟩ := wants.declared
  have project : a.project o.spec = a.project wish := compares.elim (congrArg a.project) (fits.same _ _)
  obtain ⟨next, calls⟩ := Works.observes service.toKind (show edited.running key = none from rest) found
    wanted recorded .epoch .written
  obtain ⟨request, sends⟩ := (fits.sends (.observe o "id") (by simp [RemoteCall.operation])).2
    (project.symm ▸ names)
  have grows : (w.run service.toKind moves).log ⊆ asks.log :=
    List.Subset.trans (Works.log_step service.toKind _ (.apply key wish .written))
      (Works.log_run service.toKind edited _)
  refine ⟨_, "id", .observe o "id", request, fun other write member => ?_, ends ▸ made.later grows, ?_, rfl,
    project ▸ fits.reaches (.observe o "id") "id" request rfl sends⟩
  · rcases List.mem_append.1 member with member | member
    · exact absurd member (own key other write)
    · rcases List.mem_cons.1 member with same | member
      · cases same
        rfl
      · simp at member
  · rw [ends]
    simp only [asks, Works.asking?, calls, sends]

private theorem reach_follows (fits : a.Fits service) : service.ReachFollowsProject a where
  kept _ _ _ _ _ _ idle stored declared asks := fits.stays idle stored declared asks
  lost w key o wish idle found wanted unkept valid nameable names other := by
    obtain ⟨moves, id, c, request, own, made, asks, target, reaches⟩ :=
      fits.moves_away idle (unkept ▸ Engine.wants_of_get found wanted) valid nameable names
    exact ⟨moves, id, c, request, own, made, asks, target, reaches,
      fun stays => other (fits.apart reaches stays)⟩

end Addressing.Fits

/-- The project of a volume stands in every path. -/
def Volume.addressing : Addressing VolumeSpec where
  project := VolumeSpec.projectId
  nameable _ := true
  makes project request := request.path = Volume.collection project
  reaches project id request := request.path = Volume.item project id

/-- The project of a floating IP stands in a header of every request. -/
def FloatingIp.addressing : Addressing FloatingIpSpec where
  project := FloatingIpSpec.projectId
  nameable := Http.isHeaderValue
  makes project request := request.scope = some project
  reaches project id request := request.scope = some project ∧ request.path = FloatingIp.item id

private theorem Volume.addressing_fits (deployment : String) :
    Volume.addressing.Fits (Volume.service deployment) where
  sends c bound := by
    refine ⟨fun _ => rfl, fun _ => ?_⟩
    cases c with
    | lookup => exact absurd rfl bound
    | _ => exact ⟨_, rfl⟩
  makes o request sends := by
    cases sends
    rfl
  reaches c id request target sends := by
    cases c <;> cases target <;> cases sends <;> rfl
  apart {p p' id request} own other := by
    have same := own.symm.trans other
    simpa [Volume.item, Volume.collection, String.append_assoc] using same
  same spec spec' compares := congrArg VolumeSpec.projectId (of_decide_eq_true compares)

/-- A request that has a scope is sent if a header can have it. -/
private theorem withScope_send {α : Type} {scope : String} {unscoped request : Http.Request} :
    (withScope scope unscoped : Outgoing α) = .send request ↔
      Http.isHeaderValue scope = true ∧ { unscoped with scope := some scope } = request := by
  unfold withScope
  split <;> simp_all

private theorem FloatingIp.addressing_fits : FloatingIp.addressing.Fits FloatingIp.service where
  sends c bound := by
    cases c with
    | lookup => exact absurd rfl bound
    | _ => exact ⟨fun ⟨_, sends⟩ => (withScope_send.1 sends).1, fun names => ⟨_, if_pos names⟩⟩
  makes o request sends := by
    obtain ⟨-, rfl⟩ := withScope_send.1 sends
    rfl
  reaches c id request target sends := by
    cases c <;> cases target <;> obtain ⟨-, rfl⟩ := withScope_send.1 sends <;> exact ⟨rfl, rfl⟩
  apart own other := Option.some.inj (own.1.symm.trans other.1)
  same spec spec' compares := congrArg FloatingIpSpec.projectId (of_decide_eq_true compares)

/-- The requests for volumes and for floating IPs go to the project that stands declared. A resource stays
within reach as long as no author changes the project, and is out of reach as soon as one does. -/
theorem reach_follows_project (deployment : String) :
    (Volume.service deployment).ReachFollowsProject Volume.addressing ∧
      FloatingIp.service.ReachFollowsProject FloatingIp.addressing :=
  ⟨(Volume.addressing_fits deployment).reach_follows, FloatingIp.addressing_fits.reach_follows⟩

/-- A volume whose authors change anything but the project, and one that is declared in another. -/
theorem reach_follows_project_volume :
    let key : Key := ⟨"volume", "data"⟩
    let spec : VolumeSpec := { name := "data", projectId := "blue", size := 1, volumeType := "ssd" }
    let moved : VolumeSpec := { spec with projectId := "green" }
    let o : Declared VolumeSpec := { key, spec }
    let service := Volume.service "lab"
    let w : Works VolumeSpec := { engine := { store := { objects := .ofList [(key, o)] } } }
    (∀ moves id c request, (∀ wish write, .apply key wish write ∈ moves → wish.projectId = "blue") →
      (w.run service.toKind moves).asking? service key = some (c, request) → c.target? = some id →
      request.path = Volume.item "blue" id) ∧
    ∃ moves id c request, (∀ wish write, .apply key wish write ∈ moves → wish = moved) ∧
      (w.run service.toKind moves).Made service key id (fun made => made.path = Volume.collection "blue") ∧
      (w.run service.toKind moves).asking? service key = some (c, request) ∧ c.target? = some id ∧
      request.path = Volume.item "green" id ∧ request.path ≠ Volume.item "blue" id := by
  intro key spec moved o service w
  have found : w.engine.store.get? key = some o := (SortedMap.get?_insert ..).trans (if_pos rfl)
  have valid : service.validate spec = .ok () := by cbv
  have follows := (reach_follows_project "lab").1
  refine ⟨fun moves id c request declared asks => ?_, ?_⟩
  · refine (follows.kept w key "blue" moves c request rfl (fun o' held => ?_)
      (fun wish write member _ => declared wish write member) asks).2 id
    cases found.symm.trans held
    rfl
  · exact follows.lost w key o moved rfl found rfl (by decide) valid rfl rfl (by decide)

/-- The identifiers of the resources that have been made, with the paths of the requests that made them, the
latest first. -/
def Works.creations (w : Works S) (service : Service S) : List (String × String) :=
  w.log.filterMap fun
    | .answered _ (.create o) (some (.ok id)) =>
      match service.ask (.create o) with
      | .send request => some (id, request.path)
      | .known _ | .refused _ => none
    | _ => none

/-- A volume is made in one project, and its object is declared again with another. The volume is there, but
it is asked for where it is not; so its identifier is taken back, and a second volume is made. -/
theorem volume_left_behind :
    let key : Key := ⟨"volume", "data"⟩
    let spec : VolumeSpec := { name := "data", projectId := "blue", size := 1, volumeType := "ssd" }
    let service := Volume.service "lab"
    let w : Works VolumeSpec := { engine := { store := { objects := .ofList [(key, { key, spec })] } } }
    let act : Move VolumeSpec := .act key .epoch .written
    let answer : (call : RemoteCall VolumeSpec) → call.Answer
      | .lookup _ => none
      | .create o => if o.spec.projectId = "blue" then "vol-1" else "vol-2"
      | .observe o id =>
        if o.spec.projectId = "blue" ∧ id = "vol-1" then .present { id, state := "available" } else .absent
      | .update .. | .delete .. => ()
    let tell : Move VolumeSpec := .answer key fun call => some (.ok (answer call))
    let create : List (Move VolumeSpec) :=
      [.begin key, act, act, tell, tell, act, act, act, act, .finish key]
    let made := w.run service.toKind create
    let moved := made.run service.toKind [.apply key { spec with projectId := "green" } .written]
    let asks := moved.run service.toKind [.begin key, act]
    let ended := asks.run service.toKind ([tell, act, act, act, .finish key] ++ create)
    made.creations service = [("vol-1", Volume.collection "blue")] ∧
      made.engine.custody key = ⟨some "vol-1", none⟩ ∧
      (asks.asking? service key).map (fun asked => (asked.1.target?, asked.2.path)) =
        some (some "vol-1", Volume.item "green" "vol-1") ∧
      Volume.item "green" "vol-1" ≠ Volume.item "blue" "vol-1" ∧
      ended.creations service =
        [("vol-2", Volume.collection "green"), ("vol-1", Volume.collection "blue")] ∧
      ended.engine.custody key = ⟨some "vol-2", none⟩ := by
  intro key spec service w act answer tell create made moved asks ended
  exact ⟨by decide, by decide, by decide, by decide, by decide, by decide⟩

end CloudKeeper
