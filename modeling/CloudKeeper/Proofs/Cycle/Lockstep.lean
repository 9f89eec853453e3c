import CloudKeeper.Proofs.Cycle.Exclusion
import CloudKeeper.Proofs.Store.View
import Mathlib.Data.List.Forall2
/-!
Runs in lockstep. Two runs take the same steps, which turn out the same, over stores that look the same. Their
cycles make the same calls and have the same results, and the stores go on looking the same. A cycle is a tree
of steps, so this is said of trees first. Taking an identifier back is a step that may tell apart what looks the
same; a cycle takes it only after it has read an identifier, and from then on the recorded identifiers of its
object are the very same.
-/
namespace CloudKeeper

variable {S α β : Type} {view : View S} {settled : Key → Prop}

/-- Replies that a cycle must not tell apart: of an object it goes by what is seen, and what has become of a
state that it has published is none of its concern. -/
def Action.SameBy (view : View S) : (action : Action S) → action.Reply → action.Reply → Prop
  | .read, seen, seen' => seen.map view.of = seen'.map view.of
  | .publish _, _, _ => True
  | .recordId _, told, told' => told = told'
  | .clearId, told, told' => told = told'
  | .remove, told, told' => told = told'
  | .recall, id, id' => id = id'
  | .remember _, _, _ => True
  | .discard, _, _ => True

/-- A reply that shows which identifier is recorded. -/
def Action.Reveals : (action : Action S) → action.Reply → Prop
  | .read, seen => ∃ o, seen = some o ∧ o.externalId.isSome
  | .publish _, _ | .recordId _, _ | .clearId, _ | .remove, _ | .recall, _ | .remember _, _ | .discard, _ =>
    False

/-- The same call about objects that look the same. -/
inductive RemoteCall.SameBy (view : View S) : RemoteCall S → RemoteCall S → Prop
  | observe {o o' : Declared S} (looks : view.of o = view.of o') (id : String) :
      SameBy view (.observe o id) (.observe o' id)
  | create {o o' : Declared S} (looks : view.of o = view.of o') : SameBy view (.create o) (.create o')
  | update {o o' : Declared S} (looks : view.of o = view.of o') (r : RemoteResource) :
      SameBy view (.update o r) (.update o' r)
  | delete {o o' : Declared S} (looks : view.of o = view.of o') (id : String) :
      SameBy view (.delete o id) (.delete o' id)
  | lookup {o o' : Declared S} (looks : view.of o = view.of o') : SameBy view (.lookup o) (.lookup o')

/-- A call about its object as something shows it. -/
def RemoteCall.under (shown : Declared S → Declared S) : RemoteCall S → RemoteCall S
  | .observe o id => .observe (shown o) id
  | .create o => .create (shown o)
  | .update o r => .update (shown o) r
  | .delete o id => .delete (shown o) id
  | .lookup o => .lookup (shown o)

/-- A call about the object without its conditions. -/
def RemoteCall.bare (c : RemoteCall S) : RemoteCall S := c.under Declared.bare

/-- Calls that look the same are the same call of what is shown, if nothing is shown that is not seen. -/
theorem RemoteCall.SameBy.under {shown : Declared S → Declared S}
    (shows : ∀ ⦃o o'⦄, view.of o = view.of o' → shown o = shown o') {c c' : RemoteCall S}
    (same : c.SameBy view c') : c.under shown = c'.under shown := by
  cases same with
  | observe looks id => exact congrArg (RemoteCall.observe · id) (shows looks)
  | create looks => exact congrArg RemoteCall.create (shows looks)
  | update looks r => exact congrArg (RemoteCall.update · r) (shows looks)
  | delete looks id => exact congrArg (RemoteCall.delete · id) (shows looks)
  | lookup looks => exact congrArg RemoteCall.lookup (shows looks)

/-! ## Engines -/

/-- Engines that look the same. -/
structure Engine.SameBy [Spec S] (view : View S) (settled : Key → Prop) (e e' : Engine S) : Prop where
  store : e.store.SameBy view settled e'.store
  unrecorded : e.unrecorded = e'.unrecorded

namespace Engine.SameBy

variable [Spec S] {e e' : Engine S} {key : Key}

private theorem onStore (same : e.SameBy view settled e') (refusal : Option StoreError)
    (operation : Store S → Store S × Except StoreError Unit)
    (kept : (operation e.store).1.SameBy view settled (operation e'.store).1 ∧
      (operation e.store).2 = (operation e'.store).2) :
    (e.onStore refusal operation).1.SameBy view settled (e'.onStore refusal operation).1 ∧
      (e.onStore refusal operation).2 = (e'.onStore refusal operation).2 := by
  cases refusal with
  | some error => exact ⟨same, rfl⟩
  | none => exact ⟨⟨kept.1, same.unrecorded⟩, kept.2⟩

/-- An object that shows its identifier has it recorded in both. -/
private theorem read (same : e.SameBy view settled e') (c : Circumstances) :
    e.SameBy view
      (fun other => settled other ∨ other = key ∧ (Action.read).Reveals (e.perform c key .read).2) e' := by
  refine ⟨⟨⟨same.store.objects.seen, ?_⟩, same.store.sent, same.store.file⟩, same.unrecorded⟩
  rintro other (known | ⟨rfl, o, shown, reveals⟩)
  · exact same.store.objects.recorded other known
  · have found : e.store.objects.get? other = some o := by
      simp only [Engine.perform] at shown
      split at shown
      · cases shown
      · exact shown
    rcases same.store.objects.cases other with ⟨absent, -⟩ | ⟨o, o', present, present', looks, -⟩
    · rw [found] at absent
      cases absent
    · obtain rfl := Option.some.inj (found.symm.trans present)
      obtain ⟨id, records⟩ := Option.isSome_iff_exists.1 reveals
      have records' := records
      rw [view.externalId_eq looks] at records'
      rw [present, present', Option.map_some, Option.map_some,
        (Option.filter_eq_some_iff.1 records).1, (Option.filter_eq_some_iff.1 records').1]

/-- An action that turns out the same leaves engines that look the same, of which the recorded identifier is
settled for the key if the reply shows it, and is replied to in a way that the cycle must not tell apart. -/
theorem perform (same : e.SameBy view settled e') (c : Circumstances) (action : Action S)
    (clears : action = .clearId → settled key) :
    (e.perform c key action).1.SameBy view
        (fun other => settled other ∨ other = key ∧ action.Reveals (e.perform c key action).2)
        (e'.perform c key action).1 ∧
      action.SameBy view (e.perform c key action).2 (e'.perform c key action).2 := by
  have kept {a a' : Engine S} {reveals : Prop} (alike : a.SameBy view settled a') (never : ¬reveals) :
      a.SameBy view (fun other => settled other ∨ other = key ∧ reveals) a' :=
    ⟨alike.store.settle fun _ known => .inl (known.resolve_right fun own => never own.2), alike.unrecorded⟩
  have stored (call : StoreCall S) (clears : ∀ key, call = .clearExternalId key → settled key) :=
    same.onStore c.refusal (fun s => call.perform s c.write) (same.store.perform call clears c.write)
  cases action with
  | read =>
    refine ⟨same.read c, ?_⟩
    simp only [Action.SameBy, Engine.perform]
    split
    · rfl
    · have seen := congrArg (SortedMap.get? · key) same.store.objects.seen
      rwa [SortedMap.get?_map, SortedMap.get?_map] at seen
  | recordId given =>
    obtain ⟨after, told⟩ := stored (.setExternalId key given) nofun
    exact ⟨kept after id, told⟩
  | clearId =>
    obtain ⟨after, told⟩ := stored (.clearExternalId key) (by rintro _ ⟨⟩; exact clears rfl)
    exact ⟨kept after id, told⟩
  | publish state =>
    have shows (e : Engine S) : (e.perform c key (.publish state)).1 =
        (e.onStore c.refusal fun s => (StoreCall.setCondition key c.now state).perform s c.write).1 := by
      simp only [Engine.perform, Engine.onStore]
      cases c.refusal <;> rfl
    rw [shows, shows]
    exact ⟨kept (stored (.setCondition key c.now state) nofun).1 id, trivial⟩
  | remove =>
    obtain ⟨after, told⟩ := stored (.remove key) nofun
    exact ⟨kept after id, told⟩
  | «recall» =>
    refine ⟨kept same id, ?_⟩
    simp only [Action.SameBy, Engine.perform, same.unrecorded]
  | remember given =>
    exact ⟨kept ⟨same.store, congrArg (·.insert key given) same.unrecorded⟩ id, trivial⟩
  | discard => exact ⟨kept ⟨same.store, congrArg (·.erase key) same.unrecorded⟩ id, trivial⟩

end Engine.SameBy

/-! ## Cycles -/

/-- Programs that take the same actions and make the same calls, as far as is seen, and come to the same end,
as long as they are replied to alike. An identifier is taken back only where it is known that the recorded
identifiers are the very same. -/
inductive Cycle.SameBy (view : View S) : Prop → Cycle S α → Cycle S α → Prop
  | done {known : Prop} (a : α) : SameBy view known (.done a) (.done a)
  | step {known : Prop} (action : Action S) {next next' : action.Reply → Cycle S α}
      (clears : action = .clearId → known)
      (rest : ∀ reply reply', action.SameBy view reply reply' →
        SameBy view (known ∨ action.Reveals reply) (next reply) (next' reply')) :
      SameBy view known (.step action next) (.step action next')
  | call {known : Prop} {c c' : RemoteCall S} {next : c.Reply → Cycle S α} {next' : c'.Reply → Cycle S α}
      (same : c.SameBy view c')
      (rest : ∀ replies : Replies, SameBy view known (next (replies.to c)) (next' (replies.to c'))) :
      SameBy view known (.call c next) (.call c' next')

namespace Cycle.SameBy

variable {known : Prop}

/-- What goes well with less known goes well with more. -/
theorem mono {less : Prop} {c c' : Cycle S α} (same : c.SameBy view less c') (more : less → known) :
    c.SameBy view known c' := by
  induction same generalizing known with
  | done a => exact .done a
  | step action clears _ ih =>
    exact .step action (fun own => more (clears own)) fun reply reply' alike =>
      ih reply reply' alike (Or.imp_left more)
  | call same _ ih => exact .call same fun replies => ih replies more

theorem bind {c c' : Cycle S α} (same : c.SameBy view known c') {f f' : α → Cycle S β}
    (rest : ∀ a, (f a).SameBy view False (f' a)) : (c.bind f).SameBy view known (c'.bind f') := by
  induction same with
  | done a => exact (rest a).mono False.elim
  | step action clears _ ih => exact .step action clears ih
  | call same _ ih => exact .call same ih

theorem publishing (state : ConditionState) {next next' : Cycle S α} (rest : next.SameBy view known next') :
    (Cycle.publishing state next).SameBy view known (.publishing state next') :=
  .step _ nofun fun _ _ _ => rest.mono .inl

theorem ite {p : Prop} [Decidable p] {yes yes' no no' : Cycle S α} (then_ : yes.SameBy view known yes')
    (else_ : no.SameBy view known no') :
    (if p then yes else no).SameBy view known (if p then yes' else no') := by
  split
  · exact then_
  · exact else_

end Cycle.SameBy

namespace Reconcile

variable {kind : Kind S} {o o' : Declared S} {known : Prop}

theorem finish_sameBy (outcome : Outcome) :
    (finish outcome : Cycle S CycleResult).SameBy view known (finish outcome) :=
  .done _

theorem fail_sameBy (error : ReconcileError) :
    (fail error : Cycle S CycleResult).SameBy view known (fail error) :=
  .done _

theorem record_sameBy (id : String) {next next' : Cycle S CycleResult}
    (rest : next.SameBy view known next') : (record id next).SameBy view known (record id next') := by
  refine .step _ nofun ?_
  rintro told _ rfl
  cases told with
  | ok => exact .step _ nofun fun _ _ _ => rest.mono (.inl ∘ .inl)
  | error e =>
    cases e with
    | conflict => exact fail_sameBy _
    | notFound | persist => exact .step _ nofun fun _ _ _ => fail_sameBy _

theorem validated_sameBy (spec : S) {next next' : Cycle S CycleResult}
    (rest : next.SameBy view known next') :
    (validated kind spec next).SameBy view known (validated kind spec next') := by
  unfold validated
  cases kind.validate spec with
  | ok => exact rest
  | error text => exact fail_sameBy _

theorem lookup_sameBy (looks : view.of o = view.of o') {next next' : Option String → Cycle S CycleResult}
    (rest : ∀ found, (next found).SameBy view known (next' found)) :
    (calling (.lookup o) next).SameBy view known (calling (.lookup o') next') := by
  refine .call (.lookup looks) ?_
  rintro ⟨-, -, -, -, _ | error | found⟩
  · exact fail_sameBy _
  · exact fail_sameBy _
  · exact rest found

theorem create_sameBy (looks : view.of o = view.of o') :
    (create kind o).SameBy view known (create kind o') := by
  refine .step _ nofun ?_
  rintro recalled _ rfl
  cases recalled with
  | some id => exact record_sameBy id (finish_sameBy _)
  | none =>
    simp only [view.spec_eq looks]
    refine validated_sameBy _ (lookup_sameBy looks fun found => ?_)
    cases found with
    | some id => exact record_sameBy id (finish_sameBy _)
    | none =>
      refine .call (.create looks) ?_
      rintro ⟨-, _ | error | id, -, -, -⟩
      · exact fail_sameBy _
      · exact fail_sameBy _
      · exact record_sameBy id (.publishing _ (.publishing _ (finish_sameBy _)))

theorem found_sameBy (looks : view.of o = view.of o') (r : RemoteResource) :
    (found kind o r).SameBy view known (found kind o' r) := by
  simp only [found, view.spec_eq looks]
  cases kind.readiness r with
  | transitional => exact finish_sameBy _
  | failed => exact .publishing _ (.publishing _ (finish_sameBy _))
  | ready =>
    refine .ite (.publishing _ (.publishing _ (finish_sameBy _)))
      (validated_sameBy _ (.call (.update looks r) ?_))
    rintro ⟨-, -, _ | error | _, -, -⟩
    · exact fail_sameBy _
    · exact fail_sameBy _
    · exact .publishing _ (finish_sameBy _)

theorem absent_sameBy (recorded : known) (id : String) :
    (absent kind id).SameBy view known (absent kind id) := by
  unfold absent
  cases kind.policy.onAbsent with
  | fail => exact fail_sameBy _
  | recreate =>
    refine .step _ (fun _ => recorded) ?_
    rintro told _ rfl
    cases told with
    | error e => exact fail_sameBy _
    | ok => exact .publishing _ (finish_sameBy _)

theorem observe_sameBy (looks : view.of o = view.of o') (recorded : known) (id : String) :
    (observe kind o id).SameBy view known (observe kind o' id) := by
  refine .call (.observe looks id) ?_
  rintro ⟨_ | error | _ | r, -, -, -, -⟩
  · exact fail_sameBy _
  · cases error with
    | notFound => exact absent_sameBy recorded id
    | transport | status | decode | invalid => exact fail_sameBy _
  · exact absent_sameBy recorded id
  · exact found_sameBy looks r

theorem release_sameBy : (release : Cycle S CycleResult).SameBy view known release := by
  refine .step _ nofun ?_
  rintro told _ rfl
  cases told with
  | error e => exact fail_sameBy _
  | ok => exact .step _ nofun fun _ _ _ => finish_sameBy _

theorem delete_sameBy (looks : view.of o = view.of o') (id : String) :
    (delete o id).SameBy view known (delete o' id) := by
  refine .publishing _ (.call (.delete looks id) ?_)
  rintro ⟨-, -, -, _ | error | _, -⟩
  · exact fail_sameBy _
  · cases error with
    | notFound => exact release_sameBy
    | transport | status | decode | invalid => exact fail_sameBy _
  · exact release_sameBy

theorem finalize_sameBy (looks : view.of o = view.of o') :
    (finalize kind o).SameBy view known (finalize kind o') := by
  simp only [finalize, view.externalId_eq looks]
  cases o'.externalId with
  | some id => exact delete_sameBy looks id
  | none =>
    refine .step _ nofun ?_
    rintro recalled _ rfl
    cases recalled with
    | some id => exact delete_sameBy looks id
    | none =>
      refine lookup_sameBy looks fun found => ?_
      cases found with
      | some id => exact delete_sameBy looks id
      | none =>
        simp only [releaseUnknown]
        cases kind.policy.onDeleteWithoutId with
        | fail => exact fail_sameBy _
        | finalize => exact release_sameBy

/-- An object whose identifier is observed has shown it when it was read. -/
theorem body_sameBy : (body kind).SameBy view known (body kind) := by
  refine .step _ nofun fun seen seen' alike => ?_
  cases seen with
  | none =>
    cases Option.map_eq_none_iff.1 alike.symm
    exact finish_sameBy _
  | some o =>
    obtain ⟨o', rfl, looks⟩ := Option.map_eq_some_iff.1 alike.symm
    simp only [view.requested_eq looks, view.externalId_eq looks]
    refine .ite (finalize_sameBy looks.symm) ?_
    cases shown : o.externalId with
    | some id => exact observe_sameBy looks.symm (.inr ⟨o, rfl, Option.isSome_iff_exists.2 ⟨id, shown⟩⟩) id
    | none => exact create_sameBy looks.symm

theorem noted_sameBy (result : CycleResult) :
    (noted result : Cycle S CycleResult).SameBy view known (noted result) := by
  unfold noted
  split
  · exact .done _
  · exact .done _
  · exact .done _
  · exact .publishing _ (.done _)

end Reconcile

/-- A cycle takes the same course over objects that look the same. -/
theorem reconcile_sameBy (kind : Kind S) : (reconcile kind).SameBy view False (reconcile kind) :=
  Reconcile.body_sameBy.bind Reconcile.noted_sameBy

/-! ## Runs -/

/-- What can be seen of a step but for conditions. -/
inductive Sight (S : Type)
  /-- An author is told what has become of an operation. -/
  | told (result : Except StoreError Unit)
  /-- A cycle makes a remote call. -/
  | calls (i : Nat) (call : RemoteCall S)
  /-- A cycle is over. -/
  | ended (i : Nat) (result : CycleResult)

/-- What can be seen, with the calls about their objects as something shows them. -/
def Sight.under (shown : Declared S → Declared S) : Sight S → Sight S
  | .told result => .told result
  | .calls i call => .calls i (call.under shown)
  | .ended i result => .ended i result

/-- What can be seen of the cycle of a call when it has come to a point. -/
def Cycle.sight (i : Nat) : Cycle S CycleResult → List (Sight S)
  | .done result => [.ended i result]
  | .step .. => []
  | .call c _ => [.calls i c.bare]

/-- Something shows the same of objects that look the same, apart from their conditions. -/
def View.Covers (view : View S) (shown : Declared S → Declared S) : Prop :=
  ∀ ⦃o o'⦄, view.of o = view.of o' → shown o.bare = shown o'.bare

theorem RemoteCall.SameBy.bare {shown : Declared S → Declared S} (covers : view.Covers shown)
    {c c' : RemoteCall S} (same : c.SameBy view c') : c.bare.under shown = c'.bare.under shown := by
  have twice (c : RemoteCall S) : c.bare.under shown = c.under (shown ·.bare) := by cases c <;> rfl
  rw [twice, twice]
  exact same.under covers

theorem Cycle.SameBy.sight {shown : Declared S → Declared S} (covers : view.Covers shown) {known : Prop}
    {c c' : Cycle S CycleResult} (same : c.SameBy view known c') (i : Nat) :
    (c.sight i).map (Sight.under shown) = (c'.sight i).map (Sight.under shown) := by
  cases same with
  | done result => rfl
  | step action clears rest => rfl
  | call same rest => exact congrArg (fun call => [Sight.calls i call]) (same.bare covers)

namespace Traffic

variable [Spec S] {t t' : Traffic S}

/-- What can be seen of a step. -/
def sight (t : Traffic S) : Pace S → List (Sight S)
  | .author operation write => [.told (operation.perform t.engine.store write).2]
  | .act i c =>
    match t.visits[i]?, t.cycles i with
    | some v, .step action next =>
      if v.place = .inside then (next (t.engine.perform (c action) v.key action).2).sight i else []
    | _, _ => []
  | .answer i replies =>
    match t.visits[i]?, t.cycles i with
    | some v, .call call next => if v.place = .inside then (next (replies.to call)).sight i else []
    | _, _ => []
  | .arrive _ | .ask _ | .enter _ | .evict _ | .release _ | .leave _ => []

/-- What can be seen of a run. -/
def sights (t : Traffic S) : List (Pace S) → List (Sight S)
  | [] => []
  | pace :: paces => t.sight pace ++ (t.step pace).sights paces

/-- Calls side by side that look the same: they are at the same places, their cycles have the same course
before them, and the engines look the same. -/
structure SameBy (view : View S) (settled : Key → Prop) (t t' : Traffic S) : Prop where
  engine : t.engine.SameBy view settled t'.engine
  locks : t.locks = t'.locks
  visits : t.visits = t'.visits
  cycles : ∀ i, (t.cycles i).SameBy view (∃ v, t.visits[i]? = some v ∧ settled v.key) (t'.cycles i)

namespace SameBy

theorem ite {p : Prop} [Decidable p] {yes yes' no no' : Traffic S} (then_ : yes.SameBy view settled yes')
    (else_ : no.SameBy view settled no') :
    (if p then yes else no).SameBy view settled (if p then yes' else no') := by
  split
  · exact then_
  · exact else_

theorem move (same : t.SameBy view settled t') (locks : Locks) {i : Nat} {v : Visit}
    (found : t.visits[i]? = some v) (place : Place) :
    ({ t with locks }.move i v place).SameBy view settled ({ t' with locks }.move i v place) := by
  refine ⟨same.engine, rfl, congrArg (·.set i { v with place }) same.visits, fun j => ?_⟩
  refine (same.cycles j).mono ?_
  rintro ⟨w, there, known⟩
  by_cases own : i = j
  · subst own
    obtain rfl := Option.some.inj (found.symm.trans there)
    exact ⟨{ v with place }, by simp [Traffic.move, List.getElem?_set_self', found], known⟩
  · exact ⟨w, by simp [Traffic.move, List.getElem?_set_ne own, there], known⟩

theorem goOn (same : t.SameBy view settled t') {engine engine' : Engine S} {more : Key → Prop}
    (after : engine.SameBy view more engine') (kept : ∀ key, settled key → more key) (i : Nat)
    {cycle cycle' : Cycle S CycleResult}
    (rest : cycle.SameBy view (∃ v, t.visits[i]? = some v ∧ more v.key) cycle') :
    ({ t with engine }.goOn i cycle).SameBy view more ({ t' with engine := engine' }.goOn i cycle') := by
  refine ⟨after, same.locks, same.visits, fun j => ?_⟩
  simp only [Traffic.goOn]
  by_cases own : j = i
  · rw [if_pos own, if_pos own, own]
    exact rest
  · rw [if_neg own, if_neg own]
    exact (same.cycles j).mono fun ⟨w, there, known⟩ => ⟨w, there, kept _ known⟩

/-- An action of the cycle of a call, when it does the same to engines that look the same. -/
theorem act (same : t.SameBy view settled t') (i : Nat) {c c' : Action S → Circumstances}
    (performs : ∀ key action, (action = .clearId → settled key) →
      (t.engine.perform (c action) key action).1.SameBy view
          (fun other => settled other ∨
            other = key ∧ action.Reveals (t.engine.perform (c action) key action).2)
          (t'.engine.perform (c' action) key action).1 ∧
        action.SameBy view (t.engine.perform (c action) key action).2
          (t'.engine.perform (c' action) key action).2)
    {shown : Declared S → Declared S} (covers : view.Covers shown) :
    (∃ more, (t.step (.act i c)).SameBy view more (t'.step (.act i c'))) ∧
      (t.sight (.act i c)).map (Sight.under shown) = (t'.sight (.act i c')).map (Sight.under shown) := by
  obtain ⟨engine, locks, visits, cycles⟩ := t
  obtain ⟨engine', locks', visits', cycles'⟩ := t'
  obtain rfl : locks = locks' := same.locks
  obtain rfl : visits = visits' := same.visits
  have course : (cycles i).SameBy view (∃ v, visits[i]? = some v ∧ settled v.key) (cycles' i) :=
    same.cycles i
  simp only [Traffic.step, Traffic.sight]
  cases found : visits[i]? with
  | none => exact ⟨⟨settled, same⟩, rfl⟩
  | some v =>
    generalize cycles i = cycle at course
    generalize cycles' i = cycle' at course
    cases course with
    | done result => exact ⟨⟨settled, same⟩, rfl⟩
    | call _ _ => exact ⟨⟨settled, same⟩, rfl⟩
    | step action clears rest =>
      have known (own : action = .clearId) : settled v.key := by
        obtain ⟨w, there, known⟩ := clears own
        obtain rfl := Option.some.inj (found.symm.trans there)
        exact known
      obtain ⟨after, alike⟩ := performs v.key action known
      by_cases inside : v.place = .inside
      · simp only [if_pos inside]
        have goesOn := rest _ _ alike
        refine ⟨⟨_, same.goOn after (fun _ => .inl) i (goesOn.mono ?_)⟩, goesOn.sight covers i⟩
        rintro (⟨w, there, known⟩ | reveals)
        · exact ⟨w, there, .inl known⟩
        · exact ⟨v, found, .inr ⟨rfl, reveals⟩⟩
      · simp only [if_neg inside]
        exact ⟨⟨settled, same⟩, trivial⟩

end SameBy

end Traffic

namespace Pace

variable [Spec S]

/-- Two steps do the same to runs that look the same, and the same can be seen of them. -/
def SameBy (view : View S) (shown : Declared S → Declared S) (pace pace' : Pace S) :
    Prop :=
  ∀ ⦃t t' : Traffic S⦄ ⦃settled : Key → Prop⦄, t.SameBy view settled t' →
    (∃ more, (t.step pace).SameBy view more (t'.step pace')) ∧
      (t.sight pace).map (Sight.under shown) = (t'.sight pace').map (Sight.under shown)

/-- A step does the same to runs that look the same, unless an author takes an identifier back that the view
may leave out. -/
theorem sameBy_self {pace : Pace S}
    (clears : ∀ key write, pace = .author (.clearExternalId key) write → view.Records)
    {shown : Declared S → Declared S} (covers : view.Covers shown) : pace.SameBy view shown pace := by
  intro t t' settled same
  obtain ⟨engine, locks, visits, cycles⟩ := t
  obtain ⟨engine', locks', visits', cycles'⟩ := t'
  obtain rfl : locks = locks' := same.locks
  obtain rfl : visits = visits' := same.visits
  have course (i : Nat) :
      (cycles i).SameBy view (∃ v, visits[i]? = some v ∧ settled v.key) (cycles' i) := same.cycles i
  cases pace with
  | author operation write =>
    have stored : engine.store.SameBy view (fun key => settled key ∨ operation = .clearExternalId key)
        engine'.store :=
      same.engine.store.settle fun key => Or.imp_right fun own => clears key write (own ▸ rfl)
    obtain ⟨after, told⟩ := stored.perform operation (fun _ => .inr) write
    refine ⟨⟨_, ⟨after, same.engine.unrecorded⟩, rfl, rfl, fun i => ?_⟩,
      congrArg (fun result => [Sight.told result]) told⟩
    exact (same.cycles i).mono fun ⟨v, found, known⟩ => ⟨v, found, .inl known⟩
  | act i c => exact same.act i (fun key action => same.engine.perform (c action) action) covers
  | answer i replies =>
    have course := course i
    simp only [Traffic.step, Traffic.sight]
    cases visits[i]? with
    | none => exact ⟨⟨settled, same⟩, rfl⟩
    | some v =>
      generalize cycles i = cycle at course
      generalize cycles' i = cycle' at course
      cases course with
      | done result => exact ⟨⟨settled, same⟩, rfl⟩
      | step action clears rest => exact ⟨⟨settled, same⟩, rfl⟩
      | call _ rest =>
        have goesOn := rest replies
        by_cases inside : v.place = .inside
        · simp only [if_pos inside]
          exact ⟨⟨settled, same.goOn same.engine (fun _ => id) i goesOn⟩, goesOn.sight covers i⟩
        · simp only [if_neg inside]
          exact ⟨⟨settled, same⟩, trivial⟩
  | evict i =>
    have course := course i
    simp only [Traffic.step, Traffic.sight, and_true]
    cases found : visits[i]? with
    | none => exact ⟨settled, same⟩
    | some v =>
      generalize cycles i = cycle at course
      generalize cycles' i = cycle' at course
      cases course with
      | done result => exact ⟨settled, .ite (same.move _ found _) same⟩
      | step action clears rest => exact ⟨settled, same⟩
      | call _ rest => exact ⟨settled, same⟩
  | arrive key =>
    refine ⟨⟨settled, same.engine, rfl, rfl, fun i => (same.cycles i).mono ?_⟩, rfl⟩
    rintro ⟨v, found, known⟩
    obtain ⟨bound, -⟩ := List.getElem?_eq_some_iff.1 found
    exact ⟨v, (List.getElem?_append_left bound).trans found, known⟩
  | ask i | enter i | release i | leave i =>
    simp only [Traffic.step, Traffic.sight, and_true]
    cases found : visits[i]? with
    | none => exact ⟨settled, same⟩
    | some v => exact ⟨settled, .ite (same.move _ found _) same⟩

end Pace

namespace Traffic

variable [Spec S] {t t' : Traffic S}

/-- Runs of steps that do the same look the same all along. -/
theorem SameBy.run (same : t.SameBy view settled t') {shown : Declared S → Declared S}
    {paces paces' : List (Pace S)} (steps : List.Forall₂ (Pace.SameBy view shown) paces paces') :
    (∃ more, (t.run paces).SameBy view more (t'.run paces')) ∧
      (t.sights paces).map (Sight.under shown) = (t'.sights paces').map (Sight.under shown) := by
  induction steps generalizing t t' settled with
  | nil => exact ⟨⟨settled, same⟩, rfl⟩
  | cons first _ ih =>
    obtain ⟨⟨_, after⟩, seen⟩ := first same
    obtain ⟨rest, later⟩ := ih after
    refine ⟨rest, ?_⟩
    rw [sights, sights, List.map_append, List.map_append, seen, later]

theorem start_sameBy (kind : Kind S) {e e' : Engine S} (same : e.SameBy view settled e') :
    (start kind e).SameBy view settled (start kind e') :=
  ⟨same, rfl, rfl, fun _ => (reconcile_sameBy kind).mono False.elim⟩

end Traffic

end CloudKeeper
