import CloudKeeper.Kind.Family
import CloudKeeper.Proofs.Cycle.Lockstep
import CloudKeeper.Proofs.Store.Agreement
/-!
Conditions steer nothing. Two runs are compared in which everything turns out the same but the publishing of
states, which may succeed in the one and be refused in the other, and whose objects may bear different
conditions. The cycles of both make the same calls and have the same results, and what they leave behind
differs in nothing but conditions. They run in lockstep, with a view that leaves conditions out.
-/
namespace CloudKeeper

variable {S α β : Type}

/-- Whether an action publishes a state. -/
def Action.publishes : Action S → Bool
  | .publish _ => true
  | .read | .recordId _ | .clearId | .remove | .recall | .remember _ | .discard => false

/-- No service hears of conditions: what is sent for a call is sent for it without them. -/
theorem services_ask_bare (deployment : String) :
    (∀ c request, (services deployment).volumes.ask c.bare = .send request ↔
      (services deployment).volumes.ask c = .send request) ∧
    (∀ c request, (services deployment).floatingIps.ask c.bare = .send request ↔
      (services deployment).floatingIps.ask c = .send request) ∧
    ∀ c request, (services deployment).virtualMachines.ask c.bare = .send request ↔
      (services deployment).virtualMachines.ask c = .send request := by
  refine ⟨fun c request => ?_, fun c request => ?_, fun c request => ?_⟩ <;> cases c <;> exact .rfl

/-! ## Engines -/

/-- Engines that differ in nothing but conditions, neither in memory nor in their files. -/
def Engine.Agrees [Spec S] (e e' : Engine S) : Prop := e.SameBy View.bare (fun _ => False) e'

namespace Engine

variable [Spec S] {e e' : Engine S}

/-- Whatever keys are settled: the very same identifiers are recorded for all. -/
theorem SameBy.settle_bare {settled more : Key → Prop} (same : e.SameBy View.bare settled e') :
    e.SameBy View.bare more e' :=
  ⟨same.store.settle fun _ _ => .inr View.bare_records, same.unrecorded⟩

/-- To publish, whether or not the store refuses, changes nothing but conditions. -/
theorem publish_bare (e : Engine S) (c : Circumstances) (key : Key) (state : ConditionState) :
    ∃ objects, objects.map Declared.bare = e.store.objects.map Declared.bare ∧
      (e.perform c key (.publish state)).1 = { e with store := { e.store with objects } } := by
  simp only [perform, Engine.onStore]
  cases c.refusal with
  | some error => exact ⟨e.store.objects, rfl, rfl⟩
  | none =>
    obtain ⟨objects, bare, after⟩ := e.store.setCondition_bare c.now key state
    exact ⟨objects, bare, congrArg (fun store => { e with store }) after⟩

/-- An action that turns out the same, or however it does if it publishes, leaves engines that agree, and is
replied to in a way that the cycle must not tell apart. -/
theorem perform_bare {settled : Key → Prop} (same : e.SameBy View.bare settled e') (key : Key)
    (action : Action S) {c c' : Circumstances} (turns : action.publishes = false → c = c')
    (clears : action = .clearId → settled key) :
    (e.perform c key action).1.SameBy View.bare
        (fun other => settled other ∨ other = key ∧ action.Reveals (e.perform c key action).2)
        (e'.perform c' key action).1 ∧
      action.SameBy View.bare (e.perform c key action).2 (e'.perform c' key action).2 := by
  cases action with
  | publish state =>
    obtain ⟨objects, bare, after⟩ := e.publish_bare c key state
    obtain ⟨objects', bare', after'⟩ := e'.publish_bare c' key state
    rw [after, after']
    have seen : objects.map Declared.bare = objects'.map Declared.bare := by
      rw [bare, bare']
      exact same.store.objects.seen
    have left : objects.SameBy View.bare (fun _ => False) objects' := ⟨seen, nofun⟩
    have agrees : Engine.Agrees { e with store := { e.store with objects } }
        { e' with store := { e'.store with objects := objects' } } :=
      ⟨⟨left, same.store.sent, same.store.file⟩, same.unrecorded⟩
    exact ⟨agrees.settle_bare, trivial⟩
  | read | recordId | clearId | remove | «recall» | remember | discard =>
    cases turns rfl
    exact same.perform c _ clears

end Engine

/-! ## Runs -/

/-- Steps that turn out the same, unless a state is published. -/
inductive Pace.Agrees : Pace S → Pace S → Prop
  | same (pace : Pace S) : Agrees pace pace
  | act (i : Nat) {c c' : Action S → Circumstances}
      (others : ∀ action, action.publishes = false → c action = c' action) : Agrees (.act i c) (.act i c')

theorem Sight.map_under_id (sights : List (Sight S)) : sights.map (Sight.under id) = sights := by
  have kept : (Sight.under id : Sight S → Sight S) = id := by
    funext sight
    cases sight with
    | calls i call => cases call <;> rfl
    | told | ended => rfl
  rw [kept, List.map_id]

/-- Steps that turn out the same, unless a state is published, do the same to what differs in nothing but
conditions. -/
theorem Pace.Agrees.sameBy [Spec S] {pace pace' : Pace S} (agrees : pace.Agrees pace') :
    pace.SameBy View.bare id pace' := by
  have covers : (View.bare : View S).Covers id := fun _ _ => id
  cases agrees with
  | same => exact Pace.sameBy_self (fun _ _ _ => View.bare_records) covers
  | act i others =>
    intro t t' settled same
    exact same.act i (fun key action => Engine.perform_bare same.engine key action (others action)) covers

namespace Traffic

variable [Spec S] {t t' : Traffic S}

/-- Calls side by side that differ in nothing but conditions: they are at the same places, their cycles have
the same course before them, and the very same identifiers are recorded. -/
def Agrees (t t' : Traffic S) : Prop := t.SameBy View.bare (fun _ => True) t'

theorem SameBy.agrees {settled : Key → Prop} (same : t.SameBy View.bare settled t') : t.Agrees t' :=
  ⟨same.engine.settle_bare, same.locks, same.visits,
    fun i => (same.cycles i).mono fun ⟨v, there, _⟩ => ⟨v, there, trivial⟩⟩

/-- Take any two runs of calls for cycles and of operations of authors, over objects that differ in nothing
but conditions, in which every step turns out the same unless it publishes a state, and publishing turns out as
it likes in either. The cycles of both make the same calls in the same order and have the same results, and
after any number of steps the runs differ in nothing but conditions. -/
theorem conditions_steer_nothing (kind : Kind S) {e e' : Engine S} (agrees : e.Agrees e')
    {paces paces' : List (Pace S)} (same : List.Forall₂ Pace.Agrees paces paces') :
    (start kind e).sights paces = (start kind e').sights paces' ∧
      ∀ n, ((start kind e).run (paces.take n)).Agrees ((start kind e').run (paces'.take n)) := by
  have started : (start kind e).SameBy View.bare (fun _ => False) (start kind e') :=
    start_sameBy kind agrees
  have steps := same.imp fun _ _ => Pace.Agrees.sameBy
  refine ⟨?_, fun n => ?_⟩
  · have seen := (started.run steps).2
    rwa [Sight.map_under_id, Sight.map_under_id] at seen
  · obtain ⟨⟨_, after⟩, -⟩ := started.run (List.forall₂_take n steps)
    exact after.agrees

section Address

/-- An address that has a resource. -/
private def address : Declared FloatingIpSpec where
  key := ⟨"floating_ip", "web"⟩
  spec := { projectId := "p", isp := "BGP", bandwidth := 1 }
  recordedId := some "ip-1"

/-- The address, of which some conditions are known. -/
private def known (conditions : List Condition) : Engine FloatingIpSpec :=
  { store := { objects := .ofList [(address.key, address.dressed conditions)] } }

/-- It is shown as available. -/
private def shown : List Condition := [⟨.available, .epoch⟩]

/-- How actions turn out if the store refuses to publish, or does not. -/
private def met (refusal : Option StoreError) (action : Action FloatingIpSpec) : Circumstances :=
  ⟨.epoch, .written, if action.publishes then refusal else none⟩

/-- A cycle of the address, whose service says that its resource has failed. -/
private def attended (refusal : Option StoreError) : List (Pace FloatingIpSpec) :=
  let replies : Replies := ⟨some (.ok (.present ⟨"ip-1", "error", []⟩)), none, none, none, none⟩
  [.arrive address.key, .ask 0, .enter 0, .act 0 (met refusal), .answer 0 replies, .act 0 (met refusal),
    .act 0 (met refusal), .evict 0]

/-- A full store. -/
private def full : Option StoreError := some (.persist "no space left")

/-- A store refuses to publish anything about the address, which is shown as available, and in another run
does publish that it is not. Both cycles observe it and find it unavailable. -/
theorem conditions_steer_nothing_address :
    (known shown).Agrees (known []) ∧ List.Forall₂ Pace.Agrees (attended full) (attended none) ∧
      (start FloatingIp.service.toKind (known shown)).sights (attended full) =
        (start FloatingIp.service.toKind (known [])).sights (attended none) ∧
      (start FloatingIp.service.toKind (known [])).sights (attended none) =
        [.calls 0 (.observe address "ip-1"), .ended 0 (.ok .unavailable)] ∧
      (((start FloatingIp.service.toKind (known shown)).run (attended full)).engine.store.get? address.key).map
        Declared.conditions = some shown ∧
      (((start FloatingIp.service.toKind (known [])).run (attended none)).engine.store.get? address.key).map
        Declared.conditions ≠ some shown := by
  have agrees : (known shown).Agrees (known []) := ⟨⟨⟨rfl, nofun⟩, rfl, .none⟩, rfl⟩
  have acts : Pace.Agrees (.act 0 (met full)) (.act 0 (met none)) := by
    refine .act 0 fun action others => ?_
    simp only [met, others, Bool.false_eq_true, if_false]
  have same : List.Forall₂ Pace.Agrees (attended full) (attended none) :=
    .cons (.same _) <| .cons (.same _) <| .cons (.same _) <| .cons acts <| .cons (.same _) <|
      .cons acts <| .cons acts <| .cons (.same _) .nil
  obtain ⟨sights, -⟩ := conditions_steer_nothing FloatingIp.service.toKind agrees same
  exact ⟨agrees, same, sights, by rfl, by decide, by decide⟩

end Address

end Traffic

end CloudKeeper
