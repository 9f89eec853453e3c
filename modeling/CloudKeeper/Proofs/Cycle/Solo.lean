import CloudKeeper.Cycle.Engine
import CloudKeeper.Proofs.Cycle.Course
import CloudKeeper.Proofs.Cycle.Run
import CloudKeeper.Proofs.Object.Condition
import CloudKeeper.Proofs.Store.Effect
/-!
A cycle that nobody interferes with. It runs to its end on one engine, and what it meets on the way, the
time, the outcomes of writes, a shutdown and the answers of the service, is given for every course that it
can take. So what holds in all surroundings holds however the rest of the world behaves.
-/
namespace CloudKeeper

open Time (Timestamp)

variable {S α β : Type}

/-- What a cycle meets, given what has been done before, the latest first. -/
structure Surroundings (S : Type) where
  now : List (Deed S) → Timestamp
  write : List (Deed S) → WriteOutcome
  /-- A shutdown has been called for. -/
  stopped : List (Deed S) → Bool := fun _ => false
  /-- What a call is answered that has been made. -/
  answer : List (Deed S) → (call : RemoteCall S) → call.Reply
  /-- A shutdown is not called off. -/
  lasts : ∀ deed past, stopped past = true → stopped (deed :: past) = true := by
    intro _ _ calls; cases calls

/-- What a deed adds to the log of the works that run the cycle. -/
def Deed.incidents (key : Key) : Deed S → List (Incident S)
  | .acted action reply => Incident.ofAction key action reply
  | .called c reply => [.answered key c reply]

/-- A program that has come to its end, with all that has been done. -/
structure Upshot (S α : Type) where
  result : α
  engine : Engine S
  past : List (Deed S)

namespace Surroundings

/-- Surroundings in which no shutdown is called for. -/
def undisturbed (now : List (Deed S) → Timestamp) (write : List (Deed S) → WriteOutcome)
    (answer : List (Deed S) → (call : RemoteCall S) → call.Reply) : Surroundings S where
  now := now
  write := write
  answer := answer

/-- The reply to a call. After a shutdown has been called for no call is made any more. -/
def reply (s : Surroundings S) (past : List (Deed S)) (c : RemoteCall S) : c.Reply :=
  if s.stopped past then none else s.answer past c

/-- The calls among deeds that have been made. -/
def made (s : Surroundings S) : List (Deed S) → List (RemoteCall S)
  | [] => []
  | .acted _ _ :: past => s.made past
  | .called c _ :: past => if s.stopped past then s.made past else c :: s.made past

/-- Every call among deeds has been replied to as the surroundings do. -/
def Replied (s : Surroundings S) (past : List (Deed S)) : Prop :=
  ∀ later c reply earlier, past = later ++ .called c reply :: earlier → reply = s.reply earlier c

theorem Replied.nil (s : Surroundings S) : s.Replied [] := by
  intro later c reply earlier split
  cases (List.append_eq_nil_iff.1 split.symm).2

theorem Replied.acted {s : Surroundings S} {past : List (Deed S)} (replied : s.Replied past)
    (action : Action S) (reply : action.Reply) : s.Replied (.acted action reply :: past) := by
  rintro (_ | ⟨deed, later⟩) c own earlier split
  · cases split
  · exact replied later c own earlier (List.cons.inj split).2

theorem Replied.called {s : Surroundings S} {past : List (Deed S)} (replied : s.Replied past)
    (c : RemoteCall S) : s.Replied (.called c (s.reply past c) :: past) := by
  rintro (_ | ⟨deed, later⟩) c' own earlier split
  · cases split
    rfl
  · exact replied later c' own earlier (List.cons.inj split).2

variable [Spec S]

/-- Runs a program about the object of a key to its end. -/
def run (s : Surroundings S) (key : Key) : Cycle S α → Engine S → List (Deed S) → Upshot S α
  | .done a, e, past => ⟨a, e, past⟩
  | .step action next, e, past =>
    let outcome := e.perform { now := s.now past, write := s.write past } key action
    s.run key (next outcome.2) outcome.1 (.acted action outcome.2 :: past)
  | .call c next, e, past => s.run key (next (s.reply past c)) e (.called c (s.reply past c) :: past)

variable {s : Surroundings S} {key : Key} {e : Engine S} {past : List (Deed S)}

/-- A cycle of a key without an object is over when that has been seen. -/
theorem run_undeclared (s : Surroundings S) (kind : Kind S) (absent : e.store.get? key = none)
    (past : List (Deed S)) :
    s.run key (reconcile kind) e past = ⟨.ok .gone, e, .acted .read none :: past⟩ := by
  have reads : ∀ c, (e.perform ⟨s.now past, c, none⟩ key .read) = (e, none) :=
    fun c => congrArg (e, ·) absent
  simp only [reconcile, Reconcile.body, Cycle.bind, run, reads]
  rfl

/-- A cycle of an object that is wanted goes on by whether an identifier is recorded. -/
private theorem run_wanted (s : Surroundings S) (kind : Kind S) {o : Declared S}
    (declared : e.store.get? key = some o) (wanted : o.isDeletionRequested = false)
    (past : List (Deed S)) :
    s.run key (reconcile kind) e past =
      s.run key ((o.externalId.elim (Reconcile.create kind o) (Reconcile.observe kind o)).bind
        Reconcile.noted) e (.acted .read (some o) :: past) := by
  have reads : ∀ c, (e.perform ⟨s.now past, c, none⟩ key .read) = (e, some o) :=
    fun c => congrArg (e, ·) declared
  simp only [reconcile, Reconcile.body, Cycle.bind, run, reads, wanted, Bool.false_eq_true, if_false]
  cases o.externalId <;> rfl

/-- A cycle of an object that is wanted observes the resource that is recorded. -/
theorem run_recorded (s : Surroundings S) (kind : Kind S) {o : Declared S} {id : String}
    (declared : e.store.get? key = some o) (wanted : o.isDeletionRequested = false)
    (recorded : o.externalId = some id) (past : List (Deed S)) :
    s.run key (reconcile kind) e past =
      s.run key ((Reconcile.observe kind o id).bind Reconcile.noted) e
        (.acted .read (some o) :: past) := by
  rw [s.run_wanted kind declared wanted, recorded, Option.elim_some]

/-- A cycle of an object that is wanted and has no recorded identifier obtains a resource. -/
theorem run_unrecorded (s : Surroundings S) (kind : Kind S) {o : Declared S}
    (declared : e.store.get? key = some o) (wanted : o.isDeletionRequested = false)
    (unrecorded : o.externalId = none) (past : List (Deed S)) :
    s.run key (reconcile kind) e past =
      s.run key ((Reconcile.create kind o).bind Reconcile.noted) e (.acted .read (some o) :: past) := by
  rw [s.run_wanted kind declared wanted, unrecorded, Option.elim_none]

/-- A cycle of an object that is not wanted any more carries out its deletion. -/
theorem run_unwanted (s : Surroundings S) (kind : Kind S) {o : Declared S}
    (declared : e.store.get? key = some o) (unwanted : o.isDeletionRequested = true)
    (past : List (Deed S)) :
    s.run key (reconcile kind) e past =
      s.run key ((Reconcile.finalize kind o).bind Reconcile.noted) e (.acted .read (some o) :: past) := by
  have reads : ∀ c, (e.perform ⟨s.now past, c, none⟩ key .read) = (e, some o) :=
    fun c => congrArg (e, ·) declared
  simp only [reconcile, Reconcile.body, Cycle.bind, run, reads, unwanted, if_true]

/-- What has been done before stays done. -/
theorem run_past (s : Surroundings S) (key : Key) (c : Cycle S α) (e : Engine S)
    (past : List (Deed S)) :
    ∃ own, (s.run key c e past).past = own ++ past := by
  induction c generalizing e past with
  | done a => exact ⟨[], rfl⟩
  | step action next ih =>
    obtain ⟨own, split⟩ := ih _ _ (.acted action _ :: past)
    exact ⟨own ++ [.acted action _], split.trans (List.append_cons ..)⟩
  | call c next ih =>
    obtain ⟨own, split⟩ := ih _ e (.called c (s.reply past c) :: past)
    exact ⟨own ++ [.called c _], split.trans (List.append_cons ..)⟩

theorem mem_run_past {deed : Deed S} (s : Surroundings S) (key : Key) (c : Cycle S α) (e : Engine S)
    (member : deed ∈ past) : deed ∈ (s.run key c e past).past := by
  obtain ⟨own, split⟩ := s.run_past key c e past
  rw [split]
  exact List.mem_append_right own member

theorem Replied.run (replied : s.Replied past) (key : Key) (c : Cycle S α) (e : Engine S) :
    s.Replied (s.run key c e past).past := by
  induction c generalizing e past with
  | done a => exact replied
  | step action next ih => exact ih _ (replied.acted action _) _
  | call c next ih => exact ih _ (replied.called c) e

omit [Spec S] in
private theorem logged_cons {log : List (Incident S)} {deed : Deed S}
    (logged : ∀ deed ∈ past, deed.incidents key ⊆ log) :
    ∀ other ∈ deed :: past, other.incidents key ⊆ deed.incidents key ++ log := by
  refine List.forall_mem_cons.2 ⟨List.subset_append_left .., fun other member => ?_⟩
  exact List.Subset.trans (logged other member) (List.subset_append_right ..)

/-- A cycle that nobody interferes with is one run of moves among all those that works can take, and the
log tells what it has learned. -/
theorem run_moves (s : Surroundings S) (kind : Kind S) (c : Cycle S CycleResult) {w : Works S}
    (runs : w.running key = some c) (logged : ∀ deed ∈ past, deed.incidents key ⊆ w.log) :
    ∃ moves, (∀ own spec write, .apply own spec write ∉ moves) ∧
      let ended := s.run key c w.engine past
      (w.run kind moves).running key = some (.done ended.result) ∧
      (w.run kind moves).engine = ended.engine ∧
      ∀ deed ∈ ended.past, deed.incidents key ⊆ (w.run kind moves).log := by
  induction c generalizing w past with
  | done a => exact ⟨[], fun _ _ _ => List.not_mem_nil, runs, rfl, logged⟩
  | step action next ih =>
    let outcome := w.engine.perform { now := s.now past, write := s.write past } key action
    let after : Works S := { w with
      engine := outcome.1
      log := (Deed.acted action outcome.2).incidents key ++ w.log }.put key (some (next outcome.2))
    have does (moves : List (Move S)) :
        w.run kind (.act key (s.now past) (s.write past) :: moves) = after.run kind moves := by
      simp only [Works.run, List.foldl_cons, Works.step, runs]
      rfl
    have goesOn : after.running key = some (next outcome.2) := if_pos rfl
    obtain ⟨moves, own, ended⟩ := ih outcome.2 goesOn (logged_cons logged)
    refine ⟨.act key (s.now past) (s.write past) :: moves, fun _ _ _ member => ?_, ?_⟩
    · exact own _ _ _ ((List.mem_cons.1 member).resolve_left nofun)
    · rw [does]
      exact ended
  | call c next ih =>
    let reply := s.reply past c
    let after : Works S :=
      { w with log := (Deed.called c reply).incidents key ++ w.log }.put key (some (next reply))
    have does (moves : List (Move S)) :
        w.run kind (.answer key (s.reply past) :: moves) = after.run kind moves := by
      simp only [Works.run, List.foldl_cons, Works.step, runs]
      rfl
    have goesOn : after.running key = some (next reply) := if_pos rfl
    obtain ⟨moves, own, ended⟩ := ih reply goesOn (logged_cons logged)
    refine ⟨.answer key (s.reply past) :: moves, fun _ _ _ member => ?_, ?_⟩
    · exact own _ _ _ ((List.mem_cons.1 member).resolve_left nofun)
    · rw [does]
      exact ended

/-- A cycle that is run keeps to its course. -/
theorem run_course {kind : Kind S} {c : Cycle S CycleResult} (course : Course kind past)
    (along : c.Along kind past) (s : Surroundings S) (key : Key) (e : Engine S) :
    Course kind (s.run key c e past).past ∧
      (s.run key c e past).result.Earned (s.run key c e past).past := by
  induction c generalizing e past with
  | done result => exact ⟨course, along⟩
  | step action next ih =>
    have goesOn : ∀ reply, Course kind (.acted action reply :: past) := fun _ => ⟨along.1, course⟩
    exact ih _ (goesOn _) (along.2 _) _
  | call c next ih =>
    have goesOn : ∀ reply, Course kind (.called c reply :: past) := fun _ => ⟨along.1, course⟩
    exact ih _ (goesOn _) (along.2 _) e

end Surroundings

namespace Cycle

/-- However a program goes on after what has been done, it ends as said. -/
def Ends (said : List (Deed S) → α → Prop) : List (Deed S) → Cycle S α → Prop
  | past, .done a => said past a
  | past, .step action next => ∀ reply, Ends said (.acted action reply :: past) (next reply)
  | past, .call c next => ∀ reply, Ends said (.called c reply :: past) (next reply)

theorem Ends.bind {said : List (Deed S) → α → Prop} {lastly : List (Deed S) → β → Prop}
    {c : Cycle S α} {next : α → Cycle S β} {past : List (Deed S)} (ends : c.Ends said past)
    (goesOn : ∀ past a, said past a → (next a).Ends lastly past) : (c.bind next).Ends lastly past := by
  induction c generalizing past with
  | done a => exact goesOn past a ends
  | step action more ih => exact fun reply => ih reply (ends reply)
  | call c more ih => exact fun reply => ih reply (ends reply)

theorem Ends.run [Spec S] {said : List (Deed S) → α → Prop} {c : Cycle S α} {past : List (Deed S)}
    (ends : c.Ends said past) (s : Surroundings S) (key : Key) (e : Engine S) :
    said (s.run key c e past).past (s.run key c e past).result := by
  induction c generalizing e past with
  | done a => exact ends
  | step action next ih => exact ih _ (ends _) _
  | call c next ih => exact ih _ (ends _) _

end Cycle

/-! ## Actions that leave everything but conditions as it is -/

/-- Whether an action changes nothing but conditions. -/
def Action.isMild : Action S → Bool
  | .read | .recall | .publish _ => true
  | .recordId _ | .clearId | .remove | .remember _ | .discard => false

/-- The state that an action publishes. -/
def Action.published : Action S → List ConditionState
  | .publish state => [state]
  | _ => []

namespace Deed

/-- Whether a deed changes nothing on this side but conditions. -/
def isMild : Deed S → Bool
  | .acted action _ => action.isMild
  | .called _ _ => true

/-- The states that deeds have published. -/
def published : List (Deed S) → List ConditionState
  | [] => []
  | .acted action _ :: past => action.published ++ published past
  | .called _ _ :: past => published past

end Deed

/-- Whatever a program does, it changes nothing but conditions. -/
def Cycle.IsMild : Cycle S α → Prop
  | .done _ => True
  | .step action next => action.isMild = true ∧ ∀ reply, (next reply).IsMild
  | .call _ next => ∀ reply, (next reply).IsMild

/-- To publish why a cycle failed is mild. -/
theorem Cycle.isMild_noted {c : Cycle S CycleResult} (mild : c.IsMild) :
    (c.bind Reconcile.noted).IsMild := by
  induction c with
  | done result =>
    unfold bind Reconcile.noted
    split
    · trivial
    · trivial
    · trivial
    · exact ⟨rfl, fun _ => trivial⟩
  | step action next ih => exact ⟨mild.1, fun reply => ih reply (mild.2 reply)⟩
  | call c next ih => exact fun reply => ih reply (mild reply)

/-- An engine has become another by nothing but publishing states on the object of a key. -/
structure Engine.Marked (before : Engine S) (key : Key) (states : List ConditionState)
    (after : Engine S) : Prop where
  unrecorded : after.unrecorded = before.unrecorded
  sent : after.store.sent = before.store.sent
  snapshot : after.store.snapshot = before.store.snapshot
  others : ∀ other, other ≠ key → after.store.get? other = before.store.get? other
  own : ∀ o, before.store.get? key = some o → ∃ conditions,
    after.store.get? key = some { o with conditions } ∧ Published states o.conditions conditions

namespace Engine

variable [Spec S] {before e : Engine S} {key : Key} {states : List ConditionState}

omit [Spec S] in
theorem Marked.refl (e : Engine S) (key : Key) : e.Marked key [] e :=
  ⟨rfl, rfl, rfl, fun _ _ => rfl, fun o found => ⟨o.conditions, found, .nil⟩⟩

private theorem Marked.publish (marked : before.Marked key states e) (c : Circumstances)
    (acts : c.refusal = none) (state : ConditionState) :
    before.Marked key (state :: states) (e.perform c key (.publish state)).1 := by
  have engine : (e.perform c key (.publish state)).1 =
      { e with store := (e.store.setCondition c.now key state).1 } := by
    simp only [perform, onStore, acts]
  rw [engine]
  unfold Store.setCondition
  cases found : e.store.get? key with
  | none =>
    refine ⟨marked.unrecorded, marked.sent, marked.snapshot, marked.others, fun o held => ?_⟩
    obtain ⟨conditions, own, -⟩ := marked.own o held
    cases found.symm.trans own
  | some o =>
    refine ⟨marked.unrecorded, marked.sent, marked.snapshot, fun other apart => ?_, fun o' held => ?_⟩
    · exact (SortedMap.get?_insert ..).trans ((if_neg apart).trans (marked.others other apart))
    · obtain ⟨conditions, own, published⟩ := marked.own o' held
      cases found.symm.trans own
      exact ⟨_, (SortedMap.get?_insert ..).trans (if_pos rfl), .cons state c.now published⟩

private theorem Marked.perform (marked : before.Marked key states e) (c : Circumstances)
    (acts : c.refusal = none) {action : Action S} (mild : action.isMild = true) :
    before.Marked key (action.published ++ states) (e.perform c key action).1 := by
  cases action with
  | publish state => exact marked.publish c acts state
  | read => exact marked
  | «recall» => exact marked
  | _ => cases mild

variable {s : Surroundings S} {past : List (Deed S)} {c : Cycle S α}

/-- Deeds that change nothing but conditions mark the object with what they publish. -/
theorem Marked.run (marked : before.Marked key (Deed.published past) e)
    (mild : ∀ deed ∈ (s.run key c e past).past, deed.isMild = true) :
    before.Marked key (Deed.published (s.run key c e past).past) (s.run key c e past).engine := by
  induction c generalizing e past with
  | done a => exact marked
  | call c next ih => exact ih _ marked mild
  | step action next ih =>
    refine ih _ (marked.perform _ rfl ?_) mild
    exact mild _ (s.mem_run_past key (next _) _ List.mem_cons_self)

/-- A program that changes nothing but conditions keeps all else of its object. -/
theorem bare_run (mild : c.IsMild) {o : Declared S} (found : e.store.get? key = some o) :
    ∃ o', (s.run key c e past).engine.store.get? key = some o' ∧ o'.bare = o.bare := by
  induction c generalizing e past o with
  | done a => exact ⟨o, found, rfl⟩
  | call c next ih => exact ih _ (mild _) found
  | step action next ih =>
    have marked := (Marked.refl e key).perform { now := s.now past, write := s.write past } rfl mild.1
    obtain ⟨conditions, kept, -⟩ := marked.own o found
    obtain ⟨o', own, same⟩ := ih _ (mild.2 _) kept
    exact ⟨o', own, same⟩

end Engine

end CloudKeeper
