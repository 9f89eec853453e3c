import CloudKeeper.Proofs.Cycle.Custody
import CloudKeeper.Proofs.Cycle.Lockstep
import CloudKeeper.Proofs.Cycle.Solo
import CloudKeeper.Proofs.Store.Agreement
/-!
A cycle is about one object. It looks at nothing but the object of its key and the identifier remembered for
it, and it changes nothing else. Two cycles of one key on engines that have only this in common therefore go
the same way, as long as they are replied to alike. Objects are compared up to times: those of conditions need
only be such that nobody tells them apart.
-/
namespace CloudKeeper

open Time (Timestamp)

variable {S : Type} {blur : Timestamp → Timestamp → Prop}

/-- Conditions that say the same, since times that are not told apart. -/
structure Condition.Alike (blur : Timestamp → Timestamp → Prop) (c c' : Condition) : Prop where
  state : c.state = c'.state
  since : blur c.since c'.since

/-- A state is published alike on conditions that are alike. -/
theorem publish_alike {conditions conditions' : List Condition} {now now' : Timestamp}
    (alike : List.Forall₂ (Condition.Alike blur) conditions conditions') (times : blur now now')
    (state : ConditionState) :
    List.Forall₂ (Condition.Alike blur) (publish state now conditions) (publish state now' conditions') := by
  induction alike with
  | nil => exact .cons ⟨rfl, times⟩ .nil
  | cons first rest ih =>
    simp only [publish, first.state]
    split
    · split
      · exact .cons first rest
      · exact .cons ⟨rfl, times⟩ rest
    · exact .cons first ih

/-- Objects that differ in nothing but since when their conditions hold. -/
structure Declared.Alike (blur : Timestamp → Timestamp → Prop) (o o' : Declared S) : Prop where
  bare : o.bare = o'.bare
  conditions : List.Forall₂ (Condition.Alike blur) o.conditions o'.conditions

theorem Declared.Alike.refl (reflexive : ∀ t, blur t t) (o : Declared S) : o.Alike blur o :=
  ⟨rfl, List.forall₂_same.2 fun _ _ => ⟨rfl, reflexive _⟩⟩

/-- Objects that are alike up to no difference of times are the same. -/
theorem Declared.Alike.eq {o o' : Declared S} (alike : o.Alike (· = ·) o') : o = o' := by
  have same : o.conditions = o'.conditions := by
    refine List.forall₂_eq_eq_eq ▸ alike.conditions.imp ?_
    rintro ⟨state, since⟩ ⟨state', since'⟩ ⟨rfl, rfl⟩
    rfl
  obtain ⟨conditions, rfl⟩ := Declared.eq_dressed alike.bare
  obtain rfl : o.conditions = conditions := same
  rfl

/-- Calls that ask the same about objects that are alike. -/
structure RemoteCall.Alike (blur : Timestamp → Timestamp → Prop) (c c' : RemoteCall S) : Prop where
  bare : c.bare = c'.bare
  object : c.object.Alike blur c'.object

/-- Calls that are alike up to no difference of times are the same. -/
theorem RemoteCall.Alike.eq {c c' : RemoteCall S} (alike : c.Alike (· = ·) c') : c = c' := by
  have same : c.object = c'.object := alike.object.eq
  have bare := alike.bare
  cases c <;> cases c' <;> cases same <;> cases bare <;> rfl

/-- Replies to two calls that say the same. -/
def RemoteCall.RepliedAlike (c c' : RemoteCall S) (reply : c.Reply) (reply' : c'.Reply) : Prop :=
  ∃ replies : Replies, reply = replies.to c ∧ reply' = replies.to c'

theorem RemoteCall.RepliedAlike.refl (c : RemoteCall S) (reply : c.Reply) : c.RepliedAlike c reply reply := by
  cases c with
  | observe => exact ⟨⟨reply, none, none, none, none⟩, rfl, rfl⟩
  | create => exact ⟨⟨none, reply, none, none, none⟩, rfl, rfl⟩
  | update => exact ⟨⟨none, none, reply, none, none⟩, rfl, rfl⟩
  | delete => exact ⟨⟨none, none, none, reply, none⟩, rfl, rfl⟩
  | lookup => exact ⟨⟨none, none, none, none, reply⟩, rfl, rfl⟩

/-- A remote call that has been made, and the reply. -/
structure Answered (S : Type) where
  call : RemoteCall S
  reply : call.Reply

/-- The same has been asked and replied. -/
structure Answered.Alike (blur : Timestamp → Timestamp → Prop) (a a' : Answered S) : Prop where
  call : a.call.Alike blur a'.call
  reply : a.call.RepliedAlike a'.call a.reply a'.reply

theorem Answered.Alike.refl (reflexive : ∀ t, blur t t) (a : Answered S) : a.Alike blur a :=
  ⟨⟨rfl, .refl reflexive _⟩, .refl a.call a.reply⟩

theorem Answered.Alike.eq {a a' : Answered S} (alike : a.Alike (· = ·) a') : a = a' := by
  obtain ⟨call, reply⟩ := a
  obtain ⟨call', reply'⟩ := a'
  obtain rfl : call = call' := alike.call.eq
  obtain ⟨replies, own, own'⟩ := alike.reply
  exact congrArg (Answered.mk call) (own.trans own'.symm)

/-! ## What is kept for a key -/

/-- What an engine keeps for a key: its object, and the identifier that could not be recorded on it. -/
structure Holding (S : Type) where
  object : Option (Declared S)
  unrecorded : Option String

/-- The same is kept, but for times. -/
structure Holding.Alike (blur : Timestamp → Timestamp → Prop) (h h' : Holding S) : Prop where
  object : Option.Rel (Declared.Alike blur) h.object h'.object
  unrecorded : h.unrecorded = h'.unrecorded

theorem Holding.Alike.refl (reflexive : ∀ t, blur t t) (h : Holding S) : h.Alike blur h := by
  refine ⟨?_, rfl⟩
  cases h.object with
  | none => exact .none
  | some o => exact .some (.refl reflexive o)

/-- Replies to an action that say the same, but for times. What has become of a state that was published does
not matter. -/
def Action.RepliedAlike (blur : Timestamp → Timestamp → Prop) : (action : Action S) → action.Reply →
    action.Reply → Prop
  | .read, seen, seen' => Option.Rel (Declared.Alike blur) seen seen'
  | .publish _, _, _ => True
  | .recordId _, told, told' => told = told'
  | .clearId, told, told' => told = told'
  | .remove, told, told' => told = told'
  | .recall, id, id' => id = id'
  | .remember _, _, _ => True
  | .discard, _, _ => True

/-- A cycle does not tell such replies apart. -/
theorem Action.RepliedAlike.sameBy {action : Action S} {reply reply' : action.Reply}
    (alike : action.RepliedAlike blur reply reply') : action.SameBy View.bare reply reply' := by
  cases action with
  | read =>
    cases alike with
    | none => rfl
    | some alike => exact congrArg some alike.bare
  | _ => exact alike

/-! ## One action -/

namespace StoreCall

variable [Spec S] {objects objects' : SortedMap Key (Declared S)} {key : Key}

/-- A key has the same object in both, but for times. -/
private abbrev Alike (blur : Timestamp → Timestamp → Prop) (key : Key)
    (objects objects' : SortedMap Key (Declared S)) : Prop :=
  Option.Rel (Declared.Alike blur) (objects.get? key) (objects'.get? key)

/-- Two effects say the same and leave the same for a key. -/
private structure Match (blur : Timestamp → Timestamp → Prop) (key : Key) (effect effect' : Effect S) :
    Prop where
  verdict : effect.verdict = effect'.verdict
  kept : Alike blur key effect.kept effect'.kept

omit [Spec S] in
private theorem alike_cases (alike : Alike blur key objects objects') :
    (objects.get? key = none ∧ objects'.get? key = none) ∨ ∃ o conditions,
      objects.get? key = some o ∧ objects'.get? key = some (o.dressed conditions) ∧
      List.Forall₂ (Condition.Alike blur) o.conditions conditions := by
  unfold Alike at alike
  generalize objects.get? key = seen at alike
  generalize objects'.get? key = seen' at alike
  cases alike with
  | none => exact .inl ⟨rfl, rfl⟩
  | @some o o' alike =>
    obtain ⟨conditions, rfl⟩ := Declared.eq_dressed alike.bare
    exact .inr ⟨o, conditions, rfl, rfl, alike.conditions⟩

omit [Spec S] in
private theorem alike_insert {o o' : Declared S} (alike : o.Alike blur o') :
    Alike blur key (objects.insert key o) (objects'.insert key o') := by
  simp only [Alike, SortedMap.get?_insert, if_pos]
  exact .some alike

private theorem setExternalId_match (alike : Alike blur key objects objects') (id : String) :
    Match blur key ((setExternalId key id).effect objects) ((setExternalId key id).effect objects') := by
  simp only [effect]
  split
  · exact ⟨rfl, alike⟩
  · obtain ⟨none, none'⟩ | ⟨o, conditions, found, found', same⟩ := alike_cases alike
    · rw [none, none']
      exact ⟨rfl, alike⟩
    · simp only [found, found', Declared.dressed_externalId]
      cases o.externalId with
      | some existing => exact ⟨rfl, alike⟩
      | none => exact ⟨rfl, alike_insert ⟨rfl, same⟩⟩

private theorem clearExternalId_match (alike : Alike blur key objects objects') :
    Match blur key ((clearExternalId key).effect objects) ((clearExternalId key).effect objects') := by
  simp only [effect]
  obtain ⟨none, none'⟩ | ⟨o, conditions, found, found', same⟩ := alike_cases alike
  · rw [none, none']
    exact ⟨rfl, alike⟩
  · simp only [found, found']
    by_cases recorded : o.recordedId.isSome = true
    · have recorded' : (o.dressed conditions).recordedId.isSome = true := recorded
      rw [if_pos recorded, if_pos recorded']
      exact ⟨rfl, alike_insert ⟨rfl, same⟩⟩
    · have recorded' : ¬(o.dressed conditions).recordedId.isSome = true := recorded
      rw [if_neg recorded, if_neg recorded']
      exact ⟨rfl, alike⟩

private theorem setCondition_match (alike : Alike blur key objects objects') {now now' : Timestamp}
    (times : blur now now') (state : ConditionState) :
    Match blur key ((setCondition key now state).effect objects)
      ((setCondition key now' state).effect objects') := by
  simp only [effect]
  obtain ⟨none, none'⟩ | ⟨o, conditions, found, found', same⟩ := alike_cases alike
  · rw [none, none']
    exact ⟨rfl, alike⟩
  · simp only [found, found']
    exact ⟨rfl, alike_insert ⟨rfl, publish_alike same times state⟩⟩

private theorem remove_match (alike : Alike blur key objects objects') :
    Match blur key ((remove key).effect objects) ((remove key).effect objects') := by
  simp only [effect]
  obtain ⟨none, none'⟩ | ⟨o, conditions, found, found', same⟩ := alike_cases alike
  · rw [none, none']
    exact ⟨rfl, alike⟩
  · rw [found, found']
    refine ⟨rfl, ?_⟩
    simp only [Alike, Effect.kept, SortedMap.get?_erase, if_pos]
    exact .none

end StoreCall

namespace Engine

/-- What the engine keeps for a key. -/
def holding (e : Engine S) (key : Key) : Holding S := ⟨e.store.get? key, e.unrecorded.get? key⟩

variable [Spec S] {e e' : Engine S} {key other : Key}

private theorem perform_match (alike : (e.holding key).Alike blur (e'.holding key)) {c c' : StoreCall S}
    (effects : StoreCall.Match blur key (c.effect e.store.objects) (c'.effect e'.store.objects)) :
    (({ e with store := (c.perform e.store .written).1 } : Engine S).holding key).Alike blur
        (({ e' with store := (c'.perform e'.store .written).1 } : Engine S).holding key) ∧
      (c.perform e.store .written).2 = (c'.perform e'.store .written).2 := by
  refine ⟨⟨?_, alike.unrecorded⟩, ?_⟩
  · simp only [holding, Store.get?, StoreCall.perform_kept]
    exact effects.kept
  · rw [StoreCall.perform_written, StoreCall.perform_written, effects.verdict]

/-- An action on a key depends on nothing but what is kept for the key. -/
theorem perform_alike (alike : (e.holding key).Alike blur (e'.holding key)) {now now' : Timestamp}
    (times : blur now now') (action : Action S) :
    let after := e.perform ⟨now, .written, none⟩ key action
    let after' := e'.perform ⟨now', .written, none⟩ key action
    (after.1.holding key).Alike blur (after'.1.holding key) ∧ action.RepliedAlike blur after.2 after'.2 := by
  cases action with
  | read => exact ⟨alike, alike.object⟩
  | «recall» => exact ⟨alike, alike.unrecorded⟩
  | remember id =>
    refine ⟨⟨alike.object, ?_⟩, trivial⟩
    simp only [holding, perform, SortedMap.get?_insert, if_pos]
  | discard =>
    refine ⟨⟨alike.object, ?_⟩, trivial⟩
    simp only [holding, perform, SortedMap.get?_erase, if_pos]
  | recordId id => exact perform_match alike (StoreCall.setExternalId_match alike.object id)
  | clearId => exact perform_match alike (StoreCall.clearExternalId_match alike.object)
  | remove => exact perform_match alike (StoreCall.remove_match alike.object)
  | publish state =>
    exact ⟨(perform_match alike (StoreCall.setCondition_match alike.object times state)).1, trivial⟩

/-- An action leaves alone what is kept for other keys. -/
theorem perform_holding_other (e : Engine S) (c : Circumstances) (apart : other ≠ key) (action : Action S) :
    (e.perform c key action).1.holding other = e.holding other := by
  obtain ⟨object, unrecorded⟩ := e.perform_other c apart action
  rw [holding, object, unrecorded, holding]

end Engine

/-! ## One cycle -/

namespace Deed

/-- The object that a cycle has read. -/
def seen : List (Deed S) → Option (Declared S)
  | [] => none
  | .acted .read o :: _ => o
  | _ :: past => seen past

/-- The calls among deeds, with the replies. -/
def answered : List (Deed S) → List (Answered S)
  | [] => []
  | .acted _ _ :: past => answered past
  | .called c reply :: past => ⟨c, reply⟩ :: answered past

/-- What two cycles of one key have done is the same, but for times. -/
structure Alike (blur : Timestamp → Timestamp → Prop) (past past' : List (Deed S)) : Prop where
  length : past.length = past'.length
  seen : Option.Rel (Declared.Alike blur) (seen past) (seen past')
  answered : List.Forall₂ (Answered.Alike blur) (answered past) (answered past')

variable {past past' : List (Deed S)}

theorem Alike.nil : Alike (S := S) blur [] [] := ⟨rfl, .none, .nil⟩

theorem Alike.acted (alike : Alike blur past past') {action : Action S} {reply reply' : action.Reply}
    (replied : action.RepliedAlike blur reply reply') :
    Alike blur (.acted action reply :: past) (.acted action reply' :: past') := by
  refine ⟨congrArg (· + 1) alike.length, ?_, alike.answered⟩
  cases action with
  | read => exact replied
  | _ => exact alike.seen

theorem Alike.called (alike : Alike blur past past') {c c' : RemoteCall S} {reply : c.Reply}
    {reply' : c'.Reply} (calls : c.Alike blur c') (replied : c.RepliedAlike c' reply reply') :
    Alike blur (.called c reply :: past) (.called c' reply' :: past') :=
  ⟨congrArg (· + 1) alike.length, alike.seen, .cons ⟨calls, replied⟩ alike.answered⟩

end Deed

/-- A call is about the object that the cycle has read. -/
theorem RemoteCall.Warranted.seen {kind : Kind S} {past : List (Deed S)} {c : RemoteCall S}
    (warranted : c.Warranted kind past) : Deed.seen past = some c.object := by
  cases warranted <;> rfl

namespace Surroundings

/-- Surroundings of cycles of one key that cannot be told apart but for times: calls that are alike are
replied to alike. -/
structure Alike (blur : Timestamp → Timestamp → Prop) (s s' : Surroundings S) : Prop where
  now : ∀ past past', Deed.Alike blur past past' → blur (s.now past) (s'.now past')
  replied : ∀ past past' (c c' : RemoteCall S), Deed.Alike blur past past' → c.Alike blur c' →
    c.RepliedAlike c' (s.reply past c) (s'.reply past' c')

variable [Spec S] {kind : Kind S} {key other : Key} {e e' : Engine S} {past past' : List (Deed S)}

/-- Two cycles of one key on engines that keep the same for it go the same way. -/
theorem run_alike {s s' : Surroundings S} (around : s.Alike blur s') (written : s.write = fun _ => .written)
    (written' : s'.write = fun _ => .written) {known : Prop} {c c' : Cycle S CycleResult}
    (same : c.SameBy View.bare known c')
    (along : c.Along kind past) (along' : c'.Along kind past') (kept : (e.holding key).Alike blur (e'.holding key))
    (done : Deed.Alike blur past past') :
    let ended := s.run key c e past
    let ended' := s'.run key c' e' past'
    ended.result = ended'.result ∧ (ended.engine.holding key).Alike blur (ended'.engine.holding key) ∧
      Deed.Alike blur ended.past ended'.past := by
  induction same generalizing e e' past past' with
  | done a => exact ⟨rfl, kept, done⟩
  | step action clears rest ih =>
    have acted := Engine.perform_alike kept (around.now past past' done) action
    simp only [run, written, written']
    exact ih _ _ acted.2.sameBy (along.2 _) (along'.2 _) acted.1 (done.acted acted.2)
  | @call _ c c' next next' same rest ih =>
    have about : c.Alike blur c' := by
      have seen := done.seen
      rw [along.1.seen, along'.1.seen] at seen
      exact ⟨same.under fun _ _ => id, Option.rel_some_some.1 seen⟩
    obtain ⟨replies, own, own'⟩ := around.replied past past' c c' done about
    simp only [run, own, own']
    exact ih replies (along.2 _) (along'.2 _) kept (done.called about ⟨replies, rfl, rfl⟩)

/-- A cycle leaves alone what is kept for other keys. -/
theorem run_holding_other (s : Surroundings S) (apart : other ≠ key) (c : Cycle S CycleResult) (e : Engine S)
    (past : List (Deed S)) : ((s.run key c e past).engine.holding other) = e.holding other := by
  induction c generalizing e past with
  | done a => rfl
  | step action next ih => exact (ih _ _ _).trans (e.perform_holding_other _ apart action)
  | call c next ih => exact ih _ _ _

end Surroundings

end CloudKeeper
