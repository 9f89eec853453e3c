import CloudKeeper.Proofs.Cycle.Discipline
/-!
An object that is declared while a cycle of it waits for a reply. The cycle goes on with the object that it
has read, so a deletion that the declaration takes back is still carried out: the object is removed with
the new declaration on it. That is the only way in which a declaration is lost.
-/
namespace CloudKeeper

variable {S : Type}

/-- The object has been removed. -/
def Deed.Removed (past : List (Deed S)) : Prop := .acted .remove (.ok ()) ∈ past

theorem RemoteCall.Warranted.unremoved {kind : Kind S} {past : List (Deed S)} {c : RemoteCall S}
    (warranted : c.Warranted kind past) : ¬Deed.Removed past := by
  unfold Deed.Removed
  cases warranted <;> simp

theorem CycleResult.Earned.removed_iff {past : List (Deed S)} {result : CycleResult}
    (earned : result.Earned past) : Deed.Removed past ↔ result = .ok .deleted := by
  cases earned with
  | gone =>
    refine ⟨fun removed => ?_, nofun⟩
    cases (List.mem_singleton.1 removed)
  | deleted => exact ⟨fun _ => rfl, fun _ => List.mem_cons_of_mem _ List.mem_cons_self⟩
  | other loose stays =>
    exact ⟨fun removed => absurd removed loose.unremoved, fun same => absurd same stays.2⟩

namespace StoreCall

variable [Spec S]

/-- An object that has been declared with a write that succeeds is wanted, with parameters that compare
the same as those declared. -/
theorem apply_wish (s : Store S) (key : Key) (spec : S) :
    (s.apply .written key spec).2 = .ok () ∧ ∃ declared : S,
      (declared = spec ∨ Spec.same declared spec = true) ∧
        (s.apply .written key spec).1.objects.intent? key = some (declared, false) := by
  have performed := perform_eq (.apply key spec) s .written
  change s.apply .written key spec = _ at performed
  rw [performed]
  simp only [effect]
  cases found : s.objects.get? key with
  | none =>
    obtain ⟨files, written⟩ := Store.persist_written
      { s with objects := s.objects.insert key { key, spec } }
    simp only [Effect.run, written]
    exact ⟨trivial, spec, .inl rfl, SortedMap.intent_insert ..⟩
  | some o =>
    dsimp only
    by_cases changes : (!Spec.same o.spec spec || o.isDeletionRequested) = true
    · obtain ⟨files, written⟩ := Store.persist_written
        { s with objects := s.objects.insert key (applied o spec) }
      simp only [changes, if_true, Effect.run, written]
      refine ⟨trivial, (applied o spec).spec, ?_, SortedMap.intent_insert ..⟩
      unfold applied
      by_cases same : Spec.same o.spec spec = true
      · simp only [same, if_true]
        exact .inr trivial
      · simp only [if_neg same]
        exact .inl trivial
    · rw [if_neg changes]
      simp only [Bool.not_eq_true, Bool.or_eq_false_iff, Bool.not_eq_false'] at changes
      refine ⟨rfl, o.spec, .inr changes.1, ?_⟩
      change s.objects.intent? key = _
      rw [SortedMap.intent?, found, Option.map_some, Declared.intent, changes.2]

/-- Removing an object with a write that succeeds removes it. -/
theorem remove_written (s : Store S) (key : Key) : (s.remove .written key).2 = .ok () := by
  have performed := perform_eq (.remove key) s .written
  change s.remove .written key = _ at performed
  rw [performed]
  simp only [effect]
  cases s.objects.get? key with
  | none => rfl
  | some o =>
    obtain ⟨files, written⟩ := Store.persist_written { s with objects := s.objects.erase key }
    simp only [Effect.run, written]

end StoreCall

namespace Works

variable [Spec S] {kind : Kind S} {w : Works S} {key : Key} {move : Move S} {past : List (Deed S)}
  {wish : S × Bool}

/-- The wish stands unless the cycle has removed the object. -/
structure Stands (w : Works S) (key : Key) (wish : S × Bool) (past : List (Deed S)) : Prop where
  kept : ¬Deed.Removed past → w.engine.store.objects.intent? key = some wish
  removed : Deed.Removed past → w.engine.store.objects.intent? key = none

omit [Spec S] in
/-- What neither removes the object nor changes the wish leaves it standing. -/
private theorem Stands.same {after : Works S} (stands : w.Stands key wish past) {deed : Deed S}
    (other : deed ≠ .acted .remove (.ok ()))
    (same : after.engine.store.objects.intent? key = w.engine.store.objects.intent? key) :
    after.Stands key wish (deed :: past) where
  kept unremoved :=
    same.trans (stands.kept fun removed => unremoved (List.mem_cons_of_mem _ removed))
  removed removed :=
    same.trans (stands.removed ((List.mem_cons.1 removed).resolve_left (Ne.symm other)))

private theorem Stands.act (stands : w.Stands key wish past) {after : Works S} {action : Action S}
    {now : Time.Timestamp} :
    let outcome := w.engine.perform { now, write := .written } key action
    after.engine = outcome.1 → after.Stands key wish (.acted action outcome.2 :: past) := by
  intro outcome engine
  cases action with
  | remove =>
    have removed : outcome.2 = .ok () := StoreCall.remove_written w.engine.store key
    rw [removed]
    refine ⟨fun unremoved => absurd List.mem_cons_self unremoved, fun _ => ?_⟩
    rw [engine]
    exact Option.map_eq_none_iff.2 (StoreCall.perform_leaves (StoreCall.effect_removes _ key) .written)
  | _ =>
    refine stands.same nofun ?_
    rw [engine]
    exact w.engine.perform_intent now .written key key _ nofun

private theorem Stands.step (stands : w.Stands key wish past) (kind : Kind S)
    (busy : (w.running key).isSome = true)
    (stays : move ≠ .finish key) (alone : move.key = key → move.isAuthored = false)
    (written : ∀ now write, move = .act key now write → write = .written) :
    (w.step kind move).Stands key wish ((w.deed? key move).toList ++ past) := by
  have seen := step_seen kind (.inl busy) stays
  generalize w.deed? key move = deed at seen
  cases seen with
  | acted does runs engine goesOn =>
    cases written _ _ does
    exact stands.act engine
  | answered does calls engine goesOn =>
    refine stands.same nofun ?_
    rw [engine]
  | authored own byAuthor => cases (alone own).symm.trans byAuthor
  | nothing objects =>
    have same := SortedMap.intent_of_get objects
    exact ⟨fun unremoved => same.trans (stands.kept unremoved),
      fun removed => same.trans (stands.removed removed)⟩

private theorem Stands.run (stands : w.Stands key wish past) (follows : w.Follows kind key past)
    {moves : List (Move S)} (one : .finish key ∉ moves)
    (alone : ∀ move ∈ moves, move.key = key → move.isAuthored = false)
    (written : ∀ now write, .act key now write ∈ moves → write = .written) :
    (w.run kind moves).Stands key wish (w.deeds kind key moves ++ past) :=
  (follows.keeps (Stands · key wish ·) stands one fun _ _ follows stands move member stays =>
    stands.step kind follows.busy stays (alone move member)
      fun now write does => written now write (does ▸ member)).2

/-- A declaration that an author makes while a remote call of a cycle is out, with writes that succeed and
nothing else done to the object by authors, is accepted. When the cycle has ended, it is still there,
without a request to delete it, exactly if the cycle has not reported the object deleted. -/
theorem redeclaration_kept_iff (kind : Kind S) (w : Works S) (key : Key) (before after : List (Move S))
    (spec : S) (result : CycleResult) (idle : w.running key = none) (one : .finish key ∉ before ++ after)
    (calls : (w.run kind (.begin key :: before)).InCall key)
    (alone : ∀ move ∈ after, move.key = key → move.isAuthored = false)
    (written : ∀ now write, .act key now write ∈ after → write = .written) :
    let called := w.run kind (.begin key :: before)
    let ended := called.run kind (.apply key spec .written :: after)
    ended.Reports key result →
      (called.engine.store.apply .written key spec).2 = .ok () ∧
      ((∃ o, ended.engine.store.get? key = some o ∧
        (o.spec = spec ∨ Spec.same o.spec spec = true) ∧ o.isDeletionRequested = false) ↔
          result ≠ .ok .deleted) := by
  intro called ended ends
  obtain ⟨accepted, declared, compares, wanted⟩ := StoreCall.apply_wish called.engine.store key spec
  refine ⟨accepted, ?_⟩
  have follows := follows_cycle kind idle fun member => one (List.mem_append_left _ member)
  obtain ⟨c, next, out⟩ := calls
  have unremoved : ¬Deed.Removed (w.deeds kind key (.begin key :: before)) := by
    obtain ⟨-, cycle, runs, along⟩ := follows
    cases Option.some.inj (runs.symm.trans out)
    exact along.1.unremoved
  -- the declaration is no deed of the cycle, which has not removed the object yet
  have redeclared : (called.step kind (.apply key spec .written)).Follows kind key _ :=
    follows.step nofun
  have stands : (called.step kind (.apply key spec .written)).Stands key (declared, false)
      (w.deeds kind key (.begin key :: before)) :=
    ⟨fun _ => wanted, fun removed => absurd removed unremoved⟩
  have one' : .finish key ∉ after := fun member => one (List.mem_append_right _ member)
  have stood := stands.run redeclared one' alone written
  obtain ⟨-, cycle, runs, along⟩ := redeclared.run one'
  cases Option.some.inj (runs.symm.trans ends)
  have removed := CycleResult.Earned.removed_iff along
  constructor
  · rintro ⟨o, found, -, -⟩ same
    have gone : (ended.engine.store.objects.get? key).map Declared.intent = none :=
      stood.removed (removed.2 same)
    rw [show ended.engine.store.objects.get? key = some o from found] at gone
    cases gone
  · intro other
    obtain ⟨o, found, intent⟩ := Option.map_eq_some_iff.1
      (stood.kept fun isRemoved => other (removed.1 isRemoved))
    have wants := Prod.mk.inj intent
    rw [← wants.1] at compares
    exact ⟨o, found, compares, wants.2⟩

/-- An address is declared again while its resource is being deleted, and that fails. -/
theorem redeclaration_kept_iff_address :
    let key : Key := ⟨"floating_ip", "web"⟩
    let spec : FloatingIpSpec := { projectId := "p", isp := "BGP", bandwidth := 1 }
    let o : Declared FloatingIpSpec :=
      { key, spec, recordedId := some "ip-1", deletionRequested := some .epoch }
    let kind := FloatingIp.service.toKind
    let w : Works FloatingIpSpec := { engine := { store := { objects := .ofList [(key, o)] } } }
    let act : Move FloatingIpSpec := .act key .epoch .written
    let refuse : Move FloatingIpSpec := .answer key fun _ => some (.error (.transport "refused"))
    let result : CycleResult := .error (.client .delete (.transport "refused"))
    let called := w.run kind [.begin key, act, act]
    let ended := called.run kind [.apply key spec .written, refuse, act]
    called.InCall key ∧ ended.Reports key result ∧
      ((∃ o, ended.engine.store.get? key = some o ∧
        (o.spec = spec ∨ Spec.same o.spec spec = true) ∧ o.isDeletionRequested = false) ↔
          result ≠ .ok .deleted) := by
  intro key spec o kind w act refuse result called ended
  have calls : called.InCall key := by decide
  have ends : ended.Reports key result := by decide
  have kept := redeclaration_kept_iff kind w key [act, act] [refuse, act] spec result rfl
    (by simp [act, refuse]) calls (by simp [act, refuse, Move.isAuthored])
    (by simp [act, refuse]) ends
  exact ⟨calls, ends, kept.2⟩

/-- An address is declared again, with other parameters, while its resource is being deleted. The
declaration is accepted, and is removed with the object. -/
theorem redeclaration_is_removed :
    let key : Key := ⟨"floating_ip", "web"⟩
    let spec : FloatingIpSpec := { projectId := "p", isp := "BGP", bandwidth := 1 }
    let wanted : FloatingIpSpec := { spec with bandwidth := 2 }
    let o : Declared FloatingIpSpec :=
      { key, spec, recordedId := some "ip-1", deletionRequested := some .epoch }
    let kind := FloatingIp.service.toKind
    let w : Works FloatingIpSpec := { engine := { store := { objects := .ofList [(key, o)] } } }
    let act : Move FloatingIpSpec := .act key .epoch .written
    let called := w.run kind [.begin key, act, act]
    let declared := called.run kind [.apply key wanted .written]
    let ended := declared.run kind [.answer key fun _ => some (.error .notFound), act, act]
    called.InCall key ∧ (called.engine.store.apply .written key wanted).2.isOk ∧
      declared.engine.store.objects.intent? key = some (wanted, false) ∧
      ended.Reports key (.ok .deleted) ∧ ended.engine.store.objects.intent? key = none := by
  intro key spec wanted o kind w act called declared ended
  exact ⟨by decide, by decide, by decide, by decide, by decide⟩

end Works

end CloudKeeper
