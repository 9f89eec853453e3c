import CloudKeeper.Kind.Family
import CloudKeeper.Proofs.Cycle.Course
import CloudKeeper.Proofs.Cycle.Custody
import CloudKeeper.Proofs.Cycle.Forgetting
import CloudKeeper.Proofs.Cycle.Run
import CloudKeeper.Time.Epoch
/-!
What one cycle does in the middle of everything else. The deeds of the cycle of a key are picked out of a
run of moves, in which authors and the cycles of other keys take their turns, and keep to the course that
every cycle takes.
-/
namespace CloudKeeper

variable {S : Type}

namespace Move

/-- The key that a move is about. -/
def key : Move S → Key
  | .apply key _ _ | .requestDeletion key _ _ | .begin key | .act key _ _ | .answer key _
  | .finish key => key

/-- How the write of a move turns out, if it comes to one. -/
def write? : Move S → Option WriteOutcome
  | .apply _ _ write | .requestDeletion _ _ write | .act _ _ write => some write
  | .begin _ | .answer .. | .finish _ => none

/-- Whether a move is an author's. -/
def isAuthored : Move S → Bool
  | .apply .. | .requestDeletion .. => true
  | .begin _ | .act .. | .answer .. | .finish _ => false

end Move

/-- Whether what a cycle has done last says that there is no object. -/
def Deed.clear : List (Deed S) → Bool
  | .acted action reply :: past => action.clears (clear past) reply
  | _ => false

namespace Works

variable [Spec S] {kind : Kind S} {w : Works S} {key : Key} {move : Move S} {past : List (Deed S)}

/-- What the cycle of a key does in a move. -/
def deed? (w : Works S) (key : Key) : Move S → Option (Deed S)
  | .act own now write =>
    match w.running key with
    | some (.step action _) =>
      if own = key then some (.acted action (w.engine.perform { now, write } key action).2) else none
    | _ => none
  | .answer own reply =>
    match w.running key with
    | some (.call c _) => if own = key then some (.called c (reply c)) else none
    | _ => none
  | .apply .. | .requestDeletion .. | .begin _ | .finish _ => none

/-- What the cycle of a key does in a run of moves, the latest first. -/
def deeds (kind : Kind S) (key : Key) : Works S → List (Move S) → List (Deed S)
  | _, [] => []
  | w, move :: rest => deeds kind key (w.step kind move) rest ++ (w.deed? key move).toList

/-- The cycle of a key is on its course. -/
structure Follows (kind : Kind S) (w : Works S) (key : Key) (past : List (Deed S)) : Prop where
  course : Course kind past
  along : ∃ cycle, w.running key = some cycle ∧ cycle.Along kind past

/-- The operation of the store that a move makes, with the outcome of its write. -/
def storeCall? (w : Works S) : Move S → Option (StoreCall S × WriteOutcome)
  | .apply key spec write => some (.apply key spec, write)
  | .requestDeletion key now write => some (.requestDeletion key now, write)
  | .act key now write =>
    match w.running key with
    | some (.step action _) => (action.storeCall? key now).map (·, write)
    | _ => none
  | .begin _ | .answer .. | .finish _ => none

omit [Spec S] in
theorem storeCall_move {call : StoreCall S} {write : WriteOutcome}
    (makes : w.storeCall? move = some (call, write)) :
    call.key = move.key ∧ move.write? = some write ∧
      ∀ spec, call = .apply call.key spec → move = .apply move.key spec write := by
  cases move with
  | apply =>
    cases makes
    refine ⟨rfl, rfl, fun spec same => ?_⟩
    cases same
    rfl
  | requestDeletion =>
    cases makes
    exact ⟨rfl, rfl, fun _ => nofun⟩
  | act own now write =>
    simp only [storeCall?] at makes
    split at makes
    next action next runs =>
      obtain ⟨call, acts, same⟩ := Option.map_eq_some_iff.1 makes
      cases same
      refine ⟨Action.storeCall_key acts, rfl, fun spec same => ?_⟩
      rw [same] at acts
      cases action <;> cases acts
    next => cases makes
  | _ => cases makes

/-- A move makes one operation of the store, or leaves the store alone. -/
theorem step_store (kind : Kind S) (w : Works S) (move : Move S) :
    (w.step kind move).engine.store =
      match w.storeCall? move with
      | some (call, write) => (call.perform w.engine.store write).1
      | none => w.engine.store := by
  cases move with
  | apply => rfl
  | requestDeletion => rfl
  | act own now write =>
    simp only [step, storeCall?]
    cases w.running own with
    | none => rfl
    | some cycle =>
      cases cycle with
      | step action next =>
        refine (Engine.perform_store w.engine now write own action).trans ?_
        dsimp only
        cases action.storeCall? own now <;> rfl
      | _ => rfl
  | begin own =>
    simp only [step, storeCall?]
    split <;> rfl
  | finish own =>
    simp only [step, storeCall?]
    split <;> rfl
  | answer own reply =>
    simp only [step, storeCall?]
    split <;> rfl

/-- A move that is about another key leaves a key alone. -/
theorem step_aside (kind : Kind S) (w : Works S) (apart : move.key ≠ key) :
    (w.step kind move).running key = w.running key ∧
    (w.step kind move).engine.store.objects.get? key = w.engine.store.objects.get? key ∧
    (w.step kind move).engine.custody key = w.engine.custody key ∧ w.deed? key move = none := by
  have objects : (w.step kind move).engine.store.objects.get? key = w.engine.store.objects.get? key := by
    rw [step_store]
    split
    next call write makes =>
      have other : key ≠ call.key := (storeCall_move makes).1 ▸ apart.symm
      exact StoreCall.perform_leaves (StoreCall.effect_frame call w.engine.store.objects other) write
    next => rfl
  have authored : ∀ (call : StoreCall S) (write : WriteOutcome), call.SparesIds →
      Custody.mk ((call.perform w.engine.store write).1.objects.recordedId? key)
        (w.engine.unrecorded.get? key) = w.engine.custody key :=
    fun call write spares => congrArg (Custody.mk · _) (StoreCall.perform_spares spares _ write key)
  cases move with
  | apply own spec write =>
    exact ⟨rfl, objects, authored (.apply own spec) write trivial, rfl⟩
  | requestDeletion own now write =>
    exact ⟨rfl, objects, authored (.requestDeletion own now) write trivial, rfl⟩
  | begin own =>
    simp only [step]
    split
    · exact ⟨if_neg (Ne.symm apart), rfl, rfl, rfl⟩
    · exact ⟨rfl, rfl, rfl, rfl⟩
  | finish own =>
    simp only [step]
    split
    · exact ⟨if_neg (Ne.symm apart), rfl, rfl, rfl⟩
    · exact ⟨rfl, rfl, rfl, rfl⟩
  | answer own reply =>
    have undone : w.deed? key (.answer own reply) = none := by
      simp only [deed?]
      split
      · exact if_neg apart
      · rfl
    simp only [step]
    split
    · exact ⟨if_neg (Ne.symm apart), rfl, rfl, undone⟩
    · exact ⟨rfl, rfl, rfl, undone⟩
  | act own now write =>
    have undone : w.deed? key (.act own now write) = none := by
      simp only [deed?]
      split
      · exact if_neg apart
      · rfl
    refine ⟨?_, objects, ?_, undone⟩ <;> simp only [step] <;> split
    · exact if_neg (Ne.symm apart)
    · rfl
    next action next runs => exact Engine.perform_custody_other _ _ (Ne.symm apart) action
    · rfl

/-- What a move is for a key, unless a cycle begins or is put away: an action of the cycle, a reply to it,
an operation of an author on the object, or nothing at all. -/
inductive Seen (w : Works S) (key : Key) (move : Move S) (after : Works S) : Option (Deed S) → Prop
  | acted {action : Action S} {next : action.Reply → Cycle S CycleResult} {now : Time.Timestamp}
    {write : WriteOutcome} (does : move = .act key now write)
    (runs : w.running key = some (.step action next))
    (engine : after.engine = (w.engine.perform { now, write } key action).1)
    (goesOn : after.running key = some (next (w.engine.perform { now, write } key action).2)) :
    Seen w key move after (some (.acted action (w.engine.perform { now, write } key action).2))
  | answered {c : RemoteCall S} {next : c.Reply → Cycle S CycleResult}
    {replies : (call : RemoteCall S) → call.Reply} (does : move = .answer key replies)
    (calls : w.running key = some (.call c next)) (engine : after.engine = w.engine)
    (goesOn : after.running key = some (next (replies c))) :
    Seen w key move after (some (.called c (replies c)))
  | authored {call : StoreCall S} {write : WriteOutcome} (own : move.key = key)
    (byAuthor : move.isAuthored = true) (about : call.key = key) (spares : call.SparesIds)
    (engine : after.engine = { w.engine with store := (call.perform w.engine.store write).1 })
    (stays : after.running key = w.running key) : Seen w key move after none
  | nothing (objects : after.engine.store.objects.get? key = w.engine.store.objects.get? key)
    (custody : after.engine.custody key = w.engine.custody key)
    (stays : after.running key = w.running key) : Seen w key move after none

/-- A reply that no call waits for does nothing. -/
private theorem unasked (kind : Kind S) (free : ¬w.InCall key)
    (replies : (call : RemoteCall S) → call.Reply) :
    w.step kind (.answer key replies) = w ∧ w.deed? key (.answer key replies) = none := by
  rcases runs : w.running key with _ | _ | _ | ⟨c, next⟩
  case some.call => exact absurd ⟨c, next, runs⟩ free
  all_goals simp only [step, deed?, runs, and_self]

/-- A cycle that is not about to act does not act. -/
private theorem unacted (kind : Kind S) (free : ∀ action next, w.running key ≠ some (.step action next))
    (now : Time.Timestamp) (write : WriteOutcome) :
    w.step kind (.act key now write) = w ∧ w.deed? key (.act key now write) = none := by
  rcases runs : w.running key with _ | _ | ⟨action, next⟩ | _
  case some.step => exact absurd runs (free action next)
  all_goals simp only [step, deed?, runs, and_self]

theorem step_seen (kind : Kind S) (goesOn : (w.running key).isSome = true ∨ move ≠ .begin key)
    (stays : move ≠ .finish key) : w.Seen key move (w.step kind move) (w.deed? key move) := by
  by_cases own : move.key = key
  · subst own
    cases move with
    | apply own spec write =>
      have about : (StoreCall.apply own spec).key = own := rfl
      exact .authored rfl rfl about trivial rfl rfl
    | requestDeletion own now write =>
      have about : (StoreCall.requestDeletion (S := S) own now).key = own := rfl
      exact .authored rfl rfl about trivial rfl rfl
    | begin own =>
      obtain ⟨cycle, runs⟩ := Option.isSome_iff_exists.1 (goesOn.resolve_right fun other => other rfl)
      change w.running own = some cycle at runs
      have does : w.step kind (.begin own) = w := by simp only [step, runs]
      rw [does]
      exact .nothing rfl rfl rfl
    | finish own => exact absurd rfl stays
    | answer own replies =>
      rw [Move.key]
      by_cases calls : w.InCall own
      · obtain ⟨c, next, runs⟩ := calls
        have does : w.step kind (.answer own replies) =
            { w with log := .answered own c (replies c) :: w.log }.put own (some (next (replies c))) := by
          simp only [step, runs]
        have done : w.deed? own (.answer own replies) = some (.called c (replies c)) := by
          simp only [deed?, runs, if_true]
        rw [does, done]
        exact .answered rfl runs rfl (if_pos rfl)
      · obtain ⟨does, undone⟩ := unasked kind calls replies
        rw [does, undone]
        exact .nothing rfl rfl rfl
    | act own now write =>
      rw [Move.key]
      by_cases acts : ∃ action next, w.running own = some (.step action next)
      · obtain ⟨action, next, runs⟩ := acts
        have done : w.deed? own (.act own now write) =
            some (.acted action (w.engine.perform { now, write } own action).2) := by
          simp only [deed?, runs, if_true]
        rw [done]
        refine .acted rfl runs ?_ ?_
        · simp only [Works.step, runs]
          rfl
        · simp only [Works.step, runs]
          exact if_pos rfl
      · obtain ⟨does, undone⟩ :=
          unacted kind (fun action next runs => acts ⟨action, next, runs⟩) now write
        rw [does, undone]
        exact .nothing rfl rfl rfl
  · obtain ⟨running, objects, custody, undone⟩ := step_aside kind w own
    rw [undone]
    exact .nothing objects custody running

omit [Spec S] in
theorem Follows.busy (follows : w.Follows kind key past) : (w.running key).isSome = true := by
  obtain ⟨cycle, runs, -⟩ := follows.along
  rw [runs]
  rfl

/-- The cycle of a key stays on its course. -/
theorem Follows.step (follows : w.Follows kind key past) (stays : move ≠ .finish key) :
    (w.step kind move).Follows kind key ((w.deed? key move).toList ++ past) := by
  have seen := step_seen kind (.inl follows.busy) stays
  obtain ⟨course, cycle, runs, along⟩ := follows
  generalize w.deed? key move = deed at seen
  cases seen with
  | acted does ongoing engine goesOn =>
    cases Option.some.inj (runs.symm.trans ongoing)
    exact ⟨⟨along.1, course⟩, _, goesOn, along.2 _⟩
  | answered does calls engine goesOn =>
    cases Option.some.inj (runs.symm.trans calls)
    exact ⟨⟨along.1, course⟩, _, goesOn, along.2 _⟩
  | authored _ _ _ _ _ same => exact ⟨course, cycle, same.trans runs, along⟩
  | nothing _ _ same => exact ⟨course, cycle, same.trans runs, along⟩

/-- What every move keeps while the cycle of a key is under way is kept by a run of moves. -/
theorem Follows.keeps (follows : w.Follows kind key past) (holds : Works S → List (Deed S) → Prop)
    (now : holds w past) {moves : List (Move S)} (one : .finish key ∉ moves)
    (kept : ∀ w past, w.Follows kind key past → holds w past → ∀ move ∈ moves, move ≠ .finish key →
      holds (w.step kind move) ((w.deed? key move).toList ++ past)) :
    (w.run kind moves).Follows kind key (w.deeds kind key moves ++ past) ∧
      holds (w.run kind moves) (w.deeds kind key moves ++ past) := by
  induction moves generalizing w past with
  | nil => exact ⟨follows, now⟩
  | cons move rest ih =>
    have stays : move ≠ .finish key := fun same => one (same ▸ List.mem_cons_self)
    have first := kept w past follows now move List.mem_cons_self stays
    have others := ih (follows.step stays) first (fun member => one (List.mem_cons_of_mem _ member))
      fun w past follows now move member => kept w past follows now move (List.mem_cons_of_mem _ member)
    rw [← List.append_assoc] at others
    exact others

theorem Follows.run (follows : w.Follows kind key past) {moves : List (Move S)}
    (one : .finish key ∉ moves) : (w.run kind moves).Follows kind key (w.deeds kind key moves ++ past) :=
  (follows.keeps (fun _ _ => True) trivial one fun _ _ _ _ _ _ _ => trivial).1

/-- A cycle that begins is at the beginning of its course. -/
theorem follows_begin (idle : w.running key = none) :
    (w.step kind (.begin key)).Follows kind key [] := by
  have does : w.step kind (.begin key) = w.put key (some (reconcile kind)) := by
    simp only [step, idle]
  rw [does]
  exact ⟨trivial, _, if_pos rfl, Cycle.reconcile_along kind⟩

/-- Up to its end a cycle is on its course. -/
theorem follows_cycle (kind : Kind S) (idle : w.running key = none) {moves : List (Move S)}
    (one : .finish key ∉ moves) : (w.run kind (.begin key :: moves)).Follows kind key
      (w.deeds kind key (.begin key :: moves)) :=
  (follows_begin idle).run one

/-- The cycle of a key is on its course, or there is none. -/
def Underway (kind : Kind S) (w : Works S) (key : Key) (past : List (Deed S)) : Prop :=
  (w.running key = none ∧ past = []) ∨ w.Follows kind key past

/-- A move takes the cycle of a key further on its course, lets one begin, or puts away one that has come
to its end. -/
theorem Underway.step (underway : w.Underway kind key past) (move : Move S) :
    ∃ past', (w.step kind move).Underway kind key past' ∧
      (w.Seen key move (w.step kind move) (w.deed? key move) ∧ past' = (w.deed? key move).toList ++ past ∨
        ¬w.InCall key ∧ (w.step kind move).engine = w.engine ∧ past' = []) := by
  rcases underway with ⟨idle, rfl⟩ | follows
  · by_cases begins : move = .begin key
    · subst begins
      refine ⟨[], .inr (follows_begin idle), .inr ⟨?_, ?_, rfl⟩⟩
      · rintro ⟨c, next, calls⟩
        cases idle.symm.trans calls
      · simp only [Works.step, idle]
        rfl
    · by_cases ends : move = .finish key
      · subst ends
        have does : w.step kind (.finish key) = w := by simp only [Works.step, idle]
        rw [does]
        exact ⟨[], .inl ⟨idle, rfl⟩, .inl ⟨.nothing rfl rfl rfl, rfl⟩⟩
      · have seen : w.Seen key move (w.step kind move) (w.deed? key move) :=
          step_seen kind (.inr begins) ends
        have undone : w.deed? key move = none ∧ (w.step kind move).running key = w.running key := by
          generalize w.deed? key move = deed at seen
          cases seen with
          | acted does runs => cases idle.symm.trans runs
          | answered does calls => cases idle.symm.trans calls
          | authored _ _ _ _ _ stays => exact ⟨rfl, stays⟩
          | nothing _ _ stays => exact ⟨rfl, stays⟩
        exact ⟨[], .inl ⟨undone.2.trans idle, rfl⟩, .inl ⟨seen, by rw [undone.1]; rfl⟩⟩
  · by_cases ends : move = .finish key
    · subst ends
      obtain ⟨course, cycle, runs, along⟩ := follows
      cases cycle with
      | done result =>
        have does : w.step kind (.finish key) = w.put key none := by simp only [Works.step, runs]
        rw [does]
        refine ⟨[], .inl ⟨if_pos rfl, rfl⟩, .inr ⟨?_, rfl, rfl⟩⟩
        rintro ⟨c, next, calls⟩
        cases runs.symm.trans calls
      | _ =>
        have does : w.step kind (.finish key) = w := by simp only [Works.step, runs]
        rw [does]
        exact ⟨past, .inr ⟨course, _, runs, along⟩, .inl ⟨.nothing rfl rfl rfl, rfl⟩⟩
    · exact ⟨_, .inr (follows.step ends), .inl ⟨step_seen kind (.inl follows.busy) ends, rfl⟩⟩

omit [Spec S] in
theorem Underway.course (underway : w.Underway kind key past) : Course kind past := by
  rcases underway with ⟨-, rfl⟩ | follows
  · trivial
  · exact follows.course

omit [Spec S] in
/-- A call that is out is warranted. -/
theorem Underway.warranted (underway : w.Underway kind key past) {c : RemoteCall S}
    {next : c.Reply → Cycle S CycleResult} (calls : w.running key = some (.call c next)) :
    c.Warranted kind past := by
  rcases underway with ⟨idle, -⟩ | ⟨-, cycle, runs, along⟩
  · cases idle.symm.trans calls
  · cases runs.symm.trans calls
    exact along.1

/-- A call that is out is answered. -/
theorem Underway.answer (underway : w.Underway kind key past) {c : RemoteCall S}
    {next : c.Reply → Cycle S CycleResult} (calls : w.running key = some (.call c next))
    (replies : (call : RemoteCall S) → call.Reply) :
    (w.step kind (.answer key replies)).engine = w.engine ∧
      (w.step kind (.answer key replies)).Underway kind key (.called c (replies c) :: past) := by
  have does : w.step kind (.answer key replies) =
      { w with log := .answered key c (replies c) :: w.log }.put key (some (next (replies c))) := by
    simp only [Works.step, calls]
  rw [does]
  refine ⟨rfl, .inr ?_⟩
  rcases underway with ⟨idle, -⟩ | ⟨course, cycle, runs, along⟩
  · cases idle.symm.trans calls
  · cases runs.symm.trans calls
    exact ⟨⟨along.1, course⟩, _, if_pos rfl, along.2 _⟩

/-- Nothing is left of a key whose cycle has done certain things: no object, if what it did last says that
there is none, and no identifier aside, if it has just discarded it. -/
structure Cleared (w : Works S) (key : Key) (past : List (Deed S)) : Prop where
  object : Deed.clear past = true → w.engine.store.objects.get? key = none
  aside : ∀ earlier, past = .acted .discard () :: earlier → w.engine.unrecorded.get? key = none

omit [Spec S] in
private theorem Cleared.kept {after : Works S} (cleared : w.Cleared key past)
    (objects : after.engine.store.objects.get? key = w.engine.store.objects.get? key)
    (custody : after.engine.custody key = w.engine.custody key) : after.Cleared key past where
  object clear := objects.trans (cleared.object clear)
  aside earlier same := (congrArg Custody.unrecorded custody).trans (cleared.aside earlier same)

private theorem Cleared.step (cleared : w.Cleared key past) (kind : Kind S)
    (busy : (w.running key).isSome = true) (stays : move ≠ .finish key)
    (alone : move.key = key → move.isAuthored = false) :
    (w.step kind move).Cleared key ((w.deed? key move).toList ++ past) := by
  have seen := step_seen kind (.inl busy) stays
  generalize w.deed? key move = deed at seen
  cases seen with
  | @acted action next now write does runs engine goesOn =>
    have performed := w.engine.perform_custody { now, write } key action rfl
    rw [← engine] at performed
    refine ⟨fun clear => ?_, fun earlier same => ?_⟩
    · rw [engine]
      have known : Deed.clear past = true → w.engine.store.objects.intent? key = none :=
        fun clear => Option.map_eq_none_iff.2 (cleared.object clear)
      exact Option.map_eq_none_iff.1 (Engine.perform_clears now known clear)
    · cases (List.cons.inj same).1
      exact congrArg Custody.unrecorded performed
  | answered does calls engine goesOn =>
    refine ⟨nofun, fun earlier same => ?_⟩
    cases (List.cons.inj same).1
  | authored own byAuthor => cases (alone own).symm.trans byAuthor
  | nothing objects custody => exact cleared.kept objects custody

private theorem Cleared.run (cleared : w.Cleared key past) (follows : w.Follows kind key past)
    {moves : List (Move S)} (one : .finish key ∉ moves)
    (alone : ∀ move ∈ moves, move.key = key → move.isAuthored = false) :
    (w.run kind moves).Cleared key (w.deeds kind key moves ++ past) :=
  (follows.keeps (Cleared · key ·) cleared one fun _ _ follows cleared move member stays =>
    cleared.step kind follows.busy stays (alone move member)).2

/-- Whatever the store and the table of unrecorded identifiers hold, whatever the service answers and
however writes turn out, a cycle makes its calls in one of seven ways, each call is warranted by all that
came before it, and the identifier of a resource that was created is recorded before anything else is
done. If no author acts on its object meanwhile, a cycle that reports it deleted or gone leaves none. -/
theorem keeps_call_discipline (kind : Kind S) (w : Works S) (key : Key) (moves : List (Move S))
    (idle : w.running key = none) (one : .finish key ∉ moves) :
    let deeds := w.deeds kind key (.begin key :: moves)
    let after := w.run kind (.begin key :: moves)
    (Deed.operations deeds).reverse ∈
      [[], [.observe], [.observe, .update], [.lookup], [.lookup, .create], [.delete],
        [.lookup, .delete]] ∧
    (∀ later c reply past, deeds = later ++ .called c reply :: past → c.Warranted kind past) ∧
    (∀ later o id past, deeds = later ++ .called (.create o) (some (.ok id)) :: past →
      (∃ between reply, later = between ++ [.acted (.recordId id) reply]) ∨
        later = [] ∧ ∃ next, after.running key = some (.step (.recordId id) next)) ∧
    ((∀ move ∈ moves, move.key = key → move.isAuthored = false) →
      ∀ outcome, after.Reports key (.ok outcome) →
        (outcome = .gone ∨ outcome = .deleted → after.engine.store.get? key = none) ∧
        (outcome = .deleted → after.engine.unrecorded.get? key = none)) := by
  intro deeds after
  obtain ⟨course, cycle, runs, along⟩ := follows_cycle kind idle one
  refine ⟨course.operations, ?_, ?_, fun alone outcome ends => ?_⟩
  · intro later c reply past split
    change Course kind deeds at course
    rw [split] at course
    exact course.lawful
  · intro later o id past split
    change Course kind deeds at course
    change Cycle.Along kind deeds cycle at along
    rw [split] at course along
    rcases course.created with rfl | recorded
    · refine .inr ⟨rfl, ?_⟩
      cases cycle with
      | done result =>
        cases along with
        | other loose => exact absurd rfl (loose.unowed o id past)
      | call c next => cases along.1
      | step action next =>
        cases along.1 with
        | record_created => exact ⟨next, runs⟩
        | publish loose => exact absurd rfl (loose.unowed o id past)
    · exact .inl recorded
  · have fresh : (w.step kind (.begin key)).Cleared key [] :=
      ⟨fun clear => absurd clear Bool.false_ne_true, fun _ => nofun⟩
    have cleared : after.Cleared key deeds := fresh.run (follows_begin idle) one alone
    cases Option.some.inj (runs.symm.trans ends)
    change CycleResult.Earned deeds (.ok outcome) at along
    generalize deeds = past at along cleared
    cases along with
    | gone => exact ⟨fun _ => cleared.object rfl, nofun⟩
    | deleted => exact ⟨fun _ => cleared.object rfl, fun _ => cleared.aside _ rfl⟩
    | other loose stays =>
      refine ⟨?_, fun same => absurd (congrArg _ same) stays.2⟩
      rintro (same | same)
      · exact absurd (congrArg _ same) stays.1
      · exact absurd (congrArg _ same) stays.2

/-- An address is found to be missing and is created. -/
theorem keeps_call_discipline_address :
    let kind := FloatingIp.service.toKind
    let key : Key := ⟨"floating_ip", "web"⟩
    let w := run kind {} [.apply key { projectId := "p", isp := "BGP", bandwidth := 1 } .written]
    let replies : (c : RemoteCall FloatingIpSpec) → c.Reply
      | .lookup _ => some (.ok none)
      | .create _ => some (.ok "ip-1")
      | .observe .. | .update .. | .delete .. => none
    let act : Move FloatingIpSpec := .act key .epoch .written
    let moves := [act, act, .answer key replies, .answer key replies, act, act, act, act]
    let deeds := w.deeds kind key (.begin key :: moves)
    (w.running key = none ∧ .finish key ∉ moves) ∧
      (Deed.operations deeds).reverse = [.lookup, .create] ∧
      ∀ later c reply past, deeds = later ++ .called c reply :: past → c.Warranted kind past := by
  intro kind key w replies act moves deeds
  have one : .finish key ∉ moves := by
    intro member
    simp only [moves, act, List.mem_cons, reduceCtorEq, List.not_mem_nil, or_self] at member
  exact ⟨⟨rfl, one⟩, by decide, (keeps_call_discipline kind w key moves rfl one).2.1⟩

end Works

end CloudKeeper
