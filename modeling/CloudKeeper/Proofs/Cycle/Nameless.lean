import CloudKeeper.Proofs.Cycle.Afterlife
/-!
What an empty text does where an identifier should be. The store refuses to record it, so a cycle that has
been told it by the service remembers it; and what is remembered comes before everything else, so as long
as the object is wanted every later cycle tries to record it again, fails again, and asks the service for
nothing. This can come about in one way only: the service has to tell it.
-/
namespace CloudKeeper

variable {S α β : Type}

/-- An action recalls an identifier. -/
def Action.Recalls (x : String) : (action : Action S) → action.Reply → Prop
  | .recall, some id => id = x
  | _, _ => False

namespace Cycle

/-- A program is about to record an identifier, and to remember it if it cannot be written. -/
def Records (x : String) (c : Cycle S α) : Prop :=
  ∃ next, c = .step (.recordId x) next ∧ ∀ why, ∃ more, next (.error (.persist why)) = .step (.remember x) more

/-- However a program goes on, it records or remembers an identifier only if it has recalled it or the
service has told it, and what it is told it is about to record. -/
def Tracks (x : String) : Cycle S α → Prop
  | .done _ => True
  | .step action next => action ≠ .recordId x ∧ action ≠ .remember x ∧
    ∀ reply, ¬action.Recalls x reply → (next reply).Tracks x
  | .call c next => ∀ reply, (c.Obtains reply x → (next reply).Records x) ∧
    (¬c.Obtains reply x → (next reply).Tracks x)

variable {x : String}

theorem Records.bind {c : Cycle S α} {next : α → Cycle S β} (records : c.Records x) :
    (c.bind next).Records x := by
  obtain ⟨more, rfl, remembers⟩ := records
  refine ⟨_, rfl, fun why => ?_⟩
  obtain ⟨last, does⟩ := remembers why
  exact ⟨_, congrArg (Cycle.bind · next) does⟩

theorem Tracks.bind {c : Cycle S α} {next : α → Cycle S β} (tracks : c.Tracks x)
    (goesOn : ∀ a, (next a).Tracks x) : (c.bind next).Tracks x := by
  induction c with
  | done a => exact goesOn a
  | step action more ih =>
    exact ⟨tracks.1, tracks.2.1, fun reply other => ih reply (tracks.2.2 reply other)⟩
  | call c more ih =>
    exact fun reply => ⟨fun told => ((tracks reply).1 told).bind,
      fun untold => ih reply ((tracks reply).2 untold)⟩

theorem Tracks.publishing {state : ConditionState} {next : Cycle S α} (tracks : next.Tracks x) :
    (Cycle.publishing state next).Tracks x :=
  ⟨nofun, nofun, fun _ _ => tracks⟩

end Cycle

namespace Reconcile

variable {kind : Kind S} {o : Declared S} {x : String}

private theorem fail_tracks (e : ReconcileError) : (fail e : Cycle S CycleResult).Tracks x := trivial

private theorem finish_tracks (outcome : Outcome) : (finish outcome : Cycle S CycleResult).Tracks x :=
  trivial

private theorem record_records (next : Cycle S CycleResult) : (record x next).Records x :=
  ⟨_, rfl, fun _ => ⟨_, rfl⟩⟩

private theorem record_tracks {id : String} {next : Cycle S CycleResult} (apart : id ≠ x)
    (tracks : next.Tracks x) : (record id next).Tracks x := by
  refine ⟨fun same => apart (Action.recordId.inj same), nofun, ?_⟩
  have remembers : ∀ e, (Cycle.step (.remember id) fun _ => fail e : Cycle S CycleResult).Tracks x :=
    fun e => ⟨nofun, fun same => apart (Action.remember.inj same), fun _ _ => fail_tracks e⟩
  rintro (e | _) -
  · cases e with
    | conflict => exact fail_tracks _
    | notFound => exact remembers _
    | persist => exact remembers _
  · exact ⟨nofun, nofun, fun _ _ => tracks⟩

private theorem calling_tracks {c : RemoteCall S} {next : c.Answer → Cycle S CycleResult}
    (told : ∀ answer, c.Obtains (some (.ok answer)) x → (next answer).Records x)
    (untold : ∀ answer, ¬c.Obtains (some (.ok answer)) x → (next answer).Tracks x) :
    (calling c next).Tracks x := by
  have silent : ¬c.Obtains none x ∧ ∀ e, ¬c.Obtains (some (.error e)) x := by
    cases c <;> exact ⟨id, fun _ => id⟩
  rintro (_ | e | answer)
  · exact ⟨fun obtains => absurd obtains silent.1, fun _ => fail_tracks _⟩
  · exact ⟨fun obtains => absurd obtains (silent.2 e), fun _ => fail_tracks _⟩
  · exact ⟨told answer, untold answer⟩

private theorem validated_tracks {spec : S} {next : Cycle S CycleResult} (tracks : next.Tracks x) :
    (validated kind spec next).Tracks x := by
  unfold validated
  split
  · exact tracks
  · exact fail_tracks _

/-- What is found or created is recorded, as is what is recalled. -/
private theorem create_tracks (wanted : o.isDeletionRequested = false) :
    (create kind o).Tracks x := by
  refine ⟨nofun, nofun, ?_⟩
  rintro (_ | id) other
  · refine validated_tracks (calling_tracks ?_ ?_)
    · rintro (_ | id) obtains
      · exact obtains.elim
      · obtain ⟨-, rfl⟩ := obtains
        exact record_records _
    · rintro (_ | id) untold
      · refine calling_tracks ?_ ?_
        · rintro id rfl
          exact record_records _
        · intro id apart
          exact record_tracks apart (.publishing (.publishing (finish_tracks _)))
      · exact record_tracks (fun same => untold ⟨wanted, same⟩) (finish_tracks _)
  · exact record_tracks other (finish_tracks _)

private theorem found_tracks (r : RemoteResource) : (found kind o r).Tracks x := by
  unfold found
  split
  · exact finish_tracks _
  · exact .publishing (.publishing (finish_tracks _))
  · split
    · exact .publishing (.publishing (finish_tracks _))
    · exact validated_tracks (calling_tracks nofun fun _ _ => .publishing (finish_tracks _))

private theorem absent_tracks (id : String) : (absent kind id).Tracks x := by
  unfold absent
  split
  · exact fail_tracks _
  · refine ⟨nofun, nofun, ?_⟩
    rintro (e | _) -
    · exact fail_tracks _
    · exact .publishing (finish_tracks _)

private theorem observe_tracks (id : String) : (observe kind o id).Tracks x := by
  rintro (_ | e | _ | r)
  · exact ⟨nofun, fun _ => fail_tracks _⟩
  · refine ⟨nofun, fun _ => ?_⟩
    cases e with
    | notFound => exact absent_tracks id
    | _ => exact fail_tracks _
  · exact ⟨nofun, fun _ => absent_tracks id⟩
  · exact ⟨nofun, fun _ => found_tracks r⟩

private theorem release_tracks : (release : Cycle S CycleResult).Tracks x := by
  refine ⟨nofun, nofun, ?_⟩
  rintro (e | _) -
  · exact fail_tracks _
  · exact ⟨nofun, nofun, fun _ _ => finish_tracks _⟩

private theorem delete_tracks (id : String) : (delete o id).Tracks x := by
  refine .publishing ?_
  rintro (_ | e | _)
  · exact ⟨nofun, fun _ => fail_tracks _⟩
  · refine ⟨nofun, fun _ => ?_⟩
    cases e with
    | notFound => exact release_tracks
    | _ => exact fail_tracks _
  · exact ⟨nofun, fun _ => release_tracks⟩

/-- What is found when the object is to be deleted is deleted and not recorded. -/
private theorem finalize_tracks (unwanted : o.isDeletionRequested = true) :
    (finalize kind o).Tracks x := by
  unfold finalize
  split
  · exact delete_tracks _
  · refine ⟨nofun, nofun, ?_⟩
    rintro (_ | id) -
    · refine calling_tracks ?_ ?_
      · rintro (_ | id) obtains
        · exact obtains.elim
        · cases unwanted.symm.trans obtains.1
      · rintro (_ | id) -
        · change (releaseUnknown kind).Tracks x
          unfold releaseUnknown
          split
          · exact fail_tracks _
          · exact release_tracks
        · exact delete_tracks id
    · exact delete_tracks id

/-- A whole cycle tracks every identifier. -/
theorem reconcile_tracks (kind : Kind S) (x : String) : (reconcile kind).Tracks x := by
  refine .bind ⟨nofun, nofun, ?_⟩ fun result => ?_
  · rintro (_ | o) -
    · exact finish_tracks _
    · dsimp only
      split
      case isTrue unwanted => exact finalize_tracks unwanted
      case isFalse wanted =>
        split
        · exact observe_tracks _
        · exact create_tracks (Bool.eq_false_iff.2 wanted)
  · unfold noted
    split
    · trivial
    · trivial
    · trivial
    · exact .publishing trivial

end Reconcile

namespace Works

variable [Spec S] {kind : Kind S} {w : Works S} {key : Key} {move : Move S} {x : String}

/-- A move begins the cycle of a key or puts it away, or it is what is seen of it. -/
theorem step_begins_or_seen (kind : Kind S) (w : Works S) (key : Key) (move : Move S) :
    w.deed? key move = none ∧ (w.step kind move).engine = w.engine ∧
        (∀ c, (w.step kind move).running key = some c → c = reconcile kind ∨ w.running key = some c) ∨
      w.Seen key move (w.step kind move) (w.deed? key move) := by
  by_cases begins : move = .begin key ∧ w.running key = none
  · obtain ⟨rfl, idle⟩ := begins
    have does : w.step kind (.begin key) = w.put key (some (reconcile kind)) := by
      simp only [step, idle]
    refine .inl ⟨rfl, does ▸ rfl, fun c runs => .inl ?_⟩
    rw [does] at runs
    exact (Option.some.inj ((if_pos rfl).symm.trans runs)).symm
  by_cases ends : move = .finish key
  · subst ends
    simp only [step]
    refine .inl ⟨rfl, ?_⟩
    split
    · refine ⟨rfl, fun c runs => ?_⟩
      cases (if_pos rfl).symm.trans runs
    · exact ⟨rfl, fun _ => .inr⟩
  have busy : (w.running key).isSome = true ∨ move ≠ .begin key := by
    by_cases same : move = .begin key
    · exact .inl (Option.isSome_iff_ne_none.2 fun idle => begins ⟨same, idle⟩)
    · exact .inr same
  exact .inr (step_seen kind busy ends)

/-! ## How it is remembered -/

/-- A cycle that is about to act stays so until it does. -/
theorem step_waits (kind : Kind S) {action : Action S} {next : action.Reply → Cycle S CycleResult}
    (runs : w.running key = some (.step action next)) (waits : ∀ now write, move ≠ .act key now write) :
    (w.step kind move).running key = some (.step action next) := by
  by_cases own : move.key = key
  · subst own
    cases move with
    | act own now write => exact absurd rfl (waits now write)
    | apply | requestDeletion => exact runs
    | begin | finish | answer =>
      simp only [Move.key] at runs
      simp only [step, Move.key, runs]
  · exact (step_aside kind w own).1.trans runs

omit [Spec S] in
private theorem not_rests {action : Action S} {next : action.Reply → Cycle S CycleResult}
    (runs : w.running key = some (.step action next)) : ¬w.AtRest key := by
  intro rests
  obtain ⟨result, ends⟩ := rests _ runs
  cases ends

/-- An identifier is remembered at some point of a run. -/
def Remembers (kind : Kind S) (key : Key) (x : String) (w : Works S) (moves : List (Move S)) : Prop :=
  ∃ before after, moves = before ++ after ∧ (w.run kind before).engine.unrecorded.get? key = some x

theorem Remembers.cons {rest : List (Move S)} (remembers : Remembers kind key x (w.step kind move) rest) :
    Remembers kind key x w (move :: rest) := by
  obtain ⟨before, after, rfl, holds⟩ := remembers
  exact ⟨move :: before, after, rfl, holds⟩

/-- A cycle that is about to remember an identifier has done so when it has come to its end. -/
private theorem remembers_of_remember {next : Unit → Cycle S CycleResult}
    (runs : w.running key = some (.step (.remember x) next)) {moves : List (Move S)}
    (rests : (w.run kind moves).AtRest key) : Remembers kind key x w moves := by
  induction moves generalizing w with
  | nil => exact absurd rests (not_rests runs)
  | cons move rest ih =>
    by_cases acts : ∃ now write, move = .act key now write
    · obtain ⟨now, write, rfl⟩ := acts
      refine .cons ⟨[], rest, rfl, ?_⟩
      change (w.step kind (.act key now write)).engine.unrecorded.get? key = some x
      rw [(step_act kind runs now write).1]
      exact (SortedMap.get?_insert ..).trans (if_pos rfl)
    · exact .cons (ih (step_waits kind runs fun now write same => acts ⟨now, write, same⟩) rests)

/-- The store never records an empty text, so a cycle that is about to do that remembers it. -/
private theorem remembers_of_records {c : Cycle S CycleResult} (runs : w.running key = some c)
    (records : c.Records "") {moves : List (Move S)} (rests : (w.run kind moves).AtRest key) :
    Remembers kind key "" w moves := by
  obtain ⟨next, rfl, goesOn⟩ := records
  induction moves generalizing w with
  | nil => exact absurd rests (not_rests runs)
  | cons move rest ih =>
    by_cases acts : ∃ now write, move = .act key now write
    · obtain ⟨now, write, rfl⟩ := acts
      obtain ⟨-, running, -⟩ := step_act kind runs now write
      obtain ⟨more, remembers⟩ := goesOn ("refusing to record an empty external ID for " ++ key.text)
      exact .cons (remembers_of_remember (running.trans (congrArg some remembers)) rests)
    · exact .cons (ih rests (step_waits kind runs fun now write same => acts ⟨now, write, same⟩))

/-- An identifier is not kept for a key, and the cycle of the key, if there is one, has not been told it. -/
structure Untold (w : Works S) (key : Key) (x : String) : Prop where
  free : ¬(w.engine.custody key).Holds x
  tracks : ∀ c, w.running key = some c → c.Tracks x

omit [Spec S] in
/-- An action of a cycle that tracks an identifier does not come upon it where it is not kept. -/
private theorem untold_after {h h' : Custody} {action : Action S} {reply : action.Reply}
    {next : action.Reply → Cycle S CycleResult} (free : ¬h.Holds x) (after : h.After action reply h')
    (tracks : (Cycle.step action next).Tracks x) : ¬h'.Holds x ∧ (next reply).Tracks x := by
  obtain ⟨unrecorded, unremembered, goesOn⟩ := tracks
  have unrecalled : ¬action.Recalls x reply := by
    cases action with
    | «recall» =>
      cases reply with
      | none => exact id
      | some id =>
        rintro rfl
        exact free (.inr after.2.symm)
    | _ => exact id
  refine ⟨Custody.free_after free after ?_, goesOn reply unrecalled⟩
  cases action with
  | «recall» => cases reply <;> exact unrecalled
  | recordId => exact fun same => unrecorded (congrArg Action.recordId same)
  | remember => exact fun same => unremembered (congrArg Action.remember same)
  | _ => exact id

omit [Spec S] in
/-- What is no call obtains nothing. -/
private theorem silent {deed : Option (Deed S)} (uncalled : ∀ c reply, deed ≠ some (.called c reply)) :
    ∀ c reply, deed = some (.called c reply) → ¬c.Obtains reply x :=
  fun c reply does => absurd does (uncalled c reply)

theorem Untold.step (untold : w.Untold key x) (kind : Kind S) (move : Move S) :
    (∃ c reply cycle, w.deed? key move = some (.called c reply) ∧ c.Obtains reply x ∧
        (w.step kind move).running key = some cycle ∧ cycle.Records x) ∨
      (∀ c reply, w.deed? key move = some (.called c reply) → ¬c.Obtains reply x) ∧
        (w.step kind move).Untold key x := by
  obtain ⟨free, tracks⟩ := untold
  obtain ⟨undone, engine, same⟩ | seen := step_begins_or_seen kind w key move
  · refine .inr ⟨silent fun _ _ => undone ▸ nofun, engine ▸ free, fun c runs => ?_⟩
    rcases same c runs with rfl | runs
    · exact Reconcile.reconcile_tracks kind x
    · exact tracks c runs
  generalize w.deed? key move = deed at seen ⊢
  cases seen with
  | @acted action next now write does runs engine goesOn =>
    obtain ⟨free, tracks⟩ := untold_after free (w.engine.perform_custody { now, write } key action rfl)
      (tracks _ runs)
    refine .inr ⟨silent fun _ _ => nofun, engine ▸ free, fun c running => ?_⟩
    cases Option.some.inj (goesOn.symm.trans running)
    exact tracks
  | @answered c next replies does calls engine goesOn =>
    obtain ⟨told, untold⟩ := tracks _ calls (replies c)
    by_cases obtains : c.Obtains (replies c) x
    · exact .inl ⟨c, _, _, rfl, obtains, goesOn, told obtains⟩
    · refine .inr ⟨?_, engine ▸ free, fun cycle running => ?_⟩
      · rintro c' reply ⟨⟩
        exact obtains
      · cases Option.some.inj (goesOn.symm.trans running)
        exact untold obtains
  | authored _ _ _ spares engine same =>
    exact .inr ⟨silent fun _ _ => nofun, custody_authored spares engine ▸ free, fun c runs => tracks c (same ▸ runs)⟩
  | nothing _ custody same =>
    exact .inr ⟨silent fun _ _ => nofun, custody ▸ free, fun c runs => tracks c (same ▸ runs)⟩

/-- An identifier is remembered only if the service has told it. -/
theorem Untold.told (untold : w.Untold key x) {moves : List (Move S)}
    (remembers : Remembers kind key x w moves) :
    ∃ c reply, .called c reply ∈ w.deeds kind key moves ∧ c.Obtains reply x := by
  obtain ⟨before, after, rfl, remembered⟩ := remembers
  induction before generalizing w with
  | nil => exact absurd (.inr remembered) untold.free
  | cons move rest ih =>
    rcases untold.step kind move with ⟨c, reply, _, does, obtains, -⟩ | ⟨-, still⟩
    · exact ⟨c, reply, List.mem_append_right _ (does ▸ List.mem_singleton_self _), obtains⟩
    · obtain ⟨c, reply, member, obtains⟩ := ih still remembered
      exact ⟨c, reply, List.mem_append_left _ member, obtains⟩

/-- An empty text that the service has told is remembered before its cycle ends. -/
theorem Untold.remembers (untold : w.Untold key "") {moves : List (Move S)} {c : RemoteCall S} {reply : c.Reply}
    (calls : .called c reply ∈ w.deeds kind key moves) (obtains : c.Obtains reply "")
    (rests : (w.run kind moves).AtRest key) : Remembers kind key "" w moves := by
  induction moves generalizing w with
  | nil => cases calls
  | cons move rest ih =>
    rcases untold.step kind move with ⟨_, _, cycle, -, -, runs, records⟩ | ⟨silent, still⟩
    · exact .cons (remembers_of_records runs records rests)
    · rcases List.mem_append.1 calls with later | now
      · exact .cons (ih still later rests)
      · exact absurd obtains (silent c reply (Option.mem_toList.1 now))

end Works

/-! ## What it does -/

/-- Whether an action is one that a cycle is left with that has recalled an empty text. -/
def Action.isBarren : Action S → Bool
  | .read | .recall | .publish _ => true
  | .recordId id | .remember id => id.isEmpty
  | .clearId | .remove | .discard => false

/-- What becomes of an action while an empty text is remembered for an object that is wanted. -/
def Action.Fares : (action : Action S) → action.Reply → Prop
  | .read, seen => ∃ o, seen = some o ∧ o.isDeletionRequested = false ∧ o.externalId = none
  | .recall, id => id = some ""
  | .recordId _, result => ∃ why, result = .error (.persist why)
  | _, _ => True

/-- A cycle has failed to record an empty text. -/
def CycleResult.IsBarren (result : CycleResult) : Prop :=
  ∃ why, result = .error (.identityLost "" (.persist why))

/-- However a program goes on while an empty text is remembered, it calls nobody and fails to record it. -/
def Cycle.IsBarren : Cycle S CycleResult → Prop
  | .done result => result.IsBarren
  | .step action next => action.isBarren = true ∧ ∀ reply, action.Fares reply → (next reply).IsBarren
  | .call _ _ => False

theorem Reconcile.reconcile_barren (kind : Kind S) : (reconcile kind).IsBarren := by
  refine ⟨rfl, ?_⟩
  rintro _ ⟨o, rfl, wanted, unrecorded⟩
  simp only [wanted, Bool.false_eq_true, if_false, unrecorded]
  refine ⟨rfl, ?_⟩
  rintro _ rfl
  refine ⟨rfl, ?_⟩
  rintro _ ⟨why, rfl⟩
  exact ⟨rfl, fun _ _ => ⟨rfl, fun _ _ => ⟨why, rfl⟩⟩⟩

/-- An object that is applied is wanted, whether or not that could be written. -/
theorem StoreCall.effect_applied [Spec S] (objects : SortedMap Key (Declared S)) (key : Key) (spec : S) :
    ((StoreCall.apply key spec).effect objects).Leaves fun after =>
      ∃ wish, after.intent? key = some (wish, false) := by
  have put : ∀ o : Declared S, o.isDeletionRequested = false →
      ∃ wish, (objects.insert key o).intent? key = some (wish, false) := by
    intro o wanted
    exact ⟨o.spec, by rw [SortedMap.intent_insert, Declared.intent, wanted]⟩
  simp only [effect]
  cases found : objects.get? key with
  | none => exact ⟨put _ rfl, put _ rfl⟩
  | some o =>
    by_cases changes : (!Spec.same o.spec spec || o.isDeletionRequested) = true
    · simp only [changes, if_true]
      exact ⟨put _ rfl, put _ rfl⟩
    · simp only [if_neg changes]
      simp only [Bool.not_eq_true, Bool.or_eq_false_iff] at changes
      exact ⟨o.spec, by rw [SortedMap.intent?, found, Option.map_some, Declared.intent, changes.2]⟩

/-- The object of a key is wanted, and an empty text is all that is remembered of its resource. -/
def Engine.IsBarren (e : Engine S) (key : Key) : Prop :=
  ∃ spec, e.Wants key spec ⟨none, some ""⟩

theorem Engine.IsBarren.perform [Spec S] {e : Engine S} {key : Key} (barren : e.IsBarren key)
    (now : Time.Timestamp) (write : WriteOutcome) {action : Action S} (idle : action.isBarren = true) :
    action.Fares (e.perform { now, write } key action).2 ∧
      (e.perform { now, write } key action).1.IsBarren key := by
  obtain ⟨spec, wants⟩ := barren
  cases action with
  | read =>
    obtain ⟨o, found, -, wanted, unrecorded⟩ := wants.declared
    exact ⟨⟨o, found, wanted, unrecorded⟩, spec, wants⟩
  | «recall» => exact ⟨congrArg Prod.snd (wants.recall { now, write }), spec, wants⟩
  | publish state => exact ⟨trivial, spec, wants.publish now write state⟩
  | remember id =>
    obtain rfl := String.isEmpty_iff.1 idle
    have custody := e.perform_custody { now, write } key (.remember "") rfl
    rw [wants.custody] at custody
    exact ⟨trivial, spec, custody, wants.intent⟩
  | recordId id =>
    obtain rfl := String.isEmpty_iff.1 idle
    exact ⟨⟨_, rfl⟩, spec, wants⟩
  | _ => cases idle

namespace Works

variable [Spec S] {kind : Kind S} {w : Works S} {key : Key} {move : Move S}

/-- An empty text is remembered for an object that is wanted, whose cycle, if there is one, can only fail. -/
structure Barren (w : Works S) (key : Key) : Prop where
  engine : w.engine.IsBarren key
  running : ∀ c, w.running key = some c → c.IsBarren

/-- An author who does not request a deletion leaves an object wanted. -/
private theorem wanted_authored (kind : Kind S) {spec : S}
    (wanted : w.engine.store.objects.intent? key = some (spec, false))
    (own : move.key = key) (byAuthor : move.isAuthored = true)
    (asks : ∀ now write, move ≠ .requestDeletion key now write) :
    ∃ wish, (w.step kind move).engine.store.objects.intent? key = some (wish, false) := by
  subst own
  cases move with
  | apply own spec write =>
    exact StoreCall.perform_leaves (StoreCall.effect_applied w.engine.store.objects own spec) write
  | requestDeletion own now write => exact absurd rfl (asks now write)
  | _ => cases byAuthor

theorem Barren.step (barren : w.Barren key) (kind : Kind S)
    (asks : ∀ now write, move ≠ .requestDeletion key now write) :
    (w.step kind move).Barren key ∧ ∀ c reply, w.deed? key move ≠ some (.called c reply) := by
  obtain ⟨engine, running⟩ := barren
  obtain ⟨undone, engine', same⟩ | seen := step_begins_or_seen kind w key move
  · refine ⟨⟨engine' ▸ engine, fun c runs => ?_⟩, fun _ _ => undone ▸ nofun⟩
    rcases same c runs with rfl | runs
    · exact Reconcile.reconcile_barren kind
    · exact running c runs
  obtain ⟨spec, wants⟩ := engine
  generalize w.deed? key move = deed at seen ⊢
  cases seen with
  | @acted action next now write does runs engine' goesOn =>
    obtain ⟨idle, fails⟩ := running _ runs
    obtain ⟨fares, barren⟩ := Engine.IsBarren.perform ⟨spec, wants⟩ now write idle
    refine ⟨⟨engine' ▸ barren, fun c ongoing => ?_⟩, fun _ _ => nofun⟩
    cases Option.some.inj (goesOn.symm.trans ongoing)
    exact fails _ fares
  | answered does calls engine' goesOn => exact (running _ calls).elim
  | authored own byAuthor _ spares engine' same =>
    obtain ⟨wish, intent⟩ := wanted_authored kind wants.intent own byAuthor asks
    have custody := (custody_authored spares engine').trans wants.custody
    exact ⟨⟨⟨wish, custody, intent⟩, fun c runs => running c (same ▸ runs)⟩, fun _ _ => nofun⟩
  | nothing objects custody same =>
    have intent := (SortedMap.intent_of_get objects).trans wants.intent
    exact ⟨⟨⟨spec, custody.trans wants.custody, intent⟩, fun c runs => running c (same ▸ runs)⟩, fun _ _ => nofun⟩

/-- Until its deletion is requested, an object for which an empty text is remembered stays as it is, and the service
is asked for nothing. -/
theorem Barren.run (barren : w.Barren key) {moves : List (Move S)}
    (asks : ∀ now write, .requestDeletion key now write ∉ moves) :
    (w.run kind moves).Barren key ∧ ∀ c reply, .called c reply ∉ w.deeds kind key moves := by
  induction moves generalizing w with
  | nil => exact ⟨barren, fun _ _ => List.not_mem_nil⟩
  | cons move rest ih =>
    have first : ∀ now write, move ≠ .requestDeletion key now write :=
      fun now write same => asks now write (same ▸ List.mem_cons_self)
    obtain ⟨still, uncalled⟩ := barren.step kind first
    obtain ⟨ends, silent⟩ := ih still fun now write member => asks now write (List.mem_cons_of_mem _ member)
    refine ⟨ends, fun c reply calls => ?_⟩
    rcases List.mem_append.1 calls with later | now
    · exact silent c reply later
    · exact uncalled c reply (Option.mem_toList.1 now)

end Works

end CloudKeeper
