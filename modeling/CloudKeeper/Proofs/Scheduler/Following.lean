import CloudKeeper.Proofs.Scheduler.Controller
import CloudKeeper.Proofs.SortedMap
/-!
What every turn of a controller preserves about each key. As long as the event loop has something to
learn about a key nothing else is needed; otherwise a worker, the ready channel or a timer has the key, or
its latest cycle accounts for it. A cycle that has read an older wish of the author is accounted for by
what will trigger the key again.
-/
namespace CloudKeeper.Controller

variable {S : Type} {kind : Kind S} {config : SchedulerConfig} {c after : Controller S}
  {key other : Key}

/-- A trigger of the key is still to come: the event loop is about to list the store, has the key on its
list, or has an announcement about it to read. -/
def Coming (c : Controller S) (key : Key) : Prop :=
  c.watch = .listing ∨ (∃ keys, c.watch = .triggering keys ∧ key ∈ keys) ∨
    ∃ event ∈ c.unread, event.key = key

/-- The latest unread announcement about a key. -/
def latest? (c : Controller S) (key : Key) : Option Event :=
  c.unread.find? fun event => decide (event.key = key)

/-- A wish that a cycle has read is the present one, or its change will lead to another cycle, unless the
trigger has been left to a backoff timer. -/
def Heeds (c : Controller S) (key : Key) (read : S × Bool) (passedOver : Bool) : Prop :=
  ∀ wish, c.intent? key = some wish → read = wish ∨ c.Coming key ∨ c.queue.Marked key ∨
    key ∈ c.waiting ∨ passedOver = true

/-- A cycle under way is about to begin, or has read its object. -/
def Follows (kind : Kind S) (c : Controller S) (key : Key) (ongoing : Ongoing S) : Prop :=
  (ongoing.read = none ∧ ongoing.cycle = reconcile kind) ∨
    ∃ read, ongoing.read = some read ∧ ongoing.cycle.Earns false ∧
      c.Heeds key read ongoing.passedOver

/-- The latest cycle of a key accounts for its not being looked after. -/
def Accounted (c : Controller S) (key : Key) : Prop :=
  ∃ report, c.reports key = some report ∧
    (report.ending = .parked ∧ (report.read = c.intent? key ∨ report.passedOver = true) ∨
      report.ending = .overflowed)

/-- What every turn preserves about a key. -/
structure Followed (kind : Kind S) (c : Controller S) (key : Key) : Prop where
  consistent : c.queue.Consistent key
  handed : ∀ entry, c.queue.entries.get? key = some entry → entry.inFlight = true → c.InHands key
  /-- What is there has not been announced as removed, as far as the event loop will ever know. -/
  announced : c.intent? key ≠ none → c.latest? key ≠ some ⟨.removed, key⟩
  known : c.intent? key ≠ none → c.Coming key ∨ ∃ entry, c.queue.entries.get? key = some entry
  followed : ∀ ongoing, c.running key = some ongoing → c.Follows kind key ongoing
  kept : c.intent? key ≠ none → c.Coming key ∨ c.InHands key ∨ c.queue.Queued key ∨
    c.queue.Armed key ∨ c.Accounted key

/-- What every turn preserves. -/
structure Sound (kind : Kind S) (c : Controller S) : Prop where
  place : c.seen ≤ c.engine.store.sent.length
  followed : ∀ key, c.Followed kind key

/-- A turn leaves alone what matters about a key. -/
structure Spares (c after : Controller S) (key : Key) : Prop where
  queue : c.queue.Spares after.queue key
  wish : after.intent? key = c.intent? key
  coming : c.Coming key → after.Coming key
  latest : c.latest? key ≠ some ⟨.removed, key⟩ → after.latest? key ≠ some ⟨.removed, key⟩
  waiting : key ∈ c.waiting → key ∈ after.waiting
  running : after.running key = c.running key
  reports : after.reports key = c.reports key

namespace Spares

theorem inHands (spares : c.Spares after key) (handed : c.InHands key) : after.InHands key := by
  rcases handed with waits | runs
  · exact .inl (spares.waiting waits)
  · refine .inr ?_
    rw [spares.running]
    exact runs

theorem heeds {read : S × Bool} {passedOver : Bool} (spares : c.Spares after key)
    (heeds : c.Heeds key read passedOver) : after.Heeds key read passedOver := by
  intro wish wants
  rw [spares.wish] at wants
  rcases heeds wish wants with same | coming | marked | waits | passed
  · exact .inl same
  · exact .inr (.inl (spares.coming coming))
  · exact .inr (.inr (.inl (spares.queue.marked marked)))
  · exact .inr (.inr (.inr (.inl (spares.waiting waits))))
  · exact .inr (.inr (.inr (.inr passed)))

theorem accounted (spares : c.Spares after key) (accounted : c.Accounted key) :
    after.Accounted key := by
  unfold Accounted
  rw [spares.reports, spares.wish]
  exact accounted

theorem followed (spares : c.Spares after key) (followed : c.Followed kind key) :
    after.Followed kind key where
  consistent := spares.queue.consistent followed.consistent
  handed entry found flies := by
    rw [spares.queue.entries] at found
    exact spares.inHands (followed.handed entry found flies)
  announced there := by
    rw [spares.wish] at there
    exact spares.latest (followed.announced there)
  known there := by
    rw [spares.wish] at there
    rw [spares.queue.entries]
    exact (followed.known there).imp spares.coming id
  followed ongoing runs := by
    rw [spares.running] at runs
    rcases followed.followed ongoing runs with fresh | ⟨read, hasRead, earns, heeds⟩
    · exact .inl fresh
    · exact .inr ⟨read, hasRead, earns, spares.heeds heeds⟩
  kept there := by
    rw [spares.wish] at there
    rcases followed.kept there with coming | handed | queued | armed | accounted
    · exact .inl (spares.coming coming)
    · exact .inr (.inl (spares.inHands handed))
    · exact .inr (.inr (.inl (spares.queue.queued queued)))
    · exact .inr (.inr (.inr (.inl (spares.queue.armed armed))))
    · exact .inr (.inr (.inr (.inr (spares.accounted accounted))))

end Spares

/-- While a trigger of the key is still to come, little else has to be known about it. -/
theorem Followed.of_coming (followed : c.Followed kind key) (consistent : after.queue.Consistent key)
    (handed : ∀ entry, after.queue.entries.get? key = some entry → entry.inFlight = true →
      after.InHands key)
    (latest : after.intent? key ≠ none → after.latest? key ≠ some ⟨.removed, key⟩)
    (coming : after.intent? key ≠ none → after.Coming key) (running : after.running = c.running) :
    after.Followed kind key where
  consistent := consistent
  handed := handed
  announced := latest
  known there := .inl (coming there)
  followed ongoing runs := by
    rw [running] at runs
    rcases followed.followed ongoing runs with fresh | ⟨read, hasRead, earns, -⟩
    · exact .inl fresh
    · refine .inr ⟨read, hasRead, earns, fun wish wants => .inr (.inl (coming ?_))⟩
      rw [wants]
      exact Option.some_ne_none wish
  kept there := .inl (coming there)

section Tells

/-- What the store tells about a key, the event loop has still to read. -/
theorem Sound.tells (sound : c.Sound kind) {engine : Engine S}
    (tells : c.engine.store.Tells key engine.store) :
    ({ c with engine } : Controller S).Sound kind := by
  rcases tells with ⟨sent, wishes⟩ | ⟨event, own, sent, wishes, removed⟩
  · have unread : ({ c with engine } : Controller S).unread = c.unread := by
      simp only [Controller.unread, sent]
    refine ⟨?_, fun other => ?_⟩
    · change c.seen ≤ engine.store.sent.length
      rw [sent]
      exact sound.place
    · have spares : c.Spares { c with engine } other := by
        refine ⟨.refl _ _, wishes other, ?_, ?_, id, rfl, rfl⟩
        · unfold Coming
          rw [unread]
          exact id
        · unfold latest?
          rw [unread]
          exact id
      exact spares.followed (sound.followed other)
  · have unread : ({ c with engine } : Controller S).unread = event :: c.unread := by
      have length : (event :: c.engine.store.sent).length - c.seen =
          (c.engine.store.sent.length - c.seen) + 1 := Nat.succ_sub sound.place
      simp only [Controller.unread, sent, length, List.take_succ_cons]
    refine ⟨?_, fun other => ?_⟩
    · change c.seen ≤ engine.store.sent.length
      rw [sent]
      exact Nat.le_succ_of_le sound.place
    by_cases same : other = key
    · subst same
      have followed := sound.followed other
      refine followed.of_coming followed.consistent followed.handed ?_
        (fun _ => .inr (.inr ⟨event, ?_, own⟩)) rfl
      · intro there latest
        unfold latest? at latest
        simp only [unread, List.find?_cons, own, decide_true] at latest
        exact there (removed (congrArg Event.change (Option.some.inj latest)))
      · rw [unread]
        exact List.mem_cons_self
    · have spares : c.Spares { c with engine } other := by
        refine ⟨.refl _ _, wishes other same, ?_, ?_, id, rfl, rfl⟩
        · rintro (listing | listed | ⟨earlier, member, about⟩)
          · exact .inl listing
          · exact .inr (.inl listed)
          · refine .inr (.inr ⟨earlier, ?_, about⟩)
            rw [unread]
            exact List.mem_cons_of_mem event member
        · have apart : ¬event.key = other := fun about => same (about.symm.trans own)
          unfold latest?
          simp only [unread, List.find?_cons, apart, decide_false]
          exact id
      exact spares.followed (sound.followed other)

end Tells

section Look

/-- A trigger that is left to a timer changes nothing but that the cycle under way has been passed
over. -/
private theorem followed_heldBack (followed : c.Followed kind key)
    (held : c.queue.holdsBack c.now key = true) (spares : c.queue.Spares after.queue key)
    (armed : after.queue.Armed key) (handed : c.InHands key → after.InHands key)
    (latest : after.intent? key ≠ none → after.latest? key ≠ some ⟨.removed, key⟩)
    (running : after.running = c.passOver key) : after.Followed kind key where
  consistent := spares.consistent followed.consistent
  handed entry found flies := by
    rw [spares.entries] at found
    exact handed (followed.handed entry found flies)
  announced := latest
  known _ := by
    obtain ⟨entry, found, -⟩ := armed
    exact .inr ⟨entry, found⟩
  followed ongoing runs := by
    rw [running, passOver, if_pos ⟨rfl, held⟩] at runs
    obtain ⟨before, ran, rfl⟩ := Option.map_eq_some_iff.1 runs
    rcases followed.followed before ran with ⟨unread, fresh⟩ | ⟨read, hasRead, earns, -⟩
    · exact .inl ⟨unread, fresh⟩
    · exact .inr ⟨read, hasRead, earns, fun _ _ => .inr (.inr (.inr (.inr rfl)))⟩
  kept _ := .inr (.inr (.inr (.inl armed)))

/-- A trigger that is not left to a timer queues the key, or marks it for the time after its cycle. -/
private theorem followed_marked {base : QueueEntry} (followed : c.Followed kind key)
    (consistent : after.queue.Consistent key)
    (marked : after.queue.entries.get? key = some base.triggered)
    (flying : base.inFlight = true → after.InHands key)
    (latest : after.intent? key ≠ none → after.latest? key ≠ some ⟨.removed, key⟩)
    (running : after.running key = c.running key) : after.Followed kind key := by
  obtain ⟨sameFlight, -, -, marks⟩ := WorkQueue.triggered_eq base
  refine ⟨consistent, fun entry found flies => ?_, latest, fun _ => .inr ⟨_, marked⟩,
    fun ongoing runs => ?_, fun _ => .inr ?_⟩
  · cases Option.some.inj (marked.symm.trans found)
    exact flying (sameFlight.symm.trans flies)
  · rw [running] at runs
    rcases followed.followed ongoing runs with fresh | ⟨read, hasRead, earns, -⟩
    · exact .inl fresh
    · exact .inr ⟨read, hasRead, earns, fun _ _ => .inr (.inr (.inl ⟨_, marked, marks⟩))⟩
  · by_cases flies : base.inFlight = true
    · exact .inl (flying flies)
    · have queued : base.triggered.queued = true := by rw [QueueEntry.triggered, if_neg flies]
      exact .inr (.inl ⟨_, marked, queued, consistent.sent _ marked queued⟩)

/-- After a trigger the key is tracked, and a worker, the ready channel or a timer has it. -/
private theorem followed_triggered (followed : c.Followed kind key)
    (queue : after.queue = c.queue.add c.now key)
    (latest : after.intent? key ≠ none → after.latest? key ≠ some ⟨.removed, key⟩)
    (waiting : after.waiting = c.waiting) (running : after.running = c.passOver key) :
    after.Followed kind key := by
  have handed : c.InHands key → after.InHands key := by
    unfold InHands
    rw [waiting, running, passOver]
    refine Or.imp id fun runs => ?_
    split
    · rw [Option.isSome_map]
      exact runs
    · exact runs
  obtain ⟨consistent, does⟩ := WorkQueue.add_cases c.now followed.consistent
  rw [← queue] at consistent does
  rcases does with ⟨held, spares, armed⟩ | ⟨free, marked⟩
  · exact followed_heldBack followed held spares armed handed latest running
  · refine followed_marked followed consistent marked ?_ latest ?_
    · cases found : c.queue.entries.get? key with
      | none => nofun
      | some entry => exact fun flies => handed (followed.handed entry found flies)
    · rw [running, passOver, if_neg]
      rintro ⟨-, held⟩
      rw [free] at held
      cases held

/-- Reading announcements away from the far end leaves the latest one of a key the latest. -/
private theorem latest_prefix {events : List Event}
    (split : c.unread = after.unread ++ events) (latest : c.latest? key ≠ some ⟨.removed, key⟩) :
    after.latest? key ≠ some ⟨.removed, key⟩ := by
  intro removed
  refine latest ?_
  unfold latest? at removed ⊢
  rw [split, List.find?_append, removed]
  rfl

/-- The announcements that are unread after some more have been read or lost. -/
private theorem unread_split (store : after.engine.store = c.engine.store) (seen : c.seen ≤ after.seen) :
    c.unread = after.unread ++ c.unread.drop (c.engine.store.sent.length - after.seen) := by
  have shorter : min (c.engine.store.sent.length - after.seen) (c.engine.store.sent.length - c.seen) =
      c.engine.store.sent.length - after.seen := Nat.min_eq_left (Nat.sub_le_sub_left seen _)
  have kept : after.unread = c.unread.take (c.engine.store.sent.length - after.seen) := by
    rw [unread, unread, List.take_take, shorter, store]
  rw [kept, List.take_append_drop]

/-- The announcement that is read is the oldest one. -/
private theorem unread_read {event : Event} {rest : List Event}
    (found : (Event.pending c.engine.store.sent c.seen).lost = 0)
    (events : (Event.pending c.engine.store.sent c.seen).events = event :: rest) :
    c.seen < c.engine.store.sent.length ∧ ∀ after : Controller S,
      after.engine.store = c.engine.store → after.seen = c.seen + 1 →
        c.unread = after.unread ++ [event] := by
  have near : min (c.engine.store.sent.length - c.seen) Event.capacity =
      c.engine.store.sent.length - c.seen := Nat.min_eq_left (Nat.sub_eq_zero_iff_le.1 found)
  have ordered : c.unread = rest.reverse ++ [event] := by
    simp only [Event.pending, near] at events
    rw [unread, ← List.reverse_reverse (List.take _ _), events, List.reverse_cons]
  have length : c.engine.store.sent.length - c.seen = rest.length + 1 := by
    have measured := congrArg List.length ordered
    simp only [unread, List.length_take, List.length_append, List.length_reverse,
      List.length_singleton] at measured
    omega
  refine ⟨by omega, fun after store seen => ?_⟩
  have split := unread_split store (Nat.le_of_lt (Nat.lt_of_lt_of_eq (Nat.lt_succ_self _) seen.symm))
  have last : c.engine.store.sent.length - after.seen = rest.reverse.length := by
    rw [seen, List.length_reverse]
    omega
  rw [last, ordered, List.drop_left] at split
  rw [ordered]
  exact split

/-- Whatever is told of another key leaves a key alone. -/
private theorem spares_received {event : Event} (apart : other ≠ event.key)
    (split : c.unread = ({ c.receive event with seen := c.seen + 1 } : Controller S).unread ++ [event])
    (watch : c.watch = .reading) :
    c.Spares { c.receive event with seen := c.seen + 1 } other := by
  obtain ⟨change, key⟩ := event
  have coming : ∀ after : Controller S, after.watch = c.watch →
      c.unread = after.unread ++ [⟨change, key⟩] → c.Coming other → after.Coming other := by
    rintro after watches unread (listing | ⟨keys, listed, -⟩ | ⟨earlier, member, about⟩)
    · rw [watch] at listing
      cases listing
    · rw [watch] at listed
      cases listed
    · rw [unread] at member
      rcases List.mem_append.1 member with later | last
      · exact .inr (.inr ⟨earlier, later, about⟩)
      · cases List.mem_singleton.1 last
        exact absurd about.symm apart
  cases change with
  | removed =>
    exact ⟨WorkQueue.forget_spares apart, rfl, coming _ rfl split, latest_prefix split, id, rfl, rfl⟩
  | applied =>
    exact ⟨WorkQueue.add_spares apart, rfl, coming _ rfl split, latest_prefix split, id,
      passOver_other apart, rfl⟩
  | deletionRequested =>
    exact ⟨WorkQueue.add_spares apart, rfl, coming _ rfl split, latest_prefix split, id,
      passOver_other apart, rfl⟩

/-- After an announcement has been read, its key is followed. -/
private theorem followed_received {event : Event} (followed : c.Followed kind event.key)
    (split : c.unread = ({ c.receive event with seen := c.seen + 1 } : Controller S).unread ++ [event]) :
    ({ c.receive event with seen := c.seen + 1 } : Controller S).Followed kind event.key := by
  obtain ⟨change, key⟩ := event
  cases change with
  | removed =>
    have untracked : (c.queue.forget key).entries.get? key = none := WorkQueue.get?_forget c.queue key
    refine followed.of_coming (WorkQueue.consistent_of_untracked untracked) (fun entry found => ?_)
      (fun there => latest_prefix split (followed.announced there)) (fun there => ?_) rfl
    · cases untracked.symm.trans found
    · -- the removal is not the latest announcement of an object that is there
      cases latest : Controller.latest? { c.receive ⟨.removed, key⟩ with seen := c.seen + 1 } key with
      | some later =>
        unfold latest? at latest
        have about := List.find?_some latest
        exact .inr (.inr ⟨later, List.mem_of_find?_eq_some latest, of_decide_eq_true about⟩)
      | none =>
        refine absurd ?_ (followed.announced there)
        unfold latest? at latest ⊢
        rw [split, List.find?_append, latest]
        simp only [List.find?_cons, decide_true, Option.none_or]
  | applied =>
    exact followed_triggered followed rfl
      (fun there => latest_prefix split (followed.announced there)) rfl rfl
  | deletionRequested =>
    exact followed_triggered followed rfl
      (fun there => latest_prefix split (followed.announced there)) rfl rfl

theorem Sound.look (sound : c.Sound kind) : c.look.Sound kind := by
  unfold Controller.look
  split
  case h_1 listing =>
    refine ⟨sound.place, fun key => ?_⟩
    have followed := sound.followed key
    refine followed.of_coming followed.consistent followed.handed followed.announced
      (fun there => .inr (.inl ⟨_, rfl, ?_⟩)) rfl
    obtain ⟨wish, wants⟩ := Option.ne_none_iff_exists'.1 there
    obtain ⟨o, found, -⟩ := Option.map_eq_some_iff.1 wants
    exact SortedMap.mem_keys_of_get found
  case h_2 listed =>
    refine ⟨sound.place, fun key => ?_⟩
    have spares : c.Spares { c with watch := .reading } key := by
      refine ⟨.refl _ _, rfl, ?_, id, id, rfl, rfl⟩
      rintro (listing | ⟨keys, some_, member⟩ | unread)
      · rw [listed] at listing
        cases listing
      · rw [listed] at some_
        cases some_
        cases member
      · exact .inr (.inr unread)
    exact spares.followed (sound.followed key)
  case h_3 own keys listed =>
    refine ⟨sound.place, fun key => ?_⟩
    by_cases same : key = own
    · subst same
      exact followed_triggered (sound.followed key) rfl (sound.followed key).announced rfl rfl
    · have spares : c.Spares { c.trigger own with watch := .triggering keys } key := by
        refine ⟨WorkQueue.add_spares same, rfl, ?_, id, id, passOver_other same, rfl⟩
        rintro (listing | ⟨list, isList, member⟩ | unread)
        · rw [listed] at listing
          cases listing
        · rw [listed] at isList
          cases isList
          exact .inr (.inl ⟨keys, rfl, (List.mem_cons.1 member).resolve_left same⟩)
        · exact .inr (.inr unread)
      exact spares.followed (sound.followed key)
  case h_4 watch =>
    dsimp only
    split
    case isTrue found =>
      split
      · exact sound
      case h_2 event rest events =>
        obtain ⟨place, splits⟩ := unread_read found events
        have split : c.unread = ({ c.receive event with seen := c.seen + 1 } : Controller S).unread ++
            [event] := by
          refine splits _ ?_ rfl
          unfold receive
          dsimp only
          split <;> rfl
        refine ⟨?_, fun key => ?_⟩
        · unfold receive
          dsimp only
          split <;> exact place
        · by_cases same : key = event.key
          · subst same
            exact followed_received (sound.followed _) split
          · exact (spares_received same split watch).followed (sound.followed key)
    case isFalse =>
      have place := sound.place
      have bound : c.seen + (Event.pending c.engine.store.sent c.seen).lost ≤
          c.engine.store.sent.length := by
        simp only [Event.pending]
        omega
      generalize (Event.pending c.engine.store.sent c.seen).lost = lost at bound ⊢
      refine ⟨bound, fun key => ?_⟩
      · have split : c.unread = Controller.unread { c with seen := c.seen + lost, watch := .listing } ++
            _ := unread_split rfl (Nat.le_add_right c.seen lost)
        have followed := sound.followed key
        exact followed.of_coming followed.consistent followed.handed
          (fun there => latest_prefix split (followed.announced there)) (fun _ => .inl rfl) rfl

end Look

section Cycles

private theorem put_spares {ongoing : Option (Ongoing S)} (apart : other ≠ key) :
    c.Spares (c.put key ongoing) other :=
  ⟨.refl _ _, rfl, id, id, id, if_neg apart, rfl⟩

/-- A hand-out takes the key into the hands of a worker. -/
private theorem sound_handOut (sound : c.Sound kind) {queue : WorkQueue} {hands : Option Key}
    (next : c.queue.next = (queue, hands)) :
    ({ c with queue, waiting := hands.toList ++ c.waiting } : Controller S).Sound kind := by
  refine ⟨sound.place, fun key => ?_⟩
  cases hands with
  | none =>
    have spares : c.Spares { c with queue } key :=
      ⟨WorkQueue.next_none next key, rfl, id, id, id, rfl, rfl⟩
    exact spares.followed (sound.followed key)
  | some own =>
    by_cases same : key = own
    · subst same
      have followed := sound.followed key
      obtain ⟨consistent, entry, -, -, started⟩ := WorkQueue.next_cases followed.consistent next
      have waits : key ∈ (some key).toList ++ c.waiting := List.mem_cons_self
      refine ⟨consistent, fun _ _ _ => .inl waits, followed.announced, fun _ => .inr ⟨_, started⟩,
        fun ongoing runs => ?_, fun _ => .inr (.inl (.inl waits))⟩
      rcases followed.followed ongoing runs with fresh | ⟨read, hasRead, earns, -⟩
      · exact .inl fresh
      · exact .inr ⟨read, hasRead, earns, fun _ _ => .inr (.inr (.inr (.inl waits)))⟩
    · have spares : c.Spares { c with queue, waiting := (some own).toList ++ c.waiting } key :=
        ⟨WorkQueue.next_spares next same, rfl, id, id, List.mem_append_right _, rfl, rfl⟩
      exact spares.followed (sound.followed key)

/-- A cycle that goes on follows its key. -/
private theorem sound_put (sound : c.Sound kind) {ongoing : Ongoing S}
    (follows : c.Follows kind key ongoing) : (c.put key (some ongoing)).Sound kind := by
  refine ⟨sound.place, fun other => ?_⟩
  by_cases same : other = key
  · subst same
    have followed := sound.followed other
    have runs : (c.put other (some ongoing)).InHands other := by
      refine .inr ?_
      rw [put_own]
      rfl
    refine ⟨followed.consistent, fun _ _ _ => runs, followed.announced, followed.known,
      fun own isOwn => ?_, fun _ => .inr (.inl runs)⟩
    cases put_own.symm.trans isOwn
    exact follows
  · exact (put_spares same).followed (sound.followed other)

private theorem sound_begin (sound : c.Sound kind) :
    ({ c with waiting := c.waiting.erase key }.put key (some { cycle := reconcile kind })).Sound
      kind := by
  refine ⟨sound.place, fun other => ?_⟩
  by_cases same : other = key
  · subst same
    have followed := sound.followed other
    have runs : (put { c with waiting := c.waiting.erase other } other
        (some { cycle := reconcile kind })).InHands other := by
      refine .inr ?_
      rw [put_own]
      rfl
    refine ⟨followed.consistent, fun _ _ _ => runs, followed.announced, followed.known,
      fun own isOwn => ?_, fun _ => .inr (.inl runs)⟩
    cases put_own.symm.trans isOwn
    exact .inl ⟨rfl, rfl⟩
  · have spares : c.Spares { c with waiting := c.waiting.erase key } other :=
      ⟨.refl _ _, rfl, id, id, (List.mem_erase_of_ne same).2, rfl, rfl⟩
    exact (put_spares same).followed (spares.followed (sound.followed other))

/-- A report accounts for its key, or the key is looked after. -/
private theorem followed_ended {ongoing : Ongoing S} {result : CycleResult}
    (followed : c.Followed kind key) (forgets : result.Forgets → c.intent? key = none)
    (heeds : c.intent? key ≠ none → ∃ read, ongoing.read = some read ∧
      c.Heeds key read ongoing.passedOver) :
    (c.ended config key ongoing result).Followed kind key := by
  have idle : ∀ own, (c.ended config key ongoing result).running key ≠ some own := by
    intro own runs
    cases put_own.symm.trans runs
  have reported : (c.ended config key ongoing result).reports key = some
      ⟨ongoing.read, ongoing.passedOver, Scheduler.ending c.now c.queue key result⟩ := if_pos rfl
  rcases Scheduler.report_cases followed.consistent with
    ⟨forgotten, untracked⟩ | ⟨untracked, unchanged⟩ | ⟨entry, found, after⟩
  · refine ⟨WorkQueue.consistent_of_untracked untracked, fun entry found => ?_, followed.announced,
      fun there => absurd (forgets forgotten) there, fun own runs => absurd runs (idle own),
      fun there => absurd (forgets forgotten) there⟩
    cases untracked.symm.trans found
  · have same : (c.ended config key ongoing result).queue = c.queue := unchanged
    have coming : c.intent? key ≠ none → c.Coming key := by
      intro there
      refine (followed.known there).resolve_right ?_
      rintro ⟨entry, found⟩
      cases untracked.symm.trans found
    refine ⟨?_, fun entry found => ?_, followed.announced, fun there => .inl (coming there),
      fun own runs => absurd runs (idle own), fun there => .inl (coming there)⟩
    · rw [same]
      exact followed.consistent
    · rw [same] at found
      cases untracked.symm.trans found
  · obtain ⟨present, left, landed, -⟩ := after.grounded
    refine ⟨after.consistent, fun own known flies => ?_, followed.announced,
      fun _ => .inr ⟨present, left⟩, fun own runs => absurd runs (idle own), fun there => ?_⟩
    · cases Option.some.inj (left.symm.trans known)
      rw [landed] at flies
      cases flies
    · cases ends : Scheduler.ending c.now c.queue key result with
      | succeeded =>
        rcases after.succeeded ends with queued | armed
        · exact .inr (.inr (.inl queued))
        · exact .inr (.inr (.inr (.inl armed)))
      | retried => exact .inr (.inr (.inr (.inl (after.retried ends))))
      | overflowed => exact .inr (.inr (.inr (.inr ⟨_, reported, .inr ends⟩)))
      | parked =>
        obtain ⟨wish, wants⟩ := Option.ne_none_iff_exists'.1 there
        obtain ⟨read, hasRead, heeds⟩ := heeds there
        rcases heeds wish wants with same | coming | marked | waits | passed
        · refine .inr (.inr (.inr (.inr ⟨_, reported, .inl ⟨ends, .inl ?_⟩⟩)))
          exact hasRead.trans ((congrArg some same).trans wants.symm)
        · exact .inl coming
        · exact .inr (.inr (.inl (after.parked ends marked)))
        · exact .inr (.inl (.inl waits))
        · exact .inr (.inr (.inr (.inr ⟨_, reported, .inl ⟨ends, .inr passed⟩⟩)))

private theorem sound_ended {ongoing : Ongoing S} {result : CycleResult} (sound : c.Sound kind)
    (forgets : result.Forgets → c.intent? key = none)
    (heeds : c.intent? key ≠ none → ∃ read, ongoing.read = some read ∧
      c.Heeds key read ongoing.passedOver) : (c.ended config key ongoing result).Sound kind := by
  refine ⟨sound.place, fun other => ?_⟩
  by_cases same : other = key
  · subst same
    exact followed_ended (sound.followed other) forgets heeds
  · have spares : c.Spares (c.ended config key ongoing result) other :=
      ⟨Scheduler.report_spares same, rfl, id, id, id, if_neg same, if_neg same⟩
    exact spares.followed (sound.followed other)

variable [Spec S] {now : Time.Timestamp}

/-- A cycle that goes on without the store ends, or still has its ending to earn. -/
private theorem sound_goOn {ongoing : Ongoing S} {gone : Bool} (sound : c.Sound kind)
    (cleared : gone = true → c.intent? key = none) (earns : ongoing.cycle.Earns gone)
    (reads : (∃ read, ongoing.read = some read ∧ c.Heeds key read ongoing.passedOver) ∨
      c.intent? key = none ∧ ∃ result, ongoing.cycle = .done result) :
    (c.goOn config key now ongoing).Sound kind := by
  have store := c.engine.settle_store key { now, write := .written } ongoing.cycle
  have settled := c.engine.settle_earns key { now, write := .written } earns
  have ends : ∀ result, ongoing.cycle = .done result →
      (c.engine.settle { now, write := .written } key ongoing.cycle).2 = .done result := by
    intro result done
    rw [done]
    rfl
  unfold goOn
  generalize c.engine.settle { now, write := .written } key ongoing.cycle = outcome at *
  obtain ⟨⟨own, unrecorded⟩, cycle⟩ := outcome
  cases store
  have sound' : ({ c with engine := ⟨c.engine.store, unrecorded⟩ } : Controller S).Sound kind := by
    refine ⟨sound.place, fun key => ?_⟩
    have spares : c.Spares { c with engine := ⟨c.engine.store, unrecorded⟩ } key :=
      ⟨.refl _ _, rfl, id, id, id, rfl, rfl⟩
    exact spares.followed (sound.followed key)
  have goesOn : (∀ result, cycle ≠ .done result) → Follows kind
      { c with engine := ⟨c.engine.store, unrecorded⟩ } key { ongoing with cycle } := by
    intro notDone
    rcases reads with ⟨read, hasRead, heeds⟩ | ⟨-, result, done⟩
    · exact .inr ⟨read, hasRead, settled.2 notDone, heeds⟩
    · exact absurd (ends result done) (notDone result)
  cases cycle with
  | done result =>
    refine sound_ended sound' (fun forgets => cleared (settled.1 result rfl forgets)) fun there => ?_
    exact reads.resolve_right fun absent => there absent.1
  | step action next => exact sound_put sound' (goesOn nofun)
  | call remote next => exact sound_put sound' (goesOn nofun)

/-- A reading shows the present wish, and a cycle whose reading finds no object ends at once. -/
private theorem reads_fresh {action : Action S} {next : action.Reply → Cycle S CycleResult}
    (fresh : Cycle.step action next = reconcile kind) (read : Option (S × Bool)) :
    let outcome := c.engine.perform { now, write := .written } key action
    (∃ wish, action.shown read outcome.2 = some wish ∧
        outcome.1.store.objects.intent? key = some wish) ∨
      outcome.1.store.objects.intent? key = none ∧ ∃ result, next outcome.2 = .done result := by
  change Cycle.step action next = Cycle.step .read _ at fresh
  cases fresh
  intro outcome
  have kept : outcome.1.store.objects = c.engine.store.objects := rfl
  have answered : outcome.2 = c.engine.store.objects.get? key := rfl
  rw [kept, answered, SortedMap.intent?]
  cases c.engine.store.objects.get? key with
  | some o => exact .inl ⟨o.intent, rfl, rfl⟩
  | none => exact .inr ⟨rfl, .ok .gone, rfl⟩

/-- An action by the cycle of a key. -/
private theorem sound_act (sound : c.Sound kind) {action : Action S}
    {next : action.Reply → Cycle S CycleResult} {read : Option (S × Bool)} {passedOver : Bool}
    (runs : c.running key = some { cycle := .step action next, read, passedOver }) :
    let outcome := c.engine.perform { now, write := .written } key action
    (goOn config { c with engine := outcome.1 } key now
      { cycle := next outcome.2, read := action.shown read outcome.2, passedOver }).Sound kind := by
  have sound' := sound.tells (c.engine.perform_tells now key action)
  have cleared : action.clears false (c.engine.perform { now, write := .written } key action).2 = true →
      _ := Engine.perform_clears now nofun
  rcases (sound'.followed key).followed _ runs with ⟨unread, fresh⟩ | ⟨wish, hasRead, earns, heeds⟩
  · have earns : (Cycle.step action next).Earns false := by
      rw [show Cycle.step action next = reconcile kind from fresh]
      exact Cycle.reconcile_earns kind
    refine sound_goOn sound' cleared (earns _) ?_
    refine (reads_fresh fresh read).imp ?_ id
    rintro ⟨wish, shown, wants⟩
    exact ⟨wish, shown, fun other wants' => .inl (Option.some.inj (wants.symm.trans wants'))⟩
  · refine sound_goOn sound' cleared (earns _) (.inl ?_)
    cases hasRead
    cases action with
    | read =>
      change ∃ own, Action.shown (some wish) .read (c.engine.store.objects.get? key) = some own ∧ _
      cases found : c.engine.store.objects.get? key with
      | none => exact ⟨wish, rfl, heeds⟩
      | some o =>
        refine ⟨o.intent, rfl, fun other wants => .inl ?_⟩
        have present : c.engine.store.objects.intent? key = some o.intent := congrArg _ found
        exact Option.some.inj (present.symm.trans wants)
    | _ => exact ⟨wish, rfl, heeds⟩

/-- A reply to the cycle of a key. -/
private theorem sound_answer (sound : c.Sound kind) {remote : RemoteCall S}
    {next : remote.Reply → Cycle S CycleResult} {read : Option (S × Bool)} {passedOver : Bool}
    (runs : c.running key = some { cycle := .call remote next, read, passedOver })
    (reply : remote.Reply) :
    (c.goOn config key now { cycle := next reply, read, passedOver }).Sound kind := by
  rcases (sound.followed key).followed _ runs with ⟨unread, fresh⟩ | ⟨wish, hasRead, earns, heeds⟩
  · change Cycle.call remote next = Cycle.step .read _ at fresh
    cases fresh
  · have unknown : false = true → c.intent? key = none := nofun
    exact sound_goOn sound unknown (earns reply) (.inl ⟨wish, hasRead, heeds⟩)

end Cycles

/-- A timer that fires leaves its key alone, or triggers it. -/
private theorem sound_fire (sound : c.Sound kind) (timer : QueueTimer) :
    ({ c with queue := c.queue.expire timer } : Controller S).Sound kind := by
  refine ⟨sound.place, fun key => ?_⟩
  by_cases same : key = timer.key
  · subst same
    have followed := sound.followed timer.key
    obtain ⟨consistent, spares | ⟨entry, found, marked⟩⟩ :=
      WorkQueue.expire_cases followed.consistent
    · have spares : c.Spares { c with queue := c.queue.expire timer } timer.key :=
        ⟨spares, rfl, id, id, id, rfl, rfl⟩
      exact spares.followed followed
    · exact followed_marked followed consistent marked (followed.handed entry found)
        followed.announced rfl
  · have spares : c.Spares { c with queue := c.queue.expire timer } key :=
      ⟨WorkQueue.expire_spares same, rfl, id, id, id, rfl, rfl⟩
    exact spares.followed (sound.followed key)

private theorem sound_wait (sound : c.Sound kind) (now : Time.Instant) :
    ({ c with now } : Controller S).Sound kind := by
  refine ⟨sound.place, fun key => ?_⟩
  have spares : c.Spares { c with now } key := ⟨.refl _ _, rfl, id, id, id, rfl, rfl⟩
  exact spares.followed (sound.followed key)

theorem sound_start (store : Store S) : (start config store).Sound kind where
  place := Nat.le_refl _
  followed key := by
    have untracked : (start config store).queue.entries.get? key = none := rfl
    have unread : (start config store).unread = [] := by
      simp only [Controller.unread, start, Nat.sub_self, List.take_zero]
    refine ⟨WorkQueue.consistent_of_untracked untracked, fun entry found => ?_, fun _ => ?_,
      fun _ => .inl (.inl rfl), nofun, fun _ => .inl (.inl rfl)⟩
    · cases untracked.symm.trans found
    · unfold latest?
      rw [unread]
      nofun

variable [Spec S]

/-- Every turn keeps all keys followed. -/
theorem Sound.step (sound : c.Sound kind) (turn : Turn S) : (c.step kind config turn).Sound kind := by
  cases turn with
  | apply key spec => exact sound.tells ((StoreCall.apply key spec).perform_tells c.engine.store)
  | requestDeletion key now =>
    exact sound.tells ((StoreCall.requestDeletion key now).perform_tells c.engine.store)
  | watch => exact sound.look
  | handOut =>
    simp only [Controller.step]
    split
    next queue key next => exact sound_handOut sound next
    next queue next => exact sound_handOut sound next
  | begin key =>
    simp only [Controller.step]
    split
    · exact sound_begin sound
    · exact sound
  | act key now =>
    simp only [Controller.step]
    split
    next action next read passedOver runs => exact sound_act sound runs
    next => exact sound
  | answer key now reply =>
    simp only [Controller.step]
    split
    next remote next read passedOver runs => exact sound_answer sound runs (reply remote)
    next => exact sound
  | fire timer =>
    simp only [Controller.step]
    split
    · exact sound_fire sound timer
    · exact sound
  | wait nanos => exact sound_wait sound _

/-- A run keeps all keys followed. -/
theorem Sound.run (sound : c.Sound kind) (turns : List (Turn S)) : (c.run kind config turns).Sound kind := by
  induction turns generalizing c with
  | nil => exact sound
  | cons turn rest ih => exact ih (sound.step turn)

end CloudKeeper.Controller
