import CloudKeeper.Proofs.Cycle.Forgetting
import CloudKeeper.Scheduler
/-!
What the queue promises about one key. An entry that says it is queued has its send in the ready channel,
and one with a backoff window has a timer of its generation. Each operation is described once, for the
key it is about and for all others.
-/
namespace CloudKeeper

open Time (Duration Instant)

/-- The entry after a trigger that is not held back. -/
def QueueEntry.triggered (entry : QueueEntry) : QueueEntry :=
  if entry.inFlight then { entry with dirty := true } else { entry with queued := true }

namespace WorkQueue

variable {q : WorkQueue} {key other : Key} {entry : QueueEntry}

/-- What the queue knows about a key, which at first is nothing. -/
def known (q : WorkQueue) (key : Key) : QueueEntry := (q.entries.get? key).getD {}

theorem known_of_found (found : q.entries.get? key = some entry) : q.known key = entry := by
  rw [known, found, Option.getD_some]

theorem found_of_known (tracked : q.known key ≠ {}) : q.entries.get? key = some (q.known key) := by
  unfold known at tracked ⊢
  cases found : q.entries.get? key with
  | none =>
    rw [found] at tracked
    exact absurd rfl tracked
  | some entry => rw [Option.getD_some]

/-- The key is queued, with its send still in the ready channel. -/
def Queued (q : WorkQueue) (key : Key) : Prop :=
  ∃ entry, q.entries.get? key = some entry ∧ entry.queued = true ∧ key ∈ q.ready

/-- A timer of the entry's present generation is set. -/
def Armed (q : WorkQueue) (key : Key) : Prop :=
  ∃ entry, q.entries.get? key = some entry ∧
    ∃ timer ∈ q.timers, timer.key = key ∧ timer.generation = entry.generation

/-- The key will be handed out again by itself: it is queued, or it has been triggered while it was
handed out. -/
def Marked (q : WorkQueue) (key : Key) : Prop :=
  ∃ entry, q.entries.get? key = some entry ∧ (entry.queued = true ∨ entry.dirty = true)

/-- Whether a trigger of the key is left to the timer that ends its backoff window. -/
def holdsBack (q : WorkQueue) (now : Instant) (key : Key) : Bool :=
  QueueEntry.isHeldBack ((q.entries.get? key).getD {}) now

/-- What the entry of a key says is so. -/
structure Consistent (q : WorkQueue) (key : Key) : Prop where
  sent : ∀ entry, q.entries.get? key = some entry → entry.queued = true → key ∈ q.ready
  timed : ∀ entry, q.entries.get? key = some entry → entry.notBefore ≠ none → q.Armed key

/-- An operation leaves alone what matters about a key. Sends that nothing will come of and timers of
earlier generations do not. -/
structure Spares (before after : WorkQueue) (key : Key) : Prop where
  entries : after.entries.get? key = before.entries.get? key
  ready : ∀ entry, before.entries.get? key = some entry → entry.queued = true →
    key ∈ before.ready → key ∈ after.ready
  timers : ∀ entry, before.entries.get? key = some entry → ∀ timer ∈ before.timers,
    timer.key = key → timer.generation = entry.generation → timer ∈ after.timers

namespace Spares

variable {before after : WorkQueue}

theorem refl (q : WorkQueue) (key : Key) : q.Spares q key :=
  ⟨rfl, fun _ _ _ sent => sent, fun _ _ _ set _ _ => set⟩

theorem known (spares : before.Spares after key) : after.known key = before.known key := by
  rw [WorkQueue.known, spares.entries, WorkQueue.known]

theorem queued (spares : before.Spares after key) (queued : before.Queued key) : after.Queued key := by
  obtain ⟨entry, found, isQueued, sent⟩ := queued
  exact ⟨entry, spares.entries.trans found, isQueued, spares.ready entry found isQueued sent⟩

theorem armed (spares : before.Spares after key) (armed : before.Armed key) : after.Armed key := by
  obtain ⟨entry, found, timer, set, own, present⟩ := armed
  exact ⟨entry, spares.entries.trans found, timer,
    spares.timers entry found timer set own present, own, present⟩

theorem marked (spares : before.Spares after key) (marked : before.Marked key) : after.Marked key := by
  obtain ⟨entry, found, waits⟩ := marked
  exact ⟨entry, spares.entries.trans found, waits⟩

theorem consistent (spares : before.Spares after key) (consistent : before.Consistent key) :
    after.Consistent key where
  sent entry found isQueued := by
    rw [spares.entries] at found
    exact spares.ready entry found isQueued (consistent.sent entry found isQueued)
  timed entry found window := by
    rw [spares.entries] at found
    exact spares.armed (consistent.timed entry found window)

end Spares

section Put

theorem get?_put (q : WorkQueue) (key other : Key) (entry : QueueEntry) :
    (q.put key entry).entries.get? other =
      if other = key then some entry else q.entries.get? other :=
  SortedMap.get?_insert ..

theorem put_spares (apart : other ≠ key) : q.Spares (q.put key entry) other where
  entries := (get?_put ..).trans (if_neg apart)
  ready _ _ _ sent := sent
  timers _ _ _ set _ _ := set

/-- Putting the entry in that is there changes nothing. -/
theorem put_same (found : q.entries.get? key = some entry) : q.Spares (q.put key entry) key where
  entries := (get?_put ..).trans ((if_pos rfl).trans found.symm)
  ready _ _ _ sent := sent
  timers _ _ _ set _ _ := set

end Put

section Enqueue

theorem get?_enqueue (q : WorkQueue) (key : Key) (entry : QueueEntry) :
    (q.enqueue key entry).entries.get? key = some entry.triggered := by
  unfold enqueue QueueEntry.triggered
  by_cases flies : entry.inFlight = true
  · rw [if_pos flies, if_pos flies]
    exact (get?_put ..).trans (if_pos rfl)
  · rw [if_neg flies, if_neg flies]
    by_cases queued : entry.queued = true
    · rw [if_pos queued, ← queued]
      exact (get?_put ..).trans (if_pos rfl)
    · rw [if_neg queued]
      exact (get?_put ..).trans (if_pos rfl)

theorem timers_enqueue (q : WorkQueue) (key : Key) (entry : QueueEntry) :
    (q.enqueue key entry).timers = q.timers := by
  unfold enqueue
  split
  · rfl
  · split <;> rfl

theorem mem_ready_enqueue (sent : other ∈ q.ready) : other ∈ (q.enqueue key entry).ready := by
  unfold enqueue
  split
  · exact sent
  · split
    · exact sent
    · exact List.mem_append_left _ sent

theorem enqueue_spares (apart : other ≠ key) : q.Spares (q.enqueue key entry) other where
  entries := by
    unfold enqueue
    have put := fun e : QueueEntry => (get?_put q key other e).trans (if_neg apart)
    split
    · exact put _
    · split <;> exact put _
  ready _ _ _ sent := mem_ready_enqueue sent
  timers _ _ timer set _ _ := by
    rw [timers_enqueue]
    exact set

/-- A key that is not handed out is in the ready channel after it has been sent there. -/
theorem enqueue_sends (grounded : entry.inFlight = false)
    (sent : entry.queued = true → key ∈ q.ready) : key ∈ (q.enqueue key entry).ready := by
  by_cases queued : entry.queued = true
  · exact mem_ready_enqueue (sent queued)
  · unfold enqueue
    rw [if_neg (Bool.eq_false_iff.1 grounded), if_neg queued]
    exact List.mem_append_right _ List.mem_cons_self

theorem enqueue_queued (grounded : entry.inFlight = false)
    (sent : entry.queued = true → key ∈ q.ready) : (q.enqueue key entry).Queued key := by
  refine ⟨_, get?_enqueue .., ?_, enqueue_sends grounded sent⟩
  rw [QueueEntry.triggered, if_neg (Bool.eq_false_iff.1 grounded)]

end Enqueue

/-- A trigger keeps all but the two flags it is about. -/
theorem triggered_eq (entry : QueueEntry) :
    entry.triggered.inFlight = entry.inFlight ∧ entry.triggered.notBefore = entry.notBefore ∧
      entry.triggered.generation = entry.generation ∧
      (entry.triggered.queued = true ∨ entry.triggered.dirty = true) := by
  unfold QueueEntry.triggered
  split
  · exact ⟨rfl, rfl, rfl, .inr rfl⟩
  · exact ⟨rfl, rfl, rfl, .inl rfl⟩

/-- Sending a key to the ready channel keeps its entry consistent, given that it was. -/
theorem enqueue_consistent (sent : entry.queued = true → key ∈ q.ready)
    (timed : entry.notBefore ≠ none → ∃ timer ∈ q.timers, timer.key = key ∧
      timer.generation = entry.generation) : (q.enqueue key entry).Consistent key where
  sent after found queued := by
    cases Option.some.inj ((get?_enqueue q key entry).symm.trans found)
    cases flies : entry.inFlight with
    | true =>
      rw [QueueEntry.triggered, if_pos flies] at queued
      exact mem_ready_enqueue (sent queued)
    | false => exact enqueue_sends flies sent
  timed after found window := by
    cases Option.some.inj ((get?_enqueue q key entry).symm.trans found)
    obtain ⟨-, sameWindow, sameGeneration, -⟩ := triggered_eq entry
    rw [sameWindow] at window
    obtain ⟨timer, set, own, present⟩ := timed window
    refine ⟨_, found, timer, ?_, own, present.trans sameGeneration.symm⟩
    rw [timers_enqueue]
    exact set

section Arm

variable {now : Instant} {delay : Duration}

theorem get?_arm : (q.arm now key entry delay).entries.get? key =
    some { entry with generation := entry.generation + 1 } :=
  (get?_put ..).trans (if_pos rfl)

theorem arm_spares (apart : other ≠ key) : q.Spares (q.arm now key entry delay) other where
  entries := (get?_put ..).trans (if_neg apart)
  ready _ _ _ sent := sent
  timers _ _ _ set _ _ := List.mem_append_left _ set

theorem arm_armed : (q.arm now key entry delay).Armed key :=
  ⟨_, get?_arm, _, List.mem_append_right _ List.mem_cons_self, rfl, rfl⟩

theorem arm_consistent (sent : entry.queued = true → key ∈ q.ready) :
    (q.arm now key entry delay).Consistent key where
  sent after found queued := by
    cases Option.some.inj (get?_arm.symm.trans found)
    exact sent queued
  timed _ _ _ := arm_armed

end Arm

/-- A key is held back by a timer, unless the end of its window lies beyond the clock. -/
theorem holdBack_cases (q : WorkQueue) (now : Instant) (key : Key) (base : QueueEntry)
    (delay : Duration) :
    (now.after? delay = none ∧
        q.holdBack now key base delay = (q.put key { base with dirty := false }, .overflow)) ∨
      ∃ t, now.after? delay = some t ∧ q.holdBack now key base delay =
        (q.arm now key { base with dirty := false, notBefore := some t } delay, .after delay) := by
  -- the constant is unfolded, not its application, which would be reduced as far as the clock's limit
  obtain ⟨holdBack, does⟩ : ∃ f, @WorkQueue.holdBack = f := ⟨_, rfl⟩
  rw [does]
  delta WorkQueue.holdBack at does
  subst does
  dsimp only
  cases now.after? delay with
  | none => exact .inl ⟨rfl, rfl⟩
  | some t => exact .inr ⟨t, rfl, rfl⟩

section Add

variable {now : Instant}

theorem add_spares (apart : other ≠ key) : q.Spares (q.add now key) other := by
  simp only [add]
  split
  · exact put_spares apart
  · exact enqueue_spares apart

/-- A trigger of a key is left to a timer that is set, and changes nothing, or it marks the entry. -/
theorem add_cases (now : Instant) (consistent : q.Consistent key) : (q.add now key).Consistent key ∧
    ((q.holdsBack now key = true ∧ q.Spares (q.add now key) key ∧ (q.add now key).Armed key) ∨
      q.holdsBack now key = false ∧ (q.add now key).entries.get? key =
        some (QueueEntry.triggered ((q.entries.get? key).getD {}))) := by
  unfold holdsBack
  by_cases held : QueueEntry.isHeldBack ((q.entries.get? key).getD {}) now = true
  · have does : q.add now key = q.put key ((q.entries.get? key).getD {}) := if_pos held
    cases found : q.entries.get? key with
    | none =>
      rw [found] at held
      cases held
    | some entry =>
      rw [found] at held does
      have window : entry.notBefore ≠ none := by
        intro closed
        unfold QueueEntry.isHeldBack at held
        rw [Option.getD_some, closed] at held
        cases held
      rw [does]
      have same := put_same found
      exact ⟨same.consistent consistent, .inl
        ⟨held, same, same.armed (consistent.timed entry found window)⟩⟩
  · have does : q.add now key = q.enqueue key ((q.entries.get? key).getD {}) := if_neg held
    rw [does]
    refine ⟨enqueue_consistent ?_ ?_, .inr ⟨Bool.eq_false_iff.2 held, get?_enqueue ..⟩⟩
    · cases found : q.entries.get? key with
      | none => nofun
      | some entry => exact consistent.sent entry found
    · cases found : q.entries.get? key with
      | none => exact fun window => absurd rfl window
      | some entry =>
        intro window
        obtain ⟨own, foundAgain, armed⟩ := consistent.timed entry found window
        cases Option.some.inj (found.symm.trans foundAgain)
        exact armed

end Add

section Expire

variable {timer : QueueTimer}

private theorem fire_spares (apart : other ≠ timer.key) : q.Spares (q.fire timer) other := by
  unfold fire
  split
  · exact .refl q other
  · split
    · exact enqueue_spares apart
    · exact .refl q other

theorem expire_spares (apart : other ≠ timer.key) : q.Spares (q.expire timer) other where
  entries := (fire_spares (q := { q with timers := q.timers.erase timer }) apart).entries
  ready := (fire_spares (q := { q with timers := q.timers.erase timer }) apart).ready
  timers entry found set member own present :=
    (fire_spares (q := { q with timers := q.timers.erase timer }) apart).timers entry found set
      ((List.mem_erase_of_ne fun same => apart (own.symm.trans (congrArg QueueTimer.key same))).2
        member) own present

/-- A timer of the present generation closes the backoff window and triggers its key; any other does
nothing. -/
theorem expire_cases (consistent : q.Consistent timer.key) : (q.expire timer).Consistent timer.key ∧
    (q.Spares (q.expire timer) timer.key ∨ ∃ entry, q.entries.get? timer.key = some entry ∧
      (q.expire timer).entries.get? timer.key =
        some (QueueEntry.triggered { entry with notBefore := none })) := by
  unfold expire fire
  cases found : q.entries.get? timer.key with
  | none =>
    have spares : q.Spares { q with timers := q.timers.erase timer } timer.key :=
      ⟨rfl, fun _ _ _ sent => sent, fun _ tracked => by rw [found] at tracked; cases tracked⟩
    exact ⟨spares.consistent consistent, .inl spares⟩
  | some entry =>
    dsimp only
    by_cases present : entry.generation = timer.generation
    · rw [if_pos present]
      refine ⟨enqueue_consistent (consistent.sent entry found) (fun window => absurd rfl window), ?_⟩
      exact .inr ⟨entry, rfl, get?_enqueue ..⟩
    · rw [if_neg present]
      have spares : q.Spares { q with timers := q.timers.erase timer } timer.key := by
        refine ⟨rfl, fun _ _ _ sent => sent, fun own foundAgain set member _ same => ?_⟩
        cases Option.some.inj (found.symm.trans foundAgain)
        refine (List.mem_erase_of_ne fun erased => present ?_).2 member
        rw [← same, erased]
      exact ⟨spares.consistent consistent, .inl spares⟩

end Expire

section Next

/-- A key is handed out exactly when its entry says that it is queued. -/
private theorem start_cases (q : WorkQueue) (key : Key) :
    (q.start key = none ∧ (q.known key).queued = false) ∨
      ∃ entry, q.entries.get? key = some entry ∧ entry.queued = true ∧
        q.start key = some (q.put key { entry with queued := false, inFlight := true }) := by
  unfold start known
  cases q.entries.get? key with
  | none => exact .inl ⟨rfl, rfl⟩
  | some entry =>
    by_cases queued : entry.queued = true
    · exact .inr ⟨entry, rfl, queued, if_pos queued⟩
    · exact .inl ⟨if_neg queued, Bool.eq_false_iff.2 queued⟩

/-- Sends of keys that are not queued are dropped, up to the send of the key that is handed out. -/
private theorem nextFrom_split (q : WorkQueue) (sends : List Key) :
    (q.nextFrom sends = ({ q with ready := [] }, none) ∧
      ∀ key ∈ sends, (q.known key).queued = false) ∨
    ∃ dropped key rest entry, sends = dropped ++ key :: rest ∧
      (∀ other ∈ dropped, (q.known other).queued = false) ∧
      q.entries.get? key = some entry ∧ entry.queued = true ∧ q.nextFrom sends =
        ({ q.put key { entry with queued := false, inFlight := true } with ready := rest },
          some key) := by
  induction sends with
  | nil => exact .inl ⟨rfl, fun key member => absurd member List.not_mem_nil⟩
  | cons first later ih =>
    rw [nextFrom]
    rcases start_cases q first with ⟨unstarted, idle⟩ | ⟨entry, found, queued, started⟩
    · rw [unstarted]
      rcases ih with ⟨none_, others⟩ | ⟨dropped, key, rest, entry, parts, others, found, queued, hands⟩
      · exact .inl ⟨none_, List.forall_mem_cons.2 ⟨idle, others⟩⟩
      · refine .inr ⟨first :: dropped, key, rest, entry, ?_, List.forall_mem_cons.2 ⟨idle, others⟩,
          found, queued, hands⟩
        rw [parts, List.cons_append]
    · rw [started]
      exact .inr ⟨[], first, later, entry, rfl, fun _ member => absurd member List.not_mem_nil, found,
        queued, rfl⟩

theorem next_split (q : WorkQueue) :
    (q.next = ({ q with ready := [] }, none) ∧ ∀ key ∈ q.ready, (q.known key).queued = false) ∨
    ∃ dropped key rest entry, q.ready = dropped ++ key :: rest ∧
      (∀ other ∈ dropped, (q.known other).queued = false) ∧
      q.entries.get? key = some entry ∧ entry.queued = true ∧ q.next =
        ({ q.put key { entry with queued := false, inFlight := true } with ready := rest },
          some key) :=
  nextFrom_split q q.ready

/-- What handing out does to the queue: sends of keys that are not queued are dropped, and the entry of
the key that is handed out says so. -/
private theorem next_some {after : WorkQueue} (hands : q.next = (after, some key)) :
    (∃ entry, q.entries.get? key = some entry ∧ entry.queued = true ∧
      after.entries = q.entries.insert key { entry with queued := false, inFlight := true }) ∧
    after.timers = q.timers ∧ ∀ other, other ≠ key → other ∈ q.ready → ∀ entry,
      q.entries.get? other = some entry → entry.queued = true → other ∈ after.ready := by
  rcases next_split q with ⟨does, -⟩ | ⟨dropped, first, rest, entry, parts, idle, found, queued, does⟩
  · cases does.symm.trans hands
  · cases does.symm.trans hands
    refine ⟨⟨entry, found, queued, rfl⟩, rfl, fun other apart sent own isOwn isQueued => ?_⟩
    rw [parts] at sent
    rcases List.mem_append.1 sent with early | late
    · have unqueued := idle other early
      rw [known_of_found isOwn, isQueued] at unqueued
      cases unqueued
    · exact (List.mem_cons.1 late).resolve_left apart

theorem next_none {after : WorkQueue} (hands : q.next = (after, none)) (other : Key) :
    q.Spares after other := by
  rcases next_split q with ⟨does, idle⟩ | ⟨_, _, _, _, -, -, -, -, does⟩
  · cases does.symm.trans hands
    refine ⟨rfl, fun entry found queued sent => ?_, fun _ _ timer set _ _ => set⟩
    have unqueued := idle other sent
    rw [known_of_found found, queued] at unqueued
    cases unqueued
  · cases does.symm.trans hands

theorem next_spares {after : WorkQueue} (hands : q.next = (after, some key)) (apart : other ≠ key) :
    q.Spares after other := by
  obtain ⟨⟨own, -, -, entries⟩, timers, kept⟩ := next_some hands
  refine ⟨?_, fun entry found queued sent => ?_, fun _ _ timer set _ _ => ?_⟩
  · rw [entries, SortedMap.get?_insert, if_neg apart]
  · exact kept other apart sent entry found queued
  · rw [timers]
    exact set

/-- The entry of the key that is handed out says so, and is consistent. -/
theorem next_cases {after : WorkQueue} (consistent : q.Consistent key)
    (hands : q.next = (after, some key)) : after.Consistent key ∧
    ∃ entry, q.entries.get? key = some entry ∧ entry.queued = true ∧
      after.entries.get? key = some { entry with queued := false, inFlight := true } := by
  obtain ⟨⟨entry, found, queued, entries⟩, timers, -⟩ := next_some hands
  have started : after.entries.get? key = some { entry with queued := false, inFlight := true } := by
    rw [entries, SortedMap.get?_insert, if_pos rfl]
  refine ⟨⟨fun own known isQueued => ?_, fun own known window => ?_⟩, entry, found, queued, started⟩
  · cases Option.some.inj (started.symm.trans known)
    cases isQueued
  · cases Option.some.inj (started.symm.trans known)
    obtain ⟨same, foundAgain, timer, set, mine, present⟩ := consistent.timed entry found window
    cases Option.some.inj (found.symm.trans foundAgain)
    refine ⟨_, started, timer, ?_, mine, present⟩
    rw [timers]
    exact set

end Next

section Report

theorem done_spares (apart : other ≠ key) (now : Instant) (delay : Duration) :
    q.Spares (q.done now key delay) other := by
  unfold done
  split
  · exact .refl q other
  · dsimp only
    split
    · exact enqueue_spares apart
    · exact arm_spares apart

private theorem holdBack_spares (apart : other ≠ key) (now : Instant) (delay : Duration) :
    q.Spares (q.holdBack now key entry delay).1 other := by
  rcases holdBack_cases q now key entry delay with ⟨-, does⟩ | ⟨t, -, does⟩
  · rw [does]
    exact put_spares apart
  · rw [does]
    exact arm_spares apart

theorem failed_spares (apart : other ≠ key) (now : Instant) (class_ : ErrorClass) :
    q.Spares (q.failed now key class_).1 other := by
  unfold failed
  split
  · exact .refl q other
  · dsimp only
    split
    · exact holdBack_spares apart now _
    · exact holdBack_spares apart now _
    · split
      · dsimp only
        exact enqueue_spares apart
      · exact put_spares apart

end Report

theorem forget_spares (apart : other ≠ key) : q.Spares (q.forget key) other where
  entries := (SortedMap.get?_erase ..).trans (if_neg apart)
  ready _ _ _ sent := sent
  timers _ _ _ set _ _ := set

theorem get?_forget (q : WorkQueue) (key : Key) : (q.forget key).entries.get? key = none :=
  (SortedMap.get?_erase ..).trans (if_pos rfl)

/-- Nothing is said of a key that is not tracked. -/
theorem consistent_of_untracked (untracked : q.entries.get? key = none) : q.Consistent key where
  sent _ found := by
    rw [untracked] at found
    cases found
  timed _ found := by
    rw [untracked] at found
    cases found

section Free

variable {now : Instant}

/-- A key that is queued or handed out is not held back. -/
def Free (q : WorkQueue) (now : Instant) (key : Key) : Prop :=
  ∀ entry, q.entries.get? key = some entry → entry.queued = true ∨ entry.inFlight = true →
    QueueEntry.isHeldBack entry now = false

theorem isHeldBack_later {entry : QueueEntry} {later : Instant} (order : now.nanos ≤ later.nanos)
    (free : QueueEntry.isHeldBack entry now = false) : QueueEntry.isHeldBack entry later = false := by
  unfold QueueEntry.isHeldBack at *
  split
  next t window =>
    rw [window] at free
    simp only [Instant.before, decide_eq_false_iff_not] at free ⊢
    omega
  next => rfl

theorem isHeldBack_closed {entry : QueueEntry} (closed : entry.notBefore = none) :
    QueueEntry.isHeldBack entry now = false := by
  rw [QueueEntry.isHeldBack, closed]

theorem isHeldBack_triggered (entry : QueueEntry) :
    QueueEntry.isHeldBack entry.triggered now = QueueEntry.isHeldBack entry now := by
  unfold QueueEntry.isHeldBack
  rw [(triggered_eq entry).2.1]

end Free

end WorkQueue

/-- How a cycle has ended, as the queue sees it. -/
inductive Ending
  | succeeded
  | retried
  | parked
  /-- The cycle was to be retried at a time beyond the clock. -/
  | overflowed
  deriving DecidableEq, Repr

namespace Scheduler

/-- The ending that the queue makes of a retry. -/
def retryEnding : Retry → Ending
  | .overflow => .overflowed
  | .parked | .after _ => .retried

/-- The ending that the queue makes of a result. -/
def ending (now : Instant) (q : WorkQueue) (key : Key) : CycleResult → Ending
  | .ok _ => .succeeded
  | .error e =>
    match e.errorClass with
    | .permanent => .parked
    | class_ => retryEnding (q.failed now key class_).2

variable {q : WorkQueue} {key other : Key} {entry : QueueEntry} {now : Instant}
  {config : SchedulerConfig} {result : CycleResult}

/-- What a report leaves of the entry of its key, unless the key is forgotten. -/
structure Reported (before : WorkQueue) (entry : QueueEntry) (ending : Ending) (after : WorkQueue)
    (key : Key) : Prop where
  consistent : after.Consistent key
  grounded : ∃ entry', after.entries.get? key = some entry' ∧ entry'.inFlight = false ∧
    (entry.queued = false → entry'.queued = true → entry'.notBefore = none)
  succeeded : ending = .succeeded → after.Queued key ∨ after.Armed key
  retried : ending = .retried → after.Armed key
  parked : ending = .parked → before.Marked key → after.Queued key

open WorkQueue in
private theorem done_reported (consistent : q.Consistent key) (found : q.entries.get? key = some entry)
    (delay : Duration) : Reported q entry .succeeded (q.done now key delay) key := by
  unfold WorkQueue.done
  rw [found]
  dsimp only
  split
  · have queued : (q.enqueue key { entry with
        inFlight := false, failures := 0, notBefore := none, dirty := false,
        generation := entry.generation + 1 }).Queued key :=
      enqueue_queued rfl (consistent.sent entry found)
    refine ⟨enqueue_consistent (consistent.sent entry found) (absurd rfl), ?_, fun _ => .inl queued,
      nofun, nofun⟩
    exact ⟨_, get?_enqueue .., rfl, fun _ _ => rfl⟩
  · refine ⟨arm_consistent (consistent.sent entry found), ?_, fun _ => .inr arm_armed, nofun, nofun⟩
    exact ⟨_, get?_arm, rfl, fun _ _ => rfl⟩

open WorkQueue in
private theorem holdBack_reported {base : QueueEntry} {delay : Duration}
    (sent : base.queued = true → key ∈ q.ready)
    (timed : base.notBefore ≠ none → ∃ timer ∈ q.timers, timer.key = key ∧
      timer.generation = base.generation)
    (same : base.queued = entry.queued) (lands : base.inFlight = false) :
    Reported q entry (retryEnding (q.holdBack now key base delay).2)
      (q.holdBack now key base delay).1 key := by
  have idles : entry.queued = false → ¬base.queued = true := by
    intro idle queued
    rw [same, idle] at queued
    cases queued
  rcases holdBack_cases q now key base delay with ⟨-, does⟩ | ⟨t, -, does⟩
  · rw [does]
    have put := (get?_put q key key { base with dirty := false }).trans (if_pos rfl)
    refine ⟨⟨fun own known queued => ?_, fun own known window => ?_⟩, ?_, nofun, nofun, nofun⟩
    · cases Option.some.inj (put.symm.trans known)
      exact sent queued
    · cases Option.some.inj (put.symm.trans known)
      exact ⟨_, put, timed window⟩
    · exact ⟨_, put, lands, fun idle queued => absurd queued (idles idle)⟩
  · rw [does]
    refine ⟨arm_consistent sent, ?_, nofun, fun _ => arm_armed, nofun⟩
    exact ⟨_, get?_arm, lands, fun idle queued => absurd queued (idles idle)⟩

open WorkQueue in
private theorem failed_reported (consistent : q.Consistent key) (found : q.entries.get? key = some entry)
    (e : ReconcileError) :
    Reported q entry (ending now q key (.error e)) (q.failed now key e.errorClass).1 key := by
  have sent := consistent.sent entry found
  have timed : entry.notBefore ≠ none → ∃ timer ∈ q.timers, timer.key = key ∧
      timer.generation = entry.generation := by
    intro window
    obtain ⟨own, foundAgain, armed⟩ := consistent.timed entry found window
    cases Option.some.inj (found.symm.trans foundAgain)
    exact armed
  simp only [ending, WorkQueue.failed, found]
  cases e.errorClass with
  | transient => exact holdBack_reported sent timed rfl rfl
  | poison => exact holdBack_reported sent timed rfl rfl
  | permanent =>
    dsimp only
    split
    case isTrue dirty =>
      dsimp only
      refine ⟨enqueue_consistent sent (absurd rfl), ?_, nofun, nofun, fun _ _ =>
        enqueue_queued rfl sent⟩
      exact ⟨_, get?_enqueue .., rfl, fun _ _ => rfl⟩
    case isFalse clean =>
      dsimp only
      have put := (get?_put q key key { entry with
        inFlight := false, failures := oneMore entry.failures, notBefore := none,
        generation := entry.generation + 1 }).trans (if_pos rfl)
      refine ⟨⟨fun own known queued => ?_, fun own known window => ?_⟩, ?_, nofun, nofun, ?_⟩
      · cases Option.some.inj (put.symm.trans known)
        exact sent queued
      · cases Option.some.inj (put.symm.trans known)
        exact absurd rfl window
      · exact ⟨_, put, rfl, fun _ _ => rfl⟩
      · rintro - ⟨own, known, queued | dirty⟩
        · cases Option.some.inj (found.symm.trans known)
          exact ⟨_, put, queued, sent queued⟩
        · cases Option.some.inj (found.symm.trans known)
          exact absurd dirty clean

/-- A report forgets its key, does nothing because the key has been forgotten, or leaves of its entry
what the ending says. -/
theorem report_cases (consistent : q.Consistent key) :
    let after := report config now q key result
    (result.Forgets ∧ after.entries.get? key = none) ∨
      (q.entries.get? key = none ∧ after = q) ∨
      ∃ entry, q.entries.get? key = some entry ∧
        Reported q entry (ending now q key result) after key := by
  unfold report
  cases result with
  | ok outcome =>
    cases requeues : outcome.requeue with
    | forget =>
      simp only [requeues]
      exact .inl ⟨⟨outcome, rfl, requeues⟩, WorkQueue.get?_forget q key⟩
    | poll =>
      cases found : q.entries.get? key with
      | none =>
        refine .inr (.inl ⟨rfl, ?_⟩)
        simp only [requeues, WorkQueue.done, found]
      | some entry =>
        simp only [requeues]
        exact .inr (.inr ⟨entry, rfl, done_reported consistent found _⟩)
    | immediately =>
      cases found : q.entries.get? key with
      | none =>
        refine .inr (.inl ⟨rfl, ?_⟩)
        simp only [requeues, WorkQueue.done, found]
      | some entry =>
        simp only [requeues]
        exact .inr (.inr ⟨entry, rfl, done_reported consistent found _⟩)
  | error e =>
    cases found : q.entries.get? key with
    | none =>
      refine .inr (.inl ⟨rfl, ?_⟩)
      simp only [WorkQueue.failed, found]
    | some entry => exact .inr (.inr ⟨entry, rfl, failed_reported consistent found e⟩)

/-- A report leaves other keys alone. -/
theorem report_spares (apart : other ≠ key) : q.Spares (report config now q key result) other := by
  unfold report
  split
  · split
    · exact WorkQueue.done_spares apart now _
    · exact WorkQueue.done_spares apart now _
    · exact WorkQueue.forget_spares apart
  · exact WorkQueue.failed_spares apart now _

end Scheduler

end CloudKeeper
