import CloudKeeper.Proofs.Scheduler.Queue
/-!
A key is in at most one pair of hands, and is worked on no more often than its triggers ask for. The
queue itself keeps flags only; here a run of its operations is followed together with the hand-outs that
have not been reported, and the flags are shown to agree with them and with the sends in the ready
channel.
-/
namespace CloudKeeper

open Time (Duration Instant)

/-- The entry of a key whose hand-out has been reported: neither the hand-out nor, if the key is queued, a
backoff window has left a trace. -/
structure QueueEntry.Landed (entry : QueueEntry) : Prop where
  grounded : entry.inFlight = false
  clean : entry.dirty = false
  unheld : entry.queued = true → entry.notBefore = none

namespace WorkQueue

variable {q before after : WorkQueue} {key other : Key} {entry : QueueEntry} {now : Instant}
  {delay : Duration}

section Becomes

/-- An operation on one key replaces its entry, and sends the key once if the entry becomes queued.
Nothing changes for other keys. -/
structure Becomes (before : WorkQueue) (key : Key) (entry : QueueEntry) (after : WorkQueue) : Prop where
  own : after.known key = entry
  sends : after.ready.count key + (before.known key).queued.toNat =
    before.ready.count key + entry.queued.toNat
  known : ∀ other, other ≠ key → after.known other = before.known other
  ready : ∀ other, other ≠ key → after.ready.count other = before.ready.count other

theorem known_put (q : WorkQueue) (key other : Key) (entry : QueueEntry) :
    (q.put key entry).known other = if other = key then entry else q.known other := by
  unfold known
  rw [get?_put]
  split <;> rfl

theorem put_becomes (same : entry.queued = (q.known key).queued) :
    q.Becomes key entry (q.put key entry) where
  own := by rw [known_put, if_pos rfl]
  sends := by rw [same]; rfl
  known other apart := by rw [known_put, if_neg apart]
  ready _ _ := rfl

theorem arm_becomes (same : entry.queued = (q.known key).queued) :
    q.Becomes key { entry with generation := entry.generation + 1 } (q.arm now key entry delay) :=
  -- a timer is no part of what is said of a key here
  have put : q.Becomes key _ (q.put key { entry with generation := entry.generation + 1 }) :=
    put_becomes same
  ⟨put.own, put.sends, put.known, put.ready⟩

private theorem send_becomes (idle : (q.known key).queued = false) (queued : entry.queued = true) :
    q.Becomes key entry { q.put key entry with ready := q.ready ++ [key] } where
  own := (known_put ..).trans (if_pos rfl)
  sends := by
    rw [idle, queued, List.count_append, List.count_singleton_self]
    rfl
  known other apart := (known_put ..).trans (if_neg apart)
  ready other apart := by
    rw [List.count_append, List.count_singleton, if_neg (by simpa using Ne.symm apart)]
    rfl

theorem enqueue_becomes (same : entry.queued = (q.known key).queued) :
    q.Becomes key entry.triggered (q.enqueue key entry) := by
  unfold enqueue QueueEntry.triggered
  by_cases flies : entry.inFlight = true
  · rw [if_pos flies, if_pos flies]
    exact put_becomes same
  · rw [if_neg flies, if_neg flies]
    by_cases queued : entry.queued = true
    · rw [if_pos queued, ← queued]
      exact put_becomes same
    · rw [if_neg queued]
      exact send_becomes (same ▸ Bool.eq_false_iff.2 queued) rfl

/-- A key that is not known is neither queued nor handed out. -/
theorem found_of_inFlight (flies : (q.known key).inFlight = true) :
    q.entries.get? key = some (q.known key) := by
  unfold known at flies ⊢
  cases found : q.entries.get? key with
  | none =>
    rw [found] at flies
    cases flies
  | some entry => rw [Option.getD_some]

/-- A trigger is left to the timer that ends the backoff window, or marks the entry. -/
theorem add_becomes (q : WorkQueue) (now : Instant) (key : Key) :
    (QueueEntry.isHeldBack (q.known key) now = true ∧ q.Becomes key (q.known key) (q.add now key)) ∨
      (QueueEntry.isHeldBack (q.known key) now = false ∧
        q.Becomes key (q.known key).triggered (q.add now key)) := by
  by_cases held : QueueEntry.isHeldBack (q.known key) now = true
  · have does : q.add now key = q.put key (q.known key) := if_pos held
    rw [does]
    exact .inl ⟨held, put_becomes rfl⟩
  · have does : q.add now key = q.enqueue key (q.known key) := if_neg held
    rw [does]
    exact .inr ⟨Bool.eq_false_iff.2 held, enqueue_becomes rfl⟩

/-- A timer closes the backoff window of its key and triggers it, unless it is stale. -/
theorem expire_becomes (q : WorkQueue) (timer : QueueTimer) :
    q.Becomes timer.key (q.known timer.key) (q.expire timer) ∨
      q.Becomes timer.key (QueueEntry.triggered { q.known timer.key with notBefore := none })
        (q.expire timer) := by
  have stale : q.Becomes timer.key (q.known timer.key) { q with timers := q.timers.erase timer } :=
    ⟨rfl, rfl, fun _ _ => rfl, fun _ _ => rfl⟩
  unfold expire fire
  cases found : q.entries.get? timer.key with
  | none => exact .inl stale
  | some entry =>
    dsimp only
    split
    · have same : entry.queued = (q.known timer.key).queued := by rw [known_of_found found]
      have marks : WorkQueue.Becomes { q with timers := q.timers.erase timer } timer.key _
          (enqueue _ timer.key { entry with notBefore := none }) := enqueue_becomes same
      rw [known_of_found found]
      exact .inr ⟨marks.own, marks.sends, marks.known, marks.ready⟩
    · exact .inl stale

/-- An operation on a key that was handed out leaves it reported. -/
def Lands (before : WorkQueue) (key : Key) (after : WorkQueue) : Prop :=
  ∃ entry, entry.Landed ∧ before.Becomes key entry after

private theorem put_lands (landed : entry.Landed) (same : entry.queued = (q.known key).queued) :
    q.Lands key (q.put key entry) :=
  ⟨entry, landed, put_becomes same⟩

private theorem arm_lands (landed : entry.Landed) (same : entry.queued = (q.known key).queued) :
    q.Lands key (q.arm now key entry delay) :=
  ⟨{ entry with generation := entry.generation + 1 },
    ⟨landed.grounded, landed.clean, landed.unheld⟩, arm_becomes same⟩

private theorem enqueue_lands (grounded : entry.inFlight = false) (clean : entry.dirty = false)
    (closed : entry.notBefore = none) (same : entry.queued = (q.known key).queued) :
    q.Lands key (q.enqueue key entry) := by
  refine ⟨_, ?_, enqueue_becomes same⟩
  rw [QueueEntry.triggered, if_neg (Bool.eq_false_iff.1 grounded)]
  exact ⟨grounded, clean, fun _ => closed⟩

theorem done_lands (flies : (q.known key).inFlight = true) (now : Instant) (delay : Duration) :
    q.Lands key (q.done now key delay) := by
  unfold done
  rw [found_of_inFlight flies]
  dsimp only
  split
  case isTrue => exact enqueue_lands rfl rfl rfl rfl
  case isFalse waits =>
    simp only [Bool.or_eq_true, not_or, Bool.not_eq_true] at waits
    exact arm_lands ⟨rfl, waits.1, fun _ => rfl⟩ rfl

private theorem holdBack_lands (grounded : entry.inFlight = false) (idle : entry.queued = false)
    (same : entry.queued = (q.known key).queued) : q.Lands key (q.holdBack now key entry delay).1 := by
  have unqueued : ¬entry.queued = true := Bool.eq_false_iff.1 idle
  rcases holdBack_cases q now key entry delay with ⟨-, does⟩ | ⟨t, -, does⟩
  · rw [does]
    exact put_lands ⟨grounded, rfl, fun queued => absurd queued unqueued⟩ same
  · rw [does]
    exact arm_lands ⟨grounded, rfl, fun queued => absurd queued unqueued⟩ same

theorem failed_lands (flies : (q.known key).inFlight = true) (idle : (q.known key).queued = false)
    (now : Instant) (class_ : ErrorClass) : q.Lands key (q.failed now key class_).1 := by
  unfold failed
  rw [found_of_inFlight flies]
  cases class_ with
  | transient => exact holdBack_lands rfl idle rfl
  | poison => exact holdBack_lands rfl idle rfl
  | permanent =>
    dsimp only
    split
    case isTrue =>
      dsimp only
      exact enqueue_lands rfl rfl rfl rfl
    case isFalse clean => exact put_lands ⟨rfl, Bool.eq_false_iff.2 clean, fun _ => rfl⟩ rfl

theorem forget_known (q : WorkQueue) (key other : Key) :
    (q.forget key).known other = if other = key then {} else q.known other := by
  unfold known forget
  rw [SortedMap.get?_erase]
  split <;> rfl

end Becomes

/-- A trigger of a key that is handed out, and is not held back, sends nothing. -/
theorem add_inFlight (flies : (q.known key).inFlight = true)
    (unheld : QueueEntry.isHeldBack (q.known key) now = false) :
    (q.add now key).ready = q.ready := by
  have does : q.add now key = q.enqueue key (q.known key) := if_neg (Bool.eq_false_iff.1 unheld)
  rw [does, enqueue, if_pos flies]
  rfl

/-- A key that was triggered while it was handed out is sent at once, and once, when it is done. -/
theorem done_dirty (flies : (q.known key).inFlight = true) (idle : (q.known key).queued = false)
    (dirty : (q.known key).dirty = true) (delay : Duration) :
    (q.done now key delay).ready = q.ready ++ [key] ∧
      ((q.done now key delay).known key).queued = true := by
  have unqueued : ¬(q.known key).queued = true := Bool.eq_false_iff.1 idle
  have ends : q.done now key delay = q.enqueue key { q.known key with
      inFlight := false, failures := 0, notBefore := none, dirty := false,
      generation := (q.known key).generation + 1 } := by
    unfold done
    rw [found_of_inFlight flies]
    simp only [dirty, Bool.true_or, if_true]
  rw [ends, enqueue, if_neg Bool.false_ne_true, if_neg unqueued]
  exact ⟨rfl, congrArg QueueEntry.queued ((known_put ..).trans (if_pos rfl))⟩

section Starts

/-- A queued key is handed out, for which one send of it is taken from the ready channel. Sends of other
keys may be dropped, but not of those that are queued. -/
structure Starts (before : WorkQueue) (key : Key) (after : WorkQueue) : Prop where
  queued : (before.known key).queued = true
  own : after.known key = { before.known key with queued := false, inFlight := true }
  sends : after.ready.count key + 1 = before.ready.count key
  known : ∀ other, other ≠ key → after.known other = before.known other
  ready : ∀ other, other ≠ key → after.ready.count other ≤ before.ready.count other
  kept : ∀ other, other ≠ key → (before.known other).queued = true →
    after.ready.count other = before.ready.count other

theorem next_starts (hands : q.next = (after, some key)) : q.Starts key after := by
  rcases next_split q with ⟨does, -⟩ | ⟨dropped, _, rest, entry, parts, idle, found, queued, does⟩
  · cases does.symm.trans hands
  · cases does.symm.trans hands
    have own := known_of_found found
    have unsent : ∀ other, (q.known other).queued = true → dropped.count other = 0 := by
      intro other isQueued
      refine List.count_eq_zero.2 fun early => ?_
      rw [idle other early] at isQueued
      cases isQueued
    have others : ∀ other, other ≠ key →
        q.ready.count other = dropped.count other + rest.count other := by
      intro other apart
      rw [parts, List.count_append, List.count_cons_of_ne (Ne.symm apart)]
    refine ⟨own ▸ queued, ?_, ?_, fun other apart => ?_, fun other apart => ?_,
      fun other apart isQueued => ?_⟩
    · rw [own]
      exact (known_put ..).trans (if_pos rfl)
    · rw [parts, List.count_append, unsent key (own ▸ queued), List.count_cons_self, Nat.zero_add]
    · exact (known_put ..).trans (if_neg apart)
    · rw [others other apart]
      exact Nat.le_add_left ..
    · rw [others other apart, unsent other isQueued, Nat.zero_add]

theorem next_shortens (hands : q.next = (after, some key)) : after.ready.length < q.ready.length := by
  rcases next_split q with ⟨does, -⟩ | ⟨dropped, _, rest, _, parts, -, -, -, does⟩
  · cases does.symm.trans hands
  · cases does.symm.trans hands
    rw [parts, List.length_append, List.length_cons]
    exact Nat.lt_of_lt_of_le (Nat.lt_succ_self _) (Nat.le_add_left ..)

/-- When no key is handed out, all sends have been dropped, and none was of a queued key. -/
theorem next_idle (hands : q.next = (after, none)) :
    after = { q with ready := [] } ∧ ∀ key, (q.known key).queued = true → q.ready.count key = 0 := by
  rcases next_split q with ⟨does, idle⟩ | ⟨_, _, _, _, -, -, -, -, does⟩
  · cases does.symm.trans hands
    refine ⟨rfl, fun key queued => List.count_eq_zero.2 fun sent => ?_⟩
    rw [idle key sent] at queued
    cases queued
  · cases does.symm.trans hands

end Starts

end WorkQueue

/-- A queue in use. -/
structure Dispatch where
  queue : WorkQueue
  now : Instant := .zero
  /-- How often each key has been triggered since it was handed out, for the keys whose hand-out has not
  been reported. -/
  held : Key → Option Nat := fun _ => none
  /-- Whether the queue has been told to forget a key. -/
  forgotten : Key → Bool := fun _ => false

namespace Dispatch

/-- What can happen to a queue in use. -/
inductive Turn
  | wait (nanos : Nat)
  | add (key : Key)
  | next
  | fire (timer : QueueTimer)
  | done (key : Key) (delay : Duration)
  | failed (key : Key) (class_ : ErrorClass)
  | forget (key : Key)

/-- The hand-out of a key has been reported. -/
def release (d : Dispatch) (key : Key) : Dispatch :=
  { d with held := fun other => if other = key then none else d.held other }

/-- The queue after one turn. A timer fires when it is due, and a cycle is reported by the worker that has
been handed the key; a turn that does not come to pass changes nothing. Whoever forgets a key that is
handed out reports it by that. -/
def step (d : Dispatch) : Turn → Dispatch
  | .wait nanos => { d with now := ⟨d.now.nanos + nanos⟩ }
  | .add key => { d with
      queue := d.queue.add d.now key
      held := fun other => if other = key then (d.held key).map (· + 1) else d.held other }
  | .next =>
    match d.queue.next with
    | (queue, none) => { d with queue }
    | (queue, some key) =>
      { d with queue, held := fun other => if other = key then some 0 else d.held other }
  | .fire timer =>
    if timer ∈ d.queue.timers ∧ timer.due.due d.now = true then
      { d with queue := d.queue.expire timer }
    else d
  | .done key delay =>
    if (d.held key).isSome then { d.release key with queue := d.queue.done d.now key delay } else d
  | .failed key class_ =>
    if (d.held key).isSome then { d.release key with queue := (d.queue.failed d.now key class_).1 }
    else d
  | .forget key => { d.release key with
      queue := d.queue.forget key
      forgotten := fun other => if other = key then true else d.forgotten other }

/-- The queue after a number of turns. -/
def run (d : Dispatch) (turns : List Turn) : Dispatch := turns.foldl step d

variable {d after : Dispatch} {key other : Key}

/-- A worker reports a key in its hands, and the queue is told. -/
theorem step_done (handed : (d.held key).isSome = true) (delay : Duration) :
    d.step (.done key delay) = { d.release key with queue := d.queue.done d.now key delay } :=
  if_pos handed

theorem step_failed (handed : (d.held key).isSome = true) (class_ : ErrorClass) :
    d.step (.failed key class_) = { d.release key with queue := (d.queue.failed d.now key class_).1 } :=
  if_pos handed

/-- No worker reports a key that is in nobody's hands. -/
theorem step_done_of_unheld (unheld : ¬(d.held key).isSome = true) (delay : Duration) :
    d.step (.done key delay) = d :=
  if_neg unheld

theorem step_failed_of_unheld (unheld : ¬(d.held key).isSome = true) (class_ : ErrorClass) :
    d.step (.failed key class_) = d :=
  if_neg unheld

theorem queue_of_done (handed : (d.held key).isSome = true) (delay : Duration) :
    (d.step (.done key delay)).queue = d.queue.done d.now key delay :=
  congrArg Dispatch.queue (step_done handed delay)

theorem queue_of_failed (handed : (d.held key).isSome = true) (class_ : ErrorClass) :
    (d.step (.failed key class_)).queue = (d.queue.failed d.now key class_).1 :=
  congrArg Dispatch.queue (step_failed handed class_)

/-- What the flags of a key say agrees with its hand-out and its sends. -/
structure Sound (d : Dispatch) (key : Key) : Prop where
  handed : (d.queue.known key).inFlight = (d.held key).isSome
  apart : ¬((d.queue.known key).queued = true ∧ (d.queue.known key).inFlight = true)
  dirty : (d.queue.known key).dirty = true → (d.queue.known key).inFlight = true
  again : ∀ triggers, d.held key = some triggers → 0 < triggers → (d.queue.known key).dirty = true
  /-- Neither a queued key nor one that is handed out is held back. -/
  free : (d.queue.known key).queued = true ∨ (d.queue.known key).inFlight = true →
    WorkQueue.QueueEntry.isHeldBack (d.queue.known key) d.now = false
  sent : (d.queue.known key).queued.toNat ≤ d.queue.ready.count key
  exact : d.forgotten key = false → d.queue.ready.count key = (d.queue.known key).queued.toNat

theorem sound_of_unknown (unknown : d.queue.known key = {}) (unheld : d.held key = none)
    (unsent : d.forgotten key = false → d.queue.ready.count key = 0) : d.Sound key where
  handed := by rw [unknown, unheld]; rfl
  apart := by rw [unknown]; nofun
  dirty := by rw [unknown]; nofun
  again := by rw [unheld]; nofun
  free := by rw [unknown]; intro; rfl
  sent := by rw [unknown]; exact Nat.zero_le _
  exact := by rw [unknown]; exact unsent

/-- A turn about other keys takes no more than sends of a key that is not queued. -/
theorem Sound.kept (sound : d.Sound key) (known : after.queue.known key = d.queue.known key)
    (held : after.held key = d.held key) (forgotten : after.forgotten key = d.forgotten key)
    (now : d.now.nanos ≤ after.now.nanos)
    (ready : after.queue.ready.count key ≤ d.queue.ready.count key)
    (kept : (d.queue.known key).queued = true →
      after.queue.ready.count key = d.queue.ready.count key) : after.Sound key where
  handed := by rw [known, held]; exact sound.handed
  apart := by rw [known]; exact sound.apart
  dirty := by rw [known]; exact sound.dirty
  again := by rw [known, held]; exact sound.again
  free := by
    rw [known]
    exact fun live => WorkQueue.isHeldBack_later now (sound.free live)
  sent := by
    rw [known]
    cases queued : (d.queue.known key).queued with
    | true =>
      rw [kept queued, ← queued]
      exact sound.sent
    | false => exact Nat.zero_le _
  exact := by
    rw [known, forgotten]
    intro fresh
    have count := sound.exact fresh
    cases queued : (d.queue.known key).queued with
    | true => rw [kept queued, count, queued]
    | false =>
      rw [count, queued] at ready
      exact Nat.le_zero.1 ready

/-- An operation on another key leaves a key alone. -/
private theorem Sound.aside (sound : d.Sound key) {entry : QueueEntry}
    (becomes : d.queue.Becomes other entry after.queue) (apart : key ≠ other)
    (held : after.held key = d.held key) (forgotten : after.forgotten key = d.forgotten key)
    (now : after.now = d.now) : after.Sound key :=
  sound.kept (becomes.known key apart) held forgotten (Nat.le_of_eq (by rw [now]))
    (Nat.le_of_eq (becomes.ready key apart)) fun _ => becomes.ready key apart

/-- An operation on the key itself that does not change its entry changes nothing. -/
private theorem Sound.same (sound : d.Sound key)
    (becomes : d.queue.Becomes key (d.queue.known key) after.queue) (held : after.held key = d.held key)
    (forgotten : after.forgotten key = d.forgotten key) (now : after.now = d.now) : after.Sound key := by
  have sends : after.queue.ready.count key = d.queue.ready.count key :=
    Nat.add_right_cancel becomes.sends
  exact sound.kept becomes.own held forgotten (Nat.le_of_eq (by rw [now])) (Nat.le_of_eq sends)
    fun _ => sends

/-- An operation on the key itself keeps the sends in step with its entry. -/
private theorem Sound.becomes (sound : d.Sound key) {entry : QueueEntry}
    (becomes : d.queue.Becomes key entry after.queue)
    (forgotten : after.forgotten key = d.forgotten key)
    (handed : entry.inFlight = (after.held key).isSome)
    (apart : ¬(entry.queued = true ∧ entry.inFlight = true))
    (dirty : entry.dirty = true → entry.inFlight = true)
    (again : ∀ triggers, after.held key = some triggers → 0 < triggers → entry.dirty = true)
    (free : entry.queued = true ∨ entry.inFlight = true →
      WorkQueue.QueueEntry.isHeldBack entry after.now = false) : after.Sound key := by
  have sends := becomes.sends
  have sent := sound.sent
  refine ⟨?_, ?_, ?_, ?_, ?_, ?_, fun fresh => ?_⟩ <;> rw [becomes.own]
  · exact handed
  · exact apart
  · exact dirty
  · exact again
  · exact free
  · omega
  · have exact_ := sound.exact (forgotten ▸ fresh)
    omega

/-- A trigger or a timer leaves the hand-out of its key as it is. -/
private theorem Sound.triggered (sound : d.Sound key) {entry : QueueEntry}
    (becomes : d.queue.Becomes key entry.triggered after.queue)
    (queued : entry.queued = (d.queue.known key).queued)
    (inFlight : entry.inFlight = (d.queue.known key).inFlight)
    (dirty : entry.dirty = (d.queue.known key).dirty)
    (free : WorkQueue.QueueEntry.isHeldBack entry after.now = false)
    (held : (after.held key).isSome = (d.held key).isSome)
    (forgotten : after.forgotten key = d.forgotten key) : after.Sound key := by
  have handed := inFlight.trans (sound.handed.trans held.symm)
  have apart := sound.apart
  have soils := sound.dirty
  rw [← queued, ← inFlight] at apart
  rw [← dirty, ← inFlight] at soils
  refine sound.becomes becomes forgotten ?_ ?_ ?_ ?_ fun _ => ?_
  · exact (WorkQueue.triggered_eq entry).1.trans handed
  · unfold QueueEntry.triggered
    split
    case isTrue flies => exact fun both => apart ⟨both.1, flies⟩
    case isFalse lands => exact fun both => lands both.2
  · unfold QueueEntry.triggered
    split
    case isTrue flies => exact fun _ => flies
    case isFalse => exact soils
  · intro triggers isHeld _
    have flies : entry.inFlight = true := by
      rw [handed, isHeld]
      rfl
    rw [QueueEntry.triggered, if_pos flies]
  · rw [WorkQueue.isHeldBack_triggered]
    exact free

private theorem Sound.lands (sound : d.Sound key) (lands : d.queue.Lands key after.queue)
    (unheld : after.held key = none) (forgotten : after.forgotten key = d.forgotten key) :
    after.Sound key := by
  obtain ⟨entry, landed, becomes⟩ := lands
  have grounded : ¬entry.inFlight = true := Bool.eq_false_iff.1 landed.grounded
  refine sound.becomes becomes forgotten ?_ ?_ ?_ ?_ fun live => ?_
  · rw [landed.grounded, unheld]
    rfl
  · exact fun both => grounded both.2
  · rw [landed.clean]
    nofun
  · rw [unheld]
    nofun
  · exact WorkQueue.isHeldBack_closed (landed.unheld (live.resolve_right grounded))

/-- A key that is held back is not handed out. -/
theorem Sound.unheld (sound : d.Sound key)
    (isHeldBack : WorkQueue.QueueEntry.isHeldBack (d.queue.known key) d.now = true) :
    d.held key = none := by
  rw [← Option.not_isSome_iff_eq_none, ← sound.handed]
  intro flies
  cases (sound.free (.inr flies)).symm.trans isHeldBack

private theorem sound_add (sound : d.Sound key) (added : Key) : (d.step (.add added)).Sound key := by
  have becomes := d.queue.add_becomes d.now added
  by_cases own : key = added
  · subst own
    have held : (d.step (.add key)).held key = (d.held key).map (· + 1) := if_pos rfl
    rcases becomes with ⟨isHeldBack, becomes⟩ | ⟨free, becomes⟩
    · have unheld := sound.unheld isHeldBack
      exact sound.same becomes (by rw [held, unheld, Option.map_none]) rfl rfl
    · refine sound.triggered becomes rfl rfl rfl free ?_ rfl
      rw [held, Option.isSome_map]
  · rcases becomes with ⟨-, becomes⟩ | ⟨-, becomes⟩
    · exact sound.aside becomes own (if_neg own) rfl rfl
    · exact sound.aside becomes own (if_neg own) rfl rfl

private theorem sound_next (sound : d.Sound key) : (d.step .next).Sound key := by
  unfold step
  cases hands : d.queue.next with
  | mk queue handed =>
    cases handed with
    | none =>
      obtain ⟨rfl, idle⟩ := WorkQueue.next_idle hands
      refine sound.kept rfl rfl rfl (Nat.le_refl _) (Nat.zero_le _) fun queued => ?_
      exact (idle key queued).symm
    | some first =>
      have starts := WorkQueue.next_starts hands
      by_cases own : key = first
      · subst own
        have sends := starts.sends
        have lands : (d.queue.known key).inFlight = false :=
          Bool.eq_false_iff.2 fun flies => sound.apart ⟨starts.queued, flies⟩
        refine ⟨?_, ?_, ?_, ?_, ?_, ?_, fun fresh => ?_⟩ <;> dsimp only <;> rw [starts.own]
        · rw [if_pos rfl]
          rfl
        · nofun
        · intro; rfl
        · rw [if_pos rfl]
          rintro _ ⟨⟩ positive
          exact absurd positive (Nat.lt_irrefl 0)
        · exact fun _ => sound.free (.inl starts.queued)
        · exact Nat.zero_le _
        · have exact_ := sound.exact fresh
          rw [starts.queued] at exact_
          exact Nat.succ.inj (sends.trans exact_)
      · exact sound.kept (starts.known key own) (if_neg own) rfl (Nat.le_refl _) (starts.ready key own)
          (starts.kept key own)

private theorem sound_fire (sound : d.Sound key) (timer : QueueTimer) :
    (d.step (.fire timer)).Sound key := by
  unfold step
  dsimp only
  split
  case isFalse => exact sound
  case isTrue =>
    by_cases own : key = timer.key
    · subst own
      rcases d.queue.expire_becomes timer with becomes | becomes
      · exact sound.same becomes rfl rfl rfl
      · exact sound.triggered becomes rfl rfl rfl (WorkQueue.isHeldBack_closed rfl) rfl rfl
    · rcases d.queue.expire_becomes timer with becomes | becomes
      · exact sound.aside becomes own rfl rfl rfl
      · exact sound.aside becomes own rfl rfl rfl

/-- The report of a hand-out takes the key out of the worker's hands. -/
private theorem sound_report (sound : d.Sound key) {reported : Key} {queue : WorkQueue}
    (lands : d.queue.Lands reported queue) : ({ d.release reported with queue } : Dispatch).Sound key := by
  by_cases own : key = reported
  · subst own
    exact sound.lands lands (if_pos rfl) rfl
  · obtain ⟨entry, -, becomes⟩ := lands
    exact sound.aside becomes own (if_neg own) rfl rfl

private theorem sound_forget (sound : d.Sound key) (forgotten : Key) :
    (d.step (.forget forgotten)).Sound key := by
  have known := d.queue.forget_known forgotten key
  by_cases own : key = forgotten
  · subst own
    rw [if_pos rfl] at known
    refine sound_of_unknown known (if_pos rfl) fun fresh => ?_
    cases (show true = false from (if_pos rfl).symm.trans fresh)
  · rw [if_neg own] at known
    exact sound.kept known (if_neg own) (if_neg own) (Nat.le_refl _) (Nat.le_refl _) fun _ => rfl

/-- Every turn keeps what the flags say in agreement with the hand-outs and the sends. -/
theorem sound_step (sound : ∀ key, d.Sound key) (turn : Turn) : ∀ key, (d.step turn).Sound key := by
  intro key
  cases turn with
  | wait nanos =>
    exact (sound key).kept rfl rfl rfl (Nat.le_add_right ..) (Nat.le_refl _) fun _ => rfl
  | add added => exact sound_add (sound key) added
  | next => exact sound_next (sound key)
  | fire timer => exact sound_fire (sound key) timer
  | forget forgotten => exact sound_forget (sound key) forgotten
  | done reported delay =>
    by_cases handed : (d.held reported).isSome = true
    · have flies := (sound reported).handed.trans handed
      rw [step_done handed]
      exact sound_report (sound key) (WorkQueue.done_lands flies d.now delay)
    · rw [step_done_of_unheld handed]
      exact sound key
  | failed reported class_ =>
    by_cases handed : (d.held reported).isSome = true
    · have flies := (sound reported).handed.trans handed
      have idle := Bool.eq_false_iff.2 fun queued => (sound reported).apart ⟨queued, flies⟩
      rw [step_failed handed]
      exact sound_report (sound key) (WorkQueue.failed_lands flies idle d.now class_)
    · rw [step_failed_of_unheld handed]
      exact sound key

theorem sound_run (sound : ∀ key, d.Sound key) (turns : List Turn) :
    ∀ key, (d.run turns).Sound key := by
  induction turns generalizing d with
  | nil => exact sound
  | cons turn rest ih => exact ih (sound_step sound turn)

/-- What the queue promises about the hand-outs of a key. -/
structure Orderly (d : Dispatch) (key : Key) : Prop where
  /-- A key in someone's hands is not handed out again. -/
  once : ∀ queue, d.queue.next = (queue, some key) → d.held key = none
  apart : ¬((d.queue.known key).queued = true ∧ (d.queue.known key).inFlight = true)
  dirty : (d.queue.known key).dirty = true → (d.queue.known key).inFlight = true
  handed : (d.queue.known key).inFlight = true ↔ (d.held key).isSome = true
  sent : (d.queue.known key).queued = true → key ∈ d.queue.ready
  exact : d.forgotten key = false → d.queue.ready.count key = (d.queue.known key).queued.toNat
  /-- A trigger of a key in someone's hands sends nothing. -/
  silent : (d.held key).isSome = true → (d.queue.add d.now key).ready = d.queue.ready
  /-- Any number of triggers of a key in someone's hands send it once, as soon as it is done. -/
  coalesced : ∀ triggers, d.held key = some triggers → 0 < triggers → ∀ delay,
    (d.queue.done d.now key delay).ready = d.queue.ready ++ [key] ∧
      ((d.queue.done d.now key delay).known key).queued = true

theorem Sound.orderly (sound : d.Sound key) : d.Orderly key where
  once queue hands := by
    have queued := (WorkQueue.next_starts hands).queued
    rw [← Option.not_isSome_iff_eq_none, ← sound.handed]
    exact fun flies => sound.apart ⟨queued, flies⟩
  apart := sound.apart
  dirty := sound.dirty
  handed := by rw [sound.handed]
  sent queued := by
    have sent := sound.sent
    rw [queued] at sent
    exact List.count_pos_iff.1 sent
  exact := sound.exact
  silent handed := by
    have flies := sound.handed.trans handed
    exact WorkQueue.add_inFlight flies (sound.free (.inr flies))
  coalesced triggers held positive delay := by
    have flies : (d.queue.known key).inFlight = true := by
      rw [sound.handed, held]
      rfl
    have idle := Bool.eq_false_iff.2 fun queued => sound.apart ⟨queued, flies⟩
    exact WorkQueue.done_dirty flies idle (sound.again triggers held positive) delay

/-- Whatever happens to a queue, with whatever keys and at whatever times, no key is handed out twice at
once, and the triggers of a key that is handed out make one more run of it. -/
theorem hands_out_one_at_a_time (backoff : Backoff) (turns : List Turn) (key : Key) :
    (run { queue := { backoff } } turns).Orderly key := by
  refine (sound_run (fun key => sound_of_unknown ?_ rfl fun _ => ?_) turns key).orderly
  · rfl
  · rfl

/-- A volume that is triggered before it is handed out and twice while it is. Meanwhile nothing is sent and nothing
handed out; when it is done it is sent once, and handed out once. -/
theorem hands_out_one_at_a_time_volume :
    let key : Key := ⟨"volume", "data"⟩
    let busy := run { queue := { backoff := .standard } } [.add key, .next, .add key, .add key]
    let again := busy.step (.done key (.ofSeconds 10))
    let anew := again.step .next
    (busy.held key = some 2 ∧ busy.queue.ready = [] ∧ busy.queue.next.2 = none) ∧
      (again.held key = none ∧ again.queue.ready = [key] ∧ (again.queue.known key).queued = true) ∧
      anew.held key = some 0 ∧ anew.queue.ready = [] ∧ (anew.queue.known key).dirty = false := by
  intro key busy again anew
  have held : busy.held key = some 2 := by decide
  have handed : (busy.held key).isSome = true := Option.isSome_of_mem held
  have reported : again.queue = busy.queue.done busy.now key (.ofSeconds 10) := queue_of_done handed _
  have orderly : busy.Orderly key := hands_out_one_at_a_time .standard _ key
  obtain ⟨sent, queued⟩ := orderly.coalesced 2 held (by decide) (.ofSeconds 10)
  have silent : busy.queue.ready = [] := by decide
  rw [← reported, silent, List.nil_append] at sent
  rw [← reported] at queued
  exact ⟨⟨held, silent, by decide⟩, ⟨by decide, sent, queued⟩, by decide, by decide, by decide⟩

end Dispatch

end CloudKeeper
