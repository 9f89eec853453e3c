import CloudKeeper.Proofs.Scheduler.HandOut
/-!
What one turn of a queue in use does to one key and to the timers of that key, said once. Whatever is to
be shown of backoff windows and of timers follows by looking at the few things that can befall a key.
-/
namespace CloudKeeper

open Time (Duration Instant)

namespace QueueEntry

/-- The entry after a success of its cycle, with the delay until the next one. -/
def succeeded (entry : QueueEntry) (delay : Duration) : QueueEntry :=
  { queued := entry.dirty || delay.isZero, generation := entry.generation + 1 }

/-- The entry after a failure that is retried when a backoff window ends. -/
def heldBack (entry : QueueEntry) (ends : Instant) : QueueEntry :=
  { notBefore := some ends, failures := WorkQueue.oneMore entry.failures
    generation := entry.generation + 1 }

/-- The entry after a failure for good. -/
def parked (entry : QueueEntry) : QueueEntry :=
  { queued := entry.dirty, failures := WorkQueue.oneMore entry.failures
    generation := entry.generation + 1 }

/-- The entry after a failure whose backoff window would end beyond the clock. -/
def overflowed (entry : QueueEntry) : QueueEntry :=
  { notBefore := entry.notBefore, failures := WorkQueue.oneMore entry.failures
    generation := entry.generation }

end QueueEntry

/-- The delay after which a failure of a class is retried, given the number of failures with it; a
permanent failure is not. -/
def Backoff.retry? (backoff : Backoff) (failures : UInt32) : ErrorClass → Option Duration
  | .transient => some (backoff.delay failures)
  | .poison => some backoff.max
  | .permanent => none

theorem Backoff.permanent_of_retry? {backoff : Backoff} {failures : UInt32} {class_ : ErrorClass}
    (ends : backoff.retry? failures class_ = none) : class_ = .permanent := by
  cases class_ with
  | transient => cases ends
  | poison => cases ends
  | permanent => rfl

/-- What a failure of a class comes to at some time: it is retried after its delay, unless it is permanent
or the delay ends beyond the clock. -/
def Backoff.retry (backoff : Backoff) (now : Instant) (failures : UInt32) (class_ : ErrorClass) : Retry :=
  match backoff.retry? failures class_ with
  | none => .parked
  | some delay => if (now.after? delay).isSome then .after delay else .overflow

namespace WorkQueue

variable {q : WorkQueue} {key other : Key} {entry : QueueEntry} {now : Instant} {delay : Duration}
  {timer : QueueTimer}

/-- The timers of a key that have not fired, in the order in which they were set. -/
def timersOf (q : WorkQueue) (key : Key) : List QueueTimer :=
  q.timers.filter fun timer => timer.key = key

section Timers

theorem mem_timersOf : timer ∈ q.timersOf key ↔ timer ∈ q.timers ∧ timer.key = key := by
  rw [timersOf, List.mem_filter, decide_eq_true_eq]

theorem timersOf_enqueue (q : WorkQueue) (key : Key) (entry : QueueEntry) (other : Key) :
    (q.enqueue key entry).timersOf other = q.timersOf other := by
  rw [timersOf, timers_enqueue, timersOf]

theorem timersOf_arm (q : WorkQueue) (now : Instant) (key : Key) (entry : QueueEntry)
    (delay : Duration) (other : Key) : (q.arm now key entry delay).timersOf other =
      q.timersOf other ++
        if key = other then [⟨key, entry.generation + 1, now.timerDue delay⟩] else [] := by
  rw [timersOf, arm, List.filter_append]
  by_cases own : key = other <;> simp [timersOf, own]

theorem timersOf_add (q : WorkQueue) (now : Instant) (key other : Key) :
    (q.add now key).timersOf other = q.timersOf other := by
  simp only [add]
  split
  · rfl
  · exact timersOf_enqueue ..

theorem timersOf_next (q : WorkQueue) (other : Key) : q.next.1.timersOf other = q.timersOf other := by
  rcases next_split q with ⟨does, -⟩ | ⟨_, _, _, _, -, -, -, -, does⟩ <;> rw [does] <;> rfl

theorem timersOf_expire (q : WorkQueue) (timer : QueueTimer) (other : Key) :
    (q.expire timer).timersOf other = (q.timersOf other).erase timer := by
  have fired : ∀ q : WorkQueue, (q.fire timer).timersOf other = q.timersOf other := by
    intro q
    unfold fire
    split
    · rfl
    · split
      · exact timersOf_enqueue ..
      · rfl
  rw [expire, fired, timersOf, timersOf, List.erase_filter]

end Timers

theorem known_enqueue (q : WorkQueue) (key : Key) (entry : QueueEntry) :
    (q.enqueue key entry).known key = entry.triggered :=
  known_of_found (get?_enqueue ..)

/-- A timer of another generation than its entry does nothing. -/
theorem expire_stale (stale : ∀ entry, q.entries.get? timer.key = some entry →
    entry.generation ≠ timer.generation) : q.expire timer = { q with timers := q.timers.erase timer } := by
  unfold expire fire
  cases found : q.entries.get? timer.key with
  | none => rfl
  | some entry => exact if_neg (stale entry found)

/-- A timer of its entry's generation closes the backoff window and triggers its key. -/
theorem known_expire (found : q.entries.get? timer.key = some entry)
    (present : entry.generation = timer.generation) :
    (q.expire timer).known timer.key = QueueEntry.triggered { entry with notBefore := none } := by
  unfold expire fire
  rw [found]
  dsimp only
  rw [if_pos present]
  exact known_enqueue ..

section Report

theorem get?_done (flies : (q.known key).inFlight = true) (idle : (q.known key).queued = false)
    (now : Instant) (delay : Duration) :
    (q.done now key delay).entries.get? key = some ((q.known key).succeeded delay) := by
  unfold done
  rw [found_of_inFlight flies]
  dsimp only
  split
  case isTrue again =>
    rw [get?_enqueue, QueueEntry.succeeded, again]
    rfl
  case isFalse waits =>
    simp only [Bool.or_eq_true, not_or, Bool.not_eq_true] at waits
    rw [get?_arm, QueueEntry.succeeded, idle, waits.1, waits.2]
    rfl

theorem timersOf_done (flies : (q.known key).inFlight = true) (now : Instant) (delay : Duration) :
    (q.done now key delay).timersOf key = q.timersOf key ++
      if ((q.known key).dirty || delay.isZero) = true then []
      else [⟨key, (q.known key).generation + 1, now.timerDue delay⟩] := by
  unfold done
  rw [found_of_inFlight flies]
  dsimp only
  split
  · rw [timersOf_enqueue, List.append_nil]
  · rw [timersOf_arm, if_pos rfl]

/-- A failure that is not retried sets no timer. -/
theorem failed_parks (flies : (q.known key).inFlight = true) (idle : (q.known key).queued = false)
    (now : Instant) : (q.failed now key .permanent).2 = .parked ∧
      (q.failed now key .permanent).1.known key = (q.known key).parked ∧
      (q.failed now key .permanent).1.timersOf key = q.timersOf key := by
  unfold failed
  rw [found_of_inFlight flies]
  dsimp only
  split
  case isTrue dirty =>
    refine ⟨rfl, ?_, timersOf_enqueue ..⟩
    rw [known_enqueue, QueueEntry.parked, dirty]
    rfl
  case isFalse clean =>
    refine ⟨rfl, ?_, rfl⟩
    rw [known_put, if_pos rfl, QueueEntry.parked, idle, Bool.eq_false_iff.2 clean]

private theorem failed_holdsBack (flies : (q.known key).inFlight = true) {class_ : ErrorClass}
    (retries : q.backoff.retry? (oneMore (q.known key).failures) class_ = some delay) :
    q.failed now key class_ = q.holdBack now key
      { q.known key with inFlight := false, failures := oneMore (q.known key).failures } delay := by
  unfold failed
  rw [found_of_inFlight flies]
  cases class_ <;> cases retries <;> rfl

/-- A failure that is retried sets a timer for the end of its backoff window, unless the window would end
beyond the clock. -/
theorem failed_retries (flies : (q.known key).inFlight = true) (idle : (q.known key).queued = false)
    (now : Instant) {class_ : ErrorClass}
    (retries : q.backoff.retry? (oneMore (q.known key).failures) class_ = some delay) :
    let after := q.failed now key class_
    (now.after? delay = none ∧ after.2 = .overflow ∧ after.1.known key = (q.known key).overflowed ∧
      after.1.timersOf key = q.timersOf key) ∨
    ∃ ends, now.after? delay = some ends ∧ after.2 = .after delay ∧
      after.1.known key = (q.known key).heldBack ends ∧
      after.1.timersOf key = q.timersOf key ++ [⟨key, (q.known key).generation + 1, ends⟩] := by
  intro after
  have does : after = _ := failed_holdsBack flies retries
  rcases holdBack_cases q now key _ delay with ⟨beyond, overflows⟩ | ⟨ends, within, holds⟩
  · rw [does, overflows]
    refine .inl ⟨beyond, rfl, ?_, rfl⟩
    rw [known_put, if_pos rfl, QueueEntry.overflowed, idle]
  · rw [does, holds]
    refine .inr ⟨ends, within, rfl, ?_, ?_⟩
    · rw [known_of_found get?_arm, QueueEntry.heldBack, idle]
    · rw [timersOf_arm, if_pos rfl, Instant.timerDue_of_after? within]

theorem failed_returns (flies : (q.known key).inFlight = true) (idle : (q.known key).queued = false)
    (now : Instant) (class_ : ErrorClass) : (q.failed now key class_).2 =
      q.backoff.retry now (oneMore (q.known key).failures) class_ := by
  rw [Backoff.retry]
  cases retries : q.backoff.retry? (oneMore (q.known key).failures) class_ with
  | none =>
    obtain rfl := Backoff.permanent_of_retry? retries
    exact (failed_parks flies idle now).1
  | some delay =>
    dsimp only
    rcases failed_retries flies idle now retries with ⟨beyond, returns, -⟩ | ⟨ends, within, returns, -⟩
    · rw [returns, beyond]
      rfl
    · rw [returns, within]
      rfl

theorem timersOf_done_other (apart : other ≠ key) (now : Instant) (delay : Duration) :
    (q.done now key delay).timersOf other = q.timersOf other := by
  unfold done
  split
  · rfl
  · dsimp only
    split
    · exact timersOf_enqueue ..
    · rw [timersOf_arm, if_neg apart.symm, List.append_nil]

private theorem timersOf_holdBack_other (apart : other ≠ key) (now : Instant) (delay : Duration) :
    (q.holdBack now key entry delay).1.timersOf other = q.timersOf other := by
  rcases holdBack_cases q now key entry delay with ⟨-, does⟩ | ⟨ends, -, does⟩ <;> rw [does]
  · rfl
  · rw [timersOf_arm, if_neg apart.symm, List.append_nil]

theorem timersOf_failed_other (apart : other ≠ key) (now : Instant) (class_ : ErrorClass) :
    (q.failed now key class_).1.timersOf other = q.timersOf other := by
  unfold failed
  split
  · rfl
  · dsimp only
    split
    · exact timersOf_holdBack_other apart now _
    · exact timersOf_holdBack_other apart now _
    · split
      · exact timersOf_enqueue ..
      · rfl

end Report

section Backoff

theorem backoff_enqueue (q : WorkQueue) (key : Key) (entry : QueueEntry) :
    (q.enqueue key entry).backoff = q.backoff := by
  unfold enqueue
  split
  · rfl
  · split <;> rfl

theorem backoff_add (q : WorkQueue) (now : Instant) (key : Key) :
    (q.add now key).backoff = q.backoff := by
  simp only [add]
  split
  · rfl
  · exact backoff_enqueue ..

theorem backoff_next (q : WorkQueue) : q.next.1.backoff = q.backoff := by
  rcases next_split q with ⟨does, -⟩ | ⟨_, _, _, _, -, -, -, -, does⟩
  · exact congrArg (fun outcome => outcome.1.backoff) does
  · exact congrArg (fun outcome => outcome.1.backoff) does

theorem backoff_expire (q : WorkQueue) (timer : QueueTimer) :
    (q.expire timer).backoff = q.backoff := by
  unfold expire fire
  split
  · rfl
  · split
    · exact backoff_enqueue ..
    · rfl

theorem backoff_done (q : WorkQueue) (now : Instant) (key : Key) (delay : Duration) :
    (q.done now key delay).backoff = q.backoff := by
  unfold done
  split
  · rfl
  · dsimp only
    split
    · exact backoff_enqueue ..
    · rfl

private theorem backoff_holdBack (delay : Duration) :
    (q.holdBack now key entry delay).1.backoff = q.backoff := by
  rcases holdBack_cases q now key entry delay with ⟨-, does⟩ | ⟨ends, -, does⟩ <;> rw [does] <;> rfl

theorem backoff_failed (q : WorkQueue) (now : Instant) (key : Key) (class_ : ErrorClass) :
    (q.failed now key class_).1.backoff = q.backoff := by
  unfold failed
  split
  · rfl
  · dsimp only
    split
    · exact backoff_holdBack _
    · exact backoff_holdBack _
    · split
      · exact backoff_enqueue ..
      · rfl

end Backoff

end WorkQueue

namespace Dispatch

variable {d : Dispatch} {key : Key}

/-- The key whose hand-out a turn reports. -/
def Turn.reported? : Turn → Option Key
  | .done key _ | .failed key _ => some key
  | _ => none

/-- What a turn does to one key and to its timers. -/
inductive Befalls (d : Dispatch) (key : Key) : Turn → WorkQueue → Prop
  /-- The turn is about other keys, or comes to nothing. A timer of the key may have fired, but none of its
  entry's generation. -/
  | nothing {turn after} (unreported : d.held key = none ∨ turn.reported? ≠ some key)
      (spares : d.queue.Spares after key)
      (timers : (after.timersOf key).Sublist (d.queue.timersOf key)) : Befalls d key turn after
  | triggered {after} (free : WorkQueue.QueueEntry.isHeldBack (d.queue.known key) d.now = false)
      (known : after.known key = (d.queue.known key).triggered)
      (timers : after.timersOf key = d.queue.timersOf key) : Befalls d key (.add key) after
  | handedOut {after} (queued : (d.queue.known key).queued = true)
      (known : after.known key = { d.queue.known key with queued := false, inFlight := true })
      (timers : after.timersOf key = d.queue.timersOf key) : Befalls d key .next after
  | awakened {timer after} (set : timer ∈ d.queue.timersOf key) (due : timer.due.nanos ≤ d.now.nanos)
      (present : timer.generation = (d.queue.known key).generation)
      (known : after.known key = QueueEntry.triggered { d.queue.known key with notBefore := none })
      (timers : after.timersOf key = (d.queue.timersOf key).erase timer) : Befalls d key (.fire timer) after
  | succeeded {delay after} (flies : (d.queue.known key).inFlight = true)
      (known : after.known key = (d.queue.known key).succeeded delay)
      (timers : after.timersOf key = d.queue.timersOf key ++
        if ((d.queue.known key).dirty || delay.isZero) = true then []
        else [⟨key, (d.queue.known key).generation + 1, d.now.timerDue delay⟩]) :
      Befalls d key (.done key delay) after
  | retried {class_ delay ends after} (flies : (d.queue.known key).inFlight = true)
      (retries : d.queue.backoff.retry? (WorkQueue.oneMore (d.queue.known key).failures) class_ = some delay)
      (within : d.now.after? delay = some ends)
      (returns : (d.queue.failed d.now key class_).2 = .after delay)
      (known : after.known key = (d.queue.known key).heldBack ends)
      (timers : after.timersOf key =
        d.queue.timersOf key ++ [⟨key, (d.queue.known key).generation + 1, ends⟩]) :
      Befalls d key (.failed key class_) after
  | parked {after} (flies : (d.queue.known key).inFlight = true)
      (returns : (d.queue.failed d.now key .permanent).2 = .parked)
      (known : after.known key = (d.queue.known key).parked)
      (timers : after.timersOf key = d.queue.timersOf key) : Befalls d key (.failed key .permanent) after
  | overflowed {class_ after} (flies : (d.queue.known key).inFlight = true)
      (returns : (d.queue.failed d.now key class_).2 = .overflow)
      (known : after.known key = (d.queue.known key).overflowed)
      (timers : after.timersOf key = d.queue.timersOf key) : Befalls d key (.failed key class_) after
  | forgotten {after} : Befalls d key (.forget key) after

/-- A turn that changes nothing befalls no key. -/
private theorem befalls_idle {turn : Turn} (unreported : d.held key = none ∨ turn.reported? ≠ some key) :
    Befalls d key turn d.queue :=
  .nothing unreported (.refl d.queue key) (List.Sublist.refl _)

private theorem befalls_add (d : Dispatch) (key added : Key) :
    Befalls d key (.add added) (d.queue.add d.now added) := by
  have timers := WorkQueue.timersOf_add d.queue d.now added key
  by_cases own : key = added
  · subst own
    by_cases held : WorkQueue.QueueEntry.isHeldBack (d.queue.known key) d.now = true
    · have does : d.queue.add d.now key = d.queue.put key (d.queue.known key) := if_pos held
      have found : d.queue.entries.get? key = some (d.queue.known key) := by
        refine WorkQueue.found_of_known fun unknown => ?_
        rw [unknown] at held
        cases held
      rw [does]
      exact .nothing (.inr nofun) (WorkQueue.put_same found) (List.Sublist.refl _)
    · have does : d.queue.add d.now key = d.queue.enqueue key (d.queue.known key) := if_neg held
      rw [does] at timers ⊢
      exact .triggered (Bool.eq_false_iff.2 held) (WorkQueue.known_enqueue ..) timers
  · exact .nothing (.inr nofun) (WorkQueue.add_spares own) (timers ▸ List.Sublist.refl _)

private theorem befalls_next (d : Dispatch) (key : Key) : Befalls d key .next d.queue.next.1 := by
  have timers := WorkQueue.timersOf_next d.queue key
  generalize hands : d.queue.next = outcome at timers ⊢
  obtain ⟨after, _ | first⟩ := outcome
  · exact .nothing (.inr nofun) (WorkQueue.next_none hands key) (timers ▸ List.Sublist.refl _)
  · by_cases own : key = first
    · subst own
      have starts := WorkQueue.next_starts hands
      exact .handedOut starts.queued starts.own timers
    · exact .nothing (.inr nofun) (WorkQueue.next_spares hands own) (timers ▸ List.Sublist.refl _)

private theorem befalls_fire (d : Dispatch) (key : Key) {timer : QueueTimer}
    (set : timer ∈ d.queue.timers) (due : timer.due.nanos ≤ d.now.nanos) :
    Befalls d key (.fire timer) (d.queue.expire timer) := by
  have timers := WorkQueue.timersOf_expire d.queue timer key
  have fewer : ((d.queue.expire timer).timersOf key).Sublist (d.queue.timersOf key) :=
    timers ▸ List.erase_sublist
  by_cases own : key = timer.key
  · subst own
    by_cases present : ∃ entry, d.queue.entries.get? timer.key = some entry ∧
        entry.generation = timer.generation
    · obtain ⟨entry, found, present⟩ := present
      have known := WorkQueue.known_of_found found
      refine .awakened (WorkQueue.mem_timersOf.2 ⟨set, rfl⟩) due (known ▸ present.symm) ?_ timers
      rw [known, WorkQueue.known_expire found present]
    · simp only [not_exists, not_and] at present
      refine .nothing (.inr nofun) ?_ fewer
      rw [WorkQueue.expire_stale present]
      refine ⟨rfl, fun _ _ _ sent => sent, fun entry found other member _ current => ?_⟩
      refine (List.mem_erase_of_ne fun same => present entry found ?_).2 member
      rw [← current, same]
  · exact .nothing (.inr nofun) (WorkQueue.expire_spares own) fewer

/-- A report by somebody who has not been handed its key is none. -/
private theorem unreported_of_unheld {reported : Key} {turn : Turn}
    (reports : turn.reported? = some reported) (unheld : ¬(d.held reported).isSome = true) (key : Key) :
    d.held key = none ∨ turn.reported? ≠ some key := by
  by_cases own : key = reported
  · subst own
    exact .inl (Option.not_isSome_iff_eq_none.1 unheld)
  · rw [reports]
    exact .inr fun same => own (Option.some.inj same).symm

theorem Sound.outstanding (sound : d.Sound key) (handed : (d.held key).isSome = true) :
    (d.queue.known key).inFlight = true ∧ (d.queue.known key).queued = false := by
  have flies := sound.handed.trans handed
  exact ⟨flies, Bool.eq_false_iff.2 fun queued => sound.apart ⟨queued, flies⟩⟩

private theorem befalls_done (sound : ∀ key, d.Sound key) (key : Key) {reported : Key} (delay : Duration)
    (handed : (d.held reported).isSome = true) :
    Befalls d key (.done reported delay) (d.queue.done d.now reported delay) := by
  by_cases own : key = reported
  · subst own
    obtain ⟨flies, idle⟩ := (sound key).outstanding handed
    exact .succeeded flies (WorkQueue.known_of_found (WorkQueue.get?_done flies idle d.now delay))
      (WorkQueue.timersOf_done flies d.now delay)
  · refine .nothing (.inr fun same => own (Option.some.inj same).symm)
      (WorkQueue.done_spares own d.now delay) ?_
    simp only [WorkQueue.timersOf_done_other own, List.Sublist.refl]

private theorem befalls_failed (sound : ∀ key, d.Sound key) (key : Key) {reported : Key}
    (class_ : ErrorClass) (handed : (d.held reported).isSome = true) :
    Befalls d key (.failed reported class_) (d.queue.failed d.now reported class_).1 := by
  by_cases own : key = reported
  · subst own
    obtain ⟨flies, idle⟩ := (sound key).outstanding handed
    cases retries : d.queue.backoff.retry? (WorkQueue.oneMore (d.queue.known key).failures) class_ with
    | none =>
      obtain rfl := Backoff.permanent_of_retry? retries
      obtain ⟨returns, known, timers⟩ := WorkQueue.failed_parks flies idle d.now
      exact .parked flies returns known timers
    | some delay =>
      rcases WorkQueue.failed_retries flies idle d.now retries with
        ⟨-, returns, known, timers⟩ | ⟨ends, within, returns, known, timers⟩
      · exact .overflowed flies returns known timers
      · exact .retried flies retries within returns known timers
  · refine .nothing (.inr fun same => own (Option.some.inj same).symm)
      (WorkQueue.failed_spares own d.now class_) ?_
    simp only [WorkQueue.timersOf_failed_other own, List.Sublist.refl]

/-- Every turn does one of these things to every key. -/
theorem step_befalls (sound : ∀ key, d.Sound key) (key : Key) (turn : Turn) :
    Befalls d key turn (d.step turn).queue := by
  cases turn with
  | wait nanos => exact befalls_idle (.inr nofun)
  | add added => exact befalls_add d key added
  | next =>
    have befalls := befalls_next d key
    unfold step
    generalize d.queue.next = outcome at befalls ⊢
    obtain ⟨after, _ | first⟩ := outcome <;> exact befalls
  | fire timer =>
    unfold step
    dsimp only
    split
    case isTrue ready => exact befalls_fire d key ready.1 (of_decide_eq_true ready.2)
    case isFalse => exact befalls_idle (.inr nofun)
  | done reported delay =>
    by_cases handed : (d.held reported).isSome = true
    · rw [step_done handed]
      exact befalls_done sound key delay handed
    · rw [step_done_of_unheld handed]
      exact befalls_idle (unreported_of_unheld rfl handed key)
  | failed reported class_ =>
    by_cases handed : (d.held reported).isSome = true
    · rw [step_failed handed]
      exact befalls_failed sound key class_ handed
    · rw [step_failed_of_unheld handed]
      exact befalls_idle (unreported_of_unheld rfl handed key)
  | forget forgotten =>
    by_cases own : key = forgotten
    · subst own
      exact .forgotten
    · exact .nothing (.inr nofun) (WorkQueue.forget_spares own) (List.Sublist.refl _)

/-- Time does not go back. -/
theorem now_le_step (d : Dispatch) (turn : Turn) : d.now.nanos ≤ (d.step turn).now.nanos := by
  cases turn with
  | wait nanos => exact Nat.le_add_right ..
  | add added => exact Nat.le_refl _
  | forget forgotten => exact Nat.le_refl _
  | next | fire timer | done reported delay | failed reported class_ =>
    unfold step
    dsimp only
    split <;> exact Nat.le_refl _

theorem now_le_run (d : Dispatch) (turns : List Turn) : d.now.nanos ≤ (d.run turns).now.nanos := by
  induction turns generalizing d with
  | nil => exact Nat.le_refl _
  | cons turn rest ih => exact Nat.le_trans (now_le_step d turn) (ih (d.step turn))

theorem backoff_step (d : Dispatch) (turn : Turn) : (d.step turn).queue.backoff = d.queue.backoff := by
  cases turn with
  | wait nanos => rfl
  | add added => exact WorkQueue.backoff_add ..
  | next =>
    have same := WorkQueue.backoff_next d.queue
    unfold step
    generalize d.queue.next = outcome at same ⊢
    obtain ⟨after, _ | first⟩ := outcome <;> exact same
  | fire timer =>
    unfold step
    dsimp only
    split
    · exact WorkQueue.backoff_expire ..
    · rfl
  | done reported delay =>
    unfold step
    dsimp only
    split
    · exact WorkQueue.backoff_done ..
    · rfl
  | failed reported class_ =>
    unfold step
    dsimp only
    split
    · exact WorkQueue.backoff_failed ..
    · rfl
  | forget forgotten => rfl

theorem backoff_run (d : Dispatch) (turns : List Turn) :
    (d.run turns).queue.backoff = d.queue.backoff := by
  induction turns generalizing d with
  | nil => rfl
  | cons turn rest ih => exact (ih (d.step turn)).trans (d.backoff_step turn)

/-- A queue that nothing has happened to agrees with what has happened. -/
theorem sound_fresh (backoff : Backoff) : ∀ key, ({ queue := { backoff } } : Dispatch).Sound key :=
  fun _ => sound_of_unknown rfl rfl fun _ => rfl

end Dispatch

end CloudKeeper
