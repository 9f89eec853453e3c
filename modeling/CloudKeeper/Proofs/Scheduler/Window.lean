import CloudKeeper.Proofs.Scheduler.Turn
/-!
Backoff windows. Within its window a key is handed out only if a timer of its entry's generation fires,
and the timer of the window does so at its end. Forgetting a key drops the number that generations are
told apart by, so a timer that was set before can be taken for the one of a window that is opened
afterwards: a window is kept exactly if no such timer is due before it ends.
-/
namespace CloudKeeper

open Time (Duration Instant)

/-- The key is kept within its window: it is neither queued nor handed out, triggers are left to a timer,
and no timer that would end the window is due sooner. -/
structure WorkQueue.Shut (q : WorkQueue) (key : Key) (ends : Nat) : Prop where
  idle : (q.known key).queued = false
  grounded : (q.known key).inFlight = false
  window : ∃ t, (q.known key).notBefore = some t ∧ ends ≤ t.nanos
  timers : ∀ timer ∈ q.timersOf key, timer.generation = (q.known key).generation →
    ends ≤ timer.due.nanos

namespace Dispatch

variable {d : Dispatch} {key : Key} {ends : Nat}

/-- Before its window ends, nothing but forgetting the key lets it out. -/
theorem Befalls.shut {turn : Turn} {after : WorkQueue} (befalls : Befalls d key turn after)
    (shut : d.queue.Shut key ends) (early : d.now.nanos < ends) (unforgotten : turn ≠ .forget key) :
    after.Shut key ends := by
  have grounded : (d.queue.known key).inFlight ≠ true := Bool.eq_false_iff.1 shut.grounded
  cases befalls with
  | nothing _ spares timers =>
    obtain ⟨idle, grounded, window, late⟩ := shut
    refine ⟨?_, ?_, ?_, fun timer set => ?_⟩ <;> rw [spares.known]
    · exact idle
    · exact grounded
    · exact window
    · exact late timer (timers.subset set)
  | triggered free _ _ =>
    obtain ⟨t, window, late⟩ := shut.window
    simp only [WorkQueue.QueueEntry.isHeldBack, window, Instant.before, decide_eq_false_iff_not] at free
    omega
  | handedOut queued => exact absurd queued (Bool.eq_false_iff.1 shut.idle)
  | awakened set due present _ _ =>
    have late := shut.timers _ set present
    omega
  | succeeded flies => exact absurd flies grounded
  | retried flies => exact absurd flies grounded
  | parked flies => exact absurd flies grounded
  | overflowed flies => exact absurd flies grounded
  | forgotten => exact absurd rfl unforgotten

theorem shut_run (sound : ∀ key, d.Sound key) (shut : d.queue.Shut key ends) {turns : List Turn}
    (unforgotten : .forget key ∉ turns) (early : (d.run turns).now.nanos < ends) :
    (d.run turns).queue.Shut key ends := by
  induction turns generalizing d with
  | nil => exact shut
  | cons turn rest ih =>
    have before : d.now.nanos < ends := Nat.lt_of_le_of_lt (now_le_run d (turn :: rest)) early
    obtain ⟨other, kept⟩ := not_or.1 (mt List.mem_cons.2 unforgotten)
    exact ih (sound_step sound turn)
      ((step_befalls sound key turn).shut shut before (Ne.symm other)) kept early

/-- A key that is handed out although it was kept within a window is so after the window's end. -/
theorem shut_keeps (sound : ∀ key, d.Sound key) (shut : d.queue.Shut key ends) {turns : List Turn}
    (unforgotten : .forget key ∉ turns) {queue : WorkQueue}
    (out : (d.run turns).queue.next = (queue, some key)) : ends ≤ (d.run turns).now.nanos := by
  refine Nat.le_of_not_lt fun early => ?_
  have queued := (WorkQueue.next_starts out).queued
  rw [(shut_run sound shut unforgotten early).idle] at queued
  cases queued

/-- What a failure that is retried leaves: a window, and its timer after those that were set before. -/
theorem retried_known (sound : ∀ key, d.Sound key) {class_ : ErrorClass} {delay : Duration}
    (handed : (d.held key).isSome = true)
    (returns : (d.queue.failed d.now key class_).2 = .after delay) :
    ∃ ends, d.now.after? delay = some ends ∧
      d.queue.backoff.retry? (WorkQueue.oneMore (d.queue.known key).failures) class_ = some delay ∧
      (d.step (.failed key class_)).queue.known key = (d.queue.known key).heldBack ends ∧
      (d.step (.failed key class_)).queue.timersOf key =
        d.queue.timersOf key ++ [⟨key, (d.queue.known key).generation + 1, ends⟩] := by
  have befalls := step_befalls sound key (.failed key class_)
  generalize (d.step (.failed key class_)).queue = after at befalls ⊢
  cases befalls with
  | nothing unreported =>
    rcases unreported with unheld | other
    · rw [unheld] at handed
      cases handed
    · exact absurd rfl other
  | retried flies retries within returns' known timers =>
    cases returns'.symm.trans returns
    exact ⟨_, within, retries, known, timers⟩
  | parked flies returns' => cases returns'.symm.trans returns
  | overflowed flies returns' => cases returns'.symm.trans returns

/-- A failure that is retried keeps its key within a window, unless a timer that was set before has the
number of the window's timer and is due sooner. -/
theorem shut_of_failed (sound : ∀ key, d.Sound key) {class_ : ErrorClass} {delay : Duration}
    (handed : (d.held key).isSome = true)
    (returns : (d.queue.failed d.now key class_).2 = .after delay)
    (late : ∀ timer ∈ d.queue.timersOf key,
      timer.generation = (d.queue.known key).generation + 1 →
        d.now.nanos + delay.toNanos ≤ timer.due.nanos) :
    (d.step (.failed key class_)).queue.Shut key (d.now.nanos + delay.toNanos) := by
  obtain ⟨ends, within, -, known, timers⟩ := retried_known sound handed returns
  have reads : ends.nanos = d.now.nanos + delay.toNanos := (Instant.after?_eq_some_iff.1 within).1
  refine ⟨?_, ?_, ⟨ends, ?_, Nat.le_of_eq reads.symm⟩, fun timer set => ?_⟩ <;> rw [known]
  · rfl
  · rfl
  · rfl
  · intro same
    rcases List.mem_append.1 (timers ▸ set) with before | new
    · exact late timer before same
    · cases List.mem_singleton.1 new
      exact Nat.le_of_eq reads.symm

private theorem step_next {queue : WorkQueue} {first : Key}
    (hands : d.queue.next = (queue, some first)) :
    (d.step .next).queue = queue ∧ (d.step .next).now = d.now := by
  unfold step
  rw [hands]
  exact ⟨rfl, rfl⟩

/-- A queued key is handed out, at once if need be, after the keys that were sent before it. -/
theorem handed_out_of_queued (sound : ∀ key, d.Sound key) (queued : (d.queue.known key).queued = true) :
    ∃ later queue, (∀ turn ∈ later, turn = .next) ∧ (d.run later).now = d.now ∧
      (d.run later).queue.next = (queue, some key) := by
  generalize length : d.queue.ready.length = n
  induction n using Nat.strongRecOn generalizing d with
  | ind n ih =>
    generalize hands : d.queue.next = outcome
    obtain ⟨after, _ | first⟩ := outcome
    · have unsent := (WorkQueue.next_idle hands).2 key queued
      exact absurd ((sound key).orderly.sent queued) (List.count_eq_zero.1 unsent)
    · by_cases own : key = first
      · subst own
        exact ⟨[], after, nofun, rfl, hands⟩
      · obtain ⟨queue, now⟩ := step_next hands
        have fewer : after.ready.length < n := length ▸ WorkQueue.next_shortens hands
        have still : (after.known key).queued = true := by
          rw [(WorkQueue.next_spares hands own).known]
          exact queued
        rw [← queue] at fewer still
        obtain ⟨later, last, nexts, same, out⟩ := ih _ fewer (sound_step sound .next) still rfl
        exact ⟨.next :: later, last, List.forall_mem_cons.2 ⟨rfl, nexts⟩, same.trans now, out⟩

/-- A turn in which time passes, a timer fires or a key is handed out, but nobody asks for anything. -/
def Turn.isQuiet : Turn → Bool
  | .wait _ | .fire _ | .next => true
  | .add _ | .done .. | .failed .. | .forget _ => false

/-- A timer of its entry's generation lets the key out once it is due, without anybody asking. -/
theorem let_out (sound : ∀ key, d.Sound key) {timer : QueueTimer}
    (set : timer ∈ d.queue.timersOf key) (found : d.queue.entries.get? key = some (d.queue.known key))
    (present : (d.queue.known key).generation = timer.generation)
    (grounded : (d.queue.known key).inFlight = false) :
    ∃ later queue, (∀ turn ∈ later, turn.isQuiet = true) ∧
      (d.run later).now.nanos = max d.now.nanos timer.due.nanos ∧
      (d.run later).queue.next = (queue, some key) := by
  obtain ⟨member, rfl⟩ := WorkQueue.mem_timersOf.1 set
  let waited := d.step (.wait (timer.due.nanos - d.now.nanos))
  have time : waited.now.nanos = max d.now.nanos timer.due.nanos := by
    change d.now.nanos + (timer.due.nanos - d.now.nanos) = _
    omega
  have due : timer.due.due waited.now = true := decide_eq_true (time ▸ Nat.le_max_right ..)
  have fires : waited.step (.fire timer) = { waited with queue := d.queue.expire timer } :=
    if_pos ⟨member, due⟩
  have queued : ((d.queue.expire timer).known timer.key).queued = true := by
    rw [WorkQueue.known_expire found present, QueueEntry.triggered]
    exact congrArg QueueEntry.queued (if_neg (Bool.eq_false_iff.1 grounded))
  have sound' := sound_step (sound_step sound (.wait (timer.due.nanos - d.now.nanos))) (.fire timer)
  obtain ⟨nexts, queue, only, same, out⟩ := handed_out_of_queued sound'
    ((congrArg (fun d => (d.queue.known timer.key).queued) fires).trans queued)
  refine ⟨.wait (timer.due.nanos - d.now.nanos) :: .fire timer :: nexts, queue, ?_, ?_, out⟩
  · refine List.forall_mem_cons.2 ⟨rfl, List.forall_mem_cons.2 ⟨rfl, fun turn member => ?_⟩⟩
    rw [only turn member]
    rfl
  · exact (congrArg Instant.nanos (same.trans (congrArg now fires))).trans time

/-- A failure of a cycle opens a backoff window. However the queue is used from then on, unless the key
is forgotten, the key is not handed out before the window ends, if and only if no timer that is left of
the key has the number of the window's timer and can fire sooner. -/
theorem window_kept_iff (backoff : Backoff) (turns : List Turn) (key : Key) (class_ : ErrorClass)
    (delay : Duration) :
    let d := run { queue := { backoff } } turns
    (d.held key).isSome = true → (d.queue.failed d.now key class_).2 = .after delay →
    let opened := d.step (.failed key class_)
    ((∀ later, .forget key ∉ later → ∀ queue, (opened.run later).queue.next = (queue, some key) →
        d.now.nanos + delay.toNanos ≤ (opened.run later).now.nanos) ↔
      ∀ timer ∈ d.queue.timersOf key, timer.generation = (d.queue.known key).generation + 1 →
        d.now.nanos + delay.toNanos ≤ max d.now.nanos timer.due.nanos) := by
  intro d handed returns opened
  have sound : ∀ key, d.Sound key := sound_run (sound_fresh backoff) turns
  have sound' : ∀ key, opened.Sound key := sound_step sound _
  obtain ⟨ends, within, -, known, timers⟩ := retried_known sound handed returns
  have now : opened.now = d.now := (congrArg Dispatch.now (step_failed handed class_)).trans rfl
  constructor
  · intro kept timer set same
    have found := WorkQueue.found_of_known (q := opened.queue) fun unknown => by
      cases known.symm.trans unknown
    obtain ⟨later, queue, quiet, time, out⟩ := let_out sound'
      (timers ▸ List.mem_append_left _ set) found (known ▸ same.symm) (by rw [known]; rfl)
    rw [← now, ← time]
    exact now ▸ kept later (fun forgets => nomatch quiet _ forgets) queue out
  · intro late later unforgotten queue out
    refine Nat.le_of_not_lt fun early => ?_
    have open_ : opened.now.nanos ≤ _ := now_le_run opened later
    have shut : opened.queue.Shut key (d.now.nanos + delay.toNanos) := by
      refine shut_of_failed sound handed returns fun timer set same => ?_
      have due := late timer set same
      rw [now] at open_
      omega
    exact absurd early (Nat.not_lt.2 (shut_keeps sound' shut unforgotten out))

/-- A volume that is handed out for the first time. -/
theorem window_kept_iff_volume :
    let key : Key := ⟨"volume", "data"⟩
    let d := run { queue := { backoff := .standard } } [.add key, .next]
    let opened := d.step (.failed key .transient)
    (d.held key).isSome = true ∧ (d.queue.failed d.now key .transient).2 = .after (.ofSeconds 1) ∧
      ((∀ later, .forget key ∉ later → ∀ queue, (opened.run later).queue.next = (queue, some key) →
          d.now.nanos + (Duration.ofSeconds 1).toNanos ≤ (opened.run later).now.nanos) ↔
        ∀ timer ∈ d.queue.timersOf key, timer.generation = (d.queue.known key).generation + 1 →
          d.now.nanos + (Duration.ofSeconds 1).toNanos ≤ max d.now.nanos timer.due.nanos) := by
  intro key d opened
  have handed : (d.held key).isSome = true := by decide
  have returns : (d.queue.failed d.now key .transient).2 = .after (.ofSeconds 1) := by decide
  exact ⟨handed, returns, window_kept_iff .standard [.add key, .next] key .transient _ handed returns⟩

/-- A volume that is polled after half a second is forgotten and added again. Its next cycle fails and is
to be tried again after a second; the timer that was set before the volume was forgotten hands it out
after half of that. -/
theorem forgotten_timer_ends_window :
    let key : Key := ⟨"volume", "data"⟩
    let timer : QueueTimer := ⟨key, 1, ⟨500000000⟩⟩
    let polled := run { queue := { backoff := .standard } } [.add key, .next, .done key (.ofMillis 500)]
    let d := polled.run [.forget key, .add key, .next]
    let fired := d.run [.failed key .transient, .wait 500000000, .fire timer]
    timer ∈ polled.queue.timersOf key ∧ polled.held key = none ∧ (d.held key).isSome = true ∧
      (d.queue.failed d.now key .transient).2 = .after (.ofSeconds 1) ∧
      fired.queue.next.2 = some key ∧
      fired.now.nanos < d.now.nanos + (Duration.ofSeconds 1).toNanos := by
  decide

end Dispatch

end CloudKeeper
