import CloudKeeper.Proofs.Scheduler.Retry
/-!
A key whose cycle has failed for good waits for a trigger. It gets one at once if it was triggered while it
was handed out, and the queue does not ask who did that: a timer that was set after an earlier cycle, and has
not lost its effect when the key is handed out before it fires, counts as well. So the key waits exactly if
no such timer has fired in the meantime.
-/
namespace CloudKeeper

open Time (Duration Instant)

namespace WorkQueue

/-- The key waits to be triggered, and none of its timers can do that. -/
structure Parked (q : WorkQueue) (key : Key) : Prop where
  idle : (q.known key).queued = false
  grounded : (q.known key).inFlight = false
  stale : ∀ timer ∈ q.timersOf key, timer.generation ≠ (q.known key).generation

/-- A timer of the key is left that has the number which the key is to be given next. -/
def Lingers (q : WorkQueue) (key : Key) : Prop :=
  ∃ timer ∈ q.timersOf key, timer.generation = (q.known key).generation + 1

end WorkQueue

namespace Dispatch

variable {d : Dispatch} {key : Key} {turn : Turn} {after : WorkQueue}

/-- The turn lets a timer fire that is of its key's present generation. -/
def Wakes (d : Dispatch) (key : Key) : Turn → Prop
  | .fire timer => timer ∈ d.queue.timersOf key ∧ timer.due.nanos ≤ d.now.nanos ∧
    timer.generation = (d.queue.known key).generation
  | _ => False

/-- Among some turns there is one that wakes the key. -/
def Awakened (key : Key) : Dispatch → List Turn → Prop
  | _, [] => False
  | d, turn :: rest => d.Wakes key turn ∨ Awakened key (d.step turn) rest

/-- The turn is nothing that the holder of the key or its author does: no report, trigger or end of it. -/
def Turn.LeavesOut (key : Key) (turn : Turn) : Prop :=
  turn.reported? ≠ some key ∧ turn ≠ .add key ∧ turn ≠ .forget key

/-! ## While the key is handed out -/

private theorem known_of_wakes (flies : (d.queue.known key).inFlight = true) (wakes : d.Wakes key turn) :
    (d.step turn).queue.known key =
      QueueEntry.triggered { d.queue.known key with notBefore := none } := by
  cases turn with
  | fire timer =>
    obtain ⟨set, due, present⟩ := wakes
    obtain ⟨member, rfl⟩ := WorkQueue.mem_timersOf.1 set
    have fires : d.step (.fire timer) = { d with queue := d.queue.expire timer } :=
      if_pos ⟨member, decide_eq_true due⟩
    rw [fires]
    exact WorkQueue.known_expire (WorkQueue.found_of_inFlight flies) present.symm
  | _ => exact wakes.elim

/-- A key that is handed out stays so and keeps its mark, unless a timer wakes it. -/
private theorem Befalls.aloft (befalls : Befalls d key turn after)
    (flies : (d.queue.known key).inFlight = true) (idle : (d.queue.known key).queued = false)
    (leaves : turn.LeavesOut key) (asleep : ¬d.Wakes key turn) :
    (after.known key).inFlight = true ∧ (after.known key).dirty = (d.queue.known key).dirty := by
  obtain ⟨unreported, unadded, unforgotten⟩ := leaves
  cases befalls with
  | nothing _ spares =>
    rw [spares.known]
    exact ⟨flies, rfl⟩
  | triggered => exact absurd rfl unadded
  | handedOut queued => exact absurd queued (Bool.eq_false_iff.1 idle)
  | awakened set due present => exact absurd ⟨set, due, present⟩ asleep
  | succeeded => exact absurd rfl unreported
  | retried => exact absurd rfl unreported
  | parked => exact absurd rfl unreported
  | overflowed => exact absurd rfl unreported
  | forgotten => exact absurd rfl unforgotten

private theorem aloft_step (sound : ∀ key, d.Sound key) (flies : (d.queue.known key).inFlight = true)
    (leaves : turn.LeavesOut key) :
    ((d.step turn).queue.known key).inFlight = true ∧
      (((d.step turn).queue.known key).dirty = true ↔
        (d.queue.known key).dirty = true ∨ d.Wakes key turn) := by
  by_cases wakes : d.Wakes key turn
  · rw [known_of_wakes flies wakes, QueueEntry.triggered, if_pos flies]
    exact ⟨flies, fun _ => .inr wakes, fun _ => rfl⟩
  · have idle := ((sound key).outstanding ((sound key).handed ▸ flies)).2
    obtain ⟨still, same⟩ := (step_befalls sound key turn).aloft flies idle leaves wakes
    rw [same, or_iff_left wakes]
    exact ⟨still, Iff.rfl⟩

/-- While a key is handed out and nobody triggers it, it is marked exactly by its timers. -/
theorem aloft_run (sound : ∀ key, d.Sound key) (flies : (d.queue.known key).inFlight = true)
    {turns : List Turn} (leaves : ∀ turn ∈ turns, turn.LeavesOut key) :
    ((d.run turns).queue.known key).inFlight = true ∧
      (((d.run turns).queue.known key).dirty = true ↔
        (d.queue.known key).dirty = true ∨ d.Awakened key turns) := by
  induction turns generalizing d with
  | nil => exact ⟨flies, (or_iff_left id).symm⟩
  | cons turn rest ih =>
    obtain ⟨own, others⟩ := List.forall_mem_cons.1 leaves
    obtain ⟨still, marked⟩ := aloft_step sound flies own
    obtain ⟨flies', marked'⟩ := ih (sound_step sound turn) still others
    refine ⟨flies', marked'.trans ?_⟩
    rw [marked, or_assoc]
    rfl

/-- A key that is handed out has not been marked yet. -/
theorem next_clean (sound : ∀ key, d.Sound key) {queue : WorkQueue}
    (hands : d.queue.next = (queue, some key)) :
    ((d.step .next).queue.known key).inFlight = true ∧
      ((d.step .next).queue.known key).dirty = false := by
  have starts := WorkQueue.next_starts hands
  have does : (d.step .next).queue = queue := by
    unfold step
    rw [hands]
  rw [does, starts.own]
  refine ⟨rfl, Bool.eq_false_iff.2 fun dirty => ?_⟩
  exact (sound key).apart ⟨starts.queued, (sound key).dirty dirty⟩

/-! ## While it is parked -/

/-- Nothing but a trigger lets a parked key out. -/
private theorem Befalls.stays_parked (befalls : Befalls d key turn after)
    (parked : d.queue.Parked key) (unadded : turn ≠ .add key) (unforgotten : turn ≠ .forget key) :
    after.Parked key := by
  have grounded : (d.queue.known key).inFlight ≠ true := Bool.eq_false_iff.1 parked.grounded
  cases befalls with
  | nothing _ spares timers =>
    refine ⟨?_, ?_, fun timer set => ?_⟩ <;> rw [spares.known]
    · exact parked.idle
    · exact parked.grounded
    · exact parked.stale timer (timers.subset set)
  | triggered => exact absurd rfl unadded
  | handedOut queued => exact absurd queued (Bool.eq_false_iff.1 parked.idle)
  | awakened set _ present => exact absurd present (parked.stale _ set)
  | succeeded flies => exact absurd flies grounded
  | retried flies => exact absurd flies grounded
  | parked flies => exact absurd flies grounded
  | overflowed flies => exact absurd flies grounded
  | forgotten => exact absurd rfl unforgotten

theorem parked_run (sound : ∀ key, d.Sound key) (parked : d.queue.Parked key) {turns : List Turn}
    (unadded : .add key ∉ turns) (unforgotten : .forget key ∉ turns) :
    (d.run turns).queue.Parked key := by
  induction turns generalizing d with
  | nil => exact parked
  | cons turn rest ih =>
    obtain ⟨other, others⟩ := not_or.1 (mt List.mem_cons.2 unadded)
    obtain ⟨kept, keeps⟩ := not_or.1 (mt List.mem_cons.2 unforgotten)
    exact ih (sound_step sound turn)
      ((step_befalls sound key turn).stays_parked parked (Ne.symm other) (Ne.symm kept)) others keeps

/-- A failure for good leaves the key marked or waiting. -/
private theorem failed_permanent (sound : ∀ key, d.Sound key)
    (flies : (d.queue.known key).inFlight = true) :
    (d.step (.failed key .permanent)).queue.known key = (d.queue.known key).parked ∧
      (d.step (.failed key .permanent)).queue.timersOf key = d.queue.timersOf key := by
  have handed : (d.held key).isSome = true := (sound key).handed ▸ flies
  rw [queue_of_failed handed]
  exact (WorkQueue.failed_parks flies ((sound key).outstanding handed).2 d.now).2

/-- A key that has been reported as failed for good is let out without a trigger exactly if it has been
marked, or a timer is left that has its new number. -/
private theorem released_iff (sound : ∀ key, d.Sound key)
    (flies : (d.queue.known key).inFlight = true) :
    (∀ later, .add key ∉ later → .forget key ∉ later → ∀ queue,
      ((d.step (.failed key .permanent)).run later).queue.next ≠ (queue, some key)) ↔
        (d.queue.known key).dirty = false ∧ ¬d.queue.Lingers key := by
  obtain ⟨known, timers⟩ := failed_permanent sound flies
  have sound' := sound_step sound (.failed key .permanent)
  generalize d.step (.failed key .permanent) = reported at known timers sound' ⊢
  constructor
  · intro stays
    refine ⟨Bool.eq_false_iff.2 fun dirty => ?_, fun ⟨timer, set, same⟩ => ?_⟩
    · have queued : (reported.queue.known key).queued = true := known ▸ dirty
      obtain ⟨later, queue, nexts, -, out⟩ := handed_out_of_queued sound' queued
      exact stays later (fun adds => nomatch nexts _ adds) (fun ends => nomatch nexts _ ends) queue out
    · have found := WorkQueue.found_of_known (q := reported.queue) fun unknown => by
        -- a failure has been counted
        have failures := congrArg QueueEntry.failures (unknown.symm.trans known)
        have counted := WorkQueue.oneMore_toNat (d.queue.known key).failures
        rw [← show (0 : UInt32) = WorkQueue.oneMore _ from failures, UInt32.toNat_zero,
          UInt32.size] at counted
        omega
      obtain ⟨later, queue, quiet, -, out⟩ := let_out sound' (timers ▸ set) found
        (known ▸ same.symm) (by rw [known]; rfl)
      exact stays later (fun adds => Bool.false_ne_true (quiet _ adds))
        (fun ends => Bool.false_ne_true (quiet _ ends)) queue out
  · rintro ⟨clean, unlingering⟩ later unadded unforgotten queue out
    have parked : reported.queue.Parked key := by
      refine ⟨?_, ?_, fun timer set same => ?_⟩
      · rw [known]
        exact clean
      · rw [known]
        rfl
      · rw [known] at same
        exact unlingering ⟨timer, timers ▸ set, same⟩
    have idle := (parked_run sound' parked unadded unforgotten).idle
    rw [(WorkQueue.next_starts out).queued] at idle
    cases idle

/-- While the numbers of its timers are not used twice, no timer of a key has the next one. -/
theorem not_lingers (backoff : Backoff) (key : Key) {turns : List Turn} (unforgotten : .forget key ∉ turns)
    (few : ((Ledger.fresh backoff).run key turns).generations + 1 < UInt64.size) :
    ¬(run { queue := { backoff } } turns).queue.Lingers key := by
  have balanced := (Ledger.balanced_fresh backoff key).run (sound_fresh backoff) unforgotten
    (Nat.lt_of_succ_lt few)
  have same := Ledger.run_dispatch key (Ledger.fresh backoff) turns
  rintro ⟨timer, set, next⟩
  change (Ledger.run key (Ledger.fresh backoff) turns).dispatch.queue.Tallies key _ _ at balanced
  rw [same] at balanced
  have past := balanced.past timer set
  rw [next] at past
  exact absurd (balanced.grows few) (UInt64.not_lt.2 past)

/-- A key is handed out, and reported as failed for good without having been triggered in between. However
the queue is used from then on, unless the key is triggered or forgotten, it is not handed out again, if and
only if no timer of its generation fired while it was handed out and no timer is left that has the number it
has now. There is none left of that number as long as the key is not forgotten and numbers are not used
twice. -/
theorem parked_until_added_iff (backoff : Backoff) (before during : List Turn) (key : Key)
    (queue : WorkQueue) (leaves : ∀ turn ∈ during, turn.LeavesOut key) :
    let d := run { queue := { backoff } } before
    d.queue.next = (queue, some key) →
    let out := d.step .next
    let called := out.run during
    let parked := called.step (.failed key .permanent)
    ((∀ later, .add key ∉ later → .forget key ∉ later → ∀ queue,
        (parked.run later).queue.next ≠ (queue, some key)) ↔
      ¬out.Awakened key during ∧ ¬called.queue.Lingers key) ∧
    (.forget key ∉ before →
      ((Ledger.fresh backoff).run key (before ++ .next :: during)).generations + 1 < UInt64.size →
      ¬called.queue.Lingers key) := by
  intro d hands out called parked
  have sound : ∀ key, d.Sound key := sound_run (sound_fresh backoff) before
  obtain ⟨flies, clean⟩ := next_clean sound hands
  obtain ⟨still, marked⟩ := aloft_run (sound_step sound .next) flies leaves
  constructor
  · refine (released_iff (sound_run (sound_step sound .next) during) still).trans ?_
    refine and_congr_left fun _ => ?_
    rw [Bool.eq_false_iff, ne_eq, marked, clean]
    simp [out]
  · intro unforgotten few
    have all : .forget key ∉ before ++ .next :: during := by
      rw [List.mem_append, List.mem_cons]
      rintro (forgets | forgets | forgets)
      · exact unforgotten forgets
      · cases forgets
      · exact (leaves _ forgets).2.2 rfl
    have runs : run { queue := { backoff } } (before ++ .next :: during) = called :=
      List.foldl_append
    exact runs ▸ not_lingers backoff key all few

/-- A volume fails for good in its first cycle, while a second goes by. It is not handed out until it is added. -/
theorem parked_until_added_iff_volume :
    let key : Key := ⟨"volume", "data"⟩
    let d := run { queue := { backoff := .standard } } [.add key]
    let parked := ((d.step .next).run [.wait 1000000000]).step (.failed key .permanent)
    (Turn.LeavesOut key (.wait 1000000000) ∧ d.queue.next.2 = some key) ∧
      ∀ later, .add key ∉ later → .forget key ∉ later → ∀ queue,
        (parked.run later).queue.next ≠ (queue, some key) := by
  intro key d parked
  have leaves : Turn.LeavesOut key (.wait 1000000000) := ⟨nofun, nofun, nofun⟩
  have hands : d.queue.next = (d.queue.next.1, some key) := Prod.ext rfl (by decide)
  obtain ⟨waits, fresh⟩ := parked_until_added_iff .standard [.add key] [.wait 1000000000] key _
    (List.forall_mem_singleton.2 leaves) hands
  have unforgotten : Turn.forget key ∉ [Turn.add key] := by simp
  refine ⟨⟨leaves, congrArg Prod.snd hands⟩, waits.2 ⟨fun awakened => awakened.elim id id, ?_⟩⟩
  exact fresh unforgotten (by decide)

/-- A volume is to be polled after half a second, and is added before that. While it is handed out the timer
fires. The cycle fails for good, and the volume is handed out again although nobody has added it since. -/
theorem poll_timer_unparks :
    let key : Key := ⟨"volume", "data"⟩
    let timer : QueueTimer := ⟨key, 1, ⟨500000000⟩⟩
    let d := run { queue := { backoff := .standard } }
      [.add key, .next, .done key (.ofMillis 500), .add key]
    let called := (d.step .next).run [.wait 600000000, .fire timer]
    let parked := called.step (.failed key .permanent)
    d.queue.next.2 = some key ∧ (called.held key).isSome = true ∧
      (called.queue.failed called.now key .permanent).2 = .parked ∧
      parked.queue.next.2 = some key ∧ parked.forgotten key = false := by
  decide

end Dispatch

end CloudKeeper
