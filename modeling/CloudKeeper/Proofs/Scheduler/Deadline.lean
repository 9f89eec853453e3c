import CloudKeeper.CommandLine
import CloudKeeper.Proofs.Scheduler.Pace
/-!
Whether the clock can hold the end of every backoff window that the command line asks for. No delay is
longer than the ceiling, and a poisonous failure is answered with the ceiling itself, so at any time
every report of a failure ends with a timer exactly if the clock can hold the end of a window of the
ceiling's length. The command line takes any number of seconds for the ceiling, and half of
these numbers reach beyond the clock even from its zero.
-/
namespace CloudKeeper

open Time (Duration Instant)

namespace WorkQueue

variable {q : WorkQueue} {key : Key} {entry : QueueEntry} {now ends : Instant} {delay : Duration}
  {class_ : ErrorClass}

/-- The key is held back until some time, at which the timer of its entry is due. -/
def WaitsUntil (q : WorkQueue) (key : Key) (ends : Instant) : Prop :=
  ∃ entry, q.entries.get? key = some entry ∧ entry.notBefore = some ends ∧
    ⟨key, entry.generation, ends⟩ ∈ q.timers

/-- A report of a failure is answered with a delay, at whose end the key's timer is due. -/
def Rearms (q : WorkQueue) (now : Instant) (key : Key) (class_ : ErrorClass) : Prop :=
  ∃ delay ends, (q.failed now key class_).2 = .after delay ∧ now.after? delay = some ends ∧
    (q.failed now key class_).1.WaitsUntil key ends

private theorem holdBack_waits (within : now.after? delay = some ends) :
    (q.holdBack now key entry delay).1.WaitsUntil key ends := by
  rcases holdBack_cases q now key entry delay with ⟨beyond, -⟩ | ⟨_, same, does⟩
  · rw [within] at beyond
    cases beyond
  · cases within.symm.trans same
    rw [does]
    refine ⟨_, get?_arm, rfl, List.mem_append_right _ ?_⟩
    rw [Instant.timerDue_of_after? within]
    exact List.mem_singleton_self _

/-- The report of a failure that is retried ends with a timer exactly if the clock can hold the end of
the delay. -/
theorem rearms_iff (found : q.entries.get? key = some entry)
    (retries : q.backoff.retry? (oneMore entry.failures) class_ = some delay) :
    q.Rearms now key class_ ↔ (now.after? delay).isSome := by
  have answers := failed_answers found now class_
  rw [Backoff.retry, retries] at answers
  constructor
  · rintro ⟨answered, ends, returns, within, -⟩
    rw [answers] at returns
    dsimp only at returns
    split at returns
    case isTrue fits => exact fits
    case isFalse => cases returns
  · intro fits
    obtain ⟨ends, within⟩ := Option.isSome_iff_exists.1 fits
    dsimp only at answers
    rw [if_pos fits] at answers
    refine ⟨delay, ends, answers, within, ?_⟩
    unfold failed
    rw [found]
    cases class_ with
    | transient =>
      cases retries
      exact holdBack_waits within
    | poison =>
      cases retries
      exact holdBack_waits within
    | permanent => cases retries

end WorkQueue

namespace Backoff

variable {b : Backoff}

theorem after?_isSome_iff {now : Instant} {delay : Duration} : (now.after? delay).isSome ↔
    (now.nanos + delay.toNanos) / 1000000000 < Instant.secondsLimit := by
  rw [Option.isSome_iff_exists]
  constructor
  · rintro ⟨ends, within⟩
    obtain ⟨same, small⟩ := Instant.after?_eq_some_iff.1 within
    exact same ▸ small
  · intro small
    exact ⟨⟨_⟩, Instant.after?_eq_some_iff.2 ⟨rfl, small⟩⟩

/-- No delay of a corrected backoff is longer than its ceiling. -/
theorem retry?_le_max {base max delay : Duration} {failures : UInt32} {class_ : ErrorClass}
    (failed : failures ≠ 0) (retries : retry? (new base max) failures class_ = some delay) :
    delay.toNanos ≤ (new base max).max.toNanos := by
  let b : Backoff := ⟨base, max⟩
  cases class_ with
  | transient =>
    cases retries
    rw [b.delay_new, b.new_toNanos.2]
    exact b.delay_le_ceiling failed
  | poison =>
    cases retries
    exact Nat.le_refl _
  | permanent => cases retries

/-- At some time, every report that a cycle of a known key has failed, with a failure that is retried,
ends with a timer, whatever has happened to the queue before. -/
def AlwaysRearms (b : Backoff) (now : Instant) : Prop :=
  ∀ q key class_, WorkQueue.Reached b q → q.isTracked key → class_ ≠ .permanent →
    q.Rearms now key class_

/-- The ceiling decides, because it is a delay itself. -/
theorem alwaysRearms_new_iff (base max : Duration) (now : Instant) :
    (new base max).AlwaysRearms now ↔
      (now.nanos + (new base max).max.toNanos) / 1000000000 < Instant.secondsLimit := by
  constructor
  · intro always
    obtain ⟨q, entry, reached, found, -⟩ :=
      WorkQueue.Reached.counts (new base max) default 0 (by decide)
    have tracked : q.isTracked default := Option.isSome_iff_exists.2 ⟨entry, found⟩
    have rearms := always q default .poison reached tracked ErrorClass.noConfusion
    rw [WorkQueue.rearms_iff found rfl, reached.backoff] at rearms
    exact after?_isSome_iff.1 rearms
  · intro fits q key class_ reached tracked retried
    obtain ⟨entry, found⟩ := Option.isSome_iff_exists.1 tracked
    cases retries : q.backoff.retry? (WorkQueue.oneMore entry.failures) class_ with
    | none =>
      have permanent := permanent_of_retry? retries
      exact absurd permanent retried
    | some delay =>
      refine (WorkQueue.rearms_iff found retries).2 (after?_isSome_iff.2 ?_)
      rw [reached.backoff] at retries
      have short := retry?_le_max (WorkQueue.oneMore_ne_zero _) retries
      exact Nat.lt_of_le_of_lt (Nat.div_le_div_right (Nat.add_le_add_left short _)) fits

end Backoff

namespace CommandLine

variable {args : List String} {environment : List (String × String)} {a : Arguments}

private theorem last_of_bind {α β : Type} {x : Except Stop α} {f : α → Except Stop β} {b : β}
    (succeeds : x >>= f = .ok b) : ∃ a, f a = .ok b := by
  cases x with
  | error => cases succeeds
  | ok a => exact ⟨a, succeeds⟩

/-- The command line corrects the backoff that it asks for. -/
theorem corrected_of_parse (accepted : parse args environment = .ok a) :
    ∃ base max, a.config.scheduler.backoff = .new (.ofMillis base) (.ofSeconds max) := by
  obtain ⟨_, settled⟩ := last_of_bind accepted
  obtain ⟨_, completed⟩ := last_of_bind settled
  obtain ⟨given, built⟩ := last_of_bind completed
  unfold arguments at built
  split at built
  case h_1 =>
    cases built
    exact ⟨_, _, rfl⟩
  case h_2 => cases built

/-- **Reports of failures end with a timer as long as the clock can hold a window of the ceiling's
length**, and no longer. -/
theorem rearms_iff_ceiling_fits (accepted : parse args environment = .ok a) (now : Instant) :
    a.config.scheduler.backoff.AlwaysRearms now ↔
      (now.nanos + a.config.scheduler.backoff.max.toNanos) / 1000000000 < Instant.secondsLimit := by
  obtain ⟨base, max, corrected⟩ := corrected_of_parse accepted
  rw [corrected]
  exact Backoff.alwaysRearms_new_iff _ _ now

/-- The arguments that a provider needs. -/
private def necessary : List String := ["--manifest", "m.json", "--credentials", "c.json"]

theorem rearms_standard : ∃ a, parse necessary [] = .ok a ∧
    a.config.scheduler.backoff = .standard ∧ a.config.scheduler.backoff.AlwaysRearms .zero := by
  have accepted : parse necessary [] = .ok _ := rfl
  exact ⟨_, accepted, rfl, (rearms_iff_ceiling_fits accepted .zero).2 (by decide)⟩

/-- A ceiling of as many seconds as a word holds is accepted, and the first poisonous failure leaves its
key without a timer. -/
theorem accepted_ceiling_overflows : ∃ a,
    parse (necessary ++ ["--backoff-max", "18446744073709551615"]) [] = .ok a ∧
      (let q := (({ backoff := a.config.scheduler.backoff } : WorkQueue).add .zero ⟨"volume", "data"⟩).next.1
        let report := q.failed .zero ⟨"volume", "data"⟩ .poison
        report.2 = .overflow ∧ report.1.timers = [] ∧ report.1.isTracked ⟨"volume", "data"⟩) := by
  refine ⟨_, rfl, ?_⟩
  decide

end CommandLine

end CloudKeeper
