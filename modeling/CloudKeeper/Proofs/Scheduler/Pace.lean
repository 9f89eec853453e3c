import CloudKeeper.Proofs.Scheduler.Delay
import CloudKeeper.Proofs.Scheduler.Retry
/-!
Which delays a queue answers a failure with, over all that can have happened to it before. A transient
failure is answered with a delay of its backoff, which is never short and never above the corrected
ceiling. A poisonous one is answered with the ceiling as it stands in the backoff, which nothing has
corrected: a ceiling below the first delay makes it the quicker of the two, and an empty one makes it
none at all.
-/
namespace CloudKeeper

open Time (Duration Instant)

namespace WorkQueue

/-- The queues that a fresh one becomes, whoever does whatever to it at whatever time. -/
inductive Reached (b : Backoff) : WorkQueue → Prop
  | fresh : Reached b { backoff := b }
  | add {q} (reached : Reached b q) (now : Instant) (key : Key) : Reached b (q.add now key)
  | next {q} (reached : Reached b q) : Reached b q.next.1
  | expire {q} (reached : Reached b q) (timer : QueueTimer) : Reached b (q.expire timer)
  | done {q} (reached : Reached b q) (now : Instant) (key : Key) (delay : Duration) :
      Reached b (q.done now key delay)
  | failed {q} (reached : Reached b q) (now : Instant) (key : Key) (class_ : ErrorClass) :
      Reached b (q.failed now key class_).1
  | forget {q} (reached : Reached b q) (key : Key) : Reached b (q.forget key)

variable {b : Backoff} {q : WorkQueue} {key : Key} {entry : QueueEntry}

theorem Reached.backoff (reached : Reached b q) : q.backoff = b := by
  induction reached with
  | fresh => rfl
  | add _ now key same => exact (backoff_add ..).trans same
  | next _ same => exact (backoff_next _).trans same
  | expire _ timer same => exact (backoff_expire ..).trans same
  | done _ now key delay same => exact (backoff_done ..).trans same
  | failed _ now key class_ same => exact (backoff_failed ..).trans same
  | forget _ key same => exact same

/-- A failure of a key that the queue knows is answered by its class and by the number of failures with
it. -/
theorem failed_answers (found : q.entries.get? key = some entry) (now : Instant) (class_ : ErrorClass) :
    (q.failed now key class_).2 = q.backoff.retry now (oneMore entry.failures) class_ := by
  have held : ∀ entry delay, (q.holdBack now key entry delay).2 =
      if (now.after? delay).isSome then .after delay else .overflow := by
    intro entry delay
    rcases holdBack_cases q now key entry delay with ⟨beyond, does⟩ | ⟨ends, within, does⟩
    · rw [does, beyond]
      rfl
    · rw [does, within]
      rfl
  unfold failed
  rw [found]
  cases class_ with
  | transient => exact held ..
  | poison => exact held ..
  | permanent =>
    dsimp only
    split <;> rfl

theorem failed_unknown (unknown : q.entries.get? key = none) (now : Instant) (class_ : ErrorClass) :
    q.failed now key class_ = (q, .parked) := by
  unfold failed
  rw [unknown]

/-- A failure for good of a key that has not been triggered since counts one more. -/
private theorem failed_counts (found : q.entries.get? key = some entry) (clean : entry.dirty = false)
    (now : Instant) : ∃ after, (q.failed now key .permanent).1.entries.get? key = some after ∧
      after.dirty = false ∧ after.failures = oneMore entry.failures := by
  unfold failed
  rw [found]
  dsimp only
  rw [if_neg (Bool.eq_false_iff.1 clean), get?_put, if_pos rfl]
  exact ⟨_, rfl, clean, rfl⟩

/-- Every number of failures is come to. -/
theorem Reached.counts (b : Backoff) (key : Key) (count : Nat) (fits : count < UInt32.size) :
    ∃ q entry, Reached b q ∧ q.entries.get? key = some entry ∧ entry.dirty = false ∧
      entry.failures.toNat = count := by
  induction count with
  | zero =>
    have sends : ({ backoff := b } : WorkQueue).add .zero key = enqueue { backoff := b } key {} := rfl
    exact ⟨_, _, Reached.fresh.add .zero key, sends ▸ get?_enqueue .., rfl, rfl⟩
  | succ count ih =>
    obtain ⟨q, entry, reached, found, clean, same⟩ := ih (Nat.lt_of_succ_lt fits)
    obtain ⟨after, present, still, counts⟩ := failed_counts found clean .zero
    refine ⟨_, after, reached.failed .zero key .permanent, present, still, ?_⟩
    rw [counts, oneMore_toNat, same]
    omega

end WorkQueue

namespace Backoff

variable {b : Backoff} {class_ : ErrorClass} {delay : Duration}

/-- A failure of a class is answered with a delay, after something that can have happened to a queue. -/
def Returns (b : Backoff) (class_ : ErrorClass) (delay : Duration) : Prop :=
  ∃ q now key, WorkQueue.Reached b q ∧ (q.failed now key class_).2 = .after delay

/-- The clock can hold the end of a backoff window that opens at some time. -/
def Fits (delay : Duration) : Prop := ∃ now ends : Instant, now.after? delay = some ends

/-- The sooner a window opens, the sooner it ends. -/
theorem fits_iff : Fits delay ↔ delay.toNanos / 1000000000 < Instant.secondsLimit := by
  constructor
  · rintro ⟨now, ends, within⟩
    obtain ⟨same, small⟩ := Instant.after?_eq_some_iff.1 within
    exact Nat.lt_of_le_of_lt (Nat.div_le_div_right (same ▸ Nat.le_add_left ..)) small
  · intro small
    exact ⟨.zero, ⟨delay.toNanos⟩, Instant.after?_eq_some_iff.2 ⟨(Nat.zero_add _).symm, small⟩⟩

theorem Fits.of_le {short long : Duration} (fits : Fits long) (order : short.toNanos ≤ long.toNanos) :
    Fits short :=
  fits_iff.2 (Nat.lt_of_le_of_lt (Nat.div_le_div_right order) (fits_iff.1 fits))

theorem fits_leastBase : Fits leastBase := fits_iff.2 (by decide)

/-- A delay is returned if and only if it is the one for some number of failures and the clock can hold
its end. -/
theorem returns_iff : b.Returns class_ delay ↔
    Fits delay ∧ ∃ failures ≠ 0, b.retry? failures class_ = some delay := by
  constructor
  · rintro ⟨q, now, key, reached, returns⟩
    cases found : q.entries.get? key with
    | none =>
      rw [WorkQueue.failed_unknown found] at returns
      cases returns
    | some entry =>
      rw [WorkQueue.failed_answers found, reached.backoff, Backoff.retry] at returns
      split at returns
      case h_1 => cases returns
      case h_2 retries =>
        split at returns
        case isTrue within =>
          cases returns
          exact ⟨⟨now, _, Option.some_get within |>.symm⟩, _, WorkQueue.oneMore_ne_zero _, retries⟩
        case isFalse => cases returns
  · rintro ⟨⟨now, ends, within⟩, failures, failed, retries⟩
    have positive : failures.toNat ≠ 0 := fun none_ => failed (UInt32.toNat_inj.1 none_)
    have bounded := failures.toNat_lt
    obtain ⟨q, entry, reached, found, -, counts⟩ :=
      WorkQueue.Reached.counts b default (failures.toNat - 1) (by rw [UInt32.size]; omega)
    have one : WorkQueue.oneMore entry.failures = failures := by
      refine UInt32.toNat_inj.1 ?_
      rw [WorkQueue.oneMore_toNat, counts, UInt32.size]
      omega
    refine ⟨q, now, default, reached, ?_⟩
    rw [WorkQueue.failed_answers found, reached.backoff, one, Backoff.retry, retries]
    dsimp only
    rw [within]
    rfl

theorem returns_poison_iff : b.Returns .poison delay ↔ Fits delay ∧ delay = b.max := by
  rw [returns_iff]
  constructor
  · rintro ⟨fits, failures, failed, retries⟩
    exact ⟨fits, (Option.some.inj retries).symm⟩
  · rintro ⟨fits, rfl⟩
    exact ⟨fits, 1, by decide, rfl⟩

theorem returns_transient_iff :
    b.Returns .transient delay ↔ Fits delay ∧ ∃ failures ≠ 0, delay = b.delay failures := by
  rw [returns_iff]
  constructor
  · rintro ⟨fits, failures, failed, retries⟩
    exact ⟨fits, failures, failed, (Option.some.inj retries).symm⟩
  · rintro ⟨fits, failures, failed, rfl⟩
    exact ⟨fits, failures, failed, rfl⟩

theorem not_returns_permanent : ¬b.Returns .permanent delay := by
  rw [returns_iff]
  rintro ⟨-, _, -, retries⟩
  cases retries

theorem first_le_of_transient (returns : b.Returns .transient delay) : b.first ≤ delay.toNanos := by
  obtain ⟨-, failures, failed, rfl⟩ := returns_transient_iff.1 returns
  exact b.first_le_delay failed

/-- No retry is a hot one, and none after a poisonous failure is quicker than one after a transient
failure. -/
structure Paced (b : Backoff) : Prop where
  waits : ∀ class_ delay, b.Returns class_ delay → leastBase.toNanos ≤ delay.toNanos
  slowest : ∀ slow quick, b.Returns .poison slow → b.Returns .transient quick →
    quick.toNanos ≤ slow.toNanos

/-- The ceiling needs no correction, as far as the clock can tell. -/
structure Proper (b : Backoff) : Prop where
  least : leastBase.toNanos ≤ b.max.toNanos
  order : Fits b.base → b.base.toNanos ≤ b.max.toNanos

private theorem paced_of_proper (proper : b.Proper) : b.Paced where
  waits class_ delay returns := by
    cases class_ with
    | transient =>
      rw [toNanos_leastBase]
      exact Nat.le_trans (Nat.le_max_right ..) (first_le_of_transient returns)
    | poison =>
      obtain ⟨-, rfl⟩ := returns_poison_iff.1 returns
      exact proper.least
    | permanent => exact absurd returns not_returns_permanent
  slowest slow quick poison transient := by
    obtain ⟨-, rfl⟩ := returns_poison_iff.1 poison
    obtain ⟨fits, failures, failed, rfl⟩ := returns_transient_iff.1 transient
    have longer : b.base.toNanos ≤ (b.delay failures).toNanos :=
      Nat.le_trans (Nat.le_max_left ..) (b.first_le_delay failed)
    have first : b.first ≤ b.max.toNanos :=
      Nat.max_le.2 ⟨proper.order (fits.of_le longer), toNanos_leastBase ▸ proper.least⟩
    exact Nat.le_trans (b.delay_le_ceiling failed) (Nat.max_le.2 ⟨Nat.le_refl _, first⟩)

/-- A ceiling below the first delay comes to light: a poisonous failure is answered with it, and a
transient one with the first delay. -/
private theorem proper_of_paced (paced : b.Paced) : b.Proper := by
  have least : leastBase.toNanos ≤ b.max.toNanos := by
    refine Nat.le_of_not_lt fun short => ?_
    have fits : Fits b.max := fits_leastBase.of_le (Nat.le_of_lt short)
    exact Nat.not_le_of_lt short (paced.waits .poison _ (returns_poison_iff.2 ⟨fits, rfl⟩))
  refine ⟨least, fun holds => Nat.le_of_not_lt fun short => ?_⟩
  have fits : Fits b.max := holds.of_le (Nat.le_of_lt short)
  have first : (b.delay 1).toNanos = b.base.toNanos := by
    rw [b.delay_one]
    exact Nat.max_eq_left (toNanos_leastBase ▸ Nat.le_trans least (Nat.le_of_lt short))
  have quick : Fits (b.delay 1) := by
    rw [fits_iff, first]
    exact fits_iff.1 holds
  have order := paced.slowest _ _ (returns_poison_iff.2 ⟨fits, rfl⟩)
    (returns_transient_iff.2 ⟨quick, 1, by decide, rfl⟩)
  rw [first] at order
  exact Nat.not_le_of_lt short order

theorem proper_new (b : Backoff) : (new b.base b.max).Proper := by
  obtain ⟨base, max⟩ := b.new_toNanos
  refine ⟨?_, fun _ => ?_⟩
  · rw [toNanos_leastBase, max]
    exact Nat.le_trans (Nat.le_max_right ..) b.first_le_ceiling
  · rw [base, max]
    exact b.first_le_ceiling

/-- **A backoff keeps its pace exactly if its ceiling is in order**: whatever happens to a queue, no retry
is a hot one and a poisonous failure is retried at the slowest rate if and only if the ceiling is neither
below the least delay nor below a base that the clock can hold. Corrected backoffs are of this kind; and
the delays after transient failures are never too short. -/
theorem paced_iff (b : Backoff) : (b.Paced ↔ b.Proper) ∧ (new b.base b.max).Paced ∧
    ∀ delay, b.Returns .transient delay → leastBase.toNanos ≤ delay.toNanos := by
  refine ⟨⟨proper_of_paced, paced_of_proper⟩, paced_of_proper b.proper_new, fun delay returns => ?_⟩
  rw [toNanos_leastBase]
  exact Nat.le_trans (Nat.le_max_right ..) (first_le_of_transient returns)

/-- A backoff of two empty spans retries a transient failure after ten milliseconds and a poisonous one
at once. -/
theorem poison_retried_at_once : (let b : Backoff := ⟨.zero, .zero⟩
    let q := (({ backoff := b } : WorkQueue).add .zero ⟨"volume", "data"⟩).next.1
    (q.failed .zero ⟨"volume", "data"⟩ .transient).2 = .after leastBase ∧
      (q.failed .zero ⟨"volume", "data"⟩ .poison).2 = .after .zero) ∧ ¬Paced ⟨.zero, .zero⟩ :=
  ⟨by decide, fun paced => absurd (proper_of_paced paced).least (by decide)⟩

end Backoff

end CloudKeeper
