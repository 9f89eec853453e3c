import CloudKeeper.Time.Duration
/-!
Points on a monotonic clock. The clock holds its seconds in a signed 64-bit word, so a deadline can lie
beyond it; a timer with such a deadline waits thirty years instead.
-/
namespace CloudKeeper.Time

/-- A point in time, in nanoseconds since the clock's zero. -/
structure Instant where
  nanos : Nat
  deriving DecidableEq, Repr, Ord

namespace Instant

/-- The clock's zero. -/
def zero : Instant := ⟨0⟩

/-- The first number of seconds that the clock cannot hold. -/
def secondsLimit : Nat := UInt64.size / 2

/-- The point a span later, if the clock can hold it. -/
def after? (t : Instant) (d : Duration) : Option Instant :=
  let nanos := t.nanos + d.toNanos
  if nanos / 1000000000 < secondsLimit then some ⟨nanos⟩ else none

/-- A point that the clock can hold lies a span later if it does so by its nanoseconds. -/
theorem after?_eq_some_iff {t ends : Instant} {d : Duration} : t.after? d = some ends ↔
    ends.nanos = t.nanos + d.toNanos ∧ ends.nanos / 1000000000 < secondsLimit := by
  have unfolds : @after? = fun t d => if (t.nanos + d.toNanos) / 1000000000 < secondsLimit then
      some ⟨t.nanos + d.toNanos⟩ else none := rfl
  rw [unfolds]
  dsimp only
  constructor
  · intro within
    obtain ⟨bound, same⟩ := Option.ite_none_right_eq_some.1 within
    cases Option.some.inj same
    exact ⟨rfl, bound⟩
  · rintro ⟨reads, bound⟩
    rw [← reads, if_pos bound]

/-- The span that stands in for one that ends beyond the clock: thirty years. -/
def farFuture : Duration := .ofSeconds (86400 * 365 * 30)

/-- When a timer set now for a span is due. -/
def timerDue (t : Instant) (d : Duration) : Instant :=
  match t.after? d with
  | some due => due
  | none => ⟨t.nanos + farFuture.toNanos⟩

theorem timerDue_eq (t : Instant) (d : Duration) :
    t.timerDue d = (t.after? d).getD ⟨t.nanos + farFuture.toNanos⟩ := by
  -- the constant is unfolded, not its application, which would be reduced as far as the clock's limit
  obtain ⟨timerDue, does⟩ : ∃ f, @Instant.timerDue = f := ⟨_, rfl⟩
  rw [does]
  delta Instant.timerDue at does
  subst does
  dsimp only
  cases t.after? d <;> rfl

/-- A timer for a span that ends within the clock is due at its end. -/
theorem timerDue_of_after? {t ends : Instant} {d : Duration} (within : t.after? d = some ends) :
    t.timerDue d = ends := by
  rw [timerDue_eq, within, Option.getD_some]

/-- A timer for a span that ends beyond the clock is due after thirty years. -/
theorem timerDue_of_beyond {t : Instant} {d : Duration} (beyond : t.after? d = none) :
    t.timerDue d = ⟨t.nanos + farFuture.toNanos⟩ := by
  rw [timerDue_eq, beyond, Option.getD_none]

/-- The point a number of milliseconds later. -/
def plusMillis (t : Instant) (ms : Nat) : Instant := ⟨t.nanos + ms * 1000000⟩

/-- Whole milliseconds since the clock's zero. -/
def toMillis (t : Instant) : Nat := t.nanos / 1000000

/-- Whether one point lies before another. -/
def before (a b : Instant) : Bool := a.nanos < b.nanos

/-- Whether a point has come at a given time. -/
def due (t now : Instant) : Bool := t.nanos ≤ now.nanos

end Instant

end CloudKeeper.Time
