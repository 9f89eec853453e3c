import CloudKeeper.Time.Duration
/-!
The delay before a failed cycle is tried again: it doubles with every failure, from a least delay of
ten milliseconds up to a ceiling.
-/
namespace CloudKeeper

open Time (Duration)

/-- The first delay and the ceiling of the delays. A value may hold any two spans; `delay` corrects
what makes no sense. -/
structure Backoff where
  base : Duration
  max : Duration
  deriving DecidableEq, Repr

namespace Backoff

/-- No retry comes sooner than this (`MIN_BASE`). -/
def leastBase : Duration := .ofMillis 10

/-- A backoff with its spans corrected (`Backoff::new`): the base is not below the least one and the ceiling not
below the base. -/
def new (base max : Duration) : Backoff :=
  ⟨base.max leastBase, max.max (base.max leastBase)⟩

/-- One second, doubling up to a minute (`Backoff::default`). -/
def standard : Backoff := new (.ofSeconds 1) (.ofSeconds 60)

/-- The exponent of two after a number of failures. -/
def exponent (failures : UInt32) : UInt32 :=
  if failures - 1 < 31 then failures - 1 else 31

/-- The delay after a number of failures in a row (`Backoff::delay`). A product that leaves the range of spans is
above every ceiling. -/
def delay (b : Backoff) (failures : UInt32) : Duration :=
  if failures = 0 then .zero
  else
    let base := b.base.max leastBase
    let max := b.max.max base
    match base.times? ((1 : UInt32) <<< exponent failures) with
    | some d => d.min max
    | none => max

end Backoff

end CloudKeeper
