import CloudKeeper.Time.Epoch
import CloudKeeper.Time.Instant
import Std.Time.DateTime.Timestamp
/-!
The clocks of the machine.
-/
namespace CloudKeeper.Live

/-- The present point on the monotonic clock. -/
def instant : IO Time.Instant := return ⟨← IO.monoNanosNow⟩

/-- The present calendar time. -/
def timestamp : IO Time.Timestamp := do
  let nanos := (← Std.Time.Timestamp.now).toNanosecondsSinceUnixEpoch
  return (Time.Timestamp.ofNanos? nanos.val.toNat).getD .epoch

end CloudKeeper.Live
