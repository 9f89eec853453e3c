/-!
Spans of time: whole seconds in an unsigned 64-bit word and the nanoseconds within a second. The view
`toNanos` says what a span is; arithmetic is checked and carries nanoseconds into seconds.
-/
namespace CloudKeeper.Time

/-- A span of time. -/
structure Duration where
  seconds : UInt64
  nanos : UInt32
  nanos_lt : nanos < 1000000000
  deriving DecidableEq, Repr

namespace Duration

/-- The number of nanoseconds in a span. -/
def toNanos (d : Duration) : Nat :=
  d.seconds.toNat * 1000000000 + d.nanos.toNat

/-- The span of a number of nanoseconds, if its seconds fit. -/
def ofNanos? (n : Nat) : Option Duration :=
  if n / 1000000000 < UInt64.size then
    some ⟨(n / 1000000000).toUInt64, (n % 1000000000).toUInt32, by
      have bound : n % 1000000000 < 1000000000 := Nat.mod_lt _ (by decide)
      have small : n % 1000000000 < 2 ^ 32 := by omega
      simp only [UInt32.lt_iff_toNat_lt, Nat.toUInt32_eq, UInt32.toNat_ofNat']
      rw [Nat.mod_eq_of_lt small]
      exact bound⟩
  else none

/-- The empty span. -/
def zero : Duration := ⟨0, 0, by decide⟩

/-- The span of a number of seconds. -/
def ofSeconds (n : UInt64) : Duration := ⟨n, 0, by decide⟩

private theorem millis_lt (n : UInt64) : ((n % 1000).toUInt32 * 1000000 : UInt32) < 1000000000 := by
  have bound : n.toNat % 1000 < 1000 := Nat.mod_lt _ (by decide)
  have small : n.toNat % 1000 % 2 ^ 32 = n.toNat % 1000 := Nat.mod_eq_of_lt (by omega)
  simp only [UInt32.lt_iff_toNat_lt, UInt32.toNat_mul, UInt64.toNat_toUInt32, UInt64.toNat_mod,
    UInt32.reduceToNat, UInt64.reduceToNat, small]
  exact Nat.lt_of_le_of_lt (Nat.mod_le _ _) (by omega)

/-- The span of a number of milliseconds. -/
def ofMillis (n : UInt64) : Duration :=
  ⟨n / 1000, (n % 1000).toUInt32 * 1000000, millis_lt n⟩

/-- The whole milliseconds in a span. -/
def toMillis (d : Duration) : Nat := d.toNanos / 1000000

/-- Whether a span is empty. -/
def isZero (d : Duration) : Bool := d.seconds == 0 && d.nanos == 0

/-- Whether one span is shorter than another: seconds decide first. -/
def shorter (a b : Duration) : Bool :=
  a.seconds < b.seconds || (a.seconds == b.seconds && a.nanos < b.nanos)

/-- The longer of two spans. -/
def max (a b : Duration) : Duration := if b.shorter a then a else b

/-- The shorter of two spans. -/
def min (a b : Duration) : Duration := if b.shorter a then b else a

private theorem carry_lt (n : UInt64) : (n % 1000000000).toUInt32 < 1000000000 := by
  have bound : n.toNat % 1000000000 < 1000000000 := Nat.mod_lt _ (by decide)
  simp only [UInt32.lt_iff_toNat_lt, UInt64.toNat_toUInt32, UInt64.toNat_mod, UInt32.reduceToNat,
    UInt64.reduceToNat]
  omega

/-- A multiple of a span; `none` where its seconds do not fit. -/
def times? (d : Duration) (factor : UInt32) : Option Duration :=
  let nanos := d.nanos.toUInt64 * factor.toUInt64
  let seconds := d.seconds.toNat * factor.toNat + (nanos / 1000000000).toNat
  if seconds < UInt64.size then
    some ⟨seconds.toUInt64, (nanos % 1000000000).toUInt32, carry_lt nanos⟩
  else none

theorem nanos_toNat_lt (d : Duration) : d.nanos.toNat < 1000000000 := by
  have := d.nanos_lt
  simpa [UInt32.lt_iff_toNat_lt] using this

/-- A span is known by its nanoseconds. -/
theorem toNanos_injective {a b : Duration} (same : a.toNanos = b.toNanos) : a = b := by
  have first := a.nanos_toNat_lt
  have second := b.nanos_toNat_lt
  obtain ⟨s, n, _⟩ := a
  obtain ⟨t, m, _⟩ := b
  simp only [toNanos] at same first second
  have seconds : s.toNat = t.toNat := by omega
  have nanos : n.toNat = m.toNat := by omega
  obtain rfl := UInt64.toNat_inj.1 seconds
  obtain rfl := UInt32.toNat_inj.1 nanos
  rfl

theorem shorter_iff (a b : Duration) : a.shorter b = true ↔ a.toNanos < b.toNanos := by
  have first := a.nanos_toNat_lt
  have second := b.nanos_toNat_lt
  simp only [shorter, toNanos, Bool.or_eq_true, decide_eq_true_eq, Bool.and_eq_true, beq_iff_eq,
    UInt64.lt_iff_toNat_lt, UInt32.lt_iff_toNat_lt, ← UInt64.toNat_inj]
  omega

@[simp] theorem toNanos_max (a b : Duration) : (a.max b).toNanos = Nat.max a.toNanos b.toNanos := by
  have order := shorter_iff b a
  simp only [max]
  split
  next short => exact (Nat.max_eq_left (Nat.le_of_lt (order.1 short))).symm
  next long => exact (Nat.max_eq_right (Nat.le_of_not_lt fun h => long (order.2 h))).symm

@[simp] theorem toNanos_min (a b : Duration) : (a.min b).toNanos = Nat.min a.toNanos b.toNanos := by
  have order := shorter_iff b a
  simp only [min]
  split
  next short => exact (Nat.min_eq_right (Nat.le_of_lt (order.1 short))).symm
  next long => exact (Nat.min_eq_left (Nat.le_of_not_lt fun h => long (order.2 h))).symm

@[simp] theorem toNanos_zero : zero.toNanos = 0 := rfl

end Duration

end CloudKeeper.Time
