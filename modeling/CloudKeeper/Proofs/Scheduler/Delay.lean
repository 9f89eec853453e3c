import CloudKeeper.Backoff
import Mathlib.Algebra.Group.Nat.Defs
/-!
The arithmetic of backoff, told in whole numbers of nanoseconds without a bound. Spans are kept in two
words and multiplied with a checked carry between them, and the power of two is a shifted word; here
nothing of that is left to see: the delay after so many failures is the base doubled so many times, cut
at the ceiling, however close to the end of the words the spans are. A product that does not fit is
above every ceiling, because a ceiling is itself a span.
-/
namespace CloudKeeper

open Time (Duration)

namespace Time.Duration

/-- One more than the nanoseconds of the longest span. -/
def bound : Nat := UInt64.size * 1000000000

theorem toNanos_lt (d : Duration) : d.toNanos < bound := by
  have seconds : d.seconds.toNat < UInt64.size := d.seconds.toNat_lt
  have nanos := d.nanos_toNat_lt
  simp only [toNanos, bound]
  omega

/-- The nanoseconds of a multiple are carried into its seconds through a word that is wide enough. -/
theorem toNat_carried (d : Duration) (factor : UInt32) :
    (d.nanos.toUInt64 * factor.toUInt64).toNat = d.nanos.toNat * factor.toNat := by
  have nanos : d.nanos.toNat ≤ 1000000000 := Nat.le_of_lt d.nanos_toNat_lt
  have factors : factor.toNat ≤ 2 ^ 32 := Nat.le_of_lt factor.toNat_lt
  have product : d.nanos.toNat * factor.toNat ≤ 1000000000 * 2 ^ 32 := Nat.mul_le_mul nanos factors
  rw [UInt64.toNat_mul, UInt32.toNat_toUInt64, UInt32.toNat_toUInt64]
  exact Nat.mod_eq_of_lt (Nat.lt_of_le_of_lt product (by decide))

/-- A multiple of a span is the product, and is missing exactly if the product is no span. -/
theorem toNanos_times? (d : Duration) (factor : UInt32) : (d.times? factor).map toNanos =
    if d.toNanos * factor.toNat < bound then some (d.toNanos * factor.toNat) else none := by
  have carried := toNat_carried d factor
  have product : d.toNanos * factor.toNat =
      d.seconds.toNat * factor.toNat * 1000000000 + d.nanos.toNat * factor.toNat := by
    rw [toNanos, Nat.add_mul, Nat.mul_right_comm]
  simp only [times?, UInt64.toNat_div, carried, UInt64.reduceToNat]
  rw [product, bound]
  split
  case isTrue fits =>
    rw [if_pos (by omega), Option.map_some, toNanos]
    simp only [UInt64.toNat_toUInt32, UInt64.toNat_mod, carried, UInt64.reduceToNat, Nat.toUInt64_eq,
      UInt64.toNat_ofNat', Option.some.injEq]
    have seconds : ∀ n, n < UInt64.size → n % 2 ^ 64 = n := fun n small => Nat.mod_eq_of_lt small
    rw [seconds _ fits]
    omega
  case isFalse exceeds => rw [if_neg (by omega), Option.map_none]

end Time.Duration

namespace Backoff

/-- The nanoseconds of the first delay. -/
def first (b : Backoff) : Nat := Max.max b.base.toNanos 10000000

/-- The nanoseconds that no delay exceeds. -/
def ceiling (b : Backoff) : Nat := Max.max b.max.toNanos b.first

theorem first_le_ceiling (b : Backoff) : b.first ≤ b.ceiling := Nat.le_max_right ..

theorem toNanos_leastBase : leastBase.toNanos = 10000000 := by decide

theorem toNanos_first (b : Backoff) : (b.base.max leastBase).toNanos = b.first := by
  rw [Duration.toNanos_max, toNanos_leastBase]
  rfl

theorem toNanos_ceiling (b : Backoff) : (b.max.max (b.base.max leastBase)).toNanos = b.ceiling := by
  rw [Duration.toNanos_max, toNanos_first]
  rfl

/-- The ceiling is the length of a span, so that what does not fit a span is above it. -/
theorem ceiling_lt (b : Backoff) : b.ceiling < Duration.bound :=
  b.toNanos_ceiling ▸ Duration.toNanos_lt _

variable {failures : UInt32}

private theorem toNat_pos (failed : failures ≠ 0) : 0 < failures.toNat :=
  Nat.pos_of_ne_zero fun none_ => failed (UInt32.toNat_inj.1 none_)

private theorem toNat_pred (failed : failures ≠ 0) : (failures - 1).toNat = failures.toNat - 1 := by
  have positive := toNat_pos failed
  have bounded := failures.toNat_lt
  rw [UInt32.toNat_sub]
  simp only [UInt32.reduceToNat]
  omega

private theorem toNat_exponent (failed : failures ≠ 0) :
    (exponent failures).toNat = min (failures.toNat - 1) 31 := by
  have pred := toNat_pred failed
  simp only [exponent, UInt32.lt_iff_toNat_lt, UInt32.reduceToNat, pred]
  split
  · omega
  · simp only [UInt32.reduceToNat]
    omega

private theorem toNat_power {exponent : UInt32} (small : exponent.toNat ≤ 31) :
    ((1 : UInt32) <<< exponent).toNat = 2 ^ exponent.toNat := by
  have power : 2 ^ exponent.toNat ≤ 2 ^ 31 := Nat.pow_le_pow_right (by decide) small
  rw [UInt32.toNat_shiftLeft, Nat.mod_eq_of_lt (Nat.lt_of_le_of_lt small (by decide)),
    UInt32.toNat_one, Nat.one_shiftLeft]
  exact Nat.mod_eq_of_lt (Nat.lt_of_le_of_lt power (by decide))

theorem delay_zero (b : Backoff) : b.delay 0 = .zero := if_pos rfl

/-- None of the words that a delay is computed with wraps around. -/
structure Unwrapped (failures : UInt32) : Prop where
  pred : (failures - 1).toNat + 1 = failures.toNat
  exponent : (exponent failures).toNat = min (failures.toNat - 1) 31
  power : ((1 : UInt32) <<< Backoff.exponent failures).toNat = 2 ^ (Backoff.exponent failures).toNat
  nanos : ∀ d : Duration, (d.nanos.toUInt64 * ((1 : UInt32) <<< Backoff.exponent failures).toUInt64).toNat =
    d.nanos.toNat * 2 ^ (Backoff.exponent failures).toNat

theorem unwrapped (failed : failures ≠ 0) : Unwrapped failures := by
  have exponent := toNat_exponent failed
  have small : (Backoff.exponent failures).toNat ≤ 31 := by omega
  have power := toNat_power small
  refine ⟨?_, exponent, power, fun d => ?_⟩
  · rw [toNat_pred failed]
    exact Nat.sub_add_cancel (toNat_pos failed)
  · rw [Duration.toNat_carried, power]

theorem delay_toNanos (b : Backoff) (failed : failures ≠ 0) : (b.delay failures).toNanos =
    min b.ceiling (b.first * 2 ^ min (failures.toNat - 1) 31) := by
  have words := unwrapped failed
  have times := Duration.toNanos_times? (b.base.max leastBase) ((1 : UInt32) <<< exponent failures)
  rw [toNanos_first, words.power, words.exponent] at times
  have short := b.ceiling_lt
  simp only [delay, if_neg failed]
  generalize b.first * 2 ^ min (failures.toNat - 1) 31 = product at times ⊢
  cases multiple : (b.base.max leastBase).times? ((1 : UInt32) <<< exponent failures) with
  | none =>
    rw [multiple] at times
    dsimp only
    rw [toNanos_ceiling]
    split at times
    · cases times
    · omega
  | some d =>
    rw [multiple] at times
    dsimp only
    rw [Duration.toNanos_min, toNanos_ceiling]
    split at times
    · cases times
      exact Nat.min_comm ..
    · cases times

theorem delay_one (b : Backoff) : (b.delay 1).toNanos = b.first := by
  rw [b.delay_toNanos (by decide), UInt32.toNat_one, Nat.sub_self, Nat.zero_min, Nat.pow_zero, Nat.mul_one]
  exact Nat.min_eq_right b.first_le_ceiling

theorem first_le_delay (b : Backoff) (failed : failures ≠ 0) : b.first ≤ (b.delay failures).toNanos := by
  rw [b.delay_toNanos failed]
  exact Nat.le_min.2 ⟨b.first_le_ceiling, Nat.le_mul_of_pos_right _ (Nat.two_pow_pos _)⟩

theorem delay_le_ceiling (b : Backoff) (failed : failures ≠ 0) :
    (b.delay failures).toNanos ≤ b.ceiling := by
  rw [b.delay_toNanos failed]
  exact Nat.min_le_left ..

theorem delay_mono (b : Backoff) {fewer more : UInt32} (order : fewer ≤ more) :
    (b.delay fewer).toNanos ≤ (b.delay more).toNanos := by
  by_cases failed : fewer = 0
  · rw [failed, delay_zero]
    exact Nat.zero_le _
  · have raised : fewer.toNat ≤ more.toNat := UInt32.le_iff_toNat_le.1 order
    have further : more ≠ 0 := fun none_ => by
      have := toNat_pos failed
      rw [none_] at raised
      exact absurd raised (Nat.not_le_of_lt this)
    rw [b.delay_toNanos failed, b.delay_toNanos further]
    have power : 2 ^ min (fewer.toNat - 1) 31 ≤ 2 ^ min (more.toNat - 1) 31 :=
      Nat.pow_le_pow_right (by decide) (by omega)
    have product := Nat.mul_le_mul_left b.first power
    omega

/-- Below the last exponent one failure more doubles the delay, unless it is cut at the ceiling. -/
theorem delay_succ (b : Backoff) (failed : failures ≠ 0) (early : failures < 32) :
    (b.delay (failures + 1)).toNanos = min b.ceiling (2 * (b.delay failures).toNanos) := by
  have positive := toNat_pos failed
  have below : failures.toNat < 32 := UInt32.lt_iff_toNat_lt.1 early
  have next : (failures + 1).toNat = failures.toNat + 1 := by
    rw [UInt32.toNat_add, UInt32.toNat_one]
    omega
  have further : failures + 1 ≠ 0 := fun none_ => by
    rw [none_] at next
    cases next
  rw [b.delay_toNanos failed, b.delay_toNanos further, next]
  have raised : min (failures.toNat + 1 - 1) 31 = min (failures.toNat - 1) 31 + 1 := by omega
  have order := b.first_le_ceiling
  rw [raised, Nat.pow_succ, ← Nat.mul_assoc]
  omega

theorem delay_last (b : Backoff) (late : 32 ≤ failures) : b.delay failures = b.delay 32 := by
  have many : 32 ≤ failures.toNat := UInt32.le_iff_toNat_le.1 late
  have failed : failures ≠ 0 := fun none_ => by
    rw [none_] at many
    cases many
  refine Duration.toNanos_injective ?_
  rw [b.delay_toNanos failed, b.delay_toNanos (by decide)]
  have level : min (failures.toNat - 1) 31 = min ((32 : UInt32).toNat - 1) 31 := by
    simp only [UInt32.reduceToNat]
    omega
  rw [level]

/-- A corrected backoff has the corrected spans. -/
theorem new_toNanos (b : Backoff) : (new b.base b.max).base.toNanos = b.first ∧
    (new b.base b.max).max.toNanos = b.ceiling :=
  ⟨b.toNanos_first, b.toNanos_ceiling⟩

/-- It makes no difference to the delays whether the spans are corrected beforehand. -/
theorem delay_new (b : Backoff) : (new b.base b.max).delay = b.delay := by
  funext failures
  obtain ⟨base, max⟩ := b.new_toNanos
  have least : 10000000 ≤ b.first := Nat.le_max_right ..
  have first : (new b.base b.max).first = b.first := by
    rw [Backoff.first, base]
    exact Nat.max_eq_left least
  have ceiling : (new b.base b.max).ceiling = b.ceiling := by
    rw [Backoff.ceiling, max, first]
    exact Nat.max_eq_left b.first_le_ceiling
  by_cases failed : failures = 0
  · rw [failed, delay_zero, delay_zero]
  · refine Duration.toNanos_injective ?_
    rw [delay_toNanos _ failed, delay_toNanos _ failed, first, ceiling]

/-- What is to be known of the delays of a backoff. -/
structure Exact (b : Backoff) : Prop where
  unfailed : b.delay 0 = .zero
  value : ∀ failures ≠ 0, (b.delay failures).toNanos =
    min b.ceiling (b.first * 2 ^ min (failures.toNat - 1) 31)
  unwrapped : ∀ failures ≠ 0, Unwrapped failures
  monotone : ∀ fewer more, fewer ≤ more → (b.delay fewer).toNanos ≤ (b.delay more).toNanos
  within : ∀ failures ≠ 0, b.first ≤ (b.delay failures).toNanos ∧ (b.delay failures).toNanos ≤ b.ceiling
  doubles : ∀ failures ≠ 0, failures < 32 →
    (b.delay (failures + 1)).toNanos = min b.ceiling (2 * (b.delay failures).toNanos)
  levels : ∀ failures, 32 ≤ failures → b.delay failures = b.delay 32
  corrected : (new b.base b.max).delay = b.delay

/-- **The delays of every backoff are exact**, whatever its two spans are and however many failures there
have been. -/
theorem delays_exact (b : Backoff) : b.Exact where
  unfailed := b.delay_zero
  value _ failed := b.delay_toNanos failed
  unwrapped _ failed := Backoff.unwrapped failed
  monotone _ _ order := b.delay_mono order
  within _ failed := ⟨b.first_le_delay failed, b.delay_le_ceiling failed⟩
  doubles _ failed early := b.delay_succ failed early
  levels _ late := b.delay_last late
  corrected := b.delay_new

/-- Twice the first delay is one second more than a span can have. -/
example : let b : Backoff := ⟨⟨9223372036854775808, 500000000, by decide⟩, .ofSeconds 18446744073709551615⟩
    b.delay 1 = b.base ∧ b.delay 2 = b.max := by decide

end Backoff

end CloudKeeper
