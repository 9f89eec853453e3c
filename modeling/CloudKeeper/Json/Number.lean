import CloudKeeper.Decimal.Shortest
/-!
JSON numbers. A numeral is the written form; its value is an integer when it is written as one and
fits 64 bits, signed or unsigned, and a binary64 number otherwise. Numbers are compared as kept, so
one and one point zero differ.
-/
namespace CloudKeeper.Json

open Decimal (Digit)

/-- The exponent of a numeral: its sign and digits. -/
structure Exponent where
  negative : Bool
  digits : List Digit
  deriving DecidableEq, Repr

/-- A number as it is written. -/
structure Numeral where
  negative : Bool
  whole : List Digit
  fraction : List Digit
  exponent : Option Exponent
  deriving DecidableEq, Repr

/-- The value of a number: an exact integer, or a finite binary64 number given by its bits. -/
inductive Number
  | int (value : Int)
  | float (bits : UInt64)
  deriving DecidableEq, Repr

namespace Number

/-- Equality of values: the two zeros of binary64 are the same number. -/
def same : Number → Number → Bool
  | .int a, .int b => a == b
  | .float a, .float b => a == b || (a <<< 1 == 0 && b <<< 1 == 0)
  | _, _ => false

/-- The number as an unsigned 64-bit integer, if it is kept as one. -/
def toUInt64? : Number → Option UInt64
  | .int (.ofNat n) => if n < UInt64.size then some n.toUInt64 else none
  | _ => none

/-- Numbers with a fraction are written positionally up to sixteen places before the point and up to
five zeros after it. -/
def style : Decimal.FloatStyle := ⟨-5, 16⟩

/-- The text of a number. -/
def text : Number → List Char
  | .int (.ofNat n) => Decimal.text n
  | .int (.negSucc n) => '-' :: Decimal.text (n + 1)
  | .float bits => style.text bits

end Number

namespace Numeral

/-- The digits that still fit an unsigned 64-bit significand, and the digits left over. -/
def significand : Nat → List Digit → Nat × List Digit
  | n, [] => (n, [])
  | n, d :: rest => if n * 10 + d.val < UInt64.size then significand (n * 10 + d.val) rest
    else (n, d :: rest)

/-- Divides by a power of ten, in steps small enough for binary64. -/
def scaleDown (f : Float) (power : Nat) : Float :=
  if power ≤ 308 then f / Float.ofScientific 1 false power
  else if f == 0.0 then f
  else scaleDown (f / Float.ofScientific 1 false 308) (power - 308)
termination_by power
decreasing_by omega

/-- Scales a significand by a power of ten; `none` where the result leaves binary64. -/
def scale (n : Nat) (power : Int) : Option Float :=
  match power with
  | .ofNat up =>
    if up ≤ 308 then
      let f := n.toUInt64.toFloat * Float.ofScientific 1 false up
      if f.isInf then none else some f
    else if n = 0 then some 0.0 else none
  | .negSucc down => some (scaleDown n.toUInt64.toFloat (down + 1))

/-- The binary64 number with the numeral's sign. -/
def signed (numeral : Numeral) (f : Float) : Number :=
  .float (if numeral.negative then (-f).toBits else f.toBits)

/-- The value of a numeral that is not kept as an integer. Digits beyond a 64-bit significand only
count as places; an exponent beyond 32 bits is an overflow or a zero. -/
def toFloat? (numeral : Numeral) : Option Number :=
  let (head, left) := significand 0 numeral.whole
  let (n, unread) := significand head numeral.fraction
  let places : Int := left.length - (numeral.fraction.length - unread.length : Nat)
  match numeral.exponent with
  | none => (scale n places).map numeral.signed
  | some e =>
    let size := Decimal.ofDigits e.digits
    if size < UInt32.size / 2 then
      let power := if e.negative then places - size else places + size
      (scale n power).map numeral.signed
    else if n ≠ 0 ∧ !e.negative then none
    else some (numeral.signed 0.0)

/-- The value of a numeral; `none` where it is out of range. Minus zero is a binary64 number. -/
def value? (numeral : Numeral) : Option Number :=
  match numeral.fraction, numeral.exponent with
  | [], none =>
    let n := Decimal.ofDigits numeral.whole
    if numeral.negative then
      if 0 < n ∧ n ≤ UInt64.size / 2 then some (.int (-n)) else numeral.toFloat?
    else if n < UInt64.size then some (.int n)
    else numeral.toFloat?
  | _, _ => numeral.toFloat?

/-- The numeral that writes an integer. -/
def ofInt : Int → Numeral
  | .ofNat n => ⟨false, Decimal.digits n, [], none⟩
  | .negSucc n => ⟨true, Decimal.digits (n + 1), [], none⟩

end Numeral

end CloudKeeper.Json
