import CloudKeeper.Decimal.Digits
/-!
The shortest decimal that reads back as a given binary64 number. The number is an exact fraction, the
reals that round to it form an interval, and decimal grids are tried from coarse to fine: the first
grid with a point in the interval gives the fewest digits.
-/
namespace CloudKeeper.Decimal

/-- A positive decimal number, `digits` times a power of ten. -/
structure Scaled where
  digits : Nat
  exponent : Int
  deriving DecidableEq, Repr

/-- The size of a finite binary64 number as `significand * 2 ^ exponent`. -/
structure Binary where
  significand : Nat
  exponent : Int
  deriving DecidableEq, Repr

/-- Whether the number of these bits has a minus sign. -/
def isNegative (bits : UInt64) : Bool :=
  bits >>> 63 == 1

/-- Splits the bits of a finite number into significand and exponent. -/
def Binary.ofBits (bits : UInt64) : Binary :=
  let biased := ((bits >>> 52) &&& 0x7FF).toNat
  let fraction := (bits &&& 0xFFFFFFFFFFFFF).toNat
  if biased = 0 then ⟨fraction, -1074⟩
  else ⟨0x10000000000000 + fraction, (biased : Int) - 1075⟩

/-- The reals that round to a binary64 number, as fractions over one denominator. The ends belong to
the interval exactly when the significand is even. -/
structure Interval where
  low : Nat
  value : Nat
  high : Nat
  denominator : Nat
  closed : Bool
  deriving DecidableEq, Repr

/-- Half of the distance to each neighbour, downwards half as far at a power of two. -/
def Binary.interval (b : Binary) : Interval :=
  let below := if b.significand = 0x10000000000000 ∧ -1074 < b.exponent then 1 else 2
  let shift := b.exponent - 2
  let scale := 1 <<< shift.toNat
  { low := (4 * b.significand - below) * scale
    value := 4 * b.significand * scale
    high := (4 * b.significand + 2) * scale
    denominator := 1 <<< (-shift).toNat
    closed := b.significand % 2 == 0 }

/-- Whether `digits * 10 ^ exponent` rounds to the number. -/
def Interval.contains (i : Interval) (d : Scaled) : Bool :=
  let scaled := d.digits * Nat.pow 10 d.exponent.toNat * i.denominator
  let unit := Nat.pow 10 (-d.exponent).toNat
  if i.closed then i.low * unit ≤ scaled && scaled ≤ i.high * unit
  else i.low * unit < scaled && scaled < i.high * unit

/-- The distance of a decimal from the number, over the denominator of the grid. -/
def Interval.distance (i : Interval) (d : Scaled) : Nat :=
  let scaled := d.digits * Nat.pow 10 d.exponent.toNat * i.denominator
  let value := i.value * Nat.pow 10 (-d.exponent).toNat
  (scaled - value) + (value - scaled)

/-- The point of the grid `10 ^ exponent` next to the number, if one rounds to it. -/
def Interval.onGrid? (i : Interval) (exponent : Int) : Option Scaled :=
  let below := i.value * Nat.pow 10 (-exponent).toNat / (i.denominator * Nat.pow 10 exponent.toNat)
  let down : Scaled := ⟨below, exponent⟩
  let up : Scaled := ⟨below + 1, exponent⟩
  match i.contains down, i.contains up with
  | true, true =>
    if i.distance up < i.distance down ∨ (i.distance up = i.distance down ∧ below % 2 = 1) then some up
    else some down
  | true, false => some down
  | false, true => some up
  | false, false => none

/-- The decimal with the fewest digits that rounds to a positive number, nearest to it among those. -/
def shortest (b : Binary) : Scaled :=
  let i := b.interval
  ((List.range 660).findSome? fun (n : Nat) => i.onGrid? (310 - (n : Int))).getD ⟨0, 0⟩

/-- How a number with a fraction is written: positionally while the decimal point stands after
position `least` and at most at position `greatest`, else with an exponent. -/
structure FloatStyle where
  least : Int
  greatest : Int
  deriving DecidableEq, Repr

/-- The text of a finite binary64 number: always with a point or an exponent, and with the sign of
zero kept. -/
def FloatStyle.text (style : FloatStyle) (bits : UInt64) : List Char :=
  let binary := Binary.ofBits bits
  let sign := if isNegative bits then ['-'] else []
  if binary.significand = 0 then sign ++ ['0', '.', '0']
  else
    let d := shortest binary
    let ds := Decimal.text d.digits
    let point : Int := ds.length + d.exponent
    sign ++
      if 0 ≤ d.exponent ∧ point ≤ style.greatest then
        ds ++ List.replicate d.exponent.toNat '0' ++ ['.', '0']
      else if 0 < point ∧ point ≤ style.greatest then
        ds.take point.toNat ++ '.' :: ds.drop point.toNat
      else if style.least < point ∧ point ≤ 0 then
        ['0', '.'] ++ List.replicate (-point).toNat '0' ++ ds
      else
        let power := point - 1
        let shown := if power < 0 then '-' :: Decimal.text (-power).toNat else Decimal.text power.toNat
        ds.take 1 ++ (if ds.length ≤ 1 then [] else '.' :: ds.drop 1) ++ 'e' :: shown

end CloudKeeper.Decimal
