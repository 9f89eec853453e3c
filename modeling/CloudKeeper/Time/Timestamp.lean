import CloudKeeper.Decimal.Digits
import CloudKeeper.Text.Blank
/-!
Calendar time in UTC, to the nanosecond, with a leap second in any minute. Reading takes RFC 3339 with
some freedom (blanks between the parts, one-digit fields, any offset under a day); writing uses the
fewest of 0, 3, 6 or 9 places that are exact, and `Z`.
-/
namespace CloudKeeper.Time

open Decimal (Digit)

/-- Whether a year of the proleptic Gregorian calendar has a leap day. -/
def isLeapYear (year : Int) : Bool :=
  year % 4 == 0 && (year % 100 != 0 || year % 400 == 0)

/-- The number of days in a month; zero for a number that is no month. -/
def daysIn (year : Int) (month : Nat) : Nat :=
  match month with
  | 1 | 3 | 5 | 7 | 8 | 10 | 12 => 31
  | 4 | 6 | 9 | 11 => 30
  | 2 => if isLeapYear year then 29 else 28
  | _ => 0

/-- Whether the calendar reaches a year. -/
def isReached (year : Int) : Bool := -262143 ≤ year && year ≤ 262142

/-- A day of the calendar. -/
structure Date where
  year : Int
  month : Nat
  day : Nat
  valid : isReached year ∧ 1 ≤ month ∧ month ≤ 12 ∧ 1 ≤ day ∧ day ≤ daysIn year month
  deriving DecidableEq, Repr

namespace Date

/-- The day of these numbers, if there is one. -/
def of? (year : Int) (month day : Nat) : Option Date :=
  if h : isReached year ∧ 1 ≤ month ∧ month ≤ 12 ∧ 1 ≤ day ∧ day ≤ daysIn year month then
    some ⟨year, month, day, h⟩
  else none

/-- The day after, if there is one. -/
def next? (d : Date) : Option Date :=
  (of? d.year d.month (d.day + 1)).or ((of? d.year (d.month + 1) 1).or (of? (d.year + 1) 1 1))

/-- The day before, if there is one. -/
def previous? (d : Date) : Option Date :=
  (of? d.year d.month (d.day - 1)).or
    ((of? d.year (d.month - 1) (daysIn d.year (d.month - 1))).or (of? (d.year - 1) 12 31))

/-- The day that lies some days away; the calendar is left where there is none. -/
def shift? (d : Date) (days : Int) : Option Date :=
  if days = 0 then some d
  else if days = 1 then d.next?
  else if days = -1 then d.previous?
  else none

end Date

/-- A point of calendar time in UTC. Second 60 is a leap second. -/
structure Timestamp where
  date : Date
  hour : Nat
  minute : Nat
  second : Nat
  nanos : Nat
  valid : hour < 24 ∧ minute < 60 ∧ second ≤ 60 ∧ nanos < 1000000000
  deriving DecidableEq, Repr

namespace Timestamp

/-- The fraction of a second in the fewest of 0, 3, 6 or 9 places that are exact. -/
def fractionText (nanos : Nat) : List Char :=
  if nanos = 0 then []
  else if nanos % 1000000 = 0 then '.' :: Decimal.padded 3 (nanos / 1000000)
  else if nanos % 1000 = 0 then '.' :: Decimal.padded 6 (nanos / 1000)
  else '.' :: Decimal.padded 9 nanos

/-- A year in four places, or with a sign where it needs more or lies before year zero. -/
def yearText (year : Int) : List Char :=
  if 0 ≤ year ∧ year ≤ 9999 then Decimal.padded 4 year.toNat
  else if year < 0 then '-' :: Decimal.padded 4 (-year).toNat
  else '+' :: Decimal.padded 4 year.toNat

/-- The written form of a point of time. -/
def text (t : Timestamp) : String :=
  String.ofList <|
    yearText t.date.year ++ '-' :: Decimal.padded 2 t.date.month ++ '-' :: Decimal.padded 2 t.date.day
      ++ 'T' :: Decimal.padded 2 t.hour ++ ':' :: Decimal.padded 2 t.minute
      ++ ':' :: Decimal.padded 2 t.second ++ fractionText t.nanos ++ ['Z']

/-- Reads at least one and at most `most` digits. -/
def number? (most : Nat) (cs : List Char) : Option (List Digit × List Char) :=
  let (ds, _) := Decimal.spanDigits (cs.take most)
  if ds.isEmpty then none else some (ds, cs.drop ds.length)

/-- The text after a given character, with blanks before the character left out. -/
def separator? (c : Char) (cs : List Char) : Option (List Char) :=
  match Text.trimStart cs with
  | d :: rest => if d = c then some rest else none
  | [] => none

/-- Reads a field of one or two digits after blanks. -/
def field? (cs : List Char) : Option (Nat × List Char) :=
  (number? 2 (Text.trimStart cs)).map fun r => (Decimal.ofDigits r.1, r.2)

/-- Reads a year after blanks: up to four digits, or any number of them after a sign. -/
def year? (cs : List Char) : Option (Int × List Char) :=
  match Text.trimStart cs with
  | '-' :: rest => (number? rest.length rest).map fun r => (-(Decimal.ofDigits r.1 : Int), r.2)
  | '+' :: rest => (number? rest.length rest).map fun r => (Decimal.ofDigits r.1, r.2)
  | rest => (number? 4 rest).map fun r => (Decimal.ofDigits r.1, r.2)

/-- Reads the fraction of a second, if a point begins one: nine digits count and more are left out. -/
def fraction? : List Char → Option (Nat × List Char)
  | '.' :: rest =>
    (number? 9 rest).map fun r =>
      (Decimal.ofDigits r.1 * Nat.pow 10 (9 - r.1.length), (Decimal.spanDigits r.2).2)
  | cs => some (0, cs)

/-- Reads two digits. -/
def twoDigits? : List Char → Option (Nat × List Char)
  | a :: b :: rest =>
    match Digit.ofChar? a, Digit.ofChar? b with
    | some x, some y => some (x.val * 10 + y.val, rest)
    | _, _ => none
  | _ => none

/-- Reads hours and minutes of an offset; colons and blanks may stand between them. -/
def offsetSize? (cs : List Char) : Option (Nat × List Char) := do
  let (hours, rest) ← twoDigits? cs
  let (minutes, rest) ← twoDigits? (rest.dropWhile fun c => c == ':' || Text.isBlank c)
  if minutes < 60 then return (hours * 60 + minutes, rest) else none

/-- Reads an offset from UTC, in minutes. -/
def offset? (cs : List Char) : Option (Int × List Char) :=
  match cs with
  | 'Z' :: rest | 'z' :: rest => some (0, rest)
  | '+' :: rest => (offsetSize? rest).map fun r => (r.1, r.2)
  | '-' :: rest | '\u2212' :: rest => (offsetSize? rest).map fun r => (-r.1, r.2)
  | a :: b :: c :: rest =>
    if a.toUpper = 'U' ∧ b.toUpper = 'T' ∧ c.toUpper = 'C' then some (0, rest) else none
  | _ => none

/-- The point of time that a local date and time at an offset of some minutes is. -/
def ofLocal? (date : Date) (hour minute second nanos : Nat) (offset : Int) : Option Timestamp :=
  let minutes : Int := hour * 60 + minute - offset
  let days := minutes / 1440
  let rest := (minutes % 1440).toNat
  match date.shift? days with
  | none => none
  | some shifted =>
    if h : rest / 60 < 24 ∧ rest % 60 < 60 ∧ second ≤ 60 ∧ nanos < 1000000000 then
      some ⟨shifted, rest / 60, rest % 60, second, nanos, h⟩
    else none

/-- Reads a point of time, of which nothing but blanks may be left over. -/
def read? (s : String) : Option Timestamp := do
  let (year, rest) ← year? s.toList
  let (month, rest) ← field? (← separator? '-' rest)
  let (day, rest) ← field? (← separator? '-' rest)
  let rest ← match rest with
    | 'T' :: rest | 't' :: rest | ' ' :: rest => some rest
    | _ => none
  let (hour, rest) ← field? rest
  let (minute, rest) ← field? (← separator? ':' rest)
  let (second, rest) ← field? (← separator? ':' rest)
  let (nanos, rest) ← fraction? rest
  let (offset, rest) ← offset? (Text.trimStart rest)
  let date ← Date.of? year month day
  if Text.trimStart rest = [] ∧ hour < 24 ∧ minute < 60 ∧ offset.natAbs < 1440 then
    ofLocal? date hour minute second nanos offset
  else none

end Timestamp

end CloudKeeper.Time
