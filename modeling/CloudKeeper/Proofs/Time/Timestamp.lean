import CloudKeeper.Proofs.Decimal
import CloudKeeper.Time.Timestamp
/-!
The written form of a point of time is read back as that point of time, with every part it has: years
beyond four places and before zero, leap seconds, and fractions to the nanosecond.
-/
namespace CloudKeeper.Time.Timestamp

open Decimal (Digit EndsDigits paddedDigits)

/-- Digits are read up to a number of places. What follows them may be a digit only when there are as
many as that. -/
private theorem number_written {most : Nat} {ds : List Digit} {rest : List Char} (filled : ds ≠ [])
    (fits : ds.length ≤ most) (ends : EndsDigits rest ∨ ds.length = most) :
    number? most (ds.map Digit.char ++ rest) = some (ds, rest) := by
  have front : (ds.map Digit.char ++ rest).take most =
      ds.map Digit.char ++ rest.take (most - ds.length) := by
    rw [List.take_append, List.length_map, List.take_of_length_le (by rwa [List.length_map])]
  have cut : EndsDigits (rest.take (most - ds.length)) := by
    rcases ends with ends | exact_
    · exact ends.take _
    · rw [exact_, Nat.sub_self]
      exact nofun
  have some_ : ¬ds.isEmpty = true := fun none => filled (List.isEmpty_iff.1 none)
  have left : (ds.map Digit.char ++ rest).drop ds.length = rest :=
    List.drop_left' (List.length_map _)
  simp only [number?, front, Decimal.spanDigits_written cut, if_neg some_, left]

private theorem solid_digit (d : Digit) : Text.isBlank d.char = false := by
  revert d
  decide

private theorem trimStart_digits {ds : List Digit} (filled : ds ≠ []) (rest : List Char) :
    Text.trimStart (ds.map Digit.char ++ rest) = ds.map Digit.char ++ rest := by
  cases ds with
  | nil => exact absurd rfl filled
  | cons d ds =>
    rw [List.map_cons, List.cons_append, Text.trimStart, List.dropWhile_cons, solid_digit]
    rfl

/-- A field of two places is read back. -/
private theorem field_written {n : Nat} (fits : n < 100) (rest : List Char) :
    field? (Decimal.padded 2 n ++ rest) = some (n, rest) := by
  have filled := Decimal.paddedDigits_ne_nil 2 n
  have width : (paddedDigits 2 n).length = 2 := Decimal.length_paddedDigits fits
  rw [field?, Decimal.padded_eq, trimStart_digits filled,
    number_written filled (Nat.le_of_eq width) (.inr width), Option.map_some,
    Decimal.ofDigits_paddedDigits]

private theorem year_unsigned {ds : List Digit} (filled : ds ≠ []) (rest : List Char) :
    year? (ds.map Digit.char ++ rest) =
      (number? 4 (ds.map Digit.char ++ rest)).map fun r => ((Decimal.ofDigits r.1 : Int), r.2) := by
  cases ds with
  | nil => exact absurd rfl filled
  | cons d ds =>
    have unsigned : ∀ d : Digit, d.char ≠ '-' ∧ d.char ≠ '+' := by decide
    rw [year?, trimStart_digits filled]
    split
    next first => exact absurd (List.cons.inj first).1 (unsigned d).1
    next first => exact absurd (List.cons.inj first).1 (unsigned d).2
    next => rfl

private theorem year_before (rest : List Char) : year? ('-' :: rest) =
    (number? rest.length rest).map fun r => (-(Decimal.ofDigits r.1 : Int), r.2) := rfl

private theorem year_after (rest : List Char) : year? ('+' :: rest) =
    (number? rest.length rest).map fun r => ((Decimal.ofDigits r.1 : Int), r.2) := rfl

/-- A year is read back, with its sign where it has one. -/
private theorem year_written (year : Int) (rest : List Char) :
    year? (yearText year ++ '-' :: rest) = some (year, '-' :: rest) := by
  have ends : EndsDigits ('-' :: rest) := Decimal.endsDigits_cons rfl rest
  have filled := Decimal.paddedDigits_ne_nil 4
  have signed : ∀ n, number? (Decimal.padded 4 n ++ '-' :: rest).length
      (Decimal.padded 4 n ++ '-' :: rest) = some (paddedDigits 4 n, '-' :: rest) := by
    intro n
    rw [Decimal.padded_eq]
    refine number_written (filled n) ?_ (.inl ends)
    rw [List.length_append, List.length_map]
    exact Nat.le_add_right ..
  unfold yearText
  split
  case isTrue near =>
    have width : (paddedDigits 4 year.toNat).length = 4 :=
      Decimal.length_paddedDigits (show year.toNat < 10000 by omega)
    rw [Decimal.padded_eq, year_unsigned (filled _),
      number_written (filled _) (Nat.le_of_eq width) (.inl ends), Option.map_some,
      Decimal.ofDigits_paddedDigits, Int.toNat_of_nonneg near.1]
  case isFalse far =>
    split
    case isTrue before =>
      rw [List.cons_append, year_before, signed, Option.map_some, Decimal.ofDigits_paddedDigits,
        Int.toNat_of_nonneg (by omega), Int.neg_neg]
    case isFalse after =>
      rw [List.cons_append, year_after, signed, Option.map_some, Decimal.ofDigits_paddedDigits,
        Int.toNat_of_nonneg (by omega)]

private theorem places_written {places value : Nat} (fits : value < Nat.pow 10 (places + 1))
    (short : places + 1 ≤ 9) :
    fraction? ('.' :: Decimal.padded (places + 1) value ++ ['Z']) =
      some (value * Nat.pow 10 (9 - (places + 1)), ['Z']) := by
  have ends : EndsDigits ['Z'] := Decimal.endsDigits_cons rfl []
  have width := Decimal.length_paddedDigits fits
  change (number? 9 (Decimal.padded (places + 1) value ++ ['Z'])).map (fun r =>
    (Decimal.ofDigits r.1 * Nat.pow 10 (9 - r.1.length), (Decimal.spanDigits r.2).2)) = _
  rw [Decimal.padded_eq, number_written (Decimal.paddedDigits_ne_nil _ _) (by rwa [width]) (.inl ends),
    Option.map_some, width, Decimal.ofDigits_paddedDigits]
  rfl

/-- A fraction of a second is read back, whatever the number of its places. -/
private theorem fraction_written {nanos : Nat} (fits : nanos < 1000000000) :
    fraction? (fractionText nanos ++ ['Z']) = some (nanos, ['Z']) := by
  unfold fractionText
  split
  case isTrue zero =>
    subst zero
    rfl
  case isFalse =>
    split
    case isTrue millis =>
      refine (places_written (show nanos / 1000000 < 1000 by omega) (by decide)).trans ?_
      have whole : nanos / 1000000 * Nat.pow 10 (9 - 3) = nanos :=
        Nat.div_mul_cancel (Nat.dvd_of_mod_eq_zero millis)
      rw [whole]
    case isFalse =>
      split
      case isTrue micros =>
        refine (places_written (show nanos / 1000 < 1000000 by omega) (by decide)).trans ?_
        have whole : nanos / 1000 * Nat.pow 10 (9 - 6) = nanos :=
          Nat.div_mul_cancel (Nat.dvd_of_mod_eq_zero micros)
        rw [whole]
      case isFalse =>
        refine (places_written (show nanos < 1000000000 from fits) (by decide)).trans ?_
        rw [show nanos * Nat.pow 10 (9 - 9) = nanos from Nat.mul_one nanos]

private theorem ofLocal_utc (t : Timestamp) :
    ofLocal? t.date t.hour t.minute t.second t.nanos 0 = some t := by
  obtain ⟨hours, minutes, seconds, nanos⟩ := t.valid
  have day : ((t.hour * 60 + t.minute : Int) - 0) / 1440 = 0 := by omega
  have rest : (((t.hour * 60 + t.minute : Int) - 0) % 1440).toNat = t.hour * 60 + t.minute := by omega
  have hour : (t.hour * 60 + t.minute) / 60 = t.hour := by omega
  have minute : (t.hour * 60 + t.minute) % 60 = t.minute := by omega
  simp only [ofLocal?, day, rest, hour, minute, Date.shift?, ↓reduceIte, t.valid, and_self,
    ↓reduceDIte]

private theorem daysIn_le (year : Int) (month : Nat) : daysIn year month ≤ 31 := by
  unfold daysIn
  split <;> try decide
  split <;> decide

/-- The written form of a point of time is read back as that point of time. -/
theorem read?_text (t : Timestamp) : read? t.text = some t := by
  obtain ⟨hours, minutes, seconds, nanos⟩ := t.valid
  obtain ⟨-, monthFrom, monthTo, dayFrom, dayTo⟩ := t.date.valid
  have days := daysIn_le t.date.year t.date.month
  have date : Date.of? t.date.year t.date.month t.date.day = some t.date := dif_pos t.date.valid
  have separated : ∀ (c : Char) (rest : List Char), Text.isBlank c = false →
      separator? c (c :: rest) = some rest := by
    intro c rest solid
    simp only [separator?, Text.trimStart, List.dropWhile_cons, solid, Bool.false_eq_true, ↓reduceIte]
  have zone : offset? (Text.trimStart ['Z']) = some (0, []) := rfl
  have done : Text.trimStart [] = [] ∧ t.hour < 24 ∧ t.minute < 60 ∧ (0 : Int).natAbs < 1440 :=
    ⟨rfl, hours, minutes, by decide⟩
  rw [read?, text, String.toList_ofList]
  simp only [List.append_assoc, List.cons_append, bind, Option.bind]
  rw [year_written]
  simp only [separated '-' _ rfl, field_written (show t.date.month < 100 by omega),
    field_written (show t.date.day < 100 by omega), field_written (show t.hour < 100 by omega),
    field_written (show t.minute < 100 by omega), field_written (show t.second < 100 by omega),
    separated ':' _ rfl, fraction_written nanos, zone, date, if_pos done]
  exact ofLocal_utc t

end CloudKeeper.Time.Timestamp
