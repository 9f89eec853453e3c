import CloudKeeper.Decimal.Digits
/-!
Decimal text of a fixed width: a number below the power of ten fills the width exactly, and its digits
are read up to whatever is no digit.
-/
namespace CloudKeeper.Decimal

/-- The digits of a number, filled up with zeros at the front to a least width. -/
def paddedDigits (width n : Nat) : List Digit :=
  List.replicate (width - (digits n).length) ⟨0, by decide⟩ ++ digits n

theorem padded_eq (width n : Nat) : padded width n = (paddedDigits width n).map Digit.char := by
  rw [padded, paddedDigits, List.map_append, List.map_replicate, text, List.length_map]
  rfl

/-- Zeros at the front do not change the number. -/
theorem ofDigits_paddedDigits (width n : Nat) : ofDigits (paddedDigits width n) = n := by
  have zeros : ∀ k, ofDigits (List.replicate k ⟨0, by decide⟩ ++ digits n) = ofDigits (digits n) := by
    intro k
    induction k with
    | zero => rfl
    | succ k ih => exact ih
  rw [paddedDigits, zeros, ofDigits_digits]

theorem paddedDigits_ne_nil (width n : Nat) : paddedDigits width n ≠ [] := by
  intro none
  exact digits_ne_nil n (List.append_eq_nil_iff.1 none).2

private theorem length_digits {n width : Nat} (fits : n < Nat.pow 10 (width + 1)) :
    (digits n).length ≤ width + 1 := by
  induction width generalizing n with
  | zero =>
    have single : n < 10 := fits
    rw [digits, dif_pos single]
    exact Nat.le_refl 1
  | succ width ih =>
    rw [digits]
    split
    · exact Nat.succ_le_succ (Nat.zero_le _)
    · have smaller : n / 10 < Nat.pow 10 (width + 1) :=
        Nat.div_lt_of_lt_mul (by rw [Nat.mul_comm]; exact fits)
      rw [List.length_append]
      exact Nat.succ_le_succ (ih smaller)

/-- A number fills the width of its power of ten. -/
theorem length_paddedDigits {n width : Nat} (fits : n < Nat.pow 10 (width + 1)) :
    (paddedDigits (width + 1) n).length = width + 1 := by
  have short := length_digits fits
  rw [paddedDigits, List.length_append, List.length_replicate]
  omega

/-- A text does not begin with a digit. -/
def EndsDigits (rest : List Char) : Prop := ∀ c, rest.head? = some c → Digit.ofChar? c = none

theorem endsDigits_cons {c : Char} (other : Digit.ofChar? c = none) (rest : List Char) :
    EndsDigits (c :: rest) := by
  intro d first
  cases first
  exact other

theorem EndsDigits.take {rest : List Char} (ends : EndsDigits rest) (n : Nat) :
    EndsDigits (rest.take n) := by
  intro c first
  rw [List.head?_take] at first
  split at first
  case isTrue => cases first
  case isFalse => exact ends c first

/-- Written digits are read up to what is no digit. -/
theorem spanDigits_written {ds : List Digit} {rest : List Char} (ends : EndsDigits rest) :
    spanDigits (ds.map Digit.char ++ rest) = (ds, rest) := by
  induction ds with
  | nil =>
    cases rest with
    | nil => rfl
    | cons c rest => simp only [List.map_nil, List.nil_append, spanDigits, ends c rfl]
  | cons d ds ih => simp only [List.map_cons, List.cons_append, spanDigits, Digit.ofChar?_char, ih]

end CloudKeeper.Decimal
