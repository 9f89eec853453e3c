/-!
Natural numbers as decimal digits, most significant first. Reading the digits of a number gives the
number back.
-/
namespace CloudKeeper.Decimal

/-- One decimal digit. -/
abbrev Digit := Fin 10

/-- The character of a digit. -/
def Digit.char (d : Digit) : Char :=
  Char.ofNat (48 + d.val)

/-- The digit that a character is, if it is one of the ten ASCII digits. -/
def Digit.ofChar? (c : Char) : Option Digit :=
  if h : 48 ≤ c.toNat ∧ c.toNat < 58 then some ⟨c.toNat - 48, by omega⟩ else none

/-- The digits of a number, without leading zeros; zero has the one digit zero. -/
def digits (n : Nat) : List Digit :=
  if h : n < 10 then [⟨n, h⟩]
  else digits (n / 10) ++ [⟨n % 10, Nat.mod_lt n (by decide)⟩]
termination_by n
decreasing_by omega

/-- The number that digits stand for, after `start`. -/
def ofDigitsFrom (start : Nat) (ds : List Digit) : Nat :=
  ds.foldl (fun n d => n * 10 + d.val) start

/-- The number that digits stand for. -/
def ofDigits (ds : List Digit) : Nat :=
  ofDigitsFrom 0 ds

/-- The decimal text of a number. -/
def text (n : Nat) : List Char :=
  (digits n).map Digit.char

/-- The decimal text of a number, filled up with zeros at the front to a least width. -/
def padded (width n : Nat) : List Char :=
  List.replicate (width - (text n).length) '0' ++ text n

/-- The longest run of digits at the front of a text, and what follows it. -/
def spanDigits : List Char → List Digit × List Char
  | [] => ([], [])
  | c :: rest =>
    match Digit.ofChar? c with
    | some d => (d :: (spanDigits rest).1, (spanDigits rest).2)
    | none => ([], c :: rest)

theorem ofDigits_append_singleton (ds : List Digit) (d : Digit) :
    ofDigits (ds ++ [d]) = ofDigits ds * 10 + d.val := by
  simp [ofDigits, ofDigitsFrom, List.foldl_append]

/-- Reading the digits of a number gives the number back. -/
theorem ofDigits_digits (n : Nat) : ofDigits (digits n) = n := by
  induction n using Nat.strongRecOn with
  | ind n ih =>
    rw [digits]
    split
    · simp [ofDigits, ofDigitsFrom]
    · have smaller : n / 10 < n := by omega
      rw [ofDigits_append_singleton, ih _ smaller]
      simp only
      omega

theorem digits_ne_nil (n : Nat) : digits n ≠ [] := by
  rw [digits]
  split <;> simp

theorem Digit.ofChar?_char (d : Digit) : Digit.ofChar? d.char = some d := by
  revert d
  decide

end CloudKeeper.Decimal
