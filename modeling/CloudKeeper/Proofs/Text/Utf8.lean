import CloudKeeper.Text.Utf8
/-!
Reading the octets of a text gives its characters back. Each length of an encoded character has its own
first octets, and the narrower bounds after some of them exclude only what no character needs.
-/
namespace CloudKeeper.Text.Utf8

private theorem not_below {b bound : UInt8} (low : bound.toNat ≤ b.toNat) : ¬b < bound :=
  UInt8.not_lt.2 (UInt8.le_iff_toNat_le.2 low)

private theorem lead_of_two {b : UInt8} (low : 0xC2 ≤ b.toNat) (high : b.toNat < 0xE0) :
    lead b = .begins ⟨1, 0x80, 0xBF, b.toNat - 0xC0⟩ := by
  have one : ¬b < 0x80 := not_below (Nat.le_trans (by decide) low)
  have stray : ¬b < 0xC2 := not_below low
  have two : b < 0xE0 := UInt8.lt_iff_toNat_lt.2 high
  rw [lead, if_neg one, if_neg stray, if_pos two]

/-- The bounds of the octet after the first of three. -/
private def secondOfThree (first : UInt8) : UInt8 × UInt8 :=
  if first = 0xE0 then (0xA0, 0xBF) else if first = 0xED then (0x80, 0x9F) else (0x80, 0xBF)

private theorem lead_of_three {b : UInt8} (low : 0xE0 ≤ b.toNat) (high : b.toNat < 0xF0) :
    lead b = .begins ⟨2, (secondOfThree b).1, (secondOfThree b).2, b.toNat - 0xE0⟩ := by
  have one : ¬b < 0x80 := not_below (Nat.le_trans (by decide) low)
  have stray : ¬b < 0xC2 := not_below (Nat.le_trans (by decide) low)
  have two : ¬b < 0xE0 := not_below low
  have three : b < 0xF0 := UInt8.lt_iff_toNat_lt.2 high
  rw [lead, if_neg one, if_neg stray, if_neg two, secondOfThree]
  by_cases first : b = 0xE0
  · subst first
    rfl
  · by_cases last : b = 0xED
    · subst last
      rfl
    · rw [if_neg first, if_neg last, if_pos three, if_neg first, if_neg last]

/-- The bounds of the octet after the first of four. -/
private def secondOfFour (first : UInt8) : UInt8 × UInt8 :=
  if first = 0xF0 then (0x90, 0xBF) else if first = 0xF4 then (0x80, 0x8F) else (0x80, 0xBF)

private theorem lead_of_four {b : UInt8} (low : 0xF0 ≤ b.toNat) (high : b.toNat ≤ 0xF4) :
    lead b = .begins ⟨3, (secondOfFour b).1, (secondOfFour b).2, b.toNat - 0xF0⟩ := by
  have one : ¬b < 0x80 := not_below (Nat.le_trans (by decide) low)
  have stray : ¬b < 0xC2 := not_below (Nat.le_trans (by decide) low)
  have two : ¬b < 0xE0 := not_below (Nat.le_trans (by decide) low)
  have three : ¬b < 0xF0 := not_below low
  have first : b ≠ 0xE0 := fun same => three (by rw [same]; decide)
  have last : b ≠ 0xED := fun same => three (by rw [same]; decide)
  rw [lead, if_neg one, if_neg stray, if_neg two, if_neg first, if_neg last, if_neg three,
    secondOfFour]
  by_cases least : b = 0xF0
  · subst least
    rfl
  · by_cases most : b = 0xF4
    · subst most
      rfl
    · have four : b < 0xF4 := by
        refine UInt8.lt_iff_toNat_lt.2 (Nat.lt_of_le_of_ne high fun same => most ?_)
        exact UInt8.toNat_inj.1 same
      rw [if_neg least, if_pos four, if_neg least, if_neg most]

private theorem decodeFrom_more {p : Pending} {b : UInt8} {rest : List UInt8}
    (low : p.low.toNat ≤ b.toNat) (high : b.toNat ≤ p.high.toNat) (owed : 2 ≤ p.owed) :
    decodeFrom (some p) (b :: rest) =
      decodeFrom (some ⟨p.owed - 1, 0x80, 0xBF, p.extend b⟩) rest := by
  have admits : p.admits b = true := by
    rw [Pending.admits, Bool.and_eq_true, decide_eq_true_eq, decide_eq_true_eq]
    exact ⟨UInt8.le_iff_toNat_le.2 low, UInt8.le_iff_toNat_le.2 high⟩
  rw [decodeFrom, if_pos admits, if_neg (by omega)]

private theorem decodeFrom_last {p : Pending} {b : UInt8} {rest : List UInt8}
    (low : p.low.toNat ≤ b.toNat) (high : b.toNat ≤ p.high.toNat) (owed : p.owed ≤ 1) :
    decodeFrom (some p) (b :: rest) = some (Char.ofNat (p.extend b)) :: decodeFrom none rest := by
  have admits : p.admits b = true := by
    rw [Pending.admits, Bool.and_eq_true, decide_eq_true_eq, decide_eq_true_eq]
    exact ⟨UInt8.le_iff_toNat_le.2 low, UInt8.le_iff_toNat_le.2 high⟩
  rw [decodeFrom, if_pos admits, if_pos owed]

private theorem toNat_octet {n : Nat} (small : n < 256) : (UInt8.ofNat n).toNat = n :=
  UInt8.toNat_ofNat_of_lt' small

private theorem decodeFrom_begins {b : UInt8} {p : Pending} {rest : List UInt8}
    (begins : lead b = .begins p) : decodeFrom none (b :: rest) = decodeFrom (some p) rest := by
  rw [decodeFrom, begins]

private theorem decodeFrom_two {n : Nat} (low : 0x80 ≤ n) (high : n < 0x800) (rest : List UInt8) :
    decodeFrom none (.ofNat (n / 64 % 32 + 0xC0) :: .ofNat (n % 64 + 0x80) :: rest) =
      some (Char.ofNat n) :: decodeFrom none rest := by
  have first : (UInt8.ofNat (n / 64 % 32 + 0xC0)).toNat = _ := toNat_octet (by omega)
  have second : (UInt8.ofNat (n % 64 + 0x80)).toNat = _ := toNat_octet (by omega)
  rw [decodeFrom_begins (lead_of_two (by omega) (by omega)),
    decodeFrom_last (by rw [second]; exact Nat.le_add_left ..)
      (by rw [second]; change _ ≤ 0xBF; omega) (Nat.le_refl 1)]
  have bits : (n / 64 % 32 + 0xC0 - 0xC0) * 64 + (n % 64 + 0x80) % 64 = n := by omega
  rw [Pending.extend, first, second, bits]

private theorem decodeFrom_three {n : Nat} (low : 0x800 ≤ n) (high : n < 0x10000)
    (scalar : n < 0xD800 ∨ 0xDFFF < n) (rest : List UInt8) :
    decodeFrom none (.ofNat (n / 4096 % 16 + 0xE0) :: .ofNat (n / 64 % 64 + 0x80)
      :: .ofNat (n % 64 + 0x80) :: rest) = some (Char.ofNat n) :: decodeFrom none rest := by
  have first : (UInt8.ofNat (n / 4096 % 16 + 0xE0)).toNat = _ := toNat_octet (by omega)
  have second : (UInt8.ofNat (n / 64 % 64 + 0x80)).toNat = _ := toNat_octet (by omega)
  have third : (UInt8.ofNat (n % 64 + 0x80)).toNat = _ := toNat_octet (by omega)
  have bounds : (secondOfThree (.ofNat (n / 4096 % 16 + 0xE0))).1.toNat ≤ n / 64 % 64 + 0x80 ∧
      n / 64 % 64 + 0x80 ≤ (secondOfThree (.ofNat (n / 4096 % 16 + 0xE0))).2.toNat := by
    unfold secondOfThree
    split
    case isTrue least =>
      have := congrArg UInt8.toNat least
      rw [first] at this
      change _ = 0xE0 at this
      change 0xA0 ≤ _ ∧ _ ≤ 0xBF
      omega
    case isFalse =>
      split
      case isTrue most =>
        have := congrArg UInt8.toNat most
        rw [first] at this
        change _ = 0xED at this
        change 0x80 ≤ _ ∧ _ ≤ 0x9F
        omega
      case isFalse =>
        change 0x80 ≤ _ ∧ _ ≤ 0xBF
        omega
  rw [decodeFrom_begins (lead_of_three (by omega) (by omega)),
    decodeFrom_more (by rw [second]; exact bounds.1) (by rw [second]; exact bounds.2) (Nat.le_refl 2),
    decodeFrom_last (by rw [third]; exact Nat.le_add_left ..)
      (by rw [third]; change _ ≤ 0xBF; omega) (Nat.le_refl 1)]
  have bits : ((n / 4096 % 16 + 0xE0 - 0xE0) * 64 + (n / 64 % 64 + 0x80) % 64) * 64
      + (n % 64 + 0x80) % 64 = n := by omega
  simp only [Pending.extend, first, second, third, bits]

private theorem decodeFrom_four {n : Nat} (low : 0x10000 ≤ n) (high : n < 0x110000)
    (rest : List UInt8) :
    decodeFrom none (.ofNat (n / 262144 % 8 + 0xF0) :: .ofNat (n / 4096 % 64 + 0x80)
      :: .ofNat (n / 64 % 64 + 0x80) :: .ofNat (n % 64 + 0x80) :: rest) =
        some (Char.ofNat n) :: decodeFrom none rest := by
  have first : (UInt8.ofNat (n / 262144 % 8 + 0xF0)).toNat = _ := toNat_octet (by omega)
  have second : (UInt8.ofNat (n / 4096 % 64 + 0x80)).toNat = _ := toNat_octet (by omega)
  have third : (UInt8.ofNat (n / 64 % 64 + 0x80)).toNat = _ := toNat_octet (by omega)
  have fourth : (UInt8.ofNat (n % 64 + 0x80)).toNat = _ := toNat_octet (by omega)
  have bounds : (secondOfFour (.ofNat (n / 262144 % 8 + 0xF0))).1.toNat ≤ n / 4096 % 64 + 0x80 ∧
      n / 4096 % 64 + 0x80 ≤ (secondOfFour (.ofNat (n / 262144 % 8 + 0xF0))).2.toNat := by
    unfold secondOfFour
    split
    case isTrue least =>
      have := congrArg UInt8.toNat least
      rw [first] at this
      change _ = 0xF0 at this
      change 0x90 ≤ _ ∧ _ ≤ 0xBF
      omega
    case isFalse =>
      split
      case isTrue most =>
        have := congrArg UInt8.toNat most
        rw [first] at this
        change _ = 0xF4 at this
        change 0x80 ≤ _ ∧ _ ≤ 0x8F
        omega
      case isFalse =>
        change 0x80 ≤ _ ∧ _ ≤ 0xBF
        omega
  rw [decodeFrom_begins (lead_of_four (by omega) (by omega)),
    decodeFrom_more (by rw [second]; exact bounds.1) (by rw [second]; exact bounds.2)
      (Nat.le_succ 2),
    decodeFrom_more (by rw [third]; exact Nat.le_add_left ..)
      (by rw [third]; change _ ≤ 0xBF; omega) (Nat.le_refl 2),
    decodeFrom_last (by rw [fourth]; exact Nat.le_add_left ..)
      (by rw [fourth]; change _ ≤ 0xBF; omega) (Nat.le_refl 1)]
  have bits : (((n / 262144 % 8 + 0xF0 - 0xF0) * 64 + (n / 4096 % 64 + 0x80) % 64) * 64
      + (n / 64 % 64 + 0x80) % 64) * 64 + (n % 64 + 0x80) % 64 = n := by omega
  simp only [Pending.extend, first, second, third, fourth, bits]

/-- An encoded character is read as that character. -/
theorem decodeFrom_encodeChar (c : Char) (rest : List UInt8) :
    decodeFrom none (String.utf8EncodeChar c ++ rest) = some c :: decodeFrom none rest := by
  have valid : c.toNat < 0xD800 ∨ 0xDFFF < c.toNat ∧ c.toNat < 0x110000 := c.valid
  have again : Char.ofNat c.toNat = c := Char.ofNat_toNat c
  unfold String.utf8EncodeChar
  change decodeFrom none ((if c.toNat ≤ 0x7F then _ else
    if c.toNat ≤ 0x7FF then _ else if c.toNat ≤ 0xFFFF then _ else _) ++ rest) = _
  by_cases one : c.toNat ≤ 0x7F
  · have octet : (UInt8.ofNat c.toNat).toNat = c.toNat := toNat_octet (by omega)
    have whole : lead (.ofNat c.toNat) = .whole c := by
      rw [lead, if_pos (UInt8.lt_iff_toNat_lt.2 (by rw [octet]; exact Nat.lt_succ_of_le one)), octet,
        again]
    rw [if_pos one]
    change decodeFrom none (UInt8.ofNat c.toNat :: rest) = _
    rw [decodeFrom, whole]
  · by_cases two : c.toNat ≤ 0x7FF
    · rw [if_neg one, if_pos two]
      exact (decodeFrom_two (n := c.toNat) (by omega) (by omega) rest).trans (by rw [again])
    · by_cases three : c.toNat ≤ 0xFFFF
      · rw [if_neg one, if_neg two, if_pos three]
        exact (decodeFrom_three (n := c.toNat) (by omega) (by omega) (by omega) rest).trans (by rw [again])
      · rw [if_neg one, if_neg two, if_neg three]
        exact (decodeFrom_four (n := c.toNat) (by omega) (by omega) rest).trans (by rw [again])

/-- Reading the octets of a text gives its characters back. -/
theorem decode_encode (chars : List Char) : decode (encode chars) = chars.map some := by
  induction chars with
  | nil => rfl
  | cons c rest ih => exact (decodeFrom_encodeChar c (encode rest)).trans (congrArg _ ih)

end CloudKeeper.Text.Utf8
