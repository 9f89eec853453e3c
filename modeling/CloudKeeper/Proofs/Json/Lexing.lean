import CloudKeeper.Json.Printer
import CloudKeeper.Json.Token
/-!
The lexer on what the printer writes: each written string, integer and word is one token, and what
follows it is left. A written integer ends only where nothing follows that could belong to a number.
-/
namespace CloudKeeper.Json

open Decimal (Digit)

namespace Token

/-- The input that a written text is. -/
def written (cs : List Char) : Input := cs.map some

@[simp] theorem written_nil : written [] = [] := rfl

@[simp] theorem written_cons (c : Char) (cs : List Char) :
    written (c :: cs) = some c :: written cs := rfl

@[simp] theorem written_append (cs ds : List Char) : written (cs ++ ds) = written cs ++ written ds :=
  List.map_append

private theorem hexValue?_hexDigit {n : Nat} (small : n < 16) : hexValue? (hexDigit n) = some n := by
  have all : ∀ d : Fin 16, hexValue? (hexDigit d.val) = some d.val := by decide
  exact all ⟨n, small⟩

private theorem scanString_hex {missing value digit : Nat} {c : Char} {rest : Input}
    (hex : hexValue? c = some digit) (more : 1 < missing) :
    scanString (.hex missing value) (some c :: rest) =
      scanString (.hex (missing - 1) (value * 16 + digit)) rest := by
  simp only [scanString, hex, if_neg (Nat.not_le.2 more)]

private theorem scanString_lastHex {value digit : Nat} {c : Char} {rest : Input}
    (hex : hexValue? c = some digit) :
    scanString (.hex 1 value) (some c :: rest) =
      (scanString .plain rest).map fun r => (.unit (value * 16 + digit) :: r.1, r.2) := by
  simp only [scanString, hex, Nat.le_refl, ↓reduceIte]

/-- A unit that is no half of a pair stands for the character of its number. -/
private theorem assemble_unit {u : Nat} (whole : u < 0xD800) (pieces : List Piece) :
    assemble (.unit u :: pieces) = (assemble pieces).map (Char.ofNat u :: ·) := by
  have high : isHigh u = false := by
    rw [isHigh, decide_eq_false (Nat.not_le.2 whole)]
    rfl
  have low : isLow u = false := by
    rw [isLow, decide_eq_false (by omega)]
    rfl
  cases pieces with
  | nil => simp only [assemble, high, low, Bool.or_self, Bool.false_eq_true, ↓reduceIte]
  | cons piece rest =>
    cases piece <;> simp only [assemble, high, low, Bool.or_self, Bool.false_eq_true, ↓reduceIte]

/-- A written character is read as a piece that stands for it. -/
private theorem scanString_escape (c : Char) : ∃ piece : Piece,
    (∀ rest, scanString .plain (written (escape c) ++ rest) =
      (scanString .plain rest).map fun r => (piece :: r.1, r.2)) ∧
    ∀ pieces, assemble (piece :: pieces) = (assemble pieces).map (c :: ·) := by
  have named : ∀ {d : Char}, c.toNat = d.toNat → c = d := fun same => Char.toNat_inj.1 same
  have plain : ∀ pieces, assemble (.char c :: pieces) = (assemble pieces).map (c :: ·) :=
    fun _ => rfl
  unfold escape
  by_cases quote : c = '"'
  · subst quote
    exact ⟨.char '"', fun _ => rfl, plain⟩
  by_cases backslash : c = '\\'
  · subst backslash
    exact ⟨.char '\\', fun _ => rfl, plain⟩
  by_cases back : c.toNat = 0x08
  · cases named (d := '\x08') back
    exact ⟨.char '\x08', fun _ => rfl, plain⟩
  by_cases tab : c.toNat = 0x09
  · cases named (d := '\t') tab
    exact ⟨.char '\t', fun _ => rfl, plain⟩
  by_cases line : c.toNat = 0x0A
  · cases named (d := '\n') line
    exact ⟨.char '\n', fun _ => rfl, plain⟩
  by_cases feed : c.toNat = 0x0C
  · cases named (d := '\x0c') feed
    exact ⟨.char '\x0c', fun _ => rfl, plain⟩
  by_cases ret : c.toNat = 0x0D
  · cases named (d := '\r') ret
    exact ⟨.char '\r', fun _ => rfl, plain⟩
  rw [if_neg quote, if_neg backslash, if_neg back, if_neg tab, if_neg line, if_neg feed, if_neg ret]
  by_cases control : c.toNat < 0x20
  · rw [if_pos control]
    have high : hexValue? (hexDigit (c.toNat / 16)) = some (c.toNat / 16) :=
      hexValue?_hexDigit (by omega)
    have low : hexValue? (hexDigit (c.toNat % 16)) = some (c.toNat % 16) :=
      hexValue?_hexDigit (by omega)
    have value : ((0 * 16 + 0) * 16 + 0) * 16 + c.toNat / 16 = c.toNat / 16 := by omega
    have whole : c.toNat / 16 * 16 + c.toNat % 16 = c.toNat := by omega
    refine ⟨.unit c.toNat, fun rest => ?_, fun pieces => ?_⟩
    · change scanString (.hex 4 0) (some '0' :: some '0' :: some (hexDigit (c.toNat / 16))
        :: some (hexDigit (c.toNat % 16)) :: rest) = _
      have zero : hexValue? '0' = some 0 := rfl
      rw [scanString_hex zero (by decide), scanString_hex zero (by decide),
        scanString_hex high (by decide), scanString_lastHex low, value, whole]
    · rw [assemble_unit (by omega), Char.ofNat_toNat]
  · rw [if_neg control]
    refine ⟨.char c, fun rest => ?_, plain⟩
    simp only [written_cons, written_nil, List.cons_append, List.nil_append, scanString, if_neg quote,
      if_neg backslash, if_neg control]

/-- The characters between the quotes of a written string are read up to the closing quote. -/
private theorem scanString_written (cs : List Char) (rest : Input) :
    ∃ pieces, scanString .plain (written (cs.flatMap escape) ++ some '"' :: rest) =
      some (pieces, rest) ∧ assemble pieces = some cs := by
  induction cs with
  | nil => exact ⟨[], rfl, rfl⟩
  | cons c cs ih =>
    obtain ⟨pieces, scanned, assembled⟩ := ih
    obtain ⟨piece, first, stands⟩ := scanString_escape c
    refine ⟨piece :: pieces, ?_, ?_⟩
    · rw [List.flatMap_cons, written_append, List.append_assoc, first, scanned]
      rfl
    · rw [stands, assembled]
      rfl

/-- A written string is one token. -/
theorem scan_quoted (s : String) (rest : Input) :
    scan (written (quoted s) ++ rest) = some (.string (some s), rest) := by
  obtain ⟨pieces, scanned, assembled⟩ := scanString_written s.toList rest
  have closing : written (s.toList.flatMap escape ++ ['"']) ++ rest =
      written (s.toList.flatMap escape) ++ some '"' :: rest := by
    rw [written_append, List.append_assoc]
    rfl
  change scanQuoted (written (s.toList.flatMap escape ++ ['"']) ++ rest) = _
  rw [closing, scanQuoted, scanned, Option.map_some, assembled, Option.map_some,
    String.ofList_toList]

/-- Nothing in front of an input belongs to a number. -/
def EndsNumber (rest : Input) : Prop :=
  spanDigits rest = ([], rest) ∧ skip? '.' rest = none ∧ skip? 'e' rest = none ∧ skip? 'E' rest = none

private theorem spanDigits_written {ds : List Digit} {rest : Input}
    (ends : spanDigits rest = ([], rest)) :
    spanDigits (written (ds.map Digit.char) ++ rest) = (ds, rest) := by
  induction ds with
  | nil => exact ends
  | cons d ds ih =>
    simp only [List.map_cons, written_cons, List.cons_append, spanDigits, Decimal.Digit.ofChar?_char, ih]

/-- The digits of a number begin with zero only if there is no other digit. -/
private theorem digits_cons (n : Nat) : ∃ d ds, Decimal.digits n = d :: ds ∧ ¬(d = 0 ∧ ds ≠ []) := by
  induction n using Nat.strongRecOn with
  | ind n ih =>
    rw [Decimal.digits]
    split
    case isTrue small => exact ⟨⟨n, small⟩, [], rfl, fun bad => bad.2 rfl⟩
    case isFalse large =>
      obtain ⟨d, ds, digits, leading⟩ := ih (n / 10) (by omega)
      refine ⟨d, _, by rw [digits]; rfl, fun bad => ?_⟩
      have none : ds = [] := Classical.byContradiction fun some => leading ⟨bad.1, some⟩
      have value := Decimal.ofDigits_digits (n / 10)
      rw [digits, none, bad.1] at value
      change 0 = n / 10 at value
      omega

/-- The digits of a number are read as its numeral. -/
private theorem scanNumber_text (negative : Bool) (n : Nat) {rest : Input} (ends : EndsNumber rest) :
    scanNumber negative (written (Decimal.text n) ++ rest) =
      some (⟨negative, Decimal.digits n, [], none⟩, rest) := by
  obtain ⟨spans, point, small, capital⟩ := ends
  obtain ⟨d, ds, digits, leading⟩ := digits_cons n
  have whole : scanWhole (written (Decimal.text n) ++ rest) = some (Decimal.digits n, rest) := by
    rw [scanWhole, Decimal.text, spanDigits_written spans, digits]
    exact if_neg leading
  have fraction : scanFraction rest = some ([], rest) := by rw [scanFraction, point]
  have exponent : scanExponent rest = some (none, rest) := by
    rw [scanExponent, small, capital]
    rfl
  simp only [scanNumber, whole, fraction, exponent, Option.bind_eq_bind, Option.bind_some,
    Option.pure_def]

/-- A written integer is one token, the numeral that writes it. -/
theorem scan_int (i : Int) {rest : Input} (ends : EndsNumber rest) :
    scan (written (Number.int i).text ++ rest) = some (.number (.ofInt i), rest) := by
  cases i with
  | ofNat n =>
    obtain ⟨d, ds, digits, -⟩ := digits_cons n
    have starts : ∀ d : Digit, punctuation? d.char = none ∧ word? d.char = none ∧ d.char ≠ '"' ∧
        d.char ≠ '-' := by decide
    obtain ⟨punctuation, word, quote, minus⟩ := starts d
    have text : written (Decimal.text n) ++ rest =
        some d.char :: (written (ds.map Digit.char) ++ rest) := by
      rw [Decimal.text, digits]
      rfl
    change scan (written (Decimal.text n) ++ rest) = _
    rw [text]
    simp only [scan, punctuation, word, if_neg quote, if_neg minus]
    rw [← text, scanNumber_text false n ends]
    rfl
  | negSucc n =>
    change (scanNumber true (written (Decimal.text (n + 1)) ++ rest)).map
      (fun r => (Token.number r.1, r.2)) = _
    rw [scanNumber_text true (n + 1) ends]
    rfl

private theorem scan_space {cs : Input} (space : startsWithSpace cs = true) : scan cs = none := by
  cases cs with
  | nil => cases space
  | cons head rest =>
    cases head with
    | none => cases space
    | some c =>
      simp only [startsWithSpace, isSpace, Bool.or_eq_true, beq_iff_eq] at space
      obtain ((rfl | rfl) | rfl) | rfl := space <;> rfl

/-- A token at the front of an input is its first token. -/
theorem ofInput_of_scan {cs rest : Input} {t : Token} (scanned : scan cs = some (t, rest)) :
    ofInput cs = t :: ofInput rest := by
  cases cs with
  | nil => cases scanned
  | cons head tail =>
    have solid : ¬startsWithSpace (head :: tail) = true := by
      intro space
      rw [scan_space space] at scanned
      cases scanned
    rw [ofInput, if_neg solid]
    split
    next none => rw [none] at scanned; cases scanned
    next some =>
      rw [some] at scanned
      cases scanned
      rfl

/-- A blank belongs to no token. -/
theorem ofInput_space {c : Char} (space : isSpace c = true) (rest : Input) :
    ofInput (some c :: rest) = ofInput rest := by
  rw [ofInput, if_pos (show startsWithSpace (some c :: rest) = true from space)]

/-- A line break and its indentation hold no token. -/
theorem ofInput_newLine (depth : Nat) (rest : Input) :
    ofInput (written (Value.newLine depth) ++ rest) = ofInput rest := by
  have indentation : ∀ n, ofInput (written (List.replicate n ' ') ++ rest) = ofInput rest := by
    intro n
    induction n with
    | zero => rfl
    | succ n ih => exact (ofInput_space rfl _).trans ih
  exact (ofInput_space rfl _).trans (indentation _)

end Token

/-- An integer that fits 64 bits, signed or unsigned, is the value of the numeral that writes it. -/
theorem Numeral.value?_ofInt {i : Int} (low : Int64.minValue.toInt ≤ i) (high : i < UInt64.size) :
    (Numeral.ofInt i).value? = some (.int i) := by
  cases i with
  | ofNat n =>
    have fits : n < UInt64.size := Int.ofNat_lt.1 high
    simp only [ofInt, value?, Decimal.ofDigits_digits, if_pos fits, Bool.false_eq_true, ↓reduceIte]
    rfl
  | negSucc n =>
    have low : -(UInt64.size / 2 : Nat) ≤ Int.negSucc n := low
    have fits : 0 < n + 1 ∧ n + 1 ≤ UInt64.size / 2 := by omega
    simp only [ofInt, value?, Decimal.ofDigits_digits, if_pos fits, ↓reduceIte]
    rfl

end CloudKeeper.Json
