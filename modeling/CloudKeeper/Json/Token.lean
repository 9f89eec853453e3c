import CloudKeeper.Json.Number
/-!
The tokens of JSON text. Input is the reading of an octet sequence as UTF-8, with `none` for an
ill-formed part. A string whose grammar is right but which is no text, because of an ill-formed part
or a lone surrogate, is still one token: a reader that skips it does not care.
-/
namespace CloudKeeper.Json

open Decimal (Digit)

/-- One token. -/
inductive Token
  | openArray
  | closeArray
  | openObject
  | closeObject
  | comma
  | colon
  | null
  | bool (b : Bool)
  | number (n : Numeral)
  /-- A string, or `none` where its contents are no text. -/
  | string (s : Option String)
  /-- Something that begins no token; nothing is read after it. -/
  | stray
  deriving DecidableEq, Repr

/-- The input of the lexer. -/
abbrev Input := List (Option Char)

/-- The four blanks of JSON. -/
def isSpace (c : Char) : Bool :=
  c == ' ' || c == '\n' || c == '\t' || c == '\r'

/-- The value of a hexadecimal digit of either case. -/
def hexValue? (c : Char) : Option Nat :=
  let n := c.toNat
  if 48 ≤ n ∧ n < 58 then some (n - 48)
  else if 97 ≤ n ∧ n < 103 then some (n - 87)
  else if 65 ≤ n ∧ n < 71 then some (n - 55)
  else none

namespace Token

/-- A part of a string between its quotes: a character, a sixteen-bit unit from an escape, or an
ill-formed part. -/
inductive Piece
  | char (c : Char)
  | unit (u : Nat)
  | illFormed
  deriving DecidableEq, Repr

/-- Where the reader of a string stands. -/
inductive Mode
  | plain
  | escape
  /-- Inside a unit, with the hexadecimal digits still missing and the value so far. -/
  | hex (missing : Nat) (value : Nat)
  deriving DecidableEq, Repr

/-- The character that a one-letter escape stands for. -/
def escaped? (c : Char) : Option Char :=
  if c = '"' then some '"'
  else if c = '\\' then some '\\'
  else if c = '/' then some '/'
  else if c = 'b' then some '\x08'
  else if c = 'f' then some '\x0c'
  else if c = 'n' then some '\n'
  else if c = 'r' then some '\r'
  else if c = 't' then some '\t'
  else none

/-- Reads a string after its opening quote, up to and with the closing one. -/
def scanString : Mode → Input → Option (List Piece × Input)
  | _, [] => none
  | .plain, none :: rest => (scanString .plain rest).map fun r => (.illFormed :: r.1, r.2)
  | .plain, some c :: rest =>
    if c = '"' then some ([], rest)
    else if c = '\\' then scanString .escape rest
    else if c.toNat < 0x20 then none
    else (scanString .plain rest).map fun r => (.char c :: r.1, r.2)
  | .escape, none :: _ => none
  | .escape, some c :: rest =>
    if c = 'u' then scanString (.hex 4 0) rest
    else
      match escaped? c with
      | some d => (scanString .plain rest).map fun r => (.char d :: r.1, r.2)
      | none => none
  | .hex _ _, none :: _ => none
  | .hex missing value, some c :: rest =>
    match hexValue? c with
    | none => none
    | some digit =>
      if missing ≤ 1 then
        (scanString .plain rest).map fun r => (.unit (value * 16 + digit) :: r.1, r.2)
      else scanString (.hex (missing - 1) (value * 16 + digit)) rest

/-- Whether a unit is the first half of a pair. -/
def isHigh (u : Nat) : Bool := 0xD800 ≤ u && u < 0xDC00

/-- Whether a unit is the second half of a pair. -/
def isLow (u : Nat) : Bool := 0xDC00 ≤ u && u < 0xE000

/-- The characters of a string; `none` at an ill-formed part or a half that stands alone. -/
def assemble : List Piece → Option (List Char)
  | [] => some []
  | .char c :: rest => (assemble rest).map (c :: ·)
  | .illFormed :: _ => none
  | .unit u :: .unit v :: rest =>
    if isHigh u then
      if isLow v then
        (assemble rest).map (Char.ofNat (0x10000 + (u - 0xD800) * 0x400 + (v - 0xDC00)) :: ·)
      else none
    else if isLow u then none
    else (assemble (.unit v :: rest)).map (Char.ofNat u :: ·)
  | .unit u :: rest =>
    if isHigh u || isLow u then none else (assemble rest).map (Char.ofNat u :: ·)

/-- The longest run of digits at the front, and what follows it. -/
def spanDigits : Input → List Digit × Input
  | some c :: rest =>
    match Digit.ofChar? c with
    | some d => (d :: (spanDigits rest).1, (spanDigits rest).2)
    | none => ([], some c :: rest)
  | cs => ([], cs)

/-- The input after a given character, if it begins with it. -/
def skip? (c : Char) : Input → Option Input
  | some d :: rest => if d = c then some rest else none
  | _ => none

/-- The input after a given text, if it begins with it. -/
def skipText? : List Char → Input → Option Input
  | [], cs => some cs
  | c :: text, cs => (skip? c cs).bind (skipText? text)

/-- Reads the digits of a whole part: zero stands alone. -/
def scanWhole (cs : Input) : Option (List Digit × Input) :=
  match spanDigits cs with
  | ([], _) => none
  | (d :: ds, rest) => if d = 0 ∧ ds ≠ [] then none else some (d :: ds, rest)

/-- Reads a fraction if a point follows: at least one digit. -/
def scanFraction (cs : Input) : Option (List Digit × Input) :=
  match skip? '.' cs with
  | none => some ([], cs)
  | some rest =>
    match spanDigits rest with
    | ([], _) => none
    | (ds, rest) => some (ds, rest)

/-- Reads an exponent if its letter follows: an optional sign and at least one digit. -/
def scanExponent (cs : Input) : Option (Option Exponent × Input) :=
  match (skip? 'e' cs).or (skip? 'E' cs) with
  | none => some (none, cs)
  | some rest =>
    let (negative, rest) :=
      match skip? '-' rest, skip? '+' rest with
      | some rest, _ => (true, rest)
      | none, some rest => (false, rest)
      | none, none => (false, rest)
    match spanDigits rest with
    | ([], _) => none
    | (ds, rest) => some (some ⟨negative, ds⟩, rest)

/-- Reads a number after its sign. -/
def scanNumber (negative : Bool) (cs : Input) : Option (Numeral × Input) := do
  let (whole, rest) ← scanWhole cs
  let (fraction, rest) ← scanFraction rest
  let (exponent, rest) ← scanExponent rest
  return (⟨negative, whole, fraction, exponent⟩, rest)

/-- The token that a character is by itself. -/
def punctuation? (c : Char) : Option Token :=
  if c = '[' then some .openArray
  else if c = ']' then some .closeArray
  else if c = '\x7b' then some .openObject
  else if c = '\x7d' then some .closeObject
  else if c = ',' then some .comma
  else if c = ':' then some .colon
  else none

/-- The word that begins with a character, less that character, and its token. -/
def word? (c : Char) : Option (List Char × Token) :=
  if c = 'n' then some (['u', 'l', 'l'], .null)
  else if c = 't' then some (['r', 'u', 'e'], .bool true)
  else if c = 'f' then some (['a', 'l', 's', 'e'], .bool false)
  else none

/-- The token of a string after its opening quote. -/
def scanQuoted (cs : Input) : Option (Token × Input) :=
  (scanString .plain cs).map fun r => (.string ((assemble r.1).map String.ofList), r.2)

/-- The token at the front of an input that does not begin with a blank, and the input after it;
`none` where nothing fits. -/
def scan : Input → Option (Token × Input)
  | [] => none
  | none :: _ => none
  | some c :: rest =>
    match punctuation? c, word? c with
    | some t, _ => some (t, rest)
    | none, some (tail, t) => (skipText? tail rest).map (t, ·)
    | none, none =>
      if c = '"' then scanQuoted rest
      else if c = '-' then (scanNumber true rest).map fun r => (.number r.1, r.2)
      else (scanNumber false (some c :: rest)).map fun r => (.number r.1, r.2)

/-- Whether an input begins with a blank. -/
def startsWithSpace : Input → Bool
  | some c :: _ => isSpace c
  | _ => false

private theorem scanString_shorter {mode : Mode} {cs : Input} {r : List Piece × Input}
    (scanned : scanString mode cs = some r) : r.2.length < cs.length := by
  induction cs generalizing mode r with
  | nil => cases mode <;> simp [scanString] at scanned
  | cons head rest ih =>
    have step : ∀ {m : Mode} {f : List Piece → List Piece},
        (scanString m rest).map (fun q => (f q.1, q.2)) = some r → r.2.length < rest.length := by
      intro m f mapped
      obtain ⟨q, inner, rfl⟩ := Option.map_eq_some_iff.1 mapped
      have := ih inner
      exact this
    have more : ∀ {n : Nat}, n < rest.length → n < (head :: rest).length := by
      intro n less
      simp only [List.length_cons]
      omega
    cases mode <;> cases head <;> simp only [scanString] at scanned
    all_goals (repeat' split at scanned)
    all_goals first
      | contradiction
      | exact more (step (f := (_ :: ·)) scanned)
      | exact more (ih scanned)
      | (simp only [Option.some.injEq] at scanned; subst scanned; simp)

private theorem spanDigits_length (cs : Input) :
    (spanDigits cs).1.length + (spanDigits cs).2.length = cs.length := by
  induction cs with
  | nil => rfl
  | cons head rest ih =>
    cases head with
    | none => simp [spanDigits]
    | some c =>
      simp only [spanDigits]
      split
      · simp only [List.length_cons]
        omega
      · simp

private theorem skip?_length {c : Char} {cs rest : Input} (skipped : skip? c cs = some rest) :
    rest.length < cs.length := by
  cases cs with
  | nil => simp [skip?] at skipped
  | cons head tail =>
    cases head with
    | none => simp [skip?] at skipped
    | some d =>
      simp only [skip?] at skipped
      split at skipped
      · simp only [Option.some.injEq] at skipped
        subst skipped
        simp
      · contradiction

private theorem skipText?_length {text : List Char} {cs rest : Input}
    (skipped : skipText? text cs = some rest) : rest.length ≤ cs.length := by
  induction text generalizing cs with
  | nil =>
    simp only [skipText?, Option.some.injEq] at skipped
    simp [skipped]
  | cons c text ih =>
    obtain ⟨middle, first, others⟩ := Option.bind_eq_some_iff.1 skipped
    have := skip?_length first
    have := ih others
    omega

private theorem scanWhole_length {cs : Input} {r : List Digit × Input}
    (scanned : scanWhole cs = some r) : r.2.length < cs.length := by
  have total := spanDigits_length cs
  simp only [scanWhole] at scanned
  split at scanned
  · contradiction
  next d ds rest spanned =>
    rw [spanned] at total
    split at scanned
    · contradiction
    · simp only [Option.some.injEq] at scanned
      subst scanned
      simp only [List.length_cons] at total
      simp only
      omega

private theorem scanFraction_length {cs : Input} {r : List Digit × Input}
    (scanned : scanFraction cs = some r) : r.2.length ≤ cs.length := by
  simp only [scanFraction] at scanned
  split at scanned
  · simp only [Option.some.injEq] at scanned
    subst scanned
    simp
  next rest skipped =>
    have shorter := skip?_length skipped
    have total := spanDigits_length rest
    split at scanned
    · contradiction
    next ds after _ spanned =>
      simp only [Option.some.injEq] at scanned
      subst scanned
      rw [spanned] at total
      simp only at total ⊢
      omega

private theorem scanExponent_length {cs : Input} {r : Option Exponent × Input}
    (scanned : scanExponent cs = some r) : r.2.length ≤ cs.length := by
  simp only [scanExponent] at scanned
  split at scanned
  · simp only [Option.some.injEq] at scanned
    subst scanned
    simp
  next rest skipped =>
    have shorter : rest.length < cs.length := by
      rcases Option.or_eq_some_iff.1 skipped with found | ⟨_, found⟩ <;> exact skip?_length found
    have afterSign : ∀ {negative : Bool} {after : Input},
        (match skip? '-' rest, skip? '+' rest with
          | some rest, _ => (true, rest)
          | none, some rest => (false, rest)
          | none, none => (false, rest)) = (negative, after) → after.length ≤ rest.length := by
      intro negative after equation
      split at equation
      next minus => simp only [Prod.mk.injEq] at equation; have := skip?_length minus; grind
      next plus => simp only [Prod.mk.injEq] at equation; have := skip?_length plus; grind
      next => simp only [Prod.mk.injEq] at equation; grind
    generalize signed : (match skip? '-' rest, skip? '+' rest with
          | some rest, _ => (true, rest)
          | none, some rest => (false, rest)
          | none, none => (false, rest)) = s at scanned
    obtain ⟨negative, after⟩ := s
    have := afterSign signed
    have total := spanDigits_length after
    simp only at scanned
    split at scanned
    · contradiction
    next ds last _ spanned =>
      simp only [Option.some.injEq] at scanned
      subst scanned
      rw [spanned] at total
      simp only at total ⊢
      omega

private theorem scanNumber_length {negative : Bool} {cs : Input} {r : Numeral × Input}
    (scanned : scanNumber negative cs = some r) : r.2.length < cs.length := by
  simp only [scanNumber, Option.bind_eq_bind, Option.pure_def] at scanned
  obtain ⟨⟨whole, a⟩, first, scanned⟩ := Option.bind_eq_some_iff.1 scanned
  obtain ⟨⟨fraction, b⟩, second, scanned⟩ := Option.bind_eq_some_iff.1 scanned
  obtain ⟨⟨exponent, c⟩, third, scanned⟩ := Option.bind_eq_some_iff.1 scanned
  simp only [Option.some.injEq] at scanned
  subst scanned
  have := scanWhole_length first
  have := scanFraction_length second
  have := scanExponent_length third
  simp only at *
  omega

/-- A token takes at least one character. -/
theorem scan_length {cs : Input} {r : Token × Input} (scanned : scan cs = some r) :
    r.2.length < cs.length := by
  cases cs with
  | nil => simp [scan] at scanned
  | cons head rest =>
    cases head with
    | none => simp [scan] at scanned
    | some c =>
      have number : ∀ {negative : Bool} {input : Input}, input.length ≤ (some c :: rest).length →
          (scanNumber negative input).map (fun q => (Token.number q.1, q.2)) = some r →
            r.2.length < (some c :: rest).length := by
        intro negative input short mapped
        obtain ⟨q, inner, rfl⟩ := Option.map_eq_some_iff.1 mapped
        have := scanNumber_length inner
        simp only at *
        omega
      simp only [scan] at scanned
      split at scanned
      · simp only [Option.some.injEq] at scanned
        subst scanned
        simp
      · obtain ⟨q, inner, rfl⟩ := Option.map_eq_some_iff.1 scanned
        have := skipText?_length inner
        simp only [List.length_cons]
        omega
      · split at scanned
        · obtain ⟨q, inner, rfl⟩ := Option.map_eq_some_iff.1 scanned
          have := scanString_shorter inner
          simp only [List.length_cons]
          omega
        · split at scanned
          · exact number (by simp) scanned
          · exact number (Nat.le_refl _) scanned

/-- The tokens of an input; the first thing that begins no token ends them. -/
def ofInput : Input → List Token
  | [] => []
  | cs@(head :: rest) =>
    if startsWithSpace cs then ofInput rest
    else
      match _scanned : scan (head :: rest) with
      | none => [.stray]
      | some (t, after) => t :: ofInput after
termination_by cs => cs.length
decreasing_by
  · simp
  · exact scan_length _scanned

end Token

end CloudKeeper.Json
