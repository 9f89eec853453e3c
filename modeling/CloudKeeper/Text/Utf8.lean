/-!
UTF-8 between characters and octets. Reading never fails: an octet sequence becomes a list in which
`none` stands for one maximal ill-formed part, so a strict reader looks for `none` and a lenient one
shows U+FFFD in its place.
-/
namespace CloudKeeper.Text.Utf8

/-- A character that has begun: how many continuation octets it is owed, the bounds of the next one,
and the bits read so far. -/
structure Pending where
  owed : Nat
  low : UInt8
  high : UInt8
  bits : Nat
  deriving DecidableEq, Repr

/-- What the first octet of a character says. -/
inductive Lead
  | whole (c : Char)
  | begins (pending : Pending)
  | stray
  deriving DecidableEq, Repr

/-- The reading of an octet that stands between characters. -/
def lead (b : UInt8) : Lead :=
  if b < 0x80 then .whole (Char.ofNat b.toNat)
  else if b < 0xC2 then .stray
  else if b < 0xE0 then .begins ⟨1, 0x80, 0xBF, b.toNat - 0xC0⟩
  else if b = 0xE0 then .begins ⟨2, 0xA0, 0xBF, 0⟩
  else if b = 0xED then .begins ⟨2, 0x80, 0x9F, 0xD⟩
  else if b < 0xF0 then .begins ⟨2, 0x80, 0xBF, b.toNat - 0xE0⟩
  else if b = 0xF0 then .begins ⟨3, 0x90, 0xBF, 0⟩
  else if b < 0xF4 then .begins ⟨3, 0x80, 0xBF, b.toNat - 0xF0⟩
  else if b = 0xF4 then .begins ⟨3, 0x80, 0x8F, 4⟩
  else .stray

/-- Whether the octet continues the character that has begun. -/
def Pending.admits (p : Pending) (b : UInt8) : Bool :=
  p.low ≤ b && b ≤ p.high

/-- The bits of a character after one more continuation octet. -/
def Pending.extend (p : Pending) (b : UInt8) : Nat :=
  p.bits * 64 + b.toNat % 64

/-- Reads octets, the first ones possibly in the middle of a character. An octet that does not
continue the character ends it as an ill-formed part and is read afresh. -/
def decodeFrom : Option Pending → List UInt8 → List (Option Char)
  | none, [] => []
  | some _, [] => [none]
  | none, b :: rest =>
    match lead b with
    | .whole c => some c :: decodeFrom none rest
    | .begins p => decodeFrom (some p) rest
    | .stray => none :: decodeFrom none rest
  | some p, b :: rest =>
    if p.admits b then
      if p.owed ≤ 1 then some (Char.ofNat (p.extend b)) :: decodeFrom none rest
      else decodeFrom (some ⟨p.owed - 1, 0x80, 0xBF, p.extend b⟩) rest
    else
      match lead b with
      | .whole c => none :: some c :: decodeFrom none rest
      | .begins q => none :: decodeFrom (some q) rest
      | .stray => none :: none :: decodeFrom none rest

/-- The characters of an octet sequence, with `none` for each maximal ill-formed part. -/
def decode (octets : List UInt8) : List (Option Char) :=
  decodeFrom none octets

/-- The octets of a text. -/
def encode (chars : List Char) : List UInt8 :=
  chars.flatMap String.utf8EncodeChar

/-- A text read leniently, with the replacement character for each ill-formed part. -/
def lossy (octets : List UInt8) : String :=
  String.ofList ((decode octets).map (·.getD '\uFFFD'))

/-- The octets of a string. -/
def ofString (s : String) : List UInt8 :=
  encode s.toList

end CloudKeeper.Text.Utf8
