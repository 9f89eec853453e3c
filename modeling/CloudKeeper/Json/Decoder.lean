import CloudKeeper.Json.Document
import CloudKeeper.SortedMap
/-!
Decoding JSON into typed values. A decoder walks a document from the front and stops at the first
fault. Members that a record does not know are skipped as long as they are whole values. A record may
also be written as an array of its fields in declaration order.
-/
namespace CloudKeeper.Json

/-- Why a document does not decode. -/
inductive DecodeError
  | missingField (name : String)
  | duplicateField (name : String)
  | unknownVariant (name : String)
  | invalidType
  | invalidValue
  | invalidLength
  | malformed
  deriving DecidableEq, Repr

/-- The text of a fault, shortened to what decides it: which field or variant it is about, or its kind. What the
text of a decoder says beyond that is left out: the type, value or length it has found and the one it wanted, the
variants it knows, and the line and column. The faults of the notation itself, which each have a text of their own,
are all told as one. -/
def DecodeError.message : DecodeError → String
  | .missingField name => "missing field `" ++ name ++ "`"
  | .duplicateField name => "duplicate field `" ++ name ++ "`"
  | .unknownVariant name => "unknown variant `" ++ name ++ "`"
  | .invalidType => "invalid type"
  | .invalidValue => "invalid value"
  | .invalidLength => "invalid length"
  | .malformed => "json syntax"

/-- Where a document comes from: a text, with the number of arrays and objects that may still be
entered, or a value that is at hand in full. -/
inductive Source
  | text (room : Nat)
  | value
  deriving DecidableEq, Repr

/-- A way to decode documents. -/
abbrev Decoder (α : Type) := Source → Document → Except DecodeError α

/-- The source inside an array or object; a text may nest only so deep. -/
def Source.enter : Source → Except DecodeError Source
  | .text 0 => .error .malformed
  | .text (room + 1) => .ok (.text room)
  | .value => .ok .value

/-- The fault of a document that is not of the type wanted. -/
def Document.mismatch : Document → DecodeError
  | .broken | .number none | .string none => .malformed
  | _ => .invalidType

/-- Succeeds where the contents of an array or object are closed. -/
def Ending.close : Ending → Except DecodeError Unit
  | .closed => .ok ()
  | _ => .error .malformed

namespace Decoder

/-- A string. -/
def string : Decoder String
  | _, .string (some s) => .ok s
  | _, d => .error d.mismatch

/-- A string that is written in a notation of its own. -/
def notation? {α : Type} (read? : String → Option α) : Decoder α := fun source d =>
  match string source d with
  | .error e => .error e
  | .ok s =>
    match read? s with
    | some a => .ok a
    | none => .error .malformed

/-- A truth value. -/
def bool : Decoder Bool
  | _, .bool b => .ok b
  | _, d => .error d.mismatch

/-- An integer within bounds. A number with a fraction or an exponent is of another type. -/
def int (low high : Int) : Decoder Int
  | _, .number (some (.int i)) => if low ≤ i ∧ i ≤ high then .ok i else .error .invalidValue
  | _, d => .error d.mismatch

/-- An unsigned 64-bit integer. -/
def uint64 : Decoder UInt64 := fun source d =>
  (int 0 (UInt64.size - 1 : Nat) source d).map fun i => i.toNat.toUInt64

/-- A signed 64-bit integer. -/
def int64 : Decoder Int64 := fun source d =>
  (int Int64.minValue.toInt Int64.maxValue.toInt source d).map Int64.ofInt

/-- A value or null. -/
def optional {α : Type} (item : Decoder α) : Decoder (Option α)
  | _, .null => .ok none
  | source, d => (item source d).map some

/-- Decodes items in order. -/
def items {α : Type} (item : Decoder α) (source : Source) : List Document → Except DecodeError (List α)
  | [] => .ok []
  | d :: rest => do
    let a ← item source d
    return a :: (← items item source rest)

/-- An array. -/
def list {α : Type} (item : Decoder α) : Decoder (List α)
  | source, .array ds ending => do
    let decoded ← items item (← source.enter) ds
    ending.close
    return decoded
  | _, d => .error d.mismatch

/-- Decodes members in order. -/
def members {α : Type} (item : Decoder α) (source : Source) :
    List (Option String × Document) → Except DecodeError (List (String × α))
  | [] => .ok []
  | (none, _) :: _ => .error .malformed
  | (some name, d) :: rest => do
    let a ← item source d
    return (name, a) :: (← members item source rest)

/-- An object with any members, all of one type; the last member of a name wins. -/
def map {α : Type} (item : Decoder α) : Decoder (SortedMap String α)
  | source, .object ms ending => do
    let decoded ← members item (← source.enter) ms
    ending.close
    return SortedMap.ofList decoded
  | _, d => .error d.mismatch

mutual

/-- Any value. Members are sorted by name, and the last member of a name wins. -/
def any : Decoder Value
  | _, .null => .ok .null
  | _, .bool b => .ok (.bool b)
  | _, .number (some n) => .ok (.number n)
  | _, .string (some s) => .ok (.string s)
  | source, .array ds ending => do
    let inner ← source.enter
    let decoded ← anyItems inner ds
    ending.close
    return .array decoded
  | source, .object ms ending => do
    let inner ← source.enter
    let decoded ← anyMembers inner ms
    ending.close
    return .object (Value.sortMembers decoded)
  | _, _ => .error .malformed

/-- Any values, in order. -/
def anyItems (source : Source) : List Document → Except DecodeError (List Value)
  | [] => .ok []
  | d :: rest => do
    let v ← any source d
    let vs ← anyItems source rest
    return v :: vs

/-- Members with any values, in order. -/
def anyMembers (source : Source) :
    List (Option String × Document) → Except DecodeError (List (String × Value))
  | [] => .ok []
  | (none, _) :: _ => .error .malformed
  | (some name, d) :: rest => do
    let v ← any source d
    let vs ← anyMembers source rest
    return (name, v) :: vs

end

/-- One of a list of named variants. -/
def variant {α : Type} (variants : List (String × α)) (name : String) : Except DecodeError α :=
  match variants.lookup name with
  | some a => .ok a
  | none => .error (.unknownVariant name)

/-- The null that stands for the contents of a variant. -/
def empty : Decoder Unit
  | _, .null => .ok ()
  | _, d => .error d.mismatch

/-- One of a list of named variants, as its name or as an object with the name as its one member and
null as its value. -/
def enumeration {α : Type} (variants : List (String × α)) : Decoder α
  | _, .string (some s) => variant variants s
  | .text room, .object ms ending => do
    let inner ← (Source.text room).enter
    match ms with
    | (some name, d) :: rest => do
      let a ← variant variants name
      empty inner d
      match rest with
      | [] => ending.close
      | _ => .error .malformed
      return a
    | _ => .error .malformed
  | .text _, _ => .error .malformed
  | .value, .object [(some name, d)] _ => do
    let a ← variant variants name
    empty .value d
    return a
  | .value, .object _ _ => .error .invalidValue
  | .value, d => .error d.mismatch

end Decoder

/-- How a record is read. `known` tells how the value of each member is checked while the members are
walked, `ofMembers` builds the record from members that have passed, and `ofItems` builds it from the
items of an array and returns those left over. -/
structure Record (α : Type) where
  known : List (String × Decoder Unit)
  ofMembers : Source → List (Option String × Document) → Except DecodeError α
  ofItems : Source → Ending → List Document → Except DecodeError (α × List Document)

namespace Record

/-- The record without fields. -/
def make {α : Type} (a : α) : Record α where
  known := []
  ofMembers := fun _ _ => .ok a
  ofItems := fun _ _ ds => .ok (a, ds)

/-- A field more. Where `absent` is given it is the value of a field that is not there. -/
def field {α β : Type} (r : Record (α → β)) (name : String) (value : Decoder α)
    (absent : Option α := none) : Record β where
  known := r.known ++ [(name, fun source d => (value source d).map fun _ => ())]
  ofMembers := fun source ms => do
    let f ← r.ofMembers source ms
    match ms.lookup (some name), absent with
    | some d, _ => return f (← value source d)
    | none, some a => return f a
    | none, none => .error (.missingField name)
  ofItems := fun source ending ds => do
    let (f, rest) ← r.ofItems source ending ds
    match rest, ending, absent with
    | d :: rest, _, _ => return (f (← value source d), rest)
    | [], .closed, some a => return (f a, [])
    | [], .closed, none => .error .invalidLength
    | [], _, _ => .error .malformed

/-- Walks the members from the front: a known one must be new and its value must decode, any other
must be a whole value. -/
def check (known : List (String × Decoder Unit)) (source : Source) (seen : List String) :
    List (Option String × Document) → Except DecodeError Unit
  | [] => .ok ()
  | (none, _) :: _ => .error .malformed
  | (some name, d) :: rest =>
    match known.lookup name with
    | none => if d.isWhole then check known source seen rest else .error .malformed
    | some value =>
      if name ∈ seen then .error (.duplicateField name)
      else do
        value source d
        check known source (name :: seen) rest

/-- Decodes a record from an object, or from an array of its fields in order. -/
def decoder {α : Type} (r : Record α) : Decoder α
  | source, .object ms ending => do
    let inner ← source.enter
    check r.known inner [] ms
    ending.close
    r.ofMembers inner ms
  | source, .array ds ending => do
    let inner ← source.enter
    let (a, rest) ← r.ofItems inner ending ds
    match rest, source with
    | [], _ => ending.close
    | _, .text _ => .error .malformed
    | _, .value => .error .invalidLength
    return a
  | _, d => .error d.mismatch

end Record

/-- The levels of arrays and objects that a text may nest. -/
def depthLimit : Nat := 127

/-- Decodes a text of which nothing but blanks may be left over. -/
def decodeText {α : Type} (decoder : Decoder α) (text : Text) : Except DecodeError α := do
  let a ← decoder (.text depthLimit) text.root
  if text.clean then return a else .error .malformed

/-- Decodes the octets of a text. -/
def decodeOctets {α : Type} (decoder : Decoder α) (octets : List UInt8) : Except DecodeError α :=
  decodeText decoder (.ofOctets octets)

/-- Decodes a value. -/
def decodeValue {α : Type} (decoder : Decoder α) (v : Value) : Except DecodeError α :=
  decoder .value (.ofValue v)

end CloudKeeper.Json
