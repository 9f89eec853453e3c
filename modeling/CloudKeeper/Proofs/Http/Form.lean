import CloudKeeper.Http.Form
import CloudKeeper.Proofs.Http.Escape
/-!
How a service reads a form-encoded query. Parameters are parted by ampersands and a name from its value by the
first equals sign; then plus signs and percent signs are taken back. Whatever texts are encoded as a parameter are
read again, and no other parameter comes with them.
-/
namespace CloudKeeper.Http

namespace Form

/-- The octets that an encoded text stands for. -/
def octets : List Char → List UInt8
  | [] => []
  | '+' :: rest => 0x20 :: octets rest
  | '%' :: a :: b :: rest =>
    match Json.hexValue? a, Json.hexValue? b with
    | some high, some low => UInt8.ofNat (high * 16 + low) :: octets rest
    | _, _ => 0x25 :: octets (a :: b :: rest)
  | c :: rest => String.utf8EncodeChar c ++ octets rest

/-- The text that is encoded. -/
def decode (cs : List Char) : String := Text.Utf8.lossy (octets cs)

/-- Whether a character parts the parameters of a query. -/
def isAmpersand (c : Char) : Bool := c == '&'

/-- The parameters of a query, each with its name and its value. -/
def parameters (query : List Char) : List (String × String) :=
  ((Text.pieces isAmpersand query).filter (!·.isEmpty)).map fun piece =>
    let (name, value) := splitAt? '=' piece
    (decode name, decode (value.getD []))

private theorem plain_octet : ∀ n < 256, isPlain (UInt8.ofNat n) = true →
    Char.ofNat n ≠ '+' ∧ Char.ofNat n ≠ '%' ∧ String.utf8EncodeChar (Char.ofNat n) = [UInt8.ofNat n] := by
  decide +kernel

/-- An encoded octet is read again. -/
private theorem octets_encodeOctet (b : UInt8) (rest : List Char) :
    octets (encodeOctet b ++ rest) = b :: octets rest := by
  have small : b.toNat < 256 := b.toNat_lt
  unfold encodeOctet
  split
  case isTrue blank =>
    rw [blank]
    rfl
  case isFalse =>
    split
    case isTrue plain =>
      obtain ⟨plus, sign, octet⟩ := plain_octet b.toNat small (by rwa [UInt8.ofNat_toNat])
      rw [UInt8.ofNat_toNat] at octet
      rw [List.singleton_append, octets, octet, List.singleton_append]
      · exact plus
      · exact fun _ _ _ own _ => sign own
    case isFalse =>
      obtain ⟨first, second, high, low, written, one, two, whole⟩ := percent_digits b
      simp only [written, List.cons_append, List.nil_append, octets, one, two, whole]

/-- An encoded text is read again. -/
theorem decode_encode (s : String) : decode (encode s) = s := by
  have read : ∀ bs : List UInt8, octets (bs.flatMap encodeOctet) = bs := by
    intro bs
    induction bs with
    | nil => rfl
    | cons b rest ih => rw [List.flatMap_cons, octets_encodeOctet, ih]
  rw [decode, encode, read, Text.Utf8.lossy, Text.Utf8.ofString, Text.Utf8.decode_encode, List.map_map]
  simp [Function.comp_def]

/-- Neither of the marks of a query stands in an encoded text. -/
theorem encode_unmarked (s : String) : '&' ∉ encode s ∧ '=' ∉ encode s := by
  have octet : ∀ n < 256, '&' ∉ encodeOctet (UInt8.ofNat n) ∧ '=' ∉ encodeOctet (UInt8.ofNat n) := by
    decide +kernel
  have each (b : UInt8) : '&' ∉ encodeOctet b ∧ '=' ∉ encodeOctet b := by
    have own := octet b.toNat b.toNat_lt
    rwa [UInt8.ofNat_toNat] at own
  simp only [encode, List.mem_flatMap, not_exists, not_and]
  exact ⟨fun b _ => (each b).1, fun b _ => (each b).2⟩

/-- A parameter is read alone. -/
private theorem parameters_single (name value : String) :
    parameters (parameter name value) = [(name, value)] := by
  have one : ∀ c ∈ parameter name value, isAmpersand c = false := by
    intro c member
    refine beq_false_of_ne ?_
    rintro rfl
    rcases List.mem_append.1 member with first | ⟨⟩ | ⟨_, second⟩
    · exact (encode_unmarked name).1 first
    · exact (encode_unmarked value).1 second
  have filled : (parameter name value).isEmpty = false := by simp [parameter]
  have halves : splitAt? '=' (parameter name value) = (encode name, some (encode value)) :=
    splitAt?_of_marked (encode_unmarked name).2 _
  simp [parameters, Text.pieces_of_unmarked one, filled, halves, decode_encode]

/-- A parameter that is put behind a query is read behind those of the query. -/
private theorem parameters_append (query : List Char) (name value : String) :
    parameters (query ++ '&' :: parameter name value) = parameters query ++ [(name, value)] := by
  have marks : isAmpersand '&' = true := rfl
  have parted := Text.pieces_append_mark marks query (parameter name value)
  have last := parameters_single name value
  simp only [parameters] at last ⊢
  rw [parted, List.filter_append, List.map_append, last]

end Form

/-- The parameters of a URL. -/
def Url.parameters (u : Url) : List (String × String) := (u.parts.query.map Form.parameters).getD []

/-- A parameter that is added to a URL is read behind those that it has. -/
theorem Parts.addParameter_read (p : Parts) (name value : String) :
    ((p.addParameter (Form.parameter name value)).query.map Form.parameters).getD [] =
      (p.query.map Form.parameters).getD [] ++ [(name, value)] := by
  obtain ⟨path, query, fragment⟩ := p
  match query with
  | none => exact Form.parameters_single name value
  | some [] => exact Form.parameters_single name value
  | some (c :: rest) => exact Form.parameters_append (c :: rest) name value

end CloudKeeper.Http
