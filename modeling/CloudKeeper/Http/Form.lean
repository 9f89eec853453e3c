import CloudKeeper.Http.Url
/-!
Form encoding of query parameters: a blank becomes a plus sign; letters, digits and four marks stay;
every other octet is written with a percent sign.
-/
namespace CloudKeeper.Http.Form

/-- Whether an octet stands for itself. -/
def isPlain (b : UInt8) : Bool :=
  let c := Char.ofNat b.toNat
  c.isAlphanum || c == '*' || c == '-' || c == '.' || c == '_'

/-- One octet. -/
def encodeOctet (b : UInt8) : List Char :=
  if b = 0x20 then ['+']
  else if isPlain b then [Char.ofNat b.toNat]
  else percent b

/-- The encoded text. -/
def encode (s : String) : List Char :=
  (Text.Utf8.ofString s).flatMap encodeOctet

/-- A parameter, name and value. -/
def parameter (name value : String) : List Char :=
  encode name ++ '=' :: encode value

end CloudKeeper.Http.Form
