import CloudKeeper.Json.Token
import CloudKeeper.Json.Value
import CloudKeeper.Text.Utf8
/-!
A JSON text as far as it can be read. Reading never fails: where the text goes wrong the tree ends in
a mark, and what stands before the mark is kept. So a decoder that walks the tree from the front finds
the first fault of the text, be it one of form or one of meaning.
-/
namespace CloudKeeper.Json

/-- How the contents of an array or object end. -/
inductive Ending
  | closed
  /-- The text goes wrong or stops. -/
  | broken
  deriving DecidableEq, Repr

/-- A JSON text as far as it can be read. -/
inductive Document
  | null
  | bool (b : Bool)
  /-- A number, or `none` where it is out of range. -/
  | number (n : Option Number)
  /-- A string, or `none` where its contents are no text. -/
  | string (s : Option String)
  | array (items : List Document) (ending : Ending)
  | object (members : List (Option String × Document)) (ending : Ending)
  /-- No value can be read here. -/
  | broken
  deriving Repr, Inhabited

/-- An array or object that is open, with what it holds so far in reverse. -/
inductive Frame
  | array (items : List Document)
  | object (members : List (Option String × Document)) (name : Option String)
  deriving Repr

/-- Where a reader of tokens stands, inside the open frames. -/
inductive Reader
  /-- A value must come. -/
  | value (outer : List Frame)
  /-- An array has been opened: an item or its end must come. -/
  | firstItem (outer : List Frame)
  /-- An item has been read: a comma or the array's end must come. -/
  | afterItem (items : List Document) (outer : List Frame)
  /-- A member's name must come, or the object's end if it has just been opened. -/
  | memberName (opened : Bool) (members : List (Option String × Document)) (outer : List Frame)
  /-- A name has been read: its colon must come. -/
  | colon (members : List (Option String × Document)) (name : Option String) (outer : List Frame)
  /-- A member has been read: a comma or the object's end must come. -/
  | afterMember (members : List (Option String × Document)) (outer : List Frame)
  /-- The value has been read in full. -/
  | complete (document : Document)
  /-- Something is wrong, in the value or after it. -/
  | stopped (document : Document)
  deriving Repr

namespace Reader

/-- Puts a value that has been read in full into the innermost frame. -/
def deliver (d : Document) : List Frame → Reader
  | [] => .complete d
  | .array items :: outer => .afterItem (d :: items) outer
  | .object members name :: outer => .afterMember ((name, d) :: members) outer

/-- The tree when reading stops inside a value `d`: every open frame is left broken. -/
def abandon (d : Document) : List Frame → Document
  | [] => d
  | .array items :: outer => abandon (.array (d :: items).reverse .broken) outer
  | .object members name :: outer => abandon (.object ((name, d) :: members).reverse .broken) outer

/-- The reader after a token where a value must come. -/
def readValue (outer : List Frame) : Token → Reader
  | .null => deliver .null outer
  | .bool b => deliver (.bool b) outer
  | .number n => deliver (.number n.value?) outer
  | .string s => deliver (.string s) outer
  | .openArray => .firstItem outer
  | .openObject => .memberName true [] outer
  | _ => .stopped (abandon .broken outer)

/-- The tree when no more tokens come, or none that fit. -/
def result : Reader → Document
  | .value outer => abandon .broken outer
  | .firstItem outer => abandon (.array [] .broken) outer
  | .afterItem items outer => abandon (.array items.reverse .broken) outer
  | .memberName _ members outer => abandon (.object members.reverse .broken) outer
  | .colon members name outer =>
    abandon (.object ((name, .broken) :: members).reverse .broken) outer
  | .afterMember members outer => abandon (.object members.reverse .broken) outer
  | .complete d => d
  | .stopped d => d

/-- One token. -/
def step : Reader → Token → Reader
  | .value outer, t => readValue outer t
  | .firstItem outer, .closeArray => deliver (.array [] .closed) outer
  | .firstItem outer, t => readValue (.array [] :: outer) t
  | .afterItem items outer, .comma => .value (.array items :: outer)
  | .afterItem items outer, .closeArray => deliver (.array items.reverse .closed) outer
  | .memberName true members outer, .closeObject => deliver (.object members.reverse .closed) outer
  | .memberName _ members outer, .string s => .colon members s outer
  | .colon members name outer, .colon => .value (.object members name :: outer)
  | .afterMember members outer, .comma => .memberName false members outer
  | .afterMember members outer, .closeObject => deliver (.object members.reverse .closed) outer
  | r, _ => .stopped r.result

/-- Whether exactly one value has been read. -/
def isComplete : Reader → Bool
  | .complete _ => true
  | _ => false

end Reader

/-- A text that has been read: its tree, and whether nothing but blanks follows the value. -/
structure Text where
  root : Document
  clean : Bool
  deriving Repr

namespace Text

/-- Reads tokens. -/
def ofTokens (tokens : List Token) : Text :=
  let reader := tokens.foldl Reader.step (.value [])
  ⟨reader.result, reader.isComplete⟩

/-- Reads the octets of a text. -/
def ofOctets (octets : List UInt8) : Text :=
  ofTokens (Token.ofInput (Text.Utf8.decode octets))

end Text

namespace Document

mutual

/-- Whether the tree is that of a whole value. Neither ranges of numbers nor contents of strings
matter for this. -/
def isWhole : Document → Bool
  | .array items ending => ending == .closed && areWhole items
  | .object members ending => ending == .closed && membersAreWhole members
  | .broken => false
  | _ => true

/-- Whether all items are whole values. -/
def areWhole : List Document → Bool
  | [] => true
  | d :: rest => d.isWhole && areWhole rest

/-- Whether all members are whole values. -/
def membersAreWhole : List (Option String × Document) → Bool
  | [] => true
  | (_, d) :: rest => d.isWhole && membersAreWhole rest

end

mutual

/-- The tree of a value. -/
def ofValue : Value → Document
  | .null => .null
  | .bool b => .bool b
  | .number n => .number (some n)
  | .string s => .string (some s)
  | .array items => .array (ofItems items) .closed
  | .object members => .object (ofMembers members) .closed

/-- The trees of a list of items. -/
def ofItems : List Value → List Document
  | [] => []
  | v :: rest => ofValue v :: ofItems rest

/-- The trees of a list of members. -/
def ofMembers : List (String × Value) → List (Option String × Document)
  | [] => []
  | (name, v) :: rest => (some name, ofValue v) :: ofMembers rest

end

end Document

end CloudKeeper.Json
