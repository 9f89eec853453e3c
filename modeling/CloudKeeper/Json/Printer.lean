import CloudKeeper.Json.Value
/-!
The two written forms of a JSON value: compact, and indented by two spaces with one item or member a
line. Only the quote, the backslash and the control characters below U+0020 are escaped.
-/
namespace CloudKeeper.Json

/-- The character of a hexadecimal digit, in lower case. -/
def hexDigit (n : Nat) : Char :=
  if n < 10 then Char.ofNat (48 + n) else Char.ofNat (87 + n)

/-- A character inside a written string. -/
def escape (c : Char) : List Char :=
  if c = '"' then ['\\', '"']
  else if c = '\\' then ['\\', '\\']
  else if c.toNat = 0x08 then ['\\', 'b']
  else if c.toNat = 0x09 then ['\\', 't']
  else if c.toNat = 0x0A then ['\\', 'n']
  else if c.toNat = 0x0C then ['\\', 'f']
  else if c.toNat = 0x0D then ['\\', 'r']
  else if c.toNat < 0x20 then
    ['\\', 'u', '0', '0', hexDigit (c.toNat / 16), hexDigit (c.toNat % 16)]
  else [c]

/-- A written string. -/
def quoted (s : String) : List Char :=
  '"' :: s.toList.flatMap escape ++ ['"']

namespace Value

/-- The written form of a value that holds no other values. -/
def scalarText : Value → List Char
  | .null => ['n', 'u', 'l', 'l']
  | .bool true => ['t', 'r', 'u', 'e']
  | .bool false => ['f', 'a', 'l', 's', 'e']
  | .number n => n.text
  | .string s => quoted s
  | .array _ => ['[', ']']
  | .object _ => ['\x7b', '\x7d']

mutual

/-- The compact form. -/
def compact : Value → List Char
  | .array items => '[' :: compactItems items
  | .object members => '\x7b' :: compactMembers members
  | v => v.scalarText

/-- Items after an opening bracket, with the closing one. -/
def compactItems : List Value → List Char
  | [] => [']']
  | [v] => v.compact ++ [']']
  | v :: rest => v.compact ++ ',' :: compactItems rest

/-- Members after an opening brace, with the closing one. -/
def compactMembers : List (String × Value) → List Char
  | [] => ['\x7d']
  | [(name, v)] => quoted name ++ ':' :: v.compact ++ ['\x7d']
  | (name, v) :: rest => quoted name ++ ':' :: v.compact ++ ',' :: compactMembers rest

end

/-- A line break and the indentation of a depth. -/
def newLine (depth : Nat) : List Char :=
  '\n' :: List.replicate (2 * depth) ' '

mutual

/-- The indented form of a value that stands at a depth. -/
def prettyAt (depth : Nat) : Value → List Char
  | .array [] => ['[', ']']
  | .array (v :: rest) => '[' :: prettyItems depth (v :: rest)
  | .object [] => ['\x7b', '\x7d']
  | .object (m :: rest) => '\x7b' :: prettyMembers depth (m :: rest)
  | v => v.scalarText

/-- The items of an array that stands at a depth, with the closing bracket. -/
def prettyItems (depth : Nat) : List Value → List Char
  | [] => newLine depth ++ [']']
  | [v] => newLine (depth + 1) ++ v.prettyAt (depth + 1) ++ newLine depth ++ [']']
  | v :: rest => newLine (depth + 1) ++ v.prettyAt (depth + 1) ++ ',' :: prettyItems depth rest

/-- The members of an object that stands at a depth, with the closing brace. -/
def prettyMembers (depth : Nat) : List (String × Value) → List Char
  | [] => newLine depth ++ ['\x7d']
  | [(name, v)] =>
    newLine (depth + 1) ++ quoted name ++ ':' :: ' ' :: v.prettyAt (depth + 1) ++ newLine depth
      ++ ['\x7d']
  | (name, v) :: rest =>
    newLine (depth + 1) ++ quoted name ++ ':' :: ' ' :: v.prettyAt (depth + 1)
      ++ ',' :: prettyMembers depth rest

end

/-- The compact form as a string. -/
def toText (v : Value) : String :=
  String.ofList v.compact

/-- The indented form as a string. -/
def toPrettyText (v : Value) : String :=
  String.ofList (v.prettyAt 0)

end Value

end CloudKeeper.Json
