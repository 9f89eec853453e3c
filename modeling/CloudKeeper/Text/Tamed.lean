import CloudKeeper.Text.Quoted
/-!
Text for a terminal: the control characters that a terminal takes for commands are written out, so no
text from elsewhere commands it. Tabs and line breaks stay.
-/
namespace CloudKeeper.Text

/-- Whether a character is one of the older controls by which a terminal is commanded. -/
def isCommand (c : Char) : Bool :=
  c == '\x07' || c == '\x08' || c == '\x0c' || c == '\x1b' || c == '\x7f'

/-- A character on a terminal: a command as two digits behind a mark, a control character of the upper
half as a number in braces, and any other one as it is. -/
def tame (c : Char) : List Char :=
  if isCommand c then ['\\', 'x'] ++ (if c.toNat < 16 then ['0'] else []) ++ hexText c.toNat
  else if 0x80 ≤ c.toNat ∧ c.toNat ≤ 0x9F then ['\\', 'u', '\x7b'] ++ hexText c.toNat ++ ['\x7d']
  else [c]

/-- A text on a terminal. -/
def tamed (s : String) : String :=
  String.ofList (s.toList.flatMap tame)

end CloudKeeper.Text
