import CloudKeeper.Decimal.Digits
import CloudKeeper.Text.Printable
/-!
Text between quotes for people to read: quotes, backslashes and what cannot be seen are escaped.
-/
namespace CloudKeeper.Text

/-- The hexadecimal digits of a number in lower case, without leading zeros. -/
def hexText (n : Nat) : List Char :=
  let digit (d : Nat) : Char := if d < 10 then Char.ofNat (48 + d) else Char.ofNat (87 + d)
  if n < 16 then [digit n] else hexText (n / 16) ++ [digit (n % 16)]
termination_by n
decreasing_by omega

/-- A character between quotes. -/
def escapeQuoted (c : Char) : List Char :=
  if c = '"' then ['\\', '"']
  else if c = '\\' then ['\\', '\\']
  else if c = '\x00' then ['\\', '0']
  else if c = '\t' then ['\\', 't']
  else if c = '\n' then ['\\', 'n']
  else if c = '\r' then ['\\', 'r']
  else if isExtender c || !isPrintable c then ['\\', 'u', '\x7b'] ++ hexText c.toNat ++ ['\x7d']
  else [c]

/-- A text in quotes. -/
def quoted (s : String) : String :=
  String.ofList ('"' :: s.toList.flatMap escapeQuoted ++ ['"'])

end CloudKeeper.Text
