import Narration.Text.Printable
/-! The quoted form in which a name is shown inside a marker. -/
namespace Narration.Text

/-- Lower-case hexadecimal digits of a code point, without leading zeros. -/
def hexDigits (code : Nat) : List Char := Nat.toDigits 16 code

def quotedChar (c : Char) : List Char :=
  if c = '\x00' then ['\\', '0']
  else if c = '\t' then ['\\', 't']
  else if c = '\r' then ['\\', 'r']
  else if c = '\n' then ['\\', 'n']
  else if c = '\\' || c = '"' then ['\\', c]
  else if isPrintable c then [c]
  else ['\\', 'u', '\x7b'] ++ hexDigits c.toNat ++ ['\x7d']

def quoted (s : String) : String :=
  String.ofList ('"' :: s.toList.flatMap quotedChar ++ ['"'])

end Narration.Text
