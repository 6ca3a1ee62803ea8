import SoloMining.Text.Printable

/-! Quoted text for messages: quotes and backslashes are escaped, and every character that cannot
be shown is written by name or by its code point. -/
namespace SoloMining.Text

def hexDigits (n : Nat) : List Char := Nat.toDigits 16 n

/-- `quote` is the delimiter, the only quote that needs an escape. -/
def escapeChar (quote c : Char) : List Char :=
  if c = quote then ['\\', c]
  else if c = '\\' then ['\\', '\\']
  else if c = '\n' then ['\\', 'n']
  else if c = '\t' then ['\\', 't']
  else if c = '\r' then ['\\', 'r']
  else if c.toNat = 0 then ['\\', '0']
  else if isPrintable c then [c]
  else ['\\', 'u', '\x7b'] ++ hexDigits c.toNat ++ ['\x7d']

def quoted (s : String) : String :=
  String.ofList ('"' :: s.toList.flatMap (escapeChar '"') ++ ['"'])

def quotedChar (c : Char) : String :=
  String.ofList ('\'' :: escapeChar '\'' c ++ ['\''])

end SoloMining.Text
