import SoloMining.Json.Printer
import SoloMining.Text.Printable
import SoloMining.Text.Radix

/-! Flat records as YAML text, one member on a line. A text that might be read as something else is
quoted. -/
namespace SoloMining.Yaml

def reservedWords : List String :=
  ["true", "false", "yes", "no", "on", "off", "y", "n", "null"]

def isPlainChar (c : Char) : Bool := c.isAlphanum || "._/-".contains c

/-- Texts that need no quotes: they begin with a letter or a slash, or have too many dots to be a
number. -/
def isPlainText (s : String) : Bool :=
  let cs := s.toList
  cs.all isPlainChar && !reservedWords.contains s.toLower
    && (cs.head?.any fun c => c.isAlpha || c == '/' || (c.isDigit && 1 < cs.count '.'))

def quoteChar (c : Char) : List Char := if c == '\'' then [c, c] else [c]

def escapeChar (c : Char) : List Char :=
  if c == '"' || c == '\\' then ['\\', c]
  else if c == '\n' then ['\\', 'n']
  else if Text.isPrintable c then [c]
  else ['\\', 'U'] ++ (Text.paddedHex 8 c.toNat).toList

/-- In single quotes where that is possible, else in double quotes; also where a plain text or a block
would do. -/
def writeText (s : String) : String :=
  if isPlainText s then s
  else if s.toList.all Text.isPrintable then
    String.ofList ('\'' :: s.toList.flatMap quoteChar ++ ['\''])
  else String.ofList ('"' :: s.toList.flatMap escapeChar ++ ['"'])

def writeScalar : Json → String
  | .string s => writeText s
  | other => other.render

def writeRecord (members : List (String × Json)) : String :=
  String.join (members.map fun (name, value) => name ++ ": " ++ writeScalar value ++ "\n")

end SoloMining.Yaml
