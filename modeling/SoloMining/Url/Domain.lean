import SoloMining.Hex
import SoloMining.Text.Printable
import SoloMining.Url.Punycode

/-! Domain names of web addresses: percent escapes are resolved, letters are made small, characters
that stand for others are replaced, and every label has to be fit for the name system. -/
namespace SoloMining.Url

def percentDecode : Bytes → Bytes
  | 0x25 :: a :: b :: rest =>
    match Hex.digitValue? a, Hex.digitValue? b with
    | some h, some l => UInt8.ofNat (16 * h + l) :: percentDecode rest
    | _, _ => 0x25 :: percentDecode (a :: b :: rest)
  | b :: rest => b :: percentDecode rest
  | [] => []

/-- Characters that leave no trace in a name. -/
def ignoredRanges : List (Nat × Nat) :=
  [(0xAD, 0xAD), (0x34F, 0x34F), (0x180B, 0x180D), (0x180F, 0x180F), (0x200B, 0x200B),
   (0x2060, 0x2060), (0x2064, 0x2064), (0xFE00, 0xFE0F), (0xFEFF, 0xFEFF), (0xE0100, 0xE01EF)]

def dots : List Nat := [0x3002, 0xFF0E, 0xFF61]

def mapChar (c : Char) : List Char :=
  let n := c.toNat
  if n < 0x80 then [c.toLower]
  else if Text.inRanges ignoredRanges n then []
  else if dots.contains n then ['.']
  else if 0xFF01 ≤ n && n ≤ 0xFF5E then [(Char.ofNat (n - 0xFEE0)).toLower]
  else [c]

def forbidden : List Char := ['%', '#', '/', ':', '<', '>', '?', '@', '[', '\\', ']', '^', '|']

/-- Specials that can be shown and yet are no part of names. -/
def specials : List (Nat × Nat) := [(0x2FF0, 0x2FFF), (0xFFFC, 0xFFFD)]

def isAllowed (c : Char) : Bool :=
  let n := c.toNat
  if n < 0x80 then 0x20 < n && n != 0x7F && !forbidden.contains c
  else !Text.inRanges Text.hiddenRanges n && !Text.inRanges specials n

def startsWell : List Char → Bool
  | [] => true
  | c :: _ => c.toNat < 0x80 || !Text.inRanges Text.combiningRanges c.toNat

def isFitText (label : List Char) : Bool := label.all isAllowed && startsWell label

/-- An encoded label has to stand for a text that needs the encoding and is in its final form. -/
def isFitEncoded (rest : List Char) : Bool :=
  match Punycode.decode rest with
  | some text =>
    text.any (fun c => 0x80 ≤ c.toNat) && isFitText text && text.flatMap mapChar == text
  | none => false

def isFitLabel : List Char → Bool
  | 'x' :: 'n' :: '-' :: '-' :: rest => rest.all isAllowed && isFitEncoded rest
  | label => isFitText label

def domain? (cs : List Char) : Option (List Char) := do
  let bytes := percentDecode (Hex.utf8 (String.ofList cs))
  let text ← String.fromUTF8? ⟨bytes.toArray⟩
  let name := text.toList.flatMap mapChar
  if (Text.splitAll '.' name).all isFitLabel then some name else none

end SoloMining.Url
