/-! Texts in parts. -/
namespace SoloMining.Text

def splitAll (separator : Char) : List Char → List (List Char)
  | [] => [[]]
  | c :: rest =>
    if c = separator then [] :: splitAll separator rest
    else
      match splitAll separator rest with
      | [] => [[c]]
      | part :: parts => (c :: part) :: parts

def splitLast (separator : Char) (cs : List Char) : Option (List Char × List Char) :=
  let back := cs.reverse
  if back.contains separator then
    some (((back.dropWhile (· != separator)).drop 1).reverse,
      (back.takeWhile (· != separator)).reverse)
  else none

end SoloMining.Text
