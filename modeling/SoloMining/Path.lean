import SoloMining.Text.Split

/-! File paths: names between slashes. -/
namespace SoloMining.Path

/-- Only a path that starts at the current place keeps its first dot. -/
def isIdle (first : Bool) (name : List Char) : Bool := name.isEmpty || (name == ['.'] && !first)

def components (path : String) : List (List Char) :=
  match Text.splitAll '/' path.toList with
  | [] => []
  | first :: rest =>
    let tail := rest.filter (!isIdle false ·)
    if isIdle true first then tail else first :: tail

def fileName? (path : String) : Option (List Char) :=
  match (components path).getLast? with
  | none => none
  | some name => if name == ['.'] || name == ['.', '.'] then none else some name

def extension? (path : String) : Option (List Char) := do
  let name ← fileName? path
  let (before, after) ← Text.splitLast '.' name
  if before.isEmpty then none else some after

end SoloMining.Path
