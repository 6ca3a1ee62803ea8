/-! JSON values. Integers are exact, other numbers are 64-bit floats, and the members of an object
are kept in ascending order of their keys. -/
namespace SoloMining

inductive Json.Number
  | integer (n : Int)
  | float (x : Float)

inductive Json
  | null
  | bool (b : Bool)
  | number (n : Json.Number)
  | string (s : String)
  | array (items : List Json)
  | object (members : List (String × Json))

namespace Json

instance : Inhabited Json := ⟨.null⟩

def insertMember (key : String) (value : Json) : List (String × Json) → List (String × Json)
  | [] => [(key, value)]
  | (k, v) :: rest =>
    if key < k then (key, value) :: (k, v) :: rest
    else if k = key then (key, value) :: rest
    else (k, v) :: insertMember key value rest

def ofMembers (members : List (String × Json)) : Json :=
  .object (members.foldl (fun sorted (k, v) => insertMember k v sorted) [])

def member? (key : String) : Json → Option Json
  | .object members => members.lookup key
  | _ => none

def ofNat (n : Nat) : Json := .number (.integer n)

def ofInt (n : Int) : Json := .number (.integer n)

def ofOption {α : Type} (encode : α → Json) : Option α → Json
  | none => .null
  | some a => encode a

def text? : Json → Option String
  | .string s => some s
  | _ => none

def int? : Json → Option Int
  | .number (.integer n) => some n
  | _ => none

def int64? (j : Json) : Option Int :=
  match j.int? with
  | some n => if Int64.minValue.toInt ≤ n ∧ n ≤ Int64.maxValue.toInt then some n else none
  | none => none

end Json

end SoloMining
