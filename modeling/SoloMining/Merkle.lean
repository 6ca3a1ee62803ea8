import SoloMining.Sha256

/-! The Merkle root of a list of hashes. Level by level, neighbours are hashed in pairs until one hash
is left; the last hash of an odd level is paired with itself. -/
namespace SoloMining.Merkle

def hashPair (left right : Bytes32) : Bytes32 := Sha256.double (left.bytes ++ right.bytes)

def evened (level : List Bytes32) : List Bytes32 :=
  if odd : level.length % 2 = 1 then level ++ [level.get ⟨level.length - 1, by omega⟩] else level

def hashPairs : List Bytes32 → List Bytes32
  | [] => []
  | [_] => []
  | left :: right :: rest => hashPair left right :: hashPairs rest

def parents (level : List Bytes32) : List Bytes32 := hashPairs (evened level)

theorem length_evened (level : List Bytes32) :
    (evened level).length = 2 * ((level.length + 1) / 2) := by
  unfold evened
  split
  · rw [List.length_append, List.length_singleton]; omega
  · omega

theorem length_hashPairs (level : List Bytes32) :
    (hashPairs level).length = level.length / 2 := by
  induction level using hashPairs.induct with
  | case1 => rfl
  | case2 => simp [hashPairs]
  | case3 left right rest ih => simp [hashPairs, ih]; omega

theorem length_parents (level : List Bytes32) :
    (parents level).length = (level.length + 1) / 2 := by
  rw [parents, length_hashPairs, length_evened]
  omega

def climb (level : List Bytes32) : List Bytes32 :=
  if 1 < level.length then climb (parents level) else level
termination_by level.length
decreasing_by
  rw [length_parents]
  omega

theorem climb_nonempty (level : List Bytes32) (filled : 0 < level.length) :
    0 < (climb level).length := by
  induction level using climb.induct with
  | case1 level more ih =>
    rw [climb, if_pos more]
    apply ih
    rw [length_parents]
    omega
  | case2 level few => rwa [climb, if_neg few]

def root (hashes : List Bytes32) : Option Bytes32 :=
  if filled : 0 < hashes.length then some ((climb hashes).get ⟨0, climb_nonempty hashes filled⟩)
  else none

end SoloMining.Merkle
