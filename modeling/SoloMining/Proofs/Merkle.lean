import SoloMining.Merkle
import SoloMining.Proofs.Bytes
import Mathlib.Data.List.Induction
import Mathlib.Data.Nat.Log

/-! Trees of hashes. The root that is climbed to is the root by levels, in which each hash is that of
two neighbours below it. Over a given number of leaves it stands for one list of them: two lists with
the same root have two different nodes at one place whose hashes are the same. -/
namespace SoloMining

namespace Sha256

def Collide (first second : Bytes) : Prop := first ≠ second ∧ double first = double second

theorem map_double_cases (first second : List Bytes)
    (same : first.map double = second.map double) : first = second ∨
      ∃ (place : Nat) (one other : Bytes), first[place]? = some one ∧
        second[place]? = some other ∧ Collide one other := by
  rw [or_iff_not_imp_left]
  intro different
  obtain ⟨place,apart⟩ := not_forall.mp (mt List.ext_getElem? different)
  have hashes : (first.map double)[place]? = (second.map double)[place]? := by rw [same]
  rw [List.getElem?_map,List.getElem?_map] at hashes
  -- A place that only one of the lists has would have a hash in that one only.
  cases left : first[place]? with
  | none =>
    cases right : second[place]? with
    | none => exact absurd (left.trans right.symm) apart
    | some other => simp [left,right] at hashes
  | some one =>
    cases right : second[place]? with
    | none => simp [left,right] at hashes
    | some other =>
      simp only [left,right,Option.map_some,Option.some.injEq] at hashes apart
      exact ⟨place,one,other,left,right,apart,hashes⟩

end Sha256

namespace Merkle

theorem evened_cons (left right : Bytes32) (rest : List Bytes32) :
    evened (left :: right :: rest) = left :: right :: evened rest := by
  unfold evened
  simp only [List.length_cons,List.get_eq_getElem]
  split
  next odd =>
    have last : rest.length % 2 = 1 := by omega
    rw [dif_pos last]
    obtain ⟨size,filled⟩ : ∃ size, rest.length = size + 1 := ⟨rest.length - 1,by omega⟩
    simp [filled]
  next even =>
    have whole : ¬ rest.length % 2 = 1 := by omega
    rw [dif_neg whole]

theorem parents_cons (left right : Bytes32) (rest : List Bytes32) :
    parents (left :: right :: rest) = hashPair left right :: parents rest := by
  rw [parents,evened_cons,hashPairs,parents]

theorem parents_single (last : Bytes32) : parents [last] = [hashPair last last] := rfl

theorem climb_few (level : List Bytes32) (few : level.length ≤ 1) : climb level = level := by
  rw [climb,if_neg (by omega)]

theorem climb_more (level : List Bytes32) (more : 1 < level.length) :
    climb level = climb (parents level) := by
  rw [climb,if_pos more]

theorem length_climb (level : List Bytes32) : (climb level).length ≤ 1 := by
  induction level using climb.induct with
  | case1 level more ih => rwa [climb_more level more]
  | case2 level few =>
    rw [climb_few level (by omega)]
    omega

theorem root_eq (hashes : List Bytes32) : root hashes = (climb hashes)[0]? := by
  unfold root
  split
  next filled => exact (List.getElem?_eq_getElem (climb_nonempty hashes filled)).symm
  next empty =>
    rw [climb_few hashes (by omega),List.getElem?_eq_none (by omega)]

theorem root_eq_some (hashes : List Bytes32) (top : Bytes32) :
    root hashes = some top ↔ climb hashes = [top] := by
  have few := length_climb hashes
  rw [root_eq]
  generalize climb hashes = level at few ⊢
  rcases level with _ | ⟨found,_ | ⟨next,rest⟩⟩
  · simp
  · simp
  · simp at few

theorem root_parents (hashes : List Bytes32) (more : 1 < hashes.length) :
    root (parents hashes) = root hashes := by
  rw [root_eq,root_eq,climb_more hashes more]

theorem root_eq_none (hashes : List Bytes32) : root hashes = none ↔ hashes = [] := by
  unfold root
  rw [← List.length_eq_zero_iff]
  split
  next filled => exact iff_of_false (by simp) (by omega)
  next empty => exact iff_of_true rfl (by omega)

theorem root_cons (first : Bytes32) (rest : List Bytes32) :
    ∃ top, root (first :: rest) = some top := by
  rw [← Option.ne_none_iff_exists']
  simp [root_eq_none]

/-- One level stands above another if it is half as long, rounded up, and each of its hashes is that of
two neighbours; a hash without a right neighbour stands in for it. -/
structure Above (level next : List Bytes32) : Prop where
  length : next.length = (level.length + 1) / 2
  entry : ∀ (place : Nat) (left : Bytes32), level[2 * place]? = some left →
    next[place]? =
      some (Sha256.double (left.bytes ++ (level[2 * place + 1]?.getD left).bytes))

inductive RootOf : List Bytes32 → Bytes32 → Prop
  | single (top : Bytes32) : RootOf [top] top
  | level (hashes next : List Bytes32) (top : Bytes32) (more : 1 < hashes.length)
      (above : Above hashes next) (rest : RootOf next top) : RootOf hashes top

theorem getElem?_parents (level : List Bytes32) (place : Nat) (left : Bytes32)
    (found : level[2 * place]? = some left) :
    (parents level)[place]? = some (hashPair left (level[2 * place + 1]?.getD left)) := by
  induction level using List.twoStepInduction generalizing place with
  | nil => simp at found
  | singleton last =>
    cases place with
    | zero =>
      cases Option.some.inj found
      rw [parents_single]
      rfl
    | succ place => simp at found
  | cons_cons first second rest ih =>
    rw [parents_cons]
    cases place with
    | zero =>
      cases Option.some.inj found
      rfl
    | succ place =>
      rw [Nat.mul_succ] at found ⊢
      simp only [List.getElem?_cons_succ] at found ⊢
      exact ih place found

theorem above_iff (level next : List Bytes32) : Above level next ↔ next = parents level := by
  constructor
  · intro above
    apply List.ext_getElem?
    intro place
    by_cases inside : 2 * place < level.length
    · have found := List.getElem?_eq_getElem inside
      rw [above.entry place _ found,getElem?_parents level place _ found,hashPair]
    · rw [List.getElem?_eq_none (by rw [above.length]; omega),
        List.getElem?_eq_none (by rw [length_parents]; omega)]
  · rintro rfl
    exact ⟨length_parents level,getElem?_parents level⟩

theorem climb_eq_single (hashes : List Bytes32) (top : Bytes32) :
    climb hashes = [top] ↔ RootOf hashes top := by
  constructor
  · intro reached
    induction hashes using climb.induct with
    | case1 hashes more ih =>
      rw [climb_more hashes more] at reached
      exact .level hashes _ top more ((above_iff hashes _).mpr rfl) (ih reached)
    | case2 hashes few =>
      rw [climb_few hashes (by omega)] at reached
      subst reached
      exact .single top
  · intro stands
    induction stands with
    | single top => exact climb_few [top] (by simp)
    | level hashes next top more above rest ih =>
      rw [climb_more hashes more,← (above_iff hashes next).mp above]
      exact ih

def height (hashes : List Bytes32) : Nat := Nat.clog 2 hashes.length

theorem height_few (hashes : List Bytes32) (few : hashes.length ≤ 1) : height hashes = 0 :=
  Nat.clog_of_right_le_one few 2

theorem height_more (hashes : List Bytes32) (more : 1 < hashes.length) :
    height hashes = height (parents hashes) + 1 := by
  rw [height,height,length_parents]
  exact Nat.clog_of_two_le (by decide) more

theorem climb_eq_iterate (hashes : List Bytes32) :
    climb hashes = parents^[height hashes] hashes := by
  induction hashes using climb.induct with
  | case1 hashes more ih =>
    rw [climb_more hashes more,ih,height_more hashes more,Function.iterate_succ_apply]
  | case2 hashes few =>
    rw [climb_few hashes (by omega),height_few hashes (by omega),Function.iterate_zero_apply]

theorem one_lt_length_iterate (hashes : List Bytes32) (round : Nat) :
    1 < (parents^[round] hashes).length ↔ round < height hashes := by
  induction round generalizing hashes with
  | zero =>
    rw [Function.iterate_zero_apply,height,Nat.lt_clog_iff_pow_lt (by decide),Nat.pow_zero]
  | succ round ih =>
    rw [Function.iterate_succ_apply,ih]
    by_cases more : 1 < hashes.length
    · rw [height_more hashes more,Nat.add_lt_add_iff_right]
    · have few : (parents hashes).length ≤ 1 := by rw [length_parents]; omega
      rw [height_few _ few,height_few hashes (by omega)]
      simp

theorem iterate_eq_nil (hashes : List Bytes32) (round : Nat) :
    parents^[round] hashes = [] ↔ hashes = [] := by
  induction round generalizing hashes with
  | zero => rw [Function.iterate_zero_apply]
  | succ round ih =>
    rw [Function.iterate_succ_apply,ih,← List.length_eq_zero_iff,length_parents,
      ← List.length_eq_zero_iff]
    omega

/-- Hashes have a root unless there are none, and it is the root by levels. The climb to it takes as
many rounds as there are levels above the hashes, and in none of them is a level empty: there is a last
hash to be repeated, and a first one at the end. -/
theorem root_by_levels (hashes : List Bytes32) :
    (root hashes = none ↔ hashes = []) ∧
    (∀ top, root hashes = some top ↔ RootOf hashes top) ∧
    climb hashes = parents^[height hashes] hashes ∧
    (∀ round, 1 < (parents^[round] hashes).length ↔ round < height hashes) ∧
    ∀ round, parents^[round] hashes = [] ↔ hashes = [] := by
  refine ⟨root_eq_none hashes,?_,climb_eq_iterate hashes,one_lt_length_iterate hashes,
    iterate_eq_nil hashes⟩
  intro top
  rw [root_eq_some,climb_eq_single]

def pairs : List Bytes32 → List Bytes
  | [] => []
  | [last] => [last.bytes ++ last.bytes]
  | left :: right :: rest => (left.bytes ++ right.bytes) :: pairs rest

def hashed : List Bytes32 → List Bytes
  | [] => []
  | [_] => []
  | left :: right :: rest =>
    pairs (left :: right :: rest) ++ hashed (parents (left :: right :: rest))
termination_by level => level.length
decreasing_by
  rw [length_parents]
  simp only [List.length_cons]
  omega

theorem parents_eq_map (level : List Bytes32) : parents level = (pairs level).map Sha256.double := by
  induction level using pairs.induct with
  | case1 => rfl
  | case2 last => rfl
  | case3 left right rest ih => rw [parents_cons,pairs,List.map_cons,ih,hashPair]

theorem length_mem_pairs (level : List Bytes32) (pair : Bytes) (member : pair ∈ pairs level) :
    pair.length = 64 := by
  induction level using pairs.induct with
  | case1 => simp [pairs] at member
  | case2 last =>
    rw [pairs,List.mem_singleton] at member
    rw [member,List.length_append,last.length_bytes]
  | case3 left right rest ih =>
    rw [pairs,List.mem_cons] at member
    rcases member with rfl | member
    · rw [List.length_append,left.length_bytes,right.length_bytes]
    · exact ih member

theorem pairs_injective (first second : List Bytes32) (length : first.length = second.length)
    (same : pairs first = pairs second) : first = second := by
  have apart (left right other another : Bytes32)
      (equal : left.bytes ++ right.bytes = other.bytes ++ another.bytes) :
      left = other ∧ right = another := by
    obtain ⟨front,back⟩ := List.append_inj equal (by rw [left.length_bytes,other.length_bytes])
    exact ⟨Bytes32.bytes_injective front,Bytes32.bytes_injective back⟩
  induction first using pairs.induct generalizing second with
  | case1 => exact (List.length_eq_zero_iff.mp length.symm).symm
  | case2 last =>
    obtain ⟨other,rfl⟩ := List.length_eq_one_iff.mp length.symm
    simp only [pairs,List.cons.injEq,and_true] at same
    rw [(apart _ _ _ _ same).1]
  | case3 left right rest ih =>
    rcases second with _ | ⟨other,_ | ⟨another,more⟩⟩
    · simp at length
    · simp at length
    · simp only [pairs,List.cons.injEq] at same
      obtain ⟨rfl,rfl⟩ := apart _ _ _ _ same.1
      rw [ih more (by simpa using length) same.2]

theorem mem_hashed (hashes : List Bytes32) (pair : Bytes) : pair ∈ hashed hashes ↔
    ∃ round < height hashes, pair ∈ pairs (parents^[round] hashes) := by
  induction hashes using hashed.induct with
  | case1 => simp [hashed,height]
  | case2 last => simp [hashed,height]
  | case3 left right rest ih =>
    have more : 1 < (left :: right :: rest).length := by simp
    rw [hashed,List.mem_append,ih,height_more _ more]
    constructor
    · rintro (member | ⟨round,inside,member⟩)
      · exact ⟨0,by omega,member⟩
      · exact ⟨round + 1,by omega,member⟩
    · rintro ⟨_ | round,inside,member⟩
      · exact .inl member
      · exact .inr ⟨round,by omega,member⟩

/-- Two nodes at one place of two trees, different and with the same hash. Each is the 64 bytes that are
hashed there. -/
def Clash (first second : List Bytes32) : Prop :=
  ∃ round < height first, ∃ (place : Nat) (one other : Bytes),
    (pairs (parents^[round] first))[place]? = some one ∧
    (pairs (parents^[round] second))[place]? = some other ∧
    one.length = 64 ∧ other.length = 64 ∧ Sha256.Collide one other

/-- Two lists of one length with the same root are the same list, or some of their nodes clash. -/
theorem root_cases (first second : List Bytes32) (length : first.length = second.length)
    (same : root first = root second) : first = second ∨ Clash first second := by
  induction first using climb.induct generalizing second with
  | case1 first more ih =>
    have other : 1 < second.length := by omega
    have lengths : (parents first).length = (parents second).length := by
      rw [length_parents,length_parents,length]
    have above : root (parents first) = root (parents second) := by
      rw [root_parents first more,root_parents second other,same]
    -- From the root down: equal parents are made of equal pairs, or the pairs clash in this round.
    rcases ih (parents second) lengths above with level | ⟨round,inside,clash⟩
    · rw [parents_eq_map,parents_eq_map] at level
      rcases Sha256.map_double_cases _ _ level with equal | ⟨place,one,two,left,right,collide⟩
      · exact .inl (pairs_injective first second length equal)
      · refine .inr ⟨0,by rw [height_more first more]; omega,place,one,two,left,right,?_,?_,collide⟩
        · exact length_mem_pairs _ _ (List.mem_of_getElem? left)
        · exact length_mem_pairs _ _ (List.mem_of_getElem? right)
    · exact .inr ⟨round + 1,by rw [height_more first more]; omega,clash⟩
  | case2 first few =>
    rw [root_eq,root_eq,climb_few first (by omega),climb_few second (by omega)] at same
    left
    apply List.ext_getElem?
    rintro (_ | place)
    · exact same
    · rw [List.getElem?_eq_none (by omega),List.getElem?_eq_none (by omega)]

/-- Two lists of one length have the same root only if some of what is hashed for them collides. -/
theorem root_injective (first second : List Bytes32) (length : first.length = second.length)
    (apart : ∀ one ∈ hashed first, ∀ other ∈ hashed second, ¬ Sha256.Collide one other)
    (same : root first = root second) : first = second := by
  rcases root_cases first second length same with equal | clash
  · exact equal
  · obtain ⟨round,inside,place,one,other,left,right,_,_,collide⟩ := clash
    have reached : round < height second := by rwa [height,← length]
    exact absurd collide (apart
      one ((mem_hashed first one).mpr ⟨round,inside,List.mem_of_getElem? left⟩)
      other ((mem_hashed second other).mpr ⟨round,reached,List.mem_of_getElem? right⟩))

end Merkle

end SoloMining
