import SoloMining.Bytes

/-! A stream of random 32-bit words: the key stream of the ChaCha cipher with twelve rounds, whose
key is stretched from a 64-bit seed by a permuted congruential generator. -/
namespace SoloMining.Random

abbrev Stream := Nat → UInt32

def rotateLeft (x : UInt32) (n : UInt32) : UInt32 := (x <<< n) ||| (x >>> (32 - n))

def rotateRight (x : UInt32) (n : UInt32) : UInt32 := (x >>> n) ||| (x <<< ((32 - n) % 32))

def stepSeed (state : UInt64) : UInt64 := state * 6364136223846793005 + 11634580027462260723

def seedWord (state : UInt64) : UInt32 :=
  rotateRight (((state >>> 18) ^^^ state) >>> 27).toUInt32 (state >>> 59).toUInt32

def seedWords : (count : Nat) → (state : UInt64) → List UInt32
  | 0, _ => []
  | count + 1, state => seedWord (stepSeed state) :: seedWords count (stepSeed state)

def quarterRound (a b c d : Nat) (s : Array UInt32) : Array UInt32 :=
  let get (s : Array UInt32) (i : Nat) : UInt32 := s.getD i 0
  let s := s.setIfInBounds a (get s a + get s b)
  let s := s.setIfInBounds d (rotateLeft (get s d ^^^ get s a) 16)
  let s := s.setIfInBounds c (get s c + get s d)
  let s := s.setIfInBounds b (rotateLeft (get s b ^^^ get s c) 12)
  let s := s.setIfInBounds a (get s a + get s b)
  let s := s.setIfInBounds d (rotateLeft (get s d ^^^ get s a) 8)
  let s := s.setIfInBounds c (get s c + get s d)
  s.setIfInBounds b (rotateLeft (get s b ^^^ get s c) 7)

def doubleRound (s : Array UInt32) : Array UInt32 :=
  [(0, 4, 8, 12), (1, 5, 9, 13), (2, 6, 10, 14), (3, 7, 11, 15),
    (0, 5, 10, 15), (1, 6, 11, 12), (2, 7, 8, 13), (3, 4, 9, 14)].foldl
    (fun s (a, b, c, d) => quarterRound a b c d s) s

def rounds : (count : Nat) → Array UInt32 → Array UInt32
  | 0, s => s
  | count + 1, s => rounds count (doubleRound s)

def block (key : List UInt32) (counter : Nat) : Array UInt32 :=
  let start : Array UInt32 := ([0x61707865, 0x3320646E, 0x79622D32, 0x6B206574] ++ key
    ++ [UInt32.ofNat counter, UInt32.ofNat (counter / UInt32.size), 0, 0]).toArray
  (start.zip (rounds 6 start)).map fun (x, y) => x + y

def keyStream (key : List UInt32) : Stream := fun i => (block key (i / 16)).getD (i % 16) 0

def ofSeed (seed : UInt64) : Stream := keyStream (seedWords 8 seed)

end SoloMining.Random
