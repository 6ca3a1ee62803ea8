import SoloMining.Bytes

/-! The SHA-256 digest of a byte string, and its double application, which names transactions and
blocks. The digest is a fold of a compression step over 64-byte blocks of the padded message. -/
namespace SoloMining.Sha256

structure Words where
  a : UInt32
  b : UInt32
  c : UInt32
  d : UInt32
  e : UInt32
  f : UInt32
  g : UInt32
  h : UInt32
deriving DecidableEq

/-- Fractional parts of the cube roots of the first 64 primes. -/
def roundConstants : List UInt32 :=
  [0x428a2f98, 0x71374491, 0xb5c0fbcf, 0xe9b5dba5, 0x3956c25b, 0x59f111f1, 0x923f82a4, 0xab1c5ed5,
   0xd807aa98, 0x12835b01, 0x243185be, 0x550c7dc3, 0x72be5d74, 0x80deb1fe, 0x9bdc06a7, 0xc19bf174,
   0xe49b69c1, 0xefbe4786, 0x0fc19dc6, 0x240ca1cc, 0x2de92c6f, 0x4a7484aa, 0x5cb0a9dc, 0x76f988da,
   0x983e5152, 0xa831c66d, 0xb00327c8, 0xbf597fc7, 0xc6e00bf3, 0xd5a79147, 0x06ca6351, 0x14292967,
   0x27b70a85, 0x2e1b2138, 0x4d2c6dfc, 0x53380d13, 0x650a7354, 0x766a0abb, 0x81c2c92e, 0x92722c85,
   0xa2bfe8a1, 0xa81a664b, 0xc24b8b70, 0xc76c51a3, 0xd192e819, 0xd6990624, 0xf40e3585, 0x106aa070,
   0x19a4c116, 0x1e376c08, 0x2748774c, 0x34b0bcb5, 0x391c0cb3, 0x4ed8aa4a, 0x5b9cca4f, 0x682e6ff3,
   0x748f82ee, 0x78a5636f, 0x84c87814, 0x8cc70208, 0x90befffa, 0xa4506ceb, 0xbef9a3f7, 0xc67178f2]

/-- Fractional parts of the square roots of the first 8 primes. -/
def initial : Words :=
  ⟨0x6a09e667, 0xbb67ae85, 0x3c6ef372, 0xa54ff53a,
   0x510e527f, 0x9b05688c, 0x1f83d9ab, 0x5be0cd19⟩

def rotateRight (x : UInt32) (n : UInt32) : UInt32 := (x >>> n) ||| (x <<< (32 - n))

def sigma0 (x : UInt32) : UInt32 := rotateRight x 7 ^^^ rotateRight x 18 ^^^ (x >>> 3)
def sigma1 (x : UInt32) : UInt32 := rotateRight x 17 ^^^ rotateRight x 19 ^^^ (x >>> 10)
def bigSigma0 (x : UInt32) : UInt32 := rotateRight x 2 ^^^ rotateRight x 13 ^^^ rotateRight x 22
def bigSigma1 (x : UInt32) : UInt32 := rotateRight x 6 ^^^ rotateRight x 11 ^^^ rotateRight x 25

/-- Extends the message schedule, kept newest word first. -/
def extend : (count : Nat) → List UInt32 → List UInt32
  | 0, words => words
  | count + 1, words =>
    let word := sigma1 (words.getD 1 0) + words.getD 6 0 + sigma0 (words.getD 14 0)
      + words.getD 15 0
    extend count (word :: words)

def bigEndian32 : Bytes → UInt32
  | [a, b, c, d] =>
    (a.toUInt32 <<< 24) ||| (b.toUInt32 <<< 16) ||| (c.toUInt32 <<< 8) ||| d.toUInt32
  | _ => 0

def pieces (size : Nat) : (count : Nat) → Bytes → List Bytes
  | 0, _ => []
  | count + 1, bytes => bytes.take size :: pieces size count (bytes.drop size)

def schedule (block : Bytes) : List UInt32 :=
  (extend 48 ((pieces 4 16 block).map bigEndian32).reverse).reverse

def round (s : Words) (input : UInt32 × UInt32) : Words :=
  let choice := (s.e &&& s.f) ^^^ (~~~s.e &&& s.g)
  let majority := (s.a &&& s.b) ^^^ (s.a &&& s.c) ^^^ (s.b &&& s.c)
  let t1 := s.h + bigSigma1 s.e + choice + input.1 + input.2
  let t2 := bigSigma0 s.a + majority
  ⟨t1 + t2, s.a, s.b, s.c, s.d + t1, s.e, s.f, s.g⟩

def compress (state : Words) (block : Bytes) : Words :=
  let s := (roundConstants.zip (schedule block)).foldl round state
  ⟨state.a + s.a, state.b + s.b, state.c + s.c, state.d + s.d,
   state.e + s.e, state.f + s.f, state.g + s.g, state.h + s.h⟩

/-- A one bit, zeros up to 8 bytes below a whole block, and the length in bits. -/
def pad (message : Bytes) : Bytes :=
  let zeros := (119 - message.length % 64) % 64
  message ++ 0x80 :: List.replicate zeros 0 ++ (Bytes.ofNatLE 8 (8 * message.length)).reverse

def bigEndianBytes (x : UInt32) : Bytes := (Bytes.le32 x).reverse

def Words.bytes (s : Words) : Bytes :=
  bigEndianBytes s.a ++ bigEndianBytes s.b ++ bigEndianBytes s.c ++ bigEndianBytes s.d
    ++ bigEndianBytes s.e ++ bigEndianBytes s.f ++ bigEndianBytes s.g ++ bigEndianBytes s.h

theorem Words.length_bytes (s : Words) : s.bytes.length = 32 := by
  simp [Words.bytes, bigEndianBytes, Bytes.le32, Bytes.length_ofNatLE]

def digest (message : Bytes) : Bytes32 :=
  let padded := pad message
  let state := (pieces 64 (padded.length / 64) padded).foldl compress initial
  ⟨state.bytes, state.length_bytes⟩

def double (message : Bytes) : Bytes32 := digest (digest message).bytes

end SoloMining.Sha256
