import SoloMining.Bytes
import SoloMining.Text.Radix

/-! Block headers: the 80 bytes that are hashed, the last four of which are the nonce. -/
namespace SoloMining

structure Nonce where
  value : UInt32
deriving DecidableEq

def Nonce.bytes (nonce : Nonce) : Bytes := Bytes.le32 nonce.value

def Nonce.display (nonce : Nonce) : String := Text.paddedHex 8 nonce.value.toNat

structure Header where
  version : Int32
  previousHash : Bytes32
  merkleRoot : Bytes32
  time : UInt32
  bits : UInt32
  nonce : Nonce
deriving DecidableEq

namespace Header

def nonceOffset : Nat := 76

def size : Nat := 80

def bytes (header : Header) : Bytes :=
  Bytes.le32 header.version.toUInt32 ++ header.previousHash.bytes ++ header.merkleRoot.bytes
    ++ Bytes.le32 header.time ++ Bytes.le32 header.bits ++ header.nonce.bytes

end Header

end SoloMining
