import SoloMining.Error

/-! Hashes as nodes write them: hexadecimal with the last byte first. -/
namespace SoloMining

/-- Reads a written hash into the order in which hashes enter blocks. -/
def hashOfDisplay (text : String) : Except Error Bytes32 :=
  match Hex.decode32 text with
  | .ok word => .ok word.reverse
  | .error fault => .error (.template (.badHash text fault))

def decodeField (field text : String) : Except Error Bytes :=
  match Hex.decode text with
  | .ok bytes => .ok bytes
  | .error fault => .error (.template (.badHex field fault))

end SoloMining
