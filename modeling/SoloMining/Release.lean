/-! What the program calls itself. -/
namespace SoloMining.Release

def name : String := "solo-rpc-miner"

def version : String := "0.5.0"

end SoloMining.Release
