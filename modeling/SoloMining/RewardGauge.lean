/-! The latest reward of every coin. -/
namespace SoloMining

structure RewardGauge where
  latest : List (String × UInt64)

namespace RewardGauge

def empty : RewardGauge := ⟨[]⟩

def record (gauge : RewardGauge) (coin : String) (value : UInt64) : RewardGauge :=
  ⟨(coin, value) :: gauge.latest.filter (·.1 != coin)⟩

def get? (gauge : RewardGauge) (coin : String) : Option UInt64 := gauge.latest.lookup coin

end RewardGauge

end SoloMining
