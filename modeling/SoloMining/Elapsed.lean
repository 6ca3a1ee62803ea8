import SoloMining.Text.Radix

/-! Spans of time and how people read them: the longer the span, the coarser the text. -/
namespace SoloMining

structure Elapsed where
  seconds : Nat
  nanoseconds : Nat
deriving DecidableEq

namespace Elapsed

def ofParts (seconds nanoseconds : Nat) : Elapsed :=
  ⟨seconds + nanoseconds / 1000000000, nanoseconds % 1000000000⟩

def milliseconds (span : Elapsed) : Nat := span.nanoseconds / 1000000

def render (span : Elapsed) : String :=
  let s := span.seconds
  if s = 0 then Text.decimal span.milliseconds ++ "ms"
  else if s < 60 then Text.decimal s ++ "." ++ Text.paddedDecimal 3 span.milliseconds ++ "s"
  else if s < 3600 then Text.decimal (s / 60) ++ "m " ++ Text.decimal (s % 60) ++ "s"
  else
    Text.decimal (s / 3600) ++ "h " ++ Text.decimal (s % 3600 / 60) ++ "m "
      ++ Text.decimal (s % 60) ++ "s"

end Elapsed

end SoloMining
