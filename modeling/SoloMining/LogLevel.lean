import SoloMining.Json.Decoder

/-! How much is logged. -/
namespace SoloMining

inductive LogLevel
  | error
  | warn
  | info
  | debug
  | trace
deriving DecidableEq

namespace LogLevel

def all : List LogLevel := [.error, .warn, .info, .debug, .trace]

def name : LogLevel → String
  | .error => "error"
  | .warn => "warn"
  | .info => "info"
  | .debug => "debug"
  | .trace => "trace"

def tag (level : LogLevel) : String := level.name.toUpper

def variants : List (String × LogLevel) := all.map fun level => (level.name, level)

def ofName? (text : String) : Option LogLevel := variants.lookup text

def decoder : Json.Decoder LogLevel := .choice variants

end LogLevel

end SoloMining
