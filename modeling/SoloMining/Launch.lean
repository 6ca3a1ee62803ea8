import SoloMining.Config.Source

/-! How the program starts, up to the point where it turns to the node. -/
namespace SoloMining.Launch

inductive Failure
  | config (e : Error)
  | badLogFile (path : String)

def Failure.message : Failure → String
  | .config e => e.message
  | .badLogFile path => "invalid log file " ++ path

inductive Outcome
  | refused (fault : CommandLine.Fault)
  | failed (failure : Failure)
  | printed (config : Config)
  | ready (config : Config)

namespace Outcome

def exitCode : Outcome → UInt8
  | .refused fault => if fault.isRequest then 0 else 2
  | .failed _ => 1
  | .printed _ => 0
  | .ready _ => 0

end Outcome

def checkLogFile (config : Config) : Except Failure Unit :=
  match config.logFile with
  | some path => if (Path.fileName? path).isSome then .ok () else .error (.badLogFile path)
  | none => .ok ()

def proceed (config : Config) : Outcome :=
  if config.printConfig then .printed config
  else
    match checkLogFile config with
    | .ok () => .ready config
    | .error failure => .failed failure

def start (read : String → Except IoFault Bytes) (environment : String → Option String)
    (arguments : List String) : Outcome :=
  match CommandLine.Invocation.parse environment arguments with
  | .error fault => .refused fault
  | .ok invocation =>
    match Config.load read invocation with
    | .error e => .failed (.config e)
    | .ok config => proceed config

end SoloMining.Launch
