import SoloMining.CommandLine.Help
import SoloMining.Launch

/-! The command line of the program. -/
namespace SoloMining.Main

open Launch

def readNamed (environment : String → Option String) (arguments : List String) :
    IO (String → Except IoFault Bytes) := do
  match CommandLine.Invocation.parse environment arguments with
  | .error _ => return fun _ => .error .notFound
  | .ok invocation =>
    match invocation.config.configFile with
    | none => return fun _ => .error .notFound
    | some path =>
      try
        let content ← IO.FS.readBinFile path
        return fun _ => .ok content.toList
      catch
        | .noFileOrDirectory _ _ _ => return fun _ => .error .notFound
        | e => return fun _ => .error (.reported e.toString)

def report (outcome : Outcome) : IO Unit := do
  match outcome with
  | .refused fault =>
    if fault.isRequest then IO.println fault.message
    else IO.eprintln ("error: " ++ fault.message)
  | .failed failure => IO.eprintln ("Error: " ++ failure.message)
  | .printed config => IO.println config.toYaml
  | .ready config => IO.println ("Ready for " ++ config.endpoint.url)

end SoloMining.Main

open SoloMining in
def main (arguments : List String) : IO UInt32 := do
  let settings ← CommandLine.environmentVariables.mapM fun (name, _) => do
    pure (name, ← IO.getEnv name)
  let environment := fun name => (settings.lookup name).join
  let read ← Main.readNamed environment arguments
  let outcome := Launch.start read environment arguments
  Main.report outcome
  return outcome.exitCode.toUInt32
