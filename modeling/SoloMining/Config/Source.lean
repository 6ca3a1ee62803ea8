import SoloMining.CommandLine.Invocation
import SoloMining.Config.Validation
import SoloMining.Config.Yaml
import SoloMining.Path

/-! Where a configuration comes from: the command line and the environment first, then the file that
the command line names. -/
namespace SoloMining.Config

def ofFileText (path text : String) : Except Error Config :=
  if Path.extension? path == some "json".toList then
    match Json.decodeText decoder text with
    | .ok c => .ok c
    | .error fault => .error (.json fault)
  else
    match ofYaml? text with
    | some c => .ok c
    | none => .error .yaml

def ofFile (read : String → Except IoFault Bytes) (path : String) : Except Error Config :=
  match read path with
  | .error fault => .error (.io fault)
  | .ok bytes =>
    match String.fromUTF8? ⟨bytes.toArray⟩ with
    | some text => ofFileText path text
    | none => .error (.io .notUtf8)

def gather (read : String → Except IoFault Bytes) (invocation : CommandLine.Invocation) :
    Except Error Config :=
  match invocation.config.configFile with
  | none => .ok invocation.config
  | some path => do
    let file ← ofFile read path
    pure (invocation.config.merge invocation.isGiven file)

def load (read : String → Except IoFault Bytes) (invocation : CommandLine.Invocation) :
    Except Error Config := do
  let config ← gather read invocation
  config.validate
  pure config

end SoloMining.Config
