import SoloMining.CommandLine.Argument
import SoloMining.Release

/-! What the program tells about itself and about a command line that it cannot use. -/
namespace SoloMining.CommandLine

def versionLine : String := Release.name ++ " " ++ Release.version

def Argument.usage (a : Argument) : String :=
  let short := match a.letter? with
    | some c => String.ofList ['-', c, ',', ' ']
    | none => "    "
  let value := match a.valueName? with
    | some name => " <" ++ name ++ ">"
    | none => ""
  "  " ++ short ++ "--" ++ a.longName ++ value

def helpText : String :=
  let head := "Solo mining client for getblocktemplate/submitblock nodes\n\nUsage: " ++ Release.name
    ++ " [OPTIONS]\n\nOptions:\n"
  Argument.all.foldl (fun text a => text ++ a.usage ++ "\n          " ++ a.summary ++ "\n") head

def Fault.message : Fault → String
  | .unknownArgument => "unexpected argument found"
  | .invalidValue => "invalid or missing value for an option"
  | .valueValidation => "value of an option is out of range"
  | .argumentConflict => "an option cannot be used multiple times"
  | .tooManyValues => "unexpected value for an option that takes none"
  | .displayHelp => helpText
  | .displayVersion => versionLine

end SoloMining.CommandLine
