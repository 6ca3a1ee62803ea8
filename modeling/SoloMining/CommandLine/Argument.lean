import SoloMining.Config.Basic

/-! What can stand on the command line, under which names, and what its value means. -/
namespace SoloMining.CommandLine

inductive Fault
  | unknownArgument
  | invalidValue
  | valueValidation
  | argumentConflict
  | tooManyValues
  | displayHelp
  | displayVersion
deriving DecidableEq

namespace Fault

def name : Fault → String
  | .unknownArgument => "UnknownArgument"
  | .invalidValue => "InvalidValue"
  | .valueValidation => "ValueValidation"
  | .argumentConflict => "ArgumentConflict"
  | .tooManyValues => "TooManyValues"
  | .displayHelp => "DisplayHelp"
  | .displayVersion => "DisplayVersion"

def isRequest : Fault → Bool
  | .displayHelp | .displayVersion => true
  | _ => false

end Fault

inductive Argument
  | setting (s : Setting)
  | printConfig
  | configFile
  | help
  | version
deriving DecidableEq

namespace Argument

def all : List Argument :=
  [.printConfig, .configFile] ++ Setting.all.map .setting ++ [.help, .version]

def longName : Argument → String
  | .setting .host => "host"
  | .setting .port => "port"
  | .setting .tls => "tls"
  | .setting .insecure => "insecure"
  | .setting .user => "user"
  | .setting .password => "password"
  | .setting .address => "address"
  | .setting .coin => "coin"
  | .setting .algorithm => "algo"
  | .setting .pollInterval => "poll-interval"
  | .setting .jobTimeout => "job-timeout"
  | .setting .retryPause => "retry-pause"
  | .setting .httpTimeout => "http-timeout"
  | .setting .logLevel => "log-level"
  | .setting .logFile => "log-file"
  | .setting .logJson => "log-json"
  | .setting .generate => "generate"
  | .printConfig => "print-config"
  | .configFile => "config-file"
  | .help => "help"
  | .version => "version"

def letter? : Argument → Option Char
  | .setting .host => some 'H'
  | .setting .port => some 'p'
  | .setting .tls => some 't'
  | .setting .insecure => some 'x'
  | .setting .user => some 'u'
  | .setting .password => some 'P'
  | .setting .address => some 'a'
  | .setting .coin => some 'c'
  | .setting .logLevel => some 'l'
  | .help => some 'h'
  | .version => some 'V'
  | _ => none

def valueName? : Argument → Option String
  | .setting .tls | .setting .insecure | .setting .logJson => none
  | .printConfig | .help | .version => none
  | .configFile | .setting .logFile => some "FILE"
  | .setting .generate => some "N"
  | .setting .host => some "HOST"
  | .setting .port => some "PORT"
  | .setting .user => some "USER"
  | .setting .password => some "PASSWORD"
  | .setting .address => some "ADDRESS"
  | .setting .coin => some "COIN"
  | .setting .algorithm => some "ALGO"
  | .setting .pollInterval => some "POLL_INTERVAL"
  | .setting .jobTimeout => some "JOB_TIMEOUT"
  | .setting .retryPause => some "RETRY_PAUSE"
  | .setting .httpTimeout => some "HTTP_TIMEOUT"
  | .setting .logLevel => some "LOG_LEVEL"

def takesValue (a : Argument) : Bool := a.valueName?.isSome

def summary : Argument → String
  | .setting .host => "Node RPC host"
  | .setting .port => "Node RPC port"
  | .setting .tls => "Use TLS to connect to the node"
  | .setting .insecure => "Accept self-signed TLS certificates"
  | .setting .user => "RPC user name"
  | .setting .password => "RPC password"
  | .setting .address => "Payout address, coin/devAddress:miningAddress"
  | .setting .coin => "Coin used when the address carries no coin"
  | .setting .algorithm => "Algorithm tag for jobs"
  | .setting .pollInterval => "Template polling interval in milliseconds"
  | .setting .jobTimeout => "Maximum job age in milliseconds before a template is refetched"
  | .setting .retryPause => "Pause before reconnecting after a failure, in milliseconds"
  | .setting .httpTimeout => "HTTP request timeout in milliseconds"
  | .setting .logLevel => "Log level"
  | .setting .logFile => "Also write logs to this file"
  | .setting .logJson => "Emit logs as JSON lines"
  | .setting .generate => "Ask the node to mine N blocks once connected"
  | .printConfig => "Print the configuration and exit"
  | .configFile => "Configuration file (YAML or JSON)"
  | .help => "Print help"
  | .version => "Print version"

def ofLongName? (name : String) : Option Argument := all.find? (·.longName == name)

def ofLetter? (c : Char) : Option Argument := all.find? (·.letter? == some c)

/-- A number below the bound; zero may have a minus sign. -/
def boundedNumber (bound : Nat) (text : String) : Except Fault Nat :=
  match text.toList with
  | '-' :: digits =>
    if !digits.isEmpty && digits.all (· == '0') then .ok 0 else .error .valueValidation
  | cs =>
    match Text.readNatural 10 bound cs with
    | .ok n => .ok n
    | .error _ => .error .valueValidation

def wideNumber (text : String) : Except Fault UInt64 :=
  match Text.readNatural 10 UInt64.size text.toList with
  | .ok n => .ok (UInt64.ofNat n)
  | .error _ => .error .valueValidation

def path (text : String) : Except Fault String :=
  if text.isEmpty then .error .invalidValue else .ok text

def assign (c : Config) (value : String) : Argument → Except Fault Config
  | .setting .host => .ok { c with host := value }
  | .setting .port => do
    let n ← boundedNumber UInt16.size value
    pure { c with port := UInt16.ofNat n }
  | .setting .tls => .ok { c with tls := true }
  | .setting .insecure => .ok { c with insecure := true }
  | .setting .user => .ok { c with user := some value }
  | .setting .password => .ok { c with password := some value }
  | .setting .address => .ok { c with address := some value }
  | .setting .coin => .ok { c with coin := value }
  | .setting .algorithm => .ok { c with algorithm := some value }
  | .setting .pollInterval => do
    let n ← wideNumber value
    pure { c with pollInterval := n }
  | .setting .jobTimeout => do
    let n ← wideNumber value
    pure { c with jobTimeout := n }
  | .setting .retryPause => do
    let n ← wideNumber value
    pure { c with retryPause := n }
  | .setting .httpTimeout => do
    let n ← wideNumber value
    pure { c with httpTimeout := n }
  | .setting .logLevel =>
    match LogLevel.ofName? value with
    | some level => .ok { c with logLevel := level }
    | none => .error .invalidValue
  | .setting .logFile => do
    let file ← path value
    pure { c with logFile := some file }
  | .setting .logJson => .ok { c with logJson := true }
  | .setting .generate => do
    let n ← boundedNumber UInt32.size value
    pure { c with generate := some (UInt32.ofNat n) }
  | .printConfig => .ok { c with printConfig := true }
  | .configFile => do
    let file ← path value
    pure { c with configFile := some file }
  | .help => .error .displayHelp
  | .version => .error .displayVersion

end Argument

end SoloMining.CommandLine
