import SoloMining.Config.Basic

/-! The value of each setting in a configuration. -/
namespace SoloMining

abbrev Setting.Value : Setting → Type
  | .host | .coin => String
  | .port => UInt16
  | .tls | .insecure | .logJson => Bool
  | .user | .password | .address | .algorithm | .logFile => Option String
  | .pollInterval | .jobTimeout | .retryPause | .httpTimeout => UInt64
  | .logLevel => LogLevel
  | .generate => Option UInt32

def Setting.decoder : (s : Setting) → Json.Decoder s.Value
  | .host | .coin => .text
  | .port => .uint16
  | .tls | .insecure | .logJson => .bool
  | .user | .password | .address | .algorithm => Json.Decoder.text.optional
  | .logFile => (Json.Decoder.textOf "path string").optional
  | .pollInterval | .jobTimeout | .retryPause | .httpTimeout => .uint64
  | .logLevel => LogLevel.decoder
  | .generate => Json.Decoder.uint32.optional

namespace Config

def value (c : Config) : (s : Setting) → s.Value
  | .host => c.host
  | .port => c.port
  | .tls => c.tls
  | .insecure => c.insecure
  | .user => c.user
  | .password => c.password
  | .address => c.address
  | .coin => c.coin
  | .algorithm => c.algorithm
  | .pollInterval => c.pollInterval
  | .jobTimeout => c.jobTimeout
  | .retryPause => c.retryPause
  | .httpTimeout => c.httpTimeout
  | .logLevel => c.logLevel
  | .logFile => c.logFile
  | .logJson => c.logJson
  | .generate => c.generate

def set (c : Config) : (s : Setting) → s.Value → Config
  | .host, host => { c with host }
  | .port, port => { c with port }
  | .tls, tls => { c with tls }
  | .insecure, insecure => { c with insecure }
  | .user, user => { c with user }
  | .password, password => { c with password }
  | .address, address => { c with address }
  | .coin, coin => { c with coin }
  | .algorithm, algorithm => { c with algorithm }
  | .pollInterval, pollInterval => { c with pollInterval }
  | .jobTimeout, jobTimeout => { c with jobTimeout }
  | .retryPause, retryPause => { c with retryPause }
  | .httpTimeout, httpTimeout => { c with httpTimeout }
  | .logLevel, logLevel => { c with logLevel }
  | .logFile, logFile => { c with logFile }
  | .logJson, logJson => { c with logJson }
  | .generate, generate => { c with generate }

theorem set_value_other (c : Config) (s : Setting) (v : s.Value) (other : Setting)
    (different : other ≠ s) : (c.set s v).value other = c.value other := by
  cases s <;> cases other <;> first | rfl | exact absurd rfl different

/-- A configuration consists of its settings and of what only the command line can say. -/
theorem ext_value (first second : Config) (print : first.printConfig = second.printConfig)
    (file : first.configFile = second.configFile)
    (settings : ∀ s, first.value s = second.value s) : first = second := by
  cases first
  cases second
  rw [mk.injEq]
  exact ⟨print,file,settings .host,settings .port,settings .tls,settings .insecure,settings .user,
    settings .password,settings .address,settings .coin,settings .algorithm,settings .pollInterval,
    settings .jobTimeout,settings .retryPause,settings .httpTimeout,settings .logLevel,
    settings .logFile,settings .logJson,settings .generate⟩

theorem merge_value (c : Config) (given : Setting → Bool) (file : Config) (s : Setting) :
    (c.merge given file).value s = if given s then c.value s else file.value s := by
  cases s <;> rfl

end Config

end SoloMining
