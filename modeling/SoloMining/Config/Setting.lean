/-! The settings that a command line, the environment and a configuration file can give. -/
namespace SoloMining

inductive Setting
  | host
  | port
  | tls
  | insecure
  | user
  | password
  | address
  | coin
  | algorithm
  | pollInterval
  | jobTimeout
  | retryPause
  | httpTimeout
  | logLevel
  | logFile
  | logJson
  | generate
deriving DecidableEq

namespace Setting

/-- The order in which a configuration written as an array holds them. -/
def all : List Setting :=
  [.host, .port, .tls, .insecure, .user, .password, .address, .coin, .algorithm, .pollInterval,
   .jobTimeout, .retryPause, .httpTimeout, .logLevel, .logFile, .logJson, .generate]

def key : Setting → String
  | .host => "host"
  | .port => "port"
  | .tls => "tls"
  | .insecure => "insecure"
  | .user => "user"
  | .password => "password"
  | .address => "address"
  | .coin => "coin"
  | .algorithm => "algo"
  | .pollInterval => "poll_interval"
  | .jobTimeout => "job_timeout"
  | .retryPause => "retry_pause"
  | .httpTimeout => "http_timeout"
  | .logLevel => "log_level"
  | .logFile => "log_file"
  | .logJson => "log_json"
  | .generate => "generate"

end Setting

end SoloMining
