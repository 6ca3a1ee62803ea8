import SoloMining.Client.Basic
import SoloMining.Config.Setting
import SoloMining.LogLevel

/-! The configuration of the program. Seventeen settings can stand in a configuration file; whether
to print the configuration, and which file to read, is said on the command line only. -/
namespace SoloMining

structure Config where
  printConfig : Bool
  configFile : Option String
  host : String
  port : UInt16
  tls : Bool
  /-- Whether certificates that nobody vouches for are accepted. -/
  insecure : Bool
  user : Option String
  password : Option String
  address : Option String
  coin : String
  algorithm : Option String
  pollInterval : UInt64
  jobTimeout : UInt64
  retryPause : UInt64
  httpTimeout : UInt64
  logLevel : LogLevel
  logFile : Option String
  logJson : Bool
  /-- How many blocks the node is asked to mine once it is connected. -/
  generate : Option UInt32
deriving DecidableEq

namespace Config

def defaultHost : String := "127.0.0.1"
def defaultPort : UInt16 := 10225
def defaultCoin : String := "raptoreum"
def defaultPollInterval : UInt64 := 1000
def defaultJobTimeout : UInt64 := 15000
def defaultRetryPause : UInt64 := 5000
def defaultHttpTimeout : UInt64 := 30000
def defaultLogLevel : LogLevel := .info

def default : Config where
  printConfig := false
  configFile := none
  host := defaultHost
  port := defaultPort
  tls := false
  insecure := false
  user := none
  password := none
  address := none
  coin := defaultCoin
  algorithm := none
  pollInterval := defaultPollInterval
  jobTimeout := defaultJobTimeout
  retryPause := defaultRetryPause
  httpTimeout := defaultHttpTimeout
  logLevel := defaultLogLevel
  logFile := none
  logJson := false
  generate := none

def members (c : Config) : List (String × Json) :=
  [("host", .string c.host), ("port", .ofNat c.port.toNat), ("tls", .bool c.tls),
   ("insecure", .bool c.insecure), ("user", .ofOption .string c.user),
   ("address", .ofOption .string c.address), ("coin", .string c.coin),
   ("algo", .ofOption .string c.algorithm), ("poll_interval", .ofNat c.pollInterval.toNat),
   ("job_timeout", .ofNat c.jobTimeout.toNat), ("retry_pause", .ofNat c.retryPause.toNat),
   ("http_timeout", .ofNat c.httpTimeout.toNat), ("log_level", .string c.logLevel.name),
   ("log_file", .ofOption .string c.logFile), ("log_json", .bool c.logJson),
   ("generate", .ofOption (fun n => .ofNat n.toNat) c.generate)]

def toJson (c : Config) : Json := .ofMembers c.members

def reader : Json.RecordReader Config :=
  Json.RecordReader.start (Config.mk false none)
    |>.defaulted "host" .text defaultHost
    |>.defaulted "port" .uint16 defaultPort
    |>.defaulted "tls" .bool false
    |>.defaulted "insecure" .bool false
    |>.defaulted "user" Json.Decoder.text.optional none
    |>.defaulted "password" Json.Decoder.text.optional none
    |>.defaulted "address" Json.Decoder.text.optional none
    |>.defaulted "coin" .text defaultCoin
    |>.defaulted "algo" Json.Decoder.text.optional none
    |>.defaulted "poll_interval" .uint64 defaultPollInterval
    |>.defaulted "job_timeout" .uint64 defaultJobTimeout
    |>.defaulted "retry_pause" .uint64 defaultRetryPause
    |>.defaulted "http_timeout" .uint64 defaultHttpTimeout
    |>.defaulted "log_level" LogLevel.decoder defaultLogLevel
    |>.defaulted "log_file" (Json.Decoder.textOf "path string").optional none
    |>.defaulted "log_json" .bool false
    |>.defaulted "generate" Json.Decoder.uint32.optional none

def decoder : Json.Decoder Config := reader.decoder "Config"

def merge (c : Config) (given : Setting → Bool) (file : Config) : Config where
  printConfig := c.printConfig
  configFile := c.configFile
  host := if given .host then c.host else file.host
  port := if given .port then c.port else file.port
  tls := if given .tls then c.tls else file.tls
  insecure := if given .insecure then c.insecure else file.insecure
  user := if given .user then c.user else file.user
  password := if given .password then c.password else file.password
  address := if given .address then c.address else file.address
  coin := if given .coin then c.coin else file.coin
  algorithm := if given .algorithm then c.algorithm else file.algorithm
  pollInterval := if given .pollInterval then c.pollInterval else file.pollInterval
  jobTimeout := if given .jobTimeout then c.jobTimeout else file.jobTimeout
  retryPause := if given .retryPause then c.retryPause else file.retryPause
  httpTimeout := if given .httpTimeout then c.httpTimeout else file.httpTimeout
  logLevel := if given .logLevel then c.logLevel else file.logLevel
  logFile := if given .logFile then c.logFile else file.logFile
  logJson := if given .logJson then c.logJson else file.logJson
  generate := if given .generate then c.generate else file.generate

def endpoint (c : Config) : Endpoint := .root c.host c.port c.tls

def credentials (c : Config) : Option Credentials :=
  c.user.map fun user => ⟨user, c.password.getD ""⟩

def miningAddress (c : Config) : Except Error MiningAddress :=
  match c.address with
  | some text => MiningAddress.parse text
  | none => .error (.config .addressRequired)

def clientSettings (c : Config) : Except Error ClientSettings := do
  let address ← c.miningAddress
  let coin ← Coin.ofName c.coin
  pure { ClientSettings.create c.endpoint address with
    credentials := c.credentials
    coin
    algorithm := c.algorithm
    pollInterval := c.pollInterval.toNat
    jobTimeout := c.jobTimeout.toNat
    retryPause := c.retryPause.toNat }

end Config

end SoloMining
