import SoloMining.Config.Basic
import SoloMining.Yaml.Decoder
import SoloMining.Yaml.Printer

/-! Configurations in YAML. An empty text is the default configuration. -/
namespace SoloMining.Config

open Yaml in
def ofYamlNode? (n : Yaml.Node) : Option Config := do
  let record ← Record.ofNode? (Setting.all.map Setting.key) n
  some {
    printConfig := false
    configFile := none
    host := ← record.get "host" Decoder.text defaultHost
    port := ← record.get "port" Decoder.uint16 defaultPort
    tls := ← record.get "tls" Decoder.bool false
    insecure := ← record.get "insecure" Decoder.bool false
    user := ← record.get "user" (.optional .text) none
    password := ← record.get "password" (.optional .text) none
    address := ← record.get "address" (.optional .text) none
    coin := ← record.get "coin" Decoder.text defaultCoin
    algorithm := ← record.get "algo" (.optional .text) none
    pollInterval := ← record.get "poll_interval" Decoder.uint64 defaultPollInterval
    jobTimeout := ← record.get "job_timeout" Decoder.uint64 defaultJobTimeout
    retryPause := ← record.get "retry_pause" Decoder.uint64 defaultRetryPause
    httpTimeout := ← record.get "http_timeout" Decoder.uint64 defaultHttpTimeout
    logLevel := ← record.get "log_level" (.choice LogLevel.variants) defaultLogLevel
    logFile := ← record.get "log_file" (.optional .text) none
    logJson := ← record.get "log_json" Decoder.bool false
    generate := ← record.get "generate" (.optional Decoder.uint32) none }

/-- Only the meaning of the written form is kept to: a text that other writers leave plain, or lay out
in a block, may stand between quotes. -/
def toYaml (c : Config) : String := Yaml.writeRecord c.members

def ofYaml? (text : String) : Option Config := do
  match ← Yaml.parse? text with
  | some root => ofYamlNode? root
  | none => some default

end SoloMining.Config
