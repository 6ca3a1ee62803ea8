import SoloMining.Amount
import SoloMining.Base58
import SoloMining.Base64
import SoloMining.Block.Candidate
import SoloMining.Block.Header
import SoloMining.Bytes
import SoloMining.Client.Basic
import SoloMining.Client.Step
import SoloMining.Coin
import SoloMining.Coinbase
import SoloMining.CommandLine.Argument
import SoloMining.CommandLine.Help
import SoloMining.CommandLine.Invocation
import SoloMining.CompactSize
import SoloMining.Config.Basic
import SoloMining.Config.Setting
import SoloMining.Config.Source
import SoloMining.Config.Validation
import SoloMining.Config.Yaml
import SoloMining.Decimal.Reading
import SoloMining.Decimal.Shortest
import SoloMining.Elapsed
import SoloMining.Error
import SoloMining.EventLoop
import SoloMining.Hash
import SoloMining.Hex
import SoloMining.Job
import SoloMining.Json.Basic
import SoloMining.Json.Decoder
import SoloMining.Json.Document
import SoloMining.Json.Printer
import SoloMining.Json.Record
import SoloMining.Launch
import SoloMining.LogLevel
import SoloMining.Main
import SoloMining.Merkle
import SoloMining.Path
import SoloMining.Payee
import SoloMining.Proofs.Address
import SoloMining.Proofs.AddressArgument
import SoloMining.Proofs.Base58
import SoloMining.Proofs.Base64
import SoloMining.Proofs.Block.Acceptance
import SoloMining.Proofs.Block.Candidate
import SoloMining.Proofs.Block.Commitment
import SoloMining.Proofs.Block.DevShare
import SoloMining.Proofs.Block.Fields
import SoloMining.Proofs.Block.Header
import SoloMining.Proofs.Block.Leaves
import SoloMining.Proofs.BoardRecord
import SoloMining.Proofs.Bytes
import SoloMining.Proofs.Client.Accounting
import SoloMining.Proofs.Client.Completion
import SoloMining.Proofs.Client.Gate
import SoloMining.Proofs.Client.InFlight
import SoloMining.Proofs.Client.Numbering
import SoloMining.Proofs.Client.Publication
import SoloMining.Proofs.Client.Reconfiguration
import SoloMining.Proofs.Client.Refresh
import SoloMining.Proofs.Client.Refusal
import SoloMining.Proofs.Client.Rest
import SoloMining.Proofs.Client.Run
import SoloMining.Proofs.Client.Signals
import SoloMining.Proofs.Client.Timeout
import SoloMining.Proofs.Client.Transition
import SoloMining.Proofs.Client.Verdict
import SoloMining.Proofs.Client.Wakeup
import SoloMining.Proofs.Coinbase.Encoding
import SoloMining.Proofs.Coinbase.Payouts
import SoloMining.Proofs.Coinbase.ScriptSig
import SoloMining.Proofs.CommandLine
import SoloMining.Proofs.CompactSize
import SoloMining.Proofs.Config.Precedence
import SoloMining.Proofs.Config.Reload
import SoloMining.Proofs.Config.Validation
import SoloMining.Proofs.DevRounds
import SoloMining.Proofs.Fallible
import SoloMining.Proofs.Hex
import SoloMining.Proofs.Job
import SoloMining.Proofs.Json.Canonical
import SoloMining.Proofs.Json.Decoder
import SoloMining.Proofs.Json.Members
import SoloMining.Proofs.Json.Printer
import SoloMining.Proofs.Merkle
import SoloMining.Proofs.Rpc.Reply
import SoloMining.Proofs.Rpc.Request
import SoloMining.Proofs.Runtime
import SoloMining.Proofs.Target
import SoloMining.Proofs.Template
import SoloMining.Proofs.Text.Radix
import SoloMining.Proofs.Threshold
import SoloMining.Proofs.Tips
import SoloMining.Proofs.Transaction
import SoloMining.Proofs.WrittenWords
import SoloMining.Random.ChaCha
import SoloMining.Random.Dice
import SoloMining.Release
import SoloMining.RewardGauge
import SoloMining.Rpc.Endpoint
import SoloMining.Rpc.Reply
import SoloMining.Rpc.Request
import SoloMining.Rpc.Transport
import SoloMining.Sha256
import SoloMining.Simulation
import SoloMining.Target
import SoloMining.Template
import SoloMining.Text.Blank
import SoloMining.Text.Printable
import SoloMining.Text.Quoted
import SoloMining.Text.Radix
import SoloMining.Text.Split
import SoloMining.Timer
import SoloMining.Transaction
import SoloMining.Url.Authority
import SoloMining.Url.Domain
import SoloMining.Url.Fault
import SoloMining.Url.Ipv4
import SoloMining.Url.Ipv6
import SoloMining.Url.Punycode
import SoloMining.Yaml.Cursor
import SoloMining.Yaml.Decoder
import SoloMining.Yaml.Node
import SoloMining.Yaml.Printer
import SoloMining.Yaml.Scalar
import SoloMining.Yaml.Token
