import SoloMining.Config.Source
import SoloMining.Proofs.CommandLine
import SoloMining.Proofs.Json.Record

/-! Which source a setting is taken from: the command line and the environment come before the file,
and the file before the default. -/
namespace SoloMining.Config

open Json.RecordReader

/-- Each setting of a configuration file is what stands under its key, or else the default. -/
theorem reader_makes (source : Json.Source) (slots : Json.Slots) :
    reader.Makes source slots fun file => ∀ s : Setting,
      (slots.lookup s.key).elim (.ok (default.value s)) (s.decoder source) = .ok (file.value s) := by
  unfold reader
  -- From the last field to the first; what each of them read is then at hand.
  iterate 17 apply Makes.defaulted
  apply makes_start
  intro _ host _ port _ tls _ insecure _ user _ password _ address _ coin _ algorithm _
    pollInterval _ jobTimeout _ retryPause _ httpTimeout _ logLevel _ logFile _ logJson _ generate s
  cases s <;> assumption

theorem decoder_object (source : Json.Source) (members : List (Option String × Json.Document))
    (file : Config) (read : decoder source (.object members) = .ok file) :
    ∃ inner, source.enter = some inner ∧ ∀ s : Setting,
      (members.lookup (some s.key)).elim (.ok (default.value s)) (s.decoder inner) =
        .ok (file.value s) := by
  obtain ⟨inner,slots,entered,built,found⟩ := decoder_made (by unfold reader; decide) read
  refine ⟨inner,entered,fun s => ?_⟩
  rw [← found s.key (by unfold reader; cases s <;> decide)]
  exact reader_makes inner slots file built s

structure Holds (read : String → Except IoFault Bytes) (path : String)
    (members : List (Option String × Json.Document)) (file : Config) : Prop where
  json : Path.extension? path = some "json".toList
  stored : ∃ bytes text, read path = .ok bytes ∧ String.fromUTF8? ⟨bytes.toArray⟩ = some text ∧
    (Json.Document.ofText text).1 = .object members ∧ Json.decodeText decoder text = .ok file

variable {read : String → Except IoFault Bytes} {path : String}
  {members : List (Option String × Json.Document)} {file : Config}

theorem Holds.ofFile (holds : Holds read path members file) : ofFile read path = .ok file := by
  obtain ⟨json,bytes,text,stored,decoded,_,accepted⟩ := holds
  simp [Config.ofFile,ofFileText,stored,decoded,json,accepted]

theorem Holds.value (holds : Holds read path members file) (s : Setting) :
    (members.lookup (some s.key)).elim (.ok (default.value s))
      (s.decoder (.text (Json.maxDepth - 1))) = .ok (file.value s) := by
  obtain ⟨_,bytes,text,_,_,object,accepted⟩ := holds
  have decoded := ((Json.decodeText_eq_ok decoder text file).mp accepted).1
  rw [object] at decoded
  obtain ⟨inner,entered,values⟩ := decoder_object _ members file decoded
  cases entered
  exact values s

inductive Origin (invocation : CommandLine.Invocation)
    (members : List (Option String × Json.Document)) (config : Config) (s : Setting) : Prop
  | commandLine (given : invocation.isGiven s = true)
      (taken : config.value s = invocation.config.value s)
  | file (absent : invocation.isGiven s = false) (doc : Json.Document)
      (found : members.lookup (some s.key) = some doc)
      (taken : s.decoder (.text (Json.maxDepth - 1)) doc = .ok (config.value s))
  | default (absent : invocation.isGiven s = false)
      (missing : members.lookup (some s.key) = none) (taken : config.value s = default.value s)
      (alone : invocation.config.value s = default.value s)

theorem Holds.origin (holds : Holds read path members file) (invocation : CommandLine.Invocation)
    (leads : CommandLine.Invocation.start.Leads invocation) (s : Setting) :
    Origin invocation members (invocation.config.merge invocation.isGiven file) s := by
  have merged := merge_value invocation.config invocation.isGiven file s
  have written := holds.value s
  cases given : invocation.isGiven s with
  | true => exact .commandLine given (by simpa [given] using merged)
  | false =>
    have taken : (invocation.config.merge invocation.isGiven file).value s = file.value s := by
      simpa [given] using merged
    rw [← taken] at written
    cases found : members.lookup (some s.key) with
    | some doc =>
      rw [found] at written
      exact .file given doc found written
    | none =>
      rw [found] at written
      exact .default given found (Except.ok.inj written).symm (leads.value_default s given)

def fileless (c : Config) : Config := { c with configFile := none }

/-- Every setting comes from the command line or the environment if it is given there, else from the
file if the file has it, and else it has its default. Without any setting the file changes nothing. -/
theorem option_precedence (environment : String → Option String) (arguments : List String)
    (invocation : CommandLine.Invocation)
    (parsed : CommandLine.Invocation.parse environment arguments = .ok invocation)
    (named : invocation.config.configFile = some path) (holds : Holds read path members file) :
    ∃ config, gather read invocation = .ok config ∧
      config.printConfig = invocation.config.printConfig ∧
      config.configFile = invocation.config.configFile ∧
      (∀ s, Origin invocation members config s) ∧
      ((∀ s : Setting, members.lookup (some s.key) = none) →
        config = invocation.config ∧
        ∀ bare : CommandLine.Invocation, bare.config = invocation.config.fileless →
          gather read bare = .ok config.fileless) := by
  have leads := CommandLine.Invocation.parse_leads environment arguments invocation parsed
  have origin := holds.origin invocation leads
  refine ⟨invocation.config.merge invocation.isGiven file,?_,rfl,rfl,origin,?_⟩
  · simp only [gather,named,holds.ofFile]
    rfl
  · intro silent
    have same : invocation.config.merge invocation.isGiven file = invocation.config := by
      refine ext_value _ _ rfl rfl fun s => ?_
      cases origin s with
      | commandLine _ taken => exact taken
      | file _ doc found _ => simp [silent s] at found
      | default _ _ taken alone => exact taken.trans alone.symm
    refine ⟨same,?_⟩
    intro bare without
    rw [same]
    simp only [gather,without,fileless]

def Sample.settings : Json :=
  .object [("port",.ofNat 2), ("user",.string "file"), ("host",.string "node"), ("more",.null)]

def Sample.invocation : CommandLine.Invocation where
  config := { default with configFile := some "a.json", port := 1, user := some "miner" }
  given := [.setting .user,.setting .port,.configFile]

theorem Sample.writable : Json.Writable Json.maxDepth Sample.settings := by
  apply Json.Writable.object
  simp only [List.forall_mem_cons]
  exact ⟨(Json.Faithful.ofNat 2 (by decide)).writable,.string _ _,.string _ _,.null _,
    List.forall_mem_nil _⟩

/-- The port is given on the command line, the user in the environment, and the host in the file. -/
theorem option_precedence_sources : ∃ invocation config,
    CommandLine.Invocation.parse (fun name => if name = "RPC_USER" then some "miner" else none)
      ["--config-file","a.json","--port=1"] = .ok invocation ∧
    gather (fun _ => .ok (Hex.utf8 Sample.settings.render)) invocation = .ok config ∧
    config.port = 1 ∧ config.user = some "miner" ∧ config.host = "node" ∧
    config.coin = "raptoreum" := by
  obtain ⟨invocation,parsed,seen⟩ := exists_ok
    (CommandLine.Invocation.parse (fun name => if name = "RPC_USER" then some "miner" else none)
      ["--config-file","a.json","--port=1"])
    (fun invocation => (invocation.config,invocation.given))
    (Sample.invocation.config,Sample.invocation.given) (by decide +kernel)
  have holds : Holds (fun _ => .ok (Hex.utf8 Sample.settings.render)) "a.json"
      [(some "port",.number (some (.integer 2))), (some "user",.string (some "file")),
        (some "host",.string (some "node")), (some "more",.null)]
      { default with port := 2, user := some "file", host := "node" } := by
    refine ⟨by decide +kernel,_,Sample.settings.render,rfl,by decide +kernel,?_,?_⟩
    · rw [Sample.writable.ofText_render]
      rfl
    · exact Sample.writable.decodeText _ _ rfl
  obtain ⟨invocation,given⟩ := invocation
  cases seen
  obtain ⟨config,gathered,_,_,origin,_⟩ := option_precedence _ _ _ parsed rfl holds
  refine ⟨_,config,parsed,gathered,?_,?_,?_,?_⟩
  · cases origin .port with
    | commandLine _ taken => exact taken
    | file absent | default absent => cases absent
  · cases origin .user with
    | commandLine _ taken => exact taken
    | file absent | default absent => cases absent
  · cases origin .host with
    | commandLine given => cases given
    | file _ doc found taken =>
      cases found
      exact (Except.ok.inj taken).symm
    | default _ missing => cases missing
  · cases origin .coin with
    | commandLine given => cases given
    | file _ doc found => cases found
    | default _ _ taken => exact taken

end SoloMining.Config
