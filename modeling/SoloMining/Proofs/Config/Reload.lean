import SoloMining.Proofs.Config.Precedence
import SoloMining.Proofs.Hex
import SoloMining.Proofs.Yaml.Decoder

/-! A configuration that is written and read again is the same, but for what is never written: the
password, and what only the command line can say. -/
namespace SoloMining

open Json Json.Decoder Json.RecordReader

theorem LogLevel.lookup_name (level : LogLevel) : variants.lookup level.name = some level := by
  cases level <;> rfl

theorem LogLevel.decoder_undoes (source : Json.Source) :
    decoder.Undoes (fun level => .string level.name) source :=
  choice_undoes variants name source lookup_name

namespace Setting

def encode : (s : Setting) → s.Value → Json
  | .host | .coin => .string
  | .port => fun n => .ofNat n.toNat
  | .tls | .insecure | .logJson => .bool
  | .user | .password | .address | .algorithm | .logFile => .ofOption .string
  | .pollInterval | .jobTimeout | .retryPause | .httpTimeout => fun n => .ofNat n.toNat
  | .logLevel => fun level => .string level.name
  | .generate => .ofOption fun n => .ofNat n.toNat

def written : List Setting := all.filter (· ≠ .password)

theorem decoder_undoes (s : Setting) (source : Json.Source) : s.decoder.Undoes s.encode source := by
  have optionalText (expected : String) :
      (Decoder.textOf expected).optional.Undoes (Json.ofOption .string) source :=
    (text_undoes expected source).optional (by simp [Json.toDocument])
  cases s with
  | host | coin => exact text_undoes _ source
  | port => exact uint16_undoes source
  | tls | insecure | logJson => exact bool_undoes source
  | user | password | address | algorithm | logFile => exact optionalText _
  | pollInterval | jobTimeout | retryPause | httpTimeout => exact uint64_undoes source
  | logLevel => exact LogLevel.decoder_undoes source
  | generate => exact (uint32_undoes source).optional (by simp [Json.toDocument,Json.ofNat])

theorem encode_flat (s : Setting) (v : s.Value) : (s.encode v).Flat := by
  cases s with
  | user | password | address | algorithm | logFile | generate => cases v <;> trivial
  | _ => trivial

theorem encode_faithful {depth : Nat} (s : Setting) (v : s.Value) : Faithful depth (s.encode v) := by
  cases s with
  | host | coin | logLevel => exact .string _
  | port =>
    have small := UInt16.toNat_lt v
    exact .ofNat _ (by omega)
  | tls | insecure | logJson => exact .bool _
  | user | password | address | algorithm | logFile => exact .ofOption .string _
  | pollInterval | jobTimeout | retryPause | httpTimeout => exact .ofNat _ (UInt64.toNat_lt v)
  | generate =>
    refine .ofOption (fun n => ?_) _
    have small := n.toNat_lt
    exact .ofNat _ (by omega)

theorem key_word (s : Setting) : Yaml.Word s.key.toList := by
  constructor
  · cases s <;> exact ⟨_,_,rfl,by decide,by decide⟩
  · intro c inside
    have listed : s.key.toList.all (fun c => c.isAlphanum || c == '_') = true := by
      cases s <;> decide
    have plain := List.all_eq_true.mp listed c inside
    simp only [Bool.or_eq_true,beq_iff_eq] at plain
    rw [Yaml.isPlainChar_iff]
    exact plain.imp_right fun underscore => by simp [underscore]

theorem key_short (s : Setting) : s.key.toList.length ≤ 1024 := by
  cases s <;> decide

theorem fillsLine (s : Setting) (v : s.Value) : Yaml.FillsLine (s.key,s.encode v) := by
  refine ⟨s.key_word,s.key_short,?_⟩
  cases s with
  | host | coin | logLevel => exact .string _
  | port | pollInterval | jobTimeout | retryPause | httpTimeout => exact .count _
  | tls | insecure | logJson => exact .bool _
  | user | password | address | algorithm | logFile =>
    cases v with
    | none => exact .null
    | some text => exact .string text
  | generate =>
    cases v with
    | none => exact .null
    | some n => exact .count n.toNat

end Setting

namespace Config

def reloaded (c : Config) : Config :=
  { c with printConfig := false, configFile := none, password := none }

theorem members_eq (c : Config) :
    c.members = Setting.written.map fun s => (s.key,s.encode (c.value s)) := rfl

theorem reader_serves (c : Config) (source : Json.Source) :
    reader.Serves source (written c.members) c.reloaded := by
  exact serves_start (Config.mk false none) _ _
    |>.member (Setting.decoder_undoes .host _) c.host rfl
    |>.member (Setting.decoder_undoes .port _) c.port rfl
    |>.member (Setting.decoder_undoes .tls _) c.tls rfl
    |>.member (Setting.decoder_undoes .insecure _) c.insecure rfl
    |>.member (Setting.decoder_undoes .user _) c.user rfl
    |>.add none rfl
    |>.member (Setting.decoder_undoes .address _) c.address rfl
    |>.member (Setting.decoder_undoes .coin _) c.coin rfl
    |>.member (Setting.decoder_undoes .algorithm _) c.algorithm rfl
    |>.member (Setting.decoder_undoes .pollInterval _) c.pollInterval rfl
    |>.member (Setting.decoder_undoes .jobTimeout _) c.jobTimeout rfl
    |>.member (Setting.decoder_undoes .retryPause _) c.retryPause rfl
    |>.member (Setting.decoder_undoes .httpTimeout _) c.httpTimeout rfl
    |>.member (Setting.decoder_undoes .logLevel _) c.logLevel rfl
    |>.member (Setting.decoder_undoes .logFile _) c.logFile rfl
    |>.member (Setting.decoder_undoes .logJson _) c.logJson rfl
    |>.member (Setting.decoder_undoes .generate _) c.generate rfl

theorem members_flat (c : Config) : ∀ member ∈ c.members, member.2.Flat := by
  rw [members_eq]
  exact List.forall_mem_map.mpr fun s _ => s.encode_flat _

theorem members_faithful {depth : Nat} (c : Config) :
    ∀ member ∈ c.members, Faithful depth member.2 := by
  rw [members_eq]
  exact List.forall_mem_map.mpr fun s _ => s.encode_faithful _

theorem members_keys (c : Config) : c.members.map Prod.fst = Setting.written.map Setting.key := rfl

theorem members_known (c : Config) : c.members.map Prod.fst ⊆ reader.fields.map Field.name := by
  rw [members_keys]
  decide

theorem decodeValue_toJson (c : Config) : decodeValue decoder c.toJson = .ok c.reloaded :=
  (c.reader_serves .value).decoder_ofMembers (by unfold reader; decide) "Config" rfl c.members_known

theorem decodeText_tells (c : Config) {text : String} (tells : Tells text c.toJson) :
    decodeText decoder text = .ok c.reloaded :=
  (c.reader_serves _).decodeText (by unfold reader; decide) "Config" c.members_known c.members_flat
    tells

theorem tells_members (c : Config) : Tells (Json.object c.members).render c.toJson := by
  have distinct : (c.members.map Prod.fst).Nodup := by
    rw [members_keys]
    decide
  exact (Spells.declared distinct c.members_faithful).tells_render

private theorem bind_given {α β : Type} {x : Option α} {f : α → Option β} {a : α} {result : β}
    (given : x = some a) (rest : f a = some result) : x >>= f = some result := by
  rw [given]
  exact rest

theorem ofYamlNode?_members (c : Config) :
    ofYamlNode? (.mapping none (c.members.map Yaml.entryOf)) = some c.reloaded := by
  have distinct : (c.members.map Prod.fst).Nodup := by
    rw [members_keys]
    decide
  have text := Yaml.Decoder.text_undoes
  have optionalText := text.optional Yaml.Decoder.isNull_string
  have number := Yaml.Decoder.uint64_undoes
  have flag := Yaml.Decoder.bool_undoes
  have level : (Yaml.Decoder.choice LogLevel.variants).Undoes fun level => .string level.name :=
    Yaml.Decoder.choice_undoes _ _ LogLevel.lookup_name
  have count := Yaml.Decoder.uint32_undoes.optional fun n => Yaml.Decoder.isNull_ofNat n.toNat
  refine bind_given (Yaml.Record.ofNode?_mapping _ _ distinct) ?_
  refine bind_given (text.get _ c.host rfl) ?_
  refine bind_given (Yaml.Decoder.uint16_undoes.get _ c.port rfl) ?_
  refine bind_given (flag.get _ c.tls rfl) ?_
  refine bind_given (flag.get _ c.insecure rfl) ?_
  refine bind_given (optionalText.get _ c.user rfl) ?_
  refine bind_given (Yaml.Record.get_missing _ none rfl) ?_
  refine bind_given (optionalText.get _ c.address rfl) ?_
  refine bind_given (text.get _ c.coin rfl) ?_
  refine bind_given (optionalText.get _ c.algorithm rfl) ?_
  refine bind_given (number.get _ c.pollInterval rfl) ?_
  refine bind_given (number.get _ c.jobTimeout rfl) ?_
  refine bind_given (number.get _ c.retryPause rfl) ?_
  refine bind_given (number.get _ c.httpTimeout rfl) ?_
  refine bind_given (level.get _ c.logLevel rfl) ?_
  refine bind_given (optionalText.get _ c.logFile rfl) ?_
  refine bind_given (flag.get _ c.logJson rfl) ?_
  refine bind_given (count.get _ c.generate rfl) ?_
  rfl

theorem ofYaml?_toYaml (c : Config) : ofYaml? c.toYaml = some c.reloaded := by
  have fills : ∀ member ∈ c.members, Yaml.FillsLine member := by
    rw [members_eq]
    exact List.forall_mem_map.mpr fun s _ => s.fillsLine _
  have parsed : Yaml.parse? c.toYaml = some (some (.mapping none (c.members.map Yaml.entryOf))) :=
    Yaml.parse?_writeRecord _ _ fills
  rw [ofYaml?,parsed]
  exact c.ofYamlNode?_members

/-- Nothing that is written depends on the password. -/
theorem members_eq_of_value (c other : Config)
    (agree : ∀ s : Setting, s ≠ .password → c.value s = other.value s) :
    c.members = other.members := by
  rw [members_eq,members_eq]
  apply List.map_congr_left
  intro s present
  rw [agree s (of_decide_eq_true (List.mem_filter.mp present).2)]

inductive StoredIn (c : Config) (path text : String) : Prop
  | json (named : Path.extension? path = some "json".toList) (tells : Tells text c.toJson)
  | yaml (named : Path.extension? path ≠ some "json".toList) (printed : text = c.toYaml)

theorem StoredIn.ofFileText {c : Config} {path text : String} (stored : c.StoredIn path text) :
    ofFileText path text = .ok c.reloaded := by
  cases stored with
  | json named tells =>
    rw [Config.ofFileText,if_pos (beq_iff_eq.mpr named),c.decodeText_tells tells]
  | yaml named printed =>
    rw [Config.ofFileText,if_neg (mt beq_iff_eq.mp named),printed,c.ofYaml?_toYaml]

structure Restores (merged c : Config) : Prop where
  kept : ∀ s : Setting, s ≠ .password → merged.value s = c.value s
  secret : merged.password = none

theorem reloaded_restores (c : Config) : c.reloaded.Restores c := by
  refine ⟨fun s shown => ?_,rfl⟩
  cases s <;> first | rfl | exact absurd rfl shown

/-- Where nothing is given but the file, the file decides everything. -/
theorem Restores.merge {file c : Config} (restores : file.Restores c) (given : Setting → Bool)
    (nothing : ∀ s, given s = false) (own : Config) : (own.merge given file).Restores c := by
  have taken (s : Setting) : (own.merge given file).value s = file.value s := by
    rw [merge_value,nothing s]
    rfl
  exact ⟨fun s shown => (taken s).trans (restores.kept s shown),(taken .password).trans restores.secret⟩

/-- A written configuration is read again without its password, on which nothing that is written
depends; a file of it restores every other setting of a command line that gives none. -/
theorem printed_config_reloads (c : Config) :
    decodeValue decoder c.toJson = .ok c.reloaded ∧
    (∀ text, Tells text c.toJson → decodeText decoder text = .ok c.reloaded) ∧
    ofYaml? c.toYaml = some c.reloaded ∧
    Tells (Json.object c.members).render c.toJson ∧
    (∀ other : Config, (∀ s : Setting, s ≠ .password → c.value s = other.value s) →
      c.toJson = other.toJson ∧ c.toYaml = other.toYaml) ∧
    ∀ (read : String → Except IoFault Bytes) (invocation : CommandLine.Invocation)
      (path text : String), invocation.config.configFile = some path →
      (∀ s, invocation.isGiven s = false) → read path = .ok (Hex.utf8 text) →
      c.StoredIn path text →
      ∃ merged, gather read invocation = .ok merged ∧ merged.Restores c ∧
        merged.printConfig = invocation.config.printConfig ∧ merged.configFile = some path := by
  refine ⟨c.decodeValue_toJson,fun _ => c.decodeText_tells,c.ofYaml?_toYaml,c.tells_members,?_,?_⟩
  · intro other agree
    have same := members_eq_of_value c other agree
    exact ⟨by rw [toJson,same,toJson],by rw [toYaml,same,toYaml]⟩
  · intro read invocation path text named nothing written stored
    have file : ofFile read path = .ok c.reloaded := by
      simp only [ofFile,written,Hex.fromUTF8?_utf8,stored.ofFileText]
    refine ⟨invocation.config.merge invocation.isGiven c.reloaded,?_,
      c.reloaded_restores.merge _ nothing _,rfl,named⟩
    simp only [gather,named,file]
    rfl

/-- Unusual settings, some of which could be taken for something else. -/
def Sample.unusual : Config where
  printConfig := true
  configFile := some "old.json"
  host := "# not a comment"
  port := 65535
  tls := true
  insecure := false
  user := some "it's \"me\"\n"
  password := some "hunter2"
  address := some "null"
  coin := ""
  algorithm := some "1.5"
  pollInterval := 18446744073709551615
  jobTimeout := 0
  retryPause := 10
  httpTimeout := 16
  logLevel := .trace
  logFile := some "/var/log/miner: 1"
  logJson := true
  generate := some 4294967295

def Sample.reprinting (path : String) : CommandLine.Invocation where
  config := { default with printConfig := true, configFile := some path }
  given := [.configFile,.printConfig]

theorem Sample.reprinting_bare (path : String) (s : Setting) :
    (reprinting path).isGiven s = false := by
  cases s <;> rfl

/-- The command line names a file and asks for nothing else but to print what was read. In YAML the
file is what was printed. -/
theorem printed_config_reloads_unusual : ∃ invocation merged again,
    CommandLine.Invocation.parse (fun _ => none) ["--print-config","--config-file","a.json"] =
      .ok invocation ∧
    gather (fun _ => .ok (Hex.utf8 (Json.object Sample.unusual.members).render)) invocation =
      .ok merged ∧
    merged.user = some "it's \"me\"\n" ∧ merged.address = some "null" ∧ merged.password = none ∧
    gather (fun _ => .ok (Hex.utf8 Sample.unusual.toYaml)) (Sample.reprinting "a.yaml") =
      .ok again ∧
    again.user = some "it's \"me\"\n" ∧ again.host = "# not a comment" ∧ again.password = none ∧
    Sample.unusual.toYaml = { Sample.unusual with password := some "swordfish" }.toYaml := by
  obtain ⟨invocation,parsed,seen⟩ := exists_ok
    (CommandLine.Invocation.parse (fun _ => none) ["--print-config","--config-file","a.json"])
    (fun invocation => (invocation.config,invocation.given))
    ((Sample.reprinting "a.json").config,(Sample.reprinting "a.json").given) (by decide +kernel)
  obtain ⟨invocation,given⟩ := invocation
  cases seen
  obtain ⟨_,_,_,told,secret,restored⟩ := printed_config_reloads Sample.unusual
  obtain ⟨merged,gathered,restores,_,_⟩ := restored (fun _ => .ok (Hex.utf8 _))
    (Sample.reprinting "a.json") "a.json" _ rfl (Sample.reprinting_bare _) rfl
    (.json (by decide +kernel) told)
  obtain ⟨again,regathered,renews,_,_⟩ := restored (fun _ => .ok (Hex.utf8 _))
    (Sample.reprinting "a.yaml") "a.yaml" _ rfl (Sample.reprinting_bare _) rfl
    (.yaml (by decide +kernel) rfl)
  have hidden := (secret { Sample.unusual with password := some "swordfish" } (by
    intro s shown
    cases s <;> first | rfl | exact absurd rfl shown)).2
  exact ⟨_,merged,again,parsed,gathered,restores.kept .user (by decide),
    restores.kept .address (by decide),restores.secret,regathered,renews.kept .user (by decide),
    renews.kept .host (by decide),renews.secret,hidden⟩

end Config

end SoloMining
