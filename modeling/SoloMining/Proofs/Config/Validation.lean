import SoloMining.Config.Source
import SoloMining.Proofs.Address
import SoloMining.Proofs.Client.Transition

/-! Validation is enough. Whatever passes it has settings, a client can be made from them, and the scripts
that this client pays are the ones that were looked at. -/
namespace SoloMining

/-- Settings whose addresses can be resolved make a client, and its builder pays those addresses. -/
theorem Client.exists_create (settings : ClientSettings) (payee : Payee)
    (resolves : payee.Resolves settings.address settings.coin) (entropy : UInt64) :
    ∃ client, create settings entropy = .ok client ∧ client.settings = settings ∧
      client.jobs.builder.payee = payee := by
  have resolved := (Payee.resolve_eq_ok _ _ payee).mpr resolves
  have board := (jobBoard_eq_ok settings entropy 0 _).mpr ⟨payee,resolved,rfl⟩
  exact ⟨_,(create_eq_ok settings entropy).mpr ⟨_,board,rfl⟩,rfl,rfl⟩

namespace Config

variable {c : Config} {authority : Endpoint → Except Url.Fault Url.Authority}

/-- Pays whom the address argument names, under the coin that it names or else the configured one. -/
def AsksFor (c : Config) (payee : Payee) : Prop :=
  ∃ text address coin, c.address = some text ∧ MiningAddress.parse text = .ok address ∧
    Coin.ofName c.coin = .ok coin ∧ payee.Resolves address coin

structure Valid (authority : Endpoint → Except Url.Fault Url.Authority) (c : Config) : Prop where
  node : ∃ place, authority c.endpoint = .ok place
  payee : ∃ payee, c.AsksFor payee
  pollInterval : c.pollInterval ≠ 0
  jobTimeout : c.jobTimeout ≠ 0
  retryPause : c.retryPause ≠ 0
  httpTimeout : c.httpTimeout ≠ 0
  password : c.password.isSome → c.user.isSome

theorem miningAddress_eq_ok (c : Config) (address : MiningAddress) :
    c.miningAddress = .ok address ↔
      ∃ text, c.address = some text ∧ MiningAddress.parse text = .ok address := by
  rw [miningAddress]
  cases c.address <;> simp

theorem requireNonzero_eq_ok (name : String) (n : UInt64) (checked : Unit) :
    requireNonzero name n = .ok checked ↔ n ≠ 0 := by
  by_cases zero : n = 0 <;> simp [requireNonzero,zero]

theorem validateUrl_eq_ok (place : Url.Authority) :
    c.validateUrl authority = .ok place ↔ authority c.endpoint = .ok place := by
  rw [validateUrl]
  cases authority c.endpoint <;> simp

theorem validatePayee_eq_ok (payee : Payee) : c.validatePayee = .ok payee ↔ c.AsksFor payee := by
  simp only [validatePayee,bind_eq_ok,miningAddress_eq_ok,Payee.resolve_eq_ok]
  constructor
  · rintro ⟨coin,named,address,⟨text,given,parsed⟩,resolves⟩
    exact ⟨text,address,coin,given,parsed,named,resolves⟩
  · rintro ⟨text,address,coin,given,parsed,named,resolves⟩
    exact ⟨coin,named,address,⟨text,given,parsed⟩,resolves⟩

theorem validateBy_eq_ok : c.validateBy authority = .ok () ↔ c.Valid authority := by
  simp only [validateBy,bind_eq_ok,validateUrl_eq_ok,validatePayee_eq_ok,requireNonzero_eq_ok]
  have paired : (if (c.password.isSome && c.user.isNone) = true then
      Except.error (Error.config .passwordWithoutUser) else .ok ()) = .ok () ↔
      (c.password.isSome → c.user.isSome) := by
    cases c.password <;> cases c.user <;> simp
  rw [paired]
  constructor
  · rintro ⟨place,node,payee,asked,_,poll,_,timeout,_,pause,_,http,password⟩
    exact ⟨⟨place,node⟩,⟨payee,asked⟩,poll,timeout,pause,http,password⟩
  · rintro ⟨⟨place,node⟩,⟨payee,asked⟩,poll,timeout,pause,http,password⟩
    exact ⟨place,node,payee,asked,(),poll,(),timeout,(),pause,(),http,password⟩

structure Equips (c : Config) (settings : ClientSettings) : Prop where
  endpoint : settings.endpoint = c.endpoint
  pollInterval : settings.pollInterval = c.pollInterval.toNat ∧ 0 < settings.pollInterval
  jobTimeout : settings.jobTimeout = c.jobTimeout.toNat ∧ 0 < settings.jobTimeout
  retryPause : settings.retryPause = c.retryPause.toNat ∧ 0 < settings.retryPause
  credentials : settings.credentials.isSome ↔ c.user.isSome
  user : ∀ credentials, settings.credentials = some credentials → c.user = some credentials.user

def Starts (c : Config) : Prop :=
  ∃ settings, c.clientSettings = .ok settings ∧ c.Equips settings ∧
    ∀ entropy, ∃ client, Client.create settings entropy = .ok client ∧
      client.settings = settings ∧ c.AsksFor client.jobs.builder.payee

private theorem positive_of_nonzero (n : UInt64) (nonzero : n ≠ 0) : 0 < n.toNat :=
  Nat.pos_of_ne_zero fun zero => nonzero (UInt64.toNat_inj.mp zero)

theorem Valid.exists_settings (valid : c.Valid authority) (address : MiningAddress) (coin : Coin)
    (addressed : c.miningAddress = .ok address) (named : Coin.ofName c.coin = .ok coin) :
    ∃ settings, c.clientSettings = .ok settings ∧ c.Equips settings ∧
      settings.address = address ∧ settings.coin = coin := by
  simp only [clientSettings,bind_eq_ok,pure_eq_ok]
  refine ⟨_,⟨address,addressed,coin,named,rfl⟩,?_,rfl,rfl⟩
  refine ⟨rfl,⟨rfl,positive_of_nonzero _ valid.pollInterval⟩,
    ⟨rfl,positive_of_nonzero _ valid.jobTimeout⟩,⟨rfl,positive_of_nonzero _ valid.retryPause⟩,
    by simp [credentials],?_⟩
  intro own present
  obtain ⟨user,configured,rfl⟩ := Option.map_eq_some_iff.mp present
  exact configured

theorem Valid.starts (valid : c.Valid authority) : c.Starts := by
  obtain ⟨payee,text,address,coin,given,parsed,named,resolves⟩ := valid.payee
  have addressed := (c.miningAddress_eq_ok address).mpr ⟨text,given,parsed⟩
  -- The settings hold the very address and coin that were resolved for validation.
  obtain ⟨settings,settled,equips,rfl,rfl⟩ := valid.exists_settings address coin addressed named
  refine ⟨settings,settled,equips,?_⟩
  intro entropy
  obtain ⟨client,made,kept,paid⟩ := Client.exists_create settings payee resolves entropy
  exact ⟨client,made,kept,paid ▸ ⟨text,_,_,given,parsed,named,resolves⟩⟩

theorem load_eq_ok (read : String → Except IoFault Bytes) (invocation : CommandLine.Invocation) :
    load read invocation = .ok c ↔ gather read invocation = .ok c ∧ c.validate = .ok () := by
  simp only [load,bind_eq_ok,pure_eq_ok]
  constructor
  · rintro ⟨_,gathered,_,valid,rfl⟩
    exact ⟨gathered,valid⟩
  · rintro ⟨gathered,valid⟩
    exact ⟨c,gathered,(),valid,rfl⟩

/-- However the URL of the node is read: with a configuration that is valid, and so with every one that was
loaded, a client can be made, and it pays the scripts of the address argument. -/
theorem valid_config_starts (c : Config) :
    (∀ authority, c.validateBy authority = .ok () → c.Starts) ∧
    ∀ read invocation, load read invocation = .ok c → c.Starts := by
  have starts (authority) (valid : c.validateBy authority = .ok ()) : c.Starts :=
    (validateBy_eq_ok.mp valid).starts
  refine ⟨starts,?_⟩
  intro read invocation loaded
  exact starts Endpoint.authority ((load_eq_ok read invocation).mp loaded).2

/-- One coin is configured, but the address argument names another. -/
def Sample.prefixed : Config :=
  { default with
    user := some "miner"
    address := some " btc/15fioDrrk36NmHdRCtGTu2TMj6rPXzG3sn:1111111111111111111114oLvT2\n" }

/-- The coin of the prefix is paid, and a user without a password has credentials. -/
theorem valid_config_starts_prefixed : ∃ settings client,
    Sample.prefixed.validateBy Endpoint.authority = .ok () ∧ Sample.prefixed.Starts ∧
    load (fun _ => .error .notFound) ⟨Sample.prefixed,[]⟩ = .ok Sample.prefixed ∧
    Sample.prefixed.clientSettings = .ok settings ∧ settings.credentials.isSome ∧
    Client.create settings 0 = .ok client ∧ client.jobs.builder.payee.coin = .bitcoin ∧
    Coin.bitcoin.Pays "1111111111111111111114oLvT2" client.jobs.builder.payee.mining := by
  obtain ⟨_,valid,_⟩ := exists_ok Sample.prefixed.validate id () (by decide +kernel)
  obtain ⟨_,prefixed,rfl⟩ := exists_ok
    (MiningAddress.parse " btc/15fioDrrk36NmHdRCtGTu2TMj6rPXzG3sn:1111111111111111111114oLvT2\n") id
    ⟨some "btc",some "15fioDrrk36NmHdRCtGTu2TMj6rPXzG3sn","1111111111111111111114oLvT2"⟩
    (by decide +kernel)
  obtain ⟨_,called,rfl⟩ := exists_ok (Coin.ofName "btc") id .bitcoin (by decide +kernel)
  have loaded := (load_eq_ok (fun _ => .error .notFound) ⟨Sample.prefixed,[]⟩).mpr ⟨rfl,valid⟩
  obtain ⟨settings,settled,equips,starts⟩ := (valid_config_starts Sample.prefixed).2 _ _ loaded
  obtain ⟨client,made,_,_,address,_,given,parsed,_,resolves⟩ := starts 0
  cases Option.some.inj given
  cases Except.ok.inj (parsed.symm.trans prefixed)
  have coin := Except.ok.inj ((resolves.named "btc" rfl).symm.trans called)
  exact ⟨settings,client,valid,(valid_config_starts _).1 _ valid,loaded,settled,
    equips.credentials.mpr rfl,made,coin,coin ▸ resolves.mining⟩

end Config

end SoloMining
