import SoloMining.Payee
import SoloMining.Proofs.Base58
import Mathlib.Data.List.Forall2

/-! Addresses of coins. A text is an address of a coin exactly if it is the Base58Check form of one
of the coin's version bytes and a 20-byte hash, and the version byte tells the script and the
coin. -/
namespace SoloMining

namespace Coin

inductive Locks (coin : Coin) (version : UInt8) (hash : Bytes) : Script → Prop
  | keyHash (known : version ∈ coin.keyHashVersions) (size : hash.length = 20) :
      Locks coin version hash ([0x76, 0xA9, 0x14] ++ hash ++ [0x88, 0xAC])
  | scriptHash (known : version ∈ coin.scriptHashVersions) (size : hash.length = 20) :
      Locks coin version hash ([0xA9, 0x14] ++ hash ++ [0x87])

def Pays (coin : Coin) (text : String) (script : Script) : Prop :=
  ∃ version hash, coin.Locks version hash script ∧ Base58.Encodes text (version :: hash)

def versions (coin : Coin) : List UInt8 := coin.keyHashVersions ++ coin.scriptHashVersions

variable {coin other : Coin} {version : UInt8} {hash : Bytes} {script otherScript : Script}

theorem versions_apart (known : version ∈ coin.versions) (also : version ∈ other.versions) :
    coin = other := by
  have apart : ∀ v ∈ raptoreum.versions, v ∉ bitcoin.versions := by decide +kernel
  cases coin with
  | raptoreum =>
    cases other with
    | raptoreum => rfl
    | bitcoin => exact absurd also (apart version known)
  | bitcoin =>
    cases other with
    | raptoreum => exact absurd known (apart version also)
    | bitcoin => rfl

theorem not_keyHash (known : version ∈ coin.scriptHashVersions) :
    version ∉ coin.keyHashVersions := by
  intro also
  have distinct : coin.versions.Nodup := by cases coin <;> decide
  exact List.disjoint_of_nodup_append distinct also known

theorem Locks.version_mem (locks : coin.Locks version hash script) : version ∈ coin.versions := by
  cases locks with
  | keyHash known => exact List.mem_append_left _ known
  | scriptHash known => exact List.mem_append_right _ known

theorem scriptOf_eq_some :
    hash.length = 20 ∧ coin.scriptOf version hash = some script ↔
      coin.Locks version hash script := by
  constructor
  · rintro ⟨size,found⟩
    rw [scriptOf] at found
    split at found
    next known =>
      cases found
      exact .keyHash (List.contains_iff_mem.mp known) size
    next =>
      split at found
      next known =>
        cases found
        exact .scriptHash (List.contains_iff_mem.mp known) size
      next => cases found
  · intro locks
    cases locks with
    | keyHash known size =>
      refine ⟨size,?_⟩
      rw [scriptOf,if_pos (List.contains_iff_mem.mpr known)]
      rfl
    | scriptHash known size =>
      have other := not_keyHash known
      refine ⟨size,?_⟩
      rw [scriptOf,if_neg (mt List.contains_iff_mem.mp other),
        if_pos (List.contains_iff_mem.mpr known)]
      rfl

theorem scriptForAddress_eq_ok (text : String) :
    coin.scriptForAddress text = .ok script ↔ coin.Pays text script := by
  rw [scriptForAddress]
  cases read : Base58.decodeCheck text with
  | error fault =>
    simp only [reduceCtorEq,false_iff]
    rintro ⟨version,hash,_,encodes⟩
    rw [(Base58.decodeCheck_eq_ok text _).mpr encodes] at read
    cases read
  | ok payload =>
    have spelt := (Base58.decodeCheck_eq_ok text payload).mp read
    -- The payload is the only one that the text encodes.
    have unique (version : UInt8) (hash : Bytes) (encodes : Base58.Encodes text (version :: hash)) :
        payload = version :: hash := by
      have reread := (Base58.decodeCheck_eq_ok text _).mpr encodes
      exact Except.ok.inj (read.symm.trans reread)
    constructor
    · intro accepted
      cases payload with
      | nil => cases accepted
      | cons version hash =>
        dsimp only at accepted
        split at accepted
        next size =>
          split at accepted
          next found known =>
            cases accepted
            exact ⟨version,hash,scriptOf_eq_some.mp ⟨size,known⟩,spelt⟩
          next => cases accepted
        next => cases accepted
    · rintro ⟨version,hash,locks,encodes⟩
      obtain ⟨size,found⟩ := scriptOf_eq_some.mpr locks
      rw [unique version hash encodes]
      dsimp only
      rw [if_pos size,found]

theorem Pays.coin_unique {text : String} (pays : coin.Pays text script)
    (also : other.Pays text otherScript) : coin = other := by
  obtain ⟨version,hash,locks,encodes⟩ := pays
  obtain ⟨otherVersion,otherHash,otherLocks,otherEncodes⟩ := also
  have read := (Base58.decodeCheck_eq_ok text _).mpr encodes
  have reread := (Base58.decodeCheck_eq_ok text _).mpr otherEncodes
  cases Except.ok.inj (read.symm.trans reread)
  exact versions_apart locks.version_mem otherLocks.version_mem

/-- A coin accepts the Base58Check forms of its version bytes with 20-byte hashes and nothing else,
each for the script of its version, and no text is accepted by two coins. -/
theorem addresses_exact (coin : Coin) :
    (∀ text script, coin.scriptForAddress text = .ok script ↔ ∃ version hash,
      coin.Locks version hash script ∧ text = Base58.encodeCheck (version :: hash)) ∧
    (∀ version hash, hash.length = 20 →
      (version ∈ coin.keyHashVersions →
        coin.scriptForAddress (Base58.encodeCheck (version :: hash)) =
          .ok ([0x76, 0xA9, 0x14] ++ hash ++ [0x88, 0xAC])) ∧
      (version ∈ coin.scriptHashVersions →
        coin.scriptForAddress (Base58.encodeCheck (version :: hash)) =
          .ok ([0xA9, 0x14] ++ hash ++ [0x87]))) ∧
    (∀ payload, Base58.Encodes (Base58.encodeCheck payload) payload) ∧
    ∀ other text script otherScript, coin.scriptForAddress text = .ok script →
      other.scriptForAddress text = .ok otherScript → coin = other := by
  have encodes (payload : Bytes) : Base58.Encodes (Base58.encodeCheck payload) payload :=
    (Base58.encodes_iff _ payload).mpr rfl
  have written (version : UInt8) (hash : Bytes) (script : Script)
      (locks : coin.Locks version hash script) :
      coin.scriptForAddress (Base58.encodeCheck (version :: hash)) = .ok script :=
    (scriptForAddress_eq_ok _).mpr ⟨version,hash,locks,encodes _⟩
  refine ⟨?_,?_,encodes,?_⟩
  · intro text script
    rw [scriptForAddress_eq_ok]
    constructor
    · rintro ⟨version,hash,locks,spelt⟩
      exact ⟨version,hash,locks,((Base58.encodes_iff _ _).mp spelt).symm⟩
    · rintro ⟨version,hash,locks,rfl⟩
      exact ⟨version,hash,locks,encodes _⟩
  · intro version hash size
    exact ⟨fun known => written version hash _ (.keyHash known size),
      fun known => written version hash _ (.scriptHash known size)⟩
  · intro other text script otherScript accepted also
    exact ((scriptForAddress_eq_ok text).mp accepted).coin_unique
      ((scriptForAddress_eq_ok text).mp also)

/-- The version and all bytes of the hash are zero, and a text of the other kind stands beside
it. -/
theorem addresses_exact_zeros :
    Base58.encodeCheck (0 :: List.replicate 20 0) = "1111111111111111111114oLvT2" ∧
    Coin.bitcoin.scriptForAddress "1111111111111111111114oLvT2" =
      .ok ([0x76, 0xA9, 0x14] ++ List.replicate 20 0 ++ [0x88, 0xAC]) ∧
    (∀ script, Coin.raptoreum.scriptForAddress "1111111111111111111114oLvT2" ≠ .ok script) ∧
    Coin.raptoreum.scriptForAddress "7Txtgp4EGu7Ug2mro1RFj1qhymjtZGGYoM" =
      .ok ([0xA9, 0x14] ++ List.replicate 20 17 ++ [0x87]) := by
  obtain ⟨_,written,_,apart⟩ := addresses_exact .bitcoin
  have zeros : Base58.encodeCheck (0 :: List.replicate 20 0) = "1111111111111111111114oLvT2" := by
    decide +kernel
  have seventeens : Base58.encodeCheck (16 :: List.replicate 20 17) =
      "7Txtgp4EGu7Ug2mro1RFj1qhymjtZGGYoM" := by decide +kernel
  have accepted := (written 0 (List.replicate 20 0) (by decide)).1 (by decide)
  have others :=
    ((addresses_exact .raptoreum).2.1 16 (List.replicate 20 17) (by decide)).2 (by decide)
  rw [zeros] at accepted
  rw [seventeens] at others
  refine ⟨zeros,accepted,?_,others⟩
  intro script also
  cases apart .raptoreum _ _ script accepted also

end Coin

namespace Payee

structure Resolves (payee : Payee) (address : MiningAddress) (defaultCoin : Coin) : Prop where
  named : ∀ name, address.coin = some name → Coin.ofName name = .ok payee.coin
  unnamed : address.coin = none → payee.coin = defaultCoin
  mining : payee.coin.Pays address.mining payee.mining
  dev : List.Forall₂ payee.coin.Pays address.dev.toList payee.dev.toList

private theorem scripts_eq_ok (coin : Coin) (address : MiningAddress) (payee : Payee) :
    (do
      let mining ← coin.scriptForAddress address.mining
      match address.dev with
      | some dev => do
        let script ← coin.scriptForAddress dev
        pure ⟨coin,mining,some script⟩
      | none => pure ⟨coin,mining,none⟩) = Except.ok payee ↔
    payee.coin = coin ∧ coin.Pays address.mining payee.mining ∧
      List.Forall₂ coin.Pays address.dev.toList payee.dev.toList := by
  obtain ⟨payeeCoin,mining,shared⟩ := payee
  cases given : address.dev with
  | none =>
    simp only [bind_eq_ok,pure_eq_ok,Coin.scriptForAddress_eq_ok,mk.injEq]
    constructor
    · rintro ⟨_,paid,rfl,rfl,rfl⟩
      exact ⟨rfl,paid,.nil⟩
    · rintro ⟨rfl,paid,unshared⟩
      cases shared with
      | none => exact ⟨mining,paid,rfl,rfl,rfl⟩
      | some script => cases unshared
  | some dev =>
    simp only [bind_eq_ok,pure_eq_ok,Coin.scriptForAddress_eq_ok,mk.injEq]
    constructor
    · rintro ⟨_,paid,script,pays,rfl,rfl,rfl⟩
      exact ⟨rfl,paid,.cons pays .nil⟩
    · rintro ⟨rfl,paid,sharing⟩
      cases shared with
      | none => cases sharing
      | some script =>
        obtain ⟨pays,_⟩ := List.forall₂_cons.mp sharing
        exact ⟨mining,paid,script,pays,rfl,rfl,rfl⟩

theorem resolve_eq_ok (address : MiningAddress) (defaultCoin : Coin) (payee : Payee) :
    resolve address defaultCoin = .ok payee ↔ payee.Resolves address defaultCoin := by
  unfold resolve
  cases given : address.coin with
  | none =>
    refine (scripts_eq_ok defaultCoin address payee).trans ?_
    constructor
    · rintro ⟨rfl,mining,dev⟩
      exact ⟨by simp [given],fun _ => rfl,mining,dev⟩
    · rintro ⟨_,unnamed,mining,dev⟩
      obtain rfl := unnamed given
      exact ⟨rfl,mining,dev⟩
  | some name =>
    refine (bind_eq_ok (Coin.ofName name) _ payee).trans ?_
    constructor
    · rintro ⟨coin,found,scripts⟩
      obtain ⟨rfl,mining,dev⟩ := (scripts_eq_ok coin address payee).mp scripts
      exact ⟨by simpa [given] using found,by simp [given],mining,dev⟩
    · rintro ⟨named,_,mining,dev⟩
      exact ⟨payee.coin,named name given,(scripts_eq_ok _ address payee).mpr ⟨rfl,mining,dev⟩⟩

end Payee

end SoloMining
