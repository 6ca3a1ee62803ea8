import SoloMining.Payee
import SoloMining.Proofs.Text.Blank

/-! The grammar of address arguments. An argument is read as coin, dev address and mining address
exactly if these, written with their separators, make up the argument without its surrounding
blanks, and no separator stands where it would be read otherwise. -/
namespace SoloMining

namespace MiningAddress

def joined (separator : Char) : Option (List Char) → List Char → List Char
  | some before, after => before ++ separator :: after
  | none, after => after

/-- The parts can be told apart once they are joined. -/
structure WellFormed (address : MiningAddress) : Prop where
  mining : address.mining ≠ ""
  coin : ∀ coin, address.coin = some coin → coin ≠ "" ∧ '/' ∉ coin.toList
  dev : ∀ dev, address.dev = some dev → dev ≠ "" ∧ ':' ∉ dev.toList
  coinless : address.coin = none → '/' ∉ address.render.toList
  devless : address.dev = none → ':' ∉ address.mining.toList

theorem splitOptional_eq (separator : Char) (cs : List Char) (before : Option (List Char))
    (after : List Char) :
    splitOptional separator cs = (before,after) ↔ cs = joined separator before after ∧
      (∀ part, before = some part → separator ∉ part) ∧ (before = none → separator ∉ after) := by
  rw [splitOptional]
  cases found : Text.splitFirst separator cs with
  | none =>
    have absent := (Text.splitFirst_eq_none separator cs).mp found
    cases before with
    | none =>
      simp only [Prod.mk.injEq,true_and,joined,reduceCtorEq,false_implies,implies_true,
        forall_const]
      constructor
      · intro same
        exact ⟨same,same ▸ absent⟩
      · exact And.left
    | some part =>
      simp only [Prod.mk.injEq,reduceCtorEq,false_and,false_iff,not_and,joined]
      intro whole
      exact absurd (whole ▸ by simp) absent
  | some parts =>
    obtain ⟨first,rest⟩ := parts
    obtain ⟨whole,apart⟩ := (Text.splitFirst_eq_some separator cs first rest).mp found
    cases before with
    | none =>
      simp only [Prod.mk.injEq,reduceCtorEq,false_and,false_iff,not_and,joined]
      intro same _ absent
      exact absent trivial (same ▸ whole ▸ by simp)
    | some part =>
      have split := Text.splitFirst_eq_some separator cs part after
      rw [found] at split
      simpa [joined] using split

theorem toList_render (address : MiningAddress) : address.render.toList =
    joined '/' (address.coin.map String.toList)
      (joined ':' (address.dev.map String.toList) address.mining.toList) := by
  obtain ⟨coin,dev,mining⟩ := address
  cases coin <;> cases dev <;> simp [render,joined]

private theorem ofList_eq (chars : List Char) (text : String) :
    String.ofList chars = text ↔ chars = text.toList := by
  constructor
  · intro same
    rw [← same,String.toList_ofList]
  · intro same
    rw [same,String.ofList_toList]

private theorem map_ofList_eq (part : Option (List Char)) (text : Option String) :
    part.map String.ofList = text ↔ part = text.map String.toList := by
  cases part with
  | none => cases text <;> simp
  | some chars => cases text <;> simp [ofList_eq]

private theorem map_toList_eq_empty (text : Option String) :
    text.map String.toList = some [] ↔ text = some "" := by
  simp [Option.map_eq_some_iff]

theorem ofChars_eq_ok (cs : List Char) (address : MiningAddress) :
    ofChars cs = .ok address ↔ ∃ rest,
      splitOptional '/' (Text.trimChars cs) = (address.coin.map String.toList,rest) ∧
      splitOptional ':' rest = (address.dev.map String.toList,address.mining.toList) ∧
      address.mining ≠ "" ∧ address.coin ≠ some "" ∧ address.dev ≠ some "" := by
  obtain ⟨coin,dev,mining⟩ := address
  rw [ofChars]
  cases first : splitOptional '/' (Text.trimChars cs) with
  | mk coinPart rest =>
    dsimp only
    cases second : splitOptional ':' rest with
    | mk devPart miningPart =>
      have spelt : (⟨coinPart.map String.ofList,devPart.map String.ofList,
          String.ofList miningPart⟩ : MiningAddress) = ⟨coin,dev,mining⟩ ↔
          coinPart = coin.map String.toList ∧ devPart = dev.map String.toList ∧
            miningPart = mining.toList := by
        rw [mk.injEq,map_ofList_eq,map_ofList_eq,ofList_eq]
      constructor
      · intro read
        dsimp only at read
        split at read
        next => cases read
        next present =>
          split at read
          next => cases read
          next nonempty =>
            obtain ⟨rfl,rfl,rfl⟩ := spelt.mp (Except.ok.inj read)
            rw [map_toList_eq_empty,map_toList_eq_empty,not_or] at nonempty
            exact ⟨rest,rfl,second,by simpa using present,nonempty⟩
      · intro parts
        obtain ⟨other,opened,rested,present,nonempty⟩ := parts
        obtain ⟨rfl,rfl⟩ := Prod.mk.inj opened
        obtain ⟨rfl,rfl⟩ := Prod.mk.inj (second.symm.trans rested)
        dsimp only
        rw [if_neg (by simpa using present),
          if_neg (by rwa [map_toList_eq_empty,map_toList_eq_empty,not_or])]
        exact congrArg Except.ok (spelt.mpr ⟨rfl,rfl,rfl⟩)

/-- What is read are well-formed parts that, joined, are the argument without blanks around it. -/
theorem parse_eq_ok (text : String) (address : MiningAddress) :
    parse text = .ok address ↔
      Text.Surrounds text.toList address.render.toList ∧ address.WellFormed := by
  rw [parse,ofChars_eq_ok,Text.surrounds_iff,toList_render]
  constructor
  · intro parts
    obtain ⟨rest,opened,rested,mining,coin,dev⟩ := parts
    obtain ⟨whole,coinApart,coinless⟩ := (splitOptional_eq _ _ _ _).mp opened
    obtain ⟨split,devApart,devless⟩ := (splitOptional_eq _ _ _ _).mp rested
    rw [whole,split]
    refine ⟨rfl,mining,?_,?_,?_,?_⟩
    · intro name named
      exact ⟨fun empty => coin (empty ▸ named),coinApart _ (by rw [named]; rfl)⟩
    · intro name named
      exact ⟨fun empty => dev (empty ▸ named),devApart _ (by rw [named]; rfl)⟩
    · intro missing
      have absent := coinless (by rw [missing]; rfl)
      rwa [toList_render,missing,← split]
    · intro missing
      exact devless (by rw [missing]; rfl)
  · intro grammar
    obtain ⟨whole,formed⟩ := grammar
    refine ⟨joined ':' (address.dev.map String.toList) address.mining.toList,?_,?_,
      formed.mining,?_,?_⟩
    · refine (splitOptional_eq _ _ _ _).mpr ⟨whole,?_,?_⟩
      · intro part named
        obtain ⟨name,given,rfl⟩ := Option.map_eq_some_iff.mp named
        exact (formed.coin name given).2
      · intro missing
        have missing := Option.map_eq_none_iff.mp missing
        have absent := formed.coinless missing
        rwa [toList_render,missing] at absent
    · refine (splitOptional_eq _ _ _ _).mpr ⟨rfl,?_,?_⟩
      · intro part named
        obtain ⟨name,given,rfl⟩ := Option.map_eq_some_iff.mp named
        exact (formed.dev name given).2
      · intro missing
        exact formed.devless (Option.map_eq_none_iff.mp missing)
    · intro empty
      exact (formed.coin "" empty).1 rfl
    · intro empty
      exact (formed.dev "" empty).1 rfl

/-- An argument is read as an address exactly if the address is well formed and its written form is
the argument without the blanks around it. So reading undoes writing, and no argument can be read in
two ways. -/
theorem argument_grammar (text : String) (address : MiningAddress) :
    (parse text = .ok address ↔
      Text.Surrounds text.toList address.render.toList ∧ address.WellFormed) ∧
    (address.WellFormed → Text.Bare address.render.toList →
      parse address.render = .ok address) ∧
    (parse text = .ok address →
      ∃! reading, Text.Surrounds text.toList (render reading).toList ∧ reading.WellFormed) := by
  refine ⟨parse_eq_ok text address,?_,?_⟩
  · intro formed bare
    exact (parse_eq_ok _ address).mpr ⟨bare.surrounds,formed⟩
  · intro read
    refine ⟨address,(parse_eq_ok text address).mp read,?_⟩
    intro other grammar
    have reread := (parse_eq_ok text other).mpr grammar
    rw [read] at reread
    exact (Except.ok.inj reread).symm

/-- Both separators recur in the parts behind them. -/
theorem argument_grammar_recurring :
    (⟨some "btc:",some "a/b",":c/d"⟩ : MiningAddress).WellFormed ∧
    Text.Bare "btc:/a/b::c/d".toList ∧
    parse "btc:/a/b::c/d" = .ok ⟨some "btc:",some "a/b",":c/d"⟩ ∧
    parse " btc:/a/b::c/d\n" = .ok ⟨some "btc:",some "a/b",":c/d"⟩ := by
  have formed : (⟨some "btc:",some "a/b",":c/d"⟩ : MiningAddress).WellFormed :=
    ⟨by decide,by simp,by simp,by simp,by simp⟩
  have bare : Text.Bare "btc:/a/b::c/d".toList :=
    ⟨by simp [Text.isBlank],by simp [Text.isBlank]⟩
  have blanks : Text.Surrounds " btc:/a/b::c/d\n".toList "btc:/a/b::c/d".toList :=
    ⟨⟨[' '],['\n'],by decide,by simp [Text.isBlank],by simp [Text.isBlank]⟩,bare⟩
  have written : (⟨some "btc:",some "a/b",":c/d"⟩ : MiningAddress).render = "btc:/a/b::c/d" := by
    decide +kernel
  have reread := (argument_grammar "" _).2.1 formed (written ▸ bare)
  rw [written] at reread
  exact ⟨formed,bare,reread,(argument_grammar _ _).1.mpr ⟨written ▸ blanks,formed⟩⟩

end MiningAddress

end SoloMining
