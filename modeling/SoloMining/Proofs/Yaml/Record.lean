import SoloMining.Proofs.Yaml.Scanner
import SoloMining.Yaml.Decoder

/-! A written record is read as a mapping with its members in their order: line by line the scanner finds
a key and a value, and the parser takes them as an entry. -/
namespace SoloMining.Yaml

inductive IsScalar : Json → Prop
  | null : IsScalar .null
  | bool (b : Bool) : IsScalar (.bool b)
  | count (n : Nat) : IsScalar (.ofNat n)
  | string (s : String) : IsScalar (.string s)

def styleOf : Json → ScalarStyle
  | .string s => if isPlainText s then .plain else .other
  | _ => .plain

def textOf : Json → String
  | .string s => s
  | other => other.render

theorem word_of_isPlainText (s : String) (plain : isPlainText s = true) : Word s.toList := by
  simp only [isPlainText,Bool.and_eq_true,List.all_eq_true] at plain
  obtain ⟨⟨each,_⟩,head⟩ := plain
  refine ⟨?_,each⟩
  cases text : s.toList with
  | nil => simp [text] at head
  | cons c rest =>
    have apart : c ≠ '-' ∧ c ≠ '.' := by
      constructor
      all_goals
        rintro rfl
        simp [text] at head
    exact ⟨c,rest,rfl,apart⟩

theorem word_of_isAlphanum (cs : List Char) (nonempty : cs ≠ [])
    (each : cs.all Char.isAlphanum = true) : Word cs := by
  obtain ⟨c,rest,rfl⟩ := List.exists_cons_of_ne_nil nonempty
  have each := List.all_eq_true.mp each
  have first := each c List.mem_cons_self
  refine ⟨⟨c,rest,rfl,?_,?_⟩,fun d member => by rw [isPlainChar,each d member,Bool.true_or]⟩
  · rintro rfl
    cases first
  · rintro rfl
    cases first

theorem render_ofNat (n : Nat) : (Json.ofNat n).render.toList = Nat.toDigits 10 n := by
  have natural : ¬ (n : Int) < 0 := by omega
  rw [Json.render,String.toList_ofList]
  change Json.writeInt n = _
  rw [Json.writeInt,if_neg natural,Int.natAbs_natCast]

theorem IsScalar.writes {v : Json} (scalar : IsScalar v) :
    Writes (styleOf v) (textOf v).toList (writeScalar v).toList := by
  cases scalar with
  | null => exact .plain _ (word_of_isAlphanum _ (by decide) (by decide))
  | bool b => cases b <;> exact .plain _ (word_of_isAlphanum _ (by decide) (by decide))
  | count n =>
    refine .plain _ ?_
    change Word (Json.ofNat n).render.toList
    rw [render_ofNat]
    refine word_of_isAlphanum _ (List.ne_nil_of_length_pos Nat.length_toDigits_pos)
      (List.all_eq_true.mpr fun c member => ?_)
    rw [Char.isAlphanum,Nat.isDigit_of_mem_toDigits (by decide) (by decide) member,Bool.or_true]
  | string s =>
    simp only [styleOf,textOf,writeScalar,writeText]
    cases plain : isPlainText s with
    | true => exact .plain _ (word_of_isPlainText s plain)
    | false =>
      simp only [Bool.false_eq_true,if_false]
      split
      next shown => exact String.toList_ofList ▸ .single _ (List.all_eq_true.mp shown)
      next => exact String.toList_ofList ▸ .double _

structure FillsLine (member : String × Json) : Prop where
  word : Word member.1.toList
  short : member.1.toList.length ≤ 1024
  scalar : IsScalar member.2

def lineOf (member : String × Json) : List Char :=
  member.1.toList ++ ':' :: ' ' :: ((writeScalar member.2).toList ++ ['\n'])

def memberTokens (member : String × Json) : List Token :=
  [.key,.scalar .plain member.1,.value,.scalar (styleOf member.2) (textOf member.2)]

theorem toList_writeRecord (members : List (String × Json)) :
    (writeRecord members).toList = members.flatMap lineOf := by
  rw [writeRecord,String.toList_join,List.flatMap_map]
  congr 1
  funext member
  simp [lineOf]

namespace Scanner

theorem run_line (fuel : Nat) (opened : Bool) (member : String × Json) (rest : List Char)
    (index line : Nat) (tokens : List Token) (fills : FillsLine member)
    (begins : ∀ c ∈ rest.head?, isPlainChar c = true) : ∃ further below,
    run (fuel + 4) (atLine opened (lineOf member ++ rest) index line tokens) =
      run (fuel + 1) (atLine true rest further below ((memberTokens member).reverse ++
        if opened then tokens else .blockMappingStart :: tokens)) := by
  obtain ⟨word,short,scalar⟩ := fills
  have whole : lineOf member ++ rest =
      member.1.toList ++ ':' :: ' ' :: ((writeScalar member.2).toList ++ '\n' :: rest) := by
    simp [lineOf]
  rw [whole,run_key (fuel + 3) opened _ _ index line tokens word,
    run_colon (fuel + 2) opened _ _ index line tokens word short]
  simpa [memberTokens] using run_value fuel _ _ _ rest _ _ _ _ scalar.writes begins

theorem begins_lines (members : List (String × Json)) (each : ∀ m ∈ members, FillsLine m) :
    ∀ c ∈ (members.flatMap lineOf).head?, isPlainChar c = true := by
  cases members with
  | nil => simp
  | cons member rest =>
    obtain ⟨⟨⟨c,more,name,_,_⟩,plain⟩,_,_⟩ := each member List.mem_cons_self
    rw [List.flatMap_cons,lineOf,name]
    rw [name] at plain
    simpa using plain c List.mem_cons_self

theorem run_end (fuel : Nat) (index line : Nat) (tokens : List Token) :
    run (fuel + 1) (atLine true [] index line tokens) =
      some { atLine true [] index line (.blockEnd :: tokens) with
        indent := -1, outerIndents := [] } := rfl

theorem run_lines (fuel : Nat) (members : List (String × Json)) (each : ∀ m ∈ members, FillsLine m)
    (index line : Nat) (tokens : List Token) : ∃ s,
    run (fuel + 1 + 3 * members.length)
      (atLine true (members.flatMap lineOf) index line tokens) = some s ∧
    s.tokens.reverse = tokens.reverse ++ members.flatMap memberTokens ++ [.blockEnd] := by
  induction members generalizing index line tokens with
  | nil =>
    refine ⟨_,run_end fuel index line tokens,?_⟩
    simp [atLine]
  | cons member rest ih =>
    obtain ⟨first,later⟩ := List.forall_mem_cons.mp each
    obtain ⟨further,below,step⟩ := run_line (fuel + 3 * rest.length) true member
      (rest.flatMap lineOf) index line tokens first (begins_lines rest later)
    obtain ⟨s,ran,found⟩ := ih later further below ((memberTokens member).reverse ++ tokens)
    refine ⟨s,?_,?_⟩
    · have split : fuel + 1 + 3 * (member :: rest).length = fuel + 3 * rest.length + 4 := by
        rw [List.length_cons]
        omega
      have left : fuel + 1 + 3 * rest.length = fuel + 3 * rest.length + 1 := by omega
      rw [split,List.flatMap_cons,step,← left]
      exact ran
    · rw [found]
      simp

end Scanner

def Legible (c : Char) : Prop := Text.isPrintable c = true ∨ c = '\n'

theorem Legible.isAllowed {c : Char} (legible : Legible c) : isAllowed c = true := by
  obtain shown | rfl := legible
  · obtain ⟨low,controls,apart⟩ := toNat_of_isPrintable c shown
    have valid : c.toNat < 0xD800 ∨ 0xDFFF < c.toNat ∧ c.toNat < 0x110000 := c.valid
    simp only [List.mem_cons,List.not_mem_nil,or_false,not_or] at apart
    simp [Yaml.isAllowed]
    omega
  · decide

theorem unifyBreaks_legible (cs : List Char) (legible : ∀ c ∈ cs, Legible c) :
    unifyBreaks cs = cs := by
  induction cs with
  | nil => rfl
  | cons c rest ih =>
    obtain ⟨first,later⟩ := List.forall_mem_cons.mp legible
    have kept : c ≠ '\r' ∧ c.toNat ≠ 0x85 := by
      obtain shown | rfl := first
      · obtain ⟨low,controls,_⟩ := toNat_of_isPrintable c shown
        refine ⟨?_,by omega⟩
        rintro rfl
        exact absurd low (by decide)
      · decide
    have single : unifyBreaks (c :: rest) =
        (if c == '\r' || c.toNat == 0x85 then '\n' else c) :: unifyBreaks rest := by
      rw [unifyBreaks]
      intro more same
      exact absurd same kept.1
    rw [single,ih later]
    simp [kept]

theorem lineOf_legible (member : String × Json) (fills : FillsLine member) :
    ∀ c ∈ lineOf member, Legible c := by
  simp only [lineOf,List.forall_mem_append,List.forall_mem_cons]
  exact ⟨fun c inside => .inl (isPrintable_of_isPlainChar c (fills.word.plain c inside)),
    .inl (by decide),.inl (by decide),fun c inside => .inl (fills.scalar.writes.printable c inside),
    .inr rfl,List.forall_mem_nil _⟩

theorem length_lines (members : List (String × Json)) :
    3 * members.length ≤ (members.flatMap lineOf).length := by
  induction members with
  | nil => simp
  | cons member rest ih =>
    simp only [List.flatMap_cons,List.length_append,List.length_cons,lineOf]
    omega

theorem tokens?_legible (text : String) (legible : ∀ c ∈ text.toList, Legible c) :
    tokens? text = (Scanner.run (text.toList.length + 1) (.start text.toList)).map fun s =>
      s.tokens.reverse := by
  have allowed : text.toList.all isAllowed = true :=
    List.all_eq_true.mpr fun c inside => (legible c inside).isAllowed
  unfold tokens?
  split
  next rest marked =>
    have mark := legible '\uFEFF' (by rw [marked]; exact List.mem_cons_self)
    exact absurd mark (by unfold Legible; decide +kernel)
  next => rw [if_pos allowed,unifyBreaks_legible _ legible]

/-- A key and a value for each member, in a block. -/
theorem tokens?_writeRecord (first : String × Json) (members : List (String × Json))
    (each : ∀ m ∈ first :: members, FillsLine m) :
    tokens? (writeRecord (first :: members)) = some (.blockMappingStart ::
      ((first :: members).flatMap memberTokens ++ [.blockEnd])) := by
  have legible : ∀ c ∈ (writeRecord (first :: members)).toList, Legible c := by
    intro c inside
    rw [toList_writeRecord] at inside
    obtain ⟨member,present,part⟩ := List.mem_flatMap.mp inside
    exact lineOf_legible member (each member present) c part
  obtain ⟨head,tail⟩ := List.forall_mem_cons.mp each
  have enough := length_lines (first :: members)
  obtain ⟨spare,fuel⟩ : ∃ spare, ((first :: members).flatMap lineOf).length + 1 =
      spare + 3 * members.length + 4 := by
    rw [List.length_cons] at enough
    exact ⟨((first :: members).flatMap lineOf).length - 3 * (members.length + 1),by omega⟩
  obtain ⟨further,below,step⟩ := Scanner.run_line (spare + 3 * members.length) false first
    (members.flatMap lineOf) 0 0 [] head (Scanner.begins_lines members tail)
  obtain ⟨s,ran,found⟩ := Scanner.run_lines spare members tail further below
    ((memberTokens first).reverse ++ [.blockMappingStart])
  have same : spare + 1 + 3 * members.length = spare + 3 * members.length + 1 := by omega
  rw [same] at ran
  have started : Scanner.run (spare + 3 * members.length + 4)
      (.start ((first :: members).flatMap lineOf)) = some s := step.trans ran
  rw [tokens?_legible _ legible,toList_writeRecord,fuel,started,Option.map_some,found]
  simp

def scalarNode (v : Json) : Node := .scalar (styleOf v) none (textOf v)

def entryOf (member : String × Json) : Node × Node :=
  (.scalar .plain none member.1,scalarNode member.2)

namespace Parser

theorem blockPart_scalar (fuel : Nat) (style : ScalarStyle) (text : String) (rest : List Token)
    (anchors : List (String × Node)) (handles : List (String × String)) :
    blockPart (fuel + 2) ⟨.scalar style text :: rest,anchors,handles⟩ =
      some (.scalar style none text,⟨rest,anchors,handles⟩) := by
  rfl

theorem blockEntries_member (fuel : Nat) (member : String × Json) (rest : List Token)
    (anchors : List (String × Node)) (handles : List (String × String)) :
    blockEntries (fuel + 3) ⟨memberTokens member ++ rest,anchors,handles⟩ =
      (blockEntries (fuel + 2) ⟨rest,anchors,handles⟩).map fun (entries,next) =>
        (entryOf member :: entries,next) := by
  simp only [memberTokens,List.cons_append,List.nil_append]
  rw [blockEntries]
  simp only [withTokens,blockPart_scalar fuel,Option.bind_eq_bind,Option.bind_some]
  cases blockEntries (fuel + 2) ⟨rest,anchors,handles⟩ <;> rfl

theorem blockEntries_members (fuel : Nat) (members : List (String × Json))
    (anchors : List (String × Node)) (handles : List (String × String)) :
    blockEntries (fuel + members.length + 2)
      ⟨members.flatMap memberTokens ++ [.blockEnd],anchors,handles⟩ =
        some (members.map entryOf,⟨[],anchors,handles⟩) := by
  induction members with
  | nil => rfl
  | cons member rest ih =>
    rw [List.flatMap_cons,List.append_assoc,List.length_cons]
    exact (blockEntries_member (fuel + rest.length) member _ anchors handles).trans (by rw [ih]; rfl)

theorem length_memberTokens (members : List (String × Json)) :
    (members.flatMap memberTokens).length = 4 * members.length := by
  induction members with
  | nil => rfl
  | cons member rest ih =>
    simp only [List.flatMap_cons,List.length_append,List.length_cons,memberTokens,ih,List.length_nil]
    omega

theorem node_block (fuel : Nat) (rest : List Token) (anchors : List (String × Node))
    (handles : List (String × String)) :
    node true false (fuel + 1) ⟨.blockMappingStart :: rest,anchors,handles⟩ =
      (blockEntries fuel ⟨rest,anchors,handles⟩).map fun (entries,next) =>
        (.mapping none entries,next) := rfl

theorem document_block (rest : List Token) (entries : List (Node × Node))
    (read : blockEntries (4 * rest.length + 7) ⟨rest,[],standardHandles⟩ =
      some (entries,⟨[],[],standardHandles⟩)) :
    document (.blockMappingStart :: rest) = some (some (.mapping none entries)) := by
  have declared : directives false [] (.blockMappingStart :: rest) =
      some ([],.blockMappingStart :: rest) := rfl
  have root : node true false (4 * (rest.length + 1) + 4)
      ⟨.blockMappingStart :: rest,[],standardHandles⟩ =
        some (.mapping none entries,⟨[],[],standardHandles⟩) := by
    have fuel : 4 * (rest.length + 1) + 4 = 4 * rest.length + 7 + 1 := by omega
    rw [fuel,node_block,read]
    rfl
  rw [document,declared]
  simp [root]

theorem document_members (members : List (String × Json)) :
    document (.blockMappingStart :: (members.flatMap memberTokens ++ [.blockEnd])) =
      some (some (.mapping none (members.map entryOf))) := by
  have size : 4 * (members.flatMap memberTokens ++ [Token.blockEnd]).length + 7 =
      15 * members.length + 9 + members.length + 2 := by
    rw [List.length_append,length_memberTokens,List.length_singleton]
    omega
  apply document_block
  rw [size]
  exact blockEntries_members _ members [] standardHandles

end Parser

theorem parse?_writeRecord (first : String × Json) (members : List (String × Json))
    (each : ∀ m ∈ first :: members, FillsLine m) :
    parse? (writeRecord (first :: members)) =
      some (some (.mapping none ((first :: members).map entryOf))) := by
  rw [parse?,tokens?_writeRecord first members each]
  exact Parser.document_members _

end SoloMining.Yaml
