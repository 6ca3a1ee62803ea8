import SoloMining.Proofs.Yaml.Scalar
import SoloMining.Yaml.Token

/-! The scanner on a line with a key and a value. However the value is written, the scanner finds its text
and then stands at the start of the next line. -/
namespace SoloMining.Yaml

/-- A word that a reader takes as it is: no sign of the syntax stands in it or at its start. -/
structure Word (cs : List Char) : Prop where
  begins : ∃ c rest, cs = c :: rest ∧ c ≠ '-' ∧ c ≠ '.'
  plain : ∀ c ∈ cs, isPlainChar c = true

inductive Writes : ScalarStyle → List Char → List Char → Prop
  | plain (text : List Char) (word : Word text) : Writes .plain text text
  | single (text : List Char) (shown : ∀ c ∈ text, Text.isPrintable c = true) :
      Writes .other text ('\'' :: text.flatMap quoteChar ++ ['\''])
  | double (text : List Char) : Writes .other text ('"' :: text.flatMap escapeChar ++ ['"'])

theorem Writes.printable {style : ScalarStyle} {text written : List Char}
    (writes : Writes style text written) : ∀ c ∈ written, Text.isPrintable c = true := by
  cases writes with
  | plain _ word => exact fun c member => isPrintable_of_isPlainChar c (word.plain c member)
  | single _ shown =>
    simp only [List.cons_append,List.forall_mem_cons,List.forall_mem_append,List.mem_flatMap]
    refine ⟨by decide,?_,by decide,List.forall_mem_nil _⟩
    rintro c ⟨origin,member,part⟩
    exact isPrintable_quoteChar origin (shown origin member) c part
  | double =>
    simp only [List.cons_append,List.forall_mem_cons,List.forall_mem_append,List.mem_flatMap]
    refine ⟨by decide,?_,by decide,List.forall_mem_nil _⟩
    rintro c ⟨origin,_,part⟩
    exact isPrintable_escapeChar origin c part

namespace Cursor

theorem advance_unbroken (word rest : List Char) (index line column : Nat)
    (unbroken : ∀ c ∈ word, isBreak c = false) :
    advance word.length ⟨word ++ rest,index,line,column⟩ =
      ⟨rest,index + word.length,line,column + word.length⟩ := by
  induction word generalizing index column with
  | nil => rfl
  | cons c word ih =>
    obtain ⟨first,later⟩ := List.forall_mem_cons.mp unbroken
    simp only [List.length_cons,advance,List.cons_append,first,Bool.false_eq_true,if_false,
      ih _ _ later]
    congr 1 <;> omega

theorem moveTo_unbroken (word rest : List Char) (index line column : Nat)
    (unbroken : ∀ c ∈ word, isBreak c = false) :
    moveTo ⟨word ++ rest,index,line,column⟩ rest =
      ⟨rest,index + word.length,line,column + word.length⟩ := by
  rw [moveTo,List.length_append,Nat.add_sub_cancel]
  exact advance_unbroken word rest index line column unbroken

theorem advance_add (m n : Nat) (at_ : Cursor) : advance (m + n) at_ = advance n (advance m at_) := by
  induction m generalizing at_ with
  | zero => rw [Nat.zero_add,advance]
  | succ m ih =>
    obtain ⟨rest,index,line,column⟩ := at_
    rw [Nat.add_right_comm]
    cases rest with
    | nil => cases n <;> rfl
    | cons c rest =>
      simp only [advance,ih]
      split <;> rfl

/-- Over a line up to its break. -/
theorem moveTo_line (word rest : List Char) (index line column : Nat)
    (unbroken : ∀ c ∈ word, isBreak c = false) :
    moveTo ⟨word ++ '\n' :: rest,index,line,column⟩ rest =
      ⟨rest,index + word.length + 1,line + 1,0⟩ := by
  have size : (word ++ '\n' :: rest).length - rest.length = word.length + 1 := by
    rw [List.length_append,List.length_cons]
    omega
  rw [moveTo,size,advance_add,advance_unbroken word ('\n' :: rest) index line column unbroken]
  rfl

theorem skipWhile_still (p : Char → Bool) (at_ : Cursor) (still : at_.rest.dropWhile p = at_.rest) :
    at_.skipWhile p = at_ := by
  rw [skipWhile,still,moveTo,Nat.sub_self,advance]

theorem skipComment_still (at_ : Cursor) (c : Char) (rest : List Char) (here : at_.rest = c :: rest)
    (hash : (c == '#') = false) : at_.skipComment = at_ := by
  rw [skipComment]
  split
  next comment =>
    cases here.symm.trans comment
    cases hash
  next => rfl

end Cursor

namespace Scanner

/-- At a character that begins a token nothing is skipped. -/
theorem skipToToken_still (fuel : Nat) (s : Scanner) (c : Char) (rest : List Char)
    (here : s.cursor.rest = c :: rest) (inert : Inert c) : skipToToken (fuel + 1) s = s := by
  obtain ⟨unbroken,visible,hash⟩ := inert
  obtain ⟨space,tab⟩ : (c == ' ') = false ∧ (c == '\t') = false := by simpa [isBlank] using visible
  have still : s.unblanked = s.cursor := by
    apply Cursor.skipWhile_still
    simp [here,space,tab]
  rw [skipToToken]
  simp only [still,Cursor.skipComment_still s.cursor c rest here hash,here,unbroken,
    Bool.false_eq_true,if_false]

theorem closeBlocks_still (s : Scanner) (column : Int) (inside : s.indent ≤ column) :
    s.closeBlocks column = s := by
  have kept : endBlocks column s.indent s.outerIndents s.tokens =
      (s.indent,s.outerIndents,s.tokens) := by
    cases s.outerIndents with
    | nil => rfl
    | cons outer rest => rw [endBlocks,if_neg (by omega)]
  rw [closeBlocks,kept]
  split <;> rfl

/-- What is read at the next character that is not skipped. -/
theorem run_token (fuel : Nat) (s there : Scanner) (c : Char) (rest : List Char)
    (skipped : s.skipToToken (s.cursor.rest.length + 1) = there)
    (here : there.cursor.rest = c :: rest) (fresh : there.dropStale = some there)
    (inside : there.indent ≤ there.column) :
    run (fuel + 1) s = (there.takeToken c rest).bind (run fuel) := by
  rw [run,skipped,fresh]
  simp only [Option.bind_eq_bind,Option.bind_some,closeBlocks_still there _ inside,here]

/-- A plain scalar, unless the character is a sign of the syntax. -/
theorem takeToken_plain (s : Scanner) (c : Char) (rest : List Char) (plain : isPlainChar c = true)
    (dash : c ≠ '-') (dot : c ≠ '.') : s.takeToken c rest = s.takeScalar .plain
      (readPlain s.inFlow (s.indent + 1) s.cursor.column .none [] (c :: rest)) := by
  have apart (sign : Char) := beq_of_isPlainChar c sign plain
  have undashed : (c == '-') = false := beq_eq_false_iff_ne.mpr dash
  have unmarked : startsDocumentMark (c :: rest) = false := by
    unfold startsDocumentMark
    split
    next same => exact absurd (List.cons.inj same).1 dash
    next same => exact absurd (List.cons.inj same).1 dot
    next => rfl
  have starts : startsPlain s.inFlow c rest = true := by
    obtain ⟨unbroken,visible,hash⟩ := inert_of_isPlainChar c plain
    have foreign : ",[]\x7b\x7d#&*!|>'\"%@\x60".toList.all (¬ IsPlainCode ·.toNat) = true := by
      decide
    have outside : ",[]\x7b\x7d#&*!|>'\"%@\x60".contains c = false := by
      rw [← Bool.not_eq_true,String.contains_char_eq,decide_eq_true_eq]
      intro inside
      exact of_decide_eq_true (List.all_eq_true.mp foreign c inside) (toNat_of_isPlainChar c plain)
    simp [startsPlain,undashed,apart '?' (by decide),apart ':' (by decide),unbroken,visible,outside]
  simp only [takeToken,unmarked,undashed,starts,apart '%' (by decide),apart '[' (by decide),
    apart '\x7b' (by decide),apart ']' (by decide),apart '\x7d' (by decide),apart ',' (by decide),
    apart '?' (by decide),apart ':' (by decide),apart '*' (by decide),apart '&' (by decide),
    apart '!' (by decide),apart '|' (by decide),apart '>' (by decide),apart '\'' (by decide),
    apart '"' (by decide),Bool.and_false,Bool.false_and,Bool.false_eq_true,if_false,if_true]

/-- At the start of a line of the outermost mapping, which the first key opens. -/
def atLine (opened : Bool) (rest : List Char) (index line : Nat) (tokens : List Token) : Scanner where
  cursor := ⟨rest,index,line,0⟩
  tokens
  indent := if opened then 0 else -1
  outerIndents := if opened then [-1] else []
  candidates := [none]
  keyAllowed := true

def atColon (opened : Bool) (name rest : List Char) (index line : Nat) (tokens : List Token) :
    Scanner where
  cursor := ⟨rest,index + name.length,line,name.length⟩
  tokens := .scalar .plain (String.ofList name) :: tokens
  indent := if opened then 0 else -1
  outerIndents := if opened then [-1] else []
  candidates := [some ⟨tokens.length,opened,⟨name ++ rest,index,line,0⟩⟩]
  keyAllowed := false

def inLine (rest : List Char) (index line column : Nat) (tokens : List Token) : Scanner where
  cursor := ⟨rest,index,line,column⟩
  tokens
  indent := 0
  outerIndents := [-1]
  candidates := [none]
  keyAllowed := false

/-- A key that begins where its block does has to be one. -/
theorem saveCandidate_atLine (opened : Bool) (rest : List Char) (index line : Nat)
    (tokens : List Token) : (atLine opened rest index line tokens).saveCandidate =
      some { atLine opened rest index line tokens with
        candidates := [some ⟨tokens.length,opened,⟨rest,index,line,0⟩⟩] } := by
  cases opened <;> rfl

theorem run_key (fuel : Nat) (opened : Bool) (name rest : List Char) (index line : Nat)
    (tokens : List Token) (word : Word name) :
    run (fuel + 1) (atLine opened (name ++ ':' :: ' ' :: rest) index line tokens) =
      run fuel (atColon opened name (':' :: ' ' :: rest) index line tokens) := by
  obtain ⟨⟨c,more,rfl,dash,dot⟩,plain⟩ := word
  have first := plain c List.mem_cons_self
  have read (indent : Int) : readPlain false indent 0 .none [] (c :: (more ++ ':' :: ' ' :: rest)) =
      some ⟨c :: more,':' :: ' ' :: rest,false⟩ := by
    rw [← List.cons_append,readPlain_word indent 0 _ [] _ plain,readPlain_colon]
    simp
  have saved := saveCandidate_atLine opened (c :: more ++ ':' :: ' ' :: rest) index line tokens
  rw [run_token fuel _ _ c (more ++ ':' :: ' ' :: rest)
    (skipToToken_still _ _ c _ rfl (inert_of_isPlainChar c first)) rfl rfl
    (by cases opened <;> simp [atLine,column]),takeToken_plain _ c _ first dash dot]
  change (takeScalar _ .plain (readPlain false _ 0 .none [] (c :: (more ++ ':' :: ' ' :: rest)))).bind _
    = _
  rw [read,takeScalar,saved]
  have across := Cursor.moveTo_unbroken (c :: more) (':' :: ' ' :: rest) index line 0
    fun c member => (inert_of_isPlainChar c (plain c member)).unbroken
  simp only [Option.bind_eq_bind,Option.bind_some,Scanner.moveTo,emit,atLine,across,atColon,Nat.zero_add]

/-- The colon comes before the key is out of reach. -/
theorem dropStale_atColon (opened : Bool) (name rest : List Char) (index line : Nat)
    (tokens : List Token) (short : name.length ≤ 1024) :
    (atColon opened name rest index line tokens).dropStale =
      some (atColon opened name rest index line tokens) := by
  have recent : ¬ 1024 < name.length := by omega
  simp [dropStale,atColon,isStale,recent]

/-- The token of a key stands in front of its text, and in front of the first key the mapping starts. -/
theorem takeValue_atColon (opened : Bool) (name rest : List Char) (index line : Nat)
    (tokens : List Token) :
    (atColon opened name (':' :: rest) index line tokens).takeValue =
      some (inLine rest (index + name.length + 1) line (name.length + 1)
        (.value :: .scalar .plain (String.ofList name) :: .key ::
          if opened then tokens else .blockMappingStart :: tokens)) := by
  have one : tokens.length + 1 - tokens.length = 1 := by omega
  have two : tokens.length + 1 + 1 - tokens.length = 2 := by omega
  cases opened <;>
    simp [takeValue,atColon,inLine,insert,openBlock,inFlow,emit,skip,Cursor.advance,isBreak,one,two]

theorem run_colon (fuel : Nat) (opened : Bool) (name rest : List Char) (index line : Nat)
    (tokens : List Token) (word : Word name) (short : name.length ≤ 1024) :
    run (fuel + 1) (atColon opened name (':' :: ' ' :: rest) index line tokens) =
      run fuel (inLine (' ' :: rest) (index + name.length + 1) line (name.length + 1)
        (.value :: .scalar .plain (String.ofList name) :: .key ::
          if opened then tokens else .blockMappingStart :: tokens)) := by
  have valued : (atColon opened name (':' :: ' ' :: rest) index line tokens).takeToken ':'
      (' ' :: rest) = (atColon opened name (':' :: ' ' :: rest) index line tokens).takeValue := by
    -- The name is not empty, so the colon is not at the start of the line.
    obtain ⟨⟨c,more,rfl,_,_⟩,_⟩ := word
    rfl
  rw [run_token fuel _ _ ':' (' ' :: rest) (skipToToken_still _ _ ':' _ rfl ⟨rfl,rfl,rfl⟩) rfl
    (dropStale_atColon opened name _ index line tokens short)
    (by cases opened <;> simp [atColon,column]),valued,takeValue_atColon]
  rfl

/-- One blank stands between the colon and the value. -/
theorem skipToToken_blank (fuel : Nat) (c : Char) (rest : List Char) (index line column : Nat)
    (tokens : List Token) (inert : Inert c) :
    skipToToken (fuel + 1) (inLine (' ' :: c :: rest) index line column tokens) =
      inLine (c :: rest) (index + 1) line (column + 1) tokens := by
  obtain ⟨unbroken,visible,hash⟩ := inert
  obtain ⟨space,tab⟩ : (c == ' ') = false ∧ (c == '\t') = false := by simpa [isBlank] using visible
  have before : (inLine (' ' :: c :: rest) index line column tokens).unblanked =
      ⟨c :: rest,index + 1,line,column + 1⟩ := by
    simp [unblanked,inLine,Cursor.skipWhile,space,tab,Cursor.moveTo,Cursor.advance,isBreak]
  rw [skipToToken]
  have bare := Cursor.skipComment_still ⟨c :: rest,index + 1,line,column + 1⟩ c rest rfl hash
  simp only [before,bare,unbroken,Bool.false_eq_true,if_false]
  rfl

/-- Behind a quoted value the next line begins. -/
theorem run_break (fuel : Nat) (rest : List Char) (index line column : Nat) (tokens : List Token) :
    run (fuel + 1) (inLine ('\n' :: rest) index line column tokens) =
      run (fuel + 1) (atLine true rest (index + 1) (line + 1) tokens) := by
  have before : (inLine ('\n' :: rest) index line column tokens).unblanked =
      ⟨'\n' :: rest,index,line,column⟩ := Cursor.skipWhile_still _ _ rfl
  have skipped : skipToToken (rest.length + 1 + 1) (inLine ('\n' :: rest) index line column tokens) =
      skipToToken (rest.length + 1) (atLine true rest (index + 1) (line + 1) tokens) := by
    rw [skipToToken,before]
    rfl
  rw [run,run]
  change (skipToToken (rest.length + 1 + 1) _).dropStale >>= _ = _
  rw [skipped]
  rfl

theorem takeScalar_inLine (style : ScalarStyle) (rest : List Char) (index line column : Nat)
    (tokens : List Token) (scalar : ScalarText) :
    (inLine rest index line column tokens).takeScalar style (some scalar) =
      some { inLine rest index line column (.scalar style (String.ofList scalar.text) :: tokens) with
        cursor := Cursor.moveTo ⟨rest,index,line,column⟩ scalar.rest
        keyAllowed := scalar.endedLine } := rfl

theorem run_quoted (fuel : Nat) (quote : Char) (text written rest : List Char)
    (index line column : Nat) (tokens : List Token) (inert : Inert quote)
    (shown : ∀ c ∈ quote :: written, Text.isPrintable c = true)
    (taken : ∀ s : Scanner, s.takeToken quote (written ++ '\n' :: rest) =
      s.takeScalar .other (some ⟨text,'\n' :: rest,false⟩)) : ∃ further below,
    run (fuel + 2) (inLine (' ' :: quote :: (written ++ '\n' :: rest)) index line column tokens) =
      run (fuel + 1) (atLine true rest further below
        (.scalar .other (String.ofList text) :: tokens)) := by
  have across := Cursor.moveTo_unbroken (quote :: written) ('\n' :: rest) (index + 1) line (column + 1)
    fun c member => isBreak_of_isPrintable c (shown c member)
  refine ⟨_,_,Eq.trans ?_ (run_break fuel rest (index + 1 + (quote :: written).length) line
    (column + 1 + (quote :: written).length) _)⟩
  rw [run_token (fuel + 1) _ _ quote (written ++ '\n' :: rest)
    (skipToToken_blank _ quote _ _ _ _ _ inert) rfl rfl (by simp [inLine,Scanner.column]; omega),
    taken,takeScalar_inLine]
  simp only [List.cons_append] at across
  simp only [across,Option.bind_some]
  rfl

/-- However a value is written, it is found in the style and with the text that it stands for. -/
theorem run_value (fuel : Nat) (style : ScalarStyle) (text written rest : List Char)
    (index line column : Nat) (tokens : List Token) (writes : Writes style text written)
    (begins : ∀ c ∈ rest.head?, isPlainChar c = true) : ∃ further below,
    run (fuel + 2) (inLine (' ' :: (written ++ '\n' :: rest)) index line column tokens) =
      run (fuel + 1) (atLine true rest further below
        (.scalar style (String.ofList text) :: tokens)) := by
  have shown := writes.printable
  cases writes with
  | plain _ word =>
    obtain ⟨⟨c,more,rfl,dash,dot⟩,plain⟩ := word
    have first := plain c List.mem_cons_self
    have read : readPlain false 1 (column + 1) .none [] (c :: (more ++ '\n' :: rest)) =
        some ⟨c :: more,rest,true⟩ := by
      rw [← List.cons_append,readPlain_word 1 _ _ [] _ plain,readPlain_line _ _ _ begins]
      simp
    have across := Cursor.moveTo_line (c :: more) rest (index + 1) line (column + 1)
      fun c member => (inert_of_isPlainChar c (plain c member)).unbroken
    refine ⟨index + 1 + (c :: more).length + 1,line + 1,?_⟩
    rw [List.cons_append,run_token (fuel + 1) _ _ c (more ++ '\n' :: rest)
      (skipToToken_blank _ c _ _ _ _ _ (inert_of_isPlainChar c first)) rfl rfl
      (by simp [inLine,Scanner.column]; omega),takeToken_plain _ c _ first dash dot]
    refine (congrArg (fun scalar => (takeScalar _ .plain scalar).bind _) read).trans ?_
    simp only [List.cons_append] at across
    rw [takeScalar_inLine]
    simp only [across,Option.bind_some]
    rfl
  | single _ printable =>
    refine run_quoted fuel '\'' text (text.flatMap quoteChar ++ ['\'']) rest index line column tokens
      ⟨rfl,rfl,rfl⟩ shown fun s => ?_
    have taken : s.takeToken '\'' (text.flatMap quoteChar ++ '\'' :: '\n' :: rest) =
        s.takeScalar .other
          (readSingleQuoted false .none [] (text.flatMap quoteChar ++ '\'' :: '\n' :: rest)) := by
      simp [takeToken,startsDocumentMark]
    rw [List.append_assoc,List.singleton_append,taken,Gap.none,
      readSingleQuoted_quoted text [] [] rest printable]
    rfl
  | double =>
    refine run_quoted fuel '"' text (text.flatMap escapeChar ++ ['"']) rest index line column tokens
      ⟨rfl,rfl,rfl⟩ shown fun s => ?_
    have taken : s.takeToken '"' (text.flatMap escapeChar ++ '"' :: '\n' :: rest) =
        s.takeScalar .other
          (readDoubleQuoted false .none [] (text.flatMap escapeChar ++ '"' :: '\n' :: rest)) := by
      simp [takeToken,startsDocumentMark]
    rw [List.append_assoc,List.singleton_append,taken,Gap.none,
      readDoubleQuoted_quoted text [] [] ('\n' :: rest)]
    rfl

end Scanner

end SoloMining.Yaml
