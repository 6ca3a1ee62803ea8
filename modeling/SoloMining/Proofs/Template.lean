import SoloMining.Proofs.Client.Refusal

/-! Templates survive the wire: what a node writes of a template, put into a reply and sent as text, is
read as the same template. -/
namespace SoloMining

open Json Json.Decoder Json.RecordReader

private theorem optionalText_undoes (source : Json.Source) :
    Decoder.text.optional.Undoes (Json.ofOption .string) source :=
  (text_undoes _ source).optional (by simp [Json.toDocument])

private theorem optionalUInt64_undoes (source : Json.Source) :
    uint64.optional.Undoes (Json.ofOption fun n => .ofNat n.toNat) source :=
  (uint64_undoes source).optional (by simp [Json.toDocument,Json.ofNat])

namespace Payment

theorem decoder_undoes : decoder.Undoes toJson .value := by
  intro payment
  refine Serves.decoder_ofMembers (by decide) "Payment" rfl (List.Subset.refl _) ?_
  exact serves_start Payment.mk _ _
    |>.member (optionalText_undoes _) payment.payee rfl
    |>.member (text_undoes _ _) payment.script rfl
    |>.member (uint64_undoes _) payment.amount rfl

theorem toJson_faithful {depth : Nat} (payment : Payment) :
    Faithful (depth + 1) payment.toJson := by
  apply Faithful.ofMembers
  simp only [List.forall_mem_cons]
  exact ⟨.ofOption .string _,.string _,.ofNat _ payment.amount.toNat_lt,List.forall_mem_nil _⟩

end Payment

namespace TemplateTransaction

theorem decoder_undoes : decoder.Undoes toJson .value := by
  intro tx
  refine Serves.decoder_ofMembers (by decide) "TemplateTransaction" rfl (List.Subset.refl _) ?_
  exact serves_start TemplateTransaction.mk _ _
    |>.member (text_undoes _ _) tx.data rfl
    |>.member (optionalText_undoes _) tx.txid rfl

theorem toJson_faithful {depth : Nat} (tx : TemplateTransaction) :
    Faithful (depth + 1) tx.toJson := by
  apply Faithful.ofMembers
  simp only [List.forall_mem_cons]
  exact ⟨.string _,.ofOption .string _,List.forall_mem_nil _⟩

end TemplateTransaction

namespace Template

/-- Read from a value, a written template is the template. -/
theorem decoder_undoes : decoder.Undoes toJson .value := by
  intro t
  have payments : Payment.decoder.list.Undoes (fun items => .array (items.map Payment.toJson))
      .value := Payment.decoder_undoes.list rfl
  have transactions : TemplateTransaction.decoder.list.Undoes
      (fun items => .array (items.map TemplateTransaction.toJson)) .value :=
    TemplateTransaction.decoder_undoes.list rfl
  have founder : Payment.decoder.optional.Undoes (Json.ofOption Payment.toJson) .value :=
    Payment.decoder_undoes.optional (by simp [Payment.toJson,Json.ofMembers,Json.toDocument])
  refine Serves.decoder_ofMembers (by decide) "BlockTemplate" rfl (List.Subset.refl _) ?_
  exact serves_start Template.mk _ _
    |>.member (int32_undoes _) t.version rfl
    |>.member (optionalText_undoes _) t.previousBlockHash rfl
    |>.member (optionalUInt64_undoes _) t.height rfl
    |>.member (optionalText_undoes _) t.bits rfl
    |>.member (uint32_undoes _) t.currentTime rfl
    |>.member (optionalUInt64_undoes _) t.coinbaseValue rfl
    |>.member (optionalText_undoes _) t.target rfl
    |>.member transactions t.transactions rfl
    |>.member founder t.founder rfl
    |>.member (bool_undoes _) t.founderStarted rfl
    |>.member payments t.smartnodes rfl
    |>.member (bool_undoes _) t.smartnodesStarted rfl
    |>.member (optionalText_undoes _) t.coinbasePayload rfl
    |>.member (optionalText_undoes _) t.witnessCommitment rfl

theorem ofJson_toJson (t : Template) : ofJson t.toJson = .ok t := by
  have read : decodeValue decoder t.toJson = .ok t := decoder_undoes t
  rw [ofJson,read]

theorem toJson_faithful {depth : Nat} (t : Template) : Faithful (depth + 3) t.toJson := by
  have version : Faithful (depth + 2) (.ofInt t.version.toInt) := by
    have low := t.version.le_toInt
    have high := t.version.toInt_lt
    exact .ofInt _ (by omega) (by omega)
  have time : Faithful (depth + 2) (.ofNat t.currentTime.toNat) := by
    have small := t.currentTime.toNat_lt
    exact .ofNat _ (by omega)
  have natural (n : UInt64) : Faithful (depth + 2) (.ofNat n.toNat) := .ofNat _ n.toNat_lt
  have transactions :
      Faithful (depth + 2) (.array (t.transactions.map TemplateTransaction.toJson)) :=
    .array (List.forall_mem_map.mpr fun tx _ => tx.toJson_faithful)
  have smartnodes : Faithful (depth + 2) (.array (t.smartnodes.map Payment.toJson)) :=
    .array (List.forall_mem_map.mpr fun payment _ => payment.toJson_faithful)
  apply Faithful.ofMembers
  simp only [List.forall_mem_cons]
  exact ⟨version,.ofOption .string _,.ofOption natural _,.ofOption .string _,time,
    .ofOption natural _,.ofOption .string _,transactions,.ofOption Payment.toJson_faithful _,
    .bool _,smartnodes,.bool _,.ofOption .string _,.ofOption .string _,List.forall_mem_nil _⟩

/-- A template that a node has written is read as it was, in whatever order the node puts the
members. -/
theorem template_survives_wire (t : Template) (id : UInt64) :
    Client.templateOf (.ok ⟨200,(Reply.success id t.toJson).render⟩) = .ok t ∧
      ∀ body, Spells body (Reply.success id t.toJson) →
        Client.templateOf (.ok ⟨200,body.render⟩) = .ok t := by
  have spelled : ∀ body, Spells body (Reply.success id t.toJson) →
      Client.templateOf (.ok ⟨200,body.render⟩) = .ok t := by
    intro body spells
    exact (Client.templateOf_eq_ok _ t).mpr
      ⟨_,rfl,_,Reply.ofResponse_success id t.toJson body spells,rfl,ofJson_toJson t⟩
  exact ⟨spelled _ (Reply.success_faithful id t.toJson_faithful).spells,spelled⟩

/-- A node that puts the result first. -/
theorem template_survives_wire_reordered : ∃ t body, body ≠ Reply.success 7 t.toJson ∧
    Spells body (Reply.success 7 t.toJson) ∧ Client.templateOf (.ok ⟨200,body.render⟩) = .ok t := by
  let t : Template := ⟨-1,none,some 18446744073709551615,some "\"\\\n",4294967295,none,none,
    [⟨"00",none⟩],some ⟨none,"",1⟩,true,[],false,none,none⟩
  have faithful : Faithful (126 + 0) t.toJson := t.toJson_faithful
  have spells : Spells (.object [("result",t.toJson), ("error",.null), ("id",.ofNat 7)])
      (Reply.success 7 t.toJson) := by
    refine ⟨.object 126 _ ?_,by decide,?_⟩
    · simp only [List.forall_mem_cons]
      exact ⟨faithful.writable,.null _,(Faithful.ofNat 7 (by decide)).writable,List.forall_mem_nil _⟩
    · rw [Json.canonical,canonicalMembers_eq_map]
      simp only [List.map_cons,List.map_nil,faithful.canonical]
      rfl
  refine ⟨t,_,?_,spells,(template_survives_wire t 7).2 _ spells⟩
  intro same
  exact absurd (congrArg Json.keys same) (by decide)

end Template

end SoloMining
