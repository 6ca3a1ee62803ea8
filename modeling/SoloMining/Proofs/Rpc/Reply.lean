import SoloMining.Proofs.Json.Record
import SoloMining.Rpc.Reply

/-! What the answer of a node says. In a body that is an object, an error or a result that is left out
counts as null. -/
namespace SoloMining

namespace Json

def Lacks (members : List (Option String × Document)) (name : String) : Prop :=
  ∀ doc, members.lookup (some name) = some doc → doc = .null

def orNull (source : Source) (found : Option Document) : Except Fault Json :=
  found.elim (.ok .null) (Decoder.any source)

theorem Document.toJson?_eq_null (depth : Nat) (doc : Document) :
    doc.toJson? depth = some .null ↔ doc = .null := by
  cases depth <;> cases doc <;> simp [toJson?,ofMembers]

theorem Document.toJson?_eq_string (depth : Nat) (doc : Document) (text : String) :
    doc.toJson? depth = some (.string text) ↔ doc = .string (some text) := by
  cases depth <;> cases doc <;> simp [toJson?,ofMembers]

/-- Whatever the source, some number of levels of the document is read. -/
theorem Decoder.any_eq_ok (source : Source) (doc : Document) :
    ∃ depth, ∀ value, any source doc = .ok value ↔ doc.toJson? depth = some value := by
  cases source with
  | value =>
    refine ⟨doc.nesting,fun value => ?_⟩
    simp only [any]
    cases doc.toJson? doc.nesting <;> simp
  | text depth =>
    refine ⟨depth,fun value => ?_⟩
    simp only [any]
    cases doc.toJson? depth <;> simp

theorem orNull_eq_null (source : Source) (members : List (Option String × Document))
    (name : String) :
    orNull source (members.lookup (some name)) = .ok .null ↔ Lacks members name := by
  unfold Lacks
  cases found : members.lookup (some name) with
  | none => simp [orNull]
  | some doc =>
    obtain ⟨depth,read⟩ := Decoder.any_eq_ok source doc
    simp [orNull,read,Document.toJson?_eq_null]

theorem orNull_eq_string (source : Source) (found : Option Document) (text : String) :
    orNull source found = .ok (.string text) ↔ found = some (.string (some text)) := by
  cases found with
  | none => simp [orNull]
  | some doc =>
    obtain ⟨depth,read⟩ := Decoder.any_eq_ok source doc
    simp [orNull,read,Document.toJson?_eq_string]

end Json

def Response.Carries (response : Response) (reply : Reply) : Prop :=
  Json.decodeText Reply.decoder response.body = .ok reply

def Response.Complains (response : Response) : Prop :=
  ∃ reply, response.Carries reply ∧ reply.failure ≠ .null

namespace Reply

structure Approves (reply : Reply) : Prop where
  harmless : reply.failure = .null
  welcome : reply.result = .null ∨
    ∃ text ∈ ["", "accepted", "inconclusive"], reply.result = .string text

theorem decoder_object (source : Json.Source) (members : List (Option String × Json.Document))
    (reply : Reply) (read : decoder source (.object members) = .ok reply) :
    ∃ inner, Json.orNull inner (members.lookup (some "result")) = .ok reply.result ∧
      Json.orNull inner (members.lookup (some "error")) = .ok reply.failure := by
  obtain ⟨inner,slots,_,built,found⟩ := Json.RecordReader.decoder_made (by
    simp [Json.RecordReader.defaulted,Json.RecordReader.add,Json.RecordReader.start]) read
  have served (name : String) (known : name ∈ ["id","result","error"]) :
      slots.lookup name = members.lookup (some name) := found name known
  simp only [Json.RecordReader.build_defaulted] at built
  obtain ⟨_,failure,⟨_,result,⟨make,id,started,_,rfl⟩,resultRead,rfl⟩,failureRead,rfl⟩ := built
  cases Except.ok.inj started
  rw [served "result" (by simp)] at resultRead
  rw [served "error" (by simp)] at failureRead
  exact ⟨inner,resultRead,failureRead⟩

theorem approves_object (source : Json.Source) (members : List (Option String × Json.Document))
    (reply : Reply) (read : decoder source (.object members) = .ok reply) :
    reply.Approves ↔ Json.Lacks members "error" ∧ (Json.Lacks members "result" ∨
      ∃ text ∈ ["", "accepted", "inconclusive"],
        members.lookup (some "result") = some (.string (some text))) := by
  obtain ⟨inner,result,failure⟩ := decoder_object source members reply read
  simp only [← Json.orNull_eq_null inner,← Json.orNull_eq_string inner,result,failure,
    Except.ok.injEq]
  exact ⟨fun approves => ⟨approves.harmless,approves.welcome⟩,fun ⟨harmless,welcome⟩ =>
    ⟨harmless,welcome⟩⟩

theorem outcome_eq_ok (reply : Reply) (value : Json) :
    reply.outcome = .ok value ↔ reply.error? = none ∧ reply.result = value := by
  unfold outcome
  cases reply.error? <;> simp

theorem ofResponse_eq_ok (response : Response) (reply : Reply) :
    ofResponse response = .ok reply ↔
      response.status = 200 ∧ Json.decodeText decoder response.body = .ok reply := by
  unfold ofResponse
  cases status : response.status == 200 with
  | true =>
    have good : response.status = 200 := by simpa using status
    cases read : Json.decodeText decoder response.body <;> simp [good]
  | false =>
    have bad : response.status ≠ 200 := by simpa using status
    cases read : Json.decodeText decoder response.body <;> simp [bad]

theorem error?_eq_none (reply : Reply) : reply.error? = none ↔ reply.failure = .null := by
  unfold error?
  cases reply.failure <;> simp

theorem error?_final (reply : Reply) (fault : Error) (told : reply.error? = some fault) :
    fault.isRetryable = false := by
  unfold error? at told
  split at told
  · cases told
  all_goals
    cases Option.some.inj told
    rfl

/-- A failure that is tried again: another status, and no error of the node. -/
theorem ofResponse_retryable (response : Response) :
    (∃ fault, ofResponse response = .error fault ∧ fault.isRetryable = true) ↔
      response.status ≠ 200 ∧ ¬ response.Complains := by
  unfold ofResponse Response.Complains Response.Carries
  cases status : response.status == 200 with
  | true =>
    have good : response.status = 200 := by simpa using status
    cases read : Json.decodeText decoder response.body <;> simp [good,Error.isRetryable]
  | false =>
    have bad : response.status ≠ 200 := by simpa using status
    cases read : Json.decodeText decoder response.body with
    | error fault => simp [bad,Error.isRetryable]
    | ok reply =>
      simp only [Except.error.injEq,exists_eq_left',Except.ok.injEq,ne_eq,bad,not_false_eq_true,
        true_and,not_not,← error?_eq_none]
      cases told : reply.error? with
      | none => simp [Error.isRetryable]
      | some fault => simp [reply.error?_final fault told]

def success (id : UInt64) (result : Json) : Json :=
  .ofMembers [("id",.ofNat id.toNat), ("result",result), ("error",.null)]

theorem success_faithful {depth : Nat} (id : UInt64) {result : Json}
    (faithful : Json.Faithful depth result) : Json.Faithful (depth + 1) (success id result) := by
  apply Json.Faithful.ofMembers
  simp only [List.forall_mem_cons]
  exact ⟨.ofNat _ id.toNat_lt,faithful,.null,List.forall_mem_nil _⟩

/-- The order of the members does not matter. -/
theorem ofResponse_success (id : UInt64) (result body : Json)
    (spells : Json.Spells body (success id result)) :
    ofResponse ⟨200,body.render⟩ = .ok ⟨some id,result,.null⟩ := by
  obtain ⟨own,rfl,distinct,found⟩ := spells.object
  have parts : ∀ member ∈ own, Json.Writable 126 member.2 := spells.writable.member
  have stands (name : String) (value : Json)
      (told : [("error",Json.null), ("result",result), ("id",.ofNat id.toNat)].lookup name =
        some value) :
      ∃ v, (Json.documents own).lookup name = some v.toDocument ∧ Json.Writable 126 v ∧
        v.canonical = value := by
    obtain ⟨v,present,same⟩ := Option.map_eq_some_iff.mp ((found name).trans told)
    refine ⟨v,?_,parts _ (Json.mem_of_lookup own name v present),same⟩
    rw [Json.documents,Json.lookup_map,present]
    rfl
  obtain ⟨number,idStands,_,numbered⟩ := stands "id" _ rfl
  obtain ⟨value,resultStands,readable,told⟩ := stands "result" _ rfl
  obtain ⟨nothing,errorStands,blank,harmless⟩ := stands "error" _ rfl
  have idRead := (Json.Decoder.uint64_undoes (.text 126)).optional
    (by simp [Json.toDocument,Json.ofNat]) (some id)
  have written : number = .ofNat id.toNat := Json.eq_of_canonical_flat number _ trivial numbered
  rw [Json.ofOption,← written] at idRead
  have resultRead := told ▸ Json.Decoder.any_writable readable
  have errorRead := harmless ▸ Json.Decoder.any_writable blank
  refine (ofResponse_eq_ok _ _).mpr ⟨rfl,spells.writable.decodeText _ _ ?_⟩
  rw [Json.toDocument_object]
  refine Json.RecordReader.Serves.decoder_object (by decide) "RpcReply" rfl
    (Json.addressed_documents distinct ?_) ?_
  · exact spells.keys_subset
  · refine (((Json.RecordReader.serves_start Reply.mk _ _).add (some id) ?_).add result ?_).add
      .null ?_
    · rw [idStands]
      exact idRead
    · rw [resultStands]
      exact resultRead
    · rw [errorStands]
      exact errorRead

end Reply

/-- In a body that is an object, what is said about the block can be told from the members. -/
theorem Response.Carries.approves {response : Response} {reply : Reply}
    (carries : response.Carries reply) (members : List (Option String × Json.Document))
    (object : (Json.Document.ofText response.body).1 = .object members) :
    reply.Approves ↔ Json.Lacks members "error" ∧ (Json.Lacks members "result" ∨
      ∃ text ∈ ["", "accepted", "inconclusive"],
        members.lookup (some "result") = some (.string (some text))) := by
  rw [Carries,Json.decodeText_eq_ok,object] at carries
  exact Reply.approves_object _ members reply carries.1

theorem ShareStatus.ofResult_eq_accepted (result : Json) : ofResult result = .accepted ↔
    result = .null ∨ ∃ text ∈ ["", "accepted", "inconclusive"], result = .string text := by
  cases result with
  | null => simp [ofResult]
  | string text => by_cases welcome : text = "" ∨ text = "accepted" ∨ text = "inconclusive" <;>
      simp [ofResult,welcome]
  | bool _ | number _ | array _ | object _ => simp [ofResult]

theorem Reply.approves_iff (reply : Reply) :
    reply.Approves ↔ ∃ value, reply.outcome = .ok value ∧ ShareStatus.ofResult value = .accepted := by
  simp only [outcome_eq_ok,error?_eq_none,ShareStatus.ofResult_eq_accepted]
  constructor
  · intro approves
    exact ⟨reply.result,⟨approves.harmless,rfl⟩,approves.welcome⟩
  · rintro ⟨_,⟨harmless,rfl⟩,welcome⟩
    exact ⟨harmless,welcome⟩

end SoloMining
