import SoloMining.Client.Step
import SoloMining.Proofs.Fallible
import SoloMining.Proofs.Job
import Mathlib.Data.List.Infix

/-! Runs of a client: any operations in any order and at any times, from its creation on. A run
keeps the client that every operation met, so a statement about a whole history splits the history
at the operation it is about. -/
namespace SoloMining.Client

structure Entry where
  client : Client
  now : Nat
  input : Input

namespace Entry

def taken (entry : Entry) : Step := entry.client.step entry.now entry.input

def next (entry : Entry) : Client := entry.taken.client

def effects (entry : Entry) : List Effect := entry.taken.effects

def answer (entry : Entry) : Answer := entry.taken.answer

end Entry

/-- Histories, oldest operation first, and the clients that they lead to. -/
inductive Run : List Entry → Client → Prop
  | create (settings : ClientSettings) (entropy : UInt64) (client : Client)
      (made : create settings entropy = .ok client) : Run [] client
  | step (history : List Entry) (entry : Entry) (earlier : Run history entry.client) :
      Run (history ++ [entry]) entry.next

theorem Run.last (history : List Entry) (entry : Entry) (client : Client)
    (run : Run (history ++ [entry]) client) : Run history entry.client ∧ client = entry.next := by
  generalize whole : history ++ [entry] = all at run
  cases run with
  | create => simp at whole
  | step earlier other reached =>
    obtain ⟨same,equal⟩ := List.append_inj' whole rfl
    cases same
    cases List.singleton_inj.mp equal
    exact ⟨reached,rfl⟩

/-- Every operation met a client that the history before it leads to. -/
theorem Run.met (before : List Entry) (entry : Entry) (after : List Entry) (client : Client)
    (run : Run (before ++ entry :: after) client) : Run before entry.client := by
  induction after using List.reverseRecOn generalizing client with
  | nil => exact (run.last before entry client).1
  | append_singleton after later ih =>
    rw [← List.cons_append,← List.append_assoc] at run
    exact ih later.client (run.last _ later client).1

/-- What an operation brings about and every later one keeps holds at the end of the run. -/
theorem Run.since (motive : List Entry → Client → Prop) (before : List Entry) (entry : Entry)
    (after : List Entry) (client : Client) (run : Run (before ++ entry :: after) client)
    (start : motive [] entry.next)
    (keep : ∀ between later, Run (before ++ entry :: between) later.client →
      motive between later.client → motive (between ++ [later]) later.next) :
    motive after client := by
  induction after using List.reverseRecOn generalizing client with
  | nil =>
    rw [(run.last before entry client).2]
    exact start
  | append_singleton after later ih =>
    rw [← List.cons_append,← List.append_assoc] at run
    obtain ⟨reached,rfl⟩ := run.last _ later client
    exact keep after later reached (ih later.client reached)

def replay : Client → List (Nat × Input) → List Entry × Client
  | client, [] => ([],client)
  | client, (now,input) :: rest =>
    let (history,last) := replay (client.step now input).client rest
    (⟨client,now,input⟩ :: history,last)

theorem Run.replay (client : Client) (inputs : List (Nat × Input)) (before : List Entry)
    (run : Run before client) :
    Run (before ++ (client.replay inputs).1) (client.replay inputs).2 := by
  induction inputs generalizing client before with
  | nil => simpa [Client.replay] using run
  | cons head rest ih =>
    obtain ⟨now,input⟩ := head
    have taken : Run (before ++ [⟨client,now,input⟩]) (client.step now input).client :=
      Run.step before ⟨client,now,input⟩ run
    simpa [Client.replay] using ih (client.step now input).client _ taken

/-- How a run goes on, and an operation of its rest, can be looked for by evaluation. -/
theorem exists_run (earlier : List Entry) (start : Client) (run : Run earlier start)
    (inputs : List (Nat × Input)) (check : Entry → List Entry → Client → Prop)
    [∀ entry after client, Decidable (check entry after client)]
    (found : ((start.replay inputs).1.tails.any fun rest =>
      rest.head?.any fun entry => check entry rest.tail (start.replay inputs).2) = true) :
    ∃ before entry after client, Run (before ++ entry :: after) client ∧
      check entry after client := by
  have continued := run.replay start inputs
  simp only [List.any_eq_true,List.mem_tails] at found
  obtain ⟨rest,⟨between,whole⟩,checked⟩ := found
  cases rest with
  | nil => simp at checked
  | cons entry after =>
    rw [← whole,← List.append_assoc] at continued
    exact ⟨earlier ++ between,entry,after,_,continued,of_decide_eq_true checked⟩

instance decidableReply (input : Input) (reply : Nat → Except Error Response → Prop)
    [∀ id result, Decidable (reply id result)] :
    Decidable (∃ id result, input = .complete id result ∧ reply id result) :=
  match input with
  | .complete id result => decidable_of_iff (reply id result) (by simp)
  | .connect => isFalse (by simp)
  | .disconnect => isFalse (by simp)
  | .tick => isFalse (by simp)
  | .submit _ => isFalse (by simp)
  | .generate _ => isFalse (by simp)
  | .reconfigure _ _ => isFalse (by simp)

namespace Sample

def settings : ClientSettings :=
  .create (.root "127.0.0.1" 10225 false) ⟨none, none, "R9NXAVJezHiBnT3ijTpg3JUZre7PxhJWti"⟩

/-- A template on a block; every record is written as the list of its first fields. -/
def template (previousHash : String) : Except Error Response :=
  .ok ⟨200, "[1,[1,\"" ++ previousHash ++ "\",100,\"1d00ffff\",1700000000,5000000000,\"" ++
    "00000000ffff0000000000000000000000000000000000000000000000000000\"]]"⟩

/-- As much of a template as keeps the job on its block. -/
def renewal (previousHash : String) : Except Error Response :=
  .ok ⟨200, "[1,[1,\"" ++ previousHash ++ "\",100,null,0,null,null]]"⟩

def firstBlock : String := "aaaaaaaaaaaaaaaaaaaaaaaaaaaaaaaaaaaaaaaaaaaaaaaaaaaaaaaaaaaaaaaa"

def secondBlock : String := "bbbbbbbbbbbbbbbbbbbbbbbbbbbbbbbbbbbbbbbbbbbbbbbbbbbbbbbbbbbbbbbb"

def taken : Except Error Response := .ok ⟨200, "[2]"⟩

def lost : Except Error Response := .error (.http "no answer")

def solution : JobResult := ⟨.ofSequence 1, ⟨7⟩, .zero, 1000, 4000, 3⟩

def payee : Payee where
  coin := .raptoreum
  mining := [0x76, 0xA9, 20, 1, 2, 3, 4, 5, 6, 7, 8, 9, 10, 11, 12, 13, 14, 15, 16, 17, 18, 19, 20,
    0x88, 0xAC]
  dev := none

def idle : Client where
  settings
  rpc := .create settings.endpoint none
  jobs := .create (.create payee 1 (.ofSeed 0)) "ghostrider" 15000 0
  state := .unconnected
  failures := none
  pendingTemplate := none
  submissions := []
  diagnostics := []

def connecting : Client := (idle.step 0 .connect).client

def first : Template where
  version := 1
  previousBlockHash := some firstBlock
  height := some 100
  bits := some "1d00ffff"
  currentTime := 1700000000
  coinbaseValue := some 5000000000
  target := some "00000000ffff0000000000000000000000000000000000000000000000000000"
  transactions := []
  founder := none
  founderStarted := false
  smartnodes := []
  smartnodesStarted := false
  coinbasePayload := none
  witnessCommitment := none

def coinbase : Coinbase :=
  let plan : CoinbasePlan :=
    ⟨100, 5000000000, payee.mining, none, [], none, none, BlockBuilder.coinbaseTag⟩
  let payouts := [⟨payee.mining, 5000000000⟩]
  let tx := plan.transaction ([1, 100, 16] ++ BlockBuilder.coinbaseTag) payouts
  ⟨payouts, 5000000000, tx.encode, tx.txid⟩

def candidate : Candidate :=
  let header : Header :=
    ⟨1, ⟨List.replicate 32 0xAA, rfl⟩, coinbase.txid, 1700000000, 0x1D00FFFF, ⟨0⟩⟩
  let target : Target := ⟨⟨List.replicate 26 0 ++ [0xFF, 0xFF, 0, 0, 0, 0], rfl⟩⟩
  { header
    height := 100
    coinbase
    transactions := []
    target
    threshold := target.loosen.hexLE
    devRound := false
    reward := ⟨.raptoreum, 5000000000⟩
    blob := header.bytes }

def job : Job := ⟨.ofSequence 1, "ghostrider", 1, candidate⟩

def working : Client :=
  { idle with
    rpc.nextId := 2
    jobs := idle.jobs.publish 1 100 firstBlock candidate
    state := .connected
    failures := some 0 }

/-- The operations that lead there, if the answer is the first template. -/
def opening (answer : Except Error Response) : List Entry :=
  [⟨idle, 0, .connect⟩, ⟨connecting, 1, .complete 1 answer⟩]

theorem created : create settings 0 = .ok idle := by
  have resolved : (Payee.resolve settings.address settings.coin).toOption = some payee := by
    decide +kernel
  rw [toOption_eq_some] at resolved
  simp only [create,jobBoard,resolved]
  rfl

theorem first_read : templateOf (template firstBlock) = .ok first := by
  rw [← toOption_eq_some]
  decide +kernel

private theorem first_built : idle.jobs.builder.build first = (.ok candidate,idle.jobs.builder) := by
  have made : (idle.jobs.builder.build first).1.toOption = some candidate := by decide +kernel
  rw [toOption_eq_some] at made
  exact Prod.ext made (idle.jobs.builder.build_undrawn rfl first)

private theorem first_accepted : connecting.jobs.accept 1 first =
    (.ok true,idle.jobs.publish 1 100 firstBlock candidate) := by
  have tall : first.needHeight = .ok 100 := rfl
  have tip : first.needPreviousBlockHash = .ok firstBlock := rfl
  have same : connecting.jobs = idle.jobs := rfl
  have jobless : idle.jobs.current.isSome = false := rfl
  simp only [JobBoard.accept,tall,tip,same,jobless,Bool.false_and,first_built]
  rfl

section

variable {answer : Except Error Response} (read : templateOf answer = .ok first)
include read

theorem opened : connecting.step 1 (.complete 1 answer) =
    ⟨working,[.login,.startTimer 1000 true,.reward candidate.reward,.job job],.none⟩ := by
  have busy : connecting.state ≠ .unconnected := nofun
  have awaited : connecting.pendingTemplate = some 1 := rfl
  simp only [step,complete,if_neg busy,if_pos awaited,handleTemplate,read,first_accepted]
  rfl

theorem opening_effects : (opening answer).map Entry.effects =
    [[.fetch idle.rpc.getBlockTemplate.1],
      [.login, .startTimer 1000 true, .reward candidate.reward, .job job]] := by
  simp only [opening,List.map_cons,List.map_nil,Entry.effects,Entry.taken,opened read]
  rfl

theorem opening_run : Run (opening answer) working := by
  have start := Run.create settings 0 idle created
  have connected := Run.step [] ⟨idle,0,.connect⟩ start
  have reached := Run.step _ ⟨connecting,1,.complete 1 answer⟩ connected
  rwa [Entry.next,Entry.taken,opened read] at reached

end

theorem run : Run (opening (template firstBlock)) working := opening_run first_read

end Sample

end SoloMining.Client
