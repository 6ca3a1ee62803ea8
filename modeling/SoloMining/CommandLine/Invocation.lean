import SoloMining.CommandLine.Argument
import SoloMining.Text.Blank

/-! Reading a command line from left to right. An option without an attached value waits for the
next word; its value is looked at when the next option comes, or at the end. A word that fits
nowhere is reported before a waiting value is. -/
namespace SoloMining.CommandLine

structure Invocation where
  config : Config
  given : List Argument

namespace Invocation

def start : Invocation := ⟨.default, []⟩

def isGiven (invocation : Invocation) (s : Setting) : Bool :=
  invocation.given.contains (.setting s)

def record (invocation : Invocation) (a : Argument) (value : String) :
    Except Fault Invocation :=
  if invocation.given.contains a then .error .argumentConflict
  else do
    let config ← a.assign invocation.config value
    pure ⟨config, a :: invocation.given⟩

end Invocation

structure Waiting where
  option : Argument
  value : Option String

structure Progress where
  invocation : Invocation
  waiting : Option Waiting

namespace Progress

def settle (p : Progress) : Except Fault Progress :=
  match p.waiting with
  | none => .ok p
  | some ⟨_, none⟩ => .error .invalidValue
  | some ⟨option, some value⟩ => do
    let invocation ← p.invocation.record option value
    pure ⟨invocation, none⟩

def take (p : Progress) (a : Argument) (value : String) : Except Fault Progress := do
  let settled ← p.settle
  let invocation ← settled.invocation.record a value
  pure ⟨invocation, none⟩

def option (p : Progress) (a : Argument) (attached : Option String) : Except Fault Progress :=
  match attached with
  | some value => p.take a value
  | none => do
    let settled ← p.settle
    pure { settled with waiting := some ⟨a, none⟩ }

def long (p : Progress) (word : List Char) : Except Fault Progress :=
  let (name, attached) := match Text.splitFirst '=' word with
    | some (name, value) => (name, some (String.ofList value))
    | none => (word, none)
  match Argument.ofLongName? (String.ofList name) with
  | none => .error .unknownArgument
  | some a =>
    if a.takesValue then p.option a attached
    else if attached.isSome then .error .tooManyValues
    else p.take a ""

/-- Letters behind one hyphen. What follows the letter of an option is its value, perhaps behind an
equals sign. -/
def letters (p : Progress) : List Char → Except Fault Progress
  | [] => .ok p
  | c :: rest =>
    match Argument.ofLetter? c with
    | none => .error .unknownArgument
    | some a =>
      if a.takesValue then
        match rest with
        | [] => p.option a none
        | '=' :: value => p.option a (some (String.ofList value))
        | value => p.option a (some (String.ofList value))
      else do
        let next ← p.take a ""
        next.letters rest

def value (p : Progress) (word : String) : Except Fault Progress :=
  match p.waiting with
  | some ⟨option, none⟩ => .ok { p with waiting := some ⟨option, some word⟩ }
  | _ => .error .unknownArgument

def word (p : Progress) (text : String) : Except Fault Progress :=
  match text.toList with
  | '-' :: '-' :: rest => p.long rest
  | ['-'] => p.value text
  | '-' :: rest => p.letters rest
  | _ => p.value text

def words (p : Progress) : List String → Except Fault Progress
  | [] => p.settle
  | "--" :: rest => if rest.isEmpty then p.settle else .error .unknownArgument
  | text :: rest => do
    let next ← p.word text
    next.words rest

end Progress

def environmentVariables : List (String × Setting) :=
  [("RPC_USER", .user), ("RPC_PASSWORD", .password)]

namespace Invocation

def addVariable (environment : String → Option String) (invocation : Invocation)
    (entry : String × Setting) : Except Fault Invocation :=
  if invocation.isGiven entry.2 then .ok invocation
  else
    match environment entry.1 with
    | some value => invocation.record (.setting entry.2) value
    | none => .ok invocation

def parse (environment : String → Option String) (arguments : List String) :
    Except Fault Invocation := do
  let progress ← Progress.words ⟨.start, none⟩ arguments
  environmentVariables.foldlM (addVariable environment) progress.invocation

end Invocation

end SoloMining.CommandLine
