import SoloMining.Client.Step
import SoloMining.Timer

/-! The loop that owns a client. Completions, ticks and commands arrive one at a time; ticks of an
earlier generation are dropped. -/
namespace SoloMining

inductive Event
  | fetched (id : Nat) (result : Except Error Response)
  | tick (generation : UInt64)
  | submit (result : JobResult)
  | generate (blocks : UInt32)
  | reconfigure (settings : ClientSettings) (entropy : UInt64)
  | connect
  | disconnect

structure EventLoop where
  client : Client
  timer : Timer

namespace EventLoop

def applyEffect (now : Nat) (timer : Timer) : Effect → Timer
  | .startTimer delay repeats => timer.start now delay repeats
  | .stopTimer => timer.stop
  | _ => timer

def run (eventLoop : EventLoop) (now : Nat) (input : Input) : EventLoop × List Effect × Answer :=
  let taken := eventLoop.client.step now input
  (⟨taken.client, taken.effects.foldl (applyEffect now) eventLoop.timer⟩, taken.effects,
   taken.answer)

/-- What an event asks of the client. A tick asks nothing once the timer has been set anew or
stopped. -/
def asked (eventLoop : EventLoop) : Event → Option Input
  | .fetched id result => some (.complete id result)
  | .tick generation => if generation = eventLoop.timer.generation then some .tick else none
  | .submit result => some (.submit result)
  | .generate blocks => some (.generate blocks)
  | .reconfigure settings entropy => some (.reconfigure settings entropy)
  | .connect => some .connect
  | .disconnect => some .disconnect

def dispatch (eventLoop : EventLoop) (now : Nat) (event : Event) :
    EventLoop × List Effect × Answer :=
  match eventLoop.asked event with
  | none => (eventLoop, [], .none)
  | some input =>
    match eventLoop.run now input with
    | (next, effects, .reconfigured (.ok ())) =>
      let (last, more, _) := next.run now .connect
      (last, effects ++ more, .reconfigured (.ok ()))
    | taken => taken

end EventLoop

end SoloMining
