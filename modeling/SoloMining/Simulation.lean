import SoloMining.EventLoop

/-! An event loop in front of a node that answers by script, under a clock that jumps from one due
time to the next. What is due at one time happens in the order in which it was scheduled. -/
namespace SoloMining

structure ScriptedReply where
  delay : Nat
  answer : Nat → Except Error Response

abbrev NodeScript := List (String × ScriptedReply)

/-- An answer on its way; `order` tells which of two was scheduled first. -/
structure Flight where
  due : Nat
  order : Nat
  id : Nat
  result : Except Error Response

structure Observation where
  requests : List Request
  events : List Effect
  rewards : List Reward

def Observation.none : Observation := ⟨[], [], []⟩

structure Simulation where
  now : Nat
  eventLoop : EventLoop
  stopped : Bool
  listening : Bool
  script : NodeScript
  flights : List Flight
  alarmOrder : Nat
  nextOrder : Nat
  inbox : List Event
  seen : Observation

namespace Simulation

def create (client : Client) (script : NodeScript) : Simulation where
  now := 0
  eventLoop := ⟨client, .idle⟩
  stopped := false
  listening := true
  script := script
  flights := []
  alarmOrder := 0
  nextOrder := 0
  inbox := [.connect]
  seen := .none

def rescript (sim : Simulation) (changes : NodeScript) : Simulation :=
  { sim with script := changes ++ sim.script }

def observe (sim : Simulation) : Effect → Simulation
  | .fetch request => { sim with seen.requests := sim.seen.requests ++ [request] }
  | .reward reward => { sim with seen.rewards := sim.seen.rewards ++ [reward] }
  | .startTimer _ _ => { sim with alarmOrder := sim.nextOrder, nextOrder := sim.nextOrder + 1 }
  | .stopTimer => sim
  | effect =>
    if sim.listening then { sim with seen.events := sim.seen.events ++ [effect] } else sim

def send (sim : Simulation) (request : Request) : Simulation :=
  match sim.script.lookup request.rpcMethod.name with
  | none => sim
  | some reply =>
    let result := reply.answer request.id
    if reply.delay = 0 then { sim with inbox := sim.inbox ++ [.fetched request.id result] }
    else
      { sim with
        flights := sim.flights ++ [⟨sim.now + reply.delay, sim.nextOrder, request.id, result⟩]
        nextOrder := sim.nextOrder + 1 }

def perform (sim : Simulation) (effect : Effect) : Simulation :=
  match effect with
  | .fetch request => (sim.observe effect).send request
  | _ => sim.observe effect

def handle (sim : Simulation) (event : Event) : Simulation × Answer :=
  let (eventLoop, effects, answer) := sim.eventLoop.dispatch sim.now event
  (effects.foldl perform { sim with eventLoop }, answer)

def drain : (fuel : Nat) → Simulation → Simulation
  | 0, sim => sim
  | fuel + 1, sim =>
    match sim.inbox with
    | [] => sim
    | event :: rest => drain fuel ({ sim with inbox := rest }.handle event).1

def dueTick (sim : Simulation) : List (Nat × Event) :=
  match sim.eventLoop.timer.takeTick sim.now with
  | some (generation, _) => [(sim.alarmOrder, .tick generation)]
  | none => []

def collect (sim : Simulation) : Simulation :=
  let due := sim.flights.filter (·.due ≤ sim.now)
  let arrivals := due.map fun flight => (flight.order, Event.fetched flight.id flight.result)
  let events := (arrivals ++ sim.dueTick).mergeSort fun a b => a.1 ≤ b.1
  let timer := match sim.eventLoop.timer.takeTick sim.now with
    | some (_, timer) => timer
    | none => sim.eventLoop.timer
  { sim with
    eventLoop := { sim.eventLoop with timer }
    alarmOrder := if sim.dueTick.isEmpty then sim.alarmOrder else sim.nextOrder
    nextOrder := sim.nextOrder + 1
    flights := sim.flights.filter fun flight => sim.now < flight.due
    inbox := sim.inbox ++ events.map Prod.snd }

/-- More events than this at one time, or more times than this in one sleep, are cut off. -/
def patience : Nat := 1000000

def settle : (fuel : Nat) → Simulation → Simulation
  | 0, sim => sim
  | fuel + 1, sim =>
    if sim.stopped then sim
    else
      let ready := sim.collect
      if ready.inbox.isEmpty then ready else settle fuel (drain patience ready)

def nextDue (sim : Simulation) : Option Nat :=
  let times := sim.flights.map Flight.due ++ (sim.eventLoop.timer.alarm.map Alarm.due).toList
  times.min?

def runTo (target : Nat) : (fuel : Nat) → Simulation → Simulation
  | 0, sim => sim
  | fuel + 1, sim =>
    if sim.stopped then { sim with now := target }
    else
      match sim.nextDue with
      | some due =>
        if due ≤ target then runTo target fuel (settle patience { sim with now := max sim.now due })
        else { sim with now := target }
      | none => { sim with now := target }

def sleep (sim : Simulation) (duration : Nat) : Simulation :=
  settle patience (runTo (sim.now + duration) patience (settle patience sim))

def command (sim : Simulation) (event : Event) : Simulation × Except Error Answer :=
  let ready := settle patience sim
  if ready.stopped then (ready, .error (.invalidState .stopped))
  else
    let (next, answer) := ready.handle event
    (settle patience next, .ok answer)

def shutdown (sim : Simulation) : Simulation :=
  let ready := settle patience sim
  if ready.stopped then ready
  else
    let (next, _) := ready.handle .disconnect
    { next with stopped := true, flights := [], inbox := [] }

def state (sim : Simulation) : Except Error ConnectionState :=
  if sim.stopped then .error (.invalidState .stopped) else .ok sim.eventLoop.client.state

def takeSeen (sim : Simulation) : Observation × Simulation :=
  (sim.seen, { sim with seen := .none })

end Simulation

end SoloMining
