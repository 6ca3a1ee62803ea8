/-! A timer with one alarm. Every start and every stop begins a new generation, and a tick carries
the generation of the start that caused it, so late ticks can be told from live ones. -/
namespace SoloMining

structure Alarm where
  due : Nat
  period : Option Nat
deriving DecidableEq

structure Timer where
  generation : UInt64
  alarm : Option Alarm
deriving DecidableEq

namespace Timer

def idle : Timer := ⟨0, none⟩

def alarmAt (now delay : Nat) (repeats : Bool) : Option Alarm :=
  if !repeats then some ⟨now + delay, none⟩
  else if delay = 0 then none
  else some ⟨now + delay, some delay⟩

def start (timer : Timer) (now delay : Nat) (repeats : Bool) : Timer :=
  ⟨timer.generation + 1, alarmAt now delay repeats⟩

def stop (timer : Timer) : Timer := ⟨timer.generation + 1, none⟩

/-- A tick that is late by more than this puts off the later ones. -/
def leeway : Nat := 5

/-- A repeating alarm is set again: for one period after it was due, or after it rings if that is too
late. -/
def rearm (alarm : Alarm) (now : Nat) : Option Alarm :=
  alarm.period.map fun period =>
    ⟨(if now ≤ alarm.due + leeway then alarm.due else now) + period, some period⟩

def takeTick (timer : Timer) (now : Nat) : Option (UInt64 × Timer) :=
  match timer.alarm with
  | some alarm =>
    if alarm.due ≤ now then some (timer.generation, ⟨timer.generation, rearm alarm now⟩) else none
  | none => none

def takeTicks (timer : Timer) (now : Nat) : (fuel : Nat) → List UInt64 × Timer
  | 0 => ([], timer)
  | fuel + 1 =>
    match timer.alarm.filter (·.due ≤ now) with
    | none => ([], timer)
    | some alarm =>
      let (ticks, last) := takeTicks ⟨timer.generation, rearm alarm alarm.due⟩ now fuel
      (timer.generation :: ticks, last)

/-- The ticks up to `now`. A repeating alarm rings once per period, and never twice at one time. -/
def advance (timer : Timer) (now : Nat) : List UInt64 × Timer :=
  match timer.alarm with
  | some alarm => timer.takeTicks now (now + 1 - alarm.due)
  | none => ([], timer)

end Timer

end SoloMining
