import Z16.Clock
import Z16.Decimal.Shortest
import Z16.Machine.Command

/-!
# The simulator

A simulator holds a machine, possibly with a clock that drives it, and the time. Time passes only in
`sleep` and `join`, and the ticks that fall due are delivered then, each exactly at the moment it is
due: the timer is taken to be neither early nor late. A machine whose holder failed is poisoned: it
answers no more, and a clock on it ends at its next tick.
-/

namespace Z16

open Decimal

inductive Refusal where
  | noClock
  | poisoned
  | invalidFrequency (frequency : Binary64)
  deriving DecidableEq, Repr

def Refusal.message : Refusal → String
  | .noClock => "No clock"
  | .poisoned => "Machine state poisoned"
  | .invalidFrequency f => "Invalid clock frequency: " ++ f.text ++ " Hz"

structure Simulator (H : Type) where
  machine : Machine H
  poisoned : Bool := false
  /-- Nanoseconds since the beginning. -/
  now : Nat := 0
  clock? : Option Clock := none

inductive Request where
  /-- Starts a clock. An older one is dropped, also when the frequency is refused. -/
  | start (frequency : Binary64) (limit failAt : Option Nat)
  | drop
  | sleep (nanoseconds : Nat)
  | poison
  | command (c : Command)
  | pause
  | resume
  | toggle
  | seek (delta : Int)
  | snapshot
  | isRunning
  /-- Waits until the clock ends. If the clock still runs after `patience` ticks, these are a slice of
  a wait that is pending. To abandon a pending wait is no request here: the clock would count as one
  that does not run, while it ticks on until it ends, is stopped or is dropped. -/
  | join (patience : Nat)
  | stop
  deriving DecidableEq, Repr

inductive Answer where
  | done
  | paused (b : Bool)
  | running (b : Bool)
  | snapshot (s : Snapshot)
  | reply (r : Reply)
  | refused (e : Refusal)
  deriving DecidableEq, Repr

namespace Simulator

variable {H : Type}

def isRunning (s : Simulator H) : Bool := s.clock?.any fun c => !c.ended

def tick [Host H] (s : Simulator H) (c : Clock) : Option Tick × Simulator H :=
  if s.poisoned then (none, { s with now := c.due, clock? := some { c with ended := true } })
  else
    let (tick?, next, machine) := c.tick s.machine
    (tick?, { s with now := c.due, clock? := some next, machine })

/-- Delivers ticks while the clock runs, and up to a deadline if there is one, `fuel` ticks at most;
they are added to `ticks`. -/
def advance [Host H] (deadline : Option Nat) :
    (fuel : Nat) → Array Tick → Simulator H → Array Tick × Simulator H
  | 0, ticks, s => (ticks, s)
  | fuel + 1, ticks, s =>
    match s.clock? with
    | some c =>
      if !c.ended && deadline.all (c.due ≤ ·) then
        let (tick?, s) := s.tick c
        advance deadline fuel (ticks ++ tick?.toArray) s
      else (ticks, s)
    | none => (ticks, s)

def dueTicks (c : Clock) (deadline : Nat) : Nat :=
  if c.due ≤ deadline then (deadline - c.due) / c.halfPeriod + 1 else 0

def sleep [Host H] (s : Simulator H) (nanoseconds : Nat) : Array Tick × Simulator H :=
  let deadline := s.now + nanoseconds
  let fuel := s.clock?.elim 0 (dueTicks · deadline)
  let (ticks, s) := advance (some deadline) fuel #[] s
  (ticks, { s with now := deadline })

/-- Lets time pass until the clock ends, or for a slice of `patience` ticks of a wait that is pending
afterwards. -/
def join [Host H] (s : Simulator H) (patience : Nat) : Array Tick × Simulator H :=
  advance none patience #[] s

def newClock (s : Simulator H) (frequency : Binary64) (limit failAt : Option Nat) :
    Except Refusal Clock :=
  match Clock.halfPeriod? frequency with
  | some halfPeriod => .ok (.start s.now halfPeriod limit failAt)
  | none => .error (.invalidFrequency frequency)

def stop (s : Simulator H) : Simulator H :=
  { s with clock? := s.clock?.map fun c => { c with ended := true } }

def onMachine (s : Simulator H) (f : Machine H → Answer × Machine H) : Answer × Simulator H :=
  if s.poisoned then (.refused .poisoned, s)
  else
    let (answer, machine) := f s.machine
    (answer, { s with machine })

def throughClock (s : Simulator H) (f : Machine H → Answer × Machine H) : Answer × Simulator H :=
  if s.clock?.isSome then s.onMachine f else (.refused .noClock, s)

variable [Host H]

def handle (s : Simulator H) : Request → Answer × Array Tick × Simulator H
  | .start frequency limit failAt =>
    match s.newClock frequency limit failAt with
    | .ok c => (.done, #[], { s with clock? := some c })
    | .error e => (.refused e, #[], { s with clock? := none })
  | .drop => (.done, #[], { s with clock? := none })
  | .sleep nanoseconds => (.done, s.sleep nanoseconds)
  | .poison => (.done, #[], { s with poisoned := true })
  | .command c => atOnce <| s.onMachine fun m =>
      let (reply, m) := m.perform c
      (.reply reply, m)
  | .pause => atOnce <| s.throughClock fun m => (.done, m.pause)
  | .resume => atOnce <| s.throughClock fun m => (.done, m.resume)
  | .toggle => atOnce <| s.throughClock fun m => (.paused !m.paused, m.togglePause)
  | .seek delta => atOnce <| s.throughClock fun m =>
      let m := if m.paused then m.seek delta else m
      (.snapshot m.snapshot, m)
  | .snapshot => atOnce <| s.throughClock fun m => (.snapshot m.snapshot, m)
  | .isRunning => (ifClock (.running s.isRunning), #[], s)
  | .join patience =>
    let (ticks, next) := s.join patience
    (ifClock (.running next.isRunning), ticks, next)
  | .stop => (ifClock (.running false), #[], s.stop)
where
  atOnce : Answer × Simulator H → Answer × Array Tick × Simulator H
    | (answer, next) => (answer, #[], next)
  ifClock (answer : Answer) : Answer :=
    if s.clock?.isSome then answer else .refused .noClock

end Simulator

end Z16
