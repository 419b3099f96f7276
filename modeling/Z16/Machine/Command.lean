import Z16.Machine

namespace Z16

inductive Command where
  | step
  | run (limit : Nat)
  | execute (index : Nat)
  | seek (delta : Int)
  | pause
  | resume
  | toggle
  | reset
  | write (r : UInt8) (v : Word)
  deriving DecidableEq, Repr

inductive Reply where
  | done
  | ran (b : Bool)
  | steps (n : Nat)
  | paused (b : Bool)
  | refused (e : IndexOutOfRange)
  deriving DecidableEq, Repr

namespace Machine

variable {H : Type} [Host H]

def perform (m : Machine H) : Command → Reply × Machine H
  | .step =>
    let (ran, m) := m.step
    (.ran ran, m)
  | .run limit =>
    let (n, m) := m.run limit
    (.steps n, m)
  | .execute index =>
    match m.execute index with
    | .ok next => (.done, next)
    | .error e => (.refused e, m)
  | .seek delta => (.done, m.seek delta)
  | .pause => (.done, m.pause)
  | .resume => (.done, m.resume)
  | .toggle => (.paused !m.paused, m.togglePause)
  | .reset => (.done, m.reset)
  | .write r v => (.done, m.writeRegister r v)

def performAll (m : Machine H) (cs : List Command) : Machine H :=
  cs.foldl (fun m c => (m.perform c).2) m

end Machine

end Z16
