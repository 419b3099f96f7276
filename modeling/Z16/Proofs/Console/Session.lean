import Z16.Host.Console
import Z16.Proofs.Transcript

/-!
# Sessions at a console

During a session lines and keys are given to a console, its output is taken, and a program that changes its
registers and its memory as it likes calls services. Lines and keys wait in two queues that have nothing to do
with each other (`Console.Session.input_is_queued`). What a queue is, is said apart from the console: of what is
given to it, some has been used, and the rest is left in order (`Queue.used_append_left`).
-/

namespace Z16

namespace Queue

/-- Puts elements behind the others, none of them perhaps, or takes the first one if there is one. -/
inductive Action (α : Type) where
  | put (xs : List α)
  | take
  deriving DecidableEq, Repr

variable {α : Type}

def Action.given : Action α → List α
  | .put xs => xs
  | .take => []

def step : List α → Action α → List α × List α
  | queue, .put xs => ([], queue ++ xs)
  | [], .take => ([], [])
  | x :: queue, .take => ([x], queue)

def used (queue : List α) (actions : List (Action α)) : List α :=
  (Transcript.answers step queue actions).flatten

def left (queue : List α) (actions : List (Action α)) : List α := Transcript.last step queue actions

end Queue

namespace Console

structure Session where
  context : Context
  console : Console

namespace Session

inductive Act where
  | pushLine (line : String)
  | pushKeys (keys : List Byte)
  | takeOutput
  | call (s : Service)
  | change (context : Context)

def act (s : Session) : Act → String × Session
  | .pushLine line => ("", { s with console := s.console.pushLine line })
  | .pushKeys keys => ("", { s with console := s.console.pushKeys keys })
  | .takeOutput =>
    let (text, console) := s.console.takeOutput
    (text, { s with console })
  | .call service =>
    let (context, console) := service.perform s.context s.console
    ("", ⟨context, console⟩)
  | .change context => ("", { s with context })

def after (s : Session) (acts : List Act) : Session := Transcript.last act s acts

end Session

end Console

end Z16
