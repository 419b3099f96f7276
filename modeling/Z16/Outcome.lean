import Z16.CommandLine
import Z16.Host.Console
import Z16.Simulator

/-!
# Outcomes

What an invocation writes and the code that it ends with. A clocked run and a fast run print the
output of the program and then the registers and `pc`; the clocked run takes the output piece by
piece.
-/

namespace Z16

open CommandLine

structure Outcome where
  code : Nat := 0
  output : String := ""
  deriving DecidableEq, Repr

def Outcome.failure : Outcome := { code := 1 }

def Settings.machine (settings : Settings) (image : Image) : Machine Console :=
  (Machine.ofImage image { lines := settings.input }).resume

def Machine.summary (m : Machine Console) : String :=
  "\n" ++ Console.linesText m.registers.dump ++ "pc = " ++ toString m.pc ++
    (if m.halted then " (halted)" else "") ++ "\n"

/-- The number of steps of a run that has no limit. -/
def unlimited : Nat := UInt64.size - 1

def Settings.runFast (settings : Settings) (image : Image) : Outcome :=
  let (_, m) := (settings.machine image).run (settings.maxSteps.getD unlimited)
  { output := m.host.output ++ m.summary }

namespace Simulator

def drain (s : Simulator Console) : String × Simulator Console :=
  let (text, host) := s.machine.host.takeOutput
  (text, { s with machine := { s.machine with host } })

/-- Ticks until the clock has ended and takes the output after each tick; gives up after `patience`
ticks. -/
def runDraining : (patience : Nat) → (output : String) → Simulator Console →
    Option (String × Machine Console)
  | 0, _, _ => none
  | patience + 1, output, s =>
    match s.clock? with
    | some c =>
      if c.ended then some (output, s.machine)
      else
        let (text, next) := (s.tick c).2.drain
        runDraining patience (output ++ text) next
    | none => some (output, s.machine)

end Simulator

def Settings.simulator (settings : Settings) (image : Image) :
    Except Refusal (Simulator Console) := do
  let s : Simulator Console := { machine := settings.machine image }
  let c ← s.newClock settings.frequency settings.maxSteps none
  return { s with clock? := some c }

def Settings.runClocked (settings : Settings) (image : Image) (patience : Nat) : Option Outcome :=
  match settings.simulator image with
  | .error _ => some .failure
  | .ok s =>
    (s.runDraining patience "").map fun (output, m) => { output := output ++ m.summary }

namespace CommandLine

def Invocation.file : Invocation → String
  | .disassemble file | .run file _ => file

/-- The outcome of an invocation, given the bytes of its file if it can be read. A clocked run that
does not end within `patience` ticks has none. -/
def Invocation.outcome (invocation : Invocation) (content : Option (Array Byte)) (patience : Nat) :
    Option Outcome :=
  match content.map Image.ofBytes, invocation with
  | some (.ok image), .disassemble _ =>
    some { output := (Listing.ofWords image.programWords).text }
  | some (.ok image), .run _ settings =>
    if settings.fast then some (settings.runFast image) else settings.runClocked image patience
  | _, _ => some .failure

def versionText : String := "z16sim 0.1.0\n"

def helpText : String :=
  "Z16 disassembler and simulator\n\n" ++
  "Usage: z16sim <COMMAND>\n\n" ++
  "Commands:\n" ++
  "  disasm  Print the disassembly listing of a binary\n" ++
  "  run     Execute a binary and print its console output and final registers\n" ++
  "  help    Print this message or the help of the given subcommand(s)\n\n" ++
  "Options:\n" ++
  "  -h, --help     Print help\n" ++
  "  -V, --version  Print version\n"

/-- The outcome of a refused command line; help and version are asked for and no faults. -/
def Rejection.outcome : Rejection → Outcome
  | .help => { output := helpText }
  | .version => { output := versionText }
  | _ => { code := 2 }

end CommandLine

end Z16
