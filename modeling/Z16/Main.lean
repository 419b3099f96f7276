import Z16.Outcome

/-!
# The program

Reads the command line and the file, and writes the outcome. A clocked run is paced by the clock: each
tick waits for its half period, and what the program prints is written tick by tick.
-/

namespace Z16.CommandLine

def Rejection.complaint : Rejection → String
  | .help | .version => ""
  | .noCommand => helpText
  | .unknownArgument => "error: unexpected argument\n"
  | .missingValue => "error: a value is required\n"
  | .invalidNumber => "error: invalid value\n"
  | .repeatedOption => "error: an option cannot be used multiple times\n"
  | .unexpectedValue => "error: a flag takes no value\n"
  | .missingFile => "error: the required argument <FILE> was not provided\n"
  | .unknownCommand => "error: unrecognized subcommand\n"

def readContent (file : String) : IO (Option (Array Byte)) := do
  try return some (← IO.FS.readBinFile file).data
  catch _ => return none

/-- Ticks until the clock has ended and writes the output after each tick. -/
partial def paced (s : Simulator Console) : IO (Machine Console) := do
  match s.clock? with
  | some c =>
    if c.ended then return s.machine
    IO.sleep (UInt32.ofNat (c.halfPeriod / 1000000))
    let (text, next) := (s.tick c).2.drain
    IO.print text
    (← IO.getStdout).flush
    paced next
  | none => return s.machine

def Invocation.execute (invocation : Invocation) : IO UInt32 := do
  let content ← readContent invocation.file
  match content.map Image.ofBytes, invocation with
  | some (.ok image), .run _ settings =>
    if settings.fast then
      IO.print (settings.runFast image).output
      return 0
    match settings.simulator image with
    | .ok s =>
      let m ← paced s
      IO.print m.summary
      return 0
    | .error e =>
      IO.eprintln e.message
      return 1
  | some (.ok image), .disassemble _ =>
    IO.print (Listing.ofWords image.programWords).text
    return 0
  | some (.error e), _ =>
    IO.eprintln e.message
    return 1
  | none, _ =>
    IO.eprintln ("cannot read " ++ invocation.file)
    return 1

end Z16.CommandLine

open Z16.CommandLine in
def main (args : List String) : IO UInt32 := do
  let env : Environment :=
    { frequency := ← IO.getEnv "Z16_FREQUENCY", maxSteps := ← IO.getEnv "Z16_MAX_STEPS" }
  match parse env args with
  | .ok invocation => invocation.execute
  | .error r =>
    IO.eprint r.complaint
    IO.print r.outcome.output
    return UInt32.ofNat r.outcome.code
