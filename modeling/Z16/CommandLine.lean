import Z16.Clock
import Z16.Decimal.Reading

/-!
# The command line

A command line names a command, a file and, for a run, settings; two settings may also come from
environment variables. A value is checked only when the next option or operand has been recognised,
so that an argument that is unknown is reported before a fault in the value in front of it.

`scan` and `parse` stand for an argument parser outside this library and follow its documented rules:
the value of an option is the next argument or what follows an equals sign, two dashes end the options,
and an option goes before the variable that stands in for it.
-/

namespace Z16

structure Settings where
  frequency : Decimal.Binary64 := Clock.defaultFrequency
  maxSteps : Option Nat := none
  fast : Bool := false
  input : List String := []
  deriving DecidableEq, Repr

namespace CommandLine

inductive Invocation where
  | disassemble (file : String)
  | run (file : String) (settings : Settings)
  deriving DecidableEq, Repr

inductive Rejection where
  /-- An option that does not exist, or more operands than one file. -/
  | unknownArgument
  /-- An option without its value, or a file without a name. -/
  | missingValue
  | invalidNumber
  | repeatedOption
  | unexpectedValue
  | missingFile
  | unknownCommand
  | noCommand
  | help
  | version
  deriving DecidableEq, Repr

structure Environment where
  frequency : Option String := none
  maxSteps : Option String := none
  deriving DecidableEq, Repr

/-! ## Values -/

inductive ValueOption where
  | frequency | maxSteps | input
  deriving DecidableEq, Repr

inductive Flag where
  | fast | help
  deriving DecidableEq, Repr

structure Found where
  file : Option String := none
  frequency : Option Decimal.Binary64 := none
  maxSteps : Option Nat := none
  fast : Bool := false
  input : List String := []
  deriving DecidableEq, Repr

def readFrequency (text : String) : Except Rejection Decimal.Binary64 :=
  match Decimal.Binary64.read? text.toList with
  | some f => .ok f
  | none => .error .invalidNumber

def readSteps (text : String) : Except Rejection Nat :=
  match Decimal.readNat? text.toList with
  | some n => if n < UInt64.size then .ok n else .error .invalidNumber
  | none => .error .invalidNumber

namespace Found

def addValue (found : Found) (o : ValueOption) (text : String) : Except Rejection Found :=
  match o with
  | .frequency =>
    if found.frequency.isSome then .error .repeatedOption
    else (readFrequency text).map fun f => { found with frequency := some f }
  | .maxSteps =>
    if found.maxSteps.isSome then .error .repeatedOption
    else (readSteps text).map fun n => { found with maxSteps := some n }
  | .input => .ok { found with input := found.input ++ [text] }

def addFile (found : Found) (file : String) : Except Rejection Found :=
  if file = "" then .error .missingValue else .ok { found with file := some file }

def addFast (found : Found) : Except Rejection Found :=
  if found.fast then .error .repeatedOption else .ok { found with fast := true }

end Found

/-- What is recognised but not yet checked. -/
inductive Pending where
  | nothing
  | option (o : ValueOption)
  | value (o : ValueOption) (text : String)
  | file (text : String)
  deriving DecidableEq, Repr

def Found.settle (found : Found) : Pending → Except Rejection Found
  | .nothing => .ok found
  | .option _ => .error .missingValue
  | .value o text => found.addValue o text
  | .file text => found.addFile text

/-! ## Arguments -/

inductive Argument where
  | separator
  /-- Two dashes and a name, possibly with a value after the first equals sign. -/
  | long (name : String) (value : Option String)
  /-- One dash and letters, of which the first counts. -/
  | short (letter : Char)
  | operand (text : String)
  deriving DecidableEq, Repr

def Argument.ofText (text : String) : Argument :=
  match text.toList with
  | ['-', '-'] => .separator
  | '-' :: '-' :: rest =>
    let name := rest.takeWhile (· ≠ '=')
    match rest.dropWhile (· ≠ '=') with
    | _ :: value => .long (.ofList name) (some (.ofList value))
    | [] => .long (.ofList name) none
  | '-' :: letter :: _ => .short letter
  | _ => .operand text

inductive Verb where
  | disassemble | run
  deriving DecidableEq, Repr

def Verb.option? (verb : Verb) (name : String) : Option (ValueOption ⊕ Flag) :=
  match verb, name with
  | _, "help" => some (.inr .help)
  | .run, "frequency" => some (.inl .frequency)
  | .run, "max-steps" => some (.inl .maxSteps)
  | .run, "input" => some (.inl .input)
  | .run, "fast" => some (.inr .fast)
  | _, _ => none

def scanOperands (found : Found) (pending : Pending) : List String → Except Rejection Found
  | [] => found.settle pending
  | text :: rest =>
    match found.file, pending with
    | some _, _ | _, .file _ => .error .unknownArgument
    | none, _ => do scanOperands (← found.settle pending) (.file text) rest

def scan (verb : Verb) (found : Found) (pending : Pending) : List String → Except Rejection Found
  | [] => found.settle pending
  | text :: rest =>
    match Argument.ofText text with
    | .separator => scanOperands found pending rest
    | .long name value =>
      match verb.option? name, value with
      | none, _ => .error .unknownArgument
      | some (.inr _), some _ => .error .unexpectedValue
      | some (.inr .help), none => do
        let _ ← found.settle pending
        .error .help
      | some (.inr .fast), none => do
        scan verb (← (← found.settle pending).addFast) .nothing rest
      | some (.inl o), some value => do
        scan verb (← (← found.settle pending).addValue o value) .nothing rest
      | some (.inl o), none => do scan verb (← found.settle pending) (.option o) rest
    | .short letter =>
      if letter = 'h' then do
        let _ ← found.settle pending
        .error .help
      else .error .unknownArgument
    | .operand text =>
      match pending, found.file with
      | .option o, _ => scan verb found (.value o text) rest
      | _, some _ | .file _, _ => .error .unknownArgument
      | _, none => do scan verb (← found.settle pending) (.file text) rest

/-! ## Commands -/

def withVariable {α : Type} (given : Option α) (fallback : Option String)
    (read : String → Except Rejection α) : Except Rejection (Option α) :=
  match given, fallback with
  | some v, _ => .ok (some v)
  | none, some text => (read text).map some
  | none, none => .ok none

def Verb.invocation (verb : Verb) (env : Environment) (args : List String) :
    Except Rejection Invocation := do
  let found ← scan verb {} .nothing args
  match verb with
  | .disassemble =>
    match found.file with
    | some file => return .disassemble file
    | none => .error .missingFile
  | .run =>
    let frequency ← withVariable found.frequency env.frequency readFrequency
    let maxSteps ← withVariable found.maxSteps env.maxSteps readSteps
    match found.file with
    | some file =>
      return .run file
        { frequency := frequency.getD Clock.defaultFrequency
          maxSteps
          fast := found.fast
          input := found.input }
    | none => .error .missingFile

def commandNames : List String := ["disasm", "run", "help"]

/-- The answer to `help`, which explains one command or all of them. -/
def helpRejection : List String → Rejection
  | [] => .help
  | [name] => if name ∈ commandNames then .help else .unknownCommand
  | _ => .unknownCommand

def parse (env : Environment) : List String → Except Rejection Invocation
  | [] => .error .noCommand
  | "disasm" :: rest => Verb.disassemble.invocation env rest
  | "run" :: rest => Verb.run.invocation env rest
  | "help" :: rest => .error (helpRejection rest)
  | text :: rest =>
    match Argument.ofText text with
    | .separator =>
      match rest with
      | [] => .error .noCommand
      | name :: _ => .error (if name ∈ commandNames then .unknownArgument else .unknownCommand)
    | .long name value =>
      if name ≠ "help" ∧ name ≠ "version" then .error .unknownArgument
      else if value.isSome then .error .unexpectedValue
      else .error (if name = "help" then .help else .version)
    | .short letter =>
      .error (if letter = 'h' then .help else if letter = 'V' then .version else .unknownArgument)
    | .operand _ => .error .unknownCommand

end CommandLine

end Z16
