import Z16.Host
import Z16.Text
import Z16.Decimal.Reading

/-!
# The console

A host with queued lines and keys for input and a text for output. Reading from an empty queue gives
an empty line or the key 0. The audio calls are silent.
-/

namespace Z16

structure Console where
  lines : List String := []
  keys : List Byte := []
  output : String := ""
  deriving DecidableEq, Repr

namespace Console

def pushLine (c : Console) (line : String) : Console := { c with lines := c.lines ++ [line] }

def pushKeys (c : Console) (keys : List Byte) : Console := { c with keys := c.keys ++ keys }

def print (c : Console) (text : String) : Console := { c with output := c.output ++ text }

def takeOutput (c : Console) : String × Console := (c.output, { c with output := "" })

def nextLine (c : Console) : String × Console := (c.lines.headD "", { c with lines := c.lines.tail })

def nextKey (c : Console) : Byte × Console := (c.keys.headD 0, { c with keys := c.keys.tail })

/-- Stores as much of the next line at `a0` as fits in `a1` bytes together with a final zero, and puts
its length into `a0`. Without room for the zero nothing is stored. -/
def readString (context : Context) (c : Console) : Context × Console :=
  let (line, c) := c.nextLine
  let start := context.registers.read a0
  let capacity := (context.registers.read a1).toNat
  if capacity = 0 then ({ context with registers := context.registers.write a0 0 }, c)
  else
    let kept := line.toByteArray.data.toList.take (capacity - 1)
    ({ registers := context.registers.write a0 (.ofNat kept.length)
       memory := context.memory.storeBytes start (kept ++ [0]) }, c)

/-- The number that a line writes between blanks, if 32 bits hold it, and else 0. -/
def lineValue (line : String) : Int :=
  match Decimal.readInt? (Text.strip line.toList) with
  | some n => if -0x80000000 ≤ n ∧ n < 0x80000000 then n else 0
  | none => 0

def readInteger (context : Context) (c : Console) : Context × Console :=
  let (line, c) := c.nextLine
  ({ context with registers := context.registers.write a0 (.ofInt (lineValue line)) }, c)

def printString (context : Context) (c : Console) : Console :=
  c.print (Text.decodeUtf8 (context.memory.loadString (context.registers.read a0)))

def readKeyboard (context : Context) (c : Console) : Context × Console :=
  let (key, c) := c.nextKey
  ({ context with registers := context.registers.write a0 key.toUInt16 }, c)

def linesText (lines : List String) : String := String.join (lines.map (· ++ "\n"))

def dumpRow (start : Word) (bytes : List Byte) : String :=
  "0x" ++ Text.hex 4 start.toNat ++ ": " ++
    " ".intercalate (bytes.map fun b => Text.hex 2 b.toNat)

def dumpRows (m : Memory) (start : Word) (count : Nat) : List String :=
  (List.range ((count + 15) / 16)).map fun row =>
    let base := start + .ofNat (16 * row)
    dumpRow base (m.loadBytes base (min 16 (count - 16 * row)))

def memoryDump (context : Context) (c : Console) : Console :=
  c.print <| linesText <|
    dumpRows context.memory (context.registers.read a0) (context.registers.read a1).toNat

def registersDump (context : Context) (c : Console) : Console :=
  c.print (linesText context.registers.dump)

instance : Host Console where
  serve call context c :=
    match call with
    | .readString => readString context c
    | .readInteger => readInteger context c
    | .printString => (context, printString context c)
    | .readKeyboard => readKeyboard context c
    | .registersDump => (context, registersDump context c)
    | .memoryDump => (context, memoryDump context c)
    | .playTone | .setAudioVolume | .stopAudio => (context, c)

end Console

end Z16
