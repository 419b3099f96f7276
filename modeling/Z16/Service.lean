import Z16.Instruction

namespace Z16

inductive HostCall where
  | readString | readInteger | printString | playTone | setAudioVolume | stopAudio | readKeyboard
  | registersDump | memoryDump
  deriving DecidableEq, Repr

inductive Service where
  | host (call : HostCall)
  | programExit
  deriving DecidableEq, Repr

namespace Service

def ofCode? : UInt16 → Option Service
  | 1 => some (.host .readString)
  | 2 => some (.host .readInteger)
  | 3 => some (.host .printString)
  | 4 => some (.host .playTone)
  | 5 => some (.host .setAudioVolume)
  | 6 => some (.host .stopAudio)
  | 7 => some (.host .readKeyboard)
  | 8 => some (.host .registersDump)
  | 9 => some (.host .memoryDump)
  | 10 => some .programExit
  | _ => none

def code : Service → UInt16
  | .host .readString => 1
  | .host .readInteger => 2
  | .host .printString => 3
  | .host .playTone => 4
  | .host .setAudioVolume => 5
  | .host .stopAudio => 6
  | .host .readKeyboard => 7
  | .host .registersDump => 8
  | .host .memoryDump => 9
  | .programExit => Instruction.exitCode

def name : Service → String
  | .host .readString => "Read String"
  | .host .readInteger => "Read Integer"
  | .host .printString => "Print String"
  | .host .playTone => "Play Tone"
  | .host .setAudioVolume => "Set Audio Volume"
  | .host .stopAudio => "Stop Audio"
  | .host .readKeyboard => "Read Keyboard"
  | .host .registersDump => "Registers Dump"
  | .host .memoryDump => "Memory Dump"
  | .programExit => "Program Exit"

theorem ofCode?_code (s : Service) : ofCode? s.code = some s := by
  rcases s with call | _
  · cases call <;> rfl
  · rfl

end Service

end Z16
