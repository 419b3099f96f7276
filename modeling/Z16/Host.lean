import Z16.Memory
import Z16.Registers
import Z16.Service

/-!
# Hosts

A host answers the calls that leave the machine. It sees the registers and the data memory of the
caller, may change both, and keeps a state of its own.
-/

namespace Z16

structure Context where
  registers : Registers
  memory : Memory

class Host (H : Type) where
  serve : HostCall → Context → H → Context × H

/-- The context and the host after a service; the end of the program is none of a host's calls. -/
def Service.perform {H : Type} [Host H] (s : Service) (context : Context) (host : H) :
    Context × H :=
  match s with
  | .host call => Host.serve call context host
  | .programExit => (context, host)

structure Silent where
  deriving DecidableEq, Repr

instance : Host Silent where
  serve _ context host := (context, host)

structure Recorder where
  log : Array (HostCall × Registers) := #[]
  deriving DecidableEq, Repr

instance : Host Recorder where
  serve call context host := (context, ⟨host.log.push (call, context.registers)⟩)

end Z16
