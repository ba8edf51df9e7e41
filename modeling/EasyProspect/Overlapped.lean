import EasyProspect.ControlMessage

namespace EasyProspect

/-!
# Overlapped operations on the control pipe

What both ends of the control pipe use of the operating system.  `ReadFile`,
`WriteFile` and `ConnectNamedPipe` start an operation and may leave it pending;
from then on the `OVERLAPPED` they were given is pending, until the system finishes
the operation and `GetOverlappedResult` reports how.  `WaitForMultipleObjects` may
return with any event, whether or not an operation has finished.
-/

/-- What `ReadFile` and `WriteFile` return. -/
inductive IssueResult
  | completed
  | pending
  | failed
  deriving DecidableEq

/-- What `WaitForMultipleObjects` returns. -/
inductive WaitResult
  | timeout
  | failed
  | signalled (event : Nat)
  deriving DecidableEq

/-- The state of the `OVERLAPPED` of a write. -/
inductive WriteStatus
  | pending
  | written
  | failed
  deriving DecidableEq

/-- A write that is pending, and whether the buffer it was given is still allocated. -/
structure WriteInFlight where
  octets : Octets
  allocated : Bool
  deriving DecidableEq

/-- The end of the block that owns the buffers. -/
def freeBuffers (writes : List WriteInFlight) : List WriteInFlight :=
  writes.map fun write => { write with allocated := false }

/-- How the thread of a listen loop, or the process, ends. -/
inductive LoopEnding
  | returned
  | threw (exception : ControlException)
  | undefined
  deriving DecidableEq

/-- The size of `input_buffer`. -/
def inputSize : Nat :=
  50000

/-- `input_buffer` when it is made. -/
def freshInput : Octets :=
  List.replicate inputSize 0

/-- What a read stores of a message.  A message that is too long fills the buffer. -/
def storedPart (octets : Octets) : Octets :=
  octets.take inputSize

/-- The buffer after a read has stored the next message. -/
def fillInput (input : Octets) : List Octets -> Octets
  | [] => input
  | octets :: _ => storedPart octets ++ input.drop (storedPart octets).length

end EasyProspect
