import EasyProspect.Overlapped

namespace EasyProspect

/-!
# One pipe of the control server

`process_control_win` keeps its state in tables with an entry for each of the pipe
instances.  The entries of all tables at one index are one `ControlPipe` here,
together with what the system knows about the instance and with a history of what
has passed through it.  A pipe instance outlives the connections made to it, so the
clients that connect are numbered, and messages are remembered with the number of
the client they come from or are meant for.

The listen loop works on one pipe at a time.  The stages are the points between
two of its atomic steps: the sections under `write_mutex`, the single operations on
a queue, and the calls of the system.
-/

open ControlPlatform (Constructed)

/-- `INSTANCES`. -/
abbrev instances : Nat :=
  4

/-- A pipe instance.  `created` is an instance to which `ConnectNamedPipe` has not
been applied; after `closed` the client has closed its end. -/
inductive Connection
  | created
  | disconnected
  | listening
  | connected (client : Nat)
  | closed (client : Nat)
  deriving DecidableEq

/-- The client that occupies the instance. -/
def Connection.client : Connection -> Option Nat
  | connected client => some client
  | closed client => some client
  | _ => none

/-- What `ConnectNamedPipe` returns. -/
inductive ConnectResult
  | pending
  | alreadyConnected
  | failed
  deriving DecidableEq

/-- The state of the `OVERLAPPED` of reads and connects. -/
inductive ReadStatus
  | pending
  | stored (client : Nat) (octets : Octets)
  | connected
  | failed
  deriving DecidableEq

/-- An element of `write_queue`, with the client that occupied the pipe when it was
sent. -/
structure Outgoing where
  octets : Octets
  addressee : Option Nat
  deriving DecidableEq

/-- An element of `read_queue`, with the client it was read from. -/
structure Incoming (longBits : Nat) where
  sender : Nat
  message : ProcessMessage longBits
  deriving DecidableEq

structure ControlPipe (longBits : Nat) where
  readReady : Bool
  writeReady : Bool
  readPending : Bool
  writePending : Bool
  writeQueue : List (Option Outgoing)
  readQueue : List (Incoming longBits)
  /-- The instance, and what its client has sent that is not read yet. -/
  connection : Connection
  unread : List Octets
  readStatus : ReadStatus
  readsInFlight : Nat
  writeStatus : WriteStatus
  writesInFlight : List WriteInFlight
  /-- What the clients have sent and what reads have taken of it. -/
  clientSent : List (Nat × Octets)
  taken : List (Nat × Octets)
  /-- What has been pushed on `read_queue`, and what `next_message` has returned, each
  with the client that occupied the pipe then. -/
  pushed : List (Incoming longBits)
  returned : List (Incoming longBits × Option Nat)
  /-- What has been passed to `send` and to `WriteFile`, and what has been written to
  which client. -/
  sent : List Outgoing
  handed : List Outgoing
  written : List (Outgoing × Nat)

/-- What the loop does after `DisconnectAndReconnect` or `connect_to_new_client`. -/
inductive Resume
  | setup
  | release
  | completion
  deriving DecidableEq

/-- Where the loop is in its work on a pipe.  At `disconnect` and `connect` it acts for the
pipe `meant`, on which an operation has failed or which is being set up. -/
inductive Stage
  | reads
  | writes
  | ready
  | nonEmpty
  | front
  | pop (buffer : Option Outgoing)
  | writeFile (buffer : Option Outgoing)
  | release
  | disconnect (meant : Nat) (resume : Resume)
  | connect (meant : Nat) (resume : Resume)
  | readCompletion
  | decode (client bytes : Nat)
  | writeCompletion
  deriving DecidableEq

/-- Where the loop goes next. -/
inductive Move
  | stay (stage : Stage)
  | disconnect (resume : Resume)
  | disconnectEvent
  | nextSetup
  | nextRead
  | nextWrite
  | turnEnd
  deriving DecidableEq

/-- What a step of the loop gets from outside. -/
inductive LoopInput (longBits : Nat)
  | step
  | readFile (result : IssueResult)
  | writeFile (result : IssueResult)
  | disconnected (succeeded : Bool)
  | connected (result : ConnectResult)
  | waited (result : WaitResult)
  | constructed (values : Constructed longBits)
  deriving DecidableEq

/-- What the system and the clients do to a pipe. -/
inductive PipeEvent
  | stores
  | readFails
  | writeCompletes (succeeded : Bool)
  | clientConnects
  | clientSends (octets : Octets)
  | clientCloses
  deriving DecidableEq

/-- The outcome of a step of the loop. -/
inductive Advance (longBits : Nat)
  | goes (pipe : ControlPipe longBits) (move : Move)
  | ends (ending : LoopEnding)

namespace ControlPipe

variable {longBits : Nat}

/-- After `CreateNamedPipe`. -/
def create (longBits : Nat) : ControlPipe longBits where
  readReady := false
  writeReady := false
  readPending := false
  writePending := false
  writeQueue := []
  readQueue := []
  connection := .created
  unread := []
  readStatus := .pending
  readsInFlight := 0
  writeStatus := .written
  writesInFlight := []
  clientSent := []
  taken := []
  pushed := []
  returned := []
  sent := []
  handed := []
  written := []

/-- The client that occupies the pipe. -/
def client (pipe : ControlPipe longBits) : Option Nat :=
  pipe.connection.client

/-! ## The system -/

/-- A read takes the next message.  Of one that is too long the rest remains, and the
read fails. -/
def store (pipe : ControlPipe longBits) : Option (ControlPipe longBits) :=
  match pipe.client, pipe.unread with
  | some client, octets :: rest =>
      if octets.length ≤ inputSize then
        some { pipe with
          unread := rest
          readStatus := .stored client octets
          taken := pipe.taken ++ [(client, octets)] }
      else
        some { pipe with
          unread := octets.drop inputSize :: rest
          readStatus := .failed }
  | _, _ => none

/-- `clients` is the number that the next client gets. -/
def occurs (clients : Nat) (pipe : ControlPipe longBits) :
    PipeEvent -> Option (ControlPipe longBits)
  | .stores =>
      if 0 < pipe.readsInFlight then
        pipe.store.map fun stored => { stored with readsInFlight := pipe.readsInFlight - 1 }
      else
        none
  | .readFails =>
      if 0 < pipe.readsInFlight then
        some { pipe with readStatus := .failed, readsInFlight := pipe.readsInFlight - 1 }
      else
        none
  | .writeCompletes succeeded =>
      match pipe.writesInFlight with
      | [] => none
      | _ :: rest =>
          some { pipe with
            writeStatus := if succeeded then .written else .failed
            writesInFlight := rest }
  | .clientConnects =>
      match pipe.connection with
      | .created => some { pipe with connection := .connected clients }
      | .listening =>
          some { pipe with connection := .connected clients, readStatus := .connected }
      | _ => none
  | .clientSends octets =>
      match pipe.connection with
      | .connected client =>
          some { pipe with
            unread := pipe.unread ++ [octets]
            clientSent := pipe.clientSent ++ [(client, octets)] }
      | _ => none
  | .clientCloses =>
      match pipe.connection with
      | .connected client => some { pipe with connection := .closed client }
      | _ => none

/-- `DisconnectNamedPipe`.  It ends the operations on the instance and discards what
has not been read. -/
def disconnected (pipe : ControlPipe longBits) (succeeded : Bool) : ControlPipe longBits :=
  if succeeded then
    { pipe with
      connection := .disconnected
      unread := []
      readsInFlight := 0
      writeStatus := if pipe.writesInFlight = [] then pipe.writeStatus else .failed
      writesInFlight := [] }
  else
    pipe

/-- `ConnectNamedPipe`. -/
def connected (pipe : ControlPipe longBits) :
    ConnectResult -> Option (ControlPipe longBits)
  | .pending =>
      if pipe.client = none then
        some { pipe with connection := .listening, readStatus := .pending }
      else
        none
  | .alreadyConnected =>
      match pipe.connection with
      | .connected _ => some { pipe with readStatus := .pending }
      | _ => none
  | .failed => some { pipe with readStatus := .pending }

/-! ## The other threads -/

/-- The section of `send` under `write_mutex`. -/
def enqueue (pipe : ControlPipe longBits) (octets : Octets) : ControlPipe longBits :=
  let buffer : Outgoing := ⟨octets, pipe.client⟩
  { pipe with
    writeReady := true
    writeQueue := pipe.writeQueue ++ [some buffer]
    sent := pipe.sent ++ [buffer] }

/-- `next_message`, behind the test for an empty queue. -/
def dequeue (pipe : ControlPipe longBits) : Option (ControlPipe longBits) :=
  match pipe.readQueue with
  | [] => none
  | incoming :: rest =>
      some { pipe with
        readQueue := rest
        returned := pipe.returned ++ [(incoming, pipe.client)] }

/-! ## The listen loop -/

/-- The call of `ReadFile`. -/
def issueRead (pipe : ControlPipe longBits) (result : IssueResult) : Option (Advance longBits) :=
  let issued := { pipe with readPending := true, readReady := false }
  match result with
  | .completed =>
      if pipe.unread.head?.any fun octets => octets.length ≤ inputSize then
        issued.store.map fun stored => .goes stored .nextRead
      else
        none
  | .pending =>
      if pipe.client = none then
        none
      else
        some (.goes { issued with
          readStatus := .pending
          readsInFlight := pipe.readsInFlight + 1 } .nextRead)
  | .failed => some (.ends (.threw (.logicError "ReadFile() error")))

/-- The call of `WriteFile`. -/
def issueWrite (pipe : ControlPipe longBits) (buffer : Outgoing) (result : IssueResult) :
    Option (Advance longBits) :=
  let handed := { pipe with handed := pipe.handed ++ [buffer] }
  match result, pipe.client with
  | .completed, some client =>
      some (.goes { handed with
        writePending := false
        writeStatus := .written
        written := pipe.written ++ [(buffer, client)] } (.stay .release))
  | .pending, some client =>
      some (.goes { handed with
        writePending := true
        writeStatus := .pending
        writesInFlight := pipe.writesInFlight ++ [⟨buffer.octets, true⟩]
        written := pipe.written ++ [(buffer, client)] } (.stay .release))
  | .failed, _ => some (.goes handed (.disconnect .release))
  | _, none => none

/-- The branch of an event below `INSTANCES`. -/
def completeRead (pipe : ControlPipe longBits) : Advance longBits :=
  if pipe.readPending then
    match pipe.readStatus with
    | .stored client octets =>
        if 0 < octets.length then
          .goes { pipe with readPending := false } (.stay (.decode client octets.length))
        else
          .goes { pipe with readPending := false, readReady := true } .turnEnd
    | .connected => .goes { pipe with readPending := false, readReady := true } .turnEnd
    | .pending => .goes pipe (.disconnect .completion)
    | .failed => .goes pipe (.disconnect .completion)
  else
    .goes { pipe with readReady := true } .turnEnd

/-- The branch of the other events.  `DisconnectAndReconnect` is given the number of the
event. -/
def completeWrite (pipe : ControlPipe longBits) : Advance longBits :=
  if pipe.writePending then
    match pipe.writeStatus with
    | .written => .goes { pipe with writePending := false } .turnEnd
    | .pending => .goes pipe .disconnectEvent
    | .failed => .goes pipe .disconnectEvent
  else
    .goes pipe .turnEnd

/-- After `connect_to_new_client`. -/
def resumed (pipe : ControlPipe longBits) : Resume -> Advance longBits
  | .setup => .goes pipe .nextSetup
  | .release => .goes pipe (.stay .release)
  | .completion => .goes { pipe with readReady := false, writeReady := false } .turnEnd

/-- The message of a completed read is queued. -/
def receive (platform : ControlPlatform) (constructed : Constructed platform.longBits)
    (input : Octets) (pipe : ControlPipe platform.longBits) (client bytes : Nat) :
    Advance platform.longBits :=
  match platform.receive constructed input bytes with
  | .returned message =>
      .goes { pipe with
        readReady := true
        readQueue := pipe.readQueue ++ [⟨client, message⟩]
        pushed := pipe.pushed ++ [⟨client, message⟩] } .turnEnd
  | .threw exception => .ends (.threw exception)
  | .undefined => .ends .undefined

/-- One atomic step of the loop on a pipe; `input` is the buffer of all reads. -/
def advance (platform : ControlPlatform) (input : Octets)
    (pipe : ControlPipe platform.longBits) :
    Stage -> LoopInput platform.longBits -> Option (Advance platform.longBits)
  | .reads, .step => if pipe.readReady then none else some (.goes pipe .nextRead)
  | .reads, .readFile result => if pipe.readReady then pipe.issueRead result else none
  | .writes, .step =>
      some (.goes { pipe with writeReady := !pipe.writeQueue.isEmpty } (.stay .ready))
  | .ready, .step => some (.goes pipe (if pipe.writeReady then .stay .nonEmpty else .nextWrite))
  | .nonEmpty, .step =>
      some (.goes pipe (if pipe.writeQueue.isEmpty then .nextWrite else .stay .front))
  | .front, .step =>
      match pipe.writeQueue with
      | [] => some (.ends .undefined)
      | buffer :: rest =>
          some (.goes { pipe with writeQueue := none :: rest } (.stay (.pop buffer)))
  | .pop buffer, .step =>
      match pipe.writeQueue with
      | [] => some (.ends .undefined)
      | _ :: rest => some (.goes { pipe with writeQueue := rest } (.stay (.writeFile buffer)))
  | .writeFile none, .writeFile _ => some (.ends .undefined)
  | .writeFile (some buffer), .writeFile result => pipe.issueWrite buffer result
  | .release, .step =>
      some (.goes { pipe with writesInFlight := freeBuffers pipe.writesInFlight } .nextWrite)
  | .disconnect meant resume, .disconnected succeeded =>
      some (.goes (pipe.disconnected succeeded) (.stay (.connect meant resume)))
  | .connect _ resume, .connected result =>
      (pipe.connected result).map fun connected => connected.resumed resume
  | .readCompletion, .step => some pipe.completeRead
  | .decode client bytes, .constructed constructed =>
      some (pipe.receive platform constructed input client bytes)
  | .writeCompletion, .step => some pipe.completeWrite
  | _, _ => none

end ControlPipe

end EasyProspect
