import EasyProspect.Library.Transition
import EasyProspect.Overlapped

namespace EasyProspect

/-!
# The control client of a worker

The listen loop of `process_cntrl_client_win` opens the pipe and then reads and
writes in turns.  A message that has been read is pushed on a queue and a handler is
posted to a pool of threads; the handler takes whatever is in front of the queue by
then and acts on it.  A run is any interleaving of the loop with calls of `send`, with
the handlers, and with the system and the server at the other end.
-/

open ControlPlatform (Constructed)

/-- The state of the `OVERLAPPED` of the reads. -/
inductive ClientReadStatus
  | pending
  | stored (octets : Octets)
  | failed
  deriving DecidableEq

/-- Where the loop is, between two of its atomic steps. -/
inductive ClientPoint (longBits : Nat)
  | opening
  | turn
  | writeTest
  | lockWrites
  | writeReady
  | front
  | pop (buffer : Option Octets)
  | writeFile (buffer : Option Octets)
  | release
  | waiting
  | readCompletion
  | decode (bytes : Nat)
  | push (message : ProcessMessage longBits)
  | post
  | writeCompletion
  | turnEnd
  deriving DecidableEq

structure ControlClient (longBits : Nat) where
  readPipe : Bool
  writePipe : Bool
  readPending : Bool
  writePending : Bool
  stop : Bool
  writeQueue : List (Option Octets)
  readQueue : List (ProcessMessage longBits)
  inputBuffer : Octets
  point : ClientPoint longBits
  ending : Option LoopEnding
  /-- What the server has sent that is not read yet, and the operations of the system. -/
  unread : List Octets
  readStatus : ClientReadStatus
  readsInFlight : Nat
  writeStatus : WriteStatus
  writesInFlight : List WriteInFlight
  /-- The handlers that have been posted and have not popped, and the messages of those
  that have popped and not acted. -/
  posted : Nat
  holding : List (ProcessMessage longBits)
  /-- What has been passed to `send` and to `WriteFile`, what has been pushed on
  `read_queue`, what has been passed to `do_action`, and the calls of `shutdown_func`. -/
  sent : List Octets
  handed : List Octets
  received : List (ProcessMessage longBits)
  acted : List (ProcessMessage longBits)
  shutdowns : Nat

/-- How the attempt to open the pipe ends. -/
inductive OpenResult
  | opened
  | busy
  | failed (what : String)
  deriving DecidableEq

/-- What a step of the loop gets from outside. -/
inductive ClientInput (longBits : Nat)
  | step
  | openFile (result : OpenResult)
  | readFile (result : IssueResult)
  | writeFile (result : IssueResult)
  | waited (result : WaitResult)
  | constructed (values : Constructed longBits)
  deriving DecidableEq

/-- A step of the loop, of another thread or a handler, or of the system or the server. -/
inductive ClientLabel (longBits : Nat)
  | loop (input : ClientInput longBits)
  | send (message : ProcessMessage longBits)
  | handlerPops
  | handlerActs (position : Nat)
  | stores
  | readFails
  | writeCompletes (succeeded : Bool)
  | serverSends (octets : Octets)
  deriving DecidableEq

namespace ControlClient

variable {longBits : Nat}

/-- When the thread of the loop starts. -/
def create (longBits : Nat) : ControlClient longBits where
  readPipe := true
  writePipe := true
  readPending := false
  writePending := false
  stop := false
  writeQueue := []
  readQueue := []
  inputBuffer := freshInput
  point := .opening
  ending := none
  unread := []
  readStatus := .pending
  readsInFlight := 0
  writeStatus := .written
  writesInFlight := []
  posted := 0
  holding := []
  sent := []
  handed := []
  received := []
  acted := []
  shutdowns := 0

/-- Nothing runs any more.  In the thread of the loop a `logic_error` is caught. -/
def terminated (world : ControlClient longBits) : Bool :=
  match world.ending with
  | some (.threw (.logicError _)) => false
  | some (.threw _) => true
  | some .undefined => true
  | _ => false

def ends (world : ControlClient longBits) (ending : LoopEnding) : ControlClient longBits :=
  { world with ending := some ending }

def goes (world : ControlClient longBits) (point : ClientPoint longBits) :
    ControlClient longBits :=
  { world with point := point }

/-- A read takes the next message.  Of one that is too long the rest remains, and the
read fails. -/
def store (world : ControlClient longBits) : Option (ControlClient longBits) :=
  match world.unread with
  | [] => none
  | octets :: rest =>
      let filled := fillInput world.inputBuffer world.unread
      if octets.length ≤ inputSize then
        some { world with
          unread := rest
          inputBuffer := filled
          readStatus := .stored octets }
      else
        some { world with
          unread := octets.drop inputSize :: rest
          inputBuffer := filled
          readStatus := .failed }

/-! ## The listen loop -/

def afterOpen (world : ControlClient longBits) : OpenResult -> ControlClient longBits
  | .opened => world.goes .turn
  | .busy => world
  | .failed what => world.ends (.threw (.logicError what))

/-- The call of `ReadFile`. -/
def issueRead (world : ControlClient longBits) (result : IssueResult) :
    Option (ControlClient longBits) :=
  let issued := { world with readPending := true, readPipe := false, point := .writeTest }
  match result with
  | .completed =>
      if world.unread.head?.any fun octets => octets.length ≤ inputSize then issued.store
      else none
  | .pending =>
      some { issued with readStatus := .pending, readsInFlight := world.readsInFlight + 1 }
  | .failed => some (issued.ends (.threw (.logicError "ReadFile() error")))

/-- The section under `write_mutex`. -/
def lockWrites (world : ControlClient longBits) : ControlClient longBits :=
  if world.writeQueue.isEmpty then
    { world with writePipe := false, writePending := false, point := .writeReady }
  else
    { world with writePipe := true, writePending := true, point := .writeReady }

/-- The call of `WriteFile`. -/
def issueWrite (world : ControlClient longBits) (buffer : Octets) (result : IssueResult) :
    ControlClient longBits :=
  let handed := { world with handed := world.handed ++ [buffer], point := .release }
  match result with
  | .completed => { handed with writePending := false, writeStatus := .written }
  | .pending =>
      { handed with
        writePending := true
        writeStatus := .pending
        writesInFlight := world.writesInFlight ++ [⟨buffer, true⟩] }
  | .failed => handed

/-- `switch (dwWait)`. -/
def afterWait (world : ControlClient longBits) : WaitResult -> ControlClient longBits
  | .timeout => world.goes .turnEnd
  | .failed => { world with stop := true, point := .turnEnd }
  | .signalled 0 => { world with readPipe := true, point := .readCompletion }
  | .signalled 1 => { world with writePipe := true, point := .writeCompletion }
  | .signalled _ => world.goes .turnEnd

/-- `GetOverlappedResult` for the read.  An error other than `ERROR_IO_INCOMPLETE` is only
logged. -/
def completeRead (world : ControlClient longBits) : ControlClient longBits :=
  if world.readPending then
    match world.readStatus with
    | .stored octets =>
        if 0 < octets.length then
          { world with readPending := false, point := .decode octets.length }
        else
          { world with readPending := false, point := .turnEnd }
    | .pending => { world with readPending := true, point := .turnEnd }
    | .failed => { world with readPending := false, point := .turnEnd }
  else
    world.goes .turnEnd

/-- `GetOverlappedResult` for the write. -/
def completeWrite (world : ControlClient longBits) : ControlClient longBits :=
  if world.writePending then
    match world.writeStatus with
    | .pending => { world with writePending := true, point := .turnEnd }
    | _ => { world with writePending := false, point := .turnEnd }
  else
    world.goes .turnEnd

def loopStep (platform : ControlPlatform) (world : ControlClient platform.longBits)
    (input : ClientInput platform.longBits) : Option (ControlClient platform.longBits) :=
  match world.point, input with
  | .opening, .openFile result => some (world.afterOpen result)
  | .turn, .step => if world.readPipe then none else some (world.goes .writeTest)
  | .turn, .readFile result => if world.readPipe then world.issueRead result else none
  | .writeTest, .step => some (world.goes (if world.writePipe then .lockWrites else .waiting))
  | .lockWrites, .step => some world.lockWrites
  | .writeReady, .step => some (world.goes (if world.writePipe then .front else .waiting))
  | .front, .step =>
      match world.writeQueue with
      | [] => some (world.ends .undefined)
      | buffer :: rest => some { world with writeQueue := none :: rest, point := .pop buffer }
  | .pop buffer, .step =>
      match world.writeQueue with
      | [] => some (world.ends .undefined)
      | _ :: rest => some { world with writeQueue := rest, point := .writeFile buffer }
  | .writeFile none, .writeFile _ => some (world.ends .undefined)
  | .writeFile (some buffer), .writeFile result => some (world.issueWrite buffer result)
  | .release, .step =>
      some { world with writesInFlight := freeBuffers world.writesInFlight, point := .waiting }
  | .waiting, .waited result => some (world.afterWait result)
  | .readCompletion, .step => some world.completeRead
  | .decode bytes, .constructed constructed =>
      match platform.receive constructed world.inputBuffer bytes with
      | .returned message => some (world.goes (.push message))
      | .threw exception => some (world.ends (.threw exception))
      | .undefined => some (world.ends .undefined)
  | .push message, .step =>
      some { world with
        readQueue := world.readQueue ++ [message]
        received := world.received ++ [message]
        point := .post }
  | .post, .step => some { world with posted := world.posted + 1, point := .turnEnd }
  | .writeCompletion, .step => some world.completeWrite
  | .turnEnd, .step => some (if world.stop then world.ends .returned else world.goes .turn)
  | _, _ => none

/-! ## The other threads -/

/-- `send`, which throws until the pipe is open.  An exception of `pack` reaches the
caller too. -/
def send (platform : ControlPlatform) (world : ControlClient platform.longBits)
    (message : ProcessMessage platform.longBits) : ControlClient platform.longBits :=
  if world.point = .opening then
    world
  else
    match platform.messageText message, platform.packMessage message with
    | .returned _, .returned octets =>
        { world with
          writePipe := true
          writeQueue := world.writeQueue ++ [some octets]
          sent := world.sent ++ [octets] }
    | .threw _, _ => world
    | .returned _, .threw _ => world
    | _, _ => world.ends .undefined

/-- The part of a handler under `read_mutex`. -/
def handlerPops (world : ControlClient longBits) : ControlClient longBits :=
  match world.readQueue with
  | [] => world.ends .undefined
  | message :: rest =>
      { world with
        readQueue := rest
        posted := world.posted - 1
        holding := world.holding ++ [message] }

/-- `process_message_actions::do_action`, with the number of calls of
`shutdown_func`. -/
def doAction (platform : ControlPlatform) (message : ProcessMessage platform.longBits) :
    Outcome Nat :=
  let shown (shutdowns : Nat) : Outcome Nat :=
    match platform.messageText message with
    | .returned _ => .returned shutdowns
    | .threw exception => .threw exception
    | .undefined => .undefined
  match message.type with
  | .none => .returned 0
  | .base => .returned 0
  | .start => shown 0
  | .ping => .returned 0
  | .pong => .returned 0
  | .cmdStop => shown 1
  | .cmdResult => shown 0
  | .unlisted _ _ => .threw (.runtimeError "do_action: invalid msg type")

/-- A handler acts on the message it has popped.  Nothing catches what it throws. -/
def handlerActs (platform : ControlPlatform) (world : ControlClient platform.longBits)
    (position : Nat) (message : ProcessMessage platform.longBits) :
    ControlClient platform.longBits :=
  let acting := { world with
    holding := world.holding.eraseIdx position
    acted := world.acted ++ [message] }
  match doAction platform message with
  | .returned shutdowns => { acting with shutdowns := world.shutdowns + shutdowns }
  | .threw exception => acting.ends (.threw exception)
  | .undefined => acting.ends .undefined

/-- One atomic step. -/
def step (platform : ControlPlatform) (world : ControlClient platform.longBits)
    (label : ClientLabel platform.longBits) : Option (ControlClient platform.longBits) :=
  if world.terminated then
    none
  else
    match label with
    | .loop input => if world.ending = none then world.loopStep platform input else none
    | .send message => some (world.send platform message)
    | .handlerPops => if 0 < world.posted then some world.handlerPops else none
    | .handlerActs position =>
        world.holding[position]?.map fun message => world.handlerActs platform position message
    | .stores =>
        if 0 < world.readsInFlight then
          world.store.map fun stored => { stored with readsInFlight := world.readsInFlight - 1 }
        else
          none
    | .readFails =>
        if 0 < world.readsInFlight then
          some { world with readStatus := .failed, readsInFlight := world.readsInFlight - 1 }
        else
          none
    | .writeCompletes succeeded =>
        match world.writesInFlight with
        | [] => none
        | _ :: rest =>
            some { world with
              writeStatus := if succeeded then .written else .failed
              writesInFlight := rest }
    | .serverSends octets => some { world with unread := world.unread ++ [octets] }

def system (platform : ControlPlatform) :
    Transition.System (ControlClient platform.longBits) (ClientLabel platform.longBits) :=
  .ofStep (fun world => world = create platform.longBits) (step platform)

end ControlClient

end EasyProspect
