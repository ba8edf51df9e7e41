import EasyProspect.ControlPipe
import EasyProspect.Library.Transition
import Mathlib.Logic.Function.Basic

namespace EasyProspect

/-!
# The control server

The listen loop of `process_control_win` starts the reads of all pipes, then the
writes of all pipes, and then waits for one event.  It runs beside the threads that
call `send`, `next_message` and `stop`, the clients and the system; a run is any
interleaving of their steps.  `setup` is the first thing the loop does here.

Each stage says which entries of the tables its step uses.  A step that would use an
entry outside its table ends in undefined behaviour.
-/

/-- An entry of a table: `Pipe`, the flags and the queues have `INSTANCES` entries,
`hEvents` and `woverlapped` twice as many. -/
inductive TableUse
  | pipe (index : Nat)
  | event (index : Nat)
  deriving DecidableEq

def TableUse.Within : TableUse -> Prop
  | pipe index => index < instances
  | event index => index < 2 * instances

instance (use : TableUse) : Decidable use.Within :=
  match use with
  | .pipe index => inferInstanceAs (Decidable (index < instances))
  | .event index => inferInstanceAs (Decidable (index < 2 * instances))

/-- The entries that the step at a stage uses. -/
def Stage.uses (index : Nat) : Stage -> List TableUse
  | .reads => [.pipe index, .event index]
  | .writes => [.pipe index, .event (index + instances)]
  | .ready => [.pipe index]
  | .nonEmpty => [.pipe index]
  | .front => [.pipe index]
  | .pop _ => [.pipe index]
  | .writeFile _ => [.pipe index, .event (index + instances)]
  | .release => [.pipe index]
  | .disconnect _ _ => [.pipe index]
  | .connect _ _ => [.pipe index, .event index]
  | .readCompletion => [.pipe index, .event index]
  | .decode _ _ => [.pipe index]
  | .writeCompletion => [.pipe index, .event (index + instances)]

def Stage.InBounds (index : Nat) (stage : Stage) : Prop :=
  forall use, use ∈ stage.uses index -> use.Within

instance (index : Nat) (stage : Stage) : Decidable (stage.InBounds index) :=
  inferInstanceAs (Decidable (forall use, use ∈ stage.uses index -> use.Within))

/-- Where the loop is. -/
inductive LoopPoint
  | pipe (index : Nat) (stage : Stage)
  | turn
  | beforeWait
  | waiting
  | turnEnd
  deriving DecidableEq

namespace LoopPoint

/-- The stage of the loop's work on this pipe. -/
def stageOf (index : Nat) : LoopPoint -> Option Stage
  | pipe current stage => if current = index then some stage else none
  | _ => none

end LoopPoint

/-- The next point of the loop when it works on a pipe. -/
def Move.point (index : Nat) : Move -> LoopPoint
  | .stay stage => .pipe index stage
  | .disconnect resume => .pipe index (.disconnect index resume)
  | .disconnectEvent => .pipe (index + instances) (.disconnect index .completion)
  | .nextSetup =>
      if index + 1 < instances then .pipe (index + 1) (.connect (index + 1) .setup) else .turn
  | .nextRead => if index + 1 < instances then .pipe (index + 1) .reads else .pipe 0 .writes
  | .nextWrite => if index + 1 < instances then .pipe (index + 1) .writes else .beforeWait
  | .turnEnd => .turnEnd

structure ControlServer (longBits : Nat) where
  pipes : Nat -> ControlPipe longBits
  inputBuffer : Octets
  stopLoop : Bool
  point : LoopPoint
  ending : Option LoopEnding
  /-- The number of clients that have connected. -/
  clients : Nat

/-- A step of the loop, of another thread, or of the system or a client. -/
inductive ServerLabel (longBits : Nat)
  | loop (input : LoopInput longBits)
  | send (index : Nat) (message : ProcessMessage longBits)
  | nextMessage (index : Nat)
  | stop
  | pipe (index : Nat) (event : PipeEvent)
  deriving DecidableEq

namespace ControlServer

variable {longBits : Nat}

/-- Before `setup` connects the first pipe. -/
def create (longBits : Nat) : ControlServer longBits where
  pipes := fun _ => .create longBits
  inputBuffer := freshInput
  stopLoop := false
  point := .pipe 0 (.connect 0 .setup)
  ending := none
  clients := 0

def setPipe (world : ControlServer longBits) (index : Nat) (pipe : ControlPipe longBits) :
    ControlServer longBits :=
  { world with pipes := Function.update world.pipes index pipe }

/-- Nothing runs any more.  No exception is caught in the thread of the loop. -/
def terminated (world : ControlServer longBits) : Bool :=
  match world.ending with
  | some (.threw _) => true
  | some .undefined => true
  | _ => false

/-- The buffer after a `ReadFile` that may complete at once. -/
def inputAfter (world : ControlServer longBits) (index : Nat) (input : LoopInput longBits) :
    Octets :=
  match input with
  | .readFile .completed => fillInput world.inputBuffer (world.pipes index).unread
  | _ => world.inputBuffer

def pipeStep (platform : ControlPlatform) (world : ControlServer platform.longBits)
    (index : Nat) (stage : Stage) (input : LoopInput platform.longBits) :
    Option (ControlServer platform.longBits) :=
  if stage.InBounds index then
    match (world.pipes index).advance platform world.inputBuffer stage input with
    | none => none
    | some (.ends ending) => some { world with ending := some ending }
    | some (.goes pipe move) =>
        some { world.setPipe index pipe with
          inputBuffer := world.inputAfter index input
          point := move.point index }
  else
    some { world with ending := some .undefined }

/-- `switch (dwWait)`. -/
def afterWait (world : ControlServer longBits) : WaitResult -> ControlServer longBits
  | .timeout => { world with point := .turnEnd }
  | .failed => { world with stopLoop := true, point := .turnEnd }
  | .signalled event =>
      if 2 * instances - 1 < event then
        { world with ending := some .returned }
      else if event < instances then
        { world with point := .pipe event .readCompletion }
      else
        { world with point := .pipe (event - instances) .writeCompletion }

def loopStep (platform : ControlPlatform) (world : ControlServer platform.longBits)
    (input : LoopInput platform.longBits) : Option (ControlServer platform.longBits) :=
  match world.point, input with
  | .pipe index stage, input => world.pipeStep platform index stage input
  | .turn, .step =>
      some (if world.stopLoop then { world with ending := some .returned }
        else { world with point := .pipe 0 .reads })
  | .beforeWait, .step =>
      some (if world.stopLoop then { world with ending := some .returned }
        else { world with point := .waiting })
  | .waiting, .waited result => some (world.afterWait result)
  | .turnEnd, .step =>
      some (if world.stopLoop then { world with ending := some .returned }
        else { world with point := .turn })
  | _, _ => none

/-- `send`.  An exception of `pack` reaches the caller. -/
def send (platform : ControlPlatform) (world : ControlServer platform.longBits) (index : Nat)
    (message : ProcessMessage platform.longBits) : ControlServer platform.longBits :=
  match platform.packMessage message, platform.messageText message with
  | .returned octets, .returned _ => world.setPipe index ((world.pipes index).enqueue octets)
  | .threw _, _ => world
  | .returned _, .threw _ => world
  | _, _ => { world with ending := some .undefined }

/-- `next_message`.  The queue that is tested is the first one. -/
def nextMessage (world : ControlServer longBits) (index : Nat) : ControlServer longBits :=
  if (world.pipes 0).readQueue.isEmpty then
    world
  else
    match (world.pipes index).dequeue with
    | none => { world with ending := some .undefined }
    | some pipe => world.setPipe index pipe

/-- One atomic step.  The callers of `send` and `next_message` name a pipe. -/
def step (platform : ControlPlatform) (world : ControlServer platform.longBits)
    (label : ServerLabel platform.longBits) : Option (ControlServer platform.longBits) :=
  if world.terminated then
    none
  else
    match label with
    | .loop input => if world.ending = none then world.loopStep platform input else none
    | .send index message =>
        if index < instances then some (world.send platform index message) else none
    | .nextMessage index => if index < instances then some (world.nextMessage index) else none
    | .stop => some { world with stopLoop := true }
    | .pipe index event =>
        if index < instances then
          ((world.pipes index).occurs world.clients event).map fun pipe =>
            { world.setPipe index pipe with
              inputBuffer :=
                if event = .stores then fillInput world.inputBuffer (world.pipes index).unread
                else world.inputBuffer
              clients := if event = .clientConnects then world.clients + 1 else world.clients }
        else
          none

/-- So many steps of the loop for which nothing is supplied. -/
def loopSteps {longBits : Nat} (count : Nat) : List (ServerLabel longBits) :=
  List.replicate count (.loop .step)

/-- `setup`, when no client comes in between. -/
def setupLabels {longBits : Nat} : List (ServerLabel longBits) :=
  List.replicate instances (.loop (.connected .pending))

def system (platform : ControlPlatform) :
    Transition.System (ControlServer platform.longBits) (ServerLabel platform.longBits) :=
  .ofStep (fun world => world = create platform.longBits) (step platform)

end ControlServer

end EasyProspect
