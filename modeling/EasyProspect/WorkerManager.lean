import EasyProspect.CrossTalk
import EasyProspect.Library.Cells
import EasyProspect.WriteQueues

namespace EasyProspect

/-!
# The main thread of the control program

`make_server` of `epworkercntl` starts the worker processes and then polls: it looks
whether each process still runs, takes what `next_message` yields on the pipe of that
process, registers what a start message announces and answers it, and looks whether
the control thread still runs.  When `ep_full_exit` is set, by itself or by the
console handler, it sends a stop message to each worker and then calls `stop`.

The control server is the component of `ControlServer`; its own calls of `send`,
`next_message` and `stop` are those of this thread.  In the source the thread begins
after `setup`; here it may begin before, when there is nothing to take yet.  The
pauses of the thread and the pipes of the processes are left out.
-/

open ControlPlatform (Constructed)

/-- `proc_count`. -/
abbrev procCount : Nat :=
  1

/-- `ep_worker_client_state`. -/
structure WorkerClientState where
  port : List (BitVec 32)
  pid : List (BitVec 32)
  deriving DecidableEq

/-- Where the thread is. -/
inductive ManagerPoint
  | process (index : Nat)
  | next (index : Nat)
  | answer (index : Nat)
  | control
  | decide
  | stop (index : Nat)
  | stopping (index : Nat)
  | returned
  deriving DecidableEq

structure WorkerManager (longBits : Nat) where
  server : ControlServer longBits
  /-- `proc_list`, without what has been reset. -/
  processes : List Bool
  /-- `get_worker_clients()` of the registry. -/
  workerClients : List WorkerClientState
  fullExit : Bool
  point : ManagerPoint

/-- A step of the thread, with what it gets from outside, of the console handler, or of
the control server. -/
inductive ManagerLabel (longBits : Nat)
  | looks (running : Bool)
  | takes
  | sends (constructed : Constructed longBits)
  | sees (running : Bool)
  | decides
  | stops
  | ctrlC
  | server (label : ServerLabel longBits)
  deriving DecidableEq

/-- The calls of other threads. -/
def ServerLabel.calls {longBits : Nat} : ServerLabel longBits -> Bool
  | .send _ _ => true
  | .nextMessage _ => true
  | .stop => true
  | _ => false

/-- `ep_worker_client_state` with what a start message announces.  A `long` is converted
to an `int`. -/
def WorkerClientState.announce {longBits : Nat} (state : WorkerClientState)
    (members : ProcessMessageBase longBits) : WorkerClientState where
  port := state.port ++ [members.port]
  pid := state.pid ++ [members.pid.setWidth 32]

namespace WorkerManager

variable {longBits : Nat}

def create (longBits : Nat) : WorkerManager longBits where
  server := .create longBits
  processes := List.replicate procCount true
  workerClients := List.replicate procCount ⟨[], []⟩
  fullExit := false
  point := .process 0

/-- The end of the body of the loop over the processes. -/
def afterProcess (index : Nat) : ManagerPoint :=
  if index + 1 < procCount then .process (index + 1) else .control

def afterStop (index : Nat) : ManagerPoint :=
  if index + 1 < procCount then .stop (index + 1) else .stopping 0

def afterStopping (index : Nat) : ManagerPoint :=
  if index + 1 < procCount then .stopping (index + 1) else .returned

/-- `process_message_cmd_result()`. -/
def result (constructed : Constructed longBits) : ProcessMessage longBits :=
  .cmdResult (constructed.members .cmdResult) constructed.typeCmd constructed.result

/-- `process_message_stop()`. -/
def stopMessage (constructed : Constructed longBits) : ProcessMessage longBits :=
  .stop (constructed.members .cmdStop)

def looks (manager : WorkerManager longBits) (index : Nat) (running : Bool) :
    WorkerManager longBits :=
  match manager.processes[index]? with
  | some true =>
      if running then
        { manager with point := .next index }
      else
        { manager with
          processes := manager.processes.set index false
          fullExit := true
          point := .next index }
  | _ => { manager with fullExit := true, point := .next index }

/-- `next_message` and the `switch`.  The object of a start message is cast to its
class. -/
def takes (manager : WorkerManager longBits) (index : Nat) : WorkerManager longBits :=
  let server := manager.server.nextMessage index
  if (manager.server.pipes 0).readQueue.isEmpty then
    { manager with server := server, point := afterProcess index }
  else
    match (manager.server.pipes index).readQueue with
    | [] => { manager with server := server }
    | incoming :: _ =>
        match incoming.message.type, incoming.message with
        | .start, .startup members =>
            { manager with
              server := server
              workerClients := manager.workerClients.modify index fun state =>
                state.announce members
              point := .answer index }
        | .start, _ => { manager with server := { server with ending := some .undefined } }
        | _, _ => { manager with server := server, point := afterProcess index }

def sends (platform : ControlPlatform) (manager : WorkerManager platform.longBits) (index : Nat)
    (message : ProcessMessage platform.longBits) (point : ManagerPoint) :
    WorkerManager platform.longBits :=
  let server := manager.server.send platform index message
  if server.terminated then { manager with server := server }
  else { manager with server := server, point := point }

/-- One atomic step.  While the control thread is seen running it has not ended. -/
def step (platform : ControlPlatform) (manager : WorkerManager platform.longBits)
    (label : ManagerLabel platform.longBits) : Option (WorkerManager platform.longBits) :=
  if manager.server.terminated then
    none
  else
    match manager.point, label with
    | .process index, .looks running => some (manager.looks index running)
    | .next index, .takes => some (manager.takes index)
    | .answer index, .sends constructed =>
        some (manager.sends platform index (result constructed) (afterProcess index))
    | .control, .sees running =>
        if running = true ∧ manager.server.ending ≠ none then none
        else some { manager with fullExit := manager.fullExit || !running, point := .decide }
    | .decide, .decides =>
        some { manager with point := if manager.fullExit then .stop 0 else .process 0 }
    | .stop index, .sends constructed =>
        some (manager.sends platform index (stopMessage constructed) (afterStop index))
    | .stopping index, .stops =>
        some { manager with
          server := { manager.server with stopLoop := true }
          point := afterStopping index }
    | _, .ctrlC => some { manager with fullExit := true }
    | _, .server label =>
        if label.calls then none
        else (manager.server.step platform label).map fun server =>
          { manager with server := server }
    | _, _ => none

def system (platform : ControlPlatform) :
    Transition.System (WorkerManager platform.longBits) (ManagerLabel platform.longBits) :=
  .ofStep (fun manager => manager = create platform.longBits) (step platform)

end WorkerManager

/-! ## What passes through a pipe -/

namespace ControlPipe

variable {longBits : Nat}

/-- The start messages that `next_message` has returned. -/
def announced (pipe : ControlPipe longBits) : List (ProcessMessageBase longBits) :=
  pipe.returned.filterMap fun entry =>
    if entry.1.message.type = .start then some entry.1.message.members else none

/-- What the registry holds for the pipe. -/
def registered (pipe : ControlPipe longBits) : WorkerClientState where
  port := pipe.announced.map ProcessMessageBase.port
  pid := pipe.announced.map fun members => members.pid.setWidth 32

/-- The start messages of a client that have been returned. -/
def startsOf (client : Nat) (pipe : ControlPipe longBits) : List (ProcessMessage longBits) :=
  ((pipe.returned.map Prod.fst).filter fun incoming =>
    incoming.message.type = .start ∧ incoming.sender = client).map Incoming.message

theorem announced_start {pipe next : ControlPipe longBits} {incoming : Incoming longBits}
    {client : Option Nat} (returned : next.returned = pipe.returned ++ [(incoming, client)])
    (start : incoming.message.type = .start) :
    next.announced = pipe.announced ++ [incoming.message.members] := by
  rw [announced, returned, List.filterMap_append]
  simp [start, announced]

theorem announced_other {pipe next : ControlPipe longBits} {incoming : Incoming longBits}
    {client : Option Nat} (returned : next.returned = pipe.returned ++ [(incoming, client)])
    (other : incoming.message.type ≠ .start) : next.announced = pipe.announced := by
  rw [announced, returned, List.filterMap_append]
  simp [other, announced]

theorem registered_announce {pipe next : ControlPipe longBits}
    {members : ProcessMessageBase longBits}
    (announced : next.announced = pipe.announced ++ [members]) :
    next.registered = pipe.registered.announce members := by
  simp [registered, announced, WorkerClientState.announce]

end ControlPipe

namespace PipeView

variable {platform : ControlPlatform}

/-- Only `send` and `next_message` change what has been sent and returned. -/
theorem exchanged_step {index : Nat} {input : Octets} {clients : Nat}
    {view next : PipeView platform.longBits} {label : ServerLabel platform.longBits}
    (own : label.calls = false)
    (taken : PipeStep platform index input clients view label next) :
    next.pipe.sent = view.pipe.sent ∧ next.pipe.returned = view.pipe.returned := by
  cases taken with
  | loop taken =>
      cases ControlPipe.advanced_of_advance taken with
      | disconnected succeeded => cases succeeded <;> exact ⟨rfl, rfl⟩
      | _ => exact ⟨rfl, rfl⟩
  | arrive _ => exact ⟨rfl, rfl⟩
  | send _ => cases own
  | nextMessage _ => cases own
  | event taken =>
      have occurred := ControlPipe.occurred_of_occurs taken
      cases occurred <;> exact ⟨rfl, rfl⟩

/-- What has been returned and what is queued is what has been pushed. -/
def ReturnedKept {longBits : Nat} (view : PipeView longBits) : Prop :=
  view.pipe.returned.map Prod.fst ++ view.pipe.readQueue = view.pipe.pushed

theorem returnedKept_step {index : Nat} {input : Octets} {clients : Nat}
    {view next : PipeView platform.longBits} {label : ServerLabel platform.longBits}
    (kept : view.ReturnedKept)
    (taken : PipeStep platform index input clients view label next) : next.ReturnedKept := by
  unfold ReturnedKept at kept ⊢
  cases taken with
  | loop taken =>
      cases ControlPipe.advanced_of_advance taken with
      | disconnected succeeded => cases succeeded <;> exact kept
      | received decodes =>
          simp only at kept ⊢
          rw [← kept, List.append_assoc]
      | _ => exact kept
  | arrive _ => exact kept
  | send _ => exact kept
  | nextMessage taken =>
      rcases ControlPipe.dequeued_of_dequeue taken with ⟨incoming, rest, queue, rfl⟩
      simp only at kept ⊢
      rw [← kept, queue, List.map_append, List.append_assoc]
      rfl
  | event taken =>
      have occurred := ControlPipe.occurred_of_occurs taken
      cases occurred <;> exact kept

theorem returnedKept_reachable {index : Nat} {view : PipeView platform.longBits}
    (reachable : (ControlPipe.system platform index).Reachable view) : view.ReturnedKept := by
  refine reachable.invariant ?_ ?_
  · rintro ⟨stage, pipe⟩ ⟨fresh, _⟩
    have created : pipe = .create platform.longBits := fresh
    rw [created]
    rfl
  · rintro view label next kept ⟨input, clients, taken⟩
    exact returnedKept_step kept taken

/-- The start messages of a client are among the messages that have been pushed for it. -/
theorem startsOf_sublist {view : PipeView platform.longBits} (kept : view.ReturnedKept)
    (client : Nat) : (view.pipe.startsOf client).Sublist (view.pipe.pushedFrom client) := by
  have first : (view.pipe.returned.map Prod.fst).Sublist view.pipe.pushed :=
    kept ▸ List.sublist_append_left _ _
  unfold ControlPipe.startsOf ControlPipe.pushedFrom
  apply List.Sublist.map
  have split : ((view.pipe.returned.map Prod.fst).filter fun incoming =>
      incoming.message.type = .start ∧ incoming.sender = client) =
        ((view.pipe.returned.map Prod.fst).filter fun incoming =>
          incoming.sender = client).filter fun incoming => incoming.message.type = .start := by
    rw [List.filter_filter]
    simp only [Bool.decide_and]
  rw [split]
  exact List.filter_sublist.trans (first.filter _)

end PipeView

/-- `to_string` throws nothing. -/
theorem ControlPlatform.messageText_ne_threw (platform : ControlPlatform)
    (message : ProcessMessage platform.longBits) (exception : ControlException) :
    platform.messageText message ≠ .threw exception := by
  intro threw
  unfold ControlPlatform.messageText at threw
  cases time : platform.putTime message.members.currentTime.toInt with
  | none =>
      simp only [time] at threw
      cases threw
  | some text =>
      simp only [time] at threw
      cases type : message.members.type with
      | cmdResult =>
          simp only [type] at threw
          cases message <;> cases threw
      | _ =>
          simp only [type] at threw
          cases threw

namespace ControlServer

variable {platform : ControlPlatform}

theorem exchanged_step {world next : ControlServer platform.longBits}
    {label : ServerLabel platform.longBits} (own : label.calls = false)
    (taken : step platform world label = some next) {index : Nat} (within : index < instances) :
    (next.pipes index).sent = (world.pipes index).sent ∧
      (next.pipes index).returned = (world.pipes index).returned := by
  rcases seen taken within with same | seen
  · have pipes : next.pipes index = world.pipes index := congrArg PipeView.pipe same
    rw [pipes]
    exact ⟨rfl, rfl⟩
  · exact PipeView.exchanged_step own seen

/-- A message that can be packed is queued, unless it cannot be shown. -/
theorem send_of_packed {world : ControlServer platform.longBits} {index : Nat}
    {message : ProcessMessage platform.longBits} {octets : Octets}
    (packed : platform.packMessage message = .returned octets)
    (alive : (world.send platform index message).terminated = false) :
    world.send platform index message =
      world.setPipe index ((world.pipes index).enqueue octets) := by
  unfold send at alive ⊢
  rw [packed] at alive ⊢
  cases shown : platform.messageText message with
  | returned text => rfl
  | threw exception => exact absurd shown (platform.messageText_ne_threw message exception)
  | undefined =>
      rw [shown] at alive
      cases alive

end ControlServer

namespace WorkerManager

variable {platform : ControlPlatform}

/-- The octets of an answer. -/
def resultOctets (platform : ControlPlatform) (constructed : Constructed platform.longBits) :
    Octets :=
  platform.pack (ControlPlatform.packCmdResult (constructed.members .cmdResult)
    constructed.typeCmd constructed.result)

/-- The octets of a stop message. -/
def stopOctets (platform : ControlPlatform) (constructed : Constructed platform.longBits) :
    Octets :=
  platform.pack (ControlPlatform.packBase (constructed.members .cmdStop))

/-- The answers that are due at a point of the thread. -/
def owed (index : Nat) : ManagerPoint -> Nat
  | .answer current => if current = index then 1 else 0
  | _ => 0

/-- The stop messages that have been sent when the thread has come to a point. -/
def stopped (index : Nat) : ManagerPoint -> Nat
  | .stop current => if index < current then 1 else 0
  | .stopping _ => 1
  | .returned => 1
  | _ => 0

/-- The thread has left the loop. -/
def Leaving : ManagerPoint -> Prop
  | .stop _ => True
  | .stopping _ => True
  | .returned => True
  | _ => False

/-- The process that the thread works on. -/
def worksOn : ManagerPoint -> Option Nat
  | .process index => some index
  | .next index => some index
  | .answer index => some index
  | .stop index => some index
  | .stopping index => some index
  | _ => none

/-- What has been sent to a worker: an answer to each start message that is not due
any more, and then the stop messages. -/
def Answered (platform : ControlPlatform) (pipe : ControlPipe platform.longBits)
    (due stops : Nat) : Prop :=
  Exists fun answers : List (Constructed platform.longBits) =>
    Exists fun ends : List (Constructed platform.longBits) =>
    pipe.sent.map Outgoing.octets =
        answers.map (resultOctets platform) ++ ends.map (stopOctets platform) ∧
      answers.length + due = pipe.announced.length ∧ ends.length = stops

structure Kept (manager : WorkerManager platform.longBits) : Prop where
  placed : forall index, worksOn manager.point = some index -> index < procCount
  leaving : Leaving manager.point -> manager.fullExit = true
  registered : forall index, index < procCount ->
    manager.workerClients[index]? = some (manager.server.pipes index).registered
  answered : forall index, index < procCount ->
    Answered platform (manager.server.pipes index) (owed index manager.point)
      (stopped index manager.point)
  unused : forall index, procCount ≤ index -> index < instances ->
    (manager.server.pipes index).sent = [] ∧ (manager.server.pipes index).returned = []

theorem procCount_le : procCount ≤ instances := by
  decide

/-- Nothing has been sent or returned. -/
theorem Kept.same {manager next : WorkerManager platform.longBits} (kept : Kept manager)
    (placed : forall index, worksOn next.point = some index -> index < procCount)
    (leaving : Leaving next.point -> next.fullExit = true)
    (clients : next.workerClients = manager.workerClients)
    (exchanged : forall index, index < instances ->
      (next.server.pipes index).sent = (manager.server.pipes index).sent ∧
        (next.server.pipes index).returned = (manager.server.pipes index).returned)
    (due : forall index, index < procCount ->
      owed index next.point = owed index manager.point ∧
        stopped index next.point = stopped index manager.point) : Kept next where
  placed := placed
  leaving := leaving
  registered := by
    intro index within
    rw [clients, kept.registered index within, ControlPipe.registered, ControlPipe.registered,
      ControlPipe.announced, ControlPipe.announced,
      (exchanged index (Nat.lt_of_lt_of_le within procCount_le)).2]
  answered := by
    intro index within
    have same := exchanged index (Nat.lt_of_lt_of_le within procCount_le)
    have answered := kept.answered index within
    rw [Answered, ControlPipe.announced] at answered ⊢
    rw [same.1, same.2, (due index within).1, (due index within).2]
    exact answered
  unused := by
    intro index beyond within
    rw [(exchanged index within).1, (exchanged index within).2]
    exact kept.unused index beyond within

/-- A message is queued for one worker. -/
theorem Kept.sent {manager next : WorkerManager platform.longBits} {current : Nat}
    {octets : Octets} (kept : Kept manager) (within : current < procCount)
    (server : next.server = manager.server.setPipe current
      ((manager.server.pipes current).enqueue octets))
    (placed : forall index, worksOn next.point = some index -> index < procCount)
    (leaving : Leaving next.point -> next.fullExit = true)
    (clients : next.workerClients = manager.workerClients)
    (answers : Answered platform ((manager.server.pipes current).enqueue octets)
      (owed current next.point) (stopped current next.point))
    (due : forall index, index < procCount -> index ≠ current ->
      owed index next.point = owed index manager.point ∧
        stopped index next.point = stopped index manager.point) : Kept next where
  placed := placed
  leaving := leaving
  registered := by
    intro index inside
    rw [clients, kept.registered index inside, server]
    by_cases same : index = current
    · subst same
      rw [ControlServer.setPipe_same]
      rfl
    · rw [ControlServer.setPipe_other _ _ same]
  answered := by
    intro index inside
    rw [server]
    by_cases same : index = current
    · subst same
      rw [ControlServer.setPipe_same]
      exact answers
    · rw [ControlServer.setPipe_other _ _ same, (due index inside same).1,
        (due index inside same).2]
      exact kept.answered index inside
  unused := by
    intro index beyond inside
    have same : index ≠ current := by omega
    rw [server, ControlServer.setPipe_other _ _ same]
    exact kept.unused index beyond inside

theorem worksOn_afterProcess (current : Nat) {index : Nat}
    (works : worksOn (afterProcess current) = some index) : index < procCount := by
  unfold afterProcess at works
  split at works
  · cases works
    assumption
  · cases works

theorem worksOn_afterStop (current : Nat) {index : Nat}
    (works : worksOn (afterStop current) = some index) : index < procCount := by
  unfold afterStop at works
  split at works
  · cases works
    assumption
  · cases works
    decide

theorem worksOn_afterStopping (current : Nat) {index : Nat}
    (works : worksOn (afterStopping current) = some index) : index < procCount := by
  unfold afterStopping at works
  split at works
  · cases works
    assumption
  · cases works

theorem not_leaving_afterProcess (current : Nat) : ¬Leaving (afterProcess current) := by
  unfold afterProcess
  split <;> exact id

theorem owed_afterProcess (index current : Nat) :
    owed index (afterProcess current) = 0 ∧ stopped index (afterProcess current) = 0 := by
  unfold afterProcess
  split <;> exact ⟨rfl, rfl⟩

theorem owed_of_ne {index current : Nat} (other : index ≠ current) :
    owed index (.answer current) = 0 :=
  if_neg (Ne.symm other)

/-- Before the stop message is sent to a worker. -/
theorem stopped_here (index : Nat) : stopped index (.stop index) = 0 :=
  if_neg (Nat.lt_irrefl index)

/-- When the stop message has been sent to one worker and not to those behind it. -/
theorem owed_afterStop {index current : Nat} (within : index < procCount) :
    owed index (afterStop current) = 0 ∧
      stopped index (afterStop current) = if index = current then 1
        else stopped index (.stop current) := by
  unfold afterStop
  split
  · rename_i more
    refine ⟨rfl, ?_⟩
    simp only [stopped]
    split <;> split <;> (try split) <;> omega
  · rename_i last
    refine ⟨rfl, ?_⟩
    simp only [stopped]
    split <;> (try split) <;> omega

/-- `next_message` yields what is in front of the queue. -/
theorem nextMessage_of_queue {world : ControlServer platform.longBits} {index : Nat}
    {incoming : Incoming platform.longBits} {rest : List (Incoming platform.longBits)}
    (some : (world.pipes 0).readQueue.isEmpty = false)
    (queue : (world.pipes index).readQueue = incoming :: rest) :
    world.nextMessage index = world.setPipe index
      { world.pipes index with
        readQueue := rest
        returned := (world.pipes index).returned ++ [(incoming, (world.pipes index).client)] } := by
  unfold ControlServer.nextMessage ControlPipe.dequeue
  rw [some, queue]
  rfl

/-- The thread takes a message. -/
theorem Kept.taken {manager next : WorkerManager platform.longBits} {current : Nat}
    {incoming : Incoming platform.longBits} {rest : List (Incoming platform.longBits)}
    (kept : Kept manager) (within : current < procCount)
    (server : next.server = manager.server.setPipe current
      { manager.server.pipes current with
        readQueue := rest
        returned := (manager.server.pipes current).returned ++
          [(incoming, (manager.server.pipes current).client)] })
    (placed : forall index, worksOn next.point = some index -> index < procCount)
    (leaving : Leaving next.point -> next.fullExit = true)
    (others : forall index, index ≠ current ->
      next.workerClients[index]? = manager.workerClients[index]?)
    (own : next.workerClients[current]? = some (next.server.pipes current).registered)
    (counted : (next.server.pipes current).announced.length + owed current manager.point =
      (manager.server.pipes current).announced.length + owed current next.point)
    (due : forall index, index < procCount ->
      (index ≠ current -> owed index next.point = owed index manager.point) ∧
        stopped index next.point = stopped index manager.point) : Kept next where
  placed := placed
  leaving := leaving
  registered := by
    intro index inside
    by_cases same : index = current
    · subst same
      exact own
    · rw [others index same, kept.registered index inside, server,
        ControlServer.setPipe_other _ _ same]
  answered := by
    intro index inside
    rw [(due index inside).2]
    by_cases same : index = current
    · subst same
      rcases kept.answered index inside with ⟨answers, ends, sent, answered, stops⟩
      refine ⟨answers, ends, ?_, ?_, stops⟩
      · rw [server, ControlServer.setPipe_same]
        exact sent
      · omega
    · rw [server, ControlServer.setPipe_other _ _ same, (due index inside).1 same]
      exact kept.answered index inside
  unused := by
    intro index beyond inside
    have same : index ≠ current := by omega
    rw [server, ControlServer.setPipe_other _ _ same]
    exact kept.unused index beyond inside

/-- The server when the front of a queue has been returned. -/
def returning (server : ControlServer platform.longBits) (index : Nat)
    (incoming : Incoming platform.longBits) (rest : List (Incoming platform.longBits)) :
    ControlServer platform.longBits :=
  server.setPipe index
    { server.pipes index with
      readQueue := rest
      returned := (server.pipes index).returned ++ [(incoming, (server.pipes index).client)] }

/-- What taking a message can do. -/
inductive Took (manager : WorkerManager platform.longBits) (index : Nat) :
    WorkerManager platform.longBits -> Prop
  | nothing : Took manager index { manager with point := afterProcess index }
  | start {incoming : Incoming platform.longBits} {rest : List (Incoming platform.longBits)}
      {members : ProcessMessageBase platform.longBits}
      (server : manager.server.nextMessage index = returning manager.server index incoming rest)
      (message : incoming.message = .startup members) (type : incoming.message.type = .start) :
      Took manager index
        { manager with
          server := returning manager.server index incoming rest
          workerClients := manager.workerClients.modify index fun state => state.announce members
          point := .answer index }
  | other {incoming : Incoming platform.longBits} {rest : List (Incoming platform.longBits)}
      (server : manager.server.nextMessage index = returning manager.server index incoming rest)
      (type : incoming.message.type ≠ .start) :
      Took manager index
        { manager with
          server := returning manager.server index incoming rest
          point := afterProcess index }
  | broken {next : WorkerManager platform.longBits} (ended : next.server.terminated = true) :
      Took manager index next

theorem took (manager : WorkerManager platform.longBits) (index : Nat) :
    Took manager index (manager.takes index) := by
  unfold takes
  cases some : (manager.server.pipes 0).readQueue.isEmpty with
  | true =>
      have same : manager.server.nextMessage index = manager.server := by
        rw [ControlServer.nextMessage, some]
        rfl
      simp only [same, if_true]
      exact .nothing
  | false =>
      simp only [Bool.false_eq_true, if_false]
      split
      · rename_i queue
        refine .broken ?_
        rw [ControlServer.nextMessage, some, ControlPipe.dequeue, queue]
        rfl
      · rename_i incoming rest queue
        have server : manager.server.nextMessage index =
            returning manager.server index incoming rest := nextMessage_of_queue some queue
        simp only [server]
        split
        · rename_i type message
          exact .start server message type
        · exact .broken rfl
        · rename_i other _
          exact .other server fun type => other type

theorem kept_takes {manager next : WorkerManager platform.longBits} {index : Nat}
    (kept : Kept manager) (point : manager.point = .next index)
    (taken : Took manager index next) (alive : next.server.terminated = false) : Kept next := by
  have within : index < procCount := kept.placed index (by rw [point]; rfl)
  have before : forall other, owed other manager.point = 0 ∧ stopped other manager.point = 0 := by
    rw [point]
    exact fun _ => ⟨rfl, rfl⟩
  have due : forall other, owed other (afterProcess index) = owed other manager.point ∧
      stopped other (afterProcess index) = stopped other manager.point := by
    intro other
    rw [(before other).1, (before other).2]
    exact owed_afterProcess other index
  cases taken with
  | nothing =>
      exact kept.same (fun _ => worksOn_afterProcess index)
        (fun leaves => absurd leaves (not_leaving_afterProcess index)) rfl
        (fun _ _ => ⟨rfl, rfl⟩) fun other _ => due other
  | @start incoming rest members server message type =>
      have own : (returning manager.server index incoming rest).pipes index =
          { manager.server.pipes index with
            readQueue := rest
            returned := (manager.server.pipes index).returned ++
              [(incoming, (manager.server.pipes index).client)] } :=
        ControlServer.setPipe_same _ _ _
      have added : ((returning manager.server index incoming rest).pipes index).announced =
          (manager.server.pipes index).announced ++ [members] := by
        have same : incoming.message.members = members := by
          rw [message]
          rfl
        rw [own, ← same]
        exact ControlPipe.announced_start rfl type
      refine kept.taken within rfl ?_ (fun leaves => leaves.elim) ?_ ?_ ?_ ?_
      · intro other works
        cases works
        exact within
      · exact fun other different => List.getElem?_modify_ne _ _ different.symm
      · rw [ControlPipe.registered_announce added]
        exact Cells.getElem?_modify_self (kept.registered index within) _
      · have one : owed index (.answer index) = 1 := if_pos rfl
        rw [added, (before index).1, List.length_append, one]
        rfl
      · intro other _
        rw [(before other).1, (before other).2]
        exact ⟨owed_of_ne, rfl⟩
  | @other incoming rest server type =>
      have own : (returning manager.server index incoming rest).pipes index =
          { manager.server.pipes index with
            readQueue := rest
            returned := (manager.server.pipes index).returned ++
              [(incoming, (manager.server.pipes index).client)] } :=
        ControlServer.setPipe_same _ _ _
      have unchanged : ((returning manager.server index incoming rest).pipes index).announced =
          (manager.server.pipes index).announced := by
        rw [own]
        exact ControlPipe.announced_other rfl type
      refine kept.taken within rfl (fun _ => worksOn_afterProcess index)
        (fun leaves => absurd leaves (not_leaving_afterProcess index)) (fun _ _ => rfl) ?_ ?_ ?_
      · rw [ControlPipe.registered, unchanged]
        exact kept.registered index within
      · rw [unchanged, (due index).1]
      · exact fun other _ => ⟨fun _ => (due other).1, (due other).2⟩
  | broken ended =>
      rw [ended] at alive
      cases alive

/-- A message is sent to a worker. -/
theorem kept_sends {manager : WorkerManager platform.longBits} {index : Nat}
    {message : ProcessMessage platform.longBits} {octets : Octets} {point : ManagerPoint}
    (kept : Kept manager) (within : index < procCount)
    (packed : platform.packMessage message = .returned octets)
    (alive : (manager.sends platform index message point).server.terminated = false)
    (placed : forall other, worksOn point = some other -> other < procCount)
    (leaving : Leaving point -> manager.fullExit = true)
    (answers : Answered platform ((manager.server.pipes index).enqueue octets)
      (owed index point) (stopped index point))
    (due : forall other, other < procCount -> other ≠ index ->
      owed other point = owed other manager.point ∧
        stopped other point = stopped other manager.point) :
    Kept (manager.sends platform index message point) := by
  simp only [sends] at alive ⊢
  by_cases ended : (manager.server.send platform index message).terminated = true
  · rw [if_pos ended] at alive
    exact absurd ended (Bool.eq_false_iff.mp alive)
  · rw [if_neg ended]
    exact kept.sent within (ControlServer.send_of_packed packed (Bool.eq_false_iff.mpr ended))
      placed leaving rfl answers due

theorem answered_result {pipe : ControlPipe platform.longBits}
    (constructed : Constructed platform.longBits) (answered : Answered platform pipe 1 0) :
    Answered platform (pipe.enqueue (resultOctets platform constructed)) 0 0 := by
  rcases answered with ⟨answers, ends, sent, counted, none⟩
  rw [List.length_eq_zero_iff.mp none, List.map_nil, List.append_nil] at sent
  refine ⟨answers ++ [constructed], [], ?_, ?_, rfl⟩
  · rw [ControlPipe.enqueue, List.map_append, sent]
    simp
  · rw [List.length_append]
    exact counted

theorem answered_stop {pipe : ControlPipe platform.longBits}
    (constructed : Constructed platform.longBits) (answered : Answered platform pipe 0 0) :
    Answered platform (pipe.enqueue (stopOctets platform constructed)) 0 1 := by
  rcases answered with ⟨answers, ends, sent, counted, none⟩
  refine ⟨answers, ends ++ [constructed], ?_, counted, ?_⟩
  · rw [ControlPipe.enqueue, List.map_append, sent]
    simp
  · rw [List.length_append, none]
    rfl

theorem kept_looks {manager : WorkerManager platform.longBits} {index : Nat} (kept : Kept manager)
    (point : manager.point = .process index) (running : Bool) :
    Kept (manager.looks index running) := by
  have within : index < procCount := kept.placed index (by rw [point]; rfl)
  have goes : forall next : WorkerManager platform.longBits, next.point = .next index ->
      next.server = manager.server -> next.workerClients = manager.workerClients ->
        Kept next := by
    intro next after server clients
    refine kept.same ?_ ?_ clients (fun _ _ => server ▸ ⟨rfl, rfl⟩) ?_
    · intro other works
      rw [after] at works
      cases works
      exact within
    · rw [after]
      exact fun leaves => leaves.elim
    · rw [after, point]
      exact fun _ _ => ⟨rfl, rfl⟩
  unfold looks
  split
  · split
    · exact goes _ rfl rfl rfl
    · exact goes _ rfl rfl rfl
  · exact goes _ rfl rfl rfl

theorem kept_answers {manager : WorkerManager platform.longBits} {index : Nat}
    (kept : Kept manager) (point : manager.point = .answer index)
    (constructed : Constructed platform.longBits)
    (alive : (manager.sends platform index (result constructed)
      (afterProcess index)).server.terminated = false) :
    Kept (manager.sends platform index (result constructed) (afterProcess index)) := by
  have within : index < procCount := kept.placed index (by rw [point]; rfl)
  have answered := kept.answered index within
  have due : owed index (.answer index) = 1 := if_pos rfl
  have none : stopped index (.answer index) = 0 := rfl
  rw [point, due, none] at answered
  have packed : platform.packMessage (result constructed) =
      .returned (resultOctets platform constructed) := rfl
  refine kept_sends kept within packed alive (fun _ => worksOn_afterProcess index)
    (fun leaves => absurd leaves (not_leaving_afterProcess index)) ?_ ?_
  · rw [(owed_afterProcess index index).1, (owed_afterProcess index index).2]
    exact answered_result constructed answered
  · intro other _ different
    rw [(owed_afterProcess other index).1, (owed_afterProcess other index).2, point]
    exact ⟨(owed_of_ne different).symm, rfl⟩

theorem kept_stops {manager : WorkerManager platform.longBits} {index : Nat}
    (kept : Kept manager) (point : manager.point = .stop index)
    (constructed : Constructed platform.longBits)
    (alive : (manager.sends platform index (stopMessage constructed)
      (afterStop index)).server.terminated = false) :
    Kept (manager.sends platform index (stopMessage constructed) (afterStop index)) := by
  have within : index < procCount := kept.placed index (by rw [point]; rfl)
  have answered := kept.answered index within
  have due : owed index (.stop index) = 0 := rfl
  rw [point, due, stopped_here] at answered
  have packed : platform.packMessage (stopMessage constructed) =
      .returned (stopOctets platform constructed) := rfl
  refine kept_sends kept within packed alive (fun _ => worksOn_afterStop index) ?_ ?_ ?_
  · exact fun _ => kept.leaving (by rw [point]; trivial)
  · rw [(owed_afterStop within).1, (owed_afterStop within).2, if_pos rfl]
    exact answered_stop constructed answered
  · intro other inside different
    rw [(owed_afterStop inside).1, (owed_afterStop inside).2, if_neg different, point]
    exact ⟨rfl, rfl⟩

theorem kept_step {manager next : WorkerManager platform.longBits}
    {label : ManagerLabel platform.longBits} (kept : Kept manager)
    (taken : step platform manager label = some next)
    (alive : next.server.terminated = false) : Kept next := by
  unfold step at taken
  split at taken
  · cases taken
  · split at taken
    · rename_i index running point
      cases taken
      exact kept_looks kept point running
    · rename_i index point
      cases taken
      exact kept_takes kept point (took manager index) alive
    · rename_i index constructed point
      cases taken
      exact kept_answers kept point constructed alive
    · rename_i running point
      split at taken
      · cases taken
      · cases taken
        exact kept.same nofun (fun leaves => leaves.elim) rfl (fun _ _ => ⟨rfl, rfl⟩)
          (by rw [point]; exact fun _ _ => ⟨rfl, rfl⟩)
    · rename_i point
      cases taken
      cases exits : manager.fullExit with
      | true =>
          refine kept.same ?_ (fun _ => rfl) rfl (fun _ _ => ⟨rfl, rfl⟩) ?_
          · intro other works
            cases works
            decide
          · rw [point]
            intro other within
            have none : stopped other (.stop 0) = 0 := by
              simp only [stopped, Nat.not_lt_zero, if_false]
            exact ⟨rfl, none⟩
      | false =>
          refine kept.same ?_ (fun leaves => leaves.elim) rfl (fun _ _ => ⟨rfl, rfl⟩) ?_
          · intro other works
            cases works
            decide
          · rw [point]
            exact fun _ _ => ⟨rfl, rfl⟩
    · rename_i index constructed point
      cases taken
      exact kept_stops kept point constructed alive
    · rename_i index point
      cases taken
      have exits : manager.fullExit = true := kept.leaving (by rw [point]; trivial)
      refine kept.same (fun _ => worksOn_afterStopping index) (fun _ => exits) rfl
        (fun _ _ => ⟨rfl, rfl⟩) ?_
      intro other within
      rw [point]
      unfold afterStopping
      split <;> exact ⟨rfl, rfl⟩
    · cases taken
      exact kept.same kept.placed (fun _ => rfl) rfl (fun _ _ => ⟨rfl, rfl⟩)
        fun _ _ => ⟨rfl, rfl⟩
    · rename_i label _
      split at taken
      · cases taken
      · rename_i own
        rcases Option.map_eq_some_iff.mp taken with ⟨server, stepped, rfl⟩
        exact kept.same kept.placed kept.leaving rfl
          (fun index within => ControlServer.exchanged_step (Bool.eq_false_iff.mpr own) stepped
            within) fun _ _ => ⟨rfl, rfl⟩
    · cases taken

theorem kept_create : Kept (create platform.longBits) where
  placed := by
    intro index works
    cases works
    decide
  leaving := fun leaves => leaves.elim
  registered := by
    intro index within
    have first : index = 0 := Nat.lt_one_iff.mp within
    subst first
    rfl
  answered := fun index within => ⟨[], [], rfl, rfl, rfl⟩
  unused := fun index beyond within => ⟨rfl, rfl⟩

/-- A state from which a step can be taken. -/
theorem alive_of_step {manager next : WorkerManager platform.longBits}
    {label : ManagerLabel platform.longBits} (taken : step platform manager label = some next) :
    manager.server.terminated = false := by
  unfold step at taken
  split at taken
  · cases taken
  · rename_i alive
    exact Bool.eq_false_iff.mpr alive

/-- The invariant holds as long as the program runs. -/
def KeptAlive (manager : WorkerManager platform.longBits) : Prop :=
  manager.server.terminated = false -> Kept manager

theorem kept_reachable {manager : WorkerManager platform.longBits}
    (reachable : (system platform).Reachable manager) : KeptAlive manager := by
  refine reachable.invariant ?_ ?_
  · rintro first start _
    have created : first = create platform.longBits := start
    rw [created]
    exact kept_create
  · intro first label next kept taken running
    exact kept_step (kept (alive_of_step taken)) taken running

/-! ## The control server under the thread -/

/-- A step of the thread is a step of the control server, or none. -/
theorem server_step {manager next : WorkerManager platform.longBits}
    {label : ManagerLabel platform.longBits} (kept : Kept manager)
    (taken : step platform manager label = some next) (alive : next.server.terminated = false) :
    next.server = manager.server ∨ Exists fun own =>
      (label = .server own ∨ own.calls = true) ∧
        ControlServer.step platform manager.server own = some next.server := by
  have running := alive_of_step taken
  have sent : forall (index : Nat) (message : ProcessMessage platform.longBits)
      (point : ManagerPoint), index < procCount ->
        ControlServer.step platform manager.server (.send index message) =
          some (manager.sends platform index message point).server := by
    intro index message point within
    have inside : index < instances := Nat.lt_of_lt_of_le within procCount_le
    have same : (manager.sends platform index message point).server =
        manager.server.send platform index message := by
      simp only [sends]
      split <;> rfl
    rw [same]
    simp only [ControlServer.step, running, Bool.false_eq_true, if_false, inside, if_true]
  unfold step at taken
  rw [running] at taken
  simp only [Bool.false_eq_true, if_false] at taken
  split at taken
  · cases taken
    refine Or.inl ?_
    unfold looks
    split
    · split <;> rfl
    · rfl
  · rename_i index point
    cases taken
    have within : index < instances :=
      Nat.lt_of_lt_of_le (kept.placed index (by rw [point]; rfl)) procCount_le
    have stepped : ControlServer.step platform manager.server (.nextMessage index) =
        some (manager.server.nextMessage index) := by
      simp only [ControlServer.step, running, Bool.false_eq_true, if_false, within, if_true]
    have takes := took manager index
    generalize manager.takes index = next at takes alive
    cases takes with
    | nothing => exact Or.inl rfl
    | start server => exact Or.inr ⟨_, Or.inr rfl, server ▸ stepped⟩
    | other server => exact Or.inr ⟨_, Or.inr rfl, server ▸ stepped⟩
    | broken ended =>
        rw [ended] at alive
        cases alive
  · rename_i index constructed point
    cases taken
    exact Or.inr ⟨_, Or.inr rfl, sent index _ _ (kept.placed index (by rw [point]; rfl))⟩
  · split at taken
    · cases taken
    · cases taken
      exact Or.inl rfl
  · cases taken
    exact Or.inl rfl
  · rename_i index constructed point
    cases taken
    exact Or.inr ⟨_, Or.inr rfl, sent index _ _ (kept.placed index (by rw [point]; rfl))⟩
  · cases taken
    refine Or.inr ⟨.stop, Or.inr rfl, ?_⟩
    simp only [ControlServer.step, running, Bool.false_eq_true, if_false]
  · cases taken
    exact Or.inl rfl
  · rename_i label own _
    split at taken
    · cases taken
    · rcases Option.map_eq_some_iff.mp taken with ⟨server, stepped, rfl⟩
      exact Or.inr ⟨_, Or.inl rfl, stepped⟩
  · cases taken

/-- A condition on the steps of the control server. -/
def meets (guard : ControlServer platform.longBits -> ServerLabel platform.longBits -> Prop)
    (manager : WorkerManager platform.longBits) (label : ManagerLabel platform.longBits) : Prop :=
  forall own, label = .server own -> guard manager.server own

/-- The control server is in a state that it reaches on its own. -/
theorem server_reachable
    {guard : ControlServer platform.longBits -> ServerLabel platform.longBits -> Prop}
    (calls : forall world label, label.calls = true -> guard world label)
    {manager : WorkerManager platform.longBits}
    (reachable : ((system platform).restrict (meets guard)).Reachable manager)
    (alive : manager.server.terminated = false) :
    ((ControlServer.system platform).restrict guard).Reachable manager.server := by
  rcases reachable with ⟨first, start, labels, run⟩
  induction run with
  | refl =>
      have created : first = create platform.longBits := start
      rw [created]
      exact .initially rfl
  | snoc run taken inductionHypothesis =>
      have before := alive_of_step taken.2
      have kept := kept_reachable ⟨first, start, _, run.of_restrict⟩ before
      rcases server_step kept taken.2 alive with same | ⟨own, called, stepped⟩
      · rw [same]
        exact inductionHypothesis before
      · refine (inductionHypothesis before).extend (.single ⟨?_, stepped⟩)
        rcases called with own_step | call
        · exact taken.1 own own_step
        · exact calls _ own call

theorem server_reachable_any {manager : WorkerManager platform.longBits}
    (reachable : (system platform).Reachable manager)
    (alive : manager.server.terminated = false) :
    (ControlServer.system platform).Reachable manager.server := by
  rcases reachable with ⟨first, start, labels, run⟩
  have restricted : ((system platform).restrict (meets fun _ _ => True)).Reachable manager :=
    ⟨first, start, labels, run.restrict_of fun _ _ _ _ _ => trivial⟩
  exact (server_reachable (fun _ _ _ => trivial) restricted alive).of_restrict

/-- As long as the control program runs, the registry holds for each worker what its
start messages announced, in the order in which `next_message` returned them; what has
been sent to the worker, and what of it has been handed to `WriteFile`, is an answer to
each of them but the one that is answered next, and behind them one stop message once
the thread has left the loop, which it does only when `ep_full_exit` is set.  The
other pipes are not used. -/
theorem starts_answered (platform : ControlPlatform)
    (manager : WorkerManager platform.longBits)
    (reachable : (system platform).Reachable manager)
    (alive : manager.server.terminated = false) :
    (forall index, index < procCount ->
        manager.workerClients[index]? = some (manager.server.pipes index).registered ∧
          Answered platform (manager.server.pipes index) (owed index manager.point)
            (stopped index manager.point)) ∧
      (forall index, index < instances ->
        (manager.server.pipes index).handed <+: (manager.server.pipes index).sent) ∧
      (forall index, procCount ≤ index -> index < instances ->
        (manager.server.pipes index).sent = [] ∧ (manager.server.pipes index).returned = []) ∧
      (Leaving manager.point -> manager.fullExit = true) := by
  have kept := kept_reachable reachable alive
  have server := server_reachable_any reachable alive
  refine ⟨fun index within => ⟨kept.registered index within, kept.answered index within⟩, ?_,
    kept.unused, kept.leaving⟩
  intro index within
  have view := ControlServer.view_reachable server within
  exact (PipeView.queueKept_reachable view).handed_first

/-! ## Where the registered processes come from -/

/-- Every read of the server is apart from what is not decoded. -/
def readsApart (manager : WorkerManager platform.longBits)
    (label : ManagerLabel platform.longBits) : Bool :=
  match label with
  | .server own => ControlServer.storesApart manager.server own
  | _ => true

theorem storesApart_of_calls {world : ControlServer platform.longBits}
    {label : ServerLabel platform.longBits} (called : label.calls = true) :
    ControlServer.storesApart world label = true := by
  cases label with
  | loop input => cases called
  | pipe index event => cases called
  | _ => rfl

/-- The start messages of a client are what some of its messages decode to. -/
theorem startsOf_delivered {manager : WorkerManager platform.longBits}
    (reachable : ((system platform).restrict fun manager label =>
      readsApart manager label = true).Reachable manager)
    (alive : manager.server.terminated = false) {index : Nat} (within : index < instances)
    (client : Nat) :
    Exists fun chosen =>
      chosen.Sublist (meaningful ((manager.server.pipes index).sentBy client)) ∧
        List.Forall₂ platform.Decodes chosen
          ((manager.server.pipes index).startsOf client) := by
  have apart : ((ControlServer.system platform).restrict fun world label =>
      ControlServer.storesApart world label = true).Reachable manager.server := by
    refine server_reachable (fun _ _ => storesApart_of_calls) (reachable.weaken ?_) alive
    rintro manager label met own rfl
    exact met
  have view := ControlServer.view_reachable apart.of_restrict within
  have histories := (ControlServer.undisturbed_reachable apart).histories index within
  exact (histories.delivered client).sublist
    (PipeView.startsOf_sublist (PipeView.returnedKept_reachable view) client)

/-- As long as no read stores its data over a message that is not decoded, the registry
holds for each worker what its start messages announced, and the start messages of each
client of the pipe are what some of the messages that this client sent decode to, each
once and in order. -/
theorem registered_announced (platform : ControlPlatform)
    (manager : WorkerManager platform.longBits)
    (reachable : ((system platform).restrict fun manager label =>
      readsApart manager label = true).Reachable manager)
    (alive : manager.server.terminated = false) :
    forall index, index < procCount ->
      manager.workerClients[index]? = some (manager.server.pipes index).registered ∧
        forall client, Exists fun chosen =>
          chosen.Sublist (meaningful ((manager.server.pipes index).sentBy client)) ∧
            List.Forall₂ platform.Decodes chosen
              ((manager.server.pipes index).startsOf client) := by
  intro index within
  refine ⟨(kept_reachable reachable.of_restrict alive).registered index within, ?_⟩
  have inside := Nat.lt_of_lt_of_le within procCount_le
  exact fun client => startsOf_delivered reachable alive inside client

/-! ## A worker that starts and is stopped -/

open ControlPlatform (formatPlatform startupMessage zeroConstructed)

def startOctets : Octets :=
  MessagePack.encode (ControlPlatform.packBase startupMessage.members)

theorem receive_startOctets :
    formatPlatform.receive zeroConstructed startOctets startOctets.length =
      .returned startupMessage := by
  decide +kernel

/-- The worker connects and sends its start message, and the loop comes to decode it. -/
def startingLabels : List (ServerLabel formatPlatform.longBits) :=
  List.flatten
    [ControlServer.setupLabels, [.pipe 0 .clientConnects], ControlServer.loopSteps 14,
      [.loop (.waited (.signalled 0))], ControlServer.loopSteps 3, [.loop (.readFile .pending)],
      ControlServer.loopSteps 12,
      [.pipe 0 (.clientSends startOctets), .pipe 0 .stores, .loop (.waited (.signalled 0)),
        .loop .step]]

theorem startingLabels_taken :
    (Transition.System.execute (Transition.System.guarded
      (fun manager label => readsApart manager label = true) (step formatPlatform))
      (create formatPlatform.longBits) (startingLabels.map .server)).isSome = true := by
  decide +kernel

def startingManager : WorkerManager formatPlatform.longBits :=
  (Transition.System.execute (Transition.System.guarded
    (fun manager label => readsApart manager label = true) (step formatPlatform))
    (create formatPlatform.longBits) (startingLabels.map .server)).get startingLabels_taken

def startedManager : WorkerManager formatPlatform.longBits :=
  { startingManager with
    server := ControlServer.decoded startingManager.server startupMessage }

theorem step_server {manager : WorkerManager platform.longBits}
    {own : ServerLabel platform.longBits} {server : ControlServer platform.longBits}
    (alive : manager.server.terminated = false) (uncalled : own.calls = false)
    (stepped : ControlServer.step platform manager.server own = some server) :
    step platform manager (.server own) = some { manager with server := server } := by
  unfold step
  rw [alive]
  cases manager.point <;> simp only [Bool.false_eq_true, if_false, uncalled, stepped,
    Option.map_some]

theorem startingManager_decodes :
    step formatPlatform startingManager (.server (.loop (.constructed zeroConstructed))) =
      some startedManager := by
  have decoded : ControlServer.step formatPlatform startingManager.server
      (.loop (.constructed zeroConstructed)) =
        some (ControlServer.decoded startingManager.server startupMessage) :=
    ControlServer.step_decoded (by decide +kernel) (by decide +kernel) (by decide +kernel)
      (by decide +kernel) receive_startOctets
  exact step_server (by decide +kernel) rfl decoded

/-- It is registered and answered; then the program is told to end. -/
def servingLabels : List (ManagerLabel formatPlatform.longBits) :=
  [.looks true, .takes, .sends zeroConstructed, .sees true, .ctrlC, .decides,
    .sends zeroConstructed, .stops]

def servedChecked (manager : WorkerManager formatPlatform.longBits) : Bool :=
  !manager.server.terminated ∧ manager.workerClients = [⟨[80], [1]⟩] ∧
    (manager.server.pipes 0).sent.length = 2 ∧ manager.point = .returned

theorem servingLabels_checked :
    (Transition.System.execute (Transition.System.guarded
      (fun manager label => readsApart manager label = true) (step formatPlatform))
      startedManager servingLabels).map servedChecked = some true := by
  decide +kernel

theorem servingLabels_taken :
    (Transition.System.execute (Transition.System.guarded
      (fun manager label => readsApart manager label = true) (step formatPlatform))
      startedManager servingLabels).isSome = true :=
  Transition.System.taken_of_checked servingLabels_checked

def servedManager : WorkerManager formatPlatform.longBits :=
  (Transition.System.execute (Transition.System.guarded
    (fun manager label => readsApart manager label = true) (step formatPlatform))
    startedManager servingLabels).get servingLabels_taken

theorem servedManager_checked : servedChecked servedManager = true :=
  Transition.System.checked_get servingLabels_checked servingLabels_taken

theorem servedManager_alive : servedManager.server.terminated = false := by
  have checked := of_decide_eq_true servedManager_checked
  exact (Bool.not_eq_true' _).mp checked.1

theorem servedManager_reachable : ((system formatPlatform).restrict fun manager label =>
    readsApart manager label = true).Reachable servedManager := by
  have starting : ((system formatPlatform).restrict fun manager label =>
      readsApart manager label = true).Reachable startingManager := by
    refine .of_execute_guarded ?_ startingLabels_taken
    rfl
  have started := starting.extend (.single ⟨rfl, startingManager_decodes⟩)
  exact started.extend (.of_execute_guarded (Option.some_get servingLabels_taken).symm)

theorem starts_answered_served :
    servedChecked servedManager = true ∧
      (forall index, index < procCount ->
          servedManager.workerClients[index]? =
              some (servedManager.server.pipes index).registered ∧
            Answered formatPlatform (servedManager.server.pipes index)
              (owed index servedManager.point) (stopped index servedManager.point)) ∧
      (forall index, index < instances ->
        (servedManager.server.pipes index).handed <+: (servedManager.server.pipes index).sent) ∧
      (forall index, procCount ≤ index -> index < instances ->
        (servedManager.server.pipes index).sent = [] ∧
          (servedManager.server.pipes index).returned = []) ∧
      (Leaving servedManager.point -> servedManager.fullExit = true) :=
  ⟨servedManager_checked, starts_answered formatPlatform servedManager
    servedManager_reachable.of_restrict servedManager_alive⟩

theorem registered_announced_served :
    servedChecked servedManager = true ∧
      forall index, index < procCount ->
        servedManager.workerClients[index]? =
            some (servedManager.server.pipes index).registered ∧
          forall client, Exists fun chosen =>
            chosen.Sublist (meaningful ((servedManager.server.pipes index).sentBy client)) ∧
              List.Forall₂ formatPlatform.Decodes chosen
                ((servedManager.server.pipes index).startsOf client) :=
  ⟨servedManager_checked, registered_announced formatPlatform servedManager
    servedManager_reachable servedManager_alive⟩

end WorkerManager

end EasyProspect
