import EasyProspect.ControlCodec
import EasyProspect.PipeReads

namespace EasyProspect

/-!
# One client after the other

A pipe instance is used by one client after the other, and its queues outlive the
connections: `DisconnectAndReconnect` does not touch them.  When they are empty each
time that a client is disconnected, no message crosses from one connection to the
next.  Otherwise the next client gets what was meant for the last one.
-/

/-- The message that the loop has taken from the queue. -/
def Stage.held : Option Stage -> Option Outgoing
  | some (.pop buffer) => buffer
  | some (.writeFile buffer) => buffer
  | _ => none

/-- If a client occupied the pipe when the message was sent, it is this one. -/
def Outgoing.MeantFor (client : Option Nat) (buffer : Outgoing) : Prop :=
  forall addressee, buffer.addressee = some addressee -> client = some addressee

namespace PipeView

variable {platform : ControlPlatform}

structure OccupantKept {longBits : Nat} (view : PipeView longBits) : Prop where
  queued : forall buffer, some buffer ∈ view.pipe.writeQueue -> buffer.MeantFor view.pipe.client
  held : forall buffer, Stage.held view.stage = some buffer -> buffer.MeantFor view.pipe.client
  written : forall buffer client, (buffer, client) ∈ view.pipe.written ->
    buffer.MeantFor (some client)
  unread : forall incoming, incoming ∈ view.pipe.readQueue ->
    view.pipe.client = some incoming.sender
  returned : forall incoming client, (incoming, some client) ∈ view.pipe.returned ->
    incoming.sender = client

/-- The queues are empty when the client is disconnected. -/
def EmptyAtDisconnect {longBits : Nat} (view : PipeView longBits) (label : ServerLabel longBits) :
    Prop :=
  forall meant resume, view.stage = some (.disconnect meant resume) ->
    label = .loop (.disconnected true) -> view.pipe.writeQueue = [] ∧ view.pipe.readQueue = []

variable {longBits : Nat}

/-- Whatever the step does, it leaves the queues, their histories and the client alone. -/
theorem OccupantKept.moves {view next : PipeView longBits} (kept : view.OccupantKept)
    (writeQueue : next.pipe.writeQueue = view.pipe.writeQueue)
    (readQueue : next.pipe.readQueue = view.pipe.readQueue)
    (written : next.pipe.written = view.pipe.written)
    (returned : next.pipe.returned = view.pipe.returned)
    (client : next.pipe.client = view.pipe.client)
    (held : forall buffer, Stage.held next.stage = some buffer ->
      Stage.held view.stage = some buffer) : next.OccupantKept where
  queued := by
    rw [writeQueue, client]
    exact kept.queued
  held := fun buffer holds => by
    rw [client]
    exact kept.held buffer (held buffer holds)
  written := by
    rw [written]
    exact kept.written
  unread := by
    rw [readQueue, client]
    exact kept.unread
  returned := by
    rw [returned]
    exact kept.returned

/-- The client that occupies the pipe is written to. -/
theorem OccupantKept.writes {pipe next : ControlPipe longBits} {buffer : Outgoing} {client : Nat}
    {stage : Option Stage} (kept : OccupantKept ⟨some (.writeFile (some buffer)), pipe⟩)
    (occupied : pipe.client = some client) (nothing : Stage.held stage = none)
    (writeQueue : next.writeQueue = pipe.writeQueue) (readQueue : next.readQueue = pipe.readQueue)
    (written : next.written = pipe.written ++ [(buffer, client)])
    (returned : next.returned = pipe.returned) (same : next.client = pipe.client) :
    OccupantKept ⟨stage, next⟩ where
  queued := by
    show forall buffer, some buffer ∈ next.writeQueue -> buffer.MeantFor next.client
    rw [writeQueue, same]
    exact kept.queued
  held := fun buffer holds => by cases nothing.symm.trans holds
  written := by
    intro other receiver member
    have added : (other, receiver) ∈ pipe.written ++ [(buffer, client)] := written ▸ member
    rcases List.mem_append.mp added with old | new
    · exact kept.written other receiver old
    · cases List.mem_singleton.mp new
      rw [← occupied]
      exact kept.held buffer rfl
  unread := by
    show forall incoming, incoming ∈ next.readQueue -> next.client = some incoming.sender
    rw [readQueue, same]
    exact kept.unread
  returned := by
    show forall incoming client, (incoming, some client) ∈ next.returned ->
      incoming.sender = client
    rw [returned]
    exact kept.returned

/-- Nothing waits in the queues, and nothing is held. -/
theorem OccupantKept.empties {view next : PipeView longBits} (kept : view.OccupantKept)
    (writeQueue : next.pipe.writeQueue = []) (readQueue : next.pipe.readQueue = [])
    (nothing : Stage.held next.stage = none) (written : next.pipe.written = view.pipe.written)
    (returned : next.pipe.returned = view.pipe.returned) : next.OccupantKept where
  queued := fun buffer member => by
    rw [writeQueue] at member
    cases member
  held := fun buffer holds => by cases nothing.symm.trans holds
  written := by
    rw [written]
    exact kept.written
  unread := fun incoming member => by
    rw [readQueue] at member
    cases member
  returned := by
    rw [returned]
    exact kept.returned

/-- A client connects to a pipe that nobody occupied. -/
theorem OccupantKept.connects {stage : Option Stage} {pipe next : ControlPipe longBits}
    (kept : OccupantKept ⟨stage, pipe⟩) (free : pipe.client = none)
    (writeQueue : next.writeQueue = pipe.writeQueue) (readQueue : next.readQueue = pipe.readQueue)
    (written : next.written = pipe.written) (returned : next.returned = pipe.returned) :
    OccupantKept ⟨stage, next⟩ := by
  have nobody {buffer : Outgoing} (meant : buffer.MeantFor pipe.client) :
      buffer.MeantFor next.client := by
    intro addressee sent
    have occupied := meant addressee sent
    rw [free] at occupied
    cases occupied
  refine ⟨fun buffer member => ?_, fun buffer holds => nobody (kept.held buffer holds), ?_,
    fun incoming member => ?_, ?_⟩
  · have before : some buffer ∈ pipe.writeQueue := writeQueue ▸ member
    exact nobody (kept.queued buffer before)
  · show forall buffer client, (buffer, client) ∈ next.written -> buffer.MeantFor (some client)
    rw [written]
    exact kept.written
  · have before : incoming ∈ pipe.readQueue := readQueue ▸ member
    have occupied : pipe.client = some incoming.sender := kept.unread incoming before
    rw [free] at occupied
    cases occupied
  · show forall incoming client, (incoming, some client) ∈ next.returned ->
      incoming.sender = client
    rw [returned]
    exact kept.returned

/-- The loop takes the front of the queue. -/
theorem OccupantKept.front {pipe : ControlPipe longBits} {buffer : Option Outgoing}
    {rest : List (Option Outgoing)} (kept : OccupantKept ⟨some .front, pipe⟩)
    (queue : pipe.writeQueue = buffer :: rest) :
    OccupantKept ⟨some (.pop buffer), { pipe with writeQueue := none :: rest }⟩ := by
  have queued : forall other, some other ∈ buffer :: rest -> other.MeantFor pipe.client := by
    rw [← queue]
    exact kept.queued
  exact {
    queued := fun other member => by
      rcases List.mem_cons.mp member with same | later
      · cases same
      · exact queued other (List.mem_cons_of_mem _ later)
    held := fun other holds => by
      have same : buffer = some other := holds
      rw [same] at queued
      exact queued other List.mem_cons_self
    written := kept.written
    unread := kept.unread
    returned := kept.returned }

theorem OccupantKept.pop {pipe : ControlPipe longBits} {buffer head : Option Outgoing}
    {rest : List (Option Outgoing)} (kept : OccupantKept ⟨some (.pop buffer), pipe⟩)
    (queue : pipe.writeQueue = head :: rest) :
    OccupantKept ⟨some (.writeFile buffer), { pipe with writeQueue := rest }⟩ where
  queued := fun other member => kept.queued other (by
    show some other ∈ pipe.writeQueue
    rw [queue]
    exact List.mem_cons_of_mem _ member)
  held := kept.held
  written := kept.written
  unread := kept.unread
  returned := kept.returned

/-- A message of the client that occupies the pipe is pushed. -/
theorem OccupantKept.receives {index client bytes : Nat} {pipe : ControlPipe longBits}
    {message : ProcessMessage longBits} (kept : OccupantKept ⟨some (.decode client bytes), pipe⟩)
    (owned : pipe.client = some client) :
    OccupantKept ⟨Move.turnEnd.stageAt index,
      { pipe with
        readReady := true
        readQueue := pipe.readQueue ++ [⟨client, message⟩]
        pushed := pipe.pushed ++ [⟨client, message⟩] }⟩ where
  queued := kept.queued
  held := fun buffer holds => by cases holds
  written := kept.written
  unread := fun incoming member => by
    rcases List.mem_append.mp member with old | new
    · exact kept.unread incoming old
    · rw [List.mem_singleton.mp new]
      exact owned
  returned := kept.returned

theorem occupantKept_advanced {index : Nat} {input : Octets}
    {pipe next : ControlPipe platform.longBits} {stage : Stage}
    {supplied : LoopInput platform.longBits} {move : Move}
    (advanced : pipe.Advanced platform input stage supplied next move)
    (empty : EmptyAtDisconnect ⟨some stage, pipe⟩ (.loop supplied))
    (reads : ReadKept ⟨some stage, pipe⟩) (kept : OccupantKept ⟨some stage, pipe⟩) :
    OccupantKept ⟨move.stageAt index, next⟩ := by
  cases advanced with
  | ready =>
      refine kept.moves rfl rfl rfl rfl rfl fun buffer holds => ?_
      split at holds <;> cases holds
  | nonEmpty =>
      refine kept.moves rfl rfl rfl rfl rfl fun buffer holds => ?_
      split at holds <;> cases holds
  | front queue => exact kept.front queue
  | pop queue => exact kept.pop queue
  | writeCompleted occupied => exact kept.writes occupied rfl rfl rfl rfl rfl rfl
  | writeStarted occupied => exact kept.writes occupied rfl rfl rfl rfl rfl rfl
  | disconnected succeeded =>
      cases succeeded with
      | false =>
          exact kept.moves rfl rfl rfl rfl rfl fun buffer holds => by cases holds
      | true =>
          rcases empty _ _ rfl rfl with ⟨writes, incoming⟩
          exact kept.empties writes incoming rfl rfl rfl
  | connected connects flags moves =>
      refine kept.moves rfl rfl rfl rfl (client_of_connects connects) fun buffer holds => ?_
      rcases moves with rfl | rfl | rfl <;> cases holds
  | received decodes => exact kept.receives (reads.decoding _ _ rfl).2.2.1
  | _ => exact kept.moves rfl rfl rfl rfl rfl fun buffer holds => by cases holds

theorem occupantKept_occurred {clients : Nat} {stage : Option Stage}
    {pipe next : ControlPipe longBits} {event : PipeEvent}
    (occurred : pipe.Occurred clients event next) (kept : OccupantKept ⟨stage, pipe⟩) :
    OccupantKept ⟨stage, next⟩ := by
  cases occurred with
  | clientConnected created =>
      have free : pipe.client = none := by rw [ControlPipe.client, created]; rfl
      exact kept.connects free rfl rfl rfl rfl
  | connectCompleted listening =>
      have free : pipe.client = none := by rw [ControlPipe.client, listening]; rfl
      exact kept.connects free rfl rfl rfl rfl
  | clientClosed open_ =>
      refine kept.moves rfl rfl rfl rfl ?_ fun buffer => id
      show Connection.client _ = pipe.connection.client
      rw [open_]
      rfl
  | _ => exact kept.moves rfl rfl rfl rfl rfl fun buffer => id

theorem occupantKept_send {stage : Option Stage} {pipe : ControlPipe longBits}
    (kept : OccupantKept ⟨stage, pipe⟩) (octets : Octets) :
    OccupantKept ⟨stage, pipe.enqueue octets⟩ where
  queued := fun buffer member => by
    rcases List.mem_append.mp member with old | new
    · exact kept.queued buffer old
    · cases List.mem_singleton.mp new
      exact fun addressee sent => sent
  held := kept.held
  written := kept.written
  unread := kept.unread
  returned := kept.returned

/-- The client that occupies the pipe sent the message that `next_message` returns. -/
theorem occupantKept_nextMessage {stage : Option Stage} {pipe next : ControlPipe longBits}
    (kept : OccupantKept ⟨stage, pipe⟩) (taken : pipe.dequeue = some next) :
    OccupantKept ⟨stage, next⟩ := by
  rcases ControlPipe.dequeued_of_dequeue taken with ⟨incoming, rest, queue, rfl⟩
  have waiting : forall other, other ∈ incoming :: rest ->
      pipe.client = some other.sender := by
    rw [← queue]
    exact kept.unread
  exact {
    queued := kept.queued
    held := kept.held
    written := kept.written
    unread := fun other member => waiting other (List.mem_cons_of_mem _ member)
    returned := fun other client member => by
      rcases List.mem_append.mp member with old | new
      · exact kept.returned other client old
      · have occupied := waiting incoming List.mem_cons_self
        rcases Prod.mk.inj (List.mem_singleton.mp new) with ⟨rfl, holder⟩
        exact Option.some.inj (occupied.symm.trans holder.symm) }

theorem occupantKept_step {index : Nat} {input : Octets} {clients : Nat}
    {view next : PipeView platform.longBits} {label : ServerLabel platform.longBits}
    (reads : view.ReadKept) (kept : view.OccupantKept) (empty : view.EmptyAtDisconnect label)
    (taken : PipeStep platform index input clients view label next) : next.OccupantKept := by
  cases taken with
  | loop taken =>
      exact occupantKept_advanced (ControlPipe.advanced_of_advance taken) empty reads kept
  | @arrive stage pipe _ entry =>
      refine kept.moves rfl rfl rfl rfl rfl fun buffer holds => ?_
      cases stage with
      | pop taken => exact False.elim entry
      | writeFile taken => exact False.elim entry
      | _ => cases holds
  | send packed => exact occupantKept_send kept _
  | nextMessage taken => exact occupantKept_nextMessage kept taken
  | event taken => exact occupantKept_occurred (ControlPipe.occurred_of_occurs taken) kept

theorem occupantKept_initially {index : Nat} {view : PipeView platform.longBits}
    (start : (ControlPipe.system platform index).initial view) : view.OccupantKept := by
  rcases view with ⟨stage, pipe⟩
  rcases start with ⟨fresh, at_start⟩
  have created : pipe = .create platform.longBits := fresh
  rw [created]
  exact {
    queued := fun buffer member => by cases member
    held := fun buffer holds => by
      rcases at_start with away | setup
      · have none : stage = Option.none := away
        rw [none] at holds
        cases holds
      · have first : stage = some (.connect index .setup) := setup
        rw [first] at holds
        cases holds
    written := fun buffer client member => by cases member
    unread := fun incoming member => by cases member
    returned := fun incoming client member => by cases member }

theorem occupantKept_reachable {index : Nat} {view : PipeView platform.longBits}
    (reachable : ((ControlPipe.system platform index).restrict EmptyAtDisconnect).Reachable view) :
    view.OccupantKept := by
  refine reachable.invariant_reachable ?_ ?_
  · exact fun view start => occupantKept_initially start
  · rintro view label next reachable kept ⟨empty, _, _, taken⟩
    exact occupantKept_step (readKept_reachable reachable.of_restrict) kept empty taken

end PipeView

namespace ControlServer

variable {platform : ControlPlatform}

/-- What is meant for a client is written to no other, and what a client has sent is not
returned while another occupies the pipe. -/
structure OccupantsSeparate {longBits : Nat} (world : ControlServer longBits) : Prop where
  written : forall index, index < instances -> forall buffer addressee client,
    (buffer, client) ∈ (world.pipes index).written -> buffer.addressee = some addressee ->
      client = addressee
  returned : forall index, index < instances -> forall incoming client,
    (incoming, some client) ∈ (world.pipes index).returned -> incoming.sender = client

/-- The queues of the pipe that the step disconnects are empty behind it. -/
def StartsEmpty {longBits : Nat} (world : ControlServer longBits) (label : ServerLabel longBits)
    (next : ControlServer longBits) : Prop :=
  forall index meant resume, index < instances ->
    world.point = .pipe index (.disconnect meant resume) ->
      label = .loop (.disconnected true) ->
        (next.pipes index).writeQueue = [] ∧ (next.pipes index).readQueue = []

/-- When a client is disconnected, nothing waits in the queues of the pipe. -/
def emptyAtDisconnect {longBits : Nat} (world : ControlServer longBits)
    (label : ServerLabel longBits) : Bool :=
  match world.point, label with
  | .pipe index (.disconnect _ _), .loop (.disconnected true) =>
      (world.pipes index).writeQueue.isEmpty && (world.pipes index).readQueue.isEmpty
  | _, _ => true

theorem emptyAtDisconnect_view {longBits : Nat} {world : ControlServer longBits}
    {label : ServerLabel longBits} (empty : emptyAtDisconnect world label = true)
    (index : Nat) : (world.view index).EmptyAtDisconnect label := by
  intro meant resume here disconnects
  simp only [emptyAtDisconnect, point_of_stage here, disconnects, Bool.and_eq_true,
    List.isEmpty_iff] at empty
  exact empty

/-- `DisconnectNamedPipe` leaves the queues alone. -/
theorem queues_disconnected {world next : ControlServer platform.longBits} {index : Nat}
    (within : index < instances)
    (taken : step platform world (.loop (.disconnected true)) = some next) :
    (next.pipes index).writeQueue = (world.pipes index).writeQueue ∧
      (next.pipes index).readQueue = (world.pipes index).readQueue := by
  have same_queues {before after : PipeView platform.longBits}
      (own : PipeStep platform index world.inputBuffer world.clients before
        (.loop (.disconnected true)) after) :
      after.pipe.writeQueue = before.pipe.writeQueue ∧
        after.pipe.readQueue = before.pipe.readQueue := by
    cases own with
    | arrive entry => exact ⟨rfl, rfl⟩
    | loop taken =>
        cases ControlPipe.advanced_of_advance taken with
        | disconnected succeeded => exact ⟨rfl, rfl⟩
  rcases seen taken within with same | own
  · have pipe : next.pipes index = world.pipes index := congrArg PipeView.pipe same
    rw [pipe]
    exact ⟨rfl, rfl⟩
  · exact same_queues own

theorem occupantsSeparate_reachable {world : ControlServer platform.longBits}
    (reachable : ((system platform).restrict fun world label =>
      emptyAtDisconnect world label = true).Reachable world) : world.OccupantsSeparate := by
  have kept : forall index, index < instances -> (world.view index).OccupantKept :=
    fun index within => PipeView.occupantKept_reachable
      (view_reachable_restrict PipeView.EmptyAtDisconnect
        (fun world label empty => emptyAtDisconnect_view empty index) reachable within)
  exact {
    written := fun index within buffer addressee client member meant =>
      Option.some.inj ((kept index within).written buffer client member addressee meant)
    returned := fun index within => (kept index within).returned }

/-- As long as the queues of a pipe are empty when its client is disconnected, no message
reaches another client than the one it is meant for, or seems to come from another. -/
theorem occupants_separate (platform : ControlPlatform) (world : ControlServer platform.longBits)
    (reachable : ((system platform).restrict fun world label =>
      emptyAtDisconnect world label = true).Reachable world) :
    world.OccupantsSeparate ∧
      forall label next, emptyAtDisconnect world label = true ->
        step platform world label = some next -> StartsEmpty world label next := by
  refine ⟨occupantsSeparate_reachable reachable, ?_⟩
  rintro label next empty taken index meant resume within point rfl
  have here : (world.view index).stage = some (.disconnect meant resume) := by
    rw [view, point]
    exact if_pos rfl
  rcases emptyAtDisconnect_view empty index meant resume here rfl with ⟨writes, reads⟩
  rcases queues_disconnected within taken with ⟨sameWrites, sameReads⟩
  exact ⟨sameWrites.trans writes, sameReads.trans reads⟩

/-! ## Two clients on one pipe -/

open ControlPlatform (formatPlatform stopMessage)

/-- A client connects and so many messages are sent to it.  The write of the first one fails,
the client is disconnected, and another one connects. -/
def replacedLabels (messages : Nat) : List (ServerLabel formatPlatform.longBits) :=
  setupLabels ++ [.pipe 0 .clientConnects] ++ List.replicate messages (.send 0 stopMessage) ++
    loopSteps 10 ++
    [.loop (.writeFile .failed), .loop (.disconnected true), .loop (.connected .pending),
      .pipe 0 .clientConnects]

/-- In the next turn a message is written. -/
def nextWriteLabels : List (ServerLabel formatPlatform.longBits) :=
  loopSteps 8 ++ [.loop (.waited .timeout)] ++ loopSteps 11 ++ [.loop (.writeFile .completed)]

/-- One message is sent to each client. -/
def separateLabels : List (ServerLabel formatPlatform.longBits) :=
  replacedLabels 1 ++ [.send 0 stopMessage] ++ nextWriteLabels

theorem separateLabels_taken :
    (Transition.System.execute (Transition.System.guarded
      (fun world label => emptyAtDisconnect world label = true) (step formatPlatform))
      (create formatPlatform.longBits) separateLabels).isSome = true := by
  decide +kernel

def separateServer : ControlServer formatPlatform.longBits :=
  (Transition.System.execute (Transition.System.guarded
    (fun world label => emptyAtDisconnect world label = true) (step formatPlatform))
    (create formatPlatform.longBits) separateLabels).get separateLabels_taken

theorem separateServer_reachable : ((system formatPlatform).restrict fun world label =>
    emptyAtDisconnect world label = true).Reachable separateServer := by
  refine .of_execute_guarded ?_ separateLabels_taken
  rfl

theorem occupants_separate_one : separateServer.OccupantsSeparate :=
  (occupants_separate formatPlatform separateServer separateServer_reachable).1

/-- Two messages are sent to the first client. -/
def leftOverLabels : List (ServerLabel formatPlatform.longBits) :=
  replacedLabels 2 ++ nextWriteLabels

theorem leftOverLabels_taken :
    (Transition.System.execute (step formatPlatform) (create formatPlatform.longBits)
      leftOverLabels).isSome = true := by
  decide +kernel

def leftOverServer : ControlServer formatPlatform.longBits :=
  (Transition.System.execute (step formatPlatform) (create formatPlatform.longBits)
    leftOverLabels).get leftOverLabels_taken

theorem leftOverServer_reachable : (system formatPlatform).Reachable leftOverServer := by
  refine .of_execute ?_ leftOverLabels_taken
  rfl

theorem leftOverServer_written : (leftOverServer.pipes 0).written =
    [(⟨ControlPlatform.stopOctets, some 0⟩, 1)] := by
  decide +kernel

/-- The second message reaches the second client. -/
theorem occupants_not_separate : ¬ forall world, (system formatPlatform).Reachable world ->
    world.OccupantsSeparate := by
  intro separate
  have kept := separate leftOverServer leftOverServer_reachable
  have same := kept.written 0 (by decide) ⟨ControlPlatform.stopOctets, some 0⟩ 0 1
    (by rw [leftOverServer_written]; exact List.mem_singleton_self _) rfl
  exact absurd same (by decide)

end ControlServer

end EasyProspect
