import EasyProspect.ControlSends
import EasyProspect.PipeReads

namespace EasyProspect

/-!
# One operation at a time

An `OVERLAPPED` serves one operation at a time, and the buffer of a write has to stay
until the write is done.  Neither loop sees to that for its writes: the buffer belongs
to a local of the block that calls `WriteFile`, and the next message is written
whether or not the last one is still pending.  The loop of the client besides asks for
another read when it is told that the last one is unfinished.  The server never has two
reads of a pipe in flight, and where each write is done when its block ends all is well.
-/

/-- Writes are in flight only inside the block that owns their buffers. -/
structure BuffersKept (writes : List WriteInFlight) (inside : Prop) : Prop where
  within : writes = [] ∨ inside
  allocated : forall write, write ∈ writes -> write.allocated = true

theorem buffersKept_nil {inside : Prop} : BuffersKept [] inside where
  within := Or.inl rfl
  allocated := fun write member => by cases member

/-- Outside the block nothing is in flight. -/
theorem BuffersKept.none {writes : List WriteInFlight} {inside : Prop}
    (kept : BuffersKept writes inside) (outside : ¬inside) : writes = [] :=
  kept.within.resolve_right outside

theorem BuffersKept.outside {writes : List WriteInFlight} {inside other : Prop}
    (kept : BuffersKept writes inside) (outside : ¬inside) : BuffersKept writes other := by
  rw [kept.none outside]
  exact buffersKept_nil

/-- The write that the block issues is the only one. -/
theorem BuffersKept.issue {writes : List WriteInFlight} {before after : Prop}
    (kept : BuffersKept writes before) (outside : ¬before) (inside : after) (octets : Octets) :
    BuffersKept (writes ++ [⟨octets, true⟩]) after := by
  rw [kept.none outside, List.nil_append]
  exact {
    within := Or.inr inside
    allocated := fun write member => by rw [List.mem_singleton.mp member] }

theorem BuffersKept.completes {write : WriteInFlight} {rest : List WriteInFlight} {inside : Prop}
    (kept : BuffersKept (write :: rest) inside) : BuffersKept rest inside where
  within := Or.inr (kept.within.resolve_left (List.cons_ne_nil write rest))
  allocated := fun other member => kept.allocated other (List.mem_cons_of_mem write member)

/-- The block ends when its write is done. -/
theorem buffersKept_free {writes : List WriteInFlight} {inside : Prop} (done : writes = []) :
    BuffersKept (freeBuffers writes) inside := by
  rw [done]
  exact buffersKept_nil

/-! ## The server -/

namespace PipeView

variable {platform : ControlPlatform}

/-- A read or write that is about to be issued is the only one, and every write in flight
has its buffer. -/
structure SingleOperations {longBits : Nat} (view : PipeView longBits) : Prop where
  read : view.stage = some .reads -> view.pipe.readReady = true -> view.pipe.readsInFlight = 0
  write : forall buffer, view.stage = some (.writeFile buffer) -> view.pipe.writesInFlight = []
  allocated : forall write, write ∈ view.pipe.writesInFlight -> write.allocated = true

def WritesKept {longBits : Nat} (view : PipeView longBits) : Prop :=
  BuffersKept view.pipe.writesInFlight (view.stage = some .release)

/-- The buffer is not freed under a write. -/
def FreesDone {longBits : Nat} (view : PipeView longBits) (label : ServerLabel longBits) : Prop :=
  view.stage = some .release -> label = .loop .step -> view.pipe.writesInFlight = []

theorem ReadKept.single_read {longBits : Nat} {view : PipeView longBits} (kept : view.ReadKept)
    (wanted : view.pipe.readReady = true) : view.pipe.readsInFlight = 0 :=
  kept.idle (kept.unwanted wanted)

theorem writesKept_advanced {index : Nat} {input : Octets}
    {pipe next : ControlPipe platform.longBits} {current : Stage}
    {supplied : LoopInput platform.longBits} {move : Move}
    (advanced : pipe.Advanced platform input current supplied next move)
    (frees : FreesDone ⟨some current, pipe⟩ (.loop supplied))
    (kept : WritesKept ⟨some current, pipe⟩) : WritesKept ⟨move.stageAt index, next⟩ := by
  cases advanced with
  | writeStarted occupied => exact BuffersKept.issue kept (fun here => by cases here) rfl _
  | release => exact buffersKept_free (frees rfl rfl)
  | disconnected succeeded =>
      cases succeeded with
      | true => exact buffersKept_nil
      | false => exact BuffersKept.outside kept fun here => by cases here
  | _ => exact BuffersKept.outside kept fun here => by cases here

theorem writesKept_occurred {clients : Nat} {stage : Option Stage}
    {pipe next : ControlPipe platform.longBits} {event : PipeEvent}
    (occurred : pipe.Occurred clients event next) (kept : WritesKept ⟨stage, pipe⟩) :
    WritesKept ⟨stage, next⟩ := by
  cases occurred with
  | writeCompleted writing =>
      unfold WritesKept at kept
      rw [writing] at kept
      exact BuffersKept.completes kept
  | _ => exact kept

theorem writesKept_step {index : Nat} {input : Octets} {clients : Nat}
    {view next : PipeView platform.longBits} {label : ServerLabel platform.longBits}
    (kept : view.WritesKept) (frees : view.FreesDone label)
    (taken : PipeStep platform index input clients view label next) : next.WritesKept := by
  cases taken with
  | loop taken => exact writesKept_advanced (ControlPipe.advanced_of_advance taken) frees kept
  | arrive entry => exact BuffersKept.outside kept fun here => by cases here
  | send packed => exact kept
  | nextMessage taken =>
      rcases ControlPipe.dequeued_of_dequeue taken with ⟨incoming, rest, queue, rfl⟩
      exact kept
  | event taken => exact writesKept_occurred (ControlPipe.occurred_of_occurs taken) kept

theorem writesKept_reachable {index : Nat} {view : PipeView platform.longBits}
    (reachable : ((ControlPipe.system platform index).restrict FreesDone).Reachable view) :
    view.WritesKept := by
  refine reachable.invariant ?_ ?_
  · rintro ⟨stage, pipe⟩ ⟨fresh, _⟩
    have created : pipe = .create platform.longBits := fresh
    rw [created]
    exact buffersKept_nil
  · rintro view label next kept ⟨frees, _, _, taken⟩
    exact writesKept_step kept frees taken

theorem singleOperations_of_kept {longBits : Nat} {view : PipeView longBits}
    (reads : view.ReadKept) (writes : view.WritesKept) : view.SingleOperations where
  read := fun _ wanted => reads.single_read wanted
  write := fun buffer here => writes.none fun inside => by cases here.symm.trans inside
  allocated := writes.allocated

end PipeView

namespace ControlServer

def SingleOperations {longBits : Nat} (world : ControlServer longBits) : Prop :=
  forall index, index < instances -> (world.view index).SingleOperations

/-- At the end of the block that calls `WriteFile` no write is pending on the pipe. -/
def freesDone {longBits : Nat} (world : ControlServer longBits) (label : ServerLabel longBits) :
    Bool :=
  match world.point, label with
  | .pipe index .release, .loop .step => (world.pipes index).writesInFlight.isEmpty
  | _, _ => true

theorem freesDone_view {longBits : Nat} {world : ControlServer longBits}
    {label : ServerLabel longBits} (frees : freesDone world label = true) (index : Nat) :
    (world.view index).FreesDone label := by
  intro here step
  have point := point_of_stage here
  simp only [freesDone, point, step, List.isEmpty_iff] at frees
  exact frees

theorem singleOperations_reachable {platform : ControlPlatform}
    {world : ControlServer platform.longBits}
    (reachable : ((system platform).restrict fun world label =>
      freesDone world label = true).Reachable world) : world.SingleOperations := by
  intro index within
  have seen := view_reachable_restrict PipeView.FreesDone
    (fun world label frees => freesDone_view frees index) reachable within
  exact PipeView.singleOperations_of_kept (PipeView.readKept_reachable seen.of_restrict)
    (PipeView.writesKept_reachable seen)

end ControlServer

/-! ## The client -/

namespace ControlClient

variable {platform : ControlPlatform}

structure SingleOperations {longBits : Nat} (world : ControlClient longBits) : Prop where
  read : world.point = .turn -> world.readPipe = true -> world.readsInFlight = 0
  write : forall buffer, world.point = .writeFile buffer -> world.writesInFlight = []
  allocated : forall write, write ∈ world.writesInFlight -> write.allocated = true

/-- No write is pending at the end of the block that calls `WriteFile`, and no read is found
unfinished. -/
def operationsDone {longBits : Nat} (world : ControlClient longBits)
    (label : ClientLabel longBits) : Bool :=
  match world.point, label with
  | .release, .loop .step => world.writesInFlight.isEmpty
  | .readCompletion, .loop .step => !world.readPending || world.readStatus ≠ .pending
  | _, _ => true

def WritesKept {longBits : Nat} (world : ControlClient longBits) : Prop :=
  BuffersKept world.writesInFlight (world.point = .release)

/-- At most one read is in flight, and another one is not wanted before it is done. -/
def ReadsKept {longBits : Nat} (world : ControlClient longBits) : Prop :=
  0 < world.readsInFlight -> world.readsInFlight = 1 ∧ world.readPending = true ∧
    world.readStatus = .pending ∧ (world.readPipe = false ∨ world.point = .readCompletion)

def OperationsKept {longBits : Nat} (world : ControlClient longBits) : Prop :=
  WritesKept world ∧ ReadsKept world

variable {longBits : Nat} {world next : ControlClient longBits}

theorem quiet_away {before after : ClientPoint longBits} (moves : Quiet before after) :
    before ≠ .readCompletion ∧ before ≠ .release := by
  cases moves <;> exact ⟨(fun here => by cases here), (fun here => by cases here)⟩

/-- The loop goes on from a point outside the block. -/
theorem WritesKept.goes (kept : WritesKept world) {point : ClientPoint longBits}
    (here : world.point = point) (outside : point ≠ .release)
    (writes : next.writesInFlight = world.writesInFlight) : WritesKept next := by
  unfold WritesKept
  rw [writes]
  exact BuffersKept.outside kept fun inside => outside (here.symm.trans inside)

theorem writesKept_stepped {world next : ControlClient platform.longBits}
    {label : ClientLabel platform.longBits} (kept : WritesKept world)
    (done : operationsDone world label = true) (stepped : Stepped platform world label next) :
    WritesKept next := by
  cases stepped with
  | quiet moves => exact kept.goes rfl (quiet_away moves).2 rfl
  | unchanged => exact kept
  | written point writes =>
      have outside : ¬world.point = .release := fun here => by cases point.symm.trans here
      rcases writes with rfl | rfl
      · exact BuffersKept.outside kept outside
      · exact BuffersKept.issue kept outside rfl _
  | release point =>
      simp only [operationsDone, point, List.isEmpty_iff] at done
      exact buffersKept_free done
  | messageRead point status goes => exact kept.goes point (fun here => by cases here) rfl
  | readRefused point _ | readStarted point _ | readCompleted point _ | lockedEmpty point _
  | lockedFull point _ | wantsFront point _ | front point _ | pop point _ | waitFailed point
  | readEvent point | writeEvent point | readUnfinished point _ _ | readBroken point _
  | readUnawaited point _ | decoded point _ | pushed point | posted point | writeEnded point =>
      exact kept.goes point (fun here => by cases here) rfl
  | writeCompleted writing =>
      unfold WritesKept at kept
      rw [writing] at kept
      exact BuffersKept.completes kept
  | _ => exact kept

/-- A read that would be in flight would still be awaited. -/
theorem ReadsKept.none (kept : ReadsKept world)
    (done : world.readPending = false ∨ world.readStatus ≠ .pending ∨
      (world.readPipe = true ∧ world.point ≠ .readCompletion)) : world.readsInFlight = 0 := by
  refine Nat.eq_zero_of_not_pos fun reading => ?_
  rcases kept reading with ⟨_, awaited, status, unwanted⟩
  rcases done with unawaited | finished | ⟨wanted, away⟩
  · rw [awaited] at unawaited
    cases unawaited
  · exact finished status
  · rcases unwanted with cleared | here
    · rw [wanted] at cleared
      cases cleared
    · exact away here

theorem readsKept_of_none (none : world.readsInFlight = 0) : ReadsKept world := by
  intro reading
  rw [none] at reading
  cases reading

/-- A step that changes nothing that the reads depend on but the point. -/
theorem ReadsKept.moves (kept : ReadsKept world)
    (readsInFlight : next.readsInFlight = world.readsInFlight)
    (readPending : next.readPending = world.readPending)
    (readStatus : next.readStatus = world.readStatus)
    (readPipe : next.readPipe = world.readPipe ∨ next.point = .readCompletion)
    (away : world.point = .readCompletion -> next.point = .readCompletion) :
    ReadsKept next := by
  intro reading
  rw [readsInFlight] at reading
  rcases kept reading with ⟨one, awaited, status, unwanted⟩
  refine ⟨readsInFlight.trans one, readPending.trans awaited, readStatus.trans status, ?_⟩
  rcases unwanted with cleared | here
  · exact readPipe.imp_left fun same => same.trans cleared
  · exact Or.inr (away here)

/-- A read in flight ends. -/
theorem ReadsKept.ends (kept : ReadsKept world) (reading : 0 < world.readsInFlight)
    (readsInFlight : next.readsInFlight = world.readsInFlight - 1) : ReadsKept next := by
  refine readsKept_of_none ?_
  rw [readsInFlight, (kept reading).1]

theorem readsKept_stepped {world next : ControlClient platform.longBits}
    {label : ClientLabel platform.longBits} (kept : ReadsKept world)
    (done : operationsDone world label = true) (stepped : Stepped platform world label next) :
    ReadsKept next := by
  cases stepped with
  | quiet moves =>
      exact kept.moves rfl rfl rfl (Or.inl rfl) fun here => absurd here (quiet_away moves).1
  | unchanged => exact kept
  | readRefused point wanted | readCompleted point wanted =>
      refine readsKept_of_none (kept.none (Or.inr (Or.inr ⟨wanted, fun here => ?_⟩)))
      cases point.symm.trans here
  | readStarted point wanted =>
      have none : world.readsInFlight = 0 := by
        refine kept.none (Or.inr (Or.inr ⟨wanted, fun here => ?_⟩))
        cases point.symm.trans here
      exact fun _ => ⟨congrArg Nat.succ none, rfl, rfl, Or.inl rfl⟩
  | readEvent point => exact kept.moves rfl rfl rfl (Or.inr rfl) fun _ => rfl
  | messageRead point status goes =>
      refine readsKept_of_none (kept.none (Or.inr (Or.inl ?_)))
      rw [status]
      exact fun same => by cases same
  | readUnfinished point awaited status =>
      simp only [operationsDone, point, awaited, status, Bool.not_true, ne_eq,
        not_true_eq_false, decide_false, Bool.or_self, Bool.false_eq_true] at done
  | readBroken point status =>
      refine readsKept_of_none (kept.none (Or.inr (Or.inl ?_)))
      rw [status]
      exact fun same => by cases same
  | readUnawaited point unawaited => exact readsKept_of_none (kept.none (Or.inl unawaited))
  | lockedEmpty point _ | lockedFull point _ | wantsFront point _ | front point _ | pop point _
  | written point _ | release point | waitFailed point | writeEvent point | decoded point _
  | pushed point | posted point | writeEnded point =>
      exact kept.moves rfl rfl rfl (Or.inl rfl) fun here => by cases point.symm.trans here
  | stored reading => exact kept.ends reading rfl
  | overflowed reading => exact kept.ends reading rfl
  | readFailed reading => exact kept.ends reading rfl
  | _ => exact kept.moves rfl rfl rfl (Or.inl rfl) id

theorem singleOperations_reachable {world : ControlClient platform.longBits}
    (reachable : ((system platform).restrict fun world label =>
      operationsDone world label = true).Reachable world) : world.SingleOperations := by
  have kept : OperationsKept world := by
    refine reachable.invariant ?_ ?_
    · rintro world start
      have created : world = create platform.longBits := start
      rw [created]
      exact ⟨buffersKept_nil, readsKept_of_none rfl⟩
    · rintro world label next ⟨writes, reads⟩ ⟨done, taken⟩
      have stepped := stepped_of_step taken
      exact ⟨writesKept_stepped writes done stepped, readsKept_stepped reads done stepped⟩
  rcases kept with ⟨writes, reads⟩
  exact {
    read := fun point wanted =>
      reads.none (Or.inr (Or.inr ⟨wanted, fun here => by cases point.symm.trans here⟩))
    write := fun buffer point => writes.none fun here => by cases point.symm.trans here
    allocated := writes.allocated }

end ControlClient

/-! ## Both ends -/

/-- As long as no block ends under its write, and the client is not told of an unfinished read,
at most one operation of each kind is in flight and its buffer is there. -/
theorem single_operations (platform : ControlPlatform) (server : ControlServer platform.longBits)
    (client : ControlClient platform.longBits)
    (served : ((ControlServer.system platform).restrict fun world label =>
      ControlServer.freesDone world label = true).Reachable server)
    (run : ((ControlClient.system platform).restrict fun world label =>
      ControlClient.operationsDone world label = true).Reachable client) :
    server.SingleOperations ∧ client.SingleOperations :=
  ⟨ControlServer.singleOperations_reachable served,
    ControlClient.singleOperations_reachable run⟩

open ControlPlatform (formatPlatform stopMessage)

namespace ControlServer

/-- A write is pending, and completes before its block ends. -/
def completedLabels : List (ServerLabel formatPlatform.longBits) :=
  setupLabels ++ [.pipe 0 .clientConnects, .send 0 stopMessage] ++ loopSteps 10 ++
    [.loop (.writeFile .pending), .pipe 0 (.writeCompletes true), .loop .step]

theorem completedLabels_taken :
    (Transition.System.execute (Transition.System.guarded
      (fun world label => freesDone world label = true) (step formatPlatform))
      (create formatPlatform.longBits) completedLabels).isSome = true := by
  decide +kernel

def completedServer : ControlServer formatPlatform.longBits :=
  (Transition.System.execute (Transition.System.guarded
    (fun world label => freesDone world label = true) (step formatPlatform))
    (create formatPlatform.longBits) completedLabels).get completedLabels_taken

theorem completedServer_reachable : ((system formatPlatform).restrict fun world label =>
    freesDone world label = true).Reachable completedServer := by
  refine .of_execute_guarded ?_ completedLabels_taken
  rfl

end ControlServer

namespace ControlClient

/-- The loop opens the pipe, starts a read and comes to write one of two messages. -/
def writingLabels : List (ClientLabel formatPlatform.longBits) :=
  [.loop (.openFile .opened), .loop (.readFile .pending), .send stopMessage, .send stopMessage] ++
    List.replicate 5 (.loop .step) ++ [.loop (.writeFile .pending)]

/-- The write completes before its block ends. -/
def completedLabels : List (ClientLabel formatPlatform.longBits) :=
  writingLabels ++ [.writeCompletes true, .loop .step]

theorem completedLabels_taken :
    (Transition.System.execute (Transition.System.guarded
      (fun world label => operationsDone world label = true) (step formatPlatform))
      (create formatPlatform.longBits) completedLabels).isSome = true := by
  decide +kernel

def completedClient : ControlClient formatPlatform.longBits :=
  (Transition.System.execute (Transition.System.guarded
    (fun world label => operationsDone world label = true) (step formatPlatform))
    (create formatPlatform.longBits) completedLabels).get completedLabels_taken

theorem completedClient_reachable : ((system formatPlatform).restrict fun world label =>
    operationsDone world label = true).Reachable completedClient := by
  refine .of_execute_guarded ?_ completedLabels_taken
  rfl

/-- The wait times out, and the loop comes to write the other message. -/
def rewritingLabels : List (ClientLabel formatPlatform.longBits) :=
  writingLabels ++ [.loop .step, .loop (.waited .timeout)] ++ List.replicate 7 (.loop .step)

theorem rewritingLabels_taken :
    (Transition.System.execute (step formatPlatform) (create formatPlatform.longBits)
      rewritingLabels).isSome = true := by
  decide +kernel

def rewritingClient : ControlClient formatPlatform.longBits :=
  (Transition.System.execute (step formatPlatform) (create formatPlatform.longBits)
    rewritingLabels).get rewritingLabels_taken

theorem rewritingClient_reachable : (system formatPlatform).Reachable rewritingClient := by
  refine .of_execute ?_ rewritingLabels_taken
  rfl

/-- The wait returns with the event of the read, which is unfinished. -/
def rereadingLabels : List (ClientLabel formatPlatform.longBits) :=
  [.loop (.openFile .opened), .loop (.readFile .pending), .loop .step, .loop .step, .loop .step,
    .loop (.waited (.signalled 0)), .loop .step, .loop .step]

theorem rereadingLabels_taken :
    (Transition.System.execute (step formatPlatform) (create formatPlatform.longBits)
      rereadingLabels).isSome = true := by
  decide +kernel

def rereadingClient : ControlClient formatPlatform.longBits :=
  (Transition.System.execute (step formatPlatform) (create formatPlatform.longBits)
    rereadingLabels).get rereadingLabels_taken

theorem rereadingClient_reachable : (system formatPlatform).Reachable rereadingClient := by
  refine .of_execute ?_ rereadingLabels_taken
  rfl

end ControlClient

theorem single_operations_completed :
    ControlServer.completedServer.SingleOperations ∧
      ControlClient.completedClient.SingleOperations :=
  single_operations formatPlatform ControlServer.completedServer ControlClient.completedClient
    ControlServer.completedServer_reachable ControlClient.completedClient_reachable

/-- The server frees the buffer of a pending write; the client writes while a write is pending,
and reads while a read is. -/
theorem operations_not_single :
    (¬ forall server, (ControlServer.system formatPlatform).Reachable server ->
      server.SingleOperations) ∧
    (¬ forall client, (ControlClient.system formatPlatform).Reachable client ->
      forall buffer, client.point = .writeFile buffer -> client.writesInFlight = []) ∧
    (¬ forall client, (ControlClient.system formatPlatform).Reachable client ->
      client.point = .turn -> client.readPipe = true -> client.readsInFlight = 0) := by
  refine ⟨fun single => ?_, fun written => ?_, fun read => ?_⟩
  · have operations := single ControlServer.pendingServer
      ControlServer.pendingServer_reachable 0 (by decide)
    exact absurd operations.allocated (by decide +kernel)
  · have none := written ControlClient.rewritingClient
      ControlClient.rewritingClient_reachable (some ControlPlatform.stopOctets)
      (by decide +kernel)
    exact absurd none (by decide +kernel)
  · have none := read ControlClient.rereadingClient
      ControlClient.rereadingClient_reachable (by decide +kernel) (by decide +kernel)
    exact absurd none (by decide +kernel)

end EasyProspect
