import EasyProspect.ClientSteps
import EasyProspect.PipeIndices
import EasyProspect.WriteQueues

namespace EasyProspect

/-!
# Messages passed to `send`

On the client the flag `write_pipe` says that there may be something to write.  The
loop clears it only in a section under `write_mutex` that finds the queue empty, and
`send` sets it in the section that adds to the queue; so a message that waits is always
announced.  On both ends the queue is handed over in order, each message once.
-/

/-- What the loop of the client is about to do with the write queue. -/
def ClientPoint.phase {longBits : Nat} : ClientPoint longBits -> Handoff.Phase Octets
  | .front => .front
  | .pop buffer => .pop buffer
  | .writeFile buffer => .hand buffer
  | _ => .idle

namespace ControlClient

variable {platform : ControlPlatform}

structure QueueKept {longBits : Nat} (world : ControlClient longBits) : Prop where
  kept : Handoff.Kept world.point.phase world.sent world.handed world.writeQueue
  announced : world.writeQueue ≠ [] -> world.writePipe = true
  /-- Behind the section under the mutex the flag is only set for a message. -/
  ready : world.point = .writeReady -> world.writePipe = true -> world.writeQueue ≠ []

variable {longBits : Nat} {world : ControlClient longBits}

/-- The loop goes on without touching the queue. -/
theorem QueueKept.moves {next : ControlClient longBits} (kept : QueueKept world)
    (before : world.point.phase = .idle) (after : next.point.phase = .idle)
    (away : next.point ≠ .writeReady) (queue : next.writeQueue = world.writeQueue)
    (sent : next.sent = world.sent) (handed : next.handed = world.handed)
    (flag : world.writePipe = true -> next.writePipe = true) : QueueKept next where
  kept := by
    have balance := kept.kept
    rw [before] at balance
    rw [after, queue, sent, handed]
    exact balance
  announced := fun some => flag (kept.announced (queue ▸ some))
  ready := fun here => absurd here away

/-- Another thread or the system leaves the queue and the loop alone. -/
theorem QueueKept.same {next : ControlClient longBits} (kept : QueueKept world)
    (point : next.point = world.point) (queue : next.writeQueue = world.writeQueue)
    (sent : next.sent = world.sent) (handed : next.handed = world.handed)
    (flag : next.writePipe = world.writePipe) : QueueKept next where
  kept := by
    rw [point, queue, sent, handed]
    exact kept.kept
  announced := by
    rw [queue, flag]
    exact kept.announced
  ready := by
    rw [point, queue, flag]
    exact kept.ready

theorem QueueKept.quiet (kept : QueueKept world) {point : ClientPoint longBits}
    (moves : Quiet world.point point) : QueueKept (world.goes point) := by
  have idle : world.point.phase = .idle ∧ point.phase = .idle ∧ point ≠ .writeReady := by
    cases world_point : world.point <;> rw [world_point] at moves <;> cases moves <;>
      exact ⟨rfl, rfl, fun here => by cases here⟩
  exact kept.moves idle.1 idle.2.1 idle.2.2 rfl rfl rfl id

theorem phase_at {point : ClientPoint longBits} (here : world.point = point)
    (kept : QueueKept world) :
    Handoff.Kept point.phase world.sent world.handed world.writeQueue :=
  here ▸ kept.kept

theorem idle_at {point : ClientPoint longBits} (here : world.point = point)
    (idle : point.phase = .idle) : world.point.phase = .idle :=
  (congrArg ClientPoint.phase here).trans idle

theorem queueKept_stepped {world next : ControlClient platform.longBits}
    {label : ClientLabel platform.longBits} (kept : QueueKept world)
    (stepped : Stepped platform world label next) : QueueKept next := by
  cases stepped with
  | quiet moves => exact kept.quiet moves
  | unchanged => exact kept
  | lockedEmpty point empty =>
      have balance := phase_at point kept
      exact {
        kept := balance
        announced := fun some => absurd empty some
        ready := fun _ flag => by cases flag }
  | lockedFull point some =>
      have balance := phase_at point kept
      exact {
        kept := balance
        announced := fun _ => rfl
        ready := fun _ _ => some }
  | wantsFront point wanted =>
      exact {
        kept := Handoff.Kept.seen (phase_at point kept) (kept.ready point wanted)
        announced := kept.announced
        ready := fun here => by cases here }
  | front point queue =>
      have balance := phase_at point kept
      rw [queue] at balance
      exact {
        kept := Handoff.Kept.front balance
        announced := fun _ => kept.announced (by rw [queue]; exact List.cons_ne_nil _ _)
        ready := fun here => by cases here }
  | pop point queue =>
      have balance := phase_at point kept
      rw [queue] at balance
      exact {
        kept := Handoff.Kept.pop balance
        announced := fun _ => kept.announced (by rw [queue]; exact List.cons_ne_nil _ _)
        ready := fun here => by cases here }
  | written point writes =>
      exact {
        kept := Handoff.Kept.hand (phase_at point kept)
        announced := kept.announced
        ready := fun here => by cases here }
  | sent =>
      exact {
        kept := Handoff.Kept.produce kept.kept _
        announced := fun _ => rfl
        ready := fun _ _ empty => by cases (List.append_eq_nil_iff.mp empty).2 }
  | messageRead point status goes =>
      refine kept.moves (idle_at point rfl) ?_ ?_ rfl rfl rfl id
      · rcases goes with rfl | rfl <;> rfl
      · rcases goes with rfl | rfl <;> exact fun here => by cases here
  | readRefused point _ | readStarted point _ | readCompleted point _ | release point
  | waitFailed point | readEvent point | readUnfinished point _ _ | readBroken point _
  | readUnawaited point _ | decoded point _ | pushed point | posted point | writeEnded point =>
      exact kept.moves (idle_at point rfl) rfl (fun here => by cases here) rfl rfl rfl id
  | writeEvent point =>
      exact kept.moves (idle_at point rfl) rfl (fun here => by cases here) rfl rfl rfl
        fun _ => rfl
  | _ => exact kept.same rfl rfl rfl rfl rfl

theorem queueKept_reachable {world : ControlClient platform.longBits}
    (reachable : (system platform).Reachable world) : QueueKept world := by
  refine reachable.invariant ?_ ?_
  · rintro world start
    have created : world = create platform.longBits := start
    rw [created]
    exact {
      kept := Handoff.Kept.initially
      announced := fun some => absurd rfl some
      ready := fun here => by cases here }
  · rintro world label next kept taken
    exact queueKept_stepped kept (stepped_of_step taken)

end ControlClient

/-- The messages of a queue are handed over in the order in which they were sent, each once:
what was sent is what was handed over, then what the loop holds, then what waits. -/
def HandsOver {Item : Type} (phase : Handoff.Phase Item) (sent handed : List Item)
    (queue : List (Option Item)) : Prop :=
  List.IsPrefix handed sent ∧ sent = handed ++ phase.held ++ queue.reduceOption

theorem handsOver_of_kept {Item : Type} {phase : Handoff.Phase Item} {sent handed : List Item}
    {queue : List (Option Item)} (kept : Handoff.Kept phase sent handed queue) :
    HandsOver phase sent handed queue :=
  ⟨kept.handed_first, kept.balanced⟩

/-- A message that waits on the client is announced, so that the loop looks at the queue in
its next turn, and both ends hand over what is sent in order. -/
theorem sends_handed_over (platform : ControlPlatform) :
    (forall world : ControlClient platform.longBits,
      (ControlClient.system platform).Reachable world ->
        (world.writeQueue ≠ [] -> world.writePipe = true) ∧
          (world.writeQueue ≠ [] -> world.ending = none -> world.point = .writeTest ->
            ControlClient.step platform world (.loop .step) = some (world.goes .lockWrites)) ∧
          HandsOver world.point.phase world.sent world.handed world.writeQueue) ∧
      forall world : ControlServer platform.longBits,
        (ControlServer.system platform).Reachable world -> forall index, index < instances ->
          HandsOver (Stage.phase (world.point.stageOf index)) (world.pipes index).sent
            (world.pipes index).handed (world.pipes index).writeQueue := by
  constructor
  · intro world reachable
    have kept := ControlClient.queueKept_reachable reachable
    refine ⟨kept.announced, ?_, handsOver_of_kept kept.kept⟩
    intro waits runs point
    have alive : world.terminated = false := by
      rw [ControlClient.terminated, runs]
    rw [ControlClient.step, alive]
    simp only [Bool.false_eq_true, if_false, runs, if_true, ControlClient.loopStep, point,
      kept.announced waits]
  · intro world reachable index within
    exact handsOver_of_kept
      (PipeView.queueKept_reachable (ControlServer.view_reachable reachable within))

/-! ## A message that comes between the test and the section under the mutex -/

open ControlPlatform (formatPlatform startupMessage stopMessage)

namespace ControlClient

/-- The first turn finds nothing to write; a message is sent before its last test of the flag,
and another one while the first is written. -/
def sendingLabels : List (ClientLabel formatPlatform.longBits) :=
  [.loop (.openFile .opened), .loop (.readFile .pending), .loop .step, .loop .step,
    .send startupMessage, .loop .step, .loop .step, .loop .step, .loop (.writeFile .pending),
    .send stopMessage]

theorem sendingLabels_taken :
    (Transition.System.execute (step formatPlatform) (create formatPlatform.longBits)
      sendingLabels).isSome = true := by
  decide +kernel

def sendingClient : ControlClient formatPlatform.longBits :=
  (Transition.System.execute (step formatPlatform) (create formatPlatform.longBits)
    sendingLabels).get sendingLabels_taken

theorem sendingClient_reachable : (system formatPlatform).Reachable sendingClient := by
  refine .of_execute ?_ sendingLabels_taken
  rfl

end ControlClient

theorem sends_handed_over_sending :
    ((ControlClient.sendingClient.writeQueue ≠ [] ->
        ControlClient.sendingClient.writePipe = true) ∧
      (ControlClient.sendingClient.writeQueue ≠ [] ->
        ControlClient.sendingClient.ending = none ->
          ControlClient.sendingClient.point = .writeTest ->
            ControlClient.step formatPlatform ControlClient.sendingClient (.loop .step) =
              some (ControlClient.sendingClient.goes .lockWrites)) ∧
      HandsOver ControlClient.sendingClient.point.phase ControlClient.sendingClient.sent
        ControlClient.sendingClient.handed ControlClient.sendingClient.writeQueue) ∧
    HandsOver (Stage.phase (ControlServer.writtenServer.point.stageOf 0))
      (ControlServer.writtenServer.pipes 0).sent (ControlServer.writtenServer.pipes 0).handed
      (ControlServer.writtenServer.pipes 0).writeQueue :=
  ⟨(sends_handed_over formatPlatform).1 ControlClient.sendingClient
      ControlClient.sendingClient_reachable,
    (sends_handed_over formatPlatform).2 ControlServer.writtenServer
      ControlServer.writtenServer_reachable.of_restrict 0 (by decide)⟩

end EasyProspect
