import EasyProspect.Library.Handoff
import EasyProspect.PipeSteps
import EasyProspect.PipeView

namespace EasyProspect

/-!
# The write queues of the server

The loop tests, moves out and pops the front of a write queue outside the sections
under `write_mutex`, so calls of `send` may come between these steps.  They only ever
add to the back, and no step but the loop's own removes anything.
-/

/-- What the loop is about to do with the write queue of a pipe. -/
def Stage.phase : Option Stage -> Handoff.Phase Outgoing
  | some .front => .front
  | some (.pop buffer) => .pop buffer
  | some (.writeFile buffer) => .hand buffer
  | _ => .idle

namespace PipeView

variable {platform : ControlPlatform}

def QueueKept {longBits : Nat} (view : PipeView longBits) : Prop :=
  Handoff.Kept (Stage.phase view.stage) view.pipe.sent view.pipe.handed view.pipe.writeQueue

theorem queueKept_entry {longBits : Nat} {stage : Stage} {pipe : ControlPipe longBits}
    (entry : stage.Entry) (kept : QueueKept ⟨none, pipe⟩) : QueueKept ⟨some stage, pipe⟩ := by
  cases stage with
  | reads => exact kept
  | writes => exact kept
  | readCompletion => exact kept
  | writeCompletion => exact kept
  | connect meant resume => exact kept
  | _ => exact False.elim entry

theorem queueKept_advanced {index : Nat} {input : Octets}
    {pipe next : ControlPipe platform.longBits} {stage : Stage}
    {supplied : LoopInput platform.longBits} {move : Move}
    (advanced : pipe.Advanced platform input stage supplied next move)
    (kept : QueueKept ⟨some stage, pipe⟩) : QueueKept ⟨move.stageAt index, next⟩ := by
  cases advanced with
  | ready =>
      split
      · exact kept
      · exact kept
  | nonEmpty =>
      split
      · exact kept
      · rename_i some
        exact Handoff.Kept.seen kept fun empty => some (by rw [empty]; rfl)
  | front queue =>
      unfold QueueKept at kept
      rw [queue] at kept
      exact Handoff.Kept.front kept
  | pop queue =>
      unfold QueueKept at kept
      rw [queue] at kept
      exact Handoff.Kept.pop kept
  | writeCompleted occupied => exact Handoff.Kept.hand kept
  | writeStarted occupied => exact Handoff.Kept.hand kept
  | writeFailed => exact Handoff.Kept.hand kept
  | disconnected succeeded =>
      cases succeeded with
      | true => exact kept
      | false => exact kept
  | connected connects flags moves =>
      rcases moves with rfl | rfl | rfl
      · exact kept
      · exact kept
      · exact kept
  | _ => exact kept

theorem queueKept_occurred {clients : Nat} {stage : Option Stage}
    {pipe next : ControlPipe platform.longBits} {event : PipeEvent}
    (occurred : pipe.Occurred clients event next) (kept : QueueKept ⟨stage, pipe⟩) :
    QueueKept ⟨stage, next⟩ := by
  cases occurred with
  | _ => exact kept

theorem queueKept_step {index : Nat} {input : Octets} {clients : Nat}
    {view next : PipeView platform.longBits} {label : ServerLabel platform.longBits}
    (kept : view.QueueKept) (taken : PipeStep platform index input clients view label next) :
    next.QueueKept := by
  cases taken with
  | loop taken => exact queueKept_advanced (ControlPipe.advanced_of_advance taken) kept
  | arrive entry => exact queueKept_entry entry kept
  | send packed => exact Handoff.Kept.produce kept _
  | nextMessage taken =>
      rcases ControlPipe.dequeued_of_dequeue taken with ⟨incoming, rest, queue, rfl⟩
      exact kept
  | event taken => exact queueKept_occurred (ControlPipe.occurred_of_occurs taken) kept

theorem queueKept_reachable {index : Nat} {view : PipeView platform.longBits}
    (reachable : (ControlPipe.system platform index).Reachable view) : view.QueueKept := by
  refine reachable.invariant ?_ ?_
  · rintro ⟨stage, pipe⟩ ⟨fresh, at_start⟩
    have created : pipe = .create platform.longBits := fresh
    rcases at_start with away | setup
    · have none : stage = none := away
      rw [created, none]
      exact Handoff.Kept.initially
    · have connect : stage = some (.connect index .setup) := setup
      rw [created, connect]
      exact Handoff.Kept.initially
  · rintro view label next kept ⟨input, clients, taken⟩
    exact queueKept_step kept taken

end PipeView

end EasyProspect
