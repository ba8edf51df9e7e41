import EasyProspect.PipeSteps
import EasyProspect.PipeView
import EasyProspect.ControlCodec

namespace EasyProspect

/-!
# The indices of the tables

The loop uses two kinds of numbers: those of the pipes, and those of the events, of
which there are twice as many.  When the completion of a write is reported as failed,
or as unfinished because `send` has set the event, the number of the event is passed
on where the number of a pipe is wanted.  As long as that does not happen every
index is within its table, and the pipe that is disconnected is the right one.
-/

/-- What is done at this stage is done for the pipe with this number. -/
def Stage.MeantFor (index : Nat) : Stage -> Prop
  | .disconnect meant _ => meant = index
  | .connect meant _ => meant = index
  | _ => True

namespace ControlServer

/-- The indices of the next step are in bounds and name the pipe they are meant for. -/
def IndicesWithin {longBits : Nat} (world : ControlServer longBits) : Prop :=
  forall index stage, world.point = .pipe index stage ->
    stage.InBounds index ∧ stage.MeantFor index

/-- No write that the loop waits for is found failed or unfinished. -/
def completesWrites {longBits : Nat} (world : ControlServer longBits)
    (label : ServerLabel longBits) : Bool :=
  match world.point, label with
  | .pipe index .writeCompletion, .loop .step =>
      !(world.pipes index).writePending || (world.pipes index).writeStatus = .written
  | _, _ => true

variable {platform : ControlPlatform}

theorem inBounds_of_lt {index : Nat} (within : index < instances) (stage : Stage) :
    stage.InBounds index := by
  have first : TableUse.Within (.event index) := by
    unfold TableUse.Within instances at *
    omega
  have second : TableUse.Within (.event (index + instances)) := by
    unfold TableUse.Within instances at *
    omega
  intro use member
  cases stage with
  | reads => rcases List.mem_pair.mp member with rfl | rfl <;> assumption
  | writes => rcases List.mem_pair.mp member with rfl | rfl <;> assumption
  | writeFile buffer => rcases List.mem_pair.mp member with rfl | rfl <;> assumption
  | connect meant resume => rcases List.mem_pair.mp member with rfl | rfl <;> assumption
  | readCompletion => rcases List.mem_pair.mp member with rfl | rfl <;> assumption
  | writeCompletion => rcases List.mem_pair.mp member with rfl | rfl <;> assumption
  | _ => rw [List.mem_singleton.mp member]; exact within

/-- The loop is on a pipe that exists, and acts for it. -/
def PlacedAt (point : LoopPoint) : Prop :=
  forall index stage, point = .pipe index stage -> index < instances ∧ stage.MeantFor index

def Placed {longBits : Nat} (world : ControlServer longBits) : Prop :=
  PlacedAt world.point

theorem placed_pipe {index : Nat} {stage : Stage} (within : index < instances)
    (meant : stage.MeantFor index) : PlacedAt (.pipe index stage) := by
  intro current other same
  cases same
  exact ⟨within, meant⟩

theorem placed_point {index : Nat} {move : Move} (within : index < instances)
    (pipe : move ≠ .disconnectEvent) (meant : forall stage, move = .stay stage ->
      stage.MeantFor index) : PlacedAt (move.point index) := by
  have first : 0 < instances := by decide
  cases move with
  | stay stage => exact placed_pipe within (meant stage rfl)
  | disconnect resume => exact placed_pipe within rfl
  | disconnectEvent => exact absurd rfl pipe
  | nextSetup =>
      simp only [Move.point]
      split
      · rename_i more
        exact placed_pipe more rfl
      · exact fun index stage same => by cases same
  | nextRead =>
      simp only [Move.point]
      split
      · rename_i more
        exact placed_pipe more trivial
      · exact placed_pipe first trivial
  | nextWrite =>
      simp only [Move.point]
      split
      · rename_i more
        exact placed_pipe more trivial
      · exact fun index stage same => by cases same
  | turnEnd => exact fun index stage same => by cases same

/-- A step on a pipe stays with the pipe it is meant for. -/
theorem meant_of_advanced {index : Nat} {input : Octets}
    {pipe next : ControlPipe platform.longBits} {stage : Stage}
    {supplied : LoopInput platform.longBits} {move : Move}
    (advanced : pipe.Advanced platform input stage supplied next move)
    (meant : stage.MeantFor index) (after : Stage) (stays : move = .stay after) :
    after.MeantFor index := by
  cases advanced with
  | ready =>
      split at stays
      · cases stays
        trivial
      · cases stays
  | nonEmpty =>
      split at stays
      · cases stays
      · cases stays
        trivial
  | disconnected succeeded =>
      cases stays
      exact meant
  | connected connects flags moves =>
      rcases moves with rfl | rfl | rfl
      · cases stays
      · cases stays
        trivial
      · cases stays
  | _ =>
      cases stays <;> trivial

/-- Only a write that is not found completed leads to the number of an event. -/
theorem unfinished_of_disconnectEvent {input : Octets} {pipe next : ControlPipe platform.longBits}
    {stage : Stage} {supplied : LoopInput platform.longBits}
    (advanced : pipe.Advanced platform input stage supplied next .disconnectEvent) :
    stage = .writeCompletion ∧ supplied = .step ∧ pipe.writePending = true ∧
      pipe.writeStatus ≠ .written := by
  generalize taken : Move.disconnectEvent = move at advanced
  cases advanced with
  | writeBroken awaited status => exact ⟨rfl, rfl, awaited, status⟩
  | ready => split at taken <;> cases taken
  | nonEmpty => split at taken <;> cases taken
  | connected connects flags moves => rcases moves with rfl | rfl | rfl <;> cases taken
  | _ => cases taken

theorem placed_turned {longBits : Nat} {before after : LoopPoint} {input : LoopInput longBits}
    (turned : Turned before input after) : PlacedAt after := by
  cases turned with
  | turn => exact placed_pipe (by decide) trivial
  | readEvent read => exact placed_pipe read trivial
  | writeEvent known write =>
      refine placed_pipe ?_ trivial
      unfold instances at *
      omega
  | _ => exact fun index stage same => by cases same

theorem placed_loop {world next : ControlServer platform.longBits}
    {input : LoopInput platform.longBits} (placed : Placed world)
    (completes : completesWrites world (.loop input) = true)
    (stepped : LoopStepped platform world input next) : Placed next := by
  cases stepped with
  | @worked index stage _ pipe move point bounds advance =>
      rcases placed index stage point with ⟨within, meant⟩
      have advanced := ControlPipe.advanced_of_advance advance
      refine placed_point within ?_ (meant_of_advanced advanced meant)
      rintro rfl
      rcases unfinished_of_disconnectEvent advanced with ⟨rfl, rfl, awaited, status⟩
      simp only [completesWrites, point, awaited, Bool.not_true, Bool.false_or,
        decide_eq_true_eq] at completes
      exact status completes
  | turned turned => exact placed_turned turned
  | waitFailed point => exact fun index stage same => by cases same
  | _ => exact placed

theorem placed_step {world next : ControlServer platform.longBits}
    {label : ServerLabel platform.longBits} (placed : Placed world)
    (completes : completesWrites world label = true)
    (taken : step platform world label = some next) : Placed next := by
  cases stepped_of_step taken with
  | loop stepped => exact placed_loop placed completes stepped
  | _ => exact placed

/-- As long as no write is found failed or unfinished, every index is in bounds and names
the pipe it is meant for. -/
theorem indices_within (platform : ControlPlatform) (world : ControlServer platform.longBits)
    (reachable : ((system platform).restrict fun world label =>
      completesWrites world label = true).Reachable world) : world.IndicesWithin := by
  have placed : Placed world := by
    refine reachable.invariant ?_ ?_
    · rintro world start
      have created : world = create platform.longBits := start
      rw [created]
      exact placed_pipe (by decide) rfl
    · rintro world label next placed ⟨completes, taken⟩
      exact placed_step placed completes taken
  intro index stage at_point
  rcases placed index stage at_point with ⟨within, meant⟩
  exact ⟨inBounds_of_lt within stage, meant⟩

/-! ## A write that is still pending when its event is set -/

open ControlPlatform (formatPlatform stopMessage)

/-- A message is sent to the client of the first pipe, and written at once. -/
def writtenLabels : List (ServerLabel formatPlatform.longBits) :=
  setupLabels ++ [.pipe 0 .clientConnects, .send 0 stopMessage] ++ loopSteps 10 ++
    [.loop (.writeFile .completed)] ++ loopSteps 8

theorem writtenLabels_taken :
    (Transition.System.execute (Transition.System.guarded
      (fun world label => completesWrites world label = true) (step formatPlatform))
      (create formatPlatform.longBits) writtenLabels).isSome = true := by
  decide +kernel

def writtenServer : ControlServer formatPlatform.longBits :=
  (Transition.System.execute (Transition.System.guarded
    (fun world label => completesWrites world label = true) (step formatPlatform))
    (create formatPlatform.longBits) writtenLabels).get writtenLabels_taken

theorem writtenServer_reachable :
    ((system formatPlatform).restrict fun world label =>
      completesWrites world label = true).Reachable writtenServer := by
  refine .of_execute_guarded ?_ writtenLabels_taken
  rfl

theorem indices_within_written : writtenServer.IndicesWithin :=
  indices_within formatPlatform writtenServer writtenServer_reachable

/-- The write is pending when another message is sent. -/
def pendingLabels : List (ServerLabel formatPlatform.longBits) :=
  setupLabels ++ [.pipe 0 .clientConnects, .send 0 stopMessage] ++ loopSteps 10 ++
    [.loop (.writeFile .pending)] ++ loopSteps 8 ++
    [.send 0 stopMessage, .loop (.waited (.signalled 4)), .loop .step]

theorem pendingLabels_taken :
    (Transition.System.execute (step formatPlatform) (create formatPlatform.longBits)
      pendingLabels).isSome = true := by
  decide +kernel

def pendingServer : ControlServer formatPlatform.longBits :=
  (Transition.System.execute (step formatPlatform) (create formatPlatform.longBits)
    pendingLabels).get pendingLabels_taken

theorem pendingServer_reachable : (system formatPlatform).Reachable pendingServer := by
  refine .of_execute ?_ pendingLabels_taken
  rfl

theorem pendingServer_point : pendingServer.point = .pipe 4 (.disconnect 0 .completion) := by
  decide +kernel

/-- The pipe that the loop is about to disconnect does not exist. -/
theorem indices_not_within :
    ¬ forall world, (system formatPlatform).Reachable world -> world.IndicesWithin := by
  intro within
  have indices := within pendingServer pendingServer_reachable
  exact absurd (indices 4 (.disconnect 0 .completion) pendingServer_point).1 (by decide)

end ControlServer

end EasyProspect
