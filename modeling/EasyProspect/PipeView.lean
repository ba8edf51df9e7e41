import EasyProspect.ServerSteps

namespace EasyProspect

/-!
# The server as one pipe sees it

Each pipe of the server is a component of its own.  What it sees of a step is that
the loop takes a step on it, that the loop comes to it or leaves it, that another
thread uses one of its queues, or that something happens to its instance.  What is
preserved by all of these holds of the pipe in every reachable state of the server.
-/

/-- The stages at which the loop comes to a pipe. -/
def Stage.Entry : Stage -> Prop
  | .reads => True
  | .writes => True
  | .readCompletion => True
  | .writeCompletion => True
  | .connect _ .setup => True
  | _ => False

/-- The stage on the same pipe after a move. -/
def Move.stageAt (index : Nat) : Move -> Option Stage
  | .stay stage => some stage
  | .disconnect resume => some (.disconnect index resume)
  | _ => none

/-- A pipe and the stage of the loop's work on it. -/
structure PipeView (longBits : Nat) where
  stage : Option Stage
  pipe : ControlPipe longBits

/-- What a pipe sees of a step.  `input` is the buffer of the reads and `clients` the
number of the next client. -/
inductive PipeStep (platform : ControlPlatform) (index : Nat) (input : Octets) (clients : Nat) :
    PipeView platform.longBits -> ServerLabel platform.longBits ->
      PipeView platform.longBits -> Prop
  | loop {stage : Stage} {pipe next : ControlPipe platform.longBits} {move : Move}
      {supplied : LoopInput platform.longBits}
      (taken : pipe.advance platform input stage supplied = some (.goes next move)) :
      PipeStep platform index input clients ⟨some stage, pipe⟩ (.loop supplied)
        ⟨move.stageAt index, next⟩
  | arrive {stage : Stage} {pipe : ControlPipe platform.longBits}
      {label : ServerLabel platform.longBits} (entry : stage.Entry) :
      PipeStep platform index input clients ⟨none, pipe⟩ label ⟨some stage, pipe⟩
  | send {stage : Option Stage} {pipe : ControlPipe platform.longBits}
      {message : ProcessMessage platform.longBits} {octets : Octets}
      (packed : platform.packMessage message = .returned octets) :
      PipeStep platform index input clients ⟨stage, pipe⟩ (.send index message)
        ⟨stage, pipe.enqueue octets⟩
  | nextMessage {stage : Option Stage} {pipe next : ControlPipe platform.longBits}
      (taken : pipe.dequeue = some next) :
      PipeStep platform index input clients ⟨stage, pipe⟩ (.nextMessage index) ⟨stage, next⟩
  | event {stage : Option Stage} {pipe next : ControlPipe platform.longBits} {event : PipeEvent}
      (taken : pipe.occurs clients event = some next) :
      PipeStep platform index input clients ⟨stage, pipe⟩ (.pipe index event) ⟨stage, next⟩

namespace ControlPipe

/-- A pipe on its own, in any surroundings. -/
def system (platform : ControlPlatform) (index : Nat) :
    Transition.System (PipeView platform.longBits) (ServerLabel platform.longBits) where
  initial := fun view => view.pipe = create platform.longBits ∧
    (view.stage = none ∨ view.stage = some (.connect index .setup))
  step := fun view label next => Exists fun input => Exists fun clients =>
    PipeStep platform index input clients view label next

end ControlPipe

namespace ControlServer

variable {platform : ControlPlatform}

def view {longBits : Nat} (world : ControlServer longBits) (index : Nat) : PipeView longBits :=
  ⟨world.point.stageOf index, world.pipes index⟩

theorem point_of_stage {longBits : Nat} {world : ControlServer longBits} {index : Nat}
    {stage : Stage} (here : (world.view index).stage = some stage) :
    world.point = .pipe index stage := by
  unfold view LoopPoint.stageOf at here
  cases point : world.point with
  | pipe current other =>
      simp only [point] at here
      split at here
      · rename_i same
        rw [same, Option.some.inj here]
      · cases here
  | _ =>
      simp only [point] at here
      cases here

theorem stageOf_point_same (index : Nat) (move : Move) (within : index < instances) :
    (move.point index).stageOf index = move.stageAt index := by
  cases move with
  | stay stage => exact if_pos rfl
  | disconnect resume => exact if_pos rfl
  | disconnectEvent =>
      have other : index + instances ≠ index := by decide +revert
      exact if_neg other
  | nextSetup =>
      simp only [Move.point]
      split
      · exact if_neg (Nat.succ_ne_self index)
      · rfl
  | nextRead =>
      simp only [Move.point]
      split
      · exact if_neg (Nat.succ_ne_self index)
      · have other : 0 ≠ index := by
          simp only [instances] at *
          omega
        exact if_neg other
  | nextWrite =>
      simp only [Move.point]
      split
      · exact if_neg (Nat.succ_ne_self index)
      · rfl
  | turnEnd => rfl

/-- The loop is elsewhere, or it comes to the pipe. -/
def Arrives (index : Nat) (point : LoopPoint) : Prop :=
  point.stageOf index = none ∨
    Exists fun stage => point.stageOf index = some stage ∧ stage.Entry

theorem arrives_pipe {stage : Stage} {current index : Nat} (entry : stage.Entry) :
    Arrives index (.pipe current stage) := by
  unfold Arrives LoopPoint.stageOf
  by_cases same : current = index
  · exact Or.inr ⟨stage, if_pos same, entry⟩
  · exact Or.inl (if_neg same)

theorem arrives_other {current index : Nat} (other : current ≠ index) (stage : Stage) :
    Arrives index (.pipe current stage) :=
  Or.inl (if_neg other)

theorem arrives_point {current index : Nat} (move : Move) (within : index < instances)
    (other : current ≠ index) : Arrives index (move.point current) := by
  cases move with
  | stay stage => exact arrives_other other stage
  | disconnect resume => exact arrives_other other _
  | disconnectEvent =>
      have different : current + instances ≠ index := by omega
      exact arrives_other different _
  | nextSetup =>
      simp only [Move.point]
      split
      · exact arrives_pipe trivial
      · exact Or.inl rfl
  | nextRead =>
      simp only [Move.point]
      split
      · exact arrives_pipe trivial
      · exact arrives_pipe trivial
  | nextWrite =>
      simp only [Move.point]
      split
      · exact arrives_pipe trivial
      · exact Or.inl rfl
  | turnEnd => exact Or.inl rfl

/-- A step that leaves the pipe alone is not seen, or the loop comes to the pipe. -/
theorem seen_of_arrives {world next : ControlServer platform.longBits}
    {label : ServerLabel platform.longBits} {index : Nat}
    (away : world.point.stageOf index = none) (same : next.pipes index = world.pipes index)
    (arrives : Arrives index next.point) (input : Octets) (clients : Nat) :
    next.view index = world.view index ∨
      PipeStep platform index input clients (world.view index) label (next.view index) := by
  unfold view
  rw [same, away]
  rcases arrives with away' | ⟨stage, comes, entry⟩
  · rw [away']
    exact Or.inl rfl
  · rw [comes]
    exact Or.inr (.arrive entry)

theorem setPipe_same {longBits : Nat} (world : ControlServer longBits) (index : Nat)
    (pipe : ControlPipe longBits) : (world.setPipe index pipe).pipes index = pipe := by
  simp only [setPipe, Function.update_self]

theorem setPipe_other {longBits : Nat} (world : ControlServer longBits) {index other : Nat}
    (pipe : ControlPipe longBits) (different : other ≠ index) :
    (world.setPipe index pipe).pipes other = world.pipes other := by
  simp only [setPipe, Function.update_of_ne different]

/-- Between its work on the pipes the loop is at none of them, and then it comes to one or
stays away. -/
theorem arrives_of_turned {longBits index : Nat} {before after : LoopPoint}
    {input : LoopInput longBits} (turned : Turned before input after) :
    before.stageOf index = none ∧ Arrives index after := by
  cases turned with
  | turn => exact ⟨rfl, arrives_pipe trivial⟩
  | readEvent read => exact ⟨rfl, arrives_pipe trivial⟩
  | writeEvent known write => exact ⟨rfl, arrives_pipe trivial⟩
  | _ => exact ⟨rfl, Or.inl rfl⟩

/-- What a pipe sees of a step of the loop. -/
theorem seen_loop {world next : ControlServer platform.longBits} {index : Nat}
    {input : LoopInput platform.longBits} (stepped : LoopStepped platform world input next)
    (within : index < instances) :
    next.view index = world.view index ∨
      PipeStep platform index world.inputBuffer world.clients (world.view index) (.loop input)
        (next.view index) := by
  cases stepped with
  | @worked current stage _ pipe move point bounds advance =>
      by_cases same : current = index
      · subst same
        have here : world.view current = ⟨some stage, world.pipes current⟩ := by
          rw [view, point, LoopPoint.stageOf, if_pos rfl]
        have there := stageOf_point_same current move within
        rw [here]
        unfold view
        simp only [there, setPipe_same]
        exact Or.inr (.loop advance)
      · refine seen_of_arrives ?_ ?_ (arrives_point move within same) _ _
        · rw [point]
          exact if_neg same
        · exact setPipe_other world pipe (Ne.symm same)
  | turned turned =>
      rcases arrives_of_turned turned with ⟨away, arrives⟩
      refine seen_of_arrives away ?_ arrives _ _
      rfl
  | waitFailed point =>
      have away : world.point.stageOf index = none := by rw [point]; rfl
      refine seen_of_arrives away ?_ ?_ _ _
      · rfl
      · exact Or.inl rfl
  | _ => exact Or.inl rfl

/-- What a pipe sees of a step of another thread or of the system on a pipe. -/
theorem seen_setPipe {world next : ControlServer platform.longBits} {index : Nat}
    {label : ServerLabel platform.longBits} (current : Nat)
    (pipe : ControlPipe platform.longBits)
    (point : next.point = world.point)
    (pipes : next.pipes = (world.setPipe current pipe).pipes) {input : Octets} {clients : Nat}
    (own : current = index -> PipeStep platform index input clients (world.view index) label
      ⟨world.point.stageOf index, pipe⟩) :
    next.view index = world.view index ∨
      PipeStep platform index input clients (world.view index) label (next.view index) := by
  have seen : next.view index =
      ⟨world.point.stageOf index, (world.setPipe current pipe).pipes index⟩ := by
    rw [view, point, pipes]
  rw [seen]
  by_cases same : current = index
  · rw [← same, setPipe_same, same]
    exact Or.inr (own same)
  · rw [setPipe_other world pipe (Ne.symm same)]
    exact Or.inl rfl

/-- What a pipe sees of a step. -/
theorem seen {world next : ControlServer platform.longBits}
    {label : ServerLabel platform.longBits} (taken : step platform world label = some next)
    {index : Nat} (within : index < instances) :
    next.view index = world.view index ∨
      PipeStep platform index world.inputBuffer world.clients (world.view index) label
        (next.view index) := by
  cases stepped_of_step taken with
  | loop stepped => exact seen_loop stepped within
  | @sent current message octets packed =>
      refine seen_setPipe current ((world.pipes current).enqueue octets) ?_ ?_ ?_
      · rfl
      · rfl
      · rintro rfl
        exact .send packed
  | @returned current pipe dequeued =>
      refine seen_setPipe current pipe ?_ ?_ ?_
      · rfl
      · rfl
      · rintro rfl
        exact .nextMessage dequeued
  | @event current event pipe occurs =>
      refine seen_setPipe current pipe ?_ ?_ ?_
      · rfl
      · rfl
      · rintro rfl
        exact .event occurs
  | _ => exact Or.inl rfl

theorem view_initial {world : ControlServer platform.longBits}
    (start : (system platform).initial world) (index : Nat) :
    (ControlPipe.system platform index).initial (world.view index) := by
  have created : world = create platform.longBits := start
  rw [created]
  refine ⟨rfl, ?_⟩
  by_cases first : 0 = index
  · subst first
    exact Or.inr rfl
  · exact Or.inl (if_neg first)

/-- Each pipe of a reachable server is in a state that it reaches on its own. -/
theorem view_reachable {world : ControlServer platform.longBits}
    (reachable : (system platform).Reachable world) {index : Nat} (within : index < instances) :
    (ControlPipe.system platform index).Reachable (world.view index) := by
  refine reachable.component (ControlPipe.system platform index) (fun world => world.view index)
    (fun world start => ?_) fun world label next taken => ?_
  · exact view_initial start index
  · exact (seen taken within).imp_right fun own => ⟨_, _, own⟩

/-- It reaches the state by steps that meet what a condition on the steps of the server means
for it. -/
theorem view_reachable_restrict {index : Nat}
    {guard : ControlServer platform.longBits -> ServerLabel platform.longBits -> Prop}
    (seenGuard : PipeView platform.longBits -> ServerLabel platform.longBits -> Prop)
    (implies : forall world label, guard world label -> seenGuard (world.view index) label)
    {world : ControlServer platform.longBits}
    (reachable : ((system platform).restrict guard).Reachable world)
    (within : index < instances) :
    ((ControlPipe.system platform index).restrict seenGuard).Reachable (world.view index) := by
  refine reachable.component ((ControlPipe.system platform index).restrict seenGuard)
    (fun world => world.view index) (fun world start => ?_) fun world label next taken => ?_
  · exact view_initial start index
  · exact (seen taken.2 within).imp_right fun own => ⟨implies world label taken.1, _, _, own⟩

end ControlServer

end EasyProspect
