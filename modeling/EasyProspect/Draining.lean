import EasyProspect.ControlCodec
import EasyProspect.WriteQueues

namespace EasyProspect

/-!
# Stopping the control server

`stop` raises `stop_loop` and leaves the loop some seconds for what is still queued.
The loop looks at the flag between its turns and before it waits, and a turn writes one
message to each pipe.  So what is sent before `stop` is only written as far as the turn
goes that the loop is in.
-/

/-- How many messages of a pipe the loop still takes from its queue in this turn. -/
def Stage.takes (current index : Nat) : Stage -> Nat
  | .reads => 1
  | .writes => if current ≤ index then 1 else 0
  | .ready => if current ≤ index then 1 else 0
  | .nonEmpty => if current ≤ index then 1 else 0
  | .front => if current ≤ index then 1 else 0
  | .pop _ => if current < index then 1 else 0
  | .writeFile _ => if current < index then 1 else 0
  | .release => if current < index then 1 else 0
  | .disconnect _ .release => if current < index then 1 else 0
  | .connect _ .release => if current < index then 1 else 0
  | _ => 0

def LoopPoint.takes (index : Nat) : LoopPoint -> Nat
  | .pipe current stage => stage.takes current index
  | _ => 0

/-- A point at which the loop holds nothing and takes nothing more in this turn. -/
def LoopPoint.Idle (point : LoopPoint) : Prop :=
  forall index, (Stage.phase (point.stageOf index)).held = [] ∧ point.takes index = 0

/-- An operation on a pipe fails. -/
def ServerLabel.fails {longBits : Nat} : ServerLabel longBits -> Bool
  | .loop (.readFile .failed) => true
  | .loop (.writeFile .failed) => true
  | .loop (.disconnected false) => true
  | .loop (.connected .failed) => true
  | .pipe _ .readFails => true
  | .pipe _ (.writeCompletes false) => true
  | _ => false

/-- The server, with what had been sent to each pipe when `stop` was called. -/
structure StoppedServer (longBits : Nat) where
  server : ControlServer longBits
  owed : Option (Nat -> List Outgoing)

namespace PipeView

variable {platform : ControlPlatform}

/-- Behind the section under the mutex the flag is only down for an empty queue. -/
def ReadyKept {longBits : Nat} (view : PipeView longBits) : Prop :=
  view.stage = some .ready -> view.pipe.writeReady = false -> view.pipe.writeQueue = []

theorem readyKept_advanced {index : Nat} {input : Octets}
    {pipe next : ControlPipe platform.longBits} {stage : Stage}
    {supplied : LoopInput platform.longBits} {move : Move}
    (advanced : pipe.Advanced platform input stage supplied next move) :
    ReadyKept ⟨move.stageAt index, next⟩ := by
  intro here down
  cases advanced with
  | writes =>
      have empty : (!pipe.writeQueue.isEmpty) = false := down
      exact List.isEmpty_iff.mp (by simpa only [Bool.not_eq_false'] using empty)
  | ready =>
      split at here
      · cases here
      · cases here
  | nonEmpty =>
      split at here
      · cases here
      · cases here
  | connected connects flags moves =>
      rcases moves with rfl | rfl | rfl <;> cases here
  | _ => cases here

theorem readyKept_step {index : Nat} {input : Octets} {clients : Nat}
    {view next : PipeView platform.longBits} {label : ServerLabel platform.longBits}
    (kept : view.ReadyKept) (taken : PipeStep platform index input clients view label next) :
    next.ReadyKept := by
  cases taken with
  | loop taken => exact readyKept_advanced (ControlPipe.advanced_of_advance taken)
  | arrive entry =>
      intro here
      cases Option.some.inj here
      exact False.elim entry
  | send packed =>
      intro _ down
      cases down
  | nextMessage taken =>
      rcases ControlPipe.dequeued_of_dequeue taken with ⟨incoming, rest, queue, rfl⟩
      exact kept
  | event taken =>
      have occurred := ControlPipe.occurred_of_occurs taken
      cases occurred with
      | _ => exact kept

theorem readyKept_reachable {index : Nat} {view : PipeView platform.longBits}
    (reachable : (ControlPipe.system platform index).Reachable view) : view.ReadyKept := by
  refine reachable.invariant ?_ ?_
  · rintro ⟨stage, pipe⟩ ⟨fresh, at_start⟩ _ _
    have created : pipe = .create platform.longBits := fresh
    rw [created]
    rfl
  · rintro view label next kept ⟨input, clients, taken⟩
    exact readyKept_step kept taken

theorem sent_grows {index : Nat} {input : Octets} {clients : Nat}
    {view next : PipeView platform.longBits} {label : ServerLabel platform.longBits}
    (taken : PipeStep platform index input clients view label next) :
    List.IsPrefix view.pipe.sent next.pipe.sent := by
  cases taken with
  | loop taken =>
      have advanced := ControlPipe.advanced_of_advance taken
      cases advanced with
      | disconnected succeeded => cases succeeded <;> exact List.prefix_refl _
      | _ => exact List.prefix_refl _
  | arrive _ => exact List.prefix_refl _
  | send _ => exact List.prefix_append _ _
  | nextMessage taken =>
      rcases ControlPipe.dequeued_of_dequeue taken with ⟨incoming, rest, queue, rfl⟩
      exact List.prefix_refl _
  | event taken =>
      have occurred := ControlPipe.occurred_of_occurs taken
      cases occurred <;> exact List.prefix_refl _

end PipeView

namespace ControlServer

variable {platform : ControlPlatform}

/-- How many messages of a pipe the loop still takes before it looks at `stop_loop`. -/
def takes {longBits : Nat} (world : ControlServer longBits) (index : Nat) : Nat :=
  if world.ending = none then world.point.takes index else 0

/-- What the loop has taken from the queue of a pipe and not handed on yet. -/
def held {longBits : Nat} (world : ControlServer longBits) (index : Nat) : List Outgoing :=
  (Stage.phase (world.view index).stage).held

/-- How many messages of a pipe the loop will hand on in this turn. -/
def due {longBits : Nat} (world : ControlServer longBits) (index : Nat) : Nat :=
  if world.ending = none then (world.held index).length + world.point.takes index else 0

/-- The loop has ended, and not by undefined behaviour. -/
def Finished {longBits : Nat} (world : ControlServer longBits) : Prop :=
  world.ending ≠ none ∧ world.ending ≠ some .undefined

/-! ## What the loop takes of a queue -/

/-- The pass over the write queues goes on with the next pipe. -/
theorem takes_nextWrite {current index : Nat} (within : index < instances) :
    (if current < index then 1 else 0) ≤ (Move.nextWrite.point current).takes index := by
  simp only [Move.point]
  split
  · rename_i later
    rw [if_pos (show current + 1 < instances by omega)]
    exact Nat.le_of_eq (if_pos later).symm
  · exact Nat.zero_le _

theorem takes_nextRead (current index : Nat) :
    1 ≤ (Move.nextRead.point current).takes index := by
  simp only [Move.point]
  split
  · exact Nat.le_refl 1
  · exact (if_pos (Nat.zero_le index) : (if 0 ≤ index then 1 else 0) = 1).ge

/-- After a failed `WriteFile` the loop goes on in the pass over the write queues. -/
theorem move_of_connect {input : Octets} {pipe next : ControlPipe platform.longBits}
    {meant : Nat} {supplied : LoopInput platform.longBits} {move : Move}
    (taken : pipe.advance platform input (.connect meant .release) supplied =
      some (.goes next move)) : move = .stay .release := by
  cases supplied with
  | connected result =>
      rcases Option.map_eq_some_iff.mp taken with ⟨joined, _, resumes⟩
      cases resumes
      rfl
  | _ => cases taken

/-- Work on one pipe leaves what the loop will take from the others. -/
theorem takes_other {input : Octets} {pipe next : ControlPipe platform.longBits} {stage : Stage}
    {supplied : LoopInput platform.longBits} {move : Move} {current index : Nat}
    (taken : pipe.advance platform input stage supplied = some (.goes next move))
    (within : index < instances) (other : current ≠ index) :
    stage.takes current index ≤ (move.point current).takes index := by
  have later : (if current ≤ index then 1 else 0) = if current < index then 1 else 0 := by
    split <;> split <;> omega
  have nextWrite : (if current ≤ index then 1 else 0) ≤
      (Move.nextWrite.point current).takes index :=
    Nat.le_trans (Nat.le_of_eq later) (takes_nextWrite within)
  have advanced := ControlPipe.advanced_of_advance taken
  cases advanced with
  | readUnwanted => exact takes_nextRead current index
  | readCompleted _ _ _ _ => exact takes_nextRead current index
  | readStarted _ _ => exact takes_nextRead current index
  | writes => exact Nat.le_refl _
  | ready =>
      split
      · exact Nat.le_refl _
      · exact nextWrite
  | nonEmpty =>
      split
      · exact nextWrite
      · exact Nat.le_refl _
  | front _ => exact Nat.le_of_eq later
  | pop _ => exact Nat.le_refl _
  | writeCompleted _ => exact Nat.le_refl _
  | writeStarted _ => exact Nat.le_refl _
  | writeFailed => exact Nat.le_refl _
  | release => exact takes_nextWrite within
  | @disconnected meant resume succeeded =>
      cases resume with
      | release => exact Nat.le_refl _
      | _ => exact Nat.zero_le _
  | @connected meant resume _ _ _ _ _ _ _ _ =>
      cases resume with
      | release =>
          rw [move_of_connect taken]
          exact Nat.le_refl _
      | _ => exact Nat.zero_le _
  | _ => exact Nat.zero_le _

/-- What the loop still takes from the queue of a pipe it takes when it is there, unless
the queue is empty by then. -/
theorem takes_own {input : Octets} {pipe next : ControlPipe platform.longBits} {stage : Stage}
    {supplied : LoopInput platform.longBits} {move : Move} {current : Nat}
    (taken : pipe.advance platform input stage supplied = some (.goes next move))
    (within : current < instances)
    (ready : PipeView.ReadyKept ⟨some stage, pipe⟩) (queue : PipeView.QueueKept ⟨some stage, pipe⟩) :
    pipe.handed.length + (Stage.phase (some stage)).held.length + stage.takes current current ≤
        next.handed.length + (Stage.phase (move.stageAt current)).held.length +
          (move.point current).takes current ∨
      ((Stage.phase (some stage)).held = [] ∧ pipe.writeQueue = [] ∧
        next.handed = pipe.handed) := by
  have advanced := ControlPipe.advanced_of_advance taken
  have same : (if current ≤ current then 1 else 0) = 1 := if_pos (Nat.le_refl current)
  have past : (if current < current then 1 else 0) = 0 := if_neg (Nat.lt_irrefl current)
  have handing (buffer : Outgoing) (handed : List Outgoing)
      (last : handed = pipe.handed ++ [buffer]) {claim : Prop} :
      pipe.handed.length + 1 + (if current < current then 1 else 0) ≤
        handed.length + 0 + (if current < current then 1 else 0) ∨ claim := by
    rw [last, List.length_append]
    exact Or.inl (Nat.le_refl _)
  cases advanced with
  | readUnwanted => exact Or.inl (Nat.add_le_add_left (takes_nextRead current current) _)
  | readCompleted _ _ _ _ =>
      exact Or.inl (Nat.add_le_add_left (takes_nextRead current current) _)
  | readStarted _ _ => exact Or.inl (Nat.add_le_add_left (takes_nextRead current current) _)
  | writes => exact Or.inl (Nat.le_refl _)
  | ready =>
      split
      · exact Or.inl (Nat.le_refl _)
      · rename_i down
        exact Or.inr ⟨rfl, ready rfl (Bool.eq_false_iff.mpr down), rfl⟩
  | nonEmpty =>
      split
      · rename_i empty
        exact Or.inr ⟨rfl, List.isEmpty_iff.mp empty, rfl⟩
      · exact Or.inl (Nat.le_refl _)
  | @front buffer rest front =>
      left
      have full : none ∉ pipe.writeQueue := queue.shape.2
      rw [front] at full
      cases buffer with
      | none => exact absurd List.mem_cons_self full
      | some buffer =>
          change pipe.handed.length + 0 + (if current ≤ current then 1 else 0) ≤
            pipe.handed.length + 1 + (if current < current then 1 else 0)
          rw [same, past]
  | pop _ => exact Or.inl (Nat.le_refl _)
  | writeCompleted _ => exact handing _ _ rfl
  | writeStarted _ => exact handing _ _ rfl
  | writeFailed => exact handing _ _ rfl
  | release => exact Or.inl (Nat.add_le_add_left (takes_nextWrite within) _)
  | @disconnected meant resume succeeded =>
      left
      have handed : (pipe.disconnected succeeded).handed = pipe.handed := by
        cases succeeded with
        | true => rfl
        | false => rfl
      rw [handed]
      cases resume with
      | release => exact Nat.le_refl _
      | _ => exact Nat.le_refl _
  | @connected meant resume _ _ _ _ _ _ _ _ =>
      cases resume with
      | release =>
          rw [move_of_connect taken]
          exact Or.inl (Nat.le_refl _)
      | _ => exact Or.inl ((Nat.le_add_right _ _).trans (Nat.le_add_right _ _))
  | _ => exact Or.inl (Nat.le_add_right _ _)

/-! ## Where the loop ends -/

/-- On a pipe the loop ends by an exception of the decoding. -/
theorem decode_of_ends {input : Octets} {pipe : ControlPipe platform.longBits} {stage : Stage}
    {supplied : LoopInput platform.longBits} {ending : LoopEnding}
    (taken : pipe.advance platform input stage supplied = some (.ends ending))
    (succeeds : (ServerLabel.loop supplied).fails = false) (defined : ending ≠ .undefined) :
    Exists fun client => Exists fun bytes => stage = .decode client bytes := by
  unfold ControlPipe.advance at taken
  split at taken
  · split at taken <;> cases taken
  · split at taken
    · rename_i result _
      cases result with
      | completed =>
          simp only [ControlPipe.issueRead] at taken
          split at taken
          · rcases Option.map_eq_some_iff.mp taken with ⟨stored, _, same⟩
            cases same
          · cases taken
      | pending =>
          simp only [ControlPipe.issueRead] at taken
          split at taken <;> cases taken
      | failed => cases succeeds
    · cases taken
  · cases taken
  · cases taken
  · cases taken
  · split at taken
    · cases taken
      exact absurd rfl defined
    · cases taken
  · split at taken
    · cases taken
      exact absurd rfl defined
    · cases taken
  · cases taken
    exact absurd rfl defined
  · unfold ControlPipe.issueWrite at taken
    simp only at taken
    split at taken <;> cases taken
  · cases taken
  · cases taken
  · rcases Option.map_eq_some_iff.mp taken with ⟨joined, _, resumes⟩
    unfold ControlPipe.resumed at resumes
    split at resumes <;> cases resumes
  · unfold ControlPipe.completeRead at taken
    split at taken
    · split at taken
      · split at taken <;> cases taken
      · cases taken
      · cases taken
      · cases taken
    · cases taken
  · exact ⟨_, _, rfl⟩
  · unfold ControlPipe.completeWrite at taken
    split at taken
    · split at taken <;> cases taken
    · cases taken
  · cases taken

theorem idle_of_none {point : LoopPoint} (away : forall index, point.stageOf index = none)
    (nothing : forall index, point.takes index = 0) : LoopPoint.Idle point := by
  intro index
  rw [away index]
  exact ⟨rfl, nothing index⟩

/-- Where the loop ends without a failure, it holds nothing. -/
theorem idle_of_loop {world next : ControlServer platform.longBits}
    {input : LoopInput platform.longBits} (taken : world.loopStep platform input = some next)
    (succeeds : (ServerLabel.loop input).fails = false) (runs : world.ending = none)
    (ended : next.Finished) :
    LoopPoint.Idle world.point ∧ next.pipes = world.pipes ∧ next.point = world.point := by
  have stops {after : LoopPoint}
      (away : LoopPoint.Idle world.point)
      (polled : (if world.stopLoop then { world with ending := some .returned }
        else { world with point := after }) = next) :
      LoopPoint.Idle world.point ∧ next.pipes = world.pipes ∧ next.point = world.point := by
    rw [← polled] at ended ⊢
    split at ended
    · rename_i raised
      rw [if_pos raised]
      exact ⟨away, rfl, rfl⟩
    · exact absurd runs ended.1
  unfold loopStep at taken
  split at taken
  · rename_i current stage _ point
    unfold pipeStep at taken
    split at taken
    · split at taken
      · cases taken
      · rename_i ending advance
        rw [← Option.some.inj taken] at ended
        rcases decode_of_ends advance succeeds fun undefined => ended.2 (congrArg some undefined)
          with ⟨client, bytes, rfl⟩
        rw [← Option.some.inj taken, point]
        refine ⟨fun index => ⟨?_, rfl⟩, rfl, rfl⟩
        unfold LoopPoint.stageOf
        simp only
        split <;> rfl
      · rw [← Option.some.inj taken] at ended
        exact absurd runs ended.1
    · rw [← Option.some.inj taken] at ended
      exact absurd rfl ended.2
  · rename_i point
    refine stops ?_ (Option.some.inj taken)
    rw [point]
    exact idle_of_none (fun _ => rfl) fun _ => rfl
  · rename_i point
    refine stops ?_ (Option.some.inj taken)
    rw [point]
    exact idle_of_none (fun _ => rfl) fun _ => rfl
  · rename_i result point
    have away : LoopPoint.Idle world.point := by
      rw [point]
      exact idle_of_none (fun _ => rfl) fun _ => rfl
    rw [← Option.some.inj taken] at ended ⊢
    unfold afterWait at ended ⊢
    split
    · exact absurd runs ended.1
    · exact absurd runs ended.1
    · simp only at ended
      split
      · exact ⟨away, rfl, rfl⟩
      · rename_i known
        rw [if_neg known] at ended
        split at ended
        · exact absurd runs ended.1
        · exact absurd runs ended.1
  · rename_i point
    refine stops ?_ (Option.some.inj taken)
    rw [point]
    exact idle_of_none (fun _ => rfl) fun _ => rfl
  · cases taken

/-! ## What is owed stays covered -/

theorem sent_step {world next : ControlServer platform.longBits}
    {label : ServerLabel platform.longBits} (taken : step platform world label = some next)
    {index : Nat} (within : index < instances) :
    List.IsPrefix (world.pipes index).sent (next.pipes index).sent := by
  rcases seen taken within with same | own
  · have pipes : next.pipes index = world.pipes index := congrArg PipeView.pipe same
    refine ⟨[], ?_⟩
    rw [pipes, List.append_nil]
  · exact PipeView.sent_grows own

/-- The other threads and the system leave the loop and what it has handed on alone. -/
theorem loop_untouched {world next : ControlServer platform.longBits}
    {label : ServerLabel platform.longBits} (taken : step platform world label = some next)
    (other : forall input, label ≠ .loop input) :
    next.point = world.point ∧ (next.ending = world.ending ∨ next.ending = some .undefined) ∧
      forall index, (next.pipes index).handed = (world.pipes index).handed := by
  have changes {current : Nat} {pipe : ControlPipe platform.longBits}
      (same : pipe.handed = (world.pipes current).handed) (index : Nat) :
      ((world.setPipe current pipe).pipes index).handed = (world.pipes index).handed := by
    by_cases here : index = current
    · rw [here, setPipe_same, same]
    · rw [setPipe_other world pipe here]
  cases stepped_of_step taken with
  | loop stepped => exact absurd rfl (other _)
  | sent packed => exact ⟨rfl, Or.inl rfl, changes rfl⟩
  | returned dequeued =>
      rcases ControlPipe.dequeued_of_dequeue dequeued with ⟨incoming, rest, queue, rfl⟩
      exact ⟨rfl, Or.inl rfl, changes rfl⟩
  | event occurs =>
      have occurred := ControlPipe.occurred_of_occurs occurs
      refine ⟨rfl, Or.inl rfl, changes ?_⟩
      cases occurred <;> rfl
  | miscast => exact ⟨rfl, Or.inr rfl, fun _ => rfl⟩
  | missing => exact ⟨rfl, Or.inr rfl, fun _ => rfl⟩
  | _ => exact ⟨rfl, Or.inl rfl, fun _ => rfl⟩

/-- Between its work on the pipes the loop holds nothing and takes nothing. -/
theorem idle_of_turned {longBits : Nat} {before after : LoopPoint} {input : LoopInput longBits}
    (turned : Turned before input after) : LoopPoint.Idle before := by
  cases turned with
  | _ => exact fun _ => ⟨rfl, rfl⟩

theorem due_idle {longBits : Nat} {world : ControlServer longBits}
    (idle : LoopPoint.Idle world.point) (index : Nat) : world.due index = 0 := by
  unfold due held view
  simp only
  rw [(idle index).1, (idle index).2]
  exact ite_self 0

theorem due_running {longBits : Nat} {world : ControlServer longBits} (runs : world.ending = none)
    (index : Nat) : world.due index =
      (Stage.phase (world.point.stageOf index)).held.length + world.point.takes index :=
  if_pos runs

/-- In its work on the pipes the loop hands over or leaves what is due, or finds the queue
empty. -/
theorem due_worked {world next : ControlServer platform.longBits}
    {input : LoopInput platform.longBits} {current : Nat} {stage : Stage}
    {pipe : ControlPipe platform.longBits} {move : Move}
    (reachable : (system platform).Reachable world) (runs : world.ending = none)
    (point : world.point = .pipe current stage)
    (advance : (world.pipes current).advance platform world.inputBuffer stage input =
      some (.goes pipe move)) (pipes : next.pipes = (world.setPipe current pipe).pipes)
    (moved : next.point = move.point current) (goes : next.ending = none) {index : Nat}
    (within : index < instances) :
    (world.pipes index).handed.length + world.due index ≤
        (next.pipes index).handed.length + next.due index ∨
      (world.held index = [] ∧ (world.pipes index).writeQueue = [] ∧
        (next.pipes index).handed = (world.pipes index).handed) := by
  by_cases same : current = index
  · subst same
    have here : world.view current = ⟨some stage, world.pipes current⟩ := by
      rw [view, point, LoopPoint.stageOf, if_pos rfl]
    have reached := view_reachable reachable within
    rw [here] at reached
    have owned := takes_own advance within (PipeView.readyKept_reachable reached)
      (PipeView.queueKept_reachable reached)
    have stageOf : world.point.stageOf current = some stage := congrArg PipeView.stage here
    rw [due_running runs, due_running goes, pipes, setPipe_same, moved,
      stageOf_point_same current move within, stageOf, held, here, point, ← Nat.add_assoc,
      ← Nat.add_assoc]
    exact owned
  · left
    have away : world.point.stageOf index = none := by
      rw [point]
      exact if_neg same
    rw [due_running runs, due_running goes, pipes, setPipe_other world pipe (Ne.symm same), away,
      moved, point]
    refine Nat.add_le_add_left ?_ _
    exact Nat.add_le_add (Nat.zero_le _) (takes_other advance within same)

/-- A step of the loop that goes on hands over or leaves what is due, or finds the queue
empty. -/
theorem due_loop {world next : ControlServer platform.longBits}
    {input : LoopInput platform.longBits} (reachable : (system platform).Reachable world)
    (stepped : LoopStepped platform world input next) (runs : world.ending = none)
    (goes : next.ending = none) {index : Nat} (within : index < instances) :
    (world.pipes index).handed.length + world.due index ≤
        (next.pipes index).handed.length + next.due index ∨
      (world.held index = [] ∧ (world.pipes index).writeQueue = [] ∧
        (next.pipes index).handed = (world.pipes index).handed) := by
  have nothing (idle : LoopPoint.Idle world.point)
      (same : (next.pipes index).handed = (world.pipes index).handed) :
      (world.pipes index).handed.length + world.due index ≤
        (next.pipes index).handed.length + next.due index := by
    rw [due_idle idle, same]
    exact Nat.le_add_right _ _
  cases stepped with
  | worked point bounds advance =>
      refine due_worked reachable runs point advance ?_ ?_ goes within
      · rfl
      · rfl
  | turned turned => exact Or.inl (nothing (idle_of_turned turned) rfl)
  | waitFailed point =>
      refine Or.inl (nothing ?_ rfl)
      rw [point]
      exact fun _ => ⟨rfl, rfl⟩
  | _ => cases goes

theorem running_of_loop {world next : ControlServer platform.longBits}
    {input : LoopInput platform.longBits}
    (taken : step platform world (.loop input) = some next) :
    world.ending = none ∧ world.loopStep platform input = some next := by
  unfold step at taken
  split at taken
  · cases taken
  · exact Option.ite_none_right_eq_some.mp taken

/-- What was sent to a pipe before `stop` is handed on by the end of the turn. -/
structure OwedKept {longBits : Nat} (world : ControlServer longBits) (index : Nat)
    (owed : List Outgoing) : Prop where
  sent : List.IsPrefix owed (world.pipes index).sent
  covered : world.ending ≠ some .undefined ->
    owed.length ≤ (world.pipes index).handed.length + world.due index

theorem owedKept_step {world next : ControlServer platform.longBits}
    {label : ServerLabel platform.longBits} (reachable : (system platform).Reachable world)
    (taken : step platform world label = some next) (succeeds : label.fails = false)
    {index : Nat} (within : index < instances) {owed : List Outgoing}
    (kept : OwedKept world index owed) : OwedKept next index owed where
  sent := kept.sent.trans (sent_step taken within)
  covered := by
    intro defined
    by_cases looped : Exists fun input => label = .loop input
    · rcases looped with ⟨input, rfl⟩
      rcases running_of_loop taken with ⟨runs, goes⟩
      have bound := kept.covered (by rw [runs]; exact nofun)
      by_cases on : next.ending = none
      · have stepped : LoopStepped platform world input next := by
          cases stepped_of_step taken with
          | loop stepped => exact stepped
        rcases due_loop reachable stepped runs on within with more | ⟨held, empty, same⟩
        · exact bound.trans more
        · have queue := PipeView.queueKept_reachable (view_reachable reachable within)
          have balanced : (world.pipes index).sent = (world.pipes index).handed ++
              world.held index ++ (world.pipes index).writeQueue.reduceOption := queue.balanced
          rw [held, empty, List.reduceOption_nil, List.append_nil, List.append_nil] at balanced
          have sent := kept.sent.length_le
          rw [balanced] at sent
          rw [same]
          exact sent.trans (Nat.le_add_right _ _)
      · rcases idle_of_loop goes succeeds runs ⟨on, defined⟩ with ⟨idle, same, _⟩
        rw [due_idle idle] at bound
        rw [same]
        exact bound.trans (Nat.add_le_add_left (Nat.zero_le _) _)
    · rcases loop_untouched taken fun input same => looped ⟨input, same⟩ with
        ⟨point, undefined | ending, handed⟩
      · have due : next.due index = world.due index := by
          unfold due held view
          rw [point, undefined]
        rw [handed, due]
        exact kept.covered (undefined ▸ defined)
      · exact absurd ending defined

end ControlServer

namespace StoppedServer

variable {platform : ControlPlatform} {longBits : Nat}

/-- The first call of `stop` is the one that counts. -/
def owedAfter (world : StoppedServer longBits) (label : ServerLabel longBits) :
    Option (Nat -> List Outgoing) :=
  match label, world.owed with
  | .stop, none => some fun index => (world.server.pipes index).sent
  | _, owed => owed

def step (platform : ControlPlatform) (world : StoppedServer platform.longBits)
    (label : ServerLabel platform.longBits) : Option (StoppedServer platform.longBits) :=
  (world.server.step platform label).map fun server => ⟨server, world.owedAfter label⟩

def create (longBits : Nat) : StoppedServer longBits where
  server := .create longBits
  owed := none

def system (platform : ControlPlatform) :
    Transition.System (StoppedServer platform.longBits) (ServerLabel platform.longBits) :=
  .ofStep (fun world => world = create platform.longBits) (step platform)

/-- Once the loop has ended, what was sent before `stop` has been handed on. -/
def KeepsAccepted (world : StoppedServer longBits) : Prop :=
  forall owed, world.owed = some owed -> world.server.Finished ->
    forall index, index < instances ->
      List.IsPrefix (owed index) (world.server.pipes index).handed

/-- The messages that wait when `stop` is called are so few that the turn writes them. -/
def stopsInTime (world : StoppedServer longBits) (label : ServerLabel longBits) : Bool :=
  match label, world.owed with
  | .stop, none => (List.range instances).all fun index =>
      decide ((world.server.pipes index).writeQueue.reduceOption.length ≤
        world.server.takes index)
  | _, _ => true

theorem server_reachable {guard : StoppedServer platform.longBits ->
      ServerLabel platform.longBits -> Prop} {world : StoppedServer platform.longBits}
    (reachable : ((system platform).restrict guard).Reachable world) :
    (ControlServer.system platform).Reachable world.server := by
  refine reachable.component (ControlServer.system platform) StoppedServer.server
    (fun world start => ?_) fun world label next taken => ?_
  · have created : world = create platform.longBits := start
    rw [created]
    rfl
  · rcases Option.map_eq_some_iff.mp taken.2 with ⟨server, stepped, rfl⟩
    exact Or.inr stepped

/-- Where the loop has ended it holds nothing, and what is owed is covered. -/
structure Kept (world : StoppedServer longBits) : Prop where
  idle : world.server.Finished -> LoopPoint.Idle world.server.point
  owed : forall owed, world.owed = some owed -> forall index, index < instances ->
    ControlServer.OwedKept world.server index (owed index)

theorem idle_step {world next : ControlServer platform.longBits}
    {label : ServerLabel platform.longBits} (idle : world.Finished -> LoopPoint.Idle world.point)
    (taken : world.step platform label = some next) (succeeds : label.fails = false)
    (finished : next.Finished) : LoopPoint.Idle next.point := by
  by_cases looped : Exists fun input => label = .loop input
  · rcases looped with ⟨input, rfl⟩
    rcases ControlServer.running_of_loop taken with ⟨runs, goes⟩
    rcases ControlServer.idle_of_loop goes succeeds runs finished with ⟨away, _, same⟩
    rw [same]
    exact away
  · rcases ControlServer.loop_untouched taken fun input same => looped ⟨input, same⟩ with
      ⟨point, ending | undefined, _⟩
    · rw [point]
      exact idle ⟨ending ▸ finished.1, ending ▸ finished.2⟩
    · exact absurd undefined finished.2

/-- Where `stop` is called in time, what has been sent is covered. -/
theorem owedKept_stop {world : ControlServer platform.longBits}
    (reachable : (ControlServer.system platform).Reachable world)
    (idle : world.Finished -> LoopPoint.Idle world.point) {index : Nat}
    (within : index < instances)
    (few : (world.pipes index).writeQueue.reduceOption.length ≤ world.takes index) :
    world.OwedKept index (world.pipes index).sent where
  sent := List.prefix_refl _
  covered := by
    intro defined
    have queue := PipeView.queueKept_reachable (ControlServer.view_reachable reachable within)
    have balanced : (world.pipes index).sent = (world.pipes index).handed ++
        world.held index ++ (world.pipes index).writeQueue.reduceOption := queue.balanced
    rw [balanced, List.length_append, List.length_append, Nat.add_assoc]
    refine Nat.add_le_add_left ?_ _
    unfold ControlServer.takes at few
    unfold ControlServer.due
    by_cases runs : world.ending = none
    · rw [if_pos runs] at few ⊢
      exact Nat.add_le_add_left few _
    · rw [if_neg runs] at few ⊢
      have nothing : world.held index = [] := (idle ⟨runs, defined⟩ index).1
      rw [nothing]
      exact (Nat.zero_add _).le.trans few

theorem kept_reachable {world : StoppedServer platform.longBits}
    (reachable : ((system platform).restrict fun world label =>
      label.fails = false ∧ world.stopsInTime label = true).Reachable world) : world.Kept := by
  refine reachable.invariant_reachable ?_ ?_
  · intro world start
    have created : world = create platform.longBits := start
    rw [created]
    exact {
      idle := fun finished => absurd rfl finished.1
      owed := fun owed none => nomatch none }
  · rintro world label next reached kept ⟨⟨succeeds, inTime⟩, taken⟩
    rcases Option.map_eq_some_iff.mp taken with ⟨server, stepped, rfl⟩
    refine ⟨idle_step kept.idle stepped succeeds, ?_⟩
    intro owed after index within
    have served := server_reachable reached
    have covered : ControlServer.OwedKept world.server index (owed index) := by
      unfold owedAfter at after
      split at after
      · rename_i first
        cases after
        unfold stopsInTime at inTime
        simp only [first] at inTime
        have few := List.all_eq_true.mp inTime index (List.mem_range.mpr within)
        exact owedKept_stop served kept.idle within (of_decide_eq_true few)
      · exact kept.owed owed after index within
    exact ControlServer.owedKept_step served stepped succeeds within covered

/-- In runs without a failure, stopped in time, no accepted message is lost. -/
theorem keeps_accepted (platform : ControlPlatform) (world : StoppedServer platform.longBits)
    (reachable : ((system platform).restrict fun world label =>
      label.fails = false ∧ world.stopsInTime label = true).Reachable world) :
    world.KeepsAccepted := by
  intro owed stopped finished index within
  have kept := kept_reachable reachable
  have covered := kept.owed owed stopped index within
  have reached := ControlServer.view_reachable (server_reachable reachable) within
  have handed : List.IsPrefix (world.server.pipes index).handed (world.server.pipes index).sent :=
    (PipeView.queueKept_reachable reached).handed_first
  have bound := covered.covered finished.2
  rw [ControlServer.due_idle (kept.idle finished)] at bound
  exact List.prefix_of_prefix_length_le covered.sent handed bound

/-! ## A message that waits -/

open ControlServer (setupLabels loopSteps)
open ControlPlatform (formatPlatform stopMessage)

/-- The system without failures. -/
def unfailing (platform : ControlPlatform) :
    Transition.System (StoppedServer platform.longBits) (ServerLabel platform.longBits) :=
  (system platform).restrict fun _ label => label.fails = false

/-- A client connects, a message is sent to it, and `stop` is called in the pass over the
reads of this turn. -/
def inTimeLabels : List (ServerLabel formatPlatform.longBits) :=
  List.flatten
    [setupLabels, [.pipe 0 .clientConnects, .send 0 stopMessage, .loop .step, .stop],
      loopSteps 9, [.loop (.writeFile .completed)], loopSteps 8]

theorem inTimeLabels_taken :
    (Transition.System.execute (Transition.System.guarded
      (fun world label => label.fails = false ∧ world.stopsInTime label = true)
      (step formatPlatform)) (create formatPlatform.longBits) inTimeLabels).isSome = true := by
  decide +kernel

def inTimeServer : StoppedServer formatPlatform.longBits :=
  (Transition.System.execute (Transition.System.guarded
    (fun world label => label.fails = false ∧ world.stopsInTime label = true)
    (step formatPlatform)) (create formatPlatform.longBits) inTimeLabels).get inTimeLabels_taken

theorem inTimeServer_reachable : ((system formatPlatform).restrict fun world label =>
    label.fails = false ∧ world.stopsInTime label = true).Reachable inTimeServer := by
  refine .of_execute_guarded ?_ inTimeLabels_taken
  rfl

theorem keeps_accepted_one :
    inTimeServer.server.ending = some .returned ∧ inTimeServer.KeepsAccepted :=
  ⟨by decide +kernel, keeps_accepted formatPlatform inTimeServer inTimeServer_reachable⟩

/-- The message is sent and `stop` is called before the loop looks at the flag. -/
def droppedLabels : List (ServerLabel formatPlatform.longBits) :=
  setupLabels ++ [.pipe 0 .clientConnects, .send 0 stopMessage, .stop, .loop .step]

theorem droppedLabels_taken :
    (Transition.System.execute (Transition.System.guarded
      (fun _ label => label.fails = false) (step formatPlatform))
      (create formatPlatform.longBits) droppedLabels).isSome = true := by
  decide +kernel

def droppedServer : StoppedServer formatPlatform.longBits :=
  (Transition.System.execute (Transition.System.guarded
    (fun _ label => label.fails = false) (step formatPlatform))
    (create formatPlatform.longBits) droppedLabels).get droppedLabels_taken

theorem droppedServer_reachable : (unfailing formatPlatform).Reachable droppedServer := by
  refine .of_execute_guarded ?_ droppedLabels_taken
  rfl

/-- The loop ends with the message in the queue. -/
theorem drops_accepted : ¬ forall world, (unfailing formatPlatform).Reachable world ->
    world.KeepsAccepted := by
  intro keeps
  have finished : droppedServer.server.Finished := by
    have returned : droppedServer.server.ending = some .returned := by decide +kernel
    exact ⟨returned ▸ nofun, returned ▸ nofun⟩
  have accepted : droppedServer.owed.map (fun owed => (owed 0).length) = some 1 := by
    decide +kernel
  have handed : (droppedServer.server.pipes 0).handed.length = 0 := by decide +kernel
  rcases Option.map_eq_some_iff.mp accepted with ⟨owed, stopped, length⟩
  have shorter := (keeps droppedServer droppedServer_reachable owed stopped finished 0
    (by decide)).length_le
  rw [length, handed] at shorter
  exact absurd shorter (by decide)

end StoppedServer

end EasyProspect
