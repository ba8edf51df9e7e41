import EasyProspect.ControlServer

namespace EasyProspect

/-!
# What a step does to the server

One case for each way in which the loop gets on, and for each way in which another
thread or the system changes the server.
-/

namespace ControlServer

variable {platform : ControlPlatform}

/-- The steps of the loop between its work on the pipes. -/
inductive Turned {longBits : Nat} : LoopPoint -> LoopInput longBits -> LoopPoint -> Prop
  | turn : Turned .turn .step (.pipe 0 .reads)
  | wait : Turned .beforeWait .step .waiting
  | timeout : Turned .waiting (.waited .timeout) .turnEnd
  | readEvent {event : Nat} (read : event < instances) :
      Turned .waiting (.waited (.signalled event)) (.pipe event .readCompletion)
  | writeEvent {event : Nat} (known : event < 2 * instances) (write : ¬event < instances) :
      Turned .waiting (.waited (.signalled event)) (.pipe (event - instances) .writeCompletion)
  | again : Turned .turnEnd .step .turn

/-- The steps of the loop. -/
inductive LoopStepped (platform : ControlPlatform) (world : ControlServer platform.longBits) :
    LoopInput platform.longBits -> ControlServer platform.longBits -> Prop
  | worked {current : Nat} {stage : Stage} {input : LoopInput platform.longBits}
      {pipe : ControlPipe platform.longBits} {move : Move}
      (point : world.point = .pipe current stage) (bounds : stage.InBounds current)
      (advance : (world.pipes current).advance platform world.inputBuffer stage input =
        some (.goes pipe move)) :
      LoopStepped platform world input
        { world.setPipe current pipe with
          inputBuffer := world.inputAfter current input
          point := move.point current }
  | broke {current : Nat} {stage : Stage} {input : LoopInput platform.longBits}
      {ending : LoopEnding} (point : world.point = .pipe current stage)
      (advance : (world.pipes current).advance platform world.inputBuffer stage input =
        some (.ends ending)) :
      LoopStepped platform world input { world with ending := some ending }
  | strayed {current : Nat} {stage : Stage} {input : LoopInput platform.longBits}
      (point : world.point = .pipe current stage) (outside : ¬stage.InBounds current) :
      LoopStepped platform world input { world with ending := some .undefined }
  | turned {input : LoopInput platform.longBits} {point : LoopPoint}
      (turned : Turned world.point input point) :
      LoopStepped platform world input { world with point := point }
  | waitFailed (point : world.point = .waiting) :
      LoopStepped platform world (.waited .failed)
        { world with stopLoop := true, point := .turnEnd }
  | stopped : LoopStepped platform world .step { world with ending := some .returned }
  | unknown {event : Nat} :
      LoopStepped platform world (.waited (.signalled event))
        { world with ending := some .returned }

/-- All steps. -/
inductive Stepped (platform : ControlPlatform) (world : ControlServer platform.longBits) :
    ServerLabel platform.longBits -> ControlServer platform.longBits -> Prop
  | loop {input : LoopInput platform.longBits} {next : ControlServer platform.longBits}
      (stepped : LoopStepped platform world input next) :
      Stepped platform world (.loop input) next
  | sent {index : Nat} {message : ProcessMessage platform.longBits} {octets : Octets}
      (packed : platform.packMessage message = .returned octets) :
      Stepped platform world (.send index message)
        (world.setPipe index ((world.pipes index).enqueue octets))
  | refused {index : Nat} {message : ProcessMessage platform.longBits} :
      Stepped platform world (.send index message) world
  | miscast {index : Nat} {message : ProcessMessage platform.longBits} :
      Stepped platform world (.send index message) { world with ending := some .undefined }
  | nothing {index : Nat} : Stepped platform world (.nextMessage index) world
  | missing {index : Nat} :
      Stepped platform world (.nextMessage index) { world with ending := some .undefined }
  | returned {index : Nat} {pipe : ControlPipe platform.longBits}
      (dequeued : (world.pipes index).dequeue = some pipe) :
      Stepped platform world (.nextMessage index) (world.setPipe index pipe)
  | stop : Stepped platform world .stop { world with stopLoop := true }
  | event {index : Nat} {event : PipeEvent} {pipe : ControlPipe platform.longBits}
      (occurs : (world.pipes index).occurs world.clients event = some pipe) :
      Stepped platform world (.pipe index event)
        { world.setPipe index pipe with
          inputBuffer :=
            if event = .stores then fillInput world.inputBuffer (world.pipes index).unread
            else world.inputBuffer
          clients := if event = .clientConnects then world.clients + 1 else world.clients }

theorem loopStepped_of_pipeStep {world next : ControlServer platform.longBits} {current : Nat}
    {stage : Stage} {input : LoopInput platform.longBits}
    (point : world.point = .pipe current stage)
    (taken : world.pipeStep platform current stage input = some next) :
    LoopStepped platform world input next := by
  unfold pipeStep at taken
  split at taken
  · rename_i bounds
    split at taken
    · cases taken
    · rename_i advance
      rw [← Option.some.inj taken]
      exact .broke point advance
    · rename_i advance
      rw [← Option.some.inj taken]
      exact .worked point bounds advance
  · rename_i outside
    rw [← Option.some.inj taken]
    exact .strayed point outside

theorem loopStepped_of_afterWait {world : ControlServer platform.longBits}
    (point : world.point = .waiting) (result : WaitResult) :
    LoopStepped platform world (.waited result) (world.afterWait result) := by
  have goes {after : LoopPoint}
      (turned : Turned (.waiting : LoopPoint) (.waited result : LoopInput platform.longBits)
        after) : LoopStepped platform world (.waited result) { world with point := after } := by
    rw [← point] at turned
    exact .turned turned
  cases result with
  | timeout => exact goes .timeout
  | failed => exact .waitFailed point
  | signalled event =>
      simp only [afterWait]
      split
      · exact .unknown
      · rename_i known
        split
        · rename_i read
          exact goes (.readEvent read)
        · rename_i write
          refine goes (.writeEvent ?_ write)
          unfold instances at *
          omega

theorem loopStepped_of_loopStep {world next : ControlServer platform.longBits}
    {input : LoopInput platform.longBits} (taken : world.loopStep platform input = some next) :
    LoopStepped platform world input next := by
  have goes {before after : LoopPoint} {supplied : LoopInput platform.longBits}
      (point : world.point = before) (turned : Turned before supplied after) :
      LoopStepped platform world supplied { world with point := after } := by
    rw [← point] at turned
    exact .turned turned
  unfold loopStep at taken
  split at taken
  · rename_i point
    exact loopStepped_of_pipeStep point taken
  · rename_i point
    rw [← Option.some.inj taken]
    split
    · exact .stopped
    · exact goes point .turn
  · rename_i point
    rw [← Option.some.inj taken]
    split
    · exact .stopped
    · exact goes point .wait
  · rename_i point
    rw [← Option.some.inj taken]
    exact loopStepped_of_afterWait point _
  · rename_i point
    rw [← Option.some.inj taken]
    split
    · exact .stopped
    · exact goes point .again
  · cases taken

theorem stepped_of_send (world : ControlServer platform.longBits) (index : Nat)
    (message : ProcessMessage platform.longBits) :
    Stepped platform world (.send index message) (world.send platform index message) := by
  unfold send
  split
  · rename_i packed _
    exact .sent packed
  · exact .refused
  · exact .refused
  · exact .miscast

theorem stepped_of_nextMessage (world : ControlServer platform.longBits) (index : Nat) :
    Stepped platform world (.nextMessage index) (world.nextMessage index) := by
  unfold nextMessage
  split
  · exact .nothing
  · split
    · exact .missing
    · rename_i dequeued
      exact .returned dequeued

theorem stepped_of_step {world next : ControlServer platform.longBits}
    {label : ServerLabel platform.longBits} (taken : step platform world label = some next) :
    Stepped platform world label next := by
  unfold step at taken
  split at taken
  · cases taken
  · cases label with
    | loop input =>
        exact .loop (loopStepped_of_loopStep (Option.ite_none_right_eq_some.mp taken).2)
    | send index message =>
        rw [← Option.some.inj (Option.ite_none_right_eq_some.mp taken).2]
        exact stepped_of_send world index message
    | nextMessage index =>
        rw [← Option.some.inj (Option.ite_none_right_eq_some.mp taken).2]
        exact stepped_of_nextMessage world index
    | stop =>
        rw [← Option.some.inj taken]
        exact .stop
    | pipe index event =>
        rcases Option.map_eq_some_iff.mp (Option.ite_none_right_eq_some.mp taken).2 with
          ⟨pipe, occurs, rfl⟩
        exact .event occurs

end ControlServer

end EasyProspect
