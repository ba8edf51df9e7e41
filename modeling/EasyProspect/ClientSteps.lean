import EasyProspect.ControlClient

namespace EasyProspect

/-!
# What a step does to the control client

One case for each way in which a step of the client can go.
-/

namespace ControlClient

variable {platform : ControlPlatform}

/-- Moves of the loop that change nothing else and depend on nothing that matters. -/
inductive Quiet {longBits : Nat} : ClientPoint longBits -> ClientPoint longBits -> Prop
  | opened : Quiet .opening .turn
  | readUnwanted : Quiet .turn .writeTest
  | wantsWrite : Quiet .writeTest .lockWrites
  | wantsNoWrite : Quiet .writeTest .waiting
  | nothingToWrite : Quiet .writeReady .waiting
  | timeout : Quiet .waiting .turnEnd
  | writeUnawaited : Quiet .writeCompletion .turnEnd
  | turnEnd : Quiet .turnEnd .turn

inductive Stepped (platform : ControlPlatform) (world : ControlClient platform.longBits) :
    ClientLabel platform.longBits -> ControlClient platform.longBits -> Prop
  | quiet {label : ClientLabel platform.longBits} {point : ClientPoint platform.longBits}
      (moves : Quiet world.point point) : Stepped platform world label (world.goes point)
  | unchanged {label : ClientLabel platform.longBits} : Stepped platform world label world
  | ended {label : ClientLabel platform.longBits} (ending : LoopEnding) :
      Stepped platform world label (world.ends ending)
  | readRefused (point : world.point = .turn) (wanted : world.readPipe = true) :
      Stepped platform world (.loop (.readFile .failed))
        { world with
          readPending := true
          readPipe := false
          point := .writeTest
          ending := some (.threw (.logicError "ReadFile() error")) }
  | readStarted (point : world.point = .turn) (wanted : world.readPipe = true) :
      Stepped platform world (.loop (.readFile .pending))
        { world with
          readPending := true
          readPipe := false
          point := .writeTest
          readStatus := .pending
          readsInFlight := world.readsInFlight + 1 }
  | readCompleted {octets : Octets} {rest : List Octets} (point : world.point = .turn)
      (wanted : world.readPipe = true) :
      Stepped platform world (.loop (.readFile .completed))
        { world with
          readPending := true
          readPipe := false
          point := .writeTest
          unread := rest
          inputBuffer := fillInput world.inputBuffer world.unread
          readStatus := .stored octets }
  | lockedEmpty (point : world.point = .lockWrites) (empty : world.writeQueue = []) :
      Stepped platform world (.loop .step)
        { world with writePipe := false, writePending := false, point := .writeReady }
  | lockedFull (point : world.point = .lockWrites) (some : world.writeQueue ≠ []) :
      Stepped platform world (.loop .step)
        { world with writePipe := true, writePending := true, point := .writeReady }
  | wantsFront (point : world.point = .writeReady) (wanted : world.writePipe = true) :
      Stepped platform world (.loop .step) (world.goes .front)
  | front {buffer : Option Octets} {rest : List (Option Octets)}
      (point : world.point = .front) (queue : world.writeQueue = buffer :: rest) :
      Stepped platform world (.loop .step)
        { world with writeQueue := none :: rest, point := .pop buffer }
  | pop {buffer head : Option Octets} {rest : List (Option Octets)}
      (point : world.point = .pop buffer) (queue : world.writeQueue = head :: rest) :
      Stepped platform world (.loop .step)
        { world with writeQueue := rest, point := .writeFile buffer }
  | written {buffer : Octets} {result : IssueResult} {writePending : Bool}
      {writeStatus : WriteStatus} {writesInFlight : List WriteInFlight}
      (point : world.point = .writeFile (some buffer))
      (writes : writesInFlight = world.writesInFlight ∨
        writesInFlight = world.writesInFlight ++ [⟨buffer, true⟩]) :
      Stepped platform world (.loop (.writeFile result))
        { world with
          handed := world.handed ++ [buffer]
          point := .release
          writePending := writePending
          writeStatus := writeStatus
          writesInFlight := writesInFlight }
  | release (point : world.point = .release) :
      Stepped platform world (.loop .step)
        { world with
          writesInFlight := freeBuffers world.writesInFlight
          point := .waiting }
  | waitFailed (point : world.point = .waiting) :
      Stepped platform world (.loop (.waited .failed)) { world with stop := true, point := .turnEnd }
  | readEvent (point : world.point = .waiting) :
      Stepped platform world (.loop (.waited (.signalled 0)))
        { world with readPipe := true, point := .readCompletion }
  | writeEvent (point : world.point = .waiting) :
      Stepped platform world (.loop (.waited (.signalled 1)))
        { world with writePipe := true, point := .writeCompletion }
  | messageRead {octets : Octets} {point : ClientPoint platform.longBits}
      (at_point : world.point = .readCompletion)
      (status : world.readStatus = .stored octets)
      (goes : point = .turnEnd ∨ point = .decode octets.length) :
      Stepped platform world (.loop .step) { world with readPending := false, point := point }
  | readUnfinished (point : world.point = .readCompletion) (awaited : world.readPending = true)
      (status : world.readStatus = .pending) :
      Stepped platform world (.loop .step) { world with readPending := true, point := .turnEnd }
  | readBroken (point : world.point = .readCompletion) (status : world.readStatus = .failed) :
      Stepped platform world (.loop .step) { world with readPending := false, point := .turnEnd }
  | readUnawaited (point : world.point = .readCompletion) (unawaited : world.readPending = false) :
      Stepped platform world (.loop .step) (world.goes .turnEnd)
  | decoded {bytes : Nat} {message : ProcessMessage platform.longBits}
      {constructed : ControlPlatform.Constructed platform.longBits}
      (point : world.point = .decode bytes)
      (decodes : platform.receive constructed world.inputBuffer bytes = .returned message) :
      Stepped platform world (.loop (.constructed constructed)) (world.goes (.push message))
  | pushed {message : ProcessMessage platform.longBits} (point : world.point = .push message) :
      Stepped platform world (.loop .step)
        { world with
          readQueue := world.readQueue ++ [message]
          received := world.received ++ [message]
          point := .post }
  | posted (point : world.point = .post) :
      Stepped platform world (.loop .step)
        { world with posted := world.posted + 1, point := .turnEnd }
  | writeEnded {writePending : Bool} (point : world.point = .writeCompletion) :
      Stepped platform world (.loop .step)
        { world with writePending := writePending, point := .turnEnd }
  | sent {message : ProcessMessage platform.longBits} {octets : Octets} :
      Stepped platform world (.send message)
        { world with
          writePipe := true
          writeQueue := world.writeQueue ++ [some octets]
          sent := world.sent ++ [octets] }
  | popped {message : ProcessMessage platform.longBits}
      {rest : List (ProcessMessage platform.longBits)} (some : 0 < world.posted)
      (queue : world.readQueue = message :: rest) :
      Stepped platform world .handlerPops
        { world with
          readQueue := rest
          posted := world.posted - 1
          holding := world.holding ++ [message] }
  | poppedEmpty (some : 0 < world.posted) (queue : world.readQueue = []) :
      Stepped platform world .handlerPops (world.ends .undefined)
  | acted {position shutdowns : Nat} {message : ProcessMessage platform.longBits}
      (held : world.holding[position]? = some message)
      (returns : doAction platform message = .returned shutdowns) :
      Stepped platform world (.handlerActs position)
        { world with
          holding := world.holding.eraseIdx position
          acted := world.acted ++ [message]
          shutdowns := world.shutdowns + shutdowns }
  | actedBroken {position : Nat} {message : ProcessMessage platform.longBits}
      (ending : LoopEnding) (held : world.holding[position]? = some message)
      (breaks : forall shutdowns, doAction platform message ≠ .returned shutdowns) :
      Stepped platform world (.handlerActs position)
        { world with
          holding := world.holding.eraseIdx position
          acted := world.acted ++ [message]
          ending := some ending }
  | stored {octets : Octets} {rest : List Octets} (reading : 0 < world.readsInFlight) :
      Stepped platform world .stores
        { world with
          unread := rest
          inputBuffer := fillInput world.inputBuffer world.unread
          readStatus := .stored octets
          readsInFlight := world.readsInFlight - 1 }
  | overflowed {rest : List Octets} (reading : 0 < world.readsInFlight) :
      Stepped platform world .stores
        { world with
          unread := rest
          inputBuffer := fillInput world.inputBuffer world.unread
          readStatus := .failed
          readsInFlight := world.readsInFlight - 1 }
  | readFailed (reading : 0 < world.readsInFlight) :
      Stepped platform world .readFails
        { world with readStatus := .failed, readsInFlight := world.readsInFlight - 1 }
  | writeCompleted {succeeded : Bool} {status : WriteStatus} {write : WriteInFlight}
      {rest : List WriteInFlight} (writing : world.writesInFlight = write :: rest) :
      Stepped platform world (.writeCompletes succeeded)
        { world with writeStatus := status, writesInFlight := rest }
  | serverSent {octets : Octets} :
      Stepped platform world (.serverSends octets)
        { world with unread := world.unread ++ [octets] }

/-- A move that changes nothing else, from the point where the loop is. -/
theorem Stepped.quietly {world : ControlClient platform.longBits}
    {label : ClientLabel platform.longBits} {point next : ClientPoint platform.longBits}
    (at_point : world.point = point) (moves : Quiet point next) :
    Stepped platform world label (world.goes next) :=
  .quiet (at_point ▸ moves)

theorem stepped_of_issueRead {world next : ControlClient platform.longBits}
    {result : IssueResult} (point : world.point = .turn) (wanted : world.readPipe = true)
    (issued : world.issueRead result = some next) :
    Stepped platform world (.loop (.readFile result)) next := by
  cases result with
  | failed =>
      cases issued
      exact .readRefused point wanted
  | pending =>
      cases issued
      exact .readStarted point wanted
  | completed =>
      simp only [issueRead] at issued
      split at issued
      · rename_i short
        unfold store at issued
        split at issued
        · cases issued
        · rename_i octets rest unread
          have same : world.unread = octets :: rest := unread
          rw [same, List.head?_cons, Option.any_some, decide_eq_true_eq] at short
          rw [if_pos short] at issued
          cases issued
          exact .readCompleted point wanted
      · cases issued

theorem stepped_of_issueWrite {world : ControlClient platform.longBits} {buffer : Octets}
    (point : world.point = .writeFile (some buffer)) (result : IssueResult) :
    Stepped platform world (.loop (.writeFile result)) (world.issueWrite buffer result) := by
  cases result with
  | completed => exact .written point (Or.inl rfl)
  | pending => exact .written point (Or.inr rfl)
  | failed => exact .written point (Or.inl rfl)

theorem stepped_of_afterWait {world : ControlClient platform.longBits}
    (point : world.point = .waiting) (result : WaitResult) :
    Stepped platform world (.loop (.waited result)) (world.afterWait result) := by
  cases result with
  | timeout => exact .quietly point .timeout
  | failed => exact .waitFailed point
  | signalled event =>
      match event with
      | 0 => exact .readEvent point
      | 1 => exact .writeEvent point
      | event + 2 => exact .quietly point .timeout

theorem stepped_of_completeRead {world : ControlClient platform.longBits}
    (point : world.point = .readCompletion) :
    Stepped platform world (.loop .step) world.completeRead := by
  unfold completeRead
  split
  · rename_i awaited
    split
    · rename_i status
      split
      · exact .messageRead point status (Or.inr rfl)
      · exact .messageRead point status (Or.inl rfl)
    · rename_i status
      exact .readUnfinished point awaited status
    · rename_i status
      exact .readBroken point status
  · rename_i unawaited
    exact .readUnawaited point (Bool.eq_false_iff.mpr unawaited)

theorem stepped_of_completeWrite {world : ControlClient platform.longBits}
    (point : world.point = .writeCompletion) :
    Stepped platform world (.loop .step) world.completeWrite := by
  unfold completeWrite
  split
  · split
    · exact .writeEnded point
    · exact .writeEnded point
  · exact .quietly point .writeUnawaited

theorem stepped_of_loopStep {world next : ControlClient platform.longBits}
    {input : ClientInput platform.longBits} (taken : world.loopStep platform input = some next) :
    Stepped platform world (.loop input) next := by
  unfold loopStep at taken
  split at taken
  · rename_i result point
    rw [← Option.some.inj taken]
    cases result with
    | opened => exact .quietly point .opened
    | busy => exact .unchanged
    | failed what => exact .ended _
  · rename_i point
    split at taken
    · cases taken
    · rw [← Option.some.inj taken]
      exact .quietly point .readUnwanted
  · rename_i point
    split at taken
    · rename_i wanted
      exact stepped_of_issueRead point wanted taken
    · cases taken
  · rename_i point
    rw [← Option.some.inj taken]
    split
    · exact .quietly point .wantsWrite
    · exact .quietly point .wantsNoWrite
  · rename_i point
    rw [← Option.some.inj taken, lockWrites]
    split
    · rename_i empty
      exact .lockedEmpty point (List.isEmpty_iff.mp empty)
    · rename_i some
      exact .lockedFull point fun empty => some (List.isEmpty_iff.mpr empty)
  · rename_i point
    rw [← Option.some.inj taken]
    split
    · rename_i wanted
      exact .wantsFront point wanted
    · exact .quietly point .nothingToWrite
  · rename_i point
    split at taken
    · rw [← Option.some.inj taken]
      exact .ended _
    · rename_i queue
      rw [← Option.some.inj taken]
      exact .front point queue
  · rename_i point
    split at taken
    · rw [← Option.some.inj taken]
      exact .ended _
    · rename_i queue
      rw [← Option.some.inj taken]
      exact .pop point queue
  · rw [← Option.some.inj taken]
    exact .ended _
  · rename_i point
    rw [← Option.some.inj taken]
    exact stepped_of_issueWrite point _
  · rename_i point
    rw [← Option.some.inj taken]
    exact .release point
  · rename_i point
    rw [← Option.some.inj taken]
    exact stepped_of_afterWait point _
  · rename_i point
    rw [← Option.some.inj taken]
    exact stepped_of_completeRead point
  · rename_i point
    split at taken
    · rename_i decodes
      rw [← Option.some.inj taken]
      exact .decoded point decodes
    · rw [← Option.some.inj taken]
      exact .ended _
    · rw [← Option.some.inj taken]
      exact .ended _
  · rename_i point
    rw [← Option.some.inj taken]
    exact .pushed point
  · rename_i point
    rw [← Option.some.inj taken]
    exact .posted point
  · rename_i point
    rw [← Option.some.inj taken]
    exact stepped_of_completeWrite point
  · rename_i point
    rw [← Option.some.inj taken]
    split
    · exact .ended _
    · exact .quietly point .turnEnd
  · cases taken

theorem stepped_of_stores {world next : ControlClient platform.longBits}
    (reading : 0 < world.readsInFlight)
    (taken : (world.store.map fun stored =>
      { stored with readsInFlight := world.readsInFlight - 1 }) = some next) :
    Stepped platform world .stores next := by
  rcases Option.map_eq_some_iff.mp taken with ⟨stored, stores, rfl⟩
  unfold store at stores
  split at stores
  · cases stores
  · rename_i unread
    simp only at stores
    split at stores
    · cases stores
      exact .stored reading
    · cases stores
      exact .overflowed reading

/-- Every step is one of the cases. -/
theorem stepped_of_step {world next : ControlClient platform.longBits}
    {label : ClientLabel platform.longBits} (taken : step platform world label = some next) :
    Stepped platform world label next := by
  unfold step at taken
  split at taken
  · cases taken
  · cases label with
    | loop input =>
        rcases Option.ite_none_right_eq_some.mp taken with ⟨_, looped⟩
        exact stepped_of_loopStep looped
    | send message =>
        rw [← Option.some.inj taken, send]
        split
        · exact .unchanged
        · split
          · exact .sent
          · exact .unchanged
          · exact .unchanged
          · exact .ended _
    | handlerPops =>
        rcases Option.ite_none_right_eq_some.mp taken with ⟨some, popped⟩
        rw [← Option.some.inj popped, handlerPops]
        split
        · rename_i queue
          exact .poppedEmpty some queue
        · rename_i queue
          exact .popped some queue
    | handlerActs position =>
        rcases Option.map_eq_some_iff.mp taken with ⟨message, held, rfl⟩
        unfold handlerActs
        split
        · rename_i returns
          exact .acted held returns
        · rename_i breaks
          exact .actedBroken _ held fun shutdowns returns => by cases breaks.symm.trans returns
        · rename_i breaks
          exact .actedBroken _ held fun shutdowns returns => by cases breaks.symm.trans returns
    | stores =>
        rcases Option.ite_none_right_eq_some.mp taken with ⟨reading, stores⟩
        exact stepped_of_stores reading stores
    | readFails =>
        rcases Option.ite_none_right_eq_some.mp taken with ⟨reading, failed⟩
        rw [← Option.some.inj failed]
        exact .readFailed reading
    | writeCompletes succeeded =>
        simp only at taken
        split at taken
        · cases taken
        · rename_i writing
          rw [← Option.some.inj taken]
          exact .writeCompleted writing
    | serverSends octets =>
        rw [← Option.some.inj taken]
        exact .serverSent

end ControlClient

end EasyProspect
