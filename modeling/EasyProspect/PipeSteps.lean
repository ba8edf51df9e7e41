import EasyProspect.ControlPipe

namespace EasyProspect

/-!
# What a step does to a pipe

One case for each way in which the loop can get through a stage, and for each way in
which the system or a client changes a pipe.  What a step preserves is proved from
these cases.
-/

open ControlPlatform (Constructed)

namespace ControlPipe

variable {platform : ControlPlatform}

/-- The steps of the loop on a pipe. -/
inductive Advanced (platform : ControlPlatform) (input : Octets)
    (pipe : ControlPipe platform.longBits) :
    Stage -> LoopInput platform.longBits -> ControlPipe platform.longBits -> Move -> Prop
  | readUnwanted : Advanced platform input pipe .reads .step pipe .nextRead
  | readCompleted {client : Nat} {octets : Octets} {rest : List Octets}
      (wanted : pipe.readReady = true) (occupied : pipe.client = some client)
      (next : pipe.unread = octets :: rest) (fits : octets.length ≤ inputSize) :
      Advanced platform input pipe .reads (.readFile .completed)
        { pipe with
          readPending := true
          readReady := false
          unread := rest
          readStatus := .stored client octets
          taken := pipe.taken ++ [(client, octets)] } .nextRead
  | readStarted (wanted : pipe.readReady = true) (occupied : pipe.client ≠ none) :
      Advanced platform input pipe .reads (.readFile .pending)
        { pipe with
          readPending := true
          readReady := false
          readStatus := .pending
          readsInFlight := pipe.readsInFlight + 1 } .nextRead
  | writes :
      Advanced platform input pipe .writes .step
        { pipe with writeReady := !pipe.writeQueue.isEmpty } (.stay .ready)
  | ready :
      Advanced platform input pipe .ready .step pipe
        (if pipe.writeReady then .stay .nonEmpty else .nextWrite)
  | nonEmpty :
      Advanced platform input pipe .nonEmpty .step pipe
        (if pipe.writeQueue.isEmpty then .nextWrite else .stay .front)
  | front {buffer : Option Outgoing} {rest : List (Option Outgoing)}
      (queue : pipe.writeQueue = buffer :: rest) :
      Advanced platform input pipe .front .step { pipe with writeQueue := none :: rest }
        (.stay (.pop buffer))
  | pop {buffer head : Option Outgoing} {rest : List (Option Outgoing)}
      (queue : pipe.writeQueue = head :: rest) :
      Advanced platform input pipe (.pop buffer) .step { pipe with writeQueue := rest }
        (.stay (.writeFile buffer))
  | writeCompleted {buffer : Outgoing} {client : Nat} (occupied : pipe.client = some client) :
      Advanced platform input pipe (.writeFile (some buffer)) (.writeFile .completed)
        { pipe with
          handed := pipe.handed ++ [buffer]
          writePending := false
          writeStatus := .written
          written := pipe.written ++ [(buffer, client)] } (.stay .release)
  | writeStarted {buffer : Outgoing} {client : Nat} (occupied : pipe.client = some client) :
      Advanced platform input pipe (.writeFile (some buffer)) (.writeFile .pending)
        { pipe with
          handed := pipe.handed ++ [buffer]
          writePending := true
          writeStatus := .pending
          writesInFlight := pipe.writesInFlight ++ [⟨buffer.octets, true⟩]
          written := pipe.written ++ [(buffer, client)] } (.stay .release)
  | writeFailed {buffer : Outgoing} :
      Advanced platform input pipe (.writeFile (some buffer)) (.writeFile .failed)
        { pipe with handed := pipe.handed ++ [buffer] } (.disconnect .release)
  | release :
      Advanced platform input pipe .release .step
        { pipe with writesInFlight := freeBuffers pipe.writesInFlight } .nextWrite
  | disconnected {meant : Nat} {resume : Resume} (succeeded : Bool) :
      Advanced platform input pipe (.disconnect meant resume) (.disconnected succeeded)
        (pipe.disconnected succeeded) (.stay (.connect meant resume))
  | connected {meant : Nat} {resume : Resume} {result : ConnectResult} {connection : Connection}
      {readReady writeReady : Bool} {move : Move}
      (connects : connection = pipe.connection ∨
        (pipe.client = none ∧ connection = .listening))
      (flags : (readReady = pipe.readReady ∧ writeReady = pipe.writeReady) ∨
        (readReady = false ∧ writeReady = false))
      (moves : move = .nextSetup ∨ move = .stay .release ∨ move = .turnEnd) :
      Advanced platform input pipe (.connect meant resume) (.connected result)
        { pipe with
          connection := connection
          readStatus := .pending
          readReady := readReady
          writeReady := writeReady } move
  | messageRead {client : Nat} {octets : Octets} (awaited : pipe.readPending = true)
      (status : pipe.readStatus = .stored client octets) (some : 0 < octets.length) :
      Advanced platform input pipe .readCompletion .step { pipe with readPending := false }
        (.stay (.decode client octets.length))
  | nothingRead (awaited : pipe.readPending = true)
      (status : pipe.readStatus = .connected ∨
        Exists fun client => pipe.readStatus = .stored client []) :
      Advanced platform input pipe .readCompletion .step
        { pipe with readPending := false, readReady := true } .turnEnd
  | readBroken (awaited : pipe.readPending = true)
      (status : pipe.readStatus = .pending ∨ pipe.readStatus = .failed) :
      Advanced platform input pipe .readCompletion .step pipe (.disconnect .completion)
  | readUnawaited (awaited : pipe.readPending = false) :
      Advanced platform input pipe .readCompletion .step { pipe with readReady := true } .turnEnd
  | received {client bytes : Nat} {constructed : Constructed platform.longBits}
      {message : ProcessMessage platform.longBits}
      (decodes : platform.receive constructed input bytes = .returned message) :
      Advanced platform input pipe (.decode client bytes) (.constructed constructed)
        { pipe with
          readReady := true
          readQueue := pipe.readQueue ++ [⟨client, message⟩]
          pushed := pipe.pushed ++ [⟨client, message⟩] } .turnEnd
  | writeDone (awaited : pipe.writePending = true) (status : pipe.writeStatus = .written) :
      Advanced platform input pipe .writeCompletion .step
        { pipe with writePending := false } .turnEnd
  | writeBroken (awaited : pipe.writePending = true) (status : pipe.writeStatus ≠ .written) :
      Advanced platform input pipe .writeCompletion .step pipe .disconnectEvent
  | writeUnawaited (awaited : pipe.writePending = false) :
      Advanced platform input pipe .writeCompletion .step pipe .turnEnd

theorem advanced_of_issueRead {input : Octets} {pipe next : ControlPipe platform.longBits}
    {result : IssueResult} {move : Move} (wanted : pipe.readReady = true)
    (issued : pipe.issueRead result = some (.goes next move)) :
    Advanced platform input pipe .reads (.readFile result) next move := by
  cases result with
  | failed => cases issued
  | pending =>
      simp only [issueRead] at issued
      split at issued
      · cases issued
      · rename_i occupied
        cases issued
        exact .readStarted wanted occupied
  | completed =>
      simp only [issueRead] at issued
      split at issued
      · rename_i short
        rcases Option.map_eq_some_iff.mp issued with ⟨stored, stores, same⟩
        cases same
        unfold store at stores
        split at stores
        · rename_i client octets rest occupied unread
          have fits : octets.length ≤ inputSize := by
            have unread' : pipe.unread = octets :: rest := unread
            rw [unread', List.head?_cons, Option.any_some, decide_eq_true_eq] at short
            exact short
          rw [if_pos fits] at stores
          cases stores
          exact .readCompleted wanted occupied unread fits
        · cases stores
      · cases issued

theorem advanced_of_issueWrite {input : Octets} {pipe next : ControlPipe platform.longBits}
    {buffer : Outgoing} {result : IssueResult} {move : Move}
    (issued : pipe.issueWrite buffer result = some (.goes next move)) :
    Advanced platform input pipe (.writeFile (some buffer)) (.writeFile result) next move := by
  unfold issueWrite at issued
  simp only at issued
  split at issued
  · rename_i client _ occupied
    cases issued
    exact .writeCompleted occupied
  · rename_i client _ occupied
    cases issued
    exact .writeStarted occupied
  · cases issued
    exact .writeFailed
  · cases issued

theorem advanced_of_connected {input : Octets} {pipe next joined : ControlPipe platform.longBits}
    {meant : Nat} {resume : Resume} {result : ConnectResult} {move : Move}
    (joins : pipe.connected result = some joined)
    (resumes : joined.resumed resume = .goes next move) :
    Advanced platform input pipe (.connect meant resume) (.connected result) next move := by
  have effect : Exists fun connection =>
      (connection = pipe.connection ∨ (pipe.client = none ∧ connection = .listening)) ∧
        joined = { pipe with connection := connection, readStatus := .pending } := by
    cases result with
    | pending =>
        rcases Option.ite_none_right_eq_some.mp joins with ⟨free, same⟩
        exact ⟨.listening, Or.inr ⟨free, rfl⟩, (Option.some.inj same).symm⟩
    | alreadyConnected =>
        simp only [connected] at joins
        split at joins
        · exact ⟨pipe.connection, Or.inl rfl, (Option.some.inj joins).symm⟩
        · cases joins
    | failed => exact ⟨pipe.connection, Or.inl rfl, (Option.some.inj joins).symm⟩
  rcases effect with ⟨connection, becomes, rfl⟩
  cases resume with
  | setup =>
      cases resumes
      exact .connected becomes (Or.inl ⟨rfl, rfl⟩) (Or.inl rfl)
  | release =>
      cases resumes
      exact .connected becomes (Or.inl ⟨rfl, rfl⟩) (Or.inr (Or.inl rfl))
  | completion =>
      cases resumes
      exact .connected becomes (Or.inr ⟨rfl, rfl⟩) (Or.inr (Or.inr rfl))

theorem advanced_of_completeRead {input : Octets} {pipe next : ControlPipe platform.longBits}
    {move : Move} (completes : pipe.completeRead = .goes next move) :
    Advanced platform input pipe .readCompletion .step next move := by
  unfold completeRead at completes
  split at completes
  · rename_i awaited
    split at completes
    · rename_i client octets status
      split at completes
      · rename_i some
        cases completes
        exact .messageRead awaited status some
      · rename_i none
        cases completes
        rw [List.length_eq_zero_iff.mp (Nat.eq_zero_of_not_pos none)] at status
        exact .nothingRead awaited (Or.inr ⟨client, status⟩)
    · rename_i status
      cases completes
      exact .nothingRead awaited (Or.inl status)
    · rename_i status
      cases completes
      exact .readBroken awaited (Or.inl status)
    · rename_i status
      cases completes
      exact .readBroken awaited (Or.inr status)
  · rename_i awaited
    cases completes
    exact .readUnawaited (Bool.eq_false_iff.mpr awaited)

theorem advanced_of_completeWrite {input : Octets} {pipe next : ControlPipe platform.longBits}
    {move : Move} (completes : pipe.completeWrite = .goes next move) :
    Advanced platform input pipe .writeCompletion .step next move := by
  unfold completeWrite at completes
  split at completes
  · rename_i awaited
    split at completes
    · rename_i status
      cases completes
      exact .writeDone awaited status
    · rename_i status
      cases completes
      exact .writeBroken awaited (by rw [status]; decide)
    · rename_i status
      cases completes
      exact .writeBroken awaited (by rw [status]; decide)
  · rename_i awaited
    cases completes
    exact .writeUnawaited (Bool.eq_false_iff.mpr awaited)

/-- Every step of the loop that goes on is one of the cases. -/
theorem advanced_of_advance {input : Octets} {pipe next : ControlPipe platform.longBits}
    {stage : Stage} {supplied : LoopInput platform.longBits} {move : Move}
    (taken : pipe.advance platform input stage supplied = some (.goes next move)) :
    Advanced platform input pipe stage supplied next move := by
  unfold advance at taken
  split at taken
  · split at taken
    · cases taken
    · cases taken
      exact .readUnwanted
  · split at taken
    · rename_i wanted
      exact advanced_of_issueRead wanted taken
    · cases taken
  · cases taken
    exact .writes
  · cases taken
    exact .ready
  · cases taken
    exact .nonEmpty
  · split at taken
    · cases taken
    · rename_i queue
      cases taken
      exact .front queue
  · split at taken
    · cases taken
    · rename_i queue
      cases taken
      exact .pop queue
  · cases taken
  · exact advanced_of_issueWrite taken
  · cases taken
    exact .release
  · cases taken
    exact .disconnected _
  · rcases Option.map_eq_some_iff.mp taken with ⟨joined, connects, resumes⟩
    exact advanced_of_connected connects resumes
  · exact advanced_of_completeRead (Option.some.inj taken)
  · have decoded := Option.some.inj taken
    unfold receive at decoded
    split at decoded
    · rename_i message decodes
      cases decoded
      exact .received decodes
    · cases decoded
    · cases decoded
  · exact advanced_of_completeWrite (Option.some.inj taken)
  · cases taken

/-- What the system and the clients do to a pipe. -/
inductive Occurred {longBits : Nat} (clients : Nat) (pipe : ControlPipe longBits) :
    PipeEvent -> ControlPipe longBits -> Prop
  | stored {client : Nat} {octets : Octets} {rest : List Octets}
      (reading : 0 < pipe.readsInFlight) (occupied : pipe.client = some client)
      (next : pipe.unread = octets :: rest) (fits : octets.length ≤ inputSize) :
      Occurred clients pipe .stores
        { pipe with
          unread := rest
          readStatus := .stored client octets
          taken := pipe.taken ++ [(client, octets)]
          readsInFlight := pipe.readsInFlight - 1 }
  | overflowed {client : Nat} {octets : Octets} {rest : List Octets}
      (reading : 0 < pipe.readsInFlight) (occupied : pipe.client = some client)
      (next : pipe.unread = octets :: rest) (long : ¬octets.length ≤ inputSize) :
      Occurred clients pipe .stores
        { pipe with
          unread := octets.drop inputSize :: rest
          readStatus := .failed
          readsInFlight := pipe.readsInFlight - 1 }
  | readFailed (reading : 0 < pipe.readsInFlight) :
      Occurred clients pipe .readFails
        { pipe with readStatus := .failed, readsInFlight := pipe.readsInFlight - 1 }
  | writeCompleted {succeeded : Bool} {status : WriteStatus} {write : WriteInFlight}
      {rest : List WriteInFlight} (writing : pipe.writesInFlight = write :: rest) :
      Occurred clients pipe (.writeCompletes succeeded)
        { pipe with writeStatus := status, writesInFlight := rest }
  | clientConnected (created : pipe.connection = .created) :
      Occurred clients pipe .clientConnects { pipe with connection := .connected clients }
  | connectCompleted (listening : pipe.connection = .listening) :
      Occurred clients pipe .clientConnects
        { pipe with connection := .connected clients, readStatus := .connected }
  | clientSent {client : Nat} {octets : Octets} (open_ : pipe.connection = .connected client) :
      Occurred clients pipe (.clientSends octets)
        { pipe with
          unread := pipe.unread ++ [octets]
          clientSent := pipe.clientSent ++ [(client, octets)] }
  | clientClosed {client : Nat} (open_ : pipe.connection = .connected client) :
      Occurred clients pipe .clientCloses { pipe with connection := .closed client }

theorem occurred_of_occurs {longBits clients : Nat} {pipe next : ControlPipe longBits}
    {event : PipeEvent} (taken : pipe.occurs clients event = some next) :
    Occurred clients pipe event next := by
  unfold occurs at taken
  split at taken
  · split at taken
    · rename_i reading
      rcases Option.map_eq_some_iff.mp taken with ⟨stored, stores, rfl⟩
      unfold store at stores
      split at stores
      · rename_i client octets rest occupied unread
        split at stores
        · rename_i fits
          cases stores
          exact .stored reading occupied unread fits
        · rename_i long
          cases stores
          exact .overflowed reading occupied unread long
      · cases stores
    · cases taken
  · split at taken
    · rename_i reading
      cases taken
      exact .readFailed reading
    · cases taken
  · split at taken
    · cases taken
    · rename_i writing
      cases taken
      exact .writeCompleted writing
  · split at taken
    · rename_i created
      cases taken
      exact .clientConnected created
    · rename_i listening
      cases taken
      exact .connectCompleted listening
    · cases taken
  · split at taken
    · rename_i open_
      cases taken
      exact .clientSent open_
    · cases taken
  · split at taken
    · rename_i open_
      cases taken
      exact .clientClosed open_
    · cases taken

/-- What `next_message` takes is the front of the queue. -/
theorem dequeued_of_dequeue {longBits : Nat} {pipe next : ControlPipe longBits}
    (taken : pipe.dequeue = some next) : Exists fun incoming => Exists fun rest =>
      pipe.readQueue = incoming :: rest ∧
        next = { pipe with
          readQueue := rest
          returned := pipe.returned ++ [(incoming, pipe.client)] } := by
  unfold dequeue at taken
  split at taken
  · cases taken
  · rename_i incoming rest queue
    exact ⟨incoming, rest, queue, (Option.some.inj taken).symm⟩

end ControlPipe

end EasyProspect
