import EasyProspect.PipeSteps
import EasyProspect.PipeView

namespace EasyProspect

/-!
# The reads of a pipe

The flags `read_pending` and `pipe_read_ready` are never both set, and while a read
is in flight the first of them is, whatever the system returns: a read that is
reported as failed or unfinished is not followed by another one before the instance
has been disconnected and connected again.  Data that a read has stored belongs to
the client that still occupies the pipe until the loop disconnects it.
-/

/-- The loop is between the two halves of `DisconnectAndReconnect`. -/
def Stage.Connecting : Option Stage -> Prop
  | some (.connect _ _) => True
  | _ => False

namespace PipeView

variable {platform : ControlPlatform}

structure ReadKept {longBits : Nat} (view : PipeView longBits) : Prop where
  /-- A pipe that waits for a read does not want another. -/
  exclusive : view.pipe.readPending = true -> view.pipe.readReady = false
  /-- At most one read is in flight, and then the loop waits for it. -/
  single : 0 < view.pipe.readsInFlight -> view.pipe.readsInFlight = 1 ∧
    view.pipe.readPending = true ∧ view.pipe.readStatus = .pending ∧ view.pipe.client ≠ none
  /-- Whose data has been stored. -/
  stored : forall client octets, view.pipe.readStatus = .stored client octets ->
    view.pipe.client = some client ∨
      (view.pipe.connection = .disconnected ∧ Stage.Connecting view.stage)
  decoding : forall client bytes, view.stage = some (.decode client bytes) ->
    view.pipe.readPending = false ∧ view.pipe.readReady = false ∧
      view.pipe.client = some client ∧
      Exists fun octets => view.pipe.readStatus = .stored client octets ∧
        octets.length = bytes ∧ 0 < bytes

variable {longBits : Nat}

theorem ReadKept.idle {view : PipeView longBits} (kept : view.ReadKept)
    (unawaited : view.pipe.readPending = false) : view.pipe.readsInFlight = 0 := by
  refine Nat.eq_zero_of_not_pos fun reading => ?_
  have awaited := (kept.single reading).2.1
  rw [unawaited] at awaited
  cases awaited

theorem ReadKept.finished {view : PipeView longBits} (kept : view.ReadKept)
    (status : view.pipe.readStatus ≠ .pending) : view.pipe.readsInFlight = 0 :=
  Nat.eq_zero_of_not_pos fun reading => status (kept.single reading).2.2.1

theorem ReadKept.unwanted {view : PipeView longBits} (kept : view.ReadKept)
    (wanted : view.pipe.readReady = true) : view.pipe.readPending = false := by
  refine Bool.eq_false_iff.mpr fun awaited => ?_
  have excluded := kept.exclusive awaited
  rw [wanted] at excluded
  cases excluded

/-- The pipe is left alone, and the stage is neither of the two that matter. -/
theorem ReadKept.elsewhere {stage next : Option Stage} {pipe : ControlPipe longBits}
    (kept : ReadKept ⟨stage, pipe⟩) (settled : ¬Stage.Connecting stage)
    (away : forall client bytes, next ≠ some (.decode client bytes)) :
    ReadKept ⟨next, pipe⟩ where
  exclusive := kept.exclusive
  single := kept.single
  stored := fun client octets status =>
    Or.inl ((kept.stored client octets status).elim id fun waiting => absurd waiting.2 settled)
  decoding := fun client bytes here => absurd here (away client bytes)

/-- What the reads depend on is unchanged. -/
structure SameReads (pipe next : ControlPipe longBits) : Prop where
  readReady : next.readReady = pipe.readReady
  readPending : next.readPending = pipe.readPending
  readStatus : next.readStatus = pipe.readStatus
  readsInFlight : next.readsInFlight = pipe.readsInFlight
  client : next.client = pipe.client
  disconnected : pipe.connection = .disconnected -> next.connection = .disconnected

theorem ReadKept.same {stage : Option Stage} {pipe next : ControlPipe longBits}
    (kept : ReadKept ⟨stage, pipe⟩) (same : SameReads pipe next) : ReadKept ⟨stage, next⟩ := by
  rcases kept with ⟨exclusive, single, stored, decoding⟩
  rcases same with ⟨readReady, readPending, readStatus, readsInFlight, client, disconnected⟩
  constructor
  · simp only [readReady, readPending]
    exact exclusive
  · simp only [readPending, readStatus, readsInFlight, client]
    exact single
  · simp only [readStatus, client]
    exact fun owner octets status => (stored owner octets status).imp_right fun waiting =>
      ⟨disconnected waiting.1, waiting.2⟩
  · simp only [readReady, readPending, readStatus, client]
    exact decoding

/-- The step changes nothing that the reads depend on, and the loop goes on to a stage that
is neither of the two. -/
theorem ReadKept.moves {stage next : Option Stage} {pipe changed : ControlPipe longBits}
    (kept : ReadKept ⟨stage, pipe⟩) (settled : ¬Stage.Connecting stage)
    (same : SameReads pipe changed)
    (away : forall client bytes, next ≠ some (.decode client bytes)) :
    ReadKept ⟨next, changed⟩ :=
  (kept.same same).elsewhere settled away

theorem client_of_connects {pipe : ControlPipe longBits} {connection : Connection}
    (connects : connection = pipe.connection ∨ (pipe.client = none ∧ connection = .listening)) :
    connection.client = pipe.client := by
  rcases connects with rfl | ⟨free, rfl⟩
  · rfl
  · exact free.symm

theorem readKept_readCompleted {index client : Nat} {pipe : ControlPipe longBits} {octets : Octets}
    (kept : ReadKept ⟨some .reads, pipe⟩) (wanted : pipe.readReady = true)
    (occupied : pipe.client = some client) (rest : List Octets) :
    ReadKept ⟨Move.nextRead.stageAt index,
      { pipe with
        readPending := true
        readReady := false
        unread := rest
        readStatus := .stored client octets
        taken := pipe.taken ++ [(client, octets)] }⟩ where
  exclusive := fun _ => rfl
  single := fun reading => absurd reading (by
    have none := kept.idle (kept.unwanted wanted)
    exact Nat.not_lt_of_le (Nat.le_of_eq none))
  stored := fun owner stored status => by
    cases status
    exact Or.inl occupied
  decoding := fun owner bytes here => by cases here

theorem readKept_readStarted {index : Nat} {pipe : ControlPipe longBits}
    (kept : ReadKept ⟨some .reads, pipe⟩) (wanted : pipe.readReady = true)
    (occupied : pipe.client ≠ none) :
    ReadKept ⟨Move.nextRead.stageAt index,
      { pipe with
        readPending := true
        readReady := false
        readStatus := .pending
        readsInFlight := pipe.readsInFlight + 1 }⟩ where
  exclusive := fun _ => rfl
  single := fun _ => by
    have none : pipe.readsInFlight = 0 := kept.idle (kept.unwanted wanted)
    exact ⟨congrArg Nat.succ none, rfl, rfl, occupied⟩
  stored := fun owner stored status => by cases status
  decoding := fun owner bytes here => by cases here

theorem readKept_disconnected {meant : Nat} {resume : Resume} {pipe : ControlPipe longBits}
    (kept : ReadKept ⟨some (.disconnect meant resume), pipe⟩) (succeeded : Bool) :
    ReadKept ⟨some (.connect meant resume), pipe.disconnected succeeded⟩ := by
  cases succeeded with
  | false => exact kept.elsewhere id fun client bytes here => by cases here
  | true =>
      exact {
        exclusive := kept.exclusive
        single := fun reading => absurd reading (Nat.lt_irrefl 0)
        stored := fun client octets status => Or.inr ⟨rfl, trivial⟩
        decoding := fun client bytes here => by cases here }

theorem readKept_connected {stage : Option Stage} {meant : Nat} {resume : Resume}
    {pipe : ControlPipe longBits}
    {connection : Connection} {readReady writeReady : Bool}
    (kept : ReadKept ⟨some (.connect meant resume), pipe⟩)
    (connects : connection = pipe.connection ∨ (pipe.client = none ∧ connection = .listening))
    (flags : (readReady = pipe.readReady ∧ writeReady = pipe.writeReady) ∨
      (readReady = false ∧ writeReady = false))
    (away : forall client bytes, stage ≠ some (.decode client bytes)) :
    ReadKept ⟨stage,
      { pipe with
        connection := connection
        readStatus := .pending
        readReady := readReady
        writeReady := writeReady }⟩ where
  exclusive := fun awaited => by
    rcases flags with ⟨same, _⟩ | ⟨cleared, _⟩
    · exact same.trans (kept.exclusive awaited)
    · exact cleared
  single := fun reading => by
    rcases kept.single reading with ⟨one, awaited, _, occupied⟩
    exact ⟨one, awaited, rfl, fun free => occupied ((client_of_connects connects).symm.trans free)⟩
  stored := fun client octets status => by cases status
  decoding := fun client bytes here => absurd here (away client bytes)

theorem readKept_messageRead {client : Nat} {octets : Octets} {pipe : ControlPipe longBits}
    (kept : ReadKept ⟨some .readCompletion, pipe⟩) (awaited : pipe.readPending = true)
    (status : pipe.readStatus = .stored client octets) (some_ : 0 < octets.length) :
    ReadKept ⟨some (.decode client octets.length), { pipe with readPending := false }⟩ := by
  have owned : pipe.client = some client :=
    (kept.stored client octets status).elim id fun waiting => False.elim waiting.2
  have done : pipe.readsInFlight = 0 :=
    kept.finished (by rw [status]; exact fun same => by cases same)
  exact {
    exclusive := fun pending => by cases pending
    single := fun reading => absurd reading (Nat.not_lt_of_le (Nat.le_of_eq done))
    stored := fun owner stored same => Or.inl
      ((kept.stored owner stored same).elim id fun waiting => False.elim waiting.2)
    decoding := fun owner bytes here => by
      cases here
      exact ⟨rfl, kept.exclusive awaited, owned, octets, status, rfl, some_⟩ }

/-- A completion after which the loop may read again. -/
theorem readKept_again {index : Nat} {stage : Stage} {pipe next : ControlPipe longBits}
    (kept : ReadKept ⟨some stage, pipe⟩) (settled : ¬Stage.Connecting (some stage))
    (done : pipe.readsInFlight = 0) (unawaited : next.readPending = false)
    (readsInFlight : next.readsInFlight = pipe.readsInFlight)
    (readStatus : next.readStatus = pipe.readStatus) (client : next.client = pipe.client) :
    ReadKept ⟨Move.turnEnd.stageAt index, next⟩ where
  exclusive := fun pending => by
    have contrary : next.readPending = true := pending
    rw [unawaited] at contrary
    cases contrary
  single := fun reading => by
    have some : 0 < next.readsInFlight := reading
    rw [readsInFlight, done] at some
    exact absurd some (Nat.lt_irrefl 0)
  stored := fun owner octets status => by
    have before : pipe.readStatus = .stored owner octets := readStatus.symm.trans status
    exact Or.inl (client.trans
      ((kept.stored owner octets before).elim id fun waiting => absurd waiting.2 settled))
  decoding := fun owner bytes here => by cases here

theorem readKept_advanced {index : Nat} {input : Octets}
    {pipe next : ControlPipe platform.longBits} {stage : Stage}
    {supplied : LoopInput platform.longBits} {move : Move}
    (advanced : pipe.Advanced platform input stage supplied next move)
    (kept : ReadKept ⟨some stage, pipe⟩) : ReadKept ⟨move.stageAt index, next⟩ := by
  have unchanged : SameReads pipe pipe := ⟨rfl, rfl, rfl, rfl, rfl, id⟩
  cases advanced with
  | readUnwanted => exact kept.moves id unchanged fun client bytes here => by cases here
  | readCompleted wanted occupied _ _ => exact readKept_readCompleted kept wanted occupied _
  | readStarted wanted occupied => exact readKept_readStarted kept wanted occupied
  | ready =>
      split
      · exact kept.moves id unchanged fun client bytes here => by cases here
      · exact kept.moves id unchanged fun client bytes here => by cases here
  | nonEmpty =>
      split
      · exact kept.moves id unchanged fun client bytes here => by cases here
      · exact kept.moves id unchanged fun client bytes here => by cases here
  | disconnected succeeded => exact readKept_disconnected kept succeeded
  | connected connects flags moves =>
      refine readKept_connected kept connects flags fun client bytes here => ?_
      rcases moves with rfl | rfl | rfl
      · cases here
      · cases here
      · cases here
  | messageRead awaited status some => exact readKept_messageRead kept awaited status some
  | nothingRead awaited status =>
      have done : pipe.readsInFlight = 0 := by
        refine kept.finished ?_
        rcases status with connected | ⟨client, empty⟩
        · rw [connected]
          exact fun same => by cases same
        · rw [empty]
          exact fun same => by cases same
      exact readKept_again kept id done rfl rfl rfl rfl
  | readUnawaited unawaited =>
      exact readKept_again kept id (kept.idle unawaited) unawaited rfl rfl rfl
  | received decodes =>
      have unawaited := (kept.decoding _ _ rfl).1
      exact readKept_again kept id (kept.idle unawaited) unawaited rfl rfl rfl
  | _ =>
      exact kept.moves id ⟨rfl, rfl, rfl, rfl, rfl, id⟩ fun client bytes here => by cases here

/-- The last read in flight ends. -/
theorem readKept_ends {stage : Option Stage} {pipe next : ControlPipe longBits}
    (kept : ReadKept ⟨stage, pipe⟩) (reading : 0 < pipe.readsInFlight)
    (readReady : next.readReady = pipe.readReady) (readPending : next.readPending = pipe.readPending)
    (readsInFlight : next.readsInFlight = pipe.readsInFlight - 1)
    (owned : forall client octets, next.readStatus = .stored client octets ->
      next.client = some client) : ReadKept ⟨stage, next⟩ where
  exclusive := fun awaited =>
    readReady.trans (kept.exclusive (readPending.symm.trans awaited))
  single := fun some => by
    have one : pipe.readsInFlight = 1 := (kept.single reading).1
    have more : 0 < next.readsInFlight := some
    rw [readsInFlight, one] at more
    exact absurd more (Nat.lt_irrefl 0)
  stored := fun client octets status => Or.inl (owned client octets status)
  decoding := fun client bytes here => by
    have awaited : pipe.readPending = true := (kept.single reading).2.1
    have unawaited : pipe.readPending = false := (kept.decoding client bytes here).1
    rw [awaited] at unawaited
    cases unawaited

/-- A client connects to a pipe that nobody occupied. -/
theorem readKept_connects {stage : Option Stage} {pipe : ControlPipe longBits} {clients : Nat}
    {status : ReadStatus} (kept : ReadKept ⟨stage, pipe⟩)
    (free : pipe.connection = .created ∨ pipe.connection = .listening)
    (statuses : status = pipe.readStatus ∨ status = .connected) :
    ReadKept ⟨stage,
      { pipe with connection := .connected clients, readStatus := status }⟩ := by
  have nobody : pipe.client = none := by
    rcases free with created | listening
    · rw [ControlPipe.client, created]
      rfl
    · rw [ControlPipe.client, listening]
      rfl
  have still : pipe.connection ≠ .disconnected := by
    rcases free with created | listening
    · rw [created]
      exact fun same => by cases same
    · rw [listening]
      exact fun same => by cases same
  exact {
    exclusive := kept.exclusive
    single := fun reading => absurd nobody (kept.single reading).2.2.2
    stored := fun client octets stored => by
      rcases statuses with same | connected
      · rcases kept.stored client octets (same.symm.trans stored) with owned | waiting
        · have occupied : pipe.client = some client := owned
          rw [nobody] at occupied
          cases occupied
        · exact absurd waiting.1 still
      · rw [connected] at stored
        cases stored
    decoding := fun client bytes here => by
      have occupied : pipe.client = some client := (kept.decoding client bytes here).2.2.1
      rw [nobody] at occupied
      cases occupied }

theorem readKept_occurred {clients : Nat} {stage : Option Stage}
    {pipe next : ControlPipe longBits} {event : PipeEvent}
    (occurred : pipe.Occurred clients event next) (kept : ReadKept ⟨stage, pipe⟩) :
    ReadKept ⟨stage, next⟩ := by
  cases occurred with
  | stored reading occupied _ _ =>
      refine readKept_ends kept reading rfl rfl rfl fun client octets status => ?_
      cases status
      exact occupied
  | overflowed reading _ _ _ =>
      exact readKept_ends kept reading rfl rfl rfl fun client octets status => by cases status
  | readFailed reading =>
      exact readKept_ends kept reading rfl rfl rfl fun client octets status => by cases status
  | writeCompleted writing => exact kept.same ⟨rfl, rfl, rfl, rfl, rfl, id⟩
  | clientConnected created => exact readKept_connects kept (Or.inl created) (Or.inl rfl)
  | connectCompleted listening => exact readKept_connects kept (Or.inr listening) (Or.inr rfl)
  | clientSent open_ => exact kept.same ⟨rfl, rfl, rfl, rfl, rfl, id⟩
  | clientClosed open_ =>
      refine kept.same ⟨rfl, rfl, rfl, rfl, ?_, fun contrary => ?_⟩
      · rw [ControlPipe.client, ControlPipe.client, open_]
        rfl
      · rw [open_] at contrary
        cases contrary

theorem readKept_entry {stage : Stage} {pipe : ControlPipe longBits}
    (entry : stage.Entry) (kept : ReadKept ⟨none, pipe⟩) : ReadKept ⟨some stage, pipe⟩ := by
  refine kept.elsewhere id fun client bytes here => ?_
  cases here
  exact entry

theorem readKept_step {index : Nat} {input : Octets} {clients : Nat}
    {view next : PipeView platform.longBits} {label : ServerLabel platform.longBits}
    (kept : view.ReadKept) (taken : PipeStep platform index input clients view label next) :
    next.ReadKept := by
  cases taken with
  | loop taken => exact readKept_advanced (ControlPipe.advanced_of_advance taken) kept
  | arrive entry => exact readKept_entry entry kept
  | send packed => exact kept.same ⟨rfl, rfl, rfl, rfl, rfl, id⟩
  | nextMessage taken =>
      rcases ControlPipe.dequeued_of_dequeue taken with ⟨incoming, rest, queue, rfl⟩
      exact kept.same ⟨rfl, rfl, rfl, rfl, rfl, id⟩
  | event taken => exact readKept_occurred (ControlPipe.occurred_of_occurs taken) kept

theorem readKept_create (stage : Option Stage)
    (away : forall client bytes, stage ≠ some (.decode client bytes)) :
    ReadKept ⟨stage, .create longBits⟩ where
  exclusive := fun awaited => by cases awaited
  single := fun reading => absurd reading (Nat.lt_irrefl 0)
  stored := fun client octets status => by cases status
  decoding := fun client bytes here => absurd here (away client bytes)

theorem readKept_initially {index : Nat} {view : PipeView platform.longBits}
    (start : (ControlPipe.system platform index).initial view) : view.ReadKept := by
  rcases view with ⟨stage, pipe⟩
  rcases start with ⟨fresh, at_start⟩
  have created : pipe = .create platform.longBits := fresh
  rw [created]
  refine readKept_create stage fun client bytes here => ?_
  rcases at_start with away | setup
  · cases here.symm.trans away
  · cases here.symm.trans setup

theorem readKept_reachable {index : Nat} {view : PipeView platform.longBits}
    (reachable : (ControlPipe.system platform index).Reachable view) : view.ReadKept :=
  reachable.invariant (fun _ start => readKept_initially start)
    fun _ _ _ kept ⟨_, _, taken⟩ => readKept_step kept taken

end PipeView

end EasyProspect
