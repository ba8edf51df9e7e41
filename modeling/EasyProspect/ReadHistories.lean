import EasyProspect.ControlCodec
import EasyProspect.Library.Delivery
import EasyProspect.PipeReads

namespace EasyProspect

/-!
# What becomes of what a client sends

Each message of a client is stored by a read, waits in the buffer until the loop
comes to decode it, and is pushed.  A message without octets completes a read and is
not decoded.  When a read fails, or its result is forgotten because the instance is
connected again, the loop reads no more before it disconnects the client.

What is said here of one pipe supposes that a message is decoded from the octets
that were stored of it.
-/

open Delivery

/-- The messages that are decoded. -/
def meaningful (messages : List Octets) : List Octets :=
  messages.filter fun octets => !octets.isEmpty

theorem meaningful_append (first second : List Octets) :
    meaningful (first ++ second) = meaningful first ++ meaningful second :=
  List.filter_append first second

theorem meaningful_nil_cons (messages : List Octets) :
    meaningful ([] :: messages) = meaningful messages := rfl

theorem meaningful_cons {octets : Octets} (some : 0 < octets.length) (messages : List Octets) :
    meaningful (octets :: messages) = octets :: meaningful messages := by
  refine List.filter_cons_of_pos ?_
  rw [List.isEmpty_eq_false_iff.mpr (List.length_pos_iff.mp some)]
  rfl

/-- A read that finds these octets gives this message. -/
def ControlPlatform.Decodes (platform : ControlPlatform) (octets : Octets)
    (message : ProcessMessage platform.longBits) : Prop :=
  Exists fun constructed =>
    platform.receive constructed octets octets.length = .returned message

namespace ControlPipe

variable {longBits : Nat}

def sentBy (client : Nat) (pipe : ControlPipe longBits) : List Octets :=
  (pipe.clientSent.filter fun entry => entry.1 = client).map Prod.snd

def pushedFrom (client : Nat) (pipe : ControlPipe longBits) : List (ProcessMessage longBits) :=
  (pipe.pushed.filter fun incoming => incoming.sender = client).map Incoming.message

theorem sentBy_of_send {pipe next : ControlPipe longBits} {sender : Nat} {octets : Octets}
    (sent : next.clientSent = pipe.clientSent ++ [(sender, octets)]) (client : Nat) :
    next.sentBy client = pipe.sentBy client ++ if sender = client then [octets] else [] := by
  unfold sentBy
  rw [sent, List.filter_append, List.map_append]
  by_cases same : sender = client
  · simp only [same, decide_true, List.filter_cons_of_pos, List.filter_nil, List.map_cons,
      List.map_nil, if_true]
  · simp only [same, decide_false, Bool.false_eq_true, not_false_eq_true,
      List.filter_cons_of_neg, List.filter_nil, List.map_nil, if_false]

theorem pushedFrom_of_push {pipe next : ControlPipe longBits} {incoming : Incoming longBits}
    (pushed : next.pushed = pipe.pushed ++ [incoming]) (client : Nat) :
    next.pushedFrom client =
      pipe.pushedFrom client ++ if incoming.sender = client then [incoming.message] else [] := by
  unfold pushedFrom
  rw [pushed, List.filter_append, List.map_append]
  by_cases same : incoming.sender = client
  · simp only [same, decide_true, List.filter_cons_of_pos, List.filter_nil, List.map_cons,
      List.map_nil, if_true]
  · simp only [same, decide_false, Bool.false_eq_true, not_false_eq_true,
      List.filter_cons_of_neg, List.filter_nil, List.map_nil, if_false]

end ControlPipe

/-- The loop has taken the result of a read and decodes it next. -/
def Stage.decodes : Option Stage -> Bool
  | some (.decode _ _) => true
  | _ => false

/-- The clients that connect in a step. -/
def ServerLabel.connects {longBits : Nat} : ServerLabel longBits -> Nat
  | .pipe _ event => if event = .clientConnects then 1 else 0
  | _ => 0

namespace PipeView

variable {longBits : Nat}

/-- The octets that a read has stored and that are not decoded yet. -/
def undecoded (view : PipeView longBits) : Octets :=
  match view.pipe.readStatus with
  | .stored _ octets =>
      if view.pipe.readPending || Stage.decodes view.stage then octets else []
  | _ => []

/-- What the client that occupies the pipe has sent and what is still to be decoded. -/
def waiting (view : PipeView longBits) : List Octets :=
  meaningful (view.undecoded :: view.pipe.unread)

/-- The loop waits for a read that is no longer in flight and has stored nothing. -/
structure Stalled (view : PipeView longBits) : Prop where
  awaited : view.pipe.readPending = true
  ended : view.pipe.readsInFlight = 0
  status : view.pipe.readStatus = .pending ∨ view.pipe.readStatus = .failed

structure HistoryKept (platform : ControlPlatform) (view : PipeView platform.longBits)
    (clients : Nat) : Prop where
  known : forall entry, entry ∈ view.pipe.clientSent -> entry.1 < clients
  present : forall client, view.pipe.client = some client -> client < clients
  delivered : forall client, Delivered platform.Decodes
    (meaningful (view.pipe.sentBy client)) (view.pipe.pushedFrom client)
  following : forall client, view.pipe.client = some client -> view.Stalled ∨
    Awaiting platform.Decodes (meaningful (view.pipe.sentBy client)) view.waiting
      (view.pipe.pushedFrom client)
  discarded : view.pipe.client = none -> view.pipe.unread = []

theorem undecoded_of_unawaited {view : PipeView longBits}
    (unawaited : view.pipe.readPending = false) (elsewhere : Stage.decodes view.stage = false) :
    view.undecoded = [] := by
  unfold undecoded
  rw [unawaited, elsewhere]
  split <;> rfl

theorem undecoded_of_status {view : PipeView longBits}
    (nothing : forall client octets, view.pipe.readStatus ≠ .stored client octets) :
    view.undecoded = [] := by
  unfold undecoded
  split
  · rename_i client octets status
    exact absurd status (nothing client octets)
  · rfl

theorem undecoded_of_stored {view : PipeView longBits} {client : Nat} {octets : Octets}
    (status : view.pipe.readStatus = .stored client octets)
    (awaited : view.pipe.readPending = true ∨ Stage.decodes view.stage = true) :
    view.undecoded = octets := by
  unfold undecoded
  rw [status]
  exact if_pos (Bool.or_eq_true_iff.mpr awaited)

theorem waiting_of_undecoded {view : PipeView longBits} (nothing : view.undecoded = []) :
    view.waiting = meaningful view.pipe.unread := by
  rw [waiting, nothing, meaningful_nil_cons]

theorem not_stalled_of_unawaited {view : PipeView longBits}
    (unawaited : view.pipe.readPending = false) : ¬view.Stalled := by
  intro stalled
  have awaited := stalled.awaited
  rw [unawaited] at awaited
  cases awaited

variable {platform : ControlPlatform} {view next : PipeView platform.longBits} {clients : Nat}

theorem HistoryKept.later (kept : HistoryKept platform view clients) {more : Nat}
    (grows : clients ≤ more) : HistoryKept platform view more where
  known := fun entry member => Nat.lt_of_lt_of_le (kept.known entry member) grows
  present := fun client occupied => Nat.lt_of_lt_of_le (kept.present client occupied) grows
  delivered := kept.delivered
  following := kept.following
  discarded := kept.discarded

/-- Nothing is sent or pushed, and what waits is the same or is lost. -/
theorem HistoryKept.moves (kept : HistoryKept platform view clients)
    (clientSent : next.pipe.clientSent = view.pipe.clientSent)
    (pushed : next.pipe.pushed = view.pipe.pushed)
    (client : next.pipe.client = view.pipe.client)
    (discarded : view.pipe.client = none -> next.pipe.unread = view.pipe.unread)
    (follows : next.Stalled ∨ (¬view.Stalled ∧ next.waiting = view.waiting)) :
    HistoryKept platform next clients where
  known := by
    rw [clientSent]
    exact kept.known
  present := by
    rw [client]
    exact kept.present
  delivered := by
    unfold ControlPipe.sentBy ControlPipe.pushedFrom
    rw [clientSent, pushed]
    exact kept.delivered
  following := fun occupant occupied => by
    rcases follows with lost | ⟨flows, waits⟩
    · exact Or.inl lost
    · refine Or.inr ?_
      unfold ControlPipe.sentBy ControlPipe.pushedFrom
      rw [clientSent, pushed, waits]
      exact (kept.following occupant (client.symm.trans occupied)).resolve_left flows
  discarded := fun free => by
    have nobody := client.symm.trans free
    rw [discarded nobody]
    exact kept.discarded nobody

/-- Nothing that the reads depend on changes. -/
theorem HistoryKept.same (kept : HistoryKept platform view clients)
    (clientSent : next.pipe.clientSent = view.pipe.clientSent)
    (pushed : next.pipe.pushed = view.pipe.pushed)
    (client : next.pipe.client = view.pipe.client)
    (unread : next.pipe.unread = view.pipe.unread)
    (readPending : next.pipe.readPending = view.pipe.readPending)
    (readsInFlight : next.pipe.readsInFlight = view.pipe.readsInFlight)
    (readStatus : next.pipe.readStatus = view.pipe.readStatus)
    (decodes : Stage.decodes next.stage = Stage.decodes view.stage) :
    HistoryKept platform next clients := by
  refine kept.moves clientSent pushed client (fun _ => unread) ?_
  by_cases stalled : view.Stalled
  · refine Or.inl ⟨readPending.trans stalled.awaited, readsInFlight.trans stalled.ended, ?_⟩
    rw [readStatus]
    exact stalled.status
  · refine Or.inr ⟨stalled, ?_⟩
    unfold waiting undecoded
    rw [unread, readStatus, readPending, decodes]

/-- The pipe is left without a client. -/
theorem HistoryKept.vacates (kept : HistoryKept platform view clients)
    (clientSent : next.pipe.clientSent = view.pipe.clientSent)
    (pushed : next.pipe.pushed = view.pipe.pushed)
    (free : next.pipe.client = none) (discarded : next.pipe.unread = []) :
    HistoryKept platform next clients where
  known := by
    rw [clientSent]
    exact kept.known
  present := fun client occupied => by cases free.symm.trans occupied
  delivered := by
    unfold ControlPipe.sentBy ControlPipe.pushedFrom
    rw [clientSent, pushed]
    exact kept.delivered
  following := fun client occupied => by cases free.symm.trans occupied
  discarded := fun _ => discarded

/-- The loop decodes the octets that were stored and pushes the message. -/
theorem historyKept_received {stage : Option Stage} {input : Octets}
    {pipe pushes : ControlPipe platform.longBits} {client bytes : Nat}
    {constructed : ControlPlatform.Constructed platform.longBits}
    {message : ProcessMessage platform.longBits}
    (decodes : platform.receive constructed input bytes = .returned message)
    (reads : ReadKept ⟨some (.decode client bytes), pipe⟩)
    (intact : undecoded ⟨some (.decode client bytes), pipe⟩ <+: input)
    (kept : HistoryKept platform ⟨some (.decode client bytes), pipe⟩ clients)
    (leaves : Stage.decodes stage = false) (readPending : pushes.readPending = pipe.readPending)
    (clientSent : pushes.clientSent = pipe.clientSent) (occupant : pushes.client = pipe.client)
    (unread : pushes.unread = pipe.unread)
    (pushed : pushes.pushed = pipe.pushed ++ [⟨client, message⟩]) :
    HistoryKept platform ⟨stage, pushes⟩ clients := by
  rcases reads.decoding client bytes rfl with ⟨unawaited, _, owned, octets, status, length, present⟩
  have here : undecoded ⟨some (.decode client bytes), pipe⟩ = octets :=
    undecoded_of_stored status (Or.inr rfl)
  have becomes : platform.Decodes octets message := by
    have taken : input.take octets.length = octets :=
      (List.prefix_iff_eq_take.mp (here ▸ intact)).symm
    rw [ControlPlatform.receive_take, ← length, taken] at decodes
    exact ⟨constructed, decodes⟩
  have followed := (kept.following client owned).resolve_left (not_stalled_of_unawaited unawaited)
  rw [waiting, here, meaningful_cons (length ▸ present)] at followed
  have handled := followed.handle becomes
  have own : pushes.pushedFrom client = pipe.pushedFrom client ++ [message] := by
    rw [ControlPipe.pushedFrom_of_push pushed, if_pos rfl]
  have sent (other : Nat) : pushes.sentBy other = pipe.sentBy other := by
    rw [ControlPipe.sentBy, ControlPipe.sentBy, clientSent]
  have nothing : undecoded ⟨stage, pushes⟩ = [] :=
    undecoded_of_unawaited (readPending.trans unawaited) leaves
  have waits : waiting ⟨stage, pushes⟩ = meaningful pipe.unread :=
    (waiting_of_undecoded nothing).trans (congrArg meaningful unread)
  refine ⟨fun entry member => kept.known entry (clientSent ▸ member),
    fun other occupied => kept.present other (occupant.symm.trans occupied),
    fun other => ?_, fun other occupied => Or.inr ?_, fun free => ?_⟩
  · by_cases same : client = other
    · subst same
      rw [own, sent]
      exact handled.delivered
    · have others : pushes.pushedFrom other = pipe.pushedFrom other := by
        rw [ControlPipe.pushedFrom_of_push pushed, if_neg same, List.append_nil]
      rw [others, sent]
      exact kept.delivered other
  · have same : client = other :=
      Option.some.inj (owned.symm.trans (occupant.symm.trans occupied))
    subst same
    rw [own, sent, waits]
    exact handled
  · cases owned.symm.trans (occupant.symm.trans free)

/-- `ConnectNamedPipe` forgets the result of a read that the loop waits for. -/
theorem historyKept_connected {stage : Option Stage} {meant : Nat} {resume : Resume}
    {pipe : ControlPipe platform.longBits} {connection : Connection}
    {readReady writeReady : Bool}
    (connects : connection = pipe.connection ∨ (pipe.client = none ∧ connection = .listening))
    (reads : ReadKept ⟨some (.connect meant resume), pipe⟩)
    (kept : HistoryKept platform ⟨some (.connect meant resume), pipe⟩ clients) :
    HistoryKept platform ⟨stage,
      { pipe with
        connection := connection
        readStatus := .pending
        readReady := readReady
        writeReady := writeReady }⟩ clients := by
  refine kept.moves rfl rfl (client_of_connects connects) (fun _ => rfl) ?_
  have after : undecoded ⟨stage,
      { pipe with
        connection := connection
        readStatus := .pending
        readReady := readReady
        writeReady := writeReady }⟩ = [] :=
    undecoded_of_status fun client octets status => by cases status
  have keeps (before : undecoded ⟨some (.connect meant resume), pipe⟩ = []) :=
    (waiting_of_undecoded after).trans (waiting_of_undecoded before).symm
  by_cases awaited : pipe.readPending = true
  · by_cases reading : 0 < pipe.readsInFlight
    · refine Or.inr ⟨fun stalled => absurd stalled.ended (Nat.ne_of_gt reading), keeps ?_⟩
      refine undecoded_of_status fun client octets stored => ?_
      have status : pipe.readStatus = .pending := (reads.single reading).2.2.1
      cases status.symm.trans stored
    · exact Or.inl ⟨awaited, Nat.eq_zero_of_not_pos reading, Or.inl rfl⟩
  · have unawaited : pipe.readPending = false := Bool.eq_false_iff.mpr awaited
    exact Or.inr ⟨not_stalled_of_unawaited unawaited, keeps (undecoded_of_unawaited unawaited rfl)⟩

/-- A `ReadFile` that completes at once stores the next message. -/
theorem historyKept_readCompleted {index client : Nat} {octets : Octets} {rest : List Octets}
    {pipe : ControlPipe platform.longBits} (unawaited : pipe.readPending = false)
    (occupied : pipe.client = some client) (unread : pipe.unread = octets :: rest)
    (kept : HistoryKept platform ⟨some .reads, pipe⟩ clients) :
    HistoryKept platform ⟨Move.nextRead.stageAt index,
      { pipe with
        readPending := true
        readReady := false
        unread := rest
        readStatus := .stored client octets
        taken := pipe.taken ++ [(client, octets)] }⟩ clients := by
  refine kept.moves rfl rfl rfl (fun free => ?_)
    (Or.inr ⟨not_stalled_of_unawaited unawaited, ?_⟩)
  · cases occupied.symm.trans free
  · have before : undecoded ⟨some .reads, pipe⟩ = [] := undecoded_of_unawaited unawaited rfl
    rw [waiting_of_undecoded before, unread]
    rfl

/-- What a read has stored goes on to be decoded. -/
theorem historyKept_messageRead {client : Nat} {octets : Octets}
    {pipe : ControlPipe platform.longBits} (awaited : pipe.readPending = true)
    (status : pipe.readStatus = .stored client octets)
    (kept : HistoryKept platform ⟨some .readCompletion, pipe⟩ clients) :
    HistoryKept platform ⟨some (.decode client octets.length),
      { pipe with readPending := false }⟩ clients := by
  refine kept.moves rfl rfl rfl (fun _ => rfl) (Or.inr ⟨fun stalled => ?_, ?_⟩)
  · rcases stalled.status with pending | failed
    · cases status.symm.trans pending
    · cases status.symm.trans failed
  · have before : undecoded ⟨some .readCompletion, pipe⟩ = octets :=
      undecoded_of_stored status (Or.inl awaited)
    have after : undecoded ⟨some (.decode client octets.length),
        { pipe with readPending := false }⟩ = octets :=
      undecoded_of_stored status (Or.inr rfl)
    exact congrArg (fun octets => meaningful (octets :: pipe.unread)) (after.trans before.symm)

/-- A read or a connect ends without octets. -/
theorem historyKept_nothingRead {index : Nat} {pipe : ControlPipe platform.longBits}
    (awaited : pipe.readPending = true)
    (status : pipe.readStatus = .connected ∨
      Exists fun client => pipe.readStatus = .stored client [])
    (kept : HistoryKept platform ⟨some .readCompletion, pipe⟩ clients) :
    HistoryKept platform ⟨Move.turnEnd.stageAt index,
      { pipe with readPending := false, readReady := true }⟩ clients := by
  have before : undecoded ⟨some .readCompletion, pipe⟩ = [] := by
    rcases status with connected | ⟨client, stored⟩
    · exact undecoded_of_status fun client octets stored => by
        cases connected.symm.trans stored
    · exact undecoded_of_stored stored (Or.inl awaited)
  have after : undecoded ⟨Move.turnEnd.stageAt index,
      { pipe with readPending := false, readReady := true }⟩ = [] :=
    undecoded_of_unawaited rfl rfl
  refine kept.moves rfl rfl rfl (fun _ => rfl) (Or.inr ⟨fun stalled => ?_, ?_⟩)
  · rcases status with connected | ⟨client, stored⟩
    · rcases stalled.status with pending | failed
      · cases connected.symm.trans pending
      · cases connected.symm.trans failed
    · rcases stalled.status with pending | failed
      · cases stored.symm.trans pending
      · cases stored.symm.trans failed
  · exact (waiting_of_undecoded after).trans (waiting_of_undecoded before).symm

theorem historyKept_advanced {index : Nat} {input : Octets}
    {pipe next : ControlPipe platform.longBits} {stage : Stage}
    {supplied : LoopInput platform.longBits} {move : Move}
    (advanced : pipe.Advanced platform input stage supplied next move)
    (reads : ReadKept ⟨some stage, pipe⟩) (intact : undecoded ⟨some stage, pipe⟩ <+: input)
    (kept : HistoryKept platform ⟨some stage, pipe⟩ clients) :
    HistoryKept platform ⟨move.stageAt index, next⟩ clients := by
  cases advanced with
  | readCompleted wanted occupied unread fits =>
      exact historyKept_readCompleted (reads.unwanted wanted) occupied unread kept
  | readStarted wanted occupied =>
      have unawaited := reads.unwanted wanted
      refine kept.moves rfl rfl rfl (fun _ => rfl)
        (Or.inr ⟨not_stalled_of_unawaited unawaited, ?_⟩)
      have before : undecoded ⟨some .reads, pipe⟩ = [] := undecoded_of_unawaited unawaited rfl
      exact (waiting_of_undecoded before).symm
  | ready =>
      refine kept.same rfl rfl rfl rfl rfl rfl rfl ?_
      split <;> rfl
  | nonEmpty =>
      refine kept.same rfl rfl rfl rfl rfl rfl rfl ?_
      split <;> rfl
  | disconnected succeeded =>
      cases succeeded with
      | true => exact kept.vacates rfl rfl rfl rfl
      | false => exact kept.same rfl rfl rfl rfl rfl rfl rfl rfl
  | connected connects flags moves => exact historyKept_connected connects reads kept
  | messageRead awaited status present => exact historyKept_messageRead awaited status kept
  | nothingRead awaited status => exact historyKept_nothingRead awaited status kept
  | received decodes =>
      exact historyKept_received decodes reads intact kept rfl rfl rfl rfl rfl rfl
  | _ => exact kept.same rfl rfl rfl rfl rfl rfl rfl rfl

/-- A read in flight ends with or without data. -/
theorem historyKept_ends {stage : Option Stage} {pipe next : ControlPipe platform.longBits}
    (reading : 0 < pipe.readsInFlight) (reads : ReadKept ⟨stage, pipe⟩)
    (kept : HistoryKept platform ⟨stage, pipe⟩ clients)
    (clientSent : next.clientSent = pipe.clientSent) (pushed : next.pushed = pipe.pushed)
    (client : next.client = pipe.client) (readPending : next.readPending = pipe.readPending)
    (readsInFlight : next.readsInFlight = pipe.readsInFlight - 1)
    (ends : next.readStatus = .failed ∨ Exists fun client => Exists fun octets =>
      pipe.unread = octets :: next.unread ∧ next.readStatus = .stored client octets) :
    HistoryKept platform ⟨stage, next⟩ clients := by
  rcases reads.single reading with ⟨one, awaited, status, occupied⟩
  refine kept.moves clientSent pushed client (fun free => absurd free occupied) ?_
  rcases ends with failed | ⟨owner, octets, unread, stored⟩
  · refine Or.inl ⟨readPending.trans awaited, ?_, Or.inr failed⟩
    have none : pipe.readsInFlight - 1 = 0 := by
      have single : pipe.readsInFlight = 1 := one
      rw [single]
    exact readsInFlight.trans none
  · refine Or.inr ⟨fun stalled => absurd stalled.ended (Nat.ne_of_gt reading), ?_⟩
    have before : undecoded ⟨stage, pipe⟩ = [] := by
      refine undecoded_of_status fun client octets stored => ?_
      cases status.symm.trans stored
    have after : undecoded ⟨stage, next⟩ = octets :=
      undecoded_of_stored stored (Or.inl (readPending.trans awaited))
    rw [waiting_of_undecoded before]
    show meaningful (undecoded ⟨stage, next⟩ :: next.unread) = meaningful pipe.unread
    rw [after, unread]

/-- A client connects to a pipe that nobody occupied, and has not sent anything. -/
theorem historyKept_connects {stage : Option Stage} {pipe next : ControlPipe platform.longBits}
    (free : pipe.client = none) (kept : HistoryKept platform ⟨stage, pipe⟩ clients)
    (clientSent : next.clientSent = pipe.clientSent) (pushed : next.pushed = pipe.pushed)
    (unread : next.unread = pipe.unread) (client : next.client = some clients)
    (nothing : undecoded ⟨stage, next⟩ = []) :
    HistoryKept platform ⟨stage, next⟩ (clients + 1) := by
  have delivered : forall other, Delivered platform.Decodes (meaningful (next.sentBy other))
      (next.pushedFrom other) := by
    unfold ControlPipe.sentBy ControlPipe.pushedFrom
    rw [clientSent, pushed]
    exact kept.delivered
  have unsent : next.sentBy clients = [] := by
    unfold ControlPipe.sentBy
    rw [clientSent, List.map_eq_nil_iff, List.filter_eq_nil_iff]
    intro entry member same
    have old : entry.1 < clients := kept.known entry member
    rw [of_decide_eq_true same] at old
    exact absurd old (Nat.lt_irrefl clients)
  have unpushed : next.pushedFrom clients = [] := by
    have first := delivered clients
    rw [unsent] at first
    exact first.eq_nil
  have waits : waiting ⟨stage, next⟩ = [] := by
    have discarded : pipe.unread = [] := kept.discarded free
    rw [waiting_of_undecoded nothing]
    exact congrArg meaningful (unread.trans discarded)
  refine ⟨fun entry member => Nat.lt_succ_of_lt (kept.known entry (clientSent ▸ member)),
    fun other occupied => ?_, delivered, fun other occupied => Or.inr ?_, fun empty => ?_⟩
  · exact Nat.lt_succ_of_le (Nat.le_of_eq (Option.some.inj (client.symm.trans occupied)).symm)
  · have same : clients = other := Option.some.inj (client.symm.trans occupied)
    subst same
    rw [unsent, unpushed, waits]
    exact .start
  · cases client.symm.trans empty

/-- The client that occupies the pipe sends a message. -/
theorem historyKept_sends {stage : Option Stage} {pipe next : ControlPipe platform.longBits}
    {client : Nat} {octets : Octets} (occupied : pipe.client = some client)
    (kept : HistoryKept platform ⟨stage, pipe⟩ clients)
    (clientSent : next.clientSent = pipe.clientSent ++ [(client, octets)])
    (pushed : next.pushed = pipe.pushed) (occupant : next.client = pipe.client)
    (unread : next.unread = pipe.unread ++ [octets])
    (readPending : next.readPending = pipe.readPending)
    (readsInFlight : next.readsInFlight = pipe.readsInFlight)
    (readStatus : next.readStatus = pipe.readStatus) :
    HistoryKept platform ⟨stage, next⟩ clients := by
  have pushes (other : Nat) : next.pushedFrom other = pipe.pushedFrom other := by
    rw [ControlPipe.pushedFrom, ControlPipe.pushedFrom, pushed]
  have waits : waiting ⟨stage, next⟩ = waiting ⟨stage, pipe⟩ ++ meaningful [octets] := by
    unfold waiting undecoded
    rw [readStatus, readPending, unread, ← meaningful_append]
    rfl
  refine ⟨fun entry member => ?_, fun other holds => kept.present other (occupant.symm.trans holds),
    fun other => ?_, fun other holds => ?_, fun free => ?_⟩
  · have split : entry ∈ pipe.clientSent ++ [(client, octets)] := clientSent ▸ member
    rcases List.mem_append.mp split with old | new
    · exact kept.known entry old
    · rw [List.mem_singleton.mp new]
      exact kept.present client occupied
  · rw [pushes, ControlPipe.sentBy_of_send clientSent, meaningful_append]
    exact (kept.delivered other).offer _
  · have same : client = other :=
      Option.some.inj (occupied.symm.trans (occupant.symm.trans holds))
    rcases kept.following other (occupant.symm.trans holds) with stalled | followed
    · refine Or.inl ⟨readPending.trans stalled.awaited, readsInFlight.trans stalled.ended, ?_⟩
      show next.readStatus = .pending ∨ next.readStatus = .failed
      rw [readStatus]
      exact stalled.status
    · refine Or.inr ?_
      rw [pushes, ControlPipe.sentBy_of_send clientSent, if_pos same, meaningful_append, waits]
      exact followed.offer _
  · cases occupied.symm.trans (occupant.symm.trans free)

theorem historyKept_occurred {stage : Option Stage} {pipe next : ControlPipe platform.longBits}
    {event : PipeEvent} (occurred : pipe.Occurred clients event next)
    (reads : ReadKept ⟨stage, pipe⟩) (kept : HistoryKept platform ⟨stage, pipe⟩ clients) :
    HistoryKept platform ⟨stage, next⟩ (clients + if event = .clientConnects then 1 else 0) := by
  cases occurred with
  | @stored client octets rest reading occupied unread fits =>
      exact historyKept_ends reading reads kept rfl rfl rfl rfl rfl
        (Or.inr ⟨client, octets, unread, rfl⟩)
  | overflowed reading occupied unread long =>
      exact historyKept_ends reading reads kept rfl rfl rfl rfl rfl (Or.inl rfl)
  | readFailed reading =>
      exact historyKept_ends reading reads kept rfl rfl rfl rfl rfl (Or.inl rfl)
  | writeCompleted writing => exact kept.same rfl rfl rfl rfl rfl rfl rfl rfl
  | clientConnected created =>
      have free : pipe.client = none := by rw [ControlPipe.client, created]; rfl
      refine historyKept_connects free kept rfl rfl rfl rfl ?_
      refine undecoded_of_status fun client octets status => ?_
      rcases reads.stored client octets status with owned | ⟨disconnected, _⟩
      · cases free.symm.trans owned
      · cases created.symm.trans disconnected
  | connectCompleted listening =>
      have free : pipe.client = none := by rw [ControlPipe.client, listening]; rfl
      refine historyKept_connects free kept rfl rfl rfl rfl ?_
      exact undecoded_of_status fun client octets status => by cases status
  | clientSent open_ =>
      have occupied : pipe.client = some _ := congrArg Connection.client open_
      exact historyKept_sends occupied kept rfl rfl rfl rfl rfl rfl rfl
  | clientClosed open_ =>
      refine kept.same rfl rfl ?_ rfl rfl rfl rfl rfl
      exact (congrArg Connection.client open_).symm

theorem historyKept_step {index : Nat} {input : Octets} {label : ServerLabel platform.longBits}
    (reads : view.ReadKept) (intact : view.undecoded <+: input)
    (kept : HistoryKept platform view clients)
    (taken : PipeStep platform index input clients view label next) :
    HistoryKept platform next (clients + label.connects) := by
  cases taken with
  | loop taken =>
      exact historyKept_advanced (ControlPipe.advanced_of_advance taken) reads intact kept
  | @arrive stage pipe label entry =>
      have same : HistoryKept platform ⟨some stage, pipe⟩ clients := by
        refine kept.same rfl rfl rfl rfl rfl rfl rfl ?_
        cases stage with
        | decode client bytes => exact False.elim entry
        | _ => rfl
      exact same.later (Nat.le_add_right clients _)
  | send packed => exact kept.same rfl rfl rfl rfl rfl rfl rfl rfl
  | nextMessage taken =>
      rcases ControlPipe.dequeued_of_dequeue taken with ⟨incoming, rest, queue, rfl⟩
      exact kept.same rfl rfl rfl rfl rfl rfl rfl rfl
  | event taken => exact historyKept_occurred (ControlPipe.occurred_of_occurs taken) reads kept

end PipeView

end EasyProspect
