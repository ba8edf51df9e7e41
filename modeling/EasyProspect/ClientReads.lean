import EasyProspect.ClientHandlers
import EasyProspect.ReadHistories
import EasyProspect.SingleOperations

namespace EasyProspect

/-!
# What becomes of what the server sends

The client reads one message after the other into one buffer.  A message of the server
waits in the pipe, is stored by a read, is decoded from the buffer and pushed.  Two
things would break this: a read that is asked for while the last one is unfinished, and a
message that is longer than the buffer, of which the rest would be read as a message of
its own.
-/

open Delivery

namespace ControlClient

/-- A client with the messages that the server has sent to it. -/
structure Traced (longBits : Nat) where
  client : ControlClient longBits
  serverSent : List Octets

namespace Traced

variable {longBits : Nat}

def create (longBits : Nat) : Traced longBits where
  client := .create longBits
  serverSent := []

/-- The messages that the server sends in a step. -/
def sentBy : ClientLabel longBits -> List Octets
  | .serverSends octets => [octets]
  | _ => []

def step (platform : ControlPlatform) (traced : Traced platform.longBits)
    (label : ClientLabel platform.longBits) : Option (Traced platform.longBits) :=
  (ControlClient.step platform traced.client label).map fun client =>
    { client := client, serverSent := traced.serverSent ++ sentBy label }

def system (platform : ControlPlatform) :
    Transition.System (Traced platform.longBits) (ClientLabel platform.longBits) :=
  .ofStep (fun traced => traced = create platform.longBits) (step platform)

/-- No write is pending when its block ends, no read is found unfinished, and no message
is longer than the buffer. -/
def inTurn (traced : Traced longBits) (label : ClientLabel longBits) : Bool :=
  operationsDone traced.client label &&
    (sentBy label).all fun octets => octets.length ≤ inputSize

end Traced

variable {platform : ControlPlatform} {longBits : Nat}

def decodes : ClientPoint longBits -> Bool
  | .decode _ => true
  | _ => false

/-- The octets that a read has stored and that are not decoded yet. -/
def undecoded (world : ControlClient longBits) : Octets :=
  match world.readStatus with
  | .stored octets => if world.readPending || decodes world.point then octets else []
  | _ => []

/-- What is still to be decoded. -/
def waiting (world : ControlClient longBits) : List Octets :=
  meaningful (world.undecoded :: world.unread)

theorem undecoded_of_unawaited {world : ControlClient longBits}
    (unawaited : world.readPending = false) (away : decodes world.point = false) :
    world.undecoded = [] := by
  unfold undecoded
  rw [unawaited, away]
  split <;> rfl

theorem undecoded_of_status {world : ControlClient longBits}
    (nothing : forall octets, world.readStatus ≠ .stored octets) : world.undecoded = [] := by
  unfold undecoded
  split
  · rename_i octets status
    exact absurd status (nothing octets)
  · rfl

theorem undecoded_of_stored {world : ControlClient longBits} {octets : Octets}
    (status : world.readStatus = .stored octets)
    (waits : world.readPending = true ∨ decodes world.point = true) :
    world.undecoded = octets := by
  unfold undecoded
  rw [status]
  exact if_pos (Bool.or_eq_true_iff.mpr waits)

theorem waiting_of_undecoded {world : ControlClient longBits} (nothing : world.undecoded = []) :
    world.waiting = meaningful world.unread := by
  rw [waiting, nothing, meaningful_nil_cons]

/-- What holds while the loop runs. -/
structure Following (platform : ControlPlatform) (traced : Traced platform.longBits) : Prop where
  wanted : traced.client.readPipe = true ->
    traced.client.point = .readCompletion ∨ traced.client.readPending = false
  decoding : forall bytes, traced.client.point = .decode bytes ->
    traced.client.readPending = false ∧
      Exists fun octets => traced.client.readStatus = .stored octets ∧ octets.length = bytes ∧
        0 < bytes
  intact : traced.client.undecoded <+: traced.client.inputBuffer
  awaiting : Awaiting platform.Decodes (meaningful traced.serverSent) traced.client.waiting
    (traced.client.received ++ pushing traced.client.point)

structure ReadsFollow (platform : ControlPlatform) (traced : Traced platform.longBits) :
    Prop where
  short : forall octets, octets ∈ traced.client.unread -> octets.length ≤ inputSize
  reads : ReadsKept traced.client
  delivered : Delivered platform.Decodes (meaningful traced.serverSent) traced.client.received
  running : traced.client.ending = none -> Following platform traced

/-! ## Single steps -/

/-- A read takes the first message as a whole. -/
theorem stores_first {world next : ControlClient platform.longBits}
    (short : forall octets, octets ∈ world.unread -> octets.length ≤ inputSize)
    (taken : step platform world .stores = some next) :
    Exists fun octets => world.unread = octets :: next.unread ∧
      next.readStatus = .stored octets := by
  unfold step at taken
  split at taken
  · cases taken
  · simp only at taken
    split at taken
    · rcases Option.map_eq_some_iff.mp taken with ⟨stored, stores, rfl⟩
      unfold store at stores
      split at stores
      · cases stores
      · rename_i octets rest unread
        have fits : octets.length ≤ inputSize := short octets (unread ▸ List.mem_cons_self)
        rw [if_pos fits] at stores
        cases stores
        exact ⟨octets, unread, rfl⟩
    · cases taken

theorem readCompleted_first {world next : ControlClient platform.longBits}
    (point : world.point = .turn) (wanted : world.readPipe = true)
    (short : forall octets, octets ∈ world.unread -> octets.length ≤ inputSize)
    (taken : step platform world (.loop (.readFile .completed)) = some next) :
    Exists fun octets => world.unread = octets :: next.unread ∧
      next.readStatus = .stored octets := by
  unfold step at taken
  split at taken
  · cases taken
  · simp only [loopStep, point, wanted, if_true, issueRead] at taken
    split at taken
    · split at taken
      · unfold store at taken
        split at taken
        · cases taken
        · rename_i octets rest unread
          have same : world.unread = octets :: rest := unread
          have fits : octets.length ≤ inputSize := short octets (same ▸ List.mem_cons_self)
          rw [if_pos fits] at taken
          cases taken
          exact ⟨octets, same, rfl⟩
      · cases taken
    · cases taken

/-- A message is decoded when its read was awaited and it has octets. -/
theorem messageRead_goes {world next : ControlClient platform.longBits} {octets : Octets}
    (point : world.point = .readCompletion) (status : world.readStatus = .stored octets)
    (taken : step platform world (.loop .step) = some next) :
    next.point = .decode octets.length ∧ world.readPending = true ∧ 0 < octets.length ∨
      next.point = .turnEnd ∧ (world.readPending = true -> octets = []) := by
  unfold step at taken
  split at taken
  · cases taken
  · simp only [loopStep, point, completeRead, status] at taken
    split at taken
    · split at taken
      · rename_i awaited
        split at taken
        · rename_i some
          cases taken
          exact Or.inl ⟨rfl, awaited, some⟩
        · rename_i none
          cases taken
          exact Or.inr ⟨rfl, fun _ => List.length_eq_zero_iff.mp (Nat.eq_zero_of_not_pos none)⟩
      · rename_i unawaited
        cases taken
        exact Or.inr ⟨rfl, fun awaited => absurd awaited unawaited⟩
    · cases taken

theorem runs_of_loop {world next : ControlClient platform.longBits}
    {input : ClientInput platform.longBits}
    (taken : step platform world (.loop input) = some next) : world.ending = none := by
  unfold step at taken
  split at taken
  · cases taken
  · exact (Option.ite_none_right_eq_some.mp taken).1

/-- Only a push adds to what has been received. -/
theorem received_stepped {world next : ControlClient platform.longBits}
    {label : ClientLabel platform.longBits} (stepped : Stepped platform world label next) :
    next.received = world.received ∨ Exists fun message =>
      world.point = .push message ∧ label = .loop .step ∧
        next.received = world.received ++ [message] := by
  cases stepped with
  | pushed point => exact Or.inr ⟨_, point, rfl, rfl⟩
  | _ => exact Or.inl rfl

/-- Nothing that the reads depend on changes, but the point may. -/
theorem Following.same {traced : Traced platform.longBits}
    (follows : Following platform traced) {next : ControlClient platform.longBits}
    (readPipe : next.readPipe = true -> traced.client.readPipe = true)
    (readPending : next.readPending = traced.client.readPending)
    (readStatus : next.readStatus = traced.client.readStatus)
    (inputBuffer : next.inputBuffer = traced.client.inputBuffer)
    (unread : next.unread = traced.client.unread)
    (received : next.received ++ pushing next.point =
      traced.client.received ++ pushing traced.client.point)
    (point : next.point = traced.client.point ∨
      traced.client.point ≠ .readCompletion ∧ decodes traced.client.point = false ∧
        decodes next.point = false) : Following platform ⟨next, traced.serverSent⟩ := by
  have decoding : decodes next.point = decodes traced.client.point := by
    rcases point with same | ⟨_, before, after⟩
    · rw [same]
    · rw [before, after]
  have undecoded : next.undecoded = traced.client.undecoded := by
    rw [ControlClient.undecoded, ControlClient.undecoded, readStatus, readPending, decoding]
  refine ⟨?_, ?_, ?_, ?_⟩
  · intro wanted
    rw [readPending]
    rcases follows.wanted (readPipe wanted) with here | unawaited
    · rcases point with same | ⟨away, _⟩
      · exact Or.inl (same.trans here)
      · exact absurd here away
    · exact Or.inr unawaited
  · intro bytes here
    have same : next.point = traced.client.point := by
      rcases point with same | ⟨_, _, after⟩
      · exact same
      · rw [here] at after
        cases after
    rw [readPending, readStatus]
    exact follows.decoding bytes (same.symm.trans here)
  · rw [undecoded, inputBuffer]
    exact follows.intact
  · rw [received, waiting, undecoded, unread]
    exact follows.awaiting

/-- A read stores the first message that is not read yet. -/
theorem Following.stores {traced : Traced platform.longBits}
    (follows : Following platform traced) {next : ControlClient platform.longBits}
    {octets : Octets} (nothing : traced.client.undecoded = [])
    (first : traced.client.unread = octets :: next.unread) (fits : octets.length ≤ inputSize)
    (status : next.readStatus = .stored octets) (awaited : next.readPending = true)
    (input : next.inputBuffer = fillInput traced.client.inputBuffer traced.client.unread)
    (wanted : next.readPipe = true -> next.point = .readCompletion)
    (away : decodes next.point = false)
    (received : next.received ++ pushing next.point =
      traced.client.received ++ pushing traced.client.point) :
    Following platform ⟨next, traced.serverSent⟩ := by
  have here : next.undecoded = octets := undecoded_of_stored status (Or.inl awaited)
  refine ⟨fun asked => Or.inl (wanted asked), ?_, ?_, ?_⟩
  · intro bytes decoding
    rw [decoding] at away
    cases away
  · rw [here, input, first, fillInput, storedPart, List.take_of_length_le fits]
    exact List.prefix_append _ _
  · have waits : next.waiting = traced.client.waiting := by
      rw [waiting, here, waiting_of_undecoded nothing, first]
    rw [received, waits]
    exact follows.awaiting

/-- A read is started, or ends without a message. -/
theorem Following.without {traced : Traced platform.longBits}
    (follows : Following platform traced) {next : ControlClient platform.longBits}
    (before : traced.client.undecoded = []) (after : next.undecoded = [])
    (unread : next.unread = traced.client.unread)
    (wanted : next.readPipe = true -> next.point = .readCompletion ∨ next.readPending = false)
    (away : decodes next.point = false)
    (received : next.received ++ pushing next.point =
      traced.client.received ++ pushing traced.client.point) :
    Following platform ⟨next, traced.serverSent⟩ := by
  refine ⟨wanted, ?_, ?_, ?_⟩
  · intro bytes decoding
    rw [decoding] at away
    cases away
  · rw [after]
    exact List.nil_prefix
  · rw [received, waiting_of_undecoded after, unread, ← waiting_of_undecoded before]
    exact follows.awaiting

theorem ends_once {world next : ControlClient platform.longBits}
    {label : ClientLabel platform.longBits} (ended : world.ending ≠ none)
    (stepped : Stepped platform world label next) : next.ending ≠ none := by
  cases stepped with
  | ended ending => exact Option.some_ne_none ending
  | readRefused point wanted => exact Option.some_ne_none _
  | poppedEmpty some queue => exact Option.some_ne_none _
  | actedBroken ending held breaks => exact Option.some_ne_none ending
  | _ => exact ended

theorem quiet_decodes {before after : ClientPoint longBits} (moves : Quiet before after) :
    decodes before = false ∧ decodes after = false := by
  cases moves <;> exact ⟨rfl, rfl⟩

theorem following_stepped {traced : Traced platform.longBits}
    {next : ControlClient platform.longBits} {label : ClientLabel platform.longBits}
    (kept : ReadsFollow platform traced) (done : operationsDone traced.client label = true)
    (own : Traced.sentBy label = [])
    (taken : ControlClient.step platform traced.client label = some next)
    (runs : traced.client.ending = none) (goes : next.ending = none) :
    Following platform ⟨next, traced.serverSent⟩ := by
  have follows := kept.running runs
  have idle : traced.client.point = .turn -> traced.client.readPipe = true ->
      traced.client.undecoded = [] := by
    intro point wanted
    refine undecoded_of_unawaited ((follows.wanted wanted).resolve_left ?_) ?_
    · rw [point]
      exact fun here => by cases here
    · rw [point]
      rfl
  have reading : 0 < traced.client.readsInFlight -> traced.client.undecoded = [] ∧
      traced.client.readPending = true := by
    intro flies
    rcases kept.reads flies with ⟨_, awaited, status, _⟩
    refine ⟨undecoded_of_status fun octets stored => ?_, awaited⟩
    cases status.symm.trans stored
  cases stepped_of_step taken with
  | quiet moves =>
      exact follows.same id rfl rfl rfl rfl (by rw [(quiet_pushes moves).2.symm]; rfl)
        (Or.inr ⟨(quiet_away moves).1, (quiet_decodes moves).1, (quiet_decodes moves).2⟩)
  | unchanged => exact follows
  | ended ending => cases goes
  | readRefused point wanted => cases goes
  | readStarted point wanted =>
      refine follows.without (idle point wanted) (undecoded_of_status ?_) rfl ?_ rfl ?_
      · exact fun octets stored => by cases stored
      · exact fun asked => by cases asked
      · rw [point]
        rfl
  | readCompleted point wanted =>
      rcases readCompleted_first point wanted kept.short taken with ⟨octets, first, status⟩
      have fits := kept.short octets (first ▸ List.mem_cons_self)
      refine follows.stores (idle point wanted) first fits status rfl rfl ?_ rfl ?_
      · exact fun asked => by cases asked
      · rw [point]
        rfl
  | readEvent point =>
      have same : undecoded { traced.client with readPipe := true, point := .readCompletion } =
          traced.client.undecoded := by
        unfold undecoded
        rw [point]
        rfl
      refine ⟨fun _ => Or.inl rfl, ?_, ?_, ?_⟩
      · intro bytes decoding
        cases decoding
      · rw [same]
        exact follows.intact
      · have awaiting := follows.awaiting
        rw [point] at awaiting
        rw [waiting, same]
        exact awaiting
  | @messageRead octets after point status _ =>
      have pushes : pushing traced.client.point = [] := by
        rw [point]
        rfl
      have stays : decodes traced.client.point = false := by
        rw [point]
        rfl
      rcases messageRead_goes point status taken with
        ⟨decoding, awaited, some⟩ | ⟨ends, empty⟩
      · have here : after = .decode octets.length := decoding
        subst here
        have before : traced.client.undecoded = octets :=
          undecoded_of_stored status (Or.inl awaited)
        have later : undecoded { traced.client with
            readPending := false, point := .decode octets.length } = octets :=
          undecoded_of_stored status (Or.inr rfl)
        refine ⟨fun _ => Or.inr rfl, ?_, ?_, ?_⟩
        · intro bytes same
          cases same
          exact ⟨rfl, octets, status, rfl, some⟩
        · rw [later, ← before]
          exact follows.intact
        · have awaiting := follows.awaiting
          rw [pushes, waiting, before] at awaiting
          rw [waiting, later]
          exact awaiting
      · have here : after = .turnEnd := ends
        subst here
        have before : traced.client.undecoded = [] := by
          cases awaited : traced.client.readPending with
          | true => rw [undecoded_of_stored status (Or.inl awaited), empty awaited]
          | false => exact undecoded_of_unawaited awaited stays
        refine follows.without before (undecoded_of_unawaited rfl rfl) rfl
          (fun _ => Or.inr rfl) rfl ?_
        rw [pushes]
        rfl
  | readUnfinished point awaited status =>
      simp only [operationsDone, point, awaited, status, Bool.not_true, ne_eq,
        not_true_eq_false, decide_false, Bool.or_self, Bool.false_eq_true] at done
  | readBroken point status =>
      have before : traced.client.undecoded = [] := by
        refine undecoded_of_status fun octets stored => ?_
        cases status.symm.trans stored
      refine follows.without before (undecoded_of_unawaited rfl rfl) rfl (fun _ => Or.inr rfl)
        rfl ?_
      rw [point]
      rfl
  | readUnawaited point unawaited =>
      have before : traced.client.undecoded = [] := by
        refine undecoded_of_unawaited unawaited ?_
        rw [point]
        rfl
      refine follows.without before (undecoded_of_unawaited unawaited rfl) rfl
        (fun _ => Or.inr unawaited) rfl ?_
      rw [point]
      rfl
  | @decoded bytes message constructed point receives =>
      rcases follows.decoding bytes point with ⟨unawaited, octets, status, length, some⟩
      have here : traced.client.undecoded = octets := by
        refine undecoded_of_stored status (Or.inr ?_)
        rw [point]
        rfl
      have becomes : platform.Decodes octets message := by
        have taken : traced.client.inputBuffer.take octets.length = octets :=
          (List.prefix_iff_eq_take.mp (here ▸ follows.intact)).symm
        rw [ControlPlatform.receive_take, ← length, taken] at receives
        exact ⟨constructed, receives⟩
      have nothing : (traced.client.goes (.push message)).undecoded = [] :=
        undecoded_of_unawaited unawaited rfl
      refine ⟨fun _ => Or.inr unawaited, ?_, ?_, ?_⟩
      · intro bytes decoding
        cases decoding
      · rw [nothing]
        exact List.nil_prefix
      · have awaiting := follows.awaiting
        rw [point, waiting, here, meaningful_cons (length ▸ some)] at awaiting
        rw [waiting_of_undecoded nothing]
        have none : pushing (.decode bytes : ClientPoint platform.longBits) = [] := rfl
        rw [none, List.append_nil] at awaiting
        exact awaiting.handle becomes
  | @pushed message point =>
      refine follows.same id rfl rfl rfl rfl ?_ (Or.inr ⟨?_, ?_, rfl⟩)
      · rw [point]
        exact List.append_nil _
      · rw [point]
        exact fun here => by cases here
      · rw [point]
        rfl
  | stored flies =>
      rcases reading flies with ⟨nothing, awaited⟩
      rcases stores_first kept.short taken with ⟨octets, first, status⟩
      have fits := kept.short octets (first ▸ List.mem_cons_self)
      refine follows.stores nothing first fits status awaited rfl ?_ ?_ rfl
      · intro wanted
        refine (follows.wanted wanted).resolve_right fun unawaited => ?_
        cases awaited.symm.trans unawaited
      · cases point : traced.client.point with
        | decode bytes => cases awaited.symm.trans (follows.decoding bytes point).1
        | _ => rfl
  | overflowed flies =>
      rcases stores_first kept.short taken with ⟨octets, _, status⟩
      cases status
  | readFailed flies =>
      rcases reading flies with ⟨nothing, awaited⟩
      refine follows.without nothing (undecoded_of_status fun octets stored => by cases stored) rfl
        follows.wanted ?_ rfl
      cases point : traced.client.point with
      | decode bytes => cases awaited.symm.trans (follows.decoding bytes point).1
      | _ => rfl
  | serverSent => cases own
  | actedBroken ending held breaks => cases goes
  | poppedEmpty some queue => cases goes
  | lockedEmpty point _ | lockedFull point _ | wantsFront point _ | front point _ | pop point _
  | written point _ | release point | waitFailed point | writeEvent point | writeEnded point
  | posted point =>
      refine follows.same id rfl rfl rfl rfl ?_ (Or.inr ⟨?_, ?_, rfl⟩)
      · rw [point]
        rfl
      · rw [point]
        exact fun here => by cases here
      · rw [point]
        rfl
  | _ => exact follows.same id rfl rfl rfl rfl rfl (Or.inl rfl)

/-- The server sends a message. -/
theorem Following.sends {traced : Traced platform.longBits} (follows : Following platform traced)
    (octets : Octets) :
    Following platform ⟨{ traced.client with unread := traced.client.unread ++ [octets] },
      traced.serverSent ++ [octets]⟩ := by
  refine ⟨follows.wanted, follows.decoding, follows.intact, ?_⟩
  have offered := follows.awaiting.offer (meaningful [octets])
  rw [← meaningful_append, waiting, ← meaningful_append] at offered
  exact offered

theorem short_stepped {world next : ControlClient platform.longBits}
    {label : ClientLabel platform.longBits}
    (short : forall octets, octets ∈ world.unread -> octets.length ≤ inputSize)
    (sizes : forall octets, octets ∈ Traced.sentBy label -> octets.length ≤ inputSize)
    (taken : step platform world label = some next) :
    forall octets, octets ∈ next.unread -> octets.length ≤ inputSize := by
  have rest : forall {first : Octets} {later : List Octets}, world.unread = first :: later ->
      forall octets, octets ∈ later -> octets.length ≤ inputSize :=
    fun unread octets member => short octets (unread ▸ List.mem_cons_of_mem _ member)
  cases stepped_of_step taken with
  | readCompleted point wanted =>
      rcases readCompleted_first point wanted short taken with ⟨first, unread, _⟩
      exact rest unread
  | stored flies =>
      rcases stores_first short taken with ⟨first, unread, _⟩
      exact rest unread
  | overflowed flies =>
      rcases stores_first short taken with ⟨first, unread, _⟩
      exact rest unread
  | serverSent =>
      intro octets member
      rcases List.mem_append.mp member with old | new
      · exact short octets old
      · exact sizes octets new
  | _ => exact short

theorem readsFollow_step {traced next : Traced platform.longBits}
    {label : ClientLabel platform.longBits} (kept : ReadsFollow platform traced)
    (turn : traced.inTurn label = true) (taken : traced.step platform label = some next) :
    ReadsFollow platform next := by
  rcases Bool.and_eq_true_iff.mp turn with ⟨done, sizes⟩
  rcases Option.map_eq_some_iff.mp taken with ⟨client, stepped, rfl⟩
  have fits : forall octets, octets ∈ Traced.sentBy label -> octets.length ≤ inputSize :=
    fun octets member => of_decide_eq_true (List.all_eq_true.mp sizes octets member)
  refine ⟨short_stepped kept.short fits stepped,
    readsKept_stepped kept.reads done (stepped_of_step stepped), ?_, ?_⟩
  · rw [meaningful_append]
    rcases received_stepped (stepped_of_step stepped) with same | ⟨message, point, rfl, pushed⟩
    · rw [same]
      exact kept.delivered.offer _
    · rw [pushed]
      have awaiting := (kept.running (runs_of_loop stepped)).awaiting
      rw [point] at awaiting
      exact awaiting.delivered.offer _
  · intro goes
    have runs : traced.client.ending = none := by
      cases ending : traced.client.ending with
      | none => rfl
      | some ended =>
          refine absurd goes (ends_once ?_ (stepped_of_step stepped))
          rw [ending]
          exact Option.some_ne_none ended
    cases label with
    | serverSends octets =>
        have sent : client = { traced.client with unread := traced.client.unread ++ [octets] } := by
          unfold ControlClient.step at stepped
          split at stepped
          · cases stepped
          · exact (Option.some.inj stepped).symm
        rw [sent]
        exact (kept.running runs).sends octets
    | _ =>
        have follows := following_stepped kept done rfl stepped runs goes
        rw [← List.append_nil traced.serverSent] at follows
        exact follows

theorem readsFollow_create : ReadsFollow platform (Traced.create platform.longBits) where
  short := fun octets member => absurd member List.not_mem_nil
  reads := readsKept_of_none rfl
  delivered := .start
  running := fun _ => {
    wanted := fun _ => Or.inr rfl
    decoding := fun bytes point => by cases point
    intact := List.nil_prefix
    awaiting := .start }

theorem readsFollow_reachable {traced : Traced platform.longBits}
    (reachable : ((Traced.system platform).restrict fun traced label =>
      traced.inTurn label = true).Reachable traced) : ReadsFollow platform traced := by
  refine reachable.invariant ?_ ?_
  · rintro traced start
    have created : traced = Traced.create platform.longBits := start
    rw [created]
    exact readsFollow_create
  · rintro traced label next kept ⟨turn, taken⟩
    exact readsFollow_step kept turn taken

/-- What the client has received is what the first messages of the server decode to, each
once and in order; while the loop runs, the others wait. -/
theorem server_messages_received (platform : ControlPlatform)
    (traced : Traced platform.longBits)
    (reachable : ((Traced.system platform).restrict fun traced label =>
      traced.inTurn label = true).Reachable traced) :
    Delivered platform.Decodes (meaningful traced.serverSent) traced.client.received ∧
      (traced.client.ending = none ->
        Awaiting platform.Decodes (meaningful traced.serverSent) traced.client.waiting
          (traced.client.received ++ pushing traced.client.point)) := by
  have kept := readsFollow_reachable reachable
  exact ⟨kept.delivered, fun runs => (kept.running runs).awaiting⟩

open ControlPlatform (formatPlatform stopMessage stopOctets zeroConstructed receive_stopOctets)

theorem receivedStop_taken :
    (Transition.System.execute (Transition.System.guarded
      (fun traced label => Traced.inTurn traced label = true) (Traced.step formatPlatform))
      (Traced.create formatPlatform.longBits) receivingLabels).isSome = true := by
  decide +kernel

/-- A client that has read a stop message. -/
def readStop : Traced formatPlatform.longBits :=
  (Transition.System.execute (Transition.System.guarded
    (fun traced label => Traced.inTurn traced label = true) (Traced.step formatPlatform))
    (Traced.create formatPlatform.longBits) receivingLabels).get receivedStop_taken

/-- The message is decoded. -/
def decodedStop : Traced formatPlatform.longBits :=
  ⟨readStop.client.goes (.push stopMessage), readStop.serverSent⟩

theorem pushedStop_taken :
    (Transition.System.execute (Transition.System.guarded
      (fun traced label => Traced.inTurn traced label = true) (Traced.step formatPlatform))
      decodedStop [.loop .step]).isSome = true := by
  decide +kernel

/-- The message is pushed. -/
def receivedStop : Traced formatPlatform.longBits :=
  (Transition.System.execute (Transition.System.guarded
    (fun traced label => Traced.inTurn traced label = true) (Traced.step formatPlatform))
    decodedStop [.loop .step]).get pushedStop_taken

theorem receivedStop_reachable : ((Traced.system formatPlatform).restrict fun traced label =>
    traced.inTurn label = true).Reachable receivedStop := by
  have read : ((Traced.system formatPlatform).restrict fun traced label =>
      traced.inTurn label = true).Reachable readStop := by
    refine .of_execute_guarded ?_ receivedStop_taken
    rfl
  have decodes : ControlClient.step formatPlatform readStop.client
      (.loop (.constructed zeroConstructed)) = some (readStop.client.goes (.push stopMessage)) :=
    step_decodes (by decide +kernel) (by decide +kernel) (by decide +kernel) (by decide +kernel)
      receive_stopOctets
  have decoded : readStop.step formatPlatform (.loop (.constructed zeroConstructed)) =
      some decodedStop :=
    Option.map_eq_some_iff.mpr
      ⟨_, decodes, congrArg (Traced.mk _) (List.append_nil readStop.serverSent)⟩
  refine (read.extend (.single ⟨?_, decoded⟩)).extend
    (.of_execute_guarded (Option.some_get pushedStop_taken).symm)
  decide +kernel

/-- All that the server has sent has been received. -/
theorem server_messages_received_stop :
    List.Forall₂ formatPlatform.Decodes [stopOctets] receivedStop.client.received := by
  have received := (server_messages_received formatPlatform receivedStop
    receivedStop_reachable).2 (by decide +kernel)
  have sent : meaningful receivedStop.serverSent = [stopOctets] := by decide +kernel
  have waits : receivedStop.client.waiting = [] := by decide +kernel
  have pushes : pushing receivedStop.client.point = [] := by decide +kernel
  rw [sent, waits, pushes, List.append_nil] at received
  exact received.complete

end ControlClient

end EasyProspect
