import EasyProspect.PipeIndices
import EasyProspect.ReadHistories

namespace EasyProspect

/-!
# One buffer for all reads

The reads of all pipes are given the same buffer, and a read that is pending may store
its data at any time.  The loop decodes what it finds in the buffer when it comes to
the event of a pipe.  As long as no read stores data over a message of another pipe
that is not decoded yet, each pipe pushes what its clients have sent.
-/

open Delivery

namespace PipeView

variable {platform : ControlPlatform}

/-- The step stores data for this pipe. -/
def Stores {longBits : Nat} (index : Nat) (view : PipeView longBits)
    (label : ServerLabel longBits) : Prop :=
  label = .pipe index .stores ∨
    (view.stage = some .reads ∧ label = .loop (.readFile .completed))

/-- What waits to be decoded after a step. -/
inductive Undecoded {longBits : Nat} (index : Nat) (view : PipeView longBits)
    (label : ServerLabel longBits) : Octets -> Prop
  | same : Undecoded index view label view.undecoded
  | nothing : Undecoded index view label []
  | stored {octets : Octets} {rest : List Octets} (stores : view.Stores index label)
      (unread : view.pipe.unread = octets :: rest) (fits : octets.length ≤ inputSize) :
      Undecoded index view label octets

theorem undecoded_advanced {index : Nat} {input : Octets}
    {pipe next : ControlPipe platform.longBits} {stage : Stage}
    {supplied : LoopInput platform.longBits} {move : Move}
    (advanced : pipe.Advanced platform input stage supplied next move)
    (reads : ReadKept ⟨some stage, pipe⟩) :
    Undecoded index ⟨some stage, pipe⟩ (.loop supplied)
      (undecoded ⟨move.stageAt index, next⟩) := by
  cases advanced with
  | readCompleted wanted occupied unread fits => exact .stored (Or.inr ⟨rfl, rfl⟩) unread fits
  | readStarted wanted occupied => exact .nothing
  | ready => split <;> exact .same
  | nonEmpty => split <;> exact .same
  | disconnected succeeded => cases succeeded <;> exact .same
  | connected connects flags moves => exact .nothing
  | @messageRead client octets awaited status present =>
      have before : undecoded ⟨some .readCompletion, pipe⟩ = octets :=
        undecoded_of_stored status (Or.inl awaited)
      have after : undecoded ⟨some (.decode client octets.length),
          { pipe with readPending := false }⟩ = octets :=
        undecoded_of_stored status (Or.inr rfl)
      rw [Move.stageAt, after, ← before]
      exact .same
  | nothingRead awaited status =>
      rw [undecoded_of_unawaited rfl rfl]
      exact .nothing
  | readUnawaited unawaited =>
      rw [undecoded_of_unawaited unawaited rfl]
      exact .nothing
  | received decodes =>
      have unawaited : pipe.readPending = false := (reads.decoding _ _ rfl).1
      rw [undecoded_of_unawaited unawaited rfl]
      exact .nothing
  | _ => exact .same

theorem undecoded_occurred {index clients : Nat} {stage : Option Stage}
    {pipe next : ControlPipe platform.longBits} {event : PipeEvent}
    (occurred : pipe.Occurred clients event next) (reads : ReadKept ⟨stage, pipe⟩) :
    Undecoded index ⟨stage, pipe⟩ (.pipe index event) (undecoded ⟨stage, next⟩) := by
  cases occurred with
  | stored reading occupied unread fits =>
      have awaited : pipe.readPending = true := (reads.single reading).2.1
      rw [undecoded_of_stored rfl (Or.inl awaited)]
      exact .stored (Or.inl rfl) unread fits
  | overflowed reading occupied unread long => exact .nothing
  | readFailed reading => exact .nothing
  | connectCompleted listening => exact .nothing
  | _ => exact .same

theorem undecoded_step {index : Nat} {input : Octets} {clients : Nat}
    {view next : PipeView platform.longBits} {label : ServerLabel platform.longBits}
    (reads : view.ReadKept) (taken : PipeStep platform index input clients view label next) :
    Undecoded index view label next.undecoded := by
  cases taken with
  | loop taken => exact undecoded_advanced (ControlPipe.advanced_of_advance taken) reads
  | @arrive stage pipe label entry =>
      cases stage with
      | decode client bytes => exact False.elim entry
      | _ => exact .same
  | send packed => exact .same
  | nextMessage taken =>
      rcases ControlPipe.dequeued_of_dequeue taken with ⟨incoming, rest, queue, rfl⟩
      exact .same
  | event taken => exact undecoded_occurred (ControlPipe.occurred_of_occurs taken) reads

end PipeView

namespace ControlServer

variable {platform : ControlPlatform}

/-- The pipe for which a `ReadFile` that completes at once stores data. -/
def readsAt : LoopPoint -> Option Nat
  | .pipe index .reads => some index
  | _ => none

/-- The pipe for which a read stores data in the step. -/
def storesAt {longBits : Nat} (world : ControlServer longBits) : ServerLabel longBits -> Option Nat
  | .pipe index .stores => some index
  | .loop (.readFile .completed) => readsAt world.point
  | _ => none

/-- The data of a read does not change the octets of a message that is not decoded yet. -/
def storesApart {longBits : Nat} (world : ControlServer longBits) (label : ServerLabel longBits) :
    Bool :=
  match storesAt world label with
  | none => true
  | some index =>
      (List.range instances).all fun other =>
        (world.view other).undecoded.isPrefixOf
          (fillInput world.inputBuffer (world.pipes index).unread)

/-- What waits to be decoded is in the buffer. -/
def Intact {longBits : Nat} (world : ControlServer longBits) : Prop :=
  forall index, index < instances -> (world.view index).undecoded <+: world.inputBuffer

/-- The buffer after a step. -/
def InputFollows {longBits : Nat} (world : ControlServer longBits) (label : ServerLabel longBits)
    (input : Octets) : Prop :=
  (input = world.inputBuffer ∧
      forall index, index < instances -> storesAt world label ≠ some index) ∨
    Exists fun index => storesAt world label = some index ∧
      input = fillInput world.inputBuffer (world.pipes index).unread

theorem storesAt_of_view {longBits : Nat} {world : ControlServer longBits}
    {label : ServerLabel longBits} {index : Nat}
    (stores : (world.view index).Stores index label) : storesAt world label = some index := by
  rcases stores with rfl | ⟨here, rfl⟩
  · rfl
  · rw [storesAt, point_of_stage here, readsAt]

theorem inputFollows_of_none {longBits : Nat} {world : ControlServer longBits}
    {label : ServerLabel longBits} {input : Octets} (nowhere : storesAt world label = none)
    (same : input = world.inputBuffer) : InputFollows world label input := by
  refine Or.inl ⟨same, fun index _ stores => ?_⟩
  cases nowhere.symm.trans stores

theorem storesAt_of_ne {longBits : Nat} {world : ControlServer longBits}
    {input : LoopInput longBits} (other : input ≠ .readFile .completed) :
    storesAt world (.loop input) = none := by
  unfold storesAt
  split
  · rename_i same
    cases same
  · rename_i same
    exact absurd (ServerLabel.loop.inj same) other
  · rfl

theorem inputAfter_of_ne {longBits : Nat} {world : ControlServer longBits} {index : Nat}
    {input : LoopInput longBits} (other : input ≠ .readFile .completed) :
    world.inputAfter index input = world.inputBuffer := by
  unfold inputAfter
  split
  · exact absurd rfl other
  · rfl

theorem not_ends_of_readCompleted {input : Octets} {pipe : ControlPipe platform.longBits}
    {stage : Stage} {ending : LoopEnding} :
    pipe.advance platform input stage (.readFile .completed) ≠ some (.ends ending) := by
  intro ends
  cases stage with
  | reads =>
      simp only [ControlPipe.advance] at ends
      split at ends
      · simp only [ControlPipe.issueRead] at ends
        split at ends
        · rcases Option.map_eq_some_iff.mp ends with ⟨stored, _, same⟩
          cases same
        · cases ends
      · cases ends
  | writeFile buffer => cases buffer <;> cases ends
  | _ => cases ends

/-- A `ReadFile` that completes at once changes the buffer for the pipe that the loop is on. -/
theorem inputFollows_of_readCompleted {world next : ControlServer platform.longBits}
    (stepped : LoopStepped platform world (.readFile .completed) next) :
    InputFollows world (.loop (.readFile .completed)) next.inputBuffer := by
  cases stepped with
  | @worked current stage _ pipe move point bounds advance =>
      cases ControlPipe.advanced_of_advance advance with
      | readCompleted wanted occupied unread fits =>
          refine Or.inr ⟨current, ?_, rfl⟩
          rw [storesAt, point, readsAt]
  | broke point advance => exact absurd advance not_ends_of_readCompleted
  | @strayed current stage _ point outside =>
      refine Or.inl ⟨rfl, fun index within stores => outside ?_⟩
      rw [storesAt, point] at stores
      unfold readsAt at stores
      split at stores
      · rename_i here
        cases here
        exact Option.some.inj stores ▸ inBounds_of_lt within .reads
      · cases stores
  | turned turned =>
      generalize world.point = before at turned
      cases turned

/-- No other step of the loop changes the buffer. -/
theorem inputFollows_of_loop {world next : ControlServer platform.longBits}
    {input : LoopInput platform.longBits} (stepped : LoopStepped platform world input next) :
    InputFollows world (.loop input) next.inputBuffer := by
  by_cases completed : input = .readFile .completed
  · subst completed
    exact inputFollows_of_readCompleted stepped
  · refine inputFollows_of_none (storesAt_of_ne completed) ?_
    cases stepped with
    | worked point bounds advance => exact inputAfter_of_ne completed
    | _ => rfl

theorem inputFollows_of_step {world next : ControlServer platform.longBits}
    {label : ServerLabel platform.longBits} (taken : step platform world label = some next) :
    InputFollows world label next.inputBuffer := by
  cases stepped_of_step taken with
  | loop stepped => exact inputFollows_of_loop stepped
  | @event index event pipe occurs =>
      cases event with
      | stores => exact Or.inr ⟨index, rfl, rfl⟩
      | _ => exact inputFollows_of_none rfl rfl
  | _ => exact inputFollows_of_none rfl rfl

theorem clients_of_step {world next : ControlServer platform.longBits}
    {label : ServerLabel platform.longBits} (taken : step platform world label = some next) :
    next.clients = world.clients + label.connects := by
  cases stepped_of_step taken with
  | loop stepped => cases stepped <;> rfl
  | event occurs =>
      simp only [ServerLabel.connects]
      split <;> rfl
  | _ => rfl

/-- What was stored for a pipe stays in the buffer until it is decoded. -/
theorem intact_step {world next : ControlServer platform.longBits}
    {label : ServerLabel platform.longBits}
    (reads : forall index, index < instances -> (world.view index).ReadKept)
    (intact : Intact world) (apart : storesApart world label = true)
    (taken : step platform world label = some next) : Intact next := by
  intro index within
  have undecoded : PipeView.Undecoded index (world.view index) label
      (next.view index).undecoded := by
    rcases seen taken within with same | own
    · rw [same]
      exact .same
    · exact PipeView.undecoded_step (reads index within) own
  generalize (next.view index).undecoded = octets at undecoded
  rcases inputFollows_of_step taken with ⟨same, elsewhere⟩ | ⟨current, stores, filled⟩
  · rw [same]
    cases undecoded with
    | same => exact intact index within
    | nothing => exact List.nil_prefix
    | stored own unread fits => exact absurd (storesAt_of_view own) (elsewhere index within)
  · have kept : (world.view index).undecoded <+:
        fillInput world.inputBuffer (world.pipes current).unread := by
      simp only [storesApart, stores, List.all_eq_true, List.mem_range] at apart
      exact List.isPrefixOf_iff_prefix.mp (apart index within)
    rw [filled]
    cases undecoded with
    | same => exact kept
    | nothing => exact List.nil_prefix
    | stored own unread fits =>
        have same : current = index :=
          Option.some.inj (stores.symm.trans (storesAt_of_view own))
        have waiting : (world.pipes index).unread = octets :: _ := unread
        rw [same, waiting, fillInput, storedPart, List.take_of_length_le fits]
        exact List.prefix_append _ _

def HistoriesKept (platform : ControlPlatform) (world : ControlServer platform.longBits) : Prop :=
  forall index, index < instances -> (world.view index).HistoryKept platform world.clients

theorem historiesKept_step {world next : ControlServer platform.longBits}
    {label : ServerLabel platform.longBits}
    (reads : forall index, index < instances -> (world.view index).ReadKept)
    (intact : Intact world) (kept : HistoriesKept platform world)
    (taken : step platform world label = some next) : HistoriesKept platform next := by
  intro index within
  rw [clients_of_step taken]
  rcases seen taken within with same | own
  · rw [same]
    exact (kept index within).later (Nat.le_add_right _ _)
  · exact PipeView.historyKept_step (reads index within) (intact index within)
      (kept index within) own

/-- What the steps keep while no stored message is overwritten. -/
structure Undisturbed (platform : ControlPlatform) (world : ControlServer platform.longBits) :
    Prop where
  intact : Intact world
  histories : HistoriesKept platform world

theorem undisturbed_create : Undisturbed platform (create platform.longBits) where
  intact := fun index within => List.nil_prefix
  histories := fun index within => {
    known := fun entry member => by cases member
    present := fun client occupied => by cases occupied
    delivered := fun client => .start
    following := fun client occupied => by cases occupied
    discarded := fun _ => rfl }

theorem undisturbed_reachable {world : ControlServer platform.longBits}
    (reachable : ((system platform).restrict fun world label =>
      storesApart world label = true).Reachable world) : Undisturbed platform world := by
  refine reachable.invariant_reachable ?_ ?_
  · rintro world start
    have created : world = create platform.longBits := start
    rw [created]
    exact undisturbed_create
  · rintro world label next reached ⟨intact, histories⟩ ⟨apart, taken⟩
    have reads : forall index, index < instances -> (world.view index).ReadKept :=
      fun index within => PipeView.readKept_reachable (view_reachable reached.of_restrict within)
    exact ⟨intact_step reads intact apart taken, historiesKept_step reads intact histories taken⟩

/-- Each message that has been pushed for a client of a pipe is what one message of that
client became, each once and in order; and when nothing of a client is left, all its messages
have been pushed. -/
structure NoCrossTalk (platform : ControlPlatform) (world : ControlServer platform.longBits) :
    Prop where
  decoded : forall index, index < instances -> forall client,
    Delivered platform.Decodes (meaningful ((world.pipes index).sentBy client))
      ((world.pipes index).pushedFrom client)
  complete : forall index, index < instances -> forall client,
    (world.pipes index).client = some client -> (world.pipes index).unread = [] ->
      (world.view index).undecoded = [] -> ¬(world.view index).Stalled ->
        List.Forall₂ platform.Decodes (meaningful ((world.pipes index).sentBy client))
          ((world.pipes index).pushedFrom client)

/-- As long as no read stores its data over a message that is not decoded, there is no cross
talk. -/
theorem no_cross_talk (platform : ControlPlatform) (world : ControlServer platform.longBits)
    (reachable : ((system platform).restrict fun world label =>
      storesApart world label = true).Reachable world) : NoCrossTalk platform world := by
  have kept := (undisturbed_reachable reachable).histories
  refine ⟨fun index within => (kept index within).delivered, ?_⟩
  intro index within client occupied unread nothing flows
  have followed := ((kept index within).following client occupied).resolve_left flows
  have none : (world.view index).waiting = [] := by
    rw [PipeView.waiting_of_undecoded nothing]
    exact congrArg meaningful unread
  rw [none] at followed
  exact followed.complete

/-! ## Two clients -/

open ControlPlatform (formatPlatform stopMessage stopOctets zeroConstructed receive_take
  receive_stopOctets)

/-- A stop message of process 2. -/
def otherMessage : ProcessMessage formatPlatform.longBits :=
  .stop ⟨.cmdStop, 2, 0, 2, 2, 0⟩

def otherOctets : Octets :=
  MessagePack.encode (ControlPlatform.packBase otherMessage.members)

/-- Two clients connect, a read is started for each, and each sends a message. -/
def readingLabels : List (ServerLabel formatPlatform.longBits) :=
  List.flatten
    [setupLabels,
      [.pipe 0 .clientConnects, .pipe 1 .clientConnects], loopSteps 14,
      [.loop (.waited (.signalled 0))], loopSteps 3, [.loop (.readFile .pending)], loopSteps 12,
      [.loop (.waited (.signalled 1))], loopSteps 4, [.loop (.readFile .pending)], loopSteps 11,
      [.pipe 0 (.clientSends stopOctets), .pipe 1 (.clientSends otherOctets)]]

/-- The loop comes to decode the message of the first client. -/
def completionLabels : List (ServerLabel formatPlatform.longBits) :=
  [.loop (.waited (.signalled 0)), .loop .step]

/-- Only the first message has been stored by then. -/
def apartLabels : List (ServerLabel formatPlatform.longBits) :=
  readingLabels ++ [.pipe 0 .stores] ++ completionLabels

theorem apartLabels_taken :
    (Transition.System.execute (Transition.System.guarded
      (fun world label => storesApart world label = true) (step formatPlatform))
      (create formatPlatform.longBits) apartLabels).isSome = true := by
  decide +kernel

def apartServer : ControlServer formatPlatform.longBits :=
  (Transition.System.execute (Transition.System.guarded
    (fun world label => storesApart world label = true) (step formatPlatform))
    (create formatPlatform.longBits) apartLabels).get apartLabels_taken

/-- Both messages have been stored by then. -/
def crossedLabels : List (ServerLabel formatPlatform.longBits) :=
  readingLabels ++ [.pipe 0 .stores, .pipe 1 .stores] ++ completionLabels

theorem crossedLabels_taken :
    (Transition.System.execute (step formatPlatform) (create formatPlatform.longBits)
      crossedLabels).isSome = true := by
  decide +kernel

def crossedServer : ControlServer formatPlatform.longBits :=
  (Transition.System.execute (step formatPlatform) (create formatPlatform.longBits)
    crossedLabels).get crossedLabels_taken

/-- The first pipe with a message of the first client pushed. -/
def pushed (world : ControlServer formatPlatform.longBits)
    (message : ProcessMessage formatPlatform.longBits) : ControlPipe formatPlatform.longBits :=
  { world.pipes 0 with
    readReady := true
    readQueue := (world.pipes 0).readQueue ++ [⟨0, message⟩]
    pushed := (world.pipes 0).pushed ++ [⟨0, message⟩] }

/-- The loop decodes what is in the buffer for the first client. -/
def decoded (world : ControlServer formatPlatform.longBits)
    (message : ProcessMessage formatPlatform.longBits) : ControlServer formatPlatform.longBits :=
  { world.setPipe 0 (pushed world message) with point := .turnEnd }

theorem step_decoded {world : ControlServer formatPlatform.longBits} {octets : Octets}
    {message : ProcessMessage formatPlatform.longBits} (alive : world.terminated = false)
    (runs : world.ending = none) (point : world.point = .pipe 0 (.decode 0 octets.length))
    (input : world.inputBuffer.take octets.length = octets)
    (decodes : formatPlatform.receive zeroConstructed octets octets.length = .returned message) :
    step formatPlatform world (.loop (.constructed zeroConstructed)) =
      some (decoded world message) := by
  have receives : formatPlatform.receive zeroConstructed world.inputBuffer octets.length =
      .returned message := by
    rw [receive_take, input, decodes]
  have inside : Stage.InBounds 0 (.decode 0 octets.length) := inBounds_of_lt (by decide) _
  rw [step, alive]
  simp only [Bool.false_eq_true, if_false, runs, if_true, loopStep, point, pipeStep,
    if_pos inside, ControlPipe.advance, ControlPipe.receive, receives]
  rfl

def decodedServer : ControlServer formatPlatform.longBits :=
  decoded apartServer stopMessage

theorem decodedServer_reachable : ((system formatPlatform).restrict fun world label =>
    storesApart world label = true).Reachable decodedServer := by
  have apart : ((system formatPlatform).restrict fun world label =>
      storesApart world label = true).Reachable apartServer := by
    refine .of_execute_guarded ?_ apartLabels_taken
    rfl
  have taken : step formatPlatform apartServer (.loop (.constructed zeroConstructed)) =
      some decodedServer :=
    step_decoded (by decide +kernel) (by decide +kernel) (by decide +kernel)
      (by decide +kernel) receive_stopOctets
  exact apart.extend (.single ⟨rfl, taken⟩)

theorem no_cross_talk_decoded : NoCrossTalk formatPlatform decodedServer :=
  no_cross_talk formatPlatform decodedServer decodedServer_reachable

/-- The message of the second client is decoded for the first one. -/
def crossTalkServer : ControlServer formatPlatform.longBits :=
  decoded crossedServer otherMessage

theorem receive_otherOctets :
    formatPlatform.receive zeroConstructed otherOctets otherOctets.length =
      .returned otherMessage := by
  decide +kernel

theorem crossTalkServer_reachable : (system formatPlatform).Reachable crossTalkServer := by
  have crossed : (system formatPlatform).Reachable crossedServer := by
    refine .of_execute ?_ crossedLabels_taken
    rfl
  have taken : step formatPlatform crossedServer (.loop (.constructed zeroConstructed)) =
      some crossTalkServer :=
    step_decoded (by decide +kernel) (by decide +kernel) (by decide +kernel)
      (by decide +kernel) receive_otherOctets
  exact crossed.extend (.single taken)

/-- The octets of a stop message are decoded as that message only. -/
theorem eq_stopMessage {message : ProcessMessage formatPlatform.longBits}
    (decodes : formatPlatform.Decodes stopOctets message) : message = stopMessage := by
  rcases decodes with ⟨constructed, received⟩
  have same : formatPlatform.processInput constructed (stopOctets ++ []) stopOctets.length =
      .returned (some stopMessage) :=
    ControlPlatform.processInput_stop rfl constructed []
  rw [List.append_nil] at same
  rw [ControlPlatform.receive, same] at received
  simp only at received
  split at received
  · exact (Outcome.returned.inj received).symm
  · cases received
  · cases received

theorem cross_talk : ¬ forall world, (system formatPlatform).Reachable world ->
    NoCrossTalk formatPlatform world := by
  intro separate
  have kept := (separate crossTalkServer crossTalkServer_reachable).decoded 0 (by decide) 0
  have sent : meaningful ((crossTalkServer.pipes 0).sentBy 0) = [stopOctets] := by
    decide +kernel
  have received : (crossTalkServer.pipes 0).pushedFrom 0 = [otherMessage] := by
    decide +kernel
  rw [sent, received] at kept
  rcases kept with ⟨handled, first, became⟩
  cases became with
  | cons decodes rest =>
      rcases first with ⟨later, split⟩
      rw [(List.cons.inj split).1] at decodes
      exact absurd (eq_stopMessage decodes) (by decide)

end ControlServer

end EasyProspect
