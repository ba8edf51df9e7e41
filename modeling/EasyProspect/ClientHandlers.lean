import EasyProspect.ClientSteps
import EasyProspect.ControlCodec
import Mathlib.Data.List.Perm.Basic

namespace EasyProspect

/-!
# Handlers of control messages

A handler is posted for each message, but it does not carry it: it acts on whatever is
in front of the queue when it runs.  The handlers that have not popped are counted by
the queue, up to the one message that has been pushed and not posted for, so no handler
finds the queue empty; and what has been acted on, what handlers hold and what waits
are together the messages that were received.
-/

namespace ControlClient

variable {platform : ControlPlatform}

/-- A message on which `shutdown_func` is called. -/
def Stops {longBits : Nat} (message : ProcessMessage longBits) : Bool :=
  decide (message.type = .cmdStop)

/-- The message that the loop is about to push. -/
def pushing {longBits : Nat} : ClientPoint longBits -> List (ProcessMessage longBits)
  | .push message => [message]
  | _ => []

/-- One more than zero between a push and its post. -/
def unposted {longBits : Nat} : ClientPoint longBits -> Nat
  | .post => 1
  | _ => 0

structure HandlersKept (world : ControlClient platform.longBits) : Prop where
  counted : world.readQueue.length = world.posted + unposted world.point
  accounted : (world.acted ++ (world.holding ++ world.readQueue)).Perm world.received
  /-- What is queued has been shown. -/
  shown : forall message, message ∈ world.holding ++ world.readQueue ++ pushing world.point ->
    Exists fun text => platform.messageText message = .returned text
  shutdowns : world.shutdowns = world.acted.countP Stops

/-- A step that has nothing to do with the handlers. -/
theorem HandlersKept.same {world next : ControlClient platform.longBits}
    (kept : HandlersKept world) (readQueue : next.readQueue = world.readQueue)
    (posted : next.posted = world.posted) (holding : next.holding = world.holding)
    (received : next.received = world.received) (acted : next.acted = world.acted)
    (shutdowns : next.shutdowns = world.shutdowns)
    (unposts : unposted next.point = unposted world.point)
    (pushes : pushing next.point = pushing world.point) : HandlersKept next where
  counted := by
    rw [readQueue, posted, unposts]
    exact kept.counted
  accounted := by
    rw [readQueue, holding, received, acted]
    exact kept.accounted
  shown := by
    rw [readQueue, holding, pushes]
    exact kept.shown
  shutdowns := by
    rw [acted, shutdowns]
    exact kept.shutdowns

theorem quiet_pushes {longBits : Nat} {before after : ClientPoint longBits}
    (moves : Quiet before after) :
    unposted after = unposted before ∧ pushing after = pushing before := by
  cases moves <;> exact ⟨rfl, rfl⟩

/-- The loop goes from one point to another that have both nothing to do with the handlers. -/
theorem HandlersKept.moves {world next : ControlClient platform.longBits}
    {point : ClientPoint platform.longBits} (kept : HandlersKept world)
    (at_point : world.point = point) (readQueue : next.readQueue = world.readQueue)
    (posted : next.posted = world.posted) (holding : next.holding = world.holding)
    (received : next.received = world.received) (acted : next.acted = world.acted)
    (shutdowns : next.shutdowns = world.shutdowns)
    (away : unposted point = 0 ∧ pushing point = [])
    (stays : unposted next.point = 0 ∧ pushing next.point = []) : HandlersKept next :=
  kept.same readQueue posted holding received acted shutdowns
    (by rw [at_point, away.1, stays.1]) (by rw [at_point, away.2, stays.2])

/-- What `receive` returns has been shown. -/
theorem shown_of_receive {constructed : ControlPlatform.Constructed platform.longBits}
    {input : Octets} {bytes : Nat} {message : ProcessMessage platform.longBits}
    (received : platform.receive constructed input bytes = .returned message) :
    Exists fun text => platform.messageText message = .returned text := by
  unfold ControlPlatform.receive at received
  split at received
  · cases received
  · cases received
  · cases received
  · split at received
    · rename_i text shown
      cases received
      exact ⟨text, shown⟩
    · cases received
    · cases received

/-- Acting on a message that has been shown stops the worker exactly for a stop message. -/
theorem doAction_of_shown {message : ProcessMessage platform.longBits} {text : String}
    (shown : platform.messageText message = .returned text) :
    doAction platform message = .returned (if Stops message then 1 else 0) ∨
      (Stops message = false ∧ forall shutdowns, doAction platform message ≠ .returned shutdowns) := by
  unfold doAction Stops
  simp only [shown]
  cases message.type with
  | unlisted value beyond => exact Or.inr ⟨rfl, fun shutdowns contrary => by cases contrary⟩
  | _ => exact Or.inl rfl

theorem perm_acted {acted holding queue received : List (ProcessMessage platform.longBits)}
    {position : Nat} {message : ProcessMessage platform.longBits}
    (accounted : (acted ++ (holding ++ queue)).Perm received)
    (held : holding[position]? = some message) :
    (acted ++ [message] ++ (holding.eraseIdx position ++ queue)).Perm received := by
  rcases List.getElem?_eq_some_iff.mp held with ⟨within, here⟩
  have taken : (message :: holding.eraseIdx position).Perm holding := by
    rw [← here]
    exact List.getElem_cons_eraseIdx_perm within
  rw [List.append_assoc, List.singleton_append]
  refine List.Perm.trans ?_ accounted
  exact (taken.append_right queue).append_left acted

/-- A handler acts on a message that it holds. -/
theorem HandlersKept.acts {world next : ControlClient platform.longBits} {position : Nat}
    {message : ProcessMessage platform.longBits} (kept : HandlersKept world)
    (held : world.holding[position]? = some message) (readQueue : next.readQueue = world.readQueue)
    (posted : next.posted = world.posted)
    (holding : next.holding = world.holding.eraseIdx position)
    (received : next.received = world.received) (acted : next.acted = world.acted ++ [message])
    (shutdowns : next.shutdowns = world.shutdowns + if Stops message then 1 else 0)
    (point : next.point = world.point) : HandlersKept next where
  counted := by
    rw [readQueue, posted, point]
    exact kept.counted
  accounted := by
    rw [readQueue, holding, received, acted]
    exact perm_acted kept.accounted held
  shown := by
    intro other member
    rw [readQueue, holding, point, List.append_assoc] at member
    refine kept.shown other ?_
    rw [List.append_assoc]
    rcases List.mem_append.mp member with still | rest
    · exact List.mem_append_left _ (List.mem_of_mem_eraseIdx still)
    · exact List.mem_append_right _ rest
  shutdowns := by
    rw [acted, shutdowns, kept.shutdowns, List.countP_append, List.countP_singleton]

theorem shown_of_held {world : ControlClient platform.longBits} (kept : HandlersKept world)
    {position : Nat} {message : ProcessMessage platform.longBits}
    (held : world.holding[position]? = some message) :
    Exists fun text => platform.messageText message = .returned text := by
  refine kept.shown message ?_
  rw [List.append_assoc]
  exact List.mem_append_left _ (List.mem_of_getElem? held)

theorem handlersKept_stepped {world next : ControlClient platform.longBits}
    {label : ClientLabel platform.longBits} (kept : HandlersKept world)
    (stepped : Stepped platform world label next) : HandlersKept next := by
  cases stepped with
  | quiet moves =>
      exact kept.same rfl rfl rfl rfl rfl rfl (quiet_pushes moves).1 (quiet_pushes moves).2
  | unchanged => exact kept
  | messageRead point status goes =>
      refine kept.moves point rfl rfl rfl rfl rfl rfl ⟨rfl, rfl⟩ ?_
      rcases goes with rfl | rfl <;> exact ⟨rfl, rfl⟩
  | decoded point decodes =>
      exact {
        counted := by
          have counted := kept.counted
          rw [point] at counted
          exact counted
        accounted := kept.accounted
        shown := by
          intro message member
          rcases List.mem_append.mp member with queued | new
          · exact kept.shown message (List.mem_append_left _ queued)
          · rw [List.mem_singleton.mp new]
            exact shown_of_receive decodes
        shutdowns := kept.shutdowns }
  | @pushed message point =>
      exact {
        counted := by
          have counted := kept.counted
          rw [point] at counted
          rw [List.length_append, counted]
          rfl
        accounted := by
          rw [← List.append_assoc, ← List.append_assoc]
          have accounted := kept.accounted
          rw [← List.append_assoc] at accounted
          exact accounted.append_right [message]
        shown := by
          have shown := kept.shown
          rw [point] at shown
          intro other member
          refine shown other ?_
          rw [List.append_assoc]
          rw [← List.append_assoc] at member
          simpa only [pushing, List.append_nil, List.append_assoc] using member
        shutdowns := kept.shutdowns }
  | posted point =>
      exact {
        counted := by
          have counted := kept.counted
          rw [point] at counted
          exact counted
        accounted := kept.accounted
        shown := by
          have shown := kept.shown
          rw [point] at shown
          exact shown
        shutdowns := kept.shutdowns }
  | @popped message rest some queue =>
      exact {
        counted := by
          have counted := kept.counted
          rw [queue, List.length_cons] at counted
          simp only
          omega
        accounted := by
          have accounted := kept.accounted
          rw [queue] at accounted
          simpa only [List.append_assoc, List.singleton_append] using accounted
        shown := by
          have shown := kept.shown
          rw [queue] at shown
          intro other member
          refine shown other ?_
          simpa only [List.append_assoc, List.singleton_append] using member
        shutdowns := kept.shutdowns }
  | acted held returns =>
      rcases shown_of_held kept held with ⟨text, shown⟩
      refine kept.acts held rfl rfl rfl rfl rfl ?_ rfl
      rcases doAction_of_shown shown with same | ⟨_, breaks⟩
      · rw [returns] at same
        rw [Outcome.returned.inj same]
      · exact absurd returns (breaks _)
  | actedBroken ending held breaks =>
      rcases shown_of_held kept held with ⟨text, shown⟩
      refine kept.acts held rfl rfl rfl rfl rfl ?_ rfl
      rcases doAction_of_shown shown with same | ⟨goes, _⟩
      · exact absurd same (breaks _)
      · rw [goes]
        rfl
  | readRefused point _ | readStarted point _ | readCompleted point _ | lockedEmpty point _
  | lockedFull point _ | wantsFront point _ | front point _ | pop point _ | written point _
  | release point | waitFailed point | readEvent point | writeEvent point
  | readUnfinished point _ _ | readBroken point _ | readUnawaited point _ | writeEnded point =>
      exact kept.moves point rfl rfl rfl rfl rfl rfl ⟨rfl, rfl⟩ ⟨rfl, rfl⟩
  | _ => exact kept.same rfl rfl rfl rfl rfl rfl rfl rfl

theorem handlersKept_reachable {world : ControlClient platform.longBits}
    (reachable : (system platform).Reachable world) : HandlersKept world := by
  refine reachable.invariant ?_ ?_
  · rintro world start
    have created : world = create platform.longBits := start
    rw [created]
    exact {
      counted := rfl
      accounted := List.Perm.refl []
      shown := fun message member => absurd member List.not_mem_nil
      shutdowns := rfl }
  · rintro world label next kept taken
    exact handlersKept_stepped kept (stepped_of_step taken)

theorem unposted_of_ne {longBits : Nat} {point : ClientPoint longBits} (away : point ≠ .post) :
    unposted point = 0 := by
  cases point with
  | post => exact absurd rfl away
  | _ => rfl

/-- The queue counts the handlers that have not popped, none of them finds it empty, and when
all have run each message has been acted on once. -/
theorem handlers_act_once (platform : ControlPlatform) (world : ControlClient platform.longBits)
    (reachable : (system platform).Reachable world) :
    (world.point ≠ .post -> world.readQueue.length = world.posted) ∧
      (0 < world.posted -> world.readQueue ≠ []) ∧
      (world.posted = 0 -> world.holding = [] -> world.point ≠ .post ->
        world.acted.Perm world.received ∧ world.shutdowns = world.received.countP Stops) := by
  have kept := handlersKept_reachable reachable
  have counted : world.point ≠ .post -> world.readQueue.length = world.posted := by
    intro away
    rw [kept.counted, unposted_of_ne away, Nat.add_zero]
  refine ⟨counted, ?_, ?_⟩
  · intro some empty
    have length := kept.counted
    rw [empty, List.length_nil] at length
    omega
  · intro none rested away
    have empty : world.readQueue = [] := by
      rw [← List.length_eq_zero_iff, counted away, none]
    have all := kept.accounted
    rw [rested, empty, List.append_nil, List.append_nil] at all
    exact ⟨all, kept.shutdowns.trans (all.countP_eq Stops)⟩

/-! ## A stop message -/

open ControlPlatform (formatPlatform stopMessage stopOctets zeroConstructed receive_take
  receive_stopOctets)

/-- A stop message is read. -/
def receivingLabels : List (ClientLabel formatPlatform.longBits) :=
  [.loop (.openFile .opened), .loop (.readFile .pending), .loop .step, .loop .step, .loop .step,
    .serverSends stopOctets, .stores, .loop (.waited (.signalled 0)), .loop .step]

theorem receivingLabels_taken :
    (Transition.System.execute (step formatPlatform) (create formatPlatform.longBits)
      receivingLabels).isSome = true := by
  decide +kernel

def receivingClient : ControlClient formatPlatform.longBits :=
  (Transition.System.execute (step formatPlatform) (create formatPlatform.longBits)
    receivingLabels).get receivingLabels_taken

/-- The loop decodes what is in the buffer. -/
theorem step_decodes {world : ControlClient formatPlatform.longBits} {octets : Octets}
    {message : ProcessMessage formatPlatform.longBits} (alive : world.terminated = false)
    (runs : world.ending = none) (point : world.point = .decode octets.length)
    (input : world.inputBuffer.take octets.length = octets)
    (decodes : formatPlatform.receive zeroConstructed octets octets.length = .returned message) :
    step formatPlatform world (.loop (.constructed zeroConstructed)) =
      some (world.goes (.push message)) := by
  have receives : formatPlatform.receive zeroConstructed world.inputBuffer octets.length =
      .returned message := by
    rw [receive_take, input, decodes]
  rw [step, alive]
  simp only [Bool.false_eq_true, if_false, runs, if_true, loopStep, point, receives]

theorem receivingClient_decodes :
    step formatPlatform receivingClient (.loop (.constructed zeroConstructed)) =
      some (receivingClient.goes (.push stopMessage)) :=
  step_decodes (by decide +kernel) (by decide +kernel) (by decide +kernel) (by decide +kernel)
    receive_stopOctets

/-- It is pushed, a handler is posted, and the handler runs. -/
def handlingLabels : List (ClientLabel formatPlatform.longBits) :=
  [.loop .step, .loop .step, .handlerPops, .handlerActs 0]

theorem handlingLabels_taken :
    (Transition.System.execute (step formatPlatform)
      (receivingClient.goes (.push stopMessage)) handlingLabels).isSome = true := by
  decide +kernel

def stoppedClient : ControlClient formatPlatform.longBits :=
  (Transition.System.execute (step formatPlatform)
    (receivingClient.goes (.push stopMessage)) handlingLabels).get handlingLabels_taken

theorem stoppedClient_reachable : (system formatPlatform).Reachable stoppedClient := by
  have received : (system formatPlatform).Reachable receivingClient := by
    refine .of_execute ?_ receivingLabels_taken
    rfl
  have pushed : (system formatPlatform).Reachable (receivingClient.goes (.push stopMessage)) :=
    received.extend (Transition.System.Run.single receivingClient_decodes)
  exact pushed.extend (.of_execute (Option.some_get handlingLabels_taken).symm)

theorem handlers_act_once_stopped :
    stoppedClient.acted.Perm stoppedClient.received ∧
      stoppedClient.shutdowns = stoppedClient.received.countP Stops :=
  (handlers_act_once formatPlatform stoppedClient stoppedClient_reachable).2.2
    (by decide +kernel) (by decide +kernel) (by decide +kernel)

end ControlClient

end EasyProspect
