import EasyProspect.ListenerPorts
import EasyProspect.WorkerLink

namespace EasyProspect

/-!
# A worker from its listeners to its entry

`make_server` of a worker makes the application, which starts the worker's end of the pipe, and
opens one listener after the other.  A listener that does not open ends the process.  After the
last one, `run` sends a start message with the first port of the registry, or 0.

The worker's end of the pipe and the control program go on all the time.  Nothing else in a worker
sends a start message.
-/

open ControlPlatform (Constructed)

/-- Where the main thread of a worker is. -/
inductive WorkerStage
  /-- `make_server`, with the listeners that are still to be opened. -/
  | opening (rest : List ListenerConf)
  | failed
  | running
deriving DecidableEq

structure WorkerProcess (Address : Type) (longBits : Nat) where
  link : WorkerLink longBits
  ports : WorkerPorts Address
  stage : WorkerStage

/-- A step of the control program or of the worker's end of the pipe, and the two of the main
thread: a call of `run_listener`, and that of `run`. -/
inductive ProcessLabel (Address : Type) (longBits : Nat)
  | link (label : LinkLabel longBits)
  | listens (network : Network Address)
  | runs (constructed : Constructed longBits)

/-- `curr_port` of `run`. -/
def WorkerPorts.announced {Address : Type} (worker : WorkerPorts Address) : Int :=
  worker.ports.head?.getD 0

/-- `process_message_startup`. -/
def ProcessMessage.startupOf {longBits : Nat} (constructed : Constructed longBits) (port : Int) :
    ProcessMessage longBits :=
  .startup { constructed.members .start with port := BitVec.ofInt 32 port }

namespace WorkerProcess

variable {Address : Type}

def create (longBits : Nat) (listeners : List ListenerConf) : WorkerProcess Address longBits where
  link := .create longBits
  ports := .create
  stage := .opening listeners

/-- What only `run` does. -/
def announces {longBits : Nat} : LinkLabel longBits -> Bool
  | .worker (.send _) => true
  | _ => false

section Steps

variable (platform : ControlPlatform) (makeAddress : String -> Option Address)

/-- The next round of the loop of `make_server`. -/
def listen {longBits : Nat} (process : WorkerProcess Address longBits)
    (network : Network Address) : Option (WorkerProcess Address longBits) :=
  match process.stage with
  | .opening (e :: rest) =>
      match process.ports.runListener makeAddress e network with
      | (ports, .ok true) => some { process with ports := ports, stage := .opening rest }
      | (ports, _) => some { process with ports := ports, stage := .failed }
  | _ => none

/-- `run`, up to the threads. -/
def run (process : WorkerProcess Address platform.longBits)
    (constructed : Constructed platform.longBits) :
    Option (WorkerProcess Address platform.longBits) :=
  match process.stage with
  | .opening [] =>
      let st := ProcessMessage.startupOf constructed process.ports.announced
      (WorkerLink.step platform process.link (.worker (.send st))).map fun link =>
        { process with link := link, stage := .running }
  | _ => none

def step (process : WorkerProcess Address platform.longBits) :
    ProcessLabel Address platform.longBits -> Option (WorkerProcess Address platform.longBits)
  | .link label =>
      if announces label then none
      else (WorkerLink.step platform process.link label).map fun link =>
        { process with link := link }
  | .listens network => process.listen makeAddress network
  | .runs constructed => process.run platform constructed

def system (listeners : List ListenerConf) :
    Transition.System (WorkerProcess Address platform.longBits)
      (ProcessLabel Address platform.longBits) :=
  .ofStep (fun process => process = create platform.longBits listeners)
    (step platform makeAddress)

/-- No read of the control server stores its data over a message that is not decoded. -/
def readsApart {platform : ControlPlatform} (process : WorkerProcess Address platform.longBits) :
    ProcessLabel Address platform.longBits -> Bool
  | .link label => process.link.readsApart label
  | _ => true

end Steps

/-! ## Listeners -/

section Listeners

variable {makeAddress : String -> Option Address} {worker next : WorkerPorts Address}
  {cfg : ListenerConf} {network : Network Address}

/-- The listener accepts connections at some endpoint. -/
def Listening (listener : OpenListener Address) : Prop :=
  listener.acceptor.listening = true ∧ listener.acceptor.bound.isSome = true

/-- The port is the first that is tried for the listener, and unless it stands for any port, the
listener is bound to it. -/
def BoundTo (listener : OpenListener Address) (port : Int) : Prop :=
  WorkerPorts.firstPort listener.given = some port ∧ (UInt16.ofInt port ≠ 0 ->
    Exists fun endpoint => listener.acceptor.bound = some endpoint ∧
      endpoint.port = UInt16.ofInt port)

/-- All listeners are open, and the registry is empty or has a port of one of them. -/
structure Serves (listeners : List ListenerConf) (worker : WorkerPorts Address) : Prop where
  opened : worker.listeners.map OpenListener.given = listeners
  listening : forall listener, listener ∈ worker.listeners -> Listening listener
  announced : worker.ports = [] ∨ Exists fun port => worker.ports = [port] ∧
    Exists fun listener => listener ∈ worker.listeners ∧ BoundTo listener port

theorem boundTo_of_bindTo {address : Address} {port : Int} {endpoint : Endpoint Address}
    (first : WorkerPorts.firstPort cfg = some port)
    (bound : network.bindTo ⟨address, UInt16.ofInt port⟩ = some endpoint) :
    BoundTo ⟨cfg, ⟨true, some endpoint, true⟩⟩ port := by
  refine ⟨first, fun proper => ⟨endpoint, rfl, ?_⟩⟩
  rw [WorkerPorts.bindTo_of_port proper] at bound
  rcases Option.ite_none_left_eq_some.mp bound with ⟨_, same⟩
  cases same
  rfl

/-- What a call of `run_listener` that is true has done. -/
theorem opened_of_true (called : worker.runListener makeAddress cfg network = (next, .ok true)) :
    Exists fun listener => next.listeners = worker.listeners ++ [listener] ∧
      listener.given = cfg ∧ Listening listener ∧
        (next.ports = worker.ports ∨
          Exists fun port => next.ports = [port] ∧ BoundTo listener port) := by
  have longer : next.listeners ≠ worker.listeners := by
    rw [WorkerPorts.runListener] at called
    split at called
    · cases called
      intro same
      have lengths := congrArg List.length same
      rw [List.length_append] at lengths
      exact absurd lengths (Nat.ne_of_gt (Nat.lt_succ_self _))
    · rename_i other _
      cases called
      exact (other rfl).elim
  have after : next = worker.afterCall makeAddress cfg network := by
    rw [← WorkerPorts.runListener_eq, called]
  rw [WorkerPorts.afterCall] at after
  cases first : WorkerPorts.firstBind makeAddress cfg network with
  | none =>
      rw [first] at after
      exact absurd (congrArg WorkerPorts.listeners after) longer
  | some bind =>
      rcases bind with ⟨address, port⟩
      rw [first] at after
      dsimp only at after
      split at after
      · rename_i endpoint bound
        split at after
        · have known := (WorkerPorts.firstBind_eq_some.mp first).1.2
          rw [after]
          exact ⟨_, rfl, rfl, ⟨rfl, rfl⟩, Or.inr ⟨port, rfl, boundTo_of_bindTo known bound⟩⟩
        · exact absurd (congrArg WorkerPorts.listeners after) longer
      · split at after
        · rw [after]
          exact ⟨_, rfl, rfl, ⟨rfl, rfl⟩, Or.inl rfl⟩
        · exact absurd (congrArg WorkerPorts.listeners after) longer

theorem serves_create : Serves [] (WorkerPorts.create : WorkerPorts Address) where
  opened := rfl
  listening := fun _ none => absurd none List.not_mem_nil
  announced := Or.inl rfl

theorem Serves.opens {before : List ListenerConf} (serves : Serves before worker)
    (called : worker.runListener makeAddress cfg network = (next, .ok true)) :
    Serves (before ++ [cfg]) next := by
  rcases opened_of_true called with ⟨listener, listeners, given, listening, ports⟩
  refine ⟨?_, fun other member => ?_, ?_⟩
  · rw [listeners, List.map_append, serves.opened, List.map_singleton, given]
  · rw [listeners] at member
    rcases List.mem_append.mp member with old | new
    · exact serves.listening other old
    · rw [List.mem_singleton.mp new]
      exact listening
  · rw [listeners]
    rcases ports with same | ⟨port, only, bound⟩
    · rw [same]
      refine serves.announced.imp_right fun ⟨port, only, other, member, bound⟩ => ?_
      exact ⟨port, only, other, List.mem_append_left _ member, bound⟩
    · exact Or.inr ⟨port, only, listener, List.mem_concat_self .., bound⟩

end Listeners

/-! ## One start message -/

section Announced

variable {platform : ControlPlatform} {makeAddress : String -> Option Address}
  {listeners : List ListenerConf} {process next : WorkerProcess Address platform.longBits}

/-- What the main thread has done so far. -/
def StageKept (listeners : List ListenerConf) (process : WorkerProcess Address platform.longBits) :
    Prop :=
  match process.stage with
  | .opening rest => process.link.requests = [] ∧
      Exists fun before => before ++ rest = listeners ∧ Serves before process.ports
  | .failed => process.link.requests = []
  | .running => Serves listeners process.ports ∧ Exists fun constructed =>
      process.link.requests = [.startupOf constructed process.ports.announced]

/-- Other steps than `send` pass nothing to `send`. -/
theorem requests_same {link after : WorkerLink platform.longBits}
    {label : LinkLabel platform.longBits} (silent : announces label = false)
    (taken : WorkerLink.step platform link label = some after) :
    after.requests = link.requests := by
  cases WorkerLink.linked_of_step taken with
  | @worked own worker alone stepped =>
      cases own with
      | send message => cases silent
      | _ => exact List.append_nil _
  | _ => rfl

theorem stageKept_step {label : ProcessLabel Address platform.longBits}
    (kept : StageKept listeners process)
    (taken : step platform makeAddress process label = some next) : StageKept listeners next := by
  cases label with
  | link label =>
      rcases Option.ite_none_left_eq_some.mp taken with ⟨silent, moved⟩
      rcases Option.map_eq_some_iff.mp moved with ⟨link, stepped, rfl⟩
      have same := requests_same (Bool.eq_false_iff.mpr silent) stepped
      unfold StageKept at kept ⊢
      simp only [same]
      exact kept
  | listens network =>
      change process.listen makeAddress network = some next at taken
      rw [listen] at taken
      unfold StageKept at kept
      cases stage : process.stage with
      | opening rest =>
          cases rest with
          | nil =>
              rw [stage] at taken
              cases taken
          | cons e rest =>
              rw [stage] at kept taken
              rcases kept with ⟨silent, before, whole, serves⟩
              dsimp only at taken
              split at taken
              · rename_i ports called
                cases taken
                refine ⟨silent, before ++ [e], ?_, serves.opens called⟩
                rw [List.append_assoc]
                exact whole
              · cases taken
                exact silent
      | failed =>
          rw [stage] at taken
          cases taken
      | running =>
          rw [stage] at taken
          cases taken
  | runs constructed =>
      change process.run platform constructed = some next at taken
      rw [run] at taken
      unfold StageKept at kept
      cases stage : process.stage with
      | opening rest =>
          cases rest with
          | nil =>
              rw [stage] at kept taken
              rcases kept with ⟨silent, before, whole, serves⟩
              rcases Option.map_eq_some_iff.mp taken with ⟨link, stepped, rfl⟩
              rw [List.append_nil] at whole
              subst whole
              refine ⟨serves, constructed, ?_⟩
              cases WorkerLink.linked_of_step stepped with
              | worked alone own =>
                  change process.link.requests ++ [_] = _
                  rw [silent]
                  rfl
          | cons e rest =>
              rw [stage] at taken
              cases taken
      | failed =>
          rw [stage] at taken
          cases taken
      | running =>
          rw [stage] at taken
          cases taken

theorem stageKept_reachable
    (reachable : (system platform makeAddress listeners).Reachable process) :
    StageKept listeners process := by
  refine reachable.invariant ?_ ?_
  · rintro process start
    have created : process = create platform.longBits listeners := start
    rw [created]
    exact ⟨rfl, [], rfl, serves_create⟩
  · rintro process label next kept taken
    exact stageKept_step kept taken

theorem link_step {label : ProcessLabel Address platform.longBits}
    (taken : step platform makeAddress process label = some next) :
    next.link = process.link ∨ Exists fun own =>
      (process.readsApart label = true -> process.link.readsApart own = true) ∧
        WorkerLink.step platform process.link own = some next.link := by
  cases label with
  | link label =>
      rcases Option.ite_none_left_eq_some.mp taken with ⟨_, moved⟩
      rcases Option.map_eq_some_iff.mp moved with ⟨link, stepped, rfl⟩
      exact Or.inr ⟨label, id, stepped⟩
  | listens network =>
      change process.listen makeAddress network = some next at taken
      rw [listen] at taken
      split at taken
      · split at taken
        · cases taken
          exact Or.inl rfl
        · cases taken
          exact Or.inl rfl
      · cases taken
  | runs constructed =>
      change process.run platform constructed = some next at taken
      rw [run] at taken
      split at taken
      · rcases Option.map_eq_some_iff.mp taken with ⟨link, stepped, rfl⟩
        exact Or.inr ⟨_, fun _ => rfl, stepped⟩
      · cases taken

theorem link_apart (reachable : ((system platform makeAddress listeners).restrict
      fun process label => process.readsApart label = true).Reachable process) :
    ((WorkerLink.system platform).restrict fun link label =>
      link.readsApart label = true).Reachable process.link := by
  refine reachable.projected _ WorkerProcess.link ?_ ?_
  · rintro process start
    have created : process = create platform.longBits listeners := start
    rw [created]
    rfl
  · rintro process label next ⟨apart, taken⟩
    exact (link_step taken).imp_right fun ⟨own, guarded, stepped⟩ =>
      ⟨own, guarded apart, stepped⟩

/-- The control program takes at most one start message of a worker, and only when all listeners
of the worker are listening; the message has a port that one of them is bound to, or 0 if the
registry has none. -/
theorem registered_when_serving (platform : ControlPlatform)
    (makeAddress : String -> Option Address) (listeners : List ListenerConf)
    (process : WorkerProcess Address platform.longBits)
    (reachable : ((system platform makeAddress listeners).restrict
      fun process label => process.readsApart label = true).Reachable process)
    (alive : process.link.manager.server.terminated = false) (index client : Nat)
    (seat : process.link.seat = some (index, client)) :
    (process.link.manager.server.pipes index).startsOf client = [] ∨
      process.stage = .running ∧ Serves listeners process.ports ∧ Exists fun constructed =>
        (process.link.manager.server.pipes index).startsOf client =
          [.startupOf constructed process.ports.announced] := by
  have among : ((process.link.manager.server.pipes index).startsOf client).Sublist
      process.link.requests :=
    WorkerLink.startsOf_sublist (link_apart reachable) alive seat
  have kept := stageKept_reachable reachable.of_restrict
  unfold StageKept at kept
  cases stage : process.stage with
  | opening rest =>
      rw [stage] at kept
      rw [kept.1] at among
      exact Or.inl (List.sublist_nil.mp among)
  | failed =>
      rw [stage] at kept
      rw [kept] at among
      exact Or.inl (List.sublist_nil.mp among)
  | running =>
      rw [stage] at kept
      rcases kept with ⟨serves, constructed, requests⟩
      rw [requests] at among
      rcases List.sublist_singleton.mp among with none | one
      · exact Or.inl none
      · exact Or.inr ⟨rfl, serves, constructed, one⟩

/-! ## A worker that is registered -/

/-- While the main thread waits, the control program and the pipe go on. -/
theorem run_link {link after : WorkerLink platform.longBits}
    {labels : List (LinkLabel platform.longBits)}
    (ran : ((WorkerLink.system platform).restrict fun link label =>
      link.readsApart label = true).Run link labels after)
    (silent : forall label, label ∈ labels -> announces label = false)
    (ports : WorkerPorts Address) (stage : WorkerStage) :
    ((system platform makeAddress listeners).restrict fun process label =>
      process.readsApart label = true).Run ⟨link, ports, stage⟩ (labels.map .link)
        ⟨after, ports, stage⟩ := by
  induction ran with
  | refl => exact .refl _
  | @snoc middle last labels label ran taken inductionHypothesis =>
      rw [List.map_append]
      refine .snoc (inductionHypothesis fun other member => silent other ?_) ⟨taken.1, ?_⟩
      · exact List.mem_append_left _ member
      · have quiet := silent label (List.mem_concat_self ..)
        have stepped : WorkerLink.step platform middle label = some last := taken.2
        change step platform makeAddress ⟨middle, ports, stage⟩ (.link label) = _
        simp only [step, quiet, stepped, Bool.false_eq_true, if_false, Option.map_some]

end Announced

section Example

open ControlPlatform (formatPlatform startupMessage zeroConstructed)
open WorkerLink (seatedLabels startLabels)

/-- What the constructor of the start message draws. -/
def firstConstructed : Constructed formatPlatform.longBits :=
  ⟨1, 1, 1, 0, .base, 0⟩

theorem startupOf_first : .startupOf firstConstructed 80 = startupMessage := by
  decide

def onePort : WorkerPorts Octets :=
  (WorkerPorts.create.runListener WorkerPorts.loopbackAddress (WorkerPorts.portConf "80")
    WorkerPorts.freeNetwork).1

theorem onePort_opened : WorkerPorts.create.runListener WorkerPorts.loopbackAddress
    (WorkerPorts.portConf "80") WorkerPorts.freeNetwork = (onePort, .ok true) ∧
      onePort.announced = 80 := by
  decide +kernel

/-- What follows the start message. -/
def behindStart : List (LinkLabel formatPlatform.longBits) :=
  startLabels.drop (seatedLabels.length + 1)

theorem startLabels_split :
    startLabels = seatedLabels ++ [.worker (.send startupMessage)] ++ behindStart :=
  rfl

theorem silent_of_all {labels : List (LinkLabel formatPlatform.longBits)}
    (all : (labels.all fun label => !announces label) = true) :
    forall label, label ∈ labels -> announces label = false := fun label member =>
  (Bool.not_eq_true' _).mp (List.all_eq_true.mp all label member)

theorem others_silent : (seatedLabels.all fun label => !announces label) = true ∧
    (behindStart.all fun label => !announces label) = true := by
  decide +kernel

/-- The worker of the example, with its main thread. -/
def registeredProcess : WorkerProcess Octets formatPlatform.longBits :=
  ⟨WorkerLink.registeredLink, onePort, .running⟩

def registeredSystem : Transition.System (WorkerProcess Octets formatPlatform.longBits)
    (ProcessLabel Octets formatPlatform.longBits) :=
  (system formatPlatform WorkerPorts.loopbackAddress [WorkerPorts.portConf "80"]).restrict
    fun process label => process.readsApart label = true

theorem registeredProcess_reachable : registeredSystem.Reachable registeredProcess := by
  have computed : Transition.System.execute (Transition.System.guarded
      (fun link label => WorkerLink.readsApart link label = true)
        (WorkerLink.step formatPlatform)) (.create formatPlatform.longBits) startLabels =
      some WorkerLink.startRead :=
    (Option.some_get WorkerLink.startLabels_taken).symm
  rw [startLabels_split] at computed
  rcases Transition.System.execute_append computed with ⟨sent, early, late⟩
  rcases Transition.System.execute_append early with ⟨seated, opening, send⟩
  have opened : registeredSystem.Run
      (create formatPlatform.longBits [WorkerPorts.portConf "80"]) [.listens WorkerPorts.freeNetwork]
      ⟨.create formatPlatform.longBits, onePort, .opening []⟩ := by
    have stepped : step formatPlatform WorkerPorts.loopbackAddress
        (create formatPlatform.longBits [WorkerPorts.portConf "80"])
        (.listens WorkerPorts.freeNetwork) =
          some ⟨.create formatPlatform.longBits, onePort, .opening []⟩ := by
      simp only [step, listen, create, onePort_opened.1]
    exact .single ⟨rfl, stepped⟩
  have waits : registeredSystem.Run ⟨.create formatPlatform.longBits, onePort, .opening []⟩
      (seatedLabels.map .link) ⟨seated, onePort, .opening []⟩ :=
    run_link (.of_execute_guarded opening) (silent_of_all others_silent.1) onePort (.opening [])
  have runs : registeredSystem.Run ⟨seated, onePort, .opening []⟩ [.runs firstConstructed]
      ⟨sent, onePort, .running⟩ := by
    rcases Option.bind_eq_some_iff.mp send with ⟨next, guarded, last⟩
    cases last
    have sends := (Option.ite_none_right_eq_some.mp guarded).2
    have stepped : step formatPlatform WorkerPorts.loopbackAddress
        ⟨seated, onePort, .opening []⟩ (.runs firstConstructed) =
          some ⟨sent, onePort, .running⟩ := by
      simp only [step, run, onePort_opened.2, startupOf_first, sends, Option.map_some]
    exact .single ⟨rfl, stepped⟩
  have reads : registeredSystem.Run ⟨sent, onePort, .running⟩ (behindStart.map .link)
      ⟨WorkerLink.startRead, onePort, .running⟩ :=
    run_link (.of_execute_guarded late) (silent_of_all others_silent.2) onePort .running
  have decodes : registeredSystem.Run ⟨WorkerLink.startRead, onePort, .running⟩
      [.link (.manager (.server (.loop (.constructed zeroConstructed))))]
      ⟨WorkerLink.startDecoded, onePort, .running⟩ :=
    run_link (.single ⟨rfl, WorkerLink.startRead_decodes⟩)
      (List.forall_mem_singleton.mpr rfl) onePort .running
  have registers : registeredSystem.Run ⟨WorkerLink.startDecoded, onePort, .running⟩
      (WorkerLink.registerLabels.map .link) registeredProcess :=
    run_link (.of_execute_guarded (Option.some_get WorkerLink.registerLabels_taken).symm)
      (silent_of_all (by decide +kernel)) onePort .running
  have start : registeredSystem.Reachable
      (create formatPlatform.longBits [WorkerPorts.portConf "80"]) := .initially rfl
  exact ((((start.extend opened).extend waits).extend runs).extend reads).extend
    (decodes.trans registers)

/-- The control program has taken the start message. -/
theorem registered_when_serving_one :
    (registeredProcess.link.manager.server.pipes 0).startsOf 0 = [startupMessage] ∧
      ((registeredProcess.link.manager.server.pipes 0).startsOf 0 = [] ∨
        registeredProcess.stage = .running ∧
          Serves [WorkerPorts.portConf "80"] registeredProcess.ports ∧
            Exists fun constructed =>
              (registeredProcess.link.manager.server.pipes 0).startsOf 0 =
                [.startupOf constructed registeredProcess.ports.announced]) := by
  have checked := of_decide_eq_true WorkerLink.registeredLink_checked
  exact ⟨checked.2.2, registered_when_serving formatPlatform WorkerPorts.loopbackAddress
    [WorkerPorts.portConf "80"] registeredProcess registeredProcess_reachable
    WorkerLink.registeredLink_alive 0 0 checked.2.1⟩

end Example

end WorkerProcess

end EasyProspect
