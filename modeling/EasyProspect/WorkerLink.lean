import EasyProspect.ClientReads
import EasyProspect.WorkerManager

namespace EasyProspect

/-!
# A worker and the control program

A worker opens an instance of the pipe and is from then on the client that occupies it.
What one end writes is on its way until it arrives at the other end; messages arrive in
order, and any of them may be lost.  Other clients come and go as they like.
-/

open Delivery
open MessagePack (Object)

namespace ControlPlatform

variable {platform : ControlPlatform}

/-- The members of a base message name no class. -/
theorem scan_untagged (members : ProcessMessageBase platform.longBits)
    (constructed : Constructed platform.longBits) (deserialized : Object)
    (untagged : ProcessMessage.castTo members.type = none) :
    platform.scan constructed deserialized (namedEntries (baseMembers members)) =
      .returned none := by
  have first : platform.convertAs constructed deserialized members.type = none :=
    convertAs_eq_none_iff.mpr untagged
  have other : forall {name : String} (value : Object),
      octetsOf name ≠ octetsOf "type" -> octetsOf name ≠ octetsOf "process_message_base" ->
        platform.currType constructed (.str (octetsOf name), value) = .ok none := by
    intro name value type base
    simp only [currType, asString, bind, Except.bind, if_neg type, if_neg base]
    rfl
  simp only [baseMembers, namedEntries, List.map_cons, List.map_nil]
  rw [scan, currType_type (asType_integer members.type)]
  simp only [first]
  rw [scan, other _ (by decide) (by decide), scan, other _ (by decide) (by decide), scan,
    other _ (by decide) (by decide), scan, other _ (by decide) (by decide), scan,
    other _ (by decide) (by decide), scan]

theorem processInput_of_receive {constructed : Constructed platform.longBits}
    {input : Octets} {bytes : Nat} {message : ProcessMessage platform.longBits}
    (receives : platform.receive constructed input bytes = .returned message) :
    platform.processInput constructed input bytes = .returned (some message) := by
  unfold receive at receives
  split at receives
  · cases receives
  · cases receives
  · cases receives
  · rename_i read found
    split at receives
    · cases receives
      exact found
    · cases receives
    · cases receives

/-- What becomes of the octets of a packed map. -/
theorem scanned_of_decodes {entries : List (Object × Object)}
    {received : ProcessMessage platform.longBits}
    (encodable : MessagePack.Encodable (.map entries))
    (decodes : platform.Decodes (platform.pack (.map entries)) received) :
    Exists fun constructed =>
      platform.scan constructed (.map entries) entries = .returned (some received) := by
  rcases decodes with ⟨constructed, receives⟩
  have whole := processInput_packed encodable constructed []
  rw [List.append_nil, processInput_of_receive receives] at whole
  exact ⟨constructed, whole.symm⟩

/-- Octets that were packed are read as nothing but the message they were packed from. -/
theorem decodes_packed {message received : ProcessMessage platform.longBits} {octets : Octets}
    (packed : platform.packMessage message = .returned octets)
    (decodes : platform.Decodes octets received) : received = message := by
  have same : forall {entries : List (Object × Object)},
      MessagePack.Encodable (.map entries) -> octets = platform.pack (.map entries) ->
        (forall constructed, platform.scan constructed (.map entries) entries =
          .returned (some message)) -> received = message := by
    rintro entries encodable rfl scans
    rcases scanned_of_decodes encodable decodes with ⟨constructed, scanned⟩
    rw [scans constructed] at scanned
    cases scanned
    rfl
  have nothing : octets = platform.pack (packBase message.members) ->
      ProcessMessage.castTo message.type = none -> False := by
    rintro rfl untagged
    rcases scanned_of_decodes (encodable_packBase message.members) decodes with
      ⟨constructed, scanned⟩
    rw [scan_untagged message.members constructed _ untagged] at scanned
    cases scanned
  unfold packMessage at packed
  cases tag : message.type with
  | none =>
      rw [tag] at packed nothing
      exact False.elim (nothing (Outcome.returned.inj packed).symm rfl)
  | base =>
      rw [tag] at packed nothing
      exact False.elim (nothing (Outcome.returned.inj packed).symm rfl)
  | start =>
      rw [tag] at packed
      cases message with
      | startup members =>
          have start : members.type = .start := tag
          refine same (encodable_packBase members) (Outcome.returned.inj packed).symm ?_
          intro constructed
          apply scan_packBase
          rw [start, convertAs, convertBase_packBase]
          rfl
      | _ => cases packed
  | cmdStop =>
      rw [tag] at packed
      cases message with
      | stop members =>
          have stop : members.type = .cmdStop := tag
          refine same (encodable_packBase members) (Outcome.returned.inj packed).symm ?_
          intro constructed
          apply scan_packBase
          rw [stop, convertAs, convertBase_packBase]
          rfl
      | _ => cases packed
  | cmdResult =>
      rw [tag] at packed
      cases message with
      | cmdResult members typeCmd result =>
          have done : members.type = .cmdResult := tag
          refine same (encodable_packCmdResult members typeCmd result)
            (Outcome.returned.inj packed).symm ?_
          intro constructed
          apply scan_packCmdResult
          rw [done, convertAs, convertCmdResult_packCmdResult]
      | _ => cases packed
  | _ =>
      rw [tag] at packed
      cases packed

end ControlPlatform

/-! ## What a pipe has written and been sent -/

namespace ControlPipe

/-- What has been written while the client occupied the pipe. -/
def writtenTo {longBits : Nat} (client : Nat) (pipe : ControlPipe longBits) : List Octets :=
  (pipe.written.filter fun entry => entry.2 = client).map fun entry => entry.1.octets

theorem writtenTo_first {longBits : Nat} {pipe next : ControlPipe longBits}
    (grows : pipe.written <+: next.written) (client : Nat) :
    pipe.writtenTo client <+: next.writtenTo client :=
  (grows.filter _).map _

end ControlPipe

namespace PipeView

variable {platform : ControlPlatform} {index : Nat} {input : Octets} {clients : Nat}
  {view next : PipeView platform.longBits} {label : ServerLabel platform.longBits}

theorem written_grows (taken : PipeStep platform index input clients view label next) :
    view.pipe.written <+: next.pipe.written := by
  cases taken with
  | loop taken =>
      cases ControlPipe.advanced_of_advance taken with
      | writeCompleted _ => exact List.prefix_append _ _
      | writeStarted _ => exact List.prefix_append _ _
      | disconnected succeeded => cases succeeded <;> exact List.prefix_refl _
      | _ => exact List.prefix_refl _
  | arrive _ => exact List.prefix_refl _
  | send _ => exact List.prefix_refl _
  | nextMessage taken =>
      rcases ControlPipe.dequeued_of_dequeue taken with ⟨incoming, rest, queue, rfl⟩
      exact List.prefix_refl _
  | event taken =>
      have occurred := ControlPipe.occurred_of_occurs taken
      cases occurred <;> exact List.prefix_refl _

/-- What has been written has been handed to `WriteFile`. -/
def WrittenKept {longBits : Nat} (view : PipeView longBits) : Prop :=
  (view.pipe.written.map Prod.fst).Sublist view.pipe.handed

theorem writtenKept_step (kept : view.WrittenKept)
    (taken : PipeStep platform index input clients view label next) : next.WrittenKept := by
  unfold WrittenKept at kept ⊢
  cases taken with
  | loop taken =>
      cases ControlPipe.advanced_of_advance taken with
      | writeCompleted _ =>
          simp only [List.map_append, List.map_cons, List.map_nil]
          exact kept.append (List.Sublist.refl _)
      | writeStarted _ =>
          simp only [List.map_append, List.map_cons, List.map_nil]
          exact kept.append (List.Sublist.refl _)
      | writeFailed => exact kept.trans (List.sublist_append_left _ _)
      | disconnected succeeded => cases succeeded <;> exact kept
      | _ => exact kept
  | arrive _ => exact kept
  | send _ => exact kept
  | nextMessage taken =>
      rcases ControlPipe.dequeued_of_dequeue taken with ⟨incoming, rest, queue, rfl⟩
      exact kept
  | event taken =>
      have occurred := ControlPipe.occurred_of_occurs taken
      cases occurred <;> exact kept

theorem writtenKept_reachable
    (reachable : (ControlPipe.system platform index).Reachable view) : view.WrittenKept := by
  refine reachable.invariant ?_ ?_
  · rintro ⟨stage, pipe⟩ ⟨fresh, _⟩
    have created : pipe = .create platform.longBits := fresh
    rw [created]
    exact List.Sublist.refl []
  · rintro view label next kept ⟨input, clients, taken⟩
    exact writtenKept_step kept taken

/-- What has been written to a client has been sent. -/
theorem writtenTo_sublist (kept : view.WrittenKept) (queue : view.QueueKept) (client : Nat) :
    (view.pipe.writtenTo client).Sublist (view.pipe.sent.map Outgoing.octets) := by
  have chosen : (view.pipe.writtenTo client).Sublist
      ((view.pipe.written.map Prod.fst).map Outgoing.octets) := by
    rw [List.map_map]
    exact List.filter_sublist.map _
  exact chosen.trans ((kept.trans queue.handed_first.sublist).map _)

/-- What a client has sent changes only when the client that occupies the pipe sends. -/
theorem sentBy_step (taken : PipeStep platform index input clients view label next)
    (client : Nat) :
    next.pipe.sentBy client = view.pipe.sentBy client ∨ Exists fun octets =>
      label = .pipe index (.clientSends octets) ∧ view.pipe.connection = .connected client ∧
        next.pipe.sentBy client = view.pipe.sentBy client ++ [octets] := by
  cases taken with
  | loop taken =>
      cases ControlPipe.advanced_of_advance taken with
      | disconnected succeeded => cases succeeded <;> exact Or.inl rfl
      | _ => exact Or.inl rfl
  | arrive _ => exact Or.inl rfl
  | send _ => exact Or.inl rfl
  | nextMessage taken =>
      rcases ControlPipe.dequeued_of_dequeue taken with ⟨incoming, rest, queue, rfl⟩
      exact Or.inl rfl
  | @event stage pipe next event taken =>
      cases ControlPipe.occurred_of_occurs taken with
      | @clientSent sender octets connected =>
          by_cases same : sender = client
          · refine Or.inr ⟨octets, rfl, same ▸ connected, ?_⟩
            rw [ControlPipe.sentBy_of_send rfl, if_pos same]
          · refine Or.inl ?_
            rw [ControlPipe.sentBy_of_send rfl, if_neg same, List.append_nil]
      | _ => exact Or.inl rfl

/-- The clients of a pipe have been counted. -/
structure Numbered {longBits : Nat} (view : PipeView longBits) (clients : Nat) : Prop where
  known : forall entry, entry ∈ view.pipe.clientSent -> entry.1 < clients
  present : forall client, view.pipe.client = some client -> client < clients

theorem Numbered.later {longBits : Nat} {view : PipeView longBits} {clients later : Nat}
    (numbered : view.Numbered clients) (grows : clients ≤ later) : view.Numbered later where
  known := fun entry member => Nat.lt_of_lt_of_le (numbered.known entry member) grows
  present := fun client here => Nat.lt_of_lt_of_le (numbered.present client here) grows

theorem numbered_step (numbered : view.Numbered clients)
    (taken : PipeStep platform index input clients view label next) :
    next.Numbered (clients + label.connects) := by
  refine Numbered.later ?_ (Nat.le_refl _)
  cases taken with
  | loop taken =>
      refine Numbered.later ?_ (Nat.le_add_right clients _)
      cases ControlPipe.advanced_of_advance taken with
      | disconnected succeeded =>
          cases succeeded with
          | true => exact ⟨numbered.known, fun client here => by cases here⟩
          | false => exact ⟨numbered.known, numbered.present⟩
      | connected connects flags moves =>
          refine ⟨numbered.known, fun client here => numbered.present client ?_⟩
          exact (client_of_connects connects).symm.trans here
      | _ => exact ⟨numbered.known, numbered.present⟩
  | arrive _ =>
      refine Numbered.later ?_ (Nat.le_add_right clients _)
      exact ⟨numbered.known, numbered.present⟩
  | send _ => exact ⟨numbered.known, numbered.present⟩
  | nextMessage taken =>
      rcases ControlPipe.dequeued_of_dequeue taken with ⟨incoming, rest, queue, rfl⟩
      exact ⟨numbered.known, numbered.present⟩
  | event taken =>
      cases ControlPipe.occurred_of_occurs taken with
      | clientConnected _ | connectCompleted _ =>
          refine ⟨(numbered.later (Nat.le_succ clients)).known, fun client here => ?_⟩
          cases here
          exact Nat.lt_succ_self clients
      | @clientSent sender octets connected =>
          refine ⟨fun entry member => ?_, numbered.present⟩
          rcases List.mem_append.mp member with old | new
          · exact numbered.known entry old
          · rw [List.mem_singleton.mp new]
            refine numbered.present sender ?_
            rw [ControlPipe.client, connected]
            rfl
      | clientClosed connected =>
          refine ⟨numbered.known, fun client here => numbered.present client ?_⟩
          rw [ControlPipe.client, connected]
          exact here
      | _ => exact ⟨numbered.known, numbered.present⟩

end PipeView

namespace ControlServer

variable {platform : ControlPlatform}

def Numbered {longBits : Nat} (world : ControlServer longBits) : Prop :=
  forall index, index < instances -> (world.view index).Numbered world.clients

theorem numbered_reachable {world : ControlServer platform.longBits}
    (reachable : (system platform).Reachable world) : Numbered world := by
  refine reachable.invariant ?_ ?_
  · rintro world start index within
    have created : world = create platform.longBits := start
    rw [created]
    exact ⟨fun entry member => absurd member List.not_mem_nil, fun client here => by cases here⟩
  · rintro world label next numbered taken index within
    rw [clients_of_step taken]
    rcases seen taken within with same | own
    · rw [same]
      exact (numbered index within).later (Nat.le_add_right _ _)
    · exact PipeView.numbered_step (numbered index within) own

/-- The next client has sent nothing. -/
theorem sentBy_next {world : ControlServer platform.longBits}
    (reachable : (system platform).Reachable world) {index : Nat} (within : index < instances) :
    (world.pipes index).sentBy world.clients = [] := by
  have numbered := numbered_reachable reachable index within
  unfold ControlPipe.sentBy
  rw [List.filter_eq_nil_iff.mpr, List.map_nil]
  intro entry member same
  exact Nat.ne_of_lt (numbered.known entry member) (of_decide_eq_true same)

end ControlServer

/-! ## What a worker has sent and handed over -/

/-- The message is packed to these octets. -/
def ControlPlatform.Packs (platform : ControlPlatform) (message : ProcessMessage platform.longBits)
    (octets : Octets) : Prop :=
  platform.packMessage message = .returned octets

namespace ControlClient

variable {platform : ControlPlatform} {world next : ControlClient platform.longBits}
  {label : ClientLabel platform.longBits}

theorem handed_grows (taken : step platform world label = some next) :
    world.handed <+: next.handed := by
  cases stepped_of_step taken with
  | written point writes => exact List.prefix_append _ _
  | _ => exact List.prefix_refl _

/-- Only `send` adds to what is sent, and it adds what its message is packed to. -/
theorem sent_step (taken : step platform world label = some next) :
    next.sent = world.sent ∨ Exists fun message => Exists fun octets =>
      label = .send message ∧ platform.Packs message octets ∧
        next.sent = world.sent ++ [octets] := by
  cases label with
  | send message =>
      unfold step at taken
      split at taken
      · cases taken
      · cases taken
        unfold send
        split
        · exact Or.inl rfl
        · split
          · rename_i text octets shown packed
            exact Or.inr ⟨message, octets, rfl, packed, rfl⟩
          · exact Or.inl rfl
          · exact Or.inl rfl
          · exact Or.inl rfl
  | _ =>
      cases stepped_of_step taken with
      | _ => exact Or.inl rfl

end ControlClient

/-! ## Both ends and what is between them -/

structure WorkerLink (longBits : Nat) where
  manager : WorkerManager longBits
  worker : ControlClient.Traced longBits
  /-- The pipe that the worker has opened, with the worker's number among its clients. -/
  seat : Option (Nat × Nat)
  /-- What is on its way to the server, and to the worker. -/
  upward : List Octets
  downward : List Octets
  /-- What has been passed to `send` of the worker. -/
  requests : List (ProcessMessage longBits)

/-- A step of the control program or of the worker alone, the opening of the pipe, or the
end of a message's way. -/
inductive LinkLabel (longBits : Nat)
  | manager (label : ManagerLabel longBits)
  | worker (label : ClientLabel longBits)
  | opens (index : Nat)
  | uploads (arrives : Bool)
  | downloads (arrives : Bool)

namespace WorkerLink

variable {longBits : Nat}

def create (longBits : Nat) : WorkerLink longBits where
  manager := .create longBits
  worker := .create longBits
  seat := none
  upward := []
  downward := []
  requests := []

/-- What has arrived at the server. -/
def arrived (link : WorkerLink longBits) : List Octets :=
  match link.seat with
  | none => []
  | some (index, client) => (link.manager.server.pipes index).sentBy client

/-- What the server has written to the worker. -/
def written (link : WorkerLink longBits) : List Octets :=
  match link.seat with
  | none => []
  | some (index, client) => (link.manager.server.pipes index).writtenTo client

/-- What the control program writes to the worker is on its way. -/
def managed (link : WorkerLink longBits) (manager : WorkerManager longBits) :
    WorkerLink longBits :=
  let moved := { link with manager := manager }
  { moved with downward := link.downward ++ moved.written.drop link.written.length }

/-- The messages of the worker come from the worker alone. -/
def speaks (link : WorkerLink longBits) : ManagerLabel longBits -> Bool
  | .server (.pipe index (.clientSends _)) =>
      link.seat.any fun seat =>
        seat.1 = index ∧ (link.manager.server.pipes index).connection = .connected seat.2
  | _ => false

/-- What a call of `WriteFile` of the worker puts on its way. -/
def uploaded (client : ControlClient longBits) : ClientLabel longBits -> List Octets
  | .loop (.writeFile result) =>
      match client.point with
      | .writeFile (some buffer) => if result = .failed then [] else [buffer]
      | _ => []
  | _ => []

def requested : ClientLabel longBits -> List (ProcessMessage longBits)
  | .send message => [message]
  | _ => []

/-- A step in which the server takes part. -/
def joint : ClientLabel longBits -> Bool
  | .loop (.openFile .opened) => true
  | .serverSends _ => true
  | _ => false

/-- The first message on its way to the server arrives. -/
def uploads (platform : ControlPlatform) (link : WorkerLink platform.longBits)
    (octets : Octets) : Option (WorkerLink platform.longBits) :=
  match link.seat with
  | none => none
  | some (index, client) =>
      if (link.manager.server.pipes index).connection = .connected client then
        (WorkerManager.step platform link.manager
          (.server (.pipe index (.clientSends octets)))).map link.managed
      else
        none

def step (platform : ControlPlatform) (link : WorkerLink platform.longBits) :
    LinkLabel platform.longBits -> Option (WorkerLink platform.longBits)
  | .manager label =>
      if link.speaks label then none
      else (WorkerManager.step platform link.manager label).map link.managed
  | .worker label =>
      if joint label then none
      else (ControlClient.Traced.step platform link.worker label).map fun worker =>
        { link with
          worker := worker
          upward := link.upward ++ uploaded link.worker.client label
          requests := link.requests ++ requested label }
  | .opens index =>
      if link.seat = none then
        (ControlClient.Traced.step platform link.worker (.loop (.openFile .opened))).bind
          fun worker =>
            (WorkerManager.step platform link.manager
              (.server (.pipe index .clientConnects))).map fun manager =>
              { link with
                manager := manager
                worker := worker
                seat := some (index, link.manager.server.clients) }
      else
        none
  | .uploads arrives =>
      match link.upward with
      | [] => none
      | octets :: rest =>
          if arrives then
            (link.uploads platform octets).map fun arrived => { arrived with upward := rest }
          else
            some { link with upward := rest }
  | .downloads arrives =>
      match link.downward with
      | [] => none
      | octets :: rest =>
          if arrives then
            (ControlClient.Traced.step platform link.worker (.serverSends octets)).map
              fun worker => { link with worker := worker, downward := rest }
          else
            some { link with downward := rest }

def system (platform : ControlPlatform) :
    Transition.System (WorkerLink platform.longBits) (LinkLabel platform.longBits) :=
  .ofStep (fun link => link = create platform.longBits) (step platform)

/-- No read of the server stores its data over a message that is not decoded. -/
def readsApart {platform : ControlPlatform} (link : WorkerLink platform.longBits) :
    LinkLabel platform.longBits -> Bool
  | .manager label => WorkerManager.readsApart link.manager label
  | _ => true

/-- The worker's operations are done in turn, and no message to it is too long. -/
def inTurn (link : WorkerLink longBits) : LinkLabel longBits -> Bool
  | .worker label => link.worker.inTurn label
  | .downloads _ => link.downward.head?.all fun octets => octets.length ≤ inputSize
  | _ => true

variable {platform : ControlPlatform} {link next : WorkerLink platform.longBits}
  {label : LinkLabel platform.longBits}

/-- The steps that can be taken. -/
inductive Linked (platform : ControlPlatform) (link : WorkerLink platform.longBits) :
    LinkLabel platform.longBits -> WorkerLink platform.longBits -> Prop
  | managed {label : ManagerLabel platform.longBits} {manager : WorkerManager platform.longBits}
      (silent : link.speaks label = false)
      (taken : WorkerManager.step platform link.manager label = some manager) :
      Linked platform link (.manager label) (link.managed manager)
  | worked {label : ClientLabel platform.longBits}
      {worker : ControlClient.Traced platform.longBits} (alone : joint label = false)
      (taken : ControlClient.Traced.step platform link.worker label = some worker) :
      Linked platform link (.worker label)
        { link with
          worker := worker
          upward := link.upward ++ uploaded link.worker.client label
          requests := link.requests ++ requested label }
  | opened {index : Nat} {worker : ControlClient.Traced platform.longBits}
      {manager : WorkerManager platform.longBits} (free : link.seat = none)
      (opens : ControlClient.Traced.step platform link.worker (.loop (.openFile .opened)) =
        some worker)
      (connects : WorkerManager.step platform link.manager
        (.server (.pipe index .clientConnects)) = some manager) :
      Linked platform link (.opens index)
        { link with
          manager := manager
          worker := worker
          seat := some (index, link.manager.server.clients) }
  | uploaded {octets : Octets} {rest : List Octets} {index client : Nat}
      {manager : WorkerManager platform.longBits} (way : link.upward = octets :: rest)
      (seat : link.seat = some (index, client))
      (connected : (link.manager.server.pipes index).connection = .connected client)
      (taken : WorkerManager.step platform link.manager
        (.server (.pipe index (.clientSends octets))) = some manager) :
      Linked platform link (.uploads true) { link.managed manager with upward := rest }
  | uploadLost {octets : Octets} {rest : List Octets} (way : link.upward = octets :: rest) :
      Linked platform link (.uploads false) { link with upward := rest }
  | downloaded {octets : Octets} {rest : List Octets}
      {worker : ControlClient.Traced platform.longBits} (way : link.downward = octets :: rest)
      (taken : ControlClient.Traced.step platform link.worker (.serverSends octets) =
        some worker) :
      Linked platform link (.downloads true) { link with worker := worker, downward := rest }
  | downloadLost {octets : Octets} {rest : List Octets} (way : link.downward = octets :: rest) :
      Linked platform link (.downloads false) { link with downward := rest }

theorem linked_of_step (taken : step platform link label = some next) :
    Linked platform link label next := by
  cases label with
  | manager label =>
      simp only [step] at taken
      split at taken
      · cases taken
      · rename_i silent
        rcases Option.map_eq_some_iff.mp taken with ⟨manager, stepped, rfl⟩
        exact .managed (Bool.eq_false_iff.mpr silent) stepped
  | worker label =>
      simp only [step] at taken
      split at taken
      · cases taken
      · rename_i alone
        rcases Option.map_eq_some_iff.mp taken with ⟨worker, stepped, rfl⟩
        exact .worked (Bool.eq_false_iff.mpr alone) stepped
  | opens index =>
      rcases Option.ite_none_right_eq_some.mp taken with ⟨free, opened⟩
      rcases Option.bind_eq_some_iff.mp opened with ⟨worker, opens, mapped⟩
      rcases Option.map_eq_some_iff.mp mapped with ⟨manager, connects, rfl⟩
      exact .opened free opens connects
  | uploads arrives =>
      simp only [step] at taken
      split at taken
      · cases taken
      · rename_i octets rest way
        cases arrives with
        | false =>
            cases taken
            exact .uploadLost way
        | true =>
            rcases Option.map_eq_some_iff.mp taken with ⟨arrived, uploaded, rfl⟩
            unfold uploads at uploaded
            split at uploaded
            · cases uploaded
            · rename_i index client seat
              rcases Option.ite_none_right_eq_some.mp uploaded with ⟨connected, mapped⟩
              rcases Option.map_eq_some_iff.mp mapped with ⟨manager, stepped, rfl⟩
              exact .uploaded way seat connected stepped
  | downloads arrives =>
      simp only [step] at taken
      split at taken
      · cases taken
      · rename_i octets rest way
        cases arrives with
        | false =>
            cases taken
            exact .downloadLost way
        | true =>
            rcases Option.map_eq_some_iff.mp taken with ⟨worker, stepped, rfl⟩
            exact .downloaded way stepped

/-! ## The ends on their own -/

theorem manager_step (taken : step platform link label = some next) :
    next.manager = link.manager ∨ Exists fun own =>
      (link.readsApart label = true -> WorkerManager.readsApart link.manager own = true) ∧
        WorkerManager.step platform link.manager own = some next.manager := by
  cases linked_of_step taken with
  | managed silent stepped => exact Or.inr ⟨_, id, stepped⟩
  | opened free opens connects => exact Or.inr ⟨_, fun _ => rfl, connects⟩
  | uploaded way seat connected stepped => exact Or.inr ⟨_, fun _ => rfl, stepped⟩
  | _ => exact Or.inl rfl

theorem worker_step (taken : step platform link label = some next) :
    next.worker = link.worker ∨ Exists fun own =>
      (link.inTurn label = true -> link.worker.inTurn own = true) ∧
        ControlClient.Traced.step platform link.worker own = some next.worker := by
  cases linked_of_step taken with
  | worked alone stepped => exact Or.inr ⟨_, id, stepped⟩
  | opened free opens connects =>
      refine Or.inr ⟨_, fun _ => ?_, opens⟩
      unfold ControlClient.Traced.inTurn ControlClient.operationsDone
      cases link.worker.client.point <;> rfl
  | @downloaded octets rest worker way stepped =>
      refine Or.inr ⟨_, fun short => ?_, stepped⟩
      rw [inTurn, way] at short
      unfold ControlClient.Traced.inTurn ControlClient.operationsDone
      have fits : octets.length ≤ inputSize := of_decide_eq_true short
      cases link.worker.client.point <;>
        simp only [ControlClient.Traced.sentBy, List.all_cons, List.all_nil, fits, decide_true,
          Bool.and_self]
  | _ => exact Or.inl rfl

theorem manager_reachable (reachable : (system platform).Reachable link) :
    (WorkerManager.system platform).Reachable link.manager := by
  refine reachable.projected (WorkerManager.system platform) WorkerLink.manager ?_ ?_
  · rintro link start
    have created : link = create platform.longBits := start
    rw [created]
    rfl
  · rintro link label next taken
    exact (manager_step taken).imp_right fun ⟨own, _, stepped⟩ => ⟨own, stepped⟩

theorem manager_apart (reachable : ((system platform).restrict fun link label =>
      link.readsApart label = true).Reachable link) :
    ((WorkerManager.system platform).restrict fun manager label =>
      WorkerManager.readsApart manager label = true).Reachable link.manager := by
  refine reachable.projected _ WorkerLink.manager ?_ ?_
  · rintro link start
    have created : link = create platform.longBits := start
    rw [created]
    rfl
  · rintro link label next ⟨apart, taken⟩
    exact (manager_step taken).imp_right fun ⟨own, guarded, stepped⟩ =>
      ⟨own, guarded apart, stepped⟩

theorem worker_inTurn (reachable : ((system platform).restrict fun link label =>
      link.inTurn label = true).Reachable link) :
    ((ControlClient.Traced.system platform).restrict fun traced label =>
      traced.inTurn label = true).Reachable link.worker := by
  refine reachable.projected _ WorkerLink.worker ?_ ?_
  · rintro link start
    have created : link = create platform.longBits := start
    rw [created]
    rfl
  · rintro link label next ⟨turn, taken⟩
    exact (worker_step taken).imp_right fun ⟨own, guarded, stepped⟩ =>
      ⟨own, guarded turn, stepped⟩

/-! ## What is on its way -/

/-- What the worker puts on its way has been handed to `WriteFile`. -/
theorem handed_step {world next : ControlClient platform.longBits}
    {label : ClientLabel platform.longBits}
    (taken : ControlClient.step platform world label = some next) :
    next.handed = world.handed ++ uploaded world label ∨
      uploaded world label = [] ∧ world.handed <+: next.handed := by
  by_cases nothing : uploaded world label = []
  · exact Or.inr ⟨nothing, ControlClient.handed_grows taken⟩
  · refine Or.inl ?_
    unfold uploaded at nothing ⊢
    split at nothing
    · rename_i result
      split at nothing
      · rename_i buffer point
        unfold ControlClient.step at taken
        split at taken
        · cases taken
        · simp only [ControlClient.loopStep, point] at taken ⊢
          rcases Option.ite_none_right_eq_some.mp taken with ⟨_, issued⟩
          cases issued
          cases result with
          | failed => exact absurd rfl nothing
          | _ => rfl
      · exact absurd rfl nothing
    · exact absurd rfl nothing

/-- What a step of the control program does to a pipe. -/
theorem pipe_step {manager next : WorkerManager platform.longBits}
    {label : ManagerLabel platform.longBits} (kept : WorkerManager.Kept manager)
    (taken : WorkerManager.step platform manager label = some next)
    (alive : next.server.terminated = false) {index : Nat} (within : index < instances)
    (client : Nat) :
    (manager.server.pipes index).written <+: (next.server.pipes index).written ∧
      ((next.server.pipes index).sentBy client = (manager.server.pipes index).sentBy client ∨
        Exists fun octets => label = .server (.pipe index (.clientSends octets)) ∧
          (manager.server.pipes index).connection = .connected client ∧
            (next.server.pipes index).sentBy client =
              (manager.server.pipes index).sentBy client ++ [octets]) := by
  rcases WorkerManager.server_step kept taken alive with same | ⟨own, called, stepped⟩
  · rw [same]
    exact ⟨List.prefix_refl _, Or.inl rfl⟩
  · rcases ControlServer.seen stepped within with same | seen
    · have pipes : next.server.pipes index = manager.server.pipes index :=
        congrArg PipeView.pipe same
      rw [pipes]
      exact ⟨List.prefix_refl _, Or.inl rfl⟩
    · refine ⟨PipeView.written_grows seen, ?_⟩
      rcases PipeView.sentBy_step seen client with same | ⟨octets, rfl, connected, sent⟩
      · exact Or.inl same
      · rcases called with rfl | calls
        · exact Or.inr ⟨octets, rfl, connected, sent⟩
        · cases calls

/-- What holds as long as the control program runs. -/
structure Kept (link : WorkerLink platform.longBits) : Prop where
  seated : forall index client, link.seat = some (index, client) -> index < instances
  upward : Carried link.worker.client.handed link.arrived link.upward
  downward : Carried link.written link.worker.serverSent link.downward
  requested : Exists fun chosen => chosen.Sublist link.requests ∧
    List.Forall₂ platform.Packs chosen link.worker.client.sent

section Managed

variable {manager : WorkerManager platform.longBits} {own : ManagerLabel platform.longBits}

theorem written_managed (kept : Kept link) (managing : WorkerManager.Kept link.manager)
    (taken : WorkerManager.step platform link.manager own = some manager)
    (alive : manager.server.terminated = false) :
    link.written <+: (link.managed manager).written := by
  have same : (link.managed manager).seat = link.seat := rfl
  unfold written
  rw [same]
  cases here : link.seat with
  | none => exact List.prefix_refl []
  | some seat =>
      rcases seat with ⟨index, client⟩
      have grows := (pipe_step managing taken alive (kept.seated index client here) client).1
      exact ControlPipe.writtenTo_first grows client

theorem carried_managed (kept : Kept link) (managing : WorkerManager.Kept link.manager)
    (taken : WorkerManager.step platform link.manager own = some manager)
    (alive : manager.server.terminated = false) :
    Carried (link.managed manager).written link.worker.serverSent
      (link.managed manager).downward := by
  rcases written_managed kept managing taken alive with ⟨more, split⟩
  have added : (link.managed manager).downward = link.downward ++ more := by
    have drops : (link.managed manager).downward =
        link.downward ++ (link.managed manager).written.drop link.written.length := rfl
    rw [drops, ← split, List.drop_left]
  rw [← split, added]
  exact kept.downward.puts more

theorem arrived_managed (kept : Kept link) (managing : WorkerManager.Kept link.manager)
    (taken : WorkerManager.step platform link.manager own = some manager)
    (alive : manager.server.terminated = false) :
    (link.managed manager).arrived = link.arrived ∨
      Exists fun index => Exists fun client => Exists fun octets =>
        link.seat = some (index, client) ∧ own = .server (.pipe index (.clientSends octets)) ∧
          (link.manager.server.pipes index).connection = .connected client ∧
            (link.managed manager).arrived = link.arrived ++ [octets] := by
  have same : (link.managed manager).seat = link.seat := rfl
  unfold arrived
  rw [same]
  cases here : link.seat with
  | none => exact Or.inl rfl
  | some seat =>
      rcases seat with ⟨index, client⟩
      rcases (pipe_step managing taken alive (kept.seated index client here) client).2 with
        unchanged | ⟨octets, spoken, connected, sent⟩
      · exact Or.inl unchanged
      · exact Or.inr ⟨index, client, octets, rfl, spoken, connected, sent⟩

/-- The control program takes a step in which the worker has no part. -/
theorem Kept.manages (kept : Kept link) (managing : WorkerManager.Kept link.manager)
    (silent : link.speaks own = false)
    (taken : WorkerManager.step platform link.manager own = some manager)
    (alive : manager.server.terminated = false) : Kept (link.managed manager) where
  seated := kept.seated
  upward := by
    rcases arrived_managed kept managing taken alive with
      same | ⟨index, client, octets, seat, rfl, connected, _⟩
    · rw [same]
      exact kept.upward
    · simp [speaks, seat, connected] at silent
  downward := carried_managed kept managing taken alive
  requested := kept.requested

/-- A message of the worker arrives. -/
theorem Kept.uploads (kept : Kept link) (managing : WorkerManager.Kept link.manager)
    {octets : Octets} {rest : List Octets} {index : Nat} (way : link.upward = octets :: rest)
    (taken : WorkerManager.step platform link.manager
      (.server (.pipe index (.clientSends octets))) = some manager)
    (alive : manager.server.terminated = false) :
    Kept { link.managed manager with upward := rest } where
  seated := kept.seated
  upward := by
    have upward := kept.upward
    rw [way] at upward
    have arrives : (link.managed manager).arrived = link.arrived ∨
        (link.managed manager).arrived = link.arrived ++ [octets] := by
      rcases arrived_managed kept managing taken alive with
        same | ⟨_, _, _, _, spoken, _, sent⟩
      · exact Or.inl same
      · cases spoken
        exact Or.inr sent
    have here : ({ link.managed manager with upward := rest } : WorkerLink _).arrived =
        (link.managed manager).arrived := rfl
    rw [here]
    rcases arrives with same | sent
    · rw [same]
      exact upward.loses
    · rw [sent]
      exact upward.arrives
  downward := carried_managed kept managing taken alive
  requested := kept.requested

end Managed

theorem sentBy_of_alone {own : ClientLabel longBits} (alone : joint own = false) :
    ControlClient.Traced.sentBy own = [] := by
  cases own with
  | serverSends octets => cases alone
  | _ => rfl

/-- The worker's side of a step that it takes on its own. -/
theorem Kept.works (kept : Kept link) {worker : ControlClient.Traced platform.longBits}
    {own : ClientLabel platform.longBits} (alone : joint own = false)
    (taken : ControlClient.Traced.step platform link.worker own = some worker) :
    Kept { link with
      worker := worker
      upward := link.upward ++ uploaded link.worker.client own
      requests := link.requests ++ WorkerLink.requested own } := by
  rcases Option.map_eq_some_iff.mp taken with ⟨client, stepped, rfl⟩
  refine ⟨kept.seated, ?_, ?_, ?_⟩
  · rcases handed_step stepped with handed | ⟨nothing, grows⟩
    · simp only [handed]
      exact kept.upward.puts _
    · rw [nothing, List.append_nil]
      exact kept.upward.grows grows.sublist
  · rw [sentBy_of_alone alone, List.append_nil]
    exact kept.downward
  · rcases kept.requested with ⟨chosen, among, packs⟩
    rcases ControlClient.sent_step stepped with same | ⟨message, octets, rfl, packed, sent⟩
    · refine ⟨chosen, among.trans (List.sublist_append_left _ _), ?_⟩
      simp only [same]
      exact packs
    · refine ⟨chosen ++ [message], among.append (List.Sublist.refl _), ?_⟩
      simp only [sent]
      exact List.rel_append packs (.cons packed .nil)

theorem index_within {manager next : WorkerManager platform.longBits} {index : Nat}
    {event : PipeEvent}
    (taken : WorkerManager.step platform manager (.server (.pipe index event)) = some next) :
    index < instances := by
  have stepped : Exists fun server =>
      ControlServer.step platform manager.server (.pipe index event) = some server := by
    unfold WorkerManager.step at taken
    split at taken
    · cases taken
    · cases point : manager.point <;>
        exact (Option.map_eq_some_iff.mp (point ▸ taken)).imp fun _ moved => moved.1
  rcases stepped with ⟨server, stepped⟩
  unfold ControlServer.step at stepped
  split at stepped
  · cases stepped
  · exact (Option.ite_none_right_eq_some.mp stepped).1

/-- The worker opens the pipe and is the next client. -/
theorem Kept.opens (kept : Kept link) (free : link.seat = none)
    (serving : (ControlServer.system platform).Reachable link.manager.server)
    (managing : WorkerManager.Kept link.manager) {index : Nat}
    {worker : ControlClient.Traced platform.longBits}
    {manager : WorkerManager platform.longBits}
    (taken : ControlClient.Traced.step platform link.worker (.loop (.openFile .opened)) =
      some worker)
    (connects : WorkerManager.step platform link.manager
      (.server (.pipe index .clientConnects)) = some manager)
    (alive : manager.server.terminated = false) :
    Kept { link with
      manager := manager
      worker := worker
      seat := some (index, link.manager.server.clients) } := by
  have within : index < instances := index_within connects
  rcases Option.map_eq_some_iff.mp taken with ⟨client, stepped, rfl⟩
  refine ⟨?_, ?_, ?_, ?_⟩
  · rintro _ _ ⟨⟩
    exact within
  · have sent : (manager.server.pipes index).sentBy link.manager.server.clients = [] := by
      rcases (pipe_step managing connects alive within link.manager.server.clients).2 with
        same | ⟨octets, spoken, _⟩
      · rw [same]
        exact ControlServer.sentBy_next serving within
      · cases spoken
    have before : link.arrived = [] := by
      unfold arrived
      rw [free]
    have upward := kept.upward
    rw [before, ← sent] at upward
    exact upward.grows (ControlClient.handed_grows stepped).sublist
  · have before : link.written = [] := by
      unfold written
      rw [free]
    have downward := kept.downward
    rw [before, ← List.append_nil link.worker.serverSent] at downward
    exact downward.grows (List.nil_sublist _)
  · rcases kept.requested with ⟨chosen, among, packs⟩
    refine ⟨chosen, among, ?_⟩
    rcases ControlClient.sent_step stepped with same | ⟨message, octets, sends, _⟩
    · simp only [same]
      exact packs
    · cases sends

theorem kept_step (kept : Kept link)
    (reachable : (WorkerManager.system platform).Reachable link.manager)
    (taken : step platform link label = some next)
    (alive : next.manager.server.terminated = false) : Kept next := by
  cases linked_of_step taken with
  | managed silent stepped =>
      have managing := WorkerManager.kept_reachable reachable (WorkerManager.alive_of_step stepped)
      exact kept.manages managing silent stepped alive
  | worked alone stepped => exact kept.works alone stepped
  | opened free opens connects =>
      have running := WorkerManager.alive_of_step connects
      exact kept.opens free (WorkerManager.server_reachable_any reachable running)
        (WorkerManager.kept_reachable reachable running) opens connects alive
  | uploaded way seat connected stepped =>
      have managing := WorkerManager.kept_reachable reachable (WorkerManager.alive_of_step stepped)
      exact kept.uploads managing way stepped alive
  | uploadLost way =>
      have upward := kept.upward
      rw [way] at upward
      exact ⟨kept.seated, upward.loses, kept.downward, kept.requested⟩
  | @downloaded octets rest worker way stepped =>
      rcases Option.map_eq_some_iff.mp stepped with ⟨client, moved, rfl⟩
      have downward := kept.downward
      rw [way] at downward
      refine ⟨kept.seated, ?_, downward.arrives, ?_⟩
      · exact kept.upward.grows (ControlClient.handed_grows moved).sublist
      · rcases kept.requested with ⟨chosen, among, packs⟩
        refine ⟨chosen, among, ?_⟩
        rcases ControlClient.sent_step moved with same | ⟨message, octets, sends, _⟩
        · simp only [same]
          exact packs
        · cases sends
  | downloadLost way =>
      have downward := kept.downward
      rw [way] at downward
      exact ⟨kept.seated, kept.upward, downward.loses, kept.requested⟩

theorem alive_of_step (taken : step platform link label = some next)
    (alive : next.manager.server.terminated = false) :
    link.manager.server.terminated = false := by
  rcases manager_step taken with same | ⟨own, _, stepped⟩
  · rw [← same]
    exact alive
  · exact WorkerManager.alive_of_step stepped

theorem kept_create : Kept (create platform.longBits) where
  seated := fun index client seat => by cases seat
  upward := .start
  downward := .start
  requested := ⟨[], List.Sublist.refl [], .nil⟩

def KeptAlive (link : WorkerLink platform.longBits) : Prop :=
  link.manager.server.terminated = false -> Kept link

theorem kept_reachable (reachable : (system platform).Reachable link) : KeptAlive link := by
  refine reachable.invariant_reachable ?_ ?_
  · rintro link start _
    have created : link = create platform.longBits := start
    rw [created]
    exact kept_create
  · intro link label next before kept taken alive
    exact kept_step (kept (alive_of_step taken alive)) (manager_reachable before) taken alive

/-! ## From one end to the other -/

theorem client_reachable (reachable : (system platform).Reachable link) :
    (ControlClient.system platform).Reachable link.worker.client := by
  refine reachable.projected (ControlClient.system platform) (fun link => link.worker.client) ?_ ?_
  · rintro link start
    have created : link = create platform.longBits := start
    rw [created]
    rfl
  · rintro link label next taken
    rcases worker_step taken with same | ⟨own, _, stepped⟩
    · exact Or.inl (congrArg ControlClient.Traced.client same)
    · rcases Option.map_eq_some_iff.mp stepped with ⟨client, moved, made⟩
      refine Or.inr ⟨own, ?_⟩
      rw [← made]
      exact moved

open ControlPlatform (Constructed)

theorem leaving_of_stopped {index : Nat} {point : ManagerPoint}
    (some : 0 < WorkerManager.stopped index point) : WorkerManager.Leaving point := by
  cases point with
  | stop _ | stopping _ | returned => trivial
  | _ => exact absurd some (Nat.lt_irrefl 0)

theorem stopped_le (index : Nat) (point : ManagerPoint) :
    WorkerManager.stopped index point ≤ 1 := by
  unfold WorkerManager.stopped
  split
  · split
    · exact Nat.le_refl 1
    · exact Nat.zero_le 1
  · exact Nat.le_refl 1
  · exact Nat.le_refl 1
  · exact Nat.zero_le 1

/-- The answers and the stop messages that the worker can have got. -/
structure Heard (link : WorkerLink platform.longBits)
    (answers ends : List (Constructed platform.longBits)) : Prop where
  once : ends.length ≤ 1
  leaving : ends ≠ [] -> WorkerManager.Leaving link.manager.point ∧
    link.manager.fullExit = true
  answered : forall index client, link.seat = some (index, client) ->
    answers.length ≤ (link.manager.server.pipes index).announced.length

theorem written_answers (kept : Kept link) (managing : WorkerManager.Kept link.manager)
    (serving : (ControlServer.system platform).Reachable link.manager.server) :
    Exists fun answers => Exists fun ends => Heard link answers ends ∧
      link.written.Sublist (answers.map (WorkerManager.resultOctets platform) ++
        ends.map (WorkerManager.stopOctets platform)) := by
  have nothing : Heard link [] [] :=
    ⟨Nat.zero_le 1, fun some => absurd rfl some, fun _ _ _ => Nat.zero_le _⟩
  cases here : link.seat with
  | none =>
      refine ⟨[], [], nothing, ?_⟩
      unfold written
      rw [here]
      exact List.Sublist.refl []
  | some seat =>
      rcases seat with ⟨index, client⟩
      have within := kept.seated index client here
      have view := ControlServer.view_reachable serving within
      have written : link.written.Sublist
          ((link.manager.server.pipes index).sent.map Outgoing.octets) := by
        unfold WorkerLink.written
        rw [here]
        exact PipeView.writtenTo_sublist (PipeView.writtenKept_reachable view)
          (PipeView.queueKept_reachable view) client
      by_cases own : index < procCount
      · rcases managing.answered index own with ⟨answers, ends, sent, due, stops⟩
        rw [sent] at written
        refine ⟨answers, ends, ⟨?_, ?_, ?_⟩, written⟩
        · rw [stops]
          exact stopped_le index link.manager.point
        · intro some
          have leaves : WorkerManager.Leaving link.manager.point :=
            leaving_of_stopped (stops ▸ List.length_pos_iff.mpr some)
          exact ⟨leaves, managing.leaving leaves⟩
        · intro other client same
          rw [here] at same
          cases same
          omega
      · have unused := (managing.unused index (Nat.le_of_not_lt own) within).1
        rw [unused] at written
        exact ⟨[], [], nothing, written⟩

/-- Whatever the interleaving and whatever is lost, what the worker receives are answers to
start messages that have been registered and at most one stop message behind them; and
`shutdown_func` is called at most once, and only when the control program is leaving. -/
theorem worker_stopped (platform : ControlPlatform) (link : WorkerLink platform.longBits)
    (reachable : ((system platform).restrict fun link label =>
      link.inTurn label = true).Reachable link)
    (alive : link.manager.server.terminated = false) :
    Exists fun answers => Exists fun ends => Heard link answers ends ∧
      link.worker.client.received.Sublist
        (answers.map WorkerManager.result ++ ends.map WorkerManager.stopMessage) ∧
        link.worker.client.shutdowns ≤ ends.length := by
  have all := reachable.of_restrict
  have kept := kept_reachable all alive
  have serving := WorkerManager.server_reachable_any (manager_reachable all) alive
  have managing := WorkerManager.kept_reachable (manager_reachable all) alive
  rcases written_answers kept managing serving with ⟨answers, ends, heard, written⟩
  have received : link.worker.client.received.Sublist
      (answers.map WorkerManager.result ++ ends.map WorkerManager.stopMessage) := by
    rcases (ControlClient.readsFollow_reachable (worker_inTurn reachable)).delivered with
      ⟨handled, first, decodes⟩
    have sent : handled.Sublist (answers.map (WorkerManager.resultOctets platform) ++
        ends.map (WorkerManager.stopOctets platform)) :=
      (first.sublist.trans List.filter_sublist).trans
        (kept.downward.arrived_sublist.trans written)
    have packs : List.Forall₂ platform.Packs
        (answers.map WorkerManager.result ++ ends.map WorkerManager.stopMessage)
        (answers.map (WorkerManager.resultOctets platform) ++
          ends.map (WorkerManager.stopOctets platform)) := by
      refine List.rel_append ?_ ?_
      · exact List.forall₂_map_left_iff.mpr (List.forall₂_map_right_iff.mpr
          (List.forall₂_same.mpr fun constructed _ => rfl))
      · exact List.forall₂_map_left_iff.mpr (List.forall₂_map_right_iff.mpr
          (List.forall₂_same.mpr fun constructed _ => rfl))
    refine recovered_sublist ?_ packs sent decodes
    exact fun made item output packed decodes => ControlPlatform.decodes_packed packed decodes
  refine ⟨answers, ends, heard, received, ?_⟩
  have handlers := ControlClient.handlersKept_reachable (client_reachable all)
  have acted : link.worker.client.acted.countP ControlClient.Stops ≤
      link.worker.client.received.countP ControlClient.Stops := by
    rw [← handlers.accounted.countP_eq, List.countP_append]
    exact Nat.le_add_right _ _
  have results : (answers.map WorkerManager.result).countP ControlClient.Stops = 0 := by
    rw [List.countP_map]
    exact List.countP_eq_zero.mpr fun constructed _ stops => by cases stops
  calc
    link.worker.client.shutdowns = link.worker.client.acted.countP ControlClient.Stops :=
      handlers.shutdowns
    _ ≤ link.worker.client.received.countP ControlClient.Stops := acted
    _ ≤ (answers.map WorkerManager.result ++ ends.map WorkerManager.stopMessage).countP
        ControlClient.Stops := received.countP_le
    _ = (ends.map WorkerManager.stopMessage).countP ControlClient.Stops := by
      rw [List.countP_append, results, Nat.zero_add]
    _ ≤ ends.length := by
      rw [← List.length_map WorkerManager.stopMessage]
      exact List.countP_le_length

/-! ## A worker that is stopped -/

open ControlPlatform (formatPlatform zeroConstructed startupMessage)

/-- The pipes are set up and the worker opens one. -/
def seatedLabels : List (LinkLabel formatPlatform.longBits) :=
  ControlServer.setupLabels.map (fun label => .manager (.server label)) ++ [.opens 0]

/-- The control program is told to end and writes a stop message, which the worker reads. -/
def stopLabels : List (LinkLabel formatPlatform.longBits) :=
  List.flatten
    [seatedLabels,
      [.manager .ctrlC, .manager (.looks true), .manager .takes, .manager (.sees true),
        .manager .decides, .manager (.sends zeroConstructed)],
      (ControlServer.loopSteps 10).map fun label => .manager (.server label),
      [.manager (.server (.loop (.writeFile .completed))), .worker (.loop (.readFile .pending)),
        .worker (.loop .step), .worker (.loop .step), .worker (.loop .step), .downloads true,
        .worker .stores, .worker (.loop (.waited (.signalled 0))), .worker (.loop .step)]]

theorem stopLabels_taken :
    (Transition.System.execute (Transition.System.guarded
      (fun link label => inTurn link label = true) (step formatPlatform))
      (create formatPlatform.longBits) stopLabels).isSome = true := by
  decide +kernel

def stopRead : WorkerLink formatPlatform.longBits :=
  (Transition.System.execute (Transition.System.guarded
    (fun link label => inTurn link label = true) (step formatPlatform))
    (create formatPlatform.longBits) stopLabels).get stopLabels_taken

/-- The message of the worker's end is decoded. -/
def decoded (link : WorkerLink formatPlatform.longBits)
    (message : ProcessMessage formatPlatform.longBits) : WorkerLink formatPlatform.longBits :=
  { link with worker := { link.worker with client := link.worker.client.goes (.push message) } }

theorem step_decoded {link : WorkerLink formatPlatform.longBits}
    {message : ProcessMessage formatPlatform.longBits}
    (decodes : ControlClient.step formatPlatform link.worker.client
      (.loop (.constructed zeroConstructed)) =
        some (link.worker.client.goes (.push message))) :
    step formatPlatform link (.worker (.loop (.constructed zeroConstructed))) =
      some (decoded link message) := by
  simp [step, joint, ControlClient.Traced.step, decodes, ControlClient.Traced.sentBy, uploaded,
    requested, decoded]

theorem receive_zeroStop :
    formatPlatform.receive zeroConstructed
      (WorkerManager.stopOctets formatPlatform zeroConstructed)
      (WorkerManager.stopOctets formatPlatform zeroConstructed).length =
        .returned (WorkerManager.stopMessage zeroConstructed) := by
  decide +kernel

theorem stopRead_decodes :
    step formatPlatform stopRead (.worker (.loop (.constructed zeroConstructed))) =
      some (decoded stopRead (WorkerManager.stopMessage zeroConstructed)) := by
  apply step_decoded
  exact ControlClient.step_decodes (by decide +kernel) (by decide +kernel) (by decide +kernel)
    (by decide +kernel) receive_zeroStop

/-- The handler runs. -/
def shutdownLabels : List (LinkLabel formatPlatform.longBits) :=
  [.worker (.loop .step), .worker (.loop .step), .worker .handlerPops, .worker (.handlerActs 0)]

def shutdownChecked (link : WorkerLink formatPlatform.longBits) : Bool :=
  !link.manager.server.terminated ∧ link.worker.client.shutdowns = 1 ∧
    link.worker.client.received.length = 1

theorem shutdownLabels_checked :
    (Transition.System.execute (Transition.System.guarded
      (fun link label => inTurn link label = true) (step formatPlatform))
      (decoded stopRead (WorkerManager.stopMessage zeroConstructed)) shutdownLabels).map
        shutdownChecked = some true := by
  decide +kernel

theorem shutdownLabels_taken :
    (Transition.System.execute (Transition.System.guarded
      (fun link label => inTurn link label = true) (step formatPlatform))
      (decoded stopRead (WorkerManager.stopMessage zeroConstructed)) shutdownLabels).isSome =
        true :=
  Transition.System.taken_of_checked shutdownLabels_checked

def shutdownLink : WorkerLink formatPlatform.longBits :=
  (Transition.System.execute (Transition.System.guarded
    (fun link label => inTurn link label = true) (step formatPlatform))
    (decoded stopRead (WorkerManager.stopMessage zeroConstructed)) shutdownLabels).get
      shutdownLabels_taken

theorem shutdownLink_checked : shutdownChecked shutdownLink = true :=
  Transition.System.checked_get shutdownLabels_checked shutdownLabels_taken

theorem shutdownLink_alive : shutdownLink.manager.server.terminated = false := by
  have checked := of_decide_eq_true shutdownLink_checked
  exact (Bool.not_eq_true' _).mp checked.1

theorem shutdownLink_reachable : ((system formatPlatform).restrict fun link label =>
    link.inTurn label = true).Reachable shutdownLink := by
  have read : ((system formatPlatform).restrict fun link label =>
      link.inTurn label = true).Reachable stopRead := by
    refine .of_execute_guarded ?_ stopLabels_taken
    rfl
  refine (read.extend (.single ⟨?_, stopRead_decodes⟩)).extend
    (.of_execute_guarded (Option.some_get shutdownLabels_taken).symm)
  decide +kernel

theorem worker_stopped_once :
    shutdownLink.worker.client.shutdowns = 1 ∧
      Exists fun answers => Exists fun ends => Heard shutdownLink answers ends ∧
        shutdownLink.worker.client.received.Sublist
          (answers.map WorkerManager.result ++ ends.map WorkerManager.stopMessage) ∧
          shutdownLink.worker.client.shutdowns ≤ ends.length :=
  ⟨(of_decide_eq_true shutdownLink_checked).2.1,
    worker_stopped formatPlatform shutdownLink shutdownLink_reachable shutdownLink_alive⟩

/-! ## A worker that is registered -/

/-- What arrives and is decoded has been passed to `send`. -/
theorem startsOf_sublist (reachable : ((system platform).restrict fun link label =>
      link.readsApart label = true).Reachable link)
    (alive : link.manager.server.terminated = false) {index client : Nat}
    (seat : link.seat = some (index, client)) :
    ((link.manager.server.pipes index).startsOf client).Sublist link.requests := by
  have kept := kept_reachable reachable.of_restrict alive
  rcases WorkerManager.startsOf_delivered (manager_apart reachable) alive
    (kept.seated index client seat) client with ⟨chosen, among, decodes⟩
  rcases kept.requested with ⟨messages, asked, packs⟩
  have arrived : link.arrived = (link.manager.server.pipes index).sentBy client := by
    unfold WorkerLink.arrived
    rw [seat]
  have queue := ControlClient.queueKept_reachable (client_reachable reachable.of_restrict)
  have sent : chosen.Sublist link.worker.client.sent := by
    rw [← arrived] at among
    refine (among.trans List.filter_sublist).trans ?_
    exact kept.upward.arrived_sublist.trans queue.kept.handed_first.sublist
  have recovers : forall made item output, platform.Packs made item ->
      platform.Decodes item output -> output = made :=
    fun made item output packed decodes => ControlPlatform.decodes_packed packed decodes
  exact (recovered_sublist recovers packs sent decodes).trans asked

/-- The start messages of the worker that `next_message` has returned are messages that
the worker has passed to `send`, each once and in order. -/
theorem requests_registered (platform : ControlPlatform) (link : WorkerLink platform.longBits)
    (reachable : ((system platform).restrict fun link label =>
      link.readsApart label = true).Reachable link)
    (alive : link.manager.server.terminated = false) (index client : Nat)
    (seat : link.seat = some (index, client)) :
    ((link.manager.server.pipes index).startsOf client).Sublist link.requests :=
  startsOf_sublist reachable alive seat

/-- The worker sends a start message, and the loop of the server comes to decode it. -/
def startLabels : List (LinkLabel formatPlatform.longBits) :=
  List.flatten
    [seatedLabels,
      [.worker (.send startupMessage), .worker (.loop (.readFile .pending))],
      List.replicate 5 (.worker (.loop .step)), [.worker (.loop (.writeFile .completed))],
      List.map (fun label => .manager (.server label)) (List.flatten
        [ControlServer.loopSteps 14, [.loop (.waited (.signalled 0))], ControlServer.loopSteps 3,
          [.loop (.readFile .pending)], ControlServer.loopSteps 12]),
      [.uploads true, .manager (.server (.pipe 0 .stores)),
        .manager (.server (.loop (.waited (.signalled 0)))), .manager (.server (.loop .step))]]

theorem startLabels_taken :
    (Transition.System.execute (Transition.System.guarded
      (fun link label => readsApart link label = true) (step formatPlatform))
      (create formatPlatform.longBits) startLabels).isSome = true := by
  decide +kernel

def startRead : WorkerLink formatPlatform.longBits :=
  (Transition.System.execute (Transition.System.guarded
    (fun link label => readsApart link label = true) (step formatPlatform))
    (create formatPlatform.longBits) startLabels).get startLabels_taken

/-- The message at the server is decoded. -/
def startDecoded : WorkerLink formatPlatform.longBits :=
  startRead.managed { startRead.manager with
    server := ControlServer.decoded startRead.manager.server startupMessage }

theorem startRead_decodes :
    step formatPlatform startRead
      (.manager (.server (.loop (.constructed zeroConstructed)))) = some startDecoded := by
  have decodes : ControlServer.step formatPlatform startRead.manager.server
      (.loop (.constructed zeroConstructed)) =
        some (ControlServer.decoded startRead.manager.server startupMessage) :=
    ControlServer.step_decoded (by decide +kernel) (by decide +kernel) (by decide +kernel)
      (by decide +kernel) WorkerManager.receive_startOctets
  have taken : WorkerManager.step formatPlatform startRead.manager
      (.server (.loop (.constructed zeroConstructed))) =
        some { startRead.manager with
          server := ControlServer.decoded startRead.manager.server startupMessage } :=
    WorkerManager.step_server (by decide +kernel) rfl decodes
  simp only [step, speaks, taken, Bool.false_eq_true, if_false, Option.map_some, startDecoded]

/-- The start message is taken. -/
def registerLabels : List (LinkLabel formatPlatform.longBits) :=
  [.manager (.looks true), .manager .takes]

def registeredChecked (link : WorkerLink formatPlatform.longBits) : Bool :=
  !link.manager.server.terminated ∧ link.seat = some (0, 0) ∧
    (link.manager.server.pipes 0).startsOf 0 = [startupMessage]

theorem registerLabels_checked :
    (Transition.System.execute (Transition.System.guarded
      (fun link label => readsApart link label = true) (step formatPlatform))
      startDecoded registerLabels).map registeredChecked = some true := by
  decide +kernel

theorem registerLabels_taken :
    (Transition.System.execute (Transition.System.guarded
      (fun link label => readsApart link label = true) (step formatPlatform))
      startDecoded registerLabels).isSome = true :=
  Transition.System.taken_of_checked registerLabels_checked

def registeredLink : WorkerLink formatPlatform.longBits :=
  (Transition.System.execute (Transition.System.guarded
    (fun link label => readsApart link label = true) (step formatPlatform))
    startDecoded registerLabels).get registerLabels_taken

theorem registeredLink_checked : registeredChecked registeredLink = true :=
  Transition.System.checked_get registerLabels_checked registerLabels_taken

theorem registeredLink_alive : registeredLink.manager.server.terminated = false := by
  have checked := of_decide_eq_true registeredLink_checked
  exact (Bool.not_eq_true' _).mp checked.1

theorem registeredLink_reachable : ((system formatPlatform).restrict fun link label =>
    link.readsApart label = true).Reachable registeredLink := by
  have read : ((system formatPlatform).restrict fun link label =>
      link.readsApart label = true).Reachable startRead := by
    refine .of_execute_guarded ?_ startLabels_taken
    rfl
  exact (read.extend (.single ⟨rfl, startRead_decodes⟩)).extend
    (.of_execute_guarded (Option.some_get registerLabels_taken).symm)

theorem requests_registered_one :
    (registeredLink.manager.server.pipes 0).startsOf 0 = [startupMessage] ∧
      ((registeredLink.manager.server.pipes 0).startsOf 0).Sublist registeredLink.requests := by
  have checked := of_decide_eq_true registeredLink_checked
  exact ⟨checked.2.2, requests_registered formatPlatform registeredLink
    registeredLink_reachable registeredLink_alive 0 0 checked.2.1⟩

end WorkerLink

end EasyProspect
