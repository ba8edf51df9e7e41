import EasyProspect.AnsweredRequests
import EasyProspect.Library.Hearsay
import EasyProspect.ShutdownTimer

namespace EasyProspect

/-!
# Requests that interleave

The handlers of different sessions run at the same time, and so do the strands of the
table and of the application.  Only the sections under the mutex of a channel are atomic:
the change of the set of members, and the copy of it that `send` makes.  Here a request
is a sequence of steps.  The first one takes it from the completion of the read to the
end of the first section; then `send` copies the members, hands the message to one of
them at a time, and at last the response is sent.

Whoever sends is identified by its session, or is the strand of the channel; the log of a
channel is a ghost.  The wrappers of all sessions stay alive: a session that has ended is
still in the list, and in each channel that it has not left.
-/

/-- What a completion makes of the read loop. -/
inductive ReadOutcome
  | ends
  | waits
  | escapes
  | requests (call : RpcCall) (ec : Option RpcCode)

/-- `operator()` up to the dispatch. -/
def WsCompletion.outcome (platform : Platform) : WsCompletion -> ReadOutcome
  | .accepted ec => if ec.isSome then .ends else .waits
  | .read ec text =>
      if ec.isSome then .ends
      else
        match platform.parse text with
        | .error .parseError => .ends
        | .error _ => .escapes
        | .ok jv =>
            match RpcCall.create.extract platform jv with
            | .error _ => .escapes
            | .ok (call, ec) => .requests call ec

/-- What a session is doing between two completions of its reads. -/
inductive SessionStage
  | idle
  | busy (cid : UInt64) (call : RpcCall) (phase : Broadcast.Phase Nat Json)
  | respond (call : RpcCall)
  | ended

/-- What the session does in one channel. -/
def SessionStage.phaseIn (cid : UInt64) : SessionStage -> Broadcast.Phase Nat Json
  | .idle => .idle
  | .busy other _ phase => if other = cid then phase else .idle
  | .respond _ => .idle
  | .ended => .gone

/-- A message that the strand of a channel sends. -/
inductive StrandWork
  | update (action : String) (game : Json)
  | shutdown (remain : Int)

namespace StrandWork

/-- The channel that the work is for. -/
def kind : StrandWork -> ChannelKind
  | update _ _ => .table
  | shutdown _ => .system

/-- The notice of `table::update`, and that of the application. -/
def notice (channel : Channel) : StrandWork -> Json
  | update action game =>
      .object [("action", .string action), ("cid", .unsigned channel.cid), ("game", game),
        ("verb", .string "update")]
  | shutdown remain => ShutdownTimer.shutdownNotice channel remain

end StrandWork

structure Lounge where
  worker : WebWorker
  stage : Nat -> SessionStage
  /-- What the strand of a channel is sending. -/
  host : UInt64 -> Broadcast.Phase Nat Json
  log : UInt64 -> List (Broadcast.Event Nat Json)

/-- A client connects, the read of a session completes, a session or a strand goes on, the
strand of a channel begins to send, or a piece of posted work runs. -/
inductive LoungeLabel
  | connect
  | resume (session : Nat) (completion : WsCompletion)
  | advance (session : Nat)
  | strand (cid : UInt64) (work : StrandWork)
  | advanceStrand (cid : UInt64)
  | perform (index : Nat) (messages : List (Nat × String))

/-- The members of a channel, if there is one with the number. -/
def WebWorker.membersAt (worker : WebWorker) (cid : UInt64) : List Nat :=
  (worker.channelAt cid).elim [] Channel.sessions

/-- `*get_primary_user()`. -/
def WebWorker.userOf (worker : WebWorker) (session : Nat) : Option User :=
  (worker.sessions[session]?).bind WsSession.primaryUser

namespace Lounge

def create : Lounge where
  worker := .create
  stage := fun _ => .idle
  host := fun _ => .idle
  log := fun _ => []

variable (platform : Platform) (lounge : Lounge)

def withWorker (worker : WebWorker) : Lounge :=
  { lounge with worker := worker }

def put (session : Nat) (stage : SessionStage) : Lounge :=
  { lounge with stage := Function.update lounge.stage session stage }

def putHost (cid : UInt64) (phase : Broadcast.Phase Nat Json) : Lounge :=
  { lounge with host := Function.update lounge.host cid phase }

def record (cid : UInt64) (event : Broadcast.Event Nat Json) : Lounge :=
  { lounge with log := Function.update lounge.log cid (lounge.log cid ++ [event]) }

/-! ## Handlers, to the end of their first section -/

section Handlers

variable (call : RpcCall) (channel : Channel) (user : User) (session : Nat)

/-- What a session is about to give to `send`. -/
def announce (change : Option Broadcast.Change) (jv : Json) : Lounge :=
  lounge.put session (.busy channel.cid call (.announce ⟨some session, change, jv⟩))

/-- The first section of `insert`, and its notice. -/
def enter : Lounge :=
  let members := channel.sessions ++ [session]
  let inserted := lounge.withWorker (lounge.worker.setMembers channel members)
  let announced :=
    inserted.announce call channel session (some .join) (channel.notice "join" user.name)
  announced.record channel.cid (.changed session .join)

/-- The first section of `erase`, and its notice. -/
def exit : Lounge :=
  let members := channel.sessions.erase session
  let erased := lounge.withWorker (lounge.worker.setMembers channel members)
  let announced :=
    erased.announce call channel session (some .leave) (channel.notice "leave" user.name)
  announced.record channel.cid (.changed session .leave)

def doJoin : Except Fault Lounge := do
  WebWorker.checkedUser user
  if WebWorker.isJoined channel session then failWith "Already in channel"
  else .ok (lounge.enter call channel user session)

def doLeave : Except Fault Lounge :=
  if !WebWorker.isJoined channel session then failWith "Not in channel"
  else .ok (lounge.exit call channel user session)

/-- `room_impl::do_say`. -/
def doSay : Except Fault Lounge := do
  WebWorker.checkedUser user
  if !WebWorker.isJoined channel session then failWith "not in channel"
  else
    let text <- checkedStringAt call.params "message"
    .ok (lounge.announce call channel session none (channel.sayNotice user.name text))

/-- `system_channel::do_identify`.  The result of `insert` is not looked at. -/
def doIdentify : Except Fault Lounge := do
  let name <- checkedStringAt call.params "name"
  if 20 < name.utf8ByteSize then failWith "Invalid \"name\": too long"
  else if user.name ≠ "" then failWith "Identity is already set"
  else
    let named := lounge.withWorker (lounge.worker.setUser session ⟨name⟩)
    if WebWorker.isJoined channel session then .ok (named.put session (.respond call))
    else .ok (named.enter call channel ⟨name⟩ session)

/-- `system_channel::do_shutdown` and `do_stop`. -/
def doPost (work : Posted) : Lounge :=
  (lounge.withWorker (lounge.worker.post work)).put session (.respond call)

/-- `on_dispatch` of the three subclasses.  The table's handler has ended with its post. -/
def onDispatch : Except Fault Lounge :=
  match channel.kind with
  | .room =>
      if call.method = "say" then lounge.doSay call channel user session
      else if call.method = "slash" then lounge.doSay call channel user session
      else failCode .methodNotFound
  | .system =>
      if call.method = "identify" then lounge.doIdentify call channel user session
      else if call.method = "shutdown" then .ok (lounge.doPost call session (.shutdown 30))
      else if call.method = "stop" then .ok (lounge.doPost call session .stop)
      else failCode .methodNotFound
  | .table =>
      if call.method ∈ WebWorker.tableMethods then
        .ok (lounge.withWorker (lounge.worker.postPlay call user session))
      else failCode .methodNotFound

/-- `channel::dispatch`. -/
def dispatchTo : Except Fault Lounge :=
  if call.method = "join" then lounge.doJoin call channel user session
  else if call.method = "leave" then lounge.doLeave call channel user session
  else lounge.onDispatch call channel user session

/-- `channel_list_impl::dispatch`. -/
def dispatch : Except Fault Lounge := do
  let value <- checkedValue call.params "cid"
  match value.getSize platform with
  | .error exception => .error (.json exception)
  | .ok cid =>
      match lounge.worker.channelAt cid with
      | none => .error (.rpcError (.ofCodeText .invalidParams "Unknown cid"))
      | some channel => lounge.dispatchTo call channel user session

/-- The second `try` block. -/
def process (ec : Option RpcCode) : Except Fault Lounge :=
  match ec with
  | some ec => .error (.rpcError (.ofCodeText .invalidRequest ec.message))
  | none =>
      match lounge.worker.userOf session with
      | none => .error .undefined
      | some user => lounge.dispatch platform call user session

/-- The `catch` of the second block.  Nothing comes after what is undefined or escapes. -/
def answer (result : Except Fault Lounge) : Option Lounge :=
  match result with
  | .ok next => some next
  | .error (.rpcError error) =>
      (lounge.worker.respond platform session (call.completeError error)).toOption.map
        lounge.withWorker
  | .error _ => none

end Handlers

/-! ## Steps -/

/-- One step of `channel::send`: the copy, or the message for one member. -/
def spread (cid : UInt64) : Broadcast.Phase Nat Json ->
    Option (WebWorker × Broadcast.Phase Nat Json × Broadcast.Event Nat Json)
  | .announce notice =>
      let members := lounge.worker.membersAt cid
      if Fits platform notice.text then
        some (lounge.worker, .handing (lounge.log cid).length notice members,
          .taken notice members)
      else none
  | .handing broadcast notice (receiver :: rest) =>
      (lounge.worker.sendMessage receiver (notice.text.dump platform)).toOption.map fun worker =>
        (worker, .handing broadcast notice rest, .handed broadcast notice receiver)
  | _ => none

/-- What follows the notice of `insert`, of `erase` and of `do_say`. -/
def close (session : Nat) (cid : UInt64) (call : RpcCall) (broadcast : Nat)
    (notice : Broadcast.Notice Nat Json) : Option Lounge :=
  (lounge.worker.channelAt cid).bind fun channel =>
    let closed := lounge.put session (.respond call)
    match notice.change with
    | none => some closed
    | some .join => some (closed.withWorker (lounge.worker.onInsert channel.kind session))
    | some .leave =>
        (lounge.worker.sendJson platform session notice.text).toOption.map fun worker =>
          (closed.withWorker (worker.onErase channel.kind session)).record cid
            (.told broadcast notice session)

/-- The request of a session goes on. -/
def advance (session : Nat) : Option Lounge :=
  match lounge.stage session with
  | .busy cid call (.handing broadcast notice []) =>
      lounge.close platform session cid call broadcast notice
  | .busy cid call phase =>
      (lounge.spread platform cid phase).map fun (worker, phase, event) =>
        ((lounge.withWorker worker).put session (.busy cid call phase)).record cid event
  | .respond call =>
      (lounge.worker.complete platform call.complete session).toOption.map fun worker =>
        (lounge.withWorker worker).put session .idle
  | _ => none

/-- The end of the read loop: `fail` only writes to the log. -/
def depart (session : Nat) : Lounge :=
  { lounge.put session .ended with
    log := fun cid => lounge.log cid ++ [.gone session] }

/-- `operator()`, to the end of the first section of the handler. -/
def resume (session : Nat) (completion : WsCompletion) : Option Lounge :=
  match lounge.stage session with
  | .idle =>
      if session < lounge.worker.sessions.length then
        match completion.outcome platform with
        | .ends => some (lounge.depart session)
        | .waits => some lounge
        | .escapes => none
        | .requests call ec =>
            lounge.answer platform call session (lounge.process platform call session ec)
      else none
  | _ => none

/-- The strand of a channel begins to send. -/
def begin (cid : UInt64) (work : StrandWork) : Option Lounge :=
  (lounge.worker.channelAt cid).bind fun channel =>
    match lounge.host cid with
    | .idle =>
        if work.kind = channel.kind then
          some (lounge.putHost cid (.announce ⟨none, none, work.notice channel⟩))
        else none
    | _ => none

/-- The strand of a channel goes on. -/
def advanceHost (cid : UInt64) : Option Lounge :=
  match lounge.host cid with
  | .handing _ _ [] => some (lounge.putHost cid .idle)
  | phase =>
      (lounge.spread platform cid phase).map fun (worker, phase, event) =>
        ((lounge.withWorker worker).putHost cid phase).record cid event

def step : LoungeLabel -> Option Lounge
  | .connect => (lounge.worker.step platform .connect).map lounge.withWorker
  | .resume session completion => lounge.resume platform session completion
  | .advance session => lounge.advance platform session
  | .strand cid work => lounge.begin cid work
  | .advanceStrand cid => lounge.advanceHost platform cid
  | .perform index messages =>
      (lounge.worker.step platform (.perform index messages)).map lounge.withWorker

def system (platform : Platform) : Transition.System Lounge LoungeLabel :=
  .ofStep (fun lounge => lounge = create) fun lounge => lounge.step platform

end Lounge

end EasyProspect
