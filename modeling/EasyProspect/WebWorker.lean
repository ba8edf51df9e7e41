import EasyProspect.Rpc

namespace EasyProspect

/-!
# The channels of the web worker

A WebSocket session has a wrapper, `ws_session_t`, which owns its transport and
its user.  Channels keep plain pointers to the wrappers of their members.
Wrappers are referred to by position here, channels by their place in the registry
of `channel_list_impl`.

A handler gives the worker after its last statement, or the way in which it
ended before.  All checks of a handler stand before its changes, so the worker
of a request that throws is the one before it.  Locks are left out, and so is
what happens to a message after it has been handed to `send` of a session.
-/

/-- `shared::user`. -/
structure User where
  name : String
  deriving DecidableEq

/-- `ws_session_t`.  The two pointers are null once the wrapper has been moved
from; `alive` is false once it has been destroyed. -/
structure WsSession where
  plainPtr : Bool
  primaryUser : Option User
  alive : Bool
  deriving DecidableEq

inductive ChannelKind
  | room
  | system
  | table
  deriving DecidableEq

/-- `channel`, with the data its three subclasses share. -/
structure Channel where
  kind : ChannelKind
  cid : UInt64
  name : String
  sessions : List Nat
  deriving DecidableEq

/-- Work that is handed to another strand: the closures of the table with what
was moved into them, and the calls of the application. -/
inductive Posted
  | insert (session : Nat)
  | erase (session : Nat)
  | play (method : String) (call : RpcCall) (user : User) (session : WsSession)
  | shutdown (seconds : Nat)
  | stop

structure WebWorker where
  channels : List (Option Channel)
  sessions : List WsSession
  /-- The messages handed to `send` of a session. -/
  sent : List (Nat × String)
  posted : List Posted

/-- The buffer of `make_message`. -/
def messageBuffer : Nat := 16384

/-- The text and its terminator fit into the buffer. -/
def Fits (platform : Platform) (jv : Json) : Prop :=
  (jv.dump platform).utf8ByteSize < messageBuffer

instance (platform : Platform) (jv : Json) : Decidable (Fits platform jv) :=
  inferInstanceAs (Decidable ((jv.dump platform).utf8ByteSize < messageBuffer))

/-- `make_message`.  The text is copied into a local array without a check. -/
def makeMessage (platform : Platform) (jv : Json) : Except Fault String :=
  if Fits platform jv then .ok (jv.dump platform) else .error .undefined

/-- `rpc.fail` with a text. -/
def failWith {Result : Type} (msg : String) : Except Fault Result :=
  .error (.rpcError (.ofText msg))

/-- `rpc.fail` with a code. -/
def failCode {Result : Type} (code : RpcCode) : Except Fault Result :=
  .error (.rpcError (.ofCode code))

namespace Channel

/-- The notice of `insert` and of `erase`. -/
def notice (channel : Channel) (verb user : String) : Json :=
  .object [("cid", .unsigned channel.cid), ("name", .string channel.name),
    ("user", .string user), ("verb", .string verb)]

/-- The notice of `do_say`. -/
def sayNotice (channel : Channel) (user text : String) : Json :=
  .object [("cid", .unsigned channel.cid), ("message", .string text),
    ("name", .string channel.name), ("user", .string user), ("verb", .string "say")]

end Channel

namespace WebWorker

variable (platform : Platform) (worker : WebWorker)

/-- `channel_list_impl::at`. -/
def channelAt (cid : UInt64) : Option Channel :=
  (worker.channels[cid.toNat]?).join

/-- The user of a session, in a changed form. -/
def setUser (session : Nat) (user : User) : WebWorker :=
  { worker with
    sessions := worker.sessions.modify session fun found =>
      { found with primaryUser := some user } }

def setMembers (channel : Channel) (members : List Nat) : WebWorker :=
  { worker with
    channels := worker.channels.set channel.cid.toNat (some { channel with sessions := members }) }

def post (work : Posted) : WebWorker :=
  { worker with posted := worker.posted ++ [work] }

def hand (session : Nat) (message : String) : WebWorker :=
  { worker with sent := worker.sent ++ [(session, message)] }

/-! ## Sending -/

/-- `ws_session_t::send` with a message, through a pointer of a channel. -/
def sendMessage (session : Nat) (message : String) : Except Fault WebWorker :=
  match worker.sessions[session]? with
  | none => .error .undefined
  | some wrapper =>
      if wrapper.alive then
        .ok (if wrapper.plainPtr then worker.hand session message else worker)
      else .error .undefined

/-- `ws_session_t::send` with a JSON value. -/
def sendJson (session : Nat) (jv : Json) : Except Fault WebWorker :=
  match worker.sessions[session]? with
  | none => .error .undefined
  | some wrapper =>
      if wrapper.plainPtr then do
        let message <- makeMessage platform jv
        .ok (worker.hand session message)
      else .ok worker

/-- `send` of the session that handles the request. -/
def sendOwn (session : Nat) (jv : Json) : Except Fault WebWorker := do
  let message <- makeMessage platform jv
  .ok (worker.hand session message)

/-- `channel::send` to the members at that moment. -/
def sendAll (members : List Nat) (message : String) : Except Fault WebWorker :=
  members.foldlM (fun worker member => worker.sendMessage member message) worker

def broadcast (members : List Nat) (jv : Json) : Except Fault WebWorker := do
  let message <- makeMessage platform jv
  worker.sendAll members message

/-- `rpc.complete`, with the response sent to a session. -/
def complete (response : Option Json) (session : Nat) : Except Fault WebWorker :=
  match response with
  | none => .ok worker
  | some res => worker.sendJson platform session res

/-! ## Membership -/

/-- `is_joined`. -/
def isJoined (channel : Channel) (session : Nat) : Bool :=
  decide (session ∈ channel.sessions)

/-- `on_insert`. -/
def onInsert (kind : ChannelKind) (session : Nat) : WebWorker :=
  match kind with
  | .table => worker.post (.insert session)
  | _ => worker

/-- `on_erase`. -/
def onErase (kind : ChannelKind) (session : Nat) : WebWorker :=
  match kind with
  | .table => worker.post (.erase session)
  | _ => worker

/-- `channel::insert`. -/
def insert (channel : Channel) (user : User) (session : Nat) : Except Fault (WebWorker × Bool) :=
  if isJoined channel session then .ok (worker, false)
  else do
    let members := channel.sessions ++ [session]
    let worker := worker.setMembers channel members
    let worker <- worker.broadcast platform members (channel.notice "join" user.name)
    .ok (worker.onInsert channel.kind session, true)

/-- `channel::erase`.  The one who leaves gets the notice as well. -/
def erase (channel : Channel) (user : User) (session : Nat) : Except Fault (WebWorker × Bool) :=
  if !isJoined channel session then .ok (worker, false)
  else do
    let members := channel.sessions.erase session
    let worker := worker.setMembers channel members
    let jv := channel.notice "leave" user.name
    let worker <- worker.broadcast platform members jv
    let worker <- worker.sendJson platform session jv
    .ok (worker.onErase channel.kind session, true)

/-- `checked_user`. -/
def checkedUser (user : User) : Except Fault Unit :=
  if user.name = "" then failWith "1" else .ok ()

/-! ## Handlers -/

section Handlers

variable (call : RpcCall) (channel : Channel) (user : User) (session : Nat)

def doJoin : Except Fault WebWorker := do
  checkedUser user
  let (worker, inserted) <- worker.insert platform channel user session
  if !inserted then failWith "Already in channel"
  else worker.complete platform call.complete session

def doLeave : Except Fault WebWorker := do
  let (worker, erased) <- worker.erase platform channel user session
  if !erased then failWith "Not in channel"
  else worker.complete platform call.complete session

/-- `room_impl::do_say`. -/
def doSay : Except Fault WebWorker := do
  checkedUser user
  if !isJoined channel session then failWith "not in channel"
  else
    let text <- checkedStringAt call.params "message"
    let jv := channel.sayNotice user.name text
    let worker <- worker.broadcast platform channel.sessions jv
    worker.complete platform call.complete session

/-- `system_channel::do_identify`. -/
def doIdentify : Except Fault WebWorker := do
  let name <- checkedStringAt call.params "name"
  if 20 < name.utf8ByteSize then failWith "Invalid \"name\": too long"
  else if user.name ≠ "" then failWith "Identity is already set"
  else
    let user : User := ⟨name⟩
    let worker := worker.setUser session user
    let (worker, _) <- worker.insert platform channel user session
    worker.complete platform call.complete session

/-- `system_channel::do_shutdown`. -/
def doShutdown : Except Fault WebWorker :=
  (worker.post (.shutdown 30)).complete platform call.complete session

/-- `system_channel::do_stop`. -/
def doStop : Except Fault WebWorker :=
  (worker.post .stop).complete platform call.complete session

/-- The methods that the table posts. -/
def tableMethods : List String :=
  ["play", "watch", "bet", "start", "hit", "stand"]

/-- The post of a table method.  The request, the user and the wrapper are moved
into the closure, which leaves an empty name and null pointers behind. -/
def postPlay : WebWorker :=
  match worker.sessions[session]? with
  | none => worker
  | some wrapper =>
      let moved := { wrapper with primaryUser := some ⟨""⟩ }
      { worker.post (.play call.method call user moved) with
        sessions := worker.sessions.modify session fun found =>
          { found with plainPtr := false, primaryUser := none } }

/-- `on_dispatch` of the three subclasses. -/
def onDispatch : Except Fault WebWorker :=
  match channel.kind with
  | .room =>
      if call.method = "say" then worker.doSay platform call channel user session
      else if call.method = "slash" then worker.doSay platform call channel user session
      else failCode .methodNotFound
  | .system =>
      if call.method = "identify" then worker.doIdentify platform call channel user session
      else if call.method = "shutdown" then worker.doShutdown platform call session
      else if call.method = "stop" then worker.doStop platform call session
      else failCode .methodNotFound
  | .table =>
      if call.method ∈ tableMethods then .ok (worker.postPlay call user session)
      else failCode .methodNotFound

/-- `channel::dispatch`. -/
def dispatchTo : Except Fault WebWorker :=
  if call.method = "join" then worker.doJoin platform call channel user session
  else if call.method = "leave" then worker.doLeave platform call channel user session
  else worker.onDispatch platform call channel user session

end Handlers

/-- `channel_list_impl::dispatch`. -/
def dispatch (call : RpcCall) (user : User) (session : Nat) : Except Fault WebWorker := do
  let value <- checkedValue call.params "cid"
  match value.getSize platform with
  | .error exception => .error (.json exception)
  | .ok cid =>
      match worker.channelAt cid with
      | none => .error (.rpcError (.ofCodeText .invalidParams "Unknown cid"))
      | some channel => worker.dispatchTo platform call channel user session

/-- After the start.  The first place of the registry is not used. -/
def create : WebWorker where
  channels :=
    [none, some ⟨.system, 1, "System", []⟩, some ⟨.room, 2, "General", []⟩,
      some ⟨.table, 3, "Blackjack", []⟩]
  sessions := []
  sent := []
  posted := []

end WebWorker

end EasyProspect
