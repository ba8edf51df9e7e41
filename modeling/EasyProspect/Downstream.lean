import EasyProspect.HttpRequest
import EasyProspect.Library.Cells
import EasyProspect.Library.Transition
import Mathlib.Logic.Function.Basic

namespace EasyProspect

/-!
# The downstream side of the proxy

`easyprospect_server_downstream` keeps the sessions and the connections to the
backends.  Every part of a client request, the header and each continuation, is
handled by a coroutine of its own that runs `start_request`.  The coroutines run
on one thread and are switched only where they wait: while a name is resolved,
while a stream connects, during a write and during the read of the response.

Connections, streams and coroutines are shared or live on after the call that made
them; each kind is kept in a list and referred to by its position, so what is
new never coincides with what is there.  A step of the component is a call of one
of its functions or the completion of one operation a coroutine waits for.

The mutex in `acquire` and the time limits of the streams are left out: the first
is never contended, the second are among the errors an operation may end with.
-/

/-- `easyprospect_server_downstream_connection`. -/
structure DownstreamConnection where
  stream : Option Nat
  currentSession : Uuid
  initialized : Bool
  deriving DecidableEq

/-- `easyprospect_server_downstream_session`. -/
structure DownstreamSession where
  id : Uuid
  conn : Option Nat
  deriving DecidableEq

/-- `boost::beast::tcp_stream`, with the octets that have been written to it. -/
structure TcpStream where
  connected : Bool
  written : Octets
  deriving DecidableEq

/-- The arguments of `start_request`. -/
structure Part where
  firstReq : Option HttpRequest
  position : Nat
  reqContinuation : Option HttpRequestContinuation
  deriving DecidableEq

/-- How a coroutine ends.  A null request or stream is dereferenced in
`undefined`. -/
inductive Ending
  | sent
  | writeFailed
  | readFailed
  | answered
  | threw (exception : Exception)
  | undefined
  deriving DecidableEq

/-- Where a coroutine waits.  The stream of an operation is the one it was
started on. -/
inductive Phase
  | spawned
  | resolving (conn : Nat)
  | connecting (conn stream : Nat)
  | writing (conn stream : Nat) (octets : Octets) (count : Nat)
  | writingSome (conn stream : Nat) (octets : Octets)
  | reading
  | ended (ending : Ending)
  deriving DecidableEq

structure Task where
  part : Part
  phase : Phase
  deriving DecidableEq

structure Downstream where
  connections : List (List Nat)
  sessions : Uuid -> Option DownstreamSession
  conns : List DownstreamConnection
  streams : List TcpStream
  tasks : List Task
  /-- The calls of `send_res`, each with the coroutine that made it. -/
  responses : List (Nat × Response)

namespace DownstreamConnection

/-- `acquire`. -/
def acquire (connection : DownstreamConnection) (session : Uuid) :
    DownstreamConnection × Bool :=
  if connection.currentSession = nilUuid then
    ({ connection with currentSession := session }, true)
  else if connection.currentSession = session then
    (connection, true)
  else
    (connection, false)

/-- The constructor. -/
def create : DownstreamConnection where
  stream := none
  currentSession := nilUuid
  initialized := false

end DownstreamConnection

namespace Downstream

/-- After `set_backends` with so many backends. -/
def create (backends : Nat) : Downstream where
  connections := List.replicate backends []
  sessions := fun _ => none
  conns := []
  streams := []
  tasks := []
  responses := []

/-- `get_session`; `generated` is what `random_generator` yields for a nil id. -/
def getSession (world : Downstream) (session : Uuid) (throwOnMissing : Bool)
    (generated : Uuid) : Except Exception (Downstream × Uuid) :=
  match world.sessions session with
  | some found => .ok (world, found.id)
  | none =>
      if throwOnMissing then
        .error (.logicError "session not found.")
      else
        let id := if session = nilUuid then generated else session
        .ok ({ world with sessions := Function.update world.sessions id (some ⟨id, none⟩) }, id)

/-- `std::find_if` over a pool, with a predicate that acquires. -/
def findAcquire (session : Uuid) :
    List Nat -> List DownstreamConnection -> List DownstreamConnection × Option Nat
  | [], conns => (conns, none)
  | conn :: rest, conns =>
      match conns[conn]? with
      | none => findAcquire session rest conns
      | some connection =>
          let (acquired, success) := connection.acquire session
          let conns := conns.set conn acquired
          if success then (conns, some conn) else findAcquire session rest conns

def modifyConn (world : Downstream) (conn : Nat)
    (change : DownstreamConnection -> DownstreamConnection) : Downstream :=
  { world with conns := world.conns.modify conn change }

/-- `get_connection`.  The pool that is searched, and that a new connection is
added to, is a copy. -/
def getConnection (world : Downstream) (backendId : Int) (session : Uuid) :
    Except Exception (Downstream × Nat) :=
  if backendId < 0 ∨ (world.connections.length : Int) ≤ backendId then
    .error (.logicError (toString backendId ++ " larger than connections size " ++
      toString world.connections.length))
  else
    let pool := world.connections.getD backendId.toNat []
    let (conns, found) := findAcquire session pool world.conns
    let (conns, conn) :=
      match found with
      | some conn => (conns, conn)
      | none => (conns ++ [(DownstreamConnection.create.acquire session).1], conns.length)
    .ok (modifyConn { world with conns := conns } conn fun connection =>
      { connection with currentSession := session }, conn)

/-- `set_connection` of a session. -/
def setConnection (world : Downstream) (session : Uuid) (conn : Nat) : Downstream :=
  { world with
    sessions := Function.update world.sessions session
      ((world.sessions session).map fun found => { found with conn := some conn }) }

def setPhase (world : Downstream) (task : Nat) (phase : Phase) : Downstream :=
  { world with tasks := world.tasks.modify task fun found => { found with phase := phase } }

/-- `curr_req`. -/
def currReq (part : Part) : Option HttpRequest :=
  match part.firstReq with
  | some request => some request
  | none => part.reqContinuation.bind HttpRequestContinuation.firstRequest

/-- The stream of a connection, `get_stream()`. -/
def getStream (world : Downstream) (conn : Nat) : Option Nat :=
  world.conns[conn]?.bind DownstreamConnection.stream

/-- From a finished write, or from the branch without one, to the next wait. -/
def afterWrite (world : Downstream) (task : Nat) (part : Part) : Downstream :=
  if part.firstReq.any fun request => !request.done then
    world.setPhase task (.ended .sent)
  else if part.reqContinuation.any fun reqContinuation => !reqContinuation.done then
    world.setPhase task (.ended .sent)
  else
    world.setPhase task .reading

/-- From the connected stream to the next wait. -/
def startWrite (beast : Beast) (world : Downstream) (task : Nat) (part : Part) (conn : Nat) :
    Downstream :=
  match part.firstReq with
  | some firstReq =>
      match firstReq.forward beast with
      | .error exception => world.setPhase task (.ended (.threw exception))
      | .ok beReq =>
          match world.getStream conn with
          | none => world.setPhase task (.ended .undefined)
          | some stream =>
              world.setPhase task (.writing conn stream (beast.serialize beReq) 0)
  | none =>
      match part.reqContinuation with
      | some reqContinuation =>
          match world.getStream conn with
          | none => world.setPhase task (.ended .undefined)
          | some stream =>
              world.setPhase task (.writingSome conn stream reqContinuation.buffer)
      | none => world.afterWrite task part

/-- `init` up to the wait for the resolver.  Whatever stream the connection had is
replaced. -/
def startInit (world : Downstream) (task conn : Nat) : Downstream :=
  let opened := { world with streams := world.streams ++ [TcpStream.mk false []] }
  (opened.modifyConn conn fun connection =>
    { connection with stream := some world.streams.length }).setPhase task (.resolving conn)

/-- The session and the connection of a request, as `start_request` finds them. -/
def locate (world : Downstream) (request : HttpRequest) (generated : Uuid) :
    Except Exception (Downstream × Nat) :=
  match world.getSession request.sessionId false generated with
  | .error exception => .error exception
  | .ok (world, session) =>
      match (world.sessions session).bind DownstreamSession.conn with
      | some conn => .ok (world, conn)
      | none =>
          match world.getConnection 0 session with
          | .error exception => .error exception
          | .ok (world, conn) => .ok (world.setConnection session conn, conn)

def isInitialized (world : Downstream) (conn : Nat) : Bool :=
  world.conns[conn]?.any DownstreamConnection.initialized

/-- `start_request` up to its first wait.  The backend is always the first. -/
def startRequest (beast : Beast) (world : Downstream) (task : Nat) (part : Part)
    (generated : Uuid) : Downstream :=
  match currReq part with
  | none => world.setPhase task (.ended .undefined)
  | some request =>
      match world.locate request generated with
      | .error exception => world.setPhase task (.ended (.threw exception))
      | .ok (world, conn) =>
          if world.isInitialized conn then world.startWrite beast task part conn
          else world.startInit task conn

/-- `init` from the resolver to the connect, on the stream the connection has
then. -/
def onResolved (beast : Beast) (world : Downstream) (task : Nat) (part : Part) (conn : Nat)
    (success : Bool) : Downstream :=
  if success then
    match world.getStream conn with
    | none => world.setPhase task (.ended .undefined)
    | some stream => world.setPhase task (.connecting conn stream)
  else
    world.startWrite beast task part conn

def modifyStream (world : Downstream) (stream : Nat) (change : TcpStream -> TcpStream) :
    Downstream :=
  { world with streams := world.streams.modify stream change }

def onConnected (beast : Beast) (world : Downstream) (task : Nat) (part : Part)
    (conn stream : Nat) (success : Bool) : Downstream :=
  if success then
    ((world.modifyStream stream fun found => { found with connected := true }).modifyConn conn
      fun connection => { connection with initialized := true }).startWrite beast task part conn
  else
    world.startWrite beast task part conn

/-- The octets that an operation puts on its stream. -/
def putOctets (world : Downstream) (stream : Nat) (octets : Octets) : Downstream :=
  world.modifyStream stream fun found => { found with written := found.written ++ octets }

def isConnected (world : Downstream) (stream : Nat) : Bool :=
  world.streams[stream]?.any TcpStream.connected

end Downstream

open Downstream

/-- The calls of the component and the completions its coroutines wait for.
`async_write` may put its octets on the stream in several pieces and completes
when it has put them all; `async_write_some` completes with its first piece. -/
inductive DownstreamLabel
  | spawn (part : Part)
  | getSession (session : Uuid) (throwOnMissing : Bool) (generated : Uuid)
  | getConnection (backendId : Int) (session : Uuid)
  | begin (task : Nat) (generated : Uuid)
  | resolved (task : Nat) (success : Bool)
  | connected (task : Nat) (success : Bool)
  | writes (task count : Nat)
  | written (task : Nat)
  | writtenSome (task count : Nat)
  | writeFailed (task : Nat)
  | answered (task : Nat) (response : Response)
  | readFailed (task : Nat)

namespace Downstream

/-- One step.  A call that throws leaves the state as it is. -/
def step (beast : Beast) (world : Downstream) : DownstreamLabel -> Option Downstream
  | .spawn part => some { world with tasks := world.tasks ++ [⟨part, .spawned⟩] }
  | .getSession session throwOnMissing generated =>
      match world.getSession session throwOnMissing generated with
      | .ok (world, _) => some world
      | .error _ => some world
  | .getConnection backendId session =>
      match world.getConnection backendId session with
      | .ok (world, _) => some world
      | .error _ => some world
  | .begin task generated =>
      match world.tasks[task]? with
      | some ⟨part, .spawned⟩ => some (world.startRequest beast task part generated)
      | _ => none
  | .resolved task success =>
      match world.tasks[task]? with
      | some ⟨part, .resolving conn⟩ => some (world.onResolved beast task part conn success)
      | _ => none
  | .connected task success =>
      match world.tasks[task]? with
      | some ⟨part, .connecting conn stream⟩ =>
          some (world.onConnected beast task part conn stream success)
      | _ => none
  | .writes task count =>
      match world.tasks[task]? with
      | some ⟨_, .writing conn stream octets done⟩ =>
          if 0 < count ∧ done + count ≤ octets.length ∧ world.isConnected stream then
            some ((world.putOctets stream ((octets.drop done).take count)).setPhase task
              (.writing conn stream octets (done + count)))
          else none
      | _ => none
  | .written task =>
      match world.tasks[task]? with
      | some ⟨part, .writing _ stream octets done⟩ =>
          if done = octets.length ∧ world.isConnected stream then
            some (world.afterWrite task part)
          else none
      | _ => none
  | .writtenSome task count =>
      match world.tasks[task]? with
      | some ⟨part, .writingSome _ stream octets⟩ =>
          if (0 < count ∨ octets = []) ∧ count ≤ octets.length ∧ world.isConnected stream then
            some ((world.putOctets stream (octets.take count)).afterWrite task part)
          else none
      | _ => none
  | .writeFailed task =>
      match world.tasks[task]? with
      | some ⟨_, .writing _ _ _ _⟩ => some (world.setPhase task (.ended .writeFailed))
      | some ⟨_, .writingSome _ _ _⟩ => some (world.setPhase task (.ended .writeFailed))
      | _ => none
  | .answered task response =>
      match world.tasks[task]? with
      | some ⟨_, .reading⟩ =>
          some { world.setPhase task (.ended .answered) with
            responses := world.responses ++ [(task, response)] }
      | _ => none
  | .readFailed task =>
      match world.tasks[task]? with
      | some ⟨_, .reading⟩ => some (world.setPhase task (.ended .readFailed))
      | _ => none

/-! ## The steps one by one -/

/-- Every step that is taken, with what enables it. -/
inductive Stepped (beast : Beast) (world : Downstream) : DownstreamLabel -> Downstream -> Prop
  | spawn (part : Part) :
      Stepped beast world (.spawn part) { world with tasks := world.tasks ++ [⟨part, .spawned⟩] }
  | getSession {session generated id : Uuid} {throwOnMissing : Bool} {next : Downstream}
      (got : world.getSession session throwOnMissing generated = .ok (next, id)) :
      Stepped beast world (.getSession session throwOnMissing generated) next
  | noSession (session generated : Uuid) (throwOnMissing : Bool) :
      Stepped beast world (.getSession session throwOnMissing generated) world
  | getConnection {backendId : Int} {session : Uuid} {next : Downstream} {conn : Nat}
      (given : world.getConnection backendId session = .ok (next, conn)) :
      Stepped beast world (.getConnection backendId session) next
  | noConnection (backendId : Int) (session : Uuid) :
      Stepped beast world (.getConnection backendId session) world
  | begin {task : Nat} {part : Part} (generated : Uuid)
      (found : world.tasks[task]? = some ⟨part, .spawned⟩) :
      Stepped beast world (.begin task generated) (world.startRequest beast task part generated)
  | resolved {task : Nat} {part : Part} {conn : Nat} (success : Bool)
      (found : world.tasks[task]? = some ⟨part, .resolving conn⟩) :
      Stepped beast world (.resolved task success) (world.onResolved beast task part conn success)
  | connected {task : Nat} {part : Part} {conn stream : Nat} (success : Bool)
      (found : world.tasks[task]? = some ⟨part, .connecting conn stream⟩) :
      Stepped beast world (.connected task success)
        (world.onConnected beast task part conn stream success)
  | writes {task : Nat} {part : Part} {conn stream count done : Nat} {octets : Octets}
      (found : world.tasks[task]? = some ⟨part, .writing conn stream octets done⟩)
      (connected : world.isConnected stream = true) (more : 0 < count)
      (within : done + count ≤ octets.length) :
      Stepped beast world (.writes task count)
        ((world.putOctets stream ((octets.drop done).take count)).setPhase task
          (.writing conn stream octets (done + count)))
  | written {task : Nat} {part : Part} {conn stream : Nat} {octets : Octets}
      (found : world.tasks[task]? = some ⟨part, .writing conn stream octets octets.length⟩)
      (connected : world.isConnected stream = true) :
      Stepped beast world (.written task) (world.afterWrite task part)
  | writtenSome {task : Nat} {part : Part} {conn stream count : Nat} {octets : Octets}
      (found : world.tasks[task]? = some ⟨part, .writingSome conn stream octets⟩)
      (connected : world.isConnected stream = true) (more : 0 < count ∨ octets = [])
      (within : count ≤ octets.length) :
      Stepped beast world (.writtenSome task count)
        ((world.putOctets stream (octets.take count)).afterWrite task part)
  | writeFailed {task : Nat} {part : Part} {conn stream done : Nat} {octets : Octets}
      (found : world.tasks[task]? = some ⟨part, .writing conn stream octets done⟩) :
      Stepped beast world (.writeFailed task) (world.setPhase task (.ended .writeFailed))
  | writeSomeFailed {task : Nat} {part : Part} {conn stream : Nat} {octets : Octets}
      (found : world.tasks[task]? = some ⟨part, .writingSome conn stream octets⟩) :
      Stepped beast world (.writeFailed task) (world.setPhase task (.ended .writeFailed))
  | answered {task : Nat} {part : Part} (response : Response)
      (found : world.tasks[task]? = some ⟨part, .reading⟩) :
      Stepped beast world (.answered task response)
        { world.setPhase task (.ended .answered) with
          responses := world.responses ++ [(task, response)] }
  | readFailed {task : Nat} {part : Part} (found : world.tasks[task]? = some ⟨part, .reading⟩) :
      Stepped beast world (.readFailed task) (world.setPhase task (.ended .readFailed))

theorem stepped_of_step (beast : Beast) {world next : Downstream} {label : DownstreamLabel}
    (taken : world.step beast label = some next) : Stepped beast world label next := by
  cases label with
  | spawn part =>
      cases taken
      exact .spawn part
  | getSession session throwOnMissing generated =>
      rw [step] at taken
      split at taken
      · rename_i got
        cases taken
        exact .getSession got
      · cases taken
        exact .noSession session generated throwOnMissing
  | getConnection backendId session =>
      rw [step] at taken
      split at taken
      · rename_i given
        cases taken
        exact .getConnection given
      · cases taken
        exact .noConnection backendId session
  | begin task generated =>
      rw [step] at taken
      split at taken
      · rename_i found
        cases taken
        exact .begin generated found
      · cases taken
  | resolved task success =>
      rw [step] at taken
      split at taken
      · rename_i found
        cases taken
        exact .resolved success found
      · cases taken
  | connected task success =>
      rw [step] at taken
      split at taken
      · rename_i found
        cases taken
        exact .connected success found
      · cases taken
  | writes task count =>
      rw [step] at taken
      split at taken
      · rename_i found
        rcases Option.ite_none_right_eq_some.mp taken with
          ⟨⟨more, within, connected⟩, same⟩
        cases same
        exact .writes found connected more within
      · cases taken
  | written task =>
      rw [step] at taken
      split at taken
      · rename_i found
        rcases Option.ite_none_right_eq_some.mp taken with ⟨⟨rfl, connected⟩, same⟩
        cases same
        exact .written found connected
      · cases taken
  | writtenSome task count =>
      rw [step] at taken
      split at taken
      · rename_i found
        rcases Option.ite_none_right_eq_some.mp taken with
          ⟨⟨more, within, connected⟩, same⟩
        cases same
        exact .writtenSome found connected more within
      · cases taken
  | writeFailed task =>
      rw [step] at taken
      split at taken
      · rename_i found
        cases taken
        exact .writeFailed found
      · rename_i found
        cases taken
        exact .writeSomeFailed found
      · cases taken
  | answered task response =>
      rw [step] at taken
      split at taken
      · rename_i found
        cases taken
        exact .answered response found
      · cases taken
  | readFailed task =>
      rw [step] at taken
      split at taken
      · rename_i found
        cases taken
        exact .readFailed found
      · cases taken

/-! ## What a step changes -/

/-- `is_done` of everything in a part. -/
def partDone (part : Part) : Bool :=
  (part.firstReq.all fun request => request.done) &&
    part.reqContinuation.all fun reqContinuation => reqContinuation.done

/-- A part with a request or a continuation; every part of a session is one. -/
def Carries (part : Part) : Prop :=
  part.firstReq.isSome = true ∨ part.reqContinuation.isSome = true

/-- The coroutine has not come to the read of the response. -/
def BeforeRead : Phase -> Prop
  | .reading => False
  | .ended .readFailed => False
  | .ended .answered => False
  | _ => True

section Frames

variable (beast : Beast) (world : Downstream) (task : Nat) (part : Part) (conn : Nat)

/-- After a write only a part that is done goes on to the response. -/
theorem afterWrite_eq :
    world.afterWrite task part = world.setPhase task (.ended .sent) ∨
      world.afterWrite task part = world.setPhase task .reading ∧ partDone part = true := by
  rw [afterWrite]
  split
  · exact Or.inl rfl
  · rename_i firstDone
    split
    · exact Or.inl rfl
    · rename_i continuationDone
      refine Or.inr ⟨rfl, ?_⟩
      rcases part with ⟨firstReq, position, reqContinuation⟩
      cases firstReq <;> cases reqContinuation <;> simp_all [partDone]

/-- Starting a write moves the coroutine only. -/
theorem startWrite_eq :
    Exists fun phase => world.startWrite beast task part conn = world.setPhase task phase ∧
      (Carries part -> BeforeRead phase) := by
  rw [startWrite]
  split
  · split
    · exact ⟨_, rfl, fun _ => trivial⟩
    · split
      · exact ⟨_, rfl, fun _ => trivial⟩
      · exact ⟨_, rfl, fun _ => trivial⟩
  · rename_i noRequest
    split
    · split
      · exact ⟨_, rfl, fun _ => trivial⟩
      · exact ⟨_, rfl, fun _ => trivial⟩
    · rename_i noContinuation
      have carriesNothing : ¬Carries part := by
        rw [Carries, noRequest, noContinuation]
        decide
      rcases afterWrite_eq world task part with same | ⟨same, _⟩
      · exact ⟨_, same, fun carries => absurd carries carriesNothing⟩
      · exact ⟨_, same, fun carries => absurd carries carriesNothing⟩

end Frames

/-- Nothing is found in pools that are all empty. -/
theorem pool_of_empty {world : Downstream}
    (pools : forall pool, pool ∈ world.connections -> pool = []) (backend : Nat) :
    world.connections.getD backend [] = [] := by
  rw [List.getD_eq_getElem?_getD]
  cases found : world.connections[backend]? with
  | none => rfl
  | some pool => exact pools pool (List.mem_of_getElem? found)

/-- The coroutines, the streams and the responses of two states are the same. -/
structure SameWork (before after : Downstream) : Prop where
  tasks : after.tasks = before.tasks
  streams : after.streams = before.streams
  responses : after.responses = before.responses

theorem getSession_sameWork {world next : Downstream} {session generated id : Uuid}
    {throwOnMissing : Bool}
    (success : world.getSession session throwOnMissing generated = .ok (next, id)) :
    SameWork world next := by
  rw [getSession] at success
  split at success
  · cases success
    exact ⟨rfl, rfl, rfl⟩
  · split at success
    · cases success
    · cases success
      exact ⟨rfl, rfl, rfl⟩

theorem getConnection_sameWork {world next : Downstream} {backendId : Int} {session : Uuid}
    {conn : Nat} (success : world.getConnection backendId session = .ok (next, conn)) :
    SameWork world next := by
  rw [getConnection] at success
  split at success
  · cases success
  · cases success
    exact ⟨rfl, rfl, rfl⟩

theorem locate_sameWork {world next : Downstream} {request : HttpRequest} {generated : Uuid}
    {conn : Nat} (success : world.locate request generated = .ok (next, conn)) :
    SameWork world next := by
  rw [locate] at success
  split at success
  · cases success
  · rename_i got
    have early := getSession_sameWork got
    split at success
    · cases success
      exact early
    · split at success
      · cases success
      · rename_i given
        cases success
        have late := getConnection_sameWork given
        exact ⟨late.tasks.trans early.tasks, late.streams.trans early.streams,
          late.responses.trans early.responses⟩

/-- A coroutine has come from one phase to another, and nothing else has
happened to the coroutines. -/
structure Moved (world next : Downstream) (task : Nat) (part : Part) (before after : Phase) :
    Prop where
  found : world.tasks[task]? = some ⟨part, before⟩
  tasks : next.tasks = world.tasks.modify task fun found => { found with phase := after }

namespace Moved

variable {world next : Downstream} {task : Nat} {part : Part} {before after : Phase}

theorem here (moved : Moved world next task part before after) :
    next.tasks[task]? = some ⟨part, after⟩ := by
  rw [moved.tasks]
  exact Cells.getElem?_modify_self moved.found _

theorem elsewhere (moved : Moved world next task part before after) {other : Nat}
    (different : other ≠ task) : next.tasks[other]? = world.tasks[other]? := by
  rw [moved.tasks]
  exact List.getElem?_modify_ne _ _ different.symm

/-- A coroutine afterwards is the one that moved or one that did not. -/
theorem found_cases (moved : Moved world next task part before after) {position : Nat}
    {found : Task} (present : next.tasks[position]? = some found) :
    position = task ∧ found = ⟨part, after⟩ ∨
      position ≠ task ∧ world.tasks[position]? = some found := by
  by_cases same : position = task
  · subst same
    exact Or.inl ⟨rfl, Option.some.inj (present.symm.trans moved.here)⟩
  · exact Or.inr ⟨same, (moved.elsewhere same).symm.trans present⟩

theorem parts (moved : Moved world next task part before after) :
    next.tasks.map Task.part = world.tasks.map Task.part := by
  apply List.ext_getElem?
  intro other
  rw [List.getElem?_map, List.getElem?_map]
  by_cases same : other = task
  · rw [same, moved.here, moved.found]
    rfl
  · rw [moved.elsewhere same]

end Moved

/-- `start_request` before the read of the response. -/
theorem startRequest_moves (beast : Beast) {world : Downstream} {task : Nat} {part : Part}
    {before : Phase} (generated : Uuid) (found : world.tasks[task]? = some ⟨part, before⟩)
    (carries : Carries part) :
    Exists fun after =>
      Moved world (world.startRequest beast task part generated) task part before after ∧
        (world.startRequest beast task part generated).responses = world.responses ∧
          BeforeRead after := by
  rw [startRequest]
  split
  · exact ⟨_, ⟨found, rfl⟩, rfl, trivial⟩
  · split
    · exact ⟨_, ⟨found, rfl⟩, rfl, trivial⟩
    · rename_i middle conn located
      have same := locate_sameWork located
      split
      · rcases startWrite_eq beast middle task part conn with ⟨phase, started, early⟩
        rw [started]
        refine ⟨phase, ⟨found, ?_⟩, same.responses, early carries⟩
        rw [← same.tasks]
        rfl
      · refine ⟨.resolving conn, ⟨found, ?_⟩, same.responses, trivial⟩
        rw [← same.tasks]
        rfl

/-- The completion of a coroutine's own write. -/
def Wrote (task : Nat) : DownstreamLabel -> Prop
  | .written other => other = task
  | .writtenSome other _ => other = task
  | _ => False

/-- Everything that a step can do to the coroutines and the responses. -/
inductive WorkStep (world next : Downstream) : DownstreamLabel -> Prop
  | idle (label : DownstreamLabel) (tasks : next.tasks = world.tasks)
      (responses : next.responses = world.responses) : WorkStep world next label
  | spawned (part : Part) (tasks : next.tasks = world.tasks ++ [⟨part, .spawned⟩])
      (responses : next.responses = world.responses) : WorkStep world next (.spawn part)
  | moved (label : DownstreamLabel) {task : Nat} {part : Part} {before after : Phase}
      (moves : Moved world next task part before after) (early : BeforeRead after)
      (waiting : BeforeRead before) (responses : next.responses = world.responses) :
      WorkStep world next label
  | awaits (label : DownstreamLabel) {task : Nat} {part : Part} {before : Phase}
      (moves : Moved world next task part before .reading) (waiting : BeforeRead before)
      (wrote : Wrote task label) (done : partDone part = true)
      (responses : next.responses = world.responses) : WorkStep world next label
  | answered {task : Nat} {part : Part} (response : Response)
      (moves : Moved world next task part .reading (.ended .answered))
      (responses : next.responses = world.responses ++ [(task, response)]) :
      WorkStep world next (.answered task response)
  | readFailed (label : DownstreamLabel) {task : Nat} {part : Part}
      (moves : Moved world next task part .reading (.ended .readFailed))
      (responses : next.responses = world.responses) : WorkStep world next label

/-- What follows a write is a step of the coroutine that wrote. -/
theorem afterWrite_workStep {world middle : Downstream} {task : Nat} {part : Part}
    {before : Phase} {label : DownstreamLabel} (found : world.tasks[task]? = some ⟨part, before⟩)
    (waiting : BeforeRead before) (wrote : Wrote task label) (tasks : middle.tasks = world.tasks)
    (responses : middle.responses = world.responses) :
    WorkStep world (middle.afterWrite task part) label := by
  rcases afterWrite_eq middle task part with same | ⟨same, done⟩
  · rw [same]
    have moves : Moved world (middle.setPhase task (.ended .sent)) task part before
        (.ended .sent) := ⟨found, tasks ▸ rfl⟩
    exact .moved label moves trivial waiting responses
  · rw [same]
    refine .awaits label ⟨found, ?_⟩ waiting wrote done responses
    rw [← tasks]
    rfl

theorem startWrite_workStep (beast : Beast) {world middle : Downstream} {task : Nat} {part : Part}
    {before : Phase} (label : DownstreamLabel) (conn : Nat)
    (found : world.tasks[task]? = some ⟨part, before⟩) (waiting : BeforeRead before)
    (carries : Carries part) (tasks : middle.tasks = world.tasks)
    (responses : middle.responses = world.responses) :
    WorkStep world (middle.startWrite beast task part conn) label := by
  rcases startWrite_eq beast middle task part conn with ⟨phase, same, early⟩
  rw [same]
  refine .moved label ⟨found, ?_⟩ (early carries) waiting responses
  rw [← tasks]
  rfl

theorem carries_of_found {world : Downstream}
    (carries : forall part, part ∈ world.tasks.map Task.part -> Carries part) {position : Nat}
    {task : Task} (found : world.tasks[position]? = some task) : Carries task.part :=
  carries task.part (List.mem_map_of_mem (List.mem_of_getElem? found))

/-- One case for each kind of step. -/
theorem step_workStep (beast : Beast) {world next : Downstream} {label : DownstreamLabel}
    (carries : forall part, part ∈ world.tasks.map Task.part -> Carries part)
    (taken : world.step beast label = some next) : WorkStep world next label := by
  cases stepped_of_step beast taken with
  | spawn part => exact .spawned part rfl rfl
  | getSession got =>
      exact .idle _ (getSession_sameWork got).tasks (getSession_sameWork got).responses
  | noSession => exact .idle _ rfl rfl
  | getConnection given =>
      exact .idle _ (getConnection_sameWork given).tasks (getConnection_sameWork given).responses
  | noConnection => exact .idle _ rfl rfl
  | begin generated found =>
      rcases startRequest_moves beast generated found (carries_of_found carries found) with
        ⟨after, moves, responses, early⟩
      exact .moved _ moves early trivial responses
  | @resolved task part conn success found =>
      rw [onResolved]
      split
      · split
        · exact .moved _ ⟨found, rfl⟩ trivial trivial rfl
        · exact .moved _ ⟨found, rfl⟩ trivial trivial rfl
      · exact startWrite_workStep beast _ conn found trivial (carries_of_found carries found) rfl rfl
  | @connected task part conn stream success found =>
      rw [onConnected]
      split
      · exact startWrite_workStep beast _ conn found trivial (carries_of_found carries found) rfl rfl
      · exact startWrite_workStep beast _ conn found trivial (carries_of_found carries found) rfl rfl
  | writes found => exact .moved _ ⟨found, rfl⟩ trivial trivial rfl
  | written found => exact afterWrite_workStep found trivial rfl rfl rfl
  | writtenSome found => exact afterWrite_workStep found trivial rfl rfl rfl
  | writeFailed found => exact .moved _ ⟨found, rfl⟩ trivial trivial rfl
  | writeSomeFailed found => exact .moved _ ⟨found, rfl⟩ trivial trivial rfl
  | answered response found => exact .answered response ⟨found, rfl⟩ rfl
  | readFailed found => exact .readFailed _ ⟨found, rfl⟩ rfl

end Downstream

end EasyProspect
