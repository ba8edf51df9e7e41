import EasyProspect.ByteOrder
import EasyProspect.Isolation
import EasyProspect.Library.Cells

namespace EasyProspect

/-!
# Whose octets a stream carries

`Isolation` says which session a connection belongs to.  Here the octets are
followed.  A stream is made for one connection by `init`, a coroutine writes to a
stream that its connection had when the write was started, and it reads the
response from the stream that its connection has when the read is started.  Other
coroutines may have replaced the stream in between.

The state is traced: beside it stand the connection for which each stream was
made, the pieces that were put on the streams, and the streams from which responses
were read.
-/

namespace Downstream

open Cells

/-- A piece that a coroutine put on a stream. -/
structure Put where
  task : Nat
  stream : Nat
  octets : Octets
  deriving DecidableEq

/-- A state with its past. -/
structure Traced where
  world : Downstream
  /-- The connection that each stream was made for. -/
  opened : List Nat
  puts : List Put
  /-- The coroutines that began to read a response, and the streams they read. -/
  reads : List (Nat × Nat)

namespace Traced

/-- The connections for which a step makes a stream. -/
def opens (world next : Downstream) : DownstreamLabel -> List Nat
  | .begin task _ =>
      if world.streams.length < next.streams.length then
        (next.tasks[task]?.bind fun found => phaseConn found.phase).toList
      else []
  | _ => []

/-- What a step puts on a stream. -/
def putBy (world : Downstream) : DownstreamLabel -> List Put
  | .writes task count =>
      match world.tasks[task]? with
      | some ⟨_, .writing _ stream octets done⟩ =>
          [⟨task, stream, (octets.drop done).take count⟩]
      | _ => []
  | .writtenSome task count =>
      match world.tasks[task]? with
      | some ⟨_, .writingSome _ stream octets⟩ => [⟨task, stream, octets.take count⟩]
      | _ => []
  | _ => []

/-- The stream of a read that a coroutine has just begun. -/
def readStream (world next : Downstream) (task : Nat) : List (Nat × Nat) :=
  if next.tasks[task]?.any fun found => found.phase = .reading then
    ((world.tasks[task]?.bind fun found => phaseConn found.phase).bind world.getStream).toList.map
      fun stream => (task, stream)
  else []

/-- The reads that a step begins. -/
def readBy (world next : Downstream) : DownstreamLabel -> List (Nat × Nat)
  | .written task => readStream world next task
  | .writtenSome task _ => readStream world next task
  | _ => []

def step (beast : Beast) (traced : Traced) (label : DownstreamLabel) : Option Traced :=
  (traced.world.step beast label).map fun next =>
    { world := next
      opened := traced.opened ++ opens traced.world next label
      puts := traced.puts ++ putBy traced.world label
      reads := traced.reads ++ readBy traced.world next label }

def create (backends : Nat) : Traced where
  world := Downstream.create backends
  opened := []
  puts := []
  reads := []

/-- All calls and completions in any order, with fresh ids. -/
def system (beast : Beast) : Transition.System Traced DownstreamLabel :=
  (Transition.System.ofStep (fun traced => Exists fun backends => traced = create backends)
    (step beast)).restrict fun traced => traced.world.FreshIds

/-- All that was put on a stream, in order. -/
def onStream (traced : Traced) (stream : Nat) : Octets :=
  (traced.puts.filter fun put => put.stream = stream).flatMap Put.octets

/-- All that a coroutine put on streams, in order. -/
def byTask (traced : Traced) (task : Nat) : Octets :=
  (traced.puts.filter fun put => put.task = task).flatMap Put.octets

/-- The session that the request of a coroutine names, unless it names none. -/
def sessionOf (traced : Traced) (task : Nat) : Option Uuid :=
  ((traced.world.tasks[task]?.bind fun found => currReq found.part).map
    HttpRequest.sessionId).filter fun session => session ≠ nilUuid

end Traced

/-! ## What a coroutine has to do with a connection -/

/-- The connection belongs to the session that the request of the part names. -/
def Serves (world : Downstream) (part : Part) (conn : Nat) : Prop :=
  forall request, currReq part = some request -> request.sessionId ≠ nilUuid ->
    world.HasConn request.sessionId conn

theorem Serves.grows {before after : Downstream} {part : Part} {conn : Nat}
    (serves : before.Serves part conn) (grows : Grows before after) : after.Serves part conn :=
  fun request carried nonNil => grows.sessions _ _ (serves request carried nonNil)

/-- `get_session` yields the session that was asked for, if one was. -/
theorem getSession_id {world next : Downstream} {session generated id : Uuid}
    {throwOnMissing : Bool} (owned : world.Owned) (nonNil : session ≠ nilUuid)
    (success : world.getSession session throwOnMissing generated = .ok (next, id)) :
    id = session := by
  rw [getSession] at success
  cases found : world.sessions session with
  | some existing =>
      rw [found] at success
      cases success
      exact (owned.keyed session existing found).1
  | none =>
      rw [found] at success
      cases throwOnMissing with
      | true => cases success
      | false =>
          cases success
          exact if_neg nonNil

/-- What `start_request` finds is the connection of the session that the request names. -/
theorem locate_hasConn {world next : Downstream} {request : HttpRequest} {generated : Uuid}
    {conn : Nat} (owned : world.Owned) (fresh : world.Fresh generated)
    (nonNil : request.sessionId ≠ nilUuid)
    (success : world.locate request generated = .ok (next, conn)) :
    next.HasConn request.sessionId conn := by
  rw [locate] at success
  split at success
  · cases success
  · rename_i middle session got
    rcases getSession_keeps owned fresh got with ⟨early, found, present⟩
    rw [← getSession_id owned nonNil got]
    split at success
    · rename_i has
      cases success
      rcases Option.bind_eq_some_iff.mp has with ⟨existing, foundExisting, hasConn⟩
      exact ⟨existing, foundExisting, hasConn⟩
    · split at success
      · cases success
      · rename_i last lastConn given
        cases success
        rcases getConnection_keeps early.1 given with ⟨_, _, sessions⟩
        have entry : (last.setConnection session conn).sessions session =
            some { found with conn := some conn } := by
          change Function.update last.sessions session _ session = _
          rw [Function.update_self, sessions, present]
          rfl
        exact ⟨_, entry, rfl⟩

theorem locate_serves {world next : Downstream} {part : Part} {request : HttpRequest}
    {generated : Uuid} {conn : Nat} (owned : world.Owned) (fresh : world.Fresh generated)
    (carried : currReq part = some request)
    (success : world.locate request generated = .ok (next, conn)) : next.Serves part conn := by
  intro other carriedOther nonNil
  cases carried.symm.trans carriedOther
  exact locate_hasConn owned fresh nonNil success

/-! ## The streams of the connections -/

/-- Every stream of a connection was made for it. -/
def Opened (opened : List Nat) (world : Downstream) : Prop :=
  forall conn stream, world.getStream conn = some stream -> opened[stream]? = some conn

/-- The connections have the streams they had, and new ones have none. -/
def SameStreams (before after : List DownstreamConnection) : Prop :=
  forall conn : Nat, after[conn]?.bind DownstreamConnection.stream =
    before[conn]?.bind DownstreamConnection.stream

theorem SameStreams.refl (conns : List DownstreamConnection) : SameStreams conns conns :=
  fun _ => rfl

theorem SameStreams.trans {first middle last : List DownstreamConnection}
    (early : SameStreams first middle) (late : SameStreams middle last) :
    SameStreams first last :=
  fun conn => (late conn).trans (early conn)

theorem acquire_stream (connection : DownstreamConnection) (session : Uuid) :
    (connection.acquire session).1.stream = connection.stream := by
  rw [DownstreamConnection.acquire]
  split
  · rfl
  · split <;> rfl

theorem findAcquire_streams (session : Uuid) (pool : List Nat)
    (conns : List DownstreamConnection) :
    SameStreams conns (findAcquire session pool conns).1 := by
  induction pool generalizing conns with
  | nil => exact SameStreams.refl conns
  | cons conn rest inductionHypothesis =>
      rw [findAcquire]
      cases found : conns[conn]? with
      | none => exact inductionHypothesis conns
      | some connection =>
          have acquired : SameStreams conns (conns.set conn (connection.acquire session).1) :=
            bind_getElem?_set found (acquire_stream connection session)
          cases success : (connection.acquire session).2 with
          | true =>
              simp only [success, if_true]
              exact acquired
          | false =>
              simp only [success, Bool.false_eq_true, if_false]
              exact acquired.trans (inductionHypothesis _)

theorem getConnection_streams {world next : Downstream} {backendId : Int} {session : Uuid}
    {conn : Nat} (success : world.getConnection backendId session = .ok (next, conn)) :
    SameStreams world.conns next.conns := by
  rw [getConnection] at success
  split at success
  · cases success
  · have acquired := findAcquire_streams session (world.connections.getD backendId.toNat [])
      world.conns
    cases success
    refine SameStreams.trans ?_ (bind_getElem?_modify (by exact fun _ => rfl) _ _)
    split
    · exact acquired
    · exact acquired.trans (bind_getElem?_concat (acquire_stream _ session) _)

theorem getSession_conns {world next : Downstream} {session generated id : Uuid}
    {throwOnMissing : Bool}
    (success : world.getSession session throwOnMissing generated = .ok (next, id)) :
    next.conns = world.conns := by
  rw [getSession] at success
  split at success
  · cases success
    rfl
  · split at success
    · cases success
    · cases success
      rfl

theorem locate_streams {world next : Downstream} {request : HttpRequest} {generated : Uuid}
    {conn : Nat} (success : world.locate request generated = .ok (next, conn)) :
    SameStreams world.conns next.conns := by
  rw [locate] at success
  split at success
  · cases success
  · rename_i got
    rw [← getSession_conns got]
    split at success
    · cases success
      exact SameStreams.refl _
    · split at success
      · cases success
      · rename_i last lastConn given
        cases success
        have streams : SameStreams _ last.conns := getConnection_streams given
        exact streams

theorem Opened.keeps {opened more : List Nat} {world next : Downstream}
    (made : Opened opened world) (same : SameStreams world.conns next.conns) :
    Opened (opened ++ more) next :=
  fun conn stream has => getElem?_append_of_some (made conn stream ((same conn).symm.trans has))

/-! ## The invariant -/

/-- How far a coroutine in a phase has come, when it has put `done` on streams. -/
def Fits (beast : Beast) (world : Downstream) (opened : List Nat) (part : Part)
    (done : Octets) : Phase -> Prop
  | .spawned => done = []
  | .resolving conn => done = [] ∧ world.Serves part conn
  | .connecting conn stream =>
      done = [] ∧ world.Serves part conn ∧ opened[stream]? = some conn
  | .writing conn stream octets count =>
      done = octets.take count ∧ octets = payload beast part ∧ world.Serves part conn ∧
        opened[stream]? = some conn
  | .writingSome conn stream octets =>
      done = [] ∧ octets = payload beast part ∧ world.Serves part conn ∧
        opened[stream]? = some conn
  | .reading => done <+: payload beast part
  | .ended _ => done <+: payload beast part

/-- The stream was made for a connection of the session that the request of the
coroutine names. -/
def Uses (world : Downstream) (opened : List Nat) (task stream : Nat) : Prop :=
  Exists fun found => world.tasks[task]? = some found ∧
    Exists fun conn => opened[stream]? = some conn ∧ world.Serves found.part conn

structure Tracked (beast : Beast) (traced : Traced) : Prop where
  owned : traced.world.Owned
  length : traced.opened.length = traced.world.streams.length
  made : Opened traced.opened traced.world
  tasks : forall (position : Nat) (task : Task), traced.world.tasks[position]? = some task ->
    Fits beast traced.world traced.opened task.part (traced.byTask position) task.phase
  puts : forall put, put ∈ traced.puts -> traced.world.Uses traced.opened put.task put.stream
  reads : forall task stream, (task, stream) ∈ traced.reads ->
    traced.world.Uses traced.opened task stream
  written : forall (stream : Nat) (found : TcpStream),
    traced.world.streams[stream]? = some found -> found.written = traced.onStream stream

theorem Fits.within {beast : Beast} {world : Downstream} {opened : List Nat} {part : Part}
    {done : Octets} {phase : Phase} (fits : Fits beast world opened part done phase) :
    done <+: payload beast part := by
  cases phase with
  | spawned => exact fits ▸ List.nil_prefix
  | resolving conn => exact fits.1 ▸ List.nil_prefix
  | connecting conn stream => exact fits.1 ▸ List.nil_prefix
  | writing conn stream octets count =>
      rw [fits.1, ← fits.2.1]
      exact List.take_prefix count octets
  | writingSome conn stream octets => exact fits.1 ▸ List.nil_prefix
  | reading => exact fits
  | ended ending => exact fits

/-- What fits goes on fitting while sessions keep their connections. -/
theorem Fits.grows {beast : Beast} {before after : Downstream} {opened more : List Nat}
    {part : Part} {done : Octets} {phase : Phase}
    (fits : Fits beast before opened part done phase) (grows : Grows before after) :
    Fits beast after (opened ++ more) part done phase := by
  cases phase with
  | spawned => exact fits
  | resolving conn => exact ⟨fits.1, fits.2.grows grows⟩
  | connecting conn stream =>
      exact ⟨fits.1, fits.2.1.grows grows, getElem?_append_of_some fits.2.2⟩
  | writing conn stream octets count =>
      exact ⟨fits.1, fits.2.1, fits.2.2.1.grows grows, getElem?_append_of_some fits.2.2.2⟩
  | writingSome conn stream octets =>
      exact ⟨fits.1, fits.2.1, fits.2.2.1.grows grows, getElem?_append_of_some fits.2.2.2⟩
  | reading => exact fits
  | ended ending => exact fits

/-- The connection of a phase serves the part. -/
theorem Fits.serves {beast : Beast} {world : Downstream} {opened : List Nat} {part : Part}
    {done : Octets} {phase : Phase} {conn : Nat}
    (fits : Fits beast world opened part done phase) (has : phaseConn phase = some conn) :
    world.Serves part conn := by
  cases phase with
  | resolving found =>
      cases has
      exact fits.2
  | connecting found stream =>
      cases has
      exact fits.2.1
  | writing found stream octets count =>
      cases has
      exact fits.2.2.1
  | writingSome found stream octets =>
      cases has
      exact fits.2.2.1
  | spawned => cases has
  | reading => cases has
  | ended ending => cases has

/-- A write is started on the stream that the connection has. -/
theorem startWrite_fits (beast : Beast) {world : Downstream} {opened : List Nat} (task : Nat)
    {part : Part} {conn : Nat} (made : Opened opened world) (serves : world.Serves part conn) :
    Exists fun phase => world.startWrite beast task part conn = world.setPhase task phase ∧
      Fits beast world opened part [] phase := by
  rw [startWrite]
  split
  · rename_i request isRequest
    split
    · exact ⟨_, rfl, List.nil_prefix⟩
    · rename_i beReq forwarded
      split
      · exact ⟨_, rfl, List.nil_prefix⟩
      · rename_i stream has
        refine ⟨_, rfl, rfl, ?_, serves, made conn stream has⟩
        rw [payload, isRequest]
        simp only [forwarded]
  · rename_i noRequest
    split
    · rename_i reqContinuation isContinuation
      split
      · exact ⟨_, rfl, List.nil_prefix⟩
      · rename_i stream has
        refine ⟨_, rfl, rfl, ?_, serves, made conn stream has⟩
        rw [payload, noRequest, isContinuation]
    · rcases afterWrite_eq world task part with same | ⟨same, _⟩
      · exact ⟨_, same, List.nil_prefix⟩
      · exact ⟨_, same, List.nil_prefix⟩

/-! ## One step -/

section Steps

variable {beast : Beast} {traced : Traced} {next : Downstream}

theorem Traced.byTask_append (world : Downstream) (opened : List Nat) (puts more : List Put)
    (reads : List (Nat × Nat)) (task : Nat) :
    (Traced.mk world opened (puts ++ more) reads).byTask task =
      (puts.filter fun put => put.task = task).flatMap Put.octets ++
        (more.filter fun put => put.task = task).flatMap Put.octets := by
  rw [Traced.byTask, List.filter_append, List.flatMap_append]

theorem Traced.onStream_append (world : Downstream) (opened : List Nat) (puts more : List Put)
    (reads : List (Nat × Nat)) (stream : Nat) :
    (Traced.mk world opened (puts ++ more) reads).onStream stream =
      (puts.filter fun put => put.stream = stream).flatMap Put.octets ++
        (more.filter fun put => put.stream = stream).flatMap Put.octets := by
  rw [Traced.onStream, List.filter_append, List.flatMap_append]

/-- A coroutine that is not there yet has put nothing. -/
theorem Tracked.byTask_absent (tracked : Tracked beast traced) {position : Nat}
    (absent : traced.world.tasks[position]? = none) : traced.byTask position = [] := by
  have none : (traced.puts.filter fun put => put.task = position) = [] := by
    apply List.filter_eq_nil_iff.mpr
    intro put member same
    rcases tracked.puts put member with ⟨found, present, _⟩
    rw [of_decide_eq_true same, absent] at present
    cases present
  rw [Traced.byTask, none, List.flatMap_nil]

/-- Nothing has been put on a stream that is not there yet. -/
theorem Tracked.onStream_absent (tracked : Tracked beast traced) {stream : Nat}
    (absent : traced.world.streams.length ≤ stream) : traced.onStream stream = [] := by
  have none : (traced.puts.filter fun put => put.stream = stream) = [] := by
    apply List.filter_eq_nil_iff.mpr
    intro put member same
    rcases tracked.puts put member with ⟨_, _, conn, opened, _⟩
    have within := (List.getElem?_eq_some_iff.mp opened).1
    rw [of_decide_eq_true same, tracked.length] at within
    exact Nat.not_lt_of_le absent within
  rw [Traced.onStream, none, List.flatMap_nil]

theorem Uses.grows {before after : Downstream} {opened more : List Nat} {task stream : Nat}
    (uses : before.Uses opened task stream) (grows : Grows before after)
    (parts : forall (position : Nat) (found : Task), before.tasks[position]? = some found ->
      Exists fun later => after.tasks[position]? = some later ∧ later.part = found.part) :
    after.Uses (opened ++ more) task stream := by
  rcases uses with ⟨found, present, conn, made, serves⟩
  rcases parts task found present with ⟨later, presentLater, same⟩
  exact ⟨later, presentLater, conn, getElem?_append_of_some made, same ▸ serves.grows grows⟩

/-- A step that writes nothing and at most adds a coroutine. -/
theorem Tracked.idle (tracked : Tracked beast traced) (added : List Part)
    (keeps : Keeps traced.world next) (streams : next.streams = traced.world.streams)
    (conns : SameStreams traced.world.conns next.conns)
    (tasks : next.tasks = traced.world.tasks ++ added.map fun part => ⟨part, .spawned⟩) :
    Tracked beast ⟨next, traced.opened ++ [], traced.puts ++ [], traced.reads ++ []⟩ := by
  have kept : forall (position : Nat) (found : Task),
      traced.world.tasks[position]? = some found ->
        Exists fun later => next.tasks[position]? = some later ∧ later.part = found.part := by
    intro position found present
    rw [tasks]
    exact ⟨found, getElem?_append_of_some present, rfl⟩
  rw [List.append_nil traced.puts, List.append_nil traced.reads]
  refine ⟨keeps.1, ?_, tracked.made.keeps conns, ?_, ?_, ?_, ?_⟩
  · rw [List.append_nil, streams]
    exact tracked.length
  · intro position task present
    rw [tasks] at present
    rcases getElem?_append_cases present with old | ⟨beyond, new⟩
    · exact (tracked.tasks position task old).grows keeps.2
    · rcases List.mem_map.mp new with ⟨part, _, rfl⟩
      exact tracked.byTask_absent (List.getElem?_eq_none beyond)
  · exact fun put member => (tracked.puts put member).grows keeps.2 kept
  · exact fun task stream member => (tracked.reads task stream member).grows keeps.2 kept
  · rw [streams]
    exact tracked.written

/-- A step of one coroutine. -/
theorem Tracked.moved {task : Nat} {part : Part} {before after : Phase} {more : List Nat}
    {pieces : List Put} {reads : List (Nat × Nat)} (tracked : Tracked beast traced)
    (moves : Moved traced.world next task part before after) (keeps : Keeps traced.world next)
    (length : (traced.opened ++ more).length = next.streams.length)
    (made : Opened (traced.opened ++ more) next)
    (fits : Fits beast next (traced.opened ++ more) part
      (traced.byTask task ++ pieces.flatMap Put.octets) after)
    (puts : forall put, put ∈ pieces -> put.task = task ∧
      Exists fun conn => traced.opened[put.stream]? = some conn ∧ traced.world.Serves part conn)
    (began : forall reader stream, (reader, stream) ∈ reads -> reader = task ∧
      Exists fun conn => traced.opened[stream]? = some conn ∧ traced.world.Serves part conn)
    (written : forall (stream : Nat) (found : TcpStream), next.streams[stream]? = some found ->
      found.written = traced.onStream stream ++
        (pieces.filter fun put => put.stream = stream).flatMap Put.octets) :
    Tracked beast
      ⟨next, traced.opened ++ more, traced.puts ++ pieces, traced.reads ++ reads⟩ := by
  have kept : forall (position : Nat) (found : Task),
      traced.world.tasks[position]? = some found ->
        Exists fun later => next.tasks[position]? = some later ∧ later.part = found.part := by
    intro position found present
    by_cases same : position = task
    · subst same
      cases moves.found.symm.trans present
      exact ⟨_, moves.here, rfl⟩
    · exact ⟨found, (moves.elsewhere same).trans present, rfl⟩
  refine ⟨keeps.1, length, made, ?_, ?_, ?_, ?_⟩
  · intro position found present
    rw [Traced.byTask_append]
    rcases moves.found_cases present with ⟨rfl, rfl⟩ | ⟨other, old⟩
    · have own : (pieces.filter fun put => put.task = position) = pieces :=
        List.filter_eq_self.mpr fun put member => decide_eq_true (puts put member).1
      rw [own]
      exact fits
    · have foreign : (pieces.filter fun put => put.task = position) = [] := by
        apply List.filter_eq_nil_iff.mpr
        intro put member same
        exact other ((of_decide_eq_true same).symm.trans (puts put member).1)
      rw [foreign, List.flatMap_nil, List.append_nil]
      exact (tracked.tasks position found old).grows keeps.2
  · intro put member
    rcases List.mem_append.mp member with old | new
    · exact (tracked.puts put old).grows keeps.2 kept
    · rcases puts put new with ⟨same, conn, opened, serves⟩
      have uses : traced.world.Uses traced.opened put.task put.stream :=
        ⟨_, same ▸ moves.found, conn, opened, serves⟩
      exact uses.grows keeps.2 kept
  · intro reader stream member
    rcases List.mem_append.mp member with old | new
    · exact (tracked.reads reader stream old).grows keeps.2 kept
    · rcases began reader stream new with ⟨same, conn, opened, serves⟩
      have uses : traced.world.Uses traced.opened reader stream :=
        ⟨_, same ▸ moves.found, conn, opened, serves⟩
      exact uses.grows keeps.2 kept
  · intro stream found present
    rw [Traced.onStream_append]
    exact written stream found present

/-- A step of one coroutine that writes nothing and makes no stream. -/
theorem Tracked.silent {task : Nat} {part : Part} {before after : Phase}
    {reads : List (Nat × Nat)} (tracked : Tracked beast traced)
    (moves : Moved traced.world next task part before after) (keeps : Keeps traced.world next)
    (conns : SameStreams traced.world.conns next.conns)
    (length : next.streams.length = traced.world.streams.length)
    (fits : Fits beast next traced.opened part (traced.byTask task) after)
    (began : forall reader stream, (reader, stream) ∈ reads -> reader = task ∧
      Exists fun conn => traced.opened[stream]? = some conn ∧ traced.world.Serves part conn)
    (written : forall (stream : Nat) (found : TcpStream), next.streams[stream]? = some found ->
      found.written = traced.onStream stream) :
    Tracked beast ⟨next, traced.opened ++ [], traced.puts ++ [], traced.reads ++ reads⟩ := by
  refine tracked.moved moves keeps ?_ (tracked.made.keeps conns) ?_ nofun began ?_
  · rw [List.append_nil, length]
    exact tracked.length
  · rw [List.append_nil, List.flatMap_nil, List.append_nil]
    exact fits
  · intro stream found present
    rw [List.filter_nil, List.flatMap_nil, List.append_nil]
    exact written stream found present

/-- A silent step that begins no read. -/
theorem Tracked.quiet {task : Nat} {part : Part} {before after : Phase}
    (tracked : Tracked beast traced)
    (moves : Moved traced.world next task part before after) (keeps : Keeps traced.world next)
    (conns : SameStreams traced.world.conns next.conns)
    (length : next.streams.length = traced.world.streams.length)
    (fits : Fits beast next traced.opened part (traced.byTask task) after)
    (written : forall (stream : Nat) (found : TcpStream), next.streams[stream]? = some found ->
      found.written = traced.onStream stream) :
    Tracked beast ⟨next, traced.opened ++ [], traced.puts ++ [], traced.reads ++ []⟩ :=
  tracked.silent moves keeps conns length fits
    (fun _ _ member => absurd member List.not_mem_nil) written

theorem Tracked.fits (tracked : Tracked beast traced) {task : Nat} {part : Part} {phase : Phase}
    (found : traced.world.tasks[task]? = some ⟨part, phase⟩) :
    Fits beast traced.world traced.opened part (traced.byTask task) phase :=
  tracked.tasks task ⟨part, phase⟩ found

/-- A read begins on the stream that the connection of the coroutine has. -/
theorem readStream_mem {world : Downstream} {task reader stream : Nat} {part : Part}
    {phase : Phase} (found : world.tasks[task]? = some ⟨part, phase⟩)
    (member : (reader, stream) ∈ Traced.readStream world next task) :
    reader = task ∧ Exists fun conn => phaseConn phase = some conn ∧
      world.getStream conn = some stream := by
  rw [Traced.readStream] at member
  split at member
  · rcases List.mem_map.mp member with ⟨read, has, same⟩
    cases same
    rw [Option.mem_toList, found] at has
    rcases Option.bind_eq_some_iff.mp has with ⟨conn, here, stream_conn⟩
    exact ⟨rfl, conn, here, stream_conn⟩
  · cases member

theorem Tracked.began (tracked : Tracked beast traced) (next : Downstream) {task : Nat}
    {part : Part} {phase : Phase}
    (found : traced.world.tasks[task]? = some ⟨part, phase⟩) (reader stream : Nat)
    (member : (reader, stream) ∈ Traced.readStream traced.world next task) :
    reader = task ∧ Exists fun conn => traced.opened[stream]? = some conn ∧
      traced.world.Serves part conn := by
  rcases readStream_mem found member with ⟨same, conn, here, has⟩
  exact ⟨same, conn, tracked.made conn stream has, (tracked.fits found).serves here⟩

/-- The end of a coroutine, or the read after its writes. -/
theorem afterWrite_moves {world middle : Downstream} {task : Nat} {part : Part} {before : Phase}
    (found : world.tasks[task]? = some ⟨part, before⟩) (tasks : middle.tasks = world.tasks) :
    Exists fun after => Moved world (middle.afterWrite task part) task part before after ∧
      middle.afterWrite task part = middle.setPhase task after ∧
        (after = .reading ∨ Exists fun ending => after = .ended ending) := by
  rcases afterWrite_eq middle task part with same | ⟨same, _⟩
  · rw [same]
    exact ⟨_, ⟨found, tasks ▸ rfl⟩, rfl, Or.inr ⟨_, rfl⟩⟩
  · rw [same]
    exact ⟨_, ⟨found, tasks ▸ rfl⟩, rfl, Or.inl rfl⟩

theorem fits_of_late {world : Downstream} {opened : List Nat} {part : Part} {done : Octets}
    {after : Phase} (late : after = .reading ∨ Exists fun ending => after = .ended ending)
    (within : done <+: payload beast part) : Fits beast world opened part done after := by
  rcases late with rfl | ⟨ending, rfl⟩
  · exact within
  · exact within

/-- The octets that are put on a stream, and on no other. -/
theorem written_putOctets (tracked : Tracked beast traced) (task stream : Nat) (octets : Octets)
    (other : Nat) (found : TcpStream)
    (present : (traced.world.putOctets stream octets).streams[other]? = some found) :
    found.written = traced.onStream other ++
      (([⟨task, stream, octets⟩] : List Put).filter fun put => put.stream = other).flatMap
        Put.octets := by
  have changed : (traced.world.putOctets stream octets).streams =
      traced.world.streams.modify stream
        fun found => { found with written := found.written ++ octets } := rfl
  rw [changed] at present
  by_cases same : stream = other
  · subst same
    rw [List.getElem?_modify_eq] at present
    rcases Option.map_eq_some_iff.mp present with ⟨before, old, rfl⟩
    simp [tracked.written stream before old]
  · rw [List.getElem?_modify_ne _ _ same] at present
    simp [same, tracked.written other found present]

/-- What `start_request` does up to its first wait: it makes a stream for the
connection of the session, or it makes none. -/
inductive Started (beast : Beast) (world : Downstream) (opened : List Nat) (task : Nat)
    (part : Part) (next : Downstream) : Prop
  | without {after : Phase} (moves : Moved world next task part .spawned after)
      (streams : next.streams = world.streams) (conns : SameStreams world.conns next.conns)
      (fits : Fits beast next opened part [] after)
  | makes (conn : Nat) (moves : Moved world next task part .spawned (.resolving conn))
      (streams : next.streams = world.streams ++ [⟨false, []⟩])
      (conns : forall other stream, next.getStream other = some stream ->
        world.getStream other = some stream ∨ other = conn ∧ stream = world.streams.length)
      (serves : next.Serves part conn)

/-- After `init` has replaced the stream of a connection. -/
theorem getStream_startInit {world middle : Downstream} {task conn other stream : Nat}
    (same : SameStreams world.conns middle.conns)
    (length : middle.streams.length = world.streams.length)
    (has : (middle.startInit task conn).getStream other = some stream) :
    world.getStream other = some stream ∨ other = conn ∧ stream = world.streams.length := by
  have conns : (middle.startInit task conn).conns = middle.conns.modify conn
      fun connection => { connection with stream := some middle.streams.length } := rfl
  rw [getStream, conns] at has
  by_cases here : conn = other
  · subst here
    rw [List.getElem?_modify_eq] at has
    rcases Option.bind_eq_some_iff.mp has with ⟨changed, present, made⟩
    rcases Option.map_eq_some_iff.mp present with ⟨before, _, rfl⟩
    cases made
    exact Or.inr ⟨rfl, length⟩
  · rw [List.getElem?_modify_ne _ _ here] at has
    exact Or.inl ((same other).symm.trans has)

theorem startRequest_started (beast : Beast) {world : Downstream} {opened : List Nat}
    {task : Nat} {part : Part} {generated : Uuid} (owned : world.Owned)
    (made : Opened opened world) (fresh : world.Fresh generated)
    (found : world.tasks[task]? = some ⟨part, .spawned⟩) :
    Started beast world opened task part (world.startRequest beast task part generated) := by
  rw [startRequest]
  split
  · exact .without ⟨found, rfl⟩ rfl (SameStreams.refl _) List.nil_prefix
  · rename_i request carried
    split
    · exact .without ⟨found, rfl⟩ rfl (SameStreams.refl _) List.nil_prefix
    · rename_i middle conn located
      have same := locate_sameWork located
      have streams := locate_streams located
      have serves := locate_serves owned fresh carried located
      split
      · have madeMiddle : Opened opened middle :=
          fun conn stream has => made conn stream ((streams conn).symm.trans has)
        rcases startWrite_fits beast task madeMiddle serves with ⟨phase, started, fits⟩
        rw [started]
        have moves : Moved world (middle.setPhase task phase) task part .spawned phase := by
          refine ⟨found, ?_⟩
          rw [← same.tasks]
          rfl
        exact .without moves same.streams streams fits
      · refine .makes conn ⟨found, ?_⟩ ?_ (fun other stream => getStream_startInit streams
          (congrArg List.length same.streams)) serves
        · rw [← same.tasks]
          rfl
        · rw [← same.streams]
          rfl

theorem Tracked.begin (tracked : Tracked beast traced) {task : Nat} {part : Part}
    {generated : Uuid} (fresh : traced.world.Fresh generated)
    (found : traced.world.tasks[task]? = some ⟨part, .spawned⟩) :
    Tracked beast
      ⟨traced.world.startRequest beast task part generated,
        traced.opened ++ Traced.opens traced.world
          (traced.world.startRequest beast task part generated) (.begin task generated),
        traced.puts ++ [], traced.reads ++ []⟩ := by
  have keeps := startRequest_keeps beast tracked.owned task part fresh
  have unwritten : traced.byTask task = [] := tracked.fits found
  have started := startRequest_started beast tracked.owned tracked.made fresh found
  generalize traced.world.startRequest beast task part generated = next at keeps started
  rw [Traced.opens]
  cases started with
  | @without after moves streams conns fits =>
      rw [streams, if_neg (Nat.lt_irrefl _)]
      exact tracked.quiet moves keeps conns (congrArg List.length streams) (unwritten ▸ fits)
        (streams ▸ tracked.written)
  | makes conn moves streams conns serves =>
      have length : next.streams.length = traced.world.streams.length + 1 := by
        rw [streams, List.length_append, List.length_singleton]
      have more : traced.world.streams.length < next.streams.length := by
        rw [length]
        exact Nat.lt_succ_self _
      rw [if_pos more, moves.here]
      refine tracked.moved moves keeps ?_ ?_ ⟨?_, serves⟩ nofun nofun ?_
      · rw [length, List.length_append, tracked.length]
        rfl
      · intro other stream has
        rcases conns other stream has with old | ⟨rfl, rfl⟩
        · exact getElem?_append_of_some (tracked.made other stream old)
        · rw [← tracked.length]
          exact List.getElem?_concat_length
      · rw [unwritten]
        rfl
      · intro stream found present
        rw [List.filter_nil, List.flatMap_nil, List.append_nil]
        rw [streams] at present
        rcases getElem?_append_cases present with old | ⟨beyond, new⟩
        · exact tracked.written stream found old
        · rw [tracked.onStream_absent beyond, List.mem_singleton.mp new]

/-- From the resolver, or from the connect, to the next wait. -/
theorem Tracked.writeStarted (tracked : Tracked beast traced) {middle : Downstream} {task : Nat}
    {part : Part} {before : Phase} {conn : Nat}
    (found : traced.world.tasks[task]? = some ⟨part, before⟩)
    (unwritten : traced.byTask task = []) (serves : traced.world.Serves part conn)
    (tasks : middle.tasks = traced.world.tasks) (keeps : Keeps traced.world middle)
    (conns : SameStreams traced.world.conns middle.conns)
    (length : middle.streams.length = traced.world.streams.length)
    (written : forall (stream : Nat) (found : TcpStream), middle.streams[stream]? = some found ->
      found.written = traced.onStream stream) :
    Tracked beast ⟨middle.startWrite beast task part conn, traced.opened ++ [],
      traced.puts ++ [], traced.reads ++ []⟩ := by
  have made : Opened traced.opened middle :=
    fun other stream has => tracked.made other stream ((conns other).symm.trans has)
  rcases startWrite_fits beast task made (serves.grows keeps.2) with ⟨phase, started, fits⟩
  have moves : Moved traced.world (middle.setPhase task phase) task part before phase :=
    ⟨found, tasks ▸ rfl⟩
  rw [started]
  refine tracked.quiet moves (keeps.trans fun owned => Keeps.of_same owned rfl rfl) conns length
    ?_ written
  rw [unwritten]
  exact fits

theorem Tracked.resolved (tracked : Tracked beast traced) {task : Nat} {part : Part} {conn : Nat}
    (success : Bool) (found : traced.world.tasks[task]? = some ⟨part, .resolving conn⟩) :
    Tracked beast ⟨traced.world.onResolved beast task part conn success, traced.opened ++ [],
      traced.puts ++ [], traced.reads ++ []⟩ := by
  rcases tracked.fits found with ⟨unwritten, serves⟩
  have same : Keeps traced.world traced.world := Keeps.of_same tracked.owned rfl rfl
  rw [onResolved]
  split
  · split
    · exact tracked.quiet ⟨found, rfl⟩ (Keeps.of_same tracked.owned rfl rfl)
        (SameStreams.refl _) rfl (unwritten ▸ List.nil_prefix) tracked.written
    · rename_i stream has
      have moves : Moved traced.world (traced.world.setPhase task (.connecting conn stream)) task
          part (.resolving conn) (.connecting conn stream) := ⟨found, rfl⟩
      exact tracked.quiet moves (Keeps.of_same tracked.owned rfl rfl) (SameStreams.refl _) rfl
        ⟨unwritten, serves, tracked.made conn stream has⟩ tracked.written
  · exact tracked.writeStarted found unwritten serves rfl same (SameStreams.refl _) rfl
      tracked.written

theorem Tracked.connected (tracked : Tracked beast traced) {task : Nat} {part : Part}
    {conn stream : Nat} (success : Bool)
    (found : traced.world.tasks[task]? = some ⟨part, .connecting conn stream⟩) :
    Tracked beast ⟨traced.world.onConnected beast task part conn stream success,
      traced.opened ++ [], traced.puts ++ [], traced.reads ++ []⟩ := by
  rcases tracked.fits found with ⟨unwritten, serves, _⟩
  rw [onConnected]
  split
  · refine tracked.writeStarted found unwritten serves rfl ?_ ?_ ?_ ?_
    · have connects : Keeps traced.world
          (traced.world.modifyStream stream fun found => { found with connected := true }) :=
        Keeps.of_same tracked.owned rfl rfl
      exact connects.trans fun owned => Keeps.modifyConn owned conn fun _ => rfl
    · exact bind_getElem?_modify (by exact fun _ => rfl) _ _
    · exact List.length_modify _ _ _
    · intro other after present
      have changed : (traced.world.streams.modify stream
          fun found => { found with connected := true })[other]? = some after := present
      by_cases here : stream = other
      · subst here
        rw [List.getElem?_modify_eq] at changed
        rcases Option.map_eq_some_iff.mp changed with ⟨before, old, rfl⟩
        exact tracked.written stream before old
      · rw [List.getElem?_modify_ne _ _ here] at changed
        exact tracked.written other after changed
  · exact tracked.writeStarted found unwritten serves rfl
      (Keeps.of_same tracked.owned rfl rfl) (SameStreams.refl _) rfl tracked.written

/-- A piece of `async_write`. -/
theorem Tracked.writes (tracked : Tracked beast traced) {task : Nat} {part : Part}
    {conn stream count done : Nat} {octets : Octets}
    (found : traced.world.tasks[task]? = some ⟨part, .writing conn stream octets done⟩) :
    Tracked beast
      ⟨(traced.world.putOctets stream ((octets.drop done).take count)).setPhase task
          (.writing conn stream octets (done + count)), traced.opened ++ [],
        traced.puts ++ [⟨task, stream, (octets.drop done).take count⟩], traced.reads ++ []⟩ := by
  rcases tracked.fits found with ⟨put, whole, serves, opened⟩
  have moves : Moved traced.world
      ((traced.world.putOctets stream ((octets.drop done).take count)).setPhase task
        (.writing conn stream octets (done + count))) task part
      (.writing conn stream octets done) (.writing conn stream octets (done + count)) :=
    ⟨found, rfl⟩
  refine tracked.moved moves (Keeps.of_same tracked.owned rfl rfl) ?_
    (tracked.made.keeps (SameStreams.refl _))
    ⟨?_, whole, serves, getElem?_append_of_some opened⟩ ?_ nofun ?_
  · rw [List.append_nil, tracked.length]
    exact (List.length_modify _ _ _).symm
  · rw [put, List.flatMap_singleton, List.take_add]
  · intro piece member
    rw [List.mem_singleton.mp member]
    exact ⟨rfl, conn, opened, serves⟩
  · exact written_putOctets tracked task stream ((octets.drop done).take count)

/-- The completion of `async_write`. -/
theorem Tracked.writeEnded (tracked : Tracked beast traced) {task : Nat} {part : Part}
    {before : Phase} (found : traced.world.tasks[task]? = some ⟨part, before⟩) :
    Tracked beast ⟨traced.world.afterWrite task part, traced.opened ++ [], traced.puts ++ [],
      traced.reads ++
        Traced.readStream traced.world (traced.world.afterWrite task part) task⟩ := by
  rcases afterWrite_moves found rfl with ⟨after, moves, same, late⟩
  have began := tracked.began (traced.world.afterWrite task part) found
  rw [same] at moves began ⊢
  exact tracked.silent moves (Keeps.of_same tracked.owned rfl rfl) (SameStreams.refl _) rfl
    (fits_of_late late (tracked.fits found).within) began tracked.written

/-- The completion of `async_write_some`. -/
theorem Tracked.writtenSome (tracked : Tracked beast traced) {task : Nat} {part : Part}
    {conn stream count : Nat} {octets : Octets}
    (found : traced.world.tasks[task]? = some ⟨part, .writingSome conn stream octets⟩) :
    Tracked beast
      ⟨(traced.world.putOctets stream (octets.take count)).afterWrite task part,
        traced.opened ++ [], traced.puts ++ [⟨task, stream, octets.take count⟩],
        traced.reads ++ Traced.readStream traced.world
          ((traced.world.putOctets stream (octets.take count)).afterWrite task part) task⟩ := by
  rcases tracked.fits found with ⟨unwritten, whole, serves, opened⟩
  have tasks : (traced.world.putOctets stream (octets.take count)).tasks = traced.world.tasks := rfl
  rcases afterWrite_moves found tasks with ⟨after, moves, same, late⟩
  have began := tracked.began
    ((traced.world.putOctets stream (octets.take count)).afterWrite task part) found
  rw [same] at moves began ⊢
  refine tracked.moved moves (Keeps.of_same tracked.owned rfl rfl) ?_
    (tracked.made.keeps (SameStreams.refl _)) (fits_of_late late ?_) ?_ began ?_
  · rw [List.append_nil, tracked.length]
    exact (List.length_modify _ _ _).symm
  · rw [unwritten, List.nil_append, List.flatMap_singleton, ← whole]
    exact List.take_prefix count octets
  · intro piece member
    rw [List.mem_singleton.mp member]
    exact ⟨rfl, conn, opened, serves⟩
  · exact written_putOctets tracked task stream (octets.take count)

/-- A coroutine ends. -/
theorem Tracked.ends (tracked : Tracked beast traced) {task : Nat} {part : Part} {before : Phase}
    {ending : Ending} (found : traced.world.tasks[task]? = some ⟨part, before⟩)
    (tasks : next.tasks = (traced.world.setPhase task (.ended ending)).tasks)
    (sessions : next.sessions = traced.world.sessions) (conns : next.conns = traced.world.conns)
    (streams : next.streams = traced.world.streams) :
    Tracked beast ⟨next, traced.opened ++ [], traced.puts ++ [], traced.reads ++ []⟩ := by
  have moves : Moved traced.world next task part before (.ended ending) := ⟨found, tasks⟩
  exact tracked.quiet moves (Keeps.of_same tracked.owned sessions conns)
    (conns ▸ SameStreams.refl _) (congrArg List.length streams) (tracked.fits found).within
    (streams ▸ tracked.written)

theorem Tracked.step {label : DownstreamLabel} {after : Traced} (tracked : Tracked beast traced)
    (fresh : traced.world.FreshIds label) (taken : traced.step beast label = some after) :
    Tracked beast after := by
  rcases Option.map_eq_some_iff.mp taken with ⟨next, stepped, rfl⟩
  have keeps := step_keeps beast tracked.owned fresh stepped
  cases stepped_of_step beast stepped with
  | spawn part => exact tracked.idle [part] keeps rfl (SameStreams.refl _) rfl
  | getSession got =>
      have same := getSession_sameWork got
      refine tracked.idle [] keeps same.streams ?_ ?_
      · rw [getSession_conns got]
        exact SameStreams.refl _
      · rw [same.tasks]
        exact (List.append_nil _).symm
  | noSession => exact tracked.idle [] keeps rfl (SameStreams.refl _) (List.append_nil _).symm
  | getConnection given =>
      have same := getConnection_sameWork given
      refine tracked.idle [] keeps same.streams (getConnection_streams given) ?_
      rw [same.tasks]
      exact (List.append_nil _).symm
  | noConnection => exact tracked.idle [] keeps rfl (SameStreams.refl _) (List.append_nil _).symm
  | begin generated found => exact tracked.begin fresh found
  | resolved success found => exact tracked.resolved success found
  | connected success found => exact tracked.connected success found
  | @writes task part conn stream count done octets found =>
      have piece : Traced.putBy traced.world (.writes task count) =
          [⟨task, stream, (octets.drop done).take count⟩] := by
        rw [Traced.putBy, found]
      rw [piece]
      exact tracked.writes found
  | written found => exact tracked.writeEnded found
  | @writtenSome task part conn stream count octets found =>
      have piece : Traced.putBy traced.world (.writtenSome task count) =
          [⟨task, stream, octets.take count⟩] := by
        rw [Traced.putBy, found]
      rw [piece]
      exact tracked.writtenSome found
  | writeFailed found => exact tracked.ends found rfl rfl rfl rfl
  | writeSomeFailed found => exact tracked.ends found rfl rfl rfl rfl
  | answered response found => exact tracked.ends found rfl rfl rfl rfl
  | readFailed found => exact tracked.ends found rfl rfl rfl rfl

end Steps

/-! ## Runs -/

theorem tracked_create (beast : Beast) (backends : Nat) :
    Tracked beast (Traced.create backends) where
  owned := owned_create backends
  length := rfl
  made := by
    intro conn stream has
    cases has
  tasks := by
    intro position task present
    cases present
  puts := nofun
  reads := nofun
  written := by
    intro stream found present
    cases present

theorem tracked_reachable {beast : Beast} {traced : Traced}
    (reachable : (Traced.system beast).Reachable traced) : Tracked beast traced := by
  refine reachable.invariant ?_ ?_
  · rintro first ⟨backends, rfl⟩
    exact tracked_create beast backends
  · rintro first label next tracked ⟨fresh, taken⟩
    exact tracked.step fresh taken

/-- The session that a coroutine's request names owns the stream it uses. -/
theorem Uses.hasConn {traced : Traced} {task stream : Nat} {session : Uuid}
    (uses : traced.world.Uses traced.opened task stream)
    (names : traced.sessionOf task = some session) :
    Exists fun conn => traced.opened[stream]? = some conn ∧
      traced.world.HasConn session conn := by
  rcases uses with ⟨found, present, conn, opened, serves⟩
  rw [Traced.sessionOf, present] at names
  rcases Option.filter_eq_some_iff.mp names with ⟨has, nonNil⟩
  rcases Option.map_eq_some_iff.mp has with ⟨request, carried, rfl⟩
  exact ⟨conn, opened, serves request carried (of_decide_eq_true nonNil)⟩

theorem Tracked.same_session {beast : Beast} {traced : Traced} (tracked : Tracked beast traced)
    {one other stream : Nat} {first second : Uuid}
    (usesOne : traced.world.Uses traced.opened one stream)
    (usesOther : traced.world.Uses traced.opened other stream)
    (names : traced.sessionOf one = some first)
    (namesOther : traced.sessionOf other = some second) : first = second := by
  rcases usesOne.hasConn names with ⟨conn, opened, has⟩
  rcases usesOther.hasConn namesOther with ⟨connOther, openedOther, hasOther⟩
  cases opened.symm.trans openedOther
  exact assignedTo_unique tracked.owned (Or.inr has) (Or.inr hasOther)

/-- In every run a stream carries the pieces that were put on it and nothing else,
a coroutine puts a first part of the octets of its own part, and neither the
coroutines that write to one stream nor those that read a response from it work for
different sessions. -/
theorem streams_isolated (beast : Beast) (traced : Traced)
    (reachable : (Traced.system beast).Reachable traced) :
    (forall (stream : Nat) (found : TcpStream), traced.world.streams[stream]? = some found ->
        found.written = traced.onStream stream) ∧
      (forall (position : Nat) (task : Task), traced.world.tasks[position]? = some task ->
        traced.byTask position <+: payload beast task.part) ∧
      (forall one other, one ∈ traced.puts -> other ∈ traced.puts ->
        one.stream = other.stream -> forall first second,
          traced.sessionOf one.task = some first -> traced.sessionOf other.task = some second ->
            first = second) ∧
      (forall put reader stream, put ∈ traced.puts -> (reader, stream) ∈ traced.reads ->
        put.stream = stream -> forall first second,
          traced.sessionOf put.task = some first -> traced.sessionOf reader = some second ->
            first = second) := by
  have tracked := tracked_reachable reachable
  refine ⟨tracked.written, fun position task found => (tracked.tasks position task found).within,
    ?_, ?_⟩
  · intro one other oneMember otherMember same first second names namesOther
    have uses := tracked.puts one oneMember
    rw [same] at uses
    exact tracked.same_session uses (tracked.puts other otherMember) names namesOther
  · intro put reader stream putMember readMember same first second names namesReader
    have uses := tracked.puts put putMember
    rw [same] at uses
    exact tracked.same_session uses (tracked.reads reader stream readMember) names namesReader

/-! ## Two sessions at once -/

/-- The requests of two sessions, with the pieces of their writes interleaved. -/
def twoLabels : List DownstreamLabel :=
  [.spawn (partOf 7#128), .spawn (partOf 8#128), .begin 0 9#128, .begin 1 10#128,
    .resolved 1 true, .resolved 0 true, .connected 0 true, .connected 1 true, .writes 1 2,
    .writes 0 4, .writes 1 3, .written 1, .writes 0 1, .written 0]

def twoChecked (traced : Traced) : Bool :=
  traced.puts.length = 4 ∧ traced.reads = [(1, 1), (0, 0)] ∧
    traced.sessionOf 0 = some 7#128 ∧ traced.sessionOf 1 = some 8#128

theorem twoLabels_checked :
    (Transition.System.execute (Transition.System.guarded
      (fun traced : Traced => traced.world.FreshIds) (Traced.step (scriptedBeast getScript)))
      (Traced.create 1) twoLabels).map twoChecked = some true := by
  decide

theorem twoLabels_taken :
    (Transition.System.execute (Transition.System.guarded
      (fun traced : Traced => traced.world.FreshIds) (Traced.step (scriptedBeast getScript)))
      (Traced.create 1) twoLabels).isSome = true :=
  Transition.System.taken_of_checked twoLabels_checked

/-- The state after it. -/
def twoProxied : Traced :=
  (Transition.System.execute (Transition.System.guarded
    (fun traced : Traced => traced.world.FreshIds) (Traced.step (scriptedBeast getScript)))
    (Traced.create 1) twoLabels).get twoLabels_taken

theorem twoProxied_checked : twoChecked twoProxied = true :=
  Transition.System.checked_get twoLabels_checked twoLabels_taken

theorem streams_isolated_two :
    twoChecked twoProxied = true ∧
      (forall (stream : Nat) (found : TcpStream),
        twoProxied.world.streams[stream]? = some found ->
          found.written = twoProxied.onStream stream) ∧
      (forall (position : Nat) (task : Task), twoProxied.world.tasks[position]? = some task ->
        twoProxied.byTask position <+: payload (scriptedBeast getScript) task.part) ∧
      (forall one other, one ∈ twoProxied.puts -> other ∈ twoProxied.puts ->
        one.stream = other.stream -> forall first second,
          twoProxied.sessionOf one.task = some first ->
            twoProxied.sessionOf other.task = some second -> first = second) ∧
      (forall put reader stream, put ∈ twoProxied.puts -> (reader, stream) ∈ twoProxied.reads ->
        put.stream = stream -> forall first second,
          twoProxied.sessionOf put.task = some first ->
            twoProxied.sessionOf reader = some second -> first = second) :=
  ⟨twoProxied_checked, streams_isolated (scriptedBeast getScript) twoProxied
    (.of_execute_guarded ⟨1, rfl⟩ twoLabels_taken)⟩

end Downstream

end EasyProspect
