import EasyProspect.ProxyRun

namespace EasyProspect

/-!
# The order of the octets on the backend stream

The parts of a request are handled by coroutines of their own, and nothing makes a
coroutine wait for the part before it: the position of a part is only carried
along.  So the octets arrive in order only in runs in which the scheduler happens
to respect it.  This module says which steps have to be avoided, and proves that
in every run without them the stream of the request carries the parts one after
the other.

A step disturbs the order when a part begins to be written before every part
ahead of it has been written, when a connection is initialised again after
octets have been put on its stream, and when `async_write_some` takes a piece
only.
-/

open HttpSession

namespace Downstream

/-- The octets that a part stands for. -/
def payload (beast : Beast) (part : Part) : Octets :=
  match part.firstReq with
  | some firstReq =>
      match firstReq.forward beast with
      | .ok beReq => beast.serialize beReq
      | .error _ => []
  | none =>
      match part.reqContinuation with
      | some reqContinuation => reqContinuation.buffer
      | none => []

def payloads (beast : Beast) (world : Downstream) : List Octets :=
  world.tasks.map fun task => payload beast task.part

/-- The connection of a session. -/
def connOf (world : Downstream) (session : Uuid) : Option Nat :=
  (world.sessions session).bind DownstreamSession.conn

/-- The stream that the connection of a session has at present. -/
def currentStream (world : Downstream) (session : Uuid) : Option Nat :=
  (world.connOf session).bind world.getStream

def writtenOn (world : Downstream) (stream : Nat) : Option Octets :=
  world.streams[stream]?.map TcpStream.written

/-- The octets on the present stream. -/
def wire (world : Downstream) (session : Uuid) : Octets :=
  ((world.currentStream session).bind world.writtenOn).getD []

/-- The part has been written without an error. -/
def Delivered : Phase -> Prop
  | .reading => True
  | .ended .sent => True
  | .ended .readFailed => True
  | .ended .answered => True
  | _ => False

/-- The stream of the request carries a first part of its octets and no other
stream carries any, and when all parts are delivered it carries them all. -/
def OctetsInOrder (beast : Beast) (session : Uuid) (world : Downstream) : Prop :=
  world.wire session <+: (payloads beast world).flatten ∧
    (forall (stream : Nat) (found : TcpStream), world.streams[stream]? = some found ->
      world.currentStream session ≠ some stream -> found.written = []) ∧
    ((forall task, task ∈ world.tasks -> Delivered task.phase) ->
      world.wire session = (payloads beast world).flatten)

/-! ## The steps that keep the order -/

/-- Every part ahead has been delivered. -/
def Earlier (world : Downstream) (task : Nat) : Prop :=
  forall other, other < task -> Exists fun found => world.tasks[other]? = some found ∧
    Delivered found.phase

/-- A write is outstanding. -/
def Writing : Phase -> Prop
  | .writing _ _ _ _ => True
  | .writingSome _ _ _ => True
  | _ => False

/-- Nothing has been put on a stream and no write has been started. -/
def Untouched (world : Downstream) : Prop :=
  (forall found, found ∈ world.streams -> found.written = []) ∧
    forall task, task ∈ world.tasks -> ¬Writing task.phase

/-- The coroutine will find its connection initialised. -/
def FindsInitialized (world : Downstream) (task : Nat) : Prop :=
  Exists fun found => world.tasks[task]? = some found ∧
    Exists fun request => currReq found.part = some request ∧
      Exists fun conn => world.connOf request.sessionId = some conn ∧
        world.isInitialized conn = true

/-- The buffer of an outstanding `async_write_some`. -/
def someBuffer : Phase -> Option Octets
  | .writingSome _ _ octets => some octets
  | _ => none

/-- The steps of the coroutines that do not disturb the order. -/
def KeepsOrder (world : Downstream) : DownstreamLabel -> Prop
  | .spawn _ => False
  | .getSession called _ generated => called = nilUuid -> world.sessions generated = none
  | .begin task _ =>
      world.FindsInitialized task ∧ world.Earlier task ∨
        ¬world.FindsInitialized task ∧ world.Untouched
  | .resolved task success => success = true ∨ world.Earlier task
  | .connected task _ => world.Earlier task
  | .writtenSome task count =>
      forall octets, octets ∈ world.tasks[task]?.bind (fun found => someBuffer found.phase) ->
        count = octets.length
  | _ => True

section Decisions

variable (world : Downstream) (task : Nat)

instance (phase : Phase) : Decidable (Delivered phase) :=
  match phase with
  | .reading => isTrue trivial
  | .ended .sent => isTrue trivial
  | .ended .readFailed => isTrue trivial
  | .ended .answered => isTrue trivial
  | .spawned => isFalse False.elim
  | .resolving _ => isFalse False.elim
  | .connecting _ _ => isFalse False.elim
  | .writing _ _ _ _ => isFalse False.elim
  | .writingSome _ _ _ => isFalse False.elim
  | .ended .writeFailed => isFalse False.elim
  | .ended (.threw _) => isFalse False.elim
  | .ended .undefined => isFalse False.elim

instance (phase : Phase) : Decidable (Writing phase) :=
  match phase with
  | .writing _ _ _ _ => isTrue trivial
  | .writingSome _ _ _ => isTrue trivial
  | .spawned => isFalse False.elim
  | .resolving _ => isFalse False.elim
  | .connecting _ _ => isFalse False.elim
  | .reading => isFalse False.elim
  | .ended _ => isFalse False.elim

instance : Decidable (world.Earlier task) :=
  inferInstanceAs (Decidable (forall other, other < task ->
    Exists fun found => found ∈ world.tasks[other]? ∧ Delivered found.phase))

instance : Decidable world.Untouched :=
  inferInstanceAs (Decidable ((forall found, found ∈ world.streams -> found.written = []) ∧
    forall task, task ∈ world.tasks -> ¬Writing task.phase))

instance : Decidable (world.FindsInitialized task) :=
  inferInstanceAs (Decidable (Exists fun found => found ∈ world.tasks[task]? ∧
    Exists fun request => request ∈ currReq found.part ∧
      Exists fun conn => conn ∈ world.connOf request.sessionId ∧
        world.isInitialized conn = true))

instance (label : DownstreamLabel) : Decidable (world.KeepsOrder label) :=
  match label with
  | .spawn _ => isFalse False.elim
  | .getSession called _ generated =>
      inferInstanceAs (Decidable (called = nilUuid -> world.sessions generated = none))
  | .begin task _ =>
      inferInstanceAs (Decidable (world.FindsInitialized task ∧ world.Earlier task ∨
        ¬world.FindsInitialized task ∧ world.Untouched))
  | .resolved task success => inferInstanceAs (Decidable (success = true ∨ world.Earlier task))
  | .connected task _ => inferInstanceAs (Decidable (world.Earlier task))
  | .writtenSome task count =>
      inferInstanceAs (Decidable (forall octets,
        octets ∈ world.tasks[task]?.bind (fun found => someBuffer found.phase) ->
          count = octets.length))
  | .getConnection _ _ => isTrue trivial
  | .writes _ _ => isTrue trivial
  | .written _ => isTrue trivial
  | .writeFailed _ => isTrue trivial
  | .answered _ _ => isTrue trivial
  | .readFailed _ => isTrue trivial

end Decisions

/-! ## The invariant -/

/-- The connection that a coroutine works on. -/
def phaseConn : Phase -> Option Nat
  | .resolving conn => some conn
  | .connecting conn _ => some conn
  | .writing conn _ _ _ => some conn
  | .writingSome conn _ _ => some conn
  | _ => none

/-- What the next part to be delivered has put on the current stream. -/
def Progress (beast : Beast) (current : Option Nat) (part : Part) (progress : Octets) :
    Phase -> Prop
  | .spawned => progress = []
  | .resolving _ => progress = []
  | .connecting _ _ => progress = []
  | .writing _ stream octets count =>
      current = some stream ∧ octets = payload beast part ∧ progress = octets.take count
  | .writingSome _ stream octets =>
      current = some stream ∧ octets = payload beast part ∧ progress = []
  | .reading => progress <+: payload beast part
  | .ended _ => progress <+: payload beast part

/-- The first `delivered` parts are on the stream of the session, followed by
`progress`, and only the next part may be in a write. -/
structure Sequenced (beast : Beast) (session : Uuid) (world : Downstream) (delivered : Nat)
    (progress : Octets) : Prop where
  pools : forall pool, pool ∈ world.connections -> pool = []
  keyed : forall found, world.sessions session = some found -> found.id = session
  requests : forall part, part ∈ world.tasks.map Task.part ->
    Exists fun request => currReq part = some request ∧ request.sessionId = session
  located : forall (position : Nat) (task : Task) (conn : Nat),
    world.tasks[position]? = some task -> phaseConn task.phase = some conn ->
      world.connOf session = some conn
  count : forall (position : Nat) (task : Task), world.tasks[position]? = some task ->
    (Delivered task.phase <-> position < delivered)
  bound : delivered ≤ world.tasks.length
  elsewhere : forall (stream : Nat) (found : TcpStream), world.streams[stream]? = some found ->
    world.currentStream session ≠ some stream -> found.written = []
  wire : world.wire session = ((payloads beast world).take delivered).flatten ++ progress
  begun : forall task, world.tasks[delivered]? = some task ->
    Progress beast (world.currentStream session) task.part progress task.phase
  unbegun : world.tasks.length ≤ delivered -> progress = []
  alone : forall (position : Nat) (task : Task), world.tasks[position]? = some task ->
    Writing task.phase -> position = delivered

theorem Progress.within {beast : Beast} {current : Option Nat} {part : Part} {progress : Octets}
    {phase : Phase} (progressed : Progress beast current part progress phase) :
    progress <+: payload beast part := by
  cases phase with
  | spawned => exact progressed ▸ List.nil_prefix
  | resolving conn => exact progressed ▸ List.nil_prefix
  | connecting conn stream => exact progressed ▸ List.nil_prefix
  | writing conn stream octets count =>
      rw [progressed.2.2, ← progressed.2.1]
      exact List.take_prefix count octets
  | writingSome conn stream octets => exact progressed.2.2 ▸ List.nil_prefix
  | reading => exact progressed
  | ended ending => exact progressed

variable {beast : Beast} {session : Uuid} {world : Downstream} {delivered : Nat}
variable {progress : Octets}

theorem payloads_getElem? {position : Nat} {task : Task}
    (found : world.tasks[position]? = some task) :
    (payloads beast world)[position]? = some (payload beast task.part) := by
  rw [payloads, List.getElem?_map, found]
  rfl

theorem Sequenced.inOrder (sequenced : Sequenced beast session world delivered progress) :
    OctetsInOrder beast session world := by
  have length : (payloads beast world).length = world.tasks.length := List.length_map _
  refine ⟨?_, sequenced.elsewhere, ?_⟩
  · rw [sequenced.wire]
    have split := congrArg List.flatten (List.take_append_drop delivered (payloads beast world))
    rw [List.flatten_append] at split
    rw [← split]
    apply (List.prefix_append_right_inj _).mpr
    by_cases more : delivered < world.tasks.length
    · have found : world.tasks[delivered]? = some world.tasks[delivered] :=
        List.getElem?_eq_getElem more
      have here : (payloads beast world)[delivered]? =
          some (payload beast world.tasks[delivered].part) := payloads_getElem? found
      have next := (sequenced.begun _ found).within
      rcases List.getElem?_eq_some_iff.mp here with ⟨within, value⟩
      rw [List.drop_eq_getElem_cons within, value, List.flatten_cons]
      exact next.trans (List.prefix_append _ _)
    · rw [sequenced.unbegun (Nat.le_of_not_lt more)]
      exact List.nil_prefix
  · intro all
    have complete : world.tasks.length ≤ delivered := by
      by_contra more
      have found : world.tasks[delivered]? = some world.tasks[delivered] :=
        List.getElem?_eq_getElem (Nat.lt_of_not_le more)
      have before := (sequenced.count _ _ found).mp (all _ (List.mem_of_getElem? found))
      exact Nat.lt_irrefl delivered before
    rw [sequenced.wire, sequenced.unbegun complete, List.append_nil,
      List.take_of_length_le (length ▸ complete)]

/-! ## One coroutine moves -/

section Moves

variable {next : Downstream} {task : Nat} {part : Part} {before after : Phase}

theorem Moved.payloads (moved : Moved world next task part before after) :
    payloads beast next = payloads beast world := by
  have same := congrArg (List.map (payload beast)) moved.parts
  rwa [List.map_map, List.map_map] at same

theorem Moved.length (moved : Moved world next task part before after) :
    next.tasks.length = world.tasks.length := by
  rw [moved.tasks, List.length_modify]

/-- What a step that moves one coroutine leaves of the rest. -/
structure Leaves (session : Uuid) (world next : Downstream) : Prop where
  connections : next.connections = world.connections
  keyed : forall found, next.sessions session = some found -> found.id = session
  conns : forall conn, world.connOf session = some conn -> next.connOf session = some conn
  elsewhere : forall (stream : Nat) (found : TcpStream), next.streams[stream]? = some found ->
    next.currentStream session ≠ some stream -> found.written = []
  current : next.currentStream session = world.currentStream session ∨
    forall task, task ∈ world.tasks -> ¬Writing task.phase

/-- Only the coroutines differ. -/
theorem Sequenced.leaves (sequenced : Sequenced beast session world delivered progress)
    (connections : next.connections = world.connections)
    (sessions : next.sessions = world.sessions) (conns : next.conns = world.conns)
    (streams : next.streams = world.streams) : Leaves session world next := by
  have connOf : next.connOf session = world.connOf session := by
    rw [Downstream.connOf, sessions]
    rfl
  have current : next.currentStream session = world.currentStream session := by
    rw [currentStream, connOf, currentStream]
    unfold getStream
    rw [conns]
  refine ⟨connections, sessions ▸ sequenced.keyed, fun conn has => connOf ▸ has, ?_, Or.inl current⟩
  rw [streams, current]
  exact sequenced.elsewhere

/-- A coroutine moves on without delivering its part. -/
theorem Sequenced.moved {more : Octets}
    (sequenced : Sequenced beast session world delivered progress)
    (moved : Moved world next task part before after) (leaves : Leaves session world next)
    (delivers : Delivered after <-> Delivered before)
    (wire : next.wire session = ((payloads beast world).take delivered).flatten ++ more)
    (others : task ≠ delivered -> more = progress)
    (located : forall conn, phaseConn after = some conn -> next.connOf session = some conn)
    (alone : Writing after -> task = delivered)
    (begun : task = delivered -> Progress beast (next.currentStream session) part more after) :
    Sequenced beast session next delivered more where
  pools := leaves.connections ▸ sequenced.pools
  keyed := leaves.keyed
  requests := moved.parts ▸ sequenced.requests
  located := by
    intro position found conn present has
    rcases moved.found_cases present with ⟨rfl, rfl⟩ | ⟨_, old⟩
    · exact located conn has
    · exact leaves.conns conn (sequenced.located position found conn old has)
  count := by
    intro position found present
    rcases moved.found_cases present with ⟨rfl, rfl⟩ | ⟨_, old⟩
    · exact delivers.trans (sequenced.count position _ moved.found)
    · exact sequenced.count position found old
  bound := moved.length ▸ sequenced.bound
  elsewhere := leaves.elsewhere
  wire := moved.payloads ▸ wire
  begun := by
    intro found present
    rcases moved.found_cases present with ⟨same, rfl⟩ | ⟨same, old⟩
    · exact begun same.symm
    · have progressed := sequenced.begun found old
      rw [others (Ne.symm same)]
      rcases leaves.current with current | quiet
      · rw [current]
        exact progressed
      · have notWriting := quiet found (List.mem_of_getElem? old)
        cases phase : found.phase with
        | writing conn stream octets count => exact absurd (phase ▸ trivial) notWriting
        | writingSome conn stream octets => exact absurd (phase ▸ trivial) notWriting
        | _ =>
            rw [phase] at progressed
            exact progressed
  unbegun := by
    intro complete
    rw [moved.length] at complete
    have within := (List.getElem?_eq_some_iff.mp moved.found).1
    rw [others (by omega)]
    exact sequenced.unbegun complete
  alone := by
    intro position found present writing
    rcases moved.found_cases present with ⟨rfl, rfl⟩ | ⟨_, old⟩
    · exact alone writing
    · exact sequenced.alone position found old writing

/-- The next part is delivered. -/
theorem Sequenced.deliver (sequenced : Sequenced beast session world delivered progress)
    (moved : Moved world next delivered part before after) (leaves : Leaves session world next)
    (delivers : Delivered after) (quiet : ¬Writing after) (elsewhere : phaseConn after = none)
    (wire : next.wire session =
      ((payloads beast world).take delivered).flatten ++ payload beast part) :
    Sequenced beast session next (delivered + 1) [] where
  pools := leaves.connections ▸ sequenced.pools
  keyed := leaves.keyed
  requests := moved.parts ▸ sequenced.requests
  located := by
    intro position found conn present has
    rcases moved.found_cases present with ⟨_, rfl⟩ | ⟨_, old⟩
    · cases elsewhere.symm.trans has
    · exact leaves.conns conn (sequenced.located position found conn old has)
  count := by
    intro position found present
    rcases moved.found_cases present with ⟨rfl, rfl⟩ | ⟨same, old⟩
    · exact ⟨fun _ => Nat.lt_succ_self _, fun _ => delivers⟩
    · have counted := sequenced.count position found old
      exact counted.trans ⟨fun within => by omega, fun within => by omega⟩
  bound := by
    rw [moved.length]
    exact (List.getElem?_eq_some_iff.mp moved.found).1
  elsewhere := leaves.elsewhere
  wire := by
    have here : (payloads beast world)[delivered]? = some (payload beast part) :=
      payloads_getElem? moved.found
    rcases List.getElem?_eq_some_iff.mp here with ⟨within, value⟩
    rw [moved.payloads, wire, List.append_nil, List.take_succ_eq_append_getElem within, value,
      List.flatten_append, List.flatten_singleton]
  begun := by
    intro found present
    have other : delivered + 1 ≠ delivered := Nat.succ_ne_self delivered
    have old := (moved.elsewhere other).symm.trans present
    have early : ¬Delivered found.phase := by
      rw [sequenced.count _ found old]
      omega
    have notWriting : ¬Writing found.phase :=
      fun writing => other (sequenced.alone _ found old writing)
    cases phase : found.phase with
    | spawned => exact rfl
    | resolving conn => exact rfl
    | connecting conn stream => exact rfl
    | writing conn stream octets count => exact absurd (phase ▸ trivial) notWriting
    | writingSome conn stream octets => exact absurd (phase ▸ trivial) notWriting
    | reading => exact absurd (phase ▸ trivial) early
    | ended ending => exact List.nil_prefix
  unbegun := fun _ => rfl
  alone := by
    intro position found present writing
    rcases moved.found_cases present with ⟨_, rfl⟩ | ⟨same, old⟩
    · exact absurd writing quiet
    · exact absurd (sequenced.alone position found old writing) same

/-- Of the parts that are not delivered only the next one has all parts ahead of it
delivered. -/
theorem Sequenced.next_of_earlier (sequenced : Sequenced beast session world delivered progress)
    {found : Task} (present : world.tasks[task]? = some found)
    (undelivered : ¬Delivered found.phase) (earlier : world.Earlier task) : task = delivered := by
  have atLeast : delivered ≤ task :=
    Nat.le_of_not_lt fun within => undelivered ((sequenced.count task found present).mpr within)
  rcases Nat.lt_or_eq_of_le atLeast with ahead | same
  · rcases earlier delivered ahead with ⟨other, presentOther, deliveredOther⟩
    have before := (sequenced.count delivered other presentOther).mp deliveredOther
    exact absurd before (Nat.lt_irrefl delivered)
  · exact same.symm

end Moves

end Downstream

end EasyProspect
