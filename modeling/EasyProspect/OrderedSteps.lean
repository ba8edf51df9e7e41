import EasyProspect.ByteOrder

namespace EasyProspect

/-!
# Steps that keep the octets in order

One lemma for each thing a coroutine can do, and one for the parts that the
session hands over, all about the invariant `Sequenced`.
-/

open HttpSession

namespace Downstream

variable {beast : Beast} {session : Uuid} {world : Downstream} {delivered : Nat}
variable {progress : Octets}

/-! ## The steps of a coroutine -/

/-- The coroutine has not come to its write. -/
def Idle : Phase -> Prop
  | .spawned => True
  | .resolving _ => True
  | .connecting _ _ => True
  | _ => False

theorem not_delivered_of_idle {phase : Phase} (idle : Idle phase) : ¬Delivered phase := by
  cases phase with
  | reading => exact fun _ => idle
  | ended ending => exact fun _ => idle
  | _ => exact fun delivers => delivers

theorem progress_of_idle {current : Option Nat} {part : Part} {phase : Phase} (idle : Idle phase)
    (progressed : Progress beast current part progress phase) : progress = [] := by
  cases phase with
  | spawned => exact progressed
  | resolving conn => exact progressed
  | connecting conn stream => exact progressed
  | _ => exact False.elim idle

theorem currentStream_of_connOf {conn : Nat} (has : world.connOf session = some conn) :
    world.currentStream session = world.getStream conn := by
  rw [currentStream, has]
  rfl

/-- A change of phase before the write, or at its start. -/
theorem Sequenced.setPhase (sequenced : Sequenced beast session world delivered progress)
    {task : Nat} {part : Part} {before after : Phase}
    (found : world.tasks[task]? = some ⟨part, before⟩) (idle : Idle before)
    (still : ¬Delivered after)
    (located : forall conn, phaseConn after = some conn -> world.connOf session = some conn)
    (alone : Writing after -> task = delivered)
    (begun : task = delivered -> Progress beast (world.currentStream session) part [] after) :
    Sequenced beast session (world.setPhase task after) delivered progress := by
  have empty : task = delivered -> progress = [] := by
    intro same
    subst same
    exact progress_of_idle idle (sequenced.begun _ found)
  refine sequenced.moved ⟨found, rfl⟩ (sequenced.leaves rfl rfl rfl rfl) ?_ sequenced.wire
    (fun _ => rfl) located alone ?_
  · exact ⟨fun delivers => absurd delivers still,
      fun delivers => absurd delivers (not_delivered_of_idle idle)⟩
  · intro same
    rw [empty same]
    exact begun same

theorem Sequenced.carries (sequenced : Sequenced beast session world delivered progress)
    {task : Nat} {found : Task} (present : world.tasks[task]? = some found) :
    Exists fun request => currReq found.part = some request ∧ request.sessionId = session :=
  sequenced.requests found.part (List.mem_map_of_mem (List.mem_of_getElem? present))

/-- The next part begins to be written on the stream of the session. -/
theorem Sequenced.startWrite (sequenced : Sequenced beast session world delivered progress)
    {task conn : Nat} {part : Part} {before : Phase}
    (found : world.tasks[task]? = some ⟨part, before⟩) (idle : Idle before)
    (has : world.connOf session = some conn) (earlier : world.Earlier task) :
    Sequenced beast session (world.startWrite beast task part conn) delivered progress := by
  have now : task = delivered :=
    sequenced.next_of_earlier found (not_delivered_of_idle idle) earlier
  have current := currentStream_of_connOf has
  have fails : forall ending, ¬Delivered (.ended ending) -> Sequenced beast session
      (world.setPhase task (.ended ending)) delivered progress :=
    fun ending still => sequenced.setPhase found idle still nofun (fun writing => writing.elim)
      fun _ => List.nil_prefix
  have same : forall other, some conn = some other -> world.connOf session = some other :=
    fun other equal => has.trans equal
  rw [Downstream.startWrite]
  cases first : part.firstReq with
  | some firstReq =>
      simp only
      cases forwarded : firstReq.forward beast with
      | error exception => exact fails _ (fun delivers => delivers)
      | ok beReq =>
          simp only
          cases got : world.getStream conn with
          | none => exact fails _ (fun delivers => delivers)
          | some stream =>
              refine sequenced.setPhase found idle (fun delivers => delivers) same (fun _ => now) ?_
              intro _
              refine ⟨current.trans got, ?_, rfl⟩
              rw [payload, first]
              simp only [forwarded]
  | none =>
      simp only
      cases continuation : part.reqContinuation with
      | some reqContinuation =>
          simp only
          cases got : world.getStream conn with
          | none => exact fails _ (fun delivers => delivers)
          | some stream =>
              refine sequenced.setPhase found idle (fun delivers => delivers) same (fun _ => now) ?_
              intro _
              refine ⟨current.trans got, ?_, rfl⟩
              rw [payload, first, continuation]
      | none =>
          rcases sequenced.carries found with ⟨request, carried, _⟩
          rw [currReq, first, continuation] at carried
          cases carried

/-- Nothing is on the stream of a session when nothing is on any. -/
theorem wire_of_empty (empty : forall found, found ∈ world.streams -> found.written = []) :
    world.wire session = [] := by
  rw [wire]
  cases world.currentStream session with
  | none => rfl
  | some stream =>
      change (Option.map TcpStream.written world.streams[stream]?).getD [] = []
      cases found : world.streams[stream]? with
      | none => rfl
      | some carried => exact empty carried (List.mem_of_getElem? found)

/-- A connection is initialised while nothing has been written. -/
theorem Sequenced.startInit {middle : Downstream}
    (sequenced : Sequenced beast session world delivered progress) {task conn : Nat} {part : Part}
    (found : world.tasks[task]? = some ⟨part, .spawned⟩) (untouched : world.Untouched)
    (work : SameWork world middle) (connections : middle.connections = world.connections)
    (keyed : forall found, middle.sessions session = some found -> found.id = session)
    (conns : forall conn, world.connOf session = some conn -> middle.connOf session = some conn)
    (has : middle.connOf session = some conn) :
    Sequenced beast session (middle.startInit task conn) delivered progress := by
  have moved : Moved world (middle.startInit task conn) task part .spawned (.resolving conn) :=
    ⟨found, congrArg (List.modify · task _) work.tasks⟩
  have empty : forall found, found ∈ (middle.startInit task conn).streams ->
      found.written = [] := by
    intro found member
    rcases List.mem_append.mp member with old | new
    · rw [work.streams] at old
      exact untouched.1 found old
    · rw [List.mem_singleton.mp new]
  have before := sequenced.wire
  rw [wire_of_empty untouched.1] at before
  have nothing : progress = [] := (List.append_eq_nil_iff.mp before.symm).2
  have leaves : Leaves session world (middle.startInit task conn) :=
    ⟨connections, keyed, conns, fun _ found present _ => empty found (List.mem_of_getElem? present),
      Or.inr untouched.2⟩
  refine sequenced.moved moved leaves Iff.rfl ?_ (fun _ => rfl) ?_ (fun writing => writing.elim)
    (fun _ => nothing)
  · rw [wire_of_empty empty]
    exact before
  · intro other same
    exact has.trans same

/-! ## What `start_request` finds -/

theorem connOf_eq_some {conn : Nat} (has : world.connOf session = some conn) :
    Exists fun found => world.sessions session = some found ∧ found.conn = some conn :=
  Option.bind_eq_some_iff.mp has

theorem locate_of_connOf {request : HttpRequest} {conn : Nat} (generated : Uuid)
    (keyed : forall found, world.sessions session = some found -> found.id = session)
    (same : request.sessionId = session) (has : world.connOf session = some conn) :
    world.locate request generated = .ok (world, conn) := by
  rcases connOf_eq_some has with ⟨found, present, _⟩
  have got : world.getSession request.sessionId false generated = .ok (world, session) := by
    rw [getSession, same, present]
    simp only [keyed found present]
  rw [connOf] at has
  rw [locate, got]
  simp only [has]

/-- A session that is not there yet is made without a connection. -/
theorem getSession_new {generated id : Uuid} {next : Downstream}
    (keyed : forall found, world.sessions session = some found -> found.id = session)
    (named : session ≠ nilUuid) (missing : world.connOf session = none)
    (success : world.getSession session false generated = .ok (next, id)) :
    id = session ∧ next.connections = world.connections ∧
      next.sessions session = some ⟨session, none⟩ := by
  rw [getSession] at success
  cases present : world.sessions session with
  | some found =>
      rw [connOf, present] at missing
      rw [present] at success
      cases success
      refine ⟨keyed found present, rfl, ?_⟩
      rcases found with ⟨id, conn⟩
      have own : id = session := keyed ⟨id, conn⟩ present
      have none : conn = none := missing
      rw [present, own, none]
  | none =>
      rw [present] at success
      simp only [Bool.false_eq_true, if_false, if_neg named] at success
      cases success
      exact ⟨rfl, rfl, Function.update_self _ _ _⟩

/-- From empty pools only a new connection can be had. -/
theorem getConnection_new {backendId : Int} {next : Downstream} {conn : Nat}
    (pools : forall pool, pool ∈ world.connections -> pool = [])
    (success : world.getConnection backendId session = .ok (next, conn)) :
    next.connections = world.connections ∧ next.sessions = world.sessions ∧
      next.isInitialized conn = false := by
  rw [getConnection] at success
  split at success
  · cases success
  · simp only [pool_of_empty pools, findAcquire] at success
    cases success
    refine ⟨rfl, rfl, ?_⟩
    rw [isInitialized, modifyConn, List.getElem?_modify_eq, List.getElem?_concat_length]
    rfl

/-- A session without a connection is given a new one. -/
theorem locate_new {request : HttpRequest} {generated : Uuid} {next : Downstream} {conn : Nat}
    (pools : forall pool, pool ∈ world.connections -> pool = [])
    (keyed : forall found, world.sessions session = some found -> found.id = session)
    (same : request.sessionId = session) (named : session ≠ nilUuid)
    (missing : world.connOf session = none)
    (success : world.locate request generated = .ok (next, conn)) :
    next.connections = world.connections ∧
      (forall found, next.sessions session = some found -> found.id = session) ∧
        next.connOf session = some conn ∧ next.isInitialized conn = false := by
  rw [locate, same] at success
  split at success
  · cases success
  · rename_i middle id got
    rcases getSession_new keyed named missing got with ⟨rfl, connections, present⟩
    rw [present] at success
    simp only [Option.bind_some] at success
    split at success
    · cases success
    · rename_i last added given
      cases success
      rcases getConnection_new (connections ▸ pools) given with ⟨kept, sessions, fresh⟩
      have now : (last.setConnection id conn).sessions id = some ⟨id, some conn⟩ := by
        rw [setConnection, sessions, present]
        exact Function.update_self _ _ _
      refine ⟨kept.trans connections, ?_, ?_, fresh⟩
      · intro found has
        cases now.symm.trans has
        rfl
      · rw [connOf, now]
        rfl

/-! ## The steps in order -/

section Steps

variable {next : Downstream} {task conn : Nat} {part : Part}

/-- Nothing that concerns the session has changed. -/
theorem Sequenced.same (sequenced : Sequenced beast session world delivered progress)
    (tasks : next.tasks = world.tasks)
    (pools : forall pool, pool ∈ next.connections -> pool = [])
    (keyed : forall found, next.sessions session = some found -> found.id = session)
    (connOf : next.connOf session = world.connOf session)
    (streams : forall conn, next.getStream conn = world.getStream conn)
    (written : forall stream, next.writtenOn stream = world.writtenOn stream) :
    Sequenced beast session next delivered progress := by
  have current : next.currentStream session = world.currentStream session := by
    rw [currentStream, connOf, currentStream]
    exact congrArg _ (funext streams)
  have wire : next.wire session = world.wire session := by
    rw [Downstream.wire, current, Downstream.wire]
    exact congrArg (fun on => ((world.currentStream session).bind on).getD []) (funext written)
  have payloads : payloads beast next = payloads beast world := by
    rw [Downstream.payloads, tasks]
    rfl
  constructor
  · exact pools
  · exact keyed
  · rw [tasks]
    exact sequenced.requests
  · rw [tasks, connOf]
    exact sequenced.located
  · rw [tasks]
    exact sequenced.count
  · rw [tasks]
    exact sequenced.bound
  · intro stream found present other
    have here : world.writtenOn stream = some found.written := by
      rw [← written, writtenOn, present]
      rfl
    rcases Option.map_eq_some_iff.mp here with ⟨old, oldPresent, same⟩
    rw [← same]
    exact sequenced.elsewhere stream old oldPresent (current ▸ other)
  · rw [wire, payloads]
    exact sequenced.wire
  · rw [tasks, current]
    exact sequenced.begun
  · rw [tasks]
    exact sequenced.unbegun
  · rw [tasks]
    exact sequenced.alone

theorem Sequenced.begin (sequenced : Sequenced beast session world delivered progress)
    (named : session ≠ nilUuid) (found : world.tasks[task]? = some ⟨part, .spawned⟩)
    (generated : Uuid) (keeps : world.KeepsOrder (.begin task generated)) :
    Sequenced beast session (world.startRequest beast task part generated) delivered progress := by
  rcases sequenced.carries found with ⟨request, carried, own⟩
  have finds : world.FindsInitialized task <->
      Exists fun conn => world.connOf session = some conn ∧ world.isInitialized conn = true := by
    constructor
    · rintro ⟨other, present, carries, same, conn, has, initialized⟩
      cases found.symm.trans present
      cases carried.symm.trans same
      exact ⟨conn, own ▸ has, initialized⟩
    · rintro ⟨conn, has, initialized⟩
      exact ⟨_, found, request, carried, conn, own.symm ▸ has, initialized⟩
  rw [startRequest, carried]
  simp only
  cases has : world.connOf session with
  | some conn =>
      rw [locate_of_connOf generated sequenced.keyed own has]
      simp only
      cases initialized : world.isInitialized conn with
      | true =>
          rcases keeps with ⟨_, earlier⟩ | ⟨without, _⟩
          · exact sequenced.startWrite found trivial has earlier
          · exact absurd (finds.mpr ⟨conn, has, initialized⟩) without
      | false =>
          rcases keeps with ⟨already, _⟩ | ⟨_, untouched⟩
          · rcases finds.mp already with ⟨other, same, now⟩
            cases has.symm.trans same
            cases initialized.symm.trans now
          · exact sequenced.startInit found untouched ⟨rfl, rfl, rfl⟩ rfl sequenced.keyed
              (fun _ same => same) has
  | none =>
      rcases keeps with ⟨already, _⟩ | ⟨_, untouched⟩
      · rcases finds.mp already with ⟨other, same, _⟩
        cases has.symm.trans same
      · cases located : world.locate request generated with
        | error exception =>
            exact sequenced.setPhase found trivial (fun delivers => delivers) (by rintro _ ⟨⟩)
              (fun writing => writing.elim) fun _ => List.nil_prefix
        | ok pair =>
            rcases pair with ⟨middle, conn⟩
            rcases locate_new sequenced.pools sequenced.keyed own named has located with
              ⟨connections, keyed, given, fresh⟩
            simp only [fresh]
            refine sequenced.startInit found untouched (locate_sameWork located) connections keyed
              ?_ given
            intro other same
            cases has.symm.trans same

theorem Sequenced.onResolved (sequenced : Sequenced beast session world delivered progress)
    (found : world.tasks[task]? = some ⟨part, .resolving conn⟩) {success : Bool}
    (keeps : world.KeepsOrder (.resolved task success)) :
    Sequenced beast session (world.onResolved beast task part conn success) delivered progress := by
  have has : world.connOf session = some conn := sequenced.located task _ conn found rfl
  rw [Downstream.onResolved]
  cases success with
  | true =>
      simp only [if_true]
      cases world.getStream conn with
      | none =>
          exact sequenced.setPhase found trivial (fun delivers => delivers) (by rintro _ ⟨⟩)
            (fun writing => writing.elim) fun _ => List.nil_prefix
      | some stream =>
          exact sequenced.setPhase found trivial (fun delivers => delivers)
            (fun other same => has.trans same) (fun writing => writing.elim) fun _ => rfl
  | false =>
      simp only [Bool.false_eq_true, if_false]
      exact sequenced.startWrite found trivial has (keeps.resolve_left Bool.false_ne_true)

/-- A stream connects and its connection counts as initialised. -/
theorem Sequenced.connect (sequenced : Sequenced beast session world delivered progress)
    (conn stream : Nat) :
    Sequenced beast session
      ((world.modifyStream stream fun found => { found with connected := true }).modifyConn conn
        fun connection => { connection with initialized := true }) delivered progress := by
  have streams : forall found : DownstreamConnection,
      DownstreamConnection.stream { found with initialized := true } = found.stream := fun _ => rfl
  have written : forall found : TcpStream,
      (some ∘ TcpStream.written) { found with connected := true } =
        (some ∘ TcpStream.written) found := fun _ => rfl
  refine sequenced.same rfl sequenced.pools sequenced.keyed rfl ?_ ?_
  · exact Cells.bind_getElem?_modify streams world.conns conn
  · intro other
    rw [writtenOn, Option.map_eq_bind, writtenOn, Option.map_eq_bind]
    exact Cells.bind_getElem?_modify written world.streams stream other

theorem Sequenced.onConnected (sequenced : Sequenced beast session world delivered progress)
    {stream : Nat} (found : world.tasks[task]? = some ⟨part, .connecting conn stream⟩)
    (success : Bool) (earlier : world.Earlier task) :
    Sequenced beast session (world.onConnected beast task part conn stream success) delivered
      progress := by
  have has : world.connOf session = some conn := sequenced.located task _ conn found rfl
  rw [Downstream.onConnected]
  cases success with
  | true => exact (sequenced.connect conn stream).startWrite found trivial has earlier
  | false => exact sequenced.startWrite found trivial has earlier

/-- Octets that are put on the stream of the session. -/
theorem wire_putOctets {stream : Nat} {octets : Octets}
    (current : world.currentStream session = some stream)
    (connected : world.isConnected stream = true) :
    (world.putOctets stream octets).wire session = world.wire session ++ octets := by
  have same : (world.putOctets stream octets).currentStream session = some stream := current
  rcases (Option.any_eq_true _ _).mp connected with ⟨found, present, _⟩
  have changed : (world.putOctets stream octets).streams[stream]? =
      some { found with written := found.written ++ octets } :=
    Cells.getElem?_modify_self present _
  rw [wire, same, wire, current]
  simp only [Option.bind_some, writtenOn, changed, present, Option.map_some, Option.getD_some]

/-- What a write on the stream of the session leaves of the rest. -/
theorem Sequenced.putOctets_leaves
    (sequenced : Sequenced beast session world delivered progress) {stream : Nat}
    {octets : Octets} {phase : Phase} (current : world.currentStream session = some stream) :
    Leaves session world ((world.putOctets stream octets).setPhase task phase) := by
  refine ⟨rfl, sequenced.keyed, fun _ has => has, ?_, Or.inl rfl⟩
  intro other found present elsewhere
  have different : stream ≠ other := by
    rintro rfl
    exact elsewhere current
  have old : world.streams[other]? = some found :=
    (List.getElem?_modify_ne _ _ different).symm.trans present
  exact sequenced.elsewhere other found old elsewhere

theorem Sequenced.progressed (sequenced : Sequenced beast session world delivered progress)
    {before : Phase} (found : world.tasks[task]? = some ⟨part, before⟩) (writing : Writing before) :
    task = delivered ∧ Progress beast (world.currentStream session) part progress before := by
  have now : task = delivered := sequenced.alone task _ found writing
  subst now
  exact ⟨rfl, sequenced.begun _ found⟩

theorem Sequenced.writes (sequenced : Sequenced beast session world delivered progress)
    {stream count done : Nat} {octets : Octets}
    (found : world.tasks[task]? = some ⟨part, .writing conn stream octets done⟩)
    (connected : world.isConnected stream = true) :
    Sequenced beast session
      ((world.putOctets stream ((octets.drop done).take count)).setPhase task
        (.writing conn stream octets (done + count)))
      delivered (octets.take (done + count)) := by
  rcases sequenced.progressed found trivial with ⟨now, current, whole, taken⟩
  have moved : Moved world
      ((world.putOctets stream ((octets.drop done).take count)).setPhase task
        (.writing conn stream octets (done + count))) task part (.writing conn stream octets done)
        (.writing conn stream octets (done + count)) := ⟨found, rfl⟩
  refine sequenced.moved moved (sequenced.putOctets_leaves current) Iff.rfl ?_ (absurd now) ?_
    (fun _ => now) (fun _ => ⟨current, whole, rfl⟩)
  · have grown : (world.putOctets stream ((octets.drop done).take count)).wire session =
        world.wire session ++ (octets.drop done).take count := wire_putOctets current connected
    rw [sequenced.wire, taken, List.append_assoc, ← List.take_add] at grown
    exact grown
  · intro other same
    exact (sequenced.located task _ conn found rfl).trans same

/-- A part whose octets are all on the stream is delivered. -/
theorem Sequenced.afterWrite {middle : Downstream} {before : Phase}
    (sequenced : Sequenced beast session world delivered progress)
    (found : world.tasks[task]? = some ⟨part, before⟩) (now : task = delivered)
    (leaves : forall phase, Leaves session world (middle.setPhase task phase))
    (tasks : middle.tasks = world.tasks)
    (wire : middle.wire session =
      ((payloads beast world).take delivered).flatten ++ payload beast part) :
    Sequenced beast session (middle.afterWrite task part) (delivered + 1) [] := by
  subst now
  have moved : forall phase, Moved world (middle.setPhase task phase) task part before phase :=
    fun phase => ⟨found, congrArg (List.modify · task _) tasks⟩
  rcases afterWrite_eq middle task part with same | ⟨same, _⟩
  · rw [same]
    exact sequenced.deliver (moved _) (leaves _) trivial (fun writing => writing) rfl wire
  · rw [same]
    exact sequenced.deliver (moved _) (leaves _) trivial (fun writing => writing) rfl wire

theorem Sequenced.written (sequenced : Sequenced beast session world delivered progress)
    {stream : Nat} {octets : Octets}
    (found : world.tasks[task]? = some ⟨part, .writing conn stream octets octets.length⟩) :
    Sequenced beast session (world.afterWrite task part) (delivered + 1) [] := by
  rcases sequenced.progressed found trivial with ⟨now, _, whole, taken⟩
  apply sequenced.afterWrite found now (fun _ => sequenced.leaves rfl rfl rfl rfl) rfl
  rw [sequenced.wire, taken, List.take_length, whole]

theorem Sequenced.writtenSome (sequenced : Sequenced beast session world delivered progress)
    {stream : Nat} {octets : Octets}
    (found : world.tasks[task]? = some ⟨part, .writingSome conn stream octets⟩)
    (connected : world.isConnected stream = true) :
    Sequenced beast session ((world.putOctets stream octets).afterWrite task part)
      (delivered + 1) [] := by
  rcases sequenced.progressed found trivial with ⟨now, current, whole, nothing⟩
  apply sequenced.afterWrite found now (fun _ => sequenced.putOctets_leaves current) rfl
  rw [wire_putOctets current connected, sequenced.wire, nothing, List.append_nil, whole]

/-- A coroutine that ends. -/
theorem Sequenced.ends (sequenced : Sequenced beast session world delivered progress)
    {before : Phase} {ending : Ending} (found : world.tasks[task]? = some ⟨part, before⟩)
    (delivers : Delivered (.ended ending) <-> Delivered before) :
    Sequenced beast session (world.setPhase task (.ended ending)) delivered progress := by
  refine sequenced.moved ⟨found, rfl⟩ (sequenced.leaves rfl rfl rfl rfl) delivers sequenced.wire
    (fun _ => rfl) nofun (fun writing => writing.elim) ?_
  rintro rfl
  exact (sequenced.begun _ found).within

theorem Sequenced.getSession (sequenced : Sequenced beast session world delivered progress)
    {called generated id : Uuid} {throwOnMissing : Bool}
    (unused : called = nilUuid -> world.sessions generated = none)
    (success : world.getSession called throwOnMissing generated = .ok (next, id)) :
    Sequenced beast session next delivered progress := by
  rw [Downstream.getSession] at success
  split at success
  · cases success
    exact sequenced
  · rename_i missing
    split at success
    · cases success
    · cases success
      have fresh : world.sessions (if called = nilUuid then generated else called) = none := by
        split
        · exact unused ‹_›
        · exact missing
      refine sequenced.same rfl sequenced.pools ?_ ?_ (fun _ => rfl) (fun _ => rfl)
      · intro found present
        by_cases equal : session = if called = nilUuid then generated else called
        · rw [equal] at present
          cases (Function.update_self _ _ _).symm.trans present
          exact equal.symm
        · exact sequenced.keyed found ((Function.update_of_ne equal _ _).symm.trans present)
      · rw [connOf, connOf]
        by_cases equal : session = if called = nilUuid then generated else called
        · rw [equal, fresh]
          simp only [Function.update_self]
          rfl
        · simp only [Function.update_of_ne equal]

theorem Sequenced.getConnection (sequenced : Sequenced beast session world delivered progress)
    {backendId : Int} {called : Uuid}
    (success : world.getConnection backendId called = .ok (next, conn)) :
    Sequenced beast session next delivered progress := by
  rw [Downstream.getConnection] at success
  split at success
  · cases success
  · simp only [pool_of_empty sequenced.pools, findAcquire] at success
    cases success
    refine sequenced.same rfl sequenced.pools sequenced.keyed rfl ?_ (fun _ => rfl)
    have kept : forall found : DownstreamConnection,
        DownstreamConnection.stream { found with currentSession := called } = found.stream :=
      fun _ => rfl
    intro other
    refine (Cells.bind_getElem?_modify kept _ _ other).trans ?_
    exact Cells.bind_getElem?_concat (by rfl) world.conns other

/-- Every step that keeps the order keeps the invariant. -/
theorem Sequenced.step (sequenced : Sequenced beast session world delivered progress)
    (named : session ≠ nilUuid) {label : DownstreamLabel} (keeps : world.KeepsOrder label)
    (taken : world.step beast label = some next) :
    Exists fun delivered => Exists fun progress =>
      Sequenced beast session next delivered progress := by
  cases stepped_of_step beast taken with
  | spawn part => exact False.elim keeps
  | getSession got => exact ⟨_, _, sequenced.getSession keeps got⟩
  | noSession => exact ⟨_, _, sequenced⟩
  | getConnection given => exact ⟨_, _, sequenced.getConnection given⟩
  | noConnection => exact ⟨_, _, sequenced⟩
  | begin generated found => exact ⟨_, _, sequenced.begin named found generated keeps⟩
  | resolved success found => exact ⟨_, _, sequenced.onResolved found keeps⟩
  | connected success found => exact ⟨_, _, sequenced.onConnected found success keeps⟩
  | writes found connected => exact ⟨_, _, sequenced.writes found connected⟩
  | written found => exact ⟨_, _, sequenced.written found⟩
  | writtenSome found connected =>
      have whole := keeps _ (congrArg (Option.bind · fun found => someBuffer found.phase) found)
      rw [whole, List.take_length]
      exact ⟨_, _, sequenced.writtenSome found connected⟩
  | writeFailed found => exact ⟨_, _, sequenced.ends found Iff.rfl⟩
  | writeSomeFailed found => exact ⟨_, _, sequenced.ends found Iff.rfl⟩
  | answered response found =>
      have delivers : Delivered (.ended .answered) <-> Delivered .reading := Iff.rfl
      have ended := sequenced.ends found delivers
      exact ⟨_, _, ended.same rfl ended.pools ended.keyed rfl (fun _ => rfl) (fun _ => rfl)⟩
  | readFailed found => exact ⟨_, _, sequenced.ends found Iff.rfl⟩

/-- More parts of the request are handed over. -/
theorem Sequenced.spawn (sequenced : Sequenced beast session world delivered progress)
    {parts : List Part}
    (requests : forall part, part ∈ parts ->
      Exists fun request => currReq part = some request ∧ request.sessionId = session) :
    Sequenced beast session
      { world with tasks := world.tasks ++ parts.map fun part => ⟨part, .spawned⟩ } delivered
      progress := by
  have apart : forall (position : Nat) (task : Task),
      (world.tasks ++ parts.map fun part => Task.mk part .spawned)[position]? = some task ->
        world.tasks[position]? = some task ∨
          world.tasks.length ≤ position ∧ task.phase = .spawned := by
    intro position task found
    rcases Cells.getElem?_append_cases found with old | ⟨behind, new⟩
    · exact Or.inl old
    · rcases List.mem_map.mp new with ⟨part, _, rfl⟩
      exact Or.inr ⟨behind, rfl⟩
  constructor
  · exact sequenced.pools
  · exact sequenced.keyed
  · intro part member
    rw [List.map_append, List.map_map] at member
    rcases List.mem_append.mp member with old | new
    · exact sequenced.requests part old
    · rcases List.mem_map.mp new with ⟨given, among, rfl⟩
      exact requests given among
  · intro position task conn found has
    rcases apart position task found with old | ⟨_, spawned⟩
    · exact sequenced.located position task conn old has
    · rw [spawned] at has
      cases has
  · intro position task found
    rcases apart position task found with old | ⟨behind, spawned⟩
    · exact sequenced.count position task old
    · rw [spawned]
      have bound := sequenced.bound
      exact ⟨False.elim, fun within => by omega⟩
  · rw [List.length_append]
    exact Nat.le_add_right_of_le sequenced.bound
  · exact sequenced.elsewhere
  · have length : delivered ≤ (world.tasks.map fun task => payload beast task.part).length := by
      rw [List.length_map]
      exact sequenced.bound
    rw [payloads, List.map_append, List.take_append_of_le_length length]
    exact sequenced.wire
  · intro task found
    rcases apart delivered task found with old | ⟨behind, spawned⟩
    · exact sequenced.begun task old
    · rw [spawned]
      exact sequenced.unbegun behind
  · intro complete
    rw [List.length_append] at complete
    exact sequenced.unbegun (by omega)
  · intro position task found writing
    rcases apart position task found with old | ⟨_, spawned⟩
    · exact sequenced.alone position task old writing
    · rw [spawned] at writing
      exact False.elim writing

end Steps

end Downstream

end EasyProspect
