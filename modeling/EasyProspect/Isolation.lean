import EasyProspect.Downstream
import EasyProspect.Library.Cells
import EasyProspect.ScriptedBeast

namespace EasyProspect

/-!
# Isolation of downstream sessions

A connection belongs to a session when the session refers to it or when it names
the session as its current one.  The invariant says that both agree and that a
nil id names no session; what grows over a run are the connections a session has
been given and the sessions a connection has named.

`get_connection` acquires connections before it knows that it will use them, and
then names the session once more.  Neither can take a connection away from a
session, because acquiring succeeds only on a connection that names nobody or the
session itself.
-/

namespace Downstream

open Cells

/-- A connection that names a session goes on naming it. -/
def KeepsSession (before after : DownstreamConnection) : Prop :=
  before.currentSession ≠ nilUuid -> after.currentSession = before.currentSession

theorem keepsSession_refl (connection : DownstreamConnection) :
    KeepsSession connection connection :=
  fun _ => rfl

theorem keepsSession_trans (first middle last : DownstreamConnection)
    (early : KeepsSession first middle) (late : KeepsSession middle last) :
    KeepsSession first last := by
  intro named
  have same := early named
  rw [late (same ▸ named), same]

/-- The session refers to the connection. -/
def HasConn (world : Downstream) (session : Uuid) (conn : Nat) : Prop :=
  Exists fun found => world.sessions session = some found ∧ found.conn = some conn

/-- The connection names the session. -/
def Names (world : Downstream) (conn : Nat) (session : Uuid) : Prop :=
  Exists fun connection => world.conns[conn]? = some connection ∧
    connection.currentSession = session

def AssignedTo (world : Downstream) (conn : Nat) (session : Uuid) : Prop :=
  world.Names conn session ∧ session ≠ nilUuid ∨ world.HasConn session conn

structure Owned (world : Downstream) : Prop where
  keyed : forall session found, world.sessions session = some found ->
    found.id = session ∧ session ≠ nilUuid
  named : forall session conn, world.HasConn session conn -> world.Names conn session

structure Grows (before after : Downstream) : Prop where
  sessions : forall session conn, before.HasConn session conn -> after.HasConn session conn
  conns : Extends KeepsSession before.conns after.conns

theorem Grows.trans {before middle after : Downstream} (early : Grows before middle)
    (late : Grows middle after) : Grows before after where
  sessions := fun session conn has => late.sessions session conn (early.sessions session conn has)
  conns := early.conns.trans keepsSession_trans late.conns

theorem Grows.names {before after : Downstream} (grows : Grows before after) {conn : Nat}
    {session : Uuid} (nonNil : session ≠ nilUuid) (names : before.Names conn session) :
    after.Names conn session := by
  rcases names with ⟨connection, found, same⟩
  rcases grows.conns conn connection found with ⟨next, foundNext, keeps⟩
  exact ⟨next, foundNext, (keeps (same ▸ nonNil)).trans same⟩

theorem HasConn.nonNil {world : Downstream} (owned : world.Owned) {session : Uuid} {conn : Nat}
    (has : world.HasConn session conn) : session ≠ nilUuid := by
  rcases has with ⟨found, present, _⟩
  exact (owned.keyed session found present).2

/-- The invariant together with growth, which every step preserves. -/
def Keeps (before after : Downstream) : Prop :=
  after.Owned ∧ Grows before after

theorem Keeps.trans {before middle after : Downstream} (early : Keeps before middle)
    (late : middle.Owned -> Keeps middle after) : Keeps before after :=
  ⟨(late early.1).1, early.2.trans (late early.1).2⟩

/-- A step that gives no session a connection need only keep what connections name. -/
theorem Keeps.of_sessions {before after : Downstream} (owned : before.Owned)
    (sessions : after.sessions = before.sessions)
    (conns : Extends KeepsSession before.conns after.conns) : Keeps before after := by
  have grows : Grows before after :=
    ⟨fun session conn has => by rw [HasConn, sessions]; exact has, conns⟩
  refine ⟨⟨?_, ?_⟩, grows⟩
  · rw [sessions]
    exact owned.keyed
  · intro session conn has
    rw [HasConn, sessions] at has
    exact grows.names (HasConn.nonNil owned has) (owned.named session conn has)

theorem Keeps.of_same {before after : Downstream} (owned : before.Owned)
    (sessions : after.sessions = before.sessions) (conns : after.conns = before.conns) :
    Keeps before after :=
  Keeps.of_sessions owned sessions (conns ▸ Extends.refl keepsSession_refl before.conns)

theorem Keeps.modifyConn {world : Downstream} (owned : world.Owned) (conn : Nat)
    {change : DownstreamConnection -> DownstreamConnection}
    (kept : forall connection, (change connection).currentSession = connection.currentSession) :
    Keeps world (world.modifyConn conn change) :=
  Keeps.of_sessions owned rfl
    (Extends.modify keepsSession_refl fun connection _ _ => kept connection)

/-! ## Sessions -/

/-- The id that `random_generator` yields names no session yet. -/
def Fresh (world : Downstream) (generated : Uuid) : Prop :=
  generated ≠ nilUuid ∧ world.sessions generated = none

/-- A new session has no connection. -/
theorem Keeps.register {world : Downstream} (owned : world.Owned) {id : Uuid}
    (nonNil : id ≠ nilUuid) (absent : world.sessions id = none) :
    Keeps world
      { world with sessions := Function.update world.sessions id (some ⟨id, none⟩) } := by
  let next : Downstream :=
    { world with sessions := Function.update world.sessions id (some ⟨id, none⟩) }
  have same : forall session conn, next.HasConn session conn <-> world.HasConn session conn := by
    intro session conn
    by_cases new : session = id
    · subst new
      constructor
      · rintro ⟨found, present, some_conn⟩
        have entry : next.sessions session = some ⟨session, none⟩ := Function.update_self ..
        cases entry.symm.trans present
        cases some_conn
      · rintro ⟨found, present, _⟩
        cases absent.symm.trans present
    · have entry : next.sessions session = world.sessions session :=
        Function.update_of_ne new ..
      rw [HasConn, entry]
      exact Iff.rfl
  refine ⟨⟨?_, ?_⟩, ⟨fun session conn has => (same session conn).mpr has,
    Extends.refl keepsSession_refl world.conns⟩⟩
  · intro session found present
    by_cases new : session = id
    · subst new
      have entry : next.sessions session = some ⟨session, none⟩ := Function.update_self ..
      cases entry.symm.trans present
      exact ⟨rfl, nonNil⟩
    · have entry : next.sessions session = world.sessions session :=
        Function.update_of_ne new ..
      exact owned.keyed session found (entry.symm.trans present)
  · intro session conn has
    exact owned.named session conn ((same session conn).mp has)

theorem getSession_keeps {world next : Downstream} {session generated id : Uuid}
    {throwOnMissing : Bool} (owned : world.Owned) (fresh : world.Fresh generated)
    (success : world.getSession session throwOnMissing generated = .ok (next, id)) :
    Keeps world next ∧ Exists fun found => next.sessions id = some found := by
  rw [getSession] at success
  cases found : world.sessions session with
  | some existing =>
      rw [found] at success
      cases success
      rw [(owned.keyed session existing found).1]
      exact ⟨Keeps.of_same owned rfl rfl, existing, found⟩
  | none =>
      rw [found] at success
      cases throwOnMissing with
      | true => cases success
      | false =>
          cases success
          refine ⟨Keeps.register owned ?_ ?_, _, Function.update_self ..⟩
          · split
            · exact fresh.1
            · assumption
          · split
            · exact fresh.2
            · exact found

/-! ## Connections -/

theorem acquire_keeps (connection : DownstreamConnection) (session : Uuid) :
    KeepsSession connection (connection.acquire session).1 := by
  intro named
  rw [DownstreamConnection.acquire, if_neg named]
  split <;> rfl

/-- Acquiring succeeds when the connection names the session afterwards. -/
theorem acquire_success {connection : DownstreamConnection} {session : Uuid}
    (success : (connection.acquire session).2 = true) :
    (connection.acquire session).1.currentSession = session := by
  unfold DownstreamConnection.acquire at success ⊢
  split at success
  · rw [if_pos (by assumption)]
  · split at success
    · rw [if_neg (by assumption), if_pos (by assumption)]
      assumption
    · cases success

theorem findAcquire_keeps (session : Uuid) (pool : List Nat) (conns : List DownstreamConnection) :
    Extends KeepsSession conns (findAcquire session pool conns).1 ∧
      forall conn, (findAcquire session pool conns).2 = some conn ->
        Exists fun connection => (findAcquire session pool conns).1[conn]? = some connection ∧
          connection.currentSession = session := by
  induction pool generalizing conns with
  | nil => exact ⟨Extends.refl keepsSession_refl conns, nofun⟩
  | cons conn rest inductionHypothesis =>
      rw [findAcquire]
      cases found : conns[conn]? with
      | none => exact inductionHypothesis conns
      | some connection =>
          have acquired := Extends.set keepsSession_refl found (acquire_keeps connection session)
          cases success : (connection.acquire session).2 with
          | true =>
              simp only [success, if_true]
              refine ⟨acquired, ?_⟩
              intro other same
              cases same
              exact ⟨_, getElem?_set_self found _, acquire_success success⟩
          | false =>
              simp only [success, Bool.false_eq_true, if_false]
              rcases inductionHypothesis (conns.set conn (connection.acquire session).1) with
                ⟨extends_rest, names⟩
              exact ⟨acquired.trans keepsSession_trans extends_rest, names⟩

theorem acquire_create (session : Uuid) :
    (DownstreamConnection.create.acquire session).1.currentSession = session := by
  have unnamed : DownstreamConnection.create.currentSession = nilUuid := rfl
  rw [DownstreamConnection.acquire, if_pos unnamed]

/-- A connection that is handed out names the session it is handed out to. -/
theorem getConnection_keeps {world next : Downstream} {backendId : Int} {session : Uuid}
    {conn : Nat} (owned : world.Owned)
    (success : world.getConnection backendId session = .ok (next, conn)) :
    Keeps world next ∧ next.Names conn session ∧ next.sessions = world.sessions := by
  rw [getConnection] at success
  split at success
  · cases success
  · rcases findAcquire_keeps session (world.connections.getD backendId.toNat []) world.conns with
      ⟨acquired, names⟩
    cases found : (findAcquire session (world.connections.getD backendId.toNat [])
        world.conns).2 with
    | some existing =>
        simp only [found] at success
        cases success
        rcases names _ found with ⟨connection, present, named⟩
        refine ⟨Keeps.of_sessions owned rfl (acquired.trans keepsSession_trans ?_), ?_, rfl⟩
        · apply Extends.modify keepsSession_refl
          intro other foundOther _
          rw [present] at foundOther
          cases foundOther
          exact named.symm
        · exact ⟨_, getElem?_modify_self present _, rfl⟩
    | none =>
        simp only [found] at success
        cases success
        let conns := (findAcquire session (world.connections.getD backendId.toNat [])
          world.conns).1
        have present : (conns ++ [(DownstreamConnection.create.acquire session).1])[conns.length]? =
            some (DownstreamConnection.create.acquire session).1 := List.getElem?_concat_length
        refine ⟨Keeps.of_sessions owned rfl (acquired.trans keepsSession_trans ?_), ?_, rfl⟩
        · have added : Extends KeepsSession conns
              (conns ++ [(DownstreamConnection.create.acquire session).1]) :=
            Extends.append keepsSession_refl conns _
          apply added.trans keepsSession_trans
          apply Extends.modify keepsSession_refl
          intro other foundOther _
          rw [present] at foundOther
          cases foundOther
          exact (acquire_create session).symm
        · exact ⟨_, getElem?_modify_self present _, rfl⟩

/-- A session without a connection is given one that names it. -/
theorem setConnection_keeps {world : Downstream} {session : Uuid} {conn : Nat}
    {found : DownstreamSession} (owned : world.Owned)
    (present : world.sessions session = some found) (without : found.conn = none)
    (names : world.Names conn session) : Keeps world (world.setConnection session conn) := by
  let next := world.setConnection session conn
  have entry : next.sessions session = some { found with conn := some conn } := by
    change Function.update world.sessions session _ session = _
    rw [Function.update_self, present]
    rfl
  have others : forall other, other ≠ session -> next.sessions other = world.sessions other :=
    fun other different => Function.update_of_ne different ..
  refine ⟨⟨?_, ?_⟩, ⟨?_, Extends.refl keepsSession_refl world.conns⟩⟩
  · intro other result presentOther
    by_cases same : other = session
    · subst same
      cases entry.symm.trans presentOther
      exact owned.keyed other found present
    · exact owned.keyed other result ((others other same).symm.trans presentOther)
  · rintro other otherConn ⟨result, presentOther, hasConn⟩
    by_cases same : other = session
    · subst same
      cases entry.symm.trans presentOther
      cases hasConn
      exact names
    · exact owned.named other otherConn
        ⟨result, (others other same).symm.trans presentOther, hasConn⟩
  · rintro other otherConn ⟨result, presentOther, hasConn⟩
    by_cases same : other = session
    · subst same
      cases present.symm.trans presentOther
      cases without.symm.trans hasConn
    · exact ⟨result, (others other same).trans presentOther, hasConn⟩

/-- What `start_request` finds belongs to the session of its request. -/
theorem locate_keeps {world next : Downstream} {request : HttpRequest} {generated : Uuid}
    {conn : Nat} (owned : world.Owned) (fresh : world.Fresh generated)
    (success : world.locate request generated = .ok (next, conn)) : Keeps world next := by
  rw [locate] at success
  split at success
  · cases success
  · rename_i middle session got
    rcases getSession_keeps owned fresh got with ⟨early, found, present⟩
    split at success
    · cases success
      exact early
    · rename_i missing
      split at success
      · cases success
      · rename_i last lastConn given
        cases success
        rcases getConnection_keeps early.1 given with ⟨middleKeeps, names, sessions⟩
        rw [present] at missing
        refine early.trans fun _ => middleKeeps.trans fun ownedLast => ?_
        exact setConnection_keeps ownedLast (sessions ▸ present) missing names

/-! ## Steps -/

theorem startWrite_keeps (beast : Beast) {world : Downstream} (owned : world.Owned)
    (task : Nat) (part : Part) (conn : Nat) :
    Keeps world (world.startWrite beast task part conn) := by
  rcases startWrite_eq beast world task part conn with ⟨phase, same, _⟩
  rw [same]
  exact Keeps.of_same owned rfl rfl

theorem afterWrite_keeps {world : Downstream} (owned : world.Owned) (task : Nat) (part : Part) :
    Keeps world (world.afterWrite task part) := by
  rcases afterWrite_eq world task part with same | ⟨same, _⟩
  · rw [same]
    exact Keeps.of_same owned rfl rfl
  · rw [same]
    exact Keeps.of_same owned rfl rfl

theorem startInit_keeps {world : Downstream} (owned : world.Owned) (task conn : Nat) :
    Keeps world (world.startInit task conn) :=
  Keeps.of_sessions owned rfl (Extends.modify keepsSession_refl fun _ _ _ => rfl)

theorem startRequest_keeps (beast : Beast) {world : Downstream} (owned : world.Owned)
    (task : Nat) (part : Part) {generated : Uuid} (fresh : world.Fresh generated) :
    Keeps world (world.startRequest beast task part generated) := by
  rw [startRequest]
  split
  · exact Keeps.of_same owned rfl rfl
  · split
    · exact Keeps.of_same owned rfl rfl
    · rename_i middle conn found
      refine (locate_keeps owned fresh found).trans fun ownedMiddle => ?_
      split
      · exact startWrite_keeps beast ownedMiddle task part conn
      · exact startInit_keeps ownedMiddle task conn

theorem onConnected_keeps (beast : Beast) {world : Downstream} (owned : world.Owned)
    (task : Nat) (part : Part) (conn stream : Nat) (success : Bool) :
    Keeps world (world.onConnected beast task part conn stream success) := by
  rw [onConnected]
  split
  · have connects : Keeps world
        (world.modifyStream stream fun found => { found with connected := true }) :=
      Keeps.of_same owned rfl rfl
    refine connects.trans fun ownedStream => ?_
    refine Keeps.trans (Keeps.modifyConn ownedStream conn ?_) fun ownedConn =>
      startWrite_keeps beast ownedConn task part conn
    intro connection
    rfl
  · exact startWrite_keeps beast owned task part conn

theorem onResolved_keeps (beast : Beast) {world : Downstream} (owned : world.Owned)
    (task : Nat) (part : Part) (conn : Nat) (success : Bool) :
    Keeps world (world.onResolved beast task part conn success) := by
  rw [onResolved]
  split
  · split
    · exact Keeps.of_same owned rfl rfl
    · exact Keeps.of_same owned rfl rfl
  · exact startWrite_keeps beast owned task part conn

/-- The ids that `random_generator` yields in this step are fresh. -/
def FreshIds (world : Downstream) : DownstreamLabel -> Prop
  | .getSession _ _ generated => world.Fresh generated
  | .begin _ generated => world.Fresh generated
  | _ => True

theorem step_keeps (beast : Beast) {world next : Downstream} {label : DownstreamLabel}
    (owned : world.Owned) (fresh : world.FreshIds label)
    (taken : world.step beast label = some next) : Keeps world next := by
  cases stepped_of_step beast taken with
  | spawn part => exact Keeps.of_same owned rfl rfl
  | getSession got => exact (getSession_keeps owned fresh got).1
  | noSession => exact Keeps.of_same owned rfl rfl
  | getConnection given => exact (getConnection_keeps owned given).1
  | noConnection => exact Keeps.of_same owned rfl rfl
  | begin generated found => exact startRequest_keeps beast owned _ _ fresh
  | resolved success found => exact onResolved_keeps beast owned _ _ _ success
  | connected success found => exact onConnected_keeps beast owned _ _ _ _ success
  | writes found => exact Keeps.of_same owned rfl rfl
  | written found => exact afterWrite_keeps owned _ _
  | @writtenSome task part conn stream count octets found =>
      have puts : Keeps world (world.putOctets stream (octets.take count)) :=
        Keeps.of_same owned rfl rfl
      exact puts.trans fun ownedMiddle => afterWrite_keeps ownedMiddle task part
  | writeFailed found => exact Keeps.of_same owned rfl rfl
  | writeSomeFailed found => exact Keeps.of_same owned rfl rfl
  | answered response found => exact Keeps.of_same owned rfl rfl
  | readFailed found => exact Keeps.of_same owned rfl rfl

/-! ## Runs -/

/-- All calls and completions in any order, from any number of backends. -/
def system (beast : Beast) : Transition.System Downstream DownstreamLabel :=
  Transition.System.ofStep (fun world => Exists fun backends => world = create backends)
    (step beast)

/-- The steps in which `random_generator` yields fresh ids. -/
def freshSystem (beast : Beast) : Transition.System Downstream DownstreamLabel :=
  (system beast).restrict FreshIds

theorem owned_create (backends : Nat) : (create backends).Owned where
  keyed := nofun
  named := by
    rintro session conn ⟨found, present, _⟩
    cases present

theorem owned_reachable {beast : Beast} {world : Downstream}
    (reachable : (freshSystem beast).Reachable world) : world.Owned := by
  refine reachable.invariant ?_ ?_
  · rintro first ⟨backends, rfl⟩
    exact owned_create backends
  · rintro first label next owned ⟨fresh, taken⟩
    exact (step_keeps beast owned fresh taken).1

theorem grows_of_run {beast : Beast} {world later : Downstream} {labels : List DownstreamLabel}
    (owned : world.Owned) (run : (freshSystem beast).Run world labels later) :
    Keeps world later := by
  have extended : forall middle label next, Keeps world middle ->
      (freshSystem beast).step middle label next -> Keeps world next :=
    fun _ _ _ kept taken =>
      kept.trans fun ownedMiddle => step_keeps beast ownedMiddle taken.1 taken.2
  exact run.preserves extended (Keeps.of_same owned rfl rfl)

/-- A connection is assigned to at most one session. -/
theorem assignedTo_unique {world : Downstream} (owned : world.Owned) {conn : Nat}
    {first second : Uuid} (one : world.AssignedTo conn first)
    (other : world.AssignedTo conn second) : first = second := by
  have names : forall session, world.AssignedTo conn session -> world.Names conn session := by
    rintro session (⟨named, _⟩ | has)
    · exact named
    · exact owned.named session conn has
  rcases names first one with ⟨connection, found, same⟩
  rcases names second other with ⟨again, foundAgain, sameAgain⟩
  cases found.symm.trans foundAgain
  exact same.symm.trans sameAgain

theorem Grows.assignedTo {before after : Downstream} (grows : Grows before after) {conn : Nat}
    {session : Uuid} (assigned : before.AssignedTo conn session) :
    after.AssignedTo conn session := by
  rcases assigned with ⟨names, nonNil⟩ | has
  · exact Or.inl ⟨grows.names nonNil names, nonNil⟩
  · exact Or.inr (grows.sessions session conn has)

/-- In every reachable state and every state after it a connection is assigned to
one session only, two sessions share no connection, and a session keeps the
connection it was given. -/
theorem sessions_isolated (beast : Beast) (world later : Downstream)
    (labels : List DownstreamLabel) (reachable : (freshSystem beast).Reachable world)
    (run : (freshSystem beast).Run world labels later) :
    (forall conn first second, world.AssignedTo conn first -> later.AssignedTo conn second ->
        first = second) ∧
      (forall conn first second, later.HasConn first conn -> later.HasConn second conn ->
        first = second) ∧
      (forall session conn, world.HasConn session conn -> later.HasConn session conn) := by
  rcases grows_of_run (owned_reachable reachable) run with ⟨owned, grows⟩
  refine ⟨?_, ?_, grows.sessions⟩
  · intro conn first second before after
    exact assignedTo_unique owned (grows.assignedTo before) after
  · intro conn first second one other
    exact assignedTo_unique owned (Or.inr one) (Or.inr other)

/-! ## Two sessions at once -/

instance (world : Downstream) (generated : Uuid) : Decidable (world.Fresh generated) :=
  inferInstanceAs (Decidable (generated ≠ nilUuid ∧ world.sessions generated = none))

instance (world : Downstream) (label : DownstreamLabel) : Decidable (world.FreshIds label) :=
  match label with
  | .getSession _ _ generated => inferInstanceAs (Decidable (world.Fresh generated))
  | .begin _ generated => inferInstanceAs (Decidable (world.Fresh generated))
  | .spawn _ => isTrue trivial
  | .getConnection _ _ => isTrue trivial
  | .resolved _ _ => isTrue trivial
  | .connected _ _ => isTrue trivial
  | .writes _ _ => isTrue trivial
  | .written _ => isTrue trivial
  | .writtenSome _ _ => isTrue trivial
  | .writeFailed _ => isTrue trivial
  | .answered _ _ => isTrue trivial
  | .readFailed _ => isTrue trivial

/-- A bodiless request of a session. -/
def partOf (session : Uuid) : Part where
  firstReq := some
    (HttpRequestBuilder.ofParser (scriptedBeast getScript) (.body []) nilUuid session).toRequest
  position := 0
  reqContinuation := none

/-- The first of two sessions gets its connection. -/
def firstLabels : List DownstreamLabel :=
  [.spawn (partOf 7#128), .spawn (partOf 8#128), .begin 0 9#128]

/-- The second gets its own, and their requests are written in turns. -/
def secondLabels : List DownstreamLabel :=
  [.begin 1 10#128, .resolved 1 true, .resolved 0 true, .connected 0 true, .connected 1 true,
    .writes 1 2, .writes 0 4, .writes 1 3, .written 1, .writes 0 1, .written 0]

/-- The connection of a session. -/
def connectionOf (world : Downstream) (session : Uuid) : Option Nat :=
  (world.sessions session).bind DownstreamSession.conn

theorem hasConn_of_connectionOf {world : Downstream} {session : Uuid} {conn : Nat}
    (same : world.connectionOf session = some conn) : world.HasConn session conn := by
  rcases Option.bind_eq_some_iff.mp same with ⟨found, present, has⟩
  exact ⟨found, present, has⟩

/-- Guarded steps. -/
def executed (world : Downstream) (labels : List DownstreamLabel) : Option Downstream :=
  Transition.System.execute (Transition.System.guarded FreshIds (step (scriptedBeast getScript)))
    world labels

def firstConnected (world : Downstream) : Bool :=
  world.connectionOf 7#128 = some 0

def bothConnected (world : Downstream) : Bool :=
  world.connectionOf 7#128 = some 0 ∧ world.connectionOf 8#128 = some 1

theorem firstLabels_checked :
    (executed (create 1) firstLabels).map firstConnected = some true := by
  decide

theorem firstLabels_taken : (executed (create 1) firstLabels).isSome = true :=
  Transition.System.taken_of_checked firstLabels_checked

def firstBegun : Downstream :=
  (executed (create 1) firstLabels).get firstLabels_taken

theorem secondLabels_checked :
    (executed firstBegun secondLabels).map bothConnected = some true := by
  decide

theorem secondLabels_taken : (executed firstBegun secondLabels).isSome = true :=
  Transition.System.taken_of_checked secondLabels_checked

def bothServed : Downstream :=
  (executed firstBegun secondLabels).get secondLabels_taken

/-- A session keeps its connection while another one gets its own. -/
theorem sessions_isolated_two :
    (firstBegun.HasConn 7#128 0 ∧ bothServed.HasConn 7#128 0 ∧ bothServed.HasConn 8#128 1) ∧
      (forall conn first second, firstBegun.AssignedTo conn first ->
        bothServed.AssignedTo conn second -> first = second) ∧
      (forall conn first second, bothServed.HasConn first conn ->
        bothServed.HasConn second conn -> first = second) ∧
      (forall session conn, firstBegun.HasConn session conn ->
        bothServed.HasConn session conn) := by
  have begun : firstConnected firstBegun = true :=
    Transition.System.checked_get firstLabels_checked firstLabels_taken
  have served : bothConnected bothServed = true :=
    Transition.System.checked_get secondLabels_checked secondLabels_taken
  have both := of_decide_eq_true served
  refine ⟨⟨hasConn_of_connectionOf (of_decide_eq_true begun), hasConn_of_connectionOf both.1,
    hasConn_of_connectionOf both.2⟩, ?_⟩
  exact sessions_isolated (scriptedBeast getScript) firstBegun bothServed secondLabels
    (.of_execute_guarded ⟨1, rfl⟩ firstLabels_taken)
    (.of_execute_guarded (Option.some_get secondLabels_taken).symm)

end Downstream

end EasyProspect
