import EasyProspect.Isolation

namespace EasyProspect

/-!
# The pools of backend connections

`connections_` is meant to hold, for every backend, the connections made to it.
`get_connection` searches and extends a copy of one of these vectors, so the
vectors themselves are never written after `set_backends` has made them empty.
Every call makes a new connection, and no connection is ever found again.
-/

open Cells

namespace Downstream

/-- The arguments of `get_connection`. -/
structure PoolCall where
  backendId : Int
  session : Uuid

/-- The connections recorded for a backend. -/
def recorded (world : Downstream) (backendId : Int) : List Nat :=
  world.connections.getD backendId.toNat []

def PoolCall.Valid (world : Downstream) (call : PoolCall) : Prop :=
  0 ≤ call.backendId ∧ call.backendId < world.connections.length

def PoolCall.run (world : Downstream) (call : PoolCall) : Except Exception (Downstream × Nat) :=
  world.getConnection call.backendId call.session

/-- One call after the other, with the connections they return. -/
def getConnections : Downstream -> List PoolCall -> Except Exception (Downstream × List Nat)
  | world, [] => .ok (world, [])
  | world, call :: calls =>
      match call.run world with
      | .error exception => .error exception
      | .ok (next, conn) =>
          match getConnections next calls with
          | .error exception => .error exception
          | .ok (last, conns) => .ok (last, conn :: conns)

/-- A recorded connection that the session may not use. -/
def OwnedByAnother (world : Downstream) (session : Uuid) (conn : Nat) : Prop :=
  Exists fun connection => world.conns[conn]? = some connection ∧
    connection.currentSession ≠ nilUuid ∧ connection.currentSession ≠ session

/-- What one call leaves in the pools. -/
structure RecordedBy (world next : Downstream) (call : PoolCall) (conn : Nat) : Prop where
  recorded : conn ∈ next.recorded call.backendId
  owned : next.Names conn call.session
  kept : forall backendId other, other ∈ world.recorded backendId ->
    other ∈ next.recorded backendId
  needed : world.conns.length < next.conns.length ->
    forall other, other ∈ world.recorded call.backendId -> world.OwnedByAnother call.session other

/-- The same call, made again after some others, returns the same connection. -/
def FoundAgain (next : Downstream) (call : PoolCall) (conn : Nat) (after : List PoolCall) :
    Prop :=
  forall between rest, after = between ++ call :: rest ->
    forall last conns, getConnections next between = .ok (last, conns) ->
      forall final again, call.run last = .ok (final, again) -> again = conn

/-- The pools remember the connections of a sequence of calls. -/
def Remembers (world : Downstream) (calls : List PoolCall) : Prop :=
  forall before call after, calls = before ++ call :: after ->
    forall middle conns, getConnections world before = .ok (middle, conns) ->
      forall next conn, call.run middle = .ok (next, conn) ->
        RecordedBy middle next call conn ∧ FoundAgain next call conn after

/-! ## The pools are never written -/

theorem getSession_connections {world next : Downstream} {session generated id : Uuid}
    {throwOnMissing : Bool}
    (success : world.getSession session throwOnMissing generated = .ok (next, id)) :
    next.connections = world.connections := by
  rw [getSession] at success
  split at success
  · cases success
    rfl
  · split at success
    · cases success
    · cases success
      rfl

theorem getConnection_connections {world next : Downstream} {backendId : Int} {session : Uuid}
    {conn : Nat} (success : world.getConnection backendId session = .ok (next, conn)) :
    next.connections = world.connections := by
  rw [getConnection] at success
  split at success
  · cases success
  · cases success
    rfl

theorem locate_connections {world next : Downstream} {request : HttpRequest} {generated : Uuid}
    {conn : Nat} (success : world.locate request generated = .ok (next, conn)) :
    next.connections = world.connections := by
  rw [locate] at success
  split at success
  · cases success
  · rename_i got
    have early := getSession_connections got
    split at success
    · cases success
      exact early
    · split at success
      · cases success
      · rename_i given
        cases success
        exact (getConnection_connections given).trans early

theorem startWrite_connections (beast : Beast) (world : Downstream) (task : Nat) (part : Part)
    (conn : Nat) : (world.startWrite beast task part conn).connections = world.connections := by
  rcases startWrite_eq beast world task part conn with ⟨phase, same, _⟩
  rw [same]
  rfl

theorem afterWrite_connections (world : Downstream) (task : Nat) (part : Part) :
    (world.afterWrite task part).connections = world.connections := by
  rcases afterWrite_eq world task part with same | ⟨same, _⟩
  · rw [same]
    rfl
  · rw [same]
    rfl

theorem startRequest_connections (beast : Beast) (world : Downstream) (task : Nat) (part : Part)
    (generated : Uuid) :
    (world.startRequest beast task part generated).connections = world.connections := by
  rw [startRequest]
  split
  · rfl
  · split
    · rfl
    · rename_i found
      have same := locate_connections found
      split
      · exact (startWrite_connections beast _ task part _).trans same
      · exact same

theorem step_connections (beast : Beast) {world next : Downstream} {label : DownstreamLabel}
    (taken : world.step beast label = some next) : next.connections = world.connections := by
  cases stepped_of_step beast taken with
  | getSession got => exact getSession_connections got
  | getConnection given => exact getConnection_connections given
  | begin generated found => exact startRequest_connections beast world _ _ generated
  | resolved success found =>
      rw [onResolved]
      split
      · split
        · rfl
        · rfl
      · exact startWrite_connections beast world _ _ _
  | connected success found =>
      rw [onConnected]
      split
      · exact startWrite_connections beast _ _ _ _
      · exact startWrite_connections beast world _ _ _
  | written found => exact afterWrite_connections world _ _
  | writtenSome found => exact afterWrite_connections _ _ _
  | _ => rfl

/-- Nothing has been recorded. -/
def PoolsEmpty (world : Downstream) : Prop :=
  forall pool, pool ∈ world.connections -> pool = []

theorem poolsEmpty_reachable {beast : Beast} {world : Downstream}
    (reachable : (system beast).Reachable world) : world.PoolsEmpty := by
  refine reachable.invariant ?_ ?_
  · rintro first ⟨backends, rfl⟩ pool member
    exact (List.mem_replicate.mp member).2
  · intro first label next empty taken pool member
    rw [step_connections beast taken] at member
    exact empty pool member

/-- From empty pools every valid call makes a connection and records nothing. -/
theorem run_poolsEmpty {world : Downstream} {call : PoolCall} (valid : call.Valid world)
    (empty : world.PoolsEmpty) :
    Exists fun next => call.run world = .ok (next, world.conns.length) ∧
      next.connections = world.connections ∧ next.conns.length = world.conns.length + 1 := by
  have within : ¬(call.backendId < 0 ∨ (world.connections.length : Int) ≤ call.backendId) := by
    rcases valid with ⟨lower, upper⟩
    omega
  rw [PoolCall.run, getConnection, if_neg within]
  simp only [pool_of_empty empty, findAcquire]
  exact ⟨_, rfl, rfl, by rw [modifyConn, List.length_modify, List.length_append]; rfl⟩

/-! ## Remembering -/

/-- After `set_backends`, whatever else has happened, the pools remember the
connections of no sequence with a call in it. -/
theorem remembers_iff (beast : Beast) (world : Downstream)
    (reachable : (system beast).Reachable world) (calls : List PoolCall)
    (valid : forall call, call ∈ calls -> call.Valid world) :
    Remembers world calls <-> calls = [] := by
  constructor
  · intro remembers
    cases calls with
    | nil => rfl
    | cons call rest =>
        have empty := poolsEmpty_reachable reachable
        rcases run_poolsEmpty (valid call List.mem_cons_self) empty with
          ⟨next, returned, connections, _⟩
        have recordedBy := (remembers [] call rest rfl world [] rfl next _ returned).1
        have found := recordedBy.recorded
        rw [recorded, connections, pool_of_empty empty] at found
        exact absurd found List.not_mem_nil
  · rintro rfl before call after split
    exact absurd split (by simp)

theorem remembers_iff_single :
    Remembers (create 1) [⟨0, 7#128⟩] <-> [PoolCall.mk 0 7#128] = [] :=
  remembers_iff (scriptedBeast getScript) (create 1) (.initially ⟨1, rfl⟩) [⟨0, 7#128⟩] (by
    intro call member
    rw [List.mem_singleton.mp member]
    exact ⟨by decide, by decide⟩)

/-- The connection made for a session is not in its backend's pool. -/
theorem connection_forgotten :
    ¬ forall world calls, (system (scriptedBeast getScript)).Reachable world ->
      (forall call, call ∈ calls -> PoolCall.Valid world call) -> Remembers world calls := by
  intro remembers
  have single := remembers (create 1) [⟨0, 7#128⟩] (.initially ⟨1, rfl⟩) (by
    intro call member
    rw [List.mem_singleton.mp member]
    exact ⟨by decide, by decide⟩)
  have recordedBy := (single [] ⟨0, 7#128⟩ [] rfl (create 1) [] rfl _ 0 rfl).1
  have found : 0 ∈ ([] : List Nat) := recordedBy.recorded
  exact absurd found List.not_mem_nil

end Downstream

end EasyProspect
