import EasyProspect.Beast
import EasyProspect.Library.Transition
import Mathlib.Data.List.Nodup

namespace EasyProspect

/-!
# The sessions of a listener

A session puts itself into `sessions_` in its constructor and takes itself out in its destructor.
`do_stop` takes weak pointers to all of them under the mutex, empties the set, and then calls
`on_stop` of one after the other that is still alive.
-/

inductive SessionKind
  | detector
  | plain
  | ssl
deriving DecidableEq, Repr

/-- `on_stop`.  A detector and a plain session post their own `do_stop`. -/
def SessionKind.onStop : SessionKind -> Except Exception Unit
  | .detector => .ok ()
  | .plain => .ok ()
  | .ssl => .error (.logicError "The method or operation is not implemented.")

inductive SessionLife
  | alive
  /-- The last pointer is gone, and the destructor has not come to `erase` yet. -/
  | expired
  | destroyed
deriving DecidableEq, Repr

structure ListenedSession where
  kind : SessionKind
  life : SessionLife
deriving DecidableEq, Repr

/-- How far `do_stop` is; the pointers that are still to be locked. -/
inductive DoStop
  | notCalled
  | stopping (rest : List Nat)
  | returned
  | thrown (exception : Exception)
deriving DecidableEq

/-- The pointers whose turn is still to come. -/
def DoStop.rest : DoStop -> List Nat
  | .stopping rest => rest
  | _ => []

/-- A session is named by how many were made before it.  `snapshot` are the sessions that
`do_stop` has found, `turns` those it has come to with what it found, `onStops` its calls. -/
structure ListenerSessions where
  acceptorOpen : Bool
  made : List ListenedSession
  sessions : List Nat
  doStop : DoStop
  snapshot : List Nat
  turns : List (Nat × SessionLife)
  onStops : List Nat
deriving DecidableEq

inductive ListenerLabel
  /-- A session is constructed; where it goes in the set depends on its address. -/
  | construct (kind : SessionKind) (index : Nat)
  | expire (session : Nat)
  | erase (session : Nat)
  /-- The first half of `do_stop`, up to the loop. -/
  | doStop
  /-- One round of the loop, or its end. -/
  | nextSession
deriving DecidableEq, Repr

namespace ListenerSessions

def create : ListenerSessions := ⟨true, [], [], .notCalled, [], [], []⟩

variable (listener : ListenerSessions)

def insert (session index : Nat) : ListenerSessions :=
  { listener with sessions := listener.sessions.insertIdx index session }

def erase (session : Nat) : ListenerSessions :=
  { listener with sessions := listener.sessions.erase session }

def setLife (session : Nat) (life : SessionLife) : ListenerSessions :=
  { listener with
    made := listener.made.modify session fun found => { found with life := life } }

def lifeOf (session : Nat) : Option SessionLife :=
  listener.made[session]?.map ListenedSession.life

/-- The acceptor is closed, and the weak pointers are taken. -/
def beginStop : ListenerSessions :=
  { listener with
    acceptorOpen := false
    snapshot := listener.sessions
    doStop := .stopping listener.sessions
    sessions := [] }

/-- The weak pointer is locked, and `on_stop` called if that gives a session. -/
def stopSession (session : Nat) (found : ListenedSession) (rest : List Nat) : ListenerSessions :=
  if found.life = .alive then
    { listener with
      turns := listener.turns ++ [(session, found.life)]
      onStops := listener.onStops ++ [session]
      doStop :=
        match found.kind.onStop with
        | .ok _ => .stopping rest
        | .error exception => .thrown exception }
  else
    { listener with
      turns := listener.turns ++ [(session, found.life)]
      doStop := .stopping rest }

def step : ListenerLabel -> Option ListenerSessions
  | .construct kind index =>
      if index ≤ listener.sessions.length then
        let made := { listener with made := listener.made ++ [ListenedSession.mk kind .alive] }
        some (made.insert listener.made.length index)
      else none
  | .expire session =>
      if listener.lifeOf session = some .alive then some (listener.setLife session .expired)
      else none
  | .erase session =>
      if listener.lifeOf session = some .expired then
        some ((listener.erase session).setLife session .destroyed)
      else none
  | .doStop =>
      if listener.doStop = .notCalled then some listener.beginStop else none
  | .nextSession =>
      match listener.doStop with
      | .stopping [] => some { listener with doStop := .returned }
      | .stopping (session :: rest) =>
          listener.made[session]?.map fun found => listener.stopSession session found rest
      | _ => none

def system : Transition.System ListenerSessions ListenerLabel :=
  .ofStep (fun listener => listener = create) step

/-- The session that the loop comes to next. -/
def atTurn : Option ListenedSession :=
  match listener.doStop with
  | .stopping (session :: _) => listener.made[session]?
  | _ => none

/-- The loop does not come to a TLS session that is alive. -/
def NoLiveSsl (label : ListenerLabel) : Prop :=
  label = .nextSession -> listener.atTurn ≠ some ⟨.ssl, .alive⟩

instance (label : ListenerLabel) : Decidable (listener.NoLiveSsl label) :=
  inferInstanceAs (Decidable (_ -> _))

/-- `do_stop` ends without an exception; each session that it has found has its turn, and gets
`on_stop` once if it is alive then; a session that is not alive does not get it; and the set
holds no session that is destroyed. -/
structure StopsAll : Prop where
  completes : forall exception, listener.doStop ≠ .thrown exception
  taken : forall session, session ∈ listener.snapshot -> session ∈ listener.doStop.rest ∨
    Exists fun life => (session, life) ∈ listener.turns
  once : forall session life, (session, life) ∈ listener.turns ->
    listener.onStops.count session = if life = .alive then 1 else 0
  others : forall session, session ∈ listener.onStops -> (session, .alive) ∈ listener.turns
  registered : forall session, session ∈ listener.sessions ->
    Exists fun life => listener.lifeOf session = some life ∧ life ≠ .destroyed

/-! ## The invariant -/

/-- The sessions in the set are known and not destroyed; what `do_stop` has found is what it has
come to and what it will come to. -/
structure Kept : Prop where
  completes : forall exception, listener.doStop ≠ .thrown exception
  registered : forall session, session ∈ listener.sessions ->
    Exists fun life => listener.lifeOf session = some life ∧ life ≠ .destroyed
  distinct : listener.sessions.Nodup
  found : listener.snapshot = listener.turns.map Prod.fst ++ listener.doStop.rest
  foundDistinct : listener.snapshot.Nodup
  known : forall session, session ∈ listener.snapshot -> session < listener.made.length
  called : listener.onStops =
    (listener.turns.filter fun turn => turn.2 = .alive).map Prod.fst
  before : listener.doStop = .notCalled -> listener.turns = []

variable {listener} {next : ListenerSessions} {label : ListenerLabel}

theorem atTurn_of_stopping {session : Nat} {rest : List Nat}
    (stopping : listener.doStop = .stopping (session :: rest)) :
    listener.atTurn = listener.made[session]? := by
  simp only [atTurn, stopping]

theorem stopping_of_atTurn {found : ListenedSession} (turn : listener.atTurn = some found) :
    Exists fun session => Exists fun rest => listener.doStop = .stopping (session :: rest) ∧
      listener.made[session]? = some found := by
  rw [atTurn] at turn
  split at turn
  · rename_i session rest stopping
    exact ⟨session, rest, stopping, turn⟩
  · cases turn

theorem lifeOf_lt {session : Nat} {life : SessionLife}
    (found : listener.lifeOf session = some life) : session < listener.made.length := by
  rcases Option.map_eq_some_iff.mp found with ⟨_, present, _⟩
  exact (List.getElem?_eq_some_iff.mp present).1

theorem lifeOf_setLife (session other : Nat) (life : SessionLife) :
    (listener.setLife session life).lifeOf other =
      if session = other then (listener.lifeOf other).map fun _ => life
      else listener.lifeOf other := by
  rw [lifeOf, setLife, List.getElem?_modify, lifeOf]
  split
  · cases listener.made[other]? <;> rfl
  · cases listener.made[other]? <;> rfl

theorem length_setLife (session : Nat) (life : SessionLife) :
    (listener.setLife session life).made.length = listener.made.length :=
  List.length_modify _ _ _

theorem kept_construct (kept : listener.Kept) (kind : SessionKind) {index : Nat}
    (within : index ≤ listener.sessions.length) :
    (ListenerSessions.insert { listener with made := listener.made ++ [⟨kind, .alive⟩] }
      listener.made.length index).Kept where
  completes := kept.completes
  registered := by
    intro session member
    rcases (List.mem_insertIdx within).mp member with rfl | old
    · refine ⟨.alive, ?_, nofun⟩
      rw [lifeOf, insert, List.getElem?_concat_length]
      rfl
    · rcases kept.registered session old with ⟨life, found, present⟩
      refine ⟨life, ?_, present⟩
      rw [lifeOf, insert, List.getElem?_append_left (lifeOf_lt found)]
      exact found
  distinct := by
    refine (List.perm_insertIdx _ _ within).nodup_iff.mpr (List.nodup_cons.mpr ⟨?_, kept.distinct⟩)
    intro member
    rcases kept.registered _ member with ⟨life, found, _⟩
    exact Nat.lt_irrefl _ (lifeOf_lt found)
  found := kept.found
  foundDistinct := kept.foundDistinct
  known := by
    intro session member
    rw [insert, List.length_append]
    exact Nat.lt_add_right _ (kept.known session member)
  called := kept.called
  before := kept.before

/-- A session that is not destroyed may go on to the end of its life. -/
theorem kept_expire (kept : listener.Kept) (session : Nat) :
    (listener.setLife session .expired).Kept where
  completes := kept.completes
  registered := by
    intro other member
    rcases kept.registered other member with ⟨life, found, present⟩
    rw [lifeOf_setLife]
    split
    · refine ⟨.expired, ?_, nofun⟩
      rw [found]
      rfl
    · exact ⟨life, found, present⟩
  distinct := kept.distinct
  found := kept.found
  foundDistinct := kept.foundDistinct
  known := by
    rw [length_setLife]
    exact kept.known
  called := kept.called
  before := kept.before

theorem kept_erase (kept : listener.Kept) (session : Nat) :
    ((listener.erase session).setLife session .destroyed).Kept where
  completes := kept.completes
  registered := by
    intro other member
    have old : other ≠ session ∧ other ∈ listener.sessions :=
      kept.distinct.mem_erase_iff.mp member
    rcases kept.registered other old.2 with ⟨life, found, present⟩
    rw [lifeOf_setLife, if_neg old.1.symm]
    exact ⟨life, found, present⟩
  distinct := kept.distinct.erase session
  found := kept.found
  foundDistinct := kept.foundDistinct
  known := by
    rw [length_setLife]
    exact kept.known
  called := kept.called
  before := kept.before

theorem kept_beginStop (kept : listener.Kept) (notCalled : listener.doStop = .notCalled) :
    listener.beginStop.Kept where
  completes := nofun
  registered := fun _ => nofun
  distinct := List.nodup_nil
  found := by
    change listener.sessions = listener.turns.map Prod.fst ++ listener.sessions
    rw [kept.before notCalled]
    rfl
  foundDistinct := kept.distinct
  known := by
    intro session member
    rcases kept.registered session member with ⟨life, found, _⟩
    exact lifeOf_lt found
  called := kept.called
  before := nofun

theorem onStop_ok {kind : SessionKind} (other : kind ≠ .ssl) : kind.onStop = .ok () := by
  cases kind with
  | detector => rfl
  | plain => rfl
  | ssl => exact absurd rfl other

theorem stopSession_made (listener : ListenerSessions) (session : Nat) (found : ListenedSession)
    (rest : List Nat) :
    (listener.stopSession session found rest).made = listener.made := by
  rw [stopSession]
  split <;> rfl

/-- The loop goes on after a round that does not come to a live TLS session. -/
theorem stopSession_stopping {session : Nat} {found : ListenedSession} {rest : List Nat}
    (other : found ≠ ⟨.ssl, .alive⟩) :
    (listener.stopSession session found rest).doStop = .stopping rest := by
  rw [stopSession]
  split
  · rename_i alive
    have kind : found.kind ≠ .ssl := by
      intro ssl
      refine other ?_
      cases found
      cases ssl
      cases alive
      rfl
    rw [onStop_ok kind]
  · rfl

/-- One round of the loop that does not come to a live TLS session. -/
theorem kept_stopSession (kept : listener.Kept) {session : Nat} {rest : List Nat}
    (stopping : listener.doStop = .stopping (session :: rest)) {found : ListenedSession}
    (other : found ≠ ⟨.ssl, .alive⟩) : (listener.stopSession session found rest).Kept := by
  have goesOn : (listener.stopSession session found rest).doStop = .stopping rest :=
    stopSession_stopping other
  have snapshot : listener.snapshot =
      (listener.turns ++ [(session, found.life)]).map Prod.fst ++ rest := by
    rw [kept.found, stopping, List.map_append, List.append_assoc]
    rfl
  rw [stopSession] at goesOn ⊢
  by_cases alive : found.life = .alive
  · rw [if_pos alive] at goesOn ⊢
    exact {
      completes := fun exception thrown => nomatch goesOn.symm.trans thrown
      registered := kept.registered
      distinct := kept.distinct
      found := by
        rw [goesOn]
        exact snapshot
      foundDistinct := kept.foundDistinct
      known := kept.known
      called := by
        rw [List.filter_append, List.map_append, ← kept.called,
          List.filter_cons_of_pos (by simpa using alive)]
        rfl
      before := fun notCalled => nomatch goesOn.symm.trans notCalled }
  · rw [if_neg alive]
    exact {
      completes := nofun
      registered := kept.registered
      distinct := kept.distinct
      found := snapshot
      foundDistinct := kept.foundDistinct
      known := kept.known
      called := by
        rw [List.filter_append, List.filter_cons_of_neg (by simpa using alive), List.filter_nil,
          List.append_nil]
        exact kept.called
      before := nofun }

theorem kept_returned (kept : listener.Kept) (stopping : listener.doStop = .stopping []) :
    ({ listener with doStop := .returned } : ListenerSessions).Kept where
  completes := nofun
  registered := kept.registered
  distinct := kept.distinct
  found := by
    rw [kept.found, stopping]
    rfl
  foundDistinct := kept.foundDistinct
  known := kept.known
  called := kept.called
  before := nofun

theorem kept_step (kept : listener.Kept) (other : listener.NoLiveSsl label)
    (taken : listener.step label = some next) : next.Kept := by
  cases label with
  | construct kind index =>
      simp only [step] at taken
      split at taken
      · cases taken
        exact kept_construct kept kind (by assumption)
      · cases taken
  | expire session =>
      simp only [step] at taken
      split at taken
      · cases taken
        exact kept_expire kept session
      · cases taken
  | erase session =>
      simp only [step] at taken
      split at taken
      · cases taken
        exact kept_erase kept session
      · cases taken
  | doStop =>
      simp only [step] at taken
      split at taken
      · cases taken
        exact kept_beginStop kept (by assumption)
      · cases taken
  | nextSession =>
      cases stopping : listener.doStop with
      | stopping rest =>
          cases rest with
          | nil =>
              simp only [step, stopping] at taken
              cases taken
              exact kept_returned kept stopping
          | cons session rest =>
              simp only [step, stopping] at taken
              rcases Option.map_eq_some_iff.mp taken with ⟨found, present, rfl⟩
              refine kept_stopSession kept stopping ?_
              rintro rfl
              exact other rfl ((atTurn_of_stopping stopping).trans present)
      | notCalled | returned | thrown exception =>
          simp only [step, stopping] at taken
          cases taken

theorem kept_reachable (reachable : (system.restrict NoLiveSsl).Reachable listener) :
    listener.Kept := by
  refine reachable.invariant ?_ ?_
  · rintro _ rfl
    exact ⟨nofun, fun _ => nofun, List.nodup_nil, rfl, List.nodup_nil, fun _ => nofun, rfl,
      fun _ => rfl⟩
  · exact fun _ _ _ kept taken => kept_step kept taken.1 taken.2

/-- Among turns of different sessions, a session is counted once if it was found alive. -/
theorem count_alive {turns : List (Nat × SessionLife)} (distinct : (turns.map Prod.fst).Nodup)
    {session : Nat} {life : SessionLife} (turn : (session, life) ∈ turns) :
    ((turns.filter fun turn => turn.2 = .alive).map Prod.fst).count session =
      if life = .alive then 1 else 0 := by
  have sublist : ((turns.filter fun turn => turn.2 = .alive).map Prod.fst).Sublist
      (turns.map Prod.fst) := List.filter_sublist.map Prod.fst
  by_cases alive : life = .alive
  · rw [if_pos alive]
    refine List.count_eq_one_of_mem (distinct.sublist sublist) ?_
    exact List.mem_map.mpr ⟨_, List.mem_filter.mpr ⟨turn, decide_eq_true alive⟩, rfl⟩
  · rw [if_neg alive]
    refine List.count_eq_zero.mpr fun member => ?_
    rcases List.mem_map.mp member with ⟨⟨_, found⟩, called, rfl⟩
    rcases List.mem_filter.mp called with ⟨called, foundAlive⟩
    cases List.inj_on_of_nodup_map distinct turn called rfl
    exact alive (of_decide_eq_true foundAlive)

/-- What the invariant says about the sessions that `do_stop` has found. -/
theorem Kept.stopsAll (kept : listener.Kept) : listener.StopsAll where
  completes := kept.completes
  taken := by
    intro session member
    rw [kept.found, List.mem_append] at member
    rcases member with passed | later
    · rcases List.mem_map.mp passed with ⟨⟨_, life⟩, turn, rfl⟩
      exact Or.inr ⟨life, turn⟩
    · exact Or.inl later
  once := by
    intro session life turn
    have distinct : (listener.turns.map Prod.fst).Nodup := by
      have all := kept.foundDistinct
      rw [kept.found] at all
      exact (List.nodup_append.mp all).1
    rw [kept.called]
    exact count_alive distinct turn
  others := by
    intro session member
    rw [kept.called] at member
    rcases List.mem_map.mp member with ⟨⟨_, life⟩, turn, rfl⟩
    rcases List.mem_filter.mp turn with ⟨turn, alive⟩
    have same : life = .alive := of_decide_eq_true alive
    rw [← same]
    exact turn
  registered := kept.registered

/-- A round that comes to a live TLS session ends `do_stop` with an exception. -/
theorem thrown_stopSession {session : Nat} {rest : List Nat} :
    (listener.stopSession session ⟨.ssl, .alive⟩ rest).doStop =
      .thrown (.logicError "The method or operation is not implemented.") := rfl

/-- Where the rest of the loop has no live TLS session, it comes to its end. -/
theorem loop_returns {rest : List Nat} (stopping : listener.doStop = .stopping rest)
    (known : forall session, session ∈ rest -> session < listener.made.length)
    (other : forall session, session ∈ rest -> listener.made[session]? ≠ some ⟨.ssl, .alive⟩) :
    Exists fun last =>
      system.Run listener (List.replicate (rest.length + 1) .nextSession) last ∧
        last.doStop = .returned := by
  induction rest generalizing listener with
  | nil =>
      refine ⟨{ listener with doStop := .returned }, .single ?_, rfl⟩
      change listener.step .nextSession = _
      simp only [step, stopping]
  | cons session rest inductionHypothesis =>
      have exists_found : Exists fun found => listener.made[session]? = some found :=
        ⟨_, List.getElem?_eq_getElem (known session List.mem_cons_self)⟩
      rcases exists_found with ⟨found, present⟩
      have taken : listener.step .nextSession =
          some (listener.stopSession session found rest) := by
        simp only [step, stopping, present, Option.map_some]
      have notSsl : found ≠ ⟨.ssl, .alive⟩ := by
        rintro rfl
        exact other session List.mem_cons_self present
      have same := listener.stopSession_made session found rest
      have others : Exists fun last => system.Run (listener.stopSession session found rest)
          (List.replicate (rest.length + 1) .nextSession) last ∧ last.doStop = .returned := by
        refine inductionHypothesis (stopSession_stopping notSsl) ?_ ?_
        · rw [same]
          exact fun later member => known later (List.mem_cons_of_mem session member)
        · rw [same]
          exact fun later member => other later (List.mem_cons_of_mem session member)
      rcases others with ⟨last, run, returned⟩
      have first : system.Run listener [.nextSession] _ := .single taken
      exact ⟨last, first.trans run, returned⟩

/-- As long as the loop does not come to a live TLS session, every session is reached, and the
loop comes to its end if the sessions before it are none; with the next step this stays so
exactly if that one does not either. -/
theorem stopsAll_iff (listener : ListenerSessions)
    (reachable : (system.restrict NoLiveSsl).Reachable listener) :
    listener.StopsAll ∧
      (forall rest, listener.doStop = .stopping rest ->
        (forall session, session ∈ rest -> listener.made[session]? ≠ some ⟨.ssl, .alive⟩) ->
          Exists fun last =>
            system.Run listener (List.replicate (rest.length + 1) .nextSession) last ∧
              last.doStop = .returned) ∧
      forall label next, listener.step label = some next ->
        (next.StopsAll <-> listener.NoLiveSsl label) := by
  have kept := kept_reachable reachable
  refine ⟨kept.stopsAll, fun rest stopping other => loop_returns stopping ?_ other, ?_⟩
  · intro session member
    refine kept.known session ?_
    rw [kept.found, stopping]
    exact List.mem_append_right _ member
  · intro label next taken
    constructor
    · rintro all rfl turn
      rcases stopping_of_atTurn turn with ⟨session, rest, stopping, present⟩
      simp only [step, stopping, present] at taken
      cases taken
      exact all.completes _ thrown_stopSession
    · exact fun other => (kept_step kept other taken).stopsAll

/-- A TLS session that is gone before its turn, between two others. -/
def spareLabels : List ListenerLabel :=
  [.construct .detector 0, .construct .ssl 1, .construct .plain 2, .doStop, .nextSession,
    .expire 1, .nextSession]

theorem spare_taken : (Transition.System.execute (Transition.System.guarded NoLiveSsl step) create
    spareLabels).isSome = true := by
  decide

def spare : ListenerSessions :=
  (Transition.System.execute (Transition.System.guarded NoLiveSsl step) create
    spareLabels).get spare_taken

theorem spare_reachable : (system.restrict NoLiveSsl).Reachable spare := by
  refine .of_execute_guarded ?_ spare_taken
  rfl

theorem spare_stopsAll : spare.StopsAll ∧ spare.doStop = .stopping [2] :=
  ⟨(stopsAll_iff spare spare_reachable).1, by decide⟩

/-- The loop comes to a TLS session first, and the session behind it never has its turn. -/
def brokenLabels : List ListenerLabel :=
  [.construct .ssl 0, .construct .plain 1, .doStop, .nextSession]

theorem broken_taken :
    (Transition.System.execute step create brokenLabels).isSome = true := by
  decide

def broken : ListenerSessions :=
  (Transition.System.execute step create brokenLabels).get broken_taken

theorem broken_reachable : system.Reachable broken := by
  refine .of_execute ?_ broken_taken
  rfl

theorem doStop_throws : ¬ forall listener, system.Reachable listener -> listener.StopsAll := by
  intro all
  have thrown : broken.doStop =
      .thrown (.logicError "The method or operation is not implemented.") := by decide +kernel
  exact (all broken broken_reachable).completes _ thrown

end ListenerSessions

end EasyProspect
