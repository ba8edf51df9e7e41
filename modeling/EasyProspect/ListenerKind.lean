import EasyProspect.ListenerSessions

namespace EasyProspect

/-!
# The TLS kind of a listener

A listener is given a configuration and builds its own from it.  For each connection that it
accepts it compares the kind in that one, and starts a plain session, a TLS session or a
detector, which reads the first bytes of the connection and starts one or the other.

What `async_detect_ssl` finds in the bytes that it has read is a parameter; it reads on as long
as that is indeterminate.
-/

inductive ListenerKind
  | none
  | noTls
  | allowTls
  | requireTls
deriving DecidableEq, Repr

def ListenerKind.toString : ListenerKind -> String
  | .allowTls => "allow_tls"
  | .noTls => "no_tls"
  | .requireTls => "require_tls"
  | .none => "none"

def strToListenerKind (kind : String) : ListenerKind :=
  if kind = "allow_tls" then .allowTls
  else if kind = "no_tls" then .noTls
  else if kind = "require_tls" then .requireTls
  else .none

/-- `easyprospect_config_service_listener_conf`. -/
structure ListenerConf where
  name : String
  address : String
  port : String
  minPort : String
  maxPort : String
  kind : String
deriving DecidableEq, Repr

/-- The configuration that the constructor of a listener keeps. -/
def ListenerConf.rebuild (cfg : ListenerConf) : ListenerConf :=
  { name := cfg.name
    address := cfg.address
    port := cfg.port
    minPort := cfg.minPort
    maxPort := cfg.maxPort
    kind := ListenerKind.allowTls.toString }

/-- A session or detector that is started for a connection; `decidedBy` are the first bytes,
where these were asked. -/
structure Launch where
  connection : Nat
  kind : SessionKind
  decidedBy : Option Octets
deriving DecidableEq, Repr

/-- A detector that waits for more bytes. -/
structure Detector where
  connection : Nat
  storage : Octets
deriving DecidableEq, Repr

/-- The coroutine of a listener: `on_start` begins it, and it waits in `async_accept`. -/
inductive AcceptLoop
  | created
  | accepting
  | ended
deriving DecidableEq, Repr

/-- `given` is the configuration that the constructor was called with. -/
structure TlsListener where
  given : ListenerConf
  cfg : ListenerConf
  acceptorOpen : Bool
  loop : AcceptLoop
  accepted : Nat
  detectors : List Detector
  launches : List Launch
deriving DecidableEq, Repr

inductive TlsListenerLabel
  | onStart
  /-- `async_accept` completes. -/
  | accept (ec : ErrorCode)
  /-- `do_stop` closes the acceptor. -/
  | close
  /-- A detector reads more of its connection. -/
  | receive (index : Nat) (bytes : Octets)
  | detectFails (index : Nat)
deriving DecidableEq

namespace TlsListener

/-- The constructor, and `open`. -/
def create (cfg : ListenerConf) : TlsListener where
  given := cfg
  cfg := cfg.rebuild
  acceptorOpen := true
  loop := .created
  accepted := 0
  detectors := []
  launches := []

variable (isTlsClientHello : Octets -> Option Bool) (listener : TlsListener)

def launch (connection : Nat) (kind : SessionKind) (decidedBy : Option Octets) : TlsListener :=
  { listener with launches := listener.launches ++ [⟨connection, kind, decidedBy⟩] }

def addDetector (connection : Nat) : TlsListener :=
  { listener with detectors := listener.detectors ++ [⟨connection, []⟩] }

def removeDetector (index : Nat) : TlsListener :=
  { listener with detectors := listener.detectors.eraseIdx index }

/-- What is started for a connection that was accepted. -/
def launchSession (connection : Nat) : TlsListener :=
  if listener.cfg.kind = "no_tls" then
    listener.launch connection .plain none
  else if listener.cfg.kind = "allow_tls" then
    (listener.addDetector connection).launch connection .detector none
  else
    listener.launch connection .ssl none

/-- The body of the accept loop, from a completion to the next `async_accept`. -/
def operator (ec : ErrorCode) : TlsListener :=
  if ec.isSome then { listener with loop := .ended }
  else if listener.acceptorOpen = false then { listener with loop := .ended }
  else { listener.launchSession listener.accepted with accepted := listener.accepted + 1 }

/-- The result of the detection over all that the detector has read. -/
def detect (detector : Detector) (index : Nat) (bytes : Octets) : TlsListener :=
  match isTlsClientHello (detector.storage ++ bytes) with
  | none =>
      { listener with
        detectors := listener.detectors.set index
          { detector with storage := detector.storage ++ bytes } }
  | some isTls =>
      (listener.removeDetector index).launch detector.connection
        (if isTls then .ssl else .plain) (some (detector.storage ++ bytes))

def step : TlsListenerLabel -> Option TlsListener
  | .onStart =>
      if listener.loop = .created then some { listener with loop := .accepting } else none
  | .accept ec =>
      if listener.loop = .accepting then some (listener.operator ec) else none
  | .close => some { listener with acceptorOpen := false }
  | .receive index bytes =>
      listener.detectors[index]?.map fun detector =>
        listener.detect isTlsClientHello detector index bytes
  | .detectFails index =>
      if index < listener.detectors.length then some (listener.removeDetector index) else none

/-- A listener is given one of the three kinds. -/
def system : Transition.System TlsListener TlsListenerLabel :=
  .ofStep
    (fun listener => Exists fun cfg =>
      strToListenerKind cfg.kind ≠ .none ∧ listener = create cfg)
    (step isTlsClientHello)

/-- The listener does as configured. -/
structure Enforced : Prop where
  requireTls : strToListenerKind listener.given.kind = .requireTls ->
    forall launch, launch ∈ listener.launches -> launch.kind ≠ .plain
  noTls : strToListenerKind listener.given.kind = .noTls ->
    forall launch, launch ∈ listener.launches -> launch.kind ≠ .detector ∧ launch.kind ≠ .ssl
  chosen : forall launch, launch ∈ listener.launches -> launch.decidedBy ≠ none ->
    strToListenerKind listener.given.kind = .allowTls

/-- What the detection finds when a detector reads more. -/
def found (index : Nat) (bytes : Octets) : Option Bool :=
  listener.detectors[index]?.bind fun detector => isTlsClientHello (detector.storage ++ bytes)

/-- With `no_tls` no connection is accepted, and with `require_tls` the first bytes of no
connection settle whether it is TLS. -/
def Unasked : TlsListenerLabel -> Prop
  | .accept none =>
      strToListenerKind listener.given.kind = .noTls -> listener.acceptorOpen = false
  | .receive index bytes =>
      strToListenerKind listener.given.kind = .requireTls ->
        listener.found isTlsClientHello index bytes = none
  | _ => True

instance (label : TlsListenerLabel) : Decidable (Unasked isTlsClientHello listener label) :=
  match label with
  | .accept none => inferInstanceAs (Decidable (_ -> _))
  | .receive _ _ => inferInstanceAs (Decidable (_ -> _))
  | .accept (some _) | .onStart | .close | .detectFails _ => inferInstanceAs (Decidable True)

/-! ## The invariant -/

/-- Unless the given kind is `allow_tls`, there are detectors and nothing else; with `no_tls`
there are none. -/
structure Kept : Prop where
  rebuilt : listener.cfg.kind = "allow_tls"
  given : strToListenerKind listener.given.kind ≠ .none
  asked : strToListenerKind listener.given.kind ≠ .allowTls ->
    forall launch, launch ∈ listener.launches ->
      launch.kind = .detector ∧ launch.decidedBy = none
  untouched : strToListenerKind listener.given.kind = .noTls ->
    listener.detectors = [] ∧ listener.launches = []

variable {isTlsClientHello} {listener} {next : TlsListener} {label : TlsListenerLabel}

theorem kept_create {cfg : ListenerConf} (given : strToListenerKind cfg.kind ≠ .none) :
    (create cfg).Kept where
  rebuilt := rfl
  given := given
  asked := fun _ _ => nofun
  untouched := fun _ => ⟨rfl, rfl⟩

/-- With the rebuilt configuration every connection gets a detector. -/
theorem launchSession_of_kept (kept : listener.Kept) (connection : Nat) :
    listener.launchSession connection =
      (listener.addDetector connection).launch connection .detector none := by
  rw [launchSession, kept.rebuilt, if_neg (by decide), if_pos rfl]

theorem operator_of_open (kept : listener.Kept) (isOpen : listener.acceptorOpen = true) :
    listener.operator none =
      { listener with
        accepted := listener.accepted + 1
        detectors := listener.detectors ++ [⟨listener.accepted, []⟩]
        launches := listener.launches ++ [⟨listener.accepted, .detector, none⟩] } := by
  rw [operator, if_neg nofun, if_neg (by rw [isOpen]; nofun), launchSession_of_kept kept]
  rfl

theorem operator_of_stopped {ec : ErrorCode}
    (stopped : ec.isSome = true ∨ listener.acceptorOpen = false) :
    listener.operator ec = { listener with loop := .ended } := by
  rw [operator]
  split
  · rfl
  · rename_i success
    rw [if_pos (stopped.resolve_left success)]

theorem kept_ended (kept : listener.Kept) (loop : AcceptLoop) :
    ({ listener with loop := loop } : TlsListener).Kept :=
  ⟨kept.rebuilt, kept.given, kept.asked, kept.untouched⟩

theorem kept_accept (kept : listener.Kept) (ec : ErrorCode)
    (unasked : listener.Unasked isTlsClientHello (.accept ec)) : (listener.operator ec).Kept := by
  by_cases stopped : ec.isSome = true ∨ listener.acceptorOpen = false
  · rw [operator_of_stopped stopped]
    exact kept_ended kept .ended
  · rcases not_or.mp stopped with ⟨success, isOpen⟩
    cases ec with
    | some error => exact absurd rfl success
    | none =>
        rw [operator_of_open kept (Bool.not_eq_false _ ▸ isOpen)]
        exact {
          rebuilt := kept.rebuilt
          given := kept.given
          asked := by
            intro other launch member
            rcases List.mem_append.mp member with old | new
            · exact kept.asked other launch old
            · cases List.mem_singleton.mp new
              exact ⟨rfl, rfl⟩
          untouched := fun noTls => absurd (unasked noTls) isOpen }

/-- A detector of a `require_tls` listener goes on reading; one of a `no_tls` listener there
is not. -/
theorem kept_detect (kept : listener.Kept) {detector : Detector} {index : Nat}
    (present : listener.detectors[index]? = some detector) (bytes : Octets)
    (unasked : listener.Unasked isTlsClientHello (.receive index bytes)) :
    (listener.detect isTlsClientHello detector index bytes).Kept := by
  have notNoTls : strToListenerKind listener.given.kind ≠ .noTls := by
    intro noTls
    rw [(kept.untouched noTls).1] at present
    cases present
  rw [detect]
  split
  · exact ⟨kept.rebuilt, kept.given, kept.asked, fun noTls => absurd noTls notNoTls⟩
  · rename_i isTls settled
    have found : listener.found isTlsClientHello index bytes = some isTls := by
      rw [TlsListener.found, present]
      exact settled
    have allowTls : strToListenerKind listener.given.kind = .allowTls := by
      cases kind : strToListenerKind listener.given.kind with
      | none => exact absurd kind kept.given
      | noTls => exact absurd kind notNoTls
      | allowTls => rfl
      | requireTls => exact nomatch found.symm.trans (unasked kind)
    exact ⟨kept.rebuilt, kept.given, fun other => absurd allowTls other,
      fun noTls => absurd noTls notNoTls⟩

theorem kept_step (kept : listener.Kept) (unasked : listener.Unasked isTlsClientHello label)
    (taken : listener.step isTlsClientHello label = some next) : next.Kept := by
  cases label with
  | onStart =>
      rcases Option.ite_none_right_eq_some.mp taken with ⟨_, ⟨⟩⟩
      exact kept_ended kept .accepting
  | accept ec =>
      rcases Option.ite_none_right_eq_some.mp taken with ⟨_, ⟨⟩⟩
      exact kept_accept kept ec unasked
  | close =>
      cases taken
      exact ⟨kept.rebuilt, kept.given, kept.asked, kept.untouched⟩
  | receive index bytes =>
      rcases Option.map_eq_some_iff.mp taken with ⟨detector, present, rfl⟩
      exact kept_detect kept present bytes unasked
  | detectFails index =>
      rcases Option.ite_none_right_eq_some.mp taken with ⟨_, ⟨⟩⟩
      refine ⟨kept.rebuilt, kept.given, kept.asked, fun noTls => ⟨?_, (kept.untouched noTls).2⟩⟩
      change listener.detectors.eraseIdx index = []
      rw [(kept.untouched noTls).1, List.eraseIdx_nil]

theorem kept_reachable
    (reachable : ((system isTlsClientHello).restrict (Unasked isTlsClientHello)).Reachable
      listener) : listener.Kept := by
  refine reachable.invariant ?_ ?_
  · rintro _ ⟨cfg, given, rfl⟩
    exact kept_create given
  · exact fun _ _ _ kept taken => kept_step kept taken.1 taken.2

theorem Kept.enforced (kept : listener.Kept) : listener.Enforced where
  requireTls := by
    intro requireTls launch member plain
    have asked := kept.asked (by rw [requireTls]; nofun) launch member
    exact nomatch plain.symm.trans asked.1
  noTls := by
    intro noTls launch member
    rw [(kept.untouched noTls).2] at member
    cases member
  chosen := by
    intro launch member decided
    by_contra other
    exact decided (kept.asked other launch member).2

/-- A `no_tls` listener that accepts a connection starts TLS detection. -/
theorem not_enforced_accept (kept : listener.Kept) (isOpen : listener.acceptorOpen = true)
    (noTls : strToListenerKind listener.given.kind = .noTls) :
    Not (listener.operator none).Enforced := by
  intro enforced
  rw [operator_of_open kept isOpen] at enforced
  exact (enforced.noTls noTls _ (List.mem_concat_self ..)).1 rfl

/-- A `require_tls` listener that settles on the first bytes has chosen by them. -/
theorem not_enforced_detect {detector : Detector} {index : Nat} {bytes : Octets} {isTls : Bool}
    (settled : isTlsClientHello (detector.storage ++ bytes) = some isTls)
    (requireTls : strToListenerKind listener.given.kind = .requireTls) :
    Not (listener.detect isTlsClientHello detector index bytes).Enforced := by
  intro enforced
  rw [detect, settled] at enforced
  have allowTls := enforced.chosen _ (List.mem_concat_self ..) nofun
  exact nomatch requireTls.symm.trans allowTls

/-- As long as the choice is not left to the first bytes where it should not be, the configured
kind is enforced; with the next step this stays so exactly if that one does not either. -/
theorem enforced_iff (isTlsClientHello : Octets -> Option Bool) (listener : TlsListener)
    (reachable : ((system isTlsClientHello).restrict (Unasked isTlsClientHello)).Reachable
      listener) :
    listener.Enforced ∧
      forall label next, listener.step isTlsClientHello label = some next ->
        (next.Enforced <-> listener.Unasked isTlsClientHello label) := by
  have kept := kept_reachable reachable
  refine ⟨kept.enforced, fun label next taken => ⟨fun enforced => ?_, fun unasked => ?_⟩⟩
  · cases label with
    | onStart | close | detectFails index => exact True.intro
    | accept ec =>
        rcases Option.ite_none_right_eq_some.mp taken with ⟨_, ⟨⟩⟩
        cases ec with
        | some error => exact True.intro
        | none =>
            intro noTls
            by_contra isOpen
            exact not_enforced_accept kept (Bool.not_eq_false _ ▸ isOpen) noTls enforced
    | receive index bytes =>
        rcases Option.map_eq_some_iff.mp taken with ⟨detector, present, rfl⟩
        intro requireTls
        rw [found, present]
        cases settled : isTlsClientHello (detector.storage ++ bytes) with
        | none => exact settled
        | some isTls => exact absurd enforced (not_enforced_detect settled requireTls)
  · exact (kept_step kept unasked taken).enforced

/-- A listener that takes what does not begin like a TLS record for plain. -/
def recordByte : Octets -> Option Bool
  | [] => none
  | byte :: _ => some (byte == 0x16)

def publicConf (kind : ListenerKind) : ListenerConf where
  name := "public"
  address := "127.0.0.1"
  port := "8080"
  minPort := ""
  maxPort := ""
  kind := kind.toString

/-- The first connection to an `allow_tls` listener sends "GET ", the second a TLS record. -/
def mixedLabels : List TlsListenerLabel :=
  [.onStart, .accept none, .accept none, .receive 1 [], .receive 0 [0x47, 0x45, 0x54, 0x20],
    .receive 0 [0x16, 0x03, 0x01]]

theorem mixed_taken : (Transition.System.execute
    (Transition.System.guarded (Unasked recordByte) (step recordByte))
    (create (publicConf .allowTls)) mixedLabels).isSome = true := by
  decide +kernel

def mixed : TlsListener :=
  (Transition.System.execute (Transition.System.guarded (Unasked recordByte) (step recordByte))
    (create (publicConf .allowTls)) mixedLabels).get mixed_taken

theorem mixed_reachable :
    ((system recordByte).restrict (Unasked recordByte)).Reachable mixed :=
  .of_execute_guarded ⟨publicConf .allowTls, by decide, rfl⟩ mixed_taken

theorem mixed_enforced :
    mixed.Enforced ∧
      mixed.launches = [⟨0, .detector, none⟩, ⟨1, .detector, none⟩,
        ⟨0, .plain, some [0x47, 0x45, 0x54, 0x20]⟩, ⟨1, .ssl, some [0x16, 0x03, 0x01]⟩] :=
  ⟨(enforced_iff recordByte mixed mixed_reachable).1, by decide +kernel⟩

/-- A connection to a `require_tls` listener that sends "GET ". -/
def plainLabels : List TlsListenerLabel :=
  [.onStart, .accept none, .receive 0 [0x47, 0x45, 0x54, 0x20]]

theorem plain_taken : (Transition.System.execute (step recordByte)
    (create (publicConf .requireTls)) plainLabels).isSome = true := by
  decide +kernel

def downgraded : TlsListener :=
  (Transition.System.execute (step recordByte) (create (publicConf .requireTls))
    plainLabels).get plain_taken

theorem downgraded_reachable : (system recordByte).Reachable downgraded :=
  .of_execute ⟨publicConf .requireTls, by decide, rfl⟩ plain_taken

theorem requireTls_downgrades :
    ¬ forall listener, (system recordByte).Reachable listener -> listener.Enforced := by
  intro all
  have plain : ⟨0, .plain, some [0x47, 0x45, 0x54, 0x20]⟩ ∈ downgraded.launches := by
    decide +kernel
  exact (all downgraded downgraded_reachable).requireTls (by decide +kernel) _ plain rfl

/-! ## Choices -/

/-- Every session that was chosen is the one that the first bytes of its connection call for. -/
def Decided (isTlsClientHello : Octets -> Option Bool) (listener : TlsListener) : Prop :=
  forall launch bytes, launch ∈ listener.launches -> launch.decidedBy = some bytes ->
    Exists fun isTls => isTlsClientHello bytes = some isTls ∧
      launch.kind = if isTls then .ssl else .plain

theorem decided_launch (decided : listener.Decided isTlsClientHello) {connection : Nat}
    {kind : SessionKind} {decidedBy : Option Octets}
    (right : forall bytes, decidedBy = some bytes -> Exists fun isTls =>
      isTlsClientHello bytes = some isTls ∧ kind = if isTls then .ssl else .plain) :
    (listener.launch connection kind decidedBy).Decided isTlsClientHello := by
  intro launch bytes member asked
  rcases List.mem_append.mp member with old | new
  · exact decided launch bytes old asked
  · cases List.mem_singleton.mp new
    exact right bytes asked

theorem decided_operator (decided : listener.Decided isTlsClientHello) (ec : ErrorCode) :
    (listener.operator ec).Decided isTlsClientHello := by
  rw [operator]
  split
  · exact decided
  · split
    · exact decided
    · change (listener.launchSession listener.accepted).Decided isTlsClientHello
      rw [launchSession]
      split
      · exact decided_launch decided fun _ => nofun
      · split
        · have added : (listener.addDetector listener.accepted).Decided isTlsClientHello := decided
          exact decided_launch added fun _ => nofun
        · exact decided_launch decided fun _ => nofun

/-- Whatever is configured, a choice by the first bytes follows them. -/
theorem decided_reachable (reachable : (system isTlsClientHello).Reachable listener) :
    listener.Decided isTlsClientHello := by
  refine reachable.invariant ?_ ?_
  · rintro _ ⟨cfg, _, rfl⟩ launch bytes member
    cases member
  · intro listener label next decided taken
    cases label with
    | onStart | accept ec | detectFails index =>
        rcases Option.ite_none_right_eq_some.mp taken with ⟨_, ⟨⟩⟩
        first | exact decided | exact decided_operator decided ec
    | close =>
        cases taken
        exact decided
    | receive index bytes =>
        rcases Option.map_eq_some_iff.mp taken with ⟨detector, _, rfl⟩
        rw [detect]
        split
        · exact decided
        · rename_i isTls settled
          have removed : (listener.removeDetector index).Decided isTlsClientHello := decided
          refine decided_launch removed ?_
          rintro _ ⟨⟩
          exact ⟨isTls, settled, rfl⟩

end TlsListener

end EasyProspect
