import EasyProspect.ListenerKind
import EasyProspect.Library.Transition

namespace EasyProspect

/-!
# The ports of a worker's listeners

`run_listener` makes a listener from its configuration, opens it, and keeps it if that succeeds.
`open` binds to the explicit port, or looks for a port in a range; each port that is bound is
written to the registry that all listeners share.

An acceptor of asio is modelled by what these functions do to it.  A `Network` is what the
system answers during one call of `open`; what `make_address` makes of a text is a parameter.
-/

/-! ## Numbers in a text -/

/-- `isspace` in the C locale. -/
def isSpace (char : Char) : Bool :=
  char = ' ' || (9 ≤ char.toNat && char.toNat ≤ 13)

def digitsValue (digits : List Char) : Int :=
  digits.foldl (fun value digit => 10 * value + (digit.toNat - '0'.toNat : Nat)) 0

/-- The decimal number at the beginning of a text, after white space. -/
def leadingNumber (text : String) : Option Int :=
  match text.toList.dropWhile isSpace with
  | '-' :: rest => unsigned rest |>.map Neg.neg
  | '+' :: rest => unsigned rest
  | rest => unsigned rest
where
  unsigned (rest : List Char) : Option Int :=
    match rest.takeWhile Char.isDigit with
    | [] => none
    | digits => some (digitsValue digits)

/-- The range of `int`. -/
def fitsInt (number : Int) : Bool :=
  -2147483648 ≤ number && number < 2147483648

/-- What leaves `open` as an exception. -/
inductive OpenException
  | invalidAddress
  | systemError (value : Nat)
  | invalidArgument
  | outOfRange
  | logicError (what : String)
deriving DecidableEq

/-- `portStream >> port`. -/
def streamInt (text : String) : Option Int :=
  (leadingNumber text).filter fitsInt

def stoi (text : String) : Except OpenException Int :=
  match leadingNumber text with
  | none => .error .invalidArgument
  | some number => if fitsInt number then .ok number else .error .outOfRange

/-! ## Acceptors -/

structure Endpoint (Address : Type) where
  address : Address
  port : UInt16
deriving DecidableEq

structure Acceptor (Address : Type) where
  isOpen : Bool
  bound : Option (Endpoint Address)
  listening : Bool
deriving DecidableEq

/-- What the system answers during a call of `open`. -/
structure Network (Address : Type) where
  /-- The error of opening a socket of the family of the address. -/
  openError : Address -> Option Nat
  optionError : Option Nat
  taken : Endpoint Address -> Bool
  /-- The port that binding to port 0 gives. -/
  ephemeral : Address -> Option UInt16
  listenError : Option Nat
  /-- Where the system binds a socket that listens and was not bound, if it does. -/
  autobind : Option (Endpoint Address)
  autobind_free : forall endpoint, autobind = some endpoint -> taken endpoint = false

section

variable {Address : Type}

/-- Where binding to an endpoint ends. -/
def Network.bindTo (network : Network Address) (endpoint : Endpoint Address) :
    Option (Endpoint Address) :=
  if endpoint.port = 0 then (network.ephemeral endpoint.address).map (Endpoint.mk endpoint.address)
  else if network.taken endpoint then none
  else some endpoint

namespace Acceptor

def closed : Acceptor Address := ⟨false, none, false⟩

variable (acceptor : Acceptor Address) (network : Network Address)

/-- An acceptor that is open fails with `already_open`. -/
def openSocket (address : Address) : Option (Acceptor Address) :=
  if acceptor.isOpen then none
  else
    match network.openError address with
    | some _ => none
    | none => some { acceptor with isOpen := true }

def bind (endpoint : Endpoint Address) : Option (Acceptor Address) :=
  if acceptor.isOpen = false ∨ acceptor.bound.isSome then none
  else (network.bindTo endpoint).map fun bound => { acceptor with bound := some bound }

def listen : Option (Acceptor Address) :=
  if acceptor.isOpen = false then none
  else
    match acceptor.bound with
    | some _ =>
        match network.listenError with
        | some _ => none
        | none => some { acceptor with listening := true }
    | none =>
        network.autobind.map fun endpoint =>
          { acceptor with bound := some endpoint, listening := true }

end Acceptor

/-! ## The listener -/

/-- The acceptor of one listener, and `port_` of the shared registry. -/
structure Opening (Address : Type) where
  acceptor : Acceptor Address
  ports : List Int
deriving DecidableEq

variable (network : Network Address)

/-- `open_port`.  The error code is a copy, so that only the result is seen outside. -/
def openPort (address : Address) (port : Int) (opening : Opening Address) :
    Opening Address × Except OpenException Bool :=
  match opening.acceptor.openSocket network address with
  | none => (opening, .ok false)
  | some opened =>
      match network.optionError with
      | some error => ({ opening with acceptor := opened }, .error (.systemError error))
      | none =>
          match opened.bind network ⟨address, UInt16.ofInt port⟩ with
          | none => ({ opening with acceptor := opened }, .ok false)
          | some bound => ({ acceptor := bound, ports := [port] }, .ok true)

/-- The loop over the ports of a range. -/
def openFirst (address : Address) :
    List Int -> Opening Address -> Opening Address × Except OpenException Bool
  | [], opening => (opening, .ok false)
  | port :: ports, opening =>
      match openPort network address port opening with
      | (next, .ok false) => openFirst address ports next
      | tried => tried

def portRange (minPort maxPort : Int) : List Int :=
  (List.range (maxPort - minPort + 1).toNat).map fun offset : Nat => minPort + offset

/-- The two ends of the range, as `open` reads and checks them. -/
def readRange (cfg : ListenerConf) : Except OpenException (Int × Int) := do
  let minPort <- stoi cfg.minPort
  let maxPort <- stoi cfg.maxPort
  if minPort < 1 ∨ minPort ≥ 65535 then
    throw (.logicError s!"Error: invalid minimum port {minPort}\n")
  if maxPort < minPort ∨ maxPort ≥ 65535 then
    throw (.logicError s!"Error: invalid maximum port {maxPort}\n")
  return (minPort, maxPort)

/-- The end of `open`. -/
def startListening (opening : Opening Address) :
    Opening Address × Except OpenException Bool :=
  match opening.acceptor.listen network with
  | none => (opening, .ok false)
  | some listening => ({ opening with acceptor := listening }, .ok true)

/-- `listener_impl::open`. -/
def openListener (makeAddress : String -> Option Address) (cfg : ListenerConf)
    (opening : Opening Address) : Opening Address × Except OpenException Bool :=
  match makeAddress cfg.address with
  | none => (opening, .error .invalidAddress)
  | some address =>
      match streamInt cfg.port with
      | some port =>
          match openPort network address port opening with
          | (next, .error exception) => (next, .error exception)
          | (next, .ok _) => startListening network next
      | none =>
          match readRange cfg with
          | .error exception => (opening, .error exception)
          | .ok (minPort, maxPort) =>
              match openFirst network address (portRange minPort maxPort) opening with
              | (next, .error exception) => (next, .error exception)
              | (next, .ok false) =>
                  (next, .error (.logicError
                    s!"Error: Ran out of ports in range {minPort} and {maxPort}\n"))
              | (next, .ok true) => startListening network next

end

/-- A listener that opened; `given` is the configuration that `run_listener` got. -/
structure OpenListener (Address : Type) where
  given : ListenerConf
  acceptor : Acceptor Address
deriving DecidableEq

/-- The port that the acceptor is bound to. -/
def OpenListener.port {Address : Type} (listener : OpenListener Address) : Option Int :=
  listener.acceptor.bound.map fun endpoint => endpoint.port.toNat

/-- `ports` is what `get_ports` of the registry returns, `listeners` what the server keeps. -/
structure WorkerPorts (Address : Type) where
  ports : List Int
  listeners : List (OpenListener Address)
deriving DecidableEq

namespace WorkerPorts

variable {Address : Type}

def create : WorkerPorts Address := ⟨[], []⟩

/-- `run_listener`. -/
def runListener (makeAddress : String -> Option Address) (worker : WorkerPorts Address)
    (cfg : ListenerConf) (network : Network Address) :
    WorkerPorts Address × Except OpenException Bool :=
  match openListener network makeAddress cfg.rebuild ⟨.closed, worker.ports⟩ with
  | (opening, .ok true) =>
      ({ ports := opening.ports
         listeners := worker.listeners ++ [⟨cfg, opening.acceptor⟩] }, .ok true)
  | (opening, result) => ({ worker with ports := opening.ports }, result)

/-! ## What a call leaves -/

/-- The port that `open` tries first. -/
def firstPort (cfg : ListenerConf) : Option Int :=
  match streamInt cfg.port with
  | some port => some port
  | none =>
      match readRange cfg with
      | .ok (minPort, _) => some minPort
      | .error _ => none

/-- The address and the port of the first `bind`, if `open` comes to one. -/
def firstBind (makeAddress : String -> Option Address) (cfg : ListenerConf)
    (network : Network Address) : Option (Address × Int) :=
  match makeAddress cfg.address, firstPort cfg with
  | some address, some port =>
      if network.openError address = none ∧ network.optionError = none then some (address, port)
      else none
  | _, _ => none

/-- What a call of `run_listener` comes to, without the acceptor and the loop. -/
def afterCall (makeAddress : String -> Option Address) (worker : WorkerPorts Address)
    (cfg : ListenerConf) (network : Network Address) : WorkerPorts Address :=
  match firstBind makeAddress cfg network with
  | none => worker
  | some (address, port) =>
      match network.bindTo ⟨address, UInt16.ofInt port⟩ with
      | some endpoint =>
          match network.listenError with
          | none =>
              { ports := [port]
                listeners := worker.listeners ++ [⟨cfg, ⟨true, some endpoint, true⟩⟩] }
          | some _ => { worker with ports := [port] }
      | none =>
          match streamInt cfg.port, network.autobind with
          | some _, some endpoint =>
              { worker with
                listeners := worker.listeners ++ [⟨cfg, ⟨true, some endpoint, true⟩⟩] }
          | _, _ => worker

section

variable {network : Network Address} {address : Address} {ports : List Int}

/-- `open_port` on an acceptor that is open fails at once. -/
theorem openPort_of_isOpen {opening : Opening Address} (isOpen : opening.acceptor.isOpen = true)
    (port : Int) : openPort network address port opening = (opening, .ok false) := by
  rw [openPort, Acceptor.openSocket, if_pos isOpen]

theorem openPort_of_openError {error : Nat} (failed : network.openError address = some error)
    (port : Int) :
    openPort network address port ⟨.closed, ports⟩ = (⟨.closed, ports⟩, .ok false) := by
  rw [openPort, Acceptor.openSocket, if_neg nofun, failed]

theorem openSocket_closed (opened : network.openError address = none) :
    Acceptor.closed.openSocket network address = some ⟨true, none, false⟩ := by
  rw [Acceptor.openSocket, if_neg nofun, opened]
  rfl

theorem openPort_of_optionError (opened : network.openError address = none) {error : Nat}
    (failed : network.optionError = some error) (port : Int) :
    openPort network address port ⟨.closed, ports⟩ =
      (⟨⟨true, none, false⟩, ports⟩, .error (.systemError error)) := by
  simp only [openPort, openSocket_closed opened, failed]

theorem openPort_of_taken (opened : network.openError address = none)
    (set : network.optionError = none) {port : Int}
    (taken : network.bindTo ⟨address, UInt16.ofInt port⟩ = none) :
    openPort network address port ⟨.closed, ports⟩ =
      (⟨⟨true, none, false⟩, ports⟩, .ok false) := by
  simp [openPort, openSocket_closed opened, set, Acceptor.bind, taken]

theorem openPort_of_bound (opened : network.openError address = none)
    (set : network.optionError = none) {port : Int} {endpoint : Endpoint Address}
    (bound : network.bindTo ⟨address, UInt16.ofInt port⟩ = some endpoint) :
    openPort network address port ⟨.closed, ports⟩ =
      (⟨⟨true, some endpoint, false⟩, [port]⟩, .ok true) := by
  simp [openPort, openSocket_closed opened, set, Acceptor.bind, bound]

/-- After a port that was taken every other port of the range fails too. -/
theorem openFirst_of_isOpen {opening : Opening Address} (isOpen : opening.acceptor.isOpen = true)
    (range : List Int) : openFirst network address range opening = (opening, .ok false) := by
  induction range with
  | nil => rfl
  | cons port range inductionHypothesis =>
      rw [openFirst, openPort_of_isOpen isOpen]
      exact inductionHypothesis

theorem openFirst_of_openError {error : Nat} (failed : network.openError address = some error)
    (range : List Int) :
    openFirst network address range ⟨.closed, ports⟩ = (⟨.closed, ports⟩, .ok false) := by
  induction range with
  | nil => rfl
  | cons port range inductionHypothesis =>
      rw [openFirst, openPort_of_openError failed]
      exact inductionHypothesis

theorem startListening_bound (endpoint : Endpoint Address) :
    startListening network ⟨⟨true, some endpoint, false⟩, ports⟩ =
      match network.listenError with
      | none => (⟨⟨true, some endpoint, true⟩, ports⟩, .ok true)
      | some _ => (⟨⟨true, some endpoint, false⟩, ports⟩, .ok false) := by
  rw [startListening, Acceptor.listen, if_neg nofun]
  cases network.listenError <;> rfl

theorem startListening_unbound :
    startListening network (⟨⟨true, none, false⟩, ports⟩ : Opening Address) =
      match network.autobind with
      | some endpoint => (⟨⟨true, some endpoint, true⟩, ports⟩, .ok true)
      | none => (⟨⟨true, none, false⟩, ports⟩, .ok false) := by
  rw [startListening, Acceptor.listen, if_neg nofun]
  cases network.autobind <;> rfl

theorem readRange_ok {cfg : ListenerConf} {minPort maxPort : Int}
    (read : readRange cfg = .ok (minPort, maxPort)) :
    1 ≤ minPort ∧ minPort ≤ maxPort ∧ maxPort < 65535 := by
  rw [readRange] at read
  cases first : stoi cfg.minPort with
  | error exception =>
      rw [first] at read
      cases read
  | ok low =>
      cases second : stoi cfg.maxPort with
      | error exception =>
          rw [first, second] at read
          cases read
      | ok high =>
          rw [first, second] at read
          by_cases lowest : low < 1 ∨ low ≥ 65535
          · simp [bind, Except.bind, lowest] at read
          · by_cases highest : high < low ∨ high ≥ 65535
            · simp [bind, Except.bind, lowest, highest] at read
            · simp only [bind, Except.bind, if_neg lowest, if_neg highest] at read
              cases read
              omega

/-- The range begins with its lower end. -/
theorem portRange_cons {minPort maxPort : Int} (ordered : minPort ≤ maxPort) :
    Exists fun rest => portRange minPort maxPort = minPort :: rest := by
  have length : (maxPort - minPort + 1).toNat = (maxPort - minPort).toNat + 1 := by omega
  rw [portRange, length, List.range_succ_eq_map, List.map_cons]
  exact ⟨_, congrArg (· :: _) (by omega)⟩

variable {makeAddress : String -> Option Address} {cfg : ListenerConf}

/-- `open` with an explicit port. -/
theorem openListener_of_port (known : makeAddress cfg.address = some address) {port : Int}
    (explicit : streamInt cfg.port = some port) (opening : Opening Address) :
    openListener network makeAddress cfg opening =
      match openPort network address port opening with
      | (next, .error exception) => (next, .error exception)
      | (next, .ok _) => startListening network next := by
  simp only [openListener, known, explicit]

/-- `open` with a range. -/
theorem openListener_of_range (known : makeAddress cfg.address = some address)
    (explicit : streamInt cfg.port = none) {minPort maxPort : Int}
    (read : readRange cfg = .ok (minPort, maxPort)) (opening : Opening Address) :
    openListener network makeAddress cfg opening =
      match openFirst network address (portRange minPort maxPort) opening with
      | (next, .error exception) => (next, .error exception)
      | (next, .ok false) =>
          (next, .error (.logicError
            s!"Error: Ran out of ports in range {minPort} and {maxPort}\n"))
      | (next, .ok true) => startListening network next := by
  simp only [openListener, known, explicit, read]

theorem firstPort_of_port {port : Int} (explicit : streamInt cfg.port = some port) :
    firstPort cfg = some port := by
  simp only [firstPort, explicit]

theorem firstPort_of_range (explicit : streamInt cfg.port = none) {minPort maxPort : Int}
    (read : readRange cfg = .ok (minPort, maxPort)) : firstPort cfg = some minPort := by
  simp only [firstPort, explicit, read]

/-- Without an explicit port, the first port is where the range begins. -/
theorem range_of_firstPort {port : Int} (explicit : streamInt cfg.port = none)
    (first : firstPort cfg = some port) : Exists fun maxPort => Exists fun rest =>
      readRange cfg = .ok (port, maxPort) ∧ portRange port maxPort = port :: rest := by
  cases read : readRange cfg with
  | error exception =>
      simp only [firstPort, explicit, read] at first
      cases first
  | ok range =>
      rcases range with ⟨minPort, maxPort⟩
      cases (firstPort_of_range explicit read).symm.trans first
      rcases portRange_cons (readRange_ok read).2.1 with ⟨rest, ports⟩
      exact ⟨maxPort, rest, rfl, ports⟩

theorem firstBind_eq_some {port : Int} :
    firstBind makeAddress cfg network = some (address, port) <->
      (makeAddress cfg.address = some address ∧ firstPort cfg = some port) ∧
        network.openError address = none ∧ network.optionError = none := by
  rw [firstBind]
  cases makeAddress cfg.address with
  | none => exact ⟨nofun, nofun⟩
  | some known =>
      cases firstPort cfg with
      | none => exact ⟨nofun, nofun⟩
      | some first =>
          rw [Option.ite_none_right_eq_some]
          constructor
          · rintro ⟨clear, ⟨⟩⟩
            exact ⟨⟨rfl, rfl⟩, clear⟩
          · rintro ⟨⟨⟨⟩, ⟨⟩⟩, clear⟩
            exact ⟨clear, rfl⟩

/-- The two ways in which `open_port` does not come to its `bind`. -/
theorem blocked_of_nothing {port : Int} (known : makeAddress cfg.address = some address)
    (first : firstPort cfg = some port) (nothing : firstBind makeAddress cfg network = none) :
    (Exists fun error => network.openError address = some error) ∨
      network.openError address = none ∧ Exists fun error => network.optionError = some error := by
  cases opened : network.openError address with
  | some error => exact Or.inl ⟨error, rfl⟩
  | none =>
      cases set : network.optionError with
      | some error => exact Or.inr ⟨rfl, error, rfl⟩
      | none =>
          rw [firstBind_eq_some.mpr ⟨⟨known, first⟩, opened, set⟩] at nothing
          cases nothing

/-- Where `open` does not come to a `bind`, the registry is as before, and it is not true. -/
theorem openListener_of_nothing (nothing : firstBind makeAddress cfg network = none) :
    (openListener network makeAddress cfg ⟨.closed, ports⟩).1.ports = ports ∧
      (openListener network makeAddress cfg ⟨.closed, ports⟩).2 ≠ .ok true := by
  cases known : makeAddress cfg.address with
  | none =>
      simp only [openListener, known]
      exact ⟨trivial, nofun⟩
  | some address =>
      cases explicit : streamInt cfg.port with
      | some port =>
          rw [openListener_of_port known explicit]
          rcases blocked_of_nothing known (firstPort_of_port explicit) nothing with
            ⟨error, failed⟩ | ⟨opened, error, failed⟩
          · rw [openPort_of_openError failed]
            exact ⟨rfl, nofun⟩
          · rw [openPort_of_optionError opened failed]
            exact ⟨rfl, nofun⟩
      | none =>
          cases read : readRange cfg with
          | error exception =>
              simp only [openListener, known, explicit, read]
              exact ⟨trivial, nofun⟩
          | ok range =>
              rw [openListener_of_range known explicit read]
              rcases blocked_of_nothing known (firstPort_of_range explicit read) nothing with
                ⟨error, failed⟩ | ⟨opened, error, failed⟩
              · rw [openFirst_of_openError failed]
                exact ⟨rfl, nofun⟩
              · rcases portRange_cons (readRange_ok read).2.1 with ⟨rest, ports⟩
                rw [ports, openFirst, openPort_of_optionError opened failed]
                exact ⟨rfl, nofun⟩

/-- Where the first `bind` succeeds, `open` goes on to listen. -/
theorem openListener_of_bound {port : Int}
    (first : firstBind makeAddress cfg network = some (address, port))
    {endpoint : Endpoint Address}
    (bound : network.bindTo ⟨address, UInt16.ofInt port⟩ = some endpoint) (ports : List Int) :
    openListener network makeAddress cfg ⟨.closed, ports⟩ =
      startListening network ⟨⟨true, some endpoint, false⟩, [port]⟩ := by
  rcases firstBind_eq_some.mp first with ⟨⟨known, first⟩, opened, set⟩
  cases explicit : streamInt cfg.port with
  | some number =>
      cases (firstPort_of_port explicit).symm.trans first
      rw [openListener_of_port known explicit, openPort_of_bound opened set bound]
  | none =>
      rcases range_of_firstPort explicit first with ⟨maxPort, rest, read, ports⟩
      rw [openListener_of_range known explicit read, ports, openFirst,
        openPort_of_bound opened set bound]

/-- Where an explicit port is taken, `open` goes on to listen as well. -/
theorem openListener_of_port_taken {port number : Int}
    (first : firstBind makeAddress cfg network = some (address, port))
    (taken : network.bindTo ⟨address, UInt16.ofInt port⟩ = none)
    (explicit : streamInt cfg.port = some number) (ports : List Int) :
    openListener network makeAddress cfg ⟨.closed, ports⟩ =
      startListening network ⟨⟨true, none, false⟩, ports⟩ := by
  rcases firstBind_eq_some.mp first with ⟨⟨known, first⟩, opened, set⟩
  cases (firstPort_of_port explicit).symm.trans first
  rw [openListener_of_port known explicit, openPort_of_taken opened set taken]

/-- Where the first port of a range is taken, `open` throws. -/
theorem openListener_of_range_taken {port : Int}
    (first : firstBind makeAddress cfg network = some (address, port))
    (taken : network.bindTo ⟨address, UInt16.ofInt port⟩ = none)
    (explicit : streamInt cfg.port = none) :
    (openListener network makeAddress cfg ⟨.closed, ports⟩).1.ports = ports ∧
      (openListener network makeAddress cfg ⟨.closed, ports⟩).2 ≠ .ok true := by
  rcases firstBind_eq_some.mp first with ⟨⟨known, first⟩, opened, set⟩
  rcases range_of_firstPort explicit first with ⟨maxPort, rest, read, ports⟩
  rw [openListener_of_range known explicit read, ports, openFirst,
    openPort_of_taken opened set taken]
  dsimp only
  rw [openFirst_of_isOpen rfl]
  exact ⟨rfl, nofun⟩

/-! ## `run_listener` -/

theorem runListener_of_true {worker : WorkerPorts Address} {opening : Opening Address}
    (opened : openListener network makeAddress cfg.rebuild ⟨.closed, worker.ports⟩ =
      (opening, .ok true)) :
    (worker.runListener makeAddress cfg network).1 =
      { ports := opening.ports
        listeners := worker.listeners ++ [⟨cfg, opening.acceptor⟩] } := by
  simp only [runListener, opened]

theorem runListener_of_not_true {worker : WorkerPorts Address} {listed : List Int}
    (refused :
      (openListener network makeAddress cfg.rebuild ⟨.closed, worker.ports⟩).1.ports = listed ∧
        (openListener network makeAddress cfg.rebuild ⟨.closed, worker.ports⟩).2 ≠ .ok true) :
    (worker.runListener makeAddress cfg network).1 = { worker with ports := listed } := by
  rcases refused with ⟨rfl, other⟩
  rw [runListener]
  split
  · rename_i opening opened
    rw [opened] at other
    exact absurd rfl other
  · rename_i opening result _ opened
    rw [opened]

theorem runListener_of_false {worker : WorkerPorts Address} {opening : Opening Address}
    (refused : openListener network makeAddress cfg.rebuild ⟨.closed, worker.ports⟩ =
      (opening, .ok false)) :
    (worker.runListener makeAddress cfg network).1 = { worker with ports := opening.ports } := by
  refine runListener_of_not_true ?_
  rw [refused]
  exact ⟨rfl, nofun⟩

/-- A call leaves what `afterCall` says. -/
theorem runListener_eq (worker : WorkerPorts Address) :
    (worker.runListener makeAddress cfg network).1 =
      worker.afterCall makeAddress cfg network := by
  rw [afterCall]
  cases first : firstBind makeAddress cfg network with
  | none => exact runListener_of_not_true (openListener_of_nothing first)
  | some bind =>
      rcases bind with ⟨address, port⟩
      dsimp only
      cases bound : network.bindTo ⟨address, UInt16.ofInt port⟩ with
      | some endpoint =>
          have opens := openListener_of_bound first bound worker.ports
          rw [startListening_bound] at opens
          cases failed : network.listenError with
          | none =>
              rw [failed] at opens
              exact runListener_of_true opens
          | some error =>
              rw [failed] at opens
              exact runListener_of_false opens
      | none =>
          cases explicit : streamInt cfg.port with
          | none => exact runListener_of_not_true (openListener_of_range_taken first bound explicit)
          | some number =>
              have opens := openListener_of_port_taken first bound explicit worker.ports
              rw [startListening_unbound] at opens
              cases listens : network.autobind with
              | none =>
                  rw [listens] at opens
                  exact runListener_of_false opens
              | some endpoint =>
                  rw [listens] at opens
                  exact runListener_of_true opens

end

/-! ## The registry and the listeners -/

variable (makeAddress : String -> Option Address)

/-- The acceptor is bound to the configured address and to a proper port, which is the explicit
one where the configuration has a number for it. -/
def AsConfigured (listener : OpenListener Address) : Prop :=
  Exists fun endpoint => listener.acceptor.bound = some endpoint ∧
    makeAddress listener.given.address = some endpoint.address ∧
      (1 ≤ endpoint.port.toNat ∧ endpoint.port.toNat ≤ 65535) ∧
        forall number, leadingNumber listener.given.port = some number ->
          (endpoint.port.toNat : Int) = number

/-- Every listener that opened is bound as configured, and the registry has their ports and no
others. -/
structure Registered (worker : WorkerPorts Address) : Prop where
  configured : forall listener, listener ∈ worker.listeners -> AsConfigured makeAddress listener
  listed : forall port, port ∈ worker.ports <->
    Exists fun listener => listener ∈ worker.listeners ∧ listener.port = some port

/-- A call of `run_listener`, and what the system answers. -/
structure ListenerCall (Address : Type) where
  cfg : ListenerConf
  network : Network Address

def system : Transition.System (WorkerPorts Address) (ListenerCall Address) where
  initial := fun worker => worker = create
  step := fun worker call next =>
    (worker.runListener makeAddress call.cfg call.network).1 = next

/-- The call does not come to a `bind`; or its first port is free, and all listeners that are
there have the same port, and, if the acceptor can listen, the port is a proper one and the
number in the configuration; or its first port is taken, and it is that of a range or the system
does not let an acceptor listen that is not bound. -/
def Sound (worker : WorkerPorts Address) (call : ListenerCall Address) : Prop :=
  match firstBind makeAddress call.cfg call.network with
  | none => True
  | some (address, port) =>
      match call.network.bindTo ⟨address, UInt16.ofInt port⟩ with
      | some _ =>
          (forall listener, listener ∈ worker.listeners -> listener.port = some port) ∧
            match call.network.listenError with
            | none =>
                (1 ≤ port ∧ port ≤ 65535) ∧
                  forall number, leadingNumber call.cfg.port = some number -> port = number
            | some _ => worker.listeners ≠ []
      | none => streamInt call.cfg.port = none ∨ call.network.autobind = none

section

variable {makeAddress} {worker : WorkerPorts Address}

theorem AsConfigured.port {listener : OpenListener Address}
    (configured : AsConfigured makeAddress listener) :
    Exists fun port => listener.port = some port := by
  rcases configured with ⟨endpoint, bound, _⟩
  exact ⟨endpoint.port.toNat, by rw [OpenListener.port, bound]; rfl⟩

theorem Registered.ports (registered : worker.Registered makeAddress)
    {listener : OpenListener Address} (member : listener ∈ worker.listeners) :
    Exists fun port => listener.port = some port :=
  (registered.configured listener member).port

/-- A registry with one port lists listeners that all have this one. -/
theorem listed_singleton {listeners : List (OpenListener Address)}
    (bound : forall listener, listener ∈ listeners ->
      Exists fun port => listener.port = some port) (only : Int) :
    (forall port, port ∈ [only] <->
      Exists fun listener => listener ∈ listeners ∧ listener.port = some port) <->
      listeners ≠ [] ∧ forall listener, listener ∈ listeners -> listener.port = some only := by
  constructor
  · intro listed
    constructor
    · rintro rfl
      rcases (listed only).mp List.mem_cons_self with ⟨listener, member, _⟩
      cases member
    · intro listener member
      rcases bound listener member with ⟨port, has⟩
      cases List.mem_singleton.mp ((listed port).mpr ⟨listener, member, has⟩)
      exact has
  · rintro ⟨some_listener, same⟩ port
    rw [List.mem_singleton]
    constructor
    · rintro rfl
      rcases List.exists_mem_of_ne_nil _ some_listener with ⟨listener, member⟩
      exact ⟨listener, member, same listener member⟩
    · rintro ⟨listener, member, has⟩
      exact Option.some.inj (has.symm.trans (same listener member))

theorem toNat_ofInt {port : Int} (proper : 1 ≤ port ∧ port ≤ 65535) :
    ((UInt16.ofInt port).toNat : Int) = port := by
  have below : (port % 2 ^ 16).toNat % 2 ^ 16 = (port % 2 ^ 16).toNat := by omega
  rw [UInt16.ofInt, UInt16.toNat_ofNat', below]
  omega

theorem ofInt_ne_zero {port : Int} (proper : 1 ≤ port ∧ port ≤ 65535) :
    UInt16.ofInt port ≠ 0 := by
  intro zero
  have value := toNat_ofInt proper
  rw [zero, UInt16.toNat_zero] at value
  omega

theorem bindTo_address {network : Network Address} {endpoint bound : Endpoint Address}
    (binds : network.bindTo endpoint = some bound) : bound.address = endpoint.address := by
  rw [Network.bindTo] at binds
  split at binds
  · rcases Option.map_eq_some_iff.mp binds with ⟨_, _, rfl⟩
    rfl
  · split at binds
    · cases binds
    · cases binds
      rfl

theorem bindTo_of_port {network : Network Address} {endpoint : Endpoint Address}
    (port : endpoint.port ≠ 0) :
    network.bindTo endpoint = if network.taken endpoint then none else some endpoint := by
  rw [Network.bindTo, if_neg port]

variable {cfg : ListenerConf} {network : Network Address} {address : Address}
variable {port : Int} {endpoint : Endpoint Address}

/-- A listener that is bound where the first `bind` has ended. -/
theorem asConfigured_bound (known : makeAddress cfg.address = some address)
    (bound : network.bindTo ⟨address, UInt16.ofInt port⟩ = some endpoint)
    (proper : 1 ≤ port ∧ port ≤ 65535)
    (same : forall number, leadingNumber cfg.port = some number -> port = number) :
    AsConfigured makeAddress ⟨cfg, ⟨true, some endpoint, true⟩⟩ ∧
      OpenListener.port ⟨cfg, ⟨true, some endpoint, true⟩⟩ = some port := by
  have value : (endpoint.port.toNat : Int) = port := by
    rw [bindTo_of_port (ofInt_ne_zero proper)] at bound
    split at bound
    · cases bound
    · cases bound
      exact toNat_ofInt proper
  refine ⟨⟨endpoint, rfl, ?_, by omega, ?_⟩, congrArg some value⟩
  · rw [bindTo_address bound]
    exact known
  · rw [value]
    exact same

/-- Conversely, the port must have been a proper one. -/
theorem proper_of_asConfigured
    (configured : AsConfigured makeAddress ⟨cfg, ⟨true, some endpoint, true⟩⟩)
    (has : OpenListener.port ⟨cfg, ⟨true, some endpoint, true⟩⟩ = some port) :
    (1 ≤ port ∧ port ≤ 65535) ∧
      forall number, leadingNumber cfg.port = some number -> port = number := by
  rcases configured with ⟨_, ⟨⟩, _, proper, same⟩
  have value : (endpoint.port.toNat : Int) = port := Option.some.inj has
  rw [value] at same
  exact ⟨by omega, same⟩

/-- Only a listener that was not bound by `open` is bound to an endpoint that was free when the
explicit port was not. -/
theorem not_asConfigured_autobind (known : makeAddress cfg.address = some address)
    (taken : network.bindTo ⟨address, UInt16.ofInt port⟩ = none)
    (explicit : leadingNumber cfg.port = some port) (listens : network.autobind = some endpoint) :
    ¬ AsConfigured makeAddress ⟨cfg, ⟨true, some endpoint, true⟩⟩ := by
  rintro ⟨_, ⟨⟩, there, bounds, same⟩
  have value : (endpoint.port.toNat : Int) = port := same port explicit
  have proper : 1 ≤ port ∧ port ≤ 65535 := by omega
  have sameAddress : endpoint.address = address := Option.some.inj (there.symm.trans known)
  have samePort : endpoint.port = UInt16.ofInt port :=
    UInt16.toNat_inj.mp (Int.ofNat.inj (value.trans (toNat_ofInt proper).symm))
  have free : network.taken ⟨address, UInt16.ofInt port⟩ = false := by
    rw [← sameAddress, ← samePort]
    exact network.autobind_free endpoint listens
  rw [bindTo_of_port (ofInt_ne_zero proper), free] at taken
  cases taken

theorem leadingNumber_of_streamInt {text : String} {number : Int}
    (read : streamInt text = some number) : leadingNumber text = some number :=
  (Option.filter_eq_some_iff.mp read).1

theorem registered_append {listener : OpenListener Address} {ports : List Int}
    (registered : worker.Registered makeAddress) :
    Registered makeAddress ⟨ports, worker.listeners ++ [listener]⟩ <->
      AsConfigured makeAddress listener ∧
        forall port, port ∈ ports <->
          Exists fun other => other ∈ worker.listeners ++ [listener] ∧ other.port = some port := by
  constructor
  · intro next
    exact ⟨next.configured _ (List.mem_concat_self ..), next.listed⟩
  · rintro ⟨configured, listed⟩
    refine ⟨fun other member => ?_, listed⟩
    rcases List.mem_append.mp member with old | new
    · exact registered.configured other old
    · cases List.mem_singleton.mp new
      exact configured

/-- The call ends with a listener that is bound to its first port. -/
theorem registered_bound (registered : worker.Registered makeAddress)
    (known : makeAddress cfg.address = some address)
    (bound : network.bindTo ⟨address, UInt16.ofInt port⟩ = some endpoint) :
    Registered makeAddress
        ⟨[port], worker.listeners ++ [⟨cfg, ⟨true, some endpoint, true⟩⟩]⟩ <->
      (forall listener, listener ∈ worker.listeners -> listener.port = some port) ∧
        (1 ≤ port ∧ port ≤ 65535) ∧
          forall number, leadingNumber cfg.port = some number -> port = number := by
  have ports : forall listener,
      listener ∈ worker.listeners ++ [⟨cfg, ⟨true, some endpoint, true⟩⟩] ->
        Exists fun port => listener.port = some port := by
    intro listener member
    rcases List.mem_append.mp member with old | new
    · exact registered.ports old
    · cases List.mem_singleton.mp new
      exact ⟨_, rfl⟩
  rw [registered_append registered, listed_singleton ports]
  constructor
  · rintro ⟨configured, _, same⟩
    exact ⟨fun listener member => same listener (List.mem_append_left _ member),
      proper_of_asConfigured configured (same _ (List.mem_concat_self ..))⟩
  · rintro ⟨same, proper, number⟩
    rcases asConfigured_bound known bound proper number with ⟨configured, has⟩
    refine ⟨configured, List.concat_ne_nil _ _, fun listener member => ?_⟩
    rcases List.mem_append.mp member with old | new
    · exact same listener old
    · cases List.mem_singleton.mp new
      exact has

/-- The call has written its port to the registry, and there is no listener. -/
theorem registered_unheard (registered : worker.Registered makeAddress) :
    Registered makeAddress ⟨[port], worker.listeners⟩ <->
      (forall listener, listener ∈ worker.listeners -> listener.port = some port) ∧
        worker.listeners ≠ [] := by
  rw [and_comm, ← listed_singleton fun _ => registered.ports]
  exact ⟨Registered.listed, fun listed => ⟨registered.configured, listed⟩⟩

/-- A call keeps the registry right exactly if it is sound. -/
theorem registered_afterCall (registered : worker.Registered makeAddress) :
    (worker.afterCall makeAddress cfg network).Registered makeAddress <->
      worker.Sound makeAddress ⟨cfg, network⟩ := by
  rw [afterCall, Sound]
  dsimp only
  cases first : firstBind makeAddress cfg network with
  | none => exact iff_of_true registered trivial
  | some bind =>
      rcases bind with ⟨address, port⟩
      rcases firstBind_eq_some.mp first with ⟨⟨known, tried⟩, _⟩
      dsimp only
      cases bound : network.bindTo ⟨address, UInt16.ofInt port⟩ with
      | some endpoint =>
          cases network.listenError with
          | none => exact registered_bound registered known bound
          | some error => exact registered_unheard registered
      | none =>
          cases explicit : streamInt cfg.port with
          | none => exact iff_of_true registered (Or.inl rfl)
          | some number =>
              cases listens : network.autobind with
              | none => exact iff_of_true registered (Or.inr rfl)
              | some endpoint =>
                  cases (firstPort_of_port explicit).symm.trans tried
                  refine iff_of_false (fun next => ?_) (not_or.mpr ⟨nofun, nofun⟩)
                  exact not_asConfigured_autobind known bound
                    (leadingNumber_of_streamInt explicit) listens
                    (next.configured _ (List.mem_concat_self ..))

theorem registered_create : (create : WorkerPorts Address).Registered makeAddress where
  configured := fun _ => nofun
  listed := by
    intro port
    refine iff_of_false nofun ?_
    rintro ⟨listener, member, _⟩
    cases member

end

/-- As long as the calls of `run_listener` are sound, the registry has the ports of the listeners
that opened; after the next call this is so exactly if that one is sound too. -/
theorem registered_iff (makeAddress : String -> Option Address) (worker : WorkerPorts Address)
    (reachable : ((system makeAddress).restrict (Sound makeAddress)).Reachable worker) :
    worker.Registered makeAddress ∧
      forall cfg network,
        ((worker.runListener makeAddress cfg network).1.Registered makeAddress <->
          worker.Sound makeAddress ⟨cfg, network⟩) := by
  have registered : worker.Registered makeAddress := by
    refine reachable.invariant ?_ ?_
    · rintro _ rfl
      exact registered_create
    · rintro worker ⟨cfg, network⟩ _ registered ⟨sound, rfl⟩
      rw [runListener_eq]
      exact (registered_afterCall registered).mpr sound
  refine ⟨registered, fun cfg network => ?_⟩
  rw [runListener_eq]
  exact registered_afterCall registered

/-- `make_address` on the address of the examples. -/
def loopbackAddress (text : String) : Option Octets :=
  if text = "127.0.0.1" then some [127, 0, 0, 1] else none

/-- A system on which no port is taken. -/
def freeNetwork : Network Octets where
  openError := fun _ => none
  optionError := none
  taken := fun _ => false
  ephemeral := fun _ => some 49152
  listenError := none
  autobind := some ⟨[0, 0, 0, 0], 49152⟩
  autobind_free := fun _ _ => rfl

def portConf (port : String) : ListenerConf where
  name := "public"
  address := "127.0.0.1"
  port := port
  minPort := "8080"
  maxPort := "8090"
  kind := "no_tls"

def first : WorkerPorts Octets :=
  (create.runListener loopbackAddress (portConf "8080") freeNetwork).1

theorem first_sound : Sound loopbackAddress create ⟨portConf "8080", freeNetwork⟩ := by
  have bind : firstBind loopbackAddress (portConf "8080") freeNetwork =
      some ([127, 0, 0, 1], 8080) := by decide +kernel
  have number : leadingNumber (portConf "8080").port = some 8080 := by decide +kernel
  rw [Sound, bind]
  refine ⟨fun _ => nofun, by decide, fun other read => ?_⟩
  exact Option.some.inj (number.symm.trans read)

theorem first_reachable :
    ((system loopbackAddress).restrict (Sound loopbackAddress)).Reachable first :=
  .extend (.initially rfl) (.single ⟨first_sound, rfl⟩)

/-- The port of the first listener is taken. -/
def heldNetwork : Network Octets :=
  { freeNetwork with
    taken := fun endpoint => endpoint = ⟨[127, 0, 0, 1], 8080⟩
    autobind_free := by decide }

/-- A listener with the range 8080 to 8090 finds its first port taken. -/
def searched : WorkerPorts Octets :=
  (first.runListener loopbackAddress (portConf "") heldNetwork).1

theorem searched_sound : Sound loopbackAddress first ⟨portConf "", heldNetwork⟩ := by
  have bind : firstBind loopbackAddress (portConf "") heldNetwork =
      some ([127, 0, 0, 1], 8080) := by decide +kernel
  have held : heldNetwork.bindTo ⟨[127, 0, 0, 1], UInt16.ofInt 8080⟩ = none := by decide +kernel
  rw [Sound, bind]
  simp only [held]
  exact Or.inl (by decide +kernel)

theorem searched_reachable :
    ((system loopbackAddress).restrict (Sound loopbackAddress)).Reachable searched :=
  .extend first_reachable (.single ⟨searched_sound, rfl⟩)

theorem searched_registered :
    searched.Registered loopbackAddress ∧ searched.ports = [8080] ∧
      searched.listeners.map OpenListener.port = [some 8080] :=
  ⟨(registered_iff loopbackAddress searched searched_reachable).1, by decide +kernel,
    by decide +kernel⟩

/-- A second listener that opens takes the place of the first in the registry. -/
def second : WorkerPorts Octets :=
  (first.runListener loopbackAddress (portConf "8081") freeNetwork).1

theorem second_reachable : (system loopbackAddress).Reachable second := by
  have taken : (system loopbackAddress).step first ⟨portConf "8081", freeNetwork⟩ second := rfl
  exact .extend first_reachable.of_restrict (.single taken)

theorem runListener_replaces : ¬ forall worker,
    (system loopbackAddress).Reachable worker -> worker.Registered loopbackAddress := by
  intro all
  have opened : Exists fun listener => listener ∈ second.listeners ∧ listener.port = some 8080 :=
    ⟨⟨portConf "8080", ⟨true, some ⟨[127, 0, 0, 1], 8080⟩, true⟩⟩, by decide +kernel, rfl⟩
  have replaced : second.ports = [8081] := by decide +kernel
  have listed := ((all second second_reachable).listed 8080).mpr opened
  rw [replaced] at listed
  exact absurd listed (by decide)

end WorkerPorts

end EasyProspect
