import EasyProspect.ListenerPorts

namespace EasyProspect

/-!
# The search for a free port

Without an explicit port, `open` is meant to bind to the first port of the range that
nobody has.  `open_port` opens the acceptor before it binds, and does not close it when
the port is taken; asio does not open an acceptor that is open.  So only the first port of
the range is ever tried.
-/

namespace PortSearch

variable {Address : Type}

section

variable (network : Network Address) (address : Address) (minPort maxPort : Int)

def Taken (port : Int) : Prop :=
  network.taken ⟨address, UInt16.ofInt port⟩ = true

instance (port : Int) : Decidable (Taken network address port) :=
  inferInstanceAs (Decidable (_ = _))

def AllTaken : Prop :=
  forall port, minPort ≤ port -> port ≤ maxPort -> Taken network address port

/-- The port that the search is for. -/
structure SmallestFree (port : Int) : Prop where
  lower : minPort ≤ port
  upper : port ≤ maxPort
  free : ¬Taken network address port
  below : forall other, minPort ≤ other -> other < port -> Taken network address other

/-- What a call of `open` is meant to come to. -/
structure FindsPort (opened : Opening Address × Except OpenException Bool) : Prop where
  /-- The acceptor is bound to the smallest free port, which is written to the registry. -/
  bound : forall port, SmallestFree network address minPort maxPort port ->
    opened.1.acceptor.bound = some ⟨address, UInt16.ofInt port⟩ ∧ opened.1.ports = [port]
  /-- There is an exception when there is no such port, and only then. -/
  throws : (Exists fun exception => opened.2 = .error exception) <->
    AllTaken network address minPort maxPort

/-- Nothing is free, or else the first port is, and the system lets the acceptor open. -/
def FirstDecides : Prop :=
  AllTaken network address minPort maxPort ∨
    (network.openError address = none ∧ network.optionError = none ∧
      ¬Taken network address minPort)

end

variable {network : Network Address} {address : Address} {minPort maxPort : Int}
variable {makeAddress : String -> Option Address} {cfg : ListenerConf} {ports : List Int}

theorem bindTo_of_taken (lowest : 1 ≤ minPort) (highest : minPort < 65535)
    (taken : Taken network address minPort) :
    network.bindTo ⟨address, UInt16.ofInt minPort⟩ = none := by
  have proper := WorkerPorts.ofInt_ne_zero ⟨lowest, Int.le_of_lt highest⟩
  rw [WorkerPorts.bindTo_of_port proper]
  exact if_pos taken

theorem bindTo_of_free (lowest : 1 ≤ minPort) (highest : minPort < 65535)
    (free : ¬Taken network address minPort) :
    network.bindTo ⟨address, UInt16.ofInt minPort⟩ =
      some ⟨address, UInt16.ofInt minPort⟩ := by
  have proper := WorkerPorts.ofInt_ne_zero ⟨lowest, Int.le_of_lt highest⟩
  rw [WorkerPorts.bindTo_of_port proper]
  exact if_neg free

/-- A free port at the beginning of the range is the smallest. -/
theorem smallestFree_eq (free : ¬Taken network address minPort) {port : Int}
    (smallest : SmallestFree network address minPort maxPort port) : port = minPort := by
  by_contra differs
  have above : minPort < port := by
    have lower := smallest.lower
    omega
  exact free (smallest.below minPort (Int.le_refl minPort) above)

/-- A call that throws, does so rightly only when all ports are taken. -/
theorem findsPort_of_error {opened : Opening Address × Except OpenException Bool}
    {exception : OpenException} (failed : opened.2 = .error exception) :
    FindsPort network address minPort maxPort opened <->
      AllTaken network address minPort maxPort := by
  constructor
  · exact fun finds => finds.throws.mp ⟨exception, failed⟩
  · intro all
    refine ⟨fun port smallest => ?_, fun _ => all, fun _ => ⟨exception, failed⟩⟩
    exact absurd (all port smallest.lower smallest.upper) smallest.free

section

variable (known : makeAddress cfg.address = some address)
variable (explicit : streamInt cfg.port = none)
variable (read : readRange cfg = .ok (minPort, maxPort))

include known explicit read

/-- When the acceptor does not open, every attempt fails. -/
theorem error_of_openError {error : Nat} (failed : network.openError address = some error) :
    (openListener network makeAddress cfg ⟨.closed, ports⟩).2 =
      .error (.logicError s!"Error: Ran out of ports in range {minPort} and {maxPort}\n") := by
  rw [WorkerPorts.openListener_of_range known explicit read,
    WorkerPorts.openFirst_of_openError failed]

theorem error_of_optionError (opened : network.openError address = none) {error : Nat}
    (failed : network.optionError = some error) :
    (openListener network makeAddress cfg ⟨.closed, ports⟩).2 = .error (.systemError error) := by
  rcases WorkerPorts.portRange_cons (WorkerPorts.readRange_ok read).2.1 with ⟨rest, range⟩
  rw [WorkerPorts.openListener_of_range known explicit read, range, openFirst,
    WorkerPorts.openPort_of_optionError opened failed]

/-- After the first port was taken, the acceptor is open and every other attempt fails. -/
theorem error_of_taken (opened : network.openError address = none)
    (set : network.optionError = none) (taken : Taken network address minPort) :
    (openListener network makeAddress cfg ⟨.closed, ports⟩).2 =
      .error (.logicError s!"Error: Ran out of ports in range {minPort} and {maxPort}\n") := by
  rcases WorkerPorts.readRange_ok read with ⟨lowest, ordered, highest⟩
  rcases WorkerPorts.portRange_cons ordered with ⟨rest, range⟩
  have failed := bindTo_of_taken lowest (Int.lt_of_le_of_lt ordered highest) taken
  rw [WorkerPorts.openListener_of_range known explicit read, range, openFirst,
    WorkerPorts.openPort_of_taken opened set failed]
  dsimp only
  rw [WorkerPorts.openFirst_of_isOpen rfl]

theorem findsPort_of_free (opened : network.openError address = none)
    (set : network.optionError = none) (free : ¬Taken network address minPort) :
    FindsPort network address minPort maxPort
      (openListener network makeAddress cfg ⟨.closed, ports⟩) := by
  rcases WorkerPorts.readRange_ok read with ⟨lowest, ordered, highest⟩
  have bound := bindTo_of_free lowest (Int.lt_of_le_of_lt ordered highest) free
  have first : WorkerPorts.firstBind makeAddress cfg network = some (address, minPort) :=
    WorkerPorts.firstBind_eq_some.mpr
      ⟨⟨known, WorkerPorts.firstPort_of_range explicit read⟩, opened, set⟩
  rw [WorkerPorts.openListener_of_bound first bound, WorkerPorts.startListening_bound]
  refine ⟨fun port smallest => ?_, ?_, fun all => ?_⟩
  · cases smallestFree_eq free smallest
    cases network.listenError <;> exact ⟨rfl, rfl⟩
  · rintro ⟨exception, failed⟩
    cases heard : network.listenError <;> rw [heard] at failed <;> cases failed
  · exact absurd (all minPort (Int.le_refl minPort) ordered) free

/-- `open` finds the smallest free port of a range exactly when the first port decides. -/
theorem open_finds_port_iff (ports : List Int) :
    FindsPort network address minPort maxPort
        (openListener network makeAddress cfg ⟨.closed, ports⟩) <->
      FirstDecides network address minPort maxPort := by
  cases opened : network.openError address with
  | some error =>
      rw [findsPort_of_error (error_of_openError known explicit read opened)]
      refine ⟨Or.inl, fun decides => decides.resolve_right fun clear => ?_⟩
      cases opened.symm.trans clear.1
  | none =>
      cases set : network.optionError with
      | some error =>
          rw [findsPort_of_error (error_of_optionError known explicit read opened set)]
          refine ⟨Or.inl, fun decides => decides.resolve_right fun clear => ?_⟩
          cases set.symm.trans clear.2.1
      | none =>
          by_cases taken : Taken network address minPort
          · rw [findsPort_of_error (error_of_taken known explicit read opened set taken)]
            exact ⟨Or.inl, fun decides => decides.resolve_right fun clear => clear.2.2 taken⟩
          · exact iff_of_true (findsPort_of_free known explicit read opened set taken)
              (Or.inr ⟨opened, set, taken⟩)

end

/-- A listener that is to find a port from 8080 to 8090. -/
def rangeConf : ListenerConf :=
  WorkerPorts.portConf ""

/-- A system on which somebody else has port 8080. -/
def busyNetwork : Network Octets :=
  { WorkerPorts.freeNetwork with
    taken := fun endpoint => endpoint.port = 8080
    autobind := none
    autobind_free := fun _ => nofun }

theorem rangeConf_known : WorkerPorts.loopbackAddress rangeConf.address = some [127, 0, 0, 1] := by
  decide +kernel

theorem rangeConf_explicit : streamInt rangeConf.port = none := by
  decide +kernel

theorem rangeConf_range : readRange rangeConf = .ok (8080, 8090) := by
  decide +kernel

theorem rangeConf_finds_port :
    FindsPort WorkerPorts.freeNetwork [127, 0, 0, 1] 8080 8090
      (openListener WorkerPorts.freeNetwork WorkerPorts.loopbackAddress rangeConf
        ⟨.closed, []⟩) :=
  (open_finds_port_iff rangeConf_known rangeConf_explicit rangeConf_range []).mpr
    (Or.inr ⟨rfl, rfl, by decide⟩)

/-- Port 8081 is free, but `open` runs out of ports. -/
theorem busy_runs_out :
    ¬ forall (network : Network Octets) (cfg : ListenerConf) (address : Octets)
        (minPort maxPort : Int), WorkerPorts.loopbackAddress cfg.address = some address ->
      streamInt cfg.port = none -> readRange cfg = .ok (minPort, maxPort) ->
        network.openError address = none -> network.optionError = none ->
          FindsPort network address minPort maxPort
            (openListener network WorkerPorts.loopbackAddress cfg ⟨.closed, []⟩) := by
  intro all
  have finds := all busyNetwork rangeConf [127, 0, 0, 1] 8080 8090 rangeConf_known
    rangeConf_explicit rangeConf_range rfl rfl
  have smallest : SmallestFree busyNetwork [127, 0, 0, 1] 8080 8090 8081 := by
    refine ⟨by decide, by decide, by decide, fun other lower upper => ?_⟩
    have same : other = 8080 := by omega
    rw [same]
    decide
  have bound := (finds.bound 8081 smallest).1
  exact absurd bound (by decide +kernel)

end PortSearch

end EasyProspect
