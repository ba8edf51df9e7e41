import EasyProspect.ConfigBuilders

namespace EasyProspect

/-!
# The configurations of the server and of a worker

Both extend the configuration of a service by one member.  The server adds the backends that are
given to those there are; that a worker talks to its control program has no value until it is set.

What a setter does is stated here for a call that returns, whatever it passes.
-/

namespace Config

open Settings (Change Misdirection Setters)

/-! ## Configurations -/

/-- `easyprospect_config_server_core`. -/
structure ServerConfig extends ServiceConfig where
  backends : List EndpointSpecs.BackendConf
deriving DecidableEq

/-- The constructor. -/
def ServerConfig.create (dh dv : Bool) (nt : Int) (verb : Verbosity) (db : DebugLevel)
    (remArgs : Option (List String)) (epjsUpr : List Regex) (epjsUprStr : List String)
    (mtypes : List MimeType) (of lf af cf pf pd sf lstfile lstdir : Option Path)
    (ls : List ListenerConf) (be : List EndpointSpecs.BackendConf) : ServerConfig where
  toServiceConfig := .create dh dv nt verb db remArgs epjsUpr epjsUprStr mtypes of lf af cf pf pd
    sf lstfile lstdir ls
  backends := be

/-- `easyprospect_config_worker_core`. -/
structure WorkerConfig extends ServiceConfig where
  controlProtocol : Bool
deriving DecidableEq

/-- The constructor. -/
def WorkerConfig.create (dh dv cp : Bool) (nt : Int) (verb : Verbosity) (db : DebugLevel)
    (remArgs : Option (List String)) (epjsUpr : List Regex) (epjsUprStr : List String)
    (mtypes : List MimeType) (of lf af cf pf pd sf lstfile lstdir : Option Path)
    (ls : List ListenerConf) : WorkerConfig where
  toServiceConfig := .create dh dv nt verb db remArgs epjsUpr epjsUprStr mtypes of lf af cf pf pd
    sf lstfile lstdir ls
  controlProtocol := cp

/-! ## Builders -/

/-- `easyprospect_config_server_core_builder`. -/
structure ServerBuilder extends ServiceBuilder where
  backends : List EndpointSpecs.BackendConf
deriving DecidableEq

namespace ServerBuilder

def create : ServerBuilder where
  toServiceBuilder := .create
  backends := []

variable (ext : Externals) (builder : ServerBuilder)

def toConfig : ServerConfig :=
  .create builder.displayHelp builder.displayVersion builder.numThreads builder.verbosity
    builder.debugLevel builder.remainderArgs builder.epjsUrlPathRegex
    builder.epjsUrlPathRegexStr builder.mimeTypes builder.outFile builder.logFile
    builder.argFile builder.cnfFile builder.pidFile builder.pidDirPath builder.webrootDir
    builder.listenFile builder.listenDirPath builder.listeners builder.backends

def parseBackend (s : String) : Except Fault EndpointSpecs.BackendConf :=
  (EndpointSpecs.BackendConf.parse ext.tokenizer s).mapError Fault.parse

/-- `parse` for several texts: each is parsed twice. -/
def parseBackends (s : List String) : Except Fault (List EndpointSpecs.BackendConf) :=
  s.foldlM
    (fun res i => do
      let _l <- parseBackend ext i
      let conf <- parseBackend ext i
      .ok (res ++ [conf]))
    []

def setBackendsText (l : String) : Except Fault ServerBuilder := do
  let c <- parseBackend ext l
  .ok { builder with backends := builder.backends ++ [c] }

def setBackendsTexts (l : List String) : Except Fault ServerBuilder := do
  let la <- parseBackends ext l
  .ok { builder with backends := builder.backends ++ la }

end ServerBuilder

/-- `easyprospect_config_worker_core_builder`.  One member is not initialised. -/
structure WorkerBuilder extends ServiceBuilder where
  controlProtocol : Option Bool
deriving DecidableEq

namespace WorkerBuilder

def create : WorkerBuilder where
  toServiceBuilder := .create
  controlProtocol := none

variable (ext : Externals) (builder : WorkerBuilder)

/-- There is no defined result while the member without a value is read. -/
def toConfig : Option WorkerConfig := do
  let controlProtocol <- builder.controlProtocol
  some (.create builder.displayHelp builder.displayVersion controlProtocol builder.numThreads
    builder.verbosity builder.debugLevel builder.remainderArgs builder.epjsUrlPathRegex
    builder.epjsUrlPathRegexStr builder.mimeTypes builder.outFile builder.logFile
    builder.argFile builder.cnfFile builder.pidFile builder.pidDirPath builder.webrootDir
    builder.listenFile builder.listenDirPath builder.listeners)

def setControlProtocol (c : Bool) : WorkerBuilder :=
  { builder with controlProtocol := some c }

def setControlProtocolText (c : String) : Except Fault WorkerBuilder :=
  match ext.lexicalBool c with
  | some value => .ok { builder with controlProtocol := some value }
  | none => .error .badLexicalCast

end WorkerBuilder

/-! ## Settings and calls -/

inductive ServerSetting
  | service (setting : ServiceSetting)
  | backends
deriving DecidableEq, Repr

abbrev ServerSetting.Value : ServerSetting -> Type
  | .service setting => setting.Value
  | .backends => List EndpointSpecs.BackendConf

def ServerBuilder.values (builder : ServerBuilder) : forall setting, ServerSetting.Value setting
  | .service setting => builder.toServiceBuilder.values setting
  | .backends => builder.backends

inductive ServerCall
  | service (call : ServiceCall)
  | setBackendsText (l : String)
  | setBackendsTexts (l : List String)
deriving DecidableEq, Repr

inductive WorkerSetting
  | service (setting : ServiceSetting)
  | controlProtocol
deriving DecidableEq, Repr

/-- Without a default, a setting may have no value. -/
abbrev WorkerSetting.Value : WorkerSetting -> Type
  | .service setting => setting.Value
  | .controlProtocol => Option Bool

def WorkerBuilder.values (builder : WorkerBuilder) : forall setting, WorkerSetting.Value setting
  | .service setting => builder.toServiceBuilder.values setting
  | .controlProtocol => builder.controlProtocol

inductive WorkerCall
  | service (call : ServiceCall)
  | setControlProtocol (c : Arg Bool)
deriving DecidableEq, Repr

variable (ext : Externals)

def ServerBuilder.call (builder : ServerBuilder) : ServerCall -> Except Fault ServerBuilder
  | .service call => do
      let service <- builder.toServiceBuilder.call ext call
      .ok { builder with toServiceBuilder := service }
  | .setBackendsText l => builder.setBackendsText ext l
  | .setBackendsTexts l => builder.setBackendsTexts ext l

def WorkerBuilder.call (builder : WorkerBuilder) : WorkerCall -> Except Fault WorkerBuilder
  | .service call => do
      let service <- builder.toServiceBuilder.call ext call
      .ok { builder with toServiceBuilder := service }
  | .setControlProtocol (.typed c) => .ok (builder.setControlProtocol c)
  | .setControlProtocol (.text c) => builder.setControlProtocolText ext c

def backendOf (text : String) : Option EndpointSpecs.BackendConf :=
  (EndpointSpecs.BackendConf.parse ext.tokenizer text).toOption

/-- Backends are added to those there are. -/
def ServerCall.named : ServerCall -> Change ServerSetting.Value
  | .service call => (call.named ext).lift .service
  | .setBackendsText l => ⟨.backends, fun old => old ++ (backendOf ext l).toList⟩
  | .setBackendsTexts l => ⟨.backends, fun old => old ++ l.filterMap (backendOf ext)⟩

def WorkerCall.named : WorkerCall -> Change WorkerSetting.Value
  | .service call => (call.named ext).lift .service
  | .setControlProtocol c =>
      ⟨.controlProtocol, fun old => (c.value? ext.lexicalBool).or old⟩

def ServerCall.slips : ServerCall -> Option Bool
  | .service call => call.slips ext
  | _ => none

def WorkerCall.slips : WorkerCall -> Option Bool
  | .service call => call.slips ext
  | _ => none

variable {ext}

theorem ServerCall.named_of_slip {call : ServerCall} {value : Bool}
    (slip : call.slips ext = some value) :
    (call.named ext).setting = .service (.core .displayVersion) := by
  cases call with
  | service _ => exact congrArg ServerSetting.service (ServiceCall.named_of_slip slip)
  | _ => cases slip

theorem WorkerCall.named_of_slip {call : WorkerCall} {value : Bool}
    (slip : call.slips ext = some value) :
    (call.named ext).setting = .service (.core .displayVersion) := by
  cases call with
  | service _ => exact congrArg WorkerSetting.service (ServiceCall.named_of_slip slip)
  | _ => cases slip

/-- The calls of a builder for the server. -/
def serverCalls (ext : Externals) : Misdirection ServerCall ServerSetting.Value where
  named := ServerCall.named ext
  missed := .service (.core .displayVersion)
  hit := .service (.core .displayHelp)
  different := by decide
  slips := ServerCall.slips ext
  slipped := fun _ _ slip => ServerCall.named_of_slip slip

/-- The calls of a builder for a worker. -/
def workerCalls (ext : Externals) : Misdirection WorkerCall WorkerSetting.Value where
  named := WorkerCall.named ext
  missed := .service (.core .displayVersion)
  hit := .service (.core .displayHelp)
  different := by decide
  slips := WorkerCall.slips ext
  slipped := fun _ _ slip => WorkerCall.named_of_slip slip

theorem server_actual_service (ext : Externals) (call : ServiceCall) :
    (serverCalls ext).actual (.service call) =
      ((serviceCalls ext).actual call).lift .service := by
  have same : (serverCalls ext).slips (.service call) = (serviceCalls ext).slips call := rfl
  cases slip : (serviceCalls ext).slips call with
  | none =>
      rw [(serviceCalls ext).actual_proper slip,
        (serverCalls ext).actual_proper (same.trans slip)]
      rfl
  | some value =>
      rw [(serviceCalls ext).actual_slip slip, (serverCalls ext).actual_slip (same.trans slip)]
      rfl

theorem worker_actual_service (ext : Externals) (call : ServiceCall) :
    (workerCalls ext).actual (.service call) =
      ((serviceCalls ext).actual call).lift .service := by
  have same : (workerCalls ext).slips (.service call) = (serviceCalls ext).slips call := rfl
  cases slip : (serviceCalls ext).slips call with
  | none =>
      rw [(serviceCalls ext).actual_proper slip,
        (workerCalls ext).actual_proper (same.trans slip)]
      rfl
  | some value =>
      rw [(serviceCalls ext).actual_slip slip, (workerCalls ext).actual_slip (same.trans slip)]
      rfl

/-! ## What is valid if a setter returns -/

theorem toOption_of_mapError {Error Result : Type} {result : Except Error Result} {value : Result}
    {wrap : Error -> Fault} (succeeds : result.mapError wrap = .ok value) :
    result.toOption = some value :=
  congrArg Except.toOption (Results.ok_of_mapError succeeds)

theorem regexError_of_foldlM {cses : List String} {builder next : CoreBuilder}
    (added : cses.foldlM (CoreBuilder.addEpjsUrlPathRegex ext) builder = .ok next) :
    forall s, s ∈ cses -> ext.regexError s = none := by
  induction cses generalizing builder with
  | nil => exact fun _ none => absurd none List.not_mem_nil
  | cons first cses inductionHypothesis =>
      rw [List.foldlM_cons] at added
      rcases Results.ok_of_bind added with ⟨middle, one, rest⟩
      intro s member
      rcases List.mem_cons.mp member with rfl | later
      · rw [CoreBuilder.addEpjsUrlPathRegex] at one
        cases error : ext.regexError s with
        | none => rfl
        | some what =>
            rw [error] at one
            cases one
      · exact inductionHypothesis rest s later

theorem CoreCall.valid_of_ok {builder next : CoreBuilder} {call : CoreCall}
    (called : builder.call ext call = .ok next) : call.Valid ext := by
  cases call with
  | setVerbosity verbosity =>
      cases verbosity with
      | typed _ => rfl
      | text s =>
          rcases Results.ok_of_bind called with ⟨v, found, _⟩
          rw [verbosityFrom_eq] at found
          cases named : verbosityNamed s with
          | none =>
              rw [named] at found
              cases found
          | some level => exact Option.isSome_of_eq_some named
  | setDebugLevel debugLevel =>
      cases debugLevel with
      | typed _ => rfl
      | text s =>
          rcases Results.ok_of_bind called with ⟨d, found, _⟩
          rw [debugLevelFrom_eq] at found
          cases named : debugLevelNamed s with
          | none =>
              rw [named] at found
              cases found
          | some level => exact Option.isSome_of_eq_some named
  | setDisplayHelp displayHelp =>
      cases displayHelp with
      | typed _ => rfl
      | text s =>
          change builder.setDisplayHelpText ext s = .ok next at called
          rw [CoreBuilder.setDisplayHelpText] at called
          cases converted : ext.convertBool s with
          | none =>
              rw [converted] at called
              cases called
          | some d => exact Option.isSome_of_eq_some converted
  | setDisplayVersion displayVersion =>
      cases displayVersion with
      | typed _ => rfl
      | text s =>
          change builder.setDisplayVersionText ext s = .ok next at called
          rw [CoreBuilder.setDisplayVersionText] at called
          cases converted : ext.convertBool s with
          | none =>
              rw [converted] at called
              cases called
          | some v => exact Option.isSome_of_eq_some converted
  | setEpjsUrlPathRegex cses clear => exact regexError_of_foldlM called
  | _ => exact True.intro

theorem ServiceCall.valid_of_ok {builder next : ServiceBuilder} {call : ServiceCall}
    (called : builder.call ext call = .ok next) : call.Valid ext := by
  cases call with
  | core call =>
      rcases Results.ok_of_bind called with ⟨core, inner, _⟩
      exact CoreCall.valid_of_ok inner
  | setNumThreads nt =>
      cases nt with
      | typed _ => rfl
      | text s =>
          rcases Results.ok_of_bind called with ⟨number, converted, _⟩
          exact Option.isSome_of_eq_some (toOption_of_mapError converted)
  | setListenersText l =>
      rcases Results.ok_of_bind called with ⟨conf, parsed, _⟩
      exact Option.isSome_of_eq_some (toOption_of_mapError parsed)
  | setListenersTexts l =>
      rcases Results.ok_of_bind called with ⟨la, parsed, _⟩
      rcases Results.ok_of_collect parsed with ⟨confs, _, each⟩
      refine (Results.filterMap_of_forall₂ (fun text conf parsed => ?_) each).2
      exact toOption_of_mapError parsed
  | _ => exact True.intro

/-- A setter that returns has done what it does for valid values. -/
theorem acts_of_valid {Call Builder : Type} {Setting : Type} [DecidableEq Setting]
    {Value : Setting -> Type} (setters : Setters Call Value Builder Fault)
    {builder next : Builder} {call : Call} (valid : setters.Valid call)
    (called : setters.call builder call = .ok next) :
    setters.values next = (setters.actual call).apply (setters.values builder) := by
  rcases setters.acts builder call valid with ⟨same, again, changed⟩
  cases called.symm.trans again
  exact changed

theorem ServiceBuilder.acts_of_ok (builder next : ServiceBuilder) (call : ServiceCall)
    (called : builder.call ext call = .ok next) :
    next.values = ((serviceCalls ext).actual call).apply builder.values :=
  acts_of_valid (serviceSetters ext) (ServiceCall.valid_of_ok called) called

theorem WcntlCall.valid_of_ok {builder next : WcntlBuilder} {call : WcntlCall}
    (called : builder.call ext call = .ok next) : call.Valid ext := by
  cases call with
  | service call =>
      rcases Results.ok_of_bind called with ⟨service, inner, _⟩
      exact ServiceCall.valid_of_ok inner
  | setWorkerExeUsePath u =>
      cases u with
      | typed _ => rfl
      | text s =>
          change builder.setWorkerExeUsePathText ext s = .ok next at called
          rw [WcntlBuilder.setWorkerExeUsePathText] at called
          cases converted : ext.lexicalBool s with
          | none =>
              rw [converted] at called
              cases called
          | some value => exact Option.isSome_of_eq_some converted
  | setNumWorkers nw =>
      cases nw with
      | typed _ => rfl
      | text s =>
          rcases Results.ok_of_bind called with ⟨number, converted, _⟩
          exact Option.isSome_of_eq_some (toOption_of_mapError converted)
  | _ => exact True.intro

theorem WcntlBuilder.acts_of_ok (builder next : WcntlBuilder) (call : WcntlCall)
    (called : builder.call ext call = .ok next) :
    next.values = ((wcntlCalls ext).actual call).apply builder.values :=
  acts_of_valid (wcntlSetters ext) (WcntlCall.valid_of_ok called) called

theorem ServerBuilder.acts_of_ok (builder next : ServerBuilder) (call : ServerCall)
    (called : builder.call ext call = .ok next) :
    next.values = ((serverCalls ext).actual call).apply builder.values := by
  cases call with
  | service call =>
      rcases Results.ok_of_bind called with ⟨service, inner, whole⟩
      cases whole
      rw [server_actual_service]
      refine Change.eq_lift_apply (fun _ _ same => ServerSetting.service.inj same)
        (congrFun (ServiceBuilder.acts_of_ok _ _ call inner)) fun setting own => ?_
      cases setting with
      | service setting => exact absurd rfl (own setting)
      | backends => rfl
  | setBackendsText l =>
      rcases Results.ok_of_bind called with ⟨c, parsed, whole⟩
      cases whole
      have found : backendOf ext l = some c := toOption_of_mapError parsed
      rw [(serverCalls ext).actual_proper rfl]
      change _ = (ServerCall.named ext _).apply _
      funext setting
      rw [ServerCall.named, found]
      cases setting <;> rfl
  | setBackendsTexts l =>
      rcases Results.ok_of_bind called with ⟨la, parsed, whole⟩
      cases whole
      rcases Results.ok_of_collect parsed with ⟨confs, same, each⟩
      have found : l.filterMap (backendOf ext) = confs := by
        refine (Results.filterMap_of_forall₂ (fun text conf parsed => ?_) each).1
        exact toOption_of_mapError parsed
      rw [(serverCalls ext).actual_proper rfl]
      change _ = (ServerCall.named ext _).apply _
      funext setting
      rw [ServerCall.named, same]
      cases setting with
      | service setting => rfl
      | backends => exact congrArg (builder.backends ++ ·) found.symm

theorem WorkerBuilder.acts_of_ok (builder next : WorkerBuilder) (call : WorkerCall)
    (called : builder.call ext call = .ok next) :
    next.values = ((workerCalls ext).actual call).apply builder.values := by
  cases call with
  | service call =>
      rcases Results.ok_of_bind called with ⟨service, inner, whole⟩
      cases whole
      rw [worker_actual_service]
      refine Change.eq_lift_apply (fun _ _ same => WorkerSetting.service.inj same)
        (congrFun (ServiceBuilder.acts_of_ok _ _ call inner)) fun setting own => ?_
      cases setting with
      | service setting => exact absurd rfl (own setting)
      | controlProtocol => rfl
  | setControlProtocol c =>
      rw [(workerCalls ext).actual_proper rfl]
      change _ = (WorkerCall.named ext _).apply _
      funext setting
      cases c with
      | typed _ =>
          cases called
          cases setting <;> rfl
      | text s =>
          change builder.setControlProtocolText ext s = .ok next at called
          rw [WorkerBuilder.setControlProtocolText] at called
          cases converted : ext.lexicalBool s with
          | none =>
              rw [converted] at called
              cases called
          | some value =>
              rw [converted] at called
              cases called
              have found : (Arg.text s).value? ext.lexicalBool = some value := converted
              rw [WorkerCall.named, found]
              cases setting <;> rfl

end Config

end EasyProspect
